import Boilerplate.Json.Symbol
import Boilerplate.Toml.Basic

/-!
# TOML scalars

Truth values, numbers, dates and times. Digits may be grouped by underscores that have a digit on
either side.
-/

namespace Boilerplate.Toml

/-- The digits of a group, without its underscores. -/
def grouped? (isDigit : Char → Bool) (s : List Char) : Option (List Char) :=
  let ds := s.filter (· != '_')
  let ends := s.head?.any isDigit && s.getLast?.any isDigit
  let doubled := (s.zip (s.drop 1)).any fun p => p.1 == '_' && p.2 == '_'
  if ends && !doubled && ds.all isDigit then some ds else none

def natOfBase (base : Nat) (ds : List Char) : Nat :=
  ds.foldl (fun n c => base * n + (Json.hexValue? c).getD 0) 0

def isHexDigit (c : Char) : Bool :=
  (Json.hexValue? c).isSome

def isOctalDigit (c : Char) : Bool :=
  '0' ≤ c && c ≤ '7'

def isBinaryDigit (c : Char) : Bool :=
  c == '0' || c == '1'

/-- Decimal digits without a zero in front. -/
def decimal? (s : List Char) : Option (List Char) := do
  let ds ← grouped? Notation.isDigit s
  if s.head? = some '0' ∧ s.length ≠ 1 then none else some ds

/-- The integers of 128 bits, those without a sign among them. -/
def isWide (n : Int) : Bool :=
  -0x80000000000000000000000000000000 ≤ n && n < 0x100000000000000000000000000000000

/-- An integer of any size. -/
def unbounded? (s : List Char) : Option Int :=
  match s with
  | '0' :: 'x' :: ds => (grouped? isHexDigit ds).map fun ds => (natOfBase 16 ds : Int)
  | '0' :: 'o' :: ds => (grouped? isOctalDigit ds).map fun ds => (natOfBase 8 ds : Int)
  | '0' :: 'b' :: ds => (grouped? isBinaryDigit ds).map fun ds => (natOfBase 2 ds : Int)
  | s =>
    let (negative, body) := Notation.splitSign s
    (decimal? body).map fun ds =>
      let n := Notation.natOfDigits ds
      if negative then -(n : Int) else n

def integer? (s : List Char) : Option Int :=
  (unbounded? s).filter isWide

def isExponentMark (c : Char) : Bool :=
  c == 'e' || c == 'E'

/-- The exponent part: nothing, or a mark, an optional sign and digits. -/
def exponentPart? (s : List Char) : Option (List Char) :=
  match s with
  | [] => some []
  | _ :: rest =>
    let (negative, body) := Notation.splitSign rest
    (grouped? Notation.isDigit body).map fun ds => 'e' :: (if negative then '-' :: ds else ds)

/-- The fraction part: nothing, or a point and digits. -/
def fractionPart? (s : List Char) : Option (List Char) :=
  match s with
  | [] => some []
  | _ :: rest => (grouped? Notation.isDigit rest).map ('.' :: ·)

/-- A number with a point or an exponent. One too large for a double is refused. -/
def finiteFloat? (negative : Bool) (s : List Char) : Option RealReading := do
  let mantissa := s.takeWhile fun c => !isExponentMark c
  let whole ← decimal? (mantissa.takeWhile (· != '.'))
  let fraction ← fractionPart? (mantissa.dropWhile (· != '.'))
  let exponent ← exponentPart? (s.drop mantissa.length)
  if fraction.isEmpty && exponent.isEmpty then none
  else
    match ← Notation.unsignedReal? negative (whole ++ fraction ++ exponent) with
    | .finite x => some (.finite x)
    | _ => none

def float? (s : List Char) : Option RealReading :=
  let (negative, body) := Notation.splitSign s
  if body = "inf".toList then some (.infinite negative)
  else if body = "nan".toList then some .notANumber
  else finiteFloat? negative body

def scalar? (s : List Char) : Option Toml :=
  if s = "true".toList then some (.boolean true)
  else if s = "false".toList then some (.boolean false)
  else
    match integer? s with
    | some n => some (.integer n)
    | none =>
      match float? s with
      | some x => some (.float x)
      | none => (DateTime.ofText? s).map .dateTime

end Boilerplate.Toml
