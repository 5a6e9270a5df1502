import Boilerplate.Number.Binary64

/-!
# Reading decimal notation

An integer is an optional sign and digits. A real number is an optional sign, digits with an
optional point, and an optional exponent, or one of the words for infinity and not-a-number in
either case.
-/

namespace Boilerplate

/-- What a text denotes as a double. -/
inductive RealReading
  | finite (x : Binary64)
  | infinite (negative : Bool)
  | notANumber
  deriving DecidableEq, Repr

namespace Notation

def isDigit (c : Char) : Bool :=
  '0' ≤ c && c ≤ '9'

theorem toNat_lt_of_isDigit {c : Char} (h : isDigit c = true) : c.toNat < 0x80 := by
  rw [isDigit, Bool.and_eq_true, decide_eq_true_eq, decide_eq_true_eq, Char.le_def,
    Char.le_def, UInt32.le_iff_toNat_le, UInt32.le_iff_toNat_le] at h
  have hCode : c.val.toNat = c.toNat := rfl
  simp at h
  omega

def digitValue (c : Char) : Nat :=
  c.toNat - '0'.toNat

/-- The value of a string of digits. -/
def natOfDigits (s : List Char) : Nat :=
  s.foldl (fun n c => 10 * n + digitValue c) 0

def splitSign : List Char → Bool × List Char
  | '-' :: rest => (true, rest)
  | '+' :: rest => (false, rest)
  | s => (false, s)

def isDigits (s : List Char) : Bool :=
  !s.isEmpty && s.all isDigit

def integer? (s : List Char) : Option Int :=
  let (negative, body) := splitSign s
  if isDigits body then
    some (if negative then -(natOfDigits body : Int) else natOfDigits body)
  else none

/-- The exponent part: nothing, or `e`, an optional sign and digits. -/
def exponent? : List Char → Option Int
  | [] => some 0
  | c :: rest => if c == 'e' || c == 'E' then integer? rest else none

def fraction (s : List Char) : List Char × List Char :=
  match s with
  | '.' :: rest => (rest.takeWhile isDigit, rest.dropWhile isDigit)
  | _ => ([], s)

/-- A real number without its sign. -/
def unsignedReal? (negative : Bool) (s : List Char) : Option RealReading :=
  let word := s.map Char.toLower
  if word == "inf".toList || word == "infinity".toList then some (.infinite negative)
  else if word == "nan".toList then some .notANumber
  else
    let whole := s.takeWhile isDigit
    let (places, rest) := fraction (s.dropWhile isDigit)
    if whole.isEmpty && places.isEmpty then none
    else (exponent? rest).map fun e =>
      match Binary64.ofDecimal? negative (natOfDigits (whole ++ places)) (e - places.length) with
      | some x => .finite x
      | none => .infinite negative

def real? (s : List Char) : Option RealReading :=
  let (negative, body) := splitSign s
  unsignedReal? negative body

end Notation

end Boilerplate
