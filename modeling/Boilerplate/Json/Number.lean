import Boilerplate.Json.Symbol

/-!
# Numbers of a document

A number without point and exponent that fits 64 bits is an integer, and `-0` is a double. For any
other number the digits are taken into a 64-bit significand as long as they fit; a whole digit
beyond that only adds one to the exponent, a fraction digit beyond it is dropped. The double is the
significand times or divided by a power of ten, each step rounded, so the result may differ from the
nearest double in the last place.
-/

namespace Boilerplate.Json

/-- The largest significand. -/
def significandLimit : Nat := UInt64.size

/-- Takes digits into a significand as long as it stays below the limit; also the digits left. -/
def accumulate (significand : Nat) : List Char → Nat × List Char
  | [] => (significand, [])
  | c :: rest =>
    let next := significand * 10 + Notation.digitValue c
    if next < significandLimit then accumulate next rest else (significand, c :: rest)

/-- The nearest double to `10 ^ n`, for `n` up to 308. -/
def powerOfTen? (n : Nat) : Option Binary64 :=
  Binary64.ofRatio? false (Nat.pow 10 n) 1

/-- Division by `10 ^ n`, in steps of at most 308. -/
def divideByPower (x : Binary64) (n : Nat) : Binary64 :=
  if 308 < n ∧ !x.isZero then
    divideByPower ((powerOfTen? 308 |>.bind x.div?).getD ⟨false, 0⟩) (n - 308)
  else if x.isZero then x
  else (powerOfTen? n |>.bind x.div?).getD ⟨false, 0⟩
termination_by n

/-- `significand * 10 ^ exponent` in steps of doubles, or `none` if it is too large. -/
def scaled? (significand : Nat) (exponent : Int) : Option Binary64 :=
  match Binary64.ofInt? significand with
  | none => none
  | some x =>
    if exponent < 0 then some (divideByPower x exponent.natAbs)
    else if exponent ≤ 308 then (powerOfTen? exponent.toNat).bind x.mul?
    else if x.isZero then some x
    else none

def withSign (negative : Bool) (x : Binary64) : Binary64 :=
  ⟨negative, x.magnitude⟩

/-- The number read as a double. -/
def NumberText.double? (n : NumberText) : Option Binary64 :=
  let (whole, wholeLeft) := accumulate 0 n.whole
  let fraction := n.fraction.getD []
  let (significand, fractionLeft) := accumulate whole fraction
  let shift : Int := wholeLeft.length - (fraction.length - fractionLeft.length : Nat)
  let exponent : Int :=
    match n.exponent with
    | none => 0
    | some (negative, digits) =>
      if negative then -(Notation.natOfDigits digits : Int) else Notation.natOfDigits digits
  (scaled? significand (shift + exponent)).map (withSign n.negative)

/-- The number read as an integer, where it is written as one and fits 64 bits. -/
def NumberText.integer? (n : NumberText) : Option Number :=
  if n.fraction.isSome || n.exponent.isSome then none
  else
    let magnitude := Notation.natOfDigits n.whole
    if n.negative && magnitude = 0 then none
    else Number.ofInt? (if n.negative then -(magnitude : Int) else magnitude)

def NumberText.number? (n : NumberText) : Option Number :=
  match n.integer? with
  | some m => some m
  | none => n.double?.map .float

end Boilerplate.Json
