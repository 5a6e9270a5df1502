/-!
# Finite double-precision numbers

The magnitude of a finite double is a natural number of units of `2 ^ -1074`, the least positive
double. Arithmetic is exact arithmetic on naturals followed by one rounding to the nearest double,
ties to the even one. Infinities and not-a-number are left out: a result too large is `none`.
-/

namespace Boilerplate

structure Binary64 where
  negative : Bool
  magnitude : Nat
  deriving DecidableEq, Repr

namespace Binary64

/-- Binary places of a unit. -/
def unitPlaces : Nat := 1074

/-- The first magnitude beyond the doubles, that of `2 ^ 1024`. -/
def limit : Nat := 1 <<< (unitPlaces + 1024)

/-- The quotient to the nearest natural number, a tie to the even one. -/
def roundQuotient (num den : Nat) : Nat :=
  let q := num / den
  let r := num % den
  if 2 * r < den then q
  else if den < 2 * r then q + 1
  else if q % 2 = 0 then q else q + 1

/-- The distance of neighbouring doubles at a magnitude. -/
def spacing (magnitude : Nat) : Nat :=
  1 <<< (magnitude.log2 - 52)

/-- The magnitude nearest to the ratio of two naturals. -/
def nearestMagnitude (num den : Nat) : Nat :=
  let scaled := num <<< unitPlaces
  let step := spacing (scaled / den)
  roundQuotient scaled (den * step) * step

def ofRatio? (negative : Bool) (num den : Nat) : Option Binary64 :=
  let m := nearestMagnitude num den
  if m < limit then some ⟨negative, m⟩ else none

def ofInt? (n : Int) : Option Binary64 :=
  ofRatio? (n < 0) n.natAbs 1

def mul? (x y : Binary64) : Option Binary64 :=
  ofRatio? (x.negative != y.negative) (x.magnitude * y.magnitude) (1 <<< (2 * unitPlaces))

/-- The quotient; the divisor is not zero. -/
def div? (x y : Binary64) : Option Binary64 :=
  ofRatio? (x.negative != y.negative) x.magnitude y.magnitude

def isZero (x : Binary64) : Bool :=
  x.magnitude == 0

/-- Equality of values: the two zeros are equal. -/
def sameValue (x y : Binary64) : Bool :=
  x.magnitude == y.magnitude && (x.isZero || x.negative == y.negative)

/-- The number of decimal digits, one for zero. -/
def digitCount (n : Nat) : Nat :=
  (Nat.toDigits 10 n).length

/-- The double nearest to `digits * 10 ^ scale`. Scales at which the answer is plainly zero or too
large are settled without the power. -/
def ofDecimal? (negative : Bool) (digits : Nat) (scale : Int) : Option Binary64 :=
  let top := (digitCount digits : Int) + scale
  if digits = 0 ∨ top < -330 then some ⟨negative, 0⟩
  else if 310 < top then none
  else if 0 ≤ scale then ofRatio? negative (digits * Nat.pow 10 scale.toNat) 1
  else ofRatio? negative digits (Nat.pow 10 (-scale).toNat)

end Binary64

end Boilerplate
