import Boilerplate.Number.Binary64

/-!
# Shortest decimal text of a double

Of the decimals that round to a double, the one with the fewest digits is written, and of those the
nearest. A decimal is a coefficient and a power of ten.
-/

namespace Boilerplate

structure Decimal where
  coefficient : Nat
  scale : Int
  deriving DecidableEq, Repr

namespace Binary64

/-- The largest `p` with `10 ^ p` at most the value of a positive magnitude. -/
def decimalOrder (magnitude : Nat) : Int :=
  (digitCount ((magnitude * Nat.pow 10 400) >>> unitPlaces) : Int) - 401

/-- The distance to the double below: half the spacing at a power of two. -/
def spacingBelow (magnitude : Nat) : Nat :=
  if magnitude = 1 <<< magnitude.log2 ∧ 1 < spacing magnitude then spacing magnitude / 2
  else spacing magnitude

/-- Whether the ratio `num / den` of units rounds to the magnitude: the ends of the interval belong
to it exactly when the significand is even. -/
def roundsTo (magnitude num den : Nat) : Bool :=
  let low := 2 * magnitude - spacingBelow magnitude
  let high := 2 * magnitude + spacing magnitude
  if magnitude / spacing magnitude % 2 = 0 then low * den ≤ 2 * num && 2 * num ≤ high * den
  else low * den < 2 * num && 2 * num < high * den

/-- A decimal as a ratio of units. -/
def unitsOf (d : Decimal) : Nat × Nat :=
  if 0 ≤ d.scale then ((d.coefficient * Nat.pow 10 d.scale.toNat) <<< unitPlaces, 1)
  else (d.coefficient <<< unitPlaces, Nat.pow 10 (-d.scale).toNat)

/-- The better of the two decimals around the magnitude on the grid of `10 ^ scale`, if one of them
rounds to it. -/
def onGrid? (magnitude : Nat) (scale : Int) : Option Decimal :=
  let (gridNum, gridDen) := unitsOf ⟨1, scale⟩
  let below := magnitude * gridDen / gridNum
  let hits := fun n => roundsTo magnitude (n * gridNum) gridDen
  let left := magnitude * gridDen - below * gridNum
  let right := (below + 1) * gridNum - magnitude * gridDen
  match hits below, hits (below + 1) with
  | true, true =>
    if left < right ∨ (left = right ∧ below % 2 = 0) then some ⟨below, scale⟩
    else some ⟨below + 1, scale⟩
  | true, false => some ⟨below, scale⟩
  | false, true => some ⟨below + 1, scale⟩
  | false, false => none

/-- Seventeen digits always suffice. -/
def shortest (magnitude : Nat) : Decimal :=
  let order := decimalOrder magnitude
  let grids := (List.range 17).map fun (k : Nat) => order - (k : Int)
  (grids.findSome? (onGrid? magnitude)).getD ⟨0, 0⟩

def digits (n : Nat) : List Char :=
  Nat.toDigits 10 n

/-- Plain notation from `10 ^ -5` up to `10 ^ 16`, with at least one fraction digit; otherwise one
digit before the point and a signed exponent. -/
def magnitudeText (magnitude : Nat) : List Char :=
  if magnitude = 0 then "0.0".toList
  else
    let d := shortest magnitude
    let ds := (digits d.coefficient).reverse.dropWhile (· == '0') |>.reverse
    let order := (digitCount d.coefficient : Int) + d.scale - 1
    if 0 ≤ order ∧ order < 16 then
      let whole := order.toNat + 1
      let padded := ds ++ List.replicate (whole - ds.length) '0'
      let fraction := padded.drop whole
      padded.take whole ++ '.' :: (if fraction.isEmpty then ['0'] else fraction)
    else if -5 ≤ order ∧ order < 0 then
      "0.".toList ++ List.replicate ((-order).toNat - 1) '0' ++ ds
    else
      let sign := if order < 0 then '-' else '+'
      let point := if ds.length = 1 then [] else '.' :: ds.drop 1
      ds.take 1 ++ point ++ 'e' :: sign :: digits order.natAbs

/-- Plain notation throughout, with a point only where there are fraction digits. -/
def plainMagnitude (magnitude : Nat) : List Char :=
  if magnitude = 0 then ['0']
  else
    let d := shortest magnitude
    let ds := (digits d.coefficient).reverse.dropWhile (· == '0') |>.reverse
    let order := (digitCount d.coefficient : Int) + d.scale - 1
    if 0 ≤ order then
      let whole := order.toNat + 1
      let padded := ds ++ List.replicate (whole - ds.length) '0'
      let fraction := padded.drop whole
      padded.take whole ++ (if fraction.isEmpty then [] else '.' :: fraction)
    else "0.".toList ++ List.replicate ((-order).toNat - 1) '0' ++ ds

def plainText (x : Binary64) : String :=
  String.ofList ((if x.negative then ['-'] else []) ++ plainMagnitude x.magnitude)

def text (x : Binary64) : String :=
  String.ofList ((if x.negative then ['-'] else []) ++ magnitudeText x.magnitude)

end Binary64

end Boilerplate
