import Boilerplate.Proofs.Number.Nearest

/-! # Rounding to doubles

A ratio, an integer or a decimal is converted to the double nearest to it, if it is not too large
for one. The sign is kept, that of a zero as well.
-/

namespace Boilerplate.Binary64

section Conversions

variable {negative : Bool} {x y : Binary64} {q : ℚ}

/-- The double nearest to a number of this sign and absolute value. -/
structure Rounds (negative : Bool) (q : ℚ) (x : Binary64) : Prop where
  sign : x.negative = negative
  nearest : IsNearest (q * 2 ^ unitPlaces) x.magnitude
  finite : x.magnitude < limit

theorem Rounds.unique (hx : Rounds negative q x) (hy : Rounds negative q y) : x = y := by
  obtain ⟨_, _⟩ := x
  obtain ⟨_, _⟩ := y
  have hMagnitude := hx.nearest.unique hy.nearest
  obtain rfl := hx.sign
  obtain rfl := hy.sign
  simp_all

theorem Rounds.lt_ceiling (h : Rounds negative q x) : q < ceiling := by
  have hLess := h.nearest.lt_limit_iff.mp h.finite
  exact lt_of_mul_lt_mul_right hLess (by positivity)

theorem Rounds.magnitude_ne_zero (h : Rounds negative q x) (hq : 1 ≤ q) : x.magnitude ≠ 0 := by
  intro hZero
  -- The double of one would be nearer than zero.
  have hUnit : (0 : ℚ) < 2 ^ unitPlaces := by positivity
  have hClosest := h.nearest.closest (2 ^ unitPlaces) ⟨1, by norm_num, unitPlaces, by simp⟩
  have hLarge : 2 ^ unitPlaces ≤ q * 2 ^ unitPlaces := le_mul_of_one_le_left hUnit.le hq
  rw [hZero, Nat.cast_zero, sub_zero, Nat.cast_pow, Nat.cast_ofNat,
    abs_of_nonneg (hUnit.le.trans hLarge), abs_of_nonneg (sub_nonneg.mpr hLarge)] at hClosest
  linarith

/-- Only the zeros are two doubles of one value. -/
theorem sameValue_iff (h : x.magnitude ≠ 0 ∨ y.magnitude ≠ 0) : x.sameValue y = true ↔ x = y := by
  obtain ⟨_, m⟩ := x
  obtain ⟨_, k⟩ := y
  simp only [sameValue, isZero, Bool.and_eq_true, Bool.or_eq_true, beq_iff_eq, mk.injEq] at h ⊢
  constructor
  · rintro ⟨rfl, hZero | hSign⟩
    · omega
    · exact ⟨hSign, rfl⟩
  · rintro ⟨hSign, rfl⟩
    exact ⟨rfl, .inr hSign⟩

/-- What a conversion of a number should give: the nearest double, or nothing if there is none. -/
def Converts (negative : Bool) (q : ℚ) : Option Binary64 → Prop
  | some x => Rounds negative q x
  | none => ceiling ≤ q

theorem converts_of_nearest {m : ℕ} (h : IsNearest (q * 2 ^ unitPlaces) m) :
    Converts negative q (if m < limit then some ⟨negative, m⟩ else none) := by
  split
  next hFinite => exact ⟨rfl, h, hFinite⟩
  next hLarge =>
    rw [h.lt_limit_iff, not_lt] at hLarge
    exact le_of_mul_le_mul_right hLarge (by positivity)

theorem converts_ofRatio? (negative : Bool) (num : ℕ) {den : ℕ} (hDen : 0 < den) :
    Converts negative (num / den) (ofRatio? negative num den) :=
  converts_of_nearest (isNearest_nearestMagnitude num hDen)

theorem converts_ofInt? (n : ℤ) : Converts (n < 0) |(n : ℚ)| (ofInt? n) := by
  have hRatio := converts_ofRatio? (n < 0) n.natAbs one_pos
  rwa [Nat.cast_one, div_one, Nat.cast_natAbs, Int.cast_abs] at hRatio

theorem digitCount_bounds {n : ℕ} (h : 0 < n) :
    10 ^ (digitCount n - 1) ≤ n ∧ n < 10 ^ digitCount n := by
  have hPositive : 0 < digitCount n := Nat.length_toDigits_pos
  constructor
  · by_contra hLess
    by_cases hOne : digitCount n - 1 = 0
    · rw [hOne, pow_zero] at hLess
      omega
    · have hCount := (Nat.length_toDigits_le_iff (by norm_num) (Nat.pos_of_ne_zero hOne)).mpr
        (not_le.mp hLess)
      rw [digitCount] at *
      omega
  · exact (Nat.length_toDigits_le_iff (by norm_num) hPositive).mp le_rfl

/-- A decimal lies between the powers of ten at its first digit. -/
theorem decimal_bounds {n : ℕ} (h : 0 < n) (scale : ℤ) :
    (10 : ℚ) ^ (digitCount n + scale - 1) ≤ n * 10 ^ scale ∧
      (n : ℚ) * 10 ^ scale < 10 ^ (digitCount n + scale) := by
  obtain ⟨hLow, hHigh⟩ := digitCount_bounds h
  have hPositive : 0 < digitCount n := Nat.length_toDigits_pos
  have hScale : (0 : ℚ) < 10 ^ scale := by positivity
  have hTen : (10 : ℚ) ≠ 0 := by norm_num
  constructor
  · have hFirst : ((digitCount n : ℤ) + scale - 1) = (digitCount n - 1 : ℕ) + scale := by omega
    rw [hFirst, zpow_add₀ hTen, zpow_natCast]
    exact mul_le_mul_of_nonneg_right (by exact_mod_cast hLow) hScale.le
  · rw [zpow_add₀ hTen, zpow_natCast]
    exact mul_lt_mul_of_pos_right (by exact_mod_cast hHigh) hScale

/-- A number below `10 ^ -330` is less than half a unit. -/
theorem tiny_of_lt {top : ℤ} (hTop : top < -330) {q : ℚ} (hq : q < 10 ^ top) :
    q * 2 ^ unitPlaces < 1 / 2 := by
  have hPower : (2 : ℚ) ^ (unitPlaces + 1) ≤ 10 ^ 331 := by
    have hNat : 2 ^ (unitPlaces + 1) ≤ 10 ^ 331 := by decide +kernel
    rw [← Nat.cast_le (α := ℚ), Nat.cast_pow, Nat.cast_pow] at hNat
    exact hNat
  have hTen : (10 : ℚ) ^ top ≤ (10 ^ 331)⁻¹ := by
    rw [← zpow_natCast, ← zpow_neg]
    exact zpow_le_zpow_right₀ (by norm_num) (by omega)
  have hUnit : (0 : ℚ) < 2 ^ unitPlaces := by positivity
  have hBound : (0 : ℚ) < 10 ^ 331 := by positivity
  rw [pow_succ] at hPower
  generalize (2 : ℚ) ^ unitPlaces = unit at *
  generalize (10 : ℚ) ^ 331 = bound at *
  calc q * unit < bound⁻¹ * unit := mul_lt_mul_of_pos_right (hq.trans_le hTen) hUnit
    _ ≤ bound⁻¹ * (bound / 2) := mul_le_mul_of_nonneg_left (by linarith) (by positivity)
    _ = 1 / 2 := by field_simp

theorem ceiling_le_of_le {top : ℤ} (hTop : 310 < top) {q : ℚ} (hq : 10 ^ (top - 1) ≤ q) :
    ceiling ≤ q := by
  have hPower : (2 : ℚ) ^ (54 + 970) ≤ 10 ^ 310 := by
    have hNat : 2 ^ (54 + 970) ≤ 10 ^ 310 := by decide +kernel
    rw [← Nat.cast_le (α := ℚ), Nat.cast_pow, Nat.cast_pow] at hNat
    exact hNat
  calc ceiling ≤ 2 ^ 54 * 2 ^ 970 := mul_le_mul_of_nonneg_right (by norm_num) (by positivity)
    _ = 2 ^ (54 + 970) := (pow_add _ _ _).symm
    _ ≤ 10 ^ 310 := hPower
    _ ≤ 10 ^ (top - 1) := by
      rw [← zpow_natCast]
      exact zpow_le_zpow_right₀ (by norm_num) (by omega)
    _ ≤ q := hq

theorem cast_natPow (k : ℕ) : ((Nat.pow 10 k : ℕ) : ℚ) = 10 ^ (k : ℤ) := by
  rw [Nat.pow_eq, Nat.cast_pow, zpow_natCast, Nat.cast_ofNat]

/-- The shortcuts for plainly small and plainly large decimals do not change the result. -/
theorem converts_ofDecimal? (negative : Bool) (digits : ℕ) (scale : ℤ) :
    Converts negative (digits * 10 ^ scale) (ofDecimal? negative digits scale) := by
  rw [ofDecimal?]
  split
  next hSmall =>
    refine ⟨rfl, isNearest_zero (by positivity) ?_, Nat.pos_of_ne_zero (by decide +kernel)⟩
    by_cases hZero : digits = 0
    · norm_num [hZero]
    · have hBounds := decimal_bounds (Nat.pos_of_ne_zero hZero) scale
      exact tiny_of_lt (hSmall.resolve_left hZero) hBounds.2
  next hNotSmall =>
    have hZero : digits ≠ 0 := fun h => hNotSmall (.inl h)
    have hBounds := decimal_bounds (Nat.pos_of_ne_zero hZero) scale
    split
    next hLarge => exact ceiling_le_of_le hLarge hBounds.1
    next =>
      split
      next hScale =>
        have hRatio := converts_ofRatio? negative (digits * Nat.pow 10 scale.toNat) one_pos
        rwa [Nat.cast_one, div_one, Nat.cast_mul, cast_natPow, Int.toNat_of_nonneg hScale] at hRatio
      next hScale =>
        have hPower : 0 < Nat.pow 10 (-scale).toNat := Nat.pow_pos (by norm_num)
        have hRatio := converts_ofRatio? negative digits hPower
        rwa [cast_natPow, Int.toNat_of_nonneg (by omega), div_eq_mul_inv, ← zpow_neg,
          neg_neg] at hRatio

end Conversions

end Boilerplate.Binary64
