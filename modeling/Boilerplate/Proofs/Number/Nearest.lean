import Mathlib.Algebra.Order.Field.Basic
import Mathlib.Algebra.Order.Field.Power
import Mathlib.Algebra.Order.Field.Rat
import Mathlib.Data.Nat.Cast.Order.Field
import Mathlib.Tactic.FieldSimp
import Mathlib.Tactic.Linarith
import Mathlib.Tactic.NormNum
import Mathlib.Tactic.Positivity
import Mathlib.Tactic.Ring
import Boilerplate.Number.Binary64

/-! # Nearest magnitudes

A ratio is rounded to a magnitude that no other one is nearer to, and to the even one where two are
as near. There is one such magnitude. It is beyond the doubles from halfway between the largest
double and the next power of two on.
-/

namespace Boilerplate.Binary64

/-- Fifty-three binary digits at some place. -/
def IsRounded (m : ℕ) : Prop :=
  ∃ s < 2 ^ 53, ∃ e, m = s * 2 ^ e

/-- The last of the fifty-three digits is zero. -/
def EndsEven (m : ℕ) : Prop :=
  ∃ s < 2 ^ 52, ∃ e, m = s * 2 ^ (e + 1)

/-- The magnitude nearest to `v` units, the even one of two. -/
structure IsNearest (v : ℚ) (m : ℕ) : Prop where
  isRounded : IsRounded m
  closest : ∀ k, IsRounded k → |v - m| ≤ |v - k|
  endsEven : ∀ k, IsRounded k → k ≠ m → |v - k| = |v - m| → EndsEven m

section Quotients

variable {num den : ℕ}

theorem div_eq_add_mod_div (num : ℕ) (hDen : 0 < den) :
    (num : ℚ) / den = (num / den : ℕ) + (num % den : ℕ) / den := by
  have hSplit : (num : ℚ) = den * (num / den : ℕ) + (num % den : ℕ) := by
    exact_mod_cast (Nat.div_add_mod num den).symm
  have hPositive : (0 : ℚ) < den := by exact_mod_cast hDen
  field_simp
  linarith

/-- The quotient is off by a half at most, and then even. -/
theorem roundQuotient_near (num : ℕ) (hDen : 0 < den) :
    |(num : ℚ) / den - roundQuotient num den| ≤ 1 / 2 ∧
      (|(num : ℚ) / den - roundQuotient num den| = 1 / 2 → Even (roundQuotient num den)) := by
  have hPositive : (0 : ℚ) < den := by exact_mod_cast hDen
  have hBelow : (0 : ℚ) ≤ (num % den : ℕ) / den := by positivity
  have hAbove : ((num % den : ℕ) : ℚ) / den < 1 := by
    rw [div_lt_one hPositive]
    exact_mod_cast Nat.mod_lt num hDen
  have hSmaller : 2 * (num % den) < den ↔ ((num % den : ℕ) : ℚ) / den < 1 / 2 := by
    rw [div_lt_div_iff₀ hPositive two_pos, mul_comm, one_mul]
    exact_mod_cast Iff.rfl
  have hLarger : den < 2 * (num % den) ↔ 1 / 2 < ((num % den : ℕ) : ℚ) / den := by
    rw [div_lt_div_iff₀ two_pos hPositive, mul_comm _ (2 : ℚ), one_mul]
    exact_mod_cast Iff.rfl
  rw [div_eq_add_mod_div num hDen, roundQuotient]
  generalize ((num % den : ℕ) : ℚ) / den = part at *
  simp only [hSmaller, hLarger]
  split
  next hSmall =>
    rw [add_sub_cancel_left, abs_of_nonneg hBelow]
    exact ⟨hSmall.le, fun hHalf => absurd hHalf hSmall.ne⟩
  next hNotSmall =>
    have hUp : ((num / den : ℕ) : ℚ) + part - (num / den + 1 : ℕ) = part - 1 := by
      push_cast
      ring
    split
    next hLarge =>
      rw [hUp, abs_of_neg (by linarith)]
      exact ⟨by linarith, fun hHalf => by linarith⟩
    next hNotLarge =>
      have hHalf : part = 1 / 2 := le_antisymm (not_lt.mp hNotLarge) (not_lt.mp hNotSmall)
      split
      next hEven =>
        rw [add_sub_cancel_left, hHalf]
        exact ⟨by norm_num, fun _ => Nat.even_iff.mpr hEven⟩
      next hOdd =>
        rw [hUp, hHalf]
        exact ⟨by norm_num, fun _ => Nat.even_iff.mpr (by omega)⟩

/-- A natural number within a half is the nearest one, and another one as near leaves a half. -/
theorem nearest_of_half {w : ℚ} {r : ℕ} (h : |w - r| ≤ 1 / 2) (j : ℕ) :
    |w - r| ≤ |w - j| ∧ (j ≠ r → |w - j| = |w - r| → |w - r| = 1 / 2) := by
  by_cases hSame : j = r
  · subst hSame
    exact ⟨le_rfl, fun hOther => absurd rfl hOther⟩
  · have hApart : (1 : ℚ) ≤ |(r : ℚ) - j| := by
      have hInt : (1 : ℤ) ≤ |(r : ℤ) - j| := Int.one_le_abs (by omega)
      exact_mod_cast hInt
    have hTriangle := abs_sub_le (r : ℚ) w j
    rw [abs_sub_comm (r : ℚ) w] at hTriangle
    exact ⟨by linarith, fun _ hTie => by linarith⟩

end Quotients

section Grids

variable {v : ℚ} {m n k r p : ℕ}

/-- A rounded magnitude lies on the grid of a place unless it is below the numbers whose first digit
is that of the grid. -/
theorem IsRounded.on_grid (h : IsRounded m) (p : ℕ) :
    (∃ j, m = j * 2 ^ p) ∨ 0 < p ∧ m < 2 ^ 52 * 2 ^ p := by
  obtain ⟨s, hs, e, rfl⟩ := h
  by_cases hPlace : p ≤ e
  · refine .inl ⟨s * 2 ^ (e - p), ?_⟩
    rw [mul_assoc, ← pow_add, Nat.sub_add_cancel hPlace]
  · refine .inr ⟨by omega, ?_⟩
    calc s * 2 ^ e < 2 ^ 53 * 2 ^ e := Nat.mul_lt_mul_of_pos_right hs (Nat.two_pow_pos e)
      _ = 2 ^ 52 * 2 ^ (e + 1) := by ring
      _ ≤ 2 ^ 52 * 2 ^ p := Nat.mul_le_mul_left _ (Nat.pow_le_pow_right two_pos (by omega))

theorem isRounded_of_le (h : r ≤ 2 ^ 53) (p : ℕ) : IsRounded (r * 2 ^ p) := by
  obtain hLess | rfl := Nat.lt_or_eq_of_le h
  · exact ⟨r, hLess, p, rfl⟩
  · exact ⟨2 ^ 52, by norm_num, p + 1, by ring⟩

theorem endsEven_of_even (h : r ≤ 2 ^ 53) (hEven : Even r) (p : ℕ) : EndsEven (r * 2 ^ p) := by
  obtain ⟨s, rfl⟩ := hEven
  by_cases hLess : s < 2 ^ 52
  · exact ⟨s, hLess, p, by ring⟩
  · have hTop : s = 2 ^ 52 := by omega
    exact ⟨2 ^ 51, by norm_num, p + 1, by rw [hTop]; ring⟩

/-- To round to a grid that is fine enough is to round to the nearest magnitude. -/
theorem isNearest_of_grid (hFine : p = 0 ∨ 2 ^ 52 ≤ v / 2 ^ p) (hDigits : r ≤ 2 ^ 53)
    (hNear : |v / 2 ^ p - r| ≤ 1 / 2) (hTie : |v / 2 ^ p - r| = 1 / 2 → Even r) :
    IsNearest v (r * 2 ^ p) := by
  have hStep : (0 : ℚ) < 2 ^ p := by positivity
  have hScaled : ∀ j : ℕ, |v - (j * 2 ^ p : ℕ)| = |v / 2 ^ p - j| * 2 ^ p := by
    intro j
    have hDiff : v - (j * 2 ^ p : ℕ) = (v / 2 ^ p - j) * 2 ^ p := by
      push_cast
      field_simp
    rw [hDiff, abs_mul, abs_of_pos hStep]
  have hBelow : ∀ k : ℕ, 0 < p → k < 2 ^ 52 * 2 ^ p → |v - (r * 2 ^ p : ℕ)| < |v - k| := by
    intro k hPlace hk
    have hv : (2 ^ 52 * 2 ^ p : ℕ) ≤ v := by
      have hFirst := hFine.resolve_left hPlace.ne'
      rw [le_div_iff₀ hStep] at hFirst
      exact_mod_cast hFirst
    have hk : (k : ℚ) < (2 ^ 52 * 2 ^ p : ℕ) := by exact_mod_cast hk
    have hFirst := (nearest_of_half hNear (2 ^ 52)).1
    rw [← mul_le_mul_iff_of_pos_right hStep, ← hScaled, ← hScaled] at hFirst
    rw [abs_of_nonneg (sub_nonneg.mpr hv)] at hFirst
    rw [abs_of_nonneg (by linarith : 0 ≤ v - k)]
    linarith
  refine ⟨isRounded_of_le hDigits p, ?_, ?_⟩
  · intro k hk
    obtain ⟨j, rfl⟩ | ⟨hPlace, hLess⟩ := hk.on_grid p
    · rw [hScaled, hScaled, mul_le_mul_iff_of_pos_right hStep]
      exact (nearest_of_half hNear j).1
    · exact (hBelow k hPlace hLess).le
  · intro k hk hOther hSame
    obtain ⟨j, rfl⟩ | ⟨hPlace, hLess⟩ := hk.on_grid p
    · rw [hScaled, hScaled, mul_left_inj' hStep.ne'] at hSame
      have hIndex : j ≠ r := fun h => hOther (h ▸ rfl)
      exact endsEven_of_even hDigits (hTie ((nearest_of_half hNear j).2 hIndex hSame)) p
    · exact absurd hSame (hBelow k hPlace hLess).ne'

theorem spacing_eq (m : ℕ) : spacing m = 2 ^ (m.log2 - 52) := by
  rw [spacing, Nat.one_shiftLeft]

/-- The grid that the spacing at the whole part of a number gives is fine enough for it, and has no
more than fifty-three digits. -/
theorem digits_of_spacing (hWhole : k ≤ v) (hPart : v < k + 1) :
    (k.log2 - 52 = 0 ∨ 2 ^ 52 ≤ v / 2 ^ (k.log2 - 52)) ∧ v / 2 ^ (k.log2 - 52) < 2 ^ 53 := by
  have hStep : (0 : ℚ) < 2 ^ (k.log2 - 52) := by positivity
  constructor
  · by_cases hPlace : k.log2 - 52 = 0
    · exact .inl hPlace
    · right
      have hFirst : 2 ^ 52 * 2 ^ (k.log2 - 52) ≤ k := by
        rw [← pow_add, Nat.add_sub_cancel' (by omega)]
        apply Nat.log2_self_le
        rintro rfl
        exact hPlace rfl
      rw [le_div_iff₀ hStep]
      calc (2 ^ 52 * 2 ^ (k.log2 - 52) : ℚ) ≤ k := by exact_mod_cast hFirst
        _ ≤ v := hWhole
  · have hLast : k + 1 ≤ 2 ^ 53 * 2 ^ (k.log2 - 52) := by
      rw [← pow_add]
      calc k + 1 ≤ 2 ^ (k.log2 + 1) := Nat.lt_log2_self
        _ ≤ 2 ^ (53 + (k.log2 - 52)) := Nat.pow_le_pow_right two_pos (by omega)
    rw [div_lt_iff₀ hStep]
    calc v < k + 1 := hPart
      _ ≤ 2 ^ 53 * 2 ^ (k.log2 - 52) := by exact_mod_cast hLast

theorem roundQuotient_le {num den : ℕ} (hDen : 0 < den) (h : (num : ℚ) / den < n) :
    roundQuotient num den ≤ n := by
  have hNear := abs_le.mp (roundQuotient_near num hDen).1
  have hLess : (roundQuotient num den : ℚ) < n + 1 := by linarith
  exact Nat.lt_succ_iff.mp (by exact_mod_cast hLess)

theorem isNearest_nearestMagnitude (num : ℕ) {den : ℕ} (hDen : 0 < den) :
    IsNearest ((num : ℚ) / den * 2 ^ unitPlaces) (nearestMagnitude num den) := by
  have hPositive : (0 : ℚ) < den := by exact_mod_cast hDen
  have hUnits : (num : ℚ) / den * 2 ^ unitPlaces = (num <<< unitPlaces : ℕ) / den := by
    rw [Nat.shiftLeft_eq]
    push_cast
    ring
  rw [nearestMagnitude, hUnits]
  generalize num <<< unitPlaces = scaled
  have hWhole : ((scaled / den : ℕ) : ℚ) ≤ scaled / den := Nat.cast_div_le
  have hPart : (scaled : ℚ) / den < (scaled / den : ℕ) + 1 := by
    rw [div_lt_iff₀ hPositive]
    exact_mod_cast Nat.mul_comm den _ ▸ Nat.lt_mul_div_succ scaled hDen
  obtain ⟨hFine, hDigits⟩ := digits_of_spacing hWhole hPart
  simp only [spacing_eq]
  generalize (scaled / den).log2 - 52 = p at *
  have hScaled : (scaled : ℚ) / den / 2 ^ p = scaled / (den * 2 ^ p : ℕ) := by
    push_cast
    rw [div_div]
  have hGrid : 0 < den * 2 ^ p := Nat.mul_pos hDen (Nat.two_pow_pos p)
  obtain ⟨hNear, hTie⟩ := roundQuotient_near scaled hGrid
  rw [hScaled] at hFine hDigits
  refine isNearest_of_grid (hScaled ▸ hFine) (roundQuotient_le hGrid (by exact_mod_cast hDigits)) ?_
    ?_
  · rwa [hScaled]
  · rwa [hScaled]

end Grids

section Nearest

variable {v : ℚ} {m n : ℕ}

/-- Between two different magnitudes with an even end there is a third one. -/
theorem exists_between (hm : EndsEven m) (hn : EndsEven n) (hLess : m < n) :
    ∃ k, IsRounded k ∧ m < k ∧ k < n := by
  obtain ⟨s, hs, e, rfl⟩ := hm
  obtain ⟨t, ht, f, rfl⟩ := hn
  by_cases hPlace : e ≤ f
  · have hSplit : t * 2 ^ (f + 1) = t * 2 ^ (f - e) * 2 ^ (e + 1) := by
      rw [mul_assoc, ← pow_add, show f - e + (e + 1) = f + 1 by omega]
    rw [hSplit] at hLess ⊢
    have hNext : (s + 1) * 2 ^ (e + 1) ≤ t * 2 ^ (f - e) * 2 ^ (e + 1) :=
      Nat.mul_le_mul_right _ (Nat.lt_of_mul_lt_mul_right hLess)
    have hUnit := Nat.two_pow_pos e
    refine ⟨(2 * s + 1) * 2 ^ e, ⟨_, by omega, e, rfl⟩, ?_, ?_⟩
    · rw [pow_succ] at *
      linarith
    · rw [pow_succ] at *
      linarith
  · have hSplit : s * 2 ^ (e + 1) = s * 2 ^ (e - f) * 2 ^ (f + 1) := by
      rw [mul_assoc, ← pow_add, show e - f + (f + 1) = e + 1 by omega]
    rw [hSplit] at hLess ⊢
    have hIndex : s * 2 ^ (e - f) + 1 ≤ t := Nat.lt_of_mul_lt_mul_right hLess
    obtain ⟨u, rfl⟩ : ∃ u, t = u + 1 := ⟨t - 1, by omega⟩
    have hPrevious : s * 2 ^ (e - f) * 2 ^ (f + 1) ≤ u * 2 ^ (f + 1) :=
      Nat.mul_le_mul_right _ (by omega)
    have hUnit := Nat.two_pow_pos f
    refine ⟨(2 * u + 1) * 2 ^ f, ⟨_, by omega, f, rfl⟩, ?_, ?_⟩
    · rw [pow_succ] at *
      linarith
    · rw [pow_succ] at *
      linarith

theorem IsNearest.not_lt (hm : IsNearest v m) (hn : IsNearest v n) : ¬ m < n := by
  intro hLess
  have hSame : |v - m| = |v - n| :=
    le_antisymm (hm.closest n hn.isRounded) (hn.closest m hm.isRounded)
  have hLess' : (m : ℚ) < n := by exact_mod_cast hLess
  have hMiddle : v = (m + n) / 2 := by
    obtain hEqual | hOpposite := abs_eq_abs.mp hSame
    · linarith
    · linarith
  obtain ⟨k, hk, hAbove, hBelow⟩ := exists_between (hm.endsEven n hn.isRounded hLess.ne' hSame.symm)
    (hn.endsEven m hm.isRounded hLess.ne hSame) hLess
  have hAbove : (m : ℚ) < k := by exact_mod_cast hAbove
  have hBelow : (k : ℚ) < n := by exact_mod_cast hBelow
  have hFar := hm.closest k hk
  rw [hMiddle, abs_of_pos (by linarith : (0 : ℚ) < (m + n) / 2 - m), le_abs] at hFar
  obtain hFar | hFar := hFar
  · linarith
  · linarith

theorem IsNearest.unique (hm : IsNearest v m) (hn : IsNearest v n) : m = n :=
  Nat.le_antisymm (Nat.le_of_not_lt (hn.not_lt hm)) (Nat.le_of_not_lt (hm.not_lt hn))

theorem IsRounded.le_last (h : IsRounded m) {p : ℕ} (hLess : m < 2 ^ 53 * 2 ^ p) :
    m ≤ (2 ^ 53 - 1) * 2 ^ p := by
  obtain ⟨j, rfl⟩ | ⟨-, hBelow⟩ := h.on_grid p
  · exact Nat.mul_le_mul_right _ (Nat.le_sub_one_of_lt (Nat.lt_of_mul_lt_mul_right hLess))
  · exact hBelow.le.trans (Nat.mul_le_mul_right _ (by norm_num))

theorem not_endsEven_last (p : ℕ) : ¬ EndsEven ((2 ^ 53 - 1) * 2 ^ p) := by
  rintro ⟨s, hs, e, hLast⟩
  by_cases hPlace : e < p
  · have hLess : s * 2 ^ (e + 1) < (2 ^ 53 - 1) * 2 ^ p :=
      calc s * 2 ^ (e + 1) ≤ s * 2 ^ p :=
            Nat.mul_le_mul_left _ (Nat.pow_le_pow_right two_pos hPlace)
        _ < (2 ^ 53 - 1) * 2 ^ p :=
            Nat.mul_lt_mul_of_pos_right (hs.trans (by norm_num)) (Nat.two_pow_pos p)
    exact hLess.ne' hLast
  · have hSplit : s * 2 ^ (e + 1) = s * 2 ^ (e - p) * 2 * 2 ^ p := by
      rw [mul_assoc, mul_assoc, ← pow_succ', ← pow_add, show e - p + (p + 1) = e + 1 by omega]
    rw [hSplit] at hLast
    have hOdd := Nat.eq_of_mul_eq_mul_right (Nat.two_pow_pos p) hLast
    omega

/-- What is nearest to a number stays below a power of two just when the number stays below the
middle between that power and the last magnitude in front of it. -/
theorem IsNearest.lt_power_iff (h : IsNearest v m) (p : ℕ) :
    m < 2 ^ 53 * 2 ^ p ↔ v < (2 ^ 54 - 1) * 2 ^ p / 2 := by
  have hPower : IsRounded (2 ^ 53 * 2 ^ p) := isRounded_of_le le_rfl p
  have hLast : IsRounded ((2 ^ 53 - 1) * 2 ^ p) := isRounded_of_le (by norm_num) p
  have hMiddle : 2 * ((2 ^ 54 - 1) * 2 ^ p / 2 : ℚ) =
      ((2 ^ 53 - 1) * 2 ^ p : ℕ) + (2 ^ 53 * 2 ^ p : ℕ) := by
    push_cast
    ring
  have hOrder : (((2 ^ 53 - 1) * 2 ^ p : ℕ) : ℚ) < (2 ^ 53 * 2 ^ p : ℕ) := by
    exact_mod_cast Nat.mul_lt_mul_of_pos_right (by norm_num) (Nat.two_pow_pos p)
  have hOdd := not_endsEven_last p
  have hBelow : m < 2 ^ 53 * 2 ^ p → m ≤ (2 ^ 53 - 1) * 2 ^ p := h.isRounded.le_last
  generalize 2 ^ 53 * 2 ^ p = power at *
  generalize (2 ^ 53 - 1) * 2 ^ p = last at *
  generalize ((2 ^ 54 - 1) * 2 ^ p / 2 : ℚ) = middle at *
  constructor
  · intro hm
    have hLow : (m : ℚ) ≤ last := by exact_mod_cast hBelow hm
    by_contra hLarge
    have hDistance : |v - m| = v - m := abs_of_nonneg (by linarith)
    have hNear := h.closest power hPower
    rw [hDistance, le_abs] at hNear
    obtain hNear | hNear := hNear
    · linarith
    · have hSame : m = last := by exact_mod_cast (by linarith : (m : ℚ) = last)
      have hTie : |v - power| = |v - m| := by
        rw [hDistance, abs_of_nonpos (by linarith)]
        linarith
      exact hOdd (hSame ▸ h.endsEven power hPower hm.ne' hTie)
  · intro hv
    by_contra hm
    have hHigh : (power : ℚ) ≤ m := by exact_mod_cast Nat.le_of_not_lt hm
    have hNear := h.closest last hLast
    rw [abs_of_neg (by linarith : v - m < 0), le_abs] at hNear
    obtain hNear | hNear := hNear
    · linarith
    · linarith

/-- From here on numbers are too large for a double: the middle between the largest double and the
next power of two. -/
def ceiling : ℚ :=
  (2 ^ 54 - 1) * 2 ^ 970

theorem limit_eq : limit = 2 ^ 53 * 2 ^ (unitPlaces + 971) := by
  have hPlaces : unitPlaces + 1024 = 53 + (unitPlaces + 971) := by omega
  calc limit = 2 ^ (unitPlaces + 1024) := Nat.one_shiftLeft _
    _ = 2 ^ (53 + (unitPlaces + 971)) := congrArg _ hPlaces
    _ = 2 ^ 53 * 2 ^ (unitPlaces + 971) := pow_add _ _ _

theorem IsNearest.lt_limit_iff (h : IsNearest v m) :
    m < limit ↔ v < ceiling * 2 ^ unitPlaces := by
  have hCeiling : (2 ^ 54 - 1) * 2 ^ (unitPlaces + 971) / 2 = ceiling * 2 ^ unitPlaces := by
    rw [ceiling, pow_add, pow_succ _ 970]
    generalize (2 : ℚ) ^ 970 = power
    ring
  rw [limit_eq, h.lt_power_iff, hCeiling]

theorem isNearest_zero (hLow : 0 ≤ v) (hHigh : v < 1 / 2) : IsNearest v 0 := by
  have hNear : |v / 2 ^ 0 - (0 : ℕ)| < 1 / 2 := by
    rw [pow_zero, div_one, Nat.cast_zero, sub_zero, abs_of_nonneg hLow]
    exact hHigh
  exact isNearest_of_grid (p := 0) (.inl rfl) (Nat.zero_le _) hNear.le fun h => absurd h hNear.ne

end Nearest

end Boilerplate.Binary64
