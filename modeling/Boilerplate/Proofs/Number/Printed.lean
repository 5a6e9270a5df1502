import Boilerplate.Number.Notation

/-! # Printed integers

An integer is printed in digits, with a sign in front of them if it is negative, and is read back
from what is printed.
-/

namespace Boilerplate.Notation

theorem isDigit_of_mem_toDigits {n : Nat} {c : Char} (h : c ∈ Nat.toDigits 10 n) :
    isDigit c = true := by
  have hDigit := Nat.isDigit_of_mem_toDigits (by decide) (by decide) h
  simpa [Char.isDigit, isDigit, Char.le_def] using hDigit

theorem exists_digit_cons (n : Nat) :
    ∃ c cs, Nat.toDigits 10 n = c :: cs ∧ isDigit c = true := by
  obtain ⟨c, cs, hCons⟩ := List.exists_cons_of_ne_nil (Nat.toDigits_ne_nil (n := n) (b := 10))
  exact ⟨c, cs, hCons, isDigit_of_mem_toDigits (hCons ▸ List.mem_cons_self)⟩

theorem natOfDigits_toDigits (n : Nat) : natOfDigits (Nat.toDigits 10 n) = n := by
  have h := Nat.ofDigitChars_ten_toDigits (n := n)
  rwa [Nat.ofDigitChars_eq_foldl] at h

/-- Digits, with a sign in front of them if the integer is negative. -/
theorem toList_toString (n : Int) : (toString n).toList =
    if n < 0 then '-' :: Nat.toDigits 10 n.natAbs else Nat.toDigits 10 n.natAbs := by
  cases n with
  | ofNat m =>
    rw [if_neg (by simp), Int.toString_eq_repr, Int.repr, Nat.toList_repr]
    rfl
  | negSucc m =>
    rw [if_pos (Int.negSucc_lt_zero m), Int.toString_eq_repr, Int.repr, String.toList_append,
      Nat.toList_repr]
    rfl

theorem toString_starts (n : Int) :
    ∃ c s, (toString n).toList = c :: s ∧ (c = '-' ∨ isDigit c = true) := by
  obtain ⟨c, cs, hCons, hDigit⟩ := exists_digit_cons n.natAbs
  rw [toList_toString]
  split
  · exact ⟨'-', _, rfl, .inl rfl⟩
  · exact ⟨c, cs, hCons, .inr hDigit⟩

theorem isDigits_toDigits (n : Nat) : isDigits (Nat.toDigits 10 n) = true := by
  rw [isDigits, Bool.and_eq_true, Bool.not_eq_true', List.isEmpty_eq_false_iff,
    List.all_eq_true]
  exact ⟨Nat.toDigits_ne_nil, fun c hc => isDigit_of_mem_toDigits hc⟩

theorem splitSign_toDigits (n : Nat) :
    splitSign (Nat.toDigits 10 n) = (false, Nat.toDigits 10 n) := by
  obtain ⟨c, cs, hCons, hDigit⟩ := exists_digit_cons n
  rw [hCons]
  apply splitSign.eq_3
  · rintro rest hSign
    obtain ⟨rfl, -⟩ := List.cons.inj hSign
    exact absurd hDigit (by decide)
  · rintro rest hSign
    obtain ⟨rfl, -⟩ := List.cons.inj hSign
    exact absurd hDigit (by decide)

theorem integer?_toString (n : Int) : integer? (toString n).toList = some n := by
  rw [toList_toString]
  by_cases hNegative : n < 0
  · rw [if_pos hNegative, integer?]
    simp only [splitSign, isDigits_toDigits, natOfDigits_toDigits, if_true]
    exact congrArg some (by omega)
  · rw [if_neg hNegative, integer?]
    simp only [splitSign_toDigits, isDigits_toDigits, natOfDigits_toDigits, if_true,
      Bool.false_eq_true, if_false]
    exact congrArg some (by omega)

end Boilerplate.Notation
