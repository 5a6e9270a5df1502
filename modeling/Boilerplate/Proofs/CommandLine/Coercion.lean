import Boilerplate.CommandLine.Values
import Boilerplate.Proofs.Number.Numerals

/-! # Numbers of assignments

The text of an assignment to a number is read as the number that it stands for: a signed word as
itself, any other decimal as the nearest double. Texts without a number are refused, but for those
that are known to have none: an infinity, what is no number, and a decimal too large for a double
are read as zero.
-/

namespace Boilerplate.CommandLine

open Notation

inductive StandsFor (s : List Char) : Number → Prop
  | word {n : ℤ} {inRange : WordRange n} : IsInteger s n → Number.isSigned n = true →
      StandsFor s (.integer n inRange)
  | double {negative : Bool} {q : ℚ} {x : Binary64} : IsDecimal s negative q →
      (∀ n, IsInteger s n → Number.isSigned n = false) → x.Rounds negative q →
      StandsFor s (.float x)

/-- The text stands for something that no double holds. -/
inductive IsUnbounded (s : List Char) : Prop
  | tooLarge {negative : Bool} {q : ℚ} : IsDecimal s negative q → Binary64.ceiling ≤ q →
      IsUnbounded s
  | infinity {negative : Bool} : IsInfinity s negative → IsUnbounded s
  | notANumber : IsNotANumber s → IsUnbounded s

variable {s : List Char} {n : Number}

theorem isUnbounded_iff : IsUnbounded s ↔ ∃ r, real? s = some r ∧ ∀ x, r ≠ .finite x := by
  simp only [real?_eq_some_iff]
  constructor
  · intro h
    cases h with
    | tooLarge hDecimal hLarge => exact ⟨_, .tooLarge hDecimal hLarge, nofun⟩
    | infinity hWord => exact ⟨_, .infinite hWord, nofun⟩
    | notANumber hWord => exact ⟨_, .notANumber hWord, nofun⟩
  · rintro ⟨r, hDenotes, hOther⟩
    cases hDenotes with
    | finite => exact absurd rfl (hOther _)
    | tooLarge hDecimal hLarge => exact .tooLarge hDecimal hLarge
    | infinite hWord => exact .infinity hWord
    | notANumber hWord => exact .notANumber hWord

theorem not_isUnbounded_of_lt {negative : Bool} {q : ℚ} (h : IsDecimal s negative q)
    (hSmall : q < Binary64.ceiling) : ¬ IsUnbounded s := by
  intro hUnbounded
  obtain ⟨r, hRead, hOther⟩ := isUnbounded_iff.mp hUnbounded
  obtain ⟨x, hRounds⟩ := h.exists_rounds hSmall
  rw [real?_eq_some_iff.mpr (.finite h hRounds)] at hRead
  exact hOther x (Option.some.inj hRead).symm

theorem not_isUnbounded_of_word {m : ℤ} (h : IsInteger s m) (hSigned : Number.isSigned m = true) :
    ¬ IsUnbounded s := by
  obtain ⟨negative, hDecimal, -⟩ := h.isDecimal
  exact not_isUnbounded_of_lt hDecimal (abs_lt_ceiling (wordRange_of_isSigned hSigned))

theorem numberOfText?_eq_some_iff :
    numberOfText? s = some n ↔ StandsFor s n ∨ IsUnbounded s ∧ n = .zero := by
  rw [numberOfText?]
  constructor
  · intro h
    split at h
    next m hWord =>
      obtain ⟨k, inRange, hInteger, hSigned, rfl⟩ := ofSigned?_eq_some_iff.mp hWord
      cases h
      exact .inl (.word hInteger hSigned)
    next hNoWord =>
      obtain ⟨r, hRead, rfl⟩ := Option.map_eq_some_iff.mp h
      cases r with
      | finite x =>
        cases real?_eq_some_iff.mp hRead with
        | finite hDecimal hRounds =>
          exact .inl (.double hDecimal (ofSigned?_eq_none_iff.mp hNoWord) hRounds)
      | infinite => exact .inr ⟨isUnbounded_iff.mpr ⟨_, hRead, nofun⟩, rfl⟩
      | notANumber => exact .inr ⟨isUnbounded_iff.mpr ⟨_, hRead, nofun⟩, rfl⟩
  · rintro (hStands | ⟨hUnbounded, rfl⟩)
    · cases hStands with
      | word hInteger hSigned =>
        rw [ofSigned?_eq_some_iff.mpr ⟨_, _, hInteger, hSigned, rfl⟩]
      | double hDecimal hNoWord hRounds =>
        rw [ofSigned?_eq_none_iff.mpr hNoWord, real?_eq_some_iff.mpr (.finite hDecimal hRounds)]
        rfl
    · have hNoWord : ∀ m, IsInteger s m → Number.isSigned m = false := by
        intro m hInteger
        rw [← Bool.not_eq_true]
        exact fun hSigned => not_isUnbounded_of_word hInteger hSigned hUnbounded
      obtain ⟨r, hRead, hOther⟩ := isUnbounded_iff.mp hUnbounded
      rw [ofSigned?_eq_none_iff.mpr hNoWord, hRead]
      cases r with
      | finite x => exact absurd rfl (hOther x)
      | infinite | notANumber => rfl

theorem exists_standsFor_iff (h : ¬ IsUnbounded s) :
    (∃ n, StandsFor s n) ↔ ∃ negative q, IsDecimal s negative q := by
  constructor
  · rintro ⟨n, hStands⟩
    cases hStands with
    | word hInteger =>
      obtain ⟨negative, hDecimal, -⟩ := hInteger.isDecimal
      exact ⟨_, _, hDecimal⟩
    | double hDecimal => exact ⟨_, _, hDecimal⟩
  · rintro ⟨negative, q, hDecimal⟩
    by_cases hWord : ∃ n, IsInteger s n ∧ Number.isSigned n = true
    · obtain ⟨n, hInteger, hSigned⟩ := hWord
      exact ⟨.integer n (wordRange_of_isSigned hSigned), .word hInteger hSigned⟩
    · have hSmall : q < Binary64.ceiling := not_le.mp fun hLarge => h (.tooLarge hDecimal hLarge)
      obtain ⟨x, hRounds⟩ := hDecimal.exists_rounds hSmall
      refine ⟨_, .double hDecimal ?_ hRounds⟩
      simpa using hWord

theorem coerce_of_standsFor (name : String) {raw : String}
    (h : StandsFor (Text.trim raw.toList) n) :
    coerce name raw (some .number) = .ok (.number n) := by
  simp only [coerce, numberOfText?_eq_some_iff.mpr (.inl h), Option.elim_some]

/-- An infinity, what is no number and a decimal too large for a double are read as zero. -/
theorem coerce_number_of_isUnbounded (name : String) {raw : String}
    (h : IsUnbounded (Text.trim raw.toList)) :
    coerce name raw (some .number) = .ok (.number .zero) := by
  simp only [coerce, numberOfText?_eq_some_iff.mpr (.inr ⟨h, rfl⟩), Option.elim_some]

/-- Where no unbounded number is written, the texts of numbers are the decimals; they are read as
the numbers that they stand for, and all other texts are refused. -/
theorem coerce_number (name raw : String) (h : ¬ IsUnbounded (Text.trim raw.toList)) :
    (∀ v, coerce name raw (some .number) = .ok v ↔
      ∃ n, StandsFor (Text.trim raw.toList) n ∧ v = .number n) ∧
    ((∃ n, StandsFor (Text.trim raw.toList) n) ↔
      ∃ negative q, IsDecimal (Text.trim raw.toList) negative q) ∧
    ((∀ negative q, ¬ IsDecimal (Text.trim raw.toList) negative q) →
      coerce name raw (some .number) =
        .error (.invalidInput s!"'{name}' expects a number, got '{raw}'" none)) := by
  have hRead : ∀ n, numberOfText? (Text.trim raw.toList) = some n ↔
      StandsFor (Text.trim raw.toList) n := by
    simp [numberOfText?_eq_some_iff, h]
  refine ⟨fun v => ?_, exists_standsFor_iff h, fun hNone => ?_⟩
  · simp only [coerce]
    cases hNumber : numberOfText? (Text.trim raw.toList) with
    | none => simp [← hRead, hNumber]
    | some n => simp [← hRead, hNumber, eq_comm]
  · have hNumber : numberOfText? (Text.trim raw.toList) = none := by
      rw [Option.eq_none_iff_forall_ne_some]
      intro n hSome
      obtain ⟨negative, q, hDecimal⟩ := (exists_standsFor_iff h).mp ⟨n, (hRead n).mp hSome⟩
      exact hNone negative q hDecimal
    have hText : "' expects a number, got '" = "' expects " ++ "a number" ++ ", got '" := rfl
    simp only [coerce, hNumber, Option.elim_none, hText, toString, String.append_assoc]

theorem coerce_number_port :
    ¬ IsUnbounded (Text.trim " 80 ".toList) ∧
      coerce "port" " 80 " (some .number) = .ok (.number (.integer 80 (by decide))) := by
  have hWord : IsInteger (Text.trim " 80 ".toList) 80 :=
    integer?_eq_some_iff.mp (by decide)
  have hBounded : ¬ IsUnbounded (Text.trim " 80 ".toList) := not_isUnbounded_of_word hWord rfl
  exact ⟨hBounded, ((coerce_number "port" " 80 " hBounded).1 _).mpr ⟨_, .word hWord rfl, rfl⟩⟩

theorem infinity_becomes_zero :
    coerce "replicas" "inf" (some .number) = .ok (.number .zero) ∧
      ∀ n, ¬ StandsFor (Text.trim "inf".toList) n := by
  have hText : Text.trim "inf".toList = "inf".toList := by decide
  have hNoDigit : "inf".toList.any isDigit ≠ true := by decide
  constructor
  · refine coerce_number_of_isUnbounded _ ?_
    rw [hText]
    exact .infinity (.signed .none (.inl rfl))
  · intro n hStands
    rw [hText] at hStands
    cases hStands with
    | word hInteger =>
      obtain ⟨negative, hDecimal, -⟩ := hInteger.isDecimal
      exact hNoDigit hDecimal.any_isDigit
    | double hDecimal => exact hNoDigit hDecimal.any_isDigit

end Boilerplate.CommandLine
