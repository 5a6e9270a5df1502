import Boilerplate.Text.LetterCase

/-! # Characters of ASCII

Below code 128 the classes of characters are the elementary ones, and the lower case of a text is
that of its characters.
-/

namespace Boilerplate.Text

variable {c : Char} {s : List Char} {runs : List CharRun}

theorem of_ascii_codes {p : Char → Prop} (h : ∀ n < 0x80, p (Char.ofNat n)) (hc : c.toNat < 0x80) :
    p c := by
  have hCode := h c.toNat hc
  rwa [Char.ofNat_toNat] at hCode

/-- Only the runs that start below code 128 hold such characters. -/
theorem inRuns_of_ascii (hc : c.toNat < 0x80) :
    inRuns runs c = inRuns (runs.filter (·.first < 0x80)) c := by
  rw [Bool.eq_iff_iff, inRuns_iff, inRuns_iff]
  constructor
  · rintro ⟨r, hMem, hContains⟩
    have hFirst := (CharRun.contains_iff.mp hContains).1
    exact ⟨r, List.mem_filter.mpr ⟨hMem, by simp; omega⟩, hContains⟩
  · rintro ⟨r, hMem, hContains⟩
    exact ⟨r, (List.mem_filter.mp hMem).1, hContains⟩

theorem isAlphanumeric_of_ascii (h : c.toNat < 0x80) : isAlphanumeric c = c.isAlphanum := by
  rw [isAlphanumeric, if_pos h]

theorem isUppercase_of_ascii (h : c.toNat < 0x80) : isUppercase c = c.isUpper := by
  have hRuns : uppercaseRuns.filter (·.first < 0x80) = [⟨0x41, 0x5a, 1⟩] := by decide +kernel
  rw [isUppercase, inRuns_of_ascii h, hRuns]
  exact of_ascii_codes (p := fun c => inRuns [⟨0x41, 0x5a, 1⟩] c = c.isUpper) (by decide) h

theorem isLowercase_of_ascii (h : c.toNat < 0x80) : isLowercase c = c.isLower := by
  have hRuns : lowercaseRuns.filter (·.first < 0x80) = [⟨0x61, 0x7a, 1⟩] := by decide +kernel
  rw [isLowercase, inRuns_of_ascii h, hRuns]
  exact of_ascii_codes (p := fun c => inRuns [⟨0x61, 0x7a, 1⟩] c = c.isLower) (by decide) h

/-- The short cut for ASCII agrees with the table of letters and digits. -/
theorem isAlphanumeric_eq_inRuns : isAlphanumeric c = inRuns alphanumericRuns c := by
  have hRuns : alphanumericRuns.filter (·.first < 0x80) =
      [⟨0x30, 0x39, 1⟩, ⟨0x41, 0x5a, 1⟩, ⟨0x61, 0x7a, 1⟩] := by decide +kernel
  rw [isAlphanumeric]
  split
  · rw [inRuns_of_ascii ‹_›, hRuns]
    exact of_ascii_codes (p := fun c => c.isAlphanum =
      inRuns [⟨0x30, 0x39, 1⟩, ⟨0x41, 0x5a, 1⟩, ⟨0x61, 0x7a, 1⟩] c) (by decide) ‹_›
  · rfl

theorem toNat_toLower_lt (h : c.toNat < 0x80) : c.toLower.toNat < 0x80 :=
  of_ascii_codes (p := fun c => c.toLower.toNat < 0x80) (by decide) h

theorem toLower_toLower (h : c.toNat < 0x80) : c.toLower.toLower = c.toLower :=
  of_ascii_codes (p := fun c => c.toLower.toLower = c.toLower) (by decide) h

theorem isAlphanum_toLower (h : c.toNat < 0x80) : c.toLower.isAlphanum = c.isAlphanum :=
  of_ascii_codes (p := fun c => c.toLower.isAlphanum = c.isAlphanum) (by decide) h

theorem isUpper_toLower (h : c.toNat < 0x80) : c.toLower.isUpper = false :=
  of_ascii_codes (p := fun c => c.toLower.isUpper = false) (by decide) h

theorem lowerFrom_of_ascii (h : ∀ c ∈ s, c.toNat < 0x80) (before : List Char) :
    lowerFrom before s = s.map Char.toLower := by
  induction s generalizing before with
  | nil => rfl
  | cons c rest ih =>
    obtain ⟨hc, hRest⟩ := List.forall_mem_cons.mp h
    have hOther : ¬ (c == capitalSigma) = true := by
      rw [beq_iff_eq]
      rintro rfl
      exact absurd hc (by decide)
    rw [lowerFrom, if_neg hOther, lowerChar, if_pos hc, ih hRest]
    rfl

theorem lower_of_ascii (h : ∀ c ∈ s, c.toNat < 0x80) : lower s = s.map Char.toLower :=
  lowerFrom_of_ascii h []

end Boilerplate.Text
