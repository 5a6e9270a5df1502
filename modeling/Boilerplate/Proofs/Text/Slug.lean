import Boilerplate.Proofs.Text.Ascii
import Boilerplate.Proofs.Text.Seams

/-! # Slugs

The words of a text are lower cases of letters and digits. Their codes are not below that of the
digit zero, so that a text in kebab case holds neither dots nor slashes.
-/

namespace Boilerplate.Text

/-- The lower case of a row of letters and digits. -/
def IsWord (w : List Char) : Prop :=
  ∃ piece, piece ≠ [] ∧ (∀ c ∈ piece, isAlphanumeric c = true) ∧ w = lower piece

theorem isWord_of_mem_splitWords {s w : List Char} (h : w ∈ splitWords s) : IsWord w := by
  obtain ⟨pieces, hWords, hProper, hFlatten⟩ := exists_pieces s
  rw [hWords] at h
  obtain ⟨piece, hPiece, rfl⟩ := List.mem_map.mp h
  exact ⟨piece, fun hEmpty => hProper (hEmpty ▸ hPiece),
    fun c hc => (forall_mem_piece hFlatten piece hPiece c hc).2, rfl⟩

theorem mem_lowerFrom {before s : List Char} {d : Char} (h : d ∈ lowerFrom before s) :
    (d = 'ς' ∨ d = 'σ') ∨ ∃ c ∈ s, d ∈ lowerChar c := by
  induction s generalizing before with
  | nil => cases h
  | cons c rest ih =>
    rw [lowerFrom] at h
    rcases List.mem_append.mp h with h | h
    · split at h
      · rw [List.mem_singleton, lowerSigma] at h
        split at h
        · exact .inl (.inl h)
        · exact .inl (.inr h)
      · exact .inr ⟨c, List.mem_cons_self, h⟩
    · rcases ih h with hSigma | ⟨e, he, hLower⟩
      · exact .inl hSigma
      · exact .inr ⟨e, List.mem_cons_of_mem c he, hLower⟩

/-- The images of a case run are characters, and none is below the digit zero. -/
def CaseRun.isSound (r : CaseRun) : Bool :=
  let last := r.target + (r.source.last - r.source.first)
  0x30 ≤ r.target && (last < 0xd800 || 0xdfff < r.target && last < 0x110000)

theorem lowerCaseRuns_sound : ∀ r ∈ lowerCaseRuns, r.isSound = true := by
  decide +kernel

theorem toNat_ofNat {n : Nat} (h : n.isValidChar) : (Char.ofNat n).toNat = n := by
  rw [Char.ofNat, dif_pos h]
  rfl

theorem CaseRun.toNat_image {r : CaseRun} {n : Nat} (hSound : r.isSound = true)
    (hSource : r.source.contains n = true) :
    (Char.ofNat (r.target + (n - r.source.first))).toNat = r.target + (n - r.source.first) := by
  obtain ⟨_, hLast, _⟩ := CharRun.contains_iff.mp hSource
  simp only [isSound, Bool.and_eq_true, Bool.or_eq_true, decide_eq_true_eq] at hSound
  apply toNat_ofNat
  unfold Nat.isValidChar
  omega

theorem CaseRun.digit_le_target {r : CaseRun} (hSound : r.isSound = true) : 0x30 ≤ r.target := by
  simp only [isSound, Bool.and_eq_true, decide_eq_true_eq] at hSound
  exact hSound.1

theorem digit_le_lowerChar {c d : Char} (h : 0x30 ≤ c.toNat) (hd : d ∈ lowerChar c) :
    0x30 ≤ d.toNat := by
  have hAscii : ∀ n < 0x80, 0x30 ≤ n → 0x30 ≤ (Char.ofNat n).toLower.toNat := by decide
  rw [lowerChar] at hd
  split at hd
  · have hLower := hAscii c.toNat ‹_› h
    rwa [Char.ofNat_toNat, ← List.mem_singleton.mp hd] at hLower
  · split at hd
    · rcases List.mem_cons.mp hd with rfl | hd
      · decide
      · rw [List.mem_singleton.mp hd]
        decide
    · rw [List.mem_singleton.mp hd, mapByRuns]
      split
      next r hFound =>
        have hSound := lowerCaseRuns_sound r (List.mem_of_find?_eq_some hFound)
        have hSource := List.find?_some hFound
        rw [CaseRun.toNat_image hSound hSource]
        exact Nat.le_add_right_of_le (CaseRun.digit_le_target hSound)
      next => exact h

theorem digit_le_of_isAlphanumeric {c : Char} (h : isAlphanumeric c = true) : 0x30 ≤ c.toNat := by
  have hAscii : ∀ n < 0x80, (Char.ofNat n).isAlphanum = true → 0x30 ≤ n := by decide
  rw [isAlphanumeric] at h
  split at h
  · exact hAscii c.toNat ‹_› (by rwa [Char.ofNat_toNat])
  · omega

/-- Made of hyphens and of characters that are not below the digit zero. -/
def IsSlug (s : List Char) : Prop :=
  ∀ c ∈ s, c = '-' ∨ 0x30 ≤ c.toNat

theorem isSlug_lower {piece : List Char} (h : ∀ c ∈ piece, isAlphanumeric c = true) :
    IsSlug (lower piece) := by
  intro d hd
  right
  rcases mem_lowerFrom hd with (rfl | rfl) | ⟨c, hc, hLower⟩
  · decide
  · decide
  · exact digit_le_lowerChar (digit_le_of_isAlphanumeric (h c hc)) hLower

theorem mem_intercalate {separator c : Char} {words : List (List Char)}
    (h : c ∈ [separator].intercalate words) : c = separator ∨ ∃ w ∈ words, c ∈ w := by
  induction words with
  | nil => cases h
  | cons w rest ih =>
    cases rest with
    | nil =>
      rw [List.intercalate_singleton] at h
      exact .inr ⟨w, List.mem_cons_self, h⟩
    | cons v others =>
      rw [List.intercalate_cons_cons, List.append_assoc, List.mem_append, List.mem_append,
        List.mem_singleton] at h
      rcases h with h | h | h
      · exact .inr ⟨w, List.mem_cons_self, h⟩
      · exact .inl h
      · rcases ih h with hSeparator | ⟨u, hu, hc⟩
        · exact .inl hSeparator
        · exact .inr ⟨u, List.mem_cons_of_mem w hu, hc⟩

theorem isSlug_kebabCase (s : List Char) : IsSlug (kebabCase s) := by
  intro c hc
  rcases mem_intercalate hc with hHyphen | ⟨w, hw, hMem⟩
  · exact .inl hHyphen
  · obtain ⟨piece, _, hPiece, rfl⟩ := isWord_of_mem_splitWords hw
    exact isSlug_lower hPiece c hMem

end Boilerplate.Text
