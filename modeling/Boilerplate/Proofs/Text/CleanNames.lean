import Boilerplate.Proofs.Text.Slug

/-! # Clean names

A clean name is empty or made of words of letters and digits with single separators between them.
The lower case of a letter is made of letters, but for the dotted capital I, whose lower case ends
in a combining dot. So a name in kebab case or snake case is clean just if the text holds no such
letter.
-/

namespace Boilerplate.Text

variable {separator c d : Char} {s : List Char} {words : List (List Char)}

/-- The images of a case run are letters and digits. -/
def CaseRun.isLettered (r : CaseRun) : Bool :=
  alphanumericRuns.any fun run =>
    run.first.ble r.target && (r.target + (r.source.last - r.source.first)).ble run.last
      && run.step.beq 1

theorem lowerCaseRuns_isLettered : ∀ r ∈ lowerCaseRuns, r.isLettered = true := by
  decide +kernel

theorem CaseRun.isAlphanumeric_image {r : CaseRun} {n : Nat} (h : r ∈ lowerCaseRuns)
    (hSource : r.source.contains n = true) :
    isAlphanumeric (Char.ofNat (r.target + (n - r.source.first))) = true := by
  have hLettered := lowerCaseRuns_isLettered r h
  simp only [isLettered, List.any_eq_true, Bool.and_eq_true, Nat.ble_eq, Nat.beq_eq] at hLettered
  obtain ⟨run, hMem, ⟨hFirst, hLast⟩, hStep⟩ := hLettered
  obtain ⟨_, hBelow, _⟩ := CharRun.contains_iff.mp hSource
  rw [isAlphanumeric_eq_inRuns, inRuns_iff]
  refine ⟨run, hMem, CharRun.contains_iff.mpr ?_⟩
  rw [CaseRun.toNat_image (lowerCaseRuns_sound r h) hSource, hStep]
  omega

def dottedCapital : Char := 'İ'

def combiningDot : Char := '\u0307'

theorem lowerChar_dottedCapital : lowerChar dottedCapital = ['i', combiningDot] := by
  decide

theorem not_isAlphanumeric_combiningDot : ¬ isAlphanumeric combiningDot = true := by
  decide +kernel

theorem isAlphanumeric_of_mem_lowerChar (h : isAlphanumeric c = true) (hOther : c ≠ dottedCapital)
    (hd : d ∈ lowerChar c) : isAlphanumeric d = true := by
  rw [lowerChar] at hd
  split at hd
  next hAscii =>
    rw [List.mem_singleton.mp hd, isAlphanumeric_of_ascii (toNat_toLower_lt hAscii),
      isAlphanum_toLower hAscii, ← isAlphanumeric_of_ascii hAscii]
    exact h
  next =>
    split at hd
    next hDotted =>
      rw [beq_iff_eq] at hDotted
      exact absurd (Char.toNat_inj.mp hDotted) hOther
    next =>
      rw [List.mem_singleton.mp hd, mapByRuns]
      split
      next r hFound =>
        have hSource := List.find?_some hFound
        exact CaseRun.isAlphanumeric_image (List.mem_of_find?_eq_some hFound) hSource
      next => exact h

theorem mem_lower_of_mem_lowerChar (hc : c ∈ s) (hOther : c ≠ capitalSigma)
    (hd : d ∈ lowerChar c) : d ∈ lower s := by
  -- The text in front decides on capital sigmas only, so it may be any.
  suffices hFrom : ∀ before, d ∈ lowerFrom before s from hFrom []
  induction s with
  | nil => cases hc
  | cons e rest ih =>
    intro before
    rw [lowerFrom, List.mem_append]
    rcases List.mem_cons.mp hc with rfl | hRest
    · rw [if_neg (by simpa using hOther)]
      exact .inl hd
    · exact .inr (ih hRest _)

/-- A letter or digit of the lower case of letters and digits, or the mark of a dotted capital. -/
theorem isAlphanumeric_or_dot_of_mem_lower {piece : List Char}
    (h : ∀ c ∈ piece, isAlphanumeric c = true) (hd : d ∈ lower piece) :
    isAlphanumeric d = true ∨ d = combiningDot ∧ dottedCapital ∈ piece := by
  rcases mem_lowerFrom hd with hSigma | ⟨c, hc, hLower⟩
  -- Both small sigmas are letters.
  · left
    rcases hSigma with rfl | rfl
    · decide +kernel
    · decide +kernel
  · by_cases hDotted : c = dottedCapital
    · subst hDotted
      rw [lowerChar_dottedCapital, List.mem_cons, List.mem_singleton] at hLower
      rcases hLower with rfl | rfl
      · exact .inl (by decide)
      · exact .inr ⟨rfl, hc⟩
    · exact .inl (isAlphanumeric_of_mem_lowerChar (h c hc) hDotted hLower)

/-- What the words of a text are made of. -/
theorem isAlphanumeric_or_dot_of_mem_word {w : List Char} (h : w ∈ splitWords s) (hd : d ∈ w) :
    isAlphanumeric d = true ∨ d = combiningDot ∧ dottedCapital ∈ s := by
  obtain ⟨pieces, hWords, _, hFlatten⟩ := exists_pieces s
  have hPieces := forall_mem_piece hFlatten
  rw [hWords] at h
  obtain ⟨piece, hPiece, rfl⟩ := List.mem_map.mp h
  rcases isAlphanumeric_or_dot_of_mem_lower (fun c hc => (hPieces piece hPiece c hc).2) hd with
    hLetter | ⟨hDot, hDotted⟩
  · exact .inl hLetter
  · exact .inr ⟨hDot, (hPieces piece hPiece _ hDotted).1⟩

theorem exists_word_of_dottedCapital (h : dottedCapital ∈ s) :
    ∃ w ∈ splitWords s, combiningDot ∈ w := by
  obtain ⟨pieces, hWords, _, hFlatten⟩ := exists_pieces s
  have hKept : dottedCapital ∈ s.filter isAlphanumeric :=
    List.mem_filter.mpr ⟨h, by decide +kernel⟩
  rw [← hFlatten] at hKept
  obtain ⟨piece, hPiece, hMem⟩ := List.mem_flatten.mp hKept
  refine ⟨lower piece, hWords ▸ List.mem_map_of_mem hPiece, ?_⟩
  apply mem_lower_of_mem_lowerChar hMem (by decide)
  rw [lowerChar_dottedCapital]
  exact List.mem_cons_of_mem _ List.mem_cons_self

/-- Empty, or words of letters and digits with single separators between them. -/
structure IsClean (separator : Char) (name : List Char) : Prop where
  joined : ∃ words : List (List Char), name = [separator].intercalate words ∧
    ∀ w ∈ words, w ≠ [] ∧ ∀ c ∈ w, isAlphanumeric c = true
  starts : name.head? ≠ some separator
  ends : name.getLast? ≠ some separator

theorem exists_intercalate_eq_append (separator : Char) (h : words ≠ []) :
    ∃ w ∈ words, ∃ back, [separator].intercalate words = w ++ back := by
  cases words with
  | nil => exact absurd rfl h
  | cons w rest =>
    refine ⟨w, List.mem_cons_self, ?_⟩
    cases rest with
    | nil => exact ⟨[], by rw [List.intercalate_singleton, List.append_nil]⟩
    | cons v others =>
      exact ⟨_, by rw [List.intercalate_cons_cons, List.append_assoc]⟩

theorem exists_intercalate_eq_append_last (separator : Char) (h : words ≠ []) :
    ∃ w ∈ words, ∃ front, [separator].intercalate words = front ++ w := by
  induction words with
  | nil => exact absurd rfl h
  | cons v rest ih =>
    cases rest with
    | nil => exact ⟨v, List.mem_cons_self, [], List.intercalate_singleton⟩
    | cons u others =>
      obtain ⟨w, hw, front, hFront⟩ := ih (List.cons_ne_nil u others)
      refine ⟨w, List.mem_cons_of_mem v hw, v ++ [separator] ++ front, ?_⟩
      rw [List.intercalate_cons_cons, hFront, List.append_assoc _ front]

/-- Joined words neither start nor end with a separator that no word holds. -/
theorem separator_not_at_ends (h : ∀ w ∈ words, w ≠ [] ∧ separator ∉ w) :
    ([separator].intercalate words).head? ≠ some separator ∧
      ([separator].intercalate words).getLast? ≠ some separator := by
  by_cases hNone : words = []
  · subst hNone
    exact ⟨nofun, nofun⟩
  · constructor
    · obtain ⟨w, hw, back, hBack⟩ := exists_intercalate_eq_append separator hNone
      rw [hBack, List.head?_append_of_ne_nil w (h w hw).1]
      exact fun hHead => (h w hw).2 (List.mem_of_head? hHead)
    · obtain ⟨w, hw, front, hFront⟩ := exists_intercalate_eq_append_last separator hNone
      rw [hFront, List.getLast?_append_of_ne_nil front (h w hw).1]
      exact fun hLast => (h w hw).2 (List.mem_of_getLast? hLast)

theorem isClean_intercalate (hSeparates : ¬ isAlphanumeric separator = true)
    (h : ∀ w ∈ words, w ≠ [] ∧ ∀ c ∈ w, isAlphanumeric c = true) :
    IsClean separator ([separator].intercalate words) := by
  have hFree : ∀ w ∈ words, w ≠ [] ∧ separator ∉ w :=
    fun w hw => ⟨(h w hw).1, fun hMem => hSeparates ((h w hw).2 _ hMem)⟩
  obtain ⟨hStarts, hEnds⟩ := separator_not_at_ends hFree
  exact ⟨⟨words, rfl, h⟩, hStarts, hEnds⟩

theorem mem_intercalate_of_mem {w : List Char} (hw : w ∈ words) (hc : c ∈ w) :
    c ∈ [separator].intercalate words := by
  induction words with
  | nil => cases hw
  | cons v rest ih =>
    cases rest with
    | nil =>
      rw [List.intercalate_singleton, ← List.mem_singleton.mp hw]
      exact hc
    | cons u others =>
      rw [List.intercalate_cons_cons, List.append_assoc, List.mem_append, List.mem_append]
      rcases List.mem_cons.mp hw with rfl | hRest
      · exact .inl hc
      · exact .inr (.inr (ih hRest))

theorem isAlphanumeric_of_mem_isClean {name : List Char} (h : IsClean separator name)
    (hc : c ∈ name) : c = separator ∨ isAlphanumeric c = true := by
  obtain ⟨words, rfl, hWords⟩ := h.joined
  exact (mem_intercalate hc).imp_right fun ⟨w, hw, hMem⟩ => (hWords w hw).2 c hMem

theorem words_alphanumeric_iff :
    (∀ w ∈ splitWords s, ∀ c ∈ w, isAlphanumeric c = true) ↔ dottedCapital ∉ s := by
  constructor
  · intro h hDotted
    obtain ⟨w, hw, hDot⟩ := exists_word_of_dottedCapital hDotted
    exact not_isAlphanumeric_combiningDot (h w hw _ hDot)
  · intro hNone w hw c hc
    exact (isAlphanumeric_or_dot_of_mem_word hw hc).resolve_right fun hDot => hNone hDot.2

/-- Joined words are clean just if no dotted capital lends them its mark. -/
theorem isClean_joinWith_iff (hSeparates : ¬ isAlphanumeric separator = true)
    (hOther : separator ≠ combiningDot) :
    IsClean separator (joinWith separator (splitWords s)) ↔ dottedCapital ∉ s := by
  constructor
  · intro h hDotted
    obtain ⟨w, hw, hDot⟩ := exists_word_of_dottedCapital hDotted
    rcases isAlphanumeric_of_mem_isClean h (mem_intercalate_of_mem hw hDot) with hSame | hLetter
    · exact hOther hSame.symm
    · exact not_isAlphanumeric_combiningDot hLetter
  · intro hNone
    have hWords := words_alphanumeric_iff.mpr hNone
    exact isClean_intercalate hSeparates fun w hw =>
      ⟨ne_of_mem_of_not_mem hw (nil_not_mem_splitWords s), hWords w hw⟩

theorem separator_not_mem_word (hSeparates : ¬ isAlphanumeric separator = true)
    (hOther : separator ≠ combiningDot) : ∀ w ∈ splitWords s, separator ∉ w := by
  intro w hw hMem
  rcases isAlphanumeric_or_dot_of_mem_word hw hMem with hLetter | ⟨hDot, _⟩
  · exact hSeparates hLetter
  · exact hOther hDot

/-- No word is empty, no name starts or ends with the separator, and all characters of the words
are letters and digits, but for the combining dot that the lower case of a dotted capital leaves. -/
theorem clean_names (s : List Char) :
    (∀ w ∈ splitWords s,
        w ≠ [] ∧ ∀ c ∈ w, isAlphanumeric c = true ∨ c = combiningDot ∧ dottedCapital ∈ s) ∧
      (∀ separator ∈ ['-', '_'],
        (joinWith separator (splitWords s)).head? ≠ some separator ∧
          (joinWith separator (splitWords s)).getLast? ≠ some separator) ∧
      ((∀ w ∈ splitWords s, ∀ c ∈ w, isAlphanumeric c = true) ↔ dottedCapital ∉ s) ∧
      (IsClean '-' (kebabCase s) ↔ dottedCapital ∉ s) ∧
      (IsClean '_' (snakeCase s) ↔ dottedCapital ∉ s) := by
  have hFull : ∀ w ∈ splitWords s, w ≠ [] :=
    fun w hw => ne_of_mem_of_not_mem hw (nil_not_mem_splitWords s)
  refine ⟨fun w hw => ⟨hFull w hw, fun c hc => isAlphanumeric_or_dot_of_mem_word hw hc⟩, ?_,
    words_alphanumeric_iff, isClean_joinWith_iff (by decide) (by decide),
    isClean_joinWith_iff (by decide) (by decide)⟩
  intro separator hSeparator
  have hOther : ¬ isAlphanumeric separator = true ∧ separator ≠ combiningDot := by
    rcases List.mem_pair.mp hSeparator with rfl | rfl
    · decide
    · decide
  obtain ⟨hSeparates, hNoDot⟩ := hOther
  exact separator_not_at_ends fun w hw =>
    ⟨hFull w hw, separator_not_mem_word hSeparates hNoDot w hw⟩

/-- A dotted capital alone is a word with a combining mark. -/
theorem dotted_capital_leaves_mark :
    splitWords ['İ'] = [['i', '\u0307']] ∧ isAlphanumeric '\u0307' = false ∧
      kebabCase ['İ'] = ['i', '\u0307'] ∧ ¬ IsClean '-' (kebabCase ['İ']) := by
  refine ⟨by decide +kernel, by decide +kernel, by decide +kernel, fun h => ?_⟩
  exact (isClean_joinWith_iff (by decide) (by decide)).mp h (List.mem_singleton.mpr rfl)

end Boilerplate.Text
