import Boilerplate.Proofs.Text.Ascii
import Boilerplate.Proofs.Text.Seams

/-! # Names of ASCII characters

In a text of ASCII characters the classes of characters are those of the first 128 codes, and the
lower case of a text is that of its characters. The words of such a text hold no capitals, so that
a second pass over the joined words finds no new seams.
-/

namespace Boilerplate.Text

section Joined

variable {separator c : Char} {current s w : List Char} {words : List (List Char)}

/-- A letter or digit in front of which no word ends. -/
def isPlain (c : Char) : Bool :=
  isAlphanumeric c && !isUppercase c

theorem isPlain_iff : isPlain c = true ↔ isAlphanumeric c = true ∧ isUppercase c = false := by
  simp [isPlain]

theorem endsWord_eq_false (h : ∀ d ∈ s.head?, isUppercase d = false) : endsWord c s = false := by
  cases s with
  | nil => rfl
  | cons d rest => simp [endsWord, h d rfl]

/-- A row of plain characters belongs to the word under way. -/
theorem splitWordsFrom_append (hw : ∀ c ∈ w, isPlain c = true)
    (hs : ∀ d ∈ s.head?, isUppercase d = false) (current : List Char) :
    splitWordsFrom current (w ++ s) = splitWordsFrom (w.reverse ++ current) s := by
  induction w generalizing current with
  | nil => rfl
  | cons c rest ih =>
    obtain ⟨hc, hRest⟩ := List.forall_mem_cons.mp hw
    -- A word ends in front of a capital only, so that the next character rules an end out.
    have hNext : ∀ d ∈ (rest ++ s).head?, isUppercase d = false := by
      cases rest with
      | nil => exact hs
      | cons d others =>
        rintro _ ⟨⟩
        exact (isPlain_iff.mp (hRest d List.mem_cons_self)).2
    rw [List.cons_append, splitWordsFrom_of_not_endsWord (isPlain_iff.mp hc).1
      (by rw [endsWord_eq_false hNext]; exact Bool.false_ne_true), ih hRest]
    simp

theorem flushWord_reverse (h : w ≠ []) : flushWord (w.reverse ++ []) = [lower w] := by
  simp [flushWord, h]

/-- Words of plain characters, joined by a character that is neither letter nor digit, are found
again. -/
theorem splitWords_joinWith (hSeparates : isAlphanumeric separator = false)
    (hSmall : isUppercase separator = false)
    (hProper : [] ∉ words) (hPlain : ∀ w ∈ words, ∀ c ∈ w, isPlain c = true) :
    splitWords (joinWith separator words) = words.map lower := by
  unfold splitWords joinWith
  induction words with
  | nil => rfl
  | cons w rest ih =>
    obtain ⟨hWord, hOthers⟩ := List.forall_mem_cons.mp hPlain
    rw [List.mem_cons, not_or] at hProper
    obtain ⟨hFull, hRest⟩ := hProper
    cases rest with
    | nil =>
      have hAlone := splitWordsFrom_append (s := []) hWord (by simp) []
      rw [List.append_nil] at hAlone
      rw [List.intercalate_singleton, hAlone, splitWordsFrom, flushWord_reverse (Ne.symm hFull)]
      rfl
    | cons v others =>
      have hHead : ∀ d ∈ (separator :: [separator].intercalate (v :: others)).head?,
          isUppercase d = false := by
        rintro _ ⟨⟩
        exact hSmall
      rw [List.intercalate_cons_cons, List.append_assoc, List.singleton_append,
        splitWordsFrom_append hWord hHead,
        splitWordsFrom_of_not_alphanumeric (by simp [hSeparates]),
        flushWord_reverse (Ne.symm hFull), ih hRest hOthers]
      rfl

end Joined

section Ascii

variable {c x y : Char} {s w rest : List Char} {segments : List (List Char)}

theorem isPlain_toLower (h : c.toNat < 0x80) (hAlphanum : c.isAlphanum = true) :
    isPlain c.toLower = true := by
  have hLower := toNat_toLower_lt h
  rw [isPlain_iff, isAlphanumeric_of_ascii hLower, isUppercase_of_ascii hLower]
  exact ⟨(isAlphanum_toLower h).trans hAlphanum, isUpper_toLower h⟩

/-- Where a name of ASCII characters is cut between `x` and `y`. -/
def AsciiSeam (x y : Char) (rest : List Char) : Prop :=
  x.isAlphanum ≠ y.isAlphanum ∨
    x.isLower = true ∧ y.isUpper = true ∨
    x.isUpper = true ∧ y.isUpper = true ∧ ∃ z ∈ rest.head?, z.isLower = true

theorem isAlphanum_of_isUpper (h : x.isUpper = true) : x.isAlphanum = true := by
  have hLetter : x.isAlpha = true := Bool.or_eq_true_iff.mpr (.inl h)
  exact Bool.or_eq_true_iff.mpr (.inl hLetter)

theorem isAlphanum_of_isLower (h : x.isLower = true) : x.isAlphanum = true := by
  have hLetter : x.isAlpha = true := Bool.or_eq_true_iff.mpr (.inr h)
  exact Bool.or_eq_true_iff.mpr (.inl hLetter)

theorem endsWord_of_ascii (h : ∀ c ∈ x :: y :: rest, c.toNat < 0x80) :
    endsWord x (y :: rest) = true ↔ x.isLower = true ∧ y.isUpper = true ∨
      x.isUpper = true ∧ y.isUpper = true ∧ ∃ z ∈ rest.head?, z.isLower = true := by
  simp only [List.forall_mem_cons] at h
  obtain ⟨hx, hy, hRest⟩ := h
  rw [endsWord, isLowercase_of_ascii hx, isUppercase_of_ascii hx, isUppercase_of_ascii hy]
  cases rest with
  | nil => simp
  | cons z others => simp [isLowercase_of_ascii (hRest z List.mem_cons_self), and_assoc]

theorem asciiSeam_iff (h : ∀ c ∈ x :: y :: rest, c.toNat < 0x80) :
    AsciiSeam x y rest ↔ WordSeam x y rest := by
  have hx : x.toNat < 0x80 := h x (by simp)
  have hy : y.toNat < 0x80 := h y (by simp)
  rw [AsciiSeam, WordSeam, isAlphanumeric_of_ascii hx, isAlphanumeric_of_ascii hy,
    ← endsWord_of_ascii h]
  -- A word of ASCII characters ends between letters only, so the classes need not be asked for.
  refine or_congr_right ⟨fun hEnds => ?_, fun hEnds => hEnds.2.2⟩
  rcases (endsWord_of_ascii h).mp hEnds with ⟨hLower, hUpper⟩ | ⟨hFirst, hUpper, _⟩
  · exact ⟨isAlphanum_of_isLower hLower, isAlphanum_of_isUpper hUpper, hEnds⟩
  · exact ⟨isAlphanum_of_isUpper hFirst, isAlphanum_of_isUpper hUpper, hEnds⟩

theorem isCut_asciiSeam_iff (h : ∀ c ∈ s, c.toNat < 0x80) :
    IsCut AsciiSeam s segments ↔ IsCut WordSeam s segments := by
  have hSame : ∀ front x y rest, s = front ++ x :: y :: rest →
      (AsciiSeam x y rest ↔ WordSeam x y rest) := by
    rintro front x y rest rfl
    exact asciiSeam_iff fun c hc => h c (List.mem_append_right front hc)
  exact ⟨fun hCut => hCut.congr hSame,
    fun hCut => hCut.congr fun front x y rest hSplit => (hSame front x y rest hSplit).symm⟩

theorem wordsOf_of_ascii (h : ∀ w ∈ segments, ∀ c ∈ w, c.toNat < 0x80) :
    wordsOf segments = (segments.filter (·.all Char.isAlphanum)).map (·.map Char.toLower) := by
  have hFilter : ∀ w ∈ segments, w.all isAlphanumeric = w.all Char.isAlphanum := by
    intro w hw
    rw [Bool.eq_iff_iff, List.all_eq_true, List.all_eq_true]
    exact forall₂_congr fun c hc => by rw [isAlphanumeric_of_ascii (h w hw c hc)]
  rw [wordsOf, List.filter_congr hFilter]
  exact List.map_congr_left fun w hw => lower_of_ascii (h w (List.mem_of_mem_filter hw))

/-- What the words of a text of ASCII characters are. -/
theorem splitWords_of_ascii (h : ∀ c ∈ s, c.toNat < 0x80) (hCut : IsCut AsciiSeam s segments) :
    splitWords s = (segments.filter (·.all Char.isAlphanum)).map (·.map Char.toLower) := by
  rw [splitWords_of_isCut ((isCut_asciiSeam_iff h).mp hCut), wordsOf_of_ascii]
  intro w hw c hc
  refine h c ?_
  rw [← hCut.flatten_eq]
  exact List.mem_flatten.mpr ⟨w, hw, hc⟩

/-- The letters and digits of a text of ASCII characters are cut into pieces, and its words are the
lower cases of these. -/
theorem exists_ascii_pieces (h : ∀ c ∈ s, c.toNat < 0x80) :
    ∃ pieces : List (List Char), splitWords s = pieces.map (·.map Char.toLower) ∧
      pieces.flatten = s.filter Char.isAlphanum := by
  obtain ⟨pieces, hWords, _, hFlatten⟩ := exists_pieces s
  have hSame : s.filter isAlphanumeric = s.filter Char.isAlphanum :=
    List.filter_congr fun c hc => isAlphanumeric_of_ascii (h c hc)
  refine ⟨pieces, ?_, hFlatten.trans hSame⟩
  rw [hWords]
  exact List.map_congr_left fun w hw =>
    lower_of_ascii fun c hc => h c (forall_mem_piece hFlatten w hw c hc).1

theorem flatten_splitWords_of_ascii (h : ∀ c ∈ s, c.toNat < 0x80) :
    (splitWords s).flatten = (s.filter Char.isAlphanum).map Char.toLower := by
  obtain ⟨pieces, hWords, hFlatten⟩ := exists_ascii_pieces h
  rw [hWords, ← hFlatten, List.map_flatten]

/-- The words of a text of ASCII characters are plain, and lower-casing leaves them as they are. -/
theorem plain_of_mem_splitWords (h : ∀ c ∈ s, c.toNat < 0x80) :
    ∀ w ∈ splitWords s, (∀ c ∈ w, isPlain c = true) ∧ lower w = w := by
  obtain ⟨pieces, hWords, hFlatten⟩ := exists_ascii_pieces h
  rw [hWords, List.forall_mem_map]
  intro piece hPiece
  have hChars : ∀ c ∈ piece, c.toNat < 0x80 ∧ c.isAlphanum = true :=
    fun c hc => (forall_mem_piece hFlatten piece hPiece c hc).imp_left (h c)
  have hLower : ∀ c ∈ piece.map Char.toLower, c.toNat < 0x80 :=
    List.forall_mem_map.mpr fun c hc => toNat_toLower_lt (hChars c hc).1
  refine ⟨?_, ?_⟩
  · exact List.forall_mem_map.mpr fun c hc => isPlain_toLower (hChars c hc).1 (hChars c hc).2
  · rw [lower_of_ascii hLower, List.map_map]
    exact List.map_congr_left fun c hc => toLower_toLower (hChars c hc).1

/-- A second pass over the joined words finds the same words. -/
theorem splitWords_joinWith_splitWords {separator : Char} (h : ∀ c ∈ s, c.toNat < 0x80)
    (hSeparator : separator ∈ ['-', '_']) :
    splitWords (joinWith separator (splitWords s)) = splitWords s := by
  have hOther : separator.toNat < 0x80 ∧ separator.isAlphanum = false ∧
      separator.isUpper = false := by
    rcases List.mem_pair.mp hSeparator with rfl | rfl
    · decide
    · decide
  obtain ⟨hAscii, hSeparates, hSmall⟩ := hOther
  have hPlain := plain_of_mem_splitWords h
  rw [splitWords_joinWith ((isAlphanumeric_of_ascii hAscii).trans hSeparates)
    ((isUppercase_of_ascii hAscii).trans hSmall) (nil_not_mem_splitWords s)
    fun w hw => (hPlain w hw).1]
  exact (List.map_congr_left fun w hw => (hPlain w hw).2).trans (List.map_id _)

/-- The words of a name of ASCII characters are the lower cases of its segments of letters and
digits, and stay the same when they are joined and split again. So every case convention depends on
the words only, however they are joined. -/
theorem ascii_words_survive (s : List Char) (h : ∀ c ∈ s, c.toNat < 0x80) :
    (∃! segments, IsCut AsciiSeam s segments) ∧
      (∀ segments, IsCut AsciiSeam s segments →
        splitWords s = (segments.filter (·.all Char.isAlphanum)).map (·.map Char.toLower)) ∧
      [] ∉ splitWords s ∧
      (splitWords s).flatten = (s.filter Char.isAlphanum).map Char.toLower ∧
      (∀ separator ∈ ['-', '_'],
        splitWords (joinWith separator (splitWords s)) = splitWords s) ∧
      kebabCase (kebabCase s) = kebabCase s ∧ snakeCase (snakeCase s) = snakeCase s ∧
      kebabCase (snakeCase s) = kebabCase s ∧ snakeCase (kebabCase s) = snakeCase s ∧
      pascalCase (kebabCase s) = pascalCase s ∧ pascalCase (snakeCase s) = pascalCase s := by
  have hAgain : ∀ separator ∈ ['-', '_'],
      splitWords (joinWith separator (splitWords s)) = splitWords s :=
    fun _ hSeparator => splitWords_joinWith_splitWords h hSeparator
  have hKebab : splitWords (kebabCase s) = splitWords s := hAgain '-' (by decide)
  have hSnake : splitWords (snakeCase s) = splitWords s := hAgain '_' (by decide)
  refine ⟨existsUnique_isCut AsciiSeam s, fun _ hCut => splitWords_of_ascii h hCut,
    nil_not_mem_splitWords s, flatten_splitWords_of_ascii h, hAgain, ?_, ?_, ?_, ?_, ?_, ?_⟩
  · exact congrArg (joinWith '-') hKebab
  · exact congrArg (joinWith '_') hSnake
  · exact congrArg (joinWith '-') hSnake
  · exact congrArg (joinWith '_') hKebab
  · exact congrArg (·.flatMap capitalize) hKebab
  · exact congrArg (·.flatMap capitalize) hSnake

/-- An acronym in front of a word, joined by an underscore and then by a hyphen. -/
theorem ascii_words_survive_acronym :
    kebabCase (snakeCase ['H', 'T', 'T', 'P', 'R', 'e', 'q', ' ', 'v', '2']) =
      ['h', 't', 't', 'p', '-', 'r', 'e', 'q', '-', 'v', '2'] := by
  have hLaws := ascii_words_survive ['H', 'T', 'T', 'P', 'R', 'e', 'q', ' ', 'v', '2'] (by simp)
  obtain ⟨_, _, _, _, _, _, _, hKebabSnake, _⟩ := hLaws
  rw [hKebabSnake]
  decide +kernel

end Ascii

end Boilerplate.Text
