import Mathlib.Data.List.Basic
import Boilerplate.Text.Words

/-! # Seams of a name

A text is cut into segments that end just at its seams. In a name there is a seam where a letter or
digit meets another character, and where a word ends inside a row of letters. The words of a name
are the lower cases of the segments of letters and digits, so that no letter or digit is lost.
-/

namespace Boilerplate.Text

section Cuts

variable {seam seam' : Char → Char → List Char → Prop} {c d : Char} {s w front : List Char}
  {segments : List (List Char)}

/-- The text `front` is made of the first segments. -/
def EndsBehind (segments : List (List Char)) (front : List Char) : Prop :=
  ∃ left, left <+: segments ∧ left.flatten = front

/-- Segments that make up `s` and end, inside of `s`, just at the seams. There is a seam between `x`
and `y` in front of `rest` if `seam x y rest`. -/
structure IsCut (seam : Char → Char → List Char → Prop) (s : List Char)
    (segments : List (List Char)) : Prop where
  flatten_eq : segments.flatten = s
  proper : [] ∉ segments
  ends_iff : ∀ front x y rest, s = front ++ x :: y :: rest →
    (EndsBehind segments (front ++ [x]) ↔ seam x y rest)

theorem endsBehind_cons (h : front ≠ []) :
    EndsBehind (w :: segments) front ↔ ∃ left, left <+: segments ∧ w ++ left.flatten = front := by
  constructor
  · rintro ⟨left, hLeft, rfl⟩
    rcases List.prefix_cons_iff.mp hLeft with rfl | ⟨left, rfl, hRest⟩
    · exact absurd rfl h
    · exact ⟨left, hRest, rfl⟩
  · rintro ⟨left, hLeft, rfl⟩
    exact ⟨w :: left, (List.cons_prefix_cons).mpr ⟨rfl, hLeft⟩, rfl⟩

theorem IsCut.exists_cons (h : IsCut seam (c :: s) segments) :
    ∃ w rest, segments = (c :: w) :: rest ∧ w ++ rest.flatten = s ∧ [] ∉ rest := by
  obtain ⟨hFlatten, hProper, _⟩ := h
  cases segments with
  | nil => cases hFlatten
  | cons first rest =>
    rw [List.mem_cons, not_or] at hProper
    cases first with
    | nil => exact absurd rfl hProper.1
    | cons e w =>
      obtain ⟨rfl, hRest⟩ := List.cons.inj hFlatten
      exact ⟨w, rest, rfl, hRest, hProper.2⟩

theorem eq_nil_of_flatten_eq_nil (hProper : [] ∉ segments) (h : segments.flatten = []) :
    segments = [] := by
  cases segments with
  | nil => rfl
  | cons w rest =>
    rw [List.flatten_cons, List.append_eq_nil_iff] at h
    exact absurd (h.1 ▸ List.mem_cons_self) hProper

theorem isCut_nil_iff : IsCut seam [] segments ↔ segments = [] := by
  constructor
  · exact fun h => eq_nil_of_flatten_eq_nil h.proper h.flatten_eq
  · rintro rfl
    refine ⟨rfl, List.not_mem_nil, fun front x y rest h => ?_⟩
    simp at h

theorem isCut_singleton_iff : IsCut seam [c] segments ↔ segments = [[c]] := by
  constructor
  · intro h
    obtain ⟨w, rest, rfl, hRest, hProper⟩ := h.exists_cons
    rw [List.append_eq_nil_iff] at hRest
    rw [hRest.1, eq_nil_of_flatten_eq_nil hProper hRest.2]
  · rintro rfl
    refine ⟨rfl, by simp, fun front x y rest h => ?_⟩
    have hLength := congrArg List.length h
    simp at hLength
    omega

/-- In front of a seam the first character is a segment of its own. -/
theorem IsCut.cons_of_seam (h : IsCut seam (d :: s) segments) (hSeam : seam c d s) :
    IsCut seam (c :: d :: s) ([c] :: segments) := by
  refine ⟨by simp [h.flatten_eq], by simp [h.proper], fun front x y after hSplit => ?_⟩
  rw [endsBehind_cons (by simp)]
  rcases List.cons_eq_append_iff.mp hSplit with ⟨rfl, hHere⟩ | ⟨behind, rfl, hBehind⟩
  · simp only [List.cons.injEq] at hHere
    obtain ⟨rfl, rfl, rfl⟩ := hHere
    exact ⟨fun _ => hSeam, fun _ => ⟨[], List.nil_prefix, rfl⟩⟩
  · rw [← h.ends_iff behind x y after hBehind]
    simp [EndsBehind]

/-- Where there is no seam the first character joins the first segment of the rest. -/
theorem IsCut.cons_of_not_seam (h : IsCut seam (d :: s) ((d :: w) :: segments))
    (hNone : ¬ seam c d s) : IsCut seam (c :: d :: s) ((c :: d :: w) :: segments) := by
  have hFlatten := h.flatten_eq
  have hProper := h.proper
  refine ⟨by simpa using hFlatten, by simpa using hProper, fun front x y after hSplit => ?_⟩
  rw [endsBehind_cons (by simp)]
  rcases List.cons_eq_append_iff.mp hSplit with ⟨rfl, hHere⟩ | ⟨behind, rfl, hBehind⟩
  · simp only [List.cons.injEq] at hHere
    obtain ⟨rfl, rfl, rfl⟩ := hHere
    simp [hNone]
  · rw [← h.ends_iff behind x y after hBehind, endsBehind_cons (by simp)]
    simp

theorem IsCut.cons_cases (h : IsCut seam (c :: d :: s) segments) :
    (seam c d s ∧ ∃ rest, segments = [c] :: rest ∧ IsCut seam (d :: s) rest) ∨
      (¬ seam c d s ∧
        ∃ w rest, segments = (c :: d :: w) :: rest ∧ IsCut seam (d :: s) ((d :: w) :: rest)) := by
  obtain ⟨w, rest, rfl, hRest, hProper⟩ := h.exists_cons
  have hFirst := h.ends_iff [] c d s rfl
  rw [List.nil_append, endsBehind_cons (List.cons_ne_nil c [])] at hFirst
  have hLater : ∀ front x y after, d :: s = front ++ x :: y :: after →
      ((∃ left, left <+: rest ∧ c :: w ++ left.flatten = c :: (front ++ [x])) ↔
        seam x y after) := by
    intro front x y after hSplit
    rw [← h.ends_iff (c :: front) x y after (congrArg (c :: ·) hSplit),
      List.cons_append, endsBehind_cons (List.cons_ne_nil c _)]
  cases w with
  | nil =>
    refine .inl ⟨hFirst.mp ⟨[], List.nil_prefix, rfl⟩, rest, rfl, hRest, hProper, ?_⟩
    simpa [EndsBehind] using hLater
  | cons e w =>
    obtain ⟨rfl, -⟩ := List.cons.inj hRest
    refine .inr ⟨fun hSeam => ?_, w, rest, rfl, hRest, by simp [hProper], ?_⟩
    · obtain ⟨left, _, hLeft⟩ := hFirst.mpr hSeam
      simp at hLeft
    · intro front x y after hSplit
      rw [endsBehind_cons (by simp), ← hLater front x y after hSplit]
      simp

theorem existsUnique_isCut (seam : Char → Char → List Char → Prop) (s : List Char) :
    ∃! segments, IsCut seam s segments := by
  induction s with
  | nil => exact ⟨[], isCut_nil_iff.mpr rfl, fun _ h => isCut_nil_iff.mp h⟩
  | cons c s ih =>
    cases s with
    | nil => exact ⟨[[c]], isCut_singleton_iff.mpr rfl, fun _ h => isCut_singleton_iff.mp h⟩
    | cons d s =>
      obtain ⟨rest, hRest, hOnly⟩ := ih
      by_cases hSeam : seam c d s
      · refine ⟨[c] :: rest, hRest.cons_of_seam hSeam, ?_⟩
        intro others hOthers
        rcases hOthers.cons_cases with ⟨_, rest', rfl, hRest'⟩ | ⟨hNone, _⟩
        · rw [hOnly rest' hRest']
        · exact absurd hSeam hNone
      · obtain ⟨w, rest, rfl, _, _⟩ := hRest.exists_cons
        refine ⟨(c :: d :: w) :: rest, hRest.cons_of_not_seam hSeam, ?_⟩
        intro others hOthers
        rcases hOthers.cons_cases with ⟨hSome, _⟩ | ⟨_, w', rest', rfl, hRest'⟩
        · exact absurd hSome hSeam
        · obtain ⟨hWord, rfl⟩ := List.cons.inj (hOnly _ hRest')
          rw [hWord]

theorem IsCut.congr (h : IsCut seam s segments)
    (hSame : ∀ front x y rest, s = front ++ x :: y :: rest → (seam x y rest ↔ seam' x y rest)) :
    IsCut seam' s segments :=
  ⟨h.flatten_eq, h.proper, fun front x y rest hSplit =>
    (h.ends_iff front x y rest hSplit).trans (hSame front x y rest hSplit)⟩

/-- A segment in which no seam separates what has a property has it as a whole or not at all. -/
theorem IsCut.eq_of_mem {p : Char → Bool} (hSeam : ∀ x y rest, p x ≠ p y → seam x y rest)
    (h : IsCut seam s segments) : ∀ v ∈ segments, ∀ x ∈ v, ∀ y ∈ v, p x = p y := by
  induction s generalizing segments with
  | nil =>
    rw [isCut_nil_iff.mp h]
    exact List.forall_mem_nil _
  | cons c s ih =>
    cases s with
    | nil =>
      rw [isCut_singleton_iff.mp h]
      simp
    | cons d s =>
      rcases h.cons_cases with ⟨_, rest, rfl, hRest⟩ | ⟨hNone, w, rest, rfl, hRest⟩
      · exact List.forall_mem_cons.mpr ⟨by simp, ih hRest⟩
      · have hFirst : p c = p d := by
          by_contra hDiffer
          exact hNone (hSeam c d s hDiffer)
        obtain ⟨hSame, hOthers⟩ := List.forall_mem_cons.mp (ih hRest)
        refine List.forall_mem_cons.mpr ⟨?_, hOthers⟩
        have hAll : ∀ x ∈ c :: d :: w, p x = p d :=
          List.forall_mem_cons.mpr ⟨hFirst, fun x hx => hSame x hx d List.mem_cons_self⟩
        exact fun x hx y hy => (hAll x hx).trans (hAll y hy).symm

theorem flatten_filter_all {p : Char → Bool}
    (h : ∀ v ∈ segments, ∀ x ∈ v, ∀ y ∈ v, p x = p y) :
    (segments.filter (·.all p)).flatten = segments.flatten.filter p := by
  induction segments with
  | nil => rfl
  | cons v rest ih =>
    obtain ⟨hSame, hRest⟩ := List.forall_mem_cons.mp h
    rw [List.flatten_cons, List.filter_append, ← ih hRest]
    by_cases hAll : v.all p = true
    · rw [List.filter_cons_of_pos (by exact hAll), List.flatten_cons,
        List.filter_eq_self.mpr (List.all_eq_true.mp hAll)]
    · have hNone : v.filter p = [] := by
        rw [List.filter_eq_nil_iff]
        intro x hx hSome
        exact hAll (List.all_eq_true.mpr fun y hy => (hSame y hy x hx).trans hSome)
      rw [List.filter_cons_of_neg (by exact hAll), hNone, List.nil_append]

end Cuts

section Words

variable {c d : Char} {current s w : List Char} {segments : List (List Char)}

/-- Where a name is cut between `x` and `y`. -/
def WordSeam (x y : Char) (rest : List Char) : Prop :=
  isAlphanumeric x ≠ isAlphanumeric y ∨
    isAlphanumeric x = true ∧ isAlphanumeric y = true ∧ endsWord x (y :: rest) = true

def wordsOf (segments : List (List Char)) : List (List Char) :=
  (segments.filter (·.all isAlphanumeric)).map lower

theorem wordsOf_cons_of_pos (h : w.all isAlphanumeric = true) :
    wordsOf (w :: segments) = lower w :: wordsOf segments := by
  rw [wordsOf, List.filter_cons_of_pos (by exact h), List.map_cons, wordsOf]

theorem wordsOf_cons_of_neg (h : ¬ w.all isAlphanumeric = true) :
    wordsOf (w :: segments) = wordsOf segments := by
  rw [wordsOf, List.filter_cons_of_neg (by exact h), wordsOf]

theorem wordsOf_cons (h : w ≠ []) :
    wordsOf (w :: segments) =
      flushWord (if w.all isAlphanumeric then w.reverse else []) ++ wordsOf segments := by
  by_cases hAll : w.all isAlphanumeric = true
  · rw [wordsOf_cons_of_pos hAll, if_pos hAll, flushWord, List.isEmpty_reverse,
      if_neg (by simpa using h), List.reverse_reverse, List.singleton_append]
  · rw [wordsOf_cons_of_neg hAll, if_neg hAll]
    rfl

theorem splitWordsFrom_of_not_alphanumeric (h : ¬ isAlphanumeric c = true) :
    splitWordsFrom current (c :: s) = flushWord current ++ splitWordsFrom [] s := by
  rw [splitWordsFrom, if_pos (by simpa using h)]

theorem splitWordsFrom_of_endsWord (h : isAlphanumeric c = true) (hEnds : endsWord c s = true) :
    splitWordsFrom current (c :: s) = flushWord (c :: current) ++ splitWordsFrom [] s := by
  rw [splitWordsFrom, if_neg (by simpa using h), if_pos hEnds]

theorem splitWordsFrom_of_not_endsWord (h : isAlphanumeric c = true)
    (hGoesOn : ¬ endsWord c s = true) :
    splitWordsFrom current (c :: s) = splitWordsFrom (c :: current) s := by
  rw [splitWordsFrom, if_neg (by simpa using h), if_neg hGoesOn]

theorem all_first_segment (h : IsCut WordSeam s ((c :: w) :: segments)) :
    (c :: w).all isAlphanumeric = isAlphanumeric c := by
  have hSame := h.eq_of_mem (fun _ _ _ => .inl) _ List.mem_cons_self
  rw [Bool.eq_iff_iff, List.all_eq_true]
  exact ⟨fun hAll => hAll c List.mem_cons_self,
    fun hc x hx => (hSame x hx c List.mem_cons_self).trans hc⟩

/-- The word under way goes on in the first segment, if that is one of letters and digits. -/
theorem splitWordsFrom_of_isCut (h : IsCut WordSeam s (w :: segments)) (current : List Char) :
    splitWordsFrom current s =
      flushWord (if w.all isAlphanumeric then w.reverse ++ current else current) ++
        wordsOf segments := by
  induction s generalizing w segments current with
  | nil => cases isCut_nil_iff.mp h
  | cons c s ih =>
    cases s with
    | nil =>
      cases isCut_singleton_iff.mp h
      by_cases hc : isAlphanumeric c = true
      · rw [splitWordsFrom_of_not_endsWord hc (by simp [endsWord]), if_pos (by simpa using hc),
          List.reverse_singleton, List.singleton_append]
        exact (List.append_nil _).symm
      · rw [splitWordsFrom_of_not_alphanumeric hc, if_neg (by simpa using hc)]
        rfl
    | cons d s =>
      rcases h.cons_cases with ⟨hSeam, rest, hSegments, hRest⟩ | ⟨hNone, v, rest, hSegments, hRest⟩
      · obtain ⟨rfl, rfl⟩ := List.cons.inj hSegments
        obtain ⟨v, rest, rfl, _, _⟩ := hRest.exists_cons
        -- What a scan finds that starts afresh behind the seam.
        have hNext : splitWordsFrom [] (d :: s) = wordsOf ((d :: v) :: rest) := by
          rw [ih hRest, wordsOf_cons (List.cons_ne_nil d v), List.append_nil]
        by_cases hc : isAlphanumeric c = true
        · rw [if_pos (by simpa using hc), List.reverse_singleton, List.singleton_append]
          by_cases hEnds : endsWord c (d :: s) = true
          · rw [splitWordsFrom_of_endsWord hc hEnds, hNext]
          -- The word under way goes on behind the seam, and `d` ends it.
          · have hd : ¬ isAlphanumeric d = true := by
              rcases hSeam with hDiffer | ⟨_, _, hSome⟩
              · exact fun hd => hDiffer (hc.trans hd.symm)
              · exact absurd hSome hEnds
            have hOther : ¬ (d :: v).all isAlphanumeric = true := all_first_segment hRest ▸ hd
            rw [splitWordsFrom_of_not_endsWord hc hEnds, ih hRest, if_neg hOther,
              wordsOf_cons_of_neg hOther]
        · rw [splitWordsFrom_of_not_alphanumeric hc, hNext, if_neg (by simpa using hc)]
      · obtain ⟨rfl, rfl⟩ := List.cons.inj hSegments
        have hSame : isAlphanumeric c = isAlphanumeric d := by
          by_contra hDiffer
          exact hNone (.inl hDiffer)
        by_cases hc : isAlphanumeric c = true
        · have hd : isAlphanumeric d = true := hSame ▸ hc
          have hGoesOn : ¬ endsWord c (d :: s) = true :=
            fun hEnds => hNone (.inr ⟨hc, hd, hEnds⟩)
          rw [splitWordsFrom_of_not_endsWord hc hGoesOn, ih hRest,
            if_pos ((all_first_segment hRest).trans hd), if_pos ((all_first_segment h).trans hc)]
          simp
        · have hd : ¬ isAlphanumeric d = true := hSame ▸ hc
          rw [splitWordsFrom_of_not_alphanumeric hc, ih hRest,
            if_neg ((all_first_segment hRest) ▸ hd), if_neg ((all_first_segment h) ▸ hc)]
          rfl

theorem splitWords_of_isCut (h : IsCut WordSeam s segments) : splitWords s = wordsOf segments := by
  cases segments with
  | nil =>
    rw [← h.flatten_eq]
    rfl
  | cons w rest =>
    have hFirst : w ≠ [] := fun hEmpty => h.proper (hEmpty ▸ List.mem_cons_self)
    rw [splitWords, splitWordsFrom_of_isCut h, wordsOf_cons hFirst, List.append_nil]

/-- The letters and digits of a text, in their order, are the pieces of which its words are the
lower cases. -/
theorem exists_pieces (s : List Char) :
    ∃ pieces : List (List Char), splitWords s = pieces.map lower ∧ [] ∉ pieces ∧
      pieces.flatten = s.filter isAlphanumeric := by
  obtain ⟨segments, hCut, _⟩ := existsUnique_isCut WordSeam s
  refine ⟨segments.filter (·.all isAlphanumeric), splitWords_of_isCut hCut, ?_, ?_⟩
  · exact fun h => hCut.proper (List.mem_of_mem_filter h)
  · rw [flatten_filter_all (hCut.eq_of_mem fun _ _ _ => .inl), hCut.flatten_eq]

theorem forall_mem_piece {p : Char → Bool} {pieces : List (List Char)}
    (h : pieces.flatten = s.filter p) : ∀ piece ∈ pieces, ∀ c ∈ piece, c ∈ s ∧ p c = true := by
  intro piece hPiece c hc
  have hMem : c ∈ s.filter p := h ▸ List.mem_flatten.mpr ⟨piece, hPiece, hc⟩
  exact List.mem_filter.mp hMem

theorem lowerChar_ne_nil (c : Char) : lowerChar c ≠ [] := by
  rw [lowerChar]
  split
  · exact List.cons_ne_nil _ _
  · split <;> exact List.cons_ne_nil _ _

theorem lower_ne_nil (h : s ≠ []) : lower s ≠ [] := by
  obtain ⟨c, rest, rfl⟩ := List.exists_cons_of_ne_nil h
  rw [lower, lowerFrom]
  apply List.append_ne_nil_of_left_ne_nil
  split
  · exact List.cons_ne_nil _ _
  · exact lowerChar_ne_nil c

theorem nil_not_mem_splitWords (s : List Char) : [] ∉ splitWords s := by
  obtain ⟨pieces, hWords, hProper, _⟩ := exists_pieces s
  intro h
  rw [hWords] at h
  obtain ⟨piece, hPiece, hEmpty⟩ := List.mem_map.mp h
  exact lower_ne_nil (fun hNil => hProper (hNil ▸ hPiece)) hEmpty

end Words

end Boilerplate.Text
