import Mathlib.Data.List.Induction
import Boilerplate.Proofs.Data.Outcome
import Boilerplate.Proofs.Template.Cutting

/-! # Tokens of a cut

The tokens of a source are the parts of its cut, so one pass over a source gives what cutting it and
tidying its lines give.
-/

namespace Boilerplate.Template

open Text

section Close

variable {s body after : List Char} {kind : TagKind}

theorem singleton_prefix_of_append {c : Char} {more : List Char} (hc : c ≠ '%')
    (h : body ++ '%' :: after = c :: more) : [c] <+: body := by
  cases body with
  | nil => exact absurd (List.cons.inj h).1.symm hc
  | cons d rest =>
    obtain ⟨rfl, -⟩ := List.cons.inj h
    exact ⟨rest, rfl⟩

theorem splitClose_append (h : ¬ ['%', '>'] <:+: body) (after : List Char) :
    splitClose (body ++ '%' :: '>' :: after) = some (body, after) := by
  induction body with
  | nil => rfl
  | cons c rest ih =>
    rw [List.infix_cons_iff, not_or] at h
    rw [List.cons_append, splitClose, ih h.2]
    · rfl
    · rintro more rfl hMore
      apply h.1
      rw [List.cons_prefix_cons]
      exact ⟨rfl, singleton_prefix_of_append (by decide) hMore⟩

theorem not_infix_of_splitClose (h : splitClose s = some (body, after)) :
    ¬ ['%', '>'] <:+: body := by
  fun_induction splitClose s generalizing body after with
  | case1 => cases h
  | case2 rest =>
    obtain ⟨rfl, -⟩ := Prod.mk.inj (Option.some.inj h)
    simp
  | case3 c rest hOther ih =>
    obtain ⟨⟨b, a⟩, hSplit, hEq⟩ := Option.map_eq_some_iff.mp h
    obtain ⟨rfl, rfl⟩ := Prod.mk.inj hEq
    rw [List.infix_cons_iff, not_or]
    refine ⟨?_, ih hSplit⟩
    rintro ⟨more, hMore⟩
    obtain ⟨rfl, hBody⟩ := List.cons.inj hMore
    have hRest := eq_of_splitClose hSplit
    rw [← hBody] at hRest
    exact hOther _ rfl hRest

theorem StartsTag.splitClose_eq (h : StartsTag kind body s) :
    splitClose (body ++ '%' :: '>' :: s) = some (body, s) := by
  refine splitClose_append (fun hBody => h.firstClose ?_) s
  exact hBody.trans (List.suffix_append kind.marker body).isInfix

theorem StartsTag.tagKind_eq (h : StartsTag kind body s) :
    tagKind (kind.marker ++ body ++ '%' :: '>' :: s) = (kind, body ++ '%' :: '>' :: s) := by
  cases kind with
  | output => rfl
  | comment => rfl
  | statement =>
    obtain ⟨hOutput, hComment⟩ := h.unmarked rfl
    apply tagKind.eq_3
    · intro more hMore
      exact hOutput (singleton_prefix_of_append (by decide) hMore)
    · intro more hMore
      exact hComment (singleton_prefix_of_append (by decide) hMore)

end Close

section Steps

variable {before collected s : List Char} {ps : List Piece}

theorem tokenizeFrom_char {c : Char} (hEscape : ¬ StartsEscape (c :: s))
    (hTag : ¬ ['<', '%'] <+: c :: s) (before collected : List Char) :
    tokenizeFrom before collected (c :: s) = tokenizeFrom (c :: before) (c :: collected) s := by
  apply tokenizeFrom.eq_5
  · rintro rest rfl rfl
    exact hTag ⟨'%' :: rest, rfl⟩
  · rintro rest rfl rfl
    exact hEscape (.inr ⟨rest, rfl⟩)
  · rintro rest rfl rfl
    exact hTag ⟨rest, rfl⟩

/-- Whatever has been collected, reading `s` behind `before` adds what the pieces stand for. -/
def Reads (before s : List Char) (ps : List Piece) : Prop :=
  ∀ collected, ∃ tokens, tokenizeFrom before collected s = .ok tokens ∧
    tokens.map Token.part = merge ((flushText collected).map Token.part ++ ps.flatMap Piece.shown)

theorem merge_flushText {t : List Char} (hText : t ≠ []) (collected : List Char)
    (parts : List Part) :
    merge ((flushText (t.reverse ++ collected)).map Token.part ++ parts) =
      merge ((flushText collected).map Token.part ++ .text t :: parts) := by
  cases collected with
  | nil => simp [flushText, hText, Token.part]
  | cons c rest =>
    have hJoined := merge_text_text (c :: rest).reverse t parts
    simpa [flushText, Token.part] using hJoined.symm

theorem merge_flushText_other (collected : List Char) {p : Part} (hOther : ∀ s, p ≠ .text s)
    (parts : List Part) :
    merge ((flushText collected).map Token.part ++ p :: parts) =
      (flushText collected).map Token.part ++ p :: merge parts := by
  rw [flushText]
  split
  next => exact addTo_of_ne_text hOther (merge parts)
  next =>
    rw [List.map_singleton, List.singleton_append, merge_cons, merge_cons,
      addTo_of_ne_text hOther, addTo_cons_of_ne_text hOther]
    rfl

theorem Reads.nil (before : List Char) : Reads before [] [] := by
  intro collected
  refine ⟨_, tokenizeFrom.eq_1 before collected, ?_⟩
  rw [flushText]
  split <;> rfl

theorem Reads.text {p : Piece} {t : List Char} (hShown : p.shown = [.text t]) (hText : t ≠ [])
    (hStep : ∀ collected, tokenizeFrom before collected (p.source ++ s) =
      tokenizeFrom (p.source.reverse ++ before) (t.reverse ++ collected) s)
    (h : Reads (p.source.reverse ++ before) s ps) : Reads before (p.source ++ s) (p :: ps) := by
  intro collected
  obtain ⟨tokens, hTokens, hParts⟩ := h (t.reverse ++ collected)
  refine ⟨tokens, (hStep collected).trans hTokens, ?_⟩
  rw [hParts, merge_flushText hText, List.flatMap_cons, hShown, List.singleton_append]

theorem readUpTo_append (before front rest : List Char) :
    readUpTo before (front ++ rest) rest = front.reverse ++ before := by
  rw [readUpTo, List.length_append, Nat.add_sub_cancel, List.take_left]

variable {kind : TagKind} {body gone rest kept : List Char}

theorem tokenizeFrom_tag (hTag : StartsTag kind body s) (before collected : List Char) :
    tokenizeFrom before collected ((Piece.tag kind body).source ++ s) =
      let next := trimLine kind before collected s
      let emitted := emit kind (byteLength before) body next.1
      (tokenizeFrom (readUpTo before ((Piece.tag kind body).source ++ s) next.2) emitted.2
        next.2).map (emitted.1 ++ ·) := by
  have hSource : (Piece.tag kind body).source ++ s =
      '<' :: '%' :: (kind.marker ++ body ++ '%' :: '>' :: s) := by
    simp [Piece.source]
  have hEscape := hTag.noEscape
  rw [hSource] at hEscape
  rw [hSource, tokenizeFrom.eq_4, hTag.tagKind_eq]
  · split
    next hNone =>
      rw [hTag.splitClose_eq] at hNone
      cases hNone
    next hSome =>
      rw [hTag.splitClose_eq] at hSome
      obtain ⟨rfl, rfl⟩ := Prod.mk.inj (Option.some.inj hSome)
      rfl
  · intro more hMore
    rw [hMore] at hEscape
    exact hEscape (.inl ⟨more, rfl⟩)

theorem trimLine_eq_self (hKept : kind = .output ∨ indentBefore? before = none ∨
    afterBlankLine? s = none) (collected : List Char) :
    trimLine kind before collected s = (collected, s) := by
  rw [trimLine]
  split
  · rfl
  next hKind =>
    obtain hOutput | hNone | hNone := hKept
    · exact absurd hOutput hKind
    · rw [hNone]
    · rw [hNone]
      cases indentBefore? before <;> rfl

theorem map_part_emit (kind : TagKind) (opened : Nat) (body kept : List Char) {tokens : List Token}
    {parts : List Part}
    (h : tokens.map Token.part =
      merge ((flushText (emit kind opened body kept).2).map Token.part ++ parts)) :
    ((emit kind opened body kept).1 ++ tokens).map Token.part =
      merge ((flushText kept).map Token.part ++ ((Piece.tag kind body).shown ++ parts)) := by
  cases kind with
  | output | statement =>
    rw [Piece.shown, List.singleton_append, merge_flushText_other kept (by simp), List.map_append,
      h]
    simp [emit, Token.part, flushText]
  | comment => exact h

theorem exists_tokens_tag (hTag : StartsTag kind body (gone ++ rest))
    (hTrim : trimLine kind before collected (gone ++ rest) = (kept, rest))
    (h : Reads (gone.reverse ++ ((Piece.tag kind body).source.reverse ++ before)) rest ps) :
    ∃ tokens, tokenizeFrom before collected ((Piece.tag kind body).source ++ (gone ++ rest)) =
        .ok tokens ∧
      tokens.map Token.part = merge ((flushText kept).map Token.part ++
        (Piece.tag kind body :: ps).flatMap Piece.shown) := by
  have hUpTo : readUpTo before ((Piece.tag kind body).source ++ (gone ++ rest)) rest =
      gone.reverse ++ ((Piece.tag kind body).source.reverse ++ before) := by
    rw [← List.append_assoc, readUpTo_append, List.reverse_append, List.append_assoc]
  obtain ⟨tokens, hTokens, hParts⟩ := h (emit kind (byteLength before) body kept).2
  refine ⟨(emit kind (byteLength before) body kept).1 ++ tokens, ?_, map_part_emit _ _ _ _ hParts⟩
  rw [tokenizeFrom_tag hTag, hTrim]
  simp only [hUpTo, hTokens]
  rfl

theorem Reads.tag (hTag : StartsTag kind body s)
    (hKept : kind = .output ∨ indentBefore? before = none ∨ afterBlankLine? s = none)
    (h : Reads ((Piece.tag kind body).source.reverse ++ before) s ps) :
    Reads before ((Piece.tag kind body).source ++ s) (.tag kind body :: ps) := by
  intro collected
  have hTrim : trimLine kind before collected ([] ++ s) = (collected, s) :=
    trimLine_eq_self hKept collected
  exact exists_tokens_tag hTag hTrim h

end Steps

section Sources

variable {before s : List Char} {ps front line rest : List Piece}

theorem afterBlankLine?_cons {c : Char} (hc : c ≠ '\n') (s : List Char) :
    afterBlankLine? (c :: s) = if isLineFiller c then afterBlankLine? s else none := by
  have hLine : (c :: s).takeWhile (· != '\n') = c :: s.takeWhile (· != '\n') :=
    List.takeWhile_cons_of_pos (bne_iff_ne.mpr hc)
  rw [afterBlankLine?, hLine, List.all_cons, afterBlankLine?]
  cases isLineFiller c <;> rfl

theorem indentBefore?_cons {c : Char} (hc : c ≠ '\n') (before : List Char) :
    indentBefore? (c :: before) =
      if isIndent c then (indentBefore? before).map (c.utf8Size + ·) else none := by
  have hLine : (c :: before).takeWhile (· != '\n') = c :: before.takeWhile (· != '\n') :=
    List.takeWhile_cons_of_pos (bne_iff_ne.mpr hc)
  rw [indentBefore?, hLine, List.all_cons, indentBefore?]
  cases isIndent c
  · rfl
  · cases (before.takeWhile (· != '\n')).all isIndent <;> rfl

/-- Nothing stands in front on the same line. -/
def AtLineStart (before : List Char) : Prop :=
  before.takeWhile (· != '\n') = []

theorem indentBefore?_of_atLineStart (h : AtLineStart before) : indentBefore? before = some 0 := by
  rw [indentBefore?, h]
  rfl

theorem reverse_sourceOf_concat (front : List Piece) (c : Char) (before : List Char) :
    (sourceOf (front ++ [.char c])).reverse ++ before =
      c :: ((sourceOf front).reverse ++ before) := by
  simp [Piece.source, sourceOf]

theorem indentBefore?_append (hBlank : front.all Piece.isIndent) (hStart : AtLineStart before) :
    indentBefore? ((sourceOf front).reverse ++ before) = some (byteLength (sourceOf front)) := by
  induction front using List.reverseRecOn with
  | nil => exact indentBefore?_of_atLineStart hStart
  | append_singleton front p ih =>
    rw [List.all_append, Bool.and_eq_true] at hBlank
    have hFront := ih hBlank.1
    cases p with
    | char c =>
      have hIndent : isIndent c := by simpa [Piece.isIndent, isIndent] using hBlank.2
      have hc : c ≠ '\n' := by
        rintro rfl
        exact absurd hIndent (by decide)
      rw [reverse_sourceOf_concat, indentBefore?_cons hc, if_pos hIndent, hFront]
      simp [Piece.source, sourceOf, Nat.add_comm]
    | _ => simp [Piece.isIndent] at hBlank

theorem all_isIndent_of_indentBefore? (hLine : .char '\n' ∉ front)
    (h : indentBefore? ((sourceOf front).reverse ++ before) ≠ none) :
    front.all Piece.isIndent := by
  induction front using List.reverseRecOn with
  | nil => rfl
  | append_singleton front p ih =>
    rw [List.mem_append, List.mem_singleton, not_or] at hLine
    cases p with
    | char c =>
      have hc : c ≠ '\n' := fun hc => hLine.2 (hc ▸ rfl)
      rw [reverse_sourceOf_concat, indentBefore?_cons hc] at h
      split at h
      next hIndent =>
        have hFront := ih hLine.1 fun hNone => h (by rw [hNone]; rfl)
        rw [List.all_append, hFront]
        simpa [Piece.isIndent, isIndent] using hIndent
      next => exact absurd rfl h
    | openMark | closeMark | tag =>
      simp [Piece.source, sourceOf, indentBefore?_cons, isIndent] at h

theorem Line.afterBlankLine?_eq (hLine : Line line rest) (hBlank : line.all Piece.isLineEnd)
    (hCut : Cut s (line ++ rest)) :
    ∃ s', afterBlankLine? s = some s' ∧ s = sourceOf line ++ s' ∧ Cut s' rest := by
  induction hLine generalizing s with
  | eof =>
    cases hCut
    exact ⟨[], rfl, rfl, .nil⟩
  | newline =>
    obtain ⟨s', rfl, hRest⟩ := hCut.tail
    exact ⟨s', rfl, rfl, hRest⟩
  | @cons p line rest hp _ ih =>
    rw [List.all_cons, Bool.and_eq_true] at hBlank
    obtain ⟨t, rfl, hRest⟩ := hCut.tail
    obtain ⟨s', hAfter, rfl, hNext⟩ := ih hBlank.2 hRest
    refine ⟨s', ?_, by rw [sourceOf_cons, List.append_assoc], hNext⟩
    cases p with
    | char c =>
      have hc : c ≠ '\n' := fun hc => hp (hc ▸ rfl)
      have hFiller : isLineFiller c := by
        simpa [Piece.isLineEnd, isLineFiller, hc] using hBlank.1
      rw [Piece.source, List.singleton_append, afterBlankLine?_cons hc, if_pos hFiller, hAfter]
    | _ => simp [Piece.isLineEnd] at hBlank

theorem Line.all_isLineEnd (hLine : Line line rest) (hCut : Cut s (line ++ rest))
    (h : afterBlankLine? s ≠ none) : line.all Piece.isLineEnd := by
  induction hLine generalizing s with
  | eof => rfl
  | newline => rfl
  | @cons p line rest hp _ ih =>
    obtain ⟨t, rfl, hRest⟩ := hCut.tail
    cases p with
    | char c =>
      have hc : c ≠ '\n' := fun hc => hp (hc ▸ rfl)
      rw [Piece.source, List.singleton_append, afterBlankLine?_cons hc] at h
      split at h
      next hFiller =>
        rw [List.all_cons, ih hRest h, Bool.and_true]
        simpa [Piece.isLineEnd, isLineFiller, hc] using hFiller
      next => exact absurd rfl h
    | openMark | closeMark | tag =>
      simp [Piece.source, afterBlankLine?_cons, isLineFiller] at h

/-- A tag stands alone among the pieces of its line just when the source around it is blank. -/
theorem standsAlone_iff {kind : TagKind} (hFront : .char '\n' ∉ front) (hLine : Line line rest)
    (hCut : Cut s (line ++ rest)) (hStart : AtLineStart before) :
    StandsAlone front kind line ↔ kind ≠ .output ∧
      indentBefore? ((sourceOf front).reverse ++ before) ≠ none ∧ afterBlankLine? s ≠ none := by
  constructor
  · intro hAlone
    refine ⟨hAlone.kind, ?_, ?_⟩
    · rw [indentBefore?_append hAlone.front hStart]
      exact Option.some_ne_none _
    · obtain ⟨s', hAfter, -⟩ := hLine.afterBlankLine?_eq hAlone.back hCut
      rw [hAfter]
      exact Option.some_ne_none s'
  · rintro ⟨hKind, hIndent, hBlank⟩
    exact ⟨hKind, all_isIndent_of_indentBefore? hFront hIndent, hLine.all_isLineEnd hCut hBlank⟩

end Sources

section Cuts

variable {before collected s : List Char} {ps front back line rest kept : List Piece}
  {kind : TagKind} {body : List Char}

theorem byteLength_reverse (s : List Char) : byteLength s.reverse = byteLength s := by
  induction s with
  | nil => rfl
  | cons c s ih =>
    rw [List.reverse_cons, byteLength_append, ih, byteLength_cons, byteLength_cons, byteLength_nil]
    omega

theorem dropBytes_append (gone kept : List Char) :
    dropBytes (byteLength gone) (gone ++ kept) = kept := by
  induction gone with
  | nil => cases kept <;> rfl
  | cons c gone ih =>
    have hSize : 0 < c.utf8Size := Char.utf8Size_pos c
    rw [List.cons_append, dropBytes, byteLength_cons, if_neg (by omega), Nat.add_sub_cancel_left,
      ih]

theorem tokenizeFrom_indent (hBlank : front.all Piece.isIndent) (hCut : Cut s (front ++ ps))
    (before collected : List Char) :
    ∃ s', s = sourceOf front ++ s' ∧ Cut s' ps ∧
      tokenizeFrom before collected s = tokenizeFrom ((sourceOf front).reverse ++ before)
        ((sourceOf front).reverse ++ collected) s' := by
  induction front generalizing s before collected with
  | nil => exact ⟨s, rfl, hCut, rfl⟩
  | cons p front ih =>
    rw [List.all_cons, Bool.and_eq_true] at hBlank
    cases hCut with
    | @char c t _ hEscape hTag hRest =>
      obtain ⟨s', rfl, hNext, hStep⟩ := ih hBlank.2 hRest (c :: before) (c :: collected)
      refine ⟨s', rfl, hNext, ?_⟩
      rw [tokenizeFrom_char hEscape hTag, hStep]
      simp [Piece.source]
    | _ => simp [Piece.isIndent] at hBlank

theorem reads_lone (hAlone : StandsAlone front kind back) (hLine : Line back rest)
    (hCut : Cut s (front ++ .tag kind body :: (back ++ rest))) (hStart : AtLineStart before)
    (hNext : ∀ s', Cut s' rest →
      Reads ((sourceOf (front ++ .tag kind body :: back)).reverse ++ before) s' kept) :
    Reads before s (.tag kind body :: kept) := by
  intro collected
  -- Once the tag is reached its indentation has been collected, and it goes by its size in bytes.
  obtain ⟨t, rfl, hRest, hIndent⟩ := tokenizeFrom_indent hAlone.front hCut before collected
  cases hRest with
  | @tag _ _ u _ hTag hBack =>
    obtain ⟨s', hAfter, rfl, hRest⟩ := hLine.afterBlankLine?_eq hAlone.back hBack
    have hTrim : trimLine kind ((sourceOf front).reverse ++ before)
        ((sourceOf front).reverse ++ collected) (sourceOf back ++ s') = (collected, s') := by
      rw [trimLine, if_neg hAlone.kind, indentBefore?_append hAlone.front hStart, hAfter]
      simp only
      rw [← byteLength_reverse, dropBytes_append]
    have hReads := hNext s' hRest
    simp only [sourceOf_append, sourceOf_cons, List.reverse_append, List.append_assoc] at hReads
    rw [hIndent]
    exact exists_tokens_tag hTag hTrim hReads

/-- A line without a lone statement or comment is read as it is, once `front` has been read. -/
theorem reads_line (hLine : Line line rest) (hCut : Cut s (line ++ rest))
    (hStart : AtLineStart before) (hFront : .char '\n' ∉ front)
    (hPlain : ∀ left kind body right, front ++ line = left ++ .tag kind body :: right →
      ¬ StandsAlone left kind right)
    (hNext : ∀ s', Cut s' rest → Reads ((sourceOf (front ++ line)).reverse ++ before) s' kept) :
    Reads ((sourceOf front).reverse ++ before) s (line ++ kept) := by
  induction hLine generalizing front s with
  | eof => simpa using hNext s hCut
  | newline =>
    cases hCut with
    | @char _ t _ hEscape hTag hRest =>
      have hReads : Reads ((Piece.char '\n').source.reverse ++ ((sourceOf front).reverse ++ before))
          t kept := by
        simpa [sourceOf] using hNext t hRest
      exact .text rfl (List.cons_ne_nil _ _) (tokenizeFrom_char hEscape hTag _) hReads
  | @cons p line rest hp hLine ih =>
    have hStep : front ++ p :: line = front ++ [p] ++ line := by simp
    rw [hStep] at hPlain hNext
    have hRead : ∀ t, Cut t (line ++ rest) →
        Reads (p.source.reverse ++ ((sourceOf front).reverse ++ before)) t (line ++ kept) := by
      intro t hCut
      have hReads := ih hCut (by simp [hFront, hp.symm]) hPlain hNext
      simpa [sourceOf] using hReads
    cases hCut with
    | @openMark t _ hRest =>
      refine .text rfl (List.cons_ne_nil _ _) (fun collected => ?_) (hRead t hRest)
      exact tokenizeFrom.eq_2 _ collected t
    | @closeMark t _ hRest =>
      refine .text rfl (List.cons_ne_nil _ _) (fun collected => ?_) (hRead t hRest)
      exact tokenizeFrom.eq_3 _ collected t
    | char hEscape hTag hRest =>
      exact .text rfl (List.cons_ne_nil _ _) (tokenizeFrom_char hEscape hTag _) (hRead _ hRest)
    | @tag kind body t _ hTag hRest =>
      have hKept : kind = .output ∨
          indentBefore? ((sourceOf front).reverse ++ before) = none ∨ afterBlankLine? t = none := by
        have hAlone := hPlain front kind body line (by simp)
        rw [standsAlone_iff hFront hLine hRest hStart] at hAlone
        simpa only [ne_eq, not_and_or, not_not] using hAlone
      exact .tag hTag hKept (hRead t hRest)

theorem Line.next (hLine : Line line rest)
    (h : ∀ before s, AtLineStart before → Cut s rest → Reads before s (tidy rest)) :
    ∀ before s, Cut s rest → Reads ((sourceOf line).reverse ++ before) s (tidy rest) := by
  induction hLine with
  | eof =>
    intro before s hCut
    cases hCut
    exact .nil _
  | newline =>
    intro before s hCut
    exact h _ s rfl hCut
  | @cons p line rest hp _ ih =>
    intro before s hCut
    have hReads := ih h (p.source.reverse ++ before) s hCut
    rwa [sourceOf_cons, List.reverse_append, List.append_assoc]

theorem reads_tidy (hCut : Cut s ps) (hStart : AtLineStart before) : Reads before s (tidy ps) := by
  -- Whole lines are read: inside one it is open whether the indentation in front will stay.
  induction hLength : ps.length using Nat.strongRecOn generalizing before s ps with
  | ind n ih =>
    by_cases hSome : ps = []
    · subst hSome
      cases hCut
      exact .nil before
    obtain ⟨line, rest, hNonempty, rfl, hLines, hLine⟩ := exists_line hSome
    have hShorter : rest.length < n := by
      have hPositive := List.length_pos_iff.mpr hNonempty
      rw [List.length_append] at hLength
      omega
    have hNext := hLine.next fun before s hStart hCut => ih _ hShorter hCut hStart rfl
    have hTidy : tidy (line ++ rest) = tidyLine line ++ tidy rest := by
      rw [tidy, hLines, List.flatMap_cons, tidy]
    rw [hTidy]
    obtain ⟨front, kind, body, back, rfl, hAlone, hLone⟩ | ⟨hSame, hPlain⟩ := tidyLine_cases line
    · rw [hLone, List.singleton_append]
      rw [List.append_assoc, List.cons_append] at hCut
      exact reads_lone hAlone (hLine.of_append (by simp)) hCut hStart (hNext before)
    · rw [hSame]
      have hFront : .char '\n' ∉ ([] : List Piece) := List.not_mem_nil
      exact reads_line hLine hCut hStart hFront hPlain (hNext before)

end Cuts

section Existence

variable {s body after rest : List Char} {ps : List Piece} {kind : TagKind}

theorem exists_cut_of_afterBlankLine? (hAfter : afterBlankLine? s = some rest)
    (hCut : Cut rest ps) : ∃ ps, Cut s ps := by
  induction s with
  | nil => exact ⟨[], .nil⟩
  | cons c s ih =>
    by_cases hc : c = '\n'
    · subst hc
      obtain rfl := Option.some.inj hAfter
      exact ⟨_, hCut.ordinary (by decide) (by decide)⟩
    · rw [afterBlankLine?_cons hc, Option.ite_none_right_eq_some] at hAfter
      obtain ⟨hFiller, hAfter⟩ := hAfter
      obtain ⟨ps, hCut⟩ := ih hAfter
      refine ⟨_, hCut.ordinary ?_ ?_⟩
      · rintro rfl
        exact absurd hFiller (by decide)
      · rintro rfl
        exact absurd hFiller (by decide)

theorem exists_cut_of_trimLine {before collected : List Char}
    (hCut : Cut (trimLine kind before collected s).2 ps) : ∃ ps, Cut s ps := by
  rw [trimLine] at hCut
  split at hCut
  · exact ⟨ps, hCut⟩
  · split at hCut
    next hAfter => exact exists_cut_of_afterBlankLine? hAfter hCut
    next => exact ⟨ps, hCut⟩

theorem eq_marker_append_tagKind (s : List Char) : s = (tagKind s).1.marker ++ (tagKind s).2 := by
  fun_cases tagKind s <;> rfl

theorem tagKind_eq_statement (h : (tagKind s).1 = .statement) :
    ¬ ['='] <+: (tagKind s).2 ∧ ¬ ['#'] <+: (tagKind s).2 := by
  fun_cases tagKind s with
  | case1 => cases h
  | case2 => cases h
  | case3 _ hOutput hComment =>
    refine ⟨?_, ?_⟩
    · rintro ⟨more, hMore⟩
      exact hOutput more hMore.symm
    · rintro ⟨more, hMore⟩
      exact hComment more hMore.symm

theorem source_of_splitClose (hSplit : splitClose (tagKind s).2 = some (body, after)) :
    '<' :: '%' :: s = (Piece.tag (tagKind s).1 body).source ++ after := by
  have hMarker := eq_marker_append_tagKind s
  rw [eq_of_splitClose hSplit] at hMarker
  simpa [Piece.source] using hMarker

theorem not_startsEscape_of_open (hEscape : ∀ more, s = '%' :: more → False) :
    ¬ StartsEscape ('<' :: '%' :: s) := by
  rintro (⟨more, hMore⟩ | ⟨more, hMore⟩)
  · exact hEscape more (by simpa using hMore.symm)
  · simp at hMore

theorem StartsTag.of_splitClose (hEscape : ∀ more, s = '%' :: more → False)
    (hSplit : splitClose (tagKind s).2 = some (body, after)) :
    StartsTag (tagKind s).1 body after := by
  have hPrefix : body <+: (tagKind s).2 := ⟨_, (eq_of_splitClose hSplit).symm⟩
  have hFirst := not_infix_of_splitClose hSplit
  refine ⟨?_, ?_, ?_⟩
  · rw [← source_of_splitClose hSplit]
    exact not_startsEscape_of_open hEscape
  · cases (tagKind s).1 <;> simp [TagKind.marker, List.infix_cons_iff, hFirst]
  · intro hKind
    obtain ⟨hOutput, hComment⟩ := tagKind_eq_statement hKind
    exact ⟨fun h => hOutput (h.trans hPrefix), fun h => hComment (h.trans hPrefix)⟩

theorem Cut.of_splitClose (hEscape : ∀ more, s = '%' :: more → False)
    (hSplit : splitClose (tagKind s).2 = some (body, after)) (hCut : Cut after ps) :
    Cut ('<' :: '%' :: s) (.tag (tagKind s).1 body :: ps) := by
  rw [source_of_splitClose hSplit]
  exact .tag (.of_splitClose hEscape hSplit) hCut

theorem not_startsEscape {c : Char} (hOpen : ¬ ['<', '%'] <+: c :: s)
    (hClose : ¬ ['%', '%', '>'] <+: c :: s) : ¬ StartsEscape (c :: s) := by
  rintro (hFront | hFront)
  · exact hOpen (List.IsPrefix.trans ⟨['%'], rfl⟩ hFront)
  · exact hClose hFront

/-- A character that is read as such starts neither an escape nor a tag. -/
theorem plain_of_char {c : Char} (hClose : ∀ more, c = '%' → s = '%' :: '>' :: more → False)
    (hTag : ∀ more, c = '<' → s = '%' :: more → False) :
    ¬ StartsEscape (c :: s) ∧ ¬ ['<', '%'] <+: c :: s := by
  have hOpen : ¬ ['<', '%'] <+: c :: s := by
    rintro ⟨more, hMore⟩
    obtain ⟨rfl, hRest⟩ := List.cons.inj hMore
    exact hTag more rfl hRest.symm
  refine ⟨not_startsEscape hOpen ?_, hOpen⟩
  rintro ⟨more, hMore⟩
  obtain ⟨rfl, hRest⟩ := List.cons.inj hMore
  exact hClose more rfl hRest.symm

theorem exists_cut {before collected : List Char} {tokens : List Token}
    (h : tokenizeFrom before collected s = .ok tokens) : ∃ ps, Cut s ps := by
  fun_induction tokenizeFrom before collected s generalizing tokens with
  | case1 => exact ⟨[], .nil⟩
  | case2 _ _ _ ih =>
    obtain ⟨ps, hCut⟩ := ih h
    exact ⟨_, .openMark hCut⟩
  | case3 _ _ _ ih =>
    obtain ⟨ps, hCut⟩ := ih h
    exact ⟨_, .closeMark hCut⟩
  | case4 => cases h
  | case5 before collected inner hEscape body after hSplit =>
    rename_i ih
    obtain ⟨rest, hRest, -⟩ := map_eq_ok.mp h
    obtain ⟨ps, hCut⟩ := ih hRest
    obtain ⟨qs, hAfter⟩ := exists_cut_of_trimLine hCut
    exact ⟨_, .of_splitClose hEscape hSplit hAfter⟩
  | case6 before collected c rest _ hClose hTag ih =>
    obtain ⟨ps, hCut⟩ := ih h
    obtain ⟨hEscape, hOpen⟩ := plain_of_char hClose hTag
    exact ⟨_, .char hEscape hOpen hCut⟩

end Existence

/-- The sources with tokens are those with a cut, and the tokens are the parts of the cut. Every
character that its lines are left with is in a text once and in order; no text is empty, and no two
are neighbours. -/
theorem tokenize_agrees_with_cut (source : List Char) :
    ((∃ tokens, tokenize source = .ok tokens) ↔ ∃ ps, Cut source ps) ∧
      ∀ ps, Cut source ps → sourceOf ps = source ∧ (lines ps).flatten = ps ∧
        ∃ tokens, tokenize source = .ok tokens ∧ tokens.map Token.part = partsOf ps ∧
          (tokens.map Token.part).flatMap Part.split =
            ((tidy ps).flatMap Piece.shown).flatMap Part.split ∧
          .text [] ∉ tokens.map Token.part ∧
          ∀ s t, ¬ [.text s, .text t] <:+: tokens.map Token.part := by
  have hReads : ∀ ps, Cut source ps →
      ∃ tokens, tokenize source = .ok tokens ∧ tokens.map Token.part = partsOf ps := by
    intro ps hCut
    have hStart : AtLineStart [] := rfl
    exact reads_tidy hCut hStart []
  refine ⟨⟨?_, ?_⟩, ?_⟩
  · rintro ⟨tokens, hTokens⟩
    exact exists_cut hTokens
  · rintro ⟨ps, hCut⟩
    obtain ⟨tokens, hTokens, -⟩ := hReads ps hCut
    exact ⟨tokens, hTokens⟩
  · intro ps hCut
    obtain ⟨tokens, hTokens, hParts⟩ := hReads ps hCut
    refine ⟨hCut.sourceOf_eq, flatten_lines ps, tokens, hTokens, hParts, ?_⟩
    rw [hParts]
    exact ⟨split_merge _, empty_not_mem_merge (empty_not_mem_shown _), not_adjacent_merge _⟩

theorem tokenize_agrees_with_cut_of_lines :
    let source := ['%', '%', '>', '\n', '\t', '<', '%', 'i', '\n', '%', '>', ' ', '\r', '\n',
      '<', '%', '#', '%', '>', 'é']
    let ps : List Piece := [.closeMark, .char '\n', .char '\t', .tag .statement ['i', '\n'],
      .char ' ', .char '\r', .char '\n', .tag .comment [], .char 'é']
    Cut source ps ∧ ∃ tokens, tokenize source = .ok tokens ∧ tokens.map Token.part =
      [.text ['%', '>', '\n'], .statement ['i', '\n'], .text ['é']] := by
  intro source ps
  have hComment : Cut ((Piece.tag .comment []).source ++ ['é']) [.tag .comment [], .char 'é'] :=
    .tag ⟨by decide, by decide, by decide⟩ (.ordinary (by decide) (by decide) .nil)
  have hStatement : Cut ((Piece.tag .statement ['i', '\n']).source ++ ' ' :: '\r' :: '\n' :: _)
      (.tag .statement ['i', '\n'] :: .char ' ' :: .char '\r' :: .char '\n' :: _) :=
    .tag ⟨by decide, by decide, by decide⟩ (.ordinary (by decide) (by decide)
      (.ordinary (by decide) (by decide) (.ordinary (by decide) (by decide) hComment)))
  have hCut : Cut source ps := .closeMark (.ordinary (by decide) (by decide)
    (.ordinary (by decide) (by decide) hStatement))
  obtain ⟨-, -, tokens, hTokens, hParts, -⟩ := (tokenize_agrees_with_cut source).2 ps hCut
  exact ⟨hCut, tokens, hTokens, hParts⟩

end Boilerplate.Template
