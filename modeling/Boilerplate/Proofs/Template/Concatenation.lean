import Boilerplate.Proofs.Template.Equivalence
import Boilerplate.Proofs.Template.Parsing
import Boilerplate.Proofs.Template.Tokenizing
import Boilerplate.Proofs.Template.Typing

/-! # Sources one after the other

Where a line ends a source can be taken apart: the tags, the lines and the blocks of the two parts
do not meet, and only the texts at the seam are merged.
-/

namespace Boilerplate.Template

/-- Empty, or with a line end as its last character. -/
def EndsLine (s : List Char) : Prop :=
  s = [] ∨ s.getLast? = some '\n'

section Cuts

variable {s t l : List Char} {ps qs : List Piece} {p : Piece}

theorem EndsLine.of_suffix (h : EndsLine t) (hBack : s <:+ t) : EndsLine s := by
  obtain ⟨front, rfl⟩ := hBack
  by_cases hSome : s = []
  · exact .inl hSome
  · rw [EndsLine, List.append_eq_nil_iff, List.getLast?_append_of_ne_nil _ hSome] at h
    exact h.imp_left And.right

/-- What has no line end in it does not reach over one. -/
theorem prefix_of_prefix_append (hEnd : EndsLine s) (hSome : s ≠ []) (hLine : '\n' ∉ l)
    (h : l <+: s ++ t) : l <+: s := by
  have hLast : s.getLast? = some '\n' := hEnd.resolve_left hSome
  obtain hShort | hLong := Nat.le_total l.length s.length
  · exact List.prefix_of_prefix_length_le h (List.prefix_append s t) hShort
  · have hInside := List.prefix_of_prefix_length_le (List.prefix_append s t) h hLong
    exact absurd (hInside.mem (List.mem_of_getLast? hLast)) hLine

theorem startsEscape_of_append (hEnd : EndsLine s) (hSome : s ≠ [])
    (h : StartsEscape (s ++ t)) : StartsEscape s :=
  h.imp (prefix_of_prefix_append hEnd hSome (by decide))
    (prefix_of_prefix_append hEnd hSome (by decide))

theorem Cut.append (hFront : Cut s ps) (hEnd : EndsLine s) (hBack : Cut t qs) :
    Cut (s ++ t) (ps ++ qs) := by
  induction hFront with
  | nil => exact hBack
  | openMark _ ih => exact .openMark (ih (hEnd.of_suffix ⟨['<', '%', '%'], rfl⟩))
  | closeMark _ ih => exact .closeMark (ih (hEnd.of_suffix ⟨['%', '%', '>'], rfl⟩))
  | @tag kind body s ps hTag hRest ih =>
    rw [List.append_assoc]
    refine .tag ⟨?_, hTag.firstClose, hTag.unmarked⟩ (ih (hEnd.of_suffix (List.suffix_append _ _)))
    rw [← List.append_assoc]
    exact fun h => hTag.noEscape (startsEscape_of_append hEnd (by simp [Piece.source]) h)
  | @char c s ps hEscape hOpen hRest ih =>
    have hSome : c :: s ≠ [] := List.cons_ne_nil c s
    refine .char ?_ ?_ (ih (hEnd.of_suffix (List.suffix_cons c s)))
    · exact fun h => hEscape (startsEscape_of_append hEnd hSome h)
    · exact fun h => hOpen (prefix_of_prefix_append hEnd hSome (by decide) h)

/-- No piece, or a line end as the last one. -/
def EndsPieces (ps : List Piece) : Prop :=
  ps = [] ∨ ps.getLast? = some (.char '\n')

theorem Piece.eq_newline_of_endsLine (h : EndsLine p.source) : p = .char '\n' := by
  cases p with
  | char c => simpa [EndsLine, source] using h
  | openMark | closeMark => simp [EndsLine, source] at h
  | tag kind body =>
    have hClose : EndsLine ['%', '>'] :=
      h.of_suffix ⟨'<' :: '%' :: (kind.marker ++ body), by simp [source]⟩
    simp [EndsLine] at hClose

theorem Cut.endsPieces (hCut : Cut s ps) (hEnd : EndsLine s) : EndsPieces ps := by
  obtain rfl | ⟨front, p, rfl⟩ := List.eq_nil_or_concat' ps
  · exact .inl rfl
  · have hSource : sourceOf front ++ p.source = s := by
      simpa [sourceOf] using hCut.sourceOf_eq
    have hLast : p = .char '\n' := p.eq_newline_of_endsLine (hEnd.of_suffix ⟨_, hSource⟩)
    rw [hLast]
    exact .inr (List.getLast?_concat)

end Cuts

section Lines

variable {ps : List Piece}

theorem lines_append (hEnd : EndsPieces ps) (qs : List Piece) :
    lines (ps ++ qs) = lines ps ++ lines qs := by
  induction ps with
  | nil => rfl
  | cons p rest ih =>
    by_cases hLast : rest = []
    · subst hLast
      have hNewline : p = .char '\n' := by simpa [EndsPieces] using hEnd
      simp [lines, hNewline]
    · have hRest : EndsPieces rest := by
        simpa [EndsPieces, hLast, List.getLast?_cons_of_ne_nil] using hEnd
      rw [List.cons_append, lines, lines, ih hRest]
      split
      · rfl
      · cases hLines : lines rest with
        | nil =>
          have hFlat := flatten_lines rest
          rw [hLines] at hFlat
          exact absurd hFlat.symm hLast
        | cons line more => rfl

theorem tidy_append (hEnd : EndsPieces ps) (qs : List Piece) :
    tidy (ps ++ qs) = tidy ps ++ tidy qs := by
  rw [tidy, lines_append hEnd, List.flatMap_append, tidy, tidy]

end Lines

theorem merge_merge_append (ps qs : List Part) : merge (merge ps ++ qs) = merge (ps ++ qs) := by
  induction ps with
  | nil => rfl
  | cons p rest ih =>
    rw [merge_cons, List.cons_append, merge_cons, ← ih]
    obtain ⟨s, t, more, rfl, hMerged, hJoined⟩ | ⟨hApart, -⟩ := addTo_cases p (merge rest)
    · rw [hJoined, List.cons_append, ← merge_text_text, hMerged]
      rfl
    · rw [hApart]
      rfl

theorem merge_append_merge (ps qs : List Part) :
    merge (merge ps ++ merge qs) = merge (ps ++ qs) := by
  have hBack : merge (merge qs) = merge qs := by
    simpa using merge_merge_append qs []
  calc
    merge (merge ps ++ merge qs) = merge (ps ++ merge qs) := merge_merge_append ps (merge qs)
    _ = ps.foldr Part.addTo (merge (merge qs)) := List.foldr_append
    _ = ps.foldr Part.addTo (merge qs) := by rw [hBack]
    _ = merge (ps ++ qs) := List.foldr_append.symm

section Sources

variable {s t : List Char} {tokens more : List Token} {ps : List Piece}

theorem exists_tokens_of_cut (hCut : Cut s ps) :
    ∃ tokens, tokenize s = .ok tokens ∧ tokens.map Token.part = partsOf ps := by
  have hStart : AtLineStart [] := rfl
  exact reads_tidy hCut hStart []

theorem exists_cut_of_tokenize (h : tokenize s = .ok tokens) :
    ∃ ps, Cut s ps ∧ tokens.map Token.part = partsOf ps := by
  obtain ⟨ps, hCut⟩ := exists_cut h
  obtain ⟨read, hRead, hParts⟩ := exists_tokens_of_cut hCut
  obtain rfl := Except.ok.inj (h.symm.trans hRead)
  exact ⟨ps, hCut, hParts⟩

/-- Only the texts at the seam are merged. -/
theorem tokenize_append (hEnd : EndsLine s) (hFront : tokenize s = .ok tokens)
    (hBack : tokenize t = .ok more) :
    ∃ whole, tokenize (s ++ t) = .ok whole ∧
      whole.map Token.part = merge ((tokens ++ more).map Token.part) := by
  obtain ⟨ps, hFrontCut, hFrontParts⟩ := exists_cut_of_tokenize hFront
  obtain ⟨qs, hBackCut, hBackParts⟩ := exists_cut_of_tokenize hBack
  obtain ⟨whole, hWhole, hParts⟩ := exists_tokens_of_cut (hFrontCut.append hEnd hBackCut)
  refine ⟨whole, hWhole, ?_⟩
  rw [hParts, List.map_append, hFrontParts, hBackParts, partsOf, partsOf, partsOf,
    merge_append_merge, tidy_append (hFrontCut.endsPieces hEnd), List.flatMap_append]

theorem parseNodes_append {front back : List Node} (hEnd : EndsLine s)
    (hFront : parseNodes s = .ok front) (hBack : parseNodes t = .ok back) :
    ∃ whole, parseNodes (s ++ t) = .ok whole ∧ SameOutcome evalNodes (front ++ back) whole := by
  obtain ⟨tokens, hFrontTokens, hFrontNodes⟩ := bind_eq_ok.mp hFront
  obtain ⟨more, hBackTokens, hBackNodes⟩ := bind_eq_ok.mp hBack
  obtain ⟨joined, hTokens, hParts⟩ := tokenize_append hEnd hFrontTokens hBackTokens
  -- The lines of the second part are counted anew, from the start of the whole.
  obtain ⟨front', hFront', hFrontSame⟩ := nodesOfTokens_renumbered (lineIn (s ++ t)) hFrontNodes
  obtain ⟨back', hBack', hBackSame⟩ := nodesOfTokens_renumbered (lineIn (s ++ t)) hBackNodes
  obtain ⟨whole, hWhole, hSame⟩ :=
    nodesOfTokens_of_merged hParts (nodesOfTokens_append hFront' hBack')
  exact ⟨whole, bind_eq_ok.mpr ⟨joined, hTokens, hWhole⟩,
    (hFrontSame.append hBackSame).trans hSame⟩

theorem parse_eq_ok_iff {name source : String} {t : Template} :
    parse name source = .ok t ↔
      ∃ nodes, parseNodes source.toList = .ok nodes ∧ t = ⟨name, nodes⟩ := by
  rw [parse]
  cases parseNodes source.toList with
  | error e => simp
  | ok nodes => simp [eq_comm]

theorem render_eq_ok_iff {t : Template} {config : Config} {u : String} :
    t.render config = .ok u ↔
      ∃ s, evalNodes ⟨config, []⟩ t.nodes = .ok s ∧ u = Text.trimmed s := by
  rw [render, rendered_eq]
  cases evalNodes ⟨config, []⟩ t.nodes with
  | error e => simp
  | ok s => simp [eq_comm]

end Sources

/-- Where a line ends templates are put one after the other: the whole parses, it evaluates to the
texts of the parts one after the other just when both have one, and it renders to them trimmed. -/
theorem renderSource_append {name₁ name₂ : String} {s₁ s₂ : String} {front back : Template}
    (hEnd : EndsLine s₁.toList) (hFront : parse name₁ s₁ = .ok front)
    (hBack : parse name₂ s₂ = .ok back) (name : String) :
    ∃ whole, parse name (s₁ ++ s₂) = .ok whole ∧ ∀ config,
      (∀ t, evalNodes ⟨config, []⟩ whole.nodes = .ok t ↔
        ∃ t₁ t₂, evalNodes ⟨config, []⟩ front.nodes = .ok t₁ ∧
          evalNodes ⟨config, []⟩ back.nodes = .ok t₂ ∧ t = t₁ ++ t₂) ∧
      ∀ u, renderSource name (s₁ ++ s₂) config = .ok u ↔
        ∃ t₁ t₂, evalNodes ⟨config, []⟩ front.nodes = .ok t₁ ∧
          evalNodes ⟨config, []⟩ back.nodes = .ok t₂ ∧ u = Text.trimmed (t₁ ++ t₂) := by
  obtain ⟨m, hFrontNodes, rfl⟩ := parse_eq_ok_iff.mp hFront
  obtain ⟨n, hBackNodes, rfl⟩ := parse_eq_ok_iff.mp hBack
  obtain ⟨nodes, hNodes, hSame⟩ := parseNodes_append hEnd hFrontNodes hBackNodes
  rw [← String.toList_append] at hNodes
  refine ⟨⟨name, nodes⟩, parse_eq_ok_iff.mpr ⟨nodes, hNodes, rfl⟩, fun config => ?_⟩
  have hEval : ∀ t, evalNodes ⟨config, []⟩ nodes = .ok t ↔
      ∃ t₁ t₂, evalNodes ⟨config, []⟩ m = .ok t₁ ∧ evalNodes ⟨config, []⟩ n = .ok t₂ ∧
        t = t₁ ++ t₂ := by
    intro t
    rw [← hSame ⟨config, []⟩ t, evalNodes_append_eq_ok_iff]
  refine ⟨hEval, fun u => ?_⟩
  rw [renderSource_of_parseNodes hNodes, render_eq_ok_iff]
  simp only [hEval]
  constructor
  · rintro ⟨_, ⟨t₁, t₂, hFirst, hSecond, rfl⟩, rfl⟩
    exact ⟨t₁, t₂, hFirst, hSecond, rfl⟩
  · rintro ⟨t₁, t₂, hFirst, hSecond, rfl⟩
    exact ⟨_, ⟨t₁, t₂, hFirst, hSecond, rfl⟩, rfl⟩

/-- A comment alone on its line stands at the seam, and the texts around it are merged. -/
theorem renderSource_append_comment :
    let s₁ := "<%= n | upper %>:\n"
    let s₂ := " <%# note %> \n- <% if b %>é<% endif %>\n\n"
    let config : Config := .ofList [("n", .text "ab"), ("b", .boolean true)]
    EndsLine s₁.toList ∧
      ∃ whole, parse "whole" (s₁ ++ s₂) = .ok whole ∧
        evalNodes ⟨config, []⟩ whole.nodes = .ok "AB:\n- é\n\n" ∧
        renderSource "whole" (s₁ ++ s₂) config = .ok "AB:\n- é" := by
  intro s₁ s₂ config
  have hEnd : EndsLine s₁.toList := .inr (by decide +kernel)
  have hFirst : (parseNodes s₁.toList).map (evalNodes ⟨config, []⟩) = .ok (.ok "AB:\n") := by
    decide +kernel
  have hSecond : (parseNodes s₂.toList).map (evalNodes ⟨config, []⟩) = .ok (.ok "- é\n\n") := by
    decide +kernel
  obtain ⟨front, hFront, hFrontText⟩ := map_eq_ok.mp hFirst
  obtain ⟨back, hBack, hBackText⟩ := map_eq_ok.mp hSecond
  have hFrontParse : parse "front" s₁ = .ok ⟨"front", front⟩ := parse_eq_ok_iff.mpr ⟨_, hFront, rfl⟩
  have hBackParse : parse "back" s₂ = .ok ⟨"back", back⟩ := parse_eq_ok_iff.mpr ⟨_, hBack, rfl⟩
  obtain ⟨whole, hWhole, hConfig⟩ := renderSource_append hEnd hFrontParse hBackParse "whole"
  obtain ⟨hEval, hRender⟩ := hConfig config
  refine ⟨hEnd, whole, hWhole, (hEval _).mpr ?_, (hRender _).mpr ?_⟩
  · exact ⟨"AB:\n", "- é\n\n", hFrontText, hBackText, by decide +kernel⟩
  · exact ⟨"AB:\n", "- é\n\n", hFrontText, hBackText, by decide +kernel⟩

end Boilerplate.Template
