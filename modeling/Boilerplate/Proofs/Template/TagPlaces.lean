import Boilerplate.Proofs.Template.Building
import Boilerplate.Proofs.Template.Tokenizing

/-! # Tags in a source

A tag stands in a source where all in front of it has been cut into pieces. It reaches to the first
`%>` or, if there is none, to the end. Every token but a text stands at such a tag, and reading for
tokens fails at a tag that is not closed.
-/

namespace Boilerplate.Template

open Text

/-- A tag with all that follows, where nothing closes it. -/
structure IsUnclosed (tag : List Char) : Prop where
  opens : ['<', '%'] <+: tag
  noEscape : ¬ StartsEscape tag
  noClose : ¬ ['%', '>'] <:+: tag.drop 2

/-- A tag in front of `back`. -/
inductive IsTag : List Char → List Char → Prop
  | closed {kind : TagKind} {body back : List Char} :
      StartsTag kind body back → IsTag (Piece.tag kind body).source back
  | unclosed {tag : List Char} : IsUnclosed tag → IsTag tag []

/-- The piece is cut off in front of `s`, by the rules of a cut. -/
def Piece.CutBefore : Piece → List Char → Prop
  | .char c, s => ¬ StartsEscape (c :: s) ∧ ¬ ['<', '%'] <+: c :: s
  | .openMark, _ | .closeMark, _ => True
  | .tag kind body, s => StartsTag kind body s

/-- Cutting one piece after the other off a source takes away `front` and leaves `rest`. -/
inductive Leaves : List Char → List Char → List Char → Prop
  | here {s : List Char} : Leaves s [] s
  | piece {p : Piece} {s front rest : List Char} :
      p.CutBefore s → Leaves s front rest → Leaves (p.source ++ s) (p.source ++ front) rest

/-- The tag stands in the source between `front` and `back`, as the source is cut. -/
structure TagAt (source front tag back : List Char) : Prop where
  cut : Leaves source front (tag ++ back)
  isTag : IsTag tag back

/-- The source of the tag that a token stands for. -/
def Token.tag? : Token → Option (List Char)
  | .text _ => none
  | .output _ body => some (Piece.tag .output body).source
  | .statement _ body => some (Piece.tag .statement body).source

/-- What reading `s` gives, behind `before`, stands at tags of `s`. -/
def StandsIn (before s : List Char) : Except SyntaxError (List Token) → Prop
  | .ok tokens => ∀ t ∈ tokens, ∀ tag ∈ t.tag?, ∃ front back,
      TagAt s front tag back ∧ t.opened = byteLength before + byteLength front
  | .error e => e.cause = .unclosedTag ∧ ∃ front tag,
      TagAt s front tag [] ∧ IsUnclosed tag ∧ e.offset = byteLength before + byteLength front

section Pieces

variable {c : Char} {before s t front span back body rest : List Char} {p : Piece}
  {kind : TagKind} {x : Except SyntaxError (List Token)}

theorem Leaves.eq_append (h : Leaves s front rest) : s = front ++ rest := by
  induction h with
  | here => rfl
  | piece _ _ ih => rw [List.append_assoc, ← ih]

theorem TagAt.behind (hPiece : p.CutBefore s) (h : TagAt s front span back) :
    TagAt (p.source ++ s) (p.source ++ front) span back :=
  ⟨.piece hPiece h.cut, h.isTag⟩

theorem IsTag.tagAt (h : IsTag span back) : TagAt (span ++ back) [] span back :=
  ⟨.here, h⟩

theorem StandsIn.behind (hPiece : p.CutBefore s) (h : StandsIn (p.source.reverse ++ before) s x) :
    StandsIn before (p.source ++ s) x := by
  have hSize : ∀ front, byteLength (p.source.reverse ++ before) + byteLength front =
      byteLength before + byteLength (p.source ++ front) := by
    intro front
    rw [byteLength_append, byteLength_append, byteLength_reverse]
    omega
  cases x with
  | ok tokens =>
    intro t ht span hTag
    obtain ⟨front, back, hAt, hOpened⟩ := h t ht span hTag
    exact ⟨p.source ++ front, back, hAt.behind hPiece, hOpened.trans (hSize front)⟩
  | error e =>
    obtain ⟨hCause, front, span, hAt, hUnclosed, hOffset⟩ := h
    exact ⟨hCause, p.source ++ front, span, hAt.behind hPiece, hUnclosed,
      hOffset.trans (hSize front)⟩

theorem StandsIn.add {tokens : List Token} (hTokens : StandsIn before s (.ok tokens))
    (h : StandsIn before s x) : StandsIn before s (x.map (tokens ++ ·)) := by
  cases x with
  | error e => exact h
  | ok more => exact List.forall_mem_append.mpr ⟨hTokens, h⟩

theorem cutBefore_char (hOpen : c ≠ '<') (hClose : c ≠ '%') : (Piece.char c).CutBefore s :=
  plain_of_char (fun _ hc => absurd hc hClose) (fun _ hc => absurd hc hOpen)

/-- What is left out of a line behind a tag is cut into characters. -/
theorem standsIn_of_afterBlankLine? (hAfter : afterBlankLine? s = some rest) :
    ∃ gone, s = gone ++ rest ∧
      ∀ before x, StandsIn (gone.reverse ++ before) rest x → StandsIn before s x := by
  induction s with
  | nil =>
    obtain rfl := Option.some.inj hAfter
    exact ⟨[], rfl, fun _ _ h => h⟩
  | cons c s ih =>
    by_cases hc : c = '\n'
    · subst hc
      obtain rfl := Option.some.inj hAfter
      exact ⟨['\n'], rfl, fun _ _ h => .behind (cutBefore_char (by decide) (by decide)) h⟩
    · rw [afterBlankLine?_cons hc, Option.ite_none_right_eq_some] at hAfter
      obtain ⟨hFiller, hAfter⟩ := hAfter
      obtain ⟨gone, rfl, hRest⟩ := ih hAfter
      have hChar : (Piece.char c).CutBefore (gone ++ rest) := by
        refine cutBefore_char ?_ ?_
        · rintro rfl
          exact absurd hFiller (by decide)
        · rintro rfl
          exact absurd hFiller (by decide)
      refine ⟨c :: gone, rfl, fun before x h => .behind hChar (hRest _ x ?_)⟩
      simpa [Piece.source] using h

theorem standsIn_of_trimLine (kind : TagKind) (before collected s : List Char) :
    ∃ gone, s = gone ++ (trimLine kind before collected s).2 ∧
      ∀ read x, StandsIn (gone.reverse ++ read) (trimLine kind before collected s).2 x →
        StandsIn read s x := by
  rw [trimLine]
  split
  · exact ⟨[], rfl, fun _ _ h => h⟩
  · split
    next hAfter => exact standsIn_of_afterBlankLine? hAfter
    next => exact ⟨[], rfl, fun _ _ h => h⟩

theorem tag?_of_mem_flushText {kept : List Char} {t : Token} (h : t ∈ flushText kept) :
    t.tag? = none := by
  rw [flushText] at h
  split at h
  · cases h
  · rw [List.mem_singleton.mp h, Token.tag?]

theorem standsIn_emit (hTag : StartsTag kind body back) (before kept : List Char) :
    StandsIn before ((Piece.tag kind body).source ++ back)
      (.ok (emit kind (byteLength before) body kept).1) := by
  have hAt := (IsTag.closed hTag).tagAt
  intro t ht span hSpan
  cases kind with
  | output | statement =>
    obtain hFlushed | hLast := List.mem_append.mp ht
    · rw [tag?_of_mem_flushText hFlushed] at hSpan
      cases hSpan
    · obtain rfl := List.mem_singleton.mp hLast
      obtain rfl := Option.some.inj hSpan
      exact ⟨[], back, hAt, rfl⟩
  | comment => cases ht

theorem not_infix_of_splitClose_eq_none (h : splitClose s = none) : ¬ ['%', '>'] <:+: s := by
  fun_induction splitClose s with
  | case1 => simp
  | case2 => cases h
  | case3 c rest hOther ih =>
    rw [List.infix_cons_iff, not_or]
    refine ⟨?_, ih (Option.map_eq_none_iff.mp h)⟩
    rintro ⟨more, hMore⟩
    obtain ⟨rfl, hRest⟩ := List.cons.inj hMore
    exact hOther more rfl hRest.symm

theorem IsUnclosed.of_splitClose (hEscape : ∀ more, s = '%' :: more → False)
    (h : splitClose (tagKind s).2 = none) : IsUnclosed ('<' :: '%' :: s) := by
  have hRest := not_infix_of_splitClose_eq_none h
  refine ⟨⟨s, rfl⟩, not_startsEscape_of_open hEscape, ?_⟩
  show ¬ ['%', '>'] <:+: s
  rw [eq_marker_append_tagKind s]
  cases (tagKind s).1 <;> simp [TagKind.marker, List.infix_cons_iff, hRest]

end Pieces

theorem tokenizeFrom_standsIn (before collected s : List Char) :
    StandsIn before s (tokenizeFrom before collected s) := by
  fun_induction tokenizeFrom before collected s with
  | case1 before collected =>
    intro t ht span hSpan
    rw [tag?_of_mem_flushText ht] at hSpan
    cases hSpan
  | case2 before collected rest ih => exact .behind (p := .openMark) trivial ih
  | case3 before collected rest ih => exact .behind (p := .closeMark) trivial ih
  | case4 before collected inner hEscape hSplit =>
    have hUnclosed := IsUnclosed.of_splitClose hEscape hSplit
    have hAt : TagAt ('<' :: '%' :: inner) [] ('<' :: '%' :: inner) [] := by
      simpa using (IsTag.unclosed hUnclosed).tagAt
    exact ⟨rfl, [], _, hAt, hUnclosed, rfl⟩
  | case5 before collected inner hEscape body after hSplit next tokens kept hEmit =>
    rename_i ih
    have hTag := StartsTag.of_splitClose hEscape hSplit
    have hSource := source_of_splitClose hSplit
    obtain ⟨gone, hAfter, hTrim⟩ := standsIn_of_trimLine (tagKind inner).1 before collected after
    have hTokens : StandsIn before ('<' :: '%' :: inner) (.ok tokens) := by
      have hHere := standsIn_emit hTag before next.1
      rwa [hEmit, ← hSource] at hHere
    have hRead : readUpTo before ('<' :: '%' :: inner) next.2 =
        gone.reverse ++ ((Piece.tag (tagKind inner).1 body).source.reverse ++ before) := by
      rw [hSource, hAfter, ← List.append_assoc, readUpTo_append, List.reverse_append,
        List.append_assoc]
    rw [hRead] at ih ⊢
    refine .add hTokens ?_
    rw [hSource]
    exact .behind (p := .tag (tagKind inner).1 body) hTag (hTrim _ _ ih)
  | case6 before collected c rest _ hClose hTag ih =>
    exact .behind (p := .char c) (plain_of_char hClose hTag) ih

/-- Each token but a text stands at its tag, and reading fails at a tag that is not closed. -/
theorem tokenize_standsIn (source : List Char) : StandsIn [] source (tokenize source) :=
  tokenizeFrom_standsIn [] [] source

end Boilerplate.Template
