import Boilerplate.Template.Token

/-! # Cuts of a source

A source is cut into pieces first: escapes, tags and single characters. Lines with nothing but a
statement or a comment then lose everything else, and what the pieces stand for is merged.
-/

namespace Boilerplate.Template

/-- What marks the kind of a tag, after its `<%`. -/
def TagKind.marker : TagKind → List Char
  | .output => ['=']
  | .statement => []
  | .comment => ['#']

inductive Piece
  | char (c : Char)
  | openMark
  | closeMark
  | tag (kind : TagKind) (body : List Char)
  deriving DecidableEq

/-- A token without its place. -/
inductive Part
  | text (s : List Char)
  | output (body : List Char)
  | statement (body : List Char)
  deriving DecidableEq

def Token.part : Token → Part
  | .text s => .text s
  | .output _ body => .output body
  | .statement _ body => .statement body

namespace Piece

def source : Piece → List Char
  | .char c => [c]
  | .openMark => ['<', '%', '%']
  | .closeMark => ['%', '%', '>']
  | .tag kind body => '<' :: '%' :: (kind.marker ++ body ++ ['%', '>'])

/-- What a piece stands for; a comment stands for nothing. -/
def shown : Piece → List Part
  | .char c => [.text [c]]
  | .openMark => [.text ['<', '%']]
  | .closeMark => [.text ['%', '>']]
  | .tag .output body => [.output body]
  | .tag .statement body => [.statement body]
  | .tag .comment _ => []

def isIndent : Piece → Bool
  | .char c => c == ' ' || c == '\t'
  | _ => false

def isLineEnd : Piece → Bool
  | .char c => c == ' ' || c == '\t' || c == '\r' || c == '\n'
  | _ => false

end Piece

def sourceOf (ps : List Piece) : List Char :=
  ps.flatMap Piece.source

@[simp] theorem sourceOf_cons (p : Piece) (ps : List Piece) :
    sourceOf (p :: ps) = p.source ++ sourceOf ps :=
  rfl

@[simp] theorem sourceOf_append (front back : List Piece) :
    sourceOf (front ++ back) = sourceOf front ++ sourceOf back :=
  List.flatMap_append

def StartsEscape (s : List Char) : Prop :=
  ['<', '%', '%'] <+: s ∨ ['%', '%', '>'] <+: s

instance (s : List Char) : Decidable (StartsEscape s) :=
  inferInstanceAs (Decidable (_ ∨ _))

/-- A tag can be cut off in front of `s`: no escape starts there, and the tag reaches to the first
`%>`. -/
structure StartsTag (kind : TagKind) (body s : List Char) : Prop where
  noEscape : ¬ StartsEscape ((Piece.tag kind body).source ++ s)
  firstClose : ¬ ['%', '>'] <:+: kind.marker ++ body
  unmarked : kind = .statement → ¬ ['='] <+: body ∧ ¬ ['#'] <+: body

/-- A source is cut from its front, into an escape where one starts, else into a tag, else into a
character. A source with a tag that is not closed has no cut. -/
inductive Cut : List Char → List Piece → Prop
  | nil : Cut [] []
  | openMark {s : List Char} {ps : List Piece} :
      Cut s ps → Cut ('<' :: '%' :: '%' :: s) (.openMark :: ps)
  | closeMark {s : List Char} {ps : List Piece} :
      Cut s ps → Cut ('%' :: '%' :: '>' :: s) (.closeMark :: ps)
  | tag {kind : TagKind} {body s : List Char} {ps : List Piece} :
      StartsTag kind body s →
      Cut s ps → Cut ((Piece.tag kind body).source ++ s) (.tag kind body :: ps)
  | char {c : Char} {s : List Char} {ps : List Piece} :
      ¬ StartsEscape (c :: s) → ¬ ['<', '%'] <+: c :: s →
      Cut s ps → Cut (c :: s) (.char c :: ps)

/-- Lines with one more piece in front of the first. -/
def addToFirst (p : Piece) : List (List Piece) → List (List Piece)
  | [] => [[p]]
  | line :: more => (p :: line) :: more

/-- The lines of a cut, each with its line end. A line end inside a tag does not count: what follows
the tag has its `%>` in front of it in any case. -/
def lines : List Piece → List (List Piece)
  | [] => []
  | p :: rest => if p = .char '\n' then [p] :: lines rest else addToFirst p (lines rest)

/-- A line with nothing but a statement or a comment between blanks is left with the tag. -/
def tidyLine (line : List Piece) : List Piece :=
  match line.dropWhile Piece.isIndent with
  | .tag kind body :: rest =>
    if kind ≠ .output ∧ rest.all Piece.isLineEnd then [.tag kind body] else line
  | _ => line

def tidy (ps : List Piece) : List Piece :=
  (lines ps).flatMap tidyLine

/-- The parts with one more part in front. A text joins a text. -/
def Part.addTo : Part → List Part → List Part
  | .text s, .text t :: rest => .text (s ++ t) :: rest
  | p, rest => p :: rest

def merge (ps : List Part) : List Part :=
  ps.foldr Part.addTo []

/-- The parts with each text split into its characters. -/
def Part.split : Part → List Part
  | .text s => s.map fun c => .text [c]
  | p => [p]

/-- The parts of a source with a given cut. -/
def partsOf (ps : List Piece) : List Part :=
  merge ((tidy ps).flatMap Piece.shown)

section Merging

theorem empty_not_mem_shown (ps : List Piece) : .text [] ∉ ps.flatMap Piece.shown := by
  rw [List.mem_flatMap]
  rintro ⟨p, -, hp⟩
  cases p with
  | tag kind body => cases kind <;> simp [Piece.shown] at hp
  | _ => simp [Piece.shown] at hp

@[simp] theorem merge_cons (p : Part) (ps : List Part) : merge (p :: ps) = p.addTo (merge ps) :=
  rfl

theorem addTo_cases (p : Part) (ps : List Part) :
    (∃ s t rest, p = .text s ∧ ps = .text t :: rest ∧ p.addTo ps = .text (s ++ t) :: rest) ∨
      p.addTo ps = p :: ps ∧ ∀ s t, ¬ [.text s, .text t] <+: p :: ps := by
  fun_cases Part.addTo p ps with
  | case1 s t rest => exact .inl ⟨s, t, rest, rfl, rfl, rfl⟩
  | case2 _ _ hOther =>
    refine .inr ⟨rfl, ?_⟩
    rintro s t ⟨rest, hFront⟩
    obtain ⟨rfl, rfl⟩ := List.cons.inj hFront
    exact hOther s t rest rfl rfl

theorem addTo_of_ne_text {p : Part} (hOther : ∀ s, p ≠ .text s) (ps : List Part) :
    p.addTo ps = p :: ps := by
  cases p with
  | text s => exact absurd rfl (hOther s)
  | _ => rfl

theorem addTo_cons_of_ne_text {p : Part} (hOther : ∀ s, p ≠ .text s) (q : Part) (ps : List Part) :
    q.addTo (p :: ps) = q :: p :: ps := by
  cases p with
  | text s => exact absurd rfl (hOther s)
  | _ => cases q <;> rfl

theorem merge_text_text (s t : List Char) (ps : List Part) :
    merge (.text s :: .text t :: ps) = merge (.text (s ++ t) :: ps) := by
  rw [merge_cons, merge_cons, merge_cons]
  cases merge ps with
  | nil => rfl
  | cons p rest => cases p <;> simp [Part.addTo]

/-- Merging keeps every character of the texts, and everything else, in order. -/
theorem split_merge (ps : List Part) : (merge ps).flatMap Part.split = ps.flatMap Part.split := by
  induction ps with
  | nil => rfl
  | cons p rest ih =>
    rw [merge_cons, List.flatMap_cons, ← ih]
    obtain ⟨s, t, more, rfl, hMerged, hJoined⟩ | ⟨hApart, _⟩ := addTo_cases p (merge rest)
    · rw [hJoined, hMerged]
      simp [Part.split]
    · rw [hApart, List.flatMap_cons]

theorem empty_not_mem_merge {ps : List Part} (h : .text [] ∉ ps) : .text [] ∉ merge ps := by
  induction ps with
  | nil => exact h
  | cons p rest ih =>
    rw [List.mem_cons, not_or] at h
    have hRest := ih h.2
    rw [merge_cons]
    obtain ⟨s, t, more, rfl, hMerged, hJoined⟩ | ⟨hApart, _⟩ := addTo_cases p (merge rest)
    · rw [hMerged, List.mem_cons, not_or] at hRest
      rw [hJoined, List.mem_cons, not_or]
      refine ⟨?_, hRest.2⟩
      intro hEmpty
      have hParts := List.append_eq_nil_iff.mp (Part.text.inj hEmpty).symm
      exact h.1 (congrArg Part.text hParts.1.symm)
    · rw [hApart, List.mem_cons, not_or]
      exact ⟨h.1, hRest⟩

theorem not_adjacent_merge (ps : List Part) (s t : List Char) :
    ¬ [.text s, .text t] <:+: merge ps := by
  induction ps generalizing s with
  | nil => simp [merge]
  | cons p rest ih =>
    rw [merge_cons]
    obtain ⟨u, v, more, rfl, hMerged, hJoined⟩ | ⟨hApart, hFront⟩ := addTo_cases p (merge rest)
    · -- What follows the joined text followed its second half before.
      rw [hMerged] at ih
      rw [hJoined, List.infix_cons_iff]
      rintro (⟨after, hAfter⟩ | hInside)
      · obtain ⟨-, rfl⟩ := List.cons.inj hAfter
        exact ih v ⟨[], after, rfl⟩
      · exact ih s (List.infix_cons hInside)
    · rw [hApart, List.infix_cons_iff]
      rintro (hStart | hInside)
      · exact hFront s t hStart
      · exact ih s hInside

end Merging

section Cuts

variable {s : List Char} {ps : List Piece}

theorem Cut.sourceOf_eq (h : Cut s ps) : sourceOf ps = s := by
  induction h with
  | nil => rfl
  | openMark _ ih => rw [sourceOf_cons, ih]; rfl
  | closeMark _ ih => rw [sourceOf_cons, ih]; rfl
  | tag _ _ ih => rw [sourceOf_cons, ih]
  | char _ _ _ ih => rw [sourceOf_cons, ih]; rfl

theorem Cut.tail {p : Piece} (h : Cut s (p :: ps)) : ∃ s', s = p.source ++ s' ∧ Cut s' ps := by
  cases h with
  | openMark hRest => exact ⟨_, rfl, hRest⟩
  | closeMark hRest => exact ⟨_, rfl, hRest⟩
  | tag _ hRest => exact ⟨_, rfl, hRest⟩
  | char _ _ hRest => exact ⟨_, rfl, hRest⟩

theorem Cut.ordinary {c : Char} (hOpen : c ≠ '<') (hClose : c ≠ '%') (h : Cut s ps) :
    Cut (c :: s) (.char c :: ps) := by
  refine .char ?_ ?_ h
  · rintro (⟨more, hMore⟩ | ⟨more, hMore⟩)
    · exact hOpen (List.cons.inj hMore).1.symm
    · exact hClose (List.cons.inj hMore).1.symm
  · rintro ⟨more, hMore⟩
    exact hOpen (List.cons.inj hMore).1.symm

end Cuts

section Lines

variable {ps line rest : List Piece}

theorem flatten_addToFirst (p : Piece) (ls : List (List Piece)) :
    (addToFirst p ls).flatten = p :: ls.flatten := by
  cases ls <;> rfl

theorem flatten_lines (ps : List Piece) : (lines ps).flatten = ps := by
  induction ps with
  | nil => rfl
  | cons p rest ih =>
    rw [lines]
    split
    · rw [List.flatten_cons, ih, List.singleton_append]
    · rw [flatten_addToFirst, ih]

/-- `line` reaches to the end of a line, and `rest` follows. -/
inductive Line : List Piece → List Piece → Prop
  | eof : Line [] []
  | newline {rest : List Piece} : Line [.char '\n'] rest
  | cons {p : Piece} {line rest : List Piece} :
      p ≠ .char '\n' → Line line rest → Line (p :: line) rest

theorem exists_line (hSome : ps ≠ []) :
    ∃ line rest, line ≠ [] ∧ ps = line ++ rest ∧ lines ps = line :: lines rest ∧
      Line line rest := by
  induction ps with
  | nil => exact absurd rfl hSome
  | cons p ps ih =>
    rw [lines]
    by_cases hNewline : p = .char '\n'
    · exact ⟨[p], ps, by simp, rfl, if_pos hNewline, hNewline ▸ .newline⟩
    · rw [if_neg hNewline]
      by_cases hLast : ps = []
      · subst hLast
        exact ⟨[p], [], by simp, rfl, rfl, .cons hNewline .eof⟩
      · obtain ⟨line, rest, -, rfl, hLines, hLine⟩ := ih hLast
        exact ⟨p :: line, rest, by simp, rfl, by rw [hLines, addToFirst], .cons hNewline hLine⟩

theorem Line.of_append {front : List Piece} {p : Piece} (hp : p ≠ .char '\n')
    (h : Line (front ++ p :: line) rest) : Line line rest := by
  induction front with
  | nil =>
    cases h with
    | newline => exact absurd rfl hp
    | cons _ hLine => exact hLine
  | cons q front ih =>
    generalize hAll : q :: front ++ p :: line = all at h
    cases h with
    | eof => cases hAll
    | newline => simp at hAll
    | cons _ hLine =>
      obtain ⟨-, rfl⟩ := List.cons.inj hAll
      exact ih hLine

/-- A statement or comment with only blanks in front of it and behind it on its line. -/
structure StandsAlone (front : List Piece) (kind : TagKind) (back : List Piece) : Prop where
  kind : kind ≠ .output
  front : front.all Piece.isIndent
  back : back.all Piece.isLineEnd

theorem tidyLine_cases (line : List Piece) :
    (∃ front kind body back, line = front ++ .tag kind body :: back ∧
        StandsAlone front kind back ∧ tidyLine line = [.tag kind body]) ∨
      tidyLine line = line ∧ ∀ front kind body back,
        line = front ++ .tag kind body :: back → ¬ StandsAlone front kind back := by
  have hFront : line = line.takeWhile Piece.isIndent ++ line.dropWhile Piece.isIndent :=
    List.takeWhile_append_dropWhile.symm
  have hTag : ∀ front kind body back, line = front ++ .tag kind body :: back →
      StandsAlone front kind back → line.dropWhile Piece.isIndent = .tag kind body :: back := by
    rintro front kind body back rfl hAlone
    rw [List.dropWhile_append_of_pos (by simpa using hAlone.front)]
    rfl
  rw [tidyLine]
  split
  next kind body back hDrop =>
    split
    next hLone =>
      refine .inl ⟨_, kind, body, back, hDrop ▸ hFront, ⟨hLone.1, ?_, hLone.2⟩, rfl⟩
      exact List.all_takeWhile
    next hNot =>
      refine .inr ⟨rfl, ?_⟩
      intro front kind' body' back' hLine hAlone
      obtain ⟨hSame, rfl⟩ := List.cons.inj (hDrop.symm.trans (hTag _ _ _ _ hLine hAlone))
      obtain ⟨rfl, -⟩ := Piece.tag.inj hSame
      exact hNot ⟨hAlone.kind, hAlone.back⟩
  next hOther =>
    refine .inr ⟨rfl, ?_⟩
    intro front kind body back hLine hAlone
    exact hOther _ _ _ (hTag _ _ _ _ hLine hAlone)

end Lines

end Boilerplate.Template
