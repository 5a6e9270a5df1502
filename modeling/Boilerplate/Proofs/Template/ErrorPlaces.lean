import Boilerplate.Proofs.Template.OpenBlocks
import Boilerplate.Proofs.Template.Scanning
import Boilerplate.Proofs.Template.TagPlaces
import Boilerplate.Proofs.Text.Positions
import Boilerplate.Template.Basic

/-! # Places of errors

The error of a source that is no template stands inside a tag, at the start of one of its words or
of its body; it stands at the very start of the tag unless the body is at fault on its own.
-/

namespace Boilerplate.Template

open Text

section Words

variable {α β : Type} {P : Nat → Prop} {offset base line : Nat} {ls : List Lexeme} {l : Lexeme}

/-- The computation fails only at offsets of a kind. -/
def FailsAt (P : Nat → Prop) (x : Except SyntaxError α) : Prop :=
  ∀ e, x = .error e → P e.offset

theorem FailsAt.ok {a : α} : FailsAt P (.ok a) := by
  rintro _ ⟨⟩

theorem FailsAt.error {e : SyntaxError} (h : P e.offset) :
    FailsAt P (.error e : Except SyntaxError α) := by
  rintro _ ⟨⟩
  exact h

theorem FailsAt.bind {x : Except SyntaxError α} {f : α → Except SyntaxError β} (h : FailsAt P x)
    (hNext : ∀ a, x = .ok a → FailsAt P (f a)) : FailsAt P (x >>= f) := by
  intro e he
  obtain hFirst | ⟨a, hFirst, hSecond⟩ := bind_eq_error.mp he
  · exact h e hFirst
  · exact hNext a hFirst e hSecond

theorem FailsAt.map {x : Except SyntaxError α} {f : α → β} (h : FailsAt P x) :
    FailsAt P (x.map f) :=
  fun e he => h e (map_eq_error.mp he)

theorem checkName_failsAt (h : P offset) (name : String) : FailsAt P (checkName name offset) := by
  rw [checkName]
  split
  · exact .error h
  · split
    · exact .ok
    · exact .error h

theorem literal_failsAt (h : P l.offset) : FailsAt P (literal l) := by
  rw [literal]
  split
  · exact .ok
  · exact .ok
  · split
    · exact .ok
    · split
      · exact .ok
      · exact .error h
  · exact .error h

theorem test_failsAt (h : ∀ l ∈ ls, P l.offset) : FailsAt P (test ls) := by
  match ls with
  | [] => exact .ok
  | [operator] | operator :: _ :: _ :: _ => exact .error (h operator List.mem_cons_self)
  | [operator, operand] =>
    rw [test]
    refine (literal_failsAt (h operand (.tail _ (.head _)))).bind fun x _ => ?_
    split
    · exact .ok
    · exact .ok
    · split
      · exact .ok
      · exact .error (h operator List.mem_cons_self)

theorem splitNot_suffix (ls : List Lexeme) : (splitNot ls).2 <:+ ls := by
  rw [splitNot.eq_def]
  split
  · split
    · exact List.suffix_cons _ _
    · exact List.suffix_refl _
  · exact List.suffix_refl _

theorem condition_failsAt (hKeyword : P offset) (h : ∀ l ∈ ls, P l.offset) :
    FailsAt P (condition line offset ls) := by
  have hRest : ∀ l ∈ (splitNot ls).2, P l.offset :=
    fun l hl => h l ((splitNot_suffix ls).mem hl)
  rw [condition]
  simp only
  generalize (splitNot ls).1 = negated, (splitNot ls).2 = rest at hRest
  cases rest with
  | nil => exact .error hKeyword
  | cons first rest =>
    obtain ⟨hFirst, hMore⟩ := List.forall_mem_cons.mp hRest
    simp only
    split
    · refine (checkName_failsAt hFirst _).bind fun _ _ => ?_
      exact (test_failsAt hMore).bind fun _ _ => .ok
    · exact .error hFirst

theorem bare_failsAt (h : ∀ l ∈ ls, P l.offset) (s : Statement) : FailsAt P (bare s ls) := by
  cases ls with
  | nil => exact .ok
  | cons extra _ => exact .error (h extra List.mem_cons_self)

theorem loopHeader_failsAt (hKeyword : P offset) (h : ∀ l ∈ ls, P l.offset) :
    FailsAt P (loopHeader offset ls) := by
  rw [loopHeader.eq_def]
  split
  next binding b keyword o source s =>
    obtain ⟨hBinding, -, hSource⟩ : P b ∧ P o ∧ P s := by simpa using h
    split
    · refine (checkName_failsAt hBinding _).bind fun _ _ => ?_
      exact (checkName_failsAt hSource _).bind fun _ _ => .ok
    · exact .error hKeyword
  next => exact .error hKeyword

theorem statementOfWords_failsAt (lineOf : Nat → Nat) (hBase : P base)
    (h : ∀ l ∈ ls, P l.offset) : FailsAt P (statementOfWords lineOf base ls) := by
  cases ls with
  | nil => exact .error hBase
  | cons first rest =>
    obtain ⟨hFirst, hRest⟩ := List.forall_mem_cons.mp h
    rw [statementOfWords]
    split
    · exact (condition_failsAt hFirst hRest).map
    · exact (condition_failsAt hFirst hRest).map
    · exact bare_failsAt hRest _
    · exact bare_failsAt hRest _
    · exact bare_failsAt hRest _
    · exact loopHeader_failsAt hFirst hRest
    · exact .error hFirst
    · exact .error hFirst

theorem filterChain_failsAt (h : ∀ l ∈ ls, P l.offset) : FailsAt P (filterChain ls) := by
  -- A filter takes two words at a time.
  induction hLength : ls.length using Nat.strongRecOn generalizing ls with
  | ind n ih =>
    rw [filterChain.eq_def]
    split
    · exact .ok
    next bar rest =>
      obtain ⟨hBar, hRest⟩ := List.forall_mem_cons.mp h
      split
      · split
        next name o more =>
          obtain ⟨hName, hMore⟩ := List.forall_mem_cons.mp hRest
          rw [List.length_cons, List.length_cons] at hLength
          split
          · exact (ih more.length (by omega) hMore rfl).map
          · exact .error hName
        next => exact .error hBar
      · exact .error hBar

theorem expressionOfWords_failsAt (line : Nat) (hBase : P base) (h : ∀ l ∈ ls, P l.offset) :
    FailsAt P (expressionOfWords line base ls) := by
  cases ls with
  | nil => exact .error hBase
  | cons first rest =>
    obtain ⟨hFirst, hRest⟩ := List.forall_mem_cons.mp h
    rw [expressionOfWords]
    split
    · refine (checkName_failsAt hFirst _).bind fun _ _ => ?_
      exact (filterChain_failsAt hRest).bind fun _ _ => .ok
    · exact .error hFirst

end Words

section Bodies

variable {base o : Nat} {s t body tag : List Char} {ls : List Lexeme}

/-- The offset is one between two characters of the text, or at an end of it. -/
def PointOf (base : Nat) (s : List Char) (o : Nat) : Prop :=
  ∃ inside outside, s = inside ++ outside ∧ o = base + byteLength inside

theorem pointOf_start (base : Nat) (s : List Char) : PointOf base s base :=
  ⟨[], s, rfl, rfl⟩

theorem PointOf.behind (h : PointOf (base + byteLength t) s o) : PointOf base (t ++ s) o := by
  obtain ⟨inside, outside, rfl, rfl⟩ := h
  refine ⟨t ++ inside, outside, (List.append_assoc _ _ _).symm, ?_⟩
  rw [byteLength_append, Nat.add_assoc]

theorem FailsAt.behind {α : Type} {x : Except SyntaxError α}
    (h : FailsAt (PointOf (base + byteLength t) s) x) : FailsAt (PointOf base (t ++ s)) x :=
  fun e he => (h e he).behind

theorem Layout.pointOf {Spells : Word → List Char → Prop} (h : Layout Spells base s ls) :
    ∀ l ∈ ls, PointOf base s l.offset := by
  induction h with
  | nil => exact List.forall_mem_nil _
  | @blank base c s ls _ _ ih =>
    intro l hl
    exact PointOf.behind (t := [c]) (ih l hl)
  | @word base w t s ls _ _ _ ih =>
    rw [List.forall_mem_cons]
    exact ⟨pointOf_start _ _, fun l hl => (ih l hl).behind⟩

theorem Scan.failsAt {x : Except SyntaxError (List Lexeme)} (h : Scan base s x) :
    FailsAt (PointOf base s) x := by
  induction h with
  | nil => exact .ok
  | @blank base c s x _ _ ih => exact FailsAt.behind (t := [c]) ih
  | word _ _ _ ih => exact ih.behind.map
  | fault => exact .error (pointOf_start _ _)

theorem lexemes_failsAt (base : Nat) (s : List Char) :
    FailsAt (PointOf base s) (lexemes base s) :=
  (lexemes_scan base s).failsAt

theorem parseStatement_failsAt (lineOf : Nat → Nat) (base : Nat) (body : List Char) :
    FailsAt (PointOf base body) (parseStatement lineOf base body) :=
  (lexemes_failsAt base body).bind fun _ hScan =>
    statementOfWords_failsAt lineOf (pointOf_start _ _) (lexemes_eq_ok_iff.mp hScan).pointOf

theorem parseExpression_failsAt (lineOf : Nat → Nat) (base : Nat) (body : List Char) :
    FailsAt (PointOf base body) (parseExpression lineOf base body) :=
  (lexemes_failsAt base body).bind fun _ hScan =>
    expressionOfWords_failsAt _ (pointOf_start _ _) (lexemes_eq_ok_iff.mp hScan).pointOf

/-- The offset is one in front of a character of the tag. -/
def StandsInside (opened : Nat) (tag : List Char) (o : Nat) : Prop :=
  ∃ inside outside, tag = inside ++ outside ∧ outside ≠ [] ∧ o = opened + byteLength inside

theorem standsInside_of_pointOf {opened : Nat} (marker : List Char)
    (h : PointOf (opened + byteLength marker) s o) :
    StandsInside opened (marker ++ (s ++ ['%', '>'])) o := by
  obtain ⟨inside, outside, hTag, ho⟩ := h.behind
  refine ⟨inside, outside ++ ['%', '>'], ?_, by simp, ho⟩
  rw [← List.append_assoc, hTag, List.append_assoc]

theorem terminal_failsAt (lineOf : Nat → Nat) {t : Token} (hTag : t.tag? = some tag) :
    FailsAt (StandsInside t.opened tag) (t.terminal lineOf) := by
  cases t with
  | text => cases hTag
  | output opened body =>
    obtain rfl := Option.some.inj hTag
    have hBody := (parseExpression_failsAt lineOf (opened + 3) body).map (f := Terminal.output)
    exact fun e he => standsInside_of_pointOf ['<', '%', '='] (hBody e he)
  | statement opened body =>
    obtain rfl := Option.some.inj hTag
    have hBody := (parseStatement_failsAt lineOf (opened + 2) body).map
      (f := Statement.terminal (lineOf opened))
    exact fun e he => standsInside_of_pointOf ['<', '%'] (hBody e he)

theorem exists_tag? {t : Token} (h : ∀ s, t ≠ .text s) : ∃ tag, t.tag? = some tag := by
  cases t with
  | text s => exact absurd rfl (h s)
  | output | statement => exact ⟨_, rfl⟩

end Bodies

theorem IsUnclosed.ne_nil {tag : List Char} (h : IsUnclosed tag) : tag ≠ [] := by
  rintro rfl
  exact absurd h.opens (by decide)

theorem Token.ne_nil_of_tag? {t : Token} {tag : List Char} (h : t.tag? = some tag) : tag ≠ [] := by
  rintro rfl
  cases t <;> cases h

/-- The error of a source stands inside a tag, in front of `outside`, and is located there. -/
structure ErrorPlace (source : List Char) (e : SyntaxError)
    (front inside outside back : List Char) : Prop where
  tagAt : TagAt source front (inside ++ outside) back
  proper : outside ≠ []
  offset_eq : e.offset = byteLength (front ++ inside)
  locate_eq : Position.locate source e.offset = Position.after (front ++ inside)

theorem TagAt.errorPlace {source front inside outside back : List Char} {e : SyntaxError}
    (hAt : TagAt source front (inside ++ outside) back) (hSome : outside ≠ [])
    (hOffset : e.offset = byteLength (front ++ inside)) :
    ErrorPlace source e front inside outside back := by
  refine ⟨hAt, hSome, hOffset, ?_⟩
  rw [hOffset, hAt.cut.eq_append, List.append_assoc, ← List.append_assoc,
    Position.locate_append]

/-- The error of a source that is no template is located in front of a character inside a tag. It is
at the start of the tag if the tag is not closed, and also if the body of the tag is well formed on
its own: what it says cannot follow what stands in front of it, or it opens the innermost block that
is still open at the end. -/
theorem parse_error_inside_tag {name source : String} {err : Error}
    (h : parse name source = .error err) :
    ∃ e front inside outside back,
      err = .templateSyntax name (Position.locate source.toList e.offset) e.cause.message ∧
      ErrorPlace source.toList e front inside outside back ∧
      ((IsUnclosed outside ∧ inside = []) ∨
        ∃ tokens t, tokenize source.toList = .ok tokens ∧ t.tag? = some (inside ++ outside) ∧
          t.opened = byteLength front ∧
          (Malformed (lineIn source.toList) tokens t e ∨
            Mismatched (lineIn source.toList) tokens t ∧ inside = [] ∨
            NeverClosed (lineIn source.toList) tokens t ∧ inside = [])) := by
  rw [parse] at h
  split at h
  next => cases h
  next e hNodes =>
    obtain rfl := Except.error.inj h
    rw [parseNodes, bind_eq_error] at hNodes
    have hStands := tokenize_standsIn source.toList
    obtain hTokens | ⟨tokens, hTokens, hTree⟩ := hNodes
    · rw [hTokens] at hStands
      obtain ⟨-, front, tag, hAt, hUnclosed, hOffset⟩ := hStands
      have hPlace : e.offset = byteLength (front ++ []) := by simpa using hOffset
      have hWhole : TagAt source.toList front ([] ++ tag) [] := hAt
      exact ⟨e, front, [], tag, [], rfl, hWhole.errorPlace hUnclosed.ne_nil hPlace,
        .inl ⟨hUnclosed, rfl⟩⟩
    · rw [hTokens] at hStands
      obtain ⟨t, hMem, hNotText, hFault⟩ := nodesOfTokens_eq_error hTree
      obtain ⟨tag, hTag⟩ := exists_tag? hNotText
      obtain ⟨front, back, hAt, hStart⟩ := hStands t hMem tag hTag
      have hOpened : t.opened = byteLength front := by simpa using hStart
      obtain hMalformed | ⟨hBlocks, hOffset⟩ := hFault
      · have hBody : t.terminal (lineIn source.toList) = .error e := by
          obtain ⟨_, _, _, _, _, _, hBody⟩ := hMalformed
          exact hBody
        obtain ⟨inside, outside, rfl, hSome, hInside⟩ := terminal_failsAt _ hTag e hBody
        have hPlace : e.offset = byteLength (front ++ inside) := by
          rw [hInside, hOpened, byteLength_append]
        exact ⟨e, front, inside, outside, back, rfl, hAt.errorPlace hSome hPlace,
          .inr ⟨tokens, t, hTokens, hTag, hOpened, .inl hMalformed⟩⟩
      · have hPlace : e.offset = byteLength (front ++ []) := by
          rw [hOffset, hOpened, List.append_nil]
        have hWhole : TagAt source.toList front ([] ++ tag) back := hAt
        exact ⟨e, front, [], tag, back, rfl, hWhole.errorPlace (t.ne_nil_of_tag? hTag) hPlace,
          .inr ⟨tokens, t, hTokens, hTag, hOpened, .inr (hBlocks.imp (⟨·, rfl⟩) (⟨·, rfl⟩))⟩⟩

/-- The loop is open as well, but the conditional inside it is to blame. -/
theorem parse_error_inside_tag_of_open_blocks :
    let source := "é\n<% for x in y %><% if x %><%= x %>"
    let err : Error := .templateSyntax "t" ⟨2, 17⟩ "unclosed 'if', expected 'endif'"
    parse "t" source = .error err ∧ ∃ e front inside outside back,
      err = .templateSyntax "t" (Position.locate source.toList e.offset) e.cause.message ∧
      ErrorPlace source.toList e front inside outside back ∧
      ((IsUnclosed outside ∧ inside = []) ∨
        ∃ tokens t, tokenize source.toList = .ok tokens ∧ t.tag? = some (inside ++ outside) ∧
          t.opened = byteLength front ∧
          (Malformed (lineIn source.toList) tokens t e ∨
            Mismatched (lineIn source.toList) tokens t ∧ inside = [] ∨
            NeverClosed (lineIn source.toList) tokens t ∧ inside = [])) := by
  intro source err
  have hParse : (parse "t" source).map (fun _ => ()) = .error err := by decide +kernel
  have hError : parse "t" source = .error err := map_eq_error.mp hParse
  exact ⟨hError, parse_error_inside_tag hError⟩

end Boilerplate.Template
