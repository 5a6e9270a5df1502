import Boilerplate.Proofs.Data.Agreement
import Boilerplate.Proofs.Template.Cutting
import Boilerplate.Proofs.Template.Grammar

/-! # Tags at other places

What a tag says does not depend on where it stands, but for the lines that errors would bear. A tag
that is not well formed is so for the same cause everywhere.
-/

namespace Boilerplate.Template

/-- Related results, or errors of the same cause. -/
def SameCause {α β : Type} (R : α → β → Prop) :
    Except SyntaxError α → Except SyntaxError β → Prop :=
  Agree (fun e d => e.cause = d.cause) R

/-- The same words, which may stand at other places. -/
def SameWords (ws vs : List Lexeme) : Prop :=
  List.Forall₂ (fun l m => l.word = m.word) ws vs

def Condition.atLine (line : Nat) (c : Condition) : Condition :=
  { c with line := line }

def Expression.atLine (line : Nat) (e : Expression) : Expression :=
  { e with line := line }

def Statement.atLine (line : Nat) : Statement → Statement
  | .opensConditional c => .opensConditional (c.atLine line)
  | .alternative c => .alternative (c.atLine line)
  | s => s

def Terminal.atLine (line : Nat) : Terminal → Terminal
  | .output e => .output (e.atLine line)
  | .opensConditional c => .opensConditional (c.atLine line)
  | .alternative c => .alternative (c.atLine line)
  | .opensLoop binding source _ => .opensLoop binding source line
  | x => x

section Words

variable {offset other : Nat}

theorem prepend_moved {word : Word} {x y : Except SyntaxError (List Lexeme)}
    (h : SameCause SameWords x y) :
    SameCause SameWords (prepend word offset x) (prepend word other y) :=
  h.map fun _ _ hRest => .cons rfl hRest

theorem lexemes_moved (offset other : Nat) (s : List Char) :
    SameCause SameWords (lexemes offset s) (lexemes other s) := by
  induction hLength : s.length using Nat.strongRecOn generalizing offset other s with
  | ind n ih =>
    cases s with
    | nil =>
      rw [lexemes.eq_1, lexemes.eq_1]
      exact .ok .nil
    | cons c rest =>
      rw [List.length_cons] at hLength
      have hNext : ∀ after offset other, after.length ≤ rest.length →
          SameCause SameWords (lexemes offset after) (lexemes other after) :=
        fun after _ _ hShorter => ih after.length (by omega) _ _ after rfl
      -- Both sides take the same branch, one kind of word after the other.
      rw [lexemes.eq_def offset, lexemes.eq_def other]
      simp only
      split
      · exact hNext rest _ _ (Nat.le_refl _)
      split
      · exact prepend_moved (hNext rest _ _ (Nat.le_refl _))
      split
      · split
        next after => exact prepend_moved (hNext after _ _ (Nat.le_succ _))
        next => exact .error rfl
      split
      · split
        next => exact .error rfl
        next after hClosed =>
          have hShorter := length_dropWhile_le (· != c) rest
          rw [hClosed] at hShorter
          exact prepend_moved (hNext after _ _ (Nat.le_of_succ_le hShorter))
      split
      · split
        next => exact .error rfl
        next => exact prepend_moved (hNext _ _ _ (length_dropWhile_le isNumberChar rest))
      split
      · exact prepend_moved (hNext _ _ _ (length_dropWhile_le isNameChar rest))
      · exact .error rfl

end Words

section Grammar

variable {ws vs : List Lexeme} {offset other : Nat}

theorem SameWords.symm (hSame : SameWords ws vs) : SameWords vs ws :=
  (List.Forall₂.imp (fun _ _ hWord => hWord.symm) hSame).flip

theorem SameWords.of_cons {word : Word} (hSame : SameWords (⟨word, offset⟩ :: ws) vs) :
    ∃ other rest, vs = ⟨word, other⟩ :: rest ∧ SameWords ws rest := by
  cases hSame with
  | @cons _ first _ rest hWord hRest =>
    obtain ⟨_, other⟩ := first
    subst hWord
    exact ⟨other, rest, rfl, hRest⟩

theorem SameWords.of_three {first second third : Word} {a b c : Nat}
    (hSame : SameWords [⟨first, a⟩, ⟨second, b⟩, ⟨third, c⟩] vs) :
    ∃ a b c, vs = [⟨first, a⟩, ⟨second, b⟩, ⟨third, c⟩] := by
  obtain ⟨a, _, rfl, hMore⟩ := hSame.of_cons
  obtain ⟨b, _, rfl, hLast⟩ := hMore.of_cons
  obtain ⟨c, _, rfl, hNone⟩ := hLast.of_cons
  cases hNone
  exact ⟨a, b, c, rfl⟩

theorem checkName_moved (name : String) (offset other : Nat) :
    SameCause Eq (checkName name offset) (checkName name other) := by
  rw [checkName, checkName]
  split
  · exact .error rfl
  · split
    · exact .ok rfl
    · exact .error rfl

theorem literal_moved {l m : Lexeme} (hWord : l.word = m.word) :
    SameCause Eq (literal l) (literal m) := by
  rw [literal, literal, ← hWord]
  cases l.word with
  | quoted | number => exact .ok rfl
  | name s =>
    simp only
    split
    · exact .ok rfl
    · split
      · exact .ok rfl
      · exact .error rfl
  | equal | unequal | pipe => exact .error rfl

theorem test_moved (hSame : SameWords ws vs) : SameCause Eq (test ws) (test vs) := by
  cases hSame with
  | nil => exact .ok rfl
  | @cons operator operator' _ _ hOperator hRest =>
    cases hRest with
    | nil => exact .error rfl
    | cons hOperand hRest =>
      cases hRest with
      | cons => exact .error rfl
      | nil =>
        refine (literal_moved hOperand).bind ?_
        rintro l _ rfl
        rw [← hOperator]
        cases operator.word with
        | equal | unequal => exact .ok rfl
        | _ =>
          simp only
          split
          · exact .ok rfl
          · exact .error rfl

theorem splitNot_moved (hSame : SameWords ws vs) :
    (splitNot ws).1 = (splitNot vs).1 ∧ SameWords (splitNot ws).2 (splitNot vs).2 := by
  cases hSame with
  | nil => exact ⟨rfl, .nil⟩
  | cons hWord hRest =>
    rw [splitNot, splitNot, hWord]
    split
    · exact ⟨rfl, hRest⟩
    · exact ⟨rfl, .cons hWord hRest⟩

theorem condition_moved {line line' : Nat} (hSame : SameWords ws vs) :
    SameCause (fun c d => d = c.atLine line') (condition line offset ws)
      (condition line' other vs) := by
  obtain ⟨hNegated, hRest⟩ := splitNot_moved hSame
  rw [condition, condition]
  simp only
  rw [← hNegated]
  generalize (splitNot ws).2 = rest, (splitNot vs).2 = rest' at hRest
  cases hRest with
  | nil => exact .error rfl
  | cons hWord hRest =>
    simp only
    rw [← hWord]
    split
    · refine (checkName_moved _ _ _).bind fun _ _ _ => ?_
      refine (test_moved hRest).bind ?_
      rintro t _ rfl
      exact .ok rfl
    · exact .error rfl

theorem bare_moved {s : Statement} {line : Nat} (hLine : s.atLine line = s)
    (hSame : SameWords ws vs) :
    SameCause (fun s t => t = s.atLine line) (bare s ws) (bare s vs) := by
  cases hSame with
  | nil => exact .ok hLine.symm
  | cons hWord _ =>
    rw [bare, bare, hWord]
    exact .error rfl

theorem loopHeader_moved {line : Nat} (hSame : SameWords ws vs) :
    SameCause (fun s t => t = s.atLine line) (loopHeader offset ws) (loopHeader other vs) := by
  fun_cases loopHeader offset ws with
  | case1 binding b o source s =>
    obtain ⟨b', o', s', rfl⟩ := hSame.of_three
    rw [loopHeader, if_pos rfl]
    refine (checkName_moved _ _ _).bind fun _ _ _ => ?_
    exact (checkName_moved _ _ _).bind fun _ _ _ => .ok rfl
  | case2 binding b keyword o source s hKeyword =>
    obtain ⟨b', o', s', rfl⟩ := hSame.of_three
    rw [loopHeader, if_neg hKeyword]
    exact .error rfl
  | case3 =>
    rename_i hOther
    have hOther' : ∀ binding b keyword o source s,
        vs ≠ [⟨.name binding, b⟩, ⟨.name keyword, o⟩, ⟨.name source, s⟩] := by
      rintro binding b keyword o source s rfl
      obtain ⟨b', o', s', hWords⟩ := hSame.symm.of_three
      exact hOther _ _ _ _ _ _ hWords
    rw [loopHeader.eq_2 _ _ hOther']
    exact .error rfl

theorem statementOfWords_moved {lineOf lineOf' : Nat → Nat} (hSame : SameWords ws vs) :
    ∃ line, SameCause (fun s t => t = s.atLine line) (statementOfWords lineOf offset ws)
      (statementOfWords lineOf' other vs) := by
  cases hSame with
  | nil => exact ⟨0, .error rfl⟩
  | @cons first first' rest rest' hWord hRest =>
    refine ⟨lineOf' first'.offset, ?_⟩
    rw [statementOfWords, statementOfWords, ← hWord]
    split
    · exact (condition_moved hRest).map fun _ _ hMoved => hMoved ▸ rfl
    · exact (condition_moved hRest).map fun _ _ hMoved => hMoved ▸ rfl
    · exact bare_moved rfl hRest
    · exact bare_moved rfl hRest
    · exact bare_moved rfl hRest
    · exact loopHeader_moved hRest
    · exact .error rfl
    · exact .error rfl

theorem parseStatement_moved (lineOf lineOf' : Nat → Nat) (base base' : Nat) (body : List Char) :
    ∃ line, SameCause (fun s t => t = s.atLine line) (parseStatement lineOf base body)
      (parseStatement lineOf' base' body) := by
  have hWords := lexemes_moved base base' body
  rw [parseStatement, parseStatement]
  generalize lexemes base body = x, lexemes base' body = y at hWords
  cases hWords with
  | error hCause => exact ⟨0, .error hCause⟩
  | ok hSame => exact statementOfWords_moved hSame

theorem filterChain_moved (hSame : SameWords ws vs) :
    SameCause Eq (filterChain ws) (filterChain vs) := by
  fun_induction filterChain ws generalizing vs with
  | case1 =>
    cases hSame
    exact .ok rfl
  | case2 bar hBar name offset rest f hFilter ih =>
    obtain ⟨_, _, rfl, hMore⟩ := hSame.of_cons
    obtain ⟨_, _, rfl, hRest⟩ := hMore.of_cons
    rw [filterChain, if_pos hBar, hFilter]
    exact (ih hRest).map fun _ _ hFilters => congrArg (f :: ·) hFilters
  | case3 bar hBar name offset rest hUnknown =>
    obtain ⟨_, _, rfl, hMore⟩ := hSame.of_cons
    obtain ⟨_, _, rfl, _⟩ := hMore.of_cons
    rw [filterChain, if_pos hBar, hUnknown]
    exact .error rfl
  | case4 bar rest hBar hOther =>
    obtain ⟨_, rest', rfl, hRest⟩ := hSame.of_cons
    have hOther' : ∀ name offset more, rest' ≠ ⟨.name name, offset⟩ :: more := by
      rintro name offset more rfl
      obtain ⟨_, _, hWords, _⟩ := hRest.symm.of_cons
      exact hOther _ _ _ hWords
    rw [filterChain.eq_3 _ _ hOther', if_pos hBar]
    exact .error rfl
  | case5 bar rest hBar =>
    obtain ⟨_, _, rfl, _⟩ := hSame.of_cons
    rw [filterChain.eq_def]
    simp only [hBar, if_false]
    exact .error rfl

theorem expressionOfWords_moved {line line' : Nat} (hSame : SameWords ws vs) :
    SameCause (fun e f => f = e.atLine line') (expressionOfWords line offset ws)
      (expressionOfWords line' other vs) := by
  cases hSame with
  | nil => exact .error rfl
  | cons hWord hRest =>
    rw [expressionOfWords, expressionOfWords, ← hWord]
    split
    · refine (checkName_moved _ _ _).bind fun _ _ _ => ?_
      refine (filterChain_moved hRest).bind ?_
      rintro filters _ rfl
      exact .ok rfl
    · exact .error rfl

theorem parseExpression_moved (lineOf lineOf' : Nat → Nat) (base base' : Nat) (body : List Char) :
    SameCause (fun e f => f = e.atLine (lineOf' base')) (parseExpression lineOf base body)
      (parseExpression lineOf' base' body) :=
  (lexemes_moved base base' body).bind fun _ _ hSame => expressionOfWords_moved hSame

end Grammar

theorem Statement.exists_terminal_atLine (s : Statement) (moved line other : Nat) :
    ∃ l, (s.atLine moved).terminal other = (s.terminal line).atLine l := by
  cases s with
  | opensLoop => exact ⟨other, rfl⟩
  | _ => exact ⟨moved, rfl⟩

/-- Tokens of the same part say the same but for the line, or fail for the same cause. -/
theorem terminal_moved {t t' : Token} (hPart : t.part = t'.part) (lineOf lineOf' : Nat → Nat) :
    SameCause (fun x y => ∃ line, y = x.atLine line) (t.terminal lineOf) (t'.terminal lineOf') := by
  cases t with
  | text s =>
    cases t' <;> cases hPart
    exact .ok ⟨0, rfl⟩
  | output opened body =>
    cases t' <;> cases hPart
    refine (parseExpression_moved lineOf lineOf' _ _ body).map ?_
    rintro e _ rfl
    exact ⟨_, rfl⟩
  | statement opened body =>
    cases t' <;> cases hPart
    obtain ⟨line, hMoved⟩ := parseStatement_moved lineOf lineOf' _ _ body
    refine hMoved.map ?_
    rintro s _ rfl
    exact s.exists_terminal_atLine line _ _

end Boilerplate.Template
