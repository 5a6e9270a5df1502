import Boilerplate.Proofs.Json.Symbols
import Boilerplate.Proofs.Number.Printed
import Boilerplate.Proofs.Template.Relocation
import Boilerplate.Proofs.Template.Scanning

/-! # The grammar of tags

A statement and an expression are written as rows of words. The body of a tag is read as a statement
or an expression just when it is a layout of that row, so what is written in any layout is read back
but for the line.
-/

namespace Boilerplate.Template

open Text

/-- The names that a field or a binding may have in a tag. -/
def IsName (s : String) : Prop :=
  isIdentifier s.toList = true ∧ s ∉ reservedWords

def Literal.word : Literal → Word
  | .text s => .quoted s
  | .number n => .number n
  | .boolean b => .name (if b then "true" else "false")

def Test.words : Test → List Word
  | .truthy => []
  | .equals l => [.equal, l.word]
  | .differs l => [.unequal, l.word]
  | .has l => [.name "has", l.word]

def Condition.words (c : Condition) : List Word :=
  (if c.negated then [.name "not"] else []) ++ .name c.subject :: c.test.words

/-- What follows the keyword of a statement. -/
def Statement.operands : Statement → List Word
  | .opensConditional c | .alternative c => c.words
  | .opensLoop binding source => [.name binding, .name "in", .name source]
  | .otherwise | .closesConditional | .closesLoop => []

def Statement.words (s : Statement) : List Word :=
  .name s.keyword :: s.operands

/-- The names of fields and bindings in a statement. -/
def Statement.names : Statement → List String
  | .opensConditional c | .alternative c => [c.subject]
  | .opensLoop binding source => [binding, source]
  | .otherwise | .closesConditional | .closesLoop => []

def Expression.words (e : Expression) : List Word :=
  .name e.subject :: e.filters.flatMap fun f => [.pipe, .name f.name]

section Rows

variable {ls : List Lexeme} {l : Lexeme} {line offset : Nat}

theorem checkName_eq_ok_iff {name : String} {u : Unit} :
    checkName name offset = .ok u ↔ IsName name := by
  rw [checkName]
  constructor
  · intro h
    split at h
    next => cases h
    next hFree =>
      split at h
      next hIdentifier => exact ⟨hIdentifier, hFree⟩
      next => cases h
  · intro hName
    rw [if_neg hName.2, if_pos hName.1]

theorem not_isName_of_mem {name : String} (h : name ∈ reservedWords) : ¬ IsName name :=
  fun hName => hName.2 h

theorem literal_eq_ok_iff {x : Literal} : literal l = .ok x ↔ l.word = x.word := by
  rw [literal]
  constructor
  · intro h
    split at h
    next s hWord => exact Except.ok.inj h ▸ hWord
    next n hWord => exact Except.ok.inj h ▸ hWord
    next s hWord =>
      split at h
      next hTrue => exact Except.ok.inj h ▸ hWord.trans (congrArg Word.name hTrue)
      next =>
        split at h
        next hFalse => exact Except.ok.inj h ▸ hWord.trans (congrArg Word.name hFalse)
        next => cases h
    next => cases h
  · intro hWord
    rw [hWord]
    cases x with
    | text | number => rfl
    | boolean b => cases b <;> rfl

theorem test_eq_ok_iff {t : Test} : test ls = .ok t ↔ ls.map Lexeme.word = t.words := by
  match ls with
  | [] | [_] | _ :: _ :: _ :: _ => cases t <;> simp [test, Test.words]
  | [operator, operand] =>
    rw [test, bind_eq_ok]
    simp only [literal_eq_ok_iff]
    constructor
    · rintro ⟨x, hOperand, h⟩
      rw [List.map_cons, List.map_cons, hOperand]
      split at h
      next hOperator => exact Except.ok.inj h ▸ congrArg (· :: _) hOperator
      next hOperator => exact Except.ok.inj h ▸ congrArg (· :: _) hOperator
      next =>
        split at h
        next hOperator => exact Except.ok.inj h ▸ congrArg (· :: _) hOperator
        next => cases h
    · intro hWords
      cases t with
      | truthy => cases hWords
      | equals x | differs x =>
        obtain ⟨hOperator, hRest⟩ := List.cons.inj hWords
        obtain ⟨hOperand, -⟩ := List.cons.inj hRest
        exact ⟨x, hOperand, by rw [hOperator]⟩
      | has x =>
        obtain ⟨hOperator, hRest⟩ := List.cons.inj hWords
        obtain ⟨hOperand, -⟩ := List.cons.inj hRest
        exact ⟨x, hOperand, by rw [hOperator]; exact if_pos rfl⟩

theorem condition_of_splitNot {negated : Bool} {rest : List Lexeme} {c : Condition}
    (h : splitNot ls = (negated, rest)) : condition line offset ls = .ok c ↔
      c.negated = negated ∧ rest.map Lexeme.word = .name c.subject :: c.test.words ∧
        IsName c.subject ∧ c.line = line := by
  rw [condition, h]
  cases rest with
  | nil => simp
  | cons first rest =>
    obtain ⟨word, start⟩ := first
    simp only
    cases word with
    | name subject =>
      simp only [bind_eq_ok, checkName_eq_ok_iff, test_eq_ok_iff]
      constructor
      · rintro ⟨_, hName, t, hTest, h⟩
        cases h
        exact ⟨rfl, congrArg (_ :: ·) hTest, hName, rfl⟩
      · rintro ⟨rfl, hWords, hName, rfl⟩
        obtain ⟨hSubject, hTest⟩ := List.cons.inj hWords
        cases hSubject
        exact ⟨(), hName, c.test, hTest, rfl⟩
    | quoted | number | equal | unequal | pipe => simp

theorem condition_eq_ok_iff {c : Condition} : condition line offset ls = .ok c ↔
    ls.map Lexeme.word = c.words ∧ IsName c.subject ∧ c.line = line := by
  have hReserved : ¬ IsName "not" := not_isName_of_mem (by decide)
  obtain ⟨negated, subject, test, l⟩ := c
  cases ls with
  | nil =>
    rw [condition_of_splitNot rfl]
    cases negated <;> simp [Condition.words]
  | cons first rest =>
    by_cases hNot : first.word = .name "not"
    · have hSplit : splitNot (first :: rest) = (true, rest) := if_pos hNot
      rw [condition_of_splitNot hSplit]
      cases negated with
      | true => simp [Condition.words, hNot]
      | false =>
        simp only [Condition.words, List.map_cons, hNot]
        constructor
        · rintro ⟨hNegated, -⟩
          cases hNegated
        · rintro ⟨hWords, hName, -⟩
          obtain ⟨hSubject, -⟩ := List.cons.inj hWords
          cases hSubject
          exact absurd hName hReserved
    · have hSplit : splitNot (first :: rest) = (false, first :: rest) := if_neg hNot
      rw [condition_of_splitNot hSplit]
      cases negated <;> simp [Condition.words, hNot]

theorem bare_eq_ok_iff {s t : Statement} : bare s ls = .ok t ↔ ls = [] ∧ s = t := by
  cases ls with
  | nil =>
    constructor
    · intro h
      exact ⟨rfl, Except.ok.inj h⟩
    · rintro ⟨-, rfl⟩
      rfl
  | cons =>
    constructor
    · intro h
      cases h
    · rintro ⟨hNil, -⟩
      cases hNil

theorem loopHeader_eq_ok_iff {s : Statement} : loopHeader offset ls = .ok s ↔
    ∃ binding source, ls.map Lexeme.word = [.name binding, .name "in", .name source] ∧
      IsName binding ∧ IsName source ∧ .opensLoop binding source = s := by
  fun_cases loopHeader offset ls with
  | case1 binding b o source p =>
    simp only [bind_eq_ok, checkName_eq_ok_iff]
    constructor
    · rintro ⟨_, hBinding, _, hSource, h⟩
      exact ⟨binding, source, rfl, hBinding, hSource, Except.ok.inj h⟩
    · rintro ⟨_, _, hWords, hBinding, hSource, rfl⟩
      cases hWords
      exact ⟨(), hBinding, (), hSource, rfl⟩
  | case2 binding b keyword o source p hKeyword =>
    constructor
    · intro h
      cases h
    · rintro ⟨_, _, hWords, _⟩
      cases hWords
      exact absurd rfl hKeyword
  | case3 =>
    rename_i hOther
    constructor
    · intro h
      cases h
    · rintro ⟨binding, source, hWords, _⟩
      obtain ⟨⟨_, b⟩, _, rfl, hBinding, hMore⟩ := List.map_eq_cons_iff.mp hWords
      obtain ⟨⟨_, o⟩, _, rfl, hIn, hLast⟩ := List.map_eq_cons_iff.mp hMore
      obtain ⟨⟨_, p⟩, rfl, hSource⟩ := List.map_eq_singleton_iff.mp hLast
      obtain rfl : _ = _ := hBinding
      obtain rfl : _ = _ := hIn
      obtain rfl : _ = _ := hSource
      exact (hOther binding b "in" o source p rfl).elim

theorem filterName_iff {name : String} {f : Filter} :
    Filter.ofName? name = some f ↔ name = f.name := by
  constructor
  · intro h
    have hFound := List.find?_some h
    exact (beq_iff_eq.mp hFound).symm
  · rintro rfl
    exact f.ofName?_name

theorem filterName_inj {f g : Filter} : f.name = g.name ↔ f = g := by
  constructor
  · intro h
    exact Option.some.inj (f.ofName?_name.symm.trans (filterName_iff.mpr h))
  · rintro rfl
    rfl

theorem filterChain_eq_ok_iff {fs : List Filter} : filterChain ls = .ok fs ↔
    ls.map Lexeme.word = fs.flatMap fun f => [.pipe, .name f.name] := by
  fun_induction filterChain ls generalizing fs with
  | case1 => cases fs <;> simp
  | case2 bar hBar name o rest f hFilter ih =>
    obtain rfl := filterName_iff.mp hFilter
    rw [map_eq_ok]
    simp only [ih]
    cases fs with
    | nil => simp
    | cons g fs => simp [hBar, filterName_inj, and_comm]
  | case3 bar hBar name o rest hUnknown =>
    constructor
    · intro h
      cases h
    · intro hWords
      cases fs with
      | nil => cases hWords
      | cons g fs =>
        obtain ⟨-, hRest⟩ := List.cons.inj hWords
        obtain ⟨hName, -⟩ := List.cons.inj hRest
        rw [filterName_iff.mpr (Word.name.inj hName)] at hUnknown
        cases hUnknown
  | case4 bar rest hBar hOther =>
    constructor
    · intro h
      cases h
    · intro hWords
      cases fs with
      | nil => cases hWords
      | cons g fs =>
        obtain ⟨-, hRest⟩ := List.cons.inj hWords
        obtain ⟨⟨_, o⟩, more, rfl, rfl, -⟩ := List.map_eq_cons_iff.mp hRest
        exact (hOther g.name o more rfl).elim
  | case5 bar rest hBar => cases fs <;> simp [hBar]

theorem expressionOfWords_eq_ok_iff {e : Expression} : expressionOfWords line offset ls = .ok e ↔
    ls.map Lexeme.word = e.words ∧ IsName e.subject ∧ e.line = line := by
  cases ls with
  | nil => simp [expressionOfWords, Expression.words]
  | cons first rest =>
    obtain ⟨word, start⟩ := first
    cases word with
    | name subject =>
      simp only [expressionOfWords, bind_eq_ok, checkName_eq_ok_iff, filterChain_eq_ok_iff]
      constructor
      · rintro ⟨_, hName, fs, hFilters, h⟩
        cases h
        exact ⟨congrArg (_ :: ·) hFilters, hName, rfl⟩
      · rintro ⟨hWords, hName, rfl⟩
        obtain ⟨hSubject, hFilters⟩ := List.cons.inj hWords
        cases hSubject
        exact ⟨(), hName, e.filters, hFilters, rfl⟩
    | quoted | number | equal | unequal | pipe => simp [expressionOfWords, Expression.words]

theorem Condition.atLine_eq_self_iff {c : Condition} : c.atLine line = c ↔ c.line = line := by
  obtain ⟨negated, subject, test, l⟩ := c
  simp [Condition.atLine, eq_comm]

theorem statementOfWords_eq_ok_iff {lineOf : Nat → Nat} {s : Statement} :
    statementOfWords lineOf offset ls = .ok s ↔
      ls.map Lexeme.word = s.words ∧ (∀ name ∈ s.names, IsName name) ∧
        ∀ l ∈ ls.head?, s.atLine (lineOf l.offset) = s := by
  cases ls with
  | nil => simp [statementOfWords, Statement.words]
  | cons first rest =>
    obtain ⟨word, start⟩ := first
    simp only [Statement.words, List.map_cons, List.cons_eq_cons, List.head?_cons, Option.mem_def,
      Option.some.injEq, forall_eq']
    constructor
    · intro h
      rw [statementOfWords] at h
      split at h
      next hKeyword =>
        obtain ⟨c, hCondition, rfl⟩ := map_eq_ok.mp h
        obtain ⟨hWords, hName, hLine⟩ := condition_eq_ok_iff.mp hCondition
        exact ⟨⟨hKeyword, hWords⟩, List.forall_mem_singleton.mpr hName,
          congrArg Statement.opensConditional (Condition.atLine_eq_self_iff.mpr hLine)⟩
      next hKeyword =>
        obtain ⟨c, hCondition, rfl⟩ := map_eq_ok.mp h
        obtain ⟨hWords, hName, hLine⟩ := condition_eq_ok_iff.mp hCondition
        exact ⟨⟨hKeyword, hWords⟩, List.forall_mem_singleton.mpr hName,
          congrArg Statement.alternative (Condition.atLine_eq_self_iff.mpr hLine)⟩
      next hKeyword =>
        obtain ⟨rfl, rfl⟩ := bare_eq_ok_iff.mp h
        exact ⟨⟨hKeyword, rfl⟩, List.forall_mem_nil _, rfl⟩
      next hKeyword =>
        obtain ⟨rfl, rfl⟩ := bare_eq_ok_iff.mp h
        exact ⟨⟨hKeyword, rfl⟩, List.forall_mem_nil _, rfl⟩
      next hKeyword =>
        obtain ⟨rfl, rfl⟩ := bare_eq_ok_iff.mp h
        exact ⟨⟨hKeyword, rfl⟩, List.forall_mem_nil _, rfl⟩
      next hKeyword =>
        obtain ⟨binding, source, hWords, hBinding, hSource, rfl⟩ := loopHeader_eq_ok_iff.mp h
        have hNames := List.forall_mem_cons.mpr ⟨hBinding, List.forall_mem_singleton.mpr hSource⟩
        exact ⟨⟨hKeyword, hWords⟩, hNames, rfl⟩
      next => cases h
      next => cases h
    · rintro ⟨⟨rfl, hOperands⟩, hNames, hLine⟩
      cases s with
      | opensConditional c =>
        have hLine : c.line = lineOf start :=
          Condition.atLine_eq_self_iff.mp (Statement.opensConditional.inj hLine)
        have hName : IsName c.subject := hNames _ List.mem_cons_self
        exact map_eq_ok.mpr ⟨c, condition_eq_ok_iff.mpr ⟨hOperands, hName, hLine⟩, rfl⟩
      | alternative c =>
        have hLine : c.line = lineOf start :=
          Condition.atLine_eq_self_iff.mp (Statement.alternative.inj hLine)
        have hName : IsName c.subject := hNames _ List.mem_cons_self
        exact map_eq_ok.mpr ⟨c, condition_eq_ok_iff.mpr ⟨hOperands, hName, hLine⟩, rfl⟩
      | opensLoop binding source =>
        have hBinding : IsName binding := hNames _ List.mem_cons_self
        have hSource : IsName source := hNames _ (List.mem_cons_of_mem _ List.mem_cons_self)
        exact loopHeader_eq_ok_iff.mpr ⟨binding, source, hOperands, hBinding, hSource, rfl⟩
      | otherwise | closesConditional | closesLoop =>
        exact bare_eq_ok_iff.mpr ⟨List.map_eq_nil_iff.mp hOperands, rfl⟩

end Rows

section Layouts

variable {lineOf : Nat → Nat} {base : Nat} {body t : List Char} {ls : List Lexeme} {w : Word}
  {s : Statement} {e : Expression}

theorem parseStatement_eq_ok_iff : parseStatement lineOf base body = .ok s ↔
    ∃ ls, lexemes base body = .ok ls ∧ ls.map Lexeme.word = s.words ∧
      (∀ name ∈ s.names, IsName name) ∧ ∀ l ∈ ls.head?, s.atLine (lineOf l.offset) = s := by
  simp only [parseStatement, bind_eq_ok, statementOfWords_eq_ok_iff]

theorem parseExpression_eq_ok_iff : parseExpression lineOf base body = .ok e ↔
    ∃ ls, lexemes base body = .ok ls ∧ ls.map Lexeme.word = e.words ∧
      IsName e.subject ∧ e.line = lineOf base := by
  simp only [parseExpression, bind_eq_ok, expressionOfWords_eq_ok_iff]

/-- How a word is printed. A text stands in quotes that it does not hold; of the numbers, the signed
words are printed, in digits. -/
inductive Written : Word → List Char → Prop
  | name {s : String} : Written (.name s) s.toList
  | quoted {q : Char} {s : List Char} : q = '"' ∨ q = '\'' → q ∉ s →
      Written (.quoted (String.ofList s)) (q :: (s ++ [q]))
  | number {n : Int} {inRange : WordRange n} : Number.isSigned n = true →
      Written (.number (.integer n inRange)) (toString n).toList
  | equal : Written .equal ['=', '=']
  | unequal : Written .unequal ['!', '=']
  | pipe : Written .pipe ['|']

theorem number?_toString {n : Int} {inRange : WordRange n} (h : Number.isSigned n = true) :
    number? (toString n).toList = some (.integer n inRange) := by
  rw [number?, Number.ofSigned?, Notation.integer?_toString]
  simp only [h, if_true, Number.ofInt?_eq_some inRange]

theorem spelled_toString {n : Int} {inRange : WordRange n} (h : Number.isSigned n = true) :
    Spelled (.number (.integer n inRange)) (toString n).toList := by
  have hChar : ∀ c ∈ Nat.toDigits 10 n.natAbs, isNumberChar c = true :=
    fun c hc => isNumberChar_iff.mpr (.inl (Notation.isDigit_of_mem_toDigits hc))
  have hValue : number? (toString n).toList = some (.integer n inRange) := number?_toString h
  rw [Notation.toList_toString] at hValue ⊢
  by_cases hNegative : n < 0
  · rw [if_pos hNegative] at hValue ⊢
    exact .number (.inr rfl) hChar hValue
  · rw [if_neg hNegative] at hValue ⊢
    obtain ⟨c, cs, hCons, hDigit⟩ := Notation.exists_digit_cons n.natAbs
    rw [hCons] at hValue hChar ⊢
    exact .number (.inl hDigit) (fun d hd => hChar d (.tail _ hd)) hValue

theorem Written.spelled (h : Written w t)
    (hName : ∀ s, w = .name s → isIdentifier s.toList = true) : Spelled w t := by
  cases h with
  | @name s =>
    have hWord := Spelled.of_isIdentifier (hName s rfl)
    rwa [String.ofList_toList] at hWord
  | quoted hQuote hNot => exact .quoted hQuote hNot
  | number hSigned => exact spelled_toString hSigned
  | equal => exact .equal
  | unequal => exact .unequal
  | pipe => exact .pipe

theorem Layout.spelled (h : Layout Written base body ls)
    (hNames : ∀ name, .name name ∈ ls.map Lexeme.word → isIdentifier name.toList = true) :
    Layout Spelled base body ls := by
  induction h with
  | nil => exact .nil
  | blank hBlank _ ih => exact .blank hBlank (ih hNames)
  | word hWord hStop _ ih =>
    refine .word (hWord.spelled ?_) hStop (ih fun name hMem => hNames name (.tail _ hMem))
    rintro name rfl
    exact hNames name (.head _)

theorem isIdentifier_of_literal {l : Literal} {name : String} (h : .name name = l.word) :
    isIdentifier name.toList = true := by
  cases l with
  | text | number => cases h
  | boolean b =>
    obtain rfl := Word.name.inj h
    cases b <;> decide

theorem isIdentifier_of_mem_test {x : Test} {name : String} (h : .name name ∈ x.words) :
    isIdentifier name.toList = true := by
  cases x with
  | truthy => cases h
  | equals l | differs l =>
    have hLiteral : .name name = l.word := by simpa [Test.words] using h
    exact isIdentifier_of_literal hLiteral
  | has l =>
    obtain hHas | hLiteral := List.mem_cons.mp h
    · obtain rfl := Word.name.inj hHas
      decide
    · exact isIdentifier_of_literal (List.mem_singleton.mp hLiteral)

theorem isIdentifier_of_mem_condition {c : Condition} (hSubject : IsName c.subject) {name : String}
    (h : .name name ∈ c.words) : isIdentifier name.toList = true := by
  rw [Condition.words, List.mem_append, List.mem_cons] at h
  rcases h with hNot | hName | hTest
  · obtain ⟨-, rfl⟩ : c.negated = true ∧ name = "not" := by simpa using hNot
    decide
  · exact Word.name.inj hName ▸ hSubject.1
  · exact isIdentifier_of_mem_test hTest

theorem isIdentifier_of_mem_statement (hNames : ∀ name ∈ s.names, IsName name) {name : String}
    (h : .name name ∈ s.words) : isIdentifier name.toList = true := by
  have hKeyword : isIdentifier s.keyword.toList = true := by
    cases s <;> rw [Statement.keyword] <;> decide
  obtain hName | hOperand := List.mem_cons.mp h
  · exact Word.name.inj hName ▸ hKeyword
  · cases s with
    | opensConditional c | alternative c =>
      exact isIdentifier_of_mem_condition (hNames _ List.mem_cons_self) hOperand
    | opensLoop binding source =>
      have hThree : name = binding ∨ name = "in" ∨ name = source := by
        simpa [Statement.operands] using hOperand
      rcases hThree with rfl | rfl | rfl
      · exact (hNames _ List.mem_cons_self).1
      · decide
      · exact (hNames _ (.tail _ List.mem_cons_self)).1
    | otherwise | closesConditional | closesLoop => cases hOperand

theorem isIdentifier_of_mem_expression (hSubject : IsName e.subject) {name : String}
    (h : .name name ∈ e.words) : isIdentifier name.toList = true := by
  obtain hName | hFilter := List.mem_cons.mp h
  · exact Word.name.inj hName ▸ hSubject.1
  · obtain ⟨f, -, hName⟩ := List.mem_flatMap.mp hFilter
    obtain rfl : name = f.name := by simpa using hName
    cases f <;> decide

theorem parseStatement_written (hNames : ∀ name ∈ s.names, IsName name)
    (hLayout : Layout Written base body ls) (hWords : ls.map Lexeme.word = s.words) :
    ∃ line, parseStatement lineOf base body = .ok (s.atLine line) := by
  have hScan := (hLayout.spelled fun name hMem =>
    isIdentifier_of_mem_statement hNames (hWords ▸ hMem)).lexemes_eq
  cases ls with
  | nil => cases hWords
  | cons first rest =>
    refine ⟨lineOf first.offset, parseStatement_eq_ok_iff.mpr ⟨_, hScan, ?_⟩⟩
    cases s with
    | opensConditional | alternative =>
      refine ⟨hWords, hNames, ?_⟩
      rintro _ ⟨⟩
      rfl
    | otherwise | closesConditional | closesLoop | opensLoop =>
      exact ⟨hWords, hNames, fun _ _ => rfl⟩

theorem parseExpression_written (hSubject : IsName e.subject)
    (hLayout : Layout Written base body ls) (hWords : ls.map Lexeme.word = e.words) :
    parseExpression lineOf base body = .ok (e.atLine (lineOf base)) := by
  have hScan := (hLayout.spelled fun name hMem =>
    isIdentifier_of_mem_expression hSubject (hWords ▸ hMem)).lexemes_eq
  exact parseExpression_eq_ok_iff.mpr ⟨ls, hScan, hWords, hSubject, rfl⟩

end Layouts

/-- A body is cut into the row of words that it is a layout of. It is a statement or an expression
just when that is the row that the statement or the expression is written as, with names in it
where names belong, and then it is that one. What is printed in any layout is so read back, but for
the line. -/
theorem body_parses_iff_words (lineOf : Nat → Nat) (base : Nat) (body : List Char) :
    (∀ ls, lexemes base body = .ok ls ↔ Layout Spelled base body ls) ∧
    (∀ s, parseStatement lineOf base body = .ok s ↔
      ∃ ls, lexemes base body = .ok ls ∧ ls.map Lexeme.word = s.words ∧
        (∀ name ∈ s.names, IsName name) ∧ ∀ l ∈ ls.head?, s.atLine (lineOf l.offset) = s) ∧
    (∀ e, parseExpression lineOf base body = .ok e ↔
      ∃ ls, lexemes base body = .ok ls ∧ ls.map Lexeme.word = e.words ∧
        IsName e.subject ∧ e.line = lineOf base) ∧
    (∀ (s : Statement) ls, (∀ name ∈ s.names, IsName name) → Layout Written base body ls →
      ls.map Lexeme.word = s.words →
      ∃ line, parseStatement lineOf base body = .ok (s.atLine line)) ∧
    ∀ (e : Expression) ls, IsName e.subject → Layout Written base body ls →
      ls.map Lexeme.word = e.words →
      parseExpression lineOf base body = .ok (e.atLine (lineOf base)) :=
  ⟨fun _ => lexemes_eq_ok_iff, fun _ => parseStatement_eq_ok_iff,
    fun _ => parseExpression_eq_ok_iff, fun _ _ => parseStatement_written,
    fun _ _ => parseExpression_written⟩

/-- No blank is needed on either side of an operator. -/
theorem body_parses_iff_words_tight :
    let c : Condition := ⟨true, "n", .differs (.number (.integer (-7) (by decide))), 0⟩
    let s : Statement := .opensConditional c
    let body : List Char := [' ', 'i', 'f', '\n', 'n', 'o', 't', ' ', 'n', '!', '=', '-', '7']
    (∀ name ∈ s.names, IsName name) ∧
      (∃ ls, Layout Written 2 body ls ∧ ls.map Lexeme.word = s.words) ∧
      ∃ line, parseStatement (fun _ => 1) 2 body = .ok (s.atLine line) := by
  intro c s body
  have hNames : ∀ name ∈ s.names, IsName name := by
    rintro name hMem
    obtain rfl := List.mem_singleton.mp hMem
    exact ⟨by decide, by decide⟩
  have hNumber : Written (.number (.integer (-7) (by decide))) ['-', '7'] := .number rfl
  have hStop : ∀ {w : Word} {d : Char} {rest : List Char}, isBlank d = true ∨ w.runsOn d = false →
      ∀ c ∈ (d :: rest).head?, isBlank c = true ∨ w.runsOn c = false := by
    rintro w d rest h _ ⟨⟩
    exact h
  have hBlank : isBlank ' ' = true := by decide
  have hLine : isBlank '\n' = true := by decide
  have hBang : isNameChar '!' = false := by decide
  have hLayout : Layout Written 2 body
      [⟨.name "if", 3⟩, ⟨.name "not", 6⟩, ⟨.name "n", 10⟩, ⟨.unequal, 11⟩,
        ⟨.number (.integer (-7) (by decide)), 13⟩] :=
    .blank hBlank <| .word (t := ['i', 'f']) (.name (s := "if")) (hStop (.inl hLine)) <|
    .blank hLine <| .word (t := ['n', 'o', 't']) (.name (s := "not")) (hStop (.inl hBlank)) <|
    .blank hBlank <| .word (t := ['n']) (.name (s := "n")) (hStop (.inr hBang)) <|
    .word .unequal (hStop (.inr rfl)) <| .word hNumber (by rintro _ ⟨⟩) .nil
  obtain ⟨-, -, -, hStatement, -⟩ := body_parses_iff_words (fun _ => 1) 2 body
  exact ⟨hNames, ⟨_, hLayout, rfl⟩, hStatement s _ hNames hLayout rfl⟩

end Boilerplate.Template
