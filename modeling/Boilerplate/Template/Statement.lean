import Boilerplate.Template.Lexeme
import Boilerplate.Text.Identifier

/-!
# Statements and expressions

The grammar of the bodies of tags. An output tag holds `NAME (| FILTER)*`. A statement is one of
`if COND`, `elif COND`, `else`, `endif`, `for NAME in NAME` and `endfor`, where `COND` is
`not? NAME ((== | !=) LITERAL | has LITERAL)?`.
-/

namespace Boilerplate.Template

inductive Literal
  | text (s : String)
  | number (n : Number)
  | boolean (b : Bool)
  deriving DecidableEq

def Literal.typeName : Literal → String
  | .text _ => "text"
  | .number _ => "number"
  | .boolean _ => "boolean"

/-- The form in which a literal is looked for among the items of a list. -/
def Literal.asText : Literal → String
  | .text s => s
  | .number n => n.text
  | .boolean b => toString b

inductive Test
  | truthy
  | equals (l : Literal)
  | differs (l : Literal)
  | has (l : Literal)
  deriving DecidableEq

structure Condition where
  negated : Bool
  subject : String
  test : Test
  line : Nat
  deriving DecidableEq

structure Expression where
  subject : String
  filters : List Filter
  line : Nat
  deriving DecidableEq

inductive Statement
  | opensConditional (condition : Condition)
  | alternative (condition : Condition)
  | otherwise
  | closesConditional
  | opensLoop (binding source : String)
  | closesLoop
  deriving DecidableEq

def Statement.keyword : Statement → String
  | .opensConditional _ => "if"
  | .alternative _ => "elif"
  | .otherwise => "else"
  | .closesConditional => "endif"
  | .opensLoop _ _ => "for"
  | .closesLoop => "endfor"

/-- Refuses a name that is reserved or is no identifier. -/
def checkName (name : String) (offset : Nat) : Except SyntaxError Unit :=
  if name ∈ reservedWords then .error ⟨offset, .reservedWord name⟩
  else if Text.isIdentifier name.toList then .ok ()
  else .error ⟨offset, .invalidName name⟩

def literal (l : Lexeme) : Except SyntaxError Literal :=
  match l.word with
  | .quoted s => .ok (.text s)
  | .number n => .ok (.number n)
  | .name s =>
    if s = "true" then .ok (.boolean true)
    else if s = "false" then .ok (.boolean false)
    else .error ⟨l.offset, .expectedLiteral l.word⟩
  | w => .error ⟨l.offset, .expectedLiteral w⟩

/-- The test that follows the subject of a condition. -/
def test : List Lexeme → Except SyntaxError Test
  | [] => .ok .truthy
  | [operator, operand] => do
    let l ← literal operand
    match operator.word with
    | .equal => .ok (.equals l)
    | .unequal => .ok (.differs l)
    | w => if w = .name "has" then .ok (.has l) else .error ⟨operator.offset, .expectedOperator w⟩
  | operator :: _ => .error ⟨operator.offset, .malformedCondition⟩

/-- Splits off a leading `not`. -/
def splitNot : List Lexeme → Bool × List Lexeme
  | l :: rest => if l.word = .name "not" then (true, rest) else (false, l :: rest)
  | [] => (false, [])

/-- The condition after the keyword at `offset`, which stands on line `line`. -/
def condition (line offset : Nat) (words : List Lexeme) : Except SyntaxError Condition :=
  let (negated, rest) := splitNot words
  match rest with
  | [] => .error ⟨offset, .expectedCondition⟩
  | first :: rest =>
    match first.word with
    | .name subject => do
      checkName subject first.offset
      let t ← test rest
      .ok ⟨negated, subject, t, line⟩
    | w => .error ⟨first.offset, .expectedField w⟩

/-- A statement that is its keyword alone. -/
def bare (s : Statement) : List Lexeme → Except SyntaxError Statement
  | [] => .ok s
  | extra :: _ => .error ⟨extra.offset, .trailingWord extra.word s.keyword⟩

/-- The rest of a loop statement whose keyword is at `offset`. -/
def loopHeader (offset : Nat) : List Lexeme → Except SyntaxError Statement
  | [⟨.name binding, b⟩, ⟨.name keyword, _⟩, ⟨.name source, s⟩] =>
    if keyword = "in" then do
      checkName binding b
      checkName source s
      .ok (.opensLoop binding source)
    else .error ⟨offset, .malformedLoop⟩
  | _ => .error ⟨offset, .malformedLoop⟩

/-- The statement that a row of words makes; `base` is the offset of the body and `lineOf` gives the
line of an offset. -/
def statementOfWords (lineOf : Nat → Nat) (base : Nat) : List Lexeme → Except SyntaxError Statement
  | [] => .error ⟨base, .emptyDirective⟩
  | first :: rest =>
    match first.word with
    | .name "if" =>
      (condition (lineOf first.offset) first.offset rest).map .opensConditional
    | .name "elif" => (condition (lineOf first.offset) first.offset rest).map .alternative
    | .name "else" => bare .otherwise rest
    | .name "endif" => bare .closesConditional rest
    | .name "endfor" => bare .closesLoop rest
    | .name "for" => loopHeader first.offset rest
    | .name other => .error ⟨first.offset, .unknownDirective other⟩
    | w => .error ⟨first.offset, .expectedKeyword w⟩

def parseStatement (lineOf : Nat → Nat) (base : Nat) (body : List Char) :
    Except SyntaxError Statement := do
  statementOfWords lineOf base (← lexemes base body)

/-- The chain of filters after the name in an output tag. -/
def filterChain : List Lexeme → Except SyntaxError (List Filter)
  | [] => .ok []
  | bar :: rest =>
    if bar.word = .pipe then
      match rest with
      | ⟨.name name, offset⟩ :: rest =>
        match Filter.ofName? name with
        | some f => (filterChain rest).map (f :: ·)
        | none => .error ⟨offset, .unknownFilter name⟩
      | _ => .error ⟨bar.offset, .expectedFilter⟩
    else .error ⟨bar.offset, .expectedPipe bar.word⟩

def expressionOfWords (line base : Nat) : List Lexeme → Except SyntaxError Expression
  | [] => .error ⟨base, .emptyOutput⟩
  | first :: rest =>
    match first.word with
    | .name subject => do
      checkName subject first.offset
      let filters ← filterChain rest
      .ok ⟨subject, filters, line⟩
    | w => .error ⟨first.offset, .expectedField w⟩

def parseExpression (lineOf : Nat → Nat) (base : Nat) (body : List Char) :
    Except SyntaxError Expression := do
  expressionOfWords (lineOf base) base (← lexemes base body)

end Boilerplate.Template
