import Boilerplate.Template.Word
import Boilerplate.Template.Filter

/-!
# Syntax errors

Why a source is no template, and at which offset.
-/

namespace Boilerplate.Template

/-- The two kinds of block. -/
inductive BlockKind
  | conditional
  | loop
  deriving DecidableEq, Repr

def BlockKind.opener : BlockKind → String
  | .conditional => "if"
  | .loop => "for"

def BlockKind.closer : BlockKind → String
  | .conditional => "endif"
  | .loop => "endfor"

inductive SyntaxCause
  | unclosedTag
  | loneOperator (c : Char)
  | unterminatedString
  | invalidNumber (raw : String)
  | unexpectedCharacter (c : Char)
  | emptyDirective
  | expectedKeyword (found : Word)
  | malformedLoop
  | unknownDirective (name : String)
  | trailingWord (found : Word) (keyword : String)
  | expectedCondition
  | expectedField (found : Word)
  | expectedOperator (found : Word)
  | malformedCondition
  | expectedLiteral (found : Word)
  | emptyOutput
  | expectedPipe (found : Word)
  | expectedFilter
  | unknownFilter (name : String)
  | reservedWord (name : String)
  | invalidName (name : String)
  | strayKeyword (keyword : String)
  | keywordAfterElse (keyword : String)
  | keywordInside (keyword : String) (block : BlockKind)
  | unclosedBlock (block : BlockKind)
  deriving DecidableEq

def SyntaxCause.message : SyntaxCause → String
  | .unclosedTag => "unclosed tag, expected '%>'"
  | .loneOperator c => s!"expected '{c}='"
  | .unterminatedString => "unterminated string literal"
  | .invalidNumber raw => s!"invalid number '{raw}'"
  | .unexpectedCharacter c => s!"unexpected character '{c}'"
  | .emptyDirective => "empty directive"
  | .expectedKeyword found => s!"expected a keyword, found {found.describe}"
  | .malformedLoop => "expected 'for <name> in <field>'"
  | .unknownDirective name => s!"unknown directive '{name}'"
  | .trailingWord found keyword => s!"unexpected {found.describe} after '{keyword}'"
  | .expectedCondition => "expected a condition"
  | .expectedField found => s!"expected a field name, found {found.describe}"
  | .expectedOperator found => s!"expected '==', '!=' or 'has', found {found.describe}"
  | .malformedCondition => "malformed condition"
  | .expectedLiteral found => s!"expected a literal, found {found.describe}"
  | .emptyOutput => "empty output tag"
  | .expectedPipe found => s!"expected '|', found {found.describe}"
  | .expectedFilter => "expected a filter name after '|'"
  | .unknownFilter name => Filter.unknownMessage name
  | .reservedWord name => s!"'{name}' is a reserved word"
  | .invalidName name => s!"'{name}' is not a valid name"
  | .strayKeyword keyword => s!"unexpected '{keyword}'"
  | .keywordAfterElse keyword => s!"unexpected '{keyword}' after 'else'"
  | .keywordInside keyword block => s!"unexpected '{keyword}' inside '{block.opener}'"
  | .unclosedBlock block => s!"unclosed '{block.opener}', expected '{block.closer}'"

structure SyntaxError where
  offset : Nat
  cause : SyntaxCause
  deriving DecidableEq

end Boilerplate.Template
