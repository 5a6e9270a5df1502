import Boilerplate.Number.Basic

/-!
# Words of a tag

The body of a tag is a row of words: names, quoted texts, numbers and three operators.
-/

namespace Boilerplate.Template

inductive Word
  | name (s : String)
  | quoted (s : String)
  | number (n : Number)
  | equal
  | unequal
  | pipe
  deriving DecidableEq

/-- How a message shows a word. -/
def Word.describe : Word → String
  | .name s => s!"'{s}'"
  | .quoted s => s!"\"{s}\""
  | .number n => n.text
  | .equal => "'=='"
  | .unequal => "'!='"
  | .pipe => "'|'"

/-- A word and the offset at which it starts in the source. -/
structure Lexeme where
  word : Word
  offset : Nat
  deriving DecidableEq

/-- The words that no field or binding may be named by. -/
def reservedWords : List String :=
  ["if", "elif", "else", "endif", "for", "in", "endfor", "not", "has", "true", "false"]

end Boilerplate.Template
