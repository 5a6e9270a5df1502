import Boilerplate.Template.SyntaxError
import Boilerplate.Text.Alphanumeric
import Boilerplate.Text.Position

/-!
# Reading the words of a tag

White space separates words and is otherwise ignored. A quoted text ends at the next quote of its
own kind. A number starts with a digit or a minus sign and runs over digits and points.
-/

namespace Boilerplate.Template

open Text

def isNumberChar (c : Char) : Bool :=
  Notation.isDigit c || c == '.'

def isNameChar (c : Char) : Bool :=
  isAlphanumeric c || c == '_'

/-- A signed word keeps integer form; any other finite number is a double. -/
def number? (raw : List Char) : Option Number :=
  match Number.ofSigned? raw with
  | some n => some n
  | none =>
    match Notation.real? raw with
    | some (.finite x) => some (.float x)
    | _ => none

/-- Puts a word in front of the words that follow it. -/
def prepend (word : Word) (offset : Nat) (rest : Except SyntaxError (List Lexeme)) :
    Except SyntaxError (List Lexeme) :=
  rest.map (⟨word, offset⟩ :: ·)

theorem length_dropWhile_le (p : Char → Bool) (s : List Char) :
    (s.dropWhile p).length ≤ s.length :=
  (List.dropWhile_sublist p).length_le

/-- The words of the text `s` that stands at `offset`. -/
def lexemes (offset : Nat) (s : List Char) : Except SyntaxError (List Lexeme) :=
  match s with
  | [] => .ok []
  | c :: rest =>
    if isBlank c then lexemes (offset + c.utf8Size) rest
    else if c = '|' then prepend .pipe offset (lexemes (offset + 1) rest)
    else if c = '=' ∨ c = '!' then
      match rest with
      | '=' :: after =>
        prepend (if c = '=' then .equal else .unequal) offset (lexemes (offset + 2) after)
      | _ => .error ⟨offset, .loneOperator c⟩
    else if c = '"' ∨ c = '\'' then
      let body := rest.takeWhile (· != c)
      match _closed : rest.dropWhile (· != c) with
      | [] => .error ⟨offset, .unterminatedString⟩
      | _ :: after =>
        prepend (.quoted (String.ofList body)) offset
          (lexemes (offset + 2 + byteLength body) after)
    else if Notation.isDigit c ∨ c = '-' then
      let raw := c :: rest.takeWhile isNumberChar
      match number? raw with
      | none => .error ⟨offset, .invalidNumber (String.ofList raw)⟩
      | some n =>
        prepend (.number n) offset
          (lexemes (offset + byteLength raw) (rest.dropWhile isNumberChar))
    else if isNameChar c then
      let name := c :: rest.takeWhile isNameChar
      prepend (.name (String.ofList name)) offset
        (lexemes (offset + byteLength name) (rest.dropWhile isNameChar))
    else .error ⟨offset, .unexpectedCharacter c⟩
termination_by s.length
decreasing_by
  · exact Nat.lt_add_one _
  · exact Nat.lt_add_one _
  · exact Nat.lt_succ_of_lt (Nat.lt_add_one _)
  · have h := length_dropWhile_le (· != c) rest
    rw [_closed] at h
    exact Nat.lt_succ_of_lt h
  · exact Nat.lt_succ_of_le (length_dropWhile_le isNumberChar rest)
  · exact Nat.lt_succ_of_le (length_dropWhile_le isNameChar rest)

end Boilerplate.Template
