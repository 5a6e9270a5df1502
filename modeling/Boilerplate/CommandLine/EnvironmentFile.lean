import Boilerplate.Data.Dictionary
import Boilerplate.Text.Alphanumeric
import Boilerplate.Text.Blank

/-!
# Environment files

A file of variables adds those that the environment does not have. A line is a name, an equals sign
and a value; a value may be quoted, may go on over several lines within its quotes, and may name
other variables behind a dollar sign. Reading stops at the first line that is malformed or no UTF-8.
-/

namespace Boilerplate.CommandLine

/-- Variables by name. -/
abbrev Environment := Dictionary String

namespace EnvironmentFile

/-! ## Lines -/

/-- Where in a line a character stands. -/
inductive Place
  | plain
  | blank
  | escape
  | weak
  | weakEscape
  | strong
  | strongEscape
  deriving DecidableEq, Repr

def quoteOrPlain (c : Char) : Place :=
  if c = '\\' then .escape
  else if c = '"' then .weak
  else if c = '\'' then .strong
  else .plain

def Place.next (p : Place) (c : Char) : Place :=
  match p with
  | .blank => quoteOrPlain c
  | .escape => .plain
  | .plain =>
    if Text.isBlank c ∧ c ≠ '\n' ∧ c ≠ '\r' then .blank else quoteOrPlain c
  | .weak => if c = '\\' then .weakEscape else if c = '"' then .plain else .weak
  | .weakEscape => .weak
  | .strong => if c = '\\' then .strongEscape else if c = '\'' then .plain else .strong
  | .strongEscape => .strong

/-- Follows a line. A comment, which a blank must precede, ends it early. -/
def follow (p : Place) : List Char → List Char × Option Place
  | [] => ([], some p)
  | c :: rest =>
    if p = .blank ∧ c = '#' then ([], none)
    else
      let (body, last) := follow (p.next c) rest
      (c :: body, last)

/-- The lines of a file, each with its line end. -/
def byteLines : List UInt8 → List (List UInt8)
  | [] => []
  | b :: rest =>
    if b = 0x0a then [b] :: byteLines rest
    else
      match byteLines rest with
      | [] => [[b]]
      | l :: ls => (b :: l) :: ls

/-- The texts of lines up to the first that is not well formed. -/
def textLines : List (List UInt8) → List (List Char)
  | [] => []
  | l :: rest =>
    match String.fromUTF8? l.toByteArray with
    | some s => s.toList :: textLines rest
    | none => []

def dropLast? (c : Char) (s : List Char) : List Char :=
  if s.getLast? = some c then s.dropLast else s

def dropLineEnd (s : List Char) : List Char :=
  if s.getLast? = some '\n' then dropLast? '\r' s.dropLast else s

/-- Joins lines whose quotes are open with those that follow. `before` is the line so far. An open
line at the end is lost, and so is all that would come after it. -/
def joinLines (before : List Char) (p : Place) : List (List Char) → List (List Char)
  | [] => []
  | l :: rest =>
    if (Text.dropBlank (before ++ l)).head? = some '#' then joinLines [] .plain rest
    else
      match follow p l with
      | (body, none) => (before ++ body) :: joinLines [] .plain rest
      | (body, some .plain) => dropLineEnd (before ++ body) :: joinLines [] .plain rest
      | (body, some p) => joinLines (before ++ body) p rest

/-! ## Values -/

inductive Quote
  | weak
  | strong
  deriving DecidableEq, Repr

/-- A value in the middle of its reading. `output` and the name of a variable are kept reversed. -/
structure ValueState where
  output : List Char
  quote : Option Quote
  isEscaped : Bool
  /-- The variable that is being named, and whether it is in braces. -/
  variableName : Option (Bool × List Char)
  /-- The value is over; only blanks and a comment may follow. -/
  isOver : Bool
  /-- A comment has begun. -/
  isComment : Bool

namespace ValueState

def start : ValueState := ⟨[], none, false, none, false, false⟩

def push (s : ValueState) (c : Char) : ValueState :=
  { s with output := c :: s.output }

/-- Puts the value of the named variable in its place. -/
def substitute (env : Environment) (name : List Char) (s : ValueState) : ValueState :=
  let value := (env.get? (String.ofList name.reverse)).getD ""
  { s with output := value.toList.reverse ++ s.output, variableName := none }

def afterEscape (s : ValueState) (c : Char) : Option ValueState :=
  let s := { s with isEscaped := false }
  if c = 'n' then some (s.push '\n')
  else if ['\\', '\'', '"', '$', ' '].contains c then some (s.push c)
  else none

def inVariable (env : Environment) (inBraces : Bool) (name : List Char) (s : ValueState)
    (c : Char) : ValueState :=
  if Text.isAlphanumeric c then { s with variableName := some (inBraces, c :: name) }
  else if inBraces then
    if c = '\x7d' then s.substitute env name
    else { s with variableName := some (true, c :: name) }
  else if c = '\x7b' ∧ name.isEmpty then { s with variableName := some (true, []) }
  else if c = '$' then { s.substitute env name with variableName := some (false, []) }
  else (s.substitute env name).push c

def unquoted (s : ValueState) (c : Char) : ValueState :=
  if c = '\'' then { s with quote := some .strong }
  else if c = '"' then { s with quote := some .weak }
  else if c = '\\' then { s with isEscaped := true }
  else if c = ' ' ∨ c = '\t' then { s with isOver := true }
  else s.push c

def inWeak (s : ValueState) (c : Char) : ValueState :=
  if c = '"' then { s with quote := none }
  else if c = '\\' then { s with isEscaped := true }
  else s.push c

def afterEnd (s : ValueState) (c : Char) : Option ValueState :=
  if c = ' ' ∨ c = '\t' then some s
  else if c = '#' then some { s with isComment := true }
  else none

def step (env : Environment) (s : ValueState) (c : Char) : Option ValueState :=
  if s.isComment then some s
  else if s.isOver then s.afterEnd c
  else if s.isEscaped then s.afterEscape c
  else if s.quote = some .strong then
    some (if c = '\'' then { s with quote := none } else s.push c)
  else
    match s.variableName with
    | some (inBraces, name) => some (s.inVariable env inBraces name c)
    | none =>
      if c = '$' then some { s with variableName := some (false, []) }
      else some (if s.quote = some .weak then s.inWeak c else s.unquoted c)

/-- Quotes and braces must be closed at the end. -/
def finish? (env : Environment) (s : ValueState) : Option String :=
  match s.quote, s.variableName with
  | some _, _ => none
  | none, some (true, _) => none
  | none, some (false, name) => some (String.ofList (s.substitute env name).output.reverse)
  | none, none => some (String.ofList s.output.reverse)

end ValueState

def value? (env : Environment) (s : List Char) : Option String :=
  (s.foldlM (ValueState.step env) ValueState.start).bind (ValueState.finish? env)

/-! ## Variables -/

def isNameStart (c : Char) : Bool :=
  c.isAlpha || c == '_'

def isNameChar (c : Char) : Bool :=
  c.isAlphanum || c == '_' || c == '.'

def name? (s : List Char) : Option (String × List Char) :=
  if s.head?.any isNameStart then
    some (String.ofList (s.takeWhile isNameChar), Text.dropBlank (s.dropWhile isNameChar))
  else none

def dropEquals? : List Char → Option (List Char)
  | '=' :: rest => some rest
  | _ => none

/-- A name and what follows its equals sign. The word `export` in front is dropped, unless it is the
name itself. -/
def assignment? (s : List Char) : Option (String × List Char) := do
  let (name, rest) ← name? s
  match dropEquals? rest with
  | some rest => some (name, rest)
  | none =>
    if name = "export" then
      let (name, rest) ← name? rest
      (dropEquals? rest).map fun rest => (name, rest)
    else none

/-- What a line says: nothing, or a variable and its value. -/
def line? (env : Environment) (s : List Char) : Option (Option (String × String)) :=
  match Text.trim s with
  | [] => some none
  | '#' :: _ => some none
  | s =>
    (assignment? s).bind fun (name, rest) =>
      let body := Text.dropBlank rest
      if body.isEmpty ∨ body.head? = some '#' then some (some (name, ""))
      else (value? env body).map fun value => some (name, value)

def addLines (env : Environment) : List (List Char) → Environment
  | [] => env
  | l :: rest =>
    match line? env l with
    | none => env
    | some none => addLines env rest
    | some (some (name, value)) =>
      addLines (if env.contains name then env else env.insert name value) rest

/-- A byte order mark at the start is skipped. -/
def dropMark : List UInt8 → List UInt8
  | 0xef :: 0xbb :: 0xbf :: rest => rest
  | s => s

end EnvironmentFile

/-- The environment with the variables of a file that it lacks. -/
def Environment.withFile (env : Environment) (content : List UInt8) : Environment :=
  EnvironmentFile.addLines env
    (EnvironmentFile.joinLines [] .plain
      (EnvironmentFile.textLines (EnvironmentFile.byteLines (EnvironmentFile.dropMark content))))

end Boilerplate.CommandLine
