import Boilerplate.CommandLine.Failure
import Boilerplate.Definition.Document
import Boilerplate.FileSystem.SystemError
import Boilerplate.Json.Reader
import Boilerplate.Text.Blank

/-!
# Values of a configuration

A configuration is put together from a documented example, a file of values and single assignments;
a later source wins. The text of an assignment is read as the kind of its field asks for.
-/

namespace Boilerplate.CommandLine

/-- Where values come from. The file is given by its path and what reading it gave. -/
structure ValueSources where
  example? : Option String
  file? : Option (String × Except SystemError String)
  assignments : List String

/-- Splits at the first equals sign. The name must not be blank, and blanks around it are dropped.
-/
def parseAssignment (assignment : String) : Except Failure (String × String) :=
  let s := assignment.toList
  let name := Text.trim (s.takeWhile (· != '='))
  match s.dropWhile (· != '=') with
  | _ :: raw =>
    if name.isEmpty then .error (.invalidInput s!"expected KEY=VALUE, got '{assignment}'" none)
    else .ok (String.ofList name, String.ofList raw)
  | [] => .error (.invalidInput s!"expected KEY=VALUE, got '{assignment}'" none)

/-- A number that is not finite becomes zero. -/
def numberOfReal : RealReading → Number
  | .finite x => .float x
  | _ => .zero

/-- A signed word keeps integer form; anything else is a double. -/
def numberOfText? (s : List Char) : Option Number :=
  match Number.ofSigned? s with
  | some n => some n
  | none => (Notation.real? s).map numberOfReal

def booleanOfText? (s : List Char) : Option Bool :=
  let lowered := s.map Char.toLower
  if lowered == "true".toList then some true
  else if lowered == "false".toList then some false
  else none

/-- The pieces between commas, without the blanks around them and without empty ones. -/
def listOfText (s : List Char) : List String :=
  ((s.splitOn ',').map Text.trim |>.filter (!·.isEmpty)).map String.ofList

/-- Reads a text as a value of a kind. A field that is not declared takes it as it is. -/
def coerce (name raw : String) (kind : Option Kind) : Except Failure Value :=
  let trimmed := Text.trim raw.toList
  let invalid (expected : String) : Except Failure Value :=
    .error (.invalidInput s!"'{name}' expects {expected}, got '{raw}'" none)
  match kind with
  | some .number => (numberOfText? trimmed).elim (invalid "a number") fun n => .ok (.number n)
  | some .boolean =>
    (booleanOfText? trimmed).elim (invalid "true or false") fun b => .ok (.boolean b)
  | some .multiSelect => .ok (.list (listOfText raw.toList))
  | some .text | some .select | none => .ok (.text raw)

def assign (d : Definition) (config : Config) (assignment : String) : Except Failure Config := do
  let (name, raw) ← parseAssignment assignment
  let v ← coerce name raw ((d.field? name).map (·.kind))
  return config.insert name v

def exampleConfig (d : Definition) : Option String → Except Failure Config
  | none => .ok ∅
  | some name =>
    match d.example? name with
    | some config => .ok config
    | none => .error (.unknownExample d.id name d.examples.keys)

/-- The values of a file, which must be an object of configuration values. The cause of a refusal is
one fixed text; it stands for the message of the reader, which tells the fault and its place. -/
def fileConfig : Option (String × Except SystemError String) → Except Failure Config
  | none => .ok ∅
  | some (path, .error e) => .error (.io s!"Failed to read values file '{path}'" e.message)
  | some (path, .ok source) =>
    match (Json.parse? source.toList).bind configOfJson? with
    | some config => .ok config
    | none =>
      .error (.invalidInput s!"'{path}' is not a JSON object of field values"
        (some "not an object of texts, numbers, truth values and lists of texts"))

/-- All values for a definition, from the example, the file and the assignments in order. -/
def resolveValues (d : Definition) (sources : ValueSources) : Except Failure Config := do
  let config ← exampleConfig d sources.example?
  let fromFile ← fileConfig sources.file?
  sources.assignments.foldlM (assign d) (config.insertAll fromFile.entries)

end Boilerplate.CommandLine
