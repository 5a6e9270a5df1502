import Boilerplate.CommandLine.EnvironmentFile
import Boilerplate.CommandLine.Setting
import Boilerplate.Json.Writer
import Boilerplate.Text.LetterCase
import Boilerplate.Text.Utf8
import Boilerplate.Toml.Reader
import Boilerplate.Toml.Writer

/-!
# Settings

What the program can be configured with. Settings are built in layers: the defaults, a TOML file,
and variables of the environment. A later layer wins.
-/

namespace Boilerplate.CommandLine

structure Settings where
  noColour : Bool
  format : String
  /-- Where definitions are read from besides the built-in ones. -/
  templatesPath? : Option String
  /-- Where archives go if the command does not say. -/
  downloadDirectory? : Option String
  deriving DecidableEq, Repr

namespace Settings

def defaults : Settings := ⟨false, "auto", none, none⟩

/-! ## The environment -/

def variableStart : List Char := "stencil_".toList

/-- Two underscores in a row stand for a dot. -/
def dotted : List Char → List Char
  | '_' :: '_' :: rest => '.' :: dotted rest
  | c :: rest => c :: dotted rest
  | [] => []

/-- The dotted name that a variable sets. -/
def variablePath? (name : String) : Option String :=
  let lowered := Text.lower name.toList
  if variableStart.isPrefixOf lowered then
    some (String.ofList (dotted (lowered.drop variableStart.length)))
  else none

/-- The value of a variable: a truth value, an integer, a real number or else its text. -/
def variableValue (s : String) : Setting :=
  let lowered := Text.lower s.toList
  if lowered = "true".toList then .boolean true
  else if lowered = "false".toList then .boolean false
  else
    match (Notation.integer? s.toList).filter Number.isSigned with
    | some n => .integer n
    | none =>
      match Notation.real? s.toList with
      | some x => .real x
      | none => .text s

def environmentLayer (env : Environment) : Setting.Members :=
  env.entries.filterMap fun (name, value) =>
    (variablePath? name).map fun path => (path, variableValue value)

/-! ## Reading -/

def realText : RealReading → String
  | .finite x => x.plainText
  | .infinite negative => if negative then "-inf" else "inf"
  | .notANumber => "NaN"

/-- Any single value can serve as a text. -/
def asText? : Setting → Option String
  | .text s => some s
  | .integer n => some (toString n)
  | .real x => some (realText x)
  | .boolean b => some (toString b)
  | _ => none

/-- A text that may be missing. -/
def asOptionalText? : Setting → Option (Option String)
  | .missing => some none
  | v => (asText? v).map some

def trueWords : List String := ["1", "true", "on", "yes"]

def noWords : List String := ["0", "false", "off", "no"]

def isNonzero : RealReading → Bool
  | .finite x => !x.isZero
  | _ => true

/-- Numbers count by whether they are zero, and words by their meaning. -/
def asTruth? : Setting → Option Bool
  | .boolean b => some b
  | .integer n => some (n != 0)
  | .real x => some (isNonzero x)
  | .text s =>
    let word := String.ofList (Text.lower s.toList)
    if trueWords.contains word then some true
    else if noWords.contains word then some false
    else none
  | _ => none

/-- A member of a section, by its name or its place; nothing if there is no such section. A section
may be written as a list of its members. -/
def member? (root : Setting) (part : String) (place : Nat) (name : String) :
    Option (Option Setting) :=
  match root.members.lookup part with
  | none => some none
  | some (.group members) => some (members.lookup name)
  | some (.list items) => some items[place]?
  | some _ => none

/-- Reads a member that may be absent. -/
def read? {α : Type} (absent : α) (read : Setting → Option α) : Option (Option Setting) → Option α
  | none => none
  | some none => some absent
  | some (some v) => read v

def ofRoot? (root : Setting) : Option Settings := do
  return {
    noColour := ← read? defaults.noColour asTruth? (member? root "output" 0 "no_color")
    format := ← read? defaults.format asText? (member? root "output" 1 "format")
    templatesPath? := ← read? none asOptionalText? (member? root "templates" 0 "local_path")
    downloadDirectory? := ← read? none asOptionalText? (member? root "download" 0 "directory") }

inductive Fault
  | unreadable (path : String)
  | malformed (path : String)
  | wrongType
  deriving DecidableEq, Repr

def Fault.message : Fault → String
  | .unreadable path =>
    s!"Failed to read configuration: configuration file \"{path}\" not found"
  | .malformed path => s!"Failed to read configuration: {path} is not a TOML document"
  | .wrongType => "Invalid configuration: a value does not have the type of its key"

/-- The layer that a file gives. Damaged text in it does no harm by itself. -/
def fileLayer? (content : List UInt8) : Option Setting.Members := do
  match ← Setting.groupOfToml? (← Toml.parse? (Toml.dropMark (Text.decode content))) with
  | .group members => some members
  | _ => none

/-- Settings from the content of a file and the environment. -/
def load (path : String) (content : List UInt8) (env : Environment) : Except Fault Settings :=
  match fileLayer? content with
  | none => .error (.malformed path)
  | some file =>
    match ofRoot? (((Setting.group []).addLayer file).addLayer (environmentLayer env)) with
    | none => .error .wrongType
    | some settings => .ok settings

/-! ## Showing -/

def get? (s : Settings) (key : String) : Option String :=
  match key with
  | "output.no_color" => some (toString s.noColour)
  | "output.format" => some s.format
  | "templates.local_path" => some (s.templatesPath?.getD "")
  | "download.directory" => some (s.downloadDirectory?.getD "")
  | _ => none

def optionalMember (name : String) (value? : Option String) : List (String × Json) :=
  value?.elim [] fun v => [(name, .text v)]

def toJson (s : Settings) : Json :=
  .object [
    ("output", .object [("no_color", .boolean s.noColour), ("format", .text s.format)]),
    ("templates", .object (optionalMember "local_path" s.templatesPath?)),
    ("download", .object (optionalMember "directory" s.downloadDirectory?))]

def optionalLines (name : String) (value? : Option String) : List String :=
  value?.elim [] fun v => [s!"{name} = {Toml.quotedText v}"]

/-- The lines of a configuration file with these settings. -/
def lines (s : Settings) : List String :=
  ["[output]", s!"no_color = {s.noColour}", s!"format = {Toml.quotedText s.format}", "",
    "[templates]"]
  ++ optionalLines "local_path" s.templatesPath?
  ++ ["", "[download]"]
  ++ optionalLines "directory" s.downloadDirectory?

end Settings

end Boilerplate.CommandLine
