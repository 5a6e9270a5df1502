import Boilerplate.Definition.Field
import Boilerplate.Text.Blank

/-!
# Definitions

A definition is what a catalogue offers: files whose name, path and content are templates, the
fields they use, and named example configurations.
-/

namespace Boilerplate

structure FileTemplate where
  name : String
  path : String
  content : String
  fileType : String
  deriving DecidableEq, Repr

structure Definition where
  id : String
  name : String
  description : String
  category : String
  version : String
  files : List FileTemplate
  fields : List Field
  examples : Dictionary Config
  deriving DecidableEq

/-- What a listing shows of a definition: all but its files. -/
structure Summary where
  id : String
  name : String
  description : String
  category : String
  version : String
  fields : List Field
  examples : Dictionary Config
  deriving DecidableEq

namespace Definition

def defaultVersion : String := "1.0.0"

def field? (d : Definition) (name : String) : Option Field :=
  d.fields.find? (·.name == name)

def example? (d : Definition) (name : String) : Option Config :=
  d.examples.get? name

def summary (d : Definition) : Summary :=
  ⟨d.id, d.name, d.description, d.category, d.version, d.fields, d.examples⟩

def isIdChar (c : Char) : Bool :=
  c.isAlphanum || c == '-' || c == '_' || c == '.'

def isId (s : String) : Bool :=
  !s.isEmpty && s.toList.all isIdChar

/-- Checks the fields in order; `seen` are the names of those already checked. -/
def checkFields (seen : List String) : List Field → Except String Unit
  | [] => .ok ()
  | f :: rest =>
    if seen.contains f.name then .error s!"duplicate field '{f.name}'"
    else
      match f.validate with
      | .error e => .error e.message
      | .ok () => checkFields (f.name :: seen) rest

def findFault (d : Definition) : Except String Unit :=
  if !isId d.id then
    .error "id must be non-empty and use only letters, digits, '-', '_' or '.'"
  else if (Text.trim d.name.toList).isEmpty then .error "name is empty"
  else if d.files.isEmpty then .error "definition has no files"
  else checkFields [] d.fields

def validate (d : Definition) : Except Error Unit :=
  d.findFault.mapError fun reason => .invalidDefinition d.id reason

end Definition

end Boilerplate
