import Boilerplate.Catalog.BuiltIn
import Boilerplate.Definition.Document
import Boilerplate.FileSystem.Machine
import Boilerplate.Path.Basic
import Boilerplate.Toml.Reader

/-!
# Definitions from files

A definition may be kept in a TOML file of its own. All such files of a directory tree are
registered together; one that cannot be read as a valid definition is passed over.
-/

namespace Boilerplate

namespace Definition

def ofToml? (source : String) : Option Definition :=
  (Toml.parse? source.toList).bind fun entries =>
    ofJson? .toml (.object (Toml.entriesToJson entries))

/-- The definition in a file, which must be valid. A file that fails is named by its path. -/
def ofFile (path : String) (content : Except SystemError String) : Except Error Definition :=
  match content with
  | .error e => .error (.invalidDefinition path s!"failed to read: {e.message}")
  | .ok source =>
    match ofToml? source with
    | none => .error (.invalidDefinition path "failed to parse")
    | some d => d.validate.map fun _ => d

end Definition

namespace Tree

/-- Whether a place is that of a definition file. -/
def isDefinitionPlace (place : List String) : Bool :=
  match place.getLast? with
  | some name => Path.extension? name.toList == some "toml".toList
  | none => false

/-- The definition in a file below a directory, if its place is one for definitions and it holds a
valid one. -/
def definitionIn? (dir : String) (file : List String × ByteArray) : Option Definition :=
  if isDefinitionPlace file.1 then
    (Definition.ofFile (Path.join dir (pathText file.1)) (SystemError.textOf file.2)).toOption
  else none

/-- The valid definitions of the tree below a directory, depth first and by name. -/
def definitions (dir : String) (t : Tree) : List Definition :=
  t.files.filterMap (definitionIn? dir)

end Tree

namespace Registry

/-- Registers the definitions below a directory, and tells how many there were. -/
def loadDirectory (r : Registry) (dir : String) (content : Option Tree) :
    Registry × Except Error Nat :=
  match content with
  | some (.directory entries) =>
    let definitions := Tree.definitions dir (.directory entries)
    let (r, result) := r.registerAll definitions
    (r, result.map fun _ => definitions.length)
  | _ => (r, .error (.configuration s!"templates directory not found: {dir}"))

/-- The built-in catalogue, with the definitions below a directory if one is given. -/
def load : Option (String × Option Tree) → Except Error Registry
  | none => .ok builtIn
  | some (dir, content) =>
    let (r, result) := builtIn.loadDirectory dir content
    result.map fun _ => r

end Registry

end Boilerplate
