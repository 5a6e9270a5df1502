import Boilerplate.Error
import Boilerplate.Path.Basic

/-!
# Relative paths

The path of a generated file is relative and stays below the directory it is put in. It is kept as
its segments: the names among its components.
-/

namespace Boilerplate

inductive PathFault
  | absolute
  | parent
  | empty
  deriving DecidableEq, Repr

def PathFault.message : PathFault → String
  | .absolute => "absolute paths are not allowed"
  | .parent => "'..' is not allowed"
  | .empty => "path is empty"

structure RelativePath where
  segments : List (List Char)
  deriving DecidableEq, Repr

namespace RelativePath

/-- A backslash at the start is refused like a slash, though it separates nothing. -/
def ofText (s : List Char) : Except PathFault RelativePath :=
  let components := Path.leading s ++ Path.plainComponents (Path.pieces s)
  let segments := components.filterMap Path.Component.name?
  if s.head? = some '/' ∨ s.head? = some '\\' then .error .absolute
  else if components.any Path.Component.isParent then .error .parent
  else if segments.isEmpty then .error .empty
  else .ok ⟨segments⟩

def parse (raw : String) : Except Error RelativePath :=
  (ofText raw.toList).mapError fun fault => .unsafePath raw fault.message

def text (p : RelativePath) : String :=
  String.ofList (['/'].intercalate p.segments)

/-- The place of the path below a directory. -/
def under (p : RelativePath) (root : String) : String :=
  Path.join root p.text

end RelativePath

end Boilerplate
