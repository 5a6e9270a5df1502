import Boilerplate.FileSystem.Basic
import Boilerplate.FileSystem.SystemError
import Boilerplate.FileSystem.Tree

/-!
# Machines

The operations on files that a whole program asks of the machine it runs on. The file system of an
export is the part of them that writes.
-/

namespace Boilerplate

structure Machine (m : Type → Type) where
  isPresent : String → m Bool
  readBytes : String → m (Except SystemError ByteArray)
  /-- The tree below a directory, or nothing if the path does not lead to one. -/
  directory? : String → m (Option Tree)
  createDirectories : String → m (Except SystemError Unit)
  writeBytes : String → ByteArray → m (Except SystemError Unit)
  removeFile : String → m (Except SystemError Unit)

def SystemError.textOf (content : ByteArray) : Except SystemError String :=
  match Tree.text? content with
  | some s => .ok s
  | none => .error .invalidText

namespace Machine

variable {m : Type → Type} [Monad m]

def readText (machine : Machine m) (path : String) : m (Except SystemError String) := do
  return (← machine.readBytes path).bind SystemError.textOf

/-- The first of several paths that can be read as a file, with its content. -/
def firstFile? (machine : Machine m) : List String → m (Option ByteArray)
  | [] => pure none
  | path :: rest => do
    match ← machine.readBytes path with
    | .ok content => pure (some content)
    | .error _ => machine.firstFile? rest

/-- A result whose error names the path and the operation. -/
def reported (path operation : String) (r : Except SystemError Unit) : Except Error Unit :=
  r.mapError fun e => e.failure path operation

def fileSystem (machine : Machine m) : FileSystem m where
  isPresent := machine.isPresent
  createDirectories path := do
    return reported path "create directory" (← machine.createDirectories path)
  writeFile path content := do
    return reported path "write file" (← machine.writeBytes path content.toUTF8)
  removeFile path := do
    return reported path "remove file" (← machine.removeFile path)

end Machine

end Boilerplate
