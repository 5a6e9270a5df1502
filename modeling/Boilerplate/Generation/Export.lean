import Boilerplate.FileSystem.Basic
import Boilerplate.Generation.Rendering
import Boilerplate.Path.Relative

/-!
# Export

Writes generated files below a directory. All targets are checked before the first write, and a
failed write takes back the files that this export has written before.
-/

namespace Boilerplate

variable {m : Type → Type} [Monad m]

namespace Export

/-- A file to be written: where, and what. -/
structure Target where
  path : String
  content : String
  deriving DecidableEq, Repr

/-- The targets of files below `root`. Without leave to overwrite, a target must not exist. -/
def plan (fs : FileSystem m) (root : String) (overwrite : Bool) :
    List GeneratedFile → m (Except Error (List Target))
  | [] => pure (.ok [])
  | f :: rest =>
    match RelativePath.parse f.path with
    | .error e => pure (.error e)
    | .ok path => do
      let target := path.under root
      let taken ← if overwrite then pure false else fs.isPresent target
      if taken then pure (.error (.fileExists target))
      else
        match ← plan fs root overwrite rest with
        | .error e => pure (.error e)
        | .ok targets => pure (.ok (⟨target, f.content⟩ :: targets))

def createParent (fs : FileSystem m) (path : String) : m (Except Error Unit) :=
  match Path.parent? path with
  | none => pure (.ok ())
  | some parent => fs.createDirectories parent

def writeTarget (fs : FileSystem m) (t : Target) : m (Except Error Unit) := do
  match ← createParent fs t.path with
  | .error e => pure (.error e)
  | .ok () => fs.writeFile t.path t.content

/-- Removes files, whether or not that succeeds. -/
def takeBack (fs : FileSystem m) : List String → m Unit
  | [] => pure ()
  | path :: rest => do
    let _ ← fs.removeFile path
    takeBack fs rest

/-- Writes targets in order; `written` are the paths written before, last one first. -/
def writeTargets (fs : FileSystem m) (written : List String) :
    List Target → m (Except Error (List String))
  | [] => pure (.ok written.reverse)
  | t :: rest => do
    match ← writeTarget fs t with
    | .ok () => writeTargets fs (t.path :: written) rest
    | .error e => do
      takeBack fs written
      pure (.error e)

end Export

/-- The paths that were written, in the order of the files. -/
def exportFiles (fs : FileSystem m) (files : List GeneratedFile) (root : String)
    (overwrite : Bool) : m (Except Error (List String)) := do
  match ← Export.plan fs root overwrite files with
  | .error e => pure (.error e)
  | .ok targets => Export.writeTargets fs [] targets

end Boilerplate
