import Boilerplate.FileSystem.Basic
import Boilerplate.Path.Basic

/-!
# A file system in memory

Files and directories are known by the components of their paths. A file keeps the spelling of the
path it was first written under.
-/

namespace Boilerplate

open Boilerplate.Path (Component components componentsBefore)

/-- A file: the path it was first written under, and its content. -/
structure StoredFile where
  path : String
  content : String
  deriving DecidableEq, Repr

/-- `files` are in the order of their components. -/
structure Memory where
  files : List StoredFile
  directories : List (List Component)
  deriving DecidableEq, Repr

namespace Memory

def empty : Memory :=
  ⟨[], []⟩

def samePlace (a b : String) : Bool :=
  components a == components b

def file? (s : Memory) (path : String) : Option String :=
  (s.files.find? fun f => samePlace f.path path).map (·.content)

def isFile (s : Memory) (path : String) : Bool :=
  (s.file? path).isSome

def isDirectory (s : Memory) (path : String) : Bool :=
  s.directories.contains (components path)

def paths (s : Memory) : List String :=
  s.files.map (·.path)

/-- The nonempty initial parts of a row, shortest first. -/
def beginnings {α : Type} : List α → List (List α)
  | [] => []
  | a :: rest => [a] :: (beginnings rest).map (a :: ·)

def addDirectory (directories : List (List Component)) (d : List Component) :
    List (List Component) :=
  if directories.contains d then directories else directories ++ [d]

/-- Makes a directory of every beginning of the path. -/
def createDirectories (s : Memory) (path : String) : Memory :=
  ⟨s.files, (beginnings (components path)).foldl addDirectory s.directories⟩

def putFile (path content : String) : List StoredFile → List StoredFile
  | [] => [⟨path, content⟩]
  | f :: rest =>
    if samePlace f.path path then ⟨f.path, content⟩ :: rest
    else if componentsBefore (components path) (components f.path) then
      ⟨path, content⟩ :: f :: rest
    else f :: putFile path content rest

/-- Whether a file may be written: its parent, if it has one by name, is a directory. -/
def hasParent (s : Memory) (path : String) : Bool :=
  match Path.parent? path with
  | none => true
  | some parent => parent == "" || s.isDirectory parent

def writeFile (s : Memory) (path content : String) : Except Error Memory :=
  if s.hasParent path then .ok ⟨putFile path content s.files, s.directories⟩
  else .error (.fileSystem path "Parent directory does not exist")

def removeFile (s : Memory) (path : String) : Except Error Memory :=
  if s.isFile path then .ok ⟨s.files.filter fun f => !samePlace f.path path, s.directories⟩
  else .error (.fileSystem path "No such file")

/-- Takes the new state of an operation that succeeds. -/
def advance (s : Memory) : Except Error Memory → Except Error Unit × Memory
  | .ok s' => (.ok (), s')
  | .error e => (.error e, s)

def fileSystem : FileSystem (StateM Memory) where
  isPresent path := fun s => (s.isFile path || s.isDirectory path, s)
  createDirectories path := fun s => (.ok (), s.createDirectories path)
  writeFile path content := fun s => s.advance (s.writeFile path content)
  removeFile path := fun s => s.advance (s.removeFile path)

end Memory

end Boilerplate
