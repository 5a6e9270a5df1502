import Boilerplate.FileSystem.Machine
import Boilerplate.Path.Basic

/-!
# A disk

A directory tree used the way a Unix disk is: every directory on the way to a file must exist, names
are limited to 255 bytes, and a failure has the text of its system error. The top is its own parent,
and there are no links.
-/

namespace Boilerplate

/-- A directory tree seen from its top. -/
structure Disk where
  top : Tree

namespace Disk

def nameLimit : Nat := 255

def pathLimit : Nat := 4095

/-- The pieces of a path that matter to a look-up. -/
def steps (path : String) : List String :=
  ((Path.pieces path.toList).filter (· != [])).map String.ofList

/-- Whether a path must lead to a directory by its form. -/
def endsInSlash (path : String) : Bool :=
  path.toList.getLast? == some '/'

def checkPath (path : String) : Except SystemError Unit :=
  if path.toList.contains '\x00' then .error .zeroInPath
  else if pathLimit < path.utf8ByteSize then .error .nameTooLong
  else if path = "" then .error .notFound
  else .ok ()

/-- Follows steps from a place, given by its names from the top. -/
def follow (top : Tree) (place : List String) : List String → Except SystemError (List String)
  | [] => .ok place
  | s :: rest =>
    match top.find? place with
    | some (.directory entries) =>
      if s = "." then follow top place rest
      else if s = ".." then follow top place.dropLast rest
      else if nameLimit < s.utf8ByteSize then .error .nameTooLong
      else if (entries.lookup s).isNone then .error .notFound
      else follow top (place ++ [s]) rest
    | some (.file _) => .error .notDirectory
    | none => .error .notFound

/-- The place and the entry that a path leads to. -/
def resolve (d : Disk) (path : String) : Except SystemError (List String × Tree) := do
  checkPath path
  let place ← follow d.top [] (steps path)
  match d.top.find? place with
  | none => .error .notFound
  | some t =>
    if endsInSlash path && !t.isDirectory then .error .notDirectory else .ok (place, t)

def isPresent (d : Disk) (path : String) : Bool :=
  (d.resolve path).toOption.isSome

def isDirectory (d : Disk) (path : String) : Bool :=
  match d.resolve path with
  | .ok (_, t) => t.isDirectory
  | .error _ => false

/-- The tree below a directory. -/
def directory? (d : Disk) (path : String) : Option Tree :=
  match d.resolve path with
  | .ok (_, t) => if t.isDirectory then some t else none
  | .error _ => none

/-- What a path names: an entry in a directory, or a directory by other means than its name. -/
inductive Target
  | entry (place : List String) (name : String)
  | place

/-- Splits a path into the directory it goes through and the name at its end. -/
def target (d : Disk) (path : String) : Except SystemError Target := do
  checkPath path
  match (steps path).reverse with
  | [] => .ok .place
  | last :: before =>
    let place ← follow d.top [] before.reverse
    match d.top.find? place with
    | some (.directory _) =>
      if last = "." ∨ last = ".." then .ok .place
      else if nameLimit < last.utf8ByteSize then .error .nameTooLong
      else .ok (.entry place last)
    | some (.file _) => .error .notDirectory
    | none => .error .notFound

def makeDirectory (d : Disk) (path : String) : Except SystemError Disk := do
  match ← d.target path with
  | .place => .error .alreadyPresent
  | .entry place name =>
    if (d.top.find? (place ++ [name])).isSome then .error .alreadyPresent
    else .ok ⟨d.top.put place name .empty⟩

/-- Tries to make one directory; that it is there already is no failure. -/
def ensureDirectory (d : Disk) (path : String) : Except SystemError Disk :=
  match d.makeDirectory path with
  | .ok d => .ok d
  | .error e => if d.isDirectory path then .ok d else .error e

/-- Takes the new state of an operation that succeeds. -/
def advance (d : Disk) : Except SystemError Disk → Except SystemError Unit × Disk
  | .ok d' => (.ok (), d')
  | .error e => (.error e, d)

/-- Makes a directory and, if its parent is missing, the parent first. `levels` bounds the number of
parents. Parents that were made stay if the directory itself cannot be made. -/
def makeDirectories (d : Disk) (levels : Nat) (path : String) : Except SystemError Unit × Disk :=
  if path = "" then (.ok (), d)
  else
    match d.ensureDirectory path, levels with
    | .error .notFound, levels + 1 =>
      match Path.parent? path with
      | none => (.error .notFound, d)
      | some parent =>
        match d.makeDirectories levels parent with
        | (.ok (), d) => d.advance (d.ensureDirectory path)
        | failed => failed
    | result, _ => d.advance result

def createDirectories (d : Disk) (path : String) : Except SystemError Unit × Disk :=
  d.makeDirectories path.length path

def writeBytes (d : Disk) (path : String) (content : ByteArray) : Except SystemError Disk := do
  match ← d.target path with
  | .place => .error .isDirectory
  | .entry place name =>
    if endsInSlash path then .error .isDirectory
    else
      match d.top.find? (place ++ [name]) with
      | some (.directory _) => .error .isDirectory
      | _ => .ok ⟨d.top.put place name (.file content)⟩

def removeFile (d : Disk) (path : String) : Except SystemError Disk := do
  match ← d.target path with
  | .place => .error .isDirectory
  | .entry place name =>
    match d.top.find? (place ++ [name]) with
    | none => .error .notFound
    | some (.directory _) => .error .isDirectory
    | some (.file _) =>
      if endsInSlash path then .error .notDirectory else .ok ⟨d.top.remove place name⟩

def readBytes (d : Disk) (path : String) : Except SystemError ByteArray :=
  match d.resolve path with
  | .ok (_, .file content) => .ok content
  | .ok (_, .directory _) => .error .isDirectory
  | .error e => .error e

def readText (d : Disk) (path : String) : Except SystemError String :=
  (d.readBytes path).bind SystemError.textOf

def machine : Machine (StateM Disk) where
  isPresent path := fun d => (d.isPresent path, d)
  readBytes path := fun d => (d.readBytes path, d)
  directory? path := fun d => (d.directory? path, d)
  createDirectories path := fun d => d.createDirectories path
  writeBytes path content := fun d => d.advance (d.writeBytes path content)
  removeFile path := fun d => d.advance (d.removeFile path)

def fileSystem : FileSystem (StateM Disk) :=
  machine.fileSystem

end Disk

end Boilerplate
