import Boilerplate.Data.Dictionary

/-!
# Directory trees

A tree of files and directories, siblings in the order of their names. Places in it are given by
rows of names from the top.
-/

namespace Boilerplate

inductive Tree
  | file (content : ByteArray)
  | directory (entries : List (String × Tree))

namespace Tree

def empty : Tree :=
  .directory []

def isDirectory : Tree → Bool
  | .directory _ => true
  | .file _ => false

def find? : Tree → List String → Option Tree
  | t, [] => some t
  | .directory entries, n :: rest => (entries.lookup n).bind fun t => t.find? rest
  | .file _, _ :: _ => none

/-- Puts an entry into the directory at a place; without such a directory nothing changes. -/
def put : Tree → List String → String → Tree → Tree
  | .directory entries, [], name, t => .directory (Dictionary.insertEntry name t entries)
  | .directory entries, n :: rest, name, t =>
    match entries.lookup n with
    | some child => .directory (Dictionary.insertEntry n (child.put rest name t) entries)
    | none => .directory entries
  | .file content, _, _, _ => .file content

/-- Takes an entry out of the directory at a place. -/
def remove : Tree → List String → String → Tree
  | .directory entries, [], name => .directory (entries.filter fun p => p.1 != name)
  | .directory entries, n :: rest, name =>
    match entries.lookup n with
    | some child => .directory (Dictionary.insertEntry n (child.remove rest name) entries)
    | none => .directory entries
  | .file content, _, _ => .file content

mutual

/-- All files below a place, depth first, each with its path. -/
def filesBelow (place : List String) : Tree → List (List String × ByteArray)
  | .file content => [(place, content)]
  | .directory entries => entriesBelow place entries

def entriesBelow (place : List String) : List (String × Tree) → List (List String × ByteArray)
  | [] => []
  | (name, t) :: rest => filesBelow (place ++ [name]) t ++ entriesBelow place rest

end

def files (t : Tree) : List (List String × ByteArray) :=
  t.filesBelow []

def pathText (names : List String) : String :=
  "/".intercalate names

def text? (content : ByteArray) : Option String :=
  String.fromUTF8? content

end Tree

end Boilerplate
