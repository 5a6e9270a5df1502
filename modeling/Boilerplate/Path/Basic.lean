/-!
# Paths

A path is a text whose pieces are separated by slashes. Empty pieces and single dots mean nothing,
except for the slash or the dot that a path starts with. Two paths are the same place for an
in-memory store when their components are equal.
-/

namespace Boilerplate.Path

/-- The pieces between slashes, empty ones included. -/
def pieces : List Char → List (List Char)
  | [] => [[]]
  | c :: rest =>
    if c = '/' then [] :: pieces rest
    else
      match pieces rest with
      | [] => [[c]]
      | p :: ps => (c :: p) :: ps

inductive Component
  | root
  | current
  | parent
  | name (s : List Char)
  deriving DecidableEq, Repr

def Component.rank : Component → Nat
  | .root => 0
  | .current => 1
  | .parent => 2
  | .name _ => 3

def Component.isParent : Component → Bool
  | .parent => true
  | _ => false

def Component.name? : Component → Option (List Char)
  | .name s => some s
  | _ => none

/-- The order of listings: by kind, names by their text. -/
def Component.before : Component → Component → Bool
  | .name a, .name b => a < b
  | a, b => a.rank < b.rank

/-- A piece that is neither empty nor a single dot. -/
def isPlain (piece : List Char) : Bool :=
  piece != [] && piece != ['.']

def component (piece : List Char) : Component :=
  if piece = ['.', '.'] then .parent else .name piece

def plainComponents (ps : List (List Char)) : List Component :=
  (ps.filter isPlain).map component

def isRooted (path : List Char) : Bool :=
  path.head? == some '/'

/-- The component that a path starts with by its own right: the slash or the dot. -/
def leading (path : List Char) : List Component :=
  if isRooted path then [.root]
  else if (pieces path).head? = some ['.'] then [.current]
  else []

def components (path : String) : List Component :=
  leading path.toList ++ plainComponents (pieces path.toList)

/-- Lexicographic order of components. -/
def componentsBefore : List Component → List Component → Bool
  | [], [] => false
  | [], _ :: _ => true
  | _ :: _, [] => false
  | a :: as, b :: bs => a.before b || (a == b && componentsBefore as bs)

/-- Where the components end that stand in the pieces from offset `start` on; a dot counts only as
the first piece of a path. -/
def componentEnds (start : Nat) (dotCounts : Bool) : List (List Char) → List Nat
  | [] => []
  | p :: rest =>
    let stop := start + p.length
    let later := componentEnds (stop + 1) false rest
    if isPlain p || (dotCounts && p == ['.']) then stop :: later else later

/-- The path without its last component. A path without components has no parent, nor has the root.
-/
def parent? (path : String) : Option String :=
  let s := path.toList
  let ends :=
    if isRooted s then 1 :: componentEnds 1 false (pieces (s.drop 1))
    else componentEnds 0 true (pieces s)
  match ends.reverse with
  | [] => none
  | [_] => if isRooted s then none else some ""
  | _ :: stop :: _ => some (String.ofList (s.take stop))

/-- The path with `suffix` after the name that it ends in, and nothing behind it; there is none if
it ends in no name. -/
def appendToName? (suffix path : String) : Option String :=
  match (components path).getLast?, (componentEnds 0 false (pieces path.toList)).getLast? with
  | some (.name _), some stop => some (String.ofList (path.toList.take stop) ++ suffix)
  | _, _ => none

/-- `path` below `root`; the empty root adds nothing. -/
def join (root path : String) : String :=
  if root = "" then path
  else if root.toList.getLast? = some '/' then root ++ path
  else root ++ "/" ++ path

/-- The part of a file name after its last dot; a dot at the start does not count. -/
def extension? (name : List Char) : Option (List Char) :=
  let after := name.reverse.takeWhile (· != '.')
  let before := name.reverse.drop (after.length + 1)
  if after.length = name.length ∨ before = [] then none else some after.reverse

end Boilerplate.Path
