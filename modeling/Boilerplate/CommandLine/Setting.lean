import Boilerplate.Data.Dictionary
import Boilerplate.Number.Basic
import Boilerplate.Toml.Basic

/-!
# Values of settings

A layer of settings names its values by paths such as `output.format` or `output[1]`. A layer is put
on top of another one value by value: groups are merged member by member, all else is replaced.
-/

namespace Boilerplate.CommandLine

inductive Setting
  /-- A place in a list that no layer has filled. -/
  | missing
  | boolean (b : Bool)
  | integer (n : Int)
  | real (x : RealReading)
  | text (s : String)
  | list (items : List Setting)
  | group (members : List (String × Setting))

namespace Setting

abbrev Members := List (String × Setting)

/-- The members of a group; anything else has none. -/
def members : Setting → Members
  | .group members => members
  | _ => []

def items : Setting → List Setting
  | .list items => items
  | _ => []

/-! ## From a document -/

/-- Whether a table stands for a date or time: it has the member of one, first by name. -/
def isDateTime (entries : Toml.Entries) : Bool :=
  (entries.lookup Toml.dateMember).isSome && entries.all fun p => !(p.1 < Toml.dateMember)

def dateTimeText? (entries : Toml.Entries) : Option String :=
  match entries.lookup Toml.dateMember with
  | some (.text s) => (DateTime.ofText? s.toList).map (·.text .given)
  | _ => none

mutual

/-- The value of a document. Its integers have to be signed words. -/
def ofToml? : Toml → Option Setting
  | .text s => some (.text s)
  | .integer n => if Number.isSigned n then some (.integer n) else none
  | .float x => some (.real x)
  | .boolean b => some (.boolean b)
  | .dateTime v => some (.text (v.text .given))
  | .array items => (itemsOfToml? items).map .list
  | .table _ entries => groupOfToml? entries
  | .tables rows => (rowsOfToml? rows).map fun items => .list items.reverse

def itemsOfToml? : List Toml → Option (List Setting)
  | [] => some []
  | v :: rest => do return (← ofToml? v) :: (← itemsOfToml? rest)

def groupOfToml? (entries : Toml.Entries) : Option Setting :=
  if isDateTime entries then (dateTimeText? entries).map .text
  else (membersOfToml? entries).map .group

def membersOfToml? : Toml.Entries → Option Members
  | [] => some []
  | (name, v) :: rest => do
    return Dictionary.insertEntry name (← ofToml? v) (← membersOfToml? rest)

def rowsOfToml? : List Toml.Entries → Option (List Setting)
  | [] => some []
  | entries :: rest => do return (← groupOfToml? entries) :: (← rowsOfToml? rest)

end

/-! ## Paths -/

inductive Step
  | member (name : String)
  /-- A place in a list, counted from the end if it is negative. -/
  | item (index : Int)
  deriving DecidableEq, Repr

def isNameChar (c : Char) : Bool :=
  c.isAlphanum || c == '_' || c == '-'

def dropBlanks (s : List Char) : List Char :=
  s.dropWhile Toml.isBlankChar

/-- An index in square brackets, after the opening one. -/
def index? (s : List Char) : Option (Int × List Char) :=
  let s := dropBlanks s
  let isNegative := s.head? == some '-'
  let body := if isNegative then s.drop 1 else s
  let ds := body.takeWhile Notation.isDigit
  let n : Int := Notation.natOfDigits ds
  let index := if isNegative then -n else n
  match dropBlanks (body.drop ds.length) with
  | ']' :: rest => if ds.isEmpty || !Number.isSigned index then none else some (index, rest)
  | _ => none

def name? (s : List Char) : Option (String × List Char) :=
  let name := s.takeWhile isNameChar
  if name.isEmpty then none else some (String.ofList name, s.drop name.length)

/-- The steps after the first name of a path. -/
def laterSteps? (fuel : Nat) (s : List Char) : Option (List Step) :=
  match fuel, s with
  | _, [] => some []
  | fuel + 1, '.' :: rest => do
    let (name, rest) ← name? rest
    return .member name :: (← laterSteps? fuel rest)
  | fuel + 1, '[' :: rest => do
    let (index, rest) ← index? rest
    return .item index :: (← laterSteps? fuel rest)
  | _, _ => none

def steps? (s : List Char) : Option (List Step) := do
  let (name, rest) ← name? s
  return .member name :: (← laterSteps? rest.length rest)

/-- The steps of a path. A text that is no path is a name as it stands. -/
def stepsOf (path : String) : List Step :=
  (steps? path.toList).getD [.member path]

/-! ## Layers -/

/-- A list made long enough for an index, and the place that the index means in it. -/
def makeRoom (index : Int) (items : List Setting) : List Setting × Nat :=
  if 0 ≤ index then
    (items ++ List.replicate (index.toNat + 1 - items.length) .missing, index.toNat)
  else if index.natAbs ≤ items.length then (items, items.length - index.natAbs)
  else (List.replicate (index.natAbs - items.length) .missing ++ items, 0)

/-- Changes the value at the end of a path. Groups and lists are made on the way, in place of
whatever else is there. -/
def update (f : Setting → Setting) : List Step → Setting → Setting
  | [], s => f s
  | .member name :: path, s =>
    let before := (s.members.lookup name).getD .missing
    .group (Dictionary.insertEntry name (update f path before) s.members)
  | .item index :: path, s =>
    let (items, place) := makeRoom index s.items
    .list (items.take place
      ++ (items.drop place).head?.toList.map (update f path) ++ items.drop (place + 1))

mutual

/-- What is there once the value has been put on top of `there`. -/
def mergeInto (v there : Setting) : Setting :=
  match v with
  | .group members => .group (mergeMembers members there.members)
  | v => v

def mergeMembers (members there : Members) : Members :=
  match members with
  | [] => there
  | (name, v) :: rest =>
    let before := (there.lookup name).getD .missing
    mergeMembers rest (Dictionary.insertEntry name (v.mergeInto before) there)

end

/-- A layer on top of those before it. -/
def addLayer (into : Setting) (layer : Members) : Setting :=
  layer.foldl (fun into p => update p.2.mergeInto (stepsOf p.1) into) into

end Setting

end Boilerplate.CommandLine
