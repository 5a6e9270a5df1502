import Boilerplate.Json.Basic

/-!
# Records in documents

A record is written as an object, or as an array of its members in order. Members of other names are
skipped, no member may be given twice, and an array may end early. Documents of two formats are
read, which differ in what may follow the last member in an array and in how a choice is written.
-/

namespace Boilerplate.Json

/-- The format that a document was written in. -/
inductive Format
  | json
  | toml
  deriving DecidableEq, Repr

/-- Whether an array of the members of a record may go on after the last of them. -/
def Format.allowsMoreItems (format : Format) : Bool :=
  format == .toml

/-- The name of a choice: a text, or an object whose one member has that name and is empty. -/
def Format.choice? : Format → Json → Option String
  | _, .text s => some s
  | .json, .object [(s, .null)] => some s
  | .toml, .object [(s, .object [])] => some s
  | .toml, .object [(s, .array [])] => some s
  | _, _ => none

/-- The members of a record with the given names. -/
def recordMembers? (format : Format) (names : List String) : Json → Option (List (String × Json))
  | .object members =>
    let known := members.filter fun p => names.contains p.1
    if (known.map (·.1)).Nodup then some known else none
  | .array items =>
    if items.length ≤ names.length || format.allowsMoreItems then some (names.zip items) else none
  | _ => none

variable {α : Type}

def required? (members : List (String × Json)) (name : String) (f : Json → Option α) :
    Option α :=
  (members.lookup name).bind f

/-- A member that may be absent. -/
def optional? (members : List (String × Json)) (name : String) (absent : α)
    (f : Json → Option α) : Option α :=
  match members.lookup name with
  | none => some absent
  | some j => f j

end Boilerplate.Json
