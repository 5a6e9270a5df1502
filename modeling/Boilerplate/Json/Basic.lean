import Boilerplate.Data.Dictionary
import Boilerplate.Number.Basic

/-!
# Documents

A document is a tree of the JSON kind. Object members keep their order and repetitions. A number too
large for a double and a text with a lone surrogate have no value; they are read as `unreadable`,
which can be skipped but not used.
-/

namespace Boilerplate

inductive Json
  | null
  | boolean (b : Bool)
  | number (n : Number)
  | text (s : String)
  | array (items : List Json)
  | object (members : List (String × Json))
  | unreadable

namespace Json

def ofNat (n : Nat) : Json :=
  match Number.ofInt? n with
  | some m => .number m
  | none => .unreadable

def ofTexts (items : List String) : Json :=
  .array (items.map .text)

/-- The last member of that name. -/
def member? (name : String) : Json → Option Json
  | .object members => (members.reverse.find? (·.1 == name)).map (·.2)
  | _ => none

def asText? : Json → Option String
  | .text s => some s
  | _ => none

def asBoolean? : Json → Option Bool
  | .boolean b => some b
  | _ => none

def asArray? : Json → Option (List Json)
  | .array items => some items
  | _ => none

def asInteger? : Json → Option Int
  | .number (.integer n _) => some n
  | _ => none

/-- The members of an object by name; a repeated name keeps its last value, and every value must be
accepted. -/
def asDictionary? {α : Type} (f : Json → Option α) : Json → Option (Dictionary α)
  | .object members =>
    (members.mapM fun p => (f p.2).map fun a => (p.1, a)).map Dictionary.ofList
  | _ => none

end Json

end Boilerplate
