import Boilerplate.Json.Basic
import Boilerplate.Number.Notation
import Boilerplate.Toml.DateTime

/-!
# TOML values

Values of a TOML document, and the rules by which its lines build up tables. A table remembers how
it came about, because that decides which later lines may add to it.
-/

namespace Boilerplate

/-- How a table came about. -/
inductive TableOrigin
  /-- Written in braces; nothing may be added. -/
  | inlined
  /-- Named by a header of its own. -/
  | header
  /-- Passed through by a header. -/
  | implied
  /-- Passed through by a dotted key. -/
  | dotted
  deriving DecidableEq, Repr

inductive Toml
  | text (s : String)
  | integer (n : Int)
  | float (x : RealReading)
  | boolean (b : Bool)
  | dateTime (v : DateTime)
  | array (items : List Toml)
  | table (origin : TableOrigin) (entries : List (String × Toml))
  /-- Tables under one header in double brackets, last one first. -/
  | tables (items : List (List (String × Toml)))

namespace Toml

abbrev Entries := List (String × Toml)

/-- Replaces the entry of that name, or adds it at the end. -/
def setEntry (name : String) (v : Toml) : Entries → Entries
  | [] => [(name, v)]
  | (n, w) :: rest => if n = name then (name, v) :: rest else (n, w) :: setEntry name v rest

/-- Changes the table at the end of a path of headers, making the tables on the way that are
missing. In a row of tables the last one is meant. -/
def modify (f : Entries → Option Entries) : List String → Entries → Option Entries
  | [], entries => f entries
  | name :: path, entries =>
    match entries.lookup name with
    | none => (modify f path []).map fun sub => setEntry name (.table .implied sub) entries
    | some (.table origin sub) =>
      if origin = .inlined then none
      else (modify f path sub).map fun sub => setEntry name (.table origin sub) entries
    | some (.tables (last :: before)) =>
      (modify f path last).map fun last => setEntry name (.tables (last :: before)) entries
    | some _ => none

/-- Opens the table `name` under a header. Only a table that headers have passed through may be
there already. -/
def openTable (name : String) (entries : Entries) : Option Entries :=
  match entries.lookup name with
  | none => some (setEntry name (.table .header []) entries)
  | some (.table .implied sub) => some (setEntry name (.table .header sub) entries)
  | some _ => none

/-- Adds a table to the row `name` under a header in double brackets. -/
def appendTable (name : String) (entries : Entries) : Option Entries :=
  match entries.lookup name with
  | none => some (setEntry name (.tables [[]]) entries)
  | some (.tables items) => some (setEntry name (.tables ([] :: items)) entries)
  | some _ => none

/-- Adds a value under a dotted key. `origin` is that of the table the key is put into, and
`isFirst` says that no part of the key lies behind. -/
def addValue (v : Toml) (isFirst : Bool) (origin : TableOrigin) :
    List String → Entries → Option Entries
  | [], _ => none
  | [name], entries =>
    if (!isFirst && origin != .dotted) || (entries.lookup name).isSome then none
    else some (setEntry name v entries)
  | name :: key, entries =>
    match entries.lookup name with
    | none => (addValue v false .dotted key []).map fun sub =>
        setEntry name (.table .dotted sub) entries
    | some (.table origin sub) =>
      if origin = .implied ∨ origin = .dotted then
        (addValue v false origin key sub).map fun sub => setEntry name (.table origin sub) entries
      else none
    | some (.tables (last :: before)) =>
      (addValue v false .header key last).map fun last =>
        setEntry name (.tables (last :: before)) entries
    | some _ => none

/-- The name of the one member of a date or time that is shown as an object. -/
def dateMember : String := "$__toml_private_datetime"

mutual

/-- The document of the same shape. Infinities, not-a-number and integers beyond 64 bits have no
value there; a date or time is an object of its text under a name of its own. -/
def toJson : Toml → Json
  | .text s => .text s
  | .integer n => match Number.ofInt? n with
    | some m => .number m
    | none => .unreadable
  | .float (.finite x) => .number (.float x)
  | .float _ => .unreadable
  | .boolean b => .boolean b
  | .dateTime v => .object [(dateMember, .text (v.text .uniform))]
  | .array items => .array (itemsToJson items)
  | .table _ entries => .object (entriesToJson entries)
  | .tables items => .array (tablesToJson items).reverse

def itemsToJson : List Toml → List Json
  | [] => []
  | v :: rest => v.toJson :: itemsToJson rest

def entriesToJson : List (String × Toml) → List (String × Json)
  | [] => []
  | (name, v) :: rest => (name, v.toJson) :: entriesToJson rest

def tablesToJson : List (List (String × Toml)) → List Json
  | [] => []
  | entries :: rest => .object (entriesToJson entries) :: tablesToJson rest

end

end Toml

end Boilerplate
