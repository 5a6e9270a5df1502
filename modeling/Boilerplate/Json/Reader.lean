import Boilerplate.Json.Number

/-!
# Reading a document

The symbols of a text are read in one pass over a stack of the arrays and objects that are open.
-/

namespace Boilerplate.Json

/-- An array or object that is open, with what it holds so far, last one first. A key is `none` if
it holds a lone surrogate. -/
inductive Container
  | array (items : List Json)
  | object (members : List (Option String × Json)) (key : Option String)

/-- What may come next. -/
inductive Expecting
  | value
  | valueOrClose
  | key
  | keyOrClose
  | colon
  | separator
  deriving DecidableEq, Repr

structure Reading where
  expecting : Expecting
  containers : List Container
  /-- The document, once it is complete. -/
  result : Option Json

namespace Reading

def start : Reading :=
  ⟨.value, [], none⟩

/-- Takes a complete value. -/
def addValue (containers : List Container) (v : Json) : Reading :=
  match containers with
  | [] => ⟨.separator, [], some v⟩
  | .array items :: outer => ⟨.separator, .array (v :: items) :: outer, none⟩
  | .object members key :: outer => ⟨.separator, .object ((key, v) :: members) none :: outer, none⟩

/-- An object, which is of no use if one of its keys is not. -/
def closeObject (members : List (Option String × Json)) : Json :=
  match members.reverse.mapM fun p => p.1.map fun k => (k, p.2) with
  | some members => .object members
  | none => .unreadable

def close (containers : List Container) (symbol : Symbol) : Option Reading :=
  match symbol, containers with
  | .closeArray, .array items :: outer => some (addValue outer (.array items.reverse))
  | .closeObject, .object members _ :: outer => some (addValue outer (closeObject members))
  | _, _ => none

def scalar? : Symbol → Option Json
  | .text (some s) => some (.text s)
  | .text none => some .unreadable
  | .number n => some (match n.number? with
    | some m => .number m
    | none => .unreadable)
  | .null => some .null
  | .boolean b => some (.boolean b)
  | _ => none

def openValue (containers : List Container) (symbol : Symbol) : Option Reading :=
  match symbol with
  | .openArray => some ⟨.valueOrClose, .array [] :: containers, none⟩
  | .openObject => some ⟨.keyOrClose, .object [] none :: containers, none⟩
  | symbol => (scalar? symbol).map (addValue containers)

def takeKey (containers : List Container) (symbol : Symbol) : Option Reading :=
  match symbol, containers with
  | .text key, .object members _ :: outer => some ⟨.colon, .object members key :: outer, none⟩
  | _, _ => none

def step (r : Reading) (symbol : Symbol) : Option Reading :=
  match r.expecting with
  | .value => openValue r.containers symbol
  | .valueOrClose =>
    if symbol = .closeArray then close r.containers symbol else openValue r.containers symbol
  | .key => takeKey r.containers symbol
  | .keyOrClose =>
    if symbol = .closeObject then close r.containers symbol else takeKey r.containers symbol
  | .colon => if symbol = .colon then some { r with expecting := .value } else none
  | .separator =>
    if symbol = .comma then
      match r.containers with
      | [] => none
      | .array _ :: _ => some { r with expecting := .value }
      | .object _ _ :: _ => some { r with expecting := .key }
    else close r.containers symbol

def run (r : Reading) : List Symbol → Option Reading
  | [] => some r
  | symbol :: rest => (r.step symbol).bind fun r => r.run rest

end Reading

def ofSymbols? (symbols : List Symbol) : Option Json :=
  (Reading.start.run symbols).bind (·.result)

/-- The document that a text holds, white space around it allowed. -/
def parse? (s : List Char) : Option Json :=
  (symbols? s).bind ofSymbols?

end Boilerplate.Json
