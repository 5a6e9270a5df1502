import Boilerplate.Config.Value

/-!
# Field kinds

A kind says which values a field takes. The two choice kinds draw their values from declared
options.
-/

namespace Boilerplate

inductive Kind
  | text
  | number
  | boolean
  | select
  | multiSelect
  deriving DecidableEq, Repr

namespace Kind

def all : List Kind := [.text, .number, .boolean, .select, .multiSelect]

def name : Kind → String
  | .text => "text"
  | .number => "number"
  | .boolean => "boolean"
  | .select => "select"
  | .multiSelect => "multiselect"

def hasOptions : Kind → Bool
  | .select | .multiSelect => true
  | _ => false

/-- Whether a value has the shape of the kind, options aside. -/
def accepts : Kind → Value → Bool
  | .text, .text _ => true
  | .select, .text _ => true
  | .number, .number _ => true
  | .boolean, .boolean _ => true
  | .multiSelect, .list _ => true
  | _, _ => false

/-- The spellings of a document: the name of the kind, and one alias. -/
def ofName? (s : String) : Option Kind :=
  if s == "multi-select" then some .multiSelect else all.find? (·.name == s)

/-- The spellings a person may use: any ASCII case, and three more aliases. -/
def ofText? (s : String) : Option Kind :=
  let lowered := String.ofList (s.toList.map Char.toLower)
  if lowered == "string" then some .text
  else if lowered == "bool" then some .boolean
  else ofName? lowered

end Kind

end Boilerplate
