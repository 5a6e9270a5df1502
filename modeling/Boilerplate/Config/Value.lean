import Boilerplate.Data.Dictionary
import Boilerplate.Number.Basic

/-!
# Configuration values

A configuration gives values to field names. A value is a truth value, a number, a text or a list of
texts; the first three are scalars and have a text form.
-/

namespace Boilerplate

inductive Value
  | boolean (b : Bool)
  | number (n : Number)
  | text (s : String)
  | list (items : List String)
  deriving DecidableEq

/-- Field name to value. -/
abbrev Config := Dictionary Value

namespace Value

def typeName : Value → String
  | .boolean _ => "boolean"
  | .number _ => "number"
  | .text _ => "text"
  | .list _ => "list"

/-- What a bare condition tests. -/
def isTruthy : Value → Bool
  | .boolean b => b
  | .number n => !n.isZero
  | .text s => s != ""
  | .list items => !items.isEmpty

def scalarText? : Value → Option String
  | .boolean b => some (toString b)
  | .number n => some n.text
  | .text s => some s
  | .list _ => none

def commaSeparated (items : List String) : String :=
  ", ".intercalate items

/-- The text shown to a reader; a list is put in brackets. -/
def display : Value → String
  | .boolean b => toString b
  | .number n => n.text
  | .text s => s
  | .list items => "[" ++ commaSeparated items ++ "]"

end Value

end Boilerplate
