import Boilerplate.Config.Value
import Boilerplate.Text.Blank
import Boilerplate.Text.Words

/-!
# Filters

A filter maps a value to a value on its way into the output. All but `join` work on the text of a
scalar and refuse a list.
-/

namespace Boilerplate

inductive Filter
  | lower
  | upper
  | trim
  | snake
  | kebab
  | pascal
  | join
  deriving DecidableEq, Repr

namespace Filter

def all : List Filter := [.lower, .upper, .trim, .snake, .kebab, .pascal, .join]

def name : Filter → String
  | .lower => "lower"
  | .upper => "upper"
  | .trim => "trim"
  | .snake => "snake"
  | .kebab => "kebab"
  | .pascal => "pascal"
  | .join => "join"

def ofName? (s : String) : Option Filter :=
  all.find? (·.name == s)

theorem ofName?_name (f : Filter) : ofName? f.name = some f := by
  cases f <;> rfl

def onText : Filter → List Char → List Char
  | .lower => Text.lower
  | .upper => Text.upper
  | .trim => Text.trim
  | .snake => Text.snakeCase
  | .kebab => Text.kebabCase
  | .pascal => Text.pascalCase
  | .join => id

/-- The value behind the filter, or `none` where a text filter meets a list. -/
def run? (f : Filter) : Value → Option Value
  | .list items => if f = .join then some (.text (Value.commaSeparated items)) else none
  | v =>
    if f = .join then some v
    else v.scalarText?.map fun s => .text (String.ofList (f.onText s.toList))

def listMessage (f : Filter) : String :=
  s!"filter '{f.name}' expects text, got a list (use '| join' first)"

def unknownMessage (s : String) : String :=
  s!"unknown filter '{s}'"

end Filter

end Boilerplate
