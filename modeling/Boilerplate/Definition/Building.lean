import Boilerplate.Definition.Basic

/-!
# Building definitions

Short forms for fields and definitions that are written down in the library.
-/

namespace Boilerplate

/-- A text whose lines all end in a line feed. -/
def unlines (lines : List String) : String :=
  String.join (lines.map (· ++ "\n"))

namespace Field

def plain (name label : String) (kind : Kind) : Field :=
  ⟨name, label, kind, false, none, "", []⟩

def choice (name label : String) (kind : Kind) (options : List FieldOption) : Field :=
  { plain name label kind with options := options }

def mandatory (f : Field) : Field :=
  { f with required := true }

def withDefault (f : Field) (v : Value) : Field :=
  { f with default := some v }

def describedAs (f : Field) (description : String) : Field :=
  { f with description := description }

end Field

/-- Options that are their own labels. -/
def selfLabelled (values : List String) : List FieldOption :=
  values.map fun v => ⟨v, v⟩

def Value.ofSmallNat (n : UInt32) : Value :=
  .number (.integer n.toNat (by
    have := n.toNat_lt
    unfold WordRange
    omega))

end Boilerplate
