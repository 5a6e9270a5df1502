import Boilerplate.Error
import Boilerplate.Text.Identifier

/-!
# Fields

A field is one input of a template: a name, a kind, and for the choice kinds the options its values
are drawn from.
-/

namespace Boilerplate

structure FieldOption where
  label : String
  value : String
  deriving DecidableEq, Repr

structure Field where
  name : String
  label : String
  kind : Kind
  required : Bool
  default : Option Value
  description : String
  options : List FieldOption
  deriving DecidableEq

namespace Field

def isOption (f : Field) (value : String) : Bool :=
  f.options.any (·.value == value)

def allowedValues (f : Field) : String :=
  Value.commaSeparated (f.options.map (·.value))

/-- The first item of a value that is not among the declared options. -/
def offending? (f : Field) : Value → Option String
  | .text s => if f.kind = .select ∧ !f.isOption s then some s else none
  | .list items => items.find? fun s => !f.isOption s
  | _ => none

/-- Refuses a value of another type, and a choice that is not declared. -/
def check (f : Field) (v : Value) : Except FieldError Unit :=
  if !f.kind.accepts v then .error (.typeMismatch f.name f.kind v.typeName)
  else
    match f.offending? v with
    | some s => .error (.notAnOption f.name f.kind s f.allowedValues)
    | none => .ok ()

/-- Why a field is not well formed. -/
inductive Fault
  | name
  | noOptions (kind : Kind)
  | strayOptions (kind : Kind)
  | default (e : FieldError)
  deriving DecidableEq, Repr

def Fault.message : Fault → String
  | .name => "name must be an identifier"
  | .noOptions kind => s!"{kind.name} field has no options"
  | .strayOptions kind => s!"{kind.name} field cannot declare options"
  | .default e => s!"default is invalid: {e.message}"

def checkDefault (f : Field) : Except Fault Unit :=
  match f.default with
  | none => .ok ()
  | some v => (f.check v).mapError .default

/-- The first fault of a field. -/
def findFault (f : Field) : Except Fault Unit :=
  if !Text.isIdentifier f.name.toList then .error .name
  else if f.kind.hasOptions && f.options.isEmpty then .error (.noOptions f.kind)
  else if !f.kind.hasOptions && !f.options.isEmpty then .error (.strayOptions f.kind)
  else f.checkDefault

def validate (f : Field) : Except Error Unit :=
  f.findFault.mapError fun fault => .invalidField f.name fault.message

end Field

end Boilerplate
