import Boilerplate.Definition.Basic

/-!
# Resolution of a configuration

A supplied configuration is checked against the fields of a definition, in their order, and
completed by their defaults. Keys that are no field are kept.
-/

namespace Boilerplate

/-- What one field does to the configuration resolved so far. -/
def Field.resolve (supplied : Config) (f : Field) (resolved : Config) : Except FieldError Config :=
  match supplied.get? f.name with
  | some v => (f.check v).map fun _ => resolved
  | none =>
    match f.default with
    | some v => .ok (resolved.insert f.name v)
    | none => if f.required then .error (.missing f.name f.kind) else .ok resolved

def resolveFields (supplied : Config) : List Field → Config → Except FieldError Config
  | [], resolved => .ok resolved
  | f :: rest, resolved => do
    let resolved ← f.resolve supplied resolved
    resolveFields supplied rest resolved

def Definition.resolveConfig (d : Definition) (supplied : Config) : Except FieldError Config :=
  resolveFields supplied d.fields supplied

end Boilerplate
