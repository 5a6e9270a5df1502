import Boilerplate.Config.Kind
import Boilerplate.Text.Position

/-!
# Errors

Every failure of the library is one of the causes below. Each has a message, a category and advice
for the person who meets it.
-/

namespace Boilerplate

/-- A configuration that does not fit the fields of its definition; each case names the field. -/
inductive FieldError
  | missing (field : String) (expected : Kind)
  | typeMismatch (field : String) (expected : Kind) (found : String)
  | notAnOption (field : String) (expected : Kind) (value allowed : String)
  deriving DecidableEq, Repr

inductive Error
  | invalidDefinition (id reason : String)
  | invalidField (field reason : String)
  | unsafePath (path reason : String)
  | field (e : FieldError)
  | templateSyntax (template : String) (position : Text.Position) (reason : String)
  | templateEval (template reason : String)
  | templateNotFound (id : String)
  | packaging (reason : String)
  | fileSystem (path reason : String)
  | fileExists (path : String)
  | configuration (reason : String)
  | internal (reason : String)
  deriving DecidableEq, Repr

inductive ErrorCategory
  | validation
  | notFound
  | templateDefect
  | configuration
  | internal
  deriving DecidableEq, Repr

namespace FieldError

def field : FieldError → String
  | .missing f _ => f
  | .typeMismatch f _ _ => f
  | .notAnOption f _ _ _ => f

def expected : FieldError → Kind
  | .missing _ k => k
  | .typeMismatch _ k _ => k
  | .notAnOption _ k _ _ => k

def message : FieldError → String
  | .missing f k => s!"Missing required field '{f}' (expected {k.name})"
  | .typeMismatch f k found => s!"Field '{f}' expects {k.name}, got {found}"
  | .notAnOption f _ value allowed =>
    s!"Field '{f}' does not accept '{value}' (allowed: {allowed})"

def suggestions : FieldError → List String
  | .missing f _ =>
    [s!"Provide a value for '{f}'", s!"Example: --set {f}=<value>",
      "Run 'stencil show <template>' to see every field"]
  | .typeMismatch f k _ => [s!"'{f}' must be a {k.name} value"]
  | .notAnOption _ _ _ allowed => [s!"Pick one of: {allowed}"]

end FieldError

namespace Error

def message : Error → String
  | .invalidDefinition id reason => s!"Invalid template definition '{id}': {reason}"
  | .invalidField f reason => s!"Invalid field '{f}': {reason}"
  | .unsafePath path reason => s!"Unsafe output path '{path}': {reason}"
  | .field e => e.message
  | .templateSyntax template position reason =>
    s!"Syntax error in template '{template}' at {position.describe}: {reason}"
  | .templateEval template reason => s!"Cannot evaluate template '{template}': {reason}"
  | .templateNotFound id => s!"Template '{id}' not found"
  | .packaging reason => s!"Packaging failed: {reason}"
  | .fileSystem path reason => s!"Filesystem error at {path}: {reason}"
  | .fileExists path => s!"File already exists: {path}"
  | .configuration reason => s!"Configuration error: {reason}"
  | .internal reason => s!"Internal error: {reason}. This is a bug, please report it."

def defectSuggestions (template : String) : List String :=
  [s!"Template '{template}' is defective", "Please report this issue or use a different template"]

def suggestions : Error → List String
  | .invalidDefinition id reason =>
    [s!"Definition '{id}' was rejected: {reason}", "Fix the definition file and restart"]
  | .invalidField f _ =>
    [s!"Check the schema of field '{f}'",
      "select and multiselect fields need options; defaults must match the kind"]
  | .unsafePath path _ =>
    [s!"Path '{path}' would escape the output directory",
      "Generated paths must be relative and must not contain '..'"]
  | .field e => e.suggestions
  | .templateSyntax template _ _ => defectSuggestions template
  | .templateEval template _ => defectSuggestions template
  | .templateNotFound id =>
    [s!"No template with id '{id}'", "Try: stencil list to see available templates"]
  | .packaging _ =>
    ["The generated files could not be archived",
      "Check that generated paths are relative and unique"]
  | .fileSystem path _ => [s!"Failed to access: {path}", "Check that you have write permissions"]
  | .fileExists path =>
    [s!"File already exists: {path}", "Use --force to overwrite (destructive)",
      "Or choose a different --output directory"]
  | .configuration reason => [s!"Configuration issue: {reason}", "Check your setup and try again"]
  | .internal _ => ["This appears to be a bug in Stencil"]

def category : Error → ErrorCategory
  | .invalidDefinition _ _ => .configuration
  | .invalidField _ _ => .configuration
  | .unsafePath _ _ => .validation
  | .field _ => .validation
  | .templateSyntax _ _ _ => .templateDefect
  | .templateEval _ _ => .templateDefect
  | .templateNotFound _ => .notFound
  | .packaging _ => .internal
  | .fileSystem _ _ => .internal
  | .fileExists _ => .validation
  | .configuration _ => .configuration
  | .internal _ => .internal

/-- A failure that should not happen, with what was being done. -/
def inContext (context reason : String) : Error :=
  .internal s!"{context}: {reason}"

/-- A fault of the author of a template, not of its user. -/
def isTemplateDefect (e : Error) : Bool :=
  e.category == .templateDefect

end Error

end Boilerplate
