import Boilerplate.CommandLine.Style
import Boilerplate.Error

/-!
# Failures of a command

What can go wrong in a command, how it is told, and the exit code that stands for it. A fault of a
template is not shown to the person who only uses it.
-/

namespace Boilerplate.CommandLine

inductive Failure
  | invalidInput (reason : String) (cause : Option String)
  | unknownExample (template name : String) (available : List String)
  | configuration (reason : String) (cause : Option String)
  | core (e : Error)
  | generationFailed (template : String)
  | io (reason cause : String)
  deriving DecidableEq, Repr

inductive FailureCategory
  | user
  | notFound
  | configuration
  | internal
  deriving DecidableEq, Repr

def FailureCategory.exitCode : FailureCategory → Nat
  | .user => 2
  | .notFound => 3
  | .configuration => 4
  | .internal => 1

namespace Failure

/-- The failure of a generation: the faults of a template itself are hidden. -/
def ofGeneration (template : String) (e : Error) : Failure :=
  if e.isTemplateDefect then .generationFailed template else .core e

def message : Failure → String
  | .invalidInput reason _ => s!"Invalid input: {reason}"
  | .unknownExample template name _ => s!"Template '{template}' has no example named '{name}'"
  | .configuration reason _ => s!"Configuration error: {reason}"
  | .core e => e.message
  | .generationFailed template => s!"Generation of '{template}' failed"
  | .io reason _ => s!"I/O error: {reason}"

def suggestions : Failure → List String
  | .invalidInput reason _ =>
    [s!"Check your input: {reason}", "Use --help for usage information"]
  | .unknownExample template _ available =>
    s!"Examples documented by '{template}':" :: available.map (fun name => s!"  • {name}")
      ++ [s!"See: stencil show {template}"]
  | .configuration reason _ =>
    [s!"Configuration issue: {reason}", "Check the file reported by 'stencil config path'",
      "Use 'stencil init --force' to recreate a default config"]
  | .core e => e.suggestions
  | .generationFailed template =>
    [s!"The template '{template}' contains an error", "Re-run with -v to log the details",
      "If this is a built-in template, please report it"]
  | .io reason _ =>
    [s!"I/O operation failed: {reason}", "Check file permissions", "Check available disk space"]

def cause? : Failure → Option String
  | .invalidInput _ cause => cause
  | .configuration _ cause => cause
  | .io _ cause => some cause
  | _ => none

def categoryOfError : ErrorCategory → FailureCategory
  | .validation => .user
  | .notFound => .notFound
  | .configuration => .configuration
  | .templateDefect => .internal
  | .internal => .internal

def category : Failure → FailureCategory
  | .invalidInput _ _ => .user
  | .unknownExample _ _ _ => .user
  | .configuration _ _ => .configuration
  | .core e => categoryOfError e.category
  | .generationFailed _ => .internal
  | .io _ _ => .internal

def exitCode (f : Failure) : Nat :=
  f.category.exitCode

def moreDetails : String :=
  "Use -v / --verbose for more details."

def suggestionLines (f : Failure) : String :=
  String.join (f.suggestions.map fun s => s!"  {s}\n")

/-- The report without colours. The cause is shown to those who ask for more. -/
def plain (f : Failure) (verbose : Bool) : String :=
  let cause := if verbose then f.cause?.elim "" fun c => s!"  Caused by: {c}\n" else ""
  let hint := if verbose then "" else s!"\n{moreDetails}\n"
  s!"\nError: {f.message}\n{cause}\nSuggestions:\n{f.suggestionLines}{hint}"

def colouredCause (f : Failure) : String :=
  f.cause?.elim "" fun c => "\n  " ++ dimmed "→" ++ " " ++ dimmed c ++ "\n"

def colouredHint : String :=
  "\n" ++ Colour.blue.paint "ℹ" ++ " " ++ dimmed moreDetails ++ "\n"

/-- The report for a terminal. -/
def coloured (f : Failure) (verbose : Bool) : String :=
  "\n" ++ bold (Colour.red.paint "✗") ++ " " ++ bold (Colour.red.paint "Error:") ++ "\n\n  "
    ++ Colour.red.paint f.message ++ "\n"
    ++ (if verbose then f.colouredCause else "")
    ++ "\n" ++ bold (Colour.yellow.paint "Suggestions:") ++ "\n" ++ f.suggestionLines
    ++ (if verbose then "" else colouredHint)

end Failure

end Boilerplate.CommandLine
