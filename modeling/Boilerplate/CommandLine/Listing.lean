import Boilerplate.Catalog.Registry
import Boilerplate.CommandLine.Output
import Boilerplate.Definition.Document
import Boilerplate.Generation.Manifest

/-!
# Listings

The lines that show summaries, categories, definitions and generated files.
-/

namespace Boilerplate.CommandLine

def tableLine (d : Display) (width : Nat) (s : Summary) : String :=
  "  " ++ padded width s.id ++ "  " ++ padded 11 s.category ++ " " ++ d.dim s.description

/-- A table of summaries, with a column as wide as the longest id. -/
def table (d : Display) : List Summary → List String
  | [] => d.warning "No templates match"
  | summaries =>
    let width := (summaries.map (·.id.utf8ByteSize)).foldl max 0
    d.header "Available Templates:" ++ summaries.map (tableLine d width)

def summaryLines (d : Display) (format : ListFormat) (summaries : List Summary) : List String :=
  match format with
  | .table => table d summaries
  | .ids => summaries.map (·.id)
  | .json => [(Json.array (summaries.map (·.toJson))).indented]

def categoryLines (d : Display) (l : CategoryListing) : List String :=
  d.header s!"{l.category.name} ({l.category.id})"
  ++ (if l.category.description.isEmpty then [] else ["  " ++ d.dim l.category.description])
  ++ l.templates.map (fun t => "  - " ++ padded 22 t.id ++ " " ++ t.name)
  ++ d.message ""

def categoriesLines (d : Display) (listings : List CategoryListing) : List String :=
  if d.isJson then [(Json.array (listings.map (·.toJson))).indented]
  else listings.flatMap (categoryLines d)

/-- A field on one line: kind, whether it is required, default and options. -/
def fieldLine (f : Field) : String :=
  "  " ++ padded 18 f.name ++ " " ++ f.kind.name
  ++ (if f.required then ", required" else "")
  ++ (f.default.elim "" fun v => ", default " ++ v.display)
  ++ (if f.options.isEmpty then ""
      else " [" ++ "|".intercalate (f.options.map (·.value)) ++ "]")

def fieldLines (d : Display) (f : Field) : List String :=
  fieldLine f ::
    (if f.description.isEmpty then [] else ["      " ++ d.dim f.description])

def exampleLine (name : String) (config : Config) : String :=
  "  " ++ name ++ ": "
  ++ " ".intercalate (config.entries.map fun p => p.1 ++ "=" ++ p.2.display)

def exampleLines (examples : Dictionary Config) : List String :=
  if examples.entries.isEmpty then []
  else ["", "Examples:"] ++ examples.entries.map fun p => exampleLine p.1 p.2

def definitionLines (d : Display) (t : Definition) : List String :=
  if d.isJson then [t.summary.toJson.indented]
  else
    d.header s!"{t.name} ({t.id} {t.version})"
    ++ (if t.description.isEmpty then [] else ["  " ++ t.description])
    ++ ["  category: " ++ t.category, "", "Files:"]
    ++ t.files.map (fun f => "  " ++ f.path)
    ++ ["", "Fields:"]
    ++ t.fields.flatMap (fieldLines d)
    ++ exampleLines t.examples

/-- Generated files one after the other, with an empty line between them. -/
def fileLines (d : Display) : List GeneratedFile → List String
  | [] => []
  | f :: rest =>
    d.header ("# " ++ f.path) ++ f.content
      :: (if rest.isEmpty then [] else "" :: fileLines d rest)

def manifestLines (d : Display) (m : Manifest) : List String :=
  if d.isJson then [m.toJson.indented] else fileLines d m.files

end Boilerplate.CommandLine
