import Boilerplate.Catalog.Category
import Boilerplate.Json.Record

/-!
# Definitions as documents

How values, fields, definitions and categories are written as documents, and which documents are
read as one.
-/

namespace Boilerplate

open Json (Format recordMembers? required? optional?)

namespace Value

def toJson : Value → Json
  | .boolean b => .boolean b
  | .number n => .number n
  | .text s => .text s
  | .list items => Json.ofTexts items

def ofJson? : Json → Option Value
  | .boolean b => some (.boolean b)
  | .number n => some (.number n)
  | .text s => some (.text s)
  | .array items => (items.mapM Json.asText?).map .list
  | _ => none

end Value

namespace Dictionary

variable {α : Type}

def toJson (f : α → Json) (d : Dictionary α) : Json :=
  .object (d.entries.map fun p => (p.1, f p.2))

end Dictionary

def configToJson (c : Config) : Json :=
  c.toJson Value.toJson

def configOfJson? : Json → Option Config :=
  Json.asDictionary? Value.ofJson?

def listOfJson? {α : Type} (f : Json → Option α) (j : Json) : Option (List α) :=
  j.asArray?.bind fun items => items.mapM f

def Kind.ofJson? (format : Format) (j : Json) : Option Kind :=
  (format.choice? j).bind Kind.ofName?

namespace FieldOption

def toJson (o : FieldOption) : Json :=
  .object [("label", .text o.label), ("value", .text o.value)]

def ofJson? (format : Format) (j : Json) : Option FieldOption := do
  let m ← recordMembers? format ["label", "value"] j
  return ⟨← required? m "label" Json.asText?, ← required? m "value" Json.asText?⟩

end FieldOption

/-- An optional member: `null` is the absent value. -/
def nullable? {α : Type} (f : Json → Option α) : Json → Option (Option α)
  | .null => some none
  | j => (f j).map some

namespace Field

/-- An absent default and an empty list of options are left out. -/
def toJson (f : Field) : Json :=
  .object <|
    [("name", .text f.name), ("label", .text f.label), ("type", .text f.kind.name),
      ("required", .boolean f.required)]
    ++ (match f.default with
      | some v => [("default", v.toJson)]
      | none => [])
    ++ [("description", .text f.description)]
    ++ (if f.options.isEmpty then [] else [("options", .array (f.options.map (·.toJson)))])

def memberNames : List String :=
  ["name", "label", "type", "required", "default", "description", "options"]

def ofJson? (format : Format) (j : Json) : Option Field := do
  let m ← recordMembers? format memberNames j
  return {
    name := ← required? m "name" Json.asText?
    label := ← required? m "label" Json.asText?
    kind := ← required? m "type" (Kind.ofJson? format)
    required := ← optional? m "required" false Json.asBoolean?
    default := ← optional? m "default" none (nullable? Value.ofJson?)
    description := ← optional? m "description" "" Json.asText?
    options := ← optional? m "options" [] (listOfJson? (FieldOption.ofJson? format)) }

end Field

namespace FileTemplate

def toJson (f : FileTemplate) : Json :=
  .object [("name", .text f.name), ("path", .text f.path), ("content", .text f.content),
    ("type", .text f.fileType)]

def ofJson? (format : Format) (j : Json) : Option FileTemplate := do
  let m ← recordMembers? format ["name", "path", "content", "type"] j
  return {
    name := ← required? m "name" Json.asText?
    path := ← required? m "path" Json.asText?
    content := ← required? m "content" Json.asText?
    fileType := ← optional? m "type" "" Json.asText? }

end FileTemplate

def examplesToJson (examples : Dictionary Config) : Json :=
  examples.toJson configToJson

namespace Definition

def toJson (d : Definition) : Json :=
  .object [("id", .text d.id), ("name", .text d.name), ("description", .text d.description),
    ("category", .text d.category), ("version", .text d.version),
    ("files", .array (d.files.map (·.toJson))), ("fields", .array (d.fields.map (·.toJson))),
    ("examples", examplesToJson d.examples)]

def memberNames : List String :=
  ["id", "name", "description", "category", "version", "files", "fields", "examples"]

def ofJson? (format : Format) (j : Json) : Option Definition := do
  let m ← recordMembers? format memberNames j
  return {
    id := ← required? m "id" Json.asText?
    name := ← required? m "name" Json.asText?
    description := ← optional? m "description" "" Json.asText?
    category := ← required? m "category" Json.asText?
    version := ← optional? m "version" defaultVersion Json.asText?
    files := ← required? m "files" (listOfJson? (FileTemplate.ofJson? format))
    fields := ← optional? m "fields" [] (listOfJson? (Field.ofJson? format))
    examples := ← optional? m "examples" ∅ (Json.asDictionary? configOfJson?) }

end Definition

def Summary.toJson (s : Summary) : Json :=
  .object [("id", .text s.id), ("name", .text s.name), ("description", .text s.description),
    ("category", .text s.category), ("version", .text s.version),
    ("fields", .array (s.fields.map (·.toJson))), ("examples", examplesToJson s.examples)]

namespace Category

def members (c : Category) : List (String × Json) :=
  [("id", .text c.id), ("name", .text c.name), ("description", .text c.description),
    ("icon", .text c.icon), ("order", .ofNat c.order.toNat)]

def toJson (c : Category) : Json :=
  .object c.members

def orderOfJson? (j : Json) : Option UInt32 := do
  let n ← j.asInteger?
  if 0 ≤ n ∧ n < UInt32.size then some (UInt32.ofNat n.toNat) else none

def ofJson? (j : Json) : Option Category := do
  let m ← recordMembers? .json ["id", "name", "description", "icon", "order"] j
  return {
    id := ← required? m "id" Json.asText?
    name := ← required? m "name" Json.asText?
    description := ← optional? m "description" "" Json.asText?
    icon := ← optional? m "icon" "" Json.asText?
    order := ← optional? m "order" 0 orderOfJson? }

end Category

/-- The members of the category, then its templates. -/
def CategoryListing.toJson (l : CategoryListing) : Json :=
  .object (l.category.members ++ [("templates", .array (l.templates.map (·.toJson)))])

end Boilerplate
