import Boilerplate.Definition.Document
import Boilerplate.Generation.Rendering
import Boilerplate.Time.Timestamp

/-!
# Manifests

The result of a generation: the files in order, and where they come from. The configuration is kept
as it was supplied, without defaults.
-/

namespace Boilerplate

open Json (recordMembers? required?)

structure Provenance where
  templateId : String
  templateName : String
  version : String
  generatedAt : Timestamp
  config : Config
  deriving DecidableEq

structure Manifest where
  id : String
  files : List GeneratedFile
  provenance : Provenance
  deriving DecidableEq

/-- A packed manifest. `tar` is the content of the archive before compression. -/
structure Package where
  filename : String
  contentType : String
  tar : List UInt8

namespace GeneratedFile

def toJson (f : GeneratedFile) : Json :=
  .object [("name", .text f.name), ("path", .text f.path), ("content", .text f.content),
    ("type", .text f.fileType)]

def ofJson? (j : Json) : Option GeneratedFile := do
  let m ← recordMembers? .json ["name", "path", "content", "type"] j
  return {
    name := ← required? m "name" Json.asText?
    path := ← required? m "path" Json.asText?
    content := ← required? m "content" Json.asText?
    fileType := ← required? m "type" Json.asText? }

end GeneratedFile

namespace Provenance

def toJson (p : Provenance) : Json :=
  .object [("template_id", .text p.templateId), ("template_name", .text p.templateName),
    ("version", .text p.version), ("generated_at", .text p.generatedAt.text),
    ("config", configToJson p.config)]

def timestampOfJson? (j : Json) : Option Timestamp :=
  j.asText?.bind fun s => Timestamp.ofText? s.toList

def memberNames : List String :=
  ["template_id", "template_name", "version", "generated_at", "config"]

def ofJson? (j : Json) : Option Provenance := do
  let m ← recordMembers? .json memberNames j
  return {
    templateId := ← required? m "template_id" Json.asText?
    templateName := ← required? m "template_name" Json.asText?
    version := ← required? m "version" Json.asText?
    generatedAt := ← required? m "generated_at" timestampOfJson?
    config := ← required? m "config" configOfJson? }

end Provenance

namespace Manifest

def toJson (m : Manifest) : Json :=
  .object [("id", .text m.id), ("files", .array (m.files.map (·.toJson))),
    ("metadata", m.provenance.toJson)]

def ofJson? (j : Json) : Option Manifest := do
  let m ← recordMembers? .json ["id", "files", "metadata"] j
  return {
    id := ← required? m "id" Json.asText?
    files := ← required? m "files" (listOfJson? GeneratedFile.ofJson?)
    provenance := ← required? m "metadata" Provenance.ofJson? }

/-- The stem of the names of archives. -/
def archiveStem (m : Manifest) : String :=
  s!"{m.provenance.templateId}_{m.provenance.generatedAt.seconds}"

def totalBytes (m : Manifest) : Nat :=
  m.files.foldl (fun total f => total + f.content.utf8ByteSize) 0

end Manifest

end Boilerplate
