import Boilerplate.Definition.Basic
import Boilerplate.Template.Basic

/-!
# Rendering of files

The name, the path and the content of a file are templates of one configuration. Their errors bear
the definition, the file and the part.
-/

namespace Boilerplate

structure GeneratedFile where
  name : String
  path : String
  content : String
  fileType : String
  deriving DecidableEq, Repr

namespace FileTemplate

def partLabel (f : FileTemplate) (id part : String) : String :=
  s!"{id}/{f.name}#{part}"

def render (f : FileTemplate) (id : String) (config : Config) : Except Error GeneratedFile := do
  let name ← Template.renderSource (f.partLabel id "name") f.name config
  let path ← Template.renderSource (f.partLabel id "path") f.path config
  let content ← Template.renderSource (f.partLabel id "content") f.content config
  .ok ⟨name, path, content, f.fileType⟩

end FileTemplate

/-- All files of a definition, in order. Where several fail, the error is that of the first; a
rendering of the files in parallel may answer with the error of any of them. -/
def Definition.renderFiles (d : Definition) (config : Config) :
    Except Error (List GeneratedFile) :=
  d.files.mapM fun f => f.render d.id config

end Boilerplate
