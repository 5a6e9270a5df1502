import Boilerplate.Error
import Boilerplate.Template.Rendering
import Boilerplate.Text.Blank

/-!
# Templates

A template is a source that has been parsed, with a name that its errors bear. It renders to the
text that its tree is rendered to, without white space at the ends.
-/

namespace Boilerplate

structure Template where
  name : String
  nodes : List Template.Node

namespace Template

def syntaxError (name : String) (source : List Char) (e : SyntaxError) : Error :=
  .templateSyntax name (Text.Position.locate source e.offset) e.cause.message

def parse (name source : String) : Except Error Template :=
  match parseNodes source.toList with
  | .ok nodes => .ok ⟨name, nodes⟩
  | .error e => .error (syntaxError name source.toList e)

def render (t : Template) (config : Config) : Except Error String :=
  match rendered ⟨config, []⟩ t.nodes with
  | .ok s => .ok (Text.trimmed s)
  | .error e => .error (.templateEval t.name e.message)

/-- Parses and renders in one step. -/
def renderSource (name source : String) (config : Config) : Except Error String := do
  (← parse name source).render config

end Template

end Boilerplate
