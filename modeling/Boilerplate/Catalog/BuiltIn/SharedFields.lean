import Boilerplate.Definition.Building

/-!
# Fields of several definitions
-/

namespace Boilerplate.BuiltIn

def nodeVersion (description : String) : Field :=
  (Field.choice "nodeVersion" "Node.js Version" .select [
    ⟨"Node.js 16", "16"⟩, ⟨"Node.js 18", "18"⟩, ⟨"Node.js 20", "20"⟩])
    |>.mandatory
    |>.withDefault (.text "18")
    |>.describedAs description

def kubernetesNamespace : Field :=
  (Field.plain "namespace" "Namespace" .text)
    |>.mandatory
    |>.withDefault (.text "default")
    |>.describedAs "Kubernetes namespace"

end Boilerplate.BuiltIn
