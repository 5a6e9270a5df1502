import Boilerplate.Catalog.BuiltIn.Containers
import Boilerplate.Catalog.BuiltIn.Kubernetes
import Boilerplate.Catalog.BuiltIn.Pipelines
import Boilerplate.Catalog.BuiltIn.Security
import Boilerplate.Catalog.Registry

/-!
# The built-in catalogue

Nine definitions in four categories.
-/

namespace Boilerplate.BuiltIn

def categories : List Category := [
  ⟨"cicd", "CI/CD", "Continuous Integration and Continuous Deployment templates", "rocket", 1⟩,
  ⟨"container", "Container", "Docker and containerization templates", "box", 2⟩,
  ⟨"kubernetes", "Kubernetes", "Kubernetes manifests and Helm charts", "kubernetes", 3⟩,
  ⟨"security", "Security", "Security and compliance templates", "shield", 4⟩]

def definitions : List Definition := [
  jenkinsPipeline, githubActions, gitlabCi, dockerfileNodejs, dockerfilePython, k8sDeployment,
  helmChart, podSecurityPolicy, networkPolicy]

end Boilerplate.BuiltIn

namespace Boilerplate.Registry

/-- The registry of the built-in catalogue. -/
def builtIn : Registry :=
  ((BuiltIn.categories.foldl registerCategory empty).registerAll BuiltIn.definitions).1

end Boilerplate.Registry
