import Boilerplate.Archive.Packing
import Boilerplate.Catalog.Registry
import Boilerplate.Generation.Resolution
import Boilerplate.Generation.Stamp

/-!
# Generation

From the id of a definition and a configuration to a manifest, and on to an archive.
-/

namespace Boilerplate

namespace Definition

/-- The files of a definition for a supplied configuration. -/
def generate (d : Definition) (config : Config) : Except Error (List GeneratedFile) :=
  match d.resolveConfig config with
  | .error e => .error (.field e)
  | .ok resolved => d.renderFiles resolved

def manifest (d : Definition) (config : Config) (stamp : Stamp) (files : List GeneratedFile) :
    Manifest :=
  ⟨stamp.id, files, ⟨d.id, d.name, d.version, stamp.time, config⟩⟩

end Definition

namespace Registry

def generate (r : Registry) (id : String) (config : Config) (stamp : Stamp) :
    Except Error Manifest := do
  let d ← r.get id
  let files ← d.generate config
  .ok (d.manifest config stamp files)

def download (r : Registry) (id : String) (config : Config) (stamp : Stamp) :
    Except Error Package := do
  (← r.generate id config stamp).package

end Registry

end Boilerplate
