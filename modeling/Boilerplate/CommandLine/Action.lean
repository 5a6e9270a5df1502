import Boilerplate.Archive.Gzip
import Boilerplate.Catalog.Loading
import Boilerplate.CommandLine.Listing
import Boilerplate.CommandLine.Usage
import Boilerplate.CommandLine.Values
import Boilerplate.FileSystem.Machine
import Boilerplate.Generation.Basic
import Boilerplate.Generation.Export

/-!
# Actions

What each command does on a machine. A command either gives the lines that it shows or fails.
-/

namespace Boilerplate.CommandLine

/-- All that a command works with. -/
structure Session (m : Type → Type) where
  machine : Machine m
  settings : Settings
  display : Display
  /-- The mark of a generation, should there be one. -/
  stamp : Stamp
  /-- The configuration file in force, whether or not it is there. -/
  configPath : String

abbrev Action (m : Type → Type) := ExceptT Failure m

variable {m : Type → Type} [Monad m]

namespace Action

def ofCore {α : Type} (r : Except Error α) : Action m α :=
  ofExcept (r.mapError .core)

/-- An operation of the machine; its failure is told by what was attempted. -/
def attempt (reason : String) (operation : m (Except SystemError Unit)) : Action m Unit :=
  ExceptT.mk do
    return (← operation).mapError fun e => .io reason e.message

end Action

namespace Session

open Boilerplate.CommandLine.Action (ofCore attempt)

/-- The registry that the settings ask for. -/
def registry (s : Session m) : Action m Registry := do
  match s.settings.templatesPath? with
  | none => ofCore (Registry.load none)
  | some dir => do
    let content ← s.machine.directory? dir
    ofCore (Registry.load (some (dir, content)))

def valuesFile? (s : Session m) : Option String → m (Option (String × Except SystemError String))
  | none => pure none
  | some path => do
    let content ← s.machine.readText path
    return some (path, content)

/-- The registry, the definition that a request names, and the values for it. -/
def prepare (s : Session m) (request : RenderRequest) :
    Action m (Registry × Definition × Config) := do
  let r ← s.registry
  let d ← ofCore (r.get request.template)
  let file? ← s.valuesFile? request.valuesFile?
  let config ← ofExcept (resolveValues d ⟨request.example?, file?, request.assignments⟩)
  return (r, d, config)

/-- The manifest of a request. Faults of the template are hidden. -/
def manifest (s : Session m) (request : RenderRequest) : Action m Manifest := do
  let (r, d, config) ← s.prepare request
  ofExcept ((r.generate d.id config s.stamp).mapError (Failure.ofGeneration d.id))

def generate (s : Session m) (request : RenderRequest) (root : String) (overwrite : Bool) :
    Action m (List String) := do
  let manifest ← s.manifest request
  let result ← ExceptT.lift (exportFiles s.machine.fileSystem manifest.files root overwrite)
  let written ← ofCore result
  if s.display.isJson then return [(Json.ofTexts written).indented]
  else
    let count := written.length
    let template := manifest.provenance.templateId
    return s.display.success s!"Generated {count} file(s) from '{template}'"
      ++ written.flatMap fun path => s.display.message ("  " ++ path)

def downloadJson (path : String) (size : Nat) (p : Package) : Json :=
  .object [("bytes", .ofNat size), ("content_type", .text p.contentType), ("path", .text path)]

def download (s : Session m) (request : RenderRequest) (directory? : Option String) :
    Action m (List String) := do
  let (r, d, config) ← s.prepare request
  let p ← ofExcept ((r.download d.id config s.stamp).mapError (Failure.ofGeneration d.id))
  let dir := (directory?.or s.settings.downloadDirectory?).getD "."
  attempt s!"Failed to create '{dir}'" (s.machine.createDirectories dir)
  let path := Path.join dir p.filename
  let bytes := (Gzip.wrap p.tar).toByteArray
  attempt s!"Failed to write '{path}'" (s.machine.writeBytes path bytes)
  if s.display.isJson then return [(downloadJson path bytes.size p).indented]
  else return s.display.success s!"Saved {path}"

def createConfigParent (s : Session m) : Action m Unit :=
  match Path.parent? s.configPath with
  | none => pure ()
  | some parent =>
    if parent = "" then pure ()
    else
      attempt s!"Failed to create config directory '{parent}'"
        (s.machine.createDirectories parent)

/-- Writes the defaults to the configuration file. One that is there is left alone, unless it may be
overwritten. -/
def initConfig (s : Session m) (overwrite : Bool) : Action m (List String) := do
  let path := s.configPath
  let isThere ← s.machine.isPresent path
  if isThere && !overwrite then
    return s.display.warning s!"Config already exists at {path}  (use --force to overwrite)"
  else
    s.createConfigParent
    let content := String.join (Settings.defaults.lines.map (· ++ "\n"))
    attempt s!"Failed to write config to '{path}'" (s.machine.writeBytes path content.toUTF8)
    return s.display.success s!"Configuration created at {path}"

def settingsLines (s : Session m) : List String :=
  if s.display.isJson then [s.settings.toJson.indented] else s.settings.lines

def getSetting (s : Session m) (key : String) : Except Failure (List String) :=
  match s.settings.get? key with
  | some value => .ok [value]
  | none => .error (.configuration s!"Unknown config key: '{key}'" none)

def run (s : Session m) : Command → Action m (List String)
  | .list category? format => do
    let r ← s.registry
    return summaryLines s.display format (category?.elim r.list r.listCategory)
  | .categories => return categoriesLines s.display (← s.registry).listCategories
  | .describe template => do
    let r ← s.registry
    return definitionLines s.display (← ofCore (r.get template))
  | .preview request => return manifestLines s.display (← s.manifest request)
  | .generate request root overwrite => s.generate request root overwrite
  | .download request directory? => s.download request directory?
  | .initConfig overwrite => s.initConfig overwrite
  | .completions shell => return completionLines shell
  | .configGet key => ofExcept (s.getSetting key)
  | .configList => return s.settingsLines
  | .configPath => return [s.configPath]

end Session

end Boilerplate.CommandLine
