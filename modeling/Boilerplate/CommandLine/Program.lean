import Boilerplate.CommandLine.Action

/-!
# The program

From arguments and environment to what is printed and the exit code. Variables are completed from an
environment file, settings are loaded, and the command is run.
-/

namespace Boilerplate.CommandLine

/-- What the program finds when it starts. -/
structure Surroundings where
  arguments : List String
  environment : Environment
  /-- The directory that relative paths start from. -/
  workingDirectory : String
  isOutTerminal : Bool
  isErrTerminal : Bool
  stamp : Stamp

/-- How the program ends. -/
structure Outcome where
  code : Nat
  out : String
  err : String
  deriving DecidableEq, Repr

variable {m : Type → Type} [Monad m]

def joinLines (lines : List String) : String :=
  String.join (lines.map (· ++ "\n"))

/-- The environment files that may serve: one in the working directory or in one above it. -/
def environmentFiles (fuel : Nat) (directory : String) : List String :=
  Path.join directory ".env" ::
    match fuel, Path.parent? directory with
    | fuel + 1, some parent => environmentFiles fuel parent
    | _, _ => []

/-- The environment, completed from the nearest environment file. -/
def fullEnvironment (machine : Machine m) (s : Surroundings) : m Environment := do
  let paths := environmentFiles s.workingDirectory.length s.workingDirectory
  match ← machine.firstFile? paths with
  | none => return s.environment
  | some content => return s.environment.withFile content.data.toList

/-- The configuration file that is used unless another one is given. -/
def defaultConfigPath (env : Environment) : String :=
  let home? := (env.get? "HOME").filter (· != "")
  let base? := (env.get? "XDG_CONFIG_HOME").filter fun s => Path.isRooted s.toList
  match base?.or (home?.map (Path.join · ".config")) with
  | some base => Path.join base "stencil/config.toml"
  | none => ".stencil.toml"

/-- Settings from the file that was asked for, which may lack its extension, or from the default one
if it is there. -/
def loadSettings (machine : Machine m) (env : Environment) (configFile? : Option String) :
    m (Except Settings.Fault Settings) := do
  let path := configFile?.getD (defaultConfigPath env)
  match ← machine.firstFile? (path :: (Path.appendToName? ".toml" path).toList) with
  | some content => return Settings.load path content.data.toList env
  | none =>
    if configFile?.isSome then return .error (.unreadable path)
    else return Settings.load path [] env

def failed (f : Failure) (verbose isColoured : Bool) : Outcome :=
  ⟨f.exitCode, "", if isColoured then f.coloured verbose else f.plain verbose⟩

/-- Runs a command under the settings that apply to it. -/
def runInvocation (machine : Machine m) (s : Surroundings) (env : Environment) (i : Invocation) :
    m Outcome := do
  let loaded ← match i.command with
    | .initConfig _ => pure (.ok Settings.defaults)
    | _ => loadSettings machine env i.globals.configFile?
  match loaded with
  | .error fault =>
    return failed (.configuration fault.message none) i.globals.verbose
      (s.isErrTerminal && !i.globals.noColour)
  | .ok settings =>
    let session : Session m := ⟨machine, settings, Display.make i.globals settings s.isOutTerminal,
      s.stamp, i.globals.configFile?.getD (defaultConfigPath env)⟩
    match ← (session.run i.command).run with
    | .ok lines => return ⟨0, joinLines lines, ""⟩
    | .error f =>
      return failed f i.globals.verbose
        (s.isErrTerminal && !i.globals.noColour && !settings.noColour)

def interrupted : Interruption → Outcome
  | .help => ⟨0, joinLines usageLines, ""⟩
  | .version => ⟨0, joinLines [versionLine], ""⟩
  | .misuse => ⟨2, "", joinLines usageLines⟩

def run (machine : Machine m) (s : Surroundings) : m Outcome := do
  let env ← fullEnvironment machine s
  match Invocation.parse (env.get? "NO_COLOR") s.arguments with
  | .error i => return interrupted i
  | .ok invocation => runInvocation machine s env invocation

end Boilerplate.CommandLine
