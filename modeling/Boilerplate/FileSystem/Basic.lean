import Boilerplate.Error

/-!
# File systems

What an export needs of a place to write to. The operations run in a monad of their own, so that the
same export works on a store in memory, on a directory tree and on the real disk.
-/

namespace Boilerplate

structure FileSystem (m : Type → Type) where
  isPresent : String → m Bool
  createDirectories : String → m (Except Error Unit)
  writeFile : String → String → m (Except Error Unit)
  removeFile : String → m (Except Error Unit)

/-- One use of a file system. -/
inductive Call
  | isPresent (path : String)
  | createDirectories (path : String)
  | writeFile (path : String)
  | removeFile (path : String)
  deriving DecidableEq, Repr

def Call.path : Call → String
  | .isPresent p => p
  | .createDirectories p => p
  | .writeFile p => p
  | .removeFile p => p

namespace FileSystem

variable {m : Type → Type} [Monad m]

/-- Runs an operation unless its call is refused, and notes the call. -/
def noting (refusal? : List Call → Call → Option Error) (call : Call)
    (run : m (Except Error Unit)) : StateT (List Call) m (Except Error Unit) := fun calls =>
  match refusal? calls call with
  | some e => pure (.error e, call :: calls)
  | none => do
    let r ← run
    pure (r, call :: calls)

/-- The file system with its calls noted, last one first. A call may be refused, which may depend on
the calls before it. -/
def recorded (fs : FileSystem m) (refusal? : List Call → Call → Option Error) :
    FileSystem (StateT (List Call) m) where
  isPresent p := fun calls => do
    let r ← fs.isPresent p
    pure (r, .isPresent p :: calls)
  createDirectories p := noting refusal? (.createDirectories p) (fs.createDirectories p)
  writeFile p content := noting refusal? (.writeFile p) (fs.writeFile p content)
  removeFile p := noting refusal? (.removeFile p) (fs.removeFile p)

/-- The file system with its calls noted and with chosen calls refused whenever they come. -/
def observed (fs : FileSystem m) (refusal? : Call → Option Error) :
    FileSystem (StateT (List Call) m) :=
  fs.recorded fun _ => refusal?

end FileSystem

/-- Which directories cannot be made and which files cannot be written, for what reason, after
which calls. -/
structure WriteFaults where
  directory? : List Call → String → Option String
  file? : List Call → String → Option String

namespace WriteFaults

def none : WriteFaults :=
  ⟨fun _ _ => .none, fun _ _ => .none⟩

def refusal? (faults : WriteFaults) (calls : List Call) : Call → Option Error
  | .createDirectories p => (faults.directory? calls p).map (.fileSystem p)
  | .writeFile p => (faults.file? calls p).map (.fileSystem p)
  | _ => .none

end WriteFaults

end Boilerplate
