import Boilerplate.CommandLine.Program
import Std.Time.DateTime.Timestamp

/-!
# The executable

The program on a real machine: its files, environment, terminal and clock.
-/

namespace Boilerplate.Executable

open CommandLine (Environment Surroundings)

def reasonText (code : UInt32) (details : String) : SystemError :=
  .other s!"{details} (os error {code})"

def systemError : IO.Error → SystemError
  | .noFileOrDirectory _ _ _ => .notFound
  | .alreadyExists _ _ _ => .alreadyPresent
  | .permissionDenied _ code details => reasonText code details
  | .inappropriateType _ code details => reasonText code details
  | .resourceExhausted _ code details => reasonText code details
  | .invalidArgument _ code details => reasonText code details
  | e => .other (toString e)

def guarded {α : Type} (action : IO α) : IO (Except SystemError α) := do
  try return .ok (← action) catch e => return .error (systemError e)

/-- The tree below a directory. Links are left out, and only definition files are read. -/
partial def readTree (directory : String) : IO Tree := do
  let base ← IO.currentDir
  let mut entries : List (String × Tree) := []
  for entry in ← (base / directory).readDir do
    let path := Path.join directory entry.fileName
    match (← entry.path.symlinkMetadata).type with
    | .dir => entries := Dictionary.insertEntry entry.fileName (← readTree path) entries
    | .file =>
      if Tree.isDefinitionPlace [entry.fileName] then
        let content := (← guarded (IO.FS.readBinFile path)).toOption.getD ByteArray.empty
        entries := Dictionary.insertEntry entry.fileName (.file content) entries
    | _ => pure ()
  return .directory entries

def machine : Machine IO where
  isPresent path := do return ← ((← IO.currentDir) / path).pathExists
  readBytes path := guarded (IO.FS.readBinFile path)
  directory? path := do
    if path != "" && (← ((← IO.currentDir) / path).isDir) then
      return (← guarded (readTree path)).toOption
    else return none
  createDirectories path := do
    if path = "" then return .ok () else guarded (IO.FS.createDirAll path)
  writeBytes path content := guarded (IO.FS.writeBinFile path content)
  removeFile path := guarded (IO.FS.removeFile path)

/-- The variables of a block in which each ends in a zero byte. -/
def environmentOfBlock (block : ByteArray) : Environment :=
  let lines := (block.data.toList.splitOn 0).filterMap fun l =>
    String.fromUTF8? ⟨l.toArray⟩
  Dictionary.ofList <| lines.filterMap fun l =>
    match l.toList.dropWhile (· != '=') with
    | _ :: value => some (String.ofList (l.toList.takeWhile (· != '=')), String.ofList value)
    | [] => none

def environment : IO Environment := do
  return environmentOfBlock ((← guarded (IO.FS.readBinFile "/proc/self/environ")).toOption.getD
    ByteArray.empty)

def stamp : IO Stamp := do
  let id ← IO.getRandomBytes 16
  let nanos := (← Std.Time.Timestamp.now).toNanosecondsSinceUnixEpoch.val
  let perSecond := (Timestamp.nanosPerSecond : Int)
  return ⟨Stamp.idText id.data.toList,
    ⟨Int.fdiv nanos perSecond, (Int.fmod nanos perSecond).toNat⟩⟩

end Boilerplate.Executable

open Boilerplate in
def main (arguments : List String) : IO UInt32 := do
  let out ← IO.getStdout
  let err ← IO.getStderr
  let outcome ← CommandLine.run Executable.machine {
    arguments := arguments
    environment := ← Executable.environment
    workingDirectory := toString (← IO.currentDir)
    isOutTerminal := ← out.isTty
    isErrTerminal := ← err.isTty
    stamp := ← Executable.stamp }
  out.putStr outcome.out
  err.putStr outcome.err
  return UInt32.ofNat outcome.code
