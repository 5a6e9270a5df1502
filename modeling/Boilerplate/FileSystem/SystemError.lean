import Boilerplate.Error

/-!
# System errors

The reasons for which a machine refuses to read or write, with the texts that it gives for them.
-/

namespace Boilerplate

inductive SystemError
  | notFound
  | alreadyPresent
  | notDirectory
  | isDirectory
  | nameTooLong
  | zeroInPath
  | invalidText
  /-- Any other reason, in the machine's own words. -/
  | other (text : String)
  deriving DecidableEq, Repr

def SystemError.message : SystemError → String
  | .notFound => "No such file or directory (os error 2)"
  | .alreadyPresent => "File exists (os error 17)"
  | .notDirectory => "Not a directory (os error 20)"
  | .isDirectory => "Is a directory (os error 21)"
  | .nameTooLong => "File name too long (os error 36)"
  | .zeroInPath => "file name contained an unexpected NUL byte"
  | .invalidText => "stream did not contain valid UTF-8"
  | .other text => text

/-- The failure of an operation on a path. -/
def SystemError.failure (e : SystemError) (path operation : String) : Error :=
  .fileSystem path s!"Failed to {operation}: {e.message}"

end Boilerplate
