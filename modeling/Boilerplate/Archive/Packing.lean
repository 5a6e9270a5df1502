import Boilerplate.Archive.Tar
import Boilerplate.Generation.Manifest

/-!
# Packing a manifest

The files of a manifest become the entries of an archive under their normal paths, with the time of
the generation. No two files may have the same path.
-/

namespace Boilerplate

/-- Whether the part of a name that a header stores holds a zero character. -/
def Tar.Entry.hasZero (e : Tar.Entry) : Bool :=
  e.headerName.contains 0

/-- The part of a name in front of the piece that holds its first zero character. -/
def beforeZeroPiece (name : List Char) : List Char :=
  ((name.takeWhile (· != '\x00')).reverse.dropWhile (· != '/')).reverse

def zeroNameReason (name : String) : String :=
  let stored := String.ofList (beforeZeroPiece (Tar.takeBytes Tar.nameSize name.toList))
  s!"failed to append '{name}': provided value contains a nul byte when setting path for {stored}"

namespace Manifest

/-- Seconds since 1970, or zero for an earlier time. -/
def archiveTime (m : Manifest) : Nat :=
  m.provenance.generatedAt.seconds.toNat

/-- The entries of files; `seen` are the paths in use already. -/
def entries (time : Nat) (seen : List RelativePath) :
    List GeneratedFile → Except String (List Tar.Entry)
  | [] => .ok []
  | f :: rest =>
    match RelativePath.parse f.path with
    | .error e => .error e.message
    | .ok path =>
      let entry : Tar.Entry := ⟨path.text, f.content, time⟩
      if seen.contains path then .error s!"duplicate entry '{path.text}'"
      else if entry.hasZero then .error (zeroNameReason path.text)
      else (entries time (path :: seen) rest).map (entry :: ·)

def package (m : Manifest) : Except Error Package :=
  match entries m.archiveTime [] m.files with
  | .error reason => .error (.packaging reason)
  | .ok entries => .ok ⟨m.archiveStem ++ ".tar.gz", "application/gzip", Tar.archive entries⟩

end Manifest

end Boilerplate
