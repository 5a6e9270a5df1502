import Boilerplate.Proofs.FileSystem.MemoryFiles
import Boilerplate.Proofs.Path.Parent

/-! # The shape of a memory

Whatever an empty memory is asked for, its directories are closed under parents and its files stand
in directories. No path is a file and a directory at once as long as no directory is made over a
file and no file is written over a directory; a memory refuses neither of the two.
-/

namespace Boilerplate

open Boilerplate.Path (Component components parent?)

/-- What a file system may be asked to change. -/
inductive Change
  | createDirectories (path : String)
  | writeFile (path content : String)
  | removeFile (path : String)

namespace Memory

/-- The memory after a change, also after one that failed. -/
def change (s : Memory) : Change → Memory
  | .createDirectories path => (fileSystem.createDirectories path s).2
  | .writeFile path content => (fileSystem.writeFile path content s).2
  | .removeFile path => (fileSystem.removeFile path s).2

def changeAll (s : Memory) (changes : List Change) : Memory :=
  changes.foldl change s

/-- A row of components is below a directory, or has nothing to be below. -/
def HasPlace (directories : List (List Component)) (row : List Component) : Prop :=
  row.dropLast = [] ∨ row.dropLast ∈ directories

/-- Directories and files stand in directories. -/
structure IsGrounded (s : Memory) : Prop where
  directories : ∀ d ∈ s.directories, HasPlace s.directories d
  files : ∀ f ∈ s.files, HasPlace s.directories (components f.path)

/-- No path is a file and a directory. -/
def IsApart (s : Memory) : Prop :=
  ∀ path, ¬ (s.isFile path = true ∧ s.isDirectory path = true)

/-- A change that leaves files files and directories directories. A write that fails may be asked
for anywhere. -/
def Admits (s : Memory) : Change → Prop
  | .createDirectories path =>
    ∀ file, s.isFile file = true → components file ≠ [] → ¬ components file <+: components path
  | .writeFile path _ => s.hasParent path = true → s.isDirectory path = false
  | .removeFile _ => True

def AdmitsAll (s : Memory) : List Change → Prop
  | [] => True
  | c :: rest => s.Admits c ∧ (s.change c).AdmitsAll rest

variable {s : Memory} {path content : String}

section Places

variable {directories more : List (List Component)} {row : List Component}

theorem HasPlace.mono (h : HasPlace directories row) (hMore : ∀ d ∈ directories, d ∈ more) :
    HasPlace more row :=
  h.imp_right (hMore _)

theorem isDirectory_iff : s.isDirectory path = true ↔ components path ∈ s.directories := by
  rw [isDirectory, List.contains_iff_mem]

theorem hasPlace_iff_of_parent {parent : String} (h : parent? path = some parent) :
    HasPlace s.directories (components path) ↔ parent = "" ∨ s.isDirectory parent = true := by
  rw [HasPlace, ← Path.components_parent h, Path.components_eq_nil_iff, isDirectory_iff]

theorem hasParent_iff : s.hasParent path = true ↔ HasPlace s.directories (components path) := by
  rw [hasParent]
  cases hParent : parent? path with
  | none => exact iff_of_true rfl (.inl (Path.dropLast_components_of_no_parent hParent))
  | some parent => rw [hasPlace_iff_of_parent hParent, Bool.or_eq_true, beq_iff_eq]

theorem isFile_iff :
    s.isFile path = true ↔ ∃ f ∈ s.files, components f.path = components path := by
  rw [isFile, file?, Option.isSome_map, List.find?_isSome]
  simp only [samePlace_iff]

end Places

section Steps

theorem mem_directories_createDirectories {d : List Component} :
    d ∈ (s.createDirectories path).directories ↔
      d ∈ s.directories ∨ (d ≠ [] ∧ d <+: components path) := by
  rw [createDirectories, mem_foldl_addDirectory, mem_beginnings_iff]

theorem IsGrounded.createDirectories (h : s.IsGrounded) (path : String) :
    (s.createDirectories path).IsGrounded where
  directories := by
    intro d hd
    rw [HasPlace, mem_directories_createDirectories]
    obtain hOld | ⟨_, hFront⟩ := mem_directories_createDirectories.mp hd
    · exact (h.directories d hOld).imp_right .inl
    · by_cases hFirst : d.dropLast = []
      · exact .inl hFirst
      · exact .inr (.inr ⟨hFirst, (List.dropLast_prefix d).trans hFront⟩)
  files := by
    intro f hf
    apply (h.files f hf).mono
    intro d hd
    exact mem_directories_createDirectories.mpr (.inl hd)

theorem mem_putFile {f : StoredFile} {files : List StoredFile}
    (h : f ∈ putFile path content files) :
    (∃ g ∈ files, g.path = f.path) ∨ f.path = path := by
  induction files with
  | nil =>
    rw [putFile, List.mem_singleton] at h
    exact .inr (h ▸ rfl)
  | cons g rest ih =>
    rw [putFile] at h
    split at h
    · rcases List.mem_cons.mp h with rfl | hRest
      · exact .inl ⟨g, List.mem_cons_self, rfl⟩
      · exact .inl ⟨f, List.mem_cons_of_mem g hRest, rfl⟩
    · split at h
      · rcases List.mem_cons.mp h with rfl | hOld
        · exact .inr rfl
        · exact .inl ⟨f, hOld, rfl⟩
      · rcases List.mem_cons.mp h with rfl | hRest
        · exact .inl ⟨f, List.mem_cons_self, rfl⟩
        · obtain ⟨g', hg', hPath⟩ | hNew := ih hRest
          · exact .inl ⟨g', List.mem_cons_of_mem g hg', hPath⟩
          · exact .inr hNew

/-- A write that succeeds, with what it relied on, or one that changes nothing. -/
theorem change_writeFile (s : Memory) (path content : String) :
    (s.hasParent path = true ∧
      s.change (.writeFile path content) = ⟨putFile path content s.files, s.directories⟩) ∨
    (s.hasParent path = false ∧ s.change (.writeFile path content) = s) := by
  show (_ ∧ (s.advance (s.writeFile path content)).2 = _) ∨
    (_ ∧ (s.advance (s.writeFile path content)).2 = _)
  rw [writeFile]
  cases s.hasParent path with
  | true => exact .inl ⟨rfl, rfl⟩
  | false => exact .inr ⟨rfl, rfl⟩

theorem change_removeFile (s : Memory) (path : String) :
    s.change (.removeFile path) = ⟨outside [path] s.files, s.directories⟩ := by
  have hFiles : (s.change (.removeFile path)).files = outside [path] s.files :=
    files_advance_removeFile s path
  have hDirectories : (s.change (.removeFile path)).directories = s.directories := by
    show (s.advance (s.removeFile path)).2.directories = s.directories
    rw [removeFile]
    split <;> rfl
  rw [← hFiles, ← hDirectories]

theorem IsGrounded.change (h : s.IsGrounded) (c : Change) : (s.change c).IsGrounded := by
  cases c with
  | createDirectories path => exact h.createDirectories path
  | writeFile path content =>
    obtain ⟨hParent, hWritten⟩ | ⟨_, hSame⟩ := change_writeFile s path content
    · have hPlace : HasPlace s.directories (components path) := hasParent_iff.mp hParent
      rw [hWritten]
      refine ⟨h.directories, ?_⟩
      intro f hf
      obtain ⟨g, hg, hPath⟩ | hPath := mem_putFile hf
      · exact hPath ▸ h.files g hg
      · rw [hPath]
        exact hPlace
    · rw [hSame]
      exact h
  | removeFile path =>
    rw [change_removeFile]
    refine ⟨h.directories, ?_⟩
    intro f hf
    exact h.files f (List.mem_filter.mp hf).1

theorem isFile_written {query : String} :
    isFile ⟨putFile path content s.files, s.directories⟩ query = true ↔
      samePlace path query = true ∨ s.isFile query = true := by
  rw [isFile, isFile, file?_eq_contentAt, file?_eq_contentAt, contentAt_putFile]
  cases samePlace path query <;> simp

theorem IsApart.written_iff (h : s.IsApart) :
    IsApart ⟨putFile path content s.files, s.directories⟩ ↔ s.isDirectory path = false := by
  constructor
  · intro hAfter
    rw [← Bool.not_eq_true]
    intro hTaken
    exact hAfter path ⟨isFile_written.mpr (.inl (samePlace_refl path)), hTaken⟩
  · rintro hFree query ⟨hFile, hDirectory⟩
    have hDirectory : s.isDirectory query = true := hDirectory
    obtain hHere | hOld := isFile_written.mp hFile
    · rw [isDirectory_iff, ← samePlace_iff.mp hHere, ← isDirectory_iff, hFree] at hDirectory
      cases hDirectory
    · exact h query ⟨hOld, hDirectory⟩

/-- Where no path is a file and a directory, a change keeps it so just when it is admitted. -/
theorem IsApart.change_iff (h : s.IsApart) (c : Change) : (s.change c).IsApart ↔ s.Admits c := by
  cases c with
  | createDirectories path =>
    constructor
    · intro hAfter file hFile hSome hFront
      refine hAfter file ⟨hFile, ?_⟩
      exact isDirectory_iff.mpr (mem_directories_createDirectories.mpr (.inr ⟨hSome, hFront⟩))
    · rintro hAdmits file ⟨hFile, hDirectory⟩
      have hMade := mem_directories_createDirectories.mp (isDirectory_iff.mp hDirectory)
      obtain hOld | ⟨hSome, hFront⟩ := hMade
      · exact h file ⟨hFile, isDirectory_iff.mpr hOld⟩
      · exact hAdmits file hFile hSome hFront
  | writeFile path content =>
    rw [Admits]
    obtain ⟨hParent, hWritten⟩ | ⟨hParent, hSame⟩ := change_writeFile s path content
    · rw [hWritten, h.written_iff, hParent]
      exact ⟨fun hFree _ => hFree, fun hFree => hFree rfl⟩
    · rw [hSame, hParent]
      exact iff_of_true h nofun
  | removeFile path =>
    refine iff_of_true ?_ trivial
    rintro query ⟨hFile, hDirectory⟩
    rw [change_removeFile] at hFile hDirectory
    obtain ⟨f, hf, hPlace⟩ := isFile_iff.mp hFile
    exact h query ⟨isFile_iff.mpr ⟨f, (List.mem_filter.mp hf).1, hPlace⟩, hDirectory⟩

end Steps

section Runs

theorem IsGrounded.changeAll (h : s.IsGrounded) (changes : List Change) :
    (s.changeAll changes).IsGrounded := by
  induction changes generalizing s with
  | nil => exact h
  | cons c rest ih => exact ih (h.change c)

/-- No path is a file and a directory at any time of a run just when every change is admitted where
it comes. -/
theorem IsApart.changeAll_iff (h : s.IsApart) (changes : List Change) :
    (∀ front, front <+: changes → (s.changeAll front).IsApart) ↔ s.AdmitsAll changes := by
  induction changes generalizing s with
  | nil =>
    refine iff_of_true ?_ trivial
    intro front hFront
    rw [List.prefix_nil.mp hFront]
    exact h
  | cons c rest ih =>
    rw [AdmitsAll, ← h.change_iff c]
    constructor
    · intro hAll
      have hFirst : (s.change c).IsApart := hAll [c] ⟨rest, rfl⟩
      refine ⟨hFirst, (ih hFirst).mp ?_⟩
      intro front hFront
      exact hAll (c :: front) (List.cons_prefix_cons.mpr ⟨rfl, hFront⟩)
    · rintro ⟨hFirst, hRest⟩ front hFront
      obtain rfl | ⟨more, rfl, hMore⟩ := List.prefix_cons_iff.mp hFront
      · exact h
      · exact (ih hFirst).mpr hRest more hMore

theorem isGrounded_empty : empty.IsGrounded :=
  ⟨nofun, nofun⟩

theorem isApart_empty : empty.IsApart := by
  rintro path ⟨hFile, -⟩
  cases hFile

end Runs

/-- In every memory that changes of an empty one lead to, the parent of a file or directory is empty
or a directory. No path is a file and a directory at any time of the run just when the run makes no
directory over a file and writes no file over a directory. -/
theorem changeAll_shape (changes : List Change) :
    (∀ path parent, parent? path = some parent →
      (empty.changeAll changes).isFile path = true ∨
        (empty.changeAll changes).isDirectory path = true →
      parent = "" ∨ (empty.changeAll changes).isDirectory parent = true) ∧
    ((∀ front, front <+: changes → (empty.changeAll front).IsApart) ↔
      empty.AdmitsAll changes) := by
  have hGrounded := isGrounded_empty.changeAll changes
  refine ⟨?_, isApart_empty.changeAll_iff changes⟩
  intro path parent hParent hPresent
  apply (hasPlace_iff_of_parent hParent).mp
  obtain hFile | hDirectory := hPresent
  · obtain ⟨f, hf, hPlace⟩ := isFile_iff.mp hFile
    exact hPlace ▸ hGrounded.files f hf
  · exact hGrounded.directories _ (isDirectory_iff.mp hDirectory)

/-- A directory is made over a file, and another file is written into it. -/
theorem file_and_directory_at_once :
    let s := empty.changeAll [.writeFile "a" "1", .createDirectories "a", .writeFile "a/b" "2"]
    s.isFile "a" = true ∧ s.isDirectory "a" = true ∧ s.paths = ["a", "a/b"] := by
  decide +kernel

end Memory

end Boilerplate
