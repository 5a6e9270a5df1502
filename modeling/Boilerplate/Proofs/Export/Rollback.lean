import Boilerplate.Proofs.Export.Runs

/-! # Exports that fail

A failed export removes what it has written. Without leave to overwrite that restores the files,
since every place was free. With leave to overwrite it also removes the files that were replaced.
-/

namespace Boilerplate

namespace WriteFaults

def fullAt (path : String) : WriteFaults :=
  ⟨fun _ _ => .none, fun _ p => if p = path then some "disk full" else .none⟩

end WriteFaults

namespace Export

open Memory (faulty contentAt outside putFile)

variable {faults : WriteFaults} {files : List GeneratedFile} {root : String} {overwrite : Bool}
  {s s' : Memory} {calls : List Call}

theorem exporting_of_run {r : Except Error (List String)}
    (h : exportFiles (faulty faults) files root overwrite [] s = ((r, calls), s')) :
    Exporting root overwrite files s r calls s' := by
  obtain ⟨r₁, calls₁, s₁, hRun, hExporting⟩ := exportFiles_exporting faults root overwrite files s
  rw [h] at hRun
  cases hRun
  exact hExporting

/-- The targets that files have below a directory, as far as their paths are accepted. -/
def targetPaths (root : String) (files : List GeneratedFile) : List String :=
  files.filterMap fun f => (RelativePath.parse f.path).toOption.map (·.under root)

theorem targetPaths_of_accepted {paths : List RelativePath} (h : Accepted files paths) :
    targetPaths root files = paths.map (·.under root) := by
  induction h with
  | nil => rfl
  | cons hPath _ ih => simp [targetPaths, hPath, Except.toOption, ← ih]

theorem path_targetsAt {paths : List RelativePath} (h : Accepted files paths) :
    (targetsAt root paths files).map (·.path) = paths.map (·.under root) := by
  induction h with
  | nil => rfl
  | cons _ _ ih => simpa [targetsAt] using ih

/-- What is left behind by a failed export: the targets before the failing one are removed. -/
structure TakenBack (root : String) (files : List GeneratedFile) (s : Memory) (calls : List Call)
    (s' : Memory) (replaced : List String) : Prop where
  /-- The files in front of the failing one. -/
  inOrder : replaced <+: targetPaths root files
  removed : calls.filterMap Call.removed? = replaced
  /-- They have been written, and at most one write was tried after them. -/
  written : ∃ attempt, attempt.length ≤ 1 ∧
    calls.filterMap Call.written? = attempt ++ replaced.reverse
  files : s'.files = outside replaced s.files

theorem filterMap_questions {asked : List Call} (h : ∀ c ∈ asked, c.IsQuestion) :
    asked.filterMap Call.written? = [] ∧ asked.filterMap Call.removed? = [] := by
  constructor
  all_goals
    rw [List.filterMap_eq_nil_iff]
    intro c hc
    obtain ⟨path, rfl⟩ := h c hc
    rfl

theorem Writing.takenBack_of_error {paths : List RelativePath} {asked more : List Call} {e : Error}
    (hPaths : Accepted files paths) (hQuiet : ∀ c ∈ asked, c.IsQuestion)
    (h : Writing [] (targetsAt root paths files) s (.error e) more s') :
    ∃ replaced, TakenBack root files s (more ++ asked) s' replaced := by
  obtain ⟨hWritten, hRemoved⟩ := filterMap_questions hQuiet
  cases h with
  | takenBack done rest attempt path reason hSplit hFiles hShort hWrites hRemovals =>
    refine ⟨done.map (·.path), ?_, ?_, ⟨attempt, hShort, ?_⟩, ?_⟩
    · rw [targetPaths_of_accepted hPaths, ← path_targetsAt hPaths, hSplit, List.map_append]
      exact List.prefix_append _ _
    · rw [List.filterMap_append, hRemovals, hRemoved]
      simp
    · rw [List.filterMap_append, hWrites, hWritten]
      simp
    · have hMem : ∀ t ∈ done, t.path ∈ (done.map (·.path)).reverse := by
        intro t ht
        exact List.mem_reverse.mpr (List.mem_map_of_mem ht)
      rw [hFiles, List.append_nil, outside_putAll hMem]
      simp [outside]

theorem takenBack_of_error {e : Error}
    (h : exportFiles (faulty faults) files root overwrite [] s = ((.error e, calls), s')) :
    ∃ replaced, TakenBack root files s calls s' replaced := by
  cases exporting_of_run h with
  | refused _ hQuiet _ =>
    obtain ⟨hWritten, hRemoved⟩ := filterMap_questions hQuiet
    refine ⟨[], List.nil_prefix, hRemoved, ⟨[], Nat.zero_le 1, hWritten⟩, ?_⟩
    rw [Memory.outside_nil]
  | wrote paths asked more hQuiet hPaths _ hWriting =>
    exact hWriting.takenBack_of_error hPaths hQuiet

/-- An export that may not overwrite and fails leaves the files as they were, whichever directories
and writes fail. An export that is refused for a path or an existing file has only asked. -/
theorem failed_export_restores {e : Error}
    (h : exportFiles (faulty faults) files root overwrite [] s = ((.error e, calls), s')) :
    (overwrite = false → s'.files = s.files) ∧
      ((∃ path reason, e = .unsafePath path reason) ∨ (∃ path, e = .fileExists path) →
        (∀ c ∈ calls, ∃ path, c = .isPresent path) ∧ s' = s) := by
  constructor
  · rintro rfl
    obtain ⟨replaced, hBack⟩ := takenBack_of_error h
    rw [hBack.files]
    apply Memory.outside_eq_self
    intro path hPath
    have hTarget := hBack.inOrder.subset hPath
    cases exporting_of_run h with
    | refused _ hQuiet _ =>
      rw [← hBack.removed, (filterMap_questions hQuiet).2] at hPath
      cases hPath
    | wrote paths asked more hQuiet hPaths hFree _ =>
      rw [targetPaths_of_accepted hPaths] at hTarget
      obtain ⟨p, hp, rfl⟩ := List.mem_map.mp hTarget
      have hFile := (Bool.or_eq_false_iff.mp (hFree rfl p hp)).1
      rwa [Memory.isFile, Option.isSome_eq_false_iff, Option.isNone_iff_eq_none] at hFile
  · intro hReason
    cases exporting_of_run h with
    | refused _ hQuiet _ => exact ⟨hQuiet, rfl⟩
    | wrote paths asked more hQuiet hPaths hFree hWriting =>
      cases hWriting with
      | takenBack =>
        rcases hReason with ⟨path, reason, hReason⟩ | ⟨path, hReason⟩
        all_goals cases hReason

/-- Below `out`, `a` is written twice before `b` fails; the path out of the directory is refused. -/
theorem failed_export_restores_repeated_path :
    let s : Memory := ⟨[⟨"out/k", "0"⟩], [[.name "out".toList]]⟩
    let run := fun files => exportFiles (faulty (.fullAt "out/b")) files "out" false [] s
    let full := run [⟨"a", "a", "1", "text"⟩, ⟨"a", "./a", "2", "text"⟩, ⟨"b", "b", "3", "text"⟩]
    let outside := run [⟨"a", "a", "1", "text"⟩, ⟨"e", "../e", "2", "text"⟩]
    (full.1.1 = .error (.fileSystem "out/b" "disk full") ∧ full.2.files = s.files) ∧
      outside.1.1 = .error (.unsafePath "../e" "'..' is not allowed") ∧
      (∀ c ∈ outside.1.2, ∃ path, c = .isPresent path) ∧ outside.2 = s := by
  intro s run full outside
  have hFull : full.1.1 = .error (.fileSystem "out/b" "disk full") := by decide +kernel
  have hOutside : outside.1.1 = .error (.unsafePath "../e" "'..' is not allowed") := by
    decide +kernel
  have hFullRun : full = ((.error (.fileSystem "out/b" "disk full"), full.1.2), full.2) :=
    Prod.ext (Prod.ext hFull rfl) rfl
  have hOutsideRun :
      outside = ((.error (.unsafePath "../e" "'..' is not allowed"), outside.1.2), outside.2) :=
    Prod.ext (Prod.ext hOutside rfl) rfl
  refine ⟨⟨hFull, ?_⟩, hOutside, ?_⟩
  · exact (failed_export_restores hFullRun).1 rfl
  · exact (failed_export_restores hOutsideRun).2 (.inl ⟨_, _, rfl⟩)

/-- An export that may overwrite and fails removes the targets that it had written before the
failure, and every other file stays as it was. -/
theorem failed_export_removes_replaced {e : Error}
    (h : exportFiles (faulty faults) files root true [] s = ((.error e, calls), s')) :
    ∃ replaced : List String,
      replaced <+: targetPaths root files ∧
      (∃ attempt, attempt.length ≤ 1 ∧
        calls.filterMap Call.written? = attempt ++ replaced.reverse) ∧
      calls.filterMap Call.removed? = replaced ∧
      ∀ path, s'.file? path =
        if replaced.any (Memory.samePlace path) then none else s.file? path := by
  obtain ⟨replaced, hBack⟩ := takenBack_of_error h
  refine ⟨replaced, hBack.inOrder, hBack.written, hBack.removed, ?_⟩
  intro path
  rw [Memory.file?_eq_contentAt, hBack.files, Memory.contentAt_outside]
  rfl

/-- The file `out/a` of the user is replaced before `out/b` fails. -/
theorem failed_export_removes_replaced_file :
    let s : Memory := ⟨[⟨"out/a", "old"⟩, ⟨"out/k", "0"⟩], [[.name "out".toList]]⟩
    let files : List GeneratedFile := [⟨"a", "a", "1", "text"⟩, ⟨"b", "b", "2", "text"⟩]
    let run := exportFiles (faulty (.fullAt "out/b")) files "out" true [] s
    run.1.1 = .error (.fileSystem "out/b" "disk full") ∧
      ∃ replaced : List String,
        replaced <+: targetPaths "out" files ∧
        (∃ attempt, attempt.length ≤ 1 ∧
          run.1.2.filterMap Call.written? = attempt ++ replaced.reverse) ∧
        run.1.2.filterMap Call.removed? = replaced ∧
        ∀ path, run.2.file? path =
          if replaced.any (Memory.samePlace path) then none else s.file? path := by
  intro s files run
  have hFails : run.1.1 = .error (.fileSystem "out/b" "disk full") := by decide +kernel
  exact ⟨hFails, failed_export_removes_replaced (Prod.ext (Prod.ext hFails rfl) rfl)⟩

theorem failed_overwrite_loses_file :
    ¬ ∀ (faults : WriteFaults) (files : List GeneratedFile) (root : String) (s s' : Memory)
      (e : Error) (calls : List Call),
      exportFiles (faulty faults) files root true [] s = ((.error e, calls), s') →
        ∀ path, s.isFile path = true → s'.isFile path = true := by
  intro hKeeps
  have hRun := hKeeps (.fullAt "out/b") [⟨"a", "a", "1", "text"⟩, ⟨"b", "b", "2", "text"⟩] "out"
    ⟨[⟨"out/a", "old"⟩], [[.name "out".toList]]⟩ ⟨[], [[.name "out".toList]]⟩
    (.fileSystem "out/b" "disk full")
    [.removeFile "out/a", .writeFile "out/b", .createDirectories "out", .writeFile "out/a",
      .createDirectories "out"] rfl "out/a" (by decide +kernel)
  exact absurd hRun (by decide +kernel)

end Export

end Boilerplate
