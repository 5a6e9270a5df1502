import Mathlib.Data.List.Find
import Boilerplate.Proofs.Export.Rollback
import Boilerplate.Proofs.Path.Placement

/-! # Exports that succeed

The place of a file holds what was written there last. So every file is delivered unless a later one
has the same path and another content.
-/

namespace Boilerplate.Export

open Memory (faulty contentAt samePlace)

variable {files : List GeneratedFile} {paths : List RelativePath} {root : String}
  {overwrite : Bool} {s s' : Memory}

theorem recorded_of_run {r : Except Error (List String)}
    (h : exportFiles Memory.fileSystem files root overwrite s = (r, s')) :
    ∃ calls, exportFiles (faulty .none) files root overwrite [] s = ((r, calls), s') := by
  have hNone : (WriteFaults.none).refusal? = fun _ _ => none := by
    funext calls c
    cases c <;> rfl
  have hMimics := congrFun (exportFiles_mimics Memory.fileSystem files root overwrite []) s
  rw [h, FileSystem.noted, ← hNone] at hMimics
  change ((exportFiles (faulty .none) files root overwrite [] s).1.1,
    (exportFiles (faulty .none) files root overwrite [] s).2) = (r, s') at hMimics
  obtain ⟨hResult, hState⟩ := Prod.mk.inj hMimics
  exact ⟨_, Prod.ext (Prod.ext hResult rfl) hState⟩

/-- A place holds the content of the last target there. -/
theorem contentAt_putAll (targets : List Target) (files : List StoredFile) (path : String) :
    contentAt (putAll targets files) path =
      ((targets.reverse.find? fun t => samePlace t.path path).map (·.content)).or
        (contentAt files path) := by
  induction targets generalizing files with
  | nil => rfl
  | cons t rest ih =>
    rw [putAll, List.foldl_cons, ← putAll, ih, Memory.contentAt_putFile, List.reverse_cons,
      List.find?_append]
    cases rest.reverse.find? fun t => samePlace t.path path with
    | some u => rfl
    | none => cases h : samePlace t.path path <;> simp [h]

theorem isNormal_of_accepted (h : Accepted files paths) : ∀ p ∈ paths, p.IsNormal := by
  induction h with
  | nil => exact fun _ hp => absurd hp List.not_mem_nil
  | cons hPath _ ih =>
    intro p hp
    rcases List.mem_cons.mp hp with rfl | hp
    · exact RelativePath.isNormal_of_parse hPath
    · exact ih p hp

def lastContent? (entries : List (RelativePath × GeneratedFile)) (p : RelativePath) :
    Option String :=
  (entries.reverse.find? (·.1 == p)).map (·.2.content)

theorem find?_targetsAt (h : Accepted files paths) {p : RelativePath} (hp : p.IsNormal) :
    ((targetsAt root paths files).reverse.find? fun t => samePlace t.path (p.under root)).map
        (·.content) = lastContent? (paths.zip files) p := by
  have hPlace : ∀ e ∈ (paths.zip files).reverse,
      samePlace (e.1.under root) (p.under root) = (e.1 == p) := by
    intro e he
    have hPath := (List.of_mem_zip (List.mem_reverse.mp he)).1
    rw [Bool.eq_iff_iff, Memory.samePlace_under (isNormal_of_accepted h e.1 hPath) hp, beq_iff_eq]
  rw [targetsAt, ← List.map_reverse, List.find?_map, Option.map_map, lastContent?,
    ← List.find?_congr hPlace]
  rfl

theorem exists_mem_zip (h : Accepted files paths) {p : RelativePath} (hp : p ∈ paths) :
    ∃ f, (p, f) ∈ paths.zip files := by
  induction h with
  | nil => exact absurd hp List.not_mem_nil
  | cons _ _ ih =>
    rcases List.mem_cons.mp hp with rfl | hp
    · exact ⟨_, List.mem_cons_self⟩
    · obtain ⟨f, hf⟩ := ih hp
      exact ⟨f, List.mem_cons_of_mem _ hf⟩

theorem lastContent?_of_mem {entries : List (RelativePath × GeneratedFile)}
    {e : RelativePath × GeneratedFile} (he : e ∈ entries) :
    ∃ e' ∈ entries, e'.1 = e.1 ∧ lastContent? entries e.1 = some e'.2.content := by
  have hSome : (entries.reverse.find? (·.1 == e.1)).isSome = true :=
    List.find?_isSome.mpr ⟨e, List.mem_reverse.mpr he, beq_self_eq_true e.1⟩
  obtain ⟨e', hFound⟩ := Option.isSome_iff_exists.mp hSome
  refine ⟨e', List.mem_reverse.mp (List.mem_of_find?_eq_some hFound), ?_, ?_⟩
  · have hFits := List.find?_some hFound
    exact beq_iff_eq.mp hFits
  · rw [lastContent?, hFound]
    rfl

theorem lastContent?_eq_iff (entries : List (RelativePath × GeneratedFile)) :
    (∀ e ∈ entries, lastContent? entries e.1 = some e.2.content) ↔
      ∀ e₁ ∈ entries, ∀ e₂ ∈ entries, e₁.1 = e₂.1 → e₁.2.content = e₂.2.content := by
  constructor
  · intro h e₁ h₁ e₂ h₂ hPath
    apply Option.some.inj
    rw [← h e₁ h₁, ← h e₂ h₂, hPath]
  · intro h e he
    obtain ⟨e', he', hPath, hLast⟩ := lastContent?_of_mem he
    rw [hLast, h e' he' e he hPath]

/-- A successful export has written every file below the root, in order. Each place holds the
content of the last file that belongs there, so all files are delivered just when no two with the
same path differ in content. Other files are as before. -/
theorem export_delivers {written : List String}
    (h : exportFiles Memory.fileSystem files root overwrite s = (.ok written, s')) :
    ∃ paths, Accepted files paths ∧ written = paths.map (·.under root) ∧
      (∀ p ∈ paths, s'.file? (p.under root) = lastContent? (paths.zip files) p) ∧
      ((∀ e ∈ paths.zip files, s'.file? (e.1.under root) = some e.2.content) ↔
        ∀ e₁ ∈ paths.zip files, ∀ e₂ ∈ paths.zip files,
          e₁.1 = e₂.1 → e₁.2.content = e₂.2.content) ∧
      ∀ path, (∀ p ∈ paths, samePlace (p.under root) path = false) →
        s'.file? path = s.file? path := by
  obtain ⟨calls, hRun⟩ := recorded_of_run h
  cases exporting_of_run hRun with
  | wrote paths asked more _ hPaths _ hWriting =>
    cases hWriting with
    | completed hFiles =>
      have hLast : ∀ p ∈ paths, s'.file? (p.under root) = lastContent? (paths.zip files) p := by
        intro p hp
        obtain ⟨f, hf⟩ := exists_mem_zip hPaths hp
        obtain ⟨e, _, _, hFound⟩ := lastContent?_of_mem hf
        rw [Memory.file?_eq_contentAt, hFiles, contentAt_putAll,
          find?_targetsAt hPaths (isNormal_of_accepted hPaths p hp), hFound]
        rfl
      refine ⟨paths, hPaths, ?_, hLast, ?_, ?_⟩
      · rw [List.reverse_nil, List.nil_append, path_targetsAt hPaths]
      · rw [← lastContent?_eq_iff]
        apply forall₂_congr
        intro e he
        rw [hLast e.1 (List.of_mem_zip he).1]
      · intro path hAway
        have hNone : (targetsAt root paths files).reverse.find?
            (fun t => samePlace t.path path) = none := by
          rw [List.find?_eq_none]
          intro t ht
          obtain ⟨e, he, rfl⟩ := List.mem_map.mp (List.mem_reverse.mp ht)
          rw [hAway e.1 (List.of_mem_zip he).1]
          exact Bool.false_ne_true
        rw [Memory.file?_eq_contentAt, hFiles, contentAt_putAll, hNone]
        rfl

/-- Below `out`, `./a` replaces `a`, and `b` is delivered. -/
theorem export_delivers_repeated_path :
    let files : List GeneratedFile :=
      [⟨"a", "a", "1", "text"⟩, ⟨"b", "b//c", "2", "text"⟩, ⟨"a", "./a", "3", "text"⟩]
    let run := exportFiles Memory.fileSystem files "out" false Memory.empty
    run.1 = .ok ["out/a", "out/b/c", "out/a"] ∧
      ∃ paths, Accepted files paths ∧ ["out/a", "out/b/c", "out/a"] = paths.map (·.under "out") ∧
        (∀ p ∈ paths, run.2.file? (p.under "out") = lastContent? (paths.zip files) p) ∧
        ((∀ e ∈ paths.zip files, run.2.file? (e.1.under "out") = some e.2.content) ↔
          ∀ e₁ ∈ paths.zip files, ∀ e₂ ∈ paths.zip files,
            e₁.1 = e₂.1 → e₁.2.content = e₂.2.content) ∧
        ∀ path, (∀ p ∈ paths, samePlace (p.under "out") path = false) →
          run.2.file? path = Memory.empty.file? path := by
  intro files run
  have hWritten : run.1 = .ok ["out/a", "out/b/c", "out/a"] := by decide +kernel
  have hRun : run = (.ok ["out/a", "out/b/c", "out/a"], run.2) := Prod.ext hWritten rfl
  exact ⟨hWritten, export_delivers hRun⟩

theorem repeated_path_replaces_content :
    ¬ ∀ (files : List GeneratedFile) (root : String) (overwrite : Bool) (s s' : Memory)
      (written : List String),
      exportFiles Memory.fileSystem files root overwrite s = (.ok written, s') →
        ∀ f ∈ files, ∀ p, RelativePath.parse f.path = .ok p →
          s'.file? (p.under root) = some f.content := by
  intro hDelivers
  have hFirst := hDelivers [⟨"a", "a", "1", "text"⟩, ⟨"a", "./a", "2", "text"⟩] "out" false
    Memory.empty ⟨[⟨"out/a", "2"⟩], [[.name "out".toList]]⟩ ["out/a", "out/a"] rfl
    ⟨"a", "a", "1", "text"⟩ List.mem_cons_self ⟨["a".toList]⟩ rfl
  exact absurd hFirst (by decide +kernel)

theorem stateBind_run {α β : Type} (x : StateM Memory α) (f : α → StateM Memory β) (s : Memory) :
    (x >>= f) s = f (x s).1 (x s).2 :=
  rfl

theorem writeTarget_run_ok (t : Target) (s : Memory) :
    ∃ s', writeTarget Memory.fileSystem t s = (.ok (), s') := by
  cases hParent : Path.parent? t.path with
  | none =>
    refine ⟨⟨Memory.putFile t.path t.content s.files, s.directories⟩, ?_⟩
    rw [writeTarget, createParent, hParent]
    change s.advance (s.writeFile t.path t.content) = _
    rw [Memory.writeFile, Memory.hasParent, hParent]
    rfl
  | some parent =>
    have hMade : (s.createDirectories parent).hasParent t.path = true := by
      simp only [Memory.hasParent, hParent, Bool.or_eq_true, beq_iff_eq]
      by_cases hEmpty : parent = ""
      · exact .inl hEmpty
      · exact .inr (Memory.isDirectory_createDirectories
          (mt Path.components_eq_nil_iff.mp hEmpty) s)
    refine ⟨⟨Memory.putFile t.path t.content s.files, (s.createDirectories parent).directories⟩, ?_⟩
    rw [writeTarget, createParent, hParent]
    change (s.createDirectories parent).advance
      ((s.createDirectories parent).writeFile t.path t.content) = _
    rw [Memory.writeFile, if_pos hMade]
    rfl

theorem writeTargets_run_ok (targets : List Target) (written : List String) (s : Memory) :
    ∃ paths s', writeTargets Memory.fileSystem written targets s = (.ok paths, s') := by
  induction targets generalizing written s with
  | nil => exact ⟨written.reverse, s, rfl⟩
  | cons t rest ih =>
    obtain ⟨s₁, hFirst⟩ := writeTarget_run_ok t s
    obtain ⟨paths, s₂, hRest⟩ := ih (t.path :: written) s₁
    refine ⟨paths, s₂, ?_⟩
    rw [writeTargets, stateBind_run, hFirst]
    exact hRest

theorem plan_run_ok (hPaths : Accepted files paths)
    (hFree : overwrite = false → ∀ p ∈ paths,
      (s.isFile (p.under root) || s.isDirectory (p.under root)) = false) :
    plan Memory.fileSystem root overwrite files s = (.ok (targetsAt root paths files), s) := by
  induction hPaths with
  | nil => rfl
  | @cons f p files paths hPath hRest ih =>
    have hPlan := ih fun hCareful q hq => hFree hCareful q (List.mem_cons_of_mem p hq)
    have hContinue : ∀ taken, taken = false →
        restOfPlan (plan Memory.fileSystem root overwrite files) ⟨p.under root, f.content⟩ taken s =
          (.ok (targetsAt root (p :: paths) (f :: files)), s) := by
      rintro taken rfl
      rw [restOfPlan, if_neg Bool.false_ne_true, stateBind_run, hPlan]
      rfl
    rw [plan, hPath]
    cases overwrite with
    | true => exact hContinue false rfl
    | false => exact hContinue _ (hFree rfl p List.mem_cons_self)

/-- An export to a memory succeeds exactly when all paths are accepted and, without leave to
overwrite, lead to places where there is nothing yet. -/
theorem exportFiles_ok_iff :
    (∃ written s', exportFiles Memory.fileSystem files root overwrite s = (.ok written, s')) ↔
      ∃ paths, Accepted files paths ∧ (overwrite = false → ∀ p ∈ paths,
        (s.isFile (p.under root) || s.isDirectory (p.under root)) = false) := by
  constructor
  · rintro ⟨written, s', h⟩
    obtain ⟨calls, hRun⟩ := recorded_of_run h
    cases exporting_of_run hRun with
    | wrote paths asked more _ hPaths hFree _ => exact ⟨paths, hPaths, hFree⟩
  · rintro ⟨paths, hPaths, hFree⟩
    obtain ⟨written, s', hWrite⟩ := writeTargets_run_ok (targetsAt root paths files) [] s
    refine ⟨written, s', ?_⟩
    rw [exportFiles, stateBind_run, plan_run_ok hPaths hFree]
    exact hWrite

end Boilerplate.Export
