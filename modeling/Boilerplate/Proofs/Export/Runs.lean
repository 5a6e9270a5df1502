import Mathlib.Data.List.Forall2
import Boilerplate.Proofs.Export.Recording
import Boilerplate.Proofs.FileSystem.MemoryFiles

/-! # Runs of an export on a memory

An export first asks, then writes, and takes back when a write fails. Each of these phases is
described by what it does to the files and by the calls that it leaves behind, last one first.
-/

namespace Boilerplate

namespace Memory

/-- The memory with its calls noted, some of which fail. -/
def faulty (faults : WriteFaults) : FileSystem (StateT (List Call) (StateM Memory)) :=
  fileSystem.recorded faults.refusal?

end Memory

namespace Call

def written? : Call → Option String
  | .writeFile path => some path
  | _ => none

def removed? : Call → Option String
  | .removeFile path => some path
  | _ => none

def IsQuestion (c : Call) : Prop :=
  ∃ path, c = .isPresent path

end Call

namespace Export

open Memory (faulty contentAt outside putFile)

variable (faults : WriteFaults)

theorem bind_run {α β : Type} (x : StateT (List Call) (StateM Memory) α)
    (f : α → StateT (List Call) (StateM Memory) β) (calls : List Call) (s : Memory) :
    (x >>= f) calls s = f (x calls s).1.1 (x calls s).1.2 (x calls s).2 :=
  rfl

def putAll (targets : List Target) (files : List StoredFile) : List StoredFile :=
  targets.foldl (fun files t => putFile t.path t.content files) files

theorem outside_putAll {paths : List String} {targets : List Target}
    (h : ∀ t ∈ targets, t.path ∈ paths) (files : List StoredFile) :
    outside paths (putAll targets files) = outside paths files := by
  induction targets generalizing files with
  | nil => rfl
  | cons t rest ih =>
    have hFirst : paths.any (Memory.samePlace t.path) = true :=
      List.any_eq_true.mpr ⟨t.path, h t List.mem_cons_self, Memory.samePlace_refl t.path⟩
    rw [putAll, List.foldl_cons, ← putAll, ih fun u hu => h u (List.mem_cons_of_mem _ hu),
      Memory.outside_putFile hFirst]

/-- What one attempt at a target does: the target is written, or the files stay as they are. -/
inductive Attempt (t : Target) (s : Memory) : Except Error Unit → List Call → Memory → Prop
  | written {more : List Call} {s' : Memory}
      (files : s'.files = putFile t.path t.content s.files)
      (writes : more.filterMap Call.written? = [t.path])
      (removals : more.filterMap Call.removed? = []) : Attempt t s (.ok ()) more s'
  | failed {more : List Call} {s' : Memory} (path reason : String)
      (files : s'.files = s.files)
      (writes : (more.filterMap Call.written?).length ≤ 1)
      (removals : more.filterMap Call.removed? = []) :
      Attempt t s (.error (.fileSystem path reason)) more s'

theorem writeFile_attempt (t : Target) (calls : List Call) (s : Memory) :
    ∃ r s', (faulty faults).writeFile t.path t.content calls s
        = ((r, .writeFile t.path :: calls), s') ∧
      Attempt t s r [.writeFile t.path] s' := by
  cases h : faults.refusal? calls (.writeFile t.path) with
  | some e =>
    obtain ⟨reason, _, rfl⟩ := Option.map_eq_some_iff.mp h
    refine ⟨.error (.fileSystem t.path reason), s, ?_, .failed _ _ rfl (Nat.le_refl 1) rfl⟩
    simp only [faulty, FileSystem.recorded, FileSystem.noting, h]
    rfl
  | none =>
    have hRun : (faulty faults).writeFile t.path t.content calls s =
        (((s.advance (s.writeFile t.path t.content)).1, .writeFile t.path :: calls),
          (s.advance (s.writeFile t.path t.content)).2) := by
      simp only [faulty, FileSystem.recorded, FileSystem.noting, h]
      rfl
    rw [hRun]
    rcases s.writeFile_cases t.path t.content with ⟨reason, hWrite⟩ | hWrite
    · rw [hWrite]
      exact ⟨_, _, rfl, .failed _ _ rfl (Nat.le_refl 1) rfl⟩
    · rw [hWrite]
      exact ⟨_, _, rfl, .written rfl rfl rfl⟩

theorem createDirectories_run (path : String) (calls : List Call) (s : Memory) :
    (∃ reason, (faulty faults).createDirectories path calls s =
        ((.error (.fileSystem path reason), .createDirectories path :: calls), s)) ∨
      (faulty faults).createDirectories path calls s =
        ((.ok (), .createDirectories path :: calls), s.createDirectories path) := by
  cases h : faults.refusal? calls (.createDirectories path) with
  | some e =>
    obtain ⟨reason, _, rfl⟩ := Option.map_eq_some_iff.mp h
    refine .inl ⟨reason, ?_⟩
    simp only [faulty, FileSystem.recorded, FileSystem.noting, h]
    rfl
  | none =>
    refine .inr ?_
    simp only [faulty, FileSystem.recorded, FileSystem.noting, h]
    rfl

theorem writeTarget_attempt (t : Target) (calls : List Call) (s : Memory) :
    ∃ r more s', writeTarget (faulty faults) t calls s = ((r, more ++ calls), s') ∧
      Attempt t s r more s' := by
  cases hParent : Path.parent? t.path with
  | none =>
    obtain ⟨r, s', hRun, hAttempt⟩ := writeFile_attempt faults t calls s
    refine ⟨r, [.writeFile t.path], s', ?_, hAttempt⟩
    rw [writeTarget, createParent, hParent, bind_run]
    exact hRun
  | some parent =>
    rw [writeTarget, createParent, hParent]
    rcases createDirectories_run faults parent calls s with ⟨reason, hMade⟩ | hMade
    · refine ⟨_, [.createDirectories parent], s, ?_, .failed parent reason rfl (Nat.zero_le 1) rfl⟩
      rw [bind_run]
      simp only [hMade]
      rfl
    · obtain ⟨r, s', hRun, hAttempt⟩ :=
        writeFile_attempt faults t (.createDirectories parent :: calls) (s.createDirectories parent)
      refine ⟨r, [.writeFile t.path, .createDirectories parent], s', ?_, ?_⟩
      · rw [bind_run]
        simp only [hMade]
        exact hRun
      · cases hAttempt with
        | written files writes removals => exact .written files writes removals
        | failed path reason files writes removals =>
          exact .failed path reason files writes removals

theorem takeBack_run (paths : List String) (calls : List Call) (s : Memory) :
    ∃ s', takeBack (faulty faults) paths calls s =
        (((), (paths.map Call.removeFile).reverse ++ calls), s') ∧
      s'.files = outside paths s.files := by
  induction paths generalizing calls s with
  | nil => exact ⟨s, rfl, (Memory.outside_nil s.files).symm⟩
  | cons path rest ih =>
    obtain ⟨s', hRun, hFiles⟩ :=
      ih (.removeFile path :: calls) (s.advance (s.removeFile path)).2
    refine ⟨s', ?_, ?_⟩
    · rw [List.map_cons, List.reverse_cons, List.append_assoc]
      exact hRun
    · rw [hFiles, Memory.files_advance_removeFile, Memory.outside_outside]
      rfl

theorem filterMap_removals (paths : List String) :
    (paths.map Call.removeFile).reverse.filterMap Call.written? = [] ∧
      (paths.map Call.removeFile).reverse.filterMap Call.removed? = paths.reverse := by
  constructor
  · rw [List.filterMap_eq_nil_iff]
    intro c hc
    obtain ⟨p, _, rfl⟩ := List.mem_map.mp (List.mem_reverse.mp hc)
    rfl
  · rw [← List.map_reverse, List.filterMap_map]
    simp [Function.comp_def, Call.removed?]

/-- What the writing phase does: all targets are written, or those before a failing one are taken
back together with the paths that were written earlier. -/
inductive Writing (written : List String) (targets : List Target) (s : Memory) :
    Except Error (List String) → List Call → Memory → Prop
  | completed {more : List Call} {s' : Memory}
      (files : s'.files = putAll targets s.files) :
      Writing written targets s (.ok (written.reverse ++ targets.map (·.path))) more s'
  | takenBack {more : List Call} {s' : Memory} (done rest : List Target) (attempt : List String)
      (path reason : String) (split : targets = done ++ rest)
      (files : s'.files =
        outside ((done.map (·.path)).reverse ++ written) (putAll done s.files))
      (short : attempt.length ≤ 1)
      (writes : more.filterMap Call.written? = attempt ++ (done.map (·.path)).reverse)
      (removals : more.filterMap Call.removed? = written.reverse ++ done.map (·.path)) :
      Writing written targets s (.error (.fileSystem path reason)) more s'

theorem writeTargets_writing (targets : List Target) (written : List String) (calls : List Call)
    (s : Memory) :
    ∃ r more s', writeTargets (faulty faults) written targets calls s = ((r, more ++ calls), s') ∧
      Writing written targets s r more s' := by
  -- `written` grows with each step, so what a later failure takes back is stated for all of it.
  induction targets generalizing written calls s with
  | nil =>
    refine ⟨.ok written.reverse, [], s, rfl, ?_⟩
    have hNothing : Writing written [] s
        (.ok (written.reverse ++ ([] : List Target).map (·.path))) [] s :=
      .completed rfl
    rwa [List.map_nil, List.append_nil] at hNothing
  | cons t rest ih =>
    obtain ⟨r, more, s₁, hRun, hAttempt⟩ := writeTarget_attempt faults t calls s
    rw [writeTargets]
    cases hAttempt with
    | written files writes removals =>
      obtain ⟨r, later, s₂, hRest, hWriting⟩ := ih (t.path :: written) (more ++ calls) s₁
      refine ⟨r, later ++ more, s₂, ?_, ?_⟩
      · rw [bind_run, List.append_assoc]
        simp only [hRun]
        exact hRest
      · cases hWriting with
        | completed hFiles =>
          have hPaths : (t.path :: written).reverse ++ rest.map (·.path) =
              written.reverse ++ (t :: rest).map (·.path) := by simp
          rw [hPaths]
          refine .completed ?_
          rw [hFiles, files]
          rfl
        | takenBack done unwritten attempt path reason hSplit hFiles hShort hWrites hRemovals =>
          refine .takenBack (t :: done) unwritten attempt path reason ?_ ?_ hShort ?_ ?_
          · rw [hSplit, List.cons_append]
          · rw [hFiles, files]
            simp [putAll]
          · rw [List.filterMap_append, hWrites, writes]
            simp
          · rw [List.filterMap_append, hRemovals, removals]
            simp
    | failed path reason files writes removals =>
      obtain ⟨s₂, hBack, hFiles⟩ := takeBack_run faults written (more ++ calls) s₁
      refine ⟨.error (.fileSystem path reason),
        (written.map Call.removeFile).reverse ++ more, s₂, ?_, ?_⟩
      · rw [bind_run, List.append_assoc]
        simp only [hRun]
        rw [bind_run]
        simp only [hBack]
        rfl
      · refine .takenBack [] (t :: rest) (more.filterMap Call.written?) path reason rfl ?_ writes
          ?_ ?_
        · rw [hFiles, files]
          rfl
        · rw [List.filterMap_append, (filterMap_removals written).1]
          simp
        · rw [List.filterMap_append, (filterMap_removals written).2, removals]
          simp

/-- Files whose paths are accepted, each with its path. -/
abbrev Accepted (files : List GeneratedFile) (paths : List RelativePath) : Prop :=
  List.Forall₂ (fun f p => RelativePath.parse f.path = .ok p) files paths

def targetsAt (root : String) (paths : List RelativePath) (files : List GeneratedFile) :
    List Target :=
  (paths.zip files).map fun e => ⟨e.1.under root, e.2.content⟩

/-- What the planning phase finds out: the targets, or a reason to refuse. -/
inductive Planning (root : String) (overwrite : Bool) (files : List GeneratedFile) (s : Memory) :
    Except Error (List Target) → Prop
  | planned (paths : List RelativePath) (accepted : Accepted files paths)
      (free : overwrite = false → ∀ p ∈ paths,
        (s.isFile (p.under root) || s.isDirectory (p.under root)) = false) :
      Planning root overwrite files s (.ok (targetsAt root paths files))
  | unsafePath (f : GeneratedFile) (e : Error) (mem : f ∈ files)
      (refused : RelativePath.parse f.path = .error e) : Planning root overwrite files s (.error e)
  | taken (f : GeneratedFile) (p : RelativePath) (mem : f ∈ files)
      (accepted : RelativePath.parse f.path = .ok p) (careful : overwrite = false)
      (present : (s.isFile (p.under root) || s.isDirectory (p.under root)) = true) :
      Planning root overwrite files s (.error (.fileExists (p.under root)))

theorem Planning.cons {root : String} {overwrite : Bool} {files : List GeneratedFile} {s : Memory}
    {r : Except Error (List Target)} {f : GeneratedFile} {p : RelativePath}
    (h : Planning root overwrite files s r) (hPath : RelativePath.parse f.path = .ok p)
    (hFree : overwrite = false →
      (s.isFile (p.under root) || s.isDirectory (p.under root)) = false) :
    Planning root overwrite (f :: files) s (r.map (⟨p.under root, f.content⟩ :: ·)) := by
  cases h with
  | planned paths accepted free =>
    refine .planned (p :: paths) (.cons hPath accepted) ?_
    intro hCareful q hq
    rcases List.mem_cons.mp hq with rfl | hq
    · exact hFree hCareful
    · exact free hCareful q hq
  | unsafePath g e mem refused => exact .unsafePath g e (List.mem_cons_of_mem f mem) refused
  | taken g q mem accepted careful present =>
    exact .taken g q (List.mem_cons_of_mem f mem) accepted careful present

theorem restOfPlan_run {x : StateT (List Call) (StateM Memory) (Except Error (List Target))}
    {calls after : List Call} {s : Memory} {r : Except Error (List Target)}
    (h : x calls s = ((r, after), s)) (t : Target) :
    restOfPlan x t false calls s = ((r.map (t :: ·), after), s) := by
  rw [restOfPlan, if_neg Bool.false_ne_true, bind_run, h]
  cases r <;> rfl

theorem plan_planning (root : String) (overwrite : Bool) (files : List GeneratedFile)
    (calls : List Call) (s : Memory) :
    ∃ r asked, plan (faulty faults) root overwrite files calls s = ((r, asked ++ calls), s) ∧
      (∀ c ∈ asked, c.IsQuestion) ∧ Planning root overwrite files s r := by
  induction files generalizing calls with
  | nil =>
    exact ⟨.ok [], [], rfl, fun _ hc => absurd hc List.not_mem_nil,
      .planned [] .nil fun _ _ hp => absurd hp List.not_mem_nil⟩
  | cons f rest ih =>
    rw [plan]
    cases hPath : RelativePath.parse f.path with
    | error e =>
      exact ⟨.error e, [], rfl, fun _ hc => absurd hc List.not_mem_nil,
        .unsafePath f e List.mem_cons_self hPath⟩
    | ok p =>
      cases overwrite with
      | true =>
        obtain ⟨r, asked, hRun, hQuiet, hPlan⟩ := ih calls
        refine ⟨_, asked, ?_, hQuiet, hPlan.cons hPath fun hCareful => absurd hCareful (by decide)⟩
        exact restOfPlan_run hRun ⟨p.under root, f.content⟩
      | false =>
        cases hTaken : s.isFile (p.under root) || s.isDirectory (p.under root) with
        | true =>
          refine ⟨.error (.fileExists (p.under root)), [.isPresent (p.under root)], ?_, ?_,
            .taken f p List.mem_cons_self hPath rfl hTaken⟩
          · change restOfPlan (plan (faulty faults) root false rest) ⟨p.under root, f.content⟩
              (s.isFile (p.under root) || s.isDirectory (p.under root)) _ s = _
            rw [hTaken]
            rfl
          · intro c hc
            exact ⟨_, List.mem_singleton.mp hc⟩
        | false =>
          obtain ⟨r, asked, hRun, hQuiet, hPlan⟩ := ih (.isPresent (p.under root) :: calls)
          refine ⟨_, asked ++ [.isPresent (p.under root)], ?_, ?_, hPlan.cons hPath fun _ => hTaken⟩
          · change restOfPlan (plan (faulty faults) root false rest) ⟨p.under root, f.content⟩
              (s.isFile (p.under root) || s.isDirectory (p.under root)) _ s = _
            rw [hTaken, List.append_assoc]
            exact restOfPlan_run hRun ⟨p.under root, f.content⟩
          · intro c hc
            rcases List.mem_append.mp hc with hc | hc
            · exact hQuiet c hc
            · exact ⟨_, List.mem_singleton.mp hc⟩

/-- A whole export: it is refused by its plan, or goes on to write what it has planned. -/
inductive Exporting (root : String) (overwrite : Bool) (files : List GeneratedFile) (s : Memory) :
    Except Error (List String) → List Call → Memory → Prop
  | refused {calls : List Call} (e : Error) (quiet : ∀ c ∈ calls, c.IsQuestion)
      (plan : Planning root overwrite files s (.error e)) :
      Exporting root overwrite files s (.error e) calls s
  | wrote {r : Except Error (List String)} {s' : Memory} (paths : List RelativePath)
      (asked more : List Call) (quiet : ∀ c ∈ asked, c.IsQuestion)
      (accepted : Accepted files paths)
      (free : overwrite = false → ∀ p ∈ paths,
        (s.isFile (p.under root) || s.isDirectory (p.under root)) = false)
      (writing : Writing [] (targetsAt root paths files) s r more s') :
      Exporting root overwrite files s r (more ++ asked) s'

theorem exportFiles_exporting (root : String) (overwrite : Bool) (files : List GeneratedFile)
    (s : Memory) :
    ∃ r calls s', exportFiles (faulty faults) files root overwrite [] s = ((r, calls), s') ∧
      Exporting root overwrite files s r calls s' := by
  obtain ⟨r, asked, hRun, hQuiet, hPlan⟩ := plan_planning faults root overwrite files [] s
  rw [List.append_nil] at hRun
  cases r with
  | error e =>
    refine ⟨.error e, asked, s, ?_, .refused e hQuiet hPlan⟩
    rw [exportFiles, bind_run, hRun]
    rfl
  | ok targets =>
    obtain ⟨r, more, s', hWrite, hWriting⟩ := writeTargets_writing faults targets [] asked s
    refine ⟨r, more ++ asked, s', ?_, ?_⟩
    · rw [exportFiles, bind_run, hRun]
      exact hWrite
    · cases hPlan with
      | planned paths accepted free =>
        exact .wrote paths asked more hQuiet accepted free hWriting

end Export

end Boilerplate
