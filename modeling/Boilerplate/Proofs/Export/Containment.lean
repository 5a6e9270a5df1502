import Boilerplate.Proofs.Export.Recording
import Boilerplate.Proofs.Path.Parent

/-! # Exports stay below their root

Whatever the paths of the files and whatever the file system answers, an export asks for, writes and
removes places below its root only, and makes directories that lead there.
-/

namespace Boilerplate

/-- A place below `root`: the root joined with the segments of a path. -/
def IsBelow (root path : String) : Prop :=
  ∃ p : RelativePath, p.IsNormal ∧ path = p.under root

/-- A directory on the way from `root` to a place below it: the root joined with the segments of a
path but the last. Texts with the same components name one place, and a root can be written in many
ways. -/
def LeadsBelow (root path : String) : Prop :=
  ∃ p : RelativePath, p.IsNormal ∧
    Path.components path = Path.components root ++ p.names.dropLast

def Call.StaysBelow (root : String) : Call → Prop
  | .isPresent path => IsBelow root path
  | .createDirectories path => LeadsBelow root path
  | .writeFile path => IsBelow root path
  | .removeFile path => IsBelow root path

theorem leadsBelow_of_parent {root path parent : String} (hPath : IsBelow root path)
    (hParent : Path.parent? path = some parent) : LeadsBelow root parent := by
  obtain ⟨p, hNormal, rfl⟩ := hPath
  have hNames : p.names ≠ [] := by
    rw [RelativePath.names, ne_eq, List.map_eq_nil_iff]
    exact hNormal.nonempty
  refine ⟨p, hNormal, ?_⟩
  rw [Path.components_parent hParent, Path.components_under hNormal,
    List.dropLast_append_of_ne_nil hNames]

/-- A computation that notes only calls with `P` and has a result with `Q`. -/
def Keeps {σ α : Type} (P : Call → Prop) (Q : α → Prop)
    (x : StateT (List Call) (StateM σ) α) : Prop :=
  ∀ calls s, (∀ c ∈ calls, P c) → Q (x calls s).1.1 ∧ ∀ c ∈ (x calls s).1.2, P c

namespace Keeps

variable {σ α β : Type} {P : Call → Prop} {Q : α → Prop} {R : β → Prop}

theorem pure {a : α} (h : Q a) : Keeps (σ := σ) P Q (Pure.pure a) :=
  fun _ _ hCalls => ⟨h, hCalls⟩

theorem bind {x : StateT (List Call) (StateM σ) α} {f : α → StateT (List Call) (StateM σ) β}
    (hx : Keeps P Q x) (hf : ∀ a, Q a → Keeps P R (f a)) : Keeps P R (x >>= f) := by
  intro calls s hCalls
  obtain ⟨hResult, hMore⟩ := hx calls s hCalls
  exact hf _ hResult _ _ hMore

theorem noting {refusal? : List Call → Call → Option Error} {call : Call} (h : P call)
    (run : StateM σ (Except Error Unit)) :
    Keeps P (fun _ => True) (FileSystem.noting refusal? call run) := by
  intro calls s hCalls
  have hMore : ∀ c ∈ call :: calls, P c := List.forall_mem_cons.mpr ⟨h, hCalls⟩
  refine ⟨trivial, ?_⟩
  rw [FileSystem.noting]
  cases refusal? calls call with
  | some e => exact hMore
  | none => exact hMore

end Keeps

namespace Export

variable {σ : Type} (fs : FileSystem (StateM σ)) (refusal? : List Call → Call → Option Error)
  {root : String} {overwrite : Bool}

theorem isPresent_keeps {path : String} (h : IsBelow root path) :
    Keeps (Call.StaysBelow root) (fun _ => True) ((fs.recorded refusal?).isPresent path) :=
  fun _ _ hCalls => ⟨trivial, List.forall_mem_cons.mpr ⟨h, hCalls⟩⟩

def AllBelow (root : String) (r : Except Error (List Target)) : Prop :=
  ∀ targets, r = .ok targets → ∀ t ∈ targets, IsBelow root t.path

theorem plan_keeps (files : List GeneratedFile) :
    Keeps (Call.StaysBelow root) (AllBelow root)
      (plan (fs.recorded refusal?) root overwrite files) := by
  induction files with
  | nil =>
    refine .pure ?_
    rintro targets hTargets t ht
    cases hTargets
    cases ht
  | cons f rest ih =>
    rw [plan]
    cases hPath : RelativePath.parse f.path with
    | error e => exact .pure fun targets hTargets => by cases hTargets
    | ok p =>
      have hBelow : IsBelow root (p.under root) := ⟨p, RelativePath.isNormal_of_parse hPath, rfl⟩
      have hRest : ∀ taken, Keeps (Call.StaysBelow root) (AllBelow root)
          (restOfPlan (plan (fs.recorded refusal?) root overwrite rest)
            ⟨p.under root, f.content⟩ taken) := by
        intro taken
        rw [restOfPlan]
        split
        · exact .pure fun targets hTargets => by cases hTargets
        · refine ih.bind fun r hr => ?_
          cases r with
          | error e => exact .pure fun targets hTargets => by cases hTargets
          | ok targets =>
            refine .pure ?_
            rintro _ hTargets t ht
            cases hTargets
            rcases List.mem_cons.mp ht with rfl | ht
            · exact hBelow
            · exact hr targets rfl t ht
      cases overwrite with
      | true => exact Keeps.bind (Q := fun _ => True) (.pure trivial) fun taken _ => hRest taken
      | false => exact (isPresent_keeps fs refusal? hBelow).bind fun taken _ => hRest taken

theorem writeTarget_keeps {t : Target} (h : IsBelow root t.path) :
    Keeps (Call.StaysBelow root) (fun _ => True) (writeTarget (fs.recorded refusal?) t) := by
  refine Keeps.bind (Q := fun _ => True) ?_ fun r _ => ?_
  · rw [createParent]
    cases hParent : Path.parent? t.path with
    | none => exact .pure trivial
    | some parent => exact .noting (leadsBelow_of_parent h hParent) _
  · cases r with
    | error e => exact .pure trivial
    | ok _ => exact .noting h _

theorem takeBack_keeps {paths : List String} (h : ∀ path ∈ paths, IsBelow root path) :
    Keeps (Call.StaysBelow root) (fun _ => True) (takeBack (fs.recorded refusal?) paths) := by
  induction paths with
  | nil => exact .pure trivial
  | cons path rest ih =>
    rw [List.forall_mem_cons] at h
    exact Keeps.bind (.noting h.1 _) fun _ _ => ih h.2

theorem writeTargets_keeps {targets : List Target} {written : List String}
    (hTargets : ∀ t ∈ targets, IsBelow root t.path)
    (hWritten : ∀ path ∈ written, IsBelow root path) :
    Keeps (Call.StaysBelow root) (fun _ => True)
      (writeTargets (fs.recorded refusal?) written targets) := by
  induction targets generalizing written with
  | nil => exact .pure trivial
  | cons t rest ih =>
    rw [List.forall_mem_cons] at hTargets
    refine (writeTarget_keeps fs refusal? hTargets.1).bind fun r _ => ?_
    cases r with
    | ok _ => exact ih hTargets.2 (List.forall_mem_cons.mpr ⟨hTargets.1, hWritten⟩)
    | error e => exact (takeBack_keeps fs refusal? hWritten).bind fun _ _ => .pure trivial

theorem exportFiles_keeps (files : List GeneratedFile) :
    Keeps (Call.StaysBelow root) (fun _ => True)
      (exportFiles (fs.recorded refusal?) files root overwrite) := by
  refine (plan_keeps fs refusal? files).bind fun r hr => ?_
  cases r with
  | error e => exact .pure trivial
  | ok targets =>
    exact writeTargets_keeps fs refusal? (hr targets rfl) fun _ hPath => absurd hPath (by simp)

/-- Every call of an export stays below its root: for all files, all answers of the file system in
all of its states, and with the calls noted by a run that is otherwise the same. -/
theorem export_stays_below (files : List GeneratedFile) (root : String) (overwrite : Bool) (s : σ) :
    ∃ result calls s', exportFiles fs.noted files root overwrite [] s = ((result, calls), s') ∧
      exportFiles fs files root overwrite s = (result, s') ∧
      ∀ c ∈ calls, c.StaysBelow root := by
  refine ⟨_, _, _, rfl, ?_, ?_⟩
  · exact (congrFun (exportFiles_mimics fs files root overwrite []) s).symm
  · exact (exportFiles_keeps fs (fun _ _ => none) files [] s fun _ hc => absurd hc (by simp)).2

/-- A file system with nothing on it whose writes are counted and fail from a number on. -/
def fullAfter (limit : Nat) : FileSystem (StateM Nat) where
  isPresent _ := pure false
  createDirectories _ := pure (.ok ())
  writeFile path _ := fun n =>
    (if n < limit then .ok () else .error (.fileSystem path "disk full"), n + 1)
  removeFile _ := pure (.ok ())

/-- The root has pieces that mean nothing, and the second write fails. -/
theorem export_stays_below_dotted_root :
    let calls : List Call := [.removeFile "out//./k8s/x", .writeFile "out//./b",
      .createDirectories "out", .writeFile "out//./k8s/x", .createDirectories "out//./k8s",
      .isPresent "out//./b", .isPresent "out//./k8s/x"]
    let run := exportFiles (fullAfter 1).noted
      [⟨"x", "./k8s//x/", "1", "text"⟩, ⟨"b", "b/.", "2", "text"⟩] "out//." false [] 0
    run.1.2 = calls ∧ ∀ c ∈ calls, c.StaysBelow "out//." := by
  intro calls run
  have hCalls : run.1.2 = calls := by decide +kernel
  obtain ⟨result, calls', s', hRun, _, hBelow⟩ := export_stays_below (fullAfter 1)
    [⟨"x", "./k8s//x/", "1", "text"⟩, ⟨"b", "b/.", "2", "text"⟩] "out//." false 0
  have hNoted : run = ((result, calls'), s') := hRun
  rw [hNoted] at hCalls ⊢
  exact ⟨hCalls, hCalls ▸ hBelow⟩

end Export

end Boilerplate
