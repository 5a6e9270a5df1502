import Boilerplate.Generation.Export

/-! # Recording a run

An export whose calls are noted and never refused is the export itself. So what is known of recorded
runs is known of runs.
-/

namespace Boilerplate

variable {m : Type → Type} [Monad m]

/-- Running `x` and forgetting its calls is running `y`. -/
def Mimics {α : Type} (x : StateT (List Call) m α) (y : m α) : Prop :=
  ∀ calls, (·.1) <$> x calls = y

variable [LawfulMonad m]

theorem Mimics.pure {α : Type} (a : α) : Mimics (m := m) (Pure.pure a) (Pure.pure a) := by
  intro calls
  change (·.1) <$> (Pure.pure (a, calls) : m (α × List Call)) = Pure.pure a
  rw [map_pure]

theorem Mimics.bind {α β : Type} {x : StateT (List Call) m α} {y : m α}
    {f : α → StateT (List Call) m β} {g : α → m β} (hx : Mimics x y)
    (hf : ∀ a, Mimics (f a) (g a)) : Mimics (x >>= f) (y >>= g) := by
  intro calls
  change (·.1) <$> (x calls >>= fun p => f p.1 p.2) = y >>= g
  calc
    (·.1) <$> (x calls >>= fun p => f p.1 p.2) = x calls >>= fun p => (·.1) <$> f p.1 p.2 :=
      map_bind _ _ _
    _ = x calls >>= fun p => g p.1 := by
      congr 1
      funext p
      exact hf p.1 p.2
    _ = ((·.1) <$> x calls) >>= g := (bind_map_left _ _ _).symm
    _ = y >>= g := by rw [hx calls]

namespace FileSystem

/-- The file system with its calls noted and none refused. -/
def noted (fs : FileSystem m) : FileSystem (StateT (List Call) m) :=
  fs.recorded fun _ _ => none

theorem noting_mimics (call : Call) (run : m (Except Error Unit)) :
    Mimics (noting (fun _ _ => none) call run) run := by
  intro calls
  change (·.1) <$> (run >>= fun r => pure (r, call :: calls)) = run
  simp

variable (fs : FileSystem m)

theorem isPresent_mimics (path : String) :
    Mimics (fs.noted.isPresent path) (fs.isPresent path) := by
  intro calls
  change (·.1) <$> (fs.isPresent path >>= fun r => pure (r, Call.isPresent path :: calls)) = _
  simp

end FileSystem

namespace Export

variable (fs : FileSystem m)

/-- The rest of a plan once it is known whether a target is taken. -/
def restOfPlan {m : Type → Type} [Monad m] (x : m (Except Error (List Target))) (t : Target)
    (taken : Bool) : m (Except Error (List Target)) :=
  if taken then pure (.error (.fileExists t.path))
  else do
    match ← x with
    | .error e => pure (.error e)
    | .ok targets => pure (.ok (t :: targets))

theorem restOfPlan_mimics {x : StateT (List Call) m (Except Error (List Target))}
    {y : m (Except Error (List Target))} (h : Mimics x y) (t : Target) (taken : Bool) :
    Mimics (restOfPlan x t taken) (restOfPlan y t taken) := by
  rw [restOfPlan, restOfPlan]
  split
  · exact .pure _
  · refine .bind h fun r => ?_
    cases r with
    | error e => exact .pure _
    | ok targets => exact .pure _

theorem plan_mimics (root : String) (overwrite : Bool) (files : List GeneratedFile) :
    Mimics (plan fs.noted root overwrite files) (plan fs root overwrite files) := by
  induction files with
  | nil => exact .pure _
  | cons f rest ih =>
    rw [plan, plan]
    cases RelativePath.parse f.path with
    | error e => exact .pure _
    | ok path =>
      have hRest := restOfPlan_mimics ih ⟨path.under root, f.content⟩
      cases overwrite with
      | true => exact Mimics.bind (m := m) (.pure false) hRest
      | false => exact Mimics.bind (m := m) (fs.isPresent_mimics _) hRest

theorem writeTarget_mimics (t : Target) : Mimics (writeTarget fs.noted t) (writeTarget fs t) := by
  refine .bind ?_ fun r => ?_
  · rw [createParent, createParent]
    cases Path.parent? t.path with
    | none => exact .pure _
    | some parent => exact FileSystem.noting_mimics _ _
  · cases r with
    | error e => exact .pure _
    | ok _ => exact FileSystem.noting_mimics _ _

theorem takeBack_mimics (paths : List String) :
    Mimics (takeBack fs.noted paths) (takeBack fs paths) := by
  induction paths with
  | nil => exact .pure _
  | cons path rest ih => exact .bind (FileSystem.noting_mimics _ _) fun _ => ih

theorem writeTargets_mimics (written : List String) (targets : List Target) :
    Mimics (writeTargets fs.noted written targets) (writeTargets fs written targets) := by
  induction targets generalizing written with
  | nil => exact .pure _
  | cons t rest ih =>
    refine .bind (writeTarget_mimics fs t) fun r => ?_
    cases r with
    | ok _ => exact ih _
    | error e => exact .bind (takeBack_mimics fs written) fun _ => .pure _

theorem exportFiles_mimics (files : List GeneratedFile) (root : String) (overwrite : Bool) :
    Mimics (exportFiles fs.noted files root overwrite) (exportFiles fs files root overwrite) := by
  refine .bind (plan_mimics fs root overwrite files) fun r => ?_
  cases r with
  | error e => exact .pure _
  | ok targets => exact writeTargets_mimics fs [] targets

end Export

end Boilerplate
