import Boilerplate.Proofs.Data.Outcome
import Boilerplate.Template.Rendering

/-! # What a rendering comes to

A rendering writes what the evaluation of its tree gives, and fails where that fails. Whatever
becomes of it, it ends in the scope that it began in: each binding that a loop has pushed is popped
again.
-/

namespace Boilerplate.Template

namespace Rendering

section Runs

variable {α β : Type} {p q : Progress}

theorem runFrom_bind_of_ok {x : Rendering α} {a : α} (h : x.runFrom p = (.ok a, q))
    (f : α → Rendering β) : (x >>= f).runFrom p = (f a).runFrom q := by
  show ExceptT.bindCont f (x.runFrom p).1 (x.runFrom p).2 = _
  rw [h]
  rfl

theorem runFrom_bind_of_error {x : Rendering α} {e : EvalError} (h : x.runFrom p = (.error e, q))
    (f : α → Rendering β) : (x >>= f).runFrom p = (.error e, q) := by
  show ExceptT.bindCont f (x.runFrom p).1 (x.runFrom p).2 = _
  rw [h]
  rfl

theorem runFrom_inScope (eval : Scope → Except EvalError α) (p : Progress) :
    (inScope eval).runFrom p = (eval p.scope, p) :=
  rfl

theorem runFrom_finally {step cleanup : Rendering Unit} {r : Except EvalError Unit} {q' : Progress}
    (h : step.runFrom p = (r, q)) (hCleanup : cleanup.runFrom q = (.ok (), q')) :
    Rendering.runFrom (try step finally cleanup) p = (r, q') := by
  rw [runFrom] at h hCleanup
  cases r <;>
    simp only [runFrom, tryFinally, tryFinally', ExceptT.mk, StateT.bind, bind, Functor.map,
      ExceptT.map, h, hCleanup] <;>
    rfl

/-- A step that ends in the scope it began in takes no binding off, and no binding stays. -/
theorem runFrom_withBinding {name : String} {v : Value} {step : Rendering Unit}
    {r : Except EvalError Unit} {written : String}
    (h : step.runFrom ⟨p.scope.bind name v, p.written⟩ = (r, ⟨p.scope.bind name v, written⟩)) :
    (withBinding name v step).runFrom p = (r, ⟨p.scope, written⟩) := by
  have hPush : (push name v).runFrom p = (.ok (), ⟨p.scope.bind name v, p.written⟩) := rfl
  have hPop : pop.runFrom ⟨p.scope.bind name v, written⟩ = (.ok (), ⟨p.scope, written⟩) := rfl
  rw [withBinding, runFrom_bind_of_ok hPush]
  exact runFrom_finally h hPop

end Runs

/-- The step writes the text that its scope gives or fails with the error, and ends in its scope
either way. -/
structure IsWorth (step : Rendering Unit) (text : Scope → Except EvalError String) : Prop where
  written : ∀ p s, text p.scope = .ok s → step.runFrom p = (.ok (), ⟨p.scope, p.written ++ s⟩)
  failed : ∀ p e, text p.scope = .error e →
    ∃ part, step.runFrom p = (.error e, ⟨p.scope, p.written ++ part⟩)

namespace IsWorth

variable {α : Type} {x y : Rendering Unit} {f g : Scope → Except EvalError String}

theorem scope_runFrom (h : IsWorth x f) (p : Progress) : (x.runFrom p).2.scope = p.scope := by
  cases hText : f p.scope with
  | ok s => rw [h.written p s hText]
  | error e =>
    obtain ⟨part, hRun⟩ := h.failed p e hText
    rw [hRun]

theorem textFrom_eq (h : IsWorth x f) (p : Progress) :
    x.textFrom p = (f p.scope).map (p.written ++ ·) := by
  rw [textFrom]
  cases hText : f p.scope with
  | ok s =>
    rw [h.written p s hText]
    rfl
  | error e =>
    obtain ⟨part, hRun⟩ := h.failed p e hText
    rw [hRun]
    rfl

theorem congr (h : IsWorth x f) (hText : ∀ scope, f scope = g scope) : IsWorth x g :=
  funext hText ▸ h

theorem nothing : IsWorth (pure ()) fun _ => .ok "" where
  written p s h := by
    obtain rfl := Except.ok.inj h
    rw [String.append_empty]
    rfl
  failed p e h := by cases h

theorem write (s : String) : IsWorth (Rendering.write s) fun _ => .ok s where
  written p t h := by
    obtain rfl := Except.ok.inj h
    rfl
  failed p e h := by cases h

theorem seq (hx : IsWorth x f) (hy : IsWorth y g) :
    IsWorth (do x; y) fun scope => do
      let s ← f scope
      let t ← g scope
      .ok (s ++ t) where
  written p u h := by
    obtain ⟨s, hs, h⟩ := bind_eq_ok.mp h
    obtain ⟨t, ht, h⟩ := bind_eq_ok.mp h
    obtain rfl := Except.ok.inj h
    rw [runFrom_bind_of_ok (hx.written p s hs), hy.written ⟨p.scope, p.written ++ s⟩ t ht,
      String.append_assoc]
  failed p e h := by
    cases hs : f p.scope with
    | error d =>
      rw [hs] at h
      obtain rfl := Except.error.inj h
      obtain ⟨part, hRun⟩ := hx.failed p d hs
      exact ⟨part, runFrom_bind_of_error hRun _⟩
    | ok s =>
      rw [runFrom_bind_of_ok (hx.written p s hs)]
      cases ht : g p.scope with
      | error d =>
        rw [hs, ht] at h
        obtain rfl := Except.error.inj h
        obtain ⟨part, hRun⟩ := hy.failed ⟨p.scope, p.written ++ s⟩ d ht
        exact ⟨s ++ part, by rw [hRun, String.append_assoc]⟩
      | ok t =>
        rw [hs, ht] at h
        cases h

theorem choice (hx : IsWorth x f) (hy : IsWorth y g) (b : Bool) :
    IsWorth (if b then x else y) fun scope => if b then f scope else g scope := by
  cases b with
  | false => exact hy
  | true => exact hx

theorem inScope {eval : Scope → Except EvalError α} {next : α → Rendering Unit}
    {text : α → Scope → Except EvalError String} (h : ∀ a, IsWorth (next a) (text a)) :
    IsWorth (Rendering.inScope eval >>= next) fun scope => do text (← eval scope) scope where
  written p s hText := by
    obtain ⟨a, ha, hText⟩ := bind_eq_ok.mp hText
    rw [runFrom_bind_of_ok (by rw [runFrom_inScope, ha]), (h a).written p s hText]
  failed p e hText := by
    cases ha : eval p.scope with
    | error d =>
      rw [ha] at hText
      obtain rfl := Except.error.inj hText
      refine ⟨"", ?_⟩
      rw [String.append_empty]
      exact runFrom_bind_of_error (by rw [runFrom_inScope, ha]) next
    | ok a =>
      rw [ha] at hText
      rw [runFrom_bind_of_ok (by rw [runFrom_inScope, ha])]
      exact (h a).failed p e hText

theorem withBinding (h : IsWorth x f) (name : String) (v : Value) :
    IsWorth (Rendering.withBinding name v x) fun scope => f (scope.bind name v) where
  written p s hText := runFrom_withBinding (h.written ⟨p.scope.bind name v, p.written⟩ s hText)
  failed p e hText := by
    obtain ⟨part, hRun⟩ := h.failed ⟨p.scope.bind name v, p.written⟩ e hText
    exact ⟨part, runFrom_withBinding hRun⟩

theorem forItems (h : IsWorth x f) (binding : String) (items : List String) :
    IsWorth (Rendering.forItems binding items x) fun scope =>
      concatAll (fun item => f (scope.bind binding (.text item))) items := by
  induction items with
  | nil => exact nothing
  | cons item rest ih => exact (h.withBinding binding (.text item)).seq ih

end IsWorth

end Rendering

open Rendering (IsWorth)

mutual

theorem isWorth_renderNode (n : Node) : IsWorth (renderNode n) (evalNode · n) := by
  cases n with
  | text s =>
    simp only [renderNode, evalNode]
    exact .write s
  | output e =>
    simp only [renderNode, evalNode]
    refine (IsWorth.inScope .write).congr fun scope => ?_
    exact bind_pure (evalExpression scope e)
  | conditional branches otherwise =>
    simp only [renderNode, evalNode]
    exact isWorth_renderBranches branches (isWorth_renderNodes otherwise)
  | loop binding source line body =>
    simp only [renderNode, evalNode]
    exact .inScope ((isWorth_renderNodes body).forItems binding)

theorem isWorth_renderNodes (nodes : List Node) :
    IsWorth (renderNodes nodes) (evalNodes · nodes) := by
  cases nodes with
  | nil =>
    simp only [renderNodes, evalNodes]
    exact .nothing
  | cons n rest =>
    simp only [renderNodes, evalNodes]
    exact (isWorth_renderNode n).seq (isWorth_renderNodes rest)

theorem isWorth_renderBranches (branches : List Branch) {last : Rendering Unit}
    {text : Scope → Except EvalError String} (hLast : IsWorth last text) :
    IsWorth (renderBranches branches last) (fun scope => do
      match ← evalBranches scope branches with
      | some s => .ok s
      | none => text scope) := by
  cases branches with
  | nil =>
    simp only [renderBranches, evalBranches]
    exact hLast
  | cons branch rest =>
    obtain ⟨c, body⟩ := branch
    have hRest := isWorth_renderBranches rest hLast
    simp only [renderBranches, evalBranches]
    have hBody := isWorth_renderNodes body
    refine (IsWorth.inScope fun holds => hBody.choice hRest holds).congr fun scope => ?_
    cases evalCondition scope c with
    | error e => rfl
    | ok holds =>
      cases holds with
      | false => rfl
      | true => cases evalNodes scope body <;> rfl

end

theorem rendered_eq (scope : Scope) (nodes : List Node) :
    rendered scope nodes = evalNodes scope nodes := by
  rw [rendered, (isWorth_renderNodes nodes).textFrom_eq]
  cases evalNodes scope nodes with
  | error e => rfl
  | ok s =>
    show Except.ok ("" ++ s) = .ok s
    rw [String.empty_append]

end Boilerplate.Template
