import Boilerplate.Config.Kind
import Boilerplate.Proofs.Data.Outcome
import Boilerplate.Proofs.Template.Rendering
import Boilerplate.Template.Basic

/-! # Templates that fit the kinds of their names

A template fits when every name that it uses has a kind which allows the use. Then it is evaluated
without an error in every scope whose values have these kinds. Names need not have a value.
-/

namespace Boilerplate

/-- The kinds of names, those of the innermost loops first. -/
abbrev Kinds := List (String × Kind)

namespace Template

def kindOf? (kinds : Kinds) (name : String) : Option Kind :=
  (kinds.find? (·.1 == name)).map (·.2)

/-- A list is printed through `join` only. -/
def filtersFit (filters : List Filter) (kind : Kind) : Bool :=
  kind != .multiSelect || filters.head? == some .join

def literalFits : Literal → Kind → Bool
  | .text _, .text => true
  | .text _, .select => true
  | .number _, .number => true
  | .boolean _, .boolean => true
  | _, _ => false

def testFits : Test → Kind → Bool
  | .truthy, _ => true
  | .equals l, kind => literalFits l kind
  | .differs l, kind => literalFits l kind
  | .has _, kind => kind == .multiSelect

mutual

def nodeFits (kinds : Kinds) : Node → Bool
  | .text _ => true
  | .output e => (kindOf? kinds e.subject).any (filtersFit e.filters)
  | .conditional branches otherwise => branchesFit kinds branches && nodesFit kinds otherwise
  | .loop binding source _ body =>
    (kindOf? kinds source).any (· == .multiSelect) && nodesFit ((binding, .text) :: kinds) body

def nodesFit (kinds : Kinds) : List Node → Bool
  | [] => true
  | n :: rest => nodeFits kinds n && nodesFit kinds rest

def branchesFit (kinds : Kinds) : List Branch → Bool
  | [] => true
  | (c, body) :: rest =>
    (kindOf? kinds c.subject).any (testFits c.test) && nodesFit kinds body && branchesFit kinds rest

end

def sourceFits (kinds : Kinds) (source : List Char) : Bool :=
  match parseNodes source with
  | .ok nodes => nodesFit kinds nodes
  | .error _ => false

/-- The values of a scope have the kinds of their names. -/
def Scope.Conforms (scope : Scope) (kinds : Kinds) : Prop :=
  ∀ name kind v, kindOf? kinds name = some kind → scope.lookup? name = some v →
    kind.accepts v = true

variable {scope : Scope} {kinds : Kinds}

theorem Scope.Conforms.accepts_of_any {name : String} {p : Kind → Bool} {v : Value}
    (hScope : scope.Conforms kinds) (h : (kindOf? kinds name).any p = true)
    (hValue : scope.lookup? name = some v) : ∃ kind, p kind = true ∧ kind.accepts v = true := by
  obtain ⟨kind, hKind, hAllowed⟩ := (Option.any_eq_true _ _).mp h
  exact ⟨kind, hAllowed, hScope name kind v hKind hValue⟩

theorem Scope.Conforms.bind (hScope : scope.Conforms kinds) (binding item : String) :
    (scope.bind binding (.text item)).Conforms ((binding, .text) :: kinds) := by
  intro name kind v hKind hValue
  by_cases hName : binding = name
  · obtain rfl : Kind.text = kind := by simpa [kindOf?, hName] using hKind
    obtain rfl : Value.text item = v := by simpa [Scope.bind, Scope.lookup?, hName] using hValue
    rfl
  · have hOuterKind : kindOf? kinds name = some kind := by simpa [kindOf?, hName] using hKind
    have hOuterValue : scope.lookup? name = some v := by
      simpa [Scope.bind, Scope.lookup?, hName] using hValue
    exact hScope name kind v hOuterKind hOuterValue

theorem run?_scalar (f : Filter) {v : Value} {s : String} (h : v.scalarText? = some s) :
    f.run? v = some (if f = .join then v else .text (String.ofList (f.onText s.toList))) := by
  cases v with
  | list => cases h
  | _ =>
    rw [Filter.run?, h]
    · split <;> rfl
    · exact fun _ => nofun

theorem applyFilters_scalar (line : Nat) (filters : List Filter) {v : Value} {s : String}
    (h : v.scalarText? = some s) :
    ∃ w t, applyFilters line filters v = .ok w ∧ w.scalarText? = some t := by
  induction filters generalizing v s with
  | nil => exact ⟨v, s, rfl, h⟩
  | cons f rest ih =>
    rw [applyFilters, run?_scalar f h]
    by_cases hJoin : f = .join
    · rw [if_pos hJoin]
      exact ih h
    · rw [if_neg hJoin]
      exact ih rfl

theorem applyFilters_of_accepts (line : Nat) {filters : List Filter} {kind : Kind} {v : Value}
    (hFits : filtersFit filters kind = true) (hValue : kind.accepts v = true) :
    ∃ w s, applyFilters line filters v = .ok w ∧ w.scalarText? = some s := by
  cases v with
  | list items =>
    cases kind with
    | multiSelect =>
      cases filters with
      | nil => cases hFits
      | cons f rest =>
        obtain rfl : f = .join := by simpa [filtersFit] using hFits
        rw [applyFilters, Filter.run?, if_pos rfl]
        exact applyFilters_scalar line rest rfl
    | _ => cases hValue
  | _ => exact applyFilters_scalar line filters rfl

theorem evalExpression_ok (hScope : scope.Conforms kinds) {e : Expression}
    (h : (kindOf? kinds e.subject).any (filtersFit e.filters) = true) :
    ∃ s, evalExpression scope e = .ok s := by
  rw [evalExpression]
  cases hValue : scope.lookup? e.subject with
  | none => exact ⟨"", rfl⟩
  | some v =>
    obtain ⟨kind, hFits, hAccepts⟩ := hScope.accepts_of_any h hValue
    obtain ⟨w, s, hRun, hScalar⟩ := applyFilters_of_accepts e.line hFits hAccepts
    exact ⟨s, bind_eq_ok.mpr ⟨w, hRun, by simp only [hScalar]⟩⟩

theorem compare_ok {l : Literal} {kind : Kind} {v : Value} (c : Condition)
    (hFits : literalFits l kind = true) (hValue : kind.accepts v = true) :
    ∃ b, compare c v l = .ok b := by
  cases l <;> cases kind <;> cases v
  all_goals first
    | exact ⟨_, rfl⟩
    | exact absurd hFits Bool.false_ne_true
    | exact absurd hValue Bool.false_ne_true

theorem evalCondition_ok (hScope : scope.Conforms kinds) {c : Condition}
    (h : (kindOf? kinds c.subject).any (testFits c.test) = true) :
    ∃ b, evalCondition scope c = .ok b := by
  have hTest : ∃ b, evalTest c c.test (scope.lookup? c.subject) = .ok b := by
    cases hValue : scope.lookup? c.subject with
    | none => cases c.test <;> exact ⟨_, rfl⟩
    | some v =>
      obtain ⟨kind, hFits, hAccepts⟩ := hScope.accepts_of_any h hValue
      cases hForm : c.test with
      | truthy => exact ⟨v.isTruthy, rfl⟩
      | equals l =>
        rw [hForm] at hFits
        exact compare_ok c hFits hAccepts
      | differs l =>
        rw [hForm] at hFits
        obtain ⟨b, hEqual⟩ := compare_ok c hFits hAccepts
        rw [evalTest, hEqual]
        exact ⟨!b, rfl⟩
      | has l =>
        rw [hForm] at hFits
        obtain rfl : kind = .multiSelect := by simpa [testFits] using hFits
        cases v with
        | list items => exact ⟨_, rfl⟩
        | _ => cases hAccepts
  obtain ⟨b, hEval⟩ := hTest
  exact ⟨b != c.negated, by rw [evalCondition, hEval]; rfl⟩

theorem loopItems_ok (hScope : scope.Conforms kinds) {source : String} (line : Nat)
    (h : (kindOf? kinds source).any (· == .multiSelect) = true) :
    ∃ items, loopItems scope source line = .ok items := by
  rw [loopItems]
  cases hValue : scope.lookup? source with
  | none => exact ⟨[], rfl⟩
  | some v =>
    obtain ⟨kind, hFits, hAccepts⟩ := hScope.accepts_of_any h hValue
    obtain rfl : kind = .multiSelect := by simpa using hFits
    cases v with
    | list items => exact ⟨items, rfl⟩
    | _ => cases hAccepts

theorem concatAll_ok {α : Type} {f : α → Except EvalError String} {parts : List α}
    (h : ∀ a ∈ parts, ∃ s, f a = .ok s) : ∃ s, concatAll f parts = .ok s := by
  induction parts with
  | nil => exact ⟨"", rfl⟩
  | cons a rest ih =>
    obtain ⟨s, hFirst⟩ := h a List.mem_cons_self
    obtain ⟨t, hRest⟩ := ih fun b hb => h b (List.mem_cons_of_mem a hb)
    exact ⟨s ++ t, by rw [concatAll, hFirst, hRest]; rfl⟩

-- The scope grows on the way into a loop, and the kinds grow with it.
mutual

theorem evalNode_ok {scope : Scope} {kinds : Kinds} (hScope : scope.Conforms kinds)
    (n : Node) (h : nodeFits kinds n = true) : ∃ s, evalNode scope n = .ok s := by
  cases n with
  | text s => exact ⟨s, by rw [evalNode]⟩
  | output e =>
    rw [nodeFits] at h
    rw [evalNode]
    exact evalExpression_ok hScope h
  | conditional branches otherwise =>
    rw [nodeFits, Bool.and_eq_true] at h
    obtain ⟨chosen, hBranches⟩ := evalBranches_ok hScope branches h.1
    obtain ⟨t, hOtherwise⟩ := evalNodes_ok hScope otherwise h.2
    rw [evalNode, hBranches]
    cases chosen with
    | none => exact ⟨t, hOtherwise⟩
    | some s => exact ⟨s, rfl⟩
  | loop binding source line body =>
    rw [nodeFits, Bool.and_eq_true] at h
    obtain ⟨items, hItems⟩ := loopItems_ok hScope line h.1
    rw [evalNode, hItems]
    exact concatAll_ok fun item _ => evalNodes_ok (hScope.bind binding item) body h.2

theorem evalNodes_ok {scope : Scope} {kinds : Kinds} (hScope : scope.Conforms kinds)
    (nodes : List Node) (h : nodesFit kinds nodes = true) : ∃ s, evalNodes scope nodes = .ok s := by
  cases nodes with
  | nil => exact ⟨"", by rw [evalNodes]⟩
  | cons n rest =>
    rw [nodesFit, Bool.and_eq_true] at h
    obtain ⟨s, hFirst⟩ := evalNode_ok hScope n h.1
    obtain ⟨t, hRest⟩ := evalNodes_ok hScope rest h.2
    exact ⟨s ++ t, by rw [evalNodes, hFirst, hRest]; rfl⟩

theorem evalBranches_ok {scope : Scope} {kinds : Kinds} (hScope : scope.Conforms kinds)
    (branches : List Branch) (h : branchesFit kinds branches = true) :
    ∃ s, evalBranches scope branches = .ok s := by
  cases branches with
  | nil => exact ⟨none, by rw [evalBranches]⟩
  | cons branch rest =>
    obtain ⟨c, body⟩ := branch
    simp only [branchesFit, Bool.and_eq_true] at h
    obtain ⟨⟨hSubject, hBody⟩, hOthers⟩ := h
    obtain ⟨b, hTest⟩ := evalCondition_ok hScope hSubject
    rw [evalBranches, hTest]
    cases b with
    | true =>
      obtain ⟨s, hChosen⟩ := evalNodes_ok hScope body hBody
      exact ⟨some s, by rw [hChosen]; rfl⟩
    | false => exact evalBranches_ok hScope rest hOthers

end

theorem renderSource_of_parseNodes {name source : String} {config : Config} {nodes : List Node}
    (h : parseNodes source.toList = .ok nodes) :
    renderSource name source config = render ⟨name, nodes⟩ config := by
  rw [renderSource, parse, h]
  rfl

/-- A source that fits is rendered without an error, whatever the values. -/
theorem renderSource_ok {source : String} {config : Config} (name : String)
    (hSource : sourceFits kinds source.toList = true)
    (hConfig : Scope.Conforms ⟨config, []⟩ kinds) :
    ∃ s, renderSource name source config = .ok s := by
  rw [sourceFits] at hSource
  cases hNodes : parseNodes source.toList with
  | error e =>
    rw [hNodes] at hSource
    cases hSource
  | ok nodes =>
    rw [hNodes] at hSource
    obtain ⟨s, hEval⟩ := evalNodes_ok hConfig nodes hSource
    exact ⟨Text.trimmed s, by rw [renderSource_of_parseNodes hNodes, render, rendered_eq, hEval]⟩

end Template

end Boilerplate
