import Boilerplate.Proofs.Template.Typing

/-! # Free names of a template

A name is free where it is printed, tested or looped over, outside of the loops that bind it. What a
template evaluates to, an error included, depends on the values of its free names only.
-/

namespace Boilerplate.Template

mutual

def freeInNode : Node → List String
  | .text _ => []
  | .output e => [e.subject]
  | .conditional branches otherwise => freeInBranches branches ++ freeInNodes otherwise
  | .loop binding source _ body => source :: (freeInNodes body).filter (· != binding)

def freeInNodes : List Node → List String
  | [] => []
  | n :: rest => freeInNode n ++ freeInNodes rest

def freeInBranches : List Branch → List String
  | [] => []
  | (c, body) :: rest => c.subject :: (freeInNodes body ++ freeInBranches rest)

end

/-- A source that is no template has no names. -/
def freeInSource (source : String) : List String :=
  match parseNodes source.toList with
  | .ok nodes => freeInNodes nodes
  | .error _ => []

/-- Each of the names has the same value in both scopes, or no value in either. -/
def Scope.AgreeOn (names : List String) (s t : Scope) : Prop :=
  ∀ name ∈ names, s.lookup? name = t.lookup? name

variable {s t : Scope}

theorem Scope.lookup?_bind (scope : Scope) (binding name : String) (v : Value) :
    (scope.bind binding v).lookup? name =
      if binding = name then some v else scope.lookup? name := by
  by_cases hName : binding = name
  · simp [bind, lookup?, hName]
  · simp [bind, lookup?, hName]

theorem Scope.AgreeOn.mono {names more : List String} (h : s.AgreeOn more t)
    (hSubset : names ⊆ more) : s.AgreeOn names t :=
  fun name hName => h name (hSubset hName)

theorem Scope.AgreeOn.bind {names : List String} {binding : String}
    (h : s.AgreeOn (names.filter (· != binding)) t) (v : Value) :
    (s.bind binding v).AgreeOn names (t.bind binding v) := by
  intro name hName
  rw [lookup?_bind, lookup?_bind]
  split
  · rfl
  next hOther =>
    have hFree : name ∈ names.filter (· != binding) :=
      List.mem_filter.mpr ⟨hName, bne_iff_ne.mpr (Ne.symm hOther)⟩
    exact h name hFree

theorem evalExpression_congr {e : Expression}
    (h : s.lookup? e.subject = t.lookup? e.subject) :
    evalExpression s e = evalExpression t e := by
  rw [evalExpression, evalExpression, h]

theorem evalCondition_congr {c : Condition} (h : s.lookup? c.subject = t.lookup? c.subject) :
    evalCondition s c = evalCondition t c := by
  rw [evalCondition, evalCondition, h]

theorem loopItems_congr {source : String} (h : s.lookup? source = t.lookup? source) (line : Nat) :
    loopItems s source line = loopItems t source line := by
  rw [loopItems, loopItems, h]

-- The scopes grow alike on the way into a loop, so they still agree where only the loop binds.
mutual

theorem evalNode_congr {s t : Scope} (n : Node) (h : s.AgreeOn (freeInNode n) t) :
    evalNode s n = evalNode t n := by
  cases n with
  | text => rw [evalNode, evalNode]
  | output e =>
    rw [freeInNode] at h
    rw [evalNode, evalNode, evalExpression_congr (h e.subject List.mem_cons_self)]
  | conditional branches otherwise =>
    rw [freeInNode] at h
    have hBranches := evalBranches_congr branches (h.mono (List.subset_append_left _ _))
    have hOtherwise := evalNodes_congr otherwise (h.mono (List.subset_append_right _ _))
    rw [evalNode, evalNode, hBranches, hOtherwise]
  | loop binding source line body =>
    rw [freeInNode] at h
    have hItems := loopItems_congr (h source List.mem_cons_self) line
    have hBody : ∀ item : String, evalNodes (s.bind binding (.text item)) body =
        evalNodes (t.bind binding (.text item)) body := by
      intro item
      exact evalNodes_congr body ((h.mono (List.subset_cons_self _ _)).bind (.text item))
    rw [evalNode, evalNode, hItems]
    simp only [hBody]

theorem evalNodes_congr {s t : Scope} (nodes : List Node) (h : s.AgreeOn (freeInNodes nodes) t) :
    evalNodes s nodes = evalNodes t nodes := by
  cases nodes with
  | nil => rw [evalNodes, evalNodes]
  | cons n rest =>
    rw [freeInNodes] at h
    have hFirst := evalNode_congr n (h.mono (List.subset_append_left _ _))
    have hRest := evalNodes_congr rest (h.mono (List.subset_append_right _ _))
    rw [evalNodes, evalNodes, hFirst, hRest]

theorem evalBranches_congr {s t : Scope} (branches : List Branch)
    (h : s.AgreeOn (freeInBranches branches) t) :
    evalBranches s branches = evalBranches t branches := by
  cases branches with
  | nil => rw [evalBranches, evalBranches]
  | cons branch rest =>
    obtain ⟨c, body⟩ := branch
    rw [freeInBranches] at h
    have hCondition := evalCondition_congr (h c.subject List.mem_cons_self)
    have hLater := h.mono (List.subset_cons_self _ _)
    have hBody := evalNodes_congr body (hLater.mono (List.subset_append_left _ _))
    have hRest := evalBranches_congr rest (hLater.mono (List.subset_append_right _ _))
    rw [evalBranches, evalBranches, hCondition, hBody, hRest]

end

/-- Two configurations that agree on the free names of a source are rendered alike. -/
theorem renderSource_congr {source : String} {c₁ c₂ : Config}
    (h : ∀ name ∈ freeInSource source, c₁.get? name = c₂.get? name) (label : String) :
    renderSource label source c₁ = renderSource label source c₂ := by
  rw [freeInSource] at h
  cases hNodes : parseNodes source.toList with
  | error e =>
    rw [renderSource, renderSource, parse, hNodes]
    rfl
  | ok nodes =>
    rw [hNodes] at h
    have hEval : evalNodes ⟨c₁, []⟩ nodes = evalNodes ⟨c₂, []⟩ nodes :=
      evalNodes_congr nodes h
    rw [renderSource_of_parseNodes hNodes, renderSource_of_parseNodes hNodes, render, render,
      rendered_eq, rendered_eq, hEval]

end Boilerplate.Template
