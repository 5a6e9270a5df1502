import Boilerplate.Proofs.Template.FreeNames

/-! # Conditionals and loops

Bindings are laid over the configuration, the newest on top, and a rendering leaves them as it has
found them. Conditionals obey their usual equations as steps: the two sides have the same outcome
from everywhere, they write the same and end in the same scope. A loop over two lists in a row is
the one loop after the other.
-/

namespace Boilerplate.Template

section Bindings

/-- Looking through the bindings is looking into a configuration that holds them, too. -/
theorem Scope.lookup?_bindings (config : Config) (bindings : List (String × Value))
    (name : String) :
    Scope.lookup? ⟨config, bindings⟩ name = (config.insertAll bindings.reverse).get? name := by
  induction bindings with
  | nil => rfl
  | cons binding rest ih =>
    obtain ⟨bound, v⟩ := binding
    have hTop := Scope.lookup?_bind ⟨config, rest⟩ bound name v
    rw [Dictionary.insertAll] at ih
    rw [List.reverse_cons, Dictionary.insertAll, List.foldl_append, List.foldl_cons, List.foldl_nil,
      Dictionary.get?_insert, ← ih]
    exact hTop

/-- Rendering under bindings is rendering in the configuration with the bindings put in, from the
oldest to the newest; and when it ends, with a text or an error, the bindings are there again. -/
theorem renderNodes_with_bindings (nodes : List Node) (config : Config)
    (bindings : List (String × Value)) (written : String) :
    (renderNodes nodes).textFrom ⟨⟨config, bindings⟩, written⟩ =
        (renderNodes nodes).textFrom ⟨⟨config.insertAll bindings.reverse, []⟩, written⟩ ∧
      ((renderNodes nodes).runFrom ⟨⟨config, bindings⟩, written⟩).2.scope = ⟨config, bindings⟩ := by
  have hWorth := isWorth_renderNodes nodes
  have hAgree : Scope.AgreeOn (freeInNodes nodes) ⟨config, bindings⟩
      ⟨config.insertAll bindings.reverse, []⟩ :=
    fun name _ => Scope.lookup?_bindings config bindings name
  constructor
  · rw [hWorth.textFrom_eq, hWorth.textFrom_eq, evalNodes_congr nodes hAgree]
  · exact hWorth.scope_runFrom ⟨⟨config, bindings⟩, written⟩

/-- The inner loop takes the name of the outer one for its own items. -/
example : rendered ⟨.ofList [("xs", .list ["a", "b"]), ("ys", .list ["1", "2"])], []⟩
    [.loop "x" "xs" 1 [.loop "x" "ys" 1 [.output ⟨"x", [], 1⟩], .output ⟨"x", [], 1⟩]] =
      .ok "12a12b" := by
  decide +kernel

end Bindings

section Conditions

/-- Negation comes after the test, so that what cannot be tested cannot be tested negated either. -/
theorem evalCondition_negated (scope : Scope) (subject : String) (test : Test) (line : Nat) :
    evalCondition scope ⟨true, subject, test, line⟩ =
      (evalCondition scope ⟨false, subject, test, line⟩).map (!·) := by
  have hTest : ∀ v?, evalTest ⟨true, subject, test, line⟩ test v? =
      evalTest ⟨false, subject, test, line⟩ test v? := by
    intro v?
    cases test with
    | truthy | equals | differs => cases v? <;> rfl
    | has l =>
      cases v? with
      | none => rfl
      | some v => cases v <;> rfl
  rw [evalCondition, evalCondition]
  simp only [hTest]
  cases evalTest ⟨false, subject, test, line⟩ test (scope.lookup? subject) with
  | error e => rfl
  | ok holds => cases holds <;> rfl

theorem evalCondition_differs (scope : Scope) (negated : Bool) (subject : String) (l : Literal)
    (line : Nat) :
    evalCondition scope ⟨negated, subject, .differs l, line⟩ =
      evalCondition scope ⟨!negated, subject, .equals l, line⟩ := by
  rw [evalCondition, evalCondition]
  cases scope.lookup? subject with
  | none => cases negated <;> rfl
  | some v =>
    simp only [evalTest, compare]
    cases equals? v l with
    | none => rfl
    | some same => cases same <;> cases negated <;> rfl

end Conditions

section Steps

open Rendering

variable {c c' : Condition} {body : List Node}

theorem inScope_map_bind {α β γ : Type} (eval : Scope → Except EvalError α) (f : α → β)
    (next : β → Rendering γ) :
    (inScope fun scope => (eval scope).map f) >>= next = inScope eval >>= fun a => next (f a) := by
  funext p
  show Rendering.runFrom _ p = Rendering.runFrom _ p
  cases h : eval p.scope with
  | error e =>
    rw [runFrom_bind_of_error (by rw [runFrom_inScope, h]; rfl),
      runFrom_bind_of_error (by rw [runFrom_inScope, h])]
  | ok a =>
    rw [runFrom_bind_of_ok (by rw [runFrom_inScope, h]; rfl),
      runFrom_bind_of_ok (by rw [runFrom_inScope, h])]

theorem renderNode_conditional_negated (subject : String) (test : Test) (line : Nat)
    (body otherwise : List Node) :
    renderNode (.conditional [(⟨true, subject, test, line⟩, body)] otherwise) =
      renderNode (.conditional [(⟨false, subject, test, line⟩, otherwise)] body) := by
  simp only [renderNode, renderBranches, evalCondition_negated, inScope_map_bind]
  congr 1
  funext holds
  cases holds <;> rfl

theorem renderBranches_congr (h : ∀ scope, evalCondition scope c = evalCondition scope c')
    (front back : List Branch) (last : Rendering Unit) :
    renderBranches (front ++ (c, body) :: back) last =
      renderBranches (front ++ (c', body) :: back) last := by
  induction front with
  | nil => simp only [List.nil_append, renderBranches, h]
  | cons branch rest ih =>
    obtain ⟨d, m⟩ := branch
    simp only [List.cons_append, renderBranches, ih]

theorem renderNode_conditional_cons (branch : Branch) (rest : List Branch) (otherwise : List Node) :
    renderNode (.conditional (branch :: rest) otherwise) =
      renderNode (.conditional [branch] [.conditional rest otherwise]) := by
  obtain ⟨c, body⟩ := branch
  simp only [renderNode, renderBranches, renderNodes, bind_pure_unit]

end Steps

section Loops

open Rendering

variable {binding source source₁ source₂ : String} {body : List Node} {items xs ys : List String}

theorem forItems_append (step : Rendering Unit) : forItems binding (xs ++ ys) step =
    (do forItems binding xs step; forItems binding ys step) :=
  List.forM_append

theorem runFrom_loop {p : Progress} (h : p.scope.lookup? source = some (.list items))
    (line : Nat) :
    (renderNode (.loop binding source line body)).runFrom p =
      (forItems binding items (renderNodes body)).runFrom p := by
  have hItems : (inScope (loopItems · source line)).runFrom p = (.ok items, p) := by
    rw [runFrom_inScope, loopItems, h]
  rw [renderNode, runFrom_bind_of_ok hItems]

/-- The second loop starts in the scope of the first, which has been restored. -/
theorem runFrom_loop_append {p : Progress} (line line₁ line₂ : Nat)
    (h : p.scope.lookup? source = some (.list (xs ++ ys)))
    (h₁ : p.scope.lookup? source₁ = some (.list xs))
    (h₂ : p.scope.lookup? source₂ = some (.list ys)) :
    (renderNode (.loop binding source line body)).runFrom p =
      (renderNodes [.loop binding source₁ line₁ body, .loop binding source₂ line₂ body]).runFrom
        p := by
  have hScope := ((isWorth_renderNodes body).forItems binding xs).scope_runFrom p
  have hFirst : (renderNode (.loop binding source₁ line₁ body)).runFrom p =
      (forItems binding xs (renderNodes body)).runFrom p :=
    runFrom_loop h₁ line₁
  rw [runFrom_loop h, forItems_append, renderNodes, renderNodes, renderNodes, bind_pure_unit]
  rcases hRun : (forItems binding xs (renderNodes body)).runFrom p with ⟨r, q⟩
  rw [hRun] at hFirst hScope
  cases r with
  | error e => rw [runFrom_bind_of_error hRun, runFrom_bind_of_error hFirst]
  | ok u =>
    rw [runFrom_bind_of_ok hRun, runFrom_bind_of_ok hFirst, runFrom_loop (hScope ▸ h₂)]

theorem concatAll_append {α : Type} (f : α → Except EvalError String) (front back : List α) :
    concatAll f (front ++ back) = (do
      let s ← concatAll f front
      let t ← concatAll f back
      .ok (s ++ t)) := by
  induction front with
  | nil =>
    rw [List.nil_append, concatAll]
    cases concatAll f back with
    | error e => rfl
    | ok t =>
      show Except.ok t = .ok ("" ++ t)
      rw [String.empty_append]
  | cons a rest ih =>
    rw [List.cons_append, concatAll, concatAll, ih]
    cases f a with
    | error e => rfl
    | ok s =>
      cases concatAll f rest with
      | error e => rfl
      | ok t =>
        cases concatAll f back with
        | error e => rfl
        | ok u =>
          show Except.ok (s ++ (t ++ u)) = .ok (s ++ t ++ u)
          rw [String.append_assoc]

theorem rendered_loop {scope : Scope} (h : scope.lookup? source = some (.list items)) (line : Nat) :
    rendered scope [.loop binding source line body] =
      concatAll (fun item => evalNodes (scope.bind binding (.text item)) body) items := by
  have hItems : loopItems scope source line = .ok items := by
    rw [loopItems, h]
  rw [rendered_eq, evalNodes, evalNode, hItems, evalNodes]
  show (do
    let s ← concatAll _ items
    Except.ok (s ++ "")) = _
  simp only [String.append_empty]
  exact bind_pure _

/-- The two loops may run in scopes of their own, if the body sees the same values there. -/
theorem rendered_loop_append {s s₁ s₂ : Scope} (line line₁ line₂ : Nat)
    (h : s.lookup? source = some (.list (xs ++ ys)))
    (h₁ : s₁.lookup? source₁ = some (.list xs)) (h₂ : s₂.lookup? source₂ = some (.list ys))
    (hFirst : s₁.AgreeOn ((freeInNodes body).filter (· != binding)) s)
    (hSecond : s₂.AgreeOn ((freeInNodes body).filter (· != binding)) s) :
    rendered s [.loop binding source line body] = (do
      let t₁ ← rendered s₁ [.loop binding source₁ line₁ body]
      let t₂ ← rendered s₂ [.loop binding source₂ line₂ body]
      .ok (t₁ ++ t₂)) := by
  have hBody : ∀ {t : Scope}, t.AgreeOn ((freeInNodes body).filter (· != binding)) s →
      ∀ item : String, evalNodes (t.bind binding (.text item)) body =
        evalNodes (s.bind binding (.text item)) body := by
    intro t hAgree item
    exact evalNodes_congr body (hAgree.bind (.text item))
  rw [rendered_loop h, rendered_loop h₁, rendered_loop h₂, concatAll_append]
  simp only [hBody hFirst, hBody hSecond]

end Loops

/-- Branches are tried one after the other; a negated condition exchanges the two bodies; `!=` is a
negated `==`; and a loop over two lists in a row is the loop over the one and then over the other,
in one scope or in scopes of their own that show the same to the body. -/
theorem control_flow_laws :
    (∀ (branch : Branch) (rest : List Branch) (otherwise : List Node),
      renderNode (.conditional (branch :: rest) otherwise) =
        renderNode (.conditional [branch] [.conditional rest otherwise])) ∧
    (∀ (subject : String) (test : Test) (line : Nat) (body otherwise : List Node),
      renderNode (.conditional [(⟨true, subject, test, line⟩, body)] otherwise) =
        renderNode (.conditional [(⟨false, subject, test, line⟩, otherwise)] body)) ∧
    (∀ (negated : Bool) (subject : String) (l : Literal) (line : Nat) (front back : List Branch)
      (body otherwise : List Node),
      renderNode (.conditional
          (front ++ (⟨negated, subject, .differs l, line⟩, body) :: back) otherwise) =
        renderNode (.conditional
          (front ++ (⟨!negated, subject, .equals l, line⟩, body) :: back) otherwise)) ∧
    (∀ (binding source source₁ source₂ : String) (line line₁ line₂ : Nat) (body : List Node)
      (xs ys : List String) (p : Progress),
      p.scope.lookup? source = some (.list (xs ++ ys)) →
      p.scope.lookup? source₁ = some (.list xs) → p.scope.lookup? source₂ = some (.list ys) →
      (renderNode (.loop binding source line body)).runFrom p =
        (renderNodes [.loop binding source₁ line₁ body, .loop binding source₂ line₂ body]).runFrom
          p) ∧
    ∀ (binding source source₁ source₂ : String) (line line₁ line₂ : Nat) (body : List Node)
      (xs ys : List String) (s s₁ s₂ : Scope),
      s.lookup? source = some (.list (xs ++ ys)) →
      s₁.lookup? source₁ = some (.list xs) → s₂.lookup? source₂ = some (.list ys) →
      s₁.AgreeOn ((freeInNodes body).filter (· != binding)) s →
      s₂.AgreeOn ((freeInNodes body).filter (· != binding)) s →
      rendered s [.loop binding source line body] = (do
        let t₁ ← rendered s₁ [.loop binding source₁ line₁ body]
        let t₂ ← rendered s₂ [.loop binding source₂ line₂ body]
        .ok (t₁ ++ t₂)) := by
  refine ⟨renderNode_conditional_cons, renderNode_conditional_negated, ?_, ?_, ?_⟩
  · intro negated subject l line front back body otherwise
    have hSame := fun scope => evalCondition_differs scope negated subject l line
    rw [renderNode, renderNode, renderBranches_congr hSame]
  · intro binding source source₁ source₂ line line₁ line₂ body xs ys p h h₁ h₂
    exact runFrom_loop_append line line₁ line₂ h h₁ h₂
  · intro binding source source₁ source₂ line line₁ line₂ body xs ys s s₁ s₂ h h₁ h₂ hFirst hSecond
    exact rendered_loop_append line line₁ line₂ h h₁ h₂ hFirst hSecond

/-- One loop over three items, and two loops over one and two of them: under names of their own, and
under one name in three configurations. -/
theorem control_flow_laws_of_lists :
    let config : List String → Config := fun items =>
      .ofList [("all", .list items), ("one", .list ["a"]), ("two", .list ["b", "c"]),
        ("mark", .text "-")]
    let body : List Node := [.output ⟨"item", [], 1⟩, .output ⟨"mark", [], 1⟩]
    let loop : String → Node := fun source => .loop "item" source 1 body
    let scope : List String → Scope := fun items => ⟨config items, []⟩
    (renderNode (loop "all")).runFrom ⟨scope ["a", "b", "c"], "x"⟩ =
        (renderNodes [loop "one", loop "two"]).runFrom ⟨scope ["a", "b", "c"], "x"⟩ ∧
      rendered (scope ["a", "b", "c"]) [loop "all"] = (do
        let t₁ ← rendered (scope ["a"]) [loop "all"]
        let t₂ ← rendered (scope ["b", "c"]) [loop "all"]
        .ok (t₁ ++ t₂)) ∧
      rendered (scope ["a", "b", "c"]) [loop "all"] = .ok "a-b-c-" := by
  intro config body loop scope
  obtain ⟨-, -, -, hOneScope, hOwnScopes⟩ := control_flow_laws
  have hAll : (scope ["a", "b", "c"]).lookup? "all" = some (.list (["a"] ++ ["b", "c"])) := by
    decide +kernel
  refine ⟨?_, ?_, ?_⟩
  · apply hOneScope "item" "all" "one" "two" 1 1 1 body ["a"] ["b", "c"] _ hAll
    · decide +kernel
    · decide +kernel
  · apply hOwnScopes "item" "all" "all" "all" 1 1 1 body ["a"] ["b", "c"] _ _ _ hAll
    · decide +kernel
    · decide +kernel
    · unfold Scope.AgreeOn
      decide +kernel
    · unfold Scope.AgreeOn
      decide +kernel
  · decide +kernel

end Boilerplate.Template
