import Boilerplate.Proofs.Template.Building
import Boilerplate.Proofs.Template.Relocation
import Boilerplate.Template.Evaluation

/-! # Trees of equal outcome

Two trees have the same outcome when they evaluate to the same text, or both to none, in every
scope. Neither the places of the tags nor the way in which a text is cut changes the outcome.
-/

namespace Boilerplate.Template

/-- Evaluated alike in every scope, except that the errors may differ. -/
def SameOutcome {α β : Type} (eval : Scope → α → Except EvalError β) (a b : α) : Prop :=
  ∀ scope r, eval scope a = .ok r ↔ eval scope b = .ok r

section Lines

theorem SameOutcome.refl {α β : Type} {eval : Scope → α → Except EvalError β} (a : α) :
    SameOutcome eval a a :=
  fun _ _ => Iff.rfl

theorem SameOutcome.trans {α β : Type} {eval : Scope → α → Except EvalError β} {a b c : α}
    (h : SameOutcome eval a b) (h' : SameOutcome eval b c) : SameOutcome eval a c :=
  fun scope r => (h scope r).trans (h' scope r)

theorem applyFilters_line (line line' : Nat) (filters : List Filter) (v w : Value) :
    applyFilters line filters v = .ok w ↔ applyFilters line' filters v = .ok w := by
  induction filters generalizing v with
  | nil => rw [applyFilters, applyFilters]
  | cons f rest ih =>
    rw [applyFilters, applyFilters]
    cases f.run? v with
    | none => exact ⟨nofun, nofun⟩
    | some u => exact ih u

theorem Expression.sameOutcome_atLine (e : Expression) (line : Nat) :
    SameOutcome evalExpression e (e.atLine line) := by
  intro scope s
  rw [evalExpression, evalExpression]
  simp only [atLine]
  cases scope.lookup? e.subject with
  | none => rfl
  | some v =>
    simp only [bind_eq_ok, applyFilters_line e.line line]
    refine exists_congr fun w => and_congr_right fun _ => ?_
    cases w.scalarText? with
    | none => exact ⟨nofun, nofun⟩
    | some s => rfl

theorem compare_atLine (c : Condition) (line : Nat) (v : Value) (l : Literal) (b : Bool) :
    compare c v l = .ok b ↔ compare (c.atLine line) v l = .ok b := by
  rw [compare, compare]
  cases equals? v l with
  | none => exact ⟨nofun, nofun⟩
  | some b => rfl

theorem evalTest_atLine (c : Condition) (line : Nat) (t : Test) (v? : Option Value) (b : Bool) :
    evalTest c t v? = .ok b ↔ evalTest (c.atLine line) t v? = .ok b := by
  fun_cases evalTest c t v? with
  | case4 l v => exact compare_atLine c line v l b
  | case6 l v =>
    rw [evalTest]
    simp only [map_eq_ok, compare_atLine c line]
  | case9 l v hOther =>
    rw [evalTest.eq_9 _ _ _ hOther]
    exact ⟨nofun, nofun⟩
  | _ => rfl

theorem Condition.sameOutcome_atLine (c : Condition) (line : Nat) :
    SameOutcome evalCondition c (c.atLine line) := by
  intro scope b
  rw [evalCondition, evalCondition]
  simp only [map_eq_ok, evalTest_atLine c line]
  rfl

end Lines

section Trees

variable {m n m' n' : List Node} {branches branches' : List Branch} {c c' : Condition}

theorem evalNodes_append_eq_ok_iff {scope : Scope} {u : String} :
    evalNodes scope (m ++ n) = .ok u ↔
      ∃ s t, evalNodes scope m = .ok s ∧ evalNodes scope n = .ok t ∧ u = s ++ t := by
  induction m generalizing u with
  | nil => simp [evalNodes]
  | cons first rest ih =>
    simp only [List.cons_append, evalNodes, bind_eq_ok, ih]
    constructor
    · rintro ⟨s, hFirst, _, ⟨t, u, hRest, hBack, rfl⟩, h⟩
      obtain rfl := Except.ok.inj h
      exact ⟨s ++ t, u, ⟨s, hFirst, t, hRest, rfl⟩, hBack, (String.append_assoc).symm⟩
    · rintro ⟨_, u, ⟨s, hFirst, t, hRest, h⟩, hBack, rfl⟩
      obtain rfl := Except.ok.inj h
      exact ⟨s, hFirst, t ++ u, ⟨t, u, hRest, hBack, rfl⟩, by rw [String.append_assoc]⟩

theorem evalBranches_cons_eq_ok_iff {scope : Scope} {rest : List Branch} {r : Option String} :
    evalBranches scope ((c, m) :: rest) = .ok r ↔ ∃ holds, evalCondition scope c = .ok holds ∧
      if holds then ∃ s, evalNodes scope m = .ok s ∧ some s = r
      else evalBranches scope rest = .ok r := by
  rw [evalBranches, bind_eq_ok]
  refine exists_congr fun holds => and_congr_right fun _ => ?_
  cases holds with
  | false => rfl
  | true => simp [bind_eq_ok]

theorem evalBranches_append_eq_ok_iff {scope : Scope} {front back : List Branch}
    {r : Option String} :
    evalBranches scope (front ++ back) = .ok r ↔ ∃ first, evalBranches scope front = .ok first ∧
      if first.isSome then first = r else evalBranches scope back = .ok r := by
  induction front with
  | nil => simp [evalBranches]
  | cons branch rest ih =>
    obtain ⟨c, body⟩ := branch
    rw [List.cons_append, evalBranches_cons_eq_ok_iff]
    simp only [evalBranches_cons_eq_ok_iff]
    constructor
    · rintro ⟨holds, hHolds, h⟩
      cases holds with
      | false =>
        obtain ⟨first, hRest, hBack⟩ := ih.mp h
        exact ⟨first, ⟨false, hHolds, hRest⟩, hBack⟩
      | true =>
        obtain ⟨s, hBody, rfl⟩ := h
        exact ⟨some s, ⟨true, hHolds, s, hBody, rfl⟩, rfl⟩
    · rintro ⟨first, ⟨holds, hHolds, h⟩, hFirst⟩
      cases holds with
      | false => exact ⟨false, hHolds, ih.mpr ⟨first, h, hFirst⟩⟩
      | true =>
        obtain ⟨s, hBody, rfl⟩ := h
        obtain rfl := hFirst
        exact ⟨true, hHolds, s, hBody, rfl⟩

theorem SameOutcome.append (hFront : SameOutcome evalNodes m m')
    (hBack : SameOutcome evalNodes n n') : SameOutcome evalNodes (m ++ n) (m' ++ n') := by
  intro scope t
  simp only [evalNodes_append_eq_ok_iff, hFront scope, hBack scope]

theorem SameOutcome.singleton {node node' : Node} (h : SameOutcome evalNode node node') :
    SameOutcome evalNodes [node] [node'] := by
  intro scope t
  simp only [evalNodes, bind_eq_ok, h scope]

theorem SameOutcome.branch (hClosed : SameOutcome evalBranches branches branches')
    (hCondition : SameOutcome evalCondition c c') (hBody : SameOutcome evalNodes m m') :
    SameOutcome evalBranches (branches ++ [(c, m)]) (branches' ++ [(c', m')]) := by
  intro scope r
  simp only [evalBranches_append_eq_ok_iff, evalBranches_cons_eq_ok_iff, hClosed scope,
    hCondition scope, hBody scope]

theorem SameOutcome.conditional (hBranches : SameOutcome evalBranches branches branches')
    (hOtherwise : SameOutcome evalNodes m m') :
    SameOutcome evalNode (.conditional branches m) (.conditional branches' m') := by
  intro scope t
  simp only [evalNode, bind_eq_ok, hBranches scope]
  refine exists_congr fun first => and_congr_right fun _ => ?_
  cases first with
  | none => exact hOtherwise scope t
  | some s => rfl

theorem concatAll_eq_ok_congr {α : Type} {f g : α → Except EvalError String}
    (h : ∀ a s, f a = .ok s ↔ g a = .ok s) (items : List α) (t : String) :
    concatAll f items = .ok t ↔ concatAll g items = .ok t := by
  induction items generalizing t with
  | nil => rfl
  | cons a rest ih => simp only [concatAll, bind_eq_ok, h, ih]

theorem loopItems_line (scope : Scope) (source : String) (line line' : Nat) (items : List String) :
    loopItems scope source line = .ok items ↔ loopItems scope source line' = .ok items := by
  rw [loopItems, loopItems]
  split
  · rfl
  · rfl
  · exact ⟨nofun, nofun⟩

theorem SameOutcome.loop (hBody : SameOutcome evalNodes m m') (binding source : String)
    (line line' : Nat) :
    SameOutcome evalNode (.loop binding source line m) (.loop binding source line' m') := by
  intro scope t
  simp only [evalNode, bind_eq_ok, loopItems_line scope source line line']
  refine exists_congr fun items => and_congr_right fun _ => ?_
  exact concatAll_eq_ok_congr (fun item s => hBody _ s) items t

end Trees

section Builders

/-- Blocks of one kind whose conditions and branches have the same outcome. -/
inductive Block.Alike : Block → Block → Prop
  | branch {o o' : Nat} {closed closed' : List Branch} {c c' : Condition} :
      SameOutcome evalBranches closed closed' → SameOutcome evalCondition c c' →
      Alike (.branch o closed c) (.branch o' closed' c')
  | otherwise {o o' : Nat} {branches branches' : List Branch} :
      SameOutcome evalBranches branches branches' →
      Alike (.otherwise o branches) (.otherwise o' branches')
  | loop {o o' : Nat} {binding source : String} {line line' : Nat} :
      Alike (.loop o binding source line) (.loop o' binding source line')

/-- Rows of nodes of the same outcome, both kept last node first. -/
def SameReversed (m n : List Node) : Prop :=
  SameOutcome evalNodes m.reverse n.reverse

structure Builder.Alike (b c : Builder) : Prop where
  nodes : SameReversed b.nodes c.nodes
  blocks : List.Forall₂ (fun x y => x.1.Alike y.1 ∧ SameReversed x.2 y.2) b.blocks c.blocks

variable {b b' c : Builder} {m n : List Node}

theorem SameReversed.cons {x y : Node} (hBack : SameReversed m n) (h : SameOutcome evalNode x y) :
    SameReversed (x :: m) (y :: n) := by
  rw [SameReversed, List.reverse_cons, List.reverse_cons]
  exact hBack.append h.singleton

theorem Builder.Alike.add {x y : Node} (h : b.Alike c) (hNode : SameOutcome evalNode x y) :
    (b.add x).Alike (c.add y) :=
  ⟨h.nodes.cons hNode, h.blocks⟩

theorem Builder.Alike.openBlock {x y : Block} (h : b.Alike c) (hBlock : x.Alike y) :
    (b.openBlock x).Alike (c.openBlock y) :=
  ⟨.refl [], .cons ⟨hBlock, h.nodes⟩ h.blocks⟩

theorem exists_step {opened opened' line : Nat} {x : Terminal} (hStep : Builder.Step opened b x b')
    (h : b.Alike c) : ∃ c', Builder.Step opened' c (x.atLine line) c' ∧ b'.Alike c' := by
  obtain ⟨built, blocks⟩ := c
  obtain ⟨hNodes, hBlocks⟩ := h
  cases hStep with
  | text => exact ⟨_, .text, .add ⟨hNodes, hBlocks⟩ (.refl _)⟩
  | @output _ e =>
    have hOutput : SameOutcome evalNode (.output e) (.output (e.atLine line)) :=
      e.sameOutcome_atLine line
    exact ⟨_, .output, .add ⟨hNodes, hBlocks⟩ hOutput⟩
  | @opensConditional _ c =>
    have hBlock : Block.Alike (.branch opened [] c) (.branch opened' [] (c.atLine line)) :=
      .branch (.refl []) (c.sameOutcome_atLine line)
    exact ⟨_, .opensConditional, .openBlock ⟨hNodes, hBlocks⟩ hBlock⟩
  | opensLoop => exact ⟨_, .opensLoop, .openBlock ⟨hNodes, hBlocks⟩ .loop⟩
  | @alternative _ _ _ _ _ next =>
    obtain ⟨⟨_, _⟩, _, ⟨hBlock, hOuter⟩, hRest, rfl⟩ := List.forall₂_cons_left_iff.mp hBlocks
    cases hBlock with
    | branch hClosed hCondition =>
      have hNext := next.sameOutcome_atLine line
      exact ⟨_, .alternative, .refl [],
        .cons ⟨.branch (hClosed.branch hCondition hNodes) hNext, hOuter⟩ hRest⟩
  | otherwise =>
    obtain ⟨⟨_, _⟩, _, ⟨hBlock, hOuter⟩, hRest, rfl⟩ := List.forall₂_cons_left_iff.mp hBlocks
    cases hBlock with
    | branch hClosed hCondition =>
      exact ⟨_, .otherwise, .refl [],
        .cons ⟨.otherwise (hClosed.branch hCondition hNodes), hOuter⟩ hRest⟩
  | closesBranch =>
    obtain ⟨⟨_, _⟩, _, ⟨hBlock, hOuter⟩, hRest, rfl⟩ := List.forall₂_cons_left_iff.mp hBlocks
    cases hBlock with
    | branch hClosed hCondition =>
      have hBranches := hClosed.branch hCondition hNodes
      exact ⟨_, .closesBranch, hOuter.cons (.conditional hBranches (.refl [])), hRest⟩
  | closesOtherwise =>
    obtain ⟨⟨_, _⟩, _, ⟨hBlock, hOuter⟩, hRest, rfl⟩ := List.forall₂_cons_left_iff.mp hBlocks
    cases hBlock with
    | otherwise hBranches =>
      exact ⟨_, .closesOtherwise, hOuter.cons (.conditional hBranches hNodes), hRest⟩
  | closesLoop =>
    obtain ⟨⟨_, _⟩, _, ⟨hBlock, hOuter⟩, hRest, rfl⟩ := List.forall₂_cons_left_iff.mp hBlocks
    cases hBlock with
    | loop => exact ⟨_, .closesLoop, hOuter.cons (.loop hNodes _ _ _ _), hRest⟩

/-- Alike builders make trees of the same outcome from tokens of the same parts. -/
theorem exists_tree_of_same_parts {lineOf : Nat → Nat} (lineOf' : Nat → Nat)
    {tokens tokens' : List Token} (hBuilders : b.Alike c)
    (hParts : tokens.map Token.part = tokens'.map Token.part)
    (h : b.addTokens lineOf tokens = .ok ⟨m.reverse, []⟩) :
    ∃ n, c.addTokens lineOf' tokens' = .ok ⟨n.reverse, []⟩ ∧ SameOutcome evalNodes m n := by
  induction tokens generalizing b c tokens' with
  | nil =>
    obtain rfl := List.map_eq_nil_iff.mp hParts.symm
    obtain rfl := Except.ok.inj h
    obtain ⟨hNodes, hBlocks⟩ := hBuilders
    obtain ⟨built, blocks⟩ := c
    cases hBlocks
    rw [SameReversed, List.reverse_reverse] at hNodes
    refine ⟨built.reverse, ?_, hNodes⟩
    rw [List.reverse_reverse]
    rfl
  | cons t rest ih =>
    obtain ⟨t', rest', rfl, hFirst, hRest⟩ := List.map_eq_cons_iff.mp hParts.symm
    obtain ⟨x, mid, hx, hStep, hMore⟩ := Builder.addTokens_cons_eq_ok_iff.mp h
    obtain ⟨_, hy, line, rfl⟩ := (terminal_moved hFirst.symm lineOf lineOf').exists_ok hx
    obtain ⟨mid', hStep', hMid⟩ := exists_step hStep hBuilders
    obtain ⟨n, hTokens, hSame⟩ := ih hMid hRest.symm hMore
    exact ⟨n, Builder.addTokens_step hy hStep' hTokens, hSame⟩

theorem Block.Alike.refl (block : Block) : block.Alike block := by
  cases block with
  | branch => exact .branch (.refl _) (.refl _)
  | otherwise => exact .otherwise (.refl _)
  | loop => exact .loop

theorem Builder.Alike.of_nodes (h : SameReversed m n) (blocks : List (Block × List Node)) :
    Builder.Alike ⟨m, blocks⟩ ⟨n, blocks⟩ :=
  ⟨h, List.forall₂_same.mpr fun x _ => ⟨.refl x.1, .refl x.2.reverse⟩⟩

theorem Builder.Alike.refl (b : Builder) : b.Alike b :=
  .of_nodes (.refl _) b.blocks

theorem sameReversed_text_append (s t : List Char) (nodes : List Node) :
    SameReversed (.text (String.ofList t) :: .text (String.ofList s) :: nodes)
      (.text (String.ofList (s ++ t)) :: nodes) := by
  have hJoined : SameOutcome evalNodes [.text (String.ofList s), .text (String.ofList t)]
      [.text (String.ofList (s ++ t))] := by
    intro scope r
    simp [evalNodes, evalNode, bind_eq_ok, String.ofList_append]
  rw [SameReversed, List.reverse_cons, List.reverse_cons, List.append_assoc, List.reverse_cons]
  exact .append (.refl _) hJoined

/-- Merging texts does not change the outcome. -/
theorem exists_tree_of_merged {lineOf : Nat → Nat} (lineOf' : Nat → Nat)
    {tokens tokens' : List Token} (hMerged : tokens'.map Token.part = merge (tokens.map Token.part))
    (h : b.addTokens lineOf tokens = .ok ⟨m.reverse, []⟩) :
    ∃ n, b.addTokens lineOf' tokens' = .ok ⟨n.reverse, []⟩ ∧ SameOutcome evalNodes m n := by
  induction tokens generalizing b tokens' with
  | nil =>
    obtain rfl := List.map_eq_nil_iff.mp hMerged
    exact ⟨m, h, .refl m⟩
  | cons t rest ih =>
    obtain ⟨x, mid, hx, hStep, hMore⟩ := Builder.addTokens_cons_eq_ok_iff.mp h
    rw [List.map_cons, merge_cons] at hMerged
    obtain ⟨s, u, more, hText, hRest, hJoined⟩ | ⟨hApart, -⟩ :=
      addTo_cases t.part (merge (rest.map Token.part))
    · -- The joined text is cut again for the rest of the tokens.
      rw [hJoined] at hMerged
      obtain ⟨t', rest', rfl, hFirst, rfl⟩ := List.map_eq_cons_iff.mp hMerged
      cases t <;> cases hText
      cases t' <;> cases hFirst
      cases hx
      cases hStep
      have hCut : (.text u :: rest').map Token.part = merge (rest.map Token.part) := hRest.symm
      obtain ⟨k, hTokens, hSame⟩ := ih hCut hMore
      obtain ⟨n, hTokens', hSame'⟩ := exists_tree_of_same_parts lineOf'
        (.of_nodes (sameReversed_text_append s u b.nodes) b.blocks) rfl hTokens
      exact ⟨n, hTokens', hSame.trans hSame'⟩
    · rw [hApart] at hMerged
      obtain ⟨t', rest', rfl, hFirst, hRest⟩ := List.map_eq_cons_iff.mp hMerged
      obtain ⟨_, hy, line, rfl⟩ := (terminal_moved hFirst.symm lineOf lineOf').exists_ok hx
      obtain ⟨mid', hStep', hMid⟩ := exists_step hStep (.refl b)
      obtain ⟨k, hTokens, hSame⟩ := ih hRest hMore
      obtain ⟨n, hTokens', hSame'⟩ := exists_tree_of_same_parts lineOf' hMid rfl hTokens
      exact ⟨n, Builder.addTokens_step hy hStep' hTokens', hSame.trans hSame'⟩

end Builders

/-- The numbering of the lines does not change the outcome. -/
theorem nodesOfTokens_renumbered {lineOf : Nat → Nat} (lineOf' : Nat → Nat) {tokens : List Token}
    {nodes : List Node} (h : nodesOfTokens lineOf tokens = .ok nodes) :
    ∃ nodes', nodesOfTokens lineOf' tokens = .ok nodes' ∧ SameOutcome evalNodes nodes nodes' := by
  simp only [nodesOfTokens_eq_ok_iff] at h ⊢
  exact exists_tree_of_same_parts lineOf' (.refl Builder.start) rfl h

theorem nodesOfTokens_of_merged {lineOf : Nat → Nat} {tokens tokens' : List Token}
    {nodes : List Node} (hMerged : tokens'.map Token.part = merge (tokens.map Token.part))
    (h : nodesOfTokens lineOf tokens = .ok nodes) :
    ∃ nodes', nodesOfTokens lineOf tokens' = .ok nodes' ∧ SameOutcome evalNodes nodes nodes' := by
  simp only [nodesOfTokens_eq_ok_iff] at h ⊢
  exact exists_tree_of_merged lineOf hMerged h

end Boilerplate.Template
