import Boilerplate.Proofs.Data.Outcome
import Boilerplate.Proofs.Template.Grammar

/-! # Steps of the builder

A token that is well formed on its own says one terminal, and the builder takes a step for it.
Reading a row of tokens is a run of such steps.
-/

namespace Boilerplate.Template

def Token.opened : Token → Nat
  | .text _ => 0
  | .output opened _ => opened
  | .statement opened _ => opened

namespace Builder

/-- All that a terminal can do to a builder; `opened` is where its tag stands. -/
inductive Step (opened : Nat) : Builder → Terminal → Builder → Prop
  | text {b : Builder} {s : String} : Step opened b (.text s) (b.add (.text s))
  | output {b : Builder} {e : Expression} : Step opened b (.output e) (b.add (.output e))
  | opensConditional {b : Builder} {c : Condition} :
      Step opened b (.opensConditional c) (b.openBlock (.branch opened [] c))
  | opensLoop {b : Builder} {binding source : String} {line : Nat} :
      Step opened b (.opensLoop binding source line)
        (b.openBlock (.loop opened binding source line))
  | alternative {nodes outer : List Node} {o : Nat} {closed : List Branch} {c next : Condition}
      {blocks : List (Block × List Node)} :
      Step opened ⟨nodes, (.branch o closed c, outer) :: blocks⟩ (.alternative next)
        ⟨[], (.branch o (closed ++ [(c, nodes.reverse)]) next, outer) :: blocks⟩
  | otherwise {nodes outer : List Node} {o : Nat} {closed : List Branch} {c : Condition}
      {blocks : List (Block × List Node)} :
      Step opened ⟨nodes, (.branch o closed c, outer) :: blocks⟩ .otherwise
        ⟨[], (.otherwise o (closed ++ [(c, nodes.reverse)]), outer) :: blocks⟩
  | closesBranch {nodes outer : List Node} {o : Nat} {closed : List Branch} {c : Condition}
      {blocks : List (Block × List Node)} :
      Step opened ⟨nodes, (.branch o closed c, outer) :: blocks⟩ .closesConditional
        ⟨.conditional (closed ++ [(c, nodes.reverse)]) [] :: outer, blocks⟩
  | closesOtherwise {nodes outer : List Node} {o : Nat} {branches : List Branch}
      {blocks : List (Block × List Node)} :
      Step opened ⟨nodes, (.otherwise o branches, outer) :: blocks⟩ .closesConditional
        ⟨.conditional branches nodes.reverse :: outer, blocks⟩
  | closesLoop {nodes outer : List Node} {o : Nat} {binding source : String} {line : Nat}
      {blocks : List (Block × List Node)} :
      Step opened ⟨nodes, (.loop o binding source line, outer) :: blocks⟩ .closesLoop
        ⟨.loop binding source line nodes.reverse :: outer, blocks⟩

variable {lineOf : Nat → Nat} {b b' : Builder} {t : Token} {tokens : List Token} {opened : Nat}

theorem continueBlock_eq_ok {s : Statement} (line : Nat) (h : b.continueBlock opened s = .ok b') :
    Step opened b (s.terminal line) b' := by
  obtain ⟨nodes, blocks⟩ := b
  rw [continueBlock.eq_def] at h
  cases blocks with
  | nil => cases h
  | cons top blocks =>
    obtain ⟨block, outer⟩ := top
    cases block with
    | branch o closed c =>
      cases s with
      | alternative | otherwise | closesConditional =>
        obtain rfl := Except.ok.inj h
        constructor
      | _ => cases h
    | otherwise o branches =>
      cases s with
      | closesConditional =>
        obtain rfl := Except.ok.inj h
        constructor
      | _ => cases h
    | loop o binding source line =>
      cases s with
      | closesLoop =>
        obtain rfl := Except.ok.inj h
        constructor
      | _ => cases h

theorem addStatement_eq_ok_iff {s : Statement} :
    b.addStatement lineOf opened s = .ok b' ↔ Step opened b (s.terminal (lineOf opened)) b' := by
  constructor
  · intro h
    cases s with
    | opensConditional c =>
      obtain rfl := Except.ok.inj h
      exact .opensConditional
    | opensLoop binding source =>
      obtain rfl := Except.ok.inj h
      exact .opensLoop
    | _ => exact continueBlock_eq_ok (lineOf opened) h
  · intro h
    generalize hx : s.terminal (lineOf opened) = x at h
    cases h <;> cases s <;> cases hx <;> rfl

theorem addToken_eq_ok_iff :
    b.addToken lineOf t = .ok b' ↔ ∃ x, t.terminal lineOf = .ok x ∧ Step t.opened b x b' := by
  cases t with
  | text s =>
    constructor
    · intro h
      obtain rfl := Except.ok.inj h
      exact ⟨_, rfl, .text⟩
    · rintro ⟨x, hx, hStep⟩
      cases hx
      cases hStep
      rfl
  | output o body =>
    rw [addToken, bind_eq_ok, Token.terminal]
    constructor
    · rintro ⟨e, he, h⟩
      obtain rfl := Except.ok.inj h
      exact ⟨_, map_eq_ok.mpr ⟨e, he, rfl⟩, .output⟩
    · rintro ⟨x, hx, hStep⟩
      obtain ⟨e, he, rfl⟩ := map_eq_ok.mp hx
      cases hStep
      exact ⟨e, he, rfl⟩
  | statement o body =>
    rw [addToken, bind_eq_ok, Token.terminal]
    constructor
    · rintro ⟨s, hs, h⟩
      exact ⟨_, map_eq_ok.mpr ⟨s, hs, rfl⟩, addStatement_eq_ok_iff.mp h⟩
    · rintro ⟨x, hx, hStep⟩
      obtain ⟨s, hs, rfl⟩ := map_eq_ok.mp hx
      exact ⟨s, hs, addStatement_eq_ok_iff.mpr hStep⟩

theorem addTokens_cons_eq_ok_iff :
    b.addTokens lineOf (t :: tokens) = .ok b' ↔
      ∃ x mid, t.terminal lineOf = .ok x ∧ Step t.opened b x mid ∧
        mid.addTokens lineOf tokens = .ok b' := by
  rw [addTokens, bind_eq_ok]
  constructor
  · rintro ⟨mid, hFirst, hRest⟩
    obtain ⟨x, hx, hStep⟩ := addToken_eq_ok_iff.mp hFirst
    exact ⟨x, mid, hx, hStep, hRest⟩
  · rintro ⟨x, mid, hx, hStep, hRest⟩
    exact ⟨mid, addToken_eq_ok_iff.mpr ⟨x, hx, hStep⟩, hRest⟩

/-- The terminal of a token makes a step, and the tokens behind it do the rest. -/
theorem addTokens_step {mid : Builder} {x : Terminal} (hx : t.terminal lineOf = .ok x)
    (hStep : Step t.opened b x mid) (hRest : mid.addTokens lineOf tokens = .ok b') :
    b.addTokens lineOf (t :: tokens) = .ok b' :=
  addTokens_cons_eq_ok_iff.mpr ⟨x, mid, hx, hStep, hRest⟩

theorem addTokens_append_eq_ok_iff {more : List Token} :
    b.addTokens lineOf (tokens ++ more) = .ok b' ↔
      ∃ mid, b.addTokens lineOf tokens = .ok mid ∧ mid.addTokens lineOf more = .ok b' := by
  induction tokens generalizing b with
  | nil =>
    constructor
    · exact fun h => ⟨b, rfl, h⟩
    · rintro ⟨mid, hMid, h⟩
      cases hMid
      exact h
  | cons t rest ih =>
    rw [List.cons_append, addTokens_cons_eq_ok_iff]
    simp only [ih, addTokens_cons_eq_ok_iff]
    constructor
    · rintro ⟨x, first, hx, hStep, mid, hRest, hMore⟩
      exact ⟨mid, ⟨x, first, hx, hStep, hRest⟩, hMore⟩
    · rintro ⟨mid, ⟨x, first, hx, hStep, hRest⟩, hMore⟩
      exact ⟨x, first, hx, hStep, mid, hRest, hMore⟩

theorem finish_eq_ok_iff {nodes : List Node} :
    b.finish = .ok nodes ↔ b = ⟨nodes.reverse, []⟩ := by
  obtain ⟨reversed, blocks⟩ := b
  cases blocks with
  | nil => simp [finish, List.reverse_eq_iff]
  | cons => simp [finish]

end Builder

theorem nodesOfTokens_eq_ok_iff {lineOf : Nat → Nat} {tokens : List Token} {nodes : List Node} :
    nodesOfTokens lineOf tokens = .ok nodes ↔
      Builder.start.addTokens lineOf tokens = .ok ⟨nodes.reverse, []⟩ := by
  rw [nodesOfTokens, bind_eq_ok]
  simp only [Builder.finish_eq_ok_iff]
  constructor
  · rintro ⟨_, hTokens, rfl⟩
    exact hTokens
  · exact fun hTokens => ⟨_, hTokens, rfl⟩

end Boilerplate.Template
