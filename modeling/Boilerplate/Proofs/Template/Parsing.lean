import Boilerplate.Proofs.Template.Building

/-! # Trees of blocks

A row of tokens has a tree just when each of them is well formed on its own and what they say is a
block. The tree read back is what they say, but for each `else` without a body.
-/

namespace Boilerplate.Template

section Soundness

variable {lineOf : Nat → Nat} {xs zs ending : List Terminal} {blocks : List Block} {x : Terminal}
  {opened : Nat} {b b' : Builder}

/-- What closes a block, once its innermost body is read. -/
def Block.ClosedBy : Block → List Terminal → Prop
  | .branch _ _ _, ending => Derives .ending ending
  | .otherwise _ _, ending => ending = [.closesConditional]
  | .loop _ _ _ _, ending => ending = [.closesLoop]

/-- `xs` closes all open blocks, the innermost first, and is a block beyond them. -/
def Completes : List Block → List Terminal → Prop
  | [], xs => Derives .block xs
  | block :: blocks, xs => ∃ body ending rest, xs = body ++ (ending ++ rest) ∧
      Derives .block body ∧ block.ClosedBy ending ∧ Completes blocks rest

theorem Completes.append {front : List Terminal} (hFront : Derives .block front)
    (h : Completes blocks xs) : Completes blocks (front ++ xs) := by
  cases blocks with
  | nil => exact hFront.append rfl h
  | cons block blocks =>
    obtain ⟨body, ending, rest, rfl, hBody, hEnding, hRest⟩ := h
    refine ⟨front ++ body, ending, rest, ?_, hFront.append rfl hBody, hEnding, hRest⟩
    rw [List.append_assoc]

theorem Completes.closing (block : Block) (hEnding : block.ClosedBy ending)
    (h : Completes blocks xs) : Completes (block :: blocks) (ending ++ xs) :=
  ⟨[], ending, xs, rfl, .nil, hEnding, h⟩

/-- Read backwards, a step puts its terminal in front of what completes the open blocks. -/
theorem Completes.of_step (hStep : Builder.Step opened b x b')
    (h : Completes (b'.blocks.map (·.1)) xs) : Completes (b.blocks.map (·.1)) (x :: xs) := by
  cases hStep with
  | @text b s =>
    have hFront : Derives .block [.text s] := .text .nil
    exact h.append hFront
  | @output b e =>
    have hFront : Derives .block [.output e] := .output .nil
    exact h.append hFront
  | @opensConditional b c =>
    obtain ⟨body, ending, rest, rfl, hBody, hEnding, hRest⟩ := h
    have hFront : Derives .block (.opensConditional c :: (body ++ ending)) := by
      simpa using Derives.conditional hBody hEnding .nil
    simpa using hRest.append hFront
  | @opensLoop b binding source line =>
    obtain ⟨body, ending, rest, rfl, hBody, rfl, hRest⟩ := h
    have hFront : Derives .block (.opensLoop binding source line :: (body ++ [.closesLoop])) :=
      .loop hBody .nil
    simpa using hRest.append hFront
  | @alternative nodes outer o closed c next blocks =>
    obtain ⟨body, ending, rest, rfl, hBody, hEnding, hRest⟩ := h
    rw [← List.append_assoc]
    exact .closing (.branch o closed c) (.alternative hBody hEnding) hRest
  | @otherwise nodes outer o closed c blocks =>
    obtain ⟨body, ending, rest, rfl, hBody, rfl, hRest⟩ := h
    rw [← List.append_assoc]
    exact .closing (.branch o closed c) (.otherwise hBody) hRest
  | @closesBranch nodes outer o closed c blocks =>
    exact .closing (.branch o closed c) Derives.close h
  | @closesOtherwise nodes outer o branches blocks =>
    exact .closing (.otherwise o branches) rfl h
  | @closesLoop nodes outer o binding source line blocks =>
    exact .closing (.loop o binding source line) rfl h

/-- What completes the open blocks starts with a block, or goes on with the innermost open one. -/
theorem Completes.cons_cases (h : Completes blocks (x :: zs)) :
    (∃ body rest, Derives .block (x :: body) ∧ zs = body ++ rest ∧ Completes blocks rest) ∨
      ∃ block outer more rest, blocks = block :: outer ∧ block.ClosedBy (x :: more) ∧
        zs = more ++ rest ∧ Completes outer rest := by
  cases blocks with
  | nil => exact .inl ⟨zs, [], h, (List.append_nil zs).symm, .nil⟩
  | cons block outer =>
    obtain ⟨body, ending, rest, hWords, hBody, hEnding, hRest⟩ := h
    cases body with
    | cons y body =>
      obtain ⟨rfl, rfl⟩ := List.cons.inj hWords
      exact .inl ⟨body, ending ++ rest, hBody, rfl, .closing block hEnding hRest⟩
    | nil =>
      cases ending with
      | nil => cases block <;> cases hEnding
      | cons y more =>
        obtain ⟨rfl, rfl⟩ := List.cons.inj hWords
        exact .inr ⟨block, outer, more, rest, rfl, hEnding, rfl, hRest⟩

/-- Read forwards, the step takes it off again. -/
theorem Completes.step (hStep : Builder.Step opened b x b')
    (h : Completes (b.blocks.map (·.1)) (x :: zs)) : Completes (b'.blocks.map (·.1)) zs := by
  obtain ⟨body, rest, hBlock, rfl, hRest⟩ |
    ⟨block, outer, more, rest, hBlocks, hEnding, rfl, hRest⟩ := h.cons_cases
  · cases hStep with
    | text =>
      cases hBlock with
      | text hBody => exact hRest.append hBody
    | output =>
      cases hBlock with
      | output hBody => exact hRest.append hBody
    | opensConditional =>
      cases hBlock with
      | @conditional _ body ending more hBody hEnding hMore =>
        exact ⟨body, ending, more ++ rest, by simp, hBody, hEnding, hRest.append hMore⟩
    | opensLoop =>
      cases hBlock with
      | @loop _ _ _ body more hBody hMore =>
        exact ⟨body, [.closesLoop], more ++ rest, by simp, hBody, rfl, hRest.append hMore⟩
    | alternative | otherwise | closesBranch | closesOtherwise | closesLoop => cases hBlock
  · cases hStep with
    | text | output | opensConditional | opensLoop => cases block <;> cases hEnding
    | alternative =>
      obtain ⟨rfl, rfl⟩ := List.cons.inj hBlocks
      cases hEnding with
      | @alternative _ body ending hBody hMore =>
        exact ⟨body, ending, rest, List.append_assoc _ _ _, hBody, hMore, hRest⟩
    | otherwise =>
      obtain ⟨rfl, rfl⟩ := List.cons.inj hBlocks
      cases hEnding with
      | @otherwise body hBody =>
        exact ⟨body, [.closesConditional], rest, List.append_assoc _ _ _, hBody, rfl, hRest⟩
    | closesBranch | closesOtherwise | closesLoop =>
      obtain ⟨rfl, rfl⟩ := List.cons.inj hBlocks
      cases hEnding
      exact hRest

/-- Behind what tokens say, just that which completes the blocks they leave open completes a block.
-/
theorem completes_iff_of_addTokens {tokens : List Token}
    (h : b.addTokens lineOf tokens = .ok b') :
    ∃ xs, Says lineOf tokens xs ∧ ∀ zs,
      Completes (b.blocks.map (·.1)) (xs ++ zs) ↔ Completes (b'.blocks.map (·.1)) zs := by
  induction tokens generalizing b with
  | nil =>
    obtain rfl := Except.ok.inj h
    exact ⟨[], .nil, fun _ => Iff.rfl⟩
  | cons t rest ih =>
    obtain ⟨x, mid, hx, hStep, hRest⟩ := Builder.addTokens_cons_eq_ok_iff.mp h
    obtain ⟨xs, hSays, hCompletes⟩ := ih hRest
    refine ⟨x :: xs, List.Forall₂.cons hx hSays, fun zs => ?_⟩
    rw [← hCompletes zs]
    exact ⟨.step hStep, .of_step hStep⟩

theorem derives_of_nodesOfTokens {tokens : List Token} {nodes : List Node}
    (h : nodesOfTokens lineOf tokens = .ok nodes) :
    ∃ xs, Says lineOf tokens xs ∧ Derives .block xs := by
  obtain ⟨xs, hSays, hCompletes⟩ := completes_iff_of_addTokens (nodesOfTokens_eq_ok_iff.mp h)
  have hBlock : Derives .block (xs ++ []) := (hCompletes []).mpr .nil
  rw [List.append_nil] at hBlock
  exact ⟨xs, hSays, hBlock⟩

end Soundness

section Completeness

variable {lineOf : Nat → Nat} {t : Token} {tokens more rest : List Token} {x : Terminal}
  {xs ys body ending : List Terminal}

theorem Says.split (h : Says lineOf tokens (xs ++ ys)) :
    ∃ front back, tokens = front ++ back ∧ Says lineOf front xs ∧ Says lineOf back ys :=
  ⟨tokens.take xs.length, tokens.drop xs.length, (List.take_append_drop _ _).symm,
    List.forall₂_take_append _ _ _ h, List.forall₂_drop_append _ _ _ h⟩

/-- What the tokens of a phrase do to a builder. A block adds nodes and leaves what is open as it
is. An ending closes the conditional whose first body has been read. -/
def Builds (lineOf : Nat → Nat) (tokens : List Token) : Phrase → List Terminal → Prop
  | .block, xs => ∃ nodes, terminalsOfNodes nodes = dropEmptyElse xs ∧
      ∀ b : Builder, b.addTokens lineOf tokens = .ok ⟨nodes.reverse ++ b.nodes, b.blocks⟩
  | .ending, xs => ∃ branches otherwise,
      terminalsOfBranches .alternative branches ++
        (elsePart (terminalsOfNodes otherwise) ++ [.closesConditional]) = dropEmptyElse xs ∧
      ∀ nodes outer o closed c blocks,
        Builder.addTokens lineOf ⟨nodes, (.branch o closed c, outer) :: blocks⟩ tokens =
          .ok ⟨.conditional (closed ++ (c, nodes.reverse) :: branches) otherwise :: outer, blocks⟩

theorem Builds.cons {n : Node} (hFront : ∀ b : Builder, b.addTokens lineOf tokens = .ok (b.add n))
    (hRead : terminalsOfNode n ++ dropEmptyElse ys = dropEmptyElse xs)
    (h : Builds lineOf more .block ys) : Builds lineOf (tokens ++ more) .block xs := by
  obtain ⟨nodes, hNodes, hBuild⟩ := h
  refine ⟨n :: nodes, ?_, fun b => ?_⟩
  · rw [terminalsOfNodes, hNodes, hRead]
  · rw [Builder.addTokens_append_eq_ok_iff]
    refine ⟨b.add n, hFront b, ?_⟩
    rw [hBuild]
    simp [Builder.add]

/-- A token that adds a node of its own, in front of the rest of a block. -/
theorem Builds.leaf {n : Node} (hx : t.terminal lineOf = .ok x)
    (hStep : ∀ b : Builder, Builder.Step t.opened b x (b.add n)) (hRead : terminalsOfNode n = [x])
    (hKept : x ≠ .otherwise) (h : Builds lineOf tokens .block xs) :
    Builds lineOf (t :: tokens) .block (x :: xs) := by
  have hFront : ∀ b : Builder, b.addTokens lineOf [t] = .ok (b.add n) :=
    fun b => Builder.addTokens_step hx (hStep b) rfl
  refine h.cons hFront ?_
  rw [dropEmptyElse_cons hKept, hRead, List.singleton_append]

theorem Builds.conditional {c : Condition} (hx : t.terminal lineOf = .ok (.opensConditional c))
    (hBody : Derives .block body) (hEnding : Derives .ending ending)
    (hTokens : Builds lineOf tokens .block body) (hMore : Builds lineOf more .ending ending)
    (hRest : Builds lineOf rest .block xs) :
    Builds lineOf (t :: (tokens ++ more) ++ rest) .block
      (.opensConditional c :: (body ++ (ending ++ xs))) := by
  obtain ⟨nodes, hNodes, hBuild⟩ := hTokens
  obtain ⟨branches, otherwise, hBranches, hClose⟩ := hMore
  have hFront : ∀ b : Builder, b.addTokens lineOf (t :: (tokens ++ more)) =
      .ok (b.add (.conditional ((c, nodes) :: branches) otherwise)) := by
    intro b
    refine Builder.addTokens_step hx .opensConditional ?_
    rw [Builder.addTokens_append_eq_ok_iff]
    refine ⟨_, hBuild _, ?_⟩
    rw [Builder.openBlock, hClose]
    simp [Builder.add]
  refine hRest.cons hFront ?_
  rw [dropEmptyElse_cons (by nofun), dropEmptyElse_append hBody, dropEmptyElse_append hEnding,
    terminalsOfNode, terminalsOfBranches, hNodes, ← hBranches]
  simp

theorem Builds.loop {binding source : String} {line : Nat} {close : Token}
    (hx : t.terminal lineOf = .ok (.opensLoop binding source line))
    (hClose : close.terminal lineOf = .ok .closesLoop) (hBody : Derives .block body)
    (hTokens : Builds lineOf tokens .block body) (hRest : Builds lineOf rest .block xs) :
    Builds lineOf (t :: (tokens ++ [close]) ++ rest) .block
      (.opensLoop binding source line :: (body ++ .closesLoop :: xs)) := by
  obtain ⟨nodes, hNodes, hBuild⟩ := hTokens
  have hFront : ∀ b : Builder, b.addTokens lineOf (t :: (tokens ++ [close])) =
      .ok (b.add (.loop binding source line nodes)) := by
    intro b
    refine Builder.addTokens_step hx .opensLoop ?_
    rw [Builder.addTokens_append_eq_ok_iff]
    refine ⟨_, hBuild _, ?_⟩
    refine Builder.addTokens_step hClose .closesLoop ?_
    simp [Builder.add, Builder.openBlock, Builder.addTokens]
  refine hRest.cons hFront ?_
  rw [dropEmptyElse_cons (by simp), dropEmptyElse_append hBody, dropEmptyElse_cons (by simp),
    terminalsOfNode, hNodes]
  simp

theorem Builds.alternative {c : Condition} (hx : t.terminal lineOf = .ok (.alternative c))
    (hBody : Derives .block body) (hTokens : Builds lineOf tokens .block body)
    (hMore : Builds lineOf more .ending ending) :
    Builds lineOf (t :: (tokens ++ more)) .ending (.alternative c :: (body ++ ending)) := by
  obtain ⟨nodes, hNodes, hBuild⟩ := hTokens
  obtain ⟨branches, otherwise, hBranches, hClose⟩ := hMore
  refine ⟨(c, nodes) :: branches, otherwise, ?_, ?_⟩
  · rw [dropEmptyElse_cons (by nofun), dropEmptyElse_append hBody, ← hBranches,
      terminalsOfBranches, hNodes]
    simp
  · intro before outer o closed first blocks
    refine Builder.addTokens_step hx .alternative ?_
    rw [Builder.addTokens_append_eq_ok_iff]
    refine ⟨_, hBuild _, ?_⟩
    rw [hClose]
    simp

theorem Builds.otherwise {close : Token} (hx : t.terminal lineOf = .ok .otherwise)
    (hClose : close.terminal lineOf = .ok .closesConditional) (hBody : Derives .block body)
    (hTokens : Builds lineOf tokens .block body) :
    Builds lineOf (t :: (tokens ++ [close])) .ending
      (.otherwise :: (body ++ [.closesConditional])) := by
  obtain ⟨nodes, hNodes, hBuild⟩ := hTokens
  refine ⟨[], nodes, ?_, ?_⟩
  · rw [dropEmptyElse_otherwise hBody (dropEmptyElse_append hBody), terminalsOfBranches, hNodes,
      dropEmptyElse, List.nil_append]
  · intro before outer o closed first blocks
    refine Builder.addTokens_step hx .otherwise ?_
    rw [Builder.addTokens_append_eq_ok_iff]
    refine ⟨_, hBuild _, ?_⟩
    refine Builder.addTokens_step hClose .closesOtherwise ?_
    simp [Builder.addTokens]

theorem Builds.close (hx : t.terminal lineOf = .ok .closesConditional) :
    Builds lineOf [t] .ending [.closesConditional] :=
  ⟨[], [], rfl, fun _ _ _ _ _ _ => Builder.addTokens_step hx .closesBranch rfl⟩

theorem Says.cons (h : Says lineOf tokens (x :: xs)) :
    ∃ t rest, tokens = t :: rest ∧ t.terminal lineOf = .ok x ∧ Says lineOf rest xs := by
  cases h with
  | cons hx hRest => exact ⟨_, _, rfl, hx, hRest⟩

theorem Derives.builds {p : Phrase} (h : Derives p xs) (hSays : Says lineOf tokens xs) :
    Builds lineOf tokens p xs := by
  induction h generalizing tokens with
  | nil =>
    cases hSays
    exact ⟨[], rfl, fun b => rfl⟩
  | text _ ih =>
    obtain ⟨t, back, rfl, hx, hRest⟩ := hSays.cons
    exact (ih hRest).leaf hx (fun _ => .text) (by rw [terminalsOfNode]) nofun
  | output _ ih =>
    obtain ⟨t, back, rfl, hx, hRest⟩ := hSays.cons
    exact (ih hRest).leaf hx (fun _ => .output) (by rw [terminalsOfNode]) nofun
  | conditional hBody hEnding _ ihBody ihEnding ihRest =>
    obtain ⟨t, _, rfl, hx, hBack⟩ := hSays.cons
    obtain ⟨front, _, rfl, hFront, hBack⟩ := hBack.split
    obtain ⟨middle, back, rfl, hMiddle, hRest⟩ := hBack.split
    rw [← List.append_assoc]
    exact .conditional hx hBody hEnding (ihBody hFront) (ihEnding hMiddle) (ihRest hRest)
  | loop hBody _ ihBody ihRest =>
    obtain ⟨t, _, rfl, hx, hBack⟩ := hSays.cons
    obtain ⟨front, _, rfl, hFront, hBack⟩ := hBack.split
    obtain ⟨close, back, rfl, hClose, hRest⟩ := hBack.cons
    have hTokens : t :: (front ++ close :: back) = t :: (front ++ [close]) ++ back := by simp
    rw [hTokens]
    exact .loop hx hClose hBody (ihBody hFront) (ihRest hRest)
  | alternative hBody _ ihBody ihEnding =>
    obtain ⟨t, _, rfl, hx, hBack⟩ := hSays.cons
    obtain ⟨front, back, rfl, hFront, hMiddle⟩ := hBack.split
    exact .alternative hx hBody (ihBody hFront) (ihEnding hMiddle)
  | otherwise hBody ihBody =>
    obtain ⟨t, _, rfl, hx, hBack⟩ := hSays.cons
    obtain ⟨front, _, rfl, hFront, hBack⟩ := hBack.split
    obtain ⟨close, _, rfl, hClose, hNone⟩ := hBack.cons
    cases hNone
    exact .otherwise hx hClose hBody (ihBody hFront)
  | close =>
    obtain ⟨t, _, rfl, hx, hNone⟩ := hSays.cons
    cases hNone
    exact .close hx

theorem nodesOfTokens_of_addTokens {nodes : List Node}
    (h : ∀ b : Builder, b.addTokens lineOf tokens = .ok ⟨nodes.reverse ++ b.nodes, b.blocks⟩) :
    nodesOfTokens lineOf tokens = .ok nodes := by
  rw [nodesOfTokens_eq_ok_iff, h, Builder.start, List.append_nil]

/-- Tokens with a tree add its nodes wherever they stand. -/
theorem addTokens_of_nodesOfTokens {nodes : List Node}
    (h : nodesOfTokens lineOf tokens = .ok nodes) (b : Builder) :
    b.addTokens lineOf tokens = .ok ⟨nodes.reverse ++ b.nodes, b.blocks⟩ := by
  obtain ⟨xs, hSays, hBlock⟩ := derives_of_nodesOfTokens h
  obtain ⟨built, _, hBuild⟩ := hBlock.builds hSays
  rw [nodesOfTokens_of_addTokens hBuild] at h
  obtain rfl := Except.ok.inj h
  exact hBuild b

theorem nodesOfTokens_append {nodes others : List Node}
    (h : nodesOfTokens lineOf tokens = .ok nodes) (hMore : nodesOfTokens lineOf more = .ok others) :
    nodesOfTokens lineOf (tokens ++ more) = .ok (nodes ++ others) := by
  apply nodesOfTokens_of_addTokens
  intro b
  rw [Builder.addTokens_append_eq_ok_iff]
  refine ⟨_, addTokens_of_nodesOfTokens h b, ?_⟩
  rw [addTokens_of_nodesOfTokens hMore, List.reverse_append, List.append_assoc]

end Completeness

/-- Tokens have a tree just when each of them is well formed on its own and what they say is a
block. Read back, the tree is what they say without each `else` that has no body: everything else is
there once and in order. -/
theorem nodesOfTokens_agrees_with_grammar (lineOf : Nat → Nat) (tokens : List Token) :
    ((∃ nodes, nodesOfTokens lineOf tokens = .ok nodes) ↔
      ∃ xs, Says lineOf tokens xs ∧ Derives .block xs) ∧
    ∀ nodes, nodesOfTokens lineOf tokens = .ok nodes → ∃ xs, Says lineOf tokens xs ∧
      terminalsOfNodes nodes = dropEmptyElse xs ∧
      (terminalsOfNodes nodes).filter (· ≠ .otherwise) = xs.filter (· ≠ .otherwise) := by
  refine ⟨⟨?_, ?_⟩, ?_⟩
  · rintro ⟨nodes, h⟩
    exact derives_of_nodesOfTokens h
  · rintro ⟨xs, hSays, hBlock⟩
    obtain ⟨nodes, _, hBuild⟩ := hBlock.builds hSays
    exact ⟨nodes, nodesOfTokens_of_addTokens hBuild⟩
  · intro nodes h
    obtain ⟨xs, hSays, hBlock⟩ := derives_of_nodesOfTokens h
    obtain ⟨built, hRead, hBuild⟩ := hBlock.builds hSays
    rw [nodesOfTokens_of_addTokens hBuild] at h
    obtain rfl := Except.ok.inj h
    refine ⟨xs, hSays, hRead, ?_⟩
    rw [hRead, filter_dropEmptyElse]

/-- A conditional in a loop has an alternative and an `else` without a body. -/
theorem nodesOfTokens_agrees_with_grammar_of_empty_else :
    let tokens : List Token := [.statement 0 "for x in y".toList, .statement 14 "if x".toList,
      .text ['a'], .statement 23 "elif not z".toList, .output 37 " x | lower ".toList,
      .statement 53 "else".toList, .statement 61 "endif".toList, .statement 70 "endfor".toList]
    let read : List Terminal := [.opensLoop "x" "y" 1, .opensConditional ⟨false, "x", .truthy, 1⟩,
      .text "a", .alternative ⟨true, "z", .truthy, 1⟩, .output ⟨"x", [.lower], 1⟩,
      .closesConditional, .closesLoop]
    (∃ xs, Says (fun _ => 1) tokens xs ∧ Derives .block xs) ∧
      ∃ nodes, nodesOfTokens (fun _ => 1) tokens = .ok nodes ∧ terminalsOfNodes nodes = read ∧
        ∃ xs, Says (fun _ => 1) tokens xs ∧ terminalsOfNodes nodes = dropEmptyElse xs ∧
          (terminalsOfNodes nodes).filter (· ≠ .otherwise) = xs.filter (· ≠ .otherwise) := by
  intro tokens read
  have hTree : (nodesOfTokens (fun _ => 1) tokens).map terminalsOfNodes = .ok read := by
    decide +kernel
  obtain ⟨nodes, hNodes, hTerminals⟩ := map_eq_ok.mp hTree
  obtain ⟨hAccepted, hRead⟩ := nodesOfTokens_agrees_with_grammar (fun _ => 1) tokens
  exact ⟨hAccepted.mp ⟨nodes, hNodes⟩, nodes, hNodes, hTerminals, hRead nodes hNodes⟩

end Boilerplate.Template
