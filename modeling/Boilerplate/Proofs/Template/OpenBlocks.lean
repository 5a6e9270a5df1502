import Boilerplate.Proofs.Template.Parsing

/-! # Blocks that stay open

A row of terminals may have a tree as long as more terminals could complete it to a block. Reading
tokens fails at the first that is not well formed on its own or after which nothing could, and at
the end where a block has been left open, with the innermost one.
-/

namespace Boilerplate.Template

/-- More terminals complete the row to a block. -/
def Viable (xs : List Terminal) : Prop :=
  ∃ ys, Derives .block (xs ++ ys)

def Terminal.opens? : Terminal → Option BlockKind
  | .opensConditional _ => some .conditional
  | .opensLoop _ _ _ => some .loop
  | _ => none

def BlockKind.closing : BlockKind → Terminal
  | .conditional => .closesConditional
  | .loop => .closesLoop

/-- What follows the tag that opens a block, up to the end of the block. -/
inductive Tail : BlockKind → List Terminal → Prop
  | conditional {body ending : List Terminal} :
      Derives .block body → Derives .ending ending → Tail .conditional (body ++ ending)
  | loop {body : List Terminal} : Derives .block body → Tail .loop (body ++ [.closesLoop])

/-- The token is not well formed on its own, but all in front of it may have a tree. -/
def Malformed (lineOf : Nat → Nat) (tokens : List Token) (t : Token) (e : SyntaxError) : Prop :=
  ∃ before after xs, tokens = before ++ t :: after ∧ Says lineOf before xs ∧ Viable xs ∧
    t.terminal lineOf = .error e

/-- What the token says cannot follow what is said in front of it, whatever comes behind. -/
def Mismatched (lineOf : Nat → Nat) (tokens : List Token) (t : Token) : Prop :=
  ∃ before after xs x, tokens = before ++ t :: after ∧ Says lineOf before xs ∧ Viable xs ∧
    t.terminal lineOf = .ok x ∧ ¬ Viable (xs ++ [x])

/-- The token opens a block that lacks nothing but its closing statement: it is still open at the
end, and no block inside it is. -/
def NeverClosed (lineOf : Nat → Nat) (tokens : List Token) (t : Token) : Prop :=
  ∃ before after xs ys x kind, tokens = before ++ t :: after ∧ Says lineOf before xs ∧
    t.terminal lineOf = .ok x ∧ Says lineOf after ys ∧ Viable (xs ++ x :: ys) ∧
    x.opens? = some kind ∧ Tail kind (ys ++ [kind.closing])

section Completion

variable {blocks : List Block} {x : Terminal} {zs : List Terminal} {opened : Nat} {b b' : Builder}

/-- Where a terminal can begin what completes the open blocks, the builder has a step for it. -/
theorem Completes.exists_step (opened : Nat) (h : Completes (b.blocks.map (·.1)) (x :: zs)) :
    ∃ b', Builder.Step opened b x b' := by
  obtain ⟨nodes, blocks⟩ := b
  obtain ⟨body, rest, hBlock, rfl, hRest⟩ |
    ⟨block, outer, more, rest, hBlocks, hEnding, rfl, hRest⟩ := h.cons_cases
  · cases hBlock with
    | text => exact ⟨_, .text⟩
    | output => exact ⟨_, .output⟩
    | conditional => exact ⟨_, .opensConditional⟩
    | loop => exact ⟨_, .opensLoop⟩
  · obtain ⟨⟨top, nodes'⟩, blocks, rfl, rfl, rfl⟩ := List.map_eq_cons_iff.mp hBlocks
    cases top with
    | branch =>
      cases hEnding with
      | alternative => exact ⟨_, .alternative⟩
      | otherwise => exact ⟨_, .otherwise⟩
      | close => exact ⟨_, .closesBranch⟩
    | otherwise =>
      cases hEnding
      exact ⟨_, .closesOtherwise⟩
    | loop =>
      cases hEnding
      exact ⟨_, .closesLoop⟩

theorem Block.closedBy_closing (block : Block) : block.ClosedBy [block.kind.closing] := by
  cases block with
  | branch => exact Derives.close
  | otherwise | loop => rfl

theorem exists_completes (blocks : List Block) : ∃ zs, Completes blocks zs := by
  induction blocks with
  | nil => exact ⟨[], .nil⟩
  | cons block blocks ih =>
    obtain ⟨zs, hRest⟩ := ih
    exact ⟨_, .closing block block.closedBy_closing hRest⟩

end Completion

section Blocks

variable {lineOf : Nat → Nat} {tokens more : List Token} {t : Token} {block : Block}
  {blocks : List Block} {x : Terminal} {xs ys zs : List Terminal} {kind : BlockKind}
  {b b' : Builder}

/-- What has been said in an open block, if all that goes on with the block or closes it is to make
it whole. -/
def Block.Holds (block : Block) (ys : List Terminal) : Prop :=
  ∀ body ending, Derives .block body → block.ClosedBy ending →
    Tail block.kind (ys ++ (body ++ ending))

theorem Block.Holds.append (h : block.Holds ys) (hBlock : Derives .block zs) :
    block.Holds (ys ++ zs) := by
  intro body ending hBody hEnding
  rw [List.append_assoc, ← List.append_assoc zs]
  exact h _ ending (hBlock.append rfl hBody) hEnding

theorem Block.holds_nil_branch {opened : Nat} {c : Condition} :
    (Block.branch opened [] c).Holds [] :=
  fun _ _ => .conditional

theorem Block.holds_nil_loop {opened line : Nat} {binding source : String} :
    (Block.loop opened binding source line).Holds [] := by
  rintro body _ hBody rfl
  exact .loop hBody

theorem Tail.derives (hOpens : x.opens? = some kind) (h : Tail kind ys) :
    Derives .block (x :: ys) := by
  cases h with
  | conditional hBody hEnding =>
    cases x <;> cases hOpens
    simpa using Derives.conditional hBody hEnding .nil
  | loop hBody =>
    cases x <;> cases hOpens
    exact .loop hBody .nil

/-- The blocks that tokens leave open, the innermost first, each at the tag that opens it. -/
inductive LeavesOpen (lineOf : Nat → Nat) : List Token → List Block → Prop
  | nil {tokens : List Token} {xs : List Terminal} :
      Says lineOf tokens xs → Derives .block xs → LeavesOpen lineOf tokens []
  | cons {before after : List Token} {t : Token} {x : Terminal} {ys : List Terminal}
      {block : Block} {blocks : List Block} :
      LeavesOpen lineOf before blocks → t.terminal lineOf = .ok x → x.opens? = some block.kind →
      t.opened = block.opened → Says lineOf after ys → block.Holds ys →
      LeavesOpen lineOf (before ++ t :: after) (block :: blocks)

theorem Says.append {front back : List Token} (hFront : Says lineOf front xs)
    (hBack : Says lineOf back ys) : Says lineOf (front ++ back) (xs ++ ys) :=
  List.rel_append hFront hBack

theorem says_singleton (hx : t.terminal lineOf = .ok x) : Says lineOf [t] [x] :=
  List.Forall₂.cons hx .nil

theorem LeavesOpen.says (h : LeavesOpen lineOf tokens blocks) : ∃ xs, Says lineOf tokens xs := by
  induction h with
  | nil hSays => exact ⟨_, hSays⟩
  | cons _ hx _ _ hAfter _ ih =>
    obtain ⟨xs, hBefore⟩ := ih
    exact ⟨_, hBefore.append (List.Forall₂.cons hx hAfter)⟩

theorem Says.unique (h : Says lineOf tokens xs) (h' : Says lineOf tokens ys) : xs = ys := by
  refine Relator.RightUnique.forall₂ ?_ h h'
  intro t x y hx hy
  exact Except.ok.inj (hx.symm.trans hy)

theorem LeavesOpen.append (h : LeavesOpen lineOf tokens blocks) (hSays : Says lineOf more zs)
    (hBlock : Derives .block zs) : LeavesOpen lineOf (tokens ++ more) blocks := by
  cases h with
  | nil hFront hDerives => exact .nil (hFront.append hSays) (hDerives.append rfl hBlock)
  | cons hOuter hx hOpens hPlace hAfter hHolds =>
    rw [List.append_assoc, List.cons_append]
    exact .cons hOuter hx hOpens hPlace (hAfter.append hSays) (hHolds.append hBlock)

theorem LeavesOpen.close (h : LeavesOpen lineOf tokens (block :: blocks))
    (hx : t.terminal lineOf = .ok block.kind.closing) :
    LeavesOpen lineOf (tokens ++ [t]) blocks := by
  cases h with
  | cons hOuter hOpener hOpens hPlace hAfter hHolds =>
    have hTail := hHolds [] _ .nil block.closedBy_closing
    have hInside := hAfter.append (says_singleton hx)
    rw [List.append_assoc]
    exact hOuter.append (List.Forall₂.cons hOpener hInside) (hTail.derives hOpens)

theorem LeavesOpen.step (h : LeavesOpen lineOf tokens (b.blocks.map (·.1)))
    (hx : t.terminal lineOf = .ok x) (hStep : Builder.Step t.opened b x b') :
    LeavesOpen lineOf (tokens ++ [t]) (b'.blocks.map (·.1)) := by
  cases hStep with
  | text => exact h.append (says_singleton hx) (.text .nil)
  | output => exact h.append (says_singleton hx) (.output .nil)
  | opensConditional => exact .cons h hx rfl rfl .nil Block.holds_nil_branch
  | opensLoop => exact .cons h hx rfl rfl .nil Block.holds_nil_loop
  | alternative =>
    cases h with
    | cons hOuter hOpener hOpens hPlace hAfter hHolds =>
      rw [List.append_assoc]
      refine .cons hOuter hOpener hOpens hPlace (hAfter.append (says_singleton hx)) ?_
      intro body ending hBody hEnding
      rw [List.append_assoc]
      exact hHolds [] (_ :: (body ++ ending)) .nil (.alternative hBody hEnding)
  | otherwise =>
    cases h with
    | cons hOuter hOpener hOpens hPlace hAfter hHolds =>
      rw [List.append_assoc]
      refine .cons hOuter hOpener hOpens hPlace (hAfter.append (says_singleton hx)) ?_
      rintro body _ hBody rfl
      rw [List.append_assoc]
      exact hHolds [] (_ :: (body ++ _)) .nil (.otherwise hBody)
  | closesBranch | closesOtherwise | closesLoop => exact h.close hx

theorem leavesOpen_of_addTokens (hOpen : LeavesOpen lineOf tokens (b.blocks.map (·.1)))
    (h : b.addTokens lineOf more = .ok b') :
    LeavesOpen lineOf (tokens ++ more) (b'.blocks.map (·.1)) := by
  induction more generalizing b tokens with
  | nil =>
    obtain rfl := Except.ok.inj h
    simpa using hOpen
  | cons t rest ih =>
    obtain ⟨x, mid, hx, hStep, hRest⟩ := Builder.addTokens_cons_eq_ok_iff.mp h
    have hMore := ih (hOpen.step hx hStep) hRest
    rwa [List.append_assoc] at hMore

end Blocks

section Faults

variable {lineOf : Nat → Nat} {tokens : List Token} {t : Token} {x : Terminal} {e : SyntaxError}
  {b : Builder} {opened : Nat} {s : Statement}

theorem offset_of_continueBlock (h : b.continueBlock opened s = .error e) : e.offset = opened := by
  obtain ⟨nodes, blocks⟩ := b
  rw [Builder.continueBlock.eq_def] at h
  cases blocks with
  | nil =>
    obtain rfl := Except.error.inj h
    rfl
  | cons top blocks =>
    obtain ⟨block, outer⟩ := top
    cases block <;> cases s <;> cases h <;> rfl

theorem offset_of_addStatement (h : b.addStatement lineOf opened s = .error e) :
    e.offset = opened := by
  cases s with
  | opensConditional | opensLoop => cases h
  | _ => exact offset_of_continueBlock h

theorem ne_text_of_addToken (h : b.addToken lineOf t = .error e) (s : List Char) : t ≠ .text s := by
  rintro rfl
  cases h

theorem ne_text_of_opens {kind : BlockKind} (hx : t.terminal lineOf = .ok x)
    (hOpens : x.opens? = some kind) (s : List Char) : t ≠ .text s := by
  rintro rfl
  cases hx
  cases hOpens

/-- A token fails on its own, or what it says is no step of the builder. -/
theorem addToken_eq_error (h : b.addToken lineOf t = .error e) :
    t.terminal lineOf = .error e ∨ ∃ x, t.terminal lineOf = .ok x ∧
      (∀ b', ¬ Builder.Step t.opened b x b') ∧ e.offset = t.opened := by
  have hNoStep : ∀ x, t.terminal lineOf = .ok x → ∀ b', ¬ Builder.Step t.opened b x b' := by
    intro x hx b' hStep
    rw [Builder.addToken_eq_ok_iff.mpr ⟨x, hx, hStep⟩] at h
    cases h
  cases t with
  | text => cases h
  | output o body =>
    rw [Builder.addToken, bind_eq_error] at h
    obtain hBody | ⟨_, -, hAdded⟩ := h
    · exact .inl (map_eq_error.mpr hBody)
    · cases hAdded
  | statement o body =>
    rw [Builder.addToken, bind_eq_error] at h
    obtain hBody | ⟨s, hBody, hAdded⟩ := h
    · exact .inl (map_eq_error.mpr hBody)
    · have hx : (Token.statement o body).terminal lineOf = .ok (s.terminal (lineOf o)) :=
        map_eq_ok.mpr ⟨s, hBody, rfl⟩
      exact .inr ⟨_, hx, hNoStep _ hx, offset_of_addStatement hAdded⟩

theorem addTokens_eq_error (h : b.addTokens lineOf tokens = .error e) :
    ∃ before t after mid, tokens = before ++ t :: after ∧ b.addTokens lineOf before = .ok mid ∧
      mid.addToken lineOf t = .error e := by
  induction tokens generalizing b with
  | nil => cases h
  | cons t rest ih =>
    rw [Builder.addTokens, bind_eq_error] at h
    obtain hFirst | ⟨mid, hFirst, hRest⟩ := h
    · exact ⟨[], t, rest, b, rfl, rfl, hFirst⟩
    · obtain ⟨before, u, after, last, rfl, hBefore, hLast⟩ := ih hRest
      refine ⟨t :: before, u, after, last, rfl, ?_, hLast⟩
      rw [Builder.addTokens, hFirst]
      exact hBefore

theorem viable_of_addTokens {before : List Token}
    (h : Builder.start.addTokens lineOf before = .ok b) :
    ∃ xs, Says lineOf before xs ∧ Viable xs ∧
      ∀ zs, Derives .block (xs ++ zs) ↔ Completes (b.blocks.map (·.1)) zs := by
  obtain ⟨xs, hSays, hRest⟩ := completes_iff_of_addTokens h
  obtain ⟨zs, hCompletes⟩ := exists_completes (b.blocks.map (·.1))
  exact ⟨xs, hSays, ⟨zs, (hRest zs).mpr hCompletes⟩, hRest⟩

theorem mismatched_of_no_step {before after : List Token} {xs : List Terminal}
    (hSays : Says lineOf before xs) (hViable : Viable xs)
    (hRest : ∀ zs, Derives .block (xs ++ zs) ↔ Completes (b.blocks.map (·.1)) zs)
    (hx : t.terminal lineOf = .ok x) (hNoStep : ∀ b', ¬ Builder.Step opened b x b') :
    Mismatched lineOf (before ++ t :: after) t := by
  refine ⟨before, after, xs, x, rfl, hSays, hViable, hx, ?_⟩
  rintro ⟨ys, hBlock⟩
  rw [List.append_assoc] at hBlock
  obtain ⟨b', hStep⟩ := Completes.exists_step opened ((hRest _).mp hBlock)
  exact hNoStep b' hStep

theorem neverClosed_of_finish (hTokens : Builder.start.addTokens lineOf tokens = .ok b)
    (h : b.finish = .error e) : ∃ t ∈ tokens, (∀ s, t ≠ .text s) ∧
      NeverClosed lineOf tokens t ∧ e.offset = t.opened := by
  have hOpen : LeavesOpen lineOf ([] ++ tokens) (b.blocks.map (·.1)) :=
    leavesOpen_of_addTokens (.nil .nil .nil) hTokens
  obtain ⟨all, hAll, hViable, -⟩ := viable_of_addTokens hTokens
  obtain ⟨nodes, blocks⟩ := b
  cases blocks with
  | nil => cases h
  | cons top blocks =>
    obtain ⟨block, outer⟩ := top
    obtain rfl := Except.error.inj h
    rw [List.nil_append] at hOpen
    cases hOpen with
    | @cons before after t x ys _ _ hOuter hx hOpens hPlace hAfter hHolds =>
      obtain ⟨xs, hBefore⟩ := hOuter.says
      have hTail := hHolds [] _ .nil block.closedBy_closing
      obtain rfl := hAll.unique (hBefore.append (List.Forall₂.cons hx hAfter))
      exact ⟨t, List.mem_append_right _ List.mem_cons_self, ne_text_of_opens hx hOpens,
        ⟨before, after, xs, ys, x, block.kind, rfl, hBefore, hx, hAfter, hViable, hOpens, hTail⟩,
        hPlace.symm⟩

/-- Tokens have no tree because of the first that is malformed or mismatched, or because of the
innermost block that they leave open. -/
theorem nodesOfTokens_eq_error (h : nodesOfTokens lineOf tokens = .error e) :
    ∃ t ∈ tokens, (∀ s, t ≠ .text s) ∧ (Malformed lineOf tokens t e ∨
      (Mismatched lineOf tokens t ∨ NeverClosed lineOf tokens t) ∧ e.offset = t.opened) := by
  rw [nodesOfTokens, bind_eq_error] at h
  obtain hTokens | ⟨b, hTokens, hFinish⟩ := h
  · obtain ⟨before, t, after, b, rfl, hBefore, hToken⟩ := addTokens_eq_error hTokens
    obtain ⟨xs, hSays, hViable, hRest⟩ := viable_of_addTokens hBefore
    refine ⟨t, List.mem_append_right _ List.mem_cons_self, ne_text_of_addToken hToken, ?_⟩
    obtain hMalformed | ⟨x, hx, hNoStep, hOffset⟩ := addToken_eq_error hToken
    · exact .inl ⟨before, after, xs, rfl, hSays, hViable, hMalformed⟩
    · exact .inr ⟨.inl (mismatched_of_no_step hSays hViable hRest hx hNoStep), hOffset⟩
  · obtain ⟨t, hMem, hTag, hOpen, hOffset⟩ := neverClosed_of_finish hTokens hFinish
    exact ⟨t, hMem, hTag, .inr ⟨.inr hOpen, hOffset⟩⟩

end Faults

end Boilerplate.Template
