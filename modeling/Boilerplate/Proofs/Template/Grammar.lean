import Mathlib.Data.List.Forall2
import Boilerplate.Template.Tree

/-! # The grammar of blocks

Tokens that are well formed on their own say a row of terminals. A row is a block when each
conditional and each loop in it is closed, and alternatives stand only where a conditional may have
them. A tree is read back as a row as well.
-/

namespace Boilerplate.Template

/-- What a token says. A loop keeps the line of its tag. -/
inductive Terminal
  | text (s : String)
  | output (e : Expression)
  | opensConditional (condition : Condition)
  | alternative (condition : Condition)
  | otherwise
  | closesConditional
  | opensLoop (binding source : String) (line : Nat)
  | closesLoop
  deriving DecidableEq

def Statement.terminal (line : Nat) : Statement → Terminal
  | .opensConditional condition => .opensConditional condition
  | .alternative condition => .alternative condition
  | .otherwise => .otherwise
  | .closesConditional => .closesConditional
  | .opensLoop binding source => .opensLoop binding source line
  | .closesLoop => .closesLoop

/-- What a token says, if its body is well formed on its own. -/
def Token.terminal (lineOf : Nat → Nat) : Token → Except SyntaxError Terminal
  | .text s => .ok (.text (String.ofList s))
  | .output opened body => (parseExpression lineOf (opened + 3) body).map .output
  | .statement opened body =>
    (parseStatement lineOf (opened + 2) body).map (Statement.terminal (lineOf opened))

/-- Each token is well formed on its own, and `xs` is what they say, in order. -/
def Says (lineOf : Nat → Nat) (tokens : List Token) (xs : List Terminal) : Prop :=
  List.Forall₂ (fun t x => t.terminal lineOf = .ok x) tokens xs

/-- The two kinds of phrase: a whole block, and what follows the first body of a conditional. -/
inductive Phrase
  | block
  | ending

/-- A block is any number of texts, outputs, loops `for Block endfor` and conditionals
`if Block (elif Block)* (else Block)? endif`. -/
inductive Derives : Phrase → List Terminal → Prop
  | nil : Derives .block []
  | text {s : String} {rest : List Terminal} :
      Derives .block rest → Derives .block (.text s :: rest)
  | output {e : Expression} {rest : List Terminal} :
      Derives .block rest → Derives .block (.output e :: rest)
  | conditional {c : Condition} {body ending rest : List Terminal} :
      Derives .block body → Derives .ending ending → Derives .block rest →
      Derives .block (.opensConditional c :: (body ++ (ending ++ rest)))
  | loop {binding source : String} {line : Nat} {body rest : List Terminal} :
      Derives .block body → Derives .block rest →
      Derives .block (.opensLoop binding source line :: (body ++ .closesLoop :: rest))
  | alternative {c : Condition} {body ending : List Terminal} :
      Derives .block body → Derives .ending ending →
      Derives .ending (.alternative c :: (body ++ ending))
  | otherwise {body : List Terminal} :
      Derives .block body → Derives .ending (.otherwise :: (body ++ [.closesConditional]))
  | close : Derives .ending [.closesConditional]

/-- An `else` in front of its body, if there is a body. -/
def elsePart : List Terminal → List Terminal
  | [] => []
  | body => .otherwise :: body

mutual

/-- The terminals of a node, in the order of the source. -/
def terminalsOfNode : Node → List Terminal
  | .text s => [.text s]
  | .output e => [.output e]
  | .conditional branches otherwise =>
    terminalsOfBranches .opensConditional branches ++
      (elsePart (terminalsOfNodes otherwise) ++ [.closesConditional])
  | .loop binding source line body =>
    .opensLoop binding source line :: (terminalsOfNodes body ++ [.closesLoop])

def terminalsOfNodes : List Node → List Terminal
  | [] => []
  | n :: rest => terminalsOfNode n ++ terminalsOfNodes rest

/-- `opener` is what the condition of the first branch stands in: an `if` or an `elif`. -/
def terminalsOfBranches (opener : Condition → Terminal) : List Branch → List Terminal
  | [] => []
  | (c, body) :: rest =>
    opener c :: (terminalsOfNodes body ++ terminalsOfBranches .alternative rest)

end

/-- A row without each `else` that has no body. -/
def dropEmptyElse : List Terminal → List Terminal
  | [] => []
  | .otherwise :: .closesConditional :: rest => .closesConditional :: dropEmptyElse rest
  | x :: rest => x :: dropEmptyElse rest

variable {xs ys body : List Terminal} {x : Terminal}

theorem Derives.append {p : Phrase} (h : Derives p xs) (hBlock : p = .block)
    (hRest : Derives .block ys) : Derives .block (xs ++ ys) := by
  induction h with
  | nil => exact hRest
  | text _ ih => exact .text (ih rfl)
  | output _ ih => exact .output (ih rfl)
  | conditional hBody hEnding _ _ _ ih =>
    rw [List.cons_append, List.append_assoc, List.append_assoc]
    exact .conditional hBody hEnding (ih rfl)
  | loop hBody _ _ ih =>
    rw [List.cons_append, List.append_assoc, List.cons_append]
    exact .loop hBody (ih rfl)
  | alternative | otherwise | close => cases hBlock

theorem Derives.head_ne (h : Derives .block (x :: xs)) :
    x ≠ .otherwise ∧ x ≠ .closesConditional := by
  cases h <;> exact ⟨nofun, nofun⟩

theorem dropEmptyElse_cons (hx : x ≠ .otherwise) (rest : List Terminal) :
    dropEmptyElse (x :: rest) = x :: dropEmptyElse rest := by
  apply dropEmptyElse.eq_3
  rintro _ rfl
  exact absurd rfl hx

theorem dropEmptyElse_otherwise (hBody : Derives .block body)
    (hAppend : ∀ ys, dropEmptyElse (body ++ ys) = dropEmptyElse body ++ dropEmptyElse ys) :
    dropEmptyElse (.otherwise :: (body ++ .closesConditional :: ys)) =
      elsePart (dropEmptyElse body) ++ .closesConditional :: dropEmptyElse ys := by
  cases body with
  | nil => rw [List.nil_append, dropEmptyElse, dropEmptyElse, elsePart, List.nil_append]
  | cons x rest =>
    obtain ⟨hElse, hClose⟩ := hBody.head_ne
    have hKept : dropEmptyElse (.otherwise :: (x :: rest ++ .closesConditional :: ys)) =
        .otherwise :: dropEmptyElse (x :: rest ++ .closesConditional :: ys) := by
      apply dropEmptyElse.eq_3
      rintro more _ hMore
      exact hClose (List.cons.inj hMore).1
    rw [hKept, hAppend, dropEmptyElse_cons hElse, dropEmptyElse_cons (by nofun)]
    rfl

theorem dropEmptyElse_append {p : Phrase} (h : Derives p xs) (ys : List Terminal) :
    dropEmptyElse (xs ++ ys) = dropEmptyElse xs ++ dropEmptyElse ys := by
  induction h generalizing ys with
  | nil => rfl
  | text _ ih | output _ ih =>
    rw [List.cons_append, dropEmptyElse_cons (by nofun), dropEmptyElse_cons (by nofun), ih,
      List.cons_append]
  | conditional _ _ _ hBody hEnding hRest =>
    simp only [List.cons_append, List.append_assoc, dropEmptyElse_cons, ne_eq, reduceCtorEq,
      not_false_eq_true, hBody, hEnding, hRest]
  | loop _ _ hBody hRest =>
    simp only [List.cons_append, List.append_assoc, dropEmptyElse_cons, ne_eq, reduceCtorEq,
      not_false_eq_true, hBody, hRest]
  | alternative _ _ hBody hEnding =>
    simp only [List.cons_append, List.append_assoc, dropEmptyElse_cons, ne_eq, reduceCtorEq,
      not_false_eq_true, hBody, hEnding]
  | otherwise hDerives hBody =>
    rw [List.cons_append, List.append_assoc, List.singleton_append,
      dropEmptyElse_otherwise hDerives hBody, dropEmptyElse_otherwise hDerives hBody,
      List.append_assoc]
    rfl
  | close =>
    rw [List.singleton_append, dropEmptyElse_cons (by nofun), dropEmptyElse_cons (by nofun)]
    rfl

theorem filter_dropEmptyElse (xs : List Terminal) :
    (dropEmptyElse xs).filter (· ≠ .otherwise) = xs.filter (· ≠ .otherwise) := by
  fun_induction dropEmptyElse xs with
  | case1 => rfl
  | case2 rest ih => simpa using ih
  | case3 x rest _ ih => rw [List.filter_cons, List.filter_cons, ih]

end Boilerplate.Template
