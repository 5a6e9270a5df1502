import Boilerplate.Template.Statement
import Boilerplate.Template.Token

/-!
# Template trees

A template is a row of nodes; conditionals and loops hold rows of their own. The tree is built from
the tokens in one pass over a stack of the blocks that are open.
-/

namespace Boilerplate.Template

inductive Node
  | text (s : String)
  | output (e : Expression)
  | conditional (branches : List (Condition × List Node)) (otherwise : List Node)
  | loop (binding source : String) (line : Nat) (body : List Node)

/-- A conditional arm: its condition and its body. -/
abbrev Branch := Condition × List Node

/-- An open block. `opened` is the offset of the tag that opened it. -/
inductive Block
  | branch (opened : Nat) (closed : List Branch) (condition : Condition)
  | otherwise (opened : Nat) (branches : List Branch)
  | loop (opened : Nat) (binding source : String) (line : Nat)

def Block.opened : Block → Nat
  | .branch o _ _ => o
  | .otherwise o _ => o
  | .loop o _ _ _ => o

def Block.kind : Block → BlockKind
  | .branch _ _ _ => .conditional
  | .otherwise _ _ => .conditional
  | .loop _ _ _ _ => .loop

/-- The tree so far: the nodes of the innermost block, last one first, and the open blocks from the
innermost outwards, each with the nodes in front of it, last one first. -/
structure Builder where
  nodes : List Node
  blocks : List (Block × List Node)

namespace Builder

def start : Builder :=
  ⟨[], []⟩

def add (b : Builder) (n : Node) : Builder :=
  ⟨n :: b.nodes, b.blocks⟩

def openBlock (b : Builder) (block : Block) : Builder :=
  ⟨[], (block, b.nodes) :: b.blocks⟩

/-- The effect of a statement that goes on with or closes the innermost block; `opened` is the
offset of its tag. -/
def continueBlock (b : Builder) (opened : Nat) (s : Statement) : Except SyntaxError Builder :=
  match b.blocks with
  | [] => .error ⟨opened, .strayKeyword s.keyword⟩
  | (.branch o closed condition, outer) :: blocks =>
    let branches := closed ++ [(condition, b.nodes.reverse)]
    match s with
    | .alternative next => .ok ⟨[], (.branch o branches next, outer) :: blocks⟩
    | .otherwise => .ok ⟨[], (.otherwise o branches, outer) :: blocks⟩
    | .closesConditional => .ok ⟨.conditional branches [] :: outer, blocks⟩
    | s => .error ⟨opened, .keywordInside s.keyword .conditional⟩
  | (.otherwise _ branches, outer) :: blocks =>
    match s with
    | .closesConditional => .ok ⟨.conditional branches b.nodes.reverse :: outer, blocks⟩
    | s => .error ⟨opened, .keywordAfterElse s.keyword⟩
  | (.loop _ binding source line, outer) :: blocks =>
    match s with
    | .closesLoop => .ok ⟨.loop binding source line b.nodes.reverse :: outer, blocks⟩
    | s => .error ⟨opened, .keywordInside s.keyword .loop⟩

def addStatement (lineOf : Nat → Nat) (b : Builder) (opened : Nat) (s : Statement) :
    Except SyntaxError Builder :=
  match s with
  | .opensConditional condition => .ok (b.openBlock (.branch opened [] condition))
  | .opensLoop binding source => .ok (b.openBlock (.loop opened binding source (lineOf opened)))
  | s => b.continueBlock opened s

def addToken (lineOf : Nat → Nat) (b : Builder) : Token → Except SyntaxError Builder
  | .text s => .ok (b.add (.text (String.ofList s)))
  | .output opened body => do
    let e ← parseExpression lineOf (opened + 3) body
    .ok (b.add (.output e))
  | .statement opened body => do
    let s ← parseStatement lineOf (opened + 2) body
    b.addStatement lineOf opened s

def addTokens (lineOf : Nat → Nat) (b : Builder) : List Token → Except SyntaxError Builder
  | [] => .ok b
  | t :: rest => do
    let b ← b.addToken lineOf t
    b.addTokens lineOf rest

/-- The nodes, if no block is left open. -/
def finish (b : Builder) : Except SyntaxError (List Node) :=
  match b.blocks with
  | [] => .ok b.nodes.reverse
  | (block, _) :: _ => .error ⟨block.opened, .unclosedBlock block.kind⟩

end Builder

/-- The tree of a row of tokens. -/
def nodesOfTokens (lineOf : Nat → Nat) (tokens : List Token) : Except SyntaxError (List Node) := do
  let b ← Builder.start.addTokens lineOf tokens
  b.finish

def lineIn (source : List Char) (offset : Nat) : Nat :=
  (Text.Position.locate source offset).line

/-- The tree of a source. -/
def parseNodes (source : List Char) : Except SyntaxError (List Node) := do
  nodesOfTokens (lineIn source) (← tokenize source)

end Boilerplate.Template
