import Boilerplate.Template.Evaluation

/-!
# Rendering

A rendering walks a tree once and writes one text. The bindings of the loops that are being run are
a stack: a binding is pushed for the body of its loop and popped when the body has ended, even if it
has failed.
-/

namespace Boilerplate.Template

/-- How far a rendering has come: the scope it is in, and the text it has written. -/
structure Progress where
  scope : Scope
  written : String

/-- A step of a rendering. A step that fails leaves its progress behind as well. -/
abbrev Rendering := ExceptT EvalError (StateM Progress)

namespace Rendering

variable {α : Type}

def runFrom (step : Rendering α) (p : Progress) : Except EvalError α × Progress :=
  step p

/-- The text that is there when the step has ended. -/
def textFrom (step : Rendering α) (p : Progress) : Except EvalError String :=
  match step.runFrom p with
  | (.ok _, q) => .ok q.written
  | (.error e, _) => .error e

def write (s : String) : Rendering Unit :=
  modify fun p => ⟨p.scope, p.written ++ s⟩

def push (name : String) (v : Value) : Rendering Unit :=
  modify fun p => ⟨p.scope.bind name v, p.written⟩

def pop : Rendering Unit :=
  modify fun p => ⟨⟨p.scope.config, p.scope.bindings.tail⟩, p.written⟩

/-- Runs a step with one more binding. -/
def withBinding (name : String) (v : Value) (step : Rendering Unit) : Rendering Unit := do
  push name v
  try step finally pop

/-- Runs a step once for each item, with the item bound. -/
def forItems (binding : String) (items : List String) (step : Rendering Unit) : Rendering Unit :=
  items.forM fun item => withBinding binding (.text item) step

/-- The value of `eval` in the scope of the moment. -/
def inScope (eval : Scope → Except EvalError α) : Rendering α := do
  eval (← get).scope

end Rendering

open Rendering

mutual

def renderNode : Node → Rendering Unit
  | .text s => write s
  | .output e => do
    write (← inScope (evalExpression · e))
  | .conditional branches otherwise => renderBranches branches (renderNodes otherwise)
  | .loop binding source line body => do
    let items ← inScope (loopItems · source line)
    forItems binding items (renderNodes body)

def renderNodes : List Node → Rendering Unit
  | [] => pure ()
  | n :: rest => do
    renderNode n
    renderNodes rest

/-- Renders the body of the first branch whose condition holds, and `otherwise` if there is none. -/
def renderBranches : List Branch → Rendering Unit → Rendering Unit
  | [], otherwise => otherwise
  | (c, body) :: rest, otherwise => do
    if ← inScope (evalCondition · c) then renderNodes body
    else renderBranches rest otherwise

end

/-- The text of a rendering that starts with none. -/
def rendered (scope : Scope) (nodes : List Node) : Except EvalError String :=
  (renderNodes nodes).textFrom ⟨scope, ""⟩

end Boilerplate.Template
