import Boilerplate.Template.Tree

/-!
# Evaluation of a template

A tree is evaluated in a scope: the configuration, and in front of it the bindings of the loops that
are being run, innermost first. A name without a value is written as nothing and is not truthy. What
is evaluated here is written by `Boilerplate.Template.Rendering`.
-/

namespace Boilerplate.Template

structure Scope where
  config : Config
  bindings : List (String × Value)

namespace Scope

def lookup? (scope : Scope) (name : String) : Option Value :=
  match scope.bindings.find? (·.1 == name) with
  | some (_, v) => some v
  | none => scope.config.get? name

def bind (scope : Scope) (name : String) (v : Value) : Scope :=
  ⟨scope.config, (name, v) :: scope.bindings⟩

end Scope

inductive EvalError
  | listFiltered (line : Nat) (filter : Filter)
  | listPrinted (line : Nat) (name : String)
  | notIterable (line : Nat) (source typeName : String)
  | incomparable (line : Nat) (subject typeName literalType : String)
  | hasNeedsList (line : Nat) (subject typeName : String)
  deriving DecidableEq, Repr

def EvalError.message : EvalError → String
  | .listFiltered line filter => s!"line {line}: {filter.listMessage}"
  | .listPrinted line name =>
    s!"line {line}: '{name}' is a list and cannot be printed (use '| join')"
  | .notIterable line source typeName =>
    s!"line {line}: cannot iterate over '{source}' ({typeName})"
  | .incomparable line subject typeName literalType =>
    s!"line {line}: cannot compare '{subject}' ({typeName}) with a {literalType} literal"
  | .hasNeedsList line subject typeName =>
    s!"line {line}: 'has' needs a list, but '{subject}' is {typeName}"

def applyFilters (line : Nat) : List Filter → Value → Except EvalError Value
  | [], v => .ok v
  | f :: rest, v =>
    match f.run? v with
    | some w => applyFilters line rest w
    | none => .error (.listFiltered line f)

def evalExpression (scope : Scope) (e : Expression) : Except EvalError String :=
  match scope.lookup? e.subject with
  | none => .ok ""
  | some v => do
    let w ← applyFilters e.line e.filters v
    match w.scalarText? with
    | some s => .ok s
    | none => .error (.listPrinted e.line e.subject)

/-- Equality with a literal, or `none` for operands of different types. -/
def equals? : Value → Literal → Option Bool
  | .text a, .text b => some (a == b)
  | .boolean a, .boolean b => some (a == b)
  | .number a, .number b => some (a.sameValue b)
  | _, _ => none

def compare (c : Condition) (v : Value) (l : Literal) : Except EvalError Bool :=
  match equals? v l with
  | some b => .ok b
  | none => .error (.incomparable c.line c.subject v.typeName l.typeName)

/-- The outcome of a test before negation. -/
def evalTest (c : Condition) : Test → Option Value → Except EvalError Bool
  | .truthy, none => .ok false
  | .truthy, some v => .ok v.isTruthy
  | .equals _, none => .ok false
  | .equals l, some v => compare c v l
  | .differs _, none => .ok true
  | .differs l, some v => (compare c v l).map (!·)
  | .has _, none => .ok false
  | .has l, some (.list items) => .ok (items.contains l.asText)
  | .has _, some v => .error (.hasNeedsList c.line c.subject v.typeName)

def evalCondition (scope : Scope) (c : Condition) : Except EvalError Bool :=
  (evalTest c c.test (scope.lookup? c.subject)).map (· != c.negated)

/-- The items a loop runs over; an absent source has none. -/
def loopItems (scope : Scope) (source : String) (line : Nat) : Except EvalError (List String) :=
  match scope.lookup? source with
  | none => .ok []
  | some (.list items) => .ok items
  | some v => .error (.notIterable line source v.typeName)

/-- The texts of a row of parts, joined; the first failure ends it. -/
def concatAll {α : Type} (f : α → Except EvalError String) : List α → Except EvalError String
  | [] => .ok ""
  | a :: rest => do
    let s ← f a
    let t ← concatAll f rest
    .ok (s ++ t)

mutual

def evalNode (scope : Scope) : Node → Except EvalError String
  | .text s => .ok s
  | .output e => evalExpression scope e
  | .conditional branches otherwise => do
    match ← evalBranches scope branches with
    | some s => .ok s
    | none => evalNodes scope otherwise
  | .loop binding source line body => do
    let items ← loopItems scope source line
    concatAll (fun item => evalNodes (scope.bind binding (.text item)) body) items

def evalNodes (scope : Scope) : List Node → Except EvalError String
  | [] => .ok ""
  | n :: rest => do
    let s ← evalNode scope n
    let t ← evalNodes scope rest
    .ok (s ++ t)

/-- The body of the first branch whose condition holds, if there is one. -/
def evalBranches (scope : Scope) : List Branch → Except EvalError (Option String)
  | [] => .ok none
  | (c, body) :: rest => do
    if ← evalCondition scope c then
      let s ← evalNodes scope body
      .ok (some s)
    else evalBranches scope rest

end

end Boilerplate.Template
