/-!
# Reading of arguments

A command takes options and operands, and may have commands below it. Arguments are read from left
to right; a command below takes all that is left. Asking for help or for the version stops the
reading at once, so a mistake counts only if it comes first.
-/

namespace Boilerplate.CommandLine

/-- What an option does. -/
inductive OptionRole
  | help
  | version
  /-- Takes nothing and may be given once. -/
  | switch
  /-- Takes nothing and may be repeated. -/
  | counter
  /-- Takes one of the values it admits and may be given once. -/
  | single (admits : String → Bool)
  /-- Takes any value and may be repeated. -/
  | many

structure OptionSpec where
  long : String
  short? : Option Char
  role : OptionRole

def OptionSpec.takesValue (o : OptionSpec) : Bool :=
  match o.role with
  | .single _ | .many => true
  | _ => false

structure CommandSpec where
  name : String
  aliases : List String
  options : List OptionSpec
  /-- What each operand admits; all of them are needed. -/
  operands : List (String → Bool)
  commands : List CommandSpec

namespace CommandSpec

def long? (c : CommandSpec) (name : String) : Option OptionSpec :=
  c.options.find? (·.long == name)

def short? (c : CommandSpec) (name : Char) : Option OptionSpec :=
  c.options.find? fun o => o.short? == some name

def answersTo (c : CommandSpec) (name : String) : Bool :=
  c.name == name || c.aliases.contains name

def command? (c : CommandSpec) (name : String) : Option CommandSpec :=
  c.commands.find? (·.answersTo name)

end CommandSpec

/-- Why reading stops. -/
inductive Interruption
  | help
  | version
  | misuse
  deriving DecidableEq, Repr

/-- What one command was given: its options by long name with their values, and its operands. Both
are kept last one first while they are read. -/
structure Level where
  options : List (String × String)
  operands : List String
  deriving DecidableEq, Repr

namespace Level

def empty : Level := ⟨[], []⟩

def has (l : Level) (long : String) : Bool :=
  l.options.any (·.1 == long)

/-- The values of an option, in the order given. -/
def values (l : Level) (long : String) : List String :=
  (l.options.reverse.filter (·.1 == long)).map (·.2)

def value? (l : Level) (long : String) : Option String :=
  (l.values long).head?

end Level

/-- A command in the middle of its arguments. A value or operand that is refused counts only when
the next argument of the same command, or the end, is reached. -/
structure Progress where
  level : Level
  awaiting : Option OptionSpec
  isRefused : Bool

namespace Progress

def start : Progress := ⟨Level.empty, none, false⟩

def isSettled (p : Progress) : Bool :=
  p.awaiting.isNone && !p.isRefused

/-- Whether an option with a value refuses it, either for itself or as a repetition. -/
def refuses (p : Progress) (o : OptionSpec) (value : String) : Bool :=
  match o.role with
  | .single admits => !admits value || p.level.has o.long
  | _ => false

def giveValue (p : Progress) (o : OptionSpec) (value : String) : Progress :=
  ⟨⟨(o.long, value) :: p.level.options, p.level.operands⟩, none, p.refuses o value⟩

/-- A value written together with its option is refused at once. -/
def giveAttached (p : Progress) (o : OptionSpec) (value : String) : Except Interruption Progress :=
  if p.refuses o value then .error .misuse else .ok (p.giveValue o value)

def giveSwitch (p : Progress) (o : OptionSpec) : Except Interruption Progress :=
  match o.role with
  | .help => .error .help
  | .version => .error .version
  | .switch =>
    if p.level.has o.long then .error .misuse else .ok (p.giveValue o "")
  | _ => .ok (p.giveValue o "")

def giveOperand (p : Progress) (spec : CommandSpec) (value : String) :
    Except Interruption Progress :=
  match spec.operands[p.level.operands.length]? with
  | none => .error .misuse
  | some admits => .ok ⟨⟨p.level.options, value :: p.level.operands⟩, none, !admits value⟩

def giveOperands (p : Progress) (spec : CommandSpec) : List String → Except Interruption Progress
  | [] => .ok p
  | v :: rest =>
    if p.isSettled then (p.giveOperand spec v).bind fun p => p.giveOperands spec rest
    else .error .misuse

/-- A long option without its two dashes. -/
def giveLong (p : Progress) (spec : CommandSpec) (body : List Char) :
    Except Interruption Progress :=
  match spec.long? (String.ofList (body.takeWhile (· != '='))), body.dropWhile (· != '=') with
  | none, _ => .error .misuse
  | some o, [] => if o.takesValue then .ok ⟨p.level, some o, false⟩ else p.giveSwitch o
  | some o, _ :: value =>
    if o.takesValue then p.giveAttached o (String.ofList value) else .error .misuse

def dropEquals : List Char → List Char
  | '=' :: rest => rest
  | s => s

/-- A row of short options without its dash. The first that takes a value takes the rest of the row,
or the next argument if the row ends. -/
def giveShorts (p : Progress) (spec : CommandSpec) : List Char → Except Interruption Progress
  | [] => .ok p
  | c :: rest =>
    match spec.short? c with
    | none => .error .misuse
    | some o =>
      if !o.takesValue then (p.giveSwitch o).bind fun p => p.giveShorts spec rest
      else if rest.isEmpty then .ok ⟨p.level, some o, false⟩
      else p.giveAttached o (String.ofList (dropEquals rest))

/-- One argument that is no command. -/
def give (p : Progress) (spec : CommandSpec) (arg : String) : Except Interruption Progress :=
  if !p.isSettled then .error .misuse
  else
    match arg.toList with
    | '-' :: '-' :: body => p.giveLong spec body
    | '-' :: c :: row => p.giveShorts spec (c :: row)
    | _ => p.giveOperand spec arg

end Progress

/-- Whether an argument looks like an option; a single dash does not. -/
def isDashed (arg : String) : Bool :=
  match arg.toList with
  | '-' :: _ :: _ => true
  | _ => false

/-- Help for a command given by its path. Help itself is a command with none below it. -/
def helpFor (spec : CommandSpec) : List String → Interruption
  | [] => .help
  | name :: rest =>
    match spec.command? name with
    | some sub => helpFor sub rest
    | none =>
      if name = "help" ∧ !spec.commands.isEmpty ∧ rest.isEmpty then .help else .misuse

/-- A command below that was met, with the arguments after its name. -/
abbrev Below := Option (CommandSpec × List String)

/-- Reads one command up to its end or to a command below it. -/
def readLevel (spec : CommandSpec) (p : Progress) :
    List String → Except Interruption (Progress × Below)
  | [] => .ok (p, none)
  | arg :: rest =>
    match p.awaiting with
    | some o =>
      if isDashed arg then .error .misuse else readLevel spec (p.giveValue o arg) rest
    | none =>
      match spec.command? arg with
      | some sub => .ok (p, some (sub, rest))
      | none =>
        if arg = "help" ∧ !spec.commands.isEmpty then .error (helpFor spec rest)
        else if arg = "--" then (p.giveOperands spec rest).map fun p => (p, none)
        else (p.give spec arg).bind fun p => readLevel spec p rest

/-- Whether a command was given all that it needs and nothing that conflicts. -/
def Progress.isComplete (p : Progress) (spec : CommandSpec) (conflicts : Level → Bool) : Bool :=
  p.isSettled && p.level.operands.length == spec.operands.length && !conflicts p.level

/-- Reads a command and those below it, each with its name, the outermost first. A command below is
judged before the one above it. `depth` bounds the number of commands below each other. -/
def readCommand (conflicts : Level → Bool) (depth : Nat) (spec : CommandSpec)
    (args : List String) : Except Interruption (List (String × Level)) := do
  let (p, below) ← readLevel spec Progress.start args
  let levels ← match below, depth with
    | some (sub, rest), depth + 1 => readCommand conflicts depth sub rest
    | some _, 0 => .error .misuse
    | none, _ => if spec.commands.isEmpty then .ok [] else .error .misuse
  if p.isComplete spec conflicts then .ok ((spec.name, p.level) :: levels) else .error .misuse

end Boilerplate.CommandLine
