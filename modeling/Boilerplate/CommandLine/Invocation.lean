import Boilerplate.CommandLine.Grammar

/-!
# Invocations

The commands of the program, with their options, and the request that a list of arguments stands
for. Options that apply to every command may be given before or after its name; the innermost wins.
-/

namespace Boilerplate.CommandLine

inductive OutputFormat
  | auto
  | human
  | plain
  | json
  deriving DecidableEq, Repr

namespace OutputFormat

def name : OutputFormat → String
  | .auto => "auto"
  | .human => "human"
  | .plain => "plain"
  | .json => "json"

def all : List OutputFormat := [.auto, .human, .plain, .json]

def ofName? (s : String) : Option OutputFormat :=
  all.find? (·.name == s)

end OutputFormat

inductive ListFormat
  | table
  | ids
  | json
  deriving DecidableEq, Repr

namespace ListFormat

def name : ListFormat → String
  | .table => "table"
  | .ids => "list"
  | .json => "json"

def all : List ListFormat := [.table, .ids, .json]

def ofName? (s : String) : Option ListFormat :=
  all.find? (·.name == s)

end ListFormat

inductive Shell
  | bash
  | zsh
  | fish
  | powerShell
  | elvish
  deriving DecidableEq, Repr

namespace Shell

def name : Shell → String
  | .bash => "bash"
  | .zsh => "zsh"
  | .fish => "fish"
  | .powerShell => "power-shell"
  | .elvish => "elvish"

def all : List Shell := [.bash, .zsh, .fish, .powerShell, .elvish]

def ofName? (s : String) : Option Shell :=
  all.find? (·.name == s)

end Shell

/-- Which template to render, and what it is given. -/
structure RenderRequest where
  template : String
  example? : Option String
  valuesFile? : Option String
  assignments : List String
  deriving DecidableEq, Repr

inductive Command
  | list (category? : Option String) (format : ListFormat)
  | categories
  | describe (template : String)
  | preview (request : RenderRequest)
  | generate (request : RenderRequest) (root : String) (overwrite : Bool)
  | download (request : RenderRequest) (directory? : Option String)
  | initConfig (overwrite : Bool)
  | completions (shell : Shell)
  | configGet (key : String)
  | configList
  | configPath
  deriving DecidableEq, Repr

structure GlobalOptions where
  verbose : Bool
  quiet : Bool
  noColour : Bool
  configFile? : Option String
  format : OutputFormat
  deriving DecidableEq, Repr

structure Invocation where
  globals : GlobalOptions
  command : Command
  deriving DecidableEq, Repr

/-! ## The grammar -/

def anyText (_ : String) : Bool := true

def isPath (s : String) : Bool := s != ""

def globalOptions : List OptionSpec := [
  ⟨"help", some 'h', .help⟩,
  ⟨"verbose", some 'v', .counter⟩,
  ⟨"quiet", some 'q', .switch⟩,
  ⟨"no-color", none, .switch⟩,
  ⟨"config", some 'c', .single isPath⟩,
  ⟨"output-format", none, .single fun s => (OutputFormat.ofName? s).isSome⟩]

def valueOptions : List OptionSpec := [
  ⟨"example", none, .single anyText⟩,
  ⟨"values", none, .single isPath⟩,
  ⟨"set", some 's', .many⟩]

def outputOption : OptionSpec :=
  ⟨"output", some 'o', .single isPath⟩

def leaf (name : String) (aliases : List String) (options : List OptionSpec)
    (operands : List (String → Bool)) : CommandSpec :=
  ⟨name, aliases, globalOptions ++ options, operands, []⟩

def configSpec : CommandSpec :=
  ⟨"config", [], globalOptions, [],
    [leaf "get" [] [] [anyText], leaf "list" [] [] [], leaf "path" [] [] []]⟩

def programSpec : CommandSpec :=
  ⟨"stencil", [], globalOptions ++ [⟨"version", some 'V', .version⟩], [], [
    leaf "list" ["ls"] [⟨"category", some 'C', .single anyText⟩,
      ⟨"format", none, .single fun s => (ListFormat.ofName? s).isSome⟩] [],
    leaf "categories" [] [] [],
    leaf "show" [] [] [anyText],
    leaf "preview" [] valueOptions [anyText],
    leaf "generate" ["gen"] (valueOptions ++ [outputOption, ⟨"force", none, .switch⟩]) [anyText],
    leaf "download" [] (valueOptions ++ [outputOption]) [anyText],
    leaf "init" [] [⟨"force", some 'f', .switch⟩] [],
    leaf "completions" [] [] [fun s => (Shell.ofName? s).isSome],
    configSpec]⟩

/-- Quiet and verbose exclude each other where they are given to the same command. -/
def conflicting (l : Level) : Bool :=
  l.has "quiet" && l.has "verbose"

/-! ## From levels to an invocation -/

/-- The value of an option at the innermost level that has it. -/
def innermost? (levels : List Level) (long : String) : Option String :=
  levels.reverse.findSome? (·.value? long)

/-- Words that mean no; the empty text does too. -/
def falseWords : List String := ["", "n", "no", "f", "false", "off", "0"]

/-- Whether the environment asks for plain text. -/
def asksNoColour (value? : Option String) : Bool :=
  value?.any fun s => !falseWords.contains (String.ofList (s.toList.map Char.toLower))

def globalsOf (noColourVariable : Option String) (levels : List Level) : GlobalOptions where
  verbose := levels.any (·.has "verbose")
  quiet := levels.any (·.has "quiet")
  noColour := levels.any (·.has "no-color") || asksNoColour noColourVariable
  configFile? := innermost? levels "config"
  format := ((innermost? levels "output-format").bind OutputFormat.ofName?).getD .auto

def requestOf (template : String) (l : Level) : RenderRequest :=
  ⟨template, l.value? "example", l.value? "values", l.values "set"⟩

/-- The command that the names and the innermost level stand for. -/
def commandOf? (names : List String) (l : Level) : Option Command :=
  match names, l.operands with
  | ["list"], [] =>
    some (.list (l.value? "category")
      (((l.value? "format").bind ListFormat.ofName?).getD .table))
  | ["categories"], [] => some .categories
  | ["show"], [template] => some (.describe template)
  | ["preview"], [template] => some (.preview (requestOf template l))
  | ["generate"], [template] =>
    some (.generate (requestOf template l) ((l.value? "output").getD ".") (l.has "force"))
  | ["download"], [template] => some (.download (requestOf template l) (l.value? "output"))
  | ["init"], [] => some (.initConfig (l.has "force"))
  | ["completions"], [shell] => (Shell.ofName? shell).map .completions
  | ["config", "get"], [key] => some (.configGet key)
  | ["config", "list"], [] => some .configList
  | ["config", "path"], [] => some .configPath
  | _, _ => none

namespace Invocation

def ofLevels? (noColourVariable : Option String) (levels : List (String × Level)) :
    Option Invocation := do
  let (_, innermost) ← levels.getLast?
  let command ← commandOf? ((levels.drop 1).map (·.1)) innermost
  some ⟨globalsOf noColourVariable (levels.map (·.2)), command⟩

/-- Reads the arguments of the program. The variable is the one that asks for plain text. -/
def parse (noColourVariable : Option String) (args : List String) :
    Except Interruption Invocation := do
  let levels ← readCommand conflicting args.length programSpec args
  match ofLevels? noColourVariable levels with
  | some invocation => .ok invocation
  | none => .error .misuse

end Invocation

end Boilerplate.CommandLine
