import Boilerplate.CommandLine.Invocation

/-!
# Usage and completion

The text shown on a request for help and after a mistake, and scripts that complete the names of
commands in a shell.
-/

namespace Boilerplate.CommandLine

def versionLine : String := "stencil 0.1.0"

/-- The commands with what they do. -/
def commandSummaries : List (String × String) := [
  ("list", "List available templates"),
  ("categories", "List template categories"),
  ("show", "Show a template's fields and examples"),
  ("preview", "Render a template to stdout"),
  ("generate", "Render a template to disk"),
  ("download", "Render a template into a tar.gz archive"),
  ("init", "Initialise configuration"),
  ("completions", "Generate shell completions"),
  ("config", "Configuration inspection")]

def usageLines : List String :=
  ["Infrastructure files from typed templates", "", "Usage: stencil [OPTIONS] <COMMAND>", "",
    "Commands:"]
  ++ commandSummaries.map (fun p =>
    "  " ++ p.1 ++ String.ofList (List.replicate (13 - p.1.length) ' ') ++ p.2)
  ++ ["", "Options:",
    "  -v, --verbose                 Increase verbosity (-v, -vv, -vvv)",
    "  -q, --quiet                   Suppress non-error output",
    "      --no-color                Disable colored output",
    "  -c, --config <FILE>           Configuration file path",
    "      --output-format <FORMAT>  Output format [auto, human, plain, json]",
    "  -h, --help                    Print help",
    "  -V, --version                 Print version"]

def commandWords : String :=
  " ".intercalate (commandSummaries.map (·.1))

/-- A script that completes the first word after the program's name. -/
def completionLines : Shell → List String
  | .bash => [s!"complete -W \"{commandWords}\" stencil"]
  | .zsh => ["#compdef stencil", s!"_arguments '1: :({commandWords})' '*::arg:_files'"]
  | .fish => [s!"complete -c stencil -n __fish_use_subcommand -f -a \"{commandWords}\""]
  | .powerShell => [
    "Register-ArgumentCompleter -Native -CommandName stencil -ScriptBlock \x7b",
    "  param($word)",
    s!"  '{commandWords}'.Split(' ') | Where-Object \x7b $_ -like \"$word*\" \x7d",
    "\x7d"]
  | .elvish => [
    s!"set edit:completion:arg-completer[stencil] = \x7b|@words| put {commandWords} \x7d"]

end Boilerplate.CommandLine
