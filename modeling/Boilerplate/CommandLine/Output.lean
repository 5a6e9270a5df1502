import Boilerplate.CommandLine.Invocation
import Boilerplate.CommandLine.Settings
import Boilerplate.CommandLine.Style

/-!
# Output of a command

How lines are shown. A quiet command shows its data only, without messages and headers; colours are
used in the human format unless they are turned off.
-/

namespace Boilerplate.CommandLine

/-- How to show things, once options and settings are known. -/
structure Display where
  isJson : Bool
  isQuiet : Bool
  isColoured : Bool
  deriving DecidableEq, Repr

namespace Display

/-- The format in force: that of the option, else that of the settings, else the one that fits the
place of output. -/
def formatOf (globals : GlobalOptions) (settings : Settings) (isTerminal : Bool) : OutputFormat :=
  let chosen :=
    if globals.format = .auto then
      (OutputFormat.ofName? (String.ofList (settings.format.toList.map Char.toLower))).getD .auto
    else globals.format
  if chosen = .auto then (if isTerminal then .human else .plain) else chosen

def make (globals : GlobalOptions) (settings : Settings) (isTerminal : Bool) : Display :=
  let format := formatOf globals settings isTerminal
  ⟨format = .json, globals.quiet, format = .human && !globals.noColour && !settings.noColour⟩

/-- A message, of one line. -/
def message (d : Display) (s : String) : List String :=
  if d.isQuiet then [] else [s]

def dim (d : Display) (s : String) : String :=
  if d.isColoured then dimmed s else s

def header (d : Display) (s : String) : List String :=
  d.message (if d.isColoured then bold (Colour.cyan.paint s) else s)

def marked (d : Display) (mark : String) (colour : Colour) (s : String) : List String :=
  d.message <|
    if d.isColoured then bold (colour.paint mark) ++ " " ++ colour.paint s
    else mark ++ " " ++ s

def success (d : Display) (s : String) : List String :=
  d.marked "✓" .green s

def warning (d : Display) (s : String) : List String :=
  d.marked "⚠" .yellow s

end Display

/-- The text filled up with blanks to a width. -/
def padded (width : Nat) (s : String) : String :=
  s ++ String.ofList (List.replicate (width - s.length) ' ')

end Boilerplate.CommandLine
