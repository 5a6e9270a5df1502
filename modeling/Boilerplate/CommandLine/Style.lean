/-!
# Text styles of a terminal

Control sequences that set a colour or a weight and take it back at the end.
-/

namespace Boilerplate.CommandLine

inductive Colour
  | red
  | green
  | yellow
  | blue
  | cyan
  deriving DecidableEq, Repr

def Colour.code : Colour → String
  | .red => "31"
  | .green => "32"
  | .yellow => "33"
  | .blue => "34"
  | .cyan => "36"

def Colour.paint (c : Colour) (s : String) : String :=
  s!"\x1b[{c.code}m{s}\x1b[39m"

def bold (s : String) : String :=
  s!"\x1b[1m{s}\x1b[0m"

def dimmed (s : String) : String :=
  s!"\x1b[2m{s}\x1b[0m"

end Boilerplate.CommandLine
