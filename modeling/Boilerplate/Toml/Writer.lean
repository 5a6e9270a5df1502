import Boilerplate.Json.Writer
import Boilerplate.Toml.Text

/-!
# Writing a TOML text

A text is written in the plainest form that can hold it: double quotes, single quotes, and the same
over several lines; escapes are used only where no form does without them.
-/

namespace Boilerplate.Toml

/-- Whether a character can be written as an escape only. -/
def needsEscape (c : Char) : Bool :=
  isControl c && c != '\n'

/-- The length of the longest run of a character. -/
def longestRun (q : Char) (s : List Char) : Nat :=
  (s.foldl (fun (run, best) c =>
    if c = q then (run + 1, max best (run + 1)) else (0, best)) (0, 0)).2

def escapeChar (isBlock : Bool) (c : Char) : List Char :=
  if c = '\x08' then ['\\', 'b']
  else if c = '\t' then ['\\', 't']
  else if c = '\n' then (if isBlock then [c] else ['\\', 'n'])
  else if c = '\x0c' then ['\\', 'f']
  else if c = '\r' then ['\\', 'r']
  else if c = '\\' then ['\\', '\\']
  else if isControl c then
    ['\\', 'u', '0', '0', (Json.hexDigit (c.toNat / 16)).toUpper,
      (Json.hexDigit (c.toNat % 16)).toUpper]
  else [c]

/-- The inside of double quotes. At most `limit` quotes in a row stand for themselves; `run` counts
those just before. -/
def escaped (isBlock : Bool) (limit run : Nat) : List Char → List Char
  | [] => []
  | c :: rest =>
    if c = '"' then
      if run < limit then c :: escaped isBlock limit (run + 1) rest
      else '\\' :: c :: escaped isBlock limit 0 rest
    else escapeChar isBlock c ++ escaped isBlock limit 0 rest

def between (quotes : List Char) (body : List Char) : List Char :=
  quotes ++ body ++ quotes

def writeText (s : List Char) : List Char :=
  let hasLine := s.contains '\n'
  let start := if hasLine then ['\n'] else []
  let block (q : Char) (body : List Char) := between [q, q, q] (start ++ body)
  let isClean := !s.any needsEscape
  let isPlain := isClean && !s.contains '\\'
  if isPlain && !s.contains '"' && !hasLine then between ['"'] (escaped false 0 0 s)
  else if isClean && !s.contains '\'' && !hasLine then between ['\''] s
  else if isPlain && longestRun '"' s ≤ 2 then block '"' (escaped true 2 0 s)
  else if isClean && longestRun '\'' s ≤ 2 then block '\'' s
  else if hasLine then block '"' (escaped true 2 0 s)
  else between ['"'] (escaped false 0 0 s)

/-- The text in quotes. -/
def quotedText (s : String) : String :=
  String.ofList (writeText s.toList)

end Boilerplate.Toml
