import Boilerplate.Json.Symbol

/-!
# TOML texts

The four kinds of quoted text. In double quotes a backslash escapes; in single quotes nothing does.
Three quotes open a text over several lines, whose first line end is dropped.
-/

namespace Boilerplate.Toml

/-- Characters that no text or comment may hold; line ends are dealt with apart. -/
def isControl (c : Char) : Bool :=
  (c < ' ' && c != '\t') || c == '\x7f'

def isBlankChar (c : Char) : Bool :=
  c == ' ' || c == '\t'

def char? (c : Char) : List Char → Option (List Char)
  | [] => none
  | d :: rest => if d = c then some rest else none

/-- A line end and what follows it. -/
def lineEnd? : List Char → Option (List Char)
  | '\n' :: rest => some rest
  | '\r' :: '\n' :: rest => some rest
  | _ => none

/-- The character of a hexadecimal escape of exactly `count` digits. -/
def hexEscape? (count : Nat) (s : List Char) : Option (Char × List Char) := do
  let ds := s.take count
  if ds.length ≠ count then none
  else
    let values ← ds.mapM Json.hexValue?
    let n := values.foldl (fun n d => 16 * n + d) 0
    if h : n.isValidChar then some (Char.ofNatAux n h, s.drop count) else none

/-- What follows a backslash. -/
def escape? : List Char → Option (Char × List Char)
  | [] => none
  | c :: rest =>
    match c with
    | 'b' => some ('\x08', rest)
    | 't' => some ('\t', rest)
    | 'n' => some ('\n', rest)
    | 'f' => some ('\x0c', rest)
    | 'r' => some ('\r', rest)
    | 'e' => some ('\x1b', rest)
    | '"' => some ('"', rest)
    | '\\' => some ('\\', rest)
    | 'x' => hexEscape? 2 rest
    | 'u' => hexEscape? 4 rest
    | 'U' => hexEscape? 8 rest
    | _ => none

/-- Drops blanks and line ends. -/
def skipBlankLines : List Char → List Char
  | [] => []
  | [c] => if isBlankChar c || c == '\n' then [] else [c]
  | c :: d :: rest =>
    if isBlankChar c || c == '\n' then skipBlankLines (d :: rest)
    else if c == '\r' && d == '\n' then skipBlankLines rest
    else c :: d :: rest

/-- A backslash at the end of a line: drops blanks and line ends up to the next character. -/
def continuedLine? (s : List Char) : Option (List Char) :=
  (lineEnd? (s.dropWhile isBlankChar)).map skipBlankLines

/-- The rest of a text on one line, up to its closing quote. -/
def lineText (quote : Char) (fuel : Nat) (s : List Char) : Option (List Char × List Char) :=
  match fuel, s with
  | 0, _ => none
  | _, [] => none
  | fuel + 1, c :: rest =>
    if c = quote then some ([], rest)
    else if isControl c then none
    else if c = '\\' ∧ quote = '"' then do
      let (d, rest) ← escape? rest
      let (body, after) ← lineText quote fuel rest
      some (d :: body, after)
    else do
      let (body, after) ← lineText quote fuel rest
      some (c :: body, after)

/-- The closing quotes of a text over several lines: the first three in a row, with at most two more
that belong to the text. -/
def closing? (quote : Char) (s : List Char) : Option (List Char × List Char) :=
  let count := ((s.take 5).takeWhile (· == quote)).length
  if 3 ≤ count then some (List.replicate (count - 3) quote, s.drop count) else none

/-- The rest of a text over several lines. -/
def blockText (quote : Char) (fuel : Nat) (s : List Char) : Option (List Char × List Char) :=
  match fuel, s with
  | 0, _ => none
  | _, [] => none
  | fuel + 1, c :: rest =>
    match closing? quote (c :: rest) with
    | some found => some found
    | none =>
      if c = '\r' ∧ rest.head? ≠ some '\n' then none
      else if isControl c ∧ c ≠ '\n' ∧ c ≠ '\r' then none
      else if c = '\\' ∧ quote = '"' then
        match continuedLine? rest with
        | some rest => blockText quote fuel rest
        | none => do
          let (d, rest) ← escape? rest
          let (body, after) ← blockText quote fuel rest
          some (d :: body, after)
      else do
        let (body, after) ← blockText quote fuel rest
        some (c :: body, after)

def dropLineEnd (s : List Char) : List Char :=
  (lineEnd? s).getD s

/-- A text on one line. -/
def lineQuoted? (s : List Char) : Option (String × List Char) :=
  match s with
  | [] => none
  | quote :: rest =>
    if quote = '"' ∨ quote = '\'' then
      (lineText quote (rest.length + 1) rest).map fun (body, after) => (String.ofList body, after)
    else none

/-- Any quoted text. -/
def quoted? (s : List Char) : Option (String × List Char) :=
  match s with
  | a :: b :: c :: rest =>
    if (a = '"' ∨ a = '\'') ∧ b = a ∧ c = a then
      (blockText a (rest.length + 1) (dropLineEnd rest)).map fun (body, after) =>
        (String.ofList body, after)
    else lineQuoted? s
  | s => lineQuoted? s

end Boilerplate.Toml
