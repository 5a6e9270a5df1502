import Boilerplate.Toml.Scalar
import Boilerplate.Toml.Text

/-!
# Reading a TOML document

A document is a row of lines: key and value, table headers, comments. Arrays and inline tables may
run over several lines. Every recursion consumes text, so the length of the text bounds its depth.
-/

namespace Boilerplate.Toml

def skipBlanks (s : List Char) : List Char :=
  s.dropWhile isBlankChar

/-- Drops a comment up to its line end. -/
def comment? (s : List Char) : Option (List Char) :=
  match s with
  | '#' :: rest =>
    let body := rest.takeWhile fun c => c != '\n' && c != '\r'
    if body.any isControl then none else some (rest.drop body.length)
  | s => some s

/-- Drops blanks, comments and line ends. -/
def skipLines (fuel : Nat) (s : List Char) : Option (List Char) :=
  match fuel with
  | 0 => none
  | fuel + 1 => do
    let s ← comment? (skipBlanks s)
    match lineEnd? s with
    | some rest => skipLines fuel rest
    | none => some s

/-- The end of a line, after blanks and a comment. -/
def endOfLine? (s : List Char) : Option (List Char) := do
  let s ← comment? (skipBlanks s)
  if s.isEmpty then some [] else lineEnd? s

def isBareKeyChar (c : Char) : Bool :=
  c.isAlphanum || c == '_' || c == '-'

/-- One part of a key. -/
def simpleKey? (s : List Char) : Option (String × List Char) :=
  match lineQuoted? s with
  | some found => some found
  | none =>
    let bare := s.takeWhile isBareKeyChar
    if bare.isEmpty then none else some (String.ofList bare, s.drop bare.length)

/-- Parts joined by dots, with blanks around them. -/
def keyParts? (fuel : Nat) (s : List Char) : Option (List String × List Char) :=
  match fuel with
  | 0 => none
  | fuel + 1 => do
    let (part, s) ← simpleKey? (skipBlanks s)
    match skipBlanks s with
    | '.' :: rest => do
      let (parts, s) ← keyParts? fuel rest
      some (part :: parts, s)
    | s => some ([part], s)

/-- The most parts of a key, and the most arrays and inline tables in each other. -/
def depthLimit : Nat := 80

def key? (s : List Char) : Option (List String × List Char) :=
  (keyParts? (s.length + 1) s).filter fun p => p.1.length ≤ depthLimit

def isScalarChar (c : Char) : Bool :=
  c.isAlphanum || c == '+' || c == '-' || c == '_' || c == '.' || c == ':'

/-- The text of a scalar. A date may be set off from its time by a blank. -/
def scalarText (s : List Char) : List Char × List Char :=
  let first := s.takeWhile isScalarChar
  let rest := s.drop first.length
  match rest with
  | ' ' :: d :: _ =>
    if (DateTime.date? first).any (·.2.isEmpty) ∧ Notation.isDigit d then
      let second := (rest.drop 1).takeWhile isScalarChar
      (first ++ ' ' :: second, rest.drop (second.length + 1))
    else (first, rest)
  | rest => (first, rest)

mutual

/-- A value. `depth` is how many more arrays and inline tables may be opened in each other. -/
def value? (fuel depth : Nat) (s : List Char) : Option (Toml × List Char) :=
  match fuel with
  | 0 => none
  | fuel + 1 =>
    match s with
    | [] => none
    | '[' :: rest =>
      match depth with
      | 0 => none
      | depth + 1 => do
        let (items, s) ← items? fuel depth rest
        some (.array items, s)
    | '\x7b' :: rest =>
      match depth with
      | 0 => none
      | depth + 1 => do
        let (entries, s) ← members? fuel depth [] rest
        some (.table .inlined entries, s)
    | c :: rest =>
      if c = '"' ∨ c = '\'' then
        (quoted? (c :: rest)).map fun (body, after) => (.text body, after)
      else
        let (body, after) := scalarText (c :: rest)
        (scalar? body).map fun v => (v, after)

/-- The items of an array up to its closing bracket. -/
def items? (fuel depth : Nat) (s : List Char) : Option (List Toml × List Char) :=
  match fuel with
  | 0 => none
  | fuel + 1 => do
    match ← skipLines (s.length + 1) s with
    | ']' :: rest => some ([], rest)
    | s => do
      let (v, s) ← value? fuel depth s
      match ← skipLines (s.length + 1) s with
      | ']' :: rest => some ([v], rest)
      | ',' :: rest => do
        let (items, s) ← items? fuel depth rest
        some (v :: items, s)
      | _ => none

/-- The entries of an inline table up to its closing brace, after those read already. -/
def members? (fuel depth : Nat) (entries : Entries) (s : List Char) :
    Option (Entries × List Char) :=
  match fuel with
  | 0 => none
  | fuel + 1 => do
    match ← skipLines (s.length + 1) s with
    | '\x7d' :: rest => some (entries, rest)
    | s => do
      let (key, s) ← key? s
      let s ← char? '=' s
      let (v, s) ← value? fuel depth (skipBlanks s)
      let entries ← addValue v true .inlined key entries
      match ← skipLines (s.length + 1) s with
      | '\x7d' :: rest => some (entries, rest)
      | ',' :: rest => members? fuel depth entries rest
      | _ => none

end

/-- The document so far: its entries, and the header that is in force. -/
structure Draft where
  entries : Entries
  header : List String

def splitLast (key : List String) : Option (List String × String) :=
  key.getLast?.map fun last => (key.dropLast, last)

/-- A header line after its opening brackets: `close` is what closes it, and `enter` opens the table
that it names. -/
def headerLine? (close : List Char) (enter : String → Entries → Option Entries) (d : Draft)
    (s : List Char) : Option (Draft × List Char) := do
  let (key, s) ← key? s
  if !close.isPrefixOf s then none
  else
    let rest ← endOfLine? (s.drop close.length)
    let (path, last) ← splitLast key
    let entries ← modify (enter last) path d.entries
    some (⟨entries, key⟩, rest)

def valueLine? (d : Draft) (s : List Char) : Option (Draft × List Char) := do
  let (key, s) ← key? s
  let s ← char? '=' s
  let (v, s) ← value? (s.length + 1) depthLimit (skipBlanks s)
  let rest ← endOfLine? s
  let entries ← modify (addValue v true .header key) d.header d.entries
  some (⟨entries, d.header⟩, rest)

/-- Takes one line that is not blank. -/
def line? (d : Draft) (s : List Char) : Option (Draft × List Char) :=
  match s with
  | '[' :: '[' :: rest => headerLine? [']', ']'] appendTable d rest
  | '[' :: rest => headerLine? [']'] openTable d rest
  | s => valueLine? d s

def lines? (fuel : Nat) (d : Draft) (s : List Char) : Option Entries :=
  match fuel with
  | 0 => none
  | fuel + 1 => do
    match ← skipLines (s.length + 1) s with
    | [] => some d.entries
    | s => do
      let (d, rest) ← line? d s
      lines? fuel d rest

/-- A byte order mark at the start is skipped. -/
def dropMark : List Char → List Char
  | [] => []
  | c :: rest => if c.toNat = 0xfeff then rest else c :: rest

/-- The entries of the top table of a document. -/
def parse? (s : List Char) : Option Entries :=
  lines? (s.length + 1) ⟨[], []⟩ (dropMark s)

end Boilerplate.Toml
