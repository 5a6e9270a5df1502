import Boilerplate.Json.Basic

/-!
# Writing a document

The compact form has no white space. The indented form puts each item on a line of its own, two
blanks deeper than its container; an empty container stays closed up. In texts the quote, the
backslash and the control characters are escaped.
-/

namespace Boilerplate.Json

def hexDigit (n : Nat) : Char :=
  "0123456789abcdef".toList.getD n '0'

def escapeChar (c : Char) : List Char :=
  if c = '"' then ['\\', '"']
  else if c = '\\' then ['\\', '\\']
  else if c = '\x08' then ['\\', 'b']
  else if c = '\x0c' then ['\\', 'f']
  else if c = '\n' then ['\\', 'n']
  else if c = '\r' then ['\\', 'r']
  else if c = '\t' then ['\\', 't']
  else if c < ' ' then ['\\', 'u', '0', '0', hexDigit (c.toNat / 16), hexDigit (c.toNat % 16)]
  else [c]

def writeText (s : String) : List Char :=
  '"' :: (s.toList.flatMap escapeChar ++ ['"'])

/-- A value that has no value of its own is written as `null`. -/
def writeScalar : Json → List Char
  | .boolean b => (toString b).toList
  | .number n => n.text.toList
  | .text s => writeText s
  | _ => "null".toList

mutual

/-- Each of these writes a value in front of the text `rest`. -/
def writeValue (j : Json) (rest : List Char) : List Char :=
  match j with
  | .array [] => '[' :: ']' :: rest
  | .array (v :: items) => '[' :: writeValue v (writeItems items rest)
  | .object [] => '\x7b' :: '\x7d' :: rest
  | .object ((k, v) :: members) =>
    '\x7b' :: (writeText k ++ ':' :: writeValue v (writeMembers members rest))
  | j => writeScalar j ++ rest

def writeItems (items : List Json) (rest : List Char) : List Char :=
  match items with
  | [] => ']' :: rest
  | v :: items => ',' :: writeValue v (writeItems items rest)

def writeMembers (members : List (String × Json)) (rest : List Char) : List Char :=
  match members with
  | [] => '\x7d' :: rest
  | (k, v) :: members => ',' :: (writeText k ++ ':' :: writeValue v (writeMembers members rest))

end

/-- The compact text of a document. -/
def compact (j : Json) : String :=
  String.ofList (writeValue j [])

def newLine (depth : Nat) (rest : List Char) : List Char :=
  '\n' :: (List.replicate (2 * depth) ' ' ++ rest)

mutual

def indentValue (depth : Nat) (j : Json) (rest : List Char) : List Char :=
  match j with
  | .array [] => '[' :: ']' :: rest
  | .array (v :: items) =>
    '[' :: newLine (depth + 1) (indentValue (depth + 1) v (indentItems depth items rest))
  | .object [] => '\x7b' :: '\x7d' :: rest
  | .object ((k, v) :: members) =>
    '\x7b' :: newLine (depth + 1) (writeText k ++ ':' :: ' ' ::
      indentValue (depth + 1) v (indentMembers depth members rest))
  | j => writeScalar j ++ rest

def indentItems (depth : Nat) (items : List Json) (rest : List Char) : List Char :=
  match items with
  | [] => newLine depth (']' :: rest)
  | v :: items =>
    ',' :: newLine (depth + 1) (indentValue (depth + 1) v (indentItems depth items rest))

def indentMembers (depth : Nat) (members : List (String × Json)) (rest : List Char) :
    List Char :=
  match members with
  | [] => newLine depth ('\x7d' :: rest)
  | (k, v) :: members =>
    ',' :: newLine (depth + 1) (writeText k ++ ':' :: ' ' ::
      indentValue (depth + 1) v (indentMembers depth members rest))

end

/-- The indented text of a document. -/
def indented (j : Json) : String :=
  String.ofList (indentValue 0 j [])

end Boilerplate.Json
