import Boilerplate.Json.Basic

/-!
# Symbols of a document

The text of a document is a row of symbols with white space between them: brackets, colons, commas,
texts, numbers and the three words.
-/

namespace Boilerplate.Json

/-- A number as it is written: its digits by part. -/
structure NumberText where
  negative : Bool
  whole : List Char
  fraction : Option (List Char)
  exponent : Option (Bool × List Char)
  deriving DecidableEq, Repr

inductive Symbol
  | openArray
  | closeArray
  | openObject
  | closeObject
  | colon
  | comma
  /-- A text, or `none` if it holds a lone surrogate. -/
  | text (s : Option String)
  | number (n : NumberText)
  | null
  | boolean (b : Bool)
  deriving DecidableEq, Repr

def hexValue? (c : Char) : Option Nat :=
  if '0' ≤ c ∧ c ≤ '9' then some (c.toNat - '0'.toNat)
  else if 'a' ≤ c ∧ c ≤ 'f' then some (c.toNat - 'a'.toNat + 10)
  else if 'A' ≤ c ∧ c ≤ 'F' then some (c.toNat - 'A'.toNat + 10)
  else none

def hexUnit? (a b c d : Char) : Option Nat := do
  return (((← hexValue? a) * 16 + (← hexValue? b)) * 16 + (← hexValue? c)) * 16 + (← hexValue? d)

def isLeadUnit (n : Nat) : Bool :=
  0xd800 ≤ n && n < 0xdc00

def isTrailUnit (n : Nat) : Bool :=
  0xdc00 ≤ n && n < 0xe000

def ofSurrogates (lead trail : Nat) : Char :=
  Char.ofNat (0x10000 + (lead - 0xd800) * 0x400 + (trail - 0xdc00))

def plainEscape? : Char → Option Char
  | '"' => some '"'
  | '\\' => some '\\'
  | '/' => some '/'
  | 'b' => some '\x08'
  | 'f' => some '\x0c'
  | 'n' => some '\n'
  | 'r' => some '\r'
  | 't' => some '\t'
  | _ => none

/-- Puts a character, or the mark of a lone surrogate, in front of a text. -/
def consChar (c : Option Char) (rest : Option (List (Option Char) × List Char)) :
    Option (List (Option Char) × List Char) :=
  rest.map fun (s, after) => (c :: s, after)

/-- Four hexadecimal digits as a code unit, and what follows them. -/
def hexUnitOf? : List Char → Option (Nat × List Char)
  | a :: b :: c :: d :: rest => (hexUnit? a b c d).map fun n => (n, rest)
  | _ => none

theorem length_of_hexUnitOf? {s rest : List Char} {n : Nat} (h : hexUnitOf? s = some (n, rest)) :
    rest.length < s.length := by
  unfold hexUnitOf? at h
  split at h
  · obtain ⟨_, _, he⟩ := Option.map_eq_some_iff.1 h
    obtain ⟨rfl, rfl⟩ := Prod.mk.inj he
    simp
    omega
  · simp at h

/-- What follows a backslash and a `u`: the character that the escape stands for, or `none` for a
lone surrogate, and what follows the escape. A leading surrogate takes the escape after it along. -/
def unicodeEscape? (s : List Char) : Option (Option Char × List Char) :=
  match hexUnitOf? s with
  | none => none
  | some (unit, rest) =>
    if isLeadUnit unit then
      match rest with
      | '\\' :: 'u' :: more =>
        (hexUnitOf? more).map fun (next, rest) =>
          (if isTrailUnit next then some (ofSurrogates unit next) else none, rest)
      | _ => some (none, rest)
    else if isTrailUnit unit then some (none, rest)
    else some (some (Char.ofNat unit), rest)

theorem length_of_unicodeEscape? {s rest : List Char} {c : Option Char}
    (h : unicodeEscape? s = some (c, rest)) : rest.length < s.length := by
  unfold unicodeEscape? at h
  split at h
  · simp at h
  · rename_i unit more hu
    have hl := length_of_hexUnitOf? hu
    split at h
    · split at h
      · obtain ⟨⟨n, r⟩, hn, he⟩ := Option.map_eq_some_iff.1 h
        have := length_of_hexUnitOf? hn
        simp at he hl
        obtain ⟨_, rfl⟩ := he
        omega
      · simp_all
    · split at h <;> simp_all

/-- The characters up to the closing quote, and what follows it. -/
def textBody (s : List Char) : Option (List (Option Char) × List Char) :=
  match s with
  | [] => none
  | '"' :: after => some ([], after)
  | '\\' :: 'u' :: escape =>
    match _read : unicodeEscape? escape with
    | none => none
    | some (c, rest) => consChar c (textBody rest)
  | '\\' :: c :: rest =>
    match plainEscape? c with
    | none => none
    | some e => consChar (some e) (textBody rest)
  | c :: rest => if c < ' ' then none else consChar (some c) (textBody rest)
termination_by s.length
decreasing_by
  · have := length_of_unicodeEscape? _read
    simp only [List.length_cons]
    omega
  all_goals
    simp only [List.length_cons]
    omega

/-- A run of digits and what follows it. -/
def digitRun (s : List Char) : List Char × List Char :=
  (s.takeWhile Notation.isDigit, s.dropWhile Notation.isDigit)

/-- The whole part: a lone zero, or digits that start with none. -/
def wholePart? (s : List Char) : Option (List Char × List Char) :=
  match s with
  | '0' :: rest => some (['0'], rest)
  | s => if (digitRun s).1.isEmpty then none else some (digitRun s)

/-- The fraction: a point needs a digit after it. -/
def fractionPart? (s : List Char) : Option (Option (List Char) × List Char) :=
  match s with
  | '.' :: rest =>
    if (digitRun rest).1.isEmpty then none else some (some (digitRun rest).1, (digitRun rest).2)
  | s => some (none, s)

def exponentPart? (s : List Char) : Option (Option (Bool × List Char) × List Char) :=
  match s with
  | [] => some (none, [])
  | c :: rest =>
    if c = 'e' ∨ c = 'E' then
      let (negative, rest) := Notation.splitSign rest
      if (digitRun rest).1.isEmpty then none
      else some (some (negative, (digitRun rest).1), (digitRun rest).2)
    else some (none, c :: rest)

def numberText? (s : List Char) : Option (NumberText × List Char) := do
  let (negative, s) := match s with
    | '-' :: rest => (true, rest)
    | s => (false, s)
  let (whole, s) ← wholePart? s
  let (fraction, s) ← fractionPart? s
  let (exponent, s) ← exponentPart? s
  return (⟨negative, whole, fraction, exponent⟩, s)

def isSpace (c : Char) : Bool :=
  c == ' ' || c == '\n' || c == '\t' || c == '\r'

/-- The symbol at the front of a text that starts with no white space, and what follows it. -/
def firstSymbol? (s : List Char) : Option (Symbol × List Char) :=
  match s with
  | '[' :: rest => some (.openArray, rest)
  | ']' :: rest => some (.closeArray, rest)
  | '\x7b' :: rest => some (.openObject, rest)
  | '\x7d' :: rest => some (.closeObject, rest)
  | ':' :: rest => some (.colon, rest)
  | ',' :: rest => some (.comma, rest)
  | 'n' :: 'u' :: 'l' :: 'l' :: rest => some (.null, rest)
  | 't' :: 'r' :: 'u' :: 'e' :: rest => some (.boolean true, rest)
  | 'f' :: 'a' :: 'l' :: 's' :: 'e' :: rest => some (.boolean false, rest)
  | '"' :: rest =>
    (textBody rest).map fun (cs, after) => (.text ((cs.mapM id).map String.ofList), after)
  | s => (numberText? s).map fun (n, after) => (.number n, after)

/-- All symbols of a text. Every symbol is shorter than the text it is taken from. -/
def symbols? (s : List Char) : Option (List Symbol) :=
  match s with
  | [] => some []
  | c :: rest =>
    if isSpace c then symbols? rest
    else
      match firstSymbol? (c :: rest) with
      | none => none
      | some (symbol, after) =>
        if _shorter : after.length < (c :: rest).length then
          (symbols? after).map (symbol :: ·)
        else none
termination_by s.length
decreasing_by
  · exact Nat.lt_add_one _
  · exact _shorter

end Boilerplate.Json
