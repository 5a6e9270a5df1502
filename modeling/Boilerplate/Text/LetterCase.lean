import Boilerplate.Text.Alphanumeric
import Boilerplate.Text.CaseTable

/-!
# Letter case

Full case mapping of the Unicode standard: a character may map to several, and a capital sigma
that ends a word becomes a final sigma. Nothing depends on a language.
-/

namespace Boilerplate.Text

def isUppercase (c : Char) : Bool :=
  inRuns uppercaseRuns c

def isLowercase (c : Char) : Bool :=
  inRuns lowercaseRuns c

def isCased (c : Char) : Bool :=
  isUppercase c || isLowercase c || inRuns titlecaseRuns c

def isCaseIgnorable (c : Char) : Bool :=
  inRuns caseIgnorableRuns c

/-- The simple mapping: the image under the first run that holds the character. -/
def mapByRuns (runs : List CaseRun) (c : Char) : Char :=
  match runs.find? (·.source.contains c.toNat) with
  | some r => Char.ofNat (r.target + (c.toNat - r.source.first))
  | none => c

/-- The dotted capital I is the one character whose lower case is a sequence. -/
def lowerChar (c : Char) : List Char :=
  if c.toNat < 0x80 then [c.toLower]
  else if c.toNat == 0x130 then ['i', Char.ofNat 0x307]
  else [mapByRuns lowerCaseRuns c]

def upperChar (c : Char) : List Char :=
  if c.toNat < 0x80 then [c.toUpper]
  else match upperCaseExpansions.find? (·.1 == c.toNat) with
    | some (_, image) => image.map Char.ofNat
    | none => [mapByRuns upperCaseRuns c]

/-- Whether the first character that is not case-ignorable is cased. -/
def leadsToCased (s : List Char) : Bool :=
  match s.dropWhile isCaseIgnorable with
  | c :: _ => isCased c
  | [] => false

def capitalSigma : Char := 'Σ'

/-- The lower case of a capital sigma between the reversed text `before` and the text `after`. -/
def lowerSigma (before after : List Char) : Char :=
  if leadsToCased before && !leadsToCased after then 'ς' else 'σ'

/-- Lower case of `s`, where `before` is the text in front of it, reversed. -/
def lowerFrom (before : List Char) : List Char → List Char
  | [] => []
  | c :: rest =>
    (if c == capitalSigma then [lowerSigma before rest] else lowerChar c)
      ++ lowerFrom (c :: before) rest

def lower (s : List Char) : List Char :=
  lowerFrom [] s

def upper (s : List Char) : List Char :=
  s.flatMap upperChar

end Boilerplate.Text
