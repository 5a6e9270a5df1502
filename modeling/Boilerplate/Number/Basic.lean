import Boilerplate.Number.Shortest
import Boilerplate.Number.Notation

/-!
# Numbers of a configuration

A number is an integer of 64 bits, signed or unsigned, or a finite double. The form is kept: `3` and
`3.0` are different numbers with the same value.
-/

namespace Boilerplate

/-- The integers that fit 64 bits, signed or unsigned. -/
def WordRange (n : Int) : Prop :=
  -0x8000000000000000 ≤ n ∧ n < 0x10000000000000000

instance (n : Int) : Decidable (WordRange n) :=
  inferInstanceAs (Decidable (_ ∧ _))

inductive Number
  | integer (n : Int) (inRange : WordRange n)
  | float (x : Binary64)
  deriving DecidableEq

namespace Number

def ofInt? (n : Int) : Option Number :=
  if h : WordRange n then some (.integer n h) else none

theorem ofInt?_eq_some {n : Int} (h : WordRange n) : ofInt? n = some (.integer n h) := by
  simp [ofInt?, h]

def zero : Number :=
  .integer 0 (by decide)

/-- The integers of a signed word. -/
def isSigned (n : Int) : Bool :=
  -0x8000000000000000 ≤ n && n < 0x8000000000000000

/-- The number as a signed word, if it is an integer that fits one. -/
def signed? : Number → Option Int
  | .integer n _ => if isSigned n then some n else none
  | .float _ => none

/-- The nearest double. -/
def toBinary64 : Number → Binary64
  | .integer n _ => (Binary64.ofInt? n).getD ⟨false, 0⟩
  | .float x => x

/-- Two signed words are compared exactly, all other pairs as doubles. -/
def sameValue (a b : Number) : Bool :=
  match a.signed?, b.signed? with
  | some x, some y => x == y
  | _, _ => a.toBinary64.sameValue b.toBinary64

def isZero (a : Number) : Bool :=
  a.toBinary64.isZero

def text : Number → String
  | .integer n _ => toString n
  | .float x => x.text

/-- A text in decimal notation: a signed word keeps integer form, anything else is a double. -/
def ofSigned? (s : List Char) : Option Number :=
  match Notation.integer? s with
  | some n => if isSigned n then ofInt? n else none
  | none => none

end Number

end Boilerplate
