/-!
# Runs of code points

A character class of the Unicode standard is stored as a short list of runs: every `step`-th code
point from `first` to `last`.
-/

namespace Boilerplate.Text

structure CharRun where
  first : Nat
  last : Nat
  step : Nat
  deriving DecidableEq, Repr

def CharRun.contains (r : CharRun) (n : Nat) : Bool :=
  r.first ≤ n && n ≤ r.last && (n - r.first) % r.step == 0

theorem CharRun.contains_iff {r : CharRun} {n : Nat} :
    r.contains n = true ↔ r.first ≤ n ∧ n ≤ r.last ∧ (n - r.first) % r.step = 0 := by
  simp [contains, and_assoc]

/-- Membership of a character in the class that a list of runs stores. -/
def inRuns (runs : List CharRun) (c : Char) : Bool :=
  runs.any (·.contains c.toNat)

theorem inRuns_iff {runs : List CharRun} {c : Char} :
    inRuns runs c = true ↔ ∃ r ∈ runs, r.contains c.toNat = true := by
  simp [inRuns]

end Boilerplate.Text
