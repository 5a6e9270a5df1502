import Boilerplate.Text.CharRun

/-!
# White space

The property `White_Space`. `trim` removes it from both ends of a text.
-/

namespace Boilerplate.Text

def blankRuns : List CharRun := [
  ⟨0x9, 0xd, 1⟩, ⟨0x20, 0x20, 1⟩, ⟨0x85, 0x85, 1⟩, ⟨0xa0, 0xa0, 1⟩, ⟨0x1680, 0x1680, 1⟩,
  ⟨0x2000, 0x200a, 1⟩, ⟨0x2028, 0x2029, 1⟩, ⟨0x202f, 0x202f, 1⟩, ⟨0x205f, 0x205f, 1⟩,
  ⟨0x3000, 0x3000, 1⟩]

def isBlank (c : Char) : Bool :=
  inRuns blankRuns c

def dropBlank (s : List Char) : List Char :=
  s.dropWhile isBlank

def dropBlankEnd (s : List Char) : List Char :=
  (dropBlank s.reverse).reverse

def trim (s : List Char) : List Char :=
  dropBlankEnd (dropBlank s)

theorem trim_eq_self {s : List Char} (hFirst : ∀ c ∈ s.head?, isBlank c = false)
    (hLast : ∀ c ∈ s.getLast?, isBlank c = false) : trim s = s := by
  have hKept : ∀ t : List Char, (∀ c ∈ t.head?, isBlank c = false) → dropBlank t = t := by
    intro t h
    cases t with
    | nil => rfl
    | cons c rest => exact List.dropWhile_cons_of_neg (by simp [h c rfl])
  rw [trim, hKept s hFirst, dropBlankEnd, hKept s.reverse (by simpa using hLast),
    List.reverse_reverse]

/-- The text without white space at its two ends. -/
def trimmed (s : String) : String :=
  String.ofList (trim s.toList)

end Boilerplate.Text
