/-!
# Positions in a source

A position is a line and a column, both counted from one and in characters. Offsets into a source
count bytes of its UTF-8 form.
-/

namespace Boilerplate.Text

structure Position where
  line : Nat
  column : Nat
  deriving DecidableEq, Repr

def byteLength (s : List Char) : Nat :=
  s.foldr (fun c n => c.utf8Size + n) 0

@[simp] theorem byteLength_nil : byteLength [] = 0 := rfl

@[simp] theorem byteLength_cons (c : Char) (s : List Char) :
    byteLength (c :: s) = c.utf8Size + byteLength s := rfl

@[simp] theorem byteLength_append (s t : List Char) :
    byteLength (s ++ t) = byteLength s + byteLength t := by
  induction s with
  | nil => exact (Nat.zero_add _).symm
  | cons c s ih => rw [List.cons_append, byteLength_cons, byteLength_cons, ih, Nat.add_assoc]

theorem byteLength_le_of_sublist {s t : List Char} (h : s.Sublist t) :
    byteLength s ≤ byteLength t := by
  induction h with
  | slnil => exact Nat.le_refl 0
  | cons c _ ih =>
    rw [byteLength_cons]
    omega
  | cons_cons c _ ih =>
    rw [byteLength_cons, byteLength_cons]
    omega

namespace Position

def start : Position := ⟨1, 1⟩

/-- The position after a character that stands at `p`. -/
def advance (p : Position) (c : Char) : Position :=
  if c = '\n' then ⟨p.line + 1, 1⟩ else ⟨p.line, p.column + 1⟩

/-- The position that follows the text `s`. -/
def after (s : List Char) : Position :=
  s.foldl advance start

/-- The characters in front of a byte offset, or `none` if the offset is inside a character. An
offset beyond the end counts as the end. -/
def charsBefore? : Nat → List Char → Option (List Char)
  | _, [] => some []
  | offset, c :: rest =>
    if offset = 0 then some []
    else if offset < c.utf8Size then none
    else (charsBefore? (offset - c.utf8Size) rest).map (c :: ·)

/-- The position of a byte offset. An offset inside a character is taken to the end of the source.
-/
def locate (source : List Char) (offset : Nat) : Position :=
  after ((charsBefore? offset source).getD source)

def describe (p : Position) : String :=
  s!"line {p.line}, column {p.column}"

end Position

end Boilerplate.Text
