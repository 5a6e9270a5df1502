/-!
# Text out of bytes that may be damaged

Bytes are read as UTF-8. Where they are not well formed, each longest start of a character, or else
a single byte, is replaced by one replacement character; so any bytes give a text.
-/

namespace Boilerplate.Text

/-- What the first byte of a longer character says: how many bytes follow, and the range of the
next one. -/
structure Lead where
  count : Nat
  low : UInt8
  high : UInt8
  deriving DecidableEq, Repr

/-- The narrower ranges leave out surrogates, code points that are too large, and characters that a
shorter form could hold. -/
def lead? (b : UInt8) : Option Lead :=
  if 0xc2 ≤ b ∧ b ≤ 0xdf then some ⟨1, 0x80, 0xbf⟩
  else if b = 0xe0 then some ⟨2, 0xa0, 0xbf⟩
  else if b = 0xed then some ⟨2, 0x80, 0x9f⟩
  else if 0xe1 ≤ b ∧ b ≤ 0xef then some ⟨2, 0x80, 0xbf⟩
  else if b = 0xf0 then some ⟨3, 0x90, 0xbf⟩
  else if 0xf1 ≤ b ∧ b ≤ 0xf3 then some ⟨3, 0x80, 0xbf⟩
  else if b = 0xf4 then some ⟨3, 0x80, 0x8f⟩
  else none

/-- The bytes at the front that go on with a character: at most `count`, the first one from `low` to
`high`. -/
def continuation (low high : UInt8) : Nat → List UInt8 → List UInt8
  | 0, _ => []
  | _, [] => []
  | count + 1, b :: rest =>
    if low ≤ b ∧ b ≤ high then b :: continuation 0x80 0xbf count rest else []

/-- The code point of a character of `count` bytes more than the first. -/
def codePoint (count : Nat) (first : UInt8) (more : List UInt8) : Nat :=
  let bits := first.toNat % (0x40 >>> count)
  more.foldl (fun n b => 0x40 * n + b.toNat % 0x40) bits

def replacement : Char := Char.ofNat 0xfffd

/-- The text of any bytes. -/
def decode : List UInt8 → List Char
  | [] => []
  | b :: rest =>
    if b < 0x80 then Char.ofNat b.toNat :: decode rest
    else
      match lead? b with
      | none => replacement :: decode rest
      | some lead =>
        let more := continuation lead.low lead.high lead.count rest
        let c :=
          if more.length = lead.count then Char.ofNat (codePoint lead.count b more)
          else replacement
        c :: decode (rest.drop more.length)
  termination_by s => s.length
  decreasing_by
    · exact Nat.lt_succ_self _
    · exact Nat.lt_succ_self _
    · exact Nat.lt_succ_of_le (List.length_drop ▸ Nat.sub_le _ _)

end Boilerplate.Text
