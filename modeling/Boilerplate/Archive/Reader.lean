import Boilerplate.Archive.Tar

/-!
# Reading a tar archive

Members are read one after the other: a header block whose checksum agrees, then the body. An
archive ends with two blocks of zeros. A member of type `L` carries the name of the next member,
which has the name that its own header stores otherwise.
-/

namespace Boilerplate.Tar

structure Member where
  name : List UInt8
  typeFlag : UInt8
  mode : Nat
  size : Nat
  time : Nat
  body : List UInt8
  deriving DecidableEq, Repr

/-- `length` bytes from `start` on. -/
def slice (start length : Nat) (bytes : List UInt8) : List UInt8 :=
  (bytes.drop start).take length

def isOctalDigit (b : UInt8) : Bool :=
  0x30 ≤ b && b < 0x38

def natOfOctal (ds : List UInt8) : Nat :=
  ds.foldl (fun n b => 8 * n + (b - 0x30).toNat) 0

def natOfBigEndian (bytes : List UInt8) : Nat :=
  bytes.foldl (fun n b => 256 * n + b.toNat) 0

/-- The value of a number field: base 256 behind a mark, else octal digits. -/
def readNumber : List UInt8 → Nat
  | [] => 0
  | b :: rest =>
    if b = 0x80 then natOfBigEndian rest else natOfOctal ((b :: rest).takeWhile isOctalDigit)

/-- A text field ends at its first zero byte. -/
def readText (field : List UInt8) : List UInt8 :=
  field.takeWhile (· != 0)

/-- The checksum that a header block should hold. -/
def blockChecksum (block : List UInt8) : Nat :=
  byteSum (block.take 148) + 8 * 32 + byteSum (block.drop 156)

def isZeroBlock (block : List UInt8) : Bool :=
  block.length == blockSize && block.all (· == 0)

/-- The whole blocks that a body of `size` bytes takes. -/
def bodySpan (size : Nat) : Nat :=
  (size + blockSize - 1) / blockSize * blockSize

def readMember? (bytes : List UInt8) : Option (Member × List UInt8) :=
  let block := bytes.take blockSize
  let rest := bytes.drop blockSize
  let size := readNumber (slice 124 12 block)
  if block.length ≠ blockSize ∨ readNumber (slice 148 8 block) ≠ blockChecksum block
      ∨ rest.length < bodySpan size then none
  else
    some (⟨readText (slice 0 nameSize block), block.getD 156 0, readNumber (slice 100 8 block),
      size, readNumber (slice 136 12 block), rest.take size⟩, rest.drop (bodySpan size))

/-- The members of an archive. -/
def members? (bytes : List UInt8) : Option (List Member) :=
  if isZeroBlock (bytes.take blockSize) then
    if bytes.drop blockSize = zeros blockSize then some [] else none
  else
    match readMember? bytes with
    | none => none
    | some (m, rest) =>
      if rest.length < bytes.length then (members? rest).map (m :: ·) else none
termination_by bytes.length

def longNameFlag : UInt8 := 0x4c

/-- Members with the names that are carried for them; `carried` is the name for the next member. -/
def giveNames? (carried : Option (List UInt8)) : List Member → Option (List Member)
  | [] => if carried.isSome then none else some []
  | m :: rest =>
    if m.typeFlag = longNameFlag then
      if carried.isSome then none else giveNames? (some (readText m.body)) rest
    else (giveNames? none rest).map ({ m with name := carried.getD m.name } :: ·)

/-- The members of an archive under their whole names. -/
def namedMembers? (bytes : List UInt8) : Option (List Member) :=
  (members? bytes).bind (giveNames? none)

end Boilerplate.Tar
