/-!
# Gzip wrapping

A gzip file whose blocks are stored as they are, and the checksum that ends it.
-/

namespace Boilerplate.Gzip

/-- One step of the division of polynomials over the field of two elements. -/
def crcShift (c : UInt32) : UInt32 :=
  if c &&& 1 = 1 then (c >>> 1) ^^^ 0xedb88320 else c >>> 1

def crcByte (c : UInt32) (b : UInt8) : UInt32 :=
  let x := c ^^^ b.toUInt32
  crcShift (crcShift (crcShift (crcShift (crcShift (crcShift (crcShift (crcShift x)))))))

def crc32 (bytes : List UInt8) : UInt32 :=
  bytes.foldl crcByte 0xffffffff ^^^ 0xffffffff

/-- The `width` low bytes of a number, lowest first. -/
def littleEndian (width n : Nat) : List UInt8 :=
  (List.range width).map fun i => (n >>> (8 * i)).toUInt8

/-- The largest stored block. -/
def storedLimit : Nat := 65535

def storedBlock (isLast : Bool) (body : List UInt8) : List UInt8 :=
  (if isLast then 1 else 0) :: littleEndian 2 body.length
    ++ littleEndian 2 (storedLimit - body.length) ++ body

def storedBlocks (bytes : List UInt8) : List UInt8 :=
  if bytes.length ≤ storedLimit then storedBlock true bytes
  else storedBlock false (bytes.take storedLimit) ++ storedBlocks (bytes.drop storedLimit)
termination_by bytes.length
decreasing_by
  simp only [List.length_drop]
  unfold storedLimit at *
  omega

def header : List UInt8 :=
  [0x1f, 0x8b, 8, 0, 0, 0, 0, 0, 0, 0xff]

def wrap (bytes : List UInt8) : List UInt8 :=
  header ++ storedBlocks bytes ++ littleEndian 4 (crc32 bytes).toNat ++ littleEndian 4 bytes.length

def natOfLittleEndian (bytes : List UInt8) : Nat :=
  bytes.foldr (fun b n => b.toNat + 256 * n) 0

/-- The content of stored blocks. `fuel` bounds their number. -/
def readBlocks? (fuel : Nat) (bytes : List UInt8) : Option (List UInt8) :=
  match fuel, bytes with
  | fuel + 1, mark :: a :: b :: _ :: _ :: rest =>
    let size := natOfLittleEndian [a, b]
    if rest.length < size then none
    else if mark = 1 then some (rest.take size)
    else if mark = 0 then (readBlocks? fuel (rest.drop size)).map (rest.take size ++ ·)
    else none
  | _, _ => none

/-- The content of a gzip file whose blocks are stored and whose checksum is right. -/
def unwrap? (bytes : List UInt8) : Option (List UInt8) :=
  if header.isPrefixOf bytes then
    let body := bytes.drop header.length
    (readBlocks? (body.length + 1) body).filter fun content => wrap content == bytes
  else none

end Boilerplate.Gzip
