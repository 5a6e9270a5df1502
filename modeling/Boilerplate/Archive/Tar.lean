import Boilerplate.Path.Relative

/-!
# Tar archives

An archive is a row of members and two blocks of zeros. A member is a header block and its body,
filled up to whole blocks of 512 bytes. A name longer than 100 bytes is carried by a member of its
own in front, and cut short in the header.
-/

namespace Boilerplate.Tar

def blockSize : Nat := 512

def nameSize : Nat := 100

def bytesOf (s : String) : List UInt8 :=
  s.toUTF8.data.toList

def asciiBytes (s : List Char) : List UInt8 :=
  s.map fun c => c.toNat.toUInt8

def zeros (n : Nat) : List UInt8 :=
  List.replicate n 0

/-- Octal digits, padded with zeros in front. -/
def octal (width n : Nat) : List UInt8 :=
  let ds := Nat.toDigits 8 n
  asciiBytes (List.replicate (width - ds.length) '0' ++ ds)

/-- The `width` low bytes of a number, highest first. -/
def bigEndian (width n : Nat) : List UInt8 :=
  (List.range width).reverse.map fun i => (n >>> (8 * i)).toUInt8

/-- A field of twelve bytes: eleven octal digits and a zero byte, or beyond them a mark and eleven
bytes of base 256. -/
def numberField (n : Nat) : List UInt8 :=
  if n < 0o100000000000 then octal 11 n ++ [0] else 0x80 :: bigEndian 11 n

def pad (width : Nat) (bytes : List UInt8) : List UInt8 :=
  bytes ++ zeros (width - bytes.length)

structure Header where
  name : List UInt8
  /-- The owner field, which is also the group field. -/
  owner : List UInt8
  size : Nat
  time : Nat
  typeFlag : Char

/-- The fields in front of the checksum. -/
def Header.front (h : Header) : List UInt8 :=
  pad nameSize h.name ++ octal 7 0o644 ++ [0] ++ h.owner ++ h.owner ++ numberField h.size
    ++ numberField h.time

/-- The fields behind the checksum. -/
def Header.back (h : Header) : List UInt8 :=
  pad 356 (asciiBytes [h.typeFlag] ++ zeros 100 ++ asciiBytes "ustar  ".toList)

def byteSum (bytes : List UInt8) : Nat :=
  bytes.foldl (fun total b => total + b.toNat) 0

/-- The sum of the bytes of the header, with blanks for the checksum itself. -/
def Header.checksum (h : Header) : Nat :=
  byteSum h.front + 8 * 32 + byteSum h.back

def Header.bytes (h : Header) : List UInt8 :=
  h.front ++ octal 7 h.checksum ++ [0] ++ h.back

/-- A body filled up to whole blocks. -/
def blocks (body : List UInt8) : List UInt8 :=
  body ++ zeros ((blockSize - body.length % blockSize) % blockSize)

/-- The member that carries a long name. -/
def longNameMember (name : List UInt8) : List UInt8 :=
  let body := name ++ [0]
  let header : Header :=
    ⟨asciiBytes "././@LongLink".toList, octal 7 0 ++ [0], body.length, 0, 'L'⟩
  header.bytes ++ blocks body

/-- The characters of a text that fit into `n` bytes. -/
def takeBytes (n : Nat) : List Char → List Char
  | [] => []
  | c :: rest => if c.utf8Size ≤ n then c :: takeBytes (n - c.utf8Size) rest else []

/-- A name as a header stores it: a final piece that is a dot is dropped with its slash. -/
def storedName (name : List Char) : List Char :=
  match name.reverse with
  | '.' :: '/' :: rest => rest.reverse
  | _ => name

/-- The entry of a file. -/
structure Entry where
  name : String
  content : String
  time : Nat
  deriving DecidableEq, Repr

def isLongName (name : List UInt8) : Bool :=
  nameSize < name.length

def Entry.headerName (e : Entry) : List UInt8 :=
  if isLongName (bytesOf e.name) then
    bytesOf (String.ofList (storedName (takeBytes nameSize e.name.toList)))
  else bytesOf e.name

def Entry.bytes (e : Entry) : List UInt8 :=
  let body := bytesOf e.content
  let header : Header := ⟨e.headerName, zeros 8, body.length, e.time, '0'⟩
  (if isLongName (bytesOf e.name) then longNameMember (bytesOf e.name) else [])
    ++ header.bytes ++ blocks body

/-- An archive of entries. -/
def archive (entries : List Entry) : List UInt8 :=
  entries.flatMap Entry.bytes ++ zeros (2 * blockSize)

end Boilerplate.Tar
