import Boilerplate.Proofs.Archive.Fields
import Boilerplate.Proofs.Archive.Packing

/-! # Members of an archive

A header block is read back field by field, and its checksum agrees. So the members of an archive
are read back in order, and those with long names get their whole names again.
-/

namespace Boilerplate.Tar

/-- What a header must satisfy to be written without loss. -/
structure Header.Fits (h : Header) : Prop where
  name : h.name.length ≤ nameSize
  clear : 0 ∉ h.name
  owner : h.owner.length = 8
  size : h.size < Nat.pow 256 11
  time : h.time < Nat.pow 256 11

namespace Header

variable {h : Header}

def modeField : List UInt8 :=
  octal 7 0o644 ++ [0]

def checksumField (h : Header) : List UInt8 :=
  octal 7 h.checksum ++ [0]

theorem bytes_eq (h : Header) : h.bytes =
    pad nameSize h.name ++ modeField ++ h.owner ++ h.owner ++ numberField h.size ++
      numberField h.time ++ h.checksumField ++ h.back := by
  simp [bytes, front, modeField, checksumField]

theorem length_modeField : modeField.length = 8 := by
  decide

theorem length_front (hFits : h.Fits) : h.front.length = 148 := by
  have hName : (pad nameSize h.name).length = 100 := length_pad hFits.name
  have hMode : (octal 7 0o644).length = 7 := by decide
  simp [front, hName, hMode, hFits.owner, length_numberField]

theorem length_back (h : Header) : h.back.length = 356 := by
  apply length_pad
  simp [zeros, asciiBytes]

theorem checksum_lt (hFits : h.Fits) : h.checksum < Nat.pow 8 7 := by
  have hFront := byteSum_le h.front
  have hBack := byteSum_le h.back
  rw [length_front hFits] at hFront
  rw [length_back] at hBack
  have hLimit : Nat.pow 8 7 = 2097152 := rfl
  rw [checksum, hLimit]
  omega

theorem length_checksumField (hFits : h.Fits) : h.checksumField.length = 8 := by
  rw [checksumField, List.length_append, (octal_spec (by decide) (checksum_lt hFits)).1]
  rfl

theorem length_bytes (hFits : h.Fits) : h.bytes.length = blockSize := by
  have hBytes : h.bytes = h.front ++ h.checksumField ++ h.back := by
    simp [bytes, checksumField]
  rw [hBytes, List.length_append, List.length_append, length_front hFits,
    length_checksumField hFits, length_back]
  rfl

theorem slice_name (hFits : h.Fits) : slice 0 nameSize h.bytes = pad nameSize h.name := by
  have hRow : h.bytes = pad nameSize h.name ++ (modeField ++ h.owner ++ h.owner ++
      numberField h.size ++ numberField h.time ++ h.checksumField ++ h.back) := by
    simp [bytes_eq]
  have hLength : (pad nameSize h.name).length = nameSize := length_pad hFits.name
  rw [hRow, slice, List.drop_zero]
  exact List.take_left' hLength

theorem slice_mode (hFits : h.Fits) : slice 100 8 h.bytes = modeField := by
  have hRow : h.bytes = pad nameSize h.name ++ (modeField ++ (h.owner ++ h.owner ++
      numberField h.size ++ numberField h.time ++ h.checksumField ++ h.back)) := by
    simp [bytes_eq]
  exact slice_eq hRow (length_pad hFits.name) length_modeField

theorem slice_size (hFits : h.Fits) : slice 124 12 h.bytes = numberField h.size := by
  have hRow : h.bytes = (pad nameSize h.name ++ modeField ++ h.owner ++ h.owner) ++
      (numberField h.size ++ (numberField h.time ++ h.checksumField ++ h.back)) := by
    simp [bytes_eq]
  refine slice_eq hRow ?_ (length_numberField h.size)
  simp only [List.length_append, length_pad hFits.name, length_modeField, hFits.owner]
  rfl

theorem slice_time (hFits : h.Fits) : slice 136 12 h.bytes = numberField h.time := by
  have hRow : h.bytes = (pad nameSize h.name ++ modeField ++ h.owner ++ h.owner ++
      numberField h.size) ++ (numberField h.time ++ (h.checksumField ++ h.back)) := by
    simp [bytes_eq]
  refine slice_eq hRow ?_ (length_numberField h.time)
  simp only [List.length_append, length_pad hFits.name, length_modeField, hFits.owner,
    length_numberField]
  rfl

theorem bytes_eq_front (h : Header) : h.bytes = h.front ++ (h.checksumField ++ h.back) := by
  simp [bytes, checksumField]

theorem slice_checksum (hFits : h.Fits) : slice 148 8 h.bytes = h.checksumField :=
  slice_eq h.bytes_eq_front (length_front hFits) (length_checksumField hFits)

theorem blockChecksum_bytes (hFits : h.Fits) : blockChecksum h.bytes = h.checksum := by
  have hFront : h.bytes.take 148 = h.front := by
    rw [bytes_eq_front, ← length_front hFits, List.take_left]
  have hBack : h.bytes.drop 156 = h.back := by
    have hLength : (h.front ++ h.checksumField).length = 156 := by
      rw [List.length_append, length_front hFits, length_checksumField hFits]
    rw [bytes_eq_front, ← List.append_assoc, ← hLength, List.drop_left]
  rw [blockChecksum, hFront, hBack, checksum]

theorem getD_typeFlag (hFits : h.Fits) : h.bytes.getD 156 0 = h.typeFlag.toNat.toUInt8 := by
  have hLength : (h.front ++ h.checksumField).length = 156 := by
    rw [List.length_append, length_front hFits, length_checksumField hFits]
  rw [bytes_eq_front, ← List.append_assoc, List.getD_eq_getElem?_getD,
    List.getElem?_append_right (Nat.le_of_eq hLength), hLength]
  rfl

theorem isZeroBlock_bytes (h : Header) : isZeroBlock h.bytes = false := by
  -- The mode is written in digits whatever the other fields hold.
  have hDigit : 0x30 ∈ h.bytes := by
    have hMode : 0x30 ∈ modeField := by decide
    simp only [bytes_eq, List.mem_append]
    simp [hMode]
  have hSome : h.bytes.all (· == 0) = false := by
    rw [List.all_eq_false]
    exact ⟨0x30, hDigit, by decide⟩
  rw [isZeroBlock, hSome, Bool.and_false]

end Header

theorem length_blocks (body : List UInt8) : (blocks body).length = bodySpan body.length := by
  rw [blocks, bodySpan, List.length_append, zeros, List.length_replicate, blockSize]
  omega

/-- The member that a header and a body are read back as. -/
def Header.member (h : Header) (body : List UInt8) : Member :=
  ⟨h.name, h.typeFlag.toNat.toUInt8, 0o644, h.size, h.time, body⟩

theorem readMember?_append {h : Header} (hFits : h.Fits) {body : List UInt8}
    (hSize : h.size = body.length) (rest : List UInt8) :
    readMember? (h.bytes ++ (blocks body ++ rest)) = some (h.member body, rest) := by
  have hLength := Header.length_bytes hFits
  have hBlock : (h.bytes ++ (blocks body ++ rest)).take blockSize = h.bytes := by
    rw [← hLength, List.take_left]
  have hAfter : (h.bytes ++ (blocks body ++ rest)).drop blockSize = blocks body ++ rest := by
    rw [← hLength, List.drop_left]
  have hNumber : readNumber (numberField h.size) = h.size := readNumber_numberField hFits.size
  have hChecksum : readNumber h.checksumField = h.checksum :=
    readNumber_octal (by decide) (Header.checksum_lt hFits)
  have hBody : (blocks body ++ rest).take h.size = body := by
    rw [hSize, blocks, List.append_assoc, List.take_left]
  have hRest : (blocks body ++ rest).drop (bodySpan h.size) = rest := by
    rw [hSize, ← length_blocks, List.drop_left]
  have hEnough : ¬ (blocks body ++ rest).length < bodySpan h.size := by
    rw [List.length_append, length_blocks, hSize]
    omega
  have hText : readText (pad nameSize h.name) = h.name := readText_append_zeros hFits.clear _
  have hMode : readNumber Header.modeField = 0o644 := by decide
  simp only [readMember?, hBlock, hAfter, Header.slice_size hFits, Header.slice_checksum hFits,
    Header.slice_name hFits, Header.slice_mode hFits, Header.slice_time hFits, hNumber, hChecksum,
    Header.blockChecksum_bytes hFits, hLength, hEnough, Header.getD_typeFlag hFits, hBody, hRest,
    hText, hMode, readNumber_numberField hFits.time]
  simp [Header.member]

theorem members?_append {h : Header} (hFits : h.Fits) {body : List UInt8}
    (hSize : h.size = body.length) (rest : List UInt8) :
    members? (h.bytes ++ (blocks body ++ rest)) = (members? rest).map (h.member body :: ·) := by
  have hBlock : (h.bytes ++ (blocks body ++ rest)).take blockSize = h.bytes := by
    rw [← Header.length_bytes hFits, List.take_left]
  have hShorter : rest.length < (h.bytes ++ (blocks body ++ rest)).length := by
    rw [List.length_append, List.length_append, Header.length_bytes hFits, blockSize]
    omega
  rw [members?, hBlock, Header.isZeroBlock_bytes, readMember?_append hFits hSize]
  simp only [Bool.false_eq_true, if_false, hShorter, if_true]

theorem members?_end : members? (zeros (2 * blockSize)) = some [] := by
  have hTake : (zeros (2 * blockSize)).take blockSize = zeros blockSize := by
    rw [zeros, List.take_replicate]
    rfl
  have hDrop : (zeros (2 * blockSize)).drop blockSize = zeros blockSize := by
    rw [zeros, List.drop_replicate]
    rfl
  have hZero : isZeroBlock (zeros blockSize) = true := by
    simp [isZeroBlock, zeros]
  rw [members?, hTake, hDrop, hZero]
  simp

theorem length_bytesOf (s : String) : (bytesOf s).length = Text.byteLength s.toList := by
  rw [bytesOf_eq_flatMap]
  induction s.toList with
  | nil => rfl
  | cons c rest ih =>
    rw [List.flatMap_cons, List.length_append, ih, String.length_utf8EncodeChar,
      Text.byteLength_cons]

theorem byteLength_takeBytes_le (n : Nat) (s : List Char) :
    Text.byteLength (takeBytes n s) ≤ n := by
  induction s generalizing n with
  | nil => exact Nat.zero_le n
  | cons c rest ih =>
    rw [takeBytes]
    split
    next hFits =>
      have hRest := ih (n - c.utf8Size)
      rw [Text.byteLength_cons]
      omega
    next => exact Nat.zero_le n

theorem byteLength_storedName_le (name : List Char) :
    Text.byteLength (storedName name) ≤ Text.byteLength name := by
  rw [storedName]
  split
  next rest hReversed =>
    have hName : name = rest.reverse ++ ['/', '.'] := by
      simpa using congrArg List.reverse hReversed
    rw [hName, Text.byteLength_append]
    exact Nat.le_add_right _ _
  next => exact Nat.le_refl _

namespace Entry

/-- An entry whose name holds no zero character and whose numbers fit into their fields. -/
structure Fits (e : Entry) : Prop where
  clear : '\x00' ∉ e.name.toList
  name : (bytesOf e.name ++ [0]).length < Nat.pow 256 11
  content : (bytesOf e.content).length < Nat.pow 256 11
  time : e.time < Nat.pow 256 11

variable {e : Entry}

theorem length_headerName_le (e : Entry) : e.headerName.length ≤ nameSize := by
  rw [headerName]
  split
  next =>
    rw [length_bytesOf, String.toList_ofList]
    exact Nat.le_trans (byteLength_storedName_le _) (byteLength_takeBytes_le _ _)
  next hShort => simpa [isLongName] using hShort

def nameHeader (e : Entry) : Header :=
  ⟨asciiBytes "././@LongLink".toList, octal 7 0 ++ [0], (bytesOf e.name ++ [0]).length, 0, 'L'⟩

def fileHeader (e : Entry) : Header :=
  ⟨e.headerName, zeros 8, (bytesOf e.content).length, e.time, '0'⟩

theorem fits_nameHeader (hFits : e.Fits) : e.nameHeader.Fits where
  name := by
    change (asciiBytes "././@LongLink".toList).length ≤ nameSize
    decide
  clear := by
    change 0 ∉ asciiBytes "././@LongLink".toList
    decide
  owner := by
    change (octal 7 0 ++ [0]).length = 8
    decide
  size := hFits.name
  time := Nat.pow_pos (by decide)

theorem fits_fileHeader (hFits : e.Fits) : e.fileHeader.Fits where
  name := e.length_headerName_le
  clear := by
    have hClear := hasZero_eq_false hFits.clear
    rwa [hasZero, List.contains_eq_mem, decide_eq_false_iff_not] at hClear
  owner := List.length_replicate
  size := hFits.content
  time := hFits.time

/-- The members that an entry is written as. -/
def members (e : Entry) : List Member :=
  (if isLongName (bytesOf e.name) then [e.nameHeader.member (bytesOf e.name ++ [0])] else [])
    ++ [e.fileHeader.member (bytesOf e.content)]

/-- The file that an entry stands for: a regular file that its owner may write and all may read. -/
def file (e : Entry) : Member :=
  ⟨bytesOf e.name, 0x30, 0o644, (bytesOf e.content).length, e.time, bytesOf e.content⟩

theorem longNameMember_eq (e : Entry) :
    longNameMember (bytesOf e.name) = e.nameHeader.bytes ++ blocks (bytesOf e.name ++ [0]) := by
  rw [longNameMember, nameHeader]

theorem bytes_eq (e : Entry) : e.bytes =
    (if isLongName (bytesOf e.name) then longNameMember (bytesOf e.name) else []) ++
      e.fileHeader.bytes ++ blocks (bytesOf e.content) := by
  rw [bytes, fileHeader]

theorem members?_bytes (hFits : e.Fits) (rest : List UInt8) :
    members? (e.bytes ++ rest) = (members? rest).map (e.members ++ ·) := by
  have hFile := members?_append (fits_fileHeader hFits) rfl rest
  rw [bytes_eq, members]
  split
  next =>
    have hName := members?_append (fits_nameHeader hFits) rfl
      (e.fileHeader.bytes ++ (blocks (bytesOf e.content) ++ rest))
    simp only [longNameMember_eq, List.append_assoc]
    rw [hName, hFile, Option.map_map]
    rfl
  next =>
    simp only [List.nil_append, List.append_assoc]
    rw [hFile]
    rfl

theorem giveNames?_fileHeader {carried : Option (List UInt8)}
    (hName : carried.getD e.headerName = bytesOf e.name) (rest : List Member) :
    giveNames? carried (e.fileHeader.member (bytesOf e.content) :: rest) =
      (giveNames? none rest).map (e.file :: ·) := by
  have hFlag : (e.fileHeader.member (bytesOf e.content)).typeFlag ≠ longNameFlag := by
    change (0x30 : UInt8) ≠ longNameFlag
    decide
  rw [giveNames?, if_neg hFlag, file, ← hName]
  rfl

theorem giveNames?_members (hFits : e.Fits) (rest : List Member) :
    giveNames? none (e.members ++ rest) = (giveNames? none rest).map (e.file :: ·) := by
  rw [members]
  split
  next =>
    have hFlag : (e.nameHeader.member (bytesOf e.name ++ [0])).typeFlag = longNameFlag := rfl
    have hText : readText (bytesOf e.name ++ [0]) = bytesOf e.name :=
      readText_append_zeros (zero_not_mem_bytesOf hFits.clear) 1
    rw [List.singleton_append, List.cons_append, giveNames?, if_pos hFlag, Option.isSome_none,
      if_neg Bool.false_ne_true]
    apply giveNames?_fileHeader
    rw [Option.getD_some]
    exact hText
  next hShort =>
    apply giveNames?_fileHeader
    rw [Option.getD_none, headerName, if_neg hShort]

end Entry

/-- An archive is read back as its entries, in order and under their whole names. -/
theorem namedMembers?_archive {entries : List Entry} (hFits : ∀ e ∈ entries, e.Fits) :
    namedMembers? (archive entries) = some (entries.map Entry.file) := by
  -- Members are read first, and only then get their names, so there is an induction for each.
  have hMembers : members? (archive entries) = some (entries.flatMap Entry.members) := by
    induction entries with
    | nil => exact members?_end
    | cons e rest ih =>
      rw [List.forall_mem_cons] at hFits
      rw [archive] at ih ⊢
      rw [List.flatMap_cons, List.append_assoc, Entry.members?_bytes hFits.1, ih hFits.2]
      rfl
  rw [namedMembers?, hMembers, Option.bind_some]
  clear hMembers
  induction entries with
  | nil => rfl
  | cons e rest ih =>
    rw [List.forall_mem_cons] at hFits
    rw [List.flatMap_cons, Entry.giveNames?_members hFits.1, ih hFits.2]
    rfl

end Boilerplate.Tar
