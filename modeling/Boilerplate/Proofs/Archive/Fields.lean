import Boilerplate.Archive.Reader

/-! # Fields of a header

A number is read back from its field, whether it is written in octal digits or in base 256, and a
text from a field that it does not overfill.
-/

namespace Boilerplate.Tar

/-- A digit below eight. -/
def IsOctal (c : Char) : Prop :=
  ∃ d < 8, c = Nat.digitChar d

theorem isOctal_of_mem_toDigits {n : Nat} {c : Char} (h : c ∈ Nat.toDigits 8 n) : IsOctal c := by
  induction n using Nat.strongRecOn with
  | ind n ih =>
    rw [Nat.toDigits_eq_if (by decide)] at h
    split at h
    next hSmall => exact ⟨n, hSmall, List.mem_singleton.mp h⟩
    next hLarge =>
      rcases List.mem_append.mp h with h | h
      · exact ih (n / 8) (Nat.div_lt_self (by omega) (by decide)) h
      · exact ⟨n % 8, Nat.mod_lt n (by decide), List.mem_singleton.mp h⟩

theorem isOctalDigit_of_isOctal {c : Char} (h : IsOctal c) :
    isOctalDigit c.toNat.toUInt8 = true := by
  obtain ⟨d, hd, rfl⟩ := h
  revert d
  decide

theorem toNat_of_isOctal {c : Char} (h : IsOctal c) :
    (c.toNat.toUInt8 - 0x30).toNat = c.toNat - '0'.toNat := by
  obtain ⟨d, hd, rfl⟩ := h
  revert d
  decide

theorem natOfOctal_asciiBytes {ds : List Char} (h : ∀ c ∈ ds, IsOctal c) :
    natOfOctal (asciiBytes ds) = Nat.ofDigitChars 8 ds 0 := by
  -- The fold is followed from any number, since the digits in front have been added up already.
  have hFold : ∀ n, (asciiBytes ds).foldl (fun n b => 8 * n + (b - 0x30).toNat) n =
      Nat.ofDigitChars 8 ds n := by
    induction ds with
    | nil => exact fun _ => rfl
    | cons c rest ih =>
      rw [List.forall_mem_cons] at h
      intro n
      rw [Nat.ofDigitChars_cons, ← ih h.2, ← toNat_of_isOctal h.1]
      rfl
  exact hFold 0

theorem ofDigitChars_replicate_zero (k : Nat) (ds : List Char) :
    Nat.ofDigitChars 8 (List.replicate k '0' ++ ds) 0 = Nat.ofDigitChars 8 ds 0 := by
  induction k with
  | zero => rfl
  | succ k ih =>
    rw [List.replicate_succ, List.cons_append, Nat.ofDigitChars_cons]
    exact ih

theorem octal_spec {width n : Nat} (hWidth : 0 < width) (h : n < Nat.pow 8 width) :
    (octal width n).length = width ∧ (∀ b ∈ octal width n, isOctalDigit b = true) ∧
      natOfOctal (octal width n) = n := by
  have hLength : (Nat.toDigits 8 n).length ≤ width :=
    (Nat.length_toDigits_le_iff (by decide) hWidth).mpr h
  have hDigits : ∀ c ∈ List.replicate (width - (Nat.toDigits 8 n).length) '0' ++ Nat.toDigits 8 n,
      IsOctal c := by
    intro c hc
    rcases List.mem_append.mp hc with hc | hc
    · exact ⟨0, by decide, List.eq_of_mem_replicate hc⟩
    · exact isOctal_of_mem_toDigits hc
  refine ⟨?_, ?_, ?_⟩
  · rw [octal, asciiBytes, List.length_map, List.length_append, List.length_replicate]
    omega
  · intro b hb
    obtain ⟨c, hc, rfl⟩ := List.mem_map.mp hb
    exact isOctalDigit_of_isOctal (hDigits c hc)
  · rw [octal, natOfOctal_asciiBytes hDigits, ofDigitChars_replicate_zero,
      Nat.ofDigitChars_toDigits (by decide) (by decide)]

theorem readNumber_octal {width n : Nat} (hWidth : 0 < width) (h : n < Nat.pow 8 width) :
    readNumber (octal width n ++ [0]) = n := by
  obtain ⟨hLength, hDigits, hValue⟩ := octal_spec hWidth h
  cases hOctal : octal width n with
  | nil =>
    rw [hOctal] at hLength
    exact absurd hLength (Nat.ne_of_lt hWidth)
  | cons b rest =>
    rw [hOctal] at hDigits hValue
    have hMark : b ≠ 0x80 := by
      rintro rfl
      exact absurd (hDigits 0x80 List.mem_cons_self) (by decide)
    rw [List.cons_append, readNumber, if_neg hMark, ← List.cons_append,
      List.takeWhile_append_of_pos hDigits]
    have hEnd : [0].takeWhile isOctalDigit = [] := by decide
    rw [hEnd, List.append_nil, hValue]

theorem length_bigEndian (width n : Nat) : (bigEndian width n).length = width := by
  rw [bigEndian, List.length_map, List.length_reverse, List.length_range]

theorem bigEndian_succ (width n : Nat) :
    bigEndian (width + 1) n = (n >>> (8 * width)).toUInt8 :: bigEndian width n := by
  rw [bigEndian, List.range_succ, List.reverse_append, List.reverse_singleton, List.map_append]
  rfl

theorem foldl_bigEndian (width n start : Nat) :
    (bigEndian width n).foldl (fun n b => 256 * n + b.toNat) start =
      Nat.pow 256 width * start + n % Nat.pow 256 width := by
  induction width generalizing start with
  | zero => simp [bigEndian, Nat.mod_one]
  | succ width ih =>
    have hByte : (n >>> (8 * width)).toUInt8.toNat = n / Nat.pow 256 width % 256 := by
      rw [Nat.shiftRight_eq_div_pow, Nat.pow_mul]
      rfl
    have hSplit : n % Nat.pow 256 (width + 1) =
        n % Nat.pow 256 width + Nat.pow 256 width * (n / Nat.pow 256 width % 256) :=
      Nat.mod_pow_succ
    have hPower : Nat.pow 256 (width + 1) = Nat.pow 256 width * 256 := rfl
    rw [bigEndian_succ, List.foldl_cons, ih, hByte, hSplit, hPower, Nat.mul_add, Nat.mul_assoc]
    omega

theorem readNumber_bigEndian {width n : Nat} (h : n < Nat.pow 256 width) :
    readNumber (0x80 :: bigEndian width n) = n := by
  rw [readNumber, if_pos rfl, natOfBigEndian, foldl_bigEndian, Nat.mul_zero, Nat.zero_add,
    Nat.mod_eq_of_lt h]

theorem length_numberField (n : Nat) : (numberField n).length = 12 := by
  rw [numberField]
  split
  next hSmall =>
    have hOctal : (octal 11 n).length = 11 := (octal_spec (by decide) hSmall).1
    rw [List.length_append, hOctal]
    rfl
  next => rw [List.length_cons, length_bigEndian]

/-- A field of twelve bytes holds every number below the eleventh power of 256. -/
theorem readNumber_numberField {n : Nat} (h : n < Nat.pow 256 11) :
    readNumber (numberField n) = n := by
  rw [numberField]
  split
  next hSmall => exact readNumber_octal (by decide) hSmall
  next => exact readNumber_bigEndian h

theorem length_pad {width : Nat} {bytes : List UInt8} (h : bytes.length ≤ width) :
    (pad width bytes).length = width := by
  rw [pad, zeros, List.length_append, List.length_replicate]
  omega

theorem readText_append_zeros {bytes : List UInt8} (h : 0 ∉ bytes) (n : Nat) :
    readText (bytes ++ zeros n) = bytes := by
  have hClear : ∀ b ∈ bytes, (b != 0) = true := by
    intro b hb
    rw [bne_iff_ne]
    rintro rfl
    exact h hb
  rw [readText, List.takeWhile_append_of_pos hClear, zeros, List.takeWhile_replicate]
  exact List.append_nil bytes

theorem byteSum_le (bytes : List UInt8) : byteSum bytes ≤ 255 * bytes.length := by
  have hFold : ∀ start, bytes.foldl (fun total b => total + b.toNat) start ≤
      start + 255 * bytes.length := by
    induction bytes with
    | nil => exact fun start => Nat.le_refl start
    | cons b rest ih =>
      intro start
      have hByte := b.toNat_lt
      have hRest := ih (start + b.toNat)
      rw [List.foldl_cons, List.length_cons]
      omega
  simpa [byteSum] using hFold 0

theorem slice_eq {front field back bytes : List UInt8} {start length : Nat}
    (h : bytes = front ++ (field ++ back)) (hStart : front.length = start)
    (hLength : field.length = length) : slice start length bytes = field := by
  rw [slice, h, ← hStart, List.drop_left, ← hLength, List.take_left]

end Boilerplate.Tar
