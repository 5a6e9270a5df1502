import Mathlib.Data.List.TakeWhile
import Boilerplate.Number.Basic
import Boilerplate.Proofs.Data.Spans
import Boilerplate.Proofs.Number.Rounding

/-! # Numerals

An integer is written as a sign and digits, a decimal also with a point or an exponent. The readers
take exactly these texts. A decimal is read as the double nearest to its value; one that is too
large is read as an infinity, and so are the words for it.
-/

namespace Boilerplate.Notation

/-- The sign in front of a number, and whether it is a minus. -/
inductive IsSign : List Char → Bool → Prop
  | none : IsSign [] false
  | plus : IsSign ['+'] false
  | minus : IsSign ['-'] true

inductive IsInteger : List Char → ℤ → Prop
  | signed {sign ds : List Char} {negative : Bool} : IsSign sign negative → isDigits ds = true →
      IsInteger (sign ++ ds) (if negative then -(natOfDigits ds : ℤ) else natOfDigits ds)

inductive IsFraction : List Char → List Char → Prop
  | none : IsFraction [] []
  | point {ds : List Char} : (∀ c ∈ ds, isDigit c = true) → IsFraction ('.' :: ds) ds

inductive IsExponent : List Char → ℤ → Prop
  | none : IsExponent [] 0
  | power {c : Char} {s : List Char} {e : ℤ} : c = 'e' ∨ c = 'E' → IsInteger s e →
      IsExponent (c :: s) e

/-- A decimal, whether it is written with a minus, and its absolute value. There is a digit in front
of the point or behind it. -/
inductive IsDecimal : List Char → Bool → ℚ → Prop
  | signed {sign whole fraction places exponent : List Char} {negative : Bool} {e : ℤ} :
      IsSign sign negative → (∀ c ∈ whole, isDigit c = true) → IsFraction fraction places →
      whole ++ places ≠ [] → IsExponent exponent e →
      IsDecimal (sign ++ (whole ++ (fraction ++ exponent))) negative
        (natOfDigits (whole ++ places) * 10 ^ (e - places.length))

inductive IsInfinity : List Char → Bool → Prop
  | signed {sign word : List Char} {negative : Bool} : IsSign sign negative →
      word.map Char.toLower = "inf".toList ∨ word.map Char.toLower = "infinity".toList →
      IsInfinity (sign ++ word) negative

inductive IsNotANumber : List Char → Prop
  | signed {sign word : List Char} {negative : Bool} : IsSign sign negative →
      word.map Char.toLower = "nan".toList → IsNotANumber (sign ++ word)

inductive Denotes (s : List Char) : RealReading → Prop
  | finite {negative : Bool} {q : ℚ} {x : Binary64} :
      IsDecimal s negative q → x.Rounds negative q → Denotes s (.finite x)
  | tooLarge {negative : Bool} {q : ℚ} :
      IsDecimal s negative q → Binary64.ceiling ≤ q → Denotes s (.infinite negative)
  | infinite {negative : Bool} : IsInfinity s negative → Denotes s (.infinite negative)
  | notANumber : IsNotANumber s → Denotes s .notANumber

section Signs

variable {sign body s : List Char} {negative : Bool}

theorem splitSign_append (h : IsSign sign negative) (hBody : ∀ c ∈ body.head?, c ≠ '-' ∧ c ≠ '+') :
    splitSign (sign ++ body) = (negative, body) := by
  cases h with
  | plus | minus => rfl
  | none =>
    apply splitSign.eq_3
    · rintro rest rfl
      exact (hBody '-' rfl).1 rfl
    · rintro rest rfl
      exact (hBody '+' rfl).2 rfl

theorem exists_sign (s : List Char) :
    ∃ sign negative body, IsSign sign negative ∧ s = sign ++ body ∧
      splitSign s = (negative, body) := by
  fun_cases splitSign s with
  | case1 rest => exact ⟨_, _, rest, .minus, rfl, rfl⟩
  | case2 rest => exact ⟨_, _, rest, .plus, rfl, rfl⟩
  | case3 => exact ⟨_, _, s, .none, rfl, rfl⟩

/-- What starts a number is no sign and starts no word. -/
structure StartsDecimal (c : Char) : Prop where
  notSign : c ≠ '-' ∧ c ≠ '+'
  notWord : c.toLower ≠ 'i' ∧ c.toLower ≠ 'n'

theorem startsDecimal {c : Char} (h : isDigit c = true ∨ c = '.') : StartsDecimal c := by
  have hAscii : ∀ n < 0x80, (isDigit (Char.ofNat n) = true ∨ Char.ofNat n = '.') →
      (Char.ofNat n ≠ '-' ∧ Char.ofNat n ≠ '+') ∧
        (Char.ofNat n).toLower ≠ 'i' ∧ (Char.ofNat n).toLower ≠ 'n' := by decide
  have hCode := hAscii c.toNat <| by
    obtain hDigit | rfl := h
    · exact toNat_lt_of_isDigit hDigit
    · decide
  rw [Char.ofNat_toNat] at hCode
  exact ⟨(hCode h).1, (hCode h).2⟩

theorem isDigits_iff : isDigits s = true ↔ s ≠ [] ∧ ∀ c ∈ s, isDigit c = true := by
  simp [isDigits]

theorem head?_of_isDigits (h : isDigits s = true) : ∀ c ∈ s.head?, isDigit c = true :=
  fun c hc => (isDigits_iff.mp h).2 c (List.mem_of_mem_head? hc)

theorem integer?_eq_some_iff {n : ℤ} : integer? s = some n ↔ IsInteger s n := by
  constructor
  · intro h
    obtain ⟨sign, negative, body, hSign, rfl, hSplit⟩ := exists_sign s
    rw [integer?, hSplit] at h
    simp only [Option.ite_none_right_eq_some, Option.some.injEq] at h
    obtain ⟨hDigits, rfl⟩ := h
    exact .signed hSign hDigits
  · rintro ⟨hSign, hDigits⟩
    have hStart : ∀ c ∈ List.head? _, c ≠ '-' ∧ c ≠ '+' :=
      fun c hc => (startsDecimal (.inl (head?_of_isDigits hDigits c hc))).notSign
    rw [integer?, splitSign_append hSign hStart]
    exact if_pos hDigits

end Signs

section Decimals

variable {s fraction places exponent rest whole : List Char} {negative : Bool} {e : ℤ}
  {r : RealReading}

theorem IsInteger.unique {n m : ℤ} (hn : IsInteger s n) (hm : IsInteger s m) : n = m := by
  rw [← integer?_eq_some_iff] at hn hm
  exact Option.some.inj (hn.symm.trans hm)

theorem exponent?_eq_some_iff : exponent? s = some e ↔ IsExponent s e := by
  constructor
  · intro h
    fun_cases exponent? s with
    | case1 =>
      cases h
      exact .none
    | case2 c rest hMark =>
      rw [exponent?, if_pos hMark] at h
      exact .power (by simpa using hMark) (integer?_eq_some_iff.mp h)
    | case3 c rest hOther =>
      rw [exponent?, if_neg hOther] at h
      cases h
  · intro h
    cases h with
    | none => rfl
    | power hMark hInteger =>
      rw [exponent?, if_pos (by simpa using hMark)]
      exact integer?_eq_some_iff.mpr hInteger

/-- No exponent goes on with digits. -/
theorem IsExponent.head? (h : IsExponent s e) : ∀ c ∈ s.head?, isDigit c = false ∧ c ≠ '.' := by
  cases h with
  | none => rintro c ⟨⟩
  | power hMark =>
    rintro c ⟨⟩
    obtain rfl | rfl := hMark <;> decide

theorem fraction_append (hFraction : IsFraction fraction places)
    (hExponent : IsExponent exponent e) :
    Notation.fraction (fraction ++ exponent) = (places, exponent) := by
  cases hFraction with
  | none =>
    rw [List.nil_append]
    apply fraction.eq_2
    rintro rest rfl
    exact (hExponent.head? '.' rfl).2 rfl
  | point hDigits =>
    have hStop : ∀ c ∈ exponent.head?, isDigit c = false := fun c hc => (hExponent.head? c hc).1
    rw [List.cons_append, Notation.fraction, takeWhile_append_of_stop hDigits hStop,
      dropWhile_append_of_stop hDigits hStop]

theorem exists_fraction (s : List Char) :
    ∃ fraction, IsFraction fraction (Notation.fraction s).1 ∧
      s = fraction ++ (Notation.fraction s).2 := by
  fun_cases Notation.fraction s with
  | case1 rest =>
    refine ⟨_, .point (fun c hc => List.mem_takeWhile_imp hc), ?_⟩
    rw [List.cons_append, List.takeWhile_append_dropWhile]
  | case2 => exact ⟨[], .none, rfl⟩

/-- The digits of a decimal end where its point, its exponent or the text does. -/
theorem span_decimal (hWhole : ∀ c ∈ whole, isDigit c = true)
    (hFraction : IsFraction fraction places) (hExponent : IsExponent exponent e) :
    (whole ++ (fraction ++ exponent)).takeWhile isDigit = whole ∧
      (whole ++ (fraction ++ exponent)).dropWhile isDigit = fraction ++ exponent := by
  have hStop : ∀ c ∈ (fraction ++ exponent).head?, isDigit c = false := by
    cases hFraction with
    | none => exact fun c hc => (hExponent.head? c hc).1
    | point =>
      rintro c ⟨⟩
      decide
  exact ⟨takeWhile_append_of_stop hWhole hStop, dropWhile_append_of_stop hWhole hStop⟩

theorem head?_decimal (hWhole : ∀ c ∈ whole, isDigit c = true)
    (hFraction : IsFraction fraction places) (hDigits : whole ++ places ≠ []) :
    ∃ c rest, whole ++ (fraction ++ exponent) = c :: rest ∧ (isDigit c = true ∨ c = '.') := by
  cases whole with
  | cons c more => exact ⟨c, _, rfl, .inl (hWhole c List.mem_cons_self)⟩
  | nil =>
    cases hFraction with
    | none => exact absurd rfl hDigits
    | point => exact ⟨'.', _, rfl, .inr rfl⟩

def readDecimal (negative : Bool) (digits : ℕ) (scale : ℤ) : RealReading :=
  match Binary64.ofDecimal? negative digits scale with
  | some x => .finite x
  | none => .infinite negative

theorem unsignedReal?_word (h : s.map Char.toLower = "inf".toList ∨
      s.map Char.toLower = "infinity".toList) :
    unsignedReal? negative s = some (.infinite negative) := by
  rw [unsignedReal?, if_pos (by simpa using h)]

theorem unsignedReal?_notANumber (h : s.map Char.toLower = "nan".toList) :
    unsignedReal? negative s = some .notANumber := by
  rw [unsignedReal?, h]
  rfl

theorem unsignedReal?_of_start {c : Char} (hStart : StartsDecimal c) (rest : List Char) :
    unsignedReal? negative (c :: rest) =
      let whole := (c :: rest).takeWhile isDigit
      let places := Notation.fraction ((c :: rest).dropWhile isDigit)
      if whole.isEmpty && places.1.isEmpty then none
      else (exponent? places.2).map fun e =>
        readDecimal negative (natOfDigits (whole ++ places.1)) (e - places.1.length) := by
  have hInfinity : ¬ ((c :: rest).map Char.toLower == "inf".toList ||
      (c :: rest).map Char.toLower == "infinity".toList) = true := by
    simp [hStart.notWord.1]
  have hNotANumber : ¬ ((c :: rest).map Char.toLower == "nan".toList) = true := by
    simp [hStart.notWord.2]
  rw [unsignedReal?]
  simp only [hInfinity, hNotANumber]
  rfl

theorem unsignedReal?_decimal (hWhole : ∀ c ∈ whole, isDigit c = true)
    (hFraction : IsFraction fraction places) (hDigits : whole ++ places ≠ [])
    (hExponent : IsExponent exponent e) :
    unsignedReal? negative (whole ++ (fraction ++ exponent)) =
      some (readDecimal negative (natOfDigits (whole ++ places)) (e - places.length)) := by
  obtain ⟨hTake, hDrop⟩ := span_decimal hWhole hFraction hExponent
  have hHead : ∃ c rest, whole ++ (fraction ++ exponent) = c :: rest ∧
      (isDigit c = true ∨ c = '.') := head?_decimal hWhole hFraction hDigits
  obtain ⟨c, rest, hCons, hFirst⟩ := hHead
  rw [hCons, unsignedReal?_of_start (startsDecimal hFirst), ← hCons, hTake, hDrop]
  have hNotEmpty : ¬ (whole.isEmpty && places.isEmpty) = true := by
    simpa [List.append_eq_nil_iff] using hDigits
  simp only [fraction_append hFraction hExponent, hNotEmpty, exponent?_eq_some_iff.mpr hExponent]
  rfl

theorem denotes_readDecimal {q : ℚ} {digits : ℕ} {scale : ℤ} (hq : q = digits * 10 ^ scale)
    (h : IsDecimal s negative q) : Denotes s (readDecimal negative digits scale) := by
  have hConverts := Binary64.converts_ofDecimal? negative digits scale
  rw [← hq] at hConverts
  rw [readDecimal]
  split
  next x hSome =>
    rw [hSome] at hConverts
    exact .finite h hConverts
  next hNone =>
    rw [hNone] at hConverts
    exact .tooLarge h hConverts

theorem denotes_of_unsignedReal? {sign : List Char} (hSign : IsSign sign negative)
    (h : unsignedReal? negative s = some r) : Denotes (sign ++ s) r := by
  rw [unsignedReal?] at h
  split at h
  next hWord =>
    cases h
    exact .infinite (.signed hSign (by simpa using hWord))
  next =>
    split at h
    next hWord =>
      cases h
      exact .notANumber (.signed hSign (by simpa using hWord))
    next =>
      obtain ⟨fraction, hFraction, hRest⟩ := exists_fraction (s.dropWhile isDigit)
      have hWhole : ∀ c ∈ s.takeWhile isDigit, isDigit c = true :=
        fun c hc => List.mem_takeWhile_imp hc
      have hSplit := List.takeWhile_append_dropWhile (p := isDigit) (l := s)
      rw [hRest] at hSplit
      simp only [Option.ite_none_left_eq_some, Option.map_eq_some_iff] at h
      obtain ⟨hDigits, e, hExponent, rfl⟩ := h
      have hDigits : s.takeWhile isDigit ++ (Notation.fraction (s.dropWhile isDigit)).1 ≠ [] := by
        simpa [List.append_eq_nil_iff] using hDigits
      have hDecimal := IsDecimal.signed hSign hWhole hFraction hDigits
        (exponent?_eq_some_iff.mp hExponent)
      rw [hSplit] at hDecimal
      exact denotes_readDecimal rfl hDecimal

theorem readDecimal_of_rounds {digits : ℕ} {scale : ℤ} {x : Binary64}
    (h : x.Rounds negative (digits * 10 ^ scale)) :
    readDecimal negative digits scale = .finite x := by
  have hConverts := Binary64.converts_ofDecimal? negative digits scale
  rw [readDecimal]
  split
  next y hSome =>
    rw [hSome] at hConverts
    exact congrArg _ (Binary64.Rounds.unique hConverts h)
  next hNone =>
    rw [hNone] at hConverts
    exact absurd h.lt_ceiling (not_lt.mpr hConverts)

theorem readDecimal_of_ceiling_le {digits : ℕ} {scale : ℤ}
    (h : Binary64.ceiling ≤ digits * 10 ^ scale) :
    readDecimal negative digits scale = .infinite negative := by
  have hConverts := Binary64.converts_ofDecimal? negative digits scale
  rw [readDecimal]
  split
  next y hSome =>
    rw [hSome] at hConverts
    exact absurd hConverts.lt_ceiling (not_lt.mpr h)
  next => rfl

/-- A word starts with a letter, so that no sign is taken from it. -/
theorem notSign_of_word {letter : Char} {rest : List Char} (h : s.map Char.toLower = letter :: rest)
    (hLetter : letter ≠ '-' ∧ letter ≠ '+') : ∀ c ∈ s.head?, c ≠ '-' ∧ c ≠ '+' := by
  rintro c hc
  cases s with
  | nil => cases hc
  | cons d more =>
    cases hc
    have hFirst : c.toLower = letter := (List.cons.inj h).1
    constructor
    · rintro rfl
      exact hLetter.1 (hFirst ▸ rfl)
    · rintro rfl
      exact hLetter.2 (hFirst ▸ rfl)

theorem real?_of_isDecimal {q : ℚ} (h : IsDecimal s negative q) :
    ∃ (digits : ℕ) (scale : ℤ), q = digits * 10 ^ scale ∧
      real? s = some (readDecimal negative digits scale) := by
  obtain ⟨hSign, hWhole, hFraction, hDigits, hExponent⟩ := h
  refine ⟨_, _, rfl, ?_⟩
  obtain ⟨c, rest, hCons, hFirst⟩ := head?_decimal hWhole hFraction hDigits
  have hStart := (startsDecimal hFirst).notSign
  rw [real?, splitSign_append hSign]
  · exact unsignedReal?_decimal hWhole hFraction hDigits hExponent
  · rw [hCons]
    rintro _ ⟨⟩
    exact hStart

theorem IsDecimal.exists_rounds {q : ℚ} (h : IsDecimal s negative q)
    (hSmall : q < Binary64.ceiling) : ∃ x : Binary64, x.Rounds negative q := by
  obtain ⟨digits, scale, rfl, -⟩ := real?_of_isDecimal h
  have hConverts := Binary64.converts_ofDecimal? negative digits scale
  cases hRead : Binary64.ofDecimal? negative digits scale with
  | some x =>
    rw [hRead] at hConverts
    exact ⟨x, hConverts⟩
  | none =>
    rw [hRead] at hConverts
    exact absurd hSmall (not_lt.mpr hConverts)

theorem IsDecimal.any_isDigit {q : ℚ} (h : IsDecimal s negative q) : s.any isDigit = true := by
  obtain @⟨_, whole, _, places, _, _, _, -, hWhole, hFraction, hDigits, -⟩ := h
  obtain ⟨c, hc⟩ := List.exists_mem_of_ne_nil _ hDigits
  rw [List.any_eq_true]
  obtain hc | hc := List.mem_append.mp hc
  · exact ⟨c, by simp [hc], hWhole c hc⟩
  · cases hFraction with
    | none => cases hc
    | point hPlaces => exact ⟨c, by simp [hc], hPlaces c hc⟩

/-- The reader takes exactly the decimals and the words, for what they denote. -/
theorem real?_eq_some_iff : real? s = some r ↔ Denotes s r := by
  constructor
  · intro h
    obtain ⟨sign, negative, body, hSign, rfl, hSplit⟩ := exists_sign s
    rw [real?, hSplit] at h
    exact denotes_of_unsignedReal? hSign h
  · intro h
    cases h with
    | finite hDecimal hRounds =>
      obtain ⟨_, _, rfl, hRead⟩ := real?_of_isDecimal hDecimal
      rw [hRead, readDecimal_of_rounds hRounds]
    | tooLarge hDecimal hLarge =>
      obtain ⟨_, _, rfl, hRead⟩ := real?_of_isDecimal hDecimal
      rw [hRead, readDecimal_of_ceiling_le hLarge]
    | infinite hWord =>
      obtain ⟨hSign, hWord⟩ := hWord
      rw [real?, splitSign_append hSign]
      · exact unsignedReal?_word hWord
      · obtain hWord | hWord := hWord
        · exact notSign_of_word hWord (by decide)
        · exact notSign_of_word hWord (by decide)
    | notANumber hWord =>
      obtain ⟨hSign, hWord⟩ := hWord
      rw [real?, splitSign_append hSign]
      · exact unsignedReal?_notANumber hWord
      · exact notSign_of_word hWord (by decide)

end Decimals

section Integers

variable {s : List Char} {n : ℤ}

/-- An integer is a decimal without point and exponent. Only a zero may have any sign. -/
theorem IsInteger.isDecimal (h : IsInteger s n) :
    ∃ negative, IsDecimal s negative |(n : ℚ)| ∧ (n ≠ 0 → negative = decide (n < 0)) := by
  obtain @⟨sign, ds, negative, hSign, hDigits⟩ := h
  obtain ⟨hSome, hAll⟩ := isDigits_iff.mp hDigits
  have hDecimal := IsDecimal.signed hSign hAll .none (by simpa using hSome) .none
  simp only [List.append_nil, List.length_nil, Nat.cast_zero, sub_zero, zpow_zero,
    mul_one] at hDecimal
  refine ⟨negative, ?_, ?_⟩
  · cases negative <;> simpa using hDecimal
  · intro hZero
    cases negative with
    | false => simp
    | true =>
      simp only [if_true] at hZero ⊢
      simp
      omega

theorem wordRange_of_isSigned (h : Number.isSigned n = true) : WordRange n := by
  simp only [Number.isSigned, Bool.and_eq_true, decide_eq_true_eq] at h
  exact ⟨h.1, h.2.trans (by decide)⟩

theorem abs_lt_ceiling (h : WordRange n) : |(n : ℚ)| < Binary64.ceiling := by
  have hLow : (-2 ^ 64 : ℚ) ≤ n := by
    have hWord : -2 ^ 64 ≤ n := (by decide : (-2 ^ 64 : ℤ) ≤ _).trans h.1
    exact_mod_cast hWord
  have hHigh : (n : ℚ) ≤ 2 ^ 64 := by
    have hWord : n ≤ 2 ^ 64 := h.2.le.trans (by decide)
    exact_mod_cast hWord
  calc |(n : ℚ)| ≤ 2 ^ 64 := abs_le.mpr ⟨hLow, hHigh⟩
    _ < (2 ^ 54 - 1) * 2 ^ 11 := by norm_num
    _ ≤ Binary64.ceiling :=
      mul_le_mul_of_nonneg_left (pow_le_pow_right₀ one_le_two (by norm_num)) (by norm_num)

theorem ofSigned?_eq_some_iff {m : Number} : Number.ofSigned? s = some m ↔
    ∃ n inRange, IsInteger s n ∧ Number.isSigned n = true ∧ m = .integer n inRange := by
  rw [Number.ofSigned?]
  constructor
  · intro h
    split at h
    next n hInteger =>
      split at h
      next hSigned =>
        rw [Number.ofInt?_eq_some (wordRange_of_isSigned hSigned)] at h
        cases h
        exact ⟨n, _, integer?_eq_some_iff.mp hInteger, hSigned, rfl⟩
      next => cases h
    next => cases h
  · rintro ⟨n, inRange, hInteger, hSigned, rfl⟩
    simp only [integer?_eq_some_iff.mpr hInteger, hSigned, if_true,
      Number.ofInt?_eq_some inRange]

theorem ofSigned?_eq_none_iff : Number.ofSigned? s = none ↔
    ∀ n, IsInteger s n → Number.isSigned n = false := by
  constructor
  · intro h n hInteger
    rw [← Bool.not_eq_true]
    intro hSigned
    have hSome := ofSigned?_eq_some_iff.mpr
      ⟨n, wordRange_of_isSigned hSigned, hInteger, hSigned, rfl⟩
    rw [h] at hSome
    cases hSome
  · intro h
    cases hRead : Number.ofSigned? s with
    | none => rfl
    | some m =>
      obtain ⟨n, _, hInteger, hSigned, _⟩ := ofSigned?_eq_some_iff.mp hRead
      rw [h n hInteger] at hSigned
      cases hSigned

end Integers

end Boilerplate.Notation
