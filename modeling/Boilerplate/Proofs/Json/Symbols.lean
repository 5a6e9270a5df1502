import Mathlib.Tactic.SplitIfs
import Boilerplate.Json.Reader
import Boilerplate.Json.Writer
import Boilerplate.Proofs.Data.Rows
import Boilerplate.Proofs.Data.Spans
import Boilerplate.Proofs.Number.Printed

/-! # Texts and integers as symbols

What is written for a text is read as that text, whatever its characters; what is written for an
integer is read as that integer, if no character follows that could go on with it.
-/

namespace Boilerplate.Json

section Texts

theorem hexUnit?_hexDigit : ∀ n < 32,
    hexUnit? '0' '0' (hexDigit (n / 16)) (hexDigit (n % 16)) = some n := by
  decide

/-- A control character, escaped by its number. -/
theorem unicodeEscape?_hexDigit {n : Nat} (h : n < 32) (rest : List Char) :
    unicodeEscape? ('0' :: '0' :: hexDigit (n / 16) :: hexDigit (n % 16) :: rest) =
      some (some (Char.ofNat n), rest) := by
  have hLead : isLeadUnit n = false := by
    simp [isLeadUnit]
    omega
  have hTrail : isTrailUnit n = false := by
    simp [isTrailUnit]
    omega
  simp [unicodeEscape?, hexUnitOf?, hexUnit?_hexDigit n h, hLead, hTrail]

variable {c : Char} (rest : List Char)

theorem textBody_plainEscape {e : Char} (h : plainEscape? e = some c) :
    textBody ('\\' :: e :: rest) = consChar (some c) (textBody rest) := by
  have hLetter : e ≠ 'u' := by
    rintro rfl
    cases h
  rw [textBody.eq_4 e rest hLetter, h]

theorem textBody_control (h : c < ' ') :
    textBody ('\\' :: 'u' :: '0' :: '0' :: hexDigit (c.toNat / 16) :: hexDigit (c.toNat % 16)
      :: rest) = consChar (some c) (textBody rest) := by
  have hRead := unicodeEscape?_hexDigit (n := c.toNat) (by exact h) rest
  rw [Char.ofNat_toNat] at hRead
  rw [textBody.eq_3]
  -- The match keeps its equation for the termination of `textBody`, so it is not rewritten.
  split
  next hNone =>
    rw [hRead] at hNone
    cases hNone
  next d after hSome =>
    rw [hRead] at hSome
    cases hSome
    rfl

theorem textBody_ordinary (hQuote : c ≠ '"') (hBackslash : c ≠ '\\') (hPrints : ¬ c < ' ') :
    textBody (c :: rest) = consChar (some c) (textBody rest) := by
  rw [textBody.eq_5 c rest hQuote (fun _ h => (hBackslash h).elim)
    (fun _ _ h => (hBackslash h).elim), if_neg hPrints]

theorem textBody_escapeChar (c : Char) (rest : List Char) :
    textBody (escapeChar c ++ rest) = consChar (some c) (textBody rest) := by
  unfold escapeChar
  split_ifs with hQuote hBackslash hBackspace hFeed hLine hReturn hTab hControl
  · exact textBody_plainEscape rest (hQuote.symm ▸ rfl)
  · exact textBody_plainEscape rest (hBackslash.symm ▸ rfl)
  · exact textBody_plainEscape rest (hBackspace.symm ▸ rfl)
  · exact textBody_plainEscape rest (hFeed.symm ▸ rfl)
  · exact textBody_plainEscape rest (hLine.symm ▸ rfl)
  · exact textBody_plainEscape rest (hReturn.symm ▸ rfl)
  · exact textBody_plainEscape rest (hTab.symm ▸ rfl)
  · exact textBody_control rest hControl
  · exact textBody_ordinary rest hQuote hBackslash hControl

/-- The body of a text is read up to its closing quote, each character as itself. -/
theorem textBody_flatMap_escapeChar (cs rest : List Char) :
    textBody (cs.flatMap escapeChar ++ '"' :: rest) = some (cs.map some, rest) := by
  induction cs with
  | nil => rw [List.flatMap_nil, List.nil_append, textBody.eq_2, List.map_nil]
  | cons c cs ih =>
    rw [List.flatMap_cons, List.append_assoc, textBody_escapeChar, ih]
    rfl

theorem firstSymbol?_writeText (s : String) (rest : List Char) :
    firstSymbol? (writeText s ++ rest) = some (.text (some s), rest) := by
  rw [writeText, List.cons_append, List.append_assoc, List.singleton_append, firstSymbol?.eq_10,
    textBody_flatMap_escapeChar, Option.map_some]
  have hTexts : (s.toList.map some).mapM id = some s.toList := mapM_map_eq_some fun _ _ => rfl
  simp only [hTexts, Option.map_some, String.ofList_toList]

end Texts

section Integers

/-- Only zero is written with a zero in front. -/
theorem head?_toDigits_ne_zero {n : Nat} (h : 0 < n) : (Nat.toDigits 10 n).head? ≠ some '0' := by
  induction n using Nat.strongRecOn with
  | ind n ih =>
    rw [Nat.toDigits_eq_if (by decide)]
    split
    next hSmall =>
      have hDigits : ∀ d < 10, 0 < d → Nat.digitChar d ≠ '0' := by decide
      simpa using hDigits n hSmall h
    next hLarge =>
      have hFront := ih (n / 10) (by omega) (by omega)
      obtain ⟨c, cs, hCons, _⟩ := Notation.exists_digit_cons (n / 10)
      rw [hCons] at hFront ⊢
      exact hFront

/-- A text whose first character cannot go on with an integer. -/
def IsPastInteger (rest : List Char) : Prop :=
  ∀ c ∈ rest.head?, Notation.isDigit c = false ∧ c ≠ '.' ∧ c ≠ 'e' ∧ c ≠ 'E'

/-- An integer as it is written. -/
def integerText (n : Int) : NumberText :=
  ⟨n < 0, Nat.toDigits 10 n.natAbs, none, none⟩

variable {rest : List Char}

theorem wholePart?_toDigits (h : IsPastInteger rest) (n : Nat) :
    wholePart? (Nat.toDigits 10 n ++ rest) = some (Nat.toDigits 10 n, rest) := by
  rcases Nat.eq_zero_or_pos n with rfl | hPos
  · rfl
  · have hZero : ∀ s, Nat.toDigits 10 n ++ rest ≠ '0' :: s := by
      intro s hs
      obtain ⟨c, cs, hCons, _⟩ := Notation.exists_digit_cons n
      rw [hCons] at hs
      apply head?_toDigits_ne_zero hPos
      rw [hCons, ← (List.cons.inj hs).1]
      rfl
    have hRun : digitRun (Nat.toDigits 10 n ++ rest) = (Nat.toDigits 10 n, rest) := by
      have hDigits : ∀ c ∈ Nat.toDigits 10 n, Notation.isDigit c = true :=
        fun c hc => Notation.isDigit_of_mem_toDigits hc
      have hStop : ∀ c ∈ rest.head?, Notation.isDigit c = false := fun c hc => (h c hc).1
      rw [digitRun, takeWhile_append_of_stop hDigits hStop, dropWhile_append_of_stop hDigits hStop]
    rw [wholePart?.eq_2 _ hZero, hRun, if_neg (by simp)]

theorem fractionPart?_of_isPastInteger (h : IsPastInteger rest) :
    fractionPart? rest = some (none, rest) := by
  cases rest with
  | nil => rfl
  | cons c rest =>
    obtain ⟨_, hPoint, _⟩ := h c rfl
    rw [fractionPart?.eq_2]
    rintro s hs
    exact hPoint (List.cons.inj hs).1

theorem exponentPart?_of_isPastInteger (h : IsPastInteger rest) :
    exponentPart? rest = some (none, rest) := by
  cases rest with
  | nil => rfl
  | cons c rest =>
    obtain ⟨_, _, hLower, hUpper⟩ := h c rfl
    rw [exponentPart?, if_neg (not_or.mpr ⟨hLower, hUpper⟩)]

theorem numberText?_toString (h : IsPastInteger rest) (n : Int) :
    numberText? ((toString n).toList ++ rest) = some (integerText n, rest) := by
  rw [Notation.toList_toString, integerText]
  split
  next hNegative =>
    rw [List.cons_append, numberText?]
    simp [wholePart?_toDigits h, fractionPart?_of_isPastInteger h,
      exponentPart?_of_isPastInteger h, hNegative]
  next hNatural =>
    obtain ⟨c, cs, hCons, hDigit⟩ := Notation.exists_digit_cons n.natAbs
    -- No digit is a sign.
    unfold numberText?
    split
    next _ negative s hSign =>
      split at hSign
      next t hMinus =>
        rw [hCons] at hMinus
        rw [(List.cons.inj hMinus).1] at hDigit
        cases hDigit
      next =>
        cases hSign
        simp [wholePart?_toDigits h, fractionPart?_of_isPastInteger h,
          exponentPart?_of_isPastInteger h, hNatural]

/-- A sign or a digit starts no other symbol than a number. -/
theorem firstSymbol?_of_sign_or_digit {c : Char} (h : c = '-' ∨ Notation.isDigit c = true)
    (s : List Char) :
    firstSymbol? (c :: s) = (numberText? (c :: s)).map fun (n, after) => (.number n, after) := by
  unfold firstSymbol?
  split
  case h_11 => rfl
  all_goals
    rename_i hText
    rw [(List.cons.inj hText).1] at h
    exact absurd h (by decide)

theorem number?_integerText {n : Int} (h : WordRange n) :
    (integerText n).number? = some (.integer n h) := by
  have hInteger : (integerText n).integer? = some (.integer n h) := by
    have hNotZero : (decide (n < 0) && decide (n.natAbs = 0)) = false := by
      rw [Bool.and_eq_false_imp]
      intro hNegative
      rw [decide_eq_true_eq] at hNegative
      exact decide_eq_false (by omega)
    have hValue : (if decide (n < 0) = true then -(n.natAbs : Int) else n.natAbs) = n := by
      simp only [decide_eq_true_eq]
      split <;> omega
    rw [NumberText.integer?, integerText]
    simp only [Notation.natOfDigits_toDigits, hNotZero, hValue, Number.ofInt?_eq_some h]
    rfl
  rw [NumberText.number?, hInteger]

end Integers

section Rows

theorem symbols?_of_firstSymbol? {c : Char} {s after : List Char} {symbol : Symbol}
    (hSpace : isSpace c = false) (hFirst : firstSymbol? (c :: s) = some (symbol, after))
    (hShorter : after.length < (c :: s).length) :
    symbols? (c :: s) = (symbols? after).map (symbol :: ·) := by
  rw [symbols?, if_neg (by simp [hSpace]), hFirst]
  exact dif_pos hShorter

variable (rest : List Char)

@[simp]
theorem symbols?_nil : symbols? [] = some [] := by
  rw [symbols?]

@[simp]
theorem symbols?_openArray : symbols? ('[' :: rest) = (symbols? rest).map (.openArray :: ·) :=
  symbols?_of_firstSymbol? rfl rfl (Nat.lt_add_one _)

@[simp]
theorem symbols?_closeArray : symbols? (']' :: rest) = (symbols? rest).map (.closeArray :: ·) :=
  symbols?_of_firstSymbol? rfl rfl (Nat.lt_add_one _)

@[simp]
theorem symbols?_openObject :
    symbols? ('\x7b' :: rest) = (symbols? rest).map (.openObject :: ·) :=
  symbols?_of_firstSymbol? rfl rfl (Nat.lt_add_one _)

@[simp]
theorem symbols?_closeObject :
    symbols? ('\x7d' :: rest) = (symbols? rest).map (.closeObject :: ·) :=
  symbols?_of_firstSymbol? rfl rfl (Nat.lt_add_one _)

@[simp]
theorem symbols?_colon : symbols? (':' :: rest) = (symbols? rest).map (.colon :: ·) :=
  symbols?_of_firstSymbol? rfl rfl (Nat.lt_add_one _)

@[simp]
theorem symbols?_comma : symbols? (',' :: rest) = (symbols? rest).map (.comma :: ·) :=
  symbols?_of_firstSymbol? rfl rfl (Nat.lt_add_one _)

theorem symbols?_null : symbols? ("null".toList ++ rest) = (symbols? rest).map (.null :: ·) :=
  symbols?_of_firstSymbol? rfl rfl (by simp; omega)

theorem symbols?_boolean (b : Bool) :
    symbols? ((toString b).toList ++ rest) = (symbols? rest).map (.boolean b :: ·) := by
  cases b with
  | false => exact symbols?_of_firstSymbol? rfl rfl (by simp; omega)
  | true => exact symbols?_of_firstSymbol? rfl rfl (by simp; omega)

@[simp]
theorem symbols?_writeText (s : String) :
    symbols? (writeText s ++ rest) = (symbols? rest).map (.text (some s) :: ·) := by
  have hFirst := firstSymbol?_writeText s rest
  rw [writeText, List.cons_append] at hFirst ⊢
  apply symbols?_of_firstSymbol? rfl hFirst
  rw [List.length_cons, List.length_append]
  omega

theorem symbols?_toString {rest : List Char} (h : IsPastInteger rest) (n : Int) :
    symbols? ((toString n).toList ++ rest) =
      (symbols? rest).map (.number (integerText n) :: ·) := by
  have hRead := numberText?_toString h n
  obtain ⟨c, s, hCons, hFirst⟩ := Notation.toString_starts n
  have hSpace : isSpace c = false := by
    rw [Bool.eq_false_iff]
    intro hSpace
    have hKinds : c = ' ' ∨ c = '\n' ∨ c = '\t' ∨ c = '\r' := by
      simpa [isSpace, or_assoc] using hSpace
    rcases hKinds with rfl | rfl | rfl | rfl <;> exact absurd hFirst (by decide)
  rw [hCons, List.cons_append] at hRead ⊢
  apply symbols?_of_firstSymbol? hSpace
  · rw [firstSymbol?_of_sign_or_digit hFirst, hRead, Option.map_some]
  · rw [List.length_cons, List.length_append]
    omega

end Rows

end Boilerplate.Json
