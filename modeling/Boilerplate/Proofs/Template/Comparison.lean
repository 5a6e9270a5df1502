import Boilerplate.Proofs.Number.Numerals
import Boilerplate.Proofs.Template.FieldNames
import Boilerplate.Proofs.Template.TagGrammar

/-! # Comparing integers

An integer literal may have any number of digits, as long as a double can hold its size. Two signed
words are the same to a condition if they are equal; any other two integers are the same if the
doubles nearest to them are.
-/

namespace Boilerplate.Template

open Text
open Notation (IsInteger isDigit)
open Number (isSigned)

variable {n m : ℤ} {raw : List Char}

/-- The double nearest to an integer. -/
def NearestDouble (n : ℤ) (x : Binary64) : Prop :=
  x.Rounds (n < 0) |(n : ℚ)|

/-- Two integers are the same to a condition. -/
inductive Coincide (n m : ℤ) : Prop
  | exact : isSigned n = true → isSigned m = true → n = m → Coincide n m
  | rounded {x : Binary64} : ¬ (isSigned n = true ∧ isSigned m = true) → NearestDouble n x →
      NearestDouble m x → Coincide n m

theorem one_le_abs (h : isSigned n = false) : 1 ≤ |(n : ℚ)| := by
  have hNonzero : n ≠ 0 := by
    rintro rfl
    cases h
  exact_mod_cast Int.one_le_abs hNonzero

section Numbers

theorem nearestDouble_toBinary64 (inRange : WordRange n) :
    NearestDouble n (Number.integer n inRange).toBinary64 := by
  have hConverts := Binary64.converts_ofInt? n
  rw [Number.toBinary64]
  cases hRead : Binary64.ofInt? n with
  | some x =>
    rw [hRead] at hConverts
    exact hConverts
  | none =>
    rw [hRead] at hConverts
    exact absurd (Notation.abs_lt_ceiling inRange) (not_lt.mpr hConverts)

inductive IsLiteral (m : ℤ) : Number → Prop
  | word (inRange : WordRange m) : isSigned m = true → IsLiteral m (.integer m inRange)
  | double {x : Binary64} : isSigned m = false → NearestDouble m x → IsLiteral m (.float x)

theorem exists_isLiteral (h : IsInteger raw m) (hSmall : |(m : ℚ)| < Binary64.ceiling) :
    ∃ k, IsLiteral m k ∧ number? raw = some k := by
  cases hSigned : isSigned m with
  | true =>
    have inRange := Notation.wordRange_of_isSigned hSigned
    refine ⟨_, .word inRange hSigned, ?_⟩
    rw [number?, Notation.ofSigned?_eq_some_iff.mpr ⟨m, inRange, h, hSigned, rfl⟩]
  | false =>
    have hNoWord : Number.ofSigned? raw = none :=
      Notation.ofSigned?_eq_none_iff.mpr fun k hk => h.unique hk ▸ hSigned
    obtain ⟨negative, hDecimal, hSign⟩ := h.isDecimal
    obtain ⟨x, hRounds⟩ := hDecimal.exists_rounds hSmall
    have hNonzero : m ≠ 0 := by
      rintro rfl
      cases hSigned
    have hNearest : NearestDouble m x := by
      rwa [hSign hNonzero] at hRounds
    refine ⟨.float x, .double hSigned hNearest, ?_⟩
    rw [number?, hNoWord, Notation.real?_eq_some_iff.mpr (.finite hDecimal hRounds)]

theorem number?_of_ceiling_le (h : IsInteger raw m) (hLarge : Binary64.ceiling ≤ |(m : ℚ)|) :
    number? raw = none := by
  have hNoWord : Number.ofSigned? raw = none := by
    refine Notation.ofSigned?_eq_none_iff.mpr fun k hk => ?_
    obtain rfl := h.unique hk
    rw [← Bool.not_eq_true]
    intro hSigned
    exact absurd (Notation.abs_lt_ceiling (Notation.wordRange_of_isSigned hSigned))
      (not_lt.mpr hLarge)
  obtain ⟨negative, hDecimal, -⟩ := h.isDecimal
  rw [number?, hNoWord, Notation.real?_eq_some_iff.mpr (.tooLarge hDecimal hLarge)]

theorem coincide_iff_sameValue {x y : Binary64} (hWide : ¬ (isSigned n = true ∧ isSigned m = true))
    (hx : NearestDouble n x) (hy : NearestDouble m y) :
    Coincide n m ↔ x.sameValue y = true := by
  -- One of the integers is too large for a signed word, so not both doubles are zeros.
  have hNonzero : x.magnitude ≠ 0 ∨ y.magnitude ≠ 0 := by
    rw [not_and_or, Bool.not_eq_true, Bool.not_eq_true] at hWide
    exact hWide.imp (fun h => hx.magnitude_ne_zero (one_le_abs h))
      fun h => hy.magnitude_ne_zero (one_le_abs h)
  rw [Binary64.sameValue_iff hNonzero]
  constructor
  · intro h
    cases h with
    | exact hn hm => exact absurd ⟨hn, hm⟩ hWide
    | rounded _ hn hm => exact (hx.unique hn).trans (hm.unique hy)
  · rintro rfl
    exact .rounded hWide hx hy

theorem coincide_iff_of_isSigned (hn : isSigned n = true) (hm : isSigned m = true) :
    Coincide n m ↔ n = m := by
  constructor
  · intro h
    cases h with
    | exact _ _ hSame => exact hSame
    | rounded hWide => exact absurd ⟨hn, hm⟩ hWide
  · exact .exact hn hm

theorem sameValue_iff_coincide (inRange : WordRange n) {k : Number} (h : IsLiteral m k) :
    (Number.integer n inRange).sameValue k = true ↔ Coincide n m := by
  have hDouble := nearestDouble_toBinary64 inRange
  rw [Number.sameValue]
  cases h with
  | word inRange' hm =>
    by_cases hn : isSigned n = true
    · rw [coincide_iff_of_isSigned hn hm]
      simp [Number.signed?, hn, hm]
    · rw [coincide_iff_sameValue (fun h => hn h.1) hDouble (nearestDouble_toBinary64 inRange')]
      simp [Number.signed?, hn]
  | double hm hx =>
    rw [coincide_iff_sameValue (fun h => by simp [hm] at h) hDouble hx]
    cases hn : isSigned n <;> simp [Number.signed?, hn, Number.toBinary64]

end Numbers

section Sources

variable {name : String} {differs : Bool} {rest : List Char}

def comparison (differs : Bool) (l : Literal) : Test :=
  if differs then .differs l else .equals l

def operator (differs : Bool) : String :=
  if differs then "!=" else "=="

def comparingSource (differs : Bool) (name raw : String) : String :=
  "<% if " ++ name ++ " " ++ operator differs ++ " " ++ raw ++ " %>yes<% endif %>"

def comparingBody (differs : Bool) (name raw : List Char) : List Char :=
  ' ' :: (['i', 'f'] ++ ' ' :: (name ++ ' ' :: ((operator differs).toList ++
    ' ' :: (raw ++ [' ']))))

theorem toList_comparingSource (differs : Bool) (name raw : String) :
    (comparingSource differs name raw).toList =
      conditionalSource (comparingBody differs name.toList raw.toList) := by
  simp [comparingSource, comparingBody, conditionalSource, Piece.source, TagKind.marker, spaced,
    String.toList_append]

/-- An integer that is written without a plus sign is one row of characters of numbers. -/
theorem exists_numberChars (h : IsInteger raw m) (hMark : raw.head? ≠ some '+') :
    ∃ c s, raw = c :: s ∧ (isDigit c = true ∨ c = '-') ∧ ∀ d ∈ s, isNumberChar d = true := by
  obtain @⟨sign, ds, negative, hSign, hDigits⟩ := h
  obtain ⟨hSome, hAll⟩ := Notation.isDigits_iff.mp hDigits
  have hChars : ∀ d ∈ ds, isNumberChar d = true :=
    fun d hd => isNumberChar_iff.mpr (.inl (hAll d hd))
  cases hSign with
  | plus => exact absurd rfl hMark
  | minus => exact ⟨'-', ds, rfl, .inr rfl, hChars⟩
  | none =>
    obtain ⟨c, s, rfl⟩ := List.exists_cons_of_ne_nil hSome
    exact ⟨c, s, rfl, .inl (hAll c List.mem_cons_self),
      fun d hd => hChars d (List.mem_cons_of_mem c hd)⟩

theorem lexemes_comparing (hName : isIdentifier name.toList = true) (differs : Bool)
    (raw : List Char) (base : Nat) :
    ∃ first subject place last, lexemes base (comparingBody differs name.toList raw) =
      prepend (.name "if") first (prepend (.name name) subject
        (prepend (if differs then .unequal else .equal) place (lexemes last (raw ++ [' '])))) := by
  have hBlank : isBlank ' ' = true := by decide
  have hStop : ∀ (w : Word) (rest : List Char), ∀ c ∈ (' ' :: rest).head?, w.runsOn c = false := by
    rintro w rest _ ⟨⟩
    exact w.runsOn_of_isBlank hBlank
  have hIf : Spelled (.name "if") ['i', 'f'] := .of_isIdentifier (by decide)
  have hSubject : Spelled (.name name) name.toList := by
    simpa using Spelled.of_isIdentifier hName
  have hOperator : Spelled (if differs then .unequal else .equal) (operator differs).toList := by
    cases differs
    · exact .equal
    · exact .unequal
  rw [comparingBody, lexemes_blank hBlank, lexemes_spelled hIf (hStop _ _), lexemes_blank hBlank,
    lexemes_spelled hSubject (hStop _ _), lexemes_blank hBlank,
    lexemes_spelled hOperator (hStop _ _), lexemes_blank hBlank]
  exact ⟨_, _, _, _, rfl⟩

theorem lexemes_of_no_number {c : Char} (hStart : isDigit c = true ∨ c = '-') {s : List Char}
    (hMore : ∀ d ∈ s, isNumberChar d = true) (hStop : ∀ d ∈ rest.head?, isNumberChar d = false)
    (hNone : number? (c :: s) = none) (offset : Nat) :
    lexemes offset ((c :: s) ++ rest) =
      .error ⟨offset, .invalidNumber (String.ofList (c :: s))⟩ := by
  have hFirst := startsNumber hStart
  rw [List.cons_append, lexemes.eq_def]
  simp only [hFirst.notBlank, hFirst.notPipe, hFirst.notOperator, hFirst.notQuote, hStart,
    takeWhile_append_of_stop hMore hStop, hNone, Bool.false_eq_true, if_false, if_true]

theorem parseStatement_comparing (hName : IsName name) (h : IsInteger raw m)
    (hMark : raw.head? ≠ some '+') {k : Number} (hNumber : number? raw = some k)
    (lineOf : Nat → Nat) (base : Nat) :
    ∃ line, parseStatement lineOf base (comparingBody differs name.toList raw) =
      .ok (.opensConditional ⟨false, name, comparison differs (.number k), line⟩) := by
  obtain ⟨c, s, rfl, hStart, hMore⟩ := exists_numberChars h hMark
  have hBlank : isBlank ' ' = true := by decide
  have hStop : ∀ c ∈ [' '].head?, (Word.number k).runsOn c = false := by
    rintro _ ⟨⟩
    exact (Word.number k).runsOn_of_isBlank hBlank
  have hLast : ∀ offset, lexemes offset ((c :: s) ++ [' ']) = .ok [⟨.number k, offset⟩] := by
    intro offset
    rw [lexemes_spelled (.number hStart hMore hNumber) hStop, lexemes_blank hBlank, lexemes.eq_1]
    rfl
  obtain ⟨first, subject, place, last, hWords⟩ := lexemes_comparing hName.1 differs (c :: s) base
  rw [hLast] at hWords
  refine ⟨lineOf first, parseStatement_eq_ok_iff.mpr ⟨_, hWords, ?_, ?_, ?_⟩⟩
  · cases differs <;> rfl
  · rintro other hMem
    obtain rfl := List.mem_singleton.mp hMem
    exact hName
  · rintro _ ⟨⟩
    rfl

theorem parseStatement_no_number (hName : IsName name) (h : IsInteger raw m)
    (hMark : raw.head? ≠ some '+') (hNone : number? raw = none) (lineOf : Nat → Nat) (base : Nat)
    (s : Statement) :
    parseStatement lineOf base (comparingBody differs name.toList raw) ≠ .ok s := by
  obtain ⟨c, t, rfl, hStart, hMore⟩ := exists_numberChars h hMark
  have hStop : ∀ c ∈ [' '].head?, isNumberChar c = false := by
    rintro _ ⟨⟩
    decide
  intro hStatement
  obtain ⟨ls, hScan, -⟩ := parseStatement_eq_ok_iff.mp hStatement
  obtain ⟨first, subject, place, last, hWords⟩ := lexemes_comparing hName.1 differs (c :: t) base
  rw [hScan, lexemes_of_no_number hStart hMore hStop hNone] at hWords
  cases hWords

theorem not_mem_comparingBody (hName : isIdentifier name.toList = true) (h : IsInteger raw m)
    (hMark : raw.head? ≠ some '+') : '%' ∉ comparingBody differs name.toList raw := by
  obtain ⟨c, s, rfl, hStart, hMore⟩ := exists_numberChars h hMark
  have hSubject : '%' ∉ spaced name.toList := not_mem_spaced hName
  have hFirst : '%' ≠ c := by
    rintro rfl
    revert hStart
    decide
  have hRest : '%' ∉ s := fun hMem => absurd (hMore _ hMem) (by decide)
  cases differs <;> simp_all [comparingBody, operator, spaced]

variable {config : Config}

theorem evalCondition_comparing {inRange : WordRange n} {k : Number} (line : Nat)
    (hValue : config.get? name = some (.number (.integer n inRange))) :
    evalCondition ⟨config, []⟩ ⟨false, name, comparison differs (.number k), line⟩ =
      .ok ((Number.integer n inRange).sameValue k != differs) := by
  rw [evalCondition, Scope.lookup?]
  cases differs <;>
    simp [hValue, comparison, evalTest, compare, equals?, Except.map]

end Sources

/-- A literal is read if it is not too large for a double. The field is the same as the literal, for
either operator, just when the two integers coincide. -/
theorem integer_comparison {name raw : String} {config : Config} (hName : IsName name)
    (inRange : WordRange n) (hValue : config.get? name = some (.number (.integer n inRange)))
    (h : IsInteger raw.toList m) (hMark : raw.toList.head? ≠ some '+') :
    (|(m : ℚ)| < Binary64.ceiling → ∃ same : Bool, (same = true ↔ Coincide n m) ∧
      ∀ differs template, renderSource template (comparingSource differs name raw) config =
        .ok (if same != differs then "yes" else "")) ∧
    (Binary64.ceiling ≤ |(m : ℚ)| → ∀ differs template, ∃ position reason,
      renderSource template (comparingSource differs name raw) config =
        .error (.templateSyntax template position reason)) := by
  have hBody : ∀ differs, '%' ∉ comparingBody differs name.toList raw.toList :=
    fun differs => not_mem_comparingBody hName.1 h hMark
  constructor
  · intro hSmall
    obtain ⟨k, hLiteral, hNumber⟩ := exists_isLiteral h hSmall
    refine ⟨(Number.integer n inRange).sameValue k, sameValue_iff_coincide inRange hLiteral, ?_⟩
    intro differs template
    obtain ⟨line, hNodes⟩ := parseNodes_conditional
      (c := ⟨false, name, comparison differs (.number k), 0⟩) (hBody differs) ⟨_, rfl⟩
      (parseStatement_comparing hName h hMark hNumber)
    rw [← toList_comparingSource] at hNodes
    rw [renderSource_of_parseNodes hNodes, render_eq_ok_iff]
    refine ⟨_, evalNodes_conditional (evalCondition_comparing line hValue), ?_⟩
    cases (Number.integer n inRange).sameValue k != differs <;> decide
  · intro hLarge differs template
    have hNone := parseNodes_conditional_of_refused (hBody differs) ⟨_, rfl⟩
      (parseStatement_no_number hName h hMark (number?_of_ceiling_le h hLarge))
    rw [← toList_comparingSource] at hNone
    obtain ⟨position, reason, hParse⟩ := parse_of_no_nodes hNone template
    rw [renderSource, hParse]
    exact ⟨position, reason, rfl⟩

/-- Two neighbours above `2 ^ 53` that no double tells apart. -/
theorem integer_comparison_neighbours :
    let config : Config := .ofList [("x", .number (.integer 9007199254740993 (by decide)))]
    IsName "x" ∧ IsInteger "9007199254740992".toList 9007199254740992 ∧
      |((9007199254740992 : ℤ) : ℚ)| < Binary64.ceiling ∧
      renderSource "t" "<% if x != 9007199254740992 %>yes<% endif %>" config = .ok "yes" := by
  intro config
  have hName : IsName "x" := ⟨by decide, by decide⟩
  have hValue : config.get? "x" = some (.number (.integer 9007199254740993 (by decide))) := by
    decide +kernel
  have hInteger : IsInteger "9007199254740992".toList 9007199254740992 :=
    Notation.integer?_eq_some_iff.mp (by decide +kernel)
  have hSmall := Notation.abs_lt_ceiling (n := 9007199254740992) (by decide)
  obtain ⟨hReads, -⟩ := integer_comparison hName (by decide) hValue hInteger (by decide)
  obtain ⟨same, hSame, hRenders⟩ := hReads hSmall
  have hDiffer : same = false := by
    rw [← Bool.not_eq_true, hSame, coincide_iff_of_isSigned rfl rfl]
    decide
  have hSource := hRenders true "t"
  rw [hDiffer] at hSource
  exact ⟨hName, hInteger, hSmall, hSource⟩

/-- Beyond the signed words two integers with one nearest double are the same. -/
theorem unsigned_neighbours_compare_equal :
    let n : ℤ := 9223372036854775809
    let m : ℤ := 9223372036854775808
    let config : Config := .ofList [("x", .number (.integer n (by decide)))]
    IsInteger "9223372036854775808".toList m ∧ n ≠ m ∧
      renderSource "t" "<% if x == 9223372036854775808 %>yes<% endif %>" config = .ok "yes" ∧
      renderSource "t" "<% if x != 9223372036854775808 %>yes<% endif %>" config = .ok "" := by
  intro n m config
  refine ⟨Notation.integer?_eq_some_iff.mp (by decide +kernel), by decide, ?_, ?_⟩
  · decide +kernel
  · decide +kernel

end Boilerplate.Template
