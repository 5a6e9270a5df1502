import Mathlib.Data.List.TakeWhile
import Boilerplate.Proofs.Data.Outcome
import Boilerplate.Proofs.Data.Spans
import Boilerplate.Template.Lexeme
import Boilerplate.Text.Identifier

/-! # Cutting a tag into words

The body of a tag is a row of words with blanks in front of, between and behind them. Two words may
stand side by side unless the second begins with what the first would take in. The reader cuts a
body in this one way, and fails where there is none.
-/

namespace Boilerplate.Template

open Text

/-- The characters that a word takes in when they follow it. -/
def Word.runsOn : Word → Char → Bool
  | .name _, c => isNameChar c
  | .number _, c => isNumberChar c
  | _, _ => false

/-- The texts that are read as a word. The quotes around a text are of the kind that it lacks. -/
inductive Spelled : Word → List Char → Prop
  | pipe : Spelled .pipe ['|']
  | equal : Spelled .equal ['=', '=']
  | unequal : Spelled .unequal ['!', '=']
  | quoted {q : Char} {s : List Char} : q = '"' ∨ q = '\'' → q ∉ s →
      Spelled (.quoted (String.ofList s)) (q :: (s ++ [q]))
  | number {c : Char} {s : List Char} {n : Number} : Notation.isDigit c = true ∨ c = '-' →
      (∀ d ∈ s, isNumberChar d = true) → number? (c :: s) = some n → Spelled (.number n) (c :: s)
  | name {c : Char} {s : List Char} : Notation.isDigit c = false → isNameChar c = true →
      (∀ d ∈ s, isNameChar d = true) → Spelled (.name (String.ofList (c :: s))) (c :: s)

/-- The text at an offset is the row of words, each in a text of its own and at its own offset, with
blanks around them. -/
inductive Layout (Spells : Word → List Char → Prop) : Nat → List Char → List Lexeme → Prop
  | nil {offset : Nat} : Layout Spells offset [] []
  | blank {offset : Nat} {c : Char} {s : List Char} {ls : List Lexeme} : isBlank c = true →
      Layout Spells (offset + c.utf8Size) s ls → Layout Spells offset (c :: s) ls
  | word {offset : Nat} {w : Word} {t s : List Char} {ls : List Lexeme} : Spells w t →
      (∀ c ∈ s.head?, isBlank c = true ∨ w.runsOn c = false) →
      Layout Spells (offset + byteLength t) s ls → Layout Spells offset (t ++ s) (⟨w, offset⟩ :: ls)

section Characters

variable {c : Char}

/-- What the reader of words asks of a character before it takes it for the start of a name. -/
structure StartsName (c : Char) : Prop where
  notBlank : isBlank c = false
  notPipe : c ≠ '|'
  notOperator : ¬ (c = '=' ∨ c = '!')
  notQuote : ¬ (c = '"' ∨ c = '\'')
  notNumber : ¬ (Notation.isDigit c = true ∨ c = '-')
  nameChar : isNameChar c = true

/-- What the reader asks of a character before it takes it for the start of a number. -/
structure StartsNumber (c : Char) : Prop where
  notBlank : isBlank c = false
  notPipe : c ≠ '|'
  notOperator : ¬ (c = '=' ∨ c = '!')
  notQuote : ¬ (c = '"' ∨ c = '\'')
  number : Notation.isDigit c = true ∨ c = '-'

theorem toNat_lt_of_isAlphanum (h : c.isAlphanum = true) : c.toNat < 0x80 := by
  change (decide (65 ≤ c.val ∧ c.val ≤ 90) || (decide (97 ≤ c.val) && decide (c.val ≤ 122)) ||
    (decide (48 ≤ c.val) && decide (c.val ≤ 57))) = true at h
  simp only [Bool.or_eq_true, Bool.and_eq_true, decide_eq_true_eq, UInt32.le_iff_toNat_le] at h
  have hCode : c.val.toNat = c.toNat := rfl
  simp at h
  omega

theorem toNat_lt_of_isIdentifierChar (h : isIdentifierChar c = true) : c.toNat < 0x80 := by
  rw [isIdentifierChar, Bool.or_eq_true, beq_iff_eq] at h
  obtain hLetter | rfl := h
  · exact toNat_lt_of_isAlphanum hLetter
  · decide

theorem isIdentifierChar_of_isIdentifierStart (h : isIdentifierStart c = true) :
    isIdentifierChar c = true := by
  simp only [isIdentifierStart, isIdentifierChar, Char.isAlphanum, Bool.or_eq_true] at h ⊢
  exact h.imp_left .inl

theorem isIdentifierChar_of_mem {name : List Char} (h : isIdentifier name = true) :
    ∀ c ∈ name, isIdentifierChar c = true := by
  cases name with
  | nil => cases h
  | cons c rest =>
    rw [isIdentifier, Bool.and_eq_true, List.all_eq_true] at h
    exact List.forall_mem_cons.mpr ⟨isIdentifierChar_of_isIdentifierStart h.1, h.2⟩

theorem isNameChar_of_isIdentifierChar (h : isIdentifierChar c = true) : isNameChar c = true := by
  have hAscii : ∀ n < 0x80, isIdentifierChar (Char.ofNat n) = true →
      isNameChar (Char.ofNat n) = true := by decide
  have hCode := hAscii c.toNat (toNat_lt_of_isIdentifierChar h)
  rw [Char.ofNat_toNat] at hCode
  exact hCode h

theorem not_isDigit_of_isIdentifierStart (h : isIdentifierStart c = true) :
    Notation.isDigit c = false := by
  have hAscii : ∀ n < 0x80, isIdentifierStart (Char.ofNat n) = true →
      Notation.isDigit (Char.ofNat n) = false := by decide
  have hChar := isIdentifierChar_of_isIdentifierStart h
  have hCode := hAscii c.toNat (toNat_lt_of_isIdentifierChar hChar)
  rw [Char.ofNat_toNat] at hCode
  exact hCode h

theorem not_isNameChar_of_isBlank (h : isBlank c = true) : isNameChar c = false := by
  have hRuns : ∀ r ∈ blankRuns, ∀ n < r.last + 1 - r.first,
      isNameChar (Char.ofNat (r.first + n)) = false := by decide +kernel
  obtain ⟨r, hr, hc⟩ := inRuns_iff.mp h
  obtain ⟨hFirst, hLast, _⟩ := CharRun.contains_iff.mp hc
  have hCode := hRuns r hr (c.toNat - r.first) (by omega)
  rwa [Nat.add_sub_cancel' hFirst, Char.ofNat_toNat] at hCode

theorem startsNumber (h : Notation.isDigit c = true ∨ c = '-') : StartsNumber c := by
  have hAscii : ∀ n < 0x80, (Notation.isDigit (Char.ofNat n) = true ∨ Char.ofNat n = '-') →
      isBlank (Char.ofNat n) = false ∧ Char.ofNat n ≠ '|' ∧
        ¬ (Char.ofNat n = '=' ∨ Char.ofNat n = '!') ∧
        ¬ (Char.ofNat n = '"' ∨ Char.ofNat n = '\'') := by decide
  have hCode := hAscii c.toNat <| by
    obtain hDigit | rfl := h
    · exact Notation.toNat_lt_of_isDigit hDigit
    · decide
  rw [Char.ofNat_toNat] at hCode
  obtain ⟨hBlank, hPipe, hOperator, hQuote⟩ := hCode h
  exact ⟨hBlank, hPipe, hOperator, hQuote, h⟩

theorem startsName (hDigit : Notation.isDigit c = false) (hName : isNameChar c = true) :
    StartsName c := by
  have hNot : ∀ d, isNameChar d = false → c ≠ d := by
    rintro d hd rfl
    exact Bool.false_ne_true (hd.symm.trans hName)
  have hPipe : isNameChar '|' = false := by decide
  have hEqual : isNameChar '=' = false := by decide
  have hBang : isNameChar '!' = false := by decide
  have hDouble : isNameChar '"' = false := by decide
  have hSingle : isNameChar '\'' = false := by decide
  have hMinus : isNameChar '-' = false := by decide
  refine ⟨?_, hNot _ hPipe, not_or.mpr ⟨hNot _ hEqual, hNot _ hBang⟩,
    not_or.mpr ⟨hNot _ hDouble, hNot _ hSingle⟩, ?_, hName⟩
  · rw [← Bool.not_eq_true]
    intro hBlank
    exact Bool.false_ne_true ((not_isNameChar_of_isBlank hBlank).symm.trans hName)
  · rw [hDigit]
    exact not_or.mpr ⟨Bool.false_ne_true, hNot _ hMinus⟩

theorem isNumberChar_iff : isNumberChar c = true ↔ Notation.isDigit c = true ∨ c = '.' := by
  rw [isNumberChar, Bool.or_eq_true, beq_iff_eq]

/-- A blank goes on with no word. -/
theorem Word.runsOn_of_isBlank (w : Word) (h : isBlank c = true) : w.runsOn c = false := by
  cases w with
  | name => exact not_isNameChar_of_isBlank h
  | number =>
    rw [Word.runsOn, ← Bool.not_eq_true, isNumberChar_iff]
    rintro (hDigit | rfl)
    · exact absurd ((startsNumber (.inl hDigit)).notBlank.symm.trans h) Bool.false_ne_true
    · exact absurd h (by decide)
  | quoted | equal | unequal | pipe => rfl

end Characters

theorem Spelled.of_isIdentifier {name : List Char} (hName : isIdentifier name = true) :
    Spelled (.name (String.ofList name)) name := by
  cases name with
  | nil => cases hName
  | cons c more =>
    rw [isIdentifier, Bool.and_eq_true, List.all_eq_true] at hName
    have hFirst := isNameChar_of_isIdentifierChar (isIdentifierChar_of_isIdentifierStart hName.1)
    exact .name (not_isDigit_of_isIdentifierStart hName.1) hFirst
      fun d hd => isNameChar_of_isIdentifierChar (hName.2 d hd)

variable {offset : Nat} {c : Char} {s t : List Char} {w : Word} {ls : List Lexeme}

theorem byteLength_quoted {q : Char} (hQuote : q = '"' ∨ q = '\'') (s : List Char) :
    byteLength (q :: (s ++ [q])) = 2 + byteLength s := by
  have hSize : q.utf8Size = 1 := by rcases hQuote with rfl | rfl <;> rfl
  simp [hSize]
  omega

theorem lexemes_blank (hBlank : isBlank c = true) (offset : Nat) (rest : List Char) :
    lexemes offset (c :: rest) = lexemes (offset + c.utf8Size) rest := by
  rw [lexemes.eq_def]
  simp only [hBlank, if_true]

/-- A word in front is read off as far as what follows does not go on with it. -/
theorem lexemes_spelled (hWord : Spelled w t) (hStop : ∀ c ∈ s.head?, w.runsOn c = false)
    (offset : Nat) :
    lexemes offset (t ++ s) = prepend w offset (lexemes (offset + byteLength t) s) := by
  cases hWord with
  | pipe =>
    have hBlank : isBlank '|' = false := by decide
    rw [List.singleton_append, lexemes.eq_def]
    simp only [hBlank, Bool.false_eq_true, if_false, if_true]
    rfl
  | equal =>
    have hBlank : isBlank '=' = false := by decide
    rw [List.cons_append, lexemes.eq_def]
    simp [hBlank]
    rfl
  | unequal =>
    have hBlank : isBlank '!' = false := by decide
    rw [List.cons_append, lexemes.eq_def]
    simp [hBlank]
    rfl
  | @quoted q body hQuote hNot =>
    have hBlank : isBlank q = false := by rcases hQuote with rfl | rfl <;> decide
    have hPipe : q ≠ '|' := by rcases hQuote with rfl | rfl <;> decide
    have hOperator : ¬ (q = '=' ∨ q = '!') := by rcases hQuote with rfl | rfl <;> decide
    have hBody : ∀ d ∈ body, (d != q) = true := by
      rintro d hd
      exact bne_iff_ne.mpr fun h => hNot (h ▸ hd)
    have hClose : ∀ d ∈ (q :: s).head?, (d != q) = false := by
      rintro d hd
      cases hd
      exact bne_self_eq_false q
    rw [List.cons_append, List.append_assoc, List.singleton_append, lexemes.eq_def]
    simp only [hBlank, hPipe, hOperator, hQuote, Bool.false_eq_true, if_false, if_true]
    rw [takeWhile_append_of_stop hBody hClose]
    split
    next hNone =>
      rw [dropWhile_append_of_stop hBody hClose] at hNone
      cases hNone
    next after hAfter =>
      rw [dropWhile_append_of_stop hBody hClose] at hAfter
      obtain ⟨-, rfl⟩ := List.cons.inj hAfter
      rw [Nat.add_assoc, byteLength_quoted hQuote]
  | @number c s n hNumber hMore hValue =>
    have hStart := startsNumber hNumber
    rw [List.cons_append, lexemes.eq_def]
    simp only [hStart.notBlank, hStart.notPipe, hStart.notOperator, hStart.notQuote, hNumber,
      takeWhile_append_of_stop hMore hStop, dropWhile_append_of_stop hMore hStop, hValue,
      Bool.false_eq_true, if_false, if_true]
  | @name c s hDigit hName hMore =>
    have hStart := startsName hDigit hName
    rw [List.cons_append, lexemes.eq_def]
    simp only [hStart.notBlank, hStart.notPipe, hStart.notOperator, hStart.notQuote,
      hStart.notNumber, hName, takeWhile_append_of_stop hMore hStop,
      dropWhile_append_of_stop hMore hStop, Bool.false_eq_true, if_false, if_true]

theorem Layout.lexemes_eq (h : Layout Spelled offset s ls) : lexemes offset s = .ok ls := by
  induction h with
  | nil => exact lexemes.eq_1 _
  | blank hBlank _ ih => rw [lexemes_blank hBlank, ih]
  | word hWord hStop _ ih =>
    rw [lexemes_spelled hWord (fun c hc => (hStop c hc).elim (Word.runsOn_of_isBlank _) id), ih]
    rfl

/-- How a body is cut, word after word, up to its end or to where no word starts. -/
inductive Scan : Nat → List Char → Except SyntaxError (List Lexeme) → Prop
  | nil {offset : Nat} : Scan offset [] (.ok [])
  | blank {offset : Nat} {c : Char} {s : List Char} {x : Except SyntaxError (List Lexeme)} :
      isBlank c = true → Scan (offset + c.utf8Size) s x → Scan offset (c :: s) x
  | word {offset : Nat} {w : Word} {t s : List Char} {x : Except SyntaxError (List Lexeme)} :
      Spelled w t → (∀ c ∈ s.head?, w.runsOn c = false) → Scan (offset + byteLength t) s x →
      Scan offset (t ++ s) (prepend w offset x)
  | fault {offset : Nat} {s : List Char} {cause : SyntaxCause} :
      Scan offset s (.error ⟨offset, cause⟩)

section Spans

variable {rest after : List Char} {q : Char} {x : Except SyntaxError (List Lexeme)}

/-- A word that takes in all that it runs on to. -/
theorem Scan.span (hWord : Spelled w (c :: rest.takeWhile w.runsOn))
    (h : Scan (offset + byteLength (c :: rest.takeWhile w.runsOn)) (rest.dropWhile w.runsOn) x) :
    Scan offset (c :: rest) (prepend w offset x) := by
  have hSplit : c :: rest = c :: rest.takeWhile w.runsOn ++ rest.dropWhile w.runsOn :=
    congrArg (c :: ·) List.takeWhile_append_dropWhile.symm
  rw [hSplit]
  exact .word hWord eq_false_of_head?_dropWhile h

/-- A text up to the next quote of its own kind. -/
theorem Scan.text (hQuote : c = '"' ∨ c = '\'') (hClosed : rest.dropWhile (· != c) = q :: after)
    (h : Scan (offset + 2 + byteLength (rest.takeWhile (· != c))) after x) :
    Scan offset (c :: rest)
      (prepend (.quoted (String.ofList (rest.takeWhile (· != c)))) offset x) := by
  have hNot : c ∉ rest.takeWhile (· != c) := fun hMem => by
    simpa using List.mem_takeWhile_imp hMem
  have hq : (q != c) = false := eq_false_of_head?_dropWhile q (by rw [hClosed]; rfl)
  obtain rfl : q = c := by simpa using hq
  have hSplit : q :: rest = q :: (rest.takeWhile (· != q) ++ [q]) ++ after := by
    rw [List.cons_append, List.append_assoc, List.singleton_append, ← hClosed,
      List.takeWhile_append_dropWhile]
  rw [Nat.add_assoc, ← byteLength_quoted hQuote] at h
  rw [hSplit]
  exact .word (.quoted hQuote hNot) (fun _ _ => rfl) h

end Spans

theorem lexemes_scan (offset : Nat) (s : List Char) : Scan offset s (lexemes offset s) := by
  induction hLength : s.length using Nat.strongRecOn generalizing offset s with
  | ind n ih =>
    cases s with
    | nil =>
      rw [lexemes.eq_1]
      exact .nil
    | cons c rest =>
      rw [List.length_cons] at hLength
      have hNext : ∀ after offset, after.length ≤ rest.length →
          Scan offset after (lexemes offset after) :=
        fun after _ hShorter => ih after.length (by omega) _ after rfl
      -- One kind of word after the other, in the order in which the reader asks for them.
      rw [lexemes.eq_def]
      simp only
      split
      next hBlank => exact .blank hBlank (hNext rest _ (Nat.le_refl _))
      split
      next hPipe =>
        subst hPipe
        exact .word .pipe (fun _ _ => rfl) (hNext rest _ (Nat.le_refl _))
      split
      next hOperator =>
        split
        next after =>
          rcases hOperator with rfl | rfl
          · exact .word .equal (fun _ _ => rfl) (hNext after _ (Nat.le_succ _))
          · exact .word .unequal (fun _ _ => rfl) (hNext after _ (Nat.le_succ _))
        next => exact .fault
      split
      next hQuote =>
        split
        next => exact .fault
        next after hClosed =>
          have hShorter := length_dropWhile_le (· != c) rest
          rw [hClosed] at hShorter
          exact .text hQuote hClosed (hNext after _ (Nat.le_of_succ_le hShorter))
      split
      next hNumber =>
        split
        next => exact .fault
        next n hValue =>
          exact .span (.number hNumber (fun _ => List.mem_takeWhile_imp) hValue)
            (hNext _ _ (length_dropWhile_le isNumberChar rest))
      next hNumber =>
        split
        next hName =>
          have hDigit : Notation.isDigit c = false := by
            rw [← Bool.not_eq_true]
            exact fun h => hNumber (.inl h)
          exact .span (.name hDigit hName fun _ => List.mem_takeWhile_imp)
            (hNext _ _ (length_dropWhile_le isNameChar rest))
        next => exact .fault

theorem Scan.layout {x : Except SyntaxError (List Lexeme)} (h : Scan offset s x)
    (hOk : x = .ok ls) : Layout Spelled offset s ls := by
  induction h generalizing ls with
  | nil =>
    cases hOk
    exact .nil
  | blank hBlank _ ih => exact .blank hBlank (ih hOk)
  | word hWord hStop _ ih =>
    obtain ⟨more, hMore, rfl⟩ := map_eq_ok.mp hOk
    exact .word hWord (fun c hc => .inr (hStop c hc)) (ih hMore)
  | fault => cases hOk

/-- A text is cut into words just when it is a row of them, and then in the one way. -/
theorem lexemes_eq_ok_iff : lexemes offset s = .ok ls ↔ Layout Spelled offset s ls :=
  ⟨(lexemes_scan offset s).layout, Layout.lexemes_eq⟩

end Boilerplate.Template
