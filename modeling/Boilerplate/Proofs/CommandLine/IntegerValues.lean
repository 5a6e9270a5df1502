import Boilerplate.Proofs.CommandLine.Assignments
import Boilerplate.Proofs.CommandLine.Coercion
import Boilerplate.Proofs.Definition.Document
import Boilerplate.Proofs.Generation.Defaults
import Boilerplate.Proofs.Template.FieldNames

/-! # Integers of assignments

An integer that fits a signed word is the same number in an assignment, in a file of values and on
the page. The larger ones of an unsigned word are not: an assignment rounds them to a double.
-/

namespace Boilerplate.CommandLine

open Notation (IsInteger isDigit)
open Template (printingSource reservedWords)

variable {n : ℤ} {key : String}

theorem isBlank_of_mem_toString {c : Char} (h : c ∈ (toString n).toList) :
    Text.isBlank c = false := by
  have hNumber : isDigit c = true ∨ c = '-' := by
    rw [Notation.toList_toString] at h
    split at h
    · exact (List.mem_cons.mp h).symm.imp_left Notation.isDigit_of_mem_toDigits
    · exact .inl (Notation.isDigit_of_mem_toDigits h)
  exact (Template.startsNumber hNumber).notBlank

theorem trim_toString (n : ℤ) : Text.trim (toString n).toList = (toString n).toList :=
  Text.trim_eq_self (fun _ hc => isBlank_of_mem_toString (List.mem_of_mem_head? hc))
    fun _ hc => isBlank_of_mem_toString (List.mem_of_mem_getLast? hc)

theorem isInteger_trim_toString (n : ℤ) : IsInteger (Text.trim (toString n).toList) n := by
  rw [trim_toString]
  exact Notation.integer?_eq_some_iff.mp (Notation.integer?_toString n)

theorem coerce_toString {inRange : WordRange n} (hSigned : Number.isSigned n = true)
    (name : String) :
    coerce name (toString n) (some .number) = .ok (.number (.integer n inRange)) :=
  coerce_of_standsFor name (.word (isInteger_trim_toString n) hSigned)

/-- Beyond the signed words an assignment gives the nearest double. -/
theorem coerce_toString_unsigned (inRange : WordRange n) (hUnsigned : Number.isSigned n = false)
    (name : String) : ∃ x : Binary64, x.Rounds false n ∧
      coerce name (toString n) (some .number) = .ok (.number (.float x)) := by
  have hInteger := isInteger_trim_toString n
  obtain ⟨negative, hDecimal, hSign⟩ := hInteger.isDecimal
  have hPositive : 0 < n := by
    have hLow := inRange.1
    simp only [Number.isSigned, Bool.and_eq_false_iff, decide_eq_false_iff_not] at hUnsigned
    omega
  obtain rfl : negative = false :=
    (hSign hPositive.ne').trans (decide_eq_false (not_lt.mpr hPositive.le))
  rw [abs_of_pos (by exact_mod_cast hPositive)] at hDecimal
  have hSmall := Notation.abs_lt_ceiling inRange
  obtain ⟨x, hRounds⟩ := hDecimal.exists_rounds ((le_abs_self _).trans_lt hSmall)
  refine ⟨x, hRounds, coerce_of_standsFor name (.double hDecimal ?_ hRounds)⟩
  intro m hOther
  obtain rfl : m = n := hOther.unique hInteger
  exact hUnsigned

theorem isAssignment_printed (hKey : Text.isIdentifier key.toList = true) (raw : String) :
    IsAssignment s!"{key}={raw}" key raw := by
  have hChars := Template.isIdentifierChar_of_mem hKey
  have hSolid : ∀ c ∈ key.toList, Text.isBlank c = false := by
    intro c hc
    have hName := Template.isNameChar_of_isIdentifierChar (hChars c hc)
    rw [← Bool.not_eq_true]
    intro hBlank
    rw [Template.not_isNameChar_of_isBlank hBlank] at hName
    cases hName
  have hTrim : Text.trim key.toList = key.toList :=
    Text.trim_eq_self (fun c hc => hSolid c (List.mem_of_mem_head? hc))
      fun c hc => hSolid c (List.mem_of_mem_getLast? hc)
  have hSign : '=' ∉ key.toList := fun hMem => absurd (hChars _ hMem) (by decide)
  have hSome : key.toList ≠ [] := by
    intro hEmpty
    rw [hEmpty] at hKey
    cases hKey
  have hAssignment : IsAssignment _ _ (String.ofList raw.toList) :=
    .intro hSign (by rwa [hTrim])
  have hText : String.ofList (key.toList ++ '=' :: raw.toList) = s!"{key}={raw}" := by
    rw [String.ext_iff]
    simp [toString]
  rwa [hText, hTrim, String.ofList_toList, String.ofList_toList] at hAssignment

variable {d : Definition} {f : Field}

theorem resolveValues_assignment {a : String} {v : Value} (h : Assigns d a key v)
    (example? : Option String) :
    resolveValues d ⟨example?, none, [a]⟩ =
      (exampleConfig d example?).map fun config => config.insert key v := by
  rw [resolveValues]
  cases exampleConfig d example? with
  | error e => rfl
  | ok config =>
    show (assign d config a >>= _) = _
    rw [assign_eq_ok_iff.mpr ⟨key, v, h, rfl⟩]
    rfl

theorem resolveValues_file {path source : String} {v : Value}
    (h : fileConfig (some (path, .ok source)) = .ok (.ofList [(key, v)]))
    (example? : Option String) :
    resolveValues d ⟨example?, some (path, .ok source), []⟩ =
      (exampleConfig d example?).map fun config => config.insert key v := by
  rw [resolveValues, h]
  cases exampleConfig d example? with
  | error e => rfl
  | ok config => rfl

theorem fileConfig_integer (key path : String) (inRange : WordRange n) :
    fileConfig (some (path, .ok (Json.compact (.object [(key, .number (.integer n inRange))])))) =
      .ok (.ofList [(key, .number (.integer n inRange))]) := by
  have hExact : (Json.object [(key, .number (.integer n inRange))]).IsExact :=
    .object (by simpa using Json.IsExact.integer n inRange)
  rw [fileConfig, Json.parse?_compact hExact]
  rfl

theorem isIdentifier_of_field? (hValid : d.validate = .ok ()) (hField : d.field? key = some f) :
    Text.isIdentifier key.toList = true := by
  obtain ⟨hMem, rfl⟩ := (Definition.field?_eq_some_iff hValid).mp hField
  exact f.isIdentifier_of_findFault ((Definition.fields_of_validate hValid).2 f hMem)

theorem assigns_integer {inRange : WordRange n} (hValid : d.validate = .ok ())
    (hField : d.field? key = some f) (hKind : f.kind = .number)
    (hSigned : Number.isSigned n = true) :
    Assigns d s!"{key}={n}" key (.number (.integer n inRange)) := by
  refine .intro (isAssignment_printed (isIdentifier_of_field? hValid hField) (toString n)) ?_
  rw [hField, Option.map_some, hKind]
  exact coerce_toString hSigned key

/-- An integer of a signed word is printed, assigned and read from a file as the same number. -/
theorem integer_survives_assignment (hValid : d.validate = .ok ()) (hField : d.field? key = some f)
    (hKind : f.kind = .number) (inRange : WordRange n) (hSigned : Number.isSigned n = true) :
    let value : Value := .number (.integer n inRange)
    let file := Json.compact (.object [(key, .number (.integer n inRange))])
    value.scalarText? = some (toString n) ∧
    (∀ name, coerce name (toString n) (some .number) = .ok value) ∧
    ∀ example? path,
      resolveValues d ⟨example?, none, [s!"{key}={n}"]⟩ =
        resolveValues d ⟨example?, some (path, .ok file), []⟩ ∧
      ∀ config, resolveValues d ⟨example?, none, [s!"{key}={n}"]⟩ = .ok config →
        config.get? key = some value ∧ (key ∉ reservedWords → ∀ template,
          Template.renderSource template (printingSource key) config = .ok (toString n)) := by
  intro value file
  refine ⟨rfl, coerce_toString hSigned, fun example? path => ?_⟩
  have hAssigns : Assigns d s!"{key}={n}" key value :=
    assigns_integer hValid hField hKind hSigned
  have hAssigned := resolveValues_assignment hAssigns example?
  refine ⟨?_, fun config hConfig => ?_⟩
  · rw [hAssigned, resolveValues_file (fileConfig_integer key path inRange)]
  · rw [hAssigned, map_eq_ok] at hConfig
    obtain ⟨documented, -, rfl⟩ := hConfig
    have hValue : (documented.insert key value).get? key = some value := by
      rw [Dictionary.get?_insert, if_pos rfl]
    refine ⟨hValue, fun hFree template => ?_⟩
    have hName := isIdentifier_of_field? hValid hField
    obtain ⟨_, hNodes⟩ := Template.parseNodes_printingSource hName hFree
    rw [Template.renderSource_of_parseNodes hNodes, Template.render_eq_ok_iff]
    refine ⟨toString n, Template.evalNodes_output hValue rfl, ?_⟩
    rw [Text.trimmed, trim_toString, String.ofList_toList]

theorem integer_survives_assignment_largest :
    let key := "port"
    let n : ℤ := 0x7fffffffffffffff
    let port : Field := ⟨key, "Port", .number, false, none, "", []⟩
    let d : Definition := ⟨"svc", "Service", "", "", "", [⟨"f", "f", "", "text"⟩], [port], ∅⟩
    let file := "\x7b\"port\":9223372036854775807\x7d"
    d.validate = .ok () ∧ d.field? key = some port ∧ port.kind = .number ∧
      Number.isSigned n = true ∧ resolveValues d ⟨none, none, ["port=9223372036854775807"]⟩ =
        resolveValues d ⟨none, some ("values.json", .ok file), []⟩ := by
  intro key n port d file
  have hValid : d.validate = .ok () := by decide +kernel
  have hField : d.field? key = some port := rfl
  obtain ⟨-, -, hSources⟩ :=
    integer_survives_assignment (n := n) hValid hField rfl (by decide) rfl
  obtain ⟨hSame, -⟩ := hSources none "values.json"
  have hAssignment : s!"{key}={n}" = "port=9223372036854775807" := by decide +kernel
  have hFile : Json.compact (.object [(key, .number (.integer n (by decide)))]) = file := by
    decide +kernel
  rw [hAssignment, hFile] at hSame
  exact ⟨hValid, hField, rfl, rfl, hSame⟩

/-- An integer that needs the unsigned word is kept by a file and lost by an assignment. -/
theorem unsigned_integer_not_assigned :
    let value : Value := .number (.integer 0x8000000000000000 (by decide))
    value.scalarText? = some "9223372036854775808" ∧
      fileConfig (some ("values.json", .ok "\x7b\"k\": 9223372036854775808\x7d")) =
        .ok (.ofList [("k", value)]) ∧
      coerce "k" "9223372036854775808" (some .number) ≠ .ok value := by
  intro value
  have hText : toString (0x8000000000000000 : ℤ) = "9223372036854775808" := by decide +kernel
  refine ⟨congrArg some hText, by decide +kernel, ?_⟩
  obtain ⟨x, -, hDouble⟩ :=
    coerce_toString_unsigned (n := 0x8000000000000000) (by decide) rfl "k"
  rw [hText] at hDouble
  rw [hDouble]
  simp [value]

end Boilerplate.CommandLine
