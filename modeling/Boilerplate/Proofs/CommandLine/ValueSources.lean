import Boilerplate.Proofs.CommandLine.Assignments
import Boilerplate.Proofs.Data.Dictionary
import Boilerplate.Proofs.Data.Rows
import Boilerplate.Proofs.Generation.Defaults
import Boilerplate.Proofs.Generation.Refusal

/-! # Where values come from

Each source is used as it stands or refused: the example must exist, the file must be a readable
object of values, and each assignment must name a key and be read as its field asks for. A key takes
its last assignment, else the value of the file, else that of the example.
-/

namespace Boilerplate.CommandLine

section Files

variable {d : Definition} {name? : Option String}
  {file? : Option (String × Except SystemError String)} {key : String} {v : Value} {e : Failure}
  {config : Config}

def HasExample (d : Definition) (name? : Option String) : Prop :=
  ∀ name, name? = some name → ∃ config, d.example? name = some config

inductive ExampleGives (d : Definition) (name? : Option String) (key : String) (v : Value) : Prop
  | intro {name : String} {config : Config} : name? = some name →
      d.example? name = some config → config.get? key = some v → ExampleGives d name? key v

theorem exampleConfig_eq_error_iff : exampleConfig d name? = .error e ↔
    ∃ name, name? = some name ∧ d.example? name = none ∧
      e = .unknownExample d.id name d.examples.keys := by
  cases name? with
  | none => simp [exampleConfig]
  | some name => cases hExample : d.example? name <;> simp [exampleConfig, hExample, eq_comm]

theorem exists_exampleConfig_iff :
    (∃ config, exampleConfig d name? = .ok config) ↔ HasExample d name? := by
  cases name? with
  | none => simp [exampleConfig, HasExample]
  | some name => cases hExample : d.example? name <;> simp [exampleConfig, hExample, HasExample]

theorem get?_exampleConfig (h : exampleConfig d name? = .ok config) :
    config.get? key = some v ↔ ExampleGives d name? key v := by
  constructor
  · intro hValue
    cases name? with
    | none =>
      cases h
      cases hValue
    | some name =>
      cases hExample : d.example? name with
      | none => simp [exampleConfig, hExample] at h
      | some found =>
        simp only [exampleConfig, hExample, Except.ok.injEq] at h
        exact .intro rfl hExample (h ▸ hValue)
  · rintro ⟨rfl, hExample, hValue⟩
    simp only [exampleConfig, hExample, Except.ok.injEq] at h
    exact h ▸ hValue

/-- The text is an object with these members, all of them values. -/
structure HoldsValues (source : String) (members : List (String × Json)) : Prop where
  parses : Json.parse? source.toList = some (.object members)
  values : ∀ p ∈ members, ∃ v, Value.ofJson? p.2 = some v

def HasFile (file? : Option (String × Except SystemError String)) : Prop :=
  ∀ path read, file? = some (path, read) → ∃ source members, read = .ok source ∧
    HoldsValues source members

inductive FileGives (file? : Option (String × Except SystemError String)) (key : String)
    (v : Value) : Prop
  | intro {path source : String} {members : List (String × Json)} {j : Json} :
      file? = some (path, .ok source) → HoldsValues source members →
      (Json.object members).member? key = some j → Value.ofJson? j = some v → FileGives file? key v

section Members

variable {α : Type} {f : Json → Option α} {members : List (String × Json)}

theorem exists_namedValues (h : ∀ p ∈ members, ∃ a, f p.2 = some a) :
    ∃ pairs, (members.mapM fun p => (f p.2).map fun a => (p.1, a)) = some pairs ∧
      ∀ key : String, (pairs.reverse.find? (·.1 == key)).map (·.2) =
        ((members.reverse.find? (·.1 == key)).map (·.2)).bind f := by
  induction members with
  | nil => exact ⟨[], rfl, fun key => rfl⟩
  | cons p rest ih =>
    rw [List.forall_mem_cons] at h
    obtain ⟨⟨a, hFirst⟩, hRest⟩ := h
    obtain ⟨pairs, hPairs, hSame⟩ := ih hRest
    refine ⟨(p.1, a) :: pairs, ?_, fun key => ?_⟩
    · simp [List.mapM_cons, hFirst, hPairs]
    · have hKey := hSame key
      simp only [List.reverse_cons, List.find?_append]
      cases hLater : rest.reverse.find? (·.1 == key) with
      | none =>
        rw [hLater] at hKey
        have hNone : pairs.reverse.find? (·.1 == key) = none := by simpa using hKey
        by_cases hName : p.1 = key <;> simp [hNone, hName, hFirst]
      | some q =>
        obtain ⟨b, hq⟩ := hRest q (List.mem_reverse.mp (List.mem_of_find?_eq_some hLater))
        rw [hLater, Option.map_some, Option.bind_some, hq, Option.map_eq_some_iff] at hKey
        obtain ⟨r, hFound, rfl⟩ := hKey
        simp [hFound, hq]

/-- Members are looked up in a dictionary as in the object that it is made of. -/
theorem asDictionary?_object (h : ∀ p ∈ members, ∃ a, f p.2 = some a) :
    ∃ found, Json.asDictionary? f (.object members) = some found ∧
      ∀ key, found.get? key = ((Json.object members).member? key).bind f := by
  obtain ⟨pairs, hPairs, hSame⟩ := exists_namedValues h
  refine ⟨.ofList pairs, by rw [Json.asDictionary?, hPairs, Option.map_some], fun key => ?_⟩
  have hKey := Dictionary.get?_insertAll ∅ pairs key
  rw [Dictionary.get?_empty, Option.or_none, hSame key] at hKey
  exact hKey

end Members

theorem holdsValues_of_read {source : String}
    (h : (Json.parse? source.toList).bind configOfJson? = some config) :
    ∃ members, HoldsValues source members := by
  obtain ⟨j, hParse, hRead⟩ := Option.bind_eq_some_iff.mp h
  cases j with
  | object members =>
    obtain ⟨pairs, hPairs, -⟩ := Option.map_eq_some_iff.mp hRead
    refine ⟨members, hParse, fun p hp => ?_⟩
    obtain ⟨q, hq⟩ := exists_mapM_iff.mp ⟨pairs, hPairs⟩ p hp
    obtain ⟨v, hv, -⟩ := Option.map_eq_some_iff.mp hq
    exact ⟨v, hv⟩
  | null | boolean | number | text | array | unreadable => cases hRead

theorem HoldsValues.exists_read {source : String} {members : List (String × Json)}
    (h : HoldsValues source members) :
    ∃ config, (Json.parse? source.toList).bind configOfJson? = some config ∧
      ∀ key, config.get? key = ((Json.object members).member? key).bind Value.ofJson? := by
  obtain ⟨config, hRead, hSame⟩ := asDictionary?_object h.values
  exact ⟨config, by rw [h.parses, Option.bind_some, configOfJson?, hRead], hSame⟩

theorem fileConfig_eq_error_iff : fileConfig file? = .error e ↔
    (∃ path fault, file? = some (path, .error fault) ∧
      e = .io s!"Failed to read values file '{path}'" fault.message) ∨
    ∃ path source, file? = some (path, .ok source) ∧ (∀ members, ¬ HoldsValues source members) ∧
      e = .invalidInput s!"'{path}' is not a JSON object of field values"
        (some "not an object of texts, numbers, truth values and lists of texts") := by
  obtain _ | ⟨path, fault | source⟩ := file?
  · simp [fileConfig]
  · simp [fileConfig, eq_comm]
  · have hRead : (Json.parse? source.toList).bind configOfJson? = none ↔
        ∀ members, ¬ HoldsValues source members := by
      constructor
      · intro hNone members h
        obtain ⟨config, hSome, -⟩ := h.exists_read
        rw [hNone] at hSome
        cases hSome
      · intro h
        rw [Option.eq_none_iff_forall_ne_some]
        intro config hSome
        obtain ⟨members, hMembers⟩ := holdsValues_of_read hSome
        exact h members hMembers
    cases hConfig : (Json.parse? source.toList).bind configOfJson? <;>
      simp [fileConfig, hConfig, ← hRead, eq_comm]

theorem fileConfig_eq_ok_iff {path source : String} :
    fileConfig (some (path, .ok source)) = .ok config ↔
      (Json.parse? source.toList).bind configOfJson? = some config := by
  rw [fileConfig]
  cases (Json.parse? source.toList).bind configOfJson? <;> simp

theorem exists_fileConfig_iff : (∃ config, fileConfig file? = .ok config) ↔ HasFile file? := by
  obtain _ | ⟨path, fault | source⟩ := file?
  · simp [fileConfig, HasFile]
  · simp [fileConfig, HasFile]
  · simp only [fileConfig_eq_ok_iff]
    constructor
    · rintro ⟨config, hRead⟩ _ _ ⟨⟩
      obtain ⟨members, hMembers⟩ := holdsValues_of_read hRead
      exact ⟨source, members, rfl, hMembers⟩
    · intro h
      obtain ⟨_, members, ⟨⟩, hMembers⟩ := h path _ rfl
      obtain ⟨config, hRead, -⟩ := hMembers.exists_read
      exact ⟨config, hRead⟩

theorem get?_fileConfig (h : fileConfig file? = .ok config) :
    config.get? key = some v ↔ FileGives file? key v := by
  obtain _ | ⟨path, fault | source⟩ := file?
  · cases h
    constructor
    · rintro ⟨⟩
    · rintro ⟨⟨⟩⟩
  · cases h
  · rw [fileConfig_eq_ok_iff] at h
    obtain ⟨members, hMembers⟩ := holdsValues_of_read h
    obtain ⟨found, hFound, hSame⟩ := hMembers.exists_read
    obtain rfl : config = found := Option.some.inj (h.symm.trans hFound)
    rw [hSame, Option.bind_eq_some_iff]
    constructor
    · rintro ⟨j, hMember, hValue⟩
      exact .intro rfl hMembers hMember hValue
    · rintro ⟨⟨⟩, hOther, hMember, hValue⟩
      have hParse := hMembers.parses.symm.trans hOther.parses
      cases hParse
      exact ⟨_, hMember, hValue⟩

end Files

section Sources

variable {d : Definition} {sources : ValueSources} {key : String} {v : Value} {e : Failure}
  {config : Config}

/-- The value that a key takes from the last source that gives it one. -/
inductive Supplies (d : Definition) (sources : ValueSources) (key : String) (v : Value) : Prop
  | assigned : LastAssigns d sources.assignments key v → Supplies d sources key v
  | read : Unassigned sources.assignments key → FileGives sources.file? key v →
      Supplies d sources key v
  | documented : Unassigned sources.assignments key → (∀ w, ¬ FileGives sources.file? key w) →
      ExampleGives d sources.example? key v → Supplies d sources key v

structure Usable (d : Definition) (sources : ValueSources) : Prop where
  hasExample : HasExample d sources.example?
  hasFile : HasFile sources.file?
  assigned : ∀ a ∈ sources.assignments, ∃ key v, Assigns d a key v

/-- What is wrong with the first source that cannot be used. -/
inductive FailsFirst (d : Definition) (sources : ValueSources) : Failure → Prop
  | noExample {name : String} : sources.example? = some name → d.example? name = none →
      FailsFirst d sources (.unknownExample d.id name d.examples.keys)
  | noFile {path : String} {fault : SystemError} : HasExample d sources.example? →
      sources.file? = some (path, .error fault) →
      FailsFirst d sources (.io s!"Failed to read values file '{path}'" fault.message)
  | noValues {path source : String} : HasExample d sources.example? →
      sources.file? = some (path, .ok source) → (∀ members, ¬ HoldsValues source members) →
      FailsFirst d sources (.invalidInput s!"'{path}' is not a JSON object of field values"
        (some "not an object of texts, numbers, truth values and lists of texts"))
  | assignment {front back : List String} {a : String} {e : Failure} :
      HasExample d sources.example? → HasFile sources.file? →
      sources.assignments = front ++ a :: back → (∀ b ∈ front, ∃ key v, Assigns d b key v) →
      Spoils d a e → FailsFirst d sources e

theorem exists_resolveValues_iff :
    (∃ config, resolveValues d sources = .ok config) ↔ Usable d sources := by
  simp only [resolveValues, bind_eq_ok]
  constructor
  · rintro ⟨config, ex, hExample, file, hFile, hAssigned⟩
    exact ⟨exists_exampleConfig_iff.mp ⟨ex, hExample⟩, exists_fileConfig_iff.mp ⟨file, hFile⟩,
      exists_assignAll_iff.mp ⟨config, hAssigned⟩⟩
  · rintro ⟨hHasExample, hHasFile, hAssigned⟩
    obtain ⟨ex, hExample⟩ := exists_exampleConfig_iff.mpr hHasExample
    obtain ⟨file, hFile⟩ := exists_fileConfig_iff.mpr hHasFile
    obtain ⟨config, hConfig⟩ := exists_assignAll_iff.mpr hAssigned
    exact ⟨config, ex, hExample, file, hFile, hConfig⟩

theorem resolveValues_eq_error_iff : resolveValues d sources = .error e ↔
    FailsFirst d sources e := by
  simp only [resolveValues, bind_eq_error]
  constructor
  · rintro (hExample | ⟨ex, hExample, hFile | ⟨file, hFile, hAssigned⟩⟩)
    · obtain ⟨name, hName, hNone, rfl⟩ := exampleConfig_eq_error_iff.mp hExample
      exact .noExample hName hNone
    · have hHasExample := exists_exampleConfig_iff.mp ⟨ex, hExample⟩
      obtain ⟨path, fault, hGiven, rfl⟩ | ⟨path, source, hGiven, hNone, rfl⟩ :=
        fileConfig_eq_error_iff.mp hFile
      · exact .noFile hHasExample hGiven
      · exact .noValues hHasExample hGiven hNone
    · obtain ⟨front, a, back, hSplit, hFront, hSpoils⟩ := assignAll_eq_error_iff.mp hAssigned
      exact .assignment (exists_exampleConfig_iff.mp ⟨ex, hExample⟩)
        (exists_fileConfig_iff.mp ⟨file, hFile⟩) hSplit hFront hSpoils
  · intro h
    cases h with
    | noExample hName hNone =>
      exact .inl (exampleConfig_eq_error_iff.mpr ⟨_, hName, hNone, rfl⟩)
    | noFile hHasExample hGiven =>
      obtain ⟨ex, hExample⟩ := exists_exampleConfig_iff.mpr hHasExample
      exact .inr ⟨ex, hExample, .inl (fileConfig_eq_error_iff.mpr (.inl ⟨_, _, hGiven, rfl⟩))⟩
    | noValues hHasExample hGiven hNone =>
      obtain ⟨ex, hExample⟩ := exists_exampleConfig_iff.mpr hHasExample
      exact .inr ⟨ex, hExample,
        .inl (fileConfig_eq_error_iff.mpr (.inr ⟨_, _, hGiven, hNone, rfl⟩))⟩
    | assignment hHasExample hHasFile hSplit hFront hSpoils =>
      obtain ⟨ex, hExample⟩ := exists_exampleConfig_iff.mpr hHasExample
      obtain ⟨file, hFile⟩ := exists_fileConfig_iff.mpr hHasFile
      exact .inr ⟨ex, hExample, .inr ⟨file, hFile,
        assignAll_eq_error_iff.mpr ⟨_, _, _, hSplit, hFront, hSpoils⟩⟩⟩

theorem get?_resolveValues (h : resolveValues d sources = .ok config) :
    config.get? key = some v ↔ Supplies d sources key v := by
  simp only [resolveValues, bind_eq_ok] at h
  obtain ⟨ex, hExample, file, hFile, hAssigned⟩ := h
  rw [get?_assignAll hAssigned, Dictionary.get?_insertAll_entries, Option.or_eq_some_iff,
    get?_fileConfig hFile, get?_exampleConfig hExample, Option.eq_none_iff_forall_ne_some]
  simp only [ne_eq, get?_fileConfig hFile]
  constructor
  · rintro (hLast | ⟨hNone, hGives | ⟨hAbsent, hGives⟩⟩)
    · exact .assigned hLast
    · exact .read hNone hGives
    · exact .documented hNone hAbsent hGives
  · intro hSupplies
    cases hSupplies with
    | assigned hLast => exact .inl hLast
    | read hNone hGives => exact .inr ⟨hNone, .inl hGives⟩
    | documented hNone hAbsent hGives => exact .inr ⟨hNone, .inr ⟨hAbsent, hGives⟩⟩

theorem accepts_of_coerce {name raw : String} {k : Kind} (h : coerce name raw (some k) = .ok v) :
    k.accepts v = true := by
  cases k with
  | text | select | multiSelect =>
    cases h
    rfl
  | number =>
    simp only [coerce] at h
    cases hRead : numberOfText? (Text.trim raw.toList) with
    | none => simp [hRead] at h
    | some n =>
      simp only [hRead, Option.elim_some, Except.ok.injEq] at h
      exact h ▸ rfl
  | boolean =>
    simp only [coerce] at h
    cases hRead : booleanOfText? (Text.trim raw.toList) with
    | none => simp [hRead] at h
    | some b =>
      simp only [hRead, Option.elim_some, Except.ok.injEq] at h
      exact h ▸ rfl

theorem LastAssigns.accepts {assignments : List String} (h : LastAssigns d assignments key v)
    {f : Field} (hField : d.field? key = some f) : f.kind.accepts v = true := by
  obtain ⟨-, ⟨-, hValue⟩, -⟩ := h
  rw [hField] at hValue
  exact accepts_of_coerce hValue

theorem exists_field_of_typeMismatch {kind : Kind} {found : String}
    (h : d.resolveConfig config = .error (.typeMismatch key kind found)) :
    ∃ f ∈ d.fields, f.name = key ∧ f.kind = kind ∧
      ∃ w, config.get? key = some w ∧ f.kind.accepts w = false := by
  obtain ⟨front, f, back, hFields, -, hRefuses⟩ := exists_refusesFirst h
  have hMem : f ∈ d.fields := hFields ▸ List.mem_append_right _ List.mem_cons_self
  generalize hError : FieldError.typeMismatch key kind found = error at hRefuses
  cases hRefuses with
  | missing => cases hError
  | value hSupplied hCheck =>
    cases Field.check_eq_error_iff.mp hCheck with
    | choice => cases hError
    | type hType =>
      cases hError
      refine ⟨f, hMem, rfl, rfl, _, hSupplied, ?_⟩
      rwa [← Bool.not_eq_true, Kind.accepts_iff]

/-- All sources are used or the first that cannot be is told. A key takes its last assignment, else
the value of the file, else that of the example. An assignment to a field has the type of that
field, which is therefore never refused for its type. -/
theorem resolveValues_sources (d : Definition) (sources : ValueSources) :
    ((∃ config, resolveValues d sources = .ok config) ↔ Usable d sources) ∧
    (∀ e, resolveValues d sources = .error e ↔ FailsFirst d sources e) ∧
    ∀ config, resolveValues d sources = .ok config →
      (∀ key v, config.get? key = some v ↔ Supplies d sources key v) ∧
      ∀ key f v, d.field? key = some f → LastAssigns d sources.assignments key v →
        f.kind.accepts v = true ∧
        (∀ found, d.resolveConfig config ≠ .error (.typeMismatch key f.kind found)) ∧
        (d.validate = .ok () →
          ∀ kind found, d.resolveConfig config ≠ .error (.typeMismatch key kind found)) := by
  refine ⟨exists_resolveValues_iff, fun e => resolveValues_eq_error_iff, fun config h => ?_⟩
  refine ⟨fun key v => get?_resolveValues h, fun key f v hField hLast => ?_⟩
  have hAccepts : f.kind.accepts v = true := hLast.accepts hField
  have hValue : config.get? key = some v := (get?_resolveValues h).mpr (.assigned hLast)
  -- Only a field of this kind and name could refuse the value for its type.
  have hKind : ∀ found, d.resolveConfig config ≠ .error (.typeMismatch key f.kind found) := by
    intro found hMismatch
    obtain ⟨g, -, -, hSame, w, hSupplied, hRejected⟩ := exists_field_of_typeMismatch hMismatch
    obtain rfl : v = w := Option.some.inj (hValue.symm.trans hSupplied)
    rw [hSame, hAccepts] at hRejected
    cases hRejected
  refine ⟨hAccepts, hKind, fun hValid kind found hMismatch => ?_⟩
  obtain ⟨g, hMem, hName, rfl, -⟩ := exists_field_of_typeMismatch hMismatch
  have hFound := (Definition.field?_eq_some_iff hValid).mpr ⟨hMem, hName⟩
  obtain rfl : f = g := Option.some.inj (hField.symm.trans hFound)
  exact hKind found hMismatch

theorem resolveValues_sources_port :
    let port : Field := ⟨"port", "Port", .number, false, none, "", []⟩
    let d : Definition := ⟨"svc", "Service", "", "", "", [⟨"f", "f", "", "text"⟩], [port],
      .ofList [("basic", .ofList [("name", .text "demo"), ("port", .text "none")])]⟩
    let sources : ValueSources := ⟨some "basic",
      some ("values.json", .ok "\x7b\"name\": \"file\", \"port\": true\x7d"),
      ["port=1", "port = 80"]⟩
    let value : Value := .number (.integer 80 (by decide))
    let config : Config := .ofList [("name", .text "file"), ("port", value)]
    resolveValues d sources = .ok config ∧ Supplies d sources "name" (.text "file") ∧
      d.field? "port" = some port ∧ LastAssigns d sources.assignments "port" value ∧
      d.validate = .ok () ∧
      d.resolveConfig config ≠ .error (.typeMismatch "port" .number "text") := by
  intro port d sources value config
  have hResolved : resolveValues d sources = .ok config := by decide +kernel
  have hField : d.field? "port" = some port := rfl
  have hLast : LastAssigns d sources.assignments "port" value := by
    have hSplit : sources.assignments = ["port=1"] ++ "port = 80" :: [] := rfl
    have hAssignment : IsAssignment "port = 80" "port" " 80" :=
      parseAssignment_eq_ok_iff.mp (by decide +kernel)
    exact .intro hSplit (.intro hAssignment (by decide +kernel)) (List.forall_mem_nil _)
  have hValid : d.validate = .ok () := by decide +kernel
  obtain ⟨-, -, hResult⟩ := resolveValues_sources d sources
  obtain ⟨hSupplies, hTyped⟩ := hResult config hResolved
  have hName : config.get? "name" = some (.text "file") := by decide +kernel
  obtain ⟨-, -, hNever⟩ := hTyped "port" port value hField hLast
  exact ⟨hResolved, (hSupplies "name" _).mp hName, hField, hLast, hValid,
    hNever hValid .number "text"⟩

end Sources

end Boilerplate.CommandLine
