import Boilerplate.Generation.Resolution
import Boilerplate.Proofs.Data.Outcome

/-! # Refused configurations

A configuration is refused by the first field, in the order of the definition, that refuses what it
is given. The fields behind it and the keys that are no field have no part in the error.
-/

namespace Boilerplate

/-- The type of the values of a kind. -/
def Kind.typeName : Kind → String
  | .text | .select => "text"
  | .number => "number"
  | .boolean => "boolean"
  | .multiSelect => "list"

/-- The texts that a value chooses. -/
def Value.choices : Value → List String
  | .text s => [s]
  | .list items => items
  | _ => []

theorem Kind.accepts_iff {k : Kind} {v : Value} :
    k.accepts v = true ↔ v.typeName = k.typeName := by
  cases k <;> cases v <;> simp [accepts, typeName, Value.typeName]

namespace Field

variable {f : Field} {v : Value} {e : FieldError} {supplied resolved : Config}

def Declares (f : Field) (s : String) : Prop :=
  s ∈ f.options.map (·.value)

instance (f : Field) (s : String) : Decidable (f.Declares s) :=
  inferInstanceAs (Decidable (_ ∈ _))

/-- A value of another type is rejected for its type, and any other for the first of its choices
that is not declared. -/
inductive Rejects (f : Field) (v : Value) : FieldError → Prop
  | type : v.typeName ≠ f.kind.typeName →
      Rejects f v (.typeMismatch f.name f.kind v.typeName)
  | choice {front back : List String} {s : String} :
      v.typeName = f.kind.typeName → f.kind.hasOptions = true → v.choices = front ++ s :: back →
      (∀ t ∈ front, f.Declares t) → ¬ f.Declares s →
      Rejects f v (.notAnOption f.name f.kind s f.allowedValues)

theorem isOption_iff {s : String} : f.isOption s = true ↔ f.Declares s := by
  simp [isOption, Declares]

/-- Only the choice kinds have values whose choices are looked at. -/
theorem offending?_eq_find? (hType : v.typeName = f.kind.typeName) :
    f.offending? v =
      if f.kind.hasOptions then v.choices.find? (fun s => !f.isOption s) else none := by
  cases hKind : f.kind <;> cases v <;>
    simp_all [offending?, Kind.typeName, Value.typeName, Kind.hasOptions, Value.choices]

theorem offending?_eq_some_iff (hType : v.typeName = f.kind.typeName) {s : String} :
    f.offending? v = some s ↔ f.kind.hasOptions = true ∧ ∃ front back,
      v.choices = front ++ s :: back ∧ (∀ t ∈ front, f.Declares t) ∧ ¬ f.Declares s := by
  rw [offending?_eq_find? hType, Option.ite_none_right_eq_some, List.find?_eq_some_iff_append]
  simp only [Bool.not_eq_true', ← Bool.not_eq_true, isOption_iff]
  refine and_congr_right fun _ => ⟨?_, ?_⟩
  · rintro ⟨hLast, front, back, hChoices, hFront⟩
    exact ⟨front, back, hChoices, fun t ht => by simpa using hFront t ht, hLast⟩
  · rintro ⟨front, back, hChoices, hFront, hLast⟩
    exact ⟨hLast, front, back, hChoices, fun t ht => by simpa using hFront t ht⟩

theorem check_eq_error_iff : f.check v = .error e ↔ f.Rejects v e := by
  have hAccepts : (!f.kind.accepts v) = true ↔ v.typeName ≠ f.kind.typeName := by
    rw [Bool.not_eq_true', ← Bool.not_eq_true, Kind.accepts_iff]
  rw [check]
  split
  next hOther =>
    have hType := hAccepts.mp hOther
    constructor
    · intro h
      cases h
      exact .type hType
    · intro h
      cases h with
      | type => rfl
      | choice hSame => exact absurd hSame hType
  next hSame =>
    have hType : v.typeName = f.kind.typeName := not_not.mp (mt hAccepts.mpr hSame)
    constructor
    · intro h
      split at h
      next s hFound =>
        cases h
        obtain ⟨hKind, front, back, hChoices, hFront, hLast⟩ :=
          (offending?_eq_some_iff hType).mp hFound
        exact .choice hType hKind hChoices hFront hLast
      next => cases h
    · intro h
      cases h with
      | type hOther => exact absurd hType hOther
      | choice _ hKind hChoices hFront hLast =>
        have hFound := (offending?_eq_some_iff hType).mpr ⟨hKind, _, _, hChoices, hFront, hLast⟩
        simp only [hFound]

/-- A choice that is not declared has a first one in front of it or is the first itself. -/
theorem exists_rejects_iff : (∃ e, f.Rejects v e) ↔ v.typeName ≠ f.kind.typeName ∨
    f.kind.hasOptions = true ∧ ∃ s ∈ v.choices, ¬ f.Declares s := by
  constructor
  · rintro ⟨e, h⟩
    cases h with
    | type hType => exact .inl hType
    | choice _ hKind hChoices _ hLast =>
      refine .inr ⟨hKind, _, ?_, hLast⟩
      rw [hChoices]
      exact List.mem_append_right _ List.mem_cons_self
  · intro h
    by_cases hType : v.typeName = f.kind.typeName
    · obtain ⟨hKind, s, hs, hNew⟩ := h.resolve_left (not_not.mpr hType)
      have hSome : (v.choices.find? fun s => !f.isOption s).isSome = true := by
        rw [List.find?_isSome]
        exact ⟨s, hs, by rwa [Bool.not_eq_true', ← Bool.not_eq_true, isOption_iff]⟩
      obtain ⟨t, ht⟩ := Option.isSome_iff_exists.mp hSome
      have hFound : f.offending? v = some t := by
        rw [offending?_eq_find? hType, if_pos hKind, ht]
      obtain ⟨_, front, back, hChoices, hFront, hLast⟩ := (offending?_eq_some_iff hType).mp hFound
      exact ⟨_, .choice hType hKind hChoices hFront hLast⟩
    · exact ⟨_, .type hType⟩

/-- A field refuses a supplied value that it rejects, and the absence of a value that it requires
and has no default for. -/
inductive Refuses (f : Field) (supplied : Config) : FieldError → Prop
  | value {v : Value} {e : FieldError} :
      supplied.get? f.name = some v → f.check v = .error e → Refuses f supplied e
  | missing : supplied.get? f.name = none → f.default = none → f.required = true →
      Refuses f supplied (.missing f.name f.kind)

theorem resolve_eq_error_iff (resolved : Config) :
    f.resolve supplied resolved = .error e ↔ f.Refuses supplied e := by
  rw [resolve]
  constructor
  · intro h
    split at h
    next v hSupplied => exact .value hSupplied (map_eq_error.mp h)
    next hAbsent =>
      split at h
      next => cases h
      next hDefault =>
        split at h
        next hRequired =>
          cases h
          exact .missing hAbsent hDefault hRequired
        next => cases h
  · intro h
    cases h with
    | value hSupplied hCheck =>
      rw [hSupplied]
      exact map_eq_error.mpr hCheck
    | missing hAbsent hDefault hRequired => simp [hAbsent, hDefault, hRequired]

theorem exists_resolve_of_not_refuses (h : ∀ e, ¬ f.Refuses supplied e) (resolved : Config) :
    ∃ next, f.resolve supplied resolved = .ok next := by
  cases hResolve : f.resolve supplied resolved with
  | error e => exact absurd ((resolve_eq_error_iff resolved).mp hResolve) (h e)
  | ok next => exact ⟨next, rfl⟩

theorem not_refuses_of_resolve {next : Config} (h : f.resolve supplied resolved = .ok next) :
    ∀ e, ¬ f.Refuses supplied e := by
  intro e hRefuses
  rw [← resolve_eq_error_iff resolved, h] at hRefuses
  cases hRefuses

theorem Refuses.congr {other : Config} (hSame : other.get? f.name = supplied.get? f.name) :
    f.Refuses other e ↔ f.Refuses supplied e := by
  rw [← resolve_eq_error_iff ∅, ← resolve_eq_error_iff ∅, resolve, resolve, hSame]

end Field

variable {supplied other resolved : Config} {fields front back : List Field} {f : Field}
  {e : FieldError}

/-- The field refuses, and none in front of it does. -/
structure RefusesFirst (supplied : Config) (front : List Field) (f : Field) (e : FieldError) :
    Prop where
  accepted : ∀ g ∈ front, ∀ e, ¬ g.Refuses supplied e
  refused : f.Refuses supplied e

theorem RefusesFirst.resolveFields_eq (h : RefusesFirst supplied front f e) (back : List Field)
    (resolved : Config) : resolveFields supplied (front ++ f :: back) resolved = .error e := by
  obtain ⟨hFront, hLast⟩ := h
  induction front generalizing resolved with
  | nil => exact bind_eq_error.mpr (.inl ((Field.resolve_eq_error_iff resolved).mpr hLast))
  | cons g front ih =>
    obtain ⟨hFirst, hRest⟩ := List.forall_mem_cons.mp hFront
    obtain ⟨next, hNext⟩ := Field.exists_resolve_of_not_refuses hFirst resolved
    exact bind_eq_error.mpr (.inr ⟨next, hNext, ih next hRest⟩)

theorem exists_refusesFirst (h : resolveFields supplied fields resolved = .error e) :
    ∃ front f back, fields = front ++ f :: back ∧ RefusesFirst supplied front f e := by
  induction fields generalizing resolved with
  | nil => cases h
  | cons g rest ih =>
    rw [resolveFields, bind_eq_error] at h
    obtain hFirst | ⟨next, hFirst, hRest⟩ := h
    · refine ⟨[], g, rest, rfl, ?_, (Field.resolve_eq_error_iff resolved).mp hFirst⟩
      exact List.forall_mem_nil _
    · obtain ⟨front, f, back, rfl, hFront, hLast⟩ := ih hRest
      have hKept := Field.not_refuses_of_resolve hFirst
      exact ⟨g :: front, f, back, rfl, List.forall_mem_cons.mpr ⟨hKept, hFront⟩, hLast⟩

theorem not_refuses_of_resolveFields {r : Config}
    (h : resolveFields supplied fields resolved = .ok r) :
    ∀ f ∈ fields, ∀ e, ¬ f.Refuses supplied e := by
  induction fields generalizing resolved with
  | nil => exact List.forall_mem_nil _
  | cons g rest ih =>
    obtain ⟨next, hFirst, hRest⟩ := bind_eq_ok.mp h
    exact List.forall_mem_cons.mpr ⟨Field.not_refuses_of_resolve hFirst, ih hRest⟩

theorem RefusesFirst.congr (hSame : ∀ g ∈ front ++ [f], other.get? g.name = supplied.get? g.name)
    (h : RefusesFirst supplied front f e) : RefusesFirst other front f e := by
  refine ⟨?_, ?_⟩
  · intro g hg d
    rw [Field.Refuses.congr (hSame g (List.mem_append_left _ hg))]
    exact h.accepted g hg d
  · rw [Field.Refuses.congr (hSame f (List.mem_append_right _ List.mem_cons_self))]
    exact h.refused

namespace Definition

/-- Resolving fails just when some field refuses, with the error of the first field that does. Later
fields and the values of all other keys make no difference. A value is rejected just when it has
another type than its field or makes a choice that is not declared, and the first such choice is
named. -/
theorem resolveConfig_first_refusal (d : Definition) (supplied : Config) :
    ((∃ e, d.resolveConfig supplied = .error e) ↔ ∃ f ∈ d.fields, ∃ e, f.Refuses supplied e) ∧
      (∀ e, d.resolveConfig supplied = .error e ↔
        ∃ front f back, d.fields = front ++ f :: back ∧ RefusesFirst supplied front f e) ∧
      (∀ front f e, RefusesFirst supplied front f e → ∀ back other,
        (∀ g ∈ front ++ [f], other.get? g.name = supplied.get? g.name) →
        resolveConfig { d with fields := front ++ f :: back } other = .error e) ∧
      ∀ f : Field, ∀ v, (∀ e, f.check v = .error e ↔ f.Rejects v e) ∧
        ((∃ e, f.check v = .error e) ↔ v.typeName ≠ f.kind.typeName ∨
          f.kind.hasOptions = true ∧ ∃ s ∈ v.choices, ¬ f.Declares s) := by
  have hFirst : ∀ e, d.resolveConfig supplied = .error e ↔
      ∃ front f back, d.fields = front ++ f :: back ∧ RefusesFirst supplied front f e := by
    intro e
    constructor
    · exact exists_refusesFirst
    · rintro ⟨front, f, back, hFields, h⟩
      rw [resolveConfig, hFields]
      exact h.resolveFields_eq back supplied
  refine ⟨⟨?_, ?_⟩, hFirst, ?_, ?_⟩
  · rintro ⟨e, hError⟩
    obtain ⟨front, f, back, hFields, h⟩ := (hFirst e).mp hError
    exact ⟨f, hFields ▸ List.mem_append_right _ List.mem_cons_self, e, h.refused⟩
  · rintro ⟨f, hf, e, hRefuses⟩
    cases hResolved : d.resolveConfig supplied with
    | error d => exact ⟨d, rfl⟩
    | ok r => exact absurd hRefuses (not_refuses_of_resolveFields hResolved f hf e)
  · intro front f e h back other hSame
    exact (h.congr hSame).resolveFields_eq back other
  · intro f v
    refine ⟨fun e => Field.check_eq_error_iff, ?_⟩
    simp only [Field.check_eq_error_iff, Field.exists_rejects_iff]

/-- The definition is not valid. Its second field refuses, before the third one is found absent. -/
theorem resolveConfig_first_refusal_choice :
    let field := fun name kind options => Field.mk name name kind true none "" options
    let name := field "name" .text []
    let stages := field "stages" .multiSelect [⟨"Build", "build"⟩]
    let d : Definition := ⟨"", "", "", "", "", [], [name, stages, field "port" .number []], ∅⟩
    let supplied : Config := .ofList [("name", .text ""), ("stages", .list ["build", "b", "c"])]
    let other : Config := supplied.insert "port" (.text "80")
    let e : FieldError := .notAnOption "stages" .multiSelect "b" "build"
    RefusesFirst supplied [name] stages e ∧ d.resolveConfig supplied = .error e ∧
      (∀ g ∈ [name] ++ [stages], other.get? g.name = supplied.get? g.name) ∧
      resolveConfig { d with fields := [name, stages, field "late" .text []] } other =
        .error e := by
  intro field name stages d supplied other e
  obtain ⟨-, hFirst, hLater, hCheck⟩ := resolveConfig_first_refusal d supplied
  have hChoices : (Value.list ["build", "b", "c"]).choices = ["build"] ++ "b" :: ["c"] := rfl
  have hRejects : stages.Rejects (.list ["build", "b", "c"]) e :=
    .choice rfl rfl hChoices (by decide) (by decide)
  have hName : name.resolve supplied ∅ = .ok ∅ := by decide +kernel
  have hStages : supplied.get? "stages" = some (.list ["build", "b", "c"]) := by decide +kernel
  have h : RefusesFirst supplied [name] stages e := by
    refine ⟨?_, .value hStages (((hCheck stages _).1 e).mpr hRejects)⟩
    rintro g hg
    obtain rfl := List.mem_singleton.mp hg
    exact Field.not_refuses_of_resolve hName
  have hSame : ∀ g ∈ [name] ++ [stages], other.get? g.name = supplied.get? g.name := by
    decide +kernel
  exact ⟨h, (hFirst e).mpr ⟨[name], stages, _, rfl, h⟩, hSame, hLater _ _ _ h _ other hSame⟩

end Definition

end Boilerplate
