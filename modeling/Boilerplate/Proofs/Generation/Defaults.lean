import Boilerplate.Generation.Basic
import Boilerplate.Proofs.Generation.Resolution

/-! # Defaults spelled out

Resolving a configuration adds the defaults of absent fields and changes nothing else. What comes
out needs nothing more: resolving it again gives it back.
-/

namespace Boilerplate

variable {supplied resolved r : Config} {fields : List Field}

namespace Field

/-- The configuration has nothing to take from the field: a value that passes its check, or no
value where neither one is required nor a default stands in. -/
def SettledBy (f : Field) (c : Config) : Prop :=
  (∀ v, c.get? f.name = some v → f.check v = .ok ()) ∧
    (c.get? f.name = none → f.default = none ∧ f.required = false)

theorem SettledBy.resolve_eq {f : Field} (h : f.SettledBy supplied) (resolved : Config) :
    f.resolve supplied resolved = .ok resolved := by
  rw [resolve]
  cases hSupplied : supplied.get? f.name with
  | some v =>
    simp only [h.1 v hSupplied]
    rfl
  | none =>
    obtain ⟨hDefault, hOptional⟩ := h.2 hSupplied
    simp [hDefault, hOptional]

end Field

theorem resolveFields_of_settled (h : ∀ f ∈ fields, f.SettledBy supplied) (resolved : Config) :
    resolveFields supplied fields resolved = .ok resolved := by
  induction fields with
  | nil => rfl
  | cons f rest ih =>
    obtain ⟨hFirst, hRest⟩ := List.forall_mem_cons.mp h
    exact bind_eq_ok.mpr ⟨resolved, hFirst.resolve_eq resolved, ih hRest⟩

theorem default_of_resolveFields (h : resolveFields supplied fields resolved = .ok r) :
    ∀ f ∈ fields, f.required = true → supplied.get? f.name = none → ∃ v, f.default = some v := by
  induction fields generalizing resolved with
  | nil => exact List.forall_mem_nil _
  | cons f rest ih =>
    obtain ⟨next, hFirst, hRest⟩ := bind_eq_ok.mp h
    refine List.forall_mem_cons.mpr ⟨?_, ih hRest⟩
    intro hRequired hAbsent
    rcases Field.resolve_cases hFirst with
      ⟨v, hv, _⟩ | ⟨_, v, hDefault, _⟩ | ⟨_, _, hOptional, _⟩
    · rw [hAbsent] at hv
      cases hv
    · exact ⟨v, hDefault⟩
    · rw [hRequired] at hOptional
      cases hOptional

namespace Definition

variable {d : Definition}

theorem field?_eq_some_iff (hValid : d.validate = .ok ()) {name : String} {f : Field} :
    d.field? name = some f ↔ f ∈ d.fields ∧ f.name = name := by
  constructor
  · intro h
    rw [field?] at h
    have hName := List.find?_some h
    exact ⟨List.mem_of_find?_eq_some h, beq_iff_eq.mp hName⟩
  · rintro ⟨hf, rfl⟩
    exact find?_eq_some_of_nodup (fields_of_validate hValid).1 hf

theorem get?_resolveConfig_of_absent (hValid : d.validate = .ok ())
    (h : d.resolveConfig supplied = .ok r) {name : String} (hAbsent : supplied.get? name = none)
    (v : Value) :
    r.get? name = some v ↔ ∃ f ∈ d.fields, f.name = name ∧ f.default = some v := by
  rw [get?_resolveConfig hValid h, hAbsent, Option.none_or, Option.bind_eq_some_iff]
  constructor
  · rintro ⟨f, hField, hDefault⟩
    obtain ⟨hf, hName⟩ := (field?_eq_some_iff hValid).mp hField
    exact ⟨f, hf, hName, hDefault⟩
  · rintro ⟨f, hf, hName, hDefault⟩
    exact ⟨f, (field?_eq_some_iff hValid).mpr ⟨hf, hName⟩, hDefault⟩

theorem get?_resolveConfig_of_required (hValid : d.validate = .ok ())
    (h : d.resolveConfig supplied = .ok r) {f : Field} (hf : f ∈ d.fields)
    (hRequired : f.required = true) : ∃ v, r.get? f.name = some v := by
  cases hSupplied : supplied.get? f.name with
  | some v => exact ⟨v, by rw [get?_resolveConfig hValid h, hSupplied, Option.some_or]⟩
  | none =>
    obtain ⟨v, hDefault⟩ := default_of_resolveFields h f hf hRequired hSupplied
    exact ⟨v, (get?_resolveConfig_of_absent hValid h hSupplied v).mpr ⟨f, hf, rfl, hDefault⟩⟩

theorem settledBy_resolveConfig (hValid : d.validate = .ok ())
    (h : d.resolveConfig supplied = .ok r) {f : Field} (hf : f ∈ d.fields) : f.SettledBy r := by
  refine ⟨fun v hv => check_of_resolveConfig hValid h hf hv, ?_⟩
  intro hAbsent
  have hSupplied : supplied.get? f.name = none := by
    rw [get?_resolveConfig hValid h, Option.or_eq_none_iff] at hAbsent
    exact hAbsent.1
  have hNoValue : ∀ v, r.get? f.name ≠ some v := by
    intro v hv
    rw [hAbsent] at hv
    cases hv
  constructor
  · rw [Option.eq_none_iff_forall_ne_some]
    intro v hDefault
    exact hNoValue v
      ((get?_resolveConfig_of_absent hValid h hSupplied v).mpr ⟨f, hf, rfl, hDefault⟩)
  · rw [← Bool.not_eq_true]
    intro hRequired
    obtain ⟨v, hv⟩ := get?_resolveConfig_of_required hValid h hf hRequired
    exact hNoValue v hv

/-- The resolved configuration keeps what was supplied and adds the defaults of absent fields, each
of its fields passes its check, and none that is required is absent. Resolving it again changes
nothing, so it generates the files of the supplied one. -/
theorem resolveConfig_completes (hValid : d.validate = .ok ())
    (h : d.resolveConfig supplied = .ok resolved) :
    (∀ name v, supplied.get? name = some v → resolved.get? name = some v) ∧
      (∀ name v, supplied.get? name = none →
        (resolved.get? name = some v ↔ ∃ f ∈ d.fields, f.name = name ∧ f.default = some v)) ∧
      (∀ f ∈ d.fields, ∀ v, resolved.get? f.name = some v → f.check v = .ok ()) ∧
      (∀ f ∈ d.fields, f.required = true → ∃ v, resolved.get? f.name = some v) ∧
      d.resolveConfig resolved = .ok resolved ∧ d.generate resolved = d.generate supplied := by
  have hAgain : d.resolveConfig resolved = .ok resolved :=
    resolveFields_of_settled (fun f hf => settledBy_resolveConfig hValid h hf) resolved
  refine ⟨?_, ?_, ?_, ?_, hAgain, ?_⟩
  · intro name v hv
    rw [get?_resolveConfig hValid h, hv, Option.some_or]
  · exact fun name v hAbsent => get?_resolveConfig_of_absent hValid h hAbsent v
  · exact fun f hf v hv => check_of_resolveConfig hValid h hf hv
  · exact fun f hf hRequired => get?_resolveConfig_of_required hValid h hf hRequired
  · rw [generate, generate, h, hAgain]

/-- One field is supplied, one takes its default and one stays absent; a key is no field. -/
theorem resolveConfig_completes_version :
    let field := fun name kind required default options =>
      Field.mk name name kind required default "" options
    let d : Definition := ⟨"app", "App", "", "cicd", "1.0.0", [⟨"f", "f", "<%= note %>", "text"⟩],
      [field "name" .text true none [],
        field "version" .select true (some (.text "20")) [⟨"18", "18"⟩, ⟨"20", "20"⟩],
        field "note" .text false none []], ∅⟩
    let supplied : Config := .ofList [("name", .text ""), ("stages", .list ["a"])]
    let resolved : Config :=
      .ofList [("name", .text ""), ("stages", .list ["a"]), ("version", .text "20")]
    d.validate = .ok () ∧ d.resolveConfig supplied = .ok resolved ∧
      resolved.get? "version" = some (.text "20") ∧ d.resolveConfig resolved = .ok resolved ∧
      d.generate resolved = d.generate supplied := by
  intro field d supplied resolved
  have hValid : d.validate = .ok () := by decide +kernel
  have hResolved : d.resolveConfig supplied = .ok resolved := by decide +kernel
  obtain ⟨_, hAdded, _, _, hAgain, hFiles⟩ := resolveConfig_completes hValid hResolved
  refine ⟨hValid, hResolved, ?_, hAgain, hFiles⟩
  rw [hAdded "version" (.text "20") (by decide +kernel)]
  exact ⟨field "version" .select true (some (.text "20")) [⟨"18", "18"⟩, ⟨"20", "20"⟩],
    List.mem_cons_of_mem _ List.mem_cons_self, rfl, rfl⟩

end Definition

end Boilerplate
