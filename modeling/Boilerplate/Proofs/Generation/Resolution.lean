import Boilerplate.Generation.Resolution
import Boilerplate.Proofs.Data.Lookup
import Boilerplate.Proofs.Definition.Validity

/-! # Resolved configurations

A resolved configuration holds what was supplied, and the defaults of the fields that were not. If
the definition is valid then all values of its fields pass their checks.
-/

namespace Boilerplate

variable {supplied resolved r : Config} {fields : List Field}

/-- A supplied value is checked and kept, and an absent one gives way to the default. -/
theorem Field.resolve_cases {f : Field} (h : f.resolve supplied resolved = .ok r) :
    (∃ v, supplied.get? f.name = some v ∧ f.check v = .ok () ∧ r = resolved) ∨
      (supplied.get? f.name = none ∧ ∃ v, f.default = some v ∧ r = resolved.insert f.name v) ∨
      (supplied.get? f.name = none ∧ f.default = none ∧ f.required = false ∧ r = resolved) := by
  rw [resolve] at h
  cases hSupplied : supplied.get? f.name with
  | some v =>
    rw [hSupplied] at h
    cases hCheck : f.check v with
    | error e =>
      simp only [hCheck] at h
      cases h
    | ok =>
      simp only [hCheck] at h
      cases h
      exact .inl ⟨v, rfl, hCheck, rfl⟩
  | none =>
    rw [hSupplied] at h
    cases hDefault : f.default with
    | some v =>
      simp only [hDefault] at h
      cases h
      exact .inr (.inl ⟨rfl, v, rfl, rfl⟩)
    | none =>
      simp only [hDefault] at h
      split at h
      · cases h
      next hOptional =>
        cases h
        exact .inr (.inr ⟨rfl, rfl, by simpa using hOptional, rfl⟩)

theorem check_of_resolveFields (h : resolveFields supplied fields resolved = .ok r) :
    ∀ f ∈ fields, ∀ v, supplied.get? f.name = some v → f.check v = .ok () := by
  induction fields generalizing resolved with
  | nil => exact List.forall_mem_nil _
  | cons f rest ih =>
    obtain ⟨next, hFirst, hRest⟩ := bind_eq_ok.mp h
    refine List.forall_mem_cons.mpr ⟨?_, ih hRest⟩
    intro v hv
    rcases Field.resolve_cases hFirst with ⟨w, hw, hCheck, _⟩ | ⟨hAbsent, _⟩ | ⟨hAbsent, _⟩
    · rwa [← Option.some.inj (hw.symm.trans hv)]
    · rw [hv] at hAbsent
      cases hAbsent
    · rw [hv] at hAbsent
      cases hAbsent

theorem get?_resolveFields (hNames : (fields.map (·.name)).Nodup)
    (h : resolveFields supplied fields resolved = .ok r) (name : String) :
    r.get? name =
      if supplied.get? name = none then
        ((fields.find? (·.name == name)).bind (·.default)).or (resolved.get? name)
      else resolved.get? name := by
  -- Only the field of this name can change its value, and no later field has the same name.
  induction fields generalizing resolved with
  | nil =>
    cases h
    simp
  | cons f rest ih =>
    rw [List.map_cons, List.nodup_cons] at hNames
    obtain ⟨next, hFirst, hRest⟩ := bind_eq_ok.mp h
    rw [ih hNames.2 hRest]
    by_cases hName : f.name = name
    · subst hName
      have hNone : rest.find? (·.name == f.name) = none := by
        rw [List.find?_eq_none]
        intro g hg hSame
        exact hNames.1 (List.mem_map.mpr ⟨g, hg, beq_iff_eq.mp hSame⟩)
      have hFound : (f :: rest).find? (·.name == f.name) = some f :=
        List.find?_cons_of_pos (beq_self_eq_true f.name)
      rw [hFound, hNone]
      rcases Field.resolve_cases hFirst with
        ⟨v, hv, _, rfl⟩ | ⟨hAbsent, v, hDefault, rfl⟩ | ⟨hAbsent, hDefault, _, rfl⟩
      · rw [hv, if_neg (Option.some_ne_none v), if_neg (Option.some_ne_none v)]
      · rw [if_pos hAbsent, if_pos hAbsent, Dictionary.get?_insert, if_pos rfl, Option.bind_some,
          hDefault]
        rfl
      · rw [if_pos hAbsent, if_pos hAbsent, Option.bind_some, hDefault]
        rfl
    · have hNext : next.get? name = resolved.get? name := by
        rcases Field.resolve_cases hFirst with ⟨_, _, _, rfl⟩ | ⟨_, v, _, rfl⟩ | ⟨_, _, _, rfl⟩
        · rfl
        · rw [Dictionary.get?_insert, if_neg hName]
        · rfl
      rw [hNext, List.find?_cons_of_neg (by simpa using hName)]

namespace Definition

variable {d : Definition}

/-- The resolved configuration holds what was supplied, and defaults where nothing was. -/
theorem get?_resolveConfig (hValid : d.validate = .ok ()) (h : d.resolveConfig supplied = .ok r)
    (name : String) :
    r.get? name = (supplied.get? name).or ((d.field? name).bind (·.default)) := by
  rw [get?_resolveFields (fields_of_validate hValid).1 h]
  cases hSupplied : supplied.get? name with
  | none => rw [if_pos rfl, Option.none_or, Option.or_none, field?]
  | some v => rw [if_neg (Option.some_ne_none v), Option.some_or]

theorem check_of_resolveConfig (hValid : d.validate = .ok ()) (h : d.resolveConfig supplied = .ok r)
    {f : Field} (hf : f ∈ d.fields) {v : Value} (hValue : r.get? f.name = some v) :
    f.check v = .ok () := by
  obtain ⟨hNames, hSound⟩ := fields_of_validate hValid
  rw [get?_resolveConfig hValid h] at hValue
  cases hSupplied : supplied.get? f.name with
  | some w =>
    rw [hSupplied, Option.some_or] at hValue
    exact Option.some.inj hValue ▸ check_of_resolveFields h f hf w hSupplied
  | none =>
    rw [hSupplied, Option.none_or, field?, find?_eq_some_of_nodup hNames hf] at hValue
    exact f.check_default (hSound f hf) hValue

end Definition

end Boilerplate
