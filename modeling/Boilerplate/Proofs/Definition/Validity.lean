import Boilerplate.Definition.Basic
import Boilerplate.Proofs.Data.Outcome

/-! # Valid definitions

The fields of a valid definition have different names, and defaults that pass their own checks.
-/

namespace Boilerplate

namespace Field

variable {f : Field} {v : Value}

theorem accepts_of_check (h : f.check v = .ok ()) : f.kind.accepts v = true := by
  rw [check] at h
  split at h
  · cases h
  next hType => simpa using hType

theorem isIdentifier_of_findFault (h : f.findFault = .ok ()) :
    Text.isIdentifier f.name.toList = true := by
  rw [findFault] at h
  split at h
  · cases h
  next hName => simpa using hName

theorem check_default (h : f.findFault = .ok ()) (hDefault : f.default = some v) :
    f.check v = .ok () := by
  have hCheck : f.checkDefault = .ok () := by
    rw [findFault] at h
    split at h
    · cases h
    · split at h
      · cases h
      · split at h
        · cases h
        · exact h
  rw [checkDefault, hDefault] at hCheck
  exact mapError_eq_ok.mp hCheck

end Field

namespace Definition

theorem checkFields_ok {seen : List String} {fields : List Field}
    (h : checkFields seen fields = .ok ()) :
    (fields.map (·.name)).Nodup ∧ (∀ f ∈ fields, f.name ∉ seen) ∧
      ∀ f ∈ fields, f.findFault = .ok () := by
  induction fields generalizing seen with
  | nil => simp
  | cons f rest ih =>
    rw [checkFields] at h
    split at h
    · cases h
    next hNew =>
      split at h
      · cases h
      next hFault =>
        obtain ⟨hRest, hApart, hSound⟩ := ih h
        refine ⟨?_, ?_, List.forall_mem_cons.mpr ⟨mapError_eq_ok.mp hFault, hSound⟩⟩
        · rw [List.map_cons, List.nodup_cons]
          refine ⟨?_, hRest⟩
          intro hMem
          obtain ⟨g, hg, hSame⟩ := List.mem_map.mp hMem
          exact hApart g hg (hSame ▸ List.mem_cons_self)
        · refine List.forall_mem_cons.mpr ⟨by simpa using hNew, ?_⟩
          intro g hg hSeen
          exact hApart g hg (List.mem_cons_of_mem f.name hSeen)

/-- The fields of a valid definition have different names and no faults. -/
theorem fields_of_validate {d : Definition} (h : d.validate = .ok ()) :
    (d.fields.map (·.name)).Nodup ∧ ∀ f ∈ d.fields, f.findFault = .ok () := by
  have hFault := mapError_eq_ok.mp h
  rw [findFault] at hFault
  split at hFault
  · cases hFault
  · split at hFault
    · cases hFault
    · split at hFault
      · cases hFault
      · obtain ⟨hNames, _, hSound⟩ := checkFields_ok hFault
        exact ⟨hNames, hSound⟩

end Definition

end Boilerplate
