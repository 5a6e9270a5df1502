import Boilerplate.Generation.Basic
import Boilerplate.Proofs.Data.Agreement
import Boilerplate.Proofs.Generation.Resolution
import Boilerplate.Proofs.Template.FreeNames

/-! # Keys without influence

A key that is no field and occurs in no template of a definition has no influence on what the
definition generates: not on the files, and not on the error.
-/

namespace Boilerplate

/-- Each of the names has the same value in both configurations, or no value in either. -/
def AgreeOn (names : List String) (c₁ c₂ : Config) : Prop :=
  ∀ name ∈ names, c₁.get? name = c₂.get? name

instance (names : List String) (c₁ c₂ : Config) : Decidable (AgreeOn names c₁ c₂) :=
  inferInstanceAs (Decidable (∀ name ∈ names, _))

variable {names : List String} {c₁ c₂ r₁ r₂ : Config}

theorem AgreeOn.mono {more : List String} (h : AgreeOn more c₁ c₂) (hSubset : names ⊆ more) :
    AgreeOn names c₁ c₂ :=
  fun name hName => h name (hSubset hName)

theorem AgreeOn.insert (h : AgreeOn names r₁ r₂) (name : String) (v : Value) :
    AgreeOn names (r₁.insert name v) (r₂.insert name v) := by
  intro other hOther
  rw [Dictionary.get?_insert, Dictionary.get?_insert, h other hOther]

theorem Field.resolve_agree {f : Field} (hSupplied : c₁.get? f.name = c₂.get? f.name)
    (h : AgreeOn names r₁ r₂) :
    Agree Eq (AgreeOn names) (f.resolve c₁ r₁) (f.resolve c₂ r₂) := by
  rw [resolve, resolve, hSupplied]
  cases c₂.get? f.name with
  | some v => exact (Agree.refl (f.check v)).map fun _ _ _ => h
  | none =>
    cases f.default with
    | some v => exact .ok (h.insert f.name v)
    | none =>
      cases f.required with
      | true => exact .error rfl
      | false => exact .ok h

theorem resolveFields_agree {fields : List Field}
    (hSupplied : ∀ f ∈ fields, c₁.get? f.name = c₂.get? f.name) (h : AgreeOn names r₁ r₂) :
    Agree Eq (AgreeOn names) (resolveFields c₁ fields r₁) (resolveFields c₂ fields r₂) := by
  induction fields generalizing r₁ r₂ with
  | nil => exact .ok h
  | cons f rest ih =>
    obtain ⟨hFirst, hRest⟩ := List.forall_mem_cons.mp hSupplied
    exact (Field.resolve_agree hFirst h).bind fun _ _ hNext => ih hRest hNext

namespace FileTemplate

def freeNames (f : FileTemplate) : List String :=
  Template.freeInSource f.name ++ Template.freeInSource f.path ++ Template.freeInSource f.content

theorem render_congr {f : FileTemplate} (h : AgreeOn f.freeNames c₁ c₂) (id : String) :
    f.render id c₁ = f.render id c₂ := by
  obtain ⟨hFront, hContent⟩ := List.forall_mem_append.mp h
  obtain ⟨hName, hPath⟩ := List.forall_mem_append.mp hFront
  rw [render, render, Template.renderSource_congr hName, Template.renderSource_congr hPath,
    Template.renderSource_congr hContent]

end FileTemplate

namespace Definition

/-- The names that occur free in the files of a definition. -/
def freeNames (d : Definition) : List String :=
  d.files.flatMap FileTemplate.freeNames

theorem freeNames_subset {d : Definition} {f : FileTemplate} (hf : f ∈ d.files) :
    f.freeNames ⊆ d.freeNames :=
  fun _ hName => List.mem_flatMap.mpr ⟨f, hf, hName⟩

theorem renderFiles_congr {d : Definition} (h : AgreeOn d.freeNames c₁ c₂) :
    d.renderFiles c₁ = d.renderFiles c₂ := by
  rw [renderFiles, renderFiles]
  exact mapM_congr fun f hf => FileTemplate.render_congr (h.mono (freeNames_subset hf)) d.id

/-- Two configurations that agree on the fields and on the free names of the files are both refused,
with the same error, or both resolved, and then every file is rendered alike: to the same file or to
the same error. -/
theorem generate_of_agreeOn (d : Definition) (c₁ c₂ : Config)
    (hFields : AgreeOn (d.fields.map (·.name)) c₁ c₂) (hFree : AgreeOn d.freeNames c₁ c₂) :
    ((∃ e, d.resolveConfig c₁ = .error e ∧ d.resolveConfig c₂ = .error e) ∨
      ∃ r₁ r₂, d.resolveConfig c₁ = .ok r₁ ∧ d.resolveConfig c₂ = .ok r₂ ∧
        ∀ f ∈ d.files, f.render d.id r₁ = f.render d.id r₂) ∧
      d.generate c₁ = d.generate c₂ := by
  have hResolved : Agree Eq (AgreeOn d.freeNames) (d.resolveConfig c₁) (d.resolveConfig c₂) :=
    resolveFields_agree (List.forall_mem_map.mp hFields) hFree
  rw [generate, generate]
  generalize d.resolveConfig c₁ = x at hResolved ⊢
  generalize d.resolveConfig c₂ = y at hResolved ⊢
  cases hResolved with
  | @error e _ hError =>
    obtain rfl := hError
    exact ⟨.inl ⟨e, rfl, rfl⟩, rfl⟩
  | @ok r₁ r₂ hAgree =>
    refine ⟨.inr ⟨r₁, r₂, rfl, rfl, ?_⟩, renderFiles_congr hAgree⟩
    intro f hf
    exact FileTemplate.render_congr (hAgree.mono (freeNames_subset hf)) d.id

/-- The loops bind `stage`, so its value has no influence, and neither has a key that only one of
the configurations has. -/
theorem generate_of_agreeOn_bound :
    let d : Definition := ⟨"ci", "CI", "", "cicd", "1.0.0",
      [⟨"<%= name %>", "<%= name | kebab %>.yml",
        "<% for stage in stages %><% for stage in more %><% endfor %><%= stage %><% endfor %>",
        "yaml"⟩],
      [⟨"name", "Name", .text, true, none, "", []⟩], ∅⟩
    let c₁ : Config := .ofList [("name", .text "A b"), ("stage", .text "x"),
      ("stages", .list ["build", "test"]), ("more", .text "none")]
    let c₂ : Config := .ofList [("name", .text "A b"), ("stage", .list []),
      ("stages", .list ["build", "test"]), ("more", .text "none"), ("other", .boolean true)]
    AgreeOn (d.fields.map (·.name)) c₁ c₂ ∧ AgreeOn d.freeNames c₁ c₂ ∧
      c₁.get? "stage" ≠ c₂.get? "stage" ∧ c₁.get? "other" ≠ c₂.get? "other" ∧
      d.generate c₁ = d.generate c₂ := by
  intro d c₁ c₂
  have hFields : AgreeOn (d.fields.map (·.name)) c₁ c₂ := by decide +kernel
  have hFree : AgreeOn d.freeNames c₁ c₂ := by decide +kernel
  exact ⟨hFields, hFree, by decide +kernel, by decide +kernel,
    (generate_of_agreeOn d c₁ c₂ hFields hFree).2⟩

end Definition

end Boilerplate
