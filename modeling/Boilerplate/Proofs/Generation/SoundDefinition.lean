import Boilerplate.Generation.Basic
import Boilerplate.Proofs.Archive.Packing
import Boilerplate.Proofs.Generation.Resolution
import Boilerplate.Proofs.Template.PathSource

/-! # Sound definitions

Whether a definition is sound can be computed. A sound definition generates its files for every
configuration that is resolved, and the paths of these files are accepted and differ.
-/

namespace Boilerplate

open Export (Accepted)
open Template (sourceFits sourcePattern? kindOf?)

namespace FileTemplate

def fits (kinds : Kinds) (f : FileTemplate) : Bool :=
  sourceFits kinds f.name.toList && sourceFits kinds f.path.toList &&
    sourceFits kinds f.content.toList

def pathFits (f : FileTemplate) : Bool :=
  (sourcePattern? f.path.toList).any fun p => p.isTight && p.isSafe

def apart (f g : FileTemplate) : Bool :=
  (sourcePattern? f.path.toList).any fun p =>
    (sourcePattern? g.path.toList).any fun q => p.apart q

/-- A generated file with its path, and the template it comes from. -/
structure Produces (id : String) (resolved : Config) (f : FileTemplate)
    (out : GeneratedFile × RelativePath) : Prop where
  rendered : f.render id resolved = .ok out.1
  accepted : RelativePath.parse out.1.path = .ok out.2
  filled : ∃ p, sourcePattern? f.path.toList = some p ∧ p.isSafe = true ∧
    p.Fills out.1.path.toList

variable {id : String} {resolved : Config} {kinds : Kinds} {f g : FileTemplate}
  {a b : GeneratedFile × RelativePath}

theorem exists_produces (hFits : f.fits kinds = true) (hPath : f.pathFits = true)
    (hConfig : Template.Scope.Conforms ⟨resolved, []⟩ kinds) :
    ∃ out, Produces id resolved f out := by
  simp only [fits, Bool.and_eq_true] at hFits
  obtain ⟨⟨hName, hSource⟩, hContent⟩ := hFits
  obtain ⟨name, hName⟩ := Template.renderSource_ok (f.partLabel id "name") hName hConfig
  obtain ⟨path, hSource⟩ := Template.renderSource_ok (f.partLabel id "path") hSource hConfig
  obtain ⟨content, hContent⟩ :=
    Template.renderSource_ok (f.partLabel id "content") hContent hConfig
  obtain ⟨p, hPattern, hShape⟩ := (Option.any_eq_true _ _).mp hPath
  rw [Bool.and_eq_true] at hShape
  have hFills := Template.fills_of_renderSource hPattern hShape.1 hSource
  have hAccepted := RelativePath.parse_eq_ok_iff.mpr (hFills.ofText_ok hShape.2)
  refine ⟨(⟨name, path, content, f.fileType⟩, _), ?_, hAccepted, p, hPattern, hShape.2, hFills⟩
  rw [render, hName, hSource, hContent]
  rfl

theorem Produces.zero_not_mem (h : Produces id resolved f a) : '\x00' ∉ a.2.text.toList := by
  obtain ⟨p, _, hSafe, hFills⟩ := h.filled
  have hPath := RelativePath.parse_eq_ok_iff.mp h.accepted
  rw [hFills.ofText_ok hSafe] at hPath
  rw [← Except.ok.inj hPath]
  exact hFills.zero_not_mem_text hSafe

theorem Produces.path_ne (hApart : f.apart g = true) (hf : Produces id resolved f a)
    (hg : Produces id resolved g b) : a.2 ≠ b.2 := by
  obtain ⟨p, hp, _, hFills⟩ := hf.filled
  obtain ⟨q, hq, _, hOther⟩ := hg.filled
  rw [apart, hp, hq] at hApart
  exact Pattern.ne_of_apart hApart hFills hOther (RelativePath.parse_eq_ok_iff.mp hf.accepted)
    (RelativePath.parse_eq_ok_iff.mp hg.accepted)

end FileTemplate

namespace Definition

def kinds (d : Definition) : Kinds :=
  d.fields.map fun f => (f.name, f.kind)

/-- All sources fit the fields, and the paths are safe and differ. -/
structure IsSound (d : Definition) : Prop where
  valid : d.validate = .ok ()
  sources : ∀ f ∈ d.files, f.fits d.kinds = true
  paths : ∀ f ∈ d.files, f.pathFits = true
  apart : d.files.Pairwise fun f g => f.apart g = true

variable {d : Definition} {supplied resolved : Config}

theorem conforms_of_resolveConfig (hValid : d.validate = .ok ())
    (h : d.resolveConfig supplied = .ok resolved) :
    Template.Scope.Conforms ⟨resolved, []⟩ d.kinds := by
  intro name kind v hKind hValue
  obtain ⟨entry, hEntry, rfl⟩ := Option.map_eq_some_iff.mp hKind
  obtain ⟨f, hf, rfl⟩ := List.mem_map.mp (List.mem_of_find?_eq_some hEntry)
  have hName := List.find?_some hEntry
  rw [← beq_iff_eq.mp hName] at hValue
  exact Field.accepts_of_check (check_of_resolveConfig hValid h hf hValue)

theorem IsSound.renderFiles_ok (hSound : d.IsSound) (h : d.resolveConfig supplied = .ok resolved) :
    ∃ files paths, d.renderFiles resolved = .ok files ∧ Accepted files paths ∧ paths.Nodup ∧
      ∀ p ∈ paths, '\x00' ∉ p.text.toList := by
  have hConfig := conforms_of_resolveConfig hSound.valid h
  have hEach : ∀ f ∈ d.files, ∃ out, FileTemplate.Produces d.id resolved f out := by
    intro f hf
    exact FileTemplate.exists_produces (hSound.sources f hf) (hSound.paths f hf) hConfig
  obtain ⟨outs, hOuts⟩ := exists_forall₂ hEach
  refine ⟨outs.map (·.1), outs.map (·.2), ?_, ?_, ?_, ?_⟩
  · rw [renderFiles, mapM_eq_ok, List.forall₂_map_right_iff]
    exact hOuts.imp fun f out hOut => hOut.rendered
  · rw [Accepted, List.forall₂_map_left_iff, List.forall₂_map_right_iff, List.forall₂_same]
    intro out hOut
    obtain ⟨f, _, hProduced⟩ := exists_mem_right hOuts out hOut
    exact hProduced.accepted
  · rw [List.Nodup, List.pairwise_map]
    exact pairwise_of_forall₂ hOuts hSound.apart fun f g a b hApart hf hg =>
      hf.path_ne hApart hg
  · intro p hp
    obtain ⟨out, hOut, rfl⟩ := List.mem_map.mp hp
    obtain ⟨f, _, hProduced⟩ := exists_mem_right hOuts out hOut
    exact hProduced.zero_not_mem

end Definition

end Boilerplate
