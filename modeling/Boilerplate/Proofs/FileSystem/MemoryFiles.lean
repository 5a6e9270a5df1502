import Boilerplate.FileSystem.Memory

/-! # The files of a memory

The files are a map from places to contents. A write changes the map at one place only, and a
removal takes one place out of it, whatever the order of the stored files.
-/

namespace Boilerplate.Memory

open Boilerplate.Path (Component components)

def contentAt (files : List StoredFile) (path : String) : Option String :=
  (files.find? fun f => samePlace f.path path).map (·.content)

theorem file?_eq_contentAt (s : Memory) (path : String) : s.file? path = contentAt s.files path :=
  rfl

/-- The files that are at none of the places of `paths`. -/
def outside (paths : List String) (files : List StoredFile) : List StoredFile :=
  files.filter fun f => !paths.any (samePlace f.path)

theorem samePlace_iff {a b : String} : samePlace a b = true ↔ components a = components b := by
  rw [samePlace, beq_iff_eq]

theorem samePlace_refl (a : String) : samePlace a a = true :=
  samePlace_iff.mpr rfl

theorem samePlace_comm (a b : String) : samePlace a b = samePlace b a := by
  rw [Bool.eq_iff_iff, samePlace_iff, samePlace_iff]
  exact eq_comm

theorem samePlace_congr {a b : String} (h : samePlace a b = true) (c : String) :
    samePlace a c = samePlace b c := by
  rw [Bool.eq_iff_iff, samePlace_iff, samePlace_iff, samePlace_iff.mp h]

theorem contentAt_eq_none_iff {files : List StoredFile} {path : String} :
    contentAt files path = none ↔ ∀ f ∈ files, samePlace f.path path = false := by
  rw [contentAt, Option.map_eq_none_iff, List.find?_eq_none]
  simp only [Bool.not_eq_true]

theorem contentAt_putFile (path content query : String) (files : List StoredFile) :
    contentAt (putFile path content files) query =
      if samePlace path query then some content else contentAt files query := by
  induction files with
  | nil => cases h : samePlace path query <;> simp [putFile, contentAt, h]
  | cons f rest ih =>
    rw [putFile]
    split
    · rename_i hSame
      have hQuery := samePlace_congr hSame query
      cases h : samePlace path query <;> simp [contentAt, hQuery, h]
    · rename_i hOther
      split
      · cases h : samePlace path query <;> simp [contentAt, List.find?_cons, h]
      · by_cases hFirst : samePlace f.path query = true
        · have hAway : samePlace path query = false := by
            rw [Bool.eq_false_iff]
            intro hPath
            apply hOther
            rw [samePlace_congr hFirst, samePlace_comm, hPath]
          simp [contentAt, hFirst, hAway]
        · rw [Bool.not_eq_true] at hFirst
          simpa [contentAt, List.find?_cons, hFirst] using ih

theorem outside_putFile {paths : List String} {path : String}
    (h : paths.any (samePlace path) = true) (content : String) (files : List StoredFile) :
    outside paths (putFile path content files) = outside paths files := by
  induction files with
  | nil => simp [putFile, outside, h]
  | cons f rest ih =>
    rw [putFile]
    split
    · rename_i hSame
      have hFirst : paths.any (samePlace f.path) = true := by
        rw [show samePlace f.path = samePlace path from funext (samePlace_congr hSame), h]
      simp [outside, hFirst]
    · split
      · simp [outside, h]
      · simp only [outside, List.filter_cons] at ih ⊢
        rw [ih]

theorem outside_nil (files : List StoredFile) : outside [] files = files := by
  simp [outside]

theorem outside_outside (paths more : List String) (files : List StoredFile) :
    outside more (outside paths files) = outside (paths ++ more) files := by
  simp only [outside, List.filter_filter, List.any_append, Bool.not_or, Bool.and_comm]

theorem outside_eq_self {paths : List String} {files : List StoredFile}
    (h : ∀ path ∈ paths, contentAt files path = none) : outside paths files = files := by
  rw [outside, List.filter_eq_self]
  intro f hf
  rw [Bool.not_eq_true', List.any_eq_false]
  intro path hPath
  rw [Bool.not_eq_true, contentAt_eq_none_iff.mp (h path hPath) f hf]

theorem contentAt_outside (paths : List String) (files : List StoredFile) (query : String) :
    contentAt (outside paths files) query =
      if paths.any (samePlace query) then none else contentAt files query := by
  have hAny : ∀ f : StoredFile, samePlace f.path query = true →
      paths.any (samePlace f.path) = paths.any (samePlace query) := by
    intro f hf
    rw [show samePlace f.path = samePlace query from funext (samePlace_congr hf)]
  simp only [contentAt, outside, List.find?_filter]
  split
  · rename_i hQuery
    rw [List.find?_eq_none.mpr, Option.map_none]
    intro f _
    by_cases hf : samePlace f.path query = true
    · simp [hAny f hf, hQuery]
    · simp [hf]
  · rename_i hQuery
    congr 2
    funext f
    by_cases hf : samePlace f.path query = true
    · simp [hAny f hf, hQuery]
    · simp [hf]

theorem files_advance_removeFile (s : Memory) (path : String) :
    (s.advance (s.removeFile path)).2.files = outside [path] s.files := by
  rw [removeFile]
  split
  · simp [advance, outside]
  · rename_i hAbsent
    have hNone : contentAt s.files path = none := by
      simpa [isFile, file?_eq_contentAt] using hAbsent
    simp only [advance]
    rw [outside_eq_self]
    intro p hp
    rw [List.mem_singleton.mp hp, hNone]

/-- A write stores the content at its place, or changes nothing. -/
theorem writeFile_cases (s : Memory) (path content : String) :
    (∃ reason, s.writeFile path content = .error (.fileSystem path reason)) ∨
      s.writeFile path content = .ok ⟨putFile path content s.files, s.directories⟩ := by
  rw [writeFile]
  split
  · exact .inr rfl
  · exact .inl ⟨_, rfl⟩

theorem mem_beginnings_iff {α : Type} {front row : List α} :
    front ∈ beginnings row ↔ front ≠ [] ∧ front <+: row := by
  induction row generalizing front with
  | nil =>
    rw [beginnings, List.prefix_nil]
    constructor
    · intro h
      cases h
    · rintro ⟨hSome, hNil⟩
      exact absurd hNil hSome
  | cons a rest ih =>
    rw [beginnings, List.mem_cons, List.mem_map, List.prefix_cons_iff]
    constructor
    · rintro (rfl | ⟨tail, hTail, rfl⟩)
      · exact ⟨List.cons_ne_nil a [], .inr ⟨[], rfl, List.nil_prefix⟩⟩
      · exact ⟨List.cons_ne_nil a tail, .inr ⟨tail, rfl, (ih.mp hTail).2⟩⟩
    · rintro ⟨hSome, rfl | ⟨tail, rfl, hTail⟩⟩
      · exact absurd rfl hSome
      · by_cases hLast : tail = []
        · exact .inl (hLast ▸ rfl)
        · exact .inr ⟨tail, ih.mpr ⟨hLast, hTail⟩, rfl⟩

theorem mem_addDirectory {directories : List (List Component)} {d e : List Component} :
    e ∈ addDirectory directories d ↔ e ∈ directories ∨ e = d := by
  rw [addDirectory]
  split
  · rename_i hKnown
    rw [List.contains_iff_mem] at hKnown
    constructor
    · exact .inl
    · rintro (h | rfl)
      · exact h
      · exact hKnown
  · rw [List.mem_append, List.mem_singleton]

theorem mem_foldl_addDirectory {more directories : List (List Component)} {e : List Component} :
    e ∈ more.foldl addDirectory directories ↔ e ∈ directories ∨ e ∈ more := by
  induction more generalizing directories with
  | nil => simp
  | cons d rest ih => rw [List.foldl_cons, ih, mem_addDirectory, List.mem_cons, or_assoc]

theorem isDirectory_createDirectories {path : String} (h : components path ≠ []) (s : Memory) :
    (s.createDirectories path).isDirectory path = true := by
  rw [isDirectory, List.contains_iff_mem, createDirectories, mem_foldl_addDirectory]
  exact .inr (mem_beginnings_iff.mpr ⟨h, List.prefix_rfl⟩)

end Boilerplate.Memory
