import Boilerplate.Path.Relative
import Boilerplate.Proofs.Data.Outcome

/-! # Pieces of a path

Cutting at slashes is the inverse of joining with them. A relative path that is accepted consists of
segments, and its text is cut into these segments again.
-/

namespace Boilerplate

namespace Path

theorem pieces_ne_nil (s : List Char) : pieces s ≠ [] := by
  cases s with
  | nil => simp [pieces]
  | cons c rest =>
    rw [pieces]
    split
    · simp
    · split <;> simp

theorem pieces_cons_slash (s : List Char) : pieces ('/' :: s) = [] :: pieces s := by
  rw [pieces, if_pos rfl]

theorem pieces_append_slash (a b : List Char) : pieces (a ++ '/' :: b) = pieces a ++ pieces b := by
  induction a with
  | nil => exact pieces_cons_slash b
  | cons c rest ih =>
    rw [List.cons_append, pieces, pieces, ih]
    split
    · rfl
    · cases h : pieces rest with
      | nil => exact absurd h (pieces_ne_nil rest)
      | cons p ps => rfl

theorem pieces_eq_singleton {s : List Char} (h : '/' ∉ s) : pieces s = [s] := by
  induction s with
  | nil => rfl
  | cons c rest ih =>
    obtain ⟨hFirst, hRest⟩ := not_or.mp (mt List.mem_cons.mpr h)
    rw [pieces, if_neg (Ne.symm hFirst), ih hRest]

theorem slash_not_mem_of_mem_pieces {s piece : List Char} (h : piece ∈ pieces s) : '/' ∉ piece := by
  induction s generalizing piece with
  | nil => simp_all [pieces]
  | cons c rest ih =>
    rw [pieces] at h
    split at h
    · rcases List.mem_cons.mp h with rfl | h
      · exact List.not_mem_nil
      · exact ih h
    · rename_i hc
      split at h
      · rw [List.mem_singleton.mp h, List.mem_singleton]
        exact Ne.symm hc
      · rename_i p ps hPieces
        rcases List.mem_cons.mp h with rfl | h
        · rw [List.mem_cons, not_or]
          exact ⟨Ne.symm hc, ih (hPieces ▸ List.mem_cons_self)⟩
        · exact ih (hPieces ▸ List.mem_cons_of_mem _ h)

theorem pieces_intercalate {ps : List (List Char)} (hne : ps ≠ []) (h : ∀ p ∈ ps, '/' ∉ p) :
    pieces (['/'].intercalate ps) = ps := by
  induction ps with
  | nil => exact absurd rfl hne
  | cons p rest ih =>
    have hFirst := pieces_eq_singleton (h p List.mem_cons_self)
    cases rest with
    | nil => simpa [List.intercalate] using hFirst
    | cons q ps =>
      rw [List.intercalate_cons_cons, List.append_assoc, List.singleton_append, pieces_append_slash,
        hFirst, ih (List.cons_ne_nil q ps) fun r hr => h r (List.mem_cons_of_mem p hr)]
      rfl

theorem mem_of_mem_pieces {s piece : List Char} {c : Char} (hPiece : piece ∈ pieces s)
    (hc : c ∈ piece) : c ∈ s := by
  induction s generalizing piece with
  | nil =>
    rw [List.mem_singleton.mp hPiece] at hc
    cases hc
  | cons d rest ih =>
    rw [pieces] at hPiece
    split at hPiece
    · rcases List.mem_cons.mp hPiece with rfl | hPiece
      · cases hc
      · exact List.mem_cons_of_mem d (ih hPiece hc)
    · split at hPiece
      · rw [List.mem_singleton.mp hPiece, List.mem_singleton] at hc
        exact hc ▸ List.mem_cons_self
      · rename_i p ps hRest
        rcases List.mem_cons.mp hPiece with rfl | hPiece
        · rcases List.mem_cons.mp hc with rfl | hc
          · exact List.mem_cons_self
          · exact List.mem_cons_of_mem d (ih (hRest ▸ List.mem_cons_self) hc)
        · exact List.mem_cons_of_mem d (ih (hRest ▸ List.mem_cons_of_mem p hPiece) hc)

theorem pieces_append_of_not_mem {a s p : List Char} {ps : List (List Char)} (ha : '/' ∉ a)
    (hs : pieces s = p :: ps) : pieces (a ++ s) = (a ++ p) :: ps := by
  induction a with
  | nil => exact hs
  | cons c rest ih =>
    obtain ⟨hFirst, hRest⟩ := not_or.mp (mt List.mem_cons.mpr ha)
    rw [List.cons_append, pieces, if_neg (Ne.symm hFirst), ih hRest]
    rfl

theorem intercalate_cons {p : List Char} {ps : List (List Char)} (h : ps ≠ []) :
    ['/'].intercalate (p :: ps) = p ++ '/' :: ['/'].intercalate ps := by
  cases ps with
  | nil => exact absurd rfl h
  | cons q rest => rw [List.intercalate_cons_cons, List.append_assoc, List.singleton_append]

theorem intercalate_append {ps qs : List (List Char)} (hp : ps ≠ []) (hq : qs ≠ []) :
    ['/'].intercalate (ps ++ qs) = ['/'].intercalate ps ++ '/' :: ['/'].intercalate qs := by
  induction ps with
  | nil => exact absurd rfl hp
  | cons p rest ih =>
    by_cases hRest : rest = []
    · subst hRest
      rw [List.singleton_append, intercalate_cons hq, List.intercalate_singleton]
    · rw [List.cons_append, intercalate_cons (by simp [hRest]), ih hRest, intercalate_cons hRest,
        List.append_assoc, List.cons_append]

theorem intercalate_pieces (s : List Char) : ['/'].intercalate (pieces s) = s := by
  induction s with
  | nil => rfl
  | cons c rest ih =>
    rw [pieces]
    split
    next hSlash => rw [intercalate_cons (pieces_ne_nil rest), ih, hSlash, List.nil_append]
    next =>
      cases hPieces : pieces rest with
      | nil => exact absurd hPieces (pieces_ne_nil rest)
      | cons p ps =>
        rw [hPieces] at ih
        cases ps with
        | nil => rw [List.intercalate_singleton] at ih ⊢; rw [ih]
        | cons q qs =>
          rw [intercalate_cons (List.cons_ne_nil q qs)] at ih ⊢
          rw [List.cons_append, ih]

/-- A row with fewer pieces has a part of the text. -/
theorem intercalate_sublist {ps qs : List (List Char)} (h : ps.Sublist qs) :
    (['/'].intercalate ps).Sublist (['/'].intercalate qs) := by
  induction h with
  | slnil => exact .slnil
  | @cons ps qs q hRest ih =>
    by_cases hq : qs = []
    · rw [hq, List.sublist_nil] at hRest
      rw [hRest]
      exact List.nil_sublist _
    · rw [intercalate_cons hq]
      exact (ih.cons '/').trans (List.sublist_append_right q _)
  | @cons_cons ps qs q hRest ih =>
    by_cases hp : ps = []
    · rw [hp, List.intercalate_singleton]
      by_cases hq : qs = []
      · rw [hq, List.intercalate_singleton]
      · rw [intercalate_cons hq]
        exact List.sublist_append_left q _
    · have hq : qs ≠ [] := by
        rintro rfl
        exact hp (List.sublist_nil.mp hRest)
      rw [intercalate_cons hp, intercalate_cons hq]
      exact (ih.cons_cons '/').append_left q

end Path

namespace RelativePath

open Boilerplate.Path (pieces isPlain)

/-- What a segment of a relative path looks like. -/
structure IsSegment (s : List Char) : Prop where
  plain : isPlain s = true
  inside : s ≠ ['.', '.']
  whole : '/' ∉ s

/-- A path that has been accepted. -/
structure IsNormal (p : RelativePath) : Prop where
  nonempty : p.segments ≠ []
  segments : ∀ s ∈ p.segments, IsSegment s

theorem any_isParent_components (s : List Char) :
    (Path.leading s ++ Path.plainComponents (pieces s)).any Path.Component.isParent = true ↔
      ['.', '.'] ∈ pieces s := by
  have hLeading : (Path.leading s).any Path.Component.isParent = false := by
    rw [Path.leading]
    split
    · rfl
    · split <;> rfl
  have hComponent : ∀ p, (Path.component p).isParent = true ↔ p = ['.', '.'] := by
    intro p
    rw [Path.component]
    split <;> simp_all [Path.Component.isParent]
  rw [List.any_append, hLeading, Bool.false_or, Path.plainComponents, List.any_map,
    List.any_eq_true]
  constructor
  · rintro ⟨p, hp, hParent⟩
    rw [← (hComponent p).mp hParent]
    exact (List.mem_filter.mp hp).1
  · intro hParent
    exact ⟨_, List.mem_filter.mpr ⟨hParent, by decide⟩, rfl⟩

/-- The names are the plain pieces; a dot at the start is a component and no name. -/
theorem filterMap_name?_components {s : List Char} (h : ['.', '.'] ∉ pieces s) :
    (Path.leading s ++ Path.plainComponents (pieces s)).filterMap Path.Component.name? =
      (pieces s).filter isPlain := by
  have hLeading : (Path.leading s).filterMap Path.Component.name? = [] := by
    rw [Path.leading]
    split
    · rfl
    · split <;> rfl
  have hComponent : ∀ p ∈ (pieces s).filter isPlain, (Path.component p).name? = some p := by
    intro p hp
    rw [Path.component, if_neg]
    · rfl
    · rintro rfl
      exact h (List.mem_filter.mp hp).1
  rw [List.filterMap_append, hLeading, List.nil_append, Path.plainComponents, List.filterMap_map]
  exact (List.filterMap_congr hComponent).trans List.filterMap_some

theorem ofText_eq_ok_iff {s : List Char} {p : RelativePath} :
    ofText s = .ok p ↔
      s.head? ≠ some '/' ∧ s.head? ≠ some '\\' ∧ ['.', '.'] ∉ pieces s ∧
        (pieces s).filter isPlain ≠ [] ∧ p = ⟨(pieces s).filter isPlain⟩ := by
  rw [ofText]
  split
  · rename_i hRooted
    constructor
    · intro h
      cases h
    · rintro ⟨hSlash, hBackslash, _⟩
      exact (not_or.mpr ⟨hSlash, hBackslash⟩ hRooted).elim
  · rename_i hRooted
    obtain ⟨hSlash, hBackslash⟩ := not_or.mp hRooted
    simp only [any_isParent_components, List.isEmpty_iff]
    split
    · rename_i h
      simp [h]
    · rename_i hInside
      rw [filterMap_name?_components hInside]
      split
      · rename_i h
        simp [h]
      · rename_i hSome
        simp [hSlash, hBackslash, hInside, hSome, eq_comm]

theorem parse_eq_ok_iff {raw : String} {p : RelativePath} :
    parse raw = .ok p ↔ ofText raw.toList = .ok p :=
  mapError_eq_ok

theorem isNormal_of_parse {raw : String} {p : RelativePath} (h : parse raw = .ok p) :
    p.IsNormal := by
  obtain ⟨_, _, hInside, hSome, rfl⟩ := ofText_eq_ok_iff.mp (parse_eq_ok_iff.mp h)
  refine ⟨hSome, ?_⟩
  intro s hs
  obtain ⟨hPiece, hPlain⟩ := List.mem_filter.mp hs
  refine ⟨hPlain, ?_, Path.slash_not_mem_of_mem_pieces hPiece⟩
  rintro rfl
  exact hInside hPiece

theorem pieces_text {p : RelativePath} (h : p.IsNormal) : pieces p.text.toList = p.segments := by
  rw [text, String.toList_ofList]
  exact Path.pieces_intercalate h.nonempty fun s hs => (h.segments s hs).whole

theorem text_sublist {raw : String} {p : RelativePath} (h : parse raw = .ok p) :
    p.text.toList.Sublist raw.toList := by
  obtain ⟨_, _, _, _, rfl⟩ := ofText_eq_ok_iff.mp (parse_eq_ok_iff.mp h)
  have hKept := Path.intercalate_sublist
    (List.filter_sublist (p := isPlain) (l := pieces raw.toList))
  rw [Path.intercalate_pieces] at hKept
  rwa [text, String.toList_ofList]

end RelativePath

end Boilerplate
