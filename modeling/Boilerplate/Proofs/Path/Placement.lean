import Mathlib.Data.List.Basic
import Boilerplate.FileSystem.Memory
import Boilerplate.Proofs.Path.Pieces

/-! # Places below a directory

The place of a relative path below a directory has the components of the directory and then one name
for each segment. So different relative paths have different places below the same directory.
-/

namespace Boilerplate

open Boilerplate.Path (Component component components isPlain isRooted leading pieces
  pieces_cons_slash plainComponents)

namespace RelativePath

def names (p : RelativePath) : List Component :=
  p.segments.map .name

theorem names_injective {p q : RelativePath} (h : p.names = q.names) : p = q := by
  have hSegments : p.segments = q.segments :=
    List.map_injective_iff.mpr (fun _ _ hNames => Component.name.inj hNames) h
  cases p
  cases q
  exact congrArg mk hSegments

theorem filter_segments {p : RelativePath} (h : p.IsNormal) :
    p.segments.filter isPlain = p.segments :=
  List.filter_eq_self.mpr fun s hs => (h.segments s hs).plain

theorem plainComponents_segments {p : RelativePath} (h : p.IsNormal) :
    plainComponents p.segments = p.names := by
  rw [plainComponents, filter_segments h, names]
  apply List.map_congr_left
  intro s hs
  rw [component, if_neg (h.segments s hs).inside]

theorem text_ne_nil {p : RelativePath} (h : p.IsNormal) : p.text.toList ≠ [] := by
  intro hEmpty
  have hPieces := pieces_text h
  rw [hEmpty] at hPieces
  have hSegment := (h.segments [] (hPieces ▸ List.mem_singleton.mpr rfl)).plain
  cases hSegment

theorem leading_text {p : RelativePath} (h : p.IsNormal) : leading p.text.toList = [] := by
  have hFirst : ∀ s, (pieces p.text.toList).head? = some s → isPlain s = true := by
    intro s hs
    rw [pieces_text h] at hs
    exact (h.segments s (List.mem_of_mem_head? hs)).plain
  rw [leading, if_neg, if_neg]
  · intro hDot
    exact absurd (hFirst _ hDot) (by decide)
  · intro hRooted
    cases hText : p.text.toList with
    | nil => exact text_ne_nil h hText
    | cons c rest =>
      rw [hText, isRooted, List.head?_cons, beq_iff_eq, Option.some.injEq] at hRooted
      refine absurd (hFirst [] ?_) (by decide)
      rw [hText, hRooted, pieces_cons_slash]
      rfl

end RelativePath

namespace Path

theorem leading_append_slash (a b : List Char) :
    leading (a ++ '/' :: b) = leading (a ++ ['/']) := by
  have hRooted : isRooted (a ++ '/' :: b) = isRooted (a ++ ['/']) := by
    cases a <;> rfl
  have hHead : (pieces (a ++ '/' :: b)).head? = (pieces (a ++ ['/'])).head? := by
    rw [pieces_append_slash, pieces_append_slash, List.head?_append_of_ne_nil _ (pieces_ne_nil a),
      List.head?_append_of_ne_nil _ (pieces_ne_nil a)]
  rw [leading, leading, hRooted, hHead]

theorem plainComponents_append (ps qs : List (List Char)) :
    plainComponents (ps ++ qs) = plainComponents ps ++ plainComponents qs := by
  rw [plainComponents, List.filter_append, List.map_append]
  rfl

/-- A slash at the end changes no component unless it is the whole path. -/
theorem leading_append_slash_self {a : List Char} (h : a ≠ []) :
    leading (a ++ ['/']) = leading a := by
  have hRooted : isRooted (a ++ ['/']) = isRooted a := by
    cases a with
    | nil => exact absurd rfl h
    | cons c rest => rfl
  rw [leading, leading, hRooted, pieces_append_slash,
    List.head?_append_of_ne_nil _ (pieces_ne_nil a)]

theorem components_under {p : RelativePath} (h : p.IsNormal) (root : String) :
    components (p.under root) = components root ++ p.names := by
  have hJoined : ∀ a : List Char,
      leading (a ++ '/' :: p.text.toList) ++ plainComponents (pieces (a ++ '/' :: p.text.toList)) =
        leading (a ++ ['/']) ++ plainComponents (pieces a) ++ p.names := by
    intro a
    rw [leading_append_slash, pieces_append_slash, plainComponents_append,
      RelativePath.pieces_text h, RelativePath.plainComponents_segments h, List.append_assoc]
  rw [RelativePath.under, join]
  split
  · rename_i hRoot
    subst hRoot
    rw [components, RelativePath.leading_text h, RelativePath.pieces_text h,
      RelativePath.plainComponents_segments h]
    rfl
  · rename_i hRoot
    split
    · rename_i hSlash
      obtain ⟨a, ha⟩ := List.getLast?_eq_some_iff.mp hSlash
      have hTail : plainComponents (pieces []) = [] := rfl
      rw [components, components, String.toList_append, ha, List.append_assoc,
        List.singleton_append, hJoined, pieces_append_slash, plainComponents_append, hTail,
        List.append_nil]
    · have hNonempty : root.toList ≠ [] := by
        simpa using hRoot
      have hText : (root ++ "/" ++ p.text).toList = root.toList ++ '/' :: p.text.toList := by
        simp
      rw [components, components, hText, hJoined, leading_append_slash_self hNonempty]

theorem components_eq_nil_iff {path : String} : components path = [] ↔ path = "" := by
  constructor
  · intro h
    obtain ⟨hLeading, hPlain⟩ := List.append_eq_nil_iff.mp h
    by_contra hPath
    cases hText : path.toList with
    | nil => exact hPath (by simpa using hText)
    | cons c rest =>
      rw [hText] at hLeading hPlain
      have hNone := List.filter_eq_nil_iff.mp (List.map_eq_nil_iff.mp hPlain)
      rw [leading] at hLeading
      split at hLeading
      · cases hLeading
      · rename_i hRooted
        have hc : c ≠ '/' := by
          rintro rfl
          exact hRooted rfl
        split at hLeading
        · cases hLeading
        · rename_i hDot
          rw [pieces, if_neg hc] at hDot hNone
          split at hNone
          · rename_i hRest
            exact pieces_ne_nil rest hRest
          · rename_i p ps hRest
            simp only [hRest, List.head?_cons, Option.some.injEq] at hDot
            apply hNone (c :: p) List.mem_cons_self
            simpa [isPlain] using hDot
  · rintro rfl
    rfl

end Path

namespace Memory

theorem samePlace_under {p q : RelativePath} (hp : p.IsNormal) (hq : q.IsNormal) (root : String) :
    samePlace (p.under root) (q.under root) = true ↔ p = q := by
  rw [samePlace, beq_iff_eq, Path.components_under hp, Path.components_under hq,
    List.append_cancel_left_eq]
  constructor
  · exact RelativePath.names_injective
  · exact congrArg RelativePath.names

end Memory

end Boilerplate
