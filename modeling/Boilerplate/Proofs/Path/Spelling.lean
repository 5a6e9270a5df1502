import Boilerplate.Proofs.Path.Placement

/-! # Spellings of a relative path

A text is accepted as a relative path for its pieces alone, but for its first character. Its plain
pieces with slashes between them are the text of the path, so that two texts spell the same path
just when they have the same plain pieces. A path is spelled by its own text, unless that starts
with a backslash.
-/

namespace Boilerplate

namespace Path

theorem pieces_eq_splitOn (s : List Char) : pieces s = s.splitOn '/' := by
  have hWhole : ∀ piece ∈ pieces s, '/' ∉ piece := fun _ h => slash_not_mem_of_mem_pieces h
  calc
    pieces s = (['/'].intercalate (pieces s)).splitOn '/' :=
      (List.splitOn_intercalate '/' hWhole (pieces_ne_nil s)).symm
    _ = s.splitOn '/' := by rw [intercalate_pieces]

/-- What a text says apart from slashes and dots: its pieces between slashes, without those that are
empty or a single dot. -/
def plainPieces (raw : String) : List (List Char) :=
  (raw.toList.splitOn '/').filter fun piece => piece ≠ [] ∧ piece ≠ ['.']

theorem filter_isPlain_pieces (raw : String) :
    (pieces raw.toList).filter isPlain = plainPieces raw := by
  rw [plainPieces, pieces_eq_splitOn]
  apply List.filter_congr
  intro piece _
  rw [Bool.eq_iff_iff]
  simp [isPlain]

end Path

namespace RelativePath

open Boilerplate.Path (plainPieces)

variable {raw raw' : String} {p q : RelativePath}

theorem parse_eq_ok_iff_plainPieces :
    parse raw = .ok p ↔
      (raw.toList.head? ≠ some '/' ∧ raw.toList.head? ≠ some '\\' ∧
        ['.', '.'] ∉ raw.toList.splitOn '/' ∧ plainPieces raw ≠ []) ∧ p = ⟨plainPieces raw⟩ := by
  rw [parse_eq_ok_iff, ofText_eq_ok_iff, Path.filter_isPlain_pieces, Path.pieces_eq_splitOn]
  simp only [and_assoc]

theorem text_eq_intercalate (p : RelativePath) :
    p.text = "/".intercalate (p.segments.map String.ofList) := by
  rw [← String.toList_inj, String.toList_intercalate, List.map_map, text, String.toList_ofList]
  simp

/-- An accepted path is known by its text. -/
theorem text_inj (hp : p.IsNormal) (hq : q.IsNormal) : p.text = q.text ↔ p = q := by
  constructor
  · intro hText
    have hSegments : p.segments = q.segments := by
      rw [← pieces_text hp, ← pieces_text hq, hText]
    cases p
    cases q
    exact congrArg mk hSegments
  · exact congrArg text

/-- Exactly the safe relative paths are accepted; slashes and dots that say nothing are dropped, and
nothing else is. -/
theorem parse_agrees_with_pieces (raw raw' : String) :
    ((∃ p, parse raw = .ok p) ↔
      raw.toList.head? ≠ some '/' ∧ raw.toList.head? ≠ some '\\' ∧
        ['.', '.'] ∉ raw.toList.splitOn '/' ∧
        ∃ piece ∈ raw.toList.splitOn '/', piece ≠ [] ∧ piece ≠ ['.']) ∧
    (∀ p, parse raw = .ok p → p.text = "/".intercalate ((plainPieces raw).map String.ofList)) ∧
    ∀ p q, parse raw = .ok p → parse raw' = .ok q →
      (p.text = q.text ↔ plainPieces raw = plainPieces raw') ∧
        (p = q ↔ plainPieces raw = plainPieces raw') := by
  refine ⟨?_, ?_, ?_⟩
  · have hSome : plainPieces raw ≠ [] ↔
        ∃ piece ∈ raw.toList.splitOn '/', piece ≠ [] ∧ piece ≠ ['.'] := by
      rw [plainPieces, ne_eq, List.filter_eq_nil_iff]
      simp
    simp only [parse_eq_ok_iff_plainPieces, hSome, exists_and_left, exists_eq, and_true]
  · intro p hp
    obtain ⟨-, rfl⟩ := parse_eq_ok_iff_plainPieces.mp hp
    exact text_eq_intercalate _
  · intro p q hp hq
    rw [text_inj (isNormal_of_parse hp) (isNormal_of_parse hq)]
    obtain ⟨-, rfl⟩ := parse_eq_ok_iff_plainPieces.mp hp
    obtain ⟨-, rfl⟩ := parse_eq_ok_iff_plainPieces.mp hq
    rw [mk.injEq]
    exact ⟨Iff.rfl, Iff.rfl⟩

/-- A dot in front, a slash doubled and a dot at the end: the path is `a/b` all the same. -/
theorem parse_agrees_with_pieces_of_dotted :
    let dotted : RelativePath := ⟨[['a'], ['b']]⟩
    parse "./a//b/." = .ok dotted ∧ parse "a/b" = .ok dotted ∧ dotted.text = "a/b" ∧
      plainPieces "./a//b/." = plainPieces "a/b" := by
  intro dotted
  have hDotted : parse "./a//b/." = .ok dotted := by decide
  have hPlain : parse "a/b" = .ok dotted := by decide
  obtain ⟨-, hText, hSame⟩ := parse_agrees_with_pieces "./a//b/." "a/b"
  refine ⟨hDotted, hPlain, ?_, (hSame dotted dotted hDotted hPlain).2.mp rfl⟩
  rw [hText dotted hDotted]
  decide

theorem head?_text_ne_slash (h : p.IsNormal) : p.text.toList.head? ≠ some '/' := by
  intro hSlash
  have hLeading := leading_text h
  rw [Path.leading, Path.isRooted, hSlash, if_pos (by decide)] at hLeading
  cases hLeading

/-- The text of a path spells the path again, unless it starts with a backslash: then a dot was in
front of the backslash, and without it the text is refused. -/
theorem parse_text_of_parse (h : parse raw = .ok p) :
    parse p.text =
      if p.text.toList.head? = some '\\' then
        .error (.unsafePath p.text PathFault.absolute.message)
      else .ok p := by
  have hNormal := isNormal_of_parse h
  split
  next hBackslash =>
    rw [parse, ofText, if_pos (.inr hBackslash)]
    rfl
  next hBackslash =>
    rw [parse_eq_ok_iff, ofText_eq_ok_iff, pieces_text hNormal, filter_segments hNormal]
    refine ⟨head?_text_ne_slash hNormal, hBackslash, ?_, hNormal.nonempty, rfl⟩
    exact fun hParent => (hNormal.segments _ hParent).inside rfl

/-- A backslash further on is nothing but a character. -/
theorem parse_text_of_parse_backslash :
    let p : RelativePath := ⟨[['a'], ['\\', 'b']]⟩
    parse "./a//\\b" = .ok p ∧ parse p.text = .ok p := by
  intro p
  have h : parse "./a//\\b" = .ok p := by decide
  refine ⟨h, ?_⟩
  rw [parse_text_of_parse h, if_neg (by decide)]

/-- Without the dot in front of it the backslash is refused. -/
theorem accepted_path_refused_again :
    ¬ ∀ (raw : String) (p : RelativePath), parse raw = .ok p → parse p.text = .ok p := by
  intro hAgain
  have hText := hAgain "./\\x" ⟨[['\\', 'x']]⟩ (by decide)
  exact absurd hText (by decide)

end RelativePath

end Boilerplate
