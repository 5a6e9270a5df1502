import Boilerplate.Proofs.Data.Rows
import Boilerplate.Proofs.Path.Pieces
import Boilerplate.Proofs.Text.Slug
import Boilerplate.Text.Blank

/-! # Paths with gaps for slugs

A slug holds neither slashes nor dots. So the pieces of a path are known up to the slugs in its
gaps, and whether the path is accepted can be read off its fixed characters.
-/

namespace Boilerplate

open Text (IsSlug)

/-- A path in which a gap stands for a slug. -/
abbrev Pattern := List (Option Char)

namespace Pattern

/-- The texts that a pattern stands for. -/
inductive Fills : Pattern → List Char → Prop
  | nil : Fills [] []
  | fixed (c : Char) {p : Pattern} {s : List Char} (rest : Fills p s) : Fills (some c :: p) (c :: s)
  | gap {slug : List Char} {p : Pattern} {s : List Char} (isSlug : IsSlug slug) (rest : Fills p s) :
      Fills (none :: p) (slug ++ s)

/-- The text whose gaps are left empty. -/
def fixedText (p : Pattern) : List Char :=
  p.filterMap id

def pieces : Pattern → List Pattern
  | [] => [[]]
  | c :: rest =>
    if c = some '/' then [] :: pieces rest
    else
      match pieces rest with
      | [] => [[c]]
      | p :: ps => (c :: p) :: ps

def isTight (p : Pattern) : Bool :=
  (p.head?.join.any fun c => !Text.isBlank c) && (p.getLast?.join.any fun c => !Text.isBlank c)

/-- Every text of the pattern is a relative path that an archive can hold. -/
def isSafe (p : Pattern) : Bool :=
  (p.head?.join.any fun c => c != '/' && c != '\\') && !p.contains (some '\x00') &&
    (pieces p).all (fun q => fixedText q != ['.', '.']) &&
    (pieces p).any fun q => Path.isPlain (fixedText q)

/-- The last segment, if it has no gap. -/
def fixedName? (p : Pattern) : Option (List Char) :=
  ((pieces p).getLast?.filter fun q => q.all Option.isSome && Path.isPlain (fixedText q)).map
    fixedText

/-- The two patterns end in different names. -/
def apart (p q : Pattern) : Bool :=
  (fixedName? p).any fun a => (fixedName? q).any fun b => a != b

variable {p q : Pattern} {s t : List Char}

theorem not_mem_of_isSlug {slug : List Char} (h : IsSlug slug) :
    '/' ∉ slug ∧ '.' ∉ slug ∧ '\x00' ∉ slug := by
  refine ⟨?_, ?_, ?_⟩
  all_goals
    intro hMem
    rcases h _ hMem with hHyphen | hDigit
    · revert hHyphen
      decide
    · revert hDigit
      decide

theorem Fills.eq_fixedText_of_all (h : Fills p s) (hFixed : p.all Option.isSome = true) :
    s = fixedText p := by
  induction h with
  | nil => rfl
  | fixed c rest ih =>
    rw [ih (by simpa using hFixed)]
    rfl
  | gap isSlug rest ih => cases hFixed

theorem Fills.eq_fixedText_of_dots (h : Fills p s) (hDots : ∀ c ∈ s, c = '.') :
    s = fixedText p := by
  induction h with
  | nil => rfl
  | fixed c rest ih =>
    rw [ih fun d hd => hDots d (List.mem_cons_of_mem c hd)]
    rfl
  | @gap slug p s isSlug rest ih =>
    have hEmpty : slug = [] := by
      rw [List.eq_nil_iff_forall_not_mem]
      intro c hc
      rw [hDots c (List.mem_append_left s hc)] at hc
      exact (not_mem_of_isSlug isSlug).2.1 hc
    subst hEmpty
    exact ih hDots

theorem Fills.zero_not_mem (h : Fills p s) (hZero : some '\x00' ∉ p) : '\x00' ∉ s := by
  induction h with
  | nil => exact List.not_mem_nil
  | fixed c rest ih =>
    obtain ⟨hFirst, hRest⟩ := not_or.mp (mt List.mem_cons.mpr hZero)
    rw [List.mem_cons, not_or]
    exact ⟨fun hc => hFirst (congrArg some hc), ih hRest⟩
  | gap isSlug rest ih =>
    rw [List.mem_append, not_or]
    exact ⟨(not_mem_of_isSlug isSlug).2.2, ih fun hMem => hZero (List.mem_cons_of_mem none hMem)⟩

theorem Fills.pieces (h : Fills p s) : List.Forall₂ Fills (pieces p) (Path.pieces s) := by
  -- Slashes are fixed characters only: a slug goes to the piece that is under way.
  induction h with
  | nil => exact .cons .nil .nil
  | @fixed c p s rest ih =>
    rw [Pattern.pieces, Path.pieces]
    by_cases hSlash : c = '/'
    · rw [if_pos (congrArg some hSlash), if_pos hSlash]
      exact .cons .nil ih
    · rw [if_neg (by simpa using hSlash), if_neg hSlash]
      generalize Pattern.pieces p = ps, Path.pieces s = ss at ih
      cases ih with
      | nil => exact .cons (.fixed c .nil) .nil
      | cons hFirst hOthers => exact .cons (.fixed c hFirst) hOthers
  | @gap slug p s isSlug rest ih =>
    rw [Pattern.pieces, if_neg (Option.some_ne_none _).symm]
    cases hs : Path.pieces s with
    | nil => exact absurd hs (Path.pieces_ne_nil s)
    | cons t ts =>
      rw [Path.pieces_append_of_not_mem (not_mem_of_isSlug isSlug).1 hs]
      rw [hs] at ih
      generalize Pattern.pieces p = ps at ih
      cases ih with
      | cons hFirst hOthers => exact .cons (.gap isSlug hFirst) hOthers

theorem Fills.head? (h : Fills p s) {c : Char} (hc : p.head?.join = some c) :
    s.head? = some c := by
  cases h with
  | nil => cases hc
  | fixed d rest => exact hc
  | gap isSlug rest => cases hc

theorem Fills.split {s : List Char} (h : Fills (p ++ q) s) :
    ∃ a b, s = a ++ b ∧ Fills p a ∧ Fills q b := by
  induction p generalizing s with
  | nil => exact ⟨[], s, rfl, .nil, h⟩
  | cons c p ih =>
    cases h with
    | fixed d rest =>
      obtain ⟨a, b, rfl, hFront, hBack⟩ := ih rest
      exact ⟨d :: a, b, rfl, .fixed d hFront, hBack⟩
    | @gap slug _ _ isSlug rest =>
      obtain ⟨a, b, rfl, hFront, hBack⟩ := ih rest
      exact ⟨slug ++ a, b, (List.append_assoc slug a b).symm, .gap isSlug hFront, hBack⟩

theorem Fills.getLast? (h : Fills p s) {c : Char} (hc : p.getLast?.join = some c) :
    s.getLast? = some c := by
  obtain ⟨front, rfl⟩ := List.getLast?_eq_some_iff.mp (Option.join_eq_some_iff.mp hc)
  obtain ⟨a, b, rfl, _, hBack⟩ := h.split
  cases hBack with
  | fixed _ rest =>
    cases rest with
    | nil => rw [List.getLast?_append, List.getLast?_singleton, Option.some_or]

theorem Fills.trim_eq_self (h : Fills p s) (hTight : isTight p = true) : Text.trim s = s := by
  obtain ⟨hFirst, hLast⟩ := (Bool.and_eq_true _ _).mp hTight
  obtain ⟨c, hc, hSolid⟩ := (Option.any_eq_true _ _).mp hFirst
  obtain ⟨d, hd, hSolidEnd⟩ := (Option.any_eq_true _ _).mp hLast
  refine Text.trim_eq_self ?_ ?_
  · rw [h.head? hc]
    rintro _ ⟨⟩
    simpa using hSolid
  · rw [h.getLast? hd]
    rintro _ ⟨⟩
    simpa using hSolidEnd

theorem Fills.isPlain (h : Fills p s) (hPlain : Path.isPlain (fixedText p) = true) :
    Path.isPlain s = true := by
  by_contra hVoid
  have hDots : ∀ c ∈ s, c = '.' := by
    rw [Path.isPlain, Bool.and_eq_true, bne_iff_ne, bne_iff_ne, not_and_or, not_not, not_not]
      at hVoid
    rcases hVoid with rfl | rfl <;> simp
  rw [h.eq_fixedText_of_dots hDots] at hVoid
  exact hVoid hPlain

theorem Fills.ofText_ok (h : Fills p s) (hSafe : isSafe p = true) :
    RelativePath.ofText s = .ok ⟨(Path.pieces s).filter Path.isPlain⟩ := by
  simp only [isSafe, Bool.and_eq_true] at hSafe
  obtain ⟨⟨⟨hFirst, _⟩, hInside⟩, hSome⟩ := hSafe
  obtain ⟨c, hc, hRelative⟩ := (Option.any_eq_true _ _).mp hFirst
  have hHead := h.head? hc
  rw [Bool.and_eq_true, bne_iff_ne, bne_iff_ne] at hRelative
  refine RelativePath.ofText_eq_ok_iff.mpr ⟨?_, ?_, ?_, ?_, rfl⟩
  · rw [hHead]
    exact fun hSlash => hRelative.1 (Option.some.inj hSlash)
  · rw [hHead]
    exact fun hBackslash => hRelative.2 (Option.some.inj hBackslash)
  · intro hParent
    obtain ⟨q, hq, hFill⟩ := exists_mem_right h.pieces _ hParent
    have hFixed := List.all_eq_true.mp hInside q hq
    rw [← hFill.eq_fixedText_of_dots (by simp)] at hFixed
    exact absurd hFixed (by decide)
  · obtain ⟨q, hq, hPlain⟩ := List.any_eq_true.mp hSome
    obtain ⟨t, ht, hFill⟩ := exists_mem_left h.pieces q hq
    exact List.ne_nil_of_mem (List.mem_filter.mpr ⟨ht, hFill.isPlain hPlain⟩)

theorem Fills.getLast?_segments (h : Fills p s) {name : List Char}
    (hName : fixedName? p = some name) :
    ((Path.pieces s).filter Path.isPlain).getLast? = some name := by
  obtain ⟨q, hq, rfl⟩ := Option.map_eq_some_iff.mp hName
  obtain ⟨hLast, hPlain⟩ := Option.filter_eq_some_iff.mp hq
  rw [Bool.and_eq_true] at hPlain
  obtain ⟨t, ht, hFill⟩ := exists_getLast? h.pieces hLast
  obtain rfl := hFill.eq_fixedText_of_all hPlain.1
  obtain ⟨front, hFront⟩ := List.getLast?_eq_some_iff.mp ht
  rw [hFront, List.filter_append, List.filter_cons_of_pos hPlain.2]
  simp

theorem Fills.zero_not_mem_text (h : Fills p s) (hSafe : isSafe p = true) :
    '\x00' ∉ (RelativePath.mk ((Path.pieces s).filter Path.isPlain)).text.toList := by
  simp only [isSafe, Bool.and_eq_true, Bool.not_eq_true', List.contains_eq_mem,
    decide_eq_false_iff_not] at hSafe
  obtain ⟨⟨⟨_, hZero⟩, _⟩, _⟩ := hSafe
  intro hMem
  rw [RelativePath.text, String.toList_ofList] at hMem
  rcases Text.mem_intercalate hMem with hSlash | ⟨piece, hPiece, hMem⟩
  · exact absurd hSlash (by decide)
  · exact h.zero_not_mem hZero (Path.mem_of_mem_pieces (List.mem_filter.mp hPiece).1 hMem)

theorem ne_of_apart {a b : RelativePath} (hApart : apart p q = true) (hp : Fills p s)
    (hq : Fills q t) (ha : RelativePath.ofText s = .ok a) (hb : RelativePath.ofText t = .ok b) :
    a ≠ b := by
  rintro rfl
  obtain ⟨_, hName, hOther⟩ := (Option.any_eq_true _ _).mp hApart
  obtain ⟨_, hOtherName, hDiffer⟩ := (Option.any_eq_true _ _).mp hOther
  obtain ⟨_, _, _, _, ha⟩ := RelativePath.ofText_eq_ok_iff.mp ha
  obtain ⟨_, _, _, _, hb⟩ := RelativePath.ofText_eq_ok_iff.mp hb
  have hLast := hp.getLast?_segments hName
  rw [← RelativePath.mk.inj (ha.symm.trans hb).symm, hq.getLast?_segments hOtherName] at hLast
  rw [Option.some.inj hLast, bne_self_eq_false] at hDiffer
  cases hDiffer

end Pattern

end Boilerplate
