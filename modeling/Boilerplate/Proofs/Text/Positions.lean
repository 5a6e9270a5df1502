import Mathlib.Data.List.Basic
import Mathlib.Data.List.Induction
import Mathlib.Data.List.TakeWhile
import Boilerplate.Proofs.Data.Spans
import Boilerplate.Text.Position

/-! # Positions in the lines of a source

A later offset has a later position. The position of an offset counts the lines above it and the
characters in front of it in its own line, so that the offset is known from its position.
-/

namespace Boilerplate.Text

/-- The offset stands between two characters, or at an end of the source. -/
def IsBoundary (source : List Char) (offset : Nat) : Prop :=
  ∃ front back, source = front ++ back ∧ offset = byteLength front

namespace Position

theorem charsBefore?_append (front back : List Char) :
    charsBefore? (byteLength front) (front ++ back) = some front := by
  induction front with
  | nil => cases back <;> rfl
  | cons c front ih =>
    have hSize : 0 < c.utf8Size := Char.utf8Size_pos c
    rw [List.cons_append, charsBefore?, byteLength_cons, if_neg (by omega), if_neg (by omega),
      Nat.add_sub_cancel_left, ih]
    rfl

theorem locate_append (front back : List Char) :
    locate (front ++ back) (byteLength front) = after front := by
  rw [locate, charsBefore?_append, Option.getD_some]

section Order

/-- The order in which positions are read. -/
def Precedes (p q : Position) : Prop :=
  p.line < q.line ∨ p.line = q.line ∧ p.column < q.column

theorem Precedes.trans {p q r : Position} (hpq : p.Precedes q) (hqr : q.Precedes r) :
    p.Precedes r := by
  unfold Precedes at *
  omega

theorem precedes_advance (p : Position) (c : Char) : p.Precedes (p.advance c) := by
  rw [advance]
  split
  · exact .inl (Nat.lt_succ_self _)
  · exact .inr ⟨rfl, Nat.lt_succ_self _⟩

theorem after_append_singleton (s : List Char) (c : Char) :
    after (s ++ [c]) = (after s).advance c :=
  List.foldl_append ..

theorem precedes_after_append (s : List Char) {t : List Char} (h : t ≠ []) :
    (after s).Precedes (after (s ++ t)) := by
  induction t using List.reverseRec with
  | nil => exact absurd rfl h
  | append_singleton t c ih =>
    rw [← List.append_assoc, after_append_singleton]
    by_cases ht : t = []
    · rw [ht, List.append_nil]
      exact precedes_advance _ c
    · exact (ih ht).trans (precedes_advance _ c)

theorem locate_precedes {source : List Char} {a b : Nat} (ha : IsBoundary source a)
    (hb : IsBoundary source b) (h : a < b) : (locate source a).Precedes (locate source b) := by
  obtain ⟨front, back, hSource, rfl⟩ := ha
  obtain ⟨front', back', hSource', rfl⟩ := hb
  have hPrefix : front <+: front' := by
    rcases List.prefix_or_prefix_of_prefix (List.prefix_append front back)
      (hSource ▸ hSource' ▸ List.prefix_append front' back') with hBelow | hAbove
    · exact hBelow
    · exact absurd (byteLength_le_of_sublist hAbove.sublist) (Nat.not_le_of_lt h)
  obtain ⟨between, rfl⟩ := hPrefix
  have hSome : between ≠ [] := by
    rintro rfl
    rw [List.append_nil] at h
    exact Nat.lt_irrefl _ h
  rw [hSource', locate_append, ← hSource', hSource, locate_append]
  exact precedes_after_append front hSome

end Order

section Lines

/-- The line counts the newlines in front, the column the characters since the last of them. -/
theorem after_eq_counts (s : List Char) :
    after s = ⟨s.count '\n' + 1, (s.reverse.takeWhile (· ≠ '\n')).length + 1⟩ := by
  induction s using List.reverseRec with
  | nil => rfl
  | append_singleton s c ih =>
    rw [after_append_singleton, ih, advance, List.reverse_append, List.count_append]
    split
    next hNewline => simp [hNewline]
    next hOther => simp [hOther]

/-- Whole lines, each with its newline, and the part of a line behind them. -/
def behindLines (above : List (List Char)) (shown : List Char) : List Char :=
  above.flatMap (· ++ ['\n']) ++ shown

variable {above below : List (List Char)} {front source shown : List Char}

theorem behindLines_cons (line : List Char) (above : List (List Char)) (shown : List Char) :
    behindLines (line :: above) shown = line ++ '\n' :: behindLines above shown := by
  simp [behindLines]

theorem behindLines_append (above : List (List Char)) (shown rest : List Char) :
    behindLines above (shown ++ rest) = behindLines above shown ++ rest :=
  (List.append_assoc ..).symm

theorem exists_behindLines (s : List Char) :
    ∃ above shown, s = behindLines above shown ∧ (∀ line ∈ above, '\n' ∉ line) ∧ '\n' ∉ shown := by
  induction s with
  | nil => exact ⟨[], [], rfl, List.forall_mem_nil _, List.not_mem_nil⟩
  | cons c s ih =>
    obtain ⟨above, shown, rfl, hAbove, hShown⟩ := ih
    by_cases hNewline : c = '\n'
    · refine ⟨[] :: above, shown, ?_, List.forall_mem_cons.mpr ⟨List.not_mem_nil, hAbove⟩, hShown⟩
      rw [behindLines_cons, hNewline, List.nil_append]
    · cases above with
      | nil => exact ⟨[], c :: shown, rfl, hAbove, by simp [Ne.symm hNewline, hShown]⟩
      | cons line above =>
        rw [List.forall_mem_cons] at hAbove
        refine ⟨(c :: line) :: above, shown, ?_, ?_, hShown⟩
        · rw [behindLines_cons, behindLines_cons, List.cons_append]
        · exact List.forall_mem_cons.mpr ⟨by simp [Ne.symm hNewline, hAbove.1], hAbove.2⟩

theorem splitOn_behindLines (hAbove : ∀ line ∈ above, '\n' ∉ line) (shown : List Char) :
    (behindLines above shown).splitOn '\n' = above ++ shown.splitOn '\n' := by
  induction above with
  | nil => rfl
  | cons line above ih =>
    rw [List.forall_mem_cons] at hAbove
    rw [behindLines_cons, List.splitOn_append_cons_self_of_not_mem hAbove.1, ih hAbove.2,
      List.cons_append]

theorem newline_not_mem_of_mem_splitOn {line : List Char} (h : line ∈ source.splitOn '\n') :
    '\n' ∉ line := by
  obtain ⟨above, shown, rfl, hAbove, hShown⟩ := exists_behindLines source
  rw [splitOn_behindLines hAbove, List.splitOn_eq_singleton hShown, List.mem_append,
    List.mem_singleton] at h
  rcases h with hMem | rfl
  · exact hAbove line hMem
  · exact hShown

theorem intercalate_lines (above : List (List Char)) (line : List Char) (below : List (List Char)) :
    ['\n'].intercalate (above ++ line :: below) =
      behindLines above (['\n'].intercalate (line :: below)) := by
  induction above with
  | nil => rfl
  | cons first above ih =>
    rw [List.cons_append, List.intercalate_cons_of_ne_nil (by simp), ih, behindLines_cons,
      List.append_assoc, List.singleton_append]

theorem intercalate_shown (shown rest : List Char) (below : List (List Char)) :
    ['\n'].intercalate ((shown ++ rest) :: below) =
      shown ++ ['\n'].intercalate (rest :: below) := by
  cases below with
  | nil => rw [List.intercalate_singleton, List.intercalate_singleton]
  | cons line below =>
    rw [List.intercalate_cons_cons, List.intercalate_cons_cons]
    simp only [List.append_assoc]

theorem exists_splitOn_append (h : '\n' ∉ shown) (back : List Char) :
    ∃ rest below, (shown ++ back).splitOn '\n' = (shown ++ rest) :: below := by
  induction shown with
  | nil => exact List.exists_cons_of_ne_nil (List.splitOn_ne_nil '\n' back)
  | cons c shown ih =>
    rw [List.mem_cons, not_or] at h
    obtain ⟨rest, below, hSplit⟩ := ih h.2
    refine ⟨rest, below, ?_⟩
    rw [List.cons_append, List.splitOn_cons_eq_if_modifyHead, if_neg (by simpa using Ne.symm h.1),
      hSplit, List.modifyHead_cons, List.cons_append]

theorem count_behindLines (hAbove : ∀ line ∈ above, '\n' ∉ line) (hShown : '\n' ∉ shown) :
    (behindLines above shown).count '\n' = above.length := by
  induction above with
  | nil => exact List.count_eq_zero.mpr hShown
  | cons line above ih =>
    rw [List.forall_mem_cons] at hAbove
    rw [behindLines_cons, List.count_append, List.count_eq_zero.mpr hAbove.1,
      List.count_cons_self, ih hAbove.2, Nat.zero_add, List.length_cons]

/-- Behind the last newline stands what is shown of the line. -/
theorem takeWhile_reverse_behindLines (above : List (List Char)) (hShown : '\n' ∉ shown) :
    (behindLines above shown).reverse.takeWhile (· ≠ '\n') = shown.reverse := by
  have hOwn : ∀ c ∈ shown.reverse, decide (c ≠ '\n') = true := by
    intro c hc
    refine decide_eq_true ?_
    rintro rfl
    exact hShown (List.mem_reverse.mp hc)
  rw [behindLines, List.reverse_append]
  refine takeWhile_append_of_stop hOwn ?_
  rcases List.eq_nil_or_concat' above with rfl | ⟨above, line, rfl⟩ <;> simp

theorem after_behindLines (hAbove : ∀ line ∈ above, '\n' ∉ line) (hShown : '\n' ∉ shown) :
    after (behindLines above shown) = ⟨above.length + 1, shown.length + 1⟩ := by
  rw [after_eq_counts, count_behindLines hAbove hShown,
    takeWhile_reverse_behindLines above hShown, List.length_reverse]

/-- The line of the position is shown up to its column, and the offset is reached there: `shown` is
what stands in front of the offset in its line, and the first characters of that line. -/
def Addresses (source : List Char) (p : Position) (offset : Nat) : Prop :=
  ∃ above shown rest below, source.splitOn '\n' = above ++ (shown ++ rest) :: below ∧
    p = ⟨above.length + 1, shown.length + 1⟩ ∧ offset = byteLength (behindLines above shown)

theorem addresses_iff {p : Position} {offset : Nat} :
    Addresses source p offset ↔ IsBoundary source offset ∧ locate source offset = p := by
  constructor
  · rintro ⟨above, shown, rest, below, hSplit, rfl, rfl⟩
    have hLine : ∀ line ∈ above ++ (shown ++ rest) :: below, '\n' ∉ line :=
      fun line h => newline_not_mem_of_mem_splitOn (hSplit ▸ h)
    have hAbove : ∀ line ∈ above, '\n' ∉ line :=
      fun line h => hLine line (List.mem_append_left _ h)
    have hShown : '\n' ∉ shown :=
      fun h => hLine (shown ++ rest) (by simp) (List.mem_append_left _ h)
    have hSource : source =
        behindLines above shown ++ ['\n'].intercalate (rest :: below) := by
      rw [← behindLines_append, ← intercalate_shown, ← intercalate_lines, ← hSplit,
        List.intercalate_splitOn]
    refine ⟨⟨_, _, hSource, rfl⟩, ?_⟩
    rw [hSource, locate_append, after_behindLines hAbove hShown]
  · rintro ⟨⟨front, back, rfl, rfl⟩, rfl⟩
    obtain ⟨above, shown, rfl, hAbove, hShown⟩ := exists_behindLines front
    obtain ⟨rest, below, hSplit⟩ := exists_splitOn_append hShown back
    refine ⟨above, shown, rest, below, ?_, ?_, rfl⟩
    · rw [← behindLines_append, splitOn_behindLines hAbove, hSplit]
    · rw [locate_append, after_behindLines hAbove hShown]

/-- The offset of a position, from the lines of the source. -/
def offsetOf (source : List Char) (p : Position) : Nat :=
  let lines := source.splitOn '\n'
  byteLength (behindLines (lines.take (p.line - 1))
    ((lines.getD (p.line - 1) []).take (p.column - 1)))

theorem Addresses.offsetOf_eq {p : Position} {offset : Nat} (h : Addresses source p offset) :
    offsetOf source p = offset := by
  obtain ⟨above, shown, rest, below, hSplit, rfl, rfl⟩ := h
  simp [offsetOf, hSplit]

/-- Positions are in the order of the offsets. An offset has a position just when the lines of the
source lead from the position to the offset, and it can be computed from them. -/
theorem locate_addresses_lines (source : List Char) :
    (∀ a b, IsBoundary source a → IsBoundary source b → a < b →
      (locate source a).Precedes (locate source b)) ∧
    (∀ a p, IsBoundary source a ∧ locate source a = p ↔ Addresses source p a) ∧
    ∀ a, IsBoundary source a → offsetOf source (locate source a) = a := by
  refine ⟨fun a b ha hb h => locate_precedes ha hb h, fun a p => addresses_iff.symm, fun a ha => ?_⟩
  have hAddresses : Addresses source (locate source a) a := addresses_iff.mpr ⟨ha, rfl⟩
  exact hAddresses.offsetOf_eq

/-- Three bytes lead to an empty line, and five into the line behind it. -/
theorem locate_addresses_lines_of_empty_line :
    let source := "é\n\nab".toList
    IsBoundary source 3 ∧ IsBoundary source 5 ∧
      (locate source 3).Precedes (locate source 5) ∧
      Addresses source ⟨3, 2⟩ 5 ∧ offsetOf source (locate source 5) = 5 := by
  intro source
  have hSource : source = ['é', '\n', '\n', 'a', 'b'] := by decide
  have hFirst : IsBoundary source 3 := ⟨['é', '\n'], ['\n', 'a', 'b'], hSource, by decide⟩
  have hSecond : IsBoundary source 5 := ⟨['é', '\n', '\n', 'a'], ['b'], hSource, by decide⟩
  obtain ⟨hOrder, hLines, hBack⟩ := locate_addresses_lines source
  refine ⟨hFirst, hSecond, hOrder 3 5 hFirst hSecond (by decide),
    (hLines 5 ⟨3, 2⟩).mp ⟨hSecond, ?_⟩, hBack 5 hSecond⟩
  decide

end Lines

end Position

end Boilerplate.Text
