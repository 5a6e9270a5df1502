import Boilerplate.Proofs.Path.Placement

/-! # Parents of paths

The parent of a path has all of its components but the last. The text of a path is cut where one of
its components ends, so that the pieces in front of the cut are those of the shorter path.
-/

namespace Boilerplate.Path

/-- Components that pieces stand for, with a dot in front if it counts. -/
def countedComponents (dotCounts : Bool) (ps : List (List Char)) : List Component :=
  (if dotCounts && ps.head? == some ['.'] then [.current] else []) ++ plainComponents ps

theorem length_componentEnds (start : Nat) (dotCounts : Bool) (ps : List (List Char)) :
    (componentEnds start dotCounts ps).length = (countedComponents dotCounts ps).length := by
  induction ps generalizing start dotCounts with
  | nil => cases dotCounts <;> rfl
  | cons p rest ih =>
    have hRest := ih (start + p.length + 1) false
    by_cases hDot : p = ['.']
    · subst hDot
      have hPlain : isPlain ['.'] = false := by decide
      cases dotCounts <;>
        simpa [componentEnds, countedComponents, plainComponents, hPlain] using hRest
    · cases hPlain : isPlain p <;>
        simpa [componentEnds, countedComponents, plainComponents, hPlain, hDot] using hRest

theorem exists_cut_of_componentEnds {start stop : Nat} {dotCounts : Bool} {ps : List (List Char)}
    {front back : List Nat} (h : componentEnds start dotCounts ps = front ++ stop :: back) :
    ∃ qs rest, ps = qs ++ rest ∧ qs ≠ [] ∧ stop = start + (['/'].intercalate qs).length ∧
      componentEnds (stop + 1) false rest = back := by
  induction ps generalizing start dotCounts front with
  | nil => simp [componentEnds] at h
  | cons p rest ih =>
    rw [componentEnds] at h
    -- The component may end behind the first piece, whether that piece counts or not.
    have hLater : ∀ front',
        componentEnds (start + p.length + 1) false rest = front' ++ stop :: back →
        ∃ qs after, p :: rest = qs ++ after ∧ qs ≠ [] ∧
          stop = start + (['/'].intercalate qs).length ∧
          componentEnds (stop + 1) false after = back := by
      intro front' hRest
      obtain ⟨qs, after, rfl, hq, hStop, hBack⟩ := ih hRest
      refine ⟨p :: qs, after, rfl, List.cons_ne_nil p qs, ?_, hBack⟩
      rw [intercalate_cons hq, List.length_append, List.length_cons]
      omega
    split at h
    next =>
      cases front with
      | nil =>
        obtain ⟨rfl, hBack⟩ := List.cons.inj h
        refine ⟨[p], rest, rfl, List.cons_ne_nil p [], ?_, hBack⟩
        rw [List.intercalate_singleton]
      | cons _ front' => exact hLater front' (List.cons.inj h).2
    next => exact hLater front h

theorem countedComponents_append {dotCounts : Bool} {qs : List (List Char)} (hq : qs ≠ [])
    (rest : List (List Char)) : countedComponents dotCounts (qs ++ rest) =
      countedComponents dotCounts qs ++ plainComponents rest := by
  rw [countedComponents, countedComponents, List.head?_append_of_ne_nil _ hq,
    plainComponents_append, List.append_assoc]

theorem countedComponents_take {s : List Char} {start stop last : Nat} {dotCounts : Bool}
    {front : List Nat} (h : componentEnds start dotCounts (pieces s) = front ++ [stop, last]) :
    ∃ length, stop = start + length ∧ countedComponents dotCounts (pieces (s.take length)) =
      (countedComponents dotCounts (pieces s)).dropLast := by
  obtain ⟨qs, rest, hPieces, hq, hStop, hLast⟩ := exists_cut_of_componentEnds h
  have hRest : rest ≠ [] := by
    rintro rfl
    cases hLast
  have hText : s = ['/'].intercalate qs ++ '/' :: ['/'].intercalate rest := by
    rw [← intercalate_append hq hRest, ← hPieces, intercalate_pieces]
  have hFront : pieces (['/'].intercalate qs) = qs := by
    apply pieces_intercalate hq
    intro p hp
    exact slash_not_mem_of_mem_pieces (hPieces ▸ List.mem_append_left rest hp)
  -- One component ends behind the cut, so one is lost.
  have hSingle : (plainComponents rest).length = 1 := by
    have hLength := length_componentEnds (stop + 1) false rest
    rw [hLast] at hLength
    exact hLength.symm
  obtain ⟨c, hc⟩ := List.length_eq_one_iff.mp hSingle
  refine ⟨_, hStop, ?_⟩
  rw [hPieces, countedComponents_append hq, hc, List.dropLast_concat]
  conv_lhs => rw [hText, List.take_left, hFront]

theorem components_of_not_rooted {s : List Char} (h : isRooted s = false) :
    components (String.ofList s) = countedComponents true (pieces s) := by
  rw [components, String.toList_ofList, leading, h, countedComponents]
  simp

theorem components_cons_slash (s : List Char) :
    components (String.ofList ('/' :: s)) = .root :: countedComponents false (pieces s) := by
  rw [components, String.toList_ofList, pieces_cons_slash]
  rfl

theorem isRooted_take {s : List Char} (h : isRooted s = false) (n : Nat) :
    isRooted (s.take n) = false := by
  cases s with
  | nil => rwa [List.take_nil]
  | cons c rest =>
    cases n with
    | zero => rfl
    | succ n => exact h

theorem components_parent_of_not_rooted {s parent : List Char} (hRooted : isRooted s = false)
    (h : parent? (String.ofList s) = some (String.ofList parent)) :
    components (String.ofList parent) = (components (String.ofList s)).dropLast := by
  rw [components_of_not_rooted hRooted]
  have hCount := length_componentEnds 0 true (pieces s)
  simp only [parent?, String.toList_ofList, hRooted, Bool.false_eq_true, if_false] at h
  split at h
  next => cases h
  next last hEnds =>
    rw [← List.length_reverse, hEnds] at hCount
    obtain ⟨c, hc⟩ := List.length_eq_one_iff.mp hCount.symm
    rw [← Option.some.inj h, hc]
    rfl
  next last stop more hEnds =>
    have hCut : componentEnds 0 true (pieces s) = more.reverse ++ [stop, last] := by
      simpa using congrArg List.reverse hEnds
    obtain ⟨length, hStop, hTake⟩ := countedComponents_take hCut
    rw [Nat.zero_add] at hStop
    rw [← Option.some.inj h, hStop, components_of_not_rooted (isRooted_take hRooted length), hTake]

theorem components_parent_of_rooted {s parent : List Char}
    (h : parent? (String.ofList ('/' :: s)) = some (String.ofList parent)) :
    components (String.ofList parent) = (components (String.ofList ('/' :: s))).dropLast := by
  rw [components_cons_slash]
  have hCount := length_componentEnds 1 false (pieces s)
  have hRooted : isRooted ('/' :: s) = true := rfl
  simp only [parent?, String.toList_ofList, hRooted, if_true, List.drop_one, List.tail_cons] at h
  split at h
  next => cases h
  next => cases h
  next last stop more hEnds =>
    have hCut : 1 :: componentEnds 1 false (pieces s) = more.reverse ++ [stop, last] := by
      simpa using congrArg List.reverse hEnds
    rw [← Option.some.inj h]
    cases hMore : more.reverse with
    | nil =>
      rw [hMore] at hCut
      obtain ⟨rfl, hSingle⟩ := List.cons.inj hCut
      rw [hSingle] at hCount
      obtain ⟨c, hc⟩ := List.length_eq_one_iff.mp hCount.symm
      rw [hc, List.take_succ_cons, List.take_zero, components_cons_slash]
      rfl
    | cons _ front =>
      rw [hMore] at hCut
      obtain ⟨length, rfl, hTake⟩ := countedComponents_take (List.cons.inj hCut).2
      have hNonempty : countedComponents false (pieces s) ≠ [] := by
        rw [← List.length_pos_iff, ← hCount, (List.cons.inj hCut).2]
        simp
      rw [Nat.add_comm, List.take_succ_cons, components_cons_slash, hTake,
        List.dropLast_cons_of_ne_nil hNonempty]

/-- The parent of a path has all components of the path but the last. -/
theorem components_parent {path parent : String} (h : parent? path = some parent) :
    components parent = (components path).dropLast := by
  rw [← String.ofList_toList (s := path), ← String.ofList_toList (s := parent)] at h ⊢
  cases hRooted : isRooted path.toList with
  | false => exact components_parent_of_not_rooted hRooted h
  | true =>
    obtain ⟨rest, hRest⟩ := List.head?_eq_some_iff.mp (beq_iff_eq.mp hRooted)
    rw [hRest] at h ⊢
    exact components_parent_of_rooted h

/-- A path without a parent has no component, or is the root. -/
theorem dropLast_components_of_no_parent {path : String} (h : parent? path = none) :
    (components path).dropLast = [] := by
  rw [← String.ofList_toList (s := path)] at h ⊢
  cases hRooted : isRooted path.toList with
  | false =>
    rw [components_of_not_rooted hRooted]
    have hCount := length_componentEnds 0 true (pieces path.toList)
    simp only [parent?, String.toList_ofList, hRooted, Bool.false_eq_true, if_false] at h
    split at h
    next hEnds =>
      rw [← List.length_reverse, hEnds] at hCount
      rw [List.length_eq_zero_iff.mp hCount.symm, List.dropLast_nil]
    next => cases h
    next => cases h
  | true =>
    obtain ⟨rest, hRest⟩ := List.head?_eq_some_iff.mp (beq_iff_eq.mp hRooted)
    have hCount := length_componentEnds 1 false (pieces rest)
    have hStart : isRooted ('/' :: rest) = true := rfl
    rw [hRest, components_cons_slash]
    simp only [parent?, String.toList_ofList, hRest, hStart, if_true, List.drop_one,
      List.tail_cons] at h
    split at h
    next hEnds => simp at hEnds
    next hEnds =>
      have hOnly : componentEnds 1 false (pieces rest) = [] := by
        simpa using congrArg List.length hEnds
      rw [hOnly] at hCount
      rw [List.length_eq_zero_iff.mp hCount.symm, List.dropLast_singleton]
    next => cases h

end Boilerplate.Path
