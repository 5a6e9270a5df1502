import Mathlib.Data.List.Nodup
import Boilerplate.Catalog.Registry
import Boilerplate.Proofs.Data.Lookup
import Boilerplate.Proofs.Definition.Validity

/-! # Slots of a registry

The index makes a registry a list without repeated ids: to insert a definition is to replace the
first one with its id or to append it, and to get one is to look for the first with that id.
-/

namespace Boilerplate

section ReplaceOrAppend

variable {α : Type} {key : α → String} {a : α} {items : List α}

theorem replaceOrAppend_of_not_mem (h : key a ∉ items.map key) :
    replaceOrAppend key a items = items ++ [a] := by
  induction items with
  | nil => rfl
  | cons b rest ih =>
    rw [List.map_cons, List.mem_cons, not_or] at h
    rw [replaceOrAppend, if_neg (Ne.symm h.1), ih h.2, List.cons_append]

/-- Where the key has one slot only, the item goes there. -/
theorem replaceOrAppend_eq_set {slot : Nat} (hSlot : (items.map key)[slot]? = some (key a))
    (hOnly : ∀ i, (items.map key)[i]? = some (key a) → i = slot) :
    replaceOrAppend key a items = items.set slot a := by
  induction items generalizing slot with
  | nil => cases hSlot
  | cons b rest ih =>
    rw [replaceOrAppend]
    split
    next hFirst =>
      have hZero : slot = 0 := (hOnly 0 (congrArg some hFirst)).symm
      rw [hZero, List.set_cons_zero]
    next hFirst =>
      cases slot with
      | zero => exact absurd (Option.some.inj hSlot) hFirst
      | succ n =>
        rw [List.set_cons_succ, ih hSlot]
        intro i hi
        exact Nat.succ.inj (hOnly (i + 1) hi)

theorem map_replaceOrAppend (key : α → String) (a : α) (items : List α) :
    (replaceOrAppend key a items).map key =
      if key a ∈ items.map key then items.map key else items.map key ++ [key a] := by
  induction items with
  | nil => rfl
  | cons b rest ih =>
    rw [replaceOrAppend]
    split
    next hFirst => rw [List.map_cons, List.map_cons, hFirst, if_pos List.mem_cons_self]
    next hFirst =>
      rw [List.map_cons, ih, List.map_cons]
      simp only [List.mem_cons, Ne.symm hFirst, false_or]
      split <;> rfl

theorem find?_replaceOrAppend (key : α → String) (a : α) (items : List α) (k : String) :
    (replaceOrAppend key a items).find? (key · == k) =
      if key a = k then some a else items.find? (key · == k) := by
  induction items with
  | nil => by_cases hKey : key a = k <;> simp [replaceOrAppend, hKey]
  | cons b rest ih =>
    rw [replaceOrAppend]
    split
    next hFirst => by_cases hKey : key a = k <;> simp [hFirst, hKey]
    next hFirst =>
      by_cases hKey : key b = k
      · have hOther : key a ≠ k := by
          rintro rfl
          exact hFirst hKey
        simp [hKey, hOther]
      · rw [List.find?_cons_of_neg (by simpa using hKey), ih,
          List.find?_cons_of_neg (by simpa using hKey)]

theorem nodup_replaceOrAppend (h : (items.map key).Nodup) :
    ((replaceOrAppend key a items).map key).Nodup := by
  rw [map_replaceOrAppend]
  split
  next => exact h
  next hNew =>
    rw [List.nodup_append]
    refine ⟨h, List.nodup_singleton _, ?_⟩
    rintro k hk l hl rfl
    exact hNew (List.mem_singleton.mp hl ▸ hk)

end ReplaceOrAppend

namespace Registry

variable {r : Registry} {d : Definition}

theorem slot_unique {id : String} {i j : Nat} (hi : (r.definitions.map (·.id))[i]? = some id)
    (hj : (r.definitions.map (·.id))[j]? = some id) : i = j := by
  rw [← r.indexes] at hi hj
  rw [hi] at hj
  exact Option.some.inj hj

theorem nodup_ids (r : Registry) : r.ids.Nodup := by
  rw [List.nodup_iff_getElem?_ne_getElem?]
  intro i j hij hj hSame
  have hId := List.getElem?_eq_getElem hj
  exact Nat.ne_of_lt hij (slot_unique (hSame.trans hId) hId)

theorem index_eq_none_iff {id : String} : r.index.get? id = none ↔ id ∉ r.ids := by
  rw [Option.eq_none_iff_forall_ne_some, ids, List.mem_iff_getElem?, not_exists]
  simp only [ne_eq, r.indexes id]

theorem definitions_insert (r : Registry) (d : Definition) :
    (r.insert d).definitions = replaceOrAppend (·.id) d r.definitions := by
  rw [insert]
  split
  next slot hSlot =>
    have hAt := (r.indexes d.id slot).mp hSlot
    exact (replaceOrAppend_eq_set hAt fun i hi => slot_unique hi hAt).symm
  next hNew => exact (replaceOrAppend_of_not_mem (index_eq_none_iff.mp hNew)).symm

theorem categories_insert (r : Registry) (d : Definition) :
    (r.insert d).categories = r.categories := by
  rw [insert]
  split <;> rfl

theorem get_ok (hd : d ∈ r.definitions) : r.get d.id = .ok d := by
  obtain ⟨i, hBound, rfl⟩ := List.mem_iff_getElem.mp hd
  have hSlot : r.index.get? r.definitions[i].id = some i := by
    rw [r.indexes, List.getElem?_map, List.getElem?_eq_getElem hBound, Option.map_some]
  rw [get]
  split
  next slot hFound =>
    rw [hSlot, Option.some.injEq] at hFound
    subst hFound
    rfl
  next hNone =>
    rw [hSlot] at hNone
    cases hNone

theorem get_of_not_mem {id : String} (h : id ∉ r.ids) :
    r.get id = .error (.templateNotFound id) := by
  rw [get]
  split
  next slot hFound =>
    rw [index_eq_none_iff.mpr h] at hFound
    cases hFound
  next => rfl

theorem register_eq_ok_iff {r' : Registry} :
    r.register d = .ok r' ↔ d.validate = .ok () ∧ r' = r.insert d := by
  rw [register]
  cases d.validate with
  | error e =>
    constructor
    · intro h
      cases h
    · rintro ⟨h, _⟩
      cases h
  | ok =>
    constructor
    · intro h
      cases h
      exact ⟨rfl, rfl⟩
    · rintro ⟨_, rfl⟩
      rfl

/-- Valid definitions are all registered, each in the slot of its id. -/
theorem registerAll_valid {definitions : List Definition}
    (h : ∀ d ∈ definitions, d.validate = .ok ()) :
    r.registerAll definitions = (definitions.foldl insert r, .ok ()) := by
  induction definitions generalizing r with
  | nil => rfl
  | cons d rest ih =>
    rw [List.forall_mem_cons] at h
    rw [registerAll, register_eq_ok_iff.mpr ⟨h.1, rfl⟩]
    exact ih h.2

/-- Definitions with ids of their own are all added at the end. -/
theorem definitions_foldl_insert {definitions : List Definition}
    (hIds : ((r.definitions ++ definitions).map (·.id)).Nodup) :
    (definitions.foldl insert r).definitions = r.definitions ++ definitions := by
  induction definitions generalizing r with
  | nil => exact (List.append_nil _).symm
  | cons d rest ih =>
    have hNew : d.id ∉ r.definitions.map (·.id) := by
      rw [List.map_append, List.map_cons, List.nodup_append] at hIds
      intro hMem
      exact hIds.2.2 d.id hMem d.id List.mem_cons_self rfl
    have hInsert : (r.insert d).definitions = r.definitions ++ [d] := by
      rw [definitions_insert, replaceOrAppend_of_not_mem hNew]
    rw [List.append_cons, ← hInsert] at hIds ⊢
    exact ih hIds

theorem registerAll_ok {definitions : List Definition}
    (hValid : ∀ d ∈ definitions, d.validate = .ok ())
    (hIds : ((r.definitions ++ definitions).map (·.id)).Nodup) :
    (r.registerAll definitions).2 = .ok () ∧
      (r.registerAll definitions).1.definitions = r.definitions ++ definitions := by
  rw [registerAll_valid hValid]
  exact ⟨rfl, definitions_foldl_insert hIds⟩

end Registry

end Boilerplate
