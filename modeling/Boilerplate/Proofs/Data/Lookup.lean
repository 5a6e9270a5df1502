/-! # Lookup by name

Where names are distinct, an item is found under its name.
-/

namespace Boilerplate

variable {α : Type}

theorem find?_eq_some_of_nodup {key : α → String} {items : List α} (h : (items.map key).Nodup)
    {a : α} (ha : a ∈ items) : items.find? (key · == key a) = some a := by
  induction items with
  | nil => cases ha
  | cons b rest ih =>
    rw [List.map_cons, List.nodup_cons] at h
    rcases List.mem_cons.mp ha with rfl | ha
    · exact List.find?_cons_of_pos (beq_self_eq_true (key a))
    · have hOther : key b ≠ key a := by
        intro hSame
        exact h.1 (hSame ▸ List.mem_map_of_mem ha)
      rw [List.find?_cons_of_neg (by simpa using hOther), ih h.2 ha]

theorem filter_eq_toList_find? {key : α → String} {items : List α} (h : (items.map key).Nodup)
    (name : String) :
    items.filter (key · == name) = (items.find? (key · == name)).toList := by
  induction items with
  | nil => rfl
  | cons b rest ih =>
    rw [List.map_cons, List.nodup_cons] at h
    by_cases hName : key b = name
    · have hRest : rest.filter (key · == name) = [] := by
        rw [List.filter_eq_nil_iff]
        intro a ha hSame
        exact h.1 (List.mem_map.mpr ⟨a, ha, (beq_iff_eq.mp hSame).trans hName.symm⟩)
      rw [List.filter_cons_of_pos (by simpa using hName), hRest,
        List.find?_cons_of_pos (by simpa using hName), Option.toList_some]
    · rw [List.filter_cons_of_neg (by simpa using hName), ih h.2,
        List.find?_cons_of_neg (by simpa using hName)]

/-- An item that stands for a row under one name only leaves the row once. -/
theorem flatMap_of_nodup {β : Type} {key : α → String} {items : List α}
    (h : (items.map key).Nodup) (name : String) (row : List β) :
    (items.flatMap fun a => if key a = name then row else []) =
      if name ∈ items.map key then row else [] := by
  induction items with
  | nil => rfl
  | cons b rest ih =>
    rw [List.map_cons, List.nodup_cons] at h
    rw [List.flatMap_cons, ih h.2, List.map_cons]
    by_cases hName : key b = name
    · rw [if_pos hName, if_neg (hName ▸ h.1), List.append_nil, if_pos (hName ▸ List.mem_cons_self)]
    · simp only [List.mem_cons, Ne.symm hName, hName, if_false, false_or, List.nil_append]

/-- What is found under a name does not depend on the order. -/
theorem find?_eq_of_perm {key : α → String} {items others : List α} (hPerm : items.Perm others)
    (h : (items.map key).Nodup) (name : String) :
    items.find? (key · == name) = others.find? (key · == name) := by
  have hOthers : (others.map key).Nodup := (hPerm.map key).nodup h
  cases hFound : items.find? (key · == name) with
  | some a =>
    have hName : key a = name := by simpa using List.find?_some hFound
    have hMem : a ∈ others := hPerm.mem_iff.mp (List.mem_of_find?_eq_some hFound)
    rw [← hName, find?_eq_some_of_nodup hOthers hMem]
  | none =>
    rw [List.find?_eq_none] at hFound
    symm
    rw [List.find?_eq_none]
    exact fun a ha => hFound a (hPerm.mem_iff.mpr ha)

end Boilerplate
