import Boilerplate.Data.Dictionary

/-! # Ascending entries

In ascending entries a name stands once, so to look it up is to find its entry. A dictionary is
built anew from its own entries: each one comes after those that are there.
-/

namespace Boilerplate

variable {α : Type} {entries : List (String × α)}

namespace Dictionary

/-- A name that comes after all names of a dictionary is put at its end. -/
theorem insertEntry_of_later {name : String} {value : α} (h : ∀ p ∈ entries, p.1 < name) :
    insertEntry name value entries = entries ++ [(name, value)] := by
  induction entries with
  | nil => rfl
  | cons p rest ih =>
    rw [List.forall_mem_cons] at h
    have hBefore : ¬ name < p.1 := String.lt_asymm h.1
    have hOther : name ≠ p.1 := fun hSame => String.lt_irrefl name (hSame ▸ h.1)
    rw [insertEntry, if_neg hBefore, if_neg hOther, ih h.2, List.cons_append]

theorem entries_insertAll {d : Dictionary α} {pairs : List (String × α)}
    (h : Ascending (d.entries ++ pairs)) : (d.insertAll pairs).entries = d.entries ++ pairs := by
  induction pairs generalizing d with
  | nil => exact (List.append_nil _).symm
  | cons p rest ih =>
    have hLater : ∀ q ∈ d.entries, q.1 < p.1 :=
      fun q hq => (List.pairwise_append.mp h).2.2 q hq p List.mem_cons_self
    have hInsert : (d.insert p.1 p.2).entries = d.entries ++ [p] := insertEntry_of_later hLater
    rw [List.append_cons, ← hInsert] at h ⊢
    exact ih h

theorem ext {a b : Dictionary α} (h : a.entries = b.entries) : a = b := by
  cases a
  cases b
  cases h
  rfl

/-- The entries of a dictionary make it up again. -/
theorem ofList_entries (d : Dictionary α) : ofList d.entries = d :=
  ext (entries_insertAll (d := empty) d.ascending)

theorem get?_empty (name : String) : (∅ : Dictionary α).get? name = none :=
  rfl

/-- Of the pairs with a name the last one counts. -/
theorem get?_insertAll (d : Dictionary α) (pairs : List (String × α)) (name : String) :
    (d.insertAll pairs).get? name =
      ((pairs.reverse.find? (·.1 == name)).map (·.2)).or (d.get? name) := by
  induction pairs generalizing d with
  | nil => rfl
  | cons p rest ih =>
    have hStep : d.insertAll (p :: rest) = (d.insert p.1 p.2).insertAll rest := rfl
    rw [hStep, ih, get?_insert, List.reverse_cons, List.find?_append]
    cases rest.reverse.find? (·.1 == name) with
    | some q => rfl
    | none => by_cases hName : p.1 = name <;> simp [hName]

theorem get?_insertAll_entries (d other : Dictionary α) (name : String) :
    (d.insertAll other.entries).get? name = (other.get? name).or (d.get? name) := by
  have hOther := get?_insertAll ∅ other.entries name
  rw [get?_empty, Option.or_none] at hOther
  rw [get?_insertAll, ← hOther]
  exact congrArg (Option.or · _) (congrArg (get? · name) (ofList_entries other))

end Dictionary

end Boilerplate
