/-!
# Dictionaries

A finite map from names to values, kept in ascending order of the names. The order makes two
dictionaries with the same bindings equal, and it is the order in which bindings are shown.
-/

namespace Boilerplate

variable {α β : Type}

def Ascending (entries : List (String × α)) : Prop :=
  entries.Pairwise fun a b => a.1 < b.1

structure Dictionary (α : Type) where
  entries : List (String × α)
  ascending : Ascending entries

namespace Dictionary

instance [DecidableEq α] : DecidableEq (Dictionary α) := fun a b =>
  if h : a.entries = b.entries then
    .isTrue (by cases a; cases b; cases h; rfl)
  else .isFalse fun e => h (e ▸ rfl)

def empty : Dictionary α :=
  ⟨[], List.Pairwise.nil⟩

instance : EmptyCollection (Dictionary α) := ⟨empty⟩

instance : Inhabited (Dictionary α) := ⟨empty⟩

def insertEntry (name : String) (value : α) : List (String × α) → List (String × α)
  | [] => [(name, value)]
  | (n, v) :: rest =>
    if name < n then (name, value) :: (n, v) :: rest
    else if name = n then (name, value) :: rest
    else (n, v) :: insertEntry name value rest

theorem name_mem_insertEntry {name : String} {value : α} {entries : List (String × α)}
    {p : String × α} (h : p ∈ insertEntry name value entries) : p.1 = name ∨ p ∈ entries := by
  induction entries with
  | nil => simp_all [insertEntry]
  | cons e rest ih =>
    obtain ⟨n, v⟩ := e
    simp only [insertEntry] at h
    split at h
    · rcases List.mem_cons.1 h with rfl | h
      · exact .inl rfl
      · exact .inr h
    · split at h
      · rcases List.mem_cons.1 h with rfl | h
        · exact .inl rfl
        · exact .inr (List.mem_cons_of_mem _ h)
      · rcases List.mem_cons.1 h with rfl | h
        · exact .inr List.mem_cons_self
        · exact (ih h).imp_right (List.mem_cons_of_mem _)

theorem ascending_insertEntry (name : String) (value : α) {entries : List (String × α)}
    (h : Ascending entries) : Ascending (insertEntry name value entries) := by
  induction entries with
  | nil => simp [insertEntry, Ascending]
  | cons e rest ih =>
    obtain ⟨n, v⟩ := e
    obtain ⟨hn, hrest⟩ := List.pairwise_cons.1 h
    simp only [insertEntry]
    split
    · rename_i hlt
      refine List.pairwise_cons.2 ⟨fun p hp => ?_, h⟩
      rcases List.mem_cons.1 hp with rfl | hp
      · exact hlt
      · exact String.lt_trans hlt (hn p hp)
    · split
      · rename_i heq
        subst heq
        exact List.pairwise_cons.2 ⟨hn, hrest⟩
      · rename_i hnlt hne
        refine List.pairwise_cons.2 ⟨fun p hp => ?_, ih hrest⟩
        rcases name_mem_insertEntry hp with hp | hp
        · rw [hp]
          exact Std.lt_of_le_of_ne (Std.not_lt.1 hnlt) (Ne.symm hne)
        · exact hn p hp

def insert (d : Dictionary α) (name : String) (value : α) : Dictionary α :=
  ⟨insertEntry name value d.entries, ascending_insertEntry name value d.ascending⟩

def get? (d : Dictionary α) (name : String) : Option α :=
  (d.entries.find? (·.1 == name)).map (·.2)

theorem find?_insertEntry (name other : String) (value : α) (entries : List (String × α)) :
    (insertEntry name value entries).find? (·.1 == other) =
      if name = other then some (name, value) else entries.find? (·.1 == other) := by
  induction entries with
  | nil => by_cases hName : name = other <;> simp [insertEntry, hName]
  | cons e rest ih =>
    obtain ⟨n, v⟩ := e
    rw [insertEntry]
    split
    · by_cases hName : name = other <;> simp [hName]
    · split
      next hSame => by_cases hName : name = other <;> simp [← hSame, hName]
      next hDiffer =>
        by_cases hFirst : n = other
        · have hName : name ≠ other := by
            rintro rfl
            exact hDiffer hFirst.symm
          simp [hFirst, hName]
        · rw [List.find?_cons_of_neg (by simpa using hFirst), ih,
            List.find?_cons_of_neg (by simpa using hFirst)]

theorem get?_insert (d : Dictionary α) (name other : String) (value : α) :
    (d.insert name value).get? other = if name = other then some value else d.get? other := by
  rw [get?, insert, find?_insertEntry]
  split <;> rfl

def contains (d : Dictionary α) (name : String) : Bool :=
  (d.get? name).isSome

def keys (d : Dictionary α) : List String :=
  d.entries.map (·.1)

def insertAll (d : Dictionary α) (pairs : List (String × α)) : Dictionary α :=
  pairs.foldl (fun d p => d.insert p.1 p.2) d

/-- Of several pairs with one name the last counts. -/
def ofList (pairs : List (String × α)) : Dictionary α :=
  empty.insertAll pairs

end Dictionary

end Boilerplate
