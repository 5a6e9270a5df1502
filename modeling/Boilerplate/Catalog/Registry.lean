import Boilerplate.Catalog.Category

/-!
# The registry

Definitions and categories in the order of their first registration. Registering an id again
replaces what is there and keeps its place.
-/

namespace Boilerplate

/-- Replaces the first item with the key of `a`, or adds `a` at the end. -/
def replaceOrAppend {α : Type} (key : α → String) (a : α) : List α → List α
  | [] => [a]
  | b :: rest => if key b = key a then a :: rest else b :: replaceOrAppend key a rest

/-- An index of definitions: it leads from each id to its slot, and from nothing else to a slot. So
no id has two slots. -/
def Indexes (index : Dictionary Nat) (definitions : List Definition) : Prop :=
  ∀ id slot, index.get? id = some slot ↔ (definitions.map (·.id))[slot]? = some id

namespace Indexes

variable {index : Dictionary Nat} {definitions : List Definition} {d : Definition} {slot : Nat}

theorem nil : Indexes ∅ [] := by
  intro id slot
  constructor
  · intro h
    cases h
  · intro h
    cases h

theorem lt_length (h : Indexes index definitions) {id : String}
    (hSlot : index.get? id = some slot) : slot < definitions.length := by
  obtain ⟨hBound, _⟩ := List.getElem?_eq_some_iff.mp ((h id slot).mp hSlot)
  rwa [List.length_map] at hBound

/-- A definition with the same id takes the slot. -/
theorem set (h : Indexes index definitions) (hSlot : index.get? d.id = some slot) :
    Indexes index (definitions.set slot d) := by
  have hIds : (definitions.set slot d).map (·.id) = definitions.map (·.id) := by
    obtain ⟨hBound, hId⟩ := List.getElem?_eq_some_iff.mp ((h d.id slot).mp hSlot)
    rw [List.map_set, ← hId, List.set_getElem_self]
  intro id i
  rw [h id i, hIds]

/-- A definition with a new id gets a slot at the end. -/
theorem append (h : Indexes index definitions) (hNew : index.get? d.id = none) :
    Indexes (index.insert d.id definitions.length) (definitions ++ [d]) := by
  intro id i
  have hLength : (definitions.map (·.id)).length = definitions.length := List.length_map ..
  rw [Dictionary.get?_insert, List.map_append, List.map_singleton]
  by_cases hId : d.id = id
  · subst hId
    rw [if_pos rfl, Option.some.injEq]
    constructor
    · rintro rfl
      rw [List.getElem?_append_right (Nat.le_of_eq hLength), hLength, Nat.sub_self]
      rfl
    · intro hAt
      rcases Nat.lt_or_ge i definitions.length with hLow | hHigh
      · rw [List.getElem?_append_left (hLength.symm ▸ hLow), ← h d.id i, hNew] at hAt
        cases hAt
      · obtain ⟨hBound, _⟩ := List.getElem?_eq_some_iff.mp hAt
        rw [List.length_append, hLength, List.length_singleton] at hBound
        omega
  · rw [if_neg hId, h id i]
    rcases Nat.lt_or_ge i definitions.length with hLow | hHigh
    · rw [List.getElem?_append_left (hLength.symm ▸ hLow)]
    · rw [List.getElem?_append_right (hLength.symm ▸ hHigh),
        List.getElem?_eq_none (hLength.symm ▸ hHigh), List.getElem?_singleton]
      split
      · simpa using hId
      · rfl

end Indexes

/-- Definitions in slots, found through an index. -/
structure Registry where
  definitions : List Definition
  index : Dictionary Nat
  categories : List Category
  indexes : Indexes index definitions

namespace Registry

def empty : Registry :=
  ⟨[], ∅, [], .nil⟩

/-- Puts a definition into the slot of its id, or into a new slot. -/
def insert (r : Registry) (d : Definition) : Registry :=
  match h : r.index.get? d.id with
  | some slot => ⟨r.definitions.set slot d, r.index, r.categories, r.indexes.set h⟩
  | none =>
    ⟨r.definitions ++ [d], r.index.insert d.id r.definitions.length, r.categories,
      r.indexes.append h⟩

/-- A definition that is not valid is refused. -/
def register (r : Registry) (d : Definition) : Except Error Registry :=
  d.validate.map fun _ => r.insert d

/-- Registers definitions in order up to the first that is refused. -/
def registerAll (r : Registry) : List Definition → Registry × Except Error Unit
  | [] => (r, .ok ())
  | d :: rest =>
    match r.register d with
    | .ok r => r.registerAll rest
    | .error e => (r, .error e)

def registerCategory (r : Registry) (c : Category) : Registry :=
  ⟨r.definitions, r.index, replaceOrAppend (·.id) c r.categories, r.indexes⟩

def ids (r : Registry) : List String :=
  r.definitions.map (·.id)

def size (r : Registry) : Nat :=
  r.definitions.length

def get (r : Registry) (id : String) : Except Error Definition :=
  match h : r.index.get? id with
  | some slot => .ok (r.definitions.get ⟨slot, r.indexes.lt_length h⟩)
  | none => .error (.templateNotFound id)

/-- Summaries in order of registration. -/
def list (r : Registry) : List Summary :=
  r.definitions.map (·.summary)

def listCategory (r : Registry) (category : String) : List Summary :=
  (r.definitions.filter (·.category == category)).map (·.summary)

/-- Categories by their order number, each with its definitions. Definitions whose category has no
record are left out. -/
def listCategories (r : Registry) : List CategoryListing :=
  (r.categories.mergeSort fun a b => a.order ≤ b.order).map fun c => ⟨c, r.listCategory c.id⟩

end Registry

end Boilerplate
