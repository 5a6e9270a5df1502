import Mathlib.Data.List.Induction
import Mathlib.Data.List.TakeWhile
import Boilerplate.Proofs.Catalog.Registry

/-! # Runs of registrations

After any run of registrations a registry shows a map in order of insertion: an id keeps the place
of the first definition that was accepted under it and shows the last one. The same holds of
categories.
-/

namespace Boilerplate

/-- What is left of a history of items if a key keeps its first place and its last item. -/
structure Latest {α : Type} (key : α → String) (history items : List α) : Prop where
  keys : items.map key = (history.map key).eraseDups
  last : ∀ k, items.find? (key · == k) = history.reverse.find? (key · == k)

theorem eraseDups_append_singleton (l : List String) (k : String) :
    (l ++ [k]).eraseDups = if k ∈ l then l.eraseDups else l.eraseDups ++ [k] := by
  rw [List.eraseDups_append]
  by_cases h : k ∈ l
  · have hKnown : [k].removeAll l = [] := by simp [List.removeAll, h]
    rw [hKnown, if_pos h, List.eraseDups_nil, List.append_nil]
  · have hNew : [k].removeAll l = [k] := by simp [List.removeAll, h]
    rw [hNew, if_neg h]
    rfl

namespace Latest

variable {α : Type} {key : α → String} {history items : List α}

theorem nil : Latest key [] [] :=
  ⟨rfl, fun _ => rfl⟩

theorem append (h : Latest key history items) (a : α) :
    Latest key (history ++ [a]) (replaceOrAppend key a items) where
  keys := by
    rw [map_replaceOrAppend, List.map_append, List.map_singleton, eraseDups_append_singleton,
      h.keys]
    simp only [List.mem_eraseDups]
  last k := by
    rw [find?_replaceOrAppend, h.last, List.reverse_append, List.reverse_singleton,
      List.singleton_append]
    by_cases hKey : key a = k
    · rw [if_pos hKey, List.find?_cons_of_pos (by simpa using hKey)]
    · rw [if_neg hKey, List.find?_cons_of_neg (by simpa using hKey)]

theorem find?_of_mem (h : Latest key history items) (hDistinct : (items.map key).Nodup) {a : α}
    (ha : a ∈ items) : history.reverse.find? (key · == key a) = some a := by
  rw [← h.last, find?_eq_some_of_nodup hDistinct ha]

/-- A list without repeated keys is what is left of itself. -/
theorem refl (h : (items.map key).Nodup) : Latest key items items := by
  induction items using List.reverseRec with
  | nil => exact .nil
  | append_singleton front a ih =>
    rw [List.map_append, List.nodup_append] at h
    have hNew : key a ∉ front.map key := fun hMem =>
      h.2.2 _ hMem _ (List.mem_singleton_self (key a)) rfl
    have hLatest := (ih h.1).append a
    rwa [replaceOrAppend_of_not_mem hNew] at hLatest

end Latest

inductive Registration
  | definition (d : Definition)
  | definitions (ds : List Definition)
  | category (c : Category)

namespace Registration

/-- The definitions that are accepted: of a row, those in front of the first that is not valid. -/
def accepted : Registration → List Definition
  | .definition d => if d.validate = .ok () then [d] else []
  | .definitions ds => ds.takeWhile fun d => d.validate = .ok ()
  | .category _ => []

def category? : Registration → Option Category
  | .definition _ => none
  | .definitions _ => none
  | .category c => some c

theorem validate_of_mem_accepted {step : Registration} {d : Definition} (h : d ∈ step.accepted) :
    d.validate = .ok () := by
  cases step with
  | definition e =>
    rw [accepted] at h
    split at h
    next hValid => exact List.mem_singleton.mp h ▸ hValid
    next => cases h
  | definitions ds =>
    rw [accepted] at h
    have hValid := List.mem_takeWhile_imp h
    exact of_decide_eq_true hValid
  | category c => cases h

end Registration

namespace Registry

/-- The registry after a registration, and how the registration ended. -/
def apply (r : Registry) : Registration → Registry × Except Error Unit
  | .definition d =>
    match r.register d with
    | .ok r' => (r', .ok ())
    | .error e => (r, .error e)
  | .definitions ds => r.registerAll ds
  | .category c => (r.registerCategory c, .ok ())

def run (r : Registry) (steps : List Registration) : Registry :=
  steps.foldl (fun r step => (r.apply step).1) r

/-- A registry that is what accepted definitions and recorded categories leave. -/
structure Reflects (r : Registry) (accepted : List Definition) (recorded : List Category) :
    Prop where
  definitions : Latest (·.id) accepted r.definitions
  categories : Latest (·.id) recorded r.categories
  distinct : (r.categories.map (·.id)).Nodup

variable {r : Registry} {accepted : List Definition} {recorded : List Category}

theorem Reflects.insert (h : r.Reflects accepted recorded) (d : Definition) :
    (r.insert d).Reflects (accepted ++ [d]) recorded where
  definitions := definitions_insert r d ▸ h.definitions.append d
  categories := categories_insert r d ▸ h.categories
  distinct := categories_insert r d ▸ h.distinct

theorem register_of_not_valid {d : Definition} {e : Error} (h : d.validate = .error e) :
    r.register d = .error e := by
  rw [register, h]
  rfl

theorem Reflects.registerAll (h : r.Reflects accepted recorded) (ds : List Definition) :
    (r.registerAll ds).1.Reflects
      (accepted ++ ds.takeWhile fun d => d.validate = .ok ()) recorded := by
  induction ds generalizing r accepted with
  | nil => rwa [List.takeWhile_nil, List.append_nil]
  | cons d rest ih =>
    rw [Registry.registerAll, List.takeWhile_cons]
    cases hValid : d.validate with
    | ok =>
      rw [register_eq_ok_iff.mpr ⟨hValid, rfl⟩]
      have hRest := ih (h.insert d)
      rwa [List.append_assoc] at hRest
    | error e =>
      rw [register_of_not_valid hValid]
      simpa using h

theorem Reflects.apply (h : r.Reflects accepted recorded) (step : Registration) :
    (r.apply step).1.Reflects (accepted ++ step.accepted) (recorded ++ step.category?.toList) := by
  cases step with
  | definition d =>
    rw [Registry.apply, Registration.accepted]
    cases hValid : d.validate with
    | ok =>
      rw [register_eq_ok_iff.mpr ⟨hValid, rfl⟩, if_pos rfl]
      simpa [Registration.category?] using h.insert d
    | error e =>
      rw [register_of_not_valid hValid, if_neg (by simp)]
      simpa [Registration.category?] using h
  | definitions ds =>
    rw [Registration.category?, Option.toList_none, List.append_nil]
    exact h.registerAll ds
  | category c =>
    rw [Registration.accepted, List.append_nil]
    exact ⟨h.definitions, h.categories.append c, nodup_replaceOrAppend h.distinct⟩

theorem Reflects.run (h : r.Reflects accepted recorded) (steps : List Registration) :
    (r.run steps).Reflects (accepted ++ steps.flatMap (·.accepted))
      (recorded ++ steps.filterMap (·.category?)) := by
  induction steps generalizing r accepted recorded with
  | nil => simpa [Registry.run] using h
  | cons step rest ih =>
    have hRest := ih (h.apply step)
    rw [List.append_assoc, List.append_assoc] at hRest
    cases hCategory : step.category? <;> simpa [hCategory, Registry.run] using hRest

theorem Reflects.empty : Registry.empty.Reflects [] [] :=
  ⟨.nil, .nil, List.nodup_nil⟩

theorem Reflects.get_eq (h : r.Reflects accepted recorded) (id : String) :
    r.get id =
      match accepted.reverse.find? (·.id == id) with
      | some d => .ok d
      | none => .error (.templateNotFound id) := by
  rw [← h.definitions.last]
  split
  next d hFound =>
    have hId : d.id = id := by simpa using List.find?_some hFound
    rw [← hId, get_ok (List.mem_of_find?_eq_some hFound)]
  next hNone =>
    apply get_of_not_mem
    intro hMem
    obtain ⟨d, hd, hId⟩ := List.mem_map.mp hMem
    exact List.find?_eq_none.mp hNone d hd (by simpa using hId)

theorem Reflects.mem_accepted (h : r.Reflects accepted recorded) {d : Definition}
    (hd : d ∈ r.definitions) : d ∈ accepted := by
  have hLast := h.definitions.find?_of_mem r.nodup_ids hd
  exact List.mem_reverse.mp (List.mem_of_find?_eq_some hLast)

theorem map_get_ids (r : Registry) :
    (r.ids.map fun id => (r.get id).map (·.summary)) = r.list.map .ok := by
  rw [ids, list, List.map_map, List.map_map]
  apply List.map_congr_left
  intro d hd
  rw [Function.comp_apply, get_ok hd]
  rfl

/-- A registry after a run shows each accepted id once, at its first place and with its last
definition, which is valid; each category likewise. A definition that is refused changes nothing. -/
theorem run_shows_latest (steps : List Registration) :
    let r := empty.run steps
    let accepted := steps.flatMap (·.accepted)
    let recorded := steps.filterMap (·.category?)
    (r.ids.Nodup ∧ r.ids = (accepted.map (·.id)).eraseDups) ∧
    (∀ id, r.get id =
      match accepted.reverse.find? (·.id == id) with
      | some d => .ok d
      | none => .error (.templateNotFound id)) ∧
    (r.ids.map fun id => (r.get id).map (·.summary)) = r.list.map .ok ∧
    (∀ category, r.listCategory category = r.list.filter (·.category == category)) ∧
    (∀ d ∈ r.definitions, d.validate = .ok ()) ∧
    (∀ d e, d.validate = .error e → r.apply (.definition d) = (r, .error e)) ∧
    (r.categories.map (·.id)).Nodup ∧
    r.categories.map (·.id) = (recorded.map (·.id)).eraseDups ∧
    ∀ c ∈ r.categories, recorded.reverse.find? (·.id == c.id) = some c := by
  intro r accepted recorded
  have h : r.Reflects accepted recorded := Reflects.empty.run steps
  refine ⟨⟨r.nodup_ids, h.definitions.keys⟩, h.get_eq, r.map_get_ids, ?_, ?_, ?_, h.distinct,
    h.categories.keys, ?_⟩
  · intro category
    rw [listCategory, list, List.filter_map]
    rfl
  · intro d hd
    obtain ⟨step, _, hAccepted⟩ := List.mem_flatMap.mp (h.mem_accepted hd)
    exact Registration.validate_of_mem_accepted hAccepted
  · intro d e hFault
    rw [Registry.apply, register_of_not_valid hFault]
  · intro c hc
    exact h.categories.find?_of_mem h.distinct hc

/-- `a` is replaced in a row that fails after it, `b` is refused a second time, and the record of a
category is replaced. -/
theorem run_overwrites_and_refuses :
    let definition := fun id name category => Definition.mk id name "" category "1.0.0"
      [⟨"f", "f", "x", "text"⟩] [] ∅
    let ci : Category := ⟨"cicd", "CI/CD", "", "", 3⟩
    let security : Category := ⟨"security", "Security", "", "", 2⟩
    let steps : List Registration := [.definition (definition "a" "A" "cicd"),
      .category { ci with name := "CI" },
      .definitions [definition "b" "B" "cicd", definition "a" "A2" "security",
        definition "" "C" "cicd", definition "c" "C" "cicd"],
      .category security, .definition (definition "b" "" "cicd"), .category ci]
    let r := empty.run steps
    r.ids = ["a", "b"] ∧ r.get "a" = .ok (definition "a" "A2" "security") ∧
      r.get "c" = .error (.templateNotFound "c") ∧
      r.apply (.definition (definition "b" "" "cicd")) =
        (r, .error (.invalidDefinition "b" "name is empty")) ∧
      r.categories.map (·.id) = ["cicd", "security"] ∧ ci ∈ r.categories := by
  intro definition ci security steps r
  obtain ⟨⟨_, hIds⟩, hGet, _, _, _, hRefused, _, hCategories, hLast⟩ := run_shows_latest steps
  have hCategoryIds : r.categories.map (·.id) = ["cicd", "security"] := by
    rw [hCategories]
    decide +kernel
  refine ⟨?_, ?_, ?_, hRefused _ _ (by decide +kernel), hCategoryIds, ?_⟩
  · rw [hIds]
    decide +kernel
  · rw [hGet]
    decide +kernel
  · rw [hGet]
    decide +kernel
  · have hMem : "cicd" ∈ r.categories.map (·.id) := by
      rw [hCategoryIds]
      exact List.mem_cons_self
    obtain ⟨c, hc, hId⟩ := List.mem_map.mp hMem
    have hFound : some ci = some c := by
      rw [← hLast c hc, hId]
      decide +kernel
    exact Option.some.inj hFound ▸ hc

end Registry

end Boilerplate
