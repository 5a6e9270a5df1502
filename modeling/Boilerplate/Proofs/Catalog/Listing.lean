import Boilerplate.Proofs.Catalog.Registration

/-! # Listings of categories

The listing of a registry goes through its categories by their order numbers; categories with the
same number stand as they were first recorded. After any run of registrations each recorded category
is listed once. A definition is listed once, in its category, or not at all if that has no record.
-/

namespace Boilerplate

namespace Category

/-- Whether `a` is listed in front of `b`, where `ids` is the order in which ids were recorded. -/
def Precedes (ids : List String) (a b : Category) : Prop :=
  a.order < b.order ∨ a.order = b.order ∧ [a.id, b.id].Sublist ids

def inOrder (cs : List Category) : List Category :=
  cs.mergeSort fun a b => a.order ≤ b.order

variable {cs : List Category}

theorem inOrder_perm (cs : List Category) : (inOrder cs).Perm cs :=
  List.mergeSort_perm _ _

theorem order_trans (a b c : Category) (hab : decide (a.order ≤ b.order) = true)
    (hbc : decide (b.order ≤ c.order) = true) : decide (a.order ≤ c.order) = true := by
  rw [decide_eq_true_eq] at hab hbc ⊢
  exact UInt32.le_trans hab hbc

theorem order_total (a b : Category) :
    (decide (a.order ≤ b.order) || decide (b.order ≤ a.order)) = true := by
  simpa using UInt32.le_total a.order b.order

/-- Categories with the same order number keep their places among themselves. -/
theorem filter_inOrder (cs : List Category) (n : UInt32) :
    (inOrder cs).filter (·.order = n) = cs.filter (·.order = n) := by
  have hSame : (cs.filter (·.order = n)).Pairwise fun a b => decide (a.order ≤ b.order) = true := by
    refine List.pairwise_of_forall_mem_list fun a ha b hb => ?_
    have hOrder : a.order = b.order := by
      rw [of_decide_eq_true (List.mem_filter.mp ha).2, of_decide_eq_true (List.mem_filter.mp hb).2]
    rw [hOrder]
    exact decide_eq_true (UInt32.le_refl _)
  have hSub : (cs.filter (·.order = n)).Sublist (inOrder cs) :=
    List.sublist_mergeSort order_trans order_total hSame List.filter_sublist
  have hBoth := hSub.filter (·.order = n)
  simp only [List.filter_filter, Bool.and_self] at hBoth
  exact (hBoth.eq_of_length ((inOrder_perm cs).filter _).length_eq.symm).symm

theorem pairwise_inOrder (cs : List Category) :
    (inOrder cs).Pairwise (Precedes (cs.map (·.id))) := by
  rw [List.pairwise_iff_forall_sublist]
  intro a b hPair
  have hSorted := List.pairwise_mergeSort order_trans order_total cs
  have hLe : a.order ≤ b.order :=
    of_decide_eq_true (List.pairwise_iff_forall_sublist.mp hSorted hPair)
  rcases UInt32.lt_or_eq_of_le hLe with hLess | hTie
  · exact .inl hLess
  · have hKept := hPair.filter (·.order = b.order)
    rw [filter_inOrder] at hKept
    have hInside : [a, b].Sublist cs := by
      simpa [hTie] using hKept.trans List.filter_sublist
    exact .inr ⟨hTie, hInside.map Category.id⟩

end Category

namespace Registry

variable {r : Registry} {accepted : List Definition} {recorded : List Category}

theorem map_category_listCategories (r : Registry) :
    r.listCategories.map (·.category) = Category.inOrder r.categories := by
  rw [listCategories, List.map_map]
  exact List.map_id _

theorem templates_listCategories (r : Registry) :
    r.listCategories.flatMap (·.templates) =
      (Category.inOrder r.categories).flatMap fun c => r.listCategory c.id := by
  rw [listCategories, List.flatMap_map]
  rfl

/-- A category shows the definition of an id if that belongs to the category. -/
theorem filter_listCategory (r : Registry) (category id : String) :
    (r.listCategory category).filter (·.id == id) =
      match r.definitions.find? (·.id == id) with
      | some d => if category = d.category then [d.summary] else []
      | none => [] := by
  have hIds : r.definitions.filter (·.id == id) = (r.definitions.find? (·.id == id)).toList :=
    filter_eq_toList_find? r.nodup_ids id
  rw [listCategory, List.filter_map]
  change ((r.definitions.filter (·.category == category)).filter (·.id == id)).map _ = _
  rw [List.filter_comm, hIds]
  cases r.definitions.find? (·.id == id) with
  | none => rfl
  | some d => by_cases hCategory : category = d.category <;> simp [hCategory, Ne.symm]

namespace Reflects

theorem nodup_inOrder (h : r.Reflects accepted recorded) :
    ((Category.inOrder r.categories).map (·.id)).Nodup :=
  ((Category.inOrder_perm r.categories).map (·.id)).nodup_iff.mpr h.distinct

theorem find?_inOrder (h : r.Reflects accepted recorded) (id : String) :
    (Category.inOrder r.categories).find? (·.id == id) = recorded.reverse.find? (·.id == id) := by
  rw [find?_eq_of_perm (Category.inOrder_perm r.categories) h.nodup_inOrder, h.categories.last]

theorem mem_inOrder_iff (h : r.Reflects accepted recorded) (id : String) :
    id ∈ (Category.inOrder r.categories).map (·.id) ↔ id ∈ recorded.map (·.id) := by
  rw [((Category.inOrder_perm r.categories).map (·.id)).mem_iff, h.categories.keys,
    List.mem_eraseDups]

theorem filter_templates (h : r.Reflects accepted recorded) (id : String) :
    (r.listCategories.flatMap (·.templates)).filter (·.id == id) =
      match accepted.reverse.find? (·.id == id) with
      | some d => if d.category ∈ recorded.map (·.id) then [d.summary] else []
      | none => [] := by
  rw [templates_listCategories, List.filter_flatMap]
  simp only [filter_listCategory, h.definitions.last]
  cases accepted.reverse.find? (·.id == id) with
  | none => exact List.flatMap_eq_nil_iff.mpr fun _ _ => rfl
  | some d =>
    rw [flatMap_of_nodup h.nodup_inOrder]
    simp only [h.mem_inOrder_iff]

end Reflects

/-- After a run of registrations each recorded category is listed once, with its last record; the
order is that of the numbers, and of the first records where these are equal. Over all listings an
id shows its last accepted definition once if the category of that has a record, and is not shown
otherwise. It is shown in its category, in the order of registration. -/
theorem listCategories_partition (steps : List Registration) :
    let accepted := steps.flatMap (·.accepted)
    let recorded := steps.filterMap (·.category?)
    let listings := (empty.run steps).listCategories
    let shown := listings.map (·.category)
    (shown.map (·.id)).Nodup ∧
    (∀ id, shown.find? (·.id == id) = recorded.reverse.find? (·.id == id)) ∧
    shown.Pairwise (Category.Precedes (recorded.map (·.id)).eraseDups) ∧
    (∀ id, (listings.flatMap (·.templates)).filter (·.id == id) =
      match accepted.reverse.find? (·.id == id) with
      | some d => if d.category ∈ recorded.map (·.id) then [d.summary] else []
      | none => []) ∧
    ∀ l ∈ listings, (∀ s ∈ l.templates, s.category = l.category.id) ∧
      (l.templates.map (·.id)).Sublist (accepted.map (·.id)).eraseDups := by
  intro accepted recorded listings shown
  have h : (empty.run steps).Reflects accepted recorded := Reflects.empty.run steps
  have hShown : shown = Category.inOrder (empty.run steps).categories :=
    map_category_listCategories _
  refine ⟨hShown ▸ h.nodup_inOrder, fun id => ?_, ?_, h.filter_templates, fun l hl => ?_⟩
  · rw [hShown, h.find?_inOrder]
  · rw [hShown, ← h.categories.keys]
    exact Category.pairwise_inOrder _
  · obtain ⟨c, _, rfl⟩ := List.mem_map.mp hl
    constructor
    · intro s hs
      obtain ⟨d, hd, rfl⟩ := List.mem_map.mp hs
      exact beq_iff_eq.mp (List.mem_filter.mp hd).2
    · rw [← h.definitions.keys, listCategory, List.map_map]
      exact List.filter_sublist.map Definition.id

/-- A new record moves `cicd` down to the number of `security`, a new definition moves `a` from the
one to the other, and `b` has no category that is listed. -/
theorem listCategories_partition_moved :
    let definition := fun id category => Definition.mk id id "" category "1.0.0"
      [⟨"f", "f", "x", "text"⟩] [] ∅
    let ci : Category := ⟨"cicd", "CI/CD", "", "", 2⟩
    let security : Category := ⟨"security", "Security", "", "", 2⟩
    let steps : List Registration := [.category security, .category { ci with order := 1 },
      .definition (definition "a" "cicd"), .definition (definition "b" "orphan"),
      .definition (definition "c" "security"), .definition (definition "a" "security"),
      .category ci]
    let shownLast : CategoryListing := ⟨ci, []⟩
    let shownFirst : CategoryListing :=
      ⟨security, [(definition "a" "security").summary, (definition "c" "security").summary]⟩
    let listings := (empty.run steps).listCategories
    listings = [shownFirst, shownLast] ∧ Category.Precedes ["security", "cicd"] security ci ∧
      (listings.flatMap (·.templates)).filter (·.id == "a") =
        [(definition "a" "security").summary] ∧
      (listings.flatMap (·.templates)).filter (·.id == "b") = [] ∧
      shownFirst ∈ listings ∧ (shownFirst.templates.map (·.id)).Sublist ["a", "b", "c"] := by
  intro definition ci security steps shownLast shownFirst listings
  have hListings : listings = [shownFirst, shownLast] := by
    have hCategories : (empty.run steps).categories = [security, ci] := by decide +kernel
    change (empty.run steps).listCategories = _
    rw [listCategories, hCategories, List.mergeSort_of_pairwise (by decide)]
    decide +kernel
  obtain ⟨_, _, hOrder, hShown, hEach⟩ := listCategories_partition steps
  have hFirst : shownFirst ∈ listings := hListings ▸ List.mem_cons_self
  refine ⟨hListings, ?_, ?_, ?_, hFirst, ?_⟩
  · have hPair : [security, ci].Sublist (listings.map (·.category)) := by
      rw [hListings]
      exact List.Sublist.refl _
    exact List.pairwise_iff_forall_sublist.mp hOrder hPair
  · rw [hShown]
    decide +kernel
  · rw [hShown]
    decide +kernel
  · exact (hEach shownFirst hFirst).2.trans (by decide +kernel)

end Registry

end Boilerplate
