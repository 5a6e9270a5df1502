import Mathlib.Data.List.Forall2

/-! # Rows of related items -/

namespace Boilerplate

variable {α β : Type} {R : α → β → Prop} {l : List α} {m : List β}

theorem exists_forall₂ (h : ∀ a ∈ l, ∃ b, R a b) : ∃ m, List.Forall₂ R l m := by
  induction l with
  | nil => exact ⟨[], .nil⟩
  | cons a rest ih =>
    rw [List.forall_mem_cons] at h
    obtain ⟨b, hFirst⟩ := h.1
    obtain ⟨bs, hRest⟩ := ih h.2
    exact ⟨b :: bs, .cons hFirst hRest⟩

theorem exists_mem_left (h : List.Forall₂ R l m) : ∀ a ∈ l, ∃ b ∈ m, R a b := by
  induction h with
  | nil => exact List.forall_mem_nil _
  | cons hFirst _ ih =>
    refine List.forall_mem_cons.mpr ⟨⟨_, List.mem_cons_self, hFirst⟩, ?_⟩
    intro a ha
    obtain ⟨b, hb, hRelated⟩ := ih a ha
    exact ⟨b, List.mem_cons_of_mem _ hb, hRelated⟩

theorem exists_mem_right (h : List.Forall₂ R l m) : ∀ b ∈ m, ∃ a ∈ l, R a b :=
  exists_mem_left h.flip

theorem exists_getLast? (h : List.Forall₂ R l m) {a : α} (ha : l.getLast? = some a) :
    ∃ b, m.getLast? = some b ∧ R a b := by
  obtain ⟨front, rfl⟩ := List.getLast?_eq_some_iff.mp ha
  have hReversed := List.forall₂_reverse_iff.mpr h
  rw [List.reverse_append, List.reverse_singleton, List.singleton_append,
    List.forall₂_cons_left_iff] at hReversed
  obtain ⟨b, rest, hHead, _, hLast⟩ := hReversed
  refine ⟨b, ?_, hHead⟩
  rw [List.getLast?_eq_head?_reverse, hLast]
  rfl

/-- What holds between items of the one row holds between the related items of the other. -/
theorem pairwise_of_forall₂ {S : α → α → Prop} {T : β → β → Prop} (h : List.Forall₂ R l m)
    (hPairs : l.Pairwise S) (hStep : ∀ a c b d, S a c → R a b → R c d → T b d) :
    m.Pairwise T := by
  induction h with
  | nil => exact .nil
  | @cons a b l m hFirst hRest ih =>
    rw [List.pairwise_cons] at hPairs ⊢
    refine ⟨?_, ih hPairs.2⟩
    intro d hd
    obtain ⟨c, hc, hRelated⟩ := exists_mem_right hRest d hd
    exact hStep a c b d (hPairs.1 c hc) hFirst hRelated

theorem exists_mapM_iff {f : α → Option β} :
    (∃ results, l.mapM f = some results) ↔ ∀ a ∈ l, ∃ b, f a = some b := by
  induction l with
  | nil => exact ⟨fun _ => List.forall_mem_nil _, fun _ => ⟨[], rfl⟩⟩
  | cons a rest ih =>
    simp only [List.forall_mem_cons, ← ih, List.mapM_cons, Option.bind_eq_bind,
      Option.bind_eq_some_iff]
    constructor
    · rintro ⟨_, b, hFirst, bs, hRest, _⟩
      exact ⟨⟨b, hFirst⟩, bs, hRest⟩
    · rintro ⟨⟨b, hFirst⟩, bs, hRest⟩
      exact ⟨b :: bs, b, hFirst, bs, hRest, rfl⟩

/-- What undoes a function item by item undoes it on a whole row. -/
theorem mapM_map_eq_some {f : α → β} {g : β → Option α} (h : ∀ a ∈ l, g (f a) = some a) :
    (l.map f).mapM g = some l := by
  induction l with
  | nil => rfl
  | cons a rest ih =>
    rw [List.forall_mem_cons] at h
    rw [List.map_cons, List.mapM_cons, h.1, ih h.2]
    rfl

end Boilerplate
