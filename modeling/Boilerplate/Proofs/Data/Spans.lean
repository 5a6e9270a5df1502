/-! # Spans

A row that has a property as far as its front reaches is split there by the property.
-/

namespace Boilerplate

variable {α : Type} {p : α → Bool} {front rest : List α}

theorem takeWhile_eq_nil_of_head? (h : ∀ a ∈ rest.head?, p a = false) : rest.takeWhile p = [] := by
  cases rest with
  | nil => rfl
  | cons a rest =>
    have hFirst : p a = false := h a rfl
    rw [List.takeWhile_cons_of_neg (by simp [hFirst])]

theorem takeWhile_append_of_stop (hFront : ∀ a ∈ front, p a = true)
    (hRest : ∀ a ∈ rest.head?, p a = false) : (front ++ rest).takeWhile p = front := by
  rw [List.takeWhile_append_of_pos hFront, takeWhile_eq_nil_of_head? hRest, List.append_nil]

theorem dropWhile_append_of_stop (hFront : ∀ a ∈ front, p a = true)
    (hRest : ∀ a ∈ rest.head?, p a = false) : (front ++ rest).dropWhile p = rest := by
  have hSplit := List.takeWhile_append_dropWhile (p := p) (l := front ++ rest)
  rw [takeWhile_append_of_stop hFront hRest] at hSplit
  exact List.append_cancel_left hSplit

theorem eq_false_of_head?_dropWhile : ∀ a ∈ (rest.dropWhile p).head?, p a = false := by
  intro a ha
  have hStop := List.head?_dropWhile_not p rest
  rw [Option.mem_def.mp ha] at hStop
  exact hStop

end Boilerplate
