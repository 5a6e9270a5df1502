/-! # Agreement of two computations

Two computations agree when both fail, with related errors, or both have results, which are related.
-/

namespace Boilerplate

variable {ε δ α β α' β' : Type}

inductive Agree (E : ε → δ → Prop) (R : α → β → Prop) : Except ε α → Except δ β → Prop
  | error {e : ε} {d : δ} : E e d → Agree E R (.error e) (.error d)
  | ok {a : α} {b : β} : R a b → Agree E R (.ok a) (.ok b)

namespace Agree

variable {E : ε → δ → Prop} {R : α → β → Prop} {S : α' → β' → Prop} {x : Except ε α}
  {y : Except δ β}

theorem bind {f : α → Except ε α'} {g : β → Except δ β'} (h : Agree E R x y)
    (hNext : ∀ a b, R a b → Agree E S (f a) (g b)) : Agree E S (x >>= f) (y >>= g) := by
  cases h with
  | error hError => exact .error hError
  | ok hResult => exact hNext _ _ hResult

theorem map {f : α → α'} {g : β → β'} (h : Agree E R x y)
    (hResult : ∀ a b, R a b → S (f a) (g b)) : Agree E S (x.map f) (y.map g) := by
  cases h with
  | error hError => exact .error hError
  | ok hAgree => exact .ok (hResult _ _ hAgree)

theorem refl (x : Except ε α) : Agree Eq Eq x x := by
  cases x with
  | error => exact .error rfl
  | ok => exact .ok rfl

theorem exists_ok {a : α} (h : Agree E R x y) (hx : x = .ok a) : ∃ b, y = .ok b ∧ R a b := by
  cases h with
  | error => cases hx
  | ok hResult =>
    obtain rfl := Except.ok.inj hx
    exact ⟨_, rfl, hResult⟩

end Agree

end Boilerplate
