import Rustation.Lib.Outcome

/-!
Two computations that do the same up to a relation between their values.

* `Related R x y`: both return, with values that `R` relates, or both stop with
  the same fault;
* `Related.bind`: the rule of sequencing, `Related.mono` the rule of
  consequence.
-/

namespace Fallible

variable {α β γ δ : Type}

/-- Both return, with related values, or both stop with the same fault. -/
inductive Related (R : α → β → Prop) : Outcome α → Outcome β → Prop where
  | ok {a : α} {b : β} (h : R a b) : Related R (.ok a) (.ok b)
  | error (e : Fault) : Related R (.error e) (.error e)

variable {R : α → β → Prop} {S : γ → δ → Prop}

lemma Related.refl {R : α → α → Prop} (hR : ∀ a, R a a) (x : Outcome α) : Related R x x := by
  cases x with
  | ok a => exact .ok (hR a)
  | error e => exact .error e

lemma Related.of_eq {R : α → α → Prop} (hR : ∀ a, R a a) {x y : Outcome α} (h : x = y) :
    Related R x y := h ▸ .refl hR x

/-- The rule of sequencing. -/
lemma Related.bind {x : Outcome α} {y : Outcome β} {f : α → Outcome γ} {g : β → Outcome δ}
    (h : Related R x y) (hf : ∀ a b, R a b → Related S (f a) (g b)) :
    Related S (x >>= f) (y >>= g) := by
  cases h with
  | ok hab => exact hf _ _ hab
  | error e => exact .error e

/-- The rule of consequence. -/
lemma Related.mono {R' : α → β → Prop} {x : Outcome α} {y : Outcome β} (h : Related R x y)
    (hR : ∀ a b, R a b → R' a b) : Related R' x y := by
  cases h with
  | ok hab => exact .ok (hR _ _ hab)
  | error e => exact .error e

/-- What two computations that return leave is related. -/
lemma Related.of_ok {x : Outcome α} {y : Outcome β} {a : α} {b : β} (h : Related R x y)
    (hx : x = .ok a) (hy : y = .ok b) : R a b := by
  subst hx hy
  cases h with
  | ok hab => exact hab

/-- A fact about what the first computation returns. -/
lemma Related.and_left {P : α → Prop} {x : Outcome α} {y : Outcome β} (h : Related R x y)
    (hP : ∀ a, x = .ok a → P a) : Related (fun a b => P a ∧ R a b) x y := by
  cases h with
  | ok hab => exact .ok ⟨hP _ rfl, hab⟩
  | error e => exact .error e

lemma Related.symm {R' : β → α → Prop} {x : Outcome α} {y : Outcome β} (h : Related R x y)
    (hR : ∀ a b, R a b → R' b a) : Related R' y x := by
  cases h with
  | ok hab => exact .ok (hR _ _ hab)
  | error e => exact .error e

lemma Related.trans {R' : β → γ → Prop} {S : α → γ → Prop} {x : Outcome α} {y : Outcome β}
    {z : Outcome γ} (h : Related R x y) (h' : Related R' y z)
    (hS : ∀ a b c, R a b → R' b c → S a c) : Related S x z := by
  cases h with
  | ok hab =>
      cases h' with
      | ok hbc => exact .ok (hS _ _ _ hab hbc)
  | error e =>
      cases h'
      exact .error e

end Fallible
