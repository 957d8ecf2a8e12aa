import Mathlib.Tactic

/-!
Computations that may stop before they return.

A fallible function returns `Outcome α`: either its value or the `Fault` that
stopped it.  The faults keep apart what a caller may want to rule out
separately: a deliberate panic, a failed assertion, a match arm declared
unreachable, an unwrapped `None`, an index outside its array, an arithmetic
overflow, and a bounded loop that ran out of fuel.

* `bind_eq_ok`: inversion of a sequenced computation, the lemma proofs about
  returned values peel the steps with;
* `Post E x Q`: the computation `x` returns a value with `Q` or stops with a
  fault that `E` allows.  `post_bind` is the rule for sequencing, `Post.mono`
  the rule of consequence, and `post_ite` follows a branch.
-/

namespace Fallible

/-- Why a computation stopped. -/
inductive Fault where
  /-- a deliberate panic, with its message -/
  | panic (msg : String)
  /-- a failed assertion, with the asserted text -/
  | assertion (msg : String)
  | unreachable
  | unwrapNone
  | outOfBounds
  | overflow
  /-- not a fault of the program: the bound on a loop was too small -/
  | outOfFuel
  deriving DecidableEq, Repr

/-- A value or the fault that prevented it. -/
abbrev Outcome (α : Type) := Except Fault α

variable {α β : Type}

/-- A sequence returns exactly when both of its parts do. -/
lemma bind_eq_ok {x : Outcome α} {f : α → Outcome β} {b : β} :
    (x >>= f) = .ok b ↔ ∃ a, x = .ok a ∧ f a = .ok b := by
  cases x with
  | error e => simp [bind, Except.bind]
  | ok a => simp [bind, Except.bind]

/-- What is computed from any value at all holds of the result. -/
lemma of_bind_pure {x : Outcome α} {f : α → β} {b : β} {P : β → Prop}
    (h : (x >>= fun a => pure (f a)) = .ok b) (hf : ∀ a, P (f a)) : P b := by
  obtain ⟨a, -, heq⟩ := bind_eq_ok.mp h
  injection heq with heq
  exact heq ▸ hf a

/-- Only the value that is returned matters to what comes next. -/
lemma bind_congr_ok {x : Outcome α} {f g : α → Outcome β} (h : ∀ a, x = .ok a → f a = g a) :
    (x >>= f) = (x >>= g) := by
  cases x with
  | error e => rfl
  | ok a => exact h a rfl

@[simp] lemma ok_bind (a : α) (f : α → Outcome β) : (Except.ok a >>= f) = f a := rfl

@[simp] lemma error_bind (e : Fault) (f : α → Outcome β) :
    ((Except.error e : Outcome α) >>= f) = .error e := rfl

@[simp] lemma pure_eq_ok (a : α) : (pure a : Outcome α) = .ok a := rfl

@[simp] lemma throw_eq_error (e : Fault) : (throw e : Outcome α) = .error e := rfl

/-! ### Postconditions -/

/-- `x` returns a value with `Q`, or stops with a fault that `E` allows. -/
def Post (E : Fault → Prop) (x : Outcome α) (Q : α → Prop) : Prop :=
  match x with
  | .ok a => Q a
  | .error e => E e

variable {E : Fault → Prop} {Q : α → Prop}

@[simp] lemma post_ok {a : α} : Post E (.ok a) Q ↔ Q a := Iff.rfl

@[simp] lemma post_error {e : Fault} : Post E (.error e) Q ↔ E e := Iff.rfl

@[simp] lemma post_pure {a : α} : Post E (pure a) Q ↔ Q a := Iff.rfl

@[simp] lemma post_throw {e : Fault} : Post E (throw e) Q ↔ E e := Iff.rfl

/-- The rule of sequencing. -/
lemma post_bind {x : Outcome α} {f : α → Outcome β} {R : β → Prop} :
    Post E (x >>= f) R ↔ Post E x fun a => Post E (f a) R := by
  cases x with
  | error e => exact Iff.rfl
  | ok a => exact Iff.rfl

/-- The rule of consequence. -/
lemma Post.mono {x : Outcome α} {Q' : α → Prop} (h : Post E x Q) (hQ : ∀ a, Q a → Q' a) :
    Post E x Q' := by
  cases x with
  | error e => exact h
  | ok a => exact hQ a h

/-- What is known of a returned value. -/
lemma Post.of_ok {x : Outcome α} {a : α} (h : Post E x Q) (hx : x = .ok a) : Q a := by
  rw [hx] at h
  exact h

lemma post_ite {c : Prop} [Decidable c] {x y : Outcome α} (hx : c → Post E x Q)
    (hy : ¬c → Post E y Q) : Post E (if c then x else y) Q := by
  split
  · next h => exact hx h
  · next h => exact hy h

end Fallible
