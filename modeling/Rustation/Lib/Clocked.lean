import Mathlib.Tactic

/-!
Runs of steps that take time.

* `Clocked.Run step n s t`: steps that lead from `s` to `t`, and take the time `n` together;
* `Run.keeps`: the rule for invariants;
* `Run.map`: the rule for what the steps look like from elsewhere.
-/

namespace Clocked

variable {σ τ : Type}

/-- Any number of steps, and how long they take together. -/
inductive Run (step : ℕ → σ → σ → Prop) : ℕ → σ → σ → Prop
  | refl (s : σ) : Run step 0 s s
  | tail {m n : ℕ} {s t u : σ} : Run step m s t → step n t u → Run step (m + n) s u

namespace Run

variable {step : ℕ → σ → σ → Prop} {s t u : σ} {m n : ℕ}

lemma single (h : step n s t) : Run step n s t := by
  have hrun := Run.tail (.refl s) h
  rwa [Nat.zero_add] at hrun

lemma trans (h : Run step m s t) (h' : Run step n t u) : Run step (m + n) s u := by
  induction h' with
  | refl => exact h
  | tail _ hstep ih =>
      rw [← Nat.add_assoc]
      exact .tail (ih h) hstep

lemma keeps {P : σ → Prop} (hstep : ∀ {n s t}, step n s t → P s → P t) (h : Run step n s t)
    (hs : P s) : P t := by
  induction h with
  | refl => exact hs
  | tail _ hlast ih => exact hstep hlast (ih hs)

lemma map {step' : ℕ → τ → τ → Prop} {f : σ → τ}
    (hstep : ∀ {n s t}, step n s t → Run step' n (f s) (f t)) (h : Run step n s t) :
    Run step' n (f s) (f t) := by
  induction h with
  | refl => exact .refl _
  | tail _ hlast ih => exact ih.trans (hstep hlast)

end Run

end Clocked
