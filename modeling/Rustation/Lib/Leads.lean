import Mathlib.Logic.Relation
import Mathlib.Tactic

/-!
Runs of a machine seen through a view of its states.

* `Leads step view stop a b`: from every state that looks like `a` the machine
  comes to one that looks like `b`, or to one where it stops;
* `Leads.one`, `Leads.trans`: the rules for one step and for a sequence;
* `Leads.loop`: the rule for a loop with an invariant.
-/

open Relation

section

variable {σ α : Type} (step : σ → σ → Prop) (view : σ → α) (stop : σ → Prop)

/-- From every state that looks like `a` the machine comes to one that looks like `b`,
if it does not stop before. -/
def Leads (a b : α) : Prop :=
  ∀ s, view s = a → ∃ s', ReflTransGen step s s' ∧ (view s' = b ∨ stop s')

namespace Leads

variable {step view stop} {a b c : α}

lemma refl (a : α) : Leads step view stop a a := fun s hs => ⟨s, .refl, .inl hs⟩

lemma one (h : ∀ s, view s = a → stop s ∨ ∃ s', step s s' ∧ view s' = b) :
    Leads step view stop a b := by
  intro s hs
  rcases h s hs with hstop | ⟨s', hstep, hview⟩
  · exact ⟨s, .refl, .inr hstop⟩
  · exact ⟨s', .single hstep, .inl hview⟩

lemma trans (h : Leads step view stop a b) (h' : Leads step view stop b c) :
    Leads step view stop a c := by
  intro s hs
  obtain ⟨s', hrun, hview | hstop⟩ := h s hs
  · obtain ⟨s'', hrun', hend⟩ := h' s' hview
    exact ⟨s'', hrun.trans hrun', hend⟩
  · exact ⟨s', hrun, .inr hstop⟩

/-- The rounds of a loop, one after the other, with an invariant that numbers them. -/
lemma loop {β : Type} {place : β → α} {I : ℕ → β → Prop} {n : ℕ}
    (h : ∀ k < n, ∀ x, I k x → ∃ y, Leads step view stop (place x) (place y) ∧ I (k + 1) y)
    {x : β} (hx : I 0 x) : ∃ y, Leads step view stop (place x) (place y) ∧ I n y := by
  induction n with
  | zero => exact ⟨x, refl _, hx⟩
  | succ n ih =>
      obtain ⟨y, hruns, hy⟩ := ih fun k hk => h k (by omega)
      obtain ⟨z, hround, hz⟩ := h n n.lt_succ_self y hy
      exact ⟨z, hruns.trans hround, hz⟩

end Leads

end
