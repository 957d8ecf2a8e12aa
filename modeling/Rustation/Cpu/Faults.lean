import Rustation.Cpu.Exceptions

/-!
Faulting instructions are atomic: an instruction that raises an exception leaves
everything but the control state as it was, apart from the load that was pending
when it started.

* `Ended`: an instruction raises no exception, or ends in one right after the
  commit of the pending load.  `Finished.ended` reads it off the ways a handler
  ends;
* `Atomic`: the changes a faulting instruction makes, all of them;
* `faulting_atomic`: the result.
-/

namespace Rustation

open Fallible

namespace Cpu

variable {δ : Type} {dev : Devices δ} {op : Opcode} {i : Instruction} {c c' q : Cpu δ}
  {sh sh' : SharedState}

/-! ### How an instruction ends -/

/-- Without an exception, or in one raised before any other effect. -/
inductive Ended (c : Cpu δ) (sh : SharedState) : Cpu δ → SharedState → Prop
  | quiet {c' : Cpu δ} {sh' : SharedState} : c'.entered = c.entered → Ended c sh c' sh'
  | faulted (cause : Exception) : Ended c sh (c.delayedLoad.exception cause) sh

lemma Finished.ended (h : Finished c sh c' sh') : Ended c sh c' sh' := by
  cases h with
  | plain hcontrol => exact .quiet (congrArg Control.entered hcontrol)
  | branched hcontrol => exact .quiet (congrArg Control.entered hcontrol)
  | faulted cause => exact .faulted cause

/-! ### Atomicity -/

/-- All that a faulting instruction changes. -/
structure Atomic (c : Cpu δ) (sh : SharedState) (c' : Cpu δ) (sh' : SharedState) : Prop where
  /-- exactly one exception is entered -/
  once : ∃ cause, c'.entered = cause :: c.entered
  /-- the next instruction is the one at the handler -/
  pc : c'.pc = Cop0.handler c'.cop0.sr
  nextPc : c'.nextPc = c'.pc + 4
  /-- the load that was pending is committed, and no other register written -/
  regs : c'.regs = c.regs.set c.load.1 c.load.2
  /-- nothing else differs: HI and LO, the cache, the bus, the GTE -/
  others : c' = { c with
    pc := c'.pc, nextPc := c'.nextPc, cop0 := c'.cop0, regs := c'.regs, load := (0, 0)
    entered := c'.entered }
  /-- of the shared state only the clock has moved -/
  clock : sh' = { sh with tk := sh.tk.tick 1 }

lemma atomic_exception (c : Cpu δ) (sh : SharedState) (cause : Exception) :
    Atomic c sh (c.delayedLoad.exception cause) (sh.tick 1) where
  once := ⟨cause, rfl⟩
  pc := c.cop0.enterException_handler ..
  nextPc := rfl
  regs := rfl
  others := rfl
  clock := rfl

/-- **Faulting instructions are atomic.** -/
theorem faulting_atomic (h : decodeAndExecute dev i c sh = .ok (c', sh'))
    (hfault : c'.entered ≠ c.entered) : Atomic c sh c' sh' := by
  generalize hs : sh.tick 1 = s at h
  unfold decodeAndExecute at h
  rw [hs] at h
  cases (finished_execute h).ended with
  | quiet hquiet => exact absurd hquiet hfault
  | faulted cause => exact hs ▸ atomic_exception c sh cause

/-- A CPU with the largest positive number in register 8 and a load of 5 into
register 1 pending. -/
def overflowing : Cpu Unit :=
  { (Cpu.new (Interconnect.new (fun _ => 0) ())).setReg 8 0x7fffffff with load := (1, 5) }

/-- `addi $9, $8, 1` overflows: the pending load is committed, register 9 kept. -/
theorem faulting_atomic_overflow : ∃ c' sh',
    decodeAndExecute .idle ⟨0x21090001⟩ overflowing .new = .ok (c', sh') ∧
      c'.entered = [.overflow] ∧ c'.reg 1 = 5 ∧ c'.reg 9 = 0xdeadbeef ∧
      Atomic overflowing .new c' sh' := by
  have hrun : decodeAndExecute .idle ⟨0x21090001⟩ overflowing .new =
      .ok (overflowing.delayedLoad.exception .overflow, SharedState.new.tick 1) := rfl
  exact ⟨_, _, hrun, rfl, rfl, rfl, faulting_atomic hrun (List.cons_ne_nil _ _)⟩

end Cpu

end Rustation
