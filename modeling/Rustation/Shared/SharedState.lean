import Rustation.Lib.Outcome
import Rustation.Lib.Word
import Rustation.Shared.TimeKeeper

/-!
The state every component is handed by mutable reference (`shared.rs`): the
time keeper, the interrupt controller of `interrupt.rs` and the counters.

* `InterruptState.active`: an asserted interrupt is not masked;
* `active_assert`: asserting an interrupt never takes the line down, which is
  all a synchronising peripheral does to the controller.
-/

namespace Rustation

open Fallible

/-! ### The interrupt controller -/

/-- The interrupts of the console, by their bit in the status word. -/
inductive Interrupt where
  | vBlank | cdRom | dma | timer0 | timer1 | timer2 | padMemCard
  deriving DecidableEq, Repr

namespace Interrupt

/-- The value of the enumeration, the bit the interrupt owns. -/
def bit : Interrupt → ℕ
  | vBlank => 0
  | cdRom => 2
  | dma => 3
  | timer0 => 4
  | timer1 => 5
  | timer2 => 6
  | padMemCard => 7

def supported : List Interrupt := [vBlank, cdRom, dma, timer0, timer1, timer2, padMemCard]

end Interrupt

structure InterruptState where
  status : U16
  mask : U16
  deriving DecidableEq, Repr

namespace InterruptState

def new : InterruptState := ⟨0, 0⟩

/-- At least one interrupt is asserted and not masked. -/
def active (s : InterruptState) : Bool := s.status &&& s.mask != 0

/-- Acknowledge interrupts by writing 0 to the corresponding bit. -/
def ack (s : InterruptState) (ack : U16) : InterruptState := { s with status := s.status &&& ack }

def setMask (s : InterruptState) (mask : U16) : Outcome InterruptState :=
  let rem := Interrupt.supported.foldl (fun m it => m &&& ~~~(1#16 <<< it.bit)) mask
  if rem != 0 then throw (.panic "Unsupported interrupt") else pure { s with mask := mask }

/-- Trigger the interrupt, on the rising edge of its signal. -/
def assert (s : InterruptState) (which : Interrupt) : InterruptState :=
  { s with status := s.status ||| 1#16 <<< which.bit }

lemma active_iff {s : InterruptState} :
    s.active = true ↔ ∃ k, s.status.getLsbD k = true ∧ s.mask.getLsbD k = true := by
  rw [active, bne_iff_ne]
  constructor
  · intro h
    by_contra hnone
    push Not at hnone
    refine h (BitVec.eq_of_getLsbD_eq fun k _ => ?_)
    cases hs : s.status.getLsbD k with
    | false => simp [hs]
    | true => simp [hs, hnone k hs]
  · rintro ⟨k, hs, hm⟩ h0
    have hk := congrArg (fun w => w.getLsbD k) h0
    simp [hs, hm] at hk

/-- Asserting an interrupt never takes the line down. -/
lemma active_assert {s : InterruptState} (h : s.active = true) (which : Interrupt) :
    (s.assert which).active = true := by
  obtain ⟨k, hs, hm⟩ := active_iff.mp h
  exact active_iff.mpr ⟨k, by simp [assert, hs], hm⟩

lemma active_foldl_assert {s : InterruptState} (h : s.active = true) (asserted : List Interrupt) :
    (asserted.foldl assert s).active = true := by
  induction asserted generalizing s with
  | nil => exact h
  | cons which rest ih => exact ih (active_assert h which)

end InterruptState

/-! ### Counters and the shared state -/

/-- Debugging and profiling counters, 32 bits wide and wrapping. -/
structure Counters where
  frame : U32
  framebufferSwap : U32
  cpuInterrupt : U32
  deriving DecidableEq, Repr

def Counters.new : Counters := ⟨0, 0, 0⟩

structure SharedState where
  tk : TimeKeeper
  irqState : InterruptState
  counters : Counters

namespace SharedState

def new : SharedState := ⟨.new, .new, .new⟩

def tick (sh : SharedState) (cycles : Cycles) : SharedState := { sh with tk := sh.tk.tick cycles }

@[simp] lemma tick_irqState (sh : SharedState) (cycles : Cycles) :
    (sh.tick cycles).irqState = sh.irqState := rfl

end SharedState

end Rustation
