import Rustation.Lib.Run
import Rustation.Memory.Dma

/-!
The interrupt of the DMA controller (`memory/dma.rs`): which flags a write to
the interrupt register clears, when the interrupt is asserted, and whether it can
be asserted again once the flags have been acknowledged.

* `call`: the two operations that touch the flags;
* `Acknowledges`: the law for a state of the controller.  `acknowledges_iff`: it
  holds as long as the flag of the seventh channel is clear, since the mask of the
  write has six bits;
* `acknowledges_along_iff`: so it holds along a run exactly if the seventh channel
  never completes a transfer with its interrupt enabled.
-/

namespace Rustation

namespace Dma

/-! ### Calls -/

inductive Call where
  | setInterrupt (val : U32)
  | done (port : Port)

def call (s : Dma × SharedState) : Call → Dma × SharedState
  | .setInterrupt val => s.1.setInterrupt s.2 val
  | .done port => s.1.done s.2 port

/-- The interrupt flag of a channel. -/
def flag (d : Dma) (port : Port) : Bool := d.channelIrqFlags.getLsbD port.value

/-- The interrupt of a channel is enabled. -/
def enabled (d : Dma) (port : Port) : Bool := d.channelIrqEn.getLsbD port.value

/-- A write of ones to the seven flags, with the forced interrupt clear. -/
def AcknowledgesAll (val : U32) : Prop :=
  (∀ port : Port, val.getLsbD (24 + port.value) = true) ∧ val.getLsbD 15 = false

/-! ### The law -/

/-- The law of the interrupt in a state of the controller. -/
structure Acknowledges (s : Dma × SharedState) : Prop where
  /-- a write clears the flags whose bit is set in it and keeps the others -/
  clears : ∀ val port, (call s (.setInterrupt val)).1.flag port =
    (s.1.flag port && !val.getLsbD (24 + port.value))
  /-- the interrupt is asserted on the rising edge of the signal -/
  rises : ∀ c, (call s c).2.irqState =
    if s.1.irq = false ∧ (call s c).1.irq = true then s.2.irqState.assert .dma else s.2.irqState
  silences : ∀ val, AcknowledgesAll val → (call s (.setInterrupt val)).1.irq = false
  /-- the next completion of an enabled channel asserts the interrupt -/
  again : ∀ val port, AcknowledgesAll val →
    (call s (.setInterrupt val)).1.irqEn = true →
    (call s (.setInterrupt val)).1.enabled port = true →
    (call (call s (.setInterrupt val)) (.done port)).2.irqState =
      (call s (.setInterrupt val)).2.irqState.assert .dma

/-! ### One call -/

section

variable {d : Dma} {sh : SharedState} {val : U32} {port : Port}

/-- The flag of the seventh channel is not among those a write can clear. -/
lemma flag_setInterrupt : (d.setInterrupt sh val).1.flag port =
    (d.flag port && !(decide (port ≠ .otc) && val.getLsbD (24 + port.value))) := by
  cases port <;> simp [setInterrupt, flag, Port.value]

lemma flag_done (port' : Port) :
    (d.done sh port').1.flag port = (d.flag port || (decide (port = port') && d.enabled port)) := by
  cases port <;> cases port' <;> simp [done, flag, enabled, setChannel, Port.value]

lemma exists_port {k : ℕ} (hk : k < 7) : ∃ port : Port, port.value = k := by
  interval_cases k
  exacts [⟨.mdecIn, rfl⟩, ⟨.mdecOut, rfl⟩, ⟨.gpu, rfl⟩, ⟨.cdRom, rfl⟩, ⟨.spu, rfl⟩, ⟨.pio, rfl⟩,
    ⟨.otc, rfl⟩]

/-- Without a flag and not forced, the signal is down. -/
lemma irq_eq_false (hforce : d.forceIrq = false) (hen : d.channelIrqEn.getLsbD 7 = false)
    (hflags : ∀ port, d.flag port = false) : d.irq = false := by
  have hzero : d.channelIrqFlags &&& d.channelIrqEn = 0 := by
    refine BitVec.eq_of_getLsbD_eq fun k hk => ?_
    rw [BitVec.getLsbD_and, show (0 : U8).getLsbD k = false from BitVec.getLsbD_zero]
    by_cases hseven : k = 7
    · rw [hseven, hen, Bool.and_false]
    · obtain ⟨port, hport⟩ := exists_port (show k < 7 by omega)
      have hflag : d.channelIrqFlags.getLsbD k = false := hport ▸ hflags port
      rw [hflag, Bool.false_and]
  simp [irq, hforce, hzero]

/-- The flag of an enabled channel drives the signal. -/
lemma irq_of_flag (hirq : d.irqEn = true) (hflag : d.flag port = true)
    (hen : d.enabled port = true) : d.irq = true := by
  have hne : d.channelIrqFlags &&& d.channelIrqEn ≠ 0 := by
    intro hzero
    have hbit : (d.flag port && d.enabled port) = false := by
      rw [flag, enabled, ← BitVec.getLsbD_and, hzero]
      exact BitVec.getLsbD_zero
    rw [hflag, hen] at hbit
    exact absurd hbit (by decide)
  rw [irq, hirq, bne_iff_ne.mpr hne, Bool.and_true, Bool.or_true]

end

/-- The interrupt is asserted on the rising edge of the signal. -/
lemma irqState_call (s : Dma × SharedState) (c : Call) : (call s c).2.irqState =
    if s.1.irq = false ∧ (call s c).1.irq = true then s.2.irqState.assert .dma
    else s.2.irqState := by
  have hraise (d : Dma) (prevIrq : Bool) (sh : SharedState) : (d.raise prevIrq sh).irqState =
      if prevIrq = false ∧ d.irq = true then sh.irqState.assert .dma else sh.irqState := by
    cases prevIrq <;> cases hirq : d.irq <;> simp [raise, hirq]
  cases c with
  | setInterrupt val => exact hraise ..
  | done port => exact hraise ..

/-! ### The law in a state -/

variable {s : Dma × SharedState}

/-- Acknowledging all the flags clears them and lowers the signal, unless the
flag of the seventh channel is set. -/
lemma acknowledged {val : U32} (h : AcknowledgesAll val) (hotc : s.1.flag .otc = false) :
    (∀ port, (call s (.setInterrupt val)).1.flag port = false) ∧
      (call s (.setInterrupt val)).1.irq = false := by
  have hflags (port : Port) : (call s (.setInterrupt val)).1.flag port = false := by
    rw [call, flag_setInterrupt, h.1 port]
    by_cases hport : port = .otc
    · rw [hport, hotc, Bool.false_and]
    · simp [hport]
  have hforce : (call s (.setInterrupt val)).1.forceIrq = false := by
    have hbit : val >>> 15 &&& 1 = 0#32 := by
      refine BitVec.eq_of_getLsbD_eq fun k hk => ?_
      by_cases hk0 : k = 0
      · simpa [hk0] using h.2
      · simp [hk0]
    rw [call, setInterrupt]
    dsimp only
    rw [hbit]
    rfl
  refine ⟨hflags, irq_eq_false hforce ?_ hflags⟩
  simp [call, setInterrupt]

/-- **The law holds in a state exactly if the flag of the seventh channel is
clear.** -/
lemma acknowledges_iff : Acknowledges s ↔ s.1.flag .otc = false := by
  constructor
  · intro h
    -- a one written to bit 30 must clear the flag, and does not
    have hclear := h.clears 0x40000000 .otc
    rw [call, flag_setInterrupt] at hclear
    cases hflag : s.1.flag .otc with
    | false => rfl
    | true =>
        rw [hflag] at hclear
        exact absurd hclear (by decide)
  · intro hotc
    refine ⟨fun val port => ?_, irqState_call s, fun val hval => (acknowledged hval hotc).2,
      fun val port hval hirq hen => ?_⟩
    · rw [call, flag_setInterrupt]
      by_cases hport : port = .otc
      · rw [hport, hotc, Bool.false_and, Bool.false_and]
      · simp [hport]
    · obtain ⟨hflags, hdown⟩ := acknowledged hval hotc
      generalize call s (.setInterrupt val) = s' at hirq hen hflags hdown ⊢
      have hup : (call s' (.done port)).1.irq = true := by
        have hflag : (call s' (.done port)).1.flag port = true := by
          rw [call, flag_done, hen]
          simp
        exact irq_of_flag hirq hflag hen
      rw [irqState_call, if_pos ⟨hdown, hup⟩]

/-! ### Runs -/

/-- The seventh channel does not complete a transfer with its interrupt enabled. -/
def Clearable (s : Dma × SharedState) (c : Call) : Prop :=
  match c with
  | .setInterrupt _ => True
  | .done port => port = .otc → s.1.enabled .otc = false

/-- One call keeps the flag of the seventh channel clear exactly under that
condition. -/
lemma flag_call_iff (hs : s.1.flag .otc = false) (c : Call) :
    (call s c).1.flag .otc = false ↔ Clearable s c := by
  cases c with
  | setInterrupt val =>
      rw [call, flag_setInterrupt, hs, Bool.false_and]
      exact iff_of_true rfl trivial
  | done port =>
      rw [call, flag_done, hs, Bool.false_or, Clearable]
      by_cases hport : port = .otc
      · simp [hport]
      · simp [hport, Ne.symm hport]

/-- **The law along a run.**  It holds in every state reached from power-on
exactly if no call of the run completes a transfer of the seventh channel while
its interrupt is enabled. -/
theorem acknowledges_along_iff (sh : SharedState) (calls : List Call) :
    Run.Along call Acknowledges (new, sh) calls ↔ Run.Steps call Clearable (new, sh) calls := by
  refine Run.along_iff_steps (fun s c hs => ?_) (acknowledges_iff.mpr ?_) calls
  · rw [acknowledges_iff, flag_call_iff (acknowledges_iff.mp hs)]
  · exact BitVec.getLsbD_zero

/-- The flag of the ordering table channel survives its acknowledgement, and its
next completion goes unnoticed. -/
theorem otc_not_acknowledged :
    let s := [.setInterrupt 0x00c00000, .done .otc, .setInterrupt 0x7fc00000].foldl call
      (new, .new)
    s.1.flag .otc = true ∧ s.1.irq = true ∧ (call s (.done .otc)).2.irqState = s.2.irqState ∧
      ¬Acknowledges ([.setInterrupt 0x00c00000, .done .otc].foldl call (new, .new)) := by
  refine ⟨by decide, by decide, by decide, fun h => ?_⟩
  exact absurd (h.silences 0x7fc00000 ⟨fun port => by cases port <;> decide, by decide⟩) (by decide)

end Dma

end Rustation
