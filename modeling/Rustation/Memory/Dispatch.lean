import Rustation.Memory.Interconnect

/-!
The memory map of `memory/mod.rs`, read backwards: what a load, a store or a fetch
that went through has reached.

* `Device.range`: where the registers of a peripheral are;
* `loadInstruction_reaches`, `load_reaches`: the memories are read and nothing
  changes, or a peripheral answers;
* `Reached`, `store_reaches`: a store ends in a memory, in one of the two registers
  of the interrupt controller, or in a peripheral.
-/

namespace Rustation

open Fallible

/-- The addresses of the registers of a peripheral. -/
def Device.range : Device → Range
  | .dma => Map.DMA
  | .gpu => Map.GPU
  | .timers => Map.TIMERS
  | .cdRom => Map.CDROM
  | .mdec => Map.MDEC
  | .spu => Map.SPU
  | .padMemCard => Map.PAD_MEMCARD
  | .expansion1 => Map.EXPANSION_1
  | .expansion2 => Map.EXPANSION_2

namespace Interconnect

/-- The address of the register that acknowledges interrupts. -/
def I_STAT : U32 := 0x1f801070

variable {δ : Type} {dev : Devices δ} {inter inter' : Interconnect δ} {sh sh' : SharedState}
  {width : Width} {addr val v : U32}

lemma eq_of_bind_pure {α : Type} {x : Outcome U32} {s : α}
    {r : U32 × α} (h : (x >>= fun v => pure (v, s)) = .ok r) : r.2 = s := by
  obtain ⟨v, -, heq⟩ := bind_eq_ok.mp h
  cases heq
  rfl

/-! ### Loads -/

/-- A load changes nothing, or is answered by a peripheral. -/
def Answered (dev : Devices δ) (inter : Interconnect δ) (width : Width) (sh : SharedState)
    (r : U32 × Interconnect δ × SharedState) : Prop :=
  r.2 = (inter, sh) ∨ ∃ which offset, inter.loadDevice dev which width sh offset = .ok r

lemma loadInstruction_reaches {pc : U32} {r : U32 × Interconnect δ × SharedState}
    (h : inter.loadInstruction dev sh pc = .ok r) : Answered dev inter .word sh r := by
  unfold loadInstruction at h
  dsimp only at h
  split at h
  · exact .inl (eq_of_bind_pure h)
  split at h
  · exact .inl (eq_of_bind_pure h)
  split at h
  · exact .inr ⟨_, _, h⟩
  · cases h

lemma load_reaches {r : U32 × Interconnect δ × SharedState}
    (h : inter.load dev width sh addr = .ok r) : Answered dev inter width (sh.tick 2) r := by
  unfold load at h
  dsimp only at h
  split at h
  · exact .inl (eq_of_bind_pure h)
  split at h
  · split_ifs at h
    · cases h
    · exact .inl (eq_of_bind_pure h)
  split at h
  · exact .inl (eq_of_bind_pure h)
  split at h
  · -- the interrupt controller
    split at h <;> cases h <;> exact .inl rfl
  -- the peripherals
  iterate 8
    split at h
    · exact .inr ⟨_, _, h⟩
  split at h
  · cases h
    exact .inl rfl
  split at h
  · split_ifs at h
    · cases h
    · obtain ⟨index, -, heq⟩ := bind_eq_ok.mp h
      cases heq
      exact .inl rfl
  split at h
  · split_ifs at h
    · cases h
    · cases h
      exact .inl rfl
  split at h
  · exact .inr ⟨_, _, h⟩
  · cases h

/-! ### Stores -/

/-- Where a store has ended. -/
inductive Reached (dev : Devices δ) (inter : Interconnect δ) (width : Width) (sh : SharedState)
    (addr val : U32) : Interconnect δ × SharedState → Prop
  /-- a memory, or a register of the interconnect itself -/
  | memory {inter' : Interconnect δ} : inter'.devices = inter.devices →
      Reached dev inter width sh addr val (inter', sh)
  | ack : maskRegion addr = I_STAT → Reached dev inter width sh addr val
      (inter, { sh with irqState := sh.irqState.ack (val.setWidth 16) })
  | mask {irqState : InterruptState} : sh.irqState.setMask (val.setWidth 16) = .ok irqState →
      Reached dev inter width sh addr val (inter, { sh with irqState := irqState })
  | device (which : Device) {offset : U32} {r : Interconnect δ × SharedState} :
      which.range.contains (maskRegion addr) = some offset →
      inter.storeDevice dev which width sh offset val = .ok r →
      Reached dev inter width sh addr val r

lemma contains_eq_start {r : Range} {a offset : U32} (h : r.contains a = some offset)
    (h0 : offset.toNat = 0) : a = r.start := by
  unfold Range.contains at h
  split_ifs at h
  injection h with h
  bv_omega

lemma store_reaches {r : Interconnect δ × SharedState}
    (h : inter.store dev width sh addr val = .ok r) : Reached dev inter width sh addr val r := by
  unfold store at h
  dsimp only at h
  split at h
  · obtain ⟨ram, -, heq⟩ := bind_eq_ok.mp h
    cases heq
    exact .memory rfl
  split at h
  · split_ifs at h
    · cases h
    · obtain ⟨pad, -, heq⟩ := bind_eq_ok.mp h
      cases heq
      exact .memory rfl
  split at h
  case h_1 hin =>
    split at h
    case h_1 hzero =>
      cases h
      exact .ack (contains_eq_start hin hzero)
    case h_2 =>
      obtain ⟨irqState, hmask, heq⟩ := bind_eq_ok.mp h
      cases heq
      exact .mask hmask
    case h_3 => cases h
  split at h
  case h_1 hin => exact .device .dma hin h
  split at h
  case h_1 hin => exact .device .gpu hin h
  split at h
  case h_1 hin => exact .device .timers hin h
  split at h
  case h_1 hin => exact .device .cdRom hin h
  split at h
  case h_1 hin => exact .device .mdec hin h
  split at h
  case h_1 hin => exact .device .spu hin h
  split at h
  case h_1 hin => exact .device .padMemCard hin h
  split at h
  · split_ifs at h
    · cases h
    · cases h
      exact .memory rfl
  split at h
  · -- the width and the two base addresses are checked
    iterate 3
      split at h
      · cases h
    obtain ⟨index, -, heq⟩ := bind_eq_ok.mp h
    cases heq
    exact .memory rfl
  split at h
  · split_ifs at h
    · cases h
    · cases h
      exact .memory rfl
  split at h
  case h_1 hin => exact .device .expansion2 hin h
  case h_2 => cases h

end Interconnect

end Rustation
