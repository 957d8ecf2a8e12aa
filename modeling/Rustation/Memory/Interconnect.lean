import Rustation.Lib.Bytes
import Rustation.Memory.Addressable
import Rustation.Shared.SharedState

/-!
The interconnect of `memory/mod.rs`: the memory map and the dispatch of
instruction fetches, loads and stores, with the memories of `memory/ram.rs` and
`bios/mod.rs`.

The memories, the cache control register and the registers of the memory
controller are part of the model.  The peripherals behind the other ranges are
a parameter: `Devices` gives for each of them what a synchronisation, a load
and a store do to the state of the peripherals, to the clock and to the
counters, and which interrupts they assert.  A store may write the RAM, as the
DMA does.

`Range.contains` and `maskRegion` are the address arithmetic;
`Interconnect.loadInstruction`, `Interconnect.load`, `Interconnect.store` and
`Interconnect.sync` the entry points the CPU uses.  `Serviced` is what a
synchronisation or a fetch may change.
-/

namespace Rustation

open Fallible

/-! ### Memories -/

/-- Main RAM: 2 megabytes. -/
def RAM_SIZE : ℕ := 2 * 1024 * 1024

/-- Data cache used as fast RAM: 1 kilobyte. -/
def SCRATCH_PAD_SIZE : ℕ := 1024

/-- BIOS image: 512 kilobytes. -/
def BIOS_SIZE : ℕ := 512 * 1024

abbrev Ram := Bytes RAM_SIZE

abbrev ScratchPad := Bytes SCRATCH_PAD_SIZE

abbrev Bios := Bytes BIOS_SIZE

namespace Ram

/-- Main RAM with garbage values. -/
def new : Ram := fun _ => 0xca

/-- The 2 megabytes are mirrored four times over the first 8. -/
def mirror (offset : U32) : ℕ := (offset &&& 0x1fffff).toNat

def load (ram : Ram) (width : Width) (offset : U32) : Outcome U32 :=
  Bytes.load ram (mirror offset) width.size

def store (ram : Ram) (width : Width) (offset val : U32) : Outcome Ram :=
  Bytes.store ram (mirror offset) val width.size

end Ram

/-- Scratchpad with garbage values. -/
def ScratchPad.new : ScratchPad := fun _ => 0xdb

def ScratchPad.load (pad : ScratchPad) (width : Width) (offset : U32) : Outcome U32 :=
  Bytes.load pad offset.toNat width.size

def ScratchPad.store (pad : ScratchPad) (width : Width) (offset val : U32) : Outcome ScratchPad :=
  Bytes.store pad offset.toNat val width.size

/-- A BIOS image that starts with the given words. -/
def Bios.ofWords (words : List U32) : Bios := fun k =>
  (words.getD (k.val / 4) 0 >>> (8 * (k.val % 4))).setWidth 8

def Bios.load (bios : Bios) (width : Width) (offset : U32) : Outcome U32 :=
  Bytes.load bios offset.toNat width.size

/-! ### Memory map -/

/-- A range of addresses. -/
structure Range where
  start : U32
  length : U32

/-- The offset of an address in the range, if it lies there. -/
def Range.contains (r : Range) (addr : U32) : Option U32 :=
  if addr ≥ r.start ∧ addr < r.start + r.length then some (addr - r.start) else none

/-- Masks that strip the region bits, selected by the three top bits. -/
def REGION_MASK : Fin 8 → U32 :=
  ![0xffffffff, 0xffffffff, 0xffffffff, 0xffffffff, 0x7fffffff, 0x1fffffff, 0xffffffff, 0xffffffff]

/-- Mask a CPU address to remove the region bits. -/
def maskRegion (addr : U32) : U32 := addr &&& REGION_MASK (Fin.ofNat 8 (addr >>> 29).toNat)

namespace Map

def RAM : Range := ⟨0x00000000, 8 * 1024 * 1024⟩

def EXPANSION_1 : Range := ⟨0x1f000000, 512 * 1024⟩

def BIOS : Range := ⟨0x1fc00000, 512 * 1024⟩

def SCRATCH_PAD : Range := ⟨0x1f800000, 1024⟩

def MEM_CONTROL : Range := ⟨0x1f801000, 36⟩

def PAD_MEMCARD : Range := ⟨0x1f801040, 32⟩

def RAM_SIZE : Range := ⟨0x1f801060, 4⟩

def IRQ_CONTROL : Range := ⟨0x1f801070, 8⟩

def DMA : Range := ⟨0x1f801080, 0x80⟩

def TIMERS : Range := ⟨0x1f801100, 0x30⟩

def CDROM : Range := ⟨0x1f801800, 0x4⟩

def GPU : Range := ⟨0x1f801810, 8⟩

def MDEC : Range := ⟨0x1f801820, 8⟩

def SPU : Range := ⟨0x1f801c00, 640⟩

def EXPANSION_2 : Range := ⟨0x1f802000, 66⟩

def CACHE_CONTROL : Range := ⟨0xfffe0130, 4⟩

end Map

/-! ### Cache control -/

/-- The cache control register. -/
structure CacheControl where
  val : U32
  deriving DecidableEq, Repr

def CacheControl.icacheEnabled (cc : CacheControl) : Bool := cc.val &&& 0x800 != 0

def CacheControl.tagTestMode (cc : CacheControl) : Bool := cc.val &&& 4 != 0

/-! ### Peripherals -/

/-- The peripherals with registers on the bus. -/
inductive Device where
  | dma | gpu | timers | cdRom | mdec | spu | padMemCard | expansion1 | expansion2
  deriving DecidableEq, Repr

/-- The peripherals that are synchronised. -/
inductive SyncedDevice where
  | gpu | padMemCard | timers | cdRom
  deriving DecidableEq, Repr

/-- What a peripheral does to the shared state.  Peripherals assert interrupts
and never take them down. -/
structure Effects where
  tk : TimeKeeper
  counters : Counters
  asserted : List Interrupt

def SharedState.apply (sh : SharedState) (e : Effects) : SharedState where
  tk := e.tk
  irqState := e.asserted.foldl InterruptState.assert sh.irqState
  counters := e.counters

/-- The peripherals, `δ` being their state and that of the renderer. -/
structure Devices (δ : Type) where
  sync : SyncedDevice → δ → SharedState → Outcome (δ × Effects)
  load : Device → Width → δ → SharedState → U32 → Outcome (U32 × δ × Effects)
  store : Device → Width → δ → Ram → SharedState → U32 → U32 → Outcome (δ × Ram × Effects)

/-- Peripherals that do nothing. -/
def Devices.idle : Devices Unit where
  sync _ d sh := pure (d, ⟨sh.tk, sh.counters, []⟩)
  load _ _ d sh _ := pure (0, d, ⟨sh.tk, sh.counters, []⟩)
  store _ _ d ram sh _ _ := pure (d, ram, ⟨sh.tk, sh.counters, []⟩)

/-! ### The interconnect -/

structure Interconnect (δ : Type) where
  bios : Bios
  ram : Ram
  scratchPad : ScratchPad
  cacheControl : CacheControl
  ramSize : U32
  memControl : Fin 9 → U32
  /-- state of the peripherals -/
  devices : δ

namespace Interconnect

variable {δ : Type} (dev : Devices δ)

def new (bios : Bios) (devices : δ) : Interconnect δ where
  bios := bios
  ram := Ram.new
  scratchPad := ScratchPad.new
  cacheControl := ⟨0⟩
  ramSize := 0
  memControl _ := 0
  devices := devices

def syncDevice (inter : Interconnect δ) (which : SyncedDevice) (sh : SharedState) :
    Outcome (Interconnect δ × SharedState) := do
  let (d, e) ← dev.sync which inter.devices sh
  pure ({ inter with devices := d }, sh.apply e)

/-- Synchronise a peripheral if its time sheet is due. -/
def syncIfDue (inter : Interconnect δ) (who : Peripheral) (which : SyncedDevice)
    (sh : SharedState) : Outcome (Interconnect δ × SharedState) :=
  if sh.tk.needsSync who then inter.syncDevice dev which sh else pure (inter, sh)

def sync (inter : Interconnect δ) (sh : SharedState) : Outcome (Interconnect δ × SharedState) := do
  let (inter, sh) ← inter.syncIfDue dev .gpu .gpu sh
  let (inter, sh) ← inter.syncIfDue dev .padMemCard .padMemCard sh
  let (inter, sh) ← inter.syncDevice dev .timers sh
  inter.syncIfDue dev .cdRom .cdRom sh

def loadDevice (inter : Interconnect δ) (which : Device) (width : Width) (sh : SharedState)
    (offset : U32) : Outcome (U32 × Interconnect δ × SharedState) := do
  let (v, d, e) ← dev.load which width inter.devices sh offset
  pure (v, { inter with devices := d }, sh.apply e)

def storeDevice (inter : Interconnect δ) (which : Device) (width : Width) (sh : SharedState)
    (offset val : U32) : Outcome (Interconnect δ × SharedState) := do
  let (d, ram, e) ← dev.store which width inter.devices inter.ram sh offset val
  pure ({ inter with devices := d, ram := ram }, sh.apply e)

/-- Load the instruction at `pc`.  Only RAM, BIOS and the expansion are
supported. -/
def loadInstruction (inter : Interconnect δ) (sh : SharedState) (pc : U32) :
    Outcome (U32 × Interconnect δ × SharedState) :=
  let absAddr := maskRegion pc
  if let some offset := Map.RAM.contains absAddr then do
    let v ← inter.ram.load .word offset
    pure (v, inter, sh)
  else if let some offset := Map.BIOS.contains absAddr then do
    let v ← inter.bios.load .word offset
    pure (v, inter, sh)
  else if let some offset := Map.EXPANSION_1.contains absAddr then
    inter.loadDevice dev .expansion1 .word sh offset
  else throw (.panic "unhandled instruction load")

/-- The memory control register at an offset. -/
def memControlIndex (offset : U32) : Outcome (Fin 9) :=
  if h : (offset >>> 2).toNat < 9 then pure ⟨(offset >>> 2).toNat, h⟩ else throw .outOfBounds

/-- Load the value at `addr`. -/
def load (inter : Interconnect δ) (width : Width) (sh : SharedState) (addr : U32) :
    Outcome (U32 × Interconnect δ × SharedState) :=
  let sh := sh.tick 2
  let absAddr := maskRegion addr
  if let some offset := Map.RAM.contains absAddr then do
    let v ← inter.ram.load width offset
    pure (v, inter, sh)
  else if let some offset := Map.SCRATCH_PAD.contains absAddr then do
    if addr > 0xa0000000 then throw (.panic "ScratchPad access through uncached memory")
    let v ← inter.scratchPad.load width offset
    pure (v, inter, sh)
  else if let some offset := Map.BIOS.contains absAddr then do
    let v ← inter.bios.load width offset
    pure (v, inter, sh)
  else if let some offset := Map.IRQ_CONTROL.contains absAddr then
    match offset.toNat with
    | 0 => pure (sh.irqState.status.setWidth 32, inter, sh)
    | 4 => pure (sh.irqState.mask.setWidth 32, inter, sh)
    | _ => throw (.panic "Unhandled IRQ load")
  else if let some offset := Map.DMA.contains absAddr then
    inter.loadDevice dev .dma width sh offset
  else if let some offset := Map.GPU.contains absAddr then
    inter.loadDevice dev .gpu width sh offset
  else if let some offset := Map.TIMERS.contains absAddr then
    inter.loadDevice dev .timers width sh offset
  else if let some offset := Map.CDROM.contains absAddr then
    inter.loadDevice dev .cdRom width sh offset
  else if let some offset := Map.MDEC.contains absAddr then
    inter.loadDevice dev .mdec width sh offset
  else if let some offset := Map.SPU.contains absAddr then
    inter.loadDevice dev .spu width sh offset
  else if let some offset := Map.PAD_MEMCARD.contains absAddr then
    inter.loadDevice dev .padMemCard width sh offset
  else if let some offset := Map.EXPANSION_1.contains absAddr then
    inter.loadDevice dev .expansion1 width sh offset
  else if let some _ := Map.RAM_SIZE.contains absAddr then pure (inter.ramSize, inter, sh)
  else if let some offset := Map.MEM_CONTROL.contains absAddr then do
    if width.size ≠ 4 then throw (.panic "Unhandled MEM_CONTROL access")
    let index ← memControlIndex offset
    pure (inter.memControl index, inter, sh)
  else if let some _ := Map.CACHE_CONTROL.contains absAddr then do
    if width.size ≠ 4 then throw (.panic "Unhandled cache control access")
    pure (inter.cacheControl.val, inter, sh)
  else if let some offset := Map.EXPANSION_2.contains absAddr then
    inter.loadDevice dev .expansion2 width sh offset
  else throw (.panic "unhandled load")

/-- Store `val` into `addr`. -/
def store (inter : Interconnect δ) (width : Width) (sh : SharedState) (addr val : U32) :
    Outcome (Interconnect δ × SharedState) :=
  let absAddr := maskRegion addr
  if let some offset := Map.RAM.contains absAddr then do
    let ram ← inter.ram.store width offset val
    pure ({ inter with ram := ram }, sh)
  else if let some offset := Map.SCRATCH_PAD.contains absAddr then do
    if addr > 0xa0000000 then throw (.panic "ScratchPad access through uncached memory")
    let pad ← inter.scratchPad.store width offset val
    pure ({ inter with scratchPad := pad }, sh)
  else if let some offset := Map.IRQ_CONTROL.contains absAddr then
    match offset.toNat with
    | 0 => pure (inter, { sh with irqState := sh.irqState.ack (val.setWidth 16) })
    | 4 => do
        let irqState ← sh.irqState.setMask (val.setWidth 16)
        pure (inter, { sh with irqState := irqState })
    | _ => throw (.panic "Unhandled IRQ store")
  else if let some offset := Map.DMA.contains absAddr then
    inter.storeDevice dev .dma width sh offset val
  else if let some offset := Map.GPU.contains absAddr then
    inter.storeDevice dev .gpu width sh offset val
  else if let some offset := Map.TIMERS.contains absAddr then
    inter.storeDevice dev .timers width sh offset val
  else if let some offset := Map.CDROM.contains absAddr then
    inter.storeDevice dev .cdRom width sh offset val
  else if let some offset := Map.MDEC.contains absAddr then
    inter.storeDevice dev .mdec width sh offset val
  else if let some offset := Map.SPU.contains absAddr then
    inter.storeDevice dev .spu width sh offset val
  else if let some offset := Map.PAD_MEMCARD.contains absAddr then
    inter.storeDevice dev .padMemCard width sh offset val
  else if let some _ := Map.CACHE_CONTROL.contains absAddr then do
    if width.size ≠ 4 then throw (.panic "Unhandled cache control access")
    pure ({ inter with cacheControl := ⟨val⟩ }, sh)
  else if let some offset := Map.MEM_CONTROL.contains absAddr then do
    if width.size ≠ 4 then throw (.panic "Unhandled MEM_CONTROL access")
    if offset = 0 ∧ val ≠ 0x1f000000 then throw (.panic "Bad expansion 1 base address")
    if offset = 4 ∧ val ≠ 0x1f802000 then throw (.panic "Bad expansion 2 base address")
    let index ← memControlIndex offset
    pure ({ inter with memControl := Function.update inter.memControl index val }, sh)
  else if let some _ := Map.RAM_SIZE.contains absAddr then do
    if width.size ≠ 4 then throw (.panic "Unhandled RAM_SIZE access")
    pure ({ inter with ramSize := val }, sh)
  else if let some offset := Map.EXPANSION_2.contains absAddr then
    inter.storeDevice dev .expansion2 width sh offset val
  else throw (.panic "unhandled store")

/-! ### What the peripherals may do -/

/-- Only the state of the peripherals has changed, and interrupts have only
been asserted. -/
structure Serviced (inter : Interconnect δ) (sh : SharedState) (inter' : Interconnect δ)
    (sh' : SharedState) : Prop where
  memory : inter' = { inter with devices := inter'.devices }
  active : sh.irqState.active = true → sh'.irqState.active = true

variable {dev} {inter inter' inter'' : Interconnect δ} {sh sh' sh'' : SharedState}

lemma Serviced.refl (inter : Interconnect δ) (sh : SharedState) : Serviced inter sh inter sh :=
  ⟨rfl, id⟩

lemma Serviced.trans (h : Serviced inter sh inter' sh') (h' : Serviced inter' sh' inter'' sh'') :
    Serviced inter sh inter'' sh'' where
  memory := by rw [h'.memory, h.memory]
  active := h'.active ∘ h.active

lemma active_apply (e : Effects) (h : sh.irqState.active = true) :
    (sh.apply e).irqState.active = true :=
  InterruptState.active_foldl_assert h e.asserted

lemma serviced_syncDevice {which : SyncedDevice}
    (h : inter.syncDevice dev which sh = .ok (inter', sh')) : Serviced inter sh inter' sh' := by
  obtain ⟨⟨d, e⟩, -, heq⟩ := bind_eq_ok.mp h
  injection heq with heq
  injection heq with hinter hsh
  subst hinter hsh
  exact ⟨rfl, active_apply e⟩

lemma serviced_syncIfDue {who : Peripheral} {which : SyncedDevice}
    (h : inter.syncIfDue dev who which sh = .ok (inter', sh')) : Serviced inter sh inter' sh' := by
  unfold syncIfDue at h
  split_ifs at h
  · exact serviced_syncDevice h
  · injection h with h
    injection h with hinter hsh
    subst hinter hsh
    exact .refl ..

lemma serviced_sync (h : inter.sync dev sh = .ok (inter', sh')) : Serviced inter sh inter' sh' := by
  obtain ⟨⟨i1, s1⟩, h1, h⟩ := bind_eq_ok.mp h
  obtain ⟨⟨i2, s2⟩, h2, h⟩ := bind_eq_ok.mp h
  obtain ⟨⟨i3, s3⟩, h3, h4⟩ := bind_eq_ok.mp h
  have hgpu : Serviced inter sh i1 s1 := serviced_syncIfDue h1
  have hpad : Serviced i1 s1 i2 s2 := serviced_syncIfDue h2
  have htimers : Serviced i2 s2 i3 s3 := serviced_syncDevice h3
  have hcdrom : Serviced i3 s3 inter' sh' := serviced_syncIfDue h4
  exact hgpu.trans (hpad.trans (htimers.trans hcdrom))

/-- A fetch leaves the memory alone. -/
lemma serviced_loadInstruction {pc v : U32}
    (h : inter.loadInstruction dev sh pc = .ok (v, inter', sh')) :
    Serviced inter sh inter' sh' := by
  have hload {x : Outcome U32} (h : (x >>= fun v => pure (v, inter, sh)) = .ok (v, inter', sh')) :
      Serviced inter sh inter' sh' := by
    obtain ⟨w, -, heq⟩ := bind_eq_ok.mp h
    injection heq with heq
    injection heq with hv heq
    injection heq with hinter hsh
    subst hinter hsh
    exact .refl ..
  unfold loadInstruction at h
  dsimp only at h
  split at h
  · exact hload h
  split at h
  · exact hload h
  split at h
  · obtain ⟨⟨w, d, e⟩, -, heq⟩ := bind_eq_ok.mp h
    injection heq with heq
    injection heq with hv heq
    injection heq with hinter hsh
    subst hinter hsh
    exact ⟨rfl, active_apply e⟩
  · simp at h

end Interconnect

end Rustation
