import Rustation.Assembler.Programs
import Rustation.Cpu.Interrupt
import Rustation.Lib.Leads
import Rustation.Memory.Regions
import Rustation.ParallelIo.ExeLoader

/-!
The CPU executes the code of the loader from the port.

* `View`: what of the machine matters to the loader.  `viewOf` forgets the rest;
* `unseen_sync`: it does not change when the peripherals are synchronised;
* `fetch_word`: a word of the code is fetched through KSEG1;
* `Execs`: what the execution of a word does to the view;
* `goes_word`: one step of the CPU, which executes the next word or takes an interrupt.
-/

namespace Rustation

namespace ExeLoader

open Fallible Asm

variable {ε : Type} {rest : Devices ε}

/-! ### Views -/

/-- The registers and the memory of the machine, as far as the loader uses them. -/
structure Data where
  regs : Regs
  load : RegisterIndex × U32
  icache : Fin 0x100 → ICacheLine
  sr : U32
  ram : Ram
  cacheControl : CacheControl
  mask : U16
  exe : ExeLoader
  entered : List Exception

structure View where
  pc : U32
  nextPc : U32
  data : Data

def dataOf (c : Cpu (ExeLoader × ε)) (sh : SharedState) : Data where
  regs := c.regs
  load := c.load
  icache := c.icache
  sr := c.cop0.sr
  ram := c.inter.ram
  cacheControl := c.inter.cacheControl
  mask := sh.irqState.mask
  exe := c.inter.devices.1
  entered := c.entered

def viewOf (s : Cpu (ExeLoader × ε) × SharedState) : View := ⟨s.1.pc, s.1.nextPc, dataOf s.1 s.2⟩

/-- The CPU is at an address of the loader, in KSEG1. -/
def InPort (s : Cpu (ExeLoader × ε) × SharedState) : Prop :=
  0xbf000200 ≤ s.1.pc.toNat ∧ s.1.pc.toNat < 0xbf080000

/-- One step of the CPU in the loader. -/
def Step (rest : Devices ε) (s s' : Cpu (ExeLoader × ε) × SharedState) : Prop :=
  InPort s ∧ Cpu.runNextInstruction rest.plugged s.1 s.2 = .ok s'

/-- The next step of the CPU, which is in the loader, takes an interrupt. -/
def TakesInterrupt (rest : Devices ε) (s : Cpu (ExeLoader × ε) × SharedState) : Prop :=
  ∃ s', Step rest s s' ∧ s'.1.entered = .interrupt :: s.1.entered

/-- The CPU gets from one view to another if it does not take an interrupt. -/
abbrev Goes (rest : Devices ε) (x y : View) : Prop :=
  Leads (Step rest) viewOf (TakesInterrupt rest) x y

/-! ### Synchronisation -/

/-- The peripherals can always be synchronised. -/
def Syncs (rest : Devices ε) : Prop := ∀ which e sh, ∃ r, rest.sync which e sh = .ok r

/-- Only the peripherals behind other addresses have changed, and no interrupt has been
masked or unmasked. -/
structure Unseen (inter : Interconnect (ExeLoader × ε)) (sh : SharedState)
    (inter' : Interconnect (ExeLoader × ε)) (sh' : SharedState) : Prop where
  memory : inter' = { inter with devices := (inter.devices.1, inter'.devices.2) }
  mask : sh'.irqState.mask = sh.irqState.mask

section

variable {inter inter' inter'' : Interconnect (ExeLoader × ε)} {sh sh' sh'' : SharedState}

lemma Unseen.refl (inter : Interconnect (ExeLoader × ε)) (sh : SharedState) :
    Unseen inter sh inter sh := ⟨rfl, rfl⟩

lemma Unseen.trans (h : Unseen inter sh inter' sh') (h' : Unseen inter' sh' inter'' sh'') :
    Unseen inter sh inter'' sh'' where
  memory := by rw [h'.memory, h.memory]
  mask := h'.mask.trans h.mask

lemma mask_foldl_assert (s : InterruptState) (asserted : List Interrupt) :
    (asserted.foldl InterruptState.assert s).mask = s.mask := by
  induction asserted generalizing s with
  | nil => rfl
  | cons which asserted ih => exact ih (s.assert which)

variable (hsync : Syncs rest)

include hsync

lemma unseen_syncDevice (inter : Interconnect (ExeLoader × ε)) (which : SyncedDevice)
    (sh : SharedState) : ∃ inter' sh',
      inter.syncDevice rest.plugged which sh = .ok (inter', sh') ∧ Unseen inter sh inter' sh' := by
  obtain ⟨⟨e, effects⟩, hr⟩ := hsync which inter.devices.2 sh
  refine ⟨{ inter with devices := (inter.devices.1, e) }, sh.apply effects, ?_, rfl,
    mask_foldl_assert sh.irqState effects.asserted⟩
  simp only [Interconnect.syncDevice, Devices.plugged, hr]
  rfl

lemma unseen_syncIfDue (inter : Interconnect (ExeLoader × ε)) (who : Peripheral)
    (which : SyncedDevice) (sh : SharedState) : ∃ inter' sh',
      inter.syncIfDue rest.plugged who which sh = .ok (inter', sh') ∧
        Unseen inter sh inter' sh' := by
  unfold Interconnect.syncIfDue
  split_ifs
  · exact unseen_syncDevice hsync inter which sh
  · exact ⟨inter, sh, rfl, .refl inter sh⟩

lemma unseen_sync (inter : Interconnect (ExeLoader × ε)) (sh : SharedState) : ∃ inter' sh',
    inter.sync rest.plugged sh = .ok (inter', sh') ∧ Unseen inter sh inter' sh' := by
  obtain ⟨i1, s1, h1, hgpu⟩ := unseen_syncIfDue hsync inter .gpu .gpu sh
  obtain ⟨i2, s2, h2, hpad⟩ := unseen_syncIfDue hsync i1 .padMemCard .padMemCard s1
  obtain ⟨i3, s3, h3, htimers⟩ := unseen_syncDevice hsync i2 .timers s2
  obtain ⟨i4, s4, h4, hcdrom⟩ := unseen_syncIfDue hsync i3 .cdRom .cdRom s3
  refine ⟨i4, s4, ?_, hgpu.trans (hpad.trans (htimers.trans hcdrom))⟩
  simp only [Interconnect.sync, h1, h2, h3, h4, ok_bind]

lemma exists_syncPeripherals (c : Cpu (ExeLoader × ε)) (sh : SharedState) : ∃ c' sh',
    c.syncPeripherals rest.plugged sh = .ok (c', sh') ∧ viewOf (c', sh') = viewOf (c, sh) := by
  unfold Cpu.syncPeripherals
  split_ifs
  · obtain ⟨inter, s, hinter, hunseen⟩ := unseen_sync hsync c.inter sh
    refine ⟨{ c with inter := inter }, { s with tk := s.tk.updateSyncPending }, ?_, ?_⟩
    · rw [hinter, ok_bind]
      rfl
    · have hmask : s.irqState.mask = sh.irqState.mask := hunseen.mask
      rw [viewOf, dataOf, hunseen.memory]
      simp only [hmask]
      rfl
  · exact ⟨c, sh, rfl, rfl⟩

end

/-! ### Fetches -/

/-- The bytes of a word are put together again. -/
lemma bytes_or (w : U32) :
    (((0 ||| ((w.setWidth 8 : U8).setWidth 32 : U32) <<< 0) |||
      (((w >>> 8).setWidth 8 : U8).setWidth 32 : U32) <<< 8) |||
      (((w >>> 16).setWidth 8 : U8).setWidth 32 : U32) <<< 16) |||
      (((w >>> 24).setWidth 8 : U8).setWidth 32 : U32) <<< 24 = w := by
  refine Eq.trans ?_ (word_of_bytes w)
  simp only [BitVec.natCast_eq_ofNat, BitVec.zero_or, BitVec.shiftLeft_zero]

section

variable {exe : ExeLoader} {n : ℕ} {w : U32} {ws : List U32}

/-- The code of the loader is read at the offset `LOADER_ENTRY_OFFSET`. -/
lemma load_code (exe : ExeLoader) {offset : U32} (h : offset.toNat = 0x200 + n) :
    exe.load offset = (exe.loader.getD n 0xff, exe) := by
  have hfifo : offset ≠ EXE_FIFO_OFFSET := by
    rintro rfl
    exact absurd h (by rw [show EXE_FIFO_OFFSET.toNat = 0x100 from rfl]; omega)
  have hle : LOADER_ENTRY_OFFSET ≤ offset := by
    rw [BitVec.le_def, h]
    exact Nat.le_add_right ..
  have hindex : (offset - LOADER_ENTRY_OFFSET).toNat = n := by
    rw [BitVec.toNat_sub_of_le hle, h]
    exact Nat.add_sub_cancel_left ..
  rw [load, if_neg hfifo, if_pos hle, hindex]

lemma load_word {offset : U32} (hsits : Assembler.Sits exe.loader n (w :: ws))
    (h : offset.toNat = 0x200 + n) (hn : n < 0x80000) :
    ParallelIo.load module exe .word offset = (w, exe) := by
  obtain ⟨before, after, hcode, rfl⟩ := hsits
  have hbyte (i : ℕ) (hi : i < 4) : module.load exe (offset + BitVec.ofNat 32 i) =
      ((littleEndian w).getD i 0xff, exe) := by
    have hoffset : (offset + BitVec.ofNat 32 i).toNat = 0x200 + (before.length + i) := by
      rw [BitVec.toNat_add, BitVec.toNat_ofNat]
      omega
    refine (load_code exe hoffset).trans (congrArg (·, exe) ?_)
    have hlength : i < (littleEndian w).length := hi
    rw [hcode, List.flatMap_cons, List.append_assoc, List.getD_eq_getElem?_getD,
      List.getElem?_append_right (by omega), Nat.add_sub_cancel_left,
      List.getElem?_append_left hlength, List.getD_eq_getElem?_getD]
  rw [ParallelIo.load, show Width.size .word = 4 from rfl]
  simp only [ParallelIo.loadFrom, hbyte 0 (by norm_num), hbyte 1 (by norm_num),
    hbyte 2 (by norm_num), hbyte 3 (by norm_num)]
  exact congrArg (·, exe) (bytes_or w)

/-- The word at the offset `n` of the code is fetched from its alias in KSEG1. -/
lemma fetch_word {c : Cpu (ExeLoader × ε)} (sh : SharedState)
    (hsits : Assembler.Sits c.inter.devices.1.loader n (w :: ws))
    (hpc : c.currentPc.toNat = 0xbf000200 + n) (hn : n < 0x7fe00) :
    c.fetchInstruction rest.plugged sh = .ok (⟨w⟩, c, sh.tick 4) := by
  have huncached : ¬(c.currentPc < 0xa0000000 ∧ c.inter.cacheControl.icacheEnabled = true) := by
    rintro ⟨hlt, -⟩
    have hlt' : c.currentPc.toNat < 0xa0000000 := BitVec.lt_def.mp hlt
    omega
  have habs : (maskRegion c.currentPc).toNat = 0x1f000200 + n := by
    rw [toNat_maskRegion_high _ (by omega), if_pos (by omega)]
    omega
  have hram : Map.RAM.contains (maskRegion c.currentPc) = none := by
    rw [contains_RAM, if_neg (by omega)]
  have hbios : Map.BIOS.contains (maskRegion c.currentPc) = none := by
    rw [contains_BIOS, if_neg (by omega)]
  have hlow : maskRegion c.currentPc ≥ Map.EXPANSION_1.start := by
    rw [ge_iff_le, BitVec.le_def, habs, show Map.EXPANSION_1.start.toNat = 0x1f000000 from rfl]
    omega
  have hhigh : maskRegion c.currentPc < Map.EXPANSION_1.start + Map.EXPANSION_1.length := by
    rw [BitVec.lt_def, habs,
      show (Map.EXPANSION_1.start + Map.EXPANSION_1.length).toNat = 0x1f080000 from rfl]
    omega
  have hexpansion : Map.EXPANSION_1.contains (maskRegion c.currentPc) =
      some (maskRegion c.currentPc - Map.EXPANSION_1.start) := by
    rw [Range.contains, if_pos ⟨hlow, hhigh⟩]
  have hoffset : (maskRegion c.currentPc - Map.EXPANSION_1.start).toNat = 0x200 + n := by
    rw [BitVec.toNat_sub_of_le hlow, habs, show Map.EXPANSION_1.start.toNat = 0x1f000000 from rfl]
    omega
  have hload := load_word hsits hoffset (by omega)
  rw [Cpu.fetchInstruction, if_neg huncached]
  simp only [Interconnect.loadInstruction, hram, hbios, hexpansion, Interconnect.loadDevice,
    Devices.plugged, hload]
  rfl

end

/-! ### Steps -/

/-- The execution of a word takes one view to another. -/
def Execs (rest : Devices ε) (w : U32) (x y : View) : Prop :=
  ∀ s, viewOf s = x → ∃ s', Cpu.decodeAndExecute rest.plugged ⟨w⟩ s.1 s.2 = .ok s' ∧ viewOf s' = y

/-- A step of the CPU executes the word at the PC, or takes an interrupt. -/
lemma goes_word {x y : View} {n : ℕ} {w : U32} {ws : List U32} (hsync : Syncs rest)
    (hsits : Assembler.Sits x.data.exe.loader n (w :: ws)) (hpc : x.pc.toNat = 0xbf000200 + n)
    (hn : n < 0x7fe00) (haligned : n % 4 = 0)
    (hop : (⟨w⟩ : Rustation.Instruction).opcode ≠ .cop1)
    (h : Execs rest w ⟨x.nextPc, x.nextPc + 4, x.data⟩ y) : Goes rest x y := by
  refine Leads.one ?_
  rintro ⟨c, sh⟩ rfl
  obtain ⟨c1, sh1, hc1, hview⟩ := exists_syncPeripherals hsync c sh
  have hpc1 : c1.pc = c.pc := congrArg View.pc hview
  have hnext : c1.nextPc = c.nextPc := congrArg View.nextPc hview
  have hdata : dataOf c1 sh1 = dataOf c sh := congrArg View.data hview
  have hexe : c1.inter.devices.1 = c.inter.devices.1 := congrArg Data.exe hdata
  have hfetch := @fetch_word _ rest n w ws { c1 with currentPc := c1.pc } sh1
    (by rw [hexe]; exact hsits) (by rw [hpc1]; exact hpc) hn
  have hrun : Cpu.runNextInstruction rest.plugged c sh =
      Cpu.dispatch rest.plugged ⟨w⟩ (Cpu.advance { c1 with currentPc := c1.pc }) (sh1.tick 4) := by
    refine Cpu.runNextInstruction_fetched ?_ hc1 hfetch
    change c.pc.toNat = _ at hpc
    omega
  have hport : InPort (c, sh) := by
    change c.pc.toNat = _ at hpc
    change 0xbf000200 ≤ c.pc.toNat ∧ c.pc.toNat < 0xbf080000
    omega
  by_cases hirq : Cop0.irqActive c1.cop0 sh1.irqState = true
  · refine .inl ⟨_, ⟨hport, hrun.trans (Cpu.dispatch_irq hirq hop)⟩, ?_⟩
    exact congrArg (Exception.interrupt :: ·) (congrArg Data.entered hdata)
  · obtain ⟨s', hexec, hs'⟩ := h (Cpu.advance { c1 with currentPc := c1.pc }, sh1.tick 4) (by
      rw [viewOf, View.mk.injEq]
      exact ⟨hnext, congrArg (· + 4) hnext, hdata⟩)
    refine .inr ⟨s', ⟨hport, ?_⟩, hs'⟩
    rw [hrun]
    exact (if_neg hirq).trans hexec

end ExeLoader

end Rustation
