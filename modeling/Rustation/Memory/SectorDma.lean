import Rustation.CdRom.Rx
import Rustation.Memory.Transfer
import Rustation.Memory.Words

/-!
A sector on its way to main RAM.

The DMA channel of the CD-ROM reads the RX buffer word by word and stores the words in RAM, at
an address that wraps.

* `Ram.store_frame`: a store to an aligned address leaves the other words alone;
* `transferWord_cdRom`: one round of the loop;
* `Received`: what the loop leaves in RAM, byte by byte, and `blockLoop_cdRom` the loop itself;
* `sector_received`: the whole transfer.
-/

namespace Rustation

open Fallible

variable {I : CdImage}

/-! ### Words in RAM -/

namespace Ram

lemma store_frame {ram ram' : Ram} {addr val : U32} (haddr : addr.toNat % 4 = 0)
    (h : ram.store .word addr val = .ok ram') {b : Fin RAM_SIZE}
    (hb : b.val / 4 ≠ (cell addr).val) : ram' b = ram b := by
  rw [store, mirror_of_aligned haddr] at h
  refine Bytes.store_frame h ?_
  change _ ∨ _ + 4 ≤ _
  omega

/-- A word depends on its four bytes only. -/
lemma word_congr {ram ram' : Ram} {i : Fin 524288}
    (h : ∀ b : Fin RAM_SIZE, b.val / 4 = i.val → ram' b = ram b) : ram'.word i = ram.word i := by
  rw [word, word, Bytes.load_congr fun b hlo hhi => h b (by omega)]

/-- The address of a word of a block. -/
def blockAddr (addr : U32) (k : ℕ) : U32 := addr + BitVec.ofNat 32 (4 * k)

lemma blockAddr_zero (addr : U32) : blockAddr addr 0 = addr := BitVec.add_zero addr

lemma blockAddr_succ (addr : U32) (k : ℕ) : blockAddr (addr + 4) k = blockAddr addr (k + 1) := by
  rw [blockAddr, blockAddr, BitVec.add_assoc, Nat.mul_add, Nat.add_comm, BitVec.ofNat_add]
  rfl

/-- The words of a block that fits in RAM are different. -/
lemma cell_blockAddr_ne (addr : U32) {j k : ℕ} (hj : j < 524288) (hk : k < 524288) (h : j ≠ k) :
    cell (blockAddr addr j) ≠ cell (blockAddr addr k) := by
  intro heq
  have hval := congrArg Fin.val heq
  simp only [cell, blockAddr, BitVec.toNat_add, BitVec.toNat_ofNat] at hval
  omega

end Ram

namespace Bus

/-! ### The loop of the channel -/

/-- One round of the CD-ROM channel. -/
lemma transferWord_cdRom {bus : Bus I} (hlen : bus.cdRom.rxLen.toNat ≤ 2352)
    (hactive : bus.cdRom.rxActive = true)
    (hin : bus.cdRom.rxIndex.toNat + 4 ≤ bus.cdRom.rxLen.toNat) (addr : U32) (n : ℕ) :
    ∃ ram', bus.transferWord .cdRom .toRam addr n
        = .ok { bus with ram := ram', cdRom := bus.cdRom.afterBytes 4 }
      ∧ ram'.word (Ram.cell addr) = bus.cdRom.rxWord bus.cdRom.rxIndex.toNat
      ∧ ∀ b, b.val / 4 ≠ (Ram.cell addr).val → ram' b = bus.ram b := by
  obtain ⟨ram', hram', hword⟩ := bus.ram.store_aligned (Ram.dmaMask_aligned addr)
    (bus.cdRom.rxWord bus.cdRom.rxIndex.toNat)
  refine ⟨ram', ?_, ?_, fun b hb => ?_⟩
  · rw [transferWord, receiveWord, CdRom.dmaReadWord_eq hlen hactive hin, ok_bind]
    dsimp only
    rw [pure_eq_ok, ok_bind]
    dsimp only
    rw [hram', ok_bind, pure_eq_ok]
  · rw [hword, Ram.cell_dmaMask, Function.update_self]
  · refine Ram.store_frame (Ram.dmaMask_aligned addr) hram' ?_
    rw [Ram.cell_dmaMask]
    exact hb

/-- The RAM after `n` words of the RX buffer, stored from `addr` on. -/
structure Received (cd : CdRom I) (n : ℕ) (addr : U32) (ram ram' : Ram) : Prop where
  words : ∀ k < n, ram'.word (Ram.cell (Ram.blockAddr addr k))
    = cd.rxWord (cd.rxIndex.toNat + 4 * k)
  others : ∀ b, (∀ k < n, b.val / 4 ≠ (Ram.cell (Ram.blockAddr addr k)).val) → ram' b = ram b

/-- The loop of the CD-ROM channel: the words are stored one after the other. -/
lemma blockLoop_cdRom {n : ℕ} {bus : Bus I} (hlen : bus.cdRom.rxLen.toNat ≤ 2352)
    (hactive : 0 < n → bus.cdRom.rxActive = true)
    (hin : bus.cdRom.rxIndex.toNat + 4 * n ≤ bus.cdRom.rxLen.toNat) (addr : U32)
    (sh : SharedState) :
    ∃ ram' sh', blockLoop .cdRom .toRam 4 n addr bus sh
        = .ok ({ bus with ram := ram', cdRom := bus.cdRom.afterBytes (4 * n) }, sh')
      ∧ Received bus.cdRom n addr bus.ram ram' := by
  induction n generalizing addr bus sh with
  | zero =>
      refine ⟨bus.ram, sh, ?_, fun k hk => absurd hk (Nat.not_lt_zero k), fun _ _ => rfl⟩
      rw [Nat.mul_zero, CdRom.afterBytes_zero]
      rfl
  | succ n ih =>
      have hactive := hactive n.succ_pos
      obtain ⟨ram₁, h₁, hword, hrest⟩ := transferWord_cdRom hlen hactive (by omega) addr (n + 1)
      have hindex := CdRom.afterBytes_index (k := 4) hlen (by omega)
      have hin' : (bus.cdRom.afterBytes 4).rxIndex.toNat + 4 * n
          ≤ (bus.cdRom.afterBytes 4).rxLen.toNat := by
        rw [hindex]
        change _ ≤ bus.cdRom.rxLen.toNat
        omega
      obtain ⟨ram₂, sh₂, h₂, hreceived⟩ :=
        @ih { bus with ram := ram₁, cdRom := bus.cdRom.afterBytes 4 } hlen
          (fun hn => CdRom.afterBytes_active hactive (by omega)) hin' (addr + 4) (sh.tick 1)
      refine ⟨ram₂, sh₂, ?_, fun k hk => ?_, fun b hb => ?_⟩
      · rw [blockLoop, h₁, ok_bind, h₂]
        dsimp only
        rw [CdRom.afterBytes_afterBytes hlen (by omega), Nat.mul_add, Nat.add_comm (4 * n)]
      · cases k with
        | zero =>
            -- the words that follow lie elsewhere
            rw [Ram.blockAddr_zero, Nat.mul_zero, Nat.add_zero, ← hword]
            refine Ram.word_congr fun b hb => hreceived.others b fun j hj heq => ?_
            rw [Ram.blockAddr_succ] at heq
            refine Ram.cell_blockAddr_ne addr (show j + 1 < 524288 by omega)
              (show 0 < 524288 by omega) j.succ_ne_zero (Fin.ext ?_)
            rw [Ram.blockAddr_zero, ← heq, hb]
        | succ k =>
            have hk' := hreceived.words k (by omega)
            rw [Ram.blockAddr_succ] at hk'
            rw [hk', hindex, Nat.mul_add, Nat.add_assoc, Nat.add_comm 4]
            rfl
      · rw [hreceived.others b fun j hj => ?_]
        · refine hrest b ?_
          have h0 := hb 0 n.succ_pos
          rw [Ram.blockAddr_zero] at h0
          exact h0
        · rw [Ram.blockAddr_succ]
          exact hb (j + 1) (by omega)

/-- **The path of a sector.**  A transfer of `n` words through the CD-ROM channel, from the start of
the RX buffer and no longer than the sector, stores the words of the buffer in RAM from the base
address on, with wrap-around, and nothing else; it leaves the RX buffer `4 * n` bytes further, and
active if bytes are left or if nothing was read. -/
theorem sector_received {bus : Bus I} {n : U32}
    (hactive : bus.cdRom.rxActive = true) (hindex : bus.cdRom.rxIndex = 0)
    (hlen : bus.cdRom.rxLen.toNat ≤ 2352) (hdirection : (bus.dma.channel .cdRom).direction = .toRam)
    (hstep : (bus.dma.channel .cdRom).step = .increment)
    (hsize : (bus.dma.channel .cdRom).transferSize = some n)
    (hin : 4 * n.toNat ≤ bus.cdRom.rxLen.toNat) (sh : SharedState) :
    ∃ ram' cd' sh', bus.doDmaBlock sh .cdRom = .ok ({ bus with ram := ram', cdRom := cd' }, sh')
      ∧ (∀ k < n.toNat, ram'.word
          (Ram.cell ((bus.dma.channel .cdRom).base + BitVec.ofNat 32 (4 * k)))
        = bus.cdRom.rxWord (4 * k))
      ∧ (∀ b, (∀ k < n.toNat, b.val / 4
          ≠ (Ram.cell ((bus.dma.channel .cdRom).base + BitVec.ofNat 32 (4 * k))).val) →
        ram' b = bus.ram b)
      ∧ cd'.rxIndex.toNat = 4 * n.toNat
      ∧ (cd'.rxActive = true ↔ 4 * n.toNat < bus.cdRom.rxLen.toNat ∨ n = 0) := by
  have hzero : bus.cdRom.rxIndex.toNat = 0 := by
    rw [hindex]
    rfl
  obtain ⟨ram', sh', hloop, hreceived⟩ := blockLoop_cdRom hlen (fun _ => hactive)
    (by rw [hzero, Nat.zero_add]; exact hin) (bus.dma.channel .cdRom).base sh
  refine ⟨ram', bus.cdRom.afterBytes (4 * n.toNat), sh', ?_, fun k hk => ?_, hreceived.others, ?_,
    ?_⟩
  · rw [doDmaBlock]
    simp only [hstep, hsize, hdirection]
    exact hloop
  · have hword := hreceived.words k hk
    rw [hzero, Nat.zero_add] at hword
    exact hword
  · rw [CdRom.afterBytes_index hlen (by omega), hzero, Nat.zero_add]
  · have hn : n = 0 ↔ n.toNat = 0 := BitVec.toNat_inj.symm
    rw [CdRom.afterBytes, CdRom.withRx, hactive, hzero, hn]
    simp only [Bool.true_and, Bool.or_eq_true, beq_iff_eq, decide_eq_true_eq]
    omega

/-- The bus with an active transfer of `len` bytes, numbered, and the CD-ROM channel set up for
`n` words to the last word of RAM and the first ones. -/
def sectorBus (len n : U16) : Bus noImage where
  ram := Ram.new
  dma := Dma.new.setChannel .cdRom { Dma.Channel.new with base := 0x1ffffc, blockSize := n }
  gpu := .new .ntsc
  mdec := .new
  cdRom :=
    { CdRom.new none with
      rxActive := true
      rxLen := len
      rxBuffer := Vector.ofFn fun i => BitVec.ofNat 8 i.val }
  calls := []

lemma rxWord_sectorBus (len n : U16) {i : ℕ} (hi : i + 3 < 2352) :
    (sectorBus len n).cdRom.rxWord i
      = (BitVec.ofNat 8 i).setWidth 32 ||| (BitVec.ofNat 8 (i + 1)).setWidth 32 <<< 8
        ||| (BitVec.ofNat 8 (i + 2)).setWidth 32 <<< 16
        ||| (BitVec.ofNat 8 (i + 3)).setWidth 32 <<< 24 := by
  have hbyte (j : ℕ) (hj : j < 2352) : (sectorBus len n).cdRom.rxByte j = BitVec.ofNat 8 j := by
    rw [CdRom.rxByte, sectorBus, Vector.getElem?_eq_getElem hj, Vector.getElem_ofFn]
    rfl
  rw [CdRom.rxWord, hbyte i (by omega), hbyte (i + 1) (by omega), hbyte (i + 2) (by omega),
    hbyte (i + 3) hi]

/-- Two words, the second one after the wrap-around, which end the transfer. -/
theorem sector_received_wrapping :
    ∃ ram' cd' sh', (sectorBus 8 2).doDmaBlock .new .cdRom
        = .ok ({ sectorBus 8 2 with ram := ram', cdRom := cd' }, sh')
      ∧ ram'.word 524287 = 0x03020100 ∧ ram'.word 0 = 0x07060504 ∧ ¬cd'.rxActive = true := by
  have hsize : ((sectorBus 8 2).dma.channel .cdRom).transferSize = some 2 := rfl
  have hlen : (sectorBus 8 2).cdRom.rxLen.toNat = 8 := rfl
  obtain ⟨ram', cd', sh', hdma, hwords, -, -, hactive⟩ :=
    sector_received (I := noImage) rfl rfl (by rw [hlen]; omega) rfl rfl hsize
      (by rw [hlen]; decide)
      .new
  refine ⟨ram', cd', sh', hdma, ?_, ?_, ?_⟩
  · refine (hwords 0 (by decide)).trans ?_
    rw [rxWord_sectorBus 8 2 (by omega)]
    decide
  · refine (hwords 1 (by decide)).trans ?_
    rw [rxWord_sectorBus 8 2 (by omega)]
    decide
  · rw [hactive, hlen]
    decide

/-- A transfer of no words leaves an empty buffer active. -/
theorem sector_received_empty :
    ¬∀ (bus : Bus noImage) (n : U32), bus.cdRom.rxActive = true → bus.cdRom.rxIndex = 0 →
      bus.cdRom.rxLen.toNat ≤ 2352 → (bus.dma.channel .cdRom).direction = .toRam →
      (bus.dma.channel .cdRom).step = .increment →
      (bus.dma.channel .cdRom).transferSize = some n → 4 * n.toNat ≤ bus.cdRom.rxLen.toNat →
      ∃ bus' sh', bus.doDmaBlock .new .cdRom = .ok (bus', sh')
        ∧ (bus'.cdRom.rxActive = true ↔ 4 * n.toNat < bus.cdRom.rxLen.toNat) := by
  intro h
  obtain ⟨bus', sh', hdma, hactive⟩ :=
    h (sectorBus 0 0) 0 rfl rfl (Nat.zero_le _) rfl rfl rfl (Nat.zero_le _)
  obtain ⟨rfl, -⟩ := Prod.mk.inj (Except.ok.inj hdma)
  exact absurd (hactive.mp rfl) (by decide)

end Bus

end Rustation
