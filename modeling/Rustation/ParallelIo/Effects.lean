import Rustation.Assembler.Transfers
import Rustation.ParallelIo.Execution

/-!
What the instructions of the loader do to the view of the machine.

* `Data.read`, `Data.write`: the memory of the loader.  It consists of main RAM, the FIFO,
  the cache control register, the interrupt mask, which is cleared only, and the
  instruction cache while it is isolated;
* `effect`: the effect of an instruction without a transfer of control;
* `plain_effect`: the word of an instruction of the machine has that effect on the CPU.
-/

namespace Rustation

namespace ExeLoader

open Fallible Asm

instance (addr : U32) : Decidable (InRam addr) := inferInstanceAs (Decidable (_ = true))

/-! ### Registers and memory -/

namespace Data

def reg (d : Data) (q : RegisterIndex) : U32 := d.regs.val q

/-- Execute the pending load. -/
def settle (d : Data) : Data := { d with regs := d.regs.set d.load.1 d.load.2, load := (0, 0) }

/-- Execute the pending load, then write `v` to a register. -/
def put (d : Data) (q : RegisterIndex) (v : U32) : Data :=
  { d with regs := (d.regs.set d.load.1 d.load.2).set q v, load := (0, 0) }

/-- Execute the pending load and set up the next one. -/
def pend (d : Data) (q : RegisterIndex) (v : U32) : Data :=
  { d with
    regs := if d.load.1 ≠ q then d.regs.set d.load.1 d.load.2 else d.regs
    load := (q, v) }

def isolated (d : Data) : Bool := d.sr &&& 0x10000 != 0

/-- The access lies in main RAM and does not run over the end of a mirror. -/
def Fits (width : Width) (addr : U32) : Prop :=
  InRam addr ∧ addr.toNat % 2097152 + width.size ≤ RAM_SIZE

instance (width : Width) (addr : U32) : Decidable (Fits width addr) :=
  inferInstanceAs (Decidable (_ ∧ _))

/-- The value that is read, and what reading does to the FIFO. -/
def read (d : Data) (width : Width) (addr : U32) : Option (U32 × Data) :=
  if Fits width addr then
    match Bytes.load d.ram (addr.toNat % 2097152) width.size with
    | .ok v => some (v, d)
    | .error _ => none
  else if addr = EXE_FIFO_ADDRESS ∧ width = .byte then
    let (b, exe) := d.exe.load EXE_FIFO_OFFSET
    some (b.setWidth 32, { d with exe := exe })
  else if addr = Map.CACHE_CONTROL.start ∧ width = .word then some (d.cacheControl.val, d)
  else none

/-- The line that a write to the isolated cache leaves. -/
def maintained (d : Data) (addr : U32) : ICacheLine :=
  if d.cacheControl.tagTestMode then (d.icache (Cpu.lineIndex addr)).invalidate
  else (d.icache (Cpu.lineIndex addr)).setInstruction (addr >>> 2 &&& 3) ⟨0⟩

def write (d : Data) (width : Width) (addr val : U32) : Option Data :=
  if d.isolated then
    if d.cacheControl.icacheEnabled ∧ width = .word ∧ val = 0 then
      some { d with icache := Function.update d.icache (Cpu.lineIndex addr) (d.maintained addr) }
    else none
  else if Fits width addr then
    some { d with ram := d.ram.written (addr.toNat % 2097152) val width.size }
  else if addr = Map.IRQ_CONTROL.start + 4 ∧ val = 0 then some { d with mask := 0 }
  else if addr = Map.CACHE_CONTROL.start ∧ width = .word then
    some { d with cacheControl := ⟨val⟩ }
  else none

end Data

/-! ### Instructions -/

/-- An access that must be aligned to its width. -/
def aligned (width : Width) (addr : U32) (access : U32 → Option Data) : Option Data :=
  if addr.toNat % width.size = 0 then access addr else none

/-- The effect of an instruction that does not transfer control. -/
def effect (d : Data) : Asm.Instruction → Option Data
  | .globalLabel _ | .localLabel _ => some d
  | .nop => some d.settle
  | .lui r u => some (d.put r.index (u.setWidth 32 <<< 16))
  | .ori r s u => some (d.put r.index (d.reg s.index ||| u.setWidth 32))
  | .li r v => some (d.put r.index v)
  | .move r s => some (d.put r.index (d.reg s.index))
  | .addiu r s i => some (d.put r.index (d.reg s.index + i.signExtend 32))
  | .add r s t => (Cpu.checked ((d.reg s.index).toInt + (d.reg t.index).toInt)).map (d.put r.index)
  | .and r s t => some (d.put r.index (d.reg s.index &&& d.reg t.index))
  | .or r s t => some (d.put r.index (d.reg s.index ||| d.reg t.index))
  | .lb r s i => (d.read .byte (d.reg s.index + i.signExtend 32)).map fun x =>
      x.2.pend r.index ((x.1.setWidth 8).signExtend 32)
  | .lw r s i => aligned .word (d.reg s.index + i.signExtend 32) fun addr =>
      (d.read .word addr).map fun x => x.2.pend r.index x.1
  | .sb r s i => d.settle.write .byte (d.reg s.index + i.signExtend 32) (d.reg r.index)
  | .sh r s i => aligned .halfWord (d.reg s.index + i.signExtend 32) fun addr =>
      d.settle.write .halfWord addr (d.reg r.index)
  | .sw r s i => aligned .word (d.reg s.index + i.signExtend 32) fun addr =>
      d.settle.write .word addr (d.reg r.index)
  | .mfc0 r n => if n = 12 then some (d.pend r.index d.sr) else none
  | .mtc0 r n => if n = 12 then some { d.settle with sr := d.reg r.index } else none
  | _ => none

/-! ### Memory accesses of the CPU -/

section

variable {ε : Type} (rest : Devices ε) (c : Cpu (ExeLoader × ε)) (sh : SharedState)

/-- Writes of the loader are writes of the CPU. -/
lemma memStore_of_write {width : Width} {addr val : U32} {d : Data}
    (h : (dataOf c sh).write width addr val = some d) :
    ∃ s, c.memStore rest.plugged width sh addr val = .ok s ∧ viewOf s = ⟨c.pc, c.nextPc, d⟩ := by
  unfold Data.write at h
  by_cases hiso : (dataOf c sh).isolated = true
  · have hisolated : c.cop0.cacheIsolated = true := hiso
    rw [if_pos hiso] at h
    split_ifs at h with hword
    obtain ⟨henabled, rfl, rfl⟩ := hword
    obtain rfl := Option.some.inj h
    have henabled' : c.inter.cacheControl.icacheEnabled = true := henabled
    refine ⟨(c.setLine (Cpu.lineIndex addr) ((dataOf c sh).maintained addr), sh), ?_, rfl⟩
    rw [Cpu.memStore, if_pos hisolated, Cpu.cacheMaintenance]
    cases htest : c.inter.cacheControl.tagTestMode with
    | true => simp [henabled', Width.size, Data.maintained, dataOf, htest]
    | false => simp [henabled', Width.size, Data.maintained, dataOf, htest]
  · have hisolated : ¬c.cop0.cacheIsolated = true := hiso
    rw [if_neg hiso] at h
    rw [Cpu.memStore, if_neg hisolated]
    split_ifs at h with hfits hmask hcontrol
    · obtain rfl := Option.some.inj h
      refine ⟨({ c with inter := { c.inter with
        ram := c.inter.ram.written (addr.toNat % 2097152) val width.size } }, sh), ?_, rfl⟩
      rw [hfits.1.store, Bytes.store_eq_written _ _ hfits.2]
      rfl
    · obtain rfl := Option.some.inj h
      obtain ⟨rfl, rfl⟩ := hmask
      exact ⟨_, rfl, rfl⟩
    · obtain rfl := Option.some.inj h
      obtain ⟨rfl, rfl⟩ := hcontrol
      exact ⟨_, rfl, rfl⟩

/-- A byte is taken from the FIFO. -/
lemma load_fifo (exe : ExeLoader) : ParallelIo.load module exe .byte EXE_FIFO_OFFSET =
    ((exe.load EXE_FIFO_OFFSET).1.setWidth 32, (exe.load EXE_FIFO_OFFSET).2) := by
  simp [ParallelIo.load, ParallelIo.loadFrom, module, Width.size]

/-- Reads of the loader are reads of the CPU. -/
lemma memLoad_of_read {width : Width} {addr v : U32} {d : Data}
    (h : (dataOf c sh).read width addr = some (v, d)) :
    ∃ c' sh', c.memLoad rest.plugged width sh addr = .ok (v, c', sh') ∧
      viewOf (c', sh') = ⟨c.pc, c.nextPc, d⟩ := by
  unfold Data.read at h
  split_ifs at h with hfits hfifo hcontrol
  · rw [Cpu.memLoad, hfits.1.load]
    split at h
    next x hx =>
      obtain ⟨rfl, rfl⟩ := Prod.mk.inj (Option.some.inj h)
      have hload : Bytes.load c.inter.ram (addr.toNat % 2097152) width.size = .ok x := hx
      exact ⟨c, sh.tick 2, by rw [hload]; rfl, rfl⟩
    next => cases h
  · obtain ⟨rfl, rfl⟩ := hfifo
    obtain ⟨rfl, rfl⟩ := Prod.mk.inj (Option.some.inj h)
    refine ⟨{ c with inter := { c.inter with
      devices := ((c.inter.devices.1.load EXE_FIFO_OFFSET).2, c.inter.devices.2) } }, sh.tick 2,
      ?_, rfl⟩
    have hport : c.memLoad rest.plugged .byte sh EXE_FIFO_ADDRESS =
        .ok ((ParallelIo.load module c.inter.devices.1 .byte EXE_FIFO_OFFSET).1,
          { c with inter := { c.inter with
            devices := ((ParallelIo.load module c.inter.devices.1 .byte EXE_FIFO_OFFSET).2,
              c.inter.devices.2) } }, sh.tick 2) := rfl
    rw [hport, load_fifo]
    rfl
  · obtain ⟨rfl, rfl⟩ := hcontrol
    obtain ⟨rfl, rfl⟩ := Prod.mk.inj (Option.some.inj h)
    exact ⟨_, _, rfl, rfl⟩

end

/-! ### Execution -/

section

variable {ε : Type} {rest : Devices ε} {asm : Assembler} {m : MachineCode} {d d' : Data}

/-- The execution of a word has an effect on the data and leaves the PC alone. -/
def Plain (rest : Devices ε) (w : U32) (d d' : Data) : Prop :=
  ∀ p n, Execs rest w ⟨p, n, d⟩ ⟨p, n, d'⟩

lemma plain_of {op : Opcode} {os : List Operand} (hd : Decoded asm m op os)
    (h : ∀ (c : Cpu (ExeLoader × ε)) sh, dataOf c sh = d →
      ∃ s, Cpu.execute rest.plugged op ⟨m.word⟩ c sh = .ok s ∧ viewOf s = ⟨c.pc, c.nextPc, d'⟩) :
    Plain rest m.word d d' := by
  rintro p n ⟨c, sh⟩ hview
  obtain ⟨rfl, rfl, hdata⟩ := View.mk.inj hview
  obtain ⟨s, hs, hviews⟩ := h c (sh.tick 1) hdata
  exact ⟨s, (congrArg (Cpu.execute _ · _ c _) hd.opcode).trans hs, hviews⟩

lemma address_eq {op : Opcode} {os : List Operand} {r : Register} {i : I16}
    (hd : Decoded asm m op os) (hs : .s r ∈ os) (hi : .immSe i ∈ os) (c : Cpu (ExeLoader × ε)) :
    c.address ⟨m.word⟩ = c.reg r.index + i.signExtend 32 := by
  rw [Cpu.address, hd.eq_s hs, hd.found (.immSe i) hi]

section

variable (rest) (c : Cpu (ExeLoader × ε)) (sh : SharedState) (w : Rustation.Instruction)
  {addr : U32} {q : RegisterIndex}

/-- Loads of the CPU have the effect of reads. -/
lemma loadTo_of_read (width : Width) (extend : U32 → U32) (haddr : c.address w = addr)
    (ht : w.t = q)
    (h : ((dataOf c sh).read width addr).map (fun x => x.2.pend q (extend x.1)) = some d') :
    ∃ s, Cpu.loadTo rest.plugged width extend w c sh = .ok s ∧ viewOf s = ⟨c.pc, c.nextPc, d'⟩ := by
  obtain ⟨⟨v, d⟩, hread, rfl⟩ := Option.map_eq_some_iff.mp h
  obtain ⟨c', sh', hload, hview⟩ := memLoad_of_read rest c sh hread
  obtain ⟨hpc, hnext, rfl⟩ := View.mk.inj hview
  refine ⟨(c'.delayedLoadChain q (extend v), sh'), ?_, ?_⟩
  · rw [Cpu.loadTo, haddr, hload, ht]
    rfl
  · rw [← hpc, ← hnext]
    unfold Cpu.delayedLoadChain viewOf dataOf Data.pend
    dsimp only
    split_ifs <;> rfl

/-- Stores of the CPU have the effect of writes. -/
lemma storeAligned_of_write (width : Width) {v : U32} (haddr : c.address w = addr)
    (h : aligned width addr (fun addr => (dataOf c sh).settle.write width addr v) = some d') :
    ∃ s, Cpu.storeAligned rest.plugged width .storeAddressError v w c sh = .ok s ∧
      viewOf s = ⟨c.pc, c.nextPc, d'⟩ := by
  rw [aligned] at h
  split_ifs at h with haligned
  obtain ⟨s, hs, hview⟩ := memStore_of_write rest c.delayedLoad sh h
  refine ⟨s, ?_, hview⟩
  rw [← hs, ← haddr]
  exact if_pos (haddr ▸ haligned)

end

/-- The word of an instruction of the machine has the effect of the instruction. -/
lemma plain_effect {i : Asm.Instruction} {op : Opcode} {os : List Operand}
    (hi : i.decoding = some (op, os)) (hd : Decoded asm m op os) (h : effect d i = some d') :
    Plain rest m.word d d' := by
  refine plain_of hd fun c sh hdata => ?_
  subst hdata
  cases i with
  | lui r u =>
      obtain ⟨rfl, rfl⟩ := Prod.mk.inj (Option.some.inj hi)
      obtain rfl := Option.some.inj h
      have himm : (⟨m.word⟩ : Rustation.Instruction).imm = u.setWidth 32 :=
        hd.found (.imm u) (by simp)
      refine ⟨_, rfl, ?_⟩
      rw [← hd.eq_t (r := r) (by simp), ← himm]
      rfl
  | ori r s u =>
      obtain ⟨rfl, rfl⟩ := Prod.mk.inj (Option.some.inj hi)
      obtain rfl := Option.some.inj h
      have himm : (⟨m.word⟩ : Rustation.Instruction).imm = u.setWidth 32 :=
        hd.found (.imm u) (by simp)
      refine ⟨_, rfl, ?_⟩
      rw [← hd.eq_t (r := r) (by simp), ← hd.eq_s (r := s) (by simp), ← himm]
      rfl
  | addiu r s i =>
      obtain ⟨rfl, rfl⟩ := Prod.mk.inj (Option.some.inj hi)
      obtain rfl := Option.some.inj h
      have himm : (⟨m.word⟩ : Rustation.Instruction).immSe = i.signExtend 32 :=
        hd.found (.immSe i) (by simp)
      refine ⟨_, rfl, ?_⟩
      rw [← hd.eq_t (r := r) (by simp), ← hd.eq_s (r := s) (by simp), ← himm]
      rfl
  | add r s t =>
      obtain ⟨rfl, rfl⟩ := Prod.mk.inj (Option.some.inj hi)
      obtain ⟨v, hv, rfl⟩ := Option.map_eq_some_iff.mp h
      have hs := hd.eq_s (r := s) (by simp)
      have ht := hd.eq_t (r := t) (by simp)
      refine ⟨(c.writeBack r.index v, sh), ?_, rfl⟩
      have hsum : Cpu.checked ((c.reg (⟨m.word⟩ : Rustation.Instruction).s).toInt +
          (c.reg (⟨m.word⟩ : Rustation.Instruction).t).toInt) = some v := by
        rw [hs, ht]
        exact hv
      rw [← hd.eq_d (r := r) (by simp)]
      simp only [Cpu.execute, Cpu.opAdd, hsum]
      rfl
  | and r s t | or r s t =>
      obtain ⟨rfl, rfl⟩ := Prod.mk.inj (Option.some.inj hi)
      obtain rfl := Option.some.inj h
      refine ⟨_, rfl, ?_⟩
      rw [← hd.eq_d (r := r) (by simp), ← hd.eq_s (r := s) (by simp), ← hd.eq_t (r := t) (by simp)]
      rfl
  | lb r s i =>
      obtain ⟨rfl, rfl⟩ := Prod.mk.inj (Option.some.inj hi)
      exact loadTo_of_read rest c sh _ .byte (fun v => (v.setWidth 8).signExtend 32)
        (address_eq hd (by simp) (by simp) c) (hd.eq_t (by simp)) h
  | lw r s i =>
      obtain ⟨rfl, rfl⟩ := Prod.mk.inj (Option.some.inj hi)
      have haddr := address_eq hd (r := s) (i := i) (by simp) (by simp) c
      rw [effect, aligned] at h
      split_ifs at h with haligned
      obtain ⟨s', hs', hview⟩ := loadTo_of_read rest c sh _ .word id haddr
        (hd.eq_t (r := r) (by simp)) h
      refine ⟨s', ?_, hview⟩
      rw [← hs']
      exact if_pos (haddr ▸ haligned)
  | sb r s i =>
      obtain ⟨rfl, rfl⟩ := Prod.mk.inj (Option.some.inj hi)
      have haddr := address_eq hd (r := s) (i := i) (by simp) (by simp) c
      obtain ⟨s', hs', hview⟩ := memStore_of_write rest c.delayedLoad sh h
      refine ⟨s', ?_, hview⟩
      rw [← hs', Cpu.execute, Cpu.opSb, haddr, hd.eq_t (r := r) (by simp)]
      rfl
  | sh r s i =>
      obtain ⟨rfl, rfl⟩ := Prod.mk.inj (Option.some.inj hi)
      rw [Cpu.execute, Cpu.opSh, hd.eq_t (r := r) (by simp)]
      exact storeAligned_of_write rest c sh _ .halfWord (address_eq hd (by simp) (by simp) c) h
  | sw r s i =>
      obtain ⟨rfl, rfl⟩ := Prod.mk.inj (Option.some.inj hi)
      rw [Cpu.execute, Cpu.opSw, hd.eq_t (r := r) (by simp)]
      exact storeAligned_of_write rest c sh _ .word (address_eq hd (by simp) (by simp) c) h
  | mfc0 r n =>
      obtain ⟨rfl, rfl⟩ := Prod.mk.inj (Option.some.inj hi)
      rw [effect] at h
      split_ifs at h with hn
      obtain rfl := Option.some.inj h
      subst hn
      refine ⟨(c.delayedLoadChain r.index c.cop0.sr, sh), ?_, ?_⟩
      · rw [Cpu.execute, hd.found .fromCop0 (by simp), Cpu.opMfc0, hd.eq_d (r := ⟨12⟩) (by simp),
          hd.eq_t (r := r) (by simp)]
        rfl
      · unfold Cpu.delayedLoadChain viewOf dataOf Data.pend
        dsimp only
        split_ifs <;> rfl
  | mtc0 r n =>
      obtain ⟨rfl, rfl⟩ := Prod.mk.inj (Option.some.inj hi)
      rw [effect] at h
      split_ifs at h with hn
      obtain rfl := Option.some.inj h
      subst hn
      refine ⟨({ c.delayedLoad with cop0 := c.cop0.setSr (c.reg r.index) }, sh), ?_, rfl⟩
      rw [Cpu.execute, hd.found .toCop0 (by simp), Cpu.opMtc0, hd.eq_d (r := ⟨12⟩) (by simp),
        hd.eq_t (r := r) (by simp)]
      rfl
  | globalLabel | localLabel | nop | move | li => cases hi
  | _ => cases h

lemma plain_nop (hd : Decoded asm m .sll [.d R0, .t R0, .shift 0]) :
    Plain rest m.word d d.settle := by
  refine plain_of hd fun c sh hdata => ⟨(c.delayedLoad, sh), ?_, ?_⟩
  · rw [Cpu.execute, Cpu.opSll, Cpu.writeBack, hd.eq_d (r := R0) (by simp), Cpu.setReg,
      show R0.index = 0 from rfl, Regs.set_zero]
    rfl
  · subst hdata
    rfl

lemma plain_move {r s : Register} (hd : Decoded asm m .addu [.d r, .s s, .t R0]) :
    Plain rest m.word d (d.put r.index (d.reg s.index)) := by
  refine plain_of hd fun c sh hdata => ⟨(c.writeBack r.index (c.reg s.index), sh), ?_, ?_⟩
  · have hsum : c.reg s.index + c.reg R0.index = c.reg s.index := by
      rw [reg_R0]
      exact BitVec.add_zero _
    rw [Cpu.execute, Cpu.opAddu, hd.eq_d (r := r) (by simp), hd.eq_s (r := s) (by simp),
      hd.eq_t (r := R0) (by simp), hsum]
    rfl
  · subst hdata
    rfl

/-! ### Transfers of control -/

variable {p n : U32} {r s : Register} {l : Label}

lemma execs_of {op : Opcode} {os : List Operand} {y : View} (hd : Decoded asm m op os)
    (h : ∀ (c : Cpu (ExeLoader × ε)) sh, viewOf (c, sh) = ⟨p, n, d⟩ →
      ∃ c', Cpu.execute rest.plugged op ⟨m.word⟩ c sh = .ok (c', sh) ∧ viewOf (c', sh) = y) :
    Execs rest m.word ⟨p, n, d⟩ y := by
  rintro ⟨c, sh⟩ hview
  obtain ⟨c', hc', hviews⟩ := h c (sh.tick 1) hview
  exact ⟨_, (congrArg (Cpu.execute _ · _ c _) hd.opcode).trans hc', hviews⟩

/-- A conditional branch, `test` being its condition. -/
lemma execs_branchIf {op : Opcode} {os : List Operand} {off : I16} {test : Bool}
    (hd : Decoded asm m op os) (hos : .offset l ∈ os) (hoff : asm.branchTarget l = .ok off)
    (h : ∀ (c : Cpu (ExeLoader × ε)) sh, dataOf c sh = d →
      Cpu.execute rest.plugged op ⟨m.word⟩ c sh = .ok (c.branchIf test ⟨m.word⟩, sh)) :
    Execs rest m.word ⟨p, n, d⟩
      ⟨p, if test then p + off.signExtend 32 <<< 2 else n, d.settle⟩ := by
  obtain ⟨off', hoff', himm⟩ := hd.found _ hos
  obtain rfl := Except.ok.inj (hoff.symm.trans hoff')
  refine execs_of hd fun c sh hview => ⟨_, h c sh (congrArg View.data hview), ?_⟩
  obtain ⟨rfl, rfl, rfl⟩ := View.mk.inj hview
  rw [← himm]
  cases test <;> rfl

lemma execs_beq {off : I16} (hd : Decoded asm m .beq [.s r, .t s, .offset l])
    (hoff : asm.branchTarget l = .ok off) : Execs rest m.word ⟨p, n, d⟩
      ⟨p, if d.reg r.index == d.reg s.index then p + off.signExtend 32 <<< 2 else n,
        d.settle⟩ := by
  refine execs_branchIf hd (by simp) hoff ?_
  rintro c sh rfl
  rw [Cpu.execute, Cpu.opBeq, hd.eq_s (r := r) (by simp), hd.eq_t (r := s) (by simp)]
  rfl

lemma execs_bne {off : I16} (hd : Decoded asm m .bne [.s r, .t s, .offset l])
    (hoff : asm.branchTarget l = .ok off) : Execs rest m.word ⟨p, n, d⟩
      ⟨p, if d.reg r.index != d.reg s.index then p + off.signExtend 32 <<< 2 else n,
        d.settle⟩ := by
  refine execs_branchIf hd (by simp) hoff ?_
  rintro c sh rfl
  rw [Cpu.execute, Cpu.opBne, hd.eq_s (r := r) (by simp), hd.eq_t (r := s) (by simp)]
  rfl

lemma execs_jal {v : U32} (hd : Decoded asm m .jal [.target l]) (hv : asm.jumpTarget l = .ok v) :
    Execs rest m.word ⟨p, n, d⟩
      ⟨p, p &&& 0xf0000000 ||| (v &&& 0x3ffffff) <<< 2, d.put 31 n⟩ := by
  obtain ⟨v', hv', himm⟩ := hd.found (.target l) (by simp)
  obtain rfl := Except.ok.inj (hv.symm.trans hv')
  refine execs_of hd fun c sh hview => ⟨_, rfl, ?_⟩
  obtain ⟨rfl, rfl, rfl⟩ := View.mk.inj hview
  rw [← himm]
  rfl

lemma execs_jr (hd : Decoded asm m .jr [.s r]) :
    Execs rest m.word ⟨p, n, d⟩ ⟨p, d.reg r.index, d.settle⟩ := by
  refine execs_of hd fun c sh hview => ⟨_, rfl, ?_⟩
  obtain ⟨rfl, rfl, rfl⟩ := View.mk.inj hview
  rw [← hd.eq_s (r := r) (by simp)]
  rfl

lemma execs_jalr (hd : Decoded asm m .jalr [.d r, .s s]) :
    Execs rest m.word ⟨p, n, d⟩ ⟨p, d.reg s.index, d.put r.index n⟩ := by
  refine execs_of hd fun c sh hview => ⟨_, rfl, ?_⟩
  obtain ⟨rfl, rfl, rfl⟩ := View.mk.inj hview
  rw [← hd.eq_d (r := r) (by simp), ← hd.eq_s (r := s) (by simp)]
  rfl

end

end ExeLoader

end Rustation
