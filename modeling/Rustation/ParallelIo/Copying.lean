import Rustation.ParallelIo.Placed

/-!
The first half of the loader: the area filled with zeroes and the copy of the text.

* `Scratches qs d d'`: of the registers only those of `qs` have been written;
* `patched`: a memory after a list of bytes has been written to it;
* `InMemory`: a range of addresses in main RAM that does not run into a mirror;
* `goes_fill`: the interrupts are masked and the area is filled;
* `goes_copy`: the text is copied from the FIFO.
-/

namespace Rustation

namespace ExeLoader

open Fallible Asm

/-! ### Registers -/

section

variable {d d' d'' : Data} {q : RegisterIndex} {v : U32}

namespace Data

/-- No load is pending. -/
def Settled (d : Data) : Prop := d.load = (0, 0)

lemma Settled.settle_eq (h : d.Settled) : d.settle = d := by
  have hregs : d.regs.set d.load.1 d.load.2 = d.regs := by
    rw [h]
    exact Regs.set_zero ..
  rw [settle, hregs, ← h]

lemma Settled.pend_eq (h : d.Settled) (q : RegisterIndex) (v : U32) :
    d.pend q v = { d with load := (q, v) } := by
  have hregs : d.regs.set d.load.1 d.load.2 = d.regs := by
    rw [h]
    exact Regs.set_zero ..
  rw [pend, hregs, ite_self]

lemma settled_put (d : Data) (q : RegisterIndex) (v : U32) : (d.put q v).Settled := rfl

lemma reg_put (d : Data) (q : RegisterIndex) (v : U32) (j : RegisterIndex) :
    (d.put q v).reg j = if j = 0 then 0 else if j = q then v else d.settle.reg j :=
  Regs.set_val ..

end Data

/-- Of the registers only those of `qs` have been written, apart from the load that was
pending. -/
structure Scratches (qs : List RegisterIndex) (d d' : Data) : Prop where
  settled : d'.Settled
  reg : ∀ j ∉ qs, d'.reg j = d.settle.reg j

variable {qs qs' : List RegisterIndex}

lemma Scratches.trans (h : Scratches qs d d') (h' : Scratches qs d' d'') :
    Scratches qs d d'' where
  settled := h'.settled
  reg j hj := by rw [h'.reg j hj, h.settled.settle_eq, h.reg j hj]

lemma scratches_put (d : Data) (hq : q ∈ qs) (v : U32) : Scratches qs d (d.put q v) where
  settled := rfl
  reg j hj := by
    rw [Data.reg_put]
    split_ifs with hzero heq
    · rw [hzero]
      exact d.settle.regs.zero.symm
    · exact absurd (heq ▸ hq) hj
    · rfl

end

/-! ### Memory -/

/-- The memory with the bytes `bs` from the offset on. -/
def patched (ram : Ram) (offset : ℕ) (bs : List U8) : Ram := fun l =>
  if offset ≤ l.val then bs.getD (l.val - offset) (ram l) else ram l

section

variable {ram : Ram} {offset : ℕ} {bs : List U8}

lemma patched_nil (ram : Ram) (offset : ℕ) : patched ram offset [] = ram := by
  funext l
  simp [patched]

/-- The byte after the last one is written. -/
lemma patched_concat (ram : Ram) (offset : ℕ) (bs : List U8) (v : U32) :
    (patched ram offset bs).written (offset + bs.length) v 1 =
      patched ram offset (bs ++ [v.setWidth 8]) := by
  funext l
  simp only [Bytes.written, patched]
  rcases lt_trichotomy l.val (offset + bs.length) with hlt | heq | hgt
  · rw [if_neg (by omega)]
    split_ifs with hle
    · rw [List.getD_eq_getElem?_getD, List.getD_eq_getElem?_getD,
        List.getElem?_append_left (by omega)]
    · rfl
  · rw [if_pos (by omega), if_pos (by omega), heq, Nat.sub_self, Nat.zero_mul,
      BitVec.ushiftRight_zero]
    simp
  · rw [if_neg (by omega), if_pos (by omega), if_pos (by omega), List.getD_eq_getElem?_getD,
      List.getD_eq_getElem?_getD, List.getElem?_eq_none (by omega),
      List.getElem?_eq_none (by rw [List.length_append, List.length_singleton]; omega)]

end

/-- The addresses of the range lie in main RAM and do not run into a mirror. -/
def InMemory (base : U32) (len : ℕ) : Prop :=
  ∀ k < len, InRam (base + BitVec.ofNat 32 k) ∧ base.toNat % 2097152 + k < 2097152

section

variable {base : U32} {len k : ℕ}

lemma InMemory.len_le (h : InMemory base len) : len ≤ 2097152 := by
  by_contra hlt
  have hlast := (h 2097152 (by omega)).2
  omega

lemma InMemory.toNat_add (h : InMemory base len) (hk : k < len) :
    (base + BitVec.ofNat 32 k).toNat = base.toNat + k := by
  have hlast := (h k hk).2
  have hbase : base.toNat < 2 ^ 32 := base.isLt
  rw [BitVec.toNat_add, BitVec.toNat_ofNat]
  omega

lemma InMemory.fits (h : InMemory base len) (hk : k < len) :
    Data.Fits .byte (base + BitVec.ofNat 32 k) := by
  have hlast := (h k hk).2
  refine ⟨(h k hk).1, ?_⟩
  rw [h.toNat_add hk, RAM_SIZE, Width.size]
  omega

/-- The end of the range is computed without an overflow. -/
lemma InMemory.checked (h : InMemory base len) :
    Cpu.checked (base.toInt + (BitVec.ofNat 32 len).toInt) = some (base + BitVec.ofNat 32 len) := by
  have hlen := h.len_le
  have hofNat : (BitVec.ofNat 32 len).toInt = len := by
    rw [BitVec.toInt_eq_toNat_cond, BitVec.toNat_ofNat]
    split_ifs <;> omega
  have hbase :
      base.toInt = if base.toNat < 2 ^ 31 then (base.toNat : ℤ) else base.toNat - 2 ^ 32 := by
    rw [BitVec.toInt_eq_toNat_cond]
    split_ifs <;> omega
  have hlt : base.toNat < 2 ^ 32 := base.isLt
  rw [Cpu.checked, if_pos]
  · rw [hofNat, ← BitVec.ofInt_toInt (x := base), BitVec.ofInt_add]
    simp
  · rw [hofNat, hbase]
    rcases Nat.eq_zero_or_pos len with rfl | hpos
    · split_ifs <;> omega
    · -- the range is not empty, so that it starts in one of the three segments
      have hfirst := inRam_iff.mp (h 0 hpos).1
      rw [BitVec.add_zero] at hfirst
      split_ifs <;> omega

end

/-! ### Effects -/

section

variable {d : Data} {v : U32}

/-- The other registers stay. -/
lemma Data.Settled.reg_put_of_ne {q j : RegisterIndex} (h : d.Settled) (v : U32) (hj : j ≠ q) :
    (d.put q v).reg j = d.reg j := by
  rw [Data.reg_put, if_neg hj, h.settle_eq]
  split_ifs with hzero
  · rw [hzero]
    exact d.regs.zero.symm
  · rfl

lemma reg_put_self {r : Register} (d : Data) (hr : r.index ≠ 0) (v : U32) :
    (d.put r.index v).reg r.index = v := by
  rw [Data.reg_put, if_neg hr, if_pos rfl]

/-- A write to main RAM. -/
lemma write_ram {width : Width} {addr : U32} (hiso : d.isolated = false)
    (hfits : Data.Fits width addr) (v : U32) : d.write width addr v =
      some { d with ram := d.ram.written (addr.toNat % 2097152) v width.size } := by
  rw [Data.write, hiso, if_neg Bool.false_ne_true, if_pos hfits]

/-- The interrupts have been masked through T0. -/
def masked (d : Data) : Data := { d.put T0.index Map.IRQ_CONTROL.start with mask := 0 }

lemma effect_mask (hiso : d.isolated = false) :
    effect (d.put T0.index Map.IRQ_CONTROL.start) (.sh R0 T0 4) = some (masked d) := by
  have haddr : (d.put T0.index Map.IRQ_CONTROL.start).reg T0.index + (4 : I16).signExtend 32 =
      Map.IRQ_CONTROL.start + 4 := by
    rw [reg_put_self d (by decide)]
    rfl
  have hzero : (d.put T0.index Map.IRQ_CONTROL.start).reg R0.index = 0 :=
    (d.put T0.index Map.IRQ_CONTROL.start).regs.zero
  have hiso' : (d.put T0.index Map.IRQ_CONTROL.start).isolated = false := hiso
  rw [effect, haddr, hzero, aligned, if_pos (by decide), (d.settled_put ..).settle_eq, Data.write,
    hiso', if_neg Bool.false_ne_true, if_neg (by decide), if_pos ⟨rfl, rfl⟩, masked]

/-- A byte is stored behind the pointer T0, which has been advanced. -/
lemma effect_sb {r : Register} {base : U32} {len k : ℕ} (hiso : d.isolated = false)
    (hbase : InMemory base len) (hk : k < len) (hset : d.Settled)
    (ht0 : d.reg T0.index = base + BitVec.ofNat 32 (k + 1)) : effect d (.sb r T0 (-1)) =
      some { d with ram := d.ram.written (base.toNat % 2097152 + k) (d.reg r.index) 1 } := by
  have haddr : d.reg T0.index + (-1 : I16).signExtend 32 = base + BitVec.ofNat 32 k := by
    rw [ht0, BitVec.ofNat_add, ← BitVec.add_assoc, BitVec.add_assoc]
    exact BitVec.add_zero _
  have hlast := (hbase k hk).2
  have hoffset : (base + BitVec.ofNat 32 k).toNat % 2097152 = base.toNat % 2097152 + k := by
    rw [hbase.toNat_add hk]
    omega
  rw [effect, haddr, hset.settle_eq, write_ram hiso (hbase.fits hk), hoffset]
  rfl

end

/-! ### Loops that write bytes -/

section

variable {d d' e : Data} {base : U32} {bs : List U8} {k : ℕ}

/-- The registers that the loops use. -/
def loopRegisters : List RegisterIndex := [T0.index, T1.index, T2.index, T3.index]

/-- A loop has written the first `k` of the bytes `bs` from the address `base` on.  The
pointer is in T0 and its end in T1. -/
structure Writing (base : U32) (bs : List U8) (d : Data) (k : ℕ) (d' : Data) : Prop where
  frame : d' = { d with
    regs := d'.regs
    load := (0, 0)
    ram := patched d.ram (base.toNat % 2097152) (bs.take k)
    exe := d'.exe }
  scratches : Scratches loopRegisters d d'
  t0 : d'.reg T0.index = base + BitVec.ofNat 32 k
  t1 : d'.reg T1.index = base + BitVec.ofNat 32 bs.length

/-- The pointer meets its end after the last byte. -/
lemma pointer_eq_iff (hbase : InMemory base bs.length) (hk : k < bs.length) :
    base + BitVec.ofNat 32 (k + 1) = base + BitVec.ofNat 32 bs.length ↔ k + 1 = bs.length := by
  have hlen := hbase.len_le
  constructor
  · intro heq
    have hnat := congrArg BitVec.toNat ((BitVec.add_right_inj _).mp heq)
    rw [BitVec.toNat_ofNat, BitVec.toNat_ofNat] at hnat
    omega
  · intro heq
    rw [heq]

/-- What the body of a loop does: it advances the pointer and leaves the next byte in
the register `r`. -/
structure Fetches (r : Register) (b : U8) (d e : Data) : Prop where
  frame : e = { d with regs := e.regs, load := (0, 0), exe := e.exe }
  regs : ∀ j ∉ loopRegisters, e.reg j = d.reg j
  t0 : e.reg T0.index = d.reg T0.index + 1
  t1 : e.reg T1.index = d.reg T1.index
  t2 : e.reg T2.index = d.reg T2.index
  byte : (e.reg r.index).setWidth 8 = b

/-- Another value in T2 does not matter. -/
lemma Writing.congr (h : Writing base bs d k d') (hframe : e = { d' with regs := e.regs })
    (hregs : ∀ j ≠ T2.index, e.reg j = d'.reg j) : Writing base bs d k e where
  frame := by rw [hframe, h.frame]
  scratches := by
    refine ⟨by rw [hframe]; exact h.scratches.settled, fun j hj => ?_⟩
    have hne : j ≠ T2.index := by
      rintro rfl
      exact hj (by decide)
    rw [hregs j hne, h.scratches.reg j hj]
  t0 := (hregs _ (by decide)).trans h.t0
  t1 := (hregs _ (by decide)).trans h.t1

/-- The last instruction of a round stores the byte. -/
lemma Writing.round {r : Register} (h : Writing base bs d k d') (hiso : d.isolated = false)
    (hbase : InMemory base bs.length) (hk : k < bs.length) (he : Fetches r bs[k] d' e) :
    ∃ d'', effect e.settle (.sb r T0 (-1)) = some d'' ∧ Writing base bs d (k + 1) d'' ∧
      d''.exe = e.exe ∧ d''.regs = e.regs := by
  have hset : e.Settled := by
    rw [he.frame]
    rfl
  have hiso' : e.isolated = false := by
    rw [he.frame, h.frame]
    exact hiso
  have hlength : (bs.take k).length = k := by
    rw [List.length_take]
    omega
  have ht0 : e.reg T0.index = base + BitVec.ofNat 32 (k + 1) := by
    rw [he.t0, h.t0, BitVec.add_assoc, BitVec.ofNat_add]
    rfl
  have hram : e.ram.written (base.toNat % 2097152 + k) (e.reg r.index) 1 =
      patched d.ram (base.toNat % 2097152) (bs.take (k + 1)) := by
    have hbefore : e.ram = patched d.ram (base.toNat % 2097152) (bs.take k) := by
      rw [he.frame, h.frame]
    have hconcat := patched_concat d.ram (base.toNat % 2097152) (bs.take k) (e.reg r.index)
    rw [hlength, he.byte, ← List.take_succ_eq_append_getElem hk] at hconcat
    rw [hbefore, hconcat]
  refine ⟨{ e with ram := e.ram.written (base.toNat % 2097152 + k) (e.reg r.index) 1 }, ?_,
    ⟨?_, ⟨hset, fun j hj => ?_⟩, ht0, he.t1.trans h.t1⟩, rfl, rfl⟩
  · rw [hset.settle_eq]
    exact effect_sb hiso' hbase hk hset ht0
  · rw [hram, he.frame, h.frame]
  · exact (he.regs j hj).trans (h.scratches.reg j hj)

end

section

variable {ε : Type} {rest : Devices ε} {is pre post setup body : List Asm.Instruction}
  {code : List U8} {d : Data} {base : U32} {bs : List U8} {r : Register} {loop done : String}

/-- A loop that writes `len` bytes, one at a time, from the address `base` on. -/
def writeLoop (base len : U32) (setup body : List Asm.Instruction) (r : Register)
    (loop done : String) : List Asm.Instruction :=
  .li T0 base :: .li T1 len :: .beqz T1 (.localName done 'f') :: .add T1 T0 T1 ::
    (setup ++ .localLabel loop :: (body ++ [.bne T0 T1 (.localName loop 'b'), .sb r T0 (-1)]))

/-- The pointer and the length are in the registers. -/
def loopSetup (base : U32) (len : ℕ) (d : Data) : Data :=
  (d.put T0.index base).put T1.index (BitVec.ofNat 32 len)

lemma loopSetup_t0 (base : U32) (len : ℕ) (d : Data) :
    (loopSetup base len d).reg T0.index = base := by
  rw [loopSetup, Data.reg_put, if_neg (by decide), if_neg (by decide), (d.settled_put ..).settle_eq]
  exact reg_put_self _ (by decide) _

/-- The end of the range is computed. -/
lemma effect_end (hbase : InMemory base bs.length) :
    effect (loopSetup base bs.length d).settle (.add T1 T0 T1) =
      some ((loopSetup base bs.length d).put T1.index (base + BitVec.ofNat 32 bs.length)) := by
  have ht1 : (loopSetup base bs.length d).reg T1.index = BitVec.ofNat 32 bs.length :=
    reg_put_self _ (by decide) _
  have hset : (loopSetup base bs.length d).Settled := rfl
  rw [hset.settle_eq, effect, loopSetup_t0, ht1, hbase.checked]
  rfl

lemma writing_zero (base : U32) (bs : List U8) (d : Data) : Writing base bs d 0
    ((loopSetup base bs.length d).put T1.index (base + BitVec.ofNat 32 bs.length)) where
  frame := by
    rw [List.take_zero, patched_nil]
    rfl
  scratches := ((scratches_put d (by decide) _).trans (scratches_put _ (by decide) _)).trans
    (scratches_put _ (by decide) _)
  t0 := by
    have hset : (loopSetup base bs.length d).Settled := rfl
    rw [Data.reg_put, if_neg (by decide), if_neg (by decide), hset.settle_eq, loopSetup_t0]
    exact (BitVec.add_zero _).symm
  t1 := reg_put_self _ (by decide) _

/-- The loop writes the bytes `bs`, `exes` being the state of the module after each of
them.  The instructions before the loop bring T2 into a state with `P`. -/
lemma goes_writeLoop {P : U32 → Prop} {exes : ℕ → ExeLoader} (h : Placed is code)
    (hsync : Syncs rest)
    (his : is = pre ++ (writeLoop base (BitVec.ofNat 32 bs.length) setup body r loop done ++
      .localLabel done :: post))
    (hdone : .localLabel done ∉ setup ++ .localLabel loop :: body)
    (hloop : .localLabel loop ∉ body) (hcode : ∀ k, (exes k).loader = code)
    (hiso : d.isolated = false) (hbase : InMemory base bs.length) (hexe : d.exe = exes 0)
    (hsetup : ∀ e : Data, e.Settled → ∃ e', setup.foldlM effect e = some e' ∧
      e' = { e with regs := e'.regs } ∧ (∀ j ≠ T2.index, e'.reg j = e.reg j) ∧
        P (e'.reg T2.index))
    (hbody : ∀ k, ∀ hk : k < bs.length, ∀ e : Data, e.Settled → P (e.reg T2.index) →
      e.exe = exes k → ∃ e', body.foldlM effect e = some e' ∧ Fetches r bs[k] e e' ∧
        e'.exe = exes (k + 1)) :
    ∃ d', Goes rest (At pre d)
        (At (pre ++ writeLoop base (BitVec.ofNat 32 bs.length) setup body r loop done) d') ∧
      Writing base bs d bs.length d' ∧ d'.exe = exes bs.length := by
  have hlen := hbase.len_le
  have hstart : Goes rest (At pre d)
      (At (pre ++ [.li T0 base, .li T1 (BitVec.ofNat 32 bs.length)])
        (loopSetup base bs.length d)) :=
    h.goes_block hsync his (hexe ▸ hcode 0) rfl
  have hsplit : is = (pre ++ [.li T0 base, .li T1 (BitVec.ofNat 32 bs.length)]) ++
      .beqz T1 (.localName done 'f') :: .add T1 T0 T1 ::
        ((setup ++ .localLabel loop :: (body ++
          [.bne T0 T1 (.localName loop 'b'), .sb r T0 (-1)])) ++ .localLabel done :: post) := by
    rw [his, writeLoop]
    simp
  have hwriting := writing_zero base bs d
  have hbranch : Goes rest _ _ := h.goes_beqz hsync hsplit (by simpa using hdone) rfl
    (show (loopSetup base bs.length d).exe.loader = code from hexe ▸ hcode 0) (effect_end hbase)
  have ht1 : (loopSetup base bs.length d).reg T1.index = BitVec.ofNat 32 bs.length :=
    reg_put_self _ (by decide) _
  rw [ht1] at hbranch
  generalize hd' : (loopSetup base bs.length d).put T1.index _ = d' at hbranch hwriting
  have hexe' : d'.exe = exes 0 := by
    rw [← hd']
    exact hexe
  by_cases hempty : bs.length = 0
  · rw [hempty, if_pos (by decide)] at hbranch
    refine ⟨d', hstart.trans ?_, by rw [hempty]; exact hwriting, by rw [hempty]; exact hexe'⟩
    rw [hempty, writeLoop]
    simpa using hbranch
  · have hnonzero : ¬(BitVec.ofNat 32 bs.length == 0) = true := by
      rw [beq_iff_eq]
      intro hzero
      have hnat := congrArg BitVec.toNat hzero
      rw [BitVec.toNat_ofNat, show (0 : U32).toNat = 0 from rfl] at hnat
      omega
    rw [if_neg hnonzero] at hbranch
    obtain ⟨e, heff, hframe, hregs, hP⟩ := hsetup d' hwriting.scratches.settled
    have hexeE : e.exe = exes 0 := by
      rw [hframe]
      exact hexe'
    have hround : ∀ k < bs.length, ∀ x,
        Writing base bs d k x ∧ P (x.reg T2.index) ∧ x.exe = exes k →
        x.exe.loader = code ∧ ∃ y z, body.foldlM effect x = some y ∧
          (y.reg T0.index = y.reg T1.index ↔ k + 1 = bs.length) ∧
          effect y.settle (.sb r T0 (-1)) = some z ∧
          Writing base bs d (k + 1) z ∧ P (z.reg T2.index) ∧ z.exe = exes (k + 1) := by
      rintro k hk x ⟨hx, hPx, hexex⟩
      obtain ⟨y, hy, hfetches, hexey⟩ := hbody k hk x hx.scratches.settled hPx hexex
      obtain ⟨z, hz, hwritingz, hexez, hregsz⟩ := hx.round hiso hbase hk hfetches
      refine ⟨hexex ▸ hcode k, y, z, hy, ?_, hz, hwritingz, ?_, hexez.trans hexey⟩
      · have hy0 : y.reg T0.index = z.reg T0.index := congrArg (·.val T0.index) hregsz.symm
        have hy1 : y.reg T1.index = z.reg T1.index := congrArg (·.val T1.index) hregsz.symm
        rw [hy0, hy1, hwritingz.t0, hwritingz.t1, pointer_eq_iff hbase hk]
      · have hz2 : z.reg T2.index = y.reg T2.index := congrArg (·.val T2.index) hregsz
        rw [hz2, hfetches.t2]
        exact hPx
    have hloopSplit : is = ((pre ++ [.li T0 base, .li T1 (BitVec.ofNat 32 bs.length)] ++
        [.beqz T1 (.localName done 'f'), .add T1 T0 T1]) ++ setup) ++ .localLabel loop ::
          (body ++ .bne T0 T1 (.localName loop 'b') :: .sb r T0 (-1) ::
            .localLabel done :: post) := by
      rw [his, writeLoop]
      simp
    have hblock :=
      h.goes_block hsync (hloopSplit.trans (List.append_assoc ..)) (hexe' ▸ hcode 0) heff
    obtain ⟨z, hrounds, hz, -, hexez⟩ := h.goes_loop hsync hloopSplit hloop rfl hround (by omega)
      ⟨hwriting.congr hframe hregs, hP, hexeE⟩
    refine ⟨z, hstart.trans (hbranch.trans (hblock.trans ?_)), hz, hexez⟩
    rw [writeLoop]
    simpa using hrounds

end

/-! ### The area filled with zeroes -/

section

variable {ε : Type} {rest : Devices ε} {is pre post : List Asm.Instruction} {code : List U8}
  {exe : ExeLoader} {d d' : Data} {k : ℕ}

/-- The part of the loader that masks the interrupts and fills an area with zeroes. -/
def fillPart (exe : ExeLoader) : List Asm.Instruction := [
  .li T0 Map.IRQ_CONTROL.start,
  .sh R0 T0 4,
  .li T0 exe.memfillBase,
  .li T1 exe.memfillLen,
  .beqz T1 (.localName "memfill_done" 'f'),
  .add T1 T0 T1,
  .localLabel "memfill_loop",
  .addiu T0 T0 1,
  .bne T0 T1 (.localName "memfill_loop" 'b'),
  .sb R0 T0 (-1)]

/-- The bytes that the area is filled with. -/
def zeroes (exe : ExeLoader) : List U8 := List.replicate exe.memfillLen.toNat 0

lemma length_zeroes (exe : ExeLoader) : exe.zeroes.length = exe.memfillLen.toNat :=
  List.length_replicate

/-- The pointer is advanced. -/
lemma fetches_zero {b : U8} (d : Data) (hset : d.Settled) (hb : b = 0) :
    Fetches R0 b d (d.put T0.index (d.reg T0.index + 1)) := by
  have hregs : ∀ j ≠ T0.index, (d.put T0.index (d.reg T0.index + 1)).reg j = d.reg j :=
    fun j hj => hset.reg_put_of_ne _ hj
  refine ⟨rfl, fun j hj => hregs j ?_, reg_put_self d (by decide) _, hregs _ (by decide),
    hregs _ (by decide), ?_⟩
  · rintro rfl
    exact hj (by decide)
  · rw [hb, hregs _ (by decide)]
    exact congrArg (BitVec.setWidth 8) d.regs.zero

/-- The interrupts are masked and the area is filled. -/
lemma goes_fill (h : Placed is code) (hsync : Syncs rest)
    (his : is = pre ++ (fillPart exe ++ .localLabel "memfill_done" :: post))
    (hcode : d.exe.loader = code) (hiso : d.isolated = false)
    (hfill : InMemory exe.memfillBase exe.memfillLen.toNat) : ∃ d',
      Goes rest (At pre d) (At (pre ++ fillPart exe) d') ∧ Scratches loopRegisters d d' ∧
      d' = { d with
        regs := d'.regs
        load := (0, 0)
        ram := patched d.ram (exe.memfillBase.toNat % 2097152) exe.zeroes
        mask := 0 } := by
  rw [← length_zeroes] at hfill
  have hlen : exe.memfillLen = BitVec.ofNat 32 exe.zeroes.length := by
    rw [length_zeroes, BitVec.ofNat_toNat, BitVec.setWidth_eq]
  have hmask : Goes rest (At pre d) (At (pre ++ [.li T0 Map.IRQ_CONTROL.start, .sh R0 T0 4])
      (masked d)) := by
    refine h.goes_block hsync his hcode ?_
    change (effect (d.put T0.index Map.IRQ_CONTROL.start) (.sh R0 T0 4) >>= pure) = _
    rw [effect_mask hiso]
    rfl
  have hsplit : is = (pre ++ [.li T0 Map.IRQ_CONTROL.start, .sh R0 T0 4]) ++
      (writeLoop exe.memfillBase (BitVec.ofNat 32 exe.zeroes.length) [] [.addiu T0 T0 1] R0
        "memfill_loop" "memfill_done" ++ .localLabel "memfill_done" :: post) := by
    rw [his, ← hlen]
    simp [fillPart, writeLoop]
  have hbody : ∀ k, ∀ hk : k < exe.zeroes.length, ∀ e : Data, e.Settled → True →
      e.exe = d.exe → ∃ e', [Asm.Instruction.addiu T0 T0 1].foldlM effect e = some e' ∧
        Fetches R0 exe.zeroes[k] e e' ∧ e'.exe = d.exe := by
    intro k hk e hset _ hexe
    exact ⟨e.put T0.index (e.reg T0.index + 1), rfl,
      fetches_zero e hset (List.getElem_replicate ..), hexe⟩
  obtain ⟨d', hloop, hwriting, hexe⟩ := goes_writeLoop (P := fun _ => True) (d := masked d) h hsync
    hsplit (by decide) (by decide) (fun _ => hcode) hiso hfill rfl
    (fun e _ => ⟨e, rfl, rfl, fun _ _ => rfl, trivial⟩) hbody
  refine ⟨d', hmask.trans ?_, ?_, ?_⟩
  · rw [← hlen] at hloop
    simpa [fillPart, writeLoop] using hloop
  · have hput : Scratches loopRegisters d (d.put T0.index Map.IRQ_CONTROL.start) :=
      scratches_put d (by decide) _
    exact hput.trans ⟨hwriting.scratches.settled, hwriting.scratches.reg⟩
  · rw [hwriting.frame, hexe, List.take_length]
    rfl

/-! ### The text -/

/-- The part of the loader that copies the text. -/
def copyPart (exe : ExeLoader) : List Asm.Instruction := [
  .li T0 exe.base,
  .li T1 (BitVec.ofNat 32 exe.text.length),
  .beqz T1 (.localName "text_copy_done" 'f'),
  .add T1 T0 T1,
  .li T2 EXE_FIFO_ADDRESS,
  .localLabel "text_copy_loop",
  .lb T3 T2 0,
  .addiu T0 T0 1,
  .bne T0 T1 (.localName "text_copy_loop" 'b'),
  .sb T3 T0 (-1)]

/-- The state of the module after `k` bytes of the text have been read. -/
def consumed (exe : ExeLoader) (k : ℕ) : ExeLoader := { exe with textIndex := k }

section

variable {exe' : ExeLoader} {b : U8} (hset : d.Settled) (ht2 : d.reg T2.index = EXE_FIFO_ADDRESS)
  (hexe : d.exe = exe'.consumed k) (hb : exe'.text[k]? = some b)

include hset ht2 hexe hb

/-- A byte is taken from the FIFO. -/
lemma effect_lb : effect d (.lb T3 T2 0) =
    some { d with load := (T3.index, b.signExtend 32), exe := exe'.consumed (k + 1) } := by
  have haddr : d.reg T2.index + (0 : I16).signExtend 32 = EXE_FIFO_ADDRESS := by
    rw [ht2]
    rfl
  have hload : d.exe.load EXE_FIFO_OFFSET = (b, exe'.consumed (k + 1)) := by
    have hbyte : (exe'.consumed k).text[(exe'.consumed k).textIndex]? = some b := hb
    rw [hexe, ExeLoader.load, if_pos rfl, hbyte]
    rfl
  rw [effect, haddr, Data.read, if_neg (by decide), if_pos ⟨rfl, rfl⟩, hload]
  simp only [Option.map_some, BitVec.setWidth_setWidth_of_le, Nat.reduceLeDiff, BitVec.setWidth_eq]
  have hset' : { d with exe := exe'.consumed (k + 1) }.Settled := hset
  exact congrArg some (hset'.pend_eq ..)

/-- A byte is taken from the FIFO and the pointer is advanced. -/
lemma exists_fetches : ∃ d',
    [Asm.Instruction.lb T3 T2 0, .addiu T0 T0 1].foldlM effect d = some d' ∧
      Fetches T3 b d d' ∧ d'.exe = exe'.consumed (k + 1) := by
  have hlb := effect_lb hset ht2 hexe hb
  generalize hd1 : Data.mk .. = d1 at hlb
  have ht0 : d1.reg T0.index = d.reg T0.index := by
    rw [← hd1]
    rfl
  have hregs : ∀ j ≠ T0.index, (d1.put T0.index (d1.reg T0.index + 1)).reg j =
      if j = 0 then 0 else if j = T3.index then b.signExtend 32 else d.reg j := by
    intro j hj
    rw [Data.reg_put, if_neg hj, ← hd1]
    change (if j = 0 then 0 else (d.regs.set T3.index (b.signExtend 32)).val j) = _
    rw [Regs.set_val]
    split_ifs <;> rfl
  refine ⟨d1.put T0.index (d1.reg T0.index + 1), ?_, ⟨?_, fun j hj => ?_, ?_, ?_, ?_, ?_⟩, ?_⟩
  · rw [List.foldlM_cons, hlb]
    rfl
  · rw [← hd1]
    rfl
  · have hne0 : j ≠ T0.index := by
      rintro rfl
      exact hj (by decide)
    have hne3 : j ≠ T3.index := by
      rintro rfl
      exact hj (by decide)
    rw [hregs j hne0, if_neg hne3]
    split_ifs with hzero
    · rw [hzero]
      exact d.regs.zero.symm
    · rfl
  · rw [← ht0]
    exact reg_put_self d1 (by decide) _
  · exact hregs _ (by decide)
  · exact hregs _ (by decide)
  · rw [hregs _ (by decide), if_neg (by decide), if_pos rfl]
    ext j hj
    rw [BitVec.getElem_setWidth, BitVec.getLsbD_signExtend]
    simp [hj, show j < 32 by omega]
  · rw [← hd1]
    rfl

end

/-- The text is copied. -/
lemma goes_copy (h : Placed is code) (hsync : Syncs rest)
    (his : is = pre ++ (copyPart exe ++ .localLabel "text_copy_done" :: post))
    (hcode : d.exe.loader = code) (hiso : d.isolated = false)
    (htext : d.exe.text = exe.text) (hindex : d.exe.textIndex = 0)
    (hbase : InMemory exe.base exe.text.length) : ∃ d',
      Goes rest (At pre d) (At (pre ++ copyPart exe) d') ∧ Scratches loopRegisters d d' ∧
      d' = { d with
        regs := d'.regs
        load := (0, 0)
        ram := patched d.ram (exe.base.toNat % 2097152) exe.text
        exe := d.exe.consumed exe.text.length } := by
  have hsplit : is = pre ++ (writeLoop exe.base (BitVec.ofNat 32 exe.text.length)
      [.li T2 EXE_FIFO_ADDRESS] [.lb T3 T2 0, .addiu T0 T0 1] T3 "text_copy_loop"
        "text_copy_done" ++ .localLabel "text_copy_done" :: post) := his
  have hfirst : d.exe = d.exe.consumed 0 := by
    rw [consumed, ← hindex]
  have hsetup : ∀ e : Data, e.Settled → ∃ e',
      [Asm.Instruction.li T2 EXE_FIFO_ADDRESS].foldlM effect e = some e' ∧
      e' = { e with regs := e'.regs } ∧ (∀ j ≠ T2.index, e'.reg j = e.reg j) ∧
        e'.reg T2.index = EXE_FIFO_ADDRESS := by
    intro e hset
    refine ⟨e.put T2.index EXE_FIFO_ADDRESS, rfl, ?_, fun j hj => hset.reg_put_of_ne _ hj,
      reg_put_self e (by decide) _⟩
    rw [Data.put, hset]
  obtain ⟨d', hloop, hwriting, hexe⟩ := goes_writeLoop (P := (· = EXE_FIFO_ADDRESS)) h hsync hsplit
    (by decide) (by decide) (fun k => show (d.exe.consumed k).loader = code from hcode) hiso hbase
    hfirst hsetup (fun k hk e hset ht2 hexe => exists_fetches hset ht2 hexe (by
      rw [htext]
      exact List.getElem?_eq_getElem hk))
  refine ⟨d', hloop, hwriting.scratches, ?_⟩
  rw [hwriting.frame, hexe, List.take_length]

end

end ExeLoader

end Rustation
