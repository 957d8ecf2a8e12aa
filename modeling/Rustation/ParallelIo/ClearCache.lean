import Rustation.Cpu.ICache
import Rustation.ParallelIo.Copying

/-!
The second half of the loader: the function that invalidates the instruction cache.

* `exists_status`: the status register is changed through T1 and T2;
* `goes_clearLoop`: a loop that writes to the isolated cache;
* `Framed`: the stack frame of the function;
* `goes_clearCache`: the function returns with all lines of the cache invalid.
-/

namespace Rustation

namespace ExeLoader

open Fallible Asm

/-! ### Loads -/

section

variable {d : Data} {q : RegisterIndex} {qs : List RegisterIndex}

namespace Data

/-- A load is pending. -/
def loading (d : Data) (q : RegisterIndex) (v : U32) : Data := { d with load := (q, v) }

lemma put_settle (d : Data) (q : RegisterIndex) (v : U32) : d.settle.put q v = d.put q v := by
  simp [put, settle]

lemma reg_settle_loading (d : Data) (q : RegisterIndex) (v : U32) (j : RegisterIndex) :
    (d.loading q v).settle.reg j = if j = 0 then 0 else if j = q then v else d.reg j :=
  Regs.set_val ..

end Data

lemma scratches_loading (hset : d.Settled) (hq : q ∈ qs) (v : U32) :
    Scratches qs d (d.loading q v).settle where
  settled := rfl
  reg j hj := by
    rw [Data.reg_settle_loading, hset.settle_eq]
    split_ifs with hzero heq
    · rw [hzero]
      exact d.regs.zero.symm
    · exact absurd (heq ▸ hq) hj
    · rfl

end

/-- The first instruction of a block. -/
lemma foldlM_effect {d e : Data} {i : Asm.Instruction} {block : List Asm.Instruction}
    (h : effect d i = some e) : (i :: block).foldlM effect d = block.foldlM effect e := by
  rw [List.foldlM_cons, h, Option.bind_eq_bind, Option.bind_some]

/-! ### The status register -/

section

variable {d : Data}

/-- The registers that the function uses in between. -/
def clearRegisters : List RegisterIndex := [T1.index, T2.index]

/-- The status register is read, combined with a value and written back. -/
lemma exists_status {i : Asm.Instruction} {f : U32 → U32 → U32} (hset : d.Settled)
    (hi : ∀ e, effect e i = some (e.put T1.index (f (e.reg T1.index) (e.reg T2.index)))) (v : U32) :
    ∃ d', [.mfc0 T1 12, .li T2 v, i, .mtc0 T1 12].foldlM effect d = some d' ∧
      Scratches clearRegisters d d' ∧ d' = { d with regs := d'.regs, sr := f d.sr v } := by
  have hmfc0 : effect d (.mfc0 T1 12) = some (d.loading T1.index d.sr) := by
    rw [effect, if_pos rfl, hset.pend_eq, Data.loading]
  generalize hd1 : (d.loading T1.index d.sr).put T2.index v = d1
  have ht1 : d1.reg T1.index = d.sr := by
    rw [← hd1, Data.reg_put, if_neg (by decide), if_neg (by decide), Data.reg_settle_loading,
      if_neg (by decide), if_pos rfl]
  have ht2 : d1.reg T2.index = v := by
    rw [← hd1]
    exact reg_put_self _ (by decide) _
  have hscratches : Scratches clearRegisters d (d1.put T1.index (f d.sr v)) := by
    have hload : Scratches clearRegisters d (d.loading T1.index d.sr).settle :=
      scratches_loading hset (by decide) _
    have hput := hload.trans (scratches_put (q := T2.index) _ (by decide) v)
    rw [Data.put_settle, hd1] at hput
    exact hput.trans (scratches_put _ (by decide) _)
  have hmtc0 : effect (d1.put T1.index (f d.sr v)) (.mtc0 T1 12) =
      some { d1.put T1.index (f d.sr v) with sr := f d.sr v } := by
    rw [effect, if_pos rfl, hscratches.settled.settle_eq, reg_put_self d1 (by decide)]
  refine ⟨{ d1.put T1.index (f d.sr v) with sr := f d.sr v }, ?_,
    ⟨hscratches.settled, hscratches.reg⟩, ?_⟩
  · have hli : effect (d.loading T1.index d.sr) (.li T2 v) = some d1 := by
      rw [effect, hd1]
    have hcombine := hi d1
    rw [ht1, ht2] at hcombine
    rw [foldlM_effect hmfc0, foldlM_effect hli, foldlM_effect hcombine, foldlM_effect hmtc0]
    rfl
  · rw [← hd1, show d.load = (0, 0) from hset]
    rfl

end

/-! ### Loops over the cache -/

/-- A loop that writes to the cache at each address below 4096 that is a multiple of the
step. -/
def clearLoop (step back : I16) (name : String) : List Asm.Instruction := [
  .li T1 0x1000,
  .li T2 0,
  .localLabel name,
  .addiu T2 T2 step,
  .bne T2 T1 (.localName name 'b'),
  .sw R0 T2 back]

section

variable {ε : Type} {rest : Devices ε} {is pre post : List Asm.Instruction} {code : List U8}
  {d : Data} {step back : I16} {name : String} {m n : ℕ}

/-- The loop has written to the cache `k` times. -/
structure Clearing (Q : ℕ → (Fin 0x100 → ICacheLine) → Prop) (d : Data) (m k : ℕ) (d' : Data) :
    Prop where
  frame : d' = { d with regs := d'.regs, load := (0, 0), icache := d'.icache }
  scratches : Scratches clearRegisters d d'
  t1 : d'.reg T1.index = 0x1000
  t2 : d'.reg T2.index = BitVec.ofNat 32 (m * k)
  lines : Q k d'.icache

/-- A word of the isolated cache is written. -/
lemma effect_maintain {r : Register} {back : I16} {addr : U32} (hset : d.Settled)
    (hiso : d.isolated = true) (henabled : d.cacheControl.icacheEnabled = true)
    (haddr : d.reg r.index + back.signExtend 32 = addr)
    (haligned : addr.toNat % Width.size .word = 0) : effect d (.sw R0 r back) = some { d with
      icache := Function.update d.icache (Cpu.lineIndex addr) (d.maintained addr) } := by
  have hzero : d.reg R0.index = 0 := d.regs.zero
  rw [effect, haddr, hzero, aligned, if_pos haligned, hset.settle_eq, Data.write, if_pos hiso,
    if_pos ⟨henabled, rfl, rfl⟩]

section

variable {Q : ℕ → (Fin 0x100 → ICacheLine) → Prop} (hiso : d.isolated = true)
  (henabled : d.cacheControl.icacheEnabled = true)
  (hstep : step.signExtend 32 = BitVec.ofNat 32 m)
  (hback : BitVec.ofNat 32 m + back.signExtend 32 = 0) (hm : m % 4 = 0) (hmn : m * n = 0x1000)
  (hQ : ∀ k < n, ∀ icache, Q k icache → Q (k + 1) (Function.update icache
    (Cpu.lineIndex (BitVec.ofNat 32 (m * k)))
    ({ d with icache := icache }.maintained (BitVec.ofNat 32 (m * k)))))

include hiso henabled hstep hback hm hmn hQ

/-- One round of the loop. -/
lemma Clearing.round {k : ℕ} {x : Data} (hk : k < n) (hx : Clearing Q d m k x) :
    ∃ y z, [Asm.Instruction.addiu T2 T2 step].foldlM effect x = some y ∧
      (y.reg T2.index = y.reg T1.index ↔ k + 1 = n) ∧
      effect y.settle (.sw R0 T2 back) = some z ∧ Clearing Q d m (k + 1) z := by
  have hlt : m * (k + 1) ≤ 0x1000 := hmn ▸ Nat.mul_le_mul_left m hk
  have hset := hx.scratches.settled
  obtain ⟨y, hy⟩ : ∃ y, y = x.put T2.index (x.reg T2.index + step.signExtend 32) := ⟨_, rfl⟩
  have hsetY : y.Settled := by
    rw [hy]
    exact Data.settled_put ..
  have ht2 : y.reg T2.index = BitVec.ofNat 32 (m * (k + 1)) := by
    rw [hy, reg_put_self x (by decide), hx.t2, hstep, Nat.mul_succ, BitVec.ofNat_add]
  have hothers : ∀ j ≠ T2.index, y.reg j = x.reg j := fun j hj => by
    rw [hy]
    exact hset.reg_put_of_ne _ hj
  have hframe : y = { d with regs := y.regs, load := (0, 0), icache := x.icache } := by
    rw [hy, Data.put, hx.frame]
  have haddr : y.reg T2.index + back.signExtend 32 = BitVec.ofNat 32 (m * k) := by
    rw [ht2, Nat.mul_succ, BitVec.ofNat_add, BitVec.add_assoc, hback]
    exact BitVec.add_zero _
  have haligned : (BitVec.ofNat 32 (m * k)).toNat % 4 = 0 := by
    obtain ⟨j, rfl⟩ : ∃ j, m = 4 * j := ⟨m / 4, by omega⟩
    rw [BitVec.toNat_ofNat, Nat.mul_assoc]
    omega
  refine ⟨y, _, by rw [foldlM_effect (e := y) (by rw [effect, hy])]; rfl, ?_,
    (congrArg (effect · _) hsetY.settle_eq).trans (effect_maintain hsetY ?_ ?_ haddr haligned), ?_⟩
  · rw [ht2, hothers _ (by decide), hx.t1]
    constructor
    · intro heq
      have hnat := congrArg BitVec.toNat heq
      rw [BitVec.toNat_ofNat, show (0x1000 : U32).toNat = 0x1000 from rfl, ← hmn,
        Nat.mod_eq_of_lt (by omega)] at hnat
      exact Nat.eq_of_mul_eq_mul_left (by rcases Nat.eq_zero_or_pos m with rfl | hpos <;> omega)
        hnat
    · intro heq
      rw [heq, hmn]
      rfl
  · rw [hframe]
    exact hiso
  · rw [hframe]
    exact henabled
  · have hlines := hQ k hk x.icache hx.lines
    refine ⟨?_, ⟨hsetY, fun j hj => ?_⟩, (hothers _ (by decide)).trans hx.t1, ht2, ?_⟩
    · rw [hframe]
    · have hne : j ≠ T2.index := by
        rintro rfl
        exact hj (by decide)
      exact (hothers j hne).trans (hx.scratches.reg j hj)
    · rw [hframe]
      exact hlines

/-- The loop writes at the multiples of `m`.  `Q` says what it has done to the cache. -/
lemma goes_clearLoop (h : Placed is code)
    (hsync : Syncs rest) (his : is = pre ++ (clearLoop step back name ++ post))
    (hcode : d.exe.loader = code) (hzero : Q 0 d.icache) :
    ∃ d', Goes rest (At pre d) (At (pre ++ clearLoop step back name) d') ∧
      Clearing Q d m n d' := by
  have hstart : Goes rest (At pre d) (At (pre ++ [.li T1 0x1000, .li T2 0])
      ((d.put T1.index 0x1000).put T2.index 0)) := h.goes_block hsync his hcode rfl
  have hsplit : is = (pre ++ [.li T1 0x1000, .li T2 0]) ++ .localLabel name ::
      ([.addiu T2 T2 step] ++ .bne T2 T1 (.localName name 'b') :: .sw R0 T2 back :: post) := by
    rw [his, clearLoop]
    simp
  have hclearing : Clearing Q d m 0 ((d.put T1.index 0x1000).put T2.index 0) := by
    refine ⟨rfl, (scratches_put d (by decide) _).trans (scratches_put _ (by decide) _), ?_, ?_,
      hzero⟩
    · rw [(Data.settled_put ..).reg_put_of_ne _ (by decide)]
      exact reg_put_self d (by decide) _
    · rw [Nat.mul_zero]
      exact reg_put_self _ (by decide) _
  have hn : 0 < n := by
    rcases Nat.eq_zero_or_pos n with rfl | hpos
    · rw [Nat.mul_zero] at hmn
      omega
    · exact hpos
  obtain ⟨d', hrounds, hd'⟩ := h.goes_loop hsync hsplit (by simp) rfl (fun k hk x hx =>
    ⟨by rw [hx.frame]; exact hcode, hx.round hiso henabled hstep hback hm hmn hQ hk⟩) hn hclearing
  refine ⟨d', hstart.trans ?_, hd'⟩
  rw [clearLoop]
  simpa using hrounds

end

/-! ### Passes over the cache -/

/-- The cache control is written. -/
def controlPart (v : U32) : List Asm.Instruction := [.li T1 v, .sw T1 T0 0]

/-- The cache is isolated. -/
def isolatePart : List Asm.Instruction :=
  [.mfc0 T1 12, .li T2 0x00010000, .or T1 T1 T2, .mtc0 T1 12]

/-- The cache is not isolated any more. -/
def restorePart : List Asm.Instruction :=
  [.mfc0 T1 12, .li T2 (~~~0x00010000#32), .and T1 T1 T2, .mtc0 T1 12]

/-- A pass over the cache, `v` being the cache control and the address of the latter being
in T0. -/
def passPart (v : U32) (step back : I16) (name : String) : List Asm.Instruction :=
  controlPart v ++ (isolatePart ++ (clearLoop step back name ++ restorePart))

/-- The cache control is written through T0. -/
lemma effect_control {r : Register} (hset : d.Settled) (hiso : d.isolated = false)
    (ht0 : d.reg T0.index = Map.CACHE_CONTROL.start) : effect d (.sw r T0 0) =
      some { d with cacheControl := ⟨d.reg r.index⟩ } := by
  have haddr : d.reg T0.index + (0 : I16).signExtend 32 = Map.CACHE_CONTROL.start := by
    rw [ht0]
    rfl
  rw [effect, haddr, aligned, if_pos (by decide), hset.settle_eq, Data.write, hiso,
    if_neg Bool.false_ne_true, if_neg (by decide), if_neg (fun hmask => absurd hmask.1 (by decide)),
    if_pos ⟨rfl, rfl⟩]

lemma isolated_or (sr : U32) : ((sr ||| 0x00010000) &&& 0x10000 != 0) = true := by
  rw [bne_iff_ne]
  intro hzero
  have hbit := congrArg (·.getLsbD 16) hzero
  simp at hbit

/-- The bit that isolates the cache is set and cleared again. -/
lemma status_restored {sr : U32} (h : (sr &&& 0x10000 != 0) = false) :
    (sr ||| 0x00010000) &&& ~~~0x00010000#32 = sr := by
  have hzero : sr &&& 0x00010000#32 = 0 := by simpa using h
  exact BitVec.or_and_not hzero

/-- What a pass does, if `Q` is what it does to the cache. -/
lemma goes_pass {Q : ℕ → (Fin 0x100 → ICacheLine) → Prop} {v : U32} (h : Placed is code)
    (hsync : Syncs rest) (his : is = pre ++ (passPart v step back name ++ post))
    (hcode : d.exe.loader = code) (hiso : d.isolated = false)
    (ht0 : d.settle.reg T0.index = Map.CACHE_CONTROL.start)
    (henabled : (CacheControl.mk v).icacheEnabled = true)
    (hstep : step.signExtend 32 = BitVec.ofNat 32 m)
    (hback : BitVec.ofNat 32 m + back.signExtend 32 = 0) (hm : m % 4 = 0) (hmn : m * n = 0x1000)
    (hQ : ∀ k < n, ∀ icache, Q k icache → Q (k + 1) (Function.update icache
      (Cpu.lineIndex (BitVec.ofNat 32 (m * k)))
      ({ d with icache := icache, cacheControl := ⟨v⟩ }.maintained (BitVec.ofNat 32 (m * k)))))
    (hzero : Q 0 d.icache) :
    ∃ d', Goes rest (At pre d) (At (pre ++ passPart v step back name) d') ∧
      Scratches clearRegisters d d' ∧ Q n d'.icache ∧ d' = { d with
        regs := d'.regs
        load := (0, 0)
        icache := d'.icache
        cacheControl := ⟨v⟩ } := by
  have hsplit : is = pre ++ (controlPart v ++ (isolatePart ++ (clearLoop step back name ++
      (restorePart ++ post)))) := by
    rw [his, passPart]
    simp
  have hsplit1 : is = (pre ++ controlPart v) ++ (isolatePart ++ (clearLoop step back name ++
      (restorePart ++ post))) := by
    rw [hsplit, List.append_assoc]
  have hsplit2 : is = (pre ++ controlPart v ++ isolatePart) ++ (clearLoop step back name ++
      (restorePart ++ post)) := by
    rw [hsplit1, List.append_assoc _ isolatePart]
  have hsplit3 : is = (pre ++ controlPart v ++ isolatePart ++ clearLoop step back name) ++
      (restorePart ++ post) := by
    rw [hsplit2, List.append_assoc _ (clearLoop step back name)]
  -- the cache control
  obtain ⟨d1, hd1⟩ : ∃ e : Data, e = { d.put T1.index v with cacheControl := ⟨v⟩ } := ⟨_, rfl⟩
  have hcontrol : (controlPart v).foldlM effect d = some d1 := by
    have hsw := effect_control (r := T1) (d.settled_put T1.index v) hiso (by
      rw [Data.reg_put, if_neg (by decide), if_neg (by decide), ht0])
    rw [reg_put_self d (by decide)] at hsw
    rw [controlPart, foldlM_effect (e := d.put T1.index v) rfl, foldlM_effect hsw, hd1]
    rfl
  have hone : Scratches clearRegisters d d1 := by
    have hput : Scratches clearRegisters d (d.put T1.index v) := scratches_put d (by decide) v
    rw [hd1]
    exact ⟨hput.settled, hput.reg⟩
  -- the cache is isolated
  obtain ⟨d2, hisolate, htwo, hd2⟩ :=
    exists_status (i := .or T1 T1 T2) (f := (· ||| ·)) hone.settled
    (fun e => rfl) 0x00010000
  have hsr : d2.sr = d.sr ||| 0x00010000 := by
    rw [hd2, hd1]
    rfl
  have hiso2 : d2.isolated = true := by
    rw [Data.isolated, hsr]
    exact isolated_or d.sr
  have hcode1 : d1.exe.loader = code := (loader_foldlM hcontrol).trans hcode
  have hcode2 : d2.exe.loader = code := (loader_foldlM hisolate).trans hcode1
  -- the loop
  have henabled2 : d2.cacheControl.icacheEnabled = true := by
    rw [hd2, hd1]
    exact henabled
  have hzero2 : Q 0 d2.icache := by
    rw [hd2, hd1]
    exact hzero
  have hQ2 : ∀ k < n, ∀ icache, Q k icache → Q (k + 1) (Function.update icache
      (Cpu.lineIndex (BitVec.ofNat 32 (m * k)))
      ({ d2 with icache := icache }.maintained (BitVec.ofNat 32 (m * k)))) := by
    rw [hd2, hd1]
    exact hQ
  obtain ⟨d3, hloop, hclearing⟩ := goes_clearLoop hiso2 henabled2 hstep hback hm hmn hQ2 h
    hsync hsplit2 hcode2 hzero2
  -- the status register is restored
  obtain ⟨d4, hrestore, hfour, hd4⟩ := exists_status (i := .and T1 T1 T2) (f := (· &&& ·))
    hclearing.scratches.settled (fun e => rfl) (~~~0x00010000#32)
  have hcode3 : d3.exe.loader = code := by
    rw [hclearing.frame]
    exact hcode2
  have hfirst := h.goes_block hsync hsplit hcode hcontrol
  have hsecond := h.goes_block hsync hsplit1 hcode1 hisolate
  have hlast := h.goes_block hsync hsplit3 hcode3 hrestore
  refine ⟨d4, ?_, ((hone.trans htwo).trans hclearing.scratches).trans hfour, ?_, ?_⟩
  · rw [passPart, ← List.append_assoc, ← List.append_assoc, ← List.append_assoc]
    exact hfirst.trans (hsecond.trans (hloop.trans hlast))
  · rw [hd4]
    exact hclearing.lines
  · have hsr3 : d3.sr &&& ~~~0x00010000#32 = d.sr := by
      rw [hclearing.frame]
      exact (congrArg (· &&& ~~~0x00010000#32) hsr).trans (status_restored hiso)
    rw [hd4, hsr3, hclearing.frame, hd2, hd1]
    rfl

/-- The pass in tag test mode invalidates the lines, one after the other. -/
lemma goes_invalidate (h : Placed is code) (hsync : Syncs rest)
    (his : is = pre ++ (passPart 0x804 16 (-16) name ++ post)) (hcode : d.exe.loader = code)
    (hiso : d.isolated = false) (ht0 : d.settle.reg T0.index = Map.CACHE_CONTROL.start) :
    ∃ d', Goes rest (At pre d) (At (pre ++ passPart 0x804 16 (-16) name) d') ∧
      Scratches clearRegisters d d' ∧ (∀ l, (d'.icache l).Invalidated) ∧ d' = { d with
        regs := d'.regs
        load := (0, 0)
        icache := d'.icache
        cacheControl := ⟨0x804⟩ } := by
  have hstep : ∀ k < 256, ∀ icache : Fin 0x100 → ICacheLine,
      (∀ l, l.val < k → (icache l).Invalidated) → ∀ l, l.val < k + 1 →
        (Function.update icache (Cpu.lineIndex (BitVec.ofNat 32 (16 * k)))
          ({ d with icache := icache, cacheControl := ⟨0x804⟩ }.maintained
            (BitVec.ofNat 32 (16 * k))) l).Invalidated := by
    intro k hk icache hlines l hl
    have hindex : (Cpu.lineIndex (BitVec.ofNat 32 (16 * k))).val = k := by
      rw [val_lineIndex, BitVec.toNat_ofNat]
      omega
    have htest : (CacheControl.mk 0x804).tagTestMode = true := by decide
    rw [Function.update_apply, Data.maintained, if_pos htest]
    split_ifs with heq
    · exact ICacheLine.invalidated_invalidate _
    · refine hlines l (lt_of_le_of_ne (Nat.le_of_lt_succ hl) fun hval => heq (Fin.ext ?_))
      rw [hval, hindex]
  obtain ⟨d', hgoes, hscratches, hlines, hd'⟩ := goes_pass
    (Q := fun k icache => ∀ l, l.val < k → (icache l).Invalidated) (m := 16) (n := 256) h hsync his
    hcode hiso ht0 (by decide) (by decide) (by decide) rfl rfl hstep
    (fun l hl => absurd hl l.val.not_lt_zero)
  exact ⟨d', hgoes, hscratches, fun l => hlines l l.isLt, hd'⟩

/-- The pass without it writes to the lines, which stay invalid. -/
lemma goes_zero (h : Placed is code) (hsync : Syncs rest)
    (his : is = pre ++ (passPart 0x800 4 (-4) name ++ post)) (hcode : d.exe.loader = code)
    (hiso : d.isolated = false) (ht0 : d.settle.reg T0.index = Map.CACHE_CONTROL.start)
    (hlines : ∀ l, (d.icache l).Invalidated) :
    ∃ d', Goes rest (At pre d) (At (pre ++ passPart 0x800 4 (-4) name) d') ∧
      Scratches clearRegisters d d' ∧ (∀ l, (d'.icache l).Invalidated) ∧ d' = { d with
        regs := d'.regs
        load := (0, 0)
        icache := d'.icache
        cacheControl := ⟨0x800⟩ } := by
  refine goes_pass (Q := fun _ icache => ∀ l, (icache l).Invalidated) (m := 4) (n := 1024) h hsync
    his hcode hiso ht0 (by decide) (by decide) (by decide) rfl rfl
    (fun k _ icache hk l => ?_) hlines
  have htest : ¬(CacheControl.mk 0x800).tagTestMode = true := by decide
  rw [Function.update_apply, Data.maintained, if_neg htest]
  split_ifs
  · exact hk _
  · exact hk l

/-! ### The stack frame -/

/-- The two words below the stack pointer are words of main RAM. -/
structure Stack (sp : U32) : Prop where
  aligned : sp.toNat % 4 = 0
  fp : InRam (sp - 8)
  ra : InRam (sp - 4)

namespace Stack

variable {sp : U32} (h : Stack sp)

include h

lemma toNat_fp : (sp - 8).toNat % 4 = 0 := by
  have haligned := h.aligned
  rw [BitVec.toNat_sub, show (8 : U32).toNat = 8 from rfl]
  omega

lemma toNat_ra : (sp - 4).toNat % 4 = 0 := by
  have haligned := h.aligned
  rw [BitVec.toNat_sub, show (4 : U32).toNat = 4 from rfl]
  omega

lemma fits_fp : Data.Fits .word (sp - 8) := by
  have haligned := h.toNat_fp
  refine ⟨h.fp, ?_⟩
  rw [RAM_SIZE, Width.size]
  omega

lemma fits_ra : Data.Fits .word (sp - 4) := by
  have haligned := h.toNat_ra
  refine ⟨h.ra, ?_⟩
  rw [RAM_SIZE, Width.size]
  omega

/-- The words do not overlap. -/
lemma disjoint : (sp - 4).toNat % 2097152 + 4 ≤ (sp - 8).toNat % 2097152 ∨
    (sp - 8).toNat % 2097152 + 4 ≤ (sp - 4).toNat % 2097152 := by
  have haligned := h.aligned
  rw [BitVec.toNat_sub, BitVec.toNat_sub, show (8 : U32).toNat = 8 from rfl,
    show (4 : U32).toNat = 4 from rfl]
  omega

end Stack

/-- The memory after the return address and the frame pointer have been saved. -/
def saved (ram : Ram) (sp ra fp : U32) : Ram :=
  (ram.written ((sp - 4).toNat % 2097152) ra 4).written ((sp - 8).toNat % 2097152) fp 4

lemma load_saved_fp {sp : U32} (h : Stack sp) (ram : Ram) (ra fp : U32) :
    Bytes.load (saved ram sp ra fp) ((sp - 8).toNat % 2097152) 4 = .ok fp :=
  Bytes.load_store (Bytes.store_eq_written _ fp h.fits_fp.2)

lemma load_saved_ra {sp : U32} (h : Stack sp) (ram : Ram) (ra fp : U32) :
    Bytes.load (saved ram sp ra fp) ((sp - 4).toNat % 2097152) 4 = .ok ra := by
  refine (Bytes.load_congr fun k hle hlt => ?_).trans
    (Bytes.load_store (Bytes.store_eq_written ram ra h.fits_ra.2))
  have hdisjoint := h.disjoint
  rw [saved, Bytes.written, if_neg (by omega)]

/-- A word is stored in main RAM. -/
lemma effect_sw {r s : Register} {i : I16} {addr : U32} (hset : d.Settled)
    (hiso : d.isolated = false) (haddr : d.reg s.index + i.signExtend 32 = addr)
    (hfits : Data.Fits .word addr) (haligned : addr.toNat % 4 = 0) : effect d (.sw r s i) =
      some { d with ram := d.ram.written (addr.toNat % 2097152) (d.reg r.index) 4 } := by
  have hword : addr.toNat % Width.size .word = 0 := haligned
  rw [effect, haddr, aligned, if_pos hword, hset.settle_eq, write_ram hiso hfits]
  rfl

/-- A word is loaded from main RAM. -/
lemma effect_lw {r s : Register} {i : I16} {addr v : U32}
    (haddr : d.reg s.index + i.signExtend 32 = addr) (hfits : Data.Fits .word addr)
    (haligned : addr.toNat % 4 = 0) (hload : Bytes.load d.ram (addr.toNat % 2097152) 4 = .ok v) :
    effect d (.lw r s i) = some (d.pend r.index v) := by
  have hword : addr.toNat % Width.size .word = 0 := haligned
  rw [effect, haddr, aligned, if_pos hword, Data.read, if_pos hfits, Width.size, hload]
  rfl

/-- The frame is set up. -/
def enterPart : List Asm.Instruction :=
  [.globalLabel "clear_cache", .addiu SP SP (-24), .sw RA SP 20, .sw FP SP 16, .move FP SP]

lemma add_frame (sp : U32) : sp + (-24 : I16).signExtend 32 + (20 : I16).signExtend 32 = sp - 4 ∧
    sp + (-24 : I16).signExtend 32 + (16 : I16).signExtend 32 = sp - 8 := by
  rw [BitVec.add_assoc, BitVec.add_assoc, BitVec.sub_eq_add_neg, BitVec.sub_eq_add_neg]
  exact ⟨rfl, rfl⟩

lemma exists_enter (hset : d.Settled) (hiso : d.isolated = false)
    (hstack : Stack (d.reg SP.index)) :
    ∃ e, enterPart.foldlM effect d = some e ∧ e.Settled ∧
      e.reg FP.index = d.reg SP.index + (-24 : I16).signExtend 32 ∧
      e = { d with
        regs := e.regs
        ram := saved d.ram (d.reg SP.index) (d.reg RA.index) (d.reg FP.index) } := by
  obtain ⟨sp, hsp⟩ : ∃ v, v = d.reg SP.index := ⟨_, rfl⟩
  obtain ⟨e, he⟩ : ∃ e, e = d.put SP.index (sp + (-24 : I16).signExtend 32) := ⟨_, rfl⟩
  rw [← hsp] at hstack ⊢
  have hsetE : e.Settled := by
    rw [he]
    exact Data.settled_put ..
  have hisoE : e.isolated = false := by
    rw [he]
    exact hiso
  have hspE : e.reg SP.index = sp + (-24 : I16).signExtend 32 := by
    rw [he]
    exact reg_put_self d (by decide) _
  have hothers : ∀ j ≠ SP.index, e.reg j = d.reg j := fun j hj => by
    rw [he]
    exact hset.reg_put_of_ne _ hj
  obtain ⟨e', he'⟩ : ∃ e', e' = { e with
    ram := saved d.ram sp (d.reg RA.index) (d.reg FP.index) } := ⟨_, rfl⟩
  have hstore (block : List Asm.Instruction) :
      (.sw RA SP 20 :: .sw FP SP 16 :: block).foldlM effect e = block.foldlM effect e' := by
    have haddr := add_frame sp
    rw [← hspE] at haddr
    have hra := effect_sw (r := RA) hsetE hisoE haddr.1 hstack.fits_ra hstack.toNat_ra
    generalize hram : e.ram.written _ _ _ = ram at hra
    have hfp := effect_sw (r := FP) (d := { e with ram := ram }) hsetE hisoE haddr.2
      hstack.fits_fp hstack.toNat_fp
    rw [foldlM_effect hra, foldlM_effect hfp, he', saved, ← hothers RA.index (by decide),
      ← hothers FP.index (by decide), show d.ram = e.ram by rw [he]; rfl, hram]
    rfl
  have hspE' : e'.reg SP.index = sp + (-24 : I16).signExtend 32 := by
    rw [he']
    exact hspE
  refine ⟨e'.put FP.index (e'.reg SP.index), ?_, e'.settled_put .., ?_, ?_⟩
  · rw [enterPart, foldlM_effect (e := d) rfl, foldlM_effect (e := e) (by rw [effect, he, hsp]),
      hstore]
    rfl
  · rw [reg_put_self e' (by decide), hspE']
  · rw [he', he, show d.load = (0, 0) from hset]
    rfl

/-- The jump to KSEG1. -/
def uncachedPart : List Asm.Instruction :=
  [.la T0 (.localName "uncached" 'f'), .lui T1 0xa000, .or T0 T0 T1, .jr T0, .nop]

/-- The alias of an address in the port. -/
lemma or_segment {a : U32} (h : a.toNat < 0x20000000) : a ||| 0xa0000000 = a + 0xa0000000 := by
  refine (BitVec.add_eq_or_of_and_eq_zero a _ ?_).symm
  refine BitVec.eq_of_getLsbD_eq fun k hk => ?_
  rw [BitVec.getLsbD_and]
  by_cases hlow : k < 29
  · have hmask : (0xa0000000 : U32).getLsbD k = false := by
      interval_cases k <;> rfl
    rw [hmask, Bool.and_false]
    simp
  · have hpow : 2 ^ 29 ≤ 2 ^ k := Nat.pow_le_pow_right (by norm_num) (by omega)
    have hbit : a.getLsbD k = false := Nat.testBit_lt_two_pow (lt_of_lt_of_le h hpow)
    rw [hbit, Bool.false_and]
    simp

lemma goes_uncached (h : Placed is code) (hsync : Syncs rest)
    (his : is = pre ++ (uncachedPart ++ .localLabel "uncached" :: post))
    (hcode : d.exe.loader = code) (hset : d.Settled) : ∃ e,
      Goes rest (At pre d) (At (pre ++ uncachedPart) e) ∧
      Scratches [T0.index, T1.index] d e ∧ e = { d with regs := e.regs } := by
  have hend : is = (pre ++ uncachedPart) ++ .localLabel "uncached" :: post := by
    rw [his, List.append_assoc]
  obtain ⟨a, ha⟩ : ∃ a, a = endOf LOADER_ENTRY_ADDRESS (pre ++ uncachedPart) := ⟨_, rfl⟩
  have halias : a ||| 0xa0000000 = address (pre ++ uncachedPart) := by
    have hsize := h.size hend
    rw [or_segment (by rw [ha, h.toNat_endOf hend]; omega), ha, address]
  have hla : Goes rest (At pre d) (At (pre ++ [.la T0 (.localName "uncached" 'f')])
      (d.put T0.index a)) := by
    refine h.goes_la hsync his hcode fun mid hmid => ?_
    rw [ha, ← location_start]
    exact Assembler.labelAddress_after h.noWrap hmid his rfl rfl (by decide)
  obtain ⟨e, he⟩ : ∃ e, e = ((d.put T0.index a).put T1.index 0xa0000000).put T0.index
    (a ||| 0xa0000000) := ⟨_, rfl⟩
  have hblock : [.lui T1 0xa000, .or T0 T0 T1].foldlM effect (d.put T0.index a) = some e := by
    have ht0 : ((d.put T0.index a).put T1.index 0xa0000000).reg T0.index = a := by
      rw [(d.settled_put ..).reg_put_of_ne _ (by decide), reg_put_self d (by decide)]
    have ht1 : ((d.put T0.index a).put T1.index 0xa0000000).reg T1.index = 0xa0000000 :=
      reg_put_self _ (by decide) _
    rw [foldlM_effect (e := (d.put T0.index a).put T1.index 0xa0000000) rfl,
      foldlM_effect (e := e) (by rw [effect, ht0, ht1, he])]
    rfl
  have hsplit : is = (pre ++ [.la T0 (.localName "uncached" 'f')]) ++
      ([.lui T1 0xa000, .or T0 T0 T1] ++ .jr T0 :: .nop :: .localLabel "uncached" :: post) := by
    rw [his, uncachedPart]
    simp
  have hsplit' : is = (pre ++ [.la T0 (.localName "uncached" 'f')] ++
      [.lui T1 0xa000, .or T0 T0 T1]) ++ .jr T0 :: .nop :: .localLabel "uncached" :: post := by
    rw [hsplit]
    simp
  have hcode' : (d.put T0.index a).exe.loader = code := hcode
  have hcodeE : e.exe.loader = code := (loader_foldlM hblock).trans hcode'
  have hsetE : e.Settled := by
    rw [he]
    exact Data.settled_put ..
  have hslot : effect e.settle .nop = some e := by
    rw [hsetE.settle_eq, effect, hsetE.settle_eq]
  have hjr := h.goes_jr hsync hsplit' rfl hcodeE hslot
  refine ⟨e, hla.trans ((h.goes_block hsync hsplit hcode' hblock).trans ?_), ?_, ?_⟩
  · have ht0 : e.reg T0.index = address (pre ++ uncachedPart) := by
      rw [he, ← halias]
      exact reg_put_self _ (by decide) _
    rw [ht0] at hjr
    exact hjr
  · rw [he]
    exact ((scratches_put d (by decide) _).trans (scratches_put _ (by decide) _)).trans
      (scratches_put _ (by decide) _)
  · rw [he, show d.load = (0, 0) from hset]
    rfl

/-- The cache control is saved in T5. -/
def loadPart : List Asm.Instruction :=
  [.localLabel "uncached", .li T0 Map.CACHE_CONTROL.start, .lw T5 T0 0]

lemma foldlM_loadPart (d : Data) : loadPart.foldlM effect d =
    some ((d.put T0.index Map.CACHE_CONTROL.start).loading T5.index d.cacheControl.val) := by
  have ht0 : (d.put T0.index Map.CACHE_CONTROL.start).reg T0.index + (0 : I16).signExtend 32 =
      Map.CACHE_CONTROL.start := by
    rw [reg_put_self d (by decide)]
    rfl
  have hlw : effect (d.put T0.index Map.CACHE_CONTROL.start) (.lw T5 T0 0) =
      some ((d.put T0.index Map.CACHE_CONTROL.start).loading T5.index d.cacheControl.val) := by
    rw [effect, ht0, aligned, if_pos (by decide), Data.read, if_neg (by decide),
      if_neg (by decide), if_pos ⟨rfl, rfl⟩, Option.map_some, (d.settled_put ..).pend_eq]
    rfl
  rw [loadPart, foldlM_effect (e := d) rfl,
    foldlM_effect (e := d.put T0.index Map.CACHE_CONTROL.start) rfl, foldlM_effect hlw]
  rfl

/-- The cache control is restored and the saved registers are loaded. -/
def leavePart : List Asm.Instruction := [.sw T5 T0 0, .move SP FP, .lw RA SP 20, .lw FP SP 16]

lemma exists_leave {ram : Ram} {sp ra fp : U32} (hset : d.Settled) (hiso : d.isolated = false)
    (hstack : Stack sp) (ht0 : d.reg T0.index = Map.CACHE_CONTROL.start)
    (hfp : d.reg FP.index = sp + (-24 : I16).signExtend 32) (hram : d.ram = saved ram sp ra fp) :
    ∃ e, leavePart.foldlM effect d = some e ∧ e.reg RA.index = ra ∧ e = { d with
      regs := e.regs
      load := e.load
      cacheControl := ⟨d.reg T5.index⟩ } := by
  obtain ⟨e, he⟩ : ∃ e, e = { d with cacheControl := ⟨d.reg T5.index⟩ }.put SP.index
    (d.reg FP.index) := ⟨_, rfl⟩
  have hsetE : e.Settled := by
    rw [he]
    exact Data.settled_put ..
  have hramE : e.ram = saved ram sp ra fp := by
    rw [he]
    exact hram
  have hsp : e.reg SP.index = sp + (-24 : I16).signExtend 32 := by
    rw [he, ← hfp]
    exact reg_put_self _ (by decide) _
  have haddr := add_frame sp
  rw [← hsp] at haddr
  have hra := effect_lw (r := RA) haddr.1 hstack.fits_ra hstack.toNat_ra
    (hramE ▸ load_saved_ra hstack ram ra fp)
  rw [hsetE.pend_eq] at hra
  generalize he1 : ({ e with load := (RA.index, ra) } : Data) = e1 at hra
  have hfp := effect_lw (r := FP) (d := e1) (by rw [← he1]; exact haddr.2) hstack.fits_fp
    hstack.toNat_fp (by rw [← he1]; exact hramE ▸ load_saved_fp hstack ram ra fp)
  refine ⟨e1.pend FP.index fp, ?_, ?_, ?_⟩
  · rw [leavePart, foldlM_effect (effect_control hset hiso ht0),
      foldlM_effect (e := e) (by rw [effect, he]; rfl),
      foldlM_effect hra, foldlM_effect hfp]
    rfl
  · have hregs : (e1.pend FP.index fp).regs = e.regs.set RA.index ra := by
      rw [← he1, Data.pend, if_pos (show RA.index ≠ FP.index by decide)]
    rw [Data.reg, hregs, Regs.set_val, if_neg (by decide), if_pos rfl]
  · rw [← he1, he]
    rfl

/-! ### The function -/

/-- The first part of the function saves the registers and the cache control. -/
lemma goes_open (h : Placed is code) (hsync : Syncs rest)
    (his : is = pre ++ (enterPart ++ (uncachedPart ++ (loadPart ++ post))))
    (hcode : d.exe.loader = code) (hset : d.Settled) (hiso : d.isolated = false)
    (hstack : Stack (d.reg SP.index)) : ∃ e,
      Goes rest (At pre d) (At (pre ++ enterPart ++ uncachedPart ++ loadPart) e) ∧
      e.settle.reg T0.index = Map.CACHE_CONTROL.start ∧
      e.settle.reg T5.index = d.cacheControl.val ∧
      e.settle.reg FP.index = d.reg SP.index + (-24 : I16).signExtend 32 ∧ e = { d with
        regs := e.regs
        load := e.load
        ram := saved d.ram (d.reg SP.index) (d.reg RA.index) (d.reg FP.index) } := by
  obtain ⟨d1, henter, hset1, hfp1, hd1⟩ := exists_enter hset hiso hstack
  have hcode1 : d1.exe.loader = code := (loader_foldlM henter).trans hcode
  have his1 := his.trans (List.append_assoc ..).symm
  obtain ⟨d2, huncached, hscratches2, hd2⟩ := goes_uncached h hsync his1 hcode1 hset1
  have hcode2 : d2.exe.loader = code := by
    rw [hd2]
    exact hcode1
  have his2 := his1.trans (List.append_assoc ..).symm
  have hload := h.goes_block hsync his2 hcode2 (foldlM_loadPart d2)
  refine ⟨_, (h.goes_block hsync his hcode henter).trans (huncached.trans hload), ?_, ?_, ?_, ?_⟩
  · rw [Data.reg_settle_loading, if_neg (by decide), if_neg (by decide),
      reg_put_self d2 (by decide)]
  · rw [Data.reg_settle_loading, if_neg (by decide), if_pos rfl, hd2, hd1]
  · rw [Data.reg_settle_loading, if_neg (by decide), if_neg (by decide),
      hscratches2.settled.reg_put_of_ne _ (by decide), hscratches2.reg _ (by decide),
      hset1.settle_eq, hfp1]
  · rw [hd2, hd1]
    rfl

/-- The two passes. -/
lemma goes_passes (h : Placed is code) (hsync : Syncs rest)
    (his : is = pre ++ (passPart 0x804 16 (-16) "icache_invalidate_loop" ++
      (passPart 0x800 4 (-4) "icache_zero_loop" ++ post)))
    (hcode : d.exe.loader = code) (hiso : d.isolated = false)
    (ht0 : d.settle.reg T0.index = Map.CACHE_CONTROL.start) : ∃ e,
      Goes rest (At pre d) (At (pre ++ passPart 0x804 16 (-16) "icache_invalidate_loop" ++
        passPart 0x800 4 (-4) "icache_zero_loop") e) ∧
      Scratches clearRegisters d e ∧ (∀ l, (e.icache l).Invalidated) ∧ e = { d with
        regs := e.regs
        load := (0, 0)
        icache := e.icache
        cacheControl := ⟨0x800⟩ } := by
  obtain ⟨d1, hfirst, hscratches1, hlines1, hd1⟩ := goes_invalidate h hsync his hcode hiso ht0
  have hcode1 : d1.exe.loader = code := by
    rw [hd1]
    exact hcode
  have hiso1 : d1.isolated = false := by
    rw [hd1]
    exact hiso
  have ht01 : d1.settle.reg T0.index = Map.CACHE_CONTROL.start := by
    rw [hscratches1.settled.settle_eq, hscratches1.reg _ (by decide), ht0]
  obtain ⟨d2, hsecond, hscratches2, hlines2, hd2⟩ := goes_zero h hsync
    (his.trans (List.append_assoc ..).symm) hcode1 hiso1 ht01 hlines1
  refine ⟨d2, hfirst.trans hsecond, hscratches1.trans hscratches2, hlines2, ?_⟩
  rw [hd2, hd1]

/-- The last part of the function restores them and returns. -/
lemma goes_close {ram : Ram} {sp ra fp : U32} (h : Placed is code) (hsync : Syncs rest)
    (his : is = pre ++ (leavePart ++ .jr RA :: .addiu SP SP 24 :: post))
    (hcode : d.exe.loader = code) (hset : d.Settled) (hiso : d.isolated = false)
    (hstack : Stack sp) (ht0 : d.reg T0.index = Map.CACHE_CONTROL.start)
    (hfp : d.reg FP.index = sp + (-24 : I16).signExtend 32) (hram : d.ram = saved ram sp ra fp) :
    ∃ e, Goes rest (At pre d) ⟨ra, ra + 4, e⟩ ∧ e = { d with
      regs := e.regs
      load := (0, 0)
      cacheControl := ⟨d.reg T5.index⟩ } := by
  obtain ⟨d1, hleave, hra, hd1⟩ := exists_leave hset hiso hstack ht0 hfp hram
  have hcode1 : d1.exe.loader = code := (loader_foldlM hleave).trans hcode
  have hslot : effect d1.settle (.addiu SP SP 24) = some (d1.settle.put SP.index _) := rfl
  have hjr := h.goes_jr hsync (his.trans (List.append_assoc ..).symm) rfl hcode1 hslot
  rw [hra] at hjr
  refine ⟨_, (h.goes_block hsync his hcode hleave).trans hjr, ?_⟩
  rw [hd1]
  rfl

/-- The function that invalidates the cache. -/
def clearCachePart : List Asm.Instruction :=
  enterPart ++ (uncachedPart ++ (loadPart ++ (passPart 0x804 16 (-16) "icache_invalidate_loop" ++
    (passPart 0x800 4 (-4) "icache_zero_loop" ++ (leavePart ++ [.jr RA, .addiu SP SP 24])))))

/-- The function returns and has invalidated all lines of the cache. -/
lemma goes_clearCache (h : Placed is code) (hsync : Syncs rest)
    (his : is = pre ++ (clearCachePart ++ post)) (hcode : d.exe.loader = code) (hset : d.Settled)
    (hiso : d.isolated = false) (hstack : Stack (d.reg SP.index)) : ∃ d',
      Goes rest (At pre d) ⟨d.reg RA.index, d.reg RA.index + 4, d'⟩ ∧
      (∀ l, (d'.icache l).Invalidated) ∧ d' = { d with
        regs := d'.regs
        icache := d'.icache
        ram := saved d.ram (d.reg SP.index) (d.reg RA.index) (d.reg FP.index) } := by
  rw [clearCachePart] at his
  simp only [List.append_assoc] at his
  obtain ⟨d1, hopen, ht0, ht5, hfp, hd1⟩ := goes_open h hsync his hcode hset hiso hstack
  have hcode1 : d1.exe.loader = code := by
    rw [hd1]
    exact hcode
  have hiso1 : d1.isolated = false := by
    rw [hd1]
    exact hiso
  have his1 := ((his.trans (List.append_assoc ..).symm).trans (List.append_assoc ..).symm).trans
    (List.append_assoc ..).symm
  obtain ⟨d2, hpasses, hscratches, hlines, hd2⟩ := goes_passes h hsync his1 hcode1 hiso1 ht0
  have hcode2 : d2.exe.loader = code := by
    rw [hd2]
    exact hcode1
  have hiso2 : d2.isolated = false := by
    rw [hd2]
    exact hiso1
  have hram : d2.ram = saved d.ram (d.reg SP.index) (d.reg RA.index) (d.reg FP.index) := by
    rw [hd2, hd1]
  have his2 := (his1.trans (List.append_assoc ..).symm).trans (List.append_assoc ..).symm
  obtain ⟨d3, hclose, hd3⟩ := goes_close h hsync his2 hcode2 hscratches.settled hiso2 hstack
    ((hscratches.reg _ (by decide)).trans ht0) ((hscratches.reg _ (by decide)).trans hfp) hram
  refine ⟨d3, hopen.trans (hpasses.trans hclose), ?_, ?_⟩
  · rw [hd3]
    exact hlines
  · have hcontrol : CacheControl.mk (d2.reg T5.index) = d.cacheControl := by
      rw [hscratches.reg _ (by decide), ht5]
    rw [hd3, hcontrol, hd2, hd1, show d.load = (0, 0) from hset]

end

end ExeLoader

end Rustation
