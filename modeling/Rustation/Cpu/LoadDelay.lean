import Rustation.Cpu.Instructions

/-!
The load delay of the CPU: a loaded value reaches its register after the
instruction that follows the load.

* `LoadDelay`: what the law says of one instruction.  It compares the
  instruction with its run from a state where no load is pending, so that the
  pending value cannot have been read, and says for every register what it
  holds afterwards;
* `Indifferent`: the parts of the handlers that neither read nor change the
  register file and the pending load; `loadDelay_settle`, `loadDelay_write` and
  `loadDelay_chain` are the three ways a handler ends;
* `loadDelay_iff`: the law holds for every instruction but the commands of the
  Geometry Transform Engine, which forget to execute the pending load.
-/

namespace Rustation

open Fallible

/-! ### Destinations -/

/-- The register an instruction writes, unless it raises an exception. -/
def Opcode.writes (op : Opcode) (i : Instruction) : Option RegisterIndex :=
  match op with
  | .sll | .srl | .sra | .sllv | .srlv | .srav | .jalr | .mfhi | .mflo | .add | .addu | .sub
  | .subu | .and | .or | .xor | .nor | .slt | .sltu => some i.d
  | .addi | .addiu | .slti | .sltiu | .andi | .ori | .xori | .lui => some i.t
  | .jal => some 31
  | .bxx => if Cpu.isLink i then some 31 else none
  | _ => none

/-- The register an instruction starts a load into, unless it raises an
exception. -/
def Opcode.loads (op : Opcode) (i : Instruction) : Option RegisterIndex :=
  match op with
  | .lb | .lh | .lwl | .lw | .lbu | .lhu | .lwr => some i.t
  | .cop0 => if i.copOpcode = 0b00000 then some i.t else none
  | .cop2 => if i.copOpcode = 0b00000 ∨ i.copOpcode = 0b00010 then some i.t else none
  | _ => none

/-- How LWL and LWR merge the word they load with the value of their target. -/
def Opcode.merge : Opcode → Option (U32 → U32 → U32 → U32)
  | .lwl => some Cpu.mergeLwl
  | .lwr => some Cpu.mergeLwr
  | _ => none

/-- A command of the Geometry Transform Engine. -/
def Instruction.IsGteCommand (i : Instruction) : Prop :=
  i.opcode = .cop2 ∧ i.copOpcode &&& 0x10 ≠ 0

namespace Cpu

variable {δ : Type} {dev : Devices δ} {op : Opcode} {i : Instruction} {c c' : Cpu δ}
  {sh sh' : SharedState}

/-! ### The law -/

/-- The same state with other registers and another pending load. -/
def withRegs (c : Cpu δ) (regs : Regs) (load : RegisterIndex × U32) : Cpu δ :=
  { c with regs := regs, load := load }

/-- The state with no load pending. -/
def settled (c : Cpu δ) : Cpu δ := c.withRegs c.regs (0, 0)

/-- The instruction writes `r` or starts a load into it. -/
def Claims (op : Opcode) (i : Instruction) (r : RegisterIndex) (c c' : Cpu δ) : Prop :=
  c'.entered = c.entered ∧ (op.writes i = some r ∨ op.loads i = some r)

/-- The outcome `c'` of an instruction in the state `c`, compared with its
outcome `p` from the same state with no load pending. -/
structure Delayed (op : Opcode) (i : Instruction) (c p c' : Cpu δ) : Prop where
  /-- everything else is computed without the pending load -/
  rest : c' = p.withRegs c'.regs c'.load
  /-- what is pending afterwards has been started by the instruction -/
  started : c'.load.1 = 0 ∨ op.loads i = some c'.load.1
  target : c'.load.1 = p.load.1
  /-- with the value it computes without the pending load -/
  value : op.merge = none ∨ c.load.1 ≠ i.t → c'.load.1 ≠ 0 → c'.load.2 = p.load.2
  /-- or from the pending value of its own target -/
  merged : ∀ merge, op.merge = some merge → c.load.1 = i.t →
    ∃ word, p.load.2 = merge (c.address i) (c.reg i.t) word ∧
      c'.load.2 = merge (c.address i) c.load.2 word
  /-- other registers are computed without the pending load -/
  others : ∀ q, q ≠ c.load.1 → c'.reg q = p.reg q
  /-- the loaded value is in its register -/
  committed : c.load.1 ≠ 0 → ¬Claims op i c.load.1 c c' → c'.reg c.load.1 = c.load.2
  /-- or the value of the instruction wins -/
  written : op.writes i = some c.load.1 → c'.entered = c.entered →
    c'.reg c.load.1 = p.reg c.load.1
  loading : op.loads i = some c.load.1 → c'.entered = c.entered →
    c'.reg c.load.1 = c.reg c.load.1
  zero : c'.reg 0 = 0

/-- The load-delay law for one instruction that went from `c` to `c'`. -/
def LoadDelay (dev : Devices δ) (op : Opcode) (i : Instruction) (c : Cpu δ) (sh : SharedState)
    (c' : Cpu δ) (sh' : SharedState) : Prop :=
  ∃ p, execute dev op i c.settled sh = .ok (p, sh') ∧ Delayed op i c p c'

/-! ### The pending load -/

@[simp] lemma settled_delayedLoad (c : Cpu δ) : c.settled.delayedLoad = c.settled := by
  have hset : c.regs.set 0 0 = c.regs := c.regs.set_zero 0
  exact congrArg (fun regs => c.withRegs regs (0, 0)) hset

/-- A handler ends by executing the pending load, with nothing of its own to
write. -/
lemma delayed_settle {p : Cpu δ} (hregs : p.regs = c.regs) (hload : p.load = (0, 0))
    (hmerge : op.merge = none)
    (hnone : p.entered = c.entered → op.writes i = none ∧ op.loads i = none) :
    Delayed op i c p (p.withRegs (c.regs.set c.load.1 c.load.2) (0, 0)) where
  rest := rfl
  started := .inl rfl
  target := by rw [hload]; rfl
  value _ h0 := absurd rfl h0
  merged _ hm _ := by simp [hmerge] at hm
  others q hq := by
    simp only [reg, withRegs, Regs.set_val, if_neg hq, hregs]
    split_ifs with h0
    · rw [h0, c.regs.zero]
    · rfl
  committed hr _ := by simp [reg, withRegs, Regs.set_val, hr]
  written hw hent := by simp [(hnone hent).1] at hw
  loading hl hent := by simp [(hnone hent).2] at hl
  zero := Regs.zero _

/-- A handler writes a register after the pending load. -/
lemma delayed_write {p : Cpu δ} {w : RegisterIndex} {x : U32} (hregs : p.regs = c.regs.set w x)
    (hload : p.load = (0, 0)) (hent : p.entered = c.entered) (hmerge : op.merge = none)
    (hw : op.writes i = some w) (hl : op.loads i = none) :
    Delayed op i c p (p.withRegs ((c.regs.set c.load.1 c.load.2).set w x) (0, 0)) where
  rest := rfl
  started := .inl rfl
  target := by rw [hload]; rfl
  value _ h0 := absurd rfl h0
  merged _ hm _ := by simp [hmerge] at hm
  others q hq := by
    simp only [reg, withRegs, hregs, Regs.set_val, if_neg hq]
    split_ifs <;> rfl
  committed hr hclaims := by
    have hne : c.load.1 ≠ w := fun heq => hclaims ⟨hent, .inl (by rw [hw, heq])⟩
    simp [reg, withRegs, Regs.set_val, hr, hne]
  written hr _ := by
    have heq : w = c.load.1 := Option.some.inj (hw.symm.trans hr)
    simp only [reg, withRegs, hregs, Regs.set_val, heq, if_true]
  loading hr _ := by simp [hl] at hr
  zero := Regs.zero _

/-- A handler starts a load: the pending one is executed unless it has the same
target. -/
lemma delayed_chain {p : Cpu δ} {t : RegisterIndex} {x x' : U32} (hregs : p.regs = c.regs)
    (hload : p.load = (t, x')) (hent : p.entered = c.entered)
    (hvalue : op.merge = none ∨ c.load.1 ≠ i.t → x = x')
    (hmerged : ∀ merge, op.merge = some merge → c.load.1 = i.t → ∃ word,
      x' = merge (c.address i) (c.reg i.t) word ∧ x = merge (c.address i) c.load.2 word)
    (hw : op.writes i = none) (hl : op.loads i = some t) :
    Delayed op i c p (p.withRegs
      (if c.load.1 ≠ t then c.regs.set c.load.1 c.load.2 else c.regs) (t, x)) where
  rest := rfl
  started := .inr hl
  target := by rw [hload]; rfl
  value h _ := by rw [hload]; exact hvalue h
  merged := by rw [hload]; exact hmerged
  others q hq := by
    simp only [reg, withRegs, hregs]
    split_ifs with ht
    · rw [Regs.set_val, if_neg hq]
      split_ifs with h0
      · rw [h0, c.regs.zero]
      · rfl
    · rfl
  committed hr hclaims := by
    have hne : c.load.1 ≠ t := fun heq => hclaims ⟨hent, .inr (by rw [hl, heq])⟩
    simp [reg, withRegs, Regs.set_val, hr, hne]
  written hr _ := by simp [hw] at hr
  loading hr _ := by
    have heq : t = c.load.1 := Option.some.inj (hl.symm.trans hr)
    simp only [reg, withRegs, heq, ne_eq, not_true_eq_false, if_false]
  zero := Regs.zero _

/-! ### Indifferent computations -/

/-- A computation that neither reads nor changes the registers and the pending
load. -/
def Indifferent (k : Cpu δ → Outcome (Cpu δ × SharedState)) : Prop :=
  ∀ c regs load, k (c.withRegs regs load) =
    k c >>= fun x => pure (x.1.withRegs regs load, x.2)

lemma indifferent_pure {f : Cpu δ → Cpu δ}
    (h : ∀ c regs load, f (c.withRegs regs load) = (f c).withRegs regs load) (sh : SharedState) :
    Indifferent fun c => pure (f c, sh) := by
  intro c regs load
  simp only [h, pure_eq_ok, ok_bind]

lemma cacheMaintenance_withRegs (c : Cpu δ) (regs : Regs) (load : RegisterIndex × U32)
    (width : Width) (addr val : U32) :
    (c.withRegs regs load).cacheMaintenance width addr val =
      c.cacheMaintenance width addr val >>= fun c => pure (c.withRegs regs load) := by
  have hcc : (c.withRegs regs load).inter.cacheControl = c.inter.cacheControl := rfl
  simp only [cacheMaintenance, hcc]
  split_ifs <;> rfl

lemma indifferent_memStore (width : Width) (sh : SharedState) (addr val : U32) :
    Indifferent fun c => c.memStore dev width sh addr val := by
  intro c regs load
  have hcop0 : (c.withRegs regs load).cop0 = c.cop0 := rfl
  have hinter : (c.withRegs regs load).inter = c.inter := rfl
  simp only [memStore, hcop0, hinter, cacheMaintenance_withRegs]
  split_ifs
  · cases c.cacheMaintenance width addr val with
    | error e => rfl
    | ok c => rfl
  · cases c.inter.store dev width sh addr val with
    | error e => rfl
    | ok x => rfl

lemma memLoad_withRegs (c : Cpu δ) (regs : Regs) (load : RegisterIndex × U32) (width : Width)
    (sh : SharedState) (addr : U32) :
    (c.withRegs regs load).memLoad dev width sh addr =
      c.memLoad dev width sh addr >>= fun x => pure (x.1, x.2.1.withRegs regs load, x.2.2) := by
  have hinter : (c.withRegs regs load).inter = c.inter := rfl
  simp only [memLoad, hinter]
  cases c.inter.load dev width sh addr with
  | error e => rfl
  | ok x => rfl

lemma indifferent_memLoad_bind {width : Width} {addr : U32}
    {k : U32 → SharedState → Cpu δ → Outcome (Cpu δ × SharedState)}
    (hk : ∀ v sh, Indifferent (k v sh)) :
    Indifferent fun c => c.memLoad dev width sh addr >>= fun x => k x.1 x.2.2 x.2.1 := by
  intro c regs load
  simp only [memLoad_withRegs]
  cases c.memLoad dev width sh addr with
  | error e => rfl
  | ok x => exact hk x.1 x.2.2 x.2.1 regs load

lemma memLoad_delayedLoad (c : Cpu δ) (width : Width) (sh : SharedState) (addr : U32) :
    c.delayedLoad.memLoad dev width sh addr =
      c.memLoad dev width sh addr >>= fun x => pure (x.1, x.2.1.delayedLoad, x.2.2) := by
  have hinter : c.delayedLoad.inter = c.inter := rfl
  simp only [memLoad, hinter]
  cases c.inter.load dev width sh addr with
  | error e => rfl
  | ok x => rfl

lemma memLoad_settled {width : Width} {addr v : U32} {q : Cpu δ}
    (h : c.memLoad dev width sh addr = .ok (v, q, sh')) :
    c.settled.memLoad dev width sh addr = .ok (v, q.settled, sh') := by
  have hq : q = { c with inter := q.inter } := memLoad_frame h
  rw [settled, memLoad_withRegs, h, ok_bind, pure_eq_ok, settled, hq]

lemma Indifferent.regs {k : Cpu δ → Outcome (Cpu δ × SharedState)} (hk : Indifferent k)
    {x : Cpu δ × SharedState} (h : k c.settled = .ok x) :
    x.1.regs = c.regs ∧ x.1.load = (0, 0) := by
  have hsame : k c.settled = k c.settled >>= fun x => pure (x.1.withRegs c.regs (0, 0), x.2) :=
    hk c.settled c.regs (0, 0)
  rw [h, ok_bind, pure_eq_ok] at hsame
  injection hsame with hsame
  rw [hsame]
  exact ⟨rfl, rfl⟩

/-! ### The three ways a handler ends -/

/-- The handler executes the pending load and goes on with an indifferent
computation. -/
lemma loadDelay_settle {k : Cpu δ → Outcome (Cpu δ × SharedState)} (hk : Indifferent k)
    (hop : ∀ load, execute dev op i (c.withRegs c.regs load) sh =
      k (c.withRegs c.regs load).delayedLoad)
    (hmerge : op.merge = none)
    (hnone : c'.entered = c.entered → op.writes i = none ∧ op.loads i = none)
    (h : execute dev op i c sh = .ok (c', sh')) : LoadDelay dev op i c sh c' sh' := by
  have hrun : k (c.settled.withRegs (c.regs.set c.load.1 c.load.2) (0, 0)) = .ok (c', sh') :=
    (hop c.load).symm.trans h
  have hplain : execute dev op i c.settled sh = k c.settled :=
    (hop (0, 0)).trans (congrArg k c.settled_delayedLoad)
  rw [hk] at hrun
  obtain ⟨⟨p, sh1⟩, hp, heq⟩ := bind_eq_ok.mp hrun
  obtain ⟨hregs, hload⟩ := hk.regs hp
  injection heq with heq
  injection heq with hc' hsh'
  subst hc' hsh'
  exact ⟨p, hplain.trans hp, delayed_settle hregs hload hmerge hnone⟩

/-- The handler writes a register after the pending load. -/
lemma loadDelay_write {f : Cpu δ → Cpu δ} {w : RegisterIndex} {x : U32}
    (hf : ∀ c regs load, f (c.withRegs regs load) = (f c).withRegs regs load)
    (hent : ∀ c, (f c).entered = c.entered)
    (hop : ∀ load, execute dev op i (c.withRegs c.regs load) sh =
      pure (f ((c.withRegs c.regs load).delayedLoad.setReg w x), sh))
    (hmerge : op.merge = none) (hw : op.writes i = some w) (hl : op.loads i = none)
    (h : execute dev op i c sh = .ok (c', sh')) : LoadDelay dev op i c sh c' sh' := by
  have hrun : .ok (f (c.settled.withRegs ((c.regs.set c.load.1 c.load.2).set w x) (0, 0)), sh) =
      (Except.ok (c', sh') : Outcome _) := (hop c.load).symm.trans h
  have hplain : execute dev op i c.settled sh =
      .ok (f (c.settled.withRegs (c.regs.set w x) (0, 0)), sh) := by
    refine (hop (0, 0)).trans ?_
    have hsettled : (c.withRegs c.regs (0, 0)).delayedLoad = c.settled := c.settled_delayedLoad
    rw [hsettled]
    rfl
  injection hrun with hrun
  injection hrun with hc' hsh'
  rw [hf] at hc' hplain
  subst hc' hsh'
  exact ⟨_, hplain, delayed_write rfl rfl (hent _) hmerge hw hl⟩

lemma delayedLoadChain_eq (c : Cpu δ) (t : RegisterIndex) (x : U32) : c.delayedLoadChain t x =
    c.withRegs (if c.load.1 ≠ t then c.regs.set c.load.1 c.load.2 else c.regs) (t, x) := by
  simp only [delayedLoadChain]
  split_ifs <;> rfl

/-- The handler starts a load, `q` being the state it has reached by then. -/
lemma loadDelay_chain {q : Cpu δ} {t : RegisterIndex} {x x' : U32}
    (hq : q = { c with inter := q.inter })
    (hplain : execute dev op i c.settled sh = .ok (q.settled.delayedLoadChain t x', sh'))
    (hvalue : op.merge = none ∨ c.load.1 ≠ i.t → x = x')
    (hmerged : ∀ merge, op.merge = some merge → c.load.1 = i.t → ∃ word,
      x' = merge (c.address i) (c.reg i.t) word ∧ x = merge (c.address i) c.load.2 word)
    (hw : op.writes i = none) (hl : op.loads i = some t) :
    LoadDelay dev op i c sh (q.delayedLoadChain t x) sh' := by
  have hsettled : q.settled.delayedLoadChain t x' = q.withRegs q.regs (t, x') := by
    have hzero : (if (0 : RegisterIndex) ≠ t then q.regs.set 0 0 else q.regs) = q.regs := by
      rw [Regs.set_zero, ite_self]
    rw [delayedLoadChain_eq]
    exact congrArg (fun regs => q.withRegs regs (t, x')) hzero
  rw [hsettled] at hplain
  have hchain : q.delayedLoadChain t x = (q.withRegs q.regs (t, x')).withRegs
      (if c.load.1 ≠ t then c.regs.set c.load.1 c.load.2 else c.regs) (t, x) := by
    rw [delayedLoadChain_eq, hq]
    rfl
  rw [hchain]
  refine ⟨_, hplain, delayed_chain ?_ rfl ?_ hvalue hmerged hw hl⟩
  · rw [hq]
    rfl
  · rw [hq]
    rfl

/-! ### The families of handlers -/

/-- The result `x` is computed before the pending load is executed. -/
lemma loadDelay_writeBack {w : RegisterIndex} {x : Cpu δ → U32}
    (hop : ∀ c, execute dev op i c sh = pure (c.writeBack w (x c), sh))
    (hx : ∀ load, x (c.withRegs c.regs load) = x c)
    (hmerge : op.merge = none) (hw : op.writes i = some w) (hl : op.loads i = none)
    (h : execute dev op i c sh = .ok (c', sh')) : LoadDelay dev op i c sh c' sh' := by
  refine loadDelay_write (f := id) (x := x c) (fun _ _ _ => rfl) (fun _ => rfl) (fun load => ?_)
    hmerge hw hl h
  rw [hop, hx]
  rfl

/-- An exception after the pending load: nothing is written. -/
lemma loadDelay_exception (cause : Exception)
    (hop : ∀ load, execute dev op i (c.withRegs c.regs load) sh =
      pure ((c.withRegs c.regs load).delayedLoad.exception cause, sh))
    (hmerge : op.merge = none)
    (h : execute dev op i c sh = .ok (c', sh')) : LoadDelay dev op i c sh c' sh' := by
  refine loadDelay_settle (indifferent_pure (f := fun c => c.exception cause) (fun _ _ _ => rfl) sh)
    hop hmerge (fun hent => ?_) h
  have hrun : .ok (c.delayedLoad.exception cause, sh) = (Except.ok (c', sh') : Outcome _) :=
    (hop c.load).symm.trans h
  injection hrun with hrun
  injection hrun with hc' hsh'
  rw [← hc'] at hent
  exact absurd hent (List.cons_ne_self _ _)

lemma loadDelay_writeBackChecked {w : RegisterIndex} {v : Cpu δ → Option U32}
    (hop : ∀ c, execute dev op i c sh = pure (c.writeBackChecked w (v c), sh))
    (hv : ∀ load, v (c.withRegs c.regs load) = v c)
    (hmerge : op.merge = none) (hw : op.writes i = some w) (hl : op.loads i = none)
    (h : execute dev op i c sh = .ok (c', sh')) : LoadDelay dev op i c sh c' sh' := by
  cases hvc : v c with
  | none =>
      refine loadDelay_exception .overflow (fun load => ?_) hmerge h
      rw [hop, hv, hvc]
      rfl
  | some x =>
      refine loadDelay_write (f := id) (x := x) (fun _ _ _ => rfl) (fun _ => rfl) (fun load => ?_)
        hmerge hw hl h
      rw [hop, hv, hvc]
      rfl

/-- A change of other parts of the state, around the pending load. -/
lemma loadDelay_pure (f : Cpu δ → Cpu δ)
    (hf : ∀ c regs load, f (c.withRegs regs load) = (f c).withRegs regs load)
    (hop : ∀ load, execute dev op i (c.withRegs c.regs load) sh =
      pure (f (c.withRegs c.regs load).delayedLoad, sh))
    (hmerge : op.merge = none) (hw : op.writes i = none) (hl : op.loads i = none)
    (h : execute dev op i c sh = .ok (c', sh')) : LoadDelay dev op i c sh c' sh' :=
  loadDelay_settle (indifferent_pure hf sh) hop hmerge (fun _ => ⟨hw, hl⟩) h

lemma loadDelay_setHiLo {hi lo : Cpu δ → U32}
    (hop : ∀ c, execute dev op i c sh = pure (c.setHiLo (hi c) (lo c), sh))
    (hhi : ∀ load, hi (c.withRegs c.regs load) = hi c)
    (hlo : ∀ load, lo (c.withRegs c.regs load) = lo c)
    (hmerge : op.merge = none) (hw : op.writes i = none) (hl : op.loads i = none)
    (h : execute dev op i c sh = .ok (c', sh')) : LoadDelay dev op i c sh c' sh' := by
  refine loadDelay_pure (fun c1 => { c1 with hi := hi c, lo := lo c }) (fun _ _ _ => rfl)
    (fun load => ?_) hmerge hw hl h
  rw [hop, hhi, hlo]
  rfl

lemma loadDelay_loadTo (width : Width) (extend : U32 → U32)
    (hop : ∀ load, execute dev op i (c.withRegs c.regs load) sh =
      loadTo dev width extend i (c.withRegs c.regs load) sh)
    (hmerge : op.merge = none) (hw : op.writes i = none) (hl : op.loads i = some i.t)
    (h : execute dev op i c sh = .ok (c', sh')) : LoadDelay dev op i c sh c' sh' := by
  obtain ⟨⟨v, q, sh1⟩, hload, heq⟩ := bind_eq_ok.mp ((hop c.load).symm.trans h)
  injection heq with heq
  injection heq with hc' hsh'
  subst hc' hsh'
  refine loadDelay_chain (memLoad_frame hload) ((hop (0, 0)).trans ?_) (fun _ => rfl)
    (fun merge hm => by simp [hmerge] at hm) hw hl
  exact congrArg (· >>= fun x => pure (x.2.1.delayedLoadChain i.t (extend x.1), x.2.2))
    (memLoad_settled hload)

lemma loadDelay_loadAligned {width : Width} {extend : U32 → U32}
    (hop : ∀ load, execute dev op i (c.withRegs c.regs load) sh =
      loadAligned dev width extend i (c.withRegs c.regs load) sh)
    (hmerge : op.merge = none) (hw : op.writes i = none) (hl : op.loads i = some i.t)
    (h : execute dev op i c sh = .ok (c', sh')) : LoadDelay dev op i c sh c' sh' := by
  by_cases haligned : (c.address i).toNat % width.size = 0
  · exact loadDelay_loadTo width extend (fun load => (hop load).trans (if_pos haligned)) hmerge hw
      hl h
  · exact loadDelay_exception .loadAddressError
      (fun load => (hop load).trans (if_neg haligned)) hmerge h

/-- LWL and LWR: the value merged with is the pending one if it has the same
target. -/
lemma loadDelay_loadUnaligned {merge : U32 → U32 → U32 → U32}
    (hop : ∀ load, execute dev op i (c.withRegs c.regs load) sh =
      loadUnaligned dev merge i (c.withRegs c.regs load) sh)
    (hmerge : op.merge = some merge) (hw : op.writes i = none) (hl : op.loads i = some i.t)
    (h : execute dev op i c sh = .ok (c', sh')) : LoadDelay dev op i c sh c' sh' := by
  obtain ⟨⟨word, q, sh1⟩, hload, heq⟩ := bind_eq_ok.mp ((hop c.load).symm.trans h)
  injection heq with heq
  injection heq with hc' hsh'
  subst hc' hsh'
  -- with nothing pending the register is read, also if it is register 0
  have hsettled : c.settled.pendingOr i.t = c.reg i.t := by
    by_cases h0 : 0 = i.t
    · rw [← h0]
      exact (if_pos rfl).trans c.regs.zero.symm
    · exact if_neg h0
  have hplain : execute dev op i c.settled sh =
      .ok (q.settled.delayedLoadChain i.t (merge (c.address i) (c.reg i.t) word), sh1) := by
    rw [← hsettled]
    refine (hop (0, 0)).trans ?_
    exact congrArg (· >>= fun x => pure (x.2.1.delayedLoadChain i.t
      (merge (c.address i) (c.settled.pendingOr i.t) x.1), x.2.2)) (memLoad_settled hload)
  refine loadDelay_chain (memLoad_frame hload) hplain ?_ ?_ hw hl
  · rintro (hnone | hne)
    · simp [hmerge] at hnone
    · exact congrArg (fun v => merge (c.address i) v word) (if_neg hne)
  · intro m hm htarget
    obtain rfl : merge = m := Option.some.inj (hmerge.symm.trans hm)
    exact ⟨word, rfl, congrArg (fun v => merge (c.address i) v word) (if_pos htarget)⟩

lemma loadDelay_storeAligned {width : Width} {cause : Exception} {v : U32}
    (hop : ∀ load, execute dev op i (c.withRegs c.regs load) sh =
      storeAligned dev width cause v i (c.withRegs c.regs load) sh)
    (hmerge : op.merge = none) (hw : op.writes i = none) (hl : op.loads i = none)
    (h : execute dev op i c sh = .ok (c', sh')) : LoadDelay dev op i c sh c' sh' := by
  by_cases haligned : (c.address i).toNat % width.size = 0
  · exact loadDelay_settle (indifferent_memStore width sh (c.address i) v)
      (fun load => (hop load).trans (if_pos haligned)) hmerge (fun _ => ⟨hw, hl⟩) h
  · exact loadDelay_exception cause (fun load => (hop load).trans (if_neg haligned)) hmerge h

/-- SWL and SWR: the word around the address is read before the pending load is
executed. -/
lemma loadDelay_storeUnaligned {merge : U32 → U32 → U32 → U32}
    (hop : ∀ load, execute dev op i (c.withRegs c.regs load) sh =
      storeUnaligned dev merge i (c.withRegs c.regs load) sh)
    (hmerge : op.merge = none) (hw : op.writes i = none) (hl : op.loads i = none)
    (h : execute dev op i c sh = .ok (c', sh')) : LoadDelay dev op i c sh c' sh' := by
  have hk : Indifferent fun c1 => c1.memLoad dev .word sh (c.address i &&& ~~~3#32) >>= fun x =>
      x.2.1.memStore dev .word x.2.2 (c.address i &&& ~~~3#32)
        (merge (c.address i) x.1 (c.reg i.t)) :=
    indifferent_memLoad_bind fun v sh => indifferent_memStore .word sh _ (merge _ v _)
  refine loadDelay_settle hk (fun load => (hop load).trans ?_) hmerge (fun _ => ⟨hw, hl⟩) h
  simp only [memLoad_delayedLoad, storeUnaligned, bind_assoc, pure_bind]
  rfl

/-! ### Coprocessors -/

/-- The settling handlers of the coprocessors: the register `v` reads and the
operation `k` on the state do not see the registers. -/
lemma loadDelay_cop {k : Cpu δ → Outcome (Cpu δ)}
    (hk : ∀ c regs load, k (c.withRegs regs load) = k c >>= fun c => pure (c.withRegs regs load))
    (hop : ∀ load, execute dev op i (c.withRegs c.regs load) sh =
      k (c.withRegs c.regs load).delayedLoad >>= fun c => pure (c, sh))
    (hmerge : op.merge = none) (hw : op.writes i = none) (hl : op.loads i = none)
    (h : execute dev op i c sh = .ok (c', sh')) : LoadDelay dev op i c sh c' sh' := by
  have hind : Indifferent fun c => k c >>= fun c => pure (c, sh) := by
    intro c regs load
    simp only [hk, bind_assoc, pure_bind]
  exact loadDelay_settle hind hop hmerge (fun _ => ⟨hw, hl⟩) h

/-- The handlers that start a load of a coprocessor register. -/
lemma loadDelay_copLoad {v : Outcome U32}
    (hop : ∀ load, execute dev op i (c.withRegs c.regs load) sh =
      (v >>= fun v => pure ((c.withRegs c.regs load).delayedLoadChain i.t v)) >>=
        fun c => pure (c, sh))
    (hmerge : op.merge = none) (hw : op.writes i = none) (hl : op.loads i = some i.t)
    (h : execute dev op i c sh = .ok (c', sh')) : LoadDelay dev op i c sh c' sh' := by
  obtain ⟨c1, hv, heq⟩ := bind_eq_ok.mp ((hop c.load).symm.trans h)
  obtain ⟨x, rfl, hc1⟩ := bind_eq_ok.mp hv
  injection hc1 with hc1
  injection heq with heq
  injection heq with hc' hsh'
  subst hc1 hc' hsh'
  exact loadDelay_chain rfl (hop (0, 0)) (fun _ => rfl) (fun merge hm => by simp [hmerge] at hm)
    hw hl

lemma loadDelay_cop0 (h : execute dev .cop0 i c sh = .ok (c', sh')) :
    LoadDelay dev .cop0 i c sh c' sh' := by
  by_cases hmf : i.copOpcode = 0b00000
  · have heq (c : Cpu δ) : opCop0 i c sh = opMfc0 i c sh := by simp [opCop0, hmf]
    exact loadDelay_copLoad (v := cop0Value c.cop0 sh i.d)
      (fun load => congrArg (· >>= fun c => pure (c, sh)) (heq _)) rfl rfl (if_pos hmf) h
  have hl : Opcode.loads .cop0 i = none := if_neg hmf
  by_cases hmt : i.copOpcode = 0b00100
  · have heq (c : Cpu δ) : opCop0 i c sh = opMtc0 i c := by simp [opCop0, hmt]
    exact loadDelay_cop (k := fun c1 => setCop0 c1.cop0 i.d (c.reg i.t) >>= fun cop0 =>
        pure { c1 with cop0 := cop0 }) (fun c1 regs load => by rw [bind_assoc]; rfl)
      (fun load => congrArg (· >>= fun c => pure (c, sh)) (heq _)) rfl rfl hl h
  by_cases hrfe : i.copOpcode = 0b10000
  · have heq (c : Cpu δ) : opCop0 i c sh = opRfe i c := by simp [opCop0, hrfe]
    exact loadDelay_cop (k := fun c => if i.word &&& 0x3f ≠ 0b010000 then
        throw (.panic "Invalid cop0 instruction")
        else pure { c with cop0 := c.cop0.returnFromException })
      (fun c1 regs load => by split_ifs <;> rfl)
      (fun load => congrArg (· >>= fun c => pure (c, sh)) (heq _)) rfl rfl hl h
  · have hfault : opCop0 i c sh = throw (.panic "unhandled cop0 instruction") := by
      simp only [← BitVec.toNat_inj] at hmf hmt hrfe
      unfold opCop0
      split <;> first | rfl | contradiction
    simp [execute, hfault] at h

/-- The moves between the CPU and the Geometry Transform Engine. -/
lemma loadDelay_cop2 (hmove : i.copOpcode &&& 0x10 = 0)
    (h : execute dev .cop2 i c sh = .ok (c', sh')) : LoadDelay dev .cop2 i c sh c' sh' := by
  by_cases hmf : i.copOpcode = 0b00000
  · have heq (c : Cpu δ) : opCop2 i c = opMfc2 i c := by simp [opCop2, hmf]
    exact loadDelay_copLoad (v := c.gte.data (copRegister i.d))
      (fun load => congrArg (· >>= fun c => pure (c, sh)) (heq _)) rfl rfl
      (if_pos (.inl hmf)) h
  by_cases hcf : i.copOpcode = 0b00010
  · have heq (c : Cpu δ) : opCop2 i c = opCfc2 i c := by simp [opCop2, hcf]
    exact loadDelay_copLoad (v := c.gte.control (copRegister i.d))
      (fun load => congrArg (· >>= fun c => pure (c, sh)) (heq _)) rfl rfl
      (if_pos (.inr hcf)) h
  have hl : Opcode.loads .cop2 i = none := if_neg (not_or.mpr ⟨hmf, hcf⟩)
  by_cases hmt : i.copOpcode = 0b00100
  · have heq (c : Cpu δ) : opCop2 i c = opMtc2 i c := by simp [opCop2, hmt]
    exact loadDelay_cop (k := fun c1 => c1.gte.setData (copRegister i.d) (c.reg i.t) >>= fun gte =>
        pure { c1 with gte := gte }) (fun c1 regs load => by rw [bind_assoc]; rfl)
      (fun load => congrArg (· >>= fun c => pure (c, sh)) (heq _)) rfl rfl hl h
  by_cases hct : i.copOpcode = 0b00110
  · have heq (c : Cpu δ) : opCop2 i c = opCtc2 i c := by simp [opCop2, hct]
    exact loadDelay_cop (k := fun c1 => c1.gte.setControl (copRegister i.d) (c.reg i.t) >>=
        fun gte => pure { c1 with gte := gte }) (fun c1 regs load => by rw [bind_assoc]; rfl)
      (fun load => congrArg (· >>= fun c => pure (c, sh)) (heq _)) rfl rfl hl h
  · have hfault : opCop2 i c = throw (.panic "unhandled GTE instruction") := by
      simp only [← BitVec.toNat_inj] at hmf hcf hmt hct
      refine (if_neg (not_not.mpr hmove)).trans ?_
      split <;> first | rfl | contradiction
    simp [execute, hfault] at h

/-- A command leaves the pending load where it is, so the law holds only if
there is none. -/
lemma loadDelay_gteCommand (hcmd : i.copOpcode &&& 0x10 ≠ 0)
    (h : execute dev .cop2 i c sh = .ok (c', sh')) :
    LoadDelay dev .cop2 i c sh c' sh' ↔ c.load.1 = 0 := by
  have heq (c : Cpu δ) : opCop2 i c = gteCommand i c := if_pos hcmd
  obtain ⟨c1, hrun, hc'⟩ := bind_eq_ok.mp h
  rw [heq] at hrun
  obtain ⟨gte, hgte, hc1⟩ := bind_eq_ok.mp hrun
  injection hc1 with hc1
  injection hc' with hc'
  injection hc' with hc' hsh'
  subst hc1 hc' hsh'
  have hplain : execute dev .cop2 i c.settled sh = .ok ({ c.settled with gte := gte }, sh) := by
    have hsettled : gteCommand i c.settled = .ok { c.settled with gte := gte } :=
      congrArg (· >>= fun gte => pure ({ c.settled with gte := gte } : Cpu δ)) hgte
    exact congrArg (· >>= fun c => pure (c, sh)) ((heq _).trans hsettled)
  constructor
  · rintro ⟨p, hp, hdelayed⟩
    have hpload : p.load.1 = 0 := by
      rw [hplain] at hp
      injection hp with hp
      injection hp with hp
      rw [← hp]
      rfl
    exact hdelayed.target.trans hpload
  · intro h0
    have hl : Opcode.loads .cop2 i = none := by
      refine if_neg ?_
      rintro (h | h) <;> simp [h] at hcmd
    exact ⟨_, hplain, {
      rest := rfl
      started := .inl h0
      target := h0
      value := fun _ hne => absurd h0 hne
      merged := fun _ hm => by simp [Opcode.merge] at hm
      others := fun _ _ => rfl
      committed := fun hne => absurd h0 hne
      written := fun hw => by simp [Opcode.writes] at hw
      loading := fun hr => by simp [hl] at hr
      zero := c.regs.zero }⟩

lemma loadDelay_lwc2 (h : execute dev .lwc2 i c sh = .ok (c', sh')) :
    LoadDelay dev .lwc2 i c sh c' sh' := by
  by_cases haligned : (c.address i).toNat % 4 = 0
  · have hk : Indifferent fun c1 => c1.memLoad dev .word sh (c.address i) >>= fun x =>
        x.2.1.gte.setData (copRegister i.t) x.1 >>= fun gte =>
          pure ({ x.2.1 with gte := gte }, x.2.2) :=
      indifferent_memLoad_bind (k := fun v sh c => c.gte.setData (copRegister i.t) v >>= fun gte =>
        pure ({ c with gte := gte }, sh)) fun v sh c regs load => by
          rw [bind_assoc]
          rfl
    exact loadDelay_settle hk (fun load => if_pos haligned) rfl (fun _ => ⟨rfl, rfl⟩) h
  · exact loadDelay_exception .loadAddressError (fun load => if_neg haligned) rfl h

lemma loadDelay_swc2 (h : execute dev .swc2 i c sh = .ok (c', sh')) :
    LoadDelay dev .swc2 i c sh c' sh' := by
  obtain ⟨v, hv, -⟩ := bind_eq_ok.mp h
  have hop (load) : execute dev .swc2 i (c.withRegs c.regs load) sh =
      storeAligned dev .word .loadAddressError v i (c.withRegs c.regs load) sh :=
    congrArg (· >>= fun v => storeAligned dev .word .loadAddressError v i _ sh) hv
  exact loadDelay_storeAligned hop rfl rfl rfl h

/-! ### Branches -/

lemma loadDelay_branchIf {test : Cpu δ → Bool}
    (hop : ∀ c, execute dev op i c sh = pure (c.branchIf (test c) i, sh))
    (htest : ∀ load, test (c.withRegs c.regs load) = test c)
    (hmerge : op.merge = none) (hw : op.writes i = none) (hl : op.loads i = none)
    (h : execute dev op i c sh = .ok (c', sh')) : LoadDelay dev op i c sh c' sh' := by
  cases htc : test c with
  | true =>
      refine loadDelay_pure (·.branchTo i.immSe) (fun _ _ _ => rfl) (fun load => ?_) hmerge hw hl h
      rw [hop, htest, htc]
      rfl
  | false =>
      refine loadDelay_pure id (fun _ _ _ => rfl) (fun load => ?_) hmerge hw hl h
      rw [hop, htest, htc]
      rfl

/-- The link is written whether the branch is taken or not. -/
lemma loadDelay_bxx (h : execute dev .bxx i c sh = .ok (c', sh')) :
    LoadDelay dev .bxx i c sh c' sh' := by
  let branch : Cpu δ → Cpu δ := fun c1 =>
    if boolWord ((c.reg i.s).toInt < 0) ^^^ (i.word >>> 16 &&& 1) ≠ 0 then c1.branchTo i.immSe
    else c1
  have hbranch : ∀ c regs load, branch (c.withRegs regs load) = (branch c).withRegs regs load := by
    intro c regs load
    simp only [branch]
    split_ifs <;> rfl
  have hent : ∀ c, (branch c).entered = c.entered := by
    intro c
    simp only [branch]
    split_ifs <;> rfl
  by_cases hlink : isLink i
  · have hw : Opcode.writes .bxx i = some 31 := if_pos hlink
    refine loadDelay_write (x := c.nextPc) hbranch hent (fun load => ?_) rfl hw rfl h
    simp only [execute, opBxx, if_pos hlink]
    rfl
  · have hw : Opcode.writes .bxx i = none := if_neg hlink
    refine loadDelay_pure branch hbranch (fun load => ?_) rfl hw rfl h
    simp only [execute, opBxx, if_neg hlink]
    rfl

/-! ### Every instruction -/

lemma loadDelay_execute (hcmd : ¬(op = .cop2 ∧ i.copOpcode &&& 0x10 ≠ 0))
    (h : execute dev op i c sh = .ok (c', sh')) : LoadDelay dev op i c sh c' sh' := by
  cases op
  case sll | srl | sra | sllv | srlv | srav | mfhi | mflo | addu | subu | and | or | xor | nor
      | slt | sltu | addiu | slti | sltiu | andi | ori | xori | lui =>
    exact loadDelay_writeBack (fun _ => rfl) (fun _ => rfl) rfl rfl rfl h
  case add | sub | addi =>
    exact loadDelay_writeBackChecked (fun _ => rfl) (fun _ => rfl) rfl rfl rfl h
  case mthi =>
    exact loadDelay_pure (fun c1 => { c1 with hi := c.reg i.s }) (fun _ _ _ => rfl) (fun _ => rfl)
      rfl rfl rfl h
  case mtlo =>
    exact loadDelay_pure (fun c1 => { c1 with lo := c.reg i.s }) (fun _ _ _ => rfl) (fun _ => rfl)
      rfl rfl rfl h
  case mult | multu | div | divu =>
    exact loadDelay_setHiLo (fun _ => rfl) (fun _ => rfl) (fun _ => rfl) rfl rfl rfl h
  case beq | bne | blez | bgtz =>
    exact loadDelay_branchIf (fun _ => rfl) (fun _ => rfl) rfl rfl rfl h
  case bxx => exact loadDelay_bxx h
  case jr =>
    exact loadDelay_pure (fun c1 => { c1 with nextPc := c.reg i.s, branch := true })
      (fun _ _ _ => rfl) (fun _ => rfl) rfl rfl rfl h
  case j =>
    exact loadDelay_pure (fun c1 =>
        { c1 with nextPc := c.pc &&& 0xf0000000 ||| i.immJump <<< 2, branch := true })
      (fun _ _ _ => rfl) (fun _ => rfl) rfl rfl rfl h
  case jalr =>
    exact loadDelay_write (f := fun c1 => { c1 with nextPc := c.reg i.s, branch := true })
      (fun _ _ _ => rfl) (fun _ => rfl) (fun _ => rfl) rfl rfl rfl h
  case jal =>
    exact loadDelay_write (f := fun c1 =>
        { c1 with nextPc := c.pc &&& 0xf0000000 ||| i.immJump <<< 2, branch := true })
      (fun _ _ _ => rfl) (fun _ => rfl) (fun _ => rfl) rfl rfl rfl h
  case syscall => exact loadDelay_exception .sysCall (fun _ => rfl) rfl h
  case illegal => exact loadDelay_exception .illegalInstruction (fun _ => rfl) rfl h
  case cop1 | cop3 | lwc0 | lwc1 | lwc3 | swc0 | swc1 | swc3 =>
    exact loadDelay_exception .coprocessorError (fun _ => rfl) rfl h
  case «break» =>
    refine loadDelay_pure (fun c => if c.debugOnBreak then c else c.exception .break) ?_
      (fun _ => rfl) rfl rfl rfl h
    intro c regs load
    have hdebug : (c.withRegs regs load).debugOnBreak = c.debugOnBreak := rfl
    simp only [hdebug]
    split_ifs <;> rfl
  case cop0 => exact loadDelay_cop0 h
  case cop2 => exact loadDelay_cop2 (not_not.mp fun h => hcmd ⟨rfl, h⟩) h
  case lb =>
    exact loadDelay_loadTo .byte (fun v => (v.setWidth 8).signExtend 32) (fun _ => rfl) rfl rfl rfl
      h
  case lbu => exact loadDelay_loadTo .byte id (fun _ => rfl) rfl rfl rfl h
  case lh | lhu | lw => exact loadDelay_loadAligned (fun _ => rfl) rfl rfl rfl h
  case lwl | lwr => exact loadDelay_loadUnaligned (fun _ => rfl) rfl rfl rfl h
  case lwc2 => exact loadDelay_lwc2 h
  case sb =>
    exact loadDelay_settle (indifferent_memStore .byte sh (c.address i) (c.reg i.t))
      (fun _ => rfl) rfl (fun _ => ⟨rfl, rfl⟩) h
  case sh | sw => exact loadDelay_storeAligned (v := c.reg i.t) (fun _ => rfl) rfl rfl rfl h
  case swl | swr => exact loadDelay_storeUnaligned (fun _ => rfl) rfl rfl rfl h
  case swc2 => exact loadDelay_swc2 h

/-- The load-delay law holds for every instruction, except that a command of the
Geometry Transform Engine does not execute the pending load. -/
theorem loadDelay_iff (h : decodeAndExecute dev i c sh = .ok (c', sh')) :
    LoadDelay dev i.opcode i c (sh.tick 1) c' sh' ↔ (i.IsGteCommand → c.load.1 = 0) := by
  by_cases hcmd : i.IsGteCommand
  · simp only [hcmd, true_imp_iff]
    unfold decodeAndExecute at h
    rw [hcmd.1] at h ⊢
    exact loadDelay_gteCommand hcmd.2 h
  · simp only [hcmd, false_imp_iff, iff_true]
    exact loadDelay_execute hcmd h

/-- A CPU that has just executed a load of 5 into register 1. -/
def loaded : Cpu Unit := { Cpu.new (Interconnect.new (fun _ => 0) ()) with load := (1, 5) }

/-- `addu $2, $1, $0` copies the old value of register 1. -/
theorem loadDelay_iff_addu :
    decodeAndExecute .idle ⟨0x00201021⟩ loaded .new =
      .ok (opAddu ⟨0x00201021⟩ loaded, SharedState.new.tick 1) ∧
    (opAddu ⟨0x00201021⟩ loaded).reg 2 = 0xdeadbeef ∧
    LoadDelay .idle .addu ⟨0x00201021⟩ loaded (SharedState.new.tick 1)
      (opAddu ⟨0x00201021⟩ loaded) (SharedState.new.tick 1) := by
  have hrun : decodeAndExecute .idle ⟨0x00201021⟩ loaded .new =
      .ok (opAddu ⟨0x00201021⟩ loaded, SharedState.new.tick 1) := rfl
  exact ⟨hrun, by decide, (loadDelay_iff hrun).mpr fun hcmd => absurd hcmd.1 (by decide)⟩

/-- After the command NCLIP the load is still pending and has not reached its
register. -/
theorem loadDelay_nclip : ∃ c' sh',
    decodeAndExecute .idle ⟨0x4a000006⟩ loaded .new = .ok (c', sh') ∧
      c'.load = (1, 5) ∧ c'.reg 1 = 0xdeadbeef ∧
      ¬LoadDelay .idle .cop2 ⟨0x4a000006⟩ loaded (SharedState.new.tick 1) c' sh' := by
  obtain ⟨gte, hgte, -⟩ := bind_eq_ok.mp
    (show (Gte.new.command 0x4a000006 >>= fun g => pure g.flags) = .ok 0 by decide +kernel)
  have hrun : decodeAndExecute .idle ⟨0x4a000006⟩ loaded .new =
      .ok ({ loaded with gte := gte }, SharedState.new.tick 1) := by
    have hcommand : gteCommand ⟨0x4a000006⟩ loaded = .ok { loaded with gte := gte } :=
      congrArg (· >>= fun gte => pure ({ loaded with gte := gte } : Cpu Unit)) hgte
    exact congrArg (· >>= fun c => pure (c, SharedState.new.tick 1)) hcommand
  refine ⟨_, _, hrun, rfl, rfl, fun hlaw => ?_⟩
  have h0 : loaded.load.1 = 0 := (loadDelay_gteCommand (by decide) hrun).mp hlaw
  exact absurd h0 (by decide)

end Cpu

end Rustation
