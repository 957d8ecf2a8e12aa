import Rustation.Cpu.Exceptions

/-!
The CPU seen from the rest of the console: every instruction is a list of
accesses to the interconnect.

* `Interconnect.Access`, `Interconnect.perform`: the ways in which the CPU
  reaches the memories, the peripherals and the shared state;
* `Performed`: a list of accesses leads from one state of the console to another;
* `Cpu.Reaches`: the accesses of a handler;
* `Cpu.execute_accesses`, `Cpu.fetchInstruction_accesses`,
  `Cpu.dispatch_accesses`: the accesses of the parts of a step;
* `Cpu.Stepped`, `Cpu.runNextInstruction_accesses`: the accesses of a step.  What
  holds of every access holds of every instruction: `Cpu.runNextInstruction_keeps`,
  `Cpu.runFor_keeps`.
-/

namespace Rustation

open Fallible

/-! ### Accesses -/

namespace Interconnect

/-- What the CPU does to the rest of the console. -/
inductive Access where
  /-- let time pass -/
  | tick (cycles : Cycles)
  /-- read an instruction -/
  | fetch (pc : U32)
  | load (width : Width) (addr : U32)
  | store (width : Width) (addr val : U32)
  /-- synchronise the peripherals, if one of them is due -/
  | sync
  | countInterrupt
  deriving DecidableEq, Repr

variable {δ : Type} (dev : Devices δ)

/-- The state of the console an access leaves. -/
def perform (s : Interconnect δ × SharedState) : Access → Outcome (Interconnect δ × SharedState)
  | .tick cycles => pure (s.1, s.2.tick cycles)
  | .fetch pc => do
      let (_, s) ← s.1.loadInstruction dev s.2 pc
      pure s
  | .load width addr => do
      let (_, s) ← s.1.load dev width s.2 addr
      pure s
  | .store width addr val => s.1.store dev width s.2 addr val
  | .sync =>
      if s.2.tk.syncPending then do
        let (inter, sh) ← s.1.sync dev s.2
        pure (inter, { sh with tk := sh.tk.updateSyncPending })
      else pure s
  | .countInterrupt => pure (s.1, Cpu.countInterrupt s.2)

/-- The accesses lead from one state of the console to the other. -/
def Performed (s : Interconnect δ × SharedState) (l : List Access)
    (s' : Interconnect δ × SharedState) : Prop :=
  l.foldlM (perform dev) s = .ok s'

/-- An access of the instruction fetch. -/
def Access.Fetches : Access → Prop
  | .tick cycles => cycles ≤ 4
  | .fetch _ => True
  | _ => False

variable {dev} {s s' s'' : Interconnect δ × SharedState} {a : Access} {l l' : List Access}

lemma performed_nil : Performed dev s [] s' ↔ s = s' := by
  constructor
  · intro h
    injection h
  · rintro rfl
    rfl

lemma performed_cons : Performed dev s (a :: l) s' ↔
    ∃ t, perform dev s a = .ok t ∧ Performed dev t l s' := by
  rw [Performed, List.foldlM_cons]
  exact bind_eq_ok

lemma performed_single : Performed dev s [a] s' ↔ perform dev s a = .ok s' := by
  rw [performed_cons]
  constructor
  · rintro ⟨t, ht, hnil⟩
    rw [ht, performed_nil.mp hnil]
  · intro h
    exact ⟨s', h, performed_nil.mpr rfl⟩

lemma Performed.append (h : Performed dev s l s') (h' : Performed dev s' l' s'') :
    Performed dev s (l ++ l') s'' := by
  rw [Performed, List.foldlM_append]
  exact bind_eq_ok.mpr ⟨s', h, h'⟩

/-- The invariant rule of the console: what every access keeps, a list of them
keeps. -/
lemma Performed.keeps {P : Interconnect δ × SharedState → Prop} (h : Performed dev s l s')
    (hkeep : ∀ a ∈ l, ∀ s s', P s → perform dev s a = .ok s' → P s') (hs : P s) : P s' := by
  induction l generalizing s with
  | nil => exact performed_nil.mp h ▸ hs
  | cons a l ih =>
      obtain ⟨t, ht, hrest⟩ := performed_cons.mp h
      exact ih hrest (fun b hb => hkeep b (List.mem_cons_of_mem a hb))
        (hkeep a List.mem_cons_self s t hs ht)

end Interconnect

/-- The opcodes that store. -/
def Opcode.stores : Opcode → Bool
  | .sb | .sh | .swl | .sw | .swr | .swc2 => true
  | _ => false

namespace Cpu

open Interconnect

variable {δ : Type} {dev : Devices δ} {op : Opcode} {i : Instruction} {c c' q : Cpu δ}
  {sh sh' : SharedState}

/-! ### The handlers -/

/-- The address a store goes to.  A part of a word is stored with the rest of the
word around it. -/
def storeAddress (c : Cpu δ) (op : Opcode) (i : Instruction) : U32 :=
  match op with
  | .swl | .swr => c.address i &&& ~~~3#32
  | _ => c.address i

/-- The accesses of a handler that stores `reg` to `addr`, if anything: none, one, or the load and
the store that replace a part of a word. -/
inductive Handled (op : Opcode) (addr reg : U32) : List Access → Prop
  | nothing : Handled op addr reg []
  | load (width : Width) (addr' : U32) : Handled op addr reg [.load width addr']
  | store (width : Width) (val : U32) : op.stores = true → (op ≠ .swc2 → val = reg) →
      Handled op addr reg [.store width addr val]
  | merge (val : U32) : op = .swl ∨ op = .swr →
      Handled op addr reg [.load .word addr, .store .word addr val]

abbrev Reaches (c : Cpu δ) (op : Opcode) (i : Instruction) : List Access → Prop :=
  Handled op (c.storeAddress op i) (c.reg i.t)

/-- The instruction stores to the address `addr`, the value `val` unless it is one the registers do
not tell. -/
def StoresTo (c : Cpu δ) (i : Instruction) (addr val : U32) : Prop :=
  i.opcode.stores = true ∧ c.storeAddress i.opcode i = addr ∧
    (i.opcode ∈ [Opcode.sb, .sh, .sw] → val = c.reg i.t)

lemma Reaches.storesTo {l : List Access} {width : Width} {addr val : U32}
    (h : Reaches c i.opcode i l) (hmem : .store width addr val ∈ l) : c.StoresTo i addr val := by
  cases h with
  | nothing => cases hmem
  | load width addr => cases List.mem_singleton.mp hmem
  | store width val hop hval =>
      cases List.mem_singleton.mp hmem
      exact ⟨hop, rfl, fun hplain => hval fun hswc2 => by simp [hswc2] at hplain⟩
  | merge val hop =>
      rcases List.mem_cons.mp hmem with heq | hmem
      · cases heq
      · cases List.mem_singleton.mp hmem
        refine ⟨?_, rfl, fun hplain => ?_⟩
        · rcases hop with hop | hop <;> rw [hop] <;> rfl
        · rcases hop with hop | hop <;> simp [hop] at hplain

lemma memLoad_accesses {width : Width} {addr : U32} {x : U32 × Cpu δ × SharedState}
    (h : c.memLoad dev width sh addr = .ok x) :
    Performed dev (c.inter, sh) [.load width addr] (x.2.1.inter, x.2.2) := by
  obtain ⟨y, hload, heq⟩ := bind_eq_ok.mp h
  cases heq
  exact performed_single.mpr (bind_eq_ok.mpr ⟨y, hload, rfl⟩)

/-- A store reaches the interconnect unless the cache is isolated. -/
lemma memStore_accesses {width : Width} {addr val : U32} {x : Cpu δ × SharedState}
    (h : c.memStore dev width sh addr val = .ok x) :
    Performed dev (c.inter, sh) [] (x.1.inter, x.2) ∨
      Performed dev (c.inter, sh) [.store width addr val] (x.1.inter, x.2) := by
  unfold memStore at h
  split_ifs at h
  · obtain ⟨q, hq, heq⟩ := bind_eq_ok.mp h
    cases heq
    exact .inl (performed_nil.mpr (by rw [cacheMaintenance_frame hq]))
  · obtain ⟨y, hstore, heq⟩ := bind_eq_ok.mp h
    cases heq
    exact .inr (performed_single.mpr hstore)

/-- Some accesses of a handler lead to the state it leaves. -/
def Accessed (dev : Devices δ) (c : Cpu δ) (op : Opcode) (i : Instruction) (sh : SharedState)
    (c' : Cpu δ) (sh' : SharedState) : Prop :=
  ∃ l, Reaches c op i l ∧ Performed dev (c.inter, sh) l (c'.inter, sh')

lemma accessed_pure {d : Cpu δ} {s : SharedState}
    (h : (pure (d, s) : Outcome (Cpu δ × SharedState)) = .ok (c', sh')) (hd : d.inter = c.inter)
    (hs : s = sh) : Accessed dev c op i sh c' sh' := by
  cases h
  exact ⟨[], .nothing, performed_nil.mpr (by rw [hd, hs])⟩

lemma inter_delayedLoadChain (c : Cpu δ) (t : RegisterIndex) (v : U32) :
    (c.delayedLoadChain t v).inter = c.inter := by
  rw [sameButGte_delayedLoadChain c t v]

lemma inter_opCop0 (h : opCop0 i c sh = .ok c') : c'.inter = c.inter := by
  unfold opCop0 at h
  split at h
  · exact of_bind_pure (P := fun d => d.inter = c.inter) h fun v =>
      c.inter_delayedLoadChain i.t v
  · exact of_bind_pure (P := fun d => d.inter = c.inter) h fun _ => rfl
  · simp only [opRfe] at h
    split_ifs at h
    injection h with heq
    rw [← heq]
    rfl
  · simp at h

lemma accessed_loadTo {width : Width} {extend : U32 → U32}
    (h : loadTo dev width extend i c sh = .ok (c', sh')) : Accessed dev c op i sh c' sh' := by
  obtain ⟨⟨v, q, s⟩, hload, heq⟩ := bind_eq_ok.mp h
  cases heq
  refine ⟨_, .load width (c.address i), ?_⟩
  rw [inter_delayedLoadChain]
  exact memLoad_accesses hload

lemma accessed_loadAligned {width : Width} {extend : U32 → U32}
    (h : loadAligned dev width extend i c sh = .ok (c', sh')) : Accessed dev c op i sh c' sh' := by
  unfold loadAligned at h
  split_ifs at h
  · exact accessed_loadTo h
  · exact accessed_pure h rfl rfl

lemma accessed_loadUnaligned {merge : U32 → U32 → U32 → U32}
    (h : loadUnaligned dev merge i c sh = .ok (c', sh')) : Accessed dev c op i sh c' sh' := by
  obtain ⟨⟨v, q, s⟩, hload, heq⟩ := bind_eq_ok.mp h
  cases heq
  refine ⟨_, .load .word (c.address i &&& ~~~3#32), ?_⟩
  rw [inter_delayedLoadChain]
  exact memLoad_accesses hload

lemma accessed_opLwc2 (h : opLwc2 dev i c sh = .ok (c', sh')) : Accessed dev c op i sh c' sh' := by
  unfold opLwc2 at h
  dsimp only at h
  split_ifs at h
  · obtain ⟨⟨v, q, s⟩, hload, hset⟩ := bind_eq_ok.mp h
    obtain ⟨gte, -, heq⟩ := bind_eq_ok.mp hset
    cases heq
    exact ⟨_, .load .word (c.address i), memLoad_accesses hload⟩
  · exact accessed_pure h rfl rfl

lemma accessed_memStore {width : Width} {val : U32} (hq : q.inter = c.inter)
    (hop : op.stores = true) (hval : op ≠ .swc2 → val = c.reg i.t)
    (h : q.memStore dev width sh (c.storeAddress op i) val = .ok (c', sh')) :
    Accessed dev c op i sh c' sh' := by
  have hcases := memStore_accesses h
  rw [hq] at hcases
  rcases hcases with hnone | hstore
  · exact ⟨[], .nothing, hnone⟩
  · exact ⟨_, .store width val hop hval, hstore⟩

lemma accessed_storeAligned {width : Width} {cause : Exception} {v : U32}
    (hop : op.stores = true) (hval : op ≠ .swc2 → v = c.reg i.t)
    (haddr : c.storeAddress op i = c.address i)
    (h : storeAligned dev width cause v i c sh = .ok (c', sh')) :
    Accessed dev c op i sh c' sh' := by
  unfold storeAligned at h
  dsimp only at h
  split_ifs at h
  · exact accessed_memStore (q := c.delayedLoad) rfl hop hval (haddr ▸ h)
  · exact accessed_pure h rfl rfl

lemma accessed_storeUnaligned {merge : U32 → U32 → U32 → U32} (hop : op = .swl ∨ op = .swr)
    (haddr : c.storeAddress op i = c.address i &&& ~~~3#32)
    (h : storeUnaligned dev merge i c sh = .ok (c', sh')) : Accessed dev c op i sh c' sh' := by
  obtain ⟨⟨word, q, s⟩, hload, hstore⟩ := bind_eq_ok.mp h
  have hfirst := memLoad_accesses hload
  rw [← haddr] at hfirst hstore
  rcases memStore_accesses hstore with hnone | hsecond
  · exact ⟨_, .load .word _, hfirst.append hnone⟩
  · exact ⟨_, .merge _ hop, hfirst.append hsecond⟩

/-- The accesses of every handler. -/
lemma execute_accesses (h : execute dev op i c sh = .ok (c', sh')) :
    Accessed dev c op i sh c' sh' := by
  cases op
  case sll | srl | sra | sllv | srlv | srav | mfhi | mflo | addu | subu | and | or | xor | nor
      | slt | sltu | addiu | slti | sltiu | andi | ori | xori | lui | mthi | mtlo | mult | multu
      | div | divu | jr | jalr | j | jal | syscall | illegal | cop1 | cop3 | lwc0 | lwc1 | lwc3
      | swc0 | swc1 | swc3 =>
    exact accessed_pure h rfl rfl
  case add | sub | addi =>
    refine accessed_pure h ?_ rfl
    simp only [opAdd, opSub, opAddi, writeBackChecked]
    split <;> rfl
  case beq | bne | blez | bgtz =>
    refine accessed_pure h ?_ rfl
    simp only [opBeq, opBne, opBlez, opBgtz, branchIf]
    split_ifs <;> rfl
  case bxx =>
    refine accessed_pure h ?_ rfl
    simp only [opBxx]
    split_ifs <;> rfl
  case «break» =>
    refine accessed_pure h ?_ rfl
    simp only [opBreak]
    split_ifs <;> rfl
  case cop0 =>
    obtain ⟨q, hq, heq⟩ := bind_eq_ok.mp h
    exact accessed_pure heq (inter_opCop0 hq) rfl
  case cop2 =>
    obtain ⟨q, hq, heq⟩ := bind_eq_ok.mp h
    refine accessed_pure heq ?_ rfl
    rw [sameButGte_opCop2 hq]
  case lb => exact accessed_loadTo (show opLb dev i c sh = _ from h)
  case lbu => exact accessed_loadTo h
  case lh | lhu | lw => exact accessed_loadAligned h
  case lwl | lwr => exact accessed_loadUnaligned h
  case lwc2 => exact accessed_opLwc2 h
  case sb => exact accessed_memStore (q := c.delayedLoad) rfl rfl (fun _ => rfl) h
  case sh | sw => exact accessed_storeAligned rfl (fun _ => rfl) rfl h
  case swl | swr => exact accessed_storeUnaligned (by simp) rfl h
  case swc2 =>
    obtain ⟨v, -, hstore⟩ := bind_eq_ok.mp h
    exact accessed_storeAligned rfl (absurd rfl) rfl hstore

/-! ### The fetch -/

/-- The accesses of a fetch that reads `n` words, or finds its word in the cache. -/
structure Fetching (n : ℕ) (f : List Access) : Prop where
  fetches : ∀ a ∈ f, a.Fetches
  length : f.length ≤ 2 * n

lemma fillLine_accesses {inter inter' : Interconnect δ} {line line' : ICacheLine} {cpc k : U32}
    {n : ℕ} (h : fillLine dev inter line sh cpc k n = .ok (inter', line', sh')) :
    ∃ f, Fetching n f ∧ Performed dev (inter, sh) f (inter', sh') := by
  induction n generalizing inter line sh cpc k with
  | zero =>
      cases h
      exact ⟨[], ⟨by simp, by simp⟩, performed_nil.mpr rfl⟩
  | succ n ih =>
      obtain ⟨⟨v, i1, s1⟩, hload, hrest⟩ := bind_eq_ok.mp h
      obtain ⟨f, hf, hperf⟩ := ih hrest
      refine ⟨.tick 1 :: .fetch cpc :: f, ⟨?_, ?_⟩, ?_⟩
      · exact List.forall_mem_cons.mpr ⟨show (1 : Cycles) ≤ 4 by decide,
          List.forall_mem_cons.mpr ⟨trivial, hf.fetches⟩⟩
      · have := hf.length
        simp only [List.length_cons]
        omega
      · exact performed_cons.mpr ⟨_, rfl, performed_cons.mpr
          ⟨_, bind_eq_ok.mpr ⟨_, hload, rfl⟩, hperf⟩⟩

/-- The accesses of a fetch. -/
lemma fetchInstruction_accesses (h : c.fetchInstruction dev sh = .ok (i, c', sh')) :
    ∃ f, Fetching 5 f ∧ Performed dev (c.inter, sh) f (c'.inter, sh') := by
  unfold fetchInstruction at h
  dsimp only at h
  split_ifs at h
  · obtain ⟨⟨inter, line, s1⟩, hfill, heq⟩ := bind_eq_ok.mp h
    cases heq
    obtain ⟨f, hf, hperf⟩ := fillLine_accesses hfill
    refine ⟨.tick 3 :: f, ⟨?_, ?_⟩, performed_cons.mpr ⟨_, rfl, hperf⟩⟩
    · exact List.forall_mem_cons.mpr ⟨show (3 : Cycles) ≤ 4 by decide, hf.fetches⟩
    · have := hf.length
      simp only [List.length_cons]
      omega
  · cases h
    exact ⟨[], ⟨by simp, by simp⟩, performed_nil.mpr rfl⟩
  · obtain ⟨⟨v, inter, s1⟩, hload, heq⟩ := bind_eq_ok.mp h
    cases heq
    refine ⟨[.tick 4, .fetch c.currentPc], ⟨?_, by simp⟩, ?_⟩
    · exact List.forall_mem_cons.mpr ⟨show (4 : Cycles) ≤ 4 by decide,
        List.forall_mem_singleton.mpr trivial⟩
    · exact performed_cons.mpr ⟨_, rfl, performed_single.mpr (bind_eq_ok.mpr ⟨_, hload, rfl⟩)⟩

/-! ### The step -/

/-- The accesses of an instruction that has been fetched. -/
inductive Issues (c : Cpu δ) (i : Instruction) : List Access → Prop
  /-- a pending interrupt is taken instead -/
  | interrupted : Issues c i [.countInterrupt, .tick 1]
  /-- the instruction was taken for one of the GTE, and executed before the interrupt -/
  | interruptedGte : Issues c i [.countInterrupt, .tick 1, .tick 1]
  | executed {l : List Access} : Reaches c i.opcode i l → Issues c i (.tick 1 :: l)

lemma Issues.storesTo {l : List Access} {width : Width} {addr val : U32} (h : Issues c i l)
    (hmem : .store width addr val ∈ l) : c.StoresTo i addr val := by
  cases h with
  | interrupted | interruptedGte => simp at hmem
  | executed hl =>
      rcases List.mem_cons.mp hmem with heq | hmem
      · cases heq
      · exact hl.storesTo hmem

lemma dispatch_accesses (h : dispatch dev i c sh = .ok (c', sh')) :
    ∃ l, Issues c i l ∧ Performed dev (c.inter, sh) l (c'.inter, sh') := by
  by_cases hirq : c.cop0.irqActive sh.irqState = true
  · by_cases hop : i.opcode = .cop1
    · rw [dispatch_irq_cop1 hirq hop] at h
      cases h
      exact ⟨_, .interruptedGte, rfl⟩
    · rw [dispatch_irq hirq hop] at h
      cases h
      exact ⟨_, .interrupted, rfl⟩
  · rw [dispatch, if_neg hirq] at h
    obtain ⟨l, hl, hperf⟩ := execute_accesses h
    exact ⟨_, .executed hl, performed_cons.mpr ⟨_, rfl, hperf⟩⟩

/-- The instruction the next step fetches. -/
def nextInstruction (dev : Devices δ) (c : Cpu δ) (sh : SharedState) : Outcome Instruction := do
  let (c, sh) ← c.syncPeripherals dev sh
  let (i, _, _) ← { c with currentPc := c.pc }.fetchInstruction dev sh
  pure i

/-- The accesses of a step. -/
inductive Stepped (dev : Devices δ) (c : Cpu δ) (sh : SharedState) : List Access → Prop
  | misaligned : c.pc.toNat % 4 ≠ 0 → Stepped dev c sh [.sync]
  | ran {f l : List Access} {i : Instruction} : c.pc.toNat % 4 = 0 →
      nextInstruction dev c sh = .ok i → Fetching 5 f → Issues c i l →
      Stepped dev c sh (.sync :: (f ++ l))

/-- A store of a step is that of the instruction it has fetched. -/
lemma Stepped.storesTo {l : List Access} {width : Width} {addr val : U32}
    (h : Stepped dev c sh l) (hmem : .store width addr val ∈ l) :
    ∃ i, nextInstruction dev c sh = .ok i ∧ c.StoresTo i addr val := by
  cases h with
  | misaligned _ => cases List.mem_singleton.mp hmem
  | ran _ hnext hf hl =>
      rcases List.mem_cons.mp hmem with heq | hmem
      · cases heq
      rcases List.mem_append.mp hmem with hfetch | hmem
      · exact absurd (hf.fetches _ hfetch) id
      · exact ⟨_, hnext, hl.storesTo hmem⟩

lemma Issues.of_regs {l : List Access} (hregs : q.regs = c.regs) (h : Issues q i l) :
    Issues c i l := by
  have haddr : q.storeAddress i.opcode i = c.storeAddress i.opcode i := by
    simp only [storeAddress, address, reg, hregs]
  have hreg : q.reg i.t = c.reg i.t := by rw [reg, hregs, reg]
  cases h with
  | interrupted => exact .interrupted
  | interruptedGte => exact .interruptedGte
  | executed hl =>
      rw [Reaches, haddr, hreg] at hl
      exact .executed hl

lemma syncPeripherals_accesses (h : c.syncPeripherals dev sh = .ok (c', sh')) :
    perform dev (c.inter, sh) .sync = .ok (c'.inter, sh') := by
  unfold syncPeripherals at h
  unfold perform
  dsimp only
  split_ifs at h ⊢
  · obtain ⟨⟨inter, s1⟩, hsync, heq⟩ := bind_eq_ok.mp h
    cases heq
    exact bind_eq_ok.mpr ⟨_, hsync, rfl⟩
  · cases h
    rfl

/-- **Instructions are accesses.**  A step of the CPU changes the rest of the
console by the accesses it makes, and by nothing else. -/
lemma runNextInstruction_accesses (h : runNextInstruction dev c sh = .ok (c', sh')) :
    ∃ l, Stepped dev c sh l ∧ Performed dev (c.inter, sh) l (c'.inter, sh') := by
  obtain ⟨⟨c1, s1⟩, hsync, h⟩ := bind_eq_ok.mp h
  have hfirst := syncPeripherals_accesses hsync
  have hframe := (syncPeripherals_frame hsync).1
  have hpc : c1.pc = c.pc := by rw [hframe]
  have hregs : c1.regs = c.regs := by rw [hframe]
  dsimp only at h
  split_ifs at h with haligned
  · cases h
    exact ⟨_, .misaligned (hpc ▸ haligned), performed_single.mpr hfirst⟩
  · obtain ⟨⟨i, c2, s2⟩, hfetch, hdispatch⟩ := bind_eq_ok.mp h
    obtain ⟨f, hf, hperf⟩ := fetchInstruction_accesses hfetch
    obtain ⟨l, hl, hrest⟩ := dispatch_accesses hdispatch
    have hc2 := (fetchInstruction_frame hfetch).1
    have hregs2 : c2.advance.regs = c.regs := by
      rw [hc2]
      exact hregs
    have hnext : nextInstruction dev c sh = .ok i :=
      bind_eq_ok.mpr ⟨_, hsync, bind_eq_ok.mpr ⟨_, hfetch, rfl⟩⟩
    exact ⟨_, .ran (hpc ▸ not_not.mp haligned) hnext hf (hl.of_regs hregs2),
      performed_cons.mpr ⟨_, hfirst, hperf.append hrest⟩⟩

/-! ### Runs -/

/-- Run a number of instructions. -/
def runFor (dev : Devices δ) : ℕ → Cpu δ × SharedState → Outcome (Cpu δ × SharedState)
  | 0, s => pure s
  | n + 1, s => do
      let s ← runNextInstruction dev s.1 s.2
      runFor dev n s

/-- What every access keeps, every instruction keeps. -/
lemma runNextInstruction_keeps {P : Interconnect δ × SharedState → Prop}
    (hkeep : ∀ a s s', P s → perform dev s a = .ok s' → P s') (hs : P (c.inter, sh))
    (h : runNextInstruction dev c sh = .ok (c', sh')) : P (c'.inter, sh') := by
  obtain ⟨l, -, hperf⟩ := runNextInstruction_accesses h
  exact hperf.keeps (fun a _ => hkeep a) hs

lemma runFor_keeps {P : Interconnect δ × SharedState → Prop}
    (hkeep : ∀ a s s', P s → perform dev s a = .ok s' → P s') {n : ℕ}
    {s s' : Cpu δ × SharedState} (hs : P (s.1.inter, s.2)) (h : runFor dev n s = .ok s') :
    P (s'.1.inter, s'.2) := by
  induction n generalizing s with
  | zero =>
      injection h with h
      exact h ▸ hs
  | succ n ih =>
      obtain ⟨t, hstep, hrest⟩ := bind_eq_ok.mp h
      exact ih (runNextInstruction_keeps hkeep hs hstep) hrest

end Cpu

end Rustation
