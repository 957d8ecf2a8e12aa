import Rustation.Cpu.Instructions

/-!
Exceptions of the CPU: where they come from and what they save.

* `Executed`: what an instruction may do to the control state.  It goes on,
  branches, or raises one exception;
* `Finished`: how a handler ends, with the state its exception is raised in.
  `finished_execute` shows it for every handler;
* `Precise`: an exception saves the address it is about, or that of the branch
  before it in a delay slot, and its handler starts outside of a delay slot;
* `Reach`: the states of a CPU after `Cpu.new`, with a history variable for the
  delay slot;
* `precise_reach_iff`: in a reachable state an exception is precise if and only
  if the PC is aligned and the flag `branch` tells the truth.  Fetching from an
  address that is not aligned is noticed before the delay slot flags move on;
* `precise_iff`: in a run of aligned fetches every exception is precise, and
  the first fetch that is not aligned raises one that is not.
-/

namespace Rustation

open Fallible

namespace Cpu

variable {δ : Type} {dev : Devices δ} {op : Opcode} {i : Instruction} {c c' q : Cpu δ}
  {sh sh' : SharedState}

/-! ### Control state -/

/-- Where the CPU is in its program. -/
structure Control where
  pc : U32
  nextPc : U32
  currentPc : U32
  branch : Bool
  delaySlot : Bool
  entered : List Exception

def control (c : Cpu δ) : Control :=
  ⟨c.pc, c.nextPc, c.currentPc, c.branch, c.delaySlot, c.entered⟩

/-- What an instruction does to the control state. -/
inductive Executed (c : Cpu δ) : Cpu δ → Prop
  | plain {c' : Cpu δ} : c'.control = c.control → Executed c c'
  | branched {c' : Cpu δ} :
      c'.control = { c.control with nextPc := c'.nextPc, branch := true } → Executed c c'
  | raised {q : Cpu δ} (cause : Exception) :
      q.control = c.control → Executed c (q.exception cause)

/-- How a handler ends.  An exception is raised right after the commit of the
pending load, before any other effect. -/
inductive Finished (c : Cpu δ) (sh : SharedState) : Cpu δ → SharedState → Prop
  | plain {c' : Cpu δ} {sh' : SharedState} : c'.control = c.control → Finished c sh c' sh'
  | branched {c' : Cpu δ} {sh' : SharedState} :
      c'.control = { c.control with nextPc := c'.nextPc, branch := true } → Finished c sh c' sh'
  | faulted (cause : Exception) : Finished c sh (c.delayedLoad.exception cause) sh

lemma Finished.executed (h : Finished c sh c' sh') : Executed c c' := by
  cases h with
  | plain hcontrol => exact .plain hcontrol
  | branched hcontrol => exact .branched hcontrol
  | faulted cause => exact .raised (q := c.delayedLoad) cause rfl

/-- Only the registers, the pending load and the GTE differ. -/
def SameButGte (c c' : Cpu δ) : Prop :=
  c' = { c with regs := c'.regs, load := c'.load, gte := c'.gte }

lemma SameButGte.control (h : SameButGte c c') : c'.control = c.control := by
  rw [h]
  rfl

lemma sameButGte_delayedLoadChain (c : Cpu δ) (t : RegisterIndex) (v : U32) :
    SameButGte c (c.delayedLoadChain t v) := by
  simp only [SameButGte, delayedLoadChain]
  split_ifs <;> rfl

lemma control_delayedLoadChain (c : Cpu δ) (t : RegisterIndex) (v : U32) :
    (c.delayedLoadChain t v).control = c.control :=
  (c.sameButGte_delayedLoadChain t v).control

lemma control_memLoad {width : Width} {addr : U32} {x : U32 × Cpu δ × SharedState}
    (h : c.memLoad dev width sh addr = .ok x) : x.2.1.control = c.control := by
  rw [memLoad_frame h]
  rfl

lemma control_memStore {width : Width} {addr val : U32} {x : Cpu δ × SharedState}
    (h : c.memStore dev width sh addr val = .ok x) : x.1.control = c.control := by
  rw [memStore_frame h]
  rfl

/-! ### The handlers -/

lemma finished_pure {d : Cpu δ} {s : SharedState}
    (h : (pure (d, s) : Outcome (Cpu δ × SharedState)) = .ok (c', sh')) (hd : Finished c sh d s) :
    Finished c sh c' sh' := by
  injection h with h
  injection h with hc' hsh'
  exact hc' ▸ hsh' ▸ hd

lemma finished_writeBackChecked (c : Cpu δ) (sh : SharedState) (w : RegisterIndex)
    (v : Option U32) : Finished c sh (c.writeBackChecked w v) sh := by
  cases v with
  | none => exact .faulted .overflow
  | some x => exact .plain rfl

lemma finished_branchIf (c : Cpu δ) (sh : SharedState) (test : Bool) (i : Instruction) :
    Finished c sh (c.branchIf test i) sh := by
  cases test with
  | true => exact .branched rfl
  | false => exact .plain rfl

lemma finished_opBxx (i : Instruction) (c : Cpu δ) (sh : SharedState) :
    Finished c sh (opBxx i c) sh := by
  simp only [opBxx]
  split_ifs
  · exact .branched rfl
  · exact .branched rfl
  · exact .plain rfl
  · exact .plain rfl

lemma finished_opBreak (c : Cpu δ) (sh : SharedState) : Finished c sh (opBreak c) sh := by
  simp only [opBreak]
  split_ifs
  · exact .plain rfl
  · exact .faulted .break

lemma control_opCop0 (h : opCop0 i c sh = .ok c') : c'.control = c.control := by
  unfold opCop0 at h
  split at h
  · exact of_bind_pure (P := fun d => d.control = c.control) h fun v =>
      c.control_delayedLoadChain i.t v
  · exact of_bind_pure (P := fun d => d.control = c.control) h fun _ => rfl
  · simp only [opRfe] at h
    split_ifs at h
    injection h with heq
    rw [← heq]
    rfl
  · simp at h

lemma sameButGte_opCop2 (h : opCop2 i c = .ok c') : SameButGte c c' := by
  unfold opCop2 at h
  split_ifs at h
  · exact of_bind_pure h fun _ => rfl
  split at h
  · exact of_bind_pure h fun v => c.sameButGte_delayedLoadChain i.t v
  · exact of_bind_pure h fun v => c.sameButGte_delayedLoadChain i.t v
  · exact of_bind_pure h fun _ => rfl
  · exact of_bind_pure h fun _ => rfl
  · simp at h

lemma finished_loadTo {width : Width} {extend : U32 → U32}
    (h : loadTo dev width extend i c sh = .ok (c', sh')) : Finished c sh c' sh' := by
  obtain ⟨⟨v, q, s1⟩, hload, heq⟩ := bind_eq_ok.mp h
  have hq : q.control = c.control := control_memLoad hload
  exact finished_pure heq (.plain ((q.control_delayedLoadChain i.t _).trans hq))

lemma finished_loadAligned {width : Width} {extend : U32 → U32}
    (h : loadAligned dev width extend i c sh = .ok (c', sh')) : Finished c sh c' sh' := by
  unfold loadAligned at h
  split_ifs at h
  · exact finished_loadTo h
  · exact finished_pure h (.faulted .loadAddressError)

lemma finished_loadUnaligned {merge : U32 → U32 → U32 → U32}
    (h : loadUnaligned dev merge i c sh = .ok (c', sh')) : Finished c sh c' sh' := by
  obtain ⟨⟨word, q, s1⟩, hload, heq⟩ := bind_eq_ok.mp h
  have hq : q.control = c.control := control_memLoad hload
  exact finished_pure heq (.plain ((q.control_delayedLoadChain i.t _).trans hq))

lemma finished_opLwc2 (h : opLwc2 dev i c sh = .ok (c', sh')) : Finished c sh c' sh' := by
  unfold opLwc2 at h
  dsimp only at h
  split_ifs at h
  · obtain ⟨⟨v, q, s1⟩, hload, hset⟩ := bind_eq_ok.mp h
    obtain ⟨gte, -, heq⟩ := bind_eq_ok.mp hset
    have hq : q.control = c.control := control_memLoad hload
    exact finished_pure heq (.plain hq)
  · exact finished_pure h (.faulted .loadAddressError)

lemma finished_storeAligned {width : Width} {cause : Exception} {v : U32}
    (h : storeAligned dev width cause v i c sh = .ok (c', sh')) : Finished c sh c' sh' := by
  unfold storeAligned at h
  dsimp only at h
  split_ifs at h
  · exact .plain (control_memStore h)
  · exact finished_pure h (.faulted cause)

lemma finished_storeUnaligned {merge : U32 → U32 → U32 → U32}
    (h : storeUnaligned dev merge i c sh = .ok (c', sh')) : Finished c sh c' sh' := by
  obtain ⟨⟨word, q, s1⟩, hload, hstore⟩ := bind_eq_ok.mp h
  have hq : q.control = c.control := control_memLoad hload
  exact .plain ((control_memStore hstore).trans hq)

/-- Every handler raises its exception before it has changed anything. -/
lemma finished_execute (h : execute dev op i c sh = .ok (c', sh')) : Finished c sh c' sh' := by
  cases op
  case sll | srl | sra | sllv | srlv | srav | mfhi | mflo | addu | subu | and | or | xor | nor
      | slt | sltu | addiu | slti | sltiu | andi | ori | xori | lui | mthi | mtlo | mult | multu
      | div | divu =>
    exact finished_pure h (.plain rfl)
  case add | sub | addi => exact finished_pure h (finished_writeBackChecked ..)
  case beq | bne | blez | bgtz => exact finished_pure h (finished_branchIf ..)
  case bxx => exact finished_pure h (finished_opBxx i c sh)
  case jr | jalr | j | jal => exact finished_pure h (.branched rfl)
  case syscall => exact finished_pure h (.faulted .sysCall)
  case «break» => exact finished_pure h (finished_opBreak c sh)
  case illegal => exact finished_pure h (.faulted .illegalInstruction)
  case cop1 | cop3 | lwc0 | lwc1 | lwc3 | swc0 | swc1 | swc3 =>
    exact finished_pure h (.faulted .coprocessorError)
  case cop0 =>
    obtain ⟨q, hq, heq⟩ := bind_eq_ok.mp h
    exact finished_pure heq (.plain (control_opCop0 hq))
  case cop2 =>
    obtain ⟨q, hq, heq⟩ := bind_eq_ok.mp h
    exact finished_pure heq (.plain (sameButGte_opCop2 hq).control)
  case lb => exact finished_loadTo (show opLb dev i c sh = _ from h)
  case lbu => exact finished_loadTo h
  case lh | lhu | lw => exact finished_loadAligned h
  case lwl | lwr => exact finished_loadUnaligned h
  case lwc2 => exact finished_opLwc2 h
  case sb => exact .plain (control_memStore h)
  case sh | sw => exact finished_storeAligned h
  case swl | swr => exact finished_storeUnaligned h
  case swc2 =>
    obtain ⟨v, -, hstore⟩ := bind_eq_ok.mp h
    exact finished_storeAligned hstore

/-! ### Interrupts -/

/-- What the source takes for an instruction of coprocessor 2 is one of
coprocessor 1. -/
lemma opcode_eq_cop1_iff : i.opcode = .cop1 ↔ i.isGteOp = true := by
  have hspecial : ∀ n, Opcode.special n ≠ .cop1 := by
    intro n
    unfold Opcode.special
    split <;> decide
  rw [Instruction.isGteOp, beq_iff_eq, ← BitVec.toNat_inj]
  unfold Instruction.opcode
  constructor
  · intro h
    split at h <;> first | assumption | exact absurd h (hspecial _) | cases h
  · intro h
    rw [h]
    rfl

lemma dispatch_irq_cop1 (hirq : c.cop0.irqActive sh.irqState = true) (hop : i.opcode = .cop1) :
    dispatch dev i c sh = .ok ((coprocessorUnusable c).exception .interrupt,
      ((countInterrupt sh).tick 1).tick 1) := by
  simp only [dispatch, hirq, opcode_eq_cop1_iff.mp hop, if_true, decodeAndExecute, hop]
  rfl

lemma dispatch_irq (hirq : c.cop0.irqActive sh.irqState = true) (hop : i.opcode ≠ .cop1) :
    dispatch dev i c sh = .ok (c.exception .interrupt, (countInterrupt sh).tick 1) := by
  have hgte : ¬i.isGteOp = true := mt opcode_eq_cop1_iff.mpr hop
  simp only [dispatch, hirq, if_true, if_neg hgte]
  rfl

lemma dispatch_cases (h : dispatch dev i c sh = .ok (c', sh')) :
    Executed c c' ∨ c' = (coprocessorUnusable c).exception .interrupt := by
  by_cases hirq : c.cop0.irqActive sh.irqState = true
  · by_cases hop : i.opcode = .cop1
    · rw [dispatch_irq_cop1 hirq hop] at h
      injection h with h
      injection h with hc'
      exact .inr hc'.symm
    · rw [dispatch_irq hirq hop] at h
      injection h with h
      injection h with hc'
      exact .inl (hc' ▸ .raised .interrupt rfl)
  · rw [dispatch, if_neg hirq] at h
    exact .inl (finished_execute h).executed

/-! ### The step -/

lemma syncPeripherals_frame (h : c.syncPeripherals dev sh = .ok (c', sh')) :
    c' = { c with inter := c'.inter } ∧ c.inter.Serviced sh c'.inter sh' := by
  unfold syncPeripherals at h
  split_ifs at h
  · obtain ⟨⟨inter, s1⟩, hsync, heq⟩ := bind_eq_ok.mp h
    injection heq with heq
    injection heq with hc hsh
    subst hc hsh
    have hserviced : c.inter.Serviced sh inter s1 := Interconnect.serviced_sync hsync
    exact ⟨rfl, hserviced.memory, hserviced.active⟩
  · injection h with h
    injection h with hc hsh
    subst hc hsh
    exact ⟨rfl, .refl ..⟩

/-- The step, peeled: the peripherals are synchronised, then an address that is
not aligned raises an exception, or an instruction is fetched and dispatched
from a state that differs in the cache and the peripherals. -/
lemma runNextInstruction_cases (h : runNextInstruction dev c sh = .ok (c', sh')) :
    (c.pc.toNat % 4 ≠ 0 ∧ ∃ inter,
      c' = exception { c with inter := inter, currentPc := c.pc } .loadAddressError) ∨
    (c.pc.toNat % 4 = 0 ∧ ∃ i icache inter s,
      dispatch dev i (advance { c with icache := icache, inter := inter, currentPc := c.pc }) s =
        .ok (c', sh')) := by
  obtain ⟨⟨c1, s1⟩, hsync, h⟩ := bind_eq_ok.mp h
  rw [(syncPeripherals_frame hsync).1] at h
  dsimp only at h
  split_ifs at h with haligned
  · injection h with h
    injection h with hc'
    exact .inl ⟨haligned, _, hc'.symm⟩
  · obtain ⟨⟨i, c2, s2⟩, hfetch, hdispatch⟩ := bind_eq_ok.mp h
    have hc2 := (fetchInstruction_frame hfetch).1
    dsimp only at hdispatch
    rw [hc2] at hdispatch
    exact .inr ⟨not_not.mp haligned, i, _, _, s2, hdispatch⟩

/-! ### Precise exceptions -/

/-- The exception that took `c` to `c'` is precise, `slot` telling whether the
address of `c` is the delay slot of a taken branch. -/
structure Precise (slot : Bool) (c c' : Cpu δ) : Prop where
  epc : c'.cop0.epc = if slot then c.pc - 4 else c.pc
  /-- bit 31 of CAUSE -/
  delay : c'.cop0.cause.getLsbD 31 = slot
  handler : c'.pc = Cop0.handler c'.cop0.sr
  next : c'.nextPc = c'.pc + 4
  /-- the handler starts outside of a delay slot -/
  first : c'.branch = false

/-- An exception is as precise as the flags of the state it is raised in. -/
lemma precise_exception_iff {slot : Bool} {cause : Exception} (hpc : q.currentPc = c.pc) :
    Precise slot c (q.exception cause) ↔ q.delaySlot = slot ∧ q.branch = false := by
  have hdelay : (q.exception cause).cop0.cause.getLsbD 31 = q.delaySlot :=
    Cop0.enterException_delay ..
  constructor
  · intro h
    exact ⟨hdelay.symm.trans h.delay, h.first⟩
  · rintro ⟨rfl, hbranch⟩
    exact ⟨hpc ▸ Cop0.enterException_epc .., hdelay, Cop0.enterException_handler .., rfl, hbranch⟩

/-- After an aligned fetch the flag `branch` decides. -/
lemma precise_dispatch_iff {slot : Bool} (h : dispatch dev i q.advance sh = .ok (c', sh'))
    (hpc : q.currentPc = c.pc) (hent : c'.entered ≠ q.entered) :
    Precise slot c c' ↔ q.branch = slot := by
  have hraised {r : Cpu δ} {cause : Exception} (hr : r.control = q.advance.control) :
      Precise slot c (r.exception cause) ↔ q.branch = slot := by
    have hcurrent : r.currentPc = q.currentPc := congrArg Control.currentPc hr
    have hslot : r.delaySlot = q.branch := congrArg Control.delaySlot hr
    have hbranch : r.branch = false := congrArg Control.branch hr
    rw [precise_exception_iff (hcurrent.trans hpc), hslot, hbranch]
    exact and_iff_left rfl
  rcases dispatch_cases h with hexec | rfl
  · cases hexec with
    | plain hcontrol => exact absurd (congrArg Control.entered hcontrol) hent
    | branched hcontrol => exact absurd (congrArg Control.entered hcontrol) hent
    | raised cause hr => exact hraised hr
  · -- two exceptions in one step: the second saves the same address
    rw [precise_exception_iff (by exact hpc)]
    exact and_iff_left rfl

/-! ### Reachable states -/

/-- The instruction executed by a step has set `branch`. -/
def tookBranch (c c' : Cpu δ) : Bool := c'.branch && decide (c'.entered = c.entered)

/-- The states of a CPU after `Cpu.new` whose steps all meet the condition `C`.
The flag tells whether the next instruction is in the delay slot of a taken
branch.  Between two steps the interconnect and the shared state may change. -/
inductive Reach (dev : Devices δ) (C : Cpu δ → Prop) : Cpu δ → Bool → Prop
  | new (inter : Interconnect δ) : Reach dev C (Cpu.new inter) false
  | outside {c : Cpu δ} {slot : Bool} (inter : Interconnect δ) (debugOnBreak : Bool) :
      Reach dev C c slot → Reach dev C { c with inter := inter, debugOnBreak := debugOnBreak } slot
  | step {c c' : Cpu δ} {slot : Bool} {sh sh' : SharedState} :
      Reach dev C c slot → C c → runNextInstruction dev c sh = .ok (c', sh') →
      Reach dev C c' (tookBranch c c')

/-- The PC is aligned. -/
def Aligned (c : Cpu δ) : Prop := c.pc.toNat % 4 = 0

/-- Only a jump leads to an address that is not aligned, and its delay slot has
been executed in between. -/
structure Jumped (slot : Bool) (c : Cpu δ) : Prop where
  pc : c.pc.toNat % 4 ≠ 0 → c.delaySlot = true
  nextPc : c.nextPc.toNat % 4 ≠ 0 → c.branch = true ∨ c.pc.toNat % 4 ≠ 0
  slot : slot = true → c.branch = true

lemma toNat_add_four_mod (a : U32) : (a + 4).toNat % 4 = a.toNat % 4 := by
  have hfour : (4 : U32).toNat = 4 := rfl
  rw [BitVec.toNat_add, hfour]
  omega

lemma handler_aligned (sr : U32) : (Cop0.handler sr).toNat % 4 = 0 := by
  unfold Cop0.handler
  split_ifs <;> rfl

/-- A handler is aligned, and no branch has been taken to it. -/
lemma jumped_exception {cause : Exception} {l : List Exception}
    (h : (q.exception cause).entered = l ++ c.entered) (hl : l ≠ []) :
    Jumped (tookBranch c (q.exception cause)) (q.exception cause) where
  pc hpc := absurd (handler_aligned _) hpc
  nextPc hpc := by
    refine absurd ?_ hpc
    exact (toNat_add_four_mod _).trans (handler_aligned _)
  slot hslot := by
    have hsame : (q.exception cause).entered = c.entered :=
      of_decide_eq_true (Bool.and_eq_true_iff.mp hslot).2
    exact absurd (List.self_eq_append_left.mp (hsame.symm.trans h)) hl

lemma jumped_execute {slot : Bool} (hj : Jumped slot c) (haligned : c.pc.toNat % 4 = 0)
    {p : Cpu δ} (hp : p.control = { c.control with currentPc := c.pc })
    (h : dispatch dev i p.advance sh = .ok (c', sh')) : Jumped (tookBranch c c') c' := by
  have hent : p.entered = c.entered := congrArg Control.entered hp
  have hnext : p.nextPc = c.nextPc := congrArg Control.nextPc hp
  have hbranch : p.branch = c.branch := congrArg Control.branch hp
  -- the jump that has led to a misaligned address is the last instruction
  have hslot : c.nextPc.toNat % 4 ≠ 0 → c.branch = true := fun hmis =>
    (hj.nextPc hmis).resolve_right (not_not.mpr haligned)
  rcases dispatch_cases h with hexec | rfl
  · cases hexec with
    | plain hcontrol =>
        have hpc : c'.pc = c.nextPc := (congrArg Control.pc hcontrol).trans hnext
        have hnextPc : c'.nextPc = c.nextPc + 4 :=
          (congrArg Control.nextPc hcontrol).trans (congrArg (· + 4) hnext)
        have hdelay : c'.delaySlot = c.branch :=
          (congrArg Control.delaySlot hcontrol).trans hbranch
        refine ⟨fun hmis => ?_, fun hmis => .inr ?_, fun h => (Bool.and_eq_true_iff.mp h).1⟩
        · rw [hpc] at hmis
          rw [hdelay, hslot hmis]
        · rwa [hnextPc, toNat_add_four_mod, ← hpc] at hmis
    | branched hcontrol =>
        have hpc : c'.pc = c.nextPc := (congrArg Control.pc hcontrol).trans hnext
        have hdelay : c'.delaySlot = c.branch :=
          (congrArg Control.delaySlot hcontrol).trans hbranch
        refine ⟨fun hmis => ?_, fun _ => .inl (congrArg Control.branch hcontrol),
          fun h => (Bool.and_eq_true_iff.mp h).1⟩
        rw [hpc] at hmis
        rw [hdelay, hslot hmis]
    | raised cause hr =>
        have hr' : _ = c.entered := (congrArg Control.entered hr).trans hent
        exact jumped_exception (l := [cause]) (congrArg (cause :: ·) hr') (by simp)
  · exact jumped_exception (l := [.interrupt, .coprocessorError])
      (congrArg ([Exception.interrupt, Exception.coprocessorError] ++ ·) hent) (by simp)

variable {C : Cpu δ → Prop}

lemma Reach.jumped {slot : Bool} (h : Reach dev C c slot) : Jumped slot c := by
  induction h with
  | new inter =>
      exact ⟨fun hmis => absurd hmis (by simp [Cpu.new]),
        fun hmis => absurd hmis (by simp [Cpu.new]), Bool.noConfusion⟩
  | outside inter debugOnBreak _ ih => exact ⟨ih.pc, ih.nextPc, ih.slot⟩
  | step _ _ hrun ih =>
      rcases runNextInstruction_cases hrun with ⟨-, inter, rfl⟩ | ⟨haligned, i, _, _, s, hdispatch⟩
      · exact jumped_exception (l := [.loadAddressError]) rfl (by simp)
      · exact jumped_execute ih haligned rfl hdispatch

lemma precise_reach_iff {slot : Bool} (hr : Reach dev C c slot)
    (hrun : runNextInstruction dev c sh = .ok (c', sh')) (hent : c'.entered ≠ c.entered) :
    Precise slot c c' ↔ Aligned c ∧ c.branch = slot := by
  have hj : Jumped slot c := hr.jumped
  rcases runNextInstruction_cases hrun with ⟨hmis, inter, rfl⟩ | ⟨haligned, i, _, _, s, hdispatch⟩
  · rw [precise_exception_iff rfl]
    constructor
    · rintro ⟨hdelay, hbranch⟩
      -- the stale flag says delay slot; if it is right `branch` is still set
      have hslot : slot = true := hdelay.symm.trans (hj.pc hmis)
      exact absurd ((hj.slot hslot).symm.trans hbranch) (by simp)
    · rintro ⟨haligned, -⟩
      exact absurd haligned hmis
  · rw [precise_dispatch_iff hdispatch rfl hent]
    exact (and_iff_right haligned).symm

/-- An instruction that enters an exception has not set `branch`. -/
lemma dispatch_branch {p : Cpu δ} (h : dispatch dev i p.advance sh = .ok (c', sh'))
    (hp : p.entered = c.entered) : c'.branch = tookBranch c c' := by
  have hsame (hent : c'.entered = c.entered) : c'.branch = tookBranch c c' := by
    rw [tookBranch, decide_eq_true hent, Bool.and_true]
  rcases dispatch_cases h with hexec | rfl
  · cases hexec with
    | plain hcontrol => exact hsame ((congrArg Control.entered hcontrol).trans hp)
    | branched hcontrol => exact hsame ((congrArg Control.entered hcontrol).trans hp)
    | @raised q cause hr =>
        have hbranch : (q.exception cause).branch = false := congrArg Control.branch hr
        rw [tookBranch, hbranch, Bool.false_and]
  · rfl

/-- While every fetch is aligned, `branch` tells the truth. -/
lemma Reach.branch_eq {slot : Bool} (h : Reach dev Aligned c slot) : c.branch = slot := by
  induction h with
  | new inter => rfl
  | outside inter debugOnBreak _ ih => exact ih
  | step _ haligned hrun _ =>
      rcases runNextInstruction_cases hrun with ⟨hmis, -⟩ | ⟨-, i, _, _, s, hdispatch⟩
      · exact absurd haligned hmis
      · exact dispatch_branch hdispatch rfl

/-- **Precise exceptions.**  In a run whose fetches have all been aligned an
exception is precise if and only if its own fetch is. -/
theorem precise_iff {slot : Bool} (hr : Reach dev Aligned c slot)
    (hrun : runNextInstruction dev c sh = .ok (c', sh')) (hent : c'.entered ≠ c.entered) :
    Precise slot c c' ↔ Aligned c := by
  rw [precise_reach_iff hr hrun hent]
  exact and_iff_left hr.branch_eq

/-- A CPU whose BIOS starts with the given words. -/
def booted (words : List U32) : Cpu Unit := .new (.new (.ofWords words) ())

/-- The exception of `syscall` at the reset address is precise. -/
theorem precise_iff_syscall : ∃ c' sh',
    runNextInstruction .idle (booted [0x0000000c]) .new = .ok (c', sh') ∧
      c'.entered = [.sysCall] ∧ Precise false (booted [0x0000000c]) c' := by
  obtain ⟨⟨c', sh'⟩, hrun, hobs⟩ := bind_eq_ok.mp
    (show (runNextInstruction .idle (booted [0x0000000c]) .new >>= fun x => pure x.1.entered) =
      .ok [.sysCall] by decide +kernel)
  injection hobs with hent
  have haligned : Aligned (booted [0x0000000c]) := by
    show (0xbfc00000 : U32).toNat % 4 = 0
    rfl
  refine ⟨c', sh', hrun, hent, (precise_iff (.new _) hrun ?_).mpr haligned⟩
  rw [hent]
  exact List.cons_ne_nil _ _

/-- After `jr $1` with the value 0xdeadbeef and its delay slot, the exception of
the misaligned fetch is attributed to a delay slot. -/
theorem misaligned_jump_imprecise : ∃ c sh c' sh', Reach .idle Aligned c false ∧
    c.pc = 0xdeadbeef ∧ runNextInstruction .idle c sh = .ok (c', sh') ∧ c'.entered = [.loadAddressError] ∧
      c'.cop0.epc = 0xdeadbeeb ∧ c'.cop0.cause.getLsbD 31 = true ∧ ¬Precise false c c' := by
  obtain ⟨⟨c1, s1⟩, h1, hrest⟩ := bind_eq_ok.mp
    (show (runNextInstruction .idle (booted [0x00200008]) .new >>= fun x =>
        runNextInstruction .idle x.1 x.2 >>= fun y =>
          runNextInstruction .idle y.1 y.2 >>= fun z =>
            pure (x.1.pc, tookBranch x.1 y.1, y.1.pc, z.1.entered, z.1.cop0)) =
      .ok (0xbfc00004, false, 0xdeadbeef, [.loadAddressError], ⟨0, 0x80000010, 0xdeadbeeb⟩) by
        decide +kernel)
  obtain ⟨⟨c2, s2⟩, h2, hrest⟩ := bind_eq_ok.mp hrest
  obtain ⟨⟨c3, s3⟩, h3, hobs⟩ := bind_eq_ok.mp hrest
  injection hobs with hobs
  injection hobs with hpc1 hobs
  injection hobs with hslot hobs
  injection hobs with hpc hobs
  injection hobs with hent hcop0
  dsimp only at hpc1 hslot hpc hent hcop0
  have haligned : Aligned c1 := by
    rw [Aligned, hpc1]
    rfl
  have hreach : Reach .idle Aligned c2 false :=
    hslot ▸ .step (.step (.new _) (by rw [Aligned]; rfl) h1) haligned h2
  have hdelay : c3.cop0.cause.getLsbD 31 = true := by
    rw [hcop0]
    decide
  refine ⟨c2, s2, c3, s3, hreach, hpc, h3, hent, by rw [hcop0], hdelay, fun hprecise => ?_⟩
  exact absurd (hprecise.delay.symm.trans hdelay) (by decide)

end Cpu

end Rustation
