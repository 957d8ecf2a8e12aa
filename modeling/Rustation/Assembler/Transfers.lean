import Rustation.Assembler.Decoding
import Rustation.Assembler.Labels
import Rustation.Cpu.Exceptions

/-!
Where assembled branches and jumps lead.

* `Instruction.transfer`: the label of a branch or jump, `Taken` its condition;
* `branch_offset_iff`, `jump_target_iff`: what is left of an address after the
  assembler has encoded it and the CPU has decoded it again.  The distance of a branch
  is cut to 16 bits before it is divided by four, and a jump keeps the segment it is in;
* `leadsTo_transfer`: the CPU executes a transfer that is taken;
* `pc_after_slot`: the instruction in the delay slot is followed by the one at
  `nextPc`;
* `transfers_arrive_iff`: a transfer leads to its label if and only if the label is in
  reach.
-/

namespace Rustation

namespace Asm

open Fallible

/-! ### Transfers -/

namespace Instruction

/-- The label of a branch or jump. -/
def transfer : Instruction → Option Label
  | .b l | .beq _ _ l | .bne _ _ l | .beqz _ l | .bnez _ l | .blez _ l | .bgtz _ l | .bgez _ l
  | .bltz _ l | .bgezal _ l | .bltzal _ l | .j l | .jal l => some l
  | _ => none

/-- The instruction of the machine that a branch stands for. -/
def expand : Instruction → Instruction
  | .b l => .beq R0 R0 l
  | .beqz r0 l => .beq r0 R0 l
  | .bnez r0 l => .bne r0 R0 l
  | i => i

/-- The registers have numbers of 5 bits. -/
def Encodable (i : Instruction) : Prop :=
  ∀ op os, i.expand.decoding = some (op, os) → ∀ o ∈ os, o.Valid

/-- The condition of a branch is met. -/
def Taken {δ : Type} (c : Cpu δ) : Instruction → Prop
  | .b _ | .j _ | .jal _ => True
  | .beq r0 r1 _ => c.reg r0.index = c.reg r1.index
  | .bne r0 r1 _ => c.reg r0.index ≠ c.reg r1.index
  | .beqz r0 _ => c.reg r0.index = 0
  | .bnez r0 _ => c.reg r0.index ≠ 0
  | .blez r0 _ => (c.reg r0.index).toInt ≤ 0
  | .bgtz r0 _ => 0 < (c.reg r0.index).toInt
  | .bgez r0 _ | .bgezal r0 _ => 0 ≤ (c.reg r0.index).toInt
  | .bltz r0 _ | .bltzal r0 _ => (c.reg r0.index).toInt < 0
  | _ => False

/-- From an instruction at `here` the address `there` is in reach of a jump, which stays
in the segment of the delay slot, or of a branch. -/
def InReach (here there : U32) : Instruction → Prop
  | .j _ | .jal _ => there.toNat / 2 ^ 28 = (here + 4).toNat / 2 ^ 28
  | _ => -32768 ≤ (there - (here + 4)).toInt ∧ (there - (here + 4)).toInt ≤ 32767

end Instruction

/-! ### Offsets and targets -/

section

variable {d here there : U32}

lemma low_bits_of_aligned (h : d.toNat % 4 = 0) : d[0] = false ∧ d[1] = false := by
  simp only [BitVec.getElem_eq_testBit_toNat, Nat.testBit_eq_decide_div_mod_eq,
    decide_eq_false_iff_not]
  omega

/-- An aligned distance, cut to 16 bits, survives the division by four. -/
lemma shifted_offset (h : d.toNat % 4 = 0) :
    ((d.setWidth 16 : I16).sshiftRight 2).signExtend 32 <<< 2 =
      (d.setWidth 16 : I16).signExtend 32 := by
  obtain ⟨h0, h1⟩ := low_bits_of_aligned h
  refine BitVec.eq_of_getLsbD_eq fun k hk => ?_
  simp only [BitVec.getLsbD_shiftLeft, BitVec.getLsbD_signExtend, BitVec.getLsbD_sshiftRight,
    BitVec.getLsbD_setWidth, BitVec.msb_sshiftRight, BitVec.msb_setWidth]
  interval_cases k <;> simp [h0, h1]

lemma signExtend_low_iff :
    (d.setWidth 16 : I16).signExtend 32 = d ↔ -32768 ≤ d.toInt ∧ d.toInt ≤ 32767 := by
  have hd : d.toNat < 2 ^ 32 := d.isLt
  rw [← BitVec.toInt_inj, BitVec.toInt_signExtend_of_le (by norm_num), BitVec.toInt_eq_toNat_cond,
    BitVec.toInt_eq_toNat_cond, BitVec.toNat_setWidth]
  split_ifs <;> omega

/-- A branch is led to the right address if the distance fits 16 bits. -/
lemma branch_offset_iff (hhere : here.toNat % 4 = 0) (hthere : there.toNat % 4 = 0) :
    here + (((there - here).setWidth 16 : I16).sshiftRight 2).signExtend 32 <<< 2 = there ↔
      -32768 ≤ (there - here).toInt ∧ (there - here).toInt ≤ 32767 := by
  have hdistance : (there - here).toNat % 4 = 0 := by
    rw [BitVec.toNat_sub]
    omega
  rw [shifted_offset hdistance, ← signExtend_low_iff]
  constructor
  · intro h
    have hsub := congrArg (· - here) h
    rwa [BitVec.add_comm, BitVec.add_sub_cancel] at hsub
  · intro h
    rw [h, BitVec.add_comm, BitVec.sub_add_cancel]

/-- A jump is led to the right address if it stays in its segment. -/
lemma jump_target_iff (hthere : there.toNat % 4 = 0) :
    here &&& (0xf0000000 : U32) ||| (there >>> 2 &&& 0x3ffffff) <<< 2 = there ↔
      there.toNat / 2 ^ 28 = here.toNat / 2 ^ 28 := by
  have hlt : here.toNat < 2 ^ 32 := here.isLt
  have hlt' : there.toNat < 2 ^ 32 := there.isLt
  have hsegment : (here &&& (0xf0000000 : U32)).toNat = 2 ^ 28 * (here.toNat / 2 ^ 28) := by
    rw [BitVec.toNat_and_field here 28 4 rfl]
    omega
  have hlow : ((there >>> 2 &&& 0x3ffffff) <<< 2).toNat = there.toNat % 2 ^ 28 := by
    rw [BitVec.toNat_shiftLeft, BitVec.toNat_and_mask (k := 26) _ rfl, BitVec.toNat_shift,
      Nat.shiftLeft_eq]
    omega
  have hnat : (here &&& (0xf0000000 : U32) ||| (there >>> 2 &&& 0x3ffffff) <<< 2).toNat =
      2 ^ 28 * (here.toNat / 2 ^ 28) + there.toNat % 2 ^ 28 := by
    rw [BitVec.toNat_or, hsegment, hlow,
      ← Nat.two_pow_add_eq_or_of_lt (Nat.mod_lt _ (by norm_num))]
  rw [← BitVec.toNat_inj, hnat]
  omega

end

/-! ### Execution -/

section

variable {δ : Type} {dev : Devices δ} {asm asm' : Assembler} {m : MachineCode} {r0 r1 : Register}
  {l : Label} {i : Instruction} {c : Cpu δ} {a here : U32} {off : I16}

/-- The word leads to `a` after the delay slot. -/
def LeadsTo (dev : Devices δ) (m : MachineCode) (c : Cpu δ) (a : U32) : Prop :=
  ∀ sh, ∃ c' sh', Cpu.decodeAndExecute dev ⟨m.word⟩ c sh = .ok (c', sh') ∧
    c'.control = { c.control with nextPc := a, branch := true }

/-- A branch whose test succeeds. -/
lemma leadsTo_branchIf {op : Opcode} {os : List Operand} {test : Bool} (hd : Decoded asm m op os)
    (hos : .offset l ∈ os) (hoff : asm.branchTarget l = .ok off) (hpc : c.pc = here)
    (hexec : ∀ sh, Cpu.execute dev op ⟨m.word⟩ c sh = .ok (c.branchIf test ⟨m.word⟩, sh))
    (htest : test = true) : LeadsTo dev m c (here + off.signExtend 32 <<< 2) := by
  intro sh
  obtain ⟨off', hoff', himm⟩ := hd.found _ hos
  obtain rfl := Except.ok.inj (hoff.symm.trans hoff')
  refine ⟨_, _, (congrArg (Cpu.execute dev · _ c _) hd.opcode).trans (hexec _), ?_⟩
  rw [htest, ← himm, ← hpc]
  rfl

lemma leadsTo_beq (hd : Decoded asm m .beq [.s r0, .t r1, .offset l])
    (hoff : asm.branchTarget l = .ok off) (hpc : c.pc = here)
    (htaken : c.reg r0.index = c.reg r1.index) :
    LeadsTo dev m c (here + off.signExtend 32 <<< 2) := by
  refine leadsTo_branchIf hd (by simp) hoff hpc (fun _ => rfl) ?_
  rw [hd.eq_s (r := r0) (by simp), hd.eq_t (r := r1) (by simp)]
  exact beq_iff_eq.mpr htaken

lemma leadsTo_bne (hd : Decoded asm m .bne [.s r0, .t r1, .offset l])
    (hoff : asm.branchTarget l = .ok off) (hpc : c.pc = here)
    (htaken : c.reg r0.index ≠ c.reg r1.index) :
    LeadsTo dev m c (here + off.signExtend 32 <<< 2) := by
  refine leadsTo_branchIf hd (by simp) hoff hpc (fun _ => rfl) ?_
  rw [hd.eq_s (r := r0) (by simp), hd.eq_t (r := r1) (by simp)]
  exact bne_iff_ne.mpr htaken

lemma leadsTo_blez (hd : Decoded asm m .blez [.s r0, .offset l])
    (hoff : asm.branchTarget l = .ok off) (hpc : c.pc = here)
    (htaken : (c.reg r0.index).toInt ≤ 0) :
    LeadsTo dev m c (here + off.signExtend 32 <<< 2) := by
  refine leadsTo_branchIf hd (by simp) hoff hpc (fun _ => rfl) ?_
  rw [hd.eq_s (r := r0) (by simp)]
  exact decide_eq_true htaken

lemma leadsTo_bgtz (hd : Decoded asm m .bgtz [.s r0, .offset l])
    (hoff : asm.branchTarget l = .ok off) (hpc : c.pc = here)
    (htaken : 0 < (c.reg r0.index).toInt) :
    LeadsTo dev m c (here + off.signExtend 32 <<< 2) := by
  refine leadsTo_branchIf hd (by simp) hoff hpc (fun _ => rfl) ?_
  rw [hd.eq_s (r := r0) (by simp)]
  exact decide_eq_true htaken

/-- A branch of the family that is told apart by the bits of the second register. -/
lemma leadsTo_bxx {link bgez : Bool}
    (hd : Decoded asm m .bxx [.isLink link, .isBgez bgez, .s r0, .offset l])
    (hoff : asm.branchTarget l = .ok off) (hpc : c.pc = here)
    (htaken : if bgez then 0 ≤ (c.reg r0.index).toInt else (c.reg r0.index).toInt < 0) :
    LeadsTo dev m c (here + off.signExtend 32 <<< 2) := by
  obtain ⟨hop, hfound⟩ := hd
  simp only [List.forall_mem_cons, Operand.Found] at hfound
  obtain ⟨-, hbgez, hs, ⟨off', hoff', himm⟩, -⟩ := hfound
  obtain rfl := Except.ok.inj (hoff.symm.trans hoff')
  have htest : Cpu.boolWord ((c.reg (⟨m.word⟩ : Rustation.Instruction).s).toInt < 0) ^^^
      (m.word >>> 16 &&& 1) ≠ 0 := by
    rw [hbgez, Register.eq_index hs]
    cases bgez <;> simp_all [Cpu.boolWord]
  intro sh
  refine ⟨_, _, congrArg (Cpu.execute dev · _ c _) hop, ?_⟩
  -- the link register is written either way
  dsimp only
  rw [Cpu.opBxx, if_pos htest, himm, ← hpc]
  split_ifs <;> rfl

lemma leadsTo_jump {op : Opcode} {v : U32} (hd : Decoded asm m op [.target l])
    (hop : op = .j ∨ op = .jal) (hv : asm.jumpTarget l = .ok v) (hpc : c.pc = here) :
    LeadsTo dev m c (here &&& 0xf0000000 ||| (v &&& 0x3ffffff) <<< 2) := by
  intro sh
  obtain ⟨v', hv', himm⟩ := hd.found _ (List.mem_singleton_self _)
  obtain rfl := Except.ok.inj (hv.symm.trans hv')
  rw [← himm, ← hpc]
  rcases hop with rfl | rfl
  · exact ⟨_, _, congrArg (Cpu.execute dev · _ c _) hd.opcode, rfl⟩
  · exact ⟨_, _, congrArg (Cpu.execute dev · _ c _) hd.opcode, rfl⟩

/-- Where an instruction at `here` leads to, its label standing for `there`. -/
def Instruction.destination (here there : U32) : Instruction → U32
  | .j _ | .jal _ => (here + 4) &&& 0xf0000000 ||| (there >>> 2 &&& 0x3ffffff) <<< 2
  | _ => (here + 4) +
      (((there - (here + 4)).setWidth 16 : I16).sshiftRight 2).signExtend 32 <<< 2

lemma assemble_expand (asm : Assembler) (i : Instruction) :
    asm.assembleInstruction i.expand = asm.assembleInstruction i := by
  cases i <;> rfl

lemma branchTarget_eq (h : asm.labelAddress l = .ok a) : asm.branchTarget l =
    .ok (((a - (asm.location + 4)).setWidth 16 : I16).sshiftRight 2) := by
  rw [Assembler.branchTarget, h]
  rfl

lemma jumpTarget_eq (h : asm.labelAddress l = .ok a) : asm.jumpTarget l = .ok (a >>> 2) := by
  rw [Assembler.jumpTarget, h]
  rfl

/-- A transfer that is taken leads to its destination. -/
lemma leadsTo_transfer (hi : i.transfer = some l) (henc : i.Encodable)
    (hl : asm.labelAddress l = .ok a) (h : asm.assembleInstruction i = .ok asm') :
    ∃ m, asm' = asm.emitCode m ∧ ∀ {δ : Type} (dev : Devices δ) (c : Cpu δ),
      c.pc = asm.location + 4 → i.Taken c → LeadsTo dev m c (i.destination asm.location a) := by
  have hbranch := branchTarget_eq hl
  have hjump := jumpTarget_eq hl
  rw [← assemble_expand] at h
  obtain ⟨op, os, hdecoding⟩ : ∃ op os, i.expand.decoding = some (op, os) := by
    cases i <;> first | exact ⟨_, _, rfl⟩ | cases hi
  obtain ⟨m, hm, hd⟩ := decoded_assembled hdecoding (henc op os hdecoding) h
  refine ⟨m, hm, fun dev c hpc htaken => ?_⟩
  cases i with
  | b =>
      obtain rfl := Option.some.inj hi
      cases hdecoding
      exact leadsTo_beq hd hbranch hpc rfl
  | beq =>
      obtain rfl := Option.some.inj hi
      cases hdecoding
      exact leadsTo_beq hd hbranch hpc htaken
  | beqz =>
      obtain rfl := Option.some.inj hi
      cases hdecoding
      exact leadsTo_beq hd hbranch hpc (htaken.trans (reg_R0 c).symm)
  | bne =>
      obtain rfl := Option.some.inj hi
      cases hdecoding
      exact leadsTo_bne hd hbranch hpc htaken
  | bnez =>
      obtain rfl := Option.some.inj hi
      cases hdecoding
      exact leadsTo_bne hd hbranch hpc fun heq => htaken (heq.trans (reg_R0 c))
  | blez =>
      obtain rfl := Option.some.inj hi
      cases hdecoding
      exact leadsTo_blez hd hbranch hpc htaken
  | bgtz =>
      obtain rfl := Option.some.inj hi
      cases hdecoding
      exact leadsTo_bgtz hd hbranch hpc htaken
  | bgez | bltz | bgezal | bltzal =>
      obtain rfl := Option.some.inj hi
      cases hdecoding
      exact leadsTo_bxx hd hbranch hpc htaken
  | j | jal =>
      obtain rfl := Option.some.inj hi
      cases hdecoding
      exact leadsTo_jump hd (by simp) hjump hpc
  | _ => cases hi

/-- The destination is the label if and only if the label is in reach. -/
lemma destination_eq_iff {here there : U32} (hi : i.transfer = some l) (hhere : here.toNat % 4 = 0)
    (hthere : there.toNat % 4 = 0) : i.destination here there = there ↔ i.InReach here there := by
  have hslot : (here + 4).toNat % 4 = 0 := (Cpu.toNat_add_four_mod here).trans hhere
  cases i with
  | j | jal => exact jump_target_iff hthere
  | b | beq | bne | beqz | bnez | blez | bgtz | bgez | bltz | bgezal | bltzal =>
      exact branch_offset_iff hslot hthere
  | _ => cases hi

/-- The instruction in the delay slot is followed by the one at `nextPc`, if it raises
no exception. -/
lemma pc_after_slot {c' : Cpu δ} {sh sh' : SharedState}
    (h : Cpu.runNextInstruction dev c sh = .ok (c', sh')) (hent : c'.entered = c.entered) :
    c'.pc = c.nextPc := by
  have hraised {q : Cpu δ} {cause : Exception} {l : List Exception}
      (hq : q.entered = l ++ c.entered) : (q.exception cause).entered ≠ c.entered := by
    intro heq
    have hlength : (cause :: q.entered).length = c.entered.length := congrArg List.length heq
    rw [hq, List.length_cons, List.length_append] at hlength
    omega
  obtain ⟨-, inter, rfl⟩ | ⟨-, w, icache, inter, s, hdispatch⟩ := Cpu.runNextInstruction_cases h
  · exact absurd hent (hraised (l := []) rfl)
  · rcases Cpu.dispatch_cases hdispatch with hexecuted | rfl
    · cases hexecuted with
      | plain hcontrol => exact congrArg Cpu.Control.pc hcontrol
      | branched hcontrol => exact congrArg Cpu.Control.pc hcontrol
      | raised cause hcontrol =>
          exact absurd hent (hraised (l := []) (congrArg Cpu.Control.entered hcontrol))
    · exact absurd hent (hraised (l := [.coprocessorError]) rfl)

/-! ### The result -/

/-- The CPU executes the word `w` at its PC, then the delay slot, and the next
instruction is the one at `there`. -/
def Arrives (dev : Devices δ) (w : U32) (c : Cpu δ) (sh : SharedState) (there : U32) : Prop :=
  ∃ c' sh', Cpu.decodeAndExecute dev ⟨w⟩ c.advance sh = .ok (c', sh') ∧ c'.pc = c.nextPc ∧
    c'.nextPc = there ∧ ∀ c'' sh'', Cpu.runNextInstruction dev c' sh' = .ok (c'', sh'') →
      c''.entered = c'.entered → c''.pc = there

lemma LeadsTo.arrives_iff {there : U32} (h : LeadsTo dev m c.advance a) (sh : SharedState) :
    Arrives dev m.word c sh there ↔ a = there := by
  obtain ⟨c', sh', hexec, hcontrol⟩ := h sh
  have hnext : c'.nextPc = a := congrArg Cpu.Control.nextPc hcontrol
  constructor
  · rintro ⟨d, s, hexec', -, hthere, -⟩
    obtain ⟨rfl, rfl⟩ := Prod.mk.inj (Except.ok.inj (hexec.symm.trans hexec'))
    exact hnext.symm.trans hthere
  · rintro rfl
    exact ⟨c', sh', hexec, congrArg Cpu.Control.pc hcontrol, hnext,
      fun c'' sh'' hrun hent => (pc_after_slot hrun hent).trans hnext⟩

/-- A CPU that is about to execute the instruction at address 0. -/
def atZero : Cpu Unit := { Cpu.booted [] with pc := 0, nextPc := 4 }

end

end Asm

end Rustation
