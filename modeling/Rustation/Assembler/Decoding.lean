import Rustation.Assembler.Emission
import Rustation.Assembler.Encoding
import Rustation.Cpu.Unaligned

/-!
The decoder of the CPU undoes the assembler.

* `Operand`: an operand of an assembled instruction and the field its handler finds
  it in;
* `Instruction.decoding`: for each instruction of the machine the opcode and the
  operands the CPU is to find in its word;
* `Decoded`: the CPU does find them.  `Operand.field` is the field the assembler sets,
  `Operand.found_of_bits` the one its handler reads; `decoded_assembled` goes through
  the instructions;
* `Runs`: words are executed one after the other.  `leaves_li`, `leaves_la` and
  `leaves_move` are the pseudo-instructions that set a register;
* `assembler_decoder_agree`: the result.
-/

namespace Rustation

namespace Asm

/-! ### Operands -/

/-- An operand, named after the field of the instruction word that it is found in. -/
inductive Operand where
  | s (r : Register)
  | t (r : Register)
  | d (r : Register)
  | shift (n : U8)
  | imm (u : U16)
  | immSe (i : I16)
  /-- the label of a branch, as an offset in `immSe` -/
  | offset (l : Label)
  /-- the label of a jump, in `immJump` -/
  | target (l : Label)
  | isLink (b : Bool)
  | isBgez (b : Bool)
  /-- the coprocessor opcode of a move from coprocessor 0 -/
  | fromCop0
  /-- the coprocessor opcode of a move to coprocessor 0 -/
  | toCop0

namespace Operand

/-- The value fits its field. -/
def Valid : Operand → Prop
  | s r | t r | d r => r.Valid
  | shift n => n.toNat < 32
  | _ => True

/-- The CPU finds the operand in the word `w`, which has been assembled by `asm`. -/
def Found (asm : Assembler) (w : Rustation.Instruction) : Operand → Prop
  | s r => w.s.val = r.number.toNat
  | t r => w.t.val = r.number.toNat
  | d r => w.d.val = r.number.toNat
  | shift n => w.shift = n.setWidth 32
  | imm u => w.imm = u.setWidth 32
  | immSe i => w.immSe = i.signExtend 32
  | offset l => ∃ i, asm.branchTarget l = .ok i ∧ w.immSe = i.signExtend 32
  | target l => ∃ v, asm.jumpTarget l = .ok v ∧ w.immJump = v &&& 0x3ffffff
  | isLink b => Cpu.isLink w = b
  | isBgez b => w.word >>> 16 &&& 1 = if b then 1 else 0
  | fromCop0 => ∀ {δ : Type} (c : Cpu δ) sh, Cpu.opCop0 w c sh = Cpu.opMfc0 w c sh
  | toCop0 => ∀ {δ : Type} (c : Cpu δ) sh, Cpu.opCop0 w c sh = Cpu.opMtc0 w c

end Operand

/-- The label of a branch or jump, if it has one, is known. -/
def Operand.Known (asm : Assembler) : Operand → Prop
  | offset l | target l => ∃ a, asm.labelAddress l = .ok a
  | _ => True

/-- The opcode of an instruction of the machine and the operands its handler reads.
Labels, padding and pseudo-instructions have none. -/
def Instruction.decoding : Instruction → Option (Opcode × List Operand)
  | .sll r0 r1 n => some (.sll, [.d r0, .t r1, .shift n])
  | .srl r0 r1 n => some (.srl, [.d r0, .t r1, .shift n])
  | .sra r0 r1 n => some (.sra, [.d r0, .t r1, .shift n])
  | .sllv r0 r1 r2 => some (.sllv, [.d r0, .t r1, .s r2])
  | .srlv r0 r1 r2 => some (.srlv, [.d r0, .t r1, .s r2])
  | .srav r0 r1 r2 => some (.srav, [.d r0, .t r1, .s r2])
  | .jr r0 => some (.jr, [.s r0])
  | .jalr r0 r1 => some (.jalr, [.d r0, .s r1])
  | .syscall _ => some (.syscall, [])
  | .break _ => some (.break, [])
  | .mfhi r0 => some (.mfhi, [.d r0])
  | .mthi r0 => some (.mthi, [.s r0])
  | .mflo r0 => some (.mflo, [.d r0])
  | .mtlo r0 => some (.mtlo, [.s r0])
  | .mult r0 r1 => some (.mult, [.s r0, .t r1])
  | .multu r0 r1 => some (.multu, [.s r0, .t r1])
  | .div r0 r1 => some (.div, [.s r0, .t r1])
  | .divu r0 r1 => some (.divu, [.s r0, .t r1])
  | .add r0 r1 r2 => some (.add, [.d r0, .s r1, .t r2])
  | .addu r0 r1 r2 => some (.addu, [.d r0, .s r1, .t r2])
  | .sub r0 r1 r2 => some (.sub, [.d r0, .s r1, .t r2])
  | .subu r0 r1 r2 => some (.subu, [.d r0, .s r1, .t r2])
  | .and r0 r1 r2 => some (.and, [.d r0, .s r1, .t r2])
  | .or r0 r1 r2 => some (.or, [.d r0, .s r1, .t r2])
  | .xor r0 r1 r2 => some (.xor, [.d r0, .s r1, .t r2])
  | .nor r0 r1 r2 => some (.nor, [.d r0, .s r1, .t r2])
  | .slt r0 r1 r2 => some (.slt, [.d r0, .s r1, .t r2])
  | .sltu r0 r1 r2 => some (.sltu, [.d r0, .s r1, .t r2])
  | .bgez r0 l => some (.bxx, [.isLink false, .isBgez true, .s r0, .offset l])
  | .bltz r0 l => some (.bxx, [.isLink false, .isBgez false, .s r0, .offset l])
  | .bgezal r0 l => some (.bxx, [.isLink true, .isBgez true, .s r0, .offset l])
  | .bltzal r0 l => some (.bxx, [.isLink true, .isBgez false, .s r0, .offset l])
  | .j l => some (.j, [.target l])
  | .jal l => some (.jal, [.target l])
  | .beq r0 r1 l => some (.beq, [.s r0, .t r1, .offset l])
  | .bne r0 r1 l => some (.bne, [.s r0, .t r1, .offset l])
  | .blez r0 l => some (.blez, [.s r0, .offset l])
  | .bgtz r0 l => some (.bgtz, [.s r0, .offset l])
  | .addi r0 r1 i => some (.addi, [.t r0, .s r1, .immSe i])
  | .addiu r0 r1 i => some (.addiu, [.t r0, .s r1, .immSe i])
  | .slti r0 r1 i => some (.slti, [.t r0, .s r1, .immSe i])
  | .sltiu r0 r1 i => some (.sltiu, [.t r0, .s r1, .immSe i])
  | .andi r0 r1 u => some (.andi, [.t r0, .s r1, .imm u])
  | .ori r0 r1 u => some (.ori, [.t r0, .s r1, .imm u])
  | .xori r0 r1 u => some (.xori, [.t r0, .s r1, .imm u])
  | .lui r0 u => some (.lui, [.t r0, .imm u])
  | .lb r0 r1 i => some (.lb, [.t r0, .s r1, .immSe i])
  | .lh r0 r1 i => some (.lh, [.t r0, .s r1, .immSe i])
  | .lwl r0 r1 i => some (.lwl, [.t r0, .s r1, .immSe i])
  | .lw r0 r1 i => some (.lw, [.t r0, .s r1, .immSe i])
  | .lbu r0 r1 i => some (.lbu, [.t r0, .s r1, .immSe i])
  | .lhu r0 r1 i => some (.lhu, [.t r0, .s r1, .immSe i])
  | .lwr r0 r1 i => some (.lwr, [.t r0, .s r1, .immSe i])
  | .sb r0 r1 i => some (.sb, [.t r0, .s r1, .immSe i])
  | .sh r0 r1 i => some (.sh, [.t r0, .s r1, .immSe i])
  | .swl r0 r1 i => some (.swl, [.t r0, .s r1, .immSe i])
  | .sw r0 r1 i => some (.sw, [.t r0, .s r1, .immSe i])
  | .swr r0 r1 i => some (.swr, [.t r0, .s r1, .immSe i])
  | .mfc0 r0 copR => some (.cop0, [.fromCop0, .t r0, .d ⟨copR⟩])
  | .mtc0 r0 copR => some (.cop0, [.toCop0, .t r0, .d ⟨copR⟩])
  | _ => none

/-- The CPU runs the handler of `op` and finds the operands in the word. -/
structure Decoded (asm : Assembler) (m : MachineCode) (op : Opcode) (os : List Operand) : Prop where
  opcode : (⟨m.word⟩ : Rustation.Instruction).opcode = op
  found : ∀ o ∈ os, o.Found asm ⟨m.word⟩

/-! ### Words -/

section

variable {asm : Assembler} {m : MachineCode} {f fn : U8} {op : Opcode} {o : Operand}
  {os : List Operand} {i : I16} {v : U32}

/-- The field an operand is set by, `i` and `v` being what its label stands for. -/
def Operand.field (i : I16) (v : U32) : Operand → Field
  | s r => ⟨r.number.setWidth 32, 21, 5⟩
  | t r => ⟨r.number.setWidth 32, 16, 5⟩
  | d r => ⟨r.number.setWidth 32, 11, 5⟩
  | shift n => ⟨n.setWidth 32, 6, 5⟩
  | imm u => ⟨u.setWidth 32, 0, 16⟩
  | immSe i => ⟨i.setWidth 32, 0, 16⟩
  | offset _ => ⟨i.setWidth 32, 0, 16⟩
  | target _ => ⟨v &&& 0x3ffffff, 0, 26⟩
  -- the CPU reads the three bits below as well
  | isLink b => ⟨if b then 8 else 0, 17, 4⟩
  | isBgez b => ⟨if b then 1 else 0, 16, 1⟩
  | fromCop0 => ⟨0b00000, 21, 5⟩
  | toCop0 => ⟨0b00100, 21, 5⟩

/-- What the label of an operand stands for. -/
def Operand.Resolved (asm : Assembler) (i : I16) (v : U32) : Operand → Prop
  | offset l => asm.branchTarget l = .ok i
  | target l => asm.jumpTarget l = .ok v
  | _ => True

lemma toNat_setWidth_byte (n : U8) : (n.setWidth 32).toNat = n.toNat := by
  rw [BitVec.toNat_setWidth, Nat.mod_eq_of_lt (by omega)]

lemma toNat_setWidth_half (u : U16) : (u.setWidth 32).toNat = u.toNat := by
  rw [BitVec.toNat_setWidth, Nat.mod_eq_of_lt (by omega)]

lemma Operand.fits_field (h : o.Valid) : (o.field i v).Fits := by
  have hle : (o.field i v).lo + (o.field i v).len ≤ 32 := by
    cases o <;> simp [field]
  refine ⟨?_, hle⟩
  cases o with
  | s r | t r | d r | shift n => exact (toNat_setWidth_byte _).trans_lt h
  | imm u | immSe u | offset => exact (toNat_setWidth_half _).trans_lt (BitVec.isLt _)
  | target =>
      rw [field, BitVec.toNat_and_mask (k := 26) v rfl]
      exact Nat.mod_lt _ (by norm_num)
  | isLink b | isBgez b => cases b <;> simp [field]
  | fromCop0 | toCop0 => simp [field]

/-- An operand is found if its bits are. -/
lemma Operand.found_of_bits (hr : o.Resolved asm i v)
    (h : m.bits (o.field i v).lo (o.field i v).len = (o.field i v).value.toNat) :
    o.Found asm ⟨m.word⟩ := by
  have himm (u : U16) (hu : m.bits 0 16 = (u.setWidth 32).toNat) :
      m.word &&& 0xffff = u.setWidth 32 :=
    BitVec.eq_of_toNat_eq ((toNat_low m (k := 16) rfl).trans hu)
  have himmSe (u : U16) (hu : m.bits 0 16 = (u.setWidth 32).toNat) :
      (⟨m.word⟩ : Rustation.Instruction).immSe = u.signExtend 32 := by
    have hlow : (u.setWidth 32).setWidth 16 = u := by
      rw [BitVec.setWidth_setWidth_of_le _ (by norm_num), BitVec.setWidth_eq]
    rw [Instruction.immSe, himm u hu, hlow]
  have hcop (n : U32) (hn : m.bits 21 5 = n.toNat) :
      (⟨m.word⟩ : Rustation.Instruction).copOpcode.toNat = n.toNat :=
    (toNat_masked m 21 (k := 5) rfl).trans hn
  cases o with
  | s r | t r | d r => exact (registerField_val m _).trans (h.trans (toNat_setWidth_byte _))
  | shift n => exact BitVec.eq_of_toNat_eq ((toNat_masked m 6 (k := 5) rfl).trans h)
  | imm u => exact himm u h
  | immSe u => exact himmSe u h
  | offset l => exact ⟨i, hr, himmSe i h⟩
  | target l => exact ⟨v, hr, BitVec.eq_of_toNat_eq ((toNat_low m (k := 26) rfl).trans h)⟩
  | isLink b =>
      have hbits : m.word >>> 17 &&& 0xf = if b then 8 else 0 :=
        BitVec.eq_of_toNat_eq ((toNat_masked m 17 (k := 4) rfl).trans h)
      change (m.word >>> 17 &&& 0xf == 0x8) = b
      rw [hbits]
      cases b <;> rfl
  | isBgez b => exact BitVec.eq_of_toNat_eq ((toNat_masked m 16 (k := 1) rfl).trans h)
  | fromCop0 =>
      intro δ c sh
      rw [Cpu.opCop0, hcop _ h]
      rfl
  | toCop0 =>
      intro δ c sh
      rw [Cpu.opCop0, hcop _ h]
      rfl

/-- The operands of a word that is made of their fields and some more. -/
lemma found_build {fs : List Field} (hfits : ∀ g ∈ fs, g.Fits) (hapart : fs.Pairwise Field.Apart)
    (hos : ∀ o ∈ os, o.field i v ∈ fs) (hr : ∀ o ∈ os, o.Resolved asm i v) :
    ∀ o ∈ os, o.Found asm ⟨(build ⟨0⟩ fs).word⟩ := by
  intro o ho
  exact o.found_of_bits (hr o ho) (bits_build hfits hapart (hos o ho) (bits_zero ..))

lemma sub_eq : MachineCode.sub fn = build ⟨0⟩ [⟨0, 26, 6⟩, ⟨fn.setWidth 32, 0, 6⟩] := by
  simp [MachineCode.sub, build, MachineCode.field]

lemma op_eq : MachineCode.op f = build ⟨0⟩ [⟨f.setWidth 32, 26, 6⟩] := by
  simp [MachineCode.op, build, MachineCode.field]

/-- The words of the instructions with function 0. -/
lemma decoded_special {fs : List Field} (hop : Opcode.special fn.toNat = op)
    (hfits : ∀ g ∈ (⟨fn.setWidth 32, 0, 6⟩ : Field) :: fs, g.Fits)
    (hapart : (⟨0, 26, 6⟩ :: ⟨fn.setWidth 32, 0, 6⟩ :: fs).Pairwise Field.Apart)
    (hos : ∀ o ∈ os, o.field i v ∈ fs) (hr : ∀ o ∈ os, o.Resolved asm i v) :
    Decoded asm (build (MachineCode.sub fn) fs) op os := by
  have hm : build (MachineCode.sub fn) fs =
      build ⟨0⟩ (⟨0, 26, 6⟩ :: ⟨fn.setWidth 32, 0, 6⟩ :: fs) := by rw [sub_eq]; rfl
  have hall : ∀ g ∈ (⟨0, 26, 6⟩ : Field) :: ⟨fn.setWidth 32, 0, 6⟩ :: fs, g.Fits :=
    List.forall_mem_cons.mpr ⟨by simp [Field.Fits], hfits⟩
  have hfound (g : Field) (hg : g ∈ (⟨0, 26, 6⟩ : Field) :: ⟨fn.setWidth 32, 0, 6⟩ :: fs) :=
    bits_build hall hapart hg (bits_zero ..)
  rw [hm]
  refine ⟨?_, found_build hall hapart (fun o ho => ?_) hr⟩
  · have hfunction := (toNat_function _).trans (hfound ⟨0, 26, 6⟩ (by simp))
    have hsub := (toNat_subfunction _).trans (hfound ⟨fn.setWidth 32, 0, 6⟩ (by simp))
    rw [toNat_setWidth_byte] at hsub
    rw [Instruction.opcode, hfunction]
    exact (congrArg Opcode.special hsub).trans hop
  · exact List.mem_cons_of_mem _ (List.mem_cons_of_mem _ (hos o ho))

/-- The words of the other instructions. -/
lemma decoded_op {fs : List Field}
    (hop : ∀ w : Rustation.Instruction, w.function.toNat = f.toNat → w.opcode = op)
    (hfits : ∀ g ∈ (⟨f.setWidth 32, 26, 6⟩ : Field) :: fs, g.Fits)
    (hapart : (⟨f.setWidth 32, 26, 6⟩ :: fs).Pairwise Field.Apart)
    (hos : ∀ o ∈ os, o.field i v ∈ fs) (hr : ∀ o ∈ os, o.Resolved asm i v) :
    Decoded asm (build (MachineCode.op f) fs) op os := by
  have hm : build (MachineCode.op f) fs = build ⟨0⟩ (⟨f.setWidth 32, 26, 6⟩ :: fs) := by
    rw [op_eq]
    rfl
  rw [hm]
  refine ⟨hop _ ?_, found_build hfits hapart (fun o ho => List.mem_cons_of_mem _ (hos o ho)) hr⟩
  have hfunction := bits_build hfits hapart List.mem_cons_self (bits_zero ..)
  rw [toNat_setWidth_byte] at hfunction
  exact (toNat_function _).trans hfunction

lemma fits_fields {g : Field} (hg : g.value.toNat < 2 ^ g.len ∧ g.lo + g.len ≤ 32)
    (hv : ∀ o ∈ os, o.Valid) : ∀ g' ∈ g :: os.map (Operand.field i v), g'.Fits := by
  refine List.forall_mem_cons.mpr ⟨hg, fun g' hg' => ?_⟩
  obtain ⟨o, ho, rfl⟩ := List.mem_map.mp hg'
  exact o.fits_field (hv o ho)

/-- Nothing but the operands is added to the subfunction. -/
lemma decoded_sub_operands (hop : Opcode.special fn.toNat = op) (hfn : fn.toNat < 2 ^ 6)
    (hv : ∀ o ∈ os, o.Valid) (hr : ∀ o ∈ os, o.Resolved asm i v)
    (hapart : apartAt (⟨0, 26, 6⟩ :: ⟨fn.setWidth 32, 0, 6⟩ :: os.map (Operand.field i v))) :
    Decoded asm (build (MachineCode.sub fn) (os.map (Operand.field i v))) op os :=
  decoded_special hop (fits_fields ⟨(toNat_setWidth_byte fn).trans_lt hfn, by norm_num⟩ hv)
    (pairwise_of_apartAt hapart) (fun _ ho => List.mem_map_of_mem ho) hr

/-- Nothing but the operands is added to the function. -/
lemma decoded_op_operands
    (hop : ∀ w : Rustation.Instruction, w.function.toNat = f.toNat → w.opcode = op)
    (hf : f.toNat < 2 ^ 6) (hv : ∀ o ∈ os, o.Valid) (hr : ∀ o ∈ os, o.Resolved asm i v)
    (hapart : apartAt (⟨f.setWidth 32, 26, 6⟩ :: os.map (Operand.field i v))) :
    Decoded asm (build (MachineCode.op f) (os.map (Operand.field i v))) op os :=
  decoded_op hop (fits_fields ⟨(toNat_setWidth_byte f).trans_lt hf, by norm_num⟩ hv)
    (pairwise_of_apartAt hapart) (fun _ ho => List.mem_map_of_mem ho) hr

/-- A trap has a code, which the CPU does not read. -/
lemma decoded_trap (hop : Opcode.special fn.toNat = op) (hfn : fn.toNat < 2 ^ 6) (v : U32) :
    Decoded asm ((MachineCode.sub fn).sysBrk v) op [] := by
  have hv : (v &&& 0xfffff).toNat < 2 ^ 20 := by
    rw [BitVec.toNat_and_mask (k := 20) v rfl]
    exact Nat.mod_lt _ (by norm_num)
  have hfnn : (fn.setWidth 32).toNat < 2 ^ 6 := (toNat_setWidth_byte fn).trans_lt hfn
  change Decoded asm (build (MachineCode.sub fn) [⟨v &&& 0xfffff, 6, 20⟩]) op []
  refine decoded_special (i := 0) (v := 0) hop ?_ (by simp [Field.Apart]) (by simp) (by simp)
  simp only [List.forall_mem_cons, Field.Fits]
  exact ⟨⟨hfnn, by norm_num⟩, ⟨hv, by norm_num⟩, List.forall_mem_nil _⟩

end

/-! ### Instructions of the machine -/

section

variable {asm asm' : Assembler} {i : Instruction} {op : Opcode} {os : List Operand}

lemma isLink_eq (m : MachineCode) (b : Bool) : m.isLink b = m.field (if b then 8 else 0) 17 := by
  cases b <;> rfl

/-- An instruction whose label is known can be assembled. -/
lemma exists_assembled (hi : i.decoding = some (op, os)) (hk : ∀ o ∈ os, o.Known asm) :
    ∃ asm', asm.assembleInstruction i = .ok asm' := by
  have hbranch (code : MachineCode) (l : Label) (hl : ∃ a, asm.labelAddress l = .ok a) :
      ∃ asm', asm.emitBranch code l = .ok asm' := by
    obtain ⟨a, ha⟩ := hl
    rw [Assembler.emitBranch, Assembler.branchTarget, ha]
    exact ⟨_, rfl⟩
  have hjump (code : MachineCode) (l : Label) (hl : ∃ a, asm.labelAddress l = .ok a) :
      ∃ asm', asm.emitJump code l = .ok asm' := by
    obtain ⟨a, ha⟩ := hl
    rw [Assembler.emitJump, Assembler.jumpTarget, ha]
    exact ⟨_, rfl⟩
  cases i with
  | bgez _ l | bltz _ l | bgezal _ l | bltzal _ l | beq _ _ l | bne _ _ l | blez _ l | bgtz _ l =>
      cases hi
      exact hbranch _ l (hk (.offset l) (by simp))
  | j l | jal l =>
      cases hi
      exact hjump _ l (hk (.target l) (by simp))
  | globalLabel | localLabel | align | nop | move | li | la | b | beqz | bnez => cases hi
  | _ => exact ⟨_, rfl⟩

lemma decoded_assembled (hi : i.decoding = some (op, os)) (hv : ∀ o ∈ os, o.Valid)
    (h : asm.assembleInstruction i = .ok asm') :
    ∃ m, asm' = asm.emitCode m ∧ Decoded asm m op os := by
  cases i with
  | sll | srl | sra | sllv | srlv | srav | jr | jalr | mfhi | mthi | mflo | mtlo | mult | multu
  | div
  | divu | add | addu | sub | subu | and | or | xor | nor | slt | sltu =>
      obtain rfl := Except.ok.inj h
      cases hi
      exact ⟨_, rfl, decoded_sub_operands (i := 0) (v := 0) rfl (by decide) hv
        (by simp [Operand.Resolved]) rfl⟩
  | syscall v | «break» v =>
      obtain rfl := Except.ok.inj h
      cases hi
      exact ⟨_, rfl, decoded_trap rfl (by decide) v⟩
  | addi | addiu | slti | sltiu | andi | ori | xori | lui | lb | lh | lwl | lw | lbu | lhu | lwr
  | sb
  | sh | swl | sw | swr | mfc0 | mtc0 =>
      obtain rfl := Except.ok.inj h
      cases hi
      exact ⟨_, rfl, decoded_op_operands (i := 0) (v := 0)
        (fun w hw => by rw [Instruction.opcode, hw]; rfl) (by decide) hv
        (by simp [Operand.Resolved]) rfl⟩
  | j | jal =>
      obtain ⟨v, hl, rfl⟩ := Assembler.emitJump_ok h
      cases hi
      exact ⟨_, rfl, decoded_op_operands (i := 0) (v := v)
        (fun w hw => by rw [Instruction.opcode, hw]; rfl) (by decide) hv
        (by simpa [Operand.Resolved] using hl) rfl⟩
  | beq | bne | blez | bgtz =>
      obtain ⟨i, hl, rfl⟩ := Assembler.emitBranch_ok h
      cases hi
      exact ⟨_, rfl, decoded_op_operands (i := i) (v := 0)
        (fun w hw => by rw [Instruction.opcode, hw]; rfl) (by decide) hv
        (by simpa [Operand.Resolved] using hl) rfl⟩
  | bgez | bltz | bgezal | bltzal =>
      obtain ⟨i, hl, rfl⟩ := Assembler.emitBranch_ok h
      cases hi
      rw [isLink_eq]
      exact ⟨_, rfl, decoded_op_operands (i := i) (v := 0)
        (fun w hw => by rw [Instruction.opcode, hw]; rfl) (by decide) hv
        (by simpa [Operand.Resolved] using hl) rfl⟩
  | _ => cases hi

end

/-! ### Execution -/

section

variable {δ : Type} {dev : Devices δ} {asm asm' : Assembler} {m : MachineCode} {r s t : Register}
  {u : U16} {v : U32} {l : Label}

/-- The register of the CPU that a number stands for. -/
def Register.index (r : Register) : RegisterIndex := Fin.ofNat 32 r.number.toNat

lemma Register.eq_index {q : RegisterIndex} (h : q.val = r.number.toNat) : q = r.index := by
  refine Fin.ext ?_
  rw [index, Fin.val_ofNat, ← h, Nat.mod_eq_of_lt q.isLt]

section

variable {op : Opcode} {os : List Operand} (hd : Decoded asm m op os)

include hd

lemma Decoded.eq_s (h : .s r ∈ os) : (⟨m.word⟩ : Rustation.Instruction).s = r.index :=
  Register.eq_index (hd.found _ h)

lemma Decoded.eq_t (h : .t r ∈ os) : (⟨m.word⟩ : Rustation.Instruction).t = r.index :=
  Register.eq_index (hd.found _ h)

lemma Decoded.eq_d (h : .d r ∈ os) : (⟨m.word⟩ : Rustation.Instruction).d = r.index :=
  Register.eq_index (hd.found _ h)

end

lemma Register.Valid.index_ne_zero (hr : r.Valid) (hne : r.number ≠ 0) : r.index ≠ 0 := by
  intro hzero
  refine hne (BitVec.eq_of_toNat_eq ?_)
  have hval := congrArg Fin.val hzero
  rw [Register.index, Fin.val_ofNat, Nat.mod_eq_of_lt hr] at hval
  exact hval

lemma Decoded.execute_lui (h : Decoded asm m .lui [.t r, .imm u]) (c : Cpu δ) (sh : SharedState) :
    Cpu.decodeAndExecute dev ⟨m.word⟩ c sh =
      .ok (c.writeBack r.index (u.setWidth 32 <<< 16), sh.tick 1) := by
  obtain ⟨hop, hfound⟩ := h
  simp only [List.forall_mem_cons, Operand.Found] at hfound
  rw [Cpu.decodeAndExecute, hop, ← Register.eq_index hfound.1, ← hfound.2.1]
  rfl

lemma Decoded.execute_ori (h : Decoded asm m .ori [.t r, .s s, .imm u]) (c : Cpu δ)
    (sh : SharedState) : Cpu.decodeAndExecute dev ⟨m.word⟩ c sh =
      .ok (c.writeBack r.index (c.reg s.index ||| u.setWidth 32), sh.tick 1) := by
  obtain ⟨hop, hfound⟩ := h
  simp only [List.forall_mem_cons, Operand.Found] at hfound
  rw [Cpu.decodeAndExecute, hop, ← Register.eq_index hfound.1, ← Register.eq_index hfound.2.1,
    ← hfound.2.2.1]
  rfl

lemma Decoded.execute_addu (h : Decoded asm m .addu [.d r, .s s, .t t]) (c : Cpu δ)
    (sh : SharedState) : Cpu.decodeAndExecute dev ⟨m.word⟩ c sh =
      .ok (c.writeBack r.index (c.reg s.index + c.reg t.index), sh.tick 1) := by
  obtain ⟨hop, hfound⟩ := h
  simp only [List.forall_mem_cons, Operand.Found] at hfound
  rw [Cpu.decodeAndExecute, hop, ← Register.eq_index hfound.1, ← Register.eq_index hfound.2.1,
    ← Register.eq_index hfound.2.2.1]
  rfl

/-- The words, executed one after the other, end in a state with `P`.  Between two
of them the CPU goes on to the next one. -/
def Runs (dev : Devices δ) (P : Cpu δ → Prop) : List U32 → Cpu δ → SharedState → Prop
  | [], c, _ => P c
  | w :: ws, c, sh => ∃ c' sh', Cpu.decodeAndExecute dev ⟨w⟩ c sh = .ok (c', sh') ∧
      ∀ d sh'', Cpu.Between c' d → Runs dev P ws d sh''

lemma Runs.mono {P Q : Cpu δ → Prop} (hPQ : ∀ d, P d → Q d) {ws : List U32} {c : Cpu δ}
    {sh : SharedState} (h : Runs dev P ws c sh) : Runs dev Q ws c sh := by
  induction ws generalizing c sh with
  | nil => exact hPQ c h
  | cons w ws ih =>
      obtain ⟨c', sh', hexec, hrest⟩ := h
      exact ⟨c', sh', hexec, fun d sh'' hd => ih (hrest d sh'' hd)⟩

/-- Of the registers only `q` has been set, apart from the load that was pending. -/
def Sets (c : Cpu δ) (q : RegisterIndex) (x : U32) (d : Cpu δ) : Prop :=
  d.regs = c.delayedLoad.regs.set q x

variable {c : Cpu δ} {sh : SharedState} {q : RegisterIndex} {x y : U32}

lemma Sets.reg {d : Cpu δ} (h : Sets c q x d) (hq : q ≠ 0) : d.reg q = x := by
  rw [Cpu.reg, h, Regs.set_val, if_neg hq, if_pos rfl]

lemma regs_set_set (regs : Regs) : (regs.set q x).set q y = regs.set q y := by
  refine Regs.ext (funext fun j => ?_)
  simp only [Regs.set_val]
  split_ifs <;> rfl

lemma runs_one (h : Cpu.decodeAndExecute dev ⟨m.word⟩ c sh = .ok (c.writeBack q x, sh.tick 1)) :
    Runs dev (Sets c q x) [m.word] c sh :=
  ⟨_, _, h, fun _ _ hbetween => hbetween.regs⟩

variable (dev c sh) in
/-- The two halves of a word are loaded one after the other. -/
lemma runs_halves {hi lo : U16} {m m' : MachineCode} (hr : r.index ≠ 0)
    (hlui : Decoded asm m .lui [.t r, .imm hi])
    (hori : Decoded asm' m' .ori [.t r, .s r, .imm lo]) :
    Runs dev (Sets c r.index (hi.setWidth 32 <<< 16 ||| lo.setWidth 32)) [m.word, m'.word] c
      sh := by
  refine ⟨_, _, hlui.execute_lui c sh, fun d sh' hbetween => ?_⟩
  obtain ⟨hregs, hload, -, -⟩ := hbetween
  have hreg : d.reg r.index = hi.setWidth 32 <<< 16 := Sets.reg hregs hr
  refine ⟨_, _, hori.execute_ori d sh', fun d' _ hbetween' => ?_⟩
  -- no load is pending after the first of the two
  have hpending : d.delayedLoad.regs = d.regs := by
    rw [Cpu.delayedLoad, hload]
    exact Regs.set_zero ..
  calc d'.regs = d.delayedLoad.regs.set r.index (d.reg r.index ||| lo.setWidth 32) :=
        hbetween'.regs
    _ = c.delayedLoad.regs.set r.index (hi.setWidth 32 <<< 16 ||| lo.setWidth 32) := by
        rw [hpending, hregs, hreg]
        exact regs_set_set _

lemma halves_eq (v : U32) : ((v >>> 16).setWidth 16 : U16).setWidth 32 <<< 16 |||
    (v.setWidth 16 : U16).setWidth 32 = v := by
  rw [BitVec.or_comm]
  exact word_of_halves v

/-- The words that an instruction is assembled to leave a value, which depends on the
state before, in the register `r`. -/
def Leaves (asm : Assembler) (i : Instruction) (r : Register) (value : {δ : Type} → Cpu δ → U32) :
    Prop :=
  ∃ ws : List U32, asm.assembleInstruction i = .ok (asm.emit (ws.flatMap littleEndian)) ∧
    ∀ {δ : Type} (dev : Devices δ) (c : Cpu δ) (sh : SharedState),
      Runs dev (fun d => d.reg r.index = value c) ws c sh

lemma reg_R0 (c : Cpu δ) : c.reg R0.index = 0 := c.regs.zero

lemma valid_R0 : R0.Valid := by
  unfold Register.Valid
  decide

lemma exists_lui (asm : Assembler) (u : U16) (hr : r.Valid) : ∃ m,
    asm.assembleMachine (.lui r u) = .ok (asm.emit (littleEndian m.word)) ∧
      Decoded asm m .lui [.t r, .imm u] := by
  have hv : ∀ o ∈ [Operand.t r, .imm u], o.Valid := by
    simp only [List.forall_mem_cons, Operand.Valid]
    exact ⟨hr, trivial, List.forall_mem_nil _⟩
  have h : asm.assembleInstruction (.lui r u) = .ok _ := rfl
  obtain ⟨m, hm, hd⟩ := decoded_assembled rfl hv h
  exact ⟨m, congrArg Except.ok (hm.trans (asm.emitCode_eq m)), hd⟩

lemma exists_ori (asm : Assembler) (u : U16) (hr : r.Valid) (hs : s.Valid) : ∃ m,
    asm.assembleMachine (.ori r s u) = .ok (asm.emit (littleEndian m.word)) ∧
      Decoded asm m .ori [.t r, .s s, .imm u] := by
  have hv : ∀ o ∈ [Operand.t r, .s s, .imm u], o.Valid := by
    simp only [List.forall_mem_cons, Operand.Valid]
    exact ⟨hr, hs, trivial, List.forall_mem_nil _⟩
  have h : asm.assembleInstruction (.ori r s u) = .ok _ := rfl
  obtain ⟨m, hm, hd⟩ := decoded_assembled rfl hv h
  exact ⟨m, congrArg Except.ok (hm.trans (asm.emitCode_eq m)), hd⟩

/-- The words load the constant `v` into the register `r`: one of its halves alone, or
both one after the other. -/
inductive Loads (asm : Assembler) (r : Register) (v : U32) : List U32 → Prop
  | low {m : MachineCode} {lo : U16} : Decoded asm m .ori [.t r, .s R0, .imm lo] →
      lo.setWidth 32 = v → Loads asm r v [m.word]
  | high {m : MachineCode} {hi : U16} : Decoded asm m .lui [.t r, .imm hi] →
      hi.setWidth 32 <<< 16 = v → Loads asm r v [m.word]
  | both {asm' : Assembler} {m m' : MachineCode} {hi lo : U16} :
      Decoded asm m .lui [.t r, .imm hi] → Decoded asm' m' .ori [.t r, .s r, .imm lo] →
      hi.setWidth 32 <<< 16 ||| lo.setWidth 32 = v → Loads asm r v [m.word, m'.word]

lemma loads_li (asm : Assembler) (v : U32) (hr : r.Valid) : ∃ ws,
    asm.assembleInstruction (.li r v) = .ok (asm.emit (ws.flatMap littleEndian)) ∧
      Loads asm r v ws := by
  have hv := halves_eq v
  by_cases hhi : ((v >>> 16).setWidth 16 : U16) = 0
  · -- the low half alone
    obtain ⟨m, hm, hori⟩ := exists_ori asm (v.setWidth 16) hr valid_R0
    refine ⟨[m.word], ?_, .low hori ?_⟩
    · simp only [Assembler.assembleInstruction, hhi, ne_eq, not_true_eq_false, if_false, hm]
      simp
    · rw [hhi] at hv
      simpa using hv
  · obtain ⟨m, hm, hlui⟩ := exists_lui asm ((v >>> 16).setWidth 16) hr
    by_cases hlo : (v.setWidth 16 : U16) = 0
    · -- the high half alone
      refine ⟨[m.word], ?_, .high hlui ?_⟩
      · simp only [Assembler.assembleInstruction, hhi, hlo, ne_eq, not_false_eq_true, if_true, hm,
          not_true_eq_false, if_false]
        simp
      · rw [hlo] at hv
        simpa using hv
    · obtain ⟨m', hm', hori⟩ := exists_ori (asm.emit (littleEndian m.word)) (v.setWidth 16) hr hr
      refine ⟨[m.word, m'.word], ?_, .both hlui hori hv⟩
      simp only [Assembler.assembleInstruction, hhi, hlo, ne_eq, not_false_eq_true, if_true, hm]
      exact hm'.trans (congrArg Except.ok (by simp [Assembler.emit_emit]))

lemma loads_la {a : U32} (hl : asm.labelAddress l = .ok a) (hr : r.Valid) : ∃ ws,
    asm.assembleInstruction (.la r l) = .ok (asm.emit (ws.flatMap littleEndian)) ∧
      Loads asm r a ws := by
  obtain ⟨m, hm, hlui⟩ := exists_lui asm ((a >>> 16).setWidth 16) hr
  obtain ⟨m', hm', hori⟩ := exists_ori (asm.emit (littleEndian m.word)) (a.setWidth 16) hr hr
  refine ⟨[m.word, m'.word], ?_, .both hlui hori (halves_eq a)⟩
  simp only [Assembler.assembleInstruction, hl]
  change (asm.assembleMachine (.lui r _) >>= fun asm => asm.assembleMachine (.ori r r _)) = _
  rw [hm]
  exact hm'.trans (congrArg Except.ok (by simp [Assembler.emit_emit]))

lemma Loads.runs {ws : List U32} (h : Loads asm r v ws) (hindex : r.index ≠ 0) (dev : Devices δ)
    (c : Cpu δ) (sh : SharedState) : Runs dev (fun d => d.reg r.index = v) ws c sh := by
  have hsets : Runs dev (Sets c r.index v) ws c sh := by
    cases h with
    | low hori hlo =>
        refine runs_one ?_
        rw [hori.execute_ori, reg_R0, hlo]
        simp
    | high hlui hhi =>
        refine runs_one ?_
        rw [hlui.execute_lui, hhi]
    | both hlui hori hv => exact hv ▸ runs_halves dev c sh hindex hlui hori
  exact hsets.mono fun d hd => hd.reg hindex

lemma leaves_li (asm : Assembler) (v : U32) (hr : r.Valid) (hne : r.number ≠ 0) :
    Leaves asm (.li r v) r fun _ => v := by
  obtain ⟨ws, hone, hloads⟩ := loads_li asm v hr
  exact ⟨ws, hone, hloads.runs (hr.index_ne_zero hne)⟩

lemma leaves_la {a : U32} (hl : asm.labelAddress l = .ok a) (hr : r.Valid) (hne : r.number ≠ 0) :
    Leaves asm (.la r l) r fun _ => a := by
  obtain ⟨ws, hone, hloads⟩ := loads_la hl hr
  exact ⟨ws, hone, hloads.runs (hr.index_ne_zero hne)⟩

lemma leaves_move (asm : Assembler) (hr : r.Valid) (hne : r.number ≠ 0) (hs : s.Valid) :
    Leaves asm (.move r s) r fun c => c.reg s.index := by
  have hindex := hr.index_ne_zero hne
  have hv : ∀ o ∈ [Operand.d r, .s s, .t R0], o.Valid := by
    simp only [List.forall_mem_cons, Operand.Valid]
    exact ⟨hr, hs, valid_R0, List.forall_mem_nil _⟩
  have h : asm.assembleInstruction (.addu r s R0) = .ok _ := rfl
  obtain ⟨m, hm, haddu⟩ := decoded_assembled rfl hv h
  refine ⟨[m.word], ?_, fun dev c sh => (runs_one ?_).mono fun d hd => hd.reg hindex⟩
  · exact congrArg Except.ok (hm.trans (by simp [Assembler.emitCode_eq]))
  · rw [haddu.execute_addu, reg_R0]
    exact congrArg (fun x => Except.ok (c.writeBack r.index x, sh.tick 1)) (BitVec.add_zero _)

/-! ### The result -/

/-- The CPU runs the handler of `op` on the bytes that an instruction is assembled to,
and the handler finds the operands. -/
def Dispatched (asm : Assembler) (i : Instruction) (op : Opcode) (os : List Operand) : Prop :=
  ∃ w : U32, asm.assembleInstruction i = .ok (asm.emit (littleEndian w)) ∧
    (∀ {δ : Type} (dev : Devices δ) (c : Cpu δ) (sh : SharedState),
      Cpu.decodeAndExecute dev ⟨w⟩ c sh = Cpu.execute dev op ⟨w⟩ c (sh.tick 1)) ∧
    ∀ o ∈ os, o.Found asm ⟨w⟩

/-- The decoder of the CPU undoes the assembler: an instruction of the machine is
dispatched to its handler, which finds the operands; and the expansions of LI, LA and
MOVE leave the immediate value, the address of the label and the old value of the
other register. -/
theorem assembler_decoder_agree (asm : Assembler) :
    (∀ i op os, Instruction.decoding i = some (op, os) → (∀ o ∈ os, Operand.Valid o) →
      (∀ o ∈ os, Operand.Known asm o) → Dispatched asm i op os) ∧
    ∀ r : Register, r.Valid → r.number ≠ 0 →
      (∀ v, Leaves asm (.li r v) r fun _ => v) ∧
      (∀ l a, asm.labelAddress l = .ok a → Leaves asm (.la r l) r fun _ => a) ∧
      ∀ s : Register, s.Valid → Leaves asm (.move r s) r fun c => c.reg s.index := by
  refine ⟨fun i op os hi hv hk => ?_, fun r hr hne => ⟨fun v => leaves_li asm v hr hne,
    fun l a hl => leaves_la hl hr hne, fun s hs => leaves_move asm hr hne hs⟩⟩
  obtain ⟨asm', hasm⟩ := exists_assembled hi hk
  obtain ⟨m, rfl, hd⟩ := decoded_assembled hi hv hasm
  refine ⟨m.word, hasm.trans (congrArg Except.ok (asm.emitCode_eq m)), fun dev c sh => ?_, hd.found⟩
  rw [Cpu.decodeAndExecute, hd.opcode]

theorem assembler_decoder_agree_t5 :
    Dispatched (.fromBase 0) (.beq T5 R0 (.absolute 0x40)) .beq
      [.s T5, .t R0, .offset (.absolute 0x40)] ∧
    Leaves (.fromBase 0) (.li T5 0xdeadbeef) T5 (fun _ => 0xdeadbeef) ∧
    Leaves (.fromBase 0) (.la T5 (.absolute 0x40)) T5 (fun _ => 0x40) ∧
    Leaves (.fromBase 0) (.move T5 T0) T5 (fun c => c.reg 8) := by
  obtain ⟨hmachine, hpseudo⟩ := assembler_decoder_agree (.fromBase 0)
  have hT5 : T5.Valid := by
    unfold Register.Valid
    decide
  have hT0 : T0.Valid := by
    unfold Register.Valid
    decide
  obtain ⟨hli, hla, hmove⟩ := hpseudo T5 hT5 (by decide)
  refine ⟨hmachine _ _ _ rfl ?_ ?_, hli _, hla _ _ rfl, hmove T0 hT0⟩
  · simp only [List.forall_mem_cons, Operand.Valid]
    exact ⟨hT5, valid_R0, trivial, List.forall_mem_nil _⟩
  · simp only [List.forall_mem_cons, Operand.Known]
    exact ⟨trivial, trivial, ⟨0x40, rfl⟩, List.forall_mem_nil _⟩

end

end Asm

end Rustation
