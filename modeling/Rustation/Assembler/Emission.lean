import Rustation.Assembler.Assemble

/-!
What the second pass of the assembler emits.

* `emit`: the state after some more bytes, `emitCode_eq` those of a word;
* `Emits`: a step emits a number of bytes and leaves the labels alone;
* `emits_assembleInstruction`: an instruction is assembled to as many bytes as the
  first pass has counted.
-/

namespace Rustation

namespace Asm

/-- The bytes of a word, the lowest first. -/
def littleEndian (w : U32) : List U8 :=
  [w.setWidth 8, (w >>> 8).setWidth 8, (w >>> 16).setWidth 8, (w >>> 24).setWidth 8]

/-! ### The halves of a word -/

section

variable (v : U32)

lemma toNat_high : ((v >>> 16).setWidth 16 : U16).toNat = v.toNat / 65536 := by
  have hv : v.toNat < 4294967296 := v.isLt
  rw [BitVec.toNat_setWidth, BitVec.toNat_shift]
  omega

lemma high_eq_zero_iff : ((v >>> 16).setWidth 16 : U16) = 0 ↔ v.toNat / 65536 = 0 := by
  rw [← BitVec.toNat_inj, toNat_high]
  rfl

lemma low_eq_zero_iff : (v.setWidth 16 : U16) = 0 ↔ v.toNat % 65536 = 0 := by
  rw [← BitVec.toNat_inj, BitVec.toNat_setWidth]
  rfl

lemma and_high_eq_zero_iff : v &&& (0xffff0000 : U32) = 0 ↔ v.toNat / 65536 = 0 := by
  have hv : v.toNat < 4294967296 := v.isLt
  rw [← BitVec.toNat_inj, BitVec.toNat_and_field v 16 16 rfl]
  have hzero : (0 : U32).toNat = 0 := rfl
  omega

lemma and_low_eq_zero_iff : v &&& (0xffff : U32) = 0 ↔ v.toNat % 65536 = 0 := by
  rw [← BitVec.toNat_inj, BitVec.toNat_and_mask (k := 16) v rfl]
  rfl

end

namespace Assembler

variable {asm asm' : Assembler} {i : Instruction}

/-- The first part of a computation that returns has returned. -/
lemma bind_ok {α β : Type} {x : Except String α} {f : α → Except String β} {b : β}
    (h : x >>= f = .ok b) : ∃ a, x = .ok a ∧ f a = .ok b := by
  cases x with
  | error e => cases h
  | ok a => exact ⟨a, rfl, h⟩

/-! ### Emitted bytes -/

def emit (asm : Assembler) (code : List U8) : Assembler :=
  { asm with machineCode := asm.machineCode ++ code }

lemma emitCode_eq (asm : Assembler) (m : MachineCode) :
    asm.emitCode m = asm.emit (littleEndian m.word) := by
  simp [emitCode, emitByte, emit, littleEndian]

lemma foldl_emitByte (asm : Assembler) (code : List U8) :
    code.foldl emitByte asm = asm.emit code := by
  induction code generalizing asm with
  | nil => simp [emit]
  | cons b code ih =>
      rw [List.foldl_cons, ih]
      simp [emit, emitByte]

lemma emit_emit (asm : Assembler) (code code' : List U8) :
    (asm.emit code).emit code' = asm.emit (code ++ code') := by
  simp [emit]

/-- The address after the emitted bytes. -/
lemma location_emit (asm : Assembler) (code : List U8) :
    (asm.emit code).location = asm.location + BitVec.ofNat 32 code.length := by
  simp only [location, emit, List.length_append, BitVec.ofNat_add, BitVec.add_assoc]

/-- From `asm` to `asm'` there are `n` more bytes, and the labels are the same. -/
def Emits (asm asm' : Assembler) (n : ℕ) : Prop := ∃ code, asm' = asm.emit code ∧ code.length = n

lemma Emits.trans {asm'' : Assembler} {n n' : ℕ} (h : asm.Emits asm' n) (h' : asm'.Emits asm'' n') :
    asm.Emits asm'' (n + n') := by
  obtain ⟨code, rfl, rfl⟩ := h
  obtain ⟨code', rfl, rfl⟩ := h'
  exact ⟨code ++ code', emit_emit .., List.length_append⟩

lemma Emits.location {n : ℕ} (h : asm.Emits asm' n) :
    asm'.location = asm.location + BitVec.ofNat 32 n := by
  obtain ⟨code, rfl, rfl⟩ := h
  exact asm.location_emit code

lemma emits_emitCode {m : MachineCode} (h : pure (asm.emitCode m) = Except.ok (ε := String) asm') :
    asm.Emits asm' 4 := by
  obtain rfl := Except.ok.inj h
  exact ⟨_, asm.emitCode_eq m, rfl⟩

lemma emitBranch_ok {m : MachineCode} {l : Label} (h : asm.emitBranch m l = .ok asm') :
    ∃ i, asm.branchTarget l = .ok i ∧ asm' = asm.emitCode (m.immSe i) := by
  obtain ⟨i, hi, hcode⟩ := bind_ok h
  exact ⟨i, hi, (Except.ok.inj hcode).symm⟩

lemma emitJump_ok {m : MachineCode} {l : Label} (h : asm.emitJump m l = .ok asm') :
    ∃ v, asm.jumpTarget l = .ok v ∧ asm' = asm.emitCode (m.immJump v) := by
  obtain ⟨v, hv, hcode⟩ := bind_ok h
  exact ⟨v, hv, (Except.ok.inj hcode).symm⟩

lemma emits_emitBranch {m : MachineCode} {l : Label} (h : asm.emitBranch m l = .ok asm') :
    asm.Emits asm' 4 := by
  obtain ⟨i, -, rfl⟩ := emitBranch_ok h
  exact emits_emitCode rfl

lemma emits_emitJump {m : MachineCode} {l : Label} (h : asm.emitJump m l = .ok asm') :
    asm.Emits asm' 4 := by
  obtain ⟨v, -, rfl⟩ := emitJump_ok h
  exact emits_emitCode rfl

/-! ### Pseudo-instructions -/

/-- An immediate value takes one instruction for each half that is not zero, and
one if both are. -/
lemma emits_li {r : Register} {v : U32} (h : asm.assembleInstruction (.li r v) = .ok asm') :
    asm.Emits asm' ((Instruction.li r v).bytes asm.location).toNat := by
  simp only [assembleInstruction, ne_eq, high_eq_zero_iff] at h
  simp only [low_eq_zero_iff] at h
  have hzero : v = 0 ↔ v.toNat = 0 := by
    rw [← BitVec.toNat_inj]
    rfl
  unfold Instruction.bytes
  simp only [ne_eq, and_high_eq_zero_iff, and_low_eq_zero_iff, hzero]
  by_cases hhigh : v.toNat / 65536 = 0
  · have hlow : ¬v.toNat % 65536 = 0 ∨ v.toNat = 0 := by omega
    simp only [hhigh, not_true_eq_false, if_false, hlow, if_true] at h ⊢
    exact emits_emitCode h
  · have hv : ¬v.toNat = 0 := by omega
    by_cases hlow : v.toNat % 65536 = 0
    · simp only [hhigh, hlow, hv, not_true_eq_false, not_false_eq_true, or_false, if_false,
        if_true] at h ⊢
      exact emits_emitCode h
    · simp only [hhigh, hlow, hv, not_false_eq_true, or_false, if_true] at h ⊢
      exact (emits_emitCode rfl).trans (emits_emitCode h)

lemma emits_la {r : Register} {l : Label} (h : asm.assembleInstruction (.la r l) = .ok asm') :
    asm.Emits asm' 8 := by
  obtain ⟨a, -, hcode⟩ := bind_ok h
  exact (emits_emitCode rfl).trans (emits_emitCode hcode)

/-- An instruction is assembled to as many bytes as it is said to have. -/
lemma emits_assembleInstruction (h : asm.assembleInstruction i = .ok asm') :
    asm.Emits asm' (i.bytes asm.location).toNat := by
  cases i with
  | globalLabel | localLabel =>
      obtain rfl := Except.ok.inj h
      exact ⟨[], by simp [emit], rfl⟩
  | align o =>
      obtain rfl := Except.ok.inj h
      rw [foldl_emitByte]
      exact ⟨_, rfl, List.length_replicate⟩
  | li => exact emits_li h
  | la => exact emits_la h
  | bgez | bltz | bgezal | bltzal | beq | bne | blez | bgtz | b | beqz | bnez =>
      exact emits_emitBranch h
  | j | jal => exact emits_emitJump h
  | _ => exact emits_emitCode h

end Assembler

end Asm

end Rustation
