import Rustation.ParallelIo.Effects

/-!
Rules for a program that the assembler has placed in the port.

* `At pre d`: the CPU is at the instruction after `pre`, in KSEG1, and the data is `d`;
* `Placed`: a program with its code;
* `Placed.goes_block`: instructions that do not transfer control have their effects, one
  after the other;
* `Placed.goes_beqz`, `Placed.goes_jal`, `Placed.goes_jr`, `Placed.goes_jalr`: transfers
  of control, with the instruction in the delay slot;
* `Placed.goes_loop`: a loop that ends in a branch back to its label.
-/

namespace Rustation

namespace Asm

/-! ### Registers -/

/-- The value fits its field. -/
def Operand.valid : Operand → Bool
  | s r | t r | d r => decide (r.number.toNat < 32)
  | shift n => decide (n.toNat < 32)
  | _ => true

lemma Operand.valid_iff {o : Operand} : o.valid = true ↔ o.Valid := by
  cases o <;> simp [valid, Valid, Register.Valid]

namespace Instruction

/-- The instruction of the machine that an instruction of one word stands for. -/
def machine : Instruction → Instruction
  | .nop => .sll R0 R0 0
  | .move r s => .addu r s R0
  | i => i.expand

/-- The operands, with the register alone for the instructions of two words. -/
def operands (i : Instruction) : List Operand :=
  match i.machine.decoding with
  | some (_, os) => os
  | none =>
      match i with
      | .li r _ | .la r _ => [.t r]
      | _ => []

/-- The registers have numbers of 5 bits. -/
def wellFormed (i : Instruction) : Bool := i.operands.all Operand.valid

end Instruction

section

variable {i : Instruction} {op : Opcode} {os : List Operand}

lemma assemble_machine (asm : Assembler) (i : Instruction) :
    asm.assembleInstruction i.machine = asm.assembleInstruction i := by
  cases i <;> rfl

lemma decoding_ne_cop1 (h : i.decoding = some (op, os)) : op ≠ .cop1 := by
  rintro rfl
  cases i <;> simp [Instruction.decoding] at h

/-- An instruction of the machine takes one word. -/
lemma bytes_of_decoding (h : i.machine.decoding = some (op, os)) (loc : U32) : i.bytes loc = 4 := by
  cases i <;> first | rfl | cases h

lemma valid_of_wellFormed (h : i.wellFormed = true) (hi : i.machine.decoding = some (op, os)) :
    ∀ o ∈ os, o.Valid := by
  unfold Instruction.wellFormed Instruction.operands at h
  rw [hi] at h
  intro o ho
  exact Operand.valid_iff.mp (List.all_eq_true.mp h o ho)

end

end Asm

namespace ExeLoader

open Fallible Asm

/-! ### Places -/

/-- The address of the instruction after `pre`, in KSEG1. -/
def address (pre : List Asm.Instruction) : U32 := endOf LOADER_ENTRY_ADDRESS pre + 0xa0000000

/-- The CPU is at the instruction after `pre`. -/
def At (pre : List Asm.Instruction) (d : Data) : View := ⟨address pre, address pre + 4, d⟩

/-- The assembler of the loader. -/
abbrev start : Assembler := .fromBase LOADER_ENTRY_ADDRESS

lemma location_start : start.location = LOADER_ENTRY_ADDRESS := by decide

/-- A program of the loader's instructions, with its code. -/
structure Placed (is : List Asm.Instruction) (code : List U8) : Prop where
  assembled : ∃ size asm, start.assemble is = .ok (size, asm) ∧ asm.machineCode = code
  unpadded : ∀ o, .align o ∉ is
  wellFormed : ∀ i ∈ is, i.wellFormed = true
  short : is.length ≤ 1000

section

variable {ε : Type} {rest : Devices ε} {is pre post p q : List Asm.Instruction} {code : List U8}
  {i slot : Asm.Instruction} {d d' : Data} {n : U32} {mid : Assembler} {l : Label}
  {r s : Register} {name : String}

lemma address_append_label (h : i.bytes (endOf LOADER_ENTRY_ADDRESS pre) = 0) :
    address (pre ++ [i]) = address pre := by
  rw [address, address, endOf_append, endOf, endOf, h]
  exact congrArg (· + _) (BitVec.add_zero _)

lemma address_append (pre : List Asm.Instruction) (i : Asm.Instruction) :
    address (pre ++ [i]) = address pre + i.bytes (endOf LOADER_ENTRY_ADDRESS pre) := by
  rw [address, address, endOf_append, endOf, endOf, BitVec.add_assoc, BitVec.add_assoc,
    BitVec.add_comm (i.bytes _)]

/-- The word of an instruction has the effect of the instruction. -/
lemma plain_machine {asm : Assembler} {m : MachineCode} {op : Opcode} {os : List Operand}
    (hi : i.machine.decoding = some (op, os)) (hd : Decoded asm m op os)
    (heff : effect d i = some d') : Plain rest m.word d d' := by
  cases i with
  | nop =>
      obtain ⟨rfl, rfl⟩ := Prod.mk.inj (Option.some.inj hi)
      obtain rfl := Option.some.inj heff
      exact plain_nop hd
  | move =>
      obtain ⟨rfl, rfl⟩ := Prod.mk.inj (Option.some.inj hi)
      obtain rfl := Option.some.inj heff
      exact plain_move hd
  | b | beqz | bnez => cases heff
  | _ => exact plain_effect hi hd heff

/-- The code of the loader stays as it is. -/
lemma loader_effect (h : effect d i = some d') : d'.exe.loader = d.exe.loader := by
  have hload (offset : U32) : (d.exe.load offset).2.loader = d.exe.loader := by
    unfold ExeLoader.load
    split_ifs
    · split <;> rfl
    · rfl
    · rfl
  have hread {width : Width} {addr : U32} {x : U32 × Data} (hx : d.read width addr = some x) :
      x.2.exe.loader = d.exe.loader := by
    unfold Data.read at hx
    split_ifs at hx
    · split at hx
      · obtain rfl := Option.some.inj hx
        rfl
      · cases hx
    · obtain rfl := Option.some.inj hx
      exact hload EXE_FIFO_OFFSET
    · obtain rfl := Option.some.inj hx
      rfl
  have hwrite {width : Width} {addr val : U32} (hx : d.settle.write width addr val = some d') :
      d'.exe.loader = d.exe.loader := by
    unfold Data.write at hx
    split_ifs at hx <;> (obtain rfl := Option.some.inj hx; rfl)
  cases i with
  | globalLabel | localLabel | nop | lui | ori | li | move | addiu | and | or =>
      obtain rfl := Option.some.inj h
      rfl
  | add =>
      obtain ⟨v, -, rfl⟩ := Option.map_eq_some_iff.mp h
      rfl
  | lb =>
      obtain ⟨x, hx, rfl⟩ := Option.map_eq_some_iff.mp h
      exact hread hx
  | lw =>
      rw [effect, aligned] at h
      split_ifs at h
      obtain ⟨x, hx, rfl⟩ := Option.map_eq_some_iff.mp h
      exact hread hx
  | sb => exact hwrite h
  | sh | sw =>
      rw [effect, aligned] at h
      split_ifs at h
      exact hwrite h
  | mfc0 | mtc0 =>
      rw [effect] at h
      split_ifs at h
      obtain rfl := Option.some.inj h
      rfl
  | _ => cases h

lemma loader_foldlM {block : List Asm.Instruction} (h : block.foldlM effect d = some d') :
    d'.exe.loader = d.exe.loader := by
  induction block generalizing d with
  | nil =>
      obtain rfl := Option.some.inj h
      rfl
  | cons i block ih =>
      rw [List.foldlM_cons] at h
      obtain ⟨d1, hone, hrest⟩ := Option.bind_eq_some_iff.mp h
      exact (ih hrest).trans (loader_effect hone)

/-- The two halves of a value are put together. -/
lemma Data.put_or (d : Data) (q : RegisterIndex) (x y : U32) :
    (d.put q x).put q ((d.put q x).reg q ||| y) = d.put q (x ||| y) := by
  unfold Data.put Data.reg
  dsimp only
  rw [Regs.set_zero, regs_set_set]
  by_cases hq : q = 0
  · rw [hq, Regs.set_zero, Regs.set_zero]
  · rw [Regs.set_val, if_neg hq, if_pos rfl]

namespace Placed

variable (h : Placed is code)

include h

lemma size (his : is = pre ++ post) : sizeOf LOADER_ENTRY_ADDRESS pre % 4 = 0 ∧
    sizeOf LOADER_ENTRY_ADDRESS pre ≤ 8000 := by
  have hnot : ∀ o, .align o ∉ pre := fun o ho =>
    h.unpadded o (by rw [his]; exact List.mem_append_left _ ho)
  have hlength := h.short
  rw [his, List.length_append] at hlength
  have hsize := sizeOf_of_not_align hnot LOADER_ENTRY_ADDRESS
  omega

lemma toNat_endOf (his : is = pre ++ post) : (endOf LOADER_ENTRY_ADDRESS pre).toNat =
    0x1f000200 + sizeOf LOADER_ENTRY_ADDRESS pre := by
  have hsize := h.size his
  rw [endOf_eq, BitVec.toNat_add, BitVec.toNat_ofNat,
    show LOADER_ENTRY_ADDRESS.toNat = 0x1f000200 from rfl]
  omega

lemma toNat_address (his : is = pre ++ post) : (address pre).toNat =
    0xbf000200 + sizeOf LOADER_ENTRY_ADDRESS pre := by
  have hsize := h.size his
  rw [address, BitVec.toNat_add, h.toNat_endOf his,
    show (0xa0000000 : U32).toNat = 0xa0000000 from rfl]
  omega

lemma noWrap : start.NoWrap is := by
  have hsize := h.size (List.append_nil is).symm
  change 0x1f000200 + (0 + sizeOf start.location is) < 2 ^ 32
  rw [location_start]
  omega

lemma position (his : is = pre ++ post) : ∃ mid, start.Position is pre mid := by
  obtain ⟨size, asm, hasm, -⟩ := h.assembled
  obtain ⟨mid, hmid, -⟩ := (Assembler.assemble_ok hasm).1.of_append his
  exact ⟨mid, hmid⟩

/-- The words of an instruction stand at its offset. -/
lemma sits {ws : List U32} (hmid : start.Position is pre mid) (his : is = pre ++ i :: post)
    (hone : mid.assembleInstruction i = .ok (mid.emit (ws.flatMap littleEndian))) :
    Assembler.Sits code (sizeOf LOADER_ENTRY_ADDRESS pre) ws := by
  obtain ⟨size, asm, hasm, rfl⟩ := h.assembled
  have hsits := (Assembler.assemble_ok hasm).1.sits hmid his hone
  change Assembler.Sits asm.machineCode (0 + sizeOf start.location pre) ws at hsits
  rwa [location_start, Nat.zero_add] at hsits

/-- The word of an instruction of the machine. -/
lemma decoded {op : Opcode} {os : List Operand} (his : is = pre ++ i :: post)
    (hi : i.machine.decoding = some (op, os)) : ∃ mid m, start.Position is pre mid ∧
      Assembler.Sits code (sizeOf LOADER_ENTRY_ADDRESS pre) [m.word] ∧ Decoded mid m op os := by
  obtain ⟨size, asm, hasm, -⟩ := h.assembled
  obtain ⟨mid, hmid, hrest⟩ := (Assembler.assemble_ok hasm).1.of_append his
  obtain ⟨mid', hone, -⟩ := Assembler.bind_ok hrest
  have hvalid := valid_of_wellFormed (h.wellFormed i (by rw [his]; simp)) hi
  obtain ⟨m, rfl, hd⟩ := decoded_assembled hi hvalid ((assemble_machine mid i).trans hone)
  refine ⟨mid, m, hmid, h.sits hmid his ?_, hd⟩
  rw [hone, Assembler.emitCode_eq]
  simp

/-! ### Words -/

variable (hsync : Syncs rest)

include hsync

lemma goes_word {k : ℕ} {w : U32} {ws : List U32} {x y : View} (his : is = pre ++ post)
    (hcode : x.data.exe.loader = code)
    (hsits : Assembler.Sits code (sizeOf LOADER_ENTRY_ADDRESS pre + 4 * k) (w :: ws))
    (hk : k ≤ 1) (hpc : x.pc = address pre + BitVec.ofNat 32 (4 * k))
    (hop : (⟨w⟩ : Rustation.Instruction).opcode ≠ .cop1)
    (hexec : Execs rest w ⟨x.nextPc, x.nextPc + 4, x.data⟩ y) : Goes rest x y := by
  have hsize := h.size his
  have haddress := h.toNat_address his
  refine ExeLoader.goes_word hsync (hcode ▸ hsits) ?_ (by omega) (by omega) hop hexec
  rw [hpc, BitVec.toNat_add, haddress, BitVec.toNat_ofNat]
  omega

/-- An instruction of the machine, at its place. -/
lemma goes_machine {op : Opcode} {os : List Operand} {y : View} (his : is = pre ++ i :: post)
    (hi : i.machine.decoding = some (op, os)) (hcode : d.exe.loader = code)
    (hexec : ∀ mid m, start.Position is pre mid → Decoded mid m op os →
      Execs rest m.word ⟨n, n + 4, d⟩ y) : Goes rest ⟨address pre, n, d⟩ y := by
  obtain ⟨mid, m, hmid, hsits, hd⟩ := h.decoded his hi
  refine h.goes_word (k := 0) hsync his hcode hsits (Nat.zero_le 1) (BitVec.add_zero _).symm ?_
    (hexec mid m hmid hd)
  rw [hd.opcode]
  exact decoding_ne_cop1 hi

/-! ### Effects -/

/-- An instruction of one word, in a delay slot or not. -/
lemma goes_slot {op : Opcode} {os : List Operand} (his : is = pre ++ i :: post)
    (hi : i.machine.decoding = some (op, os)) (hcode : d.exe.loader = code)
    (heff : effect d i = some d') : Goes rest ⟨address pre, n, d⟩ ⟨n, n + 4, d'⟩ :=
  h.goes_machine hsync his hi hcode fun _ _ _ hd => plain_machine hi hd heff n (n + 4)

/-- An instruction of two words that load the halves of a value. -/
lemma goes_halves {asm asm' : Assembler} {m m' : MachineCode} {high low : U16}
    (his : is = pre ++ i :: post) (hcode : d.exe.loader = code)
    (hlui : Decoded asm m .lui [.t r, .imm high])
    (hori : Decoded asm' m' .ori [.t r, .s r, .imm low])
    (hsits : Assembler.Sits code (sizeOf LOADER_ENTRY_ADDRESS pre) [m.word, m'.word])
    (hbytes : i.bytes (endOf LOADER_ENTRY_ADDRESS pre) = 8) :
    Goes rest (At pre d)
      (At (pre ++ [i]) (d.put r.index (high.setWidth 32 <<< 16 ||| low.setWidth 32))) := by
  have hhigh : Plain rest m.word d (d.put r.index (high.setWidth 32 <<< 16)) :=
    plain_effect (i := .lui r high) rfl hlui rfl
  have hlow : Plain rest m'.word (d.put r.index (high.setWidth 32 <<< 16)) _ :=
    plain_effect (i := .ori r r low) rfl hori rfl
  rw [Data.put_or] at hlow
  have hfirst : Goes rest (At pre d) ⟨address pre + 4, address pre + 4 + 4, d.put r.index _⟩ :=
    h.goes_word (k := 0) hsync his hcode hsits (Nat.zero_le 1) (BitVec.add_zero _).symm
      (by rw [hlui.opcode]; decide) (hhigh _ _)
  have hsecond : Goes rest ⟨address pre + 4, address pre + 4 + 4, d.put r.index _⟩ _ :=
    h.goes_word (k := 1) hsync his hcode hsits.tail le_rfl rfl (by rw [hori.opcode]; decide)
      (hlow _ _)
  have hend : address (pre ++ [i]) = address pre + 4 + 4 := by
    rw [address_append, hbytes, BitVec.add_assoc]
    rfl
  rw [At, At, hend]
  exact hfirst.trans hsecond

omit h hsync in
/-- An instruction is as long as its words. -/
lemma bytes_of_words {ws : List U32} (hmid : start.Position is pre mid)
    (hone : mid.assembleInstruction i = .ok (mid.emit (ws.flatMap littleEndian))) :
    i.bytes (endOf LOADER_ENTRY_ADDRESS pre) = BitVec.ofNat 32 (4 * ws.length) := by
  obtain ⟨bytes, hbytes, hlength⟩ := Assembler.emits_assembleInstruction hone
  have heq : ws.flatMap littleEndian = bytes :=
    List.append_cancel_left (congrArg Assembler.machineCode hbytes)
  have hwords : (ws.flatMap littleEndian).length = 4 * ws.length := by
    simp [List.length_flatMap, littleEndian, Nat.mul_comm]
  rw [← heq, hwords, hmid.location, location_start] at hlength
  rw [hlength, BitVec.ofNat_toNat, BitVec.setWidth_eq]

lemma goes_one {w : U32} (hmid : start.Position is pre mid) (his : is = pre ++ i :: post)
    (hcode : d.exe.loader = code)
    (hone : mid.assembleInstruction i = .ok (mid.emit ([w].flatMap littleEndian)))
    (hop : (⟨w⟩ : Rustation.Instruction).opcode ≠ .cop1) (hplain : Plain rest w d d') :
    Goes rest (At pre d) (At (pre ++ [i]) d') := by
  have hend : address (pre ++ [i]) = address pre + 4 := by
    rw [address_append, bytes_of_words hmid hone]
    rfl
  rw [At, At, hend]
  exact h.goes_word (k := 0) hsync his hcode (h.sits hmid his hone) (Nat.zero_le 1)
    (BitVec.add_zero _).symm hop (hplain _ _)

/-- An instruction that loads a constant. -/
lemma goes_loads {v : U32} {ws : List U32} (hmid : start.Position is pre mid)
    (his : is = pre ++ i :: post) (hcode : d.exe.loader = code)
    (hone : mid.assembleInstruction i = .ok (mid.emit (ws.flatMap littleEndian)))
    (hloads : Loads mid r v ws) : Goes rest (At pre d) (At (pre ++ [i]) (d.put r.index v)) := by
  cases hloads with
  | low hori hlo =>
      refine h.goes_one hsync hmid his hcode hone (by rw [hori.opcode]; decide) ?_
      have hplain : Plain rest _ d (d.put r.index (d.reg R0.index ||| _)) :=
        plain_effect (i := .ori r R0 _) rfl hori rfl
      rw [hlo, show d.reg R0.index = 0 from d.regs.zero] at hplain
      simpa using hplain
  | high hlui hhi =>
      refine h.goes_one hsync hmid his hcode hone (by rw [hlui.opcode]; decide) ?_
      have hplain : Plain rest _ d (d.put r.index _) := plain_effect (i := .lui r _) rfl hlui rfl
      rwa [hhi] at hplain
  | both hlui hori hv =>
      have hgoes := h.goes_halves (d := d) hsync his hcode hlui hori (h.sits hmid his hone)
        (bytes_of_words hmid hone)
      rwa [hv] at hgoes

lemma goes_li {v : U32} (his : is = pre ++ .li r v :: post) (hcode : d.exe.loader = code) :
    Goes rest (At pre d) (At (pre ++ [.li r v]) (d.put r.index v)) := by
  obtain ⟨mid, hmid⟩ := h.position his
  have hr : r.Valid := Operand.valid_iff.mp
    (List.all_eq_true.mp (h.wellFormed (.li r v) (by rw [his]; simp)) (.t r) List.mem_cons_self)
  obtain ⟨ws, hone, hloads⟩ := loads_li mid v hr
  exact h.goes_loads hsync hmid his hcode hone hloads

lemma goes_la {a : U32} (his : is = pre ++ .la r l :: post) (hcode : d.exe.loader = code)
    (ha : ∀ mid, start.Position is pre mid → mid.labelAddress l = .ok a) :
    Goes rest (At pre d) (At (pre ++ [.la r l]) (d.put r.index a)) := by
  obtain ⟨mid, hmid⟩ := h.position his
  have hr : r.Valid := Operand.valid_iff.mp
    (List.all_eq_true.mp (h.wellFormed (.la r l) (by rw [his]; simp)) (.t r) List.mem_cons_self)
  obtain ⟨ws, hone, hloads⟩ := loads_la (ha mid hmid) hr
  exact h.goes_loads hsync hmid his hcode hone hloads

/-- An instruction that does not transfer control. -/
lemma goes_effect (his : is = pre ++ i :: post) (hcode : d.exe.loader = code)
    (heff : effect d i = some d') : Goes rest (At pre d) (At (pre ++ [i]) d') := by
  have hone {op : Opcode} {os : List Operand} (hi : i.machine.decoding = some (op, os)) :
      Goes rest (At pre d) (At (pre ++ [i]) d') := by
    have hend : address (pre ++ [i]) = address pre + 4 := by
      rw [address_append, bytes_of_decoding hi]
    rw [At, At, hend]
    exact h.goes_slot hsync his hi hcode heff
  cases i with
  | globalLabel | localLabel =>
      obtain rfl := Option.some.inj heff
      rw [At, At, address_append_label rfl]
      exact .refl _
  | li =>
      obtain rfl := Option.some.inj heff
      exact h.goes_li hsync his hcode
  | nop | move | lui | ori | addiu | add | and | or | lb | lw | sb | sh | sw | mfc0 | mtc0 =>
      exact hone rfl
  | _ => cases heff

/-- Instructions that do not transfer control, one after the other. -/
lemma goes_block {block : List Asm.Instruction} (his : is = pre ++ (block ++ post))
    (hcode : d.exe.loader = code) (heff : block.foldlM effect d = some d') :
    Goes rest (At pre d) (At (pre ++ block) d') := by
  induction block generalizing pre d with
  | nil =>
      obtain rfl := Option.some.inj heff
      rw [List.append_nil]
      exact .refl _
  | cons i block ih =>
      rw [List.foldlM_cons] at heff
      obtain ⟨d1, hone, hrest⟩ := Option.bind_eq_some_iff.mp heff
      have hsplit : is = pre ++ [i] ++ (block ++ post) := by
        rw [his]
        simp
      have hfirst := h.goes_effect hsync his hcode hone
      have hothers := ih hsplit ((loader_effect hone).trans hcode) hrest
      rw [List.append_assoc, List.singleton_append] at hothers
      exact hfirst.trans hothers

/-! ### Transfers of control -/

omit hsync in
/-- A branch is led to its label. -/
lemma branch_lands {off : I16} (his : is = pre ++ post) (hpq : is = p ++ q)
    (hmid : start.Position is pre mid)
    (hl : mid.labelAddress l = .ok (endOf LOADER_ENTRY_ADDRESS p))
    (hoff : mid.branchTarget l = .ok off) :
    address pre + (4 : U32) + off.signExtend 32 <<< 2 = address p := by
  have hhere := h.toNat_endOf his
  have hthere := h.toNat_endOf hpq
  have hsize := h.size his
  have hsize' := h.size hpq
  have hslot : (endOf LOADER_ENTRY_ADDRESS pre + 4).toNat =
      0x1f000204 + sizeOf LOADER_ENTRY_ADDRESS pre := by
    rw [BitVec.toNat_add, hhere, show (4 : U32).toNat = 4 from rfl]
    omega
  rw [branchTarget_eq hl, hmid.location, location_start] at hoff
  obtain rfl := Except.ok.inj hoff
  have haligned : (endOf LOADER_ENTRY_ADDRESS pre + 4).toNat % 4 = 0 := by omega
  have haligned' : (endOf LOADER_ENTRY_ADDRESS p).toNat % 4 = 0 := by omega
  have hreach := (branch_offset_iff haligned haligned').mpr (by
    rw [BitVec.toInt_eq_toNat_cond, BitVec.toNat_sub, hslot, hthere]
    split_ifs <;> omega)
  calc address pre + (4 : U32) + _ = endOf LOADER_ENTRY_ADDRESS pre + 4 + _ + 0xa0000000 := by
        rw [address]
        ac_rfl
    _ = address p := congrArg (· + _) hreach

/-- A transfer to `a` with its delay slot. -/
lemma goes_transfer {op op' : Opcode} {os os' : List Operand} {a : U32} {e : Data}
    (his : is = pre ++ i :: slot :: post) (hi : i.machine.decoding = some (op, os))
    (hslot : slot.machine.decoding = some (op', os')) (hcode : d.exe.loader = code)
    (hcode' : e.exe.loader = code)
    (hexec : ∀ mid m, start.Position is pre mid → Decoded mid m op os →
      Execs rest m.word ⟨address pre + 4, address (pre ++ [i, slot]), d⟩ ⟨address pre + 4, a, e⟩)
    (heff : effect e slot = some d') : Goes rest (At pre d) ⟨a, a + 4, d'⟩ := by
  have hone : address (pre ++ [i]) = address pre + 4 := by
    rw [address_append, bytes_of_decoding hi]
  have htwo : address (pre ++ [i, slot]) = address pre + 4 + 4 := by
    rw [show pre ++ [i, slot] = pre ++ [i] ++ [slot] by simp, address_append,
      bytes_of_decoding hslot, hone]
  have hsplit : is = pre ++ [i] ++ slot :: post := by
    rw [his]
    simp
  rw [htwo, ← hone] at hexec
  have htransfer : Goes rest (At pre d) ⟨address (pre ++ [i]), a, e⟩ := by
    refine h.goes_machine hsync his hi hcode fun mid m hmid hd => ?_
    rw [← hone]
    exact hexec mid m hmid hd
  exact htransfer.trans (h.goes_slot hsync hsplit hslot hcode' heff)

/-- A branch, `test` being its condition. -/
lemma goes_branch {op op' : Opcode} {os os' : List Operand} {test : Bool}
    (his : is = pre ++ i :: slot :: post) (hpq : is = p ++ q)
    (hi : i.machine.decoding = some (op, os)) (hslot : slot.machine.decoding = some (op', os'))
    (hcode : d.exe.loader = code) (hos : .offset l ∈ os)
    (hl : ∀ mid, start.Position is pre mid →
      mid.labelAddress l = .ok (endOf LOADER_ENTRY_ADDRESS p))
    (hexec : ∀ asm m off x n, Decoded asm m op os → asm.branchTarget l = .ok off →
      Execs rest m.word ⟨x, n, d⟩ ⟨x, if test then x + off.signExtend 32 <<< 2 else n, d.settle⟩)
    (heff : effect d.settle slot = some d') :
    Goes rest (At pre d) (if test then At p d' else At (pre ++ [i, slot]) d') := by
  have hword : ∀ mid m, start.Position is pre mid → Decoded mid m op os →
      Execs rest m.word ⟨address pre + 4, address (pre ++ [i, slot]), d⟩
        ⟨address pre + 4, if test then address p else address (pre ++ [i, slot]), d.settle⟩ := by
    intro mid m hmid hd
    obtain ⟨off, hoff, -⟩ := hd.found _ hos
    have hword := hexec mid m off (address pre + 4) (address (pre ++ [i, slot])) hd hoff
    rwa [h.branch_lands his hpq hmid (hl mid hmid) hoff] at hword
  have hbranch := h.goes_transfer (e := d.settle) hsync his hi hslot hcode hcode hword heff
  cases test with
  | true => exact hbranch
  | false => exact hbranch

/-- A branch over the instructions `skipped` if a register is zero. -/
lemma goes_beqz {skipped : List Asm.Instruction} {op : Opcode} {os : List Operand}
    (his : is = pre ++ .beqz r (.localName name 'f') :: slot ::
      (skipped ++ .localLabel name :: post))
    (hname : .localLabel name ∉ slot :: skipped) (hslot : slot.machine.decoding = some (op, os))
    (hcode : d.exe.loader = code) (heff : effect d.settle slot = some d') :
    Goes rest (At pre d) (if d.reg r.index == 0
      then At (pre ++ .beqz r (.localName name 'f') :: slot :: skipped) d'
      else At (pre ++ [.beqz r (.localName name 'f'), slot]) d') := by
  have hpq : is = (pre ++ .beqz r (.localName name 'f') :: slot :: skipped) ++
      .localLabel name :: post := by
    rw [his]
    simp
  refine h.goes_branch hsync his hpq rfl hslot hcode (l := .localName name 'f') (by simp)
    (fun mid hmid => ?_) (fun asm m off x n hd hoff => ?_) heff
  · rw [← location_start]
    exact Assembler.labelAddress_after h.noWrap hmid his rfl (List.cons_append ..).symm hname
  · have hbeq : Execs rest m.word ⟨x, n, d⟩ _ := execs_beq hd hoff
    rwa [show d.reg R0.index = 0 from d.regs.zero] at hbeq

/-- One round of a loop, whose branch back to its label stands before its last
instruction. -/
lemma goes_round {body : List Asm.Instruction} {op : Opcode} {os : List Operand} {d1 : Data}
    (his : is = pre ++ .localLabel name ::
      (body ++ .bne r s (.localName name 'b') :: slot :: post))
    (hname : .localLabel name ∉ body) (hslot : slot.machine.decoding = some (op, os))
    (hcode : d.exe.loader = code) (hbody : body.foldlM effect d = some d1)
    (heff : effect d1.settle slot = some d') :
    Goes rest (At pre d) (if d1.reg r.index != d1.reg s.index then At pre d'
      else
        At (pre ++ .localLabel name :: (body ++ [.bne r s (.localName name 'b'), slot])) d') := by
  have hsplit : is = (pre ++ .localLabel name :: body) ++
      .bne r s (.localName name 'b') :: slot :: post := by
    rw [his]
    simp
  have hblock : Goes rest (At pre d) (At (pre ++ .localLabel name :: body) d1) :=
    h.goes_block hsync (his.trans (congrArg (pre ++ ·) (List.cons_append ..).symm)) hcode hbody
  have hcode1 : d1.exe.loader = code := (loader_foldlM hbody).trans hcode
  have hbranch := h.goes_branch hsync hsplit his rfl hslot hcode1 (l := .localName name 'b')
    (by simp) (fun mid hmid => by
      rw [← location_start]
      exact Assembler.labelAddress_before h.noWrap hmid hsplit rfl rfl hname)
    (fun asm m off x n hd hoff => execs_bne (p := x) (n := n) hd hoff) heff
  refine hblock.trans ?_
  rw [show pre ++ .localLabel name :: (body ++ [.bne r s (.localName name 'b'), slot]) =
    (pre ++ .localLabel name :: body) ++ [.bne r s (.localName name 'b'), slot] by simp]
  exact hbranch

/-- A loop with an invariant, which numbers its rounds. -/
lemma goes_loop {body : List Asm.Instruction} {op : Opcode} {os : List Operand} {k : ℕ}
    {I : ℕ → Data → Prop} (his : is = pre ++ .localLabel name ::
      (body ++ .bne r s (.localName name 'b') :: slot :: post))
    (hname : .localLabel name ∉ body) (hslot : slot.machine.decoding = some (op, os))
    (hround : ∀ j < k, ∀ d, I j d → d.exe.loader = code ∧ ∃ d1 d',
      body.foldlM effect d = some d1 ∧ (d1.reg r.index = d1.reg s.index ↔ j + 1 = k) ∧
        effect d1.settle slot = some d' ∧ I (j + 1) d')
    (hk : 0 < k) (hd : I 0 d) : ∃ d', Goes rest (At pre d)
      (At (pre ++ .localLabel name :: (body ++ [.bne r s (.localName name 'b'), slot])) d') ∧
        I k d' := by
  obtain ⟨k, rfl⟩ : ∃ j, k = j + 1 := ⟨k - 1, by omega⟩
  -- all rounds but the last one branch back
  have hback : ∀ j < k, ∀ x, I j x → ∃ y, Goes rest (At pre x) (At pre y) ∧ I (j + 1) y := by
    intro j hj x hx
    obtain ⟨hcode, d1, y, hbody, htest, heff, hy⟩ := hround j (by omega) x hx
    have hgoes := h.goes_round hsync his hname hslot hcode hbody heff
    have hne : d1.reg r.index ≠ d1.reg s.index := mt htest.mp (by omega)
    rw [if_pos (bne_iff_ne.mpr hne)] at hgoes
    exact ⟨y, hgoes, hy⟩
  obtain ⟨x, hrounds, hx⟩ := Leads.loop hback hd
  obtain ⟨hcode, d1, d', hbody, htest, heff, hd'⟩ := hround k (by omega) x hx
  have hgoes := h.goes_round hsync his hname hslot hcode hbody heff
  rw [htest.mpr rfl, bne_self_eq_false, if_neg Bool.false_ne_true] at hgoes
  exact ⟨d', hrounds.trans hgoes, hd'⟩

omit hsync in
/-- A jump stays in KSEG1. -/
lemma jump_lands (his : is = pre ++ post) (hpq : is = p ++ q) :
    (address pre + (4 : U32)) &&& (0xf0000000 : U32) |||
      (endOf LOADER_ENTRY_ADDRESS p >>> 2 &&& 0x3ffffff) <<< 2 = address p := by
  have hhere := h.toNat_address his
  have hthere := h.toNat_address hpq
  have hlabel := h.toNat_endOf hpq
  have hsize := h.size his
  have hsize' := h.size hpq
  have hslot : (address pre + (4 : U32)).toNat = 0xbf000204 + sizeOf LOADER_ENTRY_ADDRESS pre := by
    rw [BitVec.toNat_add, hhere, show (4 : U32).toNat = 4 from rfl]
    omega
  -- the target does not depend on the segment of the label
  have htarget : endOf LOADER_ENTRY_ADDRESS p >>> 2 &&& (0x3ffffff : U32) =
      address p >>> 2 &&& 0x3ffffff := by
    refine BitVec.eq_of_toNat_eq ?_
    rw [BitVec.toNat_and_mask (k := 26) _ rfl, BitVec.toNat_and_mask (k := 26) _ rfl,
      BitVec.toNat_shift, BitVec.toNat_shift, hlabel, hthere]
    omega
  rw [htarget]
  exact (jump_target_iff (by omega)).mpr (by omega)

/-- A call of the function at a global label. -/
lemma goes_jal {op : Opcode} {os : List Operand}
    (his : is = pre ++ .jal (.globalName name) :: slot :: post)
    (hpq : is = p ++ .globalLabel name :: q) (hslot : slot.machine.decoding = some (op, os))
    (hcode : d.exe.loader = code)
    (heff : effect (d.put 31 (address (pre ++ [.jal (.globalName name), slot]))) slot = some d') :
    Goes rest (At pre d) (At p d') := by
  have hcode' : (d.put 31 (address (pre ++ [.jal (.globalName name), slot]))).exe.loader = code :=
    hcode
  refine h.goes_transfer hsync his rfl hslot hcode hcode' (fun mid m hmid hd => ?_) heff
  have hl : mid.labelAddress (.globalName name) = .ok (endOf LOADER_ENTRY_ADDRESS p) := by
    rw [← location_start]
    exact Assembler.labelAddress_global hmid hpq
  rw [← h.jump_lands his hpq]
  exact execs_jal hd (jumpTarget_eq hl)

/-- A jump to the address in a register. -/
lemma goes_jr {op : Opcode} {os : List Operand} (his : is = pre ++ .jr r :: slot :: post)
    (hslot : slot.machine.decoding = some (op, os)) (hcode : d.exe.loader = code)
    (heff : effect d.settle slot = some d') :
    Goes rest (At pre d) ⟨d.reg r.index, d.reg r.index + 4, d'⟩ :=
  h.goes_transfer (e := d.settle) hsync his rfl hslot hcode hcode (fun _ _ _ hd => execs_jr hd) heff

/-- A call of the function whose address is in a register. -/
lemma goes_jalr {op : Opcode} {os : List Operand} (his : is = pre ++ .jalr r s :: slot :: post)
    (hslot : slot.machine.decoding = some (op, os)) (hcode : d.exe.loader = code)
    (heff : effect (d.put r.index (address (pre ++ [.jalr r s, slot]))) slot = some d') :
    Goes rest (At pre d) ⟨d.reg s.index, d.reg s.index + 4, d'⟩ := by
  have hcode' : (d.put r.index (address (pre ++ [.jalr r s, slot]))).exe.loader = code := hcode
  exact h.goes_transfer hsync his rfl hslot hcode hcode' (fun _ _ _ hd => execs_jalr hd) heff

end Placed

end

end ExeLoader

end Rustation
