import Rustation.Lib.Word

/-!
The language of the assembler (`assembler.rs`, module `syntax`): registers,
labels, instructions and pseudo-instructions, and the machine code they are put
together from.

* `Instruction.bytes`: the length of an instruction at an address, which the
  first pass of the assembler goes by;
* `MachineCode`: an instruction word that is built field by field.
-/

namespace Rustation

namespace Asm

/-! ### Registers and labels -/

structure Register where
  number : U8
  deriving DecidableEq, Repr

def R0 : Register := ⟨0⟩
def T0 : Register := ⟨8⟩
def T1 : Register := ⟨9⟩
def T2 : Register := ⟨10⟩
def T3 : Register := ⟨11⟩
def T5 : Register := ⟨13⟩
def GP : Register := ⟨28⟩
def SP : Register := ⟨29⟩
def FP : Register := ⟨30⟩
def RA : Register := ⟨31⟩

/-- A reference to an address. -/
inductive Label where
  /-- a label that can be redefined, and the direction to look for it in -/
  | localName (name : String) (direction : Char)
  | globalName (name : String)
  | absolute (address : U32)
  deriving DecidableEq, Repr

/-! ### Instructions -/

inductive Instruction where
  | sll (r0 r1 : Register) (shift : U8)
  | srl (r0 r1 : Register) (shift : U8)
  | sra (r0 r1 : Register) (shift : U8)
  | sllv (r0 r1 r2 : Register)
  | srlv (r0 r1 r2 : Register)
  | srav (r0 r1 r2 : Register)
  | jr (r0 : Register)
  | jalr (r0 r1 : Register)
  | syscall (v : U32)
  | break (v : U32)
  | mfhi (r0 : Register)
  | mthi (r0 : Register)
  | mflo (r0 : Register)
  | mtlo (r0 : Register)
  | mult (r0 r1 : Register)
  | multu (r0 r1 : Register)
  | div (r0 r1 : Register)
  | divu (r0 r1 : Register)
  | add (r0 r1 r2 : Register)
  | addu (r0 r1 r2 : Register)
  | sub (r0 r1 r2 : Register)
  | subu (r0 r1 r2 : Register)
  | and (r0 r1 r2 : Register)
  | or (r0 r1 r2 : Register)
  | xor (r0 r1 r2 : Register)
  | nor (r0 r1 r2 : Register)
  | slt (r0 r1 r2 : Register)
  | sltu (r0 r1 r2 : Register)
  | bgez (r0 : Register) (l : Label)
  | bltz (r0 : Register) (l : Label)
  | bgezal (r0 : Register) (l : Label)
  | bltzal (r0 : Register) (l : Label)
  | j (l : Label)
  | jal (l : Label)
  | beq (r0 r1 : Register) (l : Label)
  | bne (r0 r1 : Register) (l : Label)
  | blez (r0 : Register) (l : Label)
  | bgtz (r0 : Register) (l : Label)
  | addi (r0 r1 : Register) (i : I16)
  | addiu (r0 r1 : Register) (i : I16)
  | slti (r0 r1 : Register) (i : I16)
  | sltiu (r0 r1 : Register) (i : I16)
  | andi (r0 r1 : Register) (u : U16)
  | ori (r0 r1 : Register) (u : U16)
  | xori (r0 r1 : Register) (u : U16)
  | lui (r0 : Register) (u : U16)
  | lb (r0 r1 : Register) (i : I16)
  | lh (r0 r1 : Register) (i : I16)
  | lwl (r0 r1 : Register) (i : I16)
  | lw (r0 r1 : Register) (i : I16)
  | lbu (r0 r1 : Register) (i : I16)
  | lhu (r0 r1 : Register) (i : I16)
  | lwr (r0 r1 : Register) (i : I16)
  | sb (r0 r1 : Register) (i : I16)
  | sh (r0 r1 : Register) (i : I16)
  | swl (r0 r1 : Register) (i : I16)
  | sw (r0 r1 : Register) (i : I16)
  | swr (r0 r1 : Register) (i : I16)
  | mfc0 (r0 : Register) (copR : U8)
  | mtc0 (r0 : Register) (copR : U8)
  /-- definition of a label that cannot be redefined -/
  | globalLabel (name : String)
  /-- definition of a label that can be redefined -/
  | localLabel (name : String)
  /-- padding up to a multiple of a power of two -/
  | align (order : U8)
  | nop
  | move (r0 r1 : Register)
  /-- load immediate, one instruction or two -/
  | li (r0 : Register) (v : U32)
  /-- load address, always two instructions -/
  | la (r0 : Register) (l : Label)
  | b (l : Label)
  | beqz (r0 : Register) (l : Label)
  | bnez (r0 : Register) (l : Label)
  deriving DecidableEq, Repr

/-- The number of bytes from `loc` to the next multiple of `1 << order`. -/
def padToOrder (loc : U32) (order : U8) : U32 :=
  let mask := 1#32 <<< order - 1
  (~~~loc + 1) &&& mask

/-- Length of the instruction in bytes. -/
def Instruction.bytes (i : Instruction) (here : U32) : U32 :=
  match i with
  | .localLabel _ | .globalLabel _ => 0
  | .li _ v =>
      let b : U32 := if v &&& 0xffff0000 ≠ 0 then 4 else 0
      if v &&& 0xffff ≠ 0 ∨ v = 0 then b + 4 else b
  | .la .. => 8
  | .align o => padToOrder here o
  | _ => 4

/-! ### Machine code -/

structure MachineCode where
  word : U32
  deriving DecidableEq, Repr

namespace MachineCode

def op (op : U8) : MachineCode := ⟨op.setWidth 32 <<< 26⟩

def sub (op : U8) : MachineCode := ⟨op.setWidth 32⟩

/-- Add the bits of a field. -/
def field (m : MachineCode) (v : U32) (lo : ℕ) : MachineCode := ⟨m.word ||| v <<< lo⟩

def copOpcode (m : MachineCode) (op : U32) : MachineCode := m.field op 21

def s (m : MachineCode) (r : Register) : MachineCode := m.field (r.number.setWidth 32) 21

def t (m : MachineCode) (r : Register) : MachineCode := m.field (r.number.setWidth 32) 16

def d (m : MachineCode) (r : Register) : MachineCode := m.field (r.number.setWidth 32) 11

def copR (m : MachineCode) (copR : U8) : MachineCode := m.field (copR.setWidth 32) 11

def shift (m : MachineCode) (s : U8) : MachineCode := m.field (s.setWidth 32) 6

def sysBrk (m : MachineCode) (v : U32) : MachineCode := m.field (v &&& 0xfffff) 6

def isLink (m : MachineCode) (isLink : Bool) : MachineCode := m.field (if isLink then 1 else 0) 20

def isBgez (m : MachineCode) (isBgez : Bool) : MachineCode := m.field (if isBgez then 1 else 0) 16

def imm (m : MachineCode) (v : U16) : MachineCode := m.field (v.setWidth 32) 0

def immSe (m : MachineCode) (v : I16) : MachineCode := m.field (v.setWidth 32) 0

def immJump (m : MachineCode) (v : U32) : MachineCode := m.field (v &&& 0x3ffffff) 0

end MachineCode

end Asm

end Rustation
