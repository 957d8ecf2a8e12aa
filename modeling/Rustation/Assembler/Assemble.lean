import Rustation.Assembler.Syntax

/-!
The assembler of `assembler.rs`: a first pass collects the addresses of the
labels, a second one emits the machine code.

Errors are the texts of the source.  The hash table of global labels is a
partial function; local labels are kept in the order of their definitions.

* `parseLabels`: the first pass;
* `assembleInstruction`: the second pass, on one instruction;
* `assemble`: both passes.
-/

namespace Rustation

namespace Asm

/-! ### State -/

structure Assembler where
  /-- currently generated machine code -/
  machineCode : List U8
  /-- address of the first instruction -/
  base : U32
  globals : String → Option U32
  /-- the local labels with their absolute address -/
  locals : List (U32 × String)

namespace Assembler

def fromBase (base : U32) : Assembler := ⟨[], base, fun _ => none, []⟩

def location (asm : Assembler) : U32 := asm.base + BitVec.ofNat 32 asm.machineCode.length

def emitByte (asm : Assembler) (b : U8) : Assembler :=
  { asm with machineCode := asm.machineCode ++ [b] }

def emitCode (asm : Assembler) (code : MachineCode) : Assembler :=
  let word := code.word
  let asm := asm.emitByte (word.setWidth 8)
  let asm := asm.emitByte ((word >>> 8).setWidth 8)
  let asm := asm.emitByte ((word >>> 16).setWidth 8)
  asm.emitByte ((word >>> 24).setWidth 8)

/-! ### Labels -/

/-- The loop of the first pass, `loc` being the address of the next instruction. -/
def parseFrom (loc : U32) : List Instruction → Assembler → Except String Assembler
  | [], asm => pure asm
  | .globalLabel name :: rest, asm =>
      if (asm.globals name).isSome then throw ("Global label '" ++ name ++ "' is redefined")
      else parseFrom loc rest { asm with globals := Function.update asm.globals name (some loc) }
  | .localLabel id :: rest, asm =>
      parseFrom loc rest { asm with locals := asm.locals ++ [(loc, id)] }
  | i :: rest, asm => parseFrom (loc + i.bytes loc) rest asm

/-- Collect the labels of the instructions. -/
def parseLabels (asm : Assembler) (instructions : List Instruction) : Except String Assembler :=
  parseFrom asm.location instructions asm

/-- The address a reference from `here` stands for. -/
def findLabel (globals : String → Option U32) (locals : List (U32 × String)) (here : U32)
    (label : Label) : Except String U32 :=
  match label with
  | .globalName l =>
      match globals l with
      | some v => pure v
      | none => throw ("Unknown global label '" ++ l ++ "'")
  | .localName l d => do
      let v ← match d with
        -- the closest label before and including here
        | 'b' => pure (locals.reverse.find? fun (addr, name) => addr ≤ here && l == name)
        -- the closest label after here
        | 'f' => pure (locals.find? fun (addr, name) => addr > here && l == name)
        | _ => throw ("Unknown local label direction '" ++ d.toString ++ "'")
      match v with
      | some (addr, _) => pure addr
      | none => throw ("Unknown local label '" ++ l ++ "'")
  | .absolute a => pure a

def labelAddress (asm : Assembler) (label : Label) : Except String U32 :=
  findLabel asm.globals asm.locals asm.location label

/-- The offset of a branch in words, relative to the next instruction. -/
def branchTarget (asm : Assembler) (label : Label) : Except String I16 := do
  let here := asm.location + 4
  let there ← asm.labelAddress label
  let delta : I16 := (there - here).setWidth 16
  pure (delta.sshiftRight 2)

def jumpTarget (asm : Assembler) (label : Label) : Except String U32 := do
  let there ← asm.labelAddress label
  pure (there >>> 2)

/-! ### Second pass -/

/-- Emit a branch, `code` being all but its offset. -/
def emitBranch (asm : Assembler) (code : MachineCode) (l : Label) : Except String Assembler := do
  let i ← asm.branchTarget l
  pure (asm.emitCode (code.immSe i))

/-- Emit a jump, `code` being all but its target. -/
def emitJump (asm : Assembler) (code : MachineCode) (l : Label) : Except String Assembler := do
  let i ← asm.jumpTarget l
  pure (asm.emitCode (code.immJump i))

/-- Assemble an instruction of the machine. -/
def assembleMachine (asm : Assembler) (instruction : Instruction) : Except String Assembler :=
  match instruction with
  | .sll r0 r1 shift => pure (asm.emitCode ((MachineCode.sub 0b000000).d r0 |>.t r1 |>.shift shift))
  | .srl r0 r1 shift => pure (asm.emitCode ((MachineCode.sub 0b000010).d r0 |>.t r1 |>.shift shift))
  | .sra r0 r1 shift => pure (asm.emitCode ((MachineCode.sub 0b000011).d r0 |>.t r1 |>.shift shift))
  | .sllv r0 r1 r2 => pure (asm.emitCode ((MachineCode.sub 0b000100).d r0 |>.t r1 |>.s r2))
  | .srlv r0 r1 r2 => pure (asm.emitCode ((MachineCode.sub 0b000110).d r0 |>.t r1 |>.s r2))
  | .srav r0 r1 r2 => pure (asm.emitCode ((MachineCode.sub 0b000111).d r0 |>.t r1 |>.s r2))
  | .jr r0 => pure (asm.emitCode ((MachineCode.sub 0b001000).s r0))
  | .jalr r0 r1 => pure (asm.emitCode ((MachineCode.sub 0b001001).d r0 |>.s r1))
  | .syscall v => pure (asm.emitCode ((MachineCode.sub 0b001100).sysBrk v))
  | .break v => pure (asm.emitCode ((MachineCode.sub 0b001101).sysBrk v))
  | .mfhi r0 => pure (asm.emitCode ((MachineCode.sub 0b010000).d r0))
  | .mthi r0 => pure (asm.emitCode ((MachineCode.sub 0b010001).s r0))
  | .mflo r0 => pure (asm.emitCode ((MachineCode.sub 0b010010).d r0))
  | .mtlo r0 => pure (asm.emitCode ((MachineCode.sub 0b010011).s r0))
  | .mult r0 r1 => pure (asm.emitCode ((MachineCode.sub 0b011000).s r0 |>.t r1))
  | .multu r0 r1 => pure (asm.emitCode ((MachineCode.sub 0b011001).s r0 |>.t r1))
  | .div r0 r1 => pure (asm.emitCode ((MachineCode.sub 0b011010).s r0 |>.t r1))
  | .divu r0 r1 => pure (asm.emitCode ((MachineCode.sub 0b011011).s r0 |>.t r1))
  | .add r0 r1 r2 => pure (asm.emitCode ((MachineCode.sub 0b100000).d r0 |>.s r1 |>.t r2))
  | .addu r0 r1 r2 => pure (asm.emitCode ((MachineCode.sub 0b100001).d r0 |>.s r1 |>.t r2))
  | .sub r0 r1 r2 => pure (asm.emitCode ((MachineCode.sub 0b100010).d r0 |>.s r1 |>.t r2))
  | .subu r0 r1 r2 => pure (asm.emitCode ((MachineCode.sub 0b100011).d r0 |>.s r1 |>.t r2))
  | .and r0 r1 r2 => pure (asm.emitCode ((MachineCode.sub 0b100100).d r0 |>.s r1 |>.t r2))
  | .or r0 r1 r2 => pure (asm.emitCode ((MachineCode.sub 0b100101).d r0 |>.s r1 |>.t r2))
  | .xor r0 r1 r2 => pure (asm.emitCode ((MachineCode.sub 0b100110).d r0 |>.s r1 |>.t r2))
  | .nor r0 r1 r2 => pure (asm.emitCode ((MachineCode.sub 0b100111).d r0 |>.s r1 |>.t r2))
  | .slt r0 r1 r2 => pure (asm.emitCode ((MachineCode.sub 0b101010).d r0 |>.s r1 |>.t r2))
  | .sltu r0 r1 r2 => pure (asm.emitCode ((MachineCode.sub 0b101011).d r0 |>.s r1 |>.t r2))
  | .bgez r0 l =>
      asm.emitBranch ((MachineCode.op 0b000001).isLink false |>.isBgez true |>.s r0) l
  | .bltz r0 l =>
      asm.emitBranch ((MachineCode.op 0b000001).isLink false |>.isBgez false |>.s r0) l
  | .bgezal r0 l =>
      asm.emitBranch ((MachineCode.op 0b000001).isLink true |>.isBgez true |>.s r0) l
  | .bltzal r0 l =>
      asm.emitBranch ((MachineCode.op 0b000001).isLink true |>.isBgez false |>.s r0) l
  | .j l => asm.emitJump (.op 0b000010) l
  | .jal l => asm.emitJump (.op 0b000011) l
  | .beq r0 r1 l => asm.emitBranch ((MachineCode.op 0b000100).s r0 |>.t r1) l
  | .bne r0 r1 l => asm.emitBranch ((MachineCode.op 0b000101).s r0 |>.t r1) l
  | .blez r0 l => asm.emitBranch ((MachineCode.op 0b000110).s r0) l
  | .bgtz r0 l => asm.emitBranch ((MachineCode.op 0b000111).s r0) l
  | .addi r0 r1 i => pure (asm.emitCode ((MachineCode.op 0b001000).t r0 |>.s r1 |>.immSe i))
  | .addiu r0 r1 i => pure (asm.emitCode ((MachineCode.op 0b001001).t r0 |>.s r1 |>.immSe i))
  | .slti r0 r1 i => pure (asm.emitCode ((MachineCode.op 0b001010).t r0 |>.s r1 |>.immSe i))
  | .sltiu r0 r1 i => pure (asm.emitCode ((MachineCode.op 0b001011).t r0 |>.s r1 |>.immSe i))
  | .andi r0 r1 u => pure (asm.emitCode ((MachineCode.op 0b001100).t r0 |>.s r1 |>.imm u))
  | .ori r0 r1 u => pure (asm.emitCode ((MachineCode.op 0b001101).t r0 |>.s r1 |>.imm u))
  | .xori r0 r1 u => pure (asm.emitCode ((MachineCode.op 0b001110).t r0 |>.s r1 |>.imm u))
  | .lui r0 u => pure (asm.emitCode ((MachineCode.op 0b001111).t r0 |>.imm u))
  | .lb r0 r1 i => pure (asm.emitCode ((MachineCode.op 0b100000).t r0 |>.s r1 |>.immSe i))
  | .lh r0 r1 i => pure (asm.emitCode ((MachineCode.op 0b100001).t r0 |>.s r1 |>.immSe i))
  | .lwl r0 r1 i => pure (asm.emitCode ((MachineCode.op 0b100010).t r0 |>.s r1 |>.immSe i))
  | .lw r0 r1 i => pure (asm.emitCode ((MachineCode.op 0b100011).t r0 |>.s r1 |>.immSe i))
  | .lbu r0 r1 i => pure (asm.emitCode ((MachineCode.op 0b100100).t r0 |>.s r1 |>.immSe i))
  | .lhu r0 r1 i => pure (asm.emitCode ((MachineCode.op 0b100101).t r0 |>.s r1 |>.immSe i))
  | .lwr r0 r1 i => pure (asm.emitCode ((MachineCode.op 0b100110).t r0 |>.s r1 |>.immSe i))
  | .sb r0 r1 i => pure (asm.emitCode ((MachineCode.op 0b101000).t r0 |>.s r1 |>.immSe i))
  | .sh r0 r1 i => pure (asm.emitCode ((MachineCode.op 0b101001).t r0 |>.s r1 |>.immSe i))
  | .swl r0 r1 i => pure (asm.emitCode ((MachineCode.op 0b101010).t r0 |>.s r1 |>.immSe i))
  | .sw r0 r1 i => pure (asm.emitCode ((MachineCode.op 0b101011).t r0 |>.s r1 |>.immSe i))
  | .swr r0 r1 i => pure (asm.emitCode ((MachineCode.op 0b101110).t r0 |>.s r1 |>.immSe i))
  | .mfc0 r0 copR =>
      pure (asm.emitCode ((MachineCode.op 0b010000).copOpcode 0b00000 |>.t r0 |>.copR copR))
  | .mtc0 r0 copR =>
      pure (asm.emitCode ((MachineCode.op 0b010000).copOpcode 0b00100 |>.t r0 |>.copR copR))
  -- labels have been handled by the first pass
  | _ => pure asm

/-- Assemble an instruction, pseudo-instructions by the ones they stand for. -/
def assembleInstruction (asm : Assembler) (instruction : Instruction) : Except String Assembler :=
  match instruction with
  | .align o => pure ((List.replicate (padToOrder asm.location o).toNat 0).foldl emitByte asm)
  | .nop => asm.assembleMachine (.sll R0 R0 0)
  | .move r0 r1 => asm.assembleMachine (.addu r0 r1 R0)
  | .li r0 v =>
      let hi : U16 := (v >>> 16).setWidth 16
      let lo : U16 := v.setWidth 16
      if hi ≠ 0 then do
        let asm ← asm.assembleMachine (.lui r0 hi)
        if lo ≠ 0 then asm.assembleMachine (.ori r0 r0 lo) else pure asm
      else asm.assembleMachine (.ori r0 R0 lo)
  | .la r0 l => do
      let loc ← asm.labelAddress l
      let hi : U16 := (loc >>> 16).setWidth 16
      let lo : U16 := loc.setWidth 16
      let asm ← asm.assembleMachine (.lui r0 hi)
      asm.assembleMachine (.ori r0 r0 lo)
  | .b l => asm.assembleMachine (.beq R0 R0 l)
  | .beqz r0 l => asm.assembleMachine (.beq r0 R0 l)
  | .bnez r0 l => asm.assembleMachine (.bne r0 R0 l)
  | i => asm.assembleMachine i

/-- Assemble the instructions after those assembled before.  Returns the size of
the generated machine code. -/
def assemble (asm : Assembler) (instructions : List Instruction) :
    Except String (U32 × Assembler) := do
  let startLoc := asm.location
  let asm : Assembler := { asm with locals := [] }
  let asm ← asm.parseLabels instructions
  let asm ← instructions.foldlM assembleInstruction asm
  pure (asm.location - startLoc, asm)

end Assembler

end Asm

end Rustation
