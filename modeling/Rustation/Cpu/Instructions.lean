import Rustation.Cpu.State

/-!
The instructions of the CPU (`cpu/mod.rs`): one handler for each opcode, the
decoder, and the step `runNextInstruction`.

Families of handlers that differ in an operation, a register field or an access
width are instances of one definition: `writeBack` for results that go to a
register, `branchIf` for conditional branches, `setHiLo` for products and
quotients, `loadTo` and `loadAligned` for loads, `storeAligned` for stores,
`coprocessorUnusable` for the coprocessors the console does not have.

The debugger is the one that does nothing.
-/

namespace Rustation

open Fallible

/-! ### Decoding -/

/-- The instructions that are told apart by the function and subfunction fields. -/
inductive Opcode where
  | sll | srl | sra | sllv | srlv | srav | jr | jalr | syscall | break | mfhi | mthi | mflo | mtlo
  | mult | multu | div | divu | add | addu | sub | subu | and | or | xor | nor | slt | sltu | bxx
  | j | jal | beq | bne | blez | bgtz | addi | addiu | slti | sltiu | andi | ori | xori | lui | cop0
  | cop1 | cop2 | cop3 | lb | lh | lwl | lw | lbu | lhu | lwr | sb | sh | swl | sw | swr | lwc0
  | lwc1 | lwc2 | lwc3 | swc0 | swc1 | swc2 | swc3 | illegal
  deriving DecidableEq, Repr

/-- The instructions with function 0. -/
def Opcode.special (subfunction : ℕ) : Opcode :=
  match subfunction with
  | 0b000000 => sll
  | 0b000010 => srl
  | 0b000011 => sra
  | 0b000100 => sllv
  | 0b000110 => srlv
  | 0b000111 => srav
  | 0b001000 => jr
  | 0b001001 => jalr
  | 0b001100 => syscall
  | 0b001101 => .break
  | 0b010000 => mfhi
  | 0b010001 => mthi
  | 0b010010 => mflo
  | 0b010011 => mtlo
  | 0b011000 => mult
  | 0b011001 => multu
  | 0b011010 => div
  | 0b011011 => divu
  | 0b100000 => add
  | 0b100001 => addu
  | 0b100010 => sub
  | 0b100011 => subu
  | 0b100100 => and
  | 0b100101 => or
  | 0b100110 => xor
  | 0b100111 => nor
  | 0b101010 => slt
  | 0b101011 => sltu
  | _ => illegal

/-- The instruction of a word. -/
def Instruction.opcode (i : Instruction) : Opcode :=
  match i.function.toNat with
  | 0b000000 => .special i.subfunction.toNat
  | 0b000001 => .bxx
  | 0b000010 => .j
  | 0b000011 => .jal
  | 0b000100 => .beq
  | 0b000101 => .bne
  | 0b000110 => .blez
  | 0b000111 => .bgtz
  | 0b001000 => .addi
  | 0b001001 => .addiu
  | 0b001010 => .slti
  | 0b001011 => .sltiu
  | 0b001100 => .andi
  | 0b001101 => .ori
  | 0b001110 => .xori
  | 0b001111 => .lui
  | 0b010000 => .cop0
  | 0b010001 => .cop1
  | 0b010010 => .cop2
  | 0b010011 => .cop3
  | 0b100000 => .lb
  | 0b100001 => .lh
  | 0b100010 => .lwl
  | 0b100011 => .lw
  | 0b100100 => .lbu
  | 0b100101 => .lhu
  | 0b100110 => .lwr
  | 0b101000 => .sb
  | 0b101001 => .sh
  | 0b101010 => .swl
  | 0b101011 => .sw
  | 0b101110 => .swr
  | 0b110000 => .lwc0
  | 0b110001 => .lwc1
  | 0b110010 => .lwc2
  | 0b110011 => .lwc3
  | 0b111000 => .swc0
  | 0b111001 => .swc1
  | 0b111010 => .swc2
  | 0b111011 => .swc3
  | _ => .illegal

namespace Cpu

variable {δ : Type}

/-! ### Results in a register -/

/-- Execute the pending load, then write `v` to a register. -/
def writeBack (c : Cpu δ) (index : RegisterIndex) (v : U32) : Cpu δ := c.delayedLoad.setReg index v

/-- A truth value as a word. -/
def boolWord (b : Bool) : U32 := if b then 1 else 0

def opSll (i : Instruction) (c : Cpu δ) : Cpu δ := c.writeBack i.d (c.reg i.t <<< i.shift)

def opSrl (i : Instruction) (c : Cpu δ) : Cpu δ := c.writeBack i.d (c.reg i.t >>> i.shift)

def opSra (i : Instruction) (c : Cpu δ) : Cpu δ :=
  c.writeBack i.d ((c.reg i.t).sshiftRight i.shift.toNat)

-- the shift amount is truncated to 5 bits
def opSllv (i : Instruction) (c : Cpu δ) : Cpu δ :=
  c.writeBack i.d (c.reg i.t <<< (c.reg i.s &&& 0x1f))

def opSrlv (i : Instruction) (c : Cpu δ) : Cpu δ :=
  c.writeBack i.d (c.reg i.t >>> (c.reg i.s &&& 0x1f))

def opSrav (i : Instruction) (c : Cpu δ) : Cpu δ :=
  c.writeBack i.d ((c.reg i.t).sshiftRight (c.reg i.s &&& 0x1f).toNat)

def opMfhi (i : Instruction) (c : Cpu δ) : Cpu δ := c.writeBack i.d c.hi

def opMflo (i : Instruction) (c : Cpu δ) : Cpu δ := c.writeBack i.d c.lo

def opAddu (i : Instruction) (c : Cpu δ) : Cpu δ := c.writeBack i.d (c.reg i.s + c.reg i.t)

def opSubu (i : Instruction) (c : Cpu δ) : Cpu δ := c.writeBack i.d (c.reg i.s - c.reg i.t)

def opAnd (i : Instruction) (c : Cpu δ) : Cpu δ := c.writeBack i.d (c.reg i.s &&& c.reg i.t)

def opOr (i : Instruction) (c : Cpu δ) : Cpu δ := c.writeBack i.d (c.reg i.s ||| c.reg i.t)

def opXor (i : Instruction) (c : Cpu δ) : Cpu δ := c.writeBack i.d (c.reg i.s ^^^ c.reg i.t)

def opNor (i : Instruction) (c : Cpu δ) : Cpu δ := c.writeBack i.d (~~~(c.reg i.s ||| c.reg i.t))

def opSlt (i : Instruction) (c : Cpu δ) : Cpu δ :=
  c.writeBack i.d (boolWord ((c.reg i.s).slt (c.reg i.t)))

def opSltu (i : Instruction) (c : Cpu δ) : Cpu δ :=
  c.writeBack i.d (boolWord ((c.reg i.s).ult (c.reg i.t)))

def opAddiu (i : Instruction) (c : Cpu δ) : Cpu δ := c.writeBack i.t (c.reg i.s + i.immSe)

def opSlti (i : Instruction) (c : Cpu δ) : Cpu δ :=
  c.writeBack i.t (boolWord ((c.reg i.s).slt i.immSe))

def opSltiu (i : Instruction) (c : Cpu δ) : Cpu δ :=
  c.writeBack i.t (boolWord ((c.reg i.s).ult i.immSe))

def opAndi (i : Instruction) (c : Cpu δ) : Cpu δ := c.writeBack i.t (c.reg i.s &&& i.imm)

def opOri (i : Instruction) (c : Cpu δ) : Cpu δ := c.writeBack i.t (c.reg i.s ||| i.imm)

def opXori (i : Instruction) (c : Cpu δ) : Cpu δ := c.writeBack i.t (c.reg i.s ^^^ i.imm)

def opLui (i : Instruction) (c : Cpu δ) : Cpu δ := c.writeBack i.t (i.imm <<< 16)

/-- The word of a signed result, if it fits. -/
def checked (v : ℤ) : Option U32 :=
  if -0x80000000 ≤ v ∧ v ≤ 0x7fffffff then some (BitVec.ofInt 32 v) else none

/-- Execute the pending load, then write the result or raise an overflow. -/
def writeBackChecked (c : Cpu δ) (index : RegisterIndex) (v : Option U32) : Cpu δ :=
  match v with
  | some v => c.delayedLoad.setReg index v
  | none => c.delayedLoad.exception .overflow

def opAdd (i : Instruction) (c : Cpu δ) : Cpu δ :=
  c.writeBackChecked i.d (checked ((c.reg i.s).toInt + (c.reg i.t).toInt))

def opSub (i : Instruction) (c : Cpu δ) : Cpu δ :=
  c.writeBackChecked i.d (checked ((c.reg i.s).toInt - (c.reg i.t).toInt))

def opAddi (i : Instruction) (c : Cpu δ) : Cpu δ :=
  c.writeBackChecked i.t (checked ((c.reg i.s).toInt + i.immSe.toInt))

/-! ### HI and LO -/

def opMthi (i : Instruction) (c : Cpu δ) : Cpu δ :=
  delayedLoad { c with hi := c.reg i.s }

def opMtlo (i : Instruction) (c : Cpu δ) : Cpu δ :=
  delayedLoad { c with lo := c.reg i.s }

/-- Execute the pending load, then set both registers. -/
def setHiLo (c : Cpu δ) (hi lo : U32) : Cpu δ := { c.delayedLoad with hi := hi, lo := lo }

def opMult (i : Instruction) (c : Cpu δ) : Cpu δ :=
  let v := (c.reg i.s).signExtend 64 * (c.reg i.t).signExtend 64
  c.setHiLo ((v >>> 32).setWidth 32) (v.setWidth 32)

def opMultu (i : Instruction) (c : Cpu δ) : Cpu δ :=
  let v := (c.reg i.s).setWidth 64 * (c.reg i.t).setWidth 64
  c.setHiLo ((v >>> 32).setWidth 32) (v.setWidth 32)

/-- Remainder and quotient of a signed division. -/
def signedQuotient (n d : U32) : U32 × U32 :=
  -- division by zero, results are bogus
  if d = 0 then (n, if n.toInt ≥ 0 then 0xffffffff else 1)
  -- the quotient is not representable
  else if n = 0x80000000 ∧ d.toInt = -1 then (0, 0x80000000)
  else (n.srem d, n.sdiv d)

/-- Remainder and quotient of an unsigned division. -/
def unsignedQuotient (n d : U32) : U32 × U32 := if d = 0 then (n, 0xffffffff) else (n % d, n / d)

def opDiv (i : Instruction) (c : Cpu δ) : Cpu δ :=
  let (hi, lo) := signedQuotient (c.reg i.s) (c.reg i.t)
  c.setHiLo hi lo

def opDivu (i : Instruction) (c : Cpu δ) : Cpu δ :=
  let (hi, lo) := unsignedQuotient (c.reg i.s) (c.reg i.t)
  c.setHiLo hi lo

/-! ### Branches and jumps -/

/-- Branch if the test succeeds, then execute the pending load. -/
def branchIf (c : Cpu δ) (test : Bool) (i : Instruction) : Cpu δ :=
  (if test then c.branchTo i.immSe else c).delayedLoad

def opBeq (i : Instruction) (c : Cpu δ) : Cpu δ := c.branchIf (c.reg i.s == c.reg i.t) i

def opBne (i : Instruction) (c : Cpu δ) : Cpu δ := c.branchIf (c.reg i.s != c.reg i.t) i

def opBlez (i : Instruction) (c : Cpu δ) : Cpu δ := c.branchIf ((c.reg i.s).toInt ≤ 0) i

def opBgtz (i : Instruction) (c : Cpu δ) : Cpu δ := c.branchIf ((c.reg i.s).toInt > 0) i

/-- The link is requested if bit 20 is set and no bit of 19 to 17. -/
def isLink (i : Instruction) : Bool := i.word >>> 17 &&& 0xf == 0x8

/-- BGEZ, BLTZ, BGEZAL and BLTZAL, told apart by bits 20 to 16. -/
def opBxx (i : Instruction) (c : Cpu δ) : Cpu δ :=
  let isBgez := i.word >>> 16 &&& 1
  let test := boolWord ((c.reg i.s).toInt < 0) ^^^ isBgez
  let c := c.delayedLoad
  -- the link occurs even if the branch is not taken
  let c := if isLink i then c.setReg 31 c.nextPc else c
  if test ≠ 0 then c.branchTo i.immSe else c

def opJr (i : Instruction) (c : Cpu δ) : Cpu δ :=
  let c := { c with nextPc := c.reg i.s }
  { c.delayedLoad with branch := true }

def opJalr (i : Instruction) (c : Cpu δ) : Cpu δ :=
  let ra := c.nextPc
  let c := { c with nextPc := c.reg i.s }
  { c.delayedLoad.setReg i.d ra with branch := true }

def opJ (i : Instruction) (c : Cpu δ) : Cpu δ :=
  let c := { c with nextPc := c.pc &&& 0xf0000000 ||| i.immJump <<< 2, branch := true }
  c.delayedLoad

def opJal (i : Instruction) (c : Cpu δ) : Cpu δ :=
  let ra := c.nextPc
  { (opJ i c).setReg 31 ra with branch := true }

/-! ### Traps -/

def opIllegal (c : Cpu δ) : Cpu δ := c.delayedLoad.exception .illegalInstruction

def opSyscall (c : Cpu δ) : Cpu δ := c.delayedLoad.exception .sysCall

def opBreak (c : Cpu δ) : Cpu δ :=
  let c := c.delayedLoad
  if c.debugOnBreak then c else c.exception .break

/-- COP1 and COP3, and the loads and stores of the coprocessors 0, 1 and 3. -/
def coprocessorUnusable (c : Cpu δ) : Cpu δ := c.delayedLoad.exception .coprocessorError

/-! ### Coprocessor 0 -/

/-- Value of the processor ID register. -/
def PROCESSOR_ID : U32 := 0x00000002

/-- The value of a coprocessor 0 register. -/
def cop0Value (cop0 : Cop0) (sh : SharedState) (copR : RegisterIndex) : Outcome U32 :=
  match copR.val with
  -- JUMP_DEST, DCIC and BAD_VADDR are not implemented
  | 6 | 7 | 8 => pure 0
  | 12 => pure cop0.sr
  | 13 => pure (cop0.causeWith sh.irqState)
  | 14 => pure cop0.epc
  | 15 => pure PROCESSOR_ID
  | _ => throw (.panic "Unhandled read from cop0 register")

/-- Move from coprocessor 0, as a delayed load. -/
def opMfc0 (i : Instruction) (c : Cpu δ) (sh : SharedState) : Outcome (Cpu δ) := do
  let v ← cop0Value c.cop0 sh i.d
  pure (c.delayedLoadChain i.t v)

/-- Write a coprocessor 0 register. -/
def setCop0 (cop0 : Cop0) (copR : RegisterIndex) (v : U32) : Outcome Cop0 :=
  match copR.val with
  -- breakpoint registers
  | 3 | 5 | 6 | 7 | 9 | 11 =>
      if v ≠ 0 then throw (.panic "Unhandled write to cop0 register") else pure cop0
  | 12 => pure (cop0.setSr v)
  | 13 => pure (cop0.setCause v)
  | _ => throw (.panic "Unhandled cop0 register")

/-- Move to coprocessor 0. -/
def opMtc0 (i : Instruction) (c : Cpu δ) : Outcome (Cpu δ) := do
  let v := c.reg i.t
  let c := c.delayedLoad
  let cop0 ← setCop0 c.cop0 i.d v
  pure { c with cop0 := cop0 }

/-- Return from exception. -/
def opRfe (i : Instruction) (c : Cpu δ) : Outcome (Cpu δ) :=
  let c := c.delayedLoad
  if i.word &&& 0x3f ≠ 0b010000 then throw (.panic "Invalid cop0 instruction")
  else pure { c with cop0 := c.cop0.returnFromException }

def opCop0 (i : Instruction) (c : Cpu δ) (sh : SharedState) : Outcome (Cpu δ) :=
  match i.copOpcode.toNat with
  | 0b00000 => opMfc0 i c sh
  | 0b00100 => opMtc0 i c
  | 0b10000 => opRfe i c
  | _ => throw (.panic "unhandled cop0 instruction")

/-! ### Coprocessor 2 -/

/-- The number of a coprocessor register. -/
def copRegister (index : RegisterIndex) : U32 := BitVec.ofNat 32 index.val

def opMfc2 (i : Instruction) (c : Cpu δ) : Outcome (Cpu δ) := do
  let v ← c.gte.data (copRegister i.d)
  pure (c.delayedLoadChain i.t v)

def opCfc2 (i : Instruction) (c : Cpu δ) : Outcome (Cpu δ) := do
  let v ← c.gte.control (copRegister i.d)
  pure (c.delayedLoadChain i.t v)

def opMtc2 (i : Instruction) (c : Cpu δ) : Outcome (Cpu δ) := do
  let v := c.reg i.t
  let c := c.delayedLoad
  let gte ← c.gte.setData (copRegister i.d) v
  pure { c with gte := gte }

def opCtc2 (i : Instruction) (c : Cpu δ) : Outcome (Cpu δ) := do
  let v := c.reg i.t
  let c := c.delayedLoad
  let gte ← c.gte.setControl (copRegister i.d) v
  pure { c with gte := gte }

/-- A command of the Geometry Transform Engine.  The pending load is left
alone. -/
def gteCommand (i : Instruction) (c : Cpu δ) : Outcome (Cpu δ) := do
  let gte ← c.gte.command i.word
  pure { c with gte := gte }

def opCop2 (i : Instruction) (c : Cpu δ) : Outcome (Cpu δ) :=
  if i.copOpcode &&& 0x10 ≠ 0 then gteCommand i c
  else
    match i.copOpcode.toNat with
    | 0b00000 => opMfc2 i c
    | 0b00010 => opCfc2 i c
    | 0b00100 => opMtc2 i c
    | 0b00110 => opCtc2 i c
    | _ => throw (.panic "unhandled GTE instruction")

/-! ### Loads -/

variable (dev : Devices δ)

/-- The effective address of a load or store. -/
def address (c : Cpu δ) (i : Instruction) : U32 := c.reg i.s + i.immSe

/-- Load from `addr` and start a delayed load of the value. -/
def loadTo (width : Width) (extend : U32 → U32) (i : Instruction) (c : Cpu δ) (sh : SharedState) :
    Outcome (Cpu δ × SharedState) := do
  let (v, c, sh) ← c.memLoad dev width sh (c.address i)
  pure (c.delayedLoadChain i.t (extend v), sh)

/-- A load that must be aligned to its width. -/
def loadAligned (width : Width) (extend : U32 → U32) (i : Instruction) (c : Cpu δ)
    (sh : SharedState) : Outcome (Cpu δ × SharedState) :=
  if (c.address i).toNat % width.size = 0 then loadTo dev width extend i c sh
  else pure (c.delayedLoad.exception .loadAddressError, sh)

def opLb (i : Instruction) (c : Cpu δ) (sh : SharedState) : Outcome (Cpu δ × SharedState) :=
  loadTo dev .byte (fun v => (v.setWidth 8).signExtend 32) i c sh

def opLbu (i : Instruction) (c : Cpu δ) (sh : SharedState) : Outcome (Cpu δ × SharedState) :=
  loadTo dev .byte id i c sh

def opLh (i : Instruction) (c : Cpu δ) (sh : SharedState) : Outcome (Cpu δ × SharedState) :=
  loadAligned dev .halfWord (fun v => (v.setWidth 16).signExtend 32) i c sh

def opLhu (i : Instruction) (c : Cpu δ) (sh : SharedState) : Outcome (Cpu δ × SharedState) :=
  loadAligned dev .halfWord id i c sh

def opLw (i : Instruction) (c : Cpu δ) (sh : SharedState) : Outcome (Cpu δ × SharedState) :=
  loadAligned dev .word id i c sh

/-- The value of a register, or the one being loaded into it. -/
def pendingOr (c : Cpu δ) (index : RegisterIndex) : U32 :=
  if c.load.1 = index then c.load.2 else c.reg index

/-- Load the aligned word around an address and merge it with the target, which
bypasses the load delay. -/
def loadUnaligned (merge : U32 → U32 → U32 → U32) (i : Instruction) (c : Cpu δ)
    (sh : SharedState) : Outcome (Cpu δ × SharedState) := do
  let addr := c.address i
  let curV := c.pendingOr i.t
  let (alignedWord, c, sh) ← c.memLoad dev .word sh (addr &&& ~~~3#32)
  pure (c.delayedLoadChain i.t (merge addr curV alignedWord), sh)

/-- The most significant bytes of a word, loaded. -/
def mergeLwl (addr curV alignedWord : U32) : U32 :=
  match (addr &&& 3).toNat with
  | 0 => curV &&& 0x00ffffff ||| alignedWord <<< 24
  | 1 => curV &&& 0x0000ffff ||| alignedWord <<< 16
  | 2 => curV &&& 0x000000ff ||| alignedWord <<< 8
  | _ => curV &&& 0x00000000 ||| alignedWord

/-- The least significant bytes of a word, loaded. -/
def mergeLwr (addr curV alignedWord : U32) : U32 :=
  match (addr &&& 3).toNat with
  | 0 => curV &&& 0x00000000 ||| alignedWord
  | 1 => curV &&& 0xff000000 ||| alignedWord >>> 8
  | 2 => curV &&& 0xffff0000 ||| alignedWord >>> 16
  | _ => curV &&& 0xffffff00 ||| alignedWord >>> 24

def opLwl (i : Instruction) (c : Cpu δ) (sh : SharedState) : Outcome (Cpu δ × SharedState) :=
  loadUnaligned dev mergeLwl i c sh

def opLwr (i : Instruction) (c : Cpu δ) (sh : SharedState) : Outcome (Cpu δ × SharedState) :=
  loadUnaligned dev mergeLwr i c sh

/-- Load word in coprocessor 2. -/
def opLwc2 (i : Instruction) (c : Cpu δ) (sh : SharedState) : Outcome (Cpu δ × SharedState) :=
  let addr := c.address i
  let c := c.delayedLoad
  if addr.toNat % 4 = 0 then do
    let (v, c, sh) ← c.memLoad dev .word sh addr
    let gte ← c.gte.setData (copRegister i.t) v
    pure ({ c with gte := gte }, sh)
  else pure (c.exception .loadAddressError, sh)

/-! ### Stores -/

def opSb (i : Instruction) (c : Cpu δ) (sh : SharedState) : Outcome (Cpu δ × SharedState) :=
  c.delayedLoad.memStore dev .byte sh (c.address i) (c.reg i.t)

/-- A store that must be aligned to its width, with the exception it raises
otherwise. -/
def storeAligned (width : Width) (cause : Exception) (v : U32) (i : Instruction) (c : Cpu δ)
    (sh : SharedState) : Outcome (Cpu δ × SharedState) :=
  let addr := c.address i
  let c := c.delayedLoad
  if addr.toNat % width.size = 0 then c.memStore dev width sh addr v
  else pure (c.exception cause, sh)

def opSh (i : Instruction) (c : Cpu δ) (sh : SharedState) : Outcome (Cpu δ × SharedState) :=
  storeAligned dev .halfWord .storeAddressError (c.reg i.t) i c sh

def opSw (i : Instruction) (c : Cpu δ) (sh : SharedState) : Outcome (Cpu δ × SharedState) :=
  storeAligned dev .word .storeAddressError (c.reg i.t) i c sh

/-- Store word in coprocessor 2, whose address error is that of a load. -/
def opSwc2 (i : Instruction) (c : Cpu δ) (sh : SharedState) : Outcome (Cpu δ × SharedState) := do
  let v ← c.gte.data (copRegister i.t)
  storeAligned dev .word .loadAddressError v i c sh

/-- Merge a register with the aligned word around an address and store it. -/
def storeUnaligned (merge : U32 → U32 → U32 → U32) (i : Instruction) (c : Cpu δ)
    (sh : SharedState) : Outcome (Cpu δ × SharedState) := do
  let addr := c.address i
  let v := c.reg i.t
  let alignedAddr := addr &&& ~~~3#32
  let (curMem, c, sh) ← c.memLoad dev .word sh alignedAddr
  c.delayedLoad.memStore dev .word sh alignedAddr (merge addr curMem v)

/-- The most significant bytes of a word, stored. -/
def mergeSwl (addr curMem v : U32) : U32 :=
  match (addr &&& 3).toNat with
  | 0 => curMem &&& 0xffffff00 ||| v >>> 24
  | 1 => curMem &&& 0xffff0000 ||| v >>> 16
  | 2 => curMem &&& 0xff000000 ||| v >>> 8
  | _ => curMem &&& 0x00000000 ||| v

/-- The least significant bytes of a word, stored. -/
def mergeSwr (addr curMem v : U32) : U32 :=
  match (addr &&& 3).toNat with
  | 0 => curMem &&& 0x00000000 ||| v
  | 1 => curMem &&& 0x000000ff ||| v <<< 8
  | 2 => curMem &&& 0x0000ffff ||| v <<< 16
  | _ => curMem &&& 0x00ffffff ||| v <<< 24

def opSwl (i : Instruction) (c : Cpu δ) (sh : SharedState) : Outcome (Cpu δ × SharedState) :=
  storeUnaligned dev mergeSwl i c sh

def opSwr (i : Instruction) (c : Cpu δ) (sh : SharedState) : Outcome (Cpu δ × SharedState) :=
  storeUnaligned dev mergeSwr i c sh

/-! ### Execution -/

/-- The handler of an opcode. -/
def execute (op : Opcode) (i : Instruction) (c : Cpu δ) (sh : SharedState) :
    Outcome (Cpu δ × SharedState) :=
  match op with
  | .sll => pure (opSll i c, sh)
  | .srl => pure (opSrl i c, sh)
  | .sra => pure (opSra i c, sh)
  | .sllv => pure (opSllv i c, sh)
  | .srlv => pure (opSrlv i c, sh)
  | .srav => pure (opSrav i c, sh)
  | .jr => pure (opJr i c, sh)
  | .jalr => pure (opJalr i c, sh)
  | .syscall => pure (opSyscall c, sh)
  | .break => pure (opBreak c, sh)
  | .mfhi => pure (opMfhi i c, sh)
  | .mthi => pure (opMthi i c, sh)
  | .mflo => pure (opMflo i c, sh)
  | .mtlo => pure (opMtlo i c, sh)
  | .mult => pure (opMult i c, sh)
  | .multu => pure (opMultu i c, sh)
  | .div => pure (opDiv i c, sh)
  | .divu => pure (opDivu i c, sh)
  | .add => pure (opAdd i c, sh)
  | .addu => pure (opAddu i c, sh)
  | .sub => pure (opSub i c, sh)
  | .subu => pure (opSubu i c, sh)
  | .and => pure (opAnd i c, sh)
  | .or => pure (opOr i c, sh)
  | .xor => pure (opXor i c, sh)
  | .nor => pure (opNor i c, sh)
  | .slt => pure (opSlt i c, sh)
  | .sltu => pure (opSltu i c, sh)
  | .bxx => pure (opBxx i c, sh)
  | .j => pure (opJ i c, sh)
  | .jal => pure (opJal i c, sh)
  | .beq => pure (opBeq i c, sh)
  | .bne => pure (opBne i c, sh)
  | .blez => pure (opBlez i c, sh)
  | .bgtz => pure (opBgtz i c, sh)
  | .addi => pure (opAddi i c, sh)
  | .addiu => pure (opAddiu i c, sh)
  | .slti => pure (opSlti i c, sh)
  | .sltiu => pure (opSltiu i c, sh)
  | .andi => pure (opAndi i c, sh)
  | .ori => pure (opOri i c, sh)
  | .xori => pure (opXori i c, sh)
  | .lui => pure (opLui i c, sh)
  | .cop0 => do
      let c ← opCop0 i c sh
      pure (c, sh)
  | .cop2 => do
      let c ← opCop2 i c
      pure (c, sh)
  | .cop1 | .cop3 | .lwc0 | .lwc1 | .lwc3 | .swc0 | .swc1 | .swc3 =>
      pure (coprocessorUnusable c, sh)
  | .lb => opLb dev i c sh
  | .lh => opLh dev i c sh
  | .lwl => opLwl dev i c sh
  | .lw => opLw dev i c sh
  | .lbu => opLbu dev i c sh
  | .lhu => opLhu dev i c sh
  | .lwr => opLwr dev i c sh
  | .sb => opSb dev i c sh
  | .sh => opSh dev i c sh
  | .swl => opSwl dev i c sh
  | .sw => opSw dev i c sh
  | .swr => opSwr dev i c sh
  | .lwc2 => opLwc2 dev i c sh
  | .swc2 => opSwc2 dev i c sh
  | .illegal => pure (opIllegal c, sh)

/-- Decode an instruction and run its handler. -/
def decodeAndExecute (i : Instruction) (c : Cpu δ) (sh : SharedState) :
    Outcome (Cpu δ × SharedState) :=
  -- simulate instruction execution time
  execute dev i.opcode i c (sh.tick 1)

/-- Synchronise the peripherals if one of them is due. -/
def syncPeripherals (c : Cpu δ) (sh : SharedState) : Outcome (Cpu δ × SharedState) :=
  if sh.tk.syncPending then do
    let (inter, sh) ← c.inter.sync dev sh
    pure ({ c with inter := inter }, { sh with tk := sh.tk.updateSyncPending })
  else pure (c, sh)

/-- Move on to the next instruction. -/
def advance (c : Cpu δ) : Cpu δ :=
  { c with
    pc := c.nextPc
    nextPc := c.nextPc + 4
    delaySlot := c.branch
    branch := false }

def countInterrupt (sh : SharedState) : SharedState :=
  { sh with counters := { sh.counters with cpuInterrupt := sh.counters.cpuInterrupt + 1 } }

/-- Take the pending interrupt, or run the instruction. -/
def dispatch (i : Instruction) (c : Cpu δ) (sh : SharedState) : Outcome (Cpu δ × SharedState) :=
  if c.cop0.irqActive sh.irqState then do
    let sh := countInterrupt sh
    -- instructions of the GTE get executed even if an interrupt occurs
    let (c, sh) ← if i.isGteOp then decodeAndExecute dev i c sh else pure (c, sh)
    pure (c.exception .interrupt, sh.tick 1)
  else decodeAndExecute dev i c sh

/-- Run a single CPU instruction. -/
def runNextInstruction (c : Cpu δ) (sh : SharedState) : Outcome (Cpu δ × SharedState) := do
  let (c, sh) ← c.syncPeripherals dev sh
  let c := { c with currentPc := c.pc }
  if c.currentPc.toNat % 4 ≠ 0 then
    -- the PC is not correctly aligned
    pure (c.exception .loadAddressError, sh)
  else do
    let (i, c, sh) ← c.fetchInstruction dev sh
    dispatch dev i c.advance sh

end Cpu

end Rustation
