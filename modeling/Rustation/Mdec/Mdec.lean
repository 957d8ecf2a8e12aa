import Rustation.Lib.Outcome
import Rustation.Memory.Addressable

/-!
The motion decoder (`mdec/mod.rs`): the command register with the uploads of
its tables, the control register and the status register.

The function pointer of the source, `command_handler`, is the enumeration
`CommandHandler`.  The source's unsigned subtractions are checked.

* `MDec.command`: one word written to the command register, by the CPU or by
  the DMA;
* `MDec.load`, `MDec.store`: the registers as the bus sees them.
-/

namespace Rustation

open Fallible

/-- Pixel colour depths supported by the MDEC. -/
inductive OutputDepth where
  | d4Bpp | d8Bpp | d24Bpp | d15Bpp
  deriving DecidableEq, Repr

def OutputDepth.value : OutputDepth → U32
  | .d4Bpp => 0
  | .d8Bpp => 1
  | .d24Bpp => 2
  | .d15Bpp => 3

inductive BlockType where
  | y1 | y2 | y3 | y4
  /-- luma for monochrome, Cr otherwise -/
  | crLuma
  | cb
  deriving DecidableEq, Repr

/-- The methods that handle writes to the command register. -/
inductive CommandHandler where
  | handleCommand
  | handleColorQuantMatrices
  | handleMonochromeQuantMatrix
  | handleIdctMatrix
  deriving DecidableEq, Repr

structure MDec where
  dmaInEnable : Bool
  dmaOutEnable : Bool
  outputDepth : OutputDepth
  outputSigned : Bool
  /-- fills the 16th bit when the output depth is 15 bits -/
  outputBit15 : Bool
  currentBlock : BlockType
  /-- quantization matrices, for luma and for chroma -/
  quantMatrices : Vector (Vector U8 64) 2
  /-- inverse discrete cosine transform matrix -/
  idctMatrix : Vector I16 64
  commandHandler : CommandHandler
  /-- remaining words expected for this command -/
  commandRemaining : U16
  deriving DecidableEq

namespace MDec

def new : MDec where
  dmaInEnable := false
  dmaOutEnable := false
  outputDepth := .d4Bpp
  outputSigned := false
  outputBit15 := false
  currentBlock := .crLuma
  quantMatrices := Vector.replicate 2 (Vector.replicate 64 0)
  idctMatrix := Vector.replicate 64 0
  commandHandler := .handleCommand
  commandRemaining := 1

/-! ### Table uploads -/

/-- A checked subtraction of 16 bit words. -/
def checkedSub (a b : U16) : Outcome U16 := if b ≤ a then pure (a - b) else throw .overflow

/-- Store one byte of a quantization matrix. -/
def setQuant (m : MDec) (matrix index : ℕ) (val : U8) : Outcome MDec :=
  if h : matrix < 2 ∧ index < 64 then
    pure { m with quantMatrices :=
      m.quantMatrices.set matrix (m.quantMatrices[matrix].set index val h.2) h.1 }
  else throw .outOfBounds

/-- The four bytes of a word, the least significant one first. -/
def setQuantWord (m : MDec) (matrix index : ℕ) (cmd : U32) : Outcome MDec :=
  [0, 1, 2, 3].foldlM
    (fun m i => m.setQuant matrix (index + i) ((cmd >>> (i * 8)).setWidth 8)) m

def setIdct (m : MDec) (index : ℕ) (val : I16) : Outcome MDec :=
  if h : index < 64 then pure { m with idctMatrix := m.idctMatrix.set index val h }
  else throw .outOfBounds

def handleColorQuantMatrices (m : MDec) (cmd : U32) : Outcome MDec := do
  let index ← checkedSub 31 m.commandRemaining
  let index := index.toNat
  m.setQuantWord (index / 16) (index % 16 * 4) cmd

def handleMonochromeQuantMatrix (m : MDec) (cmd : U32) : Outcome MDec := do
  let index ← checkedSub 15 m.commandRemaining
  m.setQuantWord 0 (index.toNat * 4) cmd

def handleIdctMatrix (m : MDec) (cmd : U32) : Outcome MDec := do
  let index ← checkedSub 31 m.commandRemaining
  let index := index.toNat * 2
  let m ← m.setIdct index (cmd.setWidth 16)
  m.setIdct (index + 1) ((cmd >>> 16).setWidth 16)

/-! ### Command words -/

def opcode (cmd : U32) : U32 := cmd >>> 29

/-- The words a command is followed by, and who handles them. -/
def commandTable (cmd : U32) : U16 × CommandHandler :=
  match (opcode cmd).toNat with
  | 2 =>
      -- only the luma table, or luma and chroma
      if cmd &&& 1 ≠ 0 then (32, .handleColorQuantMatrices)
      else (16, .handleMonochromeQuantMatrix)
  | 3 => (32, .handleIdctMatrix)
  -- unsupported by the source, which warns
  | _ => (1, .handleCommand)

def handleCommand (m : MDec) (cmd : U32) : MDec :=
  { m with
    outputDepth :=
      match ((cmd >>> 27) &&& 3).toNat with
      | 0 => .d4Bpp
      | 1 => .d8Bpp
      | 2 => .d24Bpp
      | _ => .d15Bpp
    outputSigned := (cmd >>> 26) &&& 1 != 0
    outputBit15 := (cmd >>> 25) &&& 1 != 0
    commandRemaining := (commandTable cmd).1
    commandHandler := (commandTable cmd).2 }

/-- Call the method behind a handler. -/
def runHandler (m : MDec) (cmd : U32) : CommandHandler → Outcome MDec
  | .handleCommand => pure (m.handleCommand cmd)
  | .handleColorQuantMatrices => m.handleColorQuantMatrices cmd
  | .handleMonochromeQuantMatrix => m.handleMonochromeQuantMatrix cmd
  | .handleIdctMatrix => m.handleIdctMatrix cmd

/-- Handle writes to the command register. -/
def command (m : MDec) (cmd : U32) : Outcome MDec := do
  let remaining ← checkedSub m.commandRemaining 1
  let m ← runHandler { m with commandRemaining := remaining } cmd m.commandHandler
  if m.commandRemaining = 0 then
    pure { m with commandHandler := .handleCommand, commandRemaining := 1 }
  else pure m

/-! ### Registers -/

def setControl (m : MDec) (val : U32) : MDec :=
  let m := { m with
    dmaInEnable := val &&& 1 <<< 30 != 0
    dmaOutEnable := val &&& 1 <<< 29 != 0 }
  if val &&& 1 <<< 31 ≠ 0 then
    { m with
      outputDepth := .d4Bpp
      outputSigned := false
      outputBit15 := false
      currentBlock := .crLuma
      commandHandler := .handleCommand
      commandRemaining := 1 }
  else m

/-- A flag in bit `i` of the status word. -/
def flag (b : Bool) (i : ℕ) : U32 := (BitVec.ofBool b).setWidth 32 <<< i

def status (m : MDec) : U32 :=
  (m.commandRemaining - 1).setWidth 32
    ||| flag m.outputBit15 23 ||| flag m.outputSigned 24 ||| m.outputDepth.value <<< 25
    -- a command is pending
    ||| flag (m.commandHandler != .handleCommand) 29
    ||| 0 <<< 30 ||| 1 <<< 31

def load (m : MDec) (width : Width) (offset : U32) : Outcome U32 :=
  if width.size ≠ 4 then throw (.panic "Unhandled MDEC load")
  else
    match offset.toNat with
    | 4 => pure m.status
    | _ => throw (.panic "Unhandled MDEC load")

def store (m : MDec) (width : Width) (offset val : U32) : Outcome MDec :=
  if width.size ≠ 4 then throw (.panic "Unhandled MDEC store")
  else
    match offset.toNat with
    | 0 => m.command val
    | 4 => pure (m.setControl val)
    | _ => throw (.panic "Unhandled MDEC store")

/-- What the console does to the decoder: a register access, or a word of a DMA
transfer. -/
inductive Access where
  | load (width : Width) (offset : U32)
  | store (width : Width) (offset val : U32)
  | command (cmd : U32)
  deriving DecidableEq, Repr

/-- The decoder an access leaves. -/
def access (m : MDec) : Access → Outcome MDec
  | .load width offset => do
      let _ ← m.load width offset
      pure m
  | .store width offset val => m.store width offset val
  | .command cmd => m.command cmd

end MDec

end Rustation
