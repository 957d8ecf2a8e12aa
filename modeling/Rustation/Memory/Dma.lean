import Rustation.Shared.SharedState

/-!
The DMA controller (`memory/dma.rs`): its seven channels and its registers.

`Dma.Channel.transferSize` is the number of words of a transfer, `Dma.done` ends
one.
-/

namespace Rustation

open Fallible

namespace Dma

/-- DMA transfer direction. -/
inductive Direction where
  | toRam | fromRam
  deriving DecidableEq, Repr

def Direction.value : Direction → U32
  | .toRam => 0
  | .fromRam => 1

/-- DMA transfer step. -/
inductive Step where
  | increment | decrement
  deriving DecidableEq, Repr

def Step.value : Step → U32
  | .increment => 0
  | .decrement => 1

/-- DMA transfer synchronization mode. -/
inductive Sync where
  /-- the transfer starts with the trigger bit -/
  | manual
  /-- blocks are synchronised to DMA requests -/
  | request
  /-- used to transfer GPU command lists -/
  | linkedList
  deriving DecidableEq, Repr

def Sync.value : Sync → U32
  | .manual => 0
  | .request => 1
  | .linkedList => 2

/-- The seven DMA ports. -/
inductive Port where
  | mdecIn | mdecOut | gpu | cdRom | spu | pio
  /-- clears the ordering table -/
  | otc
  deriving DecidableEq, Repr

def Port.value : Port → ℕ
  | .mdecIn => 0
  | .mdecOut => 1
  | .gpu => 2
  | .cdRom => 3
  | .spu => 4
  | .pio => 5
  | .otc => 6

def Port.fromIndex (index : U32) : Outcome Port :=
  match index.toNat with
  | 0 => pure .mdecIn
  | 1 => pure .mdecOut
  | 2 => pure .gpu
  | 3 => pure .cdRom
  | 4 => pure .spu
  | 5 => pure .pio
  | 6 => pure .otc
  | _ => throw (.panic "Invalid port")

/-! ### Channels -/

structure Channel where
  enable : Bool
  direction : Direction
  step : Step
  sync : Sync
  /-- starts the transfer when `sync` is manual -/
  trigger : Bool
  /-- let the CPU run in gaps of the transfer -/
  chop : Bool
  chopDmaSz : U8
  chopCpuSz : U8
  /-- start address -/
  base : U32
  /-- size of a block in words -/
  blockSize : U16
  /-- only used when `sync` is request -/
  blockCount : U16
  /-- two bits without a known meaning -/
  dummy : U8
  deriving DecidableEq, Repr

namespace Channel

def new : Channel where
  enable := false
  direction := .toRam
  step := .increment
  sync := .manual
  trigger := false
  chop := false
  chopDmaSz := 0
  chopCpuSz := 0
  base := 0
  blockSize := 0
  blockCount := 0
  dummy := 0

/-- Only 16 megabytes are addressable by the DMA. -/
def setBase (c : Channel) (val : U32) : Channel := { c with base := val &&& 0xffffff }

/-- A flag in bit `i` of a register. -/
def flag (b : Bool) (i : ℕ) : U32 := (BitVec.ofBool b).setWidth 32 <<< i

def control (c : Channel) : U32 :=
  c.direction.value ||| c.step.value <<< 1 ||| flag c.chop 8 ||| c.sync.value <<< 9
    ||| c.chopDmaSz.setWidth 32 <<< 16 ||| c.chopCpuSz.setWidth 32 <<< 20
    ||| flag c.enable 24 ||| flag c.trigger 28 ||| c.dummy.setWidth 32 <<< 29

def setControl (c : Channel) (val : U32) : Outcome Channel := do
  let sync ← match ((val >>> 9) &&& 3).toNat with
    | 0 => pure Sync.manual
    | 1 => pure Sync.request
    | 2 => pure Sync.linkedList
    | _ => throw (.panic "Unknown DMA sync mode")
  pure { c with
    direction := if val &&& 1 ≠ 0 then .fromRam else .toRam
    step := if (val >>> 1) &&& 1 ≠ 0 then .decrement else .increment
    chop := (val >>> 8) &&& 1 != 0
    sync := sync
    chopDmaSz := ((val >>> 16) &&& 7).setWidth 8
    chopCpuSz := ((val >>> 20) &&& 7).setWidth 8
    enable := (val >>> 24) &&& 1 != 0
    trigger := (val >>> 28) &&& 1 != 0
    dummy := ((val >>> 29) &&& 3).setWidth 8 }

def blockControl (c : Channel) : U32 :=
  c.blockCount.setWidth 32 <<< 16 ||| c.blockSize.setWidth 32

def setBlockControl (c : Channel) (val : U32) : Channel :=
  { c with blockSize := val.setWidth 16, blockCount := (val >>> 16).setWidth 16 }

/-- The channel has been started. -/
def active (c : Channel) : Bool :=
  let trigger :=
    match c.sync with
    | .manual => c.trigger
    | _ => true
  c.enable && trigger

def done (c : Channel) : Channel := { c with enable := false, trigger := false }

/-- The number of words of a transfer, which is not known ahead of time for a
linked list. -/
def transferSize (c : Channel) : Option U32 :=
  match c.sync with
  | .manual => some (c.blockSize.setWidth 32)
  | .request => some (c.blockCount.setWidth 32 * c.blockSize.setWidth 32)
  | .linkedList => none

end Channel

end Dma

/-! ### The controller -/

structure Dma where
  control : U32
  /-- master IRQ enable -/
  irqEn : Bool
  channelIrqEn : U8
  channelIrqFlags : U8
  /-- the interrupt is active unconditionally -/
  forceIrq : Bool
  /-- six bits without a known meaning -/
  irqDummy : U8
  channels : Dma.Port → Dma.Channel

namespace Dma

def new : Dma where
  control := 0x07654321
  irqEn := false
  channelIrqEn := 0
  channelIrqFlags := 0
  forceIrq := false
  irqDummy := 0
  channels _ := .new

/-- The status of the DMA interrupt. -/
def irq (d : Dma) : Bool := d.forceIrq || (d.irqEn && d.channelIrqFlags &&& d.channelIrqEn != 0)

def setControl (d : Dma) (val : U32) : Dma := { d with control := val }

def interrupt (d : Dma) : U32 :=
  d.irqDummy.setWidth 32 ||| Channel.flag d.forceIrq 15 ||| d.channelIrqEn.setWidth 32 <<< 16
    ||| Channel.flag d.irqEn 23 ||| d.channelIrqFlags.setWidth 32 <<< 24 ||| Channel.flag d.irq 31

/-- Assert the interrupt on the rising edge of its signal. -/
def raise (d : Dma) (prevIrq : Bool) (sh : SharedState) : SharedState :=
  if !prevIrq && d.irq then { sh with irqState := sh.irqState.assert .dma } else sh

/-- Writing 1 to a flag resets it; the mask has six bits for the seven flags. -/
def setInterrupt (d : Dma) (sh : SharedState) (val : U32) : Dma × SharedState :=
  let prevIrq := d.irq
  let ack : U8 := ((val >>> 24) &&& 0x3f).setWidth 8
  let d := { d with
    irqDummy := (val &&& 0x3f).setWidth 8
    forceIrq := (val >>> 15) &&& 1 != 0
    channelIrqEn := ((val >>> 16) &&& 0x7f).setWidth 8
    irqEn := (val >>> 23) &&& 1 != 0
    channelIrqFlags := d.channelIrqFlags &&& ~~~ack }
  (d, d.raise prevIrq sh)

def channel (d : Dma) (port : Port) : Channel := d.channels port

def setChannel (d : Dma) (port : Port) (c : Channel) : Dma :=
  { d with channels := Function.update d.channels port c }

/-- The transfer of a channel has ended. -/
def done (d : Dma) (sh : SharedState) (port : Port) : Dma × SharedState :=
  let d := d.setChannel port (d.channel port).done
  let prevIrq := d.irq
  let itEn := d.channelIrqEn &&& (1 : U8) <<< port.value
  let d := { d with channelIrqFlags := d.channelIrqFlags ||| itEn }
  (d, d.raise prevIrq sh)

end Dma

end Rustation
