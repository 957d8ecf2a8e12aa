import Rustation.CdRom.Controller
import Rustation.Gpu.Gpu
import Rustation.Mdec.Mdec
import Rustation.Memory.Dma
import Rustation.Memory.Interconnect

/-!
DMA transfers (`do_dma_linked_list` and `do_dma_block` of `memory/mod.rs`) and
the DMA registers.

`Bus` holds what a transfer can reach: the RAM, the DMA controller, the three
peripherals that take part, and the calls that have been made of the renderer.
The loop of a linked list runs on a bound, as a list in RAM need not end; the
loop of a block counts its words down.
-/

namespace Rustation

open Fallible

structure Bus (I : CdImage) where
  ram : Ram
  dma : Dma
  gpu : Gpu
  mdec : MDec
  cdRom : CdRom I
  /-- the calls of the renderer, oldest first -/
  calls : List Call

namespace Bus

variable {I : CdImage}

/-- Send a word to the GPU. -/
def gp0 (bus : Bus I) (word : U32) : Outcome (Bus I) := do
  let (gpu, calls) ← bus.gpu.gp0 word
  pure { bus with gpu := gpu, calls := bus.calls ++ calls }

/-! ### Linked lists -/

/-- Send the words of a packet, which follow its header: the last address and the
bus. -/
def sendPacket : ℕ → U32 → Bus I → Outcome (U32 × Bus I)
  | 0, addr, bus => pure (addr, bus)
  | remsz + 1, addr, bus => do
      let addr := (addr + 4) &&& 0x1ffffc#32
      let command ← bus.ram.load .word addr
      let bus ← bus.gp0 command
      sendPacket remsz addr bus

/-- The loop of `do_dma_linked_list`, for at most `fuel` headers. -/
def linkedListLoop : ℕ → U32 → Bus I → Outcome (Bus I)
  | 0, _, _ => throw .outOfFuel
  | fuel + 1, addr, bus => do
      let header ← bus.ram.load .word addr
      let (_, bus) ← sendPacket (header >>> 24).toNat addr bus
      -- the end-of-table marker
      if header &&& 0x800000 ≠ 0 then pure bus
      else linkedListLoop fuel (header &&& 0x1ffffc#32) bus

def doDmaLinkedList (fuel : ℕ) (bus : Bus I) (port : Dma.Port) : Outcome (Bus I) :=
  let channel := bus.dma.channel port
  let addr := channel.base &&& 0x1ffffc#32
  if channel.direction = .toRam then throw (.panic "Invalid DMA direction for linked list mode")
  else if port ≠ .gpu then throw (.panic "Attempted linked list DMA on port")
  else linkedListLoop fuel addr bus

/-! ### Blocks -/

/-- Send a word to a port. -/
def sendWord (bus : Bus I) (port : Dma.Port) (word : U32) : Outcome (Bus I) :=
  match port with
  | .gpu => bus.gp0 word
  | .mdecIn => do
      let mdec ← bus.mdec.command word
      pure { bus with mdec := mdec }
  -- transfers to the SPU are ignored
  | .spu => pure bus
  | _ => throw (.panic "Unhandled DMA destination port")

/-- The word a port provides, at the address `addr` with `remsz` words to go. -/
def receiveWord (bus : Bus I) (port : Dma.Port) (addr : U32) (remsz : ℕ) :
    Outcome (U32 × Bus I) :=
  match port with
  -- a pointer to the previous entry, and the end of table marker in the last
  | .otc => pure (if remsz = 1 then 0xffffff else (addr - 4) &&& 0x1fffff, bus)
  | .gpu => pure (0, bus)
  | .cdRom => do
      let (word, cdRom) ← bus.cdRom.dmaReadWord
      pure (word, { bus with cdRom := cdRom })
  | .mdecOut => pure (0, bus)
  | _ => throw (.panic "Unhandled DMA source port")

/-- One round of the loop of `do_dma_block`. -/
def transferWord (bus : Bus I) (port : Dma.Port) (direction : Dma.Direction) (addr : U32)
    (remsz : ℕ) : Outcome (Bus I) :=
  let curAddr := addr &&& 0x1ffffc#32
  match direction with
  | .fromRam => do
      let word ← bus.ram.load .word curAddr
      bus.sendWord port word
  | .toRam => do
      let (word, bus) ← bus.receiveWord port addr remsz
      let ram ← bus.ram.store .word curAddr word
      pure { bus with ram := ram }

/-- The loop of `do_dma_block`. -/
def blockLoop (port : Dma.Port) (direction : Dma.Direction) (increment : U32) :
    ℕ → U32 → Bus I → SharedState → Outcome (Bus I × SharedState)
  | 0, _, bus, sh => pure (bus, sh)
  | remsz + 1, addr, bus, sh => do
      let bus ← bus.transferWord port direction addr (remsz + 1)
      blockLoop port direction increment remsz (addr + increment) bus (sh.tick 1)

def doDmaBlock (bus : Bus I) (sh : SharedState) (port : Dma.Port) :
    Outcome (Bus I × SharedState) :=
  let channel := bus.dma.channel port
  let increment : U32 :=
    match channel.step with
    | .increment => 4
    | .decrement => -4
  match channel.transferSize with
  | none => throw (.panic "Couldn't figure out DMA block transfer size")
  | some remsz => blockLoop port channel.direction increment remsz.toNat channel.base bus sh

/-! ### Registers -/

/-- Execute the transfer of a port, all at once. -/
def doDma (fuel : ℕ) (bus : Bus I) (sh : SharedState) (port : Dma.Port) :
    Outcome (Bus I × SharedState) := do
  let (bus, sh) ← match (bus.dma.channel port).sync with
    | .linkedList => do
        let bus ← bus.doDmaLinkedList fuel port
        pure (bus, sh)
    | _ => bus.doDmaBlock sh port
  let (dma, sh) := bus.dma.done sh port
  pure ({ bus with dma := dma }, sh)

/-- DMA register read.  Byte and half word reads fetch a portion of the
register. -/
def dmaReg (bus : Bus I) (offset : U32) : Outcome U32 := do
  let align := (offset &&& 3).toNat
  let offset := offset &&& ~~~3#32
  let major := (offset &&& 0x70) >>> 4
  let minor := (offset &&& 0xf).toNat
  let res ←
    if major.toNat ≤ 6 then do
      let port ← Dma.Port.fromIndex major
      let channel := bus.dma.channel port
      match minor with
      | 0 => pure channel.base
      | 4 => pure channel.blockControl
      | 8 => pure channel.control
      | _ => throw (.panic "Unhandled DMA read")
    else
      match minor with
      | 0 => pure bus.dma.control
      | 4 => pure bus.dma.interrupt
      | _ => throw (.panic "Unhandled DMA read")
  pure (res >>> (align * 8))

/-- DMA register write.  Byte and half word writes are word writes of the shifted
value; a write may start a transfer. -/
def setDmaReg (fuel : ℕ) (bus : Bus I) (sh : SharedState) (offset val : U32) :
    Outcome (Bus I × SharedState) := do
  let align := (offset &&& 3).toNat
  let val := val <<< (align * 8)
  let offset := offset &&& ~~~3#32
  let major := (offset &&& 0x70) >>> 4
  let minor := (offset &&& 0xf).toNat
  if major.toNat ≤ 6 then
    let port ← Dma.Port.fromIndex major
    let channel := bus.dma.channel port
    let channel ← match minor with
      | 0 => pure (channel.setBase val)
      | 4 => pure (channel.setBlockControl val)
      | 8 => channel.setControl val
      | _ => throw (.panic "Unhandled DMA write")
    let bus := { bus with dma := bus.dma.setChannel port channel }
    if channel.active then bus.doDma fuel sh port else pure (bus, sh)
  else
    match minor with
    | 0 => pure ({ bus with dma := bus.dma.setControl val }, sh)
    | 4 =>
        let (dma, sh) := bus.dma.setInterrupt sh val
        pure ({ bus with dma := dma }, sh)
    | _ => throw (.panic "Unhandled DMA write")

end Bus

end Rustation
