import Rustation.CdRom.Commands
import Rustation.Memory.Addressable

/-!
The sequencer and the host interface of the CD-ROM controller
(`cdrom/mod.rs`): the steps of the sub-CPU, the three ways a sequence starts,
the synchronisation loop, and the register accesses of the host.

The body of the loop of `CdRom::sync` is cut into the three parts the source
runs one after the other (`stepSubCpu`, `stepAsync`, `stepRead`), the loop
itself runs on a bound (`syncLoop`).  `Access` lists what the host can do to
the controller.
-/

namespace Rustation

open Fallible

namespace CdRom

variable {I : CdImage}

/-- A controller and the shared state it was handed. -/
abbrev Shared (I : CdImage) := CdRom I × SharedState

/-! ### Scheduling -/

/-- Set the date of the next forced synchronisation from the state of the
controller. -/
def predictNextSync (cd : CdRom I) (sh : SharedState) : SharedState :=
  let tk := sh.tk.noSyncNeeded .cdRom
  let tk :=
    if cd.subCpu.inCommand then
      tk.setNextSyncDelta .cdRom (cd.subCpu.timer.setWidth 64)
    else if cd.irqFlags = 0 then
      match cd.subCpu.asyncResponse with
      | some (delay, _) => tk.setNextSyncDelta .cdRom (delay.setWidth 64)
      | none => tk
    else tk
  let tk :=
    match cd.readState with
    | .reading delay => tk.maybeSetNextSyncDelta .cdRom (delay.setWidth 64)
    | .idle => tk
  { sh with tk := tk }

/-! ### Starting a sequence -/

/-- Start the command sequence if a command is pending and the sub-CPU is
ready for it. -/
def maybeStartCommand (cd : CdRom I) (sh : SharedState) : Outcome (Shared I) :=
  if cd.command.isSome && cd.irqFlags == 0 && !cd.subCpu.inCommand then do
    let (r, rand) := cd.rand.next
    let variation := r % Timings.COMMAND_PENDING_VARIATION
    let subCpu ← cd.subCpu.startCommand (Timings.COMMAND_PENDING + variation)
    let cd := { cd with rand := rand, subCpu := subCpu }
    pure (cd, cd.predictNextSync sh)
  else pure (cd, sh)

/-- Start the async response sequence if one is due and the sub-CPU is ready
for it. -/
def maybeProcessAsyncResponse (cd : CdRom I) (sh : SharedState) : Outcome (Shared I) :=
  match cd.subCpu.asyncResponse with
  | some (delay, async) =>
      if delay = 0 ∧ cd.irqFlags = 0 ∧ cd.subCpu.inCommand = false then do
        let cd := { cd with subCpu := { cd.subCpu with
          asyncResponse := none
          response := cd.subCpu.response.clear
          irqCode := .asyncOk } }
        let (rxDelay, cd) ← cd.runAsync async
        let cd := { cd with subCpu := { cd.subCpu with
          sequence := .asyncRxPush
          timer := rxDelay } }
        pure (cd, cd.predictNextSync sh)
      else pure (cd, sh)
  | none => pure (cd, sh)

/-- Start the read notification sequence if a sector is pending and the
sub-CPU is ready for it. -/
def maybeNotifyRead (cd : CdRom I) (sh : SharedState) : Shared I :=
  if cd.readPending && cd.irqFlags == 0 && !cd.subCpu.inCommand then
    let cd := { cd with subCpu := { cd.subCpu with
      response := cd.subCpu.response.clear
      irqCode := .sectorReady } }
    let cd := cd.respondStatus
    let cd := { cd with
      subCpu := { cd.subCpu with sequence := .asyncRxPush, timer := Timings.READ_RX_PUSH }
      readPending := false }
    (cd, cd.predictNextSync sh)
  else (cd, sh)

/-! ### The steps of a sequence -/

/-- The state of the interrupt line. -/
def irq (cd : CdRom I) : Bool := cd.irqFlags &&& cd.irqMask != 0

/-- Trigger an interrupt, and forward it to the main interrupt controller if it
is not masked. -/
def triggerIrq (cd : CdRom I) (sh : SharedState) (irq : IrqCode) : Outcome (Shared I) :=
  if cd.irqFlags ≠ 0 then throw (.assertion "self.irq_flags == 0")
  else
    let cd := { cd with irqFlags := irq.code }
    if cd.irq then pure (cd, { sh with irqState := sh.irqState.assert .cdRom })
    else pure (cd, sh)

/-- Enter the step `seq` of the sequence, which lasts `timer` cycles. -/
def enter (cd : CdRom I) (seq : SubCpuSequence) (timer : U32) : CdRom I :=
  { cd with subCpu := { cd.subCpu with sequence := seq, timer := timer } }

/-- Move one response byte from the sub-CPU to the host. -/
def moveResponse (cd : CdRom I) : CdRom I :=
  let (b, response) := cd.subCpu.response.pop
  { cd with
    subCpu := { cd.subCpu with response := response }
    hostResponse := cd.hostResponse.push b }

/-- Forget the pending command. -/
def retireCommand (cd : CdRom I) : CdRom I :=
  match cd.command with
  | some cmd => { cd with command := none }.record (.retired cmd)
  | none => cd

/-- Advance in the sub-CPU execution sequence. -/
def nextSubCpuStep (cd : CdRom I) (sh : SharedState) : Outcome (Shared I) :=
  match cd.subCpu.sequence with
  | .idle => throw .unreachable
  | .commandPending | .paramPush =>
      if cd.hostParams.isEmpty then do
        -- all the parameters are there, run the actual command
        let cd ← cd.executeCommand
        pure (cd.enter .execution Timings.EXECUTION, sh)
      else
        let (param, hostParams) := cd.hostParams.pop
        let cd := { cd with
          hostParams := hostParams
          subCpu := { cd.subCpu with params := cd.subCpu.params.push param } }
        pure (cd.enter .paramPush Timings.PARAM_PUSH, sh)
  | .execution =>
      let cd := { cd with hostResponse := cd.hostResponse.clear }
      pure (cd.enter .rxFlush Timings.RX_FLUSH, sh)
  | .rxFlush | .rxPush =>
      let cd := cd.moveResponse
      if cd.subCpu.response.isEmpty then pure (cd.enter .busyDelay Timings.BUSY_DELAY, sh)
      else pure (cd.enter .rxPush Timings.RX_PUSH, sh)
  | .busyDelay => pure (cd.enter .irqDelay Timings.IRQ_DELAY, sh)
  | .irqDelay => do
      let cd := cd.retireCommand
      let (cd, sh) ← cd.triggerIrq sh cd.subCpu.irqCode
      pure ({ cd with subCpu := { cd.subCpu with sequence := .idle } }, sh)
  | .asyncRxPush =>
      let cd := cd.moveResponse
      if cd.subCpu.response.isEmpty then pure (cd.enter .irqDelay Timings.IRQ_DELAY, sh)
      else pure (cd.enter .asyncRxPush Timings.RX_PUSH, sh)

/-! ### The synchronisation loop -/

/-- First part of the loop body: advance the sequence by at most `remaining`
cycles, and return the cycles used. -/
def stepSubCpu (cd : CdRom I) (sh : SharedState) (remaining : U32) :
    Outcome (U32 × Shared I) :=
  if cd.subCpu.inCommand then
    if cd.subCpu.timer > remaining then
      pure (remaining,
        { cd with subCpu := { cd.subCpu with timer := cd.subCpu.timer - remaining } }, sh)
    else do
      let stepRemaining := cd.subCpu.timer
      let s ← cd.nextSubCpuStep sh
      pure (stepRemaining, s)
  -- no sequence pending, go through the entire delta at once
  else pure (remaining, cd, sh)

/-- Second part of the loop body: step the async event. -/
def stepAsync (cd : CdRom I) (sh : SharedState) (elapsed : U32) : Outcome (Shared I) :=
  match cd.subCpu.asyncResponse with
  | some (delay, async) =>
      if delay > elapsed then
        pure ({ cd with subCpu := { cd.subCpu with
          asyncResponse := some (delay - elapsed, async) } }, sh)
      else
        { cd with subCpu := { cd.subCpu with
          asyncResponse := some (0, async) } }.maybeProcessAsyncResponse sh
  | none => pure (cd, sh)

/-- Third part of the loop body: check for sector reads. -/
def stepRead (cd : CdRom I) (sh : SharedState) (elapsed : U32) : Outcome (Shared I) :=
  match cd.readState with
  | .reading delay =>
      if delay > elapsed then
        pure ({ cd with readState := .reading (delay - elapsed) }, sh)
      else do
        let leftover := elapsed - delay
        let cd ← cd.readSector
        let (cd, sh) := cd.maybeNotifyRead sh
        pure ({ cd with readState := .reading (cd.cyclesPerSector - leftover) }, sh)
  | .idle => pure (cd, sh)

/-- The body of the loop of `sync`: the cycles used and the new state. -/
def syncStep (cd : CdRom I) (sh : SharedState) (remaining : U32) :
    Outcome (U32 × Shared I) := do
  let (elapsed, cd, sh) ← cd.stepSubCpu sh remaining
  let (cd, sh) ← cd.stepAsync sh elapsed
  let s ← cd.stepRead sh elapsed
  pure (elapsed, s)

/-- The loop of `sync`, for at most `fuel` iterations. -/
def syncLoop : ℕ → CdRom I → SharedState → U32 → Outcome (Shared I)
  | fuel, cd, sh, remaining =>
      if remaining = 0 then pure (cd, sh)
      else
        match fuel with
        | 0 => throw .outOfFuel
        | fuel + 1 => do
            let (elapsed, cd, sh) ← cd.syncStep sh remaining
            syncLoop fuel cd sh (remaining - elapsed)

def sync (cd : CdRom I) (sh : SharedState) : Outcome (Shared I) := do
  let (delta, tk) := sh.tk.sync .cdRom
  let remaining : U32 := delta.setWidth 32
  let (cd, sh) ← syncLoop remaining.toNat cd { sh with tk := tk } remaining
  pure (cd, cd.predictNextSync sh)

/-! ### Registers -/

/-- A flag in bit `i` of a status byte. -/
def statusBit (b : Bool) (i : ℕ) : U8 := (if b then 1 else 0) <<< i

/-- HSTS register read. -/
def hostStatus (cd : CdRom I) : U8 :=
  cd.index
    ||| statusBit cd.hostParams.isEmpty 3
    ||| statusBit (!cd.hostParams.isFull) 4
    ||| statusBit (!cd.hostResponse.isEmpty) 5
    ||| statusBit (cd.rxIndex < cd.rxLen) 6
    ||| statusBit cd.subCpu.isBusy 7

/-- COMMAND register write. -/
def setCommand (cd : CdRom I) (sh : SharedState) (cmd : U8) : Outcome (Shared I) :=
  match cd.command with
  | some _ => throw (.panic "Nested CDC command!")
  | none => ({ cd with command := some cmd }.record (.accepted cmd)).maybeStartCommand sh

/-- PARAMETER register write. -/
def setParameter (cd : CdRom I) (param : U8) : Outcome (CdRom I) :=
  match cd.command with
  | some _ => throw (.panic "Parameter push during command")
  | none =>
      if cd.hostParams.isFull then throw (.panic "CDROM parameter FIFO overflow")
      else pure { cd with hostParams := cd.hostParams.push param }

/-- HINTMSK register write. -/
def setHostInterruptMask (cd : CdRom I) (val : U8) : CdRom I := { cd with irqMask := val &&& 0x1f }

/-- HCHPCTL register write. -/
def setHostChipControl (cd : CdRom I) (ctrl : U8) : Outcome (CdRom I) :=
  let active := ctrl &&& 0x80 != 0
  let i := cd.rxIndex
  let rxIndex :=
    if active then if cd.rxActive then i else 0
    -- align to the next multiple of 8 bytes
    else (i &&& ~~~7#16) + (i &&& 4) <<< 1
  if ctrl &&& 0x7f != 0 then throw (.panic "CDROM: unhandled HCHPCTL")
  else pure { cd with rxActive := active, rxIndex := rxIndex }

/-- Acknowledge interrupts, then see whether an event was waiting for that. -/
def irqAck (cd : CdRom I) (sh : SharedState) (v : U8) : Outcome (Shared I) := do
  let cd := { cd with irqFlags := cd.irqFlags &&& ~~~v }
  let (cd, sh) ← cd.maybeStartCommand sh
  let (cd, sh) ← cd.maybeProcessAsyncResponse sh
  pure (cd.maybeNotifyRead sh)

/-- HCLRCTL register write. -/
def hostClearControl (cd : CdRom I) (sh : SharedState) (val : U8) : Outcome (Shared I) := do
  let (cd, sh) ← cd.irqAck sh (val &&& 0x1f)
  let cd := if val &&& 0x40 != 0 then { cd with hostParams := cd.hostParams.clear } else cd
  if val &&& 0xa0 != 0 then throw (.panic "Unhandled CDROM 3.1")
  pure (cd, sh)

/-- Retrieve a single byte from the RX buffer. -/
def readByte (cd : CdRom I) : Outcome (U8 × CdRom I) :=
  if h : cd.rxIndex.toNat < 2352 then
    let b := cd.rxBuffer.get ⟨cd.rxIndex.toNat, h⟩
    if cd.rxActive then
      let rxIndex := cd.rxIndex + 1
      pure (b, { cd with rxIndex := rxIndex, rxActive := rxIndex != cd.rxLen })
    else throw (.panic "read byte while !rx_active")
  else throw .outOfBounds

/-- The DMA can read the RX buffer one word at a time. -/
def dmaReadWord (cd : CdRom I) : Outcome (U32 × CdRom I) := do
  let (b0, cd) ← cd.readByte
  let (b1, cd) ← cd.readByte
  let (b2, cd) ← cd.readByte
  let (b3, cd) ← cd.readByte
  pure (b0.setWidth 32 ||| b1.setWidth 32 <<< 8 ||| b2.setWidth 32 <<< 16
    ||| b3.setWidth 32 <<< 24, cd)

/-- Read a register, once the controller is up to date. -/
def readRegister (cd : CdRom I) (width : Width) (offset : U32) : Outcome (U32 × CdRom I) :=
  if width.size ≠ 1 then throw (.panic "Unhandled CDROM load")
  else
    match offset.toNat, cd.index.toNat with
    | 0, _ => pure (cd.hostStatus.setWidth 32, cd)
    | 1, _ =>
        if cd.hostResponse.isEmpty then throw (.panic "CDROM response FIFO underflow")
        else
          let (b, hostResponse) := cd.hostResponse.pop
          pure (b.setWidth 32, { cd with hostResponse := hostResponse })
    | 3, 0 => pure ((cd.irqMask ||| 0xe0).setWidth 32, cd)
    | 3, 1 => pure ((cd.irqFlags ||| 0xe0).setWidth 32, cd)
    | _, _ => throw (.panic "read CDROM register")

/-- Write a register, once the controller is up to date. -/
def writeRegister (cd : CdRom I) (sh : SharedState) (width : Width) (offset val : U32) :
    Outcome (Shared I) :=
  if width.size ≠ 1 then throw (.panic "Unhandled CDROM store")
  else
    -- all writeable registers are 8 bits wide
    let val : U8 := val.setWidth 8
    match offset.toNat, cd.index.toNat with
    | 0, _ => pure ({ cd with index := val &&& 3 }, sh)
    | 1, 0 => cd.setCommand sh val
    | 1, 3 => pure ({ cd with mixer := { cd.mixer with cdRightToSpuRight := val } }, sh)
    | 2, 0 => do
        let cd ← cd.setParameter val
        pure (cd, sh)
    | 2, 1 => pure (cd.setHostInterruptMask val, sh)
    | 2, 2 => pure ({ cd with mixer := { cd.mixer with cdLeftToSpuLeft := val } }, sh)
    | 2, 3 => pure ({ cd with mixer := { cd.mixer with cdRightToSpuLeft := val } }, sh)
    | 3, 0 => do
        let cd ← cd.setHostChipControl val
        pure (cd, sh)
    | 3, 1 => cd.hostClearControl sh val
    | 3, 2 => pure ({ cd with mixer := { cd.mixer with cdLeftToSpuRight := val } }, sh)
    | 3, 3 => pure (cd, sh)
    | _, _ => throw (.panic "write CDROM register")

def load (cd : CdRom I) (sh : SharedState) (width : Width) (offset : U32) :
    Outcome (U32 × Shared I) := do
  let (cd, sh) ← cd.sync sh
  let (v, cd) ← cd.readRegister width offset
  pure (v, cd, sh)

def store (cd : CdRom I) (sh : SharedState) (width : Width) (offset val : U32) :
    Outcome (Shared I) := do
  let (cd, sh) ← cd.sync sh
  cd.writeRegister sh width offset val

/-! ### What the host can do -/

/-- A synchronisation, a register access of the host or a DMA word read. -/
inductive Access where
  | sync
  | load (width : Width) (offset : U32)
  | store (width : Width) (offset val : U32)
  | dmaReadWord
  deriving DecidableEq, Repr

/-- The state an access leaves. -/
def access (cd : CdRom I) (sh : SharedState) : Access → Outcome (Shared I)
  | .sync => cd.sync sh
  | .load width offset => do
      let (_, s) ← cd.load sh width offset
      pure s
  | .store width offset val => cd.store sh width offset val
  | .dmaReadWord => do
      let (_, cd) ← cd.dmaReadWord
      pure (cd, sh)

end CdRom

end Rustation
