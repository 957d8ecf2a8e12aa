import Rustation.CdRom.State

/-!
The commands of the CD-ROM controller (`cmd_*`, `async_*`, `execute_command`
and the drive operations they use, `cdrom/mod.rs`).

Every handler takes the controller and returns it, or stops.  `execute_command`
looks the handler up by its command byte together with the number of
parameters it takes.
-/

namespace Rustation

open Fallible

/-- PlayStation CPU clock in Hz. -/
def CPU_FREQ_HZ : U32 := 33868500

/-! ### CD controller timings, in CPU clock cycles -/

namespace Timings

def COMMAND_PENDING : U32 := 9400
def COMMAND_PENDING_VARIATION : U32 := 6000
def PARAM_PUSH : U32 := 1800
def EXECUTION : U32 := 2000
def RX_FLUSH : U32 := 3500
def RX_PUSH : U32 := 1500
def BUSY_DELAY : U32 := 3300
def IRQ_DELAY : U32 := 2000
def GET_ID_ASYNC : U32 := 15000
def GET_ID_RX_PUSH : U32 := 3100
def READ_TOC_ASYNC : U32 := 16000000
def READ_TOC_RX_PUSH : U32 := 1700
def SEEK_L_RX_PUSH : U32 := 1700
def READ_RX_PUSH : U32 := 1800
def PAUSE_RX_PUSH : U32 := 1700
def INIT_RX_PUSH : U32 := 1700

end Timings

namespace CdRom

variable {I : CdImage}

/-! ### The drive -/

/-- The number of CPU cycles needed to read a single sector. -/
def cyclesPerSector (cd : CdRom I) : U32 := (CPU_FREQ_HZ / 75) >>> cd.doubleSpeed.toNat

/-- The first position outside of track 1's pregap. -/
def pregapEnd (I : CdImage) : Outcome I.Msf :=
  match I.fromBcd 0x00 0x02 0x00 with
  | some m => pure m
  | none => throw .unwrapNone

/-- Execute a pending seek. -/
def doSeek (cd : CdRom I) : Outcome (CdRom I) := do
  let first ← pregapEnd I
  if I.lt cd.seekTarget first then throw (.panic "Seek to track 1 pregap")
  pure { cd with position := cd.seekTarget, seekTargetPending := false }

/-- The first status byte returned by many commands. -/
def driveStatus (cd : CdRom I) : U8 :=
  match cd.disc with
  | some _ => 1 <<< 1 ||| (if cd.readState.isIdle then 0 else 1) <<< 5
  -- no disc, pretend that the shell is open
  | none => 0x10

/-- The part of the sector that the host can read. -/
def sectorData (cd : CdRom I) : Outcome (List U8) :=
  if cd.readWholeSector then
    match I.data2352 cd.sector with
    | some d => pure (d.toList.drop 12)
    | none => throw (.panic "Failed to read whole sector")
  else
    match I.mode2XaPayload cd.sector with
    | some d => if d.length < 2048 then throw .outOfBounds else pure (d.take 2048)
    | none => throw (.panic "Failed to read sector")

/-- Copy bytes to the front of the RX buffer. -/
def fillRx (buf : Vector U8 2352) (data : List U8) : Outcome (Vector U8 2352) :=
  if data.length ≤ 2352 then
    pure (Vector.ofFn fun i => data.getD i.val (buf.get i))
  else throw .outOfBounds

/-- Called when a new sector must be read. -/
def readSector (cd : CdRom I) : Outcome (CdRom I) := do
  if cd.readPending then throw (.panic "Sector read while previous one is still pending")
  let cd ← match cd.disc with
    | some d =>
        match I.readSector d.image cd.sector cd.position with
        | some (image, sector) =>
            pure { cd with disc := some { d with image := image }, sector := sector }
        | none => throw (.panic "Couldn't read sector")
    | none => throw (.panic "Sector read without a disc")
  let data ← cd.sectorData
  let rx ← fillRx cd.rxBuffer data
  let cd := { cd with rxBuffer := rx, rxLen := BitVec.ofNat 16 data.length }
  match I.next cd.position with
  | some m => pure { cd with position := m, readPending := true }
  | none => throw (.panic "MSF overflow!")

/-! ### First responses -/

/-- The response most commands start with, the status byte. -/
def respondStatus (cd : CdRom I) : CdRom I := cd.respond [cd.driveStatus]

/-- Schedule the second response of a command. -/
def schedule (cd : CdRom I) (delay : U32) (handler : AsyncHandler) : Outcome (CdRom I) := do
  let subCpu ← cd.subCpu.scheduleAsyncResponse delay handler
  pure { cd with subCpu := subCpu }

def cmdGetStat (cd : CdRom I) : Outcome (CdRom I) := pure cd.respondStatus

def cmdSetLoc (cd : CdRom I) : Outcome (CdRom I) := do
  let (m, cd) := cd.popParam
  let (s, cd) := cd.popParam
  let (f, cd) := cd.popParam
  match I.fromBcd m s f with
  | some target =>
      pure { cd with seekTarget := target, seekTargetPending := true }.respondStatus
  | none => throw (.panic "Invalid MSF in set loc")

/-- Start a data read sequence, for both ReadN and ReadS. -/
def cmdRead (cd : CdRom I) : Outcome (CdRom I) := do
  let cd ← if cd.seekTargetPending then cd.doSeek else pure cd
  pure { cd with readState := .reading cd.cyclesPerSector }.respondStatus

/-- Stop reading sectors but remain at the same position. -/
def cmdPause (cd : CdRom I) : Outcome (CdRom I) := do
  let cd := cd.respondStatus
  let cd := { cd with readState := .idle }
  -- the read state has just been cleared, so the first delay is always taken
  let asyncDelay : U32 := if cd.readState.isIdle then 9000 else 1000000
  cd.schedule asyncDelay .pause

/-- Reinitialise the controller. -/
def cmdInit (cd : CdRom I) : Outcome (CdRom I) := do
  let cd := cd.respondStatus
  let cd := { cd with readState := .idle, readPending := false }
  cd.schedule 900000 .init

def cmdMute (cd : CdRom I) : Outcome (CdRom I) := pure cd.respondStatus

def cmdDemute (cd : CdRom I) : Outcome (CdRom I) := pure cd.respondStatus

/-- Filter for ADPCM sectors. -/
def cmdSetFilter (cd : CdRom I) : Outcome (CdRom I) := do
  let (file, cd) := cd.popParam
  let (channel, cd) := cd.popParam
  pure { cd with filterFile := file, filterChannel := channel }.respondStatus

/-- Configure the behaviour of the drive. -/
def cmdSetMode (cd : CdRom I) : Outcome (CdRom I) := do
  let (mode, cd) := cd.popParam
  let cd := { cd with
    doubleSpeed := mode.getLsbD 7
    xaAdpcmToSpu := mode.getLsbD 6
    readWholeSector := mode.getLsbD 5
    sectorSizeOverride := mode.getLsbD 4
    filterEnabled := mode.getLsbD 3
    reportInterrupts := mode.getLsbD 2
    autopause := mode.getLsbD 1
    cddaMode := mode.getLsbD 0 }
  if cd.cddaMode || cd.autopause || cd.reportInterrupts || cd.sectorSizeOverride then
    throw (.panic "CDROM: unhandled mode")
  pure cd.respondStatus

/-- One flag of the mode byte. -/
def modeBit (b : Bool) (i : ℕ) : U8 := (if b then 1 else 0) <<< i

/-- Return various parameters of the controller. -/
def cmdGetParam (cd : CdRom I) : Outcome (CdRom I) :=
  let mode := modeBit cd.doubleSpeed 7 ||| modeBit cd.xaAdpcmToSpu 6
    ||| modeBit cd.readWholeSector 5 ||| modeBit cd.sectorSizeOverride 4
    ||| modeBit cd.filterEnabled 3 ||| modeBit cd.reportInterrupts 2
    ||| modeBit cd.autopause 1 ||| modeBit cd.cddaMode 0
  pure (cd.respond [cd.driveStatus, mode, 0, cd.filterFile, cd.filterChannel])

/-- Return the contents of the Q subchannel. -/
def cmdGetLocP (cd : CdRom I) : Outcome (CdRom I) := do
  let first ← pregapEnd I
  if I.lt cd.position first then throw (.panic "GetLocP while in track1 pregap")
  let metadata := I.metadata cd.sector
  let (trackM, trackS, trackF) := I.intoBcd metadata.trackMsf
  let (absM, absS, absF) := I.intoBcd metadata.msf
  pure (cd.respond
    [metadata.track, metadata.index, trackM, trackS, trackF, absM, absS, absF])

/-- Execute a seek to the target of the previous set loc. -/
def cmdSeekL (cd : CdRom I) : Outcome (CdRom I) := do
  let cd ← cd.doSeek
  cd.respondStatus.schedule 1000000 .seekL

/-- The controller's internal version number. -/
def testVersion (cd : CdRom I) : CdRom I := cd.respond [0x98, 0x06, 0x10, 0xc3]

def cmdTest (cd : CdRom I) : Outcome (CdRom I) := do
  if cd.subCpu.params.len != 1 then
    throw (.panic "Unexpected number of parameters for CDROM test command")
  let (n, cd) := cd.popParam
  if n = 0x20 then pure cd.testVersion else throw (.panic "Unhandled CDROM test subcommand")

/-- Read the table of contents. -/
def cmdReadToc (cd : CdRom I) : Outcome (CdRom I) :=
  cd.respondStatus.schedule Timings.READ_TOC_ASYNC .readToc

/-- Read the CD-ROM's identification string. -/
def cmdGetId (cd : CdRom I) : Outcome (CdRom I) :=
  match cd.disc with
  | some _ => cd.respondStatus.schedule Timings.GET_ID_ASYNC .getId
  | none =>
      -- pretend the shell is open
      let cd := cd.respond [0x11, 0x80]
      pure { cd with subCpu := { cd.subCpu with irqCode := .error } }

/-! ### Second responses -/

def asyncPause (cd : CdRom I) : Outcome (U32 × CdRom I) :=
  pure (Timings.PAUSE_RX_PUSH, cd.respondStatus)

def asyncInit (cd : CdRom I) : Outcome (U32 × CdRom I) :=
  pure (Timings.INIT_RX_PUSH, { cd.respondStatus with
    position := I.zero
    seekTarget := I.zero
    readState := .idle
    doubleSpeed := false
    xaAdpcmToSpu := false
    readWholeSector := true
    sectorSizeOverride := false
    filterEnabled := false
    reportInterrupts := false
    autopause := false
    cddaMode := false })

def asyncSeekL (cd : CdRom I) : Outcome (U32 × CdRom I) :=
  pure (Timings.SEEK_L_RX_PUSH, cd.respondStatus)

def asyncReadToc (cd : CdRom I) : Outcome (U32 × CdRom I) :=
  pure (Timings.READ_TOC_RX_PUSH, cd.respondStatus)

/-- The last letter of the region string. -/
def regionLetter : Region → U8
  | .japan => 0x49
  | .northAmerica => 0x41
  | .europe => 0x45

def asyncGetId (cd : CdRom I) : Outcome (U32 × CdRom I) := do
  match cd.disc with
  | none => throw .unwrapNone
  | some disc =>
      let region ← disc.region
      pure (Timings.GET_ID_RX_PUSH,
        cd.respond ([cd.driveStatus, 0x00, 0x20, 0x00] ++ ascii "SCE" ++ [regionLetter region]))

/-- Run the handler of an asynchronous response: the delay until its first
byte is pushed, and the controller. -/
def runAsync (cd : CdRom I) : AsyncHandler → Outcome (U32 × CdRom I)
  | .pause => cd.asyncPause
  | .init => cd.asyncInit
  | .seekL => cd.asyncSeekL
  | .readToc => cd.asyncReadToc
  | .getId => cd.asyncGetId

/-! ### The command table -/

/-- The least and the greatest number of parameters of a command, and its
handler. -/
def commandTable (I : CdImage) (cmd : U8) :
    Option (U8 × U8 × (CdRom I → Outcome (CdRom I))) :=
  match cmd.toNat with
  | 0x01 => some (0, 0, cmdGetStat)
  | 0x02 => some (3, 3, cmdSetLoc)
  | 0x06 => some (0, 0, cmdRead)
  | 0x09 => some (0, 0, cmdPause)
  | 0x0a => some (0, 0, cmdInit)
  | 0x0b => some (0, 0, cmdMute)
  | 0x0c => some (0, 0, cmdDemute)
  | 0x0d => some (2, 2, cmdSetFilter)
  | 0x0e => some (1, 1, cmdSetMode)
  | 0x0f => some (0, 0, cmdGetParam)
  | 0x11 => some (0, 0, cmdGetLocP)
  | 0x15 => some (0, 0, cmdSeekL)
  | 0x19 => some (1, 1, cmdTest)
  | 0x1a => some (0, 0, cmdGetId)
  | 0x1b => some (0, 0, cmdRead)
  | 0x1e => some (0, 0, cmdReadToc)
  | _ => none

/-- Run the command designated by the `command` field. -/
def executeCommand (cd : CdRom I) : Outcome (CdRom I) :=
  match cd.command with
  | none => throw .unwrapNone
  | some cmd =>
      match commandTable I cmd with
      | none => throw (.panic "Unhandled CDROM command")
      | some (minParam, maxParam, handler) =>
          let nparams := cd.subCpu.params.len
          if nparams < minParam || nparams > maxParam then
            throw (.panic "Wrong number of parameters for command")
          else handler (cd.record (.executed cmd))

end CdRom

end Rustation
