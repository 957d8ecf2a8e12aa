import Rustation.CdRom.Fifo
import Rustation.Shared.SharedState

/-!
The state of the CD-ROM controller (`cdrom/mod.rs`, `cdrom/simple_rand.rs` and
the disc of `cdrom/disc.rs`).

The disc image library is outside the repository, so its types and operations
are a parameter, the structure `CdImage`.  The handler of an asynchronous
response, a function pointer in the source, is one of the five constructors of
`AsyncHandler`.

`CdRom.log` is a history variable: it records when a command byte is accepted,
executed and retired, and no function reads it.
-/

namespace Rustation

open Fallible

/-! ### The disc image library -/

/-- The position data of a sector, in BCD where the library has BCD. -/
structure Metadata (Msf : Type) where
  msf : Msf
  trackMsf : Msf
  track : U8
  index : U8

/-- What the controller uses of the `cdimage` crate. -/
structure CdImage where
  Msf : Type
  Sector : Type
  Image : Type
  zero : Msf
  fromBcd : U8 → U8 → U8 → Option Msf
  intoBcd : Msf → U8 × U8 × U8
  next : Msf → Option Msf
  lt : Msf → Msf → Bool
  empty : Sector
  /-- read the sector at a position over the given one, `none` on an error -/
  readSector : Image → Sector → Msf → Option (Image × Sector)
  metadata : Sector → Metadata Msf
  data2352 : Sector → Option (Vector U8 2352)
  mode2XaPayload : Sector → Option (List U8)

/-- A library that has no image at all, so that the drive is empty. -/
def noImage : CdImage where
  Msf := Unit
  Sector := Unit
  Image := Empty
  zero := ()
  fromBcd _ _ _ := some ()
  intoBcd _ := (0, 0, 0)
  next _ := some ()
  lt _ _ := false
  empty := ()
  readSector := nofun
  metadata _ := ⟨(), (), 0, 0⟩
  data2352 _ := none
  mode2XaPayload _ := none

/-! ### The disc -/

inductive Region where
  | japan | northAmerica | europe
  deriving DecidableEq, Repr

/-- The bytes of an ASCII string. -/
def ascii (s : String) : List U8 := s.toList.map fun c => BitVec.ofNat 8 c.toNat

/-- Disc serial number. -/
abbrev SerialNumber := Vector U8 10

def SerialNumber.region (serial : SerialNumber) : Option Region :=
  let key := serial.toList.take 4
  if key ∈ [ascii "SCPS", ascii "SLPS", ascii "SLPM", ascii "PAPX"] then some .japan
  else if key ∈ [ascii "SCUS", ascii "SLUS", ascii "LSP-"] then some .northAmerica
  else if key ∈ [ascii "SCES", ascii "SCED", ascii "SLES", ascii "SLED"] then some .europe
  else none

structure Disc (I : CdImage) where
  image : I.Image
  serial : SerialNumber

def Disc.region {I : CdImage} (disc : Disc I) : Outcome Region :=
  match disc.serial.region with
  | some r => pure r
  | none => throw (.panic "Can't establish the region")

/-! ### The pseudo-random delays -/

/-- XorShift generator with a hardcoded seed. -/
structure SimpleRand where
  state : U32
  deriving DecidableEq, Repr

def SimpleRand.new : SimpleRand := ⟨1⟩

def SimpleRand.next (r : SimpleRand) : U32 × SimpleRand :=
  let s := r.state
  let s := s ^^^ s <<< 6
  let s := s ^^^ s >>> 1
  let s := s ^^^ s <<< 11
  (s, ⟨s⟩)

/-! ### The sub-CPU -/

/-- CDROM disc state: a sector is expected after so many cycles. -/
inductive ReadState where
  | idle
  | reading (delay : U32)
  deriving DecidableEq, Repr

def ReadState.isIdle : ReadState → Bool
  | idle => true
  | reading _ => false

/-- The sub-CPU processing sequence. -/
inductive SubCpuSequence where
  | idle
  | commandPending
  | paramPush
  | execution
  | rxFlush
  | rxPush
  | busyDelay
  | irqDelay
  | asyncRxPush
  deriving DecidableEq, Repr

/-- IRQ codes used by the sub-CPU. -/
inductive IrqCode where
  | sectorReady | asyncOk | ok | error
  deriving DecidableEq, Repr

def IrqCode.code : IrqCode → U8
  | sectorReady => 1
  | asyncOk => 2
  | ok => 3
  | error => 5

/-- The methods an asynchronous response may point at. -/
inductive AsyncHandler where
  | pause | init | seekL | readToc | getId
  deriving DecidableEq, Repr

structure SubCpu where
  sequence : SubCpuSequence
  /-- countdown until the next step in `sequence` -/
  timer : U32
  params : Fifo
  response : Fifo
  /-- status for the current command -/
  irqCode : IrqCode
  /-- cycles until the handler must be run, and the handler -/
  asyncResponse : Option (U32 × AsyncHandler)

namespace SubCpu

def new : SubCpu := ⟨.idle, 0, .new, .new, .ok, none⟩

/-- The sub-CPU is executing a sequence. -/
def inCommand (s : SubCpu) : Bool := s.sequence != .idle

def asyncCommandPending (s : SubCpu) : Bool := s.asyncResponse.isSome

/-- Busy flag state, which goes down before the IRQ triggers. -/
def isBusy (s : SubCpu) : Bool :=
  match s.sequence with
  | .commandPending | .paramPush | .execution | .rxFlush | .rxPush | .busyDelay => true
  | _ => false

def startCommand (s : SubCpu) (pendingDelay : U32) : Outcome SubCpu :=
  if s.inCommand then throw (.assertion "self.in_command() == false")
  else if s.asyncCommandPending then
    throw (.panic "New CD command while still waiting for an async response")
  else
    pure { s with
      sequence := .commandPending
      timer := pendingDelay
      params := s.params.clear
      response := s.response.clear
      irqCode := .ok }

def scheduleAsyncResponse (s : SubCpu) (delay : U32) (handler : AsyncHandler) : Outcome SubCpu :=
  if s.asyncResponse.isSome then throw (.assertion "self.async_response.is_none()")
  else pure { s with asyncResponse := some (delay, handler) }

end SubCpu

/-! ### The controller -/

/-- CD-DA audio playback mixer. -/
structure Mixer where
  cdLeftToSpuLeft : U8
  cdLeftToSpuRight : U8
  cdRightToSpuLeft : U8
  cdRightToSpuRight : U8
  deriving DecidableEq, Repr

/-- What happens to a command byte. -/
inductive CommandEvent where
  /-- written to the command register -/
  | accepted (cmd : U8)
  /-- passed to its handler -/
  | executed (cmd : U8)
  /-- the `command` field returned to `None` -/
  | retired (cmd : U8)
  deriving DecidableEq, Repr

/-- The CDROM drive, controller and decoder. -/
structure CdRom (I : CdImage) where
  index : U8
  hostParams : Fifo
  hostResponse : Fifo
  /-- pending command number, if any -/
  command : Option U8
  irqFlags : U8
  irqMask : U8
  rxBuffer : Vector U8 2352
  sector : I.Sector
  rxActive : Bool
  subCpu : SubCpu
  rxIndex : U16
  rxLen : U16
  readState : ReadState
  /-- a sector has been read but not yet notified -/
  readPending : Bool
  disc : Option (Disc I)
  seekTarget : I.Msf
  seekTargetPending : Bool
  position : I.Msf
  doubleSpeed : Bool
  xaAdpcmToSpu : Bool
  readWholeSector : Bool
  sectorSizeOverride : Bool
  cddaMode : Bool
  autopause : Bool
  reportInterrupts : Bool
  filterEnabled : Bool
  filterFile : U8
  filterChannel : U8
  mixer : Mixer
  rand : SimpleRand
  /-- history of the command bytes, oldest first -/
  log : List CommandEvent

namespace CdRom

variable {I : CdImage}

def new (disc : Option (Disc I)) : CdRom I where
  index := 0
  hostParams := .new
  hostResponse := .new
  command := none
  irqFlags := 0
  irqMask := 0
  rxBuffer := Vector.replicate 2352 0
  sector := I.empty
  rxActive := false
  subCpu := .new
  rxIndex := 0
  rxLen := 0
  readState := .idle
  readPending := false
  disc := disc
  seekTarget := I.zero
  seekTargetPending := false
  position := I.zero
  doubleSpeed := false
  xaAdpcmToSpu := false
  readWholeSector := true
  sectorSizeOverride := false
  cddaMode := false
  autopause := false
  reportInterrupts := false
  filterEnabled := false
  filterFile := 0
  filterChannel := 0
  mixer := ⟨0, 0, 0, 0⟩
  rand := .new
  log := []

/-- Append to the history. -/
def record (cd : CdRom I) (e : CommandEvent) : CdRom I := { cd with log := cd.log ++ [e] }

/-- Queue the bytes of a response. -/
def respond (cd : CdRom I) (bytes : List U8) : CdRom I :=
  { cd with subCpu := { cd.subCpu with response := cd.subCpu.response.pushSlice bytes } }

/-- Take the next parameter of the command. -/
def popParam (cd : CdRom I) : U8 × CdRom I :=
  let (b, params) := cd.subCpu.params.pop
  (b, { cd with subCpu := { cd.subCpu with params := params } })

end CdRom

end Rustation
