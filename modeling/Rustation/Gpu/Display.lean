import Rustation.Shared.SharedState
import Rustation.Shared.FracCycles

/-!
The video output of the GPU (`gpu/mod.rs`): the fields that `sync` reads and
writes, the advance of the beam, and the prediction of the next forced
synchronisation.

The ratio of the GPU clock to the CPU clock is computed in floating point from
the video standard (`gpu_to_cpu_clock_ratio`).  It is a parameter `ratio` here,
the fixed point number the computation returns for each standard.

* `Display.advance`: the part of `sync` that moves the beam by `delta` cycles;
* `Display.sync`, `Display.predictNextSync`: the whole functions;
* `Display.elapsed`: the time since the last synchronisation, which `sync`
  takes off the time sheet.
-/

namespace Rustation

/-- Interlaced output splits each frame in two fields. -/
inductive Field where
  | top | bottom
  deriving DecidableEq, Repr

/-- The value of the enumeration. -/
def Field.value : Field → ℕ
  | .top => 1
  | .bottom => 0

/-- Video output horizontal resolution, as the three bits of the status word. -/
structure HorizontalRes where
  bits : U8
  deriving DecidableEq, Repr

namespace HorizontalRes

def fromFields (hr1 hr2 : U8) : HorizontalRes := ⟨(hr2 &&& 1) ||| ((hr1 &&& 3) <<< 1)⟩

def intoStatus (h : HorizontalRes) : U32 := h.bits.setWidth 32 <<< 16

/-- The divider that makes the dotclock from the GPU clock. -/
def dotclockDivider (h : HorizontalRes) : U8 :=
  if h.bits &&& 1 ≠ 0 then 7
  else
    match ((h.bits >>> 1) &&& 3).toNat with
    | 0 => 10
    | 1 => 8
    | 2 => 5
    | _ => 4

/-- The approximate width of the displayed portion of the frame buffer. -/
def width (h : HorizontalRes) : U16 :=
  if h.bits &&& 1 ≠ 0 then 368
  else
    match ((h.bits >>> 1) &&& 3).toNat with
    | 0 => 256
    | 1 => 320
    | 2 => 512
    | _ => 640

end HorizontalRes

inductive VerticalRes where
  | y240Lines | y480Lines
  deriving DecidableEq, Repr

def VerticalRes.height : VerticalRes → U16
  | .y240Lines => 240
  | .y480Lines => 480

inductive VMode where
  | ntsc | pal
  deriving DecidableEq, Repr

/-- The standard of the console, which sets the GPU clock. -/
inductive VideoClock where
  | ntsc | pal
  deriving DecidableEq, Repr

/-- The state of the video output. -/
structure Display where
  field : Field
  hres : HorizontalRes
  vmode : VMode
  interlaced : Bool
  /-- first line of the display area, relative to VSYNC -/
  displayLineStart : U16
  /-- last line of the display area, relative to VSYNC -/
  displayLineEnd : U16
  vblankInterrupt : Bool
  /-- fraction of a GPU cycle left over by the clock conversion -/
  gpuClockPhase : U16
  displayLine : U16
  /-- GPU clock tick within the current line -/
  displayLineTick : U16
  standard : VideoClock
  deriving DecidableEq, Repr

namespace Display

def new (standard : VideoClock) : Display where
  field := .top
  hres := .fromFields 0 0
  vmode := .ntsc
  interlaced := false
  displayLineStart := 0x10
  displayLineEnd := 0x100
  vblankInterrupt := false
  gpuClockPhase := 0
  displayLine := 0
  displayLineTick := 0
  standard := standard

/-- GPU clock cycles in a line and lines in a frame. -/
def vmodeTimings (d : Display) : U16 × U16 :=
  match d.vmode with
  | .ntsc => (3412, 263)
  | .pal => (3404, 314)

def inVblank (d : Display) : Bool :=
  d.displayLine < d.displayLineStart || d.displayLine ≥ d.displayLineEnd

variable (ratio : VideoClock → FracCycles)

/-- The part of `sync` that moves the beam by `delta` CPU cycles. -/
def advance (d : Display) (delta : Cycles) : Display :=
  -- GPU time, with the leftover of the last conversion
  let delta := d.gpuClockPhase.setWidth 64 + delta * (ratio d.standard).fp
  let gpuClockPhase := delta.setWidth 16
  let delta := delta >>> 16
  let ticksPerLine := d.vmodeTimings.1.setWidth 64
  let linesPerFrame := d.vmodeTimings.2.setWidth 64
  let lineTick := d.displayLineTick.setWidth 64 + delta
  let line := d.displayLine.setWidth 64 + lineTick / ticksPerLine
  let d := { d with
    gpuClockPhase := gpuClockPhase
    displayLineTick := (lineTick % ticksPerLine).setWidth 16 }
  if line > linesPerFrame then
    -- a new frame
    let nframes := line / linesPerFrame
    let field :=
      if (nframes + BitVec.ofNat 64 d.field.value) &&& 1 ≠ 0 then Field.top else Field.bottom
    { d with
      field := if d.interlaced then field else d.field
      displayLine := (line % linesPerFrame).setWidth 16 }
  else
    { d with displayLine := line.setWidth 16 }

/-- The number of CPU cycles until the next change of the blanking signal. -/
def nextSyncDelta (d : Display) : Cycles :=
  let ticksPerLine := d.vmodeTimings.1.setWidth 64
  let linesPerFrame := d.vmodeTimings.2.setWidth 64
  let curLine := d.displayLine.setWidth 64
  let displayLineStart := d.displayLineStart.setWidth 64
  let displayLineEnd := d.displayLineEnd.setWidth 64
  -- to the start of the next line
  let delta := ticksPerLine - d.displayLineTick.setWidth 64
  let delta :=
    if curLine ≥ displayLineEnd then
      -- blanking at the end of the frame: on to its end in the next frame
      delta + (linesPerFrame - curLine) * ticksPerLine + (displayLineStart - 1) * ticksPerLine
    else if curLine < displayLineStart then
      -- blanking at the beginning of the frame
      delta + (displayLineStart - 1 - curLine) * ticksPerLine
    else
      -- active video
      delta + (displayLineEnd - 1 - curLine) * ticksPerLine
  let delta := delta <<< FracCycles.fracBits
  let delta := delta - d.gpuClockPhase.setWidth 64
  -- back to CPU cycles, rounding up not to be triggered too early
  (delta + (ratio d.standard).fp - 1) / (ratio d.standard).fp

def predictNextSync (d : Display) (sh : SharedState) : SharedState :=
  { sh with tk := sh.tk.setNextSyncDelta .gpu (d.nextSyncDelta ratio) }

/-- Bring the video output up to the current date. -/
def sync (d : Display) (sh : SharedState) : Display × SharedState :=
  let (delta, tk) := sh.tk.sync .gpu
  let sh := { sh with tk := tk }
  let d := d.advance ratio delta
  let vblankInterrupt := d.inVblank
  let sh :=
    if !d.vblankInterrupt && vblankInterrupt then
      { sh with irqState := sh.irqState.assert .vBlank }
    else sh
  let sh :=
    -- the end of vertical blanking starts a new frame
    if d.vblankInterrupt && !vblankInterrupt then
      { sh with counters := { sh.counters with frame := sh.counters.frame + 1 } }
    else sh
  let d := { d with vblankInterrupt := vblankInterrupt }
  (d, d.predictNextSync ratio sh)

/-- The period of the dotclock, in CPU clock periods. -/
def dotclockPeriod (d : Display) : FracCycles :=
  .fromFp ((ratio d.standard).fp * d.hres.dotclockDivider.setWidth 64)

/-- The period of the horizontal synchronisation, in CPU clock periods. -/
def hsyncPeriod (d : Display) : FracCycles :=
  (FracCycles.fromCycles (d.vmodeTimings.1.setWidth 64)).divide (ratio d.standard)

/-- The position within the line, in CPU clock periods. -/
def hsyncPhase (d : Display) : FracCycles :=
  let phase := FracCycles.fromCycles (d.displayLineTick.setWidth 64)
  let clockPhase := FracCycles.fromFp (d.gpuClockPhase.setWidth 64)
  (phase.add clockPhase).multiply (ratio d.standard)

end Display

end Rustation
