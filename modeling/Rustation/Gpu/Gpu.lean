import Rustation.Gpu.Gp0
import Rustation.Timers.Timer

/-!
The whole GPU (`gpu/mod.rs`): the video output, the GP0 port, the fields that
only the GP1 port and the status register use, and the two register ports as
the bus sees them.

* `Gpu.gp1`: the commands of the GP1 port, which may reconfigure the timers;
* `Gpu.status`, `Gpu.load`, `Gpu.store`: the registers;
* `Gpu.Access`, `Gpu.access`: what the rest of the console does to the GPU.
-/

namespace Rustation

open Fallible

/-- Display area colour depth. -/
inductive DisplayDepth where
  | d15Bits | d24Bits
  deriving DecidableEq, Repr

def DisplayDepth.value : DisplayDepth → U32
  | .d15Bits => 0
  | .d24Bits => 1

/-- Requested DMA direction. -/
inductive DmaDirection where
  | off | fifo | cpuToGp0 | vRamToCpu
  deriving DecidableEq, Repr

def DmaDirection.value : DmaDirection → U32
  | .off => 0
  | .fifo => 1
  | .cpuToGp0 => 2
  | .vRamToCpu => 3

def VerticalRes.value : VerticalRes → U32
  | .y240Lines => 0
  | .y480Lines => 1

def VMode.value : VMode → U32
  | .ntsc => 0
  | .pal => 1

structure Gpu extends Display, Gp0 where
  dithering : Bool
  /-- allow drawing to the display area -/
  drawToDisplay : Bool
  textureDisable : Bool
  vres : VerticalRes
  displayDepth : DisplayDepth
  displayDisabled : Bool
  /-- first column of the display area in VRAM -/
  displayVramXStart : U16
  /-- first line of the display area in VRAM -/
  displayVramYStart : U16
  /-- display output horizontal start, relative to HSYNC -/
  displayHorizStart : U16
  /-- display output horizontal end, relative to HSYNC -/
  displayHorizEnd : U16
  dmaDirection : DmaDirection
  gp0Interrupt : Bool
  /-- next word returned by the GPUREAD command -/
  readWord : U32

namespace Gpu

def new (standard : VideoClock) : Gpu where
  toDisplay := .new standard
  toGp0 := .new
  dithering := false
  drawToDisplay := false
  textureDisable := false
  vres := .y240Lines
  displayDepth := .d15Bits
  displayDisabled := true
  displayVramXStart := 0
  displayVramYStart := 0
  displayHorizStart := 0x200
  displayHorizEnd := 0xc00
  dmaDirection := .off
  gp0Interrupt := false
  readWord := 0

/-- A GPU, the shared state and the timers it was handed, and the calls it made
of the renderer. -/
abbrev Reaction := Outcome (Gpu × SharedState × Timers × List Call)

variable (ratio : VideoClock → FracCycles)

def sync (g : Gpu) (sh : SharedState) : Gpu × SharedState :=
  let (d, sh) := g.toDisplay.sync ratio sh
  ({ g with toDisplay := d }, sh)

def gp0 (g : Gpu) (val : U32) : Outcome (Gpu × List Call) := do
  let (port, calls) ← g.toGp0.gp0 val
  pure ({ g with toGp0 := port }, calls)

/-! ### The status register -/

/-- The index of the currently displayed VRAM line, which wraps around. -/
def displayedVramLine (g : Gpu) : U16 :=
  let offset :=
    if g.interlaced then g.displayLine * 2 + BitVec.ofNat 16 g.field.value else g.displayLine
  (g.displayVramYStart + offset) &&& 0x1ff

/-- A flag in bit `i` of the status word. -/
def flag (b : Bool) (i : ℕ) : U32 := (BitVec.ofBool b).setWidth 32 <<< i

def status (g : Gpu) : U32 :=
  let drawMode : U32 := g.drawMode.setWidth 32
  let r := drawMode &&& 0x7ff ||| ((drawMode >>> 11) &&& 1) <<< 15
    ||| flag g.forceSetMaskBit 11 ||| flag g.preserveMaskedPixels 12
    ||| BitVec.ofNat 32 g.field.value <<< 13 ||| g.hres.intoStatus
    ||| g.vres.value <<< 19 ||| g.vmode.value <<< 20 ||| g.displayDepth.value <<< 21
    ||| flag g.interlaced 22 ||| flag g.displayDisabled 23 ||| flag g.gp0Interrupt 24
    -- always ready for commands, for a VRAM read and for a DMA block
    ||| 1 <<< 26 ||| 1 <<< 27 ||| 1 <<< 28
    ||| g.dmaDirection.value <<< 29
  -- the parity of the displayed line, outside of the vertical blanking
  let r :=
    if !g.inVblank then r ||| ((g.displayedVramLine &&& 1).setWidth 32) <<< 31 else r
  let dmaRequest : U32 :=
    match g.dmaDirection with
    | .off => 0
    | .fifo => 1
    | .cpuToGp0 => (r >>> 28) &&& 1
    | .vRamToCpu => (r >>> 27) &&& 1
  r ||| dmaRequest <<< 25

/-- Reads of the frame buffer are not implemented by the source. -/
def read (g : Gpu) : U32 := g.readWord

/-! ### The GP1 port -/

/-- Tell the renderer about the display mode. -/
def updateDisplayMode (g : Gpu) : Call :=
  .setDisplayMode (g.displayVramXStart, g.displayVramYStart) (g.hres.width, g.vres.height)
    (g.displayDepth == .d24Bits)

/-- GP1(0x01). -/
def gp1ResetCommandBuffer (g : Gpu) : Gpu :=
  { g with gp0Command := .new, gp0WordsRemaining := 0, gp0Handler := .handleCommand }

/-- GP1(0x02). -/
def gp1AcknowledgeIrq (g : Gpu) : Gpu := { g with gp0Interrupt := false }

/-- GP1(0x00): the clock phase, the pending interrupt of the display and the
state of a polyline are left as they are. -/
def gp1Reset (g : Gpu) (sh : SharedState) : Gpu × SharedState :=
  let g := { g with
    toDrawing := .new
    dithering := false
    drawToDisplay := false
    textureDisable := false
    dmaDirection := .off
    displayDisabled := true
    displayVramXStart := 0
    displayVramYStart := 0
    hres := .fromFields 0 0
    vres := .y240Lines
    field := .top
    vmode := .ntsc
    interlaced := true
    displayHorizStart := 0x200
    displayHorizEnd := 0xc00
    displayLineStart := 0x10
    displayLineEnd := 0x100
    displayDepth := .d15Bits
    displayLine := 0
    displayLineTick := 0 }
  g.gp1ResetCommandBuffer.gp1AcknowledgeIrq.sync ratio sh

/-- GP1(0x03). -/
def gp1DisplayEnable (g : Gpu) (val : U32) : Gpu := { g with displayDisabled := val &&& 1 != 0 }

/-- GP1(0x04). -/
def gp1DmaDirection (g : Gpu) (val : U32) : Gpu :=
  { g with dmaDirection :=
      match (val &&& 3).toNat with
      | 0 => .off
      | 1 => .fifo
      | 2 => .cpuToGp0
      | _ => .vRamToCpu }

/-- GP1(0x05). -/
def gp1DisplayVramStart (g : Gpu) (val : U32) : Gpu :=
  { g with
    displayVramXStart := (val &&& 0x3fe).setWidth 16
    displayVramYStart := ((val >>> 10) &&& 0x1ff).setWidth 16 }

/-- GP1(0x06). -/
def gp1DisplayHorizontalRange (g : Gpu) (val : U32) : Gpu :=
  { g with
    displayHorizStart := (val &&& 0xfff).setWidth 16
    displayHorizEnd := ((val >>> 12) &&& 0xfff).setWidth 16 }

/-- GP1(0x07). -/
def gp1DisplayVerticalRange (g : Gpu) (sh : SharedState) (val : U32) : Gpu × SharedState :=
  sync ratio { g with
    displayLineStart := (val &&& 0x3ff).setWidth 16
    displayLineEnd := ((val >>> 10) &&& 0x3ff).setWidth 16 } sh

/-- GP1(0x08). -/
def gp1DisplayMode (g : Gpu) (sh : SharedState) (val : U32) : Outcome (Gpu × SharedState) :=
  let hr1 : U8 := (val &&& 3).setWidth 8
  let hr2 : U8 := ((val >>> 6) &&& 1).setWidth 8
  let g := { g with
    hres := .fromFields hr1 hr2
    vres := if val &&& 0x4 ≠ 0 then .y480Lines else .y240Lines
    vmode := if val &&& 0x8 ≠ 0 then .pal else .ntsc
    displayDepth := if val &&& 0x10 ≠ 0 then .d24Bits else .d15Bits
    interlaced := val &&& 0x20 != 0
    field := .top }
  if val &&& 0x80 ≠ 0 then throw (.panic "Unsupported display mode") else pure (g.sync ratio sh)

/-- GP1(0x10). -/
def gp1GetInfo (g : Gpu) (val : U32) : Outcome Gpu := do
  let v ← match (val &&& 0xf).toNat with
    | 3 => pure (g.drawingAreaLeft.setWidth 32 ||| g.drawingAreaTop.setWidth 32 <<< 10)
    | 4 => pure (g.drawingAreaRight.setWidth 32 ||| g.drawingAreaBottom.setWidth 32 <<< 10)
    | 5 =>
        let x := g.drawingOffset.1.signExtend 32 &&& 0x7ff
        let y := g.drawingOffset.2.signExtend 32 &&& 0x7ff
        pure (x ||| y <<< 11)
    | 7 => pure 2
    | _ => throw (.panic "Unsupported GP1 info command")
  pure { g with readWord := v }

def gp1 (g : Gpu) (sh : SharedState) (timers : Timers) (val : U32) : Reaction :=
  match ((val >>> 24) &&& 0xff).toNat with
  | 0x00 => do
      let (g, sh) := g.gp1Reset ratio sh
      let (timers, sh) ← timers.videoTimingsChanged ratio sh g.toDisplay
      pure (g, sh, timers,
        [g.updateDisplayMode, Gp0.updateDrawArea g.toDrawing, .setDrawOffset 0 0])
  | 0x01 => pure (g.gp1ResetCommandBuffer, sh, timers, [])
  | 0x02 => pure (g.gp1AcknowledgeIrq, sh, timers, [])
  | 0x03 => pure (g.gp1DisplayEnable val, sh, timers, [])
  | 0x04 => pure (g.gp1DmaDirection val, sh, timers, [])
  | 0x05 =>
      let counters :=
        { sh.counters with framebufferSwap := sh.counters.framebufferSwap + 1 }
      pure (g.gp1DisplayVramStart val, { sh with counters := counters }, timers, [])
  | 0x06 => pure (g.gp1DisplayHorizontalRange val, sh, timers, [])
  | 0x07 =>
      let (g, sh) := g.gp1DisplayVerticalRange ratio sh val
      pure (g, sh, timers, [])
  | 0x08 => do
      let (g, sh) ← g.gp1DisplayMode ratio sh val
      let (timers, sh) ← timers.videoTimingsChanged ratio sh g.toDisplay
      pure (g, sh, timers, [g.updateDisplayMode])
  | 0x10 => do
      let g ← g.gp1GetInfo val
      pure (g, sh, timers, [])
  | _ => throw (.panic "Unhandled GP1 command")

/-! ### The registers -/

def load (g : Gpu) (sh : SharedState) (width : Width) (offset : U32) :
    Outcome (U32 × Gpu × SharedState) :=
  if width.size ≠ 4 then throw (.panic "Unhandled GPU load")
  else
    let (g, sh) := g.sync ratio sh
    match offset.toNat with
    | 0 => pure (g.read, g, sh)
    | 4 => pure (g.status, g, sh)
    | _ => throw .unreachable

def store (g : Gpu) (sh : SharedState) (timers : Timers) (width : Width) (offset val : U32) :
    Reaction :=
  if width.size ≠ 4 then throw (.panic "Unhandled GPU load")
  else
    let (g, sh) := g.sync ratio sh
    match offset.toNat with
    | 0 => do
        let (g, calls) ← g.gp0 val
        pure (g, sh, timers, calls)
    | 4 => g.gp1 ratio sh timers val
    | _ => throw .unreachable

/-- What the console does to the GPU: a synchronisation, a register access, or a
word of a DMA transfer. -/
inductive Access where
  | sync
  | load (width : Width) (offset : U32)
  | store (timers : Timers) (width : Width) (offset val : U32)
  | gp0 (val : U32)

/-- The GPU an access leaves. -/
def access (g : Gpu) (sh : SharedState) : Access → Outcome Gpu
  | .sync => pure (g.sync ratio sh).1
  | .load width offset => do
      let (_, g, _) ← g.load ratio sh width offset
      pure g
  | .store timers width offset val => do
      let (g, _) ← g.store ratio sh timers width offset val
      pure g
  | .gp0 val => do
      let (g, _) ← g.gp0 val
      pure g

end Gpu

end Rustation
