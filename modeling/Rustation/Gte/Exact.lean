import Rustation.Gte.Commands

/-!
The commands of the Geometry Transform Engine over unbounded integers.

`Exact` is the register file with an unbounded integer in place of every
register a command writes, and `Exact.run` the same computation as
`Gte.runOpcode` with the shift of 12 bits: every truncation, cast, saturation
and clamp is the identity, arithmetic shifts are floor divisions, and the
divider is the one of the hardware.  `Gte.exact` reads a register file as such
a state.
-/

namespace Rustation

open Fallible Machine

/-- The registers that commands read and never write. -/
structure Inputs where
  ofx : I32
  ofy : I32
  h : U16
  dqa : I16
  dqb : I32
  zsf3 : I16
  zsf4 : I16
  matrices : Fin 3 → Fin 3 → Fin 3 → I16
  controlVectors : Fin 4 → Fin 3 → I32
  v : Fin 3 → Fin 3 → I16
  rgb : Rgbx

/-- A register file with unbounded results. -/
structure Exact where
  inputs : Inputs
  v3 : Fin 3 → ℤ
  mac : Fin 4 → ℤ
  ir : Fin 4 → ℤ
  otz : ℤ
  xyFifo : Fin 4 → ℤ × ℤ
  zFifo : Fin 4 → ℤ
  /-- the three components of a colour, and the byte that is passed along -/
  rgbFifo : Fin 3 → (Fin 3 → ℤ) × U8

/-- A register file read as integers. -/
def Gte.exact (g : Gte) : Exact where
  inputs :=
    { ofx := g.ofx
      ofy := g.ofy
      h := g.h
      dqa := g.dqa
      dqb := g.dqb
      zsf3 := g.zsf3
      zsf4 := g.zsf4
      matrices := g.matrices
      controlVectors := g.controlVectors
      v := fun i => g.v i.castSucc
      rgb := g.rgb }
  v3 i := (g.v 3 i).toInt
  mac i := (g.mac i).toInt
  ir i := (g.ir i).toInt
  otz := g.otz.toNat
  xyFifo i := ((g.xyFifo i).1.toInt, (g.xyFifo i).2.toInt)
  zFifo i := (g.zFifo i).toNat
  rgbFifo i := (Gte.Rgbx.component (g.rgbFifo i), (g.rgbFifo i).x)

namespace Exact

/-! ### Reading and writing -/

/-- The vector of a number, the fourth being the intermediate one. -/
def vector (x : Exact) : Fin 4 → Fin 3 → ℤ
  | 0 => fun i => (x.inputs.v 0 i).toInt
  | 1 => fun i => (x.inputs.v 1 i).toInt
  | 2 => fun i => (x.inputs.v 2 i).toInt
  | 3 => x.v3

def controlVector (x : Exact) (which : ControlVector) (i : Fin 3) : ℤ :=
  (x.inputs.controlVectors which.index i).toInt

def setMac (x : Exact) (i : Fin 4) (val : ℤ) : Exact :=
  { x with mac := Function.update x.mac i val }

def setIr (x : Exact) (i : Fin 4) (val : ℤ) : Exact := { x with ir := Function.update x.ir i val }

def eachComponent (x : Exact) (body : Exact → Fin 3 → Exact) : Exact :=
  body (body (body x 0) 1) 2

/-! ### Shared parts of the commands -/

def macToIr (x : Exact) : Exact := ((x.setIr 1 (x.mac 1)).setIr 2 (x.mac 2)).setIr 3 (x.mac 3)

def pushColor (x : Exact) (color : Fin 3 → ℤ) : Exact :=
  { x with rgbFifo := ![x.rgbFifo 1, x.rgbFifo 2, (color, x.inputs.rgb.x)] }

def macToRgbFifo (x : Exact) : Exact := x.pushColor fun i => x.mac i.succ / 2 ^ 4

def irToV3 (x : Exact) : Exact := { x with v3 := fun i => x.ir i.succ }

/-- A row of a matrix product, with 12 fractional bits. -/
def row (x : Exact) (mat : Fin 3) (vectorIndex : Fin 4) (base : ℤ) (r : Fin 3) : ℤ :=
  base * 2 ^ 12 + x.vector vectorIndex 0 * (x.inputs.matrices mat r 0).toInt
    + x.vector vectorIndex 1 * (x.inputs.matrices mat r 1).toInt
    + x.vector vectorIndex 2 * (x.inputs.matrices mat r 2).toInt

def multiplyRow (mat : Fin 3) (vectorIndex : Fin 4) (cv : ControlVector) (x : Exact) (r : Fin 3) :
    Exact :=
  x.setMac r.succ (x.row mat vectorIndex (x.controlVector cv r) r / 2 ^ 12)

def multiply (x : Exact) (mat : Fin 3) (vectorIndex : Fin 4) (cv : ControlVector) : Exact :=
  (x.eachComponent (multiplyRow mat vectorIndex cv)).macToIr

def depthCue (x : Exact) (i : Fin 3) (base : ℤ) : Exact :=
  let fc := x.controlVector .farColor i * 2 ^ 12
  x.setMac i.succ ((base + x.ir 0 * ((fc - base) / 2 ^ 12)) / 2 ^ 12)

def shade (x : Exact) (i : Fin 3) : ℤ :=
  Gte.Rgbx.component x.inputs.rgb i * 2 ^ 4 * x.ir i.succ

/-! ### Perspective transformation -/

def pushZ (x : Exact) (z : ℤ) : Exact :=
  { x with zFifo := ![x.zFifo 1, x.zFifo 2, x.zFifo 3, z] }

def pushXy (x : Exact) (xy : ℤ × ℤ) : Exact :=
  { x with xyFifo := ![x.xyFifo 1, x.xyFifo 2, xy, xy] }

/-- The quotient of the divider. -/
def factor (x : Exact) (z : ℤ) : ℤ :=
  match divide x.inputs.h (BitVec.ofInt 16 z) with
  | .ok q => q.toNat
  | .error _ => 0

/-- Rotation, translation and projection of a vector, with the projection
factor. -/
def rtp (x : Exact) (vectorIndex : Fin 4) : ℤ × Exact :=
  let x := (x.eachComponent (multiplyRow 0 vectorIndex .translation)).macToIr
  let x := x.pushZ (x.mac 3)
  let factor := x.factor (x.mac 3)
  let screenX := (x.ir 1 * factor + x.inputs.ofx.toInt) / 2 ^ 16
  let screenY := (x.ir 2 * factor + x.inputs.ofy.toInt) / 2 ^ 16
  (factor, x.pushXy (screenX, screenY))

def depthQueuing (x : Exact) (factor : ℤ) : Exact :=
  let depth := x.inputs.dqb.toInt + x.inputs.dqa.toInt * factor
  (x.setMac 0 depth).setIr 0 (depth / 2 ^ 12)

/-! ### The commands -/

def nclip (x : Exact) : Exact :=
  let (x0, y0) := x.xyFifo 0
  let (x1, y1) := x.xyFifo 1
  let (x2, y2) := x.xyFifo 2
  x.setMac 0 (x0 * (y1 - y2) + x1 * (y2 - y0) + x2 * (y0 - y1))

def op (x : Exact) : Exact :=
  let r := fun i => (x.inputs.matrices 0 i i).toInt
  let mac1 := (r 1 * x.ir 3 - r 2 * x.ir 2) / 2 ^ 12
  let mac2 := (r 2 * x.ir 1 - r 0 * x.ir 3) / 2 ^ 12
  let mac3 := (r 0 * x.ir 2 - r 1 * x.ir 1) / 2 ^ 12
  (((x.setMac 1 mac1).setMac 2 mac2).setMac 3 mac3).macToIr

/-- Interpolation of a colour. -/
def depthCueColor (x : Exact) (color : Fin 3 → ℤ) : Exact :=
  (x.eachComponent fun x i => x.depthCue i (color i * 2 ^ 16)).macToIr.macToRgbFifo

def dpcs (x : Exact) : Exact := x.depthCueColor (Gte.Rgbx.component x.inputs.rgb)

def dcpl (x : Exact) : Exact :=
  (x.eachComponent fun x i => x.depthCue i (x.shade i)).macToIr.macToRgbFifo

def dpc (x : Exact) : Exact := x.depthCueColor (x.rgbFifo 0).1

def dpct (x : Exact) : Exact := x.dpc.dpc.dpc

def intpl (x : Exact) : Exact :=
  (x.eachComponent fun x i => x.depthCue i (x.ir i.succ * 2 ^ 12)).macToIr.macToRgbFifo

/-- Multiply with the matrix and vectors a command selects. -/
def mvmva (x : Exact) (config : CommandConfig) : Exact :=
  match config.matrix.index with
  | some mat => x.irToV3.multiply mat config.vectorMul config.vectorAdd
  | none => x

def applyColor (x : Exact) : Exact :=
  (x.eachComponent fun x i => x.setMac i.succ (x.shade i / 2 ^ 12)).macToIr.macToRgbFifo

def cc (x : Exact) : Exact := (x.irToV3.multiply 2 3 .backgroundColor).applyColor

def lightColor (x : Exact) (vectorIndex : Fin 4) : Exact :=
  (x.multiply 1 vectorIndex .zero).irToV3.multiply 2 3 .backgroundColor

def ncc (x : Exact) (vectorIndex : Fin 4) : Exact := (x.lightColor vectorIndex).applyColor

def nc (x : Exact) (vectorIndex : Fin 4) : Exact := (x.lightColor vectorIndex).macToRgbFifo

def ncd (x : Exact) (vectorIndex : Fin 4) : Exact := (x.lightColor vectorIndex).dcpl

def triple (body : Exact → Fin 4 → Exact) (x : Exact) : Exact := body (body (body x 0) 1) 2

def sqr (x : Exact) : Exact :=
  (x.eachComponent fun x i => x.setMac i.succ (x.ir i.succ * x.ir i.succ / 2 ^ 12)).macToIr

def storeAverage (x : Exact) (average : ℤ) : Exact :=
  { x.setMac 0 average with otz := average / 2 ^ 12 }

def avsz3 (x : Exact) : Exact :=
  x.storeAverage (x.inputs.zsf3.toInt * (x.zFifo 1 + x.zFifo 2 + x.zFifo 3))

def avsz4 (x : Exact) : Exact :=
  x.storeAverage (x.inputs.zsf4.toInt * (x.zFifo 0 + x.zFifo 1 + x.zFifo 2 + x.zFifo 3))

def rtps (x : Exact) : Exact :=
  let (factor, x) := x.rtp 0
  x.depthQueuing factor

def rtpt (x : Exact) : Exact :=
  let (factor, x) := (((x.rtp 0).2.rtp 1).2.rtp 2)
  x.depthQueuing factor

def gpf (x : Exact) : Exact :=
  let ir0 := x.ir 0
  (x.eachComponent fun x i => x.setMac i.succ (x.ir i.succ * ir0 / 2 ^ 12)).macToIr.macToRgbFifo

def gpl (x : Exact) : Exact :=
  let ir0 := x.ir 0
  (x.eachComponent fun x i =>
    x.setMac i.succ ((x.mac i.succ * 2 ^ 12 + x.ir i.succ * ir0) / 2 ^ 12)).macToIr.macToRgbFifo

/-- The computation of a command. -/
def run (x : Exact) (config : CommandConfig) : Gte.Opcode → Exact
  | .rtps => x.rtps
  | .nclip => x.nclip
  | .op => x.op
  | .dpcs => x.dpcs
  | .intpl => x.intpl
  | .mvmva => x.mvmva config
  | .ncds => x.ncd 0
  | .ncdt => triple ncd x
  | .nccs => x.ncc 0
  | .cc => x.cc
  | .ncs => x.nc 0
  | .nct => triple nc x
  | .sqr => x.sqr
  | .dcpl => x.dcpl
  | .dpct => x.dpct
  | .avsz3 => x.avsz3
  | .avsz4 => x.avsz4
  | .rtpt => x.rtpt
  | .gpf => x.gpf
  | .gpl => x.gpl
  | .ncct => triple ncc x

end Exact

end Rustation
