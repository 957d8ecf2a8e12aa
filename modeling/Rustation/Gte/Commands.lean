import Rustation.Gte.Registers
import Rustation.Gte.Divider

/-!
The commands of the Geometry Transform Engine (`cpu/gte/mod.rs`).

Registers are read as integers, and every sum, difference and product goes
through the check of the type it is computed in, so that a command which would
overflow stops.  The conversions that saturate or truncate record what they
did in the flags register.

The source writes the loop of the matrix product twice; both are `accumulate`,
with the number of the accumulator that a partial sum is reported for as a
parameter.  The interpolations towards the far colour are all `depthCue`.
-/

namespace Rustation

open Fallible Machine

/-! ### The command word -/

/-- Decoded fields of a command word. -/
structure CommandConfig where
  shift : ℕ
  clampNegative : Bool
  matrix : Matrix
  vectorMul : Fin 4
  vectorAdd : ControlVector
  deriving DecidableEq, Repr

def Matrix.fromCommand (command : U32) : Matrix :=
  match (command >>> 17 &&& 3).toNat with
  | 0 => .rotation
  | 1 => .light
  | 2 => .color
  | _ => .invalid

def ControlVector.fromCommand (command : U32) : ControlVector :=
  match (command >>> 13 &&& 3).toNat with
  | 0 => .translation
  | 1 => .backgroundColor
  | 2 => .farColor
  | _ => .zero

def CommandConfig.fromCommand (command : U32) : CommandConfig where
  shift := if command &&& 1 <<< 19 != 0 then 12 else 0
  clampNegative := command &&& 1 <<< 10 != 0
  matrix := Matrix.fromCommand command
  vectorMul := Fin.ofNat 4 (command >>> 15 &&& 3).toNat
  vectorAdd := ControlVector.fromCommand command

/-- The position of a matrix in the array, which the bogus entry has none of. -/
def Matrix.index : Matrix → Option (Fin 3)
  | .rotation => some 0
  | .light => some 1
  | .color => some 2
  | .invalid => none

namespace Gte

/-! ### Flags and conversions -/

def setFlag (g : Gte) (bit : ℕ) : Gte := { g with flags := g.flags ||| 1#32 <<< bit }

/-- Keep the low 43 bits and the sign. -/
def i64ToI44 (g : Gte) (flag : ℕ) (val : ℤ) : ℤ × Gte :=
  (asr (shl64 val (64 - 44)) (64 - 44),
    if val > 0x7ffffffffff then g.setFlag (30 - flag)
    else if val < -0x80000000000 then g.setFlag (27 - flag)
    else g)

/-- Saturate to a halfword, or to a positive one if the command asks for it. -/
def i32ToI16Saturate (g : Gte) (config : CommandConfig) (flag : ℕ) (val : ℤ) : I16 × Gte :=
  let min : ℤ := if config.clampNegative then 0 else -0x8000
  let max : ℤ := 0x7fff
  if val > max then (BitVec.ofInt 16 max, g.setFlag (24 - flag))
  else if val < min then (BitVec.ofInt 16 min, g.setFlag (24 - flag))
  else (BitVec.ofInt 16 val, g)

def i32ToI11Saturate (g : Gte) (flag : ℕ) (val : ℤ) : I16 × Gte :=
  if val < -0x400 then (BitVec.ofInt 16 (-0x400), g.setFlag (14 - flag))
  else if val > 0x3ff then (BitVec.ofInt 16 0x3ff, g.setFlag (14 - flag))
  else (BitVec.ofInt 16 val, g)

/-- Check for 32 bit overflow in the accumulator. -/
def checkMacOverflow (g : Gte) (val : ℤ) : Gte :=
  if val < -0x80000000 then g.setFlag 15
  else if val > 0x7fffffff then g.setFlag 16
  else g

/-- Convert an average to an unsigned halfword. -/
def i64ToOtz (g : Gte) (average : ℤ) : U16 × Gte :=
  let value := asr average 12
  if value < 0 then (0, g.setFlag 18)
  else if value > 0xffff then (0xffff, g.setFlag 18)
  else (BitVec.ofInt 16 value, g)

/-- Convert an accumulator to a colour component. -/
def macToColor (g : Gte) (mac : ℤ) (which : ℕ) : U8 × Gte :=
  let c := asr mac 4
  if c < 0 then (0, g.setFlag (21 - which))
  else if c > 0xff then (0xff, g.setFlag (21 - which))
  else (BitVec.ofInt 8 c, g)

/-! ### Shared parts of the commands -/

/-- Run the body of a loop over three components. -/
def eachComponent (g : Gte) (body : Gte → Fin 3 → Outcome Gte) : Outcome Gte := do
  let g ← body g 0
  let g ← body g 1
  body g 2

/-- Convert MAC1 to MAC3 and put them in IR1 to IR3. -/
def macToIr (g : Gte) (config : CommandConfig) : Gte :=
  let (ir1, g) := g.i32ToI16Saturate config 0 (g.mac 1).toInt
  let g := g.setIr 1 ir1
  let (ir2, g) := g.i32ToI16Saturate config 1 (g.mac 2).toInt
  let g := g.setIr 2 ir2
  let (ir3, g) := g.i32ToI16Saturate config 2 (g.mac 3).toInt
  g.setIr 3 ir3

/-- One component of the conversion. -/
def saturateIr (g : Gte) (config : CommandConfig) (i : Fin 3) : Gte :=
  let (ir, g) := g.i32ToI16Saturate config i (g.mac i.succ).toInt
  g.setIr i.succ ir

lemma macToIr_eq (g : Gte) (config : CommandConfig) :
    g.macToIr config
      = ((g.saturateIr config 0).saturateIr config 1).saturateIr config 2 := by
  rw [macToIr, saturateIr, saturateIr, saturateIr]
  rfl

/-- Convert MAC1 to MAC3 to a colour and queue it. -/
def macToRgbFifo (g : Gte) : Gte :=
  let mac1 := (g.mac 1).toInt
  let mac2 := (g.mac 2).toInt
  let mac3 := (g.mac 3).toInt
  let (r, g) := g.macToColor mac1 0
  let (green, g) := g.macToColor mac2 1
  let (b, g) := g.macToColor mac3 2
  let g := g.setRgbFifo 0 (g.rgbFifo 1)
  let g := g.setRgbFifo 1 (g.rgbFifo 2)
  g.setRgbFifo 2 ⟨r, green, b, g.rgb.x⟩

/-- Use the fourth vector for the intermediate values. -/
def irToV3 (g : Gte) : Gte :=
  ((g.setV 3 0 (g.ir 1)).setV 3 1 (g.ir 2)).setV 3 2 (g.ir 3)

/-- Add one product to a sum of 44 bits, `flag` being the accumulator whose
overflow is reported. -/
def addProduct (g : Gte) (flag : ℕ) (res : ℤ) (v m : I16) : Outcome (ℤ × Gte) := do
  let product ← i32 (v.toInt * m.toInt)
  let sum ← i64 (res + product)
  pure (g.i64ToI44 flag sum)

/-- Add the products of a matrix row and a vector, `flag c` being the
accumulator that column `c` reports for. -/
def accumulate (g : Gte) (flag : Fin 3 → ℕ) (res : ℤ) (v m : Fin 3 → I16) :
    Outcome (ℤ × Gte) := do
  let (res, g) ← g.addProduct (flag 0) res (v 0) (m 0)
  let (res, g) ← g.addProduct (flag 1) res (v 1) (m 1)
  g.addProduct (flag 2) res (v 2) (m 2)

/-- One row of the matrix product: every column reports for the accumulator of
the row. -/
def multiplyRow (config : CommandConfig) (mat : Fin 3) (vectorIndex : Fin 4) (crv : Fin 4)
    (g : Gte) (r : Fin 3) : Outcome Gte := do
  let res := shl64 (g.controlVectors crv r).toInt 12
  let (res, g) ← g.accumulate (fun _ => r.val) res (g.v vectorIndex) (g.matrices mat r)
  pure (g.setMac r.succ (BitVec.ofInt 32 (asr res config.shift)))

def multiplyMatrixByVector (g : Gte) (config : CommandConfig) (matrix : Matrix)
    (vectorIndex : Fin 4) (controlVector : ControlVector) : Outcome Gte :=
  match matrix.index with
  | none => throw (.panic "GTE multiplication with invalid matrix")
  | some mat =>
      if controlVector = .farColor then
        throw (.panic "GTE multiplication with far color vector")
      else do
        let g ← g.eachComponent (multiplyRow config mat vectorIndex controlVector.index)
        pure (g.macToIr config)

/-- Interpolate the component `i` between `base` and the far colour. -/
def depthCue (config : CommandConfig) (g : Gte) (i : Fin 3) (base : ℤ) : Outcome Gte := do
  let fc := shl64 (g.controlVectors ControlVector.farColor.index i).toInt 12
  let sub ← i64 (fc - base)
  let (sub, g) := g.i64ToI44 i.val sub
  let tmp := wrap32 (asr sub config.shift)
  let (sat, g) := g.i32ToI16Saturate (CommandConfig.fromCommand 0) i.val tmp
  let product ← i64 ((g.ir 0).toInt * sat.toInt)
  let sum ← i64 (base + product)
  let (res, g) := g.i64ToI44 i.val sum
  pure (g.setMac i.succ (BitVec.ofInt 32 (asr res config.shift)))

/-- A component of a colour. -/
def Rgbx.component (c : Rgbx) : Fin 3 → ℤ
  | 0 => c.r.toNat
  | 1 => c.g.toNat
  | 2 => c.b.toNat

/-- The product of a colour component and the IR of the same component. -/
def shade (g : Gte) (i : Fin 3) : Outcome ℤ :=
  i32 (Rgbx.component g.rgb i * 2 ^ 4 * (g.ir i.succ).toInt)

/-! ### Perspective transformation -/

/-- One row of the rotation and translation: column `c` reports for the
accumulator with the number of the column.  The sum is returned besides being
stored. -/
def rtpRow (config : CommandConfig) (vectorIndex : Fin 4) (g : Gte) (r : Fin 3) :
    Outcome (ℤ × Gte) := do
  let res := shl64 (g.controlVectors ControlVector.translation.index r).toInt 12
  let (res, g) ← g.accumulate (fun c => c.val) res (g.v vectorIndex) (g.matrices 0 r)
  pure (res, g.setMac r.succ (BitVec.ofInt 32 (asr res config.shift)))

/-- Put the camera coordinates in IR1 to IR3.  The flag of IR3 is computed from
the Z coordinate with the shift applied, the value from MAC3. -/
def rtpToIr (g : Gte) (config : CommandConfig) (zShifted : ℤ) : Gte :=
  let (ir1, g) := g.i32ToI16Saturate config 0 (g.mac 1).toInt
  let g := g.setIr 1 ir1
  let (ir2, g) := g.i32ToI16Saturate config 1 (g.mac 2).toInt
  let g := g.setIr 2 ir2
  let g := if zShifted > 0x7fff ∨ zShifted < -0x8000 then g.setFlag 22 else g
  let min : ℤ := if config.clampNegative then 0 else -0x8000
  let val := (g.mac 3).toInt
  g.setIr 3 (BitVec.ofInt 16 (if val < min then min else if val > 0x7fff then 0x7fff else val))

/-- The third component is clamped to the range of IR3, with a flag that depends on `zShifted`. -/
lemma rtpToIr_eq (config : CommandConfig) (zShifted : ℤ) : ∃ clamp : ℤ → I16, ∀ g : Gte,
    g.rtpToIr config zShifted =
      (let g := (g.saturateIr config 0).saturateIr config 1
      let g := if zShifted > 0x7fff ∨ zShifted < -0x8000 then g.setFlag 22 else g
      g.setIr 3 (clamp (g.mac 3).toInt)) := by
  refine ⟨fun val => BitVec.ofInt 16 (if val < (if config.clampNegative then 0 else -0x8000) then
    (if config.clampNegative then 0 else -0x8000) else if val > 0x7fff then 0x7fff else val),
    fun g => ?_⟩
  rw [rtpToIr, saturateIr, saturateIr]
  rfl

/-- Saturate the Z coordinate and queue it. -/
def pushZ (g : Gte) (zShifted : ℤ) : U16 × Gte :=
  let (z, g) : U16 × Gte :=
    if zShifted < 0 then (0, g.setFlag 18)
    else if zShifted > 0xffff then (0xffff, g.setFlag 18)
    else (BitVec.ofInt 16 zShifted, g)
  let g := g.setZ 0 (g.zFifo 1)
  let g := g.setZ 1 (g.zFifo 2)
  let g := g.setZ 2 (g.zFifo 3)
  (z, g.setZ 3 z)

/-- Divide the projection plane distance by the Z coordinate, or clip. -/
def projectionFactor (g : Gte) (z : U16) : Outcome (U32 × Gte) :=
  if z > g.h / 2 then do
    let factor ← divide g.h z
    pure (factor, g)
  else pure (0x1ffff, g.setFlag 17)

/-- Project IR1 and IR2 onto the screen and queue the position. -/
def pushXy (g : Gte) (projectionFactor : U32) : Outcome Gte := do
  let factor : ℤ := projectionFactor.toNat
  let product ← i64 ((g.ir 1).toInt * factor)
  let screenX ← i64 (product + g.ofx.toInt)
  let product ← i64 ((g.ir 2).toInt * factor)
  let screenY ← i64 (product + g.ofy.toInt)
  let g := g.checkMacOverflow screenX
  let g := g.checkMacOverflow screenY
  let (x, g) := g.i32ToI11Saturate 0 (wrap32 (asr screenX 16))
  let (y, g) := g.i32ToI11Saturate 1 (wrap32 (asr screenY 16))
  let g := g.setXy 3 (x, y)
  let g := g.setXy 0 (g.xyFifo 1)
  let g := g.setXy 1 (g.xyFifo 2)
  pure (g.setXy 2 (g.xyFifo 3))

/-- Rotate, translate and perspective transform a single vector.  Returns the
projection factor. -/
def doRtp (g : Gte) (config : CommandConfig) (vectorIndex : Fin 4) : Outcome (U32 × Gte) := do
  let (_, g) ← rtpRow config vectorIndex g 0
  let (_, g) ← rtpRow config vectorIndex g 1
  let (res, g) ← rtpRow config vectorIndex g 2
  let zShifted := wrap32 (asr res 12)
  let g := g.rtpToIr config zShifted
  let (z, g) := g.pushZ zShifted
  let (factor, g) ← g.projectionFactor z
  let g ← g.pushXy factor
  pure (factor, g)

/-- Depth queuing from the projection factor. -/
def depthQueuing (g : Gte) (projectionFactor : U32) : Outcome Gte := do
  let product ← i64 (g.dqa.toInt * projectionFactor.toNat)
  let depth ← i64 (g.dqb.toInt + product)
  let g := g.checkMacOverflow depth
  let g := g.setMac 0 (BitVec.ofInt 32 depth)
  let depth := asr depth 12
  pure <|
    if depth < 0 then (g.setFlag 12).setIr 0 0
    else if depth > 4096 then (g.setFlag 12).setIr 0 4096
    else g.setIr 0 (BitVec.ofInt 16 depth)

/-! ### The commands -/

/-- Rotate, Translate and Perspective transform Single.  Operates on V0. -/
def cmdRtps (g : Gte) (config : CommandConfig) : Outcome Gte := do
  let (factor, g) ← g.doRtp config 0
  g.depthQueuing factor

/-- Normal clipping. -/
def cmdNclip (g : Gte) : Outcome Gte := do
  let (x0, y0) := ((g.xyFifo 0).1.toInt, (g.xyFifo 0).2.toInt)
  let (x1, y1) := ((g.xyFifo 1).1.toInt, (g.xyFifo 1).2.toInt)
  let (x2, y2) := ((g.xyFifo 2).1.toInt, (g.xyFifo 2).2.toInt)
  let d12 ← i32 (y1 - y2)
  let a ← i32 (x0 * d12)
  let d20 ← i32 (y2 - y0)
  let b ← i32 (x1 * d20)
  let d01 ← i32 (y0 - y1)
  let c ← i32 (x2 * d01)
  let sum ← i64 (a + b)
  let sum ← i64 (sum + c)
  let g := g.checkMacOverflow sum
  pure (g.setMac 0 (BitVec.ofInt 32 sum))

/-- The difference of two products, shifted. -/
def cross (shift : ℕ) (a b c d : I16) : Outcome I32 := do
  let ab ← i32 (a.toInt * b.toInt)
  let cd ← i32 (c.toInt * d.toInt)
  let diff ← i32 (ab - cd)
  pure (BitVec.ofInt 32 (asr diff shift))

/-- Outer Product. -/
def cmdOp (g : Gte) (config : CommandConfig) : Outcome Gte := do
  let (ir1, ir2, ir3) := (g.ir 1, g.ir 2, g.ir 3)
  let (r0, r1, r2) := (g.matrices 0 0 0, g.matrices 0 1 1, g.matrices 0 2 2)
  let mac1 ← cross config.shift r1 ir3 r2 ir2
  let g := g.setMac 1 mac1
  let mac2 ← cross config.shift r2 ir1 r0 ir3
  let g := g.setMac 2 mac2
  let mac3 ← cross config.shift r0 ir2 r1 ir1
  let g := g.setMac 3 mac3
  pure (g.macToIr config)

/-- Depth Queue Single. -/
def cmdDpcs (g : Gte) (config : CommandConfig) : Outcome Gte := do
  let col := Rgbx.component g.rgb
  let g ← g.eachComponent fun g i => depthCue config g i (shl64 (col i) (4 + 12))
  pure (g.macToIr config).macToRgbFifo

/-- Depth Cue Color Light. -/
def cmdDcpl (g : Gte) (config : CommandConfig) : Outcome Gte := do
  let g ← g.eachComponent fun g i => do
    let shading ← g.shade i
    depthCue config g i shading
  pure (g.macToIr config).macToRgbFifo

/-- Depth queue of the oldest entry of the RGB FIFO. -/
def doDpc (g : Gte) (config : CommandConfig) : Outcome Gte := do
  let col := Rgbx.component (g.rgbFifo 0)
  let g ← g.eachComponent fun g i => depthCue config g i (shl64 (col i) (4 + 12))
  pure (g.macToIr config).macToRgbFifo

/-- Depth Queue Triple: the three calls replace the whole FIFO. -/
def cmdDpct (g : Gte) (config : CommandConfig) : Outcome Gte := do
  let g ← g.doDpc config
  let g ← g.doDpc config
  g.doDpc config

/-- Interpolate between a vector and the far color. -/
def cmdIntpl (g : Gte) (config : CommandConfig) : Outcome Gte := do
  let g ← g.eachComponent fun g i => depthCue config g i (shl64 (g.ir i.succ).toInt 12)
  pure (g.macToIr config).macToRgbFifo

/-- Multiply vector by matrix and add vector. -/
def cmdMvmva (g : Gte) (config : CommandConfig) : Outcome Gte :=
  g.irToV3.multiplyMatrixByVector config config.matrix config.vectorMul config.vectorAdd

/-- Multiply the colour by IR and queue the result. -/
def applyColor (g : Gte) (config : CommandConfig) : Outcome Gte := do
  let g ← g.eachComponent fun g i => do
    let shading ← g.shade i
    pure (g.setMac i.succ (BitVec.ofInt 32 (asr shading config.shift)))
  pure (g.macToIr config).macToRgbFifo

/-- Color Color. -/
def cmdCc (g : Gte) (config : CommandConfig) : Outcome Gte := do
  let g ← g.irToV3.multiplyMatrixByVector config .color 3 .backgroundColor
  g.applyColor config

/-- The light matrix applied to a vector, then the colour matrix to the
result. -/
def lightColor (g : Gte) (config : CommandConfig) (vectorIndex : Fin 4) : Outcome Gte := do
  let g ← g.multiplyMatrixByVector config .light vectorIndex .zero
  g.irToV3.multiplyMatrixByVector config .color 3 .backgroundColor

def doNcc (g : Gte) (config : CommandConfig) (vectorIndex : Fin 4) : Outcome Gte := do
  let g ← g.lightColor config vectorIndex
  g.applyColor config

def doNc (g : Gte) (config : CommandConfig) (vectorIndex : Fin 4) : Outcome Gte := do
  let g ← g.lightColor config vectorIndex
  pure g.macToRgbFifo

def doNcd (g : Gte) (config : CommandConfig) (vectorIndex : Fin 4) : Outcome Gte := do
  let g ← g.lightColor config vectorIndex
  g.cmdDcpl config

/-- Run a command on V0, V1 and V2. -/
def triple (body : Gte → CommandConfig → Fin 4 → Outcome Gte) (g : Gte)
    (config : CommandConfig) : Outcome Gte := do
  let g ← body g config 0
  let g ← body g config 1
  body g config 2

/-- Normal Color Depth Cue Single. -/
def cmdNcds (g : Gte) (config : CommandConfig) : Outcome Gte := g.doNcd config 0

/-- Normal Color Depth Cue Triple. -/
def cmdNcdt (g : Gte) (config : CommandConfig) : Outcome Gte := triple doNcd g config

/-- Normal Color Color Single. -/
def cmdNccs (g : Gte) (config : CommandConfig) : Outcome Gte := g.doNcc config 0

/-- Normal Color Color Triple. -/
def cmdNcct (g : Gte) (config : CommandConfig) : Outcome Gte := triple doNcc g config

/-- Normal Color Single. -/
def cmdNcs (g : Gte) (config : CommandConfig) : Outcome Gte := g.doNc config 0

/-- Normal Color Triple. -/
def cmdNct (g : Gte) (config : CommandConfig) : Outcome Gte := triple doNc g config

/-- Square vector. -/
def cmdSqr (g : Gte) (config : CommandConfig) : Outcome Gte := do
  let g ← g.eachComponent fun g i => do
    let ir := (g.ir i.succ).toInt
    let square ← i32 (ir * ir)
    pure (g.setMac i.succ (BitVec.ofInt 32 (asr square config.shift)))
  pure (g.macToIr config)

/-- Store an average of Z values. -/
def storeAverage (g : Gte) (average : ℤ) : Gte :=
  let g := g.checkMacOverflow average
  let g := g.setMac 0 (BitVec.ofInt 32 average)
  let (otz, g) := g.i64ToOtz average
  { g with otz := otz }

/-- Average three Z values. -/
def cmdAvsz3 (g : Gte) : Outcome Gte := do
  let sum ← u32 ((g.zFifo 1).toNat + (g.zFifo 2).toNat)
  let sum ← u32 (sum + (g.zFifo 3).toNat)
  let average ← i64 (g.zsf3.toInt * sum)
  pure (g.storeAverage average)

/-- Average four Z values. -/
def cmdAvsz4 (g : Gte) : Outcome Gte := do
  let sum ← u32 ((g.zFifo 0).toNat + (g.zFifo 1).toNat)
  let sum ← u32 (sum + (g.zFifo 2).toNat)
  let sum ← u32 (sum + (g.zFifo 3).toNat)
  let average ← i64 (g.zsf4.toInt * sum)
  pure (g.storeAverage average)

/-- Rotate, Translate and Perspective transform Triple.  The depth queuing is
done on the last vector. -/
def cmdRtpt (g : Gte) (config : CommandConfig) : Outcome Gte := do
  let (_, g) ← g.doRtp config 0
  let (_, g) ← g.doRtp config 1
  let (factor, g) ← g.doRtp config 2
  g.depthQueuing factor

/-- General purpose interpolation. -/
def cmdGpf (g : Gte) (config : CommandConfig) : Outcome Gte := do
  let ir0 := (g.ir 0).toInt
  let g ← g.eachComponent fun g i => do
    let product ← i32 ((g.ir i.succ).toInt * ir0)
    pure (g.setMac i.succ (BitVec.ofInt 32 (asr product config.shift)))
  pure (g.macToIr config).macToRgbFifo

/-- General purpose interpolation with base. -/
def cmdGpl (g : Gte) (config : CommandConfig) : Outcome Gte := do
  let ir0 := (g.ir 0).toInt
  let g ← g.eachComponent fun g i => do
    let product ← i32 ((g.ir i.succ).toInt * ir0)
    let mac := shl64 (g.mac i.succ).toInt config.shift
    let sum ← i64 (mac + product)
    let (sum, g) := g.i64ToI44 i.val sum
    pure (g.setMac i.succ (BitVec.ofInt 32 (asr sum config.shift)))
  pure (g.macToIr config).macToRgbFifo

/-! ### Dispatch -/

/-- The handled commands. -/
inductive Opcode where
  | rtps | nclip | op | dpcs | intpl | mvmva | ncds | ncdt | nccs | cc | ncs | nct | sqr | dcpl
  | dpct | avsz3 | avsz4 | rtpt | gpf | gpl | ncct
  deriving DecidableEq, Repr

/-- The command of an opcode. -/
def Opcode.decode (opcode : ℕ) : Option Opcode :=
  match opcode with
  | 0x01 => some .rtps
  | 0x06 => some .nclip
  | 0x0c => some .op
  | 0x10 => some .dpcs
  | 0x11 => some .intpl
  | 0x12 => some .mvmva
  | 0x13 => some .ncds
  | 0x16 => some .ncdt
  | 0x1b => some .nccs
  | 0x1c => some .cc
  | 0x1e => some .ncs
  | 0x20 => some .nct
  | 0x28 => some .sqr
  | 0x29 => some .dcpl
  | 0x2a => some .dpct
  | 0x2d => some .avsz3
  | 0x2e => some .avsz4
  | 0x30 => some .rtpt
  | 0x3d => some .gpf
  | 0x3e => some .gpl
  | 0x3f => some .ncct
  | _ => none

def runOpcode (g : Gte) (config : CommandConfig) : Opcode → Outcome Gte
  | .rtps => g.cmdRtps config
  | .nclip => g.cmdNclip
  | .op => g.cmdOp config
  | .dpcs => g.cmdDpcs config
  | .intpl => g.cmdIntpl config
  | .mvmva => g.cmdMvmva config
  | .ncds => g.cmdNcds config
  | .ncdt => g.cmdNcdt config
  | .nccs => g.cmdNccs config
  | .cc => g.cmdCc config
  | .ncs => g.cmdNcs config
  | .nct => g.cmdNct config
  | .sqr => g.cmdSqr config
  | .dcpl => g.cmdDcpl config
  | .dpct => g.cmdDpct config
  | .avsz3 => g.cmdAvsz3
  | .avsz4 => g.cmdAvsz4
  | .rtpt => g.cmdRtpt config
  | .gpf => g.cmdGpf config
  | .gpl => g.cmdGpl config
  | .ncct => g.cmdNcct config

/-- Update the top bit of the flags from the error bits. -/
def updateMsb (g : Gte) : Gte :=
  { g with flags := g.flags ||| (if g.flags &&& 0x7f87e000 != 0 then 1#32 else 0#32) <<< 31 }

/-- Execute a command. -/
def command (g : Gte) (command : U32) : Outcome Gte :=
  match Opcode.decode (command &&& 0x3f).toNat with
  | none => throw (.panic "Unhandled GTE opcode")
  | some opcode => do
      -- clear the flags prior to command execution
      let g := { g with flags := 0 }
      let g ← g.runOpcode (CommandConfig.fromCommand command) opcode
      pure g.updateMsb

end Gte

end Rustation
