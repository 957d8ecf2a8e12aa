import Rustation.Lib.Machine
import Rustation.Lib.Word

/-!
The registers of the Geometry Transform Engine (`Gte`, `cpu/gte/mod.rs`) and
the moves between them and the CPU: `control`, `set_control`, `data` and
`set_data`.

A register is a word of its own width; whether it is signed shows where it is
read, by `toInt` or `toNat`.  Arrays are functions of their index.
-/

namespace Rustation

open Fallible

/-- RGB colour with the byte that is passed along. -/
structure Rgbx where
  r : U8
  g : U8
  b : U8
  x : U8
  deriving DecidableEq, Repr

/-- The matrices used by the operations, and the bogus entry that a command can
select. -/
inductive Matrix where
  | rotation | light | color | invalid
  deriving DecidableEq, Repr

/-- The control vectors used by the operations, `zero` being a pseudo-vector. -/
inductive ControlVector where
  | translation | backgroundColor | farColor | zero
  deriving DecidableEq, Repr

def ControlVector.index : ControlVector → Fin 4
  | translation => 0
  | backgroundColor => 1
  | farColor => 2
  | zero => 3

structure Gte where
  /-- screen offset -/
  ofx : I32
  ofy : I32
  /-- projection plane distance -/
  h : U16
  /-- depth queuing coefficient and offset -/
  dqa : I16
  dqb : I32
  /-- scale factors of the average of three and four Z values -/
  zsf3 : I16
  zsf4 : I16
  /-- rotation, light and colour matrix -/
  matrices : Fin 3 → Fin 3 → Fin 3 → I16
  controlVectors : Fin 4 → Fin 3 → I32
  /-- overflow flags -/
  flags : U32
  /-- V0, V1, V2, and IR for the commands that multiply it -/
  v : Fin 4 → Fin 3 → I16
  mac : Fin 4 → I32
  otz : U16
  rgb : Rgbx
  ir : Fin 4 → I16
  xyFifo : Fin 4 → I16 × I16
  zFifo : Fin 4 → U16
  rgbFifo : Fin 3 → Rgbx
  lzcs : U32
  lzcr : U8
  reg23 : U32

namespace Gte

def new : Gte where
  ofx := 0
  ofy := 0
  h := 0
  dqa := 0
  dqb := 0
  zsf3 := 0
  zsf4 := 0
  matrices _ _ _ := 0
  controlVectors _ _ := 0
  flags := 0
  v _ _ := 0
  mac _ := 0
  otz := 0
  rgb := ⟨0, 0, 0, 0⟩
  ir _ := 0
  xyFifo _ := (0, 0)
  zFifo _ := 0
  rgbFifo _ := ⟨0, 0, 0, 0⟩
  lzcs := 0
  lzcr := 32
  reg23 := 0

/-! ### Packing -/

/-- Two halfwords in a word. -/
def pack (lo hi : BitVec 16) : U32 := lo.setWidth 32 ||| hi.setWidth 32 <<< 16

def lowHalf (val : U32) : BitVec 16 := val.setWidth 16

def highHalf (val : U32) : BitVec 16 := (val >>> 16).setWidth 16

def rgbxToU32 (c : Rgbx) : U32 :=
  c.r.setWidth 32 ||| c.g.setWidth 32 <<< 8 ||| c.b.setWidth 32 <<< 16 ||| c.x.setWidth 32 <<< 24

def u32ToRgbx (val : U32) : Rgbx where
  r := val.setWidth 8
  g := (val >>> 8).setWidth 8
  b := (val >>> 16).setWidth 8
  x := (val >>> 24).setWidth 8

def xyToU32 (xy : I16 × I16) : U32 := pack xy.1 xy.2

def u32ToXy (val : U32) : I16 × I16 := (lowHalf val, highHalf val)

/-! ### Control registers -/

/-- The five words a matrix is read by. -/
def matrixWord (m : Fin 3 → Fin 3 → I16) : Fin 5 → U32
  | 0 => pack (m 0 0) (m 0 1)
  | 1 => pack (m 0 2) (m 1 0)
  | 2 => pack (m 1 1) (m 1 2)
  | 3 => pack (m 2 0) (m 2 1)
  | 4 => (m 2 2).signExtend 32

/-- Replace one coefficient. -/
def setCoefficient (m : Fin 3 → Fin 3 → I16) (r c : Fin 3) (val : I16) :
    Fin 3 → Fin 3 → I16 :=
  Function.update m r (Function.update (m r) c val)

/-- Replace the coefficients of one of the five words. -/
def setMatrixWord (m : Fin 3 → Fin 3 → I16) (k : Fin 5) (val : U32) : Fin 3 → Fin 3 → I16 :=
  match k with
  | 0 => setCoefficient (setCoefficient m 0 0 (lowHalf val)) 0 1 (highHalf val)
  | 1 => setCoefficient (setCoefficient m 0 2 (lowHalf val)) 1 0 (highHalf val)
  | 2 => setCoefficient (setCoefficient m 1 1 (lowHalf val)) 1 2 (highHalf val)
  | 3 => setCoefficient (setCoefficient m 2 0 (lowHalf val)) 2 1 (highHalf val)
  | 4 => setCoefficient m 2 2 (lowHalf val)

/-- A control register: which of the words above it stands for. -/
inductive ControlReg where
  | matrix (which : Fin 3) (word : Fin 5)
  | vector (which : ControlVector) (component : Fin 3)
  | ofx | ofy | h | dqa | dqb | zsf3 | zsf4 | flags
  deriving DecidableEq, Repr

/-- The control register of a number. -/
def controlReg : ℕ → Option ControlReg
  | 0 => some (.matrix 0 0)
  | 1 => some (.matrix 0 1)
  | 2 => some (.matrix 0 2)
  | 3 => some (.matrix 0 3)
  | 4 => some (.matrix 0 4)
  | 5 => some (.vector .translation 0)
  | 6 => some (.vector .translation 1)
  | 7 => some (.vector .translation 2)
  | 8 => some (.matrix 1 0)
  | 9 => some (.matrix 1 1)
  | 10 => some (.matrix 1 2)
  | 11 => some (.matrix 1 3)
  | 12 => some (.matrix 1 4)
  | 13 => some (.vector .backgroundColor 0)
  | 14 => some (.vector .backgroundColor 1)
  | 15 => some (.vector .backgroundColor 2)
  | 16 => some (.matrix 2 0)
  | 17 => some (.matrix 2 1)
  | 18 => some (.matrix 2 2)
  | 19 => some (.matrix 2 3)
  | 20 => some (.matrix 2 4)
  | 21 => some (.vector .farColor 0)
  | 22 => some (.vector .farColor 1)
  | 23 => some (.vector .farColor 2)
  | 24 => some .ofx
  | 25 => some .ofy
  | 26 => some .h
  | 27 => some .dqa
  | 28 => some .dqb
  | 29 => some .zsf3
  | 30 => some .zsf4
  | 31 => some .flags
  | _ => none

/-- The value of a control register, for the CFC2 opcode. -/
def control (g : Gte) (reg : U32) : Outcome U32 :=
  match controlReg reg.toNat with
  | none => throw (.panic "Unhandled GTE control register")
  | some r => pure <| match r with
    | .matrix which word => matrixWord (g.matrices which) word
    | .vector which i => g.controlVectors which.index i
    | .ofx => g.ofx
    | .ofy => g.ofy
    -- H reads back as a signed value even though it is unsigned
    | .h => g.h.signExtend 32
    | .dqa => g.dqa.signExtend 32
    | .dqb => g.dqb
    | .zsf3 => g.zsf3.signExtend 32
    | .zsf4 => g.zsf4.signExtend 32
    | .flags => g.flags

/-- The flags after a write to their register. -/
def writtenFlags (val : U32) : U32 :=
  val &&& 0x7ffff00 ||| (if val &&& 0x7f87e000 != 0 then 1 else 0) <<< 31

/-- Store a value in a control register, for the CTC2 opcode. -/
def setControl (g : Gte) (reg val : U32) : Outcome Gte :=
  match controlReg reg.toNat with
  | none => throw (.panic "Unhandled GTE control register")
  | some r => pure <| match r with
    | .matrix which word =>
        let matrix := setMatrixWord (g.matrices which) word val
        { g with matrices := Function.update g.matrices which matrix }
    | .vector which i =>
        let vector := Function.update (g.controlVectors which.index) i val
        { g with controlVectors := Function.update g.controlVectors which.index vector }
    | .ofx => { g with ofx := val }
    | .ofy => { g with ofy := val }
    | .h => { g with h := lowHalf val }
    | .dqa => { g with dqa := lowHalf val }
    | .dqb => { g with dqb := val }
    | .zsf3 => { g with zsf3 := lowHalf val }
    | .zsf4 => { g with zsf4 := lowHalf val }
    | .flags => { g with flags := writtenFlags val }

/-! ### Data registers -/

/-- Five bits of a colour component, saturated. -/
def toIrgb (ir : I16) : U32 :=
  let v := ir.sshiftRight 7
  if v.toInt < 0 then 0 else if v.toInt > 0x1f then 0x1f else v.setWidth 32

/-- A colour component from its five bits. -/
def ofIrgb (v : U32) : I16 := ((v &&& 0x1f) <<< 7).setWidth 16

/-- The value of a data register, for the MFC2 and SWC2 opcodes. -/
def data (g : Gte) (reg : U32) : Outcome U32 :=
  match reg.toNat with
  | 0 => pure (pack (g.v 0 0) (g.v 0 1))
  | 1 => pure ((g.v 0 2).signExtend 32)
  | 2 => pure (pack (g.v 1 0) (g.v 1 1))
  | 3 => pure ((g.v 1 2).signExtend 32)
  | 4 => pure (pack (g.v 2 0) (g.v 2 1))
  | 5 => pure ((g.v 2 2).signExtend 32)
  | 6 => pure (rgbxToU32 g.rgb)
  | 7 => pure (g.otz.setWidth 32)
  | 8 => pure ((g.ir 0).signExtend 32)
  | 9 => pure ((g.ir 1).signExtend 32)
  | 10 => pure ((g.ir 2).signExtend 32)
  | 11 => pure ((g.ir 3).signExtend 32)
  | 12 => pure (xyToU32 (g.xyFifo 0))
  | 13 => pure (xyToU32 (g.xyFifo 1))
  | 14 => pure (xyToU32 (g.xyFifo 2))
  | 15 => pure (xyToU32 (g.xyFifo 3))
  | 16 => pure ((g.zFifo 0).setWidth 32)
  | 17 => pure ((g.zFifo 1).setWidth 32)
  | 18 => pure ((g.zFifo 2).setWidth 32)
  | 19 => pure ((g.zFifo 3).setWidth 32)
  | 20 => pure (rgbxToU32 (g.rgbFifo 0))
  | 21 => pure (rgbxToU32 (g.rgbFifo 1))
  | 22 => pure (rgbxToU32 (g.rgbFifo 2))
  | 23 => pure g.reg23
  | 24 => pure (g.mac 0)
  | 25 => pure (g.mac 1)
  | 26 => pure (g.mac 2)
  | 27 => pure (g.mac 3)
  | 28 | 29 => pure (toIrgb (g.ir 1) ||| toIrgb (g.ir 2) <<< 5 ||| toIrgb (g.ir 3) <<< 10)
  | 30 => pure g.lzcs
  | 31 => pure (g.lzcr.setWidth 32)
  | _ => throw (.panic "Unhandled GTE data register")

/-- Replace one component of a vector. -/
def setV (g : Gte) (which : Fin 4) (i : Fin 3) (val : I16) : Gte :=
  { g with v := Function.update g.v which (Function.update (g.v which) i val) }

def setIr (g : Gte) (i : Fin 4) (val : I16) : Gte := { g with ir := Function.update g.ir i val }

def setMac (g : Gte) (i : Fin 4) (val : I32) : Gte := { g with mac := Function.update g.mac i val }

def setXy (g : Gte) (i : Fin 4) (xy : I16 × I16) : Gte :=
  { g with xyFifo := Function.update g.xyFifo i xy }

def setZ (g : Gte) (i : Fin 4) (z : U16) : Gte := { g with zFifo := Function.update g.zFifo i z }

def setRgbFifo (g : Gte) (i : Fin 3) (c : Rgbx) : Gte :=
  { g with rgbFifo := Function.update g.rgbFifo i c }

/-- The number of leading bits equal to the sign bit. -/
def leadingSignBits (val : U32) : U8 :=
  (if val >>> 31 &&& 1 != 0 then ~~~val else val).clz.setWidth 8

/-- Store a value in a data register, for the MTC2 and LWC2 opcodes. -/
def setData (g : Gte) (reg val : U32) : Outcome Gte :=
  match reg.toNat with
  | 0 => pure ((g.setV 0 0 (lowHalf val)).setV 0 1 (highHalf val))
  | 1 => pure (g.setV 0 2 (lowHalf val))
  | 2 => pure ((g.setV 1 0 (lowHalf val)).setV 1 1 (highHalf val))
  | 3 => pure (g.setV 1 2 (lowHalf val))
  | 4 => pure ((g.setV 2 0 (lowHalf val)).setV 2 1 (highHalf val))
  | 5 => pure (g.setV 2 2 (lowHalf val))
  | 6 => pure { g with rgb := u32ToRgbx val }
  | 7 => pure { g with otz := lowHalf val }
  | 8 => pure (g.setIr 0 (lowHalf val))
  | 9 => pure (g.setIr 1 (lowHalf val))
  | 10 => pure (g.setIr 2 (lowHalf val))
  | 11 => pure (g.setIr 3 (lowHalf val))
  | 12 => pure (g.setXy 0 (u32ToXy val))
  | 13 => pure (g.setXy 1 (u32ToXy val))
  | 14 => pure ((g.setXy 2 (u32ToXy val)).setXy 3 (u32ToXy val))
  | 15 =>
      let g := g.setXy 3 (u32ToXy val)
      let g := g.setXy 0 (g.xyFifo 1)
      let g := g.setXy 1 (g.xyFifo 2)
      pure (g.setXy 2 (g.xyFifo 3))
  | 16 => pure (g.setZ 0 (lowHalf val))
  | 17 => pure (g.setZ 1 (lowHalf val))
  | 18 => pure (g.setZ 2 (lowHalf val))
  | 19 => pure (g.setZ 3 (lowHalf val))
  | 20 => pure (g.setRgbFifo 0 (u32ToRgbx val))
  | 21 => pure (g.setRgbFifo 1 (u32ToRgbx val))
  | 22 => pure (g.setRgbFifo 2 (u32ToRgbx val))
  | 23 => pure { g with reg23 := val }
  | 24 => pure (g.setMac 0 val)
  | 25 => pure (g.setMac 1 val)
  | 26 => pure (g.setMac 2 val)
  | 27 => pure (g.setMac 3 val)
  | 28 => pure (((g.setIr 0 (ofIrgb val)).setIr 1 (ofIrgb (val >>> 5))).setIr 2
      (ofIrgb (val >>> 10)))
  | 29 => pure g
  | 30 => pure { g with lzcs := val, lzcr := leadingSignBits val }
  -- read-only
  | 31 => pure g
  | _ => throw .unreachable

end Gte

end Rustation
