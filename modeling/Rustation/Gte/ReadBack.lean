import Rustation.Gte.Registers

/-!
The Geometry Transform Engine as a file of 32 control and 32 data registers, and
what a write to one of them does to the file.

* `RegisterFile.setControl`, `RegisterFile.setData`: the documented behaviour.  A
  register keeps the canonical form of what is written; a few data registers are
  coupled;
* `Gte.file`: the file that the CPU reads from a state (`Gte.Reads`);
* `file_writeControl`, `file_storeData`, `file_setIr`: the file after the stores that
  the two moves to the engine are made of;
* `readBack_iff`: the moves agree with the documented behaviour but for two of the
  registers, the control register 31 and the data register 28.
-/

namespace Rustation

open Fallible

/-! ### The documented behaviour -/

/-- The registers as the CPU reads them. -/
@[ext]
structure RegisterFile where
  data : Fin 32 → U32
  control : Fin 32 → U32

namespace RegisterFile

/-- The low half, sign-extended. -/
def signExtended (v : U32) : U32 := (v.setWidth 16).signExtend 32

/-- The low half, zero-extended. -/
def zeroExtended (v : U32) : U32 := (v.setWidth 16).setWidth 32

/-- The flags that can be written, and their summary in bit 31. -/
def flagsForm (v : U32) : U32 :=
  v &&& 0x7ffff000 ||| (if v &&& 0x7f87e000 ≠ 0 then 0x80000000 else 0)

/-- What a control register keeps of a value. -/
def controlForm (r : Fin 32) (v : U32) : U32 :=
  if r ∈ [4, 12, 20, 26, 27, 29, 30] then signExtended v else if r = 31 then flagsForm v else v

/-- What a data register keeps of a value. -/
def dataForm (r : Fin 32) (v : U32) : U32 :=
  if r ∈ [1, 3, 5, 8, 9, 10, 11] then signExtended v
  else if r ∈ [7, 16, 17, 18, 19] then zeroExtended v else v

/-- One of the three fields of 5 bits of a colour. -/
def field (v : U32) (k : ℕ) : U32 := v >>> (5 * k) &&& 0x1f

/-- The field that stands for the value of an IR register, saturated. -/
def component (ir : U32) : U32 := BitVec.ofInt 32 (max 0 (min 31 (ir.toInt / 128)))

/-- The registers 28 and 29 show IR1, IR2 and IR3, the registers 9 to 11. -/
def withColour (data : Fin 32 → U32) : Fin 32 → U32 :=
  let colour := component (data 9) ||| component (data 10) <<< 5 ||| component (data 11) <<< 10
  Function.update (Function.update data 28 colour) 29 colour

/-- The number of leading bits that equal the sign bit. -/
def signBits (v : U32) : U32 :=
  BitVec.ofNat 32 (((List.range 32).find? fun k => v.getLsbD (31 - k) != v.getLsbD 31).getD 32)

def setControl (f : RegisterFile) (r : Fin 32) (v : U32) : RegisterFile :=
  { f with control := Function.update f.control r (controlForm r v) }

/-- The data registers after a write to one of them. -/
def writeData (data : Fin 32 → U32) (r : Fin 32) (v : U32) : Fin 32 → U32 :=
  match r.val with
  | 9 | 10 | 11 => withColour (Function.update data r (dataForm r v))
  | 14 => Function.update (Function.update data 14 v) 15 v
  -- the XY FIFO is pushed
  | 15 => Function.update (Function.update (Function.update (Function.update data
      12 (data 13)) 13 (data 14)) 14 v) 15 v
  | 28 => Function.update (Function.update (Function.update (Function.update (Function.update data
      9 (field v 0 <<< 7)) 10 (field v 1 <<< 7)) 11 (field v 2 <<< 7)) 28 (v &&& 0x7fff))
      29 (v &&& 0x7fff)
  | 30 => Function.update (Function.update data 30 v) 31 (signBits v)
  -- read-only
  | 29 | 31 => data
  | _ => Function.update data r (dataForm r v)

def setData (f : RegisterFile) (r : Fin 32) (v : U32) : RegisterFile :=
  { f with data := writeData f.data r v }

end RegisterFile

namespace Gte

variable {g : Gte} {v : U32}

/-! ### Words and their parts -/

@[simp] lemma pack_halves (v : U32) : pack (lowHalf v) (highHalf v) = v := word_of_halves v

@[simp] lemma signExtend_lowHalf (v : U32) :
    (lowHalf v).signExtend 32 = RegisterFile.signExtended v := rfl

@[simp] lemma rgbxToU32_u32ToRgbx (v : U32) : rgbxToU32 (u32ToRgbx v) = v := word_of_bytes v

@[simp] lemma xyToU32_u32ToXy (v : U32) : xyToU32 (u32ToXy v) = v := pack_halves v

/-! ### Control registers -/

/-- The control register of a number below 32. -/
def controlAt (r : Fin 32) : ControlReg := (controlReg r.val).getD .flags

lemma controlReg_eq : ∀ r : Fin 32, controlReg r.val = some (controlAt r) := by decide

lemma controlAt_injective : Function.Injective controlAt := by decide

def readControl (g : Gte) : ControlReg → U32
  | .matrix which word => matrixWord (g.matrices which) word
  | .vector which i => g.controlVectors which.index i
  | .ofx => g.ofx
  | .ofy => g.ofy
  | .h => g.h.signExtend 32
  | .dqa => g.dqa.signExtend 32
  | .dqb => g.dqb
  | .zsf3 => g.zsf3.signExtend 32
  | .zsf4 => g.zsf4.signExtend 32
  | .flags => g.flags

def writeControl (g : Gte) (r : ControlReg) (v : U32) : Gte :=
  match r with
  | .matrix which word =>
      { g with matrices := Function.update g.matrices which
                 (setMatrixWord (g.matrices which) word v) }
  | .vector which i =>
      { g with controlVectors := Function.update g.controlVectors which.index
                 (Function.update (g.controlVectors which.index) i v) }
  | .ofx => { g with ofx := v }
  | .ofy => { g with ofy := v }
  | .h => { g with h := lowHalf v }
  | .dqa => { g with dqa := lowHalf v }
  | .dqb => { g with dqb := v }
  | .zsf3 => { g with zsf3 := lowHalf v }
  | .zsf4 => { g with zsf4 := lowHalf v }
  | .flags => { g with flags := writtenFlags v }

lemma toNat_number (r : Fin 32) : (BitVec.ofNat 32 r.val).toNat = r.val := by
  rw [BitVec.toNat_ofNat]
  omega

lemma control_eq (g : Gte) (r : Fin 32) :
    g.control (BitVec.ofNat 32 r.val) = .ok (g.readControl (controlAt r)) := by
  rw [control, toNat_number, controlReg_eq]
  cases controlAt r <;> rfl

lemma setControl_eq (g : Gte) (r : Fin 32) (v : U32) :
    g.setControl (BitVec.ofNat 32 r.val) v = .ok (g.writeControl (controlAt r) v) := by
  rw [setControl, toNat_number, controlReg_eq]
  cases controlAt r <;> rfl

/-- What the source keeps of a value. -/
def keptControl : ControlReg → U32 → U32
  | .matrix _ 4, v | .h, v | .dqa, v | .zsf3, v | .zsf4, v => RegisterFile.signExtended v
  | .flags, v => writtenFlags v
  | _, v => v

/-- The words of a matrix have no coefficient in common. -/
lemma matrixWord_setMatrixWord (m : Fin 3 → Fin 3 → I16) (which : Fin 3) (k j : Fin 5) (v : U32) :
    matrixWord (setMatrixWord m k v) j =
      if j = k then keptControl (.matrix which k) v else matrixWord m j := by
  fin_cases k <;> fin_cases j <;>
    simp [matrixWord, setMatrixWord, setCoefficient, keptControl]

lemma index_injective : Function.Injective ControlVector.index := by
  intro a b h
  cases a <;> cases b <;> first | rfl | cases h

lemma readControl_writeControl (r q : ControlReg) : (g.writeControl r v).readControl q =
    if q = r then keptControl r v else g.readControl q := by
  cases r with
  | matrix which word =>
      cases q with
      | matrix which' word' =>
          simp only [writeControl, readControl, Function.update_apply, ControlReg.matrix.injEq]
          by_cases h : which' = which
          · rw [if_pos h, matrixWord_setMatrixWord _ which, h]
            simp only [true_and]
          · simp only [h, if_false, false_and]
      | _ => rfl
  | vector which i =>
      cases q with
      | vector which' i' =>
          simp only [writeControl, readControl, Function.update_apply, ControlReg.vector.injEq,
            index_injective.eq_iff, keptControl]
          by_cases h : which' = which
          · simp only [h, if_true, true_and, Function.update_apply]
          · simp only [h, if_false, false_and]
      | _ => rfl
  | _ => cases q <;> rfl

/-! ### Data registers -/

/-- A data register: which part of the state it stands for. -/
inductive DataReg where
  | vxy (i : Fin 3) | vz (i : Fin 3) | rgb | otz | ir (i : Fin 4) | xy (i : Fin 4) | z (i : Fin 4)
  | rgbFifo (i : Fin 3) | reg23 | mac (i : Fin 4) | irgb | orgb | lzcs | lzcr
  deriving DecidableEq, Repr

/-- The data register of a number. -/
def dataAt : Fin 32 → DataReg :=
  ![.vxy 0, .vz 0, .vxy 1, .vz 1, .vxy 2, .vz 2, .rgb, .otz, .ir 0, .ir 1, .ir 2, .ir 3,
    .xy 0, .xy 1, .xy 2, .xy 3, .z 0, .z 1, .z 2, .z 3, .rgbFifo 0, .rgbFifo 1, .rgbFifo 2, .reg23,
    .mac 0, .mac 1, .mac 2, .mac 3, .irgb, .orgb, .lzcs, .lzcr]

lemma dataAt_injective : Function.Injective dataAt := by decide

/-- The colour of the registers IR1, IR2 and IR3. -/
def colour (g : Gte) : U32 := toIrgb (g.ir 1) ||| toIrgb (g.ir 2) <<< 5 ||| toIrgb (g.ir 3) <<< 10

def readData (g : Gte) : DataReg → U32
  | .vxy i => pack (g.v i.castSucc 0) (g.v i.castSucc 1)
  | .vz i => (g.v i.castSucc 2).signExtend 32
  | .rgb => rgbxToU32 g.rgb
  | .otz => g.otz.setWidth 32
  | .ir i => (g.ir i).signExtend 32
  | .xy i => xyToU32 (g.xyFifo i)
  | .z i => (g.zFifo i).setWidth 32
  | .rgbFifo i => rgbxToU32 (g.rgbFifo i)
  | .reg23 => g.reg23
  | .mac i => g.mac i
  | .irgb | .orgb => g.colour
  | .lzcs => g.lzcs
  | .lzcr => g.lzcr.setWidth 32

lemma data_eq (g : Gte) (r : Fin 32) :
    g.data (BitVec.ofNat 32 r.val) = .ok (g.readData (dataAt r)) := by
  rw [data, toNat_number]
  fin_cases r <;> rfl

/-- The store to a register by itself. -/
def storeData (g : Gte) (r : DataReg) (v : U32) : Gte :=
  match r with
  | .vxy i => (g.setV i.castSucc 0 (lowHalf v)).setV i.castSucc 1 (highHalf v)
  | .vz i => g.setV i.castSucc 2 (lowHalf v)
  | .rgb => { g with rgb := u32ToRgbx v }
  | .otz => { g with otz := lowHalf v }
  | .ir i => g.setIr i (lowHalf v)
  | .xy i => g.setXy i (u32ToXy v)
  | .z i => g.setZ i (lowHalf v)
  | .rgbFifo i => g.setRgbFifo i (u32ToRgbx v)
  | .reg23 => { g with reg23 := v }
  | .mac i => g.setMac i v
  | .lzcs => { g with lzcs := v }
  | .lzcr => { g with lzcr := v.setWidth 8 }
  -- not stored but computed
  | .irgb | .orgb => g

/-- What a register keeps of a value. -/
def keptData : DataReg → U32 → U32
  | .vz _, v | .ir _, v => RegisterFile.signExtended v
  | .otz, v | .z _, v => RegisterFile.zeroExtended v
  | .lzcr, v => (v.setWidth 8).setWidth 32
  | _, v => v

/-- One element of an array is read after another has been stored. -/
lemma read_update {n : ℕ} {α : Type} (read : α → U32) (f : Fin n → α) (x : α) {i j : Fin n}
    {w : U32}
    {P : Prop} [Decidable P] (hP : P ↔ j = i) (hw : read x = w) :
    read (Function.update f i x j) = if P then w else read (f j) := by
  rw [Function.update_apply, apply_ite read, hw]
  exact if_congr hP.symm rfl rfl

/-- The registers that are stored are independent of each other. -/
lemma readData_storeData {r q : DataReg} (hr : r ∉ [.irgb, .orgb]) (hq : q ∉ [.irgb, .orgb]) :
    (g.storeData r v).readData q = if q = r then keptData r v else g.readData q := by
  cases r with
  | vxy i =>
      cases q with
      | vxy j | vz j =>
          by_cases h : j = i
          · simp [storeData, readData, setV, keptData, h]
          · simp [storeData, readData, setV, Function.update_of_ne, h]
      | _ => rfl
  | vz i =>
      cases q with
      | vxy j | vz j =>
          by_cases h : j = i
          · simp [storeData, readData, setV, keptData, h]
          · simp [storeData, readData, setV, Function.update_of_ne, h]
      | _ => rfl
  | ir i =>
      cases q with
      | ir j => exact read_update (BitVec.signExtend 32) g.ir _ (by simp) rfl
      | irgb | orgb => simp at hq
      | _ => rfl
  | xy i =>
      cases q with
      | xy j => exact read_update xyToU32 g.xyFifo _ (by simp) (xyToU32_u32ToXy v)
      | _ => rfl
  | z i =>
      cases q with
      | z j => exact read_update (BitVec.setWidth 32) g.zFifo _ (by simp) rfl
      | _ => rfl
  | rgbFifo i =>
      cases q with
      | rgbFifo j => exact read_update rgbxToU32 g.rgbFifo _ (by simp) (rgbxToU32_u32ToRgbx v)
      | _ => rfl
  | mac i =>
      cases q with
      | mac j => exact read_update id g.mac v (by simp) rfl
      | _ => rfl
  | rgb =>
      cases q with
      | rgb => exact rgbxToU32_u32ToRgbx v
      | _ => rfl
  | otz | reg23 | lzcs | lzcr => cases q <;> rfl
  | irgb | orgb => simp at hr

/-! ### The file -/

/-- The registers of a state. -/
def file (g : Gte) : RegisterFile where
  data r := g.readData (dataAt r)
  control r := g.readControl (controlAt r)

/-- The CPU reads the file from the state. -/
structure Reads (g : Gte) (f : RegisterFile) : Prop where
  control : ∀ r : Fin 32, g.control (BitVec.ofNat 32 r.val) = .ok (f.control r)
  data : ∀ r : Fin 32, g.data (BitVec.ofNat 32 r.val) = .ok (f.data r)

lemma reads_iff {f : RegisterFile} : g.Reads f ↔ g.file = f := by
  constructor
  · intro h
    refine RegisterFile.ext (funext fun r => ?_) (funext fun r => ?_)
    · exact Except.ok.inj ((data_eq g r).symm.trans (h.data r))
    · exact Except.ok.inj ((control_eq g r).symm.trans (h.control r))
  · rintro rfl
    exact ⟨control_eq g, data_eq g⟩

/-! ### Writes to the control registers -/

lemma file_writeControl (g : Gte) (r : Fin 32) (v : U32) : (g.writeControl (controlAt r) v).file =
    { g.file with control := Function.update g.file.control r (keptControl (controlAt r) v) } := by
  have hdata (s : ControlReg) (q : DataReg) : (g.writeControl s v).readData q = g.readData q := by
    cases s <;> cases q <;> rfl
  refine RegisterFile.ext (funext fun q => hdata _ _) (funext fun q => ?_)
  refine (readControl_writeControl _ _).trans (Eq.trans ?_ (Function.update_apply ..).symm)
  exact if_congr controlAt_injective.eq_iff rfl rfl

lemma keptControl_eq {r : Fin 32} (hr : r ≠ 31) (v : U32) :
    keptControl (controlAt r) v = RegisterFile.controlForm r v := by
  fin_cases r <;> first | rfl | exact absurd rfl hr

/-- The mask of the source for the flags is another one. -/
lemma writtenFlags_eq_iff : writtenFlags v = RegisterFile.flagsForm v ↔ v &&& 0x78000f00 = 0 := by
  -- the summary bit is the same
  obtain ⟨m, hm, hleft, hright⟩ : ∃ m : U32, m &&& 0x78000f00 = 0 ∧
      writtenFlags v = v &&& 0x7ffff00 ||| m
        ∧ RegisterFile.flagsForm v = v &&& 0x7ffff000 ||| m := by
    by_cases h : v &&& 0x7f87e000 = 0
    · have hbne : (v &&& 0x7f87e000 != 0) = false := by rw [h]; rfl
      exact ⟨0, rfl, by rw [writtenFlags, hbne]; rfl,
        by rw [RegisterFile.flagsForm, if_neg (not_not.mpr h)]⟩
    · have hbne : (v &&& 0x7f87e000 != 0) = true := bne_iff_ne.mpr h
      exact ⟨0x80000000, rfl, by rw [writtenFlags, hbne]; rfl,
        by rw [RegisterFile.flagsForm, if_pos h]⟩
  rw [hleft, hright]
  constructor
  · intro h
    have hmask (c : U32) (hc : m &&& c = 0) :
        v &&& (0x7ffff00 &&& c) = v &&& (0x7ffff000 &&& c) := by
      have hand := congrArg (· &&& c) h
      simp only [BitVec.and_or_distrib_right, hc, BitVec.and_assoc] at hand
      exact (BitVec.or_zero.symm.trans hand).trans BitVec.or_zero
    have hsub {c : U32} (hc : 0x78000f00 &&& c = c) : m &&& c = 0 := by
      rw [← hc, ← BitVec.and_assoc, hm]
      exact BitVec.zero_and
    have hlow : v &&& 0xf00 = 0 := (hmask 0xf00 (hsub rfl)).trans BitVec.and_zero
    have hhigh : v &&& 0x78000000 = 0 :=
      (hmask 0x78000000 (hsub rfl)).symm.trans BitVec.and_zero
    calc v &&& 0x78000f00 = v &&& 0xf00 ||| v &&& 0x78000000 :=
          BitVec.and_or_distrib_left (x := v) (y := 0xf00) (z := 0x78000000)
      _ = 0 := by rw [hlow, hhigh]; rfl
  · intro h
    -- the bits in which the masks differ are clear
    have hmask (c : U32) : v &&& (0x78000f00 &&& c) = 0 := by
      rw [← BitVec.and_assoc, h]
      exact BitVec.zero_and
    have hdrop (a b : U32) (hb : v &&& b = 0) : v &&& (a ||| b) = v &&& a := by
      rw [BitVec.and_or_distrib_left, hb]
      exact BitVec.or_zero
    have hleft : v &&& 0x7ffff00 = v &&& 0x7fff000 := hdrop 0x7fff000 0xf00 (hmask 0xf00)
    have hright : v &&& 0x7ffff000 = v &&& 0x7fff000 :=
      hdrop 0x7fff000 0x78000000 (hmask 0x78000000)
    rw [hleft, hright]

/-- A write to a control register. -/
lemma setControl_reads_iff (g : Gte) (r : Fin 32) (v : U32) :
    (∃ g', g.setControl (BitVec.ofNat 32 r.val) v = .ok g' ∧ g'.Reads (g.file.setControl r v)) ↔
      (r = 31 → v &&& 0x78000f00 = 0) := by
  have hkept : (g.writeControl (controlAt r) v).file = g.file.setControl r v ↔
      keptControl (controlAt r) v = RegisterFile.controlForm r v := by
    rw [file_writeControl, RegisterFile.setControl]
    constructor
    · intro h
      have hr : Function.update g.file.control r (keptControl (controlAt r) v) r =
          Function.update g.file.control r (RegisterFile.controlForm r v) r :=
        congrFun (congrArg RegisterFile.control h) r
      rwa [Function.update_self, Function.update_self] at hr
    · intro h
      rw [h]
  rw [setControl_eq]
  constructor
  · rintro ⟨g', hg', hreads⟩ rfl
    obtain rfl := Except.ok.inj hg'
    exact writtenFlags_eq_iff.mp (hkept.mp (reads_iff.mp hreads))
  · intro h
    refine ⟨_, rfl, reads_iff.mpr (hkept.mpr ?_)⟩
    by_cases hr : r = 31
    · subst hr
      exact writtenFlags_eq_iff.mpr (h rfl)
    · exact keptControl_eq hr v

/-! ### The colour registers and the sign count -/

/-- A component of the colour, as the source computes it. -/
lemma toIrgb_eq (ir : I16) : toIrgb ir = RegisterFile.component (ir.signExtend 32) := by
  have hshift : (ir.sshiftRight 7).toInt = ir.toInt / 128 := by
    rw [BitVec.toInt_sshiftRight, Int.shiftRight_eq_div_pow]
    rfl
  have hext : (ir.signExtend 32).toInt = ir.toInt := BitVec.toInt_signExtend_of_le (by norm_num)
  rw [toIrgb, RegisterFile.component, hext, hshift]
  split_ifs with hneg hbig
  · rw [max_eq_left (by omega)]
    rfl
  · rw [min_eq_left (by omega)]
    rfl
  · rw [min_eq_right (by omega), max_eq_right (by omega), ← hshift]
    refine BitVec.eq_of_toNat_eq ?_
    have hnat : ((ir.sshiftRight 7).toNat : ℤ) = (ir.sshiftRight 7).toInt := by
      rw [BitVec.toInt_eq_toNat_cond] at hshift ⊢
      split_ifs at hshift ⊢ <;> omega
    rw [BitVec.toNat_setWidth, BitVec.toNat_ofInt]
    omega

lemma colour_eq (g : Gte) : g.colour = RegisterFile.component (g.file.data 9) |||
    RegisterFile.component (g.file.data 10) <<< 5 |||
    RegisterFile.component (g.file.data 11) <<< 10 := by
  rw [colour, toIrgb_eq, toIrgb_eq, toIrgb_eq]
  rfl

/-- The registers 28 and 29 follow from the others. -/
lemma data_eq_withColour {d : Fin 32 → U32} (h : ∀ q, q ≠ 28 → q ≠ 29 → g.file.data q = d q) :
    g.file.data = RegisterFile.withColour d := by
  have hcolour := g.colour_eq
  rw [h 9 (by decide) (by decide), h 10 (by decide) (by decide), h 11 (by decide) (by decide)]
    at hcolour
  funext q
  rw [RegisterFile.withColour, Function.update_apply, Function.update_apply]
  split_ifs with h29 h28
  · rw [h29]
    exact hcolour
  · rw [h28]
    exact hcolour
  · exact h q h28 h29

lemma find?_clz (x : U32) :
    ((List.range 32).find? fun k => x.getLsbD (31 - k)).getD 32 = x.clz.toNat := by
  by_cases hx : x = 0
  · subst hx
    decide
  · have hlt : x.clz.toNat < 32 := BitVec.clz_lt_iff_ne_zero.mpr hx
    have hfind : (List.range 32).find? (fun k => x.getLsbD (31 - k)) = some x.clz.toNat := by
      refine List.find?_range_eq_some.mpr ⟨?_, List.mem_range.mpr hlt, fun j hj => ?_⟩
      · exact BitVec.getLsbD_true_clz_of_ne_zero (by norm_num) hx
      · have hsmall : x.toNat < 2 ^ (32 - x.clz.toNat) := BitVec.toNat_lt_two_pow_sub_clz
        have hle : 2 ^ (32 - x.clz.toNat) ≤ 2 ^ (31 - j) :=
          Nat.pow_le_pow_right (by norm_num) (by omega)
        rw [BitVec.getLsbD, Nat.testBit_lt_two_pow (lt_of_lt_of_le hsmall hle)]
        rfl
    rw [hfind]
    rfl

/-- The sign count, as the source computes it. -/
lemma leadingSignBits_eq (v : U32) : (leadingSignBits v).setWidth 32 = RegisterFile.signBits v := by
  have hcount (x : U32) (hx : ∀ k, (v.getLsbD (31 - k) != v.getLsbD 31) = x.getLsbD (31 - k)) :
      (x.clz.setWidth 8).setWidth 32 = RegisterFile.signBits v := by
    have hle : x.clz.toNat ≤ 32 := BitVec.clz_le
    rw [RegisterFile.signBits, funext hx, find?_clz]
    refine BitVec.eq_of_toNat_eq ?_
    rw [BitVec.toNat_setWidth, BitVec.toNat_setWidth, BitVec.toNat_ofNat]
    omega
  have hsign : (v >>> 31 &&& 1 != 0) = v.getLsbD 31 := by
    have hnat : (v >>> 31 &&& 1).toNat = v.toNat / 2 ^ 31 % 2 := by
      rw [BitVec.toNat_and_mask (k := 1) _ rfl, BitVec.toNat_shift, Nat.pow_one]
    have hzero : (v >>> 31 &&& 1 != 0) = decide (v.toNat / 2 ^ 31 % 2 = 1) := by
      rw [Bool.eq_iff_iff, bne_iff_ne, decide_eq_true_iff, ne_eq, ← BitVec.toNat_inj, hnat]
      exact Nat.mod_two_ne_zero
    rw [hzero, BitVec.getLsbD, Nat.testBit_eq_decide_div_mod_eq]
  rw [leadingSignBits, hsign]
  cases hmsb : v.getLsbD 31 with
  | true =>
      refine hcount (~~~v) fun k => ?_
      rw [hmsb, BitVec.getLsbD_not, Bool.bne_true, decide_eq_true (by omega : 31 - k < 32),
        Bool.true_and]
  | false =>
      refine hcount v fun k => ?_
      rw [hmsb, Bool.bne_false]

/-! ### Writes to the data registers -/

/-- A store and what the colour registers make of it. -/
lemma file_storeData (g : Gte) {r : Fin 32} (hr : r ≠ 28 ∧ r ≠ 29) (v : U32) :
    (g.storeData (dataAt r) v).file = { g.file with
      data :=
        RegisterFile.withColour (Function.update g.file.data r (keptData (dataAt r) v)) } := by
  have hstored : ∀ q : Fin 32, q ≠ 28 → q ≠ 29 → dataAt q ∉ [.irgb, .orgb] := by decide
  have hcontrol (s : DataReg) (q : ControlReg) :
      (g.storeData s v).readControl q = g.readControl q := by
    cases s <;> rfl
  refine RegisterFile.ext (data_eq_withColour fun q h28 h29 => ?_) (funext fun q => hcontrol _ _)
  refine (readData_storeData (hstored r hr.1 hr.2) (hstored q h28 h29)).trans
    (Eq.trans ?_ (Function.update_apply ..).symm)
  exact if_congr dataAt_injective.eq_iff rfl rfl

/-- The other registers do not depend on it. -/
lemma withColour_update (g : Gte) {r : Fin 32} (hr : r ∉ [9, 10, 11, 28, 29]) (x : U32) :
    RegisterFile.withColour (Function.update g.file.data r x) =
      Function.update g.file.data r x := by
  have hcolour := g.colour_eq
  simp only [List.mem_cons, List.not_mem_nil, or_false, not_or] at hr
  obtain ⟨h9, h10, h11, h28, h29⟩ := hr
  funext q
  rw [RegisterFile.withColour, Function.update_of_ne (Ne.symm h9),
    Function.update_of_ne (Ne.symm h10),
    Function.update_of_ne (Ne.symm h11), ← hcolour]
  by_cases hq29 : q = 29
  · rw [hq29, Function.update_self, Function.update_of_ne (Ne.symm h29)]
    rfl
  · rw [Function.update_of_ne hq29]
    by_cases hq28 : q = 28
    · rw [hq28, Function.update_self, Function.update_of_ne (Ne.symm h28)]
      rfl
    · rw [Function.update_of_ne hq28]

lemma file_storeData_plain (g : Gte) {r : Fin 32} (hr : r ∉ [9, 10, 11, 28, 29]) (v : U32) :
    (g.storeData (dataAt r) v).file =
      { g.file with data := Function.update g.file.data r (keptData (dataAt r) v) } := by
  have hne : r ≠ 28 ∧ r ≠ 29 := ⟨fun h => hr (by simp [h]), fun h => hr (by simp [h])⟩
  rw [file_storeData g hne, withColour_update g hr]

lemma u32ToXy_xyToU32 (c : I16 × I16) : u32ToXy (xyToU32 c) = c := by
  refine Prod.ext ?_ ?_
  · ext k hk
    interval_cases k <;> simp [u32ToXy, xyToU32, pack, lowHalf]
  · ext k hk
    interval_cases k <;> simp [u32ToXy, xyToU32, pack, highHalf]

lemma file_setXy (g : Gte) {r : Fin 32} {i : Fin 4} (hr : dataAt r = .xy i) (c : I16 × I16) :
    (g.setXy i c).file =
      { g.file with data := Function.update g.file.data r (xyToU32 c) } := by
  have hplain : ∀ r : Fin 32, ∀ i, dataAt r = .xy i → r ∉ [9, 10, 11, 28, 29] := by decide
  have hstore : g.setXy i c = g.storeData (dataAt r) (xyToU32 c) := by
    rw [hr, storeData, u32ToXy_xyToU32]
  rw [hstore, file_storeData_plain g (hplain r i hr), hr]
  rfl

lemma keptData_eq {r : Fin 32} (hr : r ∉ [28, 29, 30, 31]) (v : U32) :
    keptData (dataAt r) v = RegisterFile.dataForm r v := by
  fin_cases r <;> first | exact absurd (by decide) hr | rfl

lemma setData_eq (g : Gte) {r : Fin 32} (hr : r ∉ [14, 15, 28, 29, 30, 31]) (v : U32) :
    g.setData (BitVec.ofNat 32 r.val) v = .ok (g.storeData (dataAt r) v) := by
  rw [setData, toNat_number]
  fin_cases r <;> first | exact absurd (by decide) hr | rfl

lemma writeData_plain (d : Fin 32 → U32) {r : Fin 32}
    (hr : r ∉ [9, 10, 11, 14, 15, 28, 29, 30, 31]) (v : U32) :
    RegisterFile.writeData d r v = Function.update d r (RegisterFile.dataForm r v) := by
  fin_cases r <;> first | exact absurd (by decide) hr | rfl

lemma writeData_ir (d : Fin 32 → U32) {r : Fin 32} (hr : r ∈ [9, 10, 11]) (v : U32) :
    RegisterFile.writeData d r v =
      RegisterFile.withColour (Function.update d r (RegisterFile.dataForm r v)) := by
  fin_cases r <;> first | exact absurd hr (by decide) | rfl

/-- The XY FIFO, pushed. -/
lemma file_pushXy (g : Gte) (v : U32) : ∃ g', g.setData 15 v = .ok g' ∧
    g'.file = { g.file with data := RegisterFile.writeData g.file.data 15 v } := by
  refine ⟨_, rfl, ?_⟩
  rw [file_setXy _ (r := 14) rfl, file_setXy _ (r := 13) rfl, file_setXy _ (r := 12) rfl,
    file_setXy _ (r := 15) rfl]
  refine RegisterFile.ext (funext fun q => ?_) rfl
  have h13 : xyToU32 (g.xyFifo 1) = g.file.data 13 := rfl
  have h14 : xyToU32 (g.xyFifo 2) = g.file.data 14 := rfl
  simp only [setXy, ne_eq, Fin.reduceEq, not_false_eq_true, Function.update_of_ne,
    Function.update_self, xyToU32_u32ToXy, h13, h14]
  change _ = Function.update (Function.update (Function.update (Function.update g.file.data
    12 _) 13 _) 14 v) 15 v q
  simp only [Function.update_apply]
  -- the last word is stored first
  split_ifs with h14 h13 h12 h15 <;> first | rfl | omega

/-- The sign count, recomputed. -/
lemma file_setSign (g : Gte) (v : U32) : ∃ g', g.setData 30 v = .ok g' ∧
    g'.file = { g.file with data := RegisterFile.writeData g.file.data 30 v } := by
  have hbyte : ((leadingSignBits v).setWidth 32).setWidth 8 = leadingSignBits v := by
    rw [BitVec.setWidth_setWidth_of_le _ (by norm_num), BitVec.setWidth_eq]
  have hstore : ({ g with lzcs := v, lzcr := leadingSignBits v } : Gte) =
      (g.storeData (dataAt 30) v).storeData (dataAt 31) ((leadingSignBits v).setWidth 32) := by
    change _ = ({ g with lzcs := v, lzcr := ((leadingSignBits v).setWidth 32).setWidth 8 } : Gte)
    rw [hbyte]
  refine ⟨_, rfl, ?_⟩
  rw [hstore, file_storeData_plain _ (r := 31) (by decide),
    file_storeData_plain _ (r := 30) (by decide)]
  refine RegisterFile.ext ?_ rfl
  have hkept : keptData (dataAt 31) ((leadingSignBits v).setWidth 32) =
      RegisterFile.signBits v := by
    rw [← leadingSignBits_eq]
    exact congrArg (BitVec.setWidth 32) hbyte
  rw [hkept]
  rfl

/-- Every write but that of the colour register is as documented. -/
lemma file_setData (g : Gte) {r : Fin 32} (hr : r ≠ 28) (v : U32) :
    ∃ g', g.setData (BitVec.ofNat 32 r.val) v = .ok g' ∧ g'.file = g.file.setData r v := by
  by_cases hir : r ∈ [9, 10, 11]
  · have hstored : ∀ r : Fin 32, r ∈ [9, 10, 11] →
        r ∉ [14, 15, 28, 29, 30, 31] ∧ r ∉ [28, 29, 30, 31] ∧ r ≠ 28 ∧ r ≠ 29 := by decide
    obtain ⟨hset, hkept, hne⟩ := hstored r hir
    refine ⟨_, setData_eq g hset v, ?_⟩
    rw [file_storeData g hne, keptData_eq hkept, RegisterFile.setData, writeData_ir _ hir]
  by_cases hcoupled : r ∈ [14, 15, 29, 30, 31]
  · fin_cases r <;> first | exact absurd hcoupled (by decide) | skip
    · refine ⟨_, rfl, ?_⟩
      rw [file_setXy _ (r := 15) rfl, file_setXy _ (r := 14) rfl, xyToU32_u32ToXy]
      rfl
    · exact file_pushXy g v
    · exact ⟨g, rfl, rfl⟩
    · exact file_setSign g v
    · exact ⟨g, rfl, rfl⟩
  · have hplain : ∀ r : Fin 32, r ≠ 28 → r ∉ [9, 10, 11] → r ∉ [14, 15, 29, 30, 31] →
        r ∉ [14, 15, 28, 29, 30, 31] ∧ r ∉ [28, 29, 30, 31] ∧ r ∉ [9, 10, 11, 28, 29] ∧
          r ∉ [9, 10, 11, 14, 15, 28, 29, 30, 31] := by decide
    obtain ⟨hset, hkept, hcolour, hwrite⟩ := hplain r hr hir hcoupled
    refine ⟨_, setData_eq g hset v, ?_⟩
    rw [file_storeData_plain g hcolour, keptData_eq hkept, RegisterFile.setData,
      writeData_plain _ hwrite]

/-! ### The colour register -/

/-- The three fields of `v` are equal, and IR0 and IR3 hold what they stand for. -/
def ColourFixed (g : Gte) (v : U32) : Prop :=
  RegisterFile.field v 1 = RegisterFile.field v 0 ∧
    RegisterFile.field v 2 = RegisterFile.field v 0 ∧
    g.file.data 8 = RegisterFile.field v 0 <<< 7 ∧ g.file.data 11 = RegisterFile.field v 0 <<< 7

lemma field_eq (v : U32) (k : ℕ) :
    RegisterFile.field v k = ((v >>> (5 * k)).setWidth 5).setWidth 32 := by
  refine BitVec.eq_of_toNat_eq ?_
  rw [RegisterFile.field, BitVec.toNat_and_mask (k := 5) _ rfl, BitVec.toNat_setWidth,
    BitVec.toNat_setWidth]
  omega

/-- The value of an IR register for a field. -/
lemma signExtend_ofIrgb (v : U32) (k : ℕ) :
    (ofIrgb (v >>> (5 * k))).signExtend 32 = RegisterFile.field v k <<< 7 := by
  have hfive : ∀ f : BitVec 5,
      ((f.setWidth 32 <<< 7).setWidth 16).signExtend 32 = f.setWidth 32 <<< 7 := by decide
  have hfield := field_eq v k
  rw [ofIrgb, ← RegisterFile.field, hfield]
  exact hfive _

lemma component_field (v : U32) (k : ℕ) :
    RegisterFile.component (RegisterFile.field v k <<< 7) = RegisterFile.field v k := by
  have hfive : ∀ f : BitVec 5,
      RegisterFile.component (f.setWidth 32 <<< 7) = f.setWidth 32 := by decide
  rw [field_eq]
  exact hfive _

/-- The shift of the fields can be undone. -/
lemma field_shl_inj {v : U32} {k j : ℕ}
    (h : RegisterFile.field v k <<< 7 = RegisterFile.field v j <<< 7) :
    RegisterFile.field v k = RegisterFile.field v j := by
  rw [← component_field, h, component_field]

lemma fields_or (v : U32) : RegisterFile.field v 0 ||| RegisterFile.field v 1 <<< 5 |||
    RegisterFile.field v 2 <<< 10 = v &&& 0x7fff := by
  ext k hk
  interval_cases k <;> simp [RegisterFile.field]

lemma file_setIr {d : Fin 32 → U32} {r : Fin 32} {i : Fin 4} (hr : dataAt r = .ir i) (x : I16)
    (hd : ∀ q, q ≠ 28 → q ≠ 29 → g.file.data q = d q) :
    ∀ q, q ≠ 28 → q ≠ 29 → (g.setIr i x).file.data q = Function.update d r (x.signExtend 32) q := by
  intro q h28 h29
  have hstored : ∀ q : Fin 32, q ≠ 28 → q ≠ 29 → dataAt q ∉ [.irgb, .orgb] := by decide
  have hlow : (x.signExtend 32).setWidth 16 = x := by
    ext k hk
    rw [BitVec.getElem_setWidth, BitVec.getLsbD_signExtend]
    simp [hk, show k < 32 by omega]
  have hstore : g.setIr i x = g.storeData (.ir i) (x.signExtend 32) := by
    rw [storeData, lowHalf, hlow]
  have hkept : keptData (.ir i) (x.signExtend 32) = x.signExtend 32 := by
    rw [keptData, RegisterFile.signExtended, hlow]
  rw [hstore, Function.update_apply, ← hd q h28 h29]
  refine (readData_storeData (by simp) (hstored q h28 h29)).trans ?_
  rw [hkept, ← hr]
  exact if_congr dataAt_injective.eq_iff rfl rfl

/-- What the source stores: the fields go to IR0, IR1 and IR2. -/
lemma file_setColour (g : Gte) (v : U32) : ∃ g', g.setData 28 v = .ok g' ∧
    (∀ q, g'.file.control q = g.file.control q) ∧
    ∀ q, q ≠ 28 → q ≠ 29 → g'.file.data q = Function.update (Function.update
      (Function.update g.file.data 8 (RegisterFile.field v 0 <<< 7)) 9
        (RegisterFile.field v 1 <<< 7))
      10 (RegisterFile.field v 2 <<< 7) q := by
  have h0 := signExtend_ofIrgb v 0
  have h1 := signExtend_ofIrgb v 1
  have h2 := signExtend_ofIrgb v 2
  rw [Nat.mul_zero, BitVec.ushiftRight_zero] at h0
  rw [← h0, ← h1, ← h2]
  refine ⟨_, rfl, fun q => ?_, ?_⟩
  · change (((g.setIr 0 _).setIr 1 _).setIr 2 _).readControl (controlAt q) =
      g.readControl (controlAt q)
    cases controlAt q <;> rfl
  · exact file_setIr (r := 10) rfl _ (file_setIr (r := 9) rfl _
      (file_setIr (r := 8) rfl _ fun _ _ _ => rfl))

/-- The documented write keeps the colour in line with the IR registers. -/
lemma withColour_setColour (d : Fin 32 → U32) (v : U32) :
    RegisterFile.withColour (RegisterFile.writeData d 28 v) = RegisterFile.writeData d 28 v := by
  have h9 : RegisterFile.writeData d 28 v 9 = RegisterFile.field v 0 <<< 7 := rfl
  have h10 : RegisterFile.writeData d 28 v 10 = RegisterFile.field v 1 <<< 7 := rfl
  have h11 : RegisterFile.writeData d 28 v 11 = RegisterFile.field v 2 <<< 7 := rfl
  have h28 : v &&& 0x7fff = RegisterFile.writeData d 28 v 28 := rfl
  have h29 : v &&& 0x7fff = RegisterFile.writeData d 28 v 29 := rfl
  rw [RegisterFile.withColour, h9, h10, h11, component_field, component_field, component_field,
    fields_or]
  nth_rewrite 2 [h29]
  rw [h28, Function.update_eq_self, Function.update_eq_self]

lemma setColour_iff (g : Gte) (v : U32) :
    (∃ g', g.setData 28 v = .ok g' ∧ g'.file = g.file.setData 28 v) ↔ ColourFixed g v := by
  obtain ⟨g', hset, hcontrol, hdata⟩ := file_setColour g v
  constructor
  · rintro ⟨g'', hset', hfile⟩
    obtain rfl := Except.ok.inj (hset.symm.trans hset')
    have hspec (q : Fin 32) : g'.file.data q = RegisterFile.writeData g.file.data 28 v q :=
      congrFun (congrArg RegisterFile.data hfile) q
    have h8 : RegisterFile.field v 0 <<< 7 = g.file.data 8 :=
      (hdata 8 (by decide) (by decide)).symm.trans (hspec 8)
    have h9 : RegisterFile.field v 1 <<< 7 = RegisterFile.field v 0 <<< 7 :=
      (hdata 9 (by decide) (by decide)).symm.trans (hspec 9)
    have h10 : RegisterFile.field v 2 <<< 7 = RegisterFile.field v 1 <<< 7 :=
      (hdata 10 (by decide) (by decide)).symm.trans (hspec 10)
    have h11 : g.file.data 11 = RegisterFile.field v 2 <<< 7 :=
      (hdata 11 (by decide) (by decide)).symm.trans (hspec 11)
    exact ⟨field_shl_inj h9, field_shl_inj (h10.trans h9), h8.symm, h11.trans (h10.trans h9)⟩
  · rintro ⟨h1, h2, h8, h11⟩
    refine ⟨g', hset, RegisterFile.ext ?_ (funext hcontrol)⟩
    have hwritten (q : Fin 32) (h28 : q ≠ 28) (h29 : q ≠ 29) :
        g'.file.data q = RegisterFile.writeData g.file.data 28 v q := by
      rw [hdata q h28 h29, h1, h2]
      by_cases hq8 : q = 8
      · subst hq8
        exact h8.symm
      by_cases hq9 : q = 9
      · subst hq9
        rfl
      by_cases hq10 : q = 10
      · subst hq10
        exact h1 ▸ rfl
      by_cases hq11 : q = 11
      · subst hq11
        exact h11.trans (h2 ▸ rfl)
      · rw [Function.update_of_ne hq10, Function.update_of_ne hq9, Function.update_of_ne hq8]
        change _ = Function.update (Function.update (Function.update (Function.update
          (Function.update g.file.data 9 _) 10 _) 11 _) 28 _) 29 _ q
        rw [Function.update_of_ne h29, Function.update_of_ne h28, Function.update_of_ne hq11,
          Function.update_of_ne hq10, Function.update_of_ne hq9]
    rw [data_eq_withColour hwritten]
    refine Eq.trans ?_ (withColour_setColour g.file.data v)
    rfl

/-! ### The result -/

/-- **Read-back.**  A write does to the register file what is documented, exactly if it
is not a write of the flags with a bit in which the two masks differ, nor one of the
colour register that would have to change IR0 or IR3, or to tell its fields apart. -/
theorem readBack_iff (g : Gte) (r : Fin 32) (v : U32) :
    ((∃ g', g.setControl (BitVec.ofNat 32 r.val) v = .ok g' ∧ g'.Reads (g.file.setControl r v)) ↔
      (r = 31 → v &&& 0x78000f00 = 0)) ∧
    ((∃ g', g.setData (BitVec.ofNat 32 r.val) v = .ok g' ∧ g'.Reads (g.file.setData r v)) ↔
      (r = 28 → ColourFixed g v)) := by
  refine ⟨setControl_reads_iff g r v, ?_⟩
  simp only [reads_iff]
  by_cases hr : r = 28
  · subst hr
    exact (setColour_iff g v).trans ⟨fun h _ => h, fun h => h rfl⟩
  · exact iff_of_true (file_setData g hr v) fun h => absurd h hr

/-- Two writes that are not read back: the flag in bit 27, and a colour with only its
third field set. -/
theorem readBack_fails :
    (¬∀ (g : Gte) (r : Fin 32) (v : U32), ∃ g',
      g.setControl (BitVec.ofNat 32 r.val) v = .ok g' ∧ g'.Reads (g.file.setControl r v)) ∧
    ¬∀ (g : Gte) (r : Fin 32) (v : U32), ∃ g',
      g.setData (BitVec.ofNat 32 r.val) v = .ok g' ∧ g'.Reads (g.file.setData r v) := by
  constructor
  · intro h
    obtain ⟨g', hset, hreads⟩ := h .new 31 0x08000000
    obtain rfl := Except.ok.inj hset
    have hflags : (0x80000000 : U32) = 0x88000000 := Except.ok.inj (hreads.control 31)
    exact absurd hflags (by decide)
  · intro h
    obtain ⟨g', hset, hreads⟩ := h .new 28 0x7c00
    obtain rfl := Except.ok.inj hset
    have hir3 : (0 : U32) = 0xf80 := Except.ok.inj (hreads.data 11)
    exact absurd hir3 (by decide)

end Gte

end Rustation
