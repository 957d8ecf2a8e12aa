import Rustation.Gte.Commands
import Rustation.Lib.Related

/-!
Two runs of the same part of a command, from registers that agree in part.

The runs may differ in the vectors, in MAC0 and IR0, and in the flags that were set before.  No part
of a command looks at the flags, and the vectors are read by their index only.

* `Sim`: the registers agree otherwise, and the flags of the first run are those of the second with
  some more;
* one lemma for each part of the commands that transform vectors, up to `Sim.doNcd`, `Sim.doNcc`,
  `Sim.doNc` and `Sim.doRtp`: it does the same in both runs if the vectors that it reads are the
  same;
* `SimAfter`: the scratch vector has been written.
-/

namespace Rustation

open Fallible Machine

namespace Gte

/-! ### Two runs -/

/-- What two runs of the same steps may differ in, the registers of the second run with a prime.
The flags are those that the first run has in addition. -/
structure Apart where
  v : Fin 4 → Fin 3 → I16
  v' : Fin 4 → Fin 3 → I16
  mac0 : I32
  mac0' : I32
  ir0 : I16
  ir0' : I16
  flags : U32

/-- The registers agree otherwise. -/
structure Sim (d : Apart) (g s : Gte) : Prop where
  rest : g = { s with
    v := d.v
    flags := s.flags ||| d.flags
    mac := Function.update s.mac 0 d.mac0
    ir := Function.update s.ir 0 d.ir0 }
  v : s.v = d.v'
  mac0 : s.mac 0 = d.mac0'
  ir0 : s.ir 0 = d.ir0'

/-- Results with a register file: the same result, and registers that agree. -/
def SimWith {α : Type} (d : Apart) (x y : α × Gte) : Prop := x.1 = y.1 ∧ Sim d x.2 y.2

namespace Sim

variable {d : Apart} {g s : Gte} (h : Sim d g s) (config : CommandConfig)
include h

/-! #### Registers -/

lemma fst_v : g.v = d.v := by rw [h.rest]

lemma fst_flags : g.flags = s.flags ||| d.flags := by rw [h.rest]

lemma fst_mac0 : g.mac 0 = d.mac0 := by
  rw [h.rest]
  exact Function.update_self 0 d.mac0 s.mac

lemma fst_ir0 : g.ir 0 = d.ir0 := by
  rw [h.rest]
  exact Function.update_self 0 d.ir0 s.ir

lemma mac (i : Fin 3) : g.mac i.succ = s.mac i.succ := by
  rw [h.rest]
  exact Function.update_of_ne (Fin.succ_ne_zero i) d.mac0 s.mac

lemma ir (i : Fin 3) : g.ir i.succ = s.ir i.succ := by
  rw [h.rest]
  exact Function.update_of_ne (Fin.succ_ne_zero i) d.ir0 s.ir

lemma rgb : g.rgb = s.rgb := by rw [h.rest]

lemma rgbFifo : g.rgbFifo = s.rgbFifo := by rw [h.rest]

lemma xyFifo : g.xyFifo = s.xyFifo := by rw [h.rest]

lemma zFifo : g.zFifo = s.zFifo := by rw [h.rest]

lemma matrices : g.matrices = s.matrices := by rw [h.rest]

lemma controlVectors : g.controlVectors = s.controlVectors := by rw [h.rest]

lemma setFlag (bit : ℕ) : Sim d (g.setFlag bit) (s.setFlag bit) := by
  refine ⟨?_, h.v, h.mac0, h.ir0⟩
  rw [h.rest]
  simp only [Gte.setFlag, BitVec.or_assoc, BitVec.or_comm d.flags]

lemma setMac (i : Fin 3) (val : I32) : Sim d (g.setMac i.succ val) (s.setMac i.succ val) := by
  refine ⟨?_, h.v, ?_, h.ir0⟩
  · rw [h.rest]
    simp only [Gte.setMac, Function.update_comm (Fin.succ_ne_zero i)]
  · exact (Function.update_of_ne (Fin.succ_ne_zero i).symm val s.mac).trans h.mac0

lemma setIr (i : Fin 3) (val : I16) : Sim d (g.setIr i.succ val) (s.setIr i.succ val) := by
  refine ⟨?_, h.v, h.mac0, ?_⟩
  · rw [h.rest]
    simp only [Gte.setIr, Function.update_comm (Fin.succ_ne_zero i)]
  · exact (Function.update_of_ne (Fin.succ_ne_zero i).symm val s.ir).trans h.ir0

lemma setZ (i : Fin 4) (z : U16) : Sim d (g.setZ i z) (s.setZ i z) := by
  refine ⟨?_, h.v, h.mac0, h.ir0⟩
  rw [h.rest]
  rfl

lemma setXy (i : Fin 4) (xy : I16 × I16) : Sim d (g.setXy i xy) (s.setXy i xy) := by
  refine ⟨?_, h.v, h.mac0, h.ir0⟩
  rw [h.rest]
  rfl

lemma setRgbFifo (i : Fin 3) (c : Rgbx) : Sim d (g.setRgbFifo i c) (s.setRgbFifo i c) := by
  refine ⟨?_, h.v, h.mac0, h.ir0⟩
  rw [h.rest]
  rfl

/-! #### Conversions -/

lemma i64ToI44 (flag : ℕ) (val : ℤ) : SimWith d (g.i64ToI44 flag val) (s.i64ToI44 flag val) := by
  refine ⟨rfl, ?_⟩
  simp only [Gte.i64ToI44]
  split_ifs
  · exact h.setFlag _
  · exact h.setFlag _
  · exact h

lemma i32ToI16Saturate (flag : ℕ) (val : ℤ) :
    SimWith d (g.i32ToI16Saturate config flag val) (s.i32ToI16Saturate config flag val) := by
  rw [Gte.i32ToI16Saturate, Gte.i32ToI16Saturate]
  by_cases hmax : val > 0x7fff
  · rw [if_pos hmax, if_pos hmax]
    exact ⟨rfl, h.setFlag _⟩
  rw [if_neg hmax, if_neg hmax]
  by_cases hmin : val < if config.clampNegative = true then 0 else -0x8000
  · rw [if_pos hmin, if_pos hmin]
    exact ⟨rfl, h.setFlag _⟩
  · rw [if_neg hmin, if_neg hmin]
    exact ⟨rfl, h⟩

lemma i32ToI11Saturate (flag : ℕ) (val : ℤ) :
    SimWith d (g.i32ToI11Saturate flag val) (s.i32ToI11Saturate flag val) := by
  rw [Gte.i32ToI11Saturate, Gte.i32ToI11Saturate]
  split_ifs
  · exact ⟨rfl, h.setFlag _⟩
  · exact ⟨rfl, h.setFlag _⟩
  · exact ⟨rfl, h⟩

lemma checkMacOverflow (val : ℤ) : Sim d (g.checkMacOverflow val) (s.checkMacOverflow val) := by
  rw [Gte.checkMacOverflow, Gte.checkMacOverflow]
  split_ifs
  · exact h.setFlag _
  · exact h.setFlag _
  · exact h

lemma macToColor (mac : ℤ) (which : ℕ) :
    SimWith d (g.macToColor mac which) (s.macToColor mac which) := by
  rw [Gte.macToColor, Gte.macToColor]
  split_ifs
  · exact ⟨rfl, h.setFlag _⟩
  · exact ⟨rfl, h.setFlag _⟩
  · exact ⟨rfl, h⟩

/-! #### Results -/

lemma saturateIr (i : Fin 3) : Sim d (g.saturateIr config i) (s.saturateIr config i) := by
  rw [Gte.saturateIr, Gte.saturateIr, h.mac i]
  obtain ⟨hval, hsim⟩ := h.i32ToI16Saturate config i (s.mac i.succ).toInt
  dsimp only
  rw [hval]
  exact hsim.setIr i _

lemma macToIr : Sim d (g.macToIr config) (s.macToIr config) := by
  rw [macToIr_eq, macToIr_eq]
  exact ((h.saturateIr config 0).saturateIr config 1).saturateIr config 2

/-- Queue a colour. -/
lemma queueRgb {red red' green green' blue blue' : U8} (hred : red = red') (hgreen : green = green')
    (hblue : blue = blue') :
    Sim d (((g.setRgbFifo 0 (g.rgbFifo 1)).setRgbFifo 1 (g.rgbFifo 2)).setRgbFifo 2
        ⟨red, green, blue, g.rgb.x⟩)
      (((s.setRgbFifo 0 (s.rgbFifo 1)).setRgbFifo 1 (s.rgbFifo 2)).setRgbFifo 2
        ⟨red', green', blue', s.rgb.x⟩) := by
  subst hred hgreen hblue
  rw [h.rgbFifo, h.rgb]
  exact ((h.setRgbFifo 0 _).setRgbFifo 1 _).setRgbFifo 2 _

lemma macToRgbFifo : Sim d g.macToRgbFifo s.macToRgbFifo := by
  have hmac1 : g.mac 1 = s.mac 1 := h.mac 0
  have hmac2 : g.mac 2 = s.mac 2 := h.mac 1
  have hmac3 : g.mac 3 = s.mac 3 := h.mac 2
  rw [Gte.macToRgbFifo, Gte.macToRgbFifo, hmac1, hmac2, hmac3]
  obtain ⟨hred, h1⟩ := h.macToColor (s.mac 1).toInt 0
  obtain ⟨hgreen, h2⟩ := h1.macToColor (s.mac 2).toInt 1
  obtain ⟨hblue, h3⟩ := h2.macToColor (s.mac 3).toInt 2
  exact h3.queueRgb hred hgreen hblue

/-! #### Parts of the commands -/

/-- The part `f` of a command does the same in both runs. -/
lemma eachComponent {body body' : Gte → Fin 3 → Outcome Gte}
    (hbody : ∀ i {g s : Gte}, Sim d g s → Related (Sim d) (body g i) (body' s i)) :
    Related (Sim d) (g.eachComponent body) (s.eachComponent body') := by
  rw [Gte.eachComponent, Gte.eachComponent]
  refine .bind (hbody 0 h) fun g₀ s₀ h₀ => ?_
  exact .bind (hbody 1 h₀) fun g₁ s₁ h₁ => hbody 2 h₁

lemma addProduct (flag : ℕ) (res : ℤ) (v m : I16) :
    Related (SimWith d) (g.addProduct flag res v m) (s.addProduct flag res v m) := by
  rw [Gte.addProduct, Gte.addProduct]
  refine .bind (.refl (fun _ => rfl) _) fun product _ hproduct => ?_
  subst hproduct
  refine .bind (.refl (fun _ => rfl) _) fun sum _ hsum => ?_
  subst hsum
  exact .ok (h.i64ToI44 flag sum)

lemma accumulate (flag : Fin 3 → ℕ) (res : ℤ) (v m : Fin 3 → I16) :
    Related (SimWith d) (g.accumulate flag res v m) (s.accumulate flag res v m) := by
  rw [Gte.accumulate, Gte.accumulate]
  refine .bind (h.addProduct (flag 0) res (v 0) (m 0)) ?_
  rintro ⟨res₀, g₀⟩ ⟨_, s₀⟩ ⟨rfl, h₀⟩
  refine .bind (h₀.addProduct (flag 1) res₀ (v 1) (m 1)) ?_
  rintro ⟨res₁, g₁⟩ ⟨_, s₁⟩ ⟨rfl, h₁⟩
  exact h₁.addProduct (flag 2) res₁ (v 2) (m 2)

/-- The vector that the second run multiplies is the one of the first. -/
lemma multiplyRow (mat : Fin 3) {i j : Fin 4} (hij : d.v i = d.v' j) (crv : Fin 4) (r : Fin 3) :
    Related (Sim d) (Gte.multiplyRow config mat i crv g r)
      (Gte.multiplyRow config mat j crv s r) := by
  have hv : g.v i = s.v j := by
    rw [h.fst_v, h.v]
    exact hij
  rw [Gte.multiplyRow, Gte.multiplyRow, h.controlVectors, hv, h.matrices]
  refine .bind (h.accumulate _ _ _ _) ?_
  rintro ⟨res, g₁⟩ ⟨_, s₁⟩ ⟨rfl, h₁⟩
  exact .ok (h₁.setMac r _)

lemma multiplyMatrixByVector (matrix : Matrix) {i j : Fin 4} (hij : d.v i = d.v' j)
    (cv : ControlVector) :
    Related (Sim d) (g.multiplyMatrixByVector config matrix i cv)
      (s.multiplyMatrixByVector config matrix j cv) := by
  rw [Gte.multiplyMatrixByVector, Gte.multiplyMatrixByVector]
  split
  · exact .error _
  · next mat hmat =>
    split_ifs
    · exact .error _
    · refine .bind (h.eachComponent fun r _ _ h => h.multiplyRow config mat hij cv.index r) ?_
      exact fun g₁ s₁ h₁ => .ok (h₁.macToIr config)

/-- The interpolation reads IR0. -/
lemma depthCue (hir0 : d.ir0 = d.ir0') (i : Fin 3) (base : ℤ) :
    Related (Sim d) (Gte.depthCue config g i base) (Gte.depthCue config s i base) := by
  have hir {g s : Gte} (h : Sim d g s) : g.ir 0 = s.ir 0 := by
    rw [h.fst_ir0, h.ir0, hir0]
  rw [Gte.depthCue, Gte.depthCue, h.controlVectors]
  refine .bind (.refl (fun _ => rfl) _) fun sub _ hsub => ?_
  subst hsub
  obtain ⟨hval₁, h₁⟩ := h.i64ToI44 i sub
  obtain ⟨hval₂, h₂⟩ := h₁.i32ToI16Saturate (CommandConfig.fromCommand 0) i
    (wrap32 (asr (s.i64ToI44 i sub).1 config.shift))
  dsimp only
  rw [hval₁, hval₂, hir h₂]
  refine .bind (.refl (fun _ => rfl) _) fun product _ hproduct => ?_
  subst hproduct
  refine .bind (.refl (fun _ => rfl) _) fun sum _ hsum => ?_
  subst hsum
  obtain ⟨hval₃, h₃⟩ := h₂.i64ToI44 i sum
  rw [hval₃]
  exact .ok (h₃.setMac i _)

lemma shade (i : Fin 3) : g.shade i = s.shade i := by
  rw [Gte.shade, Gte.shade, h.rgb, h.ir]

/-- The end of a colour command. -/
lemma toColor : Related (Sim d) (pure (g.macToIr config).macToRgbFifo)
    (pure (s.macToIr config).macToRgbFifo) :=
  .ok (h.macToIr config).macToRgbFifo

lemma cmdDcpl (hir0 : d.ir0 = d.ir0') : Related (Sim d) (g.cmdDcpl config) (s.cmdDcpl config) := by
  rw [Gte.cmdDcpl, Gte.cmdDcpl]
  refine .bind (h.eachComponent fun i g s h => ?_) fun _ _ h => h.toColor config
  rw [h.shade]
  refine .bind (.refl (fun _ => rfl) _) fun shading _ hshading => ?_
  subst hshading
  exact h.depthCue config hir0 i shading

lemma applyColor : Related (Sim d) (g.applyColor config) (s.applyColor config) := by
  rw [Gte.applyColor, Gte.applyColor]
  refine .bind (h.eachComponent fun i g s h => ?_) fun _ _ h => h.toColor config
  rw [h.shade]
  refine .bind (.refl (fun _ => rfl) _) fun shading _ hshading => ?_
  subst hshading
  exact .ok (h.setMac i _)

/-! #### The scratch vector -/

lemma irToV3 : Sim { d with v := g.irToV3.v, v' := s.irToV3.v } g.irToV3 s.irToV3 := by
  refine ⟨?_, rfl, h.mac0, h.ir0⟩
  have hset (v : Fin 4 → Fin 3 → I16) : { g with v := v } = { s with
      v := v
      flags := s.flags ||| d.flags
      mac := Function.update s.mac 0 d.mac0
      ir := Function.update s.ir 0 d.ir0 } := by
    rw [h.rest]
  exact hset g.irToV3.v

/-- Both runs put the same values there. -/
lemma irToV3_scratch : g.irToV3.v 3 = s.irToV3.v 3 := by
  have h1 : g.ir 1 = s.ir 1 := h.ir 0
  have h2 : g.ir 2 = s.ir 2 := h.ir 1
  have h3 : g.ir 3 = s.ir 3 := h.ir 2
  funext c
  fin_cases c <;> simp [Gte.irToV3, setV, h1, h2, h3]

end Sim

lemma irToV3_v (g : Gte) {k : Fin 4} (hk : k ≠ 3) : g.irToV3.v k = g.v k := by
  simp [irToV3, setV, hk]

/-- The runs agree as before, but for the scratch vector. -/
def SimAfter (d : Apart) (g s : Gte) : Prop :=
  ∃ v v', (∀ k ≠ 3, v k = d.v k) ∧ Sim { d with v := v, v' := v' } g s

namespace Sim

variable {d : Apart} {g s : Gte} (h : Sim d g s) (config : CommandConfig) {i j : Fin 4}
include h

lemma lightColor (hij : d.v i = d.v' j) :
    Related (SimAfter d) (g.lightColor config i) (s.lightColor config j) := by
  rw [Gte.lightColor, Gte.lightColor]
  refine .bind (h.multiplyMatrixByVector config .light hij .zero) fun g₁ s₁ h₁ => ?_
  refine (h₁.irToV3.multiplyMatrixByVector config .color h₁.irToV3_scratch .backgroundColor).mono
    fun g₂ s₂ h₂ => ⟨_, _, fun k hk => ?_, h₂⟩
  rw [g₁.irToV3_v hk, h₁.fst_v]

lemma doNcc (hij : d.v i = d.v' j) :
    Related (SimAfter d) (g.doNcc config i) (s.doNcc config j) := by
  rw [Gte.doNcc, Gte.doNcc]
  refine .bind (h.lightColor config hij) ?_
  rintro g₁ s₁ ⟨v, v', hv, h₁⟩
  exact (h₁.applyColor config).mono fun _ _ h₂ => ⟨v, v', hv, h₂⟩

lemma doNc (hij : d.v i = d.v' j) :
    Related (SimAfter d) (g.doNc config i) (s.doNc config j) := by
  rw [Gte.doNc, Gte.doNc]
  refine .bind (h.lightColor config hij) ?_
  rintro g₁ s₁ ⟨v, v', hv, h₁⟩
  exact .ok ⟨v, v', hv, h₁.macToRgbFifo⟩

lemma doNcd (hir0 : d.ir0 = d.ir0') (hij : d.v i = d.v' j) :
    Related (SimAfter d) (g.doNcd config i) (s.doNcd config j) := by
  rw [Gte.doNcd, Gte.doNcd]
  refine .bind (h.lightColor config hij) ?_
  rintro g₁ s₁ ⟨v, v', hv, h₁⟩
  exact (h₁.cmdDcpl config hir0).mono fun _ _ h₂ => ⟨v, v', hv, h₂⟩

/-! #### Perspective transformation -/

lemma rtpRow (hij : d.v i = d.v' j) (r : Fin 3) :
    Related (SimWith d) (Gte.rtpRow config i g r) (Gte.rtpRow config j s r) := by
  have hv : g.v i = s.v j := by
    rw [h.fst_v, h.v]
    exact hij
  rw [Gte.rtpRow, Gte.rtpRow, h.controlVectors, hv, h.matrices]
  refine .bind (h.accumulate _ _ _ _) ?_
  rintro ⟨res, g₁⟩ ⟨_, s₁⟩ ⟨rfl, h₁⟩
  exact .ok ⟨rfl, h₁.setMac r _⟩

lemma rtpToIr (z : ℤ) : Sim d (g.rtpToIr config z) (s.rtpToIr config z) := by
  have hflag {g s : Gte} (h : Sim d g s) :
      Sim d (if z > 0x7fff ∨ z < -0x8000 then g.setFlag 22 else g)
        (if z > 0x7fff ∨ z < -0x8000 then s.setFlag 22 else s) := by
    split_ifs
    · exact h.setFlag 22
    · exact h
  have hclamp {g s : Gte} (h : Sim d g s) (clamp : ℤ → I16) :
      Sim d (g.setIr 3 (clamp (g.mac 3).toInt)) (s.setIr 3 (clamp (s.mac 3).toInt)) := by
    have hmac3 : g.mac 3 = s.mac 3 := h.mac 2
    rw [hmac3]
    exact h.setIr 2 _
  obtain ⟨clamp, heq⟩ := rtpToIr_eq config z
  rw [heq g, heq s]
  exact hclamp (hflag ((h.saturateIr config 0).saturateIr config 1)) clamp

lemma pushZ (z : ℤ) : SimWith d (g.pushZ z) (s.pushZ z) := by
  have hqueue {g s : Gte} (h : Sim d g s) (z : U16) :
      Sim d ((((g.setZ 0 (g.zFifo 1)).setZ 1 (g.zFifo 2)).setZ 2 (g.zFifo 3)).setZ 3 z)
        ((((s.setZ 0 (s.zFifo 1)).setZ 1 (s.zFifo 2)).setZ 2 (s.zFifo 3)).setZ 3 z) := by
    rw [h.zFifo]
    exact (((h.setZ 0 _).setZ 1 _).setZ 2 _).setZ 3 z
  rw [Gte.pushZ, Gte.pushZ]
  split_ifs
  · exact ⟨rfl, hqueue (h.setFlag 18) _⟩
  · exact ⟨rfl, hqueue (h.setFlag 18) _⟩
  · exact ⟨rfl, hqueue h _⟩

lemma projectionFactor (z : U16) :
    Related (SimWith d) (g.projectionFactor z) (s.projectionFactor z) := by
  have hh : g.h = s.h := by rw [h.rest]
  rw [Gte.projectionFactor, Gte.projectionFactor, hh]
  split_ifs
  · refine .bind (.refl (fun _ => rfl) _) fun factor _ hfactor => ?_
    subst hfactor
    exact .ok ⟨rfl, h⟩
  · exact .ok ⟨rfl, h.setFlag 17⟩

lemma pushXy (factor : U32) : Related (Sim d) (g.pushXy factor) (s.pushXy factor) := by
  have hir1 : g.ir 1 = s.ir 1 := h.ir 0
  have hir2 : g.ir 2 = s.ir 2 := h.ir 1
  have hofx : g.ofx = s.ofx := by rw [h.rest]
  have hofy : g.ofy = s.ofy := by rw [h.rest]
  have hqueue {g s : Gte} (h : Sim d g s) {xy xy' : I16 × I16} (hxy : xy = xy') :
      Sim d ((((g.setXy 3 xy).setXy 0 (g.xyFifo 1)).setXy 1 (g.xyFifo 2)).setXy 2 xy)
        ((((s.setXy 3 xy').setXy 0 (s.xyFifo 1)).setXy 1 (s.xyFifo 2)).setXy 2 xy') := by
    subst hxy
    rw [h.xyFifo]
    exact (((h.setXy 3 _).setXy 0 _).setXy 1 _).setXy 2 _
  rw [Gte.pushXy, Gte.pushXy, hir1, hir2, hofx, hofy]
  refine .bind (.refl (fun _ => rfl) _) fun product _ hproduct => ?_
  subst hproduct
  refine .bind (.refl (fun _ => rfl) _) fun screenX _ hscreenX => ?_
  subst hscreenX
  refine .bind (.refl (fun _ => rfl) _) fun product' _ hproduct' => ?_
  subst hproduct'
  refine .bind (.refl (fun _ => rfl) _) fun screenY _ hscreenY => ?_
  subst hscreenY
  have h₁ := (h.checkMacOverflow screenX).checkMacOverflow screenY
  obtain ⟨hx, h₂⟩ := h₁.i32ToI11Saturate 0 (wrap32 (asr screenX 16))
  obtain ⟨hy, h₃⟩ := h₂.i32ToI11Saturate 1 (wrap32 (asr screenY 16))
  exact .ok (hqueue h₃ (Prod.ext hx hy))

lemma doRtp (hij : d.v i = d.v' j) :
    Related (SimWith d) (g.doRtp config i) (s.doRtp config j) := by
  rw [Gte.doRtp, Gte.doRtp]
  refine .bind (h.rtpRow config hij 0) ?_
  rintro ⟨res₀, g₀⟩ ⟨_, s₀⟩ ⟨rfl, h₀⟩
  refine .bind (h₀.rtpRow config hij 1) ?_
  rintro ⟨res₁, g₁⟩ ⟨_, s₁⟩ ⟨rfl, h₁⟩
  refine .bind (h₁.rtpRow config hij 2) ?_
  rintro ⟨res₂, g₂⟩ ⟨_, s₂⟩ ⟨rfl, h₂⟩
  obtain ⟨hz, h₃⟩ := (h₂.rtpToIr config (wrap32 (asr res₂ 12))).pushZ (wrap32 (asr res₂ 12))
  dsimp only
  rw [hz]
  refine .bind (h₃.projectionFactor _) ?_
  rintro ⟨factor, g₄⟩ ⟨_, s₄⟩ ⟨rfl, h₄⟩
  refine .bind (h₄.pushXy factor) fun g₅ s₅ h₅ => ?_
  exact .ok ⟨rfl, h₅⟩

lemma setMac0 (m : I32) :
    Sim { d with mac0 := m, mac0' := m } (g.setMac 0 m) (s.setMac 0 m) := by
  refine ⟨?_, h.v, ?_, h.ir0⟩
  · rw [h.rest]
    simp only [Gte.setMac, Function.update_idem]
  · exact Function.update_self 0 m s.mac

lemma setIr0 (x : I16) : Sim { d with ir0 := x, ir0' := x } (g.setIr 0 x) (s.setIr 0 x) := by
  refine ⟨?_, h.v, h.mac0, ?_⟩
  · rw [h.rest]
    simp only [Gte.setIr, Function.update_idem]
  · exact Function.update_self 0 x s.ir

/-- The depth queuing stores MAC0 and IR0. -/
lemma depthQueuing (factor : U32) :
    Related (fun g s => ∃ m x, Sim { d with mac0 := m, mac0' := m, ir0 := x, ir0' := x } g s)
      (g.depthQueuing factor) (s.depthQueuing factor) := by
  have hdqa : g.dqa = s.dqa := by rw [h.rest]
  have hdqb : g.dqb = s.dqb := by rw [h.rest]
  rw [Gte.depthQueuing, Gte.depthQueuing, hdqa, hdqb]
  refine .bind (.refl (fun _ => rfl) _) fun product _ hproduct => ?_
  subst hproduct
  refine .bind (.refl (fun _ => rfl) _) fun depth _ hdepth => ?_
  subst hdepth
  have h₁ := (h.checkMacOverflow depth).setMac0 (BitVec.ofInt 32 depth)
  dsimp only
  split_ifs
  · exact .ok ⟨_, _, (h₁.setFlag 12).setIr0 0⟩
  · exact .ok ⟨_, _, (h₁.setFlag 12).setIr0 4096⟩
  · exact .ok ⟨_, _, h₁.setIr0 _⟩

end Sim

end Gte

end Rustation
