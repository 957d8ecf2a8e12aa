import Rustation.Gte.Flags

/-!
The commands of the Geometry Transform Engine compute what the flags say they
compute.

* `Refines`: a part of a command returns for every register file, and where the
  flags are clean afterwards it has computed its exact counterpart.  Parts are
  put together by `Refines.bind` and `Refines.each`;
* `accumulate_spec`, `depthCue_spec`, `rtp_refines`: the parts the commands are
  made of;
* `runOpcode_refines`: every command, and with it `command_exact`: after a
  command with the 12 bit shift that leaves the flag bits 30 to 12 clear, all
  result registers hold the exact results.
-/

namespace Rustation

open Fallible Machine

namespace Gte

/-! ### Refinement -/

/-- `f` returns for every register file, and computes `F` if the flags are clean
afterwards. -/
def Refines (config : CommandConfig) (f : Gte → Outcome Gte) (F : Exact → Exact) : Prop :=
  ∀ g, ∃ g', f g = .ok g' ∧
    (config.shift = 12 → g'.Clean → g.Clean ∧ g'.exact = F g.exact)

variable {config : CommandConfig}

lemma Refines.bind {f h : Gte → Outcome Gte} {F H : Exact → Exact} (hf : Refines config f F)
    (hh : Refines config h H) : Refines config (fun g => f g >>= h) (fun x => H (F x)) := by
  intro g
  obtain ⟨g1, h1, hexact1⟩ := hf g
  obtain ⟨g2, h2, hexact2⟩ := hh g1
  refine ⟨g2, ?_, fun hshift hclean => ?_⟩
  · dsimp only
    rw [h1, ok_bind, h2]
  obtain ⟨hclean1, heq2⟩ := hexact2 hshift hclean
  obtain ⟨hclean0, heq1⟩ := hexact1 hshift hclean1
  exact ⟨hclean0, by rw [heq2, heq1]⟩

/-- A part that cannot stop. -/
lemma refines_pure {f : Gte → Gte} {F : Exact → Exact}
    (h : ∀ g, (f g).Clean → g.Clean ∧ (f g).exact = F g.exact) :
    Refines config (fun g => pure (f g)) F :=
  fun g => ⟨f g, rfl, fun _ => h g⟩

lemma Refines.each {body : Gte → Fin 3 → Outcome Gte} {B : Exact → Fin 3 → Exact}
    (h : ∀ i, Refines config (fun g => body g i) fun x => B x i) :
    Refines config (fun g => g.eachComponent body) fun x => x.eachComponent B :=
  (h 0).bind ((h 1).bind (h 2))

/-! ### Shifts of registers -/

lemma shl64_control (w : I32) : shl64 w.toInt 12 = w.toInt * 2 ^ 12 := by
  have := toInt32_bounds w
  exact wrap64_eq (by omega) (by omega)

lemma shl64_ir (w : I16) : shl64 w.toInt 12 = w.toInt * 2 ^ 12 := by
  have := toInt16_bounds w
  exact wrap64_eq (by omega) (by omega)

lemma shl64_color (c : Rgbx) (i : Fin 3) :
    shl64 (Rgbx.component c i) (4 + 12) = Rgbx.component c i * 2 ^ 16 := by
  have := component_bounds c i
  exact wrap64_eq (by norm_num; omega) (by norm_num; omega)

/-- A 44 bit sum without its fractional bits fits an accumulator. -/
lemma toInt_ofInt_asr {s : ℤ} (h : Fits44 s) :
    (BitVec.ofInt 32 (asr s 12)).toInt = s / 2 ^ 12 := by
  obtain ⟨hlo, hhi⟩ := h
  rw [asr]
  exact toInt_ofInt32 (by omega) (by omega)

/-! ### Matrix products -/

lemma addProduct_spec (g : Gte) {flag : ℕ} (hflag : flag ≤ 2) {res : ℤ} (hres : Fits44 res)
    (v m : I16) : ∃ s g', g.addProduct flag res v m = .ok (s, g') ∧ Fits44 s ∧
      SameButFlags g g' ∧ (g'.Clean → g.Clean ∧ s = res + v.toInt * m.toInt) := by
  obtain ⟨hlo, hhi⟩ := hres
  have hmul := mul16_bounds v m
  obtain ⟨s, g', hs, hfits, hframe, hclean⟩ := g.i64ToI44_spec flag hflag (res + v.toInt * m.toInt)
  refine ⟨s, g', ?_, hfits, hframe, hclean⟩
  rw [addProduct, i32_eq_ok (by omega) (by omega), ok_bind, i64_eq_ok (by omega) (by omega),
    ok_bind, hs, pure_eq_ok]

lemma accumulate_spec (g : Gte) (flag : Fin 3 → ℕ) (hflag : ∀ c, flag c ≤ 2) {res : ℤ}
    (hres : Fits44 res) (v m : Fin 3 → I16) :
    ∃ s g', g.accumulate flag res v m = .ok (s, g') ∧ Fits44 s ∧ SameButFlags g g' ∧
      (g'.Clean → g.Clean ∧ s = res + (v 0).toInt * (m 0).toInt
        + (v 1).toInt * (m 1).toInt + (v 2).toInt * (m 2).toInt) := by
  obtain ⟨s0, g0, h0, hfits0, hframe0, hc0⟩ := g.addProduct_spec (hflag 0) hres (v 0) (m 0)
  obtain ⟨s1, g1, h1, hfits1, hframe1, hc1⟩ := g0.addProduct_spec (hflag 1) hfits0 (v 1) (m 1)
  obtain ⟨s2, g2, h2, hfits2, hframe2, hc2⟩ := g1.addProduct_spec (hflag 2) hfits1 (v 2) (m 2)
  refine ⟨s2, g2, ?_, hfits2, (hframe0.trans hframe1).trans hframe2, fun hclean => ?_⟩
  · simp only [accumulate, h0, h1, h2, ok_bind]
  · obtain ⟨hclean1, hs2⟩ := hc2 hclean
    obtain ⟨hclean0, hs1⟩ := hc1 hclean1
    obtain ⟨hg, hs0⟩ := hc0 hclean0
    exact ⟨hg, by rw [hs2, hs1, hs0]⟩

lemma exact_vector (g : Gte) (i : Fin 4) (c : Fin 3) : g.exact.vector i c = (g.v i c).toInt := by
  fin_cases i <;> rfl

lemma fits44_control (w : I32) : Fits44 (shl64 w.toInt 12) := by
  have := toInt32_bounds w
  rw [shl64_control, Fits44]
  omega

lemma multiplyRow_refines (mat : Fin 3) (vectorIndex : Fin 4) (cv : ControlVector) (r : Fin 3) :
    Refines config (fun g => multiplyRow config mat vectorIndex cv.index g r)
      fun x => Exact.multiplyRow mat vectorIndex cv x r := by
  intro g
  obtain ⟨s, g', hs, hfits, hframe, hclean⟩ := g.accumulate_spec (fun _ => r.val)
    (fun _ => Nat.le_of_lt_succ r.isLt) (fits44_control (g.controlVectors cv.index r))
    (g.v vectorIndex) (g.matrices mat r)
  refine ⟨g'.setMac r.succ (BitVec.ofInt 32 (asr s config.shift)), ?_, fun hshift hc => ?_⟩
  · simp only [multiplyRow, hs, ok_bind, pure_eq_ok]
  · obtain ⟨hg, hsum⟩ := hclean hc
    refine ⟨hg, ?_⟩
    rw [exact_setMac, hframe.exact, hshift, toInt_ofInt_asr hfits, hsum, shl64_control]
    simp only [Exact.multiplyRow, Exact.row, exact_vector]
    rfl

/-! ### Conversions of whole vectors -/

lemma macToIr_refines : Refines config (fun g => pure (g.macToIr config)) Exact.macToIr := by
  intro g
  obtain ⟨ir1, g1, h1, hframe1, hc1⟩ :=
    g.i32ToI16Saturate_spec config 0 (by norm_num) (g.mac 1).toInt
  have hmac1 : (g1.setIr 1 ir1).mac = g.mac := hframe1.mac
  obtain ⟨ir2, g2, h2, hframe2, hc2⟩ :=
    (g1.setIr 1 ir1).i32ToI16Saturate_spec config 1 (by norm_num) (g.mac 2).toInt
  have hmac2 : (g2.setIr 2 ir2).mac = g.mac := hframe2.mac.trans hmac1
  obtain ⟨ir3, g3, h3, hframe3, hc3⟩ :=
    (g2.setIr 2 ir2).i32ToI16Saturate_spec config 2 (by norm_num) (g.mac 3).toInt
  refine ⟨g3.setIr 3 ir3, ?_, fun _ hclean => ?_⟩
  · simp only [macToIr, h1, hmac1, h2, hmac2, h3, pure_eq_ok]
  · obtain ⟨hclean2, hs3⟩ := hc3 hclean
    obtain ⟨hclean1, hs2⟩ := hc2 hclean2
    obtain ⟨hg, hs1⟩ := hc1 hclean1
    refine ⟨hg, ?_⟩
    rw [exact_setIr, hframe3.exact, exact_setIr, hframe2.exact, exact_setIr, hframe1.exact,
      hs1, hs2, hs3]
    rfl

/-- The three moves of the RGB FIFO. -/
lemma exact_pushColor (g : Gte) (c : Rgbx) (hx : c.x = g.rgb.x) :
    (((g.setRgbFifo 0 (g.rgbFifo 1)).setRgbFifo 1 (g.rgbFifo 2)).setRgbFifo 2 c).exact =
      g.exact.pushColor (Rgbx.component c) := by
  simp only [exact, setRgbFifo, Exact.pushColor, Exact.mk.injEq, true_and, ← hx]
  funext i
  fin_cases i <;> rfl

lemma macToRgbFifo_refines : Refines config (fun g => pure g.macToRgbFifo) Exact.macToRgbFifo := by
  intro g
  obtain ⟨r, g1, h1, hframe1, hc1⟩ := g.macToColor_spec (g.mac 1).toInt 0 (by norm_num)
  obtain ⟨green, g2, h2, hframe2, hc2⟩ := g1.macToColor_spec (g.mac 2).toInt 1 (by norm_num)
  obtain ⟨b, g3, h3, hframe3, hc3⟩ := g2.macToColor_spec (g.mac 3).toInt 2 (by norm_num)
  refine ⟨((g3.setRgbFifo 0 (g3.rgbFifo 1)).setRgbFifo 1 (g3.rgbFifo 2)).setRgbFifo 2
    ⟨r, green, b, g3.rgb.x⟩, ?_, fun _ hclean => ?_⟩
  · simp only [macToRgbFifo, h1, h2, h3, pure_eq_ok]
    rfl
  · obtain ⟨hclean2, hs3⟩ := hc3 hclean
    obtain ⟨hclean1, hs2⟩ := hc2 hclean2
    obtain ⟨hg, hs1⟩ := hc1 hclean1
    refine ⟨hg, ?_⟩
    rw [exact_pushColor g3 ⟨r, green, b, g3.rgb.x⟩ rfl, hframe3.exact, hframe2.exact, hframe1.exact,
      Exact.macToRgbFifo]
    congr 1
    funext i
    fin_cases i
    · exact hs1
    · exact hs2
    · exact hs3

lemma irToV3_refines : Refines config (fun g => pure g.irToV3) Exact.irToV3 := by
  refine refines_pure fun g hclean => ⟨hclean, ?_⟩
  simp only [exact, irToV3, setV, Exact.irToV3, Exact.mk.injEq, Inputs.mk.injEq, true_and, and_true]
  constructor
  · funext i
    fin_cases i <;> rfl
  · funext i
    fin_cases i <;> rfl

/-- The end of the commands that produce a colour. -/
lemma toColor_refines : Refines config (fun g => pure (g.macToIr config).macToRgbFifo)
    fun x => x.macToIr.macToRgbFifo := by
  have h : Refines config (fun g => pure (g.macToIr config) >>= fun g => pure g.macToRgbFifo)
      fun x => x.macToIr.macToRgbFifo := macToIr_refines.bind macToRgbFifo_refines
  simpa only [pure_eq_ok, ok_bind] using h

lemma multiply_refines {matrix : Matrix} {mat : Fin 3} (hindex : matrix.index = some mat)
    (vectorIndex : Fin 4) {cv : ControlVector} (hcv : cv ≠ .farColor) :
    Refines config (fun g => g.multiplyMatrixByVector config matrix vectorIndex cv)
      fun x => x.multiply mat vectorIndex cv := by
  intro g
  have hrows : Refines config
      (fun g => g.eachComponent (multiplyRow config mat vectorIndex cv.index))
      fun x => x.eachComponent (Exact.multiplyRow mat vectorIndex cv) :=
    .each fun r => multiplyRow_refines mat vectorIndex cv r
  obtain ⟨g', hg', hexact⟩ := (hrows.bind macToIr_refines) g
  refine ⟨g', ?_, hexact⟩
  simp only [multiplyMatrixByVector, hindex, if_neg hcv]
  exact hg'

/-! ### Interpolation towards the far colour -/

lemma depthCue_spec (g : Gte) (i : Fin 3) {base : ℤ} (hlo : -0x80000000000 ≤ base)
    (hhi : base ≤ 0x80000000000) : ∃ g', depthCue config g i base = .ok g' ∧
      (config.shift = 12 → g'.Clean → g.Clean ∧ g'.exact = g.exact.depthCue i base) := by
  have hi : i.val ≤ 2 := Nat.le_of_lt_succ i.isLt
  obtain ⟨fc, hfc⟩ : ∃ fc, (g.controlVectors ControlVector.farColor.index i).toInt = fc :=
    ⟨_, rfl⟩
  have hfcb := toInt32_bounds (g.controlVectors ControlVector.farColor.index i)
  rw [hfc] at hfcb
  -- the distance to the far colour, truncated and saturated
  obtain ⟨sub, g1, h1, hfits1, hframe1, hc1⟩ := g.i64ToI44_spec i.val hi (fc * 2 ^ 12 - base)
  obtain ⟨sat, g2, h2, hframe2, hc2⟩ := g1.i32ToI16Saturate_spec (CommandConfig.fromCommand 0)
    i.val hi (wrap32 (asr sub config.shift))
  have hir : g2.ir = g.ir := hframe2.ir.trans hframe1.ir
  have hmul := mul16_bounds (g.ir 0) sat
  -- the interpolated component
  obtain ⟨res, g3, h3, hfits3, hframe3, hc3⟩ :=
    g2.i64ToI44_spec i.val hi (base + (g.ir 0).toInt * sat.toInt)
  refine ⟨g3.setMac i.succ (BitVec.ofInt 32 (asr res config.shift)), ?_, fun hshift hclean => ?_⟩
  · rw [depthCue, shl64_control, hfc]
    dsimp only
    rw [i64_eq_ok (by omega) (by omega), ok_bind]
    simp only [h1, h2, hir]
    rw [i64_eq_ok (by omega) (by omega), ok_bind, i64_eq_ok (by omega) (by omega), ok_bind]
    simp only [h3, pure_eq_ok]
  · obtain ⟨hclean2, hs3⟩ := hc3 hclean
    obtain ⟨hclean1, hs2⟩ := hc2 hclean2
    obtain ⟨hg, hs1⟩ := hc1 hclean1
    refine ⟨hg, ?_⟩
    rw [hshift, wrap32_eq (by rw [asr]; have := hfits1.1; omega)
      (by rw [asr]; have := hfits1.2; omega), asr] at hs2
    rw [exact_setMac, hframe3.exact, hframe2.exact, hframe1.exact, hshift, toInt_ofInt_asr hfits3,
      hs3, hs2, hs1, ← hfc]
    rfl

/-! ### Colours -/

lemma shade_bounds (g : Gte) (i : Fin 3) :
    |Rgbx.component g.rgb i * 2 ^ 4 * (g.ir i.succ).toInt| ≤ 0xff0 * 0x8000 := by
  have hcol := component_bounds g.rgb i
  have hir := toInt16_bounds (g.ir i.succ)
  exact bounds_mul (abs_le.mpr (by omega)) (abs_le.mpr (by omega))

lemma shade_eq (g : Gte) (i : Fin 3) : g.shade i = .ok (g.exact.shade i) := by
  have h := abs_le.mp (g.shade_bounds i)
  rw [shade, i32_eq_ok (by omega) (by omega)]
  rfl

/-- The exact shading is small. -/
lemma exact_shade_bounds (g : Gte) (i : Fin 3) :
    -0x7f80000 ≤ g.exact.shade i ∧ g.exact.shade i ≤ 0x7f80000 := by
  have h := abs_le.mp (g.shade_bounds i)
  exact ⟨by exact_mod_cast h.1, by exact_mod_cast h.2⟩

/-- The interpolation of a constant colour. -/
lemma depthCueColor_refines (color : Fin 3 → ℤ)
    (hcolor : ∀ i, -0x7fffff ≤ color i ∧ color i ≤ 0x7fffff) :
    Refines config (fun g => do
      let g ← g.eachComponent fun g i => depthCue config g i (color i * 2 ^ 16)
      pure (g.macToIr config).macToRgbFifo) fun x => x.depthCueColor color := by
  have heach : Refines config
      (fun g => g.eachComponent fun g i => depthCue config g i (color i * 2 ^ 16))
      fun x => x.eachComponent fun x i => x.depthCue i (color i * 2 ^ 16) := by
    refine .each fun i g => ?_
    have := hcolor i
    exact g.depthCue_spec i (by omega) (by omega)
  exact heach.bind toColor_refines

/-- The colour of a register, interpolated. -/
lemma depthCueRgbx_spec (g : Gte) (c : Rgbx) : ∃ g',
    (do
      let g ← g.eachComponent fun g i => depthCue config g i (shl64 (Rgbx.component c i) (4 + 12))
      pure (g.macToIr config).macToRgbFifo) = .ok g' ∧
    (config.shift = 12 → g'.Clean →
      g.Clean ∧ g'.exact = g.exact.depthCueColor (Rgbx.component c)) := by
  have h : Refines config _ _ := depthCueColor_refines (Rgbx.component c) fun i => by
    have := component_bounds c i
    omega
  simpa only [shl64_color] using h g

lemma dpcs_refines : Refines config (fun g => g.cmdDpcs config) Exact.dpcs :=
  fun g => g.depthCueRgbx_spec g.rgb

lemma dpc_refines : Refines config (fun g => g.doDpc config) Exact.dpc :=
  fun g => g.depthCueRgbx_spec (g.rgbFifo 0)

lemma dpct_refines : Refines config (fun g => g.cmdDpct config) Exact.dpct := by
  have htwice : Refines config (fun g => g.doDpc config >>= fun g => g.doDpc config)
      fun x => x.dpc.dpc := dpc_refines.bind dpc_refines
  exact Refines.bind (F := Exact.dpc) (H := fun x => x.dpc.dpc) dpc_refines htwice

lemma dcpl_refines : Refines config (fun g => g.cmdDcpl config) Exact.dcpl := by
  have heach : Refines config
      (fun g => g.eachComponent fun g i => do
        let shading ← g.shade i
        depthCue config g i shading)
      fun x => x.eachComponent fun x i => x.depthCue i (x.shade i) := by
    refine .each fun i g => ?_
    have hb := g.exact_shade_bounds i
    simp only [shade_eq, ok_bind]
    exact g.depthCue_spec i (by omega) (by omega)
  exact heach.bind toColor_refines

lemma intpl_refines : Refines config (fun g => g.cmdIntpl config) Exact.intpl := by
  have heach : Refines config
      (fun g => g.eachComponent fun g i => depthCue config g i (shl64 (g.ir i.succ).toInt 12))
      fun x => x.eachComponent fun x i => x.depthCue i (x.ir i.succ * 2 ^ 12) := by
    refine .each fun i g => ?_
    have hb := toInt16_bounds (g.ir i.succ)
    simp only [shl64_ir]
    exact g.depthCue_spec i (by omega) (by omega)
  exact heach.bind toColor_refines

/-! ### Products -/

/-- A product that fits its type, stored in the accumulator of its component. -/
lemma storeProduct_refines {e : Gte → Fin 3 → Outcome ℤ} {E : Exact → Fin 3 → ℤ}
    (he : ∀ g i, e g i = .ok (E g.exact i))
    (hb : ∀ (g : Gte) i, -0x80000000 ≤ E g.exact i ∧ E g.exact i ≤ 0x7fffffff) :
    Refines config
      (fun g => g.eachComponent fun g i => do
        let p ← e g i
        pure (g.setMac i.succ (BitVec.ofInt 32 (asr p config.shift))))
      fun x => x.eachComponent fun x i => x.setMac i.succ (E x i / 2 ^ 12) := by
  refine .each fun i g => ?_
  have hbi := hb g i
  refine ⟨g.setMac i.succ (BitVec.ofInt 32 (asr (E g.exact i) config.shift)), ?_,
    fun hshift hclean => ⟨hclean, ?_⟩⟩
  · simp only [he, ok_bind, pure_eq_ok]
  · rw [exact_setMac, hshift, toInt_ofInt_asr ⟨by omega, by omega⟩]

lemma applyColor_refines : Refines config (fun g => g.applyColor config) Exact.applyColor := by
  have heach : Refines config _ _ := storeProduct_refines shade_eq fun g i => by
    have := g.exact_shade_bounds i
    omega
  exact heach.bind toColor_refines

/-- A product with the intermediate values. -/
lemma irMultiply_refines {matrix : Matrix} {mat : Fin 3} (hindex : matrix.index = some mat)
    (vectorIndex : Fin 4) {cv : ControlVector} (hcv : cv ≠ .farColor) :
    Refines config (fun g => g.irToV3.multiplyMatrixByVector config matrix vectorIndex cv)
      fun x => x.irToV3.multiply mat vectorIndex cv := by
  have h : Refines config
      (fun g => pure g.irToV3 >>= fun g => g.multiplyMatrixByVector config matrix vectorIndex cv)
      fun x => x.irToV3.multiply mat vectorIndex cv :=
    Refines.bind (F := Exact.irToV3) (H := fun x => x.multiply mat vectorIndex cv)
      irToV3_refines (multiply_refines hindex vectorIndex hcv)
  simpa only [pure_eq_ok, ok_bind] using h

lemma colorMatrix_refines :
    Refines config (fun g => g.irToV3.multiplyMatrixByVector config .color 3 .backgroundColor)
      fun x => x.irToV3.multiply 2 3 .backgroundColor :=
  irMultiply_refines rfl 3 (by decide)

lemma cc_refines : Refines config (fun g => g.cmdCc config) Exact.cc :=
  Refines.bind (F := fun x => x.irToV3.multiply 2 3 .backgroundColor) (H := Exact.applyColor)
    colorMatrix_refines applyColor_refines

lemma lightColor_refines (vectorIndex : Fin 4) :
    Refines config (fun g => g.lightColor config vectorIndex) fun x => x.lightColor vectorIndex :=
  Refines.bind (F := fun x => x.multiply 1 vectorIndex .zero)
    (H := fun x => x.irToV3.multiply 2 3 .backgroundColor)
    (multiply_refines rfl vectorIndex (by decide)) colorMatrix_refines

lemma ncc_refines (vectorIndex : Fin 4) :
    Refines config (fun g => g.doNcc config vectorIndex) fun x => x.ncc vectorIndex :=
  Refines.bind (H := Exact.applyColor) (lightColor_refines vectorIndex) applyColor_refines

lemma nc_refines (vectorIndex : Fin 4) :
    Refines config (fun g => g.doNc config vectorIndex) fun x => x.nc vectorIndex :=
  Refines.bind (H := Exact.macToRgbFifo) (lightColor_refines vectorIndex) macToRgbFifo_refines

lemma ncd_refines (vectorIndex : Fin 4) :
    Refines config (fun g => g.doNcd config vectorIndex) fun x => x.ncd vectorIndex :=
  Refines.bind (H := Exact.dcpl) (lightColor_refines vectorIndex) dcpl_refines

lemma triple_refines {body : Gte → CommandConfig → Fin 4 → Outcome Gte}
    {B : Exact → Fin 4 → Exact}
    (h : ∀ i, Refines config (fun g => body g config i) fun x => B x i) :
    Refines config (fun g => triple body g config) (Exact.triple B) := by
  have htwice : Refines config (fun g => body g config 1 >>= fun g => body g config 2)
      fun x => B (B x 1) 2 := Refines.bind (F := fun x => B x 1) (H := fun x => B x 2) (h 1) (h 2)
  exact Refines.bind (F := fun x => B x 0) (H := fun x => B (B x 1) 2) (h 0) htwice

/-- The product of two halfwords fits a word. -/
lemma i32_mul16 (a b : I16) : i32 (a.toInt * b.toInt) = .ok (a.toInt * b.toInt) := by
  have := mul16_bounds a b
  exact i32_eq_ok (by omega) (by omega)

lemma sqr_refines : Refines config (fun g => g.cmdSqr config) Exact.sqr := by
  have heach : Refines config _ fun x =>
      x.eachComponent fun x i => x.setMac i.succ (x.ir i.succ * x.ir i.succ / 2 ^ 12) :=
    storeProduct_refines (E := fun x i => x.ir i.succ * x.ir i.succ)
      (fun g i => i32_mul16 (g.ir i.succ) (g.ir i.succ)) fun g i => by
        have hmul : g.exact.ir i.succ * g.exact.ir i.succ =
            (g.ir i.succ).toInt * (g.ir i.succ).toInt := rfl
        have := mul16_bounds (g.ir i.succ) (g.ir i.succ)
        exact ⟨by omega, by omega⟩
  exact heach.bind macToIr_refines

lemma gpf_refines : Refines config (fun g => g.cmdGpf config) Exact.gpf := by
  intro g
  have heach : Refines config _ fun x =>
      x.eachComponent fun x i => x.setMac i.succ (x.ir i.succ * (g.ir 0).toInt / 2 ^ 12) :=
    storeProduct_refines (E := fun x i => x.ir i.succ * (g.ir 0).toInt)
      (fun h i => i32_mul16 (h.ir i.succ) (g.ir 0)) fun h i => by
        have hmul : h.exact.ir i.succ * (g.ir 0).toInt = (h.ir i.succ).toInt * (g.ir 0).toInt := rfl
        have := mul16_bounds (h.ir i.succ) (g.ir 0)
        exact ⟨by omega, by omega⟩
  exact (heach.bind toColor_refines) g

/-- A shift of an accumulator by the amount of a command does not overflow. -/
lemma shl64_mac (w : I32) {shift : ℕ} (hshift : shift ≤ 12) :
    shl64 w.toInt shift = w.toInt * 2 ^ shift ∧ |w.toInt * 2 ^ shift| ≤ 0x80000000 * 2 ^ 12 := by
  have hw := toInt32_bounds w
  have hpow : (2 : ℤ) ^ shift ≤ 2 ^ 12 := pow_le_pow_right₀ (by norm_num) hshift
  have habs : |w.toInt * 2 ^ shift| ≤ 0x80000000 * 2 ^ 12 :=
    bounds_mul (abs_le.mpr (by omega)) (by rwa [abs_of_nonneg (by positivity)])
  have hb := abs_le.mp habs
  exact ⟨wrap64_eq (by omega) (by omega), habs⟩

lemma gpl_refines (hshift : config.shift ≤ 12) :
    Refines config (fun g => g.cmdGpl config) Exact.gpl := by
  intro g
  have heach : Refines config
      (fun h => h.eachComponent fun h i => do
        let product ← i32 ((h.ir i.succ).toInt * (g.ir 0).toInt)
        let mac := shl64 (h.mac i.succ).toInt config.shift
        let sum ← i64 (mac + product)
        let r := h.i64ToI44 i.val sum
        pure (r.2.setMac i.succ (BitVec.ofInt 32 (asr r.1 config.shift))))
      fun x => x.eachComponent fun x i =>
        x.setMac i.succ ((x.mac i.succ * 2 ^ 12 + x.ir i.succ * (g.ir 0).toInt) / 2 ^ 12) := by
    refine .each fun i h => ?_
    have hmul := mul16_bounds (h.ir i.succ) (g.ir 0)
    obtain ⟨hshl, habs⟩ := shl64_mac (h.mac i.succ) hshift
    have hb := abs_le.mp habs
    obtain ⟨s, h1, hs, hfits, hframe, hc⟩ := h.i64ToI44_spec i.val (Nat.le_of_lt_succ i.isLt)
      ((h.mac i.succ).toInt * 2 ^ config.shift + (h.ir i.succ).toInt * (g.ir 0).toInt)
    refine ⟨h1.setMac i.succ (BitVec.ofInt 32 (asr s config.shift)), ?_, fun hshift12 hclean => ?_⟩
    · simp only [i32_mul16, ok_bind, hshl]
      rw [i64_eq_ok (by omega) (by omega), ok_bind, hs, pure_eq_ok]
    · obtain ⟨hh, hsum⟩ := hc hclean
      refine ⟨hh, ?_⟩
      rw [exact_setMac, hframe.exact, hshift12, toInt_ofInt_asr hfits, hsum, hshift12]
      rfl
  exact (heach.bind toColor_refines) g

/-! ### Outer product and clipping -/

lemma cross_eq (shift : ℕ) (a b c d : I16) :
    cross shift a b c d =
      .ok (BitVec.ofInt 32 (asr (a.toInt * b.toInt - c.toInt * d.toInt) shift)) := by
  have hab := mul16_bounds a b
  have hcd := mul16_bounds c d
  rw [cross, i32_mul16, ok_bind, i32_mul16, ok_bind, i32_eq_ok (by omega) (by omega), ok_bind,
    pure_eq_ok]

lemma toInt_cross (a b c d : I16) :
    (BitVec.ofInt 32 (asr (a.toInt * b.toInt - c.toInt * d.toInt) 12)).toInt =
      (a.toInt * b.toInt - c.toInt * d.toInt) / 2 ^ 12 := by
  have hab := mul16_bounds a b
  have hcd := mul16_bounds c d
  exact toInt_ofInt_asr ⟨by omega, by omega⟩

lemma op_refines : Refines config (fun g => g.cmdOp config) Exact.op := by
  intro g
  have hir : Refines config _ _ := macToIr_refines
  obtain ⟨g', hg', hexact⟩ := hir (((g.setMac 1 _).setMac 2 _).setMac 3 _)
  refine ⟨g', ?_, fun hshift hclean => ?_⟩
  · simp only [cmdOp, cross_eq, ok_bind]
    exact hg'
  · obtain ⟨hg, heq⟩ := hexact hshift hclean
    refine ⟨hg, ?_⟩
    rw [heq, exact_setMac, exact_setMac, exact_setMac, hshift, toInt_cross, toInt_cross,
      toInt_cross]
    rfl

/-- A coordinate times the difference of two others. -/
lemma mulSub_bounds (x y z : I16) : |x.toInt * (y.toInt - z.toInt)| ≤ 0x8000 * 0xffff := by
  have hx := toInt16_bounds x
  have hy := toInt16_bounds y
  have hz := toInt16_bounds z
  exact bounds_mul (abs_le.mpr (by omega)) (abs_le.mpr (by omega))

/-- The product is computed without overflow. -/
lemma mulSub_eq {β : Type} (x y z : I16) (k : ℤ → Outcome β) :
    (i32 (y.toInt - z.toInt) >>= fun d => i32 (x.toInt * d) >>= k) =
      k (x.toInt * (y.toInt - z.toInt)) := by
  have hy := toInt16_bounds y
  have hz := toInt16_bounds z
  have hb := abs_le.mp (mulSub_bounds x y z)
  rw [i32_eq_ok (by omega) (by omega), ok_bind, i32_eq_ok (by omega) (by omega), ok_bind]

/-- A value stored in MAC0 after the check for overflow. -/
lemma exact_storeMac0 (g : Gte) (val : ℤ) :
    ((g.checkMacOverflow val).setMac 0 (BitVec.ofInt 32 val)).Clean → g.Clean ∧
      ((g.checkMacOverflow val).setMac 0 (BitVec.ofInt 32 val)).exact = g.exact.setMac 0 val := by
  intro hclean
  obtain ⟨hframe, hc⟩ := g.checkMacOverflow_spec val
  obtain ⟨hg, hlo, hhi⟩ := hc hclean
  refine ⟨hg, ?_⟩
  rw [exact_setMac, hframe.exact, toInt_ofInt32 hlo hhi]

lemma nclip_refines : Refines config (fun g => g.cmdNclip) Exact.nclip := by
  intro g
  rcases hp0 : g.xyFifo 0 with ⟨x0, y0⟩
  rcases hp1 : g.xyFifo 1 with ⟨x1, y1⟩
  rcases hp2 : g.xyFifo 2 with ⟨x2, y2⟩
  have h0 := abs_le.mp (mulSub_bounds x0 y1 y2)
  have h1 := abs_le.mp (mulSub_bounds x1 y2 y0)
  have h2 := abs_le.mp (mulSub_bounds x2 y0 y1)
  have hrun : g.cmdNclip = .ok ((g.checkMacOverflow (x0.toInt * (y1.toInt - y2.toInt)
      + x1.toInt * (y2.toInt - y0.toInt) + x2.toInt * (y0.toInt - y1.toInt))).setMac 0
        (BitVec.ofInt 32 (x0.toInt * (y1.toInt - y2.toInt)
          + x1.toInt * (y2.toInt - y0.toInt) + x2.toInt * (y0.toInt - y1.toInt)))) := by
    simp only [cmdNclip, hp0, hp1, hp2, mulSub_eq]
    rw [i64_eq_ok (by omega) (by omega), ok_bind, i64_eq_ok (by omega) (by omega), ok_bind,
      pure_eq_ok]
  refine ⟨_, hrun, fun _ hclean => ?_⟩
  obtain ⟨hg, heq⟩ := g.exact_storeMac0 _ hclean
  refine ⟨hg, heq.trans ?_⟩
  simp only [Exact.nclip, exact, hp0, hp1, hp2]

/-! ### Averages -/

lemma storeAverage_spec (g : Gte) (average : ℤ) (hclean : (g.storeAverage average).Clean) :
    g.Clean ∧ (g.storeAverage average).exact = g.exact.storeAverage average := by
  obtain ⟨otz, g', hotz, hframe, hc⟩ :=
    ((g.checkMacOverflow average).setMac 0 (BitVec.ofInt 32 average)).i64ToOtz_spec average
  have hstore : g.storeAverage average = { g' with otz := otz } := by
    simp only [storeAverage, hotz]
  rw [hstore] at hclean ⊢
  obtain ⟨hclean', hval⟩ := hc hclean
  obtain ⟨hg, heq⟩ := g.exact_storeMac0 average hclean'
  refine ⟨hg, ?_⟩
  rw [Exact.storeAverage, ← heq, ← hframe.exact, ← hval]
  rfl

/-- A factor times a sum of Z values. -/
lemma average_eq (zsf : I16) {sum : ℤ} (h0 : 0 ≤ sum) (h1 : sum ≤ 0x3fffc) :
    i64 (zsf.toInt * sum) = .ok (zsf.toInt * sum) := by
  have hz := toInt16_bounds zsf
  have hb := abs_le.mp (bounds_mul (a := zsf.toInt) (b := sum) (A := 0x8000) (B := 0x3fffc)
    (abs_le.mpr (by omega)) (abs_le.mpr (by omega)))
  exact i64_eq_ok (by omega) (by omega)

lemma avsz3_refines : Refines config (fun g => g.cmdAvsz3) Exact.avsz3 := by
  intro g
  have h1 := (g.zFifo 1).isLt
  have h2 := (g.zFifo 2).isLt
  have h3 := (g.zFifo 3).isLt
  refine ⟨_, ?_, fun _ hclean => g.storeAverage_spec _ hclean⟩
  dsimp only
  rw [cmdAvsz3, u32_eq_ok (by omega) (by omega), ok_bind, u32_eq_ok (by omega) (by omega), ok_bind,
    average_eq _ (by omega) (by omega), ok_bind, pure_eq_ok]
  rfl

lemma avsz4_refines : Refines config (fun g => g.cmdAvsz4) Exact.avsz4 := by
  intro g
  have h0 := (g.zFifo 0).isLt
  have h1 := (g.zFifo 1).isLt
  have h2 := (g.zFifo 2).isLt
  have h3 := (g.zFifo 3).isLt
  refine ⟨_, ?_, fun _ hclean => g.storeAverage_spec _ hclean⟩
  dsimp only
  rw [cmdAvsz4, u32_eq_ok (by omega) (by omega), ok_bind, u32_eq_ok (by omega) (by omega), ok_bind,
    u32_eq_ok (by omega) (by omega), ok_bind, average_eq _ (by omega) (by omega), ok_bind,
    pure_eq_ok]
  rfl

end Gte

end Rustation
