import Rustation.Gte.Refinement

/-!
The perspective transformation, and the flags of all commands.

* `doRtp_spec`: the transformation of a vector returns a projection factor of 17
  bits.  The coordinates it queues and the factor are exact if the flags are
  clean afterwards;
* `runOpcode_refines`: every command refines its exact counterpart;
* `command_exact`: after a command with the 12 bit shift that leaves the flag
  bits 30 to 12 clear, all result registers hold the exact results;
* `command_no_overflow`: a command returns, whatever the registers hold.
-/

namespace Rustation

open Fallible Machine

/-- The matrix and the vector a command selects can be used in a product. -/
def CommandConfig.Selects (config : CommandConfig) : Prop :=
  config.matrix ≠ .invalid ∧ config.vectorAdd ≠ .farColor

instance (config : CommandConfig) : Decidable config.Selects := inferInstanceAs (Decidable (_ ∧ _))

namespace Gte

variable {config : CommandConfig}

/-! ### Camera coordinates -/

lemma rtpRow_spec (g : Gte) (config : CommandConfig) (vectorIndex : Fin 4) (r : Fin 3) :
    ∃ s g', rtpRow config vectorIndex g r = .ok (s, g') ∧ Fits44 s ∧
      (config.shift = 12 → g'.Clean → g.Clean ∧ g'.exact.mac r.succ = s / 2 ^ 12 ∧
        g'.exact = Exact.multiplyRow 0 vectorIndex .translation g.exact r) := by
  obtain ⟨s, g', hs, hfits, hframe, hclean⟩ := g.accumulate_spec (fun c => c.val)
    (fun c => Nat.le_of_lt_succ c.isLt)
    (fits44_control (g.controlVectors ControlVector.translation.index r))
    (g.v vectorIndex) (g.matrices 0 r)
  refine ⟨s, g'.setMac r.succ (BitVec.ofInt 32 (asr s config.shift)), ?_, hfits,
    fun hshift hc => ?_⟩
  · simp only [rtpRow, hs, ok_bind, pure_eq_ok]
  · obtain ⟨hg, hsum⟩ := hclean hc
    rw [exact_setMac, hframe.exact, hshift, toInt_ofInt_asr hfits]
    refine ⟨hg, Function.update_self .., ?_⟩
    rw [hsum, shl64_control]
    simp only [Exact.multiplyRow, Exact.row, exact_vector]
    rfl

/-- A coordinate in the range of a halfword goes through the clamp of IR3. -/
lemma toInt_clamp {min val : ℤ} (hmin : min ≤ 0) (hlo : 0 ≤ val) (hhi : val ≤ 0x7fff) :
    (BitVec.ofInt 16 (if val < min then min else if val > 0x7fff then 0x7fff else val)).toInt =
      val := by
  rw [if_neg (by omega), if_neg (by omega)]
  exact toInt_ofInt16 (by omega) hhi

lemma irMin_le (config : CommandConfig) : irMin config ≤ 0 := by
  rw [irMin]
  split_ifs <;> omega

/-- The flag of IR3 says that the coordinate is below the upper bound; that it
is not negative is known from the flag of the Z FIFO alone. -/
lemma rtpToIr_spec (g : Gte) (z : ℤ) (hclean : (g.rtpToIr config z).Clean) :
    g.Clean ∧ (0 ≤ z → z = (g.mac 3).toInt → (g.rtpToIr config z).exact = g.exact.macToIr) := by
  obtain ⟨ir1, g1, h1, hframe1, hc1⟩ :=
    g.i32ToI16Saturate_spec config 0 (by norm_num) (g.mac 1).toInt
  have hmac1 : (g1.setIr 1 ir1).mac = g.mac := hframe1.mac
  obtain ⟨ir2, g2, h2, hframe2, hc2⟩ :=
    (g1.setIr 1 ir1).i32ToI16Saturate_spec config 1 (by norm_num) (g.mac 2).toInt
  have hmac2 : (g2.setIr 2 ir2).mac = g.mac := hframe2.mac.trans hmac1
  have hrange : ¬(z > 0x7fff ∨ z < -0x8000) := by
    intro hz
    simp only [rtpToIr, h1, hmac1, h2, if_pos hz] at hclean
    exact not_clean_setFlag (g2.setIr 2 ir2) (by norm_num) (by norm_num) hclean
  simp only [rtpToIr, h1, hmac1, h2, if_neg hrange, hmac2] at hclean ⊢
  obtain ⟨hclean1, hs2⟩ := hc2 hclean
  obtain ⟨hg, hs1⟩ := hc1 hclean1
  refine ⟨hg, fun hz hmac => ?_⟩
  have hs3 := toInt_clamp (irMin_le config) hz (by omega)
  rw [hmac, irMin] at hs3
  rw [exact_setIr, hs3, exact_setIr, hframe2.exact, exact_setIr, hframe1.exact, hs1, hs2]
  rfl

/-! ### The FIFOs -/

/-- The four moves of the Z FIFO. -/
lemma exact_pushZ (g : Gte) (z : U16) :
    ((((g.setZ 0 (g.zFifo 1)).setZ 1 (g.zFifo 2)).setZ 2 (g.zFifo 3)).setZ 3 z).exact =
      g.exact.pushZ z.toNat := by
  simp only [exact, setZ, Exact.pushZ, Exact.mk.injEq, true_and, and_true]
  funext i
  fin_cases i <;> rfl

lemma pushZ_spec (g : Gte) (z : ℤ) : ∃ z' g', g.pushZ z = (z', g') ∧
    (g'.Clean → g.Clean ∧ 0 ≤ z ∧ (z'.toNat : ℤ) = z ∧ g'.exact = g.exact.pushZ z) := by
  rw [pushZ]
  split_ifs with hlo hhi
  · refine ⟨_, _, rfl, fun hclean => ?_⟩
    simp only [clean_setZ] at hclean
    exact absurd hclean (g.not_clean_setFlag (by norm_num) (by norm_num))
  · refine ⟨_, _, rfl, fun hclean => ?_⟩
    simp only [clean_setZ] at hclean
    exact absurd hclean (g.not_clean_setFlag (by norm_num) (by norm_num))
  · have hz : ((BitVec.ofInt 16 z).toNat : ℤ) = z := toNat_ofInt16 (by omega) (by omega)
    refine ⟨_, _, rfl, fun hclean => ?_⟩
    simp only [clean_setZ] at hclean
    refine ⟨hclean, by omega, hz, ?_⟩
    exact (g.exact_pushZ (BitVec.ofInt 16 z)).trans (by rw [hz])

lemma projectionFactor_spec (g : Gte) (z : U16) :
    ∃ f g', g.projectionFactor z = .ok (f, g') ∧ f.toNat ≤ 0x1ffff ∧ SameButFlags g g' ∧
      (g'.Clean → g.Clean ∧ (f.toNat : ℤ) = g.exact.factor z.toNat) := by
  rw [projectionFactor]
  split_ifs with hclip
  · have hz : z ≠ 0 := by
      rintro rfl
      exact absurd hclip (by simp)
    obtain ⟨q, hq, hle⟩ := divide_eq_ok g.h hz
    refine ⟨q, g, by rw [hq]; rfl, hle, rfl, fun h => ⟨h, ?_⟩⟩
    have hdiv : divide g.exact.inputs.h (BitVec.ofInt 16 z.toNat) = .ok q := by
      rw [BitVec.ofInt_natCast, BitVec.ofNat_toNat, BitVec.setWidth_eq]
      exact hq
    rw [Exact.factor, hdiv]
  · exact ⟨_, _, rfl, le_refl _, rfl,
      fun h => absurd h (g.not_clean_setFlag (by norm_num) (by norm_num))⟩

/-- The four moves of the XY FIFO. -/
lemma exact_pushXy (g : Gte) (x y : I16) :
    ((((g.setXy 3 (x, y)).setXy 0 (g.xyFifo 1)).setXy 1 (g.xyFifo 2)).setXy 2 (x, y)).exact =
      g.exact.pushXy (x.toInt, y.toInt) := by
  simp only [exact, setXy, Exact.pushXy, Exact.mk.injEq, true_and, and_true]
  funext i
  fin_cases i <;> rfl

/-- An intermediate value times the projection factor. -/
lemma mulFactor_bounds (w : I16) {f : U32} (hf : f.toNat ≤ 0x1ffff) :
    |w.toInt * f.toNat| ≤ 0x8000 * 0x1ffff := by
  have hw := toInt16_bounds w
  exact bounds_mul (abs_le.mpr (by omega)) (abs_le.mpr (by omega))

/-- A screen coordinate without its fractional bits. -/
lemma wrap32_asr {screen : ℤ} (h : -0x80000000 ≤ screen ∧ screen ≤ 0x7fffffff) :
    wrap32 (asr screen 16) = screen / 2 ^ 16 := by
  rw [asr]
  exact wrap32_eq (by omega) (by omega)

lemma pushXy_spec (g : Gte) {f : U32} (hf : f.toNat ≤ 0x1ffff) : ∃ g', g.pushXy f = .ok g' ∧
    (g'.Clean → g.Clean ∧ g'.exact = g.exact.pushXy
      (((g.ir 1).toInt * f.toNat + g.ofx.toInt) / 2 ^ 16,
        ((g.ir 2).toInt * f.toNat + g.ofy.toInt) / 2 ^ 16)) := by
  have hx := abs_le.mp (mulFactor_bounds (g.ir 1) hf)
  have hy := abs_le.mp (mulFactor_bounds (g.ir 2) hf)
  have hofx := toInt32_bounds g.ofx
  have hofy := toInt32_bounds g.ofy
  set screenX := (g.ir 1).toInt * f.toNat + g.ofx.toInt with hscreenX
  set screenY := (g.ir 2).toInt * f.toNat + g.ofy.toInt with hscreenY
  obtain ⟨hframe1, hc1⟩ := g.checkMacOverflow_spec screenX
  obtain ⟨hframe2, hc2⟩ := (g.checkMacOverflow screenX).checkMacOverflow_spec screenY
  obtain ⟨x, g3, h3, hframe3, hc3⟩ := ((g.checkMacOverflow screenX).checkMacOverflow
    screenY).i32ToI11Saturate_spec 0 (by norm_num) (wrap32 (asr screenX 16))
  obtain ⟨y, g4, h4, hframe4, hc4⟩ :=
    g3.i32ToI11Saturate_spec 1 (by norm_num) (wrap32 (asr screenY 16))
  have hrun : g.pushXy f = .ok ((((g4.setXy 3 (x, y)).setXy 0 (g4.xyFifo 1)).setXy 1
      (g4.xyFifo 2)).setXy 2 (x, y)) := by
    simp only [pushXy]
    rw [i64_eq_ok (by omega) (by omega), ok_bind, i64_eq_ok (by omega) (by omega), ok_bind,
      i64_eq_ok (by omega) (by omega), ok_bind, i64_eq_ok (by omega) (by omega), ok_bind]
    simp only [← hscreenX, ← hscreenY, h3, h4, pure_eq_ok]
    rfl
  refine ⟨_, hrun, fun hclean => ?_⟩
  simp only [clean_setXy] at hclean
  obtain ⟨hclean3, hs4⟩ := hc4 hclean
  obtain ⟨hclean2, hs3⟩ := hc3 hclean3
  obtain ⟨hclean1, hrangeY⟩ := hc2 hclean2
  obtain ⟨hg, hrangeX⟩ := hc1 hclean1
  refine ⟨hg, ?_⟩
  rw [exact_pushXy, hframe4.exact, hframe3.exact, hframe2.exact, hframe1.exact, hs3, hs4,
    wrap32_asr hrangeX, wrap32_asr hrangeY]

/-! ### The whole transformation -/

lemma doRtp_spec (g : Gte) (config : CommandConfig) (vectorIndex : Fin 4) :
    ∃ f g', g.doRtp config vectorIndex = .ok (f, g') ∧ f.toNat ≤ 0x1ffff ∧
      (config.shift = 12 → g'.Clean →
        g.Clean ∧ g.exact.rtp vectorIndex = ((f.toNat : ℤ), g'.exact)) := by
  obtain ⟨s0, g0, h0, -, hc0⟩ := g.rtpRow_spec config vectorIndex 0
  obtain ⟨s1, g1, h1, -, hc1⟩ := g0.rtpRow_spec config vectorIndex 1
  obtain ⟨s2, g2, h2, hfits, hc2⟩ := g1.rtpRow_spec config vectorIndex 2
  have hz : wrap32 (asr s2 12) = s2 / 2 ^ 12 := by
    obtain ⟨hlo, hhi⟩ := hfits
    rw [asr]
    exact wrap32_eq (by omega) (by omega)
  obtain ⟨z, g3, h3, hc3⟩ := (g2.rtpToIr config (s2 / 2 ^ 12)).pushZ_spec (s2 / 2 ^ 12)
  obtain ⟨f, g4, h4, hf, hframe4, hc4⟩ := g3.projectionFactor_spec z
  obtain ⟨g5, h5, hc5⟩ := g4.pushXy_spec hf
  refine ⟨f, g5, ?_, hf, fun hshift hclean => ?_⟩
  · simp only [doRtp, h0, h1, h2, ok_bind, hz, h3, h4, h5, pure_eq_ok]
  · obtain ⟨hclean4, heq5⟩ := hc5 hclean
    obtain ⟨hclean3, hfactor⟩ := hc4 hclean4
    obtain ⟨hclean2, hz0, hzval, heq3⟩ := hc3 hclean3
    obtain ⟨hclean2', hir⟩ := g2.rtpToIr_spec _ hclean2
    obtain ⟨hclean1, hmac, heq2⟩ := hc2 hshift hclean2'
    obtain ⟨hclean0, -, heq1⟩ := hc1 hshift hclean1
    obtain ⟨hg, -, heq0⟩ := hc0 hshift hclean0
    have hrows : g2.exact =
        g.exact.eachComponent (Exact.multiplyRow 0 vectorIndex .translation) := by
      rw [heq2, heq1, heq0]
      rfl
    have hmac3 : g2.exact.macToIr.mac 3 = s2 / 2 ^ 12 := hmac
    have hcamera : g2.exact.macToIr.pushZ (g2.exact.macToIr.mac 3) = g4.exact := by
      rw [hframe4.exact, heq3, hir hz0 hmac.symm, hmac3]
    have hz4 : g4.exact.mac 3 = s2 / 2 ^ 12 := by
      rw [← hcamera]
      exact hmac3
    have hfactor4 : g4.exact.factor (g4.exact.mac 3) = f.toNat := by
      rw [hz4, ← hzval, hfactor, hframe4.exact]
    refine ⟨hg, ?_⟩
    simp only [Exact.rtp, ← hrows, hcamera, hfactor4]
    rw [heq5]
    rfl

lemma depthQueuing_spec (g : Gte) {f : U32} (hf : f.toNat ≤ 0x1ffff) :
    ∃ g', g.depthQueuing f = .ok g' ∧
      (g'.Clean → g.Clean ∧ g'.exact = g.exact.depthQueuing f.toNat) := by
  have hmul := abs_le.mp (mulFactor_bounds g.dqa hf)
  have hdqb := toInt32_bounds g.dqb
  set depth := g.dqb.toInt + g.dqa.toInt * f.toNat with hdepth
  set stored := (g.checkMacOverflow depth).setMac 0 (BitVec.ofInt 32 depth) with hstored
  have hrun : g.depthQueuing f = .ok (if asr depth 12 < 0 then (stored.setFlag 12).setIr 0 0
      else if asr depth 12 > 4096 then (stored.setFlag 12).setIr 0 4096
      else stored.setIr 0 (BitVec.ofInt 16 (asr depth 12))) := by
    rw [depthQueuing, i64_eq_ok (by omega) (by omega), ok_bind, i64_eq_ok (by omega) (by omega),
      ok_bind, pure_eq_ok]
  rw [hrun]
  split_ifs with hlo hhi
  · exact ⟨_, rfl, fun h => absurd h (stored.not_clean_setFlag (by norm_num) (by norm_num))⟩
  · exact ⟨_, rfl, fun h => absurd h (stored.not_clean_setFlag (by norm_num) (by norm_num))⟩
  · refine ⟨_, rfl, fun h => ?_⟩
    obtain ⟨hg, heq⟩ := g.exact_storeMac0 depth h
    refine ⟨hg, ?_⟩
    rw [exact_setIr, hstored, heq, toInt_ofInt16 (by omega) (by omega)]
    rfl

lemma rtps_refines : Refines config (fun g => g.cmdRtps config) Exact.rtps := by
  intro g
  obtain ⟨f, g1, h1, hf, hc1⟩ := g.doRtp_spec config 0
  obtain ⟨g2, h2, hc2⟩ := g1.depthQueuing_spec hf
  refine ⟨g2, ?_, fun hshift hclean => ?_⟩
  · simp only [cmdRtps, h1, h2, ok_bind]
  · obtain ⟨hclean1, heq2⟩ := hc2 hclean
    obtain ⟨hg, heq1⟩ := hc1 hshift hclean1
    exact ⟨hg, by rw [heq2, Exact.rtps, heq1]⟩

lemma rtpt_refines : Refines config (fun g => g.cmdRtpt config) Exact.rtpt := by
  intro g
  obtain ⟨f0, g0, h0, -, hc0⟩ := g.doRtp_spec config 0
  obtain ⟨f1, g1, h1, -, hc1⟩ := g0.doRtp_spec config 1
  obtain ⟨f2, g2, h2, hf, hc2⟩ := g1.doRtp_spec config 2
  obtain ⟨g3, h3, hc3⟩ := g2.depthQueuing_spec hf
  refine ⟨g3, ?_, fun hshift hclean => ?_⟩
  · simp only [cmdRtpt, h0, h1, h2, h3, ok_bind]
  · obtain ⟨hclean2, heq3⟩ := hc3 hclean
    obtain ⟨hclean1, heq2⟩ := hc2 hshift hclean2
    obtain ⟨hclean0, heq1⟩ := hc1 hshift hclean1
    obtain ⟨hg, heq0⟩ := hc0 hshift hclean0
    exact ⟨hg, by rw [heq3, Exact.rtpt, heq0, heq1, heq2]⟩

/-! ### All commands -/

lemma mvmva_refines (hselects : config.Selects) :
    Refines config (fun g => g.cmdMvmva config) fun x => x.mvmva config := by
  obtain ⟨hmatrix, hvector⟩ := hselects
  obtain ⟨mat, hmat⟩ : ∃ mat, config.matrix.index = some mat := by
    cases hm : config.matrix with
    | rotation => exact ⟨0, rfl⟩
    | light => exact ⟨1, rfl⟩
    | color => exact ⟨2, rfl⟩
    | invalid => exact absurd hm hmatrix
  simp only [cmdMvmva, Exact.mvmva, hmat]
  exact irMultiply_refines hmat config.vectorMul hvector

theorem runOpcode_refines (hshift : config.shift ≤ 12) (opcode : Opcode)
    (hselects : opcode = .mvmva → config.Selects) :
    Refines config (fun g => g.runOpcode config opcode) fun x => x.run config opcode := by
  cases opcode with
  | rtps => exact rtps_refines
  | nclip => exact nclip_refines
  | op => exact op_refines
  | dpcs => exact dpcs_refines
  | intpl => exact intpl_refines
  | mvmva => exact mvmva_refines (hselects rfl)
  | ncds => exact ncd_refines 0
  | ncdt => exact triple_refines ncd_refines
  | nccs => exact ncc_refines 0
  | cc => exact cc_refines
  | ncs => exact nc_refines 0
  | nct => exact triple_refines nc_refines
  | sqr => exact sqr_refines
  | dcpl => exact dcpl_refines
  | dpct => exact dpct_refines
  | avsz3 => exact avsz3_refines
  | avsz4 => exact avsz4_refines
  | rtpt => exact rtpt_refines
  | gpf => exact gpf_refines
  | gpl => exact gpl_refines hshift
  | ncct => exact triple_refines ncc_refines

/-- The top bit is not one of the flags that record an inexact result. -/
lemma updateMsb_clean (g : Gte) : g.updateMsb.Clean ↔ g.Clean := by
  have hdrop (c : U32) (hc : c &&& 0x7ffff000 = 0#32) :
      (g.flags ||| c) &&& 0x7ffff000 = g.flags &&& 0x7ffff000 := by
    rw [BitVec.and_or_distrib_right, hc, BitVec.or_zero]
  simp only [Clean, updateMsb]
  split_ifs
  · rw [hdrop _ (by decide)]
  · rw [hdrop _ (by decide)]

/-- The shift of a command is 0 or 12. -/
lemma shift_le (w : U32) : (CommandConfig.fromCommand w).shift ≤ 12 := by
  simp only [CommandConfig.fromCommand]
  split_ifs <;> norm_num

/-- A command that has run on cleared flags updates the top bit. -/
lemma command_eq {w : U32} {opcode : Opcode}
    (hopcode : Opcode.decode (w &&& 0x3f).toNat = some opcode) (g : Gte) :
    g.command w = ({ g with flags := 0 }.runOpcode (CommandConfig.fromCommand w) opcode >>=
      fun g => pure g.updateMsb) := by
  simp only [command, hopcode]

/-- A command with the 12 bit shift returns, and unless it sets one of the flag
bits 30 to 12 every register it writes holds the result over the integers. -/
theorem command_exact (g : Gte) (w : U32) (opcode : Opcode)
    (hopcode : Opcode.decode (w &&& 0x3f).toNat = some opcode)
    (hshift : (CommandConfig.fromCommand w).shift = 12)
    (hselects : opcode = .mvmva → (CommandConfig.fromCommand w).Selects) :
    ∃ g', g.command w = .ok g' ∧ (g'.flags &&& 0x7ffff000 = 0 →
      g'.exact = g.exact.run (CommandConfig.fromCommand w) opcode) := by
  obtain ⟨g', hrun, hexact⟩ :=
    runOpcode_refines (shift_le w) opcode hselects { g with flags := 0 }
  refine ⟨g'.updateMsb, ?_, fun hclean => ?_⟩
  · exact (command_eq hopcode g).trans (congrArg (· >>= fun g => pure g.updateMsb) hrun)
  · exact (hexact hshift ((updateMsb_clean g').mp hclean)).2

/-- A vector in front of the projection plane, with the identity for rotation. -/
def vertexInView : Gte :=
  { new with
    h := 300
    ofx := 0xa00000
    matrices := fun mat r c => if mat = 0 ∧ r = c then 0x1000 else 0
    controlVectors := fun crv r => if crv = 0 ∧ r = 2 then 1000 else 0
    v := fun _ => ![-40, 25, 200]
    dqa := 3
    dqb := 0x1000 }

theorem command_exact_vertexInView : ∃ g', vertexInView.command 0x00080001 = .ok g' ∧
    g'.mac 3 = 1200 ∧
      g'.exact = vertexInView.exact.run (CommandConfig.fromCommand 0x00080001) .rtps := by
  obtain ⟨g', hrun, hexact⟩ :=
    command_exact vertexInView 0x00080001 .rtps (by decide) (by decide) nofun
  have hread : (vertexInView.command 0x00080001 >>= fun g => pure (g.flags, g.mac 3)) =
      .ok (0, 1200) := by decide +kernel
  rw [hrun, ok_bind, pure_eq_ok] at hread
  injection hread with hread
  injection hread with hflags hmac
  exact ⟨g', hrun, hmac, hexact (by rw [hflags]; decide)⟩

/-! ### Overflow -/

/-- The positions of the flags that the conversions compute from the number of an
accumulator or a component: by subtraction in a byte, and as the amount of a shift of a
word. -/
def flagPositions (number : Fin 3) : List ℤ :=
  [30 - number.val, 27 - number.val, 24 - number.val, 21 - number.val, 14 - number.val]

/-- **No command overflows.**  Every sum, difference and product of a command is checked
against the type it is computed in, and so are the shift of the divisor and the index of
the table; the other shifts are by the amounts listed here and by constants. -/
theorem command_no_overflow (g : Gte) (w : U32) (opcode : Opcode)
    (hopcode : Opcode.decode (w &&& 0x3f).toNat = some opcode)
    (hselects : opcode = .mvmva → (CommandConfig.fromCommand w).Selects) :
    (∃ g', g.command w = .ok g') ∧ (CommandConfig.fromCommand w).shift < 32 ∧
      (∀ number, ∀ position ∈ flagPositions number, 0 ≤ position ∧ position < 32) ∧
      ∀ z : U16, g.h / 2 < z → z ≠ 0 := by
  obtain ⟨g', hrun, -⟩ := runOpcode_refines (shift_le w) opcode hselects { g with flags := 0 }
  refine ⟨⟨g'.updateMsb, ?_⟩, (shift_le w).trans_lt (by norm_num), by decide, ?_⟩
  · exact (command_eq hopcode g).trans (congrArg (· >>= fun g => pure g.updateMsb) hrun)
  · rintro z hz rfl
    exact absurd hz (Nat.not_lt_zero _)

/-- A product with the colour matrix and the background, which the fields of the word select. -/
theorem command_no_overflow_mvmva : (CommandConfig.fromCommand 0x00042012).Selects ∧
    ∃ g', vertexInView.command 0x00042012 = .ok g' :=
  ⟨by decide, (command_no_overflow vertexInView 0x00042012 .mvmva (by decide)
    fun _ => by decide).1⟩

end Gte

end Rustation
