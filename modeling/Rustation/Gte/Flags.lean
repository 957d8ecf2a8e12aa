import Rustation.Gte.Exact

/-!
What a clean flags register says about the conversions.

* `Clean`: the flag bits 30 to 12 are all zero;
* `i64ToI44_spec` and its siblings, one for each conversion: it changes the
  flags alone, and if they are clean afterwards they were clean before and the
  value has not been changed.
-/

namespace Rustation

open Fallible Machine

namespace Gte

/-! ### Ranges of the registers -/

lemma toInt16_bounds (x : I16) : -0x8000 ≤ x.toInt ∧ x.toInt ≤ 0x7fff := by
  have h1 := x.le_toInt
  have h2 := x.toInt_lt
  norm_num at h1 h2
  omega

lemma toInt32_bounds (x : I32) : -0x80000000 ≤ x.toInt ∧ x.toInt ≤ 0x7fffffff := by
  have h1 := x.le_toInt
  have h2 := x.toInt_lt
  norm_num at h1 h2
  omega

lemma toInt_ofInt16 {x : ℤ} (hlo : -0x8000 ≤ x) (hhi : x ≤ 0x7fff) :
    (BitVec.ofInt 16 x).toInt = x := by
  rw [BitVec.toInt_ofInt]
  exact Int.bmod_eq_of_le_mul_two (by norm_num; omega) (by norm_num; omega)

lemma toInt_ofInt32 {x : ℤ} (hlo : -0x80000000 ≤ x) (hhi : x ≤ 0x7fffffff) :
    (BitVec.ofInt 32 x).toInt = x := by
  rw [BitVec.toInt_ofInt]
  exact wrap32_eq hlo hhi

lemma toNat_ofInt16 {x : ℤ} (hlo : 0 ≤ x) (hhi : x ≤ 0xffff) :
    ((BitVec.ofInt 16 x).toNat : ℤ) = x := by
  rw [BitVec.toNat_ofInt]
  omega

lemma toNat_ofInt8 {x : ℤ} (hlo : 0 ≤ x) (hhi : x ≤ 0xff) :
    ((BitVec.ofInt 8 x).toNat : ℤ) = x := by
  rw [BitVec.toNat_ofInt]
  omega

lemma component_bounds (c : Rgbx) (i : Fin 3) :
    0 ≤ Rgbx.component c i ∧ Rgbx.component c i ≤ 0xff := by
  have hr := c.r.isLt
  have hg := c.g.isLt
  have hb := c.b.isLt
  fin_cases i <;> simp only [Rgbx.component] <;> omega

/-- The product of two halfwords. -/
lemma mul16_bounds (a b : I16) :
    -0x3fff8000 ≤ a.toInt * b.toInt ∧ a.toInt * b.toInt ≤ 0x40000000 := by
  obtain ⟨ha1, ha2⟩ := toInt16_bounds a
  obtain ⟨hb1, hb2⟩ := toInt16_bounds b
  constructor
  · rcases le_total 0 a.toInt with h | h
    · nlinarith
    · nlinarith
  · rcases le_total 0 a.toInt with h | h
    · nlinarith
    · nlinarith

/-! ### Clean flags -/

/-- No flag in the bits 30 to 12 is set. -/
def Clean (g : Gte) : Prop := g.flags &&& 0x7ffff000 = 0

lemma mask_getLsbD {bit : ℕ} (h1 : 12 ≤ bit) (h2 : bit ≤ 30) :
    (0x7ffff000#32).getLsbD bit = true := by
  interval_cases bit <;> rfl

lemma not_clean_setFlag (g : Gte) {bit : ℕ} (h1 : 12 ≤ bit) (h2 : bit ≤ 30) :
    ¬(g.setFlag bit).Clean := by
  intro h
  have hzero : (g.flags ||| 1#32 <<< bit) &&& 0x7ffff000#32 = 0 := h
  have hbit : ((g.flags ||| 1#32 <<< bit) &&& 0x7ffff000#32).getLsbD bit = true := by
    rw [BitVec.getLsbD_and, BitVec.getLsbD_or, mask_getLsbD h1 h2]
    simp [show bit < 32 by omega]
  rw [hzero] at hbit
  simp at hbit

/-! ### Conversions

Each conversion returns its value and a register file that differs in the flags
alone; if these are clean the value has not been changed. -/

/-- The two register files differ in the flags alone. -/
def SameButFlags (g g' : Gte) : Prop := g' = { g with flags := g'.flags }

lemma sameButFlags_setFlag (g : Gte) (bit : ℕ) : SameButFlags g (g.setFlag bit) := rfl

namespace SameButFlags

variable {g g' : Gte} (h : SameButFlags g g')

include h

lemma exact : g'.exact = g.exact := by
  rw [h]
  rfl

lemma trans {g'' : Gte} (h' : SameButFlags g' g'') : SameButFlags g g'' := by
  rw [SameButFlags, h', h]

lemma mac : g'.mac = g.mac := by rw [h]

lemma ir : g'.ir = g.ir := by rw [h]

end SameButFlags

/-- A truncated sum has 44 bits. -/
def Fits44 (s : ℤ) : Prop := -0x80000000000 ≤ s ∧ s ≤ 0x7ffffffffff

lemma i64ToI44_spec (g : Gte) (flag : ℕ) (hflag : flag ≤ 2) (val : ℤ) :
    ∃ s g', g.i64ToI44 flag val = (s, g') ∧ Fits44 s ∧ SameButFlags g g' ∧
      (g'.Clean → g.Clean ∧ s = val) := by
  have h1 := Int.le_bmod (x := val * 2 ^ 20) (m := 2 ^ 64) (by norm_num)
  have h2 := Int.bmod_lt (x := val * 2 ^ 20) (m := 2 ^ 64) (by norm_num)
  norm_num at h1 h2
  have hfits : Fits44 (asr (shl64 val (64 - 44)) (64 - 44)) := by
    simp only [Fits44, asr, shl64, wrap64]
    norm_num
    omega
  refine ⟨_, _, rfl, hfits, ?_, fun hclean => ?_⟩
  · split_ifs <;> rfl
  · split_ifs at hclean with hhi hlo
    · exact absurd hclean (g.not_clean_setFlag (by omega) (by omega))
    · exact absurd hclean (g.not_clean_setFlag (by omega) (by omega))
    · refine ⟨hclean, ?_⟩
      rw [asr, shl64, wrap64_eq (by norm_num; omega) (by norm_num; omega)]
      norm_num

/-- The smallest value a command lets IR have. -/
def irMin (config : CommandConfig) : ℤ := if config.clampNegative then 0 else -0x8000

lemma irMin_ge (config : CommandConfig) : -0x8000 ≤ irMin config := by
  rw [irMin]
  split_ifs <;> omega

lemma i32ToI16Saturate_spec (g : Gte) (config : CommandConfig) (flag : ℕ) (hflag : flag ≤ 2)
    (val : ℤ) : ∃ s g', g.i32ToI16Saturate config flag val = (s, g') ∧ SameButFlags g g' ∧
      (g'.Clean → g.Clean ∧ s.toInt = val) := by
  have hmin := irMin_ge config
  rw [i32ToI16Saturate, ← irMin]
  split_ifs with hhi hlo
  · exact ⟨_, _, rfl, rfl, fun h => absurd h (g.not_clean_setFlag (by omega) (by omega))⟩
  · exact ⟨_, _, rfl, rfl, fun h => absurd h (g.not_clean_setFlag (by omega) (by omega))⟩
  · exact ⟨_, _, rfl, rfl, fun h => ⟨h, toInt_ofInt16 (by omega) (by omega)⟩⟩

lemma i32ToI11Saturate_spec (g : Gte) (flag : ℕ) (hflag : flag ≤ 1) (val : ℤ) :
    ∃ s g', g.i32ToI11Saturate flag val = (s, g') ∧ SameButFlags g g' ∧
      (g'.Clean → g.Clean ∧ s.toInt = val) := by
  rw [i32ToI11Saturate]
  split_ifs with hlo hhi
  · exact ⟨_, _, rfl, rfl, fun h => absurd h (g.not_clean_setFlag (by omega) (by omega))⟩
  · exact ⟨_, _, rfl, rfl, fun h => absurd h (g.not_clean_setFlag (by omega) (by omega))⟩
  · exact ⟨_, _, rfl, rfl, fun h => ⟨h, toInt_ofInt16 (by omega) (by omega)⟩⟩

lemma checkMacOverflow_spec (g : Gte) (val : ℤ) : SameButFlags g (g.checkMacOverflow val) ∧
    ((g.checkMacOverflow val).Clean → g.Clean ∧ -0x80000000 ≤ val ∧ val ≤ 0x7fffffff) := by
  rw [checkMacOverflow]
  split_ifs with hlo hhi
  · exact ⟨rfl, fun h => absurd h (g.not_clean_setFlag (by omega) (by omega))⟩
  · exact ⟨rfl, fun h => absurd h (g.not_clean_setFlag (by omega) (by omega))⟩
  · exact ⟨rfl, fun h => ⟨h, by omega, by omega⟩⟩

lemma i64ToOtz_spec (g : Gte) (average : ℤ) : ∃ otz g', g.i64ToOtz average = (otz, g') ∧
    SameButFlags g g' ∧ (g'.Clean → g.Clean ∧ (otz.toNat : ℤ) = average / 2 ^ 12) := by
  rw [i64ToOtz, asr]
  split_ifs with hlo hhi
  · exact ⟨_, _, rfl, rfl, fun h => absurd h (g.not_clean_setFlag (by omega) (by omega))⟩
  · exact ⟨_, _, rfl, rfl, fun h => absurd h (g.not_clean_setFlag (by omega) (by omega))⟩
  · exact ⟨_, _, rfl, rfl, fun h => ⟨h, toNat_ofInt16 (by omega) (by omega)⟩⟩

lemma macToColor_spec (g : Gte) (mac : ℤ) (which : ℕ) (hwhich : which ≤ 2) :
    ∃ c g', g.macToColor mac which = (c, g') ∧ SameButFlags g g' ∧
      (g'.Clean → g.Clean ∧ (c.toNat : ℤ) = mac / 2 ^ 4) := by
  rw [macToColor, asr]
  split_ifs with hlo hhi
  · exact ⟨_, _, rfl, rfl, fun h => absurd h (g.not_clean_setFlag (by omega) (by omega))⟩
  · exact ⟨_, _, rfl, rfl, fun h => absurd h (g.not_clean_setFlag (by omega) (by omega))⟩
  · exact ⟨_, _, rfl, rfl, fun h => ⟨h, toNat_ofInt8 (by omega) (by omega)⟩⟩

/-! ### Writing a register -/

@[simp] lemma exact_setMac (g : Gte) (i : Fin 4) (val : I32) :
    (g.setMac i val).exact = g.exact.setMac i val.toInt := by
  simp only [exact, setMac, Exact.setMac, Exact.mk.injEq, true_and, and_true]
  funext j
  by_cases h : j = i <;> simp [Function.update, h]

@[simp] lemma exact_setIr (g : Gte) (i : Fin 4) (val : I16) :
    (g.setIr i val).exact = g.exact.setIr i val.toInt := by
  simp only [exact, setIr, Exact.setIr, Exact.mk.injEq, true_and, and_true]
  funext j
  by_cases h : j = i <;> simp [Function.update, h]

@[simp] lemma clean_setMac (g : Gte) (i : Fin 4) (val : I32) : (g.setMac i val).Clean ↔ g.Clean :=
  Iff.rfl

@[simp] lemma clean_setIr (g : Gte) (i : Fin 4) (val : I16) : (g.setIr i val).Clean ↔ g.Clean :=
  Iff.rfl

@[simp] lemma clean_setZ (g : Gte) (i : Fin 4) (val : U16) : (g.setZ i val).Clean ↔ g.Clean :=
  Iff.rfl

@[simp] lemma clean_setXy (g : Gte) (i : Fin 4) (val : I16 × I16) :
    (g.setXy i val).Clean ↔ g.Clean :=
  Iff.rfl

end Gte

end Rustation
