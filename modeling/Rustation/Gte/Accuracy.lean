import Rustation.Gte.Divider

/-!
The accuracy of the division of the Geometry Transform Engine.

* `seed_close`: the entry of the table for a normalised divisor is close to its
  reciprocal;
* `refined_close`: so is the refined one, and much closer.  The error is squared, up to
  the two roundings;
* `divide_accurate`: the quotient is off by less than five units, and grows with the
  numerator.
-/

namespace Rustation

open Fallible Machine

/-! ### The table -/

/-- The product of the factor with the normalised divisors from `lo` to `hi` is close to
`2 ^ 24`. -/
def Seeds (f lo hi : ℕ) : Prop := 0xff0000 ≤ f * lo ∧ f * hi ≤ 0x1010000

instance (f lo hi : ℕ) : Decidable (Seeds f lo hi) := inferInstanceAs (Decidable (_ ∧ _))

/-- Every entry serves 128 divisors. -/
lemma seeds_table : ∀ x ∈ UNR_TABLE.zipIdx, Seeds (x.1.toNat + 0x101) (0x7fc0 + 0x80 * x.2)
    (min (0x803f + 0x80 * x.2) 0xffff) := by
  decide +kernel

/-- The entry for a normalised divisor is close to its reciprocal. -/
lemma seed_close {entry : U8} {d : ℕ} (hlo : 0x8000 ≤ d) (hhi : d ≤ 0xffff)
    (h : unrEntry ((d - 0x8000 + 0x40) / 2 ^ 7) = .ok entry) :
    |0x1000000 - ((entry.toNat : ℤ) + 0x101) * d| ≤ 0x10000 := by
  have hmem : (entry, (d - 0x8000 + 0x40) / 2 ^ 7) ∈ UNR_TABLE.zipIdx := by
    rw [unrEntry] at h
    split at h
    next e he =>
      obtain rfl := Except.ok.inj h
      exact List.mk_mem_zipIdx_iff_getElem?.mpr he
    next => cases h
  obtain ⟨hbelow, habove⟩ := seeds_table _ hmem
  have h1 : (entry.toNat + 0x101) * (0x7fc0 + 0x80 * ((d - 0x8000 + 0x40) / 2 ^ 7)) ≤
      (entry.toNat + 0x101) * d := Nat.mul_le_mul_left _ (by omega)
  have h2 : (entry.toNat + 0x101) * d ≤ (entry.toNat + 0x101) *
      min (0x803f + 0x80 * ((d - 0x8000 + 0x40) / 2 ^ 7)) 0xffff :=
    Nat.mul_le_mul_left _ (le_min (by omega) hhi)
  have hlower : 0xff0000 ≤ (entry.toNat + 0x101) * d := hbelow.trans h1
  have hupper : (entry.toNat + 0x101) * d ≤ 0x1010000 := h2.trans habove
  zify at hlower hupper
  exact abs_le.mpr ⟨by omega, by omega⟩

/-! ### The reciprocal -/

section

variable {f n : ℤ}

/-- The error of the refined factor, from that of the factor. -/
lemma refined_close (hf : 0 ≤ f) (hn : 0 ≤ n ∧ n ≤ 0xffff) (h : |0x1000000 - f * n| ≤ 0x10000) :
    |refined f n * n - 0x100000000| ≤ 131200 := by
  rw [refined, asr, asr, mul_neg, mul_comm n f]
  obtain ⟨t, ht⟩ : ∃ t, (-(f * n) + 0x80) / 2 ^ 8 = t := ⟨_, rfl⟩
  obtain ⟨r, hr⟩ : ∃ r, (f * (0x20000 + t) + 0x80) / 2 ^ 8 = r := ⟨_, rfl⟩
  rw [ht, hr]
  -- the remainders of the two divisions
  obtain ⟨a, ha, ha0, ha1⟩ : ∃ a, 0x100 * t = 0x80 - f * n - a ∧ 0 ≤ a ∧ a ≤ 0xff :=
    ⟨0x80 - f * n - 0x100 * t, by ring, by omega, by omega⟩
  obtain ⟨b, hb, hb0, hb1⟩ : ∃ b, 0x100 * r = f * (0x20000 + t) + 0x80 - b ∧ 0 ≤ b ∧ b ≤ 0xff :=
    ⟨f * (0x20000 + t) + 0x80 - 0x100 * r, by ring, by omega, by omega⟩
  obtain ⟨x, hx⟩ : ∃ x, f * n = x := ⟨_, rfl⟩
  rw [hx] at h ha
  have herror : 0x10000 * (r * n - 0x100000000) =
      -(0x1000000 - x) ^ 2 + x * (0x80 - a) + 0x100 * n * (0x80 - b) := by
    linear_combination (0x100 * n) * hb + f * n * ha + (0x2000000 + 0x80 - x - a) * hx
  have hsquare : (0x1000000 - x) ^ 2 ≤ 0x10000 ^ 2 := sq_le_sq' (abs_le.mp h).1 (abs_le.mp h).2
  have hpos : 0 ≤ (0x1000000 - x) ^ 2 := sq_nonneg _
  have hx0 : 0 ≤ x := hx ▸ mul_nonneg hf hn.1
  have hround : |x * (0x80 - a)| ≤ 0x1010000 * 0x80 :=
    bounds_mul (abs_le.mpr ⟨by omega, by have := abs_le.mp h; omega⟩)
      (abs_le.mpr ⟨by omega, by omega⟩)
  have hround' : |0x100 * n * (0x80 - b)| ≤ 0x100 * 0xffff * 0x80 :=
    bounds_mul (abs_le.mpr ⟨by omega, by omega⟩) (abs_le.mpr ⟨by omega, by omega⟩)
  have h1 := abs_le.mp hround
  have h2 := abs_le.mp hround'
  exact abs_le.mpr ⟨by omega, by omega⟩

end

/-- The top bit of a normalised divisor is set already. -/
lemma or_top {d : U16} (hd : 0x8000 ≤ d.toNat) : d ||| 0x8000 = d := by
  have hlt := d.isLt
  have hbit : d.getLsbD 15 = true := by
    rw [BitVec.getLsbD, Nat.testBit_eq_decide_div_mod_eq, decide_eq_true_eq]
    omega
  refine BitVec.eq_of_getLsbD_eq fun i hi => ?_
  rw [BitVec.getLsbD_or]
  by_cases htop : i = 15
  · rw [htop, hbit, Bool.true_or]
  · have hmask : (0x8000 : U16).getLsbD i = false := by
      interval_cases i <;> first | rfl | exact absurd rfl htop
    rw [hmask, Bool.or_false]

/-- The reciprocal of a normalised divisor. -/
lemma reciprocal_close {d : U16} (hd : 0x8000 ≤ d.toNat) : ∃ r, reciprocal d = .ok r ∧
    |(r.toNat : ℤ) * d.toNat - 0x100000000| ≤ 131200 := by
  have hlt := d.isLt
  obtain ⟨entry, hentry, hr⟩ := reciprocal_eq d
  have hmask : (d &&& 0x7fff).toNat = d.toNat - 0x8000 := by
    rw [BitVec.toNat_and_mask (k := 15) d rfl]
    omega
  rw [hmask] at hentry
  rw [or_top hd] at hr
  refine ⟨_, hr, ?_⟩
  have hclose := refined_close (by omega) ⟨by omega, by omega⟩
    (seed_close hd (by omega) hentry)
  generalize refined _ _ = x at hclose ⊢
  -- the refined factor is a word
  obtain ⟨hlo, hhi⟩ := abs_le.mp hclose
  have hpos : 0 ≤ x := by
    by_contra hneg
    have hprod : x * d.toNat ≤ 0 := mul_nonpos_of_nonpos_of_nonneg (by omega) (by omega)
    omega
  have hbound : x * 2 ≤ x * d.toNat := mul_le_mul_of_nonneg_left (by omega) hpos
  have htoNat : ((BitVec.ofInt 32 x).toNat : ℤ) = x := by
    rw [BitVec.toNat_ofInt]
    omega
  rwa [htoNat]

/-! ### The quotient -/

/-- The divisor is normalised by the shift. -/
lemma toNat_normalised {z : U16} (hz : z ≠ 0) :
    (z <<< z.clz.toNat).toNat = z.toNat * 2 ^ z.clz.toNat ∧
      0x8000 ≤ z.toNat * 2 ^ z.clz.toNat := by
  have hclz : z.clz.toNat < 16 := BitVec.clz_lt_iff_ne_zero.mpr hz
  have hpow : 2 ^ (16 - z.clz.toNat) * 2 ^ z.clz.toNat = 0x10000 := by
    rw [← Nat.pow_add, Nat.sub_add_cancel (by omega)]
  have hpow' : 2 ^ (16 - 1 - z.clz.toNat) * 2 ^ z.clz.toNat = 0x8000 := by
    rw [← Nat.pow_add, Nat.sub_add_cancel (by omega)]
  have hlt : z.toNat < 2 ^ (16 - z.clz.toNat) := BitVec.toNat_lt_two_pow_sub_clz
  have hle : 2 ^ (16 - 1 - z.clz.toNat) ≤ z.toNat :=
    BitVec.two_pow_sub_clz_le_toNat_of_ne_zero (by omega) hz
  have hbelow := Nat.mul_lt_mul_of_pos_right hlt (Nat.two_pow_pos z.clz.toNat)
  have habove := Nat.mul_le_mul_right (2 ^ z.clz.toNat) hle
  refine ⟨?_, by omega⟩
  rw [BitVec.toNat_shiftLeft, Nat.shiftLeft_eq]
  exact Nat.mod_eq_of_lt (by omega)

/-- The quotient before it is saturated: rounding costs half a unit and the reciprocal less than
four. -/
lemma quotient_close {h z : U16} {r : U32} (hz : z ≠ 0) (hguard : h.toNat < 2 * z.toNat)
    (hr : |(r.toNat : ℤ) * (z <<< z.clz.toNat).toNat - 0x100000000| ≤ 131200) :
    |(quotient h z r : ℤ) * z.toNat - h.toNat * 65536| < 5 * z.toNat := by
  rw [(toNat_normalised hz).1] at hr
  have hscale : 0 < 2 ^ z.clz.toNat := Nat.two_pow_pos _
  have hround : |65536 * (quotient h z r : ℤ) - (h.toNat * 2 ^ z.clz.toNat * r.toNat : ℕ)| ≤
      0x8000 := by
    rw [abs_le]
    unfold quotient
    omega
  generalize quotient h z r = q at hround ⊢
  generalize 2 ^ z.clz.toNat = scale at hr hround hscale
  have hn : (h.toNat : ℤ) * scale < 2 * (z.toNat * scale) := by
    rw [← mul_assoc]
    exact mul_lt_mul_of_pos_right (by omega) (by omega)
  push_cast at hr hround
  refine lt_of_mul_lt_mul_right (a := (scale : ℤ) * 65536) ?_ (by omega)
  calc |(q : ℤ) * z.toNat - h.toNat * 65536| * (scale * 65536)
      = |((q : ℤ) * z.toNat - h.toNat * 65536) * (scale * 65536)| := by
        rw [abs_mul, abs_of_nonneg (by omega : (0 : ℤ) ≤ scale * 65536)]
    _ = |(65536 * (q : ℤ) - h.toNat * scale * r.toNat) * (z.toNat * scale) +
          h.toNat * scale * (r.toNat * (z.toNat * scale) - 0x100000000)| := by
        congr 1
        ring
    _ ≤ |65536 * (q : ℤ) - h.toNat * scale * r.toNat| * (z.toNat * scale) +
          h.toNat * scale * |r.toNat * ((z.toNat : ℤ) * scale) - 0x100000000| := by
        refine (abs_add_le _ _).trans (le_of_eq ?_)
        have hd : (0 : ℤ) ≤ z.toNat * scale := by positivity
        have hn : (0 : ℤ) ≤ h.toNat * scale := by positivity
        rw [abs_mul _ ((z.toNat : ℤ) * scale), abs_of_nonneg hd, abs_mul ((h.toNat : ℤ) * scale),
          abs_of_nonneg hn]
    _ ≤ 0x8000 * (z.toNat * scale) + h.toNat * scale * 131200 := by gcongr
    _ < 5 * z.toNat * (scale * 65536) := by nlinarith

/-- The division of two numerators by one divisor uses one reciprocal. -/
lemma divide_mono {z : U16} (hz : z ≠ 0) {h h' : U16} (hle : h ≤ h') :
    ∃ q q', divide h z = .ok q ∧ divide h' z = .ok q' ∧ q ≤ q' := by
  obtain ⟨r, hr, q, hq, hval⟩ := divide_eq h hz
  obtain ⟨r', hr', q', hq', hval'⟩ := divide_eq h' hz
  obtain rfl : r = r' := Except.ok.inj (hr.symm.trans hr')
  refine ⟨q, q', hq, hq', ?_⟩
  have hquot : quotient h z r ≤ quotient h' z r := by
    have hnat : h.toNat ≤ h'.toNat := hle
    unfold quotient
    gcongr
  rw [BitVec.le_def, hval, hval']
  exact min_le_min_right _ hquot

/-- A numerator below twice the divisor keeps its accuracy through the saturation. -/
lemma divide_close {h z : U16} (hguard : h / 2 < z) : ∃ q, divide h z = .ok q ∧
    q.toNat ≤ 0x1ffff ∧ |(q.toNat : ℤ) * z.toNat - h.toNat * 65536| < 5 * z.toNat := by
  have hlt : h.toNat / 2 < z.toNat := by simpa [BitVec.lt_def] using hguard
  have hz : z ≠ 0 := by
    rintro rfl
    exact absurd hlt (Nat.not_lt_zero _)
  obtain ⟨r, hr, q, hq, hval⟩ := divide_eq h hz
  refine ⟨q, hq, hval ▸ min_le_right _ _, ?_⟩
  obtain ⟨r', hr', hclose⟩ := reciprocal_close
    ((toNat_normalised hz).2.trans_eq (toNat_normalised hz).1.symm)
  obtain rfl : r = r' := Except.ok.inj (hr.symm.trans hr')
  have hquot := quotient_close (h := h) hz (by omega) hclose
  rcases min_choice (quotient h z r) 0x1ffff with hmin | hmin
  · rwa [hval, hmin]
  · -- saturation brings a quotient that is too large nearer to the exact one, which is below two
    have hle : (0x1ffff : ℤ) * z.toNat ≤ quotient h z r * z.toNat :=
      mul_le_mul_of_nonneg_right (Int.ofNat_le.mpr (min_eq_right_iff.mp hmin)) (by omega)
    rw [abs_lt] at hquot ⊢
    rw [hval, hmin]
    omega

/-- **The division is accurate to five units of the 16.16 quotient, and it grows with its
numerator.** -/
theorem divide_accurate (z : U16) :
    (∀ h : U16, h / 2 < z → ∃ q, divide h z = .ok q ∧ q.toNat ≤ 0x1ffff ∧
      |(q.toNat : ℤ) * z.toNat - h.toNat * 65536| < 5 * z.toNat) ∧
    (z ≠ 0 → ∀ h h' : U16, h ≤ h' →
      ∃ q q', divide h z = .ok q ∧ divide h' z = .ok q' ∧ q ≤ q') :=
  ⟨fun _ hguard => divide_close hguard, fun hz _ _ hle => divide_mono hz hle⟩

/-- The largest numerator the guard lets through, over the irregular end of the table. -/
theorem divide_accurate_sample : (0xffff / 2 : U16) < 0x8000 ∧ (0x8000 : U16) ≠ 0 ∧
    (∃ q, divide 0xffff 0x8000 = .ok q ∧ q.toNat ≤ 0x1ffff ∧
      |(q.toNat : ℤ) * (0x8000 : U16).toNat - (0xffff : U16).toNat * 65536| <
        5 * (0x8000 : U16).toNat) ∧
    ∃ q q', divide 1 0x8000 = .ok q ∧ divide 0xffff 0x8000 = .ok q' ∧ q ≤ q' :=
  ⟨by decide, by decide, (divide_accurate 0x8000).1 0xffff (by decide),
    (divide_accurate 0x8000).2 (by decide) 1 0xffff (by decide)⟩

end Rustation
