import Rustation.Lib.Machine
import Rustation.Lib.Word

/-!
The division of the Geometry Transform Engine (`cpu/gte/divider.rs`): an
unsigned Newton-Raphson reciprocal from a table of 257 seeds.

* `reciprocal_eq`: the reciprocal is an entry of the table after one step of the
  method;
* `divide_eq`: for a divisor other than zero the division returns, and its result
  is a saturated 17 bit value.
-/

namespace Rustation

open Fallible Machine

/-- Unsigned Newton-Raphson look up table. -/
def UNR_TABLE : List U8 :=
  [0xff, 0xfd, 0xfb, 0xf9, 0xf7, 0xf5, 0xf3, 0xf1, 0xef, 0xee, 0xec, 0xea, 0xe8, 0xe6,
    0xe4, 0xe3, 0xe1, 0xdf, 0xdd, 0xdc, 0xda, 0xd8, 0xd6, 0xd5, 0xd3, 0xd1, 0xd0, 0xce,
    0xcd, 0xcb, 0xc9, 0xc8, 0xc6, 0xc5, 0xc3, 0xc1, 0xc0, 0xbe, 0xbd, 0xbb, 0xba, 0xb8,
    0xb7, 0xb5, 0xb4, 0xb2, 0xb1, 0xb0, 0xae, 0xad, 0xab, 0xaa, 0xa9, 0xa7, 0xa6, 0xa4,
    0xa3, 0xa2, 0xa0, 0x9f, 0x9e, 0x9c, 0x9b, 0x9a, 0x99, 0x97, 0x96, 0x95, 0x94, 0x92,
    0x91, 0x90, 0x8f, 0x8d, 0x8c, 0x8b, 0x8a, 0x89, 0x87, 0x86, 0x85, 0x84, 0x83, 0x82,
    0x81, 0x7f, 0x7e, 0x7d, 0x7c, 0x7b, 0x7a, 0x79, 0x78, 0x77, 0x75, 0x74, 0x73, 0x72,
    0x71, 0x70, 0x6f, 0x6e, 0x6d, 0x6c, 0x6b, 0x6a, 0x69, 0x68, 0x67, 0x66, 0x65, 0x64,
    0x63, 0x62, 0x61, 0x60, 0x5f, 0x5e, 0x5d, 0x5d, 0x5c, 0x5b, 0x5a, 0x59, 0x58, 0x57,
    0x56, 0x55, 0x54, 0x53, 0x53, 0x52, 0x51, 0x50, 0x4f, 0x4e, 0x4d, 0x4d, 0x4c, 0x4b,
    0x4a, 0x49, 0x48, 0x48, 0x47, 0x46, 0x45, 0x44, 0x43, 0x43, 0x42, 0x41, 0x40, 0x3f,
    0x3f, 0x3e, 0x3d, 0x3c, 0x3c, 0x3b, 0x3a, 0x39, 0x39, 0x38, 0x37, 0x36, 0x36, 0x35,
    0x34, 0x33, 0x33, 0x32, 0x31, 0x31, 0x30, 0x2f, 0x2e, 0x2e, 0x2d, 0x2c, 0x2c, 0x2b,
    0x2a, 0x2a, 0x29, 0x28, 0x28, 0x27, 0x26, 0x26, 0x25, 0x24, 0x24, 0x23, 0x22, 0x22,
    0x21, 0x20, 0x20, 0x1f, 0x1e, 0x1e, 0x1d, 0x1d, 0x1c, 0x1b, 0x1b, 0x1a, 0x19, 0x19,
    0x18, 0x18, 0x17, 0x16, 0x16, 0x15, 0x15, 0x14, 0x14, 0x13, 0x12, 0x12, 0x11, 0x11,
    0x10, 0x0f, 0x0f, 0x0e, 0x0e, 0x0d, 0x0d, 0x0c, 0x0c, 0x0b, 0x0a, 0x0a, 0x09, 0x09,
    0x08, 0x08, 0x07, 0x07, 0x06, 0x06, 0x05, 0x05, 0x04, 0x04, 0x03, 0x03, 0x02, 0x02,
    0x01, 0x01, 0x00, 0x00, 0x00]

/-- The entry of the table, if there is one. -/
def unrEntry (index : ℕ) : Outcome U8 :=
  match UNR_TABLE[index]? with
  | some entry => pure entry
  | none => throw .outOfBounds

def reciprocal (d : U16) : Outcome U32 := do
  let index ← u16 ((d &&& 0x7fff).toNat + 0x40)
  let entry ← unrEntry (index.toNat / 2 ^ 7)
  let factor ← i32 (entry.toNat + 0x101)
  let d : ℤ := (d ||| 0x8000).toNat
  let prod ← i32 (d * -factor)
  let sum ← i32 (prod + 0x80)
  let tmp := asr sum 8
  let sum ← i32 (0x20000 + tmp)
  let prod ← i32 (factor * sum)
  let sum ← i32 (prod + 0x80)
  pure (BitVec.ofInt 32 (asr sum 8))

/-- Saturated 1.16 quotient. -/
def divide (numerator divisor : U16) : Outcome U32 := do
  -- a divisor of zero has 16 leading zeros, one too many for the second shift
  let shift := divisor.clz.toNat
  let n := numerator.toNat * 2 ^ shift
  let shift ← shiftAmount 16 shift
  let d := divisor <<< shift
  let r ← reciprocal d
  let prod ← u64 (n * r.toNat)
  let sum ← u64 (prod + 0x8000)
  let res := asr sum 16
  pure (if res ≤ 0x1ffff then BitVec.ofInt 32 res else 0x1ffff)

/-! ### The division returns -/

lemma length_UNR_TABLE : UNR_TABLE.length = 0x101 := by decide +kernel

/-- The table covers every index the reciprocal looks up. -/
lemma unrEntry_eq_ok {index : ℕ} (h : index < 0x101) : ∃ entry, unrEntry index = .ok entry := by
  rw [unrEntry, List.getElem?_eq_getElem (length_UNR_TABLE ▸ h)]
  exact ⟨_, rfl⟩

/-- The refinement of a factor `f` by one step of the method of Newton and Raphson, `n`
being the normalised divisor. -/
def refined (f n : ℤ) : ℤ := asr (f * (0x20000 + asr (n * -f + 0x80) 8) + 0x80) 8

/-- The reciprocal is a refined entry of the table. -/
lemma reciprocal_eq (d : U16) :
    ∃ entry, unrEntry (((d &&& 0x7fff).toNat + 0x40) / 2 ^ 7) = .ok entry ∧
    reciprocal d = .ok (BitVec.ofInt 32 (refined (entry.toNat + 0x101) (d ||| 0x8000).toNat)) := by
  have hmask : (d &&& 0x7fff).toNat ≤ 0x7fff := by
    rw [BitVec.toNat_and]
    exact Nat.and_le_right
  have hindex : ((d &&& 0x7fff).toNat + 0x40) / 2 ^ 7 < 0x101 := by omega
  have hcast : (((d &&& 0x7fff).toNat : ℤ) + 0x40).toNat = (d &&& 0x7fff).toNat + 0x40 := by omega
  obtain ⟨entry, hentry⟩ := unrEntry_eq_ok hindex
  refine ⟨entry, hentry, ?_⟩
  -- the factor has ten bits and the normalised divisor sixteen
  obtain ⟨factor, hfactor⟩ : ∃ factor : ℤ, (entry.toNat : ℤ) + 0x101 = factor := ⟨_, rfl⟩
  obtain ⟨n, hn⟩ : ∃ n : ℤ, ((d ||| 0x8000).toNat : ℤ) = n := ⟨_, rfl⟩
  have hf : 0x101 ≤ factor ∧ factor ≤ 0x200 := by
    have := entry.isLt
    omega
  have hd : 0 ≤ n ∧ n ≤ 0xffff := by
    have := (d ||| 0x8000).isLt
    omega
  have hprod : 0 ≤ n * factor ∧ n * factor ≤ 0xffff * 0x200 :=
    ⟨mul_nonneg hd.1 (by omega), mul_le_mul hd.2 hf.2 (by omega) (by norm_num)⟩
  obtain ⟨tmp, htmp⟩ : ∃ tmp, asr (n * -factor + 0x80) 8 = tmp := ⟨_, rfl⟩
  have hsum : 0 ≤ 0x20000 + tmp ∧ 0x20000 + tmp ≤ 0x20000 := by
    rw [asr, mul_neg] at htmp
    omega
  have hlast : 0 ≤ factor * (0x20000 + tmp) ∧ factor * (0x20000 + tmp) ≤ 0x200 * 0x20000 :=
    ⟨mul_nonneg (by omega) hsum.1, mul_le_mul hf.2 hsum.2 hsum.1 (by norm_num)⟩
  have hneg : n * -factor = -(n * factor) := mul_neg n factor
  rw [refined, reciprocal, u16_eq_ok (by omega) (by omega), ok_bind, hcast, hentry, ok_bind,
    hfactor,
    i32_eq_ok (by omega) (by omega), ok_bind, hn]
  dsimp only
  rw [i32_eq_ok (by omega) (by omega), ok_bind, i32_eq_ok (by omega) (by omega), ok_bind, htmp,
    i32_eq_ok (by omega) (by omega), ok_bind, i32_eq_ok (by omega) (by omega), ok_bind,
    i32_eq_ok (by omega) (by omega), ok_bind, pure_eq_ok]

/-- The quotient before it is saturated, from the reciprocal `r`. -/
def quotient (numerator divisor : U16) (r : U32) : ℕ :=
  (numerator.toNat * 2 ^ divisor.clz.toNat * r.toNat + 0x8000) / 2 ^ 16

/-- The division by a divisor other than zero returns. -/
lemma divide_eq (numerator : U16) {divisor : U16} (h : divisor ≠ 0) :
    ∃ r, reciprocal (divisor <<< divisor.clz.toNat) = .ok r ∧ ∃ q,
      divide numerator divisor = .ok q ∧ q.toNat = min (quotient numerator divisor r) 0x1ffff := by
  have hshift : divisor.clz.toNat < 16 := BitVec.clz_lt_iff_ne_zero.mpr h
  obtain ⟨entry, -, hr⟩ := reciprocal_eq (divisor <<< divisor.clz.toNat)
  refine ⟨_, hr, ?_⟩
  generalize BitVec.ofInt 32 (refined _ _) = r at hr ⊢
  have hn : numerator.toNat * 2 ^ divisor.clz.toNat ≤ 0xffff * 2 ^ 15 :=
    Nat.mul_le_mul (Nat.le_of_lt_succ numerator.isLt) (Nat.pow_le_pow_right (by norm_num)
      (Nat.le_of_lt_succ hshift))
  have hprod : numerator.toNat * 2 ^ divisor.clz.toNat * r.toNat ≤ 0xffff * 2 ^ 15 * 0xffffffff :=
    Nat.mul_le_mul hn (Nat.le_of_lt_succ r.isLt)
  rw [quotient]
  obtain ⟨p, hp⟩ : ∃ p : ℕ, numerator.toNat * 2 ^ divisor.clz.toNat * r.toNat = p := ⟨_, rfl⟩
  rw [hp] at hprod ⊢
  have hcast : ((numerator.toNat * 2 ^ divisor.clz.toNat : ℕ) : ℤ) * (r.toNat : ℤ) = p := by
    rw [← hp]
    push_cast
    ring
  rw [divide]
  dsimp only
  rw [shiftAmount_eq_ok hshift, ok_bind, hr, ok_bind, hcast, u64_eq_ok (by omega) (by omega),
    ok_bind, u64_eq_ok (by omega) (by omega), ok_bind]
  refine ⟨_, rfl, ?_⟩
  have hasr : asr ((p : ℤ) + 0x8000) 16 = ((p + 0x8000) / 2 ^ 16 : ℕ) := by
    rw [asr]
    push_cast
    rfl
  rw [hasr]
  split
  · next hle =>
    rw [BitVec.toNat_ofInt, min_eq_left (by omega)]
    omega
  · next hgt =>
    rw [min_eq_right (by omega)]
    rfl

/-- The quotient has 17 bits. -/
lemma divide_eq_ok (numerator : U16) {divisor : U16} (h : divisor ≠ 0) :
    ∃ q, divide numerator divisor = .ok q ∧ q.toNat ≤ 0x1ffff := by
  obtain ⟨r, -, q, hq, hmin⟩ := divide_eq numerator h
  exact ⟨q, hq, hmin ▸ min_le_right _ _⟩

end Rustation
