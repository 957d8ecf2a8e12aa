import Mathlib.Tactic

/-!
Names for the machine words of the source: `U8`, `U16` and `U32` for unsigned
integers, whose arithmetic wraps, and `I16` and `I32` for words that are read
as signed integers.

* `BitVec.toNat_and_field`: a mask of consecutive bits, as a quotient and a remainder;
* `word_of_halves`, `word_of_bytes`: a word is made of its parts.
-/

abbrev U8 := BitVec 8

abbrev U16 := BitVec 16

abbrev U32 := BitVec 32

abbrev I16 := BitVec 16

abbrev I32 := BitVec 32

/-! ### Index types -/

-- arrays have three, four or 32 places, and the literals of their index types rest on these

instance Fin.neZeroThree : NeZero 3 := ⟨by decide⟩

instance Fin.neZeroFour : NeZero 4 := ⟨by decide⟩

instance Fin.neZeroThirtyTwo : NeZero 32 := ⟨by decide⟩

/-! ### Masks and bits -/

/-- A mask of low bits is a remainder. -/
lemma BitVec.toNat_and_mask {n k : ℕ} (a : BitVec n) {m : BitVec n} (hm : m.toNat = 2 ^ k - 1) :
    (a &&& m).toNat = a.toNat % 2 ^ k := by
  rw [BitVec.toNat_and, hm, Nat.and_two_pow_sub_one_eq_mod]

lemma BitVec.toNat_shift {n : ℕ} (a : BitVec n) (k : ℕ) : (a >>> k).toNat = a.toNat / 2 ^ k := by
  rw [BitVec.toNat_ushiftRight, Nat.shiftRight_eq_div_pow]

/-- A mask of adjacent bits. -/
lemma BitVec.toNat_and_field {n : ℕ} (a : BitVec n) (lo len : ℕ) {m : BitVec n}
    (hm : m.toNat = (2 ^ len - 1) * 2 ^ lo) :
    (a &&& m).toNat = a.toNat / 2 ^ lo % 2 ^ len * 2 ^ lo := by
  rw [BitVec.toNat_and, hm, ← Nat.and_two_pow_sub_one_eq_mod, ← Nat.shiftRight_eq_div_pow,
    ← Nat.shiftLeft_eq, ← Nat.shiftLeft_eq]
  refine Nat.eq_of_testBit_eq fun i => ?_
  simp only [Nat.testBit_and, Nat.testBit_shiftLeft, Nat.testBit_shiftRight]
  by_cases hi : lo ≤ i
  · simp [hi, show lo + (i - lo) = i by omega]
  · simp [hi]

/-- The bits of a part of a word that is put back where it was. -/
lemma BitVec.getElem_part {n : ℕ} (v : BitVec n) (lo len : ℕ) {k : ℕ} (hk : k < n) :
    (((v >>> lo).setWidth len).setWidth n <<< lo)[k]
      = (decide (lo ≤ k ∧ k < lo + len) && v[k]) := by
  by_cases hlo : lo ≤ k
  · by_cases hhi : k < lo + len
    · simp [hlo, hhi, hk, show k - lo < len by omega, show lo + (k - lo) = k by omega]
    · simp [hlo, hhi, show ¬k - lo < len by omega]
  · simp [hlo]

/-- A word is made of its halves. -/
lemma word_of_halves (v : U32) :
    (v.setWidth 16).setWidth 32 ||| ((v >>> 16).setWidth 16).setWidth 32 <<< 16 = v := by
  ext k hk
  rw [BitVec.getElem_or, BitVec.getElem_part v 16 16 hk]
  by_cases hlow : k < 16
  · simp [hlow, hk]
  · simp [hk, show 16 ≤ k by omega]

/-- A word is made of its bytes. -/
lemma word_of_bytes (v : U32) :
    (v.setWidth 8).setWidth 32 ||| ((v >>> 8).setWidth 8).setWidth 32 <<< 8
      ||| ((v >>> 16).setWidth 8).setWidth 32 <<< 16
      ||| ((v >>> 24).setWidth 8).setWidth 32 <<< 24 = v := by
  ext k hk
  have hlow : ((v.setWidth 8).setWidth 32)[k] = (decide (k < 8) && v[k]) := by
    by_cases hlow : k < 8 <;> simp [hlow, hk]
  have hcover : k < 8 ∨ 8 ≤ k ∧ k < 8 + 8 ∨ 16 ≤ k ∧ k < 16 + 8 ∨ 24 ≤ k ∧ k < 24 + 8 := by omega
  rw [BitVec.getElem_or, BitVec.getElem_or, BitVec.getElem_or, hlow, BitVec.getElem_part v 8 8 hk,
    BitVec.getElem_part v 16 8 hk, BitVec.getElem_part v 24 8 hk, ← Bool.and_or_distrib_right,
    ← Bool.and_or_distrib_right, ← Bool.and_or_distrib_right]
  rcases hcover with h | h | h | h <;> simp [h]

/-- A word shares no bit with a mask. -/
lemma BitVec.and_eq_zero_iff {n : ℕ} {a m : BitVec n} :
    a &&& m = 0 ↔ ∀ i, m.getLsbD i = true → a.getLsbD i = false := by
  constructor
  · intro h i hm
    have hbit := congrArg (fun x : BitVec n => x.getLsbD i) h
    simpa [hm] using hbit
  · intro h
    refine BitVec.eq_of_getLsbD_eq fun i _ => ?_
    have hi := h i
    cases hm : m.getLsbD i <;> simp_all

/-- A word shares a bit with a mask. -/
lemma BitVec.and_ne_zero_iff {n : ℕ} {a m : BitVec n} :
    a &&& m ≠ 0 ↔ ∃ i, m.getLsbD i = true ∧ a.getLsbD i = true := by
  rw [Ne, BitVec.and_eq_zero_iff]
  push Not
  simp only [Bool.not_eq_false]

/-- A bit in common stays in common when more bits are set. -/
lemma BitVec.or_and_ne_zero {n : ℕ} {a b c : BitVec n} (h : a &&& c ≠ 0) : (a ||| b) &&& c ≠ 0 := by
  obtain ⟨i, hc, ha⟩ := BitVec.and_ne_zero_iff.mp h
  exact BitVec.and_ne_zero_iff.mpr ⟨i, hc, by rw [BitVec.getLsbD_or, ha, Bool.true_or]⟩

/-- The bits of a mask are set and cleared again. -/
lemma BitVec.or_and_not {n : ℕ} {x m : BitVec n} (h : x &&& m = 0) : (x ||| m) &&& ~~~m = x := by
  ext k hk
  have hbit : (x &&& m)[k] = (0 : BitVec n)[k] := by rw [h]
  rw [BitVec.getElem_and, show (0 : BitVec n)[k] = false by simp] at hbit
  rw [BitVec.getElem_and, BitVec.getElem_or, BitVec.getElem_not]
  cases hx : x[k] with
  | true =>
      rw [hx, Bool.true_and] at hbit
      rw [hbit]
      rfl
  | false => simp

/-! ### Bytes of a word -/

/-- The byte `k` of a word, counted from the lowest one. -/
def byteOf (w : U32) (k : ℕ) : U8 := (w >>> (k * 8)).setWidth 8

lemma byteOf_or (v w : U32) (k : ℕ) : byteOf (v ||| w) k = byteOf v k ||| byteOf w k := by
  rw [byteOf, BitVec.ushiftRight_or_distrib, BitVec.setWidth_or]
  rfl

lemma byteOf_and (v w : U32) (k : ℕ) : byteOf (v &&& w) k = byteOf v k &&& byteOf w k := by
  rw [byteOf, BitVec.ushiftRight_and_distrib, BitVec.setWidth_and]
  rfl

/-- A shift to the right by whole bytes. -/
lemma byteOf_shr (w : U32) (j k : ℕ) : byteOf (w >>> (j * 8)) k = byteOf w (j + k) := by
  rw [byteOf, byteOf, ← BitVec.shiftRight_add, Nat.add_mul]

/-- A shift to the left by whole bytes. -/
lemma byteOf_shl (w : U32) {j k : ℕ} (hk : k < 4) :
    byteOf (w <<< (j * 8)) k = if j ≤ k then byteOf w (k - j) else 0 := by
  refine BitVec.eq_of_getLsbD_eq fun b hb => ?_
  split_ifs with hj
  · simp only [byteOf, BitVec.getLsbD_setWidth, BitVec.getLsbD_ushiftRight,
      BitVec.getLsbD_shiftLeft]
    have h1 : k * 8 + b < 32 := by omega
    have h2 : ¬k * 8 + b < j * 8 := by omega
    have h3 : k * 8 + b - j * 8 = (k - j) * 8 + b := by omega
    simp [hb, h1, h2, h3]
  · simp only [byteOf, BitVec.getLsbD_setWidth, BitVec.getLsbD_ushiftRight,
      BitVec.getLsbD_shiftLeft]
    have h2 : k * 8 + b < j * 8 := by omega
    simp [h2]

lemma toNat_byteOf (w : U32) (k : ℕ) : (byteOf w k).toNat = w.toNat / 256 ^ k % 256 := by
  rw [byteOf, BitVec.toNat_setWidth, BitVec.toNat_shift, Nat.mul_comm, Nat.pow_mul]

/-- There are four bytes. -/
lemma byteOf_of_le (w : U32) {k : ℕ} (hk : 4 ≤ k) : byteOf w k = 0 := by
  refine BitVec.eq_of_toNat_eq ?_
  have hw : w.toNat < 256 ^ k :=
    calc w.toNat < 256 ^ 4 := w.isLt
      _ ≤ 256 ^ k := Nat.pow_le_pow_right (by norm_num) hk
  rw [toNat_byteOf, Nat.div_eq_of_lt hw]
  rfl
