import Rustation.Assembler.Syntax
import Rustation.Cpu.Instructions

/-!
The fields of an instruction word, as the assembler sets them and as the decoder of
the CPU reads them.

* `MachineCode.bits`: the bits of a field.  Setting a field leaves the bits of the
  others (`bits_field_of_apart`) and gives its own the value (`bits_field_self`);
* `Field`, `build`: a word made of fields.  If the fields lie apart, each of them is
  found again, by `bits_build`;
* `toNat_function` and its neighbours: the decoder reads bits.
-/

namespace Rustation

namespace Asm

/-- The number fits its field. -/
def Register.Valid (r : Register) : Prop := r.number.toNat < 32

/-! ### Bits of a word -/

namespace MachineCode

/-- The `len` bits from `lo` on, as a number. -/
def bits (m : MachineCode) (lo len : ℕ) : ℕ := m.word.toNat / 2 ^ lo % 2 ^ len

variable {m : MachineCode} {v : U32} {k n lo len : ℕ}

lemma bits_field : (m.field v k).bits lo len =
    m.bits lo len ||| (v <<< k).toNat / 2 ^ lo % 2 ^ len := by
  simp only [bits, field, BitVec.toNat_or, ← Nat.shiftRight_eq_div_pow, Nat.shiftRight_or_distrib,
    Nat.or_mod_two_pow]

/-- The bits of the other fields stay. -/
lemma bits_field_of_apart (hv : v.toNat < 2 ^ n) (h : k + n ≤ lo ∨ lo + len ≤ k) :
    (m.field v k).bits lo len = m.bits lo len := by
  have hzero : (v <<< k).toNat / 2 ^ lo % 2 ^ len = 0 := by
    rw [BitVec.toNat_shiftLeft, Nat.shiftLeft_eq]
    rcases h with h | h
    · -- all of the field lies below
      have hlt : v.toNat * 2 ^ k % 2 ^ 32 < 2 ^ lo :=
        calc v.toNat * 2 ^ k % 2 ^ 32 ≤ v.toNat * 2 ^ k := Nat.mod_le ..
          _ < 2 ^ n * 2 ^ k := Nat.mul_lt_mul_of_pos_right hv (Nat.two_pow_pos k)
          _ = 2 ^ (k + n) := by rw [← pow_add, Nat.add_comm]
          _ ≤ 2 ^ lo := Nat.pow_le_pow_right (by norm_num) h
      rw [Nat.div_eq_of_lt hlt, Nat.zero_mod]
    · -- all of it lies above
      have hdvd : 2 ^ (lo + len) ∣ v.toNat * 2 ^ k :=
        (Nat.pow_dvd_pow 2 h).trans (Nat.dvd_mul_left ..)
      have hmod : 2 ^ (lo + len) ∣ v.toNat * 2 ^ k % 2 ^ 32 := by
        rcases le_total (lo + len) 32 with hle | hge
        · exact (Nat.dvd_mod_iff (Nat.pow_dvd_pow 2 hle)).mpr hdvd
        · rw [Nat.mod_eq_zero_of_dvd ((Nat.pow_dvd_pow 2 hge).trans hdvd)]
          exact Nat.dvd_zero _
      rw [pow_add] at hmod
      exact Nat.mod_eq_zero_of_dvd (Nat.dvd_div_of_mul_dvd hmod)
  rw [bits_field, hzero, Nat.or_zero]

/-- A field that has been clear holds the value. -/
lemma bits_field_self (hv : v.toNat < 2 ^ len) (hlo : lo + len ≤ 32) (hm : m.bits lo len = 0) :
    (m.field v lo).bits lo len = v.toNat := by
  have hlt : v.toNat * 2 ^ lo < 2 ^ 32 :=
    calc v.toNat * 2 ^ lo < 2 ^ len * 2 ^ lo := Nat.mul_lt_mul_of_pos_right hv (Nat.two_pow_pos lo)
      _ = 2 ^ (lo + len) := by rw [← pow_add, Nat.add_comm]
      _ ≤ 2 ^ 32 := Nat.pow_le_pow_right (by norm_num) hlo
  rw [bits_field, hm, Nat.zero_or, BitVec.toNat_shiftLeft, Nat.shiftLeft_eq, Nat.mod_eq_of_lt hlt,
    Nat.mul_div_cancel _ (Nat.two_pow_pos lo), Nat.mod_eq_of_lt hv]

end MachineCode

/-! ### Words made of fields -/

structure Field where
  value : U32
  lo : ℕ
  len : ℕ

namespace Field

/-- The value fits the field, and the field a word. -/
def Fits (f : Field) : Prop := f.value.toNat < 2 ^ f.len ∧ f.lo + f.len ≤ 32

/-- The fields have no bit in common. -/
def Apart (f g : Field) : Prop := f.lo + f.len ≤ g.lo ∨ g.lo + g.len ≤ f.lo

end Field

/-- Fields have no bit in common, read off their places alone. -/
def apartAt : List Field → Bool
  | [] => true
  | f :: fs => (fs.all fun g => f.lo + f.len ≤ g.lo || g.lo + g.len ≤ f.lo) && apartAt fs

lemma pairwise_of_apartAt : ∀ {fs : List Field}, apartAt fs = true → fs.Pairwise Field.Apart
  | [], _ => .nil
  | f :: fs, h => by
      rw [apartAt, Bool.and_eq_true, List.all_eq_true] at h
      refine .cons (fun g hg => ?_) (pairwise_of_apartAt h.2)
      simpa [Field.Apart] using h.1 g hg

/-- The word in which the fields are set, one after the other. -/
def build (m : MachineCode) (fs : List Field) : MachineCode :=
  fs.foldl (fun m f => m.field f.value f.lo) m

section

variable {m : MachineCode} {fs : List Field} {f : Field}

lemma bits_build_of_apart (hfits : ∀ g ∈ fs, g.Fits) (hapart : ∀ g ∈ fs, g.Apart f) :
    (build m fs).bits f.lo f.len = m.bits f.lo f.len := by
  induction fs generalizing m with
  | nil => rfl
  | cons g fs ih =>
      rw [List.forall_mem_cons] at hfits hapart
      have hg : (m.field g.value g.lo).bits f.lo f.len = m.bits f.lo f.len :=
        MachineCode.bits_field_of_apart hfits.1.1 hapart.1
      exact (ih hfits.2 hapart.2).trans hg

/-- Each of the fields is found again. -/
lemma bits_build (hfits : ∀ g ∈ fs, g.Fits) (hapart : fs.Pairwise Field.Apart) (hf : f ∈ fs)
    (hm : m.bits f.lo f.len = 0) : (build m fs).bits f.lo f.len = f.value.toNat := by
  induction fs generalizing m with
  | nil => cases hf
  | cons g fs ih =>
      rw [List.forall_mem_cons] at hfits
      rw [List.pairwise_cons] at hapart
      rcases List.mem_cons.mp hf with rfl | hf
      · -- the fields that are set later leave this one alone
        have hrest := bits_build_of_apart (m := m.field f.value f.lo) hfits.2
          fun g hg => (hapart.1 g hg).symm
        exact hrest.trans (MachineCode.bits_field_self hfits.1.1 hfits.1.2 hm)
      · refine ih hfits.2 hapart.2 hf ?_
        rw [MachineCode.bits_field_of_apart hfits.1.1 (hapart.1 f hf), hm]

end

/-! ### The decoder -/

section

variable (m : MachineCode)

lemma bits_zero (lo len : ℕ) : (⟨0⟩ : MachineCode).bits lo len = 0 := by
  simp [MachineCode.bits]

lemma toNat_function : (⟨m.word⟩ : Rustation.Instruction).function.toNat = m.bits 26 6 := by
  have hword : m.word.toNat < 2 ^ 32 := m.word.isLt
  rw [Instruction.function, MachineCode.bits, BitVec.toNat_shift]
  dsimp only
  omega

lemma toNat_masked {k : ℕ} {mask : U32} (lo : ℕ) (hmask : mask.toNat = 2 ^ k - 1) :
    (m.word >>> lo &&& mask).toNat = m.bits lo k := by
  rw [BitVec.toNat_and_mask _ hmask, BitVec.toNat_shift, MachineCode.bits]

lemma toNat_low {k : ℕ} {mask : U32} (hmask : mask.toNat = 2 ^ k - 1) :
    (m.word &&& mask).toNat = m.bits 0 k := by
  rw [BitVec.toNat_and_mask _ hmask, MachineCode.bits, pow_zero, Nat.div_one]

lemma toNat_subfunction : (⟨m.word⟩ : Rustation.Instruction).subfunction.toNat = m.bits 0 6 :=
  toNat_low m rfl

lemma registerField_val (lo : ℕ) : (registerField m.word lo).val = m.bits lo 5 := by
  have hbits : m.bits lo 5 < 32 := Nat.mod_lt _ (by norm_num)
  rw [registerField, Fin.val_ofNat, toNat_masked m lo (k := 5) rfl, Nat.mod_eq_of_lt hbits]

end

end Asm

end Rustation
