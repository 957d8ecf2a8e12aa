import Rustation.Lib.Outcome

/-!
Machine arithmetic read as integers.

A machine integer is the integer it stands for.  An operation that a build with
overflow checks would refuse is passed through the check of its type (`i32`,
`i64`, `u16`, `u64`), which stops with an overflow where the value does not
fit; a cast or a left shift, which drop bits silently, is a wrap.

* `i32_eq_ok` and its siblings: a value that fits passes its check;
* `wrap32_eq`, `wrap64_eq`: a value that fits is not changed by a wrap;
* `asr`: the arithmetic right shift, which rounds towards minus infinity;
* `bounds_mul`: the range of a product.
-/

namespace Machine

open Fallible

/-! ### Checked results -/

/-- The value `x` if it lies between `lo` and `hi`, an overflow otherwise. -/
def check (lo hi x : ℤ) : Outcome ℤ := if lo ≤ x ∧ x ≤ hi then pure x else throw .overflow

def i32 (x : ℤ) : Outcome ℤ := check (-0x80000000) 0x7fffffff x

def i64 (x : ℤ) : Outcome ℤ := check (-0x8000000000000000) 0x7fffffffffffffff x

def u16 (x : ℤ) : Outcome ℤ := check 0 0xffff x

def u32 (x : ℤ) : Outcome ℤ := check 0 0xffffffff x

def u64 (x : ℤ) : Outcome ℤ := check 0 0xffffffffffffffff x

lemma check_eq_ok {lo hi x : ℤ} (hlo : lo ≤ x) (hhi : x ≤ hi) : check lo hi x = .ok x := by
  rw [check, if_pos ⟨hlo, hhi⟩, pure_eq_ok]

lemma i32_eq_ok {x : ℤ} (hlo : -0x80000000 ≤ x) (hhi : x ≤ 0x7fffffff) : i32 x = .ok x :=
  check_eq_ok hlo hhi

lemma i64_eq_ok {x : ℤ} (hlo : -0x8000000000000000 ≤ x) (hhi : x ≤ 0x7fffffffffffffff) :
    i64 x = .ok x :=
  check_eq_ok hlo hhi

lemma u16_eq_ok {x : ℤ} (hlo : 0 ≤ x) (hhi : x ≤ 0xffff) : u16 x = .ok x := check_eq_ok hlo hhi

lemma u32_eq_ok {x : ℤ} (hlo : 0 ≤ x) (hhi : x ≤ 0xffffffff) : u32 x = .ok x :=
  check_eq_ok hlo hhi

lemma u64_eq_ok {x : ℤ} (hlo : 0 ≤ x) (hhi : x ≤ 0xffffffffffffffff) : u64 x = .ok x :=
  check_eq_ok hlo hhi

/-- The amount of a shift, which must be smaller than the width of the operand. -/
def shiftAmount (width n : ℕ) : Outcome ℕ := if n < width then pure n else throw .overflow

lemma shiftAmount_eq_ok {width n : ℕ} (h : n < width) : shiftAmount width n = .ok n := by
  rw [shiftAmount, if_pos h, pure_eq_ok]

/-! ### Casts and shifts -/

/-- The `i32` with the low 32 bits of `x`. -/
def wrap32 (x : ℤ) : ℤ := x.bmod (2 ^ 32)

/-- The `i64` with the low 64 bits of `x`. -/
def wrap64 (x : ℤ) : ℤ := x.bmod (2 ^ 64)

lemma wrap32_eq {x : ℤ} (hlo : -0x80000000 ≤ x) (hhi : x ≤ 0x7fffffff) : wrap32 x = x :=
  Int.bmod_eq_of_le_mul_two (by norm_num; omega) (by norm_num; omega)

lemma wrap64_eq {x : ℤ} (hlo : -0x8000000000000000 ≤ x) (hhi : x ≤ 0x7fffffffffffffff) :
    wrap64 x = x :=
  Int.bmod_eq_of_le_mul_two (by norm_num; omega) (by norm_num; omega)

/-- Left shift of an `i64`. -/
def shl64 (x : ℤ) (n : ℕ) : ℤ := wrap64 (x * 2 ^ n)

/-- Arithmetic right shift. -/
def asr (x : ℤ) (n : ℕ) : ℤ := x / 2 ^ n

/-! ### Ranges -/

/-- The range of a product of two bounded factors. -/
lemma bounds_mul {a b A B : ℤ} (ha : |a| ≤ A) (hb : |b| ≤ B) : |a * b| ≤ A * B := by
  rw [abs_mul]
  exact mul_le_mul ha hb (abs_nonneg b) ((abs_nonneg a).trans ha)

end Machine
