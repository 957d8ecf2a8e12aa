import Rustation.Shared.TimeKeeper

/-!
Fractional cycle counts (`FracCycles` of `timekeeper.rs`): a 64 bit fixed point
number with 16 fractional bits, used where a clock is not a divisor of the CPU
clock.

As everywhere in the time keeper the arithmetic wraps.  `fromCycles_toNat` says
what the conversion from whole cycles computes while the value fits.
-/

namespace Rustation

/-- A number of cycles, in units of 1/65536. -/
structure FracCycles where
  /-- the raw fixed point value, `get_fp` -/
  fp : Cycles
  deriving DecidableEq, Repr

namespace FracCycles

def fracBits : ℕ := 16

def fromFp (val : Cycles) : FracCycles := ⟨val⟩

/-- The high bits are dropped silently. -/
def fromCycles (val : Cycles) : FracCycles := ⟨val <<< fracBits⟩

def add (a b : FracCycles) : FracCycles := ⟨a.fp + b.fp⟩

/-- The product has twice the fractional bits and is shifted back. -/
def multiply (a mul : FracCycles) : FracCycles := ⟨(a.fp * mul.fp) >>> fracBits⟩

/-- The numerator is shifted once more before the division, not to lose the
fractional part of the quotient. -/
def divide (a denominator : FracCycles) : FracCycles := ⟨(a.fp <<< fracBits) / denominator.fp⟩

/-- Round up to whole cycles. -/
def ceil (a : FracCycles) : Cycles :=
  let align := (1#64 <<< fracBits) - 1
  (a.fp + align) >>> fracBits

lemma fromCycles_toNat {val : Cycles} (h : 65536 * val.toNat < 2 ^ 64) :
    (fromCycles val).fp.toNat = 65536 * val.toNat := by
  rw [fromCycles, fracBits, BitVec.toNat_shiftLeft, Nat.shiftLeft_eq, Nat.mul_comm,
    Nat.mod_eq_of_lt h]

end FracCycles

end Rustation
