import Rustation.Shared.SharedState

/-!
Coprocessor 0, the system control of the CPU (`cpu/cop0.rs`).

* `enterException`: what an exception does to SR, CAUSE and EPC, and the
  address of its handler, with one lemma for each of them;
* `irqActive`: an interrupt is pending and enabled.  `irqActive_mono`: it stays
  so while interrupts are only asserted.
-/

namespace Rustation

/-- Exception types. -/
inductive Exception where
  | interrupt | loadAddressError | storeAddressError | sysCall | break | illegalInstruction
  | coprocessorError | overflow
  deriving DecidableEq, Repr

/-- The code of an exception in the CAUSE register. -/
def Exception.code : Exception → U32
  | interrupt => 0x0
  | loadAddressError => 0x4
  | storeAddressError => 0x5
  | sysCall => 0x8
  | .break => 0x9
  | illegalInstruction => 0xa
  | coprocessorError => 0xb
  | overflow => 0xc

structure Cop0 where
  /-- register 12: status -/
  sr : U32
  /-- register 13: cause -/
  cause : U32
  /-- register 14: exception PC -/
  epc : U32
  deriving DecidableEq, Repr

namespace Cop0

def new : Cop0 := ⟨0, 0, 0⟩

def setSr (c : Cop0) (sr : U32) : Cop0 := { c with sr := sr }

/-- Bits 9 and 8 are writable and trigger software interrupts. -/
def setCause (c : Cop0) (v : U32) : Cop0 :=
  { c with cause := c.cause &&& ~~~0x300#32 ||| v &&& 0x300 }

/-- The value of the CAUSE register, whose bit 10 is wired to the external
interrupt. -/
def causeWith (c : Cop0) (irqState : InterruptState) : U32 :=
  c.cause ||| (if irqState.active then 1#32 else 0#32) <<< 10

def cacheIsolated (c : Cop0) : Bool := c.sr &&& 0x10000 != 0

/-- Push a pair of zeroes on the stack of modes in the bits 5 to 0. -/
def pushMode (sr : U32) : U32 := sr &&& ~~~0x3f#32 ||| (sr &&& 0x3f) <<< 2 &&& 0x3f

/-- The address of the exception handler, selected by bit 22. -/
def handler (sr : U32) : U32 := if sr &&& 0x400000 != 0 then 0xbfc00180 else 0x80000080

/-- Update SR, CAUSE and EPC when an exception is triggered.  Returns the
address of the exception handler. -/
def enterException (c : Cop0) (cause : Exception) (pc : U32) (inDelaySlot : Bool) : U32 × Cop0 :=
  let sr := pushMode c.sr
  let code := c.cause &&& ~~~0x7c#32 ||| cause.code <<< 2
  let c : Cop0 :=
    if inDelaySlot then ⟨sr, code ||| 0x80000000, pc - 4⟩ else ⟨sr, code &&& ~~~0x80000000#32, pc⟩
  (handler sr, c)

/-- Shift the stack of modes back into place. -/
def returnFromException (c : Cop0) : Cop0 :=
  { c with sr := c.sr &&& ~~~0xf#32 ||| (c.sr &&& 0x3f) >>> 2 }

def irqEnabled (c : Cop0) : Bool := c.sr &&& 1 != 0

/-- An interrupt, software or hardware, is pending and enabled. -/
def irqActive (c : Cop0) (irqState : InterruptState) : Bool :=
  let pending := c.causeWith irqState &&& c.sr &&& 0x700
  c.irqEnabled && pending != 0

/-! ### What an exception saves -/

section
variable (c : Cop0) (cause : Exception) (pc : U32) (inDelaySlot : Bool)

lemma enterException_sr : (c.enterException cause pc inDelaySlot).2.sr = pushMode c.sr := by
  cases inDelaySlot <;> rfl

lemma enterException_handler : (c.enterException cause pc inDelaySlot).1 =
    handler (c.enterException cause pc inDelaySlot).2.sr := by
  cases inDelaySlot <;> rfl

lemma enterException_epc : (c.enterException cause pc inDelaySlot).2.epc =
    if inDelaySlot then pc - 4 else pc := by
  cases inDelaySlot <;> rfl

lemma enterException_delay :
    (c.enterException cause pc inDelaySlot).2.cause.getLsbD 31 = inDelaySlot := by
  cases inDelaySlot <;> simp [enterException]

/-- Bit 31 lies outside of the code, and no code is wider than its field. -/
lemma enterException_code :
    (c.enterException cause pc inDelaySlot).2.cause &&& 0x7c#32 = cause.code <<< 2 := by
  have hcode : cause.code <<< 2 &&& 0x7c#32 = cause.code <<< 2 := by cases cause <;> decide
  have hold : c.cause &&& ~~~0x7c#32 &&& 0x7c#32 = 0 := by
    rw [BitVec.and_assoc]
    exact BitVec.and_zero
  have hfield : (c.cause &&& ~~~0x7c#32 ||| cause.code <<< 2) &&& 0x7c#32 = cause.code <<< 2 := by
    rw [BitVec.and_or_distrib_right, hold, hcode]
    exact BitVec.zero_or
  cases inDelaySlot with
  | false =>
      refine Eq.trans ?_ hfield
      exact BitVec.and_assoc _ _ _
  | true =>
      refine Eq.trans ?_ hfield
      refine (BitVec.and_or_distrib_right).trans ?_
      exact BitVec.or_zero

end

/-! ### Pending interrupts -/

lemma irqActive_mono {c : Cop0} {s s' : InterruptState} (h : c.irqActive s = true)
    (hactive : s.active = true → s'.active = true) : c.irqActive s' = true := by
  cases hs : s.active with
  | true => simpa [irqActive, causeWith, hs, hactive hs] using h
  | false =>
      simp only [irqActive, causeWith, hs, Bool.and_eq_true, bne_iff_ne] at h ⊢
      refine ⟨h.1, ?_⟩
      have hpending : c.cause &&& (c.sr &&& 0x700) ≠ 0 := by simpa [BitVec.and_assoc] using h.2
      rw [BitVec.and_assoc]
      exact BitVec.or_and_ne_zero hpending

end Cop0

end Rustation
