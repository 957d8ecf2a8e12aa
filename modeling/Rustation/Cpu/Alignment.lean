import Rustation.Cpu.Faults

/-!
Misaligned loads and stores (`cpu/mod.rs`).

Seven instructions check their address by hand.  An address that is not a multiple of the size of
the access raises an exception, and the memory is not accessed.

* `AlignedOp`: the instructions, with their sizes and the exceptions they are to raise;
* `Refuses`: the exception is raised whatever the memory and the peripherals are;
* `refuses_of_eq`, `entered_execute`: what a handler does on both sides of its check;
* `address_errors_iff`: all of them do what they should, but for the store of coprocessor 2, which
  raises the exception of a load.
-/

namespace Rustation

open Fallible

/-- The loads and stores with an alignment requirement. -/
inductive AlignedOp where
  | lh | lhu | lw | lwc2 | sh | sw | swc2
  deriving DecidableEq, Repr

namespace AlignedOp

def opcode : AlignedOp → Opcode
  | lh => .lh
  | lhu => .lhu
  | lw => .lw
  | lwc2 => .lwc2
  | sh => .sh
  | sw => .sw
  | swc2 => .swc2

def width : AlignedOp → Width
  | lh | lhu | sh => .halfWord
  | lw | lwc2 | sw | swc2 => .word

/-- The exception for a misaligned address. -/
def cause : AlignedOp → Exception
  | lh | lhu | lw | lwc2 => .loadAddressError
  | sh | sw | swc2 => .storeAddressError

end AlignedOp

namespace Cpu

variable {δ : Type} {dev : Devices δ} {op : AlignedOp} {i : Instruction} {c c' : Cpu δ}
  {sh sh' : SharedState} {cause : Exception}

/-- The address is a multiple of the size of the access. -/
def AlignedFor (c : Cpu δ) (op : AlignedOp) (i : Instruction) : Prop :=
  (c.address i).toNat % op.width.size = 0

instance : Decidable (c.AlignedFor op i) :=
  inferInstanceAs (Decidable ((c.address i).toNat % op.width.size = 0))

/-- The instruction raises the exception, in the same way for every memory and all peripherals,
which it leaves as they are. -/
def Refuses (op : AlignedOp) (i : Instruction) (c : Cpu δ) (sh : SharedState) (cause : Exception) :
    Prop :=
  ∃ c' : Cpu δ, c'.entered = cause :: c.entered ∧ c'.cop0.cause &&& 0x7c = cause.code <<< 2
    ∧ ∀ (dev : Devices δ) (inter : Interconnect δ),
      execute dev op.opcode i { c with inter := inter } sh = .ok ({ c' with inter := inter }, sh)

/-- The instruction raises the exception it should exactly on misaligned addresses. -/
structure Checked (dev : Devices δ) (op : AlignedOp) (i : Instruction) (c : Cpu δ)
    (sh : SharedState) : Prop where
  misaligned : ¬c.AlignedFor op i → Refuses op i c sh op.cause
  aligned : c.AlignedFor op i → ∀ c' sh', execute dev op.opcode i c sh = .ok (c', sh') →
    c'.entered = c.entered

/-- An instruction that ends in an exception right after the commit of the pending load. -/
lemma refuses_of_eq
    (h : ∀ (dev : Devices δ) (inter : Interconnect δ),
      execute dev op.opcode i { c with inter := inter } sh
        = .ok (({ c with inter := inter } : Cpu δ).delayedLoad.exception cause, sh)) :
    Refuses op i c sh cause :=
  ⟨c.delayedLoad.exception cause, rfl, Cop0.enterException_code .., fun dev inter => h dev inter⟩

/-- The exception is determined by the instruction. -/
lemma Refuses.cause_eq {cause' : Exception} (h : Refuses op i c sh cause)
    (h' : Refuses op i c sh cause') (dev : Devices δ) : cause = cause' := by
  obtain ⟨c₁, h₁, -, heq₁⟩ := h
  obtain ⟨c₂, h₂, -, heq₂⟩ := h'
  have heq := (heq₁ dev c.inter).symm.trans (heq₂ dev c.inter)
  injection heq with heq
  injection heq with hc
  have hentered := congrArg Cpu.entered hc
  change c₁.entered = c₂.entered at hentered
  rw [h₁, h₂] at hentered
  exact List.head_eq_of_cons_eq hentered

/-! ### The handlers -/

/-- Every data register of the GTE can be read. -/
lemma exists_data (g : Gte) (r : RegisterIndex) : ∃ v, g.data (copRegister r) = .ok v := by
  fin_cases r <;> exact ⟨_, rfl⟩

/-- The exception that the code raises. -/
def raised : AlignedOp → Exception
  | .swc2 => .loadAddressError
  | op => op.cause

lemma refuses_raised (h : ¬c.AlignedFor op i) (sh : SharedState) :
    Refuses op i c sh (raised op) := by
  refine refuses_of_eq fun dev inter => ?_
  cases op with
  | lh | lhu | lw | lwc2 | sh | sw => exact if_neg h
  | swc2 =>
      obtain ⟨v, hv⟩ := exists_data c.gte i.t
      have hdata : ({ c with inter := inter } : Cpu δ).gte.data (copRegister i.t) = .ok v := hv
      rw [AlignedOp.opcode, execute, opSwc2, hdata, ok_bind]
      exact if_neg h

/-- An aligned access raises nothing. -/
lemma entered_execute (h : c.AlignedFor op i)
    (hrun : execute dev op.opcode i c sh = .ok (c', sh')) : c'.entered = c.entered := by
  have hload {extend : U32 → U32} (hload : loadTo dev op.width extend i c sh = .ok (c', sh')) :
      c'.entered = c.entered := by
    obtain ⟨⟨v, q, s⟩, hmem, heq⟩ := bind_eq_ok.mp hload
    injection heq with heq
    injection heq with hc
    have hq : q.control = c.control := control_memLoad hmem
    rw [← hc]
    exact congrArg Control.entered ((q.control_delayedLoadChain i.t (extend v)).trans hq)
  have hstore {v : U32} (hmem : c.delayedLoad.memStore dev op.width sh (c.address i) v
      = .ok (c', sh')) : c'.entered = c.entered :=
    congrArg Control.entered (control_memStore hmem)
  cases op with
  | lh | lhu | lw => exact hload ((if_pos h).symm.trans hrun)
  | sh | sw => exact hstore ((if_pos h).symm.trans hrun)
  | lwc2 =>
      have hlwc2 := (if_pos h).symm.trans hrun
      obtain ⟨⟨v, q, s⟩, hmem, hset⟩ := bind_eq_ok.mp hlwc2
      obtain ⟨gte, -, heq⟩ := bind_eq_ok.mp hset
      injection heq with heq
      injection heq with hc
      have hq : q.control = c.control := control_memLoad hmem
      rw [← hc]
      exact congrArg Control.entered hq
  | swc2 =>
      obtain ⟨v, -, hswc2⟩ := bind_eq_ok.mp hrun
      exact hstore ((if_pos h).symm.trans hswc2)

/-- **Address errors.**  Every load and store with an alignment requirement raises the right
exception on the misaligned addresses, without an access of the memory, and none on the others,
except for a misaligned store of coprocessor 2. -/
theorem address_errors_iff (dev : Devices δ) (op : AlignedOp) (i : Instruction) (c : Cpu δ)
    (sh : SharedState) :
    Checked dev op i c sh ↔ (op = .swc2 → (c.address i).toNat % 4 = 0) := by
  constructor
  · rintro h rfl
    by_contra hmod
    have halign : ¬c.AlignedFor .swc2 i := hmod
    have hcause := (h.misaligned halign).cause_eq (refuses_raised halign sh) dev
    cases hcause
  · intro h
    refine ⟨fun halign => ?_, fun halign c' sh' => entered_execute halign⟩
    have hcause : raised op = op.cause := by
      cases op with
      | swc2 => exact absurd (h rfl) halign
      | lh | lhu | lw | lwc2 | sh | sw => rfl
    rw [← hcause]
    exact refuses_raised halign sh

/-- `swc2 $0, 1($0)` raises the exception of a load. -/
theorem address_errors_swc2 :
    ¬∀ (op : AlignedOp) (i : Instruction) (c : Cpu Unit), Checked .idle op i c .new := by
  intro h
  have halign : ¬(booted []).AlignedFor .swc2 ⟨0xe8000001⟩ := by decide
  have hcause := ((h .swc2 ⟨0xe8000001⟩ (booted [])).misaligned halign).cause_eq
    (refuses_raised halign .new) .idle
  cases hcause

end Cpu

end Rustation
