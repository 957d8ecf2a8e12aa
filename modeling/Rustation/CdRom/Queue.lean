import Rustation.CdRom.Fifo
import Rustation.Lib.Queue

/-!
The FIFO of the CD-ROM controller is a queue of 16 bytes.

* `Fifo.perform`, `Fifo.Allowed`: the operations, a byte being pushed only if the FIFO is not full
  and popped only if it is not empty;
* `Fifo.isFull_iff`: the carry tells a full FIFO from an empty one;
* `Fifo.act_toList`: under these conditions an operation is that of a list;
* `Fifo.along_isQueue`: whatever the operations, the bytes are popped in the order in which they
  were pushed, and the FIFO knows how many of them it holds.
-/

namespace Rustation

namespace Fifo

open Queue (Op Log logged)

/-! ### The operations -/

/-- An operation: the FIFO after it, and what it returns. -/
def perform (f : Fifo) : Op U8 → Fifo × List U8
  | .push val => (f.push val, [])
  | .pushSlice s => (f.pushSlice s, [])
  | .pop => (f.pop.2, [f.pop.1])
  | .clear => (f.clear, [])

/-- Bytes are pushed one by one while the FIFO is not full, and popped while it is not empty. -/
def Allowed (f : Fifo) : Op U8 → Prop
  | .push _ => f.isFull = false
  | .pushSlice s => Run.Steps push (fun f _ => f.isFull = false) f s
  | .pop => f.isEmpty = false
  | .clear => True

instance (f : Fifo) : ∀ op, Decidable (f.Allowed op)
  | .push _ => inferInstanceAs (Decidable (_ = _))
  | .pushSlice _ => inferInstanceAs (Decidable (Run.Steps ..))
  | .pop => inferInstanceAs (Decidable (_ = _))
  | .clear => isTrue trivial

/-- The FIFO is a queue: `log` records what has been pushed and popped. -/
structure IsQueue (f : Fifo) (log : Log U8) : Prop where
  /-- the popped bytes are the first of the pushed ones, in their order -/
  order : log.popped <+: log.pushed
  write_lt : f.writeIdx < 32
  read_lt : f.readIdx < 32
  len : f.len.toNat = log.count
  len_le : f.len.toNat ≤ 16
  isEmpty : f.isEmpty = true ↔ log.count = 0
  isFull : f.isFull = true ↔ log.count = 16

/-! ### Full -/

/-- The other carry. -/
lemma toNat_xor_carry {i : U8} (h : i < 32) : (i ^^^ 0x10).toNat = (i.toNat + 16) % 32 := by
  revert i
  decide

lemma isFull_iff (f : Fifo) : f.isFull = true ↔ f.size = 16 := by
  have hw : f.writeIdx.toNat < 32 := f.write_lt
  have hr : f.readIdx.toNat < 32 := f.read_lt
  rw [isFull, beq_iff_eq, ← BitVec.toNat_inj, toNat_xor_carry f.read_lt, size]
  omega

lemma size_lt_of_not_full {f : Fifo} (hsize : f.size ≤ 16) (hfull : f.isFull = false) :
    f.size < 16 := by
  have hne : f.size ≠ 16 := by
    rw [Ne, ← isFull_iff, hfull]
    exact Bool.false_ne_true
  omega

/-- Bytes that find a cell each fit in together. -/
lemma size_add_length_le {s : List U8} {f : Fifo} (hsize : f.size ≤ 16)
    (hs : Run.Steps push (fun f _ => f.isFull = false) f s) : f.size + s.length ≤ 16 := by
  induction s generalizing f with
  | nil => exact hsize
  | cons v s ih =>
      obtain ⟨hfull, hs⟩ := hs
      have hlt := size_lt_of_not_full hsize hfull
      have hpush : (f.push v).size = f.size + 1 := by
        rw [size_push]
        omega
      have hrest := ih (by omega) hs
      rw [List.length_cons]
      omega

/-! ### The queue -/

lemma size_ne_zero_of_not_empty {f : Fifo} (h : f.isEmpty = false) : f.size ≠ 0 :=
  (isEmpty_eq_false_iff f).mp h

/-- An operation that is allowed is that of a list. -/
lemma act_toList {f : Fifo} (hsize : f.size ≤ 16) {op : Op U8} (hop : f.Allowed op) :
    Queue.act f.toList op = ((f.perform op).1.toList, (f.perform op).2) := by
  cases op with
  | push val =>
      rw [perform, toList_push (size_lt_of_not_full hsize hop)]
      rfl
  | pushSlice s =>
      rw [perform, toList_pushSlice (size_add_length_le hsize hop)]
      rfl
  | pop =>
      rw [toList_pop (size_ne_zero_of_not_empty hop)]
      rfl
  | clear =>
      rw [perform, clear_eq_new, toList_new]
      rfl

/-- At most 16 bytes are queued. -/
lemma size_perform {f : Fifo} (hsize : f.size ≤ 16) {op : Op U8} (hop : f.Allowed op) :
    (f.perform op).1.size ≤ 16 := by
  cases op with
  | push val =>
      have hlt := size_lt_of_not_full hsize hop
      rw [perform, size_push]
      omega
  | pushSlice s =>
      have hle := size_add_length_le hsize hop
      rw [perform, size_pushSlice]
      omega
  | pop =>
      rw [perform, size_pop (size_ne_zero_of_not_empty hop)]
      omega
  | clear =>
      rw [perform, clear_eq_new, size_new]
      exact Nat.zero_le 16

lemma isQueue_of_accounts {f : Fifo} {log : Log U8} (hsize : f.size ≤ 16)
    (h : log.Accounts f.toList) : f.IsQueue log := by
  have hcount : log.count = f.size := by rw [h.count_eq, length_toList]
  refine ⟨h.popped_prefix, f.write_lt, f.read_lt, ?_, ?_, ?_, ?_⟩
  · rw [toNat_len, hcount]
  · rw [toNat_len]
    exact hsize
  · rw [isEmpty_iff, hcount]
  · rw [isFull_iff, hcount]

/-- The FIFO is a queue after every operation of a run. -/
theorem along_isQueue {ops : List (Op U8)}
    (hops : Run.Steps (logged perform) (fun s op => s.1.Allowed op) (new, Log.empty) ops) :
    Run.Along (logged perform) (fun s => s.1.IsQueue s.2) (new, Log.empty) ops := by
  have hnew : new.size ≤ 16 := by
    rw [size_new]
    exact Nat.zero_le 16
  have hlog : Log.empty.Accounts new.toList := by
    rw [toList_new]
    exact Log.accounts_empty
  have haccounts := Queue.along_accounts (I := fun f : Fifo => f.size ≤ 16) (C := Allowed)
    (fun _ _ hsize hop => size_perform hsize hop) (fun _ _ hsize hop => act_toList hsize hop) hnew
    hlog hops
  exact haccounts.mono fun s hs => isQueue_of_accounts hs.1 hs.2

/-- The FIFO is filled, and the indices go round. -/
def refills : List (Op U8) :=
  [.pushSlice (List.replicate 16 0x19), .pop, .push 0x20, .pop, .push 0x21, .clear, .push 0x22,
    .pop]

/-- Each of these operations is allowed. -/
theorem along_isQueue_refills :
    Run.Steps (logged perform) (fun s op => s.1.Allowed op) (new, Log.empty) refills
      ∧ Run.Along (logged perform) (fun s => s.1.IsQueue s.2) (new, Log.empty) refills :=
  ⟨by decide, along_isQueue (by decide)⟩

end Fifo

end Rustation
