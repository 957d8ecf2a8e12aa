import Rustation.Mdec.Uploads

/-!
The parameter count in the status register of the motion decoder.

Bits [15:0] of the status word are documented as the number of outstanding parameter words minus
one, and bit 29 says that a command is pending.

* `outstanding`: the number of parameter words that a list of writes leaves to be written;
* `Expecting`: how the decoder keeps it, with `write_expecting` for one write and `run_expecting`
  for a run;
* `status_low`, `status_pending`: the two fields of the status word;
* `status_counts_iff`: the count is right in the middle of an upload, and only there: a decoder that
  waits for a command already counts the command word.
-/

namespace Rustation

open Fallible

namespace MDec

/-! ### Outstanding parameters -/

/-- The number of parameter words that follow a command word. -/
def parameters (cmd : U32) : ℕ := ((Table.ofCommand cmd).map Table.length).getD 0

/-- The number of outstanding words after one more word. -/
def receive (n : ℕ) (w : U32) : ℕ :=
  match n with
  | 0 => parameters w
  | n + 1 => n

def expect (n : ℕ) : Write → ℕ
  | .cpu w => receive n w
  | .dma w => receive n w
  | .control val => if Resets val then 0 else n

/-- The number of parameter words that the writes leave outstanding. -/
def outstanding (as : List Write) : ℕ := as.foldl expect 0

/-- The decoder expects `n` more words of a table. -/
def Expecting (n : ℕ) (m : MDec) : Prop :=
  n = 0 ∧ m.Idle ∨ ∃ t ws base, Progress t ws base m ∧ ws.length + n = t.length ∧ 0 < n

variable {m : MDec} {n : ℕ}

lemma Table.length_pos (t : Table) : 0 < t.length := by
  cases t <;> decide

lemma command_expecting (h : Expecting n m) (w : U32) :
    ∃ m', m.command w = .ok m' ∧ Expecting (receive n w) m' := by
  rcases h with ⟨rfl, h⟩ | ⟨t, ws, base, h, hlen, hpos⟩
  · rw [receive, parameters]
    cases ht : Table.ofCommand w with
    | none =>
        obtain ⟨m', hcommand, hidle, -⟩ := command_ignored h ht
        exact ⟨m', hcommand, .inl ⟨rfl, hidle⟩⟩
    | some t =>
        obtain ⟨m', hcommand, h'⟩ := command_starts h ht
        exact ⟨m', hcommand, .inr ⟨t, [], m, h', Nat.zero_add _, t.length_pos⟩⟩
  · obtain ⟨k, rfl⟩ : ∃ k, n = k + 1 := ⟨n - 1, by omega⟩
    obtain ⟨m', hcommand, h'⟩ := command_progress h (by omega) w
    have hlen' : (ws ++ [w]).length + k = t.length := by
      rw [List.length_append, List.length_singleton]
      omega
    refine ⟨m', hcommand, ?_⟩
    cases k with
    | zero => exact .inl ⟨rfl, h'.done hlen'⟩
    | succ k => exact .inr ⟨t, _, base, h', hlen', Nat.succ_pos k⟩

lemma setControl_expecting (h : Expecting n m) (val : U32) :
    Expecting (if Resets val then 0 else n) (m.setControl val) := by
  by_cases hval : Resets val
  · rw [if_pos hval]
    exact .inl ⟨rfl, setControl_reset hval⟩
  · rw [if_neg hval]
    rcases h with ⟨rfl, h⟩ | ⟨t, ws, base, h, hlen⟩
    · obtain ⟨hhandler, hremaining⟩ := setControl_of_not_reset (m := m) hval
      exact .inl ⟨rfl, hhandler.trans h.handler, hremaining.trans h.remaining⟩
    · exact .inr ⟨t, ws, base, h.setControl hval, hlen⟩

/-- The step lemma. -/
lemma write_expecting (h : Expecting n m) (a : Write) :
    ∃ m', m.write a = .ok m' ∧ Expecting (expect n a) m' := by
  cases a with
  | cpu w => exact command_expecting h w
  | dma w => exact command_expecting h w
  | control val => exact ⟨m.setControl val, rfl, setControl_expecting h val⟩

/-- The run lemma: no write is refused, and the decoder keeps the count of the writes. -/
lemma run_expecting (h : Expecting n m) (as : List Write) :
    ∃ m', as.foldlM write m = .ok m' ∧ Expecting (as.foldl expect n) m' := by
  induction as generalizing n m with
  | nil => exact ⟨m, rfl, h⟩
  | cons a as ih =>
      obtain ⟨m₁, hwrite, h₁⟩ := write_expecting h a
      rw [List.foldlM_cons, hwrite, ok_bind]
      exact ih h₁

lemma expecting_new : Expecting 0 new := .inl ⟨rfl, rfl, rfl⟩

/-! ### The status word -/

/-- What is shifted above the low half is not in it. -/
lemma setWidth_shiftLeft_high (x : U32) {k : ℕ} (hk : 16 ≤ k) : (x <<< k).setWidth 16 = 0#16 := by
  ext i hi
  simp [show i < k by omega]

lemma status_low (m : MDec) : m.status.setWidth 16 = m.commandRemaining - 1 := by
  have hfull : BitVec.setWidth 16 ((0 <<< 30 : ℕ) : U32) = 0#16 := rfl
  have hempty : BitVec.setWidth 16 ((1 <<< 31 : ℕ) : U32) = 0#16 := rfl
  simp only [status, flag, BitVec.setWidth_or, hfull, hempty]
  rw [setWidth_shiftLeft_high _ (by decide : 16 ≤ 23),
    setWidth_shiftLeft_high _ (by decide : 16 ≤ 24),
    setWidth_shiftLeft_high _ (by decide : 16 ≤ 25),
    setWidth_shiftLeft_high _ (by decide : 16 ≤ 29)]
  simp

lemma status_pending (m : MDec) :
    m.status.getLsbD 29 = (m.commandHandler != .handleCommand) := by
  have hdepth : m.outputDepth.value[4] = false := by
    cases m.outputDepth <;> rfl
  simp [status, flag, hdepth]

/-- The status word gives the number `n` of outstanding parameter words: less one in its low
half, and whether there are any in bit 29. -/
def Counts (m : MDec) (n : ℕ) : Prop :=
  m.status.setWidth 16 = BitVec.ofNat 16 n - 1#16 ∧ (m.status.getLsbD 29 = true ↔ 0 < n)

instance (m : MDec) (n : ℕ) : Decidable (Counts m n) := inferInstanceAs (Decidable (_ ∧ _))

/-- A pending command is seen in bit 29, whatever the count says. -/
lemma Expecting.pending (h : Expecting n m) : m.status.getLsbD 29 = true ↔ 0 < n := by
  rw [status_pending, bne_iff_ne]
  rcases h with ⟨rfl, h⟩ | ⟨t, ws, base, h, hlen, hpos⟩
  · exact ⟨fun hne => absurd h.handler hne, fun hlt => absurd hlt (Nat.lt_irrefl 0)⟩
  · rw [(h.pending (by omega)).1]
    exact ⟨fun _ => hpos, fun _ => t.handler_ne⟩

lemma Expecting.counts_iff (h : Expecting n m) : Counts m n ↔ 0 < n := by
  have hpending := h.pending
  rw [Counts, status_low]
  rcases h with ⟨rfl, h⟩ | ⟨t, ws, base, h, hlen, hpos⟩
  · rw [h.remaining]
    exact ⟨fun hcounts => absurd hcounts.1 (by decide), fun hlt => absurd hlt (Nat.lt_irrefl 0)⟩
  · have hremaining : m.commandRemaining = BitVec.ofNat 16 n := by
      have hleft := (h.pending (by omega)).2
      rw [show n = m.commandRemaining.toNat by omega, BitVec.ofNat_toNat, BitVec.setWidth_eq]
    rw [hremaining]
    exact ⟨fun _ => hpos, fun _ => ⟨rfl, hpending⟩⟩

/-- **The status word counts parameters during uploads only.**  Every list of writes is accepted
from power-on, and leaves a status word with the right count exactly when parameters are
outstanding. -/
theorem status_counts_iff (as : List Write) :
    ∃ m, as.foldlM write new = .ok m ∧ (Counts m (outstanding as) ↔ 0 < outstanding as) := by
  obtain ⟨m, hrun, h⟩ := run_expecting expecting_new as
  exact ⟨m, hrun, h.counts_iff⟩

/-- At power-on the low half reads 0 instead of 0xffff. -/
theorem status_not_counts :
    ¬ ∀ as m, as.foldlM write new = .ok m → Counts m (outstanding as) := by
  intro h
  exact absurd (h [] new rfl) (by decide)

end MDec

end Rustation
