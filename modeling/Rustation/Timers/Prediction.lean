import Rustation.Timers.Target

/-!
The date that a timer asks to be called back at.

A timer that waits for its target predicts the date in closed form, from the remaining
ticks, the period and the phase.  `sync` finds out about the target by dividing the
elapsed time by the period.

* `remaining`: the time until the tick that leaves the target, in the fixed point
  format; `nextSyncDelta_toNat` says that the prediction is that time rounded up;
* `passes_iff`: the ticks of an interval go past the target exactly when the interval
  is not shorter than the prediction;
* `Pending.before`: a synchronisation that comes before the date leaves the date where
  it is, and `Pending.run` the same for any number of them;
* `prediction_exact`: the callback is neither early nor late, however the time before
  it is cut.
-/

namespace Rustation

open Fallible

namespace Timer

variable {t : Timer} {sh : SharedState}

/-! ### The prediction -/

/-- A timer below its target with the interrupt enabled, in a mode that `setMode`
accepts. -/
structure Waiting (t : Timer) : Prop where
  targetIrq : t.targetIrq = true
  wrapIrq : t.wrapIrq = false
  negateIrq : t.negateIrq = false
  phase_lt : t.phase.fp.toNat < t.period.fp.toNat
  counter_le : t.counter ≤ t.target

/-- The periods from the start of the current one to the tick that leaves the target. -/
def span (t : Timer) : ℕ := t.period.fp.toNat * (t.target.toNat - t.counter.toNat + 1)

/-- The time until that tick. -/
def remaining (t : Timer) : ℕ := t.span - t.phase.fp.toNat

/-- The periods fit the fixed point format, and still do when they are rounded up. -/
def Representable (t : Timer) : Prop := t.span + 0xffff < 2 ^ 64

lemma target_lt_modulus (t : Timer) : t.target.toNat < t.modulus := by
  have htarget := t.target.isLt
  rw [modulus]
  split_ifs <;> omega

section Prediction

variable (hw : t.Waiting) (hrep : t.Representable)

include hw

lemma Waiting.phase_lt_span : t.phase.fp.toNat < t.span :=
  hw.phase_lt.trans_le (Nat.le_mul_of_pos_right _ (Nat.succ_pos _))

/-- The ticks of an interval go past the target when the interval is as long as the remaining
time. -/
lemma Waiting.passes_iff (c : ℕ) :
    t.target.toNat < t.counter.toNat + t.ticksIn c ↔ t.remaining ≤ 65536 * c := by
  have hle : t.counter.toNat ≤ t.target.toNat := hw.counter_le
  have hpos : 0 < t.period.fp.toNat := lt_of_le_of_lt (Nat.zero_le _) hw.phase_lt
  have hticks : t.target.toNat - t.counter.toNat + 1 ≤ t.ticksIn c ↔ t.span ≤ t.elapsedFp c := by
    rw [ticksIn, Nat.le_div_iff_mul_le hpos, Nat.mul_comm, span]
  rw [elapsedFp] at hticks
  rw [remaining]
  omega

include hrep

/-- The prediction is the remaining time, rounded up to whole cycles. -/
lemma Waiting.nextSyncDelta_toNat : t.nextSyncDelta.toNat = (t.remaining + 0xffff) / 65536 := by
  have hle : t.counter.toNat ≤ t.target.toNat := hw.counter_le
  have htarget := t.target.isLt
  have hphase := hw.phase_lt_span
  rw [Representable] at hrep
  have hcountdown : ((t.target - t.counter).setWidth 64 + 1 : Cycles).toNat =
      t.target.toNat - t.counter.toNat + 1 := by
    rw [BitVec.toNat_add, BitVec.toNat_setWidth, BitVec.toNat_sub_of_le hw.counter_le]
    simp
    omega
  have hprod : (t.period.fp * ((t.target - t.counter).setWidth 64 + 1)).toNat = t.span := by
    rw [BitVec.toNat_mul, hcountdown]
    exact Nat.mod_eq_of_lt (by rw [span] at hrep; omega)
  have hdiff : (t.period.fp * ((t.target - t.counter).setWidth 64 + 1) - t.phase.fp).toNat =
      t.remaining := by
    rw [BitVec.toNat_sub_of_le (by rw [BitVec.le_def, hprod]; exact hphase.le), hprod, remaining]
  have hround : ((1#64 <<< FracCycles.fracBits) - 1 : Cycles).toNat = 0xffff := by decide
  have hlt : t.remaining ≤ t.span := Nat.sub_le _ _
  simp only [nextSyncDelta, if_pos hw.counter_le, FracCycles.ceil, FracCycles.fromFp]
  rw [BitVec.toNat_shift, BitVec.toNat_add, hdiff, hround, Nat.mod_eq_of_lt (by omega)]
  rfl

/-- An interval is shorter than the prediction exactly when its ticks do not go past the
target. -/
lemma Waiting.lt_nextSyncDelta_iff (c : ℕ) :
    c < t.nextSyncDelta.toNat ↔ 65536 * c < t.remaining := by
  rw [hw.nextSyncDelta_toNat hrep]
  omega

end Prediction

/-! ### Synchronisations -/

/-- A synchronisation that moves the timer schedules the next one. -/
lemma sync_schedules {r : Timer × SharedState} (h : t.sync sh = .ok r) (hne : t.elapsed sh ≠ 0)
    (hirq : r.1.targetIrq = true) :
    (r.2.tk.timesheets r.1.inst.peripheral).nextSync = r.2.tk.now + r.1.nextSyncDelta := by
  obtain ⟨u, e, v, irq, -, -, rfl⟩ := sync_parts h hne
  dsimp only at hirq ⊢
  rw [predictNextSync, hirq]
  simp only [Bool.not_true, Bool.false_eq_true, if_false, TimeKeeper.setNextSyncDelta,
    TimeKeeper.setSheet_self, TimeKeeper.setSheet_now, TimeSheet.setNextSync]

/-- The timer `i` waits for the date that it was scheduled for, and has detected nothing since
it had the flag `reached` and the interrupts were `irq`. -/
structure Pending (i : TimerId) (date : Cycles) (reached : Bool) (irq : InterruptState)
    (s : Timer × SharedState) : Prop where
  inst_eq : s.1.inst = i
  waiting : s.1.Waiting
  representable : s.1.Representable
  synced : (s.2.tk.timesheets i.peripheral).lastSync = s.2.tk.now
  scheduled : (s.2.tk.timesheets i.peripheral).nextSync = date
  due : s.2.tk.now + s.1.nextSyncDelta = date
  unreached : s.1.targetReached = reached
  quiet : s.2.irqState = irq

/-- Let some cycles pass and synchronise the timer. -/
def syncAfter (s : Timer × SharedState) (c : Cycles) : Outcome (Timer × SharedState) :=
  s.1.sync (s.2.tick c)

/-- The length of some intervals together. -/
def total (cs : List Cycles) : ℕ := (cs.map BitVec.toNat).sum

lemma total_cons (c : Cycles) (cs : List Cycles) : total (c :: cs) = c.toNat + total cs := by
  rw [total, List.map_cons, List.sum_cons, total]

namespace Pending

variable {i : TimerId} {date : Cycles} {reached : Bool} {irq : InterruptState}
  {s : Timer × SharedState} (hs : Pending i date reached irq s)

include hs

lemma elapsed (c : Cycles) : s.1.elapsed (s.2.tick c) = c :=
  elapsed_visit (hs.inst_eq ▸ hs.synced) c

/-- A synchronisation at once leaves the date where it is. -/
lemma sync_zero : ∃ s', syncAfter s 0 = .ok s' ∧ Pending i date reached irq s' ∧
    s'.1.nextSyncDelta = s.1.nextSyncDelta := by
  refine ⟨_, sync_of_elapsed_zero (hs.elapsed 0), ?_, rfl⟩
  have hnow : s.2.tk.now + 0 = s.2.tk.now := BitVec.add_zero _
  refine ⟨hs.inst_eq, hs.waiting, hs.representable, ?_, ?_, ?_, hs.unreached, hs.quiet⟩
  · simp [TimeKeeper.sync, TimeSheet.sync, hs.inst_eq]
  · simp [TimeKeeper.sync, TimeSheet.sync, hs.inst_eq, SharedState.tick, TimeKeeper.tick,
      hs.scheduled]
  · exact (congrArg (· + s.1.nextSyncDelta) hnow).trans hs.due

/-- The time that remains after a synchronisation before the date. -/
lemma remaining_sub {t' : Timer} {c : ℕ} (hc : 65536 * c < s.1.remaining)
    (hperiod : t'.period = s.1.period) (htarget : t'.target = s.1.target)
    (hcounter : t'.counter.toNat = s.1.counter.toNat + s.1.ticksIn c)
    (hphase : t'.phase.fp.toNat = s.1.elapsedFp c % s.1.period.fp.toNat) :
    t'.counter ≤ t'.target ∧ t'.span ≤ s.1.span ∧ t'.remaining = s.1.remaining - 65536 * c := by
  have hpasses := hs.waiting.passes_iff c
  have hsplit := Nat.div_add_mod (s.1.elapsedFp c) s.1.period.fp.toNat
  rw [← hphase, ← ticksIn, elapsedFp] at hsplit
  have hle : t'.counter.toNat ≤ t'.target.toNat := by
    rw [htarget, hcounter]
    omega
  have hspan : t'.span = s.1.span - s.1.period.fp.toNat * s.1.ticksIn c := by
    rw [span, span, hperiod, htarget, hcounter, ← Nat.mul_sub]
    congr 1
    rw [htarget, hcounter] at hle
    omega
  refine ⟨hle, by omega, ?_⟩
  rw [remaining] at hc ⊢
  rw [hspan, remaining]
  omega

/-- Before the date. -/
lemma before {c : Cycles} (hc : c < s.1.nextSyncDelta) :
    ∃ s', syncAfter s c = .ok s' ∧ Pending i date reached irq s' ∧
      s'.1.nextSyncDelta = s.1.nextSyncDelta - c := by
  by_cases hzero : c = 0
  · subst hzero
    obtain ⟨s', hrun, hs', hdelta⟩ := hs.sync_zero
    exact ⟨s', hrun, hs', hdelta.trans (BitVec.sub_zero _).symm⟩
  have helapsed := hs.elapsed c
  have hrem := (hs.waiting.lt_nextSyncDelta_iff hs.representable c.toNat).mp hc
  have hphase := hs.waiting.phase_lt_span
  have hfit : s.1.Fits c.toNat := by
    have hrep := hs.representable
    rw [Representable] at hrep
    rw [remaining] at hrem
    rw [Fits, elapsedFp]
    omega
  obtain ⟨r, e, hr, hsynced, hpassed, hover⟩ := sync_spec hs.waiting.negateIrq hs.waiting.phase_lt
    (by rwa [helapsed]) (by rwa [helapsed])
  rw [helapsed, hs.waiting.passes_iff] at hpassed
  have hmiss : e.targetPassed = false := by
    rw [Bool.eq_false_iff]
    exact fun h => absurd (hpassed.mp h).2 (by omega)
  -- the counter does not wrap before the target
  have hcounter : r.1.counter.toNat = s.1.counter.toNat + s.1.ticksIn c.toNat := by
    have hpasses := hs.waiting.passes_iff c.toNat
    have hmod := s.1.target_lt_modulus
    rw [hsynced.counter, helapsed]
    exact Nat.mod_eq_of_lt (by omega)
  have hcfg : r.1.inst = s.1.inst ∧ r.1.period = s.1.period ∧ r.1.target = s.1.target ∧
      r.1.targetIrq = true ∧ r.1.wrapIrq = false ∧ r.1.negateIrq = false ∧
      r.1.targetReached = s.1.targetReached := by
    rw [hsynced.rest]
    exact ⟨rfl, rfl, rfl, hs.waiting.targetIrq, hs.waiting.wrapIrq, hs.waiting.negateIrq,
      by rw [hmiss, Bool.or_false]⟩
  obtain ⟨hinst, hperiod, htarget, hirq, hwrap, hneg, hreached⟩ := hcfg
  have hphase' := hsynced.phase
  rw [helapsed] at hphase'
  obtain ⟨hle, hspan, hremaining⟩ := hs.remaining_sub hrem hperiod htarget hcounter hphase'
  have hw : r.1.Waiting := by
    refine ⟨hirq, hwrap, hneg, ?_, hle⟩
    rw [hphase', hperiod]
    exact Nat.mod_lt _ (lt_of_le_of_lt (Nat.zero_le _) hs.waiting.phase_lt)
  have hrep : r.1.Representable := lt_of_le_of_lt (Nat.add_le_add_right hspan _) hs.representable
  have hdelta : r.1.nextSyncDelta = s.1.nextSyncDelta - c := by
    apply BitVec.eq_of_toNat_eq
    rw [BitVec.toNat_sub_of_le (Nat.le_of_lt hc), hw.nextSyncDelta_toNat hrep,
      hs.waiting.nextSyncDelta_toNat hs.representable, hremaining]
    omega
  have hnow : r.2.tk.now = s.2.tk.now + c := hsynced.now
  have hdue : r.2.tk.now + r.1.nextSyncDelta = date := by
    rw [hnow, hdelta, BitVec.add_assoc, BitVec.add_comm c, BitVec.sub_add_cancel, hs.due]
  have hsheet := sync_schedules hr (by rwa [helapsed]) hirq
  rw [hinst, hs.inst_eq] at hsheet
  refine ⟨r, hr, ⟨hinst.trans hs.inst_eq, hw, hrep, ?_, hsheet.trans hdue, hdue,
    hreached.trans hs.unreached, ?_⟩, hdelta⟩
  · rw [hnow, ← hs.inst_eq]
    exact hsynced.lastSync
  · rw [hsynced.irqState, hmiss, hs.waiting.wrapIrq, Bool.and_false, Bool.false_and, Bool.or_self]
    exact hs.quiet

/-- From the date on. -/
lemma after {c : Cycles} (hc : s.1.nextSyncDelta ≤ c) (hfit : s.1.Fits c.toNat) :
    ∃ s', syncAfter s c = .ok s' ∧ s'.2.irqState = irq.assert i.interrupt ∧
      s'.1.targetReached = true := by
  have helapsed := hs.elapsed c
  have hle : s.1.nextSyncDelta.toNat ≤ c.toNat := hc
  have hiff (c : ℕ) := hs.waiting.lt_nextSyncDelta_iff hs.representable c
  have hne : s.1.elapsed (s.2.tick c) ≠ 0 := by
    rw [helapsed]
    rintro rfl
    have hpos : 0 < s.1.nextSyncDelta.toNat :=
      (hiff 0).mpr (Nat.sub_pos_of_lt hs.waiting.phase_lt_span)
    exact absurd hle (Nat.not_le.mpr hpos)
  obtain ⟨r, e, hr, hsynced, hpassed, -⟩ := sync_spec hs.waiting.negateIrq hs.waiting.phase_lt
    (by rwa [helapsed]) hne
  rw [helapsed, hs.waiting.passes_iff] at hpassed
  have hlt := hiff c.toNat
  have htrue : e.targetPassed = true := hpassed.mpr ⟨hs.waiting.counter_le, by omega⟩
  refine ⟨r, hr, ?_, ?_⟩
  · rw [hsynced.irqState, htrue, hs.waiting.targetIrq, hs.inst_eq, SharedState.tick_irqState,
      hs.quiet, Bool.and_self, Bool.or_true, if_pos rfl]
  · rw [hsynced.rest, htrue]
    exact Bool.or_true _

/-- Any number of synchronisations before the date. -/
lemma run {cs : List Cycles} (hcs : total cs < s.1.nextSyncDelta.toNat) :
    ∃ s', cs.foldlM syncAfter s = .ok s' ∧ Pending i date reached irq s' ∧
      s'.1.nextSyncDelta.toNat = s.1.nextSyncDelta.toNat - total cs := by
  induction cs generalizing s with
  | nil => exact ⟨s, rfl, hs, rfl⟩
  | cons c cs ih =>
      rw [total_cons] at hcs
      obtain ⟨s1, hrun, hs1, hdelta⟩ := hs.before (c := c) (by rw [BitVec.lt_def]; omega)
      have hnat : s1.1.nextSyncDelta.toNat = s.1.nextSyncDelta.toNat - c.toNat := by
        rw [hdelta, BitVec.toNat_sub_of_le (by rw [BitVec.le_def]; omega)]
      obtain ⟨s', hruns, hs', htotal⟩ := ih hs1 (by omega)
      refine ⟨s', ?_, hs', by rw [total_cons]; omega⟩
      rw [List.foldlM_cons, hrun, ok_bind, hruns]

end Pending

/-- **The callback is neither early nor late.**  Within the range of the fixed point format a
timer below its target is scheduled `nextSyncDelta` cycles ahead; however that time is cut by
synchronisations, none of them detects the target and each leaves the timer scheduled for the
same date, and a synchronisation at that date or after it detects the target. -/
theorem prediction_exact (hw : t.Waiting) (hrep : t.Representable)
    (hsync : (sh.tk.timesheets t.inst.peripheral).lastSync = sh.tk.now) (cs : List Cycles)
    (hcs : total cs < t.nextSyncDelta.toNat) :
    ∃ t' sh', cs.foldlM syncAfter (t, t.predictNextSync sh) = .ok (t', sh') ∧
      sh'.irqState = sh.irqState ∧ t'.targetReached = t.targetReached ∧
      t'.nextSyncDelta.toNat = t.nextSyncDelta.toNat - total cs ∧
      (sh'.tk.timesheets t.inst.peripheral).nextSync = sh'.tk.now + t'.nextSyncDelta ∧
      (sh'.tk.timesheets t.inst.peripheral).nextSync = sh.tk.now + t.nextSyncDelta ∧
      ∀ c : Cycles, t.nextSyncDelta.toNat ≤ total cs + c.toNat → t'.Fits c.toNat →
        ∃ t'' sh'', syncAfter (t', sh') c = .ok (t'', sh'') ∧
          sh''.irqState = sh.irqState.assert t.inst.interrupt ∧ t''.targetReached = true := by
  have hpending : Pending t.inst (sh.tk.now + t.nextSyncDelta) t.targetReached sh.irqState
      (t, t.predictNextSync sh) := by
    obtain ⟨hirq, hnow, hlast⟩ := predictNextSync_frame t sh
    refine ⟨rfl, hw, hrep, ?_, ?_, by rw [hnow], rfl, hirq⟩
    · rw [hlast, hnow, hsync]
    · rw [predictNextSync, hw.targetIrq]
      simp only [Bool.not_true, Bool.false_eq_true, if_false, TimeKeeper.setNextSyncDelta,
        TimeKeeper.setSheet_self, TimeSheet.setNextSync]
  obtain ⟨⟨t', sh'⟩, hrun, hs', hdelta⟩ := hpending.run hcs
  dsimp only at hdelta
  refine ⟨t', sh', hrun, hs'.quiet, hs'.unreached, hdelta, hs'.scheduled.trans hs'.due.symm,
    hs'.scheduled, fun c hc hfit => ?_⟩
  have hle : t'.nextSyncDelta.toNat ≤ c.toNat := by omega
  obtain ⟨⟨t'', sh''⟩, hlast, hirq, hreached⟩ := hs'.after hle hfit
  exact ⟨t'', sh'', hlast, hirq, hreached⟩

lemma alarm_waiting : (alarm 0).Waiting :=
  ⟨rfl, rfl, rfl, (alarm_armed 0).phase_lt, by decide⟩

/-- Two early synchronisations and a late one. -/
theorem prediction_exact_alarm : (alarm 0).nextSyncDelta = 11 ∧
    ∃ t sh, [4, 6].foldlM syncAfter (alarm 0, (alarm 0).predictNextSync SharedState.new) =
      .ok (t, sh) ∧ sh.irqState = .new ∧ t.nextSyncDelta.toNat = 1 ∧
      ∃ t' sh', syncAfter (t, sh) 3 = .ok (t', sh') ∧
        sh'.irqState = InterruptState.new.assert .timer2 := by
  have hdelta : (alarm 0).nextSyncDelta = 11 := by decide
  have hsync : (SharedState.new.tk.timesheets (alarm 0).inst.peripheral).lastSync
      = SharedState.new.tk.now := rfl
  obtain ⟨t, sh, hrun, hirq, -, hnext, -, -, hafter⟩ := prediction_exact alarm_waiting
    (by rw [Representable]; decide) hsync [4, 6] (by decide)
  have hphase : ([4, 6].foldlM syncAfter (alarm 0, (alarm 0).predictNextSync SharedState.new) >>=
      fun s => pure s.1.phase.fp) = .ok 0 := by decide +kernel
  rw [hrun, ok_bind] at hphase
  have hfit : t.Fits 3 := by
    rw [Fits, elapsedFp, Except.ok.inj hphase]
    decide
  obtain ⟨t', sh', hlast, hassert, -⟩ := hafter 3 (by decide) hfit
  exact ⟨hdelta, t, sh, hrun, hirq, hnext, t', sh', hlast, hassert⟩

/-- An interval too long for the format is taken for none: its high bits are shifted out. -/
theorem prediction_late : (alarm 0).Waiting ∧ (alarm 0).Representable ∧
    ¬∀ c : Cycles, (alarm 0).nextSyncDelta ≤ c →
      ∃ s, syncAfter (alarm 0, (alarm 0).predictNextSync SharedState.new) c = .ok s ∧
        s.2.irqState = InterruptState.new.assert .timer2 ∧ s.1.targetReached = true := by
  refine ⟨alarm_waiting, by rw [Representable]; decide, fun h => ?_⟩
  obtain ⟨s, hs, -, hreached⟩ := h 0x1000000000000 (by decide)
  have hmiss : (syncAfter (alarm 0, (alarm 0).predictNextSync SharedState.new) 0x1000000000000 >>=
      fun s => pure s.1.targetReached) = .ok false := by decide +kernel
  rw [hs, ok_bind, hreached] at hmiss
  cases hmiss

end Timer

end Rustation
