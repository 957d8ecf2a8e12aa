import Rustation.Timers.Ticking

/-!
Whether a timer misses its target.

A timer with its target interrupt enabled and a counter that goes to 0xffff is
synchronised at arbitrary dates.  What should happen is read off a counter that
ticks from the start of the run on: `ticksAt` numbers its ticks, and an interval
`Crosses` the target when one of its ticks leaves the target value.

* `asserts_iff`, `setsTarget_iff`: what `sync` detects;
* `crosses_iff`: what the ticks do, for an interval shorter than a full turn of
  the counter;
* `Tracks`: along a run the counter and the phase are those of the ticks;
* `Covered`: an interval does not start above the target and go on past it in
  the next turn, which `sync` cannot tell from one that stays short of it;
* `target_run_iff`: every interval of a run is detected as it should be exactly
  when every interval is covered.
-/

namespace Rustation

open Fallible

namespace Timer

variable {t : Timer} {sh : SharedState}

/-! ### Detection -/

/-- The target interrupt is enabled in a mode that `setMode` accepts, and the
counter goes on to 0xffff. -/
structure Armed (t : Timer) : Prop where
  accepted : t.Accepted
  targetIrq : t.targetIrq = true
  targetWrap : t.targetWrap = false
  phase_lt : t.phase.fp.toNat < t.period.fp.toNat

/-- The synchronisation asserts the interrupt of the timer, seen on a controller
with nothing asserted. -/
def Asserts (t : Timer) (sh : SharedState) : Prop :=
  ∃ r, t.sync { sh with irqState := .new } = .ok r
    ∧ r.2.irqState = InterruptState.new.assert t.inst.interrupt

/-- The synchronisation sets the target flag, seen on a timer that has it
cleared. -/
def SetsTarget (t : Timer) (sh : SharedState) : Prop :=
  ∃ r, ({ t with targetReached := false } : Timer).sync sh = .ok r ∧ r.1.targetReached = true

section Detection

variable (harm : t.Armed) (hfit : t.Fits (t.elapsed sh).toNat)

include harm

lemma ticksIn_of_elapsed_zero (h : t.elapsed sh = 0) : t.ticksIn (t.elapsed sh).toNat = 0 := by
  have hfp : t.elapsedFp (t.elapsed sh).toNat = t.phase.fp.toNat := by simp [elapsedFp, h]
  rw [ticksIn, hfp, Nat.div_eq_of_lt harm.phase_lt]

include hfit

lemma asserts_iff :
    t.Asserts sh ↔ t.counter.toNat ≤ t.target.toNat
      ∧ t.target.toNat < t.counter.toNat + t.ticksIn (t.elapsed sh).toNat := by
  have hne_new : InterruptState.new ≠ InterruptState.new.assert t.inst.interrupt := by
    cases t.inst <;> decide
  by_cases hzero : t.elapsed sh = 0
  · have hsame : t.elapsed { sh with irqState := .new } = 0 := hzero
    rw [ticksIn_of_elapsed_zero harm hzero, Asserts, sync_of_elapsed_zero hsame]
    constructor
    · rintro ⟨r, hr, hirq⟩
      injection hr with hr
      rw [← hr] at hirq
      exact absurd hirq hne_new
    · intro h
      omega
  · obtain ⟨r, e, hr, hs, hpassed, -⟩ := @sync_spec t { sh with irqState := .new }
      harm.accepted.negateIrq harm.phase_lt hfit hzero
    have hirq := hs.irqState
    rw [harm.accepted.wrapIrq, harm.targetIrq, Bool.false_and, Bool.false_or, Bool.true_and] at hirq
    have hsame : t.elapsed { sh with irqState := .new } = t.elapsed sh := rfl
    rw [hsame] at hpassed
    rw [← hpassed, Asserts]
    constructor
    · rintro ⟨r', hr', hirq'⟩
      rw [hr] at hr'
      injection hr' with hr'
      rw [← hr', hirq] at hirq'
      by_contra hno
      rw [if_neg hno] at hirq'
      exact hne_new hirq'
    · exact fun h => ⟨r, hr, by rw [hirq, if_pos h]⟩

lemma setsTarget_iff :
    t.SetsTarget sh ↔ t.counter.toNat ≤ t.target.toNat
      ∧ t.target.toNat < t.counter.toNat + t.ticksIn (t.elapsed sh).toNat := by
  by_cases hzero : t.elapsed sh = 0
  · have hsame : ({ t with targetReached := false } : Timer).elapsed sh = 0 := hzero
    rw [ticksIn_of_elapsed_zero harm hzero, SetsTarget, sync_of_elapsed_zero hsame]
    constructor
    · rintro ⟨r, hr, hflag⟩
      injection hr with hr
      rw [← hr] at hflag
      exact absurd hflag Bool.false_ne_true
    · intro h
      omega
  · obtain ⟨r, e, hr, hs, hpassed, -⟩ := sync_spec (t := { t with targetReached := false })
      harm.accepted.negateIrq harm.phase_lt hfit hzero
    have hflag : r.1.targetReached = e.targetPassed := by
      rw [hs.rest]
      exact Bool.false_or _
    rw [SetsTarget]
    constructor
    · rintro ⟨r', hr', hset⟩
      rw [hr] at hr'
      injection hr' with hr'
      exact hpassed.mp (by rw [← hflag, hr']; exact hset)
    · exact fun h => ⟨r, hr, by rw [hflag]; exact hpassed.mpr h⟩

end Detection

/-! ### The ticks of a run -/

/-- The number of ticks of a timer in its first `time` cycles. -/
def ticksAt (t : Timer) (time : ℕ) : ℕ := t.ticksIn time

/-- Between the dates `time` and `time'` of the run of `t` a tick leaves the
target value. -/
def Crosses (t : Timer) (time time' : ℕ) : Prop :=
  ∃ k, t.ticksAt time ≤ k ∧ k < t.ticksAt time' ∧ (tick^[k] t).counter = t.target

/-- A moment of a run: the time since its start, the timer and the shared
state. -/
abbrev Moment := ℕ × Timer × SharedState

/-- A visit: cycles pass, the timer is synchronised, and its mode register is
read or not. -/
structure Visit where
  cycles : Cycles
  readsMode : Bool
  deriving DecidableEq, Repr

/-- The moment after a visit. -/
def visit (m : Moment) (v : Visit) : Moment :=
  match m.2.1.sync (m.2.2.tick v.cycles) with
  | .ok (t, sh) => (m.1 + v.cycles.toNat, if v.readsMode then t.mode.2 else t, sh)
  | .error _ => m

/-- The visit finds what the ticks of the run of `t` did: it returns, and it
asserts the interrupt and sets the flag exactly when the target was crossed. -/
def Detects (t : Timer) (m : Moment) (v : Visit) : Prop :=
  (∃ r, m.2.1.sync (m.2.2.tick v.cycles) = .ok r)
    ∧ (m.2.1.Asserts (m.2.2.tick v.cycles) ↔ t.Crosses m.1 (m.1 + v.cycles.toNat))
    ∧ (m.2.1.SetsTarget (m.2.2.tick v.cycles) ↔ t.Crosses m.1 (m.1 + v.cycles.toNat))

/-- The visit comes less than a full turn of the counter after the last one,
and the time fits the fixed point format. -/
def Short (m : Moment) (v : Visit) : Prop :=
  m.2.1.ticksIn v.cycles.toNat < 0x10000 ∧ m.2.1.Fits v.cycles.toNat

/-- The interval does not begin above the target and go on past it in the next
turn of the counter. -/
def Covered (m : Moment) (v : Visit) : Prop :=
  m.2.1.counter.toNat ≤ m.2.1.target.toNat
    ∨ m.2.1.counter.toNat + m.2.1.ticksIn v.cycles.toNat ≤ 0x10000 + m.2.1.target.toNat

/-- What a run from `t` keeps: the configuration, a synchronised time sheet, and
the counter and the phase of the ticks. -/
structure Tracks (t : Timer) (m : Moment) : Prop where
  armed : m.2.1.Armed
  target : m.2.1.target = t.target
  period : m.2.1.period = t.period
  synced : (m.2.2.tk.timesheets m.2.1.inst.peripheral).lastSync = m.2.2.tk.now
  counter : m.2.1.counter = (tick^[t.ticksAt m.1] t).counter
  phase : m.2.1.phase.fp.toNat = t.elapsedFp m.1 % t.period.fp.toNat

section Visits

variable {m : Moment} {v : Visit}

lemma modulus_of_not_wrap (h : t.targetWrap = false) : t.modulus = 0x10000 := by
  rw [modulus, h]
  rfl

/-- The counter of the ticks. -/
lemma tick_iterate_free (h : t.targetWrap = false) (n : ℕ) :
    (tick^[n] t).counter.toNat = (t.counter.toNat + n) % 0x10000 := by
  have hmod := modulus_of_not_wrap h
  rw [tick_iterate (by rw [hmod]; exact t.counter.isLt), hmod]

lemma elapsed_visit (hsync : (sh.tk.timesheets t.inst.peripheral).lastSync = sh.tk.now)
    (cycles : Cycles) : t.elapsed (sh.tick cycles) = cycles := by
  have hsum : t.elapsed (sh.tick cycles)
      = sh.tk.now + cycles - (sh.tk.timesheets t.inst.peripheral).lastSync := rfl
  rw [hsum, hsync, BitVec.add_comm, BitVec.add_sub_cancel]

variable (hm : Tracks t m)

include hm

/-- The time of the run is made of whole periods and the phase. -/
lemma Tracks.elapsedFp_add (d : ℕ) :
    t.elapsedFp (m.1 + d)
      = m.2.1.elapsedFp d + t.period.fp.toNat * (t.elapsedFp m.1 / t.period.fp.toNat) := by
  have hdiv := Nat.div_add_mod (t.elapsedFp m.1) t.period.fp.toNat
  have hphase := hm.phase
  simp only [elapsedFp] at hdiv hphase ⊢
  omega

/-- The ticks of the run up to the next date. -/
lemma Tracks.ticksAt_add (d : ℕ) : t.ticksAt (m.1 + d) = t.ticksAt m.1 + m.2.1.ticksIn d := by
  have hpos : 0 < t.period.fp.toNat := by
    have hlt := hm.armed.phase_lt
    rw [hm.period] at hlt
    omega
  rw [ticksAt, ticksIn, hm.elapsedFp_add, Nat.add_mul_div_left _ _ hpos, ticksAt, ticksIn, ticksIn,
    hm.period, Nat.add_comm]

/-- What the ticks do in an interval shorter than a full turn. -/
lemma Tracks.crosses_iff (hwrap : t.targetWrap = false) {d : ℕ}
    (hshort : m.2.1.ticksIn d < 0x10000) :
    t.Crosses m.1 (m.1 + d) ↔
      (m.2.1.counter.toNat ≤ m.2.1.target.toNat
          ∧ m.2.1.target.toNat < m.2.1.counter.toNat + m.2.1.ticksIn d)
        ∨ 0x10000 + m.2.1.target.toNat < m.2.1.counter.toNat + m.2.1.ticksIn d := by
  have hcounter := congrArg BitVec.toNat hm.counter
  rw [tick_iterate_free hwrap] at hcounter
  have htarget := m.2.1.target.isLt
  rw [Crosses, hm.ticksAt_add]
  constructor
  · rintro ⟨k, hlo, hhi, heq⟩
    have hval := congrArg BitVec.toNat heq
    rw [tick_iterate_free hwrap, ← hm.target] at hval
    omega
  · intro h
    -- the tick that leaves the target is the one that finds it there
    have hcross : ∃ j < m.2.1.ticksIn d,
        (m.2.1.counter.toNat + j) % 0x10000 = m.2.1.target.toNat := by
      rcases h with ⟨hle, hlt⟩ | hlt
      · exact ⟨m.2.1.target.toNat - m.2.1.counter.toNat, by omega, by omega⟩
      · exact ⟨0x10000 + m.2.1.target.toNat - m.2.1.counter.toNat, by omega, by omega⟩
    obtain ⟨j, hj, hjeq⟩ := hcross
    refine ⟨t.ticksAt m.1 + j, by omega, by omega, BitVec.eq_of_toNat_eq ?_⟩
    rw [tick_iterate_free hwrap, ← hm.target]
    omega

variable (hshort : Short m v)

include hshort

lemma Tracks.sync_returns :
    ∃ r, m.2.1.sync (m.2.2.tick v.cycles) = .ok r
      ∧ r.1.Armed ∧ r.1.target = m.2.1.target ∧ r.1.period = m.2.1.period
      ∧ r.1.inst = m.2.1.inst
      ∧ (r.2.tk.timesheets m.2.1.inst.peripheral).lastSync = r.2.tk.now
      ∧ r.1.counter.toNat = (m.2.1.counter.toNat + m.2.1.ticksIn v.cycles.toNat) % 0x10000
      ∧ r.1.phase.fp.toNat = m.2.1.elapsedFp v.cycles.toNat % m.2.1.period.fp.toNat := by
  have helapsed := elapsed_visit hm.synced v.cycles
  have harm := hm.armed
  by_cases hzero : m.2.1.elapsed (m.2.2.tick v.cycles) = 0
  · have hticks := ticksIn_of_elapsed_zero harm hzero
    have hcycles : v.cycles.toNat = 0 := by rw [← helapsed, hzero]; rfl
    rw [helapsed] at hticks
    refine ⟨_, sync_of_elapsed_zero hzero, harm, rfl, rfl, rfl, ?_, ?_, ?_⟩
    · simp [TimeKeeper.sync, TimeSheet.sync]
    · rw [hticks, Nat.add_zero, Nat.mod_eq_of_lt m.2.1.counter.isLt]
    · rw [elapsedFp, hcycles, Nat.mul_zero, Nat.zero_add, Nat.mod_eq_of_lt harm.phase_lt]
  · obtain ⟨r, e, hr, hs, -, -⟩ := sync_spec harm.accepted.negateIrq harm.phase_lt
      (by rw [helapsed]; exact hshort.2) hzero
    have hcounter := hs.counter
    have hphase := hs.phase
    rw [helapsed] at hcounter hphase
    rw [modulus_of_not_wrap harm.targetWrap] at hcounter
    refine ⟨r, hr, ⟨⟨?_, ?_, ?_⟩, ?_, ?_, ?_⟩, ?_, ?_, ?_, ?_, hcounter, hphase⟩
    · rw [hs.rest]
      exact harm.accepted.wrapIrq
    · rw [hs.rest]
      exact harm.accepted.negateIrq
    · rw [hs.rest]
      exact harm.accepted.repeatIrq
    · rw [hs.rest]
      exact harm.targetIrq
    · rw [hs.rest]
      exact harm.targetWrap
    · have hperiod : r.1.period = m.2.1.period := by rw [hs.rest]
      rw [hphase, hperiod]
      exact Nat.mod_lt _ (lt_of_le_of_lt (Nat.zero_le _) harm.phase_lt)
    · rw [hs.rest]
    · rw [hs.rest]
    · rw [hs.rest]
    · rw [hs.lastSync, hs.now]

/-- A visit keeps the run on track. -/
lemma Tracks.visit (hwrap : t.targetWrap = false) : Tracks t (visit m v) := by
  obtain ⟨r, hr, harm, htarget, hperiod, hinst, hsync, hcounter, hphase⟩ := hm.sync_returns hshort
  have hstart := congrArg BitVec.toNat hm.counter
  rw [tick_iterate_free hwrap] at hstart
  have hticks := hm.ticksAt_add v.cycles.toNat
  have hnext : r.1.counter = (tick^[t.ticksAt (m.1 + v.cycles.toNat)] t).counter := by
    apply BitVec.eq_of_toNat_eq
    rw [hcounter, tick_iterate_free hwrap, hticks]
    omega
  have hrest : r.1.phase.fp.toNat = t.elapsedFp (m.1 + v.cycles.toNat) % t.period.fp.toNat := by
    rw [hphase, hm.elapsedFp_add, Nat.add_mul_mod_self_left, hm.period]
  have hvisit : Timer.visit m v
      = (m.1 + v.cycles.toNat, if v.readsMode then r.1.mode.2 else r.1, r.2) := by
    rw [Timer.visit, hr]
  have hlast : (r.2.tk.timesheets r.1.inst.peripheral).lastSync = r.2.tk.now := by
    rw [hinst]
    exact hsync
  rw [hvisit]
  cases v.readsMode with
  | false =>
      exact ⟨harm, htarget.trans hm.target, hperiod.trans hm.period, hlast, hnext, hrest⟩
  | true =>
      exact ⟨⟨⟨harm.accepted.1, harm.accepted.2, harm.accepted.3⟩, harm.2, harm.3, harm.4⟩,
        htarget.trans hm.target, hperiod.trans hm.period, hlast, hnext, hrest⟩

/-- A visit finds what the ticks did exactly when its interval is covered. -/
lemma Tracks.detects_iff (hwrap : t.targetWrap = false) : Detects t m v ↔ Covered m v := by
  have helapsed := elapsed_visit hm.synced v.cycles
  have hfit : m.2.1.Fits (m.2.1.elapsed (m.2.2.tick v.cycles)).toNat := by
    rw [helapsed]
    exact hshort.2
  obtain ⟨r, hr, -⟩ := hm.sync_returns hshort
  rw [Detects, asserts_iff hm.armed hfit, setsTarget_iff hm.armed hfit,
    hm.crosses_iff hwrap hshort.1, helapsed, Covered]
  constructor
  · rintro ⟨-, hiff, -⟩
    omega
  · intro h
    exact ⟨⟨r, hr⟩, by omega, by omega⟩

end Visits

/-- **No missed target.**  In every run of visits less than a full turn apart,
each visit asserts the interrupt and sets the flag exactly when the ticks have
crossed the target since the last one, if and only if no interval begins above
the target and goes on past it in the next turn of the counter. -/
theorem target_run_iff (harm : t.Armed)
    (hsync : (sh.tk.timesheets t.inst.peripheral).lastSync = sh.tk.now) {vs : List Visit}
    (hshort : Run.Steps visit Short (0, t, sh) vs) :
    Run.Steps visit (Detects t) (0, t, sh) vs ↔ Run.Steps visit Covered (0, t, sh) vs := by
  have hzero : t.elapsedFp 0 = t.phase.fp.toNat := by simp [elapsedFp]
  refine Run.steps_congr (I := Tracks t) (fun m v hm hs => hm.visit hs harm.targetWrap)
    (fun m v hm hs => hm.detects_iff hs harm.targetWrap) ?_ hshort
  refine ⟨harm, rfl, rfl, hsync, ?_, ?_⟩
  · rw [ticksAt, ticksIn, hzero, Nat.div_eq_of_lt harm.phase_lt]
    rfl
  · rw [hzero, Nat.mod_eq_of_lt harm.phase_lt]

/-- Timer 2 on the system clock, with a target of 10 and its interrupt enabled
(mode 0x50). -/
def alarm (counter : U16) : Timer :=
  { (Timer.new .timer2).setTarget 10 with targetIrq := true, repeatIrq := true, counter := counter }

lemma alarm_armed (counter : U16) : (alarm counter).Armed where
  accepted := ⟨rfl, rfl, fun _ => rfl⟩
  targetIrq := rfl
  targetWrap := rfl
  phase_lt := by
    show (FracCycles.fromCycles 0).fp.toNat < (FracCycles.fromCycles 1).fp.toNat
    decide

/-- A run of three visits from zero: before the target, past it, and after a
read of the mode register. -/
theorem target_run_alarm :
    let vs : List Visit := [⟨8, false⟩, ⟨8, true⟩, ⟨1000, false⟩]
    Run.Steps visit Short (0, alarm 0, SharedState.new) vs
      ∧ Run.Steps visit (Detects (alarm 0)) (0, alarm 0, SharedState.new) vs := by
  intro vs
  have hshort : Run.Steps visit Short (0, alarm 0, SharedState.new) vs := by
    simp only [vs, Run.Steps, Short, Fits]
    decide
  refine ⟨hshort, (target_run_iff (alarm_armed 0) rfl hshort).mpr ?_⟩
  simp only [vs, Run.Steps, Covered]
  decide

/-- A late synchronisation: from 0xfff0, above the target of 10, the counter
passes the target 27 ticks later.  Visited after 40 ticks the timer asserts
nothing. -/
theorem target_missed :
    let vs : List Visit := [⟨40, false⟩]
    Run.Steps visit Short (0, alarm 0xfff0, SharedState.new) vs
      ∧ (alarm 0xfff0).Crosses 0 40 ∧ ¬(alarm 0xfff0).Asserts (SharedState.new.tick 40)
      ∧ ¬Run.Steps visit (Detects (alarm 0xfff0)) (0, alarm 0xfff0, SharedState.new) vs := by
  intro vs
  have hfit : (alarm 0xfff0).Fits ((alarm 0xfff0).elapsed (SharedState.new.tick 40)).toNat := by
    rw [Fits]
    decide
  have hcross : (alarm 0xfff0).Crosses 0 40 := ⟨26, by decide, by decide, by decide⟩
  have hmiss : ¬(alarm 0xfff0).Asserts (SharedState.new.tick 40) := by
    rw [asserts_iff (alarm_armed 0xfff0) hfit]
    decide
  refine ⟨by simp only [vs, Run.Steps, Short, Fits]; decide, hcross, hmiss, fun h => ?_⟩
  exact hmiss (h.1.2.1.mpr hcross)

end Timer

end Rustation
