import Rustation.Timers.Timer

/-!
The closed form of `sync` against a counter that ticks.

* `Timer.tick`: one tick of the counter, as the timer is documented;
* `Timer.modulus`: the number of values the counter runs through.  As long as
  the counter is below it, ticking is counting modulo `modulus`
  (`tick_iterate`), and the overflow is the passage through 0xffff
  (`overflows_iff`);
* `advance_counter`, `advance_phase`, `advance_overflow`: what `advance`
  computes, as numbers, while the elapsed time fits the fixed point format
  (`Fits`);
* `ticks_iff`: `sync` agrees with the ticks unless the counter has to wrap at
  its target and is above it.
-/

namespace Rustation

open Fallible

namespace Timer

variable {t : Timer} {delta : Cycles}

/-! ### Ticks -/

/-- One tick of the counter. -/
def tick (t : Timer) : Timer :=
  { t with counter := if t.targetWrap ∧ t.counter = t.target then 0 else t.counter + 1 }

/-- The tick number `k` takes the counter from 0xffff to 0. -/
def OverflowsAt (t : Timer) (k : ℕ) : Prop :=
  (tick^[k] t).counter = 0xffff ∧ (tick^[k + 1] t).counter = 0

/-- The number of values the counter runs through. -/
def modulus (t : Timer) : ℕ := if t.targetWrap then t.target.toNat + 1 else 0x10000

lemma tick_iterate_frame (t : Timer) (n : ℕ) :
    (tick^[n] t).targetWrap = t.targetWrap ∧ (tick^[n] t).target = t.target := by
  induction n with
  | zero => exact ⟨rfl, rfl⟩
  | succ n ih =>
      rw [Function.iterate_succ_apply']
      exact ih

lemma modulus_le (t : Timer) : t.modulus ≤ 0x10000 := by
  have htarget := t.target.isLt
  rw [modulus]
  split_ifs <;> omega

/-- A tick below the modulus. -/
lemma tick_counter (h : t.counter.toNat < t.modulus) :
    t.tick.counter.toNat = (t.counter.toNat + 1) % t.modulus := by
  have hcounter := t.counter.isLt
  rw [modulus] at h ⊢
  cases hw : t.targetWrap with
  | false =>
      simp only [tick, hw, Bool.false_eq_true, false_and, if_false]
      rw [BitVec.toNat_add]
      rfl
  | true =>
      simp only [hw, if_true] at h ⊢
      by_cases heq : t.counter = t.target
      · simp [tick, hw, heq]
      · have hne : t.counter.toNat ≠ t.target.toNat := fun hn => heq (BitVec.eq_of_toNat_eq hn)
        have hlt := t.target.isLt
        simp only [tick, hw, heq, and_false, if_false]
        rw [BitVec.toNat_add, Nat.mod_eq_of_lt (a := t.counter.toNat + 1) (by omega)]
        exact Nat.mod_eq_of_lt (by simp; omega)

/-- Below the modulus the counter counts modulo `modulus`. -/
lemma tick_iterate (h : t.counter.toNat < t.modulus) (n : ℕ) :
    (tick^[n] t).counter.toNat = (t.counter.toNat + n) % t.modulus := by
  induction n with
  | zero => exact (Nat.mod_eq_of_lt h).symm
  | succ n ih =>
      obtain ⟨hwrap, htarget⟩ := tick_iterate_frame t n
      have hmod : (tick^[n] t).modulus = t.modulus := by
        rw [modulus, hwrap, htarget, modulus]
      have hlt : (tick^[n] t).counter.toNat < (tick^[n] t).modulus := by
        rw [ih, hmod]
        exact Nat.mod_lt _ (by omega)
      rw [Function.iterate_succ_apply', tick_counter hlt, hmod, ih, Nat.mod_add_mod, Nat.add_assoc]

/-- Above its target the counter goes on to 0xffff. -/
lemma tick_iterate_above (h : t.target.toNat < t.counter.toNat) {n : ℕ}
    (hn : t.counter.toNat + n ≤ 0xffff) : (tick^[n] t).counter.toNat = t.counter.toNat + n := by
  induction n with
  | zero => rfl
  | succ n ih =>
      have hprev := ih (by omega)
      obtain ⟨hwrap, htarget⟩ := tick_iterate_frame t n
      have hne : (tick^[n] t).counter ≠ (tick^[n] t).target := by
        intro heq
        have hval := congrArg BitVec.toNat heq
        rw [hprev, htarget] at hval
        omega
      rw [Function.iterate_succ_apply']
      simp only [tick, hne, and_false, if_false]
      rw [BitVec.toNat_add, hprev]
      exact Nat.mod_eq_of_lt (by simp; omega)

/-- The overflow of a counter below the modulus: only a timer that counts all
the way to 0xffff has one. -/
lemma overflows_iff (h : t.counter.toNat < t.modulus) (n : ℕ) :
    (∃ k < n, t.OverflowsAt k) ↔ t.modulus = 0x10000 ∧ 0x10000 ≤ t.counter.toNat + n := by
  have hle := t.modulus_le
  constructor
  · rintro ⟨k, hk, hmax, -⟩
    have hval := congrArg BitVec.toNat hmax
    rw [tick_iterate h] at hval
    have hlt := Nat.mod_lt (t.counter.toNat + k) (show t.modulus > 0 by omega)
    have hmod := Nat.mod_le (t.counter.toNat + k) t.modulus
    have hmaxval : (0xffff : U16).toNat = 0xffff := rfl
    omega
  · rintro ⟨hmod, hn⟩
    refine ⟨0xffff - t.counter.toNat, by omega, ?_, ?_⟩
    · apply BitVec.eq_of_toNat_eq
      rw [tick_iterate h, hmod, show t.counter.toNat + (0xffff - t.counter.toNat) = 0xffff by omega]
      rfl
    · apply BitVec.eq_of_toNat_eq
      rw [tick_iterate h, hmod,
        show t.counter.toNat + (0xffff - t.counter.toNat + 1) = 0x10000 by omega]
      rfl

/-! ### What `advance` computes -/

/-- The elapsed time and the phase, in the fixed point format. -/
def elapsedFp (t : Timer) (delta : ℕ) : ℕ := 65536 * delta + t.phase.fp.toNat

/-- The number of ticks in `delta` cycles. -/
def ticksIn (t : Timer) (delta : ℕ) : ℕ := t.elapsedFp delta / t.period.fp.toNat

/-- The elapsed time fits the fixed point format. -/
def Fits (t : Timer) (delta : ℕ) : Prop := t.elapsedFp delta < 2 ^ 64

/-- The mode is one that `setMode` accepts. -/
structure Accepted (t : Timer) : Prop where
  wrapIrq : t.wrapIrq = false
  negateIrq : t.negateIrq = false
  repeatIrq : t.targetIrq = true → t.repeatIrq = true

lemma setMode_accepted {t' : Timer} {val : U16} (h : t.setMode val = .ok t') : t'.Accepted := by
  obtain ⟨sync, -, h⟩ := bind_eq_ok.mp h
  obtain ⟨clockSource, -, h⟩ := bind_eq_ok.mp h
  dsimp only at h
  split_ifs at h with hwrap hshot hneg
  injection h with h
  subst h
  refine ⟨by simpa using hwrap, by simpa using hneg, fun htarget => ?_⟩
  by_contra hrep
  exact hshot (by simp_all)

section Advance

variable (hphase : t.phase.fp.toNat < t.period.fp.toNat) (hfit : t.Fits delta.toNat)

include hphase hfit

lemma ticks_toNat :
    ((FracCycles.fromCycles delta).add t.phase).fp.toNat = t.elapsedFp delta.toNat := by
  rw [Fits, elapsedFp] at hfit
  rw [FracCycles.add, BitVec.toNat_add, FracCycles.fromCycles_toNat (by omega), elapsedFp,
    Nat.mod_eq_of_lt hfit]

/-- The count of `advance` does not overflow: a period of one unit leaves no
phase. -/
lemma count_toNat :
    (((FracCycles.fromCycles delta).add t.phase).fp / t.period.fp
        + t.counter.setWidth 64).toNat
      = t.counter.toNat + t.ticksIn delta.toNat := by
  have hcounter := t.counter.isLt
  have hlt : t.ticksIn delta.toNat + t.counter.toNat < 2 ^ 64 := by
    rw [Fits, elapsedFp] at hfit
    rw [ticksIn, elapsedFp]
    by_cases hone : t.period.fp.toNat = 1
    · rw [hone, Nat.div_one]
      omega
    · have hhalf : (65536 * delta.toNat + t.phase.fp.toNat) / t.period.fp.toNat
          ≤ (65536 * delta.toNat + t.phase.fp.toNat) / 2 :=
        Nat.div_le_div_left (by omega) (by norm_num)
      omega
  have hset : (t.counter.setWidth 64).toNat = t.counter.toNat :=
    BitVec.toNat_setWidth_of_le (by norm_num)
  rw [BitVec.toNat_add, BitVec.toNat_udiv, ticks_toNat hphase hfit, hset, ← ticksIn,
    Nat.mod_eq_of_lt hlt, Nat.add_comm]

omit hphase hfit in
lemma wrap_toNat :
    (if t.targetWrap then t.target.setWidth 64 + 1 else 0x10000 : Cycles).toNat = t.modulus := by
  have htarget := t.target.isLt
  rw [modulus]
  split_ifs
  · rw [BitVec.toNat_add, BitVec.toNat_setWidth_of_le (by norm_num)]
    exact Nat.mod_eq_of_lt (by simp; omega)
  · rfl

omit hphase hfit in
/-- The conditional reduction is a reduction. -/
lemma reduced_toNat (count wrap : Cycles) :
    (if count ≥ wrap then count % wrap else count).toNat = count.toNat % wrap.toNat := by
  split_ifs with hge
  · exact BitVec.toNat_umod
  · rw [ge_iff_le, BitVec.le_def] at hge
    exact (Nat.mod_eq_of_lt (by omega)).symm

/-- What `advance` computes, as numbers. -/
lemma advance_spec :
    ∃ t' e, t.advance delta = .ok (t', e)
      ∧ t'.counter.toNat = (t.counter.toNat + t.ticksIn delta.toNat) % t.modulus
      ∧ t'.phase.fp.toNat = t.elapsedFp delta.toNat % t.period.fp.toNat
      ∧ (e.targetPassed = true ↔ t.counter.toNat ≤ t.target.toNat
        ∧ t.target.toNat < t.counter.toNat + t.ticksIn delta.toNat)
      ∧ (e.overflow = true ↔ t.modulus = 0x10000
        ∧ 0x10000 ≤ t.counter.toNat + t.ticksIn delta.toNat)
      ∧ t' = { t with
          counter := t'.counter
          phase := t'.phase
          targetReached := t.targetReached || e.targetPassed
          overflowReached := t.overflowReached || e.overflow } := by
  have hperiod : t.period.fp ≠ 0 := by
    intro h0
    rw [h0] at hphase
    exact absurd hphase (Nat.not_lt_zero _)
  have hcount := count_toNat hphase hfit
  have hwrap := wrap_toNat (t := t)
  have hticks := ticks_toNat hphase hfit
  have hle := t.modulus_le
  have hpos : 0 < t.modulus := by
    rw [modulus]
    split_ifs <;> omega
  have htarget : (t.target.setWidth 64).toNat = t.target.toNat :=
    BitVec.toNat_setWidth_of_le (by norm_num)
  rw [advance]
  simp only [if_neg hperiod, pure_eq_ok]
  refine ⟨_, _, rfl, ?_, ?_, ?_, ?_, rfl⟩
  · have hmod := Nat.mod_lt (t.counter.toNat + t.ticksIn delta.toNat) hpos
    rw [BitVec.toNat_setWidth, ← Nat.mod_eq_of_lt (a := _ % t.modulus) (b := 2 ^ 16) (by omega)]
    rw [reduced_toNat, hcount, hwrap]
  · rw [FracCycles.fromFp, BitVec.toNat_umod, hticks]
  · simp only [Bool.and_eq_true, decide_eq_true_eq, gt_iff_lt, BitVec.le_def, BitVec.lt_def,
      htarget, hcount]
  · simp only [Bool.and_eq_true, decide_eq_true_eq, ge_iff_le, BitVec.le_def, hcount, hwrap,
      beq_iff_eq]
    rw [← BitVec.toNat_inj, hwrap]
    have hmax : (0x10000 : Cycles).toNat = 0x10000 := rfl
    omega

end Advance

/-! ### What `sync` computes -/

variable {sh : SharedState}

/-- The time since the last synchronisation of the timer. -/
def elapsed (t : Timer) (sh : SharedState) : Cycles :=
  sh.tk.now - (sh.tk.timesheets t.inst.peripheral).lastSync

lemma predictNextSync_frame (t : Timer) (sh : SharedState) :
    (t.predictNextSync sh).irqState = sh.irqState ∧ (t.predictNextSync sh).tk.now = sh.tk.now
      ∧ ((t.predictNextSync sh).tk.timesheets t.inst.peripheral).lastSync
        = (sh.tk.timesheets t.inst.peripheral).lastSync := by
  generalize hdelta : t.nextSyncDelta = delta
  cases hirq : t.targetIrq with
  | false =>
      rw [predictNextSync, hirq]
      simp only [Bool.not_false, if_true, TimeKeeper.noSyncNeeded, TimeKeeper.setSheet_self,
        TimeKeeper.setSheet_now, TimeSheet.setNextSync, and_self]
  | true =>
      rw [predictNextSync, hirq, hdelta]
      simp only [Bool.not_true, Bool.false_eq_true, if_false, TimeKeeper.setNextSyncDelta,
        TimeKeeper.setSheet_self, TimeKeeper.setSheet_now, TimeSheet.setNextSync, and_self]

/-- What a synchronisation leaves, given the events `e` it detects. -/
structure Synced (t : Timer) (sh : SharedState) (e : Events) (r : Timer × SharedState) : Prop where
  counter : r.1.counter.toNat
    = (t.counter.toNat + t.ticksIn (t.elapsed sh).toNat) % t.modulus
  phase : r.1.phase.fp.toNat = t.elapsedFp (t.elapsed sh).toNat % t.period.fp.toNat
  /-- everything else but the flags stays -/
  rest : r.1 = { t with
    counter := r.1.counter
    phase := r.1.phase
    interrupt := r.1.interrupt
    targetReached := t.targetReached || e.targetPassed
    overflowReached := t.overflowReached || e.overflow }
  irqState : r.2.irqState =
    if (t.wrapIrq && e.overflow) || (t.targetIrq && e.targetPassed) then
      sh.irqState.assert t.inst.interrupt
    else sh.irqState
  now : r.2.tk.now = sh.tk.now
  lastSync : (r.2.tk.timesheets t.inst.peripheral).lastSync = sh.tk.now

/-- A synchronisation with no time elapsed changes nothing. -/
lemma sync_of_elapsed_zero (h : t.elapsed sh = 0) :
    t.sync sh = .ok (t, { sh with tk := (sh.tk.sync t.inst.peripheral).2 }) := by
  rw [sync]
  exact if_pos h

/-- A synchronisation with time elapsed moves the counter, pulses the interrupt and predicts the
next one. -/
lemma sync_of_elapsed_ne (h : t.elapsed sh ≠ 0) : t.sync sh = (do
    let (u, e) ← t.advance (t.elapsed sh)
    let (u, irq) ← u.updateInterrupt e sh.irqState
    pure (u, u.predictNextSync
      { sh with tk := (sh.tk.sync t.inst.peripheral).2, irqState := irq })) := by
  rw [sync]
  exact if_neg h

lemma sync_parts {r : Timer × SharedState} (h : t.sync sh = .ok r) (hne : t.elapsed sh ≠ 0) :
    ∃ u e v irq, t.advance (t.elapsed sh) = .ok (u, e)
      ∧ u.updateInterrupt e sh.irqState = .ok (v, irq)
      ∧ r = (v, v.predictNextSync
        { sh with tk := (sh.tk.sync t.inst.peripheral).2, irqState := irq }) := by
  rw [sync_of_elapsed_ne hne, bind_eq_ok] at h
  obtain ⟨⟨u, e⟩, hadv, h⟩ := h
  obtain ⟨⟨v, irq⟩, hirq, h⟩ := bind_eq_ok.mp h
  exact ⟨u, e, v, irq, hadv, hirq, (Except.ok.inj h).symm⟩

/-- The interrupt line of a timer that pulses it. -/
lemma updateInterrupt_pulse {e : Events} {irq : InterruptState} (hneg : t.negateIrq = false) :
    t.updateInterrupt e irq =
      .ok ({ t with interrupt := (t.wrapIrq && e.overflow) || (t.targetIrq && e.targetPassed) },
        if (t.wrapIrq && e.overflow) || (t.targetIrq && e.targetPassed) then
          irq.assert t.inst.interrupt
        else irq) := by
  rw [updateInterrupt]
  cases hpulse : (t.wrapIrq && e.overflow) || (t.targetIrq && e.targetPassed) with
  | true => simp [hneg]
  | false => simp [hneg]

lemma sync_spec (hneg : t.negateIrq = false) (hphase : t.phase.fp.toNat < t.period.fp.toNat)
    (hfit : t.Fits (t.elapsed sh).toNat) (hne : t.elapsed sh ≠ 0) :
    ∃ r e, t.sync sh = .ok r ∧ Synced t sh e r
      ∧ (e.targetPassed = true ↔ t.counter.toNat ≤ t.target.toNat
        ∧ t.target.toNat < t.counter.toNat + t.ticksIn (t.elapsed sh).toNat)
      ∧ (e.overflow = true ↔ t.modulus = 0x10000
        ∧ 0x10000 ≤ t.counter.toNat + t.ticksIn (t.elapsed sh).toNat) := by
  obtain ⟨t', e, hadv, hcounter, hphase', hpassed, hover, ht'⟩ := advance_spec hphase hfit
  have hcfg : t'.negateIrq = t.negateIrq ∧ t'.wrapIrq = t.wrapIrq ∧ t'.targetIrq = t.targetIrq
      ∧ t'.inst = t.inst := by
    rw [ht']
    exact ⟨rfl, rfl, rfl, rfl⟩
  have hsync := sync_of_elapsed_ne hne
  rw [hadv, ok_bind] at hsync
  dsimp only at hsync
  rw [updateInterrupt_pulse (hcfg.1.trans hneg), ok_bind, pure_eq_ok] at hsync
  refine ⟨_, e, hsync, ⟨hcounter, hphase', ?_, ?_, ?_, ?_⟩, hpassed, hover⟩
  · rw [ht']
  · rw [(predictNextSync_frame _ _).1, hcfg.2.1, hcfg.2.2.1, hcfg.2.2.2]
  · rw [(predictNextSync_frame _ _).2.1]
    rfl
  · have hinst : t.inst = t'.inst := hcfg.2.2.2.symm
    rw [hinst]
    refine ((predictNextSync_frame _ _).2.2).trans ?_
    simp [TimeKeeper.sync, TimeSheet.sync]

/-! ### Refinement of the ticks -/

/-- The synchronisation sets the overflow flag, seen on a timer that has it
cleared. -/
def SetsOverflow (t : Timer) (sh : SharedState) : Prop :=
  ∃ r, ({ t with overflowReached := false } : Timer).sync sh = .ok r ∧ r.1.overflowReached = true

/-- `sync` leaves the counter and the phase of the ticks that fit in the elapsed
time, and sets the overflow flag exactly when one of them overflows. -/
def SyncTicks (t : Timer) (sh : SharedState) : Prop :=
  (∃ r, t.sync sh = .ok r
      ∧ r.1.counter = (tick^[t.ticksIn (t.elapsed sh).toNat] t).counter
      ∧ r.1.phase.fp.toNat = t.elapsedFp (t.elapsed sh).toNat % t.period.fp.toNat)
    ∧ (t.SetsOverflow sh ↔ ∃ k < t.ticksIn (t.elapsed sh).toNat, t.OverflowsAt k)

lemma syncTicks_of_elapsed_zero (hphase : t.phase.fp.toNat < t.period.fp.toNat)
    (h : t.elapsed sh = 0) : t.SyncTicks sh := by
  have hzero : (t.elapsed sh).toNat = 0 := by rw [h]; rfl
  have hfp : t.elapsedFp (t.elapsed sh).toNat = t.phase.fp.toNat := by simp [elapsedFp, hzero]
  have hticks : t.ticksIn (t.elapsed sh).toNat = 0 := by
    rw [ticksIn, hfp, Nat.div_eq_of_lt hphase]
  refine ⟨⟨_, sync_of_elapsed_zero h, ?_, ?_⟩, ?_⟩
  · rw [hticks]
    rfl
  · rw [hfp, Nat.mod_eq_of_lt hphase]
  · rw [hticks]
    refine ⟨?_, by rintro ⟨k, hk, -⟩; exact absurd hk (Nat.not_lt_zero k)⟩
    rintro ⟨r, hr, hflag⟩
    have hcleared : ({ t with overflowReached := false } : Timer).elapsed sh = 0 := h
    rw [sync_of_elapsed_zero hcleared] at hr
    injection hr with hr
    rw [← hr] at hflag
    exact absurd hflag Bool.false_ne_true

section Refinement

variable (hacc : t.Accepted) (hphase : t.phase.fp.toNat < t.period.fp.toNat)
  (hfit : t.Fits (t.elapsed sh).toNat)

include hacc hphase hfit

/-- The overflow flag is set exactly when a counter modulo 0x10000 wraps. -/
lemma setsOverflow_iff (hne : t.elapsed sh ≠ 0) :
    t.SetsOverflow sh ↔ t.modulus = 0x10000
      ∧ 0x10000 ≤ t.counter.toNat + t.ticksIn (t.elapsed sh).toNat := by
  have hspec := sync_spec (t := { t with overflowReached := false }) hacc.negateIrq hphase hfit hne
  obtain ⟨r, e, hr, hs, -, hover⟩ := hspec
  have hflag : r.1.overflowReached = e.overflow := by
    rw [hs.rest]
    exact Bool.false_or _
  constructor
  · rintro ⟨r', hr', hset⟩
    rw [hr] at hr'
    injection hr' with hr'
    exact hover.mp (by rw [← hflag, hr']; exact hset)
  · exact fun h => ⟨r, hr, by rw [hflag]; exact hover.mpr h⟩

/-- Where the counter is below its modulus `sync` agrees with the ticks. -/
lemma syncTicks_of_lt (hne : t.elapsed sh ≠ 0) (hlt : t.counter.toNat < t.modulus) :
    t.SyncTicks sh := by
  obtain ⟨r, e, hr, hs, -, -⟩ := sync_spec hacc.negateIrq hphase hfit hne
  refine ⟨⟨r, hr, BitVec.eq_of_toNat_eq ?_, hs.phase⟩, ?_⟩
  · rw [hs.counter, tick_iterate hlt]
  · rw [setsOverflow_iff hacc hphase hfit hne, overflows_iff hlt]

/-- A counter above the target it has to wrap at is reduced too early, or
overflows without the flag. -/
lemma not_syncTicks_of_above (hne : t.elapsed sh ≠ 0) (hwrap : t.targetWrap = true)
    (habove : t.target.toNat < t.counter.toNat) : ¬t.SyncTicks sh := by
  have hcounter := t.counter.isLt
  have hmod : t.modulus = t.target.toNat + 1 := by rw [modulus, if_pos hwrap]
  obtain ⟨r, e, hr, hs, -, -⟩ := sync_spec hacc.negateIrq hphase hfit hne
  rintro ⟨⟨r', hr', hticks, -⟩, hflag⟩
  rw [hr] at hr'
  injection hr' with hr'
  rw [← hr'] at hticks
  rw [setsOverflow_iff hacc hphase hfit hne] at hflag
  by_cases hsmall : t.counter.toNat + t.ticksIn (t.elapsed sh).toNat ≤ 0xffff
  · -- the ticks stay above the target, the counter does not
    have hval := congrArg BitVec.toNat hticks
    rw [hs.counter, tick_iterate_above habove hsmall] at hval
    have hlt := Nat.mod_lt (t.counter.toNat + t.ticksIn (t.elapsed sh).toNat)
      (show t.modulus > 0 by omega)
    omega
  · -- the ticks overflow, a modulus below 0x10000 does not
    have hover : ∃ k < t.ticksIn (t.elapsed sh).toNat, t.OverflowsAt k := by
      have hmax : (tick^[0xffff - t.counter.toNat] t).counter = 0xffff := by
        apply BitVec.eq_of_toNat_eq
        rw [tick_iterate_above habove (by omega)]
        exact Nat.add_sub_cancel' (by omega)
      refine ⟨0xffff - t.counter.toNat, by omega, hmax, ?_⟩
      rw [Function.iterate_succ_apply', tick, hmax]
      simp
    have hfull := (hflag.mpr hover).1
    omega

/-- **The closed form refines the ticks**, for every accepted mode and every
relation of counter and target, exactly when no time has elapsed, the timer does
not wrap at its target, or the counter is not above it. -/
theorem ticks_iff :
    t.SyncTicks sh ↔ t.elapsed sh = 0 ∨ t.targetWrap = false ∨ t.counter ≤ t.target := by
  by_cases hzero : t.elapsed sh = 0
  · exact ⟨fun _ => .inl hzero, fun _ => syncTicks_of_elapsed_zero hphase hzero⟩
  constructor
  · intro h
    by_contra hnot
    push Not at hnot
    obtain ⟨-, hwrap, habove⟩ := hnot
    exact not_syncTicks_of_above hacc hphase hfit hzero (by simpa using hwrap)
      (by simpa [BitVec.lt_def] using habove) h
  · rintro (h | hwrap | hle)
    · exact absurd h hzero
    · refine syncTicks_of_lt hacc hphase hfit hzero ?_
      have hcounter := t.counter.isLt
      rw [modulus, hwrap]
      exact hcounter
    · refine syncTicks_of_lt hacc hphase hfit hzero ?_
      have hcounter := t.counter.isLt
      rw [BitVec.le_def] at hle
      rw [modulus]
      split_ifs <;> omega

end Refinement

/-- Timer 0 with its counter at 5. -/
def counting : Timer := (Timer.new .timer0).setCounter 5

/-- The closed form at a counter above a target that is only a target: a
hundred cycles from 5. -/
theorem ticks_counting :
    (counting.Accepted ∧ counting.phase.fp.toNat < counting.period.fp.toNat
        ∧ counting.Fits (counting.elapsed (SharedState.new.tick 100)).toNat)
      ∧ counting.SyncTicks (SharedState.new.tick 100) := by
  have hacc : counting.Accepted := ⟨rfl, rfl, fun h => absurd h (by decide)⟩
  have hphase : counting.phase.fp.toNat < counting.period.fp.toNat := by decide
  have hfit : counting.Fits (counting.elapsed (SharedState.new.tick 100)).toNat := by
    rw [Fits]
    decide
  exact ⟨⟨hacc, hphase, hfit⟩, (ticks_iff hacc hphase hfit).mpr (by decide)⟩

/-- A counter written above its target in a timer that wraps there: after one
cycle the tick has taken it from 5 to 6, `sync` to 0. -/
theorem ticks_above_target :
    let t := { counting with targetWrap := true, target := 2 }
    t.Accepted ∧ (tick t).counter = 6
      ∧ (t.sync (SharedState.new.tick 1) >>= fun r => pure r.1.counter) = .ok 0
      ∧ ¬t.SyncTicks (SharedState.new.tick 1) := by
  intro t
  have hacc : t.Accepted := ⟨rfl, rfl, fun h => absurd h (by decide)⟩
  refine ⟨hacc, by decide, by decide, ?_⟩
  exact not_syncTicks_of_above hacc (by decide) (by rw [Fits]; decide) (by decide) rfl (by decide)

end Timer

end Rustation
