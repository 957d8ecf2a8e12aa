import Rustation.CdRom.Countdowns
import Rustation.Lib.Related

/-!
One synchronisation of the CD-ROM controller, cut in two.

* `Agree`: the same controller and the same asserted interrupts.  The loop of
  `sync` does not look at the dates of the shared state (`agree_syncLoop`), and
  `syncOver` runs it without a bound;
* `syncStep_cut`: a cut within an iteration that starts no response sequence.
  Its instances are a cut within a step of a sequence, within the step that
  executes a settled command, and while an interrupt waits;
* `agree_cut_ready`: a cut before the countdowns of an idle sub-CPU end;
* `syncOver_of_cut`: what goes unnoticed by one iteration goes unnoticed by the
  whole loop.
-/

namespace Rustation

open Fallible

namespace CdRom

variable {I : CdImage}

/-! ### What does not depend on the dates -/

/-- The same controller and the same asserted interrupts. -/
structure Agree (s s' : Shared I) : Prop where
  cd : s.1 = s'.1
  irqState : s.2.irqState = s'.2.irqState

lemma Agree.refl (s : Shared I) : Agree s s := ⟨rfl, rfl⟩

lemma Agree.symm {s s' : Shared I} (h : Agree s s') : Agree s' s := ⟨h.cd.symm, h.irqState.symm⟩

lemma Agree.trans {s s' s'' : Shared I} (h : Agree s s') (h' : Agree s' s'') : Agree s s'' :=
  ⟨h.cd.trans h'.cd, h.irqState.trans h'.irqState⟩

lemma agree_maybeProcess {cd : CdRom I} {sh sh' : SharedState} (h : sh.irqState = sh'.irqState) :
    Related Agree (cd.maybeProcessAsyncResponse sh) (cd.maybeProcessAsyncResponse sh') := by
  rw [maybeProcessAsyncResponse, maybeProcessAsyncResponse]
  split
  · split
    · refine (Related.refl (R := Eq) (fun _ => rfl) _).bind fun r r' hr => ?_
      subst hr
      exact .ok ⟨rfl, h⟩
    · exact .ok ⟨rfl, h⟩
  · exact .ok ⟨rfl, h⟩

lemma agree_maybeNotify {cd : CdRom I} {sh sh' : SharedState} (h : sh.irqState = sh'.irqState) :
    Agree (cd.maybeNotifyRead sh) (cd.maybeNotifyRead sh') := by
  rw [maybeNotifyRead, maybeNotifyRead]
  split
  · exact ⟨rfl, h⟩
  · exact ⟨rfl, h⟩

lemma agree_triggerIrq {cd : CdRom I} {sh sh' : SharedState} (h : sh.irqState = sh'.irqState)
    (irq : IrqCode) : Related Agree (cd.triggerIrq sh irq) (cd.triggerIrq sh' irq) := by
  rw [triggerIrq, triggerIrq]
  split
  · exact .error _
  · dsimp only
    split
    · exact .ok ⟨rfl, congrArg (fun s => s.assert .cdRom) h⟩
    · exact .ok ⟨rfl, h⟩

lemma agree_nextSubCpuStep {cd : CdRom I} {sh sh' : SharedState}
    (h : sh.irqState = sh'.irqState) :
    Related Agree (cd.nextSubCpuStep sh) (cd.nextSubCpuStep sh') := by
  have hexec : Related Agree
      (cd.executeCommand >>= fun cd => pure (cd.enter .execution Timings.EXECUTION, sh))
      (cd.executeCommand >>= fun cd => pure (cd.enter .execution Timings.EXECUTION, sh')) := by
    refine (Related.refl (R := Eq) (fun _ => rfl) _).bind fun c c' hc => ?_
    subst hc
    exact .ok ⟨rfl, h⟩
  rw [nextSubCpuStep, nextSubCpuStep]
  cases cd.subCpu.sequence with
  | idle => exact .error _
  | commandPending | paramPush =>
      dsimp only
      split
      · exact hexec
      · exact .ok ⟨rfl, h⟩
  | execution | busyDelay => exact .ok ⟨rfl, h⟩
  | rxFlush | rxPush | asyncRxPush =>
      dsimp only
      split
      · exact .ok ⟨rfl, h⟩
      · exact .ok ⟨rfl, h⟩
  | irqDelay =>
      refine (agree_triggerIrq h _).bind fun s s' hs => .ok ⟨?_, hs.irqState⟩
      exact congrArg (fun c : CdRom I => { c with subCpu := { c.subCpu with sequence := .idle } })
        hs.cd

/-- The same cycles used, and the same state. -/
def AgreeStep (r r' : U32 × Shared I) : Prop := r.1 = r'.1 ∧ Agree r.2 r'.2

lemma agree_stepSubCpu {cd : CdRom I} {sh sh' : SharedState} (h : sh.irqState = sh'.irqState)
    (remaining : U32) :
    Related AgreeStep (cd.stepSubCpu sh remaining) (cd.stepSubCpu sh' remaining) := by
  rw [stepSubCpu, stepSubCpu]
  split
  · split
    · exact .ok ⟨rfl, rfl, h⟩
    · exact (agree_nextSubCpuStep h).bind fun s s' hs => .ok ⟨rfl, hs⟩
  · exact .ok ⟨rfl, rfl, h⟩

lemma agree_stepAsync {cd : CdRom I} {sh sh' : SharedState} (h : sh.irqState = sh'.irqState)
    (elapsed : U32) : Related Agree (cd.stepAsync sh elapsed) (cd.stepAsync sh' elapsed) := by
  rw [stepAsync, stepAsync]
  split
  · split
    · exact .ok ⟨rfl, h⟩
    · exact agree_maybeProcess h
  · exact .ok ⟨rfl, h⟩

lemma agree_stepRead {cd : CdRom I} {sh sh' : SharedState} (h : sh.irqState = sh'.irqState)
    (elapsed : U32) : Related Agree (cd.stepRead sh elapsed) (cd.stepRead sh' elapsed) := by
  rw [stepRead, stepRead]
  split
  · next delay _ =>
    split
    · exact .ok ⟨rfl, h⟩
    · refine (Related.refl (R := Eq) (fun _ => rfl) _).bind fun c c' hc => ?_
      subst hc
      have hn : Agree (c.maybeNotifyRead sh) (c.maybeNotifyRead sh') := agree_maybeNotify h
      refine .ok ⟨?_, hn.irqState⟩
      exact congrArg (fun d : CdRom I =>
        { d with readState := .reading (d.cyclesPerSector - (elapsed - delay)) }) hn.cd
  · exact .ok ⟨rfl, h⟩

lemma agree_syncStep {cd : CdRom I} {sh sh' : SharedState} (h : sh.irqState = sh'.irqState)
    (remaining : U32) :
    Related AgreeStep (cd.syncStep sh remaining) (cd.syncStep sh' remaining) := by
  rw [syncStep, syncStep]
  refine (agree_stepSubCpu h remaining).bind fun r r' hr => ?_
  obtain ⟨e, c, t⟩ := r
  obtain ⟨e', c', t'⟩ := r'
  obtain ⟨rfl, rfl, ht⟩ := hr
  refine (agree_stepAsync ht e).bind fun s s' hs => ?_
  obtain ⟨c₂, t₂⟩ := s
  obtain ⟨c₂', t₂'⟩ := s'
  obtain ⟨rfl, ht₂⟩ := hs
  exact (agree_stepRead ht₂ e).bind fun s s' hs => .ok ⟨rfl, hs⟩

/-- The dates of the shared state do not matter to the loop. -/
lemma agree_syncLoop (fuel : ℕ) {cd : CdRom I} {sh sh' : SharedState}
    (h : sh.irqState = sh'.irqState) (remaining : U32) :
    Related Agree (syncLoop fuel cd sh remaining) (syncLoop fuel cd sh' remaining) := by
  induction fuel generalizing cd sh sh' remaining with
  | zero =>
      rw [syncLoop, syncLoop]
      split
      · exact .ok ⟨rfl, h⟩
      · exact .error _
  | succ fuel ih =>
      rw [syncLoop, syncLoop]
      split
      · exact .ok ⟨rfl, h⟩
      · refine (agree_syncStep h remaining).bind fun r r' hr => ?_
        obtain ⟨e, c, t⟩ := r
        obtain ⟨e', c', t'⟩ := r'
        obtain ⟨rfl, rfl, ht⟩ := hr
        exact ih ht (remaining - e)

/-! ### The loop without its bound -/

lemma syncLoop_zero (n : ℕ) (cd : CdRom I) (sh : SharedState) :
    syncLoop n cd sh 0 = .ok (cd, sh) := by
  cases n with
  | zero => rfl
  | succ n => rfl

/-- The loop does not depend on its bound, as long as it is large enough. -/
lemma syncLoop_fuel {n m : ℕ} {cd : CdRom I} (hcd : cd.Sequenced) (sh : SharedState)
    {remaining : U32} (hn : remaining.toNat ≤ n) (hm : remaining.toNat ≤ m) :
    syncLoop n cd sh remaining = syncLoop m cd sh remaining := by
  induction n generalizing m cd sh remaining with
  | zero =>
      have h0 : remaining = 0 := BitVec.eq_of_toNat_eq (Nat.le_zero.mp hn)
      rw [h0, syncLoop_zero, syncLoop_zero]
  | succ n ih =>
      by_cases h0 : remaining = 0
      · rw [h0, syncLoop_zero, syncLoop_zero]
      · obtain ⟨m, rfl⟩ : ∃ k, m = k + 1 := ⟨m - 1, by bv_omega⟩
        rw [syncLoop, syncLoop, if_neg h0, if_neg h0]
        refine bind_congr_ok fun r hr => ?_
        obtain ⟨hne, hle, hmoves⟩ := (post_syncStep (fun _ => True) hcd sh h0).of_ok hr
        exact ih (hmoves.sequenced hcd) _ (by bv_omega) (by bv_omega)

/-- The loop of `sync` over `n` cycles. -/
def syncOver (cd : CdRom I) (sh : SharedState) (n : U32) : Outcome (Shared I) :=
  syncLoop n.toNat cd sh n

@[simp] lemma syncOver_zero (cd : CdRom I) (sh : SharedState) : cd.syncOver sh 0 = .ok (cd, sh) :=
  rfl

lemma syncOver_step {cd : CdRom I} (hcd : cd.Sequenced) (sh : SharedState) {n : U32}
    (hn : n ≠ 0) : cd.syncOver sh n =
      cd.syncStep sh n >>= fun t => t.2.1.syncOver t.2.2 (n - t.1) := by
  obtain ⟨k, hk⟩ : ∃ k, n.toNat = k + 1 := ⟨n.toNat - 1, by bv_omega⟩
  rw [syncOver, hk, syncLoop, if_neg hn]
  refine bind_congr_ok fun r hr => ?_
  obtain ⟨hne, hle, hmoves⟩ := (post_syncStep (fun _ => True) hcd sh hn).of_ok hr
  exact syncLoop_fuel (hmoves.sequenced hcd) _ (by bv_omega) le_rfl

/-! ### A cut within a step -/

/-- The cycles of an iteration are those of the sub-CPU. -/
lemma post_elapsed {cd cd' : CdRom I} {sh sh' : SharedState} {n e : U32}
    (hs : cd.stepSubCpu sh n = .ok (e, cd', sh')) :
    Post (fun _ => True) (cd.syncStep sh n) fun t => t.1 = e := by
  rw [syncStep, hs, ok_bind]
  dsimp only
  cases cd'.stepAsync sh' e with
  | error _ => trivial
  | ok s =>
      rw [ok_bind]
      cases s.1.stepRead s.2 e with
      | error _ => trivial
      | ok s' => exact rfl

/-- **A cut within an iteration** in which no response sequence starts.  The
first part of the iteration leads to `w`, the whole of it to `s`. -/
lemma syncStep_cut {cd w s : CdRom I} {sh sh' : SharedState} {x y e : U32}
    (hw : cd.stepSubCpu sh x = .ok (x, w, sh)) (hwr : ¬w.Ready) (hwd : w.withRead cd = w)
    (hs : cd.stepSubCpu sh (x + y) = .ok (x + e, s, sh')) (hsr : ¬s.Ready)
    (hsd : s.withRead cd = s)
    (hstep : ∀ d, ((w.coolAsync x).withRead d).stepSubCpu sh y =
      .ok (e, (s.coolAsync x).withRead d, sh'))
    (hxe : x.toNat + e.toNat < 2 ^ 32) (hone : cd.OneSector (x.toNat + e.toNat)) :
    (cd.syncStep sh x >>= fun t => t.2.1.syncStep t.2.2 y) =
      cd.syncStep sh (x + y) >>= fun t => pure (e, t.2) := by
  -- the drive does not look at the sequencer, so its two ticks become one
  have hwtick : (w.coolAsync x).readTick x =
      cd.readTick x >>= fun d => pure ((w.coolAsync x).withRead d) := by
    have hdrive : (w.coolAsync x).withRead cd = w.coolAsync x := congrArg (coolAsync · x) hwd
    rw [← readTick_withRead, hdrive]
  have hstick : (s.coolAsync (x + e)).readTick (x + e) =
      cd.readTick (x + e) >>= fun d => pure ((s.coolAsync (x + e)).withRead d) := by
    have hdrive : (s.coolAsync (x + e)).withRead cd = s.coolAsync (x + e) :=
      congrArg (coolAsync · (x + e)) hsd
    rw [← readTick_withRead, hdrive]
  rw [syncStep_of_not_ready hw hwr, syncStep_of_not_ready hs hsr, hwtick, hstick,
    ← readTick_add hxe hone]
  simp only [bind_assoc, pure_eq_ok, ok_bind]
  refine bind_congr_ok fun d _ => ?_
  have hr : ¬((s.coolAsync x).withRead d).Ready := hsr
  have hcool : ((s.coolAsync x).withRead d).coolAsync e = (s.coolAsync (x + e)).withRead d := by
    rw [← coolAsync_add s hxe]
    rfl
  rw [syncStep_of_not_ready (hstep d) hr, hcool, readTick_withRead]
  simp only [bind_assoc, pure_eq_ok, ok_bind]

lemma stepSubCpu_wait {cd : CdRom I} (hin : cd.subCpu.inCommand = true) (sh : SharedState)
    {n : U32} (hn : n.toNat < cd.subCpu.timer.toNat) :
    cd.stepSubCpu sh n = .ok (n, cd.wait n, sh) := by
  rw [stepSubCpu, if_pos hin]
  exact if_pos hn

lemma stepSubCpu_next {cd : CdRom I} (hin : cd.subCpu.inCommand = true) (sh : SharedState)
    {n : U32} (hn : cd.subCpu.timer.toNat ≤ n.toNat) :
    cd.stepSubCpu sh n = cd.nextSubCpuStep sh >>= fun s => pure (cd.subCpu.timer, s) := by
  rw [stepSubCpu, if_pos hin]
  exact if_neg (BitVec.not_lt.mpr hn)

lemma stepSubCpu_idle {cd : CdRom I} (hin : cd.subCpu.inCommand = false) (sh : SharedState)
    (n : U32) : cd.stepSubCpu sh n = .ok (n, cd, sh) := by
  rw [stepSubCpu, hin]
  rfl

/-- A sub-CPU in order takes any step that executes no command. -/
lemma nextSubCpuStep_returns {cd : CdRom I} (hcd : cd.Sequenced)
    (hin : cd.subCpu.inCommand = true) (hex : ¬cd.ExecutesNext) (sh : SharedState) :
    ∃ s, cd.nextSubCpuStep sh = .ok s := by
  have hawait (hw : cd.subCpu.sequence.awaitsExecution = true) : ¬cd.hostParams.isEmpty = true :=
    fun he => hex ⟨hw, he⟩
  rw [nextSubCpuStep]
  cases hs : cd.subCpu.sequence with
  | idle => exact absurd hs (inCommand_iff.mp hin)
  | commandPending | paramPush =>
      dsimp only
      rw [if_neg (hawait (by rw [hs]; rfl))]
      exact ⟨_, rfl⟩
  | execution | busyDelay => exact ⟨_, rfl⟩
  | rxFlush | rxPush | asyncRxPush =>
      dsimp only
      split
      · exact ⟨_, rfl⟩
      · exact ⟨_, rfl⟩
  | irqDelay =>
      have hflags : cd.retireCommand.irqFlags = 0 := by
        rw [retireCommand_irqFlags]
        exact hcd.flags hin
      dsimp only
      rw [triggerIrq, if_neg (not_not.mpr hflags)]
      dsimp only
      split
      · exact ⟨_, rfl⟩
      · exact ⟨_, rfl⟩

/-- A cut within the current step of a sequence, which goes on to no execution
and does not end the sequence. -/
lemma syncStep_cut_step {cd : CdRom I} (hcd : cd.Sequenced) (hin : cd.subCpu.inCommand = true)
    (sh : SharedState) {x y : U32} (hxy : x.toNat + y.toNat < 2 ^ 32)
    (hx : x.toNat < cd.subCpu.timer.toNat)
    (hex : cd.subCpu.timer.toNat ≤ x.toNat + y.toNat →
      ¬cd.ExecutesNext ∧ cd.subCpu.sequence ≠ .irqDelay)
    (hone : cd.OneSector (x.toNat + y.toNat)) : ∃ e,
    (cd.syncStep sh x >>= fun t => t.2.1.syncStep t.2.2 y) =
      (cd.syncStep sh (x + y) >>= fun t => pure (e, t.2)) ∧
    Post (fun _ => True) (cd.syncStep sh (x + y)) fun t => t.1 = x + e := by
  have hadd : (x + y).toNat = x.toNat + y.toNat := by
    rw [BitVec.toNat_add]
    exact Nat.mod_eq_of_lt hxy
  have hready : ¬(cd.wait x).Ready := fun hr => inCommand_iff.mp hin hr.2
  have hone' {n : ℕ} (hn : n ≤ x.toNat + y.toNat) : cd.OneSector n := fun delay hd =>
    lt_of_le_of_lt hn (hone delay hd)
  rcases Nat.lt_or_ge (x + y).toNat cd.subCpu.timer.toNat with hlt | hge
  · -- the step goes on after the second part
    have hready' : ¬(cd.wait (x + y)).Ready := fun hr => inCommand_iff.mp hin hr.2
    have htimer : (cd.wait x).subCpu.timer.toNat = cd.subCpu.timer.toNat - x.toNat := by
      change (cd.subCpu.timer - x).toNat = _
      bv_omega
    have hwait : (cd.wait x).wait y = cd.wait (x + y) := by
      simp only [wait]
      rw [show cd.subCpu.timer - x - y = cd.subCpu.timer - (x + y) by bv_omega]
    refine ⟨y, syncStep_cut (stepSubCpu_wait hin sh hx) hready rfl (stepSubCpu_wait hin sh hlt)
      hready' rfl (fun d => ?_) hxy hone, ?_⟩
    · have hwt : (((cd.wait x).coolAsync x).withRead d).subCpu.timer.toNat =
        cd.subCpu.timer.toNat - x.toNat := htimer
      rw [stepSubCpu_wait (by exact hin) sh (by omega), ← hwait]
      rfl
    · exact post_elapsed (stepSubCpu_wait hin sh hlt)
  · -- the step ends in the second part
    obtain ⟨hnex, hlast⟩ := hex (hadd ▸ hge)
    obtain ⟨s, hs⟩ := nextSubCpuStep_returns hcd hin hnex sh
    have hsr : ¬s.1.Ready := Step.not_ready ((post_nextSubCpuStep hcd hin sh).of_ok hs)
    have hrest := eq_withRest hnex hs
    have hsd : s.1.withRead cd = s.1 := by
      rw [hrest]
      rfl
    have he : x + (cd.subCpu.timer - x) = cd.subCpu.timer := by bv_omega
    have hxe : x.toNat + (cd.subCpu.timer - x).toNat = cd.subCpu.timer.toNat := by bv_omega
    have hwhole : cd.stepSubCpu sh (x + y) = .ok (x + (cd.subCpu.timer - x), s.1, s.2) := by
      rw [stepSubCpu_next hin sh hge, hs, he]
      rfl
    refine ⟨cd.subCpu.timer - x, syncStep_cut (stepSubCpu_wait hin sh hx) hready rfl hwhole
      hsr hsd (fun d => ?_) (by omega) (hone' (by omega)), ?_⟩
    · let a := ((cd.wait x).coolAsync x).subCpu.asyncResponse
      have hnext : ((cd.wait x).withRest d a).nextSubCpuStep sh = .ok (s.1.withRest d a, s.2) := by
        have hnex' : ¬(cd.wait x).ExecutesNext := hnex
        rw [nextSubCpuStep_withRest hnex', wait, nextSubCpuStep_timer hnex hlast, hs]
        rfl
      have ha : s.1.subCpu.asyncResponse = cd.subCpu.asyncResponse := by
        rw [hrest]
        rfl
      have hcool : (s.1.coolAsync x).withRead d = s.1.withRest d a := by
        rw [coolAsync, ha]
        rfl
      have hle : ((cd.wait x).withRest d a).subCpu.timer.toNat ≤ y.toNat := by
        change (cd.subCpu.timer - x).toNat ≤ y.toNat
        omega
      have hin' : ((cd.wait x).withRest d a).subCpu.inCommand = true := hin
      rw [hcool]
      change ((cd.wait x).withRest d a).stepSubCpu sh y = _
      rw [stepSubCpu_next hin' sh hle, hnext]
      rfl
    · exact post_elapsed hwhole

/-- A cut while the sub-CPU is idle and an interrupt waits for its
acknowledgement. -/
lemma syncStep_cut_idle {cd : CdRom I} (hin : cd.subCpu.inCommand = false) (hr : ¬cd.Ready)
    (sh : SharedState) {x y : U32} (hxy : x.toNat + y.toNat < 2 ^ 32)
    (hone : cd.OneSector (x.toNat + y.toNat)) :
    (cd.syncStep sh x >>= fun t => t.2.1.syncStep t.2.2 y) =
      cd.syncStep sh (x + y) >>= fun t => pure (y, t.2) :=
  syncStep_cut (stepSubCpu_idle hin sh x) hr rfl (stepSubCpu_idle hin sh (x + y)) hr rfl
    (fun d => stepSubCpu_idle (by exact hin) sh y) hxy hone

/-- A cut within the step that executes a settled command, before the next
sector. -/
lemma syncStep_cut_execute {cd : CdRom I} (hcd : cd.Sequenced) (hex : cd.ExecutesNext)
    (hset : ¬cd.Unsettling) (sh : SharedState) {x y : U32} (hxy : x.toNat + y.toNat < 2 ^ 32)
    (hx : x.toNat < cd.subCpu.timer.toNat) (hy : cd.subCpu.timer.toNat ≤ x.toNat + y.toNat)
    (hread : ∀ delay, cd.readState = .reading delay → x.toNat < delay.toNat)
    (hone : cd.OneSector (x.toNat + y.toNat)) :
    (cd.syncStep sh x >>= fun t => t.2.1.syncStep t.2.2 y) =
      (cd.syncStep sh (x + y) >>= fun t => pure (cd.subCpu.timer - x, t.2)) ∧
    Post (fun _ => True) (cd.syncStep sh (x + y)) fun t => t.1 = x + (cd.subCpu.timer - x) := by
  have hin : cd.subCpu.inCommand = true := by
    rw [inCommand_iff]
    intro hidle
    simp [ExecutesNext, hidle, SubCpuSequence.awaitsExecution] at hex
  have hin' : (cd.later x).subCpu.inCommand = true := hin
  have hasync : cd.subCpu.asyncResponse = none := hcd.async hex.1
  have hadd : (x + y).toNat = x.toNat + y.toNat := by
    rw [BitVec.toNat_add]
    exact Nat.mod_eq_of_lt hxy
  have he : x + (cd.subCpu.timer - x) = cd.subCpu.timer := by bv_omega
  have hxe : x.toNat + (cd.subCpu.timer - x).toNat = cd.subCpu.timer.toNat := by bv_omega
  have htimer : (cd.later x).subCpu.timer = cd.subCpu.timer - x := rfl
  have hsteady := steady_executeCommand hset
  -- the first part only waits
  have hfirst : cd.syncStep sh x = .ok (x, cd.later x, sh) := by
    have hready : ¬(cd.wait x).Ready := fun hr => inCommand_iff.mp hin hr.2
    have hasync' : (cd.wait x).subCpu.asyncResponse = none := hasync
    have htick : (cd.wait x).readTick x = .ok (cd.later x) := readTick_shift hread
    rw [syncStep_of_not_ready (stepSubCpu_wait hin sh hx) hready, coolAsync_of_none hasync', htick]
    rfl
  have hex' : (cd.later x).ExecutesNext := hex
  rw [hfirst, ok_bind]
  cases hc : cd.executeCommand with
  | error e =>
      have hwhole : cd.stepSubCpu sh (x + y) = .error e := by
        rw [stepSubCpu_next hin sh (by omega), nextSubCpuStep_execute hex, hc]
        rfl
      have hlater : (cd.later x).stepSubCpu sh y = .error e := by
        rw [stepSubCpu_next hin' sh (by rw [htimer]; omega), nextSubCpuStep_execute hex',
          hsteady.later, hc]
        rfl
      rw [syncStep, syncStep, hwhole, hlater]
      exact ⟨rfl, trivial⟩
  | ok c =>
      have hsettled := hsteady.settled.of_ok hc
      let c' : CdRom I := c.enter .execution Timings.EXECUTION
      have hr : ¬c'.Ready := fun hr => by cases hr.2
      have hr' : ¬(c'.shiftRead x).Ready := hr
      have hnone : c'.subCpu.asyncResponse = none := hsettled.async.trans hasync
      have hnone' : (c'.shiftRead x).subCpu.asyncResponse = none := hnone
      have hwhole : cd.stepSubCpu sh (x + y) = .ok (x + (cd.subCpu.timer - x), c', sh) := by
        rw [stepSubCpu_next hin sh (by omega), nextSubCpuStep_execute hex, hc, he]
        rfl
      have hlater : (cd.later x).stepSubCpu sh y =
          .ok (cd.subCpu.timer - x, c'.shiftRead x, sh) := by
        rw [stepSubCpu_next hin' sh (by rw [htimer]; omega), nextSubCpuStep_execute hex',
          hsteady.later, hc]
        rfl
      have hread' : ∀ delay, c'.readState = .reading delay → x.toNat < delay.toNat :=
        fun delay hd => hread delay (hsettled.readState.symm.trans hd)
      have hone' : c'.OneSector (x.toNat + (cd.subCpu.timer - x).toNat) := by
        rw [hxe]
        exact (hsettled.oneSector hone).mono hy
      refine ⟨?_, post_elapsed hwhole⟩
      rw [syncStep_of_not_ready hlater hr', syncStep_of_not_ready hwhole hr,
        coolAsync_of_none hnone, coolAsync_of_none hnone',
        ← readTick_add (by omega) hone', readTick_shift hread']
      simp only [bind_assoc, pure_eq_ok, ok_bind]

/-! ### A cut before a response sequence starts -/

/-- No handler of a second response looks at the read countdown. -/
lemma runAsync_shiftRead (cd : CdRom I) (handler : AsyncHandler) (n : U32) :
    (cd.shiftRead n).runAsync handler =
      cd.runAsync handler >>= fun r => pure (r.1, r.2.shiftRead n) := by
  cases handler with
  | pause => exact congrArg (fun c => Except.ok (_, c)) (respondStatus_shiftRead cd n)
  | seekL => exact congrArg (fun c => Except.ok (_, c)) (respondStatus_shiftRead cd n)
  | readToc => exact congrArg (fun c => Except.ok (_, c)) (respondStatus_shiftRead cd n)
  | init =>
      rw [runAsync, runAsync, asyncInit, asyncInit, respondStatus_shiftRead]
      rfl
  | getId =>
      have hdisc : (cd.shiftRead n).disc = cd.disc := rfl
      rw [runAsync, runAsync, asyncGetId, asyncGetId, hdisc, driveStatus_shiftRead]
      cases cd.disc with
      | none => rfl
      | some disc =>
          dsimp only
          rw [bind_assoc]
          rfl

/-- The same state but for `n` cycles of the read countdown. -/
structure Behind (n : U32) (s s' : Shared I) : Prop where
  cd : s.1 = s'.1.shiftRead n
  irqState : s.2.irqState = s'.2.irqState

lemma behind_maybeProcess (cd : CdRom I) {sh sh' : SharedState} (h : sh.irqState = sh'.irqState)
    (n : U32) : Related (Behind n) ((cd.shiftRead n).maybeProcessAsyncResponse sh)
      (cd.maybeProcessAsyncResponse sh') := by
  have hasync : (cd.shiftRead n).subCpu = cd.subCpu := rfl
  have hflags : (cd.shiftRead n).irqFlags = cd.irqFlags := rfl
  rw [maybeProcessAsyncResponse, maybeProcessAsyncResponse, hasync, hflags]
  split
  · next delay handler _ =>
    split
    · let c : CdRom I := { cd with subCpu := { cd.subCpu with
        asyncResponse := none
        response := cd.subCpu.response.clear
        irqCode := .asyncOk } }
      change Related (Behind n) ((c.shiftRead n).runAsync handler >>= _) (c.runAsync handler >>= _)
      rw [runAsync_shiftRead, bind_assoc]
      refine (Related.refl (R := Eq) (fun _ => rfl) _).bind fun r r' hr => ?_
      subst hr
      exact .ok ⟨rfl, h⟩
    · exact .ok ⟨rfl, h⟩
  · exact .ok ⟨rfl, h⟩

lemma behind_maybeNotify (cd : CdRom I) {sh sh' : SharedState} (h : sh.irqState = sh'.irqState)
    (n : U32) : Behind n ((cd.shiftRead n).maybeNotifyRead sh) (cd.maybeNotifyRead sh') := by
  have hpend : (cd.shiftRead n).readPending = cd.readPending := rfl
  have hsub : (cd.shiftRead n).subCpu = cd.subCpu := rfl
  have hflags : (cd.shiftRead n).irqFlags = cd.irqFlags := rfl
  rw [maybeNotifyRead, maybeNotifyRead, hpend, hsub, hflags]
  split
  · let c : CdRom I := { cd with subCpu := { cd.subCpu with
      response := cd.subCpu.response.clear
      irqCode := .sectorReady } }
    have hc := respondStatus_shiftRead c n
    refine ⟨?_, h⟩
    exact congrArg (fun d : CdRom I => { d with
      subCpu := { d.subCpu with sequence := .asyncRxPush, timer := Timings.READ_RX_PUSH }
      readPending := false }) hc
  · exact ⟨rfl, h⟩

/-- Both countdowns of an idle sub-CPU are longer than `n` cycles. -/
structure Waits (cd : CdRom I) (n : ℕ) : Prop where
  async : ∀ p, cd.subCpu.asyncResponse = some p → n < p.1.toNat
  read : ∀ delay, cd.readState = .reading delay → n < delay.toNat

lemma behind_stepAsync {cd : CdRom I} {x y : U32} (hw : cd.Waits x.toNat)
    (hxy : x.toNat + y.toNat < 2 ^ 32) {sh sh' : SharedState} (h : sh.irqState = sh'.irqState) :
    Related (Behind x) (((cd.coolAsync x).shiftRead x).stepAsync sh y)
      (cd.stepAsync sh' (x + y)) := by
  cases ha : cd.subCpu.asyncResponse with
  | none =>
      have ha' : (cd.shiftRead x).subCpu.asyncResponse = none := ha
      rw [coolAsync_of_none ha, stepAsync, stepAsync, ha, ha']
      exact .ok ⟨rfl, h⟩
  | some p =>
      have hp : p.1 > x := hw.async p ha
      let c : CdRom I := { cd with subCpu := { cd.subCpu with
        asyncResponse := some (p.1 - x, p.2) } }
      have hcool : cd.coolAsync x = c := by rw [coolAsync_of_some ha, if_pos hp]
      have hc : (c.shiftRead x).subCpu.asyncResponse = some (p.1 - x, p.2) := rfl
      rw [hcool, stepAsync, stepAsync, ha, hc]
      dsimp only
      by_cases hdue : p.1 > x + y
      · rw [if_pos hdue, if_pos (by bv_omega), show p.1 - x - y = p.1 - (x + y) by bv_omega]
        exact .ok ⟨rfl, h⟩
      · rw [if_neg hdue, if_neg (by bv_omega)]
        exact behind_maybeProcess { cd with subCpu := { cd.subCpu with
          asyncResponse := some (0, p.2) } } h x

/-- A second response leaves the read countdown alone, or stops the drive. -/
lemma runAsync_readState (cd : CdRom I) (handler : AsyncHandler) :
    Post (fun _ => True) (cd.runAsync handler) fun r =>
      (r.2.readState = cd.readState ∧ r.2.doubleSpeed = cd.doubleSpeed) ∨
        r.2.readState = .idle := by
  cases handler with
  | pause | seekL | readToc => exact .inl ⟨rfl, rfl⟩
  | init => exact .inr rfl
  | getId =>
      rw [runAsync, asyncGetId]
      split
      · trivial
      · rw [post_bind, Disc.region]
        split
        · exact .inl ⟨rfl, rfl⟩
        · trivial

lemma stepAsync_readState (cd : CdRom I) (sh : SharedState) (n : U32) :
    Post (fun _ => True) (cd.stepAsync sh n) fun s =>
      (s.1.readState = cd.readState ∧ s.1.doubleSpeed = cd.doubleSpeed) ∨
        s.1.readState = .idle := by
  rw [stepAsync]
  split
  · refine post_ite (fun _ => .inl ⟨rfl, rfl⟩) fun _ => ?_
    rw [maybeProcessAsyncResponse]
    dsimp only
    refine post_ite (fun _ => ?_) fun _ => .inl ⟨rfl, rfl⟩
    rw [post_bind]
    exact (runAsync_readState _ _).mono fun r hr => hr
  · exact .inl ⟨rfl, rfl⟩

lemma behind_stepRead {cd : CdRom I} {x y : U32}
    (hlt : ∀ delay, cd.readState = .reading delay → x.toNat < delay.toNat)
    (hxy : x.toNat + y.toNat < 2 ^ 32) {sh sh' : SharedState} (h : sh.irqState = sh'.irqState) :
    Related Agree ((cd.shiftRead x).stepRead sh y) (cd.stepRead sh' (x + y)) := by
  cases hs : cd.readState with
  | idle =>
      rw [shiftRead_idle hs, stepRead, stepRead, hs]
      exact .ok ⟨rfl, h⟩
  | reading delay =>
      have hx := hlt delay hs
      rw [shiftRead_reading hs, stepRead, stepRead, hs]
      dsimp only
      by_cases hdue : delay > x + y
      · rw [if_pos hdue, if_pos (by bv_omega), show delay - x - y = delay - (x + y) by bv_omega]
        exact .ok ⟨rfl, h⟩
      · rw [if_neg hdue, if_neg (by bv_omega), show y - (delay - x) = x + y - delay by bv_omega,
          readSector_readState, bind_assoc]
        cases hd : cd.readSector with
        | error e => exact .error e
        | ok d =>
            have hds : d.readState = .reading delay := by
              rw [eq_withDrive hd]
              exact hs
            have hb := behind_maybeNotify d h x
            rw [shiftRead_reading hds] at hb
            refine .ok ⟨?_, hb.irqState⟩
            have hcd := hb.cd
            simp only [hcd]
            rfl

/-- An idle sub-CPU whose countdowns do not end. -/
lemma syncStep_waits {cd : CdRom I} (hin : cd.subCpu.inCommand = false) {x : U32}
    (hw : cd.Waits x.toNat) (sh : SharedState) :
    cd.syncStep sh x = .ok (x, (cd.coolAsync x).shiftRead x, sh) := by
  have hasync : cd.stepAsync sh x = .ok (cd.coolAsync x, sh) := by
    rw [stepAsync]
    cases ha : cd.subCpu.asyncResponse with
    | none =>
        rw [coolAsync_of_none ha]
        rfl
    | some p =>
        have hp : p.1 > x := hw.async p ha
        rw [coolAsync_of_some ha]
        dsimp only
        rw [if_pos hp, if_pos hp]
        rfl
  have hread : (cd.coolAsync x).stepRead sh x = .ok ((cd.coolAsync x).shiftRead x, sh) := by
    have hs : (cd.coolAsync x).readState = cd.readState := rfl
    rw [stepRead, hs]
    cases hstate : cd.readState with
    | idle =>
        rw [shiftRead_idle (hs.trans hstate)]
        rfl
    | reading delay =>
        rw [shiftRead_reading (hs.trans hstate)]
        exact if_pos (hw.read delay hstate)
  rw [syncStep, stepSubCpu_idle hin, ok_bind]
  dsimp only
  rw [hasync, ok_bind]
  dsimp only
  rw [hread]
  rfl

/-- A cut before the countdowns of an idle sub-CPU end: the response sequence
starts in the second part, as it does without the cut. -/
lemma agree_cut_ready {cd : CdRom I} (hin : cd.subCpu.inCommand = false) {x y : U32}
    (hw : cd.Waits x.toNat) (hxy : x.toNat + y.toNat < 2 ^ 32) (sh : SharedState) :
    Related Agree (((cd.coolAsync x).shiftRead x).syncStep sh y >>= fun t => pure t.2)
      (cd.syncStep sh (x + y) >>= fun t => pure t.2) := by
  have hin' : ((cd.coolAsync x).shiftRead x).subCpu.inCommand = false := hin
  rw [syncStep, syncStep, stepSubCpu_idle hin, stepSubCpu_idle hin', ok_bind, ok_bind]
  dsimp only
  rw [bind_assoc, bind_assoc]
  have hstate := stepAsync_readState cd sh (x + y)
  have hrel := behind_stepAsync hw hxy (rfl : sh.irqState = sh.irqState)
  generalize ((cd.coolAsync x).shiftRead x).stepAsync sh y = a at hrel ⊢
  generalize cd.stepAsync sh (x + y) = b at hrel hstate ⊢
  cases hrel with
  | error e => exact .error e
  | @ok s s' hb =>
      have hlt (delay : U32) (hd : s'.1.readState = .reading delay) : x.toNat < delay.toNat := by
        rcases hstate with ⟨h, -⟩ | h
        · exact hw.read delay (h ▸ hd)
        · rw [h] at hd
          cases hd
      have hstep := behind_stepRead hlt hxy hb.irqState
      rw [← hb.cd] at hstep
      simp only [ok_bind, bind_assoc]
      exact hstep.bind fun t t' ht => .ok ht

/-! ### The rest of the loop -/

/-- A cut within one iteration goes unnoticed by the rest of the loop. -/
lemma syncOver_of_cut {cd : CdRom I} (hcd : cd.Sequenced) {sh : SharedState} {x y e : U32}
    (hx : x ≠ 0) (hy : y ≠ 0) (hxy : x.toNat + y.toNat < 2 ^ 32)
    (hfirst : Post (fun _ => True) (cd.syncStep sh x) fun t => t.1 = x)
    (hwhole : Post (fun _ => True) (cd.syncStep sh (x + y)) fun t => t.1 = x + e)
    (hcut : (cd.syncStep sh x >>= fun t => t.2.1.syncStep t.2.2 y) =
      cd.syncStep sh (x + y) >>= fun t => pure (e, t.2)) :
    (cd.syncOver sh x >>= fun s => s.1.syncOver s.2 y) = cd.syncOver sh (x + y) := by
  have hne : x + y ≠ 0 := by bv_omega
  calc (cd.syncOver sh x >>= fun s => s.1.syncOver s.2 y)
      = cd.syncStep sh x >>= fun t => t.2.1.syncOver t.2.2 y := by
        rw [syncOver_step hcd sh hx, bind_assoc]
        refine bind_congr_ok fun t ht => ?_
        rw [hfirst.of_ok ht, BitVec.sub_self]
        rfl
    _ = (cd.syncStep sh x >>= fun t => t.2.1.syncStep t.2.2 y) >>=
          fun t => t.2.1.syncOver t.2.2 (y - t.1) := by
        rw [bind_assoc]
        refine bind_congr_ok fun t ht => ?_
        have hmoves := ((post_syncStep (fun _ => True) hcd sh hx).of_ok ht).2.2
        exact syncOver_step (hmoves.sequenced hcd) t.2.2 hy
    _ = cd.syncStep sh (x + y) >>= fun t => t.2.1.syncOver t.2.2 (y - e) := by
        rw [hcut, bind_assoc]
        rfl
    _ = cd.syncStep sh (x + y) >>= fun t => t.2.1.syncOver t.2.2 (x + y - t.1) := by
        refine bind_congr_ok fun t ht => ?_
        rw [hwhole.of_ok ht, show x + y - (x + e) = y - e by bv_omega]
    _ = cd.syncOver sh (x + y) := (syncOver_step hcd sh hne).symm

/-- An idle sub-CPU takes one iteration. -/
lemma syncOver_idle {cd : CdRom I} (hin : cd.subCpu.inCommand = false) (sh : SharedState)
    {n : U32} (hn : n ≠ 0) : cd.syncOver sh n = cd.syncStep sh n >>= fun t => pure t.2 := by
  have hidle : cd.subCpu.sequence = .idle := by
    simpa [SubCpu.inCommand] using hin
  rw [syncOver_step (sequenced_of_idle hidle) sh hn]
  refine bind_congr_ok fun t ht => ?_
  rw [(post_elapsed (stepSubCpu_idle hin sh n)).of_ok ht, BitVec.sub_self]
  rfl

end CdRom

end Rustation
