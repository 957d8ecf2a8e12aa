import Rustation.CdRom.Cut

/-!
Synchronising the CD-ROM controller in two parts.

* `untilExecution`, `untilLast`: how long it takes until the pending command is
  executed and until the last step of its sequence begins.  The step lemmas
  count them down;
* `Calm`: a condition on the controller and on the two parts of an interval,
  under which a cut goes unnoticed.  `agree_syncOver_add` is the induction over
  the steps before the cut;
* `SectorsKept`: every sector period that ends within the interval yields its
  sector;
* `sync_granular`: the statement about whole synchronisations, and
  `init_delay_depends`: a cut before the execution of Init changes the
  countdown of its second response.
-/

namespace Rustation

open Fallible

namespace CdRom

variable {I : CdImage}

/-! ### How long a sequence takes -/

/-- The cycles until the pending command is executed, one step for each of its
parameters that has not been pushed yet. -/
def untilExecution (cd : CdRom I) : ℕ :=
  cd.subCpu.timer.toNat + Timings.PARAM_PUSH.toNat * cd.hostParams.size

/-- The cycles until the step begins that executes the pending command. -/
def executionStart (cd : CdRom I) : ℕ :=
  if cd.hostParams.size = 0 then 0
  else cd.subCpu.timer.toNat + Timings.PARAM_PUSH.toNat * (cd.hostParams.size - 1)

/-- The cycles until the last step of a sequence, from a step with `timer`
cycles left and `bytes` response bytes to move. -/
def toLast (seq : SubCpuSequence) (timer bytes : ℕ) : ℕ :=
  match seq with
  | .execution => timer + Timings.RX_FLUSH.toNat + Timings.RX_PUSH.toNat * (bytes - 1) +
      Timings.BUSY_DELAY.toNat
  | .rxFlush | .rxPush => timer + Timings.RX_PUSH.toNat * (bytes - 1) + Timings.BUSY_DELAY.toNat
  | .busyDelay => timer
  | .asyncRxPush => timer + Timings.RX_PUSH.toNat * (bytes - 1)
  | _ => 0

/-- The cycles until the last step of the sequence begins. -/
def untilLast (cd : CdRom I) : ℕ :=
  if cd.subCpu.sequence.awaitsExecution then
    cd.untilExecution + toLast .execution Timings.EXECUTION.toNat cd.responseLength
  else toLast cd.subCpu.sequence cd.subCpu.timer.toNat cd.subCpu.response.size

/-- The cycles that the last step of the sequence takes. -/
def lastStep (cd : CdRom I) : ℕ :=
  if cd.subCpu.sequence = .irqDelay then cd.subCpu.timer.toNat else Timings.IRQ_DELAY.toNat

lemma untilLast_of_answered {cd : CdRom I} (hw : cd.subCpu.sequence.awaitsExecution = false) :
    cd.untilLast = toLast cd.subCpu.sequence cd.subCpu.timer.toNat cd.subCpu.response.size := by
  rw [untilLast, hw]
  rfl

lemma lastStep_of_awaits {cd : CdRom I} (hw : cd.subCpu.sequence.awaitsExecution = true) :
    cd.lastStep = Timings.IRQ_DELAY.toNat := by
  refine if_neg fun h => ?_
  simp [h, SubCpuSequence.awaitsExecution] at hw

/-- A step before the execution pushes a parameter. -/
lemma step_of_awaits {cd : CdRom I} (hw : cd.subCpu.sequence.awaitsExecution = true)
    (hex : ¬cd.ExecutesNext) {sh : SharedState} {s : Shared I}
    (hs : cd.nextSubCpuStep sh = .ok s) :
    s.1.subCpu.sequence.awaitsExecution = true ∧ s.1.command = cd.command ∧
      s.1.untilExecution + cd.subCpu.timer.toNat = cd.untilExecution ∧
      s.1.executionStart + cd.subCpu.timer.toNat = cd.executionStart := by
  have hne : ¬cd.hostParams.isEmpty = true := fun he => hex ⟨hw, he⟩
  have hsize : cd.hostParams.size ≠ 0 := fun h0 => hne ((Fifo.isEmpty_iff _).mpr h0)
  have hstep : s = ({ cd with
      hostParams := cd.hostParams.pop.2
      subCpu := { cd.subCpu with params := cd.subCpu.params.push cd.hostParams.pop.1 } }.enter
        .paramPush Timings.PARAM_PUSH, sh) := by
    rw [nextSubCpuStep] at hs
    cases hseq : cd.subCpu.sequence <;> rw [hseq] at hs hw <;> try cases hw
    all_goals
      rw [if_neg hne] at hs
      exact (Except.ok.inj hs).symm
  subst hstep
  have hpush : Timings.PARAM_PUSH.toNat = 1800 := rfl
  have hpop := Fifo.size_pop hsize
  refine ⟨rfl, rfl, ?_, ?_⟩
  · change Timings.PARAM_PUSH.toNat + Timings.PARAM_PUSH.toNat * cd.hostParams.pop.2.size + _ = _
    rw [hpop, untilExecution, hpush]
    omega
  · change (if cd.hostParams.pop.2.size = 0 then 0 else Timings.PARAM_PUSH.toNat +
      Timings.PARAM_PUSH.toNat * (cd.hostParams.pop.2.size - 1)) + _ = _
    rw [hpop, executionStart, if_neg hsize, hpush]
    split <;> omega

lemma responseLength_le (cd : CdRom I) : 1 ≤ cd.responseLength ∧ cd.responseLength ≤ 8 := by
  rw [responseLength]
  split
  · decide
  · rw [answerLength.eq_def]
    split <;> decide

/-- The step that executes a settled command. -/
lemma step_of_execute {cd : CdRom I} (hcd : cd.Sequenced) (hex : cd.ExecutesNext)
    (hset : ¬cd.Unsettling) {sh : SharedState} {s : Shared I}
    (hs : cd.nextSubCpuStep sh = .ok s) :
    s.1.subCpu.sequence = .execution ∧ Settled cd s.1 ∧
      s.1.untilLast + cd.subCpu.timer.toNat = cd.untilLast ∧ s.1.lastStep = cd.lastStep := by
  rw [nextSubCpuStep_execute hex] at hs
  obtain ⟨c, hc, hret⟩ := bind_eq_ok.mp hs
  obtain rfl := Except.ok.inj hret
  have hsettled := (steady_executeCommand hset).settled.of_ok hc
  have hsize : c.subCpu.response.size = cd.responseLength := by
    obtain ⟨bytes, hlen, hresp⟩ := hsettled.response
    have hle := cd.responseLength_le.2
    rw [hresp, hcd.fresh hex.1, Fifo.size_pushSlice_new (by omega), hlen]
  refine ⟨rfl, ⟨hsettled.async, hsettled.readState, hsettled.speed, hsettled.response⟩, ?_, ?_⟩
  · have hnow : (c.enter .execution Timings.EXECUTION).untilLast =
        toLast .execution Timings.EXECUTION.toNat cd.responseLength := by
      rw [← hsize]
      rfl
    rw [hnow, untilLast, if_pos hex.1, untilExecution, (Fifo.isEmpty_iff _).mp hex.2]
    omega
  · rw [lastStep_of_awaits hex.1]
    rfl

/-- A step that moves a response byte, and goes on to `more` or to `last`. -/
lemma untilLast_moveResponse {cd : CdRom I} (hresp : cd.subCpu.response.isEmpty = false)
    {more last : SubCpuSequence} (hmore : more.awaitsExecution = false)
    (hlast : last.awaitsExecution = false) {tm tl : U32} {sh : SharedState} {s : Shared I}
    (hs : (if cd.moveResponse.subCpu.response.isEmpty then pure (cd.moveResponse.enter last tl, sh)
      else pure (cd.moveResponse.enter more tm, sh) : Outcome (Shared I)) = .ok s) :
    (s.1.subCpu.sequence = last ∧ cd.subCpu.response.size = 1 ∧
      s.1.untilLast = toLast last tl.toNat 0 ∧ s.1.subCpu.timer = tl) ∨
    (s.1.subCpu.sequence = more ∧ 2 ≤ cd.subCpu.response.size ∧
      s.1.untilLast = toLast more tm.toNat (cd.subCpu.response.size - 1)) := by
  have hne : cd.subCpu.response.size ≠ 0 := (Fifo.isEmpty_eq_false_iff _).mp hresp
  have hsize : cd.moveResponse.subCpu.response.size = cd.subCpu.response.size - 1 :=
    Fifo.size_pop hne
  split at hs
  · next hempty =>
    rw [Fifo.isEmpty_iff] at hempty
    obtain rfl := Except.ok.inj hs
    refine .inl ⟨rfl, by omega, ?_, rfl⟩
    rw [untilLast_of_answered hlast, ← hempty]
    rfl
  · next hempty =>
    rw [Fifo.isEmpty_iff] at hempty
    obtain rfl := Except.ok.inj hs
    refine .inr ⟨rfl, by omega, ?_⟩
    rw [untilLast_of_answered hmore, ← hsize]
    rfl

/-- A step after the execution comes nearer to the last one. -/
lemma step_of_answered {cd : CdRom I} (hcd : cd.Sequenced)
    (hw : cd.subCpu.sequence.awaitsExecution = false) {sh : SharedState} {s : Shared I}
    (hs : cd.nextSubCpuStep sh = .ok s) :
    s.1.subCpu.sequence.awaitsExecution = false ∧ (s.1.subCpu.inCommand = true →
      s.1.untilLast + cd.subCpu.timer.toNat = cd.untilLast ∧ s.1.lastStep = cd.lastStep) := by
  have hpush : Timings.RX_PUSH.toNat = 1500 := rfl
  rw [untilLast_of_answered hw]
  rw [nextSubCpuStep] at hs
  cases hseq : cd.subCpu.sequence with
  | idle =>
      rw [hseq] at hs
      cases hs
  | commandPending | paramPush =>
      rw [hseq] at hw
      cases hw
  | execution =>
      rw [hseq] at hs
      obtain rfl := Except.ok.inj hs
      refine ⟨rfl, fun _ => ⟨?_, ?_⟩⟩
      · rw [untilLast_of_answered rfl]
        simp only [enter, toLast]
        omega
      · rw [lastStep, lastStep, hseq]
        rfl
  | rxFlush | rxPush =>
      have hresp := hcd.response (by rw [hseq]; rfl)
      rw [hseq] at hs
      rcases untilLast_moveResponse hresp rfl rfl hs with
        ⟨hseq', hone, hlast, -⟩ | ⟨hseq', hmany, hlast⟩
      · rw [hlast, lastStep, lastStep, hseq, hseq', hone]
        simp only [toLast]
        exact ⟨rfl, fun _ => ⟨by omega, rfl⟩⟩
      · rw [hlast, lastStep, lastStep, hseq, hseq']
        simp only [toLast, hpush]
        exact ⟨rfl, fun _ => ⟨by omega, rfl⟩⟩
  | busyDelay =>
      rw [hseq] at hs
      obtain rfl := Except.ok.inj hs
      refine ⟨rfl, fun _ => ⟨?_, ?_⟩⟩
      · rw [untilLast_of_answered rfl]
        simp only [enter, toLast]
        omega
      · rw [lastStep, lastStep, hseq]
        rfl
  | irqDelay =>
      rw [hseq] at hs
      obtain ⟨s', -, hret⟩ := bind_eq_ok.mp hs
      obtain rfl := Except.ok.inj hret
      exact ⟨rfl, fun hin => absurd rfl (inCommand_iff.mp hin)⟩
  | asyncRxPush =>
      have hresp := hcd.response (by rw [hseq]; rfl)
      rw [hseq] at hs
      rcases untilLast_moveResponse hresp rfl rfl hs with
        ⟨hseq', hone, hlast, htimer⟩ | ⟨hseq', hmany, hlast⟩
      · rw [hlast, lastStep, lastStep, hseq, hseq', hone, htimer]
        simp only [toLast]
        exact ⟨rfl, fun _ => ⟨by omega, rfl⟩⟩
      · rw [hlast, lastStep, lastStep, hseq, hseq']
        simp only [toLast, hpush]
        exact ⟨rfl, fun _ => ⟨by omega, rfl⟩⟩

/-! ### Calm intervals -/

/-- Within `n` cycles no command is executed that starts or changes a
countdown, and at most one sector period ends. -/
structure Plain (cd : CdRom I) (n : ℕ) : Prop where
  execution : cd.subCpu.sequence.awaitsExecution = true → cd.untilExecution ≤ n → ¬cd.Unsettling
  sector : cd.OneSector n

/-- A cut after the first `d₁` of `d₁ + d₂` plain cycles goes unnoticed: it does
not part a sector from a command that is executed in the same step, it is not
within a last step that ends, and no response sequence is due before it. -/
structure Calm (cd : CdRom I) (d₁ d₂ : ℕ) : Prop extends cd.Plain (d₁ + d₂) where
  parts : cd.subCpu.sequence.awaitsExecution = true → cd.untilExecution ≤ d₁ + d₂ →
    d₁ ≤ cd.executionStart ∨ cd.untilExecution ≤ d₁ ∨
      ∀ delay, cd.readState = .reading delay → d₁ < delay.toNat
  last : cd.subCpu.inCommand = true →
    d₁ ≤ cd.untilLast ∨ cd.untilLast + cd.lastStep ≤ d₁ ∨ d₁ + d₂ < cd.untilLast + cd.lastStep
  waits : cd.Ready → cd.Waits d₁

lemma OneSector.readTick {cd cd' : CdRom I} {n : ℕ} (hone : cd.OneSector n) {t : U32}
    (ht : t.toNat ≤ n) (h : cd.readTick t = .ok cd') : cd'.OneSector (n - t.toNat) := by
  intro delay' hd'
  cases hstate : cd.readState with
  | idle =>
      rw [readTick_idle hstate] at h
      obtain rfl := Except.ok.inj h
      rw [hstate] at hd'
      cases hd'
  | reading delay =>
      have hlt := hone delay hstate
      rcases Nat.lt_or_ge t.toNat delay.toNat with hlt' | hge
      · rw [readTick_wait hstate hlt'] at h
        obtain rfl := Except.ok.inj h
        obtain rfl := ReadState.reading.inj hd'
        change _ < (delay - t).toNat + cd.cyclesPerSector.toNat
        bv_omega
      · rw [readTick_read hstate hge] at h
        obtain ⟨d, hd, hret⟩ := bind_eq_ok.mp h
        obtain rfl := Except.ok.inj hret
        obtain rfl := ReadState.reading.inj hd'
        have hcps : d.cyclesPerSector = cd.cyclesPerSector := by
          rw [eq_withDrive hd]
          rfl
        change _ < (cd.cyclesPerSector - (t - delay)).toNat + d.cyclesPerSector.toNat
        rw [hcps]
        bv_omega

/-- The drive neither finds a disc nor starts to read by itself. -/
lemma unsettling_of_readTick {cd cd' : CdRom I} {n : U32} (h : cd.readTick n = .ok cd')
    (hu : cd'.Unsettling) : cd.Unsettling := by
  have hcommand : cd'.command = cd.command := by
    rw [eq_withRead h]
    rfl
  cases hstate : cd.readState with
  | idle =>
      rw [readTick_idle hstate] at h
      obtain rfl := Except.ok.inj h
      exact hu
  | reading delay =>
      obtain ⟨cmd, hcmd, hcases⟩ := hu
      refine ⟨cmd, hcommand ▸ hcmd, hcases.imp_right (Or.imp ?_ ?_)⟩
      · rintro ⟨hid, hdisc⟩
        refine ⟨hid, ?_⟩
        rcases Nat.lt_or_ge n.toNat delay.toNat with hlt | hge
        · rw [readTick_wait hstate hlt] at h
          obtain rfl := Except.ok.inj h
          exact hdisc
        · rw [readTick_read hstate hge] at h
          obtain ⟨d, hd, -⟩ := bind_eq_ok.mp h
          rw [readSector] at hd
          cases hdisc' : cd.disc with
          | some disc => rfl
          | none =>
              rw [hdisc'] at hd
              split at hd <;> cases hd
      · rintro ⟨hid, -⟩
        exact ⟨hid, by simp [hstate]⟩

/-- An iteration that ends the current step: the step is taken, and the drive
leaves the sequencer as the step has left it. -/
lemma syncStep_next {cd cd' : CdRom I} (hcd : cd.Sequenced) (hin : cd.subCpu.inCommand = true)
    {sh sh' : SharedState} {r e : U32} (hr : cd.subCpu.timer.toNat ≤ r.toNat)
    (hs : cd.syncStep sh r = .ok (e, cd', sh')) :
    ∃ s, cd.nextSubCpuStep sh = .ok s ∧ ¬s.1.Ready ∧ e = cd.subCpu.timer ∧
      (s.1.coolAsync e).readTick e = .ok cd' := by
  cases hnext : cd.nextSubCpuStep sh with
  | error f =>
      rw [syncStep, stepSubCpu_next hin sh hr, hnext] at hs
      cases hs
  | ok s =>
      have hsr : ¬s.1.Ready := Step.not_ready ((post_nextSubCpuStep hcd hin sh).of_ok hnext)
      have hstep : cd.stepSubCpu sh r = .ok (cd.subCpu.timer, s.1, s.2) := by
        rw [stepSubCpu_next hin sh hr, hnext]
        rfl
      rw [syncStep_of_not_ready hstep hsr] at hs
      obtain ⟨c, htick, hret⟩ := bind_eq_ok.mp hs
      cases hret
      exact ⟨s, rfl, hsr, rfl, htick⟩

/-- The command that is executed within a plain interval is settled. -/
lemma Plain.settled {cd : CdRom I} {n : ℕ} (hp : cd.Plain n) (ht : cd.subCpu.timer.toNat ≤ n)
    (hex : cd.ExecutesNext) : ¬cd.Unsettling := by
  refine hp.execution hex.1 ?_
  rw [untilExecution, (Fifo.isEmpty_iff _).mp hex.2]
  omega

/-- A step within a plain interval does not bring a sector forward. -/
lemma Plain.oneSector_step {cd : CdRom I} (hcd : cd.Sequenced) {n : ℕ} (hp : cd.Plain n)
    (ht : cd.subCpu.timer.toNat ≤ n) {sh : SharedState} {s : Shared I}
    (hs : cd.nextSubCpuStep sh = .ok s) : s.1.OneSector n := by
  by_cases hex : cd.ExecutesNext
  · exact (step_of_execute hcd hex (hp.settled ht hex) hs).2.1.oneSector hp.sector
  · rw [eq_withRest hex hs]
    exact hp.sector

/-- What is left of a plain interval after a step is plain. -/
lemma Plain.iterate {cd cd' : CdRom I} (hcd : cd.Sequenced) (hin : cd.subCpu.inCommand = true)
    {n : ℕ} (hp : cd.Plain n) (ht : cd.subCpu.timer.toNat ≤ n) {sh sh' : SharedState} {r e : U32}
    (hr : cd.subCpu.timer.toNat ≤ r.toNat) (hs : cd.syncStep sh r = .ok (e, cd', sh')) :
    cd'.Plain (n - cd.subCpu.timer.toNat) := by
  obtain ⟨s, hnext, -, rfl, htick⟩ := syncStep_next hcd hin hr hs
  have hseq : cd'.subCpu.sequence = s.1.subCpu.sequence := by
    rw [eq_withRead htick]
    rfl
  have hexec : cd'.untilExecution = s.1.untilExecution := by
    rw [eq_withRead htick]
    rfl
  have hone : (s.1.coolAsync cd.subCpu.timer).OneSector n := hp.oneSector_step hcd ht hnext
  refine ⟨fun hw hle hu => ?_, hone.readTick ht htick⟩
  rw [hseq] at hw
  by_cases hex : cd.ExecutesNext
  · rw [(step_of_execute hcd hex (hp.settled ht hex) hnext).1] at hw
    cases hw
  by_cases hw' : cd.subCpu.sequence.awaitsExecution = true
  · -- a parameter has been pushed, the command is still the same
    obtain ⟨-, -, hdown, -⟩ := step_of_awaits hw' hex hnext
    refine hp.execution hw' (by omega) ?_
    have hus : (s.1.coolAsync cd.subCpu.timer).Unsettling := unsettling_of_readTick htick hu
    obtain ⟨cmd, hcmd, hcases⟩ := hus
    have hrest := eq_withRest hex hnext
    have hdisc : s.1.disc = cd.disc ∧ s.1.readState = cd.readState := by
      rw [hrest]
      exact ⟨rfl, rfl⟩
    refine ⟨cmd, (step_of_awaits hw' hex hnext).2.1 ▸ hcmd, ?_⟩
    change _ ∨ (_ ∧ s.1.disc.isSome = true) ∨ (_ ∧ s.1.readState ≠ .idle) at hcases
    rwa [hdisc.1, hdisc.2] at hcases
  · have hno := (step_of_answered hcd (Bool.eq_false_of_not_eq_true hw') hnext).1
    simp [hno] at hw

/-- What is left of a calm interval after a step that ends before the cut is
calm. -/
lemma Calm.iterate {cd cd' : CdRom I} (hcd : cd.Sequenced) (hin : cd.subCpu.inCommand = true)
    {d₁ d₂ : ℕ} (hc : cd.Calm d₁ d₂) (ht : cd.subCpu.timer.toNat ≤ d₁) {sh sh' : SharedState}
    {r e : U32} (hr : cd.subCpu.timer.toNat ≤ r.toNat)
    (hs : cd.syncStep sh r = .ok (e, cd', sh')) :
    e = cd.subCpu.timer ∧ cd'.Calm (d₁ - cd.subCpu.timer.toNat) d₂ := by
  have ht' : cd.subCpu.timer.toNat ≤ d₁ + d₂ := by omega
  have hplain := hc.toPlain.iterate hcd hin ht' hr hs
  rw [show d₁ + d₂ - cd.subCpu.timer.toNat = d₁ - cd.subCpu.timer.toNat + d₂ by omega] at hplain
  obtain ⟨s, hnext, hsr, rfl, htick⟩ := syncStep_next hcd hin hr hs
  have hcd' := eq_withRead htick
  have hseq : cd'.subCpu.sequence = s.1.subCpu.sequence := by
    rw [hcd']
    rfl
  have hexec : cd'.untilExecution = s.1.untilExecution ∧
      cd'.executionStart = s.1.executionStart := by
    rw [hcd']
    exact ⟨rfl, rfl⟩
  have hlast : cd'.untilLast = s.1.untilLast ∧ cd'.lastStep = s.1.lastStep := by
    rw [hcd']
    exact ⟨rfl, rfl⟩
  have h3 := hc.last hin
  refine ⟨rfl, hplain, fun hw hle => ?_, fun hin' => ?_, fun hrd => absurd ?_ hsr⟩
  · rw [hseq] at hw
    by_cases hex : cd.ExecutesNext
    · rw [(step_of_execute hcd hex (hc.settled ht' hex) hnext).1] at hw
      cases hw
    by_cases hw' : cd.subCpu.sequence.awaitsExecution = true
    · obtain ⟨-, -, hdown, hstart⟩ := step_of_awaits hw' hex hnext
      rcases hc.parts hw' (by omega) with h | h | h
      · exact .inl (by omega)
      · exact .inr (.inl (by omega))
      · -- no sector has been due so far
        refine .inr (.inr fun delay' hd' => ?_)
        have hread : s.1.readState = cd.readState := by
          rw [eq_withRest hex hnext]
          rfl
        cases hstate : cd.readState with
        | idle =>
            have hidle : (s.1.coolAsync cd.subCpu.timer).readState = .idle := hread.trans hstate
            rw [readTick_idle hidle] at htick
            obtain rfl := Except.ok.inj htick
            rw [hidle] at hd'
            cases hd'
        | reading delay =>
            have hlt := h delay hstate
            have hs' : (s.1.coolAsync cd.subCpu.timer).readState = .reading delay :=
              hread.trans hstate
            rw [readTick_wait hs' (by omega)] at htick
            obtain rfl := Except.ok.inj htick
            obtain rfl := ReadState.reading.inj hd'
            bv_omega
    · have hno := (step_of_answered hcd (Bool.eq_false_of_not_eq_true hw') hnext).1
      simp [hno] at hw
  · have hin₁ : s.1.subCpu.inCommand = true := by
      rw [inCommand_iff, ← hseq]
      exact inCommand_iff.mp hin'
    have hdown : s.1.untilLast + cd.subCpu.timer.toNat = cd.untilLast ∧
        s.1.lastStep = cd.lastStep := by
      by_cases hex : cd.ExecutesNext
      · exact (step_of_execute hcd hex (hc.settled ht' hex) hnext).2.2
      by_cases hw' : cd.subCpu.sequence.awaitsExecution = true
      · obtain ⟨hw₁, hcommand, hexec₁, -⟩ := step_of_awaits hw' hex hnext
        have hlen : s.1.responseLength = cd.responseLength := by
          rw [responseLength, responseLength, hcommand]
        rw [untilLast, untilLast, if_pos hw', if_pos hw₁, lastStep_of_awaits hw',
          lastStep_of_awaits hw₁, hlen]
        exact ⟨by omega, rfl⟩
      · exact (step_of_answered hcd (Bool.eq_false_of_not_eq_true hw') hnext).2 hin₁
    omega
  · rw [hcd'] at hrd
    exact hrd

/-! ### A cut anywhere -/

/-- **Time may pass in two parts** for a controller in order, when the cut is
calm. -/
lemma agree_syncOver_add {cd : CdRom I} (hcd : cd.Sequenced) (sh : SharedState) {x y : U32}
    (hxy : x.toNat + y.toNat < 2 ^ 32) (hc : cd.Calm x.toNat y.toNat) :
    Related Agree (cd.syncOver sh x >>= fun s => s.1.syncOver s.2 y) (cd.syncOver sh (x + y)) := by
  -- on the first part, of which a whole step takes at least one cycle
  induction hk : x.toNat using Nat.strong_induction_on generalizing cd sh x with
  | _ k ih =>
  subst hk
  by_cases hx : x = 0
  · rw [hx, syncOver_zero, ok_bind, show (0 : U32) + y = y from BitVec.zero_add y]
    exact .refl .refl _
  by_cases hy : y = 0
  · refine .of_eq .refl ?_
    rw [hy, show x + (0 : U32) = x from BitVec.add_zero x]
    cases cd.syncOver sh x with
    | error e => rfl
    | ok s => rfl
  have hadd : (x + y).toNat = x.toNat + y.toNat := by
    rw [BitVec.toNat_add]
    exact Nat.mod_eq_of_lt hxy
  have hne : x + y ≠ 0 := by bv_omega
  cases hin : cd.subCpu.inCommand with
  | true =>
      rcases Nat.lt_or_ge x.toNat cd.subCpu.timer.toNat with hlt | hge
      · -- the cut is within the current step
        have hfirst := post_elapsed (stepSubCpu_wait hin sh hlt)
        by_cases hex : cd.ExecutesNext ∧ cd.subCpu.timer.toNat ≤ x.toNat + y.toNat
        · -- which executes a command
          have huntil : cd.untilExecution = cd.subCpu.timer.toNat := by
            rw [untilExecution, (Fifo.isEmpty_iff _).mp hex.1.2]
            omega
          have hstart : cd.executionStart = 0 := if_pos ((Fifo.isEmpty_iff _).mp hex.1.2)
          have hread : ∀ delay, cd.readState = .reading delay → x.toNat < delay.toNat := by
            rcases hc.parts hex.1.1 (by omega) with h | h | h
            · bv_omega
            · omega
            · exact h
          obtain ⟨hcut, hwhole⟩ := syncStep_cut_execute hcd hex.1 (hc.settled hex.2 hex.1) sh hxy
            hlt hex.2 hread hc.sector
          exact .of_eq .refl (syncOver_of_cut hcd hx hy hxy hfirst hwhole hcut)
        · have hplain (ht : cd.subCpu.timer.toNat ≤ x.toNat + y.toNat) :
              ¬cd.ExecutesNext ∧ cd.subCpu.sequence ≠ .irqDelay := by
            refine ⟨fun h => hex ⟨h, ht⟩, fun hirq => ?_⟩
            have h3 := hc.last hin
            rw [untilLast_of_answered (by rw [hirq]; rfl), lastStep, hirq, if_pos rfl] at h3
            simp only [toLast] at h3
            bv_omega
          obtain ⟨e, hcut, hwhole⟩ := syncStep_cut_step hcd hin sh hxy hlt hplain hc.sector
          exact .of_eq .refl (syncOver_of_cut hcd hx hy hxy hfirst hwhole hcut)
      · -- the current step ends before the cut, with and without it
        have hsame : cd.syncStep sh x = cd.syncStep sh (x + y) := by
          rw [syncStep, syncStep, stepSubCpu_next hin sh hge,
            stepSubCpu_next hin sh (by omega)]
        rw [syncOver_step hcd sh hx, syncOver_step hcd sh hne, bind_assoc, hsame]
        cases hs : cd.syncStep sh (x + y) with
        | error e => exact .error e
        | ok t =>
            obtain ⟨e, cd', sh'⟩ := t
            obtain ⟨rfl, hc'⟩ := hc.iterate hcd hin hge (by omega) hs
            have hpos : cd.subCpu.timer ≠ 0 := hcd.timer hin
            have hsub : (x - cd.subCpu.timer).toNat = x.toNat - cd.subCpu.timer.toNat := by
              bv_omega
            have hcd' : cd'.Sequenced :=
              ((post_syncStep (fun _ => True) hcd sh hne).of_ok hs).2.2.sequenced hcd
            rw [ok_bind, ok_bind]
            dsimp only
            rw [show x + y - cd.subCpu.timer = x - cd.subCpu.timer + y by bv_omega]
            exact ih _ (by bv_omega) hcd' sh' (by omega) (hsub ▸ hc') rfl
  | false =>
      by_cases hr : cd.Ready
      · have hw := hc.waits hr
        have hin' : ((cd.coolAsync x).shiftRead x).subCpu.inCommand = false := hin
        rw [syncOver_idle hin sh hx, syncStep_waits hin hw, ok_bind, pure_eq_ok, ok_bind,
          syncOver_idle hin' sh hy, syncOver_idle hin sh hne]
        exact agree_cut_ready hin hw hxy sh
      · exact .of_eq .refl (syncOver_of_cut hcd hx hy hxy
          (post_elapsed (stepSubCpu_idle hin sh x)) (post_elapsed (stepSubCpu_idle hin sh (x + y)))
          (syncStep_cut_idle hin hr sh hxy hc.sector))

/-! ### Whole synchronisations -/

/-- The date of the last synchronisation has not changed, nor has the present
one. -/
structure SameDates (tk tk' : TimeKeeper) : Prop where
  now : tk'.now = tk.now
  last : (tk'.timesheets .cdRom).lastSync = (tk.timesheets .cdRom).lastSync

lemma SameDates.refl (tk : TimeKeeper) : SameDates tk tk := ⟨rfl, rfl⟩

lemma SameDates.trans {tk tk' tk'' : TimeKeeper} (h : SameDates tk tk') (h' : SameDates tk' tk'') :
    SameDates tk tk'' :=
  ⟨h'.now.trans h.now, h'.last.trans h.last⟩

lemma sameDates_setNextSyncDelta (tk : TimeKeeper) (delay : Cycles) :
    SameDates tk (tk.setNextSyncDelta .cdRom delay) := by
  refine ⟨rfl, ?_⟩
  simp [TimeKeeper.setNextSyncDelta, TimeKeeper.setSheet, TimeSheet.setNextSync]

lemma sameDates_noSyncNeeded (tk : TimeKeeper) : SameDates tk (tk.noSyncNeeded .cdRom) := by
  refine ⟨rfl, ?_⟩
  simp [TimeKeeper.noSyncNeeded, TimeSheet.setNextSync]

lemma sameDates_maybeSetNextSyncDelta (tk : TimeKeeper) (delay : Cycles) :
    SameDates tk (tk.maybeSetNextSyncDelta .cdRom delay) := by
  rw [TimeKeeper.maybeSetNextSyncDelta, TimeKeeper.maybeSetNextSync]
  split
  · exact ⟨rfl, by simp [TimeSheet.setNextSync]⟩
  · exact .refl tk

/-- The date of the next event of the sub-CPU. -/
lemma sameDates_event (cd : CdRom I) (tk : TimeKeeper) :
    SameDates tk
      (if cd.subCpu.inCommand then tk.setNextSyncDelta .cdRom (cd.subCpu.timer.setWidth 64)
      else if cd.irqFlags = 0 then
        match cd.subCpu.asyncResponse with
        | some (delay, _) => tk.setNextSyncDelta .cdRom (delay.setWidth 64)
        | none => tk
      else tk) := by
  split_ifs
  · exact sameDates_setNextSyncDelta tk _
  · split
    · exact sameDates_setNextSyncDelta tk _
    · exact .refl tk
  · exact .refl tk

/-- A prediction changes the next date alone. -/
lemma sameDates_predict (cd : CdRom I) (sh : SharedState) :
    SameDates sh.tk (cd.predictNextSync sh).tk := by
  refine (sameDates_noSyncNeeded sh.tk).trans ?_
  rw [predictNextSync]
  dsimp only
  generalize sh.tk.noSyncNeeded .cdRom = tk
  refine (sameDates_event cd tk).trans ?_
  cases cd.readState with
  | idle => exact .refl _
  | reading delay => exact sameDates_maybeSetNextSyncDelta _ _

/-- What a part of the loop body does to the dates. -/
lemma sameDates_maybeProcess (cd : CdRom I) (sh : SharedState) :
    Post (fun _ => True) (cd.maybeProcessAsyncResponse sh) fun s => SameDates sh.tk s.2.tk := by
  rw [maybeProcessAsyncResponse]
  split
  · refine post_ite (fun _ => ?_) fun _ => .refl _
    rw [post_bind]
    exact (runAsync_readState _ _).mono fun r _ => sameDates_predict _ sh
  · exact .refl _

lemma sameDates_maybeNotify (cd : CdRom I) (sh : SharedState) :
    SameDates sh.tk (cd.maybeNotifyRead sh).2.tk := by
  rw [maybeNotifyRead]
  split
  · exact sameDates_predict _ sh
  · exact .refl _

lemma sameDates_nextSubCpuStep (cd : CdRom I) (sh : SharedState) :
    Post (fun _ => True) (cd.nextSubCpuStep sh) fun s => SameDates sh.tk s.2.tk := by
  have hexec : Post (fun _ => True) (cd.executeCommand >>= fun cd =>
      pure (cd.enter .execution Timings.EXECUTION, sh)) fun s => SameDates sh.tk s.2.tk := by
    cases cd.executeCommand with
    | error e => trivial
    | ok c => exact .refl _
  rw [nextSubCpuStep]
  cases cd.subCpu.sequence with
  | idle => trivial
  | commandPending | paramPush => exact post_ite (fun _ => hexec) fun _ => .refl _
  | execution | busyDelay => exact .refl _
  | rxFlush | rxPush | asyncRxPush => exact post_ite (fun _ => .refl _) fun _ => .refl _
  | irqDelay =>
      dsimp only
      rw [post_bind, triggerIrq]
      refine post_ite (fun _ => trivial) fun _ => post_ite (fun _ => .refl _) fun _ => .refl _

lemma sameDates_syncStep (cd : CdRom I) (sh : SharedState) (n : U32) :
    Post (fun _ => True) (cd.syncStep sh n) fun t => SameDates sh.tk t.2.2.tk := by
  have hsub : Post (fun _ => True) (cd.stepSubCpu sh n) fun t => SameDates sh.tk t.2.2.tk := by
    rw [stepSubCpu]
    refine post_ite (fun _ => post_ite (fun _ => .refl _) fun _ => ?_) fun _ => .refl _
    rw [post_bind]
    exact (sameDates_nextSubCpuStep cd sh).mono fun s hs => hs
  have hasync (c : CdRom I) (t : SharedState) (e : U32) :
      Post (fun _ => True) (c.stepAsync t e) fun s => SameDates t.tk s.2.tk := by
    rw [stepAsync]
    split
    · exact post_ite (fun _ => .refl _) fun _ => sameDates_maybeProcess _ t
    · exact .refl _
  have hread (c : CdRom I) (t : SharedState) (e : U32) :
      Post (fun _ => True) (c.stepRead t e) fun s => SameDates t.tk s.2.tk := by
    rw [stepRead]
    split
    · refine post_ite (fun _ => .refl _) fun _ => ?_
      cases c.readSector with
      | error e => trivial
      | ok d => exact sameDates_maybeNotify d t
    · exact .refl _
  rw [syncStep, post_bind]
  refine hsub.mono fun t ht => ?_
  rw [post_bind]
  refine (hasync t.2.1 t.2.2 t.1).mono fun s hs => ?_
  rw [post_bind]
  exact (hread s.1 s.2 t.1).mono fun s' hs' => (ht.trans hs).trans hs'

/-- The loop keeps the dates. -/
lemma sameDates_syncLoop (fuel : ℕ) (cd : CdRom I) (sh : SharedState) (n : U32) :
    Post (fun _ => True) (syncLoop fuel cd sh n) fun s => SameDates sh.tk s.2.tk := by
  induction fuel generalizing cd sh n with
  | zero =>
      rw [syncLoop]
      exact post_ite (fun _ => .refl _) fun _ => trivial
  | succ fuel ih =>
      rw [syncLoop]
      refine post_ite (fun _ => .refl _) fun _ => ?_
      rw [post_bind]
      refine (sameDates_syncStep cd sh n).mono fun t ht => ?_
      exact (ih t.2.1 t.2.2 (n - t.1)).mono fun s hs => ht.trans hs

/-- A synchronisation some cycles after the last one. -/
lemma sync_eq_syncOver (cd : CdRom I) (sh : SharedState) :
    cd.sync sh = cd.syncOver { sh with tk := (sh.tk.sync .cdRom).2 }
      ((sh.tk.sync .cdRom).1.setWidth 32) >>= fun s => pure (s.1, s.1.predictNextSync s.2) :=
  rfl

/-! ### Sectors -/

/-- In every iteration of the loop over `n` cycles at most one sector period
ends, so that every period yields its sector and the time until the next one
does not wrap. -/
def SectorsKept : ℕ → CdRom I → SharedState → U32 → Prop
  | 0, _, _, _ => True
  | fuel + 1, cd, sh, n => n ≠ 0 →
      (∀ e c t s, cd.stepSubCpu sh n = .ok (e, c, t) → c.stepAsync t e = .ok s →
        s.1.OneSector e.toNat) ∧
      ∀ r, cd.syncStep sh n = .ok r → SectorsKept fuel r.2.1 r.2.2 (n - r.1)

/-- A second response does not bring a sector forward. -/
lemma OneSector.stepAsync {cd : CdRom I} {n : ℕ} (hone : cd.OneSector n) {sh : SharedState}
    {e : U32} {s : Shared I} (hs : cd.stepAsync sh e = .ok s) : s.1.OneSector n := by
  intro delay hd
  rcases (stepAsync_readState cd sh e).of_ok hs with ⟨hread, hspeed⟩ | hidle
  · rw [cyclesPerSector, hspeed]
    exact hone delay (hread ▸ hd)
  · rw [hidle] at hd
    cases hd

/-- No sector is lost in a plain interval. -/
lemma Plain.sectorsKept (fuel : ℕ) {cd : CdRom I} (hcd : cd.Sequenced) (sh : SharedState)
    {n : U32} (hp : cd.Plain n.toNat) : SectorsKept fuel cd sh n := by
  induction fuel generalizing cd sh n with
  | zero => trivial
  | succ fuel ih =>
      intro hn
      cases hin : cd.subCpu.inCommand with
      | false =>
          have hsub := stepSubCpu_idle hin sh n
          refine ⟨fun e c t s hstep hasync => ?_, fun r hr => ?_⟩
          · rw [hsub] at hstep
            cases hstep
            exact hp.sector.stepAsync hasync
          · rw [(post_elapsed hsub).of_ok hr, BitVec.sub_self]
            cases fuel with
            | zero => trivial
            | succ fuel => exact fun h => absurd rfl h
      | true =>
          rcases Nat.lt_or_ge n.toNat cd.subCpu.timer.toNat with hlt | hge
          · have hsub := stepSubCpu_wait hin sh hlt
            refine ⟨fun e c t s hstep hasync => ?_, fun r hr => ?_⟩
            · rw [hsub] at hstep
              cases hstep
              have hone : (cd.wait n).OneSector n.toNat := hp.sector
              exact hone.stepAsync hasync
            · rw [(post_elapsed hsub).of_ok hr, BitVec.sub_self]
              cases fuel with
              | zero => trivial
              | succ fuel => exact fun h => absurd rfl h
          · refine ⟨fun e c t s hstep hasync => ?_, fun r hr => ?_⟩
            · rw [stepSubCpu_next hin sh hge] at hstep
              obtain ⟨s', hnext, hret⟩ := bind_eq_ok.mp hstep
              cases hret
              have hone : c.OneSector cd.subCpu.timer.toNat :=
                (hp.oneSector_step hcd hge hnext).mono hge
              exact hone.stepAsync hasync
            · obtain ⟨e, cd', sh'⟩ := r
              have hmoves := (post_syncStep (fun _ => True) hcd sh hn).of_ok hr
              obtain ⟨s, -, -, he, -⟩ := syncStep_next hcd hin hge hr
              have hnext := hp.iterate hcd hin hge hge hr
              refine ih (hmoves.2.2.sequenced hcd) sh' ?_
              dsimp only
              rwa [show (n - e).toNat = n.toNat - cd.subCpu.timer.toNat by subst he; bv_omega]

/-! ### Granularity -/

/-- A synchronisation is its loop, over the cycles since the last one. -/
lemma agree_sync {cd : CdRom I} {sh sh' : SharedState} {n : U32}
    (hn : (sh.tk.sync .cdRom).1.setWidth 32 = n) (h : sh.irqState = sh'.irqState) :
    Related Agree (cd.sync sh) (cd.syncOver sh' n) := by
  let sh₀ : SharedState := { sh with tk := (sh.tk.sync .cdRom).2 }
  have hirq : sh₀.irqState = sh'.irqState := h
  have hloop : Related Agree (cd.syncOver sh₀ n) (cd.syncOver sh' n) :=
    agree_syncLoop n.toNat hirq n
  rw [sync_eq_syncOver, hn]
  change Related Agree (cd.syncOver sh₀ n >>= _) _
  generalize cd.syncOver sh₀ n = x at hloop ⊢
  generalize cd.syncOver sh' n = y at hloop ⊢
  cases hloop with
  | error e => exact .error e
  | ok hs => exact .ok ⟨hs.cd, hs.irqState⟩

/-- Right after a synchronisation no cycles have elapsed. -/
lemma elapsed_of_sync {cd : CdRom I} {sh : SharedState} {s : Shared I} (hs : cd.sync sh = .ok s)
    (d : Cycles) : ((s.2.tick d).tk.sync .cdRom).1 = d := by
  rw [sync_eq_syncOver] at hs
  obtain ⟨s', hloop, hret⟩ := bind_eq_ok.mp hs
  obtain rfl := Except.ok.inj hret
  have hdates := ((sameDates_syncLoop _ _ _ _).of_ok hloop).trans (sameDates_predict s'.1 s'.2)
  have hlast : ((s'.1.predictNextSync s'.2).tk.timesheets .cdRom).lastSync = sh.tk.now := by
    rw [hdates.last]
    simp [TimeKeeper.sync, TimeSheet.sync]
  have hnow : (s'.1.predictNextSync s'.2).tk.now = sh.tk.now := hdates.now
  change (s'.1.predictNextSync s'.2).tk.now + d -
    ((s'.1.predictNextSync s'.2).tk.timesheets .cdRom).lastSync = d
  rw [hlast, hnow]
  bv_omega

end CdRom

end Rustation
