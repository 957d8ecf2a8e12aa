import Rustation.CdRom.Controller
import Rustation.Gpu.Pace
import Rustation.Memory.Transfer
import Rustation.PadMemCard.Controller
import Rustation.Timers.Phase

/-!
Every peripheral acts on the shared state through calls on its own time sheets,
and by asserting interrupts.

One lemma for each entry point of a peripheral: `served_sync`, `served_load` and
`served_store` for the timers, `served_access` for the controller of the pads and the
CD-ROM, `Gpu.load_sync` and `Gpu.served_store` for the registers of the GPU.  The DMA
is the exception, as it lets time pass: `Bus.setDmaReg_spec`.
-/

namespace Rustation

open Fallible SharedState

/-- The sheets of the three timers. -/
def Peripheral.IsTimer (p : Peripheral) : Prop := ∃ i : TimerId, p = i.peripheral

lemma not_isTimer_gpu : ¬Peripheral.gpu.IsTimer := by
  rintro ⟨i, hi⟩
  cases i <;> cases hi

lemma not_isTimer_padMemCard : ¬Peripheral.padMemCard.IsTimer := by
  rintro ⟨i, hi⟩
  cases i <;> cases hi

/-! ### The timers -/

namespace Timer

variable {t t' : Timer} {sh sh' : SharedState}

lemma served_predictNextSync (t : Timer) (sh : SharedState) :
    Served (Peripheral.Only t.inst.peripheral) sh (t.predictNextSync sh) := by
  rw [predictNextSync]
  split_ifs
  · exact (Service.noSyncNeeded (Peripheral.only_self _)).served
  · exact (Service.setNextSyncDelta _ (Peripheral.only_self _)).served

/-- A synchronisation begins with the sheet. -/
lemma served_synced (h : t.sync sh = .ok (t', sh')) :
    Served (Peripheral.Only t.inst.peripheral)
      { sh with tk := (sh.tk.sync t.inst.peripheral).2 } sh' := by
  have hinst := (sync_keeps h).1.inst
  by_cases hzero : t.elapsed sh = 0
  · rw [sync_of_elapsed_zero hzero] at h
    cases h
    exact .refl _
  · obtain ⟨u, e, v, irq, -, hirq, heq⟩ := sync_parts h hzero
    obtain ⟨rfl, rfl⟩ := Prod.mk.inj heq
    refine Served.trans ?_ (hinst ▸ served_predictNextSync t' _)
    rw [updateInterrupt] at hirq
    split_ifs at hirq
    · cases hirq
      exact (Service.assert _).served
    · cases hirq
      exact .refl _
    · cases hirq
      exact .refl _

lemma served_sync (h : t.sync sh = .ok (t', sh')) :
    Served (Peripheral.Only t.inst.peripheral) sh sh' :=
  (Service.sync (Peripheral.only_self _)).served.trans (served_synced h)

lemma served_reconfigure {ratio : VideoClock → FracCycles} {gpu : Display}
    (h : t.reconfigure ratio sh gpu = .ok (t', sh')) :
    Served (Peripheral.Only t.inst.peripheral) sh sh' := by
  obtain ⟨clock, -, h⟩ := bind_eq_ok.mp h
  cases clock with
  | gpuDotClock => cases h
  | _ =>
      obtain ⟨ht', rfl⟩ := Prod.mk.inj (Except.ok.inj h)
      rw [ht', show t.inst = t'.inst by rw [← ht']]
      exact served_predictNextSync t' sh

/-- The sheet of a timer is one of those of the timers. -/
lemma isTimer_of_only (t : Timer) (p : Peripheral) (h : Peripheral.Only t.inst.peripheral p) :
    p.IsTimer :=
  ⟨t.inst, h⟩

end Timer

namespace Timers

variable {ts ts' : Timers} {sh sh' : SharedState} {ratio : VideoClock → FracCycles}

lemma served_syncDue {i : TimerId} (h : syncDue (ts, sh) i = .ok (ts', sh')) :
    Served Peripheral.IsTimer sh sh' := by
  unfold syncDue at h
  dsimp only at h
  split_ifs at h
  · obtain ⟨⟨t, s⟩, hsync, heq⟩ := bind_eq_ok.mp h
    cases heq
    exact (Timer.served_sync hsync).mono (Timer.isTimer_of_only _)
  · cases h
    exact .refl sh

/-- What each step of a loop over the timers does, the loop does. -/
lemma served_foldlM {f : Timers × SharedState → TimerId → Outcome (Timers × SharedState)}
    (hf : ∀ {ts ts' sh sh' i}, f (ts, sh) i = .ok (ts', sh') → Served Peripheral.IsTimer sh sh')
    {l : List TimerId} (h : l.foldlM f (ts, sh) = .ok (ts', sh')) :
    Served Peripheral.IsTimer sh sh' := by
  induction l generalizing ts sh with
  | nil =>
      cases h
      exact .refl _
  | cons i l ih =>
      rw [List.foldlM_cons] at h
      obtain ⟨s, hfirst, hrest⟩ := bind_eq_ok.mp h
      exact (hf hfirst).trans (ih hrest)

lemma served_sync (h : ts.sync sh = .ok (ts', sh')) : Served Peripheral.IsTimer sh sh' :=
  served_foldlM served_syncDue h

lemma served_load {width : Width} {offset v : U32}
    (h : ts.load width sh offset = .ok (v, ts', sh')) : Served Peripheral.IsTimer sh sh' := by
  rw [load] at h
  split_ifs at h with hwidth
  · cases h
  obtain ⟨i, -, h⟩ := bind_eq_ok.mp h
  obtain ⟨⟨t, s⟩, hsync, h⟩ := bind_eq_ok.mp h
  have hsh' : s = sh' := by
    dsimp only at h
    split at h
    · cases h
      rfl
    · cases h
      rfl
    · cases h
      rfl
    · cases h
  exact hsh' ▸ (Timer.served_sync hsync).mono (Timer.isTimer_of_only _)

/-- A store may synchronise the GPU as well. -/
lemma served_store {width : Width} {offset val : U32} {d d' : Display}
    (h : ts.store ratio width sh d offset val = .ok (ts', sh', d')) :
    ∃ s s', Served Peripheral.IsTimer sh s ∧ Served Peripheral.IsTimer s' sh' ∧
      ((d' = d ∧ s' = s) ∨ (d', s') = d.sync ratio s) := by
  obtain ⟨i, t, s, u, needs, v, -, hsync, -, -, hconf, -, hd'⟩ := store_parts h
  refine ⟨s, _, (Timer.served_sync hsync).mono (Timer.isTimer_of_only _),
    (Timer.served_reconfigure hconf).mono (Timer.isTimer_of_only _), ?_⟩
  cases needs with
  | false => exact .inl ⟨hd', rfl⟩
  | true => exact .inr (Prod.ext hd' rfl)

lemma served_timingsChanged {gpu : Display} {i : TimerId}
    (h : timingsChanged ratio gpu (ts, sh) i = .ok (ts', sh')) :
    Served Peripheral.IsTimer sh sh' := by
  unfold timingsChanged at h
  dsimp only at h
  obtain ⟨needs, -, h⟩ := bind_eq_ok.mp h
  split_ifs at h
  · obtain ⟨⟨t, s⟩, hsync, h⟩ := bind_eq_ok.mp h
    obtain ⟨⟨u, s'⟩, hconf, h⟩ := bind_eq_ok.mp h
    cases h
    exact ((Timer.served_sync hsync).mono (Timer.isTimer_of_only _)).trans
      ((Timer.served_reconfigure hconf).mono (Timer.isTimer_of_only _))
  · cases h
    exact .refl sh

lemma served_videoTimingsChanged {gpu : Display}
    (h : ts.videoTimingsChanged ratio sh gpu = .ok (ts', sh')) :
    Served Peripheral.IsTimer sh sh' :=
  served_foldlM served_timingsChanged h

end Timers

/-! ### The controllers -/

namespace PadMemCard

variable {p p' : PadMemCard} {sh sh' : SharedState}

/-- The controller calls on its own sheet. -/
abbrev Serves : SharedState → SharedState → Prop := Served (Peripheral.Only .padMemCard)

lemma served_unscheduled (sh : SharedState) :
    Serves { sh with tk := (sh.tk.sync .padMemCard).2 } (unscheduled sh) :=
  (@Service.noSyncNeeded _ { sh with tk := (sh.tk.sync .padMemCard).2 } _
    (Peripheral.only_self .padMemCard)).served

/-- A synchronisation begins with the sheet. -/
lemma served_synced (h : p.sync sh = .ok (p', sh')) :
    Serves { sh with tk := (sh.tk.sync .padMemCard).2 } sh' := by
  cases hbus : p.bus with
  | idle =>
      rw [sync_idle hbus] at h
      cases h
      exact served_unscheduled sh
  | transfer r dsr delay =>
      by_cases hlt : elapsed sh < delay
      · rw [sync_transfer hbus hlt] at h
        cases h
        split_ifs
        · exact (@Service.setNextSyncDelta _ { sh with tk := (sh.tk.sync .padMemCard).2 } _ _
            (Peripheral.only_self .padMemCard)).served
        · exact served_unscheduled sh
      · cases hrx : p.rxNotEmpty with
        | true =>
            rw [sync_end_full hbus hlt hrx] at h
            cases h
        | false =>
            rw [sync_end hbus hlt hrx] at h
            cases h
            refine (served_unscheduled sh).trans ?_
            rw [endedIrq]
            split_ifs
            · exact (Service.assert _).served
            · exact .refl _
  | dsr delay =>
      rw [sync_dsr hbus] at h
      cases h
      exact served_unscheduled sh

lemma served_sync (h : p.sync sh = .ok (p', sh')) : Serves sh sh' :=
  (Service.sync (Peripheral.only_self .padMemCard)).served.trans (served_synced h)

lemma served_setControl {ctrl : U16} (h : p.setControl sh ctrl = .ok (p', sh')) :
    Serves sh sh' := by
  unfold setControl at h
  split_ifs at h
  · cases h
    exact .refl sh
  · have hack : Serves sh (p.acknowledge sh).2 := by
      unfold acknowledge
      dsimp only
      split_ifs
      · exact (Service.assert _).served
      · exact .refl sh
    have hstore : (p.acknowledge sh).1.storeControl (p.acknowledge sh).2 ctrl = .ok (p', sh') := h
    rwa [(storeControl_eq_ok hstore).2]
  · have hstore : p.storeControl sh ctrl = .ok (p', sh') := h
    rw [(storeControl_eq_ok hstore).2]
    exact .refl sh

lemma served_sendCommand {cmd : U8} (h : p.sendCommand sh cmd = .ok (p', sh')) : Serves sh sh' := by
  unfold sendCommand at h
  split_ifs at h
  cases h
  exact (Service.setNextSyncDelta _ (Peripheral.only_self .padMemCard)).served

/-- Whatever the host accesses. -/
lemma served_access {a : Access} (h : access (p, sh) a = .ok (p', sh')) : Serves sh sh' := by
  obtain ⟨⟨q, s⟩, hsync, haccessed⟩ := accessed h
  refine (served_sync hsync).trans ?_
  cases haccessed with
  | kept _ _ => exact .refl _
  | sent _ hsend => exact served_sendCommand hsend
  | controlled _ hcontrol => exact served_setControl hcontrol

end PadMemCard

namespace CdRom

variable {I : CdImage} {cd cd' : CdRom I} {sh sh' : SharedState}

/-- The controller calls on its own sheet. -/
abbrev Serves : SharedState → SharedState → Prop := Served (Peripheral.Only .cdRom)

lemma served_setNext (sh : SharedState) (tk : TimeKeeper) (delta : Cycles) :
    Serves { sh with tk := tk }
      { sh with tk := tk.setNextSyncDelta .cdRom delta } :=
  (@Service.setNextSyncDelta _ { sh with tk := tk } _ _ (Peripheral.only_self .cdRom)).served

lemma served_maybeSetNext (sh : SharedState) (tk : TimeKeeper) (delta : Cycles) :
    Serves { sh with tk := tk }
      { sh with tk := tk.maybeSetNextSyncDelta .cdRom delta } :=
  (@Service.maybeSetNextSyncDelta _ { sh with tk := tk } _ (Peripheral.only_self .cdRom)).served

lemma served_predictNextSync (cd : CdRom I) (sh : SharedState) :
    Serves sh (cd.predictNextSync sh) := by
  unfold predictNextSync
  refine Served.trans (Service.noSyncNeeded (Peripheral.only_self .cdRom)).served ?_
  -- the next event of the sub-CPU, then the next sector
  cases cd.readState with
  | idle =>
      dsimp only
      split_ifs
      · exact served_setNext sh _ _
      · cases cd.subCpu.asyncResponse with
        | none => exact .refl _
        | some r => exact served_setNext sh _ _
      · exact .refl _
  | reading delay =>
      dsimp only
      split_ifs
      · exact (served_setNext sh _ _).trans (served_maybeSetNext sh _ _)
      · cases cd.subCpu.asyncResponse with
        | none => exact served_maybeSetNext sh _ _
        | some r => exact (served_setNext sh _ _).trans (served_maybeSetNext sh _ _)
      · exact served_maybeSetNext sh _ _

lemma served_maybeStartCommand (h : cd.maybeStartCommand sh = .ok (cd', sh')) : Serves sh sh' := by
  unfold maybeStartCommand at h
  split_ifs at h
  · obtain ⟨subCpu, -, heq⟩ := bind_eq_ok.mp h
    cases heq
    exact served_predictNextSync _ sh
  · cases h
    exact .refl sh

lemma served_maybeProcessAsyncResponse (h : cd.maybeProcessAsyncResponse sh = .ok (cd', sh')) :
    Serves sh sh' := by
  unfold maybeProcessAsyncResponse at h
  split at h
  · split_ifs at h
    · obtain ⟨r, -, heq⟩ := bind_eq_ok.mp h
      cases heq
      exact served_predictNextSync _ sh
    · cases h
      exact .refl sh
  · cases h
    exact .refl sh

lemma served_maybeNotifyRead (cd : CdRom I) (sh : SharedState) :
    Serves sh (cd.maybeNotifyRead sh).2 := by
  unfold maybeNotifyRead
  split_ifs
  · exact served_predictNextSync _ sh
  · exact .refl sh

lemma served_triggerIrq {code : IrqCode} (h : cd.triggerIrq sh code = .ok (cd', sh')) :
    Serves sh sh' := by
  unfold triggerIrq at h
  dsimp only at h
  split_ifs at h
  · cases h
    exact (Service.assert _).served
  · cases h
    exact .refl sh

lemma served_nextSubCpuStep (h : cd.nextSubCpuStep sh = .ok (cd', sh')) : Serves sh sh' := by
  unfold nextSubCpuStep at h
  cases hseq : cd.subCpu.sequence <;> rw [hseq] at h <;> dsimp only at h
  case idle => cases h
  case irqDelay =>
    obtain ⟨⟨q, s⟩, htrigger, heq⟩ := bind_eq_ok.mp h
    cases heq
    exact served_triggerIrq htrigger
  -- the other steps leave the shared state as it is
  all_goals
    have hsh : sh' = sh := by
      try split_ifs at h
      all_goals first
        | (cases h; rfl)
        | (obtain ⟨q, -, heq⟩ := bind_eq_ok.mp h; cases heq; rfl)
    rw [hsh]
    exact .refl sh

lemma served_stepSubCpu {remaining elapsed : U32}
    (h : cd.stepSubCpu sh remaining = .ok (elapsed, cd', sh')) : Serves sh sh' := by
  unfold stepSubCpu at h
  split_ifs at h
  · cases h
    exact .refl sh
  · obtain ⟨s, hstep, heq⟩ := bind_eq_ok.mp h
    cases heq
    exact served_nextSubCpuStep hstep
  · cases h
    exact .refl sh

lemma served_stepAsync {elapsed : U32} (h : cd.stepAsync sh elapsed = .ok (cd', sh')) :
    Serves sh sh' := by
  unfold stepAsync at h
  split at h
  · split_ifs at h
    · cases h
      exact .refl sh
    · exact served_maybeProcessAsyncResponse h
  · cases h
    exact .refl sh

lemma served_stepRead {elapsed : U32} (h : cd.stepRead sh elapsed = .ok (cd', sh')) :
    Serves sh sh' := by
  unfold stepRead at h
  split at h
  · split_ifs at h
    · cases h
      exact .refl sh
    · obtain ⟨q, -, heq⟩ := bind_eq_ok.mp h
      cases heq
      exact served_maybeNotifyRead q sh
  · cases h
    exact .refl sh

lemma served_syncLoop {fuel : ℕ} {remaining : U32}
    (h : syncLoop fuel cd sh remaining = .ok (cd', sh')) : Serves sh sh' := by
  induction fuel generalizing cd sh remaining with
  | zero =>
      unfold syncLoop at h
      split_ifs at h
      cases h
      exact .refl _
  | succ fuel ih =>
      unfold syncLoop at h
      split_ifs at h
      · cases h
        exact .refl _
      obtain ⟨⟨elapsed, q, s⟩, hstep, hrest⟩ := bind_eq_ok.mp h
      obtain ⟨⟨e, q1, s1⟩, hcpu, hstep⟩ := bind_eq_ok.mp hstep
      obtain ⟨⟨q2, s2⟩, hasync, hstep⟩ := bind_eq_ok.mp hstep
      obtain ⟨⟨q3, s3⟩, hread, heq⟩ := bind_eq_ok.mp hstep
      cases heq
      exact (served_stepSubCpu hcpu).trans
        ((served_stepAsync hasync).trans ((served_stepRead hread).trans (ih hrest)))

/-- A synchronisation begins with the sheet. -/
lemma served_synced (h : cd.sync sh = .ok (cd', sh')) :
    Serves { sh with tk := (sh.tk.sync .cdRom).2 } sh' := by
  obtain ⟨⟨q, s⟩, hloop, heq⟩ := bind_eq_ok.mp h
  cases heq
  exact (served_syncLoop hloop).trans (served_predictNextSync _ s)

lemma served_sync (h : cd.sync sh = .ok (cd', sh')) : Serves sh sh' :=
  (Service.sync (Peripheral.only_self .cdRom)).served.trans (served_synced h)

lemma served_hostClearControl {val : U8} (h : cd.hostClearControl sh val = .ok (cd', sh')) :
    Serves sh sh' := by
  obtain ⟨⟨q, s⟩, hack, h⟩ := bind_eq_ok.mp h
  obtain ⟨⟨q1, s1⟩, hstart, hack⟩ := bind_eq_ok.mp hack
  obtain ⟨⟨q2, s2⟩, hasync, hack⟩ := bind_eq_ok.mp hack
  obtain ⟨-, rfl⟩ := Prod.mk.inj (Except.ok.inj hack)
  have hs : sh' = (q2.maybeNotifyRead s2).2 := by
    dsimp only at h
    split_ifs at h <;> cases h
    all_goals rfl
  rw [hs]
  exact (served_maybeStartCommand hstart).trans
    ((served_maybeProcessAsyncResponse hasync).trans (served_maybeNotifyRead q2 s2))

lemma served_writeRegister {width : Width} {offset val : U32}
    (h : cd.writeRegister sh width offset val = .ok (cd', sh')) : Serves sh sh' := by
  unfold writeRegister at h
  split_ifs at h
  dsimp only at h
  split at h
  case h_2 =>
    unfold setCommand at h
    split at h
    · cases h
    · exact served_maybeStartCommand h
  case h_9 => exact served_hostClearControl h
  case h_12 => cases h
  -- the other registers do not reach the shared state
  all_goals
    have hsh : sh' = sh := by
      first
        | (cases h; rfl)
        | (obtain ⟨q, -, heq⟩ := bind_eq_ok.mp h; cases heq; rfl)
    rw [hsh]
    exact .refl sh

/-- Whatever the host accesses. -/
lemma served_access {a : Access} (h : cd.access sh a = .ok (cd', sh')) : Serves sh sh' := by
  cases a with
  | sync => exact served_sync h
  | load width offset =>
      obtain ⟨⟨v, s⟩, hload, heq⟩ := bind_eq_ok.mp h
      cases heq
      obtain ⟨x, hsync, hload⟩ := bind_eq_ok.mp hload
      obtain ⟨r, -, heq⟩ := bind_eq_ok.mp hload
      cases heq
      exact served_sync hsync
  | store width offset val =>
      obtain ⟨s, hsync, hwrite⟩ := bind_eq_ok.mp h
      exact (served_sync hsync).trans (served_writeRegister hwrite)
  | dmaReadWord =>
      obtain ⟨r, -, heq⟩ := bind_eq_ok.mp h
      cases heq
      exact .refl _

end CdRom

/-! ### The registers of the GPU -/

/-- The sheets that an access of the GPU can reach. -/
def Peripheral.IsVideo (p : Peripheral) : Prop := p = .gpu ∨ p.IsTimer

namespace Gpu

variable {ratio : VideoClock → FracCycles} {g g' : Gpu} {sh sh' : SharedState}
  {timers timers' : Timers} {calls : List Call}

/-- A GP1 command that configures the video output: a reset, the vertical range or the display
mode. -/
def Configures (val : U32) : Prop := ((val >>> 24) &&& 0xff).toNat ∈ [0x00, 0x07, 0x08]

instance (val : U32) : Decidable (Configures val) := inferInstanceAs (Decidable (_ ∈ _))

lemma served_video (d : Display) (sh : SharedState) :
    Served Peripheral.IsVideo sh (d.sync ratio sh).2 :=
  (Display.served_sync ratio d sh).mono fun _ => Or.inl

lemma gp0_display {val : U32} (h : g.gp0 val = .ok (g', calls)) :
    g'.toDisplay = g.toDisplay := by
  obtain ⟨r, -, heq⟩ := bind_eq_ok.mp h
  cases heq
  rfl

/-- A load synchronises the GPU, and does nothing else to it. -/
lemma load_sync {width : Width} {offset v : U32}
    (h : g.load ratio sh width offset = .ok (v, g', sh')) : (g', sh') = g.sync ratio sh := by
  unfold load at h
  dsimp only at h
  split_ifs at h
  split at h
  · cases h
    rfl
  · cases h
    rfl
  · cases h

/-- The other commands of the GP1 port leave the video output alone. -/
lemma gp1_display {val : U32} (hval : ¬Configures val)
    (h : g.gp1 ratio sh timers val = .ok (g', sh', timers', calls)) :
    g'.toDisplay = g.toDisplay ∧ ∃ n, sh' =
      { sh with counters := { sh.counters with framebufferSwap := n } } := by
  unfold gp1 at h
  simp only [Configures, List.mem_cons, List.not_mem_nil, or_false, not_or] at hval
  split at h
  case h_1 heq => exact absurd heq hval.1
  case h_8 heq => exact absurd heq hval.2.1
  case h_9 heq => exact absurd heq hval.2.2
  case h_10 =>
    obtain ⟨q, hinfo, heq⟩ := bind_eq_ok.mp h
    cases heq
    rw [gp1GetInfo] at hinfo
    split at hinfo <;> cases hinfo <;> exact ⟨rfl, _, rfl⟩
  case h_11 => cases h
  all_goals
    cases h
    exact ⟨rfl, _, rfl⟩

lemma gp1DisplayMode_sync {val : U32} (h : g.gp1DisplayMode ratio sh val = .ok (g', sh')) :
    ∃ d : Display, (g'.toDisplay, sh') = d.sync ratio sh := by
  by_cases hbad : val &&& 0x80 ≠ 0
  · rw [gp1DisplayMode, if_pos hbad] at h
    cases h
  · rw [gp1DisplayMode, if_neg hbad, pure_eq_ok] at h
    exact ⟨_, (congrArg (fun x : Gpu × SharedState => (x.1.toDisplay, x.2))
      (Except.ok.inj h)).symm⟩

/-- A command that configures the video output synchronises it, then tells the timers. -/
lemma gp1_configures {val : U32} (hval : Configures val)
    (h : g.gp1 ratio sh timers val = .ok (g', sh', timers', calls)) :
    ∃ d : Display, g'.toDisplay = (d.sync ratio sh).1 ∧
      Served Peripheral.IsTimer (d.sync ratio sh).2 sh' := by
  simp only [Configures, List.mem_cons, List.not_mem_nil, or_false] at hval
  unfold gp1 at h
  split at h
  case h_1 =>
    obtain ⟨r, htimers, heq⟩ := bind_eq_ok.mp h
    cases heq
    exact ⟨_, rfl, Timers.served_videoTimingsChanged htimers⟩
  case h_8 =>
    cases h
    exact ⟨_, rfl, .refl _⟩
  case h_9 =>
    obtain ⟨⟨q, s⟩, hmode, h⟩ := bind_eq_ok.mp h
    obtain ⟨r, htimers, heq⟩ := bind_eq_ok.mp h
    cases heq
    obtain ⟨d, hd⟩ := gp1DisplayMode_sync hmode
    obtain ⟨hdisplay, rfl⟩ := Prod.mk.inj hd
    exact ⟨d, hdisplay, Timers.served_videoTimingsChanged htimers⟩
  case h_11 => cases h
  all_goals omega

lemma served_gp1 {val : U32} (h : g.gp1 ratio sh timers val = .ok (g', sh', timers', calls)) :
    Served Peripheral.IsVideo sh sh' := by
  by_cases hval : Configures val
  · obtain ⟨d, -, hserved⟩ := gp1_configures hval h
    exact (served_video d sh).trans (hserved.mono fun _ => Or.inr)
  · obtain ⟨-, n, rfl⟩ := gp1_display hval h
    exact (Service.count _ (.inl rfl)).served

/-- A store synchronises the GPU before anything else. -/
lemma store_parts {width : Width} {offset val : U32}
    (h : g.store ratio sh timers width offset val = .ok (g', sh', timers', calls)) :
    (sh' = (g.toDisplay.sync ratio sh).2 ∧ timers' = timers ∧
        g'.toDisplay = (g.toDisplay.sync ratio sh).1) ∨
      (offset.toNat = 4 ∧
        (g.sync ratio sh).1.gp1 ratio (g.sync ratio sh).2 timers val =
          .ok (g', sh', timers', calls)) := by
  unfold store at h
  dsimp only at h
  split_ifs at h
  split at h
  · obtain ⟨⟨q, l⟩, hgp0, heq⟩ := bind_eq_ok.mp h
    cases heq
    exact .inl ⟨rfl, rfl, gp0_display hgp0⟩
  next hoffset => exact .inr ⟨hoffset, h⟩
  · cases h

lemma served_store {width : Width} {offset val : U32}
    (h : g.store ratio sh timers width offset val = .ok (g', sh', timers', calls)) :
    Served Peripheral.IsVideo sh sh' := by
  rcases store_parts h with ⟨hsh', -, -⟩ | ⟨-, hgp1⟩
  · rw [hsh']
    exact served_video _ sh
  · exact (served_video _ sh).trans (served_gp1 hgp1)

end Gpu

/-! ### The DMA -/

namespace Dma

/-- No transfer is under way. -/
def Idle (d : Dma) : Prop := ∀ port, (d.channel port).active = false

lemma channel_setChannel {d : Dma} {port q : Port} (c : Channel) (hq : q ≠ port) :
    (d.setChannel port c).channel q = d.channel q :=
  Function.update_of_ne hq ..

lemma idle_setChannel {d : Dma} {port : Port} {c : Channel}
    (h : ∀ q ≠ port, (d.channel q).active = false) (hc : c.active = false) :
    (d.setChannel port c).Idle := by
  intro q
  by_cases hq : q = port
  · rwa [hq, show (d.setChannel port c).channel port = c from Function.update_self ..]
  · rw [channel_setChannel c hq]
    exact h q hq

end Dma

namespace Bus

variable {I : CdImage} {bus bus' : Bus I} {sh sh' : SharedState} {port : Dma.Port}

/-- One thing that a transfer does. -/
inductive Move (bus : Bus I) : Bus I → Prop
  | gp0 {bus' : Bus I} {word : U32} : bus.gp0 word = .ok bus' → Move bus bus'
  | mdec (mdec : MDec) : Move bus { bus with mdec := mdec }
  | cdRom {word : U32} {cdRom : CdRom I} : bus.cdRom.dmaReadWord = .ok (word, cdRom) →
      Move bus { bus with cdRom := cdRom }
  | ram (ram : Ram) : Move bus { bus with ram := ram }

/-- Any number of them. -/
abbrev Moves : Bus I → Bus I → Prop := Relation.ReflTransGen Move

/-- The channels and the video output are out of reach of a transfer. -/
lemma Moves.frame (h : Moves bus bus') :
    bus'.dma = bus.dma ∧ bus'.gpu.toDisplay = bus.gpu.toDisplay := by
  induction h with
  | refl => exact ⟨rfl, rfl⟩
  | tail _ hmove ih =>
      cases hmove with
      | gp0 hgp0 =>
          obtain ⟨r, hgpu, heq⟩ := bind_eq_ok.mp hgp0
          cases heq
          exact ⟨ih.1, (Gpu.gp0_display hgpu).trans ih.2⟩
      | _ => exact ih

lemma sendPacket_moves {n : ℕ} {addr addr' : U32}
    (h : sendPacket n addr bus = .ok (addr', bus')) : Moves bus bus' := by
  induction n generalizing addr bus with
  | zero =>
      cases h
      exact .refl
  | succ n ih =>
      obtain ⟨command, -, h⟩ := bind_eq_ok.mp h
      obtain ⟨b, hgp0, h⟩ := bind_eq_ok.mp h
      exact .head (.gp0 hgp0) (ih h)

lemma linkedListLoop_moves {fuel : ℕ} {addr : U32}
    (h : linkedListLoop fuel addr bus = .ok bus') : Moves bus bus' := by
  induction fuel generalizing addr bus with
  | zero => cases h
  | succ fuel ih =>
      obtain ⟨header, -, h⟩ := bind_eq_ok.mp h
      obtain ⟨⟨a, b⟩, hpacket, h⟩ := bind_eq_ok.mp h
      have hfirst := sendPacket_moves hpacket
      dsimp only at h
      split_ifs at h
      · cases h
        exact hfirst
      · exact hfirst.trans (ih h)

lemma transferWord_moves {direction : Dma.Direction} {addr : U32} {remsz : ℕ}
    (h : bus.transferWord port direction addr remsz = .ok bus') : Moves bus bus' := by
  unfold transferWord at h
  cases direction with
  | fromRam =>
      obtain ⟨word, -, h⟩ := bind_eq_ok.mp h
      unfold sendWord at h
      split at h
      · exact .single (.gp0 h)
      · obtain ⟨mdec, -, heq⟩ := bind_eq_ok.mp h
        cases heq
        exact .single (.mdec mdec)
      · cases h
        exact .refl
      · cases h
  | toRam =>
      obtain ⟨⟨word, b⟩, hreceive, h⟩ := bind_eq_ok.mp h
      obtain ⟨ram, -, heq⟩ := bind_eq_ok.mp h
      cases heq
      refine Relation.ReflTransGen.tail ?_ (.ram ram)
      unfold receiveWord at hreceive
      split at hreceive
      case h_3 =>
        obtain ⟨r, hread, heq⟩ := bind_eq_ok.mp hreceive
        cases heq
        exact .single (.cdRom hread)
      case h_5 => cases hreceive
      all_goals
        cases hreceive
        exact .refl

/-- A block takes one cycle for each word. -/
lemma blockLoop_spec {direction : Dma.Direction} {increment addr : U32} {n : ℕ}
    (h : blockLoop port direction increment n addr bus sh = .ok (bus', sh')) :
    Moves bus bus' ∧ Delayed n sh sh' := by
  induction n generalizing addr bus sh with
  | zero =>
      cases h
      exact ⟨.refl, .refl _⟩
  | succ n ih =>
      obtain ⟨b, hword, hrest⟩ := bind_eq_ok.mp h
      obtain ⟨hmoves, hdelayed⟩ := ih hrest
      refine ⟨(transferWord_moves hword).trans hmoves, ?_⟩
      rw [Nat.add_comm]
      exact (delayed_tick sh 1).trans hdelayed

lemma doDmaBlock_spec (h : bus.doDmaBlock sh port = .ok (bus', sh')) :
    Moves bus bus' ∧ ∃ n < 2 ^ 32, Delayed n sh sh' := by
  unfold doDmaBlock at h
  dsimp only at h
  split at h
  · cases h
  next remsz _ =>
    obtain ⟨hmoves, hdelayed⟩ := blockLoop_spec h
    exact ⟨hmoves, remsz.toNat, remsz.isLt, hdelayed⟩

/-- A list takes no time at all. -/
lemma doDmaLinkedList_moves {fuel : ℕ} (h : bus.doDmaLinkedList fuel port = .ok bus') :
    Moves bus bus' := by
  unfold doDmaLinkedList at h
  dsimp only at h
  split_ifs at h
  exact linkedListLoop_moves h

lemma delayed_raise (d : Dma) (prev : Bool) (sh : SharedState) :
    Delayed 0 sh (d.raise prev sh) := by
  rw [Dma.raise]
  split_ifs
  · exact ⟨(Delayed.refl sh).tk, InterruptState.raised_assert _ _, rfl⟩
  · exact .refl sh

/-- A transfer ends with its channel. -/
lemma doDma_spec {fuel : ℕ} (h : bus.doDma fuel sh port = .ok (bus', sh')) :
    ∃ b s, Moves bus b ∧ bus' = { b with dma := (b.dma.done s port).1 } ∧
      ∃ n < 2 ^ 32, Delayed n sh sh' := by
  unfold doDma at h
  cases hsync : (bus.dma.channel port).sync <;> rw [hsync] at h
  case linkedList =>
    obtain ⟨b, hlist, h⟩ := bind_eq_ok.mp h
    cases h
    exact ⟨b, sh, doDmaLinkedList_moves hlist, rfl, 0, by norm_num, delayed_raise _ _ sh⟩
  all_goals
    obtain ⟨⟨b, s⟩, hblock, h⟩ := bind_eq_ok.mp h
    cases h
    obtain ⟨hmoves, n, hn, hdelayed⟩ := doDmaBlock_spec hblock
    exact ⟨b, s, hmoves, rfl, n, hn, hdelayed.trans (delayed_raise _ _ s)⟩

/-- What a write of a DMA register does in `n` cycles. -/
structure Passes (n : ℕ) (bus : Bus I) (sh : SharedState) (bus' : Bus I) (sh' : SharedState) :
    Prop where
  moves : ∃ dma b, Moves { bus with dma := dma } b ∧ bus' = { b with dma := bus'.dma }
  idle : bus.dma.Idle → bus'.dma.Idle
  delayed : Delayed n sh sh'

/-- A write of a DMA register takes the time of the transfer it starts, and leaves none under
way. -/
lemma setDmaReg_spec {fuel : ℕ} {offset val : U32}
    (h : bus.setDmaReg fuel sh offset val = .ok (bus', sh')) :
    ∃ n < 2 ^ 32, Passes n bus sh bus' sh' := by
  have hstart {port : Dma.Port} {channel : Dma.Channel}
      (h : (if channel.active then
          { bus with dma := bus.dma.setChannel port channel }.doDma fuel sh port
        else pure ({ bus with dma := bus.dma.setChannel port channel }, sh)) = .ok (bus', sh')) :
      ∃ n < 2 ^ 32, Passes n bus sh bus' sh' := by
    split_ifs at h with hactive
    · obtain ⟨b, s, hmoves, rfl, n, hn, hdelayed⟩ := doDma_spec h
      refine ⟨n, hn, ⟨_, b, hmoves, rfl⟩, fun hidle => ?_, hdelayed⟩
      refine Dma.idle_setChannel (fun q hq => ?_) rfl
      rw [hmoves.frame.1, Dma.channel_setChannel channel hq]
      exact hidle q
    · cases h
      exact ⟨0, by norm_num, ⟨_, _, .refl, rfl⟩, fun hidle =>
        Dma.idle_setChannel (fun q _ => hidle q) (Bool.eq_false_iff.mpr hactive), .refl _⟩
  unfold setDmaReg at h
  dsimp only at h
  split_ifs at h
  · obtain ⟨port, -, h⟩ := bind_eq_ok.mp h
    split at h
    · exact hstart h
    · exact hstart h
    · obtain ⟨channel, -, h⟩ := bind_eq_ok.mp h
      exact hstart h
    · cases h
  · split at h
    · cases h
      exact ⟨0, by norm_num, ⟨bus.dma, bus, .refl, rfl⟩, id, .refl _⟩
    · cases h
      exact ⟨0, by norm_num, ⟨bus.dma, bus, .refl, rfl⟩, id, delayed_raise _ _ _⟩
    · cases h

end Bus

end Rustation
