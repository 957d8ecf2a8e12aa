import Rustation.CdRom.Moves

/-!
When the CD-ROM controller is woken up.

* `WakesUp`: the forced synchronisation of the controller is scheduled no later
  than its next internal event: the next step of the sequence, the async
  response of an idle sub-CPU, the next sector;
* `wakesUp_predict`: this is what `predict_next_sync` establishes, whatever was
  scheduled before;
* `Strands`: the acknowledge that frees the sub-CPU for an async response whose
  delay has not elapsed, with no sector to notify.  Nothing is started then, so
  nothing is predicted;
* `wakesUp_access_iff`: a synchronisation, a load or a store that returns leaves
  the controller scheduled in time exactly when it is not such an acknowledge;
* `init_response_stranded`: the second response to Init is left without a date.
-/

namespace Rustation

open Fallible

namespace CdRom

variable {I : CdImage}

/-- The forced synchronisation of the controller comes within `delay`. -/
def DueWithin (sh : SharedState) (delay : U32) : Prop :=
  (sh.tk.timesheets .cdRom).nextSync.toNat ≤ sh.tk.now.toNat + delay.toNat

/-- The controller is scheduled no later than its next internal event. -/
structure WakesUp (cd : CdRom I) (sh : SharedState) : Prop where
  sequence : cd.subCpu.inCommand = true → DueWithin sh cd.subCpu.timer
  async : cd.subCpu.inCommand = false → cd.irqFlags = 0 →
    ∀ delay handler, cd.subCpu.asyncResponse = some (delay, handler) → DueWithin sh delay
  read : ∀ delay, cd.readState = .reading delay → DueWithin sh delay

/-- Only three parts of the controller matter. -/
lemma WakesUp.congr {cd cd' : CdRom I} {sh : SharedState} (h : cd.WakesUp sh)
    (hsub : cd'.subCpu = cd.subCpu) (hflags : cd'.irqFlags = cd.irqFlags)
    (hread : cd'.readState = cd.readState) : cd'.WakesUp sh := by
  constructor
  · rw [hsub]
    exact h.sequence
  · rw [hsub, hflags]
    exact h.async
  · rw [hread]
    exact h.read

/-! ### The predicted date -/

/-- The date of the next event of the sub-CPU, a distant one if there is none. -/
def eventDate (cd : CdRom I) (now : Cycles) : Cycles :=
  if cd.subCpu.inCommand then now + cd.subCpu.timer.setWidth 64
  else if cd.irqFlags = 0 then
    match cd.subCpu.asyncResponse with
    | some (delay, _) => now + delay.setWidth 64
    | none => BitVec.allOnes 64
  else BitVec.allOnes 64

/-- A date in the near future wraps around or is as late as it looks. -/
lemma toNat_date (now : Cycles) (delay : U32) :
    (now + delay.setWidth 64).toNat = (now.toNat + delay.toNat) % 2 ^ 64 := by
  rw [BitVec.toNat_add, BitVec.toNat_setWidth]
  have := delay.isLt
  omega

lemma date_le (now : Cycles) (delay : U32) :
    (now + delay.setWidth 64).toNat ≤ now.toNat + delay.toNat := by
  rw [toNat_date]
  exact Nat.mod_le _ _

/-- Bringing a date forward takes the earlier of the two. -/
lemma toNat_maybeSetNextSync (tk : TimeKeeper) (who : Peripheral) (date : Cycles) :
    ((tk.maybeSetNextSync who date).timesheets who).nextSync.toNat =
      min (tk.timesheets who).nextSync.toNat date.toNat := by
  rw [TimeKeeper.maybeSetNextSync]
  split
  · next h =>
    have hlt : date.toNat < (tk.timesheets who).nextSync.toNat := h
    rw [TimeKeeper.setSheet_self, TimeSheet.setNextSync, min_eq_right hlt.le]
  · next h =>
    have hle : (tk.timesheets who).nextSync.toNat ≤ date.toNat := Nat.not_lt.mp h
    rw [min_eq_left hle]

lemma maybeSetNextSync_now (tk : TimeKeeper) (who : Peripheral) (date : Cycles) :
    (tk.maybeSetNextSync who date).now = tk.now := by
  rw [TimeKeeper.maybeSetNextSync]
  split <;> rfl

/-- The first half of the prediction, up to the sector that is awaited. -/
lemma predict_event (cd : CdRom I) (sh : SharedState) : ∃ tk : TimeKeeper,
    tk.now = sh.tk.now ∧ (tk.timesheets .cdRom).nextSync = cd.eventDate sh.tk.now ∧
    (cd.predictNextSync sh).tk = match cd.readState with
      | .reading delay => tk.maybeSetNextSync .cdRom (tk.now + delay.setWidth 64)
      | .idle => tk := by
  refine ⟨_, ?_, ?_, rfl⟩
  · split_ifs
    · rfl
    · split <;> rfl
    · rfl
  · rw [eventDate]
    split_ifs
    · simp [TimeKeeper.setNextSyncDelta, TimeKeeper.noSyncNeeded, TimeSheet.setNextSync,
        TimeKeeper.setSheet]
    · cases cd.subCpu.asyncResponse with
      | none => simp [TimeKeeper.noSyncNeeded, TimeSheet.setNextSync]
      | some p =>
          simp [TimeKeeper.setNextSyncDelta, TimeKeeper.noSyncNeeded, TimeSheet.setNextSync,
            TimeKeeper.setSheet]
    · simp [TimeKeeper.noSyncNeeded, TimeSheet.setNextSync]

lemma predict_now (cd : CdRom I) (sh : SharedState) :
    (cd.predictNextSync sh).tk.now = sh.tk.now := by
  obtain ⟨tk, hnow, -, htk⟩ := cd.predict_event sh
  rw [htk]
  split
  · rw [maybeSetNextSync_now, hnow]
  · exact hnow

/-- The predicted date: the next event of the sub-CPU or the next sector,
whichever comes first. -/
lemma predict_date (cd : CdRom I) (sh : SharedState) :
    ((cd.predictNextSync sh).tk.timesheets .cdRom).nextSync.toNat =
      match cd.readState with
      | .reading delay =>
          min (cd.eventDate sh.tk.now).toNat (sh.tk.now + delay.setWidth 64).toNat
      | .idle => (cd.eventDate sh.tk.now).toNat := by
  obtain ⟨tk, hnow, hdate, htk⟩ := cd.predict_event sh
  rw [htk]
  split
  · rw [toNat_maybeSetNextSync, hdate, hnow]
  · rw [hdate]

/-- The predicted date is no later than the next event of the sub-CPU. -/
lemma predict_le_eventDate (cd : CdRom I) (sh : SharedState) :
    ((cd.predictNextSync sh).tk.timesheets .cdRom).nextSync.toNat ≤
      (cd.eventDate sh.tk.now).toNat := by
  rw [predict_date]
  split
  · exact min_le_left _ _
  · exact le_rfl

/-- **A prediction schedules the controller in time**, whatever was scheduled
before. -/
lemma wakesUp_predict (cd : CdRom I) (sh : SharedState) : cd.WakesUp (cd.predictNextSync sh) where
  sequence hin := by
    rw [DueWithin, predict_now]
    refine (cd.predict_le_eventDate sh).trans ?_
    rw [eventDate, if_pos hin]
    exact date_le _ _
  async hout hflags delay handler hasync := by
    rw [DueWithin, predict_now]
    refine (cd.predict_le_eventDate sh).trans ?_
    rw [eventDate, if_neg (by simp [hout]), if_pos hflags, hasync]
    exact date_le _ _
  read delay hread := by
    rw [DueWithin, predict_now, predict_date, hread]
    exact (min_le_right _ _).trans (date_le _ _)

/-! ### The functions that start a sequence -/

/-- A function that starts a sequence under `guard` returns the state it was
given, or a state whose next event it has predicted. -/
def Repredicts (guard : Prop) (s s' : Shared I) : Prop :=
  (¬guard ∧ s' = s) ∨ ∃ sh, s'.2 = s'.1.predictNextSync sh

lemma Repredicts.wakesUp {guard : Prop} {s s' : Shared I} (h : Repredicts guard s s')
    (hs : s.1.WakesUp s.2) : s'.1.WakesUp s'.2 := by
  rcases h with ⟨-, rfl⟩ | ⟨sh, hsh⟩
  · exact hs
  · rw [hsh]
    exact s'.1.wakesUp_predict sh

lemma maybeStartCommand_repredicts {cd : CdRom I} {sh : SharedState} {s : Shared I}
    (h : cd.maybeStartCommand sh = .ok s) :
    Repredicts (cd.command.isSome = true ∧ cd.Ready) (cd, sh) s := by
  rw [maybeStartCommand] at h
  split at h
  · obtain ⟨subCpu, -, hpure⟩ := bind_eq_ok.mp h
    cases hpure
    exact .inr ⟨sh, rfl⟩
  · next hguard =>
    cases h
    refine .inl ⟨fun hr => hguard ?_, rfl⟩
    simp [hr.1, ready_iff.mp hr.2]

lemma maybeProcessAsyncResponse_repredicts {cd : CdRom I} {sh : SharedState} {s : Shared I}
    (h : cd.maybeProcessAsyncResponse sh = .ok s) :
    Repredicts ((∃ handler, cd.subCpu.asyncResponse = some (0, handler)) ∧ cd.Ready) (cd, sh)
      s := by
  rw [maybeProcessAsyncResponse] at h
  split at h
  · next delay async hasync =>
    split at h
    · obtain ⟨r, -, hpure⟩ := bind_eq_ok.mp h
      cases hpure
      exact .inr ⟨sh, rfl⟩
    · next hguard =>
      cases h
      refine .inl ⟨fun hr => hguard ?_, rfl⟩
      obtain ⟨⟨handler, hzero⟩, hready⟩ := hr
      rw [hasync] at hzero
      cases hzero
      exact ⟨rfl, ready_iff.mp hready⟩
  · next hasync =>
    cases h
    refine .inl ⟨fun hr => ?_, rfl⟩
    obtain ⟨⟨handler, hzero⟩, -⟩ := hr
    simp [hasync] at hzero

lemma maybeNotifyRead_repredicts (cd : CdRom I) (sh : SharedState) :
    Repredicts (cd.readPending = true ∧ cd.Ready) (cd, sh) (cd.maybeNotifyRead sh) := by
  rw [maybeNotifyRead]
  split
  · exact .inr ⟨sh, rfl⟩
  · next hguard =>
    refine .inl ⟨fun hr => hguard ?_, rfl⟩
    simp [hr.1, ready_iff.mp hr.2]

/-- With an async response pending a command is not started: there is none, or
the access ends in a panic. -/
lemma maybeStartCommand_of_async {cd : CdRom I} {sh : SharedState} {s : Shared I}
    (hasync : cd.subCpu.asyncCommandPending = true) (h : cd.maybeStartCommand sh = .ok s) :
    s = (cd, sh) := by
  rw [maybeStartCommand] at h
  split at h
  · obtain ⟨subCpu, hstart, -⟩ := bind_eq_ok.mp h
    rw [SubCpu.startCommand, if_pos hasync] at hstart
    split at hstart
    · cases hstart
    · cases hstart
  · cases h
    rfl

/-! ### The acknowledge -/

/-- The interrupt acknowledge `v` frees the sub-CPU for an async response whose
delay has not elapsed, there is no sector to notify, and no sector is expected
before that response. -/
def Strands (cd : CdRom I) (sh : SharedState) (v : U8) : Prop :=
  cd.irqFlags ≠ 0 ∧ cd.irqFlags &&& ~~~v = 0 ∧ cd.subCpu.inCommand = false ∧
    cd.readPending = false ∧
    ∃ delay handler, cd.subCpu.asyncResponse = some (delay, handler) ∧ delay ≠ 0 ∧
      match cd.readState with
      | .idle => sh.tk.now.toNat + delay.toNat < 2 ^ 64 - 1
      | .reading sector => delay < sector ∧ sh.tk.now.toNat + sector.toNat < 2 ^ 64

/-- While an interrupt is pending only the next sector is scheduled. -/
lemma predict_dueWithin_iff {cd : CdRom I} (hout : cd.subCpu.inCommand = false)
    (hflags : cd.irqFlags ≠ 0) (sh : SharedState) (delay : U32) :
    DueWithin (cd.predictNextSync sh) delay ↔ ¬match cd.readState with
      | .idle => sh.tk.now.toNat + delay.toNat < 2 ^ 64 - 1
      | .reading sector => delay < sector ∧ sh.tk.now.toNat + sector.toNat < 2 ^ 64 := by
  have hevent : (cd.eventDate sh.tk.now).toNat = 2 ^ 64 - 1 := by
    rw [eventDate, if_neg (by simp [hout]), if_neg hflags, BitVec.toNat_allOnes]
  rw [DueWithin, predict_now, predict_date, hevent]
  have hnow := sh.tk.now.isLt
  have hdelay := delay.isLt
  cases cd.readState with
  | idle =>
      dsimp only
      omega
  | reading sector =>
      have hsector := sector.isLt
      dsimp only
      rw [toNat_date, BitVec.lt_def]
      omega

/-- The schedule after the flags have been cleared and before anything else:
it misses the async response the acknowledge has freed. -/
lemma wakesUp_cleared_iff {cd : CdRom I} (sh : SharedState) {v : U8} :
    WakesUp { cd with irqFlags := cd.irqFlags &&& ~~~v } (cd.predictNextSync sh) ↔
      (cd.irqFlags ≠ 0 → cd.irqFlags &&& ~~~v = 0 → cd.subCpu.inCommand = false →
        ∀ delay handler, cd.subCpu.asyncResponse = some (delay, handler) →
          DueWithin (cd.predictNextSync sh) delay) := by
  have hcd := cd.wakesUp_predict sh
  constructor
  · intro h _ hcleared hout
    exact h.async hout hcleared
  · intro h
    refine ⟨hcd.sequence, fun hout hcleared => ?_, hcd.read⟩
    by_cases hflags : cd.irqFlags = 0
    · exact hcd.async hout hflags
    · exact h hflags hcleared hout

/-- An acknowledge that strands the async response starts nothing. -/
lemma irqAck_of_strands {cd : CdRom I} {sh : SharedState} {v : U8} {s : Shared I}
    (hstrands : cd.Strands sh v) (h : cd.irqAck sh v = .ok s) :
    s = ({ cd with irqFlags := cd.irqFlags &&& ~~~v }, sh) := by
  obtain ⟨-, -, -, hread, delay, handler, hasync, hdelay, -⟩ := hstrands
  obtain ⟨s1, h1, hrest⟩ := bind_eq_ok.mp h
  obtain ⟨s2, h2, hpure⟩ := bind_eq_ok.mp hrest
  have hs1 := maybeStartCommand_of_async (by simp [SubCpu.asyncCommandPending, hasync]) h1
  subst hs1
  rw [maybeProcessAsyncResponse] at h2
  simp only [hasync, hdelay, false_and, if_false] at h2
  cases h2
  cases hpure
  simp [maybeNotifyRead, hread]

/-- **The acknowledge** leaves the controller scheduled in time exactly when it
strands no async response. -/
lemma wakesUp_irqAck_iff {cd : CdRom I} {sh : SharedState} {v : U8} {s : Shared I}
    (h : cd.irqAck (cd.predictNextSync sh) v = .ok s) :
    s.1.WakesUp s.2 ↔ ¬cd.Strands (cd.predictNextSync sh) v := by
  constructor
  · intro hs hstrands
    have hstate := irqAck_of_strands hstrands h
    obtain ⟨hflags, hcleared, hout, -, delay, handler, hasync, -, hlate⟩ := hstrands
    rw [hstate, wakesUp_cleared_iff] at hs
    have hdue := hs hflags hcleared hout delay handler hasync
    rw [predict_now] at hlate
    exact (predict_dueWithin_iff hout hflags sh delay).mp hdue hlate
  · intro hnot
    obtain ⟨s1, h1, hrest⟩ := bind_eq_ok.mp h
    obtain ⟨s2, h2, hpure⟩ := bind_eq_ok.mp hrest
    have hs : s2.1.maybeNotifyRead s2.2 = s := Except.ok.inj hpure
    have hnotify := s2.1.maybeNotifyRead_repredicts s2.2
    rw [hs] at hnotify
    rcases maybeStartCommand_repredicts h1 with ⟨-, rfl⟩ | ⟨sh1, hsh1⟩
    · rcases maybeProcessAsyncResponse_repredicts h2 with ⟨hasync, rfl⟩ | ⟨sh2, hsh2⟩
      · rcases hnotify with ⟨hread, rfl⟩ | ⟨sh3, hsh3⟩
        · -- nothing has been started, so a freed async response was not due yet
          rw [wakesUp_cleared_iff]
          intro hflags hcleared hout delay handler hpending
          have hready : Ready { cd with irqFlags := cd.irqFlags &&& ~~~v } :=
            ready_iff.mpr ⟨hcleared, hout⟩
          have hdelay : delay ≠ 0 := by
            rintro rfl
            exact hasync ⟨⟨handler, hpending⟩, hready⟩
          have hnoread : cd.readPending = false :=
            Bool.eq_false_of_not_eq_true fun hp => hread ⟨hp, hready⟩
          rw [predict_dueWithin_iff hout hflags]
          intro hlate
          refine hnot ⟨hflags, hcleared, hout, hnoread, delay, handler, hpending, hdelay, ?_⟩
          rw [predict_now]
          exact hlate
        · rw [hsh3]
          exact wakesUp_predict _ _
      · refine hnotify.wakesUp ?_
        rw [hsh2]
        exact wakesUp_predict _ _
    · refine hnotify.wakesUp ((maybeProcessAsyncResponse_repredicts h2).wakesUp ?_)
      rw [hsh1]
      exact wakesUp_predict _ _

/-! ### Whole accesses -/

/-- A synchronisation ends with a prediction. -/
lemma sync_predicts {cd : CdRom I} {sh : SharedState} {s : Shared I} (h : cd.sync sh = .ok s) :
    ∃ sh', s.2 = s.1.predictNextSync sh' := by
  obtain ⟨s', -, hpure⟩ := bind_eq_ok.mp h
  cases hpure
  exact ⟨s'.2, rfl⟩

/-- Reading a register leaves the schedule alone. -/
lemma readRegister_frame {cd cd' : CdRom I} {width : Width} {offset v : U32}
    (h : cd.readRegister width offset = .ok (v, cd')) :
    cd'.subCpu = cd.subCpu ∧ cd'.irqFlags = cd.irqFlags ∧ cd'.readState = cd.readState := by
  rw [readRegister] at h
  split at h
  · cases h
  · split at h
    · cases h
      exact ⟨rfl, rfl, rfl⟩
    · split at h
      · cases h
      · cases h
        exact ⟨rfl, rfl, rfl⟩
    · cases h
      exact ⟨rfl, rfl, rfl⟩
    · cases h
      exact ⟨rfl, rfl, rfl⟩
    · cases h

/-- The acknowledge register also clears parameters, which are not scheduled. -/
lemma wakesUp_hostClearControl_iff {cd : CdRom I} {sh : SharedState} {val : U8} {s : Shared I}
    (h : cd.hostClearControl (cd.predictNextSync sh) val = .ok s) :
    s.1.WakesUp s.2 ↔ ¬cd.Strands (cd.predictNextSync sh) (val &&& 0x1f) := by
  obtain ⟨s1, hack, hrest⟩ := bind_eq_ok.mp h
  rw [← wakesUp_irqAck_iff hack]
  dsimp only at hrest
  split at hrest
  · cases hrest
  · cases hrest
    split
    · exact ⟨fun hs => hs.congr rfl rfl rfl, fun hs => hs.congr rfl rfl rfl⟩
    · exact Iff.rfl

/-- The store is a write to the acknowledge register that strands an async
response. -/
def StoreStrands (cd : CdRom I) (sh : SharedState) (offset val : U32) : Prop :=
  offset.toNat = 3 ∧ cd.index.toNat = 1 ∧ cd.Strands sh (val.setWidth 8 &&& 0x1f)

/-- **Register writes** leave the controller scheduled in time, but for that
one. -/
lemma wakesUp_writeRegister_iff {cd : CdRom I} {sh : SharedState} {width : Width}
    {offset val : U32} {s : Shared I}
    (h : cd.writeRegister (cd.predictNextSync sh) width offset val = .ok s) :
    s.1.WakesUp s.2 ↔ ¬cd.StoreStrands (cd.predictNextSync sh) offset val := by
  have hcd := cd.wakesUp_predict sh
  have hother {s : Shared I} (hs : s.1.WakesUp s.2)
      (hne : ¬(offset.toNat = 3 ∧ cd.index.toNat = 1)) :
      s.1.WakesUp s.2 ↔ ¬cd.StoreStrands (cd.predictNextSync sh) offset val :=
    ⟨fun _ hst => hne ⟨hst.1, hst.2.1⟩, fun _ => hs⟩
  rw [writeRegister] at h
  split at h
  · cases h
  dsimp only at h
  split at h
  · cases h
    exact hother (hcd.congr rfl rfl rfl) (by omega)
  · refine hother ?_ (by omega)
    rw [setCommand] at h
    split at h
    · cases h
    · exact (maybeStartCommand_repredicts h).wakesUp (hcd.congr rfl rfl rfl)
  · cases h
    exact hother (hcd.congr rfl rfl rfl) (by omega)
  · obtain ⟨cd', hparam, hpure⟩ := bind_eq_ok.mp h
    cases hpure
    refine hother ?_ (by omega)
    rw [setParameter] at hparam
    split at hparam
    · cases hparam
    · split at hparam
      · cases hparam
      · cases hparam
        exact hcd.congr rfl rfl rfl
  · cases h
    exact hother (hcd.congr rfl rfl rfl) (by omega)
  · cases h
    exact hother (hcd.congr rfl rfl rfl) (by omega)
  · cases h
    exact hother (hcd.congr rfl rfl rfl) (by omega)
  · obtain ⟨cd', hctrl, hpure⟩ := bind_eq_ok.mp h
    cases hpure
    refine hother ?_ (by omega)
    rw [setHostChipControl] at hctrl
    split at hctrl
    · cases hctrl
    · cases hctrl
      exact hcd.congr rfl rfl rfl
  · next hoffset hindex =>
    rw [wakesUp_hostClearControl_iff h]
    exact not_congr ⟨fun hst => ⟨hoffset, hindex, hst⟩, fun hst => hst.2.2⟩
  · cases h
    exact hother (hcd.congr rfl rfl rfl) (by omega)
  · cases h
    exact hother hcd (by omega)
  · cases h

/-- An access strands an async response if, once it has caught up with the
clock, it is such a store. -/
def AccessStrands (cd : CdRom I) (sh : SharedState) : Access → Prop
  | .store _ offset val =>
      match cd.sync sh with
      | .ok (cd, sh) => cd.StoreStrands sh offset val
      | .error _ => False
  | _ => False

/-- **The wake-up law.**  A synchronisation, a load or a store that returns
leaves the controller scheduled no later than its next internal event exactly
when it is not an acknowledge that strands an async response. -/
theorem wakesUp_access_iff {cd cd' : CdRom I} {sh sh' : SharedState} {a : Access}
    (ha : a ≠ .dmaReadWord) (h : cd.access sh a = .ok (cd', sh')) :
    cd'.WakesUp sh' ↔ ¬cd.AccessStrands sh a := by
  cases a with
  | sync =>
      obtain ⟨sh1, hsh1⟩ := sync_predicts h
      simp only at hsh1
      rw [hsh1]
      exact ⟨fun _ => id, fun _ => cd'.wakesUp_predict sh1⟩
  | load width offset =>
      obtain ⟨r, hload, hpure⟩ := bind_eq_ok.mp h
      obtain ⟨s, hsync, hread⟩ := bind_eq_ok.mp hload
      obtain ⟨r', hreg, hret⟩ := bind_eq_ok.mp hread
      cases hret
      cases hpure
      obtain ⟨sh1, hsh1⟩ := sync_predicts hsync
      obtain ⟨hsub, hflags, hstate⟩ := readRegister_frame hreg
      rw [hsh1]
      exact ⟨fun _ => id, fun _ => (s.1.wakesUp_predict sh1).congr hsub hflags hstate⟩
  | store width offset val =>
      obtain ⟨⟨cd1, sh1⟩, hsync, hwrite⟩ := bind_eq_ok.mp h
      obtain ⟨sh0, hsh0⟩ := sync_predicts hsync
      simp only at hsh0 hwrite
      rw [AccessStrands, hsync]
      simp only
      rw [hsh0] at hwrite ⊢
      exact wakesUp_writeRegister_iff hwrite
  | dmaReadWord => exact absurd rfl ha

/-- The first command written to an empty drive is scheduled. -/
theorem wakesUp_first_command : ∃ (cd : CdRom noImage) (sh : SharedState),
    (CdRom.new none).access .new (.store .byte 1 0x0a) = .ok (cd, sh) ∧
    cd.subCpu.inCommand = true ∧ cd.WakesUp sh := by
  obtain ⟨⟨cd, sh⟩, hs⟩ : ∃ s, (CdRom.new (I := noImage) none).access .new
      (.store .byte 1 0x0a) = .ok s := ⟨_, rfl⟩
  refine ⟨cd, sh, hs, ?_, (wakesUp_access_iff (by decide) hs).mpr fun hst => ?_⟩
  · cases hs
    rfl
  · exact absurd hst.1 (by decide)

/-! ### A stranded response -/

/-- Init, and the write that selects the acknowledge register once its first
response is there. -/
def initAnswered : List (Cycles × Access) :=
  [(0, .store .byte 1 0x0a), (60000, .sync), (0, .store .byte 0 1)]

set_option synthInstance.maxSize 256 in
/-- The acknowledge of `initAnswered` leaves an idle sub-CPU without interrupt
and the second response to Init pending, but no synchronisation is scheduled
before the end of time. -/
theorem init_response_stranded : ∃ (cd : CdRom noImage) (sh : SharedState)
    (cd' : CdRom noImage) (sh' : SharedState) (delay : U32) (handler : AsyncHandler),
    Reach (fun _ => True) cd ∧ cd.access sh (.store .byte 3 0x1f) = .ok (cd', sh') ∧
    cd'.subCpu.inCommand = false ∧ cd'.irqFlags = 0 ∧
    cd'.subCpu.asyncResponse = some (delay, handler) ∧
    (sh'.tk.timesheets .cdRom).nextSync = BitVec.allOnes 64 ∧ ¬cd'.WakesUp sh' := by
  have hrun : (runAccesses (CdRom.new (I := noImage) none) .new initAnswered >>= fun s =>
      s.1.access s.2 (.store .byte 3 0x1f) >>= fun s' =>
        pure (s'.1.subCpu.inCommand, s'.1.irqFlags, s'.1.subCpu.asyncResponse,
          (s'.2.tk.timesheets .cdRom).nextSync, s'.2.tk.now))
      = .ok (false, 0, some (0xcd140, .init), BitVec.allOnes 64, 60000) := by
    decide +kernel
  obtain ⟨⟨cd, sh⟩, hs, hrest⟩ := bind_eq_ok.mp hrun
  obtain ⟨⟨cd', sh'⟩, hack, hobserved⟩ := bind_eq_ok.mp hrest
  replace hobserved := Except.ok.inj hobserved
  simp only [Prod.mk.injEq] at hobserved
  obtain ⟨hout, hflags, hasync, hdate, hnow⟩ := hobserved
  refine ⟨cd, sh, cd', sh', _, _, reach_runAccesses (.new none) hs, hack, hout, hflags, hasync,
    hdate, fun hw => ?_⟩
  have hdue := hw.async hout hflags _ _ hasync
  rw [DueWithin, hdate, hnow] at hdue
  exact absurd hdue (by decide)

end CdRom

end Rustation
