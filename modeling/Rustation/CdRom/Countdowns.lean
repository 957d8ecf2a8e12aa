import Rustation.CdRom.Frame

/-!
Commands that leave the countdowns of the controller alone.

* `Unsettling`: the pending command sets up a countdown, or changes the period
  of the one that runs;
* `later`: the controller some cycles later, within a step of the sequence and
  before the next sector;
* `settled_executeCommand`: every other command leaves the countdowns as they
  are and answers with `responseLength` bytes, and by `executeCommand_later` it
  does the same thing some cycles later.
-/

namespace Rustation

open Fallible

namespace CdRom

variable {I : CdImage}

/-! ### The controller some cycles later -/

/-- The sub-CPU waits within its step. -/
def wait (cd : CdRom I) (n : U32) : CdRom I :=
  { cd with subCpu := { cd.subCpu with timer := cd.subCpu.timer - n } }

/-- The read countdown has gone on by `n` cycles. -/
def shiftRead (cd : CdRom I) (n : U32) : CdRom I :=
  { cd with readState := match cd.readState with
    | .reading delay => .reading (delay - n)
    | .idle => .idle }

lemma shiftRead_idle {cd : CdRom I} (h : cd.readState = .idle) (n : U32) :
    cd.shiftRead n = cd := by
  rw [shiftRead, h]
  dsimp only
  rw [← h]

lemma shiftRead_reading {cd : CdRom I} {delay : U32} (h : cd.readState = .reading delay)
    (n : U32) : cd.shiftRead n = { cd with readState := .reading (delay - n) } := by
  rw [shiftRead, h]

/-- Before the next sector, time passes for the drive in its countdown alone. -/
lemma readTick_shift {cd : CdRom I} {n : U32}
    (h : ∀ delay, cd.readState = .reading delay → n.toNat < delay.toNat) :
    cd.readTick n = .ok (cd.shiftRead n) := by
  cases hs : cd.readState with
  | idle => rw [readTick_idle hs, shiftRead_idle hs]
  | reading delay => rw [readTick_wait hs (h delay hs), shiftRead_reading hs]

/-- The status byte tells only whether the drive is reading. -/
lemma driveStatus_shiftRead (cd : CdRom I) (n : U32) :
    (cd.shiftRead n).driveStatus = cd.driveStatus := by
  cases h : cd.readState with
  | idle => rw [shiftRead_idle h]
  | reading delay =>
      rw [shiftRead_reading h, driveStatus, driveStatus, h]
      rfl

lemma respondStatus_shiftRead (cd : CdRom I) (n : U32) :
    (cd.shiftRead n).respondStatus = cd.respondStatus.shiftRead n := by
  rw [respondStatus, driveStatus_shiftRead]
  rfl

/-- The controller `n` cycles later, within the same step and before the next
sector. -/
def later (cd : CdRom I) (n : U32) : CdRom I := (cd.wait n).shiftRead n

lemma driveStatus_later (cd : CdRom I) (n : U32) : (cd.later n).driveStatus = cd.driveStatus :=
  driveStatus_shiftRead (cd.wait n) n

/-! ### Settled commands -/

/-- The pending command sets up a second response or a sector, or it changes
the period of the sectors while the drive is reading. -/
def Unsettling (cd : CdRom I) : Prop :=
  ∃ cmd, cd.command = some cmd ∧
    (cmd.toNat ∈ [0x06, 0x09, 0x0a, 0x15, 0x1b, 0x1e] ∨
      (cmd.toNat = 0x1a ∧ cd.disc.isSome = true) ∨ (cmd.toNat = 0x0e ∧ cd.readState ≠ .idle))

/-- The number of bytes with which the other commands answer. -/
def answerLength : ℕ → ℕ
  | 0x0f => 5
  | 0x11 => 8
  | 0x19 => 4
  | 0x1a => 2
  | _ => 1

def responseLength (cd : CdRom I) : ℕ :=
  match cd.command with
  | none => 1
  | some cmd => answerLength cmd.toNat

/-- What such a command does to the countdowns and to the response. -/
structure Settled (cd cd' : CdRom I) : Prop where
  async : cd'.subCpu.asyncResponse = cd.subCpu.asyncResponse
  readState : cd'.readState = cd.readState
  speed : cd.readState ≠ .idle → cd'.doubleSpeed = cd.doubleSpeed
  response : ∃ bytes : List U8, bytes.length = cd.responseLength ∧
    cd'.subCpu.response = cd.subCpu.response.pushSlice bytes

/-- A settled command does not bring a sector forward. -/
lemma Settled.oneSector {cd cd' : CdRom I} (h : Settled cd cd') {n : ℕ} (hone : cd.OneSector n) :
    cd'.OneSector n := by
  intro delay hd
  have hread : cd.readState = .reading delay := h.readState.symm.trans hd
  have hspeed : cd'.doubleSpeed = cd.doubleSpeed := h.speed (by simp [hread])
  rw [cyclesPerSector, hspeed]
  exact hone delay hread

/-- The handler leaves the countdowns alone, now and later. -/
structure Steady (handler : CdRom I → Outcome (CdRom I)) (cd : CdRom I) : Prop where
  settled : Post (fun _ => True) (handler cd) (Settled cd)
  later : ∀ n, handler (cd.later n) = handler cd >>= fun cd' => pure (cd'.later n)

/-- A handler that answers `bytes` from the controller `c`. -/
lemma steady_of_respond {handler : CdRom I → Outcome (CdRom I)} {cd : CdRom I} (c : CdRom I)
    (bytes : List U8) (hasync : c.subCpu.asyncResponse = cd.subCpu.asyncResponse)
    (hread : c.readState = cd.readState)
    (hspeed : cd.readState ≠ .idle → c.doubleSpeed = cd.doubleSpeed)
    (hresp : c.subCpu.response = cd.subCpu.response) (hlen : bytes.length = cd.responseLength)
    (h : handler cd = .ok (c.respond bytes))
    (hlater : ∀ n, handler (cd.later n) = .ok ((c.later n).respond bytes)) :
    Steady handler cd := by
  constructor
  · rw [h]
    exact ⟨hasync, hread, hspeed, bytes, hlen, congrArg (Fifo.pushSlice · bytes) hresp⟩
  · intro n
    rw [h, hlater]
    rfl

/-- A handler that stops. -/
lemma steady_of_error {handler : CdRom I → Outcome (CdRom I)} {cd : CdRom I} {e : Fault}
    (h : handler cd = .error e) (hlater : ∀ n, handler (cd.later n) = .error e) :
    Steady handler cd := by
  constructor
  · rw [h]
    trivial
  · intro n
    rw [h, hlater]
    rfl

/-- GetStat, Mute and Demute. -/
lemma steady_respondStatus {cd : CdRom I} (hlen : cd.responseLength = 1) :
    Steady (fun c => pure c.respondStatus) cd := by
  refine steady_of_respond cd [cd.driveStatus] rfl rfl (fun _ => rfl) rfl hlen.symm rfl
    fun n => ?_
  rw [respondStatus, driveStatus_later]
  rfl

/-- The controller after three parameters have been taken. -/
lemma cmdSetLoc_eq (cd : CdRom I) :
    cd.cmdSetLoc = match I.fromBcd cd.popParam.1 cd.popParam.2.popParam.1
        cd.popParam.2.popParam.2.popParam.1 with
      | some target => pure { cd.popParam.2.popParam.2.popParam.2 with
          seekTarget := target, seekTargetPending := true }.respondStatus
      | none => throw (.panic "Invalid MSF in set loc") := rfl

lemma steady_cmdSetLoc {cd : CdRom I} (hlen : cd.responseLength = 1) : Steady cmdSetLoc cd := by
  let popped : CdRom I := cd.popParam.2.popParam.2.popParam.2
  cases hm :
    I.fromBcd cd.popParam.1 cd.popParam.2.popParam.1 cd.popParam.2.popParam.2.popParam.1 with
  | none =>
      refine steady_of_error (e := .panic "Invalid MSF in set loc") ?_ fun n => ?_
      · rw [cmdSetLoc_eq, hm]
        rfl
      · rw [cmdSetLoc_eq]
        change (match I.fromBcd cd.popParam.1 cd.popParam.2.popParam.1
          cd.popParam.2.popParam.2.popParam.1 with | some _ => _ | none => _) = _
        rw [hm]
        rfl
  | some target =>
      let c : CdRom I := { popped with seekTarget := target, seekTargetPending := true }
      refine steady_of_respond c [c.driveStatus] rfl rfl (fun _ => rfl) rfl hlen.symm ?_ fun n => ?_
      · rw [cmdSetLoc_eq, hm]
        rfl
      · rw [cmdSetLoc_eq]
        change (match I.fromBcd cd.popParam.1 cd.popParam.2.popParam.1
          cd.popParam.2.popParam.2.popParam.1 with | some _ => _ | none => _) = _
        rw [hm, ← driveStatus_later c n]
        rfl

/-- Filter for ADPCM sectors. -/
lemma steady_cmdSetFilter {cd : CdRom I} (hlen : cd.responseLength = 1) :
    Steady cmdSetFilter cd := by
  let c : CdRom I := { cd.popParam.2.popParam.2 with
    filterFile := cd.popParam.1, filterChannel := cd.popParam.2.popParam.1 }
  refine steady_of_respond c [c.driveStatus] rfl rfl (fun _ => rfl) rfl hlen.symm rfl fun n => ?_
  rw [← driveStatus_later c n]
  rfl

/-- SetMode does not change the sector period of a drive that is not reading. -/
lemma steady_cmdSetMode {cd : CdRom I} (hlen : cd.responseLength = 1)
    (hidle : cd.readState = .idle) : Steady cmdSetMode cd := by
  let mode := cd.popParam.1
  let c : CdRom I := { cd.popParam.2 with
    doubleSpeed := mode.getLsbD 7
    xaAdpcmToSpu := mode.getLsbD 6
    readWholeSector := mode.getLsbD 5
    sectorSizeOverride := mode.getLsbD 4
    filterEnabled := mode.getLsbD 3
    reportInterrupts := mode.getLsbD 2
    autopause := mode.getLsbD 1
    cddaMode := mode.getLsbD 0 }
  cases hbad : c.cddaMode || c.autopause || c.reportInterrupts || c.sectorSizeOverride with
  | true =>
      refine steady_of_error (e := .panic "CDROM: unhandled mode") ?_ fun n => ?_
      · exact if_pos hbad
      · exact if_pos hbad
  | false =>
      have hgood : ¬(c.cddaMode || c.autopause || c.reportInterrupts || c.sectorSizeOverride) =
          true := by
        rw [hbad]
        nofun
      refine steady_of_respond c [c.driveStatus] rfl rfl (fun h => absurd hidle h) rfl hlen.symm
        (if_neg hgood) fun n => ?_
      rw [← driveStatus_later c n]
      exact if_neg hgood

lemma steady_cmdGetParam {cd : CdRom I} (hlen : cd.responseLength = 5) : Steady cmdGetParam cd := by
  let mode := modeBit cd.doubleSpeed 7 ||| modeBit cd.xaAdpcmToSpu 6
    ||| modeBit cd.readWholeSector 5 ||| modeBit cd.sectorSizeOverride 4
    ||| modeBit cd.filterEnabled 3 ||| modeBit cd.reportInterrupts 2
    ||| modeBit cd.autopause 1 ||| modeBit cd.cddaMode 0
  refine steady_of_respond cd [cd.driveStatus, mode, 0, cd.filterFile, cd.filterChannel] rfl rfl
    (fun _ => rfl) rfl hlen.symm rfl fun n => ?_
  rw [← driveStatus_later cd n]
  rfl

lemma steady_cmdGetLocP {cd : CdRom I} (hlen : cd.responseLength = 8) : Steady cmdGetLocP cd := by
  cases hfirst : pregapEnd I with
  | error e =>
      refine steady_of_error (e := e) ?_ fun n => ?_
      · rw [cmdGetLocP, hfirst]
        rfl
      · rw [cmdGetLocP, hfirst]
        rfl
  | ok first =>
      cases hlt : I.lt cd.position first with
      | true =>
          refine steady_of_error (e := .panic "GetLocP while in track1 pregap") ?_ fun n => ?_
          · rw [cmdGetLocP, hfirst]
            exact if_pos hlt
          · rw [cmdGetLocP, hfirst]
            exact if_pos hlt
      | false =>
          have hge : ¬I.lt cd.position first = true := by simp [hlt]
          let m := I.metadata cd.sector
          refine steady_of_respond cd [m.track, m.index, (I.intoBcd m.trackMsf).1,
            (I.intoBcd m.trackMsf).2.1, (I.intoBcd m.trackMsf).2.2, (I.intoBcd m.msf).1,
            (I.intoBcd m.msf).2.1, (I.intoBcd m.msf).2.2] rfl rfl (fun _ => rfl) rfl hlen.symm
            ?_ fun n => ?_
          · rw [cmdGetLocP, hfirst]
            exact if_neg hge
          · rw [cmdGetLocP, hfirst]
            exact if_neg hge

lemma steady_cmdTest {cd : CdRom I} (hlen : cd.responseLength = 4) : Steady cmdTest cd := by
  by_cases hparams : (cd.subCpu.params.len != 1) = true
  · refine steady_of_error
      (e := .panic "Unexpected number of parameters for CDROM test command") ?_ fun n => ?_
    · exact if_pos hparams
    · exact if_pos hparams
  · by_cases hsub : cd.popParam.1 = 0x20
    · refine steady_of_respond cd.popParam.2 [0x98, 0x06, 0x10, 0xc3] rfl rfl (fun _ => rfl) rfl
        hlen.symm ?_ fun n => ?_
      · exact (if_neg hparams).trans (if_pos hsub)
      · exact (if_neg hparams).trans (if_pos hsub)
    · refine steady_of_error (e := .panic "Unhandled CDROM test subcommand") ?_ fun n => ?_
      · exact (if_neg hparams).trans (if_neg hsub)
      · exact (if_neg hparams).trans (if_neg hsub)

/-- GetId answers at once that there is no disc. -/
lemma steady_cmdGetId {cd : CdRom I} (hlen : cd.responseLength = 2) (hdisc : cd.disc = none) :
    Steady cmdGetId cd := by
  have hget {c : CdRom I} (hc : c.disc = none) : c.cmdGetId =
      .ok ({ c with subCpu := { c.subCpu with irqCode := .error } }.respond [0x11, 0x80]) := by
    rw [cmdGetId]
    split
    · next h => simp [hc] at h
    · rfl
  exact steady_of_respond { cd with subCpu := { cd.subCpu with irqCode := .error } } [0x11, 0x80]
    rfl rfl (fun _ => rfl) rfl hlen.symm (hget hdisc) fun n => hget hdisc

/-- Every handler but those of the unsettling commands is steady. -/
lemma steady_handler {cd : CdRom I} {cmd lo hi : U8} {handler : CdRom I → Outcome (CdRom I)}
    (hcmd : cd.command = some cmd) (hset : ¬cd.Unsettling)
    (h : commandTable I cmd = some (lo, hi, handler)) : Steady handler cd := by
  have hlen {n : ℕ} (hn : cmd.toNat = n) : cd.responseLength = answerLength n := by
    rw [responseLength, hcmd, ← hn]
  have hnot (hs : cmd.toNat ∈ [0x06, 0x09, 0x0a, 0x15, 0x1b, 0x1e]) : Steady handler cd :=
    absurd ⟨cmd, hcmd, .inl hs⟩ hset
  rw [commandTable] at h
  split at h <;> cases h
  case h_1 hn => exact steady_respondStatus (hlen hn)
  case h_2 hn => exact steady_cmdSetLoc (hlen hn)
  case h_3 hn => exact hnot (by simp [hn])
  case h_4 hn => exact hnot (by simp [hn])
  case h_5 hn => exact hnot (by simp [hn])
  case h_6 hn => exact steady_respondStatus (hlen hn)
  case h_7 hn => exact steady_respondStatus (hlen hn)
  case h_8 hn => exact steady_cmdSetFilter (hlen hn)
  case h_9 hn =>
    refine steady_cmdSetMode (hlen hn) (not_not.mp fun hread => ?_)
    exact hset ⟨cmd, hcmd, .inr (.inr ⟨hn, hread⟩)⟩
  case h_10 hn => exact steady_cmdGetParam (hlen hn)
  case h_11 hn => exact steady_cmdGetLocP (hlen hn)
  case h_12 hn => exact hnot (by simp [hn])
  case h_13 hn => exact steady_cmdTest (hlen hn)
  case h_14 hn =>
    refine steady_cmdGetId (hlen hn) (Option.not_isSome_iff_eq_none.mp fun hdisc => ?_)
    exact hset ⟨cmd, hcmd, .inr (.inl ⟨hn, hdisc⟩)⟩
  case h_15 hn => exact hnot (by simp [hn])
  case h_16 hn => exact hnot (by simp [hn])

/-- **A settled command** leaves the countdowns as they are, and does the same
some cycles later. -/
lemma steady_executeCommand {cd : CdRom I} (hset : ¬cd.Unsettling) : Steady executeCommand cd := by
  cases hcmd : cd.command with
  | none =>
      have hlater (n : U32) : (cd.later n).command = none := hcmd
      refine steady_of_error (e := .unwrapNone) ?_ fun n => ?_
      · rw [executeCommand, hcmd]
        rfl
      · rw [executeCommand, hlater]
        rfl
  | some cmd =>
      have hlater (n : U32) : (cd.later n).command = some cmd := hcmd
      cases htable : commandTable I cmd with
      | none =>
          refine steady_of_error (e := .panic "Unhandled CDROM command") ?_ fun n => ?_
          · simp only [executeCommand, hcmd, htable]
            rfl
          · simp only [executeCommand, hlater, htable]
            rfl
      | some entry =>
          obtain ⟨lo, hi, handler⟩ := entry
          have hexec {c : CdRom I} (hc : c.command = some cmd) : c.executeCommand =
              if c.subCpu.params.len < lo || c.subCpu.params.len > hi then
                throw (.panic "Wrong number of parameters for command")
              else handler (c.record (.executed cmd)) := by
            rw [executeCommand, hc]
            dsimp only
            rw [htable]
          have hsteady : Steady handler (cd.record (.executed cmd)) :=
            steady_handler hcmd hset htable
          by_cases hbad : (cd.subCpu.params.len < lo || cd.subCpu.params.len > hi) = true
          · refine steady_of_error
              (e := .panic "Wrong number of parameters for command") ?_ fun n => ?_
            · rw [hexec hcmd]
              exact if_pos hbad
            · rw [hexec (hlater n)]
              exact if_pos hbad
          · constructor
            · rw [hexec hcmd, if_neg hbad]
              exact hsteady.settled.mono fun c hc =>
                ⟨hc.async, hc.readState, hc.speed, hc.response⟩
            · intro n
              rw [hexec hcmd, hexec (hlater n), if_neg hbad]
              exact (if_neg hbad).trans (hsteady.later n)

end CdRom

end Rustation
