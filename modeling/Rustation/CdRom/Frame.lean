import Rustation.CdRom.Moves

/-!
The drive and the sequencer of the CD-ROM controller do not touch each other.

* `withDrive`: a controller with the drive of another one.  By
  `readSector_withDrive` reading a sector looks at the drive alone, and by
  `eq_withDrive` it changes nothing else;
* `readTick`: time passes for the drive, which may read a sector, and
  `readTick_add` passes it in two parts;
* `coolAsync`: time passes for a second response;
* `nextSubCpuStep_withRest`: a step of the sequencer that executes no command
  does not look at the drive.
-/

namespace Rustation

open Fallible

namespace CdRom

variable {I : CdImage}

/-! ### Reading a sector -/

/-- The controller `cd` with the head, the sector and the RX buffer of `d`. -/
def withDrive (cd d : CdRom I) : CdRom I :=
  { cd with
    disc := d.disc
    sector := d.sector
    rxBuffer := d.rxBuffer
    rxLen := d.rxLen
    position := d.position
    readPending := d.readPending }

/-- Reading a sector looks at the drive and at the mode, and changes the drive
alone. -/
lemma readSector_withDrive (cd d : CdRom I) (hmode : cd.readWholeSector = d.readWholeSector) :
    (cd.withDrive d).readSector = d.readSector >>= fun d' => pure (cd.withDrive d') := by
  have hpend : (cd.withDrive d).readPending = d.readPending := rfl
  have hdisc : (cd.withDrive d).disc = d.disc := rfl
  have hsec : (cd.withDrive d).sector = d.sector := rfl
  have hpos : (cd.withDrive d).position = d.position := rfl
  rw [readSector, readSector, hpend, hdisc, hsec, hpos]
  cases d.readPending with
  | true => rfl
  | false =>
      cases d.disc with
      | none => rfl
      | some disc =>
          dsimp only
          cases I.readSector disc.image d.sector d.position with
          | none => rfl
          | some r =>
              -- the sector that was read, in the two controllers
              let read : CdRom I :=
                { d with disc := some { disc with image := r.1 }, sector := r.2 }
              have hdata : (cd.withDrive read).sectorData = read.sectorData := by
                rw [sectorData, sectorData, show (cd.withDrive read).readWholeSector =
                  read.readWholeSector from hmode]
                rfl
              change ((cd.withDrive read).sectorData >>= fun data => fillRx d.rxBuffer data >>= _) =
                (read.sectorData >>= fun data => fillRx d.rxBuffer data >>= _) >>= _
              rw [hdata]
              cases read.sectorData with
              | error e => rfl
              | ok data =>
                  rw [ok_bind, ok_bind]
                  cases fillRx d.rxBuffer data with
                  | error e => rfl
                  | ok rx =>
                      rw [ok_bind, ok_bind]
                      dsimp only [withDrive]
                      cases I.next d.position with
                      | some m => rfl
                      | none => rfl

/-- Reading a sector leaves everything but the drive alone. -/
lemma eq_withDrive {cd cd' : CdRom I} (h : cd.readSector = .ok cd') : cd' = cd.withDrive cd' := by
  have hself := readSector_withDrive cd cd rfl
  rw [show cd.withDrive cd = cd from rfl, h] at hself
  exact Except.ok.inj hself

/-! ### The drive while time passes -/

/-- The controller `cd` with the drive, its countdown and its mode of `d`. -/
def withRead (cd d : CdRom I) : CdRom I :=
  { cd.withDrive d with
    readState := d.readState
    readWholeSector := d.readWholeSector
    doubleSpeed := d.doubleSpeed }

/-- Time passes for the drive: the countdown goes on, or a sector is read and
the next one is waited for. -/
def readTick (cd : CdRom I) (n : U32) : Outcome (CdRom I) :=
  match cd.readState with
  | .reading delay =>
      if delay > n then pure { cd with readState := .reading (delay - n) }
      else do
        let cd ← cd.readSector
        pure { cd with readState := .reading (cd.cyclesPerSector - (n - delay)) }
  | .idle => pure cd

lemma readTick_idle {cd : CdRom I} (h : cd.readState = .idle) (n : U32) :
    cd.readTick n = .ok cd := by
  rw [readTick, h]
  rfl

lemma readTick_wait {cd : CdRom I} {delay n : U32} (h : cd.readState = .reading delay)
    (hn : n.toNat < delay.toNat) :
    cd.readTick n = .ok { cd with readState := .reading (delay - n) } := by
  rw [readTick, h]
  exact if_pos hn

lemma readTick_read {cd : CdRom I} {delay n : U32} (h : cd.readState = .reading delay)
    (hn : delay.toNat ≤ n.toNat) :
    cd.readTick n = cd.readSector >>= fun d =>
      pure { d with readState := .reading (cd.cyclesPerSector - (n - delay)) } := by
  rw [readTick, h]
  dsimp only
  rw [if_neg (BitVec.not_lt.mpr hn)]
  refine bind_congr_ok fun d hd => ?_
  have hcps : d.cyclesPerSector = cd.cyclesPerSector := by
    rw [eq_withDrive hd]
    rfl
  rw [hcps]

/-- Reading a sector does not look at the countdown. -/
lemma readSector_readState (cd : CdRom I) (r : ReadState) :
    ({ cd with readState := r } : CdRom I).readSector =
      cd.readSector >>= fun d => pure { d with readState := r } := by
  have h := readSector_withDrive { cd with readState := r } cd rfl
  refine Eq.trans h (bind_congr_ok fun d hd => ?_)
  rw [eq_withDrive hd]
  rfl

lemma readTick_withRead (cd d : CdRom I) (n : U32) :
    (cd.withRead d).readTick n = d.readTick n >>= fun d' => pure (cd.withRead d') := by
  cases hstate : d.readState with
  | idle =>
      have hstate' : (cd.withRead d).readState = .idle := hstate
      rw [readTick_idle hstate, readTick_idle hstate']
      rfl
  | reading delay =>
      have hstate' : (cd.withRead d).readState = .reading delay := hstate
      rcases Nat.lt_or_ge n.toNat delay.toNat with hn | hn
      · rw [readTick_wait hstate hn, readTick_wait hstate' hn]
        rfl
      · have hcps : (cd.withRead d).cyclesPerSector = d.cyclesPerSector := rfl
        have hread : (cd.withRead d).readSector =
            d.readSector >>= fun d' => pure ((cd.withRead d).withDrive d') :=
          readSector_withDrive (cd.withRead d) d rfl
        rw [readTick_read hstate hn, readTick_read hstate' hn, hcps, hread]
        cases hd : d.readSector with
        | error e => rfl
        | ok d' =>
            have hmode : d'.readWholeSector = d.readWholeSector ∧
                d'.doubleSpeed = d.doubleSpeed := by
              rw [eq_withDrive hd]
              exact ⟨rfl, rfl⟩
            simp only [ok_bind, pure_eq_ok, withRead, withDrive, hmode.1, hmode.2]

/-- Only the drive and its countdown change. -/
lemma eq_withRead {cd cd' : CdRom I} {n : U32} (h : cd.readTick n = .ok cd') :
    cd' = cd.withRead cd' := by
  have hself := readTick_withRead cd cd n
  rw [show cd.withRead cd = cd from rfl, h] at hself
  exact Except.ok.inj hself

/-- At most one sector period ends within `n` cycles. -/
def OneSector (cd : CdRom I) (n : ℕ) : Prop :=
  ∀ delay, cd.readState = .reading delay → n < delay.toNat + cd.cyclesPerSector.toNat

lemma OneSector.mono {cd : CdRom I} {n m : ℕ} (hone : cd.OneSector n) (h : m ≤ n) :
    cd.OneSector m := fun delay hd => lt_of_le_of_lt h (hone delay hd)

/-- Time may pass for the drive in two parts, as long as at most one sector
period ends. -/
lemma readTick_add {cd : CdRom I} {x y : U32} (hxy : x.toNat + y.toNat < 2 ^ 32)
    (hone : cd.OneSector (x.toNat + y.toNat)) :
    (cd.readTick x >>= fun d => d.readTick y) = cd.readTick (x + y) := by
  have hadd : (x + y).toNat = x.toNat + y.toNat := by
    rw [BitVec.toNat_add]
    exact Nat.mod_eq_of_lt hxy
  cases hstate : cd.readState with
  | idle => rw [readTick_idle hstate, readTick_idle hstate, ok_bind, readTick_idle hstate]
  | reading delay =>
      have hlt := hone delay hstate
      rcases Nat.lt_or_ge x.toNat delay.toNat with hx | hx
      · -- the sector is not due in the first part
        have hsub : (delay - x).toNat = delay.toNat - x.toNat := by bv_omega
        have hstate' : ({ cd with readState := .reading (delay - x) } : CdRom I).readState =
          .reading (delay - x) := rfl
        rw [readTick_wait hstate hx, ok_bind]
        rcases Nat.lt_or_ge (x + y).toNat delay.toNat with hy | hy
        · rw [readTick_wait hstate' (by omega), readTick_wait hstate hy,
            show delay - x - y = delay - (x + y) by bv_omega]
        · rw [readTick_read hstate' (by omega), readTick_read hstate hy,
            readSector_readState, show y - (delay - x) = x + y - delay by bv_omega]
          cases cd.readSector with
          | error e => rfl
          | ok d => rfl
      · -- it is, and the next one comes after the second part
        rw [readTick_read hstate hx, readTick_read hstate (by omega)]
        cases hd : cd.readSector with
        | error e => rfl
        | ok d =>
            simp only [ok_bind, pure_eq_ok]
            have hsub : (cd.cyclesPerSector - (x - delay)).toNat =
                cd.cyclesPerSector.toNat - (x.toNat - delay.toNat) := by bv_omega
            have hstate' : ({ d with
                readState := .reading (cd.cyclesPerSector - (x - delay)) } : CdRom I).readState =
              .reading (cd.cyclesPerSector - (x - delay)) := rfl
            rw [readTick_wait hstate' (by omega),
              show cd.cyclesPerSector - (x - delay) - y = cd.cyclesPerSector - (x + y - delay) by
                bv_omega]

/-! ### Second responses while time passes -/

/-- Time passes for a second response, which waits for its turn in the end. -/
def coolAsync (cd : CdRom I) (n : U32) : CdRom I :=
  { cd with subCpu := { cd.subCpu with
    asyncResponse := cd.subCpu.asyncResponse.map fun p => (if p.1 > n then p.1 - n else 0, p.2) } }

lemma coolAsync_add (cd : CdRom I) {x y : U32} (hxy : x.toNat + y.toNat < 2 ^ 32) :
    (cd.coolAsync x).coolAsync y = cd.coolAsync (x + y) := by
  have hdelay (d : U32) : (if (if d > x then d - x else 0) > y then (if d > x then d - x else 0) - y
      else 0) = if d > x + y then d - (x + y) else 0 := by
    split_ifs <;> bv_omega
  simp only [coolAsync, Option.map_map, Function.comp_def, hdelay]

lemma coolAsync_of_none {cd : CdRom I} (h : cd.subCpu.asyncResponse = none) (n : U32) :
    cd.coolAsync n = cd := by
  rw [coolAsync, h, Option.map_none, ← h]

lemma coolAsync_of_some {cd : CdRom I} {p : U32 × AsyncHandler}
    (h : cd.subCpu.asyncResponse = some p) (n : U32) :
    cd.coolAsync n = { cd with subCpu := { cd.subCpu with
      asyncResponse := some (if p.1 > n then p.1 - n else 0, p.2) } } := by
  rw [coolAsync, h, Option.map_some]

lemma stepAsync_of_not_ready {cd : CdRom I} (h : ¬cd.Ready) (sh : SharedState) (n : U32) :
    cd.stepAsync sh n = .ok (cd.coolAsync n, sh) := by
  rw [stepAsync]
  cases ha : cd.subCpu.asyncResponse with
  | none =>
      rw [coolAsync_of_none ha]
      rfl
  | some p =>
      rw [coolAsync_of_some ha]
      dsimp only
      by_cases hp : p.1 > n
      · rw [if_pos hp, if_pos hp]
        rfl
      · rw [if_neg hp, if_neg hp, maybeProcessAsyncResponse]
        dsimp only
        rw [if_neg fun hg => h (ready_iff.mpr hg.2)]
        rfl

lemma stepRead_of_not_ready {cd : CdRom I} (h : ¬cd.Ready) (sh : SharedState) (n : U32) :
    cd.stepRead sh n = cd.readTick n >>= fun cd' => pure (cd', sh) := by
  rw [stepRead, readTick]
  cases cd.readState with
  | idle => rfl
  | reading delay =>
      dsimp only
      split
      · rfl
      · rw [bind_assoc]
        refine bind_congr_ok fun d hd => ?_
        have hr : ¬d.Ready := by
          rw [eq_withDrive hd]
          exact h
        have hnot : d.maybeNotifyRead sh = (d, sh) := by
          rw [maybeNotifyRead, if_neg]
          simp only [Bool.and_eq_true, beq_iff_eq, Bool.not_eq_true']
          exact fun hg => hr (ready_iff.mpr ⟨hg.1.2, hg.2⟩)
        rw [hnot]
        rfl

/-- The loop body of a controller that starts no response sequence. -/
lemma syncStep_of_not_ready {cd cd' : CdRom I} {sh sh' : SharedState} {remaining elapsed : U32}
    (hs : cd.stepSubCpu sh remaining = .ok (elapsed, cd', sh')) (hr : ¬cd'.Ready) :
    cd.syncStep sh remaining =
      (cd'.coolAsync elapsed).readTick elapsed >>= fun c => pure (elapsed, c, sh') := by
  have hr' : ¬(cd'.coolAsync elapsed).Ready := hr
  rw [syncStep, hs, ok_bind]
  dsimp only
  rw [stepAsync_of_not_ready hr, ok_bind]
  dsimp only
  rw [stepRead_of_not_ready hr', bind_assoc]
  rfl

/-! ### Steps that execute no command -/

/-- The next step of the sequence executes the command. -/
def ExecutesNext (cd : CdRom I) : Prop :=
  cd.subCpu.sequence.awaitsExecution = true ∧ cd.hostParams.isEmpty = true

lemma nextSubCpuStep_execute {cd : CdRom I} (hex : cd.ExecutesNext) (sh : SharedState) :
    cd.nextSubCpuStep sh =
      cd.executeCommand >>= fun c => pure (c.enter .execution Timings.EXECUTION, sh) := by
  obtain ⟨hw, hempty⟩ := hex
  rw [nextSubCpuStep]
  cases hs : cd.subCpu.sequence <;> rw [hs] at hw <;> try cases hw
  all_goals exact if_pos hempty

/-- The controller `cd` with the drive of `d` and the second response `a`,
which is all that such a step does not look at. -/
def withRest (cd d : CdRom I) (a : Option (U32 × AsyncHandler)) : CdRom I :=
  { cd.withRead d with subCpu := { cd.subCpu with asyncResponse := a } }

lemma retireCommand_withRest (cd d : CdRom I) (a : Option (U32 × AsyncHandler)) :
    (cd.withRest d a).retireCommand = cd.retireCommand.withRest d a := by
  have hcommand : (cd.withRest d a).command = cd.command := rfl
  rw [retireCommand, retireCommand, hcommand]
  cases cd.command with
  | none => rfl
  | some cmd => rfl

lemma triggerIrq_withRest (cd d : CdRom I) (a : Option (U32 × AsyncHandler)) (sh : SharedState)
    (irq : IrqCode) : (cd.withRest d a).triggerIrq sh irq =
      cd.triggerIrq sh irq >>= fun s => pure (s.1.withRest d a, s.2) := by
  have hflags : (cd.withRest d a).irqFlags = cd.irqFlags := rfl
  rw [triggerIrq, triggerIrq, hflags]
  split
  · rfl
  · dsimp only
    have hirq : ({ cd.withRest d a with irqFlags := irq.code } : CdRom I).irq =
      ({ cd with irqFlags := irq.code } : CdRom I).irq := rfl
    rw [hirq]
    split <;> rfl

/-- A step that executes no command looks at the sequencer alone. -/
lemma nextSubCpuStep_withRest {cd : CdRom I} (hex : ¬cd.ExecutesNext) (d : CdRom I)
    (a : Option (U32 × AsyncHandler)) (sh : SharedState) :
    (cd.withRest d a).nextSubCpuStep sh =
      cd.nextSubCpuStep sh >>= fun s => pure (s.1.withRest d a, s.2) := by
  have hseq : (cd.withRest d a).subCpu.sequence = cd.subCpu.sequence := rfl
  have hparams : (cd.withRest d a).hostParams.isEmpty = cd.hostParams.isEmpty := rfl
  have hmoved : (cd.withRest d a).moveResponse.subCpu.response.isEmpty =
    cd.moveResponse.subCpu.response.isEmpty := rfl
  have hawait (hw : cd.subCpu.sequence.awaitsExecution = true) : ¬cd.hostParams.isEmpty = true :=
    fun he => hex ⟨hw, he⟩
  rw [nextSubCpuStep, nextSubCpuStep, hseq, hparams]
  cases hs : cd.subCpu.sequence with
  | idle => rfl
  | commandPending | paramPush =>
      have hp := hawait (by rw [hs]; rfl)
      dsimp only
      rw [if_neg hp, if_neg hp]
      rfl
  | execution | busyDelay => rfl
  | rxFlush | rxPush | asyncRxPush =>
      dsimp only
      rw [hmoved]
      split <;> rfl
  | irqDelay =>
      dsimp only
      have hcode : (cd.withRest d a).retireCommand.subCpu.irqCode =
          cd.retireCommand.subCpu.irqCode := by
        rw [retireCommand_withRest]
        rfl
      rw [hcode, retireCommand_withRest, triggerIrq_withRest, bind_assoc, bind_assoc]
      rfl

/-- And it leaves everything else alone. -/
lemma eq_withRest {cd : CdRom I} (hex : ¬cd.ExecutesNext) {sh : SharedState} {s : Shared I}
    (h : cd.nextSubCpuStep sh = .ok s) : s.1 = s.1.withRest cd cd.subCpu.asyncResponse := by
  have hself := nextSubCpuStep_withRest hex cd cd.subCpu.asyncResponse sh
  rw [show cd.withRest cd cd.subCpu.asyncResponse = cd from rfl, h] at hself
  exact congrArg Prod.fst (Except.ok.inj hself)

/-- The timer of a step matters to the last step of a sequence only, which
leaves it behind. -/
lemma nextSubCpuStep_timer {cd : CdRom I} (hex : ¬cd.ExecutesNext)
    (hlast : cd.subCpu.sequence ≠ .irqDelay) (timer : U32) (sh : SharedState) :
    ({ cd with subCpu := { cd.subCpu with timer := timer } } : CdRom I).nextSubCpuStep sh =
      cd.nextSubCpuStep sh := by
  let cd' : CdRom I := { cd with subCpu := { cd.subCpu with timer := timer } }
  have hseq : cd'.subCpu.sequence = cd.subCpu.sequence := rfl
  have hparams : cd'.hostParams.isEmpty = cd.hostParams.isEmpty := rfl
  have hmoved : cd'.moveResponse.subCpu.response.isEmpty =
    cd.moveResponse.subCpu.response.isEmpty := rfl
  have hawait (hw : cd.subCpu.sequence.awaitsExecution = true) : ¬cd.hostParams.isEmpty = true :=
    fun he => hex ⟨hw, he⟩
  change cd'.nextSubCpuStep sh = _
  rw [nextSubCpuStep, nextSubCpuStep, hseq, hparams]
  cases hs : cd.subCpu.sequence with
  | idle | execution | busyDelay => rfl
  | commandPending | paramPush =>
      have hp := hawait (by rw [hs]; rfl)
      dsimp only
      rw [if_neg hp, if_neg hp]
      rfl
  | rxFlush | rxPush | asyncRxPush =>
      dsimp only
      rw [hmoved]
      split <;> rfl
  | irqDelay => exact absurd hs hlast

end CdRom

end Rustation
