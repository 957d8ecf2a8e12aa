import Rustation.Gpu.Beam

/-!
Whether the video output depends on how often it is synchronised.

* `Granular`: two synchronisations reach the same position and field as one
  over the whole interval, and each of the three stays in the frame and counts
  the frames it passes;
* `OnBoundary`: an interval that ends, before the reduction, exactly in line
  `lines`, the one line number that `sync` fails to reduce;
* `granular_iff`: the law holds exactly when none of the three intervals ends
  there.
-/

namespace Rustation

namespace Beam

variable {L N p b : ℕ}

/-- Cutting an interval does not change where it ends, unless the reduction
after the cut is followed by an interval that ends exactly in line `N`. -/
lemma wrap_wrap_add (hL : 0 < L) (h : (wrap L N p + b) / L ≠ N ∨ p / L ≤ N) :
    wrap L N (wrap L N p + b) = wrap L N (p + b) := by
  by_cases hp : p / L ≤ N
  · rw [wrap_of_le hp]
  have hne : (wrap L N p + b) / L ≠ N := h.resolve_right hp
  push Not at hp
  obtain ⟨k, hk⟩ := wrap_add_mul L N p
  have hmod : (p + b) % (N * L) = (wrap L N p + b) % (N * L) := by
    have hsum : p + b = wrap L N p + b + k * (N * L) := by omega
    rw [hsum, Nat.add_mul_mod_self_right]
  have hpast : N < (p + b) / L := lt_of_lt_of_le hp (Nat.div_le_div_right (Nat.le_add_right p b))
  rw [wrap_of_lt hpast, hmod]
  rcases lt_or_gt_of_ne hne with hlt | hgt
  · rw [wrap_of_le hlt.le, Nat.mod_eq_of_lt ((Nat.div_lt_iff_lt_mul hL).mp hlt)]
  · rw [wrap_of_lt hgt]

/-- The line number after a cut: whole frames have been taken off. -/
lemma wrap_add_div (h : N < p / L) (hL : 0 < L) :
    (wrap L N p + b) / L = p / L % N + ((p + b) / L - p / L) := by
  obtain ⟨k, hk⟩ := wrap_add_mul L N p
  have hline : p / L = p / L % N + k * N := by
    rw [← wrap_div h, ← Nat.add_mul_div_right _ _ hL, Nat.mul_assoc, hk]
  have hsum : (p + b) / L = (wrap L N p + b) / L + k * N := by
    rw [← Nat.add_mul_div_right _ _ hL, Nat.mul_assoc, Nat.add_right_comm, hk]
  have hmono : p / L % N ≤ (wrap L N p + b) / L := by
    rw [← wrap_div h]
    exact Nat.div_le_div_right (Nat.le_add_right _ b)
  omega

end Beam

namespace Display

variable {ratio : VideoClock → FracCycles} {d : Display} {sh : SharedState}

/-! ### The parts of `sync` -/

/-- The time since the last synchronisation of the GPU. -/
def elapsed (sh : SharedState) : Cycles := sh.tk.now - (sh.tk.timesheets .gpu).lastSync

/-- The state `sync` leaves. -/
lemma sync_fst (ratio : VideoClock → FracCycles) (d : Display) (sh : SharedState) :
    (d.sync ratio sh).1 =
      { d.advance ratio (elapsed sh) with
        vblankInterrupt := (d.advance ratio (elapsed sh)).inVblank } := rfl

lemma sync_tk (ratio : VideoClock → FracCycles) (d : Display) (sh : SharedState) :
    (d.sync ratio sh).2.tk
      = (sh.tk.sync .gpu).2.setNextSyncDelta .gpu ((d.sync ratio sh).1.nextSyncDelta ratio) := by
  simp only [sync, predictNextSync]
  congr 1
  split_ifs <;> rfl

/-- A synchronisation brings the time sheet up to the current date. -/
lemma elapsed_sync_tick (ratio : VideoClock → FracCycles) (d : Display) (sh : SharedState)
    (cycles : Cycles) : elapsed ((d.sync ratio sh).2.tick cycles) = cycles := by
  have hsheet : elapsed ((d.sync ratio sh).2.tick cycles) = sh.tk.now + cycles - sh.tk.now := by
    simp [elapsed, SharedState.tick, TimeKeeper.tick, sync_tk, TimeKeeper.setNextSyncDelta,
      TimeKeeper.sync, TimeSheet.sync, TimeSheet.setNextSync]
  rw [hsheet, BitVec.add_comm, BitVec.add_sub_cancel]

lemma elapsed_tick (sh : SharedState) (cycles : Cycles) :
    elapsed (sh.tick cycles) = elapsed sh + cycles := by
  simp only [elapsed, SharedState.tick, TimeKeeper.tick]
  bv_omega

lemma sync_beam (hfit : d.Fits ratio (elapsed sh).toNat) :
    (d.sync ratio sh).1.beam
      = Beam.wrap d.lineLength d.lines (d.ahead ratio (elapsed sh).toNat) :=
  advance_beam hfit

/-- The configuration of the video output is not changed. -/
lemma sync_frame (ratio : VideoClock → FracCycles) (d : Display) (sh : SharedState) :
    (d.sync ratio sh).1.ticks = d.ticks ∧ (d.sync ratio sh).1.lines = d.lines
      ∧ (d.sync ratio sh).1.lineLength = d.lineLength
      ∧ (d.sync ratio sh).1.speed ratio = d.speed ratio
      ∧ (d.sync ratio sh).1.interlaced = d.interlaced
      ∧ (d.sync ratio sh).1.displayLineStart = d.displayLineStart
      ∧ (d.sync ratio sh).1.displayLineEnd = d.displayLineEnd := by
  obtain ⟨hvmode, hinter, hstd, hstart, hend, -⟩ := advance_frame ratio d (elapsed sh)
  have hvmode' : (d.sync ratio sh).1.vmode = d.vmode := hvmode
  have hstd' : (d.sync ratio sh).1.standard = d.standard := hstd
  have htimings : (d.sync ratio sh).1.vmodeTimings = d.vmodeTimings := by
    rw [vmodeTimings, hvmode', vmodeTimings]
  refine ⟨?_, ?_, ?_, ?_, hinter, hstart, hend⟩
  · rw [ticks, htimings, ticks]
  · rw [lines, htimings, lines]
  · rw [lineLength, ticks, htimings, lineLength, ticks]
  · rw [speed, hstd', speed]

/-- A progressive picture has no fields to change. -/
lemma sync_field_progressive (h : d.interlaced = false) : (d.sync ratio sh).1.field = d.field :=
  advance_field_progressive h

/-! ### Staying in the frame -/

/-- The line number reached after `delta` cycles, before any reduction. -/
def lineAfter (ratio : VideoClock → FracCycles) (d : Display) (delta : ℕ) : ℕ :=
  d.ahead ratio delta / d.lineLength

/-- After the synchronisation line and tick are in range, and in interlaced
mode the field has changed once for each frame that was completed. -/
def StaysInFrame (ratio : VideoClock → FracCycles) (d : Display) (sh : SharedState) : Prop :=
  (d.sync ratio sh).1.displayLine.toNat < d.lines
    ∧ (d.sync ratio sh).1.displayLineTick.toNat < d.ticks
    ∧ (d.interlaced = true →
      (d.sync ratio sh).1.field
        = flip (d.lineAfter ratio (elapsed sh).toNat / d.lines) d.field)

/-- A synchronisation stays in the frame unless it ends exactly in line
`lines`. -/
lemma staysInFrame_iff (hfit : d.Fits ratio (elapsed sh).toNat) :
    d.StaysInFrame ratio sh ↔ d.lineAfter ratio (elapsed sh).toNat ≠ d.lines := by
  have hline : (d.sync ratio sh).1.displayLine.toNat
      = Beam.wrap d.lineLength d.lines (d.ahead ratio (elapsed sh).toNat) / d.lineLength :=
    advance_line hfit
  have htick : (d.sync ratio sh).1.displayLineTick.toNat < d.ticks := advance_tick_lt ratio d _
  have hfield : d.interlaced = true → (d.sync ratio sh).1.field
      = flip (d.frames (d.ahead ratio (elapsed sh).toNat)) d.field := advance_field hfit
  rw [frames] at hfield
  simp only [StaysInFrame, lineAfter]
  rcases lt_trichotomy (d.ahead ratio (elapsed sh).toNat / d.lineLength) d.lines
    with hlt | heq | hgt
  · rw [Beam.wrap_of_le hlt.le] at hline
    rw [if_neg (by omega)] at hfield
    rw [Nat.div_eq_of_lt hlt]
    exact ⟨fun _ => hlt.ne, fun _ => ⟨hline ▸ hlt, htick, hfield⟩⟩
  · -- line `lines` is not reduced
    rw [Beam.wrap_of_le heq.le, heq] at hline
    exact ⟨fun h => absurd h.1 (by omega), fun h => absurd heq h⟩
  · rw [Beam.wrap_div hgt] at hline
    rw [if_pos hgt] at hfield
    exact ⟨fun _ => hgt.ne', fun _ => ⟨hline ▸ Nat.mod_lt _ d.lines_pos, htick, hfield⟩⟩

/-! ### Cutting an interval -/

/-- Two synchronisations, the second `cycles` after the first, and one at the
date of the second: the same position and field, and all of them stay in the
frame. -/
structure Granular (ratio : VideoClock → FracCycles) (d : Display) (sh : SharedState)
    (cycles : Cycles) : Prop where
  phase : ((d.sync ratio sh).1.sync ratio ((d.sync ratio sh).2.tick cycles)).1.gpuClockPhase
    = (d.sync ratio (sh.tick cycles)).1.gpuClockPhase
  tick : ((d.sync ratio sh).1.sync ratio ((d.sync ratio sh).2.tick cycles)).1.displayLineTick
    = (d.sync ratio (sh.tick cycles)).1.displayLineTick
  line : ((d.sync ratio sh).1.sync ratio ((d.sync ratio sh).2.tick cycles)).1.displayLine
    = (d.sync ratio (sh.tick cycles)).1.displayLine
  field : ((d.sync ratio sh).1.sync ratio ((d.sync ratio sh).2.tick cycles)).1.field
    = (d.sync ratio (sh.tick cycles)).1.field
  first : d.StaysInFrame ratio sh
  second : (d.sync ratio sh).1.StaysInFrame ratio ((d.sync ratio sh).2.tick cycles)
  whole : d.StaysInFrame ratio (sh.tick cycles)

/-- An interval ends exactly in line `lines`, which `sync` does not reduce: the
first interval, the whole one, or the second after the first one has been
reduced. -/
def OnBoundary (ratio : VideoClock → FracCycles) (d : Display) (d1 d2 : ℕ) : Prop :=
  d.lineAfter ratio d1 = d.lines ∨ d.lineAfter ratio (d1 + d2) = d.lines
    ∨ d.lines < d.lineAfter ratio d1
      ∧ d.lineAfter ratio d1 % d.lines + (d.lineAfter ratio (d1 + d2) - d.lineAfter ratio d1)
        = d.lines

section Cut

variable {cycles : Cycles} (hspeed : 0 < d.speed ratio)
  (hfit : d.Fits ratio ((elapsed sh).toNat + cycles.toNat))

include hfit

lemma fits_first : d.Fits ratio (elapsed sh).toNat := by
  refine lt_of_le_of_lt ?_ hfit
  gcongr
  exact Nat.le_add_right _ _

/-- The second interval fits as well: only the phase is left of the first one. -/
lemma fits_second : (d.sync ratio sh).1.Fits ratio cycles.toNat := by
  obtain ⟨-, -, -, hsp, -⟩ := sync_frame ratio d sh
  have hphase : (d.sync ratio sh).1.gpuClockPhase.toNat ≤
      d.gpuClockPhase.toNat + (elapsed sh).toNat * d.speed ratio := by
    obtain ⟨-, -, -, -, -, -, hphase, -⟩ := advance_frame ratio d (elapsed sh)
    have hphase' : (d.sync ratio sh).1.gpuClockPhase
        = (d.total ratio (elapsed sh)).setWidth 16 := hphase
    rw [hphase', BitVec.toNat_setWidth, ← total_toNat (fits_first hfit)]
    exact Nat.mod_le _ _
  rw [Fits, Nat.add_mul] at hfit
  rw [Fits, hsp]
  omega

include hspeed in
/-- The clock does not wrap before the GPU time does. -/
lemma elapsed_tick_toNat :
    (elapsed (sh.tick cycles)).toNat = (elapsed sh).toNat + cycles.toNat := by
  have hle := Nat.le_mul_of_pos_right ((elapsed sh).toNat + cycles.toNat) hspeed
  rw [Fits] at hfit
  rw [elapsed_tick, BitVec.toNat_add, Nat.mod_eq_of_lt (by omega)]

/-- Where the second interval ends, before its reduction. -/
lemma ahead_second :
    (d.sync ratio sh).1.ahead ratio cycles.toNat
      = Beam.wrap d.lineLength d.lines (d.ahead ratio (elapsed sh).toNat)
        + cycles.toNat * d.speed ratio := by
  obtain ⟨-, -, -, hsp, -⟩ := sync_frame ratio d sh
  rw [ahead, sync_beam (fits_first hfit), hsp]

lemma lineAfter_second :
    (d.sync ratio sh).1.lineAfter ratio cycles.toNat =
      if d.lines < d.lineAfter ratio (elapsed sh).toNat then
        d.lineAfter ratio (elapsed sh).toNat % d.lines
          + (d.lineAfter ratio ((elapsed sh).toNat + cycles.toNat)
            - d.lineAfter ratio (elapsed sh).toNat)
      else d.lineAfter ratio ((elapsed sh).toNat + cycles.toNat) := by
  obtain ⟨-, -, hlen, -⟩ := sync_frame ratio d sh
  have hsum : d.ahead ratio ((elapsed sh).toNat + cycles.toNat)
      = d.ahead ratio (elapsed sh).toNat + cycles.toNat * d.speed ratio := by
    rw [ahead, ahead, Nat.add_mul, Nat.add_assoc]
  rw [lineAfter, ahead_second hfit, hlen, lineAfter, lineAfter, hsum]
  split_ifs with hcut
  · exact Beam.wrap_add_div hcut d.lineLength_pos
  · rw [Beam.wrap_of_le (by omega)]

/-- The frames completed in the two intervals are those of the whole one. -/
lemma frames_second (hne : d.lineAfter ratio (elapsed sh).toNat ≠ d.lines) :
    d.lineAfter ratio (elapsed sh).toNat / d.lines
        + (d.sync ratio sh).1.lineAfter ratio cycles.toNat / d.lines
      = d.lineAfter ratio ((elapsed sh).toNat + cycles.toNat) / d.lines := by
  rw [lineAfter_second hfit]
  split_ifs with hcut
  · have hle : d.lineAfter ratio (elapsed sh).toNat
        ≤ d.lineAfter ratio ((elapsed sh).toNat + cycles.toNat) := by
      rw [lineAfter, lineAfter, ahead, ahead, Nat.add_mul]
      exact Nat.div_le_div_right (by omega)
    have hsum := Nat.mod_add_div (d.lineAfter ratio (elapsed sh).toNat) d.lines
    have hwhole : d.lineAfter ratio ((elapsed sh).toNat + cycles.toNat)
        = d.lineAfter ratio (elapsed sh).toNat % d.lines
          + (d.lineAfter ratio ((elapsed sh).toNat + cycles.toNat)
            - d.lineAfter ratio (elapsed sh).toNat)
          + d.lines * (d.lineAfter ratio (elapsed sh).toNat / d.lines) := by omega
    conv_rhs => rw [hwhole, Nat.add_mul_div_left _ _ d.lines_pos]
    exact Nat.add_comm _ _
  · rw [Nat.div_eq_of_lt (by omega), Nat.zero_add]

include hspeed in
/-- All three synchronisations stay in the frame exactly when no interval ends
in line `lines`. -/
lemma stays_iff :
    (d.StaysInFrame ratio sh
        ∧ (d.sync ratio sh).1.StaysInFrame ratio ((d.sync ratio sh).2.tick cycles)
        ∧ d.StaysInFrame ratio (sh.tick cycles))
      ↔ ¬d.OnBoundary ratio (elapsed sh).toNat cycles.toNat := by
  obtain ⟨-, hlines, -⟩ := sync_frame ratio d sh
  have hsecond : (d.sync ratio sh).1.Fits ratio
      (elapsed ((d.sync ratio sh).2.tick cycles)).toNat := by
    rw [elapsed_sync_tick]
    exact fits_second hfit
  have hwhole : d.Fits ratio (elapsed (sh.tick cycles)).toNat := by
    rw [elapsed_tick_toNat hspeed hfit]
    exact hfit
  rw [staysInFrame_iff (fits_first hfit), staysInFrame_iff hsecond, staysInFrame_iff hwhole,
    elapsed_sync_tick, elapsed_tick_toNat hspeed hfit, hlines, lineAfter_second hfit, OnBoundary]
  split_ifs with hcut <;> tauto

include hspeed in
/-- **Granularity of GPU time.**  However the interval is cut, two
synchronisations and one give the same position and field and stay in the
frame, exactly when none of the intervals ends in the line that `sync` fails to
reduce. -/
theorem granular_iff :
    d.Granular ratio sh cycles ↔ ¬d.OnBoundary ratio (elapsed sh).toNat cycles.toNat := by
  rw [← stays_iff hspeed hfit]
  constructor
  · exact fun h => ⟨h.first, h.second, h.whole⟩
  rintro ⟨hfirst, hsecond, hwhole⟩
  obtain ⟨hticks, hlines, hlen, hsp, hinter, -⟩ := sync_frame ratio d sh
  have hticks2 := (sync_frame ratio (d.sync ratio sh).1 ((d.sync ratio sh).2.tick cycles)).1
  have hticksw := (sync_frame ratio d (sh.tick cycles)).1
  -- the position
  have hfit2 : (d.sync ratio sh).1.Fits ratio
      (elapsed ((d.sync ratio sh).2.tick cycles)).toNat := by
    rw [elapsed_sync_tick]
    exact fits_second hfit
  have hne2 := (staysInFrame_iff hfit2).mp hsecond
  have hnew := (staysInFrame_iff (fits_first hfit)).mp hfirst
  have hfitw : d.Fits ratio (elapsed (sh.tick cycles)).toNat := by
    rw [elapsed_tick_toNat hspeed hfit]
    exact hfit
  have hbeam : ((d.sync ratio sh).1.sync ratio ((d.sync ratio sh).2.tick cycles)).1.beam
      = (d.sync ratio (sh.tick cycles)).1.beam := by
    rw [sync_beam hfit2, sync_beam hfitw, elapsed_sync_tick, elapsed_tick_toNat hspeed hfit,
      ahead_second hfit, hlen, hlines, Beam.wrap_wrap_add d.lineLength_pos]
    · rw [ahead, ahead, Nat.add_mul, Nat.add_assoc]
    · rw [elapsed_sync_tick, hlines, lineAfter, hlen, ahead_second hfit] at hne2
      exact .inl hne2
  obtain ⟨hphase, htick, hline⟩ := (digits_eq_iff
    (by rw [hticks2]; exact hsecond.2.1) (by rw [hticksw]; exact hwhole.2.1)
    (by rw [hticks2, hticksw, hticks])).mpr hbeam
  refine ⟨hphase, htick, hline, ?_, hfirst, hsecond, hwhole⟩
  -- the field
  cases hprog : d.interlaced with
  | true =>
      rw [hsecond.2.2 (hinter.trans hprog), hfirst.2.2 hprog, hwhole.2.2 hprog, flip_flip,
        elapsed_sync_tick, hlines, frames_second hfit hnew, elapsed_tick_toNat hspeed hfit]
  | false =>
      rw [sync_field_progressive (hinter.trans hprog), sync_field_progressive hprog,
        sync_field_progressive hprog]

end Cut

/-- The clock ratio of a console with the given standard, as the source
computes it. -/
def clockRatio : VideoClock → FracCycles
  | .ntsc => ⟨103890⟩
  | .pal => ⟨102985⟩

/-- The law at a synchronisation a thousand cycles after reset and another one a
thousand cycles later. -/
theorem granular_reset :
    (0 < (Display.new .ntsc).speed clockRatio
        ∧ (Display.new .ntsc).Fits clockRatio
          ((elapsed (SharedState.new.tick 1000)).toNat + (1000 : Cycles).toNat))
      ∧ (Display.new .ntsc).Granular clockRatio (SharedState.new.tick 1000) 1000 := by
  have hspeed : 0 < (Display.new .ntsc).speed clockRatio := by decide
  have hfit : (Display.new .ntsc).Fits clockRatio
      ((elapsed (SharedState.new.tick 1000)).toNat + (1000 : Cycles).toNat) := by
    rw [Fits]
    decide
  refine ⟨⟨hspeed, hfit⟩, (granular_iff hspeed hfit).mpr ?_⟩
  rw [OnBoundary]
  decide

/-- From reset, an interval of 526 lines leaves the beam in line 0 of the third
frame.  Cut one line before its end it leaves the beam in line 263 of the
second one, which has only 263 lines. -/
theorem granular_frame_end :
    let d := Display.new .ntsc
    let first := d.sync clockRatio (SharedState.new.tick 1130000)
    (d.sync clockRatio (SharedState.new.tick 1132200)).1.displayLine = 0
      ∧ (first.1.sync clockRatio (first.2.tick 2200)).1.displayLine = 263
      ∧ ¬d.Granular clockRatio (SharedState.new.tick 1130000) 2200 := by
  refine ⟨by decide, by decide, fun h => ?_⟩
  exact absurd h.line (by decide)

end Display

end Rustation
