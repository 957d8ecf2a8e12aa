import Rustation.Gpu.Display

/-!
The position of the beam as one number.

Line, tick and clock phase are the digits of a number in mixed radix: the
position within the frame in units of 1/65536 of a GPU tick.  In these terms
`sync` is one addition followed by a reduction modulo the length of a frame,
which is how the separate divisions of the source are reasoned about.

* `Display.beam`, `Display.lineLength`, `Display.lines`: the position, and the
  two radices it is read with;
* `Beam.wrap`: the reduction that `sync` makes.  It starts one line late: a
  position in line `lines` is left where it is;
* `advance_beam`, `advance_field`: `advance` moves the position by the time
  elapsed and reduces it, and flips the field once for each frame passed, as
  long as the GPU time fits in 64 bits (`Fits`);
* `digits_eq_iff`: the position determines its digits.
-/

namespace Rustation

/-! ### The reduction of a position -/

namespace Beam

/-- The reduction of the position `p` for lines of length `L`, `N` to a frame,
as `sync` makes it. -/
def wrap (L N p : ℕ) : ℕ := if N < p / L then p % (N * L) else p

variable {L N p q : ℕ}

lemma wrap_of_le (h : p / L ≤ N) : wrap L N p = p := if_neg (by omega)

lemma wrap_of_lt (h : N < p / L) : wrap L N p = p % (N * L) := if_pos h

/-- The line of a reduced position. -/
lemma wrap_div (h : N < p / L) : wrap L N p / L = p / L % N := by
  rw [wrap_of_lt h, Nat.mul_comm, Nat.mod_mul_right_div_self]

/-- The reduction changes a position by whole frames. -/
lemma wrap_add_mul (L N p : ℕ) : ∃ k, wrap L N p + k * (N * L) = p := by
  rw [wrap]
  split_ifs with h
  · exact ⟨p / (N * L), Nat.mod_add_div' p (N * L)⟩
  · exact ⟨0, by simp⟩

end Beam

namespace Display

variable {ratio : VideoClock → FracCycles} {d : Display} {delta : Cycles}

/-! ### Digits -/

/-- Ticks of the GPU clock in a line. -/
def ticks (d : Display) : ℕ := d.vmodeTimings.1.toNat

/-- Lines in a frame. -/
def lines (d : Display) : ℕ := d.vmodeTimings.2.toNat

/-- The length of a line. -/
def lineLength (d : Display) : ℕ := 65536 * d.ticks

/-- The position of the beam. -/
def beam (d : Display) : ℕ :=
  d.gpuClockPhase.toNat + 65536 * (d.displayLineTick.toNat + d.ticks * d.displayLine.toNat)

/-- The speed of the beam, for each CPU cycle. -/
def speed (ratio : VideoClock → FracCycles) (d : Display) : ℕ := (ratio d.standard).fp.toNat

lemma ticks_pos (d : Display) : 0 < d.ticks := by
  rw [ticks, vmodeTimings]
  cases d.vmode <;> decide

lemma ticks_lt (d : Display) : d.ticks < 4096 := by
  rw [ticks, vmodeTimings]
  cases d.vmode <;> decide

lemma lines_pos (d : Display) : 0 < d.lines := by
  rw [lines, vmodeTimings]
  cases d.vmode <;> decide

lemma lines_lt (d : Display) : d.lines < 512 := by
  rw [lines, vmodeTimings]
  cases d.vmode <;> decide

lemma lineLength_pos (d : Display) : 0 < d.lineLength :=
  Nat.mul_pos (by norm_num) d.ticks_pos

lemma beam_mod (d : Display) : d.beam % 65536 = d.gpuClockPhase.toNat := by
  have hphase := d.gpuClockPhase.isLt
  rw [beam, Nat.add_mul_mod_self_left, Nat.mod_eq_of_lt hphase]

lemma beam_div (d : Display) :
    d.beam / 65536 = d.displayLineTick.toNat + d.ticks * d.displayLine.toNat := by
  have hphase := d.gpuClockPhase.isLt
  rw [beam, Nat.add_mul_div_left _ _ (by norm_num), Nat.div_eq_of_lt hphase, Nat.zero_add]

/-- The line the beam is in, when the tick is within its line. -/
lemma beam_div_lineLength (h : d.displayLineTick.toNat < d.ticks) :
    d.beam / d.lineLength = d.displayLine.toNat := by
  rw [lineLength, ← Nat.div_div_eq_div_mul, beam_div, Nat.add_mul_div_left _ _ d.ticks_pos,
    Nat.div_eq_of_lt h, Nat.zero_add]

lemma beam_div_mod (h : d.displayLineTick.toNat < d.ticks) :
    d.beam / 65536 % d.ticks = d.displayLineTick.toNat := by
  rw [beam_div, Nat.add_mul_mod_self_left, Nat.mod_eq_of_lt h]

/-- The position determines its digits. -/
lemma digits_eq_iff {e : Display} (hd : d.displayLineTick.toNat < d.ticks)
    (he : e.displayLineTick.toNat < e.ticks) (hv : d.ticks = e.ticks) :
    (d.gpuClockPhase = e.gpuClockPhase ∧ d.displayLineTick = e.displayLineTick
      ∧ d.displayLine = e.displayLine) ↔ d.beam = e.beam := by
  constructor
  · rintro ⟨hphase, htick, hline⟩
    rw [beam, beam, hphase, htick, hline, hv]
  · intro h
    refine ⟨BitVec.eq_of_toNat_eq ?_, BitVec.eq_of_toNat_eq ?_, BitVec.eq_of_toNat_eq ?_⟩
    · rw [← beam_mod, ← beam_mod, h]
    · rw [← beam_div_mod hd, ← beam_div_mod he, h, hv]
    · rw [← beam_div_lineLength hd, ← beam_div_lineLength he, h, lineLength, lineLength, hv]

/-! ### The advance of the beam -/

/-- The GPU time of `delta` CPU cycles fits in 64 bits. -/
def Fits (ratio : VideoClock → FracCycles) (d : Display) (delta : ℕ) : Prop :=
  d.gpuClockPhase.toNat + delta * d.speed ratio < 2 ^ 64

/-- Where the beam is `delta` cycles later, before any reduction. -/
def ahead (ratio : VideoClock → FracCycles) (d : Display) (delta : ℕ) : ℕ :=
  d.beam + delta * d.speed ratio

/-- The field after `n` changes. -/
def flip (n : ℕ) (f : Field) : Field := if (n + f.value) % 2 = 1 then .top else .bottom

@[simp] lemma flip_zero (f : Field) : flip 0 f = f := by
  cases f <;> rfl

lemma flip_flip (m n : ℕ) (f : Field) : flip n (flip m f) = flip (m + n) f := by
  have hm := Nat.mod_two_eq_zero_or_one m
  have hn := Nat.mod_two_eq_zero_or_one n
  cases f <;> rcases hm with hm | hm <;> rcases hn with hn | hn <;>
    simp [flip, Field.value, Nat.add_mod, hm, hn]

/-- The number of frames that `sync` counts from a position before reduction. -/
def frames (d : Display) (p : ℕ) : ℕ :=
  if d.lines < p / d.lineLength then p / d.lineLength / d.lines else 0

/-- GPU time in `advance`, with its fraction. -/
def total (ratio : VideoClock → FracCycles) (d : Display) (delta : Cycles) : Cycles :=
  d.gpuClockPhase.setWidth 64 + delta * (ratio d.standard).fp

/-- GPU ticks since the start of the line in `advance`. -/
def lineTick (ratio : VideoClock → FracCycles) (d : Display) (delta : Cycles) : Cycles :=
  d.displayLineTick.setWidth 64 + d.total ratio delta >>> 16

/-- The line number in `advance`, before it is reduced. -/
def line (ratio : VideoClock → FracCycles) (d : Display) (delta : Cycles) : Cycles :=
  d.displayLine.setWidth 64 + d.lineTick ratio delta / d.vmodeTimings.1.setWidth 64

lemma setWidth_toNat (w : U16) : (w.setWidth 64).toNat = w.toNat :=
  BitVec.toNat_setWidth_of_le (by norm_num)

/-- `advance` into a new frame. -/
lemma advance_of_gt (h : d.line ratio delta > d.vmodeTimings.2.setWidth 64) :
    d.advance ratio delta =
      { d with
        gpuClockPhase := (d.total ratio delta).setWidth 16
        displayLineTick := (d.lineTick ratio delta % d.vmodeTimings.1.setWidth 64).setWidth 16
        field :=
          if d.interlaced then
            if (d.line ratio delta / d.vmodeTimings.2.setWidth 64 + BitVec.ofNat 64 d.field.value)
              &&& 1 ≠ 0 then .top else .bottom
          else d.field
        displayLine := (d.line ratio delta % d.vmodeTimings.2.setWidth 64).setWidth 16 } :=
  if_pos h

/-- `advance` within the frame. -/
lemma advance_of_not_gt (h : ¬d.line ratio delta > d.vmodeTimings.2.setWidth 64) :
    d.advance ratio delta =
      { d with
        gpuClockPhase := (d.total ratio delta).setWidth 16
        displayLineTick := (d.lineTick ratio delta % d.vmodeTimings.1.setWidth 64).setWidth 16
        displayLine := (d.line ratio delta).setWidth 16 } :=
  if_neg h

/-- What `advance` leaves alone, and the digits it computes without a reduction. -/
lemma advance_frame (ratio : VideoClock → FracCycles) (d : Display) (delta : Cycles) :
    (d.advance ratio delta).vmode = d.vmode
      ∧ (d.advance ratio delta).interlaced = d.interlaced
      ∧ (d.advance ratio delta).standard = d.standard
      ∧ (d.advance ratio delta).displayLineStart = d.displayLineStart
      ∧ (d.advance ratio delta).displayLineEnd = d.displayLineEnd
      ∧ (d.advance ratio delta).vblankInterrupt = d.vblankInterrupt
      ∧ (d.advance ratio delta).gpuClockPhase = (d.total ratio delta).setWidth 16
      ∧ (d.advance ratio delta).displayLineTick
        = (d.lineTick ratio delta % d.vmodeTimings.1.setWidth 64).setWidth 16 := by
  by_cases h : d.line ratio delta > d.vmodeTimings.2.setWidth 64
  · rw [advance_of_gt h]
    exact ⟨rfl, rfl, rfl, rfl, rfl, rfl, rfl, rfl⟩
  · rw [advance_of_not_gt h]
    exact ⟨rfl, rfl, rfl, rfl, rfl, rfl, rfl, rfl⟩

lemma advance_tick_lt (ratio : VideoClock → FracCycles) (d : Display) (delta : Cycles) :
    (d.advance ratio delta).displayLineTick.toNat < d.ticks := by
  obtain ⟨-, -, -, -, -, -, -, htick⟩ := advance_frame ratio d delta
  have hticks : (d.vmodeTimings.1.setWidth 64).toNat = d.ticks := setWidth_toNat _
  have hmod := Nat.mod_lt (d.lineTick ratio delta).toNat d.ticks_pos
  rw [htick, BitVec.toNat_setWidth, BitVec.toNat_umod, hticks]
  exact (Nat.mod_le _ _).trans_lt hmod

/-- The beam is left in the frame, or in the line after its last one. -/
lemma advance_line_le (ratio : VideoClock → FracCycles) (d : Display) (delta : Cycles) :
    (d.advance ratio delta).displayLine.toNat ≤ d.lines := by
  have hlines : (d.vmodeTimings.2.setWidth 64).toNat = d.lines := setWidth_toNat _
  by_cases h : d.line ratio delta > d.vmodeTimings.2.setWidth 64
  · have hmod := Nat.mod_lt (d.line ratio delta).toNat d.lines_pos
    rw [advance_of_gt h, BitVec.toNat_setWidth, BitVec.toNat_umod, hlines]
    exact (Nat.mod_le _ _).trans hmod.le
  · rw [advance_of_not_gt h, BitVec.toNat_setWidth]
    rw [gt_iff_lt, BitVec.lt_def, hlines, not_lt] at h
    exact (Nat.mod_le _ _).trans h

/-- A progressive picture has no fields to change. -/
lemma advance_field_progressive (h : d.interlaced = false) :
    (d.advance ratio delta).field = d.field := by
  by_cases hline : d.line ratio delta > d.vmodeTimings.2.setWidth 64
  · rw [advance_of_gt hline]
    simp [h]
  · rw [advance_of_not_gt hline]

section Advance

variable (hfit : d.Fits ratio delta.toNat)

include hfit

lemma total_toNat :
    (d.total ratio delta).toNat = d.gpuClockPhase.toNat + delta.toNat * d.speed ratio := by
  rw [Fits, speed] at hfit
  have hmul : delta.toNat * (ratio d.standard).fp.toNat < 2 ^ 64 := by omega
  rw [total, speed, BitVec.toNat_add, BitVec.toNat_mul, setWidth_toNat, Nat.mod_eq_of_lt hmul,
    Nat.mod_eq_of_lt hfit]

lemma total_mod : (d.total ratio delta).toNat % 65536 = d.ahead ratio delta.toNat % 65536 := by
  rw [total_toNat hfit, ahead, beam]
  omega

lemma lineTick_toNat :
    (d.lineTick ratio delta).toNat + d.ticks * d.displayLine.toNat
      = d.ahead ratio delta.toNat / 65536 := by
  have htick := d.displayLineTick.isLt
  have htotal := total_toNat hfit
  have hlt := (d.total ratio delta).isLt
  rw [lineTick, BitVec.toNat_add, BitVec.toNat_shift, setWidth_toNat, Nat.mod_eq_of_lt (by omega),
    htotal, ahead, beam]
  omega

/-- The line number before reduction. -/
lemma line_toNat : (d.line ratio delta).toNat = d.ahead ratio delta.toNat / d.lineLength := by
  have hticks : (d.vmodeTimings.1.setWidth 64).toNat = d.ticks := setWidth_toNat _
  have hline := d.displayLine.isLt
  have hle := Nat.div_le_self (d.lineTick ratio delta).toNat d.ticks
  have hlt : (d.lineTick ratio delta).toNat < 2 ^ 64 - 2 ^ 16 := by
    have htick := d.displayLineTick.isLt
    have htotal := (d.total ratio delta).isLt
    rw [lineTick, BitVec.toNat_add, BitVec.toNat_shift, setWidth_toNat,
      Nat.mod_eq_of_lt (by omega)]
    omega
  rw [line, BitVec.toNat_add, BitVec.toNat_udiv, setWidth_toNat, hticks,
    Nat.mod_eq_of_lt (by omega), lineLength, ← Nat.div_div_eq_div_mul, ← lineTick_toNat hfit,
    Nat.add_mul_div_left _ _ d.ticks_pos, Nat.add_comm]

/-- The reduction is made exactly when the line number has passed the frame. -/
lemma line_gt_iff :
    d.line ratio delta > d.vmodeTimings.2.setWidth 64
      ↔ d.lines < d.ahead ratio delta.toNat / d.lineLength := by
  rw [gt_iff_lt, BitVec.lt_def, line_toNat hfit, setWidth_toNat, lines]

lemma advance_tick :
    (d.advance ratio delta).displayLineTick.toNat =
      d.ahead ratio delta.toNat / 65536 % d.ticks := by
  obtain ⟨-, -, -, -, -, -, -, htick⟩ := advance_frame ratio d delta
  have hticks : (d.vmodeTimings.1.setWidth 64).toNat = d.ticks := setWidth_toNat _
  have hmod := Nat.mod_lt (d.lineTick ratio delta).toNat d.ticks_pos
  have hlt := d.ticks_lt
  rw [htick, BitVec.toNat_setWidth, BitVec.toNat_umod, hticks, Nat.mod_eq_of_lt (by omega),
    ← lineTick_toNat hfit, Nat.add_mul_mod_self_left]

lemma advance_line :
    (d.advance ratio delta).displayLine.toNat
      = Beam.wrap d.lineLength d.lines (d.ahead ratio delta.toNat) / d.lineLength := by
  have hlines : (d.vmodeTimings.2.setWidth 64).toNat = d.lines := setWidth_toNat _
  have hlt := d.lines_lt
  by_cases hline : d.lines < d.ahead ratio delta.toNat / d.lineLength
  · have hmod := Nat.mod_lt (d.ahead ratio delta.toNat / d.lineLength) d.lines_pos
    rw [advance_of_gt ((line_gt_iff hfit).mpr hline), Beam.wrap_div hline, BitVec.toNat_setWidth,
      BitVec.toNat_umod, line_toNat hfit, hlines, Nat.mod_eq_of_lt (by omega)]
  · rw [advance_of_not_gt (fun h => hline ((line_gt_iff hfit).mp h)), Beam.wrap_of_le (by omega),
      BitVec.toNat_setWidth, line_toNat hfit, Nat.mod_eq_of_lt (by omega)]

/-- **The beam moves by the time elapsed.** -/
lemma advance_beam :
    (d.advance ratio delta).beam
      = Beam.wrap d.lineLength d.lines (d.ahead ratio delta.toNat) := by
  obtain ⟨hvmode, -, -, -, -, -, hphase, -⟩ := advance_frame ratio d delta
  have hticks : (d.advance ratio delta).ticks = d.ticks := by
    rw [ticks, vmodeTimings, hvmode, ticks, vmodeTimings]
  rw [beam, hticks, hphase, BitVec.toNat_setWidth, total_mod hfit, advance_tick hfit,
    advance_line hfit]
  generalize d.ahead ratio delta.toNat = p
  -- the reduction takes whole frames off, so the two low digits stay
  obtain ⟨k, hk⟩ := Beam.wrap_add_mul d.lineLength d.lines p
  have hlow : p = Beam.wrap d.lineLength d.lines p + 65536 * (d.ticks * (k * d.lines)) := by
    rw [lineLength] at hk ⊢
    linarith
  have hmod : p % 65536 = Beam.wrap d.lineLength d.lines p % 65536 := by
    conv_lhs => rw [hlow, Nat.add_mul_mod_self_left]
  have hdiv : p / 65536 % d.ticks = Beam.wrap d.lineLength d.lines p / 65536 % d.ticks := by
    conv_lhs => rw [hlow, Nat.add_mul_div_left _ _ (by norm_num), Nat.add_mul_mod_self_left]
  rw [hmod, hdiv]
  generalize Beam.wrap d.lineLength d.lines p = q
  rw [lineLength, ← Nat.div_div_eq_div_mul, Nat.mod_add_div, Nat.mod_add_div]

/-- The field changes once for each frame counted. -/
lemma advance_field (hinter : d.interlaced = true) :
    (d.advance ratio delta).field = flip (d.frames (d.ahead ratio delta.toNat)) d.field := by
  have hlines : (d.vmodeTimings.2.setWidth 64).toNat = d.lines := setWidth_toNat _
  rw [frames]
  by_cases hline : d.lines < d.ahead ratio delta.toNat / d.lineLength
  · rw [advance_of_gt ((line_gt_iff hfit).mpr hline), if_pos hline, flip]
    have hodd : (d.line ratio delta / d.vmodeTimings.2.setWidth 64
          + BitVec.ofNat 64 d.field.value) &&& 1 ≠ 0
        ↔ (d.ahead ratio delta.toNat / d.lineLength / d.lines + d.field.value) % 2 = 1 := by
      have hand := BitVec.toNat_and_mask (k := 1) (m := 1)
        (d.line ratio delta / d.vmodeTimings.2.setWidth 64 + BitVec.ofNat 64 d.field.value) rfl
      rw [BitVec.toNat_add, BitVec.toNat_udiv, line_toNat hfit, hlines, BitVec.toNat_ofNat] at hand
      rw [Ne, ← BitVec.toNat_inj, hand, show (0 : Cycles).toNat = 0 from rfl]
      omega
    simp only [hinter, if_true, hodd]
  · rw [advance_of_not_gt (fun h => hline ((line_gt_iff hfit).mp h)), if_neg hline, flip_zero]

end Advance

end Display

end Rustation
