import Rustation.Gpu.Gpu
import Rustation.Gpu.VBlank

/-!
The prediction of vertical blanking for any vertical range.

A program can set the first and the last line of the display area to any 10 bit values.
The formulas of `predictNextSync` are made for an area inside the frame.

* `Beam.Foreseen`: when they find the next edge all the same.  They fail for an area that
  begins with line 0 when the beam is past its end, where `start - 1` underflows, and for one
  that reaches past the frame, where the edge at the start of the next frame is missed;
* `nextSyncDeltaChecked`: the prediction with checked subtractions;
* `Delivered`: no subtraction underflows, and no edge comes before the date on the time sheet;
* `delivered_iff`: that is so exactly if the next edge is foreseen;
* `Gpu.video`, `deliveries_iff`: the commands that change the video output, and their runs.
-/

namespace Rustation

open Fallible

/-! ### The line of the next edge -/

namespace Beam

variable {L N S E l m p q : ℕ}

/-- The line of the next edge, seen from line `l`. -/
def edgeLine (N S E l : ℕ) : ℕ := if E ≤ l then N + S else if l < S then S else E

/-- The line number `m` after reduction. -/
def reduced (N m : ℕ) : ℕ := if N < m then m % N else m

/-- The prediction made in line `l` does not miss the next edge. -/
def Foreseen (N S E l : ℕ) : Prop :=
  (E ≤ l → 0 < S) ∧ (S ≤ l → l < E → E ≤ N + 1 ∨ S = 0 ∨ S = 1 ∧ E ≤ 2 * N)

instance (N S E l : ℕ) : Decidable (Foreseen N S E l) := inferInstanceAs (Decidable (_ ∧ _))

lemma nextEdge_eq : nextEdge L N S E p = edgeLine N S E (p / L) * L := by
  rw [nextEdge, edgeLine]
  split_ifs <;> rfl

lemma wrap_div_eq (L N q : ℕ) : wrap L N q / L = reduced N (q / L) := by
  rw [reduced]
  split_ifs with h
  · exact wrap_div h
  · rw [wrap_of_le (by omega)]

/-- Up to a foreseen edge the signal keeps its value. -/
lemma blank_before_edgeLine (hN : 0 < N) (hl : l ≤ N) (h : Foreseen N S E l) (hlm : l ≤ m)
    (hm : m < edgeLine N S E l) : Blank S E (reduced N m) ↔ Blank S E l := by
  obtain ⟨hstart, hend⟩ := h
  rw [edgeLine] at hm
  rw [reduced, Blank, Blank]
  by_cases hframe : N < m
  · -- in the next frame, or in a later one
    have hmod := Nat.mod_lt m hN
    have hnext (hlt : m < 2 * N) : m % N = m - N := by
      rw [Nat.mod_eq_sub_mod hframe.le, Nat.mod_eq_of_lt (by omega)]
    rw [if_pos hframe]
    split_ifs at hm with hpast hbefore <;> by_cases hlt : m < 2 * N <;> grind
  · rw [if_neg hframe]
    split_ifs at hm with hpast hbefore <;> omega

/-- An active line from which the next edge is not foreseen is followed by a blank one, before the
line the prediction aims at. -/
lemma exists_blank_of_not_foreseen (hN : 1 < N) (hl : l ≤ N) (hstart : S ≤ l) (hend : l < E)
    (h : ¬(E ≤ N + 1 ∨ S = 0 ∨ S = 1 ∧ E ≤ 2 * N)) :
    ∃ m, l < m ∧ m < edgeLine N S E l ∧ Blank S E (reduced N m) := by
  rw [edgeLine, if_neg (by omega), if_neg (by omega)]
  by_cases hone : S = 1
  · -- line 0 of the frame after the next one
    refine ⟨2 * N, by omega, by omega, Or.inl ?_⟩
    rw [reduced, if_pos (by omega), Nat.mul_mod_left]
    omega
  · -- line 1 of the next frame
    refine ⟨N + 1, by omega, by omega, Or.inl ?_⟩
    rw [reduced, if_pos (by omega), Nat.add_mod_left, Nat.mod_eq_of_lt hN]
    omega

/-- A beam that moves by at most a line in each step passes through every line ahead of it. -/
lemma exists_step_in_line {R : ℕ} (hR : 0 < R) (hRL : R ≤ L) (hp : p < m * L) :
    ∃ c, (p + c * R) / L = m := by
  obtain ⟨hlo, hhi⟩ := ceil_mul_between (x := m * L - p) hR
  refine ⟨(m * L - p + R - 1) / R, div_eq_of_between ?_ ?_⟩
  · omega
  · omega

end Beam

namespace Display

variable {ratio : VideoClock → FracCycles} {d : Display} {sh : SharedState}

/-! ### The prediction with checked subtractions -/

/-- A checked subtraction of 64 bit words. -/
def checkedSub (a b : Cycles) : Outcome Cycles := if b ≤ a then pure (a - b) else throw .overflow

/-- The time to the line of the next edge, on top of the time `delta` to the next line. -/
def toEdgeChecked (d : Display) (delta : Cycles) : Outcome Cycles :=
  let ticksPerLine := d.vmodeTimings.1.setWidth 64
  let linesPerFrame := d.vmodeTimings.2.setWidth 64
  let curLine := d.displayLine.setWidth 64
  let displayLineStart := d.displayLineStart.setWidth 64
  let displayLineEnd := d.displayLineEnd.setWidth 64
  if curLine ≥ displayLineEnd then do
    let rest ← checkedSub linesPerFrame curLine
    let next ← checkedSub displayLineStart 1
    pure (delta + rest * ticksPerLine + next * ticksPerLine)
  else if curLine < displayLineStart then do
    let before ← checkedSub displayLineStart 1
    let rest ← checkedSub before curLine
    pure (delta + rest * ticksPerLine)
  else do
    let before ← checkedSub displayLineEnd 1
    let rest ← checkedSub before curLine
    pure (delta + rest * ticksPerLine)

/-- `nextSyncDelta` in a build with overflow checks: every subtraction is checked. -/
def nextSyncDeltaChecked (ratio : VideoClock → FracCycles) (d : Display) : Outcome Cycles := do
  let delta ← checkedSub (d.vmodeTimings.1.setWidth 64) (d.displayLineTick.setWidth 64)
  let delta ← d.toEdgeChecked delta
  let delta ← checkedSub (delta <<< FracCycles.fracBits) (d.gpuClockPhase.setWidth 64)
  let delta ← checkedSub (delta + (ratio d.standard).fp) 1
  pure (delta / (ratio d.standard).fp)

lemma checkedSub_of_le {a b : Cycles} (h : b ≤ a) : checkedSub a b = .ok (a - b) := if_pos h

lemma checkedSub_of_lt {a b : Cycles} (h : a < b) : checkedSub a b = .error .overflow :=
  if_neg (BitVec.not_le.mpr h)

/-- The subtractions are those of `span`. -/
lemma Predictable.toEdgeChecked_eq (h : d.Predictable ratio) (delta : Cycles) :
    ∃ sum, d.toEdgeChecked delta = .ok sum
      ∧ (delta = d.vmodeTimings.1.setWidth 64 - d.displayLineTick.setWidth 64 →
        d.span = sum <<< FracCycles.fracBits - d.gpuClockPhase.setWidth 64) := by
  obtain ⟨hle, -, hstart, -, -⟩ := h
  rw [lines] at hle
  rw [toEdgeChecked, span]
  split_ifs with hpast hbefore
  · rw [checkedSub_of_le (by bv_omega), ok_bind, checkedSub_of_le (by bv_omega), ok_bind]
    exact ⟨_, rfl, fun hdelta => by rw [hdelta]⟩
  · rw [checkedSub_of_le (by bv_omega), ok_bind, checkedSub_of_le (by bv_omega), ok_bind]
    exact ⟨_, rfl, fun hdelta => by rw [hdelta]⟩
  · rw [checkedSub_of_le (by bv_omega), ok_bind, checkedSub_of_le (by bv_omega), ok_bind]
    exact ⟨_, rfl, fun hdelta => by rw [hdelta]⟩

/-- None of the subtractions underflows. -/
lemma Predictable.nextSyncDeltaChecked_eq (h : d.Predictable ratio) :
    d.nextSyncDeltaChecked ratio = .ok (d.nextSyncDelta ratio) := by
  have htick := h.tick_lt
  have hpos := h.speed_pos
  have hle := h.speed_le
  have hspan := span_toNat h
  have hedge := d.edge_lt
  have hticks := d.ticks_lt
  have hphase := d.gpuClockPhase.isLt
  obtain ⟨sum, hsum, hdiff⟩ := h.toEdgeChecked_eq
    (d.vmodeTimings.1.setWidth 64 - d.displayLineTick.setWidth 64)
  have hdiff := hdiff rfl
  rw [ticks] at htick
  rw [speed] at hpos hle
  rw [nextSyncDeltaChecked, checkedSub_of_le (by bv_omega), ok_bind, hsum, ok_bind,
    checkedSub_of_le, ok_bind, ← hdiff, checkedSub_of_le (by bv_omega), ok_bind, pure_eq_ok,
    nextSyncDelta_eq]
  -- a sum below the phase would leave a span longer than any distance in the frame
  generalize sum <<< FracCycles.fracBits = total at hdiff
  rw [hdiff] at hspan
  bv_omega

/-- With a display area from line 0 on, the prediction underflows once the beam is past its
end. -/
lemma nextSyncDeltaChecked_underflow (ratio : VideoClock → FracCycles) (hs : d.Steady)
    (hstart : d.displayLineStart.toNat = 0)
    (hend : d.displayLineEnd.toNat ≤ d.displayLine.toNat) :
    d.nextSyncDeltaChecked ratio = .error .overflow := by
  obtain ⟨hle, htick, -⟩ := hs
  rw [lines] at hle
  rw [ticks] at htick
  rw [nextSyncDeltaChecked, checkedSub_of_le (by bv_omega), ok_bind, toEdgeChecked,
    if_pos (by bv_omega), checkedSub_of_le (by bv_omega), ok_bind, checkedSub_of_lt (by bv_omega),
    error_bind, error_bind]

/-! ### Delivery of the next edge -/

/-- The clock ratio is at most one line for each CPU cycle. -/
def Paced (ratio : VideoClock → FracCycles) : Prop :=
  ∀ d : Display, 0 < d.speed ratio ∧ d.speed ratio ≤ d.ticks * 2 ^ 16

/-- The date on the time sheet was predicted without an underflow, and it is not later than the
next edge: than a later line of the frame whose blanking differs, and than any date at which a
synchronisation would find the signal changed. -/
structure Delivered (ratio : VideoClock → FracCycles) (d : Display) (sh : SharedState) : Prop where
  no_underflow : d.nextSyncDeltaChecked ratio = .ok (delay sh)
  in_frame : ∀ l c, d.displayLine.toNat < l → l < d.lines →
    ¬(Beam.Blank d.displayLineStart.toNat d.displayLineEnd.toNat l ↔ d.inVblank = true) →
    l * d.lineLength ≤ d.ahead ratio c → (delay sh).toNat ≤ c
  on_time : ∀ c, (d.advance ratio c).inVblank ≠ d.inVblank → delay sh ≤ c

/-- The next edge is foreseen from where the beam is. -/
def Foresees (d : Display) : Prop :=
  Beam.Foreseen d.lines d.displayLineStart.toNat d.displayLineEnd.toNat d.displayLine.toNat

instance (d : Display) : Decidable d.Foresees := inferInstanceAs (Decidable (Beam.Foreseen _ _ _ _))

lemma edge_eq (hs : d.Steady) :
    d.edge = Beam.edgeLine d.lines d.displayLineStart.toNat d.displayLineEnd.toNat
      d.displayLine.toNat * d.lineLength := by
  rw [edge, Beam.nextEdge_eq, beam_div_lineLength hs.tick_lt]

lemma one_lt_lines (d : Display) : 1 < d.lines := by
  rw [lines, vmodeTimings]
  cases d.vmode <;> decide

section Delivery

variable (hpace : Paced ratio) (hs : d.Steady)

include hpace hs

lemma predictable (hstart : d.displayLineEnd.toNat ≤ d.displayLine.toNat →
    0 < d.displayLineStart.toNat) : d.Predictable ratio :=
  ⟨hs.line_le, hs.tick_lt, hstart, (hpace d).1, (hpace d).2⟩

lemma Foresees.delivered (h : d.Foresees) (hdelay : delay sh = d.nextSyncDelta ratio) :
    d.Delivered ratio sh := by
  have hpred := predictable hpace hs h.1
  have hline := beam_div_lineLength hs.tick_lt
  have hbefore {l c : ℕ} (hl : d.displayLine.toNat ≤ l) (hc : c < (delay sh).toNat)
      (hle : l * d.lineLength ≤ d.ahead ratio c) :
      Beam.Blank d.displayLineStart.toNat d.displayLineEnd.toNat (Beam.reduced d.lines l)
        ↔ d.inVblank = true := by
    rw [hdelay] at hc
    have hlt := hpred.ahead_lt_edge hc
    rw [edge_eq hs] at hlt
    rw [inVblank_iff]
    exact Beam.blank_before_edgeLine d.lines_pos hs.line_le h hl
      (Nat.lt_of_mul_lt_mul_right (hle.trans_lt hlt))
  refine ⟨by rw [hdelay]; exact hpred.nextSyncDeltaChecked_eq, ?_, ?_⟩
  · intro l c hl hlines hchange hle
    by_contra hc
    have hsame := hbefore hl.le (not_le.mp hc) hle
    rw [Beam.reduced, if_neg (by omega)] at hsame
    exact hchange hsame
  · intro c hchange
    by_contra hc
    rw [BitVec.le_def, not_le] at hc
    have hfit := hpred.fits_of_le (c := c.toNat) (by rw [← hdelay]; exact hc.le)
    refine hchange (Bool.eq_iff_iff.mpr ?_)
    rw [advance_inVblank_iff hfit, Beam.wrap_div_eq]
    refine hbefore ?_ hc (Nat.div_mul_le_self _ _)
    rw [← hline]
    exact Nat.div_le_div_right (beam_le_ahead _)

lemma Delivered.foresees (hdelay : delay sh = d.nextSyncDelta ratio) (h : d.Delivered ratio sh) :
    d.Foresees := by
  have hstart : d.displayLineEnd.toNat ≤ d.displayLine.toNat → 0 < d.displayLineStart.toNat := by
    intro hend
    by_contra hzero
    have hover := nextSyncDeltaChecked_underflow ratio hs (by omega) hend
    rw [h.no_underflow] at hover
    cases hover
  refine ⟨hstart, fun hfirst hlast => ?_⟩
  by_contra hlate
  have hpred := predictable hpace hs hstart
  have hline := beam_div_lineLength hs.tick_lt
  obtain ⟨m, hm, hedge, hblank⟩ :=
    Beam.exists_blank_of_not_foreseen d.one_lt_lines hs.line_le hfirst hlast hlate
  -- the beam passes through that line before the predicted date
  have hlen : d.speed ratio ≤ d.lineLength := by
    have hspeed := hpred.speed_le
    rw [lineLength]
    omega
  obtain ⟨c, hc⟩ := Beam.exists_step_in_line (p := d.beam) (m := m) hpred.speed_pos hlen
    ((Nat.div_lt_iff_lt_mul d.lineLength_pos).mp (by rw [hline]; exact hm))
  have hlt : c < (d.nextSyncDelta ratio).toNat := by
    by_contra hle
    have hat : d.edge ≤ d.ahead ratio c := hpred.ahead_at_edge.1.trans
      (Nat.add_le_add_left (Nat.mul_le_mul_right _ (not_lt.mp hle)) _)
    rw [edge_eq hs, ← Nat.le_div_iff_mul_le d.lineLength_pos, ahead, hc] at hat
    omega
  have hword : (BitVec.ofNat 64 c).toNat = c :=
    Nat.mod_eq_of_lt (hlt.trans (d.nextSyncDelta ratio).isLt)
  have hchange : (d.advance ratio (BitVec.ofNat 64 c)).inVblank ≠ d.inVblank := by
    have hactive : ¬d.inVblank = true := by
      rw [inVblank_iff, Beam.Blank]
      omega
    intro heq
    rw [← heq, advance_inVblank_iff (by rw [hword]; exact hpred.fits_of_le hlt.le), hword,
      Beam.wrap_div_eq, ahead, hc] at hactive
    exact hactive hblank
  have hle := BitVec.le_def.mp (h.on_time _ hchange)
  rw [hword, hdelay] at hle
  omega

/-- The edges are delivered exactly where they are foreseen. -/
lemma delivered_iff (hdelay : delay sh = d.nextSyncDelta ratio) :
    d.Delivered ratio sh ↔ d.Foresees :=
  ⟨Delivered.foresees hpace hs hdelay, fun h => h.delivered hpace hs hdelay⟩

end Delivery

end Display

/-! ### Runs -/

namespace Gpu

/-- What changes the video output: time, a synchronisation, or one of three GP1 commands. -/
inductive VideoOp where
  | tick (cycles : Cycles)
  | sync
  | displayVerticalRange (val : U32)
  | displayMode (val : U32)
  | reset
  deriving DecidableEq, Repr

/-- The operation on the GPU and the shared state.  The current date is checked for overflow. -/
def video (ratio : VideoClock → FracCycles) (s : Gpu × SharedState) :
    VideoOp → Outcome (Gpu × SharedState)
  | .tick cycles =>
      if s.2.tk.now.toNat + cycles.toNat < 2 ^ 64 then pure (s.1, s.2.tick cycles)
      else throw .overflow
  | .sync => pure (s.1.sync ratio s.2)
  | .displayVerticalRange val => pure (s.1.gp1DisplayVerticalRange ratio s.2 val)
  | .displayMode val => s.1.gp1DisplayMode ratio s.2 val
  | .reset => pure (s.1.gp1Reset ratio s.2)

/-- An operation other than the passing of time ends with a synchronisation of the video output. -/
def VideoOp.Syncs (op : VideoOp) : Prop := ∀ cycles, op ≠ .tick cycles

/-- The time elapsed is computed without an underflow. -/
def Forward (s : Gpu × SharedState) : Prop :=
  (s.2.tk.timesheets .gpu).lastSync ≤ s.2.tk.now

/-- The operation synchronises without an underflow, and the next edge will be delivered. -/
def Delivers (ratio : VideoClock → FracCycles) (s : Outcome (Gpu × SharedState)) (op : VideoOp) :
    Prop :=
  ∀ c c', s = .ok c → video ratio c op = .ok c' → op.Syncs →
    Forward c ∧ c'.1.toDisplay.Delivered ratio c'.2

/-- The operation leaves the beam where the next edge is foreseen. -/
def LeavesForeseen (ratio : VideoClock → FracCycles) (s : Outcome (Gpu × SharedState))
    (op : VideoOp) : Prop :=
  ∀ c c', s = .ok c → video ratio c op = .ok c' → op.Syncs → c'.1.toDisplay.Foresees

variable {ratio : VideoClock → FracCycles} {s s' : Gpu × SharedState} {op : VideoOp}

/-- The video output that an operation synchronises. -/
lemma video_display (h : video ratio s op = .ok s') (hop : op.Syncs) :
    ∃ d : Display, s'.1.toDisplay = (d.sync ratio s.2).1 ∧ s'.2 = (d.sync ratio s.2).2 := by
  cases op with
  | tick cycles => exact absurd rfl (hop cycles)
  | sync =>
      obtain rfl := Except.ok.inj h
      exact ⟨_, rfl, rfl⟩
  | displayVerticalRange val =>
      obtain rfl := Except.ok.inj h
      exact ⟨_, rfl, rfl⟩
  | displayMode val =>
      rw [video, gp1DisplayMode] at h
      by_cases hbad : val &&& 0x80 ≠ 0
      · rw [if_pos hbad] at h
        cases h
      · rw [if_neg hbad, pure_eq_ok] at h
        obtain rfl := Except.ok.inj h
        exact ⟨_, rfl, rfl⟩
  | reset =>
      obtain rfl := Except.ok.inj h
      exact ⟨_, rfl, rfl⟩

lemma video_forward (hs : Forward s) (h : video ratio s op = .ok s') : Forward s' := by
  by_cases hop : op.Syncs
  · obtain ⟨d, -, hsh⟩ := video_display h hop
    rw [Forward, hsh, Display.sync_tk]
    simp [TimeKeeper.setNextSyncDelta, TimeSheet.setNextSync, TimeKeeper.sync, TimeSheet.sync]
  · obtain ⟨cycles, rfl⟩ := not_forall_not.mp hop
    rw [video] at h
    split_ifs at h with hfit
    obtain rfl := Except.ok.inj h
    rw [Forward, BitVec.le_def] at hs ⊢
    have hnow : (s.2.tk.now + cycles).toNat = s.2.tk.now.toNat + cycles.toNat := by
      rw [BitVec.toNat_add, Nat.mod_eq_of_lt hfit]
    exact hs.trans ((Nat.le_add_right _ _).trans hnow.ge)

lemma forward_new (standard : VideoClock) : Forward (new standard, .new) := BitVec.le_refl _

lemma forward_next {s : Outcome (Gpu × SharedState)} (hs : Run.Holds Forward s) (op : VideoOp) :
    Run.Holds Forward (Run.next (video ratio) s op) := by
  rw [Run.holds_next]
  exact fun c c' hc h => video_forward (hs c hc) h

/-- The step lemma: an operation delivers the next edge exactly if it leaves the beam where it is
foreseen. -/
lemma delivers_iff (hpace : Display.Paced ratio) {s : Outcome (Gpu × SharedState)}
    (hs : Run.Holds Forward s) (op : VideoOp) :
    Delivers ratio s op ↔ LeavesForeseen ratio s op := by
  refine forall₅_congr fun c c' hc h hop => ?_
  obtain ⟨d, hdisplay, hsh⟩ := video_display h hop
  have hdelivered : c'.1.toDisplay.Delivered ratio c'.2 ↔ c'.1.toDisplay.Foresees := by
    rw [hdisplay, hsh]
    exact Display.delivered_iff hpace (Display.Steady.sync ratio d c.2)
      (Display.delay_sync ratio d c.2)
  rw [hdelivered]
  exact and_iff_right (hs c hc)

/-- **Vertical ranges and the prediction.**  Along a run from power-on every synchronisation
computes the next date without an underflow, and not later than the next edge of the blanking
signal, exactly if each of them leaves the beam in a line from which the next edge is foreseen. -/
theorem deliveries_iff (hpace : Display.Paced ratio) (standard : VideoClock) (ops : List VideoOp) :
    Run.Steps (Run.next (video ratio)) (Delivers ratio) (.ok (.new standard, .new)) ops
      ↔ Run.Steps (Run.next (video ratio)) (LeavesForeseen ratio) (.ok (.new standard, .new))
        ops := by
  exact Run.steps_congr (I := Run.Holds Forward) (H := fun _ _ => True)
    (fun s op hs _ => forward_next hs op) (fun s op hs _ => delivers_iff hpace hs op)
    (Run.holds_ok.mpr (forward_new standard)) (Run.steps_trivial _ _ _)

lemma paced_clockRatio : Display.Paced Display.clockRatio := by
  intro d
  rw [Display.speed, Display.ticks, Display.vmodeTimings]
  cases d.standard <;> cases d.vmode <;> decide

/-- An ordinary range, set half a frame after power-on. -/
theorem deliveries_iff_ordinary :
    Display.Paced Display.clockRatio
      ∧ Run.Steps (Run.next (video Display.clockRatio)) (Delivers Display.clockRatio)
        (.ok (.new .ntsc, .new))
        [.sync, .tick 280000, .displayVerticalRange 0x40010] := by
  refine ⟨paced_clockRatio, (deliveries_iff paced_clockRatio .ntsc _).mpr ⟨?_, ?_, ?_, trivial⟩⟩
  · intro c c' hc h _
    obtain rfl := Except.ok.inj hc
    obtain rfl := Except.ok.inj h
    decide +kernel
  · exact fun _ _ _ _ hop => absurd rfl (hop _)
  · intro c c' hc h _
    obtain rfl := Except.ok.inj hc
    obtain rfl := Except.ok.inj h
    decide +kernel

/-- A display area that begins with line 0 and is empty: the prediction underflows.  A display area
that reaches past the frame, with the beam inside of it: the edge at the start of the next frame
comes long before the date. -/
theorem deliveries_missed :
    ¬Run.Steps (Run.next (video Display.clockRatio)) (Delivers Display.clockRatio)
        (.ok (.new .ntsc, .new)) [.displayVerticalRange 0]
      ∧ ¬Run.Steps (Run.next (video Display.clockRatio)) (Delivers Display.clockRatio)
        (.ok (.new .ntsc, .new)) [.tick 280000, .displayVerticalRange 0xffc10] := by
  have hnew : Run.Holds Forward (.ok (new .ntsc, .new) : Outcome (Gpu × SharedState)) :=
    Run.holds_ok.mpr (forward_new .ntsc)
  refine ⟨fun h => ?_, fun h => ?_⟩
  · have hforesees := (delivers_iff paced_clockRatio hnew _).mp h.1 _ _ rfl rfl nofun
    revert hforesees
    decide +kernel
  · have hforesees := (delivers_iff paced_clockRatio (forward_next hnew _) _).mp h.2.1 _ _ rfl rfl
      nofun
    revert hforesees
    decide +kernel

end Gpu

end Rustation
