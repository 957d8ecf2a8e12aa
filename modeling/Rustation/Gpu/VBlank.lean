import Rustation.Gpu.Frames

/-!
The prediction of vertical blanking.

`predictNextSync` has three formulas for the time to the next change of the
blanking signal.  In terms of the position of the beam they are one: the
distance to the next edge, a multiple of the length of a line.

* `Beam.nextEdge`: the position of the next edge.  `blank_of_lt_nextEdge` and
  `blank_of_nextEdge_le` say what the beam finds before it and at it;
* `Beam.reached`: how often a line has been entered, counted from the start of
  the first frame.  `reached_of_lt_nextEdge` and `reached_of_nextEdge_le` tie
  the count to the edges;
* `nextSyncDelta_toNat`: the delay is that distance over the speed of the beam,
  rounded up;
* `sync_before`, `sync_at`: a synchronisation before the date and at the date;
* `vblank_exact`: both of these, and what they add up to along a run.
-/

namespace Rustation

/-! ### Edges of the blanking signal -/

namespace Beam

/-- Line `l` is blank: outside of the display area from line `S` up to `E`. -/
def Blank (S E l : ℕ) : Prop := l < S ∨ E ≤ l

/-- The position of the next change of the blanking signal. -/
def nextEdge (L N S E p : ℕ) : ℕ :=
  if E ≤ p / L then (N + S) * L else if p / L < S then S * L else E * L

/-- How many frames have reached their line `e` when the beam is in line `l`,
counted without reduction. -/
def reached (N e l : ℕ) : ℕ := (l + (N - e)) / N

/-- How many frames enter their line `e` while the beam moves from line `l` to
line `l'`: line `e` of frame `j` is line `j * N + e`. -/
def passed (N e l l' : ℕ) : ℕ :=
  ((Finset.range (l' + 1)).filter fun j => l < j * N + e ∧ j * N + e ≤ l').card

lemma le_iff_lt_reached {N e l j : ℕ} (hN : 0 < N) (he : e ≤ N) :
    j * N + e ≤ l ↔ j < reached N e l := by
  rw [reached, ← Nat.succ_le_iff, Nat.le_div_iff_mul_le hN, Nat.succ_mul]
  omega

lemma passed_eq {N e l l' : ℕ} (hN : 0 < N) (he : e ≤ N) :
    passed N e l l' = reached N e l' - reached N e l := by
  rw [passed, ← Nat.card_Ico]
  congr 1
  ext j
  have hl : l < j * N + e ↔ reached N e l ≤ j := by
    have hiff := le_iff_lt_reached (l := l) (j := j) hN he
    omega
  rw [Finset.mem_filter, Finset.mem_range, Finset.mem_Ico, hl, le_iff_lt_reached hN he]
  constructor
  · exact fun h => h.2
  · intro h
    -- a frame that is reached has at least one line for each frame before it
    have hj := (le_iff_lt_reached hN he).mpr h.2
    have hmul := Nat.le_mul_of_pos_right j hN
    exact ⟨by omega, h⟩

section Edges

variable {L N S E p q : ℕ} (hL : 0 < L) (hS : 0 < S) (hSE : S < E) (hEN : E ≤ N)

lemma reached_add_mul {N e l : ℕ} (hN : 0 < N) (k : ℕ) :
    reached N e (l + k * N) = reached N e l + k := by
  rw [reached, reached, Nat.add_right_comm, Nat.add_mul_div_right _ _ hN]

lemma reached_eq_zero {N e l : ℕ} (he : e ≤ N) (hl : l < e) : reached N e l = 0 :=
  Nat.div_eq_of_lt (by omega)

lemma reached_eq_one {N e l : ℕ} (he : e ≤ N) (hl : e ≤ l) (hlt : l < N + e) :
    reached N e l = 1 :=
  Nat.div_eq_of_lt_le (by omega) (by omega)

include hL in
lemma div_lt_of_lt_mul {X : ℕ} (h : q < X * L) : q / L < X := (Nat.div_lt_iff_lt_mul hL).mpr h

lemma div_eq_of_between {X : ℕ} (hlo : X * L ≤ q) (hhi : q < X * L + L) : q / L = X :=
  Nat.div_eq_of_lt_le hlo (by rw [Nat.add_mul, Nat.one_mul]; exact hhi)

include hL in
lemma lt_nextEdge (hp : p / L ≤ N) (hS : E ≤ p / L → 0 < S) : p < nextEdge L N S E p := by
  rw [nextEdge]
  split_ifs with hend hstart
  · have hpos := hS hend
    exact (Nat.div_lt_iff_lt_mul hL).mp (by omega)
  · exact (Nat.div_lt_iff_lt_mul hL).mp hstart
  · exact (Nat.div_lt_iff_lt_mul hL).mp (by omega)

/-- A position past the end of the frame, in the first lines of the next one. -/
lemma wrap_of_next {l : ℕ} (hL : 0 < L) (hlo : N < q / L) (hl : q / L = N + l) (hlt : l < N) :
    wrap L N q + N * L = q ∧ wrap L N q / L = l := by
  have hline : wrap L N q / L = l := by
    rw [wrap_div hlo, hl, Nat.add_mod_left, Nat.mod_eq_of_lt hlt]
  refine ⟨?_, hline⟩
  obtain ⟨k, hk⟩ := wrap_add_mul L N q
  have hk1 : k = 1 := by
    have hsum : q / L = wrap L N q / L + k * N := by
      rw [← Nat.add_mul_div_right _ _ hL, Nat.mul_assoc, hk]
    have hmul : k * N = 1 * N := by omega
    exact Nat.eq_of_mul_eq_mul_right (by omega) hmul
  rw [hk1, Nat.one_mul] at hk
  exact hk

include hL hSE hEN in
/-- Up to the next edge the signal keeps its value, the edge stays where it is,
and no frame reaches the line of either edge. -/
lemma before_nextEdge (hp : p / L ≤ N) (hpq : p ≤ q) (hq : q < nextEdge L N S E p) :
    (Blank S E (wrap L N q / L) ↔ Blank S E (p / L))
      ∧ nextEdge L N S E (wrap L N q) + q = nextEdge L N S E p + wrap L N q
      ∧ reached N E (q / L) = reached N E (p / L)
      ∧ reached N S (q / L) = reached N S (p / L) := by
  have hmono : p / L ≤ q / L := Nat.div_le_div_right hpq
  rw [nextEdge] at hq
  simp only [Blank]
  split_ifs at hq with hend hstart
  · -- blanking at the end of the frame
    have hlt : q / L < N + S := div_lt_of_lt_mul hL hq
    have hreach : reached N E (q / L) = reached N E (p / L)
        ∧ reached N S (q / L) = reached N S (p / L) := by
      constructor
      · rw [reached_eq_one hEN (by omega) (by omega), reached_eq_one hEN (by omega) (by omega)]
      · rw [reached_eq_one (by omega) (by omega) (by omega),
          reached_eq_one (by omega) (by omega) (by omega)]
    by_cases hframe : q / L ≤ N
    · rw [wrap_of_le hframe, nextEdge, nextEdge, if_pos (by omega), if_pos hend]
      exact ⟨by omega, rfl, hreach⟩
    · obtain ⟨hwrap, hline⟩ := wrap_of_next (N := N) (q := q) (l := q / L - N) hL
        (by omega) (by omega) (by omega)
      rw [nextEdge, nextEdge, hline, if_neg (by omega), if_pos (by omega), if_pos hend, Nat.add_mul]
      exact ⟨by omega, by omega, hreach⟩
  · -- blanking at the beginning of the frame
    have hlt : q / L < S := div_lt_of_lt_mul hL hq
    rw [wrap_of_le (by omega), nextEdge, nextEdge, if_neg (by omega), if_pos hlt, if_neg hend,
      if_pos hstart, reached_eq_zero hEN (by omega), reached_eq_zero hEN (by omega),
      reached_eq_zero (by omega) hlt, reached_eq_zero (by omega) hstart]
    exact ⟨by omega, rfl, rfl, rfl⟩
  · -- active video
    have hlt : q / L < E := div_lt_of_lt_mul hL hq
    rw [wrap_of_le (by omega), nextEdge, nextEdge, if_neg (by omega), if_neg (by omega),
      if_neg hend, if_neg hstart, reached_eq_zero hEN hlt, reached_eq_zero hEN (by omega),
      reached_eq_one (by omega) (by omega) (by omega),
      reached_eq_one (by omega) (by omega) (by omega)]
    exact ⟨by omega, rfl, rfl, rfl⟩

include hL hS hSE hEN in
/-- In the line of the next edge the signal has changed, and one frame has
reached that line. -/
lemma at_nextEdge (hp : p / L ≤ N) (hlo : nextEdge L N S E p ≤ q)
    (hhi : q < nextEdge L N S E p + L) :
    (Blank S E (wrap L N q / L) ↔ ¬Blank S E (p / L))
      ∧ (Blank S E (p / L) → reached N E (q / L) = reached N E (p / L)
        ∧ reached N S (q / L) = reached N S (p / L) + 1)
      ∧ (¬Blank S E (p / L) → reached N E (q / L) = reached N E (p / L) + 1
        ∧ reached N S (q / L) = reached N S (p / L)) := by
  rw [nextEdge] at hlo hhi
  simp only [Blank]
  split_ifs at hlo hhi with hend hstart
  · -- the display area of the next frame begins
    have hq : q / L = N + S := div_eq_of_between hlo hhi
    obtain ⟨-, hline⟩ := wrap_of_next (l := S) hL (by omega) hq (by omega)
    have htwo : reached N S (q / L) = 2 := by
      rw [hq, reached, show N + S + (N - S) = 2 * N by omega, Nat.mul_div_cancel _ (by omega)]
    rw [hline, htwo, reached_eq_one (l := q / L) hEN (by omega) (by omega),
      reached_eq_one hEN (by omega) (by omega), reached_eq_one (by omega) (by omega) (by omega)]
    exact ⟨by omega, fun _ => ⟨rfl, rfl⟩, fun h => absurd (Or.inr hend) h⟩
  · -- the display area begins
    have hq : q / L = S := div_eq_of_between hlo hhi
    rw [wrap_of_le (by omega), hq, reached_eq_zero hEN hSE, reached_eq_zero hEN (by omega),
      reached_eq_one (by omega) le_rfl (by omega), reached_eq_zero (by omega) hstart]
    exact ⟨by omega, fun _ => ⟨rfl, rfl⟩, fun h => absurd (Or.inl hstart) h⟩
  · -- vertical blanking begins
    have hq : q / L = E := div_eq_of_between hlo hhi
    rw [wrap_of_le (by omega), hq, reached_eq_one hEN le_rfl (by omega),
      reached_eq_zero hEN (by omega), reached_eq_one (by omega) (by omega) (by omega),
      reached_eq_one (by omega) (by omega) (by omega)]
    exact ⟨by omega, fun h => by omega, fun _ => ⟨rfl, rfl⟩⟩

end Edges

/-! ### Rounding up -/

/-- Fewer than the rounded up number of steps stay short of the distance. -/
lemma mul_lt_of_lt_ceil {x R c : ℕ} (hR : 0 < R) (h : c < (x + R - 1) / R) : c * R < x := by
  have hle : (c + 1) * R ≤ x + R - 1 := (Nat.le_div_iff_mul_le hR).mp h
  rw [Nat.add_mul] at hle
  omega

/-- The rounded up number of steps reaches the distance, by less than a step. -/
lemma ceil_mul_between {x R : ℕ} (hR : 0 < R) :
    x ≤ (x + R - 1) / R * R ∧ (x + R - 1) / R * R < x + R := by
  have hdiv := Nat.div_add_mod (x + R - 1) R
  have hmod := Nat.mod_lt (x + R - 1) hR
  rw [Nat.mul_comm] at hdiv
  omega

lemma ceil_sub_mul {x R c : ℕ} (hR : 0 < R) (h : c * R ≤ x) :
    (x - c * R + R - 1) / R = (x + R - 1) / R - c := by
  rw [show x - c * R + R - 1 = x + R - 1 - c * R by omega, Nat.mul_comm, Nat.sub_mul_div]

end Beam

namespace Display

variable {ratio : VideoClock → FracCycles} {d : Display} {sh : SharedState}

/-! ### Configurations and steady states -/

/-- A video configuration with a display area inside the frame, and a clock
ratio of at most one line for each CPU cycle. -/
structure Configured (ratio : VideoClock → FracCycles) (d : Display) : Prop where
  start_pos : 1 ≤ d.displayLineStart.toNat
  start_lt_end : d.displayLineStart.toNat < d.displayLineEnd.toNat
  end_le : d.displayLineEnd.toNat ≤ d.lines
  speed_pos : 0 < d.speed ratio
  speed_le : d.speed ratio ≤ d.ticks * 2 ^ 16

/-- The beam is in the frame, or in the line after its last one, and the
blanking signal is up to date. -/
structure Steady (d : Display) : Prop where
  line_le : d.displayLine.toNat ≤ d.lines
  tick_lt : d.displayLineTick.toNat < d.ticks
  signal : d.vblankInterrupt = d.inVblank

/-- What the prediction needs: a beam in the frame, a display area that does not begin with the
first line when the beam is past its end, and a clock ratio of at most one line for each CPU
cycle. -/
structure Predictable (ratio : VideoClock → FracCycles) (d : Display) : Prop where
  line_le : d.displayLine.toNat ≤ d.lines
  tick_lt : d.displayLineTick.toNat < d.ticks
  start_pos : d.displayLineEnd.toNat ≤ d.displayLine.toNat → 0 < d.displayLineStart.toNat
  speed_pos : 0 < d.speed ratio
  speed_le : d.speed ratio ≤ d.ticks * 2 ^ 16

lemma Configured.predictable (hc : d.Configured ratio) (hs : d.Steady) : d.Predictable ratio :=
  ⟨hs.line_le, hs.tick_lt, fun _ => hc.start_pos, hc.speed_pos, hc.speed_le⟩

lemma inVblank_iff :
    d.inVblank = true
      ↔ Beam.Blank d.displayLineStart.toNat d.displayLineEnd.toNat d.displayLine.toNat := by
  simp [inVblank, Beam.Blank, BitVec.lt_def, BitVec.le_def]

/-- The next change of the blanking signal. -/
def edge (d : Display) : ℕ :=
  Beam.nextEdge d.lineLength d.lines d.displayLineStart.toNat d.displayLineEnd.toNat d.beam

/-- The GPU time to the next edge, as `nextSyncDelta` computes it. -/
def span (d : Display) : Cycles :=
  let ticksPerLine := d.vmodeTimings.1.setWidth 64
  let linesPerFrame := d.vmodeTimings.2.setWidth 64
  let curLine := d.displayLine.setWidth 64
  let displayLineStart := d.displayLineStart.setWidth 64
  let displayLineEnd := d.displayLineEnd.setWidth 64
  let delta := ticksPerLine - d.displayLineTick.setWidth 64
  let delta :=
    if curLine ≥ displayLineEnd then
      delta + (linesPerFrame - curLine) * ticksPerLine + (displayLineStart - 1) * ticksPerLine
    else if curLine < displayLineStart then
      delta + (displayLineStart - 1 - curLine) * ticksPerLine
    else
      delta + (displayLineEnd - 1 - curLine) * ticksPerLine
  delta <<< FracCycles.fracBits - d.gpuClockPhase.setWidth 64

lemma nextSyncDelta_eq (ratio : VideoClock → FracCycles) (d : Display) :
    d.nextSyncDelta ratio
      = (d.span + (ratio d.standard).fp - 1) / (ratio d.standard).fp := rfl

/-- The three formulas are the distance to the next edge. -/
lemma span_toNat (h : d.Predictable ratio) : d.span.toNat + d.beam = d.edge := by
  have hline := beam_div_lineLength h.tick_lt
  obtain ⟨hle, htick, hstart, -, -⟩ := h
  have hphase := d.gpuClockPhase.isLt
  rw [edge, Beam.nextEdge, hline, beam, lineLength, span]
  rw [lines] at hle ⊢
  rw [ticks] at htick ⊢
  cases hmode : d.vmode <;>
    simp only [vmodeTimings, hmode, FracCycles.fracBits, BitVec.ofNat_eq_ofNat,
      BitVec.reduceSetWidth, BitVec.reduceToNat] at htick hle ⊢ <;>
    split_ifs <;> bv_omega

lemma edge_lt (d : Display) : d.edge < 2 ^ 46 := by
  have hlines := d.lines_lt
  have hticks := d.ticks_lt
  have hstart := d.displayLineStart.isLt
  have hend := d.displayLineEnd.isLt
  have hlen : d.lineLength < 2 ^ 28 := by
    rw [lineLength]
    omega
  have hmul : ∀ {X : ℕ}, X ≤ 2 ^ 17 → X * d.lineLength < 2 ^ 46 := by
    intro X hX
    calc X * d.lineLength ≤ 2 ^ 17 * d.lineLength := Nat.mul_le_mul_right _ hX
      _ < 2 ^ 46 := by omega
  rw [edge, Beam.nextEdge]
  split_ifs
  · exact hmul (by omega)
  · exact hmul (by omega)
  · exact hmul (by omega)

/-- The delay: the distance to the next edge over the speed of the beam,
rounded up. -/
lemma nextSyncDelta_toNat (h : d.Predictable ratio) :
    (d.nextSyncDelta ratio).toNat = (d.edge - d.beam + d.speed ratio - 1) / d.speed ratio := by
  have hspan := span_toNat h
  have hedge := d.edge_lt
  have hpos := h.speed_pos
  have hle := h.speed_le
  have hticks := d.ticks_lt
  rw [speed] at hpos hle ⊢
  rw [nextSyncDelta_eq, BitVec.toNat_udiv]
  congr 1
  bv_omega

/-! ### The shared state after a synchronisation -/

/-- The time left to the date on the time sheet. -/
def delay (sh : SharedState) : Cycles := (sh.tk.timesheets .gpu).nextSync - sh.tk.now

lemma delay_setNextSyncDelta (tk : TimeKeeper) (delta : Cycles) :
    ((tk.setNextSyncDelta .gpu delta).timesheets .gpu).nextSync
      - (tk.setNextSyncDelta .gpu delta).now = delta := by
  have hsheet : ((tk.setNextSyncDelta .gpu delta).timesheets .gpu).nextSync = tk.now + delta := by
    simp [TimeKeeper.setNextSyncDelta, TimeSheet.setNextSync]
  have hnow : (tk.setNextSyncDelta .gpu delta).now = tk.now := rfl
  rw [hsheet, hnow, BitVec.add_comm, BitVec.add_sub_cancel]

lemma delay_predictNextSync (ratio : VideoClock → FracCycles) (d : Display) (sh : SharedState) :
    delay (d.predictNextSync ratio sh) = d.nextSyncDelta ratio :=
  delay_setNextSyncDelta sh.tk _

lemma delay_sync (ratio : VideoClock → FracCycles) (d : Display) (sh : SharedState) :
    delay (d.sync ratio sh).2 = (d.sync ratio sh).1.nextSyncDelta ratio := by
  rw [delay, sync_tk]
  exact delay_setNextSyncDelta _ _

/-- A VBlank interrupt is asserted on the rising edge of the signal. -/
lemma sync_irqState (ratio : VideoClock → FracCycles) (d : Display) (sh : SharedState) :
    (d.sync ratio sh).2.irqState =
      if d.vblankInterrupt = false ∧ (d.sync ratio sh).1.vblankInterrupt = true then
        sh.irqState.assert .vBlank
      else sh.irqState := by
  obtain ⟨-, -, -, -, -, hold, -⟩ := advance_frame ratio d (elapsed sh)
  rw [sync_fst]
  simp only [sync, predictNextSync]
  have helapsed : (sh.tk.sync .gpu).1 = elapsed sh := rfl
  rw [helapsed, hold]
  cases d.vblankInterrupt <;> cases (d.advance ratio (elapsed sh)).inVblank <;> rfl

/-- A frame is counted on its falling edge. -/
lemma sync_counters (ratio : VideoClock → FracCycles) (d : Display) (sh : SharedState) :
    (d.sync ratio sh).2.counters =
      if d.vblankInterrupt = true ∧ (d.sync ratio sh).1.vblankInterrupt = false then
        { sh.counters with frame := sh.counters.frame + 1 }
      else sh.counters := by
  obtain ⟨-, -, -, -, -, hold, -⟩ := advance_frame ratio d (elapsed sh)
  rw [sync_fst]
  simp only [sync, predictNextSync]
  have helapsed : (sh.tk.sync .gpu).1 = elapsed sh := rfl
  rw [helapsed, hold]
  cases d.vblankInterrupt <;> cases (d.advance ratio (elapsed sh)).inVblank <;> rfl

/-! ### Synchronising before the date and at the date -/

lemma Configured.sync (hc : d.Configured ratio) (sh : SharedState) :
    (d.sync ratio sh).1.Configured ratio := by
  obtain ⟨hticks, hlines, -, hspeed, -, hstart, hend⟩ := sync_frame ratio d sh
  constructor
  · rw [hstart]
    exact hc.start_pos
  · rw [hstart, hend]
    exact hc.start_lt_end
  · rw [hend, hlines]
    exact hc.end_le
  · rw [hspeed]
    exact hc.speed_pos
  · rw [hspeed, hticks]
    exact hc.speed_le

lemma Steady.sync (ratio : VideoClock → FracCycles) (d : Display) (sh : SharedState) :
    (d.sync ratio sh).1.Steady := by
  obtain ⟨hticks, hlines, -⟩ := sync_frame ratio d sh
  constructor
  · rw [hlines]
    exact advance_line_le ratio d _
  · rw [hticks]
    exact advance_tick_lt ratio d _
  · rfl

/-- The blanking signal after an advance, in terms of the beam. -/
lemma advance_inVblank_iff {delta : Cycles} (hfit : d.Fits ratio delta.toNat) :
    (d.advance ratio delta).inVblank = true
      ↔ Beam.Blank d.displayLineStart.toNat d.displayLineEnd.toNat
        (Beam.wrap d.lineLength d.lines (d.ahead ratio delta.toNat) / d.lineLength) := by
  obtain ⟨-, -, -, hstart, hend, -⟩ := advance_frame ratio d delta
  rw [inVblank_iff, hstart, hend, advance_line hfit]

/-- The blanking signal after a synchronisation, in terms of the beam. -/
lemma sync_vblank_iff (hfit : d.Fits ratio (elapsed sh).toNat) :
    (d.sync ratio sh).1.vblankInterrupt = true
      ↔ Beam.Blank d.displayLineStart.toNat d.displayLineEnd.toNat
        (Beam.wrap d.lineLength d.lines (d.ahead ratio (elapsed sh).toNat) / d.lineLength) := by
  rw [← advance_inVblank_iff hfit, sync_fst]

lemma beam_le_ahead (c : ℕ) : d.beam ≤ d.ahead ratio c := Nat.le_add_right _ _

namespace Predictable

variable (h : d.Predictable ratio)

include h

lemma beam_lt_edge : d.beam < d.edge := by
  have hline := beam_div_lineLength h.tick_lt
  refine Beam.lt_nextEdge d.lineLength_pos ?_ fun hend => ?_
  · rw [hline]
    exact h.line_le
  · rw [hline] at hend
    exact h.start_pos hend

lemma ahead_lt_edge {c : ℕ} (hc : c < (d.nextSyncDelta ratio).toNat) :
    d.ahead ratio c < d.edge := by
  rw [nextSyncDelta_toNat h] at hc
  have hlt := Beam.mul_lt_of_lt_ceil h.speed_pos hc
  rw [ahead]
  omega

lemma ahead_at_edge :
    d.edge ≤ d.ahead ratio (d.nextSyncDelta ratio).toNat
      ∧ d.ahead ratio (d.nextSyncDelta ratio).toNat < d.edge + d.speed ratio := by
  have hlt := h.beam_lt_edge
  obtain ⟨hlo, hhi⟩ := Beam.ceil_mul_between (x := d.edge - d.beam) h.speed_pos
  rw [ahead, nextSyncDelta_toNat h]
  omega

lemma fits_of_le {c : ℕ} (hc : c ≤ (d.nextSyncDelta ratio).toNat) : d.Fits ratio c := by
  have hat := h.ahead_at_edge.2
  have hedge := d.edge_lt
  have hspeed := h.speed_le
  have hticks := d.ticks_lt
  have hmul := Nat.mul_le_mul_right (d.speed ratio) hc
  rw [ahead, beam] at hat
  rw [Fits]
  omega

end Predictable

section Dates

variable (hc : d.Configured ratio) (hs : d.Steady)

include hs in
lemma beam_div_le : d.beam / d.lineLength ≤ d.lines := by
  rw [beam_div_lineLength hs.tick_lt]
  exact hs.line_le

include hs in
lemma vblank_iff_blank :
    d.vblankInterrupt = true
      ↔ Beam.Blank d.displayLineStart.toNat d.displayLineEnd.toNat (d.beam / d.lineLength) := by
  rw [hs.signal, inVblank_iff, beam_div_lineLength hs.tick_lt]

include hc hs

/-- Before the date nothing happens, and the date stays. -/
lemma sync_before (sh : SharedState) (h : (elapsed sh).toNat < (d.nextSyncDelta ratio).toNat) :
    (d.sync ratio sh).1.vblankInterrupt = d.vblankInterrupt
      ∧ (d.sync ratio sh).2.irqState = sh.irqState
      ∧ (d.sync ratio sh).2.counters = sh.counters
      ∧ delay (d.sync ratio sh).2 = d.nextSyncDelta ratio - elapsed sh := by
  have hpred := hc.predictable hs
  have hfit := hpred.fits_of_le h.le
  have hlt := hpred.ahead_lt_edge h
  obtain ⟨hblank, hedge, -, -⟩ := Beam.before_nextEdge d.lineLength_pos hc.start_lt_end hc.end_le
    (beam_div_le hs) (beam_le_ahead _) hlt
  have hsignal : (d.sync ratio sh).1.vblankInterrupt = d.vblankInterrupt := by
    rw [Bool.eq_iff_iff, sync_vblank_iff hfit, hblank, vblank_iff_blank hs]
  refine ⟨hsignal, ?_, ?_, ?_⟩
  · rw [sync_irqState, if_neg]
    rintro ⟨hold, hnew⟩
    simp [hsignal, hold] at hnew
  · rw [sync_counters, if_neg]
    rintro ⟨hold, hnew⟩
    simp [hsignal, hold] at hnew
  · -- the edge has moved with the beam
    have hs' : (d.sync ratio sh).1.Steady := Steady.sync ratio d sh
    obtain ⟨-, hlines, hlen, hspeed, -, hstart, hend⟩ := sync_frame ratio d sh
    have hedge' : (d.sync ratio sh).1.edge - (d.sync ratio sh).1.beam
        = d.edge - d.beam - (elapsed sh).toNat * d.speed ratio := by
      rw [edge, hlen, hlines, hstart, hend, sync_beam hfit, edge]
      rw [edge] at hlt
      rw [ahead] at hlt hedge ⊢
      omega
    have hsub := Beam.ceil_sub_mul (x := d.edge - d.beam) (c := (elapsed sh).toNat) hc.speed_pos
      (by rw [ahead] at hlt; omega)
    rw [delay_sync]
    apply BitVec.eq_of_toNat_eq
    rw [nextSyncDelta_toNat ((hc.sync sh).predictable hs'), hspeed, hedge', hsub,
      ← nextSyncDelta_toNat hpred,
      BitVec.toNat_sub_of_le (BitVec.le_def.mpr h.le)]

/-- At the date the signal changes. -/
lemma sync_at (sh : SharedState) (h : elapsed sh = d.nextSyncDelta ratio) :
    (d.sync ratio sh).1.vblankInterrupt = !d.vblankInterrupt := by
  have hpred := hc.predictable hs
  have hle : (elapsed sh).toNat ≤ (d.nextSyncDelta ratio).toNat := by rw [h]
  obtain ⟨hlo, hhi⟩ := hpred.ahead_at_edge
  have hlen : d.speed ratio ≤ d.lineLength := by
    have hspeed := hc.speed_le
    rw [lineLength]
    omega
  obtain ⟨hblank, -⟩ := Beam.at_nextEdge d.lineLength_pos hc.start_pos hc.start_lt_end hc.end_le
    (beam_div_le hs) hlo (by rw [edge] at hhi; omega)
  rw [Bool.eq_iff_iff, sync_vblank_iff (hpred.fits_of_le hle), h, hblank, Bool.not_eq_true',
    ← Bool.not_eq_true, vblank_iff_blank hs]

end Dates

/-! ### Runs -/

/-- The synchronisation asserts an interrupt, seen on a controller with nothing
asserted. -/
def raises (ratio : VideoClock → FracCycles) (d : Display) (sh : SharedState) : Bool :=
  (d.sync ratio { sh with irqState := .new }).2.irqState != .new

/-- Let `cycles` pass, then synchronise. -/
def step (ratio : VideoClock → FracCycles) (s : Display × SharedState) (cycles : Cycles) :
    Display × SharedState :=
  s.1.sync ratio (s.2.tick cycles)

/-- The number of VBlank interrupts asserted along a run. -/
def vblanks (ratio : VideoClock → FracCycles) : Display × SharedState → List Cycles → ℕ
  | _, [] => 0
  | s, c :: cs => (raises ratio s.1 (s.2.tick c)).toNat + vblanks ratio (step ratio s c) cs

/-- The length of a run, in cycles. -/
def duration (cs : List Cycles) : ℕ := (cs.map BitVec.toNat).sum

lemma raises_eq (ratio : VideoClock → FracCycles) (d : Display) (sh : SharedState) :
    raises ratio d sh = (!d.vblankInterrupt && (d.sync ratio sh).1.vblankInterrupt) := by
  have hsame : (d.sync ratio { sh with irqState := .new }).1 = (d.sync ratio sh).1 := rfl
  have hassert : (InterruptState.new.assert .vBlank != .new) = true := by decide
  rw [raises, sync_irqState, hsame]
  cases d.vblankInterrupt <;> cases (d.sync ratio sh).1.vblankInterrupt <;> simp [hassert]

/-- What a run keeps: the configuration, a steady state, and a time sheet that
has just been synchronised and holds the predicted date. -/
structure Predicted (ratio : VideoClock → FracCycles) (s : Display × SharedState) : Prop where
  configured : s.1.Configured ratio
  steady : s.1.Steady
  synced : (s.2.tk.timesheets .gpu).lastSync = s.2.tk.now
  date : delay s.2 = s.1.nextSyncDelta ratio

variable {s : Display × SharedState} {c : Cycles}

lemma elapsed_tick_of_synced (h : (sh.tk.timesheets .gpu).lastSync = sh.tk.now) :
    elapsed (sh.tick c) = c := by
  rw [elapsed_tick, elapsed, h, BitVec.sub_self, BitVec.zero_add]

section Step

variable (hs : Predicted ratio s) (hle : c ≤ delay s.2)

include hs hle

lemma Predicted.fits : s.1.Fits ratio (elapsed (s.2.tick c)).toNat := by
  rw [elapsed_tick_of_synced hs.synced]
  rw [hs.date] at hle
  exact (hs.configured.predictable hs.steady).fits_of_le hle

omit hle in
lemma Predicted.step : Predicted ratio (step ratio s c) where
  configured := hs.configured.sync _
  steady := Steady.sync ratio s.1 _
  synced := by simp [Display.step, sync_tk, TimeKeeper.setNextSyncDelta, TimeSheet.setNextSync,
    TimeKeeper.sync, TimeSheet.sync]
  date := delay_sync ratio s.1 (s.2.tick c)

/-- A step asserts an interrupt for each frame that reaches its blanking, and
counts each frame that reaches its display area. -/
lemma step_counts :
    Beam.reached s.1.lines s.1.displayLineEnd.toNat (s.1.ahead ratio c.toNat / s.1.lineLength)
        = Beam.reached s.1.lines s.1.displayLineEnd.toNat (s.1.beam / s.1.lineLength)
          + (raises ratio s.1 (s.2.tick c)).toNat
      ∧ ∃ n, Beam.reached s.1.lines s.1.displayLineStart.toNat
            (s.1.ahead ratio c.toNat / s.1.lineLength)
          = Beam.reached s.1.lines s.1.displayLineStart.toNat (s.1.beam / s.1.lineLength) + n
        ∧ (Display.step ratio s c).2.counters.frame = s.2.counters.frame + BitVec.ofNat 32 n := by
  have helapsed := elapsed_tick_of_synced (c := c) hs.synced
  have hcount := sync_counters ratio s.1 (s.2.tick c)
  rw [raises_eq, Display.step, hcount]
  rw [hs.date] at hle
  rcases lt_or_eq_of_le (BitVec.le_def.mp hle) with hlt | heq
  · -- before the date
    obtain ⟨hsignal, -, -, -⟩ := sync_before hs.configured hs.steady (s.2.tick c)
      (by rw [helapsed]; exact hlt)
    obtain ⟨-, -, hend, hstart⟩ := Beam.before_nextEdge s.1.lineLength_pos
      hs.configured.start_lt_end hs.configured.end_le (beam_div_le hs.steady) (beam_le_ahead _)
      ((hs.configured.predictable hs.steady).ahead_lt_edge hlt)
    rw [hend, hstart, hsignal]
    refine ⟨by simp, 0, rfl, ?_⟩
    rw [if_neg (by simp)]
    exact (BitVec.add_zero _).symm
  · -- at the date
    have hc : c = s.1.nextSyncDelta ratio := BitVec.eq_of_toNat_eq heq
    have hsignal := sync_at hs.configured hs.steady (s.2.tick c) (helapsed.trans hc)
    have hlen : s.1.speed ratio ≤ s.1.lineLength := by
      have hspeed := hs.configured.speed_le
      rw [lineLength]
      omega
    obtain ⟨hlo, hhi⟩ := (hs.configured.predictable hs.steady).ahead_at_edge
    rw [← hc] at hlo hhi
    obtain ⟨-, hblank, hactive⟩ := Beam.at_nextEdge s.1.lineLength_pos hs.configured.start_pos
      hs.configured.start_lt_end hs.configured.end_le (beam_div_le hs.steady) hlo
      (by rw [edge] at hhi; omega)
    rw [hsignal]
    cases hv : s.1.vblankInterrupt with
    | true =>
        obtain ⟨hend, hstart⟩ := hblank ((vblank_iff_blank hs.steady).mp hv)
        exact ⟨by simpa using hend, 1, hstart, by simp; rfl⟩
    | false =>
        obtain ⟨hend, hstart⟩ := hactive (fun h => by
          rw [(vblank_iff_blank hs.steady).mpr h] at hv
          exact absurd hv (by decide))
        exact ⟨by simpa using hend, 0, hstart, by simp; rfl⟩

end Step

/-- The counts of a run: over the whole distance the beam has moved, an
interrupt for each frame that has reached its blanking and a frame counted for
each that has reached its display area. -/
lemma run_counts {cs : List Cycles} (hs : Predicted ratio s)
    (hcs : Run.Steps (step ratio) (fun s c => c ≤ delay s.2) s cs) :
    Beam.reached s.1.lines s.1.displayLineEnd.toNat
        (s.1.ahead ratio (duration cs) / s.1.lineLength)
        = Beam.reached s.1.lines s.1.displayLineEnd.toNat (s.1.beam / s.1.lineLength)
          + vblanks ratio s cs
      ∧ ∃ n, Beam.reached s.1.lines s.1.displayLineStart.toNat
            (s.1.ahead ratio (duration cs) / s.1.lineLength)
          = Beam.reached s.1.lines s.1.displayLineStart.toNat (s.1.beam / s.1.lineLength) + n
        ∧ (cs.foldl (step ratio) s).2.counters.frame
          = s.2.counters.frame + BitVec.ofNat 32 n := by
  induction cs generalizing s with
  | nil =>
      have hzero : s.1.ahead ratio (duration []) = s.1.beam := by simp [ahead, duration]
      rw [hzero]
      exact ⟨rfl, 0, rfl, (BitVec.add_zero _).symm⟩
  | cons c cs ih =>
      obtain ⟨hle, hrest⟩ := hcs
      obtain ⟨hend, n, hstart, hframe⟩ := step_counts hs hle
      obtain ⟨ihend, m, ihstart, ihframe⟩ := ih hs.step hrest
      obtain ⟨-, hlines, hlen, hspeed, -, hls, hle'⟩ := sync_frame ratio s.1 (s.2.tick c)
      -- the step has taken `k` whole frames off the position
      have hbeam := sync_beam (hs.fits hle)
      rw [elapsed_tick_of_synced hs.synced] at hbeam
      obtain ⟨k, hk⟩ := Beam.wrap_add_mul s.1.lineLength s.1.lines (s.1.ahead ratio c.toNat)
      rw [← hbeam] at hk
      have hshift : ∀ x, (((step ratio s c).1.beam + x) / s.1.lineLength) + k * s.1.lines
          = (s.1.ahead ratio c.toNat + x) / s.1.lineLength := by
        intro x
        rw [← Nat.add_mul_div_right _ _ s.1.lineLength_pos, Nat.mul_assoc, ← hk]
        congr 1
        exact Nat.add_right_comm _ _ _
      have hnow := hshift 0
      have hthen := hshift (duration cs * s.1.speed ratio)
      have htotal : s.1.ahead ratio (duration (c :: cs))
          = s.1.ahead ratio c.toNat + duration cs * s.1.speed ratio := by
        simp only [ahead, duration, List.map_cons, List.sum_cons]
        ring
      have hahead : (step ratio s c).1.ahead ratio (duration cs)
          = (step ratio s c).1.beam + duration cs * s.1.speed ratio := by
        rw [ahead]
        congr 2
      have hlines' : (step ratio s c).1.lines = s.1.lines := hlines
      have hlen' : (step ratio s c).1.lineLength = s.1.lineLength := hlen
      have hls' : (step ratio s c).1.displayLineStart = s.1.displayLineStart := hls
      have hle'' : (step ratio s c).1.displayLineEnd = s.1.displayLineEnd := hle'
      rw [hlines', hlen', hle'', hahead] at ihend
      rw [hlines', hlen', hls', hahead] at ihstart
      rw [Nat.add_zero, Nat.add_zero] at hnow
      rw [← hnow, Beam.reached_add_mul s.1.lines_pos] at hend hstart
      rw [htotal, ← hthen, Beam.reached_add_mul s.1.lines_pos, Beam.reached_add_mul s.1.lines_pos,
        ihend, ihstart, vblanks]
      refine ⟨by omega, n + m, by omega, ?_⟩
      rw [List.foldl_cons, ihframe, hframe, BitVec.add_assoc, BitVec.ofNat_add]

/-- **The prediction of vertical blanking is exact.**  Before the predicted date
a synchronisation changes nothing but the position, and the date stays; at the
date the signal changes, with an interrupt at the start of blanking and a frame
counted at its end.  Along a run that never misses a date there is one interrupt
for each frame that reaches the end of its display area, and one count for each
that reaches the start. -/
theorem vblank_exact (hc : d.Configured ratio) (hs : d.Steady)
    (hsync : (sh.tk.timesheets .gpu).lastSync = sh.tk.now) :
    let start := d.predictNextSync ratio sh
    let D := delay start
    (∀ c < D,
        (d.sync ratio (start.tick c)).2.irqState = start.irqState
        ∧ (d.sync ratio (start.tick c)).1.vblankInterrupt = d.vblankInterrupt
        ∧ (d.sync ratio (start.tick c)).2.counters = start.counters
        ∧ delay (d.sync ratio (start.tick c)).2 = D - c)
      ∧ ((d.sync ratio (start.tick D)).1.vblankInterrupt = !d.vblankInterrupt
        ∧ (d.sync ratio (start.tick D)).2.irqState
          = (if d.vblankInterrupt then start.irqState else start.irqState.assert .vBlank)
        ∧ (d.sync ratio (start.tick D)).2.counters.frame
          = (if d.vblankInterrupt then start.counters.frame + 1 else start.counters.frame))
      ∧ ∀ cs, Run.Steps (step ratio) (fun s c => c ≤ delay s.2) (d, start) cs →
        vblanks ratio (d, start) cs
          = Beam.passed d.lines d.displayLineEnd.toNat (d.lineAfter ratio 0)
            (d.lineAfter ratio (duration cs))
        ∧ (cs.foldl (step ratio) (d, start)).2.counters.frame
          = start.counters.frame + BitVec.ofNat 32
            (Beam.passed d.lines d.displayLineStart.toNat (d.lineAfter ratio 0)
              (d.lineAfter ratio (duration cs))) := by
  intro start D
  have hdate : D = d.nextSyncDelta ratio := delay_predictNextSync ratio d sh
  have hpred : Predicted ratio (d, start) := by
    refine ⟨hc, hs, ?_, hdate⟩
    simpa [start, predictNextSync, TimeKeeper.setNextSyncDelta, TimeSheet.setNextSync] using hsync
  have helapsed : ∀ c, elapsed (start.tick c) = c := fun c => elapsed_tick_of_synced hpred.synced
  refine ⟨fun c hlt => ?_, ?_, fun cs hcs => ?_⟩
  · obtain ⟨hsignal, hirq, hcount, hdelay⟩ := sync_before hc hs (start.tick c)
      (by rw [helapsed, ← hdate]; exact hlt)
    refine ⟨hirq, hsignal, hcount, ?_⟩
    rw [hdelay, helapsed, hdate]
  · have hsignal := sync_at hc hs (start.tick D) (by rw [helapsed, hdate])
    have hirq := sync_irqState ratio d (start.tick D)
    have hcount := sync_counters ratio d (start.tick D)
    rw [hsignal] at hirq hcount
    refine ⟨hsignal, ?_, ?_⟩
    · rw [hirq]
      cases d.vblankInterrupt <;> rfl
    · rw [hcount]
      cases d.vblankInterrupt <;> rfl
  · obtain ⟨hend, n, hstart, hframe⟩ := run_counts hpred hcs
    have hN := d.lines_pos
    have hE := hc.end_le
    have hS := hc.start_lt_end
    have hzero : d.lineAfter ratio 0 = d.beam / d.lineLength := by simp [lineAfter, ahead]
    rw [Beam.passed_eq hN hE, Beam.passed_eq hN (by omega), hzero, lineAfter]
    dsimp only at hend hstart hframe
    rw [hend, hstart, hframe]
    exact ⟨by omega, by congr 2; omega⟩

/-- The first frame after reset, once the signal is up: the display area begins
at the predicted date. -/
theorem vblank_exact_reset :
    let d := { Display.new .ntsc with vblankInterrupt := true }
    let start := d.predictNextSync clockRatio SharedState.new
    d.Configured clockRatio ∧ d.Steady
      ∧ (d.sync clockRatio (start.tick (delay start))).1.vblankInterrupt = false := by
  intro d start
  have hc : d.Configured clockRatio := by
    constructor <;> decide
  have hs : d.Steady := by
    constructor <;> decide
  exact ⟨hc, hs, (@vblank_exact clockRatio d SharedState.new hc hs rfl).2.1.1⟩

end Display

end Rustation
