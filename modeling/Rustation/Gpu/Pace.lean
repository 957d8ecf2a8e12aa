import Rustation.Gpu.VBlank
import Rustation.Lib.Clocked
import Rustation.Shared.Services

/-!
The video output in a console that is busy with other things.

The exact results of `VBlank` are about synchronisations at or before the
predicted date.  In the console the GPU is synchronised late, whenever the CPU
gets to it, and other peripherals act on the shared state in between.

* `Beam.after_nextEdge`: the blanking signal between the next edge and the one
  after it;
* `Display.Scheduled`: the beam is in the frame, and the time sheet holds the
  date of the next edge;
* `Display.Move`: what can happen to the video output and the shared state, with
  its duration, `Display.Moves` any number of them;
* `Moves.turned`: while the GPU is less than `H` cycles late, at most one edge is
  passed, it is seen, and the next date is set;
* `deadline`: a date by which a frame is counted, which `Moves` never defers;
* `Ready`, `Settled`: before and after the synchronisation.
-/

namespace Rustation

open SharedState

namespace Beam

variable {L N S E p q : ℕ}

section Late

variable {K : ℕ} (hL : 0 < L) (hS : 0 < S) (hEN : E ≤ N) (hactive : K ≤ E - S)
  (hblank : K ≤ N - E + S) (hlo : nextEdge L N S E p ≤ q) (hhi : q < nextEdge L N S E p + K * L)

include hL hS hEN hactive hblank hlo hhi

/-- Past the next edge, but not past the one after it, the signal has changed, and
the edge after it is the next one.  The display area and the blanking both have at
least `K` lines. -/
lemma after_nextEdge :
    (Blank S E (wrap L N q / L) ↔ ¬Blank S E (p / L)) ∧
      nextEdge L N S E p + K * L + wrap L N q ≤ nextEdge L N S E (wrap L N q) + q := by
  have hbetween {X : ℕ} (hlo : X * L ≤ q) (hhi : q < X * L + K * L) :
      X ≤ q / L ∧ q / L < X + K := by
    rw [← Nat.add_mul] at hhi
    exact ⟨(Nat.le_div_iff_mul_le hL).mpr hlo, div_lt_of_lt_mul hL hhi⟩
  have hlines {X Y : ℕ} (hXY : X + K ≤ Y) : X * L + K * L ≤ Y * L := by
    rw [← Nat.add_mul]
    exact Nat.mul_le_mul_right L hXY
  rw [nextEdge] at hlo hhi ⊢
  simp only [Blank]
  split_ifs at hlo hhi ⊢ with hend hstart
  · -- the display area of the next frame
    obtain ⟨hge, hlt⟩ := hbetween hlo hhi
    obtain ⟨hwrap, hline⟩ := wrap_of_next (N := N) (q := q) (l := q / L - N) hL (by omega)
      (by omega) (by omega)
    have hfar := hlines (X := N + S) (Y := N + E) (by omega)
    rw [nextEdge, hline, if_neg (by omega), if_neg (by omega)]
    rw [Nat.add_mul N E] at hfar
    omega
  · -- the display area of this frame
    obtain ⟨hge, hlt⟩ := hbetween hlo hhi
    have hfar := hlines (X := S) (Y := E) (by omega)
    rw [wrap_of_le (by omega), nextEdge, if_neg (by omega), if_neg (by omega)]
    omega
  · -- vertical blanking, at the end of this frame or at the beginning of the next one
    obtain ⟨hge, hlt⟩ := hbetween hlo hhi
    have hfar := hlines (X := E) (Y := N + S) (by omega)
    by_cases hframe : N < q / L
    · obtain ⟨hwrap, hline⟩ := wrap_of_next (N := N) (q := q) (l := q / L - N) hL hframe
        (by omega) (by omega)
      rw [nextEdge, hline, if_neg (by omega), if_pos (by omega)]
      rw [Nat.add_mul N S] at hfar
      omega
    · rw [wrap_of_le (by omega), nextEdge, if_pos hge]
      omega

end Late

end Beam

namespace Display

variable {ratio : VideoClock → FracCycles} {d : Display} {sh sh' : SharedState} {H : ℕ}

/-! ### Late synchronisations -/

/-- The lines of the display area or of the blanking, whichever has fewer. -/
def shorter (d : Display) : ℕ :=
  min (d.displayLineEnd.toNat - d.displayLineStart.toNat)
    (d.lines - d.displayLineEnd.toNat + d.displayLineStart.toNat)

/-- A bound for the delay to the next edge, in cycles. -/
def longest (ratio : VideoClock → FracCycles) (d : Display) : ℕ :=
  ((d.lines + d.displayLineStart.toNat) * d.lineLength + d.speed ratio - 1) / d.speed ratio

/-- Twice `H` cycles are less than the display area or the blanking takes. -/
def Brief (ratio : VideoClock → FracCycles) (H : ℕ) (d : Display) : Prop :=
  2 * H * d.speed ratio ≤ d.shorter * d.lineLength

section Late

variable (hc : d.Configured ratio) (hs : d.Steady)

include hc hs

lemma nextSyncDelta_le : (d.nextSyncDelta ratio).toNat ≤ d.longest ratio := by
  rw [nextSyncDelta_toNat (hc.predictable hs), longest]
  have hend := hc.end_le
  have hstart := hc.start_lt_end
  have hedge : d.edge ≤ (d.lines + d.displayLineStart.toNat) * d.lineLength := by
    rw [edge, Beam.nextEdge]
    split_ifs
    · exact le_rfl
    · exact Nat.mul_le_mul_right _ (by omega)
    · exact Nat.mul_le_mul_right _ (by omega)
  exact Nat.div_le_div_right (by omega)

lemma nextSyncDelta_pos : 0 < (d.nextSyncDelta ratio).toNat := by
  have hlt := (hc.predictable hs).beam_lt_edge
  have hspeed := hc.speed_pos
  rw [nextSyncDelta_toNat (hc.predictable hs)]
  exact Nat.div_pos (by omega) hspeed

/-- A synchronisation that comes less than `H` cycles late finds the signal changed, and the next
edge at least `H` cycles away. -/
lemma sync_late (hH : d.Brief ratio H) (sh : SharedState)
    (hlo : (d.nextSyncDelta ratio).toNat ≤ (elapsed sh).toNat)
    (hhi : (elapsed sh).toNat < (d.nextSyncDelta ratio).toNat + H) :
    (d.sync ratio sh).1.vblankInterrupt = !d.vblankInterrupt ∧
      H ≤ ((d.sync ratio sh).1.nextSyncDelta ratio).toNat := by
  have hpred := hc.predictable hs
  obtain ⟨hreach, hbefore⟩ := hpred.ahead_at_edge
  rw [ahead] at hreach hbefore
  -- where the beam is, in terms of the edge
  have hge : d.edge ≤ d.ahead ratio (elapsed sh).toNat := by
    have hmul := Nat.mul_le_mul_right (d.speed ratio) hlo
    rw [ahead]
    omega
  have hlt : d.ahead ratio (elapsed sh).toNat < d.edge + H * d.speed ratio := by
    have hmul := Nat.mul_le_mul_right (d.speed ratio) (Nat.le_sub_one_of_lt hhi)
    have hH' : 0 < H := by omega
    rw [show (d.nextSyncDelta ratio).toNat + H - 1 = (d.nextSyncDelta ratio).toNat + (H - 1) by
      omega, Nat.add_mul, Nat.sub_one_mul] at hmul
    have hone := Nat.le_mul_of_pos_left (d.speed ratio) hH'
    rw [ahead]
    omega
  rw [Brief, Nat.mul_assoc] at hH
  have hfit : d.Fits ratio (elapsed sh).toNat := by
    have hedge := d.edge_lt
    have hlen : d.lineLength < 2 ^ 28 := by
      have := d.ticks_lt
      rw [lineLength]
      omega
    have hshort : d.shorter * d.lineLength ≤ 2 ^ 16 * 2 ^ 28 :=
      Nat.mul_le_mul ((min_le_left _ _).trans (by have := d.displayLineEnd.isLt; omega)) hlen.le
    rw [ahead, beam] at hlt
    rw [Fits]
    omega
  obtain ⟨hblank, hfar⟩ := Beam.after_nextEdge (p := d.beam) (K := d.shorter) d.lineLength_pos
    hc.start_pos hc.end_le (min_le_left _ _) (min_le_right _ _) hge (by rw [edge] at hlt; omega)
  constructor
  · rw [Bool.eq_iff_iff, sync_vblank_iff hfit, hblank, Bool.not_eq_true', ← Bool.not_eq_true,
      vblank_iff_blank hs]
  · have hs' : (d.sync ratio sh).1.Steady := Steady.sync ratio d sh
    obtain ⟨-, hlines, hlen, hspeed, -, hstart, hend⟩ := sync_frame ratio d sh
    rw [nextSyncDelta_toNat ((hc.sync sh).predictable hs'), hspeed,
      Nat.le_div_iff_mul_le hc.speed_pos, edge, hlen, hlines, hstart, hend, sync_beam hfit]
    have hspeed := hc.speed_pos
    rw [edge] at hlt
    omega

end Late

/-! ### The schedule -/

/-- The date on the time sheet of the GPU. -/
def date (sh : SharedState) : ℕ := (sh.tk.timesheets .gpu).nextSync.toNat

/-- The video output is up to date with its time sheet, which holds the date of the next edge. -/
structure Scheduled (ratio : VideoClock → FracCycles) (H : ℕ) (d : Display) (sh : SharedState) :
    Prop where
  configured : d.Configured ratio
  steady : d.Steady
  brief : d.Brief ratio H
  past : (sh.tk.timesheets .gpu).lastSync.toNat ≤ sh.tk.now.toNat
  date : date sh = (sh.tk.timesheets .gpu).lastSync.toNat + (d.nextSyncDelta ratio).toNat
  cached : sh.tk.CachedFor .gpu

lemma sync_sheet (ratio : VideoClock → FracCycles) (d : Display) (sh : SharedState) :
    (d.sync ratio sh).2.tk.timesheets .gpu =
      ⟨sh.tk.now, sh.tk.now + (d.sync ratio sh).1.nextSyncDelta ratio⟩ := by
  rw [sync_tk]
  simp only [TimeKeeper.setNextSyncDelta, TimeKeeper.setSheet_self, TimeKeeper.sync,
    TimeSheet.setNextSync, TimeSheet.sync]
  rfl

/-- A synchronisation begins with the sheet. -/
lemma served_synced (ratio : VideoClock → FracCycles) (d : Display) (sh : SharedState) :
    Served (Peripheral.Only .gpu) { sh with tk := (sh.tk.sync .gpu).2 } (d.sync ratio sh).2 := by
  have hgpu := Peripheral.only_self .gpu
  have hsheet : Served (Peripheral.Only .gpu) { sh with tk := (sh.tk.sync .gpu).2 }
      { sh with tk := (d.sync ratio sh).2.tk } := by
    rw [sync_tk]
    exact (@Service.setNextSyncDelta _ { sh with tk := (sh.tk.sync .gpu).2 } _ _ hgpu).served
  refine hsheet.trans ?_
  have hirq := sync_irqState ratio d sh
  generalize (d.sync ratio sh).2 = s at hirq ⊢
  have hassert : Served (Peripheral.Only .gpu) { sh with tk := s.tk }
      { sh with tk := s.tk, irqState := s.irqState } := by
    rw [hirq]
    split_ifs
    · exact (@Service.assert _ { sh with tk := s.tk } _).served
    · exact .refl _
  exact hassert.trans
    (@Service.count _ { sh with tk := s.tk, irqState := s.irqState } s.counters hgpu).served

lemma served_sync (ratio : VideoClock → FracCycles) (d : Display) (sh : SharedState) :
    Served (Peripheral.Only .gpu) sh (d.sync ratio sh).2 :=
  (Service.sync (Peripheral.only_self .gpu)).served.trans (served_synced ratio d sh)

lemma date_sync (hc : d.Configured ratio) (sh : SharedState)
    (hbig : sh.tk.now.toNat + d.longest ratio < 2 ^ 64) :
    date (d.sync ratio sh).2 =
      sh.tk.now.toNat + ((d.sync ratio sh).1.nextSyncDelta ratio).toNat ∧
    (d.sync ratio sh).1.longest ratio = d.longest ratio := by
  obtain ⟨-, hlines, hlen, hspeed, -, hstart, -⟩ := sync_frame ratio d sh
  have hlongest : (d.sync ratio sh).1.longest ratio = d.longest ratio := by
    rw [longest, hlines, hlen, hspeed, hstart, longest]
  have hle := nextSyncDelta_le (hc.sync sh) (Steady.sync ratio d sh)
  rw [hlongest] at hle
  refine ⟨?_, hlongest⟩
  rw [date, sync_sheet, BitVec.toNat_add, Nat.mod_eq_of_lt (by omega)]

/-- A synchronisation of the GPU sets the date of the next edge, whatever was there before. -/
lemma scheduled_sync (hc : d.Configured ratio) (hH : d.Brief ratio H)
    (hbig : sh.tk.now.toNat + d.longest ratio < 2 ^ 64) (hcached : sh.tk.CachedFor .gpu) :
    Scheduled ratio H (d.sync ratio sh).1 (d.sync ratio sh).2 where
  configured := hc.sync sh
  steady := Steady.sync ratio d sh
  brief := by
    obtain ⟨-, hlines, hlen, hspeed, -, hstart, hend⟩ := sync_frame ratio d sh
    rwa [Brief, shorter, hlines, hlen, hspeed, hstart, hend]
  past := by
    rw [sync_sheet, (served_sync ratio d sh).now]
  date := by
    rw [(date_sync hc sh hbig).1, sync_sheet]
  cached := (served_sync ratio d sh).cached (by decide) hcached

/-! ### Moves -/

/-- What can happen to the video output and the shared state, and how long it takes. -/
inductive Move (ratio : VideoClock → FracCycles) :
    ℕ → Display × SharedState → Display × SharedState → Prop
  /-- another peripheral is at work -/
  | served {own : Peripheral → Prop} {d : Display} {sh sh' : SharedState} :
      Served own sh sh' → ¬own .gpu → Move ratio 0 (d, sh) (d, sh')
  | synced (d : Display) (sh : SharedState) : Move ratio 0 (d, sh) (d.sync ratio sh)
  /-- time passes -/
  | delayed {n : ℕ} {d : Display} {sh sh' : SharedState} :
      Delayed n sh sh' → Move ratio n (d, sh) (d, sh')
  /-- the date of the next synchronisation is looked up -/
  | updated {d : Display} {sh : SharedState} :
      Move ratio 0 (d, sh) (d, { sh with tk := sh.tk.updateSyncPending })
  /-- the interrupt controller or another counter changes -/
  | aside (d : Display) (sh : SharedState) (irqState : InterruptState) (counters : Counters) :
      counters.frame = sh.counters.frame →
      Move ratio 0 (d, sh) (d, { sh with irqState := irqState, counters := counters })

/-- Any number of moves, and how long they take together. -/
abbrev Moves (ratio : VideoClock → FracCycles) :
    ℕ → Display × SharedState → Display × SharedState → Prop :=
  Clocked.Run (Move ratio)

section Moves

variable {s t : Display × SharedState} {n : ℕ}

lemma Move.now (h : Move ratio n s t) : t.2.tk.now = s.2.tk.now + BitVec.ofNat 64 n := by
  cases h with
  | served hserved _ => exact hserved.now.trans (BitVec.add_zero _).symm
  | synced d sh => exact (served_sync ratio d sh).now.trans (BitVec.add_zero _).symm
  | delayed hdelayed =>
      rw [hdelayed.tk]
      rfl
  | updated | aside => exact (BitVec.add_zero _).symm

/-- Moves let as much time pass as they take. -/
lemma Moves.now (h : Moves ratio n s t) : t.2.tk.now = s.2.tk.now + BitVec.ofNat 64 n := by
  induction h with
  | refl => exact (BitVec.add_zero _).symm
  | tail _ hmove ih => rw [hmove.now, ih, BitVec.ofNat_add, BitVec.add_assoc]

end Moves

/-- What moves do to the signal up to the date `limit`: nothing, or they pass an edge, and the next
one is after `limit`. -/
inductive Turned (ratio : VideoClock → FracCycles) (H limit : ℕ) (s s' : Display × SharedState) :
    Prop
  | waiting : s'.1.vblankInterrupt = s.1.vblankInterrupt → date s'.2 = date s.2 →
      s'.2.counters.frame = s.2.counters.frame → Turned ratio H limit s s'
  | turned : s'.1.vblankInterrupt = (!s.1.vblankInterrupt) → date s.2 ≤ limit →
      limit < date s'.2 → date s'.2 ≤ date s.2 + H + s.1.longest ratio →
      s'.2.counters.frame =
        (if s.1.vblankInterrupt then s.2.counters.frame + 1 else s.2.counters.frame) →
      Turned ratio H limit s s'

/-- What a move keeps. -/
structure Moved (ratio : VideoClock → FracCycles) (H limit n : ℕ) (s s' : Display × SharedState) :
    Prop where
  scheduled : Scheduled ratio H s'.1 s'.2
  now : s'.2.tk.now.toNat = s.2.tk.now.toNat + n
  longest : s'.1.longest ratio = s.1.longest ratio
  turned : Turned ratio H limit s s'

variable {s s' : Display × SharedState} {limit n : ℕ}

/-- A synchronisation on schedule, or less than `H` cycles late. -/
lemma Scheduled.moved_sync (hs : Scheduled ratio H d sh) (hnow : sh.tk.now.toNat ≤ limit)
    (hlim : limit < Display.date sh + H) (hbig : limit + d.longest ratio < 2 ^ 64) :
    Moved ratio H limit 0 (d, sh) (d.sync ratio sh) := by
  have hbig' : sh.tk.now.toNat + d.longest ratio < 2 ^ 64 := by omega
  obtain ⟨hdate, hlongest⟩ := date_sync hs.configured sh hbig'
  have helapsed : (elapsed sh).toNat =
      sh.tk.now.toNat - (sh.tk.timesheets .gpu).lastSync.toNat :=
    BitVec.toNat_sub_of_le (BitVec.le_def.mpr hs.past)
  have hpast := hs.past
  have hold := hs.date
  refine ⟨scheduled_sync hs.configured hs.brief hbig' hs.cached,
    congrArg BitVec.toNat (served_sync ratio d sh).now, hlongest, ?_⟩
  by_cases hdue : Display.date sh ≤ sh.tk.now.toNat
  · -- the edge has been passed
    obtain ⟨hsignal, hfar⟩ := sync_late hs.configured hs.steady hs.brief sh (by omega) (by omega)
    have hle := nextSyncDelta_le (hs.configured.sync sh) (Steady.sync ratio d sh)
    rw [hlongest] at hle
    refine .turned hsignal (hdue.trans hnow) ?_ ?_ ?_
    · rw [hdate]
      omega
    · rw [hdate]
      dsimp only
      omega
    · rw [sync_counters, hsignal]
      cases d.vblankInterrupt <;> rfl
  · -- the edge is still ahead
    obtain ⟨hsignal, -, hcounters, hdelay⟩ := sync_before hs.configured hs.steady sh (by omega)
    refine .waiting hsignal ?_ (congrArg Counters.frame hcounters)
    rw [delay_sync] at hdelay
    rw [hdate, hdelay, BitVec.toNat_sub_of_le (BitVec.le_def.mpr (by omega))]
    dsimp only
    omega

/-- A state with the same time sheet of the GPU. -/
lemma Scheduled.moved_same (hs : Scheduled ratio H d sh)
    (hsheet : sh'.tk.timesheets .gpu = sh.tk.timesheets .gpu)
    (hnow : sh'.tk.now.toNat = sh.tk.now.toNat + n) (hcached : sh'.tk.CachedFor .gpu)
    (hframe : sh'.counters.frame = sh.counters.frame) :
    Moved ratio H limit n (d, sh) (d, sh') := by
  have hdate : Display.date sh' = Display.date sh := by rw [Display.date, hsheet, Display.date]
  have hpast := hs.past
  refine ⟨⟨hs.configured, hs.steady, hs.brief, ?_, ?_, hcached⟩, hnow, rfl,
    .waiting rfl hdate hframe⟩
  · dsimp only
    rw [hsheet]
    omega
  · dsimp only
    rw [hdate, hsheet]
    exact hs.date

/-- The step lemma. -/
lemma Move.moved (h : Move ratio n s s') (hs : Scheduled ratio H s.1 s.2)
    (hnow : s.2.tk.now.toNat + n ≤ limit) (hlim : limit < date s.2 + H)
    (hbig : limit + s.1.longest ratio < 2 ^ 64) : Moved ratio H limit n s s' := by
  cases h with
  | served hserved hgpu =>
      exact hs.moved_same (hserved.sheet hgpu) (congrArg BitVec.toNat hserved.now)
        (hserved.cached (by decide) hs.cached) (congrArg Counters.frame (hserved.counters hgpu))
  | synced d sh => exact hs.moved_sync hnow hlim hbig
  | delayed hdelayed =>
      have hcached := hs.cached
      refine hs.moved_same ?_ ?_ ?_ (congrArg Counters.frame hdelayed.counters)
      · rw [hdelayed.tk]
        rfl
      · rw [hdelayed.tk, TimeKeeper.tick, BitVec.toNat_add, BitVec.toNat_ofNat]
        dsimp only at hnow hbig ⊢
        omega
      · rw [TimeKeeper.CachedFor, hdelayed.tk]
        exact hcached
  | updated =>
      exact hs.moved_same (by rw [TimeKeeper.updateSyncPending_timesheets]) rfl
        (TimeKeeper.cachedFor_updateSyncPending _ _) rfl
  | aside d sh irqState counters hframe => exact hs.moved_same rfl rfl hs.cached hframe

/-- The GPU is less than `H` cycles late. -/
lemma Moved.lt_date_add (h : Moved ratio H limit n s s') (hlim : limit < date s.2 + H) :
    limit < date s'.2 + H := by
  cases h.turned with
  | waiting _ hdate _ => rwa [hdate]
  | turned _ _ hnext _ _ => omega

/-- The run lemma: while the GPU is less than `H` cycles late, at most one edge is passed, and it is
seen. -/
lemma Moves.moved (h : Moves ratio n s s') (hs : Scheduled ratio H s.1 s.2)
    (hnow : s.2.tk.now.toNat + n ≤ limit) (hlim : limit < date s.2 + H)
    (hbig : limit + s.1.longest ratio < 2 ^ 64) : Moved ratio H limit n s s' := by
  induction h with
  | refl s => exact ⟨hs, rfl, rfl, .waiting rfl rfl rfl⟩
  | @tail m n s t u _ hmove ih =>
      have hfirst := ih hs (by omega) hlim hbig
      have hlast := hmove.moved hfirst.scheduled (by rw [hfirst.now]; omega)
        (hfirst.lt_date_add hlim) (by rwa [hfirst.longest])
      refine ⟨hlast.scheduled, by rw [hlast.now, hfirst.now, Nat.add_assoc],
        hlast.longest.trans hfirst.longest, ?_⟩
      cases hfirst.turned with
      | waiting hsignal hdate hframe =>
          cases hlast.turned with
          | waiting hsignal' hdate' hframe' =>
              exact .waiting (hsignal'.trans hsignal) (hdate'.trans hdate) (hframe'.trans hframe)
          | turned hsignal' hdue hnext hle hframe' =>
              rw [hsignal] at hsignal' hframe'
              rw [hframe] at hframe'
              rw [hdate] at hdue hle
              rw [hfirst.longest] at hle
              exact .turned hsignal' hdue hnext hle hframe'
      | turned hsignal hdue hnext hle hframe =>
          cases hlast.turned with
          | waiting hsignal' hdate' hframe' =>
              exact .turned (hsignal'.trans hsignal) hdue (by omega) (by omega)
                (hframe'.trans hframe)
          | turned _ hdue' =>
              -- the next edge is after the limit
              omega

/-! ### The deadline -/

/-- A date by which a frame is counted: the end of the blanking, of which in the display area only
the latest possible date is known. -/
def deadline (ratio : VideoClock → FracCycles) (H : ℕ) (s : Display × SharedState) : ℕ :=
  date s.2 + if s.1.vblankInterrupt then 0 else H + s.1.longest ratio

/-- A frame has been counted, which ends the blanking, or it will be by the date `D`. -/
def FrameBy (ratio : VideoClock → FracCycles) (H D : ℕ) (s s' : Display × SharedState) : Prop :=
  (s'.2.counters.frame = s.2.counters.frame + 1 ∧ s'.1.vblankInterrupt = false) ∨
    (s'.2.counters.frame = s.2.counters.frame ∧ deadline ratio H s' ≤ D)

/-- Moves count a frame or keep the deadline. -/
lemma Moved.frameBy (h : Moved ratio H limit n s s') :
    FrameBy ratio H (deadline ratio H s) s s' := by
  cases h.turned with
  | waiting hsignal hdate hframe =>
      refine .inr ⟨hframe, ?_⟩
      rw [deadline, hdate, hsignal, h.longest, deadline]
  | turned hsignal hdue hnext hle hframe =>
      cases hv : s.1.vblankInterrupt with
      | true =>
          rw [hv] at hsignal hframe
          exact .inl ⟨hframe, hsignal⟩
      | false =>
          rw [hv] at hsignal hframe
          refine .inr ⟨hframe, ?_⟩
          rw [deadline, deadline, hv, hsignal]
          simp only [Bool.not_false, if_true, Bool.false_eq_true, if_false]
          omega

/-- Outside of the blanking no frame is counted. -/
lemma Moved.frame (h : Moved ratio H limit n s s') (hv : s.1.vblankInterrupt = false) :
    s'.2.counters.frame = s.2.counters.frame := by
  cases h.turned with
  | waiting _ _ hframe => exact hframe
  | turned _ _ _ _ hframe =>
      rw [hv] at hframe
      exact hframe

lemma Scheduled.date_le (hs : Scheduled ratio H d sh) :
    Display.date sh ≤ sh.tk.now.toNat + d.longest ratio := by
  have hle := nextSyncDelta_le hs.configured hs.steady
  have hpast := hs.past
  rw [hs.date]
  omega

lemma Scheduled.deadline_le (hs : Scheduled ratio H d sh) :
    deadline ratio H (d, sh) ≤ sh.tk.now.toNat + H + 2 * d.longest ratio := by
  have hle := hs.date_le
  rw [deadline]
  dsimp only
  split_ifs <;> omega

lemma date_le_deadline (s : Display × SharedState) : date s.2 ≤ deadline ratio H s :=
  Nat.le_add_right _ _

/-! ### The synchronisation before an instruction -/

/-- The video output is configured, and its next edge is scheduled or due. -/
structure Ready (ratio : VideoClock → FracCycles) (H : ℕ) (d : Display) (sh : SharedState) :
    Prop where
  configured : d.Configured ratio
  brief : d.Brief ratio H
  cached : sh.tk.CachedFor .gpu
  schedule : sh.tk.needsSync .gpu = false → Scheduled ratio H d sh

lemma Scheduled.ready (hs : Scheduled ratio H d sh) : Ready ratio H d sh :=
  ⟨hs.configured, hs.brief, hs.cached, fun _ => hs⟩

/-- The state the synchronisation leaves: no edge is due, and a frame has been counted or it will be
by the date `D`. -/
structure Settled (ratio : VideoClock → FracCycles) (H D : ℕ) (s s' : Display × SharedState) :
    Prop where
  scheduled : Scheduled ratio H s'.1 s'.2
  now : s'.2.tk.now = s.2.tk.now
  longest : s'.1.longest ratio = s.1.longest ratio
  ahead : s'.2.tk.now.toNat < date s'.2
  frame : FrameBy ratio H D s s'

lemma needsSync_iff (sh : SharedState) :
    sh.tk.needsSync .gpu = true ↔ date sh ≤ sh.tk.now.toNat := by
  rw [TimeKeeper.needsSync, TimeSheet.needsSync, decide_eq_true_eq, BitVec.le_def, date]

section Settled

variable {t : Display × SharedState} {D : ℕ}

/-- Before the edge, moves that take no time do not reach it. -/
lemma Scheduled.settled (ht : Scheduled ratio H t.1 t.2)
    (hahead : t.2.tk.now.toNat < Display.date t.2)
    (hbig : t.2.tk.now.toNat + t.1.longest ratio < 2 ^ 64) (h : Moves ratio 0 t s')
    (hnow : t.2.tk.now = s.2.tk.now) (hlongest : t.1.longest ratio = s.1.longest ratio)
    (hframe : FrameBy ratio H D s t) : Settled ratio H D s s' := by
  have hmoved := h.moved ht le_rfl (Nat.lt_add_right H hahead) hbig
  have hnow' : s'.2.tk.now = t.2.tk.now := BitVec.eq_of_toNat_eq hmoved.now
  cases hmoved.turned with
  | waiting hsignal hdate hsame =>
      have hdeadline : deadline ratio H s' = deadline ratio H t := by
        rw [deadline, hdate, hsignal, hmoved.longest, deadline]
      refine ⟨hmoved.scheduled, hnow'.trans hnow, hmoved.longest.trans hlongest, ?_, ?_⟩
      · rwa [hnow', hdate]
      · rwa [FrameBy, hsame, hsignal, hdeadline]
  | turned _ hdue => omega

/-- After a synchronisation the edge is ahead. -/
lemma settled_sync (hc : s.1.Configured ratio)
    (hs : Scheduled ratio H (s.1.sync ratio s.2).1 (s.1.sync ratio s.2).2)
    (hbig : s.2.tk.now.toNat + s.1.longest ratio < 2 ^ 64)
    (h : Moves ratio 0 (s.1.sync ratio s.2) s')
    (hframe : FrameBy ratio H D s (s.1.sync ratio s.2)) : Settled ratio H D s s' := by
  have hnow := (served_sync ratio s.1 s.2).now
  obtain ⟨hdate, hlongest⟩ := date_sync hc s.2 hbig
  have hpos := nextSyncDelta_pos hs.configured hs.steady
  exact hs.settled (by rw [hnow, hdate]; omega) (by rwa [hnow, hlongest]) h hnow hlongest hframe

/-- The synchronisation sees an edge that is due. -/
lemma Ready.settled (hr : Ready ratio H s.1 s.2)
    (hbig : s.2.tk.now.toNat + s.1.longest ratio < 2 ^ 64)
    (h : Moves ratio 0 (if s.2.tk.needsSync .gpu then s.1.sync ratio s.2 else s) s') :
    Settled ratio H (s.2.tk.now.toNat + H + 2 * s.1.longest ratio) s s' := by
  by_cases hdue : s.2.tk.needsSync .gpu = true
  · rw [if_pos hdue] at h
    -- the sheet of the GPU starts anew
    have hs := scheduled_sync hr.configured hr.brief hbig hr.cached
    have hle := hs.deadline_le
    rw [(served_sync ratio s.1 s.2).now, (date_sync hr.configured s.2 hbig).2] at hle
    refine settled_sync hr.configured hs hbig h ?_
    rw [FrameBy, sync_counters]
    split_ifs with hcount
    · exact .inl ⟨rfl, hcount.2⟩
    · exact .inr ⟨rfl, hle⟩
  · rw [if_neg hdue] at h
    have hs := hr.schedule (Bool.eq_false_iff.mpr hdue)
    rw [needsSync_iff] at hdue
    exact hs.settled (by omega) hbig h rfl rfl (.inr ⟨rfl, hs.deadline_le⟩)

/-- On schedule, the synchronisation keeps the deadline. -/
lemma Scheduled.settled_deadline (hs : Scheduled ratio H s.1 s.2)
    (hlate : s.2.tk.now.toNat < Display.date s.2 + H)
    (hbig : s.2.tk.now.toNat + s.1.longest ratio < 2 ^ 64)
    (h : Moves ratio 0 (if s.2.tk.needsSync .gpu then s.1.sync ratio s.2 else s) s') :
    Settled ratio H (deadline ratio H s) s s' := by
  by_cases hdue : s.2.tk.needsSync .gpu = true
  · rw [if_pos hdue] at h
    have hfirst := hs.moved_sync le_rfl hlate hbig
    exact settled_sync hs.configured hfirst.scheduled hbig h hfirst.frameBy
  · rw [if_neg hdue] at h
    rw [needsSync_iff] at hdue
    exact hs.settled (by omega) hbig h rfl rfl (.inr ⟨rfl, le_rfl⟩)

end Settled

end Display

end Rustation
