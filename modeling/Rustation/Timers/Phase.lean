import Rustation.Gpu.Gpu
import Rustation.Gpu.Frames
import Rustation.Timers.Ticking

/-!
Whether the phase of a timer stays within its period.

Timer 1 can count lines.  Its period is then a line in CPU cycles, and its phase is read
off the position of the beam; the period is divided by the ratio of the clocks, the phase
is multiplied by it.

* `Display.hsync_lt_iff`: so the phase is below the period only near the start of a
  line (`Display.EarlyIn`);
* `Timer.Keeps`, `Timers.Rearmed`: what a synchronisation and a change of the video
  timings do to a timer;
* `Clocks`: the three timers and the GPU, under register accesses and synchronisations;
* `perform_inPeriod_iff`: an operation keeps the phases within the periods exactly when
  it does not find the beam too far on (`Clocks.EarlyFor`);
* `inPeriod_along_iff`: whole runs.
-/

namespace Rustation

open Fallible

/-! ### The horizontal synchronisation -/

namespace Display

variable {ratio : VideoClock → FracCycles} {d : Display}

/-- The position of the beam within its line, in units of 1/65536 of a GPU tick. -/
def linePos (d : Display) : ℕ := 65536 * d.displayLineTick.toNat + d.gpuClockPhase.toNat

/-- The position `p` in a line of `L` ticks is one whose phase is below the period, for a clock
ratio of `R`. -/
def EarlyIn (R L p : ℕ) : Prop := (p * R / 2 ^ 16 + 1) * R ≤ L * 2 ^ 32

instance (R L p : ℕ) : Decidable (EarlyIn R L p) := inferInstanceAs (Decidable (_ ≤ _))

/-- The beam is near the start of its line. -/
def Early (ratio : VideoClock → FracCycles) (d : Display) : Prop :=
  EarlyIn (d.speed ratio) d.ticks d.linePos

/-- The clock ratio is between one and two. -/
def RatioInRange (ratio : VideoClock → FracCycles) : Prop :=
  ∀ standard, 2 ^ 16 ≤ (ratio standard).fp.toNat ∧ (ratio standard).fp.toNat ≤ 2 ^ 17

lemma linePos_lt (d : Display) : d.linePos < 2 ^ 32 := by
  have htick := d.displayLineTick.isLt
  have hphase := d.gpuClockPhase.isLt
  rw [linePos]
  omega

variable (hratio : RatioInRange ratio)

include hratio

lemma speed_bounds (d : Display) : 2 ^ 16 ≤ d.speed ratio ∧ d.speed ratio ≤ 2 ^ 17 :=
  hratio d.standard

lemma hsyncPhase_toNat : (d.hsyncPhase ratio).fp.toNat = d.linePos * d.speed ratio / 2 ^ 16 := by
  have hpos := d.linePos_lt
  have htick := d.displayLineTick.isLt
  obtain ⟨-, hspeed⟩ := d.speed_bounds hratio
  have hsum : ((FracCycles.fromCycles (d.displayLineTick.setWidth 64)).add
      (.fromFp (d.gpuClockPhase.setWidth 64))).fp.toNat = d.linePos := by
    rw [FracCycles.add, BitVec.toNat_add, FracCycles.fromCycles_toNat
      (by rw [setWidth_toNat]; omega), FracCycles.fromFp, setWidth_toNat, setWidth_toNat, ← linePos]
    exact Nat.mod_eq_of_lt (by omega)
  have hprod : d.linePos * d.speed ratio < 2 ^ 64 :=
    (Nat.mul_le_mul hpos.le hspeed).trans_lt (by norm_num)
  simp only [hsyncPhase, FracCycles.multiply, FracCycles.fracBits]
  rw [BitVec.toNat_shift, BitVec.toNat_mul, hsum, ← speed, Nat.mod_eq_of_lt hprod]

omit hratio in
lemma hsyncPeriod_toNat : (d.hsyncPeriod ratio).fp.toNat = d.ticks * 2 ^ 32 / d.speed ratio := by
  have hticks := d.ticks_lt
  have hset : (d.vmodeTimings.1.setWidth 64).toNat = d.ticks := setWidth_toNat _
  have hshift : 65536 * d.ticks * 2 ^ 16 = d.ticks * 2 ^ 32 := by ring
  simp only [hsyncPeriod, FracCycles.divide, FracCycles.fracBits]
  rw [BitVec.toNat_udiv, ← speed, BitVec.toNat_shiftLeft, Nat.shiftLeft_eq,
    FracCycles.fromCycles_toNat (by rw [hset]; omega), hset, Nat.mod_eq_of_lt (by omega), hshift]

/-- The phase of the horizontal synchronisation is below its period near the start of a line. -/
lemma hsync_lt_iff : (d.hsyncPhase ratio).fp < (d.hsyncPeriod ratio).fp ↔
    d.Early ratio := by
  obtain ⟨hspeed, -⟩ := d.speed_bounds hratio
  rw [BitVec.lt_def, hsyncPhase_toNat hratio, hsyncPeriod_toNat, Early,
    EarlyIn, Nat.lt_iff_add_one_le, Nat.le_div_iff_mul_le (by omega)]

omit hratio in
lemma hsyncPeriod_lt : (d.hsyncPeriod ratio).fp.toNat < 2 ^ 48 := by
  have hticks := d.ticks_lt
  rw [hsyncPeriod_toNat]
  exact (Nat.div_le_self _ _).trans_lt (by omega)

end Display

/-! ### The parts of the accesses -/

namespace Timer

variable {t t' : Timer} {sh sh' : SharedState}

/-- The phase is below the period, and subtracting it does not underflow, whatever the counter
and the target are. -/
structure InPeriod (t : Timer) : Prop where
  phase_lt : t.phase.fp < t.period.fp
  no_underflow : ∀ countdown : U16,
    t.phase.fp ≤ t.period.fp * (countdown.setWidth 64 + 1)

lemma inPeriod_iff (h : t.period.fp.toNat < 2 ^ 48) : t.InPeriod ↔ t.phase.fp < t.period.fp := by
  refine ⟨InPeriod.phase_lt, fun hlt => ⟨hlt, fun countdown => ?_⟩⟩
  have hcount : (countdown.setWidth 64 + 1 : Cycles).toNat = countdown.toNat + 1 := by
    have := countdown.isLt
    rw [BitVec.toNat_add, Display.setWidth_toNat]
    exact Nat.mod_eq_of_lt (by simp; omega)
  have hle : countdown.toNat + 1 ≤ 2 ^ 16 := countdown.isLt
  have hprod : t.period.fp.toNat * (countdown.toNat + 1) < 2 ^ 64 :=
    (Nat.mul_le_mul_left _ hle).trans_lt (by omega)
  rw [BitVec.le_def, BitVec.toNat_mul, hcount, Nat.mod_eq_of_lt hprod]
  exact (Nat.le_of_lt hlt).trans (Nat.le_mul_of_pos_right _ (Nat.succ_pos _))

/-- The time sheet of the GPU and the date are kept. -/
def SameGpuTime (sh sh' : SharedState) : Prop :=
  sh'.tk.now = sh.tk.now ∧ sh'.tk.timesheets .gpu = sh.tk.timesheets .gpu

/-- The clock source and the period are kept, and the phase is still within the period if it
was. -/
structure Keeps (t t' : Timer) : Prop where
  inst : t'.inst = t.inst
  clockSource : t'.clockSource = t.clockSource
  period : t'.period = t.period
  phase_lt : t.phase.fp < t.period.fp → t'.phase.fp < t'.period.fp

lemma advance_keeps {delta : Cycles} {e : Events} (h : t.advance delta = .ok (t', e)) :
    Keeps t t' := by
  by_cases hzero : t.period.fp = 0
  · simp only [advance, if_pos hzero] at h
    cases h
  simp only [advance, if_neg hzero, pure_eq_ok] at h
  obtain ⟨rfl, -⟩ := Prod.mk.inj (Except.ok.inj h)
  refine ⟨rfl, rfl, rfl, fun hlt => ?_⟩
  exact BitVec.umod_lt _ (Nat.lt_of_le_of_lt (Nat.zero_le _) hlt)

lemma updateInterrupt_keeps {e : Events} {irq irq' : InterruptState}
    (h : t.updateInterrupt e irq = .ok (t', irq')) : Keeps t t' := by
  rw [updateInterrupt] at h
  split_ifs at h
  all_goals
    obtain ⟨rfl, -⟩ := Prod.mk.inj (Except.ok.inj h)
    exact ⟨rfl, rfl, rfl, id⟩

lemma gpu_ne_peripheral (i : TimerId) : Peripheral.gpu ≠ i.peripheral := by
  cases i <;> decide

lemma sameGpuTime_setSheet (i : TimerId) (f : TimeSheet) :
    (sh.tk.setSheet i.peripheral f).timesheets .gpu = sh.tk.timesheets .gpu :=
  TimeKeeper.setSheet_of_ne _ _ (gpu_ne_peripheral i)

lemma predictNextSync_gpuTime (t : Timer) (sh : SharedState) :
    SameGpuTime sh (t.predictNextSync sh) := by
  have hnext (delta : Cycles) :
      SameGpuTime sh { sh with tk := sh.tk.setNextSyncDelta t.inst.peripheral delta } :=
    ⟨rfl, sameGpuTime_setSheet t.inst _⟩
  rw [predictNextSync]
  split_ifs
  · exact ⟨rfl, sameGpuTime_setSheet t.inst _⟩
  · exact hnext t.nextSyncDelta

lemma sync_keeps (h : t.sync sh = .ok (t', sh')) : Keeps t t' ∧ SameGpuTime sh sh' := by
  have hsheet : SameGpuTime sh { sh with tk := (sh.tk.sync t.inst.peripheral).2 } :=
    ⟨rfl, sameGpuTime_setSheet t.inst _⟩
  by_cases hzero : t.elapsed sh = 0
  · rw [sync_of_elapsed_zero hzero] at h
    obtain ⟨rfl, rfl⟩ := Prod.mk.inj (Except.ok.inj h)
    exact ⟨⟨rfl, rfl, rfl, id⟩, hsheet⟩
  · obtain ⟨u, e, v, irq, hadv, hirq, heq⟩ := sync_parts h hzero
    obtain ⟨rfl, rfl⟩ := Prod.mk.inj heq
    have hu := advance_keeps hadv
    have hv := updateInterrupt_keeps hirq
    refine ⟨⟨hv.inst.trans hu.inst, hv.clockSource.trans hu.clockSource,
      hv.period.trans hu.period, fun hlt => hv.phase_lt (hu.phase_lt hlt)⟩, ?_⟩
    obtain ⟨hnow, htime⟩ := predictNextSync_gpuTime t'
      { sh with tk := (sh.tk.sync t.inst.peripheral).2, irqState := irq }
    exact ⟨hnow.trans hsheet.1, htime.trans hsheet.2⟩

/-- A clock other than the GPU's starts with a period of its own. -/
lemma sysClock_inPeriod (t : Timer) {c : Cycles} (hpos : 0 < c.toNat)
    (hle : c.toNat ≤ 8) :
    (FracCycles.fromCycles c).fp.toNat < 2 ^ 48 ∧
      InPeriod { t with period := .fromCycles c, phase := .fromCycles 0 } := by
  have hperiod : (FracCycles.fromCycles c).fp.toNat = 65536 * c.toNat :=
    FracCycles.fromCycles_toNat (by omega)
  have hlt : (FracCycles.fromCycles c).fp.toNat < 2 ^ 48 := by omega
  have hzero : (FracCycles.fromCycles 0).fp.toNat = 0 := by decide
  have hphase : (FracCycles.fromCycles 0).fp < (FracCycles.fromCycles c).fp := by
    rw [BitVec.lt_def]
    omega
  exact ⟨hlt, (inPeriod_iff (t := { t with period := .fromCycles c, phase := .fromCycles 0 })
    hlt).mpr hphase⟩

/-- A timer is reconfigured: on the horizontal synchronisation it takes its period and phase
from the GPU, on another clock it starts a period. -/
lemma reconfigure_inPeriod_iff {ratio : VideoClock → FracCycles} {d : Display}
    (hratio : Display.RatioInRange ratio) (h : t.reconfigure ratio sh d = .ok (t', sh')) :
    t'.inst = t.inst ∧ t'.clockSource = t.clockSource ∧ t'.period.fp.toNat < 2 ^ 48 ∧
      SameGpuTime sh sh' ∧ (t'.InPeriod ↔ (t.clockSource.clock t.inst = .ok .gpuHSync →
        d.Early ratio)) := by
  rw [reconfigure, bind_eq_ok] at h
  obtain ⟨clock, hclock, h⟩ := h
  cases clock with
  | sysClock =>
      obtain ⟨rfl, rfl⟩ := Prod.mk.inj (Except.ok.inj h)
      obtain ⟨hlt, hin⟩ := t.sysClock_inPeriod (c := 1) (by decide) (by decide)
      refine ⟨rfl, rfl, hlt, predictNextSync_gpuTime _ _, iff_of_true hin ?_⟩
      rw [hclock]
      nofun
  | sysClockDiv8 =>
      obtain ⟨rfl, rfl⟩ := Prod.mk.inj (Except.ok.inj h)
      obtain ⟨hlt, hin⟩ := t.sysClock_inPeriod (c := 8) (by decide) (by decide)
      refine ⟨rfl, rfl, hlt, predictNextSync_gpuTime _ _, iff_of_true hin ?_⟩
      rw [hclock]
      nofun
  | gpuDotClock => cases h
  | gpuHSync =>
      obtain ⟨rfl, rfl⟩ := Prod.mk.inj (Except.ok.inj h)
      refine ⟨rfl, rfl, Display.hsyncPeriod_lt, predictNextSync_gpuTime _ _, ?_⟩
      rw [inPeriod_iff (Display.hsyncPeriod_lt)]
      exact (Display.hsync_lt_iff hratio).trans ⟨fun hearly _ => hearly, fun h => h hclock⟩

lemma keeps_refl (t : Timer) : Keeps t t := ⟨rfl, rfl, rfl, id⟩

lemma Keeps.trans {u : Timer} (h : Keeps t t') (h' : Keeps t' u) : Keeps t u :=
  ⟨h'.inst.trans h.inst, h'.clockSource.trans h.clockSource, h'.period.trans h.period,
    fun hlt => h'.phase_lt (h.phase_lt hlt)⟩

lemma Keeps.inPeriod (h : Keeps t t') (hperiod : t.period.fp.toNat < 2 ^ 48) (ht : t.InPeriod) :
    t'.InPeriod :=
  (inPeriod_iff (h.period ▸ hperiod)).mpr (h.phase_lt ht.phase_lt)

/-- The clock source after a store to a register. -/
def sourceAfter (t : Timer) (offset val : U32) : ClockSource :=
  if (offset &&& 0xf).toNat = 4 then
    ⟨(((val.setWidth 16 : U16) >>> 8) &&& 3).setWidth 8⟩
  else t.clockSource

lemma setMode_frame {val : U16} (h : t.setMode val = .ok t') :
    t'.inst = t.inst ∧ t'.clockSource = ⟨((val >>> 8) &&& 3).setWidth 8⟩ := by
  obtain ⟨sync, -, h⟩ := bind_eq_ok.mp h
  obtain ⟨clockSource, hsource, h⟩ := bind_eq_ok.mp h
  dsimp only at h
  split_ifs at h
  obtain rfl := Except.ok.inj h
  rw [ClockSource.fromField] at hsource
  split_ifs at hsource
  exact ⟨rfl, (Except.ok.inj hsource).symm⟩

/-- The part of a store that writes the register. -/
def writeRegister (t : Timer) (offset : U32) (val : U16) : Outcome Timer :=
  match (offset &&& 0xf).toNat with
  | 0 => pure (t.setCounter val)
  | 4 => t.setMode val
  | 8 => pure (t.setTarget val)
  | _ => throw (.panic "Unhandled timer register")

lemma writeRegister_frame {offset val : U32}
    (h : t.writeRegister offset (val.setWidth 16) = .ok t') :
    t'.inst = t.inst ∧ t'.clockSource = t.sourceAfter offset val := by
  rw [writeRegister] at h
  rw [sourceAfter]
  split at h
  next heq =>
    obtain rfl := Except.ok.inj h
    rw [heq, if_neg (by norm_num)]
    exact ⟨rfl, rfl⟩
  next heq =>
    rw [heq, if_pos rfl]
    exact setMode_frame h
  next heq =>
    obtain rfl := Except.ok.inj h
    rw [heq, if_neg (by norm_num)]
    exact ⟨rfl, rfl⟩
  next => cases h

end Timer

namespace Timers

variable {ts ts' : Timers} {sh sh' : SharedState} {ratio : VideoClock → FracCycles}
  {d d' : Display}

/-- The video output at the current date depends on the time sheet of the GPU alone. -/
lemma sync_fst_congr (h : Timer.SameGpuTime sh sh') :
    (d.sync ratio sh').1 = (d.sync ratio sh).1 := by
  have helapsed : Display.elapsed sh' = Display.elapsed sh := by
    rw [Display.elapsed, h.1, h.2, Display.elapsed]
  rw [Display.sync_fst, helapsed, Display.sync_fst]

/-- The parts of a store. -/
lemma store_parts {width : Width} {offset val : U32}
    (h : ts.store ratio width sh d offset val = .ok (ts', sh', d')) :
    ∃ i t sh1 u needs v, instanceAt offset = .ok i ∧ (ts.timers i).sync sh = .ok (t, sh1) ∧
      t.writeRegister offset (val.setWidth 16) = .ok u ∧ u.needsGpu = .ok needs ∧
      u.reconfigure ratio (if needs then d.sync ratio sh1 else (d, sh1)).2
        (if needs then d.sync ratio sh1 else (d, sh1)).1 = .ok (v, sh') ∧
      ts' = ts.set i v ∧ d' = (if needs then d.sync ratio sh1 else (d, sh1)).1 := by
  rw [store] at h
  split_ifs at h with hwidth
  · cases h
  obtain ⟨i, hi, h⟩ := bind_eq_ok.mp h
  obtain ⟨⟨t, sh1⟩, hsync, h⟩ := bind_eq_ok.mp h
  have hwrite : (t.writeRegister offset (val.setWidth 16) >>= fun u => u.needsGpu >>= fun needs =>
      u.reconfigure ratio (if needs then d.sync ratio sh1 else (d, sh1)).2
        (if needs then d.sync ratio sh1 else (d, sh1)).1 >>= fun x =>
          pure (ts.set i x.1, x.2, (if needs then d.sync ratio sh1 else (d, sh1)).1)) =
        .ok (ts', sh', d') := by
    rw [← h, Timer.writeRegister]
    dsimp only
    generalize (offset &&& 0xf).toNat = register
    match register with
    | 0 | 4 | 8 => rfl
    | 1 | 2 | 3 | 5 | 6 | 7 => rfl
    | n + 9 => rfl
  obtain ⟨u, hu, hwrite⟩ := bind_eq_ok.mp hwrite
  obtain ⟨needs, hneeds, hwrite⟩ := bind_eq_ok.mp hwrite
  obtain ⟨⟨v, sh2⟩, hconf, hwrite⟩ := bind_eq_ok.mp hwrite
  obtain ⟨rfl, rfl, rfl⟩ : ts.set i v = ts' ∧ sh2 = sh' ∧ _ = d' := by
    simpa [Prod.mk.injEq] using Except.ok.inj hwrite
  exact ⟨i, t, sh1, u, needs, v, hi, hsync, hu, hneeds, hconf, rfl, rfl⟩

/-- A store synchronises a timer, writes its register and reconfigures it. -/
lemma store_spec (hratio : Display.RatioInRange ratio) {width : Width} {offset val : U32}
    (h : ts.store ratio width sh d offset val = .ok (ts', sh', d')) :
    ∃ i, instanceAt offset = .ok i ∧ (∀ j, j ≠ i → ts'.timers j = ts.timers j) ∧
      (ts'.timers i).inst = (ts.timers i).inst ∧ (ts'.timers i).period.fp.toNat < 2 ^ 48 ∧
      ((ts'.timers i).InPeriod ↔
        (((ts.timers i).sourceAfter offset val).clock (ts.timers i).inst = .ok .gpuHSync →
          (d.sync ratio sh).1.Early ratio)) := by
  obtain ⟨i, t, sh1, u, needs, v, hi, hsync, hu, hneeds, hconf, rfl, rfl⟩ := store_parts h
  obtain ⟨hkeeps, htime⟩ := Timer.sync_keeps hsync
  obtain ⟨huinst, husource⟩ := Timer.writeRegister_frame hu
  obtain ⟨hinst, -, hperiod, -, hiff⟩ := Timer.reconfigure_inPeriod_iff hratio hconf
  have hsource : u.clockSource = (ts.timers i).sourceAfter offset val := by
    rw [husource, Timer.sourceAfter, Timer.sourceAfter, hkeeps.clockSource]
  have hset : (ts.set i v).timers i = v := Function.update_self ..
  refine ⟨i, hi, fun j hj => Function.update_of_ne hj .., ?_, ?_, ?_⟩
  · rw [hset, hinst, huinst, hkeeps.inst]
  · rwa [hset]
  · rw [hset, hiff, hsource, huinst, hkeeps.inst]
    refine forall_congr' fun hclock => ?_
    -- on the horizontal synchronisation the GPU has been brought up to date
    have htrue : needs = true := by
      rw [Timer.needsGpu, hsource, huinst, hkeeps.inst, hclock, ok_bind] at hneeds
      exact (Except.ok.inj hneeds).symm
    rw [htrue, if_pos rfl, sync_fst_congr htime]

/-- The timer `t` has been synchronised and reconfigured if it counts lines, with the beam early
in its line or not. -/
structure Rearmed (early : Prop) (t t' : Timer) : Prop where
  inst : t'.inst = t.inst
  period_lt : t.period.fp.toNat < 2 ^ 48 → t'.period.fp.toNat < 2 ^ 48
  inPeriod_iff : t.InPeriod →
    (t'.InPeriod ↔ (t.clockSource.clock t.inst = .ok .gpuHSync → early))

lemma Rearmed.congr {early early' : Prop} {t t' : Timer} (h : Rearmed early t t')
    (hiff : early ↔ early') : Rearmed early' t t' :=
  ⟨h.inst, h.period_lt, fun ht => (h.inPeriod_iff ht).trans (imp_congr_right fun _ => hiff)⟩

lemma rearmed_refl {early : Prop} (h : early) (t : Timer) : Rearmed early t t :=
  ⟨rfl, id, fun ht => iff_of_true ht fun _ => h⟩

/-- The GPU tells the timer `i` about new video timings. -/
lemma timingsChanged_spec (hratio : Display.RatioInRange ratio) {i : TimerId}
    (h : timingsChanged ratio d (ts, sh) i = .ok (ts', sh')) :
    (∀ j, j ≠ i → ts'.timers j = ts.timers j)
      ∧ Rearmed (d.Early ratio) (ts.timers i) (ts'.timers i) := by
  rw [timingsChanged] at h
  obtain ⟨needs, hneeds, h⟩ := bind_eq_ok.mp h
  obtain ⟨clock, hclock, hneeds⟩ := bind_eq_ok.mp hneeds
  obtain rfl := Except.ok.inj hneeds
  cases hgpu : clock.needsGpu with
  | false =>
      rw [hgpu] at h
      obtain ⟨rfl, rfl⟩ := Prod.mk.inj (Except.ok.inj h)
      refine ⟨fun _ _ => rfl, rfl, id, fun hin => iff_of_true hin fun hsync => ?_⟩
      rw [hclock] at hsync
      rw [Except.ok.inj hsync] at hgpu
      cases hgpu
  | true =>
      rw [hgpu] at h
      obtain ⟨⟨t, sh1⟩, hsync, h⟩ := bind_eq_ok.mp h
      obtain ⟨⟨u, sh2⟩, hconf, h⟩ := bind_eq_ok.mp h
      obtain ⟨rfl, rfl⟩ := Prod.mk.inj (Except.ok.inj h)
      obtain ⟨hkeeps, -⟩ := Timer.sync_keeps hsync
      obtain ⟨hinst, -, hperiod, -, hiff⟩ := Timer.reconfigure_inPeriod_iff hratio hconf
      have hset : (ts.set i u).timers i = u := Function.update_self ..
      rw [hkeeps.clockSource, hkeeps.inst] at hiff
      refine ⟨fun j hj => Function.update_of_ne hj .., ?_⟩
      rw [hset]
      exact ⟨hinst.trans hkeeps.inst, fun _ => hperiod, fun _ => hiff⟩

/-- The timers that count lines take their phase from the beam. -/
lemma videoTimingsChanged_spec (hratio : Display.RatioInRange ratio)
    (h : ts.videoTimingsChanged ratio sh d = .ok (ts', sh')) (i : TimerId) :
    Rearmed (d.Early ratio) (ts.timers i) (ts'.timers i) := by
  rw [videoTimingsChanged, List.foldlM_cons] at h
  obtain ⟨⟨ts0, sh0⟩, h0, h⟩ := bind_eq_ok.mp h
  rw [List.foldlM_cons] at h
  obtain ⟨⟨ts1, sh1⟩, h1, h⟩ := bind_eq_ok.mp h
  rw [List.foldlM_cons] at h
  obtain ⟨⟨ts2, sh2⟩, h2, h⟩ := bind_eq_ok.mp h
  obtain ⟨rfl, rfl⟩ := Prod.mk.inj (Except.ok.inj h)
  obtain ⟨hother0, hre0⟩ := timingsChanged_spec hratio h0
  obtain ⟨hother1, hre1⟩ := timingsChanged_spec hratio h1
  obtain ⟨hother2, hre2⟩ := timingsChanged_spec hratio h2
  cases i with
  | timer0 => rwa [hother2 _ (by decide), hother1 _ (by decide)]
  | timer1 => rwa [hother2 _ (by decide), ← hother0 _ (by decide)]
  | timer2 => rwa [← hother0 _ (by decide), ← hother1 _ (by decide)]

lemma syncDue_keeps {i : TimerId} (h : syncDue (ts, sh) i = .ok (ts', sh')) (j : TimerId) :
    Timer.Keeps (ts.timers j) (ts'.timers j) := by
  rw [syncDue] at h
  split_ifs at h with hdue
  · obtain ⟨⟨t, sh1⟩, hsync, h⟩ := bind_eq_ok.mp h
    obtain ⟨rfl, rfl⟩ := Prod.mk.inj (Except.ok.inj h)
    by_cases hj : j = i
    · subst hj
      rw [show (ts.set j t).timers j = t from Function.update_self ..]
      exact (Timer.sync_keeps hsync).1
    · rw [show (ts.set i t).timers j = ts.timers j from Function.update_of_ne hj ..]
      exact Timer.keeps_refl _
  · obtain ⟨rfl, rfl⟩ := Prod.mk.inj (Except.ok.inj h)
    exact Timer.keeps_refl _

lemma foldlM_syncDue_keeps {l : List TimerId} (h : l.foldlM syncDue (ts, sh) = .ok (ts', sh'))
    (j : TimerId) : Timer.Keeps (ts.timers j) (ts'.timers j) := by
  induction l generalizing ts sh with
  | nil =>
      obtain ⟨rfl, rfl⟩ := Prod.mk.inj (Except.ok.inj h)
      exact Timer.keeps_refl _
  | cons i l ih =>
      rw [List.foldlM_cons] at h
      obtain ⟨⟨ts1, sh1⟩, h1, h⟩ := bind_eq_ok.mp h
      exact (syncDue_keeps h1 j).trans (ih h)

lemma load_keeps {width : Width} {offset val : U32}
    (h : ts.load width sh offset = .ok (val, ts', sh')) (j : TimerId) :
    Timer.Keeps (ts.timers j) (ts'.timers j) := by
  rw [load] at h
  split_ifs at h with hwidth
  · cases h
  obtain ⟨i, -, h⟩ := bind_eq_ok.mp h
  obtain ⟨⟨t, sh1⟩, hsync, h⟩ := bind_eq_ok.mp h
  -- each register leaves the timer as it was synchronised, but for its flags
  obtain ⟨u, hu, hset⟩ : ∃ u, Timer.Keeps t u ∧ ts' = ts.set i u := by
    dsimp only at h
    split at h
    next =>
      obtain ⟨-, rfl, -⟩ := Except.ok.inj h
      exact ⟨t, t.keeps_refl, rfl⟩
    next =>
      obtain ⟨-, rfl, -⟩ := Except.ok.inj h
      exact ⟨t.mode.2, ⟨rfl, rfl, rfl, id⟩, rfl⟩
    next =>
      obtain ⟨-, rfl, -⟩ := Except.ok.inj h
      exact ⟨t, t.keeps_refl, rfl⟩
    next => cases h
  subst hset
  by_cases hj : j = i
  · subst hj
    rw [show (ts.set j u).timers j = u from Function.update_self ..]
    exact (Timer.sync_keeps hsync).1.trans hu
  · rw [show (ts.set i u).timers j = ts.timers j from Function.update_of_ne hj ..]
    exact Timer.keeps_refl _

end Timers

/-! ### The GPU -/

namespace Display

variable {ratio : VideoClock → FracCycles} {d : Display} {sh : SharedState}

/-- A second synchronisation brings the position into a line of the current length. -/
lemma linePos_advance_zero (ratio : VideoClock → FracCycles) (d : Display) :
    (d.advance ratio 0).linePos = d.linePos % (65536 * d.ticks) := by
  obtain ⟨-, -, -, -, -, -, hphase, htick⟩ := advance_frame ratio d 0
  have hp := d.gpuClockPhase.isLt
  have ht := d.displayLineTick.isLt
  have hticks : (d.vmodeTimings.1.setWidth 64).toNat = d.ticks := setWidth_toNat _
  have hlt := d.ticks_lt
  have hmod := Nat.mod_lt d.displayLineTick.toNat d.ticks_pos
  have htotal : (d.total ratio 0).toNat = d.gpuClockPhase.toNat := by
    rw [total, show (0 : Cycles) * (ratio d.standard).fp = 0#64 from BitVec.zero_mul,
      BitVec.add_zero, setWidth_toNat]
  have hline : (d.lineTick ratio 0).toNat = d.displayLineTick.toNat := by
    rw [lineTick, BitVec.toNat_add, BitVec.toNat_shift, htotal, setWidth_toNat]
    omega
  have htick' : (d.advance ratio 0).displayLineTick.toNat = d.displayLineTick.toNat % d.ticks := by
    rw [htick, BitVec.toNat_setWidth, BitVec.toNat_umod, hline, hticks,
      Nat.mod_eq_of_lt (by omega)]
  have hphase' : (d.advance ratio 0).gpuClockPhase.toNat = d.gpuClockPhase.toNat := by
    rw [hphase, BitVec.toNat_setWidth, htotal, Nat.mod_eq_of_lt (by omega)]
  have hdiv : d.linePos / 65536 = d.displayLineTick.toNat := by rw [linePos]; omega
  have hrem : d.linePos % 65536 = d.gpuClockPhase.toNat := by rw [linePos]; omega
  rw [Nat.mod_mul, hdiv, hrem, linePos, htick', hphase', Nat.add_comm]

/-- The position of the beam after a command that may change the length of a line, at the date of
the last synchronisation. -/
lemma sync_sync_early_iff {d' : Display} (h : elapsed sh = 0) (hd : d'.standard = d.standard)
    (hpos : d'.linePos = d.linePos) :
    (d'.sync ratio sh).1.Early ratio ↔
      EarlyIn (d.speed ratio) d'.ticks (d.linePos % (65536 * d'.ticks)) := by
  obtain ⟨hticks, -, -, hspeed, -⟩ := sync_frame ratio d' sh
  have hlinePos : (d'.sync ratio sh).1.linePos = d'.linePos % (65536 * d'.ticks) := by
    rw [sync_fst, h]
    exact linePos_advance_zero ratio d'
  rw [Early, hticks, hspeed, hlinePos, hpos, speed, hd, speed]

/-- The beam at the start of a line is early enough. -/
lemma earlyIn_of_lt {R L p : ℕ} (hR : R ≤ 2 ^ 17) (hL : 8 ≤ L) (hp : p < 65536) :
    EarlyIn R L p := by
  have hprod : p * R / 2 ^ 16 + 1 ≤ 2 ^ 17 + 1 := by
    have hmul : p * R ≤ 65536 * 2 ^ 17 := Nat.mul_le_mul hp.le hR
    omega
  calc (p * R / 2 ^ 16 + 1) * R ≤ (2 ^ 17 + 1) * 2 ^ 17 := Nat.mul_le_mul hprod hR
    _ ≤ 8 * 2 ^ 32 := by norm_num
    _ ≤ L * 2 ^ 32 := Nat.mul_le_mul_right _ hL

end Display

namespace Gpu

variable {ratio : VideoClock → FracCycles} {g g' : Gpu} {sh sh' : SharedState}
  {ts ts' : Timers} {calls : List Call}

/-- The ticks of a line in the mode that a GP1 display mode command selects. -/
def modeTicks (val : U32) : ℕ := if val &&& 0x8 ≠ 0 then 3404 else 3412

/-- The video output that a reset synchronises. -/
lemma gp1Reset_display (g : Gpu) (ratio : VideoClock → FracCycles) (sh : SharedState) :
    ∃ d : Display, (g.gp1Reset ratio sh).1.toDisplay = (d.sync ratio sh).1 ∧
      d.displayLineTick = 0 ∧ 8 ≤ d.ticks :=
  ⟨_, rfl, rfl, (by decide : 8 ≤ 3412)⟩

/-- A reset puts the beam at the start of a line. -/
lemma gp1Reset_early (hratio : Display.RatioInRange ratio) (hsync : Display.elapsed sh = 0) :
    (g.gp1Reset ratio sh).1.toDisplay.Early ratio := by
  obtain ⟨d, heq, htick, hticks⟩ := g.gp1Reset_display ratio sh
  have hphase := d.gpuClockPhase.isLt
  have hpos : d.linePos < 65536 := by
    rw [Display.linePos, htick]
    simpa using hphase
  rw [heq, Display.sync_sync_early_iff hsync rfl rfl]
  exact Display.earlyIn_of_lt (d.speed_bounds hratio).2 hticks ((Nat.mod_le _ _).trans_lt hpos)

/-- The video output that a display mode command synchronises. -/
lemma gp1DisplayMode_display {val : U32} (h : g.gp1DisplayMode ratio sh val = .ok (g', sh')) :
    ∃ d : Display, g'.toDisplay = (d.sync ratio sh).1 ∧ d.ticks = modeTicks val ∧
      d.standard = g.standard ∧ d.linePos = g.linePos := by
  by_cases hbad : val &&& 0x80 ≠ 0
  · rw [gp1DisplayMode, if_pos hbad] at h
    cases h
  · rw [gp1DisplayMode, if_neg hbad, pure_eq_ok] at h
    refine ⟨_, (congrArg (fun x : Gpu × SharedState => x.1.toDisplay) (Except.ok.inj h)).symm, ?_,
      rfl, rfl⟩
    rw [Display.ticks, Display.vmodeTimings, modeTicks]
    split_ifs <;> rfl

lemma gp1DisplayMode_early_iff (hsync : Display.elapsed sh = 0) {val : U32}
    (h : g.gp1DisplayMode ratio sh val = .ok (g', sh')) :
    g'.toDisplay.Early ratio ↔ Display.EarlyIn (g.speed ratio) (modeTicks val)
      (g.linePos % (65536 * modeTicks val)) := by
  obtain ⟨d, heq, hticks, hstandard, hpos⟩ := gp1DisplayMode_display h
  rw [heq, Display.sync_sync_early_iff hsync hstandard hpos, hticks]

/-- What a GP1 command does to the timers: a reset and a change of the display mode rearm those
that count lines, the first one at the start of a line; the other commands leave them alone. -/
lemma gp1_timers (hratio : Display.RatioInRange ratio) (hsync : Display.elapsed sh = 0) {val : U32}
    (h : g.gp1 ratio sh ts val = .ok (g', sh', ts', calls)) (i : TimerId) :
    Timers.Rearmed (((val >>> 24) &&& 0xff).toNat = 8 → Display.EarlyIn (g.speed ratio)
      (modeTicks val) (g.linePos % (65536 * modeTicks val))) (ts.timers i) (ts'.timers i) := by
  unfold gp1 at h
  split at h
  case h_1 heq =>
    obtain ⟨⟨ts1, sh1⟩, hchanged, h⟩ := bind_eq_ok.mp h
    obtain ⟨-, -, rfl, -⟩ := Except.ok.inj h
    exact (Timers.videoTimingsChanged_spec hratio hchanged i).congr
      (iff_of_true (gp1Reset_early hratio hsync) (by omega))
  case h_9 heq =>
    obtain ⟨⟨g1, sh1⟩, hmode, h⟩ := bind_eq_ok.mp h
    obtain ⟨⟨ts1, sh2⟩, hchanged, h⟩ := bind_eq_ok.mp h
    obtain ⟨-, -, rfl, -⟩ := Except.ok.inj h
    refine (Timers.videoTimingsChanged_spec hratio hchanged i).congr ?_
    rw [gp1DisplayMode_early_iff hsync hmode]
    exact ⟨fun hearly _ => hearly, fun hearly => hearly heq⟩
  case h_10 heq =>
    obtain ⟨g1, -, h⟩ := bind_eq_ok.mp h
    obtain ⟨-, -, rfl, -⟩ := Except.ok.inj h
    exact Timers.rearmed_refl (by omega) _
  case h_11 => cases h
  all_goals
    obtain ⟨-, -, rfl, -⟩ := Except.ok.inj h
    exact Timers.rearmed_refl (by omega) _

/-- What an access to the registers of the GPU does to the timers. -/
lemma store_timers (hratio : Display.RatioInRange ratio) {width : Width} {offset val : U32}
    (h : g.store ratio sh ts width offset val = .ok (g', sh', ts', calls)) (i : TimerId) :
    Timers.Rearmed (offset.toNat = 4 → ((val >>> 24) &&& 0xff).toNat = 8 →
      Display.EarlyIn (g.speed ratio) (modeTicks val)
        ((g.sync ratio sh).1.linePos % (65536 * modeTicks val))) (ts.timers i) (ts'.timers i) := by
  have hspeed : (g.sync ratio sh).1.speed ratio = g.speed ratio :=
    (Display.sync_frame ratio g.toDisplay sh).2.2.2.1
  have hsync : Display.elapsed (g.sync ratio sh).2 = 0 := by
    have htick := Display.elapsed_sync_tick ratio g.toDisplay sh 0
    rw [Display.elapsed_tick] at htick
    exact (BitVec.add_zero _).symm.trans htick
  generalize hg : g.sync ratio sh = synced at hspeed hsync
  rw [store] at h
  by_cases hwidth : width.size ≠ 4
  · rw [if_pos hwidth] at h
    cases h
  rw [if_neg hwidth, hg] at h
  dsimp only at h
  split at h
  next heq =>
    obtain ⟨⟨g1, cs⟩, -, h⟩ := bind_eq_ok.mp h
    obtain ⟨-, -, rfl, -⟩ := Except.ok.inj h
    exact Timers.rearmed_refl (by omega) _
  next heq =>
    refine (gp1_timers hratio hsync h i).congr ?_
    rw [hspeed]
    exact ⟨fun hearly _ => hearly, fun hearly => hearly heq⟩
  next => cases h

end Gpu

/-! ### Runs -/

/-- The timers and the GPU, whose lines they can count. -/
structure Clocks where
  timers : Timers
  gpu : Gpu
  sh : SharedState

namespace Clocks

def new (standard : VideoClock) : Clocks := ⟨.new, .new standard, .new⟩

/-- What happens to them: time passes, they are synchronised, or their registers are accessed. -/
inductive Op where
  | tick (cycles : Cycles)
  | syncTimers
  | loadTimer (width : Width) (offset : U32)
  | storeTimer (width : Width) (offset val : U32)
  | syncGpu
  | loadGpu (width : Width) (offset : U32)
  | storeGpu (width : Width) (offset val : U32)
  deriving DecidableEq, Repr

variable (ratio : VideoClock → FracCycles)

def perform (s : Clocks) : Op → Outcome Clocks
  | .tick cycles => pure { s with sh := s.sh.tick cycles }
  | .syncTimers => do
      let (timers, sh) ← s.timers.sync s.sh
      pure { s with timers := timers, sh := sh }
  | .loadTimer width offset => do
      let (_, timers, sh) ← s.timers.load width s.sh offset
      pure { s with timers := timers, sh := sh }
  | .storeTimer width offset val => do
      let (timers, sh, display) ← s.timers.store ratio width s.sh s.gpu.toDisplay offset val
      pure { timers := timers, gpu := { s.gpu with toDisplay := display }, sh := sh }
  | .syncGpu =>
      let (gpu, sh) := s.gpu.sync ratio s.sh
      pure { s with gpu := gpu, sh := sh }
  | .loadGpu width offset => do
      let (_, gpu, sh) ← s.gpu.load ratio s.sh width offset
      pure { s with gpu := gpu, sh := sh }
  | .storeGpu width offset val => do
      let (gpu, sh, timers, _) ← s.gpu.store ratio s.sh s.timers width offset val
      pure { timers := timers, gpu := gpu, sh := sh }

/-- Every phase is within its period. -/
def InPeriod (s : Clocks) : Prop := ∀ i, (s.timers.timers i).InPeriod

/-- What every operation keeps: the timers know their numbers, and their periods leave room for a
countdown. -/
def Sound (s : Clocks) : Prop :=
  ∀ i, (s.timers.timers i).inst = i ∧ (s.timers.timers i).period.fp.toNat < 2 ^ 48

/-- The operation does not find the beam too far on: where it reconfigures a timer that counts
lines, the position of the beam at that date is one whose phase is below the period. -/
def EarlyFor (s : Clocks) : Op → Prop
  | .storeTimer _ offset val => ∀ i, Timers.instanceAt offset = .ok i →
      ((s.timers.timers i).sourceAfter offset val).clock i = .ok .gpuHSync →
        (s.gpu.sync ratio s.sh).1.Early ratio
  | .storeGpu _ offset val => offset.toNat = 4 → ((val >>> 24) &&& 0xff).toNat = 8 →
      ∀ i, (s.timers.timers i).clockSource.clock i = .ok .gpuHSync →
        Display.EarlyIn (s.gpu.speed ratio) (Gpu.modeTicks val)
          ((s.gpu.sync ratio s.sh).1.linePos % (65536 * Gpu.modeTicks val))
  | _ => True

variable {ratio} {s s' : Clocks}

lemma sound_of_keeps (hs : s.Sound)
    (h : ∀ i, Timer.Keeps (s.timers.timers i) (s'.timers.timers i)) : s'.Sound := fun i =>
  ⟨(h i).inst.trans (hs i).1, (h i).period ▸ (hs i).2⟩

lemma inPeriod_of_keeps (hs : s.Sound) (hin : s.InPeriod)
    (h : ∀ i, Timer.Keeps (s.timers.timers i) (s'.timers.timers i)) : s'.InPeriod := fun i =>
  (h i).inPeriod (hs i).2 (hin i)

/-- The operations that do not reconfigure a timer keep them all. -/
lemma perform_keeps {op : Op} (hop : ∀ width offset val, op ≠ .storeTimer width offset val)
    (hop' : ∀ width offset val, op ≠ .storeGpu width offset val)
    (h : s.perform ratio op = .ok s') (i : TimerId) :
    Timer.Keeps (s.timers.timers i) (s'.timers.timers i) := by
  cases op with
  | tick cycles =>
      obtain rfl := Except.ok.inj h
      exact Timer.keeps_refl _
  | syncTimers =>
      obtain ⟨⟨ts, sh⟩, hsync, h⟩ := bind_eq_ok.mp h
      obtain rfl := Except.ok.inj h
      exact Timers.foldlM_syncDue_keeps hsync i
  | loadTimer width offset =>
      obtain ⟨⟨val, ts, sh⟩, hload, h⟩ := bind_eq_ok.mp h
      obtain rfl := Except.ok.inj h
      exact Timers.load_keeps hload i
  | storeTimer width offset val => exact absurd rfl (hop width offset val)
  | syncGpu =>
      obtain rfl := Except.ok.inj h
      exact Timer.keeps_refl _
  | loadGpu width offset =>
      obtain ⟨⟨val, g, sh⟩, -, h⟩ := bind_eq_ok.mp h
      obtain rfl := Except.ok.inj h
      exact Timer.keeps_refl _
  | storeGpu width offset val => exact absurd rfl (hop' width offset val)

/-- The step lemma: an operation keeps the phases within the periods exactly if it does not find
the beam too far on. -/
lemma perform_inPeriod_iff (hratio : Display.RatioInRange ratio) (hs : s.Sound) {op : Op}
    (h : s.perform ratio op = .ok s') :
    s'.Sound ∧ (s.InPeriod → (s'.InPeriod ↔ s.EarlyFor ratio op)) := by
  have hother (hop : ∀ width offset val, op ≠ .storeTimer width offset val)
      (hop' : ∀ width offset val, op ≠ .storeGpu width offset val) :
      s'.Sound ∧ (s.InPeriod → s'.InPeriod) :=
    ⟨sound_of_keeps hs (perform_keeps hop hop' h),
      fun hin => inPeriod_of_keeps hs hin (perform_keeps hop hop' h)⟩
  cases op with
  | storeTimer width offset val =>
      obtain ⟨⟨ts, sh, d⟩, hstore, h⟩ := bind_eq_ok.mp h
      obtain rfl := Except.ok.inj h
      obtain ⟨i, hi, hothers, hinst, hperiod, hiff⟩ := Timers.store_spec hratio hstore
      rw [(hs i).1] at hinst hiff
      refine ⟨fun j => ?_, fun hin => ⟨fun hall j hj => ?_, fun hearly j => ?_⟩⟩
      · by_cases hj : j = i
        · subst hj
          exact ⟨hinst, hperiod⟩
        · dsimp only
          rw [hothers j hj]
          exact hs j
      · obtain rfl := Except.ok.inj (hi.symm.trans hj)
        exact hiff.mp (hall i)
      · by_cases hj : j = i
        · subst hj
          exact hiff.mpr (hearly j hi)
        · dsimp only
          rw [hothers j hj]
          exact hin j
  | storeGpu width offset val =>
      obtain ⟨⟨g, sh, ts, calls⟩, hstore, h⟩ := bind_eq_ok.mp h
      obtain rfl := Except.ok.inj h
      have hre := Gpu.store_timers hratio hstore
      refine ⟨fun i => ⟨(hre i).inst.trans (hs i).1, (hre i).period_lt (hs i).2⟩, fun hin => ?_⟩
      have hiff (i : TimerId) := (hre i).inPeriod_iff (hin i)
      simp only [(hs _).1] at hiff
      constructor
      · intro hall hoffset hcommand i hclock
        exact (hiff i).mp (hall i) hclock hoffset hcommand
      · intro hearly i
        exact (hiff i).mpr fun hclock hoffset hcommand => hearly hoffset hcommand i hclock
  | _ =>
      obtain ⟨hsound, hkept⟩ := hother nofun nofun
      exact ⟨hsound, fun hin => iff_of_true (hkept hin) trivial⟩

lemma sound_new (standard : VideoClock) : (new standard).Sound := by
  intro i
  have hperiod : (FracCycles.fromCycles 1).fp.toNat < 2 ^ 48 := by decide
  exact ⟨rfl, hperiod⟩

lemma inPeriod_new (standard : VideoClock) : (new standard).InPeriod := by
  intro i
  have hphase : (FracCycles.fromCycles 0).fp < (FracCycles.fromCycles 1).fp := by decide
  exact (Timer.inPeriod_iff (sound_new standard i).2).mpr hphase

/-- **The phase of a timer.**  The phase of the horizontal synchronisation is below its period
exactly where the beam is near the start of its line, and the phases stay within the periods along
a run from power-on exactly if no operation that reconfigures timer 1 on that clock finds the beam
beyond that point. -/
theorem inPeriod_along_iff (hratio : Display.RatioInRange ratio) :
    (∀ d : Display, (d.hsyncPhase ratio).fp < (d.hsyncPeriod ratio).fp ↔ d.Early ratio)
      ∧ ∀ standard ops,
        Run.Along (Run.next (perform ratio)) (Run.Holds InPeriod) (.ok (new standard)) ops
          ↔ Run.Steps (Run.next (perform ratio)) (Run.Taken (perform ratio) (EarlyFor ratio))
            (.ok (new standard)) ops := by
  refine ⟨fun d => Display.hsync_lt_iff hratio, fun standard ops => ?_⟩
  refine Run.along_next_iff (fun s op s' hs h => ?_) (fun s op s' hs hin h => ?_)
    (sound_new standard) (inPeriod_new standard) ops
  · exact (perform_inPeriod_iff hratio hs h).1
  · exact (perform_inPeriod_iff hratio hs h).2 hin

/-- Timer 1 is set to count lines at the start of a line, and the phases stay within the
periods. -/
theorem inPeriod_along_iff_early :
    Display.RatioInRange Display.clockRatio
      ∧ Run.Along (Run.next (perform Display.clockRatio)) (Run.Holds InPeriod) (.ok (new .ntsc))
        [.tick 10, .storeTimer .halfWord 0x14 0x100] := by
  have hratio : Display.RatioInRange Display.clockRatio := by
    intro standard
    cases standard <;> decide
  have hearly : ((new .ntsc).gpu.sync Display.clockRatio ((new .ntsc).sh.tick 10)).1.Early
      Display.clockRatio := by
    change Display.EarlyIn _ _ _
    decide +kernel
  refine ⟨hratio, ((inPeriod_along_iff hratio).2 _ _).mpr ⟨fun _ _ _ _ => trivial, ?_, trivial⟩⟩
  intro c c' hc _ i hi hclock
  obtain rfl := Except.ok.inj hc
  exact hearly

/-- Timer 1 is set to count lines in the middle of a line, and its phase exceeds its period. -/
theorem inPeriod_exceeded :
    ¬Run.Along (Run.next (perform Display.clockRatio)) (Run.Holds InPeriod) (.ok (new .ntsc))
        [.tick 1500, .storeTimer .halfWord 0x14 0x100] := by
  have hstore : ∃ s, ((new .ntsc).perform Display.clockRatio (.tick 1500)).bind
        (fun s => s.perform Display.clockRatio (.storeTimer .halfWord 0x14 0x100)) = .ok s
      ∧ ¬(s.timers.timers .timer1).phase.fp < (s.timers.timers .timer1).period.fp := by
    refine ⟨_, rfl, ?_⟩
    decide +kernel
  obtain ⟨s, hs, hphase⟩ := hstore
  rintro ⟨-, -, h⟩
  exact hphase (h s hs .timer1).phase_lt

end Clocks

end Rustation
