import Rustation.Console.Events

/-!
The scheduler misses no peripheral but the CD-ROM.

The CPU compares one cached date with the clock before each instruction, and only
looks at the time sheets when it has passed (`sync_pending` and `update_sync_pending`
of `timekeeper.rs`).

* `TimeKeeper.Attended`: a peripheral is not due, or has been synchronised at this very
  date;
* `Timed`: the cached date is not later than the dates of the sheets, and each timer
  uses the sheet of its own.  Every event keeps it (`Event.timed`);
* `sync_attends`: the synchronisation attends every peripheral that is due;
* `Cpu.attended_of_run`: at every instruction of every run of the console, after the
  synchronisation, every peripheral but the CD-ROM is attended.
-/

namespace Rustation

open Fallible SharedState

/-! ### Attended peripherals -/

/-- Not due, or synchronised at this very date. -/
def TimeKeeper.Attended (tk : TimeKeeper) (p : Peripheral) : Prop :=
  tk.needsSync p = false ∨ (tk.timesheets p).lastSync = tk.now

namespace SharedState

variable {own : Peripheral → Prop} {sh sh' : SharedState} {p : Peripheral}

/-- The others do not make a peripheral due. -/
lemma Served.attended (h : Served own sh sh') (hp : ¬own p) (ha : sh.tk.Attended p) :
    sh'.tk.Attended p := by
  rw [TimeKeeper.Attended, TimeKeeper.needsSync, h.sheet hp, h.now]
  exact ha

end SharedState

namespace Timers

variable {ts ts' : Timers} {sh sh' : SharedState} {i j : TimerId}

/-- A branch of the synchronisation attends its timer and leaves the others alone. -/
lemma syncDue_attends (hinst : (ts.timers i).inst = i) (h : syncDue (ts, sh) i = .ok (ts', sh')) :
    sh'.tk.Attended i.peripheral ∧ Served (Peripheral.Only i.peripheral) sh sh' := by
  unfold syncDue at h
  dsimp only at h
  split_ifs at h with hdue
  · obtain ⟨⟨t, s⟩, hsync, heq⟩ := bind_eq_ok.mp h
    cases heq
    have hsynced := Timer.served_synced hsync
    have hserved := Timer.served_sync hsync
    rw [hinst] at hsynced hserved
    exact ⟨.inr hsynced.lastSync_synced, hserved⟩
  · cases h
    exact ⟨.inl (Bool.eq_false_iff.mpr hdue), .refl sh⟩

lemma peripheral_ne (h : j ≠ i) : ¬Peripheral.Only i.peripheral j.peripheral := by
  intro heq
  cases i <;> cases j <;> first | exact h rfl | cases heq

/-- The synchronisation attends the timers of the list, and keeps the others attended. -/
lemma foldlM_syncDue_attends {l : List TimerId} (hinst : ∀ i, (ts.timers i).inst = i)
    (h : l.foldlM syncDue (ts, sh) = .ok (ts', sh'))
    (hj : j ∈ l ∨ sh.tk.Attended j.peripheral) : sh'.tk.Attended j.peripheral := by
  induction l generalizing ts sh with
  | nil =>
      cases h
      exact hj.resolve_left List.not_mem_nil
  | cons i l ih =>
      rw [List.foldlM_cons] at h
      obtain ⟨⟨ts1, sh1⟩, hfirst, hrest⟩ := bind_eq_ok.mp h
      obtain ⟨hattended, hserved⟩ := syncDue_attends (hinst i) hfirst
      have hinst1 (k : TimerId) : (ts1.timers k).inst = k :=
        (syncDue_keeps hfirst k).inst.trans (hinst k)
      by_cases hji : j = i
      · subst hji
        exact ih hinst1 hrest (.inr hattended)
      · refine ih hinst1 hrest (hj.imp (fun hmem => ?_) (hserved.attended (peripheral_ne hji)))
        exact (List.mem_cons.mp hmem).resolve_left hji

lemma sync_attends (hinst : ∀ i, (ts.timers i).inst = i) (h : ts.sync sh = .ok (ts', sh')) :
    sh'.tk.Attended j.peripheral :=
  foldlM_syncDue_attends hinst h (.inl (by cases j <;> simp))

end Timers

/-! ### The invariant -/

namespace Wiring

variable {I : CdImage} {μ : Type} {w : Wiring μ} {C : Prop} {p p' : Peripherals I μ}
  {sh sh' : SharedState} {n : ℕ} (i : TimerId)

/-- A timer keeps the sheet it uses. -/
lemma Call.inst (hratio : Display.RatioInRange w.ratio) (h : w.Call C p sh n p' sh') :
    (p'.timers.timers i).inst = (p.timers.timers i).inst := by
  cases h with
  | gpuStore _ hstore => exact (Gpu.store_timers hratio hstore i).inst
  | timersSync hsync => exact (Timers.foldlM_syncDue_keeps hsync i).inst
  | timersLoad hload => exact (Timers.load_keeps hload i).inst
  | timersStore hstore =>
      obtain ⟨k, -, hothers, hinst, -, -⟩ := Timers.store_spec hratio hstore
      by_cases hik : i = k
      · subst hik
        exact hinst
      · exact congrArg Timer.inst (hothers i hik)
  | _ => rfl

/-- A cached date that is valid stays so. -/
lemma Call.cached (h : w.Call C p sh n p' sh') {q : Peripheral} (hq : q ≠ .cdRom)
    (hc : sh.tk.CachedFor q) : sh'.tk.CachedFor q := by
  rcases h.served with ⟨own, hserved⟩ | hdelayed
  · exact hserved.cached hq hc
  · rw [hdelayed.tk]
    exact hc

end Wiring

namespace Interconnect

variable {I : CdImage} {μ : Type} {w : Wiring μ} {a : Access}
  {inter inter' : Interconnect (Peripherals I μ)} {sh sh' : SharedState}
  {s s' : Board I μ}

/-- The dates of the console are in order. -/
structure Timed (s : Board I μ) : Prop where
  inst : ∀ i, (s.1.devices.timers.timers i).inst = i
  cached : ∀ p, p ≠ .cdRom → s.2.tk.CachedFor p

/-- The step lemma. -/
lemma Event.timed (hratio : Display.RatioInRange w.ratio) {n : ℕ} (h : Event w True a s.1 s.2 n s')
    (hs : Timed s) : Timed s' := by
  cases h with
  | called ram hcall =>
      exact ⟨fun i => (hcall.inst i hratio).trans (hs.inst i),
        fun p hp => hcall.cached hp (hs.cached p hp)⟩
  | memory hdev => exact ⟨hdev ▸ hs.inst, hs.cached⟩
  | updated => exact ⟨hs.inst, fun p _ => TimeKeeper.cachedFor_updateSyncPending s.2.tk p⟩
  | _ => exact ⟨hs.inst, hs.cached⟩

/-! ### The synchronisation -/

/-- A peripheral that is due is synchronised, which begins with its sheet. -/
lemma syncIfDue_attends {who : Peripheral} {which : SyncedDevice}
    (hsynced : ∀ p, w.sync which inter.devices sh = .ok (p, sh') →
      Served (Peripheral.Only who) { sh with tk := (sh.tk.sync who).2 } sh')
    (h : inter.syncIfDue w.devices who which sh = .ok (inter', sh')) :
    sh'.tk.Attended who ∧ Served (Peripheral.Only who) sh sh' := by
  unfold syncIfDue at h
  split_ifs at h with hdue
  · rw [Wiring.syncDevice_eq] at h
    obtain ⟨x, hsync, heq⟩ := bind_eq_ok.mp h
    cases heq
    have hserved := hsynced _ hsync
    exact ⟨.inr hserved.lastSync_synced,
      (Service.sync (Peripheral.only_self who)).served.trans hserved⟩
  · cases h
    exact ⟨.inl (Bool.eq_false_iff.mpr hdue), .refl _⟩

/-- The synchronisation attends every peripheral that is due, in the order of the source. -/
lemma sync_attends (hratio : Display.RatioInRange w.ratio) (hs : Timed (inter, sh))
    (h : inter.sync w.devices sh = .ok (inter', sh')) {p : Peripheral} (hp : p ≠ .cdRom) :
    sh'.tk.Attended p := by
  obtain ⟨⟨i1, s1⟩, hgpu, h⟩ := bind_eq_ok.mp h
  obtain ⟨⟨i2, s2⟩, hpad, h⟩ := bind_eq_ok.mp h
  obtain ⟨⟨i3, s3⟩, htimers, hcdrom⟩ := bind_eq_ok.mp h
  have hfirst : Events w True .sync 0 (inter, sh) (i2, s2) :=
    (syncIfDue_events hgpu).trans (syncIfDue_events hpad)
  have hinst := (hfirst.keeps (fun h => h.timed hratio) hs).inst
  replace hgpu := syncIfDue_attends (fun q hsync => by
    cases hsync
    exact Display.served_synced ..) hgpu
  replace hpad := syncIfDue_attends (fun q hsync => by
    obtain ⟨x, hx, heq⟩ := bind_eq_ok.mp hsync
    cases heq
    exact PadMemCard.served_synced hx) hpad
  replace hcdrom := syncIfDue_attends (fun q hsync => by
    obtain ⟨x, hx, heq⟩ := bind_eq_ok.mp hsync
    cases heq
    exact CdRom.served_synced hx) hcdrom
  -- the CD-ROM comes last, and leaves the others alone
  refine hcdrom.2.attended hp ?_
  rw [Wiring.syncDevice_eq] at htimers
  obtain ⟨⟨q, s⟩, hsync, heq⟩ := bind_eq_ok.mp htimers
  cases heq
  obtain ⟨⟨ts, s⟩, htimers, heq⟩ := bind_eq_ok.mp hsync
  cases heq
  have hserved := Timers.served_sync htimers
  have htimer (j : TimerId) : s.tk.Attended j.peripheral := Timers.sync_attends hinst htimers
  cases p with
  | gpu =>
      refine hserved.attended not_isTimer_gpu (hpad.2.attended ?_ hgpu.1)
      intro hother
      cases hother
  | padMemCard => exact hserved.attended not_isTimer_padMemCard hpad.1
  | timer0 => exact htimer .timer0
  | timer1 => exact htimer .timer1
  | timer2 => exact htimer .timer2
  | cdRom => exact absurd rfl hp

end Interconnect

/-! ### Runs -/

namespace Cpu

open Interconnect

variable {I : CdImage} {μ : Type} {w : Wiring μ} {standard : VideoClock} {bios : Bios}
  {disc : Option (Disc I)} {parallelIo : μ} {c c' : Cpu (Peripherals I μ)}
  {sh sh' : SharedState} {n : ℕ}

lemma timed_powerOn : Timed ((powerOn standard bios disc parallelIo).1.inter,
    (powerOn standard bios disc parallelIo).2) where
  inst i := by cases i <;> rfl
  cached _ _ := BitVec.le_refl _

lemma timed_of_run (hratio : Display.RatioInRange w.ratio)
    (h : runFor w.devices n (powerOn standard bios disc parallelIo) = .ok (c, sh)) :
    Timed (c.inter, sh) :=
  runFor_keeps (fun _ _ _ hs h => perform_keeps (fun h => h.timed hratio) h hs) timed_powerOn h

/-- **No peripheral is missed.**  At every instruction of every run of the console from power on,
once the synchronisation is over, every peripheral but the CD-ROM is not due or has been brought up
to the current date. -/
theorem attended_of_run (hratio : Display.RatioInRange w.ratio)
    (h : runFor w.devices n (powerOn standard bios disc parallelIo) = .ok (c, sh))
    (hsync : c.syncPeripherals w.devices sh = .ok (c', sh')) {p : Peripheral} (hp : p ≠ .cdRom) :
    sh'.tk.Attended p := by
  have hs := timed_of_run hratio h
  unfold syncPeripherals at hsync
  split_ifs at hsync with hpending
  · obtain ⟨⟨inter, s⟩, hdone, heq⟩ := bind_eq_ok.mp hsync
    have hattended := sync_attends hratio hs hdone hp
    cases heq
    rw [TimeKeeper.Attended, TimeKeeper.needsSync, TimeKeeper.updateSyncPending_timesheets]
    exact hattended
  · -- the cached date is still ahead, and those of the sheets with it
    cases hsync
    refine .inl (Bool.eq_false_iff.mpr fun hdue => hpending ?_)
    exact (hs.cached p hp).syncPending hdue

/-- When the console is switched on everything is due, and everything is synchronised. -/
theorem attended_of_run_powerOn :
    let w := Wiring.bare
    let s : Console noImage Unit := powerOn .ntsc (.ofWords []) none ()
    ∃ c' sh', s.1.syncPeripherals w.devices s.2 = .ok (c', sh') ∧ sh'.tk.Attended .timer1 := by
  intro w s
  have hratio : Display.RatioInRange w.ratio := by
    intro standard
    cases standard <;> decide
  obtain ⟨⟨c', sh'⟩, hsync, -⟩ := bind_eq_ok.mp
    (show (s.1.syncPeripherals w.devices s.2 >>= fun _ => pure ()) = .ok () by decide +kernel)
  exact ⟨c', sh', hsync, attended_of_run (n := 0) hratio rfl hsync (by decide)⟩

end Cpu

end Rustation
