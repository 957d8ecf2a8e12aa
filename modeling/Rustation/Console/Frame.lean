import Rustation.Console.Events

/-!
The main loop of the emulator, `run_until_next_frame` of `cpu/mod.rs`, returns.

* `Cpu.runUntilNextFrame`: the loop, with a bound for the number of instructions;
* `perform_moves`: seen from the video output, an access of the CPU that does not
  configure it is a few moves; `perform_sync_moves` says the same of the
  synchronisation, which reaches the GPU whenever it is due;
* `Disturbed`: the next instruction faults, configures the video output or takes very
  long;
* `Cpu.step_onTime`: an instruction that does none of this ends with the video output on
  schedule, and a frame is counted or the deadline stays;
* `Cpu.runUntilNextFrame_returns`: the instructions before the deadline are bounded.
-/

namespace Rustation

open Fallible SharedState Display

/-! ### The calls of the peripherals -/

/-- A call that does not configure the video output.  A transfer lets time pass. -/
lemma Wiring.Call.moves {I : CdImage} {μ : Type} {w : Wiring μ} {p p' : Peripherals I μ}
    {sh sh' : SharedState} {n : ℕ} (h : w.Call False p sh n p' sh') :
    Moves w.ratio n (p.gpu.toDisplay, sh) (p'.gpu.toDisplay, sh') := by
  cases h with
  | gpuSync => exact .single (.synced _ _)
  | gpuStore hval hstore =>
      rcases Gpu.store_parts hstore with ⟨hsh', -, hdisplay⟩ | ⟨hoffset, hgp1⟩
      · rw [show (_, sh') = p.gpu.toDisplay.sync w.ratio sh from Prod.ext hdisplay hsh']
        exact .single (.synced _ _)
      · obtain ⟨hdisplay, n, hsh'⟩ := Gpu.gp1_display (hval hoffset) hgp1
        refine .trans (m := 0) (n := 0) (.single (.synced _ _)) ?_
        dsimp only
        rw [hdisplay, hsh']
        exact .single (.aside (p.gpu.toDisplay.sync w.ratio sh).1
          (p.gpu.toDisplay.sync w.ratio sh).2 _ _ (by rfl))
  | timersSync hsync => exact .single (.served (Timers.served_sync hsync) not_isTimer_gpu)
  | timersLoad hload => exact .single (.served (Timers.served_load hload) not_isTimer_gpu)
  | @timersStore _ _ _ ts _ d hstore =>
      obtain ⟨s, s', hfirst, hlast, hgpu⟩ := Timers.served_store hstore
      refine .trans (m := 0) (n := 0) (.single (.served hfirst not_isTimer_gpu))
        (.trans (m := 0) (n := 0) (t := (d, s')) ?_ (.single (.served hlast not_isTimer_gpu)))
      rcases hgpu with ⟨rfl, rfl⟩ | hsync
      · exact .refl _
      · rw [hsync]
        exact .single (.synced _ _)
  | cdRom haccess =>
      exact .single (.served (CdRom.served_access haccess) (by intro hgpu; cases hgpu))
  | padMemCard haccess =>
      exact .single (.served (PadMemCard.served_access haccess) (by intro hgpu; cases hgpu))
  | @dma _ bus _ _ hpasses =>
      obtain ⟨dma, b, hmoves, heq⟩ := hpasses.moves
      rw [heq, show (p.afterTransfer { b with dma := bus.dma }).gpu.toDisplay = p.gpu.toDisplay from
        hmoves.frame.2]
      exact .single (.delayed hpasses.delayed)
  | spu | other => exact .refl _

/-! ### The accesses of the CPU -/

namespace Interconnect

/-- An access that takes little time by itself, and leaves the configuration of the video output
alone. -/
def Access.Plain : Access → Prop
  | .tick cycles => cycles ≤ 4
  | .store _ addr val => maskRegion addr = GP1 → ¬Gpu.Configures val
  | _ => True

variable {I : CdImage} {μ : Type} {w : Wiring μ} {a : Access} {l : List Access}
  {s s' : Board I μ} {n : ℕ}

/-- What the console shows of the video output. -/
def video (s : Board I μ) : Display × SharedState :=
  (s.1.devices.gpu.toDisplay, s.2)

lemma Event.moves (h : Event w False a s.1 s.2 n s') : Moves w.ratio n (video s) (video s') := by
  cases h with
  | tick cycles => exact .single (.delayed (delayed_tick s.2 cycles))
  | called ram hcall => exact hcall.moves
  | memory hdev =>
      rw [video, video, hdev]
      exact .refl _
  | updated => exact .single .updated
  | ack | mask | counted => exact .single (.aside _ s.2 _ _ (by rfl))

/-- Events, seen from the video output. -/
lemma Events.moves (h : Events w False a n s s') : Moves w.ratio n (video s) (video s') :=
  h.map fun hevent => hevent.moves

lemma perform_moves (ha : a.Plain) (h : perform w.devices s a = .ok s') :
    ∃ n, a.cycles ≤ n ∧ n ≤ 2 ^ 32 + 4 ∧ Moves w.ratio n (video s) (video s') := by
  obtain ⟨n, hlo, hhi, hevents⟩ := perform_events (C := False) (by
    rintro width addr val rfl
    exact ha) h
  refine ⟨n, hlo, ?_, hevents.moves⟩
  have hcycles : a.cycles ≤ 4 := by
    cases a with
    | tick cycles => exact BitVec.le_def.mp ha
    | _ => exact Nat.zero_le 4
  omega

lemma performed_moves (ha : ∀ a ∈ l, a.Plain) (h : Performed w.devices s l s') :
    ∃ n, (l.map Access.cycles).sum ≤ n ∧ n ≤ l.length * (2 ^ 32 + 4) ∧
      Moves w.ratio n (video s) (video s') := by
  induction l generalizing s with
  | nil =>
      rw [performed_nil.mp h]
      exact ⟨0, le_rfl, Nat.zero_le _, .refl _⟩
  | cons a l ih =>
      obtain ⟨t, hfirst, hrest⟩ := performed_cons.mp h
      obtain ⟨m, hlo, hhi, hmoves⟩ := perform_moves (ha a List.mem_cons_self) hfirst
      obtain ⟨n, hlo', hhi', hmoves'⟩ :=
        ih (fun b hb => ha b (List.mem_cons_of_mem a hb)) hrest
      refine ⟨m + n, ?_, ?_, hmoves.trans hmoves'⟩
      · rw [List.map_cons, List.sum_cons]
        omega
      · rw [List.length_cons]
        omega

/-! ### The synchronisation -/

/-- The GPU comes first, if it is due. -/
lemma sync_moves {inter inter' : Interconnect (Peripherals I μ)} {sh sh' : SharedState}
    (h : inter.sync w.devices sh = .ok (inter', sh')) :
    Moves w.ratio 0
      (if sh.tk.needsSync .gpu then (video (inter, sh)).1.sync w.ratio sh else video (inter, sh))
      (video (inter', sh')) := by
  obtain ⟨⟨i1, s1⟩, hgpu, h⟩ := bind_eq_ok.mp h
  obtain ⟨s2, hpad, h⟩ := bind_eq_ok.mp h
  obtain ⟨s3, htimers, hcdrom⟩ := bind_eq_ok.mp h
  have hrest : Events w False .sync 0 (i1, s1) (inter', sh') :=
    (syncIfDue_events hpad).trans ((syncDevice_events htimers).trans (syncIfDue_events hcdrom))
  unfold syncIfDue at hgpu
  split_ifs at hgpu ⊢
  · rw [Wiring.syncDevice_eq] at hgpu
    cases hgpu
    exact hrest.moves
  · cases hgpu
    exact hrest.moves

/-- The synchronisation before an instruction, which finds the GPU when it is due. -/
lemma perform_sync_moves (hcached : s.2.tk.CachedFor .gpu)
    (h : perform w.devices s .sync = .ok s') :
    Moves w.ratio 0
      (if s.2.tk.needsSync .gpu then (video s).1.sync w.ratio s.2 else video s) (video s') := by
  obtain ⟨inter, sh⟩ := s
  unfold perform at h
  dsimp only at h
  by_cases hpending : sh.tk.syncPending = true
  · rw [if_pos hpending] at h
    obtain ⟨⟨inter', sh'⟩, hsync, heq⟩ := bind_eq_ok.mp h
    cases heq
    exact .trans (m := 0) (n := 0) (sync_moves hsync) (.single .updated)
  · have hdue : ¬sh.tk.needsSync .gpu = true := fun hdue => hpending (hcached.syncPending hdue)
    rw [if_neg hpending] at h
    cases h
    rw [if_neg hdue]
    exact .refl _

end Interconnect

/-! ### The main loop -/

namespace Cpu

open Interconnect

section Loop

variable {δ : Type} (dev : Devices δ)

/-- The loop over the instructions of a frame, at most `fuel` rounds of it. -/
def runWhileFrame (frame : U32) : ℕ → Cpu δ × SharedState → Outcome (Option (Cpu δ × SharedState))
  | 0, _ => pure none
  | fuel + 1, s =>
      if s.2.counters.frame = frame then do
        let s ← runNextInstruction dev s.1 s.2
        runWhileFrame frame fuel s
      else pure (some s)

/-- Run the emulator until the start of the next frame. -/
def runUntilNextFrame (fuel : ℕ) (s : Cpu δ × SharedState) :
    Outcome (Option (Cpu δ × SharedState)) :=
  runWhileFrame dev s.2.counters.frame fuel s

end Loop

/-- The instruction is a store that may configure the video output. -/
def WritesVideo {δ : Type} (c : Cpu δ) (i : Instruction) : Prop :=
  ∃ addr val, c.StoresTo i addr val ∧ maskRegion addr = GP1 ∧ Gpu.Configures val

variable {I : CdImage} {μ : Type} {w : Wiring μ} {c c' : Cpu (Peripherals I μ)}
  {sh sh' : SharedState} {i : Instruction} {l : List Access} {H D : ℕ}
  {s s' : Console I μ}

/-- The next instruction may upset the video output: it faults, configures it or takes `H` cycles or
more. -/
inductive Disturbed (w : Wiring μ) (H : ℕ) (s : Console I μ) : Prop
  | fault {e : Fault} : runNextInstruction w.devices s.1 s.2 = .error e → Disturbed w H s
  | video {i : Instruction} : nextInstruction w.devices s.1 s.2 = .ok i → s.1.WritesVideo i →
      Disturbed w H s
  | long {s' : Console I μ} :
      runNextInstruction w.devices s.1 s.2 = .ok s' →
      s.2.tk.now.toNat + H ≤ s'.2.tk.now.toNat → Disturbed w H s

/-! ### The accesses of an instruction -/

lemma Reaches.plain (h : Reaches c i.opcode i l) (hv : ¬c.WritesVideo i) : ∀ a ∈ l, a.Plain := by
  intro a ha
  cases a with
  | tick cycles => cases h <;> simp at ha
  | store width addr val =>
      exact fun haddr hconf => hv ⟨addr, val, h.storesTo ha, haddr, hconf⟩
  | fetch | load | sync | countInterrupt => trivial

lemma plain_tick_one : (Access.tick 1).Plain := show (1 : Cycles) ≤ 4 by decide

lemma Issues.plain (h : Issues c i l) (hv : ¬c.WritesVideo i) : ∀ a ∈ l, a.Plain := by
  intro a ha
  cases h with
  | interrupted | interruptedGte =>
      simp only [List.mem_cons, List.not_mem_nil, or_false, or_self] at ha
      rcases ha with rfl | rfl
      · trivial
      · exact plain_tick_one
  | executed hl =>
      rcases List.mem_cons.mp ha with rfl | ha
      · exact plain_tick_one
      · exact hl.plain hv a ha

lemma Fetching.plain {n : ℕ} {f : List Access} (h : Fetching n f) : ∀ a ∈ f, a.Plain := by
  intro a ha
  have hfetches := h.fetches a ha
  cases a with
  | tick cycles => exact hfetches
  | store width addr val => exact absurd hfetches id
  | fetch | load | sync | countInterrupt => trivial

/-- An instruction takes at least one cycle. -/
lemma Issues.cycles_pos (h : Issues c i l) : 1 ≤ (l.map Access.cycles).sum := by
  cases h with
  | interrupted | interruptedGte => decide
  | executed _ =>
      rw [List.map_cons, List.sum_cons]
      exact Nat.le_add_right 1 _

lemma Issues.length_le (h : Issues c i l) : l.length ≤ 3 := by
  cases h with
  | interrupted | interruptedGte => decide
  | executed hl => cases hl <;> simp

lemma duration_bounds {f : List Access} {n : ℕ} (hf : Fetching 5 f) (hl : Issues c i l)
    (hlo : ((f ++ l).map Access.cycles).sum ≤ n) (hhi : n ≤ (f ++ l).length * (2 ^ 32 + 4)) :
    1 ≤ n ∧ n ≤ 13 * (2 ^ 32 + 4) := by
  have hlength : (f ++ l).length ≤ 13 := by
    have hlength := hf.length
    have hlength' := hl.length_le
    rw [List.length_append]
    omega
  have hpos := hl.cycles_pos
  rw [List.map_append, List.sum_append] at hlo
  exact ⟨by omega, hhi.trans (Nat.mul_le_mul_right _ hlength)⟩

/-! ### A step -/

/-- The video output after an instruction that has not disturbed it. -/
structure OnTime (w : Wiring μ) (H D : ℕ) (s s' : Console I μ) : Prop where
  scheduled : Scheduled w.ratio H s'.1.inter.devices.gpu.toDisplay s'.2
  late : s'.2.tk.now.toNat < date s'.2 + H
  longest : s'.1.inter.devices.gpu.longest w.ratio = s.1.inter.devices.gpu.longest w.ratio
  now : s.2.tk.now.toNat ≤ s'.2.tk.now.toNat
  frame : s'.2.counters.frame = s.2.counters.frame + 1 ∨
    (s'.2.counters.frame = s.2.counters.frame ∧
      deadline w.ratio H (video (s'.1.inter, s'.2)) ≤ D)

/-- The rest of an instruction, after the synchronisation. -/
lemma onTime_of_moves {n : ℕ} {t : Display × SharedState}
    (s' : Console I μ)
    (hsettled : Settled w.ratio H D (video (s.1.inter, s.2)) t)
    (hmoves : Moves w.ratio n t (video (s'.1.inter, s'.2))) (hn : n < H)
    (hbig : s.2.tk.now.toNat + H + s.1.inter.devices.gpu.longest w.ratio < 2 ^ 64) :
    OnTime w H D s s' ∧ s'.2.tk.now.toNat = s.2.tk.now.toNat + n := by
  have hnow : t.2.tk.now.toNat = s.2.tk.now.toNat := congrArg BitVec.toNat hsettled.now
  have hlongest : t.1.longest w.ratio = s.1.inter.devices.gpu.longest w.ratio := hsettled.longest
  have hahead := hsettled.ahead
  have hlim : t.2.tk.now.toNat + n < date t.2 + H := by omega
  have hmoved := hmoves.moved hsettled.scheduled le_rfl hlim (by omega)
  have hnow' : s'.2.tk.now.toNat = s.2.tk.now.toNat + n := by rw [← hnow]; exact hmoved.now
  refine ⟨⟨hmoved.scheduled, ?_, hmoved.longest.trans hlongest, by omega, ?_⟩, hnow'⟩
  · rw [hnow', ← hnow]
    exact hmoved.lt_date_add hlim
  · rcases hsettled.frame with ⟨hcount, hsignal⟩ | ⟨hsame, hle⟩
    · exact .inl ((hmoved.frame hsignal).trans hcount)
    · rcases hmoved.frameBy with ⟨hcount, -⟩ | ⟨hsame', hle'⟩
      · exact .inl (hcount.trans (by rw [hsame]; rfl))
      · exact .inr ⟨hsame'.trans hsame, hle'.trans hle⟩

/-- An instruction disturbs the video output or ends on time, and one that is aligned takes time. -/
lemma step_onTime
    (hsettle : ∀ t, perform w.devices (s.1.inter, s.2) .sync = .ok t →
      Settled w.ratio H D (video (s.1.inter, s.2)) (video t))
    (hbig : s.2.tk.now.toNat + H + s.1.inter.devices.gpu.longest w.ratio + 2 ^ 36 < 2 ^ 64)
    (hH : 0 < H) (h : runNextInstruction w.devices s.1 s.2 = .ok s') :
    Disturbed w H s ∨ (OnTime w H D s s' ∧
      (s.1.pc.toNat % 4 = 0 → s.2.tk.now.toNat < s'.2.tk.now.toNat)) := by
  obtain ⟨c', sh'⟩ := s'
  obtain ⟨l, hstepped, hperf⟩ := runNextInstruction_accesses h
  cases hstepped with
  | misaligned hmis =>
      refine .inr ⟨(onTime_of_moves (n := 0) (c', sh') (hsettle _ (performed_single.mp hperf))
        (.refl _) hH (by omega)).1, fun haligned => absurd haligned hmis⟩
  | @ran f l i haligned hnext hf hl =>
      obtain ⟨t, hsync, hrest⟩ := performed_cons.mp hperf
      by_cases hv : s.1.WritesVideo i
      · exact .inl (.video hnext hv)
      have hplain : ∀ a ∈ f ++ l, a.Plain := fun a ha =>
        (List.mem_append.mp ha).elim (hf.plain a) (hl.plain hv a)
      obtain ⟨n, hlo, hhi, hmoves⟩ := performed_moves hplain hrest
      have hsettled := hsettle t hsync
      have hn := duration_bounds hf hl hlo hhi
      by_cases hlong : H ≤ n
      · refine .inl (.long h ?_)
        have hnow : sh'.tk.now = s.2.tk.now + BitVec.ofNat 64 n := by
          rw [← show t.2.tk.now = s.2.tk.now from hsettled.now]
          exact hmoves.now
        rw [hnow, BitVec.toNat_add, BitVec.toNat_ofNat]
        omega
      · obtain ⟨hontime, hnow⟩ := onTime_of_moves (c', sh') hsettled hmoves (by omega)
          (by omega)
        exact .inr ⟨hontime, fun _ => by rw [hnow]; omega⟩

/-- An address that is not aligned leads to the exception handler. -/
lemma aligned_after_misaligned (h : runNextInstruction w.devices s.1 s.2 = .ok s')
    (hmis : s.1.pc.toNat % 4 ≠ 0) : s'.1.pc.toNat % 4 = 0 := by
  obtain ⟨c', sh'⟩ := s'
  rcases runNextInstruction_cases h with ⟨-, inter, rfl⟩ | ⟨haligned, -⟩
  · exact handler_aligned _
  · exact absurd haligned hmis

/-! ### The run -/

/-- Twice the cycles to the latest date of the next frame, and one more for an address that is not
aligned: what is left of the instructions before it. -/
def remaining (H D : ℕ) (s : Console I μ) : ℕ :=
  2 * (D + H - s.2.tk.now.toNat) + if s.1.pc.toNat % 4 = 0 then 0 else 1

/-- After `k` instructions the loop gets to one that disturbs the video output, or counts a frame
and lets `run_until_next_frame` return. -/
structure Arrives (w : Wiring μ) (H k : ℕ) (s t : Console I μ) : Prop where
  run : runFor w.devices k s = .ok t
  frame : t.2.counters.frame = s.2.counters.frame
  arrived : Disturbed w H t ∨ ∃ s', runNextInstruction w.devices t.1 t.2 = .ok s' ∧
    runUntilNextFrame w.devices (k + 2) s = .ok (some s') ∧
    s'.2.counters.frame = s.2.counters.frame + 1 ∧
    Ready w.ratio H s'.1.inter.devices.gpu.toDisplay s'.2

/-- The instruction that disturbs the video output is the next one. -/
lemma Arrives.now_disturbed (h : Disturbed w H s) : Arrives w H 0 s s := ⟨rfl, rfl, .inl h⟩

/-- The instruction that counts a frame is the next one. -/
lemma Arrives.now_counted (h : runNextInstruction w.devices s.1 s.2 = .ok s')
    (hframe : s'.2.counters.frame = s.2.counters.frame + 1)
    (hs' : Scheduled w.ratio H s'.1.inter.devices.gpu.toDisplay s'.2) : Arrives w H 0 s s := by
  refine ⟨rfl, rfl, .inr ⟨s', h, ?_, hframe, hs'.ready⟩⟩
  have hne : s'.2.counters.frame ≠ s.2.counters.frame := by
    rw [hframe]
    bv_omega
  rw [runUntilNextFrame, runWhileFrame, if_pos rfl, h, ok_bind, runWhileFrame, if_neg hne,
    pure_eq_ok]

/-- The loop takes one more round. -/
lemma Arrives.later {k : ℕ} {t : Console I μ}
    (h : runNextInstruction w.devices s.1 s.2 = .ok s')
    (hframe : s'.2.counters.frame = s.2.counters.frame) (harrives : Arrives w H k s' t) :
    Arrives w H (k + 1) s t := by
  refine ⟨bind_eq_ok.mpr ⟨s', h, harrives.run⟩, harrives.frame.trans hframe, ?_⟩
  rcases harrives.arrived with hdist | ⟨u, hlast, hloop, hcount, hready⟩
  · exact .inl hdist
  · refine .inr ⟨u, hlast, ?_, hframe ▸ hcount, hready⟩
    rw [runUntilNextFrame, hframe] at hloop
    rw [runUntilNextFrame, runWhileFrame, if_pos rfl, h, ok_bind, hloop]

/-- The run lemma: each round takes off from what remains. -/
lemma arrives_of_scheduled (hH : 0 < H) (m : ℕ)
    (hs : Scheduled w.ratio H s.1.inter.devices.gpu.toDisplay s.2)
    (hlate : s.2.tk.now.toNat < date s.2 + H)
    (hD : deadline w.ratio H (video (s.1.inter, s.2)) ≤ D)
    (hbig : D + 2 * H + s.1.inter.devices.gpu.longest w.ratio + 2 ^ 36 < 2 ^ 64)
    (hm : remaining H D s ≤ m) : ∃ k ≤ m, ∃ t, Arrives w H k s t := by
  induction m generalizing s with
  | zero =>
      have hdate : date s.2 ≤ deadline w.ratio H (video (s.1.inter, s.2)) :=
        date_le_deadline (video (s.1.inter, s.2))
      rw [remaining] at hm
      omega
  | succ m ih =>
      have hdate : date s.2 ≤ deadline w.ratio H (video (s.1.inter, s.2)) :=
        date_le_deadline (video (s.1.inter, s.2))
      cases hrun : runNextInstruction w.devices s.1 s.2 with
      | error e => exact ⟨0, Nat.zero_le _, s, .now_disturbed (.fault hrun)⟩
      | ok s' =>
          have hsettle : ∀ t, perform w.devices (s.1.inter, s.2) .sync = .ok t → Settled w.ratio H
              (deadline w.ratio H (video (s.1.inter, s.2))) (video (s.1.inter, s.2)) (video t) :=
            fun t hsync => Scheduled.settled_deadline (s := video (s.1.inter, s.2)) hs hlate
              (show s.2.tk.now.toNat + s.1.inter.devices.gpu.longest w.ratio < 2 ^ 64 by omega)
              (perform_sync_moves hs.cached hsync)
          rcases step_onTime hsettle (by omega) hH hrun with hdist | ⟨hontime, htime⟩
          · exact ⟨0, Nat.zero_le _, s, .now_disturbed hdist⟩
          rcases hontime.frame with hcount | ⟨hsame, hle⟩
          · exact ⟨0, Nat.zero_le _, s, .now_counted hrun hcount hontime.scheduled⟩
          · have hdate' : date s'.2 ≤ deadline w.ratio H (video (s'.1.inter, s'.2)) :=
              date_le_deadline (video (s'.1.inter, s'.2))
            have hnow := hontime.now
            have hlate' := hontime.late
            have hless : remaining H D s' ≤ m := by
              rw [remaining] at hm ⊢
              by_cases haligned : s.1.pc.toNat % 4 = 0
              · have hlt := htime haligned
                split_ifs <;> omega
              · rw [if_neg haligned] at hm
                rw [if_pos (aligned_after_misaligned hrun haligned)]
                omega
            obtain ⟨k, hk, t, harrives⟩ := ih hontime.scheduled hlate' (hle.trans hD)
              (by rw [hontime.longest]; exact hbig) hless
            exact ⟨k + 1, by omega, t, harrives.later hrun hsame⟩

/-- When the console is switched on everything is due, and the video output is configured. -/
lemma ready_new : Ready clockRatio 20000 (Display.new .ntsc) .new where
  configured := by
    refine ⟨?_, ?_, ?_, ?_, ?_⟩ <;> decide
  brief := by
    unfold Brief
    decide
  cached := BitVec.le_refl _
  schedule h := by cases h

end Cpu

end Rustation
