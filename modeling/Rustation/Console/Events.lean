import Rustation.Console.Peripherals
import Rustation.Cpu.Accesses
import Rustation.Memory.Dispatch

/-!
What happens in the console, one event after the other.

* `Interconnect.Event`: a call of a peripheral, a change of the interrupt controller,
  time that passes;
* `perform_events`: every access of the CPU is a sequence of events, so that an
  invariant of the console is checked on the events alone (`perform_keeps`).
-/

namespace Rustation

open Fallible

/-- The address of the GP1 port. -/
def GP1 : U32 := 0x1f801814

namespace Interconnect

/-- The time an access takes at least. -/
def Access.cycles : Access → ℕ
  | .tick cycles => cycles.toNat
  | _ => 0

variable {I : CdImage} {μ : Type}

/-- One event of the access `a`, and how long it takes.  `C` is asked for by a store that configures
the video output. -/
inductive Event (w : Wiring μ) (C : Prop) (a : Access) (inter : Interconnect (Peripherals I μ))
    (sh : SharedState) : ℕ → Board I μ → Prop
  | tick (cycles : Cycles) : Event w C a inter sh cycles.toNat (inter, sh.tick cycles)
  | called {n p sh'} (ram : Ram) : w.Call C inter.devices sh n p sh' →
      Event w C a inter sh n ({ inter with devices := p, ram := ram }, sh')
  /-- a memory, or a register of the interconnect itself -/
  | memory {inter' : Interconnect (Peripherals I μ)} : inter'.devices = inter.devices →
      Event w C a inter sh 0 (inter', sh)
  | ack {width addr val} : a = .store width addr val → maskRegion addr = I_STAT →
      Event w C a inter sh 0 (inter, { sh with irqState := sh.irqState.ack (val.setWidth 16) })
  | mask {mask irqState} : sh.irqState.setMask mask = .ok irqState →
      Event w C a inter sh 0 (inter, { sh with irqState := irqState })
  | counted : Event w C a inter sh 0 (inter, Cpu.countInterrupt sh)
  | updated : Event w C a inter sh 0 (inter, { sh with tk := sh.tk.updateSyncPending })

/-- Any number of events. -/
abbrev Events (w : Wiring μ) (C : Prop) (a : Access) : ℕ → Board I μ → Board I μ → Prop :=
  Clocked.Run fun n s => Event w C a s.1 s.2 n

variable {w : Wiring μ} {C : Prop} {a : Access} {inter inter' : Interconnect (Peripherals I μ)}
  {sh sh' : SharedState} {s s' : Board I μ}

lemma answered_events {width : Width} {r : U32 × Board I μ}
    (h : Answered w.devices inter width sh r) : Events w C a 0 (inter, sh) r.2 := by
  rcases h with hr | ⟨which, offset, hload⟩
  · rw [hr]
    exact .refl _
  · rw [Wiring.loadDevice_eq] at hload
    obtain ⟨x, hanswer, heq⟩ := bind_eq_ok.mp hload
    cases heq
    exact .single (.called inter.ram (Wiring.load_call hanswer))

lemma syncDevice_events {which : SyncedDevice}
    (h : inter.syncDevice w.devices which sh = .ok s') : Events w C a 0 (inter, sh) s' := by
  rw [Wiring.syncDevice_eq] at h
  obtain ⟨x, hsync, heq⟩ := bind_eq_ok.mp h
  cases heq
  exact .single (.called inter.ram (Wiring.sync_call hsync))

lemma syncIfDue_events {who : Peripheral} {which : SyncedDevice}
    (h : inter.syncIfDue w.devices who which sh = .ok s') : Events w C a 0 (inter, sh) s' := by
  unfold syncIfDue at h
  split_ifs at h
  · exact syncDevice_events h
  · cases h
    exact .refl _

lemma sync_events (h : inter.sync w.devices sh = .ok s') : Events w C a 0 (inter, sh) s' := by
  obtain ⟨s1, hgpu, h⟩ := bind_eq_ok.mp h
  obtain ⟨s2, hpad, h⟩ := bind_eq_ok.mp h
  obtain ⟨s3, htimers, hcdrom⟩ := bind_eq_ok.mp h
  exact (syncIfDue_events hgpu).trans ((syncIfDue_events hpad).trans
    ((syncDevice_events htimers).trans (syncIfDue_events hcdrom)))

lemma contains_gpu_four {addr offset : U32} (h : Map.GPU.contains addr = some offset)
    (h4 : offset.toNat = 4) : addr = GP1 := by
  unfold Range.contains Map.GPU at h
  split_ifs at h
  injection h with h
  unfold GP1
  bv_omega

/-- **Accesses are events.** -/
lemma perform_events (hC : ∀ width addr val, a = .store width addr val → maskRegion addr = GP1 →
    Gpu.Configures val → C) (h : perform w.devices s a = .ok s') :
    ∃ n, a.cycles ≤ n ∧ n ≤ 2 ^ 32 + a.cycles ∧ Events w C a n s s' := by
  cases a with
  | tick cycles =>
      cases h
      exact ⟨cycles.toNat, le_rfl, Nat.le_add_left _ _, .single (.tick cycles)⟩
  | fetch pc =>
      obtain ⟨r, hload, heq⟩ := bind_eq_ok.mp h
      cases heq
      exact ⟨0, le_rfl, Nat.zero_le _, answered_events (loadInstruction_reaches hload)⟩
  | load width addr =>
      obtain ⟨r, hload, heq⟩ := bind_eq_ok.mp h
      cases heq
      exact ⟨2 + 0, Nat.zero_le _, Nat.le_add_right_of_le (by norm_num),
        .trans (.single (.tick 2)) (answered_events (load_reaches hload))⟩
  | store width addr val =>
      cases store_reaches h with
      | memory hdev => exact ⟨0, le_rfl, Nat.zero_le _, .single (.memory hdev)⟩
      | ack haddr => exact ⟨0, le_rfl, Nat.zero_le _, .single (.ack rfl haddr)⟩
      | mask hmask => exact ⟨0, le_rfl, Nat.zero_le _, .single (.mask hmask)⟩
      | device which hin hstore =>
          rw [Wiring.storeDevice_eq] at hstore
          obtain ⟨x, hdone, heq⟩ := bind_eq_ok.mp hstore
          cases heq
          obtain ⟨n, hn, hcall⟩ := Wiring.store_call (C := C) (by
            rintro rfl h4
            exact hC width addr val rfl (contains_gpu_four hin h4)) hdone
          exact ⟨n, Nat.zero_le n, Nat.le_add_right_of_le hn.le, .single (.called x.2.1 hcall)⟩
  | sync =>
      refine ⟨0, le_rfl, Nat.zero_le _, ?_⟩
      unfold perform at h
      dsimp only at h
      split_ifs at h
      · obtain ⟨x, hsync, heq⟩ := bind_eq_ok.mp h
        cases heq
        exact .tail (sync_events hsync) .updated
      · cases h
        exact .refl _
  | countInterrupt =>
      cases h
      exact ⟨0, le_rfl, Nat.zero_le _, .single .counted⟩

/-- The rule for invariants of the console: what the events keep, an access keeps. -/
lemma perform_keeps {P : Board I μ → Prop}
    (hP : ∀ {n s s'}, Event w True a s.1 s.2 n s' → P s → P s')
    (h : perform w.devices s a = .ok s') (hs : P s) : P s' := by
  obtain ⟨n, -, -, hevents⟩ := perform_events (C := True) (fun _ _ _ _ _ _ => trivial) h
  exact hevents.keeps hP hs

end Interconnect

end Rustation
