import Rustation.PadMemCard.Controller

/-!
When the pad controller is woken up for the end of a transfer.

* `WakesUp`: the law.  A transfer that ends in a DSR interrupt is scheduled no later
  than its end, so that the interrupt is raised without any access of the program
  (`raised_of_due`);
* `Synced`: what a synchronisation leaves: a transfer in flight is scheduled exactly
  if its DSR pulse raises an interrupt (`synced_sync`);
* `Enables`: the control write that switches the interrupt on for a transfer in
  flight.  Nothing is scheduled then;
* `wakesUp_iff_not_enables`: an access leaves the law exactly if it is not such a write,
  `wakesUp_along_iff` the statement about whole runs.
-/

namespace Rustation

open Fallible

namespace PadMemCard

variable {p p' : PadMemCard} {sh sh' : SharedState} {s s' : Shared}

/-! ### The law -/

/-- After `t` more cycles the controller is due, and its synchronisation raises the
interrupt. -/
structure Raised (s : Shared) (t : Cycles) : Prop where
  due : (s.2.tick t).tk.needsSync .padMemCard = true
  level : ∀ s', s.1.sync (s.2.tick t) = .ok s' → s'.1.interrupt = true
  edge : ∀ s', s.1.sync (s.2.tick t) = .ok s' → s.1.interrupt = false →
    s'.2.irqState.status.getLsbD Interrupt.padMemCard.bit = true

/-- The wake-up law of the controller. -/
structure WakesUp (s : Shared) : Prop where
  due : ∀ r d, s.1.bus = .transfer r true d → s.1.dsrIt = true →
    (nextSync s.2).toNat ≤ s.2.tk.now.toNat + d.toNat
  raised : ∀ r d, s.1.bus = .transfer r true d → s.1.dsrIt = true →
    ∀ t : Cycles, d ≤ t → s.2.tk.now.toNat + t.toNat < 2 ^ 64 → Raised s t

lemma raised_of_due {r : U8} {d t : Cycles} (hbus : s.1.bus = .transfer r true d)
    (hit : s.1.dsrIt = true) (hlast : lastSync s.2 = s.2.tk.now)
    (hdue : (nextSync s.2).toNat ≤ s.2.tk.now.toNat + d.toNat) (hd : d ≤ t)
    (ht : s.2.tk.now.toNat + t.toNat < 2 ^ 64) : Raised s t := by
  have hnow : (s.2.tick t).tk.now.toNat = s.2.tk.now.toNat + t.toNat := by
    change (s.2.tk.now + t).toNat = _
    rw [BitVec.toNat_add, Nat.mod_eq_of_lt ht]
  have helapsed : elapsed (s.2.tick t) = t := by
    change s.2.tk.now + t - lastSync s.2 = t
    rw [hlast]
    bv_omega
  have hover : ¬elapsed (s.2.tick t) < d := by
    rw [helapsed]
    bv_omega
  have hreturned {s' : Shared} (h : s.1.sync (s.2.tick t) = .ok s') : s' = (s.1.ended r true,
      { unscheduled (s.2.tick t) with irqState := s.1.endedIrq s.2.irqState true }) := by
    cases hrx : s.1.rxNotEmpty with
    | true =>
        rw [sync_end_full hbus hover hrx] at h
        cases h
    | false =>
        rw [sync_end hbus hover hrx] at h
        exact (Except.ok.inj h).symm
  constructor
  · have hle : (nextSync s.2).toNat ≤ (s.2.tick t).tk.now.toNat := by
      rw [hnow]
      exact hdue.trans (Nat.add_le_add_left (BitVec.le_def.mp hd) _)
    exact decide_eq_true (BitVec.le_def.mpr hle)
  · intro s' h
    rw [hreturned h]
    simp [ended, hit]
  · intro s' h hint
    rw [hreturned h]
    simp [endedIrq, hit, hint, InterruptState.assert, Interrupt.bit]

lemma wakesUp_of_due (hlast : lastSync s.2 = s.2.tk.now)
    (hdue : ∀ r d, s.1.bus = .transfer r true d → s.1.dsrIt = true →
      (nextSync s.2).toNat ≤ s.2.tk.now.toNat + d.toNat) : WakesUp s :=
  ⟨hdue, fun r d hbus hit _ hd ht => raised_of_due hbus hit hlast (hdue r d hbus hit) hd ht⟩

/-! ### Synchronisation -/

/-- What a synchronisation at the date of `sh` leaves. -/
structure Synced (p : PadMemCard) (sh : SharedState) (p' : PadMemCard) (sh' : SharedState) :
    Prop where
  now : sh'.tk.now = sh.tk.now
  last : lastSync sh' = sh'.tk.now
  dsrIt : p'.dsrIt = p.dsrIt
  /-- a transfer goes on for the cycles left -/
  transfer : ∀ {r dsr d}, p'.bus = .transfer r dsr d ↔
    ∃ delay, p.bus = .transfer r dsr delay ∧ elapsed sh < delay ∧ d = delay - elapsed sh
  /-- and is scheduled if it is to raise an interrupt -/
  next : ∀ {r dsr d}, p'.bus = .transfer r dsr d →
    nextSync sh' = if p.dsrIt then sh'.tk.now + d else BitVec.allOnes 64

lemma synced_sync (h : p.sync sh = .ok (p', sh')) : Synced p sh p' sh' := by
  cases hbus : p.bus with
  | idle =>
      rw [sync_idle hbus] at h
      cases h
      exact ⟨rfl, lastSync_unscheduled, rfl, by simp [hbus], by simp [hbus]⟩
  | transfer r dsr delay =>
      by_cases hlt : elapsed sh < delay
      · rw [sync_transfer hbus hlt] at h
        cases h
        refine ⟨?_, ?_, rfl, ?_, fun hb => ?_⟩
        · split_ifs <;> rfl
        · split_ifs <;> simp
        · intro r' dsr' d
          constructor
          · intro hb
            cases hb
            exact ⟨delay, hbus, hlt, rfl⟩
          · rintro ⟨delay', hb, -, rfl⟩
            cases hbus.symm.trans hb
            rfl
        · cases hb
          split_ifs <;> simp
      · have hnone {r' dsr' d} : ¬∃ delay', p.bus = .transfer r' dsr' delay' ∧
            elapsed sh < delay' ∧ d = delay' - elapsed sh := by
          rintro ⟨delay', hb, hlt', -⟩
          cases hbus.symm.trans hb
          exact hlt hlt'
        cases hrx : p.rxNotEmpty with
        | true =>
            rw [sync_end_full hbus hlt hrx] at h
            cases h
        | false =>
            rw [sync_end hbus hlt hrx] at h
            cases h
            have hidle {r' dsr' d} : (p.ended r dsr).bus ≠ .transfer r' dsr' d := by
              cases dsr <;> simp [ended]
            exact ⟨rfl, lastSync_unscheduled, rfl, iff_of_false hidle hnone,
              fun hb => absurd hb hidle⟩
  | dsr delay =>
      rw [sync_dsr hbus] at h
      cases h
      refine ⟨rfl, lastSync_unscheduled, ?_, ?_, ?_⟩
      · split_ifs <;> rfl
      · split_ifs <;> simp [hbus]
      · split_ifs <;> simp

/-- What follows the synchronisation changes neither the transfer nor the schedule. -/
lemma Synced.wakesUp {q : PadMemCard} {sh'' : SharedState} (h : Synced p sh p' sh')
    (hbus : q.bus = p'.bus) (hit : q.dsrIt = true → p.dsrIt = true) (htk : sh''.tk = sh'.tk) :
    WakesUp (q, sh'') := by
  have hnext : nextSync sh'' = nextSync sh' := by rw [nextSync, htk, nextSync]
  refine wakesUp_of_due ?_ fun r d hb hq => ?_
  · change lastSync sh'' = sh''.tk.now
    rw [lastSync, htk]
    exact h.last
  · change (nextSync sh'').toNat ≤ sh''.tk.now.toNat + d.toNat
    rw [hnext, h.next (hbus ▸ hb), if_pos (hit hq), htk, BitVec.toNat_add]
    exact Nat.mod_le ..

/-! ### Accesses -/

/-- The control write switches the DSR interrupt on while a transfer that ends in a
DSR pulse is in flight.  (The last date there is also stands for none.) -/
def Enables (s : Shared) : Access → Prop
  | .store _ offset val =>
      offset.toNat = 10 ∧ (val.setWidth 16 &&& 0x40#16 != 0) = false ∧
        (val.setWidth 16 >>> 12 &&& 1#16 != 0) = true ∧ s.1.dsrIt = false ∧
        ∃ r delay, s.1.bus = .transfer r true delay ∧ elapsed s.2 < delay ∧
          s.2.tk.now.toNat + (delay - elapsed s.2).toNat < 2 ^ 64 - 1
  | _ => False

/-- A write to the control register. -/
lemma wakesUp_setControl_iff {q : PadMemCard} {ctrl : U16} {sh'' : SharedState}
    (hsync : Synced p sh p' sh') (h : p'.setControl sh' ctrl = .ok (q, sh'')) :
    WakesUp (q, sh'') ↔ ¬((ctrl &&& 0x40 != 0) = false ∧ (ctrl >>> 12 &&& 1 != 0) = true ∧
      p.dsrIt = false ∧ ∃ r delay, p.bus = .transfer r true delay ∧ elapsed sh < delay ∧
        sh.tk.now.toNat + (delay - elapsed sh).toNat < 2 ^ 64 - 1) := by
  rcases setControl_cases h with ⟨hreset, rfl, rfl⟩ | ⟨hreset, interrupt, irq, rfl, rfl⟩
  · refine iff_of_true ?_ fun hno => absurd (hno.1.symm.trans hreset) (by decide)
    exact wakesUp_of_due hsync.last fun r d hb => by cases hb
  · have hcontrol : (({ p' with interrupt := interrupt } : PadMemCard).withControl ctrl).dsrIt =
        (ctrl >>> 12 &&& 1 != 0) := rfl
    cases hit : p.dsrIt with
    | true =>
        refine iff_of_true (hsync.wakesUp rfl (fun _ => hit) rfl) fun hno => ?_
        cases hno.2.2.1
    | false =>
        cases hbit : ctrl >>> 12 &&& 1 != 0 with
        | false =>
            refine iff_of_true (hsync.wakesUp rfl (fun hq => ?_) rfl) fun hno => ?_
            · cases hbit.symm.trans (hcontrol.symm.trans hq)
            · cases hno.2.1
        | true =>
            -- the interrupt is switched on and nothing has been scheduled
            have hnext {r dsr d} (hb : p'.bus = .transfer r dsr d) :
                (nextSync sh').toNat = 2 ^ 64 - 1 := by
              rw [hsync.next hb, hit, if_neg Bool.false_ne_true]
              rfl
            constructor
            · rintro hwakes ⟨-, -, -, r, delay, hb, hlt, hdate⟩
              have hb' := hsync.transfer.mpr ⟨delay, hb, hlt, rfl⟩
              have hdue : (nextSync sh').toNat ≤ sh'.tk.now.toNat + (delay - elapsed sh).toNat :=
                hwakes.due r _ hb' (hcontrol.trans hbit)
              rw [hnext hb', hsync.now] at hdue
              omega
            · intro hno
              refine wakesUp_of_due hsync.last fun r d hb _ => ?_
              obtain ⟨delay, hb', hlt, rfl⟩ := hsync.transfer.mp hb
              have hdate : ¬sh.tk.now.toNat + (delay - elapsed sh).toNat < 2 ^ 64 - 1 :=
                fun hdate =>
                hno ⟨hreset, rfl, rfl, r, delay, hb', hlt, hdate⟩
              change (nextSync sh').toNat ≤ sh'.tk.now.toNat + (delay - elapsed sh).toNat
              rw [hnext hb, hsync.now]
              omega

/-- A command is scheduled whatever follows it. -/
lemma wakesUp_sendCommand {q : PadMemCard} {cmd : U8} {sh'' : SharedState}
    (hlast : lastSync sh' = sh'.tk.now) (h : p'.sendCommand sh' cmd = .ok (q, sh'')) :
    WakesUp (q, sh'') := by
  unfold sendCommand at h
  split_ifs at h
  cases h
  refine wakesUp_of_due ?_ fun r d hb _ => ?_
  · simpa [lastSync, TimeKeeper.setNextSyncDelta, TimeSheet.setNextSync] using hlast
  · injection hb with _ _ hd
    subst hd
    simp only [nextSync, TimeKeeper.setNextSyncDelta, TimeKeeper.setSheet_self,
      TimeKeeper.setSheet_now, TimeSheet.setNextSync, BitVec.toNat_add]
    exact Nat.mod_le ..

/-- The step lemma: an access leaves the law exactly if it does not switch the DSR
interrupt on for a transfer in flight. -/
lemma wakesUp_iff_not_enables {a : Access} (h : access s a = .ok s') :
    WakesUp s' ↔ ¬Enables s a := by
  obtain ⟨s1, hsync, haccess⟩ := accessed h
  have hsynced : Synced s.1 s.2 s1.1 s1.2 := synced_sync hsync
  cases haccess with
  | kept hkept ha =>
      refine iff_of_true (hsynced.wakesUp hkept.bus ?_ rfl) fun henables => ?_
      · rw [hkept.dsrIt, hsynced.dsrIt]
        exact id
      · cases a with
        | store width offset val => exact ha width offset val rfl henables.1
        | _ => exact henables
  | sent hoffset hsend =>
      exact iff_of_true (wakesUp_sendCommand hsynced.last hsend) fun henables =>
        absurd (henables.1.symm.trans hoffset) (by decide)
  | controlled hoffset hcontrol =>
      rw [wakesUp_setControl_iff hsynced hcontrol]
      exact not_congr ⟨fun hno => ⟨hoffset, hno⟩, fun henables => henables.2⟩

/-! ### Runs -/

/-- The run takes the access `a` from `s` to `s'`. -/
def Takes (l : List (Cycles × Event)) (s : Shared) (a : Access) (s' : Shared) : Prop :=
  ∃ before cycles sh, before ++ [(cycles, .access a)] <+: l ∧
    runEvents (new, .new) before = .ok (s.1, sh) ∧ s.2 = sh.tick cycles ∧ access s a = .ok s'

/-- **The wake-up law of the pad controller along runs.**  Every access of a run leaves
a transfer that ends in a DSR interrupt scheduled in time, exactly if none of them
switches the interrupt on while such a transfer is in flight. -/
theorem wakesUp_along_iff (l : List (Cycles × Event)) :
    (∀ s a s', Takes l s a s' → WakesUp s') ↔ ∀ s a s', Takes l s a s' → ¬Enables s a := by
  constructor
  · rintro h s a s' ⟨before, cycles, sh, hl, hrun, hsh, ha⟩
    exact (wakesUp_iff_not_enables ha).mp (h s a s' ⟨before, cycles, sh, hl, hrun, hsh, ha⟩)
  · rintro h s a s' ⟨before, cycles, sh, hl, hrun, hsh, ha⟩
    exact (wakesUp_iff_not_enables ha).mpr (h s a s' ⟨before, cycles, sh, hl, hrun, hsh, ha⟩)

/-- The first byte for a digital pad in the first port, sent with the DSR interrupt
off. -/
def firstByte : List (Cycles × Event) :=
  [(0, .plug .padMemCard1 (.digital 0xffff)), (1, .access (.store .halfWord 14 100)),
    (1, .access (.store .halfWord 10 0x0003)), (1, .access (.store .byte 0 0x01))]

/-- The write that switches the interrupt on 10 cycles later. -/
def lateEnable : Access := .store .halfWord 10 0x1003

/-- The pulse comes 790 cycles later, and nothing is scheduled. -/
theorem lateEnable_not_woken :
    ¬∀ (l : List (Cycles × Event)) s a s', Takes l s a s' → WakesUp s' := by
  intro h
  have hobserved : (runEvents (new, .new) firstByte >>= fun s =>
      access (s.1, s.2.tick 10) lateEnable >>= fun s' =>
        pure (s'.1.bus, s'.1.dsrIt, nextSync s'.2, s'.2.tk.now)) =
      .ok (.transfer 0xff true 790, true, BitVec.allOnes 64, 13) := by decide +kernel
  obtain ⟨s, hrun, hrest⟩ := bind_eq_ok.mp hobserved
  obtain ⟨s', hlate, heq⟩ := bind_eq_ok.mp hrest
  injection heq with heq
  simp only [Prod.mk.injEq] at heq
  obtain ⟨hbus, hit, hnext, hnow⟩ := heq
  have hwakes := h (firstByte ++ [(10, .access lateEnable)]) (s.1, s.2.tick 10) lateEnable s'
    ⟨firstByte, 10, s.2, List.prefix_refl _, hrun, rfl, hlate⟩
  have hdue := hwakes.due 0xff 790 hbus hit
  rw [hnext, hnow] at hdue
  exact absurd hdue (by decide)

end PadMemCard

end Rustation
