import Rustation.Shared.SharedState

/-!
What the peripherals do to the state they share.

* `InterruptState.Raised`: interrupts have been asserted, and nothing else has
  happened to the controller.  `foldl_newly` recovers the state from the
  interrupts that are new in it;
* `SharedState.Service`: one call of a peripheral that owns some of the time
  sheets, `SharedState.Served` any number of them;
* what a peripheral leaves alone: the date, the sheets of the others
  (`Served.sheet`), the mask and the pending interrupts (`Served.raised`);
* `Served.cached`: the cached date stays valid for every sheet but that of the
  CD-ROM, the one peripheral that brings its date forward with
  `maybe_set_next_sync`;
* `SharedState.Delayed`: what the DMA does, which lets time pass.
-/

namespace Rustation

/-! ### Raised interrupts -/

namespace InterruptState

/-- Supported interrupts have been asserted. -/
structure Raised (s s' : InterruptState) : Prop where
  mask : s'.mask = s.mask
  kept : ∀ k, s.status.getLsbD k = true → s'.status.getLsbD k = true
  owned : ∀ k, s'.status.getLsbD k = true →
    s.status.getLsbD k = true ∨ ∃ which : Interrupt, which.bit = k

variable {s s' s'' : InterruptState}

lemma Raised.refl (s : InterruptState) : Raised s s := ⟨rfl, fun _ => id, fun _ => .inl⟩

lemma Raised.trans (h : Raised s s') (h' : Raised s' s'') : Raised s s'' where
  mask := h'.mask.trans h.mask
  kept k hk := h'.kept k (h.kept k hk)
  owned k hk := (h'.owned k hk).elim (h.owned k) .inr

lemma getLsbD_assert (s : InterruptState) (which : Interrupt) (k : ℕ) :
    (s.assert which).status.getLsbD k = (s.status.getLsbD k || decide (which.bit = k)) := by
  have hbit : (1#16 <<< which.bit).getLsbD k = decide (which.bit = k) := by
    have hlt : which.bit < 16 := by cases which <;> decide
    rw [← BitVec.twoPow_eq, BitVec.getLsbD_twoPow, decide_eq_true hlt, Bool.true_and]
  rw [assert, BitVec.getLsbD_or, hbit]

lemma raised_assert (s : InterruptState) (which : Interrupt) : Raised s (s.assert which) where
  mask := rfl
  kept k hk := by
    rw [getLsbD_assert, hk]
    rfl
  owned k hk := by
    rw [getLsbD_assert, Bool.or_eq_true, decide_eq_true_eq] at hk
    exact hk.imp_right fun h => ⟨which, h⟩

lemma getLsbD_foldl_assert (l : List Interrupt) (s : InterruptState) (k : ℕ) :
    (l.foldl assert s).status.getLsbD k =
      (s.status.getLsbD k || l.any fun which => which.bit = k) := by
  induction l generalizing s with
  | nil => simp
  | cons which l ih => rw [List.foldl_cons, ih, getLsbD_assert, List.any_cons, Bool.or_assoc]

lemma mask_foldl_assert (l : List Interrupt) (s : InterruptState) :
    (l.foldl assert s).mask = s.mask := by
  induction l generalizing s with
  | nil => rfl
  | cons which l ih => exact ih _

/-- The interrupts that are asserted in the second state only. -/
def newly (s s' : InterruptState) : List Interrupt :=
  Interrupt.supported.filter fun which =>
    s'.status.getLsbD which.bit && !s.status.getLsbD which.bit

lemma mem_supported (which : Interrupt) : which ∈ Interrupt.supported := by
  cases which <;> decide

/-- Asserting the new interrupts is all that has happened. -/
lemma foldl_newly (h : Raised s s') : (newly s s').foldl assert s = s' := by
  have hstatus : ((newly s s').foldl assert s).status = s'.status := by
    refine BitVec.eq_of_getLsbD_eq fun k _ => ?_
    rw [getLsbD_foldl_assert, Bool.eq_iff_iff, Bool.or_eq_true, List.any_eq_true]
    constructor
    · rintro (hk | ⟨which, hnew, hbit⟩)
      · exact h.kept k hk
      · have hset := (List.mem_filter.mp hnew).2
        rw [of_decide_eq_true hbit] at hset
        exact (Bool.and_eq_true_iff.mp hset).1
    · intro hk
      by_cases hold : s.status.getLsbD k = true
      · exact .inl hold
      · obtain ⟨which, rfl⟩ := (h.owned k hk).resolve_left hold
        refine .inr ⟨which, List.mem_filter.mpr ⟨mem_supported which, ?_⟩, by simp⟩
        rw [hk, Bool.eq_false_iff.mpr hold]
        rfl
  have hmask : ((newly s s').foldl assert s).mask = s'.mask := by
    rw [mask_foldl_assert, h.mask]
  cases hs : (newly s s').foldl assert s
  rw [hs] at hstatus hmask
  cases s'
  simp only at hstatus hmask
  rw [hstatus, hmask]

end InterruptState

/-! ### Calls of the peripherals -/

namespace TimeKeeper

/-- The cached date is not later than the date of the sheet. -/
def CachedFor (tk : TimeKeeper) (p : Peripheral) : Prop := tk.nextSync ≤ (tk.timesheets p).nextSync

lemma cachedFor_setNextSyncDelta {tk : TimeKeeper} {p : Peripheral} (h : tk.CachedFor p)
    (who : Peripheral) (delta : Cycles) : (tk.setNextSyncDelta who delta).CachedFor p := by
  unfold CachedFor at h ⊢
  by_cases hp : p = who
  · subst hp
    simp only [setNextSyncDelta, setSheet_self, TimeSheet.setNextSync]
    split_ifs <;> bv_omega
  · simp only [setNextSyncDelta, setSheet_of_ne tk _ hp]
    split_ifs <;> bv_omega

lemma cachedFor_updateSyncPending (tk : TimeKeeper) (p : Peripheral) :
    tk.updateSyncPending.CachedFor p := by
  rw [CachedFor, updateSyncPending_nextSync, updateSyncPending_timesheets]
  exact le_earliest_iff.mp (BitVec.le_refl tk.earliest) p

/-- A sheet that is due is seen by `syncPending`. -/
lemma CachedFor.syncPending {tk : TimeKeeper} {p : Peripheral} (h : tk.CachedFor p)
    (hdue : tk.needsSync p = true) : tk.syncPending = true := by
  unfold CachedFor at h
  simp only [needsSync, TimeSheet.needsSync, decide_eq_true_eq] at hdue
  simp only [TimeKeeper.syncPending, decide_eq_true_eq]
  bv_omega

end TimeKeeper

/-- The sheet of the peripheral `p`, and no other. -/
def Peripheral.Only (p q : Peripheral) : Prop := q = p

lemma Peripheral.only_self (p : Peripheral) : p.Only p := rfl

namespace SharedState

/-- One call of a peripheral on the state it is handed, `own` being the sheets it
may touch.  The counters are those of the GPU. -/
inductive Service (own : Peripheral → Prop) (sh : SharedState) : SharedState → Prop
  | sync {who : Peripheral} : own who → Service own sh { sh with tk := (sh.tk.sync who).2 }
  | setNextSyncDelta {who : Peripheral} (delta : Cycles) : own who →
      Service own sh { sh with tk := sh.tk.setNextSyncDelta who delta }
  | noSyncNeeded {who : Peripheral} : own who →
      Service own sh { sh with tk := sh.tk.noSyncNeeded who }
  | maybeSetNextSyncDelta (delta : Cycles) : own .cdRom →
      Service own sh { sh with tk := sh.tk.maybeSetNextSyncDelta .cdRom delta }
  | assert (which : Interrupt) :
      Service own sh { sh with irqState := sh.irqState.assert which }
  | count (counters : Counters) : own .gpu → Service own sh { sh with counters := counters }

/-- Any number of calls. -/
def Served (own : Peripheral → Prop) : SharedState → SharedState → Prop :=
  Relation.ReflTransGen (Service own)

variable {own : Peripheral → Prop} {sh sh' sh'' : SharedState} {p : Peripheral}

lemma Served.refl (sh : SharedState) : Served own sh sh := Relation.ReflTransGen.refl

lemma Served.trans (h : Served own sh sh') (h' : Served own sh' sh'') : Served own sh sh'' :=
  Relation.ReflTransGen.trans h h'

lemma Service.served (h : Service own sh sh') : Served own sh sh' := .single h

lemma Served.mono {own' : Peripheral → Prop} (hle : ∀ p, own p → own' p)
    (h : Served own sh sh') : Served own' sh sh' := by
  induction h with
  | refl => exact .refl _
  | tail _ hstep ih =>
      refine ih.trans (Service.served ?_)
      cases hstep with
      | sync hw => exact .sync (hle _ hw)
      | setNextSyncDelta delta hw => exact .setNextSyncDelta delta (hle _ hw)
      | noSyncNeeded hw => exact .noSyncNeeded (hle _ hw)
      | maybeSetNextSyncDelta delta hw => exact .maybeSetNextSyncDelta delta (hle _ hw)
      | assert which => exact .assert which
      | count counters hw => exact .count counters (hle _ hw)

/-! ### What they leave alone -/

lemma Service.now (h : Service own sh sh') : sh'.tk.now = sh.tk.now := by
  cases h with
  | maybeSetNextSyncDelta delta _ =>
      simp only [TimeKeeper.maybeSetNextSyncDelta, TimeKeeper.maybeSetNextSync]
      split_ifs <;> rfl
  | _ => rfl

/-- No peripheral moves the clock. -/
lemma Served.now (h : Served own sh sh') : sh'.tk.now = sh.tk.now := by
  induction h with
  | refl => rfl
  | tail _ hstep ih => exact hstep.now.trans ih

lemma Service.sheet (h : Service own sh sh') (hp : ¬own p) :
    sh'.tk.timesheets p = sh.tk.timesheets p := by
  have hne {who : Peripheral} (hw : own who) : p ≠ who := fun heq => hp (heq ▸ hw)
  cases h with
  | sync hw | setNextSyncDelta _ hw | noSyncNeeded hw =>
      exact TimeKeeper.setSheet_of_ne _ _ (hne hw)
  | maybeSetNextSyncDelta delta hw =>
      simp only [TimeKeeper.maybeSetNextSyncDelta, TimeKeeper.maybeSetNextSync]
      split_ifs
      · exact TimeKeeper.setSheet_of_ne _ _ (hne hw)
      · rfl
  | assert | count => rfl

/-- The sheets of the others are left alone. -/
lemma Served.sheet (h : Served own sh sh') (hp : ¬own p) :
    sh'.tk.timesheets p = sh.tk.timesheets p := by
  induction h with
  | refl => rfl
  | tail _ hstep ih => exact (hstep.sheet hp).trans ih

lemma Served.counters (h : Served own sh sh') (hgpu : ¬own .gpu) :
    sh'.counters = sh.counters := by
  induction h with
  | refl => rfl
  | tail _ hstep ih =>
      rw [← ih]
      cases hstep with
      | count counters hw => exact absurd hw hgpu
      | _ => rfl

/-- Interrupts are asserted, never taken down or masked. -/
lemma Served.raised (h : Served own sh sh') : sh.irqState.Raised sh'.irqState := by
  induction h with
  | refl => exact .refl _
  | tail _ hstep ih =>
      refine ih.trans ?_
      cases hstep with
      | assert which => exact InterruptState.raised_assert _ which
      | _ => exact .refl _

/-! ### The cached date -/

lemma Service.cached (h : Service own sh sh') (hp : p ≠ .cdRom) (hc : sh.tk.CachedFor p) :
    sh'.tk.CachedFor p := by
  -- a sheet that is replaced keeps its date, or is given a later one
  have hset {who : Peripheral} {t : TimeSheet}
      (ht : t.nextSync = (sh.tk.timesheets who).nextSync ∨ t.nextSync = BitVec.allOnes 64) :
      (sh.tk.setSheet who t).CachedFor p := by
    unfold TimeKeeper.CachedFor at hc ⊢
    rw [TimeKeeper.setSheet_nextSync]
    by_cases hw : p = who
    · subst hw
      rw [TimeKeeper.setSheet_self]
      rcases ht with ht | ht
      · rwa [ht]
      · rw [ht, BitVec.le_def, BitVec.toNat_allOnes]
        omega
    · rwa [TimeKeeper.setSheet_of_ne _ _ hw]
  cases h with
  | sync _ => exact hset (.inl rfl)
  | setNextSyncDelta delta _ => exact TimeKeeper.cachedFor_setNextSyncDelta hc _ delta
  | noSyncNeeded _ => exact hset (.inr rfl)
  | maybeSetNextSyncDelta delta _ =>
      unfold TimeKeeper.CachedFor at hc ⊢
      simp only [TimeKeeper.maybeSetNextSyncDelta, TimeKeeper.maybeSetNextSync]
      split_ifs
      · rw [TimeKeeper.setSheet_nextSync, TimeKeeper.setSheet_of_ne _ _ hp]
        exact hc
      · exact hc
  | assert | count => exact hc

/-- The cached date stays valid for every sheet but that of the CD-ROM. -/
lemma Served.cached (h : Served own sh sh') (hp : p ≠ .cdRom) (hc : sh.tk.CachedFor p) :
    sh'.tk.CachedFor p := by
  induction h with
  | refl => exact hc
  | tail _ hstep ih => exact hstep.cached hp ih

/-! ### The date of the last synchronisation -/

lemma Service.lastSync (h : Service own sh sh') :
    (sh'.tk.timesheets p).lastSync = (sh.tk.timesheets p).lastSync ∨
      (sh'.tk.timesheets p).lastSync = sh.tk.now := by
  have hset {who : Peripheral} {t : TimeSheet}
      (ht : t.lastSync = (sh.tk.timesheets who).lastSync ∨ t.lastSync = sh.tk.now) :
      ((sh.tk.setSheet who t).timesheets p).lastSync = (sh.tk.timesheets p).lastSync ∨
        ((sh.tk.setSheet who t).timesheets p).lastSync = sh.tk.now := by
    by_cases hw : p = who
    · subst hw
      rwa [TimeKeeper.setSheet_self]
    · exact .inl (by rw [TimeKeeper.setSheet_of_ne _ _ hw])
  cases h with
  | sync _ => exact hset (.inr rfl)
  | setNextSyncDelta | noSyncNeeded => exact hset (.inl rfl)
  | maybeSetNextSyncDelta delta _ =>
      simp only [TimeKeeper.maybeSetNextSyncDelta, TimeKeeper.maybeSetNextSync]
      split_ifs
      · exact hset (.inl rfl)
      · exact .inl rfl
  | assert | count => exact .inl rfl

/-- A sheet is either left with the date of its last synchronisation or brought up
to the current date. -/
lemma Served.lastSync (h : Served own sh sh') :
    (sh'.tk.timesheets p).lastSync = (sh.tk.timesheets p).lastSync ∨
      (sh'.tk.timesheets p).lastSync = sh.tk.now := by
  induction h with
  | refl => exact .inl rfl
  | tail hfirst hstep ih =>
      rcases hstep.lastSync (p := p) with hsame | hnow
      · rwa [hsame]
      · exact .inr (hnow.trans (Served.now hfirst))

/-- A sheet that has been synchronised is up to date, whatever comes after. -/
lemma Served.lastSync_synced (h : Served own { sh with tk := (sh.tk.sync p).2 } sh') :
    (sh'.tk.timesheets p).lastSync = sh'.tk.now := by
  rw [h.now]
  rcases h.lastSync (p := p) with hsame | hnow
  · rw [hsame]
    exact congrArg TimeSheet.lastSync (TimeKeeper.setSheet_self ..)
  · exact hnow

/-! ### Transfers -/

/-- `n` cycles have passed, and interrupts have been asserted. -/
structure Delayed (n : ℕ) (sh sh' : SharedState) : Prop where
  tk : sh'.tk = sh.tk.tick (BitVec.ofNat 64 n)
  raised : sh.irqState.Raised sh'.irqState
  counters : sh'.counters = sh.counters

lemma Delayed.refl (sh : SharedState) : Delayed 0 sh sh where
  tk := by rw [TimeKeeper.tick, BitVec.add_zero]
  raised := .refl _
  counters := rfl

lemma Delayed.trans {m n : ℕ} (h : Delayed m sh sh') (h' : Delayed n sh' sh'') :
    Delayed (m + n) sh sh'' where
  tk := by
    rw [h'.tk, h.tk, BitVec.ofNat_add]
    simp only [TimeKeeper.tick, BitVec.add_assoc]
  raised := h.raised.trans h'.raised
  counters := h'.counters.trans h.counters

lemma delayed_tick (sh : SharedState) (cycles : Cycles) :
    Delayed cycles.toNat sh (sh.tick cycles) where
  tk := by
    rw [BitVec.ofNat_toNat, BitVec.setWidth_eq]
    rfl
  raised := .refl _
  counters := rfl

end SharedState

end Rustation
