import Mathlib.Tactic
import Rustation.Lib.Run

/-!
The time keeper of `timekeeper.rs`: the current date, one time sheet for each
peripheral, and the cached date of the next forced synchronisation.

Dates are 64 bit words and all arithmetic on them wraps, as in a build without
overflow checks; a build with them has fewer runs, so what is proved of every
run here holds there too.

* `TimeKeeper`, `TimeSheet`: the state, the sheets indexed by `Peripheral`
  where the source indexes an array by the enumeration's value;
* `Op`, `apply`: a call of one of the seven operations that change the state;
* `WakeUp`: the cached date is not later than any sheet's date, so that a due
  sheet is seen by `syncPending`.  `wakeUp_iff_cached` reduces it to `Cached`;
* `Overtakes`: the one call that can break it, a `maybe_set_next_sync` that
  brings a sheet forward past the cached date.  `cached_apply_iff` is the step
  lemma, `wakeUp_along_iff` the statement about whole runs.
-/

namespace Rustation

/-- The peripherals that own a time sheet. -/
inductive Peripheral where
  | gpu | timer0 | timer1 | timer2 | padMemCard | cdRom
  deriving DecidableEq, Repr

/-- 64 bit timestamps, in periods of the CPU clock. -/
abbrev Cycles := BitVec 64

/-! ### Time sheets -/

/-- The advancement of one peripheral. -/
structure TimeSheet where
  /-- date of the last synchronisation -/
  lastSync : Cycles
  /-- date of the next forced synchronisation -/
  nextSync : Cycles
  deriving DecidableEq, Repr

namespace TimeSheet

/-- A fresh sheet is due at once, so that the peripheral initialises itself. -/
def new : TimeSheet := ⟨0, 0⟩

/-- Forward the sheet to the date `now` and return the time elapsed since the
last synchronisation. -/
def sync (t : TimeSheet) (now : Cycles) : Cycles × TimeSheet :=
  (now - t.lastSync, { t with lastSync := now })

def setNextSync (t : TimeSheet) (date : Cycles) : TimeSheet := { t with nextSync := date }

def needsSync (t : TimeSheet) (now : Cycles) : Bool := t.nextSync ≤ now

end TimeSheet

/-! ### The time keeper -/

/-- The state of `TimeKeeper`. -/
structure TimeKeeper where
  /-- the current date -/
  now : Cycles
  /-- next time a peripheral needs an update -/
  nextSync : Cycles
  timesheets : Peripheral → TimeSheet

namespace TimeKeeper

def new : TimeKeeper := ⟨0, 0, fun _ => .new⟩

/-- Replace the sheet of `who`. -/
def setSheet (tk : TimeKeeper) (who : Peripheral) (t : TimeSheet) : TimeKeeper :=
  { tk with timesheets := Function.update tk.timesheets who t }

def tick (tk : TimeKeeper) (cycles : Cycles) : TimeKeeper := { tk with now := tk.now + cycles }

def sync (tk : TimeKeeper) (who : Peripheral) : Cycles × TimeKeeper :=
  let (delta, t) := (tk.timesheets who).sync tk.now
  (delta, tk.setSheet who t)

def setNextSyncDelta (tk : TimeKeeper) (who : Peripheral) (delta : Cycles) : TimeKeeper :=
  let date := tk.now + delta
  { tk.setSheet who ((tk.timesheets who).setNextSync date) with
    nextSync := if date < tk.nextSync then date else tk.nextSync }

/-- Bring the next synchronisation of `who` forward to `date`, never back.  The
cached date is left alone. -/
def maybeSetNextSync (tk : TimeKeeper) (who : Peripheral) (date : Cycles) : TimeKeeper :=
  let t := tk.timesheets who
  if t.nextSync > date then tk.setSheet who (t.setNextSync date) else tk

def maybeSetNextSyncDelta (tk : TimeKeeper) (who : Peripheral) (delta : Cycles) : TimeKeeper :=
  tk.maybeSetNextSync who (tk.now + delta)

/-- No event is scheduled: a distant date stands for none. -/
def noSyncNeeded (tk : TimeKeeper) (who : Peripheral) : TimeKeeper :=
  tk.setSheet who ((tk.timesheets who).setNextSync (BitVec.allOnes 64))

def syncPending (tk : TimeKeeper) : Bool := tk.nextSync ≤ tk.now

def needsSync (tk : TimeKeeper) (who : Peripheral) : Bool :=
  (tk.timesheets who).needsSync tk.now

/-- The earlier of two dates. -/
def earlier (a b : Cycles) : Cycles := if b < a then b else a

/-- The earliest date of the six sheets. -/
def earliest (tk : TimeKeeper) : Cycles :=
  let date := fun p => (tk.timesheets p).nextSync
  [date .timer0, date .timer1, date .timer2, date .padMemCard, date .cdRom].foldl
    earlier (date .gpu)

def updateSyncPending (tk : TimeKeeper) : TimeKeeper := { tk with nextSync := tk.earliest }

/-! ### The dates of the sheets after each operation -/

@[simp] lemma setSheet_now (tk : TimeKeeper) (who : Peripheral) (t : TimeSheet) :
    (tk.setSheet who t).now = tk.now := rfl

@[simp] lemma setSheet_nextSync (tk : TimeKeeper) (who : Peripheral) (t : TimeSheet) :
    (tk.setSheet who t).nextSync = tk.nextSync := rfl

@[simp] lemma setSheet_self (tk : TimeKeeper) (who : Peripheral) (t : TimeSheet) :
    (tk.setSheet who t).timesheets who = t := by
  simp [setSheet]

lemma setSheet_of_ne (tk : TimeKeeper) {who p : Peripheral} (t : TimeSheet) (h : p ≠ who) :
    (tk.setSheet who t).timesheets p = tk.timesheets p := by
  simp [setSheet, h]

@[simp] lemma updateSyncPending_nextSync (tk : TimeKeeper) :
    tk.updateSyncPending.nextSync = tk.earliest := by rw [updateSyncPending]

@[simp] lemma updateSyncPending_timesheets (tk : TimeKeeper) :
    tk.updateSyncPending.timesheets = tk.timesheets := rfl

/-! ### Runs of the time keeper -/

/-- A call of one of the operations that change the state. -/
inductive Op where
  | tick (cycles : Cycles)
  | sync (who : Peripheral)
  | setNextSyncDelta (who : Peripheral) (delta : Cycles)
  | maybeSetNextSync (who : Peripheral) (date : Cycles)
  | maybeSetNextSyncDelta (who : Peripheral) (delta : Cycles)
  | noSyncNeeded (who : Peripheral)
  | updateSyncPending
  deriving DecidableEq, Repr

/-- The state a call leaves. -/
def apply (tk : TimeKeeper) : Op → TimeKeeper
  | .tick cycles => tk.tick cycles
  | .sync who => (tk.sync who).2
  | .setNextSyncDelta who delta => tk.setNextSyncDelta who delta
  | .maybeSetNextSync who date => tk.maybeSetNextSync who date
  | .maybeSetNextSyncDelta who delta => tk.maybeSetNextSyncDelta who delta
  | .noSyncNeeded who => tk.noSyncNeeded who
  | .updateSyncPending => tk.updateSyncPending

/-- The cached date is not later than the date of any sheet. -/
def Cached (tk : TimeKeeper) : Prop := ∀ p, tk.nextSync ≤ (tk.timesheets p).nextSync

/-- The call brings a sheet forward past the cached date, without moving the
cached date along. -/
def Overtakes (tk : TimeKeeper) : Op → Prop
  | .maybeSetNextSync who date =>
      date < (tk.timesheets who).nextSync ∧ date < tk.nextSync
  | .maybeSetNextSyncDelta who delta =>
      tk.now + delta < (tk.timesheets who).nextSync ∧ tk.now + delta < tk.nextSync
  | _ => False

/-- The wake-up law of the time keeper: the cached date is not later than the
earliest sheet, and a due peripheral is seen by `syncPending`. -/
def WakeUp (tk : TimeKeeper) : Prop :=
  tk.nextSync ≤ tk.earliest ∧ ∀ p, tk.needsSync p → tk.syncPending

lemma le_earlier_iff {a b c : Cycles} : c ≤ earlier a b ↔ c ≤ a ∧ c ≤ b := by
  unfold earlier
  split_ifs with h <;> bv_omega

/-- `earliest` is the minimum of the six dates. -/
lemma le_earliest_iff {tk : TimeKeeper} {c : Cycles} :
    c ≤ tk.earliest ↔ ∀ p, c ≤ (tk.timesheets p).nextSync := by
  simp only [earliest, List.foldl_cons, List.foldl_nil, le_earlier_iff]
  constructor
  · rintro ⟨⟨⟨⟨⟨hg, h0⟩, h1⟩, h2⟩, hp⟩, hc⟩ p
    cases p <;> assumption
  · intro h
    exact ⟨⟨⟨⟨⟨h .gpu, h .timer0⟩, h .timer1⟩, h .timer2⟩, h .padMemCard⟩, h .cdRom⟩

lemma wakeUp_iff_cached {tk : TimeKeeper} : tk.WakeUp ↔ tk.Cached := by
  constructor
  · exact fun h => le_earliest_iff.mp h.1
  · intro h
    refine ⟨le_earliest_iff.mpr h, fun p hp => ?_⟩
    have hcache := h p
    simp only [needsSync, TimeSheet.needsSync, decide_eq_true_eq] at hp
    simp only [syncPending, decide_eq_true_eq]
    bv_omega

/-- Replacing one sheet keeps the cache valid exactly when the new date is not
earlier than the cached one. -/
lemma cached_setSheet_iff {tk : TimeKeeper} (h : tk.Cached) (who : Peripheral) (t : TimeSheet) :
    (tk.setSheet who t).Cached ↔ tk.nextSync ≤ t.nextSync := by
  constructor
  · intro h'
    simpa using h' who
  · intro ht p
    by_cases hp : p = who
    · subst hp
      simpa using ht
    · simpa [setSheet_of_ne tk t hp] using h p

lemma cached_setNextSyncDelta {tk : TimeKeeper} (h : tk.Cached) (who : Peripheral)
    (delta : Cycles) : (tk.setNextSyncDelta who delta).Cached := by
  intro p
  by_cases hp : p = who
  · subst hp
    simp only [setNextSyncDelta, setSheet_self, TimeSheet.setNextSync]
    split_ifs <;> bv_omega
  · have hcache := h p
    simp only [setNextSyncDelta, setSheet_of_ne tk _ hp]
    split_ifs <;> bv_omega

lemma cached_maybeSetNextSync_iff {tk : TimeKeeper} (h : tk.Cached) (who : Peripheral)
    (date : Cycles) :
    (tk.maybeSetNextSync who date).Cached
      ↔ ¬(date < (tk.timesheets who).nextSync ∧ date < tk.nextSync) := by
  simp only [maybeSetNextSync]
  by_cases hgt : (tk.timesheets who).nextSync > date
  · rw [if_pos hgt, cached_setSheet_iff h]
    simp only [TimeSheet.setNextSync]
    bv_omega
  · rw [if_neg hgt]
    exact ⟨fun _ hlow => hgt hlow.1, fun _ => h⟩

/-- The step lemma: a call keeps the cache valid exactly when it does not bring
a sheet forward past the cached date. -/
lemma cached_apply_iff {tk : TimeKeeper} (h : tk.Cached) (op : Op) :
    (tk.apply op).Cached ↔ ¬tk.Overtakes op := by
  cases op with
  | tick cycles => exact ⟨fun _ => id, fun _ => h⟩
  | sync who =>
      refine ⟨fun _ => id, fun _ => (cached_setSheet_iff h who _).mpr ?_⟩
      exact h who
  | setNextSyncDelta who delta =>
      exact ⟨fun _ => id, fun _ => cached_setNextSyncDelta h who delta⟩
  | maybeSetNextSync who date => exact cached_maybeSetNextSync_iff h who date
  | maybeSetNextSyncDelta who delta => exact cached_maybeSetNextSync_iff h who (tk.now + delta)
  | noSyncNeeded who =>
      refine ⟨fun _ => id, fun _ => (cached_setSheet_iff h who _).mpr ?_⟩
      simp only [TimeSheet.setNextSync, BitVec.le_def, BitVec.toNat_allOnes]
      omega
  | updateSyncPending =>
      refine ⟨fun _ => id, fun _ p => ?_⟩
      rw [apply, updateSyncPending_nextSync, updateSyncPending_timesheets]
      exact le_earliest_iff.mp (BitVec.le_refl tk.earliest) p

lemma cached_new : new.Cached := fun _ => by simp [new, TimeSheet.new]

/-- **The wake-up law along runs.**  Along a sequence of calls from a fresh
time keeper the wake-up law holds in every state reached exactly when no call
brings a sheet forward past the cached date. -/
theorem wakeUp_along_iff (ops : List Op) :
    Run.Along apply WakeUp new ops ↔ Run.Steps apply (fun tk op => ¬tk.Overtakes op) new ops :=
  Run.along_iff_steps
    (fun tk op h => by
      rw [wakeUp_iff_cached]
      exact cached_apply_iff (wakeUp_iff_cached.mp h) op)
    (wakeUp_iff_cached.mpr cached_new) ops

/-- A schedule the law fails on: all six sheets are set 100 cycles ahead, the
CD-ROM sheet is then brought forward to 50, and 60 cycles pass. -/
def overtaken : List Op :=
  [.setNextSyncDelta .gpu 100, .setNextSyncDelta .timer0 100, .setNextSyncDelta .timer1 100,
    .setNextSyncDelta .timer2 100, .setNextSyncDelta .padMemCard 100,
    .setNextSyncDelta .cdRom 100, .updateSyncPending, .maybeSetNextSync .cdRom 50, .tick 60]

/-- At the end of `overtaken` the CD-ROM is due and no synchronisation is
pending. -/
theorem overtaken_missed :
    let tk := overtaken.foldl apply new
    tk.needsSync .cdRom = true ∧ tk.syncPending = false ∧ ¬Run.Along apply WakeUp new overtaken := by
  refine ⟨by decide, by decide, fun h => ?_⟩
  exact absurd (h.last.2 .cdRom (by decide)) (by decide)

end TimeKeeper

end Rustation
