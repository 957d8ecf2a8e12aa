import Rustation.PadMemCard.Controller

/-!
Transactions with the pads: a port is selected, bytes are sent to it one after the
other, and the response to each is read once its transfer is over.

* `Exchange`, `transact`: the program's side, with any waiting in between that does
  not touch the received byte;
* `GamePad.replies`: what a pad answers to a sequence of bytes;
* `Waiting`, `InFlight`, `Received`: the states of an exchange.  `exchange_eq` runs
  one of them, `exchanges_eq` a whole transaction;
* `opened`: the pad of a port as a transaction finds it.  Only the pad of the first
  port is told that it has been selected;
* `answers_iff`: a port answers what its pad replies, `ports_answer_iff` the result.
-/

namespace Rustation

open Fallible

/-! ### Replies -/

namespace GamePad

/-- The answers to a sequence of bytes. -/
def replies : GamePad → List U8 → List (U8 × Bool)
  | _, [] => []
  | pad, cmd :: cmds => (pad.sendCommand cmd).1 :: replies (pad.sendCommand cmd).2 cmds

end GamePad

/-- The answers that a digital pad is to give: its two identification bytes after the
first one, then the buttons, with a DSR pulse after all but the last. -/
def buttonReplies (b : U16) : List (U8 × Bool) :=
  [(0xff, true), (0x41, true), (0x5a, true), (b.setWidth 8, true), ((b >>> 8).setWidth 8, false)]

/-- A pad answers so exactly if it is at the start of its sequence. -/
lemma replies_eq_iff {pad : GamePad} {b : U16} (h : pad.profile = .digital b) :
    (∀ x y z, pad.replies [0x01, 0x42, x, y, z] = buttonReplies b) ↔
      pad.active = true ∧ pad.seq = 0 := by
  obtain ⟨profile, seq, active⟩ := pad
  dsimp only at h ⊢
  subst h
  constructor
  · intro hreplies
    have hlist := hreplies 0 0 0
    simp only [GamePad.replies, buttonReplies, List.cons.injEq] at hlist
    obtain ⟨hfirst, hsecond, -⟩ := hlist
    cases active with
    | false => simp [GamePad.sendCommand] at hfirst
    | true =>
        refine ⟨rfl, BitVec.eq_of_toNat_eq ?_⟩
        -- the first two answers tell the position in the sequence
        have hhandle : Profile.handleCommand (.digital b) seq 0x01 = (0xff, true) := hfirst
        unfold Profile.handleCommand at hhandle
        dsimp only at hhandle
        split at hhandle
        · next h0 => exact h0
        · simp at hhandle
        · simp at hhandle
        · next h3 =>
            have hseq : seq = 3 := BitVec.eq_of_toNat_eq h3
            subst hseq
            have hlast : Profile.handleCommand (.digital b) 4 0x42 = (0x41, true) := hsecond
            simp [Profile.handleCommand] at hlast
        · simp at hhandle
        · simp at hhandle
  · rintro ⟨rfl, rfl⟩ x y z
    simp [GamePad.replies, GamePad.sendCommand, Profile.handleCommand, buttonReplies]

/-- The bus carries a DSR pulse. -/
def BusState.pulsing : BusState → Bool
  | .dsr _ => true
  | _ => false

def Target.other : Target → Target
  | .padMemCard1 => .padMemCard2
  | .padMemCard2 => .padMemCard1

namespace PadMemCard

/-! ### The program's side -/

/-- The pad in a port. -/
def pad (p : PadMemCard) : Target → GamePad
  | .padMemCard1 => p.pad1
  | .padMemCard2 => p.pad2

/-- An access that neither writes a register nor reads the received byte. -/
def Quiet : Access → Prop
  | .sync => True
  | .load _ offset => offset.toNat ∈ [4, 8, 10, 14]
  | .store .. => False

/-- Wait: accesses, each after some cycles.  The flag tells whether a DSR pulse has
been on the bus. -/
def wait (s : Shared) : List (Cycles × Access) → Outcome (Bool × Shared)
  | [] => pure (false, s)
  | w :: ws => do
      let s ← access (s.1, s.2.tick w.1) w.2
      let (seen, s') ← wait s ws
      pure (s.1.bus.pulsing || seen, s')

/-- A byte to send, with the waiting before and after. -/
structure Exchange where
  before : List (Cycles × Access)
  delay : Cycles
  cmd : U8
  after : List (Cycles × Access)
  last : Cycles

/-- Send the byte, and read the response: its value, and whether a DSR pulse has
followed the transfer. -/
def exchange (s : Shared) (x : Exchange) : Outcome ((U8 × Bool) × Shared) := do
  let (_, s) ← wait s x.before
  let s ← access (s.1, s.2.tick x.delay) (.store .byte 0 (x.cmd.setWidth 32))
  let (seen, s) ← wait s x.after
  let (v, s) ← s.1.load (s.2.tick x.last) .byte 0
  pure ((v.setWidth 8, seen || s.1.bus.pulsing), s)

def exchanges (s : Shared) : List Exchange → Outcome (List (U8 × Bool) × Shared)
  | [] => pure ([], s)
  | x :: xs => do
      let (r, s) ← exchange s x
      let (rs, s) ← exchanges s xs
      pure (r :: rs, s)

/-- Write the control register, then exchange bytes. -/
def transact (s : Shared) (delay : Cycles) (ctrl : U16) (xs : List Exchange) :
    Outcome (List (U8 × Bool) × Shared) := do
  let s ← access (s.1, s.2.tick delay) (.store .halfWord 10 (ctrl.setWidth 32))
  exchanges s xs

/-- The control word sets `tx_en` and `select` for the target, and no bit that the
controller does not support. -/
structure Opens (ctrl : U16) (t : Target) : Prop where
  txEn : (ctrl &&& 1 != 0) = true
  select : (ctrl >>> 1 &&& 1 != 0) = true
  rxEn : (ctrl >>> 2 &&& 1 != 0) = false
  reset : (ctrl &&& 0x40 != 0) = false
  interrupts : (ctrl &&& 0xf00 != 0) = false
  target : Target.fromControl ctrl = t

lemma exists_opens (t : Target) : ∃ ctrl, Opens ctrl t := by
  cases t with
  | padMemCard1 => exact ⟨0x0003, by decide, by decide, by decide, by decide, by decide, by decide⟩
  | padMemCard2 => exact ⟨0x2003, by decide, by decide, by decide, by decide, by decide, by decide⟩

/-- The waiting is quiet, and the transfer is allowed to finish. -/
structure Exchange.Finishes (x : Exchange) (baudDiv : U16) : Prop where
  before : ∀ w ∈ x.before, Quiet w.2
  after : ∀ w ∈ x.after, Quiet w.2
  time : 8 * baudDiv.toNat ≤ (x.after.map fun w => w.1.toNat).sum + x.last.toNat

/-- A transaction with the target, whatever its timing, gets the responses `rs`. -/
def Answers (s : Shared) (t : Target) (bytes : List U8) (rs : List (U8 × Bool)) : Prop :=
  ∀ delay ctrl xs, Opens ctrl t → xs.map Exchange.cmd = bytes →
    (∀ x ∈ xs, x.Finishes s.1.baudDiv) → ∃ s', transact s delay ctrl xs = .ok (rs, s')

/-- The port is deselected, the bus idle and the received byte read. -/
structure Ready (p : PadMemCard) : Prop where
  select : p.select = false
  bus : p.bus = .idle
  read : p.rxNotEmpty = false

/-! ### The states of an exchange -/

/-- What a synchronisation leaves alone. -/
structure Setup where
  txEn : Bool
  select : Bool
  target : Target
  baudDiv : U16
  pad1 : GamePad
  pad2 : GamePad

def setup (p : PadMemCard) : Setup where
  txEn := p.txEn
  select := p.select
  target := p.target
  baudDiv := p.baudDiv
  pad1 := p.pad1
  pad2 := p.pad2

/-- The pad that is addressed. -/
def Setup.pad (σ : Setup) : GamePad :=
  match σ.target with
  | .padMemCard1 => σ.pad1
  | .padMemCard2 => σ.pad2

/-- A byte has been sent to the pad that is addressed. -/
def Setup.send (σ : Setup) (cmd : U8) : Setup :=
  match σ.target with
  | .padMemCard1 => { σ with pad1 := (σ.pad1.sendCommand cmd).2 }
  | .padMemCard2 => { σ with pad2 := (σ.pad2.sendCommand cmd).2 }

/-- There is no transfer, and no byte to be read. -/
structure Waiting (σ : Setup) (s : Shared) : Prop where
  setup : s.1.setup = σ
  read : s.1.rxNotEmpty = false
  bus : ∀ r d delay, s.1.bus ≠ .transfer r d delay

/-- A transfer has so many cycles left. -/
structure InFlight (σ : Setup) (r : U8) (d : Bool) (left : ℕ) (s : Shared) : Prop where
  setup : s.1.setup = σ
  read : s.1.rxNotEmpty = false
  bus : ∃ delay, s.1.bus = .transfer r d delay ∧ delay.toNat = left
  last : lastSync s.2 = s.2.tk.now

/-- The response is there, and a DSR pulse may be on the bus if the pad gives one. -/
structure Received (σ : Setup) (r : U8) (d : Bool) (s : Shared) : Prop where
  setup : s.1.setup = σ
  full : s.1.rxNotEmpty = true
  response : s.1.response = r
  bus : ∀ r d delay, s.1.bus ≠ .transfer r d delay
  idle : d = false → s.1.bus = .idle

section

variable {σ : Setup} {s : Shared} {r : U8} {d : Bool} {left : ℕ}

lemma access_quiet {a : Access} (ha : Quiet a) (s : Shared) : access s a = s.1.sync s.2 := by
  cases a with
  | sync => rfl
  | load width offset =>
      simp only [Quiet, List.mem_cons, List.not_mem_nil, or_false] at ha
      cases hsync : s.1.sync s.2 with
      | error e => simp [access, load, hsync]
      | ok s' => rcases ha with h | h | h | h <;> simp [access, load, hsync, h]
  | store width offset val => exact ha.elim

/-- Without a transfer a synchronisation lets a DSR pulse go on or end. -/
lemma sync_settled (hbus : ∀ r d delay, s.1.bus ≠ .transfer r d delay) : ∃ s',
    s.1.sync s.2 = .ok s' ∧ s'.1.setup = s.1.setup ∧ s'.1.rxNotEmpty = s.1.rxNotEmpty ∧
      s'.1.response = s.1.response ∧ (∀ r d delay, s'.1.bus ≠ .transfer r d delay) ∧
      (s.1.bus = .idle → s'.1.bus = .idle) ∧ lastSync s'.2 = s'.2.tk.now := by
  cases hs : s.1.bus with
  | idle => exact ⟨_, sync_idle hs, rfl, rfl, rfl, hbus, fun _ => hs, lastSync_unscheduled⟩
  | transfer r d delay => exact absurd hs (hbus r d delay)
  | dsr delay =>
      refine ⟨_, sync_dsr hs, ?_⟩
      split_ifs
      · exact ⟨rfl, rfl, rfl, by simp, by simp, lastSync_unscheduled⟩
      · exact ⟨rfl, rfl, rfl, by simp, by simp, lastSync_unscheduled⟩

lemma Waiting.sync (h : Waiting σ s) (c : Cycles) : ∃ s',
    s.1.sync (s.2.tick c) = .ok s' ∧ Waiting σ s' ∧ lastSync s'.2 = s'.2.tk.now := by
  obtain ⟨s', hs', hsetup, hread, -, hbus, -, hlast⟩ :=
    sync_settled (s := (s.1, s.2.tick c)) h.bus
  exact ⟨s', hs', ⟨hsetup.trans h.setup, hread.trans h.read, hbus⟩, hlast⟩

lemma Received.sync (h : Received σ r d s) (c : Cycles) : ∃ s',
    s.1.sync (s.2.tick c) = .ok s' ∧ Received σ r d s' := by
  obtain ⟨s', hs', hsetup, hread, hresponse, hbus, hidle, -⟩ :=
    sync_settled (s := (s.1, s.2.tick c)) h.bus
  exact ⟨s', hs', hsetup.trans h.setup, hread.trans h.full, hresponse.trans h.response, hbus,
    fun hd => hidle (h.idle hd)⟩

/-- A transfer goes on, or its response is there and the pulse on the bus. -/
lemma InFlight.sync (h : InFlight σ r d left s) (c : Cycles) : ∃ s',
    s.1.sync (s.2.tick c) = .ok s' ∧
      (c.toNat < left ∧ InFlight σ r d (left - c.toNat) s' ∨
        left ≤ c.toNat ∧ Received σ r d s' ∧ s'.1.bus.pulsing = d) := by
  obtain ⟨delay, hbus, rfl⟩ := h.bus
  have helapsed : elapsed (s.2.tick c) = c := by
    change s.2.tk.now + c - lastSync s.2 = c
    rw [h.last]
    bv_omega
  by_cases hlt : c < delay
  · refine ⟨_, sync_transfer hbus (by rwa [helapsed]), .inl ⟨BitVec.lt_def.mp hlt, h.setup, h.read,
      ⟨_, rfl, ?_⟩, ?_⟩⟩
    · rw [helapsed]
      bv_omega
    · split_ifs <;> simp
  · refine ⟨_, sync_end hbus (by rwa [helapsed]) h.read,
      .inr ⟨by bv_omega, ⟨h.setup, rfl, rfl, ?_, ?_⟩,
      ?_⟩⟩
    · cases d <;> simp [ended]
    · rintro rfl
      rfl
    · cases d <;> rfl

/-! ### Waiting -/

variable {ws : List (Cycles × Access)}

lemma Waiting.wait (h : Waiting σ s) (hws : ∀ w ∈ ws, Quiet w.2) :
    ∃ seen s', PadMemCard.wait s ws = .ok (seen, s') ∧ Waiting σ s' := by
  induction ws generalizing s with
  | nil => exact ⟨false, s, rfl, h⟩
  | cons w ws ih =>
      obtain ⟨s1, hsync, h1, -⟩ := h.sync w.1
      obtain ⟨seen, s', hwait, h'⟩ := ih h1 fun w hw => hws w (List.mem_cons_of_mem _ hw)
      refine ⟨s1.1.bus.pulsing || seen, s', ?_, h'⟩
      rw [PadMemCard.wait, access_quiet (hws w List.mem_cons_self), hsync, ok_bind, hwait]
      rfl

lemma Received.wait (h : Received σ r d s) (hws : ∀ w ∈ ws, Quiet w.2) :
    ∃ seen s', PadMemCard.wait s ws = .ok (seen, s') ∧ Received σ r d s' ∧
      (d = false → seen = false) := by
  induction ws generalizing s with
  | nil => exact ⟨false, s, rfl, h, fun _ => rfl⟩
  | cons w ws ih =>
      obtain ⟨s1, hsync, h1⟩ := h.sync w.1
      obtain ⟨seen, s', hwait, h', hseen⟩ := ih h1 fun w hw => hws w (List.mem_cons_of_mem _ hw)
      refine ⟨s1.1.bus.pulsing || seen, s', ?_, h', fun hd => ?_⟩
      · rw [PadMemCard.wait, access_quiet (hws w List.mem_cons_self), hsync, ok_bind, hwait]
        rfl
      · rw [h1.idle hd, hseen hd]
        rfl

/-- The transfer goes on, or the waiting has shown its end and the pulse. -/
lemma InFlight.wait (h : InFlight σ r d left s) (hws : ∀ w ∈ ws, Quiet w.2) :
    ∃ seen s', PadMemCard.wait s ws = .ok (seen, s') ∧
      (seen = false ∧ InFlight σ r d (left - (ws.map fun w => w.1.toNat).sum) s' ∨
        seen = d ∧ Received σ r d s') := by
  induction ws generalizing s left with
  | nil => exact ⟨false, s, rfl, .inl ⟨rfl, h⟩⟩
  | cons w ws ih =>
      obtain ⟨s1, hsync, hs1⟩ := h.sync w.1
      have hwait {seen : Bool} {s' : Shared} (htail : PadMemCard.wait s1 ws = .ok (seen, s')) :
          PadMemCard.wait s (w :: ws) = .ok (s1.1.bus.pulsing || seen, s') := by
        rw [PadMemCard.wait, access_quiet (hws w List.mem_cons_self), hsync, ok_bind, htail]
        rfl
      have hrest : ∀ w ∈ ws, Quiet w.2 := fun w hw => hws w (List.mem_cons_of_mem _ hw)
      rcases hs1 with ⟨-, h1⟩ | ⟨-, h1, hpulse⟩
      · obtain ⟨seen, s', htail, hs'⟩ := ih h1 hrest
        have hno : s1.1.bus.pulsing = false := by
          obtain ⟨delay, hbus, -⟩ := h1.bus
          rw [hbus]
          rfl
        refine ⟨seen, s', (hwait htail).trans (by rw [hno, Bool.false_or]), ?_⟩
        rwa [List.map_cons, List.sum_cons, ← Nat.sub_sub]
      · obtain ⟨seen, s', htail, hs', hseen⟩ := h1.wait hrest
        refine ⟨_, s', hwait htail, .inr ⟨?_, hs'⟩⟩
        rw [hpulse]
        cases d with
        | false => exact hseen rfl
        | true => rfl

/-! ### Sending and reading -/

lemma toNat_txDuration (p : PadMemCard) : p.txDuration.toNat = 8 * p.baudDiv.toNat := by
  have hlt : p.baudDiv.toNat < 2 ^ 16 := p.baudDiv.isLt
  rw [txDuration, BitVec.toNat_mul, BitVec.toNat_setWidth, show (8 : BitVec 64).toNat = 8 from rfl]
  omega

/-- The selected pad answers. -/
lemma answer_eq {p : PadMemCard} (hselect : p.select = true) (cmd : U8) : ∃ p',
    p.answer cmd = ((p.setup.pad.sendCommand cmd).1, p') ∧ p'.setup = p.setup.send cmd ∧
      p'.rxNotEmpty = p.rxNotEmpty := by
  simp only [answer, hselect, if_true, Setup.pad, Setup.send, setup]
  cases p.target with
  | padMemCard1 => exact ⟨_, rfl, rfl, rfl⟩
  | padMemCard2 => exact ⟨_, rfl, rfl, rfl⟩

lemma Setup.send_baudDiv (σ : Setup) (cmd : U8) : (σ.send cmd).baudDiv = σ.baudDiv := by
  unfold send
  split <;> rfl

lemma Waiting.sendCommand (h : Waiting σ s) (cmd : U8) (htx : σ.txEn = true)
    (hselect : σ.select = true) (hlast : lastSync s.2 = s.2.tk.now) : ∃ s',
    s.1.sendCommand s.2 cmd = .ok s' ∧ InFlight (σ.send cmd) (σ.pad.sendCommand cmd).1.1
      (σ.pad.sendCommand cmd).1.2 (8 * σ.baudDiv.toNat) s' := by
  obtain rfl := h.setup
  obtain ⟨p', hanswer, hsetup, hread⟩ := answer_eq (p := s.1) hselect cmd
  have hbaud : p'.baudDiv = s.1.baudDiv :=
    (congrArg Setup.baudDiv hsetup).trans (Setup.send_baudDiv ..)
  generalize (s.1.setup.pad.sendCommand cmd).1 = res at hanswer ⊢
  refine ⟨({ p' with bus := .transfer res.1 res.2 p'.txDuration },
    { s.2 with tk := s.2.tk.setNextSyncDelta .padMemCard p'.txDuration }),
    ?_, hsetup, hread.trans h.read, ⟨p'.txDuration, rfl, ?_⟩, ?_⟩
  · rw [PadMemCard.sendCommand, show s.1.txEn = true from htx, hanswer]
    rfl
  · rw [toNat_txDuration, hbaud]
    rfl
  · simpa [lastSync, TimeKeeper.setNextSyncDelta, TimeSheet.setNextSync] using hlast

lemma Received.load (h : Received σ r d s) (c : Cycles) : ∃ s',
    s.1.load (s.2.tick c) .byte 0 = .ok (r.setWidth 32, s') ∧ Waiting σ s' ∧
      (d = false → s'.1.bus.pulsing = false) := by
  obtain ⟨s', hsync, h'⟩ := h.sync c
  refine ⟨({ s'.1 with rxNotEmpty := false, response := 0xff }, s'.2), ?_,
    ⟨h'.setup, rfl, h'.bus⟩, fun hd => ?_⟩
  · rw [PadMemCard.load, hsync, ok_bind, ← h'.response]
    rfl
  · change s'.1.bus.pulsing = false
    rw [h'.idle hd]
    rfl

lemma InFlight.load (h : InFlight σ r d left s) {c : Cycles} (hc : left ≤ c.toNat) : ∃ s',
    s.1.load (s.2.tick c) .byte 0 = .ok (r.setWidth 32, s') ∧ Waiting σ s' ∧
      s'.1.bus.pulsing = d := by
  obtain ⟨s', hsync, hs'⟩ := h.sync c
  obtain ⟨hlt, -⟩ | ⟨-, h', hpulse⟩ := hs'
  · omega
  refine ⟨({ s'.1 with rxNotEmpty := false, response := 0xff }, s'.2), ?_,
    ⟨h'.setup, rfl, h'.bus⟩, hpulse⟩
  rw [PadMemCard.load, hsync, ok_bind, ← h'.response]
  rfl

lemma exchange_eq {x : Exchange} (h : Waiting σ s) (htx : σ.txEn = true)
    (hselect : σ.select = true) (hx : x.Finishes σ.baudDiv) : ∃ s',
    exchange s x = .ok ((σ.pad.sendCommand x.cmd).1, s') ∧ Waiting (σ.send x.cmd) s' := by
  obtain ⟨_, s1, hbefore, h1⟩ := h.wait hx.before
  obtain ⟨s2, hsync, h2, hlast⟩ := h1.sync x.delay
  obtain ⟨s3, hsend, h3⟩ := h2.sendCommand x.cmd htx hselect hlast
  obtain ⟨seen, s4, hafter, hs4⟩ := h3.wait hx.after
  have hstore : access (s1.1, s1.2.tick x.delay) (.store .byte 0 (x.cmd.setWidth 32)) = .ok s3 := by
    have hcmd : (x.cmd.setWidth 32).setWidth 8 = x.cmd := by
      rw [BitVec.setWidth_setWidth_of_le _ (by norm_num), BitVec.setWidth_eq]
    change (s1.1.sync (s1.2.tick x.delay) >>= fun q =>
      q.1.sendCommand q.2 ((x.cmd.setWidth 32).setWidth 8)) = .ok s3
    rw [hsync, ok_bind, hcmd, hsend]
  -- the response is the one of the pad, and the pulse has been seen if there is one
  have hread : ∃ s', s4.1.load (s4.2.tick x.last) .byte 0 =
      .ok ((σ.pad.sendCommand x.cmd).1.1.setWidth 32, s') ∧ Waiting (σ.send x.cmd) s' ∧
        (seen || s'.1.bus.pulsing) = (σ.pad.sendCommand x.cmd).1.2 := by
    rcases hs4 with ⟨rfl, h4⟩ | ⟨rfl, h4⟩
    · obtain ⟨s', hload, h', hpulse⟩ := h4.load (c := x.last) (by have := hx.time; omega)
      exact ⟨s', hload, h', by rw [Bool.false_or, hpulse]⟩
    · obtain ⟨s', hload, h', hpulse⟩ := h4.load x.last
      refine ⟨s', hload, h', ?_⟩
      cases hd : (σ.pad.sendCommand x.cmd).1.2 with
      | false => exact hpulse hd
      | true => rfl
  obtain ⟨s', hload, h', hseen⟩ := hread
  refine ⟨s', ?_, h'⟩
  rw [exchange, hbefore]
  simp only [ok_bind, hstore, hafter, hload, hseen]
  rw [BitVec.setWidth_setWidth_of_le _ (by norm_num), BitVec.setWidth_eq]
  rfl

/-! ### Transactions -/

lemma Setup.pad_send (σ : Setup) (cmd : U8) : (σ.send cmd).pad = (σ.pad.sendCommand cmd).2 := by
  unfold send pad
  cases σ.target <;> rfl

lemma exchanges_eq {xs : List Exchange} (h : Waiting σ s) (htx : σ.txEn = true)
    (hselect : σ.select = true) (hxs : ∀ x ∈ xs, x.Finishes σ.baudDiv) : ∃ s',
    exchanges s xs = .ok (σ.pad.replies (xs.map Exchange.cmd), s') := by
  induction xs generalizing σ s with
  | nil => exact ⟨s, rfl⟩
  | cons x xs ih =>
      obtain ⟨s1, hx, h1⟩ := exchange_eq h htx hselect (hxs x List.mem_cons_self)
      have htx1 : (σ.send x.cmd).txEn = true := by
        unfold Setup.send
        split <;> exact htx
      have hselect1 : (σ.send x.cmd).select = true := by
        unfold Setup.send
        split <;> exact hselect
      obtain ⟨s', hrest⟩ := ih h1 htx1 hselect1 fun y hy => by
        rw [Setup.send_baudDiv]
        exact hxs y (List.mem_cons_of_mem _ hy)
      refine ⟨s', ?_⟩
      rw [exchanges, hx]
      simp only [ok_bind, hrest, Setup.pad_send]
      rfl

/-- The pad of a port as a transaction finds it: only the first one has been told
that it is selected. -/
def opened (p : PadMemCard) : Target → GamePad
  | .padMemCard1 => p.pad1.select
  | .padMemCard2 => p.pad2

/-- The control write that starts a transaction. -/
lemma open_eq {t : Target} {ctrl : U16} (hready : Ready s.1) (hdsr : s.1.dsr = false)
    (hopens : Opens ctrl t) (delay : Cycles) : ∃ σ s',
    access (s.1, s.2.tick delay) (.store .halfWord 10 (ctrl.setWidth 32)) = .ok s' ∧
      Waiting σ s' ∧ σ.txEn = true ∧ σ.select = true ∧ σ.baudDiv = s.1.baudDiv ∧
      σ.pad = opened s.1 t := by
  have hctrl : (ctrl.setWidth 32).setWidth 16 = ctrl := by
    rw [BitVec.setWidth_setWidth_of_le _ (by norm_num), BitVec.setWidth_eq]
  -- an acknowledge finds no DSR signal
  obtain ⟨interrupt, hcontrol⟩ : ∃ interrupt,
      s.1.setControl (unscheduled (s.2.tick delay)) ctrl =
        .ok ({ s.1 with interrupt := interrupt }.withControl ctrl,
          unscheduled (s.2.tick delay)) := by
    rw [setControl, hopens.reset, if_neg Bool.false_ne_true]
    cases ctrl &&& 0x10 != 0 with
    | true =>
        refine ⟨false, ?_⟩
        have hack : s.1.acknowledge (unscheduled (s.2.tick delay)) =
            ({ s.1 with interrupt := false }, unscheduled (s.2.tick delay)) := by
          simp [acknowledge, hdsr]
        rw [if_pos rfl, hack]
        exact storeControl_eq hopens.rxEn (by simp [hdsr]) hopens.interrupts
    | false =>
        refine ⟨s.1.interrupt, ?_⟩
        rw [if_neg Bool.false_ne_true]
        exact storeControl_eq hopens.rxEn (by simp [hdsr]) hopens.interrupts
  refine ⟨_, (({ s.1 with interrupt := interrupt } : PadMemCard).withControl ctrl,
    unscheduled (s.2.tick delay)), ?_, ⟨rfl, hready.read, ?_⟩, hopens.txEn, hopens.select, rfl, ?_⟩
  · change (s.1.sync (s.2.tick delay) >>= fun q =>
      q.1.setControl q.2 ((ctrl.setWidth 32).setWidth 16)) = _
    rw [sync_idle hready.bus, ok_bind, hctrl, hcontrol]
  · intro r d delay hbus
    exact absurd (hready.bus.symm.trans hbus) (by simp)
  · have hpad1 : (if !s.1.select && ctrl >>> 1 &&& 1 != 0 then s.1.pad1.select else s.1.pad1) =
        s.1.pad1.select := by
      rw [hready.select, hopens.select]
      rfl
    rw [← hopens.target]
    change (match Target.fromControl ctrl with
      | .padMemCard1 => if !s.1.select && ctrl >>> 1 &&& 1 != 0 then s.1.pad1.select else s.1.pad1
      | .padMemCard2 => s.1.pad2) = _
    rw [hpad1]
    cases Target.fromControl ctrl <;> rfl

/-- A port answers what its pad replies. -/
lemma answers_iff {t : Target} {bytes : List U8} {rs : List (U8 × Bool)} (hready : Ready s.1)
    (hdsr : s.1.dsr = false) : Answers s t bytes rs ↔ rs = (opened s.1 t).replies bytes := by
  have hrun {delay : Cycles} {ctrl : U16} {xs : List Exchange} (hopens : Opens ctrl t)
      (hbytes : xs.map Exchange.cmd = bytes) (hxs : ∀ x ∈ xs, x.Finishes s.1.baudDiv) :
      ∃ s', transact s delay ctrl xs = .ok ((opened s.1 t).replies bytes, s') := by
    obtain ⟨σ, s1, hopen, hwaiting, htx, hselect, hbaud, hpad⟩ := open_eq hready hdsr hopens delay
    obtain ⟨s', hexchanges⟩ := exchanges_eq hwaiting htx hselect (hbaud ▸ hxs)
    refine ⟨s', ?_⟩
    rw [transact, hopen, ok_bind, hexchanges, hpad, hbytes]
  constructor
  · intro hanswers
    -- one transaction is enough, the one that waits just long enough
    obtain ⟨ctrl, hopens⟩ := exists_opens t
    let xs := bytes.map fun cmd => Exchange.mk [] 0 cmd [] s.1.txDuration
    have hbytes : xs.map Exchange.cmd = bytes := by simp [xs, Function.comp_def]
    have hxs : ∀ x ∈ xs, x.Finishes s.1.baudDiv := by
      intro x hx
      obtain ⟨cmd, -, rfl⟩ := List.mem_map.mp hx
      refine ⟨by simp, by simp, ?_⟩
      rw [toNat_txDuration]
      exact Nat.le_add_left ..
    obtain ⟨s1, h1⟩ := hanswers 0 ctrl xs hopens hbytes hxs
    obtain ⟨s2, h2⟩ := hrun hopens hbytes hxs
    exact congrArg Prod.fst (Except.ok.inj (h1.symm.trans h2))
  · rintro rfl delay ctrl xs hopens hbytes hxs
    exact hrun hopens hbytes hxs

/-! ### Reachable states -/

/-- An idle bus carries no DSR signal. -/
def Settled (p : PadMemCard) : Prop := p.bus = .idle → p.dsr = false

variable {p p' : PadMemCard} {sh sh' : SharedState} {s' : Shared}

/-- A synchronisation that returns. -/
lemma sync_keeps (h : p.sync sh = .ok (p', sh')) (hp : Settled p) :
    Settled p' ∧ p'.setup = p.setup := by
  cases hbus : p.bus with
  | idle =>
      rw [sync_idle hbus] at h
      cases h
      exact ⟨hp, rfl⟩
  | transfer r d delay =>
      by_cases hlt : elapsed sh < delay
      · rw [sync_transfer hbus hlt] at h
        cases h
        exact ⟨fun hidle => (by cases hidle), rfl⟩
      · cases hrx : p.rxNotEmpty with
        | true =>
            rw [sync_end_full hbus hlt hrx] at h
            cases h
        | false =>
            rw [sync_end hbus hlt hrx] at h
            cases h
            refine ⟨fun hidle => ?_, rfl⟩
            cases d with
            | true => cases hidle
            | false => rfl
  | dsr delay =>
      rw [sync_dsr hbus] at h
      cases h
      split_ifs
      · exact ⟨fun hidle => (by cases hidle), rfl⟩
      · exact ⟨fun _ => rfl, rfl⟩

lemma settled_access {a : Access} (h : access s a = .ok s') (hs : Settled s.1) : Settled s'.1 := by
  obtain ⟨s1, hsync, haccess⟩ := accessed h
  have h1 : Settled s1.1 := (sync_keeps hsync hs).1
  cases haccess with
  | kept hkept _ => exact fun hidle => hkept.dsr.trans (h1 (hkept.bus.symm.trans hidle))
  | sent _ hsend =>
      unfold sendCommand at hsend
      split_ifs at hsend
      cases hsend
      exact fun hidle => by cases hidle
  | controlled _ hcontrol =>
      rcases setControl_cases hcontrol with ⟨-, hs', -⟩ | ⟨-, interrupt, irq, hs', -⟩
      · rw [hs']
        exact fun _ => rfl
      · rw [hs']
        exact h1

lemma settled_runEvents {l : List (Cycles × Event)} (h : runEvents s l = .ok s')
    (hs : Settled s.1) : Settled s'.1 := by
  induction l generalizing s with
  | nil =>
      cases h
      exact hs
  | cons e l ih =>
      obtain ⟨s1, he, hl⟩ := bind_eq_ok.mp h
      refine ih hl ?_
      unfold eventAfter at he
      cases hev : e.2 with
      | access a =>
          rw [hev] at he
          exact settled_access he hs
      | plug t profile =>
          rw [hev] at he
          cases he
          cases t <;> exact hs

/-! ### The other port -/

/-- The event is an access, and not one that selects another port than `t`. -/
def OnPort (t : Target) : Event → Prop
  | .access (.store _ offset val) =>
      offset.toNat = 10 → (val.setWidth 16 &&& 0x40#16 != 0) = false →
        (val.setWidth 16 >>> 1 &&& 1#16 != 0) = true → Target.fromControl (val.setWidth 16) = t
  | .access _ => True
  | .plug .. => False

/-- Bytes go to the port `t` if they go to any. -/
def Addresses (t : Target) (p : PadMemCard) : Prop := p.select = true → p.target = t

lemma opened_congr {t : Target} (h1 : p'.pad1.select = p.pad1.select) (h2 : p'.pad2 = p.pad2) :
    opened p' t = opened p t := by
  cases t with
  | padMemCard1 => exact h1
  | padMemCard2 => exact h2

/-- A byte reaches the port that is addressed only. -/
lemma opened_answer {t : Target} (ht : Addresses t p) (cmd : U8) :
    Addresses t (p.answer cmd).2 ∧ opened (p.answer cmd).2 t.other = opened p t.other := by
  cases hselect : p.select with
  | false =>
      have hnone : (p.answer cmd).2 = p := by
        rw [answer, hselect]
        rfl
      rw [hnone]
      exact ⟨ht, rfl⟩
  | true =>
      have htarget : p.target = t := ht hselect
      simp only [answer, hselect, if_true, htarget]
      cases t with
      | padMemCard1 => exact ⟨fun _ => rfl, rfl⟩
      | padMemCard2 => exact ⟨fun _ => rfl, rfl⟩

lemma opened_sendCommand {t : Target} {cmd : U8} (ht : Addresses t p)
    (h : p.sendCommand sh cmd = .ok s') :
    Addresses t s'.1 ∧ opened s'.1 t.other = opened p t.other := by
  unfold sendCommand at h
  split_ifs at h
  cases h
  exact opened_answer ht cmd

lemma opened_setControl {t : Target} {ctrl : U16}
    (hctrl : (ctrl &&& 0x40 != 0) = false → (ctrl >>> 1 &&& 1 != 0) = true →
      Target.fromControl ctrl = t) (h : p.setControl sh ctrl = .ok s') :
    Addresses t s'.1 ∧ opened s'.1 t.other = opened p t.other := by
  rcases setControl_cases h with ⟨-, hs', -⟩ | ⟨hreset, interrupt, irq, hs', -⟩
  · rw [hs']
    refine ⟨fun hselect => ?_, opened_congr rfl rfl⟩
    cases hselect
  · rw [hs']
    refine ⟨hctrl hreset, opened_congr ?_ rfl⟩
    -- the pad of the first port may have been selected once more
    change (if _ then p.pad1.select else p.pad1).select = p.pad1.select
    split_ifs <;> rfl

lemma opened_access {t : Target} {a : Access} (ha : OnPort t (.access a)) (ht : Addresses t s.1)
    (hs : Settled s.1) (h : access s a = .ok s') :
    Addresses t s'.1 ∧ opened s'.1 t.other = opened s.1 t.other := by
  obtain ⟨s1, hsync, haccess⟩ := accessed h
  have hsetup : s1.1.setup = s.1.setup := (sync_keeps hsync hs).2
  have ht1 : Addresses t s1.1 := fun hselect =>
    (congrArg Setup.target hsetup).trans (ht ((congrArg Setup.select hsetup).symm.trans hselect))
  have hopened : opened s1.1 t.other = opened s.1 t.other :=
    opened_congr (congrArg (fun σ => σ.pad1.select) hsetup) (congrArg Setup.pad2 hsetup)
  rw [← hopened]
  cases haccess with
  | kept hkept _ =>
      refine ⟨fun hselect => hkept.target.trans (ht1 (hkept.select.symm.trans hselect)), ?_⟩
      exact opened_congr (congrArg GamePad.select hkept.pad1) hkept.pad2
  | sent _ hsend => exact opened_sendCommand ht1 hsend
  | controlled hoffset hcontrol => exact opened_setControl (ha hoffset) hcontrol

lemma opened_runEvents {t : Target} {l : List (Cycles × Event)} (hl : ∀ e ∈ l, OnPort t e.2)
    (ht : Addresses t s.1) (hs : Settled s.1) (h : runEvents s l = .ok s') :
    opened s'.1 t.other = opened s.1 t.other := by
  induction l generalizing s with
  | nil =>
      cases h
      rfl
  | cons e l ih =>
      obtain ⟨s1, he, hrest⟩ := bind_eq_ok.mp h
      have hon : OnPort t e.2 := hl e List.mem_cons_self
      unfold eventAfter at he
      cases hev : e.2 with
      | access a =>
          rw [hev] at he hon
          obtain ⟨ht1, hopened⟩ := opened_access (s := (s.1, s.2.tick e.1)) hon ht hs he
          have hs1 : Settled s1.1 := settled_access (s := (s.1, s.2.tick e.1)) he hs
          exact (ih (fun e he => hl e (List.mem_cons_of_mem _ he)) ht1 hs1 hrest).trans hopened
      | plug t profile =>
          rw [hev] at hon
          exact hon.elim

/-! ### The result -/

/-- Both parts of what is expected of a port with a digital pad: it answers with its
buttons, and the other port does not notice. -/
structure PortAnswers (s : Shared) (t : Target) (b : U16) : Prop where
  buttons : ∀ x y z, Answers s t [0x01, 0x42, x, y, z] (buttonReplies b)
  other : ∀ l s', (∀ e ∈ l, OnPort t e.2) → runEvents s l = .ok s' → Ready s'.1 →
    ∀ bytes rs, Answers s' t.other bytes rs ↔ Answers s t.other bytes rs

/-- **Which transactions are answered.**  After any history that leaves the controller
ready, a port with a digital pad answers as expected exactly if it is the first port,
or the pad of the second one is still at the start of its sequence. -/
theorem ports_answer_iff {l : List (Cycles × Event)} {s : Shared} {t : Target} {b : U16}
    (hrun : runEvents (new, .new) l = .ok s) (hready : Ready s.1)
    (hprofile : (s.1.pad t).profile = .digital b) :
    PortAnswers s t b ↔ (t = .padMemCard2 → s.1.pad2.active = true ∧ s.1.pad2.seq = 0) := by
  have hsettled : Settled s.1 := settled_runEvents hrun fun _ => rfl
  have hdsr : s.1.dsr = false := hsettled hready.bus
  have hother : ∀ l s', (∀ e ∈ l, OnPort t e.2) → runEvents s l = .ok s' → Ready s'.1 →
      ∀ bytes rs, Answers s' t.other bytes rs ↔ Answers s t.other bytes rs := by
    intro l s' hl hrun' hready' bytes rs
    have haddresses : Addresses t s.1 := fun hselect =>
      absurd (hready.select.symm.trans hselect) (by decide)
    have hdsr' : s'.1.dsr = false := settled_runEvents hrun' hsettled hready'.bus
    rw [answers_iff hready' hdsr', answers_iff hready hdsr,
      opened_runEvents hl haddresses hsettled hrun']
  have hopened : (opened s.1 t).profile = .digital b := by
    cases t <;> exact hprofile
  have hbuttons : (∀ x y z, Answers s t [0x01, 0x42, x, y, z] (buttonReplies b)) ↔
      (opened s.1 t).active = true ∧ (opened s.1 t).seq = 0 := by
    rw [← replies_eq_iff hopened]
    refine forall_congr' fun x => forall_congr' fun y => forall_congr' fun z => ?_
    rw [answers_iff hready hdsr]
    exact eq_comm
  have hiff : PortAnswers s t b ↔ (opened s.1 t).active = true ∧ (opened s.1 t).seq = 0 :=
    ⟨fun h => hbuttons.mp h.buttons, fun h => ⟨hbuttons.mpr h, hother⟩⟩
  rw [hiff]
  cases t with
  | padMemCard1 => exact iff_of_true ⟨rfl, rfl⟩ (by simp)
  | padMemCard2 => exact ⟨fun h _ => h, fun h => h rfl⟩

/-- The first transaction with a pad that has just been plugged into the second port. -/
theorem ports_answer_fresh : ∃ s,
    runEvents (new, .new) [(0, .plug .padMemCard2 (.digital 0xfffe))] = .ok s ∧
      PortAnswers s .padMemCard2 0xfffe :=
  ⟨_, rfl, (ports_answer_iff (l := [(0, .plug .padMemCard2 (.digital 0xfffe))]) rfl
    ⟨rfl, rfl, rfl⟩ rfl).mpr fun _ => ⟨rfl, rfl⟩⟩

/-- One byte for a digital pad in the second port, its response read, and the port
deselected. -/
def oneByte : List (Cycles × Event) :=
  [(0, .plug .padMemCard2 (.digital 0xffff)), (1, .access (.store .halfWord 10 0x2003)),
    (1, .access (.store .byte 0 0x01)), (1, .access (.load .byte 0)),
    (20, .access (.store .halfWord 10 0))]

/-- The next transaction with the second port starts in the middle of the sequence. -/
theorem second_port_not_answered :
    ¬∀ (l : List (Cycles × Event)) (s : Shared) (t : Target) (b : U16),
      runEvents (new, .new) l = .ok s → Ready s.1 → (s.1.pad t).profile = .digital b →
        PortAnswers s t b := by
  intro h
  have hobserved : (runEvents (new, .new) oneByte >>= fun s =>
      pure (s.1.select, s.1.bus, s.1.rxNotEmpty, s.1.dsr, s.1.pad2)) =
      .ok (false, .idle, false, false, ⟨.digital 0xffff, 1, true⟩) := by decide +kernel
  obtain ⟨s, hrun, heq⟩ := bind_eq_ok.mp hobserved
  injection heq with heq
  simp only [Prod.mk.injEq] at heq
  obtain ⟨hselect, hbus, hread, hdsr, hpad⟩ := heq
  have hready : Ready s.1 := ⟨hselect, hbus, hread⟩
  have hprofile : (s.1.pad .padMemCard2).profile = .digital 0xffff := congrArg GamePad.profile hpad
  have hanswers := (h oneByte s .padMemCard2 0xffff hrun hready hprofile).buttons 0 0 0
  rw [answers_iff hready hdsr, show opened s.1 .padMemCard2 = s.1.pad2 from rfl, hpad] at hanswers
  exact absurd hanswers (by decide)

end

end PadMemCard

end Rustation
