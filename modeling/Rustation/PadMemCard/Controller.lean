import Rustation.Memory.Addressable
import Rustation.Shared.SharedState

/-!
The gamepad and memory card controller (`padmemcard/mod.rs`) with the pads of
`padmemcard/gamepad.rs`: the bus state machine, the register accesses of the host
and the answers of a pad.

`sync_idle`, `sync_transfer`, `sync_end` and `sync_dsr` say what a synchronisation
does in each state of the bus.  `Access` lists what the host can do to the
controller; `runEvents` lets time pass before each event.  The boxed `Profile` of a pad is
one of the two of the source.
-/

namespace Rustation

open Fallible

/-! ### Pads -/

/-- What is plugged into a port. -/
inductive Profile where
  /-- an empty slot -/
  | disconnected
  /-- SCPH-1080: a digital pad, with one bit for each button -/
  | digital (buttons : U16)
  deriving DecidableEq, Repr

/-- The response to a command byte and whether a DSR pulse follows it, `seq` being the
position of the byte in the command. -/
def Profile.handleCommand (profile : Profile) (seq cmd : U8) : U8 × Bool :=
  match profile with
  -- the bus is open, no response
  | disconnected => (0xff, false)
  | digital buttons =>
      match seq.toNat with
      | 0 => (0xff, cmd == 0x01)
      | 1 => (0x41, cmd == 0x42)
      | 2 => (0x5a, true)
      | 3 => (buttons.setWidth 8, true)
      | 4 => ((buttons >>> 8).setWidth 8, false)
      | _ => (0xff, false)

structure GamePad where
  profile : Profile
  /-- position in the reply sequence -/
  seq : U8
  /-- false if the pad is done with the current command -/
  active : Bool
  deriving DecidableEq, Repr

namespace GamePad

def disconnected : GamePad := ⟨.disconnected, 0, true⟩

/-- The "select" line goes down. -/
def select (pad : GamePad) : GamePad := { pad with active := true, seq := 0 }

/-- The response, and whether the pad issues a DSR pulse after it. -/
def sendCommand (pad : GamePad) (cmd : U8) : (U8 × Bool) × GamePad :=
  if !pad.active then ((0xff, false), pad)
  else
    let (resp, dsr) := pad.profile.handleCommand pad.seq cmd
    ((resp, dsr), { pad with active := dsr, seq := pad.seq + 1 })

def setProfile (pad : GamePad) (profile : Profile) : GamePad := { pad with profile := profile }

end GamePad

/-! ### The state -/

/-- The port that is addressed. -/
inductive Target where
  | padMemCard1 | padMemCard2
  deriving DecidableEq, Repr

def Target.fromControl (ctrl : U16) : Target :=
  if ctrl &&& 0x2000 != 0 then padMemCard2 else padMemCard1

def Target.word : Target → U16
  | padMemCard1 => 0
  | padMemCard2 => 1

/-- The state machine of the bus. -/
inductive BusState where
  | idle
  /-- a transaction: the response byte, the DSR response, and the cycles left until the
  DSR pulse if there is one -/
  | transfer (response : U8) (dsr : Bool) (delay : Cycles)
  /-- DSR is asserted, with the cycles left -/
  | dsr (delay : Cycles)
  deriving DecidableEq, Repr

structure PadMemCard where
  /-- serial clock divider -/
  baudDiv : U16
  mode : U8
  /-- transmission enabled -/
  txEn : Bool
  /-- the select signal of the target is asserted -/
  select : Bool
  target : Target
  /-- bits 3 and 5 of the control register -/
  unknown : U8
  rxEn : Bool
  /-- Data Set Ready, driven by the pad -/
  dsr : Bool
  /-- a DSR pulse raises an interrupt -/
  dsrIt : Bool
  /-- current interrupt level -/
  interrupt : Bool
  response : U8
  /-- the RX FIFO is not empty -/
  rxNotEmpty : Bool
  pad1 : GamePad
  pad2 : GamePad
  bus : BusState
  deriving DecidableEq, Repr

namespace PadMemCard

def new : PadMemCard where
  baudDiv := 0
  mode := 0
  txEn := false
  select := false
  target := .padMemCard1
  unknown := 0
  rxEn := false
  dsr := false
  dsrIt := false
  interrupt := false
  response := 0xff
  rxNotEmpty := false
  pad1 := .disconnected
  pad2 := .disconnected
  bus := .idle

/-- A controller and the shared state it was handed. -/
abbrev Shared := PadMemCard × SharedState

/-! ### Synchronisation -/

/-- The cycles that a DSR pulse lasts. -/
def DSR_DURATION : Cycles := 10

/-- The end of a transfer: the response is there, and DSR as the pad drives it. -/
def endTransfer (p : PadMemCard) (sh : SharedState) (r : U8) (dsr : Bool) : Outcome Shared :=
  if p.rxNotEmpty then throw (.panic "Gamepad RX while FIFO isn't empty")
  else
    let p := { p with response := r, rxNotEmpty := true, dsr := dsr }
    let (p, sh) :=
      if p.dsr then
        let (p, sh) :=
          if p.dsrIt then
            -- rising edge of the interrupt
            let sh := if !p.interrupt then
              { sh with irqState := sh.irqState.assert .padMemCard } else sh
            ({ p with interrupt := true }, sh)
          else (p, sh)
        ({ p with bus := .dsr DSR_DURATION }, sh)
      else ({ p with bus := .idle }, sh)
    pure (p, { sh with tk := sh.tk.noSyncNeeded .padMemCard })

def sync (p : PadMemCard) (sh : SharedState) : Outcome Shared :=
  let (delta, tk) := sh.tk.sync .padMemCard
  let sh := { sh with tk := tk }
  match p.bus with
  | .idle => pure (p, { sh with tk := tk.noSyncNeeded .padMemCard })
  | .transfer r dsr delay =>
      if delta < delay then
        let delay := delay - delta
        let p := { p with bus := .transfer r dsr delay }
        let tk := if p.dsrIt then tk.setNextSyncDelta .padMemCard delay
          else tk.noSyncNeeded .padMemCard
        pure (p, { sh with tk := tk })
      else p.endTransfer sh r dsr
  | .dsr delay =>
      let p := if delta < delay then { p with bus := .dsr (delay - delta) }
        -- the pulse is over, the bus is idle
        else { p with dsr := false, bus := .idle }
      pure (p, { sh with tk := tk.noSyncNeeded .padMemCard })

/-! ### What a synchronisation does -/

/-- The date of the forced synchronisation of the controller. -/
def nextSync (sh : SharedState) : Cycles := (sh.tk.timesheets .padMemCard).nextSync

/-- The date of its last one. -/
def lastSync (sh : SharedState) : Cycles := (sh.tk.timesheets .padMemCard).lastSync

/-- The cycles since then. -/
def elapsed (sh : SharedState) : Cycles := sh.tk.now - lastSync sh

/-- Synchronised, with nothing scheduled. -/
def unscheduled (sh : SharedState) : SharedState :=
  { sh with tk := (sh.tk.sync .padMemCard).2.noSyncNeeded .padMemCard }

/-- Synchronised, with an event scheduled. -/
def scheduled (sh : SharedState) (delay : Cycles) : SharedState :=
  { sh with tk := (sh.tk.sync .padMemCard).2.setNextSyncDelta .padMemCard delay }

/-- The controller at the end of a transfer. -/
def ended (p : PadMemCard) (r : U8) (dsr : Bool) : PadMemCard :=
  { p with
    response := r
    rxNotEmpty := true
    dsr := dsr
    interrupt := p.interrupt || (dsr && p.dsrIt)
    bus := if dsr then .dsr DSR_DURATION else .idle }

/-- The interrupt controller at the end of a transfer. -/
def endedIrq (p : PadMemCard) (irq : InterruptState) (dsr : Bool) : InterruptState :=
  if dsr && p.dsrIt && !p.interrupt then irq.assert .padMemCard else irq

section

variable {p : PadMemCard} {sh : SharedState} {r : U8} {dsr : Bool} {delay : Cycles}

@[simp] lemma now_unscheduled : (unscheduled sh).tk.now = sh.tk.now := rfl

@[simp] lemma now_scheduled : (scheduled sh delay).tk.now = sh.tk.now := rfl

@[simp] lemma nextSync_unscheduled : nextSync (unscheduled sh) = BitVec.allOnes 64 := by
  rw [nextSync, unscheduled, TimeKeeper.noSyncNeeded, TimeKeeper.setSheet_self]
  rfl

@[simp] lemma nextSync_scheduled : nextSync (scheduled sh delay) = sh.tk.now + delay := by
  rw [nextSync, scheduled, TimeKeeper.setNextSyncDelta]
  dsimp only
  rw [TimeKeeper.setSheet_self]
  rfl

@[simp] lemma lastSync_unscheduled : lastSync (unscheduled sh) = sh.tk.now := by
  simp [lastSync, unscheduled, TimeKeeper.noSyncNeeded, TimeKeeper.sync, TimeSheet.sync,
    TimeSheet.setNextSync]

@[simp] lemma lastSync_scheduled : lastSync (scheduled sh delay) = sh.tk.now := by
  simp [lastSync, scheduled, TimeKeeper.setNextSyncDelta, TimeKeeper.sync, TimeSheet.sync,
    TimeSheet.setNextSync]

lemma sync_idle (h : p.bus = .idle) : p.sync sh = .ok (p, unscheduled sh) := by
  simp only [sync, h]
  rfl

/-- A transfer goes on, and is scheduled if it is to raise an interrupt. -/
lemma sync_transfer (h : p.bus = .transfer r dsr delay) (hlt : elapsed sh < delay) :
    p.sync sh = .ok ({ p with bus := .transfer r dsr (delay - elapsed sh) },
      if p.dsrIt then scheduled sh (delay - elapsed sh) else unscheduled sh) := by
  have hdelta : (sh.tk.sync .padMemCard).1 = elapsed sh := rfl
  simp only [sync, h, hdelta, hlt, if_true]
  cases p.dsrIt <;> rfl

/-- A transfer ends. -/
lemma sync_end (h : p.bus = .transfer r dsr delay) (hle : ¬elapsed sh < delay)
    (hrx : p.rxNotEmpty = false) : p.sync sh =
      .ok (p.ended r dsr, { unscheduled sh with irqState := p.endedIrq sh.irqState dsr }) := by
  have hdelta : (sh.tk.sync .padMemCard).1 = elapsed sh := rfl
  simp only [sync, h, hdelta, hle, if_false, endTransfer, hrx, Bool.false_eq_true]
  cases dsr with
  | false => simp [ended, endedIrq, unscheduled]
  | true => cases hit : p.dsrIt <;> cases hint : p.interrupt <;>
      simp [ended, endedIrq, unscheduled, hit, hint]

lemma sync_end_full (h : p.bus = .transfer r dsr delay) (hle : ¬elapsed sh < delay)
    (hrx : p.rxNotEmpty = true) :
    p.sync sh = .error (.panic "Gamepad RX while FIFO isn't empty") := by
  have hdelta : (sh.tk.sync .padMemCard).1 = elapsed sh := rfl
  simp only [sync, h, hdelta, hle, if_false, endTransfer, hrx, if_true]
  rfl

/-- The pulse goes on, or is over. -/
lemma sync_dsr (h : p.bus = .dsr delay) : p.sync sh = .ok
    (if elapsed sh < delay then { p with bus := .dsr (delay - elapsed sh) }
      else { p with dsr := false, bus := .idle }, unscheduled sh) := by
  have hdelta : (sh.tk.sync .padMemCard).1 = elapsed sh := rfl
  simp only [sync, h, hdelta]
  rfl

end

/-! ### Registers -/

/-- The cycles that the transmission of a byte takes. -/
def txDuration (p : PadMemCard) : Cycles := 8 * p.baudDiv.setWidth 64

/-- The answer of the port that is selected, if one is. -/
def answer (p : PadMemCard) (cmd : U8) : (U8 × Bool) × PadMemCard :=
  if p.select then
    match p.target with
    | .padMemCard1 =>
        let (res, pad) := p.pad1.sendCommand cmd
        (res, { p with pad1 := pad })
    | .padMemCard2 =>
        let (res, pad) := p.pad2.sendCommand cmd
        (res, { p with pad2 := pad })
  else ((0xff, false), p)

/-- A command sent while the bus is busy replaces the transfer in flight. -/
def sendCommand (p : PadMemCard) (sh : SharedState) (cmd : U8) : Outcome Shared :=
  if !p.txEn then throw (.panic "Unhandled gamepad command while tx_en is disabled")
  else
    let ((response, dsr), p) := p.answer cmd
    let p := { p with bus := .transfer response dsr p.txDuration }
    pure (p, { sh with tk := sh.tk.setNextSyncDelta .padMemCard p.txDuration })

def boolBit (b : Bool) : U32 := if b then 1 else 0

def stat (p : PadMemCard) : U32 :=
  5 ||| boolBit p.rxNotEmpty <<< 1 ||| boolBit p.dsr <<< 7 ||| boolBit p.interrupt <<< 9

def setMode (p : PadMemCard) (mode : U8) : PadMemCard := { p with mode := mode }

def control (p : PadMemCard) : U16 :=
  p.unknown.setWidth 16 ||| (boolBit p.txEn).setWidth 16 |||
  (boolBit p.select).setWidth 16 <<< 1 |||
    (boolBit p.rxEn).setWidth 16 <<< 2 ||| (boolBit p.dsrIt).setWidth 16 <<< 12 |||
    p.target.word <<< 13

/-- The reset leaves the enable bits and the pads alone. -/
def softReset (p : PadMemCard) : PadMemCard :=
  { p with
    baudDiv := 0
    mode := 0
    select := false
    target := .padMemCard1
    unknown := 0
    interrupt := false
    rxNotEmpty := false
    bus := .idle
    dsr := false }

/-- Acknowledge the interrupt, which triggers again while DSR is active. -/
def acknowledge (p : PadMemCard) (sh : SharedState) : Shared :=
  let p := { p with interrupt := false }
  if p.dsr && p.dsrIt then
    ({ p with interrupt := true }, { sh with irqState := sh.irqState.assert .padMemCard })
  else (p, sh)

/-- Store the control bits. -/
def storeControl (p : PadMemCard) (sh : SharedState) (ctrl : U16) : Outcome Shared :=
  let prevSelect := p.select
  let p := { p with
    unknown := ctrl.setWidth 8 &&& 0x28
    txEn := ctrl &&& 1 != 0
    select := ctrl >>> 1 &&& 1 != 0
    rxEn := ctrl >>> 2 &&& 1 != 0
    dsrIt := ctrl >>> 12 &&& 1 != 0
    target := .fromControl ctrl }
  if p.rxEn then throw (.panic "Gamepad rx_en not implemented")
  else if p.dsrIt && !p.interrupt && p.dsr then
    throw (.panic "dsr_it enabled while DSR signal is active")
  else if ctrl &&& 0xf00 != 0 then throw (.panic "Unsupported gamepad interrupts")
  -- it is the pad of the first port that is told, whatever the target
  else pure (if !prevSelect && p.select then { p with pad1 := p.pad1.select } else p, sh)

def setControl (p : PadMemCard) (sh : SharedState) (ctrl : U16) : Outcome Shared :=
  if ctrl &&& 0x40 != 0 then pure (p.softReset, sh)
  else
    let (p, sh) := if ctrl &&& 0x10 != 0 then p.acknowledge sh else (p, sh)
    p.storeControl sh ctrl

/-! ### What a control write does -/

/-- The control bits as a write leaves them. -/
def withControl (p : PadMemCard) (ctrl : U16) : PadMemCard :=
  { p with
    unknown := ctrl.setWidth 8 &&& 0x28
    txEn := ctrl &&& 1 != 0
    select := ctrl >>> 1 &&& 1 != 0
    rxEn := false
    dsrIt := ctrl >>> 12 &&& 1 != 0
    target := .fromControl ctrl
    pad1 := if !p.select && ctrl >>> 1 &&& 1 != 0 then p.pad1.select else p.pad1 }

section

variable {p p' : PadMemCard} {sh sh' : SharedState} {ctrl : U16}

/-- A write that the controller supports stores the bits. -/
lemma storeControl_eq (hrx : (ctrl >>> 2 &&& 1 != 0) = false)
    (hdsr : ((ctrl >>> 12 &&& 1 != 0) && !p.interrupt && p.dsr) = false)
    (hirq : (ctrl &&& 0xf00 != 0) = false) :
    p.storeControl sh ctrl = .ok (p.withControl ctrl, sh) := by
  simp only [storeControl, hrx, hdsr, hirq, Bool.false_eq_true, if_false]
  split_ifs with hselect
  · rw [withControl, if_pos hselect]
    rfl
  · rw [withControl, if_neg hselect]
    rfl

lemma storeControl_eq_ok (h : p.storeControl sh ctrl = .ok (p', sh')) :
    p' = p.withControl ctrl ∧ sh' = sh := by
  have hrun := h
  unfold storeControl at h
  dsimp only at h
  split_ifs at h with hrx hdsr hirq
  all_goals
    rw [storeControl_eq (Bool.eq_false_iff.mpr hrx) (Bool.eq_false_iff.mpr hdsr)
      (Bool.eq_false_iff.mpr hirq)] at hrun
    cases hrun
    exact ⟨rfl, rfl⟩

lemma acknowledge_frame (p : PadMemCard) (sh : SharedState) : ∃ interrupt irq,
    p.acknowledge sh = ({ p with interrupt := interrupt }, { sh with irqState := irq }) := by
  unfold acknowledge
  dsimp only
  split_ifs
  · exact ⟨true, _, rfl⟩
  · exact ⟨false, sh.irqState, rfl⟩

/-- A control write that returns resets the controller, or stores the control bits
and may acknowledge the interrupt. -/
lemma setControl_cases (h : p.setControl sh ctrl = .ok (p', sh')) :
    (ctrl &&& 0x40 != 0) = true ∧ p' = p.softReset ∧ sh' = sh ∨
    (ctrl &&& 0x40 != 0) = false ∧ ∃ interrupt irq,
      p' = { p with interrupt := interrupt }.withControl ctrl ∧
        sh' = { sh with irqState := irq } := by
  unfold setControl at h
  cases hreset : ctrl &&& 0x40 != 0 with
  | true =>
      rw [hreset, if_pos rfl] at h
      cases h
      exact .inl ⟨rfl, rfl, rfl⟩
  | false =>
      rw [hreset, if_neg Bool.false_ne_true] at h
      refine .inr ⟨rfl, ?_⟩
      obtain ⟨interrupt, irq, hack⟩ := acknowledge_frame p sh
      cases hbit : ctrl &&& 0x10 != 0 with
      | true =>
          rw [hbit, if_pos rfl, hack] at h
          exact ⟨interrupt, irq, storeControl_eq_ok h⟩
      | false =>
          rw [hbit, if_neg Bool.false_ne_true] at h
          exact ⟨p.interrupt, sh.irqState, storeControl_eq_ok h⟩

end

/-! ### Accesses of the host -/

def store (p : PadMemCard) (sh : SharedState) (width : Width) (offset val : U32) :
    Outcome Shared := do
  let (p, sh) ← p.sync sh
  match offset.toNat with
  | 0 =>
      if width.size ≠ 1 then throw (.panic "Unhandled gamepad TX access")
      else p.sendCommand sh (val.setWidth 8)
  | 8 => pure (p.setMode (val.setWidth 8), sh)
  | 10 =>
      if width.size = 1 then throw (.panic "Unhandled byte gamepad control access")
      else p.setControl sh (val.setWidth 16)
  | 14 => pure ({ p with baudDiv := val.setWidth 16 }, sh)
  | _ => throw (.panic "Unhandled write to gamepad register")

def load (p : PadMemCard) (sh : SharedState) (width : Width) (offset : U32) :
    Outcome (U32 × Shared) := do
  let (p, sh) ← p.sync sh
  match offset.toNat with
  | 0 =>
      if width.size ≠ 1 then throw (.panic "Unhandled gamepad RX access")
      else pure (p.response.setWidth 32, { p with rxNotEmpty := false, response := 0xff }, sh)
  | 4 => pure (p.stat, p, sh)
  | 8 => pure (p.mode.setWidth 32, p, sh)
  | 10 => pure (p.control.setWidth 32, p, sh)
  | 14 => pure (p.baudDiv.setWidth 32, p, sh)
  | _ => throw (.panic "Unhandled gamepad read")

/-- A synchronisation or a register access. -/
inductive Access where
  | sync
  | load (width : Width) (offset : U32)
  | store (width : Width) (offset val : U32)
  deriving DecidableEq, Repr

/-- The state an access leaves. -/
def access (s : Shared) : Access → Outcome Shared
  | .sync => s.1.sync s.2
  | .load width offset => do
      let (_, s) ← s.1.load s.2 width offset
      pure s
  | .store width offset val => s.1.store s.2 width offset val

/-- What the accesses other than commands and control writes keep. -/
structure Kept (p p' : PadMemCard) : Prop where
  bus : p'.bus = p.bus
  dsr : p'.dsr = p.dsr
  dsrIt : p'.dsrIt = p.dsrIt
  select : p'.select = p.select
  target : p'.target = p.target
  pad1 : p'.pad1 = p.pad1
  pad2 : p'.pad2 = p.pad2

/-- What an access does once the controller is synchronised. -/
inductive Accessed (p : PadMemCard) (sh : SharedState) : Access → Shared → Prop
  | kept {a : Access} {p' : PadMemCard} (hkept : Kept p p')
      (ha : ∀ width offset val, a = .store width offset val → offset.toNat ≠ 10) :
      Accessed p sh a (p', sh)
  | sent {width : Width} {offset val : U32} {s' : Shared} (hoffset : offset.toNat = 0)
      (h : p.sendCommand sh (val.setWidth 8) = .ok s') : Accessed p sh (.store width offset val) s'
  | controlled {width : Width} {offset val : U32} {s' : Shared} (hoffset : offset.toNat = 10)
      (h : p.setControl sh (val.setWidth 16) = .ok s') :
      Accessed p sh (.store width offset val) s'

/-- Every access that returns is a synchronisation followed by one of three things. -/
lemma accessed {s s' : Shared} {a : Access} (h : access s a = .ok s') :
    ∃ s1, s.1.sync s.2 = .ok s1 ∧ Accessed s1.1 s1.2 a s' := by
  cases a with
  | sync => exact ⟨s', h, .kept ⟨rfl, rfl, rfl, rfl, rfl, rfl, rfl⟩ (by simp)⟩
  | load width offset =>
      obtain ⟨⟨v, s''⟩, hload, heq⟩ := bind_eq_ok.mp h
      cases heq
      obtain ⟨s1, hsync, hread⟩ := bind_eq_ok.mp hload
      refine ⟨s1, hsync, ?_⟩
      dsimp only at hread
      split at hread
      · split_ifs at hread
        cases hread
        exact .kept ⟨rfl, rfl, rfl, rfl, rfl, rfl, rfl⟩ (by simp)
      all_goals
        cases hread
        try exact .kept ⟨rfl, rfl, rfl, rfl, rfl, rfl, rfl⟩ (by simp)
  | store width offset val =>
      obtain ⟨s1, hsync, hwrite⟩ := bind_eq_ok.mp h
      refine ⟨s1, hsync, ?_⟩
      have hother (h10 : offset.toNat ≠ 10) (width' : Width) (offset' val' : U32)
          (heq : Access.store width offset val = .store width' offset' val') :
          offset'.toNat ≠ 10 := by
        cases heq
        exact h10
      dsimp only at hwrite
      split at hwrite
      · next hoffset =>
          split_ifs at hwrite
          exact .sent hoffset hwrite
      · next hoffset =>
          cases hwrite
          exact .kept ⟨rfl, rfl, rfl, rfl, rfl, rfl, rfl⟩ (hother (by omega))
      · next hoffset =>
          split_ifs at hwrite
          exact .controlled hoffset hwrite
      · next hoffset =>
          cases hwrite
          exact .kept ⟨rfl, rfl, rfl, rfl, rfl, rfl, rfl⟩ (hother (by omega))
      · cases hwrite

/-! ### Events -/

/-- Plug something into a port, or press the buttons of a digital pad. -/
def plug (p : PadMemCard) (target : Target) (profile : Profile) : PadMemCard :=
  match target with
  | .padMemCard1 => { p with pad1 := p.pad1.setProfile profile }
  | .padMemCard2 => { p with pad2 := p.pad2.setProfile profile }

/-- An access of the host, or what the player does. -/
inductive Event where
  | access (a : Access)
  | plug (target : Target) (profile : Profile)
  deriving DecidableEq, Repr

/-- An event after some cycles. -/
def eventAfter (s : Shared) (e : Cycles × Event) : Outcome Shared :=
  match e.2 with
  | .access a => access (s.1, s.2.tick e.1) a
  | .plug target profile => pure (s.1.plug target profile, s.2.tick e.1)

/-- Events one after the other. -/
def runEvents (s : Shared) (l : List (Cycles × Event)) : Outcome Shared := l.foldlM eventAfter s

end PadMemCard

end Rustation
