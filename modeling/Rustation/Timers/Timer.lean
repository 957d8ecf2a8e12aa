import Rustation.Memory.Addressable
import Rustation.Gpu.Display

/-!
The three timers (`memory/timers.rs`).

A timer counts periods of its clock.  It is brought up to date lazily: `sync`
takes the elapsed time off the time sheet and computes the new counter in
closed form, and `predictNextSync` asks to be called back when the target will
have been reached.

The arithmetic on cycles wraps; a division by a period of zero stops.  Only the
video output of the GPU is read, for the clocks that come from it.

* `Timer.advance`: the part of `sync` that moves the counter, with the two
  events it detects;
* `Timer.sync`, `Timer.predictNextSync`, `Timer.reconfigure`, the registers, and
  `Timers` with its `load` and `store`.
-/

namespace Rustation

open Fallible

/-- The three timers, which are also peripherals with a time sheet. -/
inductive TimerId where
  | timer0 | timer1 | timer2
  deriving DecidableEq, Repr

namespace TimerId

def peripheral : TimerId → Peripheral
  | timer0 => .timer0
  | timer1 => .timer1
  | timer2 => .timer2

def interrupt : TimerId → Interrupt
  | timer0 => .timer0
  | timer1 => .timer1
  | timer2 => .timer2

end TimerId

/-- Synchronisation modes of a timer that is not in free run. -/
inductive Sync where
  | pause | reset | resetAndPause | waitForSync
  deriving DecidableEq, Repr

namespace Sync

def value : Sync → U16
  | pause => 0
  | reset => 1
  | resetAndPause => 2
  | waitForSync => 3

def fromField (field : U16) : Outcome Sync :=
  match field.toNat with
  | 0 => pure pause
  | 1 => pure reset
  | 2 => pure resetAndPause
  | 3 => pure waitForSync
  | _ => throw (.panic "Invalid sync mode")

end Sync

/-- The four possible clock sources. -/
inductive Clock where
  | sysClock | sysClockDiv8 | gpuDotClock | gpuHSync
  deriving DecidableEq, Repr

def Clock.needsGpu : Clock → Bool
  | .gpuDotClock | .gpuHSync => true
  | _ => false

/-- The clock source field, whose meaning depends on the timer. -/
structure ClockSource where
  bits : U8
  deriving DecidableEq, Repr

namespace ClockSource

def fromField (field : U16) : Outcome ClockSource :=
  if field &&& ~~~3#16 ≠ 0 then throw (.panic "Invalid clock source")
  else pure ⟨field.setWidth 8⟩

/-- The lookup table is indexed by the field, which must be below four. -/
def clock (c : ClockSource) (inst : TimerId) : Outcome Clock :=
  match inst, c.bits.toNat with
  | .timer0, 0 | .timer0, 2 => pure .sysClock
  | .timer0, 1 | .timer0, 3 => pure .gpuDotClock
  | .timer1, 0 | .timer1, 2 => pure .sysClock
  | .timer1, 1 | .timer1, 3 => pure .gpuHSync
  | .timer2, 0 | .timer2, 1 => pure .sysClock
  | .timer2, 2 | .timer2, 3 => pure .sysClockDiv8
  | _, _ => throw .outOfBounds

end ClockSource

structure Timer where
  inst : TimerId
  counter : U16
  target : U16
  useSync : Bool
  syncMode : Sync
  /-- reset the counter when it reaches the target, or let it count to 0xffff -/
  targetWrap : Bool
  targetIrq : Bool
  wrapIrq : Bool
  repeatIrq : Bool
  negateIrq : Bool
  clockSource : ClockSource
  /-- the target has been reached since the last read -/
  targetReached : Bool
  /-- the counter has overflowed since the last read -/
  overflowReached : Bool
  /-- period of a tick, in fractional cycles -/
  period : FracCycles
  /-- position within the period of a tick -/
  phase : FracCycles
  interrupt : Bool
  deriving DecidableEq, Repr

namespace Timer

def new (inst : TimerId) : Timer where
  inst := inst
  counter := 0
  target := 0
  useSync := false
  syncMode := .pause
  targetWrap := false
  targetIrq := false
  wrapIrq := false
  repeatIrq := false
  negateIrq := false
  clockSource := ⟨0⟩
  targetReached := false
  overflowReached := false
  period := .fromCycles 1
  phase := .fromCycles 0
  interrupt := false

/-- What `advance` detects: the target was passed, the counter overflowed. -/
structure Events where
  targetPassed : Bool
  overflow : Bool
  deriving DecidableEq, Repr

/-- The part of `sync` that moves the counter by `delta` cycles. -/
def advance (t : Timer) (delta : Cycles) : Outcome (Timer × Events) :=
  let ticks := (FracCycles.fromCycles delta).add t.phase
  if t.period.fp = 0 then throw (.panic "attempt to divide by zero")
  else
    let count := ticks.fp / t.period.fp
    let phase := ticks.fp % t.period.fp
    let count := count + t.counter.setWidth 64
    let targetPassed := decide (t.counter ≤ t.target) && decide (count > t.target.setWidth 64)
    -- the wrap comes after the target has been reached
    let wrap := if t.targetWrap then t.target.setWidth 64 + 1 else 0x10000
    let overflow := decide (count ≥ wrap) && wrap == 0x10000
    let count := if count ≥ wrap then count % wrap else count
    pure ({ t with
        phase := .fromFp phase
        counter := count.setWidth 16
        targetReached := t.targetReached || targetPassed
        overflowReached := t.overflowReached || overflow },
      ⟨targetPassed, overflow⟩)

/-- The number of cycles until the target has been reached. -/
def nextSyncDelta (t : Timer) : Cycles :=
  let countdown :=
    if t.counter ≤ t.target then t.target - t.counter else 0xffff - t.counter + t.target
  -- the interrupt is generated on the following tick
  let delta := t.period.fp * (countdown.setWidth 64 + 1)
  (FracCycles.fromFp (delta - t.phase.fp)).ceil

def predictNextSync (t : Timer) (sh : SharedState) : SharedState :=
  if !t.targetIrq then { sh with tk := sh.tk.noSyncNeeded t.inst.peripheral }
  else { sh with tk := sh.tk.setNextSyncDelta t.inst.peripheral t.nextSyncDelta }

/-- The part of `sync` that pulses the interrupt line. -/
def updateInterrupt (t : Timer) (e : Events) (irq : InterruptState) :
    Outcome (Timer × InterruptState) :=
  if (t.wrapIrq && e.overflow) || (t.targetIrq && e.targetPassed) then
    if t.negateIrq then throw (.panic "Unhandled negate IRQ!")
    else pure ({ t with interrupt := true }, irq.assert t.inst.interrupt)
  else if !t.negateIrq then pure ({ t with interrupt := false }, irq)
  else pure (t, irq)

/-- Bring the timer up to the current date. -/
def sync (t : Timer) (sh : SharedState) : Outcome (Timer × SharedState) :=
  let (delta, tk) := sh.tk.sync t.inst.peripheral
  let sh := { sh with tk := tk }
  if delta = 0 then pure (t, sh)
  else do
    let (t, e) ← t.advance delta
    let (t, irq) ← t.updateInterrupt e sh.irqState
    pure (t, t.predictNextSync { sh with irqState := irq })

def needsGpu (t : Timer) : Outcome Bool := do
  let clock ← t.clockSource.clock t.inst
  pure clock.needsGpu

/-- Recompute period and phase after a change of the configuration or of the
video timings. -/
def reconfigure (ratio : VideoClock → FracCycles) (t : Timer) (sh : SharedState) (gpu : Display) :
    Outcome (Timer × SharedState) := do
  let clock ← t.clockSource.clock t.inst
  let t ← match clock with
    | .sysClock => pure { t with period := .fromCycles 1, phase := .fromCycles 0 }
    | .sysClockDiv8 => pure { t with period := .fromCycles 8, phase := .fromCycles 0 }
    | .gpuDotClock => throw (.panic "GPU dotclock phase not implemented")
    | .gpuHSync => pure { t with period := gpu.hsyncPeriod ratio, phase := gpu.hsyncPhase ratio }
  pure (t, t.predictNextSync sh)

/-! ### Registers -/

def bit (b : Bool) (pos : ℕ) : U16 := (BitVec.ofBool b).setWidth 16 <<< pos

/-- The mode register.  Reading it resets the two flags. -/
def mode (t : Timer) : U16 × Timer :=
  let r := bit t.useSync 0 ||| t.syncMode.value <<< 1 ||| bit t.targetWrap 3 ||| bit t.targetIrq 4
    ||| bit t.wrapIrq 5 ||| bit t.repeatIrq 6 ||| bit t.negateIrq 7
    ||| t.clockSource.bits.setWidth 16 <<< 8
    -- the interrupt field is active low
    ||| bit (!t.interrupt) 10 ||| bit t.targetReached 11 ||| bit t.overflowReached 12
  (r, { t with targetReached := false, overflowReached := false })

def setMode (t : Timer) (val : U16) : Outcome Timer := do
  let sync ← Sync.fromField ((val >>> 1) &&& 3)
  let clockSource ← ClockSource.fromField ((val >>> 8) &&& 3)
  let t := { t with
    useSync := val &&& 1 != 0
    syncMode := sync
    targetWrap := (val >>> 3) &&& 1 != 0
    targetIrq := (val >>> 4) &&& 1 != 0
    wrapIrq := (val >>> 5) &&& 1 != 0
    repeatIrq := (val >>> 6) &&& 1 != 0
    negateIrq := (val >>> 7) &&& 1 != 0
    clockSource := clockSource
    -- writing to the register resets the interrupt flag and the counter
    interrupt := false
    counter := 0 }
  if t.wrapIrq then throw (.panic "Wrap IRQ not supported")
  else if (t.wrapIrq || t.targetIrq) && !t.repeatIrq then
    throw (.panic "One shot timer interrupts are not supported")
  else if t.negateIrq then throw (.panic "Only pulse interrupts are supported")
  else pure t

def setTarget (t : Timer) (val : U16) : Timer := { t with target := val }

def setCounter (t : Timer) (val : U16) : Timer := { t with counter := val }

end Timer

/-! ### The three timers -/

structure Timers where
  timers : TimerId → Timer

namespace Timers

def new : Timers := ⟨Timer.new⟩

def set (ts : Timers) (i : TimerId) (t : Timer) : Timers := ⟨Function.update ts.timers i t⟩

/-- The timer a register offset belongs to. -/
def instanceAt (offset : U32) : Outcome TimerId :=
  match (offset >>> 4).toNat with
  | 0 => pure .timer0
  | 1 => pure .timer1
  | 2 => pure .timer2
  | _ => throw .outOfBounds

def store (ratio : VideoClock → FracCycles) (width : Width) (ts : Timers) (sh : SharedState)
    (gpu : Display) (offset val : U32) : Outcome (Timers × SharedState × Display) := do
  if width = .byte then throw (.panic "Unhandled byte timer store")
  let val : U16 := val.setWidth 16
  let i ← instanceAt offset
  let (t, sh) ← (ts.timers i).sync sh
  let t ← match (offset &&& 0xf).toNat with
    | 0 => pure (t.setCounter val)
    | 4 => t.setMode val
    | 8 => pure (t.setTarget val)
    | _ => throw (.panic "Unhandled timer register")
  let needsGpu ← t.needsGpu
  let (gpu, sh) := if needsGpu then gpu.sync ratio sh else (gpu, sh)
  let (t, sh) ← t.reconfigure ratio sh gpu
  pure (ts.set i t, sh, gpu)

def load (width : Width) (ts : Timers) (sh : SharedState) (offset : U32) :
    Outcome (U32 × Timers × SharedState) := do
  if width = .byte then throw (.panic "Unhandled byte timer load")
  let i ← instanceAt offset
  let (t, sh) ← (ts.timers i).sync sh
  let (val, t) ← match (offset &&& 0xf).toNat with
    | 0 => pure (t.counter, t)
    | 4 => pure t.mode
    | 8 => pure (t.target, t)
    | _ => throw (.panic "Unhandled timer register")
  pure (val.setWidth 32, ts.set i t, sh)

/-- One round of the loop of `video_timings_changed`. -/
def timingsChanged (ratio : VideoClock → FracCycles) (gpu : Display)
    (s : Timers × SharedState) (i : TimerId) : Outcome (Timers × SharedState) := do
  let (ts, sh) := s
  let needsGpu ← (ts.timers i).needsGpu
  if needsGpu then
    let (t, sh) ← (ts.timers i).sync sh
    let (t, sh) ← t.reconfigure ratio sh gpu
    pure (ts.set i t, sh)
  else pure (ts, sh)

/-- Called by the GPU when the video timings change. -/
def videoTimingsChanged (ratio : VideoClock → FracCycles) (ts : Timers) (sh : SharedState)
    (gpu : Display) : Outcome (Timers × SharedState) :=
  [.timer0, .timer1, .timer2].foldlM (timingsChanged ratio gpu) (ts, sh)

/-- One branch of the `sync` of the timers. -/
def syncDue (s : Timers × SharedState) (i : TimerId) : Outcome (Timers × SharedState) := do
  let (ts, sh) := s
  if sh.tk.needsSync i.peripheral then
    let (t, sh) ← (ts.timers i).sync sh
    pure (ts.set i t, sh)
  else pure (ts, sh)

/-- Synchronise the timers whose date has come. -/
def sync (ts : Timers) (sh : SharedState) : Outcome (Timers × SharedState) :=
  [.timer0, .timer1, .timer2].foldlM syncDue (ts, sh)

end Timers

end Rustation
