import Rustation.Console.Serving
import Rustation.Cpu.State
import Rustation.ParallelIo.ExeLoader
import Rustation.Spu.Spu

/-!
The peripherals of the console, all of them together (the fields of
`Interconnect` in `memory/mod.rs`), and the debug UART of `debug_uart.rs`.

* `Peripherals`: the state of the peripherals;
* `Wiring.sync`, `Wiring.load`, `Wiring.store`: the calls the interconnect makes,
  each handed the whole shared state;
* `Wiring.Call`: what a call can do, so that an invariant of the peripherals is checked
  once for each of them (`sync_call`, `load_call`, `store_call`);
* `Wiring.devices`: the same calls behind the interface `Devices`, which only sees
  the interrupts that are new.  `syncDevice_eq`, `loadDevice_eq` and
  `storeDevice_eq` say that nothing is lost.
-/

namespace Rustation

open Fallible SharedState

/-! ### The debug UART -/

/-- The text of a line that has not been displayed yet, with the bytes that are allocated for it. -/
structure TxBuffer where
  bytes : List U8
  capacity : ℕ
  deriving DecidableEq, Repr

/-- The dual debugging UART. -/
structure DebugUart where
  txBuffers : Fin 2 → TxBuffer

namespace DebugUart

/-- Maximum length of the buffer before the message is displayed. -/
def TX_BUFFER_LEN : ℕ := 1024

def new : DebugUart := ⟨fun _ => ⟨[], TX_BUFFER_LEN⟩⟩

/-- The encoding of a character up to U+00FF in a string. -/
def utf8 (c : U8) : List U8 := if c < 0x80 then [c] else [0xc0 ||| c >>> 6, 0x80 ||| c &&& 0x3f]

/-- A string that is full grows to twice its capacity. -/
def TxBuffer.push (b : TxBuffer) (c : U8) : TxBuffer :=
  let bytes := b.bytes ++ utf8 c
  ⟨bytes, if bytes.length ≤ b.capacity then b.capacity else max (2 * b.capacity) bytes.length⟩

/-- The character that ends a line, or finds the buffer full, is not kept. -/
def pushChar (u : DebugUart) (port : Fin 2) (c : U8) : DebugUart :=
  let b := u.txBuffers port
  let b := if c = 0x0a ∨ b.bytes.length = b.capacity then { b with bytes := [] }
    else TxBuffer.push b c
  ⟨Function.update u.txBuffers port b⟩

/-- The transmitter is always ready. -/
def load (width : Width) (offset : U32) : Outcome U32 :=
  if width.size ≠ 1 then throw (.panic "Unhandled debug UART load")
  else if offset = 0x21 then pure 4
  else throw (.panic "Unhandled debug UART store")

def store (u : DebugUart) (width : Width) (offset val : U32) : Outcome DebugUart :=
  let val : U8 := val.setWidth 8
  if width.size ≠ 1 then throw (.panic "Unhandled debug UART store")
  else
    match offset.toNat with
    | 0x23 => pure (u.pushChar ⟨0, Nat.two_pos⟩ val)
    -- the interrupts are not implemented
    | 0x25 =>
        if val ≠ 0 then throw (.panic "Unhandled debug UART interrupt mask") else pure u
    | 0x20 | 0x21 | 0x22 | 0x24 | 0x2a | 0x2d | 0x2e | 0x41 => pure u
    | _ => throw (.panic "Unhandled debug UART store")

end DebugUart

/-! ### The peripherals -/

/-- The state of the peripherals, `μ` being that of the parallel port. -/
structure Peripherals (I : CdImage) (μ : Type) where
  dma : Dma
  gpu : Gpu
  spu : Spu
  timers : Timers
  cdRom : CdRom I
  padMemCard : PadMemCard
  mdec : MDec
  parallelIo : μ
  debugUart : DebugUart
  /-- the calls of the renderer, oldest first -/
  calls : List Call

namespace Peripherals

variable {I : CdImage} {μ : Type}

/-- The peripherals of a console that has just been switched on. -/
def new (standard : VideoClock) (disc : Option (Disc I)) (parallelIo : μ) : Peripherals I μ where
  dma := .new
  gpu := .new standard
  spu := .new
  timers := .new
  cdRom := .new disc
  padMemCard := .new
  mdec := .new
  parallelIo := parallelIo
  debugUart := .new
  calls := []

/-- What a transfer can reach. -/
def bus (p : Peripherals I μ) (ram : Ram) : Bus I := ⟨ram, p.dma, p.gpu, p.mdec, p.cdRom, p.calls⟩

/-- The peripherals after a transfer. -/
def afterTransfer (p : Peripherals I μ) (b : Bus I) : Peripherals I μ :=
  { p with dma := b.dma, gpu := b.gpu, mdec := b.mdec, cdRom := b.cdRom, calls := b.calls }

end Peripherals

/-- What does not change: the ratio of the clocks, what is connected to the parallel port, and a
bound for the linked lists of the DMA. -/
structure Wiring (μ : Type) where
  ratio : VideoClock → FracCycles
  port : ParallelIoModule μ
  fuel : ℕ

namespace Wiring

/-- Nothing is connected. -/
def bare : Wiring Unit := ⟨Display.clockRatio, .disconnected, 0⟩

variable {I : CdImage} {μ : Type} (w : Wiring μ)

/-- Synchronise a peripheral. -/
def sync (which : SyncedDevice) (p : Peripherals I μ) (sh : SharedState) :
    Outcome (Peripherals I μ × SharedState) :=
  match which with
  | .gpu =>
      let (gpu, sh) := p.gpu.sync w.ratio sh
      pure ({ p with gpu := gpu }, sh)
  | .padMemCard => do
      let (padMemCard, sh) ← p.padMemCard.sync sh
      pure ({ p with padMemCard := padMemCard }, sh)
  | .timers => do
      let (timers, sh) ← p.timers.sync sh
      pure ({ p with timers := timers }, sh)
  | .cdRom => do
      let (cdRom, sh) ← p.cdRom.sync sh
      pure ({ p with cdRom := cdRom }, sh)

/-- Load from a register of a peripheral. -/
def load (which : Device) (width : Width) (p : Peripherals I μ) (sh : SharedState) (offset : U32) :
    Outcome (U32 × Peripherals I μ × SharedState) :=
  match which with
  | .dma => do
      -- the registers do not depend on the RAM
      let v ← (p.bus .new).dmaReg offset
      pure (v, p, sh)
  | .gpu => do
      let (v, gpu, sh) ← p.gpu.load w.ratio sh width offset
      pure (v, { p with gpu := gpu }, sh)
  | .timers => do
      let (v, timers, sh) ← p.timers.load width sh offset
      pure (v, { p with timers := timers }, sh)
  | .cdRom => do
      let (v, cdRom, sh) ← p.cdRom.load sh width offset
      pure (v, { p with cdRom := cdRom }, sh)
  | .mdec => do
      let v ← p.mdec.load width offset
      pure (v, p, sh)
  | .spu => do
      let v ← p.spu.load width offset
      pure (v, p, sh)
  | .padMemCard => do
      let (v, padMemCard, sh) ← p.padMemCard.load sh width offset
      pure (v, { p with padMemCard := padMemCard }, sh)
  | .expansion1 =>
      let (v, parallelIo) := ParallelIo.load w.port p.parallelIo width offset
      pure (v, { p with parallelIo := parallelIo }, sh)
  | .expansion2 => do
      let v ← DebugUart.load width offset
      pure (v, p, sh)

/-- Store into a register of a peripheral.  The parallel port cannot be written. -/
def store (which : Device) (width : Width) (p : Peripherals I μ) (ram : Ram) (sh : SharedState)
    (offset val : U32) : Outcome (Peripherals I μ × Ram × SharedState) :=
  match which with
  | .dma => do
      let (bus, sh) ← (p.bus ram).setDmaReg w.fuel sh offset val
      pure (p.afterTransfer bus, bus.ram, sh)
  | .gpu => do
      let (gpu, sh, timers, calls) ← p.gpu.store w.ratio sh p.timers width offset val
      pure ({ p with gpu := gpu, timers := timers, calls := p.calls ++ calls }, ram, sh)
  | .timers => do
      let (timers, sh, display) ← p.timers.store w.ratio width sh p.gpu.toDisplay offset val
      pure ({ p with timers := timers, gpu := { p.gpu with toDisplay := display } }, ram, sh)
  | .cdRom => do
      let (cdRom, sh) ← p.cdRom.store sh width offset val
      pure ({ p with cdRom := cdRom }, ram, sh)
  | .mdec => do
      let mdec ← p.mdec.store width offset val
      pure ({ p with mdec := mdec }, ram, sh)
  | .spu => do
      let spu ← p.spu.store width offset val
      pure ({ p with spu := spu }, ram, sh)
  | .padMemCard => do
      let (padMemCard, sh) ← p.padMemCard.store sh width offset val
      pure ({ p with padMemCard := padMemCard }, ram, sh)
  | .expansion1 => throw .unreachable
  | .expansion2 => do
      let debugUart ← p.debugUart.store width offset val
      pure ({ p with debugUart := debugUart }, ram, sh)

end Wiring

/-! ### The calls of the peripherals -/

namespace Wiring

/-- What a call does to the peripherals and to the shared state, and how long it takes.  `C` is
asked for by a store that configures the video output. -/
inductive Call {I : CdImage} {μ : Type} (w : Wiring μ) (C : Prop) (p : Peripherals I μ)
    (sh : SharedState) : ℕ → Peripherals I μ → SharedState → Prop
  | gpuSync : Call w C p sh 0 { p with gpu := (p.gpu.sync w.ratio sh).1 } (p.gpu.sync w.ratio sh).2
  | gpuStore {width offset val g sh' ts calls} : (offset.toNat = 4 → Gpu.Configures val → C) →
      p.gpu.store w.ratio sh p.timers width offset val = .ok (g, sh', ts, calls) →
      Call w C p sh 0 { p with gpu := g, timers := ts, calls := p.calls ++ calls } sh'
  | timersSync {ts sh'} : p.timers.sync sh = .ok (ts, sh') →
      Call w C p sh 0 { p with timers := ts } sh'
  | timersLoad {width offset v ts sh'} : p.timers.load width sh offset = .ok (v, ts, sh') →
      Call w C p sh 0 { p with timers := ts } sh'
  | timersStore {width offset val ts sh' d} :
      p.timers.store w.ratio width sh p.gpu.toDisplay offset val = .ok (ts, sh', d) →
      Call w C p sh 0 { p with timers := ts, gpu := { p.gpu with toDisplay := d } } sh'
  | cdRom {a cd sh'} : p.cdRom.access sh a = .ok (cd, sh') →
      Call w C p sh 0 { p with cdRom := cd } sh'
  | padMemCard {a q sh'} : PadMemCard.access (p.padMemCard, sh) a = .ok (q, sh') →
      Call w C p sh 0 { p with padMemCard := q } sh'
  | spu {a s} : p.spu.access a = .ok s → Call w C p sh 0 { p with spu := s } sh
  | dma {ram bus n sh'} : Bus.Passes n (p.bus ram) sh bus sh' →
      Call w C p sh n (p.afterTransfer bus) sh'
  | other (mdec port uart) :
      Call w C p sh 0 { p with mdec := mdec, parallelIo := port, debugUart := uart } sh

variable {I : CdImage} {μ : Type} {w : Wiring μ} {C : Prop} {p p' : Peripherals I μ}
  {ram ram' : Ram} {sh sh' : SharedState} {width : Width} {offset val v : U32}

lemma sync_call {which : SyncedDevice} (h : w.sync which p sh = .ok (p', sh')) :
    w.Call C p sh 0 p' sh' := by
  cases which with
  | gpu =>
      cases h
      exact .gpuSync
  | padMemCard =>
      obtain ⟨x, hsync, heq⟩ := bind_eq_ok.mp h
      cases heq
      exact .padMemCard (a := .sync) hsync
  | timers =>
      obtain ⟨x, hsync, heq⟩ := bind_eq_ok.mp h
      cases heq
      exact .timersSync hsync
  | cdRom =>
      obtain ⟨x, hsync, heq⟩ := bind_eq_ok.mp h
      cases heq
      exact .cdRom (a := .sync) hsync

lemma load_call {which : Device} (h : w.load which width p sh offset = .ok (v, p', sh')) :
    w.Call C p sh 0 p' sh' := by
  cases which with
  | gpu =>
      obtain ⟨⟨x, g, s⟩, hload, heq⟩ := bind_eq_ok.mp h
      cases heq
      obtain ⟨rfl, rfl⟩ := Prod.mk.inj (Gpu.load_sync hload)
      exact .gpuSync
  | timers =>
      obtain ⟨x, hload, heq⟩ := bind_eq_ok.mp h
      cases heq
      exact .timersLoad hload
  | cdRom =>
      obtain ⟨x, hload, heq⟩ := bind_eq_ok.mp h
      cases heq
      exact .cdRom (a := .load width offset) (bind_eq_ok.mpr ⟨x, hload, rfl⟩)
  | padMemCard =>
      obtain ⟨x, hload, heq⟩ := bind_eq_ok.mp h
      cases heq
      exact .padMemCard (a := .load width offset) (bind_eq_ok.mpr ⟨x, hload, rfl⟩)
  | expansion1 =>
      cases h
      exact .other _ _ _
  | dma | mdec | spu | expansion2 =>
      obtain ⟨x, -, heq⟩ := bind_eq_ok.mp h
      cases heq
      exact .other _ _ _

lemma store_call {which : Device}
    (hC : which = .gpu → offset.toNat = 4 → Gpu.Configures val → C)
    (h : w.store which width p ram sh offset val = .ok (p', ram', sh')) :
    ∃ n < 2 ^ 32, w.Call C p sh n p' sh' := by
  cases which with
  | dma =>
      obtain ⟨x, hreg, heq⟩ := bind_eq_ok.mp h
      cases heq
      obtain ⟨n, hn, hpasses⟩ := Bus.setDmaReg_spec hreg
      exact ⟨n, hn, .dma hpasses⟩
  | gpu =>
      obtain ⟨x, hstore, heq⟩ := bind_eq_ok.mp h
      cases heq
      exact ⟨0, by decide, .gpuStore (hC rfl) hstore⟩
  | timers =>
      obtain ⟨x, hstore, heq⟩ := bind_eq_ok.mp h
      cases heq
      exact ⟨0, by decide, .timersStore hstore⟩
  | cdRom =>
      obtain ⟨x, hstore, heq⟩ := bind_eq_ok.mp h
      cases heq
      exact ⟨0, by decide, .cdRom (a := .store width offset val) hstore⟩
  | padMemCard =>
      obtain ⟨x, hstore, heq⟩ := bind_eq_ok.mp h
      cases heq
      exact ⟨0, by decide, .padMemCard (a := .store width offset val) hstore⟩
  | spu =>
      obtain ⟨x, hstore, heq⟩ := bind_eq_ok.mp h
      cases heq
      exact ⟨0, by decide, .spu (a := .store width offset val) hstore⟩
  | expansion1 => cases h
  | mdec | expansion2 =>
      obtain ⟨x, -, heq⟩ := bind_eq_ok.mp h
      cases heq
      exact ⟨0, by decide, .other _ _ _⟩

/-- A peripheral acts on its own sheets, or lets time pass. -/
lemma Call.served {n : ℕ} (h : w.Call C p sh n p' sh') :
    (∃ own, Served own sh sh') ∨ Delayed n sh sh' := by
  cases h with
  | gpuSync => exact .inl ⟨_, Display.served_sync w.ratio p.gpu.toDisplay sh⟩
  | gpuStore _ hstore => exact .inl ⟨_, Gpu.served_store hstore⟩
  | timersSync hsync => exact .inl ⟨_, Timers.served_sync hsync⟩
  | timersLoad hload => exact .inl ⟨_, Timers.served_load hload⟩
  | timersStore hstore =>
      obtain ⟨s, s', hfirst, hlast, hgpu⟩ := Timers.served_store hstore
      refine .inl ⟨Peripheral.IsVideo, (hfirst.mono fun _ => Or.inr).trans
        (Served.trans ?_ (hlast.mono fun _ => Or.inr))⟩
      rcases hgpu with ⟨-, rfl⟩ | hsync
      · exact .refl _
      · rw [show s' = _ from congrArg Prod.snd hsync]
        exact Gpu.served_video _ s
  | cdRom haccess => exact .inl ⟨_, CdRom.served_access haccess⟩
  | padMemCard haccess => exact .inl ⟨_, PadMemCard.served_access haccess⟩
  | dma hpasses => exact .inr hpasses.delayed
  | spu | other => exact .inr (.refl _)

lemma Call.raised {n : ℕ} (h : w.Call C p sh n p' sh') : sh.irqState.Raised sh'.irqState := by
  rcases h.served with ⟨own, hserved⟩ | hdelayed
  · exact hserved.raised
  · exact hdelayed.raised

lemma store_raised {which : Device}
    (h : w.store which width p ram sh offset val = .ok (p', ram', sh')) :
    sh.irqState.Raised sh'.irqState := by
  obtain ⟨n, -, hcall⟩ := store_call (C := True) (fun _ _ _ => trivial) h
  exact hcall.raised

end Wiring

/-! ### The peripherals on the bus -/

/-- What has happened to the shared state, as the bus sees it. -/
def Effects.between (sh sh' : SharedState) : Effects :=
  ⟨sh'.tk, sh'.counters, InterruptState.newly sh.irqState sh'.irqState⟩

lemma apply_between {sh sh' : SharedState} (h : sh.irqState.Raised sh'.irqState) :
    sh.apply (.between sh sh') = sh' := by
  rw [SharedState.apply, Effects.between, InterruptState.foldl_newly h]

namespace Wiring

variable {I : CdImage} {μ : Type}

/-- The peripherals behind the interface of the interconnect. -/
def devices (w : Wiring μ) : Devices (Peripherals I μ) where
  sync which p sh := do
    let (p, sh') ← w.sync which p sh
    pure (p, .between sh sh')
  load which width p sh offset := do
    let (v, p, sh') ← w.load which width p sh offset
    pure (v, p, .between sh sh')
  store which width p ram sh offset val := do
    let (p, ram, sh') ← w.store which width p ram sh offset val
    pure (p, ram, .between sh sh')

variable (w : Wiring μ) (inter : Interconnect (Peripherals I μ)) (sh : SharedState)

/-- Synchronising over the bus is synchronising with the shared state at hand. -/
lemma syncDevice_eq (which : SyncedDevice) :
    inter.syncDevice w.devices which sh = (w.sync which inter.devices sh >>= fun x =>
      pure ({ inter with devices := x.1 }, x.2)) := by
  rw [Interconnect.syncDevice]
  cases hsync : w.sync which inter.devices sh with
  | error e => simp [devices, hsync]
  | ok x => simp [devices, hsync, apply_between (sync_call (C := True) hsync).raised]

lemma loadDevice_eq (which : Device) (width : Width) (offset : U32) :
    inter.loadDevice w.devices which width sh offset =
      (w.load which width inter.devices sh offset >>= fun x =>
        pure (x.1, { inter with devices := x.2.1 }, x.2.2)) := by
  rw [Interconnect.loadDevice]
  cases hload : w.load which width inter.devices sh offset with
  | error e => simp [devices, hload]
  | ok x => simp [devices, hload, apply_between (load_call (C := True) hload).raised]

lemma storeDevice_eq (which : Device) (width : Width) (offset val : U32) :
    inter.storeDevice w.devices which width sh offset val =
      (w.store which width inter.devices inter.ram sh offset val >>= fun x =>
        pure ({ inter with devices := x.1, ram := x.2.1 }, x.2.2)) := by
  rw [Interconnect.storeDevice]
  cases hstore : w.store which width inter.devices inter.ram sh offset val with
  | error e => simp [devices, hstore]
  | ok x => simp [devices, hstore, apply_between (store_raised hstore)]

end Wiring

/-- What is connected to the CPU, and the state they share. -/
abbrev Board (I : CdImage) (μ : Type) := Interconnect (Peripherals I μ) × SharedState

/-- The CPU with all that is connected to it, and the state they share. -/
abbrev Console (I : CdImage) (μ : Type) := Cpu (Peripherals I μ) × SharedState

/-- The console when it is switched on. -/
def Cpu.powerOn {I : CdImage} {μ : Type} (standard : VideoClock) (bios : Bios)
    (disc : Option (Disc I)) (parallelIo : μ) : Console I μ :=
  (.new (.new bios (.new standard disc parallelIo)), .new)

end Rustation
