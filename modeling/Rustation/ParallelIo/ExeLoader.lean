import Rustation.Assembler.Assemble
import Rustation.CdRom.State
import Rustation.Memory.Interconnect

/-!
The parallel port of the console (`parallel_io/mod.rs`) and the module that loads an
executable through it (`parallel_io/exe_loader.rs`).

The module answers to two kinds of addresses: a FIFO from which the text of the
executable is read byte by byte, and the machine code of a loader.  Neither module of
the source uses the shared state.

* `ParallelIo.load`: an access, which is made of byte accesses;
* `ExeLoader.assembleLoader`: the code of the loader;
* `Devices.plugged`: the peripherals with the loader in the port.
-/

namespace Rustation

open Fallible

/-! ### The port -/

/-- What is connected to the port, `μ` being its state. -/
structure ParallelIoModule (μ : Type) where
  load : μ → U32 → U8 × μ
  store : μ → U32 → U8 → μ

/-- Nothing is connected: the CPU reads full ones. -/
def ParallelIoModule.disconnected : ParallelIoModule Unit where
  load m _ := (0xff, m)
  store m _ _ := m

namespace ParallelIo

variable {μ : Type}

/-- The loop over the bytes of an access, the last argument being the number of bytes
left. -/
def loadFrom (port : ParallelIoModule μ) (m : μ) (offset : U32) (i : ℕ) (r : U32) : ℕ → U32 × μ
  | 0 => (r, m)
  | n + 1 =>
      let (b, m) := port.load m (offset + BitVec.ofNat 32 i)
      loadFrom port m offset (i + 1) (r ||| b.setWidth 32 <<< (8 * i)) n

def load (port : ParallelIoModule μ) (m : μ) (width : Width) (offset : U32) : U32 × μ :=
  loadFrom port m offset 0 0 width.size

end ParallelIo

/-! ### The module -/

structure ExeLoader where
  /-- base address of the executable -/
  base : U32
  /-- entry point -/
  entry : U32
  /-- value of GP before the jump to the entry point -/
  initialGp : U32
  /-- value of SP before the jump to the entry point -/
  initialSp : U32
  /-- base address of the area filled with zeroes -/
  memfillBase : U32
  memfillLen : U32
  region : Option Region
  text : List U8
  /-- index into `text` for the FIFO -/
  textIndex : ℕ
  /-- code of the loader -/
  loader : List U8

namespace ExeLoader

/-- Offset of the FIFO in the expansion. -/
def EXE_FIFO_OFFSET : U32 := 0x100

def EXE_FIFO_ADDRESS : U32 := Map.EXPANSION_1.start + EXE_FIFO_OFFSET

/-- Offset of the code of the loader in the expansion. -/
def LOADER_ENTRY_OFFSET : U32 := 0x200

def LOADER_ENTRY_ADDRESS : U32 := Map.EXPANSION_1.start + LOADER_ENTRY_OFFSET

section

open Asm

/-- The code that loads the executable in RAM. -/
def loaderProgram (exe : ExeLoader) : List Asm.Instruction := [
  -- mask all interrupts, the executable will be free to enable them
  .li T0 Map.IRQ_CONTROL.start,
  .sh R0 T0 4,
  -- the area filled with zeroes, skipped if its length is 0
  .li T0 exe.memfillBase,
  .li T1 exe.memfillLen,
  .beqz T1 (.localName "memfill_done" 'f'),
  .add T1 T0 T1,
  .localLabel "memfill_loop",
  .addiu T0 T0 1,
  .bne T0 T1 (.localName "memfill_loop" 'b'),
  .sb R0 T0 (-1),
  .localLabel "memfill_done",
  -- copy the text from the FIFO
  .li T0 exe.base,
  .li T1 (BitVec.ofNat 32 exe.text.length),
  .beqz T1 (.localName "text_copy_done" 'f'),
  .add T1 T0 T1,
  .li T2 EXE_FIFO_ADDRESS,
  .localLabel "text_copy_loop",
  .lb T3 T2 0,
  .addiu T0 T0 1,
  .bne T0 T1 (.localName "text_copy_loop" 'b'),
  .sb T3 T0 (-1),
  .localLabel "text_copy_done",
  .jal (.globalName "clear_cache"),
  .nop,
  -- load the registers and jump into the executable
  .li GP exe.initialGp,
  .li SP exe.initialSp,
  .li T0 exe.entry,
  .jalr RA T0,
  .nop,
  -- there is no point in returning to the caller
  .localLabel "infinite_loop",
  .b (.localName "infinite_loop" 'b'),
  .nop,
  .globalLabel "clear_cache",
  .addiu SP SP (-24),
  .sw RA SP 20,
  .sw FP SP 16,
  .move FP SP,
  -- move to KSEG1, which is not cached
  .la T0 (.localName "uncached" 'f'),
  .lui T1 0xa000,
  .or T0 T0 T1,
  .jr T0,
  .nop,
  .localLabel "uncached",
  .li T0 Map.CACHE_CONTROL.start,
  .lw T5 T0 0,
  -- enable the instruction cache, set the tag test mode
  .li T1 0x804,
  .sw T1 T0 0,
  -- isolate the cache
  .mfc0 T1 12,
  .li T2 0x00010000,
  .or T1 T1 T2,
  .mtc0 T1 12,
  -- write 0 to each 4th word from 0 to 4095
  .li T1 0x1000,
  .li T2 0,
  .localLabel "icache_invalidate_loop",
  .addiu T2 T2 16,
  .bne T2 T1 (.localName "icache_invalidate_loop" 'b'),
  .sw R0 T2 (-16),
  -- de-isolate the cache
  .mfc0 T1 12,
  .li T2 (~~~0x00010000#32),
  .and T1 T1 T2,
  .mtc0 T1 12,
  -- clear the tag test mode
  .li T1 0x800,
  .sw T1 T0 0,
  -- isolate the cache again
  .mfc0 T1 12,
  .li T2 0x00010000,
  .or T1 T1 T2,
  .mtc0 T1 12,
  -- write 0 to each word from 0 to 4095
  .li T1 0x1000,
  .li T2 0,
  .localLabel "icache_zero_loop",
  .addiu T2 T2 4,
  .bne T2 T1 (.localName "icache_zero_loop" 'b'),
  .sw R0 T2 (-4),
  -- de-isolate the cache
  .mfc0 T1 12,
  .li T2 (~~~0x00010000#32),
  .and T1 T1 T2,
  .mtc0 T1 12,
  -- restore the cache control
  .sw T5 T0 0,
  .move SP FP,
  .lw RA SP 20,
  .lw FP SP 16,
  .jr RA,
  .addiu SP SP 24]

end

/-- Assemble the code of the loader. -/
def assembleLoader (exe : ExeLoader) : Outcome ExeLoader :=
  match (Asm.Assembler.fromBase LOADER_ENTRY_ADDRESS).assemble exe.loaderProgram with
  | .ok (_, asm) => pure { exe with loader := asm.machineCode }
  | .error e => throw (.panic e)

def load (exe : ExeLoader) (offset : U32) : U8 × ExeLoader :=
  if offset = EXE_FIFO_OFFSET then
    match exe.text[exe.textIndex]? with
    | some b => (b, { exe with textIndex := exe.textIndex + 1 })
    | none => (0xff, exe)
  else if offset ≥ LOADER_ENTRY_OFFSET then
    -- there is nothing after the loader
    (exe.loader.getD (offset - LOADER_ENTRY_OFFSET).toNat 0xff, exe)
  else (0xff, exe)

def store (exe : ExeLoader) (_ : U32) (_ : U8) : ExeLoader := exe

/-- The loader as a module. -/
def module : ParallelIoModule ExeLoader := ⟨load, store⟩

end ExeLoader

/-- The peripherals with the loader in the port, `rest` being the other ones. -/
def Devices.plugged {ε : Type} (rest : Devices ε) : Devices (ExeLoader × ε) where
  sync which d sh := do
    let (e, effects) ← rest.sync which d.2 sh
    pure ((d.1, e), effects)
  load which width d sh offset :=
    match which with
    | .expansion1 =>
        let (v, exe) := ParallelIo.load ExeLoader.module d.1 width offset
        pure (v, (exe, d.2), ⟨sh.tk, sh.counters, []⟩)
    | _ => do
        let (v, e, effects) ← rest.load which width d.2 sh offset
        pure (v, (d.1, e), effects)
  store which width d ram sh offset val := do
    let (e, ram, effects) ← rest.store which width d.2 ram sh offset val
    pure ((d.1, e), ram, effects)

end Rustation
