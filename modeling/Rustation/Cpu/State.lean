import Rustation.Cpu.Cop0
import Rustation.Gte.Commands
import Rustation.Memory.Interconnect

/-!
The state of the CPU (`cpu/mod.rs`) and the operations its instructions are
made of: the fields of an instruction word, the register file with its pending
load, the instruction cache, memory accesses, branches and exceptions.

The register file is a subtype: register 0 holds 0.  The one field of `Cpu` the
source does not have is `entered`, a history of the exceptions entered, which
no operation reads.
-/

namespace Rustation

open Fallible

/-! ### Instruction words -/

/-- A register number, of 5 bits. -/
abbrev RegisterIndex := Fin 32

/-- The five bits from `lo` on, as a register number. -/
def registerField (op : U32) (lo : ℕ) : RegisterIndex := Fin.ofNat 32 (op >>> lo &&& 0x1f).toNat

structure Instruction where
  word : U32
  deriving DecidableEq, Repr

namespace Instruction

/-- Bits 31 to 26. -/
def function (i : Instruction) : U32 := i.word >>> 26

/-- Bits 5 to 0. -/
def subfunction (i : Instruction) : U32 := i.word &&& 0x3f

/-- Coprocessor opcode in bits 25 to 21. -/
def copOpcode (i : Instruction) : U32 := i.word >>> 21 &&& 0x1f

/-- Register index in bits 25 to 21. -/
def s (i : Instruction) : RegisterIndex := registerField i.word 21

/-- Register index in bits 20 to 16. -/
def t (i : Instruction) : RegisterIndex := registerField i.word 16

/-- Register index in bits 15 to 11. -/
def d (i : Instruction) : RegisterIndex := registerField i.word 11

/-- Immediate value in the low half. -/
def imm (i : Instruction) : U32 := i.word &&& 0xffff

/-- Immediate value in the low half, sign-extended. -/
def immSe (i : Instruction) : U32 := ((i.word &&& 0xffff).setWidth 16).signExtend 32

/-- Shift amount in bits 10 to 6. -/
def shift (i : Instruction) : U32 := i.word >>> 6 &&& 0x1f

/-- Jump target in bits 25 to 0. -/
def immJump (i : Instruction) : U32 := i.word &&& 0x3ffffff

/-- The test for an opcode of the Geometry Transform Engine. -/
def isGteOp (i : Instruction) : Bool := i.function == 0b010001

end Instruction

/-! ### General purpose registers -/

/-- The register file. -/
@[ext]
structure Regs where
  val : RegisterIndex → U32
  /-- register 0 is hardwired -/
  zero : val 0 = 0

namespace Regs

def set (regs : Regs) (index : RegisterIndex) (v : U32) : Regs where
  val := Function.update (Function.update regs.val index v) 0 0
  zero := Function.update_self ..

lemma set_val (regs : Regs) (index : RegisterIndex) (v : U32) (q : RegisterIndex) :
    (regs.set index v).val q = if q = 0 then 0 else if q = index then v else regs.val q := by
  simp only [set, Function.update_apply]

@[simp] lemma set_zero (regs : Regs) (v : U32) : regs.set 0 v = regs := by
  refine Regs.ext (funext fun q => ?_)
  rw [set_val]
  split_ifs with h
  · rw [h, regs.zero]
  · rfl

end Regs

/-! ### Instruction cache -/

/-- A line of four words. -/
structure ICacheLine where
  /-- tag, and the index of the first valid word in bits 4 to 2 -/
  tagValid : U32
  line : Fin 4 → Instruction

namespace ICacheLine

def new : ICacheLine := ⟨0, fun _ => ⟨0⟩⟩

def tag (l : ICacheLine) : U32 := l.tagValid &&& 0xfffff000

/-- The first valid word of the line. -/
def validIndex (l : ICacheLine) : U32 := l.tagValid >>> 2 &&& 0x7

/-- Set the tag and the valid bits, `pc` being the first valid address. -/
def setTagValid (l : ICacheLine) (pc : U32) : ICacheLine := { l with tagValid := pc &&& 0x7ffff00c }

/-- Push the index of the first valid word out of range. -/
def invalidate (l : ICacheLine) : ICacheLine := { l with tagValid := l.tagValid ||| 0x10 }

def instruction (l : ICacheLine) (index : U32) : Instruction := l.line (Fin.ofNat 4 index.toNat)

def setInstruction (l : ICacheLine) (index : U32) (i : Instruction) : ICacheLine :=
  { l with line := Function.update l.line (Fin.ofNat 4 index.toNat) i }

end ICacheLine

/-! ### The CPU -/

structure Cpu (δ : Type) where
  /-- the next instruction -/
  pc : U32
  /-- next value of the PC, for the branch delay slot -/
  nextPc : U32
  /-- the instruction being executed -/
  currentPc : U32
  regs : Regs
  hi : U32
  lo : U32
  icache : Fin 0x100 → ICacheLine
  inter : Interconnect δ
  cop0 : Cop0
  gte : Gte
  /-- load initiated by the current instruction, register and value -/
  load : RegisterIndex × U32
  /-- set if a branch occurred and the next instruction is in the delay slot -/
  branch : Bool
  /-- set if the current instruction is in the delay slot -/
  delaySlot : Bool
  debugOnBreak : Bool
  /-- history of the exceptions entered, the last one at the head -/
  entered : List Exception

namespace Cpu

variable {δ : Type} (dev : Devices δ)

def new (inter : Interconnect δ) : Cpu δ where
  pc := 0xbfc00000
  nextPc := 0xbfc00004
  currentPc := 0
  regs := ⟨fun q => if q = 0 then 0 else 0xdeadbeef, rfl⟩
  hi := 0xdeadbeef
  lo := 0xdeadbeef
  icache _ := .new
  inter := inter
  cop0 := .new
  gte := .new
  load := (0, 0)
  branch := false
  delaySlot := false
  debugOnBreak := false
  entered := []

/-! ### Registers -/

def reg (c : Cpu δ) (index : RegisterIndex) : U32 := c.regs.val index

def setReg (c : Cpu δ) (index : RegisterIndex) (v : U32) : Cpu δ :=
  { c with regs := c.regs.set index v }

/-- Execute any pending load. -/
def delayedLoad (c : Cpu δ) : Cpu δ :=
  let (index, v) := c.load
  { c.setReg index v with load := (0, 0) }

/-- Execute the pending load and set up the next one.  If both target the same
register the older one is cancelled. -/
def delayedLoadChain (c : Cpu δ) (index : RegisterIndex) (v : U32) : Cpu δ :=
  let (pendingReg, pendingVal) := c.load
  let c := if pendingReg ≠ index then c.setReg pendingReg pendingVal else c
  { c with load := (index, v) }

/-! ### Branches and exceptions -/

/-- Branch to the immediate value `offset`, in words. -/
def branchTo (c : Cpu δ) (offset : U32) : Cpu δ :=
  { c with nextPc := c.pc + offset <<< 2, branch := true }

/-- Trigger an exception. -/
def exception (c : Cpu δ) (cause : Exception) : Cpu δ :=
  let (handlerAddr, cop0) := c.cop0.enterException cause c.currentPc c.delaySlot
  { c with
    cop0 := cop0
    pc := handlerAddr
    nextPc := handlerAddr + 4
    entered := cause :: c.entered }

/-! ### Memory accesses -/

/-- Memory read. -/
def memLoad (c : Cpu δ) (width : Width) (sh : SharedState) (addr : U32) :
    Outcome (U32 × Cpu δ × SharedState) := do
  let (v, inter, sh) ← c.inter.load dev width sh addr
  pure (v, { c with inter := inter }, sh)

/-- The cache line of an address. -/
def lineIndex (addr : U32) : Fin 0x100 := Fin.ofNat 0x100 (addr >>> 4 &&& 0xff).toNat

def setLine (c : Cpu δ) (index : Fin 0x100) (l : ICacheLine) : Cpu δ :=
  { c with icache := Function.update c.icache index l }

/-- Handle writes when the cache is isolated. -/
def cacheMaintenance (c : Cpu δ) (width : Width) (addr val : U32) : Outcome (Cpu δ) := do
  let cc := c.inter.cacheControl
  if !cc.icacheEnabled then
    throw (.panic "Cache maintenance while instruction cache is disabled")
  if width.size ≠ 4 ∨ val ≠ 0 then throw (.panic "Unsupported write while cache is isolated")
  let index := lineIndex addr
  let line := c.icache index
  if cc.tagTestMode then
    -- in tag test mode the write invalidates the entire line
    pure (c.setLine index line.invalidate)
  else pure (c.setLine index (line.setInstruction (addr >>> 2 &&& 3) ⟨val⟩))

/-- Memory write. -/
def memStore (c : Cpu δ) (width : Width) (sh : SharedState) (addr val : U32) :
    Outcome (Cpu δ × SharedState) :=
  if c.cop0.cacheIsolated then do
    let c ← c.cacheMaintenance width addr val
    pure (c, sh)
  else do
    let (inter, sh) ← c.inter.store dev width sh addr val
    pure ({ c with inter := inter }, sh)

/-! ### Instruction fetch -/

/-- Load the words of a line from the index `i` on, the last argument being the
number of words left. -/
def fillLine (inter : Interconnect δ) (line : ICacheLine) (sh : SharedState) (cpc i : U32) :
    ℕ → Outcome (Interconnect δ × ICacheLine × SharedState)
  | 0 => pure (inter, line, sh)
  | n + 1 => do
      let sh := sh.tick 1
      let (word, inter, sh) ← inter.loadInstruction dev sh cpc
      fillLine inter (line.setInstruction i ⟨word⟩) sh (cpc + 4) (i + 1) n

/-- Fetch the instruction at `currentPc` through the instruction cache. -/
def fetchInstruction (c : Cpu δ) (sh : SharedState) :
    Outcome (Instruction × Cpu δ × SharedState) :=
  let pc := c.currentPc
  -- KUSEG and KSEG0 are cached
  if pc < 0xa0000000 ∧ c.inter.cacheControl.icacheEnabled then
    let tag := pc &&& 0x7ffff000
    let index := pc >>> 2 &&& 3
    let line := c.icache (lineIndex pc)
    if line.tag ≠ tag ∨ line.validIndex > index then do
      -- cache miss: the line is fetched from the current index on
      let sh := sh.tick 3
      let (inter, line, sh) ← fillLine dev c.inter line sh pc index (4 - index.toNat)
      let line := line.setTagValid pc
      pure (line.instruction index, { c.setLine (lineIndex pc) line with inter := inter }, sh)
    else pure (line.instruction index, c, sh)
  else do
    let sh := sh.tick 4
    let (word, inter, sh) ← c.inter.loadInstruction dev sh pc
    pure (⟨word⟩, { c with inter := inter }, sh)

/-! ### What memory accesses may change -/

variable {dev} {c : Cpu δ} {sh sh' : SharedState}

lemma memLoad_frame {width : Width} {addr : U32} {x : U32 × Cpu δ × SharedState}
    (h : c.memLoad dev width sh addr = .ok x) : x.2.1 = { c with inter := x.2.1.inter } := by
  obtain ⟨y, -, heq⟩ := bind_eq_ok.mp h
  injection heq with heq
  rw [← heq]

lemma cacheMaintenance_frame {width : Width} {addr val : U32} {c' : Cpu δ}
    (h : c.cacheMaintenance width addr val = .ok c') : c' = { c with icache := c'.icache } := by
  unfold cacheMaintenance at h
  dsimp only at h
  split_ifs at h <;> first | simp at h; done | (injection h with h; rw [← h]; rfl)

lemma memStore_frame {width : Width} {addr val : U32} {x : Cpu δ × SharedState}
    (h : c.memStore dev width sh addr val = .ok x) :
    x.1 = { c with icache := x.1.icache, inter := x.1.inter } := by
  unfold memStore at h
  split_ifs at h
  · obtain ⟨c', hc', heq⟩ := bind_eq_ok.mp h
    injection heq with heq
    rw [← heq, cacheMaintenance_frame hc']
  · obtain ⟨y, -, heq⟩ := bind_eq_ok.mp h
    injection heq with heq
    rw [← heq]

lemma serviced_fillLine {inter inter' : Interconnect δ} {line line' : ICacheLine} {cpc k : U32}
    {n : ℕ} (h : fillLine dev inter line sh cpc k n = .ok (inter', line', sh')) :
    inter.Serviced sh inter' sh' := by
  induction n generalizing inter line sh cpc k with
  | zero =>
      injection h with h
      injection h with hinter h
      injection h with _ hsh
      subst hinter hsh
      exact .refl ..
  | succ n ih =>
      obtain ⟨⟨v, i1, s1⟩, hload, hrest⟩ := bind_eq_ok.mp h
      have hone : inter.Serviced (sh.tick 1) i1 s1 := Interconnect.serviced_loadInstruction hload
      exact ⟨(hone.trans (ih hrest)).memory, (hone.trans (ih hrest)).active⟩

/-- A fetch refills the cache and leaves the memory alone. -/
lemma fetchInstruction_frame {i : Instruction} {c' : Cpu δ}
    (h : c.fetchInstruction dev sh = .ok (i, c', sh')) :
    c' = { c with icache := c'.icache, inter := c'.inter } ∧ c.inter.Serviced sh c'.inter sh' := by
  unfold fetchInstruction at h
  dsimp only at h
  split_ifs at h
  · obtain ⟨⟨inter, line, s1⟩, hfill, heq⟩ := bind_eq_ok.mp h
    injection heq with heq
    injection heq with hi heq
    injection heq with hc hsh
    subst hc hsh
    have hserviced : c.inter.Serviced (sh.tick 3) inter s1 := serviced_fillLine hfill
    exact ⟨rfl, hserviced.memory, hserviced.active⟩
  · injection h with h
    injection h with hi h
    injection h with hc hsh
    subst hc hsh
    exact ⟨rfl, .refl ..⟩
  · obtain ⟨⟨v, inter, s1⟩, hload, heq⟩ := bind_eq_ok.mp h
    injection heq with heq
    injection heq with hi heq
    injection heq with hc hsh
    subst hc hsh
    have hserviced : c.inter.Serviced (sh.tick 4) inter s1 :=
      Interconnect.serviced_loadInstruction hload
    exact ⟨rfl, hserviced.memory, hserviced.active⟩

end Cpu

end Rustation
