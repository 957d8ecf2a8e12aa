import Rustation.Lib.Outcome
import Rustation.Lib.Run
import Rustation.Memory.Addressable

/-!
The sound processing unit (`spu/mod.rs`): registers that are kept as they were
written, and the RAM behind the transfer FIFO.

* `Spu.store`, `Spu.load`: the accesses of the host.  Some registers cannot be
  written, others cannot be read;
* `Spu.InRam`: the write pointer is inside the RAM, which every access keeps, so
  that no transfer ever leaves it;
* `Spu.written`: the words sent through the FIFO in a run of accesses;
* `Spu.transfer_exact`: after a start address has been set, the words that follow
  are stored one after the other from there on, around the end of the RAM,
  whatever else is accessed in between.
-/

namespace Rustation

open Fallible

/-! ### Registers -/

/-- SPU RAM: 256k samples of 16 bits. -/
def SPU_RAM_SIZE : ℕ := 256 * 1024

instance : NeZero SPU_RAM_SIZE := ⟨by decide⟩

structure Spu where
  /-- the value of each register as it was last written -/
  shadowRegisters : Fin 0x100 → U16
  ram : Fin SPU_RAM_SIZE → U16
  /-- write pointer in the RAM -/
  ramIndex : U32

namespace Spu

/-! The registers that do something, by their half word index. -/

def VOICE_ON_LOW : ℕ := 0xc4
def VOICE_ON_HIGH : ℕ := 0xc5
def VOICE_OFF_LOW : ℕ := 0xc6
def VOICE_OFF_HIGH : ℕ := 0xc7
def VOICE_STATUS_LOW : ℕ := 0xce
def VOICE_STATUS_HIGH : ℕ := 0xcf
def TRANSFER_START_INDEX : ℕ := 0xd3
def TRANSFER_FIFO : ℕ := 0xd4
def CONTROL : ℕ := 0xd5
def TRANSFER_CONTROL : ℕ := 0xd6
def STATUS : ℕ := 0xd7

/-- The registers a store accepts: those of the voices, the volumes and the voice masks, the
reverb base, the transfer registers, the input volumes and the reverb configuration. -/
def storable (index : ℕ) : Bool :=
  index < 0xd0 || index == 0xd1 || (0xd3 ≤ index && index ≤ 0xd6) || (0xd8 ≤ index && index ≤ 0xdb)
    || (0xe0 ≤ index && index ≤ 0xff)

/-- The registers a load accepts. -/
def loadable (index : ℕ) : Bool :=
  index < 0xc2 || (0xc4 ≤ index && index ≤ 0xc7) || (0xca ≤ index && index ≤ 0xcf)
    || index == TRANSFER_START_INDEX || (CONTROL ≤ index && index ≤ 0xdd)

def new : Spu := ⟨fun _ => 0, fun _ => 0xbad, 0⟩

/-- The place of a register in the shadow. -/
def slot (index : ℕ) : Fin 0x100 := ⟨index % 0x100, Nat.mod_lt _ (by decide)⟩

/-- The shadow of a register. -/
def shadow (s : Spu) (index : ℕ) : U16 := s.shadowRegisters (slot index)

def setShadow (s : Spu) (index : ℕ) (val : U16) : Spu :=
  { s with shadowRegisters := Function.update s.shadowRegisters (slot index) val }

def control (s : Spu) : U16 := s.shadow CONTROL

/-- The SPU interrupt is not implemented. -/
def setControl (s : Spu) (ctrl : U16) : Outcome Spu :=
  if ctrl &&& 0x40 != 0 then throw (.panic "Unhandled SPU IRQ") else pure s

def status (s : Spu) : U16 := s.control &&& 0x3f

/-- Set the RAM access pattern, of which only the sequential one is supported. -/
def setTransferControl (s : Spu) (val : U16) : Outcome Spu :=
  if val ≠ 0x4 then throw (.panic "Unhandled SPU RAM access pattern") else pure s

def fifoWrite (s : Spu) (val : U16) : Outcome Spu :=
  if h : s.ramIndex.toNat < SPU_RAM_SIZE then
    pure { s with
      ram := Function.update s.ram ⟨s.ramIndex.toNat, h⟩ val
      ramIndex := (s.ramIndex + 1) &&& 0x3ffff }
  else throw .outOfBounds

/-- What a store does besides the shadow. -/
def react (s : Spu) (index : ℕ) (val : U16) : Outcome Spu :=
  if index = VOICE_ON_LOW then
    pure (s.setShadow VOICE_STATUS_LOW (s.shadow VOICE_STATUS_LOW ||| val))
  else if index = VOICE_ON_HIGH then
    pure (s.setShadow VOICE_STATUS_HIGH (s.shadow VOICE_STATUS_HIGH ||| val))
  else if index = VOICE_OFF_LOW then
    pure (s.setShadow VOICE_STATUS_LOW (s.shadow VOICE_STATUS_LOW &&& ~~~val))
  else if index = VOICE_OFF_HIGH then
    pure (s.setShadow VOICE_STATUS_HIGH (s.shadow VOICE_STATUS_HIGH &&& ~~~val))
  else if index = TRANSFER_START_INDEX then pure { s with ramIndex := val.setWidth 32 <<< 2 }
  else if index = TRANSFER_FIFO then s.fifoWrite val
  else if index = CONTROL then s.setControl val
  else if index = TRANSFER_CONTROL then s.setTransferControl val
  else pure s

def store (s : Spu) (width : Width) (offset val : U32) : Outcome Spu :=
  let val : U16 := val.setWidth 16
  -- convert into a half word index
  let index := (offset >>> 1).toNat
  if width.size ≠ 2 then throw (.panic "Unhandled SPU store")
  else if !storable index then throw (.panic "Unhandled SPU store")
  else do
    let s ← s.react index val
    pure (s.setShadow index val)

def load (s : Spu) (width : Width) (offset : U32) : Outcome U32 :=
  let index := (offset >>> 1).toNat
  if width.size ≠ 2 then throw (.panic "Unhandled SPU load")
  -- the internal registers are not supported
  else if index ≥ 0x100 then pure 0
  else if !loadable index then throw (.panic "Unhandled SPU load")
  else pure ((if index = STATUS then s.status else s.shadow index).setWidth 32)

/-! ### Accesses -/

/-- An access of the host. -/
inductive Access where
  | load (width : Width) (offset : U32)
  | store (width : Width) (offset val : U32)
  deriving DecidableEq, Repr

/-- The state an access leaves. -/
def access (s : Spu) : Access → Outcome Spu
  | .load width offset => do
      let _ ← s.load width offset
      pure s
  | .store width offset val => s.store width offset val

/-- The word an access sends through the FIFO. -/
def Access.word? : Access → Option U16
  | .store _ offset val =>
      if (offset >>> 1).toNat = TRANSFER_FIFO then some (val.setWidth 16) else none
  | .load _ _ => none

/-- The access sets the start address. -/
def Access.starts : Access → Bool
  | .store _ offset _ => (offset >>> 1).toNat == TRANSFER_START_INDEX
  | .load _ _ => false

/-- The words sent through the FIFO, in order. -/
def written (l : List Access) : List U16 := l.filterMap Access.word?

/-! ### The write pointer -/

/-- The write pointer is inside the RAM. -/
def InRam (s : Spu) : Prop := s.ramIndex.toNat < SPU_RAM_SIZE

/-- What an access does to the RAM and to the pointer. -/
inductive Moved (s : Spu) (a : Access) (s' : Spu) : Prop
  /-- a new start address, in units of four samples -/
  | started (val : U16) : a.starts = true → a.word? = none → s'.ram = s.ram →
      s'.ramIndex.toNat = 4 * val.toNat → Moved s a s'
  /-- a word through the FIFO -/
  | pushed (w : U16) (h : s.InRam) : a.starts = false → a.word? = some w →
      s'.ram = Function.update s.ram ⟨s.ramIndex.toNat, h⟩ w →
      s'.ramIndex.toNat = (s.ramIndex.toNat + 1) % SPU_RAM_SIZE → Moved s a s'
  | kept : a.starts = false → a.word? = none → s'.ram = s.ram → s'.ramIndex = s.ramIndex →
      Moved s a s'

variable {s s' : Spu} {a : Access}

lemma toNat_start (val : U16) : (val.setWidth 32 <<< 2).toNat = 4 * val.toNat := by
  have hval := val.isLt
  rw [BitVec.toNat_shiftLeft, BitVec.toNat_setWidth, Nat.shiftLeft_eq]
  omega

lemma toNat_next (p : U32) :
    ((p + 1) &&& 0x3ffff).toNat = (p.toNat + 1) % SPU_RAM_SIZE := by
  have hmask : (0x3ffff : U32).toNat = 2 ^ 18 - 1 := rfl
  have hone : (1 : U32).toNat = 1 := rfl
  rw [SPU_RAM_SIZE, BitVec.toNat_and, hmask, Nat.and_two_pow_sub_one_eq_mod, BitVec.toNat_add, hone]
  omega

/-- The registers other than the two of the transfer leave it alone. -/
lemma react_kept {index : ℕ} {val : U16} (h : s.react index val = .ok s')
    (hstart : index ≠ TRANSFER_START_INDEX) (hfifo : index ≠ TRANSFER_FIFO) :
    s'.ram = s.ram ∧ s'.ramIndex = s.ramIndex := by
  simp only [react, if_neg hstart, if_neg hfifo, setControl, setTransferControl] at h
  split_ifs at h <;> first | (simp at h; done) | (injection h with h; subst h; exact ⟨rfl, rfl⟩)

lemma store_moved {width : Width} {offset val : U32} (h : s.store width offset val = .ok s') :
    Moved s (.store width offset val) s' := by
  unfold store at h
  dsimp only at h
  split_ifs at h with hwidth hstorable
  obtain ⟨t, hreact, heq⟩ := bind_eq_ok.mp h
  cases heq
  by_cases hstart : (offset >>> 1).toNat = TRANSFER_START_INDEX
  · rw [hstart] at hreact
    cases hreact
    refine .started (val.setWidth 16) (beq_iff_eq.mpr hstart) ?_ rfl (toNat_start _)
    rw [Access.word?, hstart]
    rfl
  · have hstarts : (Access.store width offset val).starts = false := beq_eq_false_iff_ne.mpr hstart
    by_cases hfifo : (offset >>> 1).toNat = TRANSFER_FIFO
    · rw [hfifo] at hreact
      change s.fifoWrite (val.setWidth 16) = _ at hreact
      unfold fifoWrite at hreact
      split_ifs at hreact with hin
      cases hreact
      refine .pushed (val.setWidth 16) hin hstarts ?_ rfl (toNat_next _)
      rw [Access.word?, if_pos hfifo]
    · obtain ⟨hram, hindex⟩ := react_kept hreact hstart hfifo
      refine .kept hstarts ?_ hram hindex
      rw [Access.word?, if_neg hfifo]

lemma access_moved (h : s.access a = .ok s') : Moved s a s' := by
  cases a with
  | load width offset =>
      obtain ⟨v, -, heq⟩ := bind_eq_ok.mp h
      cases heq
      exact .kept rfl rfl rfl rfl
  | store width offset val => exact store_moved h

lemma InRam.access (hs : s.InRam) (h : s.access a = .ok s') : s'.InRam := by
  unfold InRam at hs ⊢
  rw [SPU_RAM_SIZE] at hs ⊢
  cases access_moved h with
  | started val _ _ _ hindex =>
      have hval := val.isLt
      omega
  | pushed w _ _ _ _ hindex =>
      rw [hindex, SPU_RAM_SIZE]
      omega
  | kept _ _ _ hindex => rwa [hindex]

/-! ### Transfers -/

/-- The samples `ws` are in the RAM from `p` on, around its end, and the rest is as
in `mem`. -/
structure Placed (mem : Fin SPU_RAM_SIZE → U16) (p : ℕ) (ws : List U16)
    (ram : Fin SPU_RAM_SIZE → U16) : Prop where
  placed : ∀ k (hk : k < ws.length), ram (Fin.ofNat SPU_RAM_SIZE (p + k)) = ws[k]
  others : ∀ j, (∀ k < ws.length, j ≠ Fin.ofNat SPU_RAM_SIZE (p + k)) → ram j = mem j

lemma placed_nil (mem : Fin SPU_RAM_SIZE → U16) (p : ℕ) : Placed mem p [] mem where
  placed k hk := absurd hk (Nat.not_lt_zero k)
  others _ _ := rfl

/-- One more word in front of a transfer that does not come around to it. -/
lemma Placed.cons {mem ram : Fin SPU_RAM_SIZE → U16} {p : ℕ} {w : U16} {ws : List U16}
    (hlen : ws.length < SPU_RAM_SIZE)
    (h : Placed (Function.update mem (Fin.ofNat SPU_RAM_SIZE p) w) (p + 1) ws ram) :
    Placed mem p (w :: ws) ram where
  placed k hk := by
    cases k with
    | zero =>
        have hfirst : ∀ k < ws.length,
            Fin.ofNat SPU_RAM_SIZE p ≠ Fin.ofNat SPU_RAM_SIZE (p + 1 + k) := by
          intro k hk heq
          have hval := congrArg Fin.val heq
          rw [Fin.val_ofNat, Fin.val_ofNat] at hval
          rw [SPU_RAM_SIZE] at hval hlen
          omega
        rw [Nat.add_zero, h.others _ hfirst, Function.update_self]
        rfl
    | succ k =>
        have hk' : k < ws.length := Nat.lt_of_succ_lt_succ hk
        rw [show p + (k + 1) = p + 1 + k by omega, h.placed k hk']
        rfl
  others j hj := by
    have hfirst : j ≠ Fin.ofNat SPU_RAM_SIZE p := hj 0 (Nat.succ_pos _)
    rw [h.others j fun k hk => ?_, Function.update_of_ne hfirst]
    have hnext := hj (k + 1) (Nat.succ_lt_succ hk)
    rwa [show p + (k + 1) = p + 1 + k by omega] at hnext

/-- The run lemma: from a pointer at `p`, a run that sets no new start address places its words
from `p` on. -/
lemma run_placed {l : List Access} {p : ℕ} (hp : s.ramIndex.toNat = p % SPU_RAM_SIZE)
    (hl : ∀ a ∈ l, a.starts = false) (hlen : (written l).length ≤ SPU_RAM_SIZE)
    (h : l.foldlM access s = .ok s') :
    Placed s.ram p (written l) s'.ram ∧
      s'.ramIndex.toNat = (p + (written l).length) % SPU_RAM_SIZE := by
  induction l generalizing s p with
  | nil =>
      cases h
      exact ⟨placed_nil _ p, hp⟩
  | cons a l ih =>
      obtain ⟨t, hstep, hrest⟩ := bind_eq_ok.mp ((List.foldlM_cons ..).symm.trans h)
      have hl' : ∀ b ∈ l, b.starts = false := fun b hb => hl b (List.mem_cons_of_mem a hb)
      cases access_moved hstep with
      | started val hstart =>
          rw [hl a List.mem_cons_self] at hstart
          exact absurd hstart Bool.false_ne_true
      | pushed w hin _ hword hram hindex =>
          have hwritten : written (a :: l) = w :: written l := by
            rw [written, List.filterMap_cons_some hword]
            rfl
          rw [hwritten, List.length_cons] at hlen ⊢
          have hp' : t.ramIndex.toNat = (p + 1) % SPU_RAM_SIZE := by
            rw [hindex, hp, Nat.mod_add_mod]
          obtain ⟨hplaced, hend⟩ := ih hp' hl' (by omega) hrest
          have hcell : (⟨s.ramIndex.toNat, hin⟩ : Fin SPU_RAM_SIZE) = Fin.ofNat SPU_RAM_SIZE p :=
            Fin.ext hp
          rw [hram, hcell] at hplaced
          refine ⟨hplaced.cons (by omega), ?_⟩
          rw [hend]
          congr 1
          omega
      | kept _ hword hram hindex =>
          have hwritten : written (a :: l) = written l := by
            rw [written, List.filterMap_cons_none hword]
            rfl
          rw [hwritten] at hlen ⊢
          rw [← hram]
          exact ih (by rw [hindex, hp]) hl' hlen hrest

/-- **Transfers are sequential.**  After the start address has been set to `val`, a run of accesses
that sets no other one and sends at most as many words as the RAM holds stores them one after the
other from sample `4 * val` on, wrapping around at the end of the RAM, leaves every other sample
alone, and leaves the pointer behind the last word. -/
theorem transfer_exact {width : Width} {offset val : U32} {t : Spu} {l : List Access}
    (hstart : s.store width offset val = .ok t)
    (hoffset : (offset >>> 1).toNat = TRANSFER_START_INDEX)
    (hl : ∀ a ∈ l, a.starts = false) (hlen : (written l).length ≤ SPU_RAM_SIZE)
    (h : l.foldlM access t = .ok s') :
    Placed s.ram (4 * (val.setWidth 16 : U16).toNat) (written l) s'.ram ∧
      s'.ramIndex.toNat =
        (4 * (val.setWidth 16 : U16).toNat + (written l).length) % SPU_RAM_SIZE := by
  have hin := (val.setWidth 16 : U16).isLt
  unfold store at hstart
  dsimp only at hstart
  rw [hoffset] at hstart
  split_ifs at hstart
  injection hstart with hstart
  have hram : s.ram = t.ram := by
    rw [← hstart]
    rfl
  have hindex : t.ramIndex.toNat = 4 * (val.setWidth 16 : U16).toNat % SPU_RAM_SIZE := by
    rw [← hstart]
    refine (toNat_start (val.setWidth 16)).trans (Nat.mod_eq_of_lt ?_).symm
    rw [SPU_RAM_SIZE]
    omega
  rw [hram]
  exact run_placed hindex hl hlen h

/-- The accesses of a transfer: the words `ws` through the FIFO. -/
def send (ws : List U16) : List Access := ws.map fun w => .store .halfWord 0x1a8 (w.setWidth 32)

/-- A transfer of six words that starts four samples before the end of the RAM. -/
theorem transfer_exact_around : ∃ t s', new.store .halfWord 0x1a6 0xffff = .ok t ∧
    (send [1, 2, 3, 4, 5, 6]).foldlM access t = .ok s' ∧
      Placed new.ram 0x3fffc [1, 2, 3, 4, 5, 6] s'.ram ∧ s'.ramIndex.toNat = 2 := by
  obtain ⟨t, ht⟩ : ∃ t, new.store .halfWord 0x1a6 0xffff = .ok t := ⟨_, rfl⟩
  obtain ⟨s', hs'⟩ : ∃ s', (send [1, 2, 3, 4, 5, 6]).foldlM access t = .ok s' := by
    injection ht with ht
    exact ht ▸ ⟨_, rfl⟩
  exact ⟨t, s', ht, hs', transfer_exact ht (by decide) (by decide) (by decide) hs'⟩

end Spu

end Rustation
