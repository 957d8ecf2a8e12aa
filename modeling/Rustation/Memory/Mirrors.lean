import Rustation.Memory.Regions

/-!
The memories of `memory/ram.rs` refine byte memories: whatever has been stored,
in accesses of any width, a load returns the bytes that were written last.

* `Store.byteAt`: the byte a store writes at a location, locations being counted
  modulo the size of the memory;
* `lastByte`: the byte written last, the abstract memory;
* `lastByte_eq`: the memory after the stores is the abstract one;
* `memories_refine`: main RAM through all of its mirrors, and the scratchpad.
-/

namespace Rustation

open Fallible

/-! ### The abstract memory -/

/-- A store to a memory. -/
structure Store where
  width : Width
  offset : U32
  val : U32

/-- The byte the store writes at a location of a memory of `n` bytes, if it
writes one there. -/
def Store.byteAt (n : ℕ) (st : Store) (location : ℕ) : Option U8 :=
  ((List.range st.width.size).find? fun i => (st.offset.toNat + i) % n = location).map
    fun i => (st.val >>> (i * 8)).setWidth 8

/-- The byte written last at a location, or the initial one. -/
def lastByte {n : ℕ} (init : Bytes n) (stores : List Store) (location : Fin n) : U8 :=
  (stores.reverse.findSome? fun st => st.byteAt n location.val).getD (init location)

/-- The little-endian value of the bytes from an offset on, locations being
counted modulo the size of the memory. -/
def bytesAt {n : ℕ} [NeZero n] (b : Bytes n) (width : Width) (offset : U32) : ℕ :=
  Nat.ofDigits 256 ((List.range width.size).map fun i => (b (Fin.ofNat n (offset.toNat + i))).toNat)

/-! ### Stores at aligned offsets -/

section

variable {n : ℕ} {init : Bytes n} {stores : List Store} {st : Store}

/-- The store as one of consecutive bytes. -/
def Store.write (n : ℕ) (st : Store) : Bytes.Write :=
  ⟨st.offset.toNat % n, st.width.size, st.val⟩

lemma covers_write (k : ℕ) : (st.write n).covers k = true ↔
    st.offset.toNat % n ≤ k ∧ k < st.offset.toNat % n + st.width.size := by
  rw [Bytes.Write.covers, Bool.and_eq_true, decide_eq_true_iff, decide_eq_true_iff]
  exact Iff.rfl

/-- A store that does not run over the end of the memory writes consecutive
bytes. -/
lemma byteAt_eq (hfit : st.offset.toNat % n + st.width.size ≤ n) (k : Fin n) :
    st.byteAt n k.val =
      if (st.write n).covers k.val then some ((st.write n).byte k.val) else none := by
  have hmod (i : ℕ) (hi : i < st.width.size) :
      (st.offset.toNat + i) % n = st.offset.toNat % n + i := by
    rw [Nat.add_mod, Nat.mod_eq_of_lt (a := i) (by omega), Nat.mod_eq_of_lt (by omega)]
  split_ifs with hk
  · have hin := (covers_write k.val).mp hk
    have hfind : (List.range st.width.size).find?
        (fun i => decide ((st.offset.toNat + i) % n = k.val)) =
        some (k.val - st.offset.toNat % n) := by
      refine List.find?_range_eq_some.mpr ⟨?_, List.mem_range.mpr (by omega), fun j hj => ?_⟩
      · rw [decide_eq_true_iff, hmod _ (by omega)]
        omega
      · rw [Bool.not_eq_true', decide_eq_false_iff_not, hmod _ (by omega)]
        omega
    rw [Store.byteAt, hfind]
    rfl
  · have hfind : (List.range st.width.size).find?
        (fun i => decide ((st.offset.toNat + i) % n = k.val)) = none := by
      refine List.find?_eq_none.mpr fun i hi => ?_
      have hi' := List.mem_range.mp hi
      have hout := mt (covers_write k.val).mpr hk
      rw [decide_eq_true_iff, hmod i hi']
      omega
    rw [Store.byteAt, hfind]
    rfl

/-- The abstract memory keeps the bytes that the stores write last. -/
lemma lastByte_eq (hfit : ∀ st ∈ stores, st.offset.toNat % n + st.width.size ≤ n) :
    lastByte init stores = init.last (stores.map (·.write n)) := by
  funext k
  induction stores using List.reverseRecOn with
  | nil => rfl
  | append_singleton stores st ih =>
      have hlast : lastByte init (stores ++ [st]) k =
          (st.byteAt n k.val).getD (lastByte init stores k) := by
        rw [lastByte, List.reverse_append, List.reverse_singleton, List.singleton_append,
          List.findSome?_cons]
        cases st.byteAt n k.val with
        | none => rfl
        | some b => rfl
      rw [hlast, byteAt_eq (hfit st (by simp)), ih fun st hst => hfit st (by simp [hst]),
        List.map_append, List.map_singleton, Bytes.last_concat, Bytes.written]
      by_cases hk : (st.write n).covers k.val = true
      · rw [if_pos hk]
        exact (if_pos ((covers_write k.val).mp hk)).symm
      · rw [if_neg hk]
        exact (if_neg (mt (covers_write k.val).mpr hk)).symm

/-- Stores that find their offset modulo the size of the memory, and do not run
over its end, leave the abstract memory. -/
lemma foldlM_store_eq {place : U32 → ℕ}
    (hplace : ∀ st ∈ stores, place st.offset = st.offset.toNat % n)
    (hfit : ∀ st ∈ stores, st.offset.toNat % n + st.width.size ≤ n) :
    stores.foldlM (fun b st => Bytes.store b (place st.offset) st.val st.width.size) init =
      .ok (lastByte init stores) := by
  have hwrites : stores.map (fun st => Bytes.Write.mk (place st.offset) st.width.size st.val) =
      stores.map (·.write n) := by
    refine List.map_congr_left fun st hst => ?_
    rw [hplace st hst]
    rfl
  have hfits : ∀ w ∈ stores.map (·.write n), w.offset + w.size ≤ n := by
    intro w hw
    obtain ⟨st, hst, rfl⟩ := List.mem_map.mp hw
    exact hfit st hst
  rw [lastByte_eq hfit, ← Bytes.foldlM_store init hfits, ← hwrites, List.foldlM_map]

/-- A load that does not run over the end of the memory returns its bytes. -/
lemma load_eq_bytesAt [NeZero n] (b : Bytes n) {width : Width} {offset : U32}
    (hfit : offset.toNat % n + width.size ≤ n) :
    ∃ v, b.load (offset.toNat % n) width.size = .ok v ∧ v.toNat = bytesAt b width offset := by
  refine Bytes.load_eq_ofDigits _ _ (fun i => b (Fin.ofNat n (offset.toNat + i)))
    (by cases width <;> decide) fun i hi => ?_
  have hlocation : (offset.toNat + i) % n = offset.toNat % n + i := by
    rw [Nat.add_mod, Nat.mod_eq_of_lt (a := i) (by omega), Nat.mod_eq_of_lt (by omega)]
  rw [b.get_eq_ok (by omega)]
  refine congrArg (fun k => Except.ok (b k)) (Fin.ext ?_)
  rw [Fin.val_ofNat, hlocation]

end

/-! ### Main RAM and the scratchpad -/

/-- An aligned access to one of the mirrors of main RAM. -/
def Ram.Accessible (width : Width) (offset : U32) : Prop :=
  offset.toNat < 8 * 1024 * 1024 ∧ offset.toNat % width.size = 0

def Ram.storeAll (ram : Ram) (stores : List Store) : Outcome Ram :=
  stores.foldlM (fun ram st => ram.store st.width st.offset st.val) ram

/-- An aligned access to the scratchpad. -/
def ScratchPad.Accessible (width : Width) (offset : U32) : Prop :=
  offset.toNat < SCRATCH_PAD_SIZE ∧ offset.toNat % width.size = 0

def ScratchPad.storeAll (pad : ScratchPad) (stores : List Store) : Outcome ScratchPad :=
  stores.foldlM (fun pad st => pad.store st.width st.offset st.val) pad

instance : NeZero RAM_SIZE := ⟨by decide⟩

instance : NeZero SCRATCH_PAD_SIZE := ⟨by decide⟩

/-- The width of an access divides the size of a memory. -/
lemma fits_of_aligned {n : ℕ} {width : Width} {offset : U32} (hn : n % 4 = 0) (hpos : 0 < n)
    (h : offset.toNat % width.size = 0) : offset.toNat % n + width.size ≤ n := by
  have hlt : offset.toNat % n < n := Nat.mod_lt _ hpos
  have hdvd : width.size ∣ n := by
    refine dvd_trans ?_ (Nat.dvd_of_mod_eq_zero hn)
    cases width <;> decide
  have haligned : width.size ∣ offset.toNat % n :=
    (Nat.dvd_mod_iff hdvd).mpr (Nat.dvd_of_mod_eq_zero h)
  obtain ⟨q, hq⟩ := haligned
  obtain ⟨m, hm⟩ := hdvd
  have hqm : q < m := by
    by_contra hge
    have := Nat.mul_le_mul_left width.size (not_lt.mp hge)
    omega
  calc offset.toNat % n + width.size = width.size * (q + 1) := by rw [hq, Nat.mul_succ]
    _ ≤ width.size * m := Nat.mul_le_mul_left _ hqm
    _ = n := hm.symm

/-- **Main RAM and the scratchpad are byte memories.**  After any aligned stores
each memory holds the bytes written last, and an aligned load of any width returns
the little-endian combination of those at its location. -/
theorem memories_refine :
    (∀ (ram : Ram) (stores : List Store), (∀ st ∈ stores, Ram.Accessible st.width st.offset) →
      ∃ ram' : Ram, ram.storeAll stores = .ok ram' ∧ (∀ k, ram' k = lastByte ram stores k) ∧
        ∀ width offset, Ram.Accessible width offset → ∃ v, ram'.load width offset = .ok v ∧
          v.toNat = bytesAt (lastByte ram stores) width offset) ∧
    ∀ (pad : ScratchPad) (stores : List Store),
      (∀ st ∈ stores, ScratchPad.Accessible st.width st.offset) →
      ∃ pad' : ScratchPad, pad.storeAll stores = .ok pad' ∧ (∀ k, pad' k = lastByte pad stores k) ∧
        ∀ width offset, ScratchPad.Accessible width offset → ∃ v, pad'.load width offset = .ok v ∧
          v.toNat = bytesAt (lastByte pad stores) width offset := by
  constructor
  · intro ram stores h
    have hfit {width : Width} {offset : U32} (hacc : Ram.Accessible width offset) :
        offset.toNat % RAM_SIZE + width.size ≤ RAM_SIZE :=
      fits_of_aligned (by decide) (by decide) hacc.2
    refine ⟨lastByte ram stores, ?_, fun _ => rfl, fun width offset hacc => ?_⟩
    · exact foldlM_store_eq (fun st _ => Ram.mirror_toNat st.offset) fun st hst => hfit (h st hst)
    · rw [Ram.load, Ram.mirror_toNat]
      exact load_eq_bytesAt _ (hfit hacc)
  · intro pad stores h
    have hplace {width : Width} {offset : U32} (hacc : ScratchPad.Accessible width offset) :
        offset.toNat = offset.toNat % SCRATCH_PAD_SIZE := (Nat.mod_eq_of_lt hacc.1).symm
    have hfit {width : Width} {offset : U32} (hacc : ScratchPad.Accessible width offset) :
        offset.toNat % SCRATCH_PAD_SIZE + width.size ≤ SCRATCH_PAD_SIZE :=
      fits_of_aligned (by decide) (by decide) hacc.2
    refine ⟨lastByte pad stores, ?_, fun _ => rfl, fun width offset hacc => ?_⟩
    · exact foldlM_store_eq (fun st hst => hplace (h st hst)) fun st hst => hfit (h st hst)
    · rw [ScratchPad.load, hplace hacc]
      exact load_eq_bytesAt _ (hfit hacc)

/-- A half-word stored over a word, read back as a word through another mirror. -/
theorem memories_refine_halfWord : ∃ ram' v,
    Ram.new.storeAll [⟨.word, 0x600020, 0x12345678⟩, ⟨.halfWord, 0x200022, 0xabcd⟩] = .ok ram' ∧
      ram'.load .word 0x20 = .ok v ∧ v.toNat = 0xabcd5678 := by
  obtain ⟨ram', hstore, -, hload⟩ := memories_refine.1 Ram.new
    [⟨.word, 0x600020, 0x12345678⟩, ⟨.halfWord, 0x200022, 0xabcd⟩] (by
      simp only [List.mem_cons, List.not_mem_nil, or_false, forall_eq_or_imp, forall_eq]
      exact ⟨⟨by decide, by decide⟩, by decide, by decide⟩)
  obtain ⟨v, hv, hval⟩ := hload .word 0x20 ⟨by decide, by decide⟩
  refine ⟨ram', v, hstore, hv, hval.trans ?_⟩
  decide

end Rustation
