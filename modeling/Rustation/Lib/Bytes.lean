import Rustation.Lib.Outcome
import Rustation.Lib.Word

/-!
Byte memories of a fixed size, with little-endian accesses of a few bytes.

An access outside the memory stops; inside it, a load combines the bytes from
its offset on and a store spreads its value over them.

* `load_eq_ok`, `store_eq_ok`: an access inside the memory returns;
* `store_frame`: a store changes the bytes it addresses only;
* `load_congr`: a load depends on the bytes it addresses only;
* `load_store`: what has been stored is loaded;
* `load_eq_ofDigits`: a load returns the bytes as the digits of a number;
* `written`: the memory after a store, byte by byte, and `last` after any
  sequence of stores: each byte is the one written by the last store that covers
  it (`foldlM_store`).
-/

open Fallible

/-- A memory of `n` bytes. -/
abbrev Bytes (n : ℕ) := Fin n → U8

namespace Bytes

variable {n : ℕ}

def get (b : Bytes n) (i : ℕ) : Outcome U8 :=
  if h : i < n then pure (b ⟨i, h⟩) else throw .outOfBounds

def set (b : Bytes n) (i : ℕ) (val : U8) : Outcome (Bytes n) :=
  if h : i < n then pure (Function.update b ⟨i, h⟩ val) else throw .outOfBounds

/-- The little-endian value of the bytes from `offset` on, as many as the last
argument says. -/
def load (b : Bytes n) (offset : ℕ) : ℕ → Outcome U32
  | 0 => pure 0
  | i + 1 => do
      let v ← b.load offset i
      let byte ← b.get (offset + i)
      pure (v ||| byte.setWidth 32 <<< (i * 8))

/-- Write the low bytes of `val` to `offset` and the bytes after it. -/
def store (b : Bytes n) (offset : ℕ) (val : U32) : ℕ → Outcome (Bytes n)
  | 0 => pure b
  | i + 1 => do
      let b ← b.store offset val i
      b.set (offset + i) ((val >>> (i * 8)).setWidth 8)

lemma get_eq_ok (b : Bytes n) {i : ℕ} (h : i < n) : b.get i = .ok (b ⟨i, h⟩) := by
  rw [get, dif_pos h, pure_eq_ok]

lemma set_eq_ok (b : Bytes n) {i : ℕ} (h : i < n) (val : U8) :
    b.set i val = .ok (Function.update b ⟨i, h⟩ val) := by
  rw [set, dif_pos h, pure_eq_ok]

lemma load_eq_ok (b : Bytes n) {offset size : ℕ} (h : offset + size ≤ n) :
    ∃ v, b.load offset size = .ok v := by
  induction size with
  | zero => exact ⟨0, rfl⟩
  | succ i ih =>
      obtain ⟨v, hv⟩ := ih (by omega)
      refine ⟨v ||| (b ⟨offset + i, by omega⟩).setWidth 32 <<< (i * 8), ?_⟩
      rw [load, hv, ok_bind, b.get_eq_ok (by omega), ok_bind, pure_eq_ok]

lemma store_eq_ok (b : Bytes n) {offset size : ℕ} (val : U32) (h : offset + size ≤ n) :
    ∃ b', b.store offset val size = .ok b' := by
  induction size with
  | zero => exact ⟨b, rfl⟩
  | succ i ih =>
      obtain ⟨b', hb'⟩ := ih (by omega)
      refine ⟨Function.update b' ⟨offset + i, by omega⟩ ((val >>> (i * 8)).setWidth 8), ?_⟩
      rw [store, hb', ok_bind, set_eq_ok]

lemma store_frame {b b' : Bytes n} {offset size : ℕ} {val : U32}
    (h : b.store offset val size = .ok b') {k : Fin n}
    (hk : k.val < offset ∨ offset + size ≤ k.val) : b' k = b k := by
  induction size generalizing b' with
  | zero =>
      injection h with h
      rw [h]
  | succ i ih =>
      obtain ⟨c, hc, hset⟩ := bind_eq_ok.mp h
      have hci : c k = b k := ih hc (by omega)
      rw [set] at hset
      split_ifs at hset with hi
      injection hset with hset
      have hne : k ≠ ⟨offset + i, hi⟩ := fun heq => by
        have := congrArg Fin.val heq
        dsimp only at this
        omega
      rw [← hset, Function.update_of_ne hne, hci]

lemma load_congr {b b' : Bytes n} {offset size : ℕ}
    (h : ∀ k : Fin n, offset ≤ k.val → k.val < offset + size → b' k = b k) :
    b'.load offset size = b.load offset size := by
  induction size with
  | zero => rfl
  | succ i ih =>
      have hget : b'.get (offset + i) = b.get (offset + i) := by
        by_cases hi : offset + i < n
        · rw [b'.get_eq_ok hi, b.get_eq_ok hi, h ⟨offset + i, hi⟩ (by dsimp only; omega)
            (by dsimp only; omega)]
        · rw [get, get, dif_neg hi, dif_neg hi]
      rw [load, load, hget, ih fun k hlo hhi => h k hlo (by omega)]

/-- The bytes of a stored value. -/
lemma get_store {b b' : Bytes n} {offset size : ℕ} {val : U32}
    (h : b.store offset val size = .ok b') {i : ℕ} (hi : i < size) :
    b'.get (offset + i) = .ok ((val >>> (i * 8)).setWidth 8) := by
  induction size generalizing b' with
  | zero => exact absurd hi (Nat.not_lt_zero i)
  | succ j ih =>
      obtain ⟨c, hc, hset⟩ := bind_eq_ok.mp h
      rw [set] at hset
      split_ifs at hset with hj
      injection hset with hset
      subst hset
      rcases Nat.lt_succ_iff_lt_or_eq.mp hi with hlt | rfl
      · have hget := ih hc hlt
        have hin : offset + i < n := by omega
        have hne : (⟨offset + i, hin⟩ : Fin n) ≠ ⟨offset + j, hj⟩ := fun heq => by
          have := congrArg Fin.val heq
          dsimp only at this
          omega
        rw [get_eq_ok _ hin] at hget ⊢
        rw [Function.update_of_ne hne]
        exact hget
      · rw [get_eq_ok _ hj, Function.update_self]

/-- A byte above those combined so far is added to them. -/
lemma toNat_combine {v : U32} {i : ℕ} (byte : U8) (hv : v.toNat < 2 ^ (i * 8)) (hi : i < 4) :
    (v ||| byte.setWidth 32 <<< (i * 8)).toNat = v.toNat + 2 ^ (i * 8) * byte.toNat := by
  have hpow : 2 ^ 8 * 2 ^ (i * 8) ≤ 2 ^ 32 := by
    rw [← Nat.pow_add]
    exact Nat.pow_le_pow_right (by norm_num) (by omega)
  have hlt : byte.toNat * 2 ^ (i * 8) < 2 ^ 8 * 2 ^ (i * 8) :=
    (Nat.mul_lt_mul_right (by positivity)).mpr byte.isLt
  have hbyte : (byte.setWidth 32 <<< (i * 8)).toNat = 2 ^ (i * 8) * byte.toNat := by
    rw [BitVec.toNat_shiftLeft, BitVec.toNat_setWidth, Nat.shiftLeft_eq,
      Nat.mod_eq_of_lt (lt_of_lt_of_le byte.isLt (by norm_num)), Nat.mod_eq_of_lt (by omega),
      Nat.mul_comm]
  rw [BitVec.toNat_or, hbyte, Nat.or_comm, ← Nat.two_pow_add_eq_or_of_lt hv, Nat.add_comm]

/-- Bytes that are those of a value are loaded as its low part. -/
lemma load_of_get {b : Bytes n} {offset size : ℕ} {val : U32} (hsize : size ≤ 4)
    (h : ∀ i < size, b.get (offset + i) = .ok ((val >>> (i * 8)).setWidth 8)) :
    ∃ v, b.load offset size = .ok v ∧ v.toNat = val.toNat % 2 ^ (size * 8) := by
  induction size with
  | zero => exact ⟨0, rfl, by simp [Nat.mod_one]⟩
  | succ i ih =>
      obtain ⟨v, hv, hval⟩ := ih (by omega) fun j hj => h j (by omega)
      refine ⟨_, by rw [load, hv, ok_bind, h i (by omega), ok_bind, pure_eq_ok], ?_⟩
      -- the new byte lies above the ones loaded so far
      have hlow : v.toNat < 2 ^ (i * 8) := by
        rw [hval]
        exact Nat.mod_lt _ (by positivity)
      have hbyte : ((val >>> (i * 8)).setWidth 8).toNat = val.toNat / 2 ^ (i * 8) % 2 ^ 8 := by
        rw [BitVec.toNat_setWidth, BitVec.toNat_ushiftRight, Nat.shiftRight_eq_div_pow]
      rw [toNat_combine _ hlow (by omega), hval, hbyte, show (i + 1) * 8 = i * 8 + 8 by ring,
        Nat.pow_add, Nat.mod_mul]

/-- What has been stored is loaded. -/
lemma load_store {b b' : Bytes n} {offset : ℕ} {val : U32}
    (h : b.store offset val 4 = .ok b') : b'.load offset 4 = .ok val := by
  obtain ⟨v, hv, hval⟩ := load_of_get (le_refl 4) fun i hi => get_store h hi
  have hlt : val.toNat % 2 ^ (4 * 8) = val.toNat := Nat.mod_eq_of_lt val.isLt
  rw [hv, BitVec.eq_of_toNat_eq (hval.trans hlt)]

/-! ### Bytes as digits -/

/-- A load returns the number whose digits in base 256 are the bytes, the lowest
first. -/
lemma load_eq_ofDigits (b : Bytes n) (offset : ℕ) {size : ℕ} (f : ℕ → U8) (hsize : size ≤ 4)
    (h : ∀ i < size, b.get (offset + i) = .ok (f i)) : ∃ v, b.load offset size = .ok v ∧
      v.toNat = Nat.ofDigits 256 ((List.range size).map fun i => (f i).toNat) := by
  induction size with
  | zero => exact ⟨0, rfl, rfl⟩
  | succ i ih =>
      obtain ⟨v, hv, hval⟩ := ih (by omega) fun j hj => h j (by omega)
      refine ⟨_, by rw [load, hv, ok_bind, h i (by omega), ok_bind, pure_eq_ok], ?_⟩
      have hdigits : v.toNat < 256 ^ i := by
        rw [hval]
        have hlt := Nat.ofDigits_lt_base_pow_length (b := 256) (by norm_num)
          (l := (List.range i).map fun j => (f j).toNat) fun d hd => by
            obtain ⟨j, -, rfl⟩ := List.mem_map.mp hd
            exact (f j).isLt
        simpa using hlt
      have hpow : 2 ^ (i * 8) = 256 ^ i := by
        rw [Nat.mul_comm, Nat.pow_mul]
      rw [toNat_combine _ (by rw [hpow]; exact hdigits) (by omega), hval, hpow, List.range_succ,
        List.map_append, Nat.ofDigits_append, List.length_map, List.length_range]
      simp

/-- The bytes of a loaded word are those in memory. -/
lemma load_word (b : Bytes n) {offset : ℕ} (h : offset + 4 ≤ n) :
    ∃ v, b.load offset 4 = .ok v ∧
      ∀ i, ∀ hi : i < 4, byteOf v i = b ⟨offset + i, lt_of_lt_of_le (by omega) h⟩ := by
  obtain ⟨v, hv, hval⟩ := load_eq_ofDigits b offset
    (fun i => if hi : offset + i < n then b ⟨offset + i, hi⟩ else 0) (le_refl 4) fun i hi => by
      rw [get_eq_ok b (by omega), dif_pos (by omega)]
  refine ⟨v, hv, fun i hi => BitVec.eq_of_toNat_eq ?_⟩
  have hb (j : ℕ) (hj : j < 4) : (b ⟨offset + j, lt_of_lt_of_le (by omega) h⟩).toNat < 256 :=
    (b _).isLt
  have h0 := hb 0 (by norm_num)
  have h1 := hb 1 (by norm_num)
  have h2 := hb 2 (by norm_num)
  have h3 := hb 3 (by norm_num)
  simp only [List.range_succ, List.range_zero, List.nil_append, List.cons_append, List.map_cons,
    List.map_nil, Nat.ofDigits_cons, Nat.ofDigits_nil, show offset + 0 < n by omega,
    show offset + 1 < n by omega, show offset + 2 < n by omega, show offset + 3 < n by omega,
    dif_pos] at hval
  rw [toNat_byteOf, hval]
  interval_cases i <;> omega

/-! ### Sequences of stores -/

/-- The memory after a store. -/
def written (b : Bytes n) (offset : ℕ) (val : U32) (size : ℕ) : Bytes n := fun k =>
  if offset ≤ k.val ∧ k.val < offset + size then (val >>> ((k.val - offset) * 8)).setWidth 8
  else b k

lemma store_eq_written (b : Bytes n) {offset size : ℕ} (val : U32) (h : offset + size ≤ n) :
    b.store offset val size = .ok (b.written offset val size) := by
  obtain ⟨b', hb'⟩ := b.store_eq_ok val h
  rw [hb']
  refine congrArg Except.ok (funext fun k => ?_)
  rw [written]
  split_ifs with hk
  · have hget := get_store hb' (i := k.val - offset) (by omega)
    rw [Nat.add_sub_cancel' hk.1, get_eq_ok b' k.isLt] at hget
    exact Except.ok.inj hget
  · exact store_frame hb' (by omega)

/-- A store: where, how many bytes, and the value they are taken from. -/
structure Write where
  offset : ℕ
  size : ℕ
  val : U32

/-- The store writes the byte at `k`. -/
def Write.covers (w : Write) (k : ℕ) : Bool := w.offset ≤ k && k < w.offset + w.size

/-- The byte that the store writes at `k`. -/
def Write.byte (w : Write) (k : ℕ) : U8 := (w.val >>> ((k - w.offset) * 8)).setWidth 8

/-- The byte at `k` that was written last, or the initial one. -/
def last (b : Bytes n) (writes : List Write) : Bytes n := fun k =>
  match writes.reverse.find? (·.covers k.val) with
  | some w => w.byte k.val
  | none => b k

lemma last_concat (b : Bytes n) (writes : List Write) (w : Write) :
    b.last (writes ++ [w]) = written (b.last writes) w.offset w.val w.size := by
  funext k
  rw [last, written, List.reverse_append, List.reverse_singleton, List.singleton_append,
    List.find?_cons]
  by_cases hk : w.offset ≤ k.val ∧ k.val < w.offset + w.size
  · have hcovers : w.covers k.val = true := by simp [Write.covers, hk]
    rw [hcovers, if_pos hk]
    rfl
  · have hcovers : w.covers k.val = false := by
      simpa [Write.covers] using hk
    rw [hcovers, if_neg hk]
    rfl

/-- After stores inside the memory, every byte is the one written last. -/
lemma foldlM_store (b : Bytes n) {writes : List Write} (h : ∀ w ∈ writes, w.offset + w.size ≤ n) :
    writes.foldlM (fun b w => b.store w.offset w.val w.size) b = .ok (b.last writes) := by
  induction writes using List.reverseRecOn with
  | nil => rfl
  | append_singleton writes w ih =>
      have hw : w.offset + w.size ≤ n := h w (by simp)
      rw [List.foldlM_append, ih fun v hv => h v (by simp [hv]), ok_bind, List.foldlM_cons,
        store_eq_written _ _ hw, ok_bind, List.foldlM_nil, last_concat, pure_eq_ok]

end Bytes
