import Rustation.Lib.Word

/-!
The 16 byte FIFO of the CD-ROM controller (`Fifo` of `cdrom/mod.rs`): a ring
buffer addressed by 4 bits whose read and write indices carry a fifth bit, so
that a full buffer and an empty one are told apart.

* `Fifo`: the indices stay below 32, as fields of the structure;
* `size`: the number of queued bytes, modulo 32.  `size_push` counts a byte,
  `isEmpty_iff` reads emptiness off it;
* `size_pushSlice_new`: a response of fewer than 32 bytes pushed into a cleared
  FIFO leaves as many bytes queued, so a non-empty response is seen as such;
* `toList`: the queued bytes, oldest first.  `toList_push` appends where a cell
  is left, `toList_pop` takes the head.
-/

namespace Rustation

/-- 16 byte FIFO used to store command arguments and responses. -/
structure Fifo where
  buffer : Fin 16 → U8
  /-- write pointer (4 bits and carry) -/
  writeIdx : U8
  /-- read pointer (4 bits and carry) -/
  readIdx : U8
  write_lt : writeIdx < 32
  read_lt : readIdx < 32

namespace Fifo

/-- The next value of an index: 4 bits and carry. -/
def succIdx (i : U8) : U8 := (i + 1) &&& 0x1f

/-- The cell an index points at. -/
def cell (i : U8) : Fin 16 := ⟨(i &&& 0xf).toNat, by
  have h : (i &&& 0xf).toNat ≤ (0xf : U8).toNat := by
    rw [BitVec.toNat_and]
    exact Nat.and_le_right
  exact Nat.lt_succ_of_le h⟩

lemma toNat_and_31 (i : U8) : (i &&& 0x1f).toNat = i.toNat % 32 := by
  rw [BitVec.toNat_and]
  exact Nat.and_two_pow_sub_one_eq_mod i.toNat 5

lemma succIdx_lt (i : U8) : succIdx i < 32 := by
  rw [BitVec.lt_def, succIdx, toNat_and_31]
  exact Nat.mod_lt _ (by norm_num)

def new : Fifo := ⟨fun _ => 0, 0, 0, by decide, by decide⟩

/-- Both pointers at the same cell with the same carry. -/
def isEmpty (f : Fifo) : Bool := f.writeIdx == f.readIdx

/-- Both pointers at the same cell with a different carry. -/
def isFull (f : Fifo) : Bool := f.writeIdx == f.readIdx ^^^ 0x10

def clear (_ : Fifo) : Fifo := ⟨fun _ => 0, 0, 0, by decide, by decide⟩

/-- The number of elements, in the range `[0; 31]`. -/
def len (f : Fifo) : U8 := (f.writeIdx - f.readIdx) &&& 0x1f

def push (f : Fifo) (val : U8) : Fifo :=
  { f with
    buffer := Function.update f.buffer (cell f.writeIdx) val
    writeIdx := succIdx f.writeIdx
    write_lt := succIdx_lt f.writeIdx }

def pushSlice (f : Fifo) (s : List U8) : Fifo := s.foldl push f

/-- The oldest byte and the FIFO without it.  An empty FIFO is not refused. -/
def pop (f : Fifo) : U8 × Fifo :=
  (f.buffer (cell f.readIdx),
    { f with readIdx := succIdx f.readIdx, read_lt := succIdx_lt f.readIdx })

/-! ### The number of queued bytes -/

/-- The number of queued bytes, modulo 32. -/
def size (f : Fifo) : ℕ := (f.writeIdx.toNat + 32 - f.readIdx.toNat) % 32

lemma toNat_succIdx {i : U8} (h : i < 32) : (succIdx i).toNat = (i.toNat + 1) % 32 := by
  have hi : i.toNat < 32 := h
  rw [succIdx, toNat_and_31, BitVec.toNat_add, show (1 : U8).toNat = 1 from rfl]
  omega

@[simp] lemma size_new : new.size = 0 := rfl

@[simp] lemma clear_eq_new (f : Fifo) : f.clear = new := rfl

lemma toNat_len (f : Fifo) : f.len.toNat = f.size := by
  have hw : f.writeIdx.toNat < 32 := f.write_lt
  have hr : f.readIdx.toNat < 32 := f.read_lt
  rw [len, toNat_and_31, BitVec.toNat_sub, size]
  omega

lemma isEmpty_iff (f : Fifo) : f.isEmpty = true ↔ f.size = 0 := by
  have hw : f.writeIdx.toNat < 32 := f.write_lt
  have hr : f.readIdx.toNat < 32 := f.read_lt
  rw [isEmpty, beq_iff_eq, ← BitVec.toNat_inj, size]
  omega

lemma isEmpty_eq_false_iff (f : Fifo) : f.isEmpty = false ↔ f.size ≠ 0 := by
  rw [Ne, ← isEmpty_iff, Bool.not_eq_true]

lemma size_push (f : Fifo) (val : U8) : (f.push val).size = (f.size + 1) % 32 := by
  have hw : f.writeIdx.toNat < 32 := f.write_lt
  have hr : f.readIdx.toNat < 32 := f.read_lt
  simp only [size, push, toNat_succIdx f.write_lt]
  omega

lemma size_pushSlice (s : List U8) (f : Fifo) :
    (f.pushSlice s).size = (f.size + s.length) % 32 := by
  induction s generalizing f with
  | nil =>
      have h : f.size < 32 := Nat.mod_lt _ (by norm_num)
      simp [pushSlice, Nat.mod_eq_of_lt h]
  | cons v s ih =>
      have hcons : f.pushSlice (v :: s) = (f.push v).pushSlice s := rfl
      rw [hcons, ih, size_push, List.length_cons]
      omega

/-- A response pushed into a cleared FIFO is queued whole. -/
lemma size_pushSlice_new {s : List U8} (h : s.length < 32) :
    (new.pushSlice s).size = s.length := by
  rw [size_pushSlice, size_new, Nat.zero_add, Nat.mod_eq_of_lt h]

/-! ### The queue

A FIFO that holds at most 16 bytes is a queue. -/

lemma val_cell (i : U8) : (cell i).val = i.toNat % 16 := by
  have h : (i &&& 0xf).toNat = i.toNat % 16 := by
    rw [BitVec.toNat_and]
    exact Nat.and_two_pow_sub_one_eq_mod i.toNat 4
  exact h

/-- The cell `j` places behind the next byte to be read. -/
def cellAt (f : Fifo) (j : ℕ) : Fin 16 := cell (f.readIdx + BitVec.ofNat 8 j)

/-- The queued bytes, oldest first. -/
def toList (f : Fifo) : List U8 := (List.range f.size).map fun j => f.buffer (f.cellAt j)

lemma val_cellAt (f : Fifo) (j : ℕ) : (f.cellAt j).val = (f.readIdx.toNat + j) % 16 := by
  rw [cellAt, val_cell, BitVec.toNat_add, BitVec.toNat_ofNat]
  omega

/-- The cell of the next byte to be pushed lies behind the queued ones. -/
lemma cell_writeIdx (f : Fifo) : cell f.writeIdx = f.cellAt f.size := by
  have hw : f.writeIdx.toNat < 32 := f.write_lt
  have hr : f.readIdx.toNat < 32 := f.read_lt
  refine Fin.ext ?_
  rw [val_cellAt, val_cell, size]
  omega

/-- Up to 16 bytes lie in cells of their own. -/
lemma cellAt_ne {f : Fifo} {i j : ℕ} (hij : i < j) (hj : j < i + 16) :
    f.cellAt i ≠ f.cellAt j := by
  intro h
  have hval := congrArg Fin.val h
  rw [val_cellAt, val_cellAt] at hval
  omega

@[simp] lemma toList_new : new.toList = [] := rfl

@[simp] lemma length_toList (f : Fifo) : f.toList.length = f.size := by
  simp [toList]

lemma isEmpty_iff_toList (f : Fifo) : f.isEmpty = true ↔ f.toList = [] := by
  rw [isEmpty_iff, ← length_toList, List.length_eq_zero_iff]

/-- A byte is queued behind the others, provided there is a cell left for it. -/
lemma toList_push {f : Fifo} (h : f.size < 16) (val : U8) :
    (f.push val).toList = f.toList ++ [val] := by
  have hsize : (f.push val).size = f.size + 1 := by
    rw [size_push]
    omega
  rw [toList, hsize, List.range_succ, List.map_append, List.map_singleton]
  congr 1
  · refine List.map_congr_left fun j hj => ?_
    have hne : f.cellAt j ≠ cell f.writeIdx := by
      rw [cell_writeIdx]
      exact cellAt_ne (List.mem_range.mp hj) (by omega)
    exact Function.update_of_ne hne val f.buffer
  · have hcell : (f.push val).cellAt f.size = cell f.writeIdx := (cell_writeIdx f).symm
    have hval : (f.push val).buffer (cell f.writeIdx) = val := Function.update_self ..
    rw [hcell, hval]

lemma size_pop {f : Fifo} (h : f.size ≠ 0) : f.pop.2.size = f.size - 1 := by
  have hw : f.writeIdx.toNat < 32 := f.write_lt
  have hr : f.readIdx.toNat < 32 := f.read_lt
  simp only [size, pop, toNat_succIdx f.read_lt] at h ⊢
  omega

/-- The oldest byte is the one that is popped. -/
lemma toList_pop {f : Fifo} (h : f.size ≠ 0) : f.toList = f.pop.1 :: f.pop.2.toList := by
  have hcell (j : ℕ) : f.pop.2.cellAt j = f.cellAt (j + 1) := by
    have hr : f.readIdx.toNat < 32 := f.read_lt
    refine Fin.ext ?_
    rw [val_cellAt, val_cellAt]
    simp only [pop, toNat_succIdx f.read_lt]
    omega
  have hhead : f.cellAt 0 = cell f.readIdx := by
    rw [cellAt]
    exact congrArg cell (BitVec.add_zero f.readIdx)
  obtain ⟨n, hn⟩ := Nat.exists_eq_succ_of_ne_zero h
  have hsize : f.pop.2.size = n := by
    rw [size_pop h, hn]
    rfl
  rw [toList, toList, hsize, hn, List.range_succ_eq_map, List.map_cons, List.map_map, hhead]
  refine congrArg _ (List.map_congr_left fun j _ => ?_)
  exact congrArg f.buffer (hcell j).symm

lemma toList_pushSlice {s : List U8} {f : Fifo} (h : f.size + s.length ≤ 16) :
    (f.pushSlice s).toList = f.toList ++ s := by
  induction s generalizing f with
  | nil => exact (List.append_nil _).symm
  | cons v s ih =>
      rw [List.length_cons] at h
      have hsize : (f.push v).size = f.size + 1 := by
        rw [size_push]
        omega
      have hcons : f.pushSlice (v :: s) = (f.push v).pushSlice s := rfl
      rw [hcons, ih (by omega), toList_push (by omega), List.append_assoc, List.singleton_append]

end Fifo

end Rustation
