import Rustation.Memory.Regions

/-!
Main RAM as a memory of 2^19 words.

* `Ram.cell`: the word an address lies in.  The mirrors and the two low bits of
  the address do not count;
* `Ram.word`: the value of a word, which `Ram.load` of an aligned address returns
  and `Ram.store` updates.
-/

namespace Rustation

open Fallible

namespace Ram

/-- The word an address lies in. -/
def cell (addr : U32) : Fin 524288 := ⟨addr.toNat % 2097152 / 4, by omega⟩

/-- The value of a word. -/
def word (ram : Ram) (i : Fin 524288) : U32 :=
  match Bytes.load ram (4 * i.val) 4 with
  | .ok v => v
  | .error _ => 0

lemma load_cell (ram : Ram) (i : Fin 524288) :
    Bytes.load ram (4 * i.val) 4 = .ok (ram.word i) := by
  have hin : 4 * i.val + 4 ≤ RAM_SIZE := by
    rw [RAM_SIZE]
    omega
  obtain ⟨v, hv⟩ := Bytes.load_eq_ok ram hin
  rw [word, hv]

lemma store_cell (ram : Ram) (i : Fin 524288) (val : U32) :
    ∃ ram' : Ram, Bytes.store ram (4 * i.val) val 4 = .ok ram'
      ∧ ram'.word = Function.update ram.word i val := by
  have hin : 4 * i.val + 4 ≤ RAM_SIZE := by
    rw [RAM_SIZE]
    omega
  obtain ⟨ram', hram'⟩ := Bytes.store_eq_ok ram val hin
  refine ⟨ram', hram', funext fun j => ?_⟩
  by_cases hj : j = i
  · subst hj
    rw [Function.update_self, word, Bytes.load_store hram']
  · -- another word has no byte in common with this one
    have hne : j.val ≠ i.val := fun h => hj (Fin.ext h)
    rw [Function.update_of_ne hj, word, word, Bytes.load_congr fun k hlo hhi =>
      Bytes.store_frame hram' (by omega)]

/-! ### Aligned addresses -/

lemma mirror_of_aligned {addr : U32} (h : addr.toNat % 4 = 0) :
    mirror addr = 4 * (cell addr).val := by
  rw [mirror_toNat, cell]
  dsimp only
  omega

lemma load_aligned (ram : Ram) {addr : U32} (h : addr.toNat % 4 = 0) :
    ram.load .word addr = .ok (ram.word (cell addr)) := by
  rw [load, mirror_of_aligned h]
  exact ram.load_cell (cell addr)

lemma store_aligned (ram : Ram) {addr : U32} (h : addr.toNat % 4 = 0) (val : U32) :
    ∃ ram', ram.store .word addr val = .ok ram'
      ∧ ram'.word = Function.update ram.word (cell addr) val := by
  rw [store, mirror_of_aligned h]
  exact ram.store_cell (cell addr) val

/-- The mask the DMA applies: the address wraps and its two low bits are
ignored. -/
lemma toNat_dmaMask (addr : U32) : (addr &&& 0x1ffffc#32).toNat = 4 * (cell addr).val := by
  rw [BitVec.toNat_and_field addr 2 19 rfl, cell]
  dsimp only
  omega

lemma dmaMask_aligned (addr : U32) : (addr &&& 0x1ffffc#32).toNat % 4 = 0 := by
  rw [toNat_dmaMask]
  omega

@[simp] lemma cell_dmaMask (addr : U32) : cell (addr &&& 0x1ffffc#32) = cell addr := by
  apply Fin.ext
  have h := toNat_dmaMask addr
  have hlt := (cell addr).isLt
  rw [cell]
  dsimp only
  omega

end Ram

end Rustation
