import Rustation.Memory.Interconnect

/-!
Addresses of the CPU as numbers: where the regions of the memory map lie, and
what an access to main RAM does.

* `toNat_maskRegion`, `toNat_maskRegion_mod`: the mask that strips the region bits;
* `contains_RAM`, `contains_BIOS`: the ranges of the memory map;
* `InRam`: an address of main RAM, in any segment and any mirror.  `inRam_iff`
  gives the three intervals; `InRam.load` and `InRam.store` are the accesses, at the
  offset of the address modulo 2 megabytes.
-/

namespace Rustation

open Fallible

/-! ### Masks -/

section

variable (a : U32)

lemma toNat_maskRegion_mod : (maskRegion a).toNat % 2 ^ 29 = a.toNat % 2 ^ 29 := by
  have hmask : ∀ k, REGION_MASK k &&& 0x1fffffff = 0x1fffffff := by decide
  have hlow : maskRegion a &&& 0x1fffffff = a &&& 0x1fffffff := by
    rw [maskRegion, BitVec.and_assoc, hmask]
  have h := congrArg BitVec.toNat hlow
  rwa [BitVec.toNat_and_mask (k := 29) _ rfl, BitVec.toNat_and_mask (k := 29) _ rfl] at h

/-- KUSEG and KSEG0 address the same memory. -/
lemma toNat_maskRegion (h : a.toNat < 0xa0000000) : (maskRegion a).toNat = a.toNat % 2 ^ 31 := by
  have hregion : (a >>> 29).toNat = a.toNat / 2 ^ 29 := a.toNat_shift 29
  by_cases hkuseg : a.toNat < 2 ^ 31
  · have hmask : REGION_MASK (Fin.ofNat 8 (a >>> 29).toNat) = 0xffffffff := by
      have hlt : (a >>> 29).toNat < 4 := by omega
      interval_cases (a >>> 29).toNat <;> rfl
    rw [maskRegion, hmask, BitVec.toNat_and_mask (k := 32) _ rfl]
    omega
  · have hmask : REGION_MASK (Fin.ofNat 8 (a >>> 29).toNat) = 0x7fffffff := by
      have hfour : (a >>> 29).toNat = 4 := by omega
      rw [hfour]
      rfl
    rw [maskRegion, hmask, BitVec.toNat_and_mask (k := 31) _ rfl]

/-- KSEG1 is a third view of the same memory, KSEG2 is one of its own. -/
lemma toNat_maskRegion_high (h : 0xa0000000 ≤ a.toNat) : (maskRegion a).toNat =
    if a.toNat < 0xc0000000 then a.toNat - 0xa0000000 else a.toNat := by
  have hlt : a.toNat < 2 ^ 32 := a.isLt
  have hregion : (a >>> 29).toNat = a.toNat / 2 ^ 29 := a.toNat_shift 29
  split_ifs with hkseg1
  · have hmask : REGION_MASK (Fin.ofNat 8 (a >>> 29).toNat) = 0x1fffffff := by
      have hfive : (a >>> 29).toNat = 5 := by omega
      rw [hfive]
      rfl
    rw [maskRegion, hmask, BitVec.toNat_and_mask (k := 29) _ rfl]
    omega
  · have hmask : REGION_MASK (Fin.ofNat 8 (a >>> 29).toNat) = 0xffffffff := by
      have hsix : 6 ≤ (a >>> 29).toNat := by omega
      have hseven : (a >>> 29).toNat < 8 := by omega
      interval_cases (a >>> 29).toNat <;> rfl
    rw [maskRegion, hmask, BitVec.toNat_and_mask (k := 32) _ rfl]
    omega

end

/-! ### Ranges -/

lemma contains_RAM (a : U32) :
    Map.RAM.contains a = if a.toNat < 0x800000 then some a else none := by
  have hlow : a ≥ Map.RAM.start := BitVec.le_def.mpr (Nat.zero_le _)
  have hhigh : a < Map.RAM.start + Map.RAM.length ↔ a.toNat < 0x800000 := BitVec.lt_def
  simp only [Range.contains, hlow, hhigh, true_and]
  split_ifs with h
  · exact congrArg some (BitVec.sub_zero a)
  · rfl

lemma contains_BIOS (a : U32) : Map.BIOS.contains a =
    if 0x1fc00000 ≤ a.toNat ∧ a.toNat < 0x1fc80000 then some (a - 0x1fc00000) else none := by
  have hlow : a ≥ Map.BIOS.start ↔ 0x1fc00000 ≤ a.toNat := BitVec.le_def
  have hhigh : a < Map.BIOS.start + Map.BIOS.length ↔ a.toNat < 0x1fc80000 := BitVec.lt_def
  simp only [Range.contains, hlow, hhigh]
  rfl

/-! ### Main RAM -/

lemma Ram.mirror_toNat (addr : U32) : mirror addr = addr.toNat % 2097152 := by
  rw [mirror]
  exact BitVec.toNat_and_mask addr (by decide : (0x1fffff : U32).toNat = 2 ^ 21 - 1)

lemma Ram.mirror_maskRegion (addr : U32) : mirror (maskRegion addr) = addr.toNat % 2097152 := by
  have hregion := toNat_maskRegion_mod addr
  rw [mirror_toNat]
  omega

/-- The address lies in main RAM. -/
def InRam (addr : U32) : Prop := (Map.RAM.contains (maskRegion addr)).isSome

lemma inRam_iff {addr : U32} : InRam addr ↔ addr.toNat < 0x800000 ∨
    0x80000000 ≤ addr.toNat ∧ addr.toNat < 0x80800000 ∨
    0xa0000000 ≤ addr.toNat ∧ addr.toNat < 0xa0800000 := by
  have hisSome : InRam addr ↔ (maskRegion addr).toNat < 0x800000 := by
    rw [InRam, contains_RAM]
    split_ifs with h <;> simp [h]
  rw [hisSome]
  by_cases hlow : addr.toNat < 0xa0000000
  · rw [toNat_maskRegion addr hlow]
    omega
  · rw [toNat_maskRegion_high addr (by omega)]
    split_ifs <;> omega

namespace InRam

variable {addr : U32} (h : InRam addr)

include h

lemma contains : Map.RAM.contains (maskRegion addr) = some (maskRegion addr) := by
  unfold InRam at h
  rw [contains_RAM] at h ⊢
  split_ifs at h ⊢
  · rfl
  · simp at h

variable {δ : Type} (dev : Devices δ) (inter : Interconnect δ) (width : Width) (sh : SharedState)

lemma load : inter.load dev width sh addr =
    (Bytes.load inter.ram (addr.toNat % 2097152) width.size >>= fun v =>
      pure (v, inter, sh.tick 2)) := by
  rw [Interconnect.load]
  simp only [h.contains]
  rw [Ram.load, Ram.mirror_maskRegion]

lemma store (val : U32) : inter.store dev width sh addr val =
    (Bytes.store inter.ram (addr.toNat % 2097152) val width.size >>= fun ram =>
      pure ({ inter with ram := ram }, sh)) := by
  rw [Interconnect.store]
  simp only [h.contains]
  rw [Ram.store, Ram.mirror_maskRegion]

end InRam

end Rustation
