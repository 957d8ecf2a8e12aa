import Rustation.Cpu.State
import Rustation.Memory.Regions

/-!
Coherence of the instruction cache: while every line that is written to is
invalidated before it is fetched from again, a fetch through the cache returns
the word in memory.

* `Fetchable`: the addresses in question, in RAM or BIOS and in a cached region;
* `Loads`: the word an uncached fetch returns;
* `CacheRun`: fetches, invalidations and stores in any order, with the set of
  lines that have been written to and not been invalidated since;
* `Coherent`: the invariant.  Every hit on a line outside of that set is right;
* `fetch_coherent`: so is every fetch.
-/

namespace Rustation

open Fallible

/-! ### Addresses -/

section

variable (a : U32)

lemma val_lineIndex : (Cpu.lineIndex a).val = a.toNat / 16 % 256 := by
  rw [Cpu.lineIndex, Fin.val_ofNat, BitVec.toNat_and_mask (k := 8) _ rfl, BitVec.toNat_shift]
  omega

lemma toNat_index : (a >>> 2 &&& 3).toNat = a.toNat / 2 ^ 2 % 2 ^ 2 := by
  rw [BitVec.toNat_and_mask (k := 2) _ rfl, BitVec.toNat_shift]

/-- The tag is made of the bits 30 to 12. -/
lemma toNat_tag : ((a &&& 0x7ffff000) >>> 12).toNat = a.toNat / 2 ^ 12 % 2 ^ 19 := by
  rw [BitVec.ushiftRight_and_distrib, BitVec.toNat_and_mask (k := 19) _ rfl, BitVec.toNat_shift]

end

/-! ### Lines -/

namespace ICacheLine

/-- The word of `pc` is taken from the line. -/
def Hits (l : ICacheLine) (pc : U32) : Prop :=
  l.tag = pc &&& 0x7ffff000 ∧ l.validIndex ≤ pc >>> 2 &&& 3

/-- No word of the line is valid. -/
def Invalidated (l : ICacheLine) : Prop := l.tagValid.getLsbD 4 = true

lemma invalidated_invalidate (l : ICacheLine) : l.invalidate.Invalidated := by
  simp [Invalidated, invalidate]

lemma Invalidated.not_hits {l : ICacheLine} (h : l.Invalidated) (pc : U32) : ¬l.Hits pc := by
  rintro ⟨-, hvalid⟩
  have hle : l.validIndex.toNat ≤ (pc >>> 2 &&& 3).toNat := BitVec.le_def.mp hvalid
  have hbit : l.tagValid.toNat / 2 ^ 4 % 2 = 1 := by
    simpa [Invalidated, BitVec.getLsbD, Nat.testBit_eq_decide_div_mod_eq] using h
  rw [validIndex, BitVec.toNat_and_mask (k := 3) _ rfl, BitVec.toNat_shift, toNat_index] at hle
  omega

/-- After a refill the line is hit from the refilled address on. -/
lemma hits_setTagValid_iff {l : ICacheLine} {pc pc' : U32} : (l.setTagValid pc).Hits pc' ↔
    pc &&& 0x7ffff000 = pc' &&& 0x7ffff000 ∧
      pc.toNat / 2 ^ 2 % 2 ^ 2 ≤ pc'.toNat / 2 ^ 2 % 2 ^ 2 := by
  have htag : (l.setTagValid pc).tag = pc &&& 0x7ffff000 := by
    rw [tag, setTagValid, BitVec.and_assoc]
    rfl
  have hvalid : (l.setTagValid pc).validIndex = pc >>> 2 &&& 3 := by
    rw [validIndex, setTagValid, BitVec.ushiftRight_and_distrib, BitVec.and_assoc]
    rfl
  rw [Hits, htag, hvalid, BitVec.le_def, toNat_index, toNat_index]

end ICacheLine

namespace Cpu

/-- The addresses of cached code: aligned, in KUSEG or KSEG0, and in RAM or BIOS. -/
structure Fetchable (pc : U32) : Prop where
  aligned : pc.toNat % 4 = 0
  cached : pc < 0xa0000000
  mapped : (Map.RAM.contains (maskRegion pc)).isSome ∨ (Map.BIOS.contains (maskRegion pc)).isSome

lemma fetchable_iff {pc : U32} : Fetchable pc ↔ pc.toNat % 4 = 0 ∧ pc.toNat < 0xa0000000 ∧
    (pc.toNat % 2 ^ 31 < 0x800000 ∨
      0x1fc00000 ≤ pc.toNat % 2 ^ 31 ∧ pc.toNat % 2 ^ 31 < 0x1fc80000) := by
  have hcached : pc < 0xa0000000 ↔ pc.toNat < 0xa0000000 := BitVec.lt_def
  have hmapped (h : pc.toNat < 0xa0000000) :
      ((Map.RAM.contains (maskRegion pc)).isSome ∨ (Map.BIOS.contains (maskRegion pc)).isSome) ↔
      (pc.toNat % 2 ^ 31 < 0x800000 ∨
        0x1fc00000 ≤ pc.toNat % 2 ^ 31 ∧ pc.toNat % 2 ^ 31 < 0x1fc80000) := by
    rw [contains_RAM, contains_BIOS, toNat_maskRegion pc h]
    split_ifs <;> simp_all
  constructor
  · intro h
    have hlt := hcached.mp h.cached
    exact ⟨h.aligned, hlt, (hmapped hlt).mp h.mapped⟩
  · rintro ⟨haligned, hlt, hmap⟩
    exact ⟨haligned, hcached.mpr hlt, (hmapped hlt).mpr hmap⟩

/-! ### Uncached fetches -/

variable {δ : Type} {dev : Devices δ} {inter : Interconnect δ} {c c' : Cpu δ} {pc : U32}

/-- The word an uncached fetch from `pc` returns, without any effect. -/
def Loads (dev : Devices δ) (inter : Interconnect δ) (pc w : U32) : Prop :=
  ∀ sh, inter.loadInstruction dev sh pc = .ok (w, inter, sh)

lemma loads_congr {pc' w : U32} (h : maskRegion pc' = maskRegion pc) (hw : Loads dev inter pc w) :
    Loads dev inter pc' w := by
  intro sh
  rw [← hw sh]
  simp only [Interconnect.loadInstruction, h]

/-- In RAM the word is made of the mirrored bytes, in BIOS it is fixed. -/
lemma loads_iff (hpc : Fetchable pc) {w : U32} : Loads dev inter pc w ↔
    if pc.toNat % 2 ^ 31 < 0x800000 then Bytes.load inter.ram (pc.toNat % 2 ^ 21) 4 = .ok w
    else Bytes.load inter.bios (pc.toNat % 2 ^ 31 - 0x1fc00000) 4 = .ok w := by
  obtain ⟨haligned, hlt, hmap⟩ := fetchable_iff.mp hpc
  have habs := toNat_maskRegion pc hlt
  have hbind {x : Outcome U32} :
      (∀ sh : SharedState, (x >>= fun v => pure (v, inter, sh)) = .ok (w, inter, sh)) ↔
        x = .ok w := by
    constructor
    · intro h
      obtain ⟨v, hv, heq⟩ := bind_eq_ok.mp (h .new)
      injection heq with heq
      injection heq with heq
      rw [hv, heq]
    · rintro rfl sh
      rfl
  by_cases hram : pc.toNat % 2 ^ 31 < 0x800000
  · have hcontains : Map.RAM.contains (maskRegion pc) = some (maskRegion pc) := by
      rw [contains_RAM, habs, if_pos hram]
    have hoffset : Ram.mirror (maskRegion pc) = pc.toNat % 2 ^ 21 := by
      rw [Ram.mirror_toNat, habs]
      omega
    simp only [Loads, Interconnect.loadInstruction, hcontains, if_pos hram, ← hoffset]
    exact hbind
  · have hbios := hmap.resolve_left hram
    have hnot : Map.RAM.contains (maskRegion pc) = none := by
      rw [contains_RAM, habs, if_neg hram]
    have hcontains : Map.BIOS.contains (maskRegion pc) = some (maskRegion pc - 0x1fc00000) := by
      rw [contains_BIOS, habs, if_pos hbios]
    have hoffset : (maskRegion pc - 0x1fc00000).toNat = pc.toNat % 2 ^ 31 - 0x1fc00000 := by
      have hle : (0x1fc00000 : U32) ≤ maskRegion pc := BitVec.le_def.mpr (habs ▸ hbios.1)
      rw [BitVec.toNat_sub_of_le hle, habs]
      rfl
    simp only [Loads, Interconnect.loadInstruction, hnot, hcontains, if_neg hram, ← hoffset]
    exact hbind

lemma exists_loads (dev : Devices δ) (inter : Interconnect δ) (hpc : Fetchable pc) :
    ∃ w, Loads dev inter pc w := by
  obtain ⟨haligned, hlt, hmap⟩ := fetchable_iff.mp hpc
  simp only [loads_iff hpc]
  split_ifs with hram
  · exact Bytes.load_eq_ok _ (by unfold RAM_SIZE; omega)
  · exact Bytes.load_eq_ok _ (by unfold BIOS_SIZE; omega)

/-- A line lies in RAM or BIOS as a whole. -/
lemma Fetchable.add {j : ℕ} (h : Fetchable pc) (hj : pc.toNat / 4 % 4 + j < 4) :
    Fetchable (pc + BitVec.ofNat 32 (4 * j)) := by
  obtain ⟨haligned, hlt, hmap⟩ := fetchable_iff.mp h
  have hadd : (pc + BitVec.ofNat 32 (4 * j)).toNat = pc.toNat + 4 * j := by
    rw [BitVec.toNat_add, BitVec.toNat_ofNat]
    omega
  refine fetchable_iff.mpr ?_
  rw [hadd]
  refine ⟨by omega, by omega, ?_⟩
  rcases hmap with hram | hbios
  · exact .inl (by omega)
  · exact .inr (by omega)

/-! ### Filling a line -/

lemma add_four_add (a : U32) (j : ℕ) :
    a + 4 + BitVec.ofNat 32 (4 * j) = a + BitVec.ofNat 32 (4 * (j + 1)) := by
  rw [BitVec.add_assoc, Nat.mul_succ, BitVec.ofNat_add, BitVec.add_comm 4]
  rfl

/-- The words from the index `k` on are those in memory, the others are left. -/
lemma fillLine_spec {line : ICacheLine} {sh : SharedState} {cpc k : U32} {n : ℕ}
    (hk : k.toNat + n = 4) (hpc : ∀ j < n, Fetchable (cpc + BitVec.ofNat 32 (4 * j))) :
    ∃ line' sh', fillLine dev inter line sh cpc k n = .ok (inter, line', sh') ∧
      (∀ j (hj : k.toNat + j < 4), Loads dev inter (cpc + BitVec.ofNat 32 (4 * j))
        (line'.line ⟨k.toNat + j, hj⟩).word) ∧
      ∀ m : Fin 4, m.val < k.toNat → line'.line m = line.line m := by
  induction n generalizing line sh cpc k with
  | zero =>
      refine ⟨line, sh, rfl, fun j hj => ?_, fun _ _ => rfl⟩
      omega
  | succ n ih =>
      obtain ⟨w, hw⟩ := exists_loads dev inter (hpc 0 n.succ_pos)
      rw [Nat.mul_zero, BitVec.add_zero] at hw
      have hk1 : (k + 1).toNat = k.toNat + 1 := by
        rw [BitVec.toNat_add]
        exact Nat.mod_eq_of_lt (by show k.toNat + 1 < 2 ^ 32; omega)
      have hrest : ∀ j < n, Fetchable (cpc + 4 + BitVec.ofNat 32 (4 * j)) := fun j hj => by
        rw [add_four_add]
        exact hpc (j + 1) (by omega)
      obtain ⟨line', sh', hfill, hloads, hframe⟩ :=
        @ih (line.setInstruction k ⟨w⟩) (sh.tick 1) (cpc + 4) (k + 1) (by omega) hrest
      refine ⟨line', sh', ?_, fun j hj => ?_, fun m hm => ?_⟩
      · rw [fillLine, hw, ok_bind]
        exact hfill
      · cases j with
        | zero =>
            -- the later words leave the first one alone
            have hself : line'.line ⟨k.toNat, hj⟩ = ⟨w⟩ := by
              refine (hframe _ (by rw [hk1]; exact Nat.lt_succ_self _)).trans ?_
              have hindex : Fin.ofNat 4 k.toNat = ⟨k.toNat, hj⟩ :=
                Fin.ext (Nat.mod_eq_of_lt hj)
              rw [ICacheLine.setInstruction, hindex]
              exact Function.update_self ..
            rw [Nat.mul_zero, BitVec.add_zero]
            exact hself ▸ hw
        | succ j =>
            have hj' : (k + 1).toNat + j < 4 := by omega
            have hnext := hloads j hj'
            have hindex : (⟨(k + 1).toNat + j, hj'⟩ : Fin 4) = ⟨k.toNat + (j + 1), hj⟩ :=
              Fin.ext (by dsimp only; omega)
            rwa [add_four_add, hindex] at hnext
      · refine (hframe m (by omega)).trans (Function.update_of_ne ?_ _ _)
        intro heq
        have hval := congrArg Fin.val heq
        rw [Fin.val_ofNat, Nat.mod_eq_of_lt (by omega)] at hval
        omega

/-- The addresses of a line with the same tag differ in the index only. -/
lemma maskRegion_eq {pc' : U32} {j : ℕ} (hpc : Fetchable pc) (hpc' : Fetchable pc')
    (htag : pc &&& 0x7ffff000 = pc' &&& 0x7ffff000) (hline : lineIndex pc' = lineIndex pc)
    (hj : pc.toNat / 2 ^ 2 % 2 ^ 2 + j = pc'.toNat / 2 ^ 2 % 2 ^ 2) :
    maskRegion pc' = maskRegion (pc + BitVec.ofNat 32 (4 * j)) := by
  obtain ⟨haligned, hlt, -⟩ := fetchable_iff.mp hpc
  obtain ⟨haligned', hlt', -⟩ := fetchable_iff.mp hpc'
  have hadd : (pc + BitVec.ofNat 32 (4 * j)).toNat = pc.toNat + 4 * j := by
    rw [BitVec.toNat_add, BitVec.toNat_ofNat]
    omega
  have htagNat : pc.toNat / 2 ^ 12 % 2 ^ 19 = pc'.toNat / 2 ^ 12 % 2 ^ 19 := by
    rw [← toNat_tag, ← toNat_tag, htag]
  have hlineNat : pc'.toNat / 16 % 256 = pc.toNat / 16 % 256 := by
    rw [← val_lineIndex, ← val_lineIndex, hline]
  refine BitVec.eq_of_toNat_eq ?_
  rw [toNat_maskRegion _ hlt', toNat_maskRegion _ (by omega), hadd]
  omega

/-! ### The invariant -/

/-- Every hit on a line that has not been written to is right. -/
structure Coherent (dev : Devices δ) (dirty : Set (Fin 0x100)) (c : Cpu δ) : Prop where
  enabled : c.inter.cacheControl.icacheEnabled = true
  hit : ∀ pc, Fetchable pc → lineIndex pc ∉ dirty → (c.icache (lineIndex pc)).Hits pc →
    Loads dev c.inter pc ((c.icache (lineIndex pc)).instruction (pc >>> 2 &&& 3)).word

variable {dirty : Set (Fin 0x100)}

/-- A refill makes its line coherent. -/
lemma Coherent.refill (h : Coherent dev dirty c) (hpc : Fetchable pc) {line : ICacheLine}
    (hline : ∀ j (hj : (pc >>> 2 &&& 3).toNat + j < 4),
      Loads dev c.inter (pc + BitVec.ofNat 32 (4 * j))
        (line.line ⟨(pc >>> 2 &&& 3).toNat + j, hj⟩).word) :
    Coherent dev dirty (c.setLine (lineIndex pc) (line.setTagValid pc)) where
  enabled := h.enabled
  hit pc' hpc' hclean hhits := by
    by_cases heq : lineIndex pc' = lineIndex pc
    · have hset : (c.setLine (lineIndex pc) (line.setTagValid pc)).icache (lineIndex pc') =
          line.setTagValid pc := by
        rw [heq]
        exact Function.update_self ..
      rw [hset] at hhits ⊢
      obtain ⟨htag, hle⟩ := ICacheLine.hits_setTagValid_iff.mp hhits
      obtain ⟨j, hj⟩ := Nat.exists_eq_add_of_le hle
      have hlt : (pc >>> 2 &&& 3).toNat + j < 4 := by
        rw [toNat_index]
        omega
      have hindex : Fin.ofNat 4 (pc' >>> 2 &&& 3).toNat = ⟨(pc >>> 2 &&& 3).toNat + j, hlt⟩ := by
        refine Fin.ext ?_
        have hpcIndex := toNat_index pc
        rw [Fin.val_ofNat, toNat_index]
        dsimp only
        omega
      have hword := loads_congr (maskRegion_eq hpc hpc' htag heq hj.symm) (hline j hlt)
      rw [← hindex] at hword
      exact hword
    · have hother : (c.setLine (lineIndex pc) (line.setTagValid pc)).icache (lineIndex pc') =
          c.icache (lineIndex pc') := Function.update_of_ne heq ..
      rw [hother] at hhits ⊢
      exact h.hit pc' hpc' hclean hhits

/-- A fetch returns the word in memory and keeps the invariant. -/
lemma Coherent.fetch (h : Coherent dev dirty c) (hpc : Fetchable pc) (hclean : lineIndex pc ∉ dirty)
    (sh : SharedState) : ∃ i c' sh',
      fetchInstruction dev { c with currentPc := pc } sh = .ok (i, c', sh') ∧
        Loads dev c.inter pc i.word ∧ Coherent dev dirty c' := by
  have hcached : pc < 0xa0000000 ∧ c.inter.cacheControl.icacheEnabled = true :=
    ⟨hpc.cached, h.enabled⟩
  have hcurrent : Coherent dev dirty { c with currentPc := pc } := ⟨h.enabled, h.hit⟩
  by_cases hhits : (c.icache (lineIndex pc)).Hits pc
  · have hhit : ¬((c.icache (lineIndex pc)).tag ≠ pc &&& 0x7ffff000 ∨
        (c.icache (lineIndex pc)).validIndex > pc >>> 2 &&& 3) := by
      rw [not_or, not_not]
      exact ⟨hhits.1, BitVec.not_lt.mpr hhits.2⟩
    refine ⟨_, _, sh, ?_, h.hit pc hpc hclean hhits, hcurrent⟩
    rw [fetchInstruction, if_pos hcached, if_neg hhit]
    rfl
  · have hmiss : (c.icache (lineIndex pc)).tag ≠ pc &&& 0x7ffff000 ∨
        (c.icache (lineIndex pc)).validIndex > pc >>> 2 &&& 3 := by
      by_contra hnot
      rw [not_or, not_not] at hnot
      exact hhits ⟨hnot.1, BitVec.not_lt.mp hnot.2⟩
    have hindex := toNat_index pc
    have hwords : ∀ j < 4 - (pc >>> 2 &&& 3).toNat,
        Fetchable (pc + BitVec.ofNat 32 (4 * j)) := fun j hj => hpc.add (by omega)
    obtain ⟨line, sh', hfill, hline, -⟩ :=
      @fillLine_spec δ dev c.inter (c.icache (lineIndex pc)) (sh.tick 3) pc (pc >>> 2 &&& 3)
        (4 - (pc >>> 2 &&& 3).toNat) (by omega) hwords
    refine ⟨(line.setTagValid pc).instruction (pc >>> 2 &&& 3), _, sh', ?_, ?_,
      hcurrent.refill hpc hline⟩
    · rw [fetchInstruction, if_pos hcached, if_pos hmiss]
      dsimp only
      rw [hfill]
      rfl
    · have hfirst := hline 0 (by omega)
      rw [Nat.mul_zero, BitVec.add_zero] at hfirst
      have hself : (line.setTagValid pc).instruction (pc >>> 2 &&& 3) =
          line.line ⟨(pc >>> 2 &&& 3).toNat + 0, by omega⟩ :=
        congrArg line.line (Fin.ext (Nat.mod_eq_of_lt (by omega)))
      exact hself ▸ hfirst

/-- An invalidation takes its line out of the lines written to. -/
lemma Coherent.invalidate (h : Coherent dev dirty c) (addr : U32) :
    Coherent dev (dirty \ {lineIndex addr})
      (c.setLine (lineIndex addr) (c.icache (lineIndex addr)).invalidate) where
  enabled := h.enabled
  hit pc hpc hclean hhits := by
    by_cases heq : lineIndex pc = lineIndex addr
    · have hset : (c.setLine (lineIndex addr) (c.icache (lineIndex addr)).invalidate).icache
          (lineIndex pc) = (c.icache (lineIndex addr)).invalidate := by
        rw [heq]
        exact Function.update_self ..
      rw [hset] at hhits
      exact absurd hhits ((c.icache _).invalidated_invalidate.not_hits pc)
    · have hother : (c.setLine (lineIndex addr) (c.icache (lineIndex addr)).invalidate).icache
          (lineIndex pc) = c.icache (lineIndex pc) := Function.update_of_ne heq ..
      rw [hother] at hhits ⊢
      exact h.hit pc hpc (fun hmem => hclean ⟨hmem, heq⟩) hhits

/-- A store to RAM changes the words of its own line only. -/
lemma loads_store {width : Width} {addr val w : U32} {ram : Ram} (hpc : Fetchable pc)
    (haligned : addr.toNat % width.size = 0) (hne : lineIndex pc ≠ lineIndex addr)
    (hstore : inter.ram.store width (maskRegion addr) val = .ok ram) (hw : Loads dev inter pc w) :
    Loads dev { inter with ram := ram } pc w := by
  rw [loads_iff hpc] at hw ⊢
  split_ifs at hw ⊢ with hram
  · rw [← hw]
    refine Bytes.load_congr fun k hlow hhigh => Bytes.store_frame hstore ?_
    have hregion := toNat_maskRegion_mod addr
    have hlines : pc.toNat / 16 % 256 ≠ addr.toNat / 16 % 256 := by
      rw [← val_lineIndex, ← val_lineIndex]
      exact fun h => hne (Fin.ext h)
    have hpcAligned := hpc.aligned
    rw [Ram.mirror_toNat]
    -- an aligned access stays within its line, and mirrors keep the line
    by_contra hinside
    push Not at hinside
    have hpcLine : k.val / 16 % 256 = pc.toNat / 16 % 256 := by omega
    have haddrLine : k.val / 16 % 256 = addr.toNat / 16 % 256 := by
      cases width <;> simp only [Width.size] at haligned hinside <;> omega
    exact hlines (hpcLine.symm.trans haddrLine)
  · exact hw

lemma Coherent.store (h : Coherent dev dirty c) {width : Width} {addr val : U32} {ram : Ram}
    (haligned : addr.toNat % width.size = 0)
    (hstore : c.inter.ram.store width (maskRegion addr) val = .ok ram) :
    Coherent dev (insert (lineIndex addr) dirty)
      { c with inter := { c.inter with ram := ram } } where
  enabled := h.enabled
  hit pc hpc hclean hhits := by
    rw [Set.mem_insert_iff, not_or] at hclean
    exact loads_store hpc haligned hclean.1 hstore (h.hit pc hpc hclean.2 hhits)

/-! ### Runs -/

/-- Another status and another mode of the cache. -/
def withMode (c : Cpu δ) (sr : U32) (cc : CacheControl) : Cpu δ :=
  { c with cop0 := c.cop0.setSr sr, inter := { c.inter with cacheControl := cc } }

/-- The states of a CPU that starts with an enabled cache without a valid line
and fetches, invalidates lines and stores to RAM in any order.  `dirty` are the
lines stored to and not invalidated since; they are not fetched from.  SR and
the cache control register may change, as long as the cache stays enabled. -/
inductive CacheRun (dev : Devices δ) : Set (Fin 0x100) → Cpu δ → Prop
  | start {c : Cpu δ} : (∀ l, (c.icache l).Invalidated) →
      c.inter.cacheControl.icacheEnabled = true → CacheRun dev ∅ c
  | fetch {dirty : Set (Fin 0x100)} {c c' : Cpu δ} {pc : U32} {i : Instruction}
      {sh sh' : SharedState} : CacheRun dev dirty c → Fetchable pc → lineIndex pc ∉ dirty →
      fetchInstruction dev { c with currentPc := pc } sh = .ok (i, c', sh') → CacheRun dev dirty c'
  | invalidate {dirty : Set (Fin 0x100)} {c c' : Cpu δ} {addr : U32} {sh sh' : SharedState} :
      CacheRun dev dirty c → c.cop0.cacheIsolated = true →
      c.inter.cacheControl.tagTestMode = true → c.memStore dev .word sh addr 0 = .ok (c', sh') →
      CacheRun dev (dirty \ {lineIndex addr}) c'
  | store {dirty : Set (Fin 0x100)} {c c' : Cpu δ} {width : Width} {addr val : U32}
      {sh sh' : SharedState} : CacheRun dev dirty c → c.cop0.cacheIsolated = false →
      addr.toNat % width.size = 0 → (Map.RAM.contains (maskRegion addr)).isSome →
      c.memStore dev width sh addr val = .ok (c', sh') →
      CacheRun dev (insert (lineIndex addr) dirty) c'
  | mode {dirty : Set (Fin 0x100)} {c : Cpu δ} (sr : U32) (cc : CacheControl) :
      CacheRun dev dirty c → cc.icacheEnabled = true → CacheRun dev dirty (c.withMode sr cc)

lemma memStore_invalidate {addr : U32} {sh : SharedState} (hisolated : c.cop0.cacheIsolated = true)
    (henabled : c.inter.cacheControl.icacheEnabled = true)
    (htest : c.inter.cacheControl.tagTestMode = true) : c.memStore dev .word sh addr 0 =
      .ok (c.setLine (lineIndex addr) (c.icache (lineIndex addr)).invalidate, sh) := by
  simp [memStore, hisolated, cacheMaintenance, henabled, htest, Width.size]

lemma memStore_ram {width : Width} {addr val : U32} {sh sh' : SharedState}
    (hisolated : c.cop0.cacheIsolated = false)
    (hram : (Map.RAM.contains (maskRegion addr)).isSome)
    (h : c.memStore dev width sh addr val = .ok (c', sh')) :
    ∃ ram, c.inter.ram.store width (maskRegion addr) val = .ok ram ∧
      c' = { c with inter := { c.inter with ram := ram } } := by
  simp only [memStore, hisolated, Interconnect.store, InRam.contains hram] at h
  obtain ⟨⟨inter, s⟩, hinter, heq⟩ := bind_eq_ok.mp h
  obtain ⟨ram, hstore, heq'⟩ := bind_eq_ok.mp hinter
  injection heq with heq
  injection heq with hc'
  injection heq' with heq'
  injection heq' with hinter
  exact ⟨ram, hstore, by rw [← hc', ← hinter]⟩

lemma CacheRun.coherent (h : CacheRun dev dirty c) : Coherent dev dirty c := by
  induction h with
  | start hlines henabled =>
      exact ⟨henabled, fun pc _ _ hhits => absurd hhits ((hlines _).not_hits pc)⟩
  | fetch _ hpc hclean hfetch ih =>
      obtain ⟨i, c1, s1, hrun, -, hcoherent⟩ := ih.fetch hpc hclean _
      rw [hrun] at hfetch
      injection hfetch with heq
      injection heq with _ heq
      injection heq with hc'
      exact hc' ▸ hcoherent
  | invalidate _ hisolated htest hstore ih =>
      rw [memStore_invalidate hisolated ih.enabled htest] at hstore
      injection hstore with heq
      injection heq with hc'
      exact hc' ▸ ih.invalidate _
  | store _ hisolated haligned hram hstore ih =>
      obtain ⟨ram, hbytes, rfl⟩ := memStore_ram hisolated hram hstore
      exact ih.store haligned hbytes
  | mode sr cc _ henabled ih =>
      -- a fetch reads neither of the registers
      refine ⟨henabled, fun pc hpc hclean hhits => (loads_iff hpc).mpr ?_⟩
      have hword := (loads_iff hpc).mp (ih.hit pc hpc hclean hhits)
      exact hword

/-- **Coherence.**  A fetch from a line that has not been stored to since its
last invalidation returns the word `loadInstruction` returns. -/
theorem fetch_coherent (h : CacheRun dev dirty c) (hpc : Fetchable pc)
    (hclean : lineIndex pc ∉ dirty) (sh : SharedState) : ∃ i c' sh',
      fetchInstruction dev { c with currentPc := pc } sh = .ok (i, c', sh') ∧
        c.inter.loadInstruction dev sh pc = .ok (i.word, c.inter, sh) := by
  obtain ⟨i, c', sh', hrun, hloads, -⟩ := h.coherent.fetch hpc hclean sh
  exact ⟨i, c', sh', hrun, hloads sh⟩

/-- A CPU with an enabled cache whose lines are invalid. -/
def cached : Cpu Unit :=
  { Cpu.new { Interconnect.new (fun _ => 0) () with cacheControl := ⟨0x800⟩ } with
    icache := fun _ => ICacheLine.new.invalidate }

/-- An instruction is written through KSEG1, its line is invalidated, and it is
fetched through KSEG0. -/
theorem fetch_coherent_patched : ∃ dirty c i c' sh', CacheRun .idle dirty c ∧
    fetchInstruction .idle { c with currentPc := 0x80001004 } .new = .ok (i, c', sh') ∧
      c.inter.loadInstruction .idle .new 0x80001004 = .ok (i.word, c.inter, .new) ∧
        i.word = 0x3c011234 := by
  obtain ⟨⟨c1, s1⟩, hstore, hrest⟩ := bind_eq_ok.mp
    (show (cached.memStore .idle .word .new 0xa0001004 0x3c011234 >>= fun x =>
        (x.1.withMode 0x10000 ⟨0x804⟩).memStore .idle .word x.2 0x1000 0 >>= fun y =>
          fetchInstruction .idle { y.1.withMode 0 ⟨0x800⟩ with currentPc := 0x80001004 } .new >>=
            fun z => pure z.1) = .ok ⟨0x3c011234⟩ by decide +kernel)
  obtain ⟨⟨c2, s2⟩, hinvalidate, hrest⟩ := bind_eq_ok.mp hrest
  obtain ⟨⟨i, c3, s3⟩, hfetch, hi⟩ := bind_eq_ok.mp hrest
  injection hi with hi
  have hstart : CacheRun .idle ∅ cached :=
    .start (fun _ => ICacheLine.invalidated_invalidate _) (by decide)
  have hdirty : CacheRun .idle (insert (lineIndex 0xa0001004) ∅) c1 :=
    .store hstart (by decide) (by decide) (by decide) hstore
  have hisolated : CacheRun .idle _ (c1.withMode 0x10000 ⟨0x804⟩) := hdirty.mode _ _ (by decide)
  have hclean : CacheRun .idle (insert (lineIndex 0xa0001004) ∅ \ {lineIndex 0x1000}) c2 :=
    hisolated.invalidate (show ((0x10000 : U32) &&& 0x10000 != 0) = true by decide)
      (show ((0x804 : U32) &&& 4 != 0) = true by decide) hinvalidate
  have hline : lineIndex 0x80001004 ∉
      insert (lineIndex 0xa0001004) (∅ : Set (Fin 0x100)) \ {lineIndex 0x1000} :=
    fun hmem => hmem.2 (by decide)
  obtain ⟨i', c', sh', hrun, hloads⟩ := fetch_coherent (hclean.mode 0 ⟨0x800⟩ (by decide))
    (fetchable_iff.mpr (by decide)) hline .new
  rw [hfetch] at hrun
  injection hrun with hrun
  injection hrun with hi' hrun
  subst hi'
  exact ⟨_, _, i, c3, s3, hclean.mode 0 ⟨0x800⟩ (by decide), hfetch, hloads,
    congrArg Instruction.word hi⟩

end Cpu

end Rustation
