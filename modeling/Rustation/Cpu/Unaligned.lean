import Rustation.Cpu.Interrupt
import Rustation.Memory.Mirrors

/-!
Unaligned accesses in pairs: SWL with SWR stores a word at any address of main
RAM, LWL with LWR loads one, in either order of the two instructions.

* `byteOf_mergeLwl` and its siblings: which bytes the four instructions take from
  which of their operands;
* `MergesLoad`, `MergesStore`: the same in terms of the address of the pair.  Each
  instruction takes care of the bytes of the pair in the aligned word it accesses;
* `Between`: what may happen between two instructions, `between_fetched` that the
  CPU itself does no more;
* `unaligned_stores`, `unaligned_loads`: the two pairs, `unaligned_pairs` the result.
-/

namespace Rustation

open Fallible

namespace Cpu

/-! ### Merging two words -/

section

variable {addr cur w v m : U32} {k : ℕ}

/-- The low bytes of one word below the low bytes of another. -/
lemma byteOf_merge_shl {j : ℕ} (hk : k < 4) (hm : byteOf m k = if j ≤ k then 0 else 255) :
    byteOf (cur &&& m ||| w <<< (j * 8)) k = if j ≤ k then byteOf w (k - j) else byteOf cur k := by
  rw [byteOf_or, byteOf_and, hm, byteOf_shl _ hk]
  split_ifs
  · have hzero : byteOf cur k &&& 0 = 0 := BitVec.and_zero
    rw [hzero]
    exact BitVec.zero_or
  · have hones : byteOf cur k &&& 255 = byteOf cur k := BitVec.and_allOnes
    rw [hones]
    exact BitVec.or_zero

/-- The high bytes of one word above the high bytes of another. -/
lemma byteOf_merge_shr {j : ℕ} (hm : byteOf m k = if k + j < 4 then 0 else 255) :
    byteOf (cur &&& m ||| w >>> (j * 8)) k =
      if k + j < 4 then byteOf w (k + j) else byteOf cur k := by
  rw [byteOf_or, byteOf_and, hm, byteOf_shr, Nat.add_comm j]
  split_ifs with hj
  · have hzero : byteOf cur k &&& 0 = 0 := BitVec.and_zero
    rw [hzero]
    exact BitVec.zero_or
  · have hones : byteOf cur k &&& 255 = byteOf cur k := BitVec.and_allOnes
    rw [hones, byteOf_of_le w (by omega)]
    exact BitVec.or_zero

/-- A merge with a word that is not shifted takes all of it. -/
lemma byteOf_merge_all : byteOf (cur &&& 0 ||| w) k = byteOf w k := by
  have hzero : cur &&& 0 = 0 := BitVec.and_zero
  have hor : 0 ||| w = w := BitVec.zero_or
  rw [hzero, hor]

lemma toNat_and_three (addr : U32) : (addr &&& 3).toNat = addr.toNat % 4 :=
  addr.toNat_and_mask (k := 2) rfl

lemma byteOf_mergeLwl (hk : k < 4) : byteOf (mergeLwl addr cur w) k =
    if 3 ≤ k + addr.toNat % 4 then byteOf w (k + addr.toNat % 4 - 3) else byteOf cur k := by
  rw [mergeLwl, toNat_and_three]
  have hr : addr.toNat % 4 < 4 := Nat.mod_lt _ (by norm_num)
  generalize addr.toNat % 4 = r at hr ⊢
  interval_cases r
  · exact byteOf_merge_shl (j := 3) hk (by interval_cases k <;> rfl)
  · refine (byteOf_merge_shl (j := 2) hk (by interval_cases k <;> rfl)).trans ?_
    exact if_congr (by omega) (congrArg _ (by omega)) rfl
  · refine (byteOf_merge_shl (j := 1) hk (by interval_cases k <;> rfl)).trans ?_
    exact if_congr (by omega) (congrArg _ (by omega)) rfl
  · rw [if_pos (by omega)]
    exact byteOf_merge_all

lemma byteOf_mergeLwr (hk : k < 4) : byteOf (mergeLwr addr cur w) k =
    if k + addr.toNat % 4 < 4 then byteOf w (k + addr.toNat % 4) else byteOf cur k := by
  rw [mergeLwr, toNat_and_three]
  have hr : addr.toNat % 4 < 4 := Nat.mod_lt _ (by norm_num)
  generalize addr.toNat % 4 = r at hr ⊢
  interval_cases r
  · rw [if_pos (by omega)]
    exact byteOf_merge_all
  · exact byteOf_merge_shr (j := 1) (by interval_cases k <;> rfl)
  · exact byteOf_merge_shr (j := 2) (by interval_cases k <;> rfl)
  · exact byteOf_merge_shr (j := 3) (by interval_cases k <;> rfl)

lemma byteOf_mergeSwl (hk : k < 4) : byteOf (mergeSwl addr cur v) k =
    if k ≤ addr.toNat % 4 then byteOf v (k + 3 - addr.toNat % 4) else byteOf cur k := by
  rw [mergeSwl, toNat_and_three]
  have hr : addr.toNat % 4 < 4 := Nat.mod_lt _ (by norm_num)
  generalize addr.toNat % 4 = r at hr ⊢
  interval_cases r
  · refine (byteOf_merge_shr (j := 3) (by interval_cases k <;> rfl)).trans ?_
    exact if_congr (by omega) (congrArg _ (by omega)) rfl
  · refine (byteOf_merge_shr (j := 2) (by interval_cases k <;> rfl)).trans ?_
    exact if_congr (by omega) (congrArg _ (by omega)) rfl
  · refine (byteOf_merge_shr (j := 1) (by interval_cases k <;> rfl)).trans ?_
    exact if_congr (by omega) (congrArg _ (by omega)) rfl
  · rw [if_pos (by omega)]
    exact byteOf_merge_all

lemma byteOf_mergeSwr (hk : k < 4) : byteOf (mergeSwr addr cur v) k =
    if addr.toNat % 4 ≤ k then byteOf v (k - addr.toNat % 4) else byteOf cur k := by
  rw [mergeSwr, toNat_and_three]
  have hr : addr.toNat % 4 < 4 := Nat.mod_lt _ (by norm_num)
  generalize addr.toNat % 4 = r at hr ⊢
  interval_cases r
  · rw [if_pos (by omega)]
    exact byteOf_merge_all
  · exact byteOf_merge_shl (j := 1) hk (by interval_cases k <;> rfl)
  · exact byteOf_merge_shl (j := 2) hk (by interval_cases k <;> rfl)
  · exact byteOf_merge_shl (j := 3) hk (by interval_cases k <;> rfl)

end

/-! ### The bytes of a pair -/

section

variable {merge : U32 → U32 → U32 → U32} {x a : U32}

/-- A load at `x`, of a pair at `a`, replaces the bytes that lie in the aligned word
of `x`. -/
def MergesLoad (merge : U32 → U32 → U32 → U32) (x a : U32) : Prop :=
  ∀ cur w, ∀ k < 4, byteOf (merge x cur w) k =
    if (a.toNat + k) / 4 = x.toNat / 4 then byteOf w ((a.toNat + k) % 4) else byteOf cur k

/-- A store at `x`, of a pair at `a`, writes the bytes that lie in the aligned word of
`x`, and no others. -/
structure MergesStore (merge : U32 → U32 → U32 → U32) (x a : U32) : Prop where
  byte : ∀ cur v, ∀ k < 4, (a.toNat + k) / 4 = x.toNat / 4 →
    byteOf (merge x cur v) ((a.toNat + k) % 4) = byteOf v k
  other : ∀ cur v, ∀ j < 4, (∀ k < 4, (a.toNat + k) / 4 = x.toNat / 4 → (a.toNat + k) % 4 ≠ j) →
    byteOf (merge x cur v) j = byteOf cur j

lemma mergesLoad_mergeLwl (hx : x.toNat = a.toNat + 3) : MergesLoad mergeLwl x a := by
  intro cur w k hk
  rw [byteOf_mergeLwl hk]
  split_ifs with h
  · exact congrArg _ (by omega)
  · omega
  · omega
  · rfl

lemma mergesLoad_mergeLwr (a : U32) : MergesLoad mergeLwr a a := by
  intro cur w k hk
  rw [byteOf_mergeLwr hk]
  split_ifs with h
  · exact congrArg _ (by omega)
  · omega
  · omega
  · rfl

lemma mergesStore_mergeSwl (hx : x.toNat = a.toNat + 3) : MergesStore mergeSwl x a where
  byte cur v k hk hword := by
    rw [byteOf_mergeSwl (Nat.mod_lt _ (by norm_num)), if_pos (by omega)]
    exact congrArg _ (by omega)
  other cur v j hj hother := by
    have hj' := hother (j + 3 - x.toNat % 4)
    rw [byteOf_mergeSwl hj, if_neg]
    intro hle
    exact hj' (by omega) (by omega) (by omega)

lemma mergesStore_mergeSwr (a : U32) : MergesStore mergeSwr a a where
  byte cur v k hk hword := by
    rw [byteOf_mergeSwr (Nat.mod_lt _ (by norm_num)), if_pos (by omega)]
    exact congrArg _ (by omega)
  other cur v j hj hother := by
    have hj' := hother (j - a.toNat % 4)
    rw [byteOf_mergeSwr hj, if_neg]
    intro hle
    exact hj' (by omega) (by omega) (by omega)

end

/-! ### The aligned word around an address -/

lemma toNat_aligned (x : U32) : (x &&& ~~~3#32).toNat = 4 * (x.toNat / 4) := by
  have hlt : x.toNat < 2 ^ 32 := x.isLt
  rw [BitVec.toNat_and_field x 2 30 rfl]
  omega

lemma inRam_aligned {x : U32} (h : InRam x) : InRam (x &&& ~~~3#32) := by
  rw [inRam_iff, toNat_aligned]
  have hx := inRam_iff.mp h
  omega

/-- The location in main RAM of an address. -/
def location (n : ℕ) : Fin RAM_SIZE := Fin.ofNat RAM_SIZE n

lemma location_eq_iff {n m : ℕ} : location n = location m ↔ n % 2097152 = m % 2097152 :=
  Fin.ext_iff

section

variable {δ : Type} {dev : Devices δ} {c : Cpu δ} {sh : SharedState} {i : Instruction} {x a v : U32}
  {merge : U32 → U32 → U32 → U32}

variable (dev c sh) in
lemma memLoad_aligned (hx : InRam x) : ∃ w,
    c.memLoad dev .word sh (x &&& ~~~3#32) = .ok (w, c, sh.tick 2) ∧
      ∀ n, n / 4 = x.toNat / 4 → byteOf w (n % 4) = c.inter.ram (location n) := by
  have haligned := toNat_aligned x
  have hfit : (x &&& ~~~3#32).toNat % 2097152 + 4 ≤ RAM_SIZE := by
    rw [RAM_SIZE]
    omega
  obtain ⟨w, hw, hbytes⟩ := Bytes.load_word c.inter.ram hfit
  refine ⟨w, ?_, fun n hn => ?_⟩
  · rw [memLoad, (inRam_aligned hx).load, show Width.size .word = 4 from rfl, hw]
    rfl
  · rw [hbytes (n % 4) (Nat.mod_lt _ (by norm_num))]
    refine congrArg c.inter.ram (Fin.ext ?_)
    change (x &&& ~~~3#32).toNat % 2097152 + n % 4 = n % 2097152
    omega

variable (dev c sh) in
lemma memStore_aligned (hx : InRam x) (hiso : c.cop0.cacheIsolated = false) (m : U32) :
    ∃ ram' : Ram,
    c.memStore dev .word sh (x &&& ~~~3#32) m =
      .ok ({ c with inter := { c.inter with ram := ram' } }, sh) ∧
    (∀ n, n / 4 = x.toNat / 4 → ram' (location n) = byteOf m (n % 4)) ∧
    ∀ l, (∀ n, n / 4 = x.toNat / 4 → location n ≠ l) → ram' l = c.inter.ram l := by
  have haligned := toNat_aligned x
  have hfit : (x &&& ~~~3#32).toNat % 2097152 + 4 ≤ RAM_SIZE := by
    rw [RAM_SIZE]
    omega
  refine ⟨c.inter.ram.written ((x &&& ~~~3#32).toNat % 2097152) m 4, ?_, fun n hn => ?_,
    fun l hl => ?_⟩
  · rw [memStore, hiso, if_neg Bool.false_ne_true, (inRam_aligned hx).store,
      show Width.size .word = 4 from rfl, Bytes.store_eq_written _ _ hfit]
    rfl
  · have hval : (location n).val = n % 2097152 := rfl
    rw [Bytes.written, if_pos (by omega), byteOf]
    congr 3
    omega
  · refine if_neg fun hin => hl (4 * (x.toNat / 4) + l.val % 4) (by omega) (Fin.ext ?_)
    change (4 * (x.toNat / 4) + l.val % 4) % 2097152 = l.val
    omega

/-! ### One instruction of a pair -/

/-- The bytes of `v`, as a word at `a`, that lie in the aligned word number `q` have
been written, and no others. -/
structure Wrote (a v : U32) (q : ℕ) (ram ram' : Ram) : Prop where
  byte : ∀ k < 4, (a.toNat + k) / 4 = q → ram' (location (a.toNat + k)) = byteOf v k
  other : ∀ l, (∀ k < 4, (a.toNat + k) / 4 = q → location (a.toNat + k) ≠ l) → ram' l = ram l

lemma storeUnaligned_inRam (hx : InRam (c.address i)) (hiso : c.cop0.cacheIsolated = false)
    (hmerge : MergesStore merge (c.address i) a) : ∃ ram' : Ram,
    storeUnaligned dev merge i c sh =
      .ok ({ c.delayedLoad with inter := { c.inter with ram := ram' } }, sh.tick 2) ∧
    Wrote a (c.reg i.t) ((c.address i).toNat / 4) c.inter.ram ram' := by
  obtain ⟨w, hload, hw⟩ := memLoad_aligned dev c sh hx
  obtain ⟨ram', hstore, hbyte, hother⟩ := memStore_aligned dev c.delayedLoad (sh.tick 2) hx hiso
    (merge (c.address i) w (c.reg i.t))
  refine ⟨ram', ?_, fun k hk hword => ?_, fun l hl => ?_⟩
  · rw [storeUnaligned]
    simp only [hload, ok_bind, hstore]
    rfl
  · rw [hbyte _ hword, hmerge.byte w _ k hk hword]
  · -- a location of the aligned word that is none of the pair keeps its byte
    by_cases hin : ∃ n, n / 4 = (c.address i).toNat / 4 ∧ location n = l
    · obtain ⟨n, hn, rfl⟩ := hin
      rw [hbyte n hn,
        hmerge.other w _ (n % 4) (Nat.mod_lt _ (by norm_num)) fun k hk hword heq => ?_,
        hw n hn]
      have hsame : a.toNat + k = n := by omega
      exact hl k hk hword (congrArg location hsame)
    · exact hother l fun n hn heq => hin ⟨n, hn, heq⟩

lemma loadUnaligned_inRam (hx : InRam (c.address i)) (hmerge : MergesLoad merge (c.address i) a) :
    ∃ w, loadUnaligned dev merge i c sh = .ok (c.delayedLoadChain i.t w, sh.tick 2) ∧
      ∀ k < 4, byteOf w k = if (a.toNat + k) / 4 = (c.address i).toNat / 4
        then c.inter.ram (location (a.toNat + k)) else byteOf (c.pendingOr i.t) k := by
  obtain ⟨w, hload, hw⟩ := memLoad_aligned dev c sh hx
  refine ⟨merge (c.address i) (c.pendingOr i.t) w, ?_, fun k hk => ?_⟩
  · rw [loadUnaligned]
    simp only [hload, ok_bind]
    rfl
  · rw [hmerge _ _ k hk]
    split_ifs with hword
    · exact hw _ hword
    · rfl

/-! ### The two of them -/

/-- The words of the two instructions cover the pair. -/
lemma wrote_pair {p q : ℕ} {ram ram' ram'' : Ram} (hp : Wrote a v p ram ram')
    (hq : Wrote a v q ram' ram'') (hcover : ∀ k < 4, (a.toNat + k) / 4 = p ∨ (a.toNat + k) / 4 = q)
    (l : Fin RAM_SIZE) :
    ram'' l = ((⟨.word, a, v⟩ : Store).byteAt RAM_SIZE l.val).getD (ram l) := by
  have hlocation (k : ℕ) : (a.toNat + k) % RAM_SIZE = l.val ↔ location (a.toNat + k) = l :=
    ⟨fun h => Fin.ext h, fun h => congrArg Fin.val h⟩
  rw [Store.byteAt]
  cases hfind : (List.range (Width.size .word)).find?
      (fun i => decide ((a.toNat + i) % RAM_SIZE = l.val)) with
  | none =>
      have hnone : ∀ k < 4, location (a.toNat + k) ≠ l := fun k hk heq =>
        List.find?_eq_none.mp hfind k (List.mem_range.mpr hk)
          (decide_eq_true ((hlocation k).mpr heq))
      rw [hq.other l fun k hk _ => hnone k hk, hp.other l fun k hk _ => hnone k hk]
      rfl
  | some k =>
      have hk : k < 4 := List.mem_range.mp (List.mem_of_find?_eq_some hfind)
      have hdecide := List.find?_some hfind
      have hl : location (a.toNat + k) = l := (hlocation k).mp (of_decide_eq_true hdecide)
      have hsame {j : ℕ} (hj : j < 4) (h : location (a.toNat + j) = l) : j = k := by
        have := location_eq_iff.mp (h.trans hl.symm)
        omega
      change ram'' l = byteOf v k
      by_cases hkq : (a.toNat + k) / 4 = q
      · rw [← hl]
        exact hq.byte k hk hkq
      · rw [hq.other l fun j hj hjq heq => hkq (hsame hj heq ▸ hjq), ← hl]
        exact hp.byte k hk ((hcover k hk).resolve_right hkq)

/-- A word that holds the bytes at `a`. -/
lemma toNat_eq_bytesAt {w : U32} {ram : Ram}
    (h : ∀ k < 4, byteOf w k = ram (location (a.toNat + k))) : w.toNat = bytesAt ram .word a := by
  have hdigits : bytesAt ram .word a =
      Nat.ofDigits 256 ((List.range 4).map fun k => (byteOf w k).toNat) := by
    rw [bytesAt]
    refine congrArg (Nat.ofDigits 256) (List.map_congr_left fun k hk => ?_)
    rw [h k (List.mem_range.mp hk)]
    rfl
  have hw : w.toNat < 2 ^ 32 := w.isLt
  rw [hdigits]
  simp only [List.range_succ, List.range_zero, List.nil_append, List.cons_append, List.map_cons,
    List.map_nil, Nat.ofDigits_cons, Nat.ofDigits_nil, toNat_byteOf]
  omega

/-- The instructions and effective addresses of a pair at `a`, in either order. -/
inductive Pair (left right : Opcode) (a : U32) : Opcode → U32 → Opcode → U32 → Prop
  | leftFirst : Pair left right a left (a + 3) right a
  | rightFirst : Pair left right a right a left (a + 3)

/-- What may happen between two instructions. -/
structure Between (c d : Cpu δ) : Prop where
  regs : d.regs = c.regs
  load : d.load = c.load
  cop0 : d.cop0 = c.cop0
  memory : d.inter = { c.inter with devices := d.inter.devices }

/-- The CPU synchronises the peripherals and fetches an instruction. -/
lemma between_fetched {c1 c2 : Cpu δ} {sh1 sh2 : SharedState}
    (hsync : c.syncPeripherals dev sh = .ok (c1, sh1))
    (hfetch : fetchInstruction dev { c1 with currentPc := c1.pc } sh1 = .ok (i, c2, sh2)) :
    Between c c2.advance := by
  obtain ⟨hframe, hserviced⟩ := fetched_frame hsync hfetch
  refine ⟨?_, ?_, ?_, hserviced.memory⟩
  all_goals rw [hframe]; rfl

/-- All of the pair lies in main RAM. -/
def PairInRam (a : U32) : Prop := ∀ k < 4, InRam (a + BitVec.ofNat 32 k)

lemma PairInRam.toNat_add_three (h : PairInRam a) : (a + 3).toNat = a.toNat + 3 := by
  have h0 := inRam_iff.mp (h 0 (by norm_num))
  have hzero : a + BitVec.ofNat 32 0 = a := BitVec.add_zero a
  rw [hzero] at h0
  rw [BitVec.toNat_add, show (3 : U32).toNat = 3 from rfl]
  omega

section

variable {op : Opcode} {left right op1 op2 : Opcode} {x1 x2 : U32}

/-- The words of the two instructions of a pair cover it. -/
lemma Pair.cover (h : Pair left right a op1 x1 op2 x2) (ha : PairInRam a) {k : ℕ} (hk : k < 4) :
    (a.toNat + k) / 4 = x1.toNat / 4 ∨ (a.toNat + k) / 4 = x2.toNat / 4 := by
  have hadd := ha.toNat_add_three
  cases h with
  | leftFirst => omega
  | rightFirst => omega

/-- Each instruction of a pair is one of the two. -/
lemma Pair.each (h : Pair left right a op1 x1 op2 x2) :
    (op1 = left ∧ x1 = a + 3 ∨ op1 = right ∧ x1 = a) ∧
      (op2 = left ∧ x2 = a + 3 ∨ op2 = right ∧ x2 = a) := by
  cases h with
  | leftFirst => exact ⟨.inl ⟨rfl, rfl⟩, .inr ⟨rfl, rfl⟩⟩
  | rightFirst => exact ⟨.inr ⟨rfl, rfl⟩, .inl ⟨rfl, rfl⟩⟩

variable (dev c sh) in
lemma execute_store (ha : PairInRam a) (hiso : c.cop0.cacheIsolated = false)
    (hop : op = .swl ∧ c.address i = a + 3 ∨ op = .swr ∧ c.address i = a) : ∃ ram' : Ram,
    execute dev op i c sh =
      .ok ({ c.delayedLoad with inter := { c.inter with ram := ram' } }, sh.tick 2) ∧
    Wrote a (c.reg i.t) ((c.address i).toNat / 4) c.inter.ram ram' := by
  rcases hop with ⟨rfl, hx⟩ | ⟨rfl, hx⟩
  · have hmerge : MergesStore mergeSwl (c.address i) a :=
      mergesStore_mergeSwl (hx ▸ ha.toNat_add_three)
    exact storeUnaligned_inRam (hx ▸ ha 3 (by norm_num)) hiso hmerge
  · have hmerge : MergesStore mergeSwr (c.address i) a := hx ▸ mergesStore_mergeSwr a
    have hin : InRam a := BitVec.add_zero a ▸ ha 0 (by norm_num)
    exact storeUnaligned_inRam (hx ▸ hin) hiso hmerge

variable (dev c sh) in
lemma execute_load (ha : PairInRam a)
    (hop : op = .lwl ∧ c.address i = a + 3 ∨ op = .lwr ∧ c.address i = a) :
    ∃ w, execute dev op i c sh = .ok (c.delayedLoadChain i.t w, sh.tick 2) ∧
      ∀ k < 4, byteOf w k = if (a.toNat + k) / 4 = (c.address i).toNat / 4
        then c.inter.ram (location (a.toNat + k)) else byteOf (c.pendingOr i.t) k := by
  rcases hop with ⟨rfl, hx⟩ | ⟨rfl, hx⟩
  · have hmerge : MergesLoad mergeLwl (c.address i) a :=
      mergesLoad_mergeLwl (hx ▸ ha.toNat_add_three)
    exact loadUnaligned_inRam (hx ▸ ha 3 (by norm_num)) hmerge
  · have hmerge : MergesLoad mergeLwr (c.address i) a := hx ▸ mergesLoad_mergeLwr a
    have hin : InRam a := BitVec.add_zero a ▸ ha 0 (by norm_num)
    exact loadUnaligned_inRam (hx ▸ hin) hmerge

end

/-! ### The result -/

/-- From `c`, with `c2` between the two instructions, a pair of stores has ended in
`c3`. -/
structure PairStored (a v : U32) (c c2 c3 : Cpu δ) : Prop where
  /-- the four bytes of `v`, and no other byte -/
  ram : ∀ l, c3.inter.ram l =
    ((⟨.word, a, v⟩ : Store).byteAt RAM_SIZE l.val).getD (c.inter.ram l)
  memory : c3.inter = { c.inter with ram := c3.inter.ram, devices := c2.inter.devices }
  regs : c3.regs = c.delayedLoad.regs

/-- From `c` a pair of loads to the register `t` has ended in `c3`. -/
structure PairLoaded (a : U32) (t : RegisterIndex) (c c2 c3 : Cpu δ) : Prop where
  /-- the word at `a` is being loaded -/
  load : ∃ w, c3.load = (t, w) ∧ w.toNat = bytesAt c.inter.ram .word a
  /-- the load that was pending is committed -/
  regs : ∀ r ≠ t, c3.reg r = c.delayedLoad.reg r
  /-- after the delay -/
  delayed : ∀ r, (c3.delayedLoad.reg r).toNat =
    if r = 0 then 0 else if r = t then bytesAt c.inter.ram .word a else (c.delayedLoad.reg r).toNat
  memory : c3.inter = c2.inter

section

variable {i1 i2 : Instruction}

lemma unaligned_stores (ha : PairInRam a) (ht : i2.t = i1.t) (hiso : c.cop0.cacheIsolated = false)
    (hpair : Pair .swl .swr a i1.opcode (c.address i1) i2.opcode (c.delayedLoad.address i2))
    (hv : c.delayedLoad.reg i1.t = c.reg i1.t) :
    ∃ c1 sh1, decodeAndExecute dev i1 c sh = .ok (c1, sh1) ∧ ∀ c2 sh2, Between c1 c2 →
      ∃ c3 sh3, decodeAndExecute dev i2 c2 sh2 = .ok (c3, sh3) ∧
        PairStored a (c.reg i1.t) c c2 c3 := by
  obtain ⟨ram1, hfirst, hwrote1⟩ := execute_store dev c (sh.tick 1) ha hiso hpair.each.1
  refine ⟨_, _, hfirst, fun c2 sh2 hbetween => ?_⟩
  obtain ⟨hregs, hload, hcop0, hmemory⟩ := hbetween
  dsimp only at hregs hload hcop0 hmemory
  -- the second instruction finds the registers with the pending load committed
  have haddress : c2.address i2 = c.delayedLoad.address i2 := by
    rw [address, reg, hregs]
    rfl
  have hreg : c2.reg i2.t = c.reg i1.t := by
    rw [reg, hregs, ht, ← hv]
    rfl
  have hiso2 : c2.cop0.cacheIsolated = false := by
    rw [hcop0]
    exact hiso
  have hram : c2.inter.ram = ram1 := by rw [hmemory]
  obtain ⟨ram2, hsecond, hwrote2⟩ := execute_store dev c2 (sh2.tick 1) ha hiso2
    (haddress ▸ hpair.each.2)
  rw [hreg, hram, haddress] at hwrote2
  refine ⟨_, _, hsecond, wrote_pair hwrote1 hwrote2 fun k hk => hpair.cover ha hk, ?_, ?_⟩
  · dsimp only
    rw [hmemory]
  · -- no load is pending any more
    have hnone : c2.delayedLoad.regs = c2.regs := by
      rw [delayedLoad, hload]
      exact Regs.set_zero ..
    exact hnone.trans hregs

/-- A load to another register commits the pending one. -/
lemma delayedLoadChain_reg {t r : RegisterIndex} (hr : r ≠ t) (w : U32) :
    (c.delayedLoadChain t w).reg r = c.delayedLoad.reg r := by
  change (if c.load.1 ≠ t then c.setReg c.load.1 c.load.2 else c).regs.val r =
    (c.regs.set c.load.1 c.load.2).val r
  split_ifs with ht
  · rfl
  · rw [Regs.set_val]
    split_ifs with hzero hpending
    · rw [hzero, c.regs.zero]
    · exact absurd (hpending.trans (not_not.mp ht)) hr
    · rfl

lemma delayedLoadChain_regs (t : RegisterIndex) (v w : U32) :
    (c.delayedLoadChain t v).regs = (c.delayedLoadChain t w).regs := by
  rw [delayedLoadChain, delayedLoadChain]

lemma unaligned_loads (ha : PairInRam a) (ht : i2.t = i1.t)
    (hpair : Pair .lwl .lwr a i1.opcode (c.address i1) i2.opcode
      ((c.delayedLoadChain i1.t 0).address i2)) :
    ∃ c1 sh1, decodeAndExecute dev i1 c sh = .ok (c1, sh1) ∧ ∀ c2 sh2, Between c1 c2 →
      ∃ c3 sh3, decodeAndExecute dev i2 c2 sh2 = .ok (c3, sh3) ∧ PairLoaded a i1.t c c2 c3 := by
  obtain ⟨w1, hfirst, hbytes1⟩ := execute_load dev c (sh.tick 1) ha hpair.each.1
  refine ⟨_, _, hfirst, fun c2 sh2 hbetween => ?_⟩
  obtain ⟨hregs, hload, -, hmemory⟩ := hbetween
  have hload2 : c2.load = (i1.t, w1) := hload
  have haddress : c2.address i2 = (c.delayedLoadChain i1.t 0).address i2 := by
    rw [address, reg, hregs, delayedLoadChain_regs i1.t w1 0]
    rfl
  have hram : c2.inter.ram = c.inter.ram := by
    have hchain : (c.delayedLoadChain i1.t w1).inter = c.inter := by
      unfold delayedLoadChain
      dsimp only
      split_ifs <;> rfl
    rw [hmemory, hchain]
  have hpending : c2.pendingOr i2.t = w1 := by rw [pendingOr, hload2, ht, if_pos rfl]
  obtain ⟨w2, hsecond, hbytes2⟩ := execute_load dev c2 (sh2.tick 1) ha
    (haddress ▸ hpair.each.2)
  -- the second instruction merges its bytes with those of the first
  have hbytes : ∀ k < 4, byteOf w2 k = c.inter.ram (location (a.toNat + k)) := by
    intro k hk
    rw [hbytes2 k hk, hram, hpending, haddress]
    split_ifs with hword
    · rfl
    · rw [hbytes1 k hk, if_pos ((hpair.cover ha hk).resolve_right hword)]
  have hw2 : w2.toNat = bytesAt c.inter.ram .word a := toNat_eq_bytesAt hbytes
  have hc3 : c2.delayedLoadChain i2.t w2 = { c2 with load := (i1.t, w2) } := by
    rw [delayedLoadChain, hload2, ht]
    exact congrArg (fun d : Cpu δ => { d with load := (i1.t, w2) }) (if_neg (not_not.mpr rfl))
  have hother (r : RegisterIndex) (hr : r ≠ i1.t) : c2.reg r = c.delayedLoad.reg r := by
    rw [reg, hregs]
    exact delayedLoadChain_reg hr w1
  refine ⟨_, _, hsecond, ?_⟩
  rw [hc3]
  refine ⟨⟨w2, rfl, hw2⟩, hother, fun r => ?_, rfl⟩
  change ((c2.regs.set i1.t w2).val r).toNat = _
  rw [Regs.set_val]
  split_ifs with hzero hr
  · rfl
  · exact hw2
  · exact congrArg BitVec.toNat (hother r hr)

/-- **Unaligned accesses in pairs.**  Whatever happens between the two instructions
that the CPU itself may do there, SWL and SWR store a word at any address of main RAM,
and LWL and LWR load one, in either order. -/
theorem unaligned_pairs (dev : Devices δ) {c : Cpu δ} {a : U32} (sh : SharedState)
    (ha : PairInRam a) (hiso : c.cop0.cacheIsolated = false) (ht : i2.t = i1.t) :
    (∀ v, c.reg i1.t = v → c.delayedLoad.reg i1.t = v →
      Pair .swl .swr a i1.opcode (c.address i1) i2.opcode (c.delayedLoad.address i2) →
      ∃ c1 sh1, decodeAndExecute dev i1 c sh = .ok (c1, sh1) ∧ ∀ c2 sh2, Between c1 c2 →
        ∃ c3 sh3, decodeAndExecute dev i2 c2 sh2 = .ok (c3, sh3) ∧ PairStored a v c c2 c3) ∧
    (Pair .lwl .lwr a i1.opcode (c.address i1) i2.opcode
        ((c.delayedLoadChain i1.t 0).address i2) →
      ∃ c1 sh1, decodeAndExecute dev i1 c sh = .ok (c1, sh1) ∧ ∀ c2 sh2, Between c1 c2 →
        ∃ c3 sh3, decodeAndExecute dev i2 c2 sh2 = .ok (c3, sh3) ∧ PairLoaded a i1.t c c2 c3) := by
  refine ⟨fun v hv hdelayed hpair => ?_, fun hpair => unaligned_loads ha ht hpair⟩
  subst hv
  exact unaligned_stores ha ht hiso hpair hdelayed

/-- A CPU with an odd address in register 4, a value in register 8 and a load of 5 into
register 9 pending. -/
def unalignedCpu : Cpu Unit :=
  let c := (Cpu.new (Interconnect.new (fun _ => 0) ())).setReg 4 0x80000101
  { c.setReg 8 0x11223344 with load := (9, 5) }

/-- `swr $8, 0($4)` and `swl $8, 3($4)`, then `lwl $9, 3($4)` and `lwr $9, 0($4)`, across
the boundary between two words. -/
theorem unaligned_pairs_odd :
    (∃ c1 sh1, decodeAndExecute .idle ⟨0xb8880000⟩ unalignedCpu .new = .ok (c1, sh1) ∧
      ∀ c2 sh2, Between c1 c2 →
        ∃ c3 sh3, decodeAndExecute .idle ⟨0xa8880003⟩ c2 sh2 = .ok (c3, sh3) ∧
          PairStored 0x80000101 0x11223344 unalignedCpu c2 c3) ∧
    ∃ c1 sh1, decodeAndExecute .idle ⟨0x88890003⟩ unalignedCpu .new = .ok (c1, sh1) ∧
      ∀ c2 sh2, Between c1 c2 →
        ∃ c3 sh3, decodeAndExecute .idle ⟨0x98890000⟩ c2 sh2 = .ok (c3, sh3) ∧
          PairLoaded 0x80000101 9 unalignedCpu c2 c3 := by
  have hram : PairInRam 0x80000101 := by
    intro k hk
    rw [inRam_iff]
    interval_cases k <;> decide
  refine ⟨(unaligned_pairs .idle .new hram rfl (by rfl)).1 0x11223344 rfl rfl ?_,
    (unaligned_pairs .idle .new hram rfl (by rfl)).2 ?_⟩
  · exact Pair.rightFirst
  · exact Pair.leftFirst

end

end

end Cpu

end Rustation
