import Mathlib.Data.Nat.Bitwise
import Rustation.Lib.Chain
import Rustation.Memory.Transfer
import Rustation.Memory.Words

/-!
Ordering tables: a table that the OTC channel clears, packets of GPU commands
that a program links into its slots, and the linked list DMA that sends them.

Slot `k` of a table is the word `4 * k` bytes below its base, slot 0 is the head
of the list.  A packet is linked in behind its slot: its header takes the pointer
of the slot over and the slot points at the packet.

* `target`, `size`: what the DMA reads off a header;
* `clear_table`: the OTC channel leaves each slot pointing at the next one, and
  the last one with the end marker;
* `Built`: the invariant while packets are linked.  `layout` is the order in
  which the headers are met, `Built.perform` the step lemma;
* `linkedListLoop_chain`: the DMA follows a chain of headers to its end and sends
  the words behind each of them;
* `ordering_table`: the three parts together.
-/

namespace Rustation

open Fallible

namespace OrderingTable

/-! ### Headers -/

/-- The number of words behind a header. -/
def size (header : U32) : ℕ := (header >>> 24).toNat

/-- Where a header points, `none` if it has the end marker. -/
def target (header : U32) : Option (Fin 524288) :=
  if header &&& 0x800000 ≠ 0 then none else some (Ram.cell header)

/-- Where the header in a word of the RAM points. -/
def next (ram : Ram) (i : Fin 524288) : Option (Fin 524288) := target (ram.word i)

lemma size_eq (header : U32) : size header = header.toNat / 2 ^ 24 :=
  BitVec.toNat_shift header 24

/-- The end marker is bit 23. -/
lemma marker_iff (header : U32) : header &&& 0x800000 ≠ 0 ↔ header.toNat / 2 ^ 23 % 2 = 1 := by
  have hand : (header &&& 0x800000).toNat = (header.toNat.testBit 23).toNat * 2 ^ 23 := by
    rw [BitVec.toNat_and]
    exact Nat.and_two_pow header.toNat 23
  rw [Ne, ← BitVec.toNat_inj, hand, Nat.testBit_eq_decide_div_mod_eq]
  simp

lemma target_of_lt {header : U32} (h : header.toNat < 2 ^ 23) :
    target header = some (Ram.cell header) := by
  rw [target, if_neg]
  rw [marker_iff]
  omega

lemma size_of_lt {header : U32} (h : header.toNat < 2 ^ 24) : size header = 0 := by
  rw [size_eq]
  omega

/-- The header of a packet of `m` words that takes the pointer of `current`
over. -/
def header (m : ℕ) (current : U32) : U32 := BitVec.ofNat 32 m <<< 24 ||| (current &&& 0xffffff)

lemma header_toNat {m : ℕ} (hm : m ≤ 255) (current : U32) :
    (header m current).toNat = 2 ^ 24 * m + current.toNat % 2 ^ 24 := by
  have hlow : (current &&& 0xffffff).toNat = current.toNat % 2 ^ 24 :=
    BitVec.toNat_and_mask current (by decide : (0xffffff : U32).toNat = 2 ^ 24 - 1)
  have hhigh : (BitVec.ofNat 32 m <<< 24).toNat = 2 ^ 24 * m := by
    rw [BitVec.toNat_shiftLeft, BitVec.toNat_ofNat, Nat.shiftLeft_eq]
    omega
  have hlt : current.toNat % 2 ^ 24 < 2 ^ 24 := Nat.mod_lt _ (by norm_num)
  rw [header, BitVec.toNat_or, hlow, hhigh, ← Nat.two_pow_add_eq_or_of_lt hlt]

lemma size_header {m : ℕ} (hm : m ≤ 255) (current : U32) : size (header m current) = m := by
  rw [size_eq, header_toNat hm]
  omega

/-- A header points where the word it was made from does. -/
lemma target_header {m : ℕ} (hm : m ≤ 255) (current : U32) :
    target (header m current) = target current := by
  have hnat := header_toNat hm current
  have hmark : header m current &&& 0x800000 ≠ 0 ↔ current &&& 0x800000 ≠ 0 := by
    rw [marker_iff, marker_iff, hnat]
    omega
  have hcell : Ram.cell (header m current) = Ram.cell current := by
    apply Fin.ext
    rw [Ram.cell, Ram.cell]
    dsimp only
    omega
  rw [target, target, hcell]
  exact if_congr hmark rfl rfl

/-! ### Slots and packets -/

/-- The address of slot `k` of the table at `base`, which wraps within the RAM
and has no low bits. -/
def slotAddr (base : U32) (k : ℕ) : U32 := (base - BitVec.ofNat 32 (4 * k)) &&& 0x1ffffc#32

def slot (base : U32) (k : ℕ) : Fin 524288 := Ram.cell (slotAddr base k)

lemma slot_eq (base : U32) (k : ℕ) :
    slot base k = Ram.cell (base - BitVec.ofNat 32 (4 * k)) := Ram.cell_dmaMask _

/-- The slots are consecutive words, going down. -/
lemma slot_val {k : ℕ} (base : U32) (hk : k ≤ 524288) :
    (slot base k).val = (base.toNat / 4 + 524288 - k) % 524288 := by
  have hsub : (base - BitVec.ofNat 32 (4 * k)).toNat
      = (2 ^ 32 - 4 * k + base.toNat) % 2 ^ 32 := by
    rw [BitVec.toNat_sub, BitVec.toNat_ofNat,
      Nat.mod_eq_of_lt (a := 4 * k) (by omega)]
  rw [slot_eq, Ram.cell]
  dsimp only
  rw [hsub]
  have := base.isLt
  omega

lemma slot_ne {base : U32} {j k : ℕ} (hj : j < 524288) (hk : k < 524288) (h : j ≠ k) :
    slot base j ≠ slot base k := by
  intro heq
  have hval := congrArg Fin.val heq
  rw [slot_val base hj.le, slot_val base hk.le] at hval
  omega

/-- A packet at an aligned address of the RAM, with at most 255 words behind its
header. -/
structure Packet where
  addr : U32
  size : ℕ
  aligned : addr.toNat % 4 = 0
  /-- the RAM is mirrored over the first 8 megabytes -/
  mapped : addr.toNat < 2 ^ 23
  bounded : size ≤ 255

namespace Packet

/-- The word with the header. -/
def cell (p : Packet) : Fin 524288 := Ram.cell p.addr

/-- The packet occupies a word of the RAM, with its header or behind it. -/
def Covers (p : Packet) (i : Fin 524288) : Prop :=
  ∃ j ≤ p.size, Ram.cell (p.addr + BitVec.ofNat 32 (4 * j)) = i

lemma covers_cell (p : Packet) : p.Covers p.cell := ⟨0, Nat.zero_le _, by simp [cell]⟩

/-- The words behind the header, in increasing address order. -/
def words (p : Packet) (ram : Ram) : List U32 :=
  (List.range p.size).map fun j => ram.word (Ram.cell (p.addr + BitVec.ofNat 32 (4 * (j + 1))))

end Packet

/-! ### Building a list -/

/-- What a program does once the table has been cleared: it links a packet into a
slot, or writes elsewhere, such as to the words of a packet. -/
inductive Op where
  | link (k : ℕ) (p : Packet)
  | write (addr val : U32)

/-- Link a packet into slot `k`. -/
def link (base : U32) (ram : Ram) (k : ℕ) (p : Packet) : Outcome Ram := do
  let current ← ram.load .word (slotAddr base k)
  let ram ← ram.store .word p.addr (header p.size current)
  ram.store .word (slotAddr base k) p.addr

def perform (base : U32) (ram : Ram) : Op → Outcome Ram
  | .link k p => link base ram k p
  | .write addr val => ram.store .word addr val

/-- All the packets, in the order in which they are linked. -/
def packets (ops : List Op) : List Packet :=
  ops.filterMap fun
    | .link _ p => some p
    | .write _ _ => none

/-- The packets of slot `k`, the most recent one first. -/
def linked (k : ℕ) (ops : List Op) : List Packet :=
  (ops.filterMap fun
    | .link j p => if j = k then some p else none
    | .write _ _ => none).reverse

/-- The packets go to slots of the table, and their memory is disjoint from the
table and from each other; the other writes leave the table and the headers
alone. -/
structure Disjoint (base : U32) (n : ℕ) (ops : List Op) : Prop where
  slots : ∀ k p, .link k p ∈ ops → k < n
  table : ∀ p ∈ packets ops, ∀ k < n, ¬p.Covers (slot base k)
  packets : (packets ops).Pairwise fun p q => ∀ i, p.Covers i → ¬q.Covers i
  writes : ∀ addr val, .write addr val ∈ ops → addr.toNat % 4 = 0
    ∧ (∀ k < n, slot base k ≠ Ram.cell addr)
    ∧ ∀ p ∈ OrderingTable.packets ops, p.cell ≠ Ram.cell addr

/-- The words of the packets in the order of the table: the packets of slot 0
first, and in a slot the most recent packet first. -/
def listed (n : ℕ) (ops : List Op) (ram : Ram) : List U32 :=
  (List.range n).flatMap fun k => (linked k ops).flatMap fun p => p.words ram

/-- The headers in the order in which the list meets them. -/
def layout (base : U32) (n : ℕ) (ops : List Op) : List (Fin 524288) :=
  (List.range n).flatMap fun k => slot base k :: (linked k ops).map Packet.cell

/-! #### Appending an operation -/

lemma packets_link (ops : List Op) (k : ℕ) (p : Packet) :
    packets (ops ++ [.link k p]) = packets ops ++ [p] := by
  simp [packets]

lemma packets_write (ops : List Op) (addr val : U32) :
    packets (ops ++ [.write addr val]) = packets ops := by
  simp [packets]

lemma linked_link (ops : List Op) (k : ℕ) (p : Packet) :
    linked k (ops ++ [.link k p]) = p :: linked k ops := by
  simp [linked]

lemma linked_link_of_ne (ops : List Op) {j k : ℕ} (p : Packet) (h : j ≠ k) :
    linked k (ops ++ [.link j p]) = linked k ops := by
  simp [linked, h]

lemma linked_write (ops : List Op) (k : ℕ) (addr val : U32) :
    linked k (ops ++ [.write addr val]) = linked k ops := by
  simp [linked]

lemma mem_packets_of_mem_linked {ops : List Op} {k : ℕ} {p : Packet} (h : p ∈ linked k ops) :
    p ∈ packets ops := by
  simp only [linked, List.mem_reverse, List.mem_filterMap] at h
  obtain ⟨op, hop, heq⟩ := h
  refine List.mem_filterMap.mpr ⟨op, hop, ?_⟩
  cases op with
  | link j q =>
      simp only [Option.ite_none_right_eq_some] at heq
      exact heq.2
  | write addr val => cases heq

lemma Disjoint.init {base : U32} {n : ℕ} {ops : List Op} {op : Op}
    (h : Disjoint base n (ops ++ [op])) : Disjoint base n ops := by
  have hmem {q : Packet} (hq : q ∈ OrderingTable.packets ops) :
      q ∈ OrderingTable.packets (ops ++ [op]) := by
    rw [OrderingTable.packets, List.filterMap_append]
    exact List.mem_append_left _ hq
  refine ⟨fun k p hp => h.slots k p (List.mem_append_left _ hp), fun p hp => h.table p (hmem hp),
    ?_, fun addr val hw => ?_⟩
  · have hpairs := h.packets
    rw [OrderingTable.packets, List.filterMap_append] at hpairs
    exact (List.pairwise_append.mp hpairs).1
  · obtain ⟨halign, htable, hheaders⟩ := h.writes addr val (List.mem_append_left _ hw)
    exact ⟨halign, htable, fun p hp => hheaders p (hmem hp)⟩

/-- A header of the list is a slot or belongs to a packet. -/
lemma mem_layout {base : U32} {n : ℕ} {ops : List Op} {x : Fin 524288}
    (h : x ∈ layout base n ops) :
    (∃ k < n, x = slot base k) ∨ ∃ p ∈ packets ops, x = p.cell := by
  obtain ⟨k, hk, hx⟩ := List.mem_flatMap.mp h
  rcases List.mem_cons.mp hx with rfl | hx
  · exact .inl ⟨k, List.mem_range.mp hk, rfl⟩
  · obtain ⟨p, hp, rfl⟩ := List.mem_map.mp hx
    exact .inr ⟨p, mem_packets_of_mem_linked hp, rfl⟩

/-- Linking a packet puts its header behind its slot; the headers on both sides
are other slots and other packets. -/
lemma layout_link (base : U32) {n k : ℕ} (hk : k < n) (ops : List Op) (p : Packet) :
    ∃ pre post, layout base n ops = pre ++ slot base k :: post
      ∧ layout base n (ops ++ [.link k p]) = pre ++ slot base k :: p.cell :: post
      ∧ ∀ x ∈ pre ++ post, (∃ j < n, j ≠ k ∧ x = slot base j) ∨ ∃ q ∈ packets ops, x = q.cell := by
  let block := fun ops j => slot base j :: (linked j ops).map Packet.cell
  have hrange : List.range n = List.range k ++ k :: List.range' (k + 1) (n - k - 1) := by
    rw [List.range_eq_range', List.range_eq_range', ← List.range'_succ,
      show n - k - 1 + 1 = n - k by omega]
    have happ : List.range' 0 k ++ List.range' (0 + 1 * k) (n - k) = List.range' 0 (k + (n - k)) :=
      List.range'_append
    rw [Nat.one_mul, Nat.zero_add, Nat.add_sub_cancel' hk.le] at happ
    exact happ.symm
  have hsame {l : List ℕ} (hl : ∀ j ∈ l, j ≠ k) :
      l.flatMap (block (ops ++ [.link k p])) = l.flatMap (block ops) := by
    refine List.flatMap_congr fun j hj => ?_
    simp only [block]
    rw [linked_link_of_ne ops p (hl j hj).symm]
  have hlow : ∀ j ∈ List.range k, j ≠ k := fun j hj => (List.mem_range.mp hj).ne
  have hhigh : ∀ j ∈ List.range' (k + 1) (n - k - 1), j ≠ k ∧ j < n := fun j hj => by
    have := List.mem_range'_1.mp hj
    omega
  refine ⟨(List.range k).flatMap (block ops),
    (linked k ops).map Packet.cell ++ (List.range' (k + 1) (n - k - 1)).flatMap (block ops),
    ?_, ?_, fun x hx => ?_⟩
  · rw [layout, hrange, List.flatMap_append, List.flatMap_cons]
    rfl
  · rw [layout, hrange, List.flatMap_append, List.flatMap_cons]
    change (List.range k).flatMap (block (ops ++ [.link k p])) ++ (block (ops ++ [.link k p]) k
      ++ (List.range' (k + 1) (n - k - 1)).flatMap (block (ops ++ [.link k p]))) = _
    rw [hsame hlow, hsame fun j hj => (hhigh j hj).1]
    simp only [block, linked_link]
    rfl
  · have hblock {l : List ℕ} (hl : ∀ j ∈ l, j ≠ k ∧ j < n) (hx : x ∈ l.flatMap (block ops)) :
        (∃ j < n, j ≠ k ∧ x = slot base j) ∨ ∃ q ∈ packets ops, x = q.cell := by
      obtain ⟨j, hj, hx⟩ := List.mem_flatMap.mp hx
      rcases List.mem_cons.mp hx with rfl | hx
      · exact .inl ⟨j, (hl j hj).2, (hl j hj).1, rfl⟩
      · obtain ⟨q, hq, rfl⟩ := List.mem_map.mp hx
        exact .inr ⟨q, mem_packets_of_mem_linked hq, rfl⟩
    rcases List.mem_append.mp hx with hx | hx
    · exact hblock (fun j hj => ⟨hlow j hj, (List.mem_range.mp hj).trans hk⟩) hx
    · rcases List.mem_append.mp hx with hx | hx
      · obtain ⟨q, hq, rfl⟩ := List.mem_map.mp hx
        exact .inr ⟨q, mem_packets_of_mem_linked hq, rfl⟩
      · exact hblock hhigh hx

/-! #### The invariant -/

/-- The headers form the list `layout`, and each of them knows its size. -/
structure Built (base : U32) (n : ℕ) (ops : List Op) (ram : Ram) : Prop where
  chain : Chain (next ram) (layout base n ops)
  slots : ∀ k < n, size (ram.word (slot base k)) = 0
  headers : ∀ p ∈ packets ops, size (ram.word p.cell) = p.size

lemma slotAddr_aligned (base : U32) (k : ℕ) : (slotAddr base k).toNat % 4 = 0 :=
  Ram.dmaMask_aligned _

/-- What linking a packet writes. -/
lemma link_eq (base : U32) (ram : Ram) (k : ℕ) (p : Packet) :
    ∃ ram' : Ram, link base ram k p = .ok ram'
      ∧ ram'.word = Function.update
          (Function.update ram.word p.cell (header p.size (ram.word (slot base k))))
          (slot base k) p.addr := by
  obtain ⟨ram₁, h₁, hw₁⟩ :=
    ram.store_aligned p.aligned (header p.size (ram.word (slot base k)))
  obtain ⟨ram₂, h₂, hw₂⟩ := ram₁.store_aligned (slotAddr_aligned base k) p.addr
  refine ⟨ram₂, ?_, ?_⟩
  · rw [link, ram.load_aligned (slotAddr_aligned base k), ok_bind]
    change (ram.store .word p.addr (header p.size (ram.word (slot base k))) >>= _) = _
    rw [h₁, ok_bind, h₂]
  · rw [hw₂, hw₁]
    rfl

lemma Built.link {base : U32} {n k : ℕ} {ops : List Op} {p : Packet} {ram : Ram}
    (h : Built base n ops ram) (hn : n ≤ 524288) (hd : Disjoint base n (ops ++ [.link k p])) :
    ∃ ram', perform base ram (.link k p) = .ok ram' ∧ Built base n (ops ++ [.link k p]) ram' := by
  have hk : k < n := hd.slots k p (List.mem_append_right _ List.mem_cons_self)
  have hpmem : p ∈ packets (ops ++ [.link k p]) := by
    rw [packets_link]
    exact List.mem_append_right _ List.mem_cons_self
  have hslot : ∀ j < n, slot base j ≠ p.cell := fun j hj heq =>
    hd.table p hpmem j hj (heq ▸ p.covers_cell)
  have hother : ∀ q ∈ packets ops, q.cell ≠ p.cell := fun q hq heq => by
    have hpairs := hd.packets
    rw [packets_link] at hpairs
    have hqp := (List.pairwise_append.mp hpairs).2.2 q hq p List.mem_cons_self
    exact hqp q.cell q.covers_cell (heq ▸ p.covers_cell)
  have hheader : ∀ q ∈ packets ops, q.cell ≠ slot base k := fun q hq heq =>
    hd.init.table q hq k hk (heq ▸ q.covers_cell)
  obtain ⟨ram', hram', hword⟩ := link_eq base ram k p
  -- the three kinds of words after the two stores
  have hwslot : ram'.word (slot base k) = p.addr := by rw [hword, Function.update_self]
  have hwp : ram'.word p.cell = header p.size (ram.word (slot base k)) := by
    rw [hword, Function.update_of_ne (hslot k hk).symm, Function.update_self]
  have hwother {x : Fin 524288} (hxk : x ≠ slot base k) (hxp : x ≠ p.cell) :
      ram'.word x = ram.word x := by
    rw [hword, Function.update_of_ne hxk, Function.update_of_ne hxp]
  refine ⟨ram', hram', ?_, fun j hj => ?_, fun q hq => ?_⟩
  · obtain ⟨pre, post, hold, hnew, hsides⟩ := layout_link base hk ops p
    rw [hnew]
    have hchain := h.chain
    rw [hold] at hchain
    refine hchain.insert ?_ ?_ fun x hx => ?_
    · rw [next, hwslot]
      exact target_of_lt p.mapped
    · rw [next, hwp, target_header p.bounded, next]
    · rw [next, next]
      rcases hsides x hx with ⟨j, hj, hjk, rfl⟩ | ⟨q, hq, rfl⟩
      · rw [hwother (slot_ne (by omega) (by omega) hjk) (hslot j hj)]
      · rw [hwother (hheader q hq) (hother q hq)]
  · by_cases hjk : j = k
    · subst hjk
      rw [hwslot]
      exact size_of_lt (p.mapped.trans (by norm_num))
    · rw [hwother (slot_ne (by omega) (by omega) hjk) (hslot j hj)]
      exact h.slots j hj
  · rw [packets_link] at hq
    rcases List.mem_append.mp hq with hq | hq
    · rw [hwother (hheader q hq) (hother q hq)]
      exact h.headers q hq
    · obtain rfl := List.mem_singleton.mp hq
      rw [hwp, size_header q.bounded]

lemma Built.write {base : U32} {n : ℕ} {ops : List Op} {addr val : U32} {ram : Ram}
    (h : Built base n ops ram) (hd : Disjoint base n (ops ++ [.write addr val])) :
    ∃ ram', perform base ram (.write addr val) = .ok ram'
      ∧ Built base n (ops ++ [.write addr val]) ram' := by
  obtain ⟨halign, htable, hheaders⟩ :=
    hd.writes addr val (List.mem_append_right _ List.mem_cons_self)
  rw [packets_write] at hheaders
  obtain ⟨ram', hram', hword⟩ := ram.store_aligned halign val
  have hslot {k : ℕ} (hk : k < n) : ram'.word (slot base k) = ram.word (slot base k) := by
    rw [hword, Function.update_of_ne (htable k hk)]
  have hpacket {p : Packet} (hp : p ∈ packets ops) : ram'.word p.cell = ram.word p.cell := by
    rw [hword, Function.update_of_ne (hheaders p hp)]
  have hlayout : layout base n (ops ++ [.write addr val]) = layout base n ops := by
    simp only [layout, linked_write]
  refine ⟨ram', hram', ?_, fun k hk => ?_, fun p hp => ?_⟩
  · rw [hlayout]
    refine h.chain.congr fun x hx => ?_
    rw [next, next]
    rcases mem_layout hx with ⟨k, hk, rfl⟩ | ⟨p, hp, rfl⟩
    · rw [hslot hk]
    · rw [hpacket hp]
  · rw [hslot hk]
    exact h.slots k hk
  · rw [packets_write] at hp
    rw [hpacket hp]
    exact h.headers p hp

/-- The step lemma: every operation of the program keeps the list. -/
lemma Built.perform {base : U32} {n : ℕ} {ops : List Op} {op : Op} {ram : Ram}
    (h : Built base n ops ram) (hn : n ≤ 524288) (hd : Disjoint base n (ops ++ [op])) :
    ∃ ram', perform base ram op = .ok ram' ∧ Built base n (ops ++ [op]) ram' := by
  cases op with
  | link k p => exact h.link hn hd
  | write addr val => exact h.write hd

/-- The run lemma: a program that starts from a cleared table builds its list. -/
lemma Built.build {base : U32} {n : ℕ} {ram : Ram} (h : Built base n [] ram) (hn : n ≤ 524288)
    (ops : List Op) (hd : Disjoint base n ops) :
    ∃ ram', ops.foldlM (OrderingTable.perform base) ram = .ok ram' ∧ Built base n ops ram' := by
  induction ops using List.reverseRecOn with
  | nil => exact ⟨ram, rfl, h⟩
  | append_singleton ops op ih =>
      obtain ⟨ram₁, h₁, hb₁⟩ := ih hd.init
      obtain ⟨ram₂, h₂, hb₂⟩ := hb₁.perform hn hd
      refine ⟨ram₂, ?_, hb₂⟩
      rw [List.foldlM_append, h₁, ok_bind, List.foldlM_cons, h₂, ok_bind, List.foldlM_nil,
        pure_eq_ok]

/-- The list has a header for each slot and one for each packet. -/
lemma layout_length {base : U32} {n : ℕ} (ops : List Op) (hd : Disjoint base n ops) :
    (layout base n ops).length = n + (packets ops).length := by
  induction ops using List.reverseRecOn with
  | nil => simp [layout, linked, packets]
  | append_singleton ops op ih =>
      cases op with
      | link k p =>
          have hk : k < n := hd.slots k p (List.mem_append_right _ List.mem_cons_self)
          obtain ⟨pre, post, hold, hnew, -⟩ := layout_link base hk ops p
          have hlen := ih hd.init
          rw [hold] at hlen
          rw [hnew, packets_link]
          simp only [List.length_append, List.length_cons, List.length_nil] at hlen ⊢
          omega
      | write addr val =>
          rw [packets_write, ← ih hd.init]
          simp only [layout, linked_write]

/-! ### Clearing a table -/

variable {I : CdImage}

lemma cell_ramMask (addr : U32) : Ram.cell (addr &&& 0x1fffff) = Ram.cell addr := by
  apply Fin.ext
  have hmask : (addr &&& 0x1fffff).toNat = addr.toNat % 2 ^ 21 :=
    BitVec.toNat_and_mask addr (by decide : (0x1fffff : U32).toNat = 2 ^ 21 - 1)
  rw [Ram.cell, Ram.cell]
  dsimp only
  omega

/-- The word the OTC channel writes to slot `k` of a table of `n` slots. -/
def cleared (base : U32) (n k : ℕ) : U32 :=
  if k + 1 = n then 0xffffff else (base - BitVec.ofNat 32 (4 * k) - 4) &&& 0x1fffff

lemma slot_succ (base : U32) (k : ℕ) : slot (base + -4) k = slot base (k + 1) := by
  have haddr : base + -4 - BitVec.ofNat 32 (4 * k) = base - BitVec.ofNat 32 (4 * (k + 1)) := by
    bv_omega
  rw [slot_eq, slot_eq, haddr]

lemma cleared_succ (base : U32) (n k : ℕ) :
    cleared (base + -4) n k = cleared base (n + 1) (k + 1) := by
  have haddr : base + -4 - BitVec.ofNat 32 (4 * k) = base - BitVec.ofNat 32 (4 * (k + 1)) := by
    bv_omega
  rw [cleared, cleared, haddr]
  simp only [Nat.add_right_cancel_iff]

/-- One round of the OTC channel. -/
lemma transferWord_otc (bus : Bus I) (addr : U32) (n : ℕ) :
    ∃ ram', bus.transferWord .otc .toRam addr n = .ok { bus with ram := ram' }
      ∧ ram'.word = Function.update bus.ram.word (slot addr 0) (cleared addr n 0) := by
  obtain ⟨ram', hram', hword⟩ := bus.ram.store_aligned (Ram.dmaMask_aligned addr)
    (if n = 1 then 0xffffff else (addr - 4) &&& 0x1fffff)
  refine ⟨ram', ?_, ?_⟩
  · rw [Bus.transferWord, Bus.receiveWord, pure_eq_ok]
    change (bus.ram.store .word (addr &&& 0x1ffffc#32) _ >>= _) = _
    rw [hram', ok_bind, pure_eq_ok]
  · rw [hword, slot_eq, cleared]
    simp [eq_comm]

/-- The loop of the OTC channel clears the slots of the table and leaves the rest
of the RAM alone. -/
lemma clear_loop {n : ℕ} (hn : n ≤ 524288) (addr : U32) (bus : Bus I) (sh : SharedState) :
    ∃ ram' sh', Bus.blockLoop .otc .toRam (-4) n addr bus sh = .ok ({ bus with ram := ram' }, sh')
      ∧ ∀ k < n, ram'.word (slot addr k) = cleared addr n k := by
  -- the words outside of the table are part of the induction
  suffices h : ∃ ram' sh',
      Bus.blockLoop .otc .toRam (-4) n addr bus sh = .ok ({ bus with ram := ram' }, sh')
      ∧ (∀ k < n, ram'.word (slot addr k) = cleared addr n k)
      ∧ ∀ i, (∀ k < n, slot addr k ≠ i) → ram'.word i = bus.ram.word i by
    obtain ⟨ram', sh', hloop, hslots, -⟩ := h
    exact ⟨ram', sh', hloop, hslots⟩
  induction n generalizing addr bus sh with
  | zero => exact ⟨bus.ram, sh, rfl, fun k hk => absurd hk (Nat.not_lt_zero k), fun _ _ => rfl⟩
  | succ n ih =>
      obtain ⟨ram₁, h₁, hw₁⟩ := transferWord_otc bus addr (n + 1)
      obtain ⟨ram₂, sh₂, h₂, hslots, hrest⟩ :=
        ih (by omega) (addr + -4) { bus with ram := ram₁ } (sh.tick 1)
      refine ⟨ram₂, sh₂, ?_, fun k hk => ?_, fun i hi => ?_⟩
      · rw [Bus.blockLoop, h₁, ok_bind, h₂]
      · cases k with
        | zero =>
            have hne : ∀ j < n, slot (addr + -4) j ≠ slot addr 0 := fun j hj => by
              rw [slot_succ]
              exact slot_ne (by omega) (by omega) (Nat.succ_ne_zero j)
            rw [hrest _ hne]
            change ram₁.word (slot addr 0) = _
            rw [hw₁, Function.update_self]
        | succ k => rw [← slot_succ, hslots k (by omega), cleared_succ]
      · have hne : ∀ j < n, slot (addr + -4) j ≠ i := fun j hj => by
          rw [slot_succ]
          exact hi (j + 1) (by omega)
        rw [hrest i hne]
        change ram₁.word i = _
        rw [hw₁, Function.update_of_ne (hi 0 (by omega)).symm]

/-- A cleared table is a list without packets. -/
lemma built_of_cleared {base : U32} {n : ℕ} (hpos : 1 ≤ n) {ram : Ram}
    (h : ∀ k < n, ram.word (slot base k) = cleared base n k) : Built base n [] ram := by
  have hlayout : layout base n [] = (List.range n).map (slot base) := by
    simp [layout, linked, List.map_eq_flatMap]
  have hlow (k : ℕ) : ((base - BitVec.ofNat 32 (4 * k) - 4) &&& 0x1fffff).toNat < 2 ^ 21 := by
    rw [BitVec.toNat_and_mask _ (by decide : (0x1fffff : U32).toNat = 2 ^ 21 - 1)]
    exact Nat.mod_lt _ (by norm_num)
  refine ⟨?_, fun k hk => ?_, nofun⟩
  · rw [hlayout]
    refine chain_map_range hpos (fun k hk => ?_) ?_
    · have haddr : base - BitVec.ofNat 32 (4 * k) - 4 = base - BitVec.ofNat 32 (4 * (k + 1)) := by
        bv_omega
      rw [next, h k (by omega), cleared, if_neg (by omega),
        target_of_lt ((hlow k).trans (by norm_num)), cell_ramMask, haddr, slot_eq]
    · rw [next, h (n - 1) (by omega), cleared, if_pos (by omega)]
      decide
  · rw [h k hk, cleared]
    split
    · decide
    · exact size_of_lt ((hlow k).trans (by norm_num))

/-! ### Sending a list -/

/-- The word `j` words behind another one. -/
def behind (i : Fin 524288) (j : ℕ) : Fin 524288 :=
  ⟨(i.val + j) % 524288, Nat.mod_lt _ (by norm_num)⟩

lemma cell_add (addr : U32) (j : ℕ) :
    Ram.cell (addr + BitVec.ofNat 32 (4 * j)) = behind (Ram.cell addr) j := by
  apply Fin.ext
  rw [behind, Ram.cell, Ram.cell]
  dsimp only
  rw [BitVec.toNat_add, BitVec.toNat_ofNat]
  omega

lemma behind_behind (i : Fin 524288) (j k : ℕ) : behind (behind i j) k = behind i (j + k) := by
  apply Fin.ext
  rw [behind, behind, behind]
  dsimp only
  omega

/-- The words behind a header. -/
def wordsBehind (ram : Ram) (i : Fin 524288) (m : ℕ) : List U32 :=
  (List.range m).map fun j => ram.word (behind i (j + 1))

lemma wordsBehind_succ (ram : Ram) (i : Fin 524288) (m : ℕ) :
    wordsBehind ram i (m + 1) = ram.word (behind i 1) :: wordsBehind ram (behind i 1) m := by
  rw [wordsBehind, List.range_succ_eq_map, List.map_cons, List.map_map, wordsBehind]
  refine congrArg _ (List.map_congr_left fun j _ => ?_)
  rw [behind_behind, Function.comp_apply, Nat.add_comm 1 (j + 1)]

lemma gp0_ram {bus bus' : Bus I} {word : U32} (h : bus.gp0 word = .ok bus') :
    bus'.ram = bus.ram := by
  obtain ⟨r, -, h⟩ := bind_eq_ok.mp h
  cases h
  rfl

lemma foldlM_gp0_ram {words : List U32} {bus bus' : Bus I}
    (h : words.foldlM Bus.gp0 bus = .ok bus') : bus'.ram = bus.ram := by
  induction words generalizing bus with
  | nil =>
      cases h
      rfl
  | cons word words ih =>
      rw [List.foldlM_cons] at h
      obtain ⟨bus₁, h₁, h⟩ := bind_eq_ok.mp h
      exact (ih h).trans (gp0_ram h₁)

/-- The words of a packet are sent in order. -/
lemma sendPacket_eq (ram : Ram) (m : ℕ) (addr : U32) :
    ∃ last, ∀ bus : Bus I, bus.ram = ram → Bus.sendPacket m addr bus = (do
      let bus ← (wordsBehind ram (Ram.cell addr) m).foldlM Bus.gp0 bus
      pure (last, bus)) := by
  induction m generalizing addr with
  | zero => exact ⟨addr, fun bus _ => rfl⟩
  | succ m ih =>
      obtain ⟨last, hlast⟩ := ih ((addr + 4) &&& 0x1ffffc#32)
      refine ⟨last, fun bus hbus => ?_⟩
      have hcell : Ram.cell ((addr + 4) &&& 0x1ffffc#32) = behind (Ram.cell addr) 1 := by
        rw [Ram.cell_dmaMask]
        exact cell_add addr 1
      rw [Bus.sendPacket, hbus, ram.load_aligned (Ram.dmaMask_aligned _), ok_bind, hcell,
        wordsBehind_succ,
        List.foldlM_cons, bind_assoc]
      refine bind_congr_ok fun bus₁ h₁ => ?_
      rw [hlast bus₁ ((gp0_ram h₁).trans hbus), hcell]

/-- The DMA follows a chain of headers to its end, and sends the words behind
each of them. -/
lemma linkedListLoop_chain {ram : Ram} {l : List (Fin 524288)} (hl : Chain (next ram) l)
    {fuel : ℕ} (hfuel : l.length ≤ fuel) {addr : U32} (halign : addr.toNat % 4 = 0)
    (hhead : l.head? = some (Ram.cell addr)) {bus : Bus I} (hbus : bus.ram = ram) :
    Bus.linkedListLoop fuel addr bus
      = (l.flatMap fun i => wordsBehind ram i (size (ram.word i))).foldlM Bus.gp0 bus := by
  induction hl generalizing fuel addr bus with
  | last hend =>
      rename_i a
      obtain rfl : a = Ram.cell addr := Option.some.inj hhead
      obtain ⟨fuel, rfl⟩ : ∃ f, fuel = f + 1 :=
        ⟨fuel - 1, by rw [List.length_singleton] at hfuel; omega⟩
      obtain ⟨last, hsend⟩ := sendPacket_eq (I := I) ram (size (ram.word (Ram.cell addr))) addr
      have hmark : ram.word (Ram.cell addr) &&& 0x800000 ≠ 0 := by
        intro hmark
        rw [next, target, if_neg (not_not.mpr hmark)] at hend
        cases hend
      rw [Bus.linkedListLoop, hbus, ram.load_aligned halign, ok_bind]
      change (Bus.sendPacket (size (ram.word (Ram.cell addr))) addr bus >>= _) = _
      rw [hsend bus hbus, bind_assoc, List.flatMap_singleton]
      simp only [pure_bind, if_pos hmark, bind_pure]
  | cons hnext htail ih =>
      rename_i a b l
      obtain rfl : a = Ram.cell addr := Option.some.inj hhead
      obtain ⟨fuel, rfl⟩ : ∃ f, fuel = f + 1 := ⟨fuel - 1, by rw [List.length_cons] at hfuel; omega⟩
      obtain ⟨last, hsend⟩ := sendPacket_eq (I := I) ram (size (ram.word (Ram.cell addr))) addr
      have hmark : ¬ram.word (Ram.cell addr) &&& 0x800000 ≠ 0 := by
        intro hmark
        rw [next, target, if_pos hmark] at hnext
        cases hnext
      have hb : Ram.cell (ram.word (Ram.cell addr)) = b := by
        rw [next, target, if_neg hmark] at hnext
        exact Option.some.inj hnext
      rw [Bus.linkedListLoop, hbus, ram.load_aligned halign, ok_bind]
      change (Bus.sendPacket (size (ram.word (Ram.cell addr))) addr bus >>= _) = _
      rw [hsend bus hbus, bind_assoc, List.flatMap_cons, List.foldlM_append]
      refine bind_congr_ok fun bus₁ h₁ => ?_
      simp only [pure_bind, if_neg hmark]
      refine ih (by rw [List.length_cons] at hfuel; omega) (Ram.dmaMask_aligned _) ?_
        ((foldlM_gp0_ram h₁).trans hbus)
      rw [Ram.cell_dmaMask, hb, List.head?_cons]

/-- The words behind the headers are the words of the packets. -/
lemma Built.words {base : U32} {n : ℕ} {ops : List Op} {ram : Ram} (h : Built base n ops ram) :
    ((layout base n ops).flatMap fun i => wordsBehind ram i (size (ram.word i)))
      = listed n ops ram := by
  rw [layout, listed, List.flatMap_assoc]
  refine List.flatMap_congr fun k hk => ?_
  rw [List.flatMap_cons, h.slots k (List.mem_range.mp hk)]
  change [] ++ _ = _
  rw [List.nil_append, List.flatMap_map]
  refine List.flatMap_congr fun p hp => ?_
  rw [h.headers p (mem_packets_of_mem_linked hp), Packet.words, wordsBehind]
  refine List.map_congr_left fun j _ => ?_
  rw [cell_add, Packet.cell]

/-- **Ordering tables.**  The OTC channel clears a table of `n` slots; a program
links packets into it, in any order; then the linked list DMA that starts at the
base of the table ends and sends to the GPU the words of the packets of slot 0
first, up to the last slot, and in a slot those of the most recent packet first. -/
theorem ordering_table {bus : Bus I} {base n : U32}
    (hbase : (bus.dma.channel .otc).base = base)
    (hdirection : (bus.dma.channel .otc).direction = .toRam)
    (hstep : (bus.dma.channel .otc).step = .decrement)
    (hsize : (bus.dma.channel .otc).transferSize = some n)
    (hpos : 1 ≤ n.toNat) (hn : n.toNat ≤ 0x80000) {ops : List Op}
    (hops : Disjoint base n.toNat ops) (sh : SharedState) :
    ∃ bus₁ sh₁ ram₂, bus.doDmaBlock sh .otc = .ok (bus₁, sh₁)
      ∧ ops.foldlM (perform base) bus₁.ram = .ok ram₂
      ∧ ∀ bus₂ : Bus I, bus₂.ram = ram₂ → (bus₂.dma.channel .gpu).base = base →
        (bus₂.dma.channel .gpu).direction = .fromRam →
        ∀ fuel ≥ n.toNat + (packets ops).length,
          bus₂.doDmaLinkedList fuel .gpu = (listed n.toNat ops ram₂).foldlM Bus.gp0 bus₂ := by
  obtain ⟨ram₁, sh₁, hloop, hslots⟩ := clear_loop (n := n.toNat) hn base bus sh
  obtain ⟨ram₂, hbuild, hbuilt⟩ := (built_of_cleared hpos hslots).build hn ops hops
  refine ⟨{ bus with ram := ram₁ }, sh₁, ram₂, ?_, hbuild,
    fun bus₂ hram hgpu hfrom fuel hfuel => ?_⟩
  · rw [Bus.doDmaBlock]
    simp only [hstep, hsize, hdirection, hbase]
    exact hloop
  · rw [Bus.doDmaLinkedList]
    simp only [hgpu, hfrom]
    rw [if_neg nofun, if_neg (by simp)]
    have hhead : (layout base n.toNat ops).head? = some (Ram.cell (base &&& 0x1ffffc#32)) := by
      obtain ⟨m, hm⟩ : ∃ m, n.toNat = m + 1 := ⟨n.toNat - 1, by omega⟩
      rw [layout, hm, List.range_succ_eq_map, List.flatMap_cons, List.cons_append, List.head?_cons,
        slot_eq]
      simp
    rw [← hbuilt.words]
    exact linkedListLoop_chain hbuilt.chain (by rw [layout_length ops hops]; exact hfuel)
      (Ram.dmaMask_aligned base) hhead hram

/-- The bus at power-on with an empty drive, the OTC channel set up for a table of
two slots at `0x100`. -/
def twoSlots : Bus noImage where
  ram := Ram.new
  dma := Dma.new.setChannel .otc
    { Dma.Channel.new with step := .decrement, base := 0x100, blockSize := 2 }
  gpu := .new .ntsc
  mdec := .new
  cdRom := .new none
  calls := []

/-- A draw mode command of one word. -/
def drawModePacket : Packet := ⟨0x200, 1, by decide, by decide, by decide⟩

lemma drawModePacket_covers {i : Fin 524288} (h : drawModePacket.Covers i) :
    i = 128 ∨ i = 129 := by
  obtain ⟨j, hj, rfl⟩ := h
  have hle : j ≤ 1 := hj
  interval_cases j <;> decide

lemma disjoint_drawMode :
    Disjoint 0x100 2 [.link 1 drawModePacket, .write 0x204 0xe1000000] := by
  have hslots : ∀ k < 2, slot 0x100 k ≠ 128 ∧ slot 0x100 k ≠ 129 := by decide
  refine ⟨fun k p hp => ?_, fun p hp k hk hcovers => ?_, ?_, fun addr val hw => ?_⟩
  · simp only [List.mem_cons, Op.link.injEq, reduceCtorEq, List.not_mem_nil, or_false] at hp
    omega
  · simp only [packets, List.filterMap_cons, List.filterMap_nil, List.mem_singleton] at hp
    subst hp
    rcases drawModePacket_covers hcovers with h | h
    · exact (hslots k hk).1 h
    · exact (hslots k hk).2 h
  · simp [packets]
  · simp only [List.mem_cons, Op.write.injEq, reduceCtorEq, List.not_mem_nil, or_false,
      false_or] at hw
    obtain ⟨rfl, rfl⟩ := hw
    refine ⟨by decide, fun k hk h => (hslots k hk).2 (h.trans (by decide)), fun p hp => ?_⟩
    simp only [packets, List.filterMap_cons, List.filterMap_nil, List.mem_singleton] at hp
    subst hp
    decide

theorem ordering_table_draw_mode :
    ∃ bus₁ sh₁ ram₂, twoSlots.doDmaBlock .new .otc = .ok (bus₁, sh₁)
      ∧ [Op.link 1 drawModePacket, .write 0x204 0xe1000000].foldlM (perform 0x100) bus₁.ram = .ok ram₂
      ∧ ∀ bus₂ : Bus noImage, bus₂.ram = ram₂ → (bus₂.dma.channel .gpu).base = 0x100 →
        (bus₂.dma.channel .gpu).direction = .fromRam → ∀ fuel ≥ 3,
          bus₂.doDmaLinkedList fuel .gpu
            = (listed 2 [.link 1 drawModePacket, .write 0x204 0xe1000000] ram₂).foldlM Bus.gp0
                bus₂ := by
  have hbase : (twoSlots.dma.channel .otc).base = 0x100 := rfl
  have hsize : (twoSlots.dma.channel .otc).transferSize = some 2 := rfl
  exact ordering_table hbase rfl rfl hsize (by decide) (by decide) disjoint_drawMode .new

end OrderingTable

end Rustation
