import Rustation.Memory.OrderingTable

/-!
Linked list transfers of an arbitrary RAM.

The loop follows the pointers in the headers, which the program has written, and looks at nothing
else to decide when to stop.

* `Returns`: the transfer comes to an end, for some bound on the number of headers;
* `chain_of_linkedListLoop`: a transfer that comes to an end has followed a chain of headers;
* `linkedList_returns_iff`: it does exactly when the pointers lead to an end marker and the GPU
  takes the words on the way;
* `hangs_of_cycle`: a list that comes back to one of its headers is never left.
-/

namespace Rustation

open Fallible

namespace OrderingTable

variable {I : CdImage}

/-- The transfer returns. -/
def Returns (bus : Bus I) : Prop := ∃ fuel bus', bus.doDmaLinkedList fuel .gpu = .ok bus'

/-- The first header of the list of the GPU channel. -/
def first (bus : Bus I) : Fin 524288 := Ram.cell (bus.dma.channel .gpu).base

/-- The words behind the headers of a list, in order. -/
def listWords (ram : Ram) (l : List (Fin 524288)) : List U32 :=
  l.flatMap fun i => wordsBehind ram i (size (ram.word i))

lemma doDmaLinkedList_eq {bus : Bus I} (hfrom : (bus.dma.channel .gpu).direction = .fromRam)
    (fuel : ℕ) :
    bus.doDmaLinkedList fuel .gpu
      = Bus.linkedListLoop fuel ((bus.dma.channel .gpu).base &&& 0x1ffffc#32) bus := by
  rw [Bus.doDmaLinkedList]
  simp only [hfrom]
  rw [if_neg (by simp), if_neg (by simp)]

/-- The loop ends at the end of a chain of headers, and has sent the words behind them. -/
lemma chain_of_linkedListLoop {ram : Ram} {fuel : ℕ} {addr : U32} (halign : addr.toNat % 4 = 0)
    {bus bus' : Bus I} (hbus : bus.ram = ram) (h : Bus.linkedListLoop fuel addr bus = .ok bus') :
    ∃ l, Chain (next ram) (Ram.cell addr :: l)
      ∧ (listWords ram (Ram.cell addr :: l)).foldlM Bus.gp0 bus = .ok bus' := by
  induction fuel generalizing addr bus with
  | zero => cases h
  | succ fuel ih =>
      obtain ⟨last, hsend⟩ := sendPacket_eq (I := I) ram (size (ram.word (Ram.cell addr))) addr
      rw [Bus.linkedListLoop, hbus, ram.load_aligned halign, ok_bind] at h
      change (Bus.sendPacket (size (ram.word (Ram.cell addr))) addr bus >>= _) = _ at h
      rw [hsend bus hbus, bind_assoc] at h
      obtain ⟨bus₁, h₁, h⟩ := bind_eq_ok.mp h
      simp only [pure_bind] at h
      by_cases hmark : ram.word (Ram.cell addr) &&& 0x800000 ≠ 0
      · rw [if_pos hmark] at h
        obtain rfl := Except.ok.inj h
        refine ⟨[], .last ?_, ?_⟩
        · rw [next, target, if_pos hmark]
        · rw [listWords, List.flatMap_singleton]
          exact h₁
      · rw [if_neg hmark] at h
        obtain ⟨l, hl, hwords⟩ :=
          ih (Ram.dmaMask_aligned _) ((foldlM_gp0_ram h₁).trans hbus) h
        rw [Ram.cell_dmaMask] at hl hwords
        refine ⟨Ram.cell (ram.word (Ram.cell addr)) :: l, .cons ?_ hl, ?_⟩
        · rw [next, target, if_neg hmark]
        · rw [listWords, List.flatMap_cons, List.foldlM_append, h₁, ok_bind]
          exact hwords

/-- **Linked list transfers end with the list.**  A transfer returns exactly when following the
headers leads to an end marker and the GPU takes the words behind them. -/
theorem linkedList_returns_iff {bus : Bus I}
    (hfrom : (bus.dma.channel .gpu).direction = .fromRam) :
    Returns bus ↔ ∃ l bus', Chain (next bus.ram) (first bus :: l)
      ∧ (listWords bus.ram (first bus :: l)).foldlM Bus.gp0 bus = .ok bus' := by
  have hfirst : Ram.cell ((bus.dma.channel .gpu).base &&& 0x1ffffc#32) = first bus :=
    Ram.cell_dmaMask _
  constructor
  · rintro ⟨fuel, bus', h⟩
    rw [doDmaLinkedList_eq hfrom] at h
    obtain ⟨l, hl, hwords⟩ := chain_of_linkedListLoop (Ram.dmaMask_aligned _) rfl h
    rw [hfirst] at hl hwords
    exact ⟨l, bus', hl, hwords⟩
  · rintro ⟨l, bus', hl, hwords⟩
    refine ⟨(first bus :: l).length, bus', ?_⟩
    rw [doDmaLinkedList_eq hfrom,
      linkedListLoop_chain hl le_rfl (Ram.dmaMask_aligned _) (by rw [hfirst, List.head?_cons]) rfl]
    exact hwords

/-- A list that comes back to one of its headers hangs the transfer. -/
lemma hangs_of_cycle {bus : Bus I} (hfrom : (bus.dma.channel .gpu).direction = .fromRam)
    {i : Fin 524288}
    (hreach : Relation.ReflTransGen (fun a b => next bus.ram a = some b) (first bus) i)
    (hcycle : Relation.TransGen (fun a b => next bus.ram a = some b) i i) : ¬ Returns bus := by
  rintro ⟨fuel, bus', h⟩
  rw [doDmaLinkedList_eq hfrom] at h
  obtain ⟨l, hl, -⟩ := chain_of_linkedListLoop (Ram.dmaMask_aligned _) rfl h
  rw [Ram.cell_dmaMask] at hl
  exact hl.not_cyclic hreach hcycle

/-- The bus at power-on with an empty drive, the GPU channel set up for a list at address 0 of the
given RAM. -/
def listAtZero (ram : Ram) : Bus noImage where
  ram := ram
  dma := Dma.new.setChannel .gpu { Dma.Channel.new with direction := .fromRam }
  gpu := .new .ntsc
  mdec := .new
  cdRom := .new none
  calls := []

theorem linkedList_returns_marker : Returns (listAtZero fun k => if k.val = 2 then 0x80 else 0) :=
  (linkedList_returns_iff rfl).mpr ⟨[], _, .last (by decide), rfl⟩

/-- A RAM full of zeros is a header that points at itself. -/
theorem linkedList_not_returns :
    ¬ ∀ (I : CdImage) (bus : Bus I), (bus.dma.channel .gpu).direction = .fromRam → Returns bus := by
  intro h
  have hself : next (listAtZero fun _ => 0).ram (first (listAtZero fun _ => 0))
      = some (first (listAtZero fun _ => 0)) := by
    decide
  exact hangs_of_cycle rfl .refl (.single hself) (h noImage (listAtZero fun _ => 0) rfl)

end OrderingTable

end Rustation
