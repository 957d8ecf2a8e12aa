import Rustation.Lib.Run
import Rustation.CdRom.Controller

/-!
Transfers out of the RX buffer of the CD-ROM controller.

* `afterBytes`: the controller after some bytes of a transfer.  `readByte_eq`, `dmaReadWord_eq`
  and `readBytes_eq` say that reads inside the sector lead there, with the bytes of the buffer;
* `Inside`: an active transfer stays in the sector, and ends with its last byte.
  `inside_iff` reduces it to the index being below the length;
* `RxOp`, `rx`: what can happen to the buffer;
* `StartsInside`: the condition on one operation, and `inside_along_iff` the statement about whole
  runs.  A transfer can be started before there is a sector, and a shorter sector can arrive in
  the middle of one.
-/

namespace Rustation

open Fallible

namespace CdRom

variable {I : CdImage} {cd cd' : CdRom I}

/-! ### Bytes of a transfer -/

/-- A byte of the RX buffer. -/
def rxByte (cd : CdRom I) (i : ℕ) : U8 := cd.rxBuffer[i]?.getD 0

/-- The little-endian word of four bytes of the RX buffer. -/
def rxWord (cd : CdRom I) (i : ℕ) : U32 :=
  (cd.rxByte i).setWidth 32 ||| (cd.rxByte (i + 1)).setWidth 32 <<< 8
    ||| (cd.rxByte (i + 2)).setWidth 32 <<< 16 ||| (cd.rxByte (i + 3)).setWidth 32 <<< 24

/-- The controller with another position in the RX buffer. -/
def withRx (cd : CdRom I) (rxIndex : U16) (rxActive : Bool) : CdRom I :=
  { cd with rxIndex := rxIndex, rxActive := rxActive }

/-- The controller after `k` bytes of a transfer.  The transfer ends with the last byte of the
sector. -/
def afterBytes (cd : CdRom I) (k : ℕ) : CdRom I :=
  cd.withRx (cd.rxIndex + BitVec.ofNat 16 k)
    (cd.rxActive && (k == 0 || decide (cd.rxIndex.toNat + k < cd.rxLen.toNat)))

/-- Read bytes one after the other. -/
def readBytes : ℕ → CdRom I → Outcome (List U8 × CdRom I)
  | 0, cd => pure ([], cd)
  | k + 1, cd => do
      let (b, cd) ← cd.readByte
      let (bs, cd) ← readBytes k cd
      pure (b :: bs, cd)

lemma afterBytes_zero (cd : CdRom I) : cd.afterBytes 0 = cd := by
  have hindex : cd.rxIndex + BitVec.ofNat 16 0 = cd.rxIndex := BitVec.add_zero _
  rw [afterBytes, hindex, beq_self_eq_true, Bool.true_or, Bool.and_true]
  rfl

lemma rxByte_of_lt {i : ℕ} (h : i < 2352) : cd.rxByte i = cd.rxBuffer.get ⟨i, h⟩ := by
  rw [rxByte, Vector.getElem?_eq_getElem h]
  rfl

/-- Before its last byte a transfer goes on. -/
lemma afterBytes_active {k : ℕ} (hactive : cd.rxActive = true)
    (hk : cd.rxIndex.toNat + k < cd.rxLen.toNat) : (cd.afterBytes k).rxActive = true := by
  rw [afterBytes, withRx, hactive, decide_eq_true hk]
  simp

section Transfer

variable (hlen : cd.rxLen.toNat ≤ 2352) {j k : ℕ}

include hlen

lemma afterBytes_index (hk : cd.rxIndex.toNat + k ≤ cd.rxLen.toNat) :
    (cd.afterBytes k).rxIndex.toNat = cd.rxIndex.toNat + k := by
  rw [afterBytes, withRx, BitVec.toNat_add, BitVec.toNat_ofNat]
  omega

lemma afterBytes_afterBytes (hk : cd.rxIndex.toNat + j + k ≤ cd.rxLen.toNat) :
    (cd.afterBytes j).afterBytes k = cd.afterBytes (j + k) := by
  have hindex := afterBytes_index (k := j) hlen (by omega)
  have hsum : cd.rxIndex + BitVec.ofNat 16 j + BitVec.ofNat 16 k
      = cd.rxIndex + BitVec.ofNat 16 (j + k) := by
    rw [BitVec.add_assoc, BitVec.ofNat_add]
  have hactive : (cd.rxActive && (j == 0 || decide (cd.rxIndex.toNat + j < cd.rxLen.toNat))
        && (k == 0 || decide ((cd.afterBytes j).rxIndex.toNat + k < cd.rxLen.toNat)))
      = (cd.rxActive
        && (j + k == 0 || decide (cd.rxIndex.toNat + (j + k) < cd.rxLen.toNat))) := by
    rw [hindex]
    cases cd.rxActive with
    | false => rfl
    | true =>
        rw [Bool.eq_iff_iff]
        simp only [Bool.true_and, Bool.and_eq_true, Bool.or_eq_true, beq_iff_eq, decide_eq_true_eq]
        omega
  exact congrArg₂ cd.withRx hsum hactive

variable (hactive : cd.rxActive = true)

include hactive

/-- A byte inside the sector. -/
lemma readByte_eq (h : cd.rxIndex.toNat < cd.rxLen.toNat) :
    cd.readByte = .ok (cd.rxByte cd.rxIndex.toNat, cd.afterBytes 1) := by
  have hin : cd.rxIndex.toNat < 2352 := by omega
  have hend : (cd.rxIndex + 1 != cd.rxLen)
      = (cd.rxActive && (1 == 0 || decide (cd.rxIndex.toNat + 1 < cd.rxLen.toNat))) := by
    rw [hactive, Bool.eq_iff_iff]
    simp only [bne_iff_ne, ne_eq, Bool.true_and, Bool.or_eq_true, beq_iff_eq, decide_eq_true_eq]
    rw [← BitVec.toNat_inj, BitVec.toNat_add]
    change ¬(cd.rxIndex.toNat + 1) % 2 ^ 16 = _ ↔ _
    omega
  rw [readByte, dif_pos hin, rxByte_of_lt hin, afterBytes, ← hend, if_pos hactive, pure_eq_ok]
  rfl

/-- Bytes inside the sector. -/
lemma readBytes_eq (hk : cd.rxIndex.toNat + k ≤ cd.rxLen.toNat) :
    readBytes k cd
      = .ok ((List.range k).map fun j => cd.rxByte (cd.rxIndex.toNat + j), cd.afterBytes k) := by
  induction k generalizing cd with
  | zero =>
      rw [readBytes, afterBytes_zero]
      rfl
  | succ k ih =>
      have hindex := afterBytes_index (k := 1) hlen (by omega)
      have hrest : readBytes k (cd.afterBytes 1)
          = .ok ((List.range k).map fun j => cd.rxByte (cd.rxIndex.toNat + 1 + j),
            cd.afterBytes (1 + k)) := by
        rw [← afterBytes_afterBytes hlen (by omega), ← hindex]
        cases k with
        | zero =>
            rw [readBytes, afterBytes_zero (cd.afterBytes 1)]
            rfl
        | succ k =>
            refine ih hlen (afterBytes_active hactive (by omega)) ?_
            rw [hindex]
            change _ ≤ cd.rxLen.toNat
            omega
      rw [readBytes, readByte_eq hlen hactive (by omega), ok_bind]
      dsimp only
      rw [hrest, ok_bind, List.range_succ_eq_map, List.map_cons, List.map_map, pure_eq_ok,
        Nat.add_comm 1 k]
      refine congrArg Except.ok (congrArg (·, _) (congrArg (_ :: ·) (List.map_congr_left ?_)))
      intro j _
      rw [Function.comp_apply, Nat.succ_eq_add_one, Nat.add_assoc, Nat.add_comm 1 j]

/-- A word inside the sector. -/
lemma dmaReadWord_eq (h : cd.rxIndex.toNat + 4 ≤ cd.rxLen.toNat) :
    cd.dmaReadWord = .ok (cd.rxWord cd.rxIndex.toNat, cd.afterBytes 4) := by
  have hread : ∀ j < 4, (cd.afterBytes j).readByte
      = .ok (cd.rxByte (cd.rxIndex.toNat + j), cd.afterBytes (j + 1)) := by
    intro j hj
    have hindex := afterBytes_index (k := j) hlen (by omega)
    have hin : (cd.afterBytes j).rxIndex.toNat < (cd.afterBytes j).rxLen.toNat := by
      rw [hindex]
      change _ < cd.rxLen.toNat
      omega
    rw [@readByte_eq I (cd.afterBytes j) hlen (afterBytes_active hactive (by omega)) hin, hindex,
      afterBytes_afterBytes hlen (by omega)]
    rfl
  have h0 := hread 0 (by omega)
  rw [afterBytes_zero] at h0
  rw [dmaReadWord, h0, ok_bind]
  dsimp only
  rw [hread 1 (by omega), ok_bind]
  dsimp only
  rw [hread 2 (by omega), ok_bind]
  dsimp only
  rw [hread 3 (by omega), ok_bind, pure_eq_ok]
  rfl

end Transfer

/-! ### Transfers inside the sector -/

/-- An active transfer is inside the sector and the buffer: its bytes are those from the index up
to the length, and the last of them ends it. -/
structure Inside (cd : CdRom I) : Prop where
  bounds : cd.rxActive = true → cd.rxIndex < cd.rxLen ∧ cd.rxLen.toNat ≤ 2352
  transfer : cd.rxActive = true → ∀ k ≤ cd.rxLen.toNat - cd.rxIndex.toNat,
    ∃ cd', readBytes k cd = .ok ((List.range k).map fun j => cd.rxByte (cd.rxIndex.toNat + j), cd')
      ∧ cd'.rxIndex.toNat = cd.rxIndex.toNat + k
      ∧ (cd'.rxActive = true ↔ k < cd.rxLen.toNat - cd.rxIndex.toNat)

lemma inside_iff (hlen : cd.rxLen.toNat ≤ 2352) :
    cd.Inside ↔ (cd.rxActive = true → cd.rxIndex.toNat < cd.rxLen.toNat) := by
  refine ⟨fun h hactive => (h.bounds hactive).1, fun h => ⟨fun hactive => ⟨h hactive, hlen⟩,
    fun hactive k hk => ?_⟩⟩
  have hlt := h hactive
  refine ⟨_, readBytes_eq hlen hactive (by omega), afterBytes_index hlen (by omega), ?_⟩
  rw [afterBytes, withRx, hactive]
  simp only [Bool.true_and, Bool.or_eq_true, beq_iff_eq, decide_eq_true_eq]
  omega

/-! ### Runs -/

/-- What can happen to the RX buffer: a write to the chip control register, a set mode command, a
sector that arrives, or a word of a DMA transfer. -/
inductive RxOp where
  | hostChipControl (ctrl : U8)
  | setMode (mode : U8)
  | sector
  | dmaWord
  deriving DecidableEq, Repr

/-- The operation on the controller.  The parameter of a command is in the FIFO of the sub-CPU, and
a sector arrives once the one before it has been notified. -/
def rx (cd : CdRom I) : RxOp → Outcome (CdRom I)
  | .hostChipControl ctrl => cd.setHostChipControl ctrl
  | .setMode mode =>
      cmdSetMode { cd with subCpu := { cd.subCpu with params := cd.subCpu.params.clear.push mode } }
  | .sector => readSector { cd with readPending := false }
  | .dmaWord => do
      let (_, cd) ← cd.dmaReadWord
      pure cd

/-- The number of bytes a sector brings. -/
def sectorLength (cd : CdRom I) : ℕ := if cd.readWholeSector then 2340 else 2048

/-- The operation does not start a transfer of an empty buffer, nor bring a sector that ends before
the position of the transfer in progress. -/
def StartsInside (cd : CdRom I) : RxOp → Prop
  | .hostChipControl ctrl => ctrl &&& 0x80 ≠ 0 → cd.rxActive = false → 0 < cd.rxLen.toNat
  | .sector => cd.rxActive = true → cd.rxIndex.toNat < cd.sectorLength
  | _ => True

lemma setHostChipControl_eq {ctrl : U8} (h : cd.setHostChipControl ctrl = .ok cd') :
    cd'.rxLen = cd.rxLen ∧ (cd'.rxActive = true ↔ ctrl &&& 0x80 ≠ 0)
      ∧ (ctrl &&& 0x80 ≠ 0 → cd'.rxIndex = if cd.rxActive then cd.rxIndex else 0) := by
  rw [setHostChipControl] at h
  by_cases hbad : (ctrl &&& 0x7f != 0) = true
  · rw [if_pos hbad] at h
    cases h
  · rw [if_neg hbad, pure_eq_ok] at h
    obtain rfl := Except.ok.inj h
    refine ⟨rfl, bne_iff_ne, fun hactive => ?_⟩
    exact if_pos (bne_iff_ne.mpr hactive)

/-- The two controllers are at the same place of a transfer. -/
structure SameTransfer (cd cd' : CdRom I) : Prop where
  active : cd'.rxActive = cd.rxActive
  index : cd'.rxIndex = cd.rxIndex

/-- A set mode command leaves the RX buffer alone. -/
lemma post_cmdSetMode_rx (cd : CdRom I) :
    Post (fun _ => True) cd.cmdSetMode fun cd' =>
      SameTransfer cd cd' ∧ cd'.rxLen = cd.rxLen := by
  rw [cmdSetMode]
  exact post_ite (fun _ => trivial) fun _ => ⟨⟨rfl, rfl⟩, rfl⟩

lemma sectorLength_bounds (cd : CdRom I) : 0 < cd.sectorLength ∧ cd.sectorLength ≤ 2352 := by
  rw [sectorLength]
  split_ifs <;> omega

lemma post_sectorData_length (cd : CdRom I) :
    Post (fun _ => True) cd.sectorData fun data => data.length = cd.sectorLength := by
  rw [sectorData, sectorLength]
  by_cases hwhole : cd.readWholeSector = true
  · rw [if_pos hwhole, if_pos hwhole]
    cases I.data2352 cd.sector with
    | none => trivial
    | some d =>
        rw [post_pure, List.length_drop, Vector.length_toList]
  · rw [if_neg hwhole, if_neg hwhole]
    cases I.mode2XaPayload cd.sector with
    | none => trivial
    | some d =>
        refine post_ite (fun _ => trivial) fun hshort => ?_
        rw [post_pure, List.length_take]
        omega

/-- A sector sets the length, and does not touch the transfer. -/
lemma post_readSector_rx (cd : CdRom I) :
    Post (fun _ => True) cd.readSector fun cd' =>
      SameTransfer cd cd' ∧ cd'.rxLen.toNat = cd.sectorLength := by
  have hbounds := cd.sectorLength_bounds
  rw [readSector]
  refine post_ite (fun _ => trivial) fun _ => ?_
  split
  · split
    · rw [post_bind, post_pure, post_bind]
      refine (post_sectorData_length _).mono fun data hdata => ?_
      rw [post_bind]
      refine Post.mono (Q := fun _ => True) (post_ite (fun _ => trivial) fun _ => trivial)
        fun rx _ => ?_
      dsimp only
      split
      · refine ⟨⟨rfl, rfl⟩, ?_⟩
        have hdata : data.length = cd.sectorLength := hdata
        change data.length % 2 ^ 16 = _
        omega
      · trivial
    · trivial
  · trivial

/-- What every operation keeps: the sector fits in the buffer. -/
def RxFits (cd : CdRom I) : Prop := cd.rxLen.toNat ≤ 2352

/-- A byte that is read does not take a transfer out of the sector. -/
lemma readByte_keeps {b : U8} (hfits : cd.RxFits) (h : cd.readByte = .ok (b, cd')) :
    cd'.RxFits ∧ (cd.Inside → cd'.Inside) := by
  rw [readByte] at h
  split_ifs at h with hin hactive
  obtain ⟨-, rfl⟩ := Prod.mk.inj (Except.ok.inj h)
  refine ⟨hfits, fun hinside => ?_⟩
  have hlt := (inside_iff hfits).mp hinside hactive
  rw [inside_iff (by exact hfits)]
  intro hnext
  have hne : cd.rxIndex + 1 ≠ cd.rxLen := bne_iff_ne.mp hnext
  change (cd.rxIndex + 1).toNat < cd.rxLen.toNat
  bv_omega

/-- The step lemma: an operation keeps the transfer inside the sector exactly if it does not start
one that is outside. -/
lemma rx_inside_iff {op : RxOp} (hfits : cd.RxFits) (h : cd.rx op = .ok cd') :
    cd'.RxFits ∧ (cd.Inside → (cd'.Inside ↔ cd.StartsInside op)) := by
  cases op with
  | hostChipControl ctrl =>
      obtain ⟨hlen, hactive, hindex⟩ := setHostChipControl_eq h
      have hfits' : cd'.RxFits := by
        rw [RxFits, hlen]
        exact hfits
      refine ⟨hfits', fun hin => ?_⟩
      rw [inside_iff hfits] at hin
      rw [inside_iff hfits', hactive, StartsInside, hlen]
      refine forall_congr' fun hctrl => ?_
      rw [hindex hctrl]
      cases hprev : cd.rxActive with
      | true => simpa using hin hprev
      | false => simp
  | setMode mode =>
      obtain ⟨htransfer, hlen⟩ := (post_cmdSetMode_rx _).of_ok h
      have hfits' : cd'.RxFits := by
        rw [RxFits, hlen]
        exact hfits
      refine ⟨hfits', fun hin => ?_⟩
      rw [inside_iff hfits] at hin
      rw [inside_iff hfits', htransfer.active, htransfer.index, hlen]
      exact iff_of_true hin trivial
  | sector =>
      obtain ⟨htransfer, hlen⟩ := (post_readSector_rx { cd with readPending := false }).of_ok h
      have hfits' : cd'.RxFits := by
        rw [RxFits, hlen]
        exact (sectorLength_bounds _).2
      refine ⟨hfits', fun _ => ?_⟩
      rw [inside_iff hfits', htransfer.active, htransfer.index, hlen]
      rfl
  | dmaWord =>
      obtain ⟨⟨w, cd₁⟩, hword, h⟩ := bind_eq_ok.mp h
      obtain rfl := Except.ok.inj h
      obtain ⟨⟨b0, cd₁⟩, h0, hword⟩ := bind_eq_ok.mp hword
      obtain ⟨⟨b1, cd₂⟩, h1, hword⟩ := bind_eq_ok.mp hword
      obtain ⟨⟨b2, cd₃⟩, h2, hword⟩ := bind_eq_ok.mp hword
      obtain ⟨⟨b3, cd₄⟩, h3, hword⟩ := bind_eq_ok.mp hword
      obtain ⟨-, rfl⟩ := Prod.mk.inj (Except.ok.inj hword)
      obtain ⟨f1, i1⟩ := readByte_keeps hfits h0
      obtain ⟨f2, i2⟩ := readByte_keeps f1 h1
      obtain ⟨f3, i3⟩ := readByte_keeps f2 h2
      obtain ⟨f4, i4⟩ := readByte_keeps f3 h3
      exact ⟨f4, fun hin => iff_of_true (i4 (i3 (i2 (i1 hin)))) trivial⟩

/-- **Transfers and the sector.**  Along a run from power-on an active transfer is always inside
the sector, and ends after the bytes that are left of it, exactly if no transfer is started while
the buffer is empty and no sector arrives that ends before the position of the transfer in
progress. -/
theorem inside_along_iff (disc : Option (Disc I)) (ops : List RxOp) :
    Run.Along (Run.next rx) (Run.Holds Inside) (.ok (new disc)) ops
      ↔ Run.Steps (Run.next rx) (Run.Taken rx StartsInside) (.ok (new disc)) ops := by
  have hnew : (new disc).RxFits := Nat.zero_le _
  refine Run.along_next_iff (fun s op s' hs h => ?_) (fun s op s' hs hin h => ?_) hnew
    ((inside_iff hnew).mpr nofun) ops
  · exact (rx_inside_iff hs h).1
  · exact (rx_inside_iff hs h).2 hin

/-- A transfer that is started before there is a sector. -/
theorem inside_exceeded :
    ¬Run.Along (Run.next rx) (Run.Holds Inside) (.ok (new none : CdRom noImage))
      [.hostChipControl 0x80] := by
  rintro ⟨-, h⟩
  have hbounds := (h _ rfl).bounds rfl
  exact absurd hbounds.1 (by decide)

end CdRom

end Rustation
