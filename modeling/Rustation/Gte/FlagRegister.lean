import Rustation.Gte.Agreement

/-!
The flags register of the Geometry Transform Engine over runs of commands and register
writes.

* `FlagsInRange`: only the bits 30 to 12 are set, which holds of cleared flags;
* `Keeps`: a part of a command keeps that, one lemma for each part, up to
  `keeps_runOpcode`;
* `command_wellFormed`: a command leaves well-formed flags, with the summary in the top
  bit;
* `flags_wellFormed_iff`: after a run the flags are well formed unless the last to write
  them was a write to their register, of a value that its mask treats wrongly.
-/

namespace Rustation

open Fallible Machine

namespace Gte

/-! ### The flags in range -/

/-- Only the bits 30 to 12 are set. -/
def FlagsInRange (g : Gte) : Prop := g.flags &&& 0x80000fff = 0

namespace FlagsInRange

variable {g : Gte} (h : g.FlagsInRange)

include h

lemma setFlag {bit : ℕ} (hlo : 12 ≤ bit) (hhi : bit ≤ 30) : (g.setFlag bit).FlagsInRange := by
  have hbit : 1#32 <<< bit &&& 0x80000fff = 0 := by interval_cases bit <;> rfl
  rw [FlagsInRange, Gte.setFlag, BitVec.and_or_distrib_right, h, hbit]
  rfl

lemma setIr (i : Fin 4) (val : I16) : (g.setIr i val).FlagsInRange := h

lemma setMac (i : Fin 4) (val : I32) : (g.setMac i val).FlagsInRange := h

lemma setZ (i : Fin 4) (z : U16) : (g.setZ i z).FlagsInRange := h

lemma setXy (i : Fin 4) (xy : I16 × I16) : (g.setXy i xy).FlagsInRange := h

lemma setRgbFifo (i : Fin 3) (c : Rgbx) : (g.setRgbFifo i c).FlagsInRange := h

/-! The conversions compute the position of a flag from the number of an accumulator. -/

lemma i64ToI44 (flag : ℕ) (hflag : flag ≤ 2) (val : ℤ) :
    (g.i64ToI44 flag val).2.FlagsInRange := by
  simp only [Gte.i64ToI44]
  split_ifs
  · exact h.setFlag (by omega) (by omega)
  · exact h.setFlag (by omega) (by omega)
  · exact h

lemma i32ToI16Saturate (config : CommandConfig) (flag : ℕ) (hflag : flag ≤ 2) (val : ℤ) :
    (g.i32ToI16Saturate config flag val).2.FlagsInRange := by
  rw [Gte.i32ToI16Saturate, ← irMin]
  split_ifs
  · exact h.setFlag (by omega) (by omega)
  · exact h.setFlag (by omega) (by omega)
  · exact h

lemma i32ToI11Saturate (flag : ℕ) (hflag : flag ≤ 1) (val : ℤ) :
    (g.i32ToI11Saturate flag val).2.FlagsInRange := by
  rw [Gte.i32ToI11Saturate]
  split_ifs
  · exact h.setFlag (by omega) (by omega)
  · exact h.setFlag (by omega) (by omega)
  · exact h

lemma checkMacOverflow (val : ℤ) : (g.checkMacOverflow val).FlagsInRange := by
  rw [Gte.checkMacOverflow]
  split_ifs
  · exact h.setFlag (by norm_num) (by norm_num)
  · exact h.setFlag (by norm_num) (by norm_num)
  · exact h

lemma i64ToOtz (average : ℤ) : (g.i64ToOtz average).2.FlagsInRange := by
  simp only [Gte.i64ToOtz]
  split_ifs
  · exact h.setFlag (by norm_num) (by norm_num)
  · exact h.setFlag (by norm_num) (by norm_num)
  · exact h

lemma macToColor (mac : ℤ) (which : ℕ) (hwhich : which ≤ 2) :
    (g.macToColor mac which).2.FlagsInRange := by
  simp only [Gte.macToColor]
  split_ifs
  · exact h.setFlag (by omega) (by omega)
  · exact h.setFlag (by omega) (by omega)
  · exact h

lemma saturateIr (config : CommandConfig) (i : Fin 3) : (g.saturateIr config i).FlagsInRange :=
  (h.i32ToI16Saturate config i (Nat.le_of_lt_succ i.isLt) (g.mac i.succ).toInt).setIr i.succ _

lemma macToIr (config : CommandConfig) : (g.macToIr config).FlagsInRange := by
  rw [macToIr_eq]
  exact ((h.saturateIr config 0).saturateIr config 1).saturateIr config 2

lemma macToRgbFifo : g.macToRgbFifo.FlagsInRange := by
  have hr := h.macToColor (g.mac 1).toInt 0 (by norm_num)
  have hgreen := hr.macToColor (g.mac 2).toInt 1 (by norm_num)
  have hb := hgreen.macToColor (g.mac 3).toInt 2 (by norm_num)
  exact ((hb.setRgbFifo 0 _).setRgbFifo 1 _).setRgbFifo 2 _

lemma storeAverage (average : ℤ) : (g.storeAverage average).FlagsInRange :=
  ((h.checkMacOverflow average).setMac 0 _).i64ToOtz average

lemma rtpToIr (config : CommandConfig) (z : ℤ) : (g.rtpToIr config z).FlagsInRange := by
  have hxy := (h.saturateIr config 0).saturateIr config 1
  obtain ⟨clamp, heq⟩ := rtpToIr_eq config z
  rw [heq]
  refine setIr ?_ 3 _
  split_ifs
  · exact hxy.setFlag (by norm_num) (by norm_num)
  · exact hxy

lemma pushZ (z : ℤ) : (g.pushZ z).2.FlagsInRange := by
  have hqueue {g : Gte} (h : g.FlagsInRange) (z : U16) :
      ((((g.setZ 0 (g.zFifo 1)).setZ 1 (g.zFifo 2)).setZ 2 (g.zFifo 3)).setZ 3 z).FlagsInRange :=
    (((h.setZ 0 _).setZ 1 _).setZ 2 _).setZ 3 z
  rw [Gte.pushZ]
  split_ifs
  · exact hqueue (h.setFlag (by norm_num) (by norm_num)) _
  · exact hqueue (h.setFlag (by norm_num) (by norm_num)) _
  · exact hqueue h _

end FlagsInRange

/-! ### Parts of the commands -/

/-- A part of a command keeps the flags in range, if it returns. -/
def Keeps (f : Gte → Outcome Gte) : Prop :=
  ∀ g, g.FlagsInRange → Post AnyFault (f g) FlagsInRange

lemma Keeps.bind {f f' : Gte → Outcome Gte} (h : Keeps f) (h' : Keeps f') :
    Keeps fun g => f g >>= f' := by
  intro g hg
  rw [post_bind]
  exact (h g hg).mono h'

lemma keeps_pure {f : Gte → Gte} (h : ∀ g, g.FlagsInRange → (f g).FlagsInRange) :
    Keeps fun g => pure (f g) := h

lemma keeps_eachComponent {body : Gte → Fin 3 → Outcome Gte}
    (h : ∀ i, Keeps fun g => body g i) : Keeps fun g => g.eachComponent body :=
  (h 0).bind ((h 1).bind (h 2))

variable {config : CommandConfig}

/-- A value that is computed first does not matter. -/
lemma post_any {α β : Type} {x : Outcome α} {k : α → Outcome β} {Q : β → Prop}
    (h : ∀ a, Post AnyFault (k a) Q) : Post AnyFault (x >>= k) Q := by
  rw [post_bind]
  cases x with
  | error e => exact trivial
  | ok a => exact h a

lemma post_addProduct_inRange {g : Gte} (hg : g.FlagsInRange) {flag : ℕ} (hflag : flag ≤ 2)
    (res : ℤ) (v m : I16) :
    Post AnyFault (g.addProduct flag res v m) fun x => x.2.FlagsInRange := by
  refine (g.post_addProduct flag res v m).mono ?_
  rintro _ rfl
  exact hg.i64ToI44 flag hflag _

lemma post_accumulate_inRange {g : Gte} (hg : g.FlagsInRange) {flag : Fin 3 → ℕ}
    (hflag : ∀ c, flag c ≤ 2) (res : ℤ) (v m : Fin 3 → I16) :
    Post AnyFault (g.accumulate flag res v m) fun x => x.2.FlagsInRange := by
  rw [accumulate, post_bind]
  refine (post_addProduct_inRange hg (hflag 0) _ _ _).mono fun x0 h0 => ?_
  dsimp only
  rw [post_bind]
  refine (post_addProduct_inRange h0 (hflag 1) _ _ _).mono fun x1 h1 => ?_
  exact post_addProduct_inRange h1 (hflag 2) _ _ _

lemma keeps_multiplyRow (mat : Fin 3) (vectorIndex crv : Fin 4) (r : Fin 3) :
    Keeps fun g => multiplyRow config mat vectorIndex crv g r := by
  intro g hg
  dsimp only
  rw [multiplyRow, post_bind]
  exact (post_accumulate_inRange hg (fun _ => Nat.le_of_lt_succ r.isLt) _ _ _).mono
    fun x hx => hx.setMac _ _

lemma keeps_multiply (matrix : Matrix) (vectorIndex : Fin 4) (cv : ControlVector) :
    Keeps fun g => g.multiplyMatrixByVector config matrix vectorIndex cv := by
  intro g hg
  dsimp only
  rw [multiplyMatrixByVector]
  cases matrix.index with
  | none => exact trivial
  | some mat =>
      refine post_ite (fun _ => trivial) fun _ => ?_
      exact ((keeps_eachComponent fun r => keeps_multiplyRow mat vectorIndex cv.index r).bind
        (keeps_pure fun g hg => hg.macToIr config)) g hg

lemma keeps_depthCue (i : Fin 3) (base : Gte → ℤ) :
    Keeps fun g => depthCue config g i (base g) := by
  intro g hg
  have hi : i.val ≤ 2 := Nat.le_of_lt_succ i.isLt
  refine post_any fun sub => ?_
  have hsat := (hg.i64ToI44 i.val hi sub).i32ToI16Saturate (CommandConfig.fromCommand 0) i.val hi
    (wrap32 (asr (g.i64ToI44 i.val sub).1 config.shift))
  refine post_any fun _ => post_any fun sum => ?_
  exact (hsat.i64ToI44 i.val hi sum).setMac _ _

lemma post_rtpRow_inRange {g : Gte} (hg : g.FlagsInRange) (vectorIndex : Fin 4) (r : Fin 3) :
    Post AnyFault (rtpRow config vectorIndex g r) fun x => x.2.FlagsInRange := by
  rw [rtpRow, post_bind]
  exact (post_accumulate_inRange hg (fun c => Nat.le_of_lt_succ c.isLt) _ _ _).mono
    fun x hx => hx.setMac _ _

lemma post_projectionFactor_inRange {g : Gte} (hg : g.FlagsInRange) (z : U16) :
    Post AnyFault (g.projectionFactor z) fun x => x.2.FlagsInRange := by
  rw [projectionFactor]
  refine post_ite (fun _ => ?_) fun _ => hg.setFlag (by norm_num) (by norm_num)
  exact post_any fun q => hg

lemma keeps_pushXy (f : U32) : Keeps fun g => g.pushXy f := by
  intro g hg
  refine post_any fun _ => post_any fun screenX => post_any fun _ => post_any fun screenY => ?_
  have hxy := (((hg.checkMacOverflow screenX).checkMacOverflow screenY).i32ToI11Saturate 0
    (by norm_num) (wrap32 (asr screenX 16))).i32ToI11Saturate 1 (by norm_num)
      (wrap32 (asr screenY 16))
  exact (((hxy.setXy 3 _).setXy 0 _).setXy 1 _).setXy 2 _

lemma post_doRtp_inRange {g : Gte} (hg : g.FlagsInRange) (vectorIndex : Fin 4) :
    Post AnyFault (g.doRtp config vectorIndex) fun x => x.2.FlagsInRange := by
  simp only [doRtp, post_bind, post_pure]
  refine (post_rtpRow_inRange hg vectorIndex 0).mono fun x0 h0 =>
    (post_rtpRow_inRange h0 vectorIndex 1).mono fun x1 h1 =>
    (post_rtpRow_inRange h1 vectorIndex 2).mono fun x2 h2 => ?_
  have hz := (h2.rtpToIr config (wrap32 (asr x2.1 12))).pushZ (wrap32 (asr x2.1 12))
  exact (post_projectionFactor_inRange hz _).mono fun x3 h3 => keeps_pushXy x3.1 x3.2 h3

lemma keeps_depthQueuing (f : U32) : Keeps fun g => g.depthQueuing f := by
  intro g hg
  refine post_any fun _ => post_any fun depth => ?_
  have hstore := (hg.checkMacOverflow depth).setMac 0 (BitVec.ofInt 32 depth)
  rw [post_pure]
  split_ifs
  · exact (hstore.setFlag (by norm_num) (by norm_num)).setIr 0 _
  · exact (hstore.setFlag (by norm_num) (by norm_num)).setIr 0 _
  · exact hstore.setIr 0 _

/-- A product is stored in an accumulator. -/
lemma keeps_store (value : Gte → Outcome ℤ) (store : ℤ → I32) (i : Fin 4) :
    Keeps fun g => value g >>= fun val => pure (g.setMac i (store val)) :=
  fun _ hg => post_any fun _ => hg.setMac _ _

/-! ### The commands -/

lemma keeps_macToIr : Keeps fun g => pure (g.macToIr config) :=
  keeps_pure fun _ hg => hg.macToIr config

lemma keeps_macToRgbFifo : Keeps fun g => pure (g.macToIr config).macToRgbFifo :=
  keeps_pure fun _ hg => (hg.macToIr config).macToRgbFifo

lemma keeps_cmdRtps : Keeps fun g => g.cmdRtps config := by
  intro g hg
  simp only [cmdRtps, post_bind]
  exact (post_doRtp_inRange hg 0).mono fun x hx => keeps_depthQueuing x.1 x.2 hx

lemma keeps_cmdRtpt : Keeps fun g => g.cmdRtpt config := by
  intro g hg
  simp only [cmdRtpt, post_bind]
  exact (post_doRtp_inRange hg 0).mono fun x0 h0 => (post_doRtp_inRange h0 1).mono fun x1 h1 =>
    (post_doRtp_inRange h1 2).mono fun x2 h2 => keeps_depthQueuing x2.1 x2.2 h2

lemma keeps_cmdNclip : Keeps fun g => g.cmdNclip := by
  intro g hg
  refine post_any fun _ => post_any fun _ => post_any fun _ => post_any fun _ => post_any fun _ =>
    post_any fun _ => post_any fun _ => post_any fun sum => ?_
  exact (hg.checkMacOverflow sum).setMac 0 _

lemma keeps_cmdOp : Keeps fun g => g.cmdOp config := by
  intro g hg
  refine post_any fun mac1 => post_any fun mac2 => post_any fun mac3 => ?_
  exact (((hg.setMac 1 mac1).setMac 2 mac2).setMac 3 mac3).macToIr config

/-- The commands that cue the depth of three components. -/
lemma keeps_depthCues (col : Fin 3 → Gte → ℤ) : Keeps fun g =>
    g.eachComponent (fun g i => depthCue config g i (col i g)) >>=
      fun g => pure (g.macToIr config).macToRgbFifo :=
  (keeps_eachComponent fun i => keeps_depthCue i (col i)).bind keeps_macToRgbFifo

lemma keeps_cmdDpcs : Keeps fun g => g.cmdDpcs config := fun g hg =>
  keeps_depthCues (fun i _ => shl64 (Rgbx.component g.rgb i) (4 + 12)) g hg

lemma keeps_doDpc : Keeps fun g => g.doDpc config := fun g hg =>
  keeps_depthCues (fun i _ => shl64 (Rgbx.component (g.rgbFifo 0) i) (4 + 12)) g hg

lemma keeps_cmdDpct : Keeps fun g => g.cmdDpct config :=
  keeps_doDpc.bind (keeps_doDpc.bind keeps_doDpc)

lemma keeps_cmdIntpl : Keeps fun g => g.cmdIntpl config :=
  keeps_depthCues fun i g => shl64 (g.ir i.succ).toInt 12

lemma keeps_cmdDcpl : Keeps fun g => g.cmdDcpl config :=
  (keeps_eachComponent fun i g hg => post_any fun shading =>
    keeps_depthCue i (fun _ => shading) g hg).bind keeps_macToRgbFifo

lemma keeps_applyColor : Keeps fun g => g.applyColor config :=
  (keeps_eachComponent fun i => keeps_store (fun g => g.shade i) _ i.succ).bind keeps_macToRgbFifo

lemma keeps_cmdMvmva : Keeps fun g => g.cmdMvmva config := fun g hg =>
  keeps_multiply config.matrix config.vectorMul config.vectorAdd g.irToV3 hg

/-- The product with the colour matrix, of the vector in IR. -/
lemma keeps_multiplyColor :
    Keeps fun g => g.irToV3.multiplyMatrixByVector config .color 3 .backgroundColor :=
  fun g hg => keeps_multiply .color 3 .backgroundColor g.irToV3 hg

lemma keeps_cmdCc : Keeps fun g => g.cmdCc config := keeps_multiplyColor.bind keeps_applyColor

lemma keeps_lightColor (vectorIndex : Fin 4) : Keeps fun g => g.lightColor config vectorIndex :=
  (keeps_multiply .light vectorIndex .zero).bind keeps_multiplyColor

lemma keeps_doNcc (vectorIndex : Fin 4) : Keeps fun g => g.doNcc config vectorIndex :=
  (keeps_lightColor vectorIndex).bind keeps_applyColor

lemma keeps_doNc (vectorIndex : Fin 4) : Keeps fun g => g.doNc config vectorIndex :=
  (keeps_lightColor vectorIndex).bind (keeps_pure fun _ hg => hg.macToRgbFifo)

lemma keeps_doNcd (vectorIndex : Fin 4) : Keeps fun g => g.doNcd config vectorIndex :=
  (keeps_lightColor vectorIndex).bind keeps_cmdDcpl

lemma keeps_triple {body : Gte → CommandConfig → Fin 4 → Outcome Gte}
    (h : ∀ vectorIndex, Keeps fun g => body g config vectorIndex) :
    Keeps fun g => triple body g config :=
  (h 0).bind ((h 1).bind (h 2))

lemma keeps_cmdSqr : Keeps fun g => g.cmdSqr config :=
  (keeps_eachComponent fun i =>
    keeps_store (fun g => i32 ((g.ir i.succ).toInt * (g.ir i.succ).toInt)) _ i.succ).bind
      keeps_macToIr

lemma keeps_cmdAvsz3 : Keeps fun g => g.cmdAvsz3 := fun _ hg =>
  post_any fun _ => post_any fun _ => post_any fun average => hg.storeAverage average

lemma keeps_cmdAvsz4 : Keeps fun g => g.cmdAvsz4 := fun _ hg =>
  post_any fun _ => post_any fun _ => post_any fun _ => post_any fun average =>
    hg.storeAverage average

lemma keeps_cmdGpf : Keeps fun g => g.cmdGpf config := fun g hg =>
  ((keeps_eachComponent fun i =>
    keeps_store (fun g' => i32 ((g'.ir i.succ).toInt * (g.ir 0).toInt)) _ i.succ).bind
      keeps_macToRgbFifo) g hg

lemma keeps_cmdGpl : Keeps fun g => g.cmdGpl config := by
  intro g hg
  refine ((keeps_eachComponent fun i => ?_).bind keeps_macToRgbFifo) g hg
  intro g' hg'
  refine post_any fun _ => post_any fun sum => ?_
  exact (hg'.i64ToI44 i.val (Nat.le_of_lt_succ i.isLt) sum).setMac _ _

/-- **A command sets no flag outside of the bits 30 to 12.** -/
lemma keeps_runOpcode (opcode : Opcode) : Keeps fun g => g.runOpcode config opcode := by
  cases opcode with
  | rtps => exact keeps_cmdRtps
  | nclip => exact keeps_cmdNclip
  | op => exact keeps_cmdOp
  | dpcs => exact keeps_cmdDpcs
  | intpl => exact keeps_cmdIntpl
  | mvmva => exact keeps_cmdMvmva
  | ncds => exact keeps_doNcd 0
  | ncdt => exact keeps_triple keeps_doNcd
  | nccs => exact keeps_doNcc 0
  | cc => exact keeps_cmdCc
  | ncs => exact keeps_doNc 0
  | nct => exact keeps_triple keeps_doNc
  | sqr => exact keeps_cmdSqr
  | dcpl => exact keeps_cmdDcpl
  | dpct => exact keeps_cmdDpct
  | avsz3 => exact keeps_cmdAvsz3
  | avsz4 => exact keeps_cmdAvsz4
  | rtpt => exact keeps_cmdRtpt
  | gpf => exact keeps_cmdGpf
  | gpl => exact keeps_cmdGpl
  | ncct => exact keeps_triple keeps_doNcc

/-! ### Well-formed flags -/

/-- The top bit sums up the error bits, and the bits 11 to 0 are clear. -/
def WellFormedFlags (flags : U32) : Prop :=
  (flags.getLsbD 31 = true ↔
    ∃ i, (23 ≤ i ∧ i ≤ 30 ∨ 13 ≤ i ∧ i ≤ 18) ∧ flags.getLsbD i = true) ∧
  ∀ i < 12, flags.getLsbD i = false

/-- The error bits. -/
lemma errorMask_getLsbD (i : ℕ) :
    (0x7f87e000 : U32).getLsbD i = true ↔ 23 ≤ i ∧ i ≤ 30 ∨ 13 ≤ i ∧ i ≤ 18 := by
  by_cases hi : i < 32
  · interval_cases i <;> decide
  · rw [BitVec.getLsbD_of_ge _ _ (by omega)]
    exact iff_of_false (by decide) (by omega)

/-- The bits that are always clear. -/
lemma lowMask_getLsbD (i : ℕ) : (0xfff : U32).getLsbD i = true ↔ i < 12 := by
  by_cases hi : i < 32
  · interval_cases i <;> decide
  · rw [BitVec.getLsbD_of_ge _ _ (by omega)]
    exact iff_of_false (by decide) (by omega)

/-- The flags that a summary bit is added to. -/
lemma wellFormedFlags_summary {x : U32} (hx : x &&& 0x80000000 = 0) (b : Bool) :
    WellFormedFlags (x ||| (if b then 1#32 else 0#32) <<< 31) ↔
      (b = true ↔ x &&& 0x7f87e000 ≠ 0) ∧ x &&& 0xfff = 0 := by
  have htop : x.getLsbD 31 = false := BitVec.and_eq_zero_iff.mp hx 31 rfl
  have hbit : (x ||| (if b then 1#32 else 0#32) <<< 31).getLsbD 31 = b := by
    rw [BitVec.getLsbD_or, htop]
    cases b <;> rfl
  have hlow {i : ℕ} (hi : i < 31) : (x ||| (if b then 1#32 else 0#32) <<< 31).getLsbD i =
      x.getLsbD i := by
    rw [BitVec.getLsbD_or, BitVec.getLsbD_shiftLeft]
    simp [hi]
  rw [WellFormedFlags, hbit, BitVec.and_ne_zero_iff, BitVec.and_eq_zero_iff]
  refine and_congr (iff_congr Iff.rfl (exists_congr fun i => ?_)) (forall_congr' fun i => ?_)
  · rw [errorMask_getLsbD]
    exact and_congr_right fun hi => by rw [hlow (by omega)]
  · rw [lowMask_getLsbD]
    exact forall_congr' fun hi => by rw [hlow (by omega)]

/-- A command leaves well-formed flags. -/
lemma command_wellFormed {g g' : Gte} {w : U32} (h : g.command w = .ok g') :
    WellFormedFlags g'.flags := by
  rcases hopcode : Opcode.decode (w &&& 0x3f).toNat with _ | opcode
  · simp only [command, hopcode] at h
    cases h
  rw [command_eq hopcode, bind_eq_ok] at h
  obtain ⟨g1, hrun, h⟩ := h
  obtain rfl := Except.ok.inj h
  have hrange : g1.FlagsInRange :=
    Post.of_ok (keeps_runOpcode opcode { g with flags := 0 } (BitVec.zero_and)) hrun
  have hclear (c : U32) : g1.flags &&& (0x80000fff &&& c) = 0 := by
    rw [← BitVec.and_assoc, hrange]
    exact BitVec.zero_and
  exact (wellFormedFlags_summary (hclear 0x80000000) _).mpr ⟨bne_iff_ne, hclear 0xfff⟩

/-- The values that the register of the flags keeps well formed: the mask lets the bits 11 to
8 through and drops the bits 30 to 27, which count for the summary all the same. -/
def WritesWell (v : U32) : Prop :=
  v &&& 0xf00 = 0 ∧ (v &&& 0x78000000 ≠ 0 → v &&& 0x0787e000 ≠ 0)

instance (v : U32) : Decidable (WritesWell v) := inferInstanceAs (Decidable (_ ∧ _))

lemma writtenFlags_wellFormed_iff (v : U32) : WellFormedFlags (writtenFlags v) ↔ WritesWell v := by
  have htop : v &&& 0x7ffff00#32 &&& 0x80000000 = 0 := by
    rw [BitVec.and_assoc]
    exact BitVec.and_zero
  have hwritten : writtenFlags v =
      v &&& 0x7ffff00#32 ||| (if v &&& 0x7f87e000 != 0 then 1#32 else 0#32) <<< 31 := by
    rw [writtenFlags]
    split_ifs <;> rfl
  have herror : v &&& 0x7f87e000 = 0#32 ↔ v &&& 0x78000000 = 0#32 ∧ v &&& 0x0787e000 = 0#32 := by
    rw [← BitVec.or_eq_zero_iff, ← BitVec.and_or_distrib_left]
    rfl
  rw [hwritten, wellFormedFlags_summary htop, bne_iff_ne, BitVec.and_assoc, BitVec.and_assoc,
    WritesWell, and_comm]
  refine and_congr Iff.rfl ?_
  change (v &&& 0x7f87e000 ≠ 0 ↔ v &&& 0x0787e000 ≠ 0) ↔ _
  tauto

/-! ### Runs -/

/-- The calls that change the engine. -/
inductive Operation where
  | command (word : U32)
  | setData (reg val : U32)
  | setControl (reg val : U32)
  deriving DecidableEq, Repr

def Operation.exec (g : Gte) : Operation → Outcome Gte
  | .command word => g.command word
  | .setData reg val => g.setData reg val
  | .setControl reg val => g.setControl reg val

/-- The value in the register of the flags as it was written there, if a call leaves one. -/
def Operation.written (last : Option U32) : Operation → Option U32
  | .command _ => none
  | .setData _ _ => last
  | .setControl reg val => if reg = 31 then some val else last

/-- The value that was last written to the register of the flags, unless a command has run
since. -/
def lastWritten (ops : List Operation) : Option U32 := ops.foldl Operation.written none

lemma setData_flags {g g' : Gte} {reg val : U32} (h : g.setData reg val = .ok g') :
    g'.flags = g.flags := by
  unfold setData at h
  split at h
  all_goals first
    | (obtain rfl := Except.ok.inj h
       simp only [setV, setIr, setXy, setZ, setRgbFifo, setMac])
    | cases h

/-- The register of the flags is the last one. -/
lemma controlReg_eq_flags_iff (reg : U32) : controlReg reg.toNat = some .flags ↔ reg = 31 := by
  constructor
  · intro h
    have hnat : reg.toNat = 31 := by
      unfold controlReg at h
      split at h
      all_goals first | assumption | cases h
    exact BitVec.eq_of_toNat_eq hnat
  · rintro rfl
    rfl

lemma setControl_flags {g g' : Gte} {reg val : U32} (h : g.setControl reg val = .ok g') :
    g'.flags = if reg = 31 then writtenFlags val else g.flags := by
  rw [setControl] at h
  rcases hr : controlReg reg.toNat with _ | r
  · rw [hr] at h
    cases h
  rw [hr] at h
  obtain rfl := Except.ok.inj h
  have hreg : reg = 31 ↔ r = .flags := by
    rw [← controlReg_eq_flags_iff, hr]
    exact Option.some_inj
  simp only [hreg]
  cases r <;> rfl

/-- **The flags are well formed after a run, unless a write to their register was the last to
set them and its value is one of those that the mask of the register treats wrongly.** -/
theorem flags_wellFormed_iff (ops : List Operation) (g : Gte)
    (h : ops.foldlM Operation.exec new = .ok g) :
    ∃ flags, g.control 31 = .ok flags ∧
      (WellFormedFlags flags ↔ ∀ v ∈ lastWritten ops, WritesWell v) := by
  refine ⟨g.flags, rfl, ?_⟩
  -- induction on the run from its end, the last call being the one that may write the flags
  induction ops using List.reverseRecOn generalizing g with
  | nil =>
      obtain rfl := Except.ok.inj h
      exact iff_of_true ⟨by simp [new], by simp [new]⟩ (by simp [lastWritten])
  | append_singleton ops op ih =>
      rw [List.foldlM_append, bind_eq_ok] at h
      obtain ⟨s, hs, hop⟩ := h
      rw [List.foldlM_cons, bind_eq_ok] at hop
      obtain ⟨s', hop, hnil⟩ := hop
      obtain rfl := Except.ok.inj hnil
      rw [lastWritten, List.foldl_append, List.foldl_cons, List.foldl_nil]
      cases op with
      | command word => exact iff_of_true (command_wellFormed hop) nofun
      | setData reg val =>
          rw [setData_flags hop]
          exact ih s hs
      | setControl reg val =>
          rw [setControl_flags hop, Operation.written]
          split_ifs with hreg
          · rw [writtenFlags_wellFormed_iff]
            simp
          · exact ih s hs

/-- A bit that should stay clear is kept from a write. -/
theorem flags_not_wellFormed :
    ¬∀ (ops : List Operation) (g : Gte), ops.foldlM Operation.exec new = .ok g →
      ∃ flags, g.control 31 = .ok flags ∧ WellFormedFlags flags := by
  intro h
  obtain ⟨flags, hflags, -, hlow⟩ := h [.setControl 31 0x100] _ rfl
  obtain rfl := Except.ok.inj hflags
  exact absurd (hlow 8 (by norm_num)) (by decide)

/-- A write that sets an error bit, and a command after a write that the mask treats wrongly. -/
theorem flags_wellFormed_iff_sample : ∃ g flags,
    [Operation.setControl 31 0x100, .command 0x00080012, .setControl 31 0x2000].foldlM
      Operation.exec new = .ok g ∧ g.control 31 = .ok flags ∧ WellFormedFlags flags := by
  obtain ⟨g, hg⟩ : ∃ g, [Operation.setControl 31 0x100, .command 0x00080012,
      .setControl 31 0x2000].foldlM Operation.exec new = .ok g := ⟨_, rfl⟩
  obtain ⟨flags, hflags, hiff⟩ := flags_wellFormed_iff _ g hg
  refine ⟨g, flags, hg, hflags, hiff.mpr fun v hv => ?_⟩
  obtain rfl := Option.some.inj hv
  decide

end Gte

end Rustation
