import Rustation.Gte.Projection

/-!
The two matrix products of the Geometry Transform Engine compared.

RTPS and MVMVA both rotate V0 and add the translation, in two separate loops.
The sums are the same, but the loop of RTPS reports the overflow of a partial
sum for the accumulator with the number of the column, the loop of MVMVA for
the one with the number of the row.

* `Row`: what a row of either loop does, with the accumulator that a column
  reports for as a parameter; `Row.three` puts the three rows together;
* `Later`: the rest of either command keeps the accumulators, IR1, IR2 and the
  overflow flags;
* `rtps_mvmva_agree_iff`: the commands agree exactly when the overflows of the
  columns are those of the rows.
-/

namespace Rustation

open Fallible Machine

namespace Gte

/-! ### Partial sums -/

/-- The low 44 bits of a sum, with its sign. -/
def trunc44 (val : ℤ) : ℤ := asr (shl64 val 20) 20

/-- The sum after each column, before it is truncated. -/
def partialSum (res : ℤ) (v m : Fin 3 → I16) : Fin 3 → ℤ
  | 0 => res + (v 0).toInt * (m 0).toInt
  | 1 => trunc44 (res + (v 0).toInt * (m 0).toInt) + (v 1).toInt * (m 1).toInt
  | 2 => trunc44 (trunc44 (res + (v 0).toInt * (m 0).toInt) + (v 1).toInt * (m 1).toInt)
      + (v 2).toInt * (m 2).toInt

/-- The partial sum of V0 rotated and translated. -/
def rotated (g : Gte) (r : Fin 3) : Fin 3 → ℤ :=
  partialSum (shl64 (g.controlVectors ControlVector.translation.index r).toInt 12) (g.v 0)
    (g.matrices 0 r)

/-- A sum too large for 44 bits. -/
def Over (val : ℤ) : Prop := val > 0x7ffffffffff

/-- A sum too small for 44 bits. -/
def Under (val : ℤ) : Prop := val < -0x80000000000

instance (val : ℤ) : Decidable (Over val) := inferInstanceAs (Decidable (val > _))

instance (val : ℤ) : Decidable (Under val) := inferInstanceAs (Decidable (val < _))

/-! ### Flags -/

def HasFlag (g : Gte) (bit : ℕ) : Prop := g.flags.getLsbD bit = true

lemma hasFlag_setFlag (g : Gte) {bit : ℕ} (hbit : bit < 32) (k : ℕ) :
    (g.setFlag bit).HasFlag k ↔ g.HasFlag k ∨ k = bit := by
  simp only [HasFlag, setFlag, BitVec.getLsbD_or, Bool.or_eq_true, BitVec.getLsbD_shiftLeft,
    BitVec.getLsbD_one]
  constructor
  · rintro (h | h)
    · exact .inl h
    · simp only [Bool.and_eq_true, decide_eq_true_eq, Bool.not_eq_true', decide_eq_false_iff_not]
        at h
      exact .inr (by omega)
  · rintro (h | rfl)
    · exact .inl h
    · exact .inr (by simp [hbit])

/-- The bit `k` is the one a sum is reported with for the accumulator `flag`. -/
def Reports (flag : ℕ) (val : ℤ) (k : ℕ) : Prop :=
  Over val ∧ k = 30 - flag ∨ Under val ∧ k = 27 - flag

lemma i64ToI44_reports (g : Gte) (flag : ℕ) (val : ℤ) :
    (g.i64ToI44 flag val).1 = trunc44 val ∧ SameButFlags g (g.i64ToI44 flag val).2 ∧
      ∀ k, (g.i64ToI44 flag val).2.HasFlag k ↔ g.HasFlag k ∨ Reports flag val k := by
  refine ⟨rfl, ?_, fun k => ?_⟩
  · simp only [i64ToI44]
    split_ifs <;> rfl
  · simp only [i64ToI44]
    split_ifs with hover hunder
    · rw [hasFlag_setFlag _ (by omega), Reports, Over, Under]
      constructor
      · rintro (h | h)
        · exact .inl h
        · exact .inr (.inl ⟨hover, h⟩)
      · rintro (h | ⟨-, h⟩ | ⟨h, -⟩)
        · exact .inl h
        · exact .inr h
        · omega
    · rw [hasFlag_setFlag _ (by omega), Reports, Over, Under]
      constructor
      · rintro (h | h)
        · exact .inl h
        · exact .inr (.inr ⟨hunder, h⟩)
      · rintro (h | ⟨h, -⟩ | ⟨-, h⟩)
        · exact .inl h
        · exact absurd h hover
        · exact .inr h
    · rw [Reports, Over, Under]
      constructor
      · exact .inl
      · rintro (h | ⟨h, -⟩ | ⟨h, -⟩)
        · exact h
        · exact absurd h hover
        · exact absurd h hunder

/-! ### Rows -/

/-- Any fault is allowed: that the commands return is known already. -/
def AnyFault : Fault → Prop := fun _ => True

lemma post_check (lo hi x : ℤ) : Post AnyFault (check lo hi x) fun y => y = x := by
  rw [check]
  exact post_ite (fun _ => rfl) fun _ => trivial

lemma post_addProduct (g : Gte) (flag : ℕ) (res : ℤ) (v m : I16) :
    Post AnyFault (g.addProduct flag res v m)
      fun x => x = g.i64ToI44 flag (res + v.toInt * m.toInt) := by
  rw [addProduct, post_bind]
  refine (post_check _ _ _).mono ?_
  rintro _ rfl
  rw [post_bind]
  refine (post_check _ _ _).mono ?_
  rintro _ rfl
  exact rfl

lemma post_accumulate (g : Gte) (flag : Fin 3 → ℕ) (res : ℤ) (v m : Fin 3 → I16) :
    Post AnyFault (g.accumulate flag res v m) fun x => x.1 = trunc44 (partialSum res v m 2) ∧
      SameButFlags g x.2 ∧
      ∀ k, x.2.HasFlag k ↔ g.HasFlag k ∨ ∃ c, Reports (flag c) (partialSum res v m c) k := by
  rw [accumulate, post_bind]
  refine (post_addProduct _ _ _ _ _).mono ?_
  rintro _ rfl
  obtain ⟨-, hframe0, hflag0⟩ := g.i64ToI44_reports (flag 0) (partialSum res v m 0)
  dsimp only
  rw [post_bind]
  refine (post_addProduct _ _ _ _ _).mono ?_
  rintro _ rfl
  obtain ⟨-, hframe1, hflag1⟩ :=
    (g.i64ToI44 (flag 0) (partialSum res v m 0)).2.i64ToI44_reports (flag 1) (partialSum res v m 1)
  refine (post_addProduct _ _ _ _ _).mono ?_
  rintro _ rfl
  obtain ⟨-, hframe2, hflag2⟩ :=
    ((g.i64ToI44 (flag 0) (partialSum res v m 0)).2.i64ToI44 (flag 1)
      (partialSum res v m 1)).2.i64ToI44_reports (flag 2) (partialSum res v m 2)
  refine ⟨rfl, (hframe0.trans hframe1).trans hframe2, fun k => ?_⟩
  rw [Fin.exists_fin_succ, Fin.exists_fin_two, ← or_assoc, ← or_assoc]
  exact (hflag2 k).trans (or_congr_left ((hflag1 k).trans (or_congr_left (hflag0 k))))

/-- What the row `r` of a product does: it stores the sum of the row and sets
the flags of its partial sums, column `c` reporting for `flag c`. -/
structure Row (flag : Fin 3 → ℕ) (shift : ℕ) (r : Fin 3) (g g' : Gte) : Prop where
  frame : g' = { g with mac := g'.mac, flags := g'.flags }
  mac :
    g'.mac = Function.update g.mac r.succ (BitVec.ofInt 32 (asr (trunc44 (g.rotated r 2)) shift))
  flags : ∀ k, g'.HasFlag k ↔ g.HasFlag k ∨ ∃ c, Reports (flag c) (g.rotated r c) k

variable {config : CommandConfig}

lemma SameButFlags.row {flag : Fin 3 → ℕ} {shift : ℕ} {r : Fin 3} {g g' : Gte}
    (h : SameButFlags g g')
    (hflags : ∀ k, g'.HasFlag k ↔ g.HasFlag k ∨ ∃ c, Reports (flag c) (g.rotated r c) k) :
    Row flag shift r g
      (g'.setMac r.succ (BitVec.ofInt 32 (asr (trunc44 (g.rotated r 2)) shift))) where
  frame := by
    rw [h]
    rfl
  mac := by rw [setMac, h.mac]
  flags := hflags

lemma post_rtpRow (g : Gte) (r : Fin 3) : Post AnyFault (rtpRow config 0 g r)
    fun x => Row (fun c => c.val) config.shift r g x.2 := by
  rw [rtpRow, post_bind]
  refine (post_accumulate _ _ _ _ _).mono ?_
  rintro ⟨_, g'⟩ ⟨rfl, hframe, hflags⟩
  exact hframe.row hflags

lemma post_multiplyRow (g : Gte) (r : Fin 3) :
    Post AnyFault (multiplyRow config 0 0 ControlVector.translation.index g r)
      (Row (fun _ => r.val) config.shift r g) := by
  rw [multiplyRow, post_bind]
  refine (post_accumulate _ _ _ _ _).mono ?_
  rintro ⟨_, g'⟩ ⟨rfl, hframe, hflags⟩
  exact hframe.row hflags

lemma Row.rotated {flag : Fin 3 → ℕ} {shift : ℕ} {r : Fin 3} {g g' : Gte}
    (h : Row flag shift r g g') : g'.rotated = g.rotated := by
  rw [h.frame]
  rfl

/-- What the three rows of a product do, `flag r c` being the accumulator that
column `c` of row `r` reports for. -/
structure Rows (flag : Fin 3 → Fin 3 → ℕ) (shift : ℕ) (g g' : Gte) : Prop where
  mac : ∀ r : Fin 3, g'.mac r.succ = BitVec.ofInt 32 (asr (trunc44 (g.rotated r 2)) shift)
  flags : ∀ k, g'.HasFlag k ↔ g.HasFlag k ∨ ∃ r c, Reports (flag r c) (g.rotated r c) k

lemma Row.three {flag : Fin 3 → Fin 3 → ℕ} {shift : ℕ} {g g0 g1 g2 : Gte}
    (h0 : Row (flag 0) shift 0 g g0) (h1 : Row (flag 1) shift 1 g0 g1)
    (h2 : Row (flag 2) shift 2 g1 g2) : Rows flag shift g g2 := by
  have hrot0 := h0.rotated
  have hrot1 : g1.rotated = g.rotated := h1.rotated.trans hrot0
  refine ⟨fun r => ?_, fun k => ?_⟩
  · rw [h2.mac, h1.mac, h0.mac, hrot1, hrot0]
    fin_cases r <;> rfl
  · rw [Fin.exists_fin_succ, Fin.exists_fin_two, ← or_assoc, ← or_assoc]
    have hk2 := h2.flags k
    have hk1 := h1.flags k
    rw [hrot1] at hk2
    rw [hrot0] at hk1
    exact hk2.trans (or_congr_left (hk1.trans (or_congr_left (h0.flags k))))

/-! ### The rest of the commands -/

/-- The accumulators and their overflow flags are kept. -/
structure KeepsSums (g g' : Gte) : Prop where
  mac : ∀ r : Fin 3, g'.mac r.succ = g.mac r.succ
  flags : ∀ k, 25 ≤ k → k ≤ 30 → (g'.HasFlag k ↔ g.HasFlag k)

/-- The accumulators, their flags, IR1 and IR2 are kept. -/
structure Later (g g' : Gte) : Prop extends KeepsSums g g' where
  ir1 : g'.ir 1 = g.ir 1
  ir2 : g'.ir 2 = g.ir 2

lemma KeepsSums.trans {g g' g'' : Gte} (h : KeepsSums g g') (h' : KeepsSums g' g'') :
    KeepsSums g g'' where
  mac r := (h'.mac r).trans (h.mac r)
  flags k hlo hhi := (h'.flags k hlo hhi).trans (h.flags k hlo hhi)

lemma Later.trans {g g' g'' : Gte} (h : Later g g') (h' : Later g' g'') : Later g g'' where
  toKeepsSums := h.toKeepsSums.trans h'.toKeepsSums
  ir1 := h'.ir1.trans h.ir1
  ir2 := h'.ir2.trans h.ir2

lemma later_refl (g : Gte) : Later g g := ⟨⟨fun _ => rfl, fun _ _ _ => Iff.rfl⟩, rfl, rfl⟩

/-- The flags of the other conversions are below those of the sums. -/
lemma later_setFlag (g : Gte) {bit : ℕ} (hbit : bit ≤ 24) : Later g (g.setFlag bit) where
  mac _ := rfl
  flags k hlo _ := by
    rw [hasFlag_setFlag g (by omega)]
    exact or_iff_left (by omega)
  ir1 := rfl
  ir2 := rfl

lemma later_setMac0 (g : Gte) (val : I32) : Later g (g.setMac 0 val) where
  mac r := Function.update_of_ne (Fin.succ_ne_zero r) val g.mac
  flags _ _ _ := Iff.rfl
  ir1 := rfl
  ir2 := rfl

lemma later_setIr (g : Gte) {i : Fin 4} (h1 : i ≠ 1) (h2 : i ≠ 2) (val : I16) :
    Later g (g.setIr i val) where
  mac _ := rfl
  flags _ _ _ := Iff.rfl
  ir1 := by simp [setIr, Function.update_of_ne h1.symm]
  ir2 := by simp [setIr, Function.update_of_ne h2.symm]

lemma later_setZ (g : Gte) (i : Fin 4) (val : U16) : Later g (g.setZ i val) :=
  ⟨⟨fun _ => rfl, fun _ _ _ => Iff.rfl⟩, rfl, rfl⟩

lemma later_setXy (g : Gte) (i : Fin 4) (val : I16 × I16) : Later g (g.setXy i val) :=
  ⟨⟨fun _ => rfl, fun _ _ _ => Iff.rfl⟩, rfl, rfl⟩

/-- The value IR gets from an accumulator. -/
def satIr (config : CommandConfig) (val : ℤ) : I16 :=
  if val > 0x7fff then BitVec.ofInt 16 0x7fff
  else if val < irMin config then BitVec.ofInt 16 (irMin config)
  else BitVec.ofInt 16 val

lemma i32ToI16Saturate_later (g : Gte) (config : CommandConfig) (flag : ℕ) (val : ℤ) : ∃ g',
    g.i32ToI16Saturate config flag val = (satIr config val, g') ∧ Later g g' := by
  rw [i32ToI16Saturate, ← irMin, satIr]
  split_ifs
  · exact ⟨_, rfl, g.later_setFlag (by omega)⟩
  · exact ⟨_, rfl, g.later_setFlag (by omega)⟩
  · exact ⟨_, rfl, g.later_refl⟩

/-- IR1 and IR2 are computed from the accumulators. -/
structure ToIr (config : CommandConfig) (g g' : Gte) : Prop extends KeepsSums g g' where
  ir1 : g'.ir 1 = satIr config (g.mac 1).toInt
  ir2 : g'.ir 2 = satIr config (g.mac 2).toInt

lemma ToIr.later {g g' g'' : Gte} (h : ToIr config g g') (h' : Later g' g'') :
    ToIr config g g'' where
  toKeepsSums := h.toKeepsSums.trans h'.toKeepsSums
  ir1 := h'.ir1.trans h.ir1
  ir2 := h'.ir2.trans h.ir2

/-- The first two conversions, which both loops are followed by. -/
lemma toIr_saturate {g g1 g2 : Gte} (h1 : Later g g1)
    (h2 : Later (g1.setIr 1 (satIr config (g.mac 1).toInt)) g2) :
    ToIr config g (g2.setIr 2 (satIr config (g.mac 2).toInt)) where
  mac r := (h2.mac r).trans (h1.mac r)
  flags k hlo hhi := (h2.flags k hlo hhi).trans (h1.flags k hlo hhi)
  ir1 := h2.ir1
  ir2 := rfl

lemma macToIr_toIr (g : Gte) : ToIr config g (g.macToIr config) := by
  obtain ⟨g1, h1, hlater1⟩ := g.i32ToI16Saturate_later config 0 (g.mac 1).toInt
  obtain ⟨g2, h2, hlater2⟩ := (g1.setIr 1 (satIr config (g.mac 1).toInt)).i32ToI16Saturate_later
    config 1 (g.mac 2).toInt
  have hmac2 : (g1.setIr 1 (satIr config (g.mac 1).toInt)).mac 2 = g.mac 2 := hlater1.mac 1
  obtain ⟨g3, h3, hlater3⟩ := (g2.setIr 2 (satIr config (g.mac 2).toInt)).i32ToI16Saturate_later
    config 2 ((g2.setIr 2 (satIr config (g.mac 2).toInt)).mac 3).toInt
  simp only [macToIr, h1, hmac2, h2, h3]
  exact ((toIr_saturate hlater1 hlater2).later hlater3).later
    (g3.later_setIr (by decide) (by decide) _)

lemma rtpToIr_toIr (g : Gte) (config : CommandConfig) (z : ℤ) :
    ToIr config g (g.rtpToIr config z) := by
  obtain ⟨g1, h1, hlater1⟩ := g.i32ToI16Saturate_later config 0 (g.mac 1).toInt
  obtain ⟨g2, h2, hlater2⟩ := (g1.setIr 1 (satIr config (g.mac 1).toInt)).i32ToI16Saturate_later
    config 1 (g.mac 2).toInt
  have hmac2 : (g1.setIr 1 (satIr config (g.mac 1).toInt)).mac 2 = g.mac 2 := hlater1.mac 1
  have hir := toIr_saturate hlater1 hlater2
  simp only [rtpToIr, h1, hmac2, h2]
  generalize g2.setIr 2 (satIr config (g.mac 2).toInt) = g3 at hir
  have hflag : Later g3 (if z > 0x7fff ∨ z < -0x8000 then g3.setFlag 22 else g3) := by
    split_ifs
    · exact g3.later_setFlag (by norm_num)
    · exact g3.later_refl
  exact (hir.later hflag).later (later_setIr _ (by decide) (by decide) _)

lemma pushZ_later (g : Gte) (z : ℤ) : Later g (g.pushZ z).2 := by
  have hpush (g : Gte) (z : U16) : Later g
      ((((g.setZ 0 (g.zFifo 1)).setZ 1 (g.zFifo 2)).setZ 2 (g.zFifo 3)).setZ 3 z) :=
    (((g.later_setZ ..).trans (later_setZ ..)).trans (later_setZ ..)).trans (later_setZ ..)
  rw [pushZ]
  split_ifs
  · exact (g.later_setFlag (by norm_num)).trans (hpush _ _)
  · exact (g.later_setFlag (by norm_num)).trans (hpush _ _)
  · exact hpush g _

lemma post_projectionFactor (g : Gte) (z : U16) :
    Post AnyFault (g.projectionFactor z) fun x => Later g x.2 := by
  rw [projectionFactor]
  refine post_ite (fun _ => ?_) fun _ => g.later_setFlag (by norm_num)
  rw [post_bind]
  cases divide g.h z with
  | error e => exact trivial
  | ok q => exact g.later_refl

lemma checkMacOverflow_later (g : Gte) (val : ℤ) : Later g (g.checkMacOverflow val) := by
  rw [checkMacOverflow]
  split_ifs
  · exact g.later_setFlag (by norm_num)
  · exact g.later_setFlag (by norm_num)
  · exact g.later_refl

lemma i32ToI11Saturate_later (g : Gte) (flag : ℕ) (val : ℤ) :
    Later g (g.i32ToI11Saturate flag val).2 := by
  rw [i32ToI11Saturate]
  split_ifs
  · exact g.later_setFlag (by omega)
  · exact g.later_setFlag (by omega)
  · exact g.later_refl

lemma post_pushXy (g : Gte) (f : U32) : Post AnyFault (g.pushXy f) (Later g) := by
  have hpush (g : Gte) (xy : I16 × I16) : Later g
      ((((g.setXy 3 xy).setXy 0 (g.xyFifo 1)).setXy 1 (g.xyFifo 2)).setXy 2 xy) :=
    (((g.later_setXy ..).trans (later_setXy ..)).trans (later_setXy ..)).trans (later_setXy ..)
  rw [pushXy]
  simp only [post_bind]
  refine (post_check _ _ _).mono fun _ _ => ?_
  refine (post_check _ _ _).mono fun screenX _ => ?_
  refine (post_check _ _ _).mono fun _ _ => ?_
  refine (post_check _ _ _).mono fun screenY _ => ?_
  exact ((((g.checkMacOverflow_later screenX).trans (checkMacOverflow_later _ screenY)).trans
    (i32ToI11Saturate_later _ 0 _)).trans (i32ToI11Saturate_later _ 1 _)).trans (hpush _ _)

lemma post_depthQueuing (g : Gte) (f : U32) : Post AnyFault (g.depthQueuing f) (Later g) := by
  rw [depthQueuing]
  simp only [post_bind]
  refine (post_check _ _ _).mono fun _ _ => (post_check _ _ _).mono fun depth _ => ?_
  have hstore := (g.checkMacOverflow_later depth).trans
    (later_setMac0 _ (BitVec.ofInt 32 depth))
  rw [post_pure]
  split_ifs
  · exact (hstore.trans (later_setFlag _ (by norm_num))).trans
      (later_setIr _ (by decide) (by decide) _)
  · exact (hstore.trans (later_setFlag _ (by norm_num))).trans
      (later_setIr _ (by decide) (by decide) _)
  · exact hstore.trans (later_setIr _ (by decide) (by decide) _)

/-! ### The two commands -/

lemma post_cmdRtps (g : Gte) : Post AnyFault (g.cmdRtps config) fun g' =>
    ∃ s, Rows (fun _ c => c.val) config.shift g s ∧ ToIr config s g' := by
  simp only [cmdRtps, doRtp, post_bind, post_pure]
  refine (post_rtpRow g 0).mono fun x0 h0 => (post_rtpRow x0.2 1).mono fun x1 h1 =>
    (post_rtpRow x1.2 2).mono fun x2 h2 => ?_
  have hir := (x2.2.rtpToIr_toIr config (wrap32 (asr x2.1 12))).later
    (pushZ_later _ (wrap32 (asr x2.1 12)))
  refine (post_projectionFactor _ _).mono fun x3 h3 => (post_pushXy x3.2 x3.1).mono fun g4 h4 =>
    (post_depthQueuing g4 x3.1).mono fun g5 h5 => ?_
  exact ⟨x2.2, h0.three h1 h2, ((hir.later h3).later h4).later h5⟩

/-- MVMVA with the operands of the transformation. -/
lemma post_cmdMvmva (g : Gte) (hmatrix : config.matrix = .rotation) (hvector : config.vectorMul = 0)
    (hadd : config.vectorAdd = .translation) : Post AnyFault (g.cmdMvmva config) fun g' =>
      ∃ s, Rows (fun r _ => r.val) config.shift g s ∧ ToIr config s g' := by
  rw [cmdMvmva, hmatrix, hvector, hadd, multiplyMatrixByVector]
  simp only [Matrix.index, reduceCtorEq, if_false, eachComponent, post_bind, post_pure]
  refine (post_multiplyRow _ 0).mono fun g0 h0 => (post_multiplyRow g0 1).mono fun g1 h1 =>
    (post_multiplyRow g1 2).mono fun g2 h2 => ?_
  have hrows : Rows (fun r _ => r.val) config.shift g.irToV3 g2 := h0.three h1 h2
  exact ⟨g2, ⟨hrows.mac, hrows.flags⟩, g2.macToIr_toIr⟩

lemma reports_over {flag : ℕ} (hflag : flag ≤ 2) (val : ℤ) (j : Fin 3) :
    Reports flag val (30 - j.val) ↔ Over val ∧ flag = j.val := by
  have hj := j.isLt
  constructor
  · rintro (⟨h, hk⟩ | ⟨-, hk⟩)
    · exact ⟨h, by omega⟩
    · omega
  · rintro ⟨h, rfl⟩
    exact .inl ⟨h, rfl⟩

lemma reports_under {flag : ℕ} (hflag : flag ≤ 2) (val : ℤ) (j : Fin 3) :
    Reports flag val (27 - j.val) ↔ Under val ∧ flag = j.val := by
  have hj := j.isLt
  constructor
  · rintro (⟨-, hk⟩ | ⟨h, hk⟩)
    · omega
    · exact ⟨h, by omega⟩
  · rintro ⟨h, rfl⟩
    exact .inr ⟨h, rfl⟩

/-- MAC1 to MAC3, IR1, IR2 and the flags of the 44 bit sums are the same. -/
structure Agree (a b : Gte) : Prop where
  mac : ∀ r : Fin 3, a.mac r.succ = b.mac r.succ
  ir1 : a.ir 1 = b.ir 1
  ir2 : a.ir 2 = b.ir 2
  flags : ∀ k, 25 ≤ k → k ≤ 30 → (a.HasFlag k ↔ b.HasFlag k)

/-- An overflow in a row of the product is reported for the accumulator of the
row. -/
def ReportsRows (g a : Gte) : Prop :=
  ∀ r c : Fin 3, (Over (g.rotated r c) → a.HasFlag (30 - r.val)) ∧
    (Under (g.rotated r c) → a.HasFlag (27 - r.val))

/-- A partial sum of column `k` overflows exactly if one of row `k` does, in
either direction. -/
def ColumnsMatchRows (p : Fin 3 → Fin 3 → ℤ) : Prop :=
  ∀ k, ((∃ r, Over (p r k)) ↔ ∃ c, Over (p k c)) ∧ ((∃ r, Under (p r k)) ↔ ∃ c, Under (p k c))

instance (p : Fin 3 → Fin 3 → ℤ) : Decidable (ColumnsMatchRows p) :=
  inferInstanceAs (Decidable (∀ _, _ ∧ _))

section Flags

variable {shift : ℕ} {g s a : Gte} (hclear : ∀ k, ¬g.HasFlag k) (hkeeps : KeepsSums s a)

include hclear hkeeps

lemma hasFlag_columns (h : Rows (fun _ c => c.val) shift g s) (j : Fin 3) :
    (a.HasFlag (30 - j.val) ↔ ∃ r, Over (g.rotated r j)) ∧
      (a.HasFlag (27 - j.val) ↔ ∃ r, Under (g.rotated r j)) := by
  have hj := j.isLt
  rw [hkeeps.flags _ (by omega) (by omega), h.flags, or_iff_right (hclear _),
    hkeeps.flags _ (by omega) (by omega), h.flags, or_iff_right (hclear _)]
  simp only [reports_over (Nat.le_of_lt_succ (Fin.isLt _)),
    reports_under (Nat.le_of_lt_succ (Fin.isLt _)), ← Fin.ext_iff]
  simp

lemma hasFlag_rows (h : Rows (fun r _ => r.val) shift g s) (j : Fin 3) :
    (a.HasFlag (30 - j.val) ↔ ∃ c, Over (g.rotated j c)) ∧
      (a.HasFlag (27 - j.val) ↔ ∃ c, Under (g.rotated j c)) := by
  have hj := j.isLt
  rw [hkeeps.flags _ (by omega) (by omega), h.flags, or_iff_right (hclear _),
    hkeeps.flags _ (by omega) (by omega), h.flags, or_iff_right (hclear _)]
  simp only [reports_over (Nat.le_of_lt_succ (Fin.isLt _)),
    reports_under (Nat.le_of_lt_succ (Fin.isLt _)), ← Fin.ext_iff]
  simp

end Flags

/-- The top bit is not a flag of the sums. -/
lemma updateMsb_later (g : Gte) : Later g g.updateMsb where
  mac _ := rfl
  flags k _ hhi := by
    have hbit (c : U32) : (c <<< 31).getLsbD k = false := by
      rw [BitVec.getLsbD_shiftLeft]
      simp [show k < 31 by omega]
    rw [HasFlag, updateMsb, BitVec.getLsbD_or, hbit, Bool.or_false, HasFlag]
  ir1 := rfl
  ir2 := rfl

/-- A bit of the sums is the flag of an accumulator in one of the directions. -/
lemma sumFlag_cases {k : ℕ} (hlo : 25 ≤ k) (hhi : k ≤ 30) :
    ∃ j : Fin 3, k = 30 - j.val ∨ k = 27 - j.val := by
  rcases Nat.lt_or_ge k 28 with h | h
  · exact ⟨⟨27 - k, by omega⟩, .inr (by dsimp only; omega)⟩
  · exact ⟨⟨30 - k, by omega⟩, .inl (by dsimp only; omega)⟩

lemma satIr_congr {config config' : CommandConfig}
    (h : config.clampNegative = config'.clampNegative) (val : ℤ) :
    satIr config val = satIr config' val := by
  rw [satIr, satIr, irMin, irMin, h]

/-- What is left of the two commands, compared. -/
lemma agree_iff {config config' : CommandConfig} {g s s' a b : Gte}
    (hclear : ∀ k, ¬g.HasFlag k) (hshift : config.shift = config'.shift)
    (hclamp : config.clampNegative = config'.clampNegative)
    (hcols : Rows (fun _ c => c.val) config.shift g s) (hir : ToIr config s a)
    (hrows : Rows (fun r _ => r.val) config'.shift g s') (hir' : ToIr config' s' b) :
    Agree a b ∧ ReportsRows g a ∧ ReportsRows g b ↔ ColumnsMatchRows g.rotated := by
  have hflags := hasFlag_columns hclear hir.toKeepsSums hcols
  have hflags' := hasFlag_rows hclear hir'.toKeepsSums hrows
  have hmac : ∀ r : Fin 3, s.mac r.succ = s'.mac r.succ := fun r => by
    rw [hcols.mac, hrows.mac, hshift]
  constructor
  · rintro ⟨hagree, -, -⟩ k
    have hk := k.isLt
    have hover := hagree.flags (30 - k.val) (by omega) (by omega)
    have hunder := hagree.flags (27 - k.val) (by omega) (by omega)
    rw [(hflags k).1, (hflags' k).1] at hover
    rw [(hflags k).2, (hflags' k).2] at hunder
    exact ⟨hover, hunder⟩
  · intro hsym
    refine ⟨⟨fun r => ?_, ?_, ?_, fun k hlo hhi => ?_⟩, fun r c => ⟨fun h => ?_, fun h => ?_⟩,
      fun r c => ⟨fun h => ?_, fun h => ?_⟩⟩
    · rw [hir.mac, hir'.mac, hmac]
    · rw [hir.ir1, hir'.ir1, satIr_congr hclamp]
      exact congrArg (fun w : I32 => satIr config' w.toInt) (hmac 0)
    · rw [hir.ir2, hir'.ir2, satIr_congr hclamp]
      exact congrArg (fun w : I32 => satIr config' w.toInt) (hmac 1)
    · obtain ⟨j, rfl | rfl⟩ := sumFlag_cases hlo hhi
      · rw [(hflags j).1, (hflags' j).1]
        exact (hsym j).1
      · rw [(hflags j).2, (hflags' j).2]
        exact (hsym j).2
    · exact (hflags r).1.mpr ((hsym r).1.mpr ⟨c, h⟩)
    · exact (hflags r).2.mpr ((hsym r).2.mpr ⟨c, h⟩)
    · exact (hflags' r).1.mpr ⟨c, h⟩
    · exact (hflags' r).2.mpr ⟨c, h⟩

/-- RTPS, and MVMVA with the rotation matrix, V0 and the translation, agree and
report overflows by rows exactly when every column overflows if and only if the
row of the same number does. -/
theorem rtps_mvmva_agree_iff (g : Gte) (w w' : U32)
    (hrtps : Opcode.decode (w &&& 0x3f).toNat = some .rtps)
    (hmvmva : Opcode.decode (w' &&& 0x3f).toNat = some .mvmva)
    (hmatrix : (CommandConfig.fromCommand w').matrix = .rotation)
    (hvector : (CommandConfig.fromCommand w').vectorMul = 0)
    (hadd : (CommandConfig.fromCommand w').vectorAdd = .translation)
    (hshift : (CommandConfig.fromCommand w).shift = (CommandConfig.fromCommand w').shift)
    (hclamp : (CommandConfig.fromCommand w).clampNegative =
      (CommandConfig.fromCommand w').clampNegative) :
    ∃ a b, g.command w = .ok a ∧ g.command w' = .ok b ∧
      (Agree a b ∧ ReportsRows g a ∧ ReportsRows g b ↔ ColumnsMatchRows g.rotated) := by
  obtain ⟨a, ha, -⟩ := runOpcode_refines (shift_le w) .rtps nofun { g with flags := 0 }
  obtain ⟨b, hb, -⟩ := runOpcode_refines (shift_le w') .mvmva
    (fun _ => ⟨by rw [hmatrix]; nofun, by rw [hadd]; nofun⟩) { g with flags := 0 }
  obtain ⟨s, hcols, hir⟩ := (post_cmdRtps { g with flags := 0 }).of_ok ha
  obtain ⟨s', hrows, hir'⟩ :=
    (post_cmdMvmva { g with flags := 0 } hmatrix hvector hadd).of_ok hb
  refine ⟨a.updateMsb, b.updateMsb, ?_, ?_, ?_⟩
  · simp only [command, hrtps]
    exact congrArg (· >>= fun g => pure g.updateMsb) ha
  · simp only [command, hmvmva]
    exact congrArg (· >>= fun g => pure g.updateMsb) hb
  · have hclear : ∀ k, ¬Gte.HasFlag { g with flags := 0 } k := fun k => by simp [HasFlag]
    have hiff := agree_iff hclear hshift hclamp hcols (hir.later a.updateMsb_later) hrows
      (hir'.later b.updateMsb_later)
    exact hiff

theorem rtps_mvmva_agree_vertexInView : ∃ a b, vertexInView.command 0x00080001 = .ok a ∧
    vertexInView.command 0x00080012 = .ok b ∧ Agree a b := by
  obtain ⟨a, b, ha, hb, hiff⟩ := rtps_mvmva_agree_iff vertexInView 0x00080001 0x00080012
    (by decide) (by decide) (by decide) (by decide) (by decide) (by decide) (by decide)
  exact ⟨a, b, ha, hb, (hiff.mpr (by decide +kernel)).1⟩

/-- A vector whose second product overflows the first row. -/
def rowOverflow : Gte :=
  { new with
    matrices := fun mat r c => if mat = 0 ∧ r = 0 ∧ c = 1 then 0x7fff else 0
    controlVectors := fun crv r => if crv = 0 ∧ r = 0 then 0x7fffffff else 0
    v := fun _ => ![0, 0x7fff, 0] }

/-- RTPS reports the overflow of the first row for MAC2, MVMVA for MAC1. -/
theorem rtps_reports_column : Over (rowOverflow.rotated 0 1) ∧
    ∃ a b, rowOverflow.command 0x00080001 = .ok a ∧ rowOverflow.command 0x00080012 = .ok b ∧
      (¬a.HasFlag 30 ∧ a.HasFlag 29) ∧ (b.HasFlag 30 ∧ ¬b.HasFlag 29) ∧ ¬Agree a b ∧
        ¬ReportsRows rowOverflow a := by
  have hover : Over (rowOverflow.rotated 0 1) := by decide +kernel
  obtain ⟨a, ha, hflags⟩ := bind_eq_ok.mp
    (show (rowOverflow.command 0x00080001 >>= fun g => pure g.flags) = .ok 0xa102c000 by
      decide +kernel)
  obtain ⟨b, hb, hflags'⟩ := bind_eq_ok.mp
    (show (rowOverflow.command 0x00080012 >>= fun g => pure g.flags) = .ok 0xc1000000 by
      decide +kernel)
  injection hflags with hflags
  injection hflags' with hflags'
  have ha30 : ¬a.HasFlag 30 := by
    rw [HasFlag, hflags]
    decide
  have hb30 : b.HasFlag 30 := by
    rw [HasFlag, hflags']
    decide
  refine ⟨hover, a, b, ha, hb, ⟨ha30, ?_⟩, ⟨hb30, ?_⟩, fun hagree => ?_, fun hrows => ?_⟩
  · rw [HasFlag, hflags]
    decide
  · rw [HasFlag, hflags']
    decide
  · exact ha30 ((hagree.flags 30 (by norm_num) (by norm_num)).mpr hb30)
  · exact ha30 ((hrows 0 1).1 hover)

end Gte

end Rustation
