import Rustation.Gte.FlagRegister
import Rustation.Gte.TwoRuns

/-!
The commands that transform three vectors, against the commands that transform one.

RTPT, NCDT, NCCT and NCT work on V0, V1 and V2 in turn.  RTPS, NCDS, NCCS and NCS work on V0, clear
the flags first and, in the case of RTPS, queue the depth.

* `Matches`, `Agrees`: the registers after some of the three vectors, for either kind of run;
* `light_step`, `rtp_step`: one more vector;
* `depthQueuing_frame`: what the depth queuing changes;
* `triple_eq_singles`: three single commands with V0 loaded in turn leave the same results, and the
  flags are those of the three together.  The depth queuing of RTPT counts for the last vector only.
-/

namespace Rustation

open Fallible Machine

namespace Gte

/-! ### Between two vectors -/

/-- Load V0. -/
def loadV0 (g : Gte) (x : Fin 3 → I16) : Gte := { g with v := Function.update g.v 0 x }

/-- The data registers 0 and 1 are V0. -/
lemma setData_loadV0 (g : Gte) (xy z : U32) :
    (do (← g.setData 0 xy).setData 1 z)
      = .ok (g.loadV0 ![lowHalf xy, highHalf xy, lowHalf z]) := by
  have hv : ((g.setV 0 0 (lowHalf xy)).setV 0 1 (highHalf xy)).setV 0 2 (lowHalf z)
      = g.loadV0 ![lowHalf xy, highHalf xy, lowHalf z] := by
    simp only [setV, loadV0, Function.update_self, Function.update_idem]
    congr 2
    ext i
    fin_cases i <;> rfl
  exact congrArg Except.ok hv

/-- The registers agree but for the vectors, the flags, MAC0 and IR0. -/
def Matches (t s : Gte) : Prop :=
  t = { s with
    v := t.v
    flags := t.flags
    mac := Function.update s.mac 0 (t.mac 0)
    ir := Function.update s.ir 0 (t.ir 0) }

/-- The registers agree but for the vectors and the flags. -/
structure Agrees (t s : Gte) : Prop where
  rest : Matches t s
  mac0 : t.mac 0 = s.mac 0
  ir0 : t.ir 0 = s.ir 0

/-- A command starts with the flags cleared. -/
lemma agrees_cleared (g : Gte) : Agrees { g with flags := 0 } g := by
  refine ⟨?_, rfl, rfl⟩
  simp [Matches]

/-- The difference that the next vector starts with, `x` being loaded into V0. -/
def apart (t s : Gte) (x : Fin 3 → I16) : Apart where
  v := t.v
  v' := (s.loadV0 x).v
  mac0 := t.mac 0
  mac0' := s.mac 0
  ir0 := t.ir 0
  ir0' := s.ir 0
  flags := t.flags

variable {t s : Gte}

lemma Matches.sim (h : Matches t s) (x : Fin 3 → I16) :
    Sim (apart t s x) t { s.loadV0 x with flags := 0 } := by
  refine ⟨?_, rfl, rfl, rfl⟩
  have hflags : (0 : U32) ||| t.flags = t.flags := BitVec.zero_or
  dsimp only [apart, loadV0]
  rw [hflags]
  exact h

lemma Sim.matches {d : Apart} (h : Sim d t s) : Matches t s := by
  rw [Matches, h.fst_v, h.fst_flags, h.fst_mac0, h.fst_ir0]
  exact h.rest

lemma Matches.trans {r : Gte} (h : Matches t s) (h' : Matches s r) : Matches t r := by
  rw [Matches] at h h'
  rw [Matches, h, h']
  simp

lemma apart_v (t s : Gte) {i : Fin 4} {x : Fin 3 → I16} (hx : t.v i = x) :
    (apart t s x).v i = (apart t s x).v' 0 :=
  hx.trans (Function.update_self 0 x s.v).symm

/-- The top bit of the flags is not looked at. -/
lemma Matches.updateMsb (h : Matches t s) : Matches t s.updateMsb := h

lemma Agrees.updateMsb (h : Agrees t s) : Agrees t s.updateMsb := ⟨h.rest, h.mac0, h.ir0⟩

/-! ### One more vector -/

/-- A part of a command that does the same in two runs, on any vectors. -/
def Uniform (body : Gte → CommandConfig → Fin 4 → Outcome Gte) : Prop :=
  ∀ ⦃d : Apart⦄ ⦃g s : Gte⦄, Sim d g s → d.ir0 = d.ir0' → ∀ config ⦃i j : Fin 4⦄, d.v i = d.v' j →
    Related (SimAfter d) (body g config i) (body s config j)

/-- Lighting: the vector `i` in one run, V0 with the same contents in the other. -/
lemma light_step {body : Gte → CommandConfig → Fin 4 → Outcome Gte} (hbody : Uniform body)
    {config : CommandConfig} (hreturns : ∀ g i, ∃ g', body g config i = .ok g')
    (h : Agrees t s) {i : Fin 4} {x : Fin 3 → I16} (hx : t.v i = x) :
    ∃ t' p, body t config i = .ok t' ∧ body { s.loadV0 x with flags := 0 } config 0 = .ok p
      ∧ Agrees t' p ∧ t'.flags = p.flags ||| t.flags ∧ ∀ k ≠ 3, t'.v k = t.v k := by
  obtain ⟨t', ht'⟩ := hreturns t i
  obtain ⟨p, hp⟩ := hreturns { s.loadV0 x with flags := 0 } 0
  obtain ⟨v, v', hv, hsim⟩ :=
    (hbody (h.rest.sim x) h.ir0 config (apart_v t s hx)).of_ok ht' hp
  refine ⟨t', p, ht', hp, ⟨hsim.matches, ?_, ?_⟩, hsim.fst_flags, fun k hk => ?_⟩
  · rw [hsim.fst_mac0, hsim.mac0]
    exact h.mac0
  · rw [hsim.fst_ir0, hsim.ir0]
    exact h.ir0
  · rw [hsim.fst_v]
    exact hv k hk

/-- Perspective transformation, without the depth queuing. -/
lemma rtp_step (config : CommandConfig) (h : Matches t s) {i : Fin 4} {x : Fin 3 → I16}
    (hx : t.v i = x) :
    ∃ f t' q, t.doRtp config i = .ok (f, t')
      ∧ { s.loadV0 x with flags := 0 }.doRtp config 0 = .ok (f, q) ∧ f.toNat ≤ 0x1ffff
      ∧ Sim (apart t s x) t' q := by
  obtain ⟨f, t', ht', hf, -⟩ := t.doRtp_spec config i
  obtain ⟨f', q, hq, -, -⟩ := doRtp_spec { s.loadV0 x with flags := 0 } config 0
  obtain ⟨rfl, hsim⟩ := ((h.sim x).doRtp config (apart_v t s hx)).of_ok ht' hq
  exact ⟨f, t', q, ht', hq, hf, hsim⟩

/-! ### Depth queuing -/

lemma hasFlag_checkMacOverflow (g : Gte) (val : ℤ) {k : ℕ} (h15 : k ≠ 15) (h16 : k ≠ 16) :
    (g.checkMacOverflow val).HasFlag k ↔ g.HasFlag k := by
  rw [checkMacOverflow]
  split_ifs
  · rw [hasFlag_setFlag _ (by decide)]
    exact or_iff_left h15
  · rw [hasFlag_setFlag _ (by decide)]
    exact or_iff_left h16
  · exact Iff.rfl

/-- The depth queuing changes MAC0, IR0 and three of the flags. -/
lemma depthQueuing_frame (q : Gte) {f : U32} (hf : f.toNat ≤ 0x1ffff) :
    ∃ p, q.depthQueuing f = .ok p ∧ Matches q p
      ∧ ∀ k, k ≠ 12 → k ≠ 15 → k ≠ 16 → (p.HasFlag k ↔ q.HasFlag k) := by
  obtain ⟨p, hp, -⟩ := q.depthQueuing_spec hf
  refine ⟨p, hp, ?_⟩
  have hstored (g : Gte) (m : I32) (x : I16) (hg : SameButFlags q g) :
      Matches q ((g.setMac 0 m).setIr 0 x) := by
    rw [Matches, hg]
    simp [setMac, setIr]
  rw [depthQueuing] at hp
  obtain ⟨product, -, hp⟩ := bind_eq_ok.mp hp
  obtain ⟨depth, -, hp⟩ := bind_eq_ok.mp hp
  obtain rfl := Except.ok.inj hp
  have hcheck := (checkMacOverflow_spec q depth).1
  have hkeep {k : ℕ} (h15 : k ≠ 15) (h16 : k ≠ 16) :
      ((q.checkMacOverflow depth).setMac 0 (BitVec.ofInt 32 depth)).HasFlag k ↔ q.HasFlag k :=
    q.hasFlag_checkMacOverflow depth h15 h16
  have hset {k : ℕ} (h12 : k ≠ 12) (h15 : k ≠ 15) (h16 : k ≠ 16) :
      (((q.checkMacOverflow depth).setMac 0 (BitVec.ofInt 32 depth)).setFlag 12).HasFlag k
        ↔ q.HasFlag k := by
    rw [hasFlag_setFlag _ (by decide), hkeep h15 h16]
    exact or_iff_left h12
  split_ifs
  · exact ⟨hstored _ _ _ (hcheck.trans (sameButFlags_setFlag _ 12)), fun _ => hset⟩
  · exact ⟨hstored _ _ _ (hcheck.trans (sameButFlags_setFlag _ 12)), fun _ => hset⟩
  · exact ⟨hstored _ _ _ hcheck, fun _ _ => hkeep⟩

/-! ### The commands -/

/-- The single command of a triple one. -/
def Opcode.single : Opcode → Option Opcode
  | .rtpt => some .rtps
  | .ncdt => some .ncds
  | .ncct => some .nccs
  | .nct => some .ncs
  | _ => none

/-- The results of the commands. -/
structure SameResults (t s : Gte) : Prop where
  mac : t.mac = s.mac
  ir : t.ir = s.ir
  xyFifo : t.xyFifo = s.xyFifo
  zFifo : t.zFifo = s.zFifo
  rgbFifo : t.rgbFifo = s.rgbFifo

/-- The transformation of V0 sets the flag bit `k` without the depth queuing. -/
def Projects (config : CommandConfig) (g : Gte) (k : ℕ) : Prop :=
  ∃ f p, { g with flags := 0 }.doRtp config 0 = .ok (f, p) ∧ p.HasFlag k

/-- What one of the first two vectors contributes to the flag bit `k` of a triple command: the flag
of the single command from `before` to `after`, but not what the depth queuing of RTPS adds. -/
def Contributes (opcode : Opcode) (config : CommandConfig) (before after : Gte) (k : ℕ) : Prop :=
  if opcode = .rtpt ∧ (k = 12 ∨ k = 15 ∨ k = 16) then Projects config before k else after.HasFlag k

/-- The command `w` on three vectors, `t` being its result, against three times `w'` on one vector,
with V0 loaded in turn with V0, V1 and V2: the same results at the end, and for the flags 30 to 12
the contributions of the three together.  The top bit sums up the others. -/
structure Unrolled (opcode : Opcode) (w w' : U32) (g t s₀ s₁ s₂ : Gte) : Prop where
  all : g.command w = .ok t
  first : (g.loadV0 (g.v 0)).command w' = .ok s₀
  second : (s₀.loadV0 (g.v 1)).command w' = .ok s₁
  third : (s₁.loadV0 (g.v 2)).command w' = .ok s₂
  results : SameResults t s₂
  flags : ∀ k, 12 ≤ k → k ≤ 30 → (t.HasFlag k ↔
    Contributes opcode (CommandConfig.fromCommand w') (g.loadV0 (g.v 0)) s₀ k
      ∨ Contributes opcode (CommandConfig.fromCommand w') (s₀.loadV0 (g.v 1)) s₁ k ∨ s₂.HasFlag k)
  summary : WellFormedFlags t.flags

lemma Agrees.sameResults (h : Agrees t s) : SameResults t.updateMsb s.updateMsb := by
  suffices hsame : SameResults t s from
    ⟨hsame.mac, hsame.ir, hsame.xyFifo, hsame.zFifo, hsame.rgbFifo⟩
  obtain ⟨hrest, hmac0, hir0⟩ := h
  rw [Matches, hmac0, hir0, Function.update_eq_self, Function.update_eq_self] at hrest
  rw [hrest]
  exact ⟨rfl, rfl, rfl, rfl, rfl⟩

/-- The flags that a command reports are below the top bit. -/
lemma hasFlag_updateMsb (g : Gte) {k : ℕ} (hk : k ≤ 30) : g.updateMsb.HasFlag k ↔ g.HasFlag k := by
  have hbit (c : U32) : (c <<< 31).getLsbD k = false := by
    rw [BitVec.getLsbD_shiftLeft]
    simp [show k < 31 by omega]
  rw [HasFlag, updateMsb, BitVec.getLsbD_or, hbit, Bool.or_false, HasFlag]

lemma hasFlag_or {t' p : Gte} (h : t'.flags = p.flags ||| t.flags) (k : ℕ) :
    t'.HasFlag k ↔ p.HasFlag k ∨ t.HasFlag k := by
  rw [HasFlag, h, BitVec.getLsbD_or, Bool.or_eq_true, HasFlag, HasFlag]

/-- The flags of three steps that start with none. -/
lemma hasFlag_three (t₀ : Gte) {t₁ t₂ t₃ p₀ p₁ p₂ : Gte} (h₀ : t₀.flags = 0)
    (h₁ : t₁.flags = p₀.flags ||| t₀.flags) (h₂ : t₂.flags = p₁.flags ||| t₁.flags)
    (h₃ : t₃.flags = p₂.flags ||| t₂.flags) (k : ℕ) :
    t₃.HasFlag k ↔ p₀.HasFlag k ∨ p₁.HasFlag k ∨ p₂.HasFlag k := by
  have hnone : ¬ t₀.HasFlag k := by simp [HasFlag, h₀]
  rw [hasFlag_or h₃, hasFlag_or h₂, hasFlag_or h₁, or_iff_left hnone]
  tauto

/-- A single command, from the run of its part on cleared flags. -/
lemma command_of_run {w : U32} {opcode : Opcode}
    (hopcode : Opcode.decode (w &&& 0x3f).toNat = some opcode)
    {g p : Gte} (h : { g with flags := 0 }.runOpcode (CommandConfig.fromCommand w) opcode = .ok p) :
    g.command w = .ok p.updateMsb := by
  rw [command_eq hopcode, h, ok_bind, pure_eq_ok]

variable {g : Gte} {w w' : U32} {opcode opcode' : Opcode}

/-- The flags of the lighting commands. -/
lemma contributes_of_ne (hne : opcode ≠ .rtpt) (config : CommandConfig) (before after : Gte)
    (k : ℕ) : Contributes opcode config before after k ↔ after.HasFlag k := by
  rw [Contributes, if_neg fun h => hne h.1]

/-- Lighting of three vectors. -/
lemma light_triple (hne : opcode ≠ .rtpt) {body : Gte → CommandConfig → Fin 4 → Outcome Gte}
    (hbody : Uniform body)
    (hreturns : ∀ g i, ∃ g', body g (CommandConfig.fromCommand w') i = .ok g')
    (hopcode : Opcode.decode (w &&& 0x3f).toNat = some opcode)
    (hopcode' : Opcode.decode (w' &&& 0x3f).toNat = some opcode')
    (hrun : ∀ (g : Gte) config, g.runOpcode config opcode = triple body g config)
    (hrun' : ∀ (g : Gte) config, g.runOpcode config opcode' = body g config 0)
    (hmode : ∀ g i, body g (CommandConfig.fromCommand w) i
      = body g (CommandConfig.fromCommand w') i) :
    ∃ t s₀ s₁ s₂, Unrolled opcode w w' g t s₀ s₁ s₂ := by
  obtain ⟨t₁, p₀, ht₁, hp₀, h₁, hf₁, hv₁⟩ :=
    light_step hbody hreturns (agrees_cleared g) (i := 0) (x := g.v 0) rfl
  obtain ⟨t₂, p₁, ht₂, hp₁, h₂, hf₂, hv₂⟩ :=
    light_step hbody hreturns h₁.updateMsb (i := 1) (x := g.v 1) (hv₁ 1 (by decide))
  obtain ⟨t₃, p₂, ht₃, hp₂, h₃, hf₃, -⟩ :=
    light_step hbody hreturns h₂.updateMsb (i := 2) (x := g.v 2)
      ((hv₂ 2 (by decide)).trans (hv₁ 2 (by decide)))
  have hall : g.command w = .ok t₃.updateMsb := by
    refine command_of_run hopcode ?_
    rw [hrun, triple, hmode, ht₁, ok_bind, hmode, ht₂, ok_bind, hmode, ht₃]
  have hone {s p : Gte}
      (hp : body { s with flags := 0 } (CommandConfig.fromCommand w') 0 = .ok p) :
      s.command w' = .ok p.updateMsb :=
    command_of_run hopcode' ((hrun' _ _).trans hp)
  refine ⟨t₃.updateMsb, p₀.updateMsb, p₁.updateMsb, p₂.updateMsb, hall,
    hone hp₀, hone hp₁, hone hp₂, h₃.sameResults, fun k _ hk => ?_, command_wellFormed hall⟩
  rw [contributes_of_ne hne, contributes_of_ne hne, hasFlag_updateMsb _ hk, hasFlag_updateMsb _ hk,
    hasFlag_updateMsb _ hk, hasFlag_updateMsb _ hk]
  exact hasFlag_three { g with flags := 0 } rfl hf₁ hf₂ hf₃ k

/-- Without its depth queuing, RTPS sets the flags of the transformation. -/
lemma contributes_rtpt {config : CommandConfig} {before q p : Gte} {f : U32}
    (hq : { before with flags := 0 }.doRtp config 0 = .ok (f, q))
    (hp : ∀ k, k ≠ 12 → k ≠ 15 → k ≠ 16 → (p.HasFlag k ↔ q.HasFlag k)) {k : ℕ} (hk : k ≤ 30) :
    Contributes .rtpt config before p.updateMsb k ↔ q.HasFlag k := by
  by_cases hdepth : k = 12 ∨ k = 15 ∨ k = 16
  · rw [Contributes, if_pos ⟨rfl, hdepth⟩]
    constructor
    · rintro ⟨f', q', hq', hflag⟩
      rw [hq] at hq'
      cases hq'
      exact hflag
    · exact fun hflag => ⟨f, q, hq, hflag⟩
  · rw [Contributes, if_neg fun h => hdepth h.2, hasFlag_updateMsb _ hk]
    obtain ⟨h12, h15, h16⟩ : k ≠ 12 ∧ k ≠ 15 ∧ k ≠ 16 := by
      simpa only [not_or] using hdepth
    exact hp k h12 h15 h16

lemma command_of_rtps (hopcode : Opcode.decode (w &&& 0x3f).toNat = some .rtps) {q p : Gte}
    {f : U32} (hq : { g with flags := 0 }.doRtp (CommandConfig.fromCommand w) 0 = .ok (f, q))
    (hp : q.depthQueuing f = .ok p) : g.command w = .ok p.updateMsb := by
  refine command_of_run hopcode ?_
  rw [runOpcode, cmdRtps, hq, ok_bind]
  exact hp

/-- Perspective transformation of three vectors. -/
lemma rtp_triple (hopcode : Opcode.decode (w &&& 0x3f).toNat = some .rtpt)
    (hopcode' : Opcode.decode (w' &&& 0x3f).toNat = some .rtps)
    (hmode : ∀ (g : Gte) i, g.doRtp (CommandConfig.fromCommand w) i
      = g.doRtp (CommandConfig.fromCommand w') i) :
    ∃ t s₀ s₁ s₂, Unrolled .rtpt w w' g t s₀ s₁ s₂ := by
  obtain ⟨f₀, t₁, q₀, ht₁, hq₀, hf₀, hsim₀⟩ :=
    rtp_step (CommandConfig.fromCommand w') (agrees_cleared g).rest (i := 0) (x := g.v 0) rfl
  obtain ⟨p₀, hp₀, hm₀, hk₀⟩ := q₀.depthQueuing_frame hf₀
  obtain ⟨f₁, t₂, q₁, ht₂, hq₁, hf₁, hsim₁⟩ :=
    rtp_step (CommandConfig.fromCommand w') (hsim₀.matches.trans hm₀).updateMsb (i := 1)
      (x := g.v 1) (congrFun hsim₀.fst_v 1)
  obtain ⟨p₁, hp₁, hm₁, hk₁⟩ := q₁.depthQueuing_frame hf₁
  obtain ⟨f₂, t₃, q₂, ht₃, hq₂, hf₂, hsim₂⟩ :=
    rtp_step (CommandConfig.fromCommand w') (hsim₁.matches.trans hm₁).updateMsb (i := 2)
      (x := g.v 2) ((congrFun hsim₁.fst_v 2).trans (congrFun hsim₀.fst_v 2))
  -- only here do both runs queue the depth, from the same factor
  obtain ⟨p₂, hp₂, -⟩ := q₂.depthQueuing_frame hf₂
  obtain ⟨t, ht, -⟩ := t₃.depthQueuing_frame hf₂
  obtain ⟨m, x, hlast⟩ := (hsim₂.depthQueuing f₂).of_ok ht hp₂
  have hagrees : Agrees t p₂ :=
    ⟨hlast.matches, hlast.fst_mac0.trans hlast.mac0.symm, hlast.fst_ir0.trans hlast.ir0.symm⟩
  have hall : g.command w = .ok t.updateMsb := by
    refine command_of_run hopcode ?_
    rw [runOpcode, cmdRtpt, hmode, ht₁, ok_bind]
    dsimp only
    rw [hmode, ht₂, ok_bind]
    dsimp only
    rw [hmode, ht₃, ok_bind]
    exact ht
  refine ⟨t.updateMsb, p₀.updateMsb, p₁.updateMsb, p₂.updateMsb, hall,
    command_of_rtps hopcode' hq₀ hp₀, command_of_rtps hopcode' hq₁ hp₁,
    command_of_rtps hopcode' hq₂ hp₂, hagrees.sameResults, fun k _ hk => ?_,
    command_wellFormed hall⟩
  rw [hasFlag_updateMsb _ hk, contributes_rtpt hq₀ hk₀ hk, contributes_rtpt hq₁ hk₁ hk,
    hasFlag_updateMsb _ hk]
  exact hasFlag_three { g with flags := 0 } rfl hsim₀.fst_flags hsim₁.fst_flags hlast.fst_flags k

/-! ### Three single commands -/

/-- The same sf and lm. -/
structure SameMode (w w' : U32) : Prop where
  shift : (CommandConfig.fromCommand w).shift = (CommandConfig.fromCommand w').shift
  clampNegative :
    (CommandConfig.fromCommand w).clampNegative = (CommandConfig.fromCommand w').clampNegative

/-- A function that reads only the shift and the clamp of the configuration. -/
lemma SameMode.congr {α : Type} (h : SameMode w w') {f : CommandConfig → α}
    (hf : ∀ config matrix vectorMul vectorAdd, f config =
      f { config with matrix := matrix, vectorMul := vectorMul, vectorAdd := vectorAdd }) :
    f (CommandConfig.fromCommand w) = f (CommandConfig.fromCommand w') := by
  obtain ⟨hshift, hclamp⟩ := h
  generalize CommandConfig.fromCommand w = config at hshift hclamp
  rw [hf config (CommandConfig.fromCommand w').matrix (CommandConfig.fromCommand w').vectorMul
    (CommandConfig.fromCommand w').vectorAdd, hshift, hclamp]

section

variable (h : SameMode w w')
include h

lemma SameMode.macToIr (g : Gte) :
    g.macToIr (CommandConfig.fromCommand w) = g.macToIr (CommandConfig.fromCommand w') :=
  h.congr (f := g.macToIr) fun _ _ _ _ => rfl

lemma SameMode.lightColor (g : Gte) (i : Fin 4) :
    g.lightColor (CommandConfig.fromCommand w) i
      = g.lightColor (CommandConfig.fromCommand w') i := by
  have hrow : multiplyRow (CommandConfig.fromCommand w)
      = multiplyRow (CommandConfig.fromCommand w') := h.congr fun _ _ _ _ => rfl
  simp only [Gte.lightColor, multiplyMatrixByVector, hrow, h.macToIr]

lemma SameMode.doNcd (g : Gte) (i : Fin 4) :
    g.doNcd (CommandConfig.fromCommand w) i = g.doNcd (CommandConfig.fromCommand w') i := by
  have hcue : depthCue (CommandConfig.fromCommand w)
      = depthCue (CommandConfig.fromCommand w') := h.congr fun _ _ _ _ => rfl
  simp only [Gte.doNcd, h.lightColor, cmdDcpl, hcue, h.macToIr]

lemma SameMode.doNcc (g : Gte) (i : Fin 4) :
    g.doNcc (CommandConfig.fromCommand w) i = g.doNcc (CommandConfig.fromCommand w') i := by
  simp only [Gte.doNcc, h.lightColor, applyColor, h.shift, h.macToIr]

lemma SameMode.doNc (g : Gte) (i : Fin 4) :
    g.doNc (CommandConfig.fromCommand w) i = g.doNc (CommandConfig.fromCommand w') i := by
  simp only [Gte.doNc, h.lightColor]

lemma SameMode.doRtp (g : Gte) (i : Fin 4) :
    g.doRtp (CommandConfig.fromCommand w) i = g.doRtp (CommandConfig.fromCommand w') i := by
  have hrow : rtpRow (CommandConfig.fromCommand w)
      = rtpRow (CommandConfig.fromCommand w') := h.congr fun _ _ _ _ => rfl
  have hir (g : Gte) (z : ℤ) : g.rtpToIr (CommandConfig.fromCommand w) z
      = g.rtpToIr (CommandConfig.fromCommand w') z :=
    h.congr (f := fun config => g.rtpToIr config z) fun _ _ _ _ => rfl
  simp only [Gte.doRtp, hrow, hir]

end

lemma single_eq_some : opcode.single = some opcode' ↔
    opcode = .rtpt ∧ opcode' = .rtps ∨ opcode = .ncdt ∧ opcode' = .ncds
      ∨ opcode = .ncct ∧ opcode' = .nccs ∨ opcode = .nct ∧ opcode' = .ncs := by
  cases opcode <;> simp [Opcode.single, eq_comm]

lemma uniform_doNcd : Uniform doNcd := fun _ _ _ h hir0 config _ _ hij => h.doNcd config hir0 hij

lemma uniform_doNcc : Uniform doNcc := fun _ _ _ h _ config _ _ hij => h.doNcc config hij

lemma uniform_doNc : Uniform doNc := fun _ _ _ h _ config _ _ hij => h.doNc config hij

/-- A command on three vectors is three commands on one vector. -/
theorem triple_eq_singles (g : Gte) {w w' : U32} {opcode opcode' : Opcode}
    (hopcode : Opcode.decode (w &&& 0x3f).toNat = some opcode)
    (hopcode' : Opcode.decode (w' &&& 0x3f).toNat = some opcode')
    (hsingle : opcode.single = some opcode') (hmode : SameMode w w') :
    ∃ t s₀ s₁ s₂, Unrolled opcode w w' g t s₀ s₁ s₂ := by
  rcases single_eq_some.mp hsingle with
    ⟨rfl, rfl⟩ | ⟨rfl, rfl⟩ | ⟨rfl, rfl⟩ | ⟨rfl, rfl⟩
  · exact rtp_triple hopcode hopcode' hmode.doRtp
  · exact light_triple (by decide) uniform_doNcd (fun g i => (ncd_refines i g).imp fun _ h => h.1)
      hopcode hopcode' (fun _ _ => rfl) (fun _ _ => rfl) hmode.doNcd
  · exact light_triple (by decide) uniform_doNcc (fun g i => (ncc_refines i g).imp fun _ h => h.1)
      hopcode hopcode' (fun _ _ => rfl) (fun _ _ => rfl) hmode.doNcc
  · exact light_triple (by decide) uniform_doNc (fun g i => (nc_refines i g).imp fun _ h => h.1)
      hopcode hopcode' (fun _ _ => rfl) (fun _ _ => rfl) hmode.doNc

/-- RTPT and RTPS with sf set, from power-on. -/
theorem triple_eq_singles_rtpt :
    Opcode.decode ((0x00080030 : U32) &&& 0x3f).toNat = some .rtpt
      ∧ Opcode.decode ((0x00080001 : U32) &&& 0x3f).toNat = some .rtps
      ∧ SameMode 0x00080030 0x00080001
      ∧ ∃ t s₀ s₁ s₂, Unrolled .rtpt 0x00080030 0x00080001 Gte.new t s₀ s₁ s₂ :=
  ⟨rfl, rfl, ⟨rfl, rfl⟩, triple_eq_singles Gte.new rfl rfl rfl ⟨rfl, rfl⟩⟩

end Gte

end Rustation
