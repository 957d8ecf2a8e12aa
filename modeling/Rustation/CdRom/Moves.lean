import Rustation.CdRom.Sequencer

/-!
Runs of the CD-ROM controller.

* `Move`: what can happen to the sequencer.  The loop body of `sync` and every
  register access is a chain of moves (`post_syncStep`, `post_writeRegister`),
  so an invariant is checked on the moves alone;
* `Reach`: the states under any interleaving of register accesses and
  iterations of the synchronisation loop, with an arbitrary shared state at
  every step.  `Reach.keeps` is the rule for invariants of runs, and the states
  of a run of whole accesses (`runAccesses`) are among those reached;
* `sequencer_safe`: the sub-CPU is in order in every state reached, so no
  assertion of the controller fails and the loop of `sync` terminates.
-/

namespace Rustation

open Fallible

namespace CdRom

variable {I : CdImage}

/-! ### Moves

Every access is a chain of moves, so an invariant of the controller is checked
on the moves alone. -/

/-- What can happen to the sequencer.  `A` restricts the states in which the
host may write the command register. -/
inductive Move (A : CdRom I → Prop) (cd : CdRom I) : CdRom I → Prop where
  /-- something outside of the sequencer changes -/
  | frame {cd' : CdRom I} (hsub : cd'.subCpu = cd.subCpu) (hflags : cd'.irqFlags = cd.irqFlags)
      (hcommand : cd'.command = cd.command) (hlog : cd'.log = cd.log) : Move A cd cd'
  /-- time passes within a step -/
  | wait (timer : U32) (htimer : timer ≠ 0) :
      Move A cd { cd with subCpu := { cd.subCpu with timer := timer } }
  /-- time passes before a second response -/
  | countdown {p : U32 × AsyncHandler} (h : cd.subCpu.asyncResponse = some p)
      (q : U32 × AsyncHandler) :
      Move A cd { cd with subCpu := { cd.subCpu with asyncResponse := some q } }
  | step {cd' : CdRom I} (hin : cd.subCpu.inCommand = true) (h : Step cd cd') : Move A cd cd'
  | answer {cd' : CdRom I} (hr : cd.Ready) (h : Answers cd cd') : Move A cd cd'
  | accept {cd' : CdRom I} (cmd : U8) (hA : A cd) (hnone : cd.command = none)
      (h : Begins ({ cd with command := some cmd }.record (.accepted cmd)) cd') : Move A cd cd'
  | ack {cd' : CdRom I} (v : U8) (h : Begins { cd with irqFlags := cd.irqFlags &&& ~~~v } cd') :
      Move A cd cd'

/-- A chain of moves. -/
abbrev Moves (A : CdRom I → Prop) : CdRom I → CdRom I → Prop := Relation.ReflTransGen (Move A)

variable {A : CdRom I → Prop}

/-- A move keeps the sub-CPU in order. -/
lemma Move.sequenced {cd cd' : CdRom I} (h : Move A cd cd') (hcd : cd.Sequenced) :
    cd'.Sequenced := by
  cases h with
  | frame hsub hflags hcommand hlog =>
      rw [Sequenced, hsub, hflags]
      exact hcd
  | wait timer htimer => exact ⟨hcd.flags, fun _ => htimer, hcd.response, hcd.async, hcd.fresh⟩
  | countdown ha q =>
      refine ⟨hcd.flags, hcd.timer, hcd.response, fun hw => ?_, hcd.fresh⟩
      rw [hcd.async hw] at ha
      cases ha
  | step hin hs => exact hs.sequenced hcd hin
  | answer hr ha => exact ha.sequenced hr
  | accept cmd hA hnone hb => exact hb.sequenced hcd
  | ack v hb =>
      refine hb.sequenced ⟨fun hin => ?_, hcd.timer, hcd.response, hcd.async, hcd.fresh⟩
      simp [hcd.flags hin]

/-- The rule for invariants: what every move from a sub-CPU in order keeps, a
chain of moves keeps. -/
lemma Moves.keeps {P : CdRom I → Prop}
    (hP : ∀ cd cd', Move A cd cd' → cd.Sequenced → P cd → P cd') {cd cd' : CdRom I}
    (h : Moves A cd cd') (hcd : cd.Sequenced) (hp : P cd) : cd'.Sequenced ∧ P cd' := by
  induction h with
  | refl => exact ⟨hcd, hp⟩
  | tail _ hmove ih => exact ⟨hmove.sequenced ih.1, hP _ _ hmove ih.1 ih.2⟩

lemma Moves.sequenced {cd cd' : CdRom I} (h : Moves A cd cd') (hcd : cd.Sequenced) :
    cd'.Sequenced :=
  (h.keeps (P := fun _ => True) (fun _ _ _ _ _ => trivial) hcd trivial).1

/-- A change outside of the sequencer. -/
lemma moves_frame {cd cd' : CdRom I} (hsub : cd'.subCpu = cd.subCpu)
    (hflags : cd'.irqFlags = cd.irqFlags) (hcommand : cd'.command = cd.command)
    (hlog : cd'.log = cd.log) : Moves A cd cd' :=
  .single (.frame hsub hflags hcommand hlog)

/-! ### The synchronisation loop -/

lemma post_maybeProcess_moves (cd : CdRom I) (sh : SharedState) :
    Post Explicit (cd.maybeProcessAsyncResponse sh) fun s => Moves A cd s.1 := by
  refine (cd.post_maybeProcessAsyncResponse sh).mono fun s hs => ?_
  rcases hs with h | ⟨hr, ha⟩
  · rw [h]
  · exact .single (.answer hr ha)

lemma maybeNotifyRead_moves (cd : CdRom I) (sh : SharedState) :
    Moves A cd (cd.maybeNotifyRead sh).1 := by
  rcases cd.maybeNotifyRead_cases sh with h | ⟨hr, ha⟩
  · rw [h]
  · exact .single (.answer hr ha)

/-- The first part of the loop body takes at least one cycle and at most what
is left. -/
lemma post_stepSubCpu {cd : CdRom I} (hcd : cd.Sequenced) (sh : SharedState) {remaining : U32}
    (hrem : remaining ≠ 0) : Post Explicit (cd.stepSubCpu sh remaining) fun r =>
      r.1 ≠ 0 ∧ r.1 ≤ remaining ∧ Moves A cd r.2.1 := by
  rw [stepSubCpu]
  refine post_ite (fun hin => post_ite (fun hlt => ?_) fun hle => ?_) fun _ => ?_
  · refine ⟨hrem, BitVec.le_refl _, .single (.wait _ ?_)⟩
    bv_omega
  · rw [post_bind]
    refine (post_nextSubCpuStep hcd hin sh).mono fun s hs => ?_
    exact ⟨hcd.timer hin, BitVec.not_lt.mp hle, .single (.step hin hs)⟩
  · exact ⟨hrem, BitVec.le_refl _, .refl⟩

lemma post_stepAsync (cd : CdRom I) (sh : SharedState) (elapsed : U32) :
    Post Explicit (cd.stepAsync sh elapsed) fun s => Moves A cd s.1 := by
  rw [stepAsync]
  split
  · next delay async h =>
    refine post_ite (fun _ => ?_) fun _ => ?_
    · exact .single (.countdown h _)
    · exact (post_maybeProcess_moves _ sh).mono fun s hs => .head (.countdown h _) hs
  · exact .refl

/-- Reading a sector is outside of the sequencer. -/
lemma post_sectorData (cd : CdRom I) : Post Explicit cd.sectorData fun _ => True := by
  rw [sectorData]
  refine post_ite (fun _ => ?_) fun _ => ?_
  · split <;> trivial
  · split
    · exact post_ite (fun _ => trivial) fun _ => trivial
    · trivial

lemma post_fillRx (buf : Vector U8 2352) (data : List U8) :
    Post Explicit (fillRx buf data) fun _ => True :=
  post_ite (fun _ => trivial) fun _ => trivial

lemma post_readSector (A : CdRom I → Prop) (cd : CdRom I) :
    Post Explicit cd.readSector fun cd' => Moves A cd cd' := by
  rw [readSector]
  refine post_ite (fun _ => trivial) fun _ => ?_
  split
  · split
    · rw [post_bind, post_pure, post_bind]
      refine (post_sectorData _).mono fun data _ => ?_
      rw [post_bind]
      refine (post_fillRx _ data).mono fun rx _ => ?_
      dsimp only
      split
      · exact moves_frame rfl rfl rfl rfl
      · trivial
    · trivial
  · trivial

lemma post_stepRead (cd : CdRom I) (sh : SharedState) (elapsed : U32) :
    Post Explicit (cd.stepRead sh elapsed) fun s => Moves A cd s.1 := by
  rw [stepRead]
  split
  · refine post_ite (fun _ => moves_frame rfl rfl rfl rfl) fun _ => ?_
    rw [post_bind]
    refine (cd.post_readSector A).mono fun cd' h => ?_
    exact (h.trans (cd'.maybeNotifyRead_moves sh)).trans (moves_frame rfl rfl rfl rfl)
  · exact .refl

/-- **Spec of the loop body**: it takes at least one cycle and at most what is
left, and is a chain of moves. -/
lemma post_syncStep (A : CdRom I → Prop) {cd : CdRom I} (hcd : cd.Sequenced) (sh : SharedState)
    {remaining : U32} (hrem : remaining ≠ 0) : Post Explicit (cd.syncStep sh remaining) fun r =>
      r.1 ≠ 0 ∧ r.1 ≤ remaining ∧ Moves A cd r.2.1 := by
  rw [syncStep, post_bind]
  refine (post_stepSubCpu (A := A) hcd sh hrem).mono fun r hr => ?_
  rw [post_bind]
  refine (post_stepAsync (A := A) r.2.1 r.2.2 r.1).mono fun s hs => ?_
  rw [post_bind]
  refine (post_stepRead (A := A) s.1 s.2 r.1).mono fun s' hs' => ?_
  exact ⟨hr.1, hr.2.1, (hr.2.2.trans hs).trans hs'⟩

/-- The loop ends within as many iterations as there are cycles left. -/
lemma post_syncLoop (A : CdRom I → Prop) (fuel : ℕ) {cd : CdRom I} (hcd : cd.Sequenced)
    (sh : SharedState) {remaining : U32} (hfuel : remaining.toNat ≤ fuel) :
    Post Explicit (syncLoop fuel cd sh remaining) fun s => Moves A cd s.1 := by
  induction fuel generalizing cd sh remaining with
  | zero =>
      have h0 : remaining = 0 := BitVec.eq_of_toNat_eq (Nat.le_zero.mp hfuel)
      rw [syncLoop, if_pos h0]
      exact .refl
  | succ fuel ih =>
      rw [syncLoop]
      refine post_ite (fun _ => .refl) fun hrem => ?_
      rw [post_bind]
      refine (post_syncStep A hcd sh hrem).mono fun r hr => ?_
      obtain ⟨hne, hle, hmoves⟩ := hr
      have hlt : (remaining - r.1).toNat ≤ fuel := by bv_omega
      exact (ih (hmoves.sequenced hcd) r.2.2 hlt).mono fun s hs => hmoves.trans hs

lemma post_sync (A : CdRom I → Prop) {cd : CdRom I} (hcd : cd.Sequenced) (sh : SharedState) :
    Post Explicit (cd.sync sh) fun s => Moves A cd s.1 := by
  rw [sync]
  dsimp only
  rw [post_bind]
  exact (post_syncLoop A _ hcd _ le_rfl).mono fun s hs => hs

/-! ### Register accesses -/

/-- The host is about to write the command register. -/
def WritesCommand (cd : CdRom I) (offset : U32) : Prop :=
  offset.toNat = 1 ∧ cd.index.toNat = 0

lemma post_setCommand {cd : CdRom I} (hA : A cd) (sh : SharedState) (cmd : U8) :
    Post Explicit (cd.setCommand sh cmd) fun s => Moves A cd s.1 := by
  rw [setCommand]
  split
  · trivial
  · next hnone =>
    exact (post_maybeStartCommand _ sh).mono fun s hs => .single (.accept cmd hA hnone hs)

lemma post_setParameter (cd : CdRom I) (param : U8) :
    Post Explicit (cd.setParameter param) fun cd' => Moves A cd cd' := by
  rw [setParameter]
  split
  · trivial
  · exact post_ite (fun _ => trivial) fun _ => moves_frame rfl rfl rfl rfl

lemma post_setHostChipControl (cd : CdRom I) (ctrl : U8) :
    Post Explicit (cd.setHostChipControl ctrl) fun cd' => Moves A cd cd' :=
  post_ite (fun _ => trivial) fun _ => moves_frame rfl rfl rfl rfl

lemma post_irqAck (A : CdRom I → Prop) (cd : CdRom I) (sh : SharedState) (v : U8) :
    Post Explicit (cd.irqAck sh v) fun s => Moves A cd s.1 := by
  rw [irqAck]
  dsimp only
  rw [post_bind]
  refine (post_maybeStartCommand _ sh).mono fun s hs => ?_
  rw [post_bind]
  refine (post_maybeProcess_moves (A := A) s.1 s.2).mono fun s' hs' => ?_
  exact (Relation.ReflTransGen.head (.ack v hs) hs').trans (s'.1.maybeNotifyRead_moves s'.2)

lemma post_hostClearControl (cd : CdRom I) (sh : SharedState) (val : U8) :
    Post Explicit (cd.hostClearControl sh val) fun s => Moves A cd s.1 := by
  rw [hostClearControl, post_bind]
  refine (post_irqAck A cd sh _).mono fun s hs => ?_
  refine post_ite (fun _ => trivial) fun _ => hs.trans ?_
  dsimp only
  split
  · exact moves_frame rfl rfl rfl rfl
  · exact .refl

/-- **Spec of a register write**, which is a chain of moves. -/
lemma post_writeRegister {cd : CdRom I} (sh : SharedState) (width : Width) {offset : U32}
    (val : U32) (hA : cd.WritesCommand offset → A cd) :
    Post Explicit (cd.writeRegister sh width offset val) fun s => Moves A cd s.1 := by
  rw [writeRegister]
  refine post_ite (fun _ => trivial) fun _ => ?_
  dsimp only
  split
  · exact moves_frame rfl rfl rfl rfl
  · next h1 h0 => exact post_setCommand (hA ⟨h1, h0⟩) sh _
  · exact moves_frame rfl rfl rfl rfl
  · rw [post_bind]
    exact (cd.post_setParameter _).mono fun cd' h => h
  · exact moves_frame rfl rfl rfl rfl
  · exact moves_frame rfl rfl rfl rfl
  · exact moves_frame rfl rfl rfl rfl
  · rw [post_bind]
    exact (cd.post_setHostChipControl _).mono fun cd' h => h
  · exact cd.post_hostClearControl sh _
  · exact moves_frame rfl rfl rfl rfl
  · exact .refl
  · trivial

/-- Reading a register is outside of the sequencer. -/
lemma post_readRegister (A : CdRom I → Prop) (cd : CdRom I) (width : Width) (offset : U32) :
    Post Explicit (cd.readRegister width offset) fun r => Moves A cd r.2 := by
  rw [readRegister]
  refine post_ite (fun _ => trivial) fun _ => ?_
  split
  · exact .refl
  · exact post_ite (fun _ => trivial) fun _ => moves_frame rfl rfl rfl rfl
  · exact .refl
  · exact .refl
  · trivial

lemma post_readByte (A : CdRom I → Prop) (cd : CdRom I) :
    Post Explicit cd.readByte fun r => Moves A cd r.2 := by
  rw [readByte]
  split
  · exact post_ite (fun _ => moves_frame rfl rfl rfl rfl) fun _ => trivial
  · trivial

lemma post_dmaReadWord (A : CdRom I → Prop) (cd : CdRom I) :
    Post Explicit cd.dmaReadWord fun r => Moves A cd r.2 := by
  rw [dmaReadWord, post_bind]
  refine (cd.post_readByte A).mono fun r0 h0 => ?_
  rw [post_bind]
  refine (r0.2.post_readByte A).mono fun r1 h1 => ?_
  rw [post_bind]
  refine (r1.2.post_readByte A).mono fun r2 h2 => ?_
  rw [post_bind]
  refine (r2.2.post_readByte A).mono fun r3 h3 => ?_
  exact ((h0.trans h1).trans h2).trans h3

/-! ### Reachable states -/

/-- The states of the controller under any interleaving of register accesses
and iterations of the loop of `sync`.  The shared state is arbitrary at every
step; `A` restricts the states in which the command register is written. -/
inductive Reach (A : CdRom I → Prop) : CdRom I → Prop where
  | new (disc : Option (Disc I)) : Reach A (CdRom.new disc)
  | iterate {cd cd' : CdRom I} {sh sh' : SharedState} {remaining elapsed : U32} (h : Reach A cd)
      (hrem : remaining ≠ 0) (hs : cd.syncStep sh remaining = .ok (elapsed, cd', sh')) :
      Reach A cd'
  | read {cd cd' : CdRom I} {width : Width} {offset v : U32} (h : Reach A cd)
      (hs : cd.readRegister width offset = .ok (v, cd')) : Reach A cd'
  | write {cd cd' : CdRom I} {sh sh' : SharedState} {width : Width} {offset val : U32}
      (h : Reach A cd) (hA : cd.WritesCommand offset → A cd)
      (hs : cd.writeRegister sh width offset val = .ok (cd', sh')) : Reach A cd'
  | dmaReadWord {cd cd' : CdRom I} {v : U32} (h : Reach A cd)
      (hs : cd.dmaReadWord = .ok (v, cd')) : Reach A cd'

/-- The rule for invariants of runs: what holds at power-on and is kept by
every move from a sub-CPU in order holds in every state reached. -/
lemma Reach.keeps {P : CdRom I → Prop} (hnew : ∀ disc, P (CdRom.new disc))
    (hP : ∀ cd cd', Move A cd cd' → cd.Sequenced → P cd → P cd') {cd : CdRom I}
    (h : Reach A cd) : cd.Sequenced ∧ P cd := by
  induction h with
  | new disc => exact ⟨sequenced_of_idle rfl, hnew disc⟩
  | iterate _ hrem hs ih =>
      exact ((post_syncStep A ih.1 _ hrem).of_ok hs).2.2.keeps hP ih.1 ih.2
  | read _ hs ih => exact ((post_readRegister A _ _ _).of_ok hs).keeps hP ih.1 ih.2
  | write _ hA hs ih => exact ((post_writeRegister _ _ _ hA).of_ok hs).keeps hP ih.1 ih.2
  | dmaReadWord _ hs ih => exact ((post_dmaReadWord A _).of_ok hs).keeps hP ih.1 ih.2

/-- The sub-CPU is in order in every state reached. -/
lemma Reach.sequenced {cd : CdRom I} (h : Reach A cd) : cd.Sequenced :=
  (h.keeps (P := fun _ => True) (fun _ => trivial) fun _ _ _ _ _ => trivial).1

lemma reach_syncLoop {fuel : ℕ} {cd : CdRom I} (h : Reach A cd) {sh : SharedState}
    {remaining : U32} {s : Shared I} (hs : syncLoop fuel cd sh remaining = .ok s) :
    Reach A s.1 := by
  induction fuel generalizing cd sh remaining with
  | zero =>
      rw [syncLoop] at hs
      split at hs
      · cases hs
        exact h
      · cases hs
  | succ fuel ih =>
      rw [syncLoop] at hs
      split at hs
      · cases hs
        exact h
      · next hrem =>
        obtain ⟨⟨elapsed, cd', sh'⟩, hstep, hrest⟩ := bind_eq_ok.mp hs
        exact ih (h.iterate hrem hstep) hrest

lemma reach_sync {cd : CdRom I} (h : Reach A cd) {sh : SharedState} {s : Shared I}
    (hs : cd.sync sh = .ok s) : Reach A s.1 := by
  obtain ⟨s', hloop, hpure⟩ := bind_eq_ok.mp hs
  cases hpure
  have hs' : Reach A s'.1 := reach_syncLoop h hloop
  exact hs'

/-- An unrestricted access leads from a state reached to a state reached. -/
lemma reach_access {cd : CdRom I} (h : Reach (fun _ => True) cd) {sh : SharedState} {a : Access}
    {s : Shared I} (hs : cd.access sh a = .ok s) : Reach (fun _ => True) s.1 := by
  cases a with
  | sync => exact reach_sync h hs
  | load width offset =>
      obtain ⟨r, hload, hpure⟩ := bind_eq_ok.mp hs
      obtain ⟨s', hsync, hread⟩ := bind_eq_ok.mp hload
      obtain ⟨r', hreg, hret⟩ := bind_eq_ok.mp hread
      cases hret
      cases hpure
      exact (reach_sync h hsync).read hreg
  | store width offset val =>
      obtain ⟨s', hsync, hwrite⟩ := bind_eq_ok.mp hs
      exact (reach_sync h hsync).write (fun _ => trivial) hwrite
  | dmaReadWord =>
      obtain ⟨r, hdma, hpure⟩ := bind_eq_ok.mp hs
      cases hpure
      exact h.dmaReadWord hdma

/-- A run of accesses, each of them some cycles after the previous one. -/
def runAccesses (cd : CdRom I) (sh : SharedState) : List (Cycles × Access) → Outcome (Shared I)
  | [] => pure (cd, sh)
  | (cycles, a) :: rest => do
      let (cd, sh) ← cd.access (sh.tick cycles) a
      runAccesses cd sh rest

lemma reach_runAccesses {l : List (Cycles × Access)} {cd : CdRom I} {sh : SharedState}
    {s : Shared I} (h : Reach (fun _ => True) cd) (hs : runAccesses cd sh l = .ok s) :
    Reach (fun _ => True) s.1 := by
  induction l generalizing cd sh with
  | nil =>
      cases hs
      exact h
  | cons x l ih =>
      obtain ⟨s', hx, hrest⟩ := bind_eq_ok.mp hs
      exact ih (reach_access h hx) hrest

/-- No access to a sub-CPU in order fails an assertion or loops. -/
lemma post_access {cd : CdRom I} (hcd : cd.Sequenced) (sh : SharedState) (a : Access) :
    Post Explicit (cd.access sh a) fun _ => True := by
  cases a with
  | sync => exact (post_sync (fun _ => True) hcd sh).mono fun _ _ => trivial
  | load width offset =>
      rw [access, post_bind, load, post_bind]
      refine (post_sync (fun _ => True) hcd sh).mono fun s _ => ?_
      rw [post_bind]
      exact (post_readRegister (fun _ => True) _ _ _).mono fun _ _ => trivial
  | store width offset val =>
      rw [access, store, post_bind]
      refine (post_sync (fun _ => True) hcd sh).mono fun s _ => ?_
      exact (post_writeRegister (A := fun _ => True) _ _ _ fun _ => trivial).mono
        fun _ _ => trivial
  | dmaReadWord =>
      rw [access, post_bind]
      exact (post_dmaReadWord (fun _ => True) _).mono fun _ _ => trivial

/-- **The sequencer is safe.**  In every state reached: in a sequence no
interrupt flag is set and the timer is at least one; the steps that pop the
response have one to pop; the command that is about to be executed has no async
response besides it.  Every iteration of the loop of `sync` takes at least one
of the remaining cycles and no more than those, and every access, the whole
loop included, returns or ends in an explicit panic: no assertion fails and no
fuel runs out. -/
theorem sequencer_safe {cd : CdRom I} (h : Reach (fun _ => True) cd) :
    (cd.subCpu.inCommand = true → cd.irqFlags = 0 ∧ 1 ≤ cd.subCpu.timer.toNat) ∧
    (cd.subCpu.sequence ∈ [.execution, .rxFlush, .rxPush, .asyncRxPush] →
      cd.subCpu.response.isEmpty = false) ∧
    (cd.subCpu.sequence ∈ [.commandPending, .paramPush] → cd.subCpu.asyncResponse = none) ∧
    (∀ sh remaining, remaining ≠ 0 → Post Explicit (cd.syncStep sh remaining) fun r =>
      1 ≤ r.1.toNat ∧ r.1.toNat ≤ remaining.toNat) ∧
    (∀ sh a, Post Explicit (cd.access sh a) fun s => Reach (fun _ => True) s.1) := by
  have hcd : cd.Sequenced := h.sequenced
  refine ⟨fun hin => ⟨hcd.flags hin, ?_⟩, fun hseq => hcd.response ?_, fun hseq => hcd.async ?_,
    fun sh remaining hrem => ?_, fun sh a => ?_⟩
  · have := hcd.timer hin
    bv_omega
  · simp only [List.mem_cons, List.not_mem_nil, or_false] at hseq
    rcases hseq with h | h | h | h <;> rw [h] <;> rfl
  · simp only [List.mem_cons, List.not_mem_nil, or_false] at hseq
    rcases hseq with h | h <;> rw [h] <;> rfl
  · refine (post_syncStep (fun _ => True) hcd sh hrem).mono fun r hr => ⟨?_, hr.2.1⟩
    have := hr.1
    bv_omega
  · have hpost := post_access hcd sh a
    cases hs : cd.access sh a with
    | error e => rwa [hs] at hpost
    | ok s => exact reach_access h hs

/-- With an empty drive, right after the host has written a command. -/
theorem sequencer_safe_started : ∃ cd sh,
    (CdRom.new (I := noImage) none).writeRegister .new .byte 1 0x0a = .ok (cd, sh) ∧
    cd.subCpu.inCommand = true ∧ cd.irqFlags = 0 ∧ 1 ≤ cd.subCpu.timer.toNat := by
  obtain ⟨⟨cd, sh⟩, hs⟩ : ∃ s, (CdRom.new (I := noImage) none).writeRegister .new .byte 1 0x0a
      = .ok s := ⟨_, rfl⟩
  have hin : cd.subCpu.inCommand = true := by
    cases hs
    rfl
  exact ⟨cd, sh, hs, hin, (sequencer_safe (.write (.new none) (fun _ => trivial) hs)).1 hin⟩

end CdRom

end Rustation
