import Rustation.CdRom.Handlers

/-!
The invariant of the sub-CPU sequencer.

* `Sequenced`: while the sub-CPU is in a sequence no interrupt flag is set and
  its timer is positive, the steps that move response bytes have one to move,
  and a command that waits for its execution has no async response besides it;
* `Step`: all that one step of a sequence can do.  `post_nextSubCpuStep` says
  so, and `Step.sequenced` reads the invariant off it;
* `Begins`, `Opens`, `Answers`: the ways a sequence starts, with the specs of
  the three functions that start one.
-/

namespace Rustation

open Fallible

variable {I : CdImage}

/-- The command of the sequence has not been executed yet. -/
def SubCpuSequence.awaitsExecution : SubCpuSequence → Bool
  | commandPending | paramPush => true
  | _ => false

/-- The sequence still has response bytes to move to the host. -/
def SubCpuSequence.carriesResponse : SubCpuSequence → Bool
  | execution | rxFlush | rxPush | asyncRxPush => true
  | _ => false

/-- The sub-CPU is in order with the interrupt flags `irqFlags`. -/
structure SubCpu.Sequenced (s : SubCpu) (irqFlags : U8) : Prop where
  flags : s.inCommand = true → irqFlags = 0
  timer : s.inCommand = true → s.timer ≠ 0
  response : s.sequence.carriesResponse = true → s.response.isEmpty = false
  async : s.sequence.awaitsExecution = true → s.asyncResponse = none
  fresh : s.sequence.awaitsExecution = true → s.response = .new

namespace CdRom

/-- The sub-CPU of the controller is in order. -/
def Sequenced (cd : CdRom I) : Prop := cd.subCpu.Sequenced cd.irqFlags

lemma inCommand_iff {s : SubCpu} : s.inCommand = true ↔ s.sequence ≠ .idle := by
  simp [SubCpu.inCommand]

/-- An idle sub-CPU is in order. -/
lemma sequenced_of_idle {cd : CdRom I} (h : cd.subCpu.sequence = .idle) : cd.Sequenced where
  flags hc := absurd h (inCommand_iff.mp hc)
  timer hc := absurd h (inCommand_iff.mp hc)
  response hr := by simp [h, SubCpuSequence.carriesResponse] at hr
  async hw := by simp [h, SubCpuSequence.awaitsExecution] at hw
  fresh hw := by simp [h, SubCpuSequence.awaitsExecution] at hw

/-- Entering a step that comes after the execution keeps the order, provided
there are bytes left where the step moves them. -/
lemma sequenced_enter {cd : CdRom I} {seq : SubCpuSequence} {timer : U32}
    (hflags : cd.irqFlags = 0) (htimer : timer ≠ 0) (hseq : seq.awaitsExecution = false)
    (hresp : seq.carriesResponse = true → cd.subCpu.response.isEmpty = false) :
    (cd.enter seq timer).Sequenced where
  flags _ := hflags
  timer _ := htimer
  response := hresp
  async hw := absurd hw (by simp [enter, hseq])
  fresh hw := absurd hw (by simp [enter, hseq])

/-! ### One step of a sequence -/

/-- All that a step of a sequence can do to the controller. -/
inductive Step (cd : CdRom I) : CdRom I → Prop where
  | execute {cmd : U8} {cd' : CdRom I} (hseq : cd.subCpu.sequence.awaitsExecution = true)
      (hcmd : cd.command = some cmd) (hcd : Handled (cd.record (.executed cmd)) cd') :
      Step cd (cd'.enter .execution Timings.EXECUTION)
  | param (hseq : cd.subCpu.sequence.awaitsExecution = true) (hostParams params : Fifo) :
      Step cd ({ cd with
        hostParams := hostParams
        subCpu := { cd.subCpu with params := params } }.enter .paramPush Timings.PARAM_PUSH)
  | flush (hseq : cd.subCpu.sequence = .execution) :
      Step cd ({ cd with hostResponse := .new }.enter .rxFlush Timings.RX_FLUSH)
  | rxPush (hseq : cd.subCpu.sequence = .rxFlush ∨ cd.subCpu.sequence = .rxPush)
      (hresp : cd.moveResponse.subCpu.response.isEmpty = false) :
      Step cd (cd.moveResponse.enter .rxPush Timings.RX_PUSH)
  | rxLast (hseq : cd.subCpu.sequence = .rxFlush ∨ cd.subCpu.sequence = .rxPush) :
      Step cd (cd.moveResponse.enter .busyDelay Timings.BUSY_DELAY)
  | busy (hseq : cd.subCpu.sequence = .busyDelay) :
      Step cd (cd.enter .irqDelay Timings.IRQ_DELAY)
  | finish (hseq : cd.subCpu.sequence = .irqDelay) :
      Step cd { cd.retireCommand with
        irqFlags := cd.retireCommand.subCpu.irqCode.code
        subCpu := { cd.retireCommand.subCpu with sequence := .idle } }
  | asyncPush (hseq : cd.subCpu.sequence = .asyncRxPush)
      (hresp : cd.moveResponse.subCpu.response.isEmpty = false) :
      Step cd (cd.moveResponse.enter .asyncRxPush Timings.RX_PUSH)
  | asyncLast (hseq : cd.subCpu.sequence = .asyncRxPush) :
      Step cd (cd.moveResponse.enter .irqDelay Timings.IRQ_DELAY)

/-- Forgetting the command leaves the sub-CPU and the flags alone. -/
@[simp] lemma retireCommand_subCpu (cd : CdRom I) : cd.retireCommand.subCpu = cd.subCpu := by
  rw [retireCommand]
  split <;> rfl

@[simp] lemma retireCommand_irqFlags (cd : CdRom I) :
    cd.retireCommand.irqFlags = cd.irqFlags := by
  rw [retireCommand]
  split <;> rfl

/-- With no flag set an interrupt is raised, and its code is the new value of
the flags. -/
lemma post_triggerIrq {cd : CdRom I} (h : cd.irqFlags = 0) (sh : SharedState) (irq : IrqCode) :
    Post Explicit (cd.triggerIrq sh irq) fun s => s.1 = { cd with irqFlags := irq.code } := by
  rw [triggerIrq, if_neg (not_not.mpr h)]
  dsimp only
  split <;> exact rfl

/-- **Spec of a step**: from a sub-CPU in order, a step does one of the things
`Step` lists or stops with an explicit panic. -/
lemma post_nextSubCpuStep {cd : CdRom I} (hcd : cd.Sequenced)
    (hin : cd.subCpu.inCommand = true) (sh : SharedState) :
    Post Explicit (cd.nextSubCpuStep sh) fun s => Step cd s.1 := by
  have hexec (hseq : cd.subCpu.sequence.awaitsExecution = true) :
      Post Explicit (cd.executeCommand >>= fun cd =>
        pure (cd.enter .execution Timings.EXECUTION, sh)) fun s => Step cd s.1 := by
    rw [post_bind]
    refine (post_executeCommand (hcd.async hseq)).mono fun cd' h => ?_
    obtain ⟨cmd, hcmd, hh⟩ := h
    exact .execute hseq hcmd hh
  have hrx (hseq : cd.subCpu.sequence = .rxFlush ∨ cd.subCpu.sequence = .rxPush) :
      Post Explicit
        (if cd.moveResponse.subCpu.response.isEmpty then
          pure (cd.moveResponse.enter .busyDelay Timings.BUSY_DELAY, sh)
        else pure (cd.moveResponse.enter .rxPush Timings.RX_PUSH, sh)) fun s => Step cd s.1 :=
    post_ite (fun _ => .rxLast hseq) fun h => .rxPush hseq (Bool.eq_false_of_not_eq_true h)
  rw [nextSubCpuStep]
  split
  · next h => exact absurd h (inCommand_iff.mp hin)
  · next h =>
    have hseq : cd.subCpu.sequence.awaitsExecution = true := by rw [h]; rfl
    exact post_ite (fun _ => hexec hseq) fun _ => .param hseq _ _
  · next h =>
    have hseq : cd.subCpu.sequence.awaitsExecution = true := by rw [h]; rfl
    exact post_ite (fun _ => hexec hseq) fun _ => .param hseq _ _
  · next h => exact .flush h
  · next h => exact hrx (.inl h)
  · next h => exact hrx (.inr h)
  · next h => exact .busy h
  · next h =>
    rw [post_bind]
    have hflags : cd.retireCommand.irqFlags = 0 := by
      rw [retireCommand_irqFlags]
      exact hcd.flags hin
    refine (post_triggerIrq hflags sh _).mono fun s hs => ?_
    rw [post_pure, hs]
    exact .finish h
  · next h =>
    exact post_ite (fun _ => .asyncLast h) fun hr =>
      .asyncPush h (Bool.eq_false_of_not_eq_true hr)

/-- A step keeps the sub-CPU in order. -/
lemma Step.sequenced {cd cd' : CdRom I} (h : Step cd cd') (hcd : cd.Sequenced)
    (hin : cd.subCpu.inCommand = true) : cd'.Sequenced := by
  have hflags : cd.irqFlags = 0 := hcd.flags hin
  cases h with
  | execute hseq hcmd hh =>
      refine sequenced_enter (hh.irqFlags.trans hflags) (by decide) rfl fun _ => ?_
      exact hh.size_response (hcd.fresh hseq)
  | param hseq hostParams params =>
      exact ⟨fun _ => hflags, fun _ => ne_of_beq_false rfl, nofun,
        fun _ => hcd.async hseq, fun _ => hcd.fresh hseq⟩
  | flush hseq =>
      refine sequenced_enter hflags (by decide) rfl fun _ => hcd.response ?_
      rw [hseq]
      rfl
  | rxPush hseq hresp => exact sequenced_enter hflags (by decide) rfl fun _ => hresp
  | rxLast hseq => exact sequenced_enter hflags (by decide) rfl nofun
  | busy hseq => exact sequenced_enter hflags (by decide) rfl nofun
  | finish hseq => exact sequenced_of_idle rfl
  | asyncPush hseq hresp => exact sequenced_enter hflags (by decide) rfl fun _ => hresp
  | asyncLast hseq => exact sequenced_enter hflags (by decide) rfl nofun

/-! ### Starting a sequence -/

/-- The sub-CPU may start a sequence. -/
def Ready (cd : CdRom I) : Prop := cd.irqFlags = 0 ∧ cd.subCpu.sequence = .idle

/-- The end of a sequence leaves its interrupt flag set, so no other sequence
follows at once. -/
lemma Step.not_ready {cd cd' : CdRom I} (h : Step cd cd') : ¬cd'.Ready := by
  rintro ⟨hflags, hidle⟩
  cases h with
  | finish hseq =>
      revert hflags
      dsimp only
      cases cd.retireCommand.subCpu.irqCode <;> decide
  | execute | param | flush | rxPush | rxLast | busy | asyncPush | asyncLast =>
      simp [enter] at hidle

/-- The command sequence has just been started. -/
structure Opens (cd cd' : CdRom I) : Prop where
  command : cd'.command = cd.command
  irqFlags : cd'.irqFlags = cd.irqFlags
  log : cd'.log = cd.log
  sequence : cd'.subCpu.sequence = .commandPending
  timer : cd'.subCpu.timer ≠ 0
  async : cd'.subCpu.asyncResponse = none
  response : cd'.subCpu.response = .new

/-- A response sequence has just been started: a second response to a command
or the notification of a sector. -/
structure Answers (cd cd' : CdRom I) : Prop where
  command : cd'.command = cd.command
  irqFlags : cd'.irqFlags = cd.irqFlags
  log : cd'.log = cd.log
  sequence : cd'.subCpu.sequence = .asyncRxPush
  timer : cd'.subCpu.timer ≠ 0
  response : cd'.subCpu.response.isEmpty = false

lemma Opens.sequenced {cd cd' : CdRom I} (h : Opens cd cd') (hr : cd.Ready) :
    cd'.Sequenced where
  flags _ := h.irqFlags.trans hr.1
  timer _ := h.timer
  response hc := by simp [h.sequence, SubCpuSequence.carriesResponse] at hc
  async _ := h.async
  fresh _ := h.response

lemma Answers.sequenced {cd cd' : CdRom I} (h : Answers cd cd') (hr : cd.Ready) :
    cd'.Sequenced where
  flags _ := h.irqFlags.trans hr.1
  timer _ := h.timer
  response _ := h.response
  async hw := by simp [h.sequence, SubCpuSequence.awaitsExecution] at hw
  fresh hw := by simp [h.sequence, SubCpuSequence.awaitsExecution] at hw

/-- The guard of the three functions that start a sequence. -/
lemma ready_iff {cd : CdRom I} :
    cd.Ready ↔ cd.irqFlags = 0 ∧ cd.subCpu.inCommand = false := by
  simp [Ready, SubCpu.inCommand]

/-- The delay before a command is looked at is positive. -/
lemma pendingDelay_ne_zero (r : U32) :
    Timings.COMMAND_PENDING + r % Timings.COMMAND_PENDING_VARIATION ≠ 0 := by
  have h : (r % Timings.COMMAND_PENDING_VARIATION).toNat < 6000 := by
    rw [BitVec.toNat_umod]
    exact Nat.mod_lt _ (by decide)
  intro h0
  have := congrArg BitVec.toNat h0
  rw [BitVec.toNat_add, show Timings.COMMAND_PENDING.toNat = 9400 from rfl,
    show (0 : U32).toNat = 0 from rfl] at this
  omega

/-- A pending command is started exactly when the sub-CPU is ready for it. -/
def Begins (cd cd' : CdRom I) : Prop :=
  (¬(cd.command.isSome = true ∧ cd.Ready) ∧ cd' = cd) ∨
    (cd.command.isSome = true ∧ cd.Ready ∧ Opens cd cd')

lemma Begins.sequenced {cd cd' : CdRom I} (h : Begins cd cd') (hcd : cd.Sequenced) :
    cd'.Sequenced := by
  rcases h with ⟨-, rfl⟩ | ⟨-, hr, ho⟩
  · exact hcd
  · exact ho.sequenced hr

lemma post_maybeStartCommand (cd : CdRom I) (sh : SharedState) :
    Post Explicit (cd.maybeStartCommand sh) fun s => Begins cd s.1 := by
  rw [maybeStartCommand]
  refine post_ite (fun h => ?_) fun h => ?_
  · simp only [Bool.and_eq_true, beq_iff_eq, Bool.not_eq_true'] at h
    rw [post_bind, SubCpu.startCommand, h.2]
    refine post_ite nofun fun _ => post_ite (fun _ => trivial) fun hasync => ?_
    refine .inr ⟨h.1.1, ready_iff.mpr ⟨h.1.2, h.2⟩, ?_⟩
    refine ⟨rfl, rfl, rfl, rfl, pendingDelay_ne_zero _, ?_, rfl⟩
    simpa [SubCpu.asyncCommandPending] using hasync
  · refine .inl ⟨fun hr => h ?_, rfl⟩
    simp [hr.1, ready_iff.mp hr.2]

/-- A due second response is processed only when the sub-CPU is ready. -/
lemma post_maybeProcessAsyncResponse (cd : CdRom I) (sh : SharedState) :
    Post Explicit (cd.maybeProcessAsyncResponse sh) fun s =>
      s.1 = cd ∨ (cd.Ready ∧ Answers cd s.1) := by
  rw [maybeProcessAsyncResponse]
  split
  · refine post_ite (fun h => ?_) fun _ => .inl rfl
    rw [post_bind]
    refine (post_runAsync _ _).mono fun r hr => .inr ⟨ready_iff.mpr h.2, ?_⟩
    exact ⟨hr.2.command, hr.2.irqFlags, hr.2.log, rfl, hr.1, hr.2.size_response rfl⟩
  · exact .inl rfl

/-- A sector is notified only when the sub-CPU is ready. -/
lemma maybeNotifyRead_cases (cd : CdRom I) (sh : SharedState) :
    (cd.maybeNotifyRead sh).1 = cd ∨ (cd.Ready ∧ Answers cd (cd.maybeNotifyRead sh).1) := by
  rw [maybeNotifyRead]
  split_ifs with h
  · simp only [Bool.and_eq_true, beq_iff_eq, Bool.not_eq_true'] at h
    refine .inr ⟨ready_iff.mpr ⟨h.1.2, h.2⟩, rfl, rfl, rfl, rfl, ne_of_beq_false rfl, ?_⟩
    exact (respondStatus_handled _).size_response rfl
  · exact .inl rfl

end CdRom

end Rustation
