import Rustation.CdRom.Controller

/-!
What the command handlers of the CD-ROM controller do to its sequencer.

* `Explicit`: the faults an access may end with;
* `Handled`: what a command handler may do to the sequencer.  It leaves the
  sequence, the interrupt flags and the pending command alone and queues
  between one and eight response bytes;
* `post_handler`, `post_executeCommand`, `post_runAsync`: the specs of the
  command table, of the execution of a command and of the handlers of second
  responses.
-/

namespace Rustation

open Fallible

namespace CdRom

variable {I : CdImage}

/-- The faults an access may end with: the explicit panics of the source, and
the indexing and unwrapping panics of the library calls it makes. -/
def Explicit : Fault → Prop
  | .panic _ | .unwrapNone | .outOfBounds => True
  | .assertion _ | .unreachable | .overflow | .outOfFuel => False

/-! ### Command handlers -/

/-- What a command handler does to the state of the sequencer. -/
structure Handled (cd cd' : CdRom I) : Prop where
  command : cd'.command = cd.command
  irqFlags : cd'.irqFlags = cd.irqFlags
  sequence : cd'.subCpu.sequence = cd.subCpu.sequence
  log : cd'.log = cd.log
  response : ∃ bytes : List U8, 1 ≤ bytes.length ∧ bytes.length ≤ 8 ∧
    cd'.subCpu.response = cd.subCpu.response.pushSlice bytes

/-- A response to a command whose response FIFO has been cleared is there. -/
lemma Handled.size_response {cd cd' : CdRom I} (h : Handled cd cd')
    (hnew : cd.subCpu.response = .new) : cd'.subCpu.response.isEmpty = false := by
  obtain ⟨bytes, h1, h8, hb⟩ := h.response
  rw [hb, hnew, Fifo.isEmpty_eq_false_iff, Fifo.size_pushSlice_new (by omega)]
  omega

/-- The status byte alone is a response, whatever else a handler changes
outside of the sequencer. -/
lemma handled_status {cd cd' : CdRom I} {status : U8} (hcommand : cd'.command = cd.command)
    (hflags : cd'.irqFlags = cd.irqFlags) (hseq : cd'.subCpu.sequence = cd.subCpu.sequence)
    (hlog : cd'.log = cd.log)
    (hresp : cd'.subCpu.response = cd.subCpu.response.pushSlice [status]) : Handled cd cd' :=
  ⟨hcommand, hflags, hseq, hlog, [status], le_rfl, by simp, hresp⟩

lemma respondStatus_handled (cd : CdRom I) : Handled cd cd.respondStatus :=
  handled_status rfl rfl rfl rfl rfl

lemma schedule_eq {cd : CdRom I} (h : cd.subCpu.asyncResponse = none) (delay : U32)
    (handler : AsyncHandler) :
    cd.schedule delay handler = .ok { cd with subCpu := { cd.subCpu with
      asyncResponse := some (delay, handler) } } := by
  simp [schedule, SubCpu.scheduleAsyncResponse, h]

lemma post_pregapEnd (I : CdImage) : Post Explicit (pregapEnd I) fun _ => True := by
  rw [pregapEnd]
  split <;> trivial

/-- A seek moves the head and nothing of the sequencer. -/
lemma post_doSeek (cd : CdRom I) : Post Explicit cd.doSeek fun cd' =>
    cd' = { cd with position := cd.seekTarget, seekTargetPending := false } := by
  rw [doSeek, post_bind]
  refine (post_pregapEnd I).mono fun first _ => ?_
  split
  · trivial
  · exact rfl

/-- A handler that answers with the status byte and schedules a second
response. -/
lemma post_status_schedule {cd : CdRom I} (h : cd.subCpu.asyncResponse = none) {cd' : CdRom I}
    (hcd : Handled cd cd') (hasync : cd'.subCpu.asyncResponse = cd.subCpu.asyncResponse)
    (delay : U32) (handler : AsyncHandler) :
    Post Explicit (cd'.schedule delay handler) (Handled cd) := by
  rw [schedule_eq (hasync.trans h), post_ok]
  exact ⟨hcd.command, hcd.irqFlags, hcd.sequence, hcd.log, hcd.response⟩

lemma post_cmdSetLoc (cd : CdRom I) : Post Explicit cd.cmdSetLoc (Handled cd) := by
  simp only [cmdSetLoc, popParam]
  split
  · exact handled_status rfl rfl rfl rfl rfl
  · trivial

lemma post_cmdRead (cd : CdRom I) : Post Explicit cd.cmdRead (Handled cd) := by
  rw [cmdRead]
  split
  · rw [post_bind]
    refine cd.post_doSeek.mono fun cd' h => ?_
    subst h
    exact handled_status rfl rfl rfl rfl rfl
  · exact handled_status rfl rfl rfl rfl rfl

lemma post_cmdSetMode (cd : CdRom I) : Post Explicit cd.cmdSetMode (Handled cd) := by
  rw [cmdSetMode]
  exact post_ite (fun _ => trivial) fun _ => handled_status rfl rfl rfl rfl rfl

lemma post_cmdGetLocP (cd : CdRom I) : Post Explicit cd.cmdGetLocP (Handled cd) := by
  rw [cmdGetLocP, post_bind]
  refine (post_pregapEnd I).mono fun first _ => ?_
  split
  · trivial
  · exact ⟨rfl, rfl, rfl, rfl, _, by simp, by simp, rfl⟩

lemma post_cmdTest (cd : CdRom I) : Post Explicit cd.cmdTest (Handled cd) := by
  rw [cmdTest]
  split
  · trivial
  · dsimp only [popParam]
    split
    · exact ⟨rfl, rfl, rfl, rfl, _, by simp, by simp, rfl⟩
    · trivial

lemma post_cmdPause {cd : CdRom I} (h : cd.subCpu.asyncResponse = none) :
    Post Explicit cd.cmdPause (Handled cd) := by
  rw [cmdPause]
  refine post_status_schedule h ?_ ?_ _ _
  · exact handled_status rfl rfl rfl rfl rfl
  · rfl

lemma post_cmdInit {cd : CdRom I} (h : cd.subCpu.asyncResponse = none) :
    Post Explicit cd.cmdInit (Handled cd) := by
  rw [cmdInit]
  refine post_status_schedule h ?_ ?_ _ _
  · exact handled_status rfl rfl rfl rfl rfl
  · rfl

lemma post_cmdSeekL {cd : CdRom I} (h : cd.subCpu.asyncResponse = none) :
    Post Explicit cd.cmdSeekL (Handled cd) := by
  rw [cmdSeekL, post_bind]
  refine cd.post_doSeek.mono fun cd' hcd => ?_
  subst hcd
  refine post_status_schedule h ?_ ?_ _ _
  · exact handled_status rfl rfl rfl rfl rfl
  · rfl

lemma post_cmdGetId {cd : CdRom I} (h : cd.subCpu.asyncResponse = none) :
    Post Explicit cd.cmdGetId (Handled cd) := by
  rw [cmdGetId]
  split
  · exact post_status_schedule h cd.respondStatus_handled rfl _ _
  · exact ⟨rfl, rfl, rfl, rfl, _, by simp, by simp, rfl⟩

/-- **Spec of the command table**: with no async response pending, a handler
answers or stops with an explicit panic. -/
lemma post_handler {cd : CdRom I} {cmd lo hi : U8} {handler : CdRom I → Outcome (CdRom I)}
    (h : commandTable I cmd = some (lo, hi, handler))
    (hasync : cd.subCpu.asyncResponse = none) : Post Explicit (handler cd) (Handled cd) := by
  rw [commandTable] at h
  split at h <;> cases h
  · exact cd.respondStatus_handled
  · exact cd.post_cmdSetLoc
  · exact cd.post_cmdRead
  · exact post_cmdPause hasync
  · exact post_cmdInit hasync
  · exact cd.respondStatus_handled
  · exact cd.respondStatus_handled
  · exact handled_status rfl rfl rfl rfl rfl
  · exact cd.post_cmdSetMode
  · exact ⟨rfl, rfl, rfl, rfl, _, by simp, by simp, rfl⟩
  · exact cd.post_cmdGetLocP
  · exact post_cmdSeekL hasync
  · exact cd.post_cmdTest
  · exact post_cmdGetId hasync
  · exact cd.post_cmdRead
  · exact post_status_schedule hasync cd.respondStatus_handled rfl _ _

/-- Executing the pending command: it is recorded and its handler answers. -/
lemma post_executeCommand {cd : CdRom I} (h : cd.subCpu.asyncResponse = none) :
    Post Explicit cd.executeCommand fun cd' =>
      ∃ cmd, cd.command = some cmd ∧ Handled (cd.record (.executed cmd)) cd' := by
  rw [executeCommand]
  split
  · trivial
  · next cmd hcmd =>
    split
    · trivial
    · next lo hi handler htable =>
      dsimp only
      split
      · trivial
      · have hasync : (cd.record (.executed cmd)).subCpu.asyncResponse = none := h
        exact (post_handler htable hasync).mono fun cd' hcd => ⟨cmd, hcmd, hcd⟩

/-- The handler of a second response answers too, and its first byte takes a
positive time. -/
lemma post_runAsync (cd : CdRom I) (handler : AsyncHandler) :
    Post Explicit (cd.runAsync handler) fun r => r.1 ≠ 0 ∧ Handled cd r.2 := by
  cases handler with
  | pause => exact ⟨ne_of_beq_false rfl, cd.respondStatus_handled⟩
  | init => exact ⟨ne_of_beq_false rfl, handled_status rfl rfl rfl rfl rfl⟩
  | seekL => exact ⟨ne_of_beq_false rfl, cd.respondStatus_handled⟩
  | readToc => exact ⟨ne_of_beq_false rfl, cd.respondStatus_handled⟩
  | getId =>
      rw [runAsync, asyncGetId]
      split
      · trivial
      · next disc _ =>
        rw [post_bind, Disc.region]
        split
        · exact ⟨ne_of_beq_false rfl, rfl, rfl, rfl, rfl, _, by simp, by simp [ascii], rfl⟩
        · trivial

end CdRom

end Rustation
