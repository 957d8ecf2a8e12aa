import Rustation.CdRom.Moves

/-!
The fate of the command bytes written by the host.

A command byte is accepted by the command register, executed by the sub-CPU and
retired when the `command` field returns to `None`.  The history of the
controller is read by a four state automaton (`Phase`), which is lost when a
byte is retired without having been executed, or executed twice.

* `Delivered`: the automaton is not lost, and agrees with the `command` field;
* `Tracked`: the invariant, which relates the phase of the command to the step
  of the sequencer.  `Move.tracked` keeps it where the command register is
  written to an idle sub-CPU only;
* `delivered_of_reach`: in every run whose command writes find the sub-CPU idle,
  no command is lost;
* `command_lost`: a command that is written during the second response to
  another one is dropped.
-/

namespace Rustation

open Fallible

/-! ### Phases of a command -/

/-- Where a command byte is between the host and the sub-CPU. -/
inductive Phase where
  /-- no command is on its way -/
  | idle
  /-- accepted, to be executed -/
  | waiting (cmd : U8)
  /-- executed, to be retired -/
  | done (cmd : U8)
  /-- the history has lost or repeated a command -/
  | lost
  deriving DecidableEq, Repr

def Phase.next : Phase → CommandEvent → Phase
  | .idle, .accepted c => .waiting c
  | .waiting c, .executed c' => if c = c' then .done c else .lost
  | .done c, .retired c' => if c = c' then .idle else .lost
  | _, _ => .lost

/-- The phase a history ends in. -/
def Phase.of (log : List CommandEvent) : Phase := log.foldl Phase.next .idle

lemma Phase.of_append (log : List CommandEvent) (e : CommandEvent) :
    Phase.of (log ++ [e]) = (Phase.of log).next e := by
  simp [Phase.of]

namespace CdRom

variable {I : CdImage}

/-- Every command accepted so far was executed once before it was retired, and
the `command` field holds the one that is on its way. -/
def Delivered (cd : CdRom I) : Prop :=
  match Phase.of cd.log with
  | .idle => cd.command = none
  | .waiting cmd | .done cmd => cd.command = some cmd
  | .lost => False

end CdRom

/-! ### The invariant -/

namespace SubCpuSequence

/-- No command is being served: nothing, or a response the host did not ask
for, is in progress. -/
def isFree : SubCpuSequence → Bool
  | idle | asyncRxPush | irqDelay => true
  | _ => false

/-- The command of the sequence has been executed. -/
def isServing : SubCpuSequence → Bool
  | execution | rxFlush | rxPush | busyDelay | irqDelay => true
  | _ => false

/-- The three kinds of steps exclude each other, except that all sequences end
in the same last step. -/
lemma not_awaits_of_isFree {s : SubCpuSequence} (h : s.isFree = true) :
    s.awaitsExecution = false := by
  cases s <;> first | rfl | cases h

lemma not_awaits_of_isServing {s : SubCpuSequence} (h : s.isServing = true) :
    s.awaitsExecution = false := by
  cases s <;> first | rfl | cases h

lemma eq_irqDelay {s : SubCpuSequence} (hfree : s.isFree = true) (hserving : s.isServing = true) :
    s = .irqDelay := by
  cases s <;> first | rfl | exact absurd hfree (by decide) | exact absurd hserving (by decide)

end SubCpuSequence

namespace CdRom

variable {I : CdImage}

/-- The phase of the command and the step of the sequencer belong together. -/
inductive Tracked (cd : CdRom I) : Prop where
  | idle (hphase : Phase.of cd.log = .idle) (hcmd : cd.command = none)
      (hseq : cd.subCpu.sequence.isFree = true)
  | waiting (cmd : U8) (hphase : Phase.of cd.log = .waiting cmd) (hcmd : cd.command = some cmd)
      (hseq : cd.subCpu.sequence.awaitsExecution = true ∨
        (cd.subCpu.sequence = .idle ∧ cd.irqFlags ≠ 0))
  | done (cmd : U8) (hphase : Phase.of cd.log = .done cmd) (hcmd : cd.command = some cmd)
      (hseq : cd.subCpu.sequence.isServing = true)

lemma Tracked.delivered {cd : CdRom I} (h : Tracked cd) : cd.Delivered := by
  cases h with
  | idle hphase hcmd hseq => simpa [Delivered, hphase] using hcmd
  | waiting cmd hphase hcmd hseq => simpa [Delivered, hphase] using hcmd
  | done cmd hphase hcmd hseq => simpa [Delivered, hphase] using hcmd

/-- Only four parts of the controller matter. -/
lemma Tracked.congr {cd cd' : CdRom I} (h : Tracked cd)
    (hseq' : cd'.subCpu.sequence = cd.subCpu.sequence) (hflags' : cd'.irqFlags = cd.irqFlags)
    (hcmd' : cd'.command = cd.command) (hlog' : cd'.log = cd.log) : Tracked cd' := by
  cases h with
  | idle hphase hcmd hseq =>
      rw [← hlog'] at hphase
      exact .idle hphase (hcmd'.trans hcmd) (hseq' ▸ hseq)
  | waiting cmd hphase hcmd hseq =>
      rw [← hlog'] at hphase
      rw [← hseq', ← hflags'] at hseq
      exact .waiting _ hphase (hcmd'.trans hcmd) hseq
  | done cmd hphase hcmd hseq =>
      rw [← hlog'] at hphase
      exact .done _ hphase (hcmd'.trans hcmd) (hseq' ▸ hseq)

/-- Before its execution a command is waiting. -/
lemma Tracked.of_awaits {cd : CdRom I} (h : Tracked cd)
    (hw : cd.subCpu.sequence.awaitsExecution = true) :
    ∃ cmd, Phase.of cd.log = .waiting cmd ∧ cd.command = some cmd := by
  cases h with
  | idle hphase hcmd hseq => simp [SubCpuSequence.not_awaits_of_isFree hseq] at hw
  | waiting cmd hphase hcmd hseq => exact ⟨_, hphase, hcmd⟩
  | done cmd hphase hcmd hseq => simp [SubCpuSequence.not_awaits_of_isServing hseq] at hw

/-- Between its execution and the last step a command is done. -/
lemma Tracked.of_serving {cd : CdRom I} (h : Tracked cd)
    (hs : cd.subCpu.sequence.isServing = true) (hne : cd.subCpu.sequence ≠ .irqDelay) :
    ∃ cmd, Phase.of cd.log = .done cmd ∧ cd.command = some cmd := by
  cases h with
  | idle hphase hcmd hseq =>
      exact absurd (SubCpuSequence.eq_irqDelay hseq hs) hne
  | waiting cmd hphase hcmd hseq =>
      rcases hseq with hw | ⟨hidle, -⟩
      · simp [SubCpuSequence.not_awaits_of_isServing hs] at hw
      · rw [hidle] at hs
        cases hs
  | done cmd hphase hcmd hseq => exact ⟨_, hphase, hcmd⟩

/-- While the sub-CPU answers by itself there is no command. -/
lemma Tracked.of_asyncRxPush {cd : CdRom I} (h : Tracked cd)
    (hs : cd.subCpu.sequence = .asyncRxPush) :
    Phase.of cd.log = .idle ∧ cd.command = none := by
  cases h with
  | idle hphase hcmd hseq => exact ⟨hphase, hcmd⟩
  | waiting cmd hphase hcmd hseq => simp [hs, SubCpuSequence.awaitsExecution] at hseq
  | done cmd hphase hcmd hseq => simp [hs, SubCpuSequence.isServing] at hseq

/-- A sub-CPU that is ready has no command either. -/
lemma Tracked.of_ready {cd : CdRom I} (h : Tracked cd) (hr : cd.Ready) :
    Phase.of cd.log = .idle ∧ cd.command = none := by
  cases h with
  | idle hphase hcmd hseq => exact ⟨hphase, hcmd⟩
  | waiting cmd hphase hcmd hseq => simp [hr.1, hr.2, SubCpuSequence.awaitsExecution] at hseq
  | done cmd hphase hcmd hseq => simp [hr.2, SubCpuSequence.isServing] at hseq

/-! ### The moves -/

/-- The last step of a sequence retires a command that has been executed. -/
lemma tracked_finish {cd : CdRom I} (h : Tracked cd) (hseq : cd.subCpu.sequence = .irqDelay) :
    Tracked { cd.retireCommand with
      irqFlags := cd.retireCommand.subCpu.irqCode.code
      subCpu := { cd.retireCommand.subCpu with sequence := .idle } } := by
  cases h with
  | idle hphase hcmd _ =>
      -- the end of a response sequence: there is no command to retire
      have hretire : cd.retireCommand = cd := by rw [retireCommand, hcmd]
      rw [hretire]
      exact .idle hphase hcmd rfl
  | waiting cmd hphase hcmd hs => simp [hseq, SubCpuSequence.awaitsExecution] at hs
  | done cmd hphase hcmd _ =>
      have hretire : cd.retireCommand = { cd with command := none }.record (.retired cmd) := by
        rw [retireCommand, hcmd]
      rw [hretire]
      refine .idle ?_ rfl rfl
      change Phase.of (cd.log ++ [.retired cmd]) = .idle
      rw [Phase.of_append, hphase, Phase.next, if_pos rfl]

/-- A step of a sequence keeps the command on track. -/
lemma Step.tracked {cd cd' : CdRom I} (hstep : Step cd cd') (h : Tracked cd) : Tracked cd' := by
  cases hstep with
  | execute hseq hcmd hh =>
      rename_i cmd cd'
      obtain ⟨c, hphase, hc⟩ := h.of_awaits hseq
      obtain rfl : c = cmd := Option.some.inj (hc.symm.trans hcmd)
      refine .done c ?_ (hh.command.trans hcmd) rfl
      have hlog : cd'.log = cd.log ++ [.executed c] := hh.log
      rw [enter, hlog, Phase.of_append, hphase, Phase.next, if_pos rfl]
  | param hseq hostParams params =>
      obtain ⟨c, hphase, hc⟩ := h.of_awaits hseq
      exact .waiting _ hphase hc (.inl rfl)
  | flush hseq =>
      obtain ⟨c, hphase, hc⟩ := h.of_serving (by rw [hseq]; rfl) (by simp [hseq])
      exact .done _ hphase hc rfl
  | rxPush hseq hresp =>
      obtain ⟨c, hphase, hc⟩ := h.of_serving (by rcases hseq with hs | hs <;> rw [hs] <;> rfl)
        (by rcases hseq with hs | hs <;> simp [hs])
      exact .done _ hphase hc rfl
  | rxLast hseq =>
      obtain ⟨c, hphase, hc⟩ := h.of_serving (by rcases hseq with hs | hs <;> rw [hs] <;> rfl)
        (by rcases hseq with hs | hs <;> simp [hs])
      exact .done _ hphase hc rfl
  | busy hseq =>
      obtain ⟨c, hphase, hc⟩ := h.of_serving (by rw [hseq]; rfl) (by simp [hseq])
      exact .done _ hphase hc rfl
  | finish hseq => exact tracked_finish h hseq
  | asyncPush hseq hresp =>
      obtain ⟨hphase, hc⟩ := h.of_asyncRxPush hseq
      exact .idle hphase hc rfl
  | asyncLast hseq =>
      obtain ⟨hphase, hc⟩ := h.of_asyncRxPush hseq
      exact .idle hphase hc rfl

/-- A state in which the sub-CPU waits for nothing: a command written there is
looked at by the sub-CPU before anything else is. -/
def Idle (cd : CdRom I) : Prop := cd.subCpu.sequence = .idle

/-- A command written to an idle sub-CPU is on track. -/
lemma tracked_accept {cd cd' : CdRom I} (h : Tracked cd) (hidle : cd.Idle)
    (hnone : cd.command = none) {cmd : U8}
    (hb : Begins ({ cd with command := some cmd }.record (.accepted cmd)) cd') : Tracked cd' := by
  have hphase : Phase.of (cd.log ++ [.accepted cmd]) = .waiting cmd := by
    rw [Phase.of_append]
    cases h with
    | idle hphase hcmd hseq => rw [hphase, Phase.next]
    | waiting c hphase hcmd hseq => simp [hnone] at hcmd
    | done c hphase hcmd hseq => simp [hnone] at hcmd
  rcases hb with ⟨hnot, rfl⟩ | ⟨-, -, ho⟩
  · refine .waiting cmd hphase rfl (.inr ⟨hidle, fun hflags => hnot ⟨rfl, hflags, hidle⟩⟩)
  · refine .waiting cmd ?_ ho.command (.inl (by rw [ho.sequence]; rfl))
    rw [ho.log]
    exact hphase

/-- An acknowledge leaves a command where it is, or starts it. -/
lemma tracked_ack {cd cd' : CdRom I} (h : Tracked cd) {v : U8}
    (hb : Begins { cd with irqFlags := cd.irqFlags &&& ~~~v } cd') : Tracked cd' := by
  cases h with
  | idle hphase hcmd hseq =>
      rcases hb with ⟨-, rfl⟩ | ⟨hsome, -, -⟩
      · exact .idle hphase hcmd hseq
      · simp [hcmd] at hsome
  | waiting cmd hphase hcmd hseq =>
      rcases hb with ⟨hnot, rfl⟩ | ⟨-, -, ho⟩
      · refine .waiting cmd hphase hcmd ?_
        rcases hseq with hw | ⟨hidle, -⟩
        · exact .inl hw
        · exact .inr ⟨hidle, fun hflags => hnot ⟨by simp [hcmd], hflags, hidle⟩⟩
      · refine .waiting cmd ?_ (ho.command.trans hcmd) (.inl (by rw [ho.sequence]; rfl))
        rw [ho.log]
        exact hphase
  | done cmd hphase hcmd hseq =>
      rcases hb with ⟨-, rfl⟩ | ⟨-, hr, -⟩
      · exact .done cmd hphase hcmd hseq
      · have hidle : cd.subCpu.sequence = .idle := hr.2
        rw [hidle] at hseq
        cases hseq

/-- **Every move keeps the command on track**, provided that a command is
written to an idle sub-CPU only. -/
lemma Move.tracked {cd cd' : CdRom I} (hmove : Move Idle cd cd') (h : Tracked cd) :
    Tracked cd' := by
  cases hmove with
  | frame hsub hflags hcommand hlog => exact h.congr (by rw [hsub]) hflags hcommand hlog
  | wait timer htimer => exact h.congr rfl rfl rfl rfl
  | countdown ha q => exact h.congr rfl rfl rfl rfl
  | step hin hs => exact hs.tracked h
  | answer hr ha =>
      obtain ⟨hphase, hc⟩ := h.of_ready hr
      refine .idle ?_ (ha.command.trans hc) (by rw [ha.sequence]; rfl)
      rw [ha.log]
      exact hphase
  | accept cmd hidle hnone hb => exact tracked_accept h hidle hnone hb
  | ack v hb => exact tracked_ack h hb

/-- **No command is lost** in a run that writes the command register only while
the sub-CPU is idle: in every state reached, every command accepted so far has
been executed exactly once before the `command` field returned to `None`. -/
theorem delivered_of_reach {cd : CdRom I} (h : Reach Idle cd) : cd.Delivered :=
  (h.keeps (P := Tracked) (fun _ => .idle rfl rfl rfl) fun _ _ hmove _ => hmove.tracked).2.delivered

/-- The first command written to an empty drive. -/
theorem delivered_first_command : ∃ cd sh,
    (CdRom.new (I := noImage) none).writeRegister .new .byte 1 0x0a = .ok (cd, sh) ∧
    cd.log = [.accepted 0x0a] ∧ cd.Delivered := by
  obtain ⟨⟨cd, sh⟩, hs⟩ : ∃ s, (CdRom.new (I := noImage) none).writeRegister .new .byte 1 0x0a
      = .ok s := ⟨_, rfl⟩
  refine ⟨cd, sh, hs, ?_, delivered_of_reach (.write (.new none) (fun _ => rfl) hs)⟩
  cases hs
  rfl

/-! ### A lost command -/

/-- Init, acknowledged, and a GetStat written while the second response to
Init is being delivered. -/
def getStatDuringInit : List (Cycles × Access) :=
  [(0, .store .byte 1 0x0a), (60000, .sync), (0, .store .byte 0 1), (0, .store .byte 3 0x1f),
    (0, .store .byte 0 0), (900000, .sync), (0, .store .byte 1 0x01), (10000, .sync)]

/-- The GetStat of `getStatDuringInit` is retired and has not been executed. -/
theorem command_lost : ∃ cd : CdRom noImage, Reach (fun _ => True) cd ∧
    cd.log = [.accepted 0x0a, .executed 0x0a, .retired 0x0a, .accepted 0x01, .retired 0x01] ∧
    ¬cd.Delivered := by
  have hrun : (runAccesses (CdRom.new (I := noImage) none) .new getStatDuringInit >>=
      fun s => pure s.1.log) = .ok [.accepted 0x0a, .executed 0x0a, .retired 0x0a,
        .accepted 0x01, .retired 0x01] := by
    decide +kernel
  obtain ⟨s, hs, hlog⟩ := bind_eq_ok.mp hrun
  replace hlog := Except.ok.inj hlog
  refine ⟨s.1, reach_runAccesses (.new none) hs, hlog, ?_⟩
  rw [Delivered, hlog]
  exact id

end CdRom

end Rustation
