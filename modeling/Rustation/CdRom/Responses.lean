import Rustation.CdRom.Frame

/-!
The delivery of responses to the host.

A handler queues the bytes of its response in the sub-CPU, the sequence moves
them one by one to the host, and an interrupt says that they are there.

* `handlerBytes`: the bytes that the handler of the current sequence has
  queued, read off the step that runs it;
* `Course`: the runs of the controller together with these bytes, in which the
  host pops its responses only while the sub-CPU is idle;
* `Conveys`: the invariant, which says where the bytes are in every step of a
  sequence;
* `response_whole`: in every run whose second responses and sector
  notifications start with the response FIFO of the host read empty, every
  interrupt finds there exactly the bytes of its own handler;
* `response_mixed`: the second response to Init arrives behind the unread first
  one.
-/

namespace Rustation

open Fallible

namespace CdRom

variable {I : CdImage}

/-! ### The bytes of a handler -/

/-- The bytes that the handler of the latest sequence has queued, after a step
from `cd` to `cd'` that found `bytes`.  The command handler runs on the way to
the execution step, the other ones when a response sequence starts. -/
def handlerBytes (cd cd' : CdRom I) (bytes : List U8) : List U8 :=
  if cd.subCpu.sequence.awaitsExecution = true ∧ cd'.subCpu.sequence = .execution then
    cd'.subCpu.response.toList.drop cd.subCpu.response.size
  else if cd.subCpu.sequence = .idle ∧ cd'.subCpu.sequence = .asyncRxPush then
    cd'.subCpu.response.toList
  else bytes

/-- A loop iteration over `remaining` cycles is going to start the sequence of
a second response or of a sector: nothing else is under way, and one of the
two countdowns ends. -/
def AnswerDue (cd : CdRom I) (remaining : U32) : Prop :=
  cd.Ready ∧ ((∃ p, cd.subCpu.asyncResponse = some p ∧ p.1 ≤ remaining) ∨
    ∃ delay, cd.readState = .reading delay ∧ delay ≤ remaining)

/-- A register write is going to start such a sequence: it acknowledges the
last interrupt that a second response or a sector is waiting for. -/
def AnswerFreed (cd : CdRom I) (offset val : U32) : Prop :=
  (offset.toNat = 3 ∧ cd.index.toNat = 1) ∧
  cd.subCpu.sequence = .idle ∧ cd.irqFlags &&& ~~~(val.setWidth 8 &&& 0x1f) = 0 ∧
  cd.command = none ∧
  ((∃ handler, cd.subCpu.asyncResponse = some (0, handler)) ∨ cd.readPending = true)

/-- The states of the controller, with the bytes of the latest handler, under
any interleaving of register accesses and iterations of the loop of `sync` in
which the host pops RESULT bytes only while the sub-CPU is idle.  `D` restricts
the states in which a second response or a sector notification starts. -/
inductive Course (D : CdRom I → Prop) : CdRom I → List U8 → Prop where
  | new (disc : Option (Disc I)) : Course D (CdRom.new disc) []
  | iterate {cd cd' : CdRom I} {bytes : List U8} {sh sh' : SharedState} {remaining elapsed : U32}
      (h : Course D cd bytes) (hrem : remaining ≠ 0) (hD : cd.AnswerDue remaining → D cd)
      (hs : cd.syncStep sh remaining = .ok (elapsed, cd', sh')) :
      Course D cd' (cd.handlerBytes cd' bytes)
  | read {cd cd' : CdRom I} {bytes : List U8} {width : Width} {offset v : U32}
      (h : Course D cd bytes) (hidle : offset.toNat = 1 → cd.subCpu.sequence = .idle)
      (hs : cd.readRegister width offset = .ok (v, cd')) : Course D cd' bytes
  | write {cd cd' : CdRom I} {bytes : List U8} {sh sh' : SharedState} {width : Width}
      {offset val : U32} (h : Course D cd bytes) (hD : cd.AnswerFreed offset val → D cd)
      (hs : cd.writeRegister sh width offset val = .ok (cd', sh')) :
      Course D cd' (cd.handlerBytes cd' bytes)
  | dmaReadWord {cd cd' : CdRom I} {bytes : List U8} {v : U32} (h : Course D cd bytes)
      (hs : cd.dmaReadWord = .ok (v, cd')) : Course D cd' bytes

variable {D : CdRom I → Prop}

lemma Course.reach {cd : CdRom I} {bytes : List U8} (h : Course D cd bytes) :
    Reach (fun _ => True) cd := by
  induction h with
  | new disc => exact .new disc
  | iterate _ hrem _ hs ih => exact ih.iterate hrem hs
  | read _ _ hs ih => exact ih.read hs
  | write _ _ hs ih => exact ih.write (fun _ => trivial) hs
  | dmaReadWord _ hs ih => exact ih.dmaReadWord hs

/-! ### The invariant -/

/-- Where the bytes of the handler are. -/
inductive Conveys (cd : CdRom I) (bytes : List U8) : Prop where
  /-- no handler has answered yet -/
  | none (hseq : cd.subCpu.sequence = .idle ∨ cd.subCpu.sequence.awaitsExecution = true)
  /-- the host FIFO is about to be cleared -/
  | queued (hseq : cd.subCpu.sequence = .execution) (hlen : bytes.length ≤ 16)
      (hb : cd.subCpu.response.toList = bytes)
  | moving (hseq : cd.subCpu.sequence = .rxFlush ∨ cd.subCpu.sequence = .rxPush ∨
        cd.subCpu.sequence = .asyncRxPush) (hlen : bytes.length ≤ 16)
      (hb : cd.hostResponse.toList ++ cd.subCpu.response.toList = bytes)
  | moved (hseq : cd.subCpu.sequence = .busyDelay ∨ cd.subCpu.sequence = .irqDelay)
      (hlen : bytes.length ≤ 16) (hb : cd.hostResponse.toList = bytes)

/-- Nothing has touched the response on its way to the host. -/
structure Quiet (cd cd' : CdRom I) : Prop where
  sequence : cd'.subCpu.sequence = cd.subCpu.sequence
  response : cd'.subCpu.response = cd.subCpu.response
  hostResponse : cd'.hostResponse = cd.hostResponse

lemma Quiet.refl (cd : CdRom I) : Quiet cd cd := ⟨rfl, rfl, rfl⟩

lemma Quiet.trans {cd cd' cd'' : CdRom I} (h : Quiet cd cd') (h' : Quiet cd' cd'') :
    Quiet cd cd'' :=
  ⟨h'.sequence.trans h.sequence, h'.response.trans h.response,
    h'.hostResponse.trans h.hostResponse⟩

lemma Quiet.conveys {cd cd' : CdRom I} (h : Quiet cd cd') {bytes : List U8}
    (hc : Conveys cd bytes) : Conveys cd' bytes := by
  cases hc with
  | none hseq => exact .none (by rwa [h.sequence])
  | queued hseq hlen hb => exact .queued (h.sequence.trans hseq) hlen (by rwa [h.response])
  | moving hseq hlen hb =>
      exact .moving (by rwa [h.sequence]) hlen (by rwa [h.response, h.hostResponse])
  | moved hseq hlen hb => exact .moved (by rwa [h.sequence]) hlen (by rwa [h.hostResponse])

/-- The bytes of the handler depend on the response path alone. -/
lemma Quiet.handlerBytes_eq {cd cd₁ cd' : CdRom I} (h : Quiet cd₁ cd') (bytes : List U8) :
    cd.handlerBytes cd' bytes = cd.handlerBytes cd₁ bytes := by
  rw [handlerBytes, handlerBytes, h.sequence, h.response]

/-- No handler runs in a step that stays in its place of the sequence. -/
lemma handlerBytes_of_sequence_eq {cd cd' : CdRom I}
    (h : cd'.subCpu.sequence = cd.subCpu.sequence) (bytes : List U8) :
    cd.handlerBytes cd' bytes = bytes := by
  rw [handlerBytes, h, if_neg, if_neg]
  · rintro ⟨hidle, hpush⟩
    simp [hidle] at hpush
  · rintro ⟨hw, hexec⟩
    simp [hexec, SubCpuSequence.awaitsExecution] at hw

/-- Nor after the handler of the sequence has run. -/
lemma handlerBytes_of_answered {cd : CdRom I} (hw : cd.subCpu.sequence.awaitsExecution = false)
    (hidle : cd.subCpu.sequence ≠ .idle) (cd' : CdRom I) (bytes : List U8) :
    cd.handlerBytes cd' bytes = bytes := by
  rw [handlerBytes, if_neg fun h => ?_, if_neg fun h => hidle h.1]
  simp [hw] at h

/-! ### The steps of a sequence -/

/-- A response of at most 16 bytes reaches the host whole. -/
lemma toList_moveResponse {cd : CdRom I} (hresp : cd.subCpu.response.isEmpty = false)
    (hlen : (cd.hostResponse.toList ++ cd.subCpu.response.toList).length ≤ 16) :
    cd.moveResponse.hostResponse.toList ++ cd.moveResponse.subCpu.response.toList =
      cd.hostResponse.toList ++ cd.subCpu.response.toList := by
  have hne : cd.subCpu.response.size ≠ 0 := (Fifo.isEmpty_eq_false_iff _).mp hresp
  rw [List.length_append, Fifo.length_toList, Fifo.length_toList] at hlen
  have hpush : cd.moveResponse.hostResponse.toList =
      cd.hostResponse.toList ++ [cd.subCpu.response.pop.1] := Fifo.toList_push (by omega) _
  have hpop : cd.subCpu.response.toList =
      cd.subCpu.response.pop.1 :: cd.moveResponse.subCpu.response.toList := Fifo.toList_pop hne
  rw [hpush, hpop, List.append_assoc, List.singleton_append]

/-- The response of a handler to a sequence that has cleared the FIFO. -/
lemma Handled.toList_response {cd cd' : CdRom I} (h : Handled cd cd')
    (hnew : cd.subCpu.response = .new) : cd'.subCpu.response.toList.length ≤ 16 := by
  obtain ⟨bytes, -, h8, hb⟩ := h.response
  rw [hb, hnew, Fifo.toList_pushSlice (by simp; omega)]
  simp only [Fifo.toList_new, List.nil_append]
  omega

/-- The step that executes the command, or pushes a parameter before that. -/
lemma conveys_of_awaits {cd : CdRom I} (hcd : cd.Sequenced)
    (hw : cd.subCpu.sequence.awaitsExecution = true) {bytes : List U8} {s : Shared I}
    {sh : SharedState} (hs : cd.nextSubCpuStep sh = .ok s) :
    Conveys s.1 (cd.handlerBytes s.1 bytes) := by
  have hstep : (if cd.hostParams.isEmpty then do
        let cd ← cd.executeCommand
        pure (cd.enter .execution Timings.EXECUTION, sh)
      else
        pure (({ cd with
          hostParams := cd.hostParams.pop.2
          subCpu := { cd.subCpu with params := cd.subCpu.params.push cd.hostParams.pop.1 } }
            ).enter .paramPush Timings.PARAM_PUSH, sh) : Outcome (Shared I)) = .ok s := by
    rw [← hs, nextSubCpuStep]
    cases hseq : cd.subCpu.sequence <;> simp [hseq, SubCpuSequence.awaitsExecution] at hw <;> rfl
  split at hstep
  · obtain ⟨cd', hexec, hret⟩ := bind_eq_ok.mp hstep
    obtain rfl := Except.ok.inj hret
    obtain ⟨cmd, -, hh⟩ := (post_executeCommand (hcd.async hw)).of_ok hexec
    have hbytes : cd.handlerBytes (cd'.enter .execution Timings.EXECUTION) bytes =
        cd'.subCpu.response.toList := by
      rw [handlerBytes, if_pos ⟨hw, rfl⟩, hcd.fresh hw]
      rfl
    rw [hbytes]
    exact .queued rfl (hh.toList_response (hcd.fresh hw)) rfl
  · obtain rfl := Except.ok.inj hstep
    exact .none (.inr rfl)

/-- The step that moves a byte to the host and goes on to `more` while bytes
are left, and to `last` after the last one. -/
lemma conveys_moveResponse {cd : CdRom I} (hresp : cd.subCpu.response.isEmpty = false)
    {bytes : List U8} (hlen : bytes.length ≤ 16)
    (hb : cd.hostResponse.toList ++ cd.subCpu.response.toList = bytes)
    {more last : SubCpuSequence} (hmore : more = .rxPush ∨ more = .asyncRxPush)
    (hlast : last = .busyDelay ∨ last = .irqDelay) {tm tl : U32} {sh : SharedState} {s : Shared I}
    (hs : (if cd.moveResponse.subCpu.response.isEmpty then pure (cd.moveResponse.enter last tl, sh)
      else pure (cd.moveResponse.enter more tm, sh) : Outcome (Shared I)) = .ok s) :
    Conveys s.1 bytes := by
  have hmove := toList_moveResponse hresp (by rwa [hb])
  rw [hb] at hmove
  split at hs
  · next hempty =>
    obtain rfl := Except.ok.inj hs
    rw [(Fifo.isEmpty_iff_toList _).mp hempty, List.append_nil] at hmove
    exact .moved hlast hlen hmove
  · obtain rfl := Except.ok.inj hs
    exact .moving (.inr hmore) hlen hmove

/-- What one step of a sequence does to the bytes under way. -/
lemma conveys_nextSubCpuStep {cd : CdRom I} (hcd : cd.Sequenced)
    (hin : cd.subCpu.inCommand = true) {bytes : List U8} (hc : Conveys cd bytes)
    {sh : SharedState} {s : Shared I} (hs : cd.nextSubCpuStep sh = .ok s) :
    Conveys s.1 (cd.handlerBytes s.1 bytes) := by
  have hne : cd.subCpu.sequence ≠ .idle := inCommand_iff.mp hin
  by_cases hw : cd.subCpu.sequence.awaitsExecution = true
  · exact conveys_of_awaits hcd hw hs
  rw [handlerBytes_of_answered (Bool.eq_false_of_not_eq_true hw) hne]
  rw [nextSubCpuStep] at hs
  cases hc with
  | none hseq => exact absurd (hseq.resolve_left hne) hw
  | queued hseq hlen hb =>
      rw [hseq] at hs
      obtain rfl := Except.ok.inj hs
      exact .moving (.inl rfl) hlen (by simpa [enter] using hb)
  | moving hseq hlen hb =>
      have hresp : cd.subCpu.response.isEmpty = false := by
        refine hcd.response ?_
        rcases hseq with h | h | h <;> rw [h] <;> rfl
      rcases hseq with h | h | h <;> rw [h] at hs
      · exact conveys_moveResponse hresp hlen hb (.inl rfl) (.inl rfl) hs
      · exact conveys_moveResponse hresp hlen hb (.inl rfl) (.inl rfl) hs
      · exact conveys_moveResponse hresp hlen hb (.inr rfl) (.inr rfl) hs
  | moved hseq hlen hb =>
      rcases hseq with h | h <;> rw [h] at hs
      · obtain rfl := Except.ok.inj hs
        exact .moved (.inr rfl) hlen hb
      · obtain ⟨s', -, hret⟩ := bind_eq_ok.mp hs
        obtain rfl := Except.ok.inj hret
        exact .none (.inl rfl)

/-! ### Starting a response sequence -/

/-- A response sequence has just been started, and its handler has answered. -/
structure Starts (cd cd' : CdRom I) : Prop where
  sequence : cd'.subCpu.sequence = .asyncRxPush
  hostResponse : cd'.hostResponse = cd.hostResponse
  response : cd'.subCpu.response.toList.length ≤ 16

/-- The bytes of a response that starts with an empty host FIFO. -/
lemma Starts.conveys {cd cd' : CdRom I} (h : Starts cd cd') (hidle : cd.subCpu.sequence = .idle)
    (hempty : cd.hostResponse.isEmpty = true) (bytes : List U8) :
    Conveys cd' (cd.handlerBytes cd' bytes) := by
  have hbytes : cd.handlerBytes cd' bytes = cd'.subCpu.response.toList := by
    rw [handlerBytes, if_neg fun hw => ?_, if_pos ⟨hidle, h.sequence⟩]
    simp [hidle, SubCpuSequence.awaitsExecution] at hw
  rw [hbytes]
  refine .moving (.inr (.inr h.sequence)) h.response ?_
  rw [h.hostResponse, (Fifo.isEmpty_iff_toList _).mp hempty, List.nil_append]

/-- The handlers of second responses do not touch the host FIFO. -/
lemma runAsync_hostResponse (cd : CdRom I) (handler : AsyncHandler) :
    Post Explicit (cd.runAsync handler) fun r => r.2.hostResponse = cd.hostResponse := by
  cases handler with
  | pause | init | seekL | readToc => exact rfl
  | getId =>
      rw [runAsync, asyncGetId]
      split
      · trivial
      · rw [post_bind, Disc.region]
        split
        · exact rfl
        · trivial

lemma maybeProcess_cases {cd : CdRom I} {sh : SharedState} {s : Shared I}
    (h : cd.maybeProcessAsyncResponse sh = .ok s) :
    s.1 = cd ∨ (cd.Ready ∧ (∃ handler, cd.subCpu.asyncResponse = some (0, handler)) ∧
      Starts cd s.1) := by
  rw [maybeProcessAsyncResponse] at h
  split at h
  · next delay handler hasync =>
    split at h
    · next hguard =>
      obtain ⟨r, hrun, hret⟩ := bind_eq_ok.mp h
      obtain rfl := Except.ok.inj hret
      have hh := ((post_runAsync _ _).of_ok hrun).2
      have hhost := (runAsync_hostResponse _ _).of_ok hrun
      refine .inr ⟨ready_iff.mpr hguard.2, ⟨handler, ?_⟩, rfl, hhost, hh.toList_response rfl⟩
      rw [hasync, hguard.1]
    · obtain rfl := Except.ok.inj h
      exact .inl rfl
  · obtain rfl := Except.ok.inj h
    exact .inl rfl

lemma maybeNotify_cases (cd : CdRom I) (sh : SharedState) :
    (cd.maybeNotifyRead sh).1 = cd ∨
      (cd.Ready ∧ cd.readPending = true ∧ Starts cd (cd.maybeNotifyRead sh).1) := by
  rw [maybeNotifyRead]
  split_ifs with h
  · simp only [Bool.and_eq_true, beq_iff_eq, Bool.not_eq_true'] at h
    refine .inr ⟨ready_iff.mpr ⟨h.1.2, h.2⟩, h.1.1, rfl, rfl, ?_⟩
    exact (respondStatus_handled _).toList_response rfl
  · exact .inl rfl

/-! ### The synchronisation loop -/

lemma conveys_stepSubCpu {cd : CdRom I} (hcd : cd.Sequenced) (hin : cd.subCpu.inCommand = true)
    {bytes : List U8} (hc : Conveys cd bytes) {sh : SharedState} {remaining : U32}
    {r : U32 × Shared I} (hs : cd.stepSubCpu sh remaining = .ok r) :
    Conveys r.2.1 (cd.handlerBytes r.2.1 bytes) ∧ ¬r.2.1.Ready := by
  rw [stepSubCpu, if_pos hin] at hs
  split at hs
  · obtain rfl := Except.ok.inj hs
    have hq :
        Quiet cd { cd with subCpu := { cd.subCpu with timer := cd.subCpu.timer - remaining } } :=
      ⟨rfl, rfl, rfl⟩
    refine ⟨?_, fun hr => inCommand_iff.mp hin hr.2⟩
    rw [handlerBytes_of_sequence_eq hq.sequence]
    exact hq.conveys hc
  · obtain ⟨s, hstep, hret⟩ := bind_eq_ok.mp hs
    obtain rfl := Except.ok.inj hret
    have hone : Step cd s.1 := (post_nextSubCpuStep hcd hin sh).of_ok hstep
    exact ⟨conveys_nextSubCpuStep hcd hin hc hstep, hone.not_ready⟩

lemma stepAsync_cases {cd : CdRom I} {sh : SharedState} {elapsed : U32} {s : Shared I}
    (h : cd.stepAsync sh elapsed = .ok s) :
    (∃ p, s.1 = { cd with subCpu := { cd.subCpu with asyncResponse := p } }) ∨
      (cd.Ready ∧ (∃ p, cd.subCpu.asyncResponse = some p ∧ p.1 ≤ elapsed) ∧ Starts cd s.1) := by
  rw [stepAsync] at h
  split at h
  · next delay handler hasync =>
    split at h
    · obtain rfl := Except.ok.inj h
      exact .inl ⟨_, rfl⟩
    · next hle =>
      rcases maybeProcess_cases h with hsame | ⟨hr, -, hst⟩
      · exact .inl ⟨_, hsame⟩
      · exact .inr ⟨hr, ⟨_, hasync, BitVec.not_lt.mp hle⟩, hst.sequence, hst.hostResponse,
          hst.response⟩
  · obtain rfl := Except.ok.inj h
    exact .inl ⟨cd.subCpu.asyncResponse, rfl⟩

lemma stepRead_cases {cd : CdRom I} {sh : SharedState} {elapsed : U32} {s : Shared I}
    (h : cd.stepRead sh elapsed = .ok s) :
    Quiet cd s.1 ∨ (cd.Ready ∧ (∃ delay, cd.readState = .reading delay ∧ delay ≤ elapsed) ∧
      Starts cd s.1) := by
  rw [stepRead] at h
  split at h
  · next delay hread =>
    split at h
    · obtain rfl := Except.ok.inj h
      exact .inl ⟨rfl, rfl, rfl⟩
    · next hle =>
      obtain ⟨cd', hsector, hret⟩ := bind_eq_ok.mp h
      obtain rfl := Except.ok.inj hret
      -- reading the sector has left the sequencer as it was
      have hself := eq_withDrive hsector
      have hq : Quiet cd cd' := by
        rw [hself]
        exact ⟨rfl, rfl, rfl⟩
      have hready : cd'.Ready → cd.Ready := by
        rw [hself]
        exact id
      rcases cd'.maybeNotify_cases sh with hsame | ⟨hr, -, hst⟩
      · have hn : Quiet cd (cd'.maybeNotifyRead sh).1 := by
          rw [hsame]
          exact hq
        exact .inl ⟨hn.sequence, hn.response, hn.hostResponse⟩
      · exact .inr ⟨hready hr, ⟨delay, hread, BitVec.not_lt.mp hle⟩, hst.sequence,
          hst.hostResponse.trans hq.hostResponse, hst.response⟩
  · obtain rfl := Except.ok.inj h
    exact .inl (.refl cd)

/-- Once a sequence is under way or an interrupt is waiting, the rest of the
loop body does not touch the response. -/
lemma quiet_of_not_ready {cd : CdRom I} (hr : ¬cd.Ready) {sh sh₁ : SharedState} {elapsed : U32}
    {cd₁ : CdRom I} {s : Shared I} (hasync : cd.stepAsync sh elapsed = .ok (cd₁, sh₁))
    (hread : cd₁.stepRead sh₁ elapsed = .ok s) : Quiet cd s.1 := by
  rcases stepAsync_cases hasync with ⟨p, hp⟩ | ⟨h, -⟩
  · dsimp only at hp
    subst hp
    rcases stepRead_cases hread with hq | ⟨h, -⟩
    · exact ⟨hq.sequence, hq.response, hq.hostResponse⟩
    · exact absurd h hr
  · exact absurd h hr

/-- **One iteration** of the loop of `sync` keeps track of the bytes. -/
lemma conveys_syncStep {cd cd' : CdRom I} (hcd : cd.Sequenced) {bytes : List U8}
    (hc : Conveys cd bytes) {sh sh' : SharedState} {remaining elapsed : U32}
    (hD : cd.AnswerDue remaining → cd.hostResponse.isEmpty = true)
    (hs : cd.syncStep sh remaining = .ok (elapsed, cd', sh')) :
    Conveys cd' (cd.handlerBytes cd' bytes) := by
  rw [syncStep] at hs
  obtain ⟨⟨elapsed', cd₁, sh₁⟩, hsub, hs⟩ := bind_eq_ok.mp hs
  obtain ⟨⟨cd₂, sh₂⟩, hasync, hs⟩ := bind_eq_ok.mp hs
  obtain ⟨⟨cd₃, sh₃⟩, hread, hret⟩ := bind_eq_ok.mp hs
  cases hret
  by_cases hin : cd.subCpu.inCommand = true
  · obtain ⟨hc₁, hr₁⟩ := conveys_stepSubCpu hcd hin hc hsub
    have hq : Quiet cd₁ cd' := quiet_of_not_ready hr₁ hasync hread
    rw [hq.handlerBytes_eq]
    exact hq.conveys hc₁
  -- an idle sub-CPU goes through the whole delta, after which a sequence may start
  rw [stepSubCpu, if_neg hin] at hsub
  cases hsub
  have hidle : cd.subCpu.sequence = .idle := not_ne_iff.mp fun h => hin (inCommand_iff.mpr h)
  rcases stepAsync_cases hasync with ⟨p, hp⟩ | ⟨hr, hdue, hst⟩
  · dsimp only at hp
    subst hp
    rcases stepRead_cases hread with hq | ⟨hr, hdue, hst⟩
    · have hq' : Quiet cd cd' := ⟨hq.sequence, hq.response, hq.hostResponse⟩
      rw [handlerBytes_of_sequence_eq hq'.sequence]
      exact hq'.conveys hc
    · have hst' : Starts cd cd' := ⟨hst.sequence, hst.hostResponse, hst.response⟩
      exact hst'.conveys hidle (hD ⟨hr, .inr hdue⟩) bytes
  · have hq : Quiet cd₂ cd' := by
      rcases stepRead_cases hread with hq | ⟨hr₂, -⟩
      · exact hq
      · have hseq := hr₂.2
        rw [hst.sequence] at hseq
        cases hseq
    rw [hq.handlerBytes_eq]
    exact hq.conveys (hst.conveys hidle (hD ⟨hr, .inl hdue⟩) bytes)

/-! ### Register accesses -/

/-- What a register write can do to the response path.  `freed` says that a
response sequence is waiting for the write. -/
inductive Written (freed : Prop) (cd cd' : CdRom I) : Prop where
  | quiet (h : Quiet cd cd')
  | command (hidle : cd.subCpu.sequence = .idle) (hseq : cd'.subCpu.sequence = .commandPending)
  | answer (hidle : cd.subCpu.sequence = .idle) (hfreed : freed) (h : Starts cd cd')

lemma Written.conveys {freed : Prop} {cd cd' : CdRom I} (h : Written freed cd cd')
    {bytes : List U8} (hc : Conveys cd bytes) (hD : freed → cd.hostResponse.isEmpty = true) :
    Conveys cd' (cd.handlerBytes cd' bytes) := by
  cases h with
  | quiet hq =>
      rw [handlerBytes_of_sequence_eq hq.sequence]
      exact hq.conveys hc
  | command hidle hseq => exact .none (.inr (by rw [hseq]; rfl))
  | answer hidle hfreed hst => exact hst.conveys hidle (hD hfreed) bytes

lemma written_setCommand {freed : Prop} {cd : CdRom I} {sh : SharedState} {cmd : U8}
    {s : Shared I} (h : cd.setCommand sh cmd = .ok s) : Written freed cd s.1 := by
  rw [setCommand] at h
  split at h
  · cases h
  · rcases (post_maybeStartCommand _ sh).of_ok h with ⟨-, hsame⟩ | ⟨-, hr, ho⟩
    · rw [hsame]
      exact .quiet ⟨rfl, rfl, rfl⟩
    · exact .command hr.2 ho.sequence

/-- An acknowledgement lets at most one sequence go on: the pending command, or
else the second response, or else the sector. -/
lemma written_irqAck {cd : CdRom I} {sh : SharedState} {v : U8} {s : Shared I}
    (h : cd.irqAck sh v = .ok s) :
    Written (cd.subCpu.sequence = .idle ∧ cd.irqFlags &&& ~~~v = 0 ∧ cd.command = none ∧
      ((∃ handler, cd.subCpu.asyncResponse = some (0, handler)) ∨ cd.readPending = true))
      cd s.1 := by
  rw [irqAck] at h
  obtain ⟨⟨cd₁, sh₁⟩, hstart, h⟩ := bind_eq_ok.mp h
  obtain ⟨⟨cd₂, sh₂⟩, hasync, hret⟩ := bind_eq_ok.mp h
  obtain rfl := Except.ok.inj hret
  rcases (post_maybeStartCommand _ sh).of_ok hstart with ⟨hnot, hsame⟩ | ⟨-, hr, ho⟩
  · dsimp only at hsame
    subst hsame
    have hnone (hr : Ready { cd with irqFlags := cd.irqFlags &&& ~~~v }) : cd.command = none :=
      Option.not_isSome_iff_eq_none.mp fun hsome => hnot ⟨hsome, hr⟩
    rcases maybeProcess_cases hasync with hsame | ⟨hr, hdue, hst⟩
    · dsimp only at hsame
      subst hsame
      rcases maybeNotify_cases { cd with irqFlags := cd.irqFlags &&& ~~~v } sh₂ with
        hsame | ⟨hr, hpend, hst⟩
      · rw [hsame]
        exact .quiet ⟨rfl, rfl, rfl⟩
      · exact .answer hr.2 ⟨hr.2, hr.1, hnone hr, .inr hpend⟩
          ⟨hst.sequence, hst.hostResponse, hst.response⟩
    · -- the second response has started, so the sector has to wait
      have hbusy : ¬cd₂.Ready := by
        rintro ⟨-, hidle⟩
        rw [hst.sequence] at hidle
        cases hidle
      rw [(cd₂.maybeNotify_cases sh₂).resolve_right fun hn => hbusy hn.1]
      exact .answer hr.2 ⟨hr.2, hr.1, hnone hr, .inl hdue⟩
        ⟨hst.sequence, hst.hostResponse, hst.response⟩
  · have hbusy {cd' : CdRom I} (hseq : cd'.subCpu.sequence = .commandPending) : ¬cd'.Ready := by
      rintro ⟨-, hidle⟩
      rw [hseq] at hidle
      cases hidle
    have hsame := (maybeProcess_cases hasync).resolve_right fun hn => hbusy ho.sequence hn.1
    dsimp only at hsame
    subst hsame
    rw [(maybeNotify_cases _ sh₂).resolve_right fun hn => hbusy ho.sequence hn.1]
    exact .command hr.2 ho.sequence

lemma written_hostClearControl {cd : CdRom I} {sh : SharedState} {val : U8} {s : Shared I}
    (h : cd.hostClearControl sh val = .ok s) :
    Written (cd.subCpu.sequence = .idle ∧ cd.irqFlags &&& ~~~(val &&& 0x1f) = 0 ∧
      cd.command = none ∧
      ((∃ handler, cd.subCpu.asyncResponse = some (0, handler)) ∨ cd.readPending = true))
      cd s.1 := by
  rw [hostClearControl] at h
  obtain ⟨⟨cd₁, sh₁⟩, hack, h⟩ := bind_eq_ok.mp h
  have hw := written_irqAck hack
  have hs : Quiet cd₁ s.1 := by
    dsimp only at h
    split at h
    · cases h
    · obtain rfl := Except.ok.inj h
      dsimp only
      split <;> exact ⟨rfl, rfl, rfl⟩
  cases hw with
  | quiet hq => exact .quiet (hq.trans hs)
  | command hidle hseq => exact .command hidle (hs.sequence.trans hseq)
  | answer hidle hfreed hst =>
      refine .answer hidle hfreed ⟨hs.sequence.trans hst.sequence,
        hs.hostResponse.trans hst.hostResponse, ?_⟩
      rw [hs.response]
      exact hst.response

/-- **A register write** keeps the response path or starts one sequence. -/
lemma written_writeRegister {cd : CdRom I} {sh : SharedState} {width : Width} {offset val : U32}
    {s : Shared I} (h : cd.writeRegister sh width offset val = .ok s) :
    Written (cd.AnswerFreed offset val) cd s.1 := by
  rw [writeRegister] at h
  split at h
  · cases h
  dsimp only at h
  split at h
  case h_2 => exact written_setCommand h
  case h_4 =>
    obtain ⟨cd', hset, hret⟩ := bind_eq_ok.mp h
    obtain rfl := Except.ok.inj hret
    rw [setParameter] at hset
    split at hset
    · cases hset
    · split at hset
      · cases hset
      · obtain rfl := Except.ok.inj hset
        exact .quiet ⟨rfl, rfl, rfl⟩
  case h_8 =>
    obtain ⟨cd', hset, hret⟩ := bind_eq_ok.mp h
    obtain rfl := Except.ok.inj hret
    rw [setHostChipControl] at hset
    split at hset
    · cases hset
    · obtain rfl := Except.ok.inj hset
      exact .quiet ⟨rfl, rfl, rfl⟩
  case h_9 h3 h1 =>
    cases written_hostClearControl h with
    | quiet hq => exact .quiet hq
    | command hidle hseq => exact .command hidle hseq
    | answer hidle hfreed hst => exact .answer hidle ⟨⟨h3, h1⟩, hfreed⟩ hst
  case h_12 => cases h
  all_goals
    obtain rfl := Except.ok.inj h
    exact .quiet ⟨rfl, rfl, rfl⟩

/-- A register read pops a response byte at offset 1, and touches nothing
elsewhere. -/
lemma conveys_readRegister {cd cd' : CdRom I} {bytes : List U8} (hc : Conveys cd bytes)
    {width : Width} {offset v : U32} (hidle : offset.toNat = 1 → cd.subCpu.sequence = .idle)
    (hs : cd.readRegister width offset = .ok (v, cd')) : Conveys cd' bytes := by
  rw [readRegister] at hs
  split at hs
  · cases hs
  split at hs
  case h_2 h1 =>
    split at hs
    · cases hs
    · cases hs
      exact .none (.inl (hidle h1))
  case h_5 => cases hs
  all_goals
    cases hs
    exact hc

lemma quiet_readByte {cd cd' : CdRom I} {b : U8} (h : cd.readByte = .ok (b, cd')) :
    Quiet cd cd' := by
  rw [readByte] at h
  split at h
  · split at h
    · cases h
      exact ⟨rfl, rfl, rfl⟩
    · cases h
  · cases h

lemma quiet_dmaReadWord {cd cd' : CdRom I} {v : U32} (h : cd.dmaReadWord = .ok (v, cd')) :
    Quiet cd cd' := by
  rw [dmaReadWord] at h
  obtain ⟨r0, h0, h⟩ := bind_eq_ok.mp h
  obtain ⟨r1, h1, h⟩ := bind_eq_ok.mp h
  obtain ⟨r2, h2, h⟩ := bind_eq_ok.mp h
  obtain ⟨r3, h3, hret⟩ := bind_eq_ok.mp h
  cases hret
  exact (((quiet_readByte h0).trans (quiet_readByte h1)).trans (quiet_readByte h2)).trans
    (quiet_readByte h3)

/-! ### Runs -/

/-- The bytes of the current handler are all there, in order and alone, in
every run whose response sequences start with the host FIFO empty. -/
lemma Course.conveys {cd : CdRom I} {bytes : List U8}
    (h : Course (fun cd => cd.hostResponse.isEmpty = true) cd bytes) : Conveys cd bytes := by
  induction h with
  | new disc => exact .none (.inl rfl)
  | iterate h _ hD hs ih => exact conveys_syncStep h.reach.sequenced ih hD hs
  | read _ hidle hs ih => exact conveys_readRegister ih hidle hs
  | write _ hD hs ih => exact (written_writeRegister hs).conveys ih hD
  | dmaReadWord _ hs ih => exact (quiet_dmaReadWord hs).conveys ih

/-- **Responses are delivered whole and alone** in a run whose second responses
and sector notifications start with the response FIFO of the host read empty:
whenever the last step of a sequence raises its interrupt, the unread bytes of
the host are exactly those of the handler of that sequence, and fit in the
FIFO. -/
theorem response_whole {cd : CdRom I} {bytes : List U8}
    (h : Course (fun cd => cd.hostResponse.isEmpty = true) cd bytes)
    (hseq : cd.subCpu.sequence = .irqDelay) (sh : SharedState) :
    ∃ s, cd.nextSubCpuStep sh = .ok s ∧ s.1.irqFlags ≠ 0 ∧
      s.1.hostResponse.toList = bytes ∧ s.1.hostResponse.toList.length ≤ 16 := by
  have hflags : cd.retireCommand.irqFlags = 0 := by
    rw [retireCommand_irqFlags]
    exact h.reach.sequenced.flags (inCommand_iff.mpr (by simp [hseq]))
  have hhost : cd.retireCommand.hostResponse = cd.hostResponse := by
    rw [retireCommand]
    split <;> rfl
  obtain ⟨s, hs, hcd⟩ : ∃ s, cd.retireCommand.triggerIrq sh cd.subCpu.irqCode = .ok s ∧
      s.1 = { cd.retireCommand with irqFlags := cd.subCpu.irqCode.code } := by
    rw [triggerIrq, if_neg (not_not.mpr hflags)]
    dsimp only
    split
    · exact ⟨_, rfl, rfl⟩
    · exact ⟨_, rfl, rfl⟩
  have hstep : cd.nextSubCpuStep sh =
      .ok ({ s.1 with subCpu := { s.1.subCpu with sequence := .idle } }, s.2) := by
    rw [nextSubCpuStep, hseq]
    dsimp only
    rw [retireCommand_subCpu, hs]
    rfl
  have hbytes : cd.hostResponse.toList = bytes ∧ bytes.length ≤ 16 := by
    cases h.conveys with
    | none hn => simp [hseq, SubCpuSequence.awaitsExecution] at hn
    | queued hq => simp [hseq] at hq
    | moving hm => simp [hseq] at hm
    | moved _ hlen hb => exact ⟨hb, hlen⟩
  refine ⟨_, hstep, ?_, ?_, ?_⟩
  · dsimp only
    rw [hcd]
    dsimp only
    cases cd.subCpu.irqCode <;> decide
  · dsimp only
    rw [hcd]
    exact hhost ▸ hbytes.1
  · dsimp only
    rw [hcd]
    dsimp only
    rw [hhost, hbytes.1]
    exact hbytes.2

/-! ### Runs that can be evaluated -/

/-- An iteration of the loop of `sync`, or a byte access of the host. -/
inductive Event where
  | iterate (remaining : U32)
  | read (offset : U32)
  | write (offset val : U32)

/-- A run of events and the bytes of the latest handler.  It stops where the
host pops a response during a sequence, and where the sub-CPU is idle in a
state that `ok` refuses. -/
def runEvents (ok : CdRom I → Bool) : List Event → CdRom I → List U8 → SharedState →
    Outcome (CdRom I × List U8)
  | [], cd, bytes, _ => pure (cd, bytes)
  | .iterate remaining :: l, cd, bytes, sh =>
      if remaining ≠ 0 ∧ (cd.subCpu.inCommand || ok cd) then do
        let (_, cd', sh') ← cd.syncStep sh remaining
        runEvents ok l cd' (cd.handlerBytes cd' bytes) sh'
      else throw .unreachable
  | .read offset :: l, cd, bytes, sh =>
      if offset.toNat = 1 → cd.subCpu.sequence = .idle then do
        let (_, cd') ← cd.readRegister .byte offset
        runEvents ok l cd' bytes sh
      else throw .unreachable
  | .write offset val :: l, cd, bytes, sh =>
      if cd.subCpu.inCommand || ok cd then do
        let (cd', sh') ← cd.writeRegister sh .byte offset val
        runEvents ok l cd' (cd.handlerBytes cd' bytes) sh'
      else throw .unreachable

lemma course_runEvents {ok : CdRom I → Bool} (hok : ∀ cd, ok cd = true → D cd) {l : List Event}
    {cd : CdRom I} {bytes : List U8} {sh : SharedState} {r : CdRom I × List U8}
    (h : Course D cd bytes) (hr : runEvents ok l cd bytes sh = .ok r) : Course D r.1 r.2 := by
  have hD {cd : CdRom I} (hcheck : (cd.subCpu.inCommand || ok cd) = true)
      (hidle : cd.subCpu.sequence = .idle) : D cd := by
    refine hok cd (((Bool.or_eq_true _ _).mp hcheck).resolve_left fun hin => ?_)
    exact inCommand_iff.mp hin hidle
  induction l generalizing cd bytes sh with
  | nil =>
      cases hr
      exact h
  | cons e l ih =>
      cases e with
      | iterate remaining =>
          rw [runEvents] at hr
          split at hr
          · next hcheck =>
            obtain ⟨⟨elapsed, cd', sh'⟩, hs, hrest⟩ := bind_eq_ok.mp hr
            exact ih (h.iterate hcheck.1 (fun hdue => hD hcheck.2 hdue.1.2) hs) hrest
          · cases hr
      | read offset =>
          rw [runEvents] at hr
          split at hr
          · next hidle =>
            obtain ⟨⟨v, cd'⟩, hs, hrest⟩ := bind_eq_ok.mp hr
            exact ih (h.read hidle hs) hrest
          · cases hr
      | write offset val =>
          rw [runEvents] at hr
          split at hr
          · next hcheck =>
            obtain ⟨⟨cd', sh'⟩, hs, hrest⟩ := bind_eq_ok.mp hr
            exact ih (h.write (fun hfreed => hD hcheck hfreed.2.1) hs) hrest
          · cases hr

/-- The Init command up to its first interrupt, with an empty drive. -/
def initFirst : List Event :=
  [.write 1 0x0a, .iterate 100000, .iterate 2000, .iterate 3500, .iterate 3300, .iterate 2000]

/-- Its acknowledgement, and its second response up to the last step. -/
def initSecond : List Event :=
  [.write 0 1, .write 3 0x1f, .iterate 1000000, .iterate 1700]

/-- The first response to Init is read, so the second one arrives alone. -/
theorem response_whole_init : ∃ (cd : CdRom noImage) (s : Shared noImage),
    Course (fun cd => cd.hostResponse.isEmpty = true) cd [0x10] ∧
    cd.nextSubCpuStep .new = .ok s ∧ s.1.irqFlags ≠ 0 ∧ s.1.hostResponse.toList = [0x10] := by
  have hrun : (runEvents (fun cd => cd.hostResponse.isEmpty)
      (initFirst ++ [.read 1] ++ initSecond) (CdRom.new (I := noImage) none) [] .new >>=
      fun r => pure (r.1.subCpu.sequence, r.2)) = .ok (.irqDelay, [0x10]) := by
    decide +kernel
  obtain ⟨⟨cd, bytes⟩, hr, hret⟩ := bind_eq_ok.mp hrun
  have hcourse := course_runEvents (D := fun cd => cd.hostResponse.isEmpty = true)
    (fun _ h => h) (.new none) hr
  simp only [pure_eq_ok, Except.ok.injEq, Prod.mk.injEq] at hret
  rw [hret.2] at hcourse
  obtain ⟨s, hs, hflags, hbytes, -⟩ := response_whole hcourse hret.1 .new
  exact ⟨cd, s, hcourse, hs, hflags, hbytes⟩

/-- The first response to Init is acknowledged and not read.  The interrupt of
the second response finds the status byte of the first one before its own. -/
theorem response_mixed : ∃ (cd : CdRom noImage) (s : Shared noImage),
    Course (fun _ => True) cd [0x10] ∧ cd.subCpu.sequence = .irqDelay ∧
    cd.nextSubCpuStep .new = .ok s ∧ s.1.irqFlags ≠ 0 ∧
    s.1.hostResponse.toList = [0x10, 0x10] := by
  have hrun : (runEvents (fun _ => true) (initFirst ++ initSecond)
      (CdRom.new (I := noImage) none) [] .new >>= fun r => do
        let s ← r.1.nextSubCpuStep .new
        pure (r.1.subCpu.sequence, r.2, s.1.irqFlags, s.1.hostResponse.toList)) =
      .ok (.irqDelay, [0x10], 2, [0x10, 0x10]) := by
    decide +kernel
  obtain ⟨⟨cd, bytes⟩, hr, hret⟩ := bind_eq_ok.mp hrun
  obtain ⟨s, hs, hret⟩ := bind_eq_ok.mp hret
  have hcourse := course_runEvents (D := fun _ => True) (fun _ _ => trivial) (.new none) hr
  simp only [pure_eq_ok, Except.ok.injEq, Prod.mk.injEq] at hret
  obtain ⟨hseq, hbytes, hflags, hhost⟩ := hret
  rw [hbytes] at hcourse
  refine ⟨cd, s, hcourse, hseq, hs, ?_, hhost⟩
  rw [hflags]
  decide

end CdRom

end Rustation
