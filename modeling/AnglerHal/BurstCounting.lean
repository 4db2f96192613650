import AnglerHal.BurstCounters

namespace AnglerHal.Superbuf

/-!
# The superbufs of one request

A request for `n` superbufs, `r` of them taken back in time, is answered with
at most `n` superbufs.  The `r`-th one tells the client to prepare the
snapshot, and then the dispatch waits until the preparation is reported.

The counters count superbufs that are dequeued.  When the allocation for a
callback command, or for the node that links it, fails, a counted superbuf is
not handed over, and if that happens to one of the `r` retro superbufs the flag
moves to another position or is lost.  `allocatesRetro` leaves out exactly these
failures.
-/

/-! ## One command -/

/-- The retro count of a request, clamped to the number requested. -/
def clampedRetro (numBufRequested numRetroBufRequested : Nat) : Nat :=
  if numBufRequested = 0 ∨ numBufRequested < numRetroBufRequested then
    numBufRequested
  else
    numRetroBufRequested

/-- The superbufs pending once a command has been read. -/
def Command.pendingCnt (before : BurstCounters) : Command → Nat
  | .reqDataCb numBufRequested _ => numBufRequested
  | _ => before.pendingCnt

/-- The retro superbufs pending once a command has been read. -/
def Command.pendingRetroCnt (before : BurstCounters) : Command → Nat
  | .reqDataCb numBufRequested numRetroBufRequested =>
    clampedRetro numBufRequested numRetroBufRequested
  | _ => before.pendingRetroCnt

/-- The command leaves the bundle in burst mode. -/
def Command.staysBurst : Command → Bool
  | .configNotify notifyMode => notifyMode == .burst
  | _ => true

/-- The command asks for superbufs. -/
def Command.isRequest : Command → Bool
  | .reqDataCb _ _ => true
  | _ => false

/-- The thread when the dispatch loop of a command begins. -/
def beforeDispatch (command : Command) (thread : CmdThread) : CmdThread :=
  match command with
  | .flushQueue _ => (handleCommand thread command).1
  | _ => (controlZslSnapshot (handleCommand thread command).1).1

/-- What a command does to the counters in front of the dispatch loop. -/
structure Prepares (command : Command) (before ready : BurstCounters) : Prop where
  pendingCnt : ready.pendingCnt = command.pendingCnt before
  pendingRetroCnt : ready.pendingRetroCnt = command.pendingRetroCnt before
  superBufNotifyCb : ready.superBufNotifyCb = before.superBufNotifyCb
  waits : ready.bWaitForPrepSnapshotDone = true → before.bWaitForPrepSnapshotDone = true

variable {command : Command} {thread : CmdThread} {memory : List CallbackMemory}
  {flags : List Bool} {flag : Bool} {entry : List CallbackMemory × Command}

private theorem prepares_of_channel {after : CmdThread} (pendingCnt :
      after.pendingCnt = command.pendingCnt thread.burst)
    (pendingRetroCnt : after.pendingRetroCnt = command.pendingRetroCnt thread.burst)
    (superBufNotifyCb : after.superBufNotifyCb = thread.superBufNotifyCb)
    (dispatching : KeepsDispatching thread.ch after.ch) :
    Prepares command thread.burst after.burst ∧ (thread.ch.queue.attr.notifyMode = .burst →
        command.staysBurst = true →
        after.ch.queue.attr.notifyMode = .burst) :=
  ⟨⟨pendingCnt, pendingRetroCnt, superBufNotifyCb, dispatching.waits⟩,
    fun burst _ => dispatching.notifyMode.trans burst⟩

theorem handleCommand_prepares (thread : CmdThread) (command : Command) :
    Prepares command thread.burst (handleCommand thread command).1.burst ∧
      (thread.ch.queue.attr.notifyMode = .burst → command.staysBurst = true →
        (handleCommand thread command).1.ch.queue.attr.notifyMode = .burst) := by
  have flushed := (superbufFlush_onlyNodes .default thread.ch).keepsDispatching
  cases command with
  | dataCb memory info =>
    exact prepares_of_channel rfl rfl rfl (superbufCompAndEnqueue_dispatching memory info thread.ch)
  | reqDataCb numBufRequested numRetroBufRequested =>
    have cleared : KeepsDispatching thread.ch (clearForRequest
            (clampedRetro numBufRequested numRetroBufRequested)
            thread.ch) :=
      .of_cleared rfl rfl
    exact prepares_of_channel rfl rfl rfl
      (cleared.trans (superbufSkip_onlyNodes _ _).keepsDispatching)
  | startZsl => exact prepares_of_channel rfl rfl rfl (.of_same rfl rfl)
  | stopZsl => exact prepares_of_channel rfl rfl rfl (.of_same rfl rfl)
  | configNotify notifyMode =>
    refine ⟨⟨rfl, rfl, rfl, id⟩, ?_⟩
    intro _ stays
    exact eq_of_beq stays
  | flushQueue frameIdx =>
    have set : KeepsDispatching thread.ch (thread.ch.setExpectedFrameId frameIdx) :=
      .of_same rfl rfl
    have queueFlushed := set.trans (superbufFlush_onlyNodes .default _).keepsDispatching
    exact prepares_of_channel rfl rfl rfl queueFlushed
  | bracketing start => exact prepares_of_channel rfl rfl rfl (flushed.trans (.of_same rfl rfl))
  | flashBracketing start =>
    exact prepares_of_channel rfl rfl rfl (flushed.trans (.of_same rfl rfl))
  | zoom1x start => exact prepares_of_channel rfl rfl rfl (flushed.trans (.of_same rfl rfl))
  | captureSetting frameConfig =>
    exact prepares_of_channel rfl rfl rfl (flushed.trans (.of_same rfl rfl))

theorem controlZslSnapshot_dispatching (thread : CmdThread) :
    (controlZslSnapshot thread).1.pendingCnt = thread.pendingCnt ∧
      (controlZslSnapshot thread).1.pendingRetroCnt = thread.pendingRetroCnt ∧
      (controlZslSnapshot thread).1.superBufNotifyCb = thread.superBufNotifyCb ∧
      KeepsDispatching thread.ch (controlZslSnapshot thread).1.ch := by
  unfold controlZslSnapshot
  split
  · exact ⟨rfl, rfl, rfl, .of_cleared rfl rfl⟩
  · split
    · exact ⟨rfl, rfl, rfl, .of_cleared rfl rfl⟩
    · exact ⟨rfl, rfl, rfl, .of_same rfl rfl⟩

theorem beforeDispatch_prepares (command : Command) (thread : CmdThread) :
    Prepares command thread.burst (beforeDispatch command thread).burst := by
  have handled := (handleCommand_prepares thread command).1
  obtain ⟨pendingCnt, pendingRetroCnt, callback, dispatching⟩ :=
    controlZslSnapshot_dispatching (handleCommand thread command).1
  unfold beforeDispatch
  split
  · exact handled
  · exact ⟨pendingCnt.trans handled.pendingCnt, pendingRetroCnt.trans handled.pendingRetroCnt,
      callback.trans handled.superBufNotifyCb,
      fun waiting => handled.waits (dispatching.waits waiting)⟩

theorem dispatchLoop_serves (rounds : Nat) (memory : List CallbackMemory) (thread : CmdThread) :
    Serves memory thread.burst (dispatchLoop .burst rounds memory thread).1.burst
        (handedFlags (dispatchLoop .burst rounds memory thread).2) ∧
      (dispatchLoop .burst rounds memory thread).1.ch.queue.attr.notifyMode =
        thread.ch.queue.attr.notifyMode := by
  induction rounds generalizing memory thread with
  | zero => exact ⟨.done memory thread.burst, rfl⟩
  | succ rounds inductionHypothesis =>
    unfold dispatchLoop
    split
    · rename_i goesOn
      obtain ⟨wanted, free⟩ := goesOn
      have pending : 0 < thread.pendingCnt := by
        simpa using wanted
      have notWaiting : thread.ch.bWaitForPrepSnapshotDone = false := by
        simpa using free
      obtain ⟨_, _, _, unlinked⟩ := superbufDequeueInternal_onlyNodes true thread.ch
      split
      · exact ⟨.done memory thread.burst, rfl⟩
      · rename_i next superBuf taken
        rw [taken] at unlinked
        dsimp only at unlinked ⊢
        have same : { thread with ch := next }.burst = thread.burst := by
          simp only [CmdThread.burst, unlinked]
        obtain ⟨counted, handed⟩ :=
          dispatchRound_burst (memory.headD .sent) superBuf { thread with ch := next }
        have kept := (dispatchRound_sendsOne .burst (memory.headD .sent) superBuf
            { thread with ch := next }).same.attr
        obtain ⟨later, laterMode⟩ :=
          inductionHypothesis memory.tail (dispatchRound .burst (memory.headD .sent) superBuf
              { thread with ch := next }).1
        rw [counted, same] at later
        rw [same] at handed
        refine ⟨?_, ?_⟩
        · rw [handedFlags_append, handed]
          exact .round pending notWaiting later
        · rw [laterMode, kept]
          exact congrArg (fun ch => ch.queue.attr.notifyMode) unlinked
    · exact ⟨.done memory thread.burst, rfl⟩

theorem dispatchMatched_serves (memory : List CallbackMemory)
    (burst : thread.ch.queue.attr.notifyMode = .burst) :
    Serves memory (controlZslSnapshot thread).1.burst (dispatchMatched memory thread).1.burst
        (handedFlags (dispatchMatched memory thread).2) ∧
      (dispatchMatched memory thread).1.ch.queue.attr.notifyMode = .burst := by
  obtain ⟨_, _, _, control⟩ := controlZslSnapshot_dispatching thread
  have quiet : handedFlags (controlZslSnapshot thread).2 = [] := by
    unfold controlZslSnapshot
    split
    · rfl
    · split <;> rfl
  generalize controlled : controlZslSnapshot thread = result at control quiet
  obtain ⟨ready, outputs⟩ := result
  obtain ⟨_, _, _, unlinked⟩ := superbufBufdoneOverflow_onlyNodes ready.ch.queue.matchCnt ready.ch
  generalize overflow : superbufBufdoneOverflow ready.ch.queue.matchCnt ready.ch =
      dropped at unlinked
  have same : { ready with ch := dropped.1 }.burst = ready.burst := by
    simp only [CmdThread.burst, unlinked]
  obtain ⟨serves, kept⟩ :=
    dispatchLoop_serves dropped.1.queue.que.length memory { ready with ch := dropped.1 }
  rw [same] at serves
  unfold dispatchMatched
  rw [burst, controlled]
  dsimp only [CmdThread.continueWith]
  rw [overflow]
  refine ⟨?_, ?_⟩
  · rw [handedFlags_append, handedFlags_append, quiet, handedFlags_channel]
    exact serves
  · rw [kept, unlinked]
    exact control.notifyMode.trans burst

theorem processStreamBuf_serves (memory : List CallbackMemory)
    (burst : thread.ch.queue.attr.notifyMode = .burst)
    (stays : command.staysBurst = true) :
    Serves memory (beforeDispatch command thread).burst
        (processStreamBuf memory command thread).1.burst
        (handedFlags (processStreamBuf memory command thread).2) ∧
      (processStreamBuf memory command thread).1.ch.queue.attr.notifyMode = .burst := by
  have handledMode := (handleCommand_prepares thread command).2 burst stays
  have quiet : handedFlags (handleCommand thread command).2 = [] := by
    cases command with
    | dataCb room info =>
      simp [handleCommand, CmdThread.continueWith, handedFlags, List.filterMap_map]
    | startZsl => rfl
    | stopZsl => rfl
    | configNotify notifyMode => rfl
    | _ => exact handedFlags_channel _
  obtain ⟨serves, kept⟩ := dispatchMatched_serves memory handledMode
  cases command with
  | flushQueue frameIdx =>
    simp only [processStreamBuf, beforeDispatch, quiet]
    exact ⟨.done memory _, handledMode⟩
  | _ =>
    simp only [processStreamBuf, beforeDispatch, handedFlags_append, quiet, List.nil_append]
    exact ⟨serves, kept⟩

/-! ## Rounds against a request -/

theorem Serves.retro_le {before after : BurstCounters}
    (serves : Serves memory before after flags)
    (ordered : before.pendingRetroCnt ≤ before.pendingCnt) :
    after.pendingRetroCnt ≤ after.pendingCnt := by
  induction serves with
  | done memory counters => exact ordered
  | round pending free later inductionHypothesis =>
    exact inductionHypothesis (Nat.sub_le_sub_right ordered 1)

/-- The flag is on the `retro`-th superbuf and on no other. -/
def ReadyAt (retro : Nat) (flags : List Bool) : Prop :=
  ∀ index (bound : index < flags.length), flags[index] = decide (index + 1 = retro)

theorem ReadyAt.snoc {retro : Nat} (ready : ReadyAt retro flags)
    (next : flag = decide (flags.length + 1 = retro)) :
    ReadyAt retro (flags ++ [flag]) := by
  intro index bound
  rw [List.getElem_append]
  split
  · rename_i earlier
    exact ready index earlier
  · have last : index = flags.length := by
      simp only [List.length_append, List.length_singleton] at bound
      omega
    simp [last, next]

/--
The counters since a request for `count` superbufs, `retro` of them back in
time, with the flags of the superbufs handed over since.
-/
structure Answers (count retro : Nat) (counters : BurstCounters) (flags : List Bool) : Prop where
  pendingCnt : counters.pendingCnt ≤ count
  pendingRetroCnt : counters.pendingRetroCnt = retro - (count - counters.pendingCnt)
  atMost : flags.length ≤ count - counters.pendingCnt
  retroHanded : counters.superBufNotifyCb = true →
      min retro (count - counters.pendingCnt) ≤ flags.length
  ready : ReadyAt retro flags

/-- The allocations for retro superbufs that are still owed succeed. -/
def Allocates (memory : List CallbackMemory) (counters : BurstCounters) : Prop :=
  counters.superBufNotifyCb = true →
    (memory.take counters.pendingRetroCnt).all CallbackMemory.sends = true

theorem Allocates.next {memory : List CallbackMemory} {counters : BurstCounters}
    (allocates : Allocates memory counters) :
    (counters.superBufNotifyCb = true → 0 < counters.pendingRetroCnt →
        (memory.headD .sent).sends = true) ∧
      Allocates memory.tail counters.count := by
  unfold Allocates at allocates ⊢
  cases owed : counters.pendingRetroCnt with
  | zero =>
    refine ⟨fun _ contrary => absurd contrary (Nat.lt_irrefl 0), ?_⟩
    intro _
    simp [BurstCounters.count, owed]
  | succ more =>
    cases memory with
    | nil => exact ⟨fun _ _ => rfl, fun _ => by simp⟩
    | cons outcome others =>
      rw [owed] at allocates
      simp only [List.take_succ_cons, List.all_cons, Bool.and_eq_true] at allocates
      refine ⟨fun callback _ => (allocates callback).1, ?_⟩
      intro callback
      simpa [BurstCounters.count, owed] using (allocates callback).2

theorem Answers.round {count retro : Nat} {memory : CallbackMemory}
    {counters : BurstCounters} {flags : List Bool}
    (answers : Answers count retro counters flags) (pending : 0 < counters.pendingCnt)
    (allocates : counters.superBufNotifyCb = true → 0 < counters.pendingRetroCnt →
      memory.sends = true) :
    Answers count retro counters.count (flags ++ counters.handed memory) := by
  have counted := answers.pendingCnt
  have owed := answers.pendingRetroCnt
  have few := answers.atMost
  -- The counters move whether or not the superbuf is handed over.
  have left : counters.count.pendingCnt = counters.pendingCnt - 1 := rfl
  have retroLeft : counters.count.pendingRetroCnt =
        retro - (count - counters.count.pendingCnt) := by
    rw [left]
    change counters.pendingRetroCnt - 1 = _
    omega
  by_cases handsOver : (counters.superBufNotifyCb && memory.sends) = true
  · obtain ⟨callback, _⟩ := Bool.and_eq_true_iff.mp handsOver
    have retroHanded := answers.retroHanded callback
    have sent : counters.handed memory = [decide (counters.pendingRetroCnt = 1)] := by
      simp [BurstCounters.handed, handsOver]
    rw [sent]
    have position : decide (counters.pendingRetroCnt = 1) = decide (flags.length + 1 = retro) := by
      refine decide_eq_decide.mpr ?_
      omega
    refine ⟨by omega, retroLeft, ?_, ?_, answers.ready.snoc position⟩
    · simp only [List.length_append, List.length_singleton]
      omega
    · intro _
      simp only [List.length_append, List.length_singleton]
      omega
  · have kept : counters.handed memory = [] := by
      simp [BurstCounters.handed, handsOver]
    rw [kept, List.append_nil]
    refine ⟨by omega, retroLeft, by omega, ?_, answers.ready⟩
    intro callback
    -- A superbuf was counted and lost, so no retro superbuf is owed.
    have paid : counters.pendingRetroCnt = 0 := by
      have lost : memory.sends ≠ true := by
        intro memoryOk
        exact handsOver (by simp [memoryOk, show counters.superBufNotifyCb = true from callback])
      have none := mt (allocates callback) lost
      omega
    have retroHanded := answers.retroHanded callback
    omega

theorem Serves.answers {count retro : Nat} {memory : List CallbackMemory}
    {flags : List Bool} {before after : BurstCounters}
    (serves : Serves memory before after flags) (allocates : Allocates memory before)
    {earlier : List Bool} (answers : Answers count retro before earlier) :
    Answers count retro after (earlier ++ flags) := by
  induction serves generalizing earlier with
  | done memory counters => simpa using answers
  | round pending free later inductionHypothesis =>
    obtain ⟨next, others⟩ := allocates.next
    have result := inductionHypothesis others (answers.round pending next)
    simpa [List.append_assoc] using result

/-! ## Runs -/

/-- What a client sees of the burst: superbufs, and waits that end. -/
inductive BurstEvent where
  | waitCleared
  | handed (bReadyForPrepareSnapshot : Bool)
  deriving DecidableEq

/-- The flags of the superbufs among the events. -/
def flagsIn (events : List BurstEvent) : List Bool :=
  events.filterMap fun event =>
    match event with
    | .handed bReadyForPrepareSnapshot => some bReadyForPrepareSnapshot
    | .waitCleared => none

/--
The events of one command.  The flag `bWaitForPrepSnapshotDone` is cleared in
front of the dispatch loop only.
-/
def burstEvents (thread : CmdThread) (entry : List CallbackMemory × Command) : List BurstEvent :=
  let cleared := thread.ch.bWaitForPrepSnapshotDone &&
      !(beforeDispatch entry.2 thread).ch.bWaitForPrepSnapshotDone
  (if cleared then [.waitCleared] else []) ++
    (handedFlags (processStreamBuf entry.1 entry.2 thread).2).map BurstEvent.handed

/-- The thread after a list of commands. -/
def threadAfter (start : CmdThread) (commands : List (List CallbackMemory × Command)) : CmdThread :=
  commands.foldl (fun thread entry => (processStreamBuf entry.1 entry.2 thread).1) start

/-- The events of a list of commands. -/
def burstTrace : CmdThread → List (List CallbackMemory × Command) → List BurstEvent
  | _, [] => []
  | thread, entry :: rest =>
    burstEvents thread entry ++ burstTrace (processStreamBuf entry.1 entry.2 thread).1 rest

/-- The answer to a request for `count` superbufs, `retro` back in time. -/
structure AnswersRequest (count retro : Nat) (flags : List Bool) : Prop where
  atMost : flags.length ≤ count
  ready : ReadyAt retro flags

/-- The counting of a burst along a run. -/
structure CountsBurst (start : CmdThread) (commands : List (List CallbackMemory × Command)) :
    Prop where
  /-- After every command the retro count is the smaller one. -/
  ordered : ∀ past rest, commands = past ++ rest → (threadAfter start past).pendingRetroCnt ≤
          (threadAfter start past).pendingCnt
  /-- From a request to the next one. -/
  requests : ∀ past memory numBufRequested numRetroBufRequested answered rest, commands = past ++
            (memory, .reqDataCb numBufRequested numRetroBufRequested) :: (answered ++ rest) →
        (∀ entry ∈ answered, entry.2.isRequest = false) →
        AnswersRequest numBufRequested (clampedRetro numBufRequested numRetroBufRequested) (flagsIn
            (burstTrace (threadAfter start past) ((memory,
                  .reqDataCb numBufRequested numRetroBufRequested) ::
                answered)))
  /-- After the flagged superbuf comes none until the wait is cleared. -/
  waits : ∀ earlier between later flag, burstTrace start commands =
          earlier ++ .handed true :: (between ++ .handed flag :: later) →
        .waitCleared ∈ between

/-- The condition on a command: no allocation for a retro superbuf fails. -/
def allocatesRetro (thread : CmdThread) (entry : List CallbackMemory × Command) : Bool :=
  !thread.superBufNotifyCb ||
    (entry.1.take (entry.2.pendingRetroCnt thread.burst)).all CallbackMemory.sends

theorem allocates_beforeDispatch (met : allocatesRetro thread entry = true) :
    Allocates entry.1 (beforeDispatch entry.2 thread).burst := by
  have prepared := beforeDispatch_prepares entry.2 thread
  intro callback
  rw [prepared.superBufNotifyCb] at callback
  rw [prepared.pendingRetroCnt]
  have registered : thread.superBufNotifyCb = true := callback
  simpa [allocatesRetro, registered] using met

theorem clampedRetro_le (numBufRequested numRetroBufRequested : Nat) :
    clampedRetro numBufRequested numRetroBufRequested ≤
      numBufRequested := by
  unfold clampedRetro
  split <;> omega

theorem beforeDispatch_retro_le (ordered : thread.pendingRetroCnt ≤ thread.pendingCnt) :
    (beforeDispatch command thread).burst.pendingRetroCnt ≤
      (beforeDispatch command thread).burst.pendingCnt := by
  have prepared := beforeDispatch_prepares command thread
  rw [prepared.pendingRetroCnt, prepared.pendingCnt]
  cases command with
  | reqDataCb numBufRequested numRetroBufRequested =>
    exact clampedRetro_le numBufRequested numRetroBufRequested
  | _ => exact ordered

/-! ## The wait for the snapshot preparation -/

/--
No superbuf is handed over while `waiting` holds; a flagged one starts the
wait, and only a clear ends it.
-/
def Waits : Bool → List BurstEvent → Prop
  | _, [] => True
  | _, .waitCleared :: rest => Waits false rest
  | waiting, .handed flag :: rest => waiting = false ∧ Waits flag rest

theorem Waits.free {waiting : Bool} {events : List BurstEvent} (waits : Waits waiting events) :
    Waits false events := by
  cases events with
  | nil => trivial
  | cons event rest =>
    cases event with
    | waitCleared => exact waits
    | handed flag => exact ⟨rfl, waits.2⟩

theorem Serves.waits {memory : List CallbackMemory} {flags : List Bool}
    {before after : BurstCounters} (serves : Serves memory before after flags)
    {later : List BurstEvent} (waits : Waits after.bWaitForPrepSnapshotDone later) :
    Waits before.bWaitForPrepSnapshotDone (flags.map BurstEvent.handed ++ later) := by
  induction serves with
  | done memory counters => simpa using waits
  | @round memory counters final flags pending free rounds inductionHypothesis =>
    have others := inductionHypothesis waits
    have flag : counters.count.bWaitForPrepSnapshotDone =
          decide (counters.pendingRetroCnt = 1) := by
      simp [BurstCounters.count, free]
    rw [free]
    unfold BurstCounters.handed
    split
    · rw [flag] at others
      exact ⟨rfl, others⟩
    · exact others.free

variable {later : List BurstEvent}

theorem burstEvents_waits (burst : thread.ch.queue.attr.notifyMode = .burst)
    (stays : entry.2.staysBurst = true)
    (waits : Waits (processStreamBuf entry.1 entry.2 thread).1.ch.bWaitForPrepSnapshotDone later) :
    Waits thread.ch.bWaitForPrepSnapshotDone (burstEvents thread entry ++ later) := by
  have served : Waits (beforeDispatch entry.2 thread).ch.bWaitForPrepSnapshotDone
        ((handedFlags (processStreamBuf entry.1 entry.2 thread).2).map
            BurstEvent.handed ++ later) :=
    (processStreamBuf_serves entry.1 burst stays).1.waits waits
  have notRaised := (beforeDispatch_prepares entry.2 thread).waits
  simp only [CmdThread.burst] at notRaised
  unfold burstEvents
  cases before : thread.ch.bWaitForPrepSnapshotDone with
  | false => simpa using served.free
  | true =>
    cases ready : (beforeDispatch entry.2 thread).ch.bWaitForPrepSnapshotDone with
    | false =>
      rw [ready] at served
      simpa [Waits] using served
    | true =>
      rw [ready] at served
      simpa using served

theorem Waits.drop {waiting : Bool} {first second : List BurstEvent}
    (waits : Waits waiting (first ++ second)) :
    ∃ waitingThen, Waits waitingThen second := by
  induction first generalizing waiting with
  | nil => exact ⟨waiting, waits⟩
  | cons event rest inductionHypothesis =>
    cases event with
    | waitCleared => exact inductionHypothesis waits
    | handed flag => exact inductionHypothesis waits.2

theorem Waits.cleared {waiting : Bool} {earlier between : List BurstEvent} (waits :
      Waits waiting (earlier ++ .handed true :: (between ++ .handed flag :: later))) :
    .waitCleared ∈ between := by
  obtain ⟨_, _, waitsOn⟩ := waits.drop
  cases between with
  | nil => exact absurd waitsOn.1.symm Bool.false_ne_true
  | cons event rest =>
    cases event with
    | waitCleared => exact List.mem_cons_self
    | handed other => exact absurd waitsOn.1.symm Bool.false_ne_true

/-! ## The invariants along a run -/

/-- A run in burst mode whose commands are defined and meet the condition. -/
structure BurstRun (start : CmdThread) (seen commands : List (List CallbackMemory × Command)) :
    Prop where
  burst : start.ch.queue.attr.notifyMode = .burst
  stays : ∀ entry ∈ commands, entry.2.staysBurst = true
  guarded : LabelledRun.Guarded cmdStep (fun thread _ entry => allocatesRetro thread entry = true)
      start seen commands
  defined : ∃ final outputs, cmdRun start commands = some (final, outputs)

namespace BurstRun

theorem next {start : CmdThread} {seen rest : List (List CallbackMemory × Command)}
    {entry : List CallbackMemory × Command} (run : BurstRun start seen (entry :: rest)) :
    BurstRun (processStreamBuf entry.1 entry.2 start).1 (seen ++ [entry]) rest := by
  obtain ⟨final, outputs, ran⟩ := run.defined
  obtain ⟨next, emitted, later, stepped, others, _⟩ := LabelledRun.run?_cons_eq_some ran
  have handled := cmdStep_some stepped
  refine ⟨?_, ?_, ?_, ?_⟩
  · exact (processStreamBuf_serves entry.1 run.burst (run.stays entry List.mem_cons_self)).2
  · exact fun later member => run.stays later (List.mem_cons_of_mem entry member)
  · rw [handled]
    exact run.guarded.2 next emitted stepped
  · rw [handled]
    exact ⟨final, later, others⟩

theorem drop {start : CmdThread} {seen past rest : List (List CallbackMemory × Command)}
    (run : BurstRun start seen (past ++ rest)) :
    BurstRun (threadAfter start past) (seen ++ past) rest := by
  induction past generalizing start seen with
  | nil => simpa [threadAfter] using run
  | cons entry past inductionHypothesis => simpa [threadAfter] using inductionHypothesis run.next

variable {start : CmdThread} {seen rest : List (List CallbackMemory × Command)}

theorem serves (run : BurstRun start seen (entry :: rest)) :
    Serves entry.1 (beforeDispatch entry.2 start).burst
      (processStreamBuf entry.1 entry.2 start).1.burst
      (handedFlags (processStreamBuf entry.1 entry.2 start).2) :=
  (processStreamBuf_serves entry.1 run.burst (run.stays entry List.mem_cons_self)).1

theorem retro_le {past : List (List CallbackMemory × Command)}
    (run : BurstRun start seen (past ++ rest))
    (ordered : start.pendingRetroCnt ≤ start.pendingCnt) :
    (threadAfter start past).pendingRetroCnt ≤ (threadAfter start past).pendingCnt := by
  induction past generalizing start seen with
  | nil => exact ordered
  | cons entry past inductionHypothesis =>
    exact inductionHypothesis run.next
      (run.serves.retro_le (beforeDispatch_retro_le ordered))

theorem waits {start : CmdThread} {seen commands : List (List CallbackMemory × Command)}
    (run : BurstRun start seen commands) :
    Waits start.ch.bWaitForPrepSnapshotDone (burstTrace start commands) := by
  induction commands generalizing start seen with
  | nil => trivial
  | cons entry rest inductionHypothesis =>
    exact burstEvents_waits run.burst (run.stays entry List.mem_cons_self)
      (inductionHypothesis run.next)

end BurstRun

@[simp]
theorem flagsIn_burstEvents (thread : CmdThread) (entry : List CallbackMemory × Command) :
    flagsIn (burstEvents thread entry) =
      handedFlags (processStreamBuf entry.1 entry.2 thread).2 := by
  unfold burstEvents flagsIn
  dsimp only
  split <;> simp [List.filterMap_map]

@[simp]
theorem flagsIn_append (first second : List BurstEvent) :
    flagsIn (first ++ second) = flagsIn first ++ flagsIn second := by
  simp [flagsIn]

theorem BurstRun.answers {start : CmdThread}
    {seen answered rest : List (List CallbackMemory × Command)} {count retro : Nat}
    {earlier : List Bool} (run : BurstRun start seen (answered ++ rest))
    (noRequest : ∀ entry ∈ answered, entry.2.isRequest = false)
    (answers : Answers count retro start.burst earlier) :
    Answers count retro (threadAfter start answered).burst
      (earlier ++ flagsIn (burstTrace start answered)) := by
  induction answered generalizing start seen earlier with
  | nil => simpa [threadAfter, burstTrace, flagsIn] using answers
  | cons entry answered inductionHypothesis =>
    have prepared := beforeDispatch_prepares entry.2 start
    have counters : entry.2.pendingCnt start.burst = start.burst.pendingCnt ∧
          entry.2.pendingRetroCnt start.burst =
            start.burst.pendingRetroCnt := by
      have other := noRequest entry List.mem_cons_self
      obtain ⟨memory, command⟩ := entry
      cases command with
      | reqDataCb numBufRequested numRetroBufRequested => exact absurd other.symm Bool.false_ne_true
      | _ => exact ⟨rfl, rfl⟩
    have ready : Answers count retro (beforeDispatch entry.2 start).burst
          earlier := by
      have sameCount := prepared.pendingCnt.trans counters.1
      have sameRetro := prepared.pendingRetroCnt.trans counters.2
      refine ⟨?_, ?_, ?_, ?_, answers.ready⟩
      · rw [sameCount]
        exact answers.pendingCnt
      · rw [sameCount, sameRetro]
        exact answers.pendingRetroCnt
      · rw [sameCount]
        exact answers.atMost
      · rw [sameCount, prepared.superBufNotifyCb]
        exact answers.retroHanded
    have served := run.serves.answers (allocates_beforeDispatch run.guarded.1) ready
    have others := inductionHypothesis run.next
        (fun later member =>
          noRequest later (List.mem_cons_of_mem entry member)) served
    simpa [threadAfter, burstTrace, List.append_assoc] using others

theorem BurstRun.answersRequest {start : CmdThread}
    {seen answered rest : List (List CallbackMemory × Command)}
    {numBufRequested numRetroBufRequested : Nat}
    (run : BurstRun start seen ((memory, .reqDataCb numBufRequested numRetroBufRequested) ::
          (answered ++ rest)))
    (noRequest : ∀ entry ∈ answered, entry.2.isRequest = false) :
    AnswersRequest numBufRequested (clampedRetro numBufRequested numRetroBufRequested) (flagsIn
        (burstTrace start ((memory, .reqDataCb numBufRequested numRetroBufRequested) ::
            answered))) := by
  have prepared := beforeDispatch_prepares (.reqDataCb numBufRequested numRetroBufRequested) start
  have count : _ = numBufRequested := prepared.pendingCnt
  have retro :
      _ = clampedRetro numBufRequested numRetroBufRequested :=
    prepared.pendingRetroCnt
  have asked : Answers numBufRequested (clampedRetro numBufRequested numRetroBufRequested)
        (beforeDispatch (.reqDataCb numBufRequested numRetroBufRequested) start).burst [] := by
    refine ⟨Nat.le_of_eq count, ?_, by simp, ?_, ?_⟩
    · rw [count, retro, Nat.sub_self, Nat.sub_zero]
    · intro _
      simp [count]
    · intro index bound
      exact absurd bound (Nat.not_lt_zero index)
  have first := run.serves.answers (allocates_beforeDispatch run.guarded.1) asked
  have all := run.next.answers noRequest first
  have flags : [] ++ handedFlags (processStreamBuf memory
                (.reqDataCb numBufRequested numRetroBufRequested)
                start).2 ++
          flagsIn (burstTrace (processStreamBuf memory
                (.reqDataCb numBufRequested numRetroBufRequested)
                start).1 answered) =
        flagsIn (burstTrace start ((memory, .reqDataCb numBufRequested numRetroBufRequested) ::
              answered)) := by
    simp [burstTrace]
  rw [flags] at all
  exact ⟨all.atMost.trans (Nat.sub_le _ _), all.ready⟩

/--
In burst mode a request for `n` superbufs is answered with at most `n` of
them, the flag for the snapshot preparation is on the one at the clamped retro
count, and then the dispatch waits, in every run in which no allocation for a
retro superbuf fails.
-/
theorem cmdRun_countsBurst {start final : CmdThread}
    {commands : List (List CallbackMemory × Command)} {outputs : List CmdOutput}
    (ran : cmdRun start commands = some (final, outputs))
    (ordered : start.pendingRetroCnt ≤ start.pendingCnt)
    (burst : start.ch.queue.attr.notifyMode = .burst)
    (stays : ∀ entry ∈ commands, entry.2.staysBurst = true)
    (allocates : LabelledRun.Guarded cmdStep
        (fun thread _ entry => allocatesRetro thread entry = true)
        start [] commands) :
    CountsBurst start commands := by
  have run : BurstRun start [] commands := ⟨burst, stays, allocates, final, outputs, ran⟩
  refine ⟨?_, ?_, ?_⟩
  · intro past rest shape
    subst shape
    exact run.retro_le ordered
  · intro past memory numBufRequested numRetroBufRequested answered rest shape noRequest
    subst shape
    exact run.drop.answersRequest noRequest
  · intro earlier between later flag shape
    have waits := run.waits
    rw [shape] at waits
    exact waits.cleared

/-! ## A request for retro superbufs -/

/-- A burst bundle of normal priority. -/
def retroAttr : ChannelAttr where
  notifyMode := .burst
  waterMark := 2
  lookBack := 1
  postFrameSkip := 1
  maxUnmatchedFrames := 3
  priority := .normal

/-- The command thread of a started burst bundle of two streams. -/
def burstThread : CmdThread :=
  startedThread [.metadata, .preview] retroAttr

/-- The metadata that reports the prepared snapshot. -/
def snapshotPrepared : Metadata :=
  { plainMetadata with prepSnapshotDone := some .doNotNeedFutureFrame }

/-- Three superbufs are requested, two of them back in time. -/
def retroRequest : List (List CallbackMemory × Command) :=
  [([], .reqDataCb 3 2)] ++ bothStreams 3 ++ bothStreams 4 ++ bothStreams 5 ++
    [([], .dataCb true (threeStreamBuf snapshotPrepared 0 6))]

/-- The second superbuf is flagged, and the third one waits for the report. -/
theorem cmdRun_countsBurst_retro : burstTrace burstThread retroRequest =
        [.handed false, .handed true, .waitCleared, .handed false] ∧
      CountsBurst burstThread retroRequest :=
  ⟨by decide, cmdRun_countsBurst rfl (by decide) rfl (by decide) (by decide)⟩

/-- The allocation for the first of two retro superbufs fails. -/
def failedAllocation : List (List CallbackMemory × Command) :=
  [([], .reqDataCb 2 2)] ++ (bothStreams 3).map (fun entry => ([.noCommand], entry.2)) ++
    bothStreams 4

/--
The first superbuf is counted and queued back, so the only superbuf handed
over, the first of two, already asks for the snapshot preparation.
-/
theorem burstTrace_flagTooEarly : burstThread.pendingRetroCnt ≤ burstThread.pendingCnt ∧
      burstThread.ch.queue.attr.notifyMode = .burst ∧
      (∀ entry ∈ failedAllocation, entry.2.staysBurst = true) ∧
      burstTrace burstThread failedAllocation = [.handed true] ∧
      ¬ CountsBurst burstThread failedAllocation := by
  refine ⟨by decide, rfl, by decide, by decide, ?_⟩
  intro counts
  have answer :=
    counts.requests [] [] 2 2 ((bothStreams 3).map (fun entry => ([.noCommand], entry.2)) ++
        bothStreams 4) [] rfl (by decide)
  have first := answer.ready 0 (by decide)
  revert first
  decide

end AnglerHal.Superbuf
