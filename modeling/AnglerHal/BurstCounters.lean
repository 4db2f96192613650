import AnglerHal.DispatchOrder

namespace AnglerHal.Superbuf

/-!
# What a command does to the burst counters

The dispatch loop is governed by four values of the channel: the two pending
counters, the flag that stops it until the snapshot has been prepared, and
whether a callback is registered.  This module says once what a command may do
to them.  Everything in front of the loop sets the counters only for a request
and never raises the flag (`Prepares`); the loop itself is a sequence of equal
rounds (`Serves`).
-/

/-! ## Counters and rounds -/

/-- The part of the channel that governs the dispatch of a burst. -/
structure BurstCounters where
  pendingCnt : Nat
  pendingRetroCnt : Nat
  bWaitForPrepSnapshotDone : Bool
  superBufNotifyCb : Bool
  deriving DecidableEq

/-- The counters of a command thread. -/
def CmdThread.burst (thread : CmdThread) : BurstCounters where
  pendingCnt := thread.pendingCnt
  pendingRetroCnt := thread.pendingRetroCnt
  bWaitForPrepSnapshotDone := thread.ch.bWaitForPrepSnapshotDone
  superBufNotifyCb := thread.superBufNotifyCb

/-- The counters after one superbuf has been dequeued. -/
def BurstCounters.count (counters : BurstCounters) : BurstCounters :=
  { counters with
      pendingCnt := counters.pendingCnt - 1
      pendingRetroCnt := counters.pendingRetroCnt - 1
      bWaitForPrepSnapshotDone :=
        decide (counters.pendingRetroCnt = 1) || counters.bWaitForPrepSnapshotDone }

/-- The flag of the superbuf that a round hands over, if it hands one over. -/
def BurstCounters.handed (counters : BurstCounters) (memory : CallbackMemory) : List Bool :=
  if counters.superBufNotifyCb && memory.sends then
    [decide (counters.pendingRetroCnt = 1)]
  else
    []

/--
Rounds of the dispatch loop in burst mode, with the outcomes of the
allocations and the flags of the superbufs handed over.
-/
inductive Serves : List CallbackMemory → BurstCounters → BurstCounters → List Bool → Prop
  | done (memory : List CallbackMemory) (counters : BurstCounters) :
    Serves memory counters counters []
  | round {memory : List CallbackMemory} {counters final : BurstCounters} {flags : List Bool}
      (pending : 0 < counters.pendingCnt)
      (free : counters.bWaitForPrepSnapshotDone = false)
      (later : Serves memory.tail counters.count final flags) :
      Serves memory counters final (counters.handed (memory.headD .sent) ++ flags)

/-- The flags `bReadyForPrepareSnapshot` of the superbufs handed over. -/
def handedFlags (outputs : List CmdOutput) : List Bool :=
  outputs.filterMap fun output =>
    match output with
    | .dispatched _ bReadyForPrepareSnapshot _ => some bReadyForPrepareSnapshot
    | _ => none

/-- Outputs one after the other. -/
@[simp]
theorem handedFlags_append (first second : List CmdOutput) : handedFlags (first ++ second) =
      handedFlags first ++ handedFlags second := by
  simp [handedFlags]

/-- The channel's own outputs hand nothing over. -/
@[simp]
theorem handedFlags_channel (outputs : List ChannelOutput) :
    handedFlags (outputs.map CmdOutput.channel) = [] := by
  simp [handedFlags, List.filterMap_map]

/-! ## The body of the loop -/

theorem countDispatched_burst (thread : CmdThread) :
    (countDispatched thread).1.burst = thread.burst.count ∧ (countDispatched thread).2.1 =
        decide (thread.pendingRetroCnt = 1) ∧
      handedFlags (countDispatched thread).2.2 = [] := by
  unfold countDispatched
  dsimp only
  split
  · exact ⟨rfl, rfl, rfl⟩
  · exact ⟨rfl, rfl, rfl⟩

theorem dispatchSuperbuf_burst (memory : CallbackMemory) (bReady : Bool) (superBuf : SuperbufNode)
    (thread : CmdThread) :
    (dispatchSuperbuf memory bReady superBuf thread).1.burst = thread.burst ∧
      handedFlags (dispatchSuperbuf memory bReady superBuf thread).2 =
        if thread.superBufNotifyCb && memory.sends then [bReady] else [] := by
  have quiet := handedFlags_channel (superBuf.bufs.map ChannelOutput.qbuf)
  simp only [List.map_map, Function.comp_def] at quiet
  unfold dispatchSuperbuf
  cases callback : thread.superBufNotifyCb with
  | false => exact ⟨rfl, quiet⟩
  | true =>
    cases memory with
    | sent => exact ⟨by simp [CmdThread.burst, callback], rfl⟩
    | noNode => exact ⟨by simp [CmdThread.burst, callback], rfl⟩
    | noCommand => exact ⟨rfl, quiet⟩

/-- One round of the dispatch loop in burst mode. -/
theorem dispatchRound_burst (memory : CallbackMemory) (superBuf : SuperbufNode)
    (thread : CmdThread) :
    (dispatchRound .burst memory superBuf thread).1.burst = thread.burst.count ∧
      handedFlags (dispatchRound .burst memory superBuf thread).2 =
        thread.burst.handed memory := by
  obtain ⟨counted, ready, quiet⟩ := countDispatched_burst thread
  obtain ⟨same, sent⟩ :=
    dispatchSuperbuf_burst memory (countDispatched thread).2.1 superBuf (countDispatched thread).1
  have callback : (countDispatched thread).1.superBufNotifyCb =
        thread.superBufNotifyCb :=
    congrArg BurstCounters.superBufNotifyCb counted
  rw [callback] at sent
  refine ⟨?_, ?_⟩
  · exact same.trans counted
  · have first : handedFlags (.dequeued superBuf :: (countDispatched thread).2.2) = [] := quiet
    have both : handedFlags (dispatchRound .burst memory superBuf thread).2 = handedFlags
              (.dequeued superBuf :: (countDispatched thread).2.2) ++
            handedFlags (dispatchSuperbuf memory (countDispatched thread).2.1
                superBuf (countDispatched thread).1).2 :=
      handedFlags_append _ _
    rw [both, first, sent, ready]
    rfl

/-! ## Changes that do not raise the flag -/

/-- The notify mode stays and the dispatch is not stopped. -/
structure KeepsDispatching (before after : Channel) : Prop where
  notifyMode : after.queue.attr.notifyMode = before.queue.attr.notifyMode
  waits : after.bWaitForPrepSnapshotDone = true → before.bWaitForPrepSnapshotDone = true

namespace KeepsDispatching

variable {before after : Channel}

/-- A change outside mode and flag. -/
theorem of_same (notifyMode :
      after.queue.attr.notifyMode = before.queue.attr.notifyMode)
    (wait : after.bWaitForPrepSnapshotDone = before.bWaitForPrepSnapshotDone) :
    KeepsDispatching before after where
  notifyMode := notifyMode
  waits := fun waiting => wait ▸ waiting

/-- Two such changes in a row. -/
theorem trans {start middle final : Channel} (earlier : KeepsDispatching start middle)
    (later : KeepsDispatching middle final) :
    KeepsDispatching start final where
  notifyMode := later.notifyMode.trans earlier.notifyMode
  waits := fun waiting => earlier.waits (later.waits waiting)

/-- A change that clears the flag and keeps the mode. -/
theorem of_cleared (notifyMode :
      after.queue.attr.notifyMode = before.queue.attr.notifyMode)
    (cleared : after.bWaitForPrepSnapshotDone = false) :
    KeepsDispatching before after where
  notifyMode := notifyMode
  waits := by
    intro waiting
    rw [cleared] at waiting
    exact absurd waiting Bool.false_ne_true

end KeepsDispatching

theorem OnlyNodesDiffer.keepsDispatching {before after : Channel}
    (only : OnlyNodesDiffer before after) : KeepsDispatching before after := by
  obtain ⟨_, _, _, rfl⟩ := only
  exact .of_same rfl rfl

/-! ## Metadata and the comparison -/

theorem handlePrepSnapshotDone_dispatching (metadata : Metadata) (ch : Channel) :
    KeepsDispatching ch (handlePrepSnapshotDone metadata ch).1 := by
  unfold handlePrepSnapshotDone
  split
  · exact .of_same rfl rfl
  · have cleared : KeepsDispatching ch
          { ch with bWaitForPrepSnapshotDone := false }.expectFutureFrame :=
      .of_cleared rfl rfl
    have flushed := cleared.trans (superbufFlush_onlyNodes .default _).keepsDispatching
    exact flushed.trans (.of_same rfl rfl)
  · exact .of_cleared rfl rfl

theorem handleGoodFrameIdxRange_dispatching (metadata : Metadata) (ch : Channel) :
    KeepsDispatching ch (handleGoodFrameIdxRange metadata ch).1 := by
  unfold handleGoodFrameIdxRange
  split
  · dsimp only
    split <;> exact .of_same rfl rfl
  · split
    · exact (superbufFlushMatched_onlyNodes ch).keepsDispatching.trans (.of_same rfl rfl)
    · exact .of_same rfl rfl

theorem applyRanges_dispatching (info : BufInfo) (metadata : Metadata) (ch : Channel) :
    KeepsDispatching ch (applyLedOff info
        (applyFrameConfig metadata (applyBracketing metadata ch))) := by
  have bracketed : KeepsDispatching ch (applyBracketing metadata ch) := by
    unfold applyBracketing
    split
    · exact .of_same rfl rfl
    · dsimp only
      split <;> exact .of_same rfl rfl
  have configured : ∀ current : Channel,
        KeepsDispatching current (applyFrameConfig metadata current) := by
    intro current
    unfold applyFrameConfig
    split
    · split <;> exact .of_same rfl rfl
    · exact .of_same rfl rfl
  have ledOff : ∀ current : Channel, KeepsDispatching current (applyLedOff info current) := by
    intro current
    unfold applyLedOff
    split <;> exact .of_same rfl rfl
  exact (bracketed.trans (configured _)).trans (ledOff _)

theorem handleMetadata_dispatching {info : BufInfo} {ch handled : Channel}
    {flushed : List ChannelOutput}
    (result : handleMetadata ch info = some (handled, flushed)) :
    KeepsDispatching ch handled := by
  have applied : ∀ metadata, KeepsDispatching ch (applyMetadata info metadata ch).1 := by
    intro metadata
    have diverted : KeepsDispatching ch (noteDivertInfo info metadata ch) := by
      unfold noteDivertInfo
      split
      · exact .of_same rfl rfl
      · split <;> exact .of_same rfl rfl
    unfold applyMetadata
    dsimp only
    split
    · refine diverted.trans ?_
      unfold handleZoom1x
      split
      · exact .of_same rfl rfl
      · refine .trans ?_ (superbufFlushMatched_onlyNodes _).keepsDispatching
        exact .of_same rfl rfl
    · exact ((diverted.trans (handlePrepSnapshotDone_dispatching metadata _)).trans
          (handleGoodFrameIdxRange_dispatching metadata _)).trans
          (applyRanges_dispatching info metadata _)
  obtain ⟨metadata, -, same⟩ | same := handleMetadata_cases result
  · have kept := applied metadata
    rw [same] at kept
    exact kept
  · obtain rfl := congrArg Prod.fst same
    exact .of_same rfl rfl

theorem joinSuperbuf_dispatching (info : BufInfo) (bufSIdx : Nat) (lastBuf : Option Nat)
    (superBuf : SuperbufNode) (ch : Channel) :
    KeepsDispatching ch (joinSuperbuf info bufSIdx lastBuf superBuf ch).1 := by
  unfold joinSuperbuf
  split
  · exact .of_same rfl rfl
  · dsimp only
    split
    · have expecting : KeepsDispatching ch (expectAfterMatch info ch) := by
        unfold expectAfterMatch
        split <;> exact .of_same rfl rfl
      exact expecting.trans (.of_same rfl rfl)
    · split <;> exact .of_same rfl rfl

theorem startSuperbuf_dispatching (memory : Bool) (info : BufInfo) (bufSIdx : Nat)
    (state : ScanState) (ch : Channel) :
    KeepsDispatching ch (startSuperbuf memory info bufSIdx state ch).1 := by
  unfold startSuperbuf
  dsimp only
  split
  · exact .of_same rfl rfl
  · split
    · unfold enqueueNew
      dsimp only
      split <;> exact .of_same rfl rfl
    · exact .of_same rfl rfl

/-- An arriving buffer never stops the dispatch. -/
theorem superbufCompAndEnqueue_dispatching (memory : Bool) (info : BufInfo) (ch : Channel) :
    KeepsDispatching ch (superbufCompAndEnqueue memory info ch).1 := by
  have compared : ∀ bufSIdx (handled : Channel),
        KeepsDispatching handled (compare memory info bufSIdx handled).1 := by
    intro bufSIdx handled
    unfold compare
    dsimp only
    split
    · refine KeepsDispatching.trans ?_ (joinSuperbuf_dispatching info bufSIdx _ _ _)
      exact .of_same rfl rfl
    · exact startSuperbuf_dispatching memory info bufSIdx _ handled
  unfold superbufCompAndEnqueue
  split
  · exact .of_same rfl rfl
  · dsimp only
    split
    · exact .of_same rfl rfl
    · split
      · exact .of_same rfl rfl
      · rename_i handling
        have handled := handleMetadata_dispatching handling
        split
        · exact handled
        · exact handled.trans (compared _ _)

end AnglerHal.Superbuf
