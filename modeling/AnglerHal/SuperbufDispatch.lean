import AnglerHal.SuperbufOverflow

namespace AnglerHal.Superbuf

/-!
# The command thread of a bundle

`mm_channel_process_stream_buf` handles one command of the bundle's command
thread: it changes the queue as the command says, starts or stops the ZSL
snapshot of the camera, drops what overflows the water mark, and then hands
matched superbufs to the callback thread.

The dispatch loop dequeues one superbuf a round, so the length of the list
bounds its rounds.  The loops of overflow and skip are given `match_cnt`
rounds; `dropMatchedAbove_settled` says that this ends them while the matched
superbufs stand in front.
-/

/-- The part of `mm_channel_t` that the command thread works on. -/
structure CmdThread where
  ch : Channel
  pendingCnt : Nat
  pendingRetroCnt : Nat
  manualZSLSnapshot : Bool
  startZSlSnapshotCalled : Bool
  unLockAEC : Bool
  superBufNotifyCb : Bool
  deriving DecidableEq

/-- The commands of `mm_camera_cmdcb_t` that reach the thread of a bundle. -/
inductive Command where
  | dataCb (memory : Bool) (info : BufInfo)
  | reqDataCb (numBufRequested numRetroBufRequested : Nat)
  | startZsl
  | stopZsl
  | configNotify (notifyMode : NotifyMode)
  | flushQueue (frameIdx : Nat)
  | bracketing (start : Bool)
  | flashBracketing (start : Bool)
  | zoom1x (start : Bool)
  | captureSetting (frameConfig : Option CaptureFrameConfig)
  deriving DecidableEq

/-- How the two allocations for a callback command turn out. -/
inductive CallbackMemory where
  | sent
  /-- No memory for the command itself. -/
  | noCommand
  /-- No memory for the node with which `cam_queue_enq` would link it. -/
  | noNode
  deriving DecidableEq

/-- The callback thread gets the command. -/
def CallbackMemory.sends (memory : CallbackMemory) : Bool :=
  memory == .sent

/--
What the command thread does.  `matched` marks the moment at which a superbuf
gets its last buffer; the other events are calls of the source.
-/
inductive CmdOutput where
  | matched (superBuf : SuperbufNode)
  | channel (output : ChannelOutput)
  | startZslSnapshot
  | stopZslSnapshot
  | dequeued (superBuf : SuperbufNode)
  | dispatched (superBuf : SuperbufNode) (bReadyForPrepareSnapshot bUnlockAEC : Bool)
  deriving DecidableEq

/-- The matched superbufs that are in the queue now and were not before. -/
def newlyMatched (before after : Channel) : List SuperbufNode :=
  after.queue.que.filter fun superBuf =>
    superBuf.matched && decide (superBuf ∉ before.queue.que)

/-- Continue with a changed channel and the outputs of the change. -/
def CmdThread.continueWith (thread : CmdThread) (result : Channel × List ChannelOutput) :
    CmdThread × List CmdOutput :=
  ({ thread with ch := result.1 }, result.2.map CmdOutput.channel)

/-- The flags of the channel that a request for superbufs clears. -/
def clearForRequest (pendingRetroCnt : Nat) (ch : Channel) : Channel :=
  { ch with
      bWaitForPrepSnapshotDone := false
      needLEDFlash := if 0 < pendingRetroCnt then false else ch.needLEDFlash
      stopZslSnapshot := false }

/-- The handling of `MM_CAMERA_CMD_TYPE_REQ_DATA_CB`. -/
def requestData (numBufRequested numRetroBufRequested : Nat) (thread : CmdThread) :
    CmdThread × List CmdOutput :=
  let pendingRetroCnt := if numBufRequested = 0 ∨ numBufRequested < numRetroBufRequested then
      numBufRequested
    else
      numRetroBufRequested
  { thread with
      pendingCnt := numBufRequested
      pendingRetroCnt := pendingRetroCnt
      unLockAEC := false }.continueWith
    (superbufSkip thread.ch.queue.matchCnt (clearForRequest pendingRetroCnt thread.ch))

/-- The part of `mm_channel_process_stream_buf` that reads the command. -/
def handleCommand (thread : CmdThread) : Command → CmdThread × List CmdOutput
  | .dataCb memory info =>
    let result := superbufCompAndEnqueue memory info thread.ch
    let (next, outputs) := thread.continueWith result
    (next, outputs ++ (newlyMatched thread.ch result.1).map CmdOutput.matched)
  | .reqDataCb numBufRequested numRetroBufRequested =>
    requestData numBufRequested numRetroBufRequested thread
  | .startZsl => ({ thread with manualZSLSnapshot := true }, [.startZslSnapshot])
  | .stopZsl => ({ thread with manualZSLSnapshot := false }, [.stopZslSnapshot])
  | .configNotify notifyMode =>
    ({ thread with
        ch := { thread.ch with
          queue := { thread.ch.queue with
            attr := { thread.ch.queue.attr with
              notifyMode := notifyMode } } } }, [])
  | .flushQueue frameIdx =>
    thread.continueWith (superbufFlush .default (thread.ch.setExpectedFrameId frameIdx))
  | .bracketing start =>
    let (flushed, released) := superbufFlush .default thread.ch
    thread.continueWith ({ flushed with
          bracketingState :=
            if start then .waitGoodFrameIdx else .off }, released)
  | .flashBracketing start =>
    let (flushed, released) := superbufFlush .default thread.ch
    thread.continueWith ({ flushed with isFlashBracketingEnabled := start }, released)
  | .zoom1x start =>
    let (flushed, released) := superbufFlush .default thread.ch
    thread.continueWith ({ flushed with isZoom1xFrameRequested := start }, released)
  | .captureSetting frameConfig =>
    -- the configuration in the node of the command: see `readsFreedConfig`
    let (flushed, released) := superbufFlush .default thread.ch
    thread.continueWith ({ flushed with frameConfig := frameConfig, curCaptureIdx := 0 }, released)

/-- Start or stop the ZSL snapshot of the camera before the dispatch. -/
def controlZslSnapshot (thread : CmdThread) : CmdThread × List CmdOutput :=
  if 0 < thread.pendingCnt ∧ (thread.ch.needLEDFlash ∨ thread.ch.bracketingState ≠ .off) ∧
      ¬ thread.manualZSLSnapshot ∧ ¬ thread.startZSlSnapshotCalled then
    ({ thread with
        ch := { thread.ch with
          burstSnapNum := thread.pendingCnt
          bWaitForPrepSnapshotDone := false }
        startZSlSnapshotCalled := true }, [.startZslSnapshot])
  else if (thread.pendingCnt = 0 ∨ thread.ch.stopZslSnapshot) ∧
      ¬ thread.manualZSLSnapshot ∧ thread.startZSlSnapshotCalled then
    ({ thread with
        ch := { thread.ch with
          needLEDFlash := false
          burstSnapNum := 0
          stopZslSnapshot := false
          bWaitForPrepSnapshotDone := false
          bracketingState := .off }
        startZSlSnapshotCalled := false
        unLockAEC := true }, [.stopZslSnapshot])
  else
    (thread, [])

/-- One frame less is wanted of the batch being captured. -/
def countCapturedFrame (ch : Channel) : Channel :=
  { ch with
      frameConfig := ch.frameConfig.map fun config =>
        { config with
            numFrames :=
              config.numFrames.modify ch.curCaptureIdx (· - 1) } }

/-- The burst counters of one dequeued superbuf; the flag is `bReady`. -/
def countDispatched (thread : CmdThread) : CmdThread × Bool × List CmdOutput :=
  let pendingCnt := thread.pendingCnt - 1
  let bReady := decide (thread.pendingRetroCnt = 1)
  let counted := { thread with
        ch := { thread.ch with
          bWaitForPrepSnapshotDone :=
            bReady || thread.ch.bWaitForPrepSnapshotDone }
        pendingCnt := pendingCnt
        pendingRetroCnt := thread.pendingRetroCnt - 1 }
  let (settled, outputs) : CmdThread × List CmdOutput :=
    if (pendingCnt = 0 ∨ counted.ch.stopZslSnapshot) ∧
        ¬ counted.manualZSLSnapshot ∧ counted.startZSlSnapshotCalled then
      ({ counted with
          ch := { counted.ch with
            burstSnapNum := 0
            stopZslSnapshot := false
            needLEDFlash := false
            bracketingState := .off }
          startZSlSnapshotCalled := false
          unLockAEC := true }, [.stopZslSnapshot])
    else
      (counted, [])
  ({ settled with ch := countCapturedFrame settled.ch }, bReady, outputs)

/--
Hand a dequeued superbuf to the callback thread, or queue its buffers back
when there is no callback or no memory for the callback command.  The result of
`cam_queue_enq` is not looked at: without a node the command is lost.
-/
def dispatchSuperbuf (memory : CallbackMemory) (bReady : Bool) (superBuf : SuperbufNode)
    (thread : CmdThread) :
    CmdThread × List CmdOutput :=
  let queuedBack := (thread, superBuf.bufs.map fun buf => CmdOutput.channel (.qbuf buf))
  if thread.superBufNotifyCb then
    match memory with
    | .sent =>
      ({ thread with unLockAEC := false }, [.dispatched superBuf bReady thread.unLockAEC])
    | .noNode => ({ thread with unLockAEC := false }, [])
    | .noCommand => queuedBack
  else
    queuedBack

/-- The body of the dispatch loop after a superbuf has been dequeued. -/
def dispatchRound (notifyMode : NotifyMode) (memory : CallbackMemory) (superBuf : SuperbufNode)
    (thread : CmdThread) :
    CmdThread × List CmdOutput :=
  let (counted, bReady, outputs) := if notifyMode = .burst then
      countDispatched thread
    else
      (thread, false, [])
  let (dispatched, sent) := dispatchSuperbuf memory bReady superBuf counted
  (dispatched, .dequeued superBuf :: outputs ++ sent)

/--
The dispatch loop.  `memory` lists the outcomes of the allocations for the
callback commands; they succeed once the list has ended.
-/
def dispatchLoop (notifyMode : NotifyMode) :
    Nat → List CallbackMemory → CmdThread → CmdThread × List CmdOutput
  | 0, _, thread => (thread, [])
  | rounds + 1, memory, thread =>
    if (0 < thread.pendingCnt ∨ notifyMode = .continuous) ∧
        ¬ thread.ch.bWaitForPrepSnapshotDone then
      match superbufDequeueInternal true thread.ch with
      | (_, none) => (thread, [])
      | (next, some superBuf) =>
        let (dispatched, sent) :=
          dispatchRound notifyMode (memory.headD .sent) superBuf { thread with ch := next }
        let (final, later) := dispatchLoop notifyMode rounds memory.tail dispatched
        (final, sent ++ later)
    else
      (thread, [])

/-- Everything that follows the command: ZSL control, overflow, dispatch. -/
def dispatchMatched (memory : List CallbackMemory) (thread : CmdThread) :
    CmdThread × List CmdOutput :=
  let notifyMode := thread.ch.queue.attr.notifyMode
  let (controlled, control) := controlZslSnapshot thread
  let (settled, dropped) :=
    controlled.continueWith (superbufBufdoneOverflow controlled.ch.queue.matchCnt controlled.ch)
  let (final, sent) := dispatchLoop notifyMode settled.ch.queue.que.length memory settled
  (final, control ++ dropped ++ sent)

/--
`mm_channel_process_stream_buf`.  A queue flush returns before the part that
dispatches.
-/
def processStreamBuf (memory : List CallbackMemory) (command : Command) (thread : CmdThread) :
    CmdThread × List CmdOutput :=
  let (handled, outputs) := handleCommand thread command
  match command with
  | .flushQueue _ => (handled, outputs)
  | _ =>
    let (final, sent) := dispatchMatched memory handled
    (final, outputs ++ sent)

/-! ## Runs of commands -/

/-- An arriving buffer is metadata that lets `mm_channel_handle_metadata` read `frame_config`. -/
def metadataReadsConfig (info : BufInfo) (ch : Channel) : Bool :=
  info.streamId ∈ ch.queue.bundledStreams && info.frameIdx != 0 &&
    match utilGetStreamByHandler ch info.streamId, info.buf.buffer with
    | some stream, some metadata =>
      stream.streamType == some .metadata && stream.ownedByChannel &&
        !ch.isZoom1xFrameRequested && metadata.goodFrameIdxRange.isSome
    | _, _ => false

/-- The dispatch of a burst reads `frame_config` with every superbuf that it dequeues. -/
def dispatchReadsConfig (memory : List CallbackMemory) (command : Command)
    (thread : CmdThread) : Bool :=
  (handleCommand thread command).1.ch.queue.attr.notifyMode == .burst &&
    (processStreamBuf memory command thread).2.any fun output =>
      match output with
      | .dequeued _ => true
      | _ => false

/--
`frame_config` points into the node of the command that has set it, which the
thread frees behind the command.  A later command that reads it reads freed memory.
-/
def readsFreedConfig (memory : List CallbackMemory) (command : Command)
    (thread : CmdThread) : Bool :=
  thread.ch.frameConfig.isSome &&
    match command with
    | .captureSetting _ => false
    | .dataCb _ info =>
      metadataReadsConfig info thread.ch || dispatchReadsConfig memory command thread
    | _ => dispatchReadsConfig memory command thread

/--
One command with its callback allocations, as a step of a machine; there is no
next state behind a read of freed memory.
-/
def cmdStep (thread : CmdThread) (entry : List CallbackMemory × Command) :
    Option (CmdThread × List CmdOutput) :=
  if readsFreedConfig entry.1 entry.2 thread then
    none
  else
    some (processStreamBuf entry.1 entry.2 thread)

/-- A step that is defined handles its command. -/
theorem cmdStep_some {thread : CmdThread} {entry : List CallbackMemory × Command}
    {result : CmdThread × List CmdOutput} (stepped : cmdStep thread entry = some result) :
    processStreamBuf entry.1 entry.2 thread = result := by
  unfold cmdStep at stepped
  split at stepped
  · cases stepped
  · exact Option.some.inj stepped

/-- Run a list of commands. -/
def cmdRun (thread : CmdThread) (commands : List (List CallbackMemory × Command)) :
    Option (CmdThread × List CmdOutput) :=
  LabelledRun.run? cmdStep thread commands

end AnglerHal.Superbuf
