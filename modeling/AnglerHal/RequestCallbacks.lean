import AnglerHal.RequestTypes

namespace AnglerHal.Hal3

/-!
# Callbacks of the capture request tracker

The callbacks that run with `mMutex` held: metadata, black level, input buffer
and output buffer.  An iterator over `mPendingRequestsList` is modelled by the
two parts of the list around it.  A function returns `none` where the source
would go on with an iterator whose entry has been erased.
-/

/-! ## Pending buffers and frame drops -/

/-- Take the first pending buffer with this handle out of the map. -/
def Tracker.takeBuffer (tracker : Tracker) (buffer : Nat) : Tracker :=
  let pending := tracker.mPendingBuffersMap.mPendingBufferList
  if pending.any fun info => info.buffer == buffer then
    tracker.setBuffers (pending.eraseP fun info => info.buffer == buffer)
      (tracker.mPendingBuffersMap.numBuffers - 1)
  else
    tracker

/-- Consume a reported drop of this stream and frame, marking the buffer. -/
def Tracker.applyFrameDrop (tracker : Tracker) (frameNumber : Nat) (buffer : Camera3StreamBuffer) :
    Tracker × Camera3StreamBuffer :=
  let isDrop := fun (drop : PendingFrameDropInfo) =>
    drop.streamID == buffer.stream.streamID && drop.frameNumber == frameNumber
  if tracker.mPendingFrameDropList.any isDrop then
    ({ tracker with
        mPendingFrameDropList :=
          tracker.mPendingFrameDropList.eraseP isDrop },
      { buffer with status := .error })
  else
    (tracker, buffer)

/--
The buffers already filled in a request: their status is corrected for drops
of `frameNumber`, they leave the map, and the request forgets them.
-/
def returnBuffers (frameNumber : Nat) : Tracker → List RequestedBufferInfo →
      Tracker × List RequestedBufferInfo × List Camera3StreamBuffer
  | tracker, [] => (tracker, [], [])
  | tracker, requested :: rest =>
    match requested.buffer with
    | none =>
      let (final, others, returned) := returnBuffers frameNumber tracker rest
      (final, requested :: others, returned)
    | some buffer =>
      let (marked, corrected) := tracker.applyFrameDrop frameNumber buffer
      let (final, others, returned) :=
        returnBuffers frameNumber (marked.takeBuffer corrected.buffer) rest
      (final, { requested with buffer := none } :: others, corrected :: returned)

/-! ## Delayed reprocess results -/

/-- The result that closes a reprocess request with one output buffer. -/
def reprocessResult (request : PendingRequestInfo)
    (buffer : Camera3StreamBuffer) : CaptureResult where
  frameNumber := request.frameNumber
  result := request.settings.map ResultMetadata.settings
  outputBuffers := [buffer]
  inputBuffer := request.inputBuffer
  partialResult := partialResultCount

/-- `handlePendingReprocResults`. -/
def handlePendingReprocResults (frameNumber : Nat) (tracker : Tracker) : Tracker × List Output :=
  match tracker.mPendingReprocessResultList.find? fun pending =>
      pending.frameNumber == frameNumber with
  | none => (tracker, [])
  | some pending =>
    let drained : Tracker := { tracker with
          mPendingReprocessResultList :=
            tracker.mPendingReprocessResultList.eraseP fun other =>
              other.frameNumber == frameNumber }
    match tracker.mPendingRequestsList.find? fun request =>
        request.frameNumber == frameNumber with
    | none => (drained, [.notify pending.notifyMsg])
    | some request =>
      (drained.setRequests (tracker.mPendingRequestsList.eraseP fun other =>
            other.frameNumber == frameNumber),
        [.notify pending.notifyMsg, .processCaptureResult (reprocessResult request pending.buffer)])

/-! ## Metadata -/

/-- The entries of a metadata buffer that `handleMetadataWithLock` reads. -/
structure MetadataEntries where
  frameNumberValid : Bool
  frameNumber : Nat
  urgentFrameNumberValid : Bool
  urgentFrameNumber : Nat
  captureTime : Int
  /-- The stream ids of a reported frame drop; empty without one. -/
  droppedStreams : List Nat
  deriving DecidableEq

/-- A metadata callback; `entries` is `none` if an entry is missing. -/
structure MetadataCallback where
  metadataBuf : Nat
  entries : Option MetadataEntries
  freeAndBufdoneMetaBuf : Bool
  lastUrgentMetadataInBatch : Bool
  lastMetadataInBatch : Bool
  deriving DecidableEq

/-- `mMetadataChannel->bufDone(metadata_buf)`, if this call owns the buffer. -/
def MetadataCallback.bufDone (callback : MetadataCallback) : List Output :=
  if callback.freeAndBufdoneMetaBuf then
    [.metadataBufDone callback.metadataBuf]
  else
    []

/-- Count an urgent metadata that was missed. -/
def PendingRequestInfo.noteMissedUrgent (request : PendingRequestInfo)
    (urgentFrameNumber : Nat) : PendingRequestInfo :=
  if request.isLive && request.frameNumber < urgentFrameNumber && request.partialResultCnt == 0 then
    { request with partialResultCnt := request.partialResultCnt + 1 }
  else
    request

/-- The partial result sent for an urgent metadata. -/
def urgentResult (callback : MetadataCallback)
    (urgentFrameNumber partialResult : Nat) : CaptureResult where
  frameNumber := urgentFrameNumber
  result := some (.urgent callback.lastUrgentMetadataInBatch)
  outputBuffers := []
  inputBuffer := none
  partialResult := partialResult

/-- The loop over the list for an urgent frame number. -/
def handleUrgent (callback : MetadataCallback) (urgentFrameNumber : Nat) :
    List PendingRequestInfo → List PendingRequestInfo × List Output
  | [] => ([], [])
  | request :: rest =>
    let counted := request.noteMissedUrgent urgentFrameNumber
    if counted.frameNumber == urgentFrameNumber && !counted.bUrgentReceived then
      ({ counted with
          partialResultCnt := counted.partialResultCnt + 1
          bUrgentReceived := true } :: rest,
        [.processCaptureResult (urgentResult callback urgentFrameNumber
            (counted.partialResultCnt + 1))])
    else
      let (others, sent) := handleUrgent callback urgentFrameNumber rest
      (counted :: others, sent)

/-- The drops of a request's buffers that a metadata reports. -/
def droppedBuffers (entries : MetadataEntries)
    (request : PendingRequestInfo) : List Camera3Stream :=
  request.buffers.flatMap fun requested =>
    (entries.droppedStreams.filter fun streamID =>
      streamID == requested.stream.streamID).map fun _ => requested.stream

/-- Report the drops of one request and remember them. -/
def reportFrameDrops (entries : MetadataEntries) (request : PendingRequestInfo)
    (tracker : Tracker) :
    Tracker × List Output :=
  let dropped := droppedBuffers entries request
  ({ tracker with
      mPendingFrameDropList :=
        tracker.mPendingFrameDropList ++ dropped.map fun stream => {
          frameNumber := request.frameNumber
          streamID := stream.streamID } },
    dropped.map fun stream =>
      .notify (.error request.frameNumber .buffer (some stream)))

/-- What the pending loop does with a request that has come due. -/
inductive DueCase where
  /-- Left for a later callback. -/
  | skip
  /-- A live request whose metadata is missing. -/
  | missed
  /-- The request of this metadata. -/
  | current
  deriving DecidableEq

/-- The branches of the pending loop on `i->frame_number <= frame_number`. -/
def dueCase (frameNumber : Nat) (request : PendingRequestInfo) : DueCase :=
  if request.frameNumber < frameNumber then
    if request.inputBuffer.isSome then
      .skip
    else if request.needDynamicBlklvl then
      .skip
    else if request.pendingExtraResult then
      .skip
    else
      .missed
  else
    .current

/-- A skipped live request that still waits for its black level. -/
def isUnfinishedRaw (frameNumber : Nat) (request : PendingRequestInfo) : Bool :=
  request.frameNumber < frameNumber && request.isLive && request.needDynamicBlklvl

/-- The count of the request of this metadata, after the metadata. -/
def countCurrent (unfinishedRaw : Bool) (request : PendingRequestInfo) : Nat :=
  if !request.needDynamicBlklvl && !unfinishedRaw then
    request.partialResultCnt + 2
  else
    request.partialResultCnt + 1

/-- The first buffer of a request whose channel needs the metadata. -/
def metadataStream (request : PendingRequestInfo) : Option Camera3Stream :=
  (request.buffers.find? RequestedBufferInfo.needMetadata).map RequestedBufferInfo.stream

/-- A missed request and what is sent for it. -/
def handleMissed (request : PendingRequestInfo) :
    PendingRequestInfo × ResultMetadata × List Output :=
  ({ request with partialResultCnt := partialResultCount }, .requestIdOnly request.requestId,
    [.notify (.error request.frameNumber .result none)])

/-- The request of this metadata and what is sent for it. -/
def handleCurrent (callback : MetadataCallback) (entries : MetadataEntries) (unfinishedRaw : Bool)
    (request : PendingRequestInfo) :
    PendingRequestInfo × ResultMetadata × List Output :=
  let counted := { request with
        partialResultCnt := countCurrent unfinishedRaw request
        timestamp := entries.captureTime }
  let internalPproc := (metadataStream request).isSome
  (counted, .fromHal counted.timestamp counted.requestId counted.jpegMetadata
      counted.pipelineDepth counted.captureIntent counted.hybridAeEnable
      internalPproc counted.needDynamicBlklvl
      callback.lastMetadataInBatch,
    [.notify (.shutter request.frameNumber entries.captureTime)] ++
      match metadataStream request with
      | some stream => [.queueReprocMetadata callback.metadataBuf stream]
      | none => callback.bufDone)

/-- What becomes of a due request that is not skipped. -/
structure DueOutcome where
  tracker : Tracker
  /-- The request, unless it has been erased. -/
  kept : Option PendingRequestInfo
  outputs : List Output

/--
Send the result of a due request with the buffers already filled, and erase
the request if that was its last partial result.
-/
def finishDue (frameNumber : Nat) (tracker : Tracker)
    (handled : PendingRequestInfo × ResultMetadata × List Output) :
    DueOutcome :=
  let (request, metadata, sent) := handled
  let (returned, buffers, outputBuffers) := returnBuffers frameNumber tracker request.buffers
  let result : CaptureResult := {
    frameNumber := request.frameNumber
    result := some metadata
    outputBuffers := outputBuffers
    inputBuffer := request.inputBuffer
    partialResult := request.partialResultCnt }
  if request.partialResultCnt = partialResultCount then
    { tracker :=
        { returned with
            mPendingLiveRequest := returned.mPendingLiveRequest - 1 }
      kept := none
      outputs := sent ++ [.processCaptureResult result] }
  else
    { tracker := returned
      kept := some { request with
        buffers := buffers
        pendingExtraResult := true }
      outputs := sent ++ [.processCaptureResult result] }

/-- The pending loop: iterator between `done` and `rest`. -/
structure PendingLoop where
  tracker : Tracker
  done : List PendingRequestInfo
  rest : List PendingRequestInfo
  unfinishedRawRequest : Bool
  outputs : List Output

/-- Put the two parts of the list together again. -/
def PendingLoop.close (loop : PendingLoop) : Tracker × List Output :=
  (loop.tracker.setRequests (loop.done ++ loop.rest), loop.outputs)

/-- How one round of the pending loop ends. -/
inductive LoopRound where
  /-- Go on with the loop. -/
  | next (loop : PendingLoop)
  /-- The iterator was erased; its old entry ends the loop. -/
  | stale (loop : PendingLoop)
  /-- The iterator was erased and its old entry would go on. -/
  | undefined

/--
`handlePendingReprocResults(frame_number + 1)` at the end of a round.  It may
erase a request before the iterator, at the iterator or after it.
-/
def drainDelayed (frameNumber : Nat) (loop : PendingLoop) : LoopRound :=
  let delayed := uint32Succ frameNumber
  let (tracker, sent) :=
    handlePendingReprocResults delayed (loop.tracker.setRequests (loop.done ++ loop.rest))
  let isDelayed := fun (request : PendingRequestInfo) =>
    request.frameNumber == delayed
  let drained := { loop with
    tracker := tracker
    outputs := loop.outputs ++ sent }
  if !loop.tracker.mPendingReprocessResultList.any fun pending =>
      pending.frameNumber == delayed then
    .next drained
  else if loop.done.any isDelayed then
    .next { drained with done := loop.done.eraseP isDelayed }
  else
    match loop.rest with
    | [] => .next drained
    | request :: later =>
      if isDelayed request then
        if frameNumber < delayed then
          .stale { drained with
            rest := later
            outputs := drained.outputs ++ [.staleIterator delayed] }
        else
          .undefined
      else
        .next { drained with
          rest := request :: later.eraseP isDelayed }

/-- Leave the request at the iterator for later and move on. -/
def passSkipped (entries : MetadataEntries) (request : PendingRequestInfo)
    (later : List PendingRequestInfo)
    (loop : PendingLoop) : PendingLoop :=
  let (reported, drops) := reportFrameDrops entries request loop.tracker
  { tracker := reported
    done := loop.done ++ [request]
    rest := later
    unfinishedRawRequest :=
      loop.unfinishedRawRequest || isUnfinishedRaw entries.frameNumber request
    outputs := loop.outputs ++ drops }

/-- What is sent for a due request that is not skipped. -/
def handleDueRequest (callback : MetadataCallback) (entries : MetadataEntries)
    (unfinishedRaw : Bool)
    (request : PendingRequestInfo) :
    PendingRequestInfo × ResultMetadata × List Output :=
  if dueCase entries.frameNumber request = .missed then
    handleMissed request
  else
    handleCurrent callback entries unfinishedRaw request

/-- Answer the request at the iterator and move on. -/
def passDue (callback : MetadataCallback) (entries : MetadataEntries) (request : PendingRequestInfo)
    (later : List PendingRequestInfo)
    (loop : PendingLoop) : PendingLoop :=
  let (reported, drops) := reportFrameDrops entries request loop.tracker
  let outcome := finishDue entries.frameNumber reported
      (handleDueRequest callback entries loop.unfinishedRawRequest request)
  { tracker := outcome.tracker
    done := loop.done ++ outcome.kept.toList
    rest := later
    unfinishedRawRequest := loop.unfinishedRawRequest
    outputs := loop.outputs ++ drops ++ outcome.outputs }

/-- One round of the pending loop on the request at the iterator. -/
def pendingRound (callback : MetadataCallback) (entries : MetadataEntries)
    (request : PendingRequestInfo)
    (later : List PendingRequestInfo)
    (loop : PendingLoop) : LoopRound :=
  if dueCase entries.frameNumber request = .skip then
    .next (passSkipped entries request later loop)
  else
    drainDelayed entries.frameNumber (passDue callback entries request later loop)

/--
The loop over requests up to the frame number of the metadata.  Every round
moves the iterator on, so the length of the list bounds the rounds.
-/
def pendingLoop (callback : MetadataCallback) (entries : MetadataEntries) :
    Nat → PendingLoop → Option PendingLoop
  | 0, loop => some loop
  | rounds + 1, loop =>
    match loop.rest with
    | [] => some loop
    | request :: later =>
      if request.frameNumber ≤ entries.frameNumber then
        match pendingRound callback entries request later loop with
        | .next next => pendingLoop callback entries rounds next
        | .stale last => some last
        | .undefined => none
      else
        some loop

/-- `pipeline_depth++` for every pending request. -/
def Tracker.deepenPipeline (tracker : Tracker) : Tracker :=
  tracker.setRequests (tracker.mPendingRequestsList.map fun request =>
      { request with pipelineDepth := request.pipelineDepth + 1 })

/-- The part of `handleMetadataWithLock` on an urgent frame number. -/
def handleUrgentPart (callback : MetadataCallback) (entries : MetadataEntries) (tracker : Tracker) :
    Tracker × List Output :=
  if entries.urgentFrameNumberValid then
    let (requests, sent) :=
      handleUrgent callback entries.urgentFrameNumber tracker.mPendingRequestsList
    (tracker.setRequests requests, sent)
  else
    (tracker, [])

/-- The part of `handleMetadataWithLock` on a normal frame number. -/
def handleNormalPart (callback : MetadataCallback) (entries : MetadataEntries) (tracker : Tracker) :
    Option (Tracker × List Output) :=
  if entries.frameNumberValid then
    (pendingLoop callback entries tracker.mPendingRequestsList.length {
      tracker := tracker
      done := []
      rest := tracker.mPendingRequestsList
      unfinishedRawRequest := false
      outputs := [] }).map PendingLoop.close
  else
    some (tracker, callback.bufDone)

/-- `handleMetadataWithLock`. -/
def handleMetadataWithLock (callback : MetadataCallback) (tracker : Tracker) :
    Option (Tracker × List Output) :=
  match callback.entries with
  | none => some (tracker.deepenPipeline, callback.bufDone)
  | some entries =>
    let (urgent, sent) := handleUrgentPart callback entries tracker
    (handleNormalPart callback entries urgent).map
      fun (normal, later) => (normal.deepenPipeline, sent ++ later)

/-! ## Black level -/

/-- A live request that waits for an older raw request only. -/
def isDeferred (request : PendingRequestInfo) : Bool :=
  request.partialResultCnt == partialResultCount - 1 && !request.needDynamicBlklvl

/-- The final result of a deferred request. -/
def deferredResult (request : PendingRequestInfo) : CaptureResult where
  frameNumber := request.frameNumber
  result := some (.syncFrameNumber request.frameNumber)
  outputBuffers := []
  inputBuffer := none
  partialResult := request.partialResultCnt + 1

/-- The partial result that carries the black level. -/
def blackLevelResult (blackLevel frameNumber partialResult : Nat) : CaptureResult where
  frameNumber := frameNumber
  result := some (.dynamicBlackLevel frameNumber blackLevel)
  outputBuffers := []
  inputBuffer := none
  partialResult := partialResult

/-- `sendDynamicBlackLevelWithLock`. -/
def sendDynamicBlackLevelWithLock (blackLevel frameNumber : Nat) (tracker : Tracker) :
    Tracker × List Output :=
  let (before, fromFrame) := tracker.mPendingRequestsList.span fun request =>
      request.frameNumber != frameNumber
  match fromFrame with
  | [] => (tracker, [])
  | request :: later =>
    if !request.needDynamicBlklvl then
      (tracker, [])
    else
      let count := request.partialResultCnt + 1
      let sent : Output := .processCaptureResult (blackLevelResult blackLevel frameNumber count)
      if count = partialResultCount then
        -- the remaining list is walked while the requests are deferred
        let released := later.takeWhile isDeferred
        ({ tracker.setRequests (before ++ later.dropWhile isDeferred) with
            mPendingLiveRequest :=
              tracker.mPendingLiveRequest - 1 - UInt32.ofNat released.length },
          sent :: released.map fun deferred =>
            .processCaptureResult (deferredResult deferred))
      else
        (tracker.setRequests (before ++ { request with partialResultCnt := count } :: later),
          [sent])

/-! ## Input and output buffers -/

/-- The capture time of a reprocess request, from its settings if there. -/
def reprocessTime (now : Int) (request : PendingRequestInfo) : Int :=
  (request.settings.bind Settings.sensorTimestamp).getD now

/-- An output buffer returned with an error, as it was requested. -/
def PendingBufferInfo.toError (info : PendingBufferInfo) : Camera3StreamBuffer where
  stream := info.stream
  buffer := info.buffer
  status := .error
  acquireFence := -1
  releaseFence := -1

/-- Take all pending buffers of a frame out of the map. -/
def Tracker.takeFrame (tracker : Tracker) (frameNumber : Nat) : Tracker × List PendingBufferInfo :=
  let pending := tracker.mPendingBuffersMap.mPendingBufferList
  let taken := pending.filter fun info => info.frameNumber == frameNumber
  (tracker.setBuffers (pending.filter fun info => info.frameNumber != frameNumber)
      (tracker.mPendingBuffersMap.numBuffers - UInt32.ofNat taken.length),
    taken)

/-- `handleInputBufferWithLock`; `now` is the monotonic clock. -/
def handleInputBufferWithLock (now : Int) (buffer : Option Camera3StreamBuffer) (frameNumber : Nat)
    (tracker : Tracker) :
    Tracker × List Output :=
  match tracker.mPendingRequestsList.find? fun request =>
      request.frameNumber == frameNumber with
  | none => (tracker, [])
  | some request =>
    if request.inputBuffer.isNone then
      (tracker, [])
    else
      let erased := tracker.setRequests (tracker.mPendingRequestsList.eraseP fun other =>
            other.frameNumber == frameNumber)
      let shutter : List Output := if request.shutterNotified then
          []
        else
          [.notify (.shutter frameNumber (reprocessTime now request))]
      if buffer.any fun returned => returned.status != .ok then
        let (taken, pending) := erased.takeFrame frameNumber
        (taken, shutter ++ [ .notify (.error frameNumber .request none), .processCaptureResult {
            frameNumber := frameNumber
            result := none
            outputBuffers := pending.map PendingBufferInfo.toError
            inputBuffer := request.inputBuffer
            partialResult := 0 }])
      else
        (erased, shutter ++ [ .processCaptureResult {
            frameNumber := frameNumber
            result := request.settings.map ResultMetadata.settings
            outputBuffers := []
            inputBuffer := request.inputBuffer
            partialResult := partialResultCount }])

/-- A buffer of a frame whose metadata has been sent goes straight out. -/
def sendBuffer (buffer : Camera3StreamBuffer) (frameNumber : Nat) (tracker : Tracker) :
    Tracker × List Output :=
  let (marked, corrected) := tracker.applyFrameDrop frameNumber buffer
  (marked.takeBuffer corrected.buffer, [ .processCaptureResult {
      frameNumber := frameNumber
      result := none
      outputBuffers := [corrected]
      inputBuffer := none
      partialResult := 0 }])

/-- A reprocessed buffer is sent now or cached behind older requests. -/
def sendReprocessed (now : Int) (buffer : Camera3StreamBuffer) (request : PendingRequestInfo)
    (tracker : Tracker) :
    Tracker × List Output :=
  let frameNumber := request.frameNumber
  let shutter : NotifyMsg := .shutter frameNumber (reprocessTime now request)
  let taken := tracker.takeBuffer buffer.buffer
  if taken.mPendingRequestsList.any fun other =>
      other.frameNumber < frameNumber then
    ({ taken with
        mPendingReprocessResultList :=
          taken.mPendingReprocessResultList ++ [{
            notifyMsg := shutter
            buffer := buffer
            frameNumber := frameNumber }] }, [])
  else
    (taken.setRequests (taken.mPendingRequestsList.eraseP fun other =>
          other.frameNumber == frameNumber),
      [.notify shutter, .processCaptureResult (reprocessResult request buffer)])

/-- Keep a buffer in the entry of its stream until the metadata comes. -/
def PendingRequestInfo.keepBuffer (request : PendingRequestInfo)
    (buffer : Camera3StreamBuffer) : PendingRequestInfo :=
  { request with
      buffers := request.buffers.map fun requested =>
        if requested.stream.handle = buffer.stream.handle ∧ requested.buffer = none then
          { requested with buffer := some buffer }
        else
          requested }

/-- Overwrite the first request of a frame. -/
def updateRequest (request : PendingRequestInfo) : List PendingRequestInfo → List PendingRequestInfo
  | [] => []
  | current :: rest =>
    if current.frameNumber = request.frameNumber then
      request :: rest
    else
      current :: updateRequest request rest

/-- `handleBufferWithLock`; `now` is the monotonic clock. -/
def handleBufferWithLock (now : Int) (buffer : Camera3StreamBuffer) (frameNumber : Nat)
    (tracker : Tracker) :
    Tracker × List Output :=
  match tracker.mPendingRequestsList.find? fun request =>
      request.frameNumber == frameNumber with
  | none => sendBuffer buffer frameNumber tracker
  | some request =>
    if request.pendingExtraResult then
      sendBuffer buffer frameNumber tracker
    else if request.inputBuffer.isSome then
      sendReprocessed now buffer request tracker
    else
      (tracker.setRequests (updateRequest (request.keepBuffer buffer)
          tracker.mPendingRequestsList), [])

end AnglerHal.Hal3
