import AnglerHal.HalCommon
import AnglerHal.RequestFlush

namespace AnglerHal.Hal3

/-!
# `processCaptureRequest`

A call is prepared (validated, parameters set, the sensor perhaps restarted),
then registered in the pending lists, then passed to the channels.  The answers
of channels, parameters, fences and clocks come from outside: the ones that
belong to an output buffer stand next to it in `RequestOutput`, the others in
`RequestEnv`.

The timed wait at the end of the call releases `mMutex`, so callbacks that run
meanwhile are steps of their own; the call itself only takes over the status
that the wait ends with.
-/

/-- `NAME_NOT_FOUND`. -/
def nameNotFound : Int :=
  -2

/-- `MAX_NUM_STREAMS`. -/
def maxNumStreams : Nat :=
  8

/-- `ANDROID_CONTROL_CAPTURE_INTENT_CUSTOM`. -/
def captureIntentCustom : UInt8 :=
  0

/-- `MIN_FPS_FOR_BATCH_MODE`. -/
def minFpsForBatchMode : Nat :=
  120

/-- `PREVIEW_FPS_FOR_HFR`. -/
def previewFpsForHfr : Nat :=
  30

/-- `MAX_HFR_BATCH_SIZE`. -/
def maxHfrBatchSize : Nat :=
  8

/-- `DEFAULT_VIDEO_FPS`. -/
def defaultVideoFps : Nat :=
  30

/-- The frame rates of `HFR_MODE_MAP`. -/
def hfrModeMap : List Nat :=
  [60, 90, 120, 150, 180, 210, 240, 480]

/-- An output buffer of a request and the answers of its channel. -/
structure RequestOutput where
  buffer : Camera3StreamBuffer
  /-- `sync_wait(output.acquire_fence)`. -/
  acquireRc : Int
  /-- `channel->request(...)`. -/
  requestRc : Int
  /-- `needMetadata` as a YUV channel sets it. -/
  needMetadata : Bool
  deriving DecidableEq

/-- `camera3_capture_request_t`. -/
structure CaptureRequest where
  frameNumber : Nat
  settings : Option Settings
  inputBuffer : Option Camera3StreamBuffer
  outputs : List RequestOutput
  deriving DecidableEq

/-- The other answers that a call depends on. -/
structure RequestEnv where
  unconfigureRc : Int
  /-- The set-up of the first request: sensor size, channels, bundle. -/
  firstRequestRc : Int
  setFrameParametersRc : Int
  /-- `setFrameParameters` gets to `translateToHalMetadata`. -/
  frameTranslated : Bool
  /-- Setting the frame number of a batch in the parameters fails. -/
  frameNumberFails : Bool
  startAllChannelsRc : Int
  inputAcquireRc : Int
  setReprocParametersRc : Int
  /-- `setReprocParameters` gets to `translateToHalMetadata`. -/
  reprocTranslated : Bool
  clockGettimeRc : Int
  /-- The status that the timed wait leaves. -/
  waitRc : Int
  deriving DecidableEq

/-- A request is live or reprocess by its input buffer. -/
def CaptureRequest.isLive (request : CaptureRequest) : Bool :=
  request.inputBuffer.isNone

/-- The settings as a `CameraMetadata`. -/
def CaptureRequest.metadata (request : CaptureRequest) : Settings :=
  request.settings.getD Settings.empty

/-- `blob_request`. -/
def CaptureRequest.blobRequest (request : CaptureRequest) : Bool :=
  request.outputs.any fun output =>
    output.buffer.stream.format == .blob

/-- `isVidBufRequested`. -/
def CaptureRequest.isVidBufRequested (request : CaptureRequest) : Bool :=
  request.outputs.any fun output => output.buffer.stream.video

/-! ## Preparation -/

/-- The checks of `validateCaptureRequest` on one buffer. -/
def validBuffer (buffer : Camera3StreamBuffer) : Bool :=
  buffer.status == .ok && buffer.releaseFence == -1 && buffer.buffer != 0

/-- `validateCaptureRequest`. -/
def validateCaptureRequest (request : CaptureRequest) (tracker : Tracker) : Int :=
  if request.settings.isNone && tracker.mFirstRequest then
    badValue
  else if request.outputs.length < 1 then
    badValue
  else if request.outputs.length ≥ maxNumStreams then
    badValue
  else if !request.inputBuffer.all validBuffer then
    badValue
  else if !request.outputs.all fun output =>
      output.buffer.stream.configured && validBuffer output.buffer then
    badValue
  else
    0

/-- `setHalFpsRange`. -/
def setHalFpsRange (maxFps : Nat) (tracker : Tracker) : Tracker :=
  if tracker.constrainedHighSpeed ∧ maxFps ∈ hfrModeMap ∧ minFpsForBatchMode ≤ maxFps then
    { tracker with
        mNeedSensorRestart :=
          tracker.mNeedSensorRestart || (minFpsForBatchMode ≤ tracker.mHFRVideoFps &&
              tracker.mHFRVideoFps != maxFps)
        mHFRVideoFps := maxFps
        mBatchSize :=
          UInt8.ofNat (min (maxFps / previewFpsForHfr) maxHfrBatchSize) }
  else
    { tracker with mBatchSize := 0 }

/-- The part of `translateToHalMetadata` that the tracker notices. -/
def translateToHalMetadata (request : CaptureRequest) (tracker : Tracker) : Tracker :=
  match request.metadata.aeTargetMaxFps with
  | none => tracker
  | some maxFps => setHalFpsRange maxFps tracker

/-- The members set while the first request configures the streams. -/
def configureFirstRequest (request : CaptureRequest) (tracker : Tracker) : Tracker :=
  translateToHalMetadata request { tracker with
        mCaptureIntent :=
          request.metadata.captureIntent.getD tracker.mCaptureIntent
        mHFRVideoFps := defaultVideoFps }

/-- The result of a stage: go on, or return a status. -/
inductive Stage where
  | proceed (tracker : Tracker)
  | fail (tracker : Tracker) (rc : Int)

/-- The `mFirstRequest` part of the call. -/
def startFirstRequest (env : RequestEnv) (request : CaptureRequest) (tracker : Tracker) : Stage :=
  if !tracker.mFirstRequest then
    .proceed tracker
  else if !tracker.mFirstConfiguration && env.unconfigureRc < 0 then
    .fail tracker env.unconfigureRc
  else if env.firstRequestRc ≠ 0 then
    .fail (configureFirstRequest request tracker) env.firstRequestRc
  else
    .proceed { configureFirstRequest request tracker with
          mPendingLiveRequest := 0
          mFirstConfiguration := false }

/-- The request id, if the request or an earlier one has one. -/
def requestId? (request : CaptureRequest) (tracker : Tracker) : Option Int :=
  match request.metadata.requestId with
  | some requestId => some requestId
  | none =>
    if tracker.mFirstRequest || tracker.mCurrentRequestId == -1 then
      none
    else
      some tracker.mCurrentRequestId

/-- The first failing wait on an acquire fence. -/
def acquireFailure? (request : CaptureRequest) : Option Int :=
  (request.outputs.find? fun output =>
    output.buffer.acquireFence != -1 && output.acquireRc != 0).map RequestOutput.acquireRc

/-- `setFrameParameters` is called for this request. -/
def setsFrameParameters (request : CaptureRequest) (tracker : Tracker) : Bool :=
  tracker.mBatchSize == 0 || !request.isVidBufRequested || tracker.mToBeQueuedVidBufs == 0

/-- The batch bookkeeping of a live request. -/
def noteBatch (request : CaptureRequest) (tracker : Tracker) : Tracker :=
  if tracker.mBatchSize != 0 && tracker.mToBeQueuedVidBufs == 0 then
    { tracker with mFirstFrameNumberInBatch := request.frameNumber }
  else
    tracker

/-- Frame parameters and batch bookkeeping of a live request. -/
def setLiveParameters (env : RequestEnv) (request : CaptureRequest) (tracker : Tracker) : Stage :=
  let sets := setsFrameParameters request tracker
  let translated := if sets && env.frameTranslated && request.settings.isSome then
      translateToHalMetadata request tracker
    else
      tracker
  if sets && env.setFrameParametersRc < 0 then
    .fail translated env.setFrameParametersRc
  else
    let batched := noteBatch request translated
    if batched.mBatchSize != 0 && env.frameNumberFails then
      .fail batched badValue
    else
      .proceed batched

/-- The wait for the input buffer of a reprocess request. -/
def awaitInput (env : RequestEnv) (input : Camera3StreamBuffer) (tracker : Tracker) : Stage :=
  if input.acquireFence ≠ -1 ∧ env.inputAcquireRc ≠ 0 then
    .fail tracker env.inputAcquireRc
  else
    .proceed tracker

/-- Validation, first-request set-up, fences and frame parameters. -/
def checkRequest (env : RequestEnv) (request : CaptureRequest) (tracker : Tracker) : Stage :=
  if validateCaptureRequest request tracker ≠ 0 then
    .fail tracker (validateCaptureRequest request tracker)
  else
    match startFirstRequest env request tracker with
    | .fail failed rc => .fail failed rc
    | .proceed started =>
      match requestId? request started with
      | none => .fail started nameNotFound
      | some requestId =>
        let current := { started with mCurrentRequestId := requestId }
        match acquireFailure? request with
        | some rc => .fail current rc
        | none =>
          match request.inputBuffer with
          | none => setLiveParameters env request current
          | some input => awaitInput env input current

/-- The sensor is restarted for this request. -/
def restartsSensor (request : CaptureRequest) (checked : Tracker) : Bool :=
  request.isLive && checked.mNeedSensorRestart

/--
Restart the sensor if the frame rate of a batch has changed: everything pending
is answered with errors first.
-/
def restartSensor (env : RequestEnv) (request : CaptureRequest)
    (checked : Tracker) : Option (Stage × List Output) :=
  if restartsSensor request checked then
    (dynamicUpdateMetaStreamInfo env.startAllChannelsRc checked).map fun (restarted, rc, sent) =>
        if rc ≠ 0 then
          (.fail restarted badValue, sent)
        else
          (.proceed { restarted with mNeedSensorRestart := false }, sent)
  else
    some (.proceed checked, [])

/-- Everything before the request is registered. -/
def prepareRequest (env : RequestEnv) (request : CaptureRequest)
    (tracker : Tracker) : Option (Stage × List Output) :=
  match checkRequest env request tracker with
  | .fail failed rc => some (.fail failed rc, [])
  | .proceed checked => restartSensor env request checked

/-! ## Registration -/

/-- `extractJpegMetadata`. -/
def extractJpegMetadata (request : CaptureRequest)
    (jpegMetadata : Option (Int × Int)) : Option (Int × Int) :=
  request.metadata.jpegThumbnailSize.or jpegMetadata

/-- `saveRequestSettings`. -/
def saveRequestSettings (jpegMetadata : Option (Int × Int))
    (request : CaptureRequest) : Option Settings :=
  match jpegMetadata with
  | none => request.settings
  | some thumbnailSize => some { request.metadata with jpegThumbnailSize := some thumbnailSize }

/-- The request asks for a raw frame whose black level is measured. -/
def needsDynamicBlklvl (request : CaptureRequest) (tracker : Tracker) : Bool :=
  tracker.opticalBlackRegion && request.outputs.any fun output =>
      output.buffer.stream.format == .raw16

/-- The new entry of `mPendingRequestsList`. -/
def pendingRequest (request : CaptureRequest) (tracker : Tracker) : PendingRequestInfo where
  frameNumber := request.frameNumber
  numBuffers := request.outputs.length
  requestId := tracker.mCurrentRequestId
  buffers := request.outputs.map fun output => {
    stream := output.buffer.stream
    buffer := none
    needMetadata := false }
  blobRequest := request.blobRequest
  bUrgentReceived := false
  timestamp := 0
  inputBuffer := request.inputBuffer
  settings :=
    saveRequestSettings (extractJpegMetadata request tracker.mCurJpegMeta) request
  jpegMetadata := extractJpegMetadata request tracker.mCurJpegMeta
  pipelineDepth := 0
  partialResultCnt := 0
  captureIntent :=
    request.metadata.captureIntent.getD tracker.mCaptureIntent
  shutterNotified := false
  hybridAeEnable :=
    request.metadata.hybridAeEnable.getD tracker.mHybridAeEnable
  needDynamicBlklvl := needsDynamicBlklvl request tracker
  pendingExtraResult := false

/-- The new entries of `mPendingBufferList`. -/
def pendingBuffers (request : CaptureRequest) : List PendingBufferInfo :=
  request.outputs.map fun output => {
    frameNumber := request.frameNumber
    stream := output.buffer.stream
    buffer := output.buffer.buffer }

/-- Update the pending request list and the pending buffers map. -/
def registerRequest (request : CaptureRequest) (tracker : Tracker) : Tracker :=
  { tracker with
      mPendingRequestsList :=
        tracker.mPendingRequestsList ++ [pendingRequest request tracker]
      mPendingBuffersMap := {
        numBuffers :=
          tracker.mPendingBuffersMap.numBuffers + UInt32.ofNat request.outputs.length
        mPendingBufferList :=
          tracker.mPendingBuffersMap.mPendingBufferList ++ pendingBuffers request
        lastFrameNumber := request.frameNumber }
      mLastCustIntentFrmNum :=
        if tracker.mCaptureIntent = captureIntentCustom then
          request.frameNumber
        else
          tracker.mLastCustIntentFrmNum
      mCurJpegMeta := extractJpegMetadata request tracker.mCurJpegMeta
      mCaptureIntent :=
        request.metadata.captureIntent.getD tracker.mCaptureIntent
      mHybridAeEnable :=
        request.metadata.hybridAeEnable.getD tracker.mHybridAeEnable }

/-! ## Channels -/

/-- `need_metadata` as the branch of the stream's format sets it. -/
def outputNeedsMetadata (live : Bool) (output : RequestOutput) : Bool :=
  match output.buffer.stream.format with
  | .blob => live
  | .ycbcr420888 => output.needMetadata
  | _ => false

/-- A video buffer is staged for the current batch. -/
def stageVideoBuf (output : RequestOutput) (tracker : Tracker) : Tracker :=
  if (output.buffer.stream.format = .raw16 ∨ output.buffer.stream.format = .other) ∧
      output.buffer.stream.video ∧ tracker.mBatchSize ≠ 0 then
    { tracker with
        mToBeQueuedVidBufs := tracker.mToBeQueuedVidBufs + 1 }
  else
    tracker

/-- The loop that passes the outputs to their channels. -/
structure ChannelLoop where
  tracker : Tracker
  /-- `need_metadata` of the buffers whose channels have accepted. -/
  needMetadata : List Bool
  /-- The status of the channel that refused. -/
  failure : Option Int

/-- Call `request` on the channels until one refuses. -/
def requestChannels (live : Bool) : Tracker → List RequestOutput → ChannelLoop
  | tracker, [] => { tracker := tracker, needMetadata := [], failure := none }
  | tracker, output :: rest =>
    let staged := stageVideoBuf output tracker
    if output.requestRc < 0 then
      { tracker := staged
        needMetadata := []
        failure := some output.requestRc }
    else
      let later := requestChannels live staged rest
      { later with
          needMetadata :=
            outputNeedsMetadata live output :: later.needMetadata }

/-- Write the `need_metadata` flags into the buffers of a request. -/
def writeNeedMetadata : List Bool → List RequestedBufferInfo → List RequestedBufferInfo
  | [], buffers => buffers
  | _ :: _, [] => []
  | flag :: flags, requested :: rest =>
    { requested with needMetadata := flag } ::
      writeNeedMetadata flags rest

/-- Change the last entry of `mPendingRequestsList`, the new one. -/
def Tracker.updateLatest (tracker : Tracker)
    (change : PendingRequestInfo → PendingRequestInfo) : Tracker :=
  tracker.setRequests (match tracker.mPendingRequestsList.getLast? with
    | none => tracker.mPendingRequestsList
    | some latest => tracker.mPendingRequestsList.dropLast ++ [change latest])

/-- `set_parms` is called at the end of this request. -/
def setsParms (request : CaptureRequest) (tracker : Tracker) : Bool :=
  tracker.mBatchSize == 0 || !request.isVidBufRequested ||
    tracker.mToBeQueuedVidBufs == tracker.mBatchSize

/-- The end of the call for a live request. -/
def completeLive (request : CaptureRequest) (tracker : Tracker) : Tracker :=
  let queued := if setsParms request tracker then
      { tracker with
          mToBeQueuedVidBufs := 0
          mPendingBatchMap :=
            tracker.mPendingBatchMap.add request.frameNumber tracker.mFirstFrameNumberInBatch }
    else
      tracker
  { queued with mPendingLiveRequest := queued.mPendingLiveRequest + 1 }

/-- `MIN_INFLIGHT_REQUESTS` or `MIN_INFLIGHT_HFR_REQUESTS`. -/
def minInFlightRequests (tracker : Tracker) : Nat :=
  if tracker.mBatchSize = 0 then 3 else 48

/-- The call ends in a timed wait. -/
def blocks (request : CaptureRequest) (tracker : Tracker) : Bool :=
  minInFlightRequests tracker ≤ tracker.mPendingLiveRequest.toNat &&
    request.isLive && tracker.mToBeQueuedVidBufs == 0

/-- The end of the call: counters and the timed wait. -/
def completeRequest (env : RequestEnv) (request : CaptureRequest)
    (tracker : Tracker) : Tracker × Int :=
  let counted := if request.isLive then completeLive request tracker else tracker
  let final := { counted with mFirstRequest := false }
  (final, if blocks request final then env.waitRc else env.clockGettimeRc)

/-- `setReprocParameters`. -/
def setReprocParameters (env : RequestEnv) (request : CaptureRequest)
    (tracker : Tracker) : Tracker × Int :=
  if request.settings.isNone then
    (tracker, badValue)
  else if env.reprocTranslated then
    (translateToHalMetadata request tracker, env.setReprocParametersRc)
  else
    (tracker, env.setReprocParametersRc)

/-- Everything after the request has been registered, outside a flush. -/
def issueRequest (env : RequestEnv) (request : CaptureRequest)
    (registered : Tracker) : Tracker × Int :=
  let (parameterized, rc) := if request.isLive then
      (registered, 0)
    else
      setReprocParameters env request registered
  if rc ≠ 0 then
    (parameterized, rc)
  else
    let asked := requestChannels request.isLive parameterized request.outputs
    let flagged := asked.tracker.updateLatest fun latest =>
        { latest with
            buffers := writeNeedMetadata asked.needMetadata latest.buffers }
    match asked.failure with
    | some failure => (flagged, failure)
    | none =>
      if 1 < asked.needMetadata.count true then
        (flagged, badValue)
      else
        completeRequest env request flagged

/-- Register a prepared request and pass it on, unless a flush is going on. -/
def acceptRequest (env : RequestEnv) (request : CaptureRequest)
    (prepared : Tracker) : Tracker × Int :=
  let registered := registerRequest request prepared
  if registered.mFlush then
    (registered, 0)
  else
    issueRequest env request registered

/-- `processCaptureRequest`: the state, the status and the messages. -/
def processCaptureRequest (env : RequestEnv) (request : CaptureRequest) (tracker : Tracker) :
    Option (Tracker × Int × List Output) :=
  (prepareRequest env request tracker).map fun (stage, sent) =>
    match stage with
    | .fail failed rc => (failed, rc, sent)
    | .proceed prepared =>
      let (accepted, rc) := acceptRequest env request prepared
      (accepted, rc, sent)

end AnglerHal.Hal3
