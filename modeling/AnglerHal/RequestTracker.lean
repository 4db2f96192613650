import AnglerHal.CaptureRequest
import AnglerHal.LabelledRun

namespace AnglerHal.Hal3

/-!
# The capture request tracker as a machine

Each event is one critical section under `mMutex`.  `flush` has two of them,
with the channels stopping in between; a sensor restart happens inside
`processCaptureRequest`.  Batch metadata arrives as several metadata events,
one for each frame of the batch.
-/

/-- The operations that hold `mMutex`. -/
inductive TrackerEvent where
  | processCaptureRequest (env : RequestEnv) (request : CaptureRequest)
  | metadata (callback : MetadataCallback)
  | blackLevel (blackLevel frameNumber : Nat)
  | inputBuffer (now : Int) (buffer : Option Camera3StreamBuffer) (frameNumber : Nat)
  | buffer (now : Int) (buffer : Camera3StreamBuffer) (frameNumber : Nat)
  | flushBegin
  | flushEnd
  | configureStreams (constrainedHighSpeed : Bool)
  deriving DecidableEq

/-- Execute one operation. -/
def trackerStep (tracker : Tracker) : TrackerEvent → Option (Tracker × List Output)
  | .processCaptureRequest env request =>
    (processCaptureRequest env request tracker).map fun (next, rc, sent) =>
        (next, sent ++ [.requestStatus request.frameNumber rc])
  | .metadata callback => handleMetadataWithLock callback tracker
  | .blackLevel blackLevel frameNumber =>
    some (sendDynamicBlackLevelWithLock blackLevel frameNumber tracker)
  | .inputBuffer now buffer frameNumber =>
    some (handleInputBufferWithLock now buffer frameNumber tracker)
  | .buffer now buffer frameNumber => some (handleBufferWithLock now buffer frameNumber tracker)
  | .flushBegin => some (flushBegin tracker, [])
  | .flushEnd => flushEnd tracker
  | .configureStreams constrainedHighSpeed =>
    some (configureStreams constrainedHighSpeed tracker, [])

/-- A camera whose streams have been configured for the first time. -/
structure Tracker.Fresh (tracker : Tracker) : Prop where
  requests : tracker.mPendingRequestsList = []
  buffers : tracker.mPendingBuffersMap.mPendingBufferList = []
  numBuffers : tracker.mPendingBuffersMap.numBuffers = 0
  reprocessResults : tracker.mPendingReprocessResultList = []
  frameDrops : tracker.mPendingFrameDropList = []
  liveRequests : tracker.mPendingLiveRequest = 0
  firstRequest : tracker.mFirstRequest = true

/-- The members as the constructor leaves them. -/
def constructed (opticalBlackRegion : Bool) : Tracker where
  mPendingRequestsList := []
  mPendingBuffersMap := {
    numBuffers := 0
    mPendingBufferList := []
    lastFrameNumber := uintMax }
  mPendingReprocessResultList := []
  mPendingFrameDropList := []
  mPendingBatchMap := KeyedVector.empty
  mPendingLiveRequest := 0
  mFirstRequest := false
  mFirstConfiguration := true
  mFlush := false
  mCurrentRequestId := -1
  mCurJpegMeta := none
  mCaptureIntent := 0
  mHybridAeEnable := 0
  mLastCustIntentFrmNum := -1
  mBatchSize := 0
  mToBeQueuedVidBufs := 0
  mFirstFrameNumberInBatch := 0
  mHFRVideoFps := defaultVideoFps
  mNeedSensorRestart := false
  constrainedHighSpeed := false
  opticalBlackRegion := opticalBlackRegion

/-- The tracker after the first `configureStreams`. -/
def opened (opticalBlackRegion constrainedHighSpeed : Bool) : Tracker :=
  configureStreams constrainedHighSpeed (constructed opticalBlackRegion)

/-- The first `configureStreams` gives a fresh tracker. -/
theorem opened_fresh (opticalBlackRegion constrainedHighSpeed : Bool) :
    (opened opticalBlackRegion constrainedHighSpeed).Fresh :=
  ⟨rfl, rfl, rfl, rfl, rfl, rfl, rfl⟩

/-- Run a list of operations. -/
def trackerRun (tracker : Tracker) (events : List TrackerEvent) : Option (Tracker × List Output) :=
  LabelledRun.run? trackerStep tracker events

/-- The frame numbers of a list of requests. -/
def requestFrames (requests : List PendingRequestInfo) : List Nat :=
  requests.map PendingRequestInfo.frameNumber

/-! ## Requests and callbacks of small scenarios -/

/-- Surroundings in which nothing fails. -/
def quietEnv : RequestEnv where
  unconfigureRc := 0
  firstRequestRc := 0
  setFrameParametersRc := 0
  frameTranslated := true
  frameNumberFails := false
  startAllChannelsRc := 0
  inputAcquireRc := 0
  setReprocParametersRc := 0
  reprocTranslated := true
  clockGettimeRc := 0
  waitRc := 0

/-- A configured stream of some format. -/
def streamOf (handle : Nat) (format : PixelFormat) : Camera3Stream where
  handle := handle
  format := format
  configured := true
  streamID := handle
  video := false

/-- A filled buffer of a stream. -/
def okBuffer (stream : Camera3Stream) (buffer : Nat) : Camera3StreamBuffer where
  stream := stream
  buffer := buffer
  status := .ok
  acquireFence := -1
  releaseFence := -1

/-- An output whose channel answers with `requestRc`. -/
def outputOf (requestRc : Int) (buffer : Camera3StreamBuffer) : RequestOutput where
  buffer := buffer
  acquireRc := 0
  requestRc := requestRc
  needMetadata := false

/-- The preview buffer of a frame. -/
def previewBuffer (frameNumber : Nat) : Camera3StreamBuffer :=
  okBuffer (streamOf 1 .other) (10 * frameNumber + 1)

/-- The raw buffer of a frame. -/
def rawBuffer (frameNumber : Nat) : Camera3StreamBuffer :=
  okBuffer (streamOf 2 .raw16) (10 * frameNumber + 2)

/-- The jpeg buffer of a frame. -/
def jpegBuffer (frameNumber : Nat) : Camera3StreamBuffer :=
  okBuffer (streamOf 3 .blob) (10 * frameNumber + 3)

/-- The input buffer of a frame that is processed again. -/
def inputOf (frameNumber : Nat) : Camera3StreamBuffer :=
  okBuffer (streamOf 4 .ycbcr420888) (10 * frameNumber + 4)

/-- A request with settings of its own. -/
def captureOf (frameNumber : Nat) (inputBuffer : Option Camera3StreamBuffer)
    (outputs : List RequestOutput) : CaptureRequest where
  frameNumber := frameNumber
  settings := some { Settings.empty with requestId := some frameNumber }
  inputBuffer := inputBuffer
  outputs := outputs

/-- A live request for a preview frame. -/
def liveEvent (frameNumber : Nat) : TrackerEvent :=
  .processCaptureRequest quietEnv
    (captureOf frameNumber none [outputOf 0 (previewBuffer frameNumber)])

/-- A live request for a raw frame. -/
def rawEvent (frameNumber : Nat) : TrackerEvent :=
  .processCaptureRequest quietEnv (captureOf frameNumber none [outputOf 0 (rawBuffer frameNumber)])

/-- A reprocess request for a jpeg. -/
def reprocessEvent (frameNumber : Nat) : TrackerEvent :=
  .processCaptureRequest quietEnv (captureOf frameNumber (some (inputOf frameNumber))
      [outputOf 0 (jpegBuffer frameNumber)])

/-- An urgent metadata callback. -/
def urgentEvent (frameNumber : Nat) : TrackerEvent :=
  .metadata {
    metadataBuf := frameNumber
    entries := some {
      frameNumberValid := false
      frameNumber := 0
      urgentFrameNumberValid := true
      urgentFrameNumber := frameNumber
      captureTime := frameNumber
      droppedStreams := [] }
    freeAndBufdoneMetaBuf := true
    lastUrgentMetadataInBatch := true
    lastMetadataInBatch := true }

/-- A normal metadata callback. -/
def normalEvent (frameNumber : Nat) : TrackerEvent :=
  .metadata {
    metadataBuf := frameNumber
    entries := some {
      frameNumberValid := true
      frameNumber := frameNumber
      urgentFrameNumberValid := false
      urgentFrameNumber := 0
      captureTime := frameNumber
      droppedStreams := [] }
    freeAndBufdoneMetaBuf := true
    lastUrgentMetadataInBatch := true
    lastMetadataInBatch := true }

end AnglerHal.Hal3
