import AnglerHal.KeyedVector
import Mathlib.Order.Nat

namespace AnglerHal.Hal3

/-!
# Data of the capture request tracker

`QCamera3HardwareInterface` keeps the requests it has accepted in
`mPendingRequestsList`, their output buffers in `mPendingBuffersMap`, and
answers them through `notify` and `process_capture_result`.  This module holds
the types of that bookkeeping under their names in `QCamera3HWI.h`.

Pointers are numbers.  A stream carries what its channel answers about itself.
Result metadata is symbolic: it names the function of the source that builds it
and the values that function is given.  Counters of type `uint32_t` whose
wrap-around is visible are `UInt32`.
-/

/-- `PARTIAL_RESULT_COUNT`. -/
def partialResultCount : Nat :=
  3

/-- `UINT_MAX`. -/
def uintMax : Nat :=
  4294967295

/-- The increment of a `uint32_t`. -/
def uint32Succ (value : Nat) : Nat :=
  if value = uintMax then 0 else value + 1

/-- The pixel formats that the request path tells apart. -/
inductive PixelFormat where
  | blob
  | ycbcr420888
  | raw16
  | other
  deriving DecidableEq

/-- `camera3_stream_t` and its channel. -/
structure Camera3Stream where
  handle : Nat
  format : PixelFormat
  /-- `priv` is not `NULL`. -/
  configured : Bool
  /-- `channel->getStreamID(channel->getStreamTypeMask())`. -/
  streamID : Nat
  /-- The stream type mask is that of `CAM_STREAM_TYPE_VIDEO`. -/
  video : Bool
  deriving DecidableEq

/-- `camera3_buffer_status_t`. -/
inductive BufferStatus where
  | ok
  | error
  deriving DecidableEq

/-- `camera3_stream_buffer_t`; handle `0` is the null pointer. -/
structure Camera3StreamBuffer where
  stream : Camera3Stream
  buffer : Nat
  status : BufferStatus
  acquireFence : Int
  releaseFence : Int
  deriving DecidableEq

/-- The entries of request settings that the tracker reads, if present. -/
structure Settings where
  requestId : Option Int
  captureIntent : Option UInt8
  hybridAeEnable : Option UInt8
  sensorTimestamp : Option Int
  /-- The upper bound of `ANDROID_CONTROL_AE_TARGET_FPS_RANGE`. -/
  aeTargetMaxFps : Option Nat
  jpegThumbnailSize : Option (Int × Int)
  deriving DecidableEq

/-- Settings without entries, as a `CameraMetadata` starts. -/
def Settings.empty : Settings where
  requestId := none
  captureIntent := none
  hybridAeEnable := none
  sensorTimestamp := none
  aeTargetMaxFps := none
  jpegThumbnailSize := none

/-- The metadata of a capture result. -/
inductive ResultMetadata where
  /-- `translateCbUrgentMetadataToResultMetadata`. -/
  | urgent (lastUrgentMetadataInBatch : Bool)
  /-- `translateFromHalMetadata`. -/
  | fromHal (timestamp : Int) (requestId : Int) (jpegMetadata : Option (Int × Int))
      (pipelineDepth : UInt8)
      (captureIntent : UInt8)
      (hybridAeEnable : UInt8)
      (internalPproc : Bool)
      (needDynamicBlklvl : Bool)
      (lastMetadataInBatch : Bool)
  /-- The dummy metadata of a missed frame. -/
  | requestIdOnly (requestId : Int)
  /-- The settings of a reprocess request. -/
  | settings (settings : Settings)
  /-- Dynamic black level and frame number. -/
  | dynamicBlackLevel (frameNumber : Nat) (blackLevel : Nat)
  /-- Frame number only, for a deferred final result. -/
  | syncFrameNumber (frameNumber : Nat)
  deriving DecidableEq

/-- `camera3_capture_result_t`. -/
structure CaptureResult where
  frameNumber : Nat
  result : Option ResultMetadata
  outputBuffers : List Camera3StreamBuffer
  inputBuffer : Option Camera3StreamBuffer
  partialResult : Nat
  deriving DecidableEq

/-- `camera3_error_msg_code_t`, as far as the tracker sends it. -/
inductive ErrorCode where
  | request
  | result
  | buffer
  deriving DecidableEq

/-- `camera3_notify_msg_t`. -/
inductive NotifyMsg where
  | shutter (frameNumber : Nat) (timestamp : Int)
  | error (frameNumber : Nat) (errorCode : ErrorCode) (errorStream : Option Camera3Stream)
  deriving DecidableEq

/-- What the tracker does to the outside world, in call order. -/
inductive Output where
  | notify (msg : NotifyMsg)
  | processCaptureResult (result : CaptureResult)
  | metadataBufDone (metadataBuf : Nat)
  | queueReprocMetadata (metadataBuf : Nat) (stream : Camera3Stream)
  /-- A list iterator is read after its entry has been erased. -/
  | staleIterator (frameNumber : Nat)
  /-- `processCaptureRequest` returns. -/
  | requestStatus (frameNumber : Nat) (rc : Int)
  deriving DecidableEq

/-- `RequestedBufferInfo`. -/
structure RequestedBufferInfo where
  stream : Camera3Stream
  buffer : Option Camera3StreamBuffer
  needMetadata : Bool
  deriving DecidableEq

/-- `PendingRequestInfo`. -/
structure PendingRequestInfo where
  frameNumber : Nat
  numBuffers : Nat
  requestId : Int
  buffers : List RequestedBufferInfo
  blobRequest : Bool
  bUrgentReceived : Bool
  timestamp : Int
  inputBuffer : Option Camera3StreamBuffer
  settings : Option Settings
  jpegMetadata : Option (Int × Int)
  pipelineDepth : UInt8
  partialResultCnt : Nat
  captureIntent : UInt8
  shutterNotified : Bool
  hybridAeEnable : UInt8
  needDynamicBlklvl : Bool
  pendingExtraResult : Bool
  deriving DecidableEq

/-- A live request has no input buffer. -/
def PendingRequestInfo.isLive (request : PendingRequestInfo) : Bool :=
  request.inputBuffer.isNone

/-- `PendingFrameDropInfo`. -/
structure PendingFrameDropInfo where
  frameNumber : Nat
  streamID : Nat
  deriving DecidableEq

/-- `PendingBufferInfo`. -/
structure PendingBufferInfo where
  frameNumber : Nat
  stream : Camera3Stream
  buffer : Nat
  deriving DecidableEq

/-- `PendingBuffersMap`. -/
structure PendingBuffersMap where
  numBuffers : UInt32
  mPendingBufferList : List PendingBufferInfo
  lastFrameNumber : Nat
  deriving DecidableEq

/-- `PendingReprocessResult`. -/
structure PendingReprocessResult where
  notifyMsg : NotifyMsg
  buffer : Camera3StreamBuffer
  frameNumber : Nat
  deriving DecidableEq

/-- The members of `QCamera3HardwareInterface` that the tracker uses. -/
structure Tracker where
  mPendingRequestsList : List PendingRequestInfo
  mPendingBuffersMap : PendingBuffersMap
  mPendingReprocessResultList : List PendingReprocessResult
  mPendingFrameDropList : List PendingFrameDropInfo
  mPendingBatchMap : KeyedVector Nat Nat
  mPendingLiveRequest : UInt32
  mFirstRequest : Bool
  mFirstConfiguration : Bool
  mFlush : Bool
  mCurrentRequestId : Int
  mCurJpegMeta : Option (Int × Int)
  mCaptureIntent : UInt8
  mHybridAeEnable : UInt8
  mLastCustIntentFrmNum : Int
  mBatchSize : UInt8
  mToBeQueuedVidBufs : UInt8
  mFirstFrameNumberInBatch : Nat
  mHFRVideoFps : Nat
  mNeedSensorRestart : Bool
  /-- `mOpMode` is the constrained high speed mode. -/
  constrainedHighSpeed : Bool
  /-- The sensor reports optical black regions. -/
  opticalBlackRegion : Bool
  deriving DecidableEq

namespace Tracker

/-- Replace `mPendingRequestsList`. -/
def setRequests (tracker : Tracker) (requests : List PendingRequestInfo) : Tracker :=
  { tracker with mPendingRequestsList := requests }

@[simp]
theorem setRequests_mPendingRequestsList (tracker : Tracker) (requests : List PendingRequestInfo) :
    (tracker.setRequests requests).mPendingRequestsList = requests :=
  rfl

/-- Replace `mPendingBufferList` and its count. -/
def setBuffers (tracker : Tracker) (buffers : List PendingBufferInfo)
    (numBuffers : UInt32) : Tracker :=
  { tracker with
      mPendingBuffersMap := { tracker.mPendingBuffersMap with
        mPendingBufferList := buffers
        numBuffers := numBuffers } }

@[simp]
theorem setBuffers_mPendingRequestsList (tracker : Tracker) (buffers : List PendingBufferInfo)
    (numBuffers : UInt32) :
    (tracker.setBuffers buffers numBuffers).mPendingRequestsList =
      tracker.mPendingRequestsList :=
  rfl

end Tracker

end AnglerHal.Hal3
