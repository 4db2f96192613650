import AnglerHal.HalCommon
import Mathlib.Data.List.Basic

namespace AnglerHal.ApiStates

/-!
# Commands of the camera API

The state machine of the first HAL takes commands of the framework and
internal events one at a time.  It asks its parent, the hardware interface, to
do the work, and tells it the result of a command with `signalAPIResult`.

What the calls of the parent return, and what it is asked about its mode, comes
with each command.  Its calls are recorded in their order.  The return value of
the state functions, which nobody reads, is left out.
-/

/-! ## Events -/

/-- The API events of `qcamera_sm_evt_enum_t`, and `STOP_CAPTURE_CHANNEL`. -/
inductive ApiEvt where
  | setPreviewWindow
  | setCallbacks
  | enableMsgType
  | disableMsgType
  | msgTypeEnabled
  | setParams
  | getParams
  | putParams
  | startPreview
  | startNodisplayPreview
  | stopPreview
  | previewEnabled
  | storeMetadataInBufs
  | startRecording
  | stopRecording
  | recordingEnabled
  | releaseRecordingFrame
  | prepareSnapshot
  | takePicture
  | cancelPicture
  | startAutoFocus
  | stopAutoFocus
  | sendCommand
  | release
  | dump
  | regFaceImage
  | stopCaptureChannel
  deriving DecidableEq

/-- `qcamera_internal_evt_type_t`. -/
inductive InternalEvtType where
  | focusUpdate
  | prepSnapshotDone
  | faceDetectResult
  | histogramStats
  | cropInfo
  | asdUpdate
  | readyForSnapshot
  | ledModeOverride
  | awbUpdate
  | aeUpdate
  | focusPosUpdate
  | hdrUpdate
  | retroAecUnlock
  | zslCaptureDone
  deriving DecidableEq

/-- The other events; `evtNotify` says whether the daemon has died. -/
inductive InternalEvt where
  | evtInternal (type : InternalEvtType)
  | evtNotify (daemonDied : Bool)
  | jpegEvtNotify
  | snapshotDone
  | thermalNotify
  | restartPreview
  deriving DecidableEq

/-- `qcamera_sm_evt_enum_t`. -/
inductive Evt where
  | api (evt : ApiEvt)
  | internal (evt : InternalEvt)
  deriving DecidableEq

/-! ## The parent -/

/-- The calls of the hardware interface. -/
inductive ParentCall where
  | setPreviewWindow
  | setCallBacks
  | enableMsgType
  | disableMsgType
  | msgTypeEnabled
  | updateParameters
  | clearMemoryPool
  | commitParameterChanges
  | getParameters
  | putParameters
  | preparePreview
  | startPreview
  | unpreparePreview
  | stopPreview
  | release
  | storeMetaDataInBuffers
  | dump
  | sendCommand
  | autoFocus
  | cancelAutoFocus
  | registerFaceImage
  | startRecording
  | stopRecording
  | releaseRecordingFrame
  | prepareHardwareForSnapshot
  | takePicture
  | takeLiveSnapshot
  | longShot
  | cancelPicture
  | cancelLiveSnapshot
  | stopZslChannel
  | stopPreviewChannel
  | stopCaptureChannel
  | setPreviewStarted
  | updateThermalLevel
  | errorCloseCamera
  | sendEvtNotify
  | updateFlashMode
  | processAutoFocusEvent
  | processPrepSnapshotDoneEvent
  | processFaceDetectionResult
  | processHistogramStats
  | processZoomEvent
  | processASDUpdate
  | transAwbMetaToParams
  | processAEInfo
  | processFocusPositionInfo
  | processHDRData
  | processRetroAECUnlock
  | processZSLCaptureDone
  | processJpegNotify
  deriving DecidableEq

/-- `CAMERA_MSG_PREVIEW_FRAME`. -/
def cameraMsgPreviewFrame : BitVec 32 :=
  16

/--
What the state machine finds in the payload of a command, and what the parent
returns while the command is processed.  `longshotOn`, `longshotOff` and
`restartsPreview` are about the payload of `SEND_COMMAND`, and `vanillaHal`
about the build.
-/
structure Parent where
  msgs : BitVec 32
  longshotOn : Bool
  longshotOff : Bool
  restartsPreview : Bool
  vanillaHal : Bool
  rc : ParentCall → Int
  needRestart : Bool
  faceId : Int
  hasPreviewWindow : Bool
  isZSLMode : Bool
  isLongshotEnabled : Bool
  isRetroPicture : Bool
  recordingHint : Bool
  isPreviewRestartEnabled : Bool
  hasHandle : Bool

/-- A call succeeds. -/
def Parent.does (parent : Parent) (call : ParentCall) : Bool :=
  parent.rc call = 0

/-! ## Results -/

/-- `qcamera_api_result_type_t`. -/
inductive ResultType where
  | byDefault
  | enableFlag
  | params
  | handle
  deriving DecidableEq

/-- `qcamera_api_result_t`; the union is `value`. -/
structure ApiResult where
  status : Int
  requestApi : Evt
  resultType : ResultType
  value : Int
  deriving DecidableEq

/-- What the state machine does. -/
inductive SmOutput where
  | call (call : ParentCall)
  | signalAPIResult (result : ApiResult)
  | signalEvtResult (result : ApiResult)
  deriving DecidableEq

/-- A result without additional information. -/
def plainResult (evt : Evt) (status : Int) : ApiResult where
  status := status
  requestApi := evt
  resultType := .byDefault
  value := 0

/-- The answer to a command. -/
def answer (evt : ApiEvt) (status : Int) : SmOutput :=
  .signalAPIResult (plainResult (.api evt) status)

/-- A command that needs nothing to be done. -/
def accept (evt : ApiEvt) : List SmOutput :=
  [answer evt 0]

/-- A command that cannot be handled. -/
def refuse (evt : ApiEvt) : List SmOutput :=
  [answer evt invalidOperation]

/-- A question about a flag. -/
def answerFlag
    (evt : ApiEvt)
    (enabled : Int) : List SmOutput :=
  [.signalAPIResult
    { status := 0
      requestApi := .api evt
      resultType := .enableFlag
      value := enabled }]

/-- A command that is one call of the parent. -/
def ask (parent : Parent) (evt : ApiEvt) (call : ParentCall) : List SmOutput :=
  [.call call, answer evt (parent.rc call)]

/-! ## What most states have in common -/

/--
The commands that are passed on to the parent in every state but
`PREPARE_SNAPSHOT`; where a state does more, it has a case of its own.
-/
def passOn
    (parent : Parent) :
    ApiEvt → List SmOutput
  | .setCallbacks => ask parent .setCallbacks .setCallBacks
  | .enableMsgType => ask parent .enableMsgType .enableMsgType
  | .disableMsgType => ask parent .disableMsgType .disableMsgType
  | .msgTypeEnabled =>
    .call .msgTypeEnabled ::
      answerFlag .msgTypeEnabled (parent.rc .msgTypeEnabled)
  | .getParams =>
    [.call .getParameters, .signalAPIResult
      { status := 0
        requestApi := .api .getParams
        resultType := .params
        value := parent.rc .getParameters }]
  | .putParams => ask parent .putParams .putParameters
  | .storeMetadataInBufs =>
    ask parent .storeMetadataInBufs .storeMetaDataInBuffers
  | .dump => ask parent .dump .dump
  | .startAutoFocus => ask parent .startAutoFocus .autoFocus
  | .stopAutoFocus => ask parent .stopAutoFocus .cancelAutoFocus
  | .sendCommand => ask parent .sendCommand .sendCommand
  | .releaseRecordingFrame =>
    ask parent .releaseRecordingFrame .releaseRecordingFrame
  | .regFaceImage =>
    [.call .registerFaceImage, .signalAPIResult
      { status := parent.rc .registerFaceImage
        requestApi := .api .regFaceImage
        resultType := .handle
        value := parent.faceId }]
  | evt => refuse evt

/-- An internal event that is passed on to the parent. -/
def processInternal : InternalEvtType → List SmOutput
  | .focusUpdate => [.call .processAutoFocusEvent]
  | .prepSnapshotDone => []
  | .faceDetectResult => [.call .processFaceDetectionResult]
  | .histogramStats => [.call .processHistogramStats]
  | .cropInfo => [.call .processZoomEvent]
  | .asdUpdate => [.call .processASDUpdate]
  | .readyForSnapshot => []
  | .ledModeOverride => []
  | .awbUpdate => [.call .transAwbMetaToParams]
  | .aeUpdate => [.call .processAEInfo]
  | .focusPosUpdate => [.call .processFocusPositionInfo]
  | .hdrUpdate => [.call .processHDRData]
  | .retroAecUnlock => [.call .processRetroAECUnlock]
  | .zslCaptureDone => [.call .processZSLCaptureDone]

/-- The daemon has died: the backend is closed, and the framework told. -/
def daemonDied (parent : Parent) : List SmOutput :=
  if parent.hasHandle then
    [.call .errorCloseCamera, .call .sendEvtNotify]
  else
    [.call .sendEvtNotify]

/-- A notification of the server. -/
def evtNotify (parent : Parent) (died : Bool) : List SmOutput :=
  if died then daemonDied parent else []

/-- `SNAPSHOT_DONE` is told to the thread that waits for it. -/
def snapshotDone (status : Int) : SmOutput :=
  .signalEvtResult (plainResult (.internal .snapshotDone) status)

/-! ## The state machine -/

/-- `qcamera_state_enum_t`. -/
inductive SmState where
  | previewStopped
  | previewReady
  | previewing
  | prepareSnapshot
  | picTaking
  | recording
  | videoPicTaking
  | previewPicTaking
  deriving DecidableEq

/-- `m_state`, `m_bDelayPreviewMsgs` and `m_DelayedMsgs`. -/
structure StateMachine where
  state : SmState
  delayPreviewMsgs : Bool
  delayedMsgs : BitVec 32
  deriving DecidableEq

/-- The constructor. -/
def StateMachine.start : StateMachine where
  state := .previewStopped
  delayPreviewMsgs := false
  delayedMsgs := 0

/-- `applyDelayedMsgs`. -/
def applyDelayedMsgs (sm : StateMachine) : StateMachine × List SmOutput :=
  if sm.delayPreviewMsgs && sm.delayedMsgs ≠ 0 then
    ({ sm with delayPreviewMsgs := false, delayedMsgs := 0 }, [.call .enableMsgType])
  else if sm.delayPreviewMsgs then
    ({ sm with delayPreviewMsgs := false }, [])
  else
    (sm, [])

/-- The preview is prepared and started, and given up when it fails. -/
def beginPreview (parent : Parent) (sm : StateMachine) : StateMachine × List SmOutput × Int :=
  if !parent.does .preparePreview then
    (sm, [.call .preparePreview], parent.rc .preparePreview)
  else
    let applied := applyDelayedMsgs sm
    if !parent.does .startPreview then
      (applied.1, .call .preparePreview :: applied.2 ++
        [.call .startPreview, .call .unpreparePreview],
        parent.rc .startPreview)
    else
      (applied.1, .call .preparePreview :: applied.2 ++ [.call .startPreview], 0)

/-- The preview is stopped and started again; `commit` is done in between. -/
def restartPreview (parent : Parent) (commit : List SmOutput)
    (sm : StateMachine) : StateMachine × List SmOutput × Int :=
  let begun := beginPreview parent sm
  (begun.1, .call .stopPreview :: .call .clearMemoryPool :: commit ++ begun.2.1, begun.2.2)

/-- New parameters are committed to the server. -/
def commitParams (parent : Parent) : List SmOutput :=
  [.call .commitParameterChanges, answer .setParams (parent.rc .commitParameterChanges)]

/-- New parameters that are not accepted. -/
def rejectParams (parent : Parent) : List SmOutput :=
  [.call .updateParameters, answer .setParams (parent.rc .updateParameters)]

/-- `SET_PARAMS` while a restart of the preview is out of the question. -/
def setParamsRunning (parent : Parent) : List SmOutput :=
  if !parent.does .updateParameters then
    rejectParams parent
  else if parent.needRestart then
    [.call .updateParameters, answer .setParams badValue]
  else
    .call .updateParameters :: commitParams parent

end AnglerHal.ApiStates
