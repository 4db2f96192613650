import AnglerHal.ApiMachine

namespace AnglerHal.ApiStates

/-!
# The answers of the state machine

A command is answered once, with its own event, unless the state ignores it or
leaves the answer to a later event.  An internal event releases the answers
that were left to it.
-/

/-! ## Answers among outputs -/

/-- The event that an output answers. -/
def SmOutput.answers? : SmOutput → Option Evt
  | .signalAPIResult result => some result.requestApi
  | _ => none

/-- The events that outputs answer, in their order. -/
def answers (outputs : List SmOutput) : List Evt :=
  outputs.filterMap SmOutput.answers?

@[simp] theorem answers_nil : answers [] = [] :=
  rfl

@[simp] theorem answers_call (call : ParentCall) (outputs : List SmOutput) :
    answers (.call call :: outputs) = answers outputs :=
  rfl

@[simp] theorem answers_signalEvtResult (result : ApiResult) (outputs : List SmOutput) :
    answers (.signalEvtResult result :: outputs) = answers outputs :=
  rfl

@[simp] theorem answers_signalAPIResult (result : ApiResult) (outputs : List SmOutput) :
    answers (.signalAPIResult result :: outputs) = result.requestApi :: answers outputs :=
  rfl

@[simp] theorem answers_answer (evt : ApiEvt) (status : Int) (outputs : List SmOutput) :
    answers (answer evt status :: outputs) = .api evt :: answers outputs :=
  rfl

@[simp] theorem answers_snapshotDone (status : Int) (outputs : List SmOutput) :
    answers (snapshotDone status :: outputs) = answers outputs :=
  rfl

@[simp] theorem answers_append (first second : List SmOutput) :
    answers (first ++ second) = answers first ++ answers second :=
  List.filterMap_append

@[simp] theorem answers_accept (evt : ApiEvt) : answers (accept evt) = [.api evt] :=
  rfl

@[simp] theorem answers_refuse (evt : ApiEvt) : answers (refuse evt) = [.api evt] :=
  rfl

@[simp] theorem answers_answerFlag (evt : ApiEvt) (enabled : Int) :
    answers (answerFlag evt enabled) = [.api evt] :=
  rfl

@[simp] theorem answers_ask (parent : Parent) (evt : ApiEvt) (call : ParentCall) :
    answers (ask parent evt call) = [.api evt] :=
  rfl

@[simp] theorem answers_passOn (parent : Parent) (evt : ApiEvt) :
    answers (passOn parent evt) = [.api evt] := by
  cases evt <;> rfl

@[simp] theorem answers_processInternal (type : InternalEvtType) :
    answers (processInternal type) = [] := by
  cases type <;> rfl

@[simp] theorem answers_daemonDied (parent : Parent) : answers (daemonDied parent) = [] := by
  simp only [daemonDied]
  split <;> rfl

@[simp] theorem answers_evtNotify (parent : Parent) (died : Bool) :
    answers (evtNotify parent died) = [] := by
  cases died <;> simp [evtNotify]

@[simp] theorem answers_applyDelayedMsgs (sm : StateMachine) :
    answers (applyDelayedMsgs sm).2 = [] := by
  simp only [applyDelayedMsgs]
  split
  · rfl
  · split <;> rfl

@[simp] theorem answers_beginPreview (parent : Parent) (sm : StateMachine) :
    answers (beginPreview parent sm).2.1 = [] := by
  simp only [beginPreview]
  split
  · rfl
  · split <;> simp

@[simp] theorem answers_restartPreview (parent : Parent) (commit : List SmOutput)
    (sm : StateMachine) :
    answers (restartPreview parent commit sm).2.1 = answers commit := by
  simp [restartPreview]

@[simp] theorem answers_commitParams (parent : Parent) :
    answers (commitParams parent) = [.api .setParams] :=
  rfl

@[simp] theorem answers_rejectParams (parent : Parent) :
    answers (rejectParams parent) = [.api .setParams] :=
  rfl

@[simp] theorem answers_setParamsRunning (parent : Parent) :
    answers (setParamsRunning parent) = [.api .setParams] := by
  simp only [setParamsRunning]
  split
  · rfl
  · split <;> rfl

/-! ## Which commands are answered -/

/-- A state has no case for a command. -/
def ignores (state : SmState) (evt : ApiEvt) : Bool :=
  match evt with
  | .stopCaptureChannel => state ≠ .picTaking
  | .regFaceImage => state = .prepareSnapshot
  | _ => false

/-- A command whose answer is left to a later event. -/
def defers (parent : Parent) : SmState → ApiEvt → Bool
  | .previewing, .prepareSnapshot => parent.does .prepareHardwareForSnapshot
  | .previewing, .takePicture =>
    !parent.recordingHint && (parent.isZSLMode || parent.isLongshotEnabled) &&
      parent.isRetroPicture && parent.does .takePicture
  | .previewPicTaking, .prepareSnapshot =>
    parent.isRetroPicture && parent.does .prepareHardwareForSnapshot
  | _, _ => false

/-- The answers that an internal event releases. -/
def released (parent : Parent) : SmState → InternalEvt → List Evt
  | .prepareSnapshot, .evtInternal .prepSnapshotDone => [.api .prepareSnapshot]
  | .picTaking, .evtNotify true => [.api .prepareSnapshot, .api .takePicture]
  | .previewPicTaking, .evtInternal .prepSnapshotDone =>
    if parent.isRetroPicture then [.api .prepareSnapshot] else []
  | .previewPicTaking, .evtInternal .readyForSnapshot =>
    if parent.isRetroPicture then [.api .takePicture] else []
  | .previewPicTaking, .snapshotDone =>
    if parent.isRetroPicture then [.internal .snapshotDone] else []
  | _, _ => []

/-- The answers to a command. -/
def answered (parent : Parent) (state : SmState) (evt : ApiEvt) : List Evt :=
  if ignores state evt || defers parent state evt then [] else [.api evt]

section States

variable (parent : Parent) (sm : StateMachine)

theorem previewStoppedApi_answers (evt : ApiEvt) : answers (previewStoppedApi parent sm evt).2 =
      answered parent .previewStopped evt := by
  cases evt <;> simp [previewStoppedApi, answered, ignores, defers]
  case setParams =>
    cases parent.needRestart <;> cases parent.does .updateParameters <;> rfl
  case startPreview =>
    cases parent.hasPreviewWindow <;> simp

theorem previewReadyApi_answers (evt : ApiEvt) : answers (previewReadyApi parent sm evt).2 =
      answered parent .previewReady evt := by
  cases evt <;> simp [previewReadyApi, answered, ignores, defers]
  case setPreviewWindow =>
    cases parent.hasPreviewWindow <;> cases parent.does .startPreview <;> simp
  case setParams =>
    cases parent.does .updateParameters <;> cases parent.needRestart <;> simp

theorem takePicturePreviewing_answers : answers (takePicturePreviewing parent sm).2 =
      answered parent .previewing .takePicture := by
  cases hint : parent.recordingHint <;>
    cases zsl : parent.isZSLMode <;>
    cases longshot : parent.isLongshotEnabled <;>
    cases retro : parent.isRetroPicture <;>
    cases taken : parent.does .takePicture <;>
    simp [takePicturePreviewing, answered, ignores, defers, *]

theorem previewingApi_answers (evt : ApiEvt) : answers (previewingApi parent sm evt).2 =
      answered parent .previewing evt := by
  cases evt
  case takePicture =>
    exact takePicturePreviewing_answers parent sm
  case prepareSnapshot =>
    cases done : parent.does .prepareHardwareForSnapshot <;>
      simp [previewingApi, answered, ignores, defers, done]
  case setParams =>
    cases updated : parent.does .updateParameters <;>
      cases restart : parent.needRestart <;>
      simp [previewingApi, answered, ignores, defers, updated, restart]
  case startRecording =>
    cases started : parent.does .startRecording <;>
      simp [previewingApi, answered, ignores, defers, started]
  case sendCommand =>
    simp only [previewingApi]
    split <;> simp [answered, ignores, defers]
  all_goals simp [previewingApi, answered, ignores, defers]

theorem prepareSnapshotApi_answers (evt : ApiEvt) : answers (prepareSnapshotApi sm evt).2 =
      answered parent .prepareSnapshot evt := by
  cases evt <;> rfl

theorem stopCapture_answers : answers (stopCapture parent sm).2 = [.api .stopCaptureChannel] := by
  simp only [stopCapture]
  split
  · rfl
  · split
    · rfl
    · simp

theorem picTakingApi_answers (evt : ApiEvt) : answers (picTakingApi parent sm evt).2 =
      answered parent .picTaking evt := by
  cases evt
  case setParams =>
    cases updated : parent.does .updateParameters <;>
      simp [picTakingApi, answered, ignores, defers, updated]
  case takePicture =>
    cases longshot : parent.isLongshotEnabled <;>
      simp [picTakingApi, answered, ignores, defers, longshot]
  case stopCaptureChannel =>
    exact stopCapture_answers parent sm
  all_goals simp [picTakingApi, answered, ignores, defers]

theorem recordingApi_answers (evt : ApiEvt) : answers (recordingApi parent sm evt).2 =
      answered parent .recording evt := by
  cases evt <;> simp [recordingApi, answered, ignores, defers]

theorem videoPicTakingApi_answers (evt : ApiEvt) : answers (videoPicTakingApi parent sm evt).2 =
      answered parent .videoPicTaking evt := by
  cases evt <;> simp [videoPicTakingApi, answered, ignores, defers]

theorem previewPicTakingApi_answers (evt : ApiEvt) : answers (previewPicTakingApi parent sm evt).2 =
      answered parent .previewPicTaking evt := by
  cases evt
  case setParams =>
    cases updated : parent.does .updateParameters <;>
      cases restart : parent.needRestart <;>
      simp [previewPicTakingApi, answered, ignores, defers, updated, restart]
  case stopPreview =>
    cases zsl : parent.isZSLMode <;>
      cases longshot : parent.isLongshotEnabled <;>
      simp [previewPicTakingApi, answered, ignores, defers, zsl, longshot]
  case startRecording =>
    simp only [previewPicTakingApi]
    split <;> simp [answered, ignores, defers]
  case takePicture =>
    cases longshot : parent.isLongshotEnabled <;>
      simp [previewPicTakingApi, answered, ignores, defers, longshot]
  case prepareSnapshot =>
    cases retro : parent.isRetroPicture <;>
      cases done : parent.does .prepareHardwareForSnapshot <;>
      simp [previewPicTakingApi, answered, ignores, defers, retro, done]
  all_goals simp [previewPicTakingApi, answered, ignores, defers]

/-- A command is answered once, unless it is ignored or left open. -/
theorem stateMachineApi_answers (evt : ApiEvt) : answers (stateMachineApi parent evt sm).2 =
      answered parent sm.state evt := by
  cases current : sm.state <;> simp only [stateMachineApi, current]
  case previewStopped => exact previewStoppedApi_answers parent sm evt
  case previewReady => exact previewReadyApi_answers parent sm evt
  case previewing => exact previewingApi_answers parent sm evt
  case prepareSnapshot => exact prepareSnapshotApi_answers parent sm evt
  case picTaking => exact picTakingApi_answers parent sm evt
  case recording => exact recordingApi_answers parent sm evt
  case videoPicTaking => exact videoPicTakingApi_answers parent sm evt
  case previewPicTaking => exact previewPicTakingApi_answers parent sm evt

/-- An internal event answers what it releases. -/
theorem stateMachineInternal_answers (evt : InternalEvt) :
    answers (stateMachineInternal parent evt sm).2 = released parent sm.state evt := by
  cases current : sm.state <;> simp only [stateMachineInternal, current]
  case previewStopped =>
    rcases evt with type | died | _ | _ | _ | _
    case evtInternal => cases type <;> rfl
    all_goals simp [previewStoppedInternal, released]
  case previewReady =>
    rcases evt with type | died | _ | _ | _ | _
    case evtInternal => cases type <;> rfl
    all_goals simp [previewReadyInternal, released]
  case previewing =>
    rcases evt with type | died | _ | _ | _ | _
    case evtInternal => cases type <;> rfl
    all_goals simp [previewingInternal, released]
  case prepareSnapshot =>
    rcases evt with type | died | _ | _ | _ | _
    case evtInternal => cases type <;> rfl
    all_goals simp [prepareSnapshotInternal, released]
  case picTaking =>
    rcases evt with type | died | _ | _ | _ | _
    case evtInternal => cases type <;> rfl
    case evtNotify => cases died <;> simp [picTakingInternal, released]
    all_goals simp [picTakingInternal, released]
  case recording =>
    rcases evt with type | died | _ | _ | _ | _
    all_goals simp [recordingInternal, released]
  case videoPicTaking =>
    rcases evt with type | died | _ | _ | _ | _
    all_goals simp [videoPicTakingInternal, released]
  case previewPicTaking =>
    cases retro : parent.isRetroPicture <;>
    · rcases evt with type | died | _ | _ | _ | _
      case evtInternal =>
        cases type <;> simp [previewPicTakingInternal, released, retro]
      all_goals simp [previewPicTakingInternal, released, retro, plainResult]

end States

end AnglerHal.ApiStates
