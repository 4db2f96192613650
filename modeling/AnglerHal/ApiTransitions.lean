import AnglerHal.ApiAnswers

namespace AnglerHal.ApiStates

/-!
# Where the open commands can be

A command is left open on the way into `PREPARE_SNAPSHOT` and
`PREVIEW_PIC_TAKING`, or inside the latter.  Only `PREP_SNAPSHOT_DONE` leads out
of the former.
-/

@[simp] theorem applyDelayedMsgs_state (sm : StateMachine) :
    (applyDelayedMsgs sm).1.state = sm.state := by
  simp only [applyDelayedMsgs]
  split
  · rfl
  · split <;> rfl

@[simp] theorem beginPreview_state (parent : Parent) (sm : StateMachine) :
    (beginPreview parent sm).1.state = sm.state := by
  simp only [beginPreview]
  split
  · rfl
  · split <;> simp

@[simp] theorem restartPreview_state (parent : Parent) (commit : List SmOutput)
    (sm : StateMachine) :
    (restartPreview parent commit sm).1.state = sm.state := by
  simp [restartPreview]

theorem restartPreview_rc (parent : Parent) (commit : List SmOutput) (sm : StateMachine) :
    (restartPreview parent commit sm).2.2 = 0 ↔ parent.does .preparePreview = true ∧
        parent.does .startPreview = true := by
  simp only [restartPreview, beginPreview]
  cases prepared : parent.does .preparePreview with
  | false => simpa [Parent.does] using prepared
  | true =>
    cases started : parent.does .startPreview with
    | false => simpa [Parent.does] using started
    | true => simp

/-- `PREVIEW_PIC_TAKING` is left with a command. -/
def leavesWithCommand (parent : Parent) : ApiEvt → Bool
  | .setParams =>
    parent.does .updateParameters && parent.needRestart &&
      !(parent.does .preparePreview && parent.does .startPreview)
  | .sendCommand => !parent.vanillaHal && parent.longshotOff
  | .cancelPicture => true
  | .stopPreview => true
  | .startRecording => !parent.isZSLMode && !parent.isLongshotEnabled && parent.does .startRecording
  | _ => false

section States

variable (parent : Parent) (sm : StateMachine)

/-- No command leads out of `PREPARE_SNAPSHOT`. -/
theorem prepareSnapshotApi_same (evt : ApiEvt) : (prepareSnapshotApi sm evt).1 = sm := by
  cases evt <;> rfl

/-- Only the snapshot state in the metadata leads out of it. -/
theorem prepareSnapshotInternal_state (evt : InternalEvt) :
    (prepareSnapshotInternal parent sm evt).1.state = if evt = .evtInternal .prepSnapshotDone then
        .previewing
      else
        sm.state := by
  rcases evt with type | died | _ | _ | _ | _
  case evtInternal => cases type <;> rfl
  all_goals rfl

/-- The commands that lead out of `PREVIEW_PIC_TAKING`. -/
theorem previewPicTakingApi_state (taking : sm.state = .previewPicTaking) (evt : ApiEvt) :
    ((previewPicTakingApi parent sm evt).1.state = .previewPicTaking ↔
        leavesWithCommand parent evt = false) ∧
      (previewPicTakingApi parent sm evt).1.state ≠ .prepareSnapshot := by
  cases evt
  case setParams =>
    have restarted := restartPreview_rc parent [.call .commitParameterChanges] sm
    cases updated : parent.does .updateParameters <;>
      cases restart : parent.needRestart <;>
      simp only [previewPicTakingApi, leavesWithCommand, updated, restart,
        taking, Bool.not_true, Bool.not_false, Bool.false_eq_true, if_true,
        if_false, Bool.false_and, Bool.true_and, Bool.and_false] <;>
      try simp
    by_cases begun : (restartPreview parent [.call .commitParameterChanges] sm).2.2 = 0
    · have done := restarted.mp begun
      simp [begun, done, taking]
    · simp only [begun, if_false]
      simpa using mt restarted.mpr begun
  case sendCommand =>
    cases vanilla : parent.vanillaHal <;> cases off : parent.longshotOff <;>
      simp [previewPicTakingApi, leavesWithCommand, vanilla, off, taking]
  case startRecording =>
    cases zsl : parent.isZSLMode <;>
      cases longshot : parent.isLongshotEnabled <;>
      cases started : parent.does .startRecording <;>
      simp [previewPicTakingApi, leavesWithCommand, zsl, longshot, started, taking]
  all_goals simp [previewPicTakingApi, leavesWithCommand, taking]

/-- Only `SNAPSHOT_DONE` leads out of it without a command. -/
theorem previewPicTakingInternal_state (evt : InternalEvt) :
    (previewPicTakingInternal parent sm evt).1.state =
      if evt = .snapshotDone then .previewing else sm.state := by
  rcases evt with type | died | _ | _ | _ | _
  case evtInternal => cases type <;> rfl
  all_goals rfl

/-- Where a command leads to from the state that is previewing. -/
theorem previewingApi_state (previews : sm.state = .previewing) (evt : ApiEvt) :
    ((previewingApi parent sm evt).1.state = .prepareSnapshot ↔ evt = .prepareSnapshot ∧
          defers parent .previewing .prepareSnapshot = true) ∧
      ((previewingApi parent sm evt).1.state ≠ .previewPicTaking →
        defers parent .previewing evt = true → evt = .prepareSnapshot) := by
  cases evt
  case prepareSnapshot =>
    cases done : parent.does .prepareHardwareForSnapshot <;>
      simp [previewingApi, defers, done, previews]
  case takePicture =>
    cases hint : parent.recordingHint <;>
      cases zsl : parent.isZSLMode <;>
      cases longshot : parent.isLongshotEnabled <;>
      cases taken : parent.does .takePicture <;>
      cases live : parent.does .takeLiveSnapshot <;>
      simp [previewingApi, takePicturePreviewing, defers, *]
  case setParams =>
    simp only [previewingApi]
    split
    · simp [defers, previews]
    · split
      · split <;> simp [defers, previews]
      · simp [defers, previews]
  case startRecording =>
    cases started : parent.does .startRecording <;>
      simp [previewingApi, defers, started, previews]
  case sendCommand =>
    simp only [previewingApi]
    split <;> simp [defers, previews]
  case enableMsgType =>
    simp only [previewingApi]
    split <;> simp [defers, previews]
  case disableMsgType =>
    simp only [previewingApi]
    split <;> simp [defers, previews]
  all_goals simp [previewingApi, defers, previews]

theorem previewStoppedApi_noPrepare (stopped : sm.state = .previewStopped) (evt : ApiEvt) :
    (previewStoppedApi parent sm evt).1.state ≠ .prepareSnapshot := by
  cases evt
  case startPreview =>
    simp only [previewStoppedApi]
    split
    · split <;> simp [stopped]
    · split <;> simp [stopped]
  case startNodisplayPreview =>
    simp only [previewStoppedApi]
    split <;> simp [stopped]
  all_goals simp [previewStoppedApi, stopped]

theorem previewReadyApi_noPrepare (ready : sm.state = .previewReady) (evt : ApiEvt) :
    (previewReadyApi parent sm evt).1.state ≠ .prepareSnapshot := by
  cases evt
  case setPreviewWindow =>
    simp only [previewReadyApi]
    split
    · simp [ready]
    · split <;> simp
  case setParams =>
    simp only [previewReadyApi]
    split
    · simp [ready]
    · split
      · split <;> simp [ready]
      · simp [ready]
  all_goals simp [previewReadyApi, ready]

theorem picTakingApi_noPrepare (taking : sm.state = .picTaking) (evt : ApiEvt) :
    (picTakingApi parent sm evt).1.state ≠ .prepareSnapshot := by
  cases evt
  case sendCommand =>
    simp only [picTakingApi]
    split <;> simp [taking]
  case stopCaptureChannel =>
    simp only [picTakingApi, stopCapture]
    split
    · simp [taking]
    · split <;> simp [taking]
  all_goals simp [picTakingApi, taking]

theorem recordingApi_noPrepare (recording : sm.state = .recording) (evt : ApiEvt) :
    (recordingApi parent sm evt).1.state ≠ .prepareSnapshot := by
  cases evt
  case takePicture =>
    simp only [recordingApi]
    split <;> simp
  all_goals simp [recordingApi, recording]

theorem videoPicTakingApi_noPrepare (taking : sm.state = .videoPicTaking) (evt : ApiEvt) :
    (videoPicTakingApi parent sm evt).1.state ≠ .prepareSnapshot := by
  cases evt <;> simp [videoPicTakingApi, taking]

/-- A command leads to `PREPARE_SNAPSHOT` only while previewing. -/
theorem stateMachineApi_noPrepare (notPreviewing : sm.state ≠ .previewing)
    (notPreparing : sm.state ≠ .prepareSnapshot) (evt : ApiEvt) :
    (stateMachineApi parent evt sm).1.state ≠ .prepareSnapshot := by
  cases current : sm.state <;> simp only [stateMachineApi, current]
  case previewStopped => exact previewStoppedApi_noPrepare parent sm current evt
  case previewReady => exact previewReadyApi_noPrepare parent sm current evt
  case previewing => exact absurd current notPreviewing
  case prepareSnapshot => exact absurd current notPreparing
  case picTaking => exact picTakingApi_noPrepare parent sm current evt
  case recording => exact recordingApi_noPrepare parent sm current evt
  case videoPicTaking => exact videoPicTakingApi_noPrepare parent sm current evt
  case previewPicTaking =>
    exact (previewPicTakingApi_state parent sm current evt).2

/-- No internal event leads to `PREPARE_SNAPSHOT`. -/
theorem stateMachineInternal_noPrepare (notPreparing : sm.state ≠ .prepareSnapshot)
    (evt : InternalEvt) :
    (stateMachineInternal parent evt sm).1.state ≠ .prepareSnapshot := by
  cases current : sm.state <;> simp only [stateMachineInternal, current]
  case previewStopped =>
    rcases evt with type | died | _ | _ | _ | _
    case evtInternal =>
      cases type <;> simp [previewStoppedInternal, current]
    all_goals simp [previewStoppedInternal, current]
  case previewReady =>
    rcases evt with type | died | _ | _ | _ | _
    case evtInternal =>
      cases type <;> simp [previewReadyInternal, current]
    all_goals simp [previewReadyInternal, current]
  case previewing =>
    rcases evt with type | died | _ | _ | _ | _
    case evtInternal =>
      cases type <;> simp [previewingInternal, current]
    all_goals simp [previewingInternal, current]
  case prepareSnapshot => exact absurd current notPreparing
  case picTaking =>
    rcases evt with type | died | _ | _ | _ | _
    case evtInternal =>
      cases type <;> simp [picTakingInternal, current]
    case snapshotDone =>
      simp only [picTakingInternal]
      split <;> simp
    all_goals simp [picTakingInternal, current]
  case recording =>
    rcases evt with type | died | _ | _ | _ | _
    all_goals simp [recordingInternal, current]
  case videoPicTaking =>
    rcases evt with type | died | _ | _ | _ | _
    all_goals simp [videoPicTakingInternal, current]
  case previewPicTaking =>
    rw [previewPicTakingInternal_state]
    split <;> simp [current]

end States

end AnglerHal.ApiStates
