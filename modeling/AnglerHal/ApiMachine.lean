import AnglerHal.ApiCommands

namespace AnglerHal.ApiStates

/-!
# The eight states

One function for each state of `QCameraStateMachine`, with the cases in the
order of the events.
-/

/-- `procEvtPreviewStoppedState`, for a command. -/
def previewStoppedApi (parent : Parent) (sm : StateMachine) : ApiEvt → StateMachine × List SmOutput
  | .setPreviewWindow => (sm, ask parent .setPreviewWindow .setPreviewWindow)
  | .setParams =>
    (sm, .call .updateParameters :: (if parent.needRestart then [.call .clearMemoryPool] else []) ++
      (if parent.does .updateParameters then
        commitParams parent
      else
        [answer .setParams (parent.rc .updateParameters)]))
  | .startPreview =>
    if !parent.hasPreviewWindow then
      (if parent.does .preparePreview then
        { sm with state := .previewReady }
      else
        sm, ask parent .startPreview .preparePreview)
    else
      let begun := beginPreview parent sm
      (if begun.2.2 = 0 then
        { begun.1 with state := .previewing }
      else
        begun.1, begun.2.1 ++ [answer .startPreview begun.2.2])
  | .startNodisplayPreview =>
    let begun := beginPreview parent sm
    (if begun.2.2 = 0 then
      { begun.1 with state := .previewing }
    else
      begun.1, begun.2.1 ++ [answer .startNodisplayPreview begun.2.2])
  | .stopPreview => (sm, accept .stopPreview)
  | .previewEnabled => (sm, answerFlag .previewEnabled 0)
  | .recordingEnabled => (sm, answerFlag .recordingEnabled 0)
  | .release => (sm, ask parent .release .release)
  | .startRecording => (sm, refuse .startRecording)
  | .stopRecording => (sm, refuse .stopRecording)
  | .releaseRecordingFrame => (sm, refuse .releaseRecordingFrame)
  | .prepareSnapshot => (sm, refuse .prepareSnapshot)
  | .takePicture => (sm, refuse .takePicture)
  | .startAutoFocus => (sm, accept .startAutoFocus)
  | .cancelPicture => (sm, accept .cancelPicture)
  | .stopCaptureChannel => (sm, [])
  | evt => (sm, passOn parent evt)

/-- `procEvtPreviewStoppedState`, for an internal event. -/
def previewStoppedInternal (parent : Parent) (sm : StateMachine) :
    InternalEvt → StateMachine × List SmOutput
  | .evtInternal .ledModeOverride => (sm, [.call .updateFlashMode])
  | .evtInternal _ => (sm, [])
  | .evtNotify died => (sm, evtNotify parent died)
  | .jpegEvtNotify => (sm, [])
  | .snapshotDone => (sm, [snapshotDone 0])
  | .thermalNotify => (sm, [.call .updateThermalLevel])
  | .restartPreview => (sm, [])

/-- `procEvtPreviewReadyState`, for a command. -/
def previewReadyApi (parent : Parent) (sm : StateMachine) : ApiEvt → StateMachine × List SmOutput
  | .setPreviewWindow =>
    if !parent.hasPreviewWindow then
      (sm, [.call .setPreviewWindow, answer .setPreviewWindow 0])
    else
      let applied := applyDelayedMsgs sm
      if !parent.does .startPreview then
        ({ applied.1 with state := .previewStopped }, .call .setPreviewWindow :: applied.2 ++
            [.call .startPreview, .call .unpreparePreview,
              answer .setPreviewWindow (parent.rc .startPreview)])
      else
        ({ applied.1 with state := .previewing }, .call .setPreviewWindow :: applied.2 ++
            [.call .startPreview, answer .setPreviewWindow 0])
  | .setParams =>
    if !parent.does .updateParameters then
      (sm, rejectParams parent)
    else if parent.needRestart then
      (if parent.does .preparePreview then
        sm
      else
        { sm with state := .previewStopped },
        [.call .updateParameters, .call .unpreparePreview,
          .call .clearMemoryPool, .call .commitParameterChanges,
          .call .preparePreview,
          answer .setParams (parent.rc .preparePreview)])
    else
      (sm, .call .updateParameters :: commitParams parent)
  | .startPreview => (sm, accept .startPreview)
  | .stopPreview =>
    ({ sm with state := .previewStopped }, [.call .unpreparePreview, answer .stopPreview 0])
  | .previewEnabled => (sm, answerFlag .previewEnabled 1)
  | .recordingEnabled => (sm, answerFlag .recordingEnabled 0)
  | .startNodisplayPreview => (sm, refuse .startNodisplayPreview)
  | .startRecording => (sm, refuse .startRecording)
  | .stopRecording => (sm, refuse .stopRecording)
  | .prepareSnapshot => (sm, refuse .prepareSnapshot)
  | .takePicture => (sm, refuse .takePicture)
  | .cancelPicture => (sm, refuse .cancelPicture)
  | .releaseRecordingFrame => (sm, refuse .releaseRecordingFrame)
  | .release => (sm, refuse .release)
  | .stopCaptureChannel => (sm, [])
  | evt => (sm, passOn parent evt)

/-- `procEvtPreviewReadyState`, for an internal event. -/
def previewReadyInternal (parent : Parent) (sm : StateMachine) :
    InternalEvt → StateMachine × List SmOutput
  | .evtInternal .ledModeOverride => (sm, [.call .updateFlashMode])
  | .evtInternal _ => (sm, [])
  | .evtNotify died => (sm, evtNotify parent died)
  | .jpegEvtNotify => (sm, [])
  | .snapshotDone => (sm, [snapshotDone 0])
  | .thermalNotify => (sm, [])
  | .restartPreview => (sm, [])

/-- `TAKE_PICTURE` while previewing. -/
def takePicturePreviewing (parent : Parent) (sm : StateMachine) : StateMachine × List SmOutput :=
  if !parent.recordingHint then
    if parent.isZSLMode || parent.isLongshotEnabled then
      let taken := { sm with
          delayPreviewMsgs := true
          state :=
            if parent.does .takePicture then
              .previewPicTaking
            else
              .previewing }
      (taken, .call .takePicture :: (if !parent.isRetroPicture || !parent.does .takePicture then
          [answer .takePicture (parent.rc .takePicture)]
        else
          []))
    else
      ({ sm with
          state :=
            if parent.does .takePicture then
              .picTaking
            else
              .previewStopped },
        ask parent .takePicture .takePicture)
  else
    ({ sm with
        state :=
          if parent.does .takeLiveSnapshot then
            .previewPicTaking
          else
            .previewing },
      ask parent .takePicture .takeLiveSnapshot)

/-- `procEvtPreviewingState`, for a command. -/
def previewingApi (parent : Parent) (sm : StateMachine) : ApiEvt → StateMachine × List SmOutput
  | .setPreviewWindow => (sm, refuse .setPreviewWindow)
  | .enableMsgType =>
    (if sm.delayPreviewMsgs && parent.msgs &&& cameraMsgPreviewFrame ≠ 0 then
      { sm with delayedMsgs := cameraMsgPreviewFrame }
    else
      sm, passOn parent .enableMsgType)
  | .disableMsgType =>
    (if sm.delayPreviewMsgs && sm.delayedMsgs ≠ 0 then
      let left := sm.delayedMsgs &&& ~~~parent.msgs
      { sm with
        delayedMsgs := left
        delayPreviewMsgs := left ≠ 0 }
    else
      sm, passOn parent .disableMsgType)
  | .msgTypeEnabled =>
    (sm, .call .msgTypeEnabled :: answerFlag .msgTypeEnabled
      (if sm.delayPreviewMsgs && sm.delayedMsgs ≠ 0 then
        (BitVec.ofInt 32 (parent.rc .msgTypeEnabled) ||| (parent.msgs &&& sm.delayedMsgs)).toInt
      else
        parent.rc .msgTypeEnabled))
  | .setParams =>
    if !parent.does .updateParameters then
      (sm, rejectParams parent)
    else if parent.needRestart then
      let begun := restartPreview parent [.call .commitParameterChanges] sm
      (if begun.2.2 = 0 then
        begun.1
      else
        { begun.1 with state := .previewStopped },
        .call .updateParameters :: begun.2.1 ++ [answer .setParams begun.2.2])
    else
      (sm, .call .updateParameters :: commitParams parent)
  | .startPreview =>
    let applied := applyDelayedMsgs sm
    (applied.1, applied.2 ++ accept .startPreview)
  | .startNodisplayPreview =>
    let applied := applyDelayedMsgs sm
    (applied.1, applied.2 ++ accept .startNodisplayPreview)
  | .stopPreview =>
    let applied := applyDelayedMsgs sm
    ({ applied.1 with state := .previewStopped }, .call .stopPreview :: applied.2 ++
        [answer .stopPreview (parent.rc .stopPreview)])
  | .previewEnabled =>
    let applied := applyDelayedMsgs sm
    (applied.1, applied.2 ++ answerFlag .previewEnabled 1)
  | .recordingEnabled => (sm, answerFlag .recordingEnabled 0)
  | .startRecording =>
    if parent.does .startRecording then
      let applied := applyDelayedMsgs { sm with state := .recording }
      (applied.1, .call .startRecording :: applied.2 ++ [answer .startRecording 0])
    else
      (sm, ask parent .startRecording .startRecording)
  | .prepareSnapshot =>
    if parent.does .prepareHardwareForSnapshot then
      let applied := applyDelayedMsgs { sm with state := .prepareSnapshot }
      -- the answer waits for the snapshot state in the metadata
      (applied.1, .call .prepareHardwareForSnapshot :: applied.2)
    else
      (sm, ask parent .prepareSnapshot .prepareHardwareForSnapshot)
  | .takePicture => takePicturePreviewing parent sm
  | .sendCommand =>
    if !parent.vanillaHal && parent.longshotOn && parent.restartsPreview then
      let begun := restartPreview parent [] sm
      (begun.1, .call .sendCommand :: begun.2.1 ++ [answer .sendCommand begun.2.2])
    else
      (sm, passOn parent .sendCommand)
  | .cancelPicture => (sm, refuse .cancelPicture)
  | .stopRecording => (sm, refuse .stopRecording)
  | .releaseRecordingFrame => (sm, refuse .releaseRecordingFrame)
  | .release => (sm, refuse .release)
  | .stopCaptureChannel => (sm, [])
  | evt => (sm, passOn parent evt)

/-- `procEvtPreviewingState`, for an internal event. -/
def previewingInternal (parent : Parent) (sm : StateMachine) :
    InternalEvt → StateMachine × List SmOutput
  | .evtInternal .ledModeOverride => (sm, [.call .updateFlashMode])
  | .evtInternal type => (sm, processInternal type)
  | .evtNotify died => (sm, evtNotify parent died)
  | .jpegEvtNotify => (sm, [])
  | .snapshotDone => (sm, [snapshotDone 0])
  | .thermalNotify => (sm, [.call .updateThermalLevel])
  | .restartPreview => (sm, [])

/-- `procEvtPrepareSnapshotState`, for a command. -/
def prepareSnapshotApi (sm : StateMachine) : ApiEvt → StateMachine × List SmOutput
  | .regFaceImage => (sm, [])
  | .stopCaptureChannel => (sm, [])
  | evt => (sm, refuse evt)

/-- `procEvtPrepareSnapshotState`, for an internal event. -/
def prepareSnapshotInternal (parent : Parent) (sm : StateMachine) :
    InternalEvt → StateMachine × List SmOutput
  | .evtInternal .prepSnapshotDone =>
    ({ sm with state := .previewing },
      [.call .processPrepSnapshotDoneEvent, answer .prepareSnapshot 0])
  | .evtInternal type => (sm, processInternal type)
  | .evtNotify died => (sm, evtNotify parent died)
  | .jpegEvtNotify => (sm, [])
  | .snapshotDone => (sm, [snapshotDone 0])
  | .thermalNotify => (sm, [.call .updateThermalLevel])
  | .restartPreview => (sm, [])

/-- `STOP_CAPTURE_CHANNEL` while a picture is taken. -/
def stopCapture (parent : Parent) (sm : StateMachine) : StateMachine × List SmOutput :=
  if !(parent.isPreviewRestartEnabled && parent.does .stopCaptureChannel) then
    (sm, ask parent .stopCaptureChannel .stopCaptureChannel)
  else if !parent.does .preparePreview then
    (sm, [.call .stopCaptureChannel, .call .preparePreview,
      answer .stopCaptureChannel (parent.rc .preparePreview)])
  else
    let applied := applyDelayedMsgs sm
    (applied.1, [.call .stopCaptureChannel, .call .preparePreview, .call .setPreviewStarted] ++
        applied.2 ++
        [.call .startPreview, answer .stopCaptureChannel (parent.rc .startPreview)])

/-- `procEvtPicTakingState`, for a command. -/
def picTakingApi (parent : Parent) (sm : StateMachine) : ApiEvt → StateMachine × List SmOutput
  | .setPreviewWindow => (sm, refuse .setPreviewWindow)
  | .setParams =>
    (sm, if parent.does .updateParameters then
      .call .updateParameters :: commitParams parent
    else
      rejectParams parent)
  | .stopPreview => ({ sm with state := .previewStopped }, ask parent .stopPreview .cancelPicture)
  | .previewEnabled => (sm, answerFlag .previewEnabled 0)
  | .recordingEnabled => (sm, answerFlag .recordingEnabled 0)
  | .sendCommand =>
    (if !parent.vanillaHal && parent.longshotOff then
      { sm with state := .previewing }
    else
      sm, passOn parent .sendCommand)
  | .cancelPicture =>
    ({ sm with state := .previewStopped }, ask parent .cancelPicture .cancelPicture)
  | .takePicture =>
    (sm, if parent.isLongshotEnabled then
      ask parent .takePicture .longShot
    else
      refuse .takePicture)
  | .prepareSnapshot => (sm, refuse .prepareSnapshot)
  | .startRecording => (sm, refuse .startRecording)
  | .stopRecording => (sm, refuse .stopRecording)
  | .releaseRecordingFrame => (sm, refuse .releaseRecordingFrame)
  | .startPreview => (sm, refuse .startPreview)
  | .startNodisplayPreview => (sm, refuse .startNodisplayPreview)
  | .release => (sm, refuse .release)
  | .stopCaptureChannel => stopCapture parent sm
  | evt => (sm, passOn parent evt)

/-- `procEvtPicTakingState`, for an internal event. -/
def picTakingInternal (parent : Parent) (sm : StateMachine) :
    InternalEvt → StateMachine × List SmOutput
  | .evtInternal .faceDetectResult => (sm, [])
  | .evtInternal .histogramStats => (sm, [])
  | .evtInternal type => (sm, processInternal type)
  | .evtNotify died =>
    -- two answers for threads that may be waiting for a picture
    (sm, if died then
      answer .prepareSnapshot 0 :: answer .takePicture 0 :: daemonDied parent
    else
      [])
  | .jpegEvtNotify => (sm, [.call .processJpegNotify])
  | .snapshotDone =>
    ({ sm with
        state :=
          if parent.isPreviewRestartEnabled then
            .previewing
          else
            .previewStopped },
      [.call .cancelPicture, snapshotDone (parent.rc .cancelPicture)])
  | .thermalNotify => (sm, [.call .updateThermalLevel])
  | .restartPreview => (sm, [])

/-- `procEvtRecordingState`, for a command. -/
def recordingApi (parent : Parent) (sm : StateMachine) : ApiEvt → StateMachine × List SmOutput
  | .startPreview => (sm, accept .startPreview)
  | .setPreviewWindow => (sm, accept .setPreviewWindow)
  | .setParams => (sm, setParamsRunning parent)
  | .previewEnabled => (sm, answerFlag .previewEnabled 0)
  | .recordingEnabled => (sm, answerFlag .recordingEnabled 1)
  | .takePicture =>
    ({ sm with
        state :=
          if parent.does .takeLiveSnapshot then
            .videoPicTaking
          else
            .recording },
      ask parent .takePicture .takeLiveSnapshot)
  | .startRecording => (sm, accept .startRecording)
  | .stopRecording => ({ sm with state := .previewing }, ask parent .stopRecording .stopRecording)
  | .stopPreview =>
    ({ sm with state := .previewStopped },
      .call .stopRecording :: ask parent .stopPreview .stopPreview)
  | .prepareSnapshot => (sm, accept .prepareSnapshot)
  | .cancelPicture => (sm, refuse .cancelPicture)
  | .startNodisplayPreview => (sm, refuse .startNodisplayPreview)
  | .release => (sm, refuse .release)
  | .stopCaptureChannel => (sm, [])
  | evt => (sm, passOn parent evt)

/-- `procEvtRecordingState`, for an internal event. -/
def recordingInternal (parent : Parent) (sm : StateMachine) :
    InternalEvt → StateMachine × List SmOutput
  | .evtInternal type => (sm, processInternal type)
  | .evtNotify died => (sm, evtNotify parent died)
  | .jpegEvtNotify => (sm, [])
  | .snapshotDone => (sm, [snapshotDone 0])
  | .thermalNotify => (sm, [.call .updateThermalLevel])
  | .restartPreview => (sm, [])

/-- `procEvtVideoPicTakingState`, for a command. -/
def videoPicTakingApi (parent : Parent) (sm : StateMachine) : ApiEvt → StateMachine × List SmOutput
  | .setPreviewWindow => (sm, refuse .setPreviewWindow)
  | .setParams => (sm, setParamsRunning parent)
  | .previewEnabled => (sm, answerFlag .previewEnabled 1)
  | .recordingEnabled => (sm, answerFlag .recordingEnabled 1)
  | .stopRecording =>
    ({ sm with state := .previewing }, .call .cancelLiveSnapshot ::
        ask parent .stopRecording .stopRecording)
  | .cancelPicture =>
    ({ sm with state := .recording }, ask parent .cancelPicture .cancelLiveSnapshot)
  | .stopPreview =>
    ({ sm with state := .previewStopped }, .call .cancelLiveSnapshot :: .call .stopRecording ::
        ask parent .stopPreview .stopPreview)
  | .startRecording => (sm, refuse .startRecording)
  | .startPreview => (sm, refuse .startPreview)
  | .startNodisplayPreview => (sm, refuse .startNodisplayPreview)
  | .prepareSnapshot => (sm, refuse .prepareSnapshot)
  | .takePicture => (sm, refuse .takePicture)
  | .release => (sm, refuse .release)
  | .stopCaptureChannel => (sm, [])
  | evt => (sm, passOn parent evt)

/-- `procEvtVideoPicTakingState`, for an internal event. -/
def videoPicTakingInternal (parent : Parent) (sm : StateMachine) :
    InternalEvt → StateMachine × List SmOutput
  | .evtInternal type => (sm, processInternal type)
  | .evtNotify died => (sm, evtNotify parent died)
  | .jpegEvtNotify => (sm, [.call .processJpegNotify])
  | .snapshotDone =>
    ({ sm with state := .recording }, [.call .cancelLiveSnapshot,
        snapshotDone (parent.rc .cancelLiveSnapshot)])
  | .thermalNotify => (sm, [.call .updateThermalLevel])
  | .restartPreview => (sm, [])

/-- The call that cancels a picture while previewing. -/
def Parent.cancels (parent : Parent) : ParentCall :=
  if parent.isZSLMode || parent.isLongshotEnabled then
    .cancelPicture
  else
    .cancelLiveSnapshot

/-- `procEvtPreviewPicTakingState`, for a command. -/
def previewPicTakingApi (parent : Parent) (sm : StateMachine) :
    ApiEvt → StateMachine × List SmOutput
  | .setParams =>
    if !parent.does .updateParameters then
      (sm, rejectParams parent)
    else if parent.needRestart then
      let begun := restartPreview parent [.call .commitParameterChanges] sm
      (if begun.2.2 = 0 then
        begun.1
      else
        { begun.1 with state := .picTaking },
        .call .updateParameters :: begun.2.1 ++ [answer .setParams begun.2.2])
    else
      (sm, .call .updateParameters :: commitParams parent)
  | .previewEnabled => (sm, answerFlag .previewEnabled 1)
  | .recordingEnabled => (sm, answerFlag .recordingEnabled 0)
  | .sendCommand =>
    (if !parent.vanillaHal && parent.longshotOff then
      { sm with state := .previewing }
    else
      sm, passOn parent .sendCommand)
  | .cancelPicture => ({ sm with state := .previewing }, ask parent .cancelPicture parent.cancels)
  | .stopPreview =>
    ({ sm with state := .previewStopped }, .call parent.cancels :: (if parent.isZSLMode then
          [.call .stopZslChannel]
        else if parent.isLongshotEnabled then
          []
        else
          [.call .stopPreviewChannel]) ++
        [.call .unpreparePreview, answer .stopPreview (parent.rc parent.cancels)])
  | .startRecording =>
    if parent.isZSLMode || parent.isLongshotEnabled then
      (sm, refuse .startRecording)
    else
      (if parent.does .startRecording then
        { sm with state := .videoPicTaking }
      else
        sm, ask parent .startRecording .startRecording)
  | .takePicture =>
    (sm, if parent.isLongshotEnabled then
      ask parent .takePicture .longShot
    else
      refuse .takePicture)
  | .prepareSnapshot =>
    (sm, if parent.isRetroPicture then
      -- the answer waits for the snapshot state in the metadata
      if parent.does .prepareHardwareForSnapshot then
        [.call .prepareHardwareForSnapshot]
      else
        ask parent .prepareSnapshot .prepareHardwareForSnapshot
    else
      refuse .prepareSnapshot)
  | .stopRecording => (sm, refuse .stopRecording)
  | .startPreview => (sm, refuse .startPreview)
  | .startNodisplayPreview => (sm, refuse .startNodisplayPreview)
  | .setPreviewWindow => (sm, refuse .setPreviewWindow)
  | .release => (sm, refuse .release)
  | .stopCaptureChannel => (sm, [])
  | evt => (sm, passOn parent evt)

/-- `procEvtPreviewPicTakingState`, for an internal event. -/
def previewPicTakingInternal (parent : Parent) (sm : StateMachine) :
    InternalEvt → StateMachine × List SmOutput
  | .evtInternal .prepSnapshotDone =>
    (sm, if parent.isRetroPicture then
      [.call .processPrepSnapshotDoneEvent, answer .prepareSnapshot 0]
    else
      [])
  | .evtInternal .readyForSnapshot =>
    (sm, if parent.isRetroPicture then accept .takePicture else [])
  | .evtInternal type => (sm, processInternal type)
  | .evtNotify died => (sm, evtNotify parent died)
  | .jpegEvtNotify => (sm, [.call .processJpegNotify])
  | .snapshotDone =>
    ({ sm with state := .previewing }, .call parent.cancels :: (if parent.isRetroPicture then
          [.signalAPIResult (plainResult (.internal .snapshotDone) (parent.rc parent.cancels))]
        else
          []) ++
        [snapshotDone (parent.rc parent.cancels)])
  | .thermalNotify => (sm, [.call .updateThermalLevel])
  | .restartPreview => (sm, [])

/-- `stateMachine`, for a command. -/
def stateMachineApi (parent : Parent) (evt : ApiEvt)
    (sm : StateMachine) : StateMachine × List SmOutput :=
  match sm.state with
  | .previewStopped => previewStoppedApi parent sm evt
  | .previewReady => previewReadyApi parent sm evt
  | .previewing => previewingApi parent sm evt
  | .prepareSnapshot => prepareSnapshotApi sm evt
  | .picTaking => picTakingApi parent sm evt
  | .recording => recordingApi parent sm evt
  | .videoPicTaking => videoPicTakingApi parent sm evt
  | .previewPicTaking => previewPicTakingApi parent sm evt

/-- `stateMachine`, for an internal event. -/
def stateMachineInternal (parent : Parent) (evt : InternalEvt)
    (sm : StateMachine) : StateMachine × List SmOutput :=
  match sm.state with
  | .previewStopped => previewStoppedInternal parent sm evt
  | .previewReady => previewReadyInternal parent sm evt
  | .previewing => previewingInternal parent sm evt
  | .prepareSnapshot => prepareSnapshotInternal parent sm evt
  | .picTaking => picTakingInternal parent sm evt
  | .recording => recordingInternal parent sm evt
  | .videoPicTaking => videoPicTakingInternal parent sm evt
  | .previewPicTaking => previewPicTakingInternal parent sm evt

/-- `stateMachine`. -/
def stateMachine (parent : Parent) : Evt → StateMachine → StateMachine × List SmOutput
  | .api evt, sm => stateMachineApi parent evt sm
  | .internal evt, sm => stateMachineInternal parent evt sm

end AnglerHal.ApiStates
