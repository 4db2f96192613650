import AnglerHal.RequestTracker

namespace AnglerHal.Hal3

/-!
# What accepting a request does

Once a request is prepared it is registered, and whatever happens afterwards it
stays registered.  `Registered` says what all those ends of the call have in
common; the counter of live requests and `mFirstRequest` tell them apart.
-/

/-! ## The channels -/

/-- All channels take the request, and at most one wants the metadata. -/
def ChannelsAccept (request : CaptureRequest) : Prop :=
  (∀ output ∈ request.outputs, ¬ output.requestRc < 0) ∧ (request.outputs.map
      (outputNeedsMetadata request.isLive)).count true ≤ 1

instance (request : CaptureRequest) : Decidable (ChannelsAccept request) :=
  inferInstanceAs (Decidable (_ ∧ _))

/-- The channels change nothing but the staged video buffers. -/
theorem requestChannels_tracker (live : Bool) (tracker : Tracker) (outputs : List RequestOutput) :
    ∃ queued, (requestChannels live tracker outputs).tracker =
        { tracker with mToBeQueuedVidBufs := queued } := by
  induction outputs generalizing tracker with
  | nil => exact ⟨tracker.mToBeQueuedVidBufs, rfl⟩
  | cons output rest inductionHypothesis =>
    have staged : ∃ queued, stageVideoBuf output tracker =
            { tracker with mToBeQueuedVidBufs := queued } := by
      unfold stageVideoBuf
      split
      · exact ⟨_, rfl⟩
      · exact ⟨tracker.mToBeQueuedVidBufs, rfl⟩
    obtain ⟨first, staged⟩ := staged
    unfold requestChannels
    by_cases refused : output.requestRc < 0
    · exact ⟨first, by simpa [refused] using staged⟩
    · obtain ⟨later, asked⟩ := inductionHypothesis (stageVideoBuf output tracker)
      refine ⟨later, ?_⟩
      simp only [refused, if_false]
      rw [asked, staged]

theorem requestChannels_failure (live : Bool) (tracker : Tracker) (outputs : List RequestOutput) :
    (requestChannels live tracker outputs).failure = none ↔
      ∀ output ∈ outputs, ¬ output.requestRc < 0 := by
  induction outputs generalizing tracker with
  | nil => simp [requestChannels]
  | cons output rest inductionHypothesis =>
    unfold requestChannels
    by_cases refused : output.requestRc < 0
    · simp only [refused, if_true, reduceCtorEq, false_iff]
      exact fun accepted => accepted output (by simp) refused
    · simp only [refused, if_false, inductionHypothesis,
        List.forall_mem_cons, not_false_eq_true, true_and]

variable {live : Bool} {outputs : List RequestOutput} {rc : Int} {env : RequestEnv}
  {request : CaptureRequest}

theorem requestChannels_failure_ne_zero {tracker : Tracker}
    (failed : (requestChannels live tracker outputs).failure = some rc) :
    rc < 0 := by
  induction outputs generalizing tracker with
  | nil => simp [requestChannels] at failed
  | cons output rest inductionHypothesis =>
    unfold requestChannels at failed
    by_cases refused : output.requestRc < 0
    · simp only [refused, if_true, Option.some.injEq] at failed
      exact failed ▸ refused
    · simp only [refused, if_false] at failed
      exact inductionHypothesis failed

theorem requestChannels_needMetadata {tracker : Tracker}
    (accepted : ∀ output ∈ outputs, ¬ output.requestRc < 0) :
    (requestChannels live tracker outputs).needMetadata =
      outputs.map (outputNeedsMetadata live) := by
  induction outputs generalizing tracker with
  | nil => rfl
  | cons output rest inductionHypothesis =>
    have accepts := accepted output (by simp)
    have others : (requestChannels live (stageVideoBuf output tracker) rest).needMetadata =
          rest.map (outputNeedsMetadata live) :=
      inductionHypothesis fun other member =>
        accepted other (by simp [member])
    simp [requestChannels, accepts, others]

/-! ## Registration -/

/-- The new entry of a request, up to its `need_metadata` flags. -/
def newEntry (request : CaptureRequest) (prepared : Tracker)
    (flags : List Bool) : PendingRequestInfo :=
  { pendingRequest request prepared with
      buffers :=
        writeNeedMetadata flags (pendingRequest request prepared).buffers }

theorem updateLatest_requests {tracker : Tracker} {earlier : List PendingRequestInfo}
    {latest : PendingRequestInfo}
    (requests : tracker.mPendingRequestsList = earlier ++ [latest])
    (change : PendingRequestInfo → PendingRequestInfo) :
    tracker.updateLatest change = tracker.setRequests (earlier ++ [change latest]) := by
  simp [Tracker.updateLatest, requests]

/-- Translating settings changes the frame rate and batch members only. -/
theorem translateToHalMetadata_tracker (request : CaptureRequest) (tracker : Tracker) :
    ∃ restart fps size, translateToHalMetadata request tracker = { tracker with
            mNeedSensorRestart := restart
            mHFRVideoFps := fps
            mBatchSize := size } := by
  unfold translateToHalMetadata setHalFpsRange
  split
  · exact ⟨tracker.mNeedSensorRestart, tracker.mHFRVideoFps, tracker.mBatchSize, rfl⟩
  · split
    · exact ⟨_, _, _, rfl⟩
    · exact ⟨tracker.mNeedSensorRestart, tracker.mHFRVideoFps, _, rfl⟩

theorem setReprocParameters_tracker (env : RequestEnv) (request : CaptureRequest)
    (tracker : Tracker) :
    ∃ restart fps size, (setReprocParameters env request tracker).1 = { tracker with
            mNeedSensorRestart := restart
            mHFRVideoFps := fps
            mBatchSize := size } := by
  have unchanged : ∃ restart fps size, tracker = { tracker with
              mNeedSensorRestart := restart
              mHFRVideoFps := fps
              mBatchSize := size } :=
    ⟨tracker.mNeedSensorRestart, tracker.mHFRVideoFps, tracker.mBatchSize, rfl⟩
  unfold setReprocParameters
  split
  · exact unchanged
  · split
    · exact translateToHalMetadata_tracker request tracker
    · exact unchanged

theorem completeRequest_tracker (env : RequestEnv) (request : CaptureRequest) (tracker : Tracker) :
    ∃ queued batches, (completeRequest env request tracker).1 = { tracker with
            mToBeQueuedVidBufs := queued
            mPendingBatchMap := batches
            mPendingLiveRequest :=
              if request.isLive then tracker.mPendingLiveRequest + 1
              else tracker.mPendingLiveRequest
            mFirstRequest := false } := by
  unfold completeRequest completeLive
  by_cases live : request.isLive = true
  · by_cases parms : setsParms request tracker = true
    · refine ⟨0, tracker.mPendingBatchMap.add request.frameNumber
          tracker.mFirstFrameNumberInBatch, ?_⟩
      simp only [live, parms, if_true]
    · refine ⟨tracker.mToBeQueuedVidBufs, tracker.mPendingBatchMap, ?_⟩
      simp only [live, parms, if_true]
      rfl
  · refine ⟨tracker.mToBeQueuedVidBufs, tracker.mPendingBatchMap, ?_⟩
    simp only [live]
    rfl

/-- The request reaches the end of the call. -/
def Completes (env : RequestEnv) (request : CaptureRequest) (prepared : Tracker) : Prop :=
  prepared.mFlush = false ∧ ChannelsAccept request ∧ (request.isLive = true ∨
      request.settings.isSome = true ∧ env.setReprocParametersRc = 0)

instance (env : RequestEnv) (request : CaptureRequest) (prepared : Tracker) :
    Decidable (Completes env request prepared) :=
  inferInstanceAs (Decidable (_ ∧ _))

/-! ## Preparation -/

/-- What the checks before registration leave alone. -/
structure Checked (tracker next : Tracker) : Prop where
  requests : next.mPendingRequestsList = tracker.mPendingRequestsList
  buffersMap : next.mPendingBuffersMap = tracker.mPendingBuffersMap
  reprocessResults : next.mPendingReprocessResultList = tracker.mPendingReprocessResultList
  frameDrops : next.mPendingFrameDropList = tracker.mPendingFrameDropList
  batchMap : next.mPendingBatchMap = tracker.mPendingBatchMap
  toBeQueuedVidBufs : next.mToBeQueuedVidBufs = tracker.mToBeQueuedVidBufs
  flushing : next.mFlush = tracker.mFlush
  firstRequest : next.mFirstRequest = tracker.mFirstRequest
  opticalBlackRegion : next.opticalBlackRegion = tracker.opticalBlackRegion
  liveRequests : next.mPendingLiveRequest = tracker.mPendingLiveRequest ∨
      tracker.mFirstRequest = true ∧ next.mPendingLiveRequest = 0

/-- The tracker with which a stage ends. -/
def Stage.tracker : Stage → Tracker
  | .proceed tracker => tracker
  | .fail tracker _ => tracker

theorem Checked.refl (tracker : Tracker) :
    Checked tracker tracker :=
  ⟨rfl, rfl, rfl, rfl, rfl, rfl, rfl, rfl, rfl, .inl rfl⟩

theorem Checked.trans {first second third : Tracker} (earlier : Checked first second)
    (later : Checked second third) :
    Checked first third where
  requests := later.requests.trans earlier.requests
  buffersMap := later.buffersMap.trans earlier.buffersMap
  reprocessResults :=
    later.reprocessResults.trans earlier.reprocessResults
  frameDrops := later.frameDrops.trans earlier.frameDrops
  batchMap := later.batchMap.trans earlier.batchMap
  toBeQueuedVidBufs :=
    later.toBeQueuedVidBufs.trans earlier.toBeQueuedVidBufs
  flushing := later.flushing.trans earlier.flushing
  firstRequest := later.firstRequest.trans earlier.firstRequest
  opticalBlackRegion :=
    later.opticalBlackRegion.trans earlier.opticalBlackRegion
  liveRequests := by
    rcases later.liveRequests with same | ⟨first, reset⟩
    · rw [same]
      exact earlier.liveRequests
    · exact .inr ⟨earlier.firstRequest ▸ first, reset⟩

theorem translateToHalMetadata_checked (request : CaptureRequest) (tracker : Tracker) :
    Checked tracker (translateToHalMetadata request tracker) := by
  obtain ⟨restart, fps, size, translated⟩ := translateToHalMetadata_tracker request tracker
  rw [translated]
  exact ⟨rfl, rfl, rfl, rfl, rfl, rfl, rfl, rfl, rfl, .inl rfl⟩

theorem configureFirstRequest_checked (request : CaptureRequest) (tracker : Tracker) :
    Checked tracker (configureFirstRequest request tracker) := by
  obtain ⟨restart, fps, size, translated⟩ :=
    translateToHalMetadata_tracker request { tracker with
          mCaptureIntent :=
            request.metadata.captureIntent.getD tracker.mCaptureIntent
          mHFRVideoFps := defaultVideoFps }
  unfold configureFirstRequest
  rw [translated]
  exact ⟨rfl, rfl, rfl, rfl, rfl, rfl, rfl, rfl, rfl, .inl rfl⟩

theorem startFirstRequest_checked (env : RequestEnv) (request : CaptureRequest)
    (tracker : Tracker) :
    Checked tracker (startFirstRequest env request tracker).tracker := by
  have configured := configureFirstRequest_checked request tracker
  unfold startFirstRequest
  by_cases first : tracker.mFirstRequest = true
  · simp only [first, Bool.not_true, Bool.false_eq_true, if_false]
    split
    · exact .refl tracker
    · split
      · exact configured
      · exact { configured with liveRequests := .inr ⟨first, rfl⟩ }
  · simp only [first, Bool.not_false, if_true]
    exact .refl tracker

/-- The frame rate of a live request, as `setFrameParameters` takes it over. -/
def withFrameRate (env : RequestEnv) (request : CaptureRequest) (tracker : Tracker) : Tracker :=
  if setsFrameParameters request tracker && env.frameTranslated && request.settings.isSome then
    translateToHalMetadata request tracker
  else
    tracker

theorem withFrameRate_checked (env : RequestEnv) (request : CaptureRequest) (tracker : Tracker) :
    Checked tracker (withFrameRate env request tracker) := by
  unfold withFrameRate
  split
  · exact translateToHalMetadata_checked request tracker
  · exact .refl tracker

theorem noteBatch_checked (request : CaptureRequest) (tracker : Tracker) :
    Checked tracker (noteBatch request tracker) := by
  unfold noteBatch
  split
  · exact ⟨rfl, rfl, rfl, rfl, rfl, rfl, rfl, rfl, rfl, .inl rfl⟩
  · exact .refl tracker

/-- The parameters of a live request, once the frame rate is taken over. -/
theorem setLiveParameters_eq (env : RequestEnv) (request : CaptureRequest) (tracker : Tracker) :
    setLiveParameters env request tracker = if setsFrameParameters request tracker = true ∧
          env.setFrameParametersRc < 0 then
        .fail (withFrameRate env request tracker) env.setFrameParametersRc
      else if (withFrameRate env request tracker).mBatchSize ≠ 0 ∧ env.frameNumberFails = true then
        .fail (noteBatch request (withFrameRate env request tracker)) badValue
      else
        .proceed (noteBatch request (withFrameRate env request tracker)) := by
  have size : ∀ current : Tracker, (noteBatch request current).mBatchSize = current.mBatchSize := by
    intro current
    unfold noteBatch
    split <;> rfl
  have shape : setLiveParameters env request tracker = if setsFrameParameters request tracker &&
            env.setFrameParametersRc < 0 then
          .fail (withFrameRate env request tracker) env.setFrameParametersRc
        else if (noteBatch request (withFrameRate env request tracker)).mBatchSize != 0 &&
            env.frameNumberFails then
          .fail (noteBatch request (withFrameRate env request tracker)) badValue
        else
          .proceed (noteBatch request (withFrameRate env request tracker)) :=
    rfl
  rw [shape, size]
  simp only [Bool.and_eq_true, decide_eq_true_eq, bne_iff_ne, ne_eq]

theorem setLiveParameters_checked (env : RequestEnv) (request : CaptureRequest)
    (tracker : Tracker) :
    Checked tracker (setLiveParameters env request tracker).tracker := by
  have framed := withFrameRate_checked env request tracker
  have batched := framed.trans (noteBatch_checked request (withFrameRate env request tracker))
  rw [setLiveParameters_eq]
  split
  · exact framed
  · split
    · exact batched
    · exact batched

theorem checkRequest_checked (env : RequestEnv) (request : CaptureRequest) (tracker : Tracker) :
    Checked tracker (checkRequest env request tracker).tracker := by
  have started := startFirstRequest_checked env request tracker
  unfold checkRequest
  split
  · exact .refl tracker
  · cases stage : startFirstRequest env request tracker with
    | fail failed rc => simpa only [stage] using started
    | proceed first =>
      rw [stage] at started
      simp only
      cases requestId? request first with
      | none => exact started
      | some requestId =>
        have current : Checked tracker { first with mCurrentRequestId := requestId } :=
          started.trans ⟨rfl, rfl, rfl, rfl, rfl, rfl, rfl, rfl, rfl, .inl rfl⟩
        simp only
        cases acquireFailure? request with
        | some rc => exact current
        | none =>
          cases request.inputBuffer with
          | none => exact current.trans (setLiveParameters_checked env request _)
          | some input =>
            simp only [awaitInput]
            split
            · exact current
            · exact current

/-- The tracker with which a call goes on after its checks. -/
theorem Checked.of_proceed {tracker checked : Tracker}
    (stage : checkRequest env request tracker = .proceed checked) :
    Checked tracker checked := by
  have result := checkRequest_checked env request tracker
  rw [stage] at result
  exact result

/-- The tracker with which a call fails its checks. -/
theorem Checked.of_fail {tracker failed : Tracker}
    (stage : checkRequest env request tracker = .fail failed rc) :
    Checked tracker failed := by
  have result := checkRequest_checked env request tracker
  rw [stage] at result
  exact result

/-! ## The whole call -/

/-- What `acceptRequest` does, whichever way the call ends. -/
structure Accepted (env : RequestEnv) (request : CaptureRequest)
    (prepared next : Tracker) : Prop where
  requests : ∃ flags, next.mPendingRequestsList =
        prepared.mPendingRequestsList ++ [newEntry request prepared flags]
  buffers : next.mPendingBuffersMap.mPendingBufferList =
      prepared.mPendingBuffersMap.mPendingBufferList ++ pendingBuffers request
  numBuffers : next.mPendingBuffersMap.numBuffers = prepared.mPendingBuffersMap.numBuffers +
        UInt32.ofNat request.outputs.length
  reprocessResults : next.mPendingReprocessResultList = prepared.mPendingReprocessResultList
  frameDrops : next.mPendingFrameDropList = prepared.mPendingFrameDropList
  flushing : next.mFlush = prepared.mFlush
  liveRequests : next.mPendingLiveRequest =
      if Completes env request prepared ∧ request.isLive = true then
        prepared.mPendingLiveRequest + 1
      else prepared.mPendingLiveRequest
  firstRequest : next.mFirstRequest = if Completes env request prepared then false
      else prepared.mFirstRequest
  opticalBlackRegion : next.opticalBlackRegion = prepared.opticalBlackRegion

/-- The parameters that a request is issued with. -/
def issueParameters (env : RequestEnv) (request : CaptureRequest)
    (registered : Tracker) : Tracker × Int :=
  if request.isLive then
    (registered, 0)
  else
    setReprocParameters env request registered

theorem issueParameters_tracker (env : RequestEnv) (request : CaptureRequest)
    (registered : Tracker) :
    ∃ restart fps size, (issueParameters env request registered).1 = { registered with
            mNeedSensorRestart := restart
            mHFRVideoFps := fps
            mBatchSize := size } := by
  unfold issueParameters
  split
  · exact ⟨registered.mNeedSensorRestart, registered.mHFRVideoFps, registered.mBatchSize, rfl⟩
  · exact setReprocParameters_tracker env request registered

theorem issueParameters_ok (env : RequestEnv) (request : CaptureRequest) (registered : Tracker) :
    (issueParameters env request registered).2 = 0 ↔ request.isLive = true ∨
        request.settings.isSome = true ∧ env.setReprocParametersRc = 0 := by
  unfold issueParameters setReprocParameters
  by_cases live : request.isLive = true
  · simp [live]
  · cases given : request.settings with
    | none => simp [live, badValue]
    | some settings =>
      by_cases translated : env.reprocTranslated = true
      · simp [live, translated]
      · simp [live, translated]

/-- A request that gets to its channels has its flags written. -/
def flagRequest (request : CaptureRequest) (parameterized : Tracker) : Tracker :=
  let asked := requestChannels request.isLive parameterized request.outputs
  asked.tracker.updateLatest fun latest =>
    { latest with
        buffers := writeNeedMetadata asked.needMetadata latest.buffers }

/-- How a request goes on once its channels have been asked. -/
def answerChannels (env : RequestEnv) (request : CaptureRequest) (asked : ChannelLoop)
    (flagged : Tracker) : Tracker × Int :=
  match asked.failure with
  | some failure => (flagged, failure)
  | none =>
    if 1 < asked.needMetadata.count true then
      (flagged, badValue)
    else
      completeRequest env request flagged

/-- The ways in which a registered request ends. -/
theorem issueRequest_cases (env : RequestEnv) (request : CaptureRequest) (registered : Tracker) :
    ((issueParameters env request registered).2 ≠ 0 ∧ issueRequest env request registered =
        issueParameters env request registered) ∨
    ((issueParameters env request registered).2 = 0 ∧ ¬ ChannelsAccept request ∧ ∃ rc, rc ≠ 0 ∧
        issueRequest env request registered =
          (flagRequest request (issueParameters env request registered).1, rc)) ∨
    ((issueParameters env request registered).2 = 0 ∧ ChannelsAccept request ∧
      issueRequest env request registered = completeRequest env request (flagRequest request
            (issueParameters env request registered).1)) := by
  have shape : issueRequest env request registered =
        if (issueParameters env request registered).2 ≠ 0 then
          issueParameters env request registered
        else
          answerChannels env request (requestChannels request.isLive
              (issueParameters env request registered).1 request.outputs)
            (flagRequest request (issueParameters env request registered).1) :=
    rfl
  rw [shape]
  generalize issueParameters env request registered = parameters
  by_cases set : parameters.2 = 0
  · right
    simp only [set, ne_eq, not_true_eq_false, if_false, answerChannels]
    cases failed : (requestChannels request.isLive parameters.1 request.outputs).failure with
    | some failure =>
      left
      have negative := requestChannels_failure_ne_zero failed
      refine ⟨trivial, ?_, failure, by omega, rfl⟩
      rintro ⟨accepted, _⟩
      rw [(requestChannels_failure _ _ _).mpr accepted] at failed
      contradiction
    | none =>
      have accepted := (requestChannels_failure _ _ _).mp failed
      rw [requestChannels_needMetadata accepted]
      by_cases many : 1 < (request.outputs.map (outputNeedsMetadata request.isLive)).count true
      · left
        refine ⟨trivial, ?_, badValue, by decide, by simp only [many, if_true]⟩
        rintro ⟨_, few⟩
        omega
      · right
        exact ⟨trivial, ⟨accepted, by omega⟩, by simp only [many, if_false]⟩
  · left
    exact ⟨set, by simp only [set, ne_eq, not_false_eq_true, if_true]⟩

theorem flagRequest_tracker {prepared parameterized : Tracker}
    (requests : parameterized.mPendingRequestsList =
        prepared.mPendingRequestsList ++ [pendingRequest request prepared]) :
    ∃ queued flags, flagRequest request parameterized = { parameterized with
            mToBeQueuedVidBufs := queued
            mPendingRequestsList :=
              prepared.mPendingRequestsList ++ [newEntry request prepared flags] } := by
  obtain ⟨queued, asked⟩ :=
    requestChannels_tracker request.isLive parameterized request.outputs
  have askedRequests : (requestChannels request.isLive parameterized
          request.outputs).tracker.mPendingRequestsList =
        prepared.mPendingRequestsList ++ [pendingRequest request prepared] := by
    rw [asked]
    exact requests
  refine ⟨queued, (requestChannels request.isLive parameterized request.outputs).needMetadata, ?_⟩
  unfold flagRequest
  rw [updateLatest_requests askedRequests, asked]
  rfl

/-- A prepared request is registered, whatever comes afterwards. -/
theorem acceptRequest_accepted (env : RequestEnv) (request : CaptureRequest) (prepared : Tracker) :
    Accepted env request prepared (acceptRequest env request prepared).1 := by
  unfold acceptRequest
  by_cases flushing : prepared.mFlush = true
  · have notCompleted : ¬ Completes env request prepared := by
      simp [Completes, flushing]
    have registeredFlush : (registerRequest request prepared).mFlush = true := flushing
    simp only [registeredFlush, if_true]
    exact ⟨⟨[], rfl⟩, rfl, rfl, rfl, rfl, rfl, by
      simp only [notCompleted, false_and, if_false]; rfl, by
      simp only [notCompleted, if_false]; rfl, rfl⟩
  · have notFlushing : prepared.mFlush = false := by
      simpa using flushing
    have registeredFlush : (registerRequest request prepared).mFlush = false := notFlushing
    simp only [registeredFlush, Bool.false_eq_true, if_false]
    have parametersOk := issueParameters_ok env request (registerRequest request prepared)
    obtain ⟨restart, fps, size, parameterized⟩ :=
      issueParameters_tracker env request (registerRequest request prepared)
    have listed : (issueParameters env request
            (registerRequest request prepared)).1.mPendingRequestsList =
          prepared.mPendingRequestsList ++ [pendingRequest request prepared] := by
      rw [parameterized]
      rfl
    obtain ⟨queued, flags, flagged⟩ := flagRequest_tracker listed
    rcases issueRequest_cases env request (registerRequest request prepared)
      with ⟨failed, ended⟩ | ⟨set, refused, rc, _, ended⟩ | ⟨set, accepted, ended⟩
    · have notCompleted : ¬ Completes env request prepared := by
        rintro ⟨_, _, set⟩
        exact failed (parametersOk.mpr set)
      rw [ended, parameterized]
      exact ⟨⟨[], rfl⟩, rfl, rfl, rfl, rfl, rfl, by
        simp only [notCompleted, false_and, if_false]; rfl, by
        simp only [notCompleted, if_false]; rfl, rfl⟩
    · have notCompleted : ¬ Completes env request prepared := fun completes => refused completes.2.1
      rw [ended]
      simp only [flagged]
      rw [parameterized]
      exact ⟨⟨flags, rfl⟩, rfl, rfl, rfl, rfl, rfl, by
        simp only [notCompleted, false_and, if_false]; rfl, by
        simp only [notCompleted, if_false]; rfl, rfl⟩
    · have completed : Completes env request prepared :=
        ⟨notFlushing, accepted, parametersOk.mp set⟩
      obtain ⟨last, batches, finished⟩ :=
        completeRequest_tracker env request (flagRequest request (issueParameters env request
              (registerRequest request prepared)).1)
      rw [ended, finished, flagged, parameterized]
      exact ⟨⟨flags, rfl⟩, rfl, rfl, rfl, rfl, rfl, by
        simp only [completed, true_and]; rfl, by
        simp only [completed, if_true], rfl⟩

end AnglerHal.Hal3
