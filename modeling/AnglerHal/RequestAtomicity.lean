import AnglerHal.RequestOrder

namespace AnglerHal.Hal3

/-!
# Failing capture requests

`processCaptureRequest` registers a request before it asks the channels.  A
call that fails afterwards leaves the request behind; a call that fails earlier
changes none of the pending lists and counters, unless it has restarted the
sensor.
-/

/-- The pending lists and counters that a failing call ought to leave alone. -/
structure SamePending (before after : Tracker) : Prop where
  requests : after.mPendingRequestsList = before.mPendingRequestsList
  buffers : after.mPendingBuffersMap.mPendingBufferList =
      before.mPendingBuffersMap.mPendingBufferList
  numBuffers : after.mPendingBuffersMap.numBuffers = before.mPendingBuffersMap.numBuffers
  liveRequests : after.mPendingLiveRequest = before.mPendingLiveRequest
  batchMap : after.mPendingBatchMap = before.mPendingBatchMap
  toBeQueuedVidBufs : after.mToBeQueuedVidBufs = before.mToBeQueuedVidBufs

/-- Comparing the pending lists and counters is decidable. -/
instance (before after : Tracker) : Decidable (SamePending before after) :=
  decidable_of_iff (after.mPendingRequestsList = before.mPendingRequestsList ∧
      after.mPendingBuffersMap.mPendingBufferList = before.mPendingBuffersMap.mPendingBufferList ∧
      after.mPendingBuffersMap.numBuffers = before.mPendingBuffersMap.numBuffers ∧
      after.mPendingLiveRequest = before.mPendingLiveRequest ∧
      after.mPendingBatchMap = before.mPendingBatchMap ∧
      after.mToBeQueuedVidBufs = before.mToBeQueuedVidBufs)
    ⟨fun ⟨requests, buffers, numBuffers, live, batch, queued⟩ =>
        ⟨requests, buffers, numBuffers, live, batch, queued⟩,
      fun ⟨requests, buffers, numBuffers, live, batch, queued⟩ =>
        ⟨requests, buffers, numBuffers, live, batch, queued⟩⟩

/-! ## The checks before registration -/

/-- The parameters of a live request cannot be set. -/
def ParametersFail (env : RequestEnv) (request : CaptureRequest) (tracker : Tracker) : Prop :=
  (setsFrameParameters request tracker = true ∧ env.setFrameParametersRc < 0) ∨
    ((withFrameRate env request tracker).mBatchSize ≠ 0 ∧ env.frameNumberFails = true)

/-- A call outside the first request fails before it registers anything. -/
def Rejected (env : RequestEnv) (request : CaptureRequest) (tracker : Tracker) : Prop :=
  validateCaptureRequest request tracker ≠ 0 ∨ requestId? request tracker = none ∨
    (acquireFailure? request).isSome = true ∨
    match request.inputBuffer with
    | none => ParametersFail env request tracker
    | some input => input.acquireFence ≠ -1 ∧ env.inputAcquireRc ≠ 0

/-- A live request restarts the sensor, and the channels do not start. -/
def RestartFails (env : RequestEnv) (request : CaptureRequest) (tracker : Tracker) : Prop :=
  request.isLive = true ∧ (withFrameRate env request tracker).mNeedSensorRestart = true ∧
    env.startAllChannelsRc ≠ 0

/-- No output buffer is pending. -/
def NoBufferPending (tracker : Tracker) : Prop :=
  tracker.mPendingBuffersMap.mPendingBufferList = [] ∧ tracker.mPendingBuffersMap.numBuffers = 0

variable {tracker : Tracker}

theorem Checked.samePending {next : Tracker} (checked : Checked tracker next)
    (started : tracker.mFirstRequest = false) :
    SamePending tracker next where
  requests := checked.requests
  buffers := by rw [checked.buffersMap]
  numBuffers := by rw [checked.buffersMap]
  liveRequests := by
    rcases checked.liveRequests with same | ⟨first, _⟩
    · exact same
    · simp [started] at first
  batchMap := checked.batchMap
  toBeQueuedVidBufs := checked.toBeQueuedVidBufs

theorem translateToHalMetadata_requestId (request : CaptureRequest) (tracker : Tracker)
    (requestId : Int) :
    translateToHalMetadata request { tracker with mCurrentRequestId := requestId } =
      { translateToHalMetadata request tracker with
          mCurrentRequestId := requestId } := by
  unfold translateToHalMetadata
  cases request.metadata.aeTargetMaxFps with
  | none => rfl
  | some maxFps =>
    simp only [setHalFpsRange]
    split
    · rfl
    · rfl

theorem withFrameRate_requestId (env : RequestEnv) (request : CaptureRequest) (tracker : Tracker)
    (requestId : Int) :
    withFrameRate env request { tracker with mCurrentRequestId := requestId } =
      { withFrameRate env request tracker with
          mCurrentRequestId := requestId } := by
  unfold withFrameRate
  have sets : setsFrameParameters request { tracker with mCurrentRequestId := requestId } =
        setsFrameParameters request tracker :=
    rfl
  rw [sets, translateToHalMetadata_requestId]
  split
  · rfl
  · rfl

theorem noteBatch_needSensorRestart (request : CaptureRequest) (tracker : Tracker) :
    (noteBatch request tracker).mNeedSensorRestart =
      tracker.mNeedSensorRestart := by
  unfold noteBatch
  split
  · rfl
  · rfl

theorem setLiveParameters_cases (env : RequestEnv) (request : CaptureRequest) (tracker : Tracker)
    (requestId : Int) :
    (ParametersFail env request tracker ∧ ∃ failed rc, setLiveParameters env request
          { tracker with mCurrentRequestId := requestId } =
            .fail failed rc) ∨
    (¬ ParametersFail env request tracker ∧ ∃ checked, setLiveParameters env request
          { tracker with mCurrentRequestId := requestId } =
            .proceed checked ∧
        checked.mNeedSensorRestart = (withFrameRate env request tracker).mNeedSensorRestart) := by
  have sets : setsFrameParameters request { tracker with mCurrentRequestId := requestId } =
        setsFrameParameters request tracker :=
    rfl
  rw [setLiveParameters_eq, withFrameRate_requestId, sets]
  unfold ParametersFail
  by_cases refused : setsFrameParameters request tracker = true ∧ env.setFrameParametersRc < 0
  · left
    exact ⟨.inl refused, _, _, if_pos refused⟩
  · rw [if_neg refused]
    by_cases unnumbered : (withFrameRate env request tracker).mBatchSize ≠ 0 ∧
          env.frameNumberFails = true
    · left
      exact ⟨.inr unnumbered, _, _, if_pos unnumbered⟩
    · right
      refine ⟨fun fails => fails.elim refused unnumbered, _, if_neg unnumbered, ?_⟩
      rw [noteBatch_needSensorRestart]

theorem checkRequest_cases (env : RequestEnv) (request : CaptureRequest)
    (started : tracker.mFirstRequest = false) :
    (Rejected env request tracker ∧
      ∃ failed rc, checkRequest env request tracker = .fail failed rc) ∨
    (¬ Rejected env request tracker ∧
      ∃ checked, checkRequest env request tracker = .proceed checked ∧ (request.isLive = true →
          checked.mNeedSensorRestart =
            (withFrameRate env request tracker).mNeedSensorRestart)) := by
  unfold checkRequest Rejected
  by_cases invalid : validateCaptureRequest request tracker ≠ 0
  · left
    exact ⟨.inl invalid, _, _, if_pos invalid⟩
  · have first : startFirstRequest env request tracker = .proceed tracker := by
      simp [startFirstRequest, started]
    rw [if_neg invalid, first]
    simp only [invalid, false_or]
    cases known : requestId? request tracker with
    | none =>
      left
      exact ⟨.inl rfl, _, _, rfl⟩
    | some requestId =>
      simp only [reduceCtorEq, false_or]
      cases acquired : acquireFailure? request with
      | some rc =>
        left
        exact ⟨.inl rfl, _, _, rfl⟩
      | none =>
        simp only [Option.isSome_none, Bool.false_eq_true, false_or]
        cases given : request.inputBuffer with
        | none =>
          rcases setLiveParameters_cases env request tracker requestId
            with ⟨fails, failed⟩ | ⟨passes, checked, proceeds, restart⟩
          · exact .inl ⟨fails, failed⟩
          · exact .inr ⟨passes, checked, proceeds, fun _ => restart⟩
        | some input =>
          unfold awaitInput
          by_cases waits : input.acquireFence ≠ -1 ∧ env.inputAcquireRc ≠ 0
          · left
            exact ⟨waits, _, _, if_pos waits⟩
          · right
            refine ⟨waits, _, if_neg waits, ?_⟩
            intro live
            simp [CaptureRequest.isLive, given] at live

/-! ## When a failing call changes nothing -/

theorem acceptRequest_not_samePending (env : RequestEnv) {request : CaptureRequest}
    (newFrame : ∀ pending ∈ tracker.mPendingRequestsList, pending.frameNumber ≠ request.frameNumber)
    (prepared : Tracker) :
    ¬ SamePending tracker (acceptRequest env request prepared).1 := by
  intro same
  obtain ⟨flags, listed⟩ := (acceptRequest_accepted env request prepared).requests
  have member : newEntry request prepared flags ∈ tracker.mPendingRequestsList := by
    rw [← same.requests, listed]
    simp
  exact newFrame _ member rfl

theorem afterErrors_samePending (tracker : Tracker) :
    SamePending tracker (afterErrors tracker) ↔ NoBufferPending tracker := by
  constructor
  · intro same
    exact ⟨same.buffers.symm, same.numBuffers.symm⟩
  · rintro ⟨buffers, numBuffers⟩
    have noGroups : (openGroups tracker).items = [] := by
      unfold openGroups
      rw [buffers]
      rfl
    exact {
      requests := by simp [afterErrors, Tracker.setRequests, Tracker.setBuffers, noGroups]
      buffers := buffers.symm
      numBuffers := numBuffers.symm
      liveRequests := rfl
      batchMap := rfl
      toBeQueuedVidBufs := rfl }

theorem SamePending.congr_left {first second third : Tracker} (same : SamePending first second) :
    SamePending first third ↔ SamePending second third := by
  constructor
  · intro later
    exact ⟨later.requests.trans same.requests.symm, later.buffers.trans same.buffers.symm,
      later.numBuffers.trans same.numBuffers.symm,
      later.liveRequests.trans same.liveRequests.symm,
      later.batchMap.trans same.batchMap.symm,
      later.toBeQueuedVidBufs.trans same.toBeQueuedVidBufs.symm⟩
  · intro later
    exact ⟨later.requests.trans same.requests, later.buffers.trans same.buffers,
      later.numBuffers.trans same.numBuffers,
      later.liveRequests.trans same.liveRequests,
      later.batchMap.trans same.batchMap,
      later.toBeQueuedVidBufs.trans same.toBeQueuedVidBufs⟩

/--
A failing call outside the first request leaves the pending lists and counters
alone exactly if it fails a check, or fails to restart the sensor while no
buffer is pending.
-/
theorem processCaptureRequest_failed_samePending_iff {env : RequestEnv}
    {request : CaptureRequest} {tracker next : Tracker} {rc : Int} {sent : List Output}
    (started : tracker.mFirstRequest = false)
    (newFrame : ∀ pending ∈ tracker.mPendingRequestsList, pending.frameNumber ≠ request.frameNumber)
    (called : processCaptureRequest env request tracker = some (next, rc, sent))
    (failed : rc ≠ 0) :
    SamePending tracker next ↔ Rejected env request tracker ∨
        (RestartFails env request tracker ∧ NoBufferPending tracker) := by
  have restartCondition : ∀ checked, checkRequest env request tracker = .proceed checked →
        ¬ Rejected env request tracker ∧ (restartsSensor request checked = true ↔
            request.isLive = true ∧ (withFrameRate env request
                tracker).mNeedSensorRestart = true) := by
    intro checked stage
    rcases checkRequest_cases env request started with
      ⟨_, failed, status, fails⟩ | ⟨passes, other, proceeds, restart⟩
    · rw [stage] at fails
      contradiction
    · rw [stage, Stage.proceed.injEq] at proceeds
      subst other
      refine ⟨passes, ?_⟩
      unfold restartsSensor
      by_cases live : request.isLive = true
      · simp [live, restart live]
      · simp [live]
  cases processCaptureRequest_outcome called with
  | rejected stage =>
    have checkedSame := (Checked.of_fail stage).samePending started
    have rejected : Rejected env request tracker := by
      rcases checkRequest_cases env request started with
        ⟨rejected, _⟩ | ⟨_, other, proceeds, _⟩
      · exact rejected
      · rw [stage] at proceeds
        contradiction
    exact iff_of_true checkedSame (.inl rejected)
  | @notRestarted checked stage restarts enough notStarted =>
    obtain ⟨passes, restart⟩ := restartCondition checked stage
    obtain ⟨live, needed⟩ := restart.mp restarts
    have checkedSame := (Checked.of_proceed stage).samePending started
    have buffers : NoBufferPending checked ↔ NoBufferPending tracker := by
      unfold NoBufferPending
      rw [checkedSame.buffers, checkedSame.numBuffers]
    rw [checkedSame.congr_left, afterErrors_samePending, buffers]
    simp [passes, RestartFails, live, needed, notStarted]
  | @restarted checked stage restarts enough channelsStarted =>
    obtain ⟨passes, _⟩ := restartCondition checked stage
    refine iff_of_false (acceptRequest_not_samePending env newFrame _) ?_
    simp [passes, RestartFails, channelsStarted]
  | @registered checked stage goesOn =>
    obtain ⟨passes, restart⟩ := restartCondition checked stage
    refine iff_of_false (acceptRequest_not_samePending env newFrame _) ?_
    rintro (rejected | ⟨⟨live, needed, _⟩, _⟩)
    · exact passes rejected
    · rw [restart.mpr ⟨live, needed⟩] at goesOn
      contradiction

/-- A request without outputs after an accepted one changes nothing. -/
theorem processCaptureRequest_failed_samePending_noOutputs : ∃ tracker log next sent,
      trackerRun (opened false false) [liveEvent 1] = some (tracker, log) ∧
        processCaptureRequest quietEnv (captureOf 2 none []) tracker = some (next, badValue, sent) ∧
        SamePending tracker next := by
  refine ⟨_, _, _, _, rfl, rfl, ?_⟩
  exact (@processCaptureRequest_failed_samePending_iff quietEnv
    (captureOf 2 none []) _ _ badValue _ rfl (by decide) rfl
    (by decide)).mpr (.inl (.inl (by decide)))

/-- A request refused by its channel stays in the list. -/
theorem processCaptureRequest_failed_keeps_request : ∃ tracker log next sent,
      trackerRun (opened false false) [liveEvent 1] = some (tracker, log) ∧
        tracker.mFirstRequest = false ∧
        processCaptureRequest quietEnv
            (captureOf 2 none [outputOf (-1) (previewBuffer 2)]) tracker =
          some (next, -1, sent) ∧
        ¬ SamePending tracker next :=
  ⟨_, _, _, _, rfl, rfl, rfl, by decide⟩

end AnglerHal.Hal3
