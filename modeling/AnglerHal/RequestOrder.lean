import AnglerHal.RequestSteps

namespace AnglerHal.Hal3

/-!
# The request list stays in frame order

Frame numbers of requests increase, and no operation reorders the list or
changes a frame number.  So in every reachable state `mPendingRequestsList` is
in strictly ascending frame order.
-/

/-! ## Recovery -/

/-- The buffers of frames that have been answered already. -/
def answeredGroups (tracker : Tracker) : KeyedVector Nat (List PendingBufferInfo) :=
  flushMap (tracker.mPendingBuffersMap.mPendingBufferList.filter fun info =>
      info.frameNumber < oldestFrame tracker.mPendingRequestsList)

/-- The buffers of frames that are not older than the oldest request. -/
def openGroups (tracker : Tracker) : KeyedVector Nat (List PendingBufferInfo) :=
  flushMap (tracker.mPendingBuffersMap.mPendingBufferList.filter fun info =>
      !(info.frameNumber < oldestFrame tracker.mPendingRequestsList))

theorem errorRequests_eq (groups : List (Nat × List PendingBufferInfo))
    (requests : List PendingRequestInfo) :
    errorRequests groups requests = if groups.length ≤ requests.length then
        some (requests.drop groups.length, (List.zipWith errorRequest groups requests).flatten)
      else none := by
  induction groups generalizing requests with
  | nil => simp [errorRequests]
  | cons group groups inductionHypothesis =>
    cases requests with
    | nil => simp [errorRequests]
    | cons request requests =>
      unfold errorRequests
      rw [inductionHypothesis]
      by_cases enough : groups.length ≤ requests.length
      · simp [enough]
      · simp [enough]

/-- The tracker after everything pending has been answered with errors. -/
def afterErrors (tracker : Tracker) : Tracker :=
  { (tracker.setRequests (tracker.mPendingRequestsList.drop
        (openGroups tracker).items.length)).setBuffers [] 0 with
      mPendingFrameDropList := []
      mPendingReprocessResultList := [] }

/-- What is sent meanwhile. -/
def sentErrors (tracker : Tracker) : List Output :=
  (answeredGroups tracker).items.flatMap errorBuffers ++
    (List.zipWith errorRequest (openGroups tracker).items tracker.mPendingRequestsList).flatten

/-- The recovery succeeds as long as there are enough requests. -/
theorem notifyErrorForPendingRequests_eq (tracker : Tracker) :
    notifyErrorForPendingRequests tracker = if (openGroups tracker).items.length ≤
          tracker.mPendingRequestsList.length then
        some (afterErrors tracker, sentErrors tracker)
      else none := by
  have shape : notifyErrorForPendingRequests tracker = (errorRequests (openGroups tracker).items
          tracker.mPendingRequestsList).map fun kept =>
            ({ (tracker.setRequests kept.1).setBuffers [] 0 with
                mPendingFrameDropList := []
                mPendingReprocessResultList := [] },
              (answeredGroups tracker).items.flatMap errorBuffers ++ kept.2) :=
    rfl
  rw [shape, errorRequests_eq]
  split
  · rfl
  · rfl

variable {tracker next : Tracker} {sent emitted : List Output} {event : TrackerEvent}

/-- A recovery that returns has enough requests. -/
theorem notifyErrorForPendingRequests_some (notified :
      notifyErrorForPendingRequests tracker = some (next, sent)) :
    (openGroups tracker).items.length ≤ tracker.mPendingRequestsList.length ∧
      next = afterErrors tracker ∧ sent = sentErrors tracker := by
  rw [notifyErrorForPendingRequests_eq] at notified
  split at notified
  · rename_i enough
    simp only [Option.some.injEq, Prod.mk.injEq] at notified
    exact ⟨enough, notified.1.symm, notified.2.symm⟩
  · contradiction

/-! ## The ends of a request -/

/-- How `processCaptureRequest` can end. -/
inductive RequestOutcome (env : RequestEnv) (request : CaptureRequest) (tracker : Tracker) :
    Tracker → Int → List Output → Prop where
  /-- A check fails. -/
  | rejected {failed : Tracker} {rc : Int}
      (stage : checkRequest env request tracker = .fail failed rc) :
      RequestOutcome env request tracker failed rc []
  /-- The sensor is restarted, but its channels do not start. -/
  | notRestarted {checked : Tracker} (stage : checkRequest env request tracker = .proceed checked)
      (restarts : restartsSensor request checked = true)
      (enough : (openGroups checked).items.length ≤ checked.mPendingRequestsList.length)
      (failed : env.startAllChannelsRc ≠ 0) :
      RequestOutcome env request tracker (afterErrors checked) badValue (sentErrors checked)
  /-- The sensor is restarted for the request. -/
  | restarted {checked : Tracker} (stage : checkRequest env request tracker = .proceed checked)
      (restarts : restartsSensor request checked = true)
      (enough : (openGroups checked).items.length ≤ checked.mPendingRequestsList.length)
      (started : env.startAllChannelsRc = 0) :
      RequestOutcome env request tracker (acceptRequest env request
          { afterErrors checked with mNeedSensorRestart := false }).1
        (acceptRequest env request { afterErrors checked with mNeedSensorRestart := false }).2
        (sentErrors checked)
  /-- The request is registered. -/
  | registered {checked : Tracker} (stage : checkRequest env request tracker = .proceed checked)
      (goesOn : restartsSensor request checked = false) :
      RequestOutcome env request tracker (acceptRequest env request checked).1
        (acceptRequest env request checked).2 []

/-- Every call that returns ends in one of these ways. -/
theorem processCaptureRequest_outcome {env : RequestEnv} {request : CaptureRequest}
    {rc : Int}
    (called : processCaptureRequest env request tracker = some (next, rc, sent)) :
    RequestOutcome env request tracker next rc sent := by
  unfold processCaptureRequest prepareRequest at called
  cases stage : checkRequest env request tracker with
  | fail failed status =>
    simp only [stage, Option.map_some, Option.some.injEq, Prod.mk.injEq] at called
    obtain ⟨rfl, rfl, rfl⟩ := called
    exact .rejected stage
  | proceed checked =>
    simp only [stage] at called
    unfold restartSensor dynamicUpdateMetaStreamInfo at called
    by_cases restarts : restartsSensor request checked = true
    · simp only [restarts, if_true, Option.map_map, Option.map_eq_some_iff] at called
      obtain ⟨⟨notified, errors⟩, recovered, same⟩ := called
      obtain ⟨enough, rfl, rfl⟩ := notifyErrorForPendingRequests_some recovered
      by_cases started : env.startAllChannelsRc = 0
      · simp only [Function.comp_apply, started, ne_eq,
          not_true_eq_false, if_false, Prod.mk.injEq] at same
        obtain ⟨rfl, rfl, rfl⟩ := same
        exact .restarted stage restarts enough started
      · simp only [Function.comp_apply, started, ne_eq,
          not_false_eq_true, if_true, Prod.mk.injEq] at same
        obtain ⟨rfl, rfl, rfl⟩ := same
        exact .notRestarted stage restarts enough started
    · simp only [restarts, Bool.false_eq_true, if_false, Option.map_some,
        Option.some.injEq, Prod.mk.injEq] at called
      obtain ⟨rfl, rfl, rfl⟩ := called
      exact .registered stage (by simpa using restarts)

/-! ## One step of the tracker -/

/-- What each operation can do, with the cases of the callbacks unfolded. -/
inductive Stepped (tracker : Tracker) : TrackerEvent → Tracker → List Output → Prop where
  | request {env : RequestEnv} {capture : CaptureRequest} {next : Tracker} {rc : Int}
      {sent : List Output}
      (outcome : RequestOutcome env capture tracker next rc sent) :
      Stepped tracker (.processCaptureRequest env capture) next
        (sent ++ [.requestStatus capture.frameNumber rc])
  | metadata {callback : MetadataCallback} {next : Tracker} {sent : List Output} (handled :
        handleMetadataWithLock callback tracker = some (next, sent)) :
      Stepped tracker (.metadata callback) next sent
  | blackLevel (blackLevel frameNumber : Nat) : Stepped tracker (.blackLevel blackLevel frameNumber)
        (sendDynamicBlackLevelWithLock blackLevel frameNumber tracker).1
        (sendDynamicBlackLevelWithLock blackLevel frameNumber tracker).2
  | ignoredInput {now : Int} {buffer : Option Camera3StreamBuffer} {frameNumber : Nat} :
      Stepped tracker (.inputBuffer now buffer frameNumber) tracker []
  | inputBuffer {now : Int} {buffer : Option Camera3StreamBuffer} {frameNumber : Nat}
      {request : PendingRequestInfo}
      {map : PendingBuffersMap}
      {sent : List Output}
      (found : (tracker.mPendingRequestsList.find? fun other =>
          other.frameNumber == frameNumber) = some request)
      (reprocess : request.inputBuffer.isSome = true) :
      Stepped tracker (.inputBuffer now buffer frameNumber) { tracker.setRequests
            (tracker.mPendingRequestsList.eraseP fun other =>
              other.frameNumber == frameNumber) with
            mPendingBuffersMap := map }
        sent
  | buffer {now : Int} {buffer : Camera3StreamBuffer} {frameNumber : Nat}
      {result : Tracker × List Output}
      (outcome : BufferOutcome now buffer frameNumber tracker result) :
      Stepped tracker (.buffer now buffer frameNumber) result.1 result.2
  | flushBegin : Stepped tracker .flushBegin (flushBegin tracker) []
  | flushEnd (enough : (openGroups tracker).items.length ≤ tracker.mPendingRequestsList.length) :
      Stepped tracker .flushEnd { afterErrors { tracker with mPendingLiveRequest := 0 } with
            mFlush := false }
        (sentErrors tracker)
  | configureStreams {constrainedHighSpeed : Bool} :
      Stepped tracker (.configureStreams constrainedHighSpeed)
        (configureStreams constrainedHighSpeed tracker) []

/-- Every defined step is one of these. -/
theorem trackerStep_stepped (step : trackerStep tracker event = some (next, emitted)) :
    Stepped tracker event next emitted := by
  cases event with
  | processCaptureRequest env capture =>
    simp only [trackerStep, Option.map_eq_some_iff] at step
    obtain ⟨⟨accepted, rc, sent⟩, called, same⟩ := step
    simp only [Prod.mk.injEq] at same
    obtain ⟨rfl, rfl⟩ := same
    exact .request (processCaptureRequest_outcome called)
  | metadata callback => exact .metadata step
  | blackLevel blackLevel frameNumber =>
    simp only [trackerStep, Option.some.injEq] at step
    have shape : Stepped tracker (.blackLevel blackLevel frameNumber) _ _ :=
      .blackLevel blackLevel frameNumber
    rw [step] at shape
    exact shape
  | inputBuffer now buffer frameNumber =>
    simp only [trackerStep, Option.some.injEq] at step
    rcases handleInputBufferWithLock_cases now buffer frameNumber tracker
      with same | ⟨request, map, sent, found, reprocess, same⟩
    · rw [step, Prod.mk.injEq] at same
      obtain ⟨rfl, rfl⟩ := same
      exact .ignoredInput
    · rw [step, Prod.mk.injEq] at same
      obtain ⟨rfl, rfl⟩ := same
      exact .inputBuffer found reprocess
  | buffer now buffer frameNumber =>
    simp only [trackerStep, Option.some.injEq] at step
    have outcome := handleBufferWithLock_outcome now buffer frameNumber tracker
    rw [step] at outcome
    exact .buffer outcome
  | flushBegin =>
    simp only [trackerStep, Option.some.injEq, Prod.mk.injEq] at step
    obtain ⟨rfl, rfl⟩ := step
    exact .flushBegin
  | flushEnd =>
    simp only [trackerStep, flushEnd, Option.map_eq_some_iff] at step
    obtain ⟨⟨notified, sent⟩, recovered, same⟩ := step
    simp only [Prod.mk.injEq] at same
    obtain ⟨rfl, rfl⟩ := same
    obtain ⟨enough, rfl, rfl⟩ := notifyErrorForPendingRequests_some recovered
    exact .flushEnd enough
  | configureStreams constrainedHighSpeed =>
    simp only [trackerStep, Option.some.injEq, Prod.mk.injEq] at step
    obtain ⟨rfl, rfl⟩ := step
    exact .configureStreams

/-! ## Frame numbers of a step -/

/-- The frame numbers of the requests among some events. -/
def requestedFrames (events : List TrackerEvent) : List Nat :=
  events.filterMap fun event =>
    match event with
    | .processCaptureRequest _ request => some request.frameNumber
    | _ => none

/-- The frame numbers of requests increase. -/
def FramesIncrease (past : List TrackerEvent) (event : TrackerEvent) : Prop :=
  ∀ earlier ∈ requestedFrames past, ∀ frameNumber ∈ requestedFrames [event], earlier < frameNumber

instance (past : List TrackerEvent) (event : TrackerEvent) :
    Decidable (FramesIncrease past event) :=
  inferInstanceAs (Decidable (∀ earlier ∈ requestedFrames past, _))

/-- Answering everything with errors adds no request. -/
theorem afterErrors_sublist (tracker : Tracker) : (afterErrors tracker).mPendingRequestsList.Sublist
      tracker.mPendingRequestsList :=
  List.drop_sublist _ _

/-- A registered request comes last. -/
theorem acceptRequest_frames (env : RequestEnv) (request : CaptureRequest) (prepared : Tracker) :
    requestFrames (acceptRequest env request prepared).1.mPendingRequestsList =
      requestFrames prepared.mPendingRequestsList ++ [request.frameNumber] := by
  obtain ⟨flags, listed⟩ := (acceptRequest_accepted env request prepared).requests
  rw [listed]
  simp [newEntry, pendingRequest]

theorem RequestOutcome.frames {env : RequestEnv} {request : CaptureRequest}
    {tracker next : Tracker} {rc : Int} {sent : List Output}
    (outcome : RequestOutcome env request tracker next rc sent) :
    (requestFrames next.mPendingRequestsList).Sublist (requestFrames tracker.mPendingRequestsList ++
        [request.frameNumber]) := by
  cases outcome with
  | rejected stage =>
    rw [(Checked.of_fail stage).requests]
    exact List.sublist_append_left _ _
  | @notRestarted checked stage restarts enough failed =>
    rw [← (Checked.of_proceed stage).requests]
    exact (requestFrames_sublist (afterErrors_sublist checked)).trans (List.sublist_append_left _ _)
  | @restarted checked stage restarts enough started =>
    rw [← (Checked.of_proceed stage).requests, acceptRequest_frames]
    exact (requestFrames_sublist (afterErrors_sublist checked)).append (.refl _)
  | registered stage goesOn => rw [← (Checked.of_proceed stage).requests, acceptRequest_frames]

/-- A step keeps the frame numbers in order and adds requested ones only. -/
theorem Stepped.frames {tracker next : Tracker} {event : TrackerEvent} {emitted : List Output}
    (stepped : Stepped tracker event next emitted) :
    (requestFrames next.mPendingRequestsList).Sublist (requestFrames tracker.mPendingRequestsList ++
        requestedFrames [event]) := by
  cases stepped with
  | request outcome => exact outcome.frames
  | metadata handled => simpa [requestedFrames] using handleMetadataWithLock_frames handled
  | blackLevel blackLevel frameNumber =>
    simpa [requestedFrames] using
      sendDynamicBlackLevelWithLock_frames blackLevel frameNumber tracker
  | ignoredInput => simp [requestedFrames]
  | inputBuffer => simpa [requestedFrames] using requestFrames_sublist List.eraseP_sublist
  | buffer outcome => simpa [requestedFrames] using outcome.frames
  | flushBegin =>
    unfold Hal3.flushBegin
    split <;> simp [requestedFrames]
  | flushEnd =>
    simpa [requestedFrames] using requestFrames_sublist
        (afterErrors_sublist { tracker with mPendingLiveRequest := 0 })
  | configureStreams => exact List.nil_sublist _

/-! ## Order along runs -/

/-- The list is in frame order and holds requested frames only. -/
structure InOrder (tracker : Tracker) (past : List TrackerEvent) : Prop where
  ordered : Ordered tracker.mPendingRequestsList
  requested : ∀ request ∈ tracker.mPendingRequestsList, request.frameNumber ∈ requestedFrames past

/-- A fresh tracker has no requests. -/
theorem InOrder.of_fresh (fresh : tracker.Fresh) : InOrder tracker [] where
  ordered := by
    rw [fresh.requests]
    exact .nil
  requested := by
    simp [fresh.requests]

/-- A step with increasing frame numbers keeps the order. -/
theorem InOrder.step {past : List TrackerEvent} (inOrder : InOrder tracker past)
    (increase : FramesIncrease past event)
    (stepped : Stepped tracker event next emitted) :
    InOrder next (past ++ [event]) := by
  have frames := stepped.frames
  have requestedAppend : requestedFrames (past ++ [event]) =
        requestedFrames past ++ requestedFrames [event] :=
    List.filterMap_append
  have known : ∀ frameNumber ∈ requestFrames tracker.mPendingRequestsList,
        frameNumber ∈ requestedFrames past := by
    intro frameNumber member
    obtain ⟨request, inList, rfl⟩ := List.mem_map.mp member
    exact inOrder.requested request inList
  refine ⟨?_, ?_⟩
  · rw [ordered_iff_frames]
    refine List.Pairwise.sublist frames ?_
    rw [List.pairwise_append]
    refine ⟨ordered_iff_frames.mp inOrder.ordered, ?_, ?_⟩
    · cases event with
      | processCaptureRequest => exact List.pairwise_singleton _ _
      | _ => exact .nil
    · intro earlier member frameNumber new
      exact increase earlier (known earlier member) frameNumber new
  · intro request member
    have inFrames := frames.subset (List.mem_map_of_mem member)
    rw [requestedAppend, List.mem_append]
    rcases List.mem_append.mp inFrames with old | new
    · exact .inl (known _ old)
    · exact .inr new

end AnglerHal.Hal3
