import AnglerHal.RequestOrder

namespace AnglerHal.Hal3

/-!
# Requests keep their identity

Callbacks count, fill and erase requests, but they change neither the frame
number of a request nor its input buffer nor whether it waits for a black
level.  A delayed result therefore stays a matter of reprocess requests.
-/

/-- Two versions of one request. -/
structure SameRequest (before after : PendingRequestInfo) : Prop where
  frameNumber : after.frameNumber = before.frameNumber
  inputBuffer : after.inputBuffer = before.inputBuffer
  needDynamicBlklvl : after.needDynamicBlklvl = before.needDynamicBlklvl

theorem SameRequest.refl (request : PendingRequestInfo) :
    SameRequest request request :=
  ⟨rfl, rfl, rfl⟩

theorem SameRequest.trans {first second third : PendingRequestInfo}
    (earlier : SameRequest first second) (later : SameRequest second third) :
    SameRequest first third where
  frameNumber := later.frameNumber.trans earlier.frameNumber
  inputBuffer := later.inputBuffer.trans earlier.inputBuffer
  needDynamicBlklvl :=
    later.needDynamicBlklvl.trans earlier.needDynamicBlklvl

/-- Both versions are live, or none. -/
theorem SameRequest.isLive {before after : PendingRequestInfo} (same : SameRequest before after) :
    after.isLive = before.isLive := by
  unfold PendingRequestInfo.isLive
  rw [same.inputBuffer]

/-- Every request of the second list is a version of one of the first. -/
def Descends (before after : List PendingRequestInfo) : Prop :=
  ∀ request ∈ after, ∃ original ∈ before, SameRequest original request

theorem Descends.of_subset {before after : List PendingRequestInfo} (subset : after ⊆ before) :
    Descends before after :=
  fun request member => ⟨request, subset member, .refl request⟩

theorem Descends.trans {first second third : List PendingRequestInfo}
    (earlier : Descends first second) (later : Descends second third) :
    Descends first third := by
  intro request member
  obtain ⟨middle, inSecond, middleSame⟩ := later request member
  obtain ⟨original, inFirst, same⟩ := earlier middle inSecond
  exact ⟨original, inFirst, same.trans middleSame⟩

/-! ## Callbacks -/

theorem answeredRequest_same (callback : MetadataCallback) (entries : MetadataEntries)
    (loop : PendingLoop) (request : PendingRequestInfo) :
    SameRequest request (answeredRequest callback entries loop request) := by
  obtain ⟨timestamp, buffers, shape⟩ := answeredRequest_shape callback entries loop request
  rw [shape]
  exact ⟨rfl, rfl, rfl⟩

/-- Answering a request keeps versions of the requests. -/
theorem passDue_descends (callback : MetadataCallback) (entries : MetadataEntries)
    (loop : PendingLoop) (request : PendingRequestInfo)
    (later : List PendingRequestInfo) :
    Descends (loop.done ++ request :: later)
      ((passDue callback entries request later loop).done ++
        (passDue callback entries request later loop).rest) := by
  rw [passDue_done, passDue_rest]
  intro other member
  split at member
  · simp only [List.append_nil, List.mem_append] at member
    rcases member with inDone | inLater
    · exact ⟨other, by simp [inDone], .refl other⟩
    · exact ⟨other, by simp [inLater], .refl other⟩
  · simp only [List.append_assoc, List.mem_append, List.mem_singleton] at member
    rcases member with inDone | rfl | inLater
    · exact ⟨other, by simp [inDone], .refl other⟩
    · exact ⟨request, by simp, answeredRequest_same callback entries loop request⟩
    · exact ⟨other, by simp [inLater], .refl other⟩

variable {delayed rounds frameNumber : Nat} {loop final : PendingLoop}
  {callback : MetadataCallback} {entries : MetadataEntries} {next tracker : Tracker}
  {sent emitted : List Output} {now : Int} {buffer : Camera3StreamBuffer}
  {result : Tracker × List Output} {event : TrackerEvent}

/-- Draining keeps some of the requests. -/
theorem Drained.descends {next : PendingLoop} (drained : Drained delayed loop next) :
    Descends (loop.done ++ loop.rest) (next.done ++ next.rest) := by
  obtain ⟨done, rest⟩ := drained.sublists
  exact Descends.of_subset (done.append rest).subset

theorem pendingLoop_descends
    (ran : pendingLoop callback entries rounds loop = some final) :
    Descends (loop.done ++ loop.rest) (final.done ++ final.rest) := by
  apply pendingLoop_rule (fun current =>
      Descends (loop.done ++ loop.rest) (current.done ++ current.rest))
    ?_ ?_ (Descends.of_subset (List.Subset.refl _)) ran
  · intro current request later kept shape _ _
    rw [shape] at kept
    simpa [passSkipped] using kept
  · intro current request later next kept shape _ _ drained
    rw [shape] at kept
    have passed := passDue_descends callback entries current request later
    exact (kept.trans passed).trans drained.descends

/-- Counting a missed urgent metadata makes a version of the request. -/
theorem noteMissedUrgent_same (request : PendingRequestInfo) (urgentFrameNumber : Nat) :
    SameRequest request (request.noteMissedUrgent urgentFrameNumber) := by
  obtain ⟨count, counted⟩ := noteMissedUrgent_eq request urgentFrameNumber
  rw [counted]
  exact ⟨rfl, rfl, rfl⟩

theorem handleUrgent_descends (callback : MetadataCallback) (urgentFrameNumber : Nat)
    (requests : List PendingRequestInfo) :
    Descends requests (handleUrgent callback urgentFrameNumber requests).1 := by
  induction requests with
  | nil => exact Descends.of_subset (List.Subset.refl _)
  | cons request rest inductionHypothesis =>
    have counted := noteMissedUrgent_same request urgentFrameNumber
    intro other member
    unfold handleUrgent at member
    simp only at member
    split at member
    · rcases List.mem_cons.mp member with rfl | inRest
      · exact ⟨request, by simp, counted.trans ⟨rfl, rfl, rfl⟩⟩
      · exact ⟨other, by simp [inRest], .refl other⟩
    · rcases List.mem_cons.mp member with rfl | inRest
      · exact ⟨request, by simp, counted⟩
      · obtain ⟨original, inOriginal, same⟩ := inductionHypothesis other inRest
        exact ⟨original, by simp [inOriginal], same⟩

/-- The urgent part of a callback keeps versions of the requests. -/
theorem handleUrgentPart_descends (callback : MetadataCallback) (entries : MetadataEntries)
    (tracker : Tracker) :
    Descends tracker.mPendingRequestsList (handleUrgentPart callback entries
        tracker).1.mPendingRequestsList := by
  unfold handleUrgentPart
  split
  · exact handleUrgent_descends callback entries.urgentFrameNumber tracker.mPendingRequestsList
  · exact Descends.of_subset (List.Subset.refl _)

theorem deepenPipeline_descends (tracker : Tracker) : Descends tracker.mPendingRequestsList
      tracker.deepenPipeline.mPendingRequestsList := by
  intro request member
  obtain ⟨original, inList, rfl⟩ := List.mem_map.mp member
  exact ⟨original, inList, ⟨rfl, rfl, rfl⟩⟩

/-- A metadata callback keeps versions of the requests. -/
theorem handleMetadataWithLock_descends
    (handled : handleMetadataWithLock callback tracker = some (next, sent)) :
    Descends tracker.mPendingRequestsList next.mPendingRequestsList := by
  rcases handleMetadataWithLock_cases handled with
    ⟨_, rfl, _⟩ | ⟨entries, _, ⟨_, rfl, _⟩ | ⟨_, final, ran, rfl, _⟩⟩
  · exact deepenPipeline_descends tracker
  · exact (handleUrgentPart_descends callback entries tracker).trans (deepenPipeline_descends _)
  · exact ((handleUrgentPart_descends callback entries tracker).trans
      (pendingLoop_descends ran)).trans (deepenPipeline_descends _)

/-- A black-level callback keeps versions of the requests. -/
theorem sendDynamicBlackLevelWithLock_descends (blackLevel frameNumber : Nat) (tracker : Tracker) :
    Descends tracker.mPendingRequestsList (sendDynamicBlackLevelWithLock blackLevel frameNumber
        tracker).1.mPendingRequestsList := by
  rcases sendDynamicBlackLevelWithLock_cases blackLevel frameNumber tracker
    with ⟨same, _⟩ | ⟨before, request, later, shape, _, _, _, outcome⟩
  · rw [same]
    exact Descends.of_subset (List.Subset.refl _)
  · rcases outcome with ⟨_, same⟩ | ⟨_, same⟩
    · rw [same, shape]
      apply Descends.of_subset
      apply List.Sublist.subset
      exact (List.Sublist.refl before).append
        ((List.dropWhile_sublist _).trans (List.sublist_cons_self _ _))
    · rw [same, shape]
      intro other member
      simp only [Tracker.setRequests_mPendingRequestsList, List.mem_append, List.mem_cons] at member
      rcases member with inBefore | rfl | inLater
      · exact ⟨other, by simp [inBefore], .refl other⟩
      · exact ⟨request, by simp, ⟨rfl, rfl, rfl⟩⟩
      · exact ⟨other, by simp [inLater], .refl other⟩

theorem updateRequest_descends {requests : List PendingRequestInfo}
    {request updated : PendingRequestInfo} (member : request ∈ requests)
    (same : SameRequest request updated) :
    Descends requests (updateRequest updated requests) := by
  have origin : ∀ other ∈ updateRequest updated requests, other ∈ requests ∨ other = updated := by
    clear member
    induction requests with
    | nil => simp [updateRequest]
    | cons current rest inductionHypothesis =>
      intro other inUpdated
      unfold updateRequest at inUpdated
      split at inUpdated
      · rcases List.mem_cons.mp inUpdated with rfl | inRest
        · exact .inr rfl
        · exact .inl (by simp [inRest])
      · rcases List.mem_cons.mp inUpdated with rfl | inRest
        · exact .inl (by simp)
        · rcases inductionHypothesis other inRest with old | new
          · exact .inl (by simp [old])
          · exact .inr new
  intro other inUpdated
  rcases origin other inUpdated with old | rfl
  · exact ⟨other, old, .refl other⟩
  · exact ⟨request, member, same⟩

/-- An output-buffer callback keeps versions of the requests. -/
theorem BufferOutcome.descends
    (outcome : BufferOutcome now buffer frameNumber tracker result) :
    Descends tracker.mPendingRequestsList
      result.1.mPendingRequestsList := by
  cases outcome with
  | sent =>
    obtain ⟨map, drops, same⟩ := sendBuffer_tracker buffer frameNumber tracker
    rw [same]
    exact Descends.of_subset (List.Subset.refl _)
  | cached => exact Descends.of_subset (List.Subset.refl _)
  | closed => exact Descends.of_subset List.eraseP_subset
  | kept found => exact updateRequest_descends (List.mem_of_find?_eq_some found) ⟨rfl, rfl, rfl⟩

/-! ## Delayed results -/

/-- Draining removes delayed results only. -/
theorem Drained.cache {next : PendingLoop} (drained : Drained delayed loop next) :
    next.tracker.mPendingReprocessResultList.Sublist
      loop.tracker.mPendingReprocessResultList := by
  cases drained with
  | nothing => exact .refl _
  | orphan => exact List.eraseP_sublist
  | delivered => exact List.eraseP_sublist

/-- The pending loop removes delayed results only. -/
theorem pendingLoop_cache (ran : pendingLoop callback entries rounds loop = some final) :
    final.tracker.mPendingReprocessResultList.Sublist
      loop.tracker.mPendingReprocessResultList := by
  apply pendingLoop_rule (fun current =>
      current.tracker.mPendingReprocessResultList.Sublist loop.tracker.mPendingReprocessResultList)
    ?_ ?_ (.refl _) ran
  · intro current request later kept shape _ _
    exact kept
  · intro current request later next kept shape _ _ drained
    obtain ⟨map, drops, passed⟩ := passDue_tracker callback entries current request later
    have fewer := drained.cache
    rw [passed] at fewer
    exact fewer.trans kept

/-- So does a metadata callback. -/
theorem handleMetadataWithLock_cache
    (handled : handleMetadataWithLock callback tracker = some (next, sent)) :
    next.mPendingReprocessResultList.Sublist
      tracker.mPendingReprocessResultList := by
  have urgent : ∀ entries, (handleUrgentPart callback entries
            tracker).1.mPendingReprocessResultList =
          tracker.mPendingReprocessResultList := by
    intro entries
    unfold handleUrgentPart
    split <;> rfl
  rcases handleMetadataWithLock_cases handled with
    ⟨_, rfl, _⟩ | ⟨entries, _, ⟨_, rfl, _⟩ | ⟨_, final, ran, rfl, _⟩⟩
  · exact .refl _
  · rw [← urgent entries]
    exact .refl _
  · rw [← urgent entries]
    exact pendingLoop_cache ran

/-- The members that a black-level callback leaves alone. -/
theorem sendDynamicBlackLevelWithLock_cache (blackLevel frameNumber : Nat) (tracker : Tracker) :
    (sendDynamicBlackLevelWithLock blackLevel frameNumber tracker).1.mPendingReprocessResultList =
      tracker.mPendingReprocessResultList := by
  rcases sendDynamicBlackLevelWithLock_cases blackLevel frameNumber tracker
    with ⟨same, _⟩ | ⟨before, request, later, _, _, _, _, outcome⟩
  · rw [same]
  · rcases outcome with ⟨_, same⟩ | ⟨_, same⟩
    · rw [same]
      rfl
    · rw [same]
      rfl

/-! ## Members that callbacks leave alone -/

/-- What only requests and configurations change. -/
structure Leaves (before after : Tracker) : Prop where
  firstRequest : after.mFirstRequest = before.mFirstRequest
  opticalBlackRegion : after.opticalBlackRegion = before.opticalBlackRegion

theorem Leaves.trans {first second third : Tracker} (earlier : Leaves first second)
    (later : Leaves second third) :
    Leaves first third where
  firstRequest := later.firstRequest.trans earlier.firstRequest
  opticalBlackRegion :=
    later.opticalBlackRegion.trans earlier.opticalBlackRegion

theorem pendingLoop_leaves (ran : pendingLoop callback entries rounds loop = some final) :
    Leaves loop.tracker final.tracker := by
  apply pendingLoop_rule (fun current => Leaves loop.tracker current.tracker) ?_ ?_ ⟨rfl, rfl⟩ ran
  · intro current request later kept shape _ _
    exact ⟨kept.firstRequest, kept.opticalBlackRegion⟩
  · intro current request later next kept shape _ _ drained
    obtain ⟨map, drops, passed⟩ := passDue_tracker callback entries current request later
    have answered : Leaves current.tracker
          (passDue callback entries request later current).tracker := by
      rw [passed]
      exact ⟨rfl, rfl⟩
    have delivered : Leaves (passDue callback entries request later current).tracker
          next.tracker := by
      cases drained <;> exact ⟨rfl, rfl⟩
    exact (kept.trans answered).trans delivered

/-- A metadata callback. -/
theorem handleMetadataWithLock_leaves
    (handled : handleMetadataWithLock callback tracker = some (next, sent)) :
    Leaves tracker next := by
  have urgent : ∀ entries, Leaves tracker (handleUrgentPart callback entries tracker).1 := by
    intro entries
    unfold handleUrgentPart
    split <;> exact ⟨rfl, rfl⟩
  rcases handleMetadataWithLock_cases handled with
    ⟨_, rfl, _⟩ | ⟨entries, _, ⟨_, rfl, _⟩ | ⟨_, final, ran, rfl, _⟩⟩
  · exact ⟨rfl, rfl⟩
  · exact (urgent entries).trans ⟨rfl, rfl⟩
  · exact ((urgent entries).trans (pendingLoop_leaves ran)).trans ⟨rfl, rfl⟩

/-- A black-level callback. -/
theorem sendDynamicBlackLevelWithLock_leaves (blackLevel frameNumber : Nat) (tracker : Tracker) :
    Leaves tracker (sendDynamicBlackLevelWithLock blackLevel frameNumber tracker).1 := by
  rcases sendDynamicBlackLevelWithLock_cases blackLevel frameNumber tracker
    with ⟨same, _⟩ | ⟨_, _, _, _, _, _, _, ⟨_, same⟩ | ⟨_, same⟩⟩
  · rw [same]
    exact ⟨rfl, rfl⟩
  · rw [same]
    exact ⟨rfl, rfl⟩
  · rw [same]
    exact ⟨rfl, rfl⟩

/-- An output-buffer callback. -/
theorem BufferOutcome.leaves
    (outcome : BufferOutcome now buffer frameNumber tracker result) :
    Leaves tracker result.1 := by
  cases outcome with
  | sent =>
    obtain ⟨map, drops, same⟩ := sendBuffer_tracker buffer frameNumber tracker
    rw [same]
    exact ⟨rfl, rfl⟩
  | cached => exact ⟨rfl, rfl⟩
  | closed => exact ⟨rfl, rfl⟩
  | kept => exact ⟨rfl, rfl⟩

/-! ## A step of the tracker -/

/-- A new or an old version of a request. -/
def Requested (event : TrackerEvent) (request : PendingRequestInfo) : Prop :=
  ∃ env capture, event = .processCaptureRequest env capture ∧
      request.frameNumber = capture.frameNumber

/-- After a step a request is a version of an old one, or the new one. -/
theorem Stepped.descends (stepped : Stepped tracker event next emitted) :
    ∀ request ∈ next.mPendingRequestsList, (∃ original ∈ tracker.mPendingRequestsList,
        SameRequest original request) ∨ Requested event request := by
  have fromOld : Descends tracker.mPendingRequestsList next.mPendingRequestsList →
        ∀ request ∈ next.mPendingRequestsList, (∃ original ∈ tracker.mPendingRequestsList,
            SameRequest original request) ∨ Requested event request :=
    fun descends request member => .inl (descends request member)
  cases stepped with
  | @request env capture _ rc sent outcome =>
    have registers : ∀ prepared : Tracker, prepared.mPendingRequestsList ⊆
            tracker.mPendingRequestsList →
          ∀ request ∈ (acceptRequest env capture prepared).1.mPendingRequestsList,
            (∃ original ∈ tracker.mPendingRequestsList, SameRequest original request) ∨
            Requested (.processCaptureRequest env capture) request := by
      intro prepared subset request member
      obtain ⟨flags, listed⟩ := (acceptRequest_accepted env capture prepared).requests
      rw [listed, List.mem_append, List.mem_singleton] at member
      rcases member with old | rfl
      · exact .inl ⟨request, subset old, .refl request⟩
      · exact .inr ⟨env, capture, rfl, rfl⟩
    cases outcome with
    | rejected stage =>
      apply fromOld
      rw [(Checked.of_fail stage).requests]
      exact Descends.of_subset (List.Subset.refl _)
    | @notRestarted checked stage restarts enough failed =>
      apply fromOld
      rw [← (Checked.of_proceed stage).requests]
      exact Descends.of_subset (afterErrors_sublist checked).subset
    | @restarted checked stage restarts enough started =>
      apply registers
      rw [← (Checked.of_proceed stage).requests]
      exact (afterErrors_sublist checked).subset
    | registered stage goesOn =>
      apply registers
      rw [(Checked.of_proceed stage).requests]
      exact List.Subset.refl _
  | metadata handled => exact fromOld (handleMetadataWithLock_descends handled)
  | blackLevel blackLevel frameNumber =>
    exact fromOld (sendDynamicBlackLevelWithLock_descends blackLevel frameNumber tracker)
  | ignoredInput => exact fromOld (Descends.of_subset (List.Subset.refl _))
  | inputBuffer => exact fromOld (Descends.of_subset List.eraseP_subset)
  | buffer outcome => exact fromOld outcome.descends
  | flushBegin =>
    apply fromOld
    unfold Hal3.flushBegin
    split <;> exact Descends.of_subset (List.Subset.refl _)
  | flushEnd =>
    exact fromOld (Descends.of_subset (afterErrors_sublist
        { tracker with mPendingLiveRequest := 0 }).subset)
  | configureStreams => exact fromOld (Descends.of_subset (List.nil_subset _))

theorem Stepped.cache (stepped : Stepped tracker event next emitted) :
    ∀ pending ∈ next.mPendingReprocessResultList, pending ∈ tracker.mPendingReprocessResultList ∨
        ∃ request ∈ tracker.mPendingRequestsList, request.frameNumber = pending.frameNumber ∧
            request.isLive = false := by
  have fromOld : next.mPendingReprocessResultList ⊆ tracker.mPendingReprocessResultList →
        ∀ pending ∈ next.mPendingReprocessResultList,
          pending ∈ tracker.mPendingReprocessResultList ∨ ∃ request ∈ tracker.mPendingRequestsList,
              request.frameNumber = pending.frameNumber ∧ request.isLive = false :=
    fun subset pending member => .inl (subset member)
  cases stepped with
  | @request env capture _ rc sent outcome =>
    apply fromOld
    cases outcome with
    | rejected stage =>
      rw [(Checked.of_fail stage).reprocessResults]
      exact List.Subset.refl _
    | notRestarted stage restarts enough failed => exact List.nil_subset _
    | restarted stage restarts enough started =>
      rw [(acceptRequest_accepted env capture _).reprocessResults]
      exact List.nil_subset _
    | registered stage goesOn =>
      rw [(acceptRequest_accepted env capture _).reprocessResults,
        (Checked.of_proceed stage).reprocessResults]
      exact List.Subset.refl _
  | metadata handled => exact fromOld (handleMetadataWithLock_cache handled).subset
  | blackLevel blackLevel frameNumber =>
    apply fromOld
    rw [sendDynamicBlackLevelWithLock_cache]
    exact List.Subset.refl _
  | ignoredInput => exact fromOld (List.Subset.refl _)
  | inputBuffer => exact fromOld (List.Subset.refl _)
  | @buffer now buffer frameNumber result outcome =>
    cases outcome with
    | sent =>
      apply fromOld
      obtain ⟨map, drops, same⟩ := sendBuffer_tracker buffer frameNumber tracker
      rw [same]
      exact List.Subset.refl _
    | @cached request found waits reprocess older member below =>
      intro pending inCache
      rcases List.mem_append.mp inCache with old | new
      · exact .inl old
      · rw [List.mem_singleton] at new
        subst pending
        exact .inr ⟨request, List.mem_of_find?_eq_some found, frame_of_found found,
          request.isLive_of_inputBuffer reprocess⟩
    | closed => exact fromOld (List.Subset.refl _)
    | kept => exact fromOld (List.Subset.refl _)
  | flushBegin =>
    apply fromOld
    unfold Hal3.flushBegin
    split <;> exact List.Subset.refl _
  | flushEnd => exact fromOld (List.nil_subset _)
  | configureStreams => exact fromOld (List.nil_subset _)

/-! ## Delayed results along runs -/

/-- Frame order, and delayed results of reprocess requests only. -/
structure Tracked (tracker : Tracker) (past : List TrackerEvent) : Prop where
  inOrder : InOrder tracker past
  cacheRequested : ∀ pending ∈ tracker.mPendingReprocessResultList,
      pending.frameNumber ∈ requestedFrames past
  cacheReprocess : ∀ pending ∈ tracker.mPendingReprocessResultList,
      ∀ request ∈ tracker.mPendingRequestsList, request.frameNumber = pending.frameNumber →
        request.isLive = false

/-- A fresh tracker has neither requests nor delayed results. -/
theorem Tracked.of_fresh (fresh : tracker.Fresh) : Tracked tracker [] where
  inOrder := .of_fresh fresh
  cacheRequested := by simp [fresh.reprocessResults]
  cacheReprocess := by simp [fresh.reprocessResults]

/-- A step with increasing frame numbers keeps track. -/
theorem Tracked.step {past : List TrackerEvent} (tracked : Tracked tracker past)
    (increase : FramesIncrease past event)
    (stepped : Stepped tracker event next emitted) :
    Tracked next (past ++ [event]) := by
  have requestedAppend : requestedFrames (past ++ [event]) =
        requestedFrames past ++ requestedFrames [event] :=
    List.filterMap_append
  have known : ∀ pending ∈ next.mPendingReprocessResultList,
        pending.frameNumber ∈ requestedFrames past := by
    intro pending member
    rcases stepped.cache pending member with old | ⟨request, inList, same, _⟩
    · exact tracked.cacheRequested pending old
    · rw [← same]
      exact tracked.inOrder.requested request inList
  refine ⟨tracked.inOrder.step increase stepped, ?_, ?_⟩
  · intro pending member
    rw [requestedAppend]
    exact List.mem_append_left _ (known pending member)
  · intro pending inCache request inList same
    rcases stepped.descends request inList with
      ⟨original, inOriginal, version⟩ | ⟨env, capture, rfl, isNew⟩
    · rw [version.isLive]
      rw [version.frameNumber] at same
      rcases stepped.cache pending inCache with old | ⟨reprocess, inReprocess, frame, notLive⟩
      · exact tracked.cacheReprocess pending old original inOriginal same
      · have equal : original = reprocess :=
          tracked.inOrder.ordered.eq_of_frame inOriginal inReprocess (same.trans frame.symm)
        rw [equal]
        exact notLive
    · have above := increase pending.frameNumber (known pending inCache)
          capture.frameNumber (by simp [requestedFrames])
      omega

end AnglerHal.Hal3
