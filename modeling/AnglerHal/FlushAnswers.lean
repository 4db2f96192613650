import AnglerHal.RequestOrder
import AnglerHal.ResultLog

namespace AnglerHal.Hal3

/-!
# Answering everything with errors

`notifyErrorForPendingRequests` walks its groups of buffers and the request
list by position.  It answers every pending buffer and request under its own
frame number exactly if the groups that are not older than the oldest request
are those of the pending requests.
-/

/-- The input buffers of some requests, with their frame numbers. -/
def requestInputs (requests : List PendingRequestInfo) : List (Nat × Camera3StreamBuffer) :=
  requests.flatMap fun request =>
    request.inputBuffer.toList.map fun buffer =>
      (request.frameNumber, buffer)

/-- A pending buffer as it has to be returned: its frame, with an error. -/
def PendingBufferInfo.toReturned (info : PendingBufferInfo) : Nat × Camera3StreamBuffer :=
  (info.frameNumber, info.toError)

/--
Everything pending is answered: the call returns, nothing is left, every buffer
is returned with an error under its frame, every request is reported under its
frame and gets its input buffer back.
-/
def AnswersAll (tracker : Tracker) : Prop :=
  ∃ next sent, notifyErrorForPendingRequests tracker = some (next, sent) ∧
      next.mPendingRequestsList = [] ∧
      next.mPendingBuffersMap.mPendingBufferList = [] ∧
      next.mPendingBuffersMap.numBuffers = 0 ∧
      (returnedBuffers sent).Perm (tracker.mPendingBuffersMap.mPendingBufferList.map
          PendingBufferInfo.toReturned) ∧
      (errorFrames .request sent).Perm (requestFrames tracker.mPendingRequestsList) ∧
      (returnedInputs sent).Perm (requestInputs tracker.mPendingRequestsList)

/--
Every pending request has a pending buffer, and every pending buffer that is not
older than the oldest request belongs to a pending request.
-/
def BuffersAligned (tracker : Tracker) : Prop :=
  (∀ request ∈ tracker.mPendingRequestsList, ∃ info ∈ tracker.mPendingBuffersMap.mPendingBufferList,
      info.frameNumber = request.frameNumber) ∧
  ∀ info ∈ tracker.mPendingBuffersMap.mPendingBufferList,
    oldestFrame tracker.mPendingRequestsList ≤ info.frameNumber →
    ∃ request ∈ tracker.mPendingRequestsList, request.frameNumber = info.frameNumber

instance (tracker : Tracker) : Decidable (BuffersAligned tracker) :=
  inferInstanceAs (Decidable (_ ∧ _))

/-! ## Groups -/

theorem flushMap_group_frames {pending : List PendingBufferInfo}
    {group : Nat × List PendingBufferInfo} (member : group ∈ (flushMap pending).items)
    {info : PendingBufferInfo} (inGroup : info ∈ group.2) :
    info.frameNumber = group.1 := by
  obtain ⟨_, filtered⟩ := KeyedVector.mem_groupBy.mp member
  rw [filtered] at inGroup
  simpa using (List.mem_filter.mp inGroup).2

theorem flushMap_returned (pending : List PendingBufferInfo) :
    ((flushMap pending).items.flatMap fun group =>
        (group.2.map PendingBufferInfo.toError).map fun buffer =>
          (group.1, buffer)).Perm
      (pending.map PendingBufferInfo.toReturned) := by
  have own : ((flushMap pending).items.flatMap fun group =>
          (group.2.map PendingBufferInfo.toError).map fun buffer =>
            (group.1, buffer)) =
        ((flushMap pending).items.flatMap Prod.snd).map
          PendingBufferInfo.toReturned := by
    rw [List.map_flatMap]
    apply List.flatMap_congr
    intro group member
    rw [List.map_map]
    apply List.map_congr_left
    intro info inGroup
    simp [PendingBufferInfo.toReturned, flushMap_group_frames member inGroup]
  rw [own]
  exact (KeyedVector.flatten_groupBy _ pending).map _

variable {tracker : Tracker} {requests : List PendingRequestInfo}
  {groups : List (Nat × List PendingBufferInfo)}

theorem mem_openGroups_keys {frameNumber : Nat} :
    frameNumber ∈ (openGroups tracker).keys ↔
      ∃ info ∈ tracker.mPendingBuffersMap.mPendingBufferList,
        oldestFrame tracker.mPendingRequestsList ≤ info.frameNumber ∧
          info.frameNumber = frameNumber := by
  unfold openGroups flushMap
  rw [KeyedVector.mem_keys_groupBy]
  simp [and_assoc]

theorem oldestFrame_le (ordered : Ordered requests) {request : PendingRequestInfo}
    (member : request ∈ requests) :
    oldestFrame requests ≤ request.frameNumber := by
  cases requests with
  | nil => simp at member
  | cons first rest =>
    rcases List.mem_cons.mp member with rfl | inRest
    · exact Nat.le_refl _
    · exact Nat.le_of_lt ((List.pairwise_cons.mp ordered).1 _ inRest)

theorem buffersAligned_iff_keys (ordered : Ordered tracker.mPendingRequestsList) :
    BuffersAligned tracker ↔ (openGroups tracker).keys =
        requestFrames tracker.mPendingRequestsList := by
  have sameMembers : BuffersAligned tracker ↔ ∀ frameNumber,
          frameNumber ∈ (openGroups tracker).keys ↔
            frameNumber ∈ requestFrames tracker.mPendingRequestsList := by
    constructor
    · rintro ⟨covered, owned⟩ frameNumber
      rw [mem_openGroups_keys]
      constructor
      · rintro ⟨info, inMap, recent, rfl⟩
        obtain ⟨request, inList, same⟩ := owned info inMap recent
        exact List.mem_map.mpr ⟨request, inList, same⟩
      · intro member
        obtain ⟨request, inList, rfl⟩ := List.mem_map.mp member
        obtain ⟨info, inMap, same⟩ := covered request inList
        exact ⟨info, inMap, by
          rw [same]; exact oldestFrame_le ordered inList, same⟩
    · intro same
      refine ⟨?_, ?_⟩
      · intro request inList
        obtain ⟨info, inMap, _, frame⟩ :=
          mem_openGroups_keys.mp ((same _).mpr (List.mem_map_of_mem inList))
        exact ⟨info, inMap, frame⟩
      · intro info inMap recent
        have inKeys : info.frameNumber ∈ (openGroups tracker).keys :=
          mem_openGroups_keys.mpr ⟨info, inMap, recent, rfl⟩
        obtain ⟨request, inList, frame⟩ := List.mem_map.mp ((same _).mp inKeys)
        exact ⟨request, inList, frame⟩
  rw [sameMembers]
  constructor
  · intro same
    have keysSorted := (openGroups tracker).keys_sorted
    have framesSorted := ordered_iff_frames.mp ordered
    have permuted : (openGroups tracker).keys.Perm
          (requestFrames tracker.mPendingRequestsList) := by
      rw [List.perm_ext_iff_of_nodup (keysSorted.imp Nat.ne_of_lt) (framesSorted.imp Nat.ne_of_lt)]
      exact same
    apply permuted.eq_of_pairwise ?_ keysSorted framesSorted
    intro first second _ _ below above
    omega
  · intro same frameNumber
    rw [same]

/-! ## What is sent -/

theorem answeredGroups_sent (groups : List (Nat × List PendingBufferInfo)) :
    errorFrames .request (groups.flatMap errorBuffers) = [] ∧
      returnedInputs (groups.flatMap errorBuffers) = [] ∧
      returnedBuffers (groups.flatMap errorBuffers) = groups.flatMap fun group =>
          (group.2.map PendingBufferInfo.toError).map fun buffer =>
            (group.1, buffer) := by
  have reports : ∀ group : Nat × List PendingBufferInfo,
        errorFrames .request (group.2.map fun info =>
            Output.notify (.error group.1 .buffer (some info.stream))) =
            [] ∧
          returnedInputs (group.2.map fun info =>
            Output.notify (.error group.1 .buffer (some info.stream))) =
            [] ∧
          returnedBuffers (group.2.map fun info =>
            Output.notify (.error group.1 .buffer (some info.stream))) =
            [] := by
    intro group
    simp [errorFrames, returnedInputs, returnedBuffers, List.filterMap_map, List.flatMap_map]
  induction groups with
  | nil => exact ⟨rfl, rfl, rfl⟩
  | cons group groups inductionHypothesis =>
    obtain ⟨noRequest, noInput, buffers⟩ := inductionHypothesis
    obtain ⟨headRequest, headInput, headBuffers⟩ := reports group
    simp only [List.flatMap_cons, errorFrames_append,
      returnedInputs_append, returnedBuffers_append, noRequest, noInput,
      buffers, errorBuffers, headRequest, headInput, headBuffers]
    exact ⟨rfl, rfl, by simp [returnedBuffers, errorResult]⟩

theorem openGroups_sent (enough : groups.length ≤ requests.length) :
    errorFrames .request (List.zipWith errorRequest groups requests).flatten = groups.map Prod.fst ∧
      returnedBuffers (List.zipWith errorRequest groups requests).flatten =
        groups.flatMap fun group =>
          (group.2.map PendingBufferInfo.toError).map fun buffer =>
            (group.1, buffer) := by
  induction groups generalizing requests with
  | nil => exact ⟨rfl, rfl⟩
  | cons group groups inductionHypothesis =>
    cases requests with
    | nil => simp at enough
    | cons request requests =>
      obtain ⟨frames, buffers⟩ := inductionHypothesis (Nat.le_of_succ_le_succ enough)
      simp only [List.zipWith_cons_cons, List.flatten_cons,
        errorFrames_append, returnedBuffers_append, frames, buffers]
      exact ⟨rfl, by
        simp [errorRequest, returnedBuffers, errorResult]⟩

theorem openGroups_inputs (aligned : groups.map Prod.fst = requestFrames requests) :
    returnedInputs (List.zipWith errorRequest groups requests).flatten =
      requestInputs requests := by
  induction groups generalizing requests with
  | nil =>
    cases requests with
    | nil => rfl
    | cons request requests => simp at aligned
  | cons group groups inductionHypothesis =>
    cases requests with
    | nil => simp at aligned
    | cons request requests =>
      simp only [List.map_cons, requestFrames_cons, List.cons.injEq] at aligned
      have rest := inductionHypothesis aligned.2
      simp only [List.zipWith_cons_cons, List.flatten_cons, returnedInputs_append, rest]
      simp [errorRequest, returnedInputs, errorResult, requestInputs, aligned.1]

/-- The recovery returns every pending buffer under its frame number. -/
theorem sentErrors_returned (enough : (openGroups tracker).items.length ≤
        tracker.mPendingRequestsList.length) :
    (returnedBuffers (sentErrors tracker)).Perm (tracker.mPendingBuffersMap.mPendingBufferList.map
        PendingBufferInfo.toReturned) := by
  obtain ⟨_, _, answeredBuffers⟩ := answeredGroups_sent (answeredGroups tracker).items
  obtain ⟨_, openBuffers⟩ := openGroups_sent enough
  unfold sentErrors
  rw [returnedBuffers_append, answeredBuffers, openBuffers]
  have answered :=
    flushMap_returned (tracker.mPendingBuffersMap.mPendingBufferList.filter fun info =>
        info.frameNumber < oldestFrame tracker.mPendingRequestsList)
  have stillOpen :=
    flushMap_returned (tracker.mPendingBuffersMap.mPendingBufferList.filter fun info =>
        !(info.frameNumber < oldestFrame tracker.mPendingRequestsList))
  have both := answered.append stillOpen
  rw [← List.map_append] at both
  exact both.trans ((List.filter_append_perm _ tracker.mPendingBuffersMap.mPendingBufferList).map _)

/-! ## Both directions -/

theorem BuffersAligned.answersAll (ordered : Ordered tracker.mPendingRequestsList)
    (aligned : BuffersAligned tracker) :
    AnswersAll tracker := by
  have keys := (buffersAligned_iff_keys ordered).mp aligned
  have sameLength : (openGroups tracker).items.length =
        tracker.mPendingRequestsList.length := by
    have lengths := congrArg List.length keys
    simpa [KeyedVector.keys, requestFrames] using lengths
  have enough : (openGroups tracker).items.length ≤
        tracker.mPendingRequestsList.length :=
    Nat.le_of_eq sameLength
  obtain ⟨noRequest, noInput, _⟩ := answeredGroups_sent (answeredGroups tracker).items
  obtain ⟨requestErrors, _⟩ := openGroups_sent enough
  refine ⟨afterErrors tracker, sentErrors tracker, ?_, ?_, rfl, rfl, ?_, ?_, ?_⟩
  · rw [notifyErrorForPendingRequests_eq, if_pos enough]
  · simp [afterErrors, Tracker.setBuffers, sameLength]
  · exact sentErrors_returned enough
  · unfold sentErrors
    rw [errorFrames_append, noRequest, requestErrors]
    exact .of_eq keys
  · unfold sentErrors
    rw [returnedInputs_append, noInput, openGroups_inputs keys]
    exact .refl _

theorem AnswersAll.buffersAligned (ordered : Ordered tracker.mPendingRequestsList)
    (answers : AnswersAll tracker) :
    BuffersAligned tracker := by
  obtain ⟨next, sent, notified, _, _, _, _, requests, _⟩ := answers
  obtain ⟨enough, _, rfl⟩ := notifyErrorForPendingRequests_some notified
  obtain ⟨noRequest, _, _⟩ := answeredGroups_sent (answeredGroups tracker).items
  obtain ⟨requestErrors, _⟩ := openGroups_sent enough
  unfold sentErrors at requests
  rw [errorFrames_append, noRequest, requestErrors, List.nil_append] at requests
  rw [buffersAligned_iff_keys ordered]
  apply requests.eq_of_pairwise ?_ (openGroups tracker).keys_sorted (ordered_iff_frames.mp ordered)
  intro first second _ _ below above
  omega

/--
From every reachable state everything pending is answered under its own frame
number exactly if the pending buffers are aligned with the pending requests.
-/
theorem notifyErrorForPendingRequests_answersAll_iff {start tracker : Tracker}
    {events : List TrackerEvent} {log : List Output} (fresh : start.Fresh)
    (increase : LabelledRun.Guarded trackerStep (fun _ past event => FramesIncrease past event)
        start [] events)
    (ran : trackerRun start events = some (tracker, log)) :
    AnswersAll tracker ↔ BuffersAligned tracker := by
  have inOrder : InOrder tracker ([] ++ events) :=
    LabelledRun.invariant_of_guarded (fun current past _ => InOrder current past)
      [] increase ran (.of_fresh fresh)
      (fun kept increases step =>
        kept.step increases (trackerStep_stepped step))
  exact ⟨AnswersAll.buffersAligned inOrder.ordered, BuffersAligned.answersAll inOrder.ordered⟩

/-- A live and a reprocess request, both untouched, are answered. -/
theorem notifyErrorForPendingRequests_answers_twoRequests : ∃ tracker log,
      trackerRun (opened true false) [liveEvent 1, reprocessEvent 2] = some (tracker, log) ∧
        AnswersAll tracker := by
  refine ⟨_, _, rfl, ?_⟩
  exact (@notifyErrorForPendingRequests_answersAll_iff
    (opened true false) _ [liveEvent 1, reprocessEvent 2] _
    (opened_fresh true false) (by decide) rfl).mpr (by decide)

/-- A raw request without buffers left shifts the walk by one request. -/
theorem notifyErrorForPendingRequests_skips_request : ∃ tracker log, trackerRun (opened true false)
          [rawEvent 1, liveEvent 2, urgentEvent 1, .buffer 0 (rawBuffer 1) 1, normalEvent 1] =
          some (tracker, log) ∧
        ¬ AnswersAll tracker := by
  refine ⟨_, _, rfl, ?_⟩
  rintro ⟨next, sent, notified, none, _⟩
  obtain ⟨_, rfl, _⟩ := notifyErrorForPendingRequests_some notified
  revert none
  decide

end AnglerHal.Hal3
