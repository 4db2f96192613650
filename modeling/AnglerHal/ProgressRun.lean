import AnglerHal.ProgressSimulation

namespace AnglerHal.Hal3

/-!
# The simulation along runs

A run of requests and callbacks, without flush and configuration, is a run of
the counting on its history, as long as no black level cuts a deferred request
off.
-/

/-- A request, or a callback for requests made before. -/
def CallbackStep (condition : List Progress.Event → Progress.Event → Prop) (tracker : Tracker)
    (past : List TrackerEvent)
    (event : TrackerEvent) : Prop :=
  FramesIncrease past event ∧ Progress.Along condition
      (progressHistory tracker.opticalBlackRegion past)
      (progressEvents tracker.opticalBlackRegion event) ∧
    match event with
    | .processCaptureRequest env request => Registers env request tracker
    | .metadata callback =>
      ∀ named ∈ progressEvents tracker.opticalBlackRegion (.metadata callback),
        named.frame ∈ liveFrames past
    | .blackLevel _ frameNumber => frameNumber ∈ requestedFrames past
    | .inputBuffer _ _ _ | .buffer _ _ _ => True
    | .flushBegin | .flushEnd | .configureStreams _ => False

instance {condition : List Progress.Event → Progress.Event → Prop}
    [∀ past event, Decidable (condition past event)]
    (tracker : Tracker)
    (past : List TrackerEvent)
    (event : TrackerEvent) :
    Decidable (CallbackStep condition tracker past event) :=
  match event with
  | .processCaptureRequest env request =>
    inferInstanceAs (Decidable (_ ∧ _ ∧ Registers env request tracker))
  | .metadata _ => inferInstanceAs (Decidable (_ ∧ _ ∧ ∀ named ∈ _, _))
  | .blackLevel _ _ => inferInstanceAs (Decidable (_ ∧ _ ∧ _ ∈ requestedFrames past))
  | .inputBuffer _ _ _ | .buffer _ _ _ => inferInstanceAs (Decidable (_ ∧ _ ∧ True))
  | .flushBegin | .flushEnd | .configureStreams _ => inferInstanceAs (Decidable (_ ∧ _ ∧ False))

/-- No deferred request is cut off by this event. -/
def CutsNoneOff (tracker : Tracker) : TrackerEvent → Prop
  | .blackLevel _ frameNumber => NoneCutOff frameNumber tracker
  | _ => True

instance (tracker : Tracker) (event : TrackerEvent) : Decidable (CutsNoneOff tracker event) :=
  match event with
  | .blackLevel _ frameNumber => inferInstanceAs (Decidable (NoneCutOff frameNumber tracker))
  | .processCaptureRequest _ _ | .metadata _ | .inputBuffer _ _ _
  | .buffer _ _ _ | .flushBegin | .flushEnd | .configureStreams _ => isTrue trivial

/-- The tracker, its log and the counting after the same history. -/
structure Simulates (tracker : Tracker) (past : List TrackerEvent) (log : List Output)
    (state : Progress.State) : Prop where
  tracked : Tracked tracker past
  liveness : ∀ request ∈ tracker.mPendingRequestsList,
      (request.isLive = true ↔ request.frameNumber ∈ liveFrames past)
  uncounted : ReprocessUncounted (progressHistory tracker.opticalBlackRegion past)
      tracker.mPendingRequestsList
  cache : CacheReprocess (liveFrames past) tracker.mPendingReprocessResultList
  results : ResultsOf (requestedFrames past) log
  entries : liveEntries tracker.mPendingRequestsList = state.entries
  partials : livePartials (liveFrames past) log = state.partials
  errors : errorFrames .result log = state.errors

variable {tracker : Tracker} {past : List TrackerEvent} {log : List Output}
  {state : Progress.State} {event : TrackerEvent} {frameNumber : Nat} {live : List Nat}

/-- A fresh tracker has counted nothing. -/
theorem Simulates.of_fresh (fresh : tracker.Fresh) :
    Simulates tracker [] [] Progress.State.empty where
  tracked := .of_fresh fresh
  liveness := by simp [fresh.requests]
  uncounted := by
    intro request member
    simp [fresh.requests] at member
  cache := by
    intro pending member
    simp [fresh.reprocessResults] at member
  results := by
    intro result member
    simp at member
  entries := by simp [fresh.requests, Progress.State.empty]
  partials := rfl
  errors := rfl

theorem Simulates.callback {next : Tracker} {emitted : List Output}
    (simulates : Simulates tracker past log state)
    (noRequest : requestedFrames [event] = [])
    (stepped : Stepped tracker event next emitted) (leaves : Leaves tracker next)
    (uncounted : ReprocessUncounted (progressHistory tracker.opticalBlackRegion past ++
          progressEvents tracker.opticalBlackRegion event)
        next.mPendingRequestsList)
    (cache : CacheReprocess (liveFrames past) next.mPendingReprocessResultList)
    (results : ResultsOf (requestFrames tracker.mPendingRequestsList) emitted)
    (progress : Progress.run state (progressEvents tracker.opticalBlackRegion event) =
      countingAfter (liveFrames past) state (next, emitted)) :
    Simulates next (past ++ [event]) (log ++ emitted) (Progress.run state
        (progressEvents tracker.opticalBlackRegion event)) := by
  unfold countingAfter at progress
  have isCallback : ∀ env request, event ≠ .processCaptureRequest env request := by
    rintro env request rfl
    simp [requestedFrames] at noRequest
  have sameLive : liveFrames (past ++ [event]) = liveFrames past := by
    cases event with
    | processCaptureRequest env request => exact absurd rfl (isCallback env request)
    | _ => simp [liveFrames]
  have sameRequested : requestedFrames (past ++ [event]) = requestedFrames past := by
    have append : requestedFrames (past ++ [event]) =
          requestedFrames past ++ requestedFrames [event] :=
      List.filterMap_append
    rw [append, noRequest, List.append_nil]
  have increase : FramesIncrease past event := by
    intro earlier _ frameNumber member
    simp [noRequest] at member
  refine ⟨simulates.tracked.step increase stepped, ?_, ?_, ?_, ?_, ?_, ?_, ?_⟩
  · intro request member
    rw [sameLive]
    rcases stepped.descends request member with
      ⟨original, inList, version⟩ | ⟨env, capture, isRequest, _⟩
    · rw [version.isLive, version.frameNumber]
      exact simulates.liveness original inList
    · exact absurd isRequest (isCallback env capture)
  · rw [leaves.opticalBlackRegion, progressHistory_append, progressHistory_singleton]
    exact uncounted
  · rw [sameLive]
    exact cache
  · rw [sameRequested]
    refine simulates.results.append (results.mono ?_)
    intro frameNumber member
    obtain ⟨request, inList, rfl⟩ := List.mem_map.mp member
    exact simulates.tracked.inOrder.requested request inList
  · rw [progress]
  · rw [progress, sameLive, livePartials_append, simulates.partials]
  · rw [progress, errorFrames_append, simulates.errors]

theorem Simulates.namesLive {callback : MetadataCallback}
    (simulates : Simulates tracker past log state)
    (named : ∀ event ∈ progressEvents tracker.opticalBlackRegion (.metadata callback),
        event.frame ∈ liveFrames past) :
    NamesLive callback tracker := by
  intro entries given request member reprocess
  have notLive : request.frameNumber ∉ liveFrames past := by
    intro inLive
    have isLive := (simulates.liveness request member).mpr inLive
    simp [reprocess] at isLive
  have given' : callback.entries = some entries := by simpa using given
  simp only [progressEvents, given'] at named
  refine ⟨?_, ?_⟩
  · rintro valid same
    have inLive := named (.urgent entries.urgentFrameNumber) (by simp [valid])
    exact notLive (same ▸ inLive)
  · rintro valid same
    have inLive := named (.normal entries.frameNumber) (by simp [valid])
    exact notLive (same ▸ inLive)

/-- On requests in frame order a metadata callback always returns. -/
theorem handleMetadataWithLock_defined (callback : MetadataCallback)
    (ordered : Ordered tracker.mPendingRequestsList) :
    ∃ next sent, handleMetadataWithLock callback tracker = some (next, sent) := by
  unfold handleMetadataWithLock
  cases callback.entries with
  | none => exact ⟨_, _, rfl⟩
  | some entries =>
    have urgentOrdered : Ordered (handleUrgentPart callback entries
            tracker).1.mPendingRequestsList := by
      rw [ordered_iff_frames, handleUrgentPart_frames, ← ordered_iff_frames]
      exact ordered
    simp only
    unfold handleNormalPart
    split
    · obtain ⟨final, ran⟩ :=
        @pendingLoop_defined callback entries (handleUrgentPart callback entries
            tracker).1.mPendingRequestsList.length
          (startLoop (handleUrgentPart callback entries tracker).1)
          (by simpa [startLoop] using urgentOrdered)
      unfold startLoop at ran
      simp only [ran, Option.map_some]
      exact ⟨_, _, rfl⟩
    · exact ⟨_, _, rfl⟩

theorem BufferOutcome.cacheReprocess {now : Int} {buffer : Camera3StreamBuffer}
    {result : Tracker × List Output}
    (outcome : BufferOutcome now buffer frameNumber tracker result)
    (liveness : ∀ request ∈ tracker.mPendingRequestsList,
        (request.isLive = true ↔ request.frameNumber ∈ live))
    (cache : CacheReprocess live tracker.mPendingReprocessResultList) :
    CacheReprocess live result.1.mPendingReprocessResultList := by
  cases outcome with
  | sent =>
    obtain ⟨map, drops, same⟩ := sendBuffer_tracker buffer frameNumber tracker
    rw [same]
    exact cache
  | cached found waits given member below =>
    intro pending inCache
    rcases List.mem_append.mp inCache with old | new
    · exact cache pending old
    · rw [List.mem_singleton] at new
      subst pending
      exact ⟨not_mem_live_of_found liveness found
        (PendingRequestInfo.isLive_of_inputBuffer given), _, _, rfl⟩
  | closed => exact cache
  | kept => exact cache

theorem BufferOutcome.reprocess {now : Int} {buffer : Camera3StreamBuffer}
    {frameNumber : Nat} {tracker : Tracker} {result : Tracker × List Output}
    (outcome : BufferOutcome now buffer frameNumber tracker result) :
    ReprocessKept tracker.mPendingRequestsList
      result.1.mPendingRequestsList := by
  cases outcome with
  | sent =>
    obtain ⟨map, drops, same⟩ := sendBuffer_tracker buffer frameNumber tracker
    rw [same]
    exact .of_subset (List.Subset.refl _)
  | cached => exact .of_subset (List.Subset.refl _)
  | closed => exact .of_subset List.eraseP_subset
  | @kept request found waits given =>
    have named := frame_of_found found
    obtain ⟨before, later, shape, replaced⟩ :=
      updateRequest_found found (show (request.keepBuffer buffer).frameNumber = frameNumber from
          named)
    intro other member reprocess
    simp only [Tracker.setRequests_mPendingRequestsList, replaced,
      List.mem_append, List.mem_cons] at member
    rcases member with inBefore | rfl | inLater
    · exact ⟨other, by simp [shape, inBefore], reprocess, rfl, rfl⟩
    · exact ⟨request, by simp [shape], reprocess, rfl, rfl⟩
    · exact ⟨other, by simp [shape, inLater], reprocess, rfl, rfl⟩

theorem handleInputBufferWithLock_leaves (now : Int)
    (buffer : Option Camera3StreamBuffer) (frameNumber : Nat) (tracker : Tracker) :
    Leaves tracker (handleInputBufferWithLock now buffer frameNumber tracker).1 ∧
      ReprocessKept tracker.mPendingRequestsList (handleInputBufferWithLock now buffer frameNumber
          tracker).1.mPendingRequestsList ∧
      (handleInputBufferWithLock now buffer frameNumber tracker).1.mPendingReprocessResultList =
        tracker.mPendingReprocessResultList := by
  rcases handleInputBufferWithLock_cases now buffer frameNumber tracker
    with same | ⟨request, map, sent, _, _, same⟩
  · rw [same]
    exact ⟨⟨rfl, rfl⟩, .of_subset (List.Subset.refl _), rfl⟩
  · rw [same]
    exact ⟨⟨rfl, rfl⟩, .of_subset List.eraseP_subset, rfl⟩

theorem liveFrames_subset (events : List TrackerEvent) :
    liveFrames events ⊆ requestedFrames events := by
  intro frameNumber member
  obtain ⟨event, inEvents, isLive⟩ := List.mem_filterMap.mp member
  refine List.mem_filterMap.mpr ⟨event, inEvents, ?_⟩
  cases event with
  | processCaptureRequest env request =>
    simp only at isLive ⊢
    split_ifs at isLive
    exact isLive
  | _ => simp at isLive

theorem Simulates.request {env : RequestEnv} {request : CaptureRequest}
    {tracker : Tracker} {past : List TrackerEvent} {log : List Output}
    {state : Progress.State} (simulates : Simulates tracker past log state)
    (increase : FramesIncrease past (.processCaptureRequest env request))
    (registers : Registers env request tracker) :
    ∃ next emitted, trackerStep tracker (.processCaptureRequest env request) =
          some (next, emitted) ∧
        next.opticalBlackRegion = tracker.opticalBlackRegion ∧
        Simulates next (past ++ [TrackerEvent.processCaptureRequest env request]) (log ++ emitted)
          (Progress.run state (progressEvents tracker.opticalBlackRegion
              (.processCaptureRequest env request))) := by
  obtain ⟨checked, isChecked, called⟩ := registers.accepted
  have accepted := acceptRequest_accepted env request checked
  have defined : trackerStep tracker (.processCaptureRequest env request) =
        some ((acceptRequest env request checked).1, [.requestStatus request.frameNumber
            (acceptRequest env request checked).2]) := by
    simp [trackerStep, called]
  have optical : (acceptRequest env request checked).1.opticalBlackRegion =
        tracker.opticalBlackRegion :=
    accepted.opticalBlackRegion.trans isChecked.opticalBlackRegion
  have newFrame : ∀ earlier ∈ requestedFrames past, earlier < request.frameNumber :=
    fun earlier member =>
      increase earlier member request.frameNumber (by simp [requestedFrames])
  have newLive : ∀ frameNumber, frameNumber ∈
            liveFrames (past ++ [TrackerEvent.processCaptureRequest env request]) ↔
          frameNumber ∈ liveFrames past ∨ (request.isLive = true ∧
              frameNumber = request.frameNumber) := by
    intro frameNumber
    rw [liveFrames_append, List.mem_append]
    cases live : request.isLive <;> simp [liveFrames, live]
  have old : ∀ frameNumber ∈ requestedFrames past, (frameNumber ∈
            liveFrames (past ++ [TrackerEvent.processCaptureRequest env request]) ↔
          frameNumber ∈ liveFrames past) := by
    intro frameNumber member
    have below := newFrame frameNumber member
    rw [newLive]
    constructor
    · rintro (inLive | ⟨_, rfl⟩)
      · exact inLive
      · exact absurd below (Nat.lt_irrefl _)
    · exact .inl
  have silent : partialResults [.requestStatus request.frameNumber
          (acceptRequest env request checked).2] = [] :=
    rfl
  obtain ⟨flags, listed⟩ := accepted.requests
  rw [isChecked.requests] at listed
  refine ⟨_, _, defined, optical, ?_⟩
  refine ⟨simulates.tracked.step increase (trackerStep_stepped defined), ?_, ?_, ?_, ?_, ?_, ?_, ?_⟩
  · intro pending member
    rw [listed, List.mem_append, List.mem_singleton] at member
    rcases member with inList | rfl
    · rw [old _ (simulates.tracked.inOrder.requested pending inList)]
      exact simulates.liveness pending inList
    · rw [newLive]
      have unknown : request.frameNumber ∉ liveFrames past := by
        intro inLive
        exact Nat.lt_irrefl _ (newFrame _ (liveFrames_subset past inLive))
      have sameFrame : (newEntry request checked flags).frameNumber =
            request.frameNumber :=
        rfl
      have sameLive : (newEntry request checked flags).isLive = request.isLive := rfl
      simp [sameFrame, sameLive, unknown]
  · rw [optical, progressHistory_append]
    intro pending member reprocess
    rw [listed, List.mem_append, List.mem_singleton] at member
    rcases member with inList | rfl
    · exact simulates.uncounted.kept (.of_subset (List.Subset.refl _)) pending inList reprocess
    · exact .inl rfl
  · rw [accepted.reprocessResults, isChecked.reprocessResults]
    intro pending inCache
    rw [old _ (simulates.tracked.cacheRequested pending inCache)]
    exact simulates.cache pending inCache
  · refine (simulates.results.append ?_).mono ?_
    · intro result member
      simp [silent] at member
    · intro frameNumber member
      have append : requestedFrames (past ++ [TrackerEvent.processCaptureRequest env request]) =
            requestedFrames past ++ requestedFrames [.processCaptureRequest env request] :=
        List.filterMap_append
      rw [append]
      exact List.mem_append_left _ member
  · rw [acceptRequest_progress env request isChecked simulates.entries]
  · rw [acceptRequest_progress env request isChecked simulates.entries]
    simp only [livePartials, partialResults_append, silent, List.append_nil]
    rw [← simulates.partials]
    unfold livePartials
    apply List.filter_congr
    intro result member
    rw [decide_eq_decide]
    exact old _ (simulates.results result member)
  · rw [acceptRequest_progress env request isChecked simulates.entries]
    exact (errorFrames_append _ _ _).trans (by rw [simulates.errors]; exact List.append_nil _)

/-- Every step of a request or callback keeps the simulation. -/
theorem Simulates.step {condition : List Progress.Event → Progress.Event → Prop}
    (once : ∀ history frame, condition history (.level frame) →
        Progress.Event.level frame ∉ history)
    (simulates : Simulates tracker past log state)
    (met : CallbackStep condition tracker past event)
    (cutsNoneOff : CutsNoneOff tracker event) :
    ∃ next emitted, trackerStep tracker event = some (next, emitted) ∧
        next.opticalBlackRegion = tracker.opticalBlackRegion ∧
        Simulates next (past ++ [event]) (log ++ emitted) (Progress.run state
            (progressEvents tracker.opticalBlackRegion event)) := by
  obtain ⟨increase, along, named⟩ := met
  have ordered := simulates.tracked.inOrder.ordered
  cases event with
  | processCaptureRequest env request => exact simulates.request increase named
  | metadata callback =>
    obtain ⟨next, sent, handled⟩ := handleMetadataWithLock_defined callback ordered
    have leaves := handleMetadataWithLock_leaves handled
    refine ⟨next, sent, handled, leaves.opticalBlackRegion, ?_⟩
    refine simulates.callback rfl (.metadata handled) leaves ?_ ?_
      (handleMetadataWithLock_results handled)
      (handleMetadataWithLock_progress _ ordered simulates.cache
        simulates.liveness named simulates.entries handled)
    · exact simulates.uncounted.kept (handleMetadataWithLock_reprocess ordered
          (simulates.namesLive named) handled)
    · intro pending inCache
      exact simulates.cache pending ((handleMetadataWithLock_cache handled).subset inCache)
  | blackLevel blackLevel frameNumber =>
    have new := once _ _ along.1
    have leaves := sendDynamicBlackLevelWithLock_leaves blackLevel frameNumber tracker
    refine ⟨ (sendDynamicBlackLevelWithLock blackLevel frameNumber tracker).1,
      (sendDynamicBlackLevelWithLock blackLevel frameNumber tracker).2,
      rfl, leaves.opticalBlackRegion, ?_⟩
    refine simulates.callback rfl (.blackLevel blackLevel frameNumber) leaves
      (sendDynamicBlackLevelWithLock_reprocess blackLevel simulates.uncounted new) ?_
      (sendDynamicBlackLevelWithLock_results blackLevel frameNumber tracker) ?_
    · rw [sendDynamicBlackLevelWithLock_cache]
      exact simulates.cache
    · exact sendDynamicBlackLevelWithLock_progress blackLevel ordered
        simulates.liveness simulates.uncounted new cutsNoneOff
        simulates.entries
  | inputBuffer now buffer frameNumber =>
    have defined : trackerStep tracker (.inputBuffer now buffer frameNumber) =
          some (handleInputBufferWithLock now buffer frameNumber tracker) :=
      rfl
    obtain ⟨leaves, kept, cache⟩ :=
      handleInputBufferWithLock_leaves now buffer frameNumber tracker
    obtain ⟨entries, partials, errors⟩ :=
      handleInputBufferWithLock_progress now buffer frameNumber ordered simulates.liveness
    refine ⟨ (handleInputBufferWithLock now buffer frameNumber tracker).1,
      (handleInputBufferWithLock now buffer frameNumber tracker).2,
      defined, leaves.opticalBlackRegion, ?_⟩
    refine simulates.callback rfl (trackerStep_stepped defined) leaves ?_
      ?_ (handleInputBufferWithLock_results now buffer frameNumber tracker) ?_
    · exact simulates.uncounted.kept kept
    · rw [cache]
      exact simulates.cache
    · rw [countingAfter, entries, partials, errors, simulates.entries]
      simp [progressEvents, Progress.run]
  | buffer now buffer frameNumber =>
    have outcome := handleBufferWithLock_outcome now buffer frameNumber tracker
    refine ⟨(handleBufferWithLock now buffer frameNumber tracker).1,
      (handleBufferWithLock now buffer frameNumber tracker).2,
      rfl, outcome.leaves.opticalBlackRegion, ?_⟩
    obtain ⟨entries, partials, errors⟩ := outcome.progress ordered simulates.liveness
    refine simulates.callback rfl (.buffer outcome) outcome.leaves ?_
      (outcome.cacheReprocess simulates.liveness simulates.cache)
      outcome.results ?_
    · exact simulates.uncounted.kept outcome.reprocess
    · rw [countingAfter, entries, partials, errors, simulates.entries]
      simp [progressEvents, Progress.run]
  | flushBegin => exact named.elim
  | flushEnd => exact named.elim
  | configureStreams constrainedHighSpeed => exact named.elim

/-! ## What the simulation says about live requests -/

/-- Live frames and requests of the history are the same. -/
theorem mem_liveFrames_iff (opticalBlackRegion : Bool) {events : List TrackerEvent} :
    frameNumber ∈ liveFrames events ↔ ∃ raw, Progress.Event.request frameNumber raw ∈
        progressHistory opticalBlackRegion events := by
  simp only [liveFrames, progressHistory, List.mem_filterMap, List.mem_flatMap]
  constructor
  · rintro ⟨event, member, isLive⟩
    cases event with
    | processCaptureRequest env request =>
      simp only at isLive
      split_ifs at isLive with live
      obtain rfl := Option.some.inj isLive
      exact ⟨_, _, member, by simp [progressEvents, live]; rfl⟩
    | _ => simp at isLive
  · rintro ⟨raw, event, member, inEvents⟩
    refine ⟨event, member, ?_⟩
    cases event with
    | processCaptureRequest env request =>
      simp only [progressEvents] at inEvents
      split_ifs at inEvents with live
      · simp only [List.mem_singleton, Progress.Event.request.injEq] at inEvents
        simp [live, inEvents.1]
      · simp at inEvents
    | metadata callback =>
      simp only [progressEvents] at inEvents
      split at inEvents
      · simp at inEvents
      · rw [List.mem_append] at inEvents
        rcases inEvents with isUrgent | isNormal
        · split at isUrgent <;> simp at isUrgent
        · split at isNormal <;> simp at isNormal
    | _ => simp [progressEvents] at inEvents

/-- The partial results of a live frame. -/
theorem partialsOf_livePartials (inLive : frameNumber ∈ live) (log : List Output) :
    Progress.partialsOf frameNumber (livePartials live log) =
      Progress.partialsOf frameNumber (partialResults log) := by
  unfold Progress.partialsOf livePartials
  rw [List.filter_filter]
  congr 1
  apply List.filter_congr
  intro result _
  by_cases own : result.1 = frameNumber
  · simp [own, inLive]
  · simp [own]

/-- A live frame is pending exactly if its request is counted. -/
theorem Simulates.pending_iff (simulates : Simulates tracker past log state)
    (inLive : frameNumber ∈ liveFrames past) :
    (∃ entry ∈ state.entries, entry.frame = frameNumber) ↔
      frameNumber ∈ requestFrames tracker.mPendingRequestsList := by
  rw [← simulates.entries]
  constructor
  · rintro ⟨entry, member, rfl⟩
    obtain ⟨request, inList, _, rfl⟩ := mem_liveEntries.mp member
    exact List.mem_map_of_mem inList
  · intro member
    obtain ⟨request, inList, rfl⟩ := List.mem_map.mp member
    exact ⟨request.progress, mem_liveEntries.mpr
      ⟨request, inList, (simulates.liveness request inList).mpr inLive, rfl⟩, rfl⟩

end AnglerHal.Hal3
