import AnglerHal.ProgressRefinement

namespace AnglerHal.Hal3

/-!
# Runs of the tracker as runs of the counting

Black levels, buffers and requests, and the invariant that ties a run of the
tracker to the run of the counting on the same history.
-/

/-! ## Black levels -/

/--
The black level of this frame cuts no deferred request off: if it closes its
request, the first live request behind those that are released is not deferred
itself.
-/
def NoneCutOff (frameNumber : Nat) (tracker : Tracker) : Prop :=
  match tracker.mPendingRequestsList.dropWhile fun request =>
      request.frameNumber != frameNumber with
  | [] => True
  | request :: later =>
    request.needDynamicBlklvl = true → request.partialResultCnt + 1 = partialResultCount →
      ∀ next ∈ (later.dropWhile isDeferred).find? PendingRequestInfo.isLive, isDeferred next = false

instance (frameNumber : Nat) (tracker : Tracker) : Decidable (NoneCutOff frameNumber tracker) :=
  match shape : tracker.mPendingRequestsList.dropWhile fun request =>
        request.frameNumber != frameNumber with
  | [] => isTrue (by simp [NoneCutOff, shape])
  | request :: later =>
    decidable_of_iff (request.needDynamicBlklvl = true →
        request.partialResultCnt + 1 = partialResultCount →
        ∀ next ∈ (later.dropWhile isDeferred).find? PendingRequestInfo.isLive,
          isDeferred next = false)
      (by simp [NoneCutOff, shape])

theorem progress_deferred (request : PendingRequestInfo) :
    request.progress.deferred = isDeferred request :=
  rfl

theorem liveEntries_released {later : List PendingRequestInfo} (deferredLive : ∀ request ∈ later,
      isDeferred request = true → request.isLive = true)
    (noneCutOff : ∀ next ∈ (later.dropWhile isDeferred).find? PendingRequestInfo.isLive,
        isDeferred next = false) :
    (liveEntries later).takeWhile Progress.Entry.deferred =
        (later.takeWhile isDeferred).map PendingRequestInfo.progress ∧
      (liveEntries later).dropWhile Progress.Entry.deferred =
        liveEntries (later.dropWhile isDeferred) := by
  have released : liveEntries (later.takeWhile isDeferred) =
        (later.takeWhile isDeferred).map PendingRequestInfo.progress := by
    unfold liveEntries
    rw [List.filter_eq_self.mpr]
    intro request member
    exact deferredLive request ((List.takeWhile_sublist _).subset member)
      (List.mem_takeWhile_imp member)
  have allDeferred : ∀ entry ∈ (later.takeWhile isDeferred).map PendingRequestInfo.progress,
        entry.deferred = true := by
    intro entry member
    obtain ⟨request, inReleased, rfl⟩ := List.mem_map.mp member
    have isReleased := List.mem_takeWhile_imp inReleased
    exact isReleased
  have stops : (liveEntries (later.dropWhile isDeferred)).head?.all
        (fun entry => !entry.deferred) = true := by
    unfold liveEntries
    rw [List.head?_map, List.head?_filter]
    cases next : (later.dropWhile isDeferred).find? PendingRequestInfo.isLive with
    | none => rfl
    | some request =>
      have notDeferred := noneCutOff request (by simp [next])
      simp [progress_deferred, notDeferred]
  have split : liveEntries later = (later.takeWhile isDeferred).map PendingRequestInfo.progress ++
          liveEntries (later.dropWhile isDeferred) := by
    conv_lhs =>
      rw [← List.takeWhile_append_dropWhile (p := isDeferred) (l := later)]
    rw [liveEntries_append, released]
  rw [split, List.takeWhile_append_of_pos allDeferred, List.dropWhile_append_of_pos allDeferred]
  cases rest : liveEntries (later.dropWhile isDeferred) with
  | nil => simp
  | cons entry others =>
    have notDeferred : entry.deferred = false := by
      simpa [rest] using stops
    simp [notDeferred]

variable {state : Progress.State} {frameNumber rounds : Nat}
  {history : List Progress.Event} {requests : List PendingRequestInfo}
  {request : PendingRequestInfo} {live frames : List Nat} {tracker next : Tracker}
  {now : Int} {buffer : Camera3StreamBuffer} {callback : MetadataCallback}
  {entries : MetadataEntries} {final : PendingLoop} {sent : List Output}

theorem step_level_of_split {before later : List Progress.Entry}
    {entry : Progress.Entry} (split : state.entries = before ++ entry :: later)
    (others : ∀ other ∈ before, other.frame ≠ frameNumber)
    (own : entry.frame = frameNumber) :
    Progress.step state (.level frameNumber) =
      Progress.levelFrom before state (entry :: later) := by
  have passes : ∀ other ∈ before, (other.frame != frameNumber) = true := by
    intro other member
    simpa using others other member
  unfold Progress.step
  simp only
  rw [split, List.takeWhile_append_of_pos passes, List.dropWhile_append_of_pos passes]
  simp [own]

theorem step_level_of_absent
    (absent : ∀ entry ∈ state.entries, entry.frame ≠ frameNumber) :
    Progress.step state (.level frameNumber) = state := by
  unfold Progress.step
  simp only
  rw [List.dropWhile_eq_nil_iff.mpr]
  · rfl
  · intro entry member
    simpa using absent entry member

/-- Reprocess requests have at most their black level counted. -/
def ReprocessUncounted (history : List Progress.Event)
    (requests : List PendingRequestInfo) : Prop :=
  ∀ request ∈ requests, request.isLive = false → request.partialResultCnt = 0 ∨
      request.partialResultCnt = 1 ∧ Progress.Event.level request.frameNumber ∈ history

theorem ReprocessUncounted.deferred_live
    (uncounted : ReprocessUncounted history requests) (member : request ∈ requests)
    (deferred : isDeferred request = true) :
    request.isLive = true := by
  by_contra notLive
  simp only [isDeferred, partialResultCount, Bool.and_eq_true, beq_iff_eq] at deferred
  rcases uncounted request member (by simpa using notLive) with
    zero | ⟨one, _⟩
  · omega
  · omega

theorem deferredResults_log {released : List PendingRequestInfo}
    (inLive : ∀ request ∈ released, request.frameNumber ∈ live) :
    livePartials live (released.map fun deferred =>
            .processCaptureResult (deferredResult deferred)) =
        (released.map fun deferred =>
          (deferred.frameNumber, deferred.partialResultCnt + 1)) ∧
      errorFrames .result (released.map fun deferred =>
            .processCaptureResult (deferredResult deferred)) = [] := by
  induction released with
  | nil => exact ⟨rfl, rfl⟩
  | cons request rest inductionHypothesis =>
    obtain ⟨partials, errors⟩ :=
      inductionHypothesis fun other member =>
        inLive other (List.mem_cons_of_mem _ member)
    have own := inLive request (by simp)
    refine ⟨?_, errors⟩
    unfold livePartials at partials ⊢
    rw [List.map_cons, partialResults_processCaptureResult, List.filter_append, partials]
    simp [deferredResult, own]

/-- Without a raw request of its frame a black level counts for nothing. -/
theorem step_level_of_notRaw (ordered : Ordered tracker.mPendingRequestsList)
    (same : liveEntries tracker.mPendingRequestsList = state.entries)
    (noRaw : ∀ request, (tracker.mPendingRequestsList.find? fun other =>
      other.frameNumber == frameNumber) = some request → request.needDynamicBlklvl = false) :
    Progress.step state (.level frameNumber) = state := by
  have noRawEntry : ∀ entry ∈ state.entries, entry.frame = frameNumber → entry.raw ≠ true := by
    intro entry member own raw
    rw [← same] at member
    obtain ⟨request, inList, _, rfl⟩ := mem_liveEntries.mp member
    have named : request.frameNumber = frameNumber := own
    obtain ⟨first, found⟩ : ∃ first, (tracker.mPendingRequestsList.find? fun other =>
        other.frameNumber == frameNumber) = some first := Option.isSome_iff_exists.mp
      (List.find?_isSome.mpr ⟨request, inList, by simpa using named⟩)
    have notRaw := noRaw first found
    rw [← ordered.eq_of_found found inList named] at notRaw
    simp [notRaw] at raw
  have levelled := Progress.step_level (same ▸ ordered.liveEntries) frameNumber
  generalize Progress.step state (.level frameNumber) = next at levelled ⊢
  cases levelled with
  | ignored => rfl
  | @counted _ _ entry split own raw =>
    exact absurd raw (noRawEntry entry (by simp [split]) own)
  | @closed _ _ entry split own raw =>
    exact absurd raw (noRawEntry entry (by simp [split]) own)

section LevelOfRequest

variable {before later : List PendingRequestInfo}
  (shape : tracker.mPendingRequestsList = before ++ request :: later)
  (others : ∀ other ∈ before, other.frameNumber ≠ frameNumber)
  (own : request.frameNumber = frameNumber)
  (same : liveEntries tracker.mPendingRequestsList = state.entries)

include shape own same

/-- The black level of a reprocess request counts for nothing. -/
theorem step_level_of_reprocess (ordered : Ordered tracker.mPendingRequestsList)
    (reprocess : request.isLive = false) :
    Progress.step state (.level frameNumber) = state := by
  refine step_level_of_absent ?_
  intro entry inEntries named
  rw [← same] at inEntries
  obtain ⟨other, inList, otherLive, rfl⟩ := mem_liveEntries.mp inEntries
  rw [ordered.eq_of_frame inList (by simp [shape]) (named.trans own.symm), reprocess] at otherLive
  simp at otherLive

include others

/-- The black level of a live raw request starts at its entry. -/
theorem step_level_of_live (isLive : request.isLive = true) :
    Progress.step state (.level frameNumber) =
      Progress.levelFrom (liveEntries before) state
        (request.progress :: liveEntries later) := by
  refine step_level_of_split ?_ ?_ own
  · rw [← same, shape, liveEntries_append, liveEntries_cons_of_live isLive]
  · intro entry inBefore
    obtain ⟨other, inList, _, rfl⟩ := mem_liveEntries.mp inBefore
    exact others other inList

/-- The last partial result of a live request closes the deferred ones behind it. -/
theorem levelFrom_final (blackLevel : Nat)
    (liveness : ∀ request ∈ tracker.mPendingRequestsList,
      (request.isLive = true ↔ request.frameNumber ∈ live))
    (uncounted : ReprocessUncounted history tracker.mPendingRequestsList)
    (noneCutOff : NoneCutOff frameNumber tracker) (isLive : request.isLive = true)
    (raw : request.needDynamicBlklvl = true)
    (final : request.partialResultCnt + 1 = partialResultCount) :
    Progress.step state (.level frameNumber) =
      countingAfter live state (releaseDeferred tracker before later, .processCaptureResult
          (blackLevelResult blackLevel frameNumber (request.partialResultCnt + 1)) ::
        (later.takeWhile isDeferred).map fun deferred =>
          .processCaptureResult (deferredResult deferred)) := by
  have inLive : frameNumber ∈ live := own ▸ (liveness request (by simp [shape])).mp isLive
  have fromFrame : (tracker.mPendingRequestsList.dropWhile fun request =>
      request.frameNumber != frameNumber) = request :: later := by
    rw [shape, List.dropWhile_append_of_pos (by simpa using others)]
    simp [own]
  have deferredLive (other : PendingRequestInfo) (inLater : other ∈ later)
      (deferred : isDeferred other = true) : other.isLive = true :=
    uncounted.deferred_live (by simp [shape, inLater]) deferred
  unfold NoneCutOff at noneCutOff
  rw [fromFrame] at noneCutOff
  obtain ⟨released, rest⟩ := liveEntries_released deferredLive (noneCutOff raw final)
  have entryFinal : request.progress.count + 1 = Progress.finalCount := final
  rw [step_level_of_live shape others own same isLive, Progress.levelFrom, if_neg (by simp [raw]),
    if_pos entryFinal, released, rest]
  obtain ⟨releasedSent, releasedErrors⟩ := @deferredResults_log live (later.takeWhile isDeferred)
    fun other inReleased => by
      have inLater := (List.takeWhile_sublist _).subset inReleased
      exact (liveness other (by simp [shape, inLater])).mp
        (deferredLive other inLater (List.mem_takeWhile_imp inReleased))
  have closing : livePartials live [.processCaptureResult
      (blackLevelResult blackLevel frameNumber (request.partialResultCnt + 1))] =
      [(frameNumber, Progress.finalCount)] := by
    simp [livePartials, blackLevelResult, inLive, final, partialResultCount, Progress.finalCount]
  have allSent := congrArg₂ (· ++ ·) closing releasedSent
  simp only [← livePartials_append, List.singleton_append] at allSent
  simp only [countingAfter, allSent, errorFrames_processCaptureResult, releasedErrors]
  simp [releaseDeferred, own]

/-- A black level that does not close its live request is counted. -/
theorem levelFrom_stays (blackLevel : Nat) (inLive : frameNumber ∈ live)
    (isLive : request.isLive = true) (raw : request.needDynamicBlklvl = true)
    (stays : request.partialResultCnt + 1 ≠ partialResultCount) :
    Progress.step state (.level frameNumber) =
      countingAfter live state (tracker.setRequests (before ++ { request with
          partialResultCnt := request.partialResultCnt + 1 } :: later),
        [.processCaptureResult (blackLevelResult blackLevel frameNumber
          (request.partialResultCnt + 1))]) := by
  have entryStays : ¬ request.progress.count + 1 = Progress.finalCount := stays
  rw [step_level_of_live shape others own same isLive, Progress.levelFrom, if_neg (by simp [raw]),
    if_neg entryStays]
  simp only [countingAfter, Tracker.setRequests_mPendingRequestsList, liveEntries_append]
  rw [liveEntries_cons_of_live (by exact isLive)]
  simp [livePartials, blackLevelResult, inLive, own, PendingRequestInfo.progress]

end LevelOfRequest

/-- A black-level callback takes the step of a black level. -/
theorem sendDynamicBlackLevelWithLock_progress (blackLevel : Nat)
    (ordered : Ordered tracker.mPendingRequestsList)
    (liveness : ∀ request ∈ tracker.mPendingRequestsList,
      (request.isLive = true ↔ request.frameNumber ∈ live))
    (uncounted : ReprocessUncounted history tracker.mPendingRequestsList)
    (new : Progress.Event.level frameNumber ∉ history)
    (noneCutOff : NoneCutOff frameNumber tracker)
    (same : liveEntries tracker.mPendingRequestsList = state.entries) :
    Progress.step state (.level frameNumber) =
      countingAfter live state (sendDynamicBlackLevelWithLock blackLevel frameNumber tracker) := by
  rcases sendDynamicBlackLevelWithLock_cases blackLevel frameNumber tracker with
    ⟨ignored, noRaw⟩ | ⟨before, request, later, shape, others, own, raw, outcome⟩
  · rw [ignored, step_level_of_notRaw ordered same noRaw]
    simp [countingAfter, same, livePartials]
  · have member : request ∈ tracker.mPendingRequestsList := by simp [shape]
    cases isLive : request.isLive with
    | false =>
      have notLive : frameNumber ∉ live := fun inLive => by
        simp [(liveness request member).mpr (own ▸ inLive)] at isLive
      have few : request.partialResultCnt + 1 ≠ partialResultCount := by
        rcases uncounted request member isLive with zero | ⟨_, levelled⟩
        · simp [zero, partialResultCount]
        · exact absurd (own ▸ levelled) new
      rcases outcome with ⟨final, _⟩ | ⟨_, sent⟩
      · exact absurd final few
      · rw [step_level_of_reprocess shape own same ordered isLive, sent]
        have sameEntries : liveEntries (before ++ { request with
            partialResultCnt := request.partialResultCnt + 1 } :: later) = state.entries := by
          rw [← same, shape, liveEntries_append, liveEntries_append,
            liveEntries_cons_of_reprocess isLive, liveEntries_cons_of_reprocess (by exact isLive)]
        simp [countingAfter, sameEntries, livePartials, blackLevelResult, notLive]
    | true =>
      rcases outcome with ⟨final, sent⟩ | ⟨stays, sent⟩
      · rw [sent]
        exact levelFrom_final shape others own same blackLevel liveness uncounted noneCutOff isLive
          raw final
      · rw [sent]
        exact levelFrom_stays shape others own same blackLevel
          (own ▸ (liveness request member).mp isLive) isLive raw stays

/-! ## Buffers -/

theorem liveEntries_erase_reprocess (ordered : Ordered requests)
    (found : (requests.find? fun other => other.frameNumber == frameNumber) = some request)
    (reprocess : request.isLive = false) :
    liveEntries (requests.eraseP fun other =>
        other.frameNumber == frameNumber) =
      liveEntries requests := by
  apply liveEntries_eraseP
  intro other member same
  rw [ordered.eq_of_found found member (beq_iff_eq.mp same)]
  exact reprocess

/-- The frame of a pending reprocess request is not that of a live one. -/
theorem not_mem_live_of_found
    (liveness : ∀ other ∈ requests, (other.isLive = true ↔ other.frameNumber ∈ live))
    (found : (requests.find? fun other => other.frameNumber == frameNumber) = some request)
    (reprocess : request.isLive = false) :
    frameNumber ∉ live := by
  have named := frame_of_found found
  intro inLive
  have isLive := (liveness request (List.mem_of_find?_eq_some found)).mpr (named ▸ inLive)
  simp [reprocess] at isLive

/-- An output-buffer callback is no step. -/
theorem BufferOutcome.progress {result : Tracker × List Output}
    (outcome : BufferOutcome now buffer frameNumber tracker result)
    (ordered : Ordered tracker.mPendingRequestsList)
    (liveness : ∀ request ∈ tracker.mPendingRequestsList,
        (request.isLive = true ↔ request.frameNumber ∈ live)) :
    liveEntries result.1.mPendingRequestsList = liveEntries tracker.mPendingRequestsList ∧
      livePartials live result.2 = [] ∧
      errorFrames .result result.2 = [] := by
  cases outcome with
  | sent =>
    obtain ⟨map, drops, same⟩ := sendBuffer_tracker buffer frameNumber tracker
    rw [same]
    exact ⟨rfl, rfl, rfl⟩
  | cached => exact ⟨rfl, rfl, rfl⟩
  | closed found waits given oldest =>
    have reprocess := PendingRequestInfo.isLive_of_inputBuffer given
    have notLive := not_mem_live_of_found liveness found reprocess
    have named := frame_of_found found
    refine ⟨?_, ?_, rfl⟩
    · exact liveEntries_erase_reprocess ordered found reprocess
    · simp only [livePartials, partialResults_notify,
        partialResults_processCaptureResult, reprocessResult, named]
      cases Option.map ResultMetadata.settings _ <;> simp [notLive]
  | @kept request found waits given =>
    have named := frame_of_found found
    obtain ⟨before, later, shape, replaced⟩ :=
      updateRequest_found found (show (request.keepBuffer buffer).frameNumber = frameNumber from
          named)
    refine ⟨?_, rfl, rfl⟩
    have isLive : request.isLive = true := by
      simp [PendingRequestInfo.isLive, given]
    simp only [Tracker.setRequests_mPendingRequestsList, replaced]
    rw [shape, liveEntries_append, liveEntries_append, liveEntries_cons_of_live isLive,
      liveEntries_cons_of_live (by exact isLive)]
    rfl

theorem shutter_progress (live : List Nat) (notified : Bool) (frameNumber : Nat) (time : Int)
    (sent : List Output) :
    livePartials live ((if notified then []
            else [Output.notify (.shutter frameNumber time)]) ++ sent) =
        livePartials live sent ∧
      errorFrames .result ((if notified then []
            else [Output.notify (.shutter frameNumber time)]) ++ sent) =
        errorFrames .result sent := by
  cases notified with
  | true => exact ⟨rfl, rfl⟩
  | false => exact ⟨rfl, rfl⟩

/-- An input-buffer callback is no step. -/
theorem handleInputBufferWithLock_progress (now : Int) (buffer : Option Camera3StreamBuffer)
    (frameNumber : Nat)
    (ordered : Ordered tracker.mPendingRequestsList)
    (liveness : ∀ request ∈ tracker.mPendingRequestsList,
        (request.isLive = true ↔ request.frameNumber ∈ live)) :
    liveEntries (handleInputBufferWithLock now buffer frameNumber tracker).1.mPendingRequestsList =
        liveEntries tracker.mPendingRequestsList ∧
      livePartials live (handleInputBufferWithLock now buffer frameNumber tracker).2 = [] ∧
      errorFrames .result (handleInputBufferWithLock now buffer frameNumber tracker).2 = [] := by
  unfold handleInputBufferWithLock
  cases found : tracker.mPendingRequestsList.find? fun request =>
        request.frameNumber == frameNumber with
  | none => exact ⟨rfl, rfl, rfl⟩
  | some request =>
    by_cases isLive : request.inputBuffer.isNone = true
    · simp [isLive, livePartials]
    · have reprocess : request.isLive = false := by
        rw [Bool.eq_false_iff]
        exact isLive
      have notLive := not_mem_live_of_found liveness found reprocess
      have erased := liveEntries_erase_reprocess ordered found reprocess
      have shutter :=
        shutter_progress live request.shutterNotified frameNumber (reprocessTime now request)
      simp only [isLive, Bool.false_eq_true, if_false]
      split
      · refine ⟨erased, ?_, ?_⟩
        · rw [(shutter _).1]
          rfl
        · rw [(shutter _).2]
          rfl
      · refine ⟨erased, ?_, ?_⟩
        · rw [(shutter _).1]
          simp only [livePartials, partialResults_processCaptureResult]
          cases request.settings <;> simp [notLive]
        · rw [(shutter _).2]
          rfl

/-! ## Requests -/

/-- The request is registered, without a restart of the sensor. -/
def Registers (env : RequestEnv) (request : CaptureRequest) (tracker : Tracker) : Prop :=
  match checkRequest env request tracker with
  | .proceed checked => restartsSensor request checked = false
  | .fail _ _ => False

instance (env : RequestEnv) (request : CaptureRequest) (tracker : Tracker) :
    Decidable (Registers env request tracker) :=
  match stage : checkRequest env request tracker with
  | .proceed checked =>
    decidable_of_iff (restartsSensor request checked = false) (by simp [Registers, stage])
  | .fail _ _ => isFalse (by simp [Registers, stage])

/-- A registered request is defined and appends its entry. -/
theorem Registers.accepted {env : RequestEnv} {request : CaptureRequest}
    (registers : Registers env request tracker) :
    ∃ checked, Checked tracker checked ∧ processCaptureRequest env request tracker =
          some ((acceptRequest env request checked).1,
            (acceptRequest env request checked).2, []) := by
  unfold Registers at registers
  cases stage : checkRequest env request tracker with
  | fail failed rc => simp [stage] at registers
  | proceed checked =>
    simp only [stage] at registers
    refine ⟨checked, Checked.of_proceed stage, ?_⟩
    simp [processCaptureRequest, prepareRequest, stage, restartSensor, registers]

/-- A registered request takes the step of a request. -/
theorem acceptRequest_progress (env : RequestEnv) (request : CaptureRequest)
    {checked : Tracker} (isChecked : Checked tracker checked)
    (same : liveEntries tracker.mPendingRequestsList = state.entries) :
    Progress.run state (progressEvents tracker.opticalBlackRegion
          (.processCaptureRequest env request)) =
      { state with
          entries :=
            liveEntries (acceptRequest env request checked).1.mPendingRequestsList } := by
  obtain ⟨flags, listed⟩ := (acceptRequest_accepted env request checked).requests
  rw [listed, isChecked.requests, liveEntries_append, same]
  cases live : request.isLive with
  | true =>
    have entryLive : (newEntry request checked flags).isLive = true := live
    rw [liveEntries_cons_of_live entryLive]
    simp only [progressEvents, live, if_true, Progress.run,
      List.foldl_cons, List.foldl_nil, Progress.step, liveEntries_nil]
    simp only [PendingRequestInfo.progress, newEntry, pendingRequest,
      needsDynamicBlklvl, isChecked.opticalBlackRegion]
  | false =>
    have entryReprocess : (newEntry request checked flags).isLive = false := live
    rw [liveEntries_cons_of_reprocess entryReprocess]
    simp [progressEvents, live, Progress.run]

/-! ## Reprocess requests -/

/-- Every reprocess request was there before, with the same count. -/
def ReprocessKept (before after : List PendingRequestInfo) : Prop :=
  ∀ request ∈ after, request.isLive = false → ∃ original ∈ before, original.isLive = false ∧
        original.frameNumber = request.frameNumber ∧
        original.partialResultCnt = request.partialResultCnt

/-- Fewer requests. -/
theorem ReprocessKept.of_subset {before after : List PendingRequestInfo} (subset : after ⊆ before) :
    ReprocessKept before after :=
  fun request member reprocess =>
    ⟨request, subset member, reprocess, rfl, rfl⟩

/-- What is kept stays uncounted. -/
theorem ReprocessUncounted.kept {history later : List Progress.Event}
    {before after : List PendingRequestInfo}
    (uncounted : ReprocessUncounted history before) (kept : ReprocessKept before after) :
    ReprocessUncounted (history ++ later) after := by
  intro request member reprocess
  obtain ⟨original, inBefore, notLive, frame, count⟩ := kept request member reprocess
  rw [← frame, ← count]
  rcases uncounted original inBefore notLive with zero | ⟨one, levelled⟩
  · exact .inl zero
  · exact .inr ⟨one, List.mem_append_left _ levelled⟩

theorem pendingLoop_reprocess (ordered : Ordered tracker.mPendingRequestsList)
    (named : ∀ request ∈ tracker.mPendingRequestsList,
      request.frameNumber = entries.frameNumber → request.isLive = true)
    (ran : pendingLoop callback entries rounds (startLoop tracker) = some final) :
    ∀ request ∈ final.done ++ final.rest, request.isLive = false →
      request ∈ tracker.mPendingRequestsList := by
  apply pendingLoop_ordered_rule ordered (fun current =>
      ∀ request ∈ current.done ++ current.rest, request.isLive = false →
        request ∈ tracker.mPendingRequestsList)
    ?_ ?_ ?_ ran
  · intro request member _
    simpa [startLoop] using member
  · intro loop head later kept shape _ _ _ request member
    rw [shape] at kept
    exact kept request (by simpa [passSkipped] using member)
  · intro loop head later next kept _ shape inList due notSkipped _ drained request member reprocess
    rw [shape] at kept
    have headLive : head.isLive = true := live_of_not_skip due notSkipped fun notLive same => by
        simp [named head inList same] at notLive
    have inPassed := (drained.sublists.1.append drained.sublists.2).subset member
    rw [passDue_done, passDue_rest] at inPassed
    rcases List.mem_append.mp inPassed with inDone | inLater
    · rcases List.mem_append.mp inDone with inDone | isAnswered
      · exact kept request (List.mem_append_left _ inDone) reprocess
      · split_ifs at isAnswered
        · simp at isAnswered
        · rw [List.mem_singleton] at isAnswered
          subst request
          unfold PendingRequestInfo.isLive at headLive reprocess
          rw [answeredRequest_inputBuffer, headLive] at reprocess
          simp at reprocess
    · exact kept request (by simp [inLater]) reprocess

/-- A metadata callback for live requests leaves the others alone. -/
theorem handleMetadataWithLock_reprocess
    (ordered : Ordered tracker.mPendingRequestsList)
    (names : NamesLive callback tracker)
    (handled : handleMetadataWithLock callback tracker = some (next, sent)) :
    ReprocessKept tracker.mPendingRequestsList
      next.mPendingRequestsList := by
  have deepened : ∀ current : Tracker, (∀ request ∈ current.mPendingRequestsList,
          request.isLive = false →
          request ∈ tracker.mPendingRequestsList) →
        ReprocessKept tracker.mPendingRequestsList
          current.deepenPipeline.mPendingRequestsList := by
    intro current kept request member reprocess
    obtain ⟨original, inList, rfl⟩ := List.mem_map.mp member
    exact ⟨original, kept original inList reprocess, reprocess, rfl, rfl⟩
  rcases handleMetadataWithLock_cases handled with
    ⟨_, rfl, _⟩ | ⟨entries, given, parts⟩
  · exact deepened tracker fun request member _ => member
  · have named := names entries (by simp [given])
    have urgent : ∀ request ∈ (handleUrgentPart callback entries tracker).1.mPendingRequestsList,
          request.isLive = false →
          request ∈ tracker.mPendingRequestsList := by
      intro request member reprocess
      obtain ⟨original, inList, version⟩ :=
        handleUrgentPart_descends callback entries tracker request member
      unfold handleUrgentPart at member
      split at member
      · rename_i valid
        refine handleUrgent_reprocess member reprocess ?_
        rw [version.frameNumber]
        exact (named original inList (version.isLive ▸ reprocess)).1 valid
      · exact member
    rcases parts with ⟨_, rfl, _⟩ | ⟨valid, final, ran, rfl, _⟩
    · exact deepened _ urgent
    · have urgentOrdered : Ordered (handleUrgentPart callback entries
              tracker).1.mPendingRequestsList := by
        rw [ordered_iff_frames, handleUrgentPart_frames, ← ordered_iff_frames]
        exact ordered
      refine deepened _ ?_
      intro request member reprocess
      refine urgent request ?_ reprocess
      refine pendingLoop_reprocess urgentOrdered ?_ ran request member reprocess
      intro other inUrgent same
      by_contra notLive
      obtain ⟨original, inList, version⟩ :=
        handleUrgentPart_descends callback entries tracker other inUrgent
      refine (named original inList ?_).2 valid ?_
      · rw [← version.isLive]
        simpa using notLive
      · rw [← version.frameNumber]
        exact same

/-- A black-level callback counts at most its own request. -/
theorem sendDynamicBlackLevelWithLock_reprocess (blackLevel : Nat)
    (uncounted : ReprocessUncounted history tracker.mPendingRequestsList)
    (new : Progress.Event.level frameNumber ∉ history) :
    ReprocessUncounted (history ++ [Progress.Event.level frameNumber])
      (sendDynamicBlackLevelWithLock blackLevel frameNumber tracker).1.mPendingRequestsList := by
  rcases sendDynamicBlackLevelWithLock_cases blackLevel frameNumber tracker with ⟨same, _⟩ |
      ⟨before, request, later, shape, _, own, _, ⟨_, same⟩ | ⟨_, same⟩⟩
  · rw [same]
    exact uncounted.kept (.of_subset (List.Subset.refl _))
  · rw [same]
    refine uncounted.kept (.of_subset ?_)
    rw [shape]
    apply List.Sublist.subset
    exact (List.Sublist.refl before).append
      ((List.dropWhile_sublist _).trans (List.sublist_cons_self _ _))
  · rw [same]
    rw [shape] at uncounted
    intro other member reprocess
    simp only [Tracker.setRequests_mPendingRequestsList, List.mem_append, List.mem_cons] at member
    have old : other ∈ before ++ request :: later → other.partialResultCnt = 0 ∨
            other.partialResultCnt = 1 ∧ Progress.Event.level other.frameNumber ∈
                history ++ [Progress.Event.level frameNumber] := by
      intro inList
      rcases uncounted other inList reprocess with zero | ⟨one, levelled⟩
      · exact .inl zero
      · exact .inr ⟨one, List.mem_append_left _ levelled⟩
    rcases member with inBefore | rfl | inLater
    · exact old (by simp [inBefore])
    · rcases uncounted request (by simp) reprocess with
        zero | ⟨_, levelled⟩
      · exact .inr ⟨by simp [zero], by simp [own]⟩
      · exact absurd (own ▸ levelled) new
    · exact old (by simp [inLater])

/-! ## Frames of partial results -/

/-- Partial results come for these frames only. -/
def ResultsOf (frames : List Nat) (sent : List Output) : Prop :=
  ∀ result ∈ partialResults sent, result.1 ∈ frames

/-- Two parts of a log. -/
theorem ResultsOf.append {earlier later : List Output}
    (first : ResultsOf frames earlier) (second : ResultsOf frames later) :
    ResultsOf frames (earlier ++ later) := by
  intro result member
  rw [partialResults_append, List.mem_append] at member
  exact member.elim (first result) (second result)

theorem ResultsOf.result {frames : List Nat} {result : CaptureResult}
    (named : result.frameNumber ∈ frames) :
    ResultsOf frames [.processCaptureResult result] := by
  intro sent member
  simp only [partialResults_processCaptureResult, partialResults_nil,
    List.append_nil, Option.mem_toList, Option.map_eq_some_iff]
    at member
  obtain ⟨_, _, rfl⟩ := member
  exact named

/-- More frames. -/
theorem ResultsOf.mono {more : List Nat} (results : ResultsOf frames sent)
    (subset : frames ⊆ more) :
    ResultsOf more sent :=
  fun result member => subset (results result member)

theorem handleUrgent_results (callback : MetadataCallback) (frameNumber : Nat)
    (requests : List PendingRequestInfo) :
    ResultsOf (requestFrames requests) (handleUrgent callback frameNumber requests).2 := by
  induction requests with
  | nil =>
    intro result member
    simp [handleUrgent] at member
  | cons request rest inductionHypothesis =>
    unfold handleUrgent
    simp only
    split
    · rename_i here
      simp only [Bool.and_eq_true, beq_iff_eq] at here
      apply ResultsOf.result
      have own : request.frameNumber = frameNumber :=
        (noteMissedUrgent_same request frameNumber).frameNumber.symm.trans here.1
      simp [urgentResult, own]
    · exact inductionHypothesis.mono (by simp)

theorem pendingLoop_results {loop : PendingLoop}
    (pending : requestFrames (loop.done ++ loop.rest) ⊆ frames)
    (results : ResultsOf frames loop.outputs)
    (ran : pendingLoop callback entries rounds loop = some final) :
    ResultsOf frames final.outputs := by
  have both : requestFrames (final.done ++ final.rest) ⊆ frames ∧
        ResultsOf frames final.outputs := by
    apply pendingLoop_rule (fun current =>
        requestFrames (current.done ++ current.rest) ⊆ frames ∧ ResultsOf frames current.outputs)
      ?_ ?_ ⟨pending, results⟩ ran
    · rintro current request later ⟨known, sent⟩ shape _ _
      rw [shape] at known
      refine ⟨by simpa [passSkipped] using known, ?_⟩
      intro result member
      have silent := (reportFrameDrops_log entries request current.tracker).1
      simp only [passSkipped, partialResults_append, silent, List.append_nil] at member
      exact sent result member
    · rintro current request later next ⟨known, sent⟩ shape _ _ drained
      rw [shape] at known
      have passedKnown :=
        List.Subset.trans (passDue_frames callback entries current request later).subset known
      have passedSent : ResultsOf frames
            (passDue callback entries request later current).outputs := by
        intro result member
        rw [(passDue_log callback entries current request later).1,
          List.mem_append, List.mem_singleton] at member
        rcases member with old | rfl
        · exact sent result old
        · exact known (by simp)
      refine ⟨List.Subset.trans drained.frames.subset passedKnown, ?_⟩
      cases drained with
      | nothing => exact passedSent
      | orphan => exact passedSent.append (fun _ member => by simp at member)
      | delivered requests found member parts mark =>
        refine (passedSent.append ?_).append ?_
        · intro result inResults
          rw [partialResults_notify] at inResults
          refine ResultsOf.result ?_ result inResults
          exact passedKnown (List.mem_map_of_mem (List.mem_of_find?_eq_some member))
        · rcases mark with rfl | rfl <;>
            (intro result inResults; simp [partialResults] at inResults)
  exact both.2

/-- A metadata callback answers pending requests. -/
theorem handleMetadataWithLock_results
    (handled : handleMetadataWithLock callback tracker = some (next, sent)) :
    ResultsOf (requestFrames tracker.mPendingRequestsList) sent := by
  have silentDone : ResultsOf (requestFrames tracker.mPendingRequestsList)
        callback.bufDone := by
    intro result member
    unfold MetadataCallback.bufDone at member
    split at member <;> simp [partialResults] at member
  have urgent : ∀ entries, ResultsOf (requestFrames tracker.mPendingRequestsList)
          (handleUrgentPart callback entries tracker).2 := by
    intro entries
    unfold handleUrgentPart
    split
    · exact handleUrgent_results callback entries.urgentFrameNumber _
    · intro result member
      simp at member
  rcases handleMetadataWithLock_cases handled with
    ⟨_, _, rfl⟩ | ⟨entries, _, ⟨_, _, rfl⟩ | ⟨_, final, ran, _, rfl⟩⟩
  · exact silentDone
  · exact (urgent entries).append silentDone
  · refine (urgent entries).append (pendingLoop_results ?_ ?_ ran)
    · simp only [startLoop, List.nil_append]
      rw [handleUrgentPart_frames]
      exact List.Subset.refl _
    · intro result member
      simp [startLoop] at member

/-- A black-level callback answers pending requests. -/
theorem sendDynamicBlackLevelWithLock_results (blackLevel frameNumber : Nat) (tracker : Tracker) :
    ResultsOf (requestFrames tracker.mPendingRequestsList)
      (sendDynamicBlackLevelWithLock blackLevel frameNumber tracker).2 := by
  rcases sendDynamicBlackLevelWithLock_cases blackLevel frameNumber tracker with ⟨same, _⟩ |
      ⟨before, request, later, shape, _, own, _, ⟨_, same⟩ | ⟨_, same⟩⟩
  · rw [same]
    intro result member
    simp at member
  · rw [same, shape, ← List.singleton_append]
    refine (ResultsOf.result ?_).append ?_
    · simp [blackLevelResult, own]
    · intro result member
      obtain ⟨output, inReleased, counted⟩ := List.mem_filterMap.mp member
      obtain ⟨deferred, isReleased, rfl⟩ := List.mem_map.mp inReleased
      simp only [deferredResult, Option.map_some, Option.some.injEq] at counted
      subst result
      have inLater := (List.takeWhile_sublist _).subset isReleased
      exact List.mem_map_of_mem (by simp [inLater])
  · rw [same, shape]
    apply ResultsOf.result
    simp [blackLevelResult, own]

/-- An output-buffer callback answers a pending request. -/
theorem BufferOutcome.results {result : Tracker × List Output}
    (outcome : BufferOutcome now buffer frameNumber tracker result) :
    ResultsOf (requestFrames tracker.mPendingRequestsList) result.2 := by
  cases outcome with
  | sent =>
    intro sent member
    simp [sendBuffer] at member
  | cached =>
    intro sent member
    simp at member
  | closed found =>
    intro sent member
    rw [partialResults_notify] at member
    refine ResultsOf.result ?_ sent member
    exact List.mem_map_of_mem (List.mem_of_find?_eq_some found)
  | kept =>
    intro sent member
    simp at member

/-- An input-buffer callback answers a pending request. -/
theorem handleInputBufferWithLock_results (now : Int)
    (buffer : Option Camera3StreamBuffer) (frameNumber : Nat) (tracker : Tracker) :
    ResultsOf (requestFrames tracker.mPendingRequestsList)
      (handleInputBufferWithLock now buffer frameNumber tracker).2 := by
  unfold handleInputBufferWithLock
  cases found : tracker.mPendingRequestsList.find? fun request =>
        request.frameNumber == frameNumber with
  | none =>
    intro result member
    simp at member
  | some request =>
    have named := frame_of_found found
    have known : frameNumber ∈ requestFrames tracker.mPendingRequestsList :=
      named ▸ List.mem_map_of_mem (List.mem_of_find?_eq_some found)
    have shutter : ∀ frames, ResultsOf frames (if request.shutterNotified then []
              else [.notify (.shutter frameNumber (reprocessTime now request))]) := by
      intro frames result member
      split at member <;> simp at member
    simp only
    split
    · intro result member
      simp at member
    · split
      · refine (shutter _).append ?_
        intro result member
        simp at member
      · exact (shutter _).append (ResultsOf.result known)

end AnglerHal.Hal3
