import AnglerHal.PendingLoopResult

namespace AnglerHal.Hal3

/-!
# The iterator of the pending loop

At the end of a round that answers a request, the pending loop has already
moved its iterator on and then lets `handlePendingReprocResults` erase the
request of the next frame number.  When that is the request at the iterator,
the loop test reads an erased entry.

On a list in frame order this can happen in one round only: the first one that
answers a request.  A delayed result that is delivered there is gone from the
cache, and its request from the list.
-/

/-- The read of an iterator whose entry has been erased. -/
def Output.isStale : Output → Bool
  | .staleIterator _ => true
  | _ => false

/-- The callback is defined and reads no erased entry. -/
def IteratorSafe (result : Option (Tracker × List Output)) : Prop :=
  ∃ next sent, result = some (next, sent) ∧ sent.any Output.isStale = false

theorem iteratorSafe_some {next : Tracker} {sent : List Output} : IteratorSafe (some (next, sent)) ↔
      sent.any Output.isStale = false := by
  constructor
  · rintro ⟨_, _, ⟨⟩, safe⟩
    exact safe
  · intro safe
    exact ⟨next, sent, rfl, safe⟩

/--
The first request that the loop answers is directly followed by the request
with this frame number.
-/
def answersBefore (frameNumber delayed : Nat) : List PendingRequestInfo → Bool
  | [] => false
  | request :: later =>
    if frameNumber < request.frameNumber then
      false
    else if dueCase frameNumber request = .skip then
      answersBefore frameNumber delayed later
    else
      later.head?.any fun next => next.frameNumber == delayed

/--
A result is cached for the frame after that of the metadata, and the request
of that frame directly follows the first one that the loop answers.
-/
def erasesAtIterator (callback : MetadataCallback) (tracker : Tracker) : Bool :=
  match callback.entries with
  | none => false
  | some entries =>
    entries.frameNumberValid && (tracker.mPendingReprocessResultList.any fun pending =>
        pending.frameNumber == uint32Succ entries.frameNumber) &&
      answersBefore entries.frameNumber
        (uint32Succ entries.frameNumber) tracker.mPendingRequestsList

/-! ## What is sent besides -/

theorem reportFrameDrops_isStale (entries : MetadataEntries) (request : PendingRequestInfo)
    (tracker : Tracker) :
    (reportFrameDrops entries request tracker).2.any Output.isStale =
      false := by
  simp [reportFrameDrops, Output.isStale]

theorem bufDone_isStale (callback : MetadataCallback) :
    callback.bufDone.any Output.isStale = false := by
  unfold MetadataCallback.bufDone
  split <;> simp [Output.isStale]

theorem handleDueRequest_isStale (callback : MetadataCallback)
    (entries : MetadataEntries) (unfinishedRaw : Bool) (request : PendingRequestInfo) :
    (handleDueRequest callback entries unfinishedRaw request).2.2.any Output.isStale = false := by
  unfold handleDueRequest
  split
  · simp [handleMissed, Output.isStale]
  · simp only [handleCurrent, List.any_append, Bool.or_eq_false_iff]
    refine ⟨by simp [Output.isStale], ?_⟩
    split
    · simp [Output.isStale]
    · exact bufDone_isStale callback

theorem handlePendingReprocResults_isStale (frameNumber : Nat) (tracker : Tracker) :
    (handlePendingReprocResults frameNumber tracker).2.any Output.isStale = false := by
  unfold handlePendingReprocResults
  split
  · rfl
  · dsimp only
    split <;> simp [Output.isStale]

theorem handleUrgent_isStale (callback : MetadataCallback) (urgentFrameNumber : Nat)
    (requests : List PendingRequestInfo) :
    (handleUrgent callback urgentFrameNumber requests).2.any Output.isStale = false := by
  induction requests with
  | nil => rfl
  | cons request rest inductionHypothesis =>
    unfold handleUrgent
    dsimp only
    split
    · simp [Output.isStale]
    · exact inductionHypothesis

theorem passSkipped_isStale (entries : MetadataEntries) (request : PendingRequestInfo)
    (later : List PendingRequestInfo) (loop : PendingLoop) :
    (passSkipped entries request later loop).outputs.any Output.isStale =
      loop.outputs.any Output.isStale := by
  simp only [passSkipped, List.any_append, reportFrameDrops_isStale, Bool.or_false]

theorem passDue_isStale (callback : MetadataCallback) (entries : MetadataEntries)
    (request : PendingRequestInfo) (later : List PendingRequestInfo)
    (loop : PendingLoop) :
    (passDue callback entries request later loop).outputs.any Output.isStale =
      loop.outputs.any Output.isStale := by
  have sent := handleDueRequest_isStale callback entries loop.unfinishedRawRequest request
  have finished : (finishDue entries.frameNumber (reportFrameDrops entries request loop.tracker).1
          (handleDueRequest callback entries loop.unfinishedRawRequest
            request)).outputs.any Output.isStale = false := by
    unfold finishDue
    dsimp only
    split <;> simp [sent, Output.isStale]
  simp only [passDue, List.any_append, reportFrameDrops_isStale, finished, Bool.or_false]

theorem passDue_cache (callback : MetadataCallback) (entries : MetadataEntries)
    (request : PendingRequestInfo) (later : List PendingRequestInfo)
    (loop : PendingLoop) :
    (passDue callback entries request later loop).tracker.mPendingReprocessResultList =
      loop.tracker.mPendingReprocessResultList := by
  obtain ⟨map, drops, passed⟩ := passDue_tracker callback entries loop request later
  rw [passed]

/-! ## Rounds that cannot hit the iterator -/

/-- Nothing is cached for the frame, or its request is not pending. -/
def Harmless (delayed : Nat) (loop : PendingLoop) : Prop :=
  (∀ pending ∈ loop.tracker.mPendingReprocessResultList, pending.frameNumber ≠ delayed) ∨
    ∀ request ∈ loop.done ++ loop.rest, request.frameNumber ≠ delayed

variable {frameNumber : Nat} {loop : PendingLoop}

theorem drainDelayed_next_isStale {next : PendingLoop}
    (round : drainDelayed frameNumber loop = .next next) :
    next.outputs.any Output.isStale = loop.outputs.any Output.isStale := by
  have sent := handlePendingReprocResults_isStale (uint32Succ frameNumber)
      (loop.tracker.setRequests (loop.done ++ loop.rest))
  unfold drainDelayed at round
  dsimp only at round
  split at round
  · cases round
    simp [sent]
  · split at round
    · cases round
      simp [sent]
    · split at round
      · cases round
        simp [sent]
      · split at round
        · split at round <;> cases round
        · cases round
          simp [sent]

theorem Harmless.drain (harmless : Harmless (uint32Succ frameNumber) loop) :
    ∃ next, drainDelayed frameNumber loop = .next next ∧
        Harmless (uint32Succ frameNumber) next := by
  have stays : ∀ {next}, Drained (uint32Succ frameNumber) loop next →
        Harmless (uint32Succ frameNumber) next := by
    intro next drained
    obtain ⟨done, rest⟩ := drained.sublists
    rcases harmless with empty | absent
    · exact .inl fun pending member =>
        empty pending (drained.cache.subset member)
    · exact .inr fun request member =>
        absent request ((done.append rest).subset member)
  have notAtHead : ∀ {request later}, loop.rest = request :: later →
        request.frameNumber = uint32Succ frameNumber →
        ∀ pending ∈ loop.tracker.mPendingReprocessResultList,
          pending.frameNumber ≠ uint32Succ frameNumber := by
    intro request later shape delayed
    rcases harmless with empty | absent
    · exact empty
    · exact absurd delayed (absent request (by simp [shape]))
  have goesOn : (∀ pending ∈ loop.tracker.mPendingReprocessResultList,
          pending.frameNumber ≠ uint32Succ frameNumber) →
        ∃ next, drainDelayed frameNumber loop = .next next := by
    intro empty
    have nothing : (loop.tracker.mPendingReprocessResultList.any fun pending =>
          pending.frameNumber == uint32Succ frameNumber) = false := by
      simpa using empty
    simp only [drainDelayed, nothing, Bool.not_false, if_true]
    exact ⟨_, rfl⟩
  rcases drainDelayed_cases frameNumber loop with
    ⟨next, round, drained⟩ |
    ⟨next, request, round, drained, shape, delayed, _⟩ |
    ⟨round, request, later, shape, delayed, _⟩
  · exact ⟨next, round, stays drained⟩
  · obtain ⟨other, goes⟩ := goesOn (notAtHead shape delayed)
    rw [goes] at round
    cases round
  · obtain ⟨other, goes⟩ := goesOn (notAtHead shape delayed)
    rw [goes] at round
    cases round

section PendingLoop

variable {callback : MetadataCallback} {entries : MetadataEntries}

theorem pendingLoop_harmless {rounds : Nat} {loop : PendingLoop}
    (harmless : Harmless (uint32Succ entries.frameNumber) loop) :
    ∃ final, pendingLoop callback entries rounds loop = some final ∧
        final.outputs.any Output.isStale = loop.outputs.any Output.isStale := by
  induction rounds generalizing loop with
  | zero => exact ⟨loop, rfl, rfl⟩
  | succ rounds inductionHypothesis =>
    unfold pendingLoop
    cases shape : loop.rest with
    | nil => exact ⟨loop, rfl, rfl⟩
    | cons request later =>
      dsimp only
      by_cases due : request.frameNumber ≤ entries.frameNumber
      · rw [if_pos due]
        unfold pendingRound
        by_cases skip : dueCase entries.frameNumber request = .skip
        · simp only [skip, if_true]
          have passed : Harmless (uint32Succ entries.frameNumber)
                (passSkipped entries request later loop) := by
            unfold Harmless at harmless ⊢
            rw [shape] at harmless
            simpa [passSkipped, reportFrameDrops] using harmless
          obtain ⟨final, ran, same⟩ := inductionHypothesis passed
          exact ⟨final, ran, same.trans (passSkipped_isStale ..)⟩
        · simp only [skip, if_false]
          have passed : Harmless (uint32Succ entries.frameNumber)
                (passDue callback entries request later loop) := by
            rcases harmless with empty | absent
            · left
              rw [passDue_cache]
              exact empty
            · right
              intro other member
              have frame : other.frameNumber ∈ requestFrames (loop.done ++ loop.rest) := by
                rw [shape]
                exact (passDue_frames callback entries loop request
                  later).subset (List.mem_map_of_mem member)
              obtain ⟨old, inLoop, same⟩ := List.mem_map.mp frame
              rw [← same]
              exact absent old inLoop
          obtain ⟨next, round, stays⟩ := passed.drain
          simp only [round]
          obtain ⟨final, ran, same⟩ := inductionHypothesis stays
          refine ⟨final, ran, same.trans ?_⟩
          rw [drainDelayed_next_isStale round, passDue_isStale]
      · rw [if_neg due]
        exact ⟨loop, rfl, rfl⟩

/-! ## The first round that answers a request -/

theorem uint32Succ_cases (frameNumber : Nat) : uint32Succ frameNumber = frameNumber + 1 ∨
      uint32Succ frameNumber = 0 := by
  unfold uint32Succ
  split
  · exact .inr rfl
  · exact .inl rfl

theorem Drained.harmless {delayed : Nat} {loop next : PendingLoop}
    (ordered : Ordered (loop.done ++ loop.rest)) (drained : Drained delayed loop next) :
    Harmless delayed next := by
  cases drained with
  | nothing requests none => exact .inl none
  | orphan requests found absent => exact .inr absent
  | delivered requests found member parts mark =>
    right
    intro request inNext
    rw [parts.append] at inNext
    exact (ordered.mem_eraseP.mp inNext).2

theorem drainDelayed_atHead {request : PendingRequestInfo}
    {later : List PendingRequestInfo}
    (cached : (loop.tracker.mPendingReprocessResultList.any fun pending =>
        pending.frameNumber == uint32Succ frameNumber) = true)
    (passed : ∀ other ∈ loop.done, other.frameNumber ≠ uint32Succ frameNumber)
    (shape : loop.rest = request :: later)
    (delayed : request.frameNumber = uint32Succ frameNumber)
    (above : frameNumber < uint32Succ frameNumber) :
    ∃ next, drainDelayed frameNumber loop = .stale next ∧
        next.outputs.any Output.isStale = true := by
  have notDone : (loop.done.any fun other =>
        other.frameNumber == uint32Succ frameNumber) = false := by
    simpa using passed
  refine ⟨_, by simp only [drainDelayed, cached, Bool.not_true,
    Bool.false_eq_true, if_false, notDone, shape, delayed, beq_self_eq_true,
    if_true, if_pos above]; rfl, ?_⟩
  simp [Output.isStale]

/--
With a result cached, the loop on a list in frame order reads an erased entry
exactly when the request of that result follows the first answered one.
-/
theorem pendingLoop_cached {rounds : Nat} {loop : PendingLoop}
    (ordered : Ordered (loop.done ++ loop.rest)) (enough : loop.rest.length ≤ rounds)
    (cached : (loop.tracker.mPendingReprocessResultList.any fun pending =>
        pending.frameNumber == uint32Succ entries.frameNumber) = true) :
    ∃ final, pendingLoop callback entries rounds loop = some final ∧
        final.outputs.any Output.isStale = (loop.outputs.any Output.isStale ||
            answersBefore entries.frameNumber (uint32Succ entries.frameNumber) loop.rest) := by
  induction rounds generalizing loop with
  | zero =>
    have empty : loop.rest = [] := List.eq_nil_of_length_eq_zero (Nat.le_zero.mp enough)
    exact ⟨loop, rfl, by simp [empty, answersBefore]⟩
  | succ rounds inductionHypothesis =>
    unfold pendingLoop
    cases shape : loop.rest with
    | nil => exact ⟨loop, rfl, by simp [answersBefore]⟩
    | cons request later =>
      dsimp only
      rw [shape] at ordered enough
      have shorter : later.length ≤ rounds := by
        simpa using enough
      by_cases due : request.frameNumber ≤ entries.frameNumber
      · have notAbove : ¬ entries.frameNumber < request.frameNumber := by
          omega
        rw [if_pos due]
        unfold pendingRound
        by_cases skip : dueCase entries.frameNumber request = .skip
        · simp only [skip, if_true, answersBefore, if_neg notAbove]
          obtain ⟨final, ran, same⟩ :=
            @inductionHypothesis (passSkipped entries request later loop)
              (by simpa [passSkipped] using ordered) shorter
              (by simpa [passSkipped, reportFrameDrops] using cached)
          refine ⟨final, ran, same.trans ?_⟩
          rw [passSkipped_isStale]
          rfl
        · simp only [skip, if_false, answersBefore, if_neg notAbove]
          have passed : Ordered ((passDue callback entries request later loop).done ++
                  (passDue callback entries request later loop).rest) :=
            ordered.of_frames (passDue_frames callback entries loop request later)
          cases follows : later.head?.any (fun next =>
                next.frameNumber == uint32Succ entries.frameNumber) with
          | true =>
            obtain ⟨head, tail, laterShape, delayed⟩ : ∃ head tail, later = head :: tail ∧
                    head.frameNumber = uint32Succ entries.frameNumber := by
              cases later with
              | nil => simp at follows
              | cons head tail => exact ⟨head, tail, rfl, by simpa using follows⟩
            have behind := ordered.around.2 head (by simp [laterShape])
            have above : entries.frameNumber < uint32Succ entries.frameNumber := by
              rcases uint32Succ_cases entries.frameNumber with
                next | wrapped
              · omega
              · omega
            have others : ∀ other ∈ (passDue callback entries request later loop).done,
                  other.frameNumber ≠ uint32Succ entries.frameNumber := by
              intro other member
              have before :=
                (List.pairwise_append.mp passed).2.2 other member head (by simp [laterShape])
              omega
            obtain ⟨next, round, stale⟩ :=
              drainDelayed_atHead (by rw [passDue_cache]; exact cached) others
                (by rw [passDue_rest]; exact laterShape) delayed
                above
            simp only [round]
            exact ⟨next, rfl, by simpa using stale⟩
          | false =>
            rcases drainDelayed_cases entries.frameNumber
                (passDue callback entries request later loop) with
              ⟨next, round, drained⟩ |
              ⟨next, head, _, _, headShape, delayed, _⟩ |
              ⟨_, head, tail, headShape, delayed, _⟩
            · simp only [round]
              obtain ⟨final, ran, same⟩ :=
                @pendingLoop_harmless callback entries rounds next
                  (drained.harmless passed)
              refine ⟨final, ran, same.trans ?_⟩
              rw [drainDelayed_next_isStale round, passDue_isStale]
              simp
            · rw [passDue_rest] at headShape
              simp [headShape, delayed] at follows
            · rw [passDue_rest] at headShape
              simp [headShape, delayed] at follows
      · have above : entries.frameNumber < request.frameNumber := by
          omega
        rw [if_neg due]
        exact ⟨loop, rfl, by simp [answersBefore, above]⟩

end PendingLoop

/-! ## The whole callback -/

theorem answersBefore_handleUrgent (callback : MetadataCallback)
    (urgentFrameNumber frameNumber delayed : Nat) (requests : List PendingRequestInfo) :
    answersBefore frameNumber delayed (handleUrgent callback urgentFrameNumber requests).1 =
      answersBefore frameNumber delayed requests := by
  have sameFrames := handleUrgent_frames callback urgentFrameNumber
  induction requests with
  | nil => rfl
  | cons request rest inductionHypothesis =>
    obtain ⟨count, counted⟩ := noteMissedUrgent_eq request urgentFrameNumber
    have sameHead : ((handleUrgent callback urgentFrameNumber rest).1.head?.any
            fun next => next.frameNumber == delayed) =
          rest.head?.any fun next => next.frameNumber == delayed := by
      have frames := congrArg List.head? (sameFrames rest)
      simp only [requestFrames, List.head?_map] at frames
      have heads := congrArg (Option.any (· == delayed)) frames
      simpa [Option.any_map, Function.comp_def] using heads
    unfold handleUrgent
    rw [counted]
    dsimp only
    split
    · rfl
    · simp only [answersBefore, inductionHypothesis, sameHead]
      rfl

theorem handleUrgentPart_spec (callback : MetadataCallback) (entries : MetadataEntries)
    (tracker : Tracker) :
    (handleUrgentPart callback entries tracker).2.any Output.isStale = false ∧
      (handleUrgentPart callback entries tracker).1.mPendingReprocessResultList =
        tracker.mPendingReprocessResultList ∧
      ∀ frameNumber delayed, answersBefore frameNumber delayed (handleUrgentPart callback entries
              tracker).1.mPendingRequestsList =
          answersBefore frameNumber delayed
            tracker.mPendingRequestsList := by
  unfold handleUrgentPart
  split
  · exact ⟨handleUrgent_isStale .., rfl, fun frameNumber delayed => answersBefore_handleUrgent ..⟩
  · exact ⟨rfl, rfl, fun _ _ => rfl⟩

/--
On a list in frame order, a metadata callback keeps its iterator inside the
list if and only if no cached result lets it erase the request behind the
first one that it answers.
-/
theorem handleMetadataWithLock_iteratorSafe_iff {callback : MetadataCallback} {tracker : Tracker}
    (ordered : Ordered tracker.mPendingRequestsList) :
    IteratorSafe (handleMetadataWithLock callback tracker) ↔
      erasesAtIterator callback tracker = false := by
  cases given : callback.entries with
  | none =>
    simp only [handleMetadataWithLock, erasesAtIterator, given, iteratorSafe_some, bufDone_isStale]
  | some entries =>
    obtain ⟨urgentSafe, sameCache, sameAnswers⟩ :=
      handleUrgentPart_spec callback entries tracker
    cases valid : entries.frameNumberValid with
    | false =>
      simp only [handleMetadataWithLock, erasesAtIterator, given,
        handleNormalPart, valid, Bool.false_eq_true, if_false,
        Option.map_some, iteratorSafe_some, List.any_append,
        bufDone_isStale, urgentSafe, Bool.or_false, Bool.false_and]
    | true =>
      have urgentOrdered : Ordered (handleUrgentPart callback entries
              tracker).1.mPendingRequestsList := by
        refine ordered.of_frames ?_
        rw [handleUrgentPart_frames]
      have ended : ∃ final, pendingLoop callback entries (handleUrgentPart callback entries
                  tracker).1.mPendingRequestsList.length
                (startLoop (handleUrgentPart callback entries tracker).1) =
              some final ∧
            final.outputs.any Output.isStale =
              erasesAtIterator callback tracker := by
        simp only [erasesAtIterator, given, valid, Bool.true_and]
        cases cached : tracker.mPendingReprocessResultList.any fun pending =>
              pending.frameNumber == uint32Succ entries.frameNumber with
        | true =>
          obtain ⟨final, ran, same⟩ :=
            @pendingLoop_cached callback entries _ (startLoop
                (handleUrgentPart callback entries tracker).1)
              (by simpa [startLoop] using urgentOrdered)
              (Nat.le_refl _)
              (by simpa [startLoop, sameCache] using cached)
          refine ⟨final, ran, same.trans ?_⟩
          simp [startLoop, sameAnswers]
        | false =>
          obtain ⟨final, ran, same⟩ :=
            @pendingLoop_harmless callback entries (handleUrgentPart callback entries
                tracker).1.mPendingRequestsList.length
              (startLoop (handleUrgentPart callback entries tracker).1)
              (.inl (by simpa [startLoop, sameCache] using cached))
          exact ⟨final, ran, by simpa [startLoop] using same⟩
      obtain ⟨final, ran, stale⟩ := ended
      have handled : handleMetadataWithLock callback tracker =
            some (final.close.1.deepenPipeline, (handleUrgentPart callback entries tracker).2 ++
                final.outputs) := by
        simp only [handleMetadataWithLock, given, handleNormalPart, valid, if_true]
        unfold startLoop at ran
        rw [ran]
        rfl
      rw [handled, iteratorSafe_some, List.any_append, urgentSafe, Bool.false_or, stale]

/-- A callback with the normal metadata of a frame. -/
def normalCallback (frameNumber : Nat) : MetadataCallback where
  metadataBuf := frameNumber
  entries := some {
    frameNumberValid := true
    frameNumber := frameNumber
    urgentFrameNumberValid := false
    urgentFrameNumber := 0
    captureTime := frameNumber
    droppedStreams := [] }
  freeAndBufdoneMetaBuf := true
  lastUrgentMetadataInBatch := true
  lastMetadataInBatch := true

/-- A jpeg waits behind two live requests, of which the first is missed. -/
theorem handleMetadataWithLock_iteratorSafe_missed : ∃ tracker log, trackerRun (opened true false)
          [liveEvent 1, liveEvent 2, reprocessEvent 3, .buffer 0 (jpegBuffer 3) 3] =
        some (tracker, log) ∧
      tracker.mPendingReprocessResultList.length = 1 ∧
      IteratorSafe (handleMetadataWithLock (normalCallback 2) tracker) := by
  refine ⟨_, _, rfl, by decide, ?_⟩
  exact (@handleMetadataWithLock_iteratorSafe_iff (normalCallback 2) _ (by decide)).mpr (by decide)

/-- A jpeg waits directly behind the request of the metadata. -/
theorem handleMetadataWithLock_readsErased : ∃ tracker log, trackerRun (opened true false)
          [liveEvent 1, reprocessEvent 2, .buffer 0 (jpegBuffer 2) 2] =
        some (tracker, log) ∧
      Ordered tracker.mPendingRequestsList ∧
      ¬ IteratorSafe (handleMetadataWithLock (normalCallback 1) tracker) := by
  refine ⟨_, _, rfl, by decide, ?_⟩
  rintro ⟨next, sent, handled, safe⟩
  obtain ⟨rfl, rfl⟩ := Prod.mk.inj (Option.some.inj handled)
  revert safe
  decide

end AnglerHal.Hal3
