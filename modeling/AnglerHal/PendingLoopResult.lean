import AnglerHal.RequestIdentity

namespace AnglerHal.Hal3

/-!
# Where the pending loop ends

On a list in frame order the loop always ends, with the iterator behind every
request up to the frame number of the metadata.  Which requests it erases can
be told beforehand.
-/

section PendingLoop

variable {callback : MetadataCallback} {entries : MetadataEntries}

/-- The loop is never left with an iterator that would have to go on. -/
theorem pendingLoop_defined {rounds : Nat} {loop : PendingLoop}
    (ordered : Ordered (loop.done ++ loop.rest)) :
    ∃ final, pendingLoop callback entries rounds loop = some final := by
  induction rounds generalizing loop with
  | zero => exact ⟨loop, rfl⟩
  | succ rounds inductionHypothesis =>
    unfold pendingLoop
    cases shape : loop.rest with
    | nil => exact ⟨loop, rfl⟩
    | cons request later =>
      simp only
      rw [shape] at ordered
      by_cases due : request.frameNumber ≤ entries.frameNumber
      · simp only [due, if_true]
        unfold pendingRound
        by_cases skip : dueCase entries.frameNumber request = .skip
        · simp only [skip, if_true]
          apply inductionHypothesis
          simpa [passSkipped] using ordered
        · simp only [skip, if_false]
          have passed : Ordered ((passDue callback entries request later loop).done ++
                  (passDue callback entries request later loop).rest) :=
            ordered.of_frames (passDue_frames callback entries loop request later)
          rcases drainDelayed_cases entries.frameNumber
              (passDue callback entries request later loop) with
            ⟨next, round, drained⟩ | ⟨next, _, round, _⟩ |
            ⟨_, head, tail, laterShape, delayed, wrapped⟩
          · simp only [round]
            exact inductionHypothesis (passed.of_frames drained.frames)
          · simp only [round]
            exact ⟨next, rfl⟩
          · -- the delayed frame is 0, but a request stands before it
            exfalso
            simp only [passDue_rest] at laterShape
            have above := ordered.around.2 head (by simp [laterShape])
            unfold uint32Succ at delayed wrapped
            split at wrapped
            · simp_all
            · omega
      · simp only [due, if_false]
        exact ⟨loop, rfl⟩

/-- The loop ends behind every request that has come due. -/
theorem pendingLoop_exit {rounds : Nat} {loop final : PendingLoop}
    (ordered : Ordered (loop.done ++ loop.rest)) (enough : loop.rest.length ≤ rounds)
    (ran : pendingLoop callback entries rounds loop = some final) :
    ∀ request ∈ final.rest, entries.frameNumber < request.frameNumber := by
  induction rounds generalizing loop with
  | zero =>
    simp only [pendingLoop, Option.some.injEq] at ran
    subst final
    have none : loop.rest = [] := List.eq_nil_of_length_eq_zero (Nat.le_zero.mp enough)
    simp [none]
  | succ rounds inductionHypothesis =>
    unfold pendingLoop at ran
    cases shape : loop.rest with
    | nil =>
      simp only [shape, Option.some.injEq] at ran
      subst final
      simp [shape]
    | cons request later =>
      simp only [shape] at ran
      rw [shape] at ordered enough
      have shorter : later.length ≤ rounds := by
        simpa using enough
      by_cases due : request.frameNumber ≤ entries.frameNumber
      · simp only [due, if_true] at ran
        unfold pendingRound at ran
        by_cases skip : dueCase entries.frameNumber request = .skip
        · simp only [skip, if_true] at ran
          refine inductionHypothesis ?_ ?_ ran
          · simpa [passSkipped] using ordered
          · simpa [passSkipped] using shorter
        · simp only [skip, if_false] at ran
          have passed : Ordered ((passDue callback entries request later loop).done ++
                  (passDue callback entries request later loop).rest) :=
            ordered.of_frames (passDue_frames callback entries loop request later)
          rcases drainDelayed_cases entries.frameNumber
              (passDue callback entries request later loop) with
            ⟨next, round, drained⟩ |
            ⟨next, head, round, drained, headShape, delayed, above⟩ |
            ⟨round, _⟩
          · simp only [round] at ran
            refine inductionHypothesis (passed.of_frames drained.frames) ?_ ran
            have fewer := drained.sublists.2.length_le
            simp only [passDue_rest] at fewer
            omega
          · simp only [round, Option.some.injEq] at ran
            subst final
            rw [headShape] at passed
            intro other member
            have behind := passed.around.2 other member
            omega
          · simp [round] at ran
      · simp only [due, if_false, Option.some.injEq] at ran
        subst final
        rw [shape]
        intro other member
        rcases List.mem_cons.mp member with rfl | inLater
        · omega
        · have behind := ordered.around.2 other inLater
          omega

end PendingLoop

/-! ## Rounds on a list in frame order -/

variable {frameNumber rounds : Nat} {request : PendingRequestInfo} {tracker : Tracker}
  {loop final : PendingLoop} {later : List PendingRequestInfo}
  {callback : MetadataCallback} {entries : MetadataEntries}

theorem not_isUnfinishedRaw (notSkipped : dueCase frameNumber request ≠ .skip) :
    isUnfinishedRaw frameNumber request = false := by
  by_contra raw
  have isRaw : isUnfinishedRaw frameNumber request = true := by
    simpa using raw
  simp only [isUnfinishedRaw, PendingRequestInfo.isLive, Bool.and_eq_true, decide_eq_true_eq,
    Option.isNone_iff_eq_none] at isRaw
  obtain ⟨⟨below, live⟩, needs⟩ := isRaw
  exact notSkipped (by simp [dueCase, below, live, needs])

/-- A raw request stands unfinished before the frame of the metadata. -/
def rawUnfinished (frameNumber : Nat) (requests : List PendingRequestInfo) : Bool :=
  requests.any (isUnfinishedRaw frameNumber)

/-- What the rounds of the loop keep of the list they started with. -/
structure LoopStands (frameNumber : Nat) (tracker : Tracker) (loop : PendingLoop) : Prop where
  rest : loop.rest.Sublist tracker.mPendingRequestsList
  flag : (loop.unfinishedRawRequest || rawUnfinished frameNumber loop.rest) =
      rawUnfinished frameNumber tracker.mPendingRequestsList
  cache : loop.tracker.mPendingReprocessResultList.Sublist tracker.mPendingReprocessResultList

theorem LoopStands.dueCount_eq (stands : LoopStands frameNumber tracker loop)
    (ordered : Ordered tracker.mPendingRequestsList)
    (shape : loop.rest = request :: later) (due : request.frameNumber ≤ frameNumber)
    (notSkipped : dueCase frameNumber request ≠ .skip) :
    dueCount frameNumber loop.unfinishedRawRequest request = dueCount frameNumber
        (rawUnfinished frameNumber tracker.mPendingRequestsList)
        request := by
  unfold dueCount
  split
  · rfl
  · rename_i notMissed
    -- the request is the one of the metadata, so the rest is not older
    have current : request.frameNumber = frameNumber := by
      by_contra different
      have below : request.frameNumber < frameNumber := by
        omega
      have missed : dueCase frameNumber request = .missed := by
        cases kind : dueCase frameNumber request with
        | skip => exact absurd kind notSkipped
        | missed => rfl
        | current =>
          simp only [dueCase, below, if_true] at kind
          split at kind <;> (try split at kind) <;>
            (try split at kind) <;> contradiction
      exact notMissed missed
    have restOrdered : Ordered (request :: later) := by
      have sublist := stands.rest
      rw [shape] at sublist
      exact List.Pairwise.sublist sublist ordered
    have noRaw : rawUnfinished frameNumber loop.rest = false := by
      unfold rawUnfinished
      rw [shape, List.any_eq_false]
      intro other member raw
      simp only [isUnfinishedRaw, Bool.and_eq_true, decide_eq_true_eq] at raw
      rcases List.mem_cons.mp member with rfl | inLater
      · omega
      · have behind := (List.pairwise_cons.mp restOrdered).1 other inLater
        omega
    have flag := stands.flag
    rw [noRaw, Bool.or_false] at flag
    rw [flag]

theorem drained_rawUnfinished {next : PendingLoop}
    (drained : Drained (uint32Succ entries.frameNumber)
        (passDue callback entries request later loop) next)
    (ordered : Ordered (request :: later)) :
    rawUnfinished entries.frameNumber next.rest = rawUnfinished entries.frameNumber later := by
  unfold rawUnfinished
  rw [Bool.eq_iff_iff, List.any_eq_true, List.any_eq_true]
  constructor
  · rintro ⟨other, member, raw⟩
    exact ⟨other, drained.sublists.2.subset member, raw⟩
  · rintro ⟨other, member, raw⟩
    refine ⟨other, (drained.keeps ?_).2 member, raw⟩
    have behind := (List.pairwise_cons.mp ordered).1 other member
    simp only [isUnfinishedRaw, Bool.and_eq_true, decide_eq_true_eq] at raw
    unfold uint32Succ
    split
    · omega
    · omega

/--
The rule for the pending loop on a list in frame order.  The request at the
iterator is one of the list, and its count is decided by the list.
-/
theorem pendingLoop_ordered_rule (ordered : Ordered tracker.mPendingRequestsList)
    (invariant : PendingLoop → Prop) (start : invariant (startLoop tracker))
    (skips : ∀ {loop request later}, invariant loop → loop.rest = request :: later →
        request ∈ tracker.mPendingRequestsList →
        request.frameNumber ≤ entries.frameNumber →
        dueCase entries.frameNumber request = .skip →
        invariant (passSkipped entries request later loop))
    (answers : ∀ {loop request later next}, invariant loop →
        LoopStands entries.frameNumber tracker loop →
        loop.rest = request :: later →
        request ∈ tracker.mPendingRequestsList →
        request.frameNumber ≤ entries.frameNumber →
        dueCase entries.frameNumber request ≠ .skip →
        dueCount entries.frameNumber loop.unfinishedRawRequest request =
          dueCount entries.frameNumber (rawUnfinished entries.frameNumber
              tracker.mPendingRequestsList) request →
        Drained (uint32Succ entries.frameNumber)
          (passDue callback entries request later loop) next →
        invariant next)
    (ran : pendingLoop callback entries rounds (startLoop tracker) = some final) :
    invariant final := by
  have both : invariant final ∧ LoopStands entries.frameNumber tracker final := by
    apply pendingLoop_rule (fun current =>
        invariant current ∧ LoopStands entries.frameNumber tracker current)
      ?_ ?_ ?_ ran
    · rintro current request later ⟨kept, stands⟩ shape due skip
      have rest := stands.rest
      have flag := stands.flag
      rw [shape] at rest flag
      refine ⟨skips kept shape (rest.subset (by simp)) due skip,
        (List.sublist_cons_self _ _).trans rest, ?_, stands.cache⟩
      rw [← flag]
      simp [passSkipped, rawUnfinished, Bool.or_assoc]
    · rintro current request later next ⟨kept, stands⟩ shape due skip drained
      have rest := stands.rest
      have flag := stands.flag
      rw [shape] at rest flag
      refine ⟨answers kept stands shape (rest.subset (by simp)) due skip
        (stands.dueCount_eq ordered shape due skip) drained, ?_, ?_, ?_⟩
      · exact (drained.sublists.2.trans (List.sublist_cons_self _ _)).trans rest
      · have behind : rawUnfinished entries.frameNumber next.rest =
            rawUnfinished entries.frameNumber later := by
          apply drained_rawUnfinished drained
          exact List.Pairwise.sublist rest ordered
        have noRaw := not_isUnfinishedRaw skip
        rw [← flag, drained.unfinishedRawRequest, behind, passDue_unfinishedRawRequest]
        simp [rawUnfinished, noRaw]
      · obtain ⟨map, drops, passed⟩ :=
          passDue_tracker callback entries current request later
        have fewer := drained.cache
        rw [passed] at fewer
        exact fewer.trans stands.cache
    · exact ⟨start, .refl _, by simp [startLoop], .refl _⟩
  exact both.1

/-! ## The requests that the loop erases -/

/-- The loop answers this request. -/
def isAnswered (frameNumber : Nat) (request : PendingRequestInfo) : Bool :=
  request.frameNumber ≤ frameNumber && dueCase frameNumber request != .skip

/--
The loop erases an answered request with its last partial result, and the next
one if a delayed result of it is delivered.
-/
def ErasedByMetadata (frameNumber : Nat) (cache : List PendingReprocessResult)
    (requests : List PendingRequestInfo)
    (request : PendingRequestInfo) : Prop :=
  (isAnswered frameNumber request = true ∧
      dueCount frameNumber (rawUnfinished frameNumber requests) request = partialResultCount) ∨
    (request.frameNumber = uint32Succ frameNumber ∧ (∃ pending ∈ cache,
        pending.frameNumber = uint32Succ frameNumber) ∧
      ∃ other ∈ requests, isAnswered frameNumber other = true)

instance (frameNumber : Nat) (cache : List PendingReprocessResult)
    (requests : List PendingRequestInfo)
    (request : PendingRequestInfo) :
    Decidable (ErasedByMetadata frameNumber cache requests request) :=
  inferInstanceAs (Decidable (_ ∨ _))

/-- The frame number of a request that is not erased stays in the list. -/
theorem pendingLoop_survives (ordered : Ordered tracker.mPendingRequestsList)
    (ran : pendingLoop callback entries rounds (startLoop tracker) = some final)
    (member : request ∈ tracker.mPendingRequestsList)
    (survives : ¬ ErasedByMetadata entries.frameNumber tracker.mPendingReprocessResultList
        tracker.mPendingRequestsList request) :
    request.frameNumber ∈ requestFrames (final.done ++ final.rest) := by
  unfold ErasedByMetadata at survives
  rw [not_or] at survives
  obtain ⟨notFinished, notDelivered⟩ := survives
  apply pendingLoop_ordered_rule ordered (fun current =>
      request.frameNumber ∈ requestFrames (current.done ++ current.rest))
    (List.mem_map_of_mem member) ?_ ?_ ran
  · intro current head later inFrames shape _ _ _
    rw [shape] at inFrames
    simpa [passSkipped] using inFrames
  · intro current head later next inFrames stands shape inList due skip counts drained
    rw [shape] at inFrames
    have answered : isAnswered entries.frameNumber head = true := by
      simp [isAnswered, due, skip]
    have passed : request.frameNumber ∈ requestFrames
            ((passDue callback entries head later current).done ++ later) := by
      rw [passDue_done]
      by_cases here : head.frameNumber = request.frameNumber
      · have same : head = request := ordered.eq_of_frame inList member here
        subst head
        rw [if_neg]
        · simp
        · intro finished
          exact notFinished ⟨answered, counts.symm.trans finished⟩
      · have elsewhere : request.frameNumber ∈ requestFrames current.done ∨
              request.frameNumber ∈ requestFrames later := by
          simp only [requestFrames_append, requestFrames_cons,
            List.mem_append, List.mem_cons] at inFrames
          rcases inFrames with inDone | same | inLater
          · exact .inl inDone
          · exact absurd same.symm here
          · exact .inr inLater
        simp only [requestFrames_append, List.mem_append]
        rcases elsewhere with inDone | inLater
        · exact .inl (.inl inDone)
        · exact .inr inLater
    obtain ⟨version, inVersion, sameFrame⟩ := List.mem_map.mp passed
    by_cases delayed : version.frameNumber = uint32Succ entries.frameNumber
    · -- nothing can be delivered for the frame of this request
      have noneCached : ∀ pending ∈ (passDue callback entries head later
                current).tracker.mPendingReprocessResultList,
            pending.frameNumber ≠ uint32Succ entries.frameNumber := by
        intro pending inCache same
        obtain ⟨map, drops, tracked⟩ := passDue_tracker callback entries current head later
        rw [tracked] at inCache
        exact notDelivered ⟨sameFrame ▸ delayed, ⟨pending, stands.cache.subset inCache, same⟩,
          ⟨head, inList, answered⟩⟩
      cases drained with
      | nothing => exact passed
      | orphan requests found =>
        exact absurd (by simpa using List.find?_some found)
          (noneCached _ (List.mem_of_find?_eq_some found))
      | delivered requests found =>
        exact absurd (by simpa using List.find?_some found)
          (noneCached _ (List.mem_of_find?_eq_some found))
    · rw [← sameFrame]
      apply List.mem_map_of_mem
      have keeps := drained.keeps delayed
      rcases List.mem_append.mp inVersion with inDone | inLater
      · exact List.mem_append_left _ (keeps.1 inDone)
      · exact List.mem_append_right _ (keeps.2 inLater)

end AnglerHal.Hal3
