import AnglerHal.PendingLoopResult

namespace AnglerHal.Hal3

/-!
# Delayed reprocess results

A reprocessed buffer that is ready before an older request has been answered
waits in `mPendingReprocessResultList`.  Only the normal metadata of the frame
directly before it delivers it.  So it is delivered in time exactly as long as
no other step takes away its request or the last older one.
-/

/-- The request of a frame is pending, behind an older one. -/
def WaitsBehind (requests : List PendingRequestInfo) (frameNumber : Nat) : Prop :=
  ∃ before request later, requests = before ++ request :: later ∧
      request.frameNumber = frameNumber ∧
      ∃ older ∈ before, older.frameNumber < frameNumber

/-- Every delayed result has a reason to wait. -/
def DelayedWait (tracker : Tracker) : Prop :=
  ∀ pending ∈ tracker.mPendingReprocessResultList,
    WaitsBehind tracker.mPendingRequestsList pending.frameNumber

/-! ## When a step keeps the reason -/

/--
A normal metadata and the delayed results of a frame.  Either they are those of
the next frame and the metadata answers at least as many requests as there are
of them; or it answers no request up to their frame; or a request behind the
metadata stands before theirs, and no delayed result lets go of it.
-/
def MetadataKeeps (metadataFrame : Nat) (cache : List PendingReprocessResult)
    (requests : List PendingRequestInfo)
    (frameNumber : Nat) : Prop :=
  (frameNumber = uint32Succ metadataFrame ∧ cache.countP (fun pending =>
        pending.frameNumber == uint32Succ metadataFrame) ≤
      requests.countP (isAnswered metadataFrame)) ∨
    (∀ request ∈ requests, isAnswered metadataFrame request = true →
      frameNumber < request.frameNumber) ∨
    ∃ request ∈ requests, metadataFrame < request.frameNumber ∧ request.frameNumber < frameNumber ∧
      (request.frameNumber = uint32Succ metadataFrame →
        ∀ pending ∈ cache, pending.frameNumber ≠ request.frameNumber)

instance (metadataFrame : Nat) (cache : List PendingReprocessResult)
    (requests : List PendingRequestInfo)
    (frameNumber : Nat) :
    Decidable (MetadataKeeps metadataFrame cache requests frameNumber) :=
  inferInstanceAs (Decidable (_ ∨ _ ∨ _))

/-- A black level is the last result that a request of this frame waits for. -/
def LastBlackLevel (frameNumber : Nat) (request : PendingRequestInfo) : Prop :=
  request.frameNumber = frameNumber ∧ request.needDynamicBlklvl = true ∧
    request.partialResultCnt + 1 = partialResultCount

instance (frameNumber : Nat) (request : PendingRequestInfo) :
    Decidable (LastBlackLevel frameNumber request) :=
  inferInstanceAs (Decidable (_ ∧ _))

/-- The oldest request is closed by its reprocessed buffer. -/
def ClosedByBuffer (frameNumber : Nat) (requests : List PendingRequestInfo)
    (request : PendingRequestInfo) : Prop :=
  request.frameNumber = frameNumber ∧ request.isLive = false ∧ request.pendingExtraResult = false ∧
    ∀ older ∈ requests, ¬ older.frameNumber < frameNumber

instance (frameNumber : Nat) (requests : List PendingRequestInfo) (request : PendingRequestInfo) :
    Decidable (ClosedByBuffer frameNumber requests request) :=
  inferInstanceAs (Decidable (_ ∧ _))

/--
The steps after which every delayed result still has a reason to wait: up to the
frame of a delayed result no black level, input buffer or output buffer closes a
request, and metadata goes by `MetadataKeeps`.
-/
def KeepsDelayed (tracker : Tracker) (past : List TrackerEvent) (event : TrackerEvent) : Prop :=
  FramesIncrease past event ∧ ∀ pending ∈ tracker.mPendingReprocessResultList, match event with
      | .metadata callback =>
        ∀ entries ∈ callback.entries, entries.frameNumberValid = true →
          MetadataKeeps entries.frameNumber tracker.mPendingReprocessResultList
            tracker.mPendingRequestsList pending.frameNumber
      | .blackLevel _ frameNumber =>
        frameNumber ≤ pending.frameNumber →
          ∀ request ∈ tracker.mPendingRequestsList, ¬ LastBlackLevel frameNumber request
      | .inputBuffer _ _ frameNumber =>
        frameNumber ≤ pending.frameNumber →
          ∀ request ∈ tracker.mPendingRequestsList, request.frameNumber = frameNumber →
            request.isLive = true
      | .buffer _ _ frameNumber =>
        frameNumber ≤ pending.frameNumber →
          ∀ request ∈ tracker.mPendingRequestsList,
            ¬ ClosedByBuffer frameNumber tracker.mPendingRequestsList request
      | _ => True

instance (tracker : Tracker) (past : List TrackerEvent) (event : TrackerEvent) :
    Decidable (KeepsDelayed tracker past event) :=
  match event with
  | .metadata _ => inferInstanceAs (Decidable (_ ∧ ∀ pending ∈ _, ∀ entries ∈ _, _))
  | .blackLevel _ _ => inferInstanceAs (Decidable (_ ∧ ∀ pending ∈ _, _ → ∀ request ∈ _, _))
  | .inputBuffer _ _ _ => inferInstanceAs (Decidable (_ ∧ ∀ pending ∈ _, _ → ∀ request ∈ _, _))
  | .buffer _ _ _ => inferInstanceAs (Decidable (_ ∧ ∀ pending ∈ _, _ → ∀ request ∈ _, _))
  | .processCaptureRequest _ _ | .flushBegin | .flushEnd
  | .configureStreams _ => inferInstanceAs (Decidable (_ ∧ ∀ pending ∈ _, True))

/-! ## Waiting in frame order -/

variable {requests before later : List PendingRequestInfo} {frameNumber : Nat}
  {cache : List PendingReprocessResult} {request : PendingRequestInfo}
  {tracker : Tracker}

/-- In frame order an older request stands before. -/
theorem waitsBehind_iff (ordered : Ordered requests) :
    WaitsBehind requests frameNumber ↔ frameNumber ∈ requestFrames requests ∧
        ∃ older ∈ requestFrames requests, older < frameNumber := by
  constructor
  · rintro ⟨before, request, later, rfl, rfl, older, inBefore, below⟩
    exact ⟨List.mem_map_of_mem (by simp), older.frameNumber,
      List.mem_map_of_mem (by simp [inBefore]), below⟩
  · rintro ⟨inFrames, olderFrame, olderMember, below⟩
    obtain ⟨request, member, rfl⟩ := List.mem_map.mp inFrames
    obtain ⟨older, olderInList, rfl⟩ := List.mem_map.mp olderMember
    obtain ⟨before, later, rfl⟩ := List.append_of_mem member
    refine ⟨before, request, later, rfl, rfl, older, ?_, below⟩
    rcases List.mem_append.mp olderInList with inBefore | notBefore
    · exact inBefore
    · rcases List.mem_cons.mp notBefore with rfl | inLater
      · omega
      · have behind := ordered.around.2 older inLater
        omega

/-- A step that erases some requests keeps this one and an older one. -/
def StillWaits (requests : List PendingRequestInfo) (erased : PendingRequestInfo → Prop)
    (frameNumber : Nat) : Prop :=
  (∃ request ∈ requests, request.frameNumber = frameNumber ∧ ¬ erased request) ∧
  ∃ older ∈ requests, older.frameNumber < frameNumber ∧ ¬ erased older

/-- What is erased is newer than the delayed result. -/
theorem StillWaits.of_newer {erased : PendingRequestInfo → Prop}
    (waits : WaitsBehind requests frameNumber)
    (newer : ∀ request ∈ requests, erased request → frameNumber < request.frameNumber) :
    StillWaits requests erased frameNumber := by
  obtain ⟨before, request, later, rfl, rfl, older, inBefore, below⟩ := waits
  have inList : request ∈ before ++ request :: later := by simp
  have olderInList : older ∈ before ++ request :: later := by simp [inBefore]
  refine ⟨⟨request, inList, rfl, fun erases => ?_⟩, older, olderInList, below, fun erases => ?_⟩
  · exact Nat.lt_irrefl _ (newer request inList erases)
  · exact Nat.lt_asymm below (newer older olderInList erases)

/-- Where what is not erased survives, the delayed result still waits. -/
theorem StillWaits.waitsBehind {after : List PendingRequestInfo}
    {erased : PendingRequestInfo → Prop} (waits : StillWaits before erased frameNumber)
    (ordered : Ordered after)
    (survive : ∀ request ∈ before, ¬ erased request → request.frameNumber ∈ requestFrames after) :
    WaitsBehind after frameNumber := by
  obtain ⟨⟨request, member, rfl, stays⟩, older, olderMember, below, olderStays⟩ := waits
  exact (waitsBehind_iff ordered).mpr ⟨survive request member stays, older.frameNumber,
      survive older olderMember olderStays, below⟩

/-! ## Metadata -/

/-- Urgent metadata does not change which requests the loop answers. -/
theorem handleUrgentPart_answered (callback : MetadataCallback)
    (entries : MetadataEntries) (tracker : Tracker) (metadataFrame : Nat) :
    (handleUrgentPart callback entries tracker).1.mPendingRequestsList.map (fun request =>
        (request.frameNumber, isAnswered metadataFrame request)) =
      tracker.mPendingRequestsList.map (fun request =>
        (request.frameNumber, isAnswered metadataFrame request)) := by
  unfold handleUrgentPart
  split
  · exact handleUrgent_map (fun _ _ _ => rfl) callback entries.urgentFrameNumber _
  · rfl

/-- Metadata that answers only newer requests, or has another one before it, lets it wait. -/
theorem StillWaits.of_metadata {metadataFrame : Nat}
    (waits : WaitsBehind requests frameNumber)
    (positive : ∀ pending ∈ cache, 0 < pending.frameNumber)
    (keeps : (∀ request ∈ requests, isAnswered metadataFrame request = true →
        frameNumber < request.frameNumber) ∨
      ∃ request ∈ requests, metadataFrame < request.frameNumber ∧
        request.frameNumber < frameNumber ∧
        (request.frameNumber = uint32Succ metadataFrame →
          ∀ pending ∈ cache, pending.frameNumber ≠ request.frameNumber)) :
    StillWaits requests (ErasedByMetadata metadataFrame cache requests) frameNumber := by
  have upTo {request : PendingRequestInfo} (answered : isAnswered metadataFrame request = true) :
      request.frameNumber ≤ metadataFrame := by
    simp only [isAnswered, Bool.and_eq_true, decide_eq_true_eq] at answered
    exact answered.1
  rcases keeps with newer | ⟨between, member, behind, below, undrained⟩
  · refine .of_newer waits ?_
    rintro request member (⟨answered, _⟩ | ⟨next, drained, other, otherMember, answered⟩)
    · exact newer request member answered
    · have above := newer other otherMember answered
      have early := upTo answered
      -- the number after `UINT_MAX` is 0, and nothing waits before frame 0
      obtain ⟨pending, inCache, isNext⟩ := drained
      have notZero := positive pending inCache
      unfold uint32Succ at next isNext
      split at next <;> split at isNext <;> omega
  · obtain ⟨before, request, later, rfl, rfl, _⟩ := waits
    refine ⟨⟨request, by simp, rfl, ?_⟩, between, member, below, ?_⟩
    · rintro (⟨answered, _⟩ | ⟨next, _⟩)
      · have early := upTo answered
        omega
      · unfold uint32Succ at next
        split at next <;> omega
    · rintro (⟨answered, _⟩ | ⟨next, ⟨pending, inCache, isNext⟩, _⟩)
      · have early := upTo answered
        omega
      · exact undrained next pending inCache (isNext.trans next.symm)

section SameAnswers

variable {requests others : List PendingRequestInfo} {metadataFrame : Nat}
  (same : requests.map (fun request => (request.frameNumber, isAnswered metadataFrame request)) =
    others.map (fun request => (request.frameNumber, isAnswered metadataFrame request)))

include same

/-- A request of the one list has its like in the other. -/
theorem exists_alike (member : request ∈ others) :
    ∃ alike ∈ requests, alike.frameNumber = request.frameNumber ∧
      isAnswered metadataFrame alike = isAnswered metadataFrame request := by
  have inMap := List.mem_map_of_mem (f := fun request : PendingRequestInfo =>
    (request.frameNumber, isAnswered metadataFrame request)) member
  rw [← same] at inMap
  obtain ⟨alike, inList, equal⟩ := List.mem_map.mp inMap
  exact ⟨alike, inList, congrArg Prod.fst equal, congrArg Prod.snd equal⟩

/-- If only newer requests are answered in the one list, so they are in the other. -/
theorem metadataKeeps_newer
    (newer : ∀ request ∈ requests, isAnswered metadataFrame request = true →
      frameNumber < request.frameNumber) :
    ∀ request ∈ others, isAnswered metadataFrame request = true →
      frameNumber < request.frameNumber := by
  intro request member answered
  obtain ⟨alike, inList, frame, sameAnswer⟩ := exists_alike same member
  rw [← frame]
  exact newer alike inList (sameAnswer.trans answered)

/-- A request behind the metadata stands before this one in both lists. -/
theorem metadataKeeps_between
    (between : ∃ request ∈ others, metadataFrame < request.frameNumber ∧
      request.frameNumber < frameNumber ∧
      (request.frameNumber = uint32Succ metadataFrame →
        ∀ pending ∈ cache, pending.frameNumber ≠ request.frameNumber)) :
    ∃ request ∈ requests, metadataFrame < request.frameNumber ∧
      request.frameNumber < frameNumber ∧
      (request.frameNumber = uint32Succ metadataFrame →
        ∀ pending ∈ cache, pending.frameNumber ≠ request.frameNumber) := by
  obtain ⟨request, member, bounds⟩ := between
  obtain ⟨alike, inList, frame, _⟩ := exists_alike same member
  exact ⟨alike, inList, frame.symm ▸ bounds⟩

end SameAnswers

/-- With enough requests to answer, the loop delivers every result of the next frame. -/
theorem pendingLoop_delivers {callback : MetadataCallback} {entries : MetadataEntries}
    {rounds : Nat} {final : PendingLoop}
    (ordered : Ordered tracker.mPendingRequestsList)
    (enough : tracker.mPendingRequestsList.length ≤ rounds)
    (ran : pendingLoop callback entries rounds (startLoop tracker) = some final)
    (answered : tracker.mPendingReprocessResultList.countP (fun pending =>
          pending.frameNumber == uint32Succ entries.frameNumber) ≤
        tracker.mPendingRequestsList.countP (isAnswered entries.frameNumber)) :
    ∀ pending ∈ final.tracker.mPendingReprocessResultList,
      pending.frameNumber ≠ uint32Succ entries.frameNumber := by
  have fewer : final.tracker.mPendingReprocessResultList.countP (fun pending =>
          pending.frameNumber == uint32Succ entries.frameNumber) ≤
        final.rest.countP (isAnswered entries.frameNumber) := by
    apply pendingLoop_ordered_rule ordered (fun current =>
        current.tracker.mPendingReprocessResultList.countP (fun pending =>
            pending.frameNumber == uint32Succ entries.frameNumber) ≤
          current.rest.countP (isAnswered entries.frameNumber))
      answered ?_ ?_ ran
    · intro current head later counted shape _ _ skip
      have notAnswered : isAnswered entries.frameNumber head = false := by
        simp [isAnswered, skip]
      rw [shape, List.countP_cons_of_neg (by simp [notAnswered])] at counted
      exact counted
    · intro current head later next counted stands shape _ due skip _ drained
      have isAnsweredHead : isAnswered entries.frameNumber head = true := by
        simp [isAnswered, due, skip]
      rw [shape, List.countP_cons_of_pos isAnsweredHead] at counted
      have restOrdered : Ordered (head :: later) := by
        have sublist := stands.rest
        rw [shape] at sublist
        exact List.Pairwise.sublist sublist ordered
      obtain ⟨map, drops, passed⟩ := passDue_tracker callback entries current head later
      have delivers : ∀ {pending : PendingReprocessResult}, (passDue callback entries head later
                current).tracker.mPendingReprocessResultList.find?
              (fun other => other.frameNumber == uint32Succ entries.frameNumber) = some pending →
            (current.tracker.mPendingReprocessResultList.eraseP fun other =>
                other.frameNumber == uint32Succ entries.frameNumber).countP (fun other =>
                    other.frameNumber == uint32Succ entries.frameNumber) ≤
              later.countP (isAnswered entries.frameNumber) := by
        intro pending found
        rw [passed] at found
        have once := countP_eraseP_self (List.mem_of_find?_eq_some found) (List.find?_some found)
        simp only at once
        omega
      cases drained with
      | nothing requests none =>
        have zero : (passDue callback entries head later
                current).tracker.mPendingReprocessResultList.countP
              (fun other => other.frameNumber == uint32Succ entries.frameNumber) = 0 := by
          rw [List.countP_eq_zero]
          intro other member
          simpa using none other member
        simp only [Tracker.setRequests]
        rw [zero]
        exact Nat.zero_le _
      | orphan requests found =>
        have less := delivers found
        simp only
        rw [passed]
        exact less
      | delivered requests found member parts =>
        have less := delivers found
        simp only
        rw [passed]
        refine Nat.le_trans less (Nat.le_of_eq ?_)
        -- the erased request is newer than the metadata
        rcases parts with ⟨_, _, rfl⟩ | ⟨_, _, rfl⟩
        · rfl
        · symm
          apply countP_eraseP_of_not
          intro other inLater same
          have frame : other.frameNumber = uint32Succ entries.frameNumber := by
            simpa using same
          have behind := (List.pairwise_cons.mp restOrdered).1 other inLater
          have newer : ¬ other.frameNumber ≤ entries.frameNumber := by
            unfold uint32Succ at frame
            split at frame
            · omega
            · omega
          simp [isAnswered, newer]
  have exit : ∀ request ∈ final.rest, entries.frameNumber < request.frameNumber := by
    refine pendingLoop_exit ?_ ?_ ran
    · simpa [startLoop] using ordered
    · exact enough
  have none : final.rest.countP (isAnswered entries.frameNumber) = 0 := by
    rw [List.countP_eq_zero]
    intro request member
    have newer := exit request member
    simp [isAnswered, Nat.not_le.mpr newer]
  rw [none, Nat.le_zero, List.countP_eq_zero] at fewer
  intro pending member
  simpa using fewer pending member

/-- Metadata that meets its condition keeps the reasons to wait. -/
theorem DelayedWait.metadata {callback : MetadataCallback} {tracker next : Tracker}
    {sent : List Output} {past : List TrackerEvent} (waits : DelayedWait tracker)
    (ordered : Ordered tracker.mPendingRequestsList)
    (condition : KeepsDelayed tracker past (.metadata callback))
    (handled : handleMetadataWithLock callback tracker = some (next, sent)) :
    DelayedWait next := by
  have nextOrdered := ordered.of_frames (handleMetadataWithLock_frames handled)
  have sameFrames : requestFrames next.mPendingRequestsList =
          requestFrames tracker.mPendingRequestsList →
        next.mPendingReprocessResultList = tracker.mPendingReprocessResultList →
        DelayedWait next := by
    intro frames cache pending member
    rw [waitsBehind_iff nextOrdered, frames, ← waitsBehind_iff ordered]
    exact waits pending (cache ▸ member)
  have urgentFrames := handleUrgentPart_frames callback
  have urgentCache : ∀ entries, (handleUrgentPart callback entries
            tracker).1.mPendingReprocessResultList =
          tracker.mPendingReprocessResultList := by
    intro entries
    unfold handleUrgentPart
    split <;> rfl
  rcases handleMetadataWithLock_cases handled with
    ⟨_, rfl, _⟩ |
    ⟨entries, given, ⟨_, rfl, _⟩ | ⟨valid, final, ran, rfl, _⟩⟩
  · exact sameFrames (deepenPipeline_frames tracker) rfl
  · apply sameFrames
    · rw [deepenPipeline_frames, urgentFrames]
    · exact urgentCache entries
  · have urgentOrdered : Ordered (handleUrgentPart callback entries
            tracker).1.mPendingRequestsList := by
      apply ordered.of_frames
      rw [urgentFrames]
    intro pending member
    have inFinal : pending ∈ final.tracker.mPendingReprocessResultList := member
    have inCache : pending ∈ tracker.mPendingReprocessResultList := by
      rw [← urgentCache entries]
      exact (pendingLoop_cache ran).subset inFinal
    have sameLength : (handleUrgentPart callback entries tracker).1.mPendingRequestsList.length ≤
          tracker.mPendingRequestsList.length := by
      have lengths := congrArg List.length (urgentFrames entries tracker)
      simp only [requestFrames, List.length_map] at lengths
      exact Nat.le_of_eq lengths
    have answered := handleUrgentPart_answered callback entries tracker entries.frameNumber
    rcases condition.2 pending inCache entries (by simp [given]) valid with
      ⟨isNext, enough⟩ | keeps
    · have sameCount : (handleUrgentPart callback entries tracker).1.mPendingRequestsList.countP
            (isAnswered entries.frameNumber) =
          tracker.mPendingRequestsList.countP (isAnswered entries.frameNumber) := by
        have counts := congrArg (List.countP Prod.snd) answered
        rw [List.countP_map, List.countP_map] at counts
        exact counts
      have gone := pendingLoop_delivers urgentOrdered sameLength ran
        (by rw [urgentCache, sameCount]; exact enough)
      exact absurd isNext (gone pending inFinal)
    · have waited := waits pending inCache
      rw [waitsBehind_iff ordered, ← urgentFrames entries, ← waitsBehind_iff urgentOrdered]
        at waited
      have urgentKeeps := keeps.imp (metadataKeeps_newer answered.symm)
        (metadataKeeps_between answered)
      have positive : ∀ pending ∈ tracker.mPendingReprocessResultList, 0 < pending.frameNumber := by
        intro other inList
        obtain ⟨_, _, _, _, _, older, _, below⟩ := waits other inList
        exact Nat.zero_lt_of_lt below
      refine (StillWaits.of_metadata waited positive urgentKeeps).waitsBehind nextOrdered ?_
      intro request inList notErased
      rw [deepenPipeline_frames]
      apply pendingLoop_survives urgentOrdered ran inList
      rw [urgentCache]
      exact notErased

/-! ## The other steps -/

/-- The requests that a black-level callback completes and releases. -/
def blackLevelReleases (frameNumber : Nat)
    (requests : List PendingRequestInfo) : List PendingRequestInfo :=
  match requests.dropWhile fun request =>
      request.frameNumber != frameNumber with
  | [] => []
  | request :: later =>
    if request.needDynamicBlklvl ∧ request.partialResultCnt + 1 = partialResultCount then
      request :: later.takeWhile isDeferred
    else
      []

/-- What a black level releases is as new as its frame, whose request it completes. -/
theorem blackLevelReleases_from {released : PendingRequestInfo}
    (ordered : Ordered requests)
    (member : released ∈ blackLevelReleases frameNumber requests) :
    frameNumber ≤ released.frameNumber ∧
      ∃ request ∈ requests, LastBlackLevel frameNumber request := by
  unfold blackLevelReleases at member
  split at member
  · exact absurd member List.not_mem_nil
  · next request later fromFrame =>
    have sublist : List.Sublist (request :: later) requests :=
      fromFrame ▸ List.dropWhile_sublist _
    have named : request.frameNumber = frameNumber := by
      have stopped := List.head?_dropWhile_not (fun request : PendingRequestInfo =>
        request.frameNumber != frameNumber) requests
      rw [fromFrame] at stopped
      simpa using stopped
    split at member
    · next completes =>
      refine ⟨?_, request, sublist.subset List.mem_cons_self, named, completes⟩
      rcases List.mem_cons.mp member with rfl | deferred
      · exact Nat.le_of_eq named.symm
      · have inLater := (List.takeWhile_sublist _).subset deferred
        have behind := (List.pairwise_cons.mp (List.Pairwise.sublist sublist ordered)).1 _ inLater
        omega
    · exact absurd member List.not_mem_nil

/-- The black level that completes a request releases the deferred ones. -/
theorem blackLevelReleases_eq
    (others : ∀ other ∈ before, other.frameNumber ≠ frameNumber)
    (named : request.frameNumber = frameNumber)
    (needs : request.needDynamicBlklvl = true)
    (last : request.partialResultCnt + 1 = partialResultCount) :
    blackLevelReleases frameNumber (before ++ request :: later) =
      request :: later.takeWhile isDeferred := by
  have fromFrame : ((before ++ request :: later).dropWhile fun other =>
        other.frameNumber != frameNumber) = request :: later := by
    rw [List.dropWhile_append_of_pos]
    · simp [named]
    · intro other inBefore
      simpa using others other inBefore
  simp [blackLevelReleases, fromFrame, needs, last]

/-- The requests that are not released are left. -/
theorem mem_of_not_released {other : PendingRequestInfo}
    (member : other ∈ before ++ request :: later)
    (notReleased : other ∉ request :: later.takeWhile isDeferred) :
    other ∈ before ++ later.dropWhile isDeferred := by
  rw [List.mem_cons, not_or] at notReleased
  rcases List.mem_append.mp member with inBefore | fromRequest
  · exact List.mem_append_left _ inBefore
  · rcases List.mem_cons.mp fromRequest with rfl | inLater
    · exact absurd rfl notReleased.1
    · rw [← List.takeWhile_append_dropWhile (p := isDeferred)
        (l := later), List.mem_append] at inLater
      exact List.mem_append_right _ (inLater.resolve_left notReleased.2)

/-- What a black level does not release is still pending. -/
theorem blackLevel_survives (blackLevel : Nat)
    (member : request ∈ tracker.mPendingRequestsList)
    (notReleased : request ∉ blackLevelReleases frameNumber tracker.mPendingRequestsList) :
    request.frameNumber ∈ requestFrames (sendDynamicBlackLevelWithLock blackLevel frameNumber
          tracker).1.mPendingRequestsList := by
  rcases sendDynamicBlackLevelWithLock_cases blackLevel frameNumber tracker with ⟨same, _⟩ |
      ⟨before, raw, later, shape, others, named, needs, outcome⟩
  · rw [same]
    exact List.mem_map_of_mem member
  · rcases outcome with ⟨last, same⟩ | ⟨_, same⟩
    · rw [shape] at member notReleased
      rw [blackLevelReleases_eq others named needs last] at notReleased
      rw [same]
      exact List.mem_map_of_mem (mem_of_not_released member notReleased)
    · rw [same]
      have frames : requestFrames (before ++
                { raw with partialResultCnt := raw.partialResultCnt + 1 } ::
                later) =
            requestFrames tracker.mPendingRequestsList := by
        rw [shape]
        simp
      simp only [Tracker.setRequests_mPendingRequestsList, frames]
      exact List.mem_map_of_mem member

/-- Erasing a frame leaves the requests of the others. -/
theorem eraseP_survives (member : request ∈ requests)
    (other : request.frameNumber ≠ frameNumber) :
    request.frameNumber ∈ requestFrames (requests.eraseP fun candidate =>
        candidate.frameNumber == frameNumber) :=
  List.mem_map_of_mem ((List.mem_eraseP_of_neg (by simpa using other)).mpr member)

/-- A step that meets its condition keeps the reasons to wait. -/
theorem DelayedWait.step {next : Tracker} {past : List TrackerEvent}
    {event : TrackerEvent} {emitted : List Output} (waits : DelayedWait tracker)
    (tracked : Tracked tracker past) (condition : KeepsDelayed tracker past event)
    (stepped : Stepped tracker event next emitted) :
    DelayedWait next := by
  have ordered := tracked.inOrder.ordered
  have nextOrdered := (tracked.inOrder.step condition.1 stepped).ordered
  cases stepped with
  | @request env capture _ rc sent outcome =>
    have appends : ∀ prepared : Tracker, prepared.mPendingReprocessResultList =
            tracker.mPendingReprocessResultList →
          prepared.mPendingRequestsList = tracker.mPendingRequestsList →
          Ordered (acceptRequest env capture prepared).1.mPendingRequestsList →
          DelayedWait (acceptRequest env capture prepared).1 := by
      intro prepared cache requests acceptedOrdered pending member
      rw [(acceptRequest_accepted env capture prepared).reprocessResults, cache] at member
      obtain ⟨inFrames, older, olderMember, below⟩ :=
        (waitsBehind_iff ordered).mp (waits pending member)
      rw [waitsBehind_iff acceptedOrdered, acceptRequest_frames, requests]
      exact ⟨List.mem_append_left _ inFrames, older, List.mem_append_left _ olderMember, below⟩
    cases outcome with
    | rejected stage =>
      have same := Checked.of_fail stage
      unfold DelayedWait
      rw [same.requests, same.reprocessResults]
      exact waits
    | notRestarted stage restarts enough failed =>
      intro pending member
      exact absurd member List.not_mem_nil
    | restarted stage restarts enough started =>
      intro pending member
      rw [(acceptRequest_accepted env capture _).reprocessResults] at member
      exact absurd member List.not_mem_nil
    | registered stage goesOn =>
      have same := Checked.of_proceed stage
      exact appends _ same.reprocessResults same.requests nextOrdered
  | metadata handled => exact waits.metadata ordered condition handled
  | blackLevel blackLevel frameNumber =>
    intro pending member
    rw [sendDynamicBlackLevelWithLock_cache] at member
    have stays : StillWaits tracker.mPendingRequestsList (fun request =>
          request ∈ blackLevelReleases frameNumber tracker.mPendingRequestsList)
        pending.frameNumber := by
      refine .of_newer (waits pending member) fun request _ released => ?_
      obtain ⟨atLeast, completed, inList, last⟩ := blackLevelReleases_from ordered released
      by_contra notNewer
      exact condition.2 pending member (by omega) completed inList last
    exact stays.waitsBehind nextOrdered fun request inList notReleased =>
        blackLevel_survives blackLevel inList notReleased
  | ignoredInput => exact waits
  | @inputBuffer now buffer frameNumber request map sent found reprocess =>
    have notLive := request.isLive_of_inputBuffer reprocess
    intro pending member
    have stays : StillWaits tracker.mPendingRequestsList (fun other =>
          other.frameNumber = frameNumber ∧ other.isLive = false)
        pending.frameNumber := by
      refine .of_newer (waits pending member) fun other inList erases => ?_
      by_contra notNewer
      have live := condition.2 pending member (by omega) other inList erases.1
      exact Bool.false_ne_true (erases.2.symm.trans live)
    refine stays.waitsBehind nextOrdered ?_
    intro other inList remains
    apply eraseP_survives inList
    intro same
    have equal := ordered.eq_of_found found inList same
    exact remains ⟨same, equal ▸ notLive⟩
  | @buffer now buffer frameNumber result outcome =>
    cases outcome with
    | sent =>
      obtain ⟨map, drops, same⟩ := sendBuffer_tracker buffer frameNumber tracker
      rw [same]
      exact waits
    | @cached request found extra reprocess older olderMember below =>
      intro pending member
      rcases List.mem_append.mp member with old | new
      · exact waits pending old
      · rw [List.mem_singleton] at new
        subst pending
        rw [waitsBehind_iff ordered]
        refine ⟨?_, older.frameNumber, List.mem_map_of_mem olderMember, below⟩
        rw [← frame_of_found found]
        exact List.mem_map_of_mem (List.mem_of_find?_eq_some found)
    | @closed request found extra reprocess oldest =>
      have notLive := request.isLive_of_inputBuffer reprocess
      intro pending member
      have stays : StillWaits tracker.mPendingRequestsList
          (ClosedByBuffer frameNumber tracker.mPendingRequestsList) pending.frameNumber := by
        refine .of_newer (waits pending member) fun other inList erases => ?_
        by_contra notNewer
        have named := erases.1
        exact condition.2 pending member (by omega) other inList erases
      refine stays.waitsBehind nextOrdered ?_
      intro other inList remains
      apply eraseP_survives inList
      intro same
      have equal := ordered.eq_of_found found inList same
      exact remains ⟨same, equal ▸ notLive, equal ▸ extra, oldest⟩
    | kept =>
      intro pending member
      rw [waitsBehind_iff nextOrdered]
      simp only [Tracker.setRequests_mPendingRequestsList, updateRequest_frames]
      rw [← waitsBehind_iff ordered]
      exact waits pending member
  | flushBegin =>
    unfold Hal3.flushBegin
    split <;> exact waits
  | flushEnd =>
    intro pending member
    exact absurd member List.not_mem_nil
  | configureStreams =>
    intro pending member
    exact absurd member List.not_mem_nil

/-! ## Runs -/

/--
In every state reached by steps that keep the reasons to wait, a delayed result
names a pending request that stands behind an older one.
-/
theorem trackerRun_delayedWait {start final : Tracker} {events : List TrackerEvent}
    {log : List Output} (fresh : start.Fresh)
    (conditions : LabelledRun.Guarded trackerStep KeepsDelayed start [] events)
    (ran : trackerRun start events = some (final, log)) :
    DelayedWait final := by
  have both : Tracked final ([] ++ events) ∧ DelayedWait final := LabelledRun.invariant_of_guarded
      (fun current past _ => Tracked current past ∧ DelayedWait current)
      [] conditions ran
      ⟨.of_fresh fresh, by
        intro pending member
        rw [fresh.reprocessResults] at member
        exact absurd member List.not_mem_nil⟩
      (fun kept condition step =>
        have stepped := trackerStep_stepped step
        ⟨kept.1.step condition.1 stepped, kept.2.step kept.1 condition stepped⟩)
  exact both.2

/-- A jpeg waits behind a live request and another one. -/
theorem trackerRun_delayedWait_jpeg : ∃ final log, trackerRun (opened true false)
          [liveEvent 1, liveEvent 2, reprocessEvent 3, urgentEvent 1,
            .buffer 0 (jpegBuffer 3) 3, normalEvent 1] =
          some (final, log) ∧
        final.mPendingReprocessResultList ≠ [] ∧
        DelayedWait final :=
  ⟨_, _, rfl, by decide, @trackerRun_delayedWait (opened true false) _
    [liveEvent 1, liveEvent 2, reprocessEvent 3, urgentEvent 1,
      .buffer 0 (jpegBuffer 3) 3, normalEvent 1] _
    (opened_fresh true false) (by decide) rfl⟩

/-- A black level completes the only older request of a waiting jpeg. -/
theorem trackerRun_delayed_after_blackLevel : ∃ final log, trackerRun (opened true false)
          [rawEvent 1, reprocessEvent 2, urgentEvent 1, normalEvent 1,
            .buffer 0 (jpegBuffer 2) 2, .blackLevel 0 1] =
          some (final, log) ∧
        ¬ DelayedWait final := by
  refine ⟨_, _, rfl, ?_⟩
  intro waits
  have reason := (waitsBehind_iff (by decide)).mp (waits _ List.mem_cons_self)
  revert reason
  decide

end AnglerHal.Hal3
