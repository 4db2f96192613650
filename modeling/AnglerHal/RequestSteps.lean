import AnglerHal.RequestAcceptance
import Mathlib.Data.List.Nodup
import Mathlib.Data.List.TakeDrop
import Mathlib.Data.List.TakeWhile

namespace AnglerHal.Hal3

/-!
# What one callback can do to the pending requests

The request list is kept in strictly ascending frame order, so a frame number
names at most one request.  This module says once what the urgent scan, the
pending loop and the black-level traversal do to such a list; the invariants of
the tracker are derived from these descriptions.
-/

/-! ## Lists of requests in frame order -/

/-- Requests in strictly ascending frame order. -/
def Ordered (requests : List PendingRequestInfo) : Prop :=
  requests.Pairwise fun earlier later =>
    earlier.frameNumber < later.frameNumber

instance (requests : List PendingRequestInfo) : Decidable (Ordered requests) :=
  inferInstanceAs (Decidable (List.Pairwise _ _))

@[simp]
theorem requestFrames_nil : requestFrames [] = [] :=
  rfl

@[simp]
theorem requestFrames_cons (request : PendingRequestInfo) (requests : List PendingRequestInfo) :
    requestFrames (request :: requests) = request.frameNumber :: requestFrames requests :=
  rfl

@[simp]
theorem requestFrames_append (earlier later : List PendingRequestInfo) :
    requestFrames (earlier ++ later) = requestFrames earlier ++ requestFrames later :=
  List.map_append

/-- Fewer requests have fewer frame numbers. -/
theorem requestFrames_sublist {fewer requests : List PendingRequestInfo}
    (sublist : fewer.Sublist requests) :
    (requestFrames fewer).Sublist (requestFrames requests) :=
  sublist.map _

variable {requests done rest nextDone nextRest : List PendingRequestInfo}
  {request : PendingRequestInfo} {frameNumber delayed rounds : Nat} {Item : Type}
  {loop next final : PendingLoop} {callback : MetadataCallback}

/-- Order is a matter of the frame numbers only. -/
theorem ordered_iff_frames :
    Ordered requests ↔ (requestFrames requests).Pairwise (· < ·) :=
  List.pairwise_map.symm

/-- A list with a sublist of the frame numbers is ordered, too. -/
theorem Ordered.of_frames {before after : List PendingRequestInfo} (ordered : Ordered before)
    (frames : (requestFrames after).Sublist (requestFrames before)) :
    Ordered after :=
  ordered_iff_frames.mpr ((ordered_iff_frames.mp ordered).sublist frames)

/-- In frame order a frame number names one request. -/
theorem Ordered.eq_of_frame (ordered : Ordered requests)
    {first second : PendingRequestInfo} (firstMember : first ∈ requests)
    (secondMember : second ∈ requests) (same : first.frameNumber = second.frameNumber) :
    first = second := by
  have distinct : (requestFrames requests).Nodup := (ordered_iff_frames.mp ordered).imp ne_of_lt
  exact List.inj_on_of_nodup_map distinct firstMember secondMember same

/-- The request that is found for a frame number has it. -/
theorem frame_of_found
    (found : (requests.find? fun other => other.frameNumber == frameNumber) = some request) :
    request.frameNumber = frameNumber := by
  simpa using List.find?_some found

/-- In frame order only one request is found for a frame number. -/
theorem Ordered.eq_of_found (ordered : Ordered requests) {other : PendingRequestInfo}
    (found : (requests.find? fun other => other.frameNumber == frameNumber) = some request)
    (member : other ∈ requests) (same : other.frameNumber = frameNumber) :
    other = request :=
  ordered.eq_of_frame member (List.mem_of_find?_eq_some found)
    (same.trans (frame_of_found found).symm)

/-- A request with an input buffer is not live. -/
theorem PendingRequestInfo.isLive_of_inputBuffer
    (reprocess : request.inputBuffer.isSome = true) :
    request.isLive = false := by
  simpa [PendingRequestInfo.isLive, Option.isSome_iff_ne_none] using reprocess

/-- What stands before and after a request of an ordered list. -/
theorem Ordered.around {earlier later : List PendingRequestInfo}
    (ordered : Ordered (earlier ++ request :: later)) :
    (∀ other ∈ earlier, other.frameNumber < request.frameNumber) ∧
      ∀ other ∈ later, request.frameNumber < other.frameNumber := by
  unfold Ordered at ordered
  rw [List.pairwise_append, List.pairwise_cons] at ordered
  exact ⟨fun other member => ordered.2.2 other member request (by simp), ordered.2.1.1⟩

/-- Erasing one frame of an ordered list leaves all others. -/
theorem Ordered.mem_eraseP (ordered : Ordered requests) :
    request ∈ requests.eraseP (fun other =>
        other.frameNumber == frameNumber) ↔
      request ∈ requests ∧ request.frameNumber ≠ frameNumber := by
  constructor
  · intro member
    have inRequests := List.mem_of_mem_eraseP member
    refine ⟨inRequests, ?_⟩
    intro same
    obtain ⟨victim, earlier, later, _, isVictim, shape, erased⟩ :=
      List.exists_of_eraseP (p := fun other : PendingRequestInfo =>
          other.frameNumber == frameNumber)
        inRequests (by simpa using same)
    have victimFrame : victim.frameNumber = frameNumber := by
      simpa using isVictim
    rw [shape] at ordered
    obtain ⟨before, after⟩ := ordered.around
    rw [erased] at member
    rcases List.mem_append.mp member with inEarlier | inLater
    · have smaller := before request inEarlier
      omega
    · have larger := after request inLater
      omega
  · rintro ⟨inRequests, different⟩
    exact (List.mem_eraseP_of_neg (by simpa using different)).mpr inRequests

/-- Erasing an item that is not counted keeps the count. -/
theorem countP_eraseP_of_not {items : List Item} {erased counted : Item → Bool}
    (apart : ∀ item ∈ items, erased item = true → counted item = false) :
    (items.eraseP erased).countP counted = items.countP counted := by
  induction items with
  | nil => rfl
  | cons item rest inductionHypothesis =>
    by_cases here : erased item = true
    · have notCounted := apart item (by simp) here
      simp [here, notCounted]
    · have others := inductionHypothesis fun other member =>
          apart other (by simp [member])
      simp [here, List.countP_cons, others]

/-- Erasing a counted item lowers the count by one. -/
theorem countP_eraseP_self {items : List Item} {counted : Item → Bool} {item : Item}
    (member : item ∈ items) (isCounted : counted item = true) :
    (items.eraseP counted).countP counted + 1 = items.countP counted := by
  obtain ⟨victim, earlier, later, _, victimCounted, shape, erased⟩ :=
    List.exists_of_eraseP (p := counted) member isCounted
  rw [erased, shape]
  simp [victimCounted]
  omega

/-! ## Delayed reprocess results inside the pending loop -/

/-- One request is erased before or behind the iterator. -/
def ErasedAround (frameNumber : Nat)
    (done rest nextDone nextRest : List PendingRequestInfo) : Prop :=
  ((∃ request ∈ done, request.frameNumber = frameNumber) ∧ nextDone = done.eraseP (fun other =>
        other.frameNumber == frameNumber) ∧
      nextRest = rest) ∨
    ((∀ request ∈ done, request.frameNumber ≠ frameNumber) ∧ nextDone = done ∧
      nextRest = rest.eraseP fun other =>
        other.frameNumber == frameNumber)

/-- Put together, the request is erased from the list. -/
theorem ErasedAround.append
    (parts : ErasedAround frameNumber done rest nextDone nextRest) :
    nextDone ++ nextRest = (done ++ rest).eraseP fun other =>
        other.frameNumber == frameNumber := by
  rw [List.eraseP_append]
  rcases parts with ⟨⟨request, member, same⟩, rfl, rfl⟩ | ⟨others, rfl, rfl⟩
  · rw [if_pos (List.any_eq_true.mpr ⟨request, member, by simpa using same⟩)]
  · rw [if_neg]
    intro found
    obtain ⟨request, member, same⟩ := List.any_eq_true.mp found
    exact others request member (by simpa using same)

/-- Neither part gains a request. -/
theorem ErasedAround.sublists
    (parts : ErasedAround frameNumber done rest nextDone nextRest) :
    nextDone.Sublist done ∧ nextRest.Sublist rest := by
  rcases parts with ⟨_, rfl, rfl⟩ | ⟨_, rfl, rfl⟩
  · exact ⟨List.eraseP_sublist, .refl _⟩
  · exact ⟨.refl _, List.eraseP_sublist⟩

/-- What `handlePendingReprocResults` can do to the pending loop. -/
inductive Drained (delayed : Nat) (loop : PendingLoop) : PendingLoop → Prop where
  /-- No delayed result waits for this frame. -/
  | nothing (requests : List PendingRequestInfo) (none :
        ∀ pending ∈ loop.tracker.mPendingReprocessResultList, pending.frameNumber ≠ delayed) :
      Drained delayed loop { loop with tracker := loop.tracker.setRequests requests }
  /-- A delayed result has lost its request. -/
  | orphan (requests : List PendingRequestInfo) {pending : PendingReprocessResult} (found :
        loop.tracker.mPendingReprocessResultList.find?
          (fun other => other.frameNumber == delayed) = some pending)
      (absent : ∀ request ∈ loop.done ++ loop.rest, request.frameNumber ≠ delayed) :
      Drained delayed loop { loop with
            tracker :=
              { loop.tracker.setRequests requests with
                  mPendingReprocessResultList :=
                    loop.tracker.mPendingReprocessResultList.eraseP
                      fun other => other.frameNumber == delayed }
            outputs := loop.outputs ++ [.notify pending.notifyMsg] }
  /-- A delayed result is delivered and its request erased. -/
  | delivered (requests : List PendingRequestInfo) {pending : PendingReprocessResult}
      {request : PendingRequestInfo}
      {done rest : List PendingRequestInfo}
      {marks : List Output}
      (found : loop.tracker.mPendingReprocessResultList.find?
          (fun other => other.frameNumber == delayed) = some pending)
      (member : (loop.done ++ loop.rest).find?
          (fun other => other.frameNumber == delayed) = some request)
      (parts : ErasedAround delayed loop.done loop.rest done rest)
      (mark : marks = [] ∨ marks = [.staleIterator delayed]) :
      Drained delayed loop { loop with
            tracker :=
              { loop.tracker.setRequests requests with
                  mPendingReprocessResultList :=
                    loop.tracker.mPendingReprocessResultList.eraseP
                      fun other => other.frameNumber == delayed }
            done := done
            rest := rest
            outputs :=
              loop.outputs ++ [.notify pending.notifyMsg, .processCaptureResult
                  (reprocessResult request pending.buffer)] ++ marks }

/-- Draining a delayed result keeps the two parts of the list in order. -/
theorem Drained.sublists (drained : Drained delayed loop next) :
    next.done.Sublist loop.done ∧ next.rest.Sublist loop.rest := by
  cases drained with
  | nothing => exact ⟨.refl _, .refl _⟩
  | orphan => exact ⟨.refl _, .refl _⟩
  | delivered requests found member parts mark => exact parts.sublists

/-- Draining does not change the flag for raw requests. -/
theorem Drained.unfinishedRawRequest (drained : Drained delayed loop next) :
    next.unfinishedRawRequest = loop.unfinishedRawRequest := by
  cases drained with
  | nothing => rfl
  | orphan => rfl
  | delivered => rfl

/-- Only a request of the delayed frame is erased. -/
theorem Drained.keeps {delayed : Nat} {loop next : PendingLoop}
    (drained : Drained delayed loop next) {request : PendingRequestInfo}
    (other : request.frameNumber ≠ delayed) :
    (request ∈ loop.done → request ∈ next.done) ∧ (request ∈ loop.rest → request ∈ next.rest) := by
  have stays : ∀ requests : List PendingRequestInfo, request ∈ requests →
        request ∈ requests.eraseP fun candidate =>
          candidate.frameNumber == delayed :=
    fun requests member =>
      (List.mem_eraseP_of_neg (by simpa using other)).mpr member
  cases drained with
  | nothing => exact ⟨id, id⟩
  | orphan => exact ⟨id, id⟩
  | delivered requests found member parts mark =>
    rcases parts with ⟨_, rfl, rfl⟩ | ⟨_, rfl, rfl⟩
    · exact ⟨stays _, id⟩
    · exact ⟨id, stays _⟩

/-- The rounds that go on, or end with a stale iterator. -/
theorem drainDelayed_cases (frameNumber : Nat) (loop : PendingLoop) :
    (∃ next, drainDelayed frameNumber loop = .next next ∧
      Drained (uint32Succ frameNumber) loop next) ∨
    (∃ next request, drainDelayed frameNumber loop = .stale next ∧
      Drained (uint32Succ frameNumber) loop next ∧
      loop.rest = request :: next.rest ∧
      request.frameNumber = uint32Succ frameNumber ∧
      frameNumber < uint32Succ frameNumber) ∨
    (drainDelayed frameNumber loop = .undefined ∧ ∃ request later, loop.rest = request :: later ∧
        request.frameNumber = uint32Succ frameNumber ∧
        ¬ frameNumber < uint32Succ frameNumber) := by
  unfold drainDelayed
  generalize uint32Succ frameNumber = delayed
  cases found : loop.tracker.mPendingReprocessResultList.find?
        (fun pending => pending.frameNumber == delayed) with
  | none =>
    left
    have none : ∀ pending ∈ loop.tracker.mPendingReprocessResultList,
          pending.frameNumber ≠ delayed := by
      simpa using found
    have noDelayed : (loop.tracker.mPendingReprocessResultList.any
          fun pending => pending.frameNumber == delayed) = false := by
      simpa using none
    refine ⟨_, ?_, .nothing (loop.done ++ loop.rest) none⟩
    simp [noDelayed, handlePendingReprocResults, Tracker.setRequests, found]
  | some pending =>
    have named : pending.frameNumber = delayed := by
      simpa using List.find?_some found
    have someDelayed : (loop.tracker.mPendingReprocessResultList.any
          fun pending => pending.frameNumber == delayed) = true := by
      rw [List.any_eq_true]
      exact ⟨pending, List.mem_of_find?_eq_some found, by simpa using named⟩
    cases member : (loop.done ++ loop.rest).find?
          (fun request => request.frameNumber == delayed) with
    | none =>
      left
      have absent : ∀ request ∈ loop.done ++ loop.rest, request.frameNumber ≠ delayed := by
        intro request inList
        simpa using List.find?_eq_none.mp member request inList
      have notDone : (loop.done.any fun request => request.frameNumber == delayed) =
              false := by
        simp only [List.any_eq_false, beq_iff_eq]
        exact fun request inDone => absent request (by simp [inDone])
      refine ⟨_, ?_, .orphan (loop.done ++ loop.rest) found absent⟩
      cases shape : loop.rest with
      | nil =>
        simp [someDelayed, notDone, handlePendingReprocResults,
          Tracker.setRequests, found, member, ← shape]
      | cons request later =>
        have headOther : request.frameNumber ≠ delayed := absent request (by simp [shape])
        have laterOther : later.eraseP (fun other => other.frameNumber == delayed) =
              later := by
          apply List.eraseP_of_forall_not
          intro other inLater
          have apart := absent other (by simp [shape, inLater])
          simpa using apart
        simp [someDelayed, notDone, handlePendingReprocResults,
          Tracker.setRequests, found, member, ← shape, headOther,
          laterOther]
    | some request =>
      have handled : handlePendingReprocResults delayed
              (loop.tracker.setRequests (loop.done ++ loop.rest)) =
            ({ loop.tracker.setRequests ((loop.done ++ loop.rest).eraseP fun other =>
                    other.frameNumber == delayed) with
                mPendingReprocessResultList :=
                  loop.tracker.mPendingReprocessResultList.eraseP
                    fun other => other.frameNumber == delayed },
              [.notify pending.notifyMsg, .processCaptureResult
                  (reprocessResult request pending.buffer)]) := by
        simp [handlePendingReprocResults, Tracker.setRequests, found, member]
      have requestFrame : request.frameNumber = delayed := by
        simpa using List.find?_some member
      simp only [handled, someDelayed, Bool.not_true, Bool.false_eq_true, if_false]
      by_cases inDone : (loop.done.any fun request => request.frameNumber == delayed) = true
      · left
        simp only [inDone, if_true]
        refine ⟨_, rfl, ?_⟩
        obtain ⟨first, firstMember, firstFrame⟩ := List.any_eq_true.mp inDone
        have drained := Drained.delivered ((loop.done ++ loop.rest).eraseP fun other =>
              other.frameNumber == delayed)
            found member
            (.inl ⟨⟨first, firstMember, by simpa using firstFrame⟩, rfl, rfl⟩)
            (.inl rfl)
        simpa using drained
      · simp only [inDone, Bool.false_eq_true, if_false]
        have others : ∀ other ∈ loop.done, other.frameNumber ≠ delayed := by
          intro other otherMember same
          exact inDone (List.any_eq_true.mpr ⟨other, otherMember, by simpa using same⟩)
        have delivered : ∀ marks, (marks = [] ∨ marks = [Output.staleIterator delayed]) →
            Drained delayed loop _ :=
          fun marks mark =>
            Drained.delivered ((loop.done ++ loop.rest).eraseP fun other =>
                other.frameNumber == delayed)
              found member (.inr ⟨others, rfl, rfl⟩) mark
        have inRest : request ∈ loop.rest := by
          have inList := List.mem_of_find?_eq_some member
          rcases List.mem_append.mp inList with done | rest
          · exact absurd requestFrame (others request done)
          · exact rest
        cases shape : loop.rest with
        | nil => simp [shape] at inRest
        | cons head later =>
          by_cases atHead : head.frameNumber = delayed
          · right
            by_cases above : frameNumber < delayed
            · left
              refine ⟨_, head, ?_, delivered _ (.inr rfl), ?_, atHead, above⟩
              · simp [atHead, above, shape]
              · simp [shape, atHead]
            · right
              exact ⟨by simp [atHead, above], head, later, rfl, atHead, above⟩
          · left
            refine ⟨_, ?_, delivered _ (.inl rfl)⟩
            simp [atHead, shape]

/-! ## The pending loop -/

section PendingLoop

variable {entries : MetadataEntries}

/--
The rule for the pending loop: what holds at its start and is kept by skipping
a request, by answering one and by draining a delayed result holds at its end.
-/
theorem pendingLoop_rule (invariant : PendingLoop → Prop) (skips : ∀ {loop request later},
        invariant loop →
        loop.rest = request :: later →
        request.frameNumber ≤ entries.frameNumber →
        dueCase entries.frameNumber request = .skip →
        invariant (passSkipped entries request later loop))
    (answers : ∀ {loop request later next}, invariant loop → loop.rest = request :: later →
        request.frameNumber ≤ entries.frameNumber →
        dueCase entries.frameNumber request ≠ .skip →
        Drained (uint32Succ entries.frameNumber)
          (passDue callback entries request later loop) next →
        invariant next)
    (start : invariant loop)
    (ran : pendingLoop callback entries rounds loop = some final) :
    invariant final := by
  induction rounds generalizing loop with
  | zero =>
    simp only [pendingLoop, Option.some.injEq] at ran
    exact ran ▸ start
  | succ rounds inductionHypothesis =>
    unfold pendingLoop at ran
    cases shape : loop.rest with
    | nil =>
      simp only [shape, Option.some.injEq] at ran
      exact ran ▸ start
    | cons request later =>
      simp only [shape] at ran
      by_cases due : request.frameNumber ≤ entries.frameNumber
      · simp only [due, if_true] at ran
        unfold pendingRound at ran
        by_cases skip : dueCase entries.frameNumber request = .skip
        · simp only [skip, if_true] at ran
          exact inductionHypothesis (skips start shape due skip) ran
        · simp only [skip, if_false] at ran
          rcases drainDelayed_cases entries.frameNumber
              (passDue callback entries request later loop) with
            ⟨next, round, drained⟩ |
            ⟨next, _, round, drained, _⟩ | ⟨round, _⟩
          · simp only [round] at ran
            exact inductionHypothesis (answers start shape due skip drained) ran
          · simp only [round, Option.some.injEq] at ran
            exact ran ▸ answers start shape due skip drained
          · simp [round] at ran
      · simp only [due, if_false, Option.some.injEq] at ran
        exact ran ▸ start

end PendingLoop

/-! ## One round of the pending loop -/

/-- Consuming a drop changes the list of drops only. -/
theorem applyFrameDrop_tracker (tracker : Tracker) (frameNumber : Nat)
    (buffer : Camera3StreamBuffer) :
    ∃ drops, (tracker.applyFrameDrop frameNumber buffer).1 =
        { tracker with mPendingFrameDropList := drops } := by
  unfold Tracker.applyFrameDrop
  simp only
  split
  · exact ⟨_, rfl⟩
  · exact ⟨tracker.mPendingFrameDropList, rfl⟩

theorem takeBuffer_tracker (tracker : Tracker) (buffer : Nat) : tracker.takeBuffer buffer =
      { tracker with
          mPendingBuffersMap :=
            (tracker.takeBuffer buffer).mPendingBuffersMap } := by
  unfold Tracker.takeBuffer
  simp only
  split
  · rfl
  · rfl

theorem returnBuffers_tracker (frameNumber : Nat) (tracker : Tracker)
    (buffers : List RequestedBufferInfo) :
    ∃ map drops, (returnBuffers frameNumber tracker buffers).1 = { tracker with
            mPendingBuffersMap := map
            mPendingFrameDropList := drops } := by
  induction buffers generalizing tracker with
  | nil => exact ⟨tracker.mPendingBuffersMap, tracker.mPendingFrameDropList, rfl⟩
  | cons requested rest inductionHypothesis =>
    unfold returnBuffers
    cases filled : requested.buffer with
    | none => exact inductionHypothesis tracker
    | some buffer =>
      obtain ⟨drops, marked⟩ := applyFrameDrop_tracker tracker frameNumber buffer
      have taken := takeBuffer_tracker (tracker.applyFrameDrop frameNumber buffer).1
          (tracker.applyFrameDrop frameNumber buffer).2.buffer
      obtain ⟨finalMap, finalDrops, returned⟩ :=
        inductionHypothesis ((tracker.applyFrameDrop frameNumber buffer).1.takeBuffer
            (tracker.applyFrameDrop frameNumber buffer).2.buffer)
      refine ⟨finalMap, finalDrops, ?_⟩
      simp only [returned]
      rw [taken, marked]

/-- The count of a due request after the pending loop has answered it. -/
def dueCount (frameNumber : Nat) (unfinishedRaw : Bool) (request : PendingRequestInfo) : Nat :=
  if dueCase frameNumber request = .missed then
    partialResultCount
  else
    countCurrent unfinishedRaw request

/-- The entry that an answered request leaves in the list. -/
def answeredRequest (callback : MetadataCallback) (entries : MetadataEntries) (loop : PendingLoop)
    (request : PendingRequestInfo) : PendingRequestInfo :=
  { (handleDueRequest callback entries loop.unfinishedRawRequest request).1 with
      buffers :=
        (returnBuffers entries.frameNumber (reportFrameDrops entries request loop.tracker).1
          request.buffers).2.1
      pendingExtraResult := true }

/-- Only the count and the time stamp change before a result is sent. -/
theorem handleDueRequest_request (callback : MetadataCallback)
    (entries : MetadataEntries) (unfinishedRaw : Bool) (request : PendingRequestInfo) :
    ∃ timestamp, (handleDueRequest callback entries unfinishedRaw request).1 = { request with
            partialResultCnt :=
              dueCount entries.frameNumber unfinishedRaw request
            timestamp := timestamp } := by
  unfold handleDueRequest dueCount
  split
  · exact ⟨request.timestamp, rfl⟩
  · exact ⟨entries.captureTime, rfl⟩

section AnsweredRequest

variable (callback : MetadataCallback) (entries : MetadataEntries) (loop : PendingLoop)
  (request : PendingRequestInfo)

/-- What an answered request keeps. -/
theorem answeredRequest_shape : ∃ timestamp buffers, answeredRequest callback entries loop request =
        { request with
            partialResultCnt :=
              dueCount entries.frameNumber loop.unfinishedRawRequest request
            timestamp := timestamp
            buffers := buffers
            pendingExtraResult := true } := by
  obtain ⟨timestamp, handled⟩ :=
    handleDueRequest_request callback entries loop.unfinishedRawRequest request
  refine ⟨timestamp, (answeredRequest callback entries loop request).buffers, ?_⟩
  unfold answeredRequest
  rw [handled]

@[simp]
theorem answeredRequest_frameNumber : (answeredRequest callback entries loop request).frameNumber =
      request.frameNumber := by
  obtain ⟨_, _, shape⟩ := answeredRequest_shape callback entries loop request
  rw [shape]

@[simp]
theorem answeredRequest_inputBuffer : (answeredRequest callback entries loop request).inputBuffer =
      request.inputBuffer := by
  obtain ⟨_, _, shape⟩ := answeredRequest_shape callback entries loop request
  rw [shape]

/-- The request leaves the list exactly with its last partial result. -/
theorem passDue_done (later : List PendingRequestInfo) :
    (passDue callback entries request later loop).done = loop.done ++
        if dueCount entries.frameNumber loop.unfinishedRawRequest request =
            partialResultCount then []
        else [answeredRequest callback entries loop request] := by
  obtain ⟨timestamp, handled⟩ :=
    handleDueRequest_request callback entries loop.unfinishedRawRequest request
  unfold passDue finishDue
  simp only [handled]
  split
  · rfl
  · unfold answeredRequest
    rw [handled]
    rfl

@[simp]
theorem passDue_rest (later : List PendingRequestInfo) :
    (passDue callback entries request later loop).rest = later :=
  rfl

@[simp]
theorem passDue_unfinishedRawRequest (later : List PendingRequestInfo) :
    (passDue callback entries request later loop).unfinishedRawRequest =
      loop.unfinishedRawRequest :=
  rfl

/-- What answering a request does to the other members. -/
theorem passDue_tracker (later : List PendingRequestInfo) : ∃ map drops,
      (passDue callback entries request later loop).tracker = { loop.tracker with
            mPendingBuffersMap := map
            mPendingFrameDropList := drops
            mPendingLiveRequest :=
              if dueCount entries.frameNumber loop.unfinishedRawRequest
                  request = partialResultCount then
                loop.tracker.mPendingLiveRequest - 1
              else loop.tracker.mPendingLiveRequest } := by
  obtain ⟨timestamp, handled⟩ :=
    handleDueRequest_request callback entries loop.unfinishedRawRequest request
  obtain ⟨map, drops, returned⟩ :=
    returnBuffers_tracker entries.frameNumber (reportFrameDrops entries request loop.tracker).1
      (handleDueRequest callback entries loop.unfinishedRawRequest request).1.buffers
  refine ⟨map, drops, ?_⟩
  unfold passDue finishDue
  simp only [returned]
  rw [handled]
  simp only
  split
  · rfl
  · rfl

/-- Answering a request keeps the frame numbers of the list. -/
theorem passDue_frames (later : List PendingRequestInfo) : (requestFrames
        ((passDue callback entries request later loop).done ++
          (passDue callback entries request later loop).rest)).Sublist
      (requestFrames (loop.done ++ request :: later)) := by
  rw [passDue_done, passDue_rest]
  split
  · simp
  · simp

end AnsweredRequest

/-! ## Frame numbers of a step -/

/-- Draining a delayed result adds no frame number. -/
theorem Drained.frames {delayed : Nat} {loop next : PendingLoop}
    (drained : Drained delayed loop next) :
    (requestFrames (next.done ++ next.rest)).Sublist (requestFrames (loop.done ++ loop.rest)) := by
  obtain ⟨done, rest⟩ := drained.sublists
  exact requestFrames_sublist (done.append rest)

theorem pendingLoop_frames {entries : MetadataEntries}
    (ran : pendingLoop callback entries rounds loop = some final) :
    (requestFrames (final.done ++ final.rest)).Sublist
      (requestFrames (loop.done ++ loop.rest)) := by
  apply pendingLoop_rule (fun current =>
      (requestFrames (current.done ++ current.rest)).Sublist
        (requestFrames (loop.done ++ loop.rest)))
    ?_ ?_ (.refl _) ran
  · intro current request later kept shape _ _
    rw [shape] at kept
    simpa [passSkipped] using kept
  · intro current request later next kept shape _ _ drained
    rw [shape] at kept
    have answered := passDue_frames callback entries current request later
    exact (drained.frames.trans answered).trans kept

/-- Counting a missed urgent metadata changes the count only. -/
theorem noteMissedUrgent_eq (request : PendingRequestInfo) (urgentFrameNumber : Nat) : ∃ count,
      request.noteMissedUrgent urgentFrameNumber = { request with partialResultCnt := count } := by
  unfold PendingRequestInfo.noteMissedUrgent
  split
  · exact ⟨_, rfl⟩
  · exact ⟨request.partialResultCnt, rfl⟩

/-- An urgent metadata changes nothing but the counts of partial results. -/
theorem handleUrgent_map {f : PendingRequestInfo → β} (ignoresCount :
      ∀ (request : PendingRequestInfo) (count : Nat) (received : Bool), f { request with
            partialResultCnt := count
            bUrgentReceived := received } = f request)
    (callback : MetadataCallback)
    (urgentFrameNumber : Nat)
    (requests : List PendingRequestInfo) :
    (handleUrgent callback urgentFrameNumber requests).1.map f =
      requests.map f := by
  induction requests with
  | nil => rfl
  | cons request rest inductionHypothesis =>
    obtain ⟨count, counted⟩ := noteMissedUrgent_eq request urgentFrameNumber
    unfold handleUrgent
    rw [counted]
    dsimp only
    split
    · rw [List.map_cons, List.map_cons, ignoresCount]
    · rw [List.map_cons, List.map_cons, inductionHypothesis]
      exact congrArg (· :: _) (ignoresCount request count request.bUrgentReceived)

/-- An urgent metadata changes no frame number. -/
theorem handleUrgent_frames (callback : MetadataCallback) (urgentFrameNumber : Nat)
    (requests : List PendingRequestInfo) :
    requestFrames (handleUrgent callback urgentFrameNumber requests).1 =
      requestFrames requests :=
  handleUrgent_map (fun _ _ _ => rfl) callback urgentFrameNumber requests

/-- So does the part of a callback that handles it. -/
theorem handleUrgentPart_frames (callback : MetadataCallback) (entries : MetadataEntries)
    (tracker : Tracker) :
    requestFrames (handleUrgentPart callback entries tracker).1.mPendingRequestsList =
      requestFrames tracker.mPendingRequestsList := by
  unfold handleUrgentPart
  split
  · exact handleUrgent_frames callback entries.urgentFrameNumber tracker.mPendingRequestsList
  · rfl

/-- Counting the pipeline depth changes no frame number. -/
theorem deepenPipeline_frames (tracker : Tracker) :
    requestFrames tracker.deepenPipeline.mPendingRequestsList =
      requestFrames tracker.mPendingRequestsList := by
  simp [requestFrames, Tracker.deepenPipeline, Tracker.setRequests, Function.comp_def]

/-- The pending loop before its first round. -/
def startLoop (tracker : Tracker) : PendingLoop where
  tracker := tracker
  done := []
  rest := tracker.mPendingRequestsList
  unfinishedRawRequest := false
  outputs := []

/-- The parts of a metadata callback. -/
theorem handleMetadataWithLock_cases {tracker next : Tracker} {sent : List Output}
    (handled : handleMetadataWithLock callback tracker = some (next, sent)) :
    (callback.entries = none ∧ next = tracker.deepenPipeline ∧ sent = callback.bufDone) ∨
    ∃ entries, callback.entries = some entries ∧ ((entries.frameNumberValid = false ∧ next =
            (handleUrgentPart callback entries tracker).1.deepenPipeline ∧
          sent = (handleUrgentPart callback entries tracker).2 ++ callback.bufDone) ∨
        (entries.frameNumberValid = true ∧ ∃ final, pendingLoop callback entries
                tracker.mPendingRequestsList.length
                (startLoop (handleUrgentPart callback entries tracker).1) =
              some final ∧
            next = (final.tracker.setRequests (final.done ++ final.rest)).deepenPipeline ∧
            sent = (handleUrgentPart callback entries tracker).2 ++ final.outputs)) := by
  unfold handleMetadataWithLock at handled
  cases given : callback.entries with
  | none =>
    simp only [given, Option.some.injEq, Prod.mk.injEq] at handled
    exact .inl ⟨rfl, handled.1.symm, handled.2.symm⟩
  | some entries =>
    right
    refine ⟨entries, rfl, ?_⟩
    simp only [given, Option.map_eq_some_iff] at handled
    obtain ⟨⟨normal, later⟩, handledNormal, same⟩ := handled
    simp only [Prod.mk.injEq] at same
    obtain ⟨rfl, rfl⟩ := same
    unfold handleNormalPart at handledNormal
    by_cases valid : entries.frameNumberValid = true
    · right
      refine ⟨valid, ?_⟩
      simp only [valid, if_true, Option.map_eq_some_iff] at handledNormal
      obtain ⟨final, ran, closed⟩ := handledNormal
      simp only [PendingLoop.close, Prod.mk.injEq] at closed
      obtain ⟨rfl, rfl⟩ := closed
      have sameLength : (handleUrgentPart callback entries tracker).1.mPendingRequestsList.length =
            tracker.mPendingRequestsList.length := by
        have frames := congrArg List.length (handleUrgentPart_frames callback entries tracker)
        simpa [requestFrames] using frames
      rw [sameLength] at ran
      exact ⟨final, ran, rfl, rfl⟩
    · left
      simp only [valid, Bool.false_eq_true, if_false, Option.some.injEq,
        Prod.mk.injEq] at handledNormal
      obtain ⟨rfl, rfl⟩ := handledNormal
      exact ⟨by simpa using valid, rfl, rfl⟩

/-- A metadata callback adds no frame number. -/
theorem handleMetadataWithLock_frames {callback : MetadataCallback} {tracker next : Tracker}
    {sent : List Output}
    (handled : handleMetadataWithLock callback tracker = some (next, sent)) :
    (requestFrames next.mPendingRequestsList).Sublist
      (requestFrames tracker.mPendingRequestsList) := by
  rcases handleMetadataWithLock_cases handled with
    ⟨_, rfl, _⟩ | ⟨entries, _, ⟨_, rfl, _⟩ | ⟨_, final, ran, rfl, _⟩⟩
  · rw [deepenPipeline_frames]
  · rw [deepenPipeline_frames, handleUrgentPart_frames]
  · rw [deepenPipeline_frames, ← handleUrgentPart_frames callback entries tracker]
    exact pendingLoop_frames ran

/-! ## The other callbacks -/

/-- The tracker after the black level that completes a raw request. -/
def releaseDeferred (tracker : Tracker) (before later : List PendingRequestInfo) : Tracker :=
  { tracker.setRequests (before ++ later.dropWhile isDeferred) with
      mPendingLiveRequest :=
        tracker.mPendingLiveRequest - 1 - UInt32.ofNat (later.takeWhile isDeferred).length }

/-- What a black-level callback can do. -/
theorem sendDynamicBlackLevelWithLock_cases (blackLevel frameNumber : Nat) (tracker : Tracker) :
    (sendDynamicBlackLevelWithLock blackLevel frameNumber tracker = (tracker, []) ∧ ∀ request,
        (tracker.mPendingRequestsList.find? fun other =>
          other.frameNumber == frameNumber) = some request →
        request.needDynamicBlklvl = false) ∨
    ∃ before request later, tracker.mPendingRequestsList = before ++ request :: later ∧
      (∀ other ∈ before, other.frameNumber ≠ frameNumber) ∧
      request.frameNumber = frameNumber ∧
      request.needDynamicBlklvl = true ∧
      ((request.partialResultCnt + 1 = partialResultCount ∧
          sendDynamicBlackLevelWithLock blackLevel frameNumber tracker =
            (releaseDeferred tracker before later, .processCaptureResult
                  (blackLevelResult blackLevel frameNumber (request.partialResultCnt + 1)) ::
                (later.takeWhile isDeferred).map fun deferred =>
                  .processCaptureResult (deferredResult deferred))) ∨
        (request.partialResultCnt + 1 ≠ partialResultCount ∧
          sendDynamicBlackLevelWithLock blackLevel frameNumber tracker = (tracker.setRequests
                (before ++ { request with
                      partialResultCnt := request.partialResultCnt + 1 } ::
                  later),
              [.processCaptureResult (blackLevelResult blackLevel frameNumber
                  (request.partialResultCnt + 1))]))) := by
  have others : ∀ other ∈ tracker.mPendingRequestsList.takeWhile fun request =>
          request.frameNumber != frameNumber,
        other.frameNumber ≠ frameNumber := by
    intro other member
    simpa using List.mem_takeWhile_imp member
  have shape := List.takeWhile_append_dropWhile (p := fun request : PendingRequestInfo =>
        request.frameNumber != frameNumber)
      (l := tracker.mPendingRequestsList)
  unfold sendDynamicBlackLevelWithLock
  rw [List.span_eq_takeWhile_dropWhile]
  cases fromFrame : tracker.mPendingRequestsList.dropWhile fun request =>
        request.frameNumber != frameNumber with
  | nil =>
    left
    refine ⟨by simp only, ?_⟩
    intro request found
    have inList := List.mem_of_find?_eq_some found
    have named := frame_of_found found
    rw [fromFrame, List.append_nil] at shape
    rw [← shape] at inList
    exact absurd named (others request inList)
  | cons request later =>
    rw [fromFrame] at shape
    have named : request.frameNumber = frameNumber := by
      have stops := List.head?_dropWhile_not (fun request : PendingRequestInfo =>
            request.frameNumber != frameNumber)
          tracker.mPendingRequestsList
      rw [fromFrame] at stops
      simpa using stops
    by_cases raw : request.needDynamicBlklvl = true
    · right
      refine ⟨_, request, later, shape.symm, others, named, raw, ?_⟩
      simp only [raw, Bool.not_true, Bool.false_eq_true, if_false]
      by_cases last : request.partialResultCnt + 1 = partialResultCount
      · left
        exact ⟨last, by rw [if_pos last]; rfl⟩
      · right
        exact ⟨last, by rw [if_neg last]⟩
    · left
      refine ⟨by simp only [raw, Bool.not_false, if_true], ?_⟩
      intro first found
      have same : first = request := by
        rw [← shape, List.find?_append] at found
        have none : (tracker.mPendingRequestsList.takeWhile fun request =>
                request.frameNumber != frameNumber).find?
              (fun other => other.frameNumber == frameNumber) = none := by
          rw [List.find?_eq_none]
          intro other member
          simpa using others other member
        rw [none] at found
        simpa [named, eq_comm] using found
      rw [same]
      simpa using raw

/-- A black-level callback adds no frame number. -/
theorem sendDynamicBlackLevelWithLock_frames (blackLevel frameNumber : Nat) (tracker : Tracker) :
    (requestFrames (sendDynamicBlackLevelWithLock blackLevel frameNumber
          tracker).1.mPendingRequestsList).Sublist
      (requestFrames tracker.mPendingRequestsList) := by
  rcases sendDynamicBlackLevelWithLock_cases blackLevel frameNumber tracker
    with ⟨same, _⟩ | ⟨before, request, later, shape, _, _, _, outcome⟩
  · rw [same]
  · rw [shape]
    rcases outcome with ⟨_, same⟩ | ⟨_, same⟩
    · rw [same]
      apply requestFrames_sublist
      exact (List.Sublist.refl before).append
        ((List.dropWhile_sublist _).trans (List.sublist_cons_self _ _))
    · rw [same]
      simp [Tracker.setRequests]

/-- Overwriting a request of a frame changes no frame number. -/
theorem updateRequest_frames (request : PendingRequestInfo) (requests : List PendingRequestInfo) :
    requestFrames (updateRequest request requests) =
      requestFrames requests := by
  induction requests with
  | nil => rfl
  | cons current rest inductionHypothesis =>
    unfold updateRequest
    split
    · rename_i same
      simp [same]
    · simp [inductionHypothesis]

/-- Overwriting replaces the request that is found. -/
theorem updateRequest_found {updated : PendingRequestInfo}
    (found : (requests.find? fun other => other.frameNumber == frameNumber) = some request)
    (same : updated.frameNumber = frameNumber) :
    ∃ before later, requests = before ++ request :: later ∧
        updateRequest updated requests = before ++ updated :: later := by
  subst same
  induction requests with
  | nil => simp at found
  | cons current rest inductionHypothesis =>
    by_cases here : current.frameNumber = updated.frameNumber
    · simp only [List.find?_cons, here, beq_self_eq_true, Option.some.injEq] at found
      subst found
      exact ⟨[], rest, rfl, by simp [updateRequest, here]⟩
    · have inRest : (rest.find? fun other =>
            other.frameNumber == updated.frameNumber) =
              some request := by
        simpa [here] using found
      obtain ⟨before, later, shape, replaced⟩ := inductionHypothesis inRest
      exact ⟨current :: before, later, by simp [shape], by simp [updateRequest, here, replaced]⟩

/-- What an input-buffer callback can do. -/
theorem handleInputBufferWithLock_cases (now : Int)
    (buffer : Option Camera3StreamBuffer) (frameNumber : Nat) (tracker : Tracker) :
    handleInputBufferWithLock now buffer frameNumber tracker = (tracker, []) ∨
    ∃ request map sent, (tracker.mPendingRequestsList.find? fun other =>
        other.frameNumber == frameNumber) = some request ∧
      request.inputBuffer.isSome = true ∧
      handleInputBufferWithLock now buffer frameNumber tracker = ({ tracker.setRequests
              (tracker.mPendingRequestsList.eraseP fun other =>
                other.frameNumber == frameNumber) with
            mPendingBuffersMap := map }, sent) := by
  unfold handleInputBufferWithLock
  cases found : tracker.mPendingRequestsList.find? fun request =>
        request.frameNumber == frameNumber with
  | none => exact .inl rfl
  | some request =>
    by_cases live : request.inputBuffer.isNone = true
    · left
      simp only [live, if_true]
    · right
      have given : request.inputBuffer.isSome = true := by
        simpa [Option.isSome_iff_ne_none] using live
      simp only [live, Bool.false_eq_true, if_false]
      split
      · exact ⟨request, _, _, rfl, given, rfl⟩
      · exact ⟨request, _, _, rfl, given, rfl⟩

/-- What an output-buffer callback can do. -/
inductive BufferOutcome (now : Int) (buffer : Camera3StreamBuffer) (frameNumber : Nat)
    (tracker : Tracker) :
    Tracker × List Output → Prop where
  /-- The buffer goes out by itself. -/
  | sent (answered : ∀ request, (tracker.mPendingRequestsList.find? fun other =>
            other.frameNumber == frameNumber) = some request →
          request.pendingExtraResult = true) :
      BufferOutcome now buffer frameNumber tracker (sendBuffer buffer frameNumber tracker)
  /-- A reprocessed buffer waits behind an older request. -/
  | cached {request : PendingRequestInfo} (found : (tracker.mPendingRequestsList.find? fun other =>
          other.frameNumber == frameNumber) = some request)
      (waits : request.pendingExtraResult = false)
      (reprocess : request.inputBuffer.isSome = true)
      {older : PendingRequestInfo}
      (member : older ∈ tracker.mPendingRequestsList)
      (below : older.frameNumber < frameNumber) :
      BufferOutcome now buffer frameNumber tracker ({ tracker with
            mPendingBuffersMap :=
              (tracker.takeBuffer buffer.buffer).mPendingBuffersMap
            mPendingReprocessResultList :=
              tracker.mPendingReprocessResultList ++ [{
                notifyMsg :=
                  .shutter frameNumber (reprocessTime now request)
                buffer := buffer
                frameNumber := frameNumber }] }, [])
  /-- A reprocessed buffer is the oldest and closes its request. -/
  | closed {request : PendingRequestInfo} (found : (tracker.mPendingRequestsList.find? fun other =>
          other.frameNumber == frameNumber) = some request)
      (waits : request.pendingExtraResult = false)
      (reprocess : request.inputBuffer.isSome = true)
      (oldest : ∀ older ∈ tracker.mPendingRequestsList, ¬ older.frameNumber < frameNumber) :
      BufferOutcome now buffer frameNumber tracker ({ tracker.setRequests
              (tracker.mPendingRequestsList.eraseP fun other =>
                other.frameNumber == frameNumber) with
            mPendingBuffersMap :=
              (tracker.takeBuffer buffer.buffer).mPendingBuffersMap },
          [.notify (.shutter frameNumber (reprocessTime now request)),
            .processCaptureResult (reprocessResult request buffer)])
  /-- The buffer is kept until the metadata comes. -/
  | kept {request : PendingRequestInfo} (found : (tracker.mPendingRequestsList.find? fun other =>
          other.frameNumber == frameNumber) = some request)
      (waits : request.pendingExtraResult = false)
      (live : request.inputBuffer = none) :
      BufferOutcome now buffer frameNumber tracker (tracker.setRequests
          (updateRequest (request.keepBuffer buffer) tracker.mPendingRequestsList), [])

/-- Every output-buffer callback has one of these outcomes. -/
theorem handleBufferWithLock_outcome (now : Int) (buffer : Camera3StreamBuffer) (frameNumber : Nat)
    (tracker : Tracker) :
    BufferOutcome now buffer frameNumber tracker
      (handleBufferWithLock now buffer frameNumber tracker) := by
  unfold handleBufferWithLock
  cases found : tracker.mPendingRequestsList.find? fun request =>
        request.frameNumber == frameNumber with
  | none => exact .sent (by simp [found])
  | some request =>
    have named := frame_of_found found
    by_cases answered : request.pendingExtraResult = true
    · simp only [answered, if_true]
      exact .sent (by simp [found, answered])
    · have waits : request.pendingExtraResult = false := by
        simpa using answered
      simp only [waits, Bool.false_eq_true, if_false]
      cases given : request.inputBuffer with
      | none => exact .kept found waits given
      | some input =>
        have reprocess : request.inputBuffer.isSome = true := by
          simp [given]
        simp only [Option.isSome_some, if_true]
        unfold sendReprocessed
        rw [takeBuffer_tracker tracker buffer.buffer, named]
        by_cases older : (tracker.mPendingRequestsList.any fun other =>
              decide (other.frameNumber < frameNumber)) = true
        · simp only [older, if_true]
          obtain ⟨first, member, below⟩ := List.any_eq_true.mp older
          exact .cached found waits reprocess member (by simpa using below)
        · simp only [older, Bool.false_eq_true, if_false]
          refine .closed found waits reprocess ?_
          intro first member below
          exact older (List.any_eq_true.mpr ⟨first, member, by simpa using below⟩)

/-- A buffer that goes out by itself leaves the requests alone. -/
theorem sendBuffer_tracker (buffer : Camera3StreamBuffer) (frameNumber : Nat) (tracker : Tracker) :
    ∃ map drops, (sendBuffer buffer frameNumber tracker).1 = { tracker with
            mPendingBuffersMap := map
            mPendingFrameDropList := drops } := by
  obtain ⟨drops, marked⟩ := applyFrameDrop_tracker tracker frameNumber buffer
  have taken := takeBuffer_tracker (tracker.applyFrameDrop frameNumber buffer).1
      (tracker.applyFrameDrop frameNumber buffer).2.buffer
  refine ⟨((tracker.applyFrameDrop frameNumber buffer).1.takeBuffer
    (tracker.applyFrameDrop frameNumber buffer).2.buffer).mPendingBuffersMap, drops, ?_⟩
  refine taken.trans ?_
  rw [marked]

/-- An output-buffer callback adds no frame number. -/
theorem BufferOutcome.frames {now : Int} {buffer : Camera3StreamBuffer}
    {frameNumber : Nat} {tracker : Tracker} {result : Tracker × List Output}
    (outcome : BufferOutcome now buffer frameNumber tracker result) :
    (requestFrames result.1.mPendingRequestsList).Sublist
      (requestFrames tracker.mPendingRequestsList) := by
  cases outcome with
  | sent =>
    obtain ⟨map, drops, same⟩ := sendBuffer_tracker buffer frameNumber tracker
    rw [same]
  | cached => exact .refl _
  | closed => exact requestFrames_sublist List.eraseP_sublist
  | kept =>
    simp only [Tracker.setRequests, updateRequest_frames]
    exact .refl _

end AnglerHal.Hal3
