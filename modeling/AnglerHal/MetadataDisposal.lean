import AnglerHal.BatchMetadata
import Mathlib.Algebra.GroupWithZero.Nat

namespace AnglerHal.Hal3

/-!
# Who disposes of a metadata buffer

A metadata buffer goes back to the metadata channel (`bufDone` and `free`) or is
handed over to a channel that processes its frame again.  The pending loop does
one of the two for the request of the metadata, if there is such a request, and
`handleBatchMetadata` returns the buffer after its rounds in any case.
-/

/-- The output disposes of this metadata buffer. -/
def Output.disposes (metadataBuf : Nat) : Output → Bool
  | .metadataBufDone other => other == metadataBuf
  | .queueReprocMetadata other _ => other == metadataBuf
  | _ => false

/-- How often the outputs dispose of a metadata buffer. -/
def disposals (metadataBuf : Nat) (sent : List Output) : Nat :=
  sent.countP (Output.disposes metadataBuf)

@[simp]
theorem disposals_nil (metadataBuf : Nat) : disposals metadataBuf [] = 0 :=
  rfl

@[simp]
theorem disposals_append (metadataBuf : Nat) (earlier later : List Output) :
    disposals metadataBuf (earlier ++ later) =
      disposals metadataBuf earlier + disposals metadataBuf later :=
  List.countP_append

/-- The callback is defined and disposes of the buffer exactly once. -/
def DisposedOnce (metadataBuf : Nat) (result : Option (Tracker × List Output)) : Prop :=
  ∃ next sent, result = some (next, sent) ∧ disposals metadataBuf sent = 1

/-! ## The parts that dispose of nothing -/

/-- Reporting dropped frames keeps the buffer. -/
theorem reportFrameDrops_disposals (metadataBuf : Nat) (entries : MetadataEntries)
    (request : PendingRequestInfo) (tracker : Tracker) :
    disposals metadataBuf (reportFrameDrops entries request tracker).2 = 0 := by
  simp [disposals, reportFrameDrops, Output.disposes, List.countP_eq_zero]

/-- So does the urgent part of a callback. -/
theorem handleUrgentPart_disposals (metadataBuf : Nat) (callback : MetadataCallback)
    (entries : MetadataEntries) (tracker : Tracker) :
    disposals metadataBuf (handleUrgentPart callback entries tracker).2 = 0 := by
  have scanned : ∀ requests : List PendingRequestInfo, disposals metadataBuf
          (handleUrgent callback entries.urgentFrameNumber requests).2 = 0 := by
    intro requests
    induction requests with
    | nil => rfl
    | cons request rest inductionHypothesis =>
      unfold handleUrgent
      dsimp only
      split
      · simp [disposals, Output.disposes]
      · exact inductionHypothesis
  unfold handleUrgentPart
  split
  · exact scanned tracker.mPendingRequestsList
  · rfl

/-- The buffer goes back if the call owns it. -/
theorem bufDone_disposals (callback : MetadataCallback) :
    disposals callback.metadataBuf callback.bufDone =
      callback.freeAndBufdoneMetaBuf.toNat := by
  unfold MetadataCallback.bufDone
  cases callback.freeAndBufdoneMetaBuf with
  | true => simp [disposals, Output.disposes]
  | false => rfl

/-! ## The pending loop -/

/-- What the round of the metadata's own request disposes of. -/
def requestDisposals (callback : MetadataCallback) (request : PendingRequestInfo) : Nat :=
  if (metadataStream request).isSome then 1
  else callback.freeAndBufdoneMetaBuf.toNat

/-- What the rounds for the requests of this frame dispose of. -/
def frameDisposals (callback : MetadataCallback) (frameNumber : Nat)
    (requests : List PendingRequestInfo) : Nat :=
  ((requests.filter fun request =>
    request.frameNumber == frameNumber).map (requestDisposals callback)).sum

theorem frameDisposals_cons (callback : MetadataCallback) (frameNumber : Nat)
    (request : PendingRequestInfo) (requests : List PendingRequestInfo) :
    frameDisposals callback frameNumber (request :: requests) =
      (if request.frameNumber = frameNumber then
        requestDisposals callback request else 0) +
        frameDisposals callback frameNumber requests := by
  unfold frameDisposals
  by_cases here : request.frameNumber = frameNumber
  · simp [here]
  · simp [here]

variable {callback : MetadataCallback} {frameNumber : Nat} {entries : MetadataEntries}
  {tracker : Tracker} {superBuf : MetadataSuperBuf}

/-- Where no request has the frame, nothing is disposed of. -/
theorem frameDisposals_of_absent {requests : List PendingRequestInfo}
    (absent : ∀ request ∈ requests, request.frameNumber ≠ frameNumber) :
    frameDisposals callback frameNumber requests = 0 := by
  have none : (requests.filter fun request =>
        request.frameNumber == frameNumber) = [] := by
    simpa using absent
  simp [frameDisposals, none]

/-- Erasing another frame does not change what a frame disposes of. -/
theorem frameDisposals_eraseP {other : Nat} (apart : other ≠ frameNumber)
    (requests : List PendingRequestInfo) :
    frameDisposals callback frameNumber
        (requests.eraseP fun request => request.frameNumber == other) =
      frameDisposals callback frameNumber requests := by
  induction requests with
  | nil => rfl
  | cons request rest inductionHypothesis =>
    by_cases here : request.frameNumber = other
    · rw [List.eraseP_cons_of_pos (by simpa using here), frameDisposals_cons, if_neg (by omega)]
      omega
    · rw [List.eraseP_cons_of_neg (by simpa using here),
        frameDisposals_cons, frameDisposals_cons, inductionHypothesis]

/-- In frame order one request has the frame at most. -/
theorem frameDisposals_of_ordered {callback : MetadataCallback}
    {request : PendingRequestInfo} {requests : List PendingRequestInfo}
    (ordered : Ordered requests) (member : request ∈ requests) :
    frameDisposals callback request.frameNumber requests =
      requestDisposals callback request := by
  obtain ⟨earlier, later, rfl⟩ := List.append_of_mem member
  obtain ⟨before, behind⟩ := ordered.around
  have split : frameDisposals callback request.frameNumber (earlier ++ request :: later) =
        frameDisposals callback request.frameNumber earlier +
          frameDisposals callback request.frameNumber (request :: later) := by
    simp [frameDisposals]
  rw [split, frameDisposals_cons, if_pos rfl, frameDisposals_of_absent fun other inEarlier =>
      Nat.ne_of_lt (before other inEarlier),
    frameDisposals_of_absent fun other inLater =>
      Nat.ne_of_gt (behind other inLater)]
  omega

/-- Only the request of the metadata's own frame disposes of the buffer. -/
theorem handleDueRequest_disposals {callback : MetadataCallback}
    {entries : MetadataEntries} {unfinishedRaw : Bool} {request : PendingRequestInfo}
    (due : request.frameNumber ≤ entries.frameNumber)
    (notSkipped : dueCase entries.frameNumber request ≠ .skip) :
    disposals callback.metadataBuf (handleDueRequest callback entries unfinishedRaw request).2.2 =
      if request.frameNumber = entries.frameNumber then
        requestDisposals callback request
      else 0 := by
  by_cases below : request.frameNumber < entries.frameNumber
  · have missed : dueCase entries.frameNumber request = .missed := by
      unfold dueCase at notSkipped ⊢
      rw [if_pos below] at notSkipped ⊢
      split at notSkipped
      · exact absurd rfl notSkipped
      · split at notSkipped
        · exact absurd rfl notSkipped
        · split at notSkipped
          · exact absurd rfl notSkipped
          · simp_all
    rw [if_neg (by omega), handleDueRequest, if_pos missed]
    simp [handleMissed, disposals, Output.disposes]
  · have current : dueCase entries.frameNumber request = .current := by
      simp [dueCase, below]
    rw [if_pos (by omega), handleDueRequest, if_neg (by simp [current])]
    simp only [handleCurrent, disposals_append]
    unfold requestDisposals
    cases metadataStream request with
    | none =>
      rw [bufDone_disposals]
      simp [disposals, Output.disposes]
    | some stream => simp [disposals, Output.disposes]

/-- One round adds what its request disposes of. -/
theorem passDue_disposals {request : PendingRequestInfo}
    {later : List PendingRequestInfo} {loop : PendingLoop}
    (due : request.frameNumber ≤ entries.frameNumber)
    (notSkipped : dueCase entries.frameNumber request ≠ .skip) :
    disposals callback.metadataBuf (passDue callback entries request later loop).outputs =
      disposals callback.metadataBuf loop.outputs +
        if request.frameNumber = entries.frameNumber then
          requestDisposals callback request
        else 0 := by
  have sent :=
    @handleDueRequest_disposals callback entries loop.unfinishedRawRequest request due notSkipped
  have result : ∀ captured : CaptureResult,
        disposals callback.metadataBuf [.processCaptureResult captured] = 0 := by
    intro captured
    simp [disposals, Output.disposes]
  have finished : disposals callback.metadataBuf (finishDue entries.frameNumber
            (reportFrameDrops entries request loop.tracker).1
            (handleDueRequest callback entries loop.unfinishedRawRequest request)).outputs =
        disposals callback.metadataBuf (handleDueRequest callback entries loop.unfinishedRawRequest
            request).2.2 := by
    unfold finishDue
    dsimp only
    split <;> simp [result]
  simp only [passDue, disposals_append, reportFrameDrops_disposals, finished, sent, Nat.add_zero]

/-- Delivering delayed results disposes of nothing. -/
theorem Drained.disposals {callback : MetadataCallback} {frameNumber metadataBuf : Nat}
    {loop next : PendingLoop} (drained : Drained (uint32Succ frameNumber) loop next) :
    Hal3.disposals metadataBuf next.outputs = Hal3.disposals metadataBuf loop.outputs ∧
      frameDisposals callback frameNumber next.rest =
        frameDisposals callback frameNumber loop.rest := by
  have apart : uint32Succ frameNumber ≠ frameNumber := by
    unfold uint32Succ uintMax
    split <;> omega
  cases drained with
  | nothing requests none => exact ⟨rfl, rfl⟩
  | orphan requests found absent => simp [Hal3.disposals, Output.disposes]
  | delivered requests found member parts mark =>
    constructor
    · rcases mark with rfl | rfl <;>
        simp [Hal3.disposals, Output.disposes]
    · rcases parts with ⟨_, _, rfl⟩ | ⟨_, _, rfl⟩
      · rfl
      · exact frameDisposals_eraseP apart loop.rest

/-- The loop disposes of what the requests of the metadata's frame do. -/
theorem pendingLoop_disposals {rounds : Nat} {final : PendingLoop}
    (ordered : Ordered tracker.mPendingRequestsList)
    (enough : tracker.mPendingRequestsList.length ≤ rounds)
    (ran : pendingLoop callback entries rounds (startLoop tracker) = some final) :
    disposals callback.metadataBuf final.outputs = frameDisposals callback entries.frameNumber
        tracker.mPendingRequestsList := by
  have counted : disposals callback.metadataBuf final.outputs +
          frameDisposals callback entries.frameNumber final.rest =
        frameDisposals callback entries.frameNumber
          tracker.mPendingRequestsList := by
    apply pendingLoop_rule (fun loop =>
        disposals callback.metadataBuf loop.outputs +
            frameDisposals callback entries.frameNumber loop.rest =
          frameDisposals callback entries.frameNumber tracker.mPendingRequestsList)
      ?_ ?_ (by simp [startLoop]) ran
    · intro loop request later kept shape due skip
      have below : request.frameNumber ≠ entries.frameNumber := by
        intro same
        simp [dueCase, same] at skip
      rw [shape, frameDisposals_cons, if_neg below] at kept
      simp only [passSkipped, disposals_append, reportFrameDrops_disposals]
      omega
    · intro loop request later next kept shape due skip drained
      obtain ⟨outputs, rest⟩ :=
        @drained.disposals callback entries.frameNumber callback.metadataBuf
      rw [shape, frameDisposals_cons] at kept
      rw [outputs, rest, passDue_disposals due skip, passDue_rest]
      omega
  have behind := @pendingLoop_exit callback entries rounds (startLoop tracker) final
      (by simpa [startLoop] using ordered) (by simpa [startLoop] using enough)
      ran
  rw [frameDisposals_of_absent fun request member =>
    Nat.ne_of_gt (behind request member)] at counted
  simpa using counted

/-! ## One callback -/

/-- What a callback disposes of. -/
def callbackDisposals (callback : MetadataCallback) (tracker : Tracker) : Nat :=
  match callback.entries with
  | none => callback.freeAndBufdoneMetaBuf.toNat
  | some entries =>
    if entries.frameNumberValid then
      frameDisposals callback entries.frameNumber tracker.mPendingRequestsList
    else
      callback.freeAndBufdoneMetaBuf.toNat

/-- The urgent part does not change what the requests will dispose of. -/
theorem frameDisposals_handleUrgentPart (callback : MetadataCallback)
    (entries : MetadataEntries) (frameNumber : Nat) (tracker : Tracker) :
    frameDisposals callback frameNumber (handleUrgentPart callback entries
          tracker).1.mPendingRequestsList =
      frameDisposals callback frameNumber
        tracker.mPendingRequestsList := by
  have scanned : ∀ requests : List PendingRequestInfo, frameDisposals callback frameNumber
            (handleUrgent callback entries.urgentFrameNumber requests).1 =
          frameDisposals callback frameNumber requests := by
    intro requests
    induction requests with
    | nil => rfl
    | cons request rest inductionHypothesis =>
      obtain ⟨count, counted⟩ := noteMissedUrgent_eq request entries.urgentFrameNumber
      unfold handleUrgent
      rw [counted]
      dsimp only
      split
      · rw [frameDisposals_cons, frameDisposals_cons]
        rfl
      · rw [frameDisposals_cons, frameDisposals_cons, inductionHypothesis]
        rfl
  unfold handleUrgentPart
  split
  · exact scanned tracker.mPendingRequestsList
  · rfl

/-- A callback is defined on a list in frame order, and keeps that order. -/
theorem handleMetadataWithLock_disposals {callback : MetadataCallback} {tracker : Tracker}
    (ordered : Ordered tracker.mPendingRequestsList) :
    ∃ next sent, handleMetadataWithLock callback tracker = some (next, sent) ∧
        Ordered next.mPendingRequestsList ∧
        disposals callback.metadataBuf sent =
          callbackDisposals callback tracker := by
  have defined : ∃ next sent, handleMetadataWithLock callback tracker = some (next, sent) ∧
          disposals callback.metadataBuf sent =
            callbackDisposals callback tracker := by
    unfold handleMetadataWithLock callbackDisposals
    cases callback.entries with
    | none => exact ⟨_, _, rfl, bufDone_disposals callback⟩
    | some entries =>
      dsimp only
      cases valid : entries.frameNumberValid with
      | false =>
        simp only [handleNormalPart, valid, Bool.false_eq_true, if_false, Option.map_some]
        refine ⟨_, _, rfl, ?_⟩
        rw [disposals_append, handleUrgentPart_disposals, bufDone_disposals, Nat.zero_add]
      | true =>
        have urgentOrdered : Ordered (handleUrgentPart callback entries
                tracker).1.mPendingRequestsList := by
          refine ordered.of_frames ?_
          rw [handleUrgentPart_frames]
        obtain ⟨final, ran⟩ :=
          @pendingLoop_defined callback entries (handleUrgentPart callback entries
              tracker).1.mPendingRequestsList.length
            (startLoop (handleUrgentPart callback entries tracker).1)
            (by simpa [startLoop] using urgentOrdered)
        have counted := pendingLoop_disposals urgentOrdered (Nat.le_refl _) ran
        unfold startLoop at ran
        simp only [handleNormalPart, valid, if_true, ran, Option.map_some, PendingLoop.close]
        refine ⟨_, _, rfl, ?_⟩
        rw [disposals_append, handleUrgentPart_disposals, counted,
          frameDisposals_handleUrgentPart, Nat.zero_add]
  obtain ⟨next, sent, handled, counted⟩ := defined
  exact ⟨next, sent, handled, ordered.of_frames (handleMetadataWithLock_frames handled), counted⟩

/-! ## Outside batch mode -/

/-- A valid frame number is that of a pending request. -/
def namesPending (entries : Option MetadataEntries) (tracker : Tracker) : Bool :=
  match entries with
  | none => true
  | some entries =>
    !entries.frameNumberValid || tracker.mPendingRequestsList.any fun request =>
        request.frameNumber == entries.frameNumber

/-- A callback that owns the buffer disposes of it unless its frame is not pending. -/
theorem callbackDisposals_single (ordered : Ordered tracker.mPendingRequestsList) :
    callbackDisposals (singleCallback superBuf) tracker =
      (namesPending superBuf.entries tracker).toNat := by
  have always : ∀ request, requestDisposals (singleCallback superBuf) request = 1 := by
    intro request
    unfold requestDisposals
    split <;> rfl
  unfold callbackDisposals namesPending
  cases given : superBuf.entries with
  | none => simp [singleCallback, given]
  | some entries =>
    simp only [singleCallback, given]
    cases valid : entries.frameNumberValid with
    | false => simp
    | true =>
      simp only [if_true, Bool.not_true, Bool.false_or]
      cases pending : tracker.mPendingRequestsList.any fun request =>
            request.frameNumber == entries.frameNumber with
      | true =>
        obtain ⟨request, member, same⟩ := List.any_eq_true.mp pending
        have named : request.frameNumber = entries.frameNumber := by
          simpa using same
        have counted :=
          @frameDisposals_of_ordered (singleCallback superBuf) request _ ordered member
        rw [named, always] at counted
        exact counted
      | false => exact frameDisposals_of_absent (by simpa using pending)

/-! ## In batch mode -/

/-- The request of this round needs the metadata for itself. -/
def handsOver (callback : MetadataCallback) (tracker : Tracker) : Bool :=
  match callback.entries with
  | none => false
  | some entries =>
    entries.frameNumberValid && tracker.mPendingRequestsList.any fun request =>
        request.frameNumber == entries.frameNumber && (metadataStream request).isSome

/-- What the rounds of a batch find when they have taken `mMutex`. -/
structure Finds (interleave : Nat → Tracker → Tracker) (superBuf : MetadataSuperBuf)
    (callbackAt : Nat → MetadataCallback)
    (rounds : Nat)
    (start : Tracker)
    (found : Nat → Tracker) : Prop where
  first : found 0 = interleave 0 start
  next : ∀ round next sent, round + 1 < rounds →
    handleSuperBufWithLock superBuf (callbackAt round) (found round) = some (next, sent) →
      found (round + 1) = interleave (round + 1) next

/-- No round of the batch hands the buffer over. -/
def keepsBuffer (callbackAt : Nat → MetadataCallback) (rounds : Nat)
    (found : Nat → Tracker) : Bool :=
  (List.range rounds).all fun round => !handsOver (callbackAt round) (found round)

/-- A callback that does not own the buffer can only hand it over. -/
theorem callbackDisposals_borrowed (ordered : Ordered tracker.mPendingRequestsList)
    (borrowed : callback.freeAndBufdoneMetaBuf = false) :
    callbackDisposals callback tracker = (handsOver callback tracker).toNat := by
  unfold callbackDisposals handsOver
  cases callback.entries with
  | none => simp [borrowed]
  | some entries =>
    dsimp only
    cases valid : entries.frameNumberValid with
    | false => simp [borrowed]
    | true =>
      simp only [if_true, Bool.true_and]
      by_cases pending : ∃ request ∈ tracker.mPendingRequestsList,
            request.frameNumber = entries.frameNumber
      · obtain ⟨request, member, named⟩ := pending
        have counted := @frameDisposals_of_ordered callback request _ ordered member
        rw [named] at counted
        rw [counted]
        unfold requestDisposals
        have unique : (tracker.mPendingRequestsList.any fun other =>
              other.frameNumber == entries.frameNumber && (metadataStream other).isSome) =
              (metadataStream request).isSome := by
          rw [Bool.eq_iff_iff, List.any_eq_true]
          constructor
          · rintro ⟨other, inList, both⟩
            simp only [Bool.and_eq_true, beq_iff_eq] at both
            have same : other = request :=
              ordered.eq_of_frame inList member (both.1.trans named.symm)
            exact same ▸ both.2
          · intro needs
            exact ⟨request, member, by simp [named, needs]⟩
        rw [unique, borrowed]
        cases (metadataStream request).isSome <;> rfl
      · have absent : ∀ request ∈ tracker.mPendingRequestsList,
              request.frameNumber ≠ entries.frameNumber := by
          intro request member named
          exact pending ⟨request, member, named⟩
        have nobody : (tracker.mPendingRequestsList.any fun other =>
              other.frameNumber == entries.frameNumber &&
                (metadataStream other).isSome) = false := by
          rw [List.any_eq_false]
          intro other inList
          simp [absent other inList]
        rw [frameDisposals_of_absent absent, nobody]
        rfl

/-- A reported drop comes with both entries of the frame number. -/
def dropNumbered (superBuf : MetadataSuperBuf) : Bool :=
  superBuf.frameDropped.isNone ||
    superBuf.frameNumberValid.isSome && superBuf.frameNumber.isSome

/-- Printing the frame number of a drop is all that can fail before the lock's work. -/
theorem handleSuperBufWithLock_eq (superBuf : MetadataSuperBuf) (callback : MetadataCallback)
    (tracker : Tracker) :
    handleSuperBufWithLock superBuf callback tracker =
      if dropNumbered superBuf then
        handleMetadataWithLock callback tracker
      else
        none := by
  unfold handleSuperBufWithLock dropNumbered
  cases superBuf.frameDropped <;> cases superBuf.frameNumberValid <;>
    cases superBuf.frameNumber <;> rfl

/-- The rounds from some one on dispose of nothing where none of them hands over. -/
theorem batchRounds_disposals {interleave : Nat → Tracker → Tracker}
    {superBuf : MetadataSuperBuf} {callbackAt : Nat → MetadataCallback}
    {found : Nat → Tracker} {start : Tracker} {total rounds round : Nat}
    {tracker : Tracker} (numbered : dropNumbered superBuf = true)
    (keepsOrder : ∀ round current, Ordered current.mPendingRequestsList →
          Ordered (interleave round current).mPendingRequestsList)
    (sameBuf : ∀ round, (callbackAt round).metadataBuf = superBuf.metadataBuf)
    (borrowed : ∀ round, (callbackAt round).freeAndBufdoneMetaBuf = false)
    (finds : Finds interleave superBuf callbackAt total start found)
    (whole : round + rounds = total) (ordered : Ordered tracker.mPendingRequestsList)
    (foundHere : 0 < rounds → found round = interleave round tracker) :
    ∃ final sent, batchRounds interleave superBuf callbackAt rounds round tracker =
          some (final, sent) ∧
        (disposals superBuf.metadataBuf sent = 0 ↔ ∀ later, round ≤ later → later < total →
            handsOver (callbackAt later) (found later) = false) := by
  induction rounds generalizing round tracker with
  | zero =>
    refine ⟨tracker, [], rfl, fun _ later _ _ => ?_, fun _ => rfl⟩
    omega
  | succ rounds inductionHypothesis =>
    have here := foundHere (Nat.succ_pos rounds)
    have nowOrdered : Ordered (found round).mPendingRequestsList := by
      rw [here]
      exact keepsOrder round tracker ordered
    obtain ⟨next, sent, handled, nextOrdered, counted⟩ :=
      @handleMetadataWithLock_disposals (callbackAt round) _ nowOrdered
    rw [callbackDisposals_borrowed nowOrdered (borrowed round), sameBuf round] at counted
    have locked : handleSuperBufWithLock superBuf (callbackAt round) (found round) =
          some (next, sent) := by
      rw [handleSuperBufWithLock_eq, if_pos numbered, handled]
    obtain ⟨final, behind, ran, rest⟩ :=
      @inductionHypothesis (round + 1) next (by omega) nextOrdered
        fun more => finds.next round next sent (by omega) locked
    refine ⟨final, sent ++ behind, ?_, ?_⟩
    · simp only [batchRounds, ← here, locked, ran]
    · rw [disposals_append, counted, Nat.add_eq_zero_iff, rest, Bool.toNat_eq_zero]
      constructor
      · rintro ⟨this, others⟩ later from_ below
        rcases Nat.eq_or_lt_of_le from_ with rfl | further
        · exact this
        · exact others later further below
      · intro all
        exact ⟨all round (Nat.le_refl _) (by omega),
          fun later from_ below => all later (by omega) below⟩

/-! ## The metadata callback -/

/-- `hdrPlusPerfLock` finds the entries that it reads. -/
def frameNumberSet (superBuf : MetadataSuperBuf) : Bool :=
  match superBuf.frameNumberValid with
  | none => false
  | some valid => !valid || superBuf.frameNumber.isSome

/-- The lock leaves the pending requests. -/
theorem hdrPlusPerfLock_cases (superBuf : MetadataSuperBuf) (timerReset : Bool)
    (tracker : Tracker) :
    (frameNumberSet superBuf = false ∧ hdrPlusPerfLock superBuf timerReset tracker = none) ∨
      (frameNumberSet superBuf = true ∧ ∃ lock,
        hdrPlusPerfLock superBuf timerReset tracker = some lock ∧
          lock.tracker.mPendingRequestsList = tracker.mPendingRequestsList) := by
  have same : (if timerReset then { tracker with mLastCustIntentFrmNum := -1 }
        else tracker).mPendingRequestsList = tracker.mPendingRequestsList := by
    cases timerReset <;> rfl
  unfold hdrPlusPerfLock frameNumberSet
  cases superBuf.frameNumberValid with
  | none => exact .inl ⟨rfl, rfl⟩
  | some valid =>
    cases valid with
    | false => exact .inr ⟨rfl, _, rfl, same⟩
    | true =>
      cases superBuf.frameNumber with
      | none => exact .inl ⟨rfl, rfl⟩
      | some frameNumber => exact .inr ⟨rfl, _, rfl, same⟩

/--
The entries that are read untested are set.  Outside batch mode a valid frame
number names a pending request; in batch mode the frame numbers are known to the
batch map, and no round finds a request of its frame that needs the metadata for
itself.
-/
def disposesOnce (times : Nat → Int) (superBuf : MetadataSuperBuf) (tracker : Tracker)
    (found : Nat → Tracker) : Bool :=
  dropNumbered superBuf &&
    if tracker.constrainedHighSpeed then
      match urgentRange tracker superBuf.entries, normalRange tracker superBuf.entries with
      | some urgent, some normal =>
        keepsBuffer (batchCallback times urgent normal superBuf)
          (batchRoundCount urgent normal superBuf.entries) found
      | _, _ => false
    else
      frameNumberSet superBuf && namesPending superBuf.entries tracker

theorem closeBatch_mPendingRequestsList (tracker : Tracker) (entries : Option MetadataEntries) :
    (closeBatch tracker entries).mPendingRequestsList =
      tracker.mPendingRequestsList := by
  unfold closeBatch
  cases entries with
  | none => rfl
  | some entries =>
    dsimp only
    split <;> rfl

/-- A batch whose drop is reported without a frame number ends in its only round. -/
theorem handleBatchMetadata_unnumbered {interleave : Nat → Tracker → Tracker} {times : Nat → Int}
    (unnumbered : dropNumbered superBuf = false) :
    handleBatchMetadata interleave times superBuf tracker = none := by
  have missing : superBuf.entries = none := by
    unfold dropNumbered at unnumbered
    unfold MetadataSuperBuf.entries
    cases valid : superBuf.frameNumberValid with
    | none => rfl
    | some _ =>
      cases number : superBuf.frameNumber with
      | none => rfl
      | some _ => simp [valid, number] at unnumbered
  simp [handleBatchMetadata, missing, urgentRange, normalRange, batchRoundCount, batchRounds,
    handleSuperBufWithLock_eq, unnumbered]

/-- In batch mode the buffer is returned once, after what the rounds have handed over. -/
theorem handleBatchMetadata_disposedOnce_iff {env : MetadataEnv} {found : Nat → Tracker}
    {urgent normal : BatchRange} (numbered : dropNumbered superBuf = true)
    (ordered : Ordered tracker.mPendingRequestsList)
    (keepsOrder : ∀ round current, Ordered current.mPendingRequestsList →
          Ordered (env.interleave round current).mPendingRequestsList)
    (isUrgent : urgentRange tracker superBuf.entries = some urgent)
    (isNormal : normalRange tracker superBuf.entries = some normal)
    (finds : Finds env.interleave superBuf (batchCallback env.times urgent normal superBuf)
      (batchRoundCount urgent normal superBuf.entries) (closeBatch tracker superBuf.entries)
      found) :
    DisposedOnce superBuf.metadataBuf
        (handleBatchMetadata env.interleave env.times superBuf tracker) ↔
      keepsBuffer (batchCallback env.times urgent normal superBuf)
        (batchRoundCount urgent normal superBuf.entries) found = true := by
  obtain ⟨final, sent, ran, kept⟩ :=
    @batchRounds_disposals env.interleave superBuf (batchCallback env.times urgent normal superBuf)
      found _ _ (batchRoundCount urgent normal superBuf.entries) 0
      (closeBatch tracker superBuf.entries) numbered keepsOrder (fun _ => rfl) (fun _ => rfl)
      finds (Nat.zero_add _) (by rw [closeBatch_mPendingRequestsList]; exact ordered)
      (fun _ => finds.first)
  have returned : disposals superBuf.metadataBuf
        [.metadataBufDone superBuf.metadataBuf] = 1 := by
    simp [disposals, Output.disposes]
  have keeps : keepsBuffer (batchCallback env.times urgent normal superBuf)
        (batchRoundCount urgent normal superBuf.entries) found = true ↔
      disposals superBuf.metadataBuf sent = 0 := by
    simp [keepsBuffer, kept]
  unfold handleBatchMetadata
  rw [isUrgent, isNormal, keeps]
  dsimp only
  rw [ran]
  constructor
  · rintro ⟨_, _, ⟨⟩, once⟩
    rw [disposals_append, returned] at once
    exact Nat.succ.inj once
  · intro nothing
    refine ⟨_, _, rfl, ?_⟩
    rw [disposals_append, returned, nothing]

/-- Outside batch mode a buffer is disposed of with the request that its frame number names. -/
theorem handleMetadataWithLock_disposedOnce_iff
    (ordered : Ordered tracker.mPendingRequestsList) :
    DisposedOnce superBuf.metadataBuf
        (handleMetadataWithLock (singleCallback superBuf) tracker) ↔
      namesPending superBuf.entries tracker = true := by
  obtain ⟨next, sent, handled, _, counted⟩ :=
    @handleMetadataWithLock_disposals (singleCallback superBuf) tracker ordered
  rw [callbackDisposals_single ordered] at counted
  have sameBuf : (singleCallback superBuf).metadataBuf = superBuf.metadataBuf := rfl
  rw [sameBuf] at counted
  rw [handled]
  constructor
  · rintro ⟨_, _, ⟨⟩, once⟩
    rw [counted] at once
    cases names : namesPending superBuf.entries tracker with
    | true => rfl
    | false => simp [names] at once
  · intro names
    exact ⟨next, sent, rfl, by rw [counted, names]; rfl⟩

/--
On a list in frame order, whatever the other threads do to it in that order,
a metadata buffer is disposed of exactly once if and only if the condition
holds.
-/
theorem captureResultCb_disposedOnce_iff {env : MetadataEnv}
    {superBuf : MetadataSuperBuf} {tracker : Tracker} {found : Nat → Tracker}
    (ordered : Ordered tracker.mPendingRequestsList)
    (keepsOrder : ∀ round current, Ordered current.mPendingRequestsList →
          Ordered (env.interleave round current).mPendingRequestsList)
    (finds : tracker.constrainedHighSpeed = true → ∀ urgent normal,
      urgentRange tracker superBuf.entries = some urgent →
      normalRange tracker superBuf.entries = some normal →
        Finds env.interleave superBuf (batchCallback env.times urgent normal superBuf)
          (batchRoundCount urgent normal superBuf.entries) (closeBatch tracker superBuf.entries)
          found) :
    DisposedOnce superBuf.metadataBuf (captureResultCb env superBuf tracker) ↔
      disposesOnce env.times superBuf tracker found = true := by
  have never : ¬ DisposedOnce superBuf.metadataBuf none := by
    rintro ⟨_, _, undefined, _⟩
    cases undefined
  unfold captureResultCb disposesOnce
  cases numbered : dropNumbered superBuf with
  | false =>
    simp only [handleBatchMetadata_unnumbered numbered, handleSuperBufWithLock_eq, numbered,
      Bool.false_eq_true, if_false, Bool.false_and, iff_false]
    split
    · exact never
    · split
      · exact never
      · exact never
  | true =>
    cases highSpeed : tracker.constrainedHighSpeed with
    | true =>
      simp only [if_true, Bool.true_and]
      cases isUrgent : urgentRange tracker superBuf.entries with
      | none => simp [handleBatchMetadata, isUrgent, never]
      | some urgent =>
        cases isNormal : normalRange tracker superBuf.entries with
        | none => simp [handleBatchMetadata, isUrgent, isNormal, never]
        | some normal =>
          exact handleBatchMetadata_disposedOnce_iff numbered ordered keepsOrder isUrgent isNormal
            (finds highSpeed urgent normal isUrgent isNormal)
    | false =>
      simp only [Bool.false_eq_true, if_false, Bool.true_and, Bool.and_eq_true]
      rcases hdrPlusPerfLock_cases superBuf env.timerReset tracker with
        ⟨unset, undefined⟩ | ⟨set, lock, locked, sameRequests⟩
      · simp [unset, undefined, never]
      · have sameNames : namesPending superBuf.entries lock.tracker =
              namesPending superBuf.entries tracker := by
          unfold namesPending
          rw [sameRequests]
        simp only [locked, handleSuperBufWithLock_eq, numbered, if_true, set, true_and,
          ← sameNames]
        exact handleMetadataWithLock_disposedOnce_iff (sameRequests ▸ ordered)

/-- A request whose jpeg channel needs the metadata for itself. -/
def metadataEvent (frameNumber : Nat) : TrackerEvent :=
  .processCaptureRequest quietEnv (captureOf frameNumber none
      [{ outputOf 0 (jpegBuffer frameNumber) with needMetadata := true }])

/-- A buffer with the normal metadata of a frame. -/
def normalSuperBuf (frameNumber : Nat) : MetadataSuperBuf where
  metadataBuf := frameNumber
  frameNumberValid := some true
  frameNumber := some frameNumber
  captureTime := some frameNumber
  urgentFrameNumberValid := some false
  urgentFrameNumber := some 0
  frameDropped := none

/-- No other thread, and no HDR+ frame. -/
def quietMetadataEnv : MetadataEnv where
  interleave := fun _ current => current
  times := fun _ => 0
  timerReset := false

/-- In high speed mode the map knows the batch of frame 1. -/
def batchTracker : Tracker :=
  { opened true true with mPendingBatchMap := ⟨[(1, 1)], by decide⟩ }

/-- The metadata of a pending request is handed over once, and that of a batch returned. -/
theorem captureResultCb_disposedOnce_pending :
    (∃ tracker log, trackerRun (opened true false) [metadataEvent 1] = some (tracker, log) ∧
      DisposedOnce 1 (captureResultCb quietMetadataEnv (normalSuperBuf 1) tracker)) ∧
    DisposedOnce 1 (captureResultCb quietMetadataEnv (normalSuperBuf 1) batchTracker) := by
  constructor
  · refine ⟨_, _, rfl, ?_⟩
    exact (@captureResultCb_disposedOnce_iff quietMetadataEnv (normalSuperBuf 1) _
      (fun _ => opened true false) (by decide) (fun _ _ ordered => ordered)
      (fun highSpeed => absurd highSpeed (by decide))).mpr (by decide)
  · refine (@captureResultCb_disposedOnce_iff quietMetadataEnv (normalSuperBuf 1) batchTracker
      (fun _ => closeBatch batchTracker (normalSuperBuf 1).entries) (by decide)
      (fun _ _ ordered => ordered) ?_).mpr (by decide)
    rintro _ _ _ ⟨⟩ ⟨⟩
    refine ⟨rfl, fun round _ _ next => ?_⟩
    -- the batch has one frame, so there is no next round
    have oneRound : round + 1 < 1 := next
    omega

/-- A second metadata of a frame finds no request and keeps its buffer. -/
theorem captureResultCb_leaksBuffer : ∃ tracker log, trackerRun (opened true false)
          [liveEvent 1, urgentEvent 1, normalEvent 1] =
        some (tracker, log) ∧
      Ordered tracker.mPendingRequestsList ∧
      ¬ DisposedOnce 1 (captureResultCb quietMetadataEnv (normalSuperBuf 1) tracker) := by
  refine ⟨_, _, rfl, by decide, ?_⟩
  rintro ⟨next, sent, handled, once⟩
  obtain ⟨rfl, rfl⟩ := Prod.mk.inj (Option.some.inj handled)
  revert once
  decide

end AnglerHal.Hal3
