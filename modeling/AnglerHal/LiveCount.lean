import AnglerHal.RequestIdentity

namespace AnglerHal.Hal3

/-!
# The counter of live requests

`mPendingLiveRequest` throttles the framework.  It is meant to be the number of
requests without an input buffer in `mPendingRequestsList`, but some operations
change the list without the counter.  `CountsLive` excludes exactly the steps
that lose such a request.
-/

/-- The number of live requests in a list. -/
def liveCount (requests : List PendingRequestInfo) : Nat :=
  requests.countP PendingRequestInfo.isLive

/-! ## When a step keeps the counter -/

/-- No request of the list is live. -/
def NoneLive (requests : List PendingRequestInfo) : Prop :=
  ∀ request ∈ requests, request.isLive = false

instance (requests : List PendingRequestInfo) : Decidable (NoneLive requests) :=
  inferInstanceAs (Decidable (∀ request ∈ requests, _))

/-- The requests that a recovery erases. -/
def recovered (tracker : Tracker) : List PendingRequestInfo :=
  tracker.mPendingRequestsList.take (openGroups tracker).items.length

/-- The requests that a recovery leaves. -/
def unrecovered (tracker : Tracker) : List PendingRequestInfo :=
  tracker.mPendingRequestsList.drop (openGroups tracker).items.length

/--
A call that passes its checks erases no live request in a sensor restart, and a
live request is registered outside a flush and accepted by its channels.
-/
def RequestCounted (env : RequestEnv) (request : CaptureRequest) (tracker : Tracker) : Prop :=
  match checkRequest env request tracker with
  | .fail _ _ => True
  | .proceed checked =>
    (restartsSensor request checked = true → NoneLive (recovered tracker)) ∧
    (request.isLive = true → (restartsSensor request checked = true ∧ env.startAllChannelsRc ≠ 0) ∨
      (tracker.mFlush = false ∧ ChannelsAccept request))

instance (env : RequestEnv) (request : CaptureRequest) (tracker : Tracker) :
    Decidable (RequestCounted env request tracker) :=
  match stage : checkRequest env request tracker with
  | .fail _ _ => isTrue (by simp [RequestCounted, stage])
  | .proceed checked =>
    decidable_of_iff ((restartsSensor request checked = true → NoneLive (recovered tracker)) ∧
        (request.isLive = true → (restartsSensor request checked = true ∧
            env.startAllChannelsRc ≠ 0) ∨
          (tracker.mFlush = false ∧ ChannelsAccept request)))
      (by simp [RequestCounted, stage])

/-- A metadata callback names no pending reprocess request. -/
def NamesLive (callback : MetadataCallback) (tracker : Tracker) : Prop :=
  ∀ entries ∈ callback.entries, ∀ request ∈ tracker.mPendingRequestsList, request.isLive = false →
      (entries.urgentFrameNumberValid = true → request.frameNumber ≠ entries.urgentFrameNumber) ∧
      (entries.frameNumberValid = true → request.frameNumber ≠ entries.frameNumber)

instance (callback : MetadataCallback) (tracker : Tracker) :
    Decidable (NamesLive callback tracker) :=
  inferInstanceAs (Decidable (∀ entries ∈ callback.entries, _))

/-- A black-level callback names no pending reprocess request. -/
def LevelsLive (frameNumber : Nat) (tracker : Tracker) : Prop :=
  ∀ request ∈ tracker.mPendingRequestsList,
    request.frameNumber = frameNumber → request.isLive = true

instance (frameNumber : Nat) (tracker : Tracker) : Decidable (LevelsLive frameNumber tracker) :=
  inferInstanceAs (Decidable (∀ request ∈ tracker.mPendingRequestsList, _))

/-- The steps that keep the counter of live requests. -/
def CountsLive (tracker : Tracker) (past : List TrackerEvent) (event : TrackerEvent) : Prop :=
  FramesIncrease past event ∧ match event with
    | .processCaptureRequest env request =>
      tracker.mPendingRequestsList.length < uintMax ∧ RequestCounted env request tracker
    | .metadata callback => NamesLive callback tracker
    | .blackLevel _ frameNumber => LevelsLive frameNumber tracker
    | .flushEnd => NoneLive (unrecovered tracker)
    | .configureStreams _ => NoneLive tracker.mPendingRequestsList
    | _ => True

instance (tracker : Tracker) (past : List TrackerEvent) (event : TrackerEvent) :
    Decidable (CountsLive tracker past event) :=
  match event with
  | .processCaptureRequest _ _ => inferInstanceAs (Decidable (_ ∧ _ ∧ _))
  | .metadata _ => inferInstanceAs (Decidable (_ ∧ NamesLive _ _))
  | .blackLevel _ _ => inferInstanceAs (Decidable (_ ∧ LevelsLive _ _))
  | .flushEnd => inferInstanceAs (Decidable (_ ∧ NoneLive _))
  | .configureStreams _ => inferInstanceAs (Decidable (_ ∧ NoneLive _))
  | .inputBuffer _ _ _ | .buffer _ _ _ | .flushBegin => inferInstanceAs (Decidable (_ ∧ True))

/-! ## Counting -/

@[simp]
theorem liveCount_append (earlier later : List PendingRequestInfo) :
    liveCount (earlier ++ later) = liveCount earlier + liveCount later :=
  List.countP_append

theorem liveCount_cons_of_live {request : PendingRequestInfo} (requests : List PendingRequestInfo)
    (live : request.isLive = true) :
    liveCount (request :: requests) = liveCount requests + 1 :=
  List.countP_cons_of_pos live

theorem liveCount_cons_of_reprocess {request : PendingRequestInfo}
    (requests : List PendingRequestInfo) (reprocess : request.isLive = false) :
    liveCount (request :: requests) = liveCount requests :=
  List.countP_cons_of_neg (by simp [reprocess])

variable {requests later before : List PendingRequestInfo} {frameNumber : Nat}
  {callback : MetadataCallback} {entries : MetadataEntries} {loop : PendingLoop}
  {tracker next : Tracker} {past : List TrackerEvent} {event : TrackerEvent}
  {emitted : List Output}

theorem NoneLive.liveCount_eq_zero (none : NoneLive requests) :
    liveCount requests = 0 := by
  rw [liveCount, List.countP_eq_zero]
  intro request member
  simp [none request member]

theorem liveCount_eraseP (reprocess :
      ∀ request ∈ requests, request.frameNumber = frameNumber → request.isLive = false) :
    liveCount (requests.eraseP fun other =>
        other.frameNumber == frameNumber) =
      liveCount requests := by
  apply countP_eraseP_of_not
  intro request member same
  exact reprocess request member (by simpa using same)

/-- Some counted requests less. -/
theorem ofNat_add_sub_ofNat (count fewer : Nat) :
    UInt32.ofNat (count + fewer) - UInt32.ofNat fewer =
      UInt32.ofNat count := by
  rw [UInt32.ofNat_add]
  simp

theorem ofNat_succ_sub_one (count : Nat) : UInt32.ofNat (count + 1) - 1 = UInt32.ofNat count :=
  ofNat_add_sub_ofNat count 1

/-! ## Metadata -/

/-- The counter and what it depends on, for a list split at an iterator. -/
structure CountedList (tracker : Tracker) (requests : List PendingRequestInfo) : Prop where
  count : tracker.mPendingLiveRequest = UInt32.ofNat (liveCount requests)
  reprocessUncounted : ∀ request ∈ requests, request.isLive = false → request.partialResultCnt = 0
  cacheReprocess : ∀ pending ∈ tracker.mPendingReprocessResultList, ∀ request ∈ requests,
        request.frameNumber = pending.frameNumber →
        request.isLive = false

/-- A due request that is not skipped is live, unless metadata names it. -/
theorem live_of_not_skip {request : PendingRequestInfo}
    (due : request.frameNumber ≤ frameNumber)
    (notSkipped : dueCase frameNumber request ≠ .skip)
    (unnamed : request.isLive = false → request.frameNumber ≠ frameNumber) :
    request.isLive = true := by
  by_contra notLive
  have reprocess : request.isLive = false := by
    simpa using notLive
  have different := unnamed reprocess
  have below : request.frameNumber < frameNumber := by
    omega
  have given : request.inputBuffer.isSome = true := by
    unfold PendingRequestInfo.isLive at reprocess
    cases input : request.inputBuffer with
    | none => simp [input] at reprocess
    | some buffer => rfl
  exact notSkipped (by simp [dueCase, below, given])

theorem CountedList.passDue {request : PendingRequestInfo}
    (counted : CountedList loop.tracker (loop.done ++ request :: later))
    (live : request.isLive = true) :
    CountedList (passDue callback entries request later loop).tracker
      ((passDue callback entries request later loop).done ++ later) := by
  have answeredLive : (answeredRequest callback entries loop request).isLive = true := by
    unfold PendingRequestInfo.isLive at live ⊢
    rw [answeredRequest_inputBuffer]
    exact live
  have members : ∀ other ∈ (Hal3.passDue callback entries request later loop).done ++ later,
        other ∈ loop.done ++ request :: later ∨
          other = answeredRequest callback entries loop request := by
    intro other member
    rw [passDue_done] at member
    split at member
    · left
      simp only [List.append_nil, List.mem_append] at member
      rcases member with inDone | inLater
      · simp [inDone]
      · simp [inLater]
    · simp only [List.append_assoc, List.mem_append, List.mem_singleton] at member
      rcases member with inDone | rfl | inLater
      · simp [inDone]
      · exact .inr rfl
      · simp [inLater]
  obtain ⟨map, drops, passed⟩ := passDue_tracker callback entries loop request later
  refine ⟨?_, ?_, ?_⟩
  · rw [passed, passDue_done]
    simp only
    rw [counted.count]
    split
    · rw [liveCount_append, liveCount_cons_of_live _ live, ← Nat.add_assoc, ofNat_succ_sub_one]
      simp
    · simp [liveCount_cons_of_live _ live, liveCount_cons_of_live _ answeredLive]
  · intro other member reprocess
    rcases members other member with old | rfl
    · exact counted.reprocessUncounted other old reprocess
    · simp [answeredLive] at reprocess
  · intro pending inCache other member same
    rw [passed] at inCache
    rcases members other member with old | rfl
    · exact counted.cacheReprocess pending inCache other old same
    · rw [answeredRequest_frameNumber] at same
      have contradiction := counted.cacheReprocess pending inCache request (by simp) same
      simp [live] at contradiction

theorem CountedList.drained {delayed : Nat} {loop next : PendingLoop}
    (counted : CountedList loop.tracker (loop.done ++ loop.rest))
    (drained : Drained delayed loop next) :
    CountedList next.tracker (next.done ++ next.rest) := by
  have fewer := drained.cache.subset
  obtain ⟨doneFewer, restFewer⟩ := drained.sublists
  have listFewer := (doneFewer.append restFewer).subset
  refine ⟨?_, ?_, ?_⟩
  · cases drained with
    | nothing => exact counted.count
    | orphan => exact counted.count
    | delivered requests found member parts =>
      simp only
      rw [parts.append, liveCount_eraseP]
      · exact counted.count
      · intro request inList same
        have inCache := List.mem_of_find?_eq_some found
        have named := List.find?_some found
        simp only [beq_iff_eq] at named
        exact counted.cacheReprocess _ inCache request inList (same.trans named.symm)
  · intro request member
    exact counted.reprocessUncounted request (listFewer member)
  · intro pending inCache request member
    exact counted.cacheReprocess pending (fewer inCache) request (listFewer member)

theorem CountedList.pendingLoop {rounds : Nat} {final : PendingLoop}
    (counted : CountedList loop.tracker (loop.done ++ loop.rest))
    (unnamed : ∀ request ∈ loop.rest, request.isLive = false →
        request.frameNumber ≠ entries.frameNumber)
    (ran : pendingLoop callback entries rounds loop = some final) :
    CountedList final.tracker (final.done ++ final.rest) := by
  have both : CountedList final.tracker (final.done ++ final.rest) ∧ ∀ request ∈ final.rest,
          request.isLive = false →
          request.frameNumber ≠ entries.frameNumber := by
    apply pendingLoop_rule (fun current =>
        CountedList current.tracker (current.done ++ current.rest) ∧ ∀ request ∈ current.rest,
            request.isLive = false →
            request.frameNumber ≠ entries.frameNumber)
      ?_ ?_ ⟨counted, unnamed⟩ ran
    · rintro current request later ⟨kept, others⟩ shape _ _
      rw [shape] at kept others
      refine ⟨?_, fun other member =>
        others other (List.mem_cons_of_mem _ member)⟩
      have same : (passSkipped entries request later current).done ++
              (passSkipped entries request later current).rest =
            current.done ++ request :: later := by
        simp [passSkipped]
      rw [same]
      exact ⟨kept.count, kept.reprocessUncounted, kept.cacheReprocess⟩
    · rintro current request later next ⟨kept, others⟩ shape due skip drained
      rw [shape] at kept others
      have live := live_of_not_skip due skip (others request (by simp))
      refine ⟨CountedList.drained (CountedList.passDue kept live) drained, ?_⟩
      intro other member
      obtain ⟨_, restFewer⟩ := drained.sublists
      exact others other (by
        have inLater := restFewer.subset member
        simp only [passDue_rest] at inLater
        simp [inLater])
  exact both.1

/-- Urgent metadata changes no reprocess request that it does not name. -/
theorem handleUrgent_reprocess {urgentFrameNumber : Nat} {request : PendingRequestInfo}
    (member : request ∈ (handleUrgent callback urgentFrameNumber requests).1)
    (reprocess : request.isLive = false)
    (unnamed : request.frameNumber ≠ urgentFrameNumber) :
    request ∈ requests := by
  induction requests with
  | nil => simp [handleUrgent] at member
  | cons first rest inductionHypothesis =>
    have counted := noteMissedUrgent_same first urgentFrameNumber
    have keptReprocess : (first.noteMissedUrgent urgentFrameNumber).isLive = false →
          first.noteMissedUrgent urgentFrameNumber = first := by
      intro notLive
      rw [counted.isLive] at notLive
      simp [PendingRequestInfo.noteMissedUrgent, notLive]
    unfold handleUrgent at member
    simp only at member
    split at member
    · rename_i named
      rcases List.mem_cons.mp member with rfl | inRest
      · refine absurd ?_ unnamed
        simpa using (Bool.and_eq_true_iff.mp named).1
      · exact List.mem_cons_of_mem _ inRest
    · rcases List.mem_cons.mp member with rfl | inRest
      · rw [keptReprocess reprocess]
        exact List.mem_cons_self
      · exact List.mem_cons_of_mem _ (inductionHypothesis inRest)

theorem handleUrgent_liveCount (callback : MetadataCallback) (urgentFrameNumber : Nat)
    (requests : List PendingRequestInfo) :
    liveCount (handleUrgent callback urgentFrameNumber requests).1 =
      liveCount requests := by
  induction requests with
  | nil => rfl
  | cons first rest inductionHypothesis =>
    have counted := (noteMissedUrgent_same first urgentFrameNumber).isLive
    simp only [liveCount] at inductionHypothesis ⊢
    unfold handleUrgent
    simp only
    split
    · have same : ({ first.noteMissedUrgent urgentFrameNumber with
              partialResultCnt :=
                (first.noteMissedUrgent urgentFrameNumber).partialResultCnt + 1
              bUrgentReceived := true } :
            PendingRequestInfo).isLive = first.isLive :=
        counted
      simp [List.countP_cons, same]
    · simp [List.countP_cons, counted, inductionHypothesis]

theorem CountedList.urgentPart
    (counted : CountedList tracker tracker.mPendingRequestsList)
    (unnamed : ∀ request ∈ tracker.mPendingRequestsList, request.isLive = false →
        entries.urgentFrameNumberValid = true →
        request.frameNumber ≠ entries.urgentFrameNumber) :
    CountedList (handleUrgentPart callback entries tracker).1 (handleUrgentPart callback entries
        tracker).1.mPendingRequestsList := by
  have descends := handleUrgentPart_descends callback entries tracker
  unfold handleUrgentPart at descends ⊢
  by_cases valid : entries.urgentFrameNumberValid = true
  · simp only [valid, if_true] at descends ⊢
    refine ⟨?_, ?_, ?_⟩
    · simp only [Tracker.setRequests_mPendingRequestsList, handleUrgent_liveCount]
      exact counted.count
    · intro request member reprocess
      obtain ⟨original, inList, same⟩ := descends request member
      have different : request.frameNumber ≠ entries.urgentFrameNumber := by
        rw [same.frameNumber]
        exact unnamed original inList (same.isLive ▸ reprocess) valid
      exact counted.reprocessUncounted request
        (handleUrgent_reprocess member reprocess different) reprocess
    · intro pending inCache request member frame
      obtain ⟨original, inList, same⟩ := descends request member
      rw [same.isLive]
      exact counted.cacheReprocess pending inCache original inList (same.frameNumber ▸ frame)
  · simp only [valid, Bool.false_eq_true, if_false]
    exact counted

theorem CountedList.deepenPipeline
    (counted : CountedList tracker tracker.mPendingRequestsList) :
    CountedList tracker.deepenPipeline
      tracker.deepenPipeline.mPendingRequestsList := by
  refine ⟨?_, ?_, ?_⟩
  · have same : liveCount tracker.deepenPipeline.mPendingRequestsList =
          liveCount tracker.mPendingRequestsList := by
      simp only [liveCount, Tracker.deepenPipeline,
        Tracker.setRequests_mPendingRequestsList, List.countP_map]
      rfl
    rw [same]
    exact counted.count
  · intro request member
    obtain ⟨original, inList, rfl⟩ := List.mem_map.mp member
    exact counted.reprocessUncounted original inList
  · intro pending inCache request member
    obtain ⟨original, inList, rfl⟩ := List.mem_map.mp member
    exact counted.cacheReprocess pending inCache original inList

theorem CountedList.metadata {callback : MetadataCallback} {tracker next : Tracker}
    {sent : List Output} (counted : CountedList tracker tracker.mPendingRequestsList)
    (names : NamesLive callback tracker)
    (handled : handleMetadataWithLock callback tracker = some (next, sent)) :
    CountedList next next.mPendingRequestsList := by
  rcases handleMetadataWithLock_cases handled with
    ⟨_, rfl, _⟩ | ⟨entries, given, parts⟩
  · exact counted.deepenPipeline
  · have named := names entries (by simp [given])
    have urgent : CountedList (handleUrgentPart callback entries tracker).1
          (handleUrgentPart callback entries tracker).1.mPendingRequestsList :=
      counted.urgentPart fun request member reprocess =>
        (named request member reprocess).1
    rcases parts with ⟨_, rfl, _⟩ | ⟨valid, final, ran, rfl, _⟩
    · exact urgent.deepenPipeline
    · have unnamed : ∀ request ∈ (handleUrgentPart callback entries tracker).1.mPendingRequestsList,
            request.isLive = false →
            request.frameNumber ≠ entries.frameNumber := by
        intro request member reprocess
        obtain ⟨original, inList, same⟩ :=
          handleUrgentPart_descends callback entries tracker request member
        rw [same.frameNumber]
        exact (named original inList (same.isLive ▸ reprocess)).2 valid
      have looped := CountedList.pendingLoop urgent unnamed ran
      apply CountedList.deepenPipeline
      exact ⟨looped.count, looped.reprocessUncounted, looped.cacheReprocess⟩

/-! ## The other operations -/

theorem CountedList.released_live {request : PendingRequestInfo}
    (counted : CountedList tracker (before ++ request :: later)) :
    liveCount (later.takeWhile isDeferred) = (later.takeWhile isDeferred).length := by
  rw [liveCount, List.countP_eq_length]
  intro deferred member
  by_contra notLive
  have inLater : deferred ∈ later := (List.takeWhile_sublist _).subset member
  have zero := counted.reprocessUncounted deferred (by simp [inLater]) (by simpa using notLive)
  have isDeferred := List.mem_takeWhile_imp member
  simp [Hal3.isDeferred, zero, partialResultCount] at isDeferred

theorem CountedList.blackLevel (blackLevel : Nat)
    (counted : CountedList tracker tracker.mPendingRequestsList)
    (levels : LevelsLive frameNumber tracker) :
    CountedList (sendDynamicBlackLevelWithLock blackLevel frameNumber tracker).1
      (sendDynamicBlackLevelWithLock blackLevel frameNumber tracker).1.mPendingRequestsList := by
  rcases sendDynamicBlackLevelWithLock_cases blackLevel frameNumber tracker
    with ⟨same, _⟩ | ⟨before, request, later, shape, _, named, _, outcome⟩
  · rw [same]
    exact counted
  · have live := levels request (by simp [shape]) named
    rw [shape] at counted
    rcases outcome with ⟨_, same⟩ | ⟨_, same⟩
    · rw [same]
      have split : liveCount later = (later.takeWhile isDeferred).length +
              liveCount (later.dropWhile isDeferred) := by
        rw [← counted.released_live, ← liveCount_append, List.takeWhile_append_dropWhile]
      have subset : before ++ later.dropWhile isDeferred ⊆ before ++ request :: later := by
        apply List.Sublist.subset
        exact (List.Sublist.refl before).append
          ((List.dropWhile_sublist _).trans (List.sublist_cons_self _ _))
      refine ⟨?_, ?_, ?_⟩
      · simp only [releaseDeferred, Tracker.setRequests]
        rw [counted.count, liveCount_append, liveCount_cons_of_live _ live, ← Nat.add_assoc,
          ofNat_succ_sub_one, split, Nat.add_comm (List.length _),
          ← Nat.add_assoc, ofNat_add_sub_ofNat, liveCount_append]
      · intro other member
        exact counted.reprocessUncounted other (subset member)
      · intro pending inCache other member
        exact counted.cacheReprocess pending inCache other (subset member)
    · rw [same]
      refine ⟨?_, ?_, ?_⟩
      · have updatedLive : ({ request with
                partialResultCnt := request.partialResultCnt + 1 } :
              PendingRequestInfo).isLive = true :=
          live
        simp only [Tracker.setRequests, liveCount_append, liveCount_cons_of_live _ updatedLive]
        rw [counted.count, liveCount_append, liveCount_cons_of_live _ live]
      · intro other member reprocess
        simp only [Tracker.setRequests_mPendingRequestsList,
          List.mem_append, List.mem_cons] at member
        rcases member with inBefore | rfl | inLater
        · exact counted.reprocessUncounted other (by simp [inBefore]) reprocess
        · have notLive : request.isLive = false := reprocess
          simp [live] at notLive
        · exact counted.reprocessUncounted other (by simp [inLater]) reprocess
      · intro pending inCache other member frame
        simp only [Tracker.setRequests_mPendingRequestsList,
          List.mem_append, List.mem_cons] at member
        rcases member with inBefore | rfl | inLater
        · exact counted.cacheReprocess pending inCache other (by simp [inBefore]) frame
        · exact counted.cacheReprocess pending inCache request (by simp) frame
        · exact counted.cacheReprocess pending inCache other (by simp [inLater]) frame

theorem CountedList.buffer {now : Int} {buffer : Camera3StreamBuffer}
    {frameNumber : Nat} {tracker : Tracker} {result : Tracker × List Output}
    (counted : CountedList tracker tracker.mPendingRequestsList)
    (ordered : Ordered tracker.mPendingRequestsList)
    (outcome : BufferOutcome now buffer frameNumber tracker result) :
    result.1.mPendingLiveRequest = UInt32.ofNat (liveCount result.1.mPendingRequestsList) ∧
      ∀ request ∈ result.1.mPendingRequestsList,
        request.isLive = false → request.partialResultCnt = 0 := by
  cases outcome with
  | sent =>
    obtain ⟨map, drops, same⟩ := sendBuffer_tracker buffer frameNumber tracker
    rw [same]
    exact ⟨counted.count, counted.reprocessUncounted⟩
  | cached => exact ⟨counted.count, counted.reprocessUncounted⟩
  | @closed request found waits reprocess oldest =>
    refine ⟨?_, fun other member => counted.reprocessUncounted other (List.eraseP_subset member)⟩
    simp only [Tracker.setRequests]
    rw [liveCount_eraseP]
    · exact counted.count
    · intro other member same
      rw [ordered.eq_of_found found member same]
      exact request.isLive_of_inputBuffer reprocess
  | @kept request found waits live =>
    have named := frame_of_found found
    obtain ⟨before, later, shape, replaced⟩ :=
      updateRequest_found found (show (request.keepBuffer buffer).frameNumber = frameNumber
          from named)
    have isLive : request.isLive = true := by
      simp [PendingRequestInfo.isLive, live]
    have keptLive : (request.keepBuffer buffer).isLive = true := isLive
    rw [shape] at counted
    simp only [Tracker.setRequests_mPendingRequestsList, replaced]
    refine ⟨?_, ?_⟩
    · rw [liveCount_append, liveCount_cons_of_live _ keptLive,
        ← liveCount_cons_of_live later isLive, ← liveCount_append]
      exact counted.count
    · intro other member reprocess
      simp only [List.mem_append, List.mem_cons] at member
      rcases member with inBefore | rfl | inLater
      · exact counted.reprocessUncounted other (by simp [inBefore]) reprocess
      · simp [keptLive] at reprocess
      · exact counted.reprocessUncounted other (by simp [inLater]) reprocess

/-! ## The counter along runs -/

/-- The counter is right, and the first request may reset it. -/
structure CountedNow (tracker : Tracker) : Prop where
  count : tracker.mPendingLiveRequest = UInt32.ofNat (liveCount tracker.mPendingRequestsList)
  reprocessUncounted : ∀ request ∈ tracker.mPendingRequestsList,
      request.isLive = false → request.partialResultCnt = 0
  first : tracker.mFirstRequest = true → NoneLive tracker.mPendingRequestsList

/-- The counter is right, and what keeps it right. -/
structure Counted (tracker : Tracker) (past : List TrackerEvent) : Prop where
  tracked : Tracked tracker past
  now : CountedNow tracker
  few : tracker.mPendingRequestsList.length ≤ uintMax

theorem Counted.list (counted : Counted tracker past) :
    CountedList tracker tracker.mPendingRequestsList :=
  ⟨counted.now.count, counted.now.reprocessUncounted, counted.tracked.cacheReprocess⟩

theorem Counted.of_fresh (fresh : tracker.Fresh) : Counted tracker [] where
  tracked := .of_fresh fresh
  now := {
    count := by
      rw [fresh.requests, fresh.liveRequests]
      rfl
    reprocessUncounted := by simp [fresh.requests]
    first := by simp [fresh.requests, NoneLive] }
  few := by simp [fresh.requests]

theorem Counted.toNat (counted : Counted tracker past) :
    tracker.mPendingLiveRequest.toNat = liveCount tracker.mPendingRequestsList := by
  have below : liveCount tracker.mPendingRequestsList < 4294967296 := by
    have atMost : liveCount tracker.mPendingRequestsList ≤
          tracker.mPendingRequestsList.length :=
      List.countP_le_length
    have few := counted.few
    unfold uintMax at few
    omega
  rw [counted.now.count]
  simpa using below

theorem CountedNow.checked (counted : CountedNow tracker)
    (checked : Checked tracker next) :
    CountedNow next := by
  refine ⟨?_, ?_, ?_⟩
  · rw [checked.requests]
    rcases checked.liveRequests with same | ⟨first, reset⟩
    · rw [same]
      exact counted.count
    · rw [reset, (counted.first first).liveCount_eq_zero]
      rfl
  · rw [checked.requests]
    exact counted.reprocessUncounted
  · rw [checked.requests, checked.firstRequest]
    exact counted.first

theorem CountedNow.afterErrors (counted : CountedNow tracker)
    (erased : NoneLive (recovered tracker)) :
    CountedNow (afterErrors tracker) := by
  have fewer := (afterErrors_sublist tracker).subset
  refine ⟨?_, ?_, ?_⟩
  · have split : liveCount tracker.mPendingRequestsList = liveCount (recovered tracker) +
            liveCount (unrecovered tracker) := by
      rw [← liveCount_append]
      unfold recovered unrecovered
      rw [List.take_append_drop]
    have same : tracker.mPendingLiveRequest = UInt32.ofNat (liveCount (unrecovered tracker)) := by
      rw [counted.count, split, erased.liveCount_eq_zero, Nat.zero_add]
    exact same
  · intro request member
    exact counted.reprocessUncounted request (fewer member)
  · intro first request member
    exact counted.first first request (fewer member)

theorem CountedNow.accept (env : RequestEnv) {request : CaptureRequest} {prepared : Tracker}
    (counted : CountedNow prepared)
    (completes : request.isLive = true → prepared.mFlush = false ∧ ChannelsAccept request) :
    CountedNow (acceptRequest env request prepared).1 := by
  have accepted := acceptRequest_accepted env request prepared
  obtain ⟨flags, listed⟩ := accepted.requests
  have entryLive : (newEntry request prepared flags).isLive = request.isLive := rfl
  refine ⟨?_, ?_, ?_⟩
  · rw [accepted.liveRequests, listed, liveCount_append, counted.count]
    by_cases live : request.isLive = true
    · have reaches : Completes env request prepared :=
        ⟨(completes live).1, (completes live).2, .inl live⟩
      rw [if_pos ⟨reaches, live⟩, liveCount_cons_of_live _ (entryLive.trans live)]
      simp [liveCount, UInt32.ofNat_add]
    · have reprocess : request.isLive = false := by
        simpa using live
      rw [if_neg (fun both => live both.2),
        liveCount_cons_of_reprocess _ (entryLive.trans reprocess)]
      simp [liveCount]
  · intro other member reprocess
    rw [listed, List.mem_append, List.mem_singleton] at member
    rcases member with old | rfl
    · exact counted.reprocessUncounted other old reprocess
    · rfl
  · intro first other member
    rw [accepted.firstRequest] at first
    split at first
    · contradiction
    · rename_i incomplete
      rw [listed, List.mem_append, List.mem_singleton] at member
      rcases member with old | rfl
      · exact counted.first first other old
      · rw [entryLive]
        by_contra live
        have isLive : request.isLive = true := by
          simpa using live
        exact incomplete ⟨(completes isLive).1, (completes isLive).2, .inl isLive⟩

theorem CountedNow.request {env : RequestEnv} {request : CaptureRequest}
    {tracker next : Tracker} {rc : Int} {sent : List Output}
    (counted : CountedNow tracker) (condition : RequestCounted env request tracker)
    (outcome : RequestOutcome env request tracker next rc sent) :
    CountedNow next := by
  unfold RequestCounted at condition
  have sameRecovered : ∀ checked, Checked tracker checked →
        recovered checked = recovered tracker := by
    intro checked same
    unfold recovered openGroups
    rw [same.requests, same.buffersMap]
  cases outcome with
  | rejected stage => exact counted.checked (Checked.of_fail stage)
  | notRestarted stage restarts enough failed =>
    have same := Checked.of_proceed stage
    simp only [stage] at condition
    apply CountedNow.afterErrors (counted.checked same)
    rw [sameRecovered _ same]
    exact condition.1 restarts
  | @restarted checked stage restarts enough started =>
    have same := Checked.of_proceed stage
    simp only [stage] at condition
    have notified : CountedNow (Hal3.afterErrors checked) := by
      apply CountedNow.afterErrors (counted.checked same)
      rw [sameRecovered _ same]
      exact condition.1 restarts
    refine CountedNow.accept env ⟨notified.count, notified.reprocessUncounted, notified.first⟩ ?_
    intro live
    rcases condition.2 live with ⟨_, failed⟩ | ⟨notFlushing, accept⟩
    · exact absurd started failed
    · exact ⟨same.flushing.trans notFlushing, accept⟩
  | registered stage goesOn =>
    have same := Checked.of_proceed stage
    simp only [stage] at condition
    refine CountedNow.accept env (counted.checked same) ?_
    intro live
    rcases condition.2 live with ⟨restarts, _⟩ | ⟨notFlushing, accept⟩
    · simp [goesOn] at restarts
    · exact ⟨same.flushing.trans notFlushing, accept⟩

theorem NoneLive.descends {after : List PendingRequestInfo} (none : NoneLive before)
    (descends : Descends before after) :
    NoneLive after := by
  intro request member
  obtain ⟨original, inList, same⟩ := descends request member
  rw [same.isLive]
  exact none original inList

theorem Counted.stepNow (counted : Counted tracker past)
    (condition : CountsLive tracker past event)
    (stepped : Stepped tracker event next emitted) :
    CountedNow next := by
  obtain ⟨_, condition⟩ := condition
  have ordered := counted.tracked.inOrder.ordered
  cases stepped with
  | request outcome => exact counted.now.request condition.2 outcome
  | @metadata callback _ _ handled =>
    have list := counted.list.metadata condition handled
    refine ⟨list.count, list.reprocessUncounted, ?_⟩
    intro first
    rw [(handleMetadataWithLock_leaves handled).firstRequest] at first
    exact (counted.now.first first).descends (handleMetadataWithLock_descends handled)
  | blackLevel blackLevel frameNumber =>
    have list := counted.list.blackLevel blackLevel condition
    refine ⟨list.count, list.reprocessUncounted, ?_⟩
    intro first
    rw [(sendDynamicBlackLevelWithLock_leaves _ _ tracker).firstRequest] at first
    exact (counted.now.first first).descends
      (sendDynamicBlackLevelWithLock_descends blackLevel frameNumber tracker)
  | ignoredInput => exact counted.now
  | @inputBuffer now buffer frameNumber request map sent found reprocess =>
    refine ⟨?_, ?_, ?_⟩
    · have same : liveCount (tracker.mPendingRequestsList.eraseP fun other =>
              other.frameNumber == frameNumber) =
            liveCount tracker.mPendingRequestsList := by
        apply liveCount_eraseP
        intro other member frame
        rw [ordered.eq_of_found found member frame]
        exact request.isLive_of_inputBuffer reprocess
      simp only [Tracker.setRequests, same]
      exact counted.now.count
    · intro other member
      exact counted.now.reprocessUncounted other (List.eraseP_subset member)
    · intro first other member
      exact counted.now.first first other (List.eraseP_subset member)
  | @buffer now buffer frameNumber result outcome =>
    obtain ⟨count, reprocess⟩ := counted.list.buffer ordered outcome
    refine ⟨count, reprocess, ?_⟩
    intro first
    rw [outcome.leaves.firstRequest] at first
    exact (counted.now.first first).descends outcome.descends
  | flushBegin =>
    unfold Hal3.flushBegin
    split
    · exact counted.now
    · exact ⟨counted.now.count, counted.now.reprocessUncounted, counted.now.first⟩
  | flushEnd enough =>
    have left : NoneLive (unrecovered tracker) := condition
    have fewer := (afterErrors_sublist { tracker with mPendingLiveRequest := 0 }).subset
    refine ⟨?_, ?_, ?_⟩
    · have zero := left.liveCount_eq_zero
      have none : (0 : UInt32) = UInt32.ofNat (liveCount (unrecovered tracker)) := by
        rw [zero]
        rfl
      exact none
    · intro other member
      exact counted.now.reprocessUncounted other (fewer member)
    · intro first other member
      exact counted.now.first first other (fewer member)
  | configureStreams =>
    have none : NoneLive tracker.mPendingRequestsList := condition
    refine ⟨?_, by simp [Hal3.configureStreams], by
      simp [Hal3.configureStreams, NoneLive]⟩
    have zero := none.liveCount_eq_zero
    have count := counted.now.count
    rw [zero] at count
    exact count

theorem Counted.step (counted : Counted tracker past)
    (condition : CountsLive tracker past event)
    (stepped : Stepped tracker event next emitted) :
    Counted next (past ++ [event]) := by
  refine ⟨counted.tracked.step condition.1 stepped, counted.stepNow condition stepped, ?_⟩
  have lengths := stepped.frames.length_le
  simp only [requestFrames, List.length_append, List.length_map] at lengths
  have few := counted.few
  cases event with
  | processCaptureRequest env request =>
    have room := condition.2.1
    simp [requestedFrames] at lengths
    omega
  | _ =>
    simp [requestedFrames] at lengths
    omega

/--
In every state reached by steps that keep the counter, it is the number of
pending requests without an input buffer.
-/
theorem trackerRun_liveRequests {start final : Tracker} {events : List TrackerEvent}
    {log : List Output} (fresh : start.Fresh)
    (conditions : LabelledRun.Guarded trackerStep CountsLive start [] events)
    (ran : trackerRun start events = some (final, log)) :
    final.mPendingLiveRequest.toNat = liveCount final.mPendingRequestsList := by
  have counted : Counted final ([] ++ events) :=
    LabelledRun.invariant_of_guarded (fun current past _ => Counted current past)
      [] conditions ran (.of_fresh fresh)
      (fun kept condition step =>
        kept.step condition (trackerStep_stepped step))
  exact counted.toNat

/-- A live request is counted while a reprocess request waits behind it. -/
theorem trackerRun_liveRequests_mixed : ∃ final log, trackerRun (opened true false)
          [liveEvent 1, reprocessEvent 2, liveEvent 3, urgentEvent 1, normalEvent 1] =
          some (final, log) ∧
        final.mPendingLiveRequest.toNat = liveCount final.mPendingRequestsList :=
  ⟨_, _, rfl, @trackerRun_liveRequests (opened true false) _
    [liveEvent 1, reprocessEvent 2, liveEvent 3, urgentEvent 1, normalEvent 1] _
    (opened_fresh true false) (by decide) rfl⟩

/-- A new configuration empties the list but not the counter. -/
theorem trackerRun_liveRequests_configureStreams : ∃ final log, trackerRun (opened true false)
          [liveEvent 1, liveEvent 2, .configureStreams false] =
          some (final, log) ∧
        final.mPendingLiveRequest.toNat = 2 ∧
        liveCount final.mPendingRequestsList = 0 :=
  ⟨_, _, rfl, by decide, by decide⟩

end AnglerHal.Hal3
