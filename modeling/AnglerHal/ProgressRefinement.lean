import AnglerHal.LiveCount
import AnglerHal.PendingLoopResult
import AnglerHal.ProgressOrder
import AnglerHal.ResultLog

namespace AnglerHal.Hal3

/-!
# The tracker refines the counting of partial results

Seen through its live requests, the tracker takes the steps of the machine in
`ProgressModel`.  A metadata callback is an urgent metadata, a normal one or
both; buffer callbacks are no steps at all.  The one difference is the black
level: the code stops releasing deferred requests at the first entry that is
not deferred, and that entry may be a reprocess request.
-/

/-! ## Projections -/

/-- What counts of a live request. -/
@[simps]
def PendingRequestInfo.progress (request : PendingRequestInfo) : Progress.Entry where
  frame := request.frameNumber
  raw := request.needDynamicBlklvl
  count := request.partialResultCnt
  urgent := request.bUrgentReceived
  answered := request.pendingExtraResult

/-- The live requests of a list. -/
def liveEntries (requests : List PendingRequestInfo) : List Progress.Entry :=
  (requests.filter PendingRequestInfo.isLive).map PendingRequestInfo.progress

@[simp]
theorem liveEntries_nil : liveEntries [] = [] :=
  rfl

@[simp]
theorem liveEntries_append (earlier later : List PendingRequestInfo) :
    liveEntries (earlier ++ later) = liveEntries earlier ++ liveEntries later := by
  simp [liveEntries]

variable {request : PendingRequestInfo} {requests later : List PendingRequestInfo}
  {frameNumber : Nat} {entries : MetadataEntries} {live : List Nat}
  {start : List Progress.Entry} {loop : PendingLoop} {callback : MetadataCallback}
  {tracker : Tracker}

theorem liveEntries_cons_of_live (live : request.isLive = true)
    (later : List PendingRequestInfo) :
    liveEntries (request :: later) = request.progress :: liveEntries later := by
  simp [liveEntries, live]

theorem liveEntries_cons_of_reprocess (reprocess : request.isLive = false)
    (later : List PendingRequestInfo) :
    liveEntries (request :: later) = liveEntries later := by
  simp [liveEntries, reprocess]

/-- An entry comes from a live request. -/
theorem mem_liveEntries {entry : Progress.Entry} :
    entry ∈ liveEntries requests ↔ ∃ request ∈ requests,
        request.isLive = true ∧ request.progress = entry := by
  simp [liveEntries, and_assoc]

/-- Erasing a reprocess request leaves the live ones. -/
theorem liveEntries_eraseP {erased : PendingRequestInfo → Bool}
    (reprocess : ∀ request ∈ requests, erased request = true → request.isLive = false) :
    liveEntries (requests.eraseP erased) = liveEntries requests := by
  induction requests with
  | nil => rfl
  | cons request rest inductionHypothesis =>
    by_cases here : erased request = true
    · rw [List.eraseP_cons_of_pos here,
        liveEntries_cons_of_reprocess (reprocess request (by simp) here)]
    · have tail := inductionHypothesis fun other member =>
          reprocess other (List.mem_cons_of_mem _ member)
      rw [List.eraseP_cons_of_neg here]
      cases live : request.isLive with
      | true => rw [liveEntries_cons_of_live live, liveEntries_cons_of_live live, tail]
      | false => rw [liveEntries_cons_of_reprocess live, liveEntries_cons_of_reprocess live, tail]

/-- Live requests in frame order give entries in frame order. -/
theorem Ordered.liveEntries (ordered : Ordered requests) :
    Progress.Ordered (Hal3.liveEntries requests) := by
  unfold Progress.Ordered Hal3.liveEntries
  rw [List.pairwise_map]
  exact List.Pairwise.filter _ ordered

/-! ## Events and history -/

/-- What the counting sees of an event. -/
def progressEvents (opticalBlackRegion : Bool) : TrackerEvent → List Progress.Event
  | .processCaptureRequest _ request =>
    if request.isLive then
      [.request request.frameNumber (opticalBlackRegion && request.outputs.any fun output =>
            output.buffer.stream.format == .raw16)]
    else
      []
  | .metadata callback =>
    match callback.entries with
    | none => []
    | some entries =>
      (if entries.urgentFrameNumberValid then
          [.urgent entries.urgentFrameNumber]
        else []) ++
        if entries.frameNumberValid then
          [.normal entries.frameNumber]
        else []
  | .blackLevel _ frameNumber => [.level frameNumber]
  | _ => []

/-- What the counting has seen of some events. -/
def progressHistory (opticalBlackRegion : Bool)
    (events : List TrackerEvent) : List Progress.Event :=
  events.flatMap (progressEvents opticalBlackRegion)

@[simp]
theorem progressHistory_append (opticalBlackRegion : Bool) (earlier later : List TrackerEvent) :
    progressHistory opticalBlackRegion (earlier ++ later) =
      progressHistory opticalBlackRegion earlier ++
        progressHistory opticalBlackRegion later :=
  List.flatMap_append

@[simp]
theorem progressHistory_singleton (opticalBlackRegion : Bool) (event : TrackerEvent) :
    progressHistory opticalBlackRegion [event] =
      progressEvents opticalBlackRegion event := by
  simp [progressHistory]

/-- The frame numbers of the live requests among some events. -/
def liveFrames (events : List TrackerEvent) : List Nat :=
  events.filterMap fun event =>
    match event with
    | .processCaptureRequest _ request => if request.isLive then some request.frameNumber else none
    | _ => none

@[simp]
theorem liveFrames_append (earlier later : List TrackerEvent) : liveFrames (earlier ++ later) =
      liveFrames earlier ++ liveFrames later :=
  List.filterMap_append

/-- The partial results of live requests. -/
def livePartials (live : List Nat) (sent : List Output) : List (Nat × Nat) :=
  (partialResults sent).filter fun result => decide (result.1 ∈ live)

@[simp]
theorem livePartials_append (live : List Nat) (earlier later : List Output) :
    livePartials live (earlier ++ later) =
      livePartials live earlier ++ livePartials live later := by
  simp [livePartials]

/-! ## Urgent metadata -/

theorem liveEntries_noteUrgent_of_above
    (above : ∀ request ∈ requests, frameNumber < request.frameNumber) :
    (liveEntries requests).map (Progress.Entry.noteUrgent frameNumber) = liveEntries requests ∧
      (liveEntries requests).filterMap (Progress.Entry.urgentPartial frameNumber) = [] := by
  have apart : ∀ entry ∈ liveEntries requests, frameNumber < entry.frame := by
    intro entry member
    obtain ⟨request, inList, _, rfl⟩ := mem_liveEntries.mp member
    exact above request inList
  refine ⟨?_, ?_⟩
  · conv_rhs => rw [← List.map_id (liveEntries requests)]
    apply List.map_congr_left
    intro entry member
    have below := apart entry member
    simp [Progress.Entry.noteUrgent, Nat.not_lt_of_lt below, Nat.ne_of_gt below]
  · rw [List.filterMap_eq_nil_iff]
    intro entry member
    have below := apart entry member
    simp [Progress.Entry.urgentPartial, Nat.ne_of_gt below]

theorem noteMissedUrgent_progress (live : request.isLive = true)
    (other : ¬ (request.frameNumber = frameNumber ∧ request.bUrgentReceived = false)) :
    (request.noteMissedUrgent frameNumber).progress = request.progress.noteUrgent frameNumber ∧
      request.progress.urgentPartial frameNumber = none := by
  refine ⟨?_, ?_⟩
  · unfold PendingRequestInfo.noteMissedUrgent Progress.Entry.noteUrgent
    by_cases below : request.frameNumber < frameNumber
    · by_cases zero : request.partialResultCnt = 0
      · simp [PendingRequestInfo.progress, live, below, zero]
      · simp [PendingRequestInfo.progress, below, zero]
    · simp only [PendingRequestInfo.progress, below, decide_false,
        Bool.and_false, Bool.false_and, Bool.false_eq_true, if_false]
      exact (if_neg other).symm
  · unfold Progress.Entry.urgentPartial
    exact if_neg other

theorem handleUrgent_progress (callback : MetadataCallback) (ordered : Ordered requests)
    (named : ∀ request ∈ requests, request.frameNumber = frameNumber → request.isLive = true) :
    liveEntries (handleUrgent callback frameNumber requests).1 = (liveEntries requests).map
          (Progress.Entry.noteUrgent frameNumber) ∧
      partialResults (handleUrgent callback frameNumber requests).2 =
        (liveEntries requests).filterMap (Progress.Entry.urgentPartial frameNumber) ∧
      ∀ code, errorFrames code (handleUrgent callback frameNumber requests).2 = [] := by
  induction requests with
  | nil => exact ⟨rfl, rfl, fun _ => rfl⟩
  | cons request rest inductionHypothesis =>
    obtain ⟨behind, restOrdered⟩ := List.pairwise_cons.mp ordered
    obtain ⟨tail, tailSent, tailErrors⟩ :=
      inductionHypothesis restOrdered fun other member =>
        named other (List.mem_cons_of_mem _ member)
    by_cases here : request.frameNumber = frameNumber ∧ request.bUrgentReceived = false
    · -- the loop ends here; what follows is newer
      obtain ⟨own, waits⟩ := here
      have live := named request (by simp) own
      have kept : request.noteMissedUrgent frameNumber = request := by
        simp [PendingRequestInfo.noteMissedUrgent, own]
      obtain ⟨restSame, restSilent⟩ :=
        liveEntries_noteUrgent_of_above fun other member =>
          own ▸ behind other member
      simp only [handleUrgent, kept, own, waits, beq_self_eq_true,
        Bool.not_false, Bool.and_self, if_true]
      refine ⟨?_, ?_, fun _ => rfl⟩
      · rw [liveEntries_cons_of_live live, List.map_cons, restSame]
        rw [liveEntries_cons_of_live (by exact live)]
        simp [PendingRequestInfo.progress, Progress.Entry.noteUrgent, own, waits]
      · rw [liveEntries_cons_of_live live, List.filterMap_cons, restSilent]
        simp [PendingRequestInfo.progress, partialResults, urgentResult,
          Progress.Entry.urgentPartial, own, waits]
    · have same := noteMissedUrgent_same request frameNumber
      have goesOn : ((request.noteMissedUrgent frameNumber).frameNumber == frameNumber &&
            !(request.noteMissedUrgent frameNumber).bUrgentReceived) =
            false := by
        have received : (request.noteMissedUrgent frameNumber).bUrgentReceived =
              request.bUrgentReceived := by
          unfold PendingRequestInfo.noteMissedUrgent
          split <;> rfl
        rw [same.frameNumber, received]
        by_contra stops
        simp only [Bool.not_eq_false, Bool.and_eq_true, beq_iff_eq, Bool.not_eq_true'] at stops
        exact here stops
      simp only [handleUrgent, goesOn, Bool.false_eq_true, if_false]
      cases live : request.isLive with
      | true =>
        obtain ⟨counted, silent⟩ := noteMissedUrgent_progress live here
        rw [liveEntries_cons_of_live (same.isLive.trans live),
          liveEntries_cons_of_live live, List.map_cons,
          List.filterMap_cons, counted, silent, tail]
        exact ⟨rfl, tailSent, tailErrors⟩
      | false =>
        rw [liveEntries_cons_of_reprocess (same.isLive.trans live),
          liveEntries_cons_of_reprocess live]
        exact ⟨tail, tailSent, tailErrors⟩

/-! ## Normal metadata -/

theorem rawUnfinished_eq_blocked (frameNumber : Nat) (requests : List PendingRequestInfo) :
    rawUnfinished frameNumber requests = Progress.blocked frameNumber (liveEntries requests) := by
  unfold rawUnfinished Progress.blocked liveEntries
  rw [List.any_map, List.any_filter]
  congr 1
  funext request
  cases live : request.isLive <;> cases raw : request.needDynamicBlklvl <;>
    simp [isUnfinishedRaw, live, raw]

theorem progress_of_skip (isBlocked : Bool) (live : request.isLive = true)
    (skip : dueCase frameNumber request = .skip) :
    request.progress.noteNormal frameNumber isBlocked = some request.progress ∧
      request.progress.normalPartial frameNumber isBlocked = none ∧
      request.progress.normalError frameNumber = none := by
  have given : request.inputBuffer.isSome = false := by
    unfold PendingRequestInfo.isLive at live
    cases input : request.inputBuffer with
    | none => rfl
    | some buffer => simp [input] at live
  have below : request.frameNumber < frameNumber := by
    by_contra notBelow
    simp [dueCase, notBelow] at skip
  have notMissed : request.progress.missed frameNumber = false := by
    simp only [dueCase, below, if_true, given, Bool.false_eq_true, if_false] at skip
    simp only [Progress.Entry.missed, PendingRequestInfo.progress]
    cases raw : request.needDynamicBlklvl with
    | true => simp
    | false =>
      cases answered : request.pendingExtraResult with
      | true => simp
      | false => simp [raw, answered] at skip
  have apart : request.frameNumber ≠ frameNumber := Nat.ne_of_lt below
  simp [Progress.Entry.noteNormal, Progress.Entry.normalPartial,
    Progress.Entry.normalError, notMissed, apart]

theorem progress_of_due (live : request.isLive = true)
    (due : request.frameNumber ≤ frameNumber)
    (notSkipped : dueCase frameNumber request ≠ .skip) :
    (dueCase frameNumber request = .missed ∧ request.progress.missed frameNumber = true) ∨
      (dueCase frameNumber request = .current ∧ request.progress.missed frameNumber = false ∧
        request.frameNumber = frameNumber) := by
  have given : request.inputBuffer.isSome = false := by
    unfold PendingRequestInfo.isLive at live
    cases input : request.inputBuffer with
    | none => rfl
    | some buffer => simp [input] at live
  by_cases below : request.frameNumber < frameNumber
  · left
    simp only [dueCase, below, if_true, given, Bool.false_eq_true, if_false] at notSkipped ⊢
    cases raw : request.needDynamicBlklvl with
    | true => simp [raw] at notSkipped
    | false =>
      cases answered : request.pendingExtraResult with
      | true => simp [raw, answered] at notSkipped
      | false => simp [Progress.Entry.missed, PendingRequestInfo.progress, below, raw, answered]
  · right
    refine ⟨by simp [dueCase, below], ?_, by omega⟩
    simp [Progress.Entry.missed, PendingRequestInfo.progress, below]

theorem countCurrent_progress (isBlocked : Bool) (request : PendingRequestInfo) :
    countCurrent isBlocked request =
      request.progress.normalCount isBlocked := by
  cases raw : request.needDynamicBlklvl <;> cases isBlocked <;>
    simp [countCurrent, Progress.Entry.normalCount, raw]

theorem progress_answeredRequest {callback : MetadataCallback}
    {entries : MetadataEntries} {loop : PendingLoop} {isBlocked : Bool}
    {request : PendingRequestInfo} (live : request.isLive = true)
    (due : request.frameNumber ≤ entries.frameNumber)
    (notSkipped : dueCase entries.frameNumber request ≠ .skip)
    (counts : dueCount entries.frameNumber loop.unfinishedRawRequest request =
        dueCount entries.frameNumber isBlocked request) :
    request.progress.noteNormal entries.frameNumber isBlocked =
        (if dueCount entries.frameNumber isBlocked request = partialResultCount then none
          else
            some (answeredRequest callback entries loop request).progress) ∧
      request.progress.normalPartial entries.frameNumber isBlocked = some (request.frameNumber,
          dueCount entries.frameNumber isBlocked request) ∧
      request.progress.normalError entries.frameNumber =
        (if dueCase entries.frameNumber request = .missed then
          some request.frameNumber else none) := by
  obtain ⟨timestamp, buffers, shape⟩ := answeredRequest_shape callback entries loop request
  rcases progress_of_due live due notSkipped with
    ⟨missed, entryMissed⟩ | ⟨current, notMissed, own⟩
  · have final : dueCount entries.frameNumber isBlocked request =
          partialResultCount := by
      simp [dueCount, missed]
    rw [final]
    simp [Progress.Entry.noteNormal, Progress.Entry.normalPartial,
      Progress.Entry.normalError, entryMissed, missed,
      partialResultCount, Progress.finalCount]
  · have counted : dueCount entries.frameNumber isBlocked request =
          request.progress.normalCount isBlocked := by
      rw [← countCurrent_progress]
      simp [dueCount, current]
    refine ⟨?_, ?_, ?_⟩
    · have kept : (answeredRequest callback entries loop request).progress = { request.progress with
                count := request.progress.normalCount isBlocked
                answered := true } := by
        rw [shape, counts, counted]
        rfl
      rw [kept, counted]
      simp [Progress.Entry.noteNormal, notMissed, own, partialResultCount, Progress.finalCount]
    · simp [Progress.Entry.normalPartial, notMissed, own, counted]
    · simp [Progress.Entry.normalError, notMissed, current]

/-- Reported drops are no results and no result errors. -/
theorem reportFrameDrops_log (entries : MetadataEntries) (request : PendingRequestInfo)
    (tracker : Tracker) :
    partialResults (reportFrameDrops entries request tracker).2 = [] ∧ errorFrames .result
        (reportFrameDrops entries request tracker).2 = [] := by
  unfold reportFrameDrops partialResults errorFrames
  simp only [List.filterMap_map, List.filterMap_eq_nil_iff]
  exact ⟨fun _ _ => rfl, fun _ _ => rfl⟩

/-- What answering a request adds to the log. -/
theorem passDue_log (callback : MetadataCallback) (entries : MetadataEntries) (loop : PendingLoop)
    (request : PendingRequestInfo)
    (later : List PendingRequestInfo) :
    partialResults (passDue callback entries request later loop).outputs =
        partialResults loop.outputs ++ [(request.frameNumber,
            dueCount entries.frameNumber loop.unfinishedRawRequest request)] ∧
      errorFrames .result (passDue callback entries request later loop).outputs =
        errorFrames .result loop.outputs ++ if dueCase entries.frameNumber request = .missed then
            [request.frameNumber]
          else [] := by
  obtain ⟨noPartials, noErrors⟩ := reportFrameDrops_log entries request loop.tracker
  have sent : partialResults (handleDueRequest callback entries loop.unfinishedRawRequest
            request).2.2 = [] ∧
        errorFrames .result (handleDueRequest callback entries loop.unfinishedRawRequest
              request).2.2 =
          if dueCase entries.frameNumber request = .missed then
            [request.frameNumber]
          else [] := by
    unfold handleDueRequest
    by_cases missed : dueCase entries.frameNumber request = .missed
    · simp [missed, handleMissed, errorFrames]
    · simp only [missed, if_false, handleCurrent]
      cases metadataStream request with
      | some stream => exact ⟨rfl, rfl⟩
      | none =>
        unfold MetadataCallback.bufDone
        cases callback.freeAndBufdoneMetaBuf <;> exact ⟨rfl, rfl⟩
  obtain ⟨timestamp, handled⟩ :=
    handleDueRequest_request callback entries loop.unfinishedRawRequest request
  unfold passDue finishDue
  simp only
  split
  · simp [noPartials, noErrors, sent, handled]
  · simp [noPartials, noErrors, sent, handled]

/-- A delayed result is a shutter and a result of a reprocess request. -/
def CacheReprocess (live : List Nat) (cache : List PendingReprocessResult) : Prop :=
  ∀ pending ∈ cache, pending.frameNumber ∉ live ∧ ∃ frameNumber timestamp,
        pending.notifyMsg = .shutter frameNumber timestamp

/-- What remains of a normal step while the loop runs. -/
structure NormalLoop (frameNumber : Nat) (live : List Nat) (start : List Progress.Entry)
    (loop : PendingLoop) : Prop where
  entries : liveEntries loop.done ++ (liveEntries loop.rest).filterMap
          (Progress.Entry.noteNormal frameNumber (Progress.blocked frameNumber start)) =
      start.filterMap (Progress.Entry.noteNormal frameNumber (Progress.blocked frameNumber start))
  partials : livePartials live loop.outputs ++ (liveEntries loop.rest).filterMap
          (Progress.Entry.normalPartial frameNumber (Progress.blocked frameNumber start)) =
      start.filterMap (Progress.Entry.normalPartial frameNumber
          (Progress.blocked frameNumber start))
  errors : errorFrames .result loop.outputs ++ (liveEntries loop.rest).filterMap
          (Progress.Entry.normalError frameNumber) =
      start.filterMap (Progress.Entry.normalError frameNumber)
  liveness : ∀ request ∈ loop.done ++ loop.rest, request.isLive = true → request.frameNumber ∈ live

theorem NormalLoop.drained {frameNumber delayed : Nat} {live : List Nat}
    {start : List Progress.Entry} {loop next : PendingLoop}
    (normal : NormalLoop frameNumber live start loop)
    (cache : CacheReprocess live loop.tracker.mPendingReprocessResultList)
    (drained : Drained delayed loop next) :
    NormalLoop frameNumber live start next := by
  cases drained with
  | nothing requests none => exact ⟨normal.entries, normal.partials, normal.errors, normal.liveness⟩
  | @orphan requests pending found absent =>
    obtain ⟨_, shutterFrame, timestamp, isShutter⟩ :=
      cache pending (List.mem_of_find?_eq_some found)
    refine ⟨normal.entries, ?_, ?_, normal.liveness⟩
    · simpa [livePartials] using normal.partials
    · simpa [isShutter] using normal.errors
  | @delivered requests pending request done rest marks found member parts mark =>
    obtain ⟨notLive, shutterFrame, timestamp, isShutter⟩ :=
      cache pending (List.mem_of_find?_eq_some found)
    have named : pending.frameNumber = delayed := by
      simpa using List.find?_some found
    have own : request.frameNumber = delayed := by
      simpa using List.find?_some member
    rw [named] at notLive
    have reprocess : ∀ requests : List PendingRequestInfo, (∀ other ∈ requests,
            other.isLive = true → other.frameNumber ∈ live) →
          liveEntries (requests.eraseP fun other =>
            other.frameNumber == delayed) = liveEntries requests := by
      intro requests liveness
      apply liveEntries_eraseP
      intro other inList same
      by_contra isLive
      have inLive := liveness other inList (by simpa using isLive)
      simp only [beq_iff_eq] at same
      exact notLive (same ▸ inLive)
    have sameDone : liveEntries done = liveEntries loop.done := by
      rcases parts with ⟨_, rfl, rfl⟩ | ⟨_, rfl, rfl⟩
      · exact reprocess loop.done fun other inDone =>
          normal.liveness other (List.mem_append_left _ inDone)
      · rfl
    have sameRest : liveEntries rest = liveEntries loop.rest := by
      rcases parts with ⟨_, rfl, rfl⟩ | ⟨_, rfl, rfl⟩
      · rfl
      · exact reprocess loop.rest fun other inRest =>
          normal.liveness other (List.mem_append_right _ inRest)
    have silentMarks : partialResults marks = [] ∧ errorFrames .result marks = [] := by
      rcases mark with rfl | rfl <;> exact ⟨rfl, rfl⟩
    have silentResult : livePartials live (loop.outputs ++ [Output.notify pending.notifyMsg,
              .processCaptureResult (reprocessResult request pending.buffer)] ++ marks) =
          livePartials live loop.outputs := by
      cases given : request.settings <;>
        simp [livePartials, reprocessResult, silentMarks, given, own, notLive]
    refine ⟨?_, ?_, ?_, ?_⟩
    · rw [sameDone, sameRest]
      exact normal.entries
    · rw [sameRest, silentResult]
      exact normal.partials
    · rw [sameRest]
      simpa [isShutter, silentMarks] using normal.errors
    · intro other inList
      have sublists := parts.sublists
      exact normal.liveness other ((sublists.1.append sublists.2).subset inList)

theorem NormalLoop.skip (normal : NormalLoop entries.frameNumber live start loop)
    (shape : loop.rest = request :: later)
    (skip : dueCase entries.frameNumber request = .skip) :
    NormalLoop entries.frameNumber live start (passSkipped entries request later loop) := by
  obtain ⟨noPartials, noErrors⟩ := reportFrameDrops_log entries request loop.tracker
  obtain ⟨entriesSame, partialsSame, errorsSame, liveness⟩ := normal
  rw [shape] at entriesSame partialsSame errorsSame liveness
  have silent : livePartials live (passSkipped entries request later loop).outputs =
          livePartials live loop.outputs ∧
        errorFrames .result (passSkipped entries request later loop).outputs =
          errorFrames .result loop.outputs := by
    simp [passSkipped, livePartials, noPartials, noErrors]
  have members : ∀ other ∈ (passSkipped entries request later loop).done ++
          (passSkipped entries request later loop).rest,
        other.isLive = true → other.frameNumber ∈ live := by
    intro other inList
    exact liveness other (by simpa [passSkipped] using inList)
  cases isLive : request.isLive with
  | true =>
    obtain ⟨keeps, noPartial, noError⟩ :=
      progress_of_skip (Progress.blocked entries.frameNumber start) isLive skip
    rw [liveEntries_cons_of_live isLive, List.filterMap_cons] at entriesSame partialsSame errorsSame
    rw [keeps] at entriesSame
    rw [noPartial] at partialsSame
    rw [noError] at errorsSame
    refine ⟨?_, ?_, ?_, members⟩
    · simpa [passSkipped, liveEntries_cons_of_live isLive] using entriesSame
    · rw [silent.1]
      exact partialsSame
    · rw [silent.2]
      exact errorsSame
  | false =>
    rw [liveEntries_cons_of_reprocess isLive] at entriesSame partialsSame errorsSame
    refine ⟨?_, ?_, ?_, members⟩
    · simpa [passSkipped, liveEntries_cons_of_reprocess isLive] using entriesSame
    · rw [silent.1]
      exact partialsSame
    · rw [silent.2]
      exact errorsSame

theorem NormalLoop.answer (normal : NormalLoop entries.frameNumber live start loop)
    (shape : loop.rest = request :: later) (isLive : request.isLive = true)
    (inLive : request.frameNumber ∈ live)
    (due : request.frameNumber ≤ entries.frameNumber)
    (notSkipped : dueCase entries.frameNumber request ≠ .skip)
    (counts : dueCount entries.frameNumber loop.unfinishedRawRequest request =
        dueCount entries.frameNumber (Progress.blocked entries.frameNumber start) request) :
    NormalLoop entries.frameNumber live start (passDue callback entries request later loop) := by
  obtain ⟨keeps, sends, fails⟩ :=
    @progress_answeredRequest callback entries loop _ request isLive due notSkipped counts
  obtain ⟨partialLog, errorLog⟩ := passDue_log callback entries loop request later
  obtain ⟨entriesSame, partialsSame, errorsSame, liveness⟩ := normal
  rw [shape] at liveness
  rw [shape, liveEntries_cons_of_live isLive, List.filterMap_cons]
    at entriesSame partialsSame errorsSame
  rw [keeps] at entriesSame
  rw [sends] at partialsSame
  rw [fails] at errorsSame
  have answeredLive : (answeredRequest callback entries loop request).isLive = true := by
    unfold PendingRequestInfo.isLive at isLive ⊢
    rw [answeredRequest_inputBuffer]
    exact isLive
  refine ⟨?_, ?_, ?_, ?_⟩
  · rw [passDue_done, passDue_rest, counts]
    split_ifs at entriesSame ⊢ with final
    · simpa using entriesSame
    · simpa [liveEntries_cons_of_live answeredLive] using entriesSame
  · rw [passDue_rest]
    unfold livePartials at partialsSame ⊢
    rw [partialLog, counts, List.filter_append]
    simpa [inLive] using partialsSame
  · rw [passDue_rest, errorLog]
    split_ifs at errorsSame ⊢
    · simpa using errorsSame
    · simpa using errorsSame
  · intro other inList
    rw [passDue_done, passDue_rest] at inList
    rcases List.mem_append.mp inList with inDone | inLater
    · rcases List.mem_append.mp inDone with inDone | isAnswered
      · exact liveness other (List.mem_append_left _ inDone)
      · split_ifs at isAnswered
        · simp at isAnswered
        · rw [List.mem_singleton] at isAnswered
          subst other
          rw [answeredRequest_frameNumber]
          exact fun _ => inLive
    · exact liveness other (by simp [inLater])

theorem pendingLoop_progress {rounds : Nat} {final : PendingLoop}
    (ordered : Ordered tracker.mPendingRequestsList)
    (cache : CacheReprocess live tracker.mPendingReprocessResultList)
    (liveness : ∀ request ∈ tracker.mPendingRequestsList,
        (request.isLive = true ↔ request.frameNumber ∈ live))
    (named : entries.frameNumber ∈ live)
    (ran : pendingLoop callback entries rounds (startLoop tracker) = some final) :
    NormalLoop entries.frameNumber live (liveEntries tracker.mPendingRequestsList) final := by
  apply pendingLoop_ordered_rule ordered (NormalLoop entries.frameNumber live
      (liveEntries tracker.mPendingRequestsList)) ?_ ?_ ?_ ran
  · refine ⟨rfl, rfl, rfl, ?_⟩
    intro request member
    exact (liveness request (by simpa [startLoop] using member)).mp
  · intro loop request later normal shape _ _ skip
    exact normal.skip shape skip
  · intro loop request later next normal stands shape inList due notSkipped counts drained
    rw [rawUnfinished_eq_blocked] at counts
    have isLive : request.isLive = true := by
      refine live_of_not_skip due notSkipped ?_
      intro reprocess same
      have isLive := (liveness request inList).mpr (same ▸ named)
      simp [reprocess] at isLive
    obtain ⟨map, drops, passed⟩ := passDue_tracker callback entries loop request later
    refine (normal.answer shape isLive
      ((liveness request inList).mp isLive) due notSkipped counts).drained
      ?_ drained
    intro pending inCache
    rw [passed] at inCache
    exact cache pending (stands.cache.subset inCache)

theorem NormalLoop.finished (normal : NormalLoop frameNumber live start loop)
    (behind : ∀ request ∈ loop.rest, frameNumber < request.frameNumber) :
    liveEntries (loop.done ++ loop.rest) = start.filterMap (Progress.Entry.noteNormal frameNumber
            (Progress.blocked frameNumber start)) ∧
      livePartials live loop.outputs = start.filterMap (Progress.Entry.normalPartial frameNumber
            (Progress.blocked frameNumber start)) ∧
      errorFrames .result loop.outputs =
        start.filterMap (Progress.Entry.normalError frameNumber) := by
  have untouched : ∀ entry ∈ liveEntries loop.rest,
        entry.missed frameNumber = false ∧ entry.frame ≠ frameNumber := by
    intro entry member
    obtain ⟨request, inRest, _, rfl⟩ := mem_liveEntries.mp member
    have above := behind request inRest
    refine ⟨?_, Nat.ne_of_gt above⟩
    simp [Progress.Entry.missed, Nat.not_lt_of_lt above]
  have kept : (liveEntries loop.rest).filterMap (Progress.Entry.noteNormal frameNumber
            (Progress.blocked frameNumber start)) =
        liveEntries loop.rest := by
    conv_rhs => rw [← List.filterMap_some (l := liveEntries loop.rest)]
    apply List.filterMap_congr
    intro entry member
    obtain ⟨notMissed, apart⟩ := untouched entry member
    simp [Progress.Entry.noteNormal, notMissed, apart]
  have noPartials : (liveEntries loop.rest).filterMap (Progress.Entry.normalPartial frameNumber
            (Progress.blocked frameNumber start)) = [] := by
    rw [List.filterMap_eq_nil_iff]
    intro entry member
    obtain ⟨notMissed, apart⟩ := untouched entry member
    simp [Progress.Entry.normalPartial, notMissed, apart]
  have noErrors : (liveEntries loop.rest).filterMap
          (Progress.Entry.normalError frameNumber) = [] := by
    rw [List.filterMap_eq_nil_iff]
    intro entry member
    simp [Progress.Entry.normalError, (untouched entry member).1]
  obtain ⟨entriesSame, partialsSame, errorsSame, _⟩ := normal
  rw [kept] at entriesSame
  rw [noPartials, List.append_nil] at partialsSame
  rw [noErrors, List.append_nil] at errorsSame
  exact ⟨by rw [liveEntries_append, entriesSame], partialsSame, errorsSame⟩

/-! ## A metadata callback -/

theorem deepenPipeline_progress (tracker : Tracker) :
    liveEntries tracker.deepenPipeline.mPendingRequestsList =
      liveEntries tracker.mPendingRequestsList := by
  simp only [liveEntries, Tracker.deepenPipeline,
    Tracker.setRequests_mPendingRequestsList, List.filter_map,
    List.map_map]
  rfl

theorem handleUrgentPart_cache (callback : MetadataCallback) (entries : MetadataEntries)
    (tracker : Tracker) :
    (handleUrgentPart callback entries tracker).1.mPendingReprocessResultList =
      tracker.mPendingReprocessResultList := by
  unfold handleUrgentPart
  split <;> rfl

/-- The counting after a step of the tracker: its live requests, and what it has sent. -/
def countingAfter (live : List Nat) (state : Progress.State) (result : Tracker × List Output) :
    Progress.State where
  entries := liveEntries result.1.mPendingRequestsList
  partials := state.partials ++ livePartials live result.2
  errors := state.errors ++ errorFrames .result result.2

theorem handleUrgentPart_progress (callback : MetadataCallback)
    {entries : MetadataEntries} {tracker : Tracker} {live : List Nat}
    {state : Progress.State} (ordered : Ordered tracker.mPendingRequestsList)
    (liveness : ∀ request ∈ tracker.mPendingRequestsList,
        (request.isLive = true ↔ request.frameNumber ∈ live))
    (named : entries.urgentFrameNumberValid = true → entries.urgentFrameNumber ∈ live)
    (same : liveEntries tracker.mPendingRequestsList = state.entries) :
    Progress.run state (if entries.urgentFrameNumberValid then
          [.urgent entries.urgentFrameNumber] else []) =
      countingAfter live state (handleUrgentPart callback entries tracker) := by
  unfold countingAfter handleUrgentPart
  cases valid : entries.urgentFrameNumberValid with
  | false => simp [Progress.run, livePartials, same]
  | true =>
    have inLive := named valid
    obtain ⟨updated, sent, silent⟩ :=
      handleUrgent_progress callback ordered fun request member own =>
          (liveness request member).mpr (own ▸ inLive)
    have liveSent : livePartials live (handleUrgent callback entries.urgentFrameNumber
              tracker.mPendingRequestsList).2 =
          (liveEntries tracker.mPendingRequestsList).filterMap (Progress.Entry.urgentPartial
              entries.urgentFrameNumber) := by
      unfold livePartials
      rw [sent, List.filter_eq_self]
      intro result member
      obtain ⟨entry, _, sends⟩ := List.mem_filterMap.mp member
      unfold Progress.Entry.urgentPartial at sends
      split_ifs at sends
      obtain rfl := Option.some.inj sends
      simpa using inLive
    simp [Progress.run, Progress.step, updated, liveSent, silent, same]

/-- A metadata callback takes the steps of its metadata. -/
theorem handleMetadataWithLock_progress {next : Tracker} {sent : List Output}
    {state : Progress.State} (opticalBlackRegion : Bool)
    (ordered : Ordered tracker.mPendingRequestsList)
    (cache : CacheReprocess live tracker.mPendingReprocessResultList)
    (liveness : ∀ request ∈ tracker.mPendingRequestsList,
        (request.isLive = true ↔ request.frameNumber ∈ live))
    (named : ∀ event ∈ progressEvents opticalBlackRegion (.metadata callback), event.frame ∈ live)
    (same : liveEntries tracker.mPendingRequestsList = state.entries)
    (handled : handleMetadataWithLock callback tracker = some (next, sent)) :
    Progress.run state (progressEvents opticalBlackRegion (.metadata callback)) =
      countingAfter live state (next, sent) := by
  unfold countingAfter
  have silentDone : livePartials live callback.bufDone = [] ∧
        errorFrames .result callback.bufDone = [] := by
    unfold MetadataCallback.bufDone
    cases callback.freeAndBufdoneMetaBuf <;> exact ⟨rfl, rfl⟩
  rcases handleMetadataWithLock_cases handled with
    ⟨given, rfl, rfl⟩ | ⟨entries, given, parts⟩
  · simp [progressEvents, given, Progress.run, deepenPipeline_progress, silentDone, same]
  · simp only [progressEvents, given, Progress.run, List.foldl_append] at named ⊢
    have urgent :=
      @handleUrgentPart_progress callback entries tracker live state ordered liveness (by
          intro valid
          have inLive := named (.urgent entries.urgentFrameNumber) (by simp [valid])
          exact inLive) same
    simp only [Progress.run, countingAfter] at urgent
    rw [urgent]
    rcases parts with ⟨invalid, rfl, rfl⟩ | ⟨valid, final, ran, rfl, rfl⟩
    · simp [invalid, deepenPipeline_progress, silentDone]
    · have frames := handleUrgentPart_frames callback entries tracker
      have urgentOrdered : Ordered (handleUrgentPart callback entries
              tracker).1.mPendingRequestsList := by
        rw [ordered_iff_frames, frames, ← ordered_iff_frames]
        exact ordered
      have urgentLiveness : ∀ request ∈ (handleUrgentPart callback entries
                tracker).1.mPendingRequestsList,
            (request.isLive = true ↔ request.frameNumber ∈ live) := by
        intro request member
        obtain ⟨original, inList, version⟩ :=
          handleUrgentPart_descends callback entries tracker request member
        rw [version.isLive, version.frameNumber]
        exact liveness original inList
      have inLive := named (.normal entries.frameNumber) (by simp [valid])
      have finished :=
        (pendingLoop_progress urgentOrdered (by rwa [handleUrgentPart_cache]) urgentLiveness inLive
          ran).finished
          (pendingLoop_exit (by simpa [startLoop] using urgentOrdered) (by
              have lengths := congrArg List.length frames
              simp only [requestFrames, List.length_map] at lengths
              simp [startLoop, lengths]) ran)
      obtain ⟨updated, partials, errors⟩ := finished
      simp only [valid, if_true, List.foldl_cons, List.foldl_nil,
        Progress.step, deepenPipeline_progress,
        Tracker.setRequests_mPendingRequestsList, livePartials_append,
        errorFrames_append, updated, partials, errors, List.append_assoc]

end AnglerHal.Hal3
