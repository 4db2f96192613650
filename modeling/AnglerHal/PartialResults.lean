import AnglerHal.ProgressRun

namespace AnglerHal.Hal3

/-!
# Partial results of live requests

With every callback in frame order and none lost, the partial results of a live
request increase up to `PARTIAL_RESULT_COUNT`, the request leaves the list with
that one, and the final results come out in frame order.  All of this rests on
the black level releasing every request that was deferred behind a raw one.
-/

/-- Every live request has got all that the counting waits for. -/
def AllDelivered (history : List Progress.Event) : Prop :=
  ∀ event ∈ history, ∀ raw ∈ [false, true], event = .request event.frame raw →
    Progress.Event.urgent event.frame ∈ history ∧ Progress.Event.normal event.frame ∈ history ∧
      (raw = true → Progress.Event.level event.frame ∈ history)

instance (history : List Progress.Event) : Decidable (AllDelivered history) :=
  inferInstanceAs (Decidable (∀ event ∈ history, _))

/-- What partial results promise about the live requests of a run. -/
structure PartialResultsRight (events : List TrackerEvent) (final : Tracker)
    (log : List Output) : Prop where
  increasing : ∀ frameNumber ∈ liveFrames events, (Progress.partialsOf frameNumber
        (partialResults log)).Pairwise (· < ·)
  bounded : ∀ frameNumber ∈ liveFrames events,
      ∀ value ∈ Progress.partialsOf frameNumber (partialResults log), value ≤ partialResultCount
  leaves : ∀ frameNumber ∈ liveFrames events, (Progress.partialsOf frameNumber
          (partialResults log)).count partialResultCount =
        if frameNumber ∈ requestFrames final.mPendingRequestsList then 0
        else 1
  inOrder : (Progress.finals (livePartials (liveFrames events) log)).Pairwise (· < ·)
  complete : AllDelivered (progressHistory final.opticalBlackRegion events) →
      ∀ request ∈ final.mPendingRequestsList, request.isLive = false

theorem Simulates.partialResultsRight {tracker : Tracker} {past : List TrackerEvent}
    {log : List Output} {state : Progress.State}
    (simulates : Simulates tracker past log state)
    (inOrder : Progress.CountedInSequence state (progressHistory tracker.opticalBlackRegion past)) :
    PartialResultsRight past tracker log := by
  obtain ⟨⟨agrees, sent⟩, sequential, finals⟩ := inOrder
  refine ⟨?_, ?_, ?_, ?_, ?_⟩
  · intro frameNumber inLive
    rw [← partialsOf_livePartials inLive, simulates.partials]
    exact sent.increasing frameNumber
  · intro frameNumber inLive value
    rw [← partialsOf_livePartials inLive, simulates.partials]
    exact sent.bounded frameNumber value
  · intro frameNumber inLive
    obtain ⟨raw, requested⟩ := (mem_liveFrames_iff tracker.opticalBlackRegion).mp inLive
    have counted := sent.final_count agrees requested
    rw [← partialsOf_livePartials inLive, simulates.partials]
    simp only [simulates.pending_iff inLive] at counted
    exact counted
  · rw [simulates.partials]
    exact finals.increasing
  · intro delivered request member
    by_contra notReprocess
    have isLive : request.isLive = true := by
      simpa using notReprocess
    have inEntries : request.progress ∈ state.entries := by
      rw [← simulates.entries]
      exact mem_liveEntries.mpr ⟨request, member, isLive, rfl⟩
    have requested := agrees.requested request.progress inEntries
    have answered := (delivered _ requested _ (Progress.mem_kinds _) rfl).2.1
    refine Nat.lt_irrefl _ (agrees.none_open answered ?_ request.progress inEntries)
    intro other otherRequested _
    exact (delivered _ otherRequested true (Progress.mem_kinds _) rfl).2.2 rfl

/-- Callbacks in frame order that cut no deferred request off. -/
def InSequenceStep (tracker : Tracker) (past : List TrackerEvent) (event : TrackerEvent) : Prop :=
  CallbackStep Progress.InSequence tracker past event ∧ CutsNoneOff tracker event

instance (tracker : Tracker) (past : List TrackerEvent) (event : TrackerEvent) :
    Decidable (InSequenceStep tracker past event) :=
  inferInstanceAs (Decidable (_ ∧ _))

/--
In every run of requests and of callbacks in frame order in which no black
level cuts a deferred request off, partial results keep their promise in every
state reached.
-/
theorem trackerRun_partialResults {tracker : Tracker} {events : List TrackerEvent}
    (fresh : tracker.Fresh)
    (guarded : LabelledRun.Guarded trackerStep InSequenceStep tracker [] events) :
    ∃ final log, trackerRun tracker events = some (final, log) ∧
        PartialResultsRight events final log := by
  obtain ⟨final, log, ran, state, simulates, inOrder⟩ :=
    LabelledRun.run?_of_guarded (fun current past log =>
        ∃ state, Simulates current past log state ∧ Progress.CountedInSequence state
              (progressHistory current.opticalBlackRegion past))
      [] guarded ⟨_, .of_fresh fresh, .empty⟩ (by
        rintro current past log event ⟨state, simulates, inOrder⟩ ⟨met, cutsNoneOff⟩
        obtain ⟨next, emitted, stepped, optical, nextSimulates⟩ :=
          simulates.step (fun _ _ inSequence => inSequence.1) met cutsNoneOff
        refine ⟨next, emitted, stepped, _, nextSimulates, ?_⟩
        rw [optical, progressHistory_append, progressHistory_singleton]
        exact met.2.1.run Progress.CountedInSequence inOrder Progress.CountedInSequence.step)
  exact ⟨final, log, ran, simulates.partialResultsRight inOrder⟩

/-- A raw request, a request deferred behind it and a jpeg made meanwhile. -/
theorem trackerRun_partialResults_deferred : ∃ final log, trackerRun (opened true false)
          [rawEvent 1, liveEvent 2, reprocessEvent 3, urgentEvent 1,
            urgentEvent 2, normalEvent 1, .buffer 0 (jpegBuffer 3) 3,
            normalEvent 2, .blackLevel 0 1] =
          some (final, log) ∧
        PartialResultsRight [rawEvent 1, liveEvent 2, reprocessEvent 3, urgentEvent 1,
            urgentEvent 2, normalEvent 1, .buffer 0 (jpegBuffer 3) 3,
            normalEvent 2, .blackLevel 0 1] final log :=
  trackerRun_partialResults (opened_fresh true false) (by decide)

/-- A reprocess request between a raw request and one deferred behind it. -/
def cutOffRun : List TrackerEvent :=
  [rawEvent 1, reprocessEvent 2, liveEvent 3, urgentEvent 1,
    urgentEvent 3, normalEvent 1, normalEvent 3, .blackLevel 0 1]

/-- The deferred request stays in the list although all callbacks have come. -/
theorem trackerRun_partialResults_cutOff :
    LabelledRun.Guarded trackerStep (CallbackStep Progress.InSequence)
        (opened true false) [] cutOffRun ∧
      AllDelivered (progressHistory true cutOffRun) ∧
      ∃ final log, trackerRun (opened true false) cutOffRun = some (final, log) ∧
          ¬ PartialResultsRight cutOffRun final log := by
  refine ⟨by decide, by decide, _, _, rfl, ?_⟩
  intro right
  have noneLive := right.complete (by decide)
  revert noneLive
  decide

end AnglerHal.Hal3
