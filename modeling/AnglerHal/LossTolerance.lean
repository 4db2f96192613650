import AnglerHal.ProgressRun

namespace AnglerHal.Hal3

/-!
# Lost metadata

Metadata callbacks may be lost.  A later normal metadata closes the live
requests it passes over with an error, so that nothing up to its frame stays
pending once the black levels have come.  The counting makes up for a loss only
if an urgent metadata of the same or a later frame comes before the normal one,
and never for a lost normal metadata of a raw request.
-/

/-- What a loss may not do to the live requests up to a frame. -/
structure ClosedUpTo (frameNumber : Nat) (events : List TrackerEvent) (final : Tracker)
    (log : List Output) : Prop where
  nonePending : ∀ request ∈ final.mPendingRequestsList,
      request.isLive = true → frameNumber < request.frameNumber
  lost : ∀ frame ∈ liveFrames events, frame ≤ frameNumber → Progress.Event.normal frame ∉
        progressHistory final.opticalBlackRegion events →
      (errorFrames .result log).count frame = 1
  arrived : ∀ frame ∈ liveFrames events, frame ≤ frameNumber → Progress.Event.normal frame ∈
        progressHistory final.opticalBlackRegion events →
      (errorFrames .result log).count frame = 0 ∧ (Progress.partialsOf frame
          (partialResults log)).count partialResultCount = 1

/-- Every raw request up to a frame has its black level. -/
def LevelledUpTo (frameNumber : Nat) (history : List Progress.Event) : Prop :=
  ∀ event ∈ history, event = .request event.frame true → event.frame ≤ frameNumber →
    Progress.Event.level event.frame ∈ history

instance (frameNumber : Nat) (history : List Progress.Event) :
    Decidable (LevelledUpTo frameNumber history) :=
  inferInstanceAs (Decidable (∀ event ∈ history, _))

theorem Simulates.closedUpTo {tracker : Tracker} {past : List TrackerEvent}
    {log : List Output} {state : Progress.State} {frameNumber : Nat}
    (simulates : Simulates tracker past log state)
    (counted : Progress.Counted state (progressHistory tracker.opticalBlackRegion past))
    (answered : Progress.Event.normal frameNumber ∈ progressHistory tracker.opticalBlackRegion past)
    (levelled : LevelledUpTo frameNumber (progressHistory tracker.opticalBlackRegion past)) :
    ClosedUpTo frameNumber past tracker log := by
  obtain ⟨agrees, sent⟩ := counted
  have noneOpen := agrees.none_open answered fun other requested notAbove =>
      levelled _ requested rfl notAbove
  have closed : ∀ frame, frame ≤ frameNumber → ∀ entry ∈ state.entries, entry.frame ≠ frame := by
    intro frame notAbove entry member same
    have above := noneOpen entry member
    omega
  refine ⟨?_, ?_, ?_⟩
  · intro request member isLive
    have inEntries : request.progress ∈ state.entries := by
      rw [← simulates.entries]
      exact mem_liveEntries.mpr ⟨request, member, isLive, rfl⟩
    exact noneOpen request.progress inEntries
  · intro frame inLive notAbove missing
    obtain ⟨raw, requested⟩ := (mem_liveFrames_iff tracker.opticalBlackRegion).mp inLive
    rw [simulates.errors, (sent.closed frame raw requested (closed frame notAbove)).2.1,
      if_neg missing]
  · intro frame inLive notAbove arrived
    obtain ⟨raw, requested⟩ := (mem_liveFrames_iff tracker.opticalBlackRegion).mp inLive
    refine ⟨?_, ?_⟩
    · rw [simulates.errors, (sent.closed frame raw requested (closed frame notAbove)).2.1,
        if_pos arrived]
    · have final := sent.final_count agrees requested
      rw [if_neg] at final
      · rw [← partialsOf_livePartials inLive, simulates.partials]
        exact final
      · rintro ⟨entry, member, same⟩
        exact closed frame notAbove entry member same

/-- Losses that the tracker tolerates, with no deferred request cut off. -/
def ToleratedStep (tracker : Tracker) (past : List TrackerEvent) (event : TrackerEvent) : Prop :=
  CallbackStep Progress.Lossy tracker past event ∧ Progress.Along Progress.Tolerated
      (progressHistory tracker.opticalBlackRegion past)
      (progressEvents tracker.opticalBlackRegion event) ∧
    CutsNoneOff tracker event

instance (tracker : Tracker) (past : List TrackerEvent) (event : TrackerEvent) :
    Decidable (ToleratedStep tracker past event) :=
  inferInstanceAs (Decidable (_ ∧ _ ∧ _))

/--
In every run in which metadata is lost as the counting tolerates it and no black
level cuts a deferred request off: once a normal metadata and the black levels
up to its frame have come, every live request up to that frame is closed, with
one error if its normal metadata was lost and one final result if it came.
-/
theorem trackerRun_closedUpTo {tracker : Tracker} {events : List TrackerEvent}
    (fresh : tracker.Fresh)
    (guarded : LabelledRun.Guarded trackerStep ToleratedStep tracker [] events) :
    ∃ final log, trackerRun tracker events = some (final, log) ∧ ∀ frameNumber,
          Progress.Event.normal frameNumber ∈ progressHistory final.opticalBlackRegion events →
          LevelledUpTo frameNumber (progressHistory final.opticalBlackRegion events) →
          ClosedUpTo frameNumber events final log := by
  obtain ⟨final, log, ran, state, simulates, counted⟩ :=
    LabelledRun.run?_of_guarded (fun current past log =>
        ∃ state, Simulates current past log state ∧ Progress.Counted state
              (progressHistory current.opticalBlackRegion past))
      [] guarded ⟨_, .of_fresh fresh, .empty⟩ (by
        rintro current past log event ⟨state, simulates, counted⟩ ⟨met, tolerated, cutsNoneOff⟩
        obtain ⟨next, emitted, stepped, optical, nextSimulates⟩ :=
          simulates.step (fun _ _ lossy => lossy) met cutsNoneOff
        refine ⟨next, emitted, stepped, _, nextSimulates, ?_⟩
        rw [optical, progressHistory_append, progressHistory_singleton]
        exact (met.2.1.and tolerated).run Progress.Counted counted
          fun held both => held.step both.1 both.2)
  exact ⟨final, log, ran, fun frameNumber answered levelled =>
    simulates.closedUpTo counted answered levelled⟩

/-- The metadata of frame 2 is lost, and so is the urgent one of frame 3. -/
theorem trackerRun_closedUpTo_lost : ∃ final log, trackerRun (opened true false)
          [rawEvent 1, liveEvent 2, liveEvent 3, liveEvent 4,
            urgentEvent 1, normalEvent 1, urgentEvent 4, normalEvent 3,
            .blackLevel 0 1] =
          some (final, log) ∧
        ClosedUpTo 3 [rawEvent 1, liveEvent 2, liveEvent 3, liveEvent 4,
            urgentEvent 1, normalEvent 1, urgentEvent 4, normalEvent 3,
            .blackLevel 0 1] final log := by
  obtain ⟨final, log, ran, closed⟩ :=
    @trackerRun_closedUpTo (opened true false) [rawEvent 1, liveEvent 2, liveEvent 3, liveEvent 4,
        urgentEvent 1, normalEvent 1, urgentEvent 4, normalEvent 3,
        .blackLevel 0 1] (opened_fresh true false) (by decide)
  have known : (trackerRun (opened true false) [rawEvent 1, liveEvent 2, liveEvent 3, liveEvent 4,
          urgentEvent 1, normalEvent 1, urgentEvent 4, normalEvent 3,
          .blackLevel 0 1]).all (fun result => result.1.opticalBlackRegion) = true := by
    decide
  rw [ran] at known
  have optical : final.opticalBlackRegion = true := known
  refine ⟨final, log, ran, closed 3 ?_ ?_⟩
  · rw [optical]
    decide
  · rw [optical]
    decide

/-- A normal metadata that comes without any urgent one before it. -/
def uncoveredRun : List TrackerEvent :=
  [liveEvent 1, liveEvent 2, normalEvent 1, urgentEvent 2, normalEvent 2]

/-- The request whose urgent metadata was lost stays in the list. -/
theorem trackerRun_closedUpTo_uncovered :
    LabelledRun.Guarded trackerStep (CallbackStep Progress.Lossy)
        (opened true false) [] uncoveredRun ∧
      Progress.Event.normal 2 ∈ progressHistory true uncoveredRun ∧
      LevelledUpTo 2 (progressHistory true uncoveredRun) ∧
      ∃ final log, trackerRun (opened true false) uncoveredRun = some (final, log) ∧
          ¬ ClosedUpTo 2 uncoveredRun final log := by
  refine ⟨by decide, by decide, by decide, _, _, rfl, ?_⟩
  intro closed
  have nonePending := closed.nonePending
  revert nonePending
  decide

end AnglerHal.Hal3
