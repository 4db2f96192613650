import AnglerHal.LiveCount
import Mathlib.Algebra.Group.Nat.Defs

namespace AnglerHal.Hal3

/-!
# The number of pending buffers

`num_buffers` of `mPendingBuffersMap` is kept by hand beside the list: it is
raised with every entry that is added and lowered with every entry that is
erased, in each of the functions that touch the list.  It is a `uint32_t`, so
it counts modulo `2 ^ 32`.
-/

/-- The counter is the length of the list. -/
def PendingBuffersMap.Counted (map : PendingBuffersMap) : Prop :=
  map.numBuffers = UInt32.ofNat map.mPendingBufferList.length

/-! ## Functions that take buffers out of the map -/

variable {tracker next : Tracker}

theorem takeBuffer_counted (counted : tracker.mPendingBuffersMap.Counted) (buffer : Nat) :
    (tracker.takeBuffer buffer).mPendingBuffersMap.Counted := by
  unfold Tracker.takeBuffer
  simp only
  split
  · rename_i found
    obtain ⟨info, member, same⟩ := List.any_eq_true.mp found
    have shorter := List.length_eraseP_of_mem (p := fun other : PendingBufferInfo =>
        other.buffer == buffer) member same
    have positive := List.length_pos_of_mem member
    unfold PendingBuffersMap.Counted at counted ⊢
    simp only [Tracker.setBuffers]
    rw [shorter, counted]
    exact (UInt32.ofNat_sub positive).symm
  · exact counted

theorem returnBuffers_counted {tracker : Tracker} (counted : tracker.mPendingBuffersMap.Counted)
    (frameNumber : Nat)
    (buffers : List RequestedBufferInfo) :
    (returnBuffers frameNumber tracker buffers).1.mPendingBuffersMap.Counted := by
  induction buffers generalizing tracker with
  | nil => exact counted
  | cons requested rest inductionHypothesis =>
    unfold returnBuffers
    cases requested.buffer with
    | none => exact inductionHypothesis counted
    | some buffer =>
      obtain ⟨drops, marked⟩ := applyFrameDrop_tracker tracker frameNumber buffer
      have markedCounted : (tracker.applyFrameDrop frameNumber
            buffer).1.mPendingBuffersMap.Counted := by
        rw [marked]
        exact counted
      exact inductionHypothesis (takeBuffer_counted markedCounted _)

theorem takeFrame_counted {tracker : Tracker} (counted : tracker.mPendingBuffersMap.Counted)
    (frameNumber : Nat) :
    (tracker.takeFrame frameNumber).1.mPendingBuffersMap.Counted := by
  unfold PendingBuffersMap.Counted at counted ⊢
  have parts : (tracker.mPendingBuffersMap.mPendingBufferList.filter
          fun info => info.frameNumber != frameNumber).length +
        (tracker.mPendingBuffersMap.mPendingBufferList.filter
          fun info => info.frameNumber == frameNumber).length =
      tracker.mPendingBuffersMap.mPendingBufferList.length := by
    have lengths :=
      (List.filter_append_perm (fun info : PendingBufferInfo => info.frameNumber == frameNumber)
        tracker.mPendingBuffersMap.mPendingBufferList).length_eq
    rw [List.length_append] at lengths
    simp only [bne]
    omega
  simp only [Tracker.takeFrame, Tracker.setBuffers]
  rw [counted, ← parts]
  exact ofNat_add_sub_ofNat _ _

/-! ## Callbacks -/

theorem passDue_counted (callback : MetadataCallback) (entries : MetadataEntries)
    (request : PendingRequestInfo) (later : List PendingRequestInfo)
    {loop : PendingLoop} (counted : loop.tracker.mPendingBuffersMap.Counted) :
    (passDue callback entries request later loop).tracker.mPendingBuffersMap.Counted := by
  unfold passDue finishDue
  simp only
  have returned : ∀ buffers, (returnBuffers entries.frameNumber
          (reportFrameDrops entries request loop.tracker).1
          buffers).1.mPendingBuffersMap.Counted :=
    fun buffers =>
      @returnBuffers_counted (reportFrameDrops entries request
        loop.tracker).1 counted entries.frameNumber buffers
  split
  · exact returned _
  · exact returned _

theorem handleMetadataWithLock_counted {callback : MetadataCallback}
    {sent : List Output} (counted : tracker.mPendingBuffersMap.Counted)
    (handled : handleMetadataWithLock callback tracker = some (next, sent)) :
    next.mPendingBuffersMap.Counted := by
  have urgent : ∀ entries, (handleUrgentPart callback entries
          tracker).1.mPendingBuffersMap.Counted := by
    intro entries
    unfold handleUrgentPart
    split <;> exact counted
  rcases handleMetadataWithLock_cases handled with
    ⟨_, rfl, _⟩ | ⟨entries, _, ⟨_, rfl, _⟩ | ⟨_, final, ran, rfl, _⟩⟩
  · exact counted
  · exact urgent entries
  · apply pendingLoop_rule (fun current => current.tracker.mPendingBuffersMap.Counted)
      ?_ ?_ (urgent entries) ran
    · intro current request later kept _ _ _
      exact kept
    · intro current request later next kept _ _ _ drained
      have passed := passDue_counted callback entries request later kept
      cases drained <;> exact passed

theorem handleInputBufferWithLock_counted (counted : tracker.mPendingBuffersMap.Counted)
    (now : Int) (buffer : Option Camera3StreamBuffer) (frameNumber : Nat) :
    (handleInputBufferWithLock now buffer frameNumber tracker).1.mPendingBuffersMap.Counted := by
  unfold handleInputBufferWithLock
  split
  · exact counted
  · split
    · exact counted
    · simp only
      split
      · exact @takeFrame_counted (tracker.setRequests
            (tracker.mPendingRequestsList.eraseP fun other =>
              other.frameNumber == frameNumber)) counted frameNumber
      · exact counted

theorem BufferOutcome.counted {now : Int} {buffer : Camera3StreamBuffer}
    {frameNumber : Nat} {tracker : Tracker} {result : Tracker × List Output}
    (outcome : BufferOutcome now buffer frameNumber tracker result)
    (counted : tracker.mPendingBuffersMap.Counted) :
    result.1.mPendingBuffersMap.Counted := by
  cases outcome with
  | sent =>
    obtain ⟨drops, marked⟩ := applyFrameDrop_tracker tracker frameNumber buffer
    have markedCounted : (tracker.applyFrameDrop frameNumber
          buffer).1.mPendingBuffersMap.Counted := by
      rw [marked]
      exact counted
    exact takeBuffer_counted markedCounted _
  | cached => exact takeBuffer_counted counted buffer.buffer
  | closed => exact takeBuffer_counted counted buffer.buffer
  | kept => exact counted

/-! ## Requests -/

theorem Accepted.counted {env : RequestEnv} {capture : CaptureRequest} {prepared next : Tracker}
    (accepted : Accepted env capture prepared next)
    (counted : prepared.mPendingBuffersMap.Counted) :
    next.mPendingBuffersMap.Counted := by
  unfold PendingBuffersMap.Counted at counted ⊢
  rw [accepted.buffers, accepted.numBuffers, counted, List.length_append, UInt32.ofNat_add]
  simp [pendingBuffers]

theorem RequestOutcome.counted {env : RequestEnv} {capture : CaptureRequest}
    {tracker next : Tracker} {rc : Int} {sent : List Output}
    (outcome : RequestOutcome env capture tracker next rc sent)
    (counted : tracker.mPendingBuffersMap.Counted) :
    next.mPendingBuffersMap.Counted := by
  cases outcome with
  | rejected stage =>
    rw [(Checked.of_fail stage).buffersMap]
    exact counted
  | notRestarted => rfl
  | restarted stage restarts enough started =>
    refine (acceptRequest_accepted env capture _).counted ?_
    rfl
  | registered stage goesOn =>
    refine (acceptRequest_accepted env capture _).counted ?_
    rw [(Checked.of_proceed stage).buffersMap]
    exact counted

/-! ## Runs -/

theorem trackerStep_counted {event : TrackerEvent} {emitted : List Output}
    (counted : tracker.mPendingBuffersMap.Counted)
    (step : trackerStep tracker event = some (next, emitted)) :
    next.mPendingBuffersMap.Counted := by
  cases trackerStep_stepped step with
  | request outcome => exact outcome.counted counted
  | metadata handled => exact handleMetadataWithLock_counted counted handled
  | blackLevel blackLevel frameNumber =>
    rcases sendDynamicBlackLevelWithLock_cases blackLevel frameNumber
      tracker with ⟨same, _⟩ | ⟨_, _, _, _, _, _, _, outcome⟩
    · rw [same]
      exact counted
    · rcases outcome with ⟨_, same⟩ | ⟨_, same⟩
      · rw [same]
        exact counted
      · rw [same]
        exact counted
  | ignoredInput => exact counted
  | @inputBuffer now buffer frameNumber =>
    have handled := handleInputBufferWithLock_counted counted now buffer frameNumber
    rw [Option.some.inj step] at handled
    exact handled
  | buffer outcome => exact outcome.counted counted
  | flushBegin =>
    unfold Hal3.flushBegin
    split <;> exact counted
  | flushEnd => rfl
  | configureStreams => rfl

/--
In every reachable state `num_buffers` is the length of `mPendingBufferList`,
as a `uint32_t`; up to `2 ^ 32` entries that is the length itself.
-/
theorem trackerRun_numBuffers {start final : Tracker} {events : List TrackerEvent}
    {log : List Output} (fresh : start.Fresh)
    (ran : trackerRun start events = some (final, log)) :
    final.mPendingBuffersMap.numBuffers =
        UInt32.ofNat final.mPendingBuffersMap.mPendingBufferList.length ∧
      (final.mPendingBuffersMap.mPendingBufferList.length < 2 ^ 32 →
        final.mPendingBuffersMap.numBuffers.toNat =
          final.mPendingBuffersMap.mPendingBufferList.length) := by
  have counted : final.mPendingBuffersMap.Counted := by
    refine LabelledRun.stateInvariant_of_run
      (fun current => current.mPendingBuffersMap.Counted) ran ?_
      trackerStep_counted
    unfold PendingBuffersMap.Counted
    rw [fresh.buffers, fresh.numBuffers]
    rfl
  refine ⟨counted, ?_⟩
  intro small
  rw [counted]
  exact UInt32.toNat_ofNat_of_lt' small

/-- A preview and a jpeg buffer are pending once the raw frame is back. -/
theorem trackerRun_numBuffers_twoPending : ∃ final log, trackerRun (opened true false)
          [rawEvent 1, liveEvent 2, reprocessEvent 3,
            .buffer 0 (rawBuffer 1) 1, urgentEvent 1, normalEvent 1] =
          some (final, log) ∧
        final.mPendingBuffersMap.numBuffers = 2 ∧
        final.mPendingBuffersMap.numBuffers = UInt32.ofNat
            final.mPendingBuffersMap.mPendingBufferList.length :=
  ⟨_, _, rfl, by decide, (trackerRun_numBuffers (opened_fresh true false)
      (show trackerRun (opened true false) [rawEvent 1, liveEvent 2, reprocessEvent 3,
          .buffer 0 (rawBuffer 1) 1, urgentEvent 1, normalEvent 1] =
        _ from rfl)).1⟩

end AnglerHal.Hal3
