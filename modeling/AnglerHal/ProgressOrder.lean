import AnglerHal.ProgressLog

namespace AnglerHal.Progress

/-!
# Final results in frame order

If nothing is lost and each kind of event comes in frame order, the last
partial results come out in frame order too: whatever closes a request finds
every older one closed.
-/

/-! ## Histories in sequence -/

/-- An event of the kind comes for a request only after those for all older ones. -/
def OlderFirst (kind : Nat → Event) (raws : List Bool) (past : List Event) : Prop :=
  ∀ frame other, kind frame ∈ past → ∀ raw ∈ raws, Event.request other raw ∈ past →
    other < frame → kind other ∈ past

/-- Each kind of event has come for all older requests. -/
structure Sequential (past : List Event) : Prop where
  requested : ∀ frame, Event.urgent frame ∈ past → ∃ raw, Event.request frame raw ∈ past
  answered : ∀ frame, Event.normal frame ∈ past → Event.urgent frame ∈ past
  urgents : OlderFirst .urgent [false, true] past
  normals : OlderFirst .normal [false, true] past
  levels : OlderFirst .level [true] past

theorem Sequential.empty : Sequential [] := by
  constructor <;> simp [OlderFirst]

/-- Both kinds of request are among the two. -/
theorem mem_kinds (raw : Bool) : raw ∈ [false, true] := by
  cases raw <;> simp

variable {past : List Event} {event : Event} {state next : State} {entries : List Entry}
  {entry other : Entry} {frame : Nat}

/-- One more event keeps the order of a kind when it is in order itself. -/
theorem OlderFirst.append {kind : Nat → Event} {raws : List Bool}
    (first : OlderFirst kind raws past)
    (own : ∀ frame, event = kind frame → ∀ other, ∀ raw ∈ raws,
      Event.request other raw ∈ past → other < frame → kind other ∈ past)
    (late : ∀ frame other raw, event = .request other raw → kind frame ∈ past → frame < other)
    (noRequest : ∀ frame other raw, kind frame ≠ .request other raw) :
    OlderFirst kind raws (past ++ [event]) := by
  intro frame other member raw inRaws requested below
  refine List.mem_append_left _ ?_
  rcases List.mem_append.mp member with old | isNew
  · rcases List.mem_append.mp requested with wasRequested | isNew
    · exact first frame other old raw inRaws wasRequested below
    · have above := late frame other raw (List.mem_singleton.mp isNew).symm old
      omega
  · have isOwn := (List.mem_singleton.mp isNew).symm
    rcases List.mem_append.mp requested with wasRequested | isNew
    · exact own frame isOwn other raw inRaws wasRequested below
    · exact absurd (isOwn.symm.trans (List.mem_singleton.mp isNew).symm) (noRequest _ _ _)

theorem Sequential.step (sequential : Sequential past) (inSequence : InSequence past event) :
    Sequential (past ++ [event]) := by
  have late (old : Event) (other : Nat) (raw : Bool) (isRequest : event = .request other raw)
      (inPast : old ∈ past) : old.frame < other := by
    subst isRequest
    exact inSequence old inPast
  refine ⟨?_, ?_, sequential.urgents.append ?_ (fun frame => late (.urgent frame)) nofun,
    sequential.normals.append ?_ (fun frame => late (.normal frame)) nofun,
    sequential.levels.append ?_ (fun frame => late (.level frame)) nofun⟩
  · intro frame member
    rcases List.mem_append.mp member with old | isNew
    · obtain ⟨raw, requested⟩ := sequential.requested frame old
      exact ⟨raw, List.mem_append_left _ requested⟩
    · cases List.mem_singleton.mp isNew
      obtain ⟨⟨raw, _, own⟩, _⟩ := inSequence
      exact ⟨raw, List.mem_append_left _ own⟩
  · intro frame member
    refine List.mem_append_left _ ?_
    rcases List.mem_append.mp member with old | isNew
    · exact sequential.answered frame old
    · cases List.mem_singleton.mp isNew
      exact inSequence.1
  · rintro frame rfl other raw inRaws requested below
    exact inSequence.2.2 _ requested raw inRaws rfl below
  · rintro frame rfl other raw inRaws requested below
    exact inSequence.2.2 _ requested raw inRaws rfl below
  · rintro frame rfl other raw inRaws requested below
    cases List.mem_singleton.mp inRaws
    exact inSequence.2 _ requested rfl below

theorem Sequential.lossy (sequential : Sequential past)
    (inSequence : InSequence past event) :
    Lossy past event := by
  cases event with
  | request frame raw => exact inSequence
  | urgent frame =>
    obtain ⟨⟨ownRaw, _, own⟩, new, _⟩ := inSequence
    refine ⟨?_, fun inPast => new (sequential.answered frame inPast)⟩
    intro event inPast isUrgent
    rw [isUrgent] at inPast
    by_contra notBelow
    rcases Nat.lt_or_eq_of_le (Nat.le_of_not_lt notBelow) with
      above | same
    · exact new (sequential.urgents _ frame inPast ownRaw (mem_kinds _) own above)
    · exact new (same ▸ inPast)
  | normal frame =>
    obtain ⟨own, new, _⟩ := inSequence
    obtain ⟨ownRaw, requested⟩ := sequential.requested frame own
    intro event inPast isNormal
    rw [isNormal] at inPast
    by_contra notBelow
    rcases Nat.lt_or_eq_of_le (Nat.le_of_not_lt notBelow) with
      above | same
    · exact new (sequential.normals _ frame inPast ownRaw (mem_kinds _) requested above)
    · exact new (same ▸ inPast)
  | level frame => exact inSequence.1

theorem InSequence.tolerated (inSequence : InSequence past event) :
    Tolerated past event := by
  cases event with
  | request frame raw => trivial
  | urgent frame =>
    intro event inPast isRaw below _
    exact ⟨event.frame, inSequence.2.2 event inPast true (mem_kinds true) isRaw below,
      Nat.le_refl _⟩
  | normal frame =>
    refine ⟨⟨frame, inSequence.1, Nat.le_refl _⟩, ?_⟩
    intro event inPast isRaw below
    exact inSequence.2.2 event inPast true (mem_kinds true) isRaw below
  | level frame => trivial

/-! ## The order of final results -/

/-- The frames of the last partial results, in the order they were sent. -/
def finals (partials : List (Nat × Nat)) : List Nat :=
  (partials.filter fun sent => sent.2 == finalCount).map Prod.fst

@[simp]
theorem finals_append (earlier later : List (Nat × Nat)) :
    finals (earlier ++ later) = finals earlier ++ finals later := by
  simp [finals]

/-- Final results come in frame order, and before those of open requests. -/
structure FinalsOrdered (state : State) : Prop where
  increasing : (finals state.partials).Pairwise (· < ·)
  below : ∀ frame ∈ finals state.partials, ∀ entry ∈ state.entries, frame < entry.frame

theorem FinalsOrdered.empty : FinalsOrdered State.empty := by
  constructor <;> simp [State.empty, finals]

theorem FinalsOrdered.advance {added : List (Nat × Nat)} {failed : List Nat}
    (ordered : FinalsOrdered state) (advances : Advances past state next added failed)
    (increasing : (finals added).Pairwise (· < ·))
    (oldest : ∀ frame ∈ finals added, ∀ entry ∈ next.entries, frame < entry.frame) :
    FinalsOrdered next := by
  have isOpen : ∀ frame ∈ finals added, ∃ entry ∈ state.entries, entry.frame = frame := by
    intro frame inFinals
    by_contra closed
    have nothing := (advances.silent frame fun entry member same =>
        closed ⟨entry, member, same⟩).1
    simp only [finals, List.mem_map, List.mem_filter] at inFinals
    obtain ⟨sent, ⟨inAdded, _⟩, rfl⟩ := inFinals
    have inPartials : sent.2 ∈ partialsOf sent.1 added :=
      List.mem_map_of_mem (List.mem_filter.mpr ⟨inAdded, by simp⟩)
    simp [nothing] at inPartials
  refine ⟨?_, ?_⟩
  · rw [advances.partials, finals_append, List.pairwise_append]
    refine ⟨ordered.increasing, increasing, ?_⟩
    intro old inOld frame inAdded
    obtain ⟨entry, member, rfl⟩ := isOpen frame inAdded
    exact ordered.below old inOld entry member
  · intro frame inFinals later member
    rw [advances.partials, finals_append, List.mem_append] at inFinals
    rcases inFinals with old | new
    · obtain ⟨entry, inEntries, same, _⟩ := advances.kept later member
      rw [same]
      exact ordered.below frame old entry inEntries
    · exact oldest frame new later member

theorem finals_filterMap_increasing (ordered : Ordered entries)
    {sends : Entry → Option (Nat × Nat)}
    (own : ∀ entry sent, sends entry = some sent → sent.1 = entry.frame) :
    (finals (entries.filterMap sends)).Pairwise (· < ·) := by
  unfold finals
  rw [List.pairwise_map]
  refine List.Pairwise.filter _ ?_
  rw [List.pairwise_filterMap]
  refine ordered.imp ?_
  intro earlier later below first sendsFirst second sendsSecond
  have firstFrame := own earlier first sendsFirst
  have secondFrame := own later second sendsSecond
  omega

theorem Agrees.unlevelled_raw (agrees : Agrees entries past) (member : entry ∈ entries)
    (answered : Event.normal entry.frame ∈ past) :
    ∃ raw ∈ entries, raw.raw = true ∧ raw.frame ≤ entry.frame ∧ Event.level raw.frame ∉ past := by
  have oldest : ∃ raw ∈ entries, raw.raw = true ∧ raw.frame ≤ entry.frame := by
    cases isRaw : entry.raw with
    | true => exact ⟨entry, member, isRaw, Nat.le_refl _⟩
    | false =>
      obtain ⟨raw, inEntries, rawRaw, older⟩ :=
        agrees.blockedBy entry member isRaw ((agrees.answered entry member).mpr answered)
      exact ⟨raw, inEntries, rawRaw, Nat.le_of_lt older⟩
  obtain ⟨raw, inEntries, isRaw, notAbove⟩ := oldest
  refine ⟨raw, inEntries, isRaw, notAbove, ?_⟩
  intro levelled
  have rawAnswered :=
    (agrees.answered raw inEntries).mp (agrees.due raw inEntries entry.frame answered notAbove)
  have seen := agrees.covered raw.frame rawAnswered
  have counts := agrees.count raw inEntries
  have unfinished := agrees.unfinished raw inEntries
  simp [expectedCount, isRaw, levelled, rawAnswered, seen] at counts
  simp [counts, finalCount] at unfinished

theorem Agrees.oldest_of_normal (agrees : Agrees entries past)
    (sequential : Sequential past) (inSequence : InSequence past (.normal frame))
    (member : entry ∈ entries) (own : entry.frame = frame)
    (final : entry.normalCount (blocked frame entries) = finalCount)
    (inEntries : other ∈ entries) :
    frame ≤ other.frame := by
  by_contra notAbove
  have older : other.frame < frame := Nat.lt_of_not_le notAbove
  obtain ⟨raw, inRaw, isRaw, notAboveRaw, unlevelled⟩ :=
    agrees.unlevelled_raw inEntries (inSequence.2.2 _ (agrees.requested other inEntries) other.raw
        (mem_kinds _) rfl older)
  have isBlocked : blocked frame entries = true := by
    refine List.any_eq_true.mpr ⟨raw, inRaw, ?_⟩
    simp only [isRaw, Bool.true_and, decide_eq_true_eq]
    omega
  have counts := agrees.count_normal (agrees.admissible (sequential.lossy inSequence)
        inSequence.tolerated) member own
  simp only [Entry.normalCount, isBlocked, Bool.true_eq_false, and_false, if_false] at final
  unfold finalCount at final
  -- the request is raw and has its black level, but the older one has not
  have levelled : Event.level frame ∈ past := by
    by_contra missing
    simp [missing] at counts
    omega
  have requested := agrees.requested raw inRaw
  rw [isRaw] at requested
  exact unlevelled (sequential.levels frame raw.frame levelled true (by simp) requested (by omega))

theorem Agrees.oldest_of_level (agrees : Agrees entries past)
    (sequential : Sequential past) (inSequence : InSequence past (.level entry.frame))
    (member : entry ∈ entries) (final : entry.count + 1 = finalCount)
    (inEntries : other ∈ entries) :
    entry.frame ≤ other.frame := by
  by_contra notAbove
  have older : other.frame < entry.frame := Nat.lt_of_not_le notAbove
  have answered := agrees.answered_of_count member final (fun levelled => inSequence.1 levelled.2)
  obtain ⟨raw, inRaw, isRaw, notAboveRaw, unlevelled⟩ :=
    agrees.unlevelled_raw inEntries (sequential.normals _ _ answered _ (mem_kinds _)
        (agrees.requested other inEntries) older)
  have requested := agrees.requested raw inRaw
  rw [isRaw] at requested
  have below : raw.frame < entry.frame := by omega
  exact unlevelled (inSequence.2 _ requested rfl below)

theorem Agrees.normalPartial_final {isBlocked : Bool} (agrees : Agrees entries past)
    (inSequence : InSequence past (.normal frame)) {sent : Nat × Nat}
    (member : entry ∈ entries) (sends : entry.normalPartial frame isBlocked = some sent)
    (isFinal : sent.2 = finalCount) :
    entry.frame = frame ∧ entry.normalCount isBlocked = finalCount ∧
      sent = (entry.frame, finalCount) := by
  have notMissed : entry.missed frame = false := by
    rw [Bool.eq_false_iff]
    intro missed
    simp only [Entry.missed, Bool.and_eq_true, decide_eq_true_eq, Bool.not_eq_true'] at missed
    have answered :=
      (agrees.answered entry member).mpr (inSequence.2.2 _ (agrees.requested entry member) entry.raw
          (mem_kinds _) rfl missed.1.1)
    simp [answered] at missed
  simp only [Entry.normalPartial, notMissed, Bool.false_eq_true, if_false] at sends
  split_ifs at sends with own
  obtain rfl := Option.some.inj sends
  simp only at isFinal
  exact ⟨own, isFinal, by rw [isFinal]⟩

theorem FinalsOrdered.levelStep (ordered : FinalsOrdered state)
    (agrees : Agrees state.entries past) (sequential : Sequential past)
    (inSequence : InSequence past (.level frame)) (levelled : Levelled state frame next) :
    FinalsOrdered next := by
  cases levelled with
  | ignored noRaw => exact ordered
  | counted split own isRaw stays =>
    refine ordered.advance (agrees.levelCountedAdvances split own) ?_ ?_
    · simp [finals, stays]
    · simp [finals, stays]
  | @closed before later entry split own isRaw final =>
    subst own
    have member : entry ∈ state.entries := by simp [split]
    have inOrder := agrees.ordered
    unfold Ordered at inOrder
    rw [split, List.pairwise_append, List.pairwise_cons] at inOrder
    obtain ⟨_, ⟨entryLater, laterOrdered⟩, beforeEntry⟩ := inOrder
    have laterSplit := (List.takeWhile_append_dropWhile (p := Entry.deferred) (l := later)).symm
    rw [laterSplit, List.pairwise_append] at laterOrdered
    have released : finals ((entry.frame, finalCount) ::
            (later.takeWhile Entry.deferred).map fun waiting =>
              (waiting.frame, finalCount)) =
          entry.frame :: (later.takeWhile Entry.deferred).map Entry.frame := by
      simp [finals, List.filter_map, Function.comp_def]
    refine ordered.advance (agrees.levelClosedAdvances inSequence.1 split final) ?_ ?_
    · rw [released, List.pairwise_cons, List.pairwise_map]
      refine ⟨?_, laterOrdered.1⟩
      intro frame inReleased
      obtain ⟨waiting, inLater, rfl⟩ := List.mem_map.mp inReleased
      exact entryLater waiting ((List.takeWhile_sublist _).subset inLater)
    · rw [released]
      intro frame inReleased kept inKept
      rcases List.mem_append.mp inKept with inBefore | inRest
      · -- nothing is left before the closed request
        have below := beforeEntry kept inBefore entry (by simp)
        have oldest := agrees.oldest_of_level sequential inSequence member final
            (show kept ∈ state.entries by simp [split, inBefore])
        omega
      · rcases List.mem_cons.mp inReleased with rfl | inReleased
        · exact entryLater kept ((List.dropWhile_sublist _).subset inRest)
        · obtain ⟨waiting, inLater, rfl⟩ := List.mem_map.mp inReleased
          exact laterOrdered.2.2 waiting inLater kept inRest

theorem FinalsOrdered.step (ordered : FinalsOrdered state) (sent : Sent state past)
    (agrees : Agrees state.entries past) (sequential : Sequential past)
    (inSequence : InSequence past event) :
    FinalsOrdered (Progress.step state event) := by
  have admissible := agrees.admissible (sequential.lossy inSequence) inSequence.tolerated
  cases event with
  | request frame raw =>
    refine ⟨ordered.increasing, ?_⟩
    intro final inFinals entry member
    rcases List.mem_append.mp member with old | isNew
    · exact ordered.below final inFinals entry old
    · rw [List.mem_singleton] at isNew
      subst entry
      simp only [finals, List.mem_map, List.mem_filter] at inFinals
      obtain ⟨pair, ⟨inPartials, _⟩, rfl⟩ := inFinals
      have some : partialsOf pair.1 state.partials ≠ [] :=
        List.ne_nil_of_mem (List.mem_map_of_mem (List.mem_filter.mpr ⟨inPartials, by simp⟩))
      obtain ⟨_, requested⟩ := sent.known pair.1 (.inl some)
      exact inSequence _ requested
  | urgent frame =>
    have advances := agrees.urgentAdvances admissible
    have none : finals (state.entries.filterMap (Entry.urgentPartial frame)) = [] := by
      simp only [finals, List.map_eq_nil_iff, List.filter_eq_nil_iff]
      intro pair inSent isFinal
      obtain ⟨entry, member, sends⟩ := List.mem_filterMap.mp inSent
      have unfinished := (agrees.count_urgent admissible member).2
      unfold Entry.urgentPartial at sends
      split_ifs at sends with here
      obtain rfl := Option.some.inj sends
      have noted : (entry.noteUrgent frame).count = entry.count + 1 := by
        rw [Entry.noteUrgent, if_neg (by omega), if_pos here]
      simp only [beq_iff_eq] at isFinal
      omega
    refine ordered.advance advances ?_ ?_
    · rw [none]
      exact .nil
    · simp [none]
  | normal frame =>
    have advances := agrees.normalAdvances admissible
    refine ordered.advance advances ?_ ?_
    · refine finals_filterMap_increasing agrees.ordered ?_
      intro entry pair sends
      unfold Entry.normalPartial at sends
      split_ifs at sends <;> (obtain rfl := Option.some.inj sends; rfl)
    · intro final inFinals later member
      simp only [finals, List.mem_map, List.mem_filter, beq_iff_eq] at inFinals
      obtain ⟨pair, ⟨inSent, isFinal⟩, rfl⟩ := inFinals
      obtain ⟨entry, inEntries, sends⟩ := List.mem_filterMap.mp inSent
      obtain ⟨own, last, rfl⟩ :=
        agrees.normalPartial_final inSequence inEntries sends isFinal
      obtain ⟨other, inOthers, sameFrame, _, _, here | elsewhere⟩ := mem_noteNormal member
      · -- the closed request itself is not kept
        exfalso
        obtain ⟨otherOwn, _, counted, stays⟩ := here
        obtain rfl : other = entry :=
          agrees.ordered.eq_of_frame inOthers inEntries (otherOwn.trans own.symm)
        exact stays (counted.trans last)
      · have oldest := agrees.oldest_of_normal sequential inSequence inEntries own last inOthers
        have apart := elsewhere.1
        simp only
        omega
  | level frame =>
    exact ordered.levelStep agrees sequential inSequence (step_level agrees.ordered frame)

/-! ## Runs -/

/-- What every event keeps under a condition, a run under it keeps. -/
theorem Along.run {condition : List Event → Event → Prop}
    (invariant : State → List Event → Prop) {state : State} {past events : List Event}
    (along : Along condition past events) (start : invariant state past)
    (preserved : ∀ {state past event}, invariant state past → condition past event →
        invariant (Progress.step state event) (past ++ [event])) :
    invariant (Progress.run state events) (past ++ events) := by
  induction events generalizing state past with
  | nil => simpa [Progress.run] using start
  | cons event rest inductionHypothesis =>
    obtain ⟨head, tail⟩ := along
    have later := inductionHypothesis tail (preserved start head)
    simpa [Progress.run] using later

/-- Two conditions hold along together. -/
theorem Along.and {first second : List Event → Event → Prop} {events : List Event}
    (holds : Along first past events) (alsoHolds : Along second past events) :
    Along (fun past event => first past event ∧ second past event)
      past events := by
  induction events generalizing past with
  | nil => trivial
  | cons event rest inductionHypothesis =>
    exact ⟨⟨holds.1, alsoHolds.1⟩, inductionHypothesis holds.2 alsoHolds.2⟩

/-- Requests and log agree with a history of tolerated losses. -/
structure Counted (state : State) (past : List Event) : Prop where
  agrees : Agrees state.entries past
  sent : Sent state past

/-- Before the first event. -/
theorem Counted.empty : Counted State.empty [] :=
  ⟨.empty, .empty⟩

/-- Tolerated losses keep the counting right. -/
theorem Counted.step (counted : Counted state past) (lossy : Lossy past event)
    (tolerated : Tolerated past event) :
    Counted (Progress.step state event) (past ++ [event]) := by
  have admissible := counted.agrees.admissible lossy tolerated
  exact ⟨counted.agrees.step admissible, counted.sent.step counted.agrees admissible⟩

/-- The counting on a history in sequence. -/
structure CountedInSequence (state : State) (past : List Event) : Prop where
  counted : Counted state past
  sequential : Sequential past
  finals : FinalsOrdered state

/-- Before the first event. -/
theorem CountedInSequence.empty : CountedInSequence State.empty [] :=
  ⟨.empty, .empty, .empty⟩

/-- Events in sequence keep the counting right and the final results in order. -/
theorem CountedInSequence.step (inOrder : CountedInSequence state past)
    (inSequence : InSequence past event) :
    CountedInSequence (Progress.step state event) (past ++ [event]) where
  counted :=
    inOrder.counted.step (inOrder.sequential.lossy inSequence) inSequence.tolerated
  sequential := inOrder.sequential.step inSequence
  finals :=
    inOrder.finals.step inOrder.counted.sent inOrder.counted.agrees inOrder.sequential inSequence

end AnglerHal.Progress
