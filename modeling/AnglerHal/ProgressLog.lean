import AnglerHal.ProgressInvariant

namespace AnglerHal.Progress

/-!
# The log of partial results

The partial results of a request increase.  While the request is open they stay
below the last one; when it is closed the last one has been sent, together with
an error exactly if its normal metadata was lost.
-/

/-! ## What one event adds to the log -/

theorem partialsOf_filterMap_of_mem {entries : List Entry} (ordered : Ordered entries)
    {sends : Entry → Option (Nat × Nat)}
    (own : ∀ entry sent, sends entry = some sent → sent.1 = entry.frame) {entry : Entry}
    (member : entry ∈ entries) :
    partialsOf entry.frame (entries.filterMap sends) = (sends entry).toList.map Prod.snd := by
  unfold partialsOf
  rw [filterMap_filter_of_mem ordered own member]

variable {entries before later : List Entry} {frame : Nat} {entry : Entry}
  {state next : State} {past : List Event} {event : Event}

theorem partialsOf_filterMap_of_absent {sends : Entry → Option (Nat × Nat)}
    (own : ∀ entry sent, sends entry = some sent → sent.1 = entry.frame)
    (absent : ∀ entry ∈ entries, entry.frame ≠ frame) :
    partialsOf frame (entries.filterMap sends) = [] := by
  unfold partialsOf
  rw [filterMap_filter_of_absent own absent, List.map_nil]

theorem partialsOf_map_of_mem (ordered : Ordered entries) (value : Entry → Nat)
    (member : entry ∈ entries) :
    partialsOf entry.frame (entries.map fun other => (other.frame, value other)) =
      [value entry] := by
  rw [← List.filterMap_eq_map, partialsOf_filterMap_of_mem ordered (by simp) member]
  rfl

theorem partialsOf_map_of_absent (value : Entry → Nat)
    (absent : ∀ entry ∈ entries, entry.frame ≠ frame) :
    partialsOf frame (entries.map fun other => (other.frame, value other)) = [] := by
  rw [← List.filterMap_eq_map, partialsOf_filterMap_of_absent (by simp) absent]

/--
A metadata or black level sends for each open request at most one partial
result, above its count, and closes it only with the last one.
-/
structure Advances (past : List Event) (state next : State) (sent : List (Nat × Nat))
    (failed : List Nat) : Prop where
  partials : next.partials = state.partials ++ sent
  errors : next.errors = state.errors ++ failed
  silent : ∀ frame, (∀ entry ∈ state.entries, entry.frame ≠ frame) →
    partialsOf frame sent = [] ∧ frame ∉ failed
  single : ∀ entry ∈ state.entries, (partialsOf entry.frame sent).length ≤ 1
  above : ∀ entry ∈ state.entries, ∀ value ∈ partialsOf entry.frame sent,
      entry.count < value ∧ value ≤ finalCount
  kept : ∀ later ∈ next.entries, ∃ entry ∈ state.entries,
    later.frame = entry.frame ∧ entry.count ≤ later.count ∧
      (∀ value ∈ partialsOf entry.frame sent, value ≤ later.count) ∧
      entry.frame ∉ failed
  closed : ∀ entry ∈ state.entries, (∀ later ∈ next.entries, later.frame ≠ entry.frame) →
    finalCount ∈ partialsOf entry.frame sent ∧ failed.count entry.frame =
        (if Event.normal entry.frame ∈ past then 0 else 1) ∧
      ∃ frame, Event.normal frame ∈ past ∧ entry.frame ≤ frame

/-- What urgent metadata adds to the log. -/
theorem Agrees.urgentAdvances (agrees : Agrees state.entries past)
    (admissible : Admissible state.entries past (.urgent frame)) :
    Advances (past ++ [Event.urgent frame]) state (Progress.step state (.urgent frame))
      (state.entries.filterMap (Entry.urgentPartial frame)) [] := by
  have own : ∀ entry sent, Entry.urgentPartial frame entry = some sent → sent.1 = entry.frame := by
    intro entry sent sends
    unfold Entry.urgentPartial at sends
    split_ifs at sends with here
    obtain rfl := Option.some.inj sends
    exact here.1.symm
  have value : ∀ entry ∈ state.entries, ∀ value ∈ partialsOf entry.frame
            (state.entries.filterMap (Entry.urgentPartial frame)),
          value = entry.count + 1 ∧ value = (entry.noteUrgent frame).count := by
    intro entry member value inSent
    rw [partialsOf_filterMap_of_mem agrees.ordered own member] at inSent
    unfold Entry.urgentPartial at inSent
    split_ifs at inSent with here
    · simp only [Option.toList_some, List.map_cons, List.map_nil, List.mem_singleton] at inSent
      refine ⟨inSent, ?_⟩
      rw [inSent, Entry.noteUrgent, if_neg (by omega), if_pos here]
    · simp at inSent
  refine ⟨rfl, by simp [Progress.step], ?_, ?_, ?_, ?_, ?_⟩
  · intro other absent
    exact ⟨partialsOf_filterMap_of_absent own absent, List.not_mem_nil⟩
  · intro entry member
    rw [partialsOf_filterMap_of_mem agrees.ordered own member, List.length_map]
    exact Option.length_toList_le
  · intro entry member sent inSent
    obtain ⟨counted, noted⟩ := value entry member sent inSent
    have unfinished := (agrees.count_urgent admissible member).2
    omega
  · intro later inLater
    obtain ⟨entry, member, rfl⟩ := List.mem_map.mp inLater
    refine ⟨entry, member, Entry.noteUrgent_frame frame entry,
      Entry.count_le_noteUrgent frame entry, ?_, List.not_mem_nil⟩
    intro sent inSent
    exact Nat.le_of_eq (value entry member sent inSent).2
  · intro entry member gone
    exact absurd (Entry.noteUrgent_frame frame entry) (gone _ (List.mem_map_of_mem member))

theorem Agrees.normalCount_bounds (agrees : Agrees entries past)
    (admissible : Admissible entries past (.normal frame)) (member : entry ∈ entries)
    (own : entry.frame = frame) :
    entry.count < entry.normalCount (blocked frame entries) ∧
      entry.normalCount (blocked frame entries) ≤ finalCount := by
  have counts := agrees.count_normal admissible member own
  unfold Entry.normalCount finalCount
  cases isRaw : entry.raw with
  | false => cases isBlocked : blocked frame entries <;> simp_all
  | true => by_cases levelled : Event.level frame ∈ past <;> simp_all

theorem count_normalError {entries : List Entry} (ordered : Ordered entries)
    {frame : Nat} {entry : Entry} (member : entry ∈ entries) :
    (entries.filterMap (Entry.normalError frame)).count entry.frame =
      if entry.missed frame then 1 else 0 := by
  have own : ∀ other sent, Entry.normalError frame other = some sent → sent = other.frame := by
    intro other sent fails
    unfold Entry.normalError at fails
    split_ifs at fails
    exact (Option.some.inj fails).symm
  have failed := @filterMap_filter_of_mem _ _ ordered _ id own _ member
  simp only [id_eq] at failed
  rw [List.count_eq_length_filter, failed]
  unfold Entry.normalError
  split_ifs <;> rfl

/-- What normal metadata adds to the log. -/
theorem Agrees.normalAdvances (agrees : Agrees state.entries past)
    (admissible : Admissible state.entries past (.normal frame)) :
    Advances (past ++ [Event.normal frame]) state (Progress.step state (.normal frame))
      (state.entries.filterMap (Entry.normalPartial frame (blocked frame state.entries)))
      (state.entries.filterMap (Entry.normalError frame)) := by
  have own : ∀ entry sent, Entry.normalPartial frame (blocked frame state.entries) entry =
          some sent →
        sent.1 = entry.frame := by
    intro entry sent sends
    unfold Entry.normalPartial at sends
    split_ifs at sends <;> (obtain rfl := Option.some.inj sends; rfl)
  have sends := fun entry => @partialsOf_filterMap_of_mem _ agrees.ordered _ own entry
  have fails := fun entry => @count_normalError _ agrees.ordered frame entry
  refine ⟨rfl, rfl, ?_, ?_, ?_, ?_, ?_⟩
  · intro other absent
    refine ⟨partialsOf_filterMap_of_absent own absent, ?_⟩
    intro inFailed
    obtain ⟨entry, member, failed⟩ := List.mem_filterMap.mp inFailed
    unfold Entry.normalError at failed
    split_ifs at failed
    exact absent entry member (Option.some.inj failed)
  · intro entry member
    rw [sends entry member, List.length_map]
    cases Entry.normalPartial frame (blocked frame state.entries) entry <;>
      simp
  · intro entry member value inSent
    rw [sends entry member] at inSent
    unfold Entry.normalPartial at inSent
    split_ifs at inSent with missed here
    · simp only [Option.toList_some, List.map_cons, List.map_nil, List.mem_singleton] at inSent
      exact ⟨inSent ▸ agrees.unfinished entry member, inSent.le⟩
    · simp only [Option.toList_some, List.map_cons, List.map_nil, List.mem_singleton] at inSent
      rw [inSent]
      exact agrees.normalCount_bounds admissible member here
    · simp at inSent
  · intro later inLater
    obtain ⟨entry, member, sameFrame, _, _, here | elsewhere⟩ := mem_noteNormal inLater
    · obtain ⟨ownFrame, _, counted, _⟩ := here
      have notMissed : entry.missed frame = false := by
        simp [Entry.missed, ownFrame]
      refine ⟨entry, member, sameFrame, ?_, ?_, ?_⟩
      · rw [counted]
        exact Nat.le_of_lt (agrees.normalCount_bounds admissible member ownFrame).1
      · rw [sends entry member]
        simp [Entry.normalPartial, notMissed, ownFrame, counted]
      · rw [← List.count_eq_zero, fails entry member]
        simp [notMissed]
    · obtain ⟨apart, notMissed, rfl⟩ := elsewhere
      refine ⟨later, member, rfl, Nat.le_refl _, ?_, ?_⟩
      · rw [sends later member]
        simp [Entry.normalPartial, notMissed, apart]
      · rw [← List.count_eq_zero, fails later member]
        simp [notMissed]
  · intro entry member gone
    have noted : Entry.noteNormal frame (blocked frame state.entries) entry =
          none := by
      by_contra some
      obtain ⟨later, notes⟩ := Option.ne_none_iff_exists'.mp some
      exact gone later (List.mem_filterMap.mpr ⟨entry, member, notes⟩)
        (Entry.noteNormal_frame notes)
    rw [sends entry member, fails entry member]
    unfold Entry.noteNormal at noted
    split_ifs at noted with missed here final
    · -- its normal metadata was lost
      have older : entry.frame < frame ∧ entry.answered = false := by
        simp [Entry.missed] at missed
        exact ⟨missed.1.1, missed.2⟩
      have lost : Event.normal entry.frame ∉ past ++ [Event.normal frame] := by
        have answered := agrees.answered entry member
        simp only [older.2, Bool.false_eq_true, false_iff] at answered
        simp [answered, Nat.ne_of_lt older.1]
      refine ⟨by simp [Entry.normalPartial, missed], ?_, frame, by simp, Nat.le_of_lt older.1⟩
      simp [missed, lost]
    · refine ⟨by simp [Entry.normalPartial, missed, here, final], ?_,
        frame, by simp, Nat.le_of_eq here⟩
      simp [missed, here]

/-- An open request that a black level would close has its normal metadata. -/
theorem Agrees.answered_of_count (agrees : Agrees entries past)
    (member : entry ∈ entries) (counted : entry.count + 1 = finalCount)
    (unlevelled : ¬ (entry.raw = true ∧ Event.level entry.frame ∈ past)) :
    Event.normal entry.frame ∈ past := by
  by_contra lost
  have counts := agrees.count entry member
  simp only [expectedCount, lost, unlevelled, if_false] at counts
  unfold finalCount at counted
  split_ifs at counts <;> omega

/-- What a black level that is counted adds to the log. -/
theorem Agrees.levelCountedAdvances (agrees : Agrees state.entries past)
    (split : state.entries = before ++ entry :: later) (own : entry.frame = frame) :
    Advances (past ++ [Event.level frame]) state { state with
          entries :=
            before ++ { entry with count := entry.count + 1 } :: later
          partials := state.partials ++ [(frame, entry.count + 1)] }
      [(frame, entry.count + 1)] [] := by
  have member : entry ∈ state.entries := by simp [split]
  have around := (split ▸ agrees.ordered).around
  have unfinished := agrees.unfinished entry member
  refine ⟨rfl, by simp, ?_, ?_, ?_, ?_, ?_⟩
  · intro other absent
    have apart := absent entry member
    simp [partialsOf, ← own, apart]
  · intro other _
    unfold partialsOf
    rw [List.length_map]
    exact List.length_filter_le _ _
  · intro other inEntries value inSent
    simp only [partialsOf, List.mem_map, List.mem_filter, List.mem_singleton, beq_iff_eq] at inSent
    obtain ⟨_, ⟨rfl, here⟩, rfl⟩ := inSent
    obtain rfl : other = entry :=
      agrees.ordered.eq_of_frame inEntries member (own.trans here).symm
    exact ⟨Nat.lt_succ_self _, unfinished⟩
  · intro updated inUpdated
    simp only [List.mem_append, List.mem_cons] at inUpdated
    rcases inUpdated with inBefore | rfl | inLater
    · have below := around.1 updated inBefore
      have apart : frame ≠ updated.frame := by omega
      exact ⟨updated, by simp [split, inBefore], rfl, Nat.le_refl _,
        by simp [partialsOf, apart], by simp⟩
    · exact ⟨entry, member, rfl, Nat.le_succ _, by simp [partialsOf, own], by simp⟩
    · have above := around.2 updated inLater
      have apart : frame ≠ updated.frame := by omega
      exact ⟨updated, by simp [split, inLater], rfl, Nat.le_refl _,
        by simp [partialsOf, apart], by simp⟩
  · intro other inEntries gone
    rw [split, List.mem_append, List.mem_cons] at inEntries
    rcases inEntries with inBefore | rfl | inLater
    · exact absurd rfl (gone other (by simp [inBefore]))
    · exact absurd rfl (gone { other with count := other.count + 1 } (by simp))
    · exact absurd rfl (gone other (by simp [inLater]))

/-- What a black level that closes its request adds to the log. -/
theorem Agrees.levelClosedAdvances (agrees : Agrees state.entries past)
    (new : Event.level entry.frame ∉ past)
    (split : state.entries = before ++ entry :: later)
    (final : entry.count + 1 = finalCount) :
    Advances (past ++ [Event.level entry.frame]) state { state with
          entries := before ++ later.dropWhile Entry.deferred
          partials :=
            state.partials ++ (entry.frame, finalCount) ::
              (later.takeWhile Entry.deferred).map fun waiting =>
                (waiting.frame, finalCount) }
      ((entry.frame, finalCount) :: (later.takeWhile Entry.deferred).map fun waiting =>
          (waiting.frame, finalCount)) [] := by
  let closing := entry :: later.takeWhile Entry.deferred
  have member : entry ∈ state.entries := by simp [split]
  have apart : state.entries = before ++ closing ++ later.dropWhile Entry.deferred := by
    simp [closing, split, List.takeWhile_append_dropWhile]
  have closingSub : closing.Sublist state.entries := by
    rw [apart, List.append_assoc]
    exact (List.sublist_append_left _ _).trans (List.sublist_append_right _ _)
  have ordered : Ordered closing := List.Pairwise.sublist closingSub agrees.ordered
  have waiting : ∀ other ∈ closing, other.count + 1 = finalCount ∧
          Event.normal other.frame ∈ past := by
    intro other inClosing
    have inEntries := closingSub.subset inClosing
    rcases List.mem_cons.mp inClosing with rfl | inLater
    · exact ⟨final, agrees.answered_of_count inEntries final (fun levelled => new levelled.2)⟩
    · have deferred := List.mem_takeWhile_imp inLater
      simp only [Entry.deferred, finalCount, Bool.and_eq_true,
        beq_iff_eq, Bool.not_eq_true'] at deferred
      have counted : other.count + 1 = finalCount := by
        simp [deferred.1, finalCount]
      exact ⟨counted, agrees.answered_of_count inEntries counted (by simp [deferred.2])⟩
  have keptApart : ∀ kept ∈ before ++ later.dropWhile Entry.deferred,
        ∀ other ∈ closing, other.frame ≠ kept.frame := by
    have inOrder := agrees.ordered
    unfold Ordered at inOrder
    rw [apart, List.pairwise_append, List.pairwise_append] at inOrder
    obtain ⟨⟨_, _, beforeClosing⟩, _, closingRest⟩ := inOrder
    intro kept inKept other inClosing
    rcases List.mem_append.mp inKept with inBefore | inRest
    · exact Nat.ne_of_gt (beforeClosing kept inBefore other inClosing)
    · exact Nat.ne_of_lt (closingRest other (List.mem_append_right _ inClosing) kept inRest)
  have sent : (entry.frame, finalCount) :: ((later.takeWhile Entry.deferred).map fun waiting =>
            (waiting.frame, finalCount)) =
        closing.map fun other => (other.frame, finalCount) :=
    rfl
  rw [sent]
  refine ⟨rfl, by simp, ?_, ?_, ?_, ?_, ?_⟩
  · intro other absent
    refine ⟨partialsOf_map_of_absent _ ?_, by simp⟩
    intro closed inClosing
    exact absent closed (closingSub.subset inClosing)
  · intro other inEntries
    by_cases inClosing : other ∈ closing
    · rw [partialsOf_map_of_mem ordered _ inClosing]
      simp
    · rw [partialsOf_map_of_absent]
      · simp
      · intro closed isClosed same
        exact inClosing (agrees.ordered.eq_of_frame
          (closingSub.subset isClosed) inEntries same ▸ isClosed)
  · intro other inEntries value inSent
    have unfinished := agrees.unfinished other inEntries
    simp only [partialsOf, List.mem_map, List.mem_filter] at inSent
    obtain ⟨_, ⟨⟨_, _, rfl⟩, _⟩, rfl⟩ := inSent
    exact ⟨unfinished, Nat.le_refl _⟩
  · intro kept inKept
    refine ⟨kept, ?_, rfl, Nat.le_refl _, ?_, by simp⟩
    · rw [apart]
      rcases List.mem_append.mp inKept with inBefore | inRest
      · simp [inBefore]
      · simp [inRest]
    · rw [partialsOf_map_of_absent _ (keptApart kept inKept)]
      simp
  · intro other inEntries gone
    have inClosing : other ∈ closing := by
      rw [apart, List.append_assoc] at inEntries
      rcases List.mem_append.mp inEntries with inBefore | inRest
      · exact absurd rfl (gone other (List.mem_append_left _ inBefore))
      · rcases List.mem_append.mp inRest with inClosing | inRest
        · exact inClosing
        · exact absurd rfl (gone other (List.mem_append_right _ inRest))
    have answered := (waiting other inClosing).2
    refine ⟨?_, ?_, other.frame, by simp [answered], Nat.le_refl _⟩
    · rw [partialsOf_map_of_mem ordered _ inClosing]
      simp
    · simp [answered]

theorem Agrees.levelAdvances (agrees : Agrees state.entries past)
    (new : Event.level frame ∉ past) (levelled : Levelled state frame next) :
    ∃ sent, Advances (past ++ [Event.level frame]) state next sent [] := by
  cases levelled with
  | ignored noRaw =>
    refine ⟨[], by simp, by simp, by simp [partialsOf],
      by simp [partialsOf], by simp [partialsOf], ?_, ?_⟩
    · intro later member
      exact ⟨later, member, rfl, Nat.le_refl _, by simp [partialsOf], by simp⟩
    · intro entry member gone
      exact absurd rfl (gone entry member)
  | counted split own isRaw stays => exact ⟨_, agrees.levelCountedAdvances split own⟩
  | closed split own isRaw final =>
    subst own
    exact ⟨_, agrees.levelClosedAdvances new split final⟩

/-! ## The log along runs -/

/-- The log agrees with the open requests and the history. -/
structure Sent (state : State) (past : List Event) : Prop where
  known : ∀ frame, partialsOf frame state.partials ≠ [] ∨ frame ∈ state.errors →
    ∃ raw, Event.request frame raw ∈ past
  increasing : ∀ frame, (partialsOf frame state.partials).Pairwise (· < ·)
  bounded : ∀ frame, ∀ value ∈ partialsOf frame state.partials, value ≤ finalCount
  pending : ∀ entry ∈ state.entries, (∀ value ∈ partialsOf entry.frame state.partials,
        value ≤ entry.count) ∧
      entry.frame ∉ state.errors
  closed : ∀ frame raw, Event.request frame raw ∈ past →
    (∀ entry ∈ state.entries, entry.frame ≠ frame) →
    finalCount ∈ partialsOf frame state.partials ∧ state.errors.count frame =
        (if Event.normal frame ∈ past then 0 else 1) ∧
      ∃ other, Event.normal other ∈ past ∧ frame ≤ other

/-- Nothing has been sent. -/
theorem Sent.empty : Sent State.empty [] := by
  constructor <;> simp [State.empty, partialsOf]

theorem Sent.request {state : State} {past : List Event} {frame : Nat} {raw : Bool}
    (sent : Sent state past) (new : ∀ event ∈ past, event.frame < frame) :
    Sent (Progress.step state (.request frame raw)) (past ++ [Event.request frame raw]) := by
  have unknown : ¬ (partialsOf frame state.partials ≠ [] ∨ frame ∈ state.errors) := by
    intro isKnown
    obtain ⟨_, inPast⟩ := sent.known frame isKnown
    exact Nat.lt_irrefl _ (new _ inPast)
  rw [not_or, not_not] at unknown
  refine ⟨?_, sent.increasing, sent.bounded, ?_, ?_⟩
  · intro other isKnown
    obtain ⟨otherRaw, inPast⟩ := sent.known other isKnown
    exact ⟨otherRaw, List.mem_append_left _ inPast⟩
  · intro entry member
    rcases List.mem_append.mp member with old | isNew
    · exact sent.pending entry old
    · rw [List.mem_singleton] at isNew
      subst entry
      simp [Progress.step, unknown.1, unknown.2]
  · intro other otherRaw inPast gone
    have apart : other ≠ frame :=
      (gone _ (List.mem_append_right _ (List.mem_singleton_self _))).symm
    have requested : Event.request other otherRaw ∈ past := by
      simpa [apart] using inPast
    obtain ⟨final, errors, answered⟩ :=
      sent.closed other otherRaw requested fun entry member =>
        gone entry (List.mem_append_left _ member)
    simpa using ⟨final, errors, answered⟩

theorem Sent.advance {added : List (Nat × Nat)} {failed : List Nat}
    (sent : Sent state past) (agrees : Agrees state.entries past)
    (notRequest : ∀ frame raw, event ≠ .request frame raw)
    (ordered : ∀ frame, event = .normal frame → ∀ other, Event.normal other ∈ past → other < frame)
    (advances : Advances (past ++ [event]) state next added failed) :
    Sent next (past ++ [event]) := by
  have requestSame : ∀ frame raw, Event.request frame raw ∈ past ++ [event] ↔
        Event.request frame raw ∈ past := by
    intro frame raw
    simp [(notRequest frame raw).symm]
  -- the partial results of a frame are those of an open request or old
  have grown : ∀ frame, (∃ entry ∈ state.entries, entry.frame = frame) ∨
          (partialsOf frame next.partials = partialsOf frame state.partials ∧
            next.errors.count frame = state.errors.count frame ∧
            ∀ entry ∈ state.entries, entry.frame ≠ frame) := by
    intro frame
    by_cases isOpen : ∃ entry ∈ state.entries, entry.frame = frame
    · exact .inl isOpen
    · refine .inr ?_
      have absent : ∀ entry ∈ state.entries, entry.frame ≠ frame :=
        fun entry member same => isOpen ⟨entry, member, same⟩
      obtain ⟨nothing, noError⟩ := advances.silent frame absent
      rw [advances.partials, advances.errors, partialsOf_append, nothing,
        List.count_append, List.count_eq_zero.mpr noError]
      simpa using absent
  refine ⟨?_, ?_, ?_, ?_, ?_⟩
  · intro frame isKnown
    rcases grown frame with ⟨entry, member, rfl⟩ | ⟨same, sameErrors, _⟩
    · exact ⟨entry.raw, (requestSame _ _).mpr (agrees.requested entry member)⟩
    · have old : partialsOf frame state.partials ≠ [] ∨ frame ∈ state.errors := by
        rw [same] at isKnown
        rwa [← List.count_pos_iff, sameErrors, List.count_pos_iff] at isKnown
      obtain ⟨raw, requested⟩ := sent.known frame old
      exact ⟨raw, (requestSame _ _).mpr requested⟩
  · intro frame
    rcases grown frame with ⟨entry, member, rfl⟩ | ⟨same, _, _⟩
    · rw [advances.partials, partialsOf_append, List.pairwise_append]
      refine ⟨sent.increasing entry.frame, ?_, ?_⟩
      · have single := advances.single entry member
        cases shape : partialsOf entry.frame added with
        | nil => exact .nil
        | cons value rest =>
          rw [shape] at single
          have none : rest = [] := by
            simpa using single
          rw [none]
          exact List.pairwise_singleton _ _
      · intro old inOld value inAdded
        have below := (sent.pending entry member).1 old inOld
        have above := (advances.above entry member value inAdded).1
        omega
    · rw [same]
      exact sent.increasing frame
  · intro frame value inPartials
    rcases grown frame with ⟨entry, member, rfl⟩ | ⟨same, _, _⟩
    · rw [advances.partials, partialsOf_append, List.mem_append] at inPartials
      rcases inPartials with old | new
      · exact sent.bounded _ value old
      · exact (advances.above entry member value new).2
    · rw [same] at inPartials
      exact sent.bounded frame value inPartials
  · intro later member
    obtain ⟨entry, inEntries, sameFrame, more, values, noError⟩ :=
      advances.kept later member
    obtain ⟨old, oldErrors⟩ := sent.pending entry inEntries
    rw [advances.partials, advances.errors, sameFrame, partialsOf_append]
    refine ⟨?_, by simp [oldErrors, noError]⟩
    intro value inPartials
    rcases List.mem_append.mp inPartials with inOld | inAdded
    · exact (old value inOld).trans more
    · exact values value inAdded
  · intro frame raw inPast gone
    rw [requestSame] at inPast
    rcases grown frame with
      ⟨entry, member, rfl⟩ | ⟨same, sameErrors, absent⟩
    · obtain ⟨final, errors, answered⟩ := advances.closed entry member gone
      have noneBefore := List.count_eq_zero.mpr (sent.pending entry member).2
      rw [advances.partials, advances.errors, partialsOf_append,
        List.count_append, noneBefore, errors]
      exact ⟨List.mem_append_right _ final, by simp, answered⟩
    · obtain ⟨final, errors, other, answered, notAbove⟩ :=
        sent.closed frame raw inPast absent
      rw [same, sameErrors, errors]
      refine ⟨final, ?_, other, List.mem_append_left _ answered, notAbove⟩
      -- the normal metadata of a closed request does not come any more
      have late : event ≠ .normal frame := by
        intro isNormal
        have above := ordered frame isNormal other answered
        omega
      simp [late.symm]

/-- Every admissible event keeps the log in order. -/
theorem Sent.step (sent : Sent state past) (agrees : Agrees state.entries past)
    (admissible : Admissible state.entries past event) :
    Sent (Progress.step state event) (past ++ [event]) := by
  cases event with
  | request frame raw => exact sent.request admissible
  | urgent frame => exact sent.advance agrees (by simp) (by simp) (agrees.urgentAdvances admissible)
  | normal frame =>
    refine sent.advance agrees (by simp) ?_ (agrees.normalAdvances admissible)
    intro other same
    obtain rfl : frame = other := by simpa using same
    exact admissible.1
  | level frame =>
    obtain ⟨added, advances⟩ :=
      agrees.levelAdvances admissible (step_level agrees.ordered frame)
    exact sent.advance agrees (by simp) (by simp) advances

/-- A closed request has got its last partial result once. -/
theorem Sent.final_count (sent : Sent state past) (agrees : Agrees state.entries past)
    {raw : Bool} (requested : Event.request frame raw ∈ past) :
    (partialsOf frame state.partials).count finalCount =
      if ∃ entry ∈ state.entries, entry.frame = frame then 0 else 1 := by
  split_ifs with isOpen
  · obtain ⟨entry, member, rfl⟩ := isOpen
    rw [List.count_eq_zero]
    intro inPartials
    have below := (sent.pending entry member).1 _ inPartials
    have unfinished := agrees.unfinished entry member
    omega
  · have distinct : (partialsOf frame state.partials).Nodup :=
      (sent.increasing frame).imp Nat.ne_of_lt
    refine List.count_eq_one_of_mem distinct (sent.closed frame raw requested ?_).1
    exact fun entry member same => isOpen ⟨entry, member, same⟩

end AnglerHal.Progress
