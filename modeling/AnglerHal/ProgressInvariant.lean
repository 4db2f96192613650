import AnglerHal.ProgressModel
import Mathlib.Data.List.Nodup

namespace AnglerHal.Progress

/-!
# The invariant behind the partial results

The count of an open request is a function of the events it has seen, and is
never the last one.  An answered request without a raw frame stays open only
behind an open raw request.  Both are kept by every admissible event, also when
metadata is lost.
-/

/-! ## Entries in frame order -/

/-- Entries in strictly ascending frame order. -/
def Ordered (entries : List Entry) : Prop :=
  entries.Pairwise fun earlier later => earlier.frame < later.frame

variable {entries later before : List Entry} {entry kept : Entry} {frame : Nat}
  {past : List Event} {event : Event} {isBlocked : Bool} {state : State}

/-- In frame order a frame names one entry. -/
theorem Ordered.eq_of_frame (ordered : Ordered entries) {first second : Entry}
    (firstMember : first ∈ entries) (secondMember : second ∈ entries)
    (same : first.frame = second.frame) :
    first = second := by
  have distinct : (entries.map Entry.frame).Nodup :=
    List.pairwise_map.mpr (ordered.imp Nat.ne_of_lt)
  exact List.inj_on_of_nodup_map distinct firstMember secondMember same

/-- What stands before and after an entry. -/
theorem Ordered.around {earlier : List Entry}
    (ordered : Ordered (earlier ++ entry :: later)) :
    (∀ other ∈ earlier, other.frame < entry.frame) ∧
      ∀ other ∈ later, entry.frame < other.frame := by
  unfold Ordered at ordered
  rw [List.pairwise_append, List.pairwise_cons] at ordered
  exact ⟨fun other member => ordered.2.2 other member entry (by simp), ordered.2.1.1⟩

/-- Of a list computed entry by entry, what belongs to one entry. -/
theorem filterMap_filter_of_mem {Sent : Type} {entries : List Entry}
    (ordered : Ordered entries) {sends : Entry → Option Sent} {frameOf : Sent → Nat}
    (own : ∀ entry sent, sends entry = some sent → frameOf sent = entry.frame)
    {entry : Entry} (member : entry ∈ entries) :
    ((entries.filterMap sends).filter fun sent =>
        frameOf sent == entry.frame) =
      (sends entry).toList := by
  have none : ∀ others : List Entry, (∀ other ∈ others, other.frame ≠ entry.frame) →
        ((others.filterMap sends).filter fun sent =>
          frameOf sent == entry.frame) = [] := by
    intro others different
    rw [List.filter_eq_nil_iff]
    intro sent inSent
    obtain ⟨other, inOthers, sends⟩ := List.mem_filterMap.mp inSent
    have frame := own other sent sends
    have apart := different other inOthers
    simpa [frame] using apart
  obtain ⟨earlier, later, rfl⟩ := List.append_of_mem member
  obtain ⟨before, after⟩ := ordered.around
  rw [List.filterMap_append, List.filter_append, none earlier fun other inEarlier =>
      Nat.ne_of_lt (before other inEarlier), List.nil_append,
    List.filterMap_cons]
  have rest := none later fun other inLater =>
    Nat.ne_of_gt (after other inLater)
  cases sent : sends entry with
  | none => simpa using rest
  | some value => simp [own entry value sent, rest]

/-- Nothing belongs to a frame without an entry. -/
theorem filterMap_filter_of_absent {Sent : Type} {sends : Entry → Option Sent}
    {frameOf : Sent → Nat}
    (own : ∀ entry sent, sends entry = some sent → frameOf sent = entry.frame)
    (absent : ∀ entry ∈ entries, entry.frame ≠ frame) :
    ((entries.filterMap sends).filter fun sent =>
        frameOf sent == frame) = [] := by
  rw [List.filter_eq_nil_iff]
  intro sent inSent
  obtain ⟨entry, inEntries, sends⟩ := List.mem_filterMap.mp inSent
  have same := own entry sent sends
  have apart := absent entry inEntries
  simpa [same] using apart

/-! ## Open requests and their history -/

/-- The open requests agree with the events they have seen. -/
structure Agrees (entries : List Entry) (past : List Event) : Prop where
  ordered : Ordered entries
  requested : ∀ entry ∈ entries, Event.request entry.frame entry.raw ∈ past
  urgent : ∀ entry ∈ entries, (entry.urgent = true ↔ Event.urgent entry.frame ∈ past)
  answered : ∀ entry ∈ entries, (entry.answered = true ↔ Event.normal entry.frame ∈ past)
  count : ∀ entry ∈ entries, entry.count = expectedCount past entry
  unfinished : ∀ entry ∈ entries, entry.count < finalCount
  blockedBy : ∀ entry ∈ entries, entry.raw = false → entry.answered = true →
    ∃ other ∈ entries, other.raw = true ∧ other.frame < entry.frame
  due : ∀ entry ∈ entries, ∀ frame, Event.normal frame ∈ past → entry.frame ≤ frame →
    entry.answered = true
  covered : ∀ frame, Event.normal frame ∈ past → urgentSeen past frame

/-- What an event must not do to the open requests. -/
def Admissible (entries : List Entry) (past : List Event) : Event → Prop
  | .request frame _ => ∀ event ∈ past, event.frame < frame
  | .urgent frame =>
    (∀ other, Event.urgent other ∈ past → other < frame) ∧ Event.normal frame ∉ past ∧
      ∀ entry ∈ entries, entry.frame < frame → urgentSeen past entry.frame ∨ entry.count = 0
  | .normal frame =>
    (∀ other, Event.normal other ∈ past → other < frame) ∧ urgentSeen past frame ∧
      ∀ entry ∈ entries, entry.raw = true → entry.frame < frame → Event.normal entry.frame ∈ past
  | .level frame => Event.level frame ∉ past

/-- Tolerated losses do no harm to the open requests. -/
theorem Agrees.admissible (agrees : Agrees entries past) (lossy : Lossy past event)
    (tolerated : Tolerated past event) :
    Admissible entries past event := by
  cases event with
  | request frame raw => exact lossy
  | urgent frame =>
    refine ⟨fun other inPast => lossy.1 _ inPast rfl, lossy.2, ?_⟩
    intro entry member below
    by_cases seen : urgentSeen past entry.frame
    · exact .inl seen
    · refine .inr ?_
      have unanswered : Event.normal entry.frame ∉ past :=
        fun inPast => seen (agrees.covered _ inPast)
      have unlevelled : ¬ (entry.raw = true ∧ Event.level entry.frame ∈ past) := by
        rintro ⟨isRaw, levelled⟩
        have requested := agrees.requested entry member
        rw [isRaw] at requested
        exact seen (tolerated _ requested rfl below levelled)
      rw [agrees.count entry member]
      simp [expectedCount, seen, unanswered, unlevelled]
  | normal frame =>
    refine ⟨fun other inPast => lossy _ inPast rfl, tolerated.1, ?_⟩
    intro entry member isRaw below
    have requested := agrees.requested entry member
    rw [isRaw] at requested
    exact tolerated.2 _ requested rfl below
  | level frame => exact lossy

theorem urgentSeen.mono (seen : urgentSeen past frame) (later : List Event) :
    urgentSeen (past ++ later) frame := by
  obtain ⟨other, member, below⟩ := seen
  exact ⟨other, List.mem_append_left _ member, below⟩

theorem urgentSeen_snoc :
    urgentSeen (past ++ [event]) frame ↔ urgentSeen past frame ∨
        ∃ other, event = .urgent other ∧ frame ≤ other := by
  unfold urgentSeen
  simp only [List.mem_append, List.mem_singleton]
  constructor
  · rintro ⟨other, old | new, below⟩
    · exact .inl ⟨other, old, below⟩
    · exact .inr ⟨other, new.symm, below⟩
  · rintro (⟨other, old, below⟩ | ⟨other, rfl, below⟩)
    · exact ⟨other, .inl old, below⟩
    · exact ⟨other, .inr rfl, below⟩

theorem Agrees.request {entries : List Entry} {past : List Event} {frame : Nat} {raw : Bool}
    (agrees : Agrees entries past)
    (new : ∀ event ∈ past, event.frame < frame) :
    Agrees (entries ++ [{
        frame := frame
        raw := raw
        count := 0
        urgent := false
        answered := false }])
      (past ++ [Event.request frame raw]) := by
  have below : ∀ entry ∈ entries, entry.frame < frame :=
    fun entry member => new _ (agrees.requested entry member)
  have seen : ∀ other, urgentSeen (past ++ [Event.request frame raw]) other ↔
        urgentSeen past other := by
    intro other
    rw [urgentSeen_snoc]
    simp
  have normalSame : ∀ other, Event.normal other ∈ past ++ [Event.request frame raw] ↔
        Event.normal other ∈ past := by
    simp
  have levelSame : ∀ other, Event.level other ∈ past ++ [Event.request frame raw] ↔
        Event.level other ∈ past := by
    simp
  have counts : ∀ entry, expectedCount (past ++ [Event.request frame raw]) entry =
        expectedCount past entry := by
    intro entry
    simp only [expectedCount, seen, normalSame, levelSame]
  have notUrgent : Event.urgent frame ∉ past := fun member =>
    absurd (new _ member) (Nat.lt_irrefl _)
  have unanswered : Event.normal frame ∉ past := fun member =>
    absurd (new _ member) (Nat.lt_irrefl _)
  have unlevelled : Event.level frame ∉ past := fun member =>
    absurd (new _ member) (Nat.lt_irrefl _)
  have unseen : ¬ urgentSeen past frame :=
    fun ⟨_, member, notBelow⟩ => absurd (new _ member) (Nat.not_lt_of_le notBelow)
  refine ⟨?_, ?_, ?_, ?_, ?_, ?_, ?_, ?_, ?_⟩
  · refine List.pairwise_append.mpr ⟨agrees.ordered, List.pairwise_singleton _ _, ?_⟩
    intro entry member
    exact List.forall_mem_singleton.mpr (below entry member)
  · exact List.forall_mem_append.mpr
      ⟨fun entry old => List.mem_append_left _ (agrees.requested entry old), by simp⟩
  · exact List.forall_mem_append.mpr
      ⟨fun entry old => by simp [agrees.urgent entry old], by simp [notUrgent]⟩
  · simp only [normalSame]
    exact List.forall_mem_append.mpr ⟨agrees.answered, by simp [unanswered]⟩
  · simp only [counts]
    exact List.forall_mem_append.mpr
      ⟨agrees.count, by simp [expectedCount, unseen, unanswered, unlevelled]⟩
  · exact List.forall_mem_append.mpr ⟨agrees.unfinished, by simp [finalCount]⟩
  · refine List.forall_mem_append.mpr ⟨fun entry old notRaw isAnswered => ?_, by simp⟩
    obtain ⟨other, inEntries, otherRaw, older⟩ := agrees.blockedBy entry old notRaw isAnswered
    exact ⟨other, List.mem_append_left _ inEntries, otherRaw, older⟩
  · intro entry member other inPast notAbove
    rw [normalSame] at inPast
    rcases List.mem_append.mp member with old | isNew
    · exact agrees.due entry old other inPast notAbove
    · cases List.mem_singleton.mp isNew
      exact absurd (new _ inPast) (Nat.not_lt_of_le notAbove)
  · intro other inPast
    rw [normalSame] at inPast
    rw [seen]
    exact agrees.covered other inPast

theorem Agrees.map {change : Entry → Entry} (agrees : Agrees entries past)
    (notNormal : ∀ frame, event ≠ .normal frame)
    (sameFrame : ∀ entry, (change entry).frame = entry.frame)
    (sameRaw : ∀ entry, (change entry).raw = entry.raw)
    (sameAnswered : ∀ entry, (change entry).answered = entry.answered)
    (urgent : ∀ entry ∈ entries, ((change entry).urgent = true ↔
        Event.urgent entry.frame ∈ past ++ [event]))
    (count : ∀ entry ∈ entries,
      (change entry).count = expectedCount (past ++ [event]) (change entry) ∧
        (change entry).count < finalCount) :
    Agrees (entries.map change) (past ++ [event]) := by
  have normalSame : ∀ other, Event.normal other ∈ past ++ [event] ↔ Event.normal other ∈ past := by
    intro other
    simp [(notNormal other).symm]
  refine ⟨?_, ?_, ?_, ?_, ?_, ?_, ?_, ?_, ?_⟩
  · unfold Ordered
    rw [List.pairwise_map]
    simp only [sameFrame]
    exact agrees.ordered
  · rintro _ member
    obtain ⟨entry, inEntries, rfl⟩ := List.mem_map.mp member
    rw [sameFrame, sameRaw]
    exact List.mem_append_left _ (agrees.requested entry inEntries)
  · rintro _ member
    obtain ⟨entry, inEntries, rfl⟩ := List.mem_map.mp member
    rw [sameFrame]
    exact urgent entry inEntries
  · rintro _ member
    obtain ⟨entry, inEntries, rfl⟩ := List.mem_map.mp member
    rw [normalSame, sameFrame, sameAnswered]
    exact agrees.answered entry inEntries
  · rintro _ member
    obtain ⟨entry, inEntries, rfl⟩ := List.mem_map.mp member
    exact (count entry inEntries).1
  · rintro _ member
    obtain ⟨entry, inEntries, rfl⟩ := List.mem_map.mp member
    exact (count entry inEntries).2
  · rintro _ member notRaw isAnswered
    obtain ⟨entry, inEntries, rfl⟩ := List.mem_map.mp member
    rw [sameRaw] at notRaw
    rw [sameAnswered] at isAnswered
    obtain ⟨other, inOthers, otherRaw, older⟩ :=
      agrees.blockedBy entry inEntries notRaw isAnswered
    exact ⟨change other, List.mem_map_of_mem inOthers, (sameRaw other).trans otherRaw, by
        rw [sameFrame, sameFrame]
        exact older⟩
  · rintro _ member other inPast notAbove
    obtain ⟨entry, inEntries, rfl⟩ := List.mem_map.mp member
    rw [normalSame] at inPast
    rw [sameFrame] at notAbove
    rw [sameAnswered]
    exact agrees.due entry inEntries other inPast notAbove
  · intro other inPast
    rw [normalSame] at inPast
    exact (agrees.covered other inPast).mono _

/-! ## Urgent metadata -/

/-- Urgent metadata changes the count and its own mark only. -/
@[simp]
theorem Entry.noteUrgent_frame (frame : Nat) (entry : Entry) :
    (entry.noteUrgent frame).frame = entry.frame := by
  unfold Entry.noteUrgent
  split_ifs <;> rfl

@[simp]
theorem Entry.noteUrgent_raw (frame : Nat) (entry : Entry) :
    (entry.noteUrgent frame).raw = entry.raw := by
  unfold Entry.noteUrgent
  split_ifs <;> rfl

@[simp]
theorem Entry.noteUrgent_answered (frame : Nat) (entry : Entry) :
    (entry.noteUrgent frame).answered = entry.answered := by
  unfold Entry.noteUrgent
  split_ifs <;> rfl

/-- Urgent metadata never lowers a count. -/
theorem Entry.count_le_noteUrgent (frame : Nat) (entry : Entry) :
    entry.count ≤ (entry.noteUrgent frame).count := by
  unfold Entry.noteUrgent
  split
  · split
    · rename_i isZero
      rw [isZero]
      exact Nat.zero_le 1
    · exact Nat.le_refl _
  · split
    · exact Nat.le_succ _
    · exact Nat.le_refl _

theorem expectedCount_urgent {updated : Entry} (sameFrame : updated.frame = entry.frame)
    (sameRaw : updated.raw = entry.raw) :
    expectedCount (past ++ [Event.urgent frame]) updated =
      if urgentSeen past entry.frame ∨ frame < entry.frame then
        expectedCount past entry
      else
        expectedCount past entry + 1 := by
  have seen : urgentSeen (past ++ [Event.urgent frame]) entry.frame ↔
        urgentSeen past entry.frame ∨ entry.frame ≤ frame := by
    rw [urgentSeen_snoc]
    simp
  unfold expectedCount
  simp only [sameFrame, sameRaw, seen, List.mem_append, List.mem_singleton, reduceCtorEq, or_false]
  by_cases old : urgentSeen past entry.frame
  · simp [old]
  · by_cases above : frame < entry.frame
    · simp [old, above]
    · simp [old, above, Nat.le_of_not_lt above]
      omega

/-- The part of the expected count that an admissible urgent metadata meets. -/
theorem Agrees.count_urgent (agrees : Agrees entries past)
    (admissible : Admissible entries past (.urgent frame)) (member : entry ∈ entries) :
    (entry.noteUrgent frame).count =
        expectedCount (past ++ [Event.urgent frame]) (entry.noteUrgent frame) ∧
      (entry.noteUrgent frame).count < finalCount := by
  obtain ⟨newer, unanswered, notPassed⟩ := admissible
  have counts := agrees.count entry member
  have unfinished := agrees.unfinished entry member
  rw [expectedCount_urgent (Entry.noteUrgent_frame frame entry) (Entry.noteUrgent_raw frame entry)]
  rcases Nat.lt_trichotomy entry.frame frame with below | same | above
  · by_cases seen : urgentSeen past entry.frame
    · have counted : 0 < entry.count := by
        rw [counts, expectedCount, if_pos seen]
        omega
      have kept : entry.noteUrgent frame = entry := by
        simp [Entry.noteUrgent, below, Nat.ne_of_gt counted]
      rw [kept]
      simp [seen, counts.symm, unfinished]
    · have zero : entry.count = 0 := (notPassed entry member below).resolve_left seen
      have noted : (entry.noteUrgent frame).count = 1 := by
        simp [Entry.noteUrgent, below, zero]
      rw [noted]
      simp [seen, counts.symm, zero, finalCount, Nat.not_lt_of_lt below]
  · subst frame
    have unseen : ¬ urgentSeen past entry.frame := by
      rintro ⟨other, inPast, notBelow⟩
      have := newer other inPast
      omega
    have notUrgent : entry.urgent = false := by
      rw [Bool.eq_false_iff]
      intro received
      have := newer _ ((agrees.urgent entry member).mp received)
      omega
    have noted : (entry.noteUrgent entry.frame).count = entry.count + 1 := by
      simp [Entry.noteUrgent, notUrgent]
    rw [noted]
    have few : entry.count ≤ 1 := by
      rw [counts]
      simp only [expectedCount, unseen, unanswered, if_false]
      split_ifs <;> omega
    simp [unseen, counts.symm, finalCount]
    omega
  · have kept : entry.noteUrgent frame = entry := by
      simp [Entry.noteUrgent, Nat.not_lt_of_lt above, Nat.ne_of_gt above]
    rw [kept]
    simp [above, counts.symm, unfinished]

theorem Agrees.urgentStep (agrees : Agrees entries past)
    (admissible : Admissible entries past (.urgent frame)) :
    Agrees (entries.map (Entry.noteUrgent frame)) (past ++ [Event.urgent frame]) := by
  apply agrees.map (by simp) (by simp) (by simp) (by simp)
  · intro entry member
    have old := agrees.urgent entry member
    by_cases same : entry.frame = frame
    · have noted : (entry.noteUrgent frame).urgent = true := by
        unfold Entry.noteUrgent
        cases received : entry.urgent <;> simp [same, received]
      simp [noted, same]
    · have noted : (entry.noteUrgent frame).urgent = entry.urgent := by
        unfold Entry.noteUrgent
        split_ifs <;> simp_all
      rw [noted, old]
      simp [same]
  · intro entry member
    exact agrees.count_urgent admissible member

/-! ## Normal metadata -/

/-- Normal metadata keeps the frame number of a request. -/
theorem Entry.noteNormal_frame (noted : entry.noteNormal frame isBlocked = some kept) :
    kept.frame = entry.frame := by
  unfold Entry.noteNormal at noted
  split_ifs at noted <;> (obtain rfl := Option.some.inj noted; rfl)

theorem Entry.noteNormal_raw (isRaw : entry.raw = true) (other : entry.frame ≠ frame) :
    entry.noteNormal frame isBlocked = some entry := by
  simp [Entry.noteNormal, Entry.missed, isRaw, other]

/-- The count of a request as its admissible normal metadata comes. -/
theorem Agrees.count_normal (agrees : Agrees entries past)
    (admissible : Admissible entries past (.normal frame)) (member : entry ∈ entries)
    (own : entry.frame = frame) :
    entry.count = 1 + if entry.raw = true ∧ Event.level frame ∈ past then 1 else 0 := by
  obtain ⟨newer, seen, _⟩ := admissible
  have unanswered : Event.normal frame ∉ past := fun inPast => Nat.lt_irrefl _ (newer frame inPast)
  rw [agrees.count entry member]
  simp [expectedCount, own, seen, unanswered]

/-- A request that stays open after a normal metadata, and what it was. -/
theorem mem_noteNormal
    (member : kept ∈ entries.filterMap (Entry.noteNormal frame isBlocked)) :
    ∃ entry ∈ entries, kept.frame = entry.frame ∧ kept.raw = entry.raw ∧
        kept.urgent = entry.urgent ∧
        ((entry.frame = frame ∧ kept.answered = true ∧ kept.count = entry.normalCount isBlocked ∧
            kept.count ≠ finalCount) ∨
          (entry.frame ≠ frame ∧ entry.missed frame = false ∧ kept = entry)) := by
  obtain ⟨entry, inEntries, noted⟩ := List.mem_filterMap.mp member
  refine ⟨entry, inEntries, ?_⟩
  unfold Entry.noteNormal at noted
  split_ifs at noted with missed own final
  · obtain rfl := Option.some.inj noted
    exact ⟨rfl, rfl, rfl, .inl ⟨own, rfl, rfl, final⟩⟩
  · obtain rfl := Option.some.inj noted
    exact ⟨rfl, rfl, rfl, .inr ⟨own, by simpa using missed, rfl⟩⟩

theorem Agrees.keptCount {entries : List Entry} {past : List Event} {frame : Nat}
    (agrees : Agrees entries past)
    (admissible : Admissible entries past (.normal frame)) {entry : Entry}
    (member : entry ∈ entries) (own : entry.frame = frame)
    (stays : entry.normalCount (blocked frame entries) ≠ finalCount) :
    entry.normalCount (blocked frame entries) = 2 ∧
      ¬ (entry.raw = true ∧ Event.level frame ∈ past) ∧
      (entry.raw = false → blocked frame entries = true) := by
  have counts := agrees.count_normal admissible member own
  unfold Entry.normalCount finalCount at *
  cases isRaw : entry.raw with
  | false =>
    cases isBlocked : blocked frame entries <;>
      simp_all
  | true =>
    by_cases levelled : Event.level frame ∈ past <;>
      simp_all

theorem Agrees.normalStep (agrees : Agrees entries past)
    (admissible : Admissible entries past (.normal frame)) :
    Agrees (entries.filterMap (Entry.noteNormal frame (blocked frame entries)))
      (past ++ [Event.normal frame]) := by
  have keptCount := @Agrees.keptCount entries past frame agrees admissible
  obtain ⟨newer, seen, rawAnswered⟩ := admissible
  have seenSame : ∀ other, urgentSeen (past ++ [Event.normal frame]) other ↔
        urgentSeen past other := by
    intro other
    rw [urgentSeen_snoc]
    simp
  refine ⟨?_, ?_, ?_, ?_, ?_, ?_, ?_, ?_, ?_⟩
  · unfold Ordered
    rw [List.pairwise_filterMap]
    refine agrees.ordered.imp ?_
    intro earlier later below keptEarlier noted keptLater notedLater
    have first := Entry.noteNormal_frame noted
    have second := Entry.noteNormal_frame notedLater
    omega
  · intro kept member
    obtain ⟨entry, inEntries, sameFrame, sameRaw, _⟩ := mem_noteNormal member
    rw [sameFrame, sameRaw]
    exact List.mem_append_left _ (agrees.requested entry inEntries)
  · intro kept member
    obtain ⟨entry, inEntries, sameFrame, _, sameUrgent, _⟩ := mem_noteNormal member
    rw [sameFrame, sameUrgent, agrees.urgent entry inEntries]
    simp
  · intro kept member
    obtain ⟨entry, inEntries, sameFrame, _, _, own | other⟩ := mem_noteNormal member
    · simp [own.1, own.2.1, sameFrame]
    · obtain ⟨apart, _, rfl⟩ := other
      simp [agrees.answered kept inEntries, apart]
  · intro kept member
    obtain ⟨entry, inEntries, sameFrame, sameRaw, _, own | other⟩ := mem_noteNormal member
    · obtain ⟨ownFrame, _, counted, stays⟩ := own
      rw [counted] at stays
      obtain ⟨two, unlevelled, _⟩ := keptCount inEntries ownFrame stays
      rw [counted, two]
      simp [expectedCount, sameFrame, sameRaw, ownFrame, seenSame, seen]
      simpa using unlevelled
    · obtain ⟨apart, _, rfl⟩ := other
      rw [agrees.count kept inEntries]
      simp [expectedCount, seenSame, apart]
  · intro kept member
    obtain ⟨entry, inEntries, _, _, _, own | other⟩ := mem_noteNormal member
    · obtain ⟨ownFrame, _, counted, stays⟩ := own
      rw [counted] at stays
      rw [counted, (keptCount inEntries ownFrame stays).1]
      decide
    · obtain ⟨_, _, rfl⟩ := other
      exact agrees.unfinished kept inEntries
  · intro kept member notRaw isAnswered
    obtain ⟨entry, inEntries, sameFrame, sameRaw, _, own | other⟩ := mem_noteNormal member
    · obtain ⟨ownFrame, _, counted, stays⟩ := own
      rw [counted] at stays
      have isBlocked := (keptCount inEntries ownFrame stays).2.2 (sameRaw ▸ notRaw)
      obtain ⟨raw, inRaw, isRaw⟩ := List.any_eq_true.mp isBlocked
      simp only [Bool.and_eq_true, decide_eq_true_eq] at isRaw
      refine ⟨raw, ?_, isRaw.1, by omega⟩
      exact List.mem_filterMap.mpr ⟨raw, inRaw, Entry.noteNormal_raw isRaw.1 (by omega)⟩
    · obtain ⟨_, _, rfl⟩ := other
      obtain ⟨raw, inRaw, isRaw, older⟩ := agrees.blockedBy kept inEntries notRaw isAnswered
      have past := newer _ ((agrees.answered kept inEntries).mp isAnswered)
      refine ⟨raw, ?_, isRaw, older⟩
      exact List.mem_filterMap.mpr ⟨raw, inRaw, Entry.noteNormal_raw isRaw (by omega)⟩
  · intro kept member other inPast notAbove
    obtain ⟨entry, inEntries, sameFrame, sameRaw, _, own | apart⟩ := mem_noteNormal member
    · exact own.2.1
    · obtain ⟨different, notMissed, rfl⟩ := apart
      rcases List.mem_append.mp inPast with old | new
      · exact agrees.due kept inEntries other old notAbove
      · -- older requests are answered, missed or raw
        simp only [List.mem_singleton, Event.normal.injEq] at new
        subst other
        have below : kept.frame < frame := by omega
        cases isRaw : kept.raw with
        | true =>
          exact (agrees.answered kept inEntries).mpr (rawAnswered kept inEntries isRaw below)
        | false => simpa [Entry.missed, below, isRaw] using notMissed
  · intro other inPast
    rw [seenSame]
    rcases List.mem_append.mp inPast with old | new
    · exact agrees.covered other old
    · simp only [List.mem_singleton, Event.normal.injEq] at new
      exact new ▸ seen

/-! ## Black levels -/

/-- A black level is ignored, counted, or closes its request. -/
inductive Levelled (state : State) (frame : Nat) : State → Prop where
  | ignored (noRaw : ∀ entry ∈ state.entries, entry.frame = frame → entry.raw = false) :
      Levelled state frame state
  | counted {before later : List Entry} {entry : Entry}
      (split : state.entries = before ++ entry :: later)
      (own : entry.frame = frame)
      (isRaw : entry.raw = true)
      (stays : entry.count + 1 ≠ finalCount) :
      Levelled state frame { state with
            entries :=
              before ++ { entry with count := entry.count + 1 } :: later
            partials := state.partials ++ [(frame, entry.count + 1)] }
  | closed {before later : List Entry} {entry : Entry}
      (split : state.entries = before ++ entry :: later)
      (own : entry.frame = frame)
      (isRaw : entry.raw = true)
      (final : entry.count + 1 = finalCount) :
      Levelled state frame { state with
            entries := before ++ later.dropWhile Entry.deferred
            partials :=
              state.partials ++ (frame, finalCount) ::
                (later.takeWhile Entry.deferred).map fun waiting =>
                  (waiting.frame, finalCount) }

/-- What a black level does to requests in frame order. -/
theorem step_level (ordered : Ordered state.entries) (frame : Nat) :
    Levelled state frame (step state (.level frame)) := by
  have split : (state.entries.takeWhile fun entry => entry.frame != frame) ++
          (state.entries.dropWhile fun entry => entry.frame != frame) =
        state.entries :=
    List.takeWhile_append_dropWhile
  unfold step
  simp only
  generalize beforeIs : (state.entries.takeWhile fun entry => entry.frame != frame) = before
    at split
  cases fromIs : state.entries.dropWhile fun entry => entry.frame != frame with
  | nil =>
    simp only [levelFrom]
    refine .ignored ?_
    intro entry member same
    have apart := List.dropWhile_eq_nil_iff.mp fromIs entry member
    simp [same] at apart
  | cons entry later =>
    rw [fromIs] at split
    have own : entry.frame = frame := by
      have stops := List.head?_dropWhile_not
        (fun entry : Entry => entry.frame != frame) state.entries
      simp only [fromIs, List.head?_cons] at stops
      simpa using stops
    simp only [levelFrom]
    split_ifs with notRaw final
    · refine .ignored ?_
      intro other member same
      have found : entry ∈ state.entries := by simp [← split]
      rw [ordered.eq_of_frame member found (same.trans own.symm)]
      exact notRaw
    · subst frame
      have waiting : ((later.takeWhile Entry.deferred).map fun waiting =>
              (waiting.frame, waiting.count + 1)) =
            (later.takeWhile Entry.deferred).map fun waiting =>
              (waiting.frame, finalCount) := by
        apply List.map_congr_left
        intro waiting member
        have deferred := List.mem_takeWhile_imp member
        simp only [Entry.deferred, finalCount, Bool.and_eq_true, beq_iff_eq] at deferred
        simp [deferred.1, finalCount]
      rw [waiting]
      exact .closed split.symm rfl (by simpa using notRaw) final
    · subst frame
      exact .counted split.symm rfl (by simpa using notRaw) final

theorem expectedCount_level {past : List Event} {frame : Nat} {entry updated : Entry}
    (new : Event.level frame ∉ past) (sameFrame : updated.frame = entry.frame)
    (sameRaw : updated.raw = entry.raw) :
    expectedCount (past ++ [Event.level frame]) updated =
      if entry.raw = true ∧ entry.frame = frame then
        expectedCount past entry + 1
      else
        expectedCount past entry := by
  have seen : urgentSeen (past ++ [Event.level frame]) entry.frame ↔
        urgentSeen past entry.frame := by
    rw [urgentSeen_snoc]
    simp
  unfold expectedCount
  simp only [sameFrame, sameRaw, seen, List.mem_append, List.mem_singleton,
    reduceCtorEq, or_false, Event.level.injEq]
  by_cases isRaw : entry.raw = true
  · by_cases own : entry.frame = frame
    · simp [isRaw, own, new]
    · simp [isRaw, own]
  · simp [isRaw]

theorem Agrees.deferred (agrees : Agrees entries past) (member : entry ∈ entries)
    (notRaw : entry.raw = false) (isAnswered : entry.answered = true) :
    entry.deferred = true := by
  have inPast := (agrees.answered entry member).mp isAnswered
  have seen := agrees.covered entry.frame inPast
  have counts := agrees.count entry member
  simp [expectedCount, notRaw, inPast, seen] at counts
  simp [Entry.deferred, counts, notRaw, finalCount]

theorem Agrees.behindDeferred {raw : Entry} (agrees : Agrees entries past)
    (split : entries = before ++ raw :: later)
    (member : entry ∈ later.dropWhile Entry.deferred) (notRaw : entry.raw = false)
    (isAnswered : entry.answered = true) :
    ∃ other ∈ later.dropWhile Entry.deferred, other.raw = true ∧ other.frame < entry.frame := by
  have inEntries : ∀ other ∈ later.dropWhile Entry.deferred, other ∈ entries := by
    intro other inRest
    rw [split]
    simp [(List.dropWhile_sublist _).subset inRest]
  have orderedRest : Ordered (later.dropWhile Entry.deferred) := by
    refine List.Pairwise.sublist ?_ agrees.ordered
    rw [split]
    exact (List.dropWhile_sublist _).trans
      ((List.sublist_cons_self _ _).trans (List.sublist_append_right _ _))
  cases shape : later.dropWhile Entry.deferred with
  | nil => simp [shape] at member
  | cons head tail =>
    have stops : head.deferred = false := by
      have notDeferred := List.head?_dropWhile_not Entry.deferred later
      simpa [shape] using notDeferred
    have headMember := inEntries head (by simp [shape])
    rw [shape] at member orderedRest
    have apart : head ≠ entry := by
      rintro rfl
      rw [agrees.deferred headMember notRaw isAnswered] at stops
      simp at stops
    have inTail : entry ∈ tail := by
      rcases List.mem_cons.mp member with same | inTail
      · exact absurd same.symm apart
      · exact inTail
    have older : head.frame < entry.frame := (List.pairwise_cons.mp orderedRest).1 entry inTail
    refine ⟨head, by simp, ?_, older⟩
    -- an older request without a raw frame would be answered as well
    by_contra headRaw
    have headAnswered :=
      agrees.due head headMember entry.frame ((agrees.answered entry (inEntries entry
          (by simp [shape, inTail]))).mp isAnswered)
        (Nat.le_of_lt older)
    rw [agrees.deferred headMember (by simpa using headRaw) headAnswered] at stops
    simp at stops

theorem Agrees.levelIgnored (agrees : Agrees entries past)
    (new : Event.level frame ∉ past)
    (noRaw : ∀ entry ∈ entries, entry.frame = frame → entry.raw = false) :
    Agrees entries (past ++ [Event.level frame]) := by
  rw [← List.map_id entries]
  refine agrees.map (by simp) (by simp) (by simp) (by simp) ?_ ?_
  · intro entry member
    simpa using agrees.urgent entry member
  · intro entry member
    rw [id_eq, expectedCount_level new rfl rfl, if_neg]
    · exact ⟨agrees.count entry member, agrees.unfinished entry member⟩
    · rintro ⟨isRaw, own⟩
      simp [noRaw entry member own] at isRaw

theorem Agrees.levelCounted (agrees : Agrees entries past)
    (new : Event.level entry.frame ∉ past) (split : entries = before ++ entry :: later)
    (isRaw : entry.raw = true) (stays : entry.count + 1 ≠ finalCount) :
    Agrees (before ++ { entry with count := entry.count + 1 } :: later)
      (past ++ [Event.level entry.frame]) := by
  let change : Entry → Entry := fun other =>
    { other with
        count :=
          if other.frame = entry.frame then other.count + 1
          else other.count }
  have ordered := agrees.ordered
  rw [split] at ordered
  have unchanged : ∀ others : List Entry, (∀ other ∈ others, other.frame ≠ entry.frame) →
        others.map change = others := by
    intro others different
    conv_rhs => rw [← List.map_id others]
    apply List.map_congr_left
    intro other member
    simp [change, different other member]
  have changed : entries.map change =
        before ++ { entry with count := entry.count + 1 } :: later := by
    rw [split, List.map_append, List.map_cons, unchanged before fun other inBefore =>
        Nat.ne_of_lt (ordered.around.1 other inBefore),
      unchanged later fun other inLater =>
        Nat.ne_of_gt (ordered.around.2 other inLater)]
    simp [change]
  rw [← changed]
  refine agrees.map (by simp) (by simp [change]) (by simp [change]) (by simp [change]) ?_ ?_
  · intro other member
    simpa using agrees.urgent other member
  · intro other member
    rw [@expectedCount_level past entry.frame other (change other) new rfl rfl]
    have counts := agrees.count other member
    have unfinished := agrees.unfinished other member
    by_cases same : other.frame = entry.frame
    · obtain rfl : other = entry := agrees.ordered.eq_of_frame member (by simp [split]) same
      simp only [change, isRaw, and_self, if_true]
      exact ⟨by omega, by omega⟩
    · simp only [change, same, and_false, if_false]
      exact ⟨counts, unfinished⟩

theorem Agrees.sublist {entries fewer : List Entry} {past : List Event}
    (agrees : Agrees entries past) (sub : fewer.Sublist entries)
    (blocked : ∀ entry ∈ fewer, entry.raw = false → entry.answered = true →
      ∃ other ∈ fewer, other.raw = true ∧ other.frame < entry.frame) :
    Agrees fewer past where
  ordered := List.Pairwise.sublist sub agrees.ordered
  requested := fun entry member =>
    agrees.requested entry (sub.subset member)
  urgent := fun entry member =>
    agrees.urgent entry (sub.subset member)
  answered := fun entry member =>
    agrees.answered entry (sub.subset member)
  count := fun entry member =>
    agrees.count entry (sub.subset member)
  unfinished := fun entry member =>
    agrees.unfinished entry (sub.subset member)
  blockedBy := blocked
  due := fun entry member =>
    agrees.due entry (sub.subset member)
  covered := agrees.covered

theorem Agrees.levelStep {next : State} (agrees : Agrees state.entries past)
    (new : Event.level frame ∉ past) (levelled : Levelled state frame next) :
    Agrees next.entries (past ++ [Event.level frame]) := by
  cases levelled with
  | ignored noRaw => exact agrees.levelIgnored new noRaw
  | counted split own isRaw stays =>
    subst own
    exact agrees.levelCounted new split isRaw stays
  | @closed before later entry split own isRaw final =>
    simp only
    have around := (split ▸ agrees.ordered).around
    have removed : (before ++ later.dropWhile Entry.deferred).Sublist
        state.entries := by
      rw [split]
      exact (List.Sublist.refl before).append
        ((List.dropWhile_sublist _).trans (List.sublist_cons_self _ _))
    have rest := agrees.sublist removed (by
        intro other member notRaw isAnswered
        rcases List.mem_append.mp member with inBefore | inRest
        · obtain ⟨raw, inRaw, rawRaw, older⟩ :=
            agrees.blockedBy other (removed.subset member) notRaw isAnswered
          refine ⟨raw, ?_, rawRaw, older⟩
          have below := around.1 other inBefore
          rw [split] at inRaw
          rcases List.mem_append.mp inRaw with inBefore | inLater
          · exact List.mem_append_left _ inBefore
          · -- the closed request and those behind it are newer
            rcases List.mem_cons.mp inLater with rfl | inLater
            · omega
            · have above := around.2 raw inLater
              omega
        · obtain ⟨raw, inRaw, found⟩ := agrees.behindDeferred split inRest notRaw isAnswered
          exact ⟨raw, List.mem_append_right _ inRaw, found⟩)
    apply rest.levelIgnored new
    intro other member same
    exfalso
    rcases List.mem_append.mp member with inBefore | inRest
    · have below := around.1 other inBefore
      omega
    · have above := around.2 other ((List.dropWhile_sublist _).subset inRest)
      omega

/-! ## Steps and runs -/

/-- No request agrees with no event. -/
theorem Agrees.empty : Agrees State.empty.entries [] := by
  constructor <;> simp [State.empty, Ordered]

/-- Every admissible event keeps the agreement. -/
theorem Agrees.step (agrees : Agrees state.entries past)
    (admissible : Admissible state.entries past event) :
    Agrees (Progress.step state event).entries (past ++ [event]) := by
  cases event with
  | request frame raw => exact agrees.request admissible
  | urgent frame => exact agrees.urgentStep admissible
  | normal frame => exact agrees.normalStep admissible
  | level frame => exact agrees.levelStep admissible (step_level agrees.ordered frame)

/--
Once a normal metadata has come and every raw request up to its frame has its
black level, no request up to that frame is open.
-/
theorem Agrees.none_open (agrees : Agrees entries past)
    (inPast : Event.normal frame ∈ past)
    (levels : ∀ other, Event.request other true ∈ past → other ≤ frame → Event.level other ∈ past) :
    ∀ entry ∈ entries, frame < entry.frame := by
  have noRaw : ∀ entry ∈ entries, entry.raw = true → frame < entry.frame := by
    intro entry member isRaw
    by_contra notAbove
    have requested := agrees.requested entry member
    rw [isRaw] at requested
    have levelled := levels entry.frame requested (by omega)
    have answered :=
      (agrees.answered entry member).mp (agrees.due entry member frame inPast (by omega))
    have seen := agrees.covered entry.frame answered
    have counts := agrees.count entry member
    have unfinished := agrees.unfinished entry member
    simp [expectedCount, isRaw, levelled, answered, seen] at counts
    simp [counts, finalCount] at unfinished
  intro entry member
  by_contra notAbove
  cases isRaw : entry.raw with
  | true => exact notAbove (noRaw entry member isRaw)
  | false =>
    have answered := agrees.due entry member frame inPast (by omega)
    obtain ⟨raw, inRaw, rawRaw, older⟩ := agrees.blockedBy entry member isRaw answered
    have above := noRaw raw inRaw rawRaw
    omega

end AnglerHal.Progress
