import AnglerHal.SuperbufDispatch

namespace AnglerHal.Superbuf

/-!
# The order of matched superbufs

Under every priority but `low` a superbuf takes the buffers of its own frame
only.  When the frame ids of every stream increase, a buffer that completes a
superbuf therefore belongs to a later frame than every superbuf matched
before: its stream has already delivered those frames.  `OrderInvariant` keeps
this together with the superbufs matched and dequeued so far.
-/

/-- One buffer of each bundled stream, each of the superbuf's own frame. -/
structure WholeSuperbuf (streams : List Nat) (seen : List BufInfo)
    (superBuf : SuperbufNode) : Prop where
  length : superBuf.superBuf.length = streams.length
  slots : ∀ (index stream : Nat), streams[index]? = some stream → ∃ info ∈ seen,
        info.streamId = stream ∧ info.frameIdx = superBuf.frameIdx ∧
          superBuf.superBuf[index]? = some info.toSlot

/-- The earlier superbuf belongs to the earlier frame. -/
def Precedes (earlier later : SuperbufNode) : Prop :=
  earlier.frameIdx < later.frameIdx

/--
The queue, the buffers seen, and the superbufs matched and dequeued so far.
-/
structure OrderInvariant (streams : List Nat) (seen : List BufInfo)
    (matched dequeued : List SuperbufNode)
    (ch : Channel) : Prop where
  bundledStreams : ch.queue.bundledStreams = streams
  wellFormed : WellFormed ch
  matchedFirst : MatchedFirst ch
  ascending : Ascending ch
  slots : ∀ superBuf ∈ ch.queue.que, ∀ slot ∈ superBuf.superBuf,
      slot.frameIdx ≠ 0 → ∃ info ∈ seen, slot = info.toSlot
  logged : ∀ superBuf ∈ ch.queue.que, superBuf.matched = true → superBuf ∈ matched
  queAscends : ch.queue.que.Pairwise fun earlier later =>
      earlier.matched = true → later.matched = true → Precedes earlier later
  whole : ∀ superBuf ∈ matched, WholeSuperbuf streams seen superBuf
  matchedAscend : matched.Pairwise Precedes
  dequeuedMatched : ∀ superBuf ∈ dequeued, superBuf ∈ matched
  dequeuedAscend : dequeued.Pairwise Precedes
  dequeuedOlder : ∀ earlier ∈ dequeued, ∀ superBuf ∈ ch.queue.que,
      superBuf.matched = true → Precedes earlier superBuf

variable {superBuf touched : SuperbufNode} {info : BufInfo} {bufSIdx : Nat}
  {front back : List SuperbufNode} {handled before : Channel} {streams : List Nat}
  {seen : List BufInfo}

/-! ## Operations that drop from the front -/

section Drops

variable {matched dequeued : List SuperbufNode} {after : Channel}

/-- Dropping from the front forgets nothing that was matched or dequeued. -/
theorem OrderInvariant.of_drops {dropped : List SuperbufNode}
    (invariant : OrderInvariant streams seen matched dequeued before)
    (drops : DropsFront dropped before after) :
    OrderInvariant streams seen matched dequeued after where
  bundledStreams := drops.bundledStreams.trans invariant.bundledStreams
  wellFormed := drops.wellFormed invariant.wellFormed
  matchedFirst := drops.matchedFirst invariant.matchedFirst
  ascending := drops.ascends invariant.ascending
  slots := fun superBuf member =>
    invariant.slots superBuf (drops.sublist.subset member)
  logged := fun superBuf member =>
    invariant.logged superBuf (drops.sublist.subset member)
  queAscends := invariant.queAscends.sublist drops.sublist
  whole := invariant.whole
  matchedAscend := invariant.matchedAscend
  dequeuedMatched := invariant.dequeuedMatched
  dequeuedAscend := invariant.dequeuedAscend
  dequeuedOlder := fun earlier isDequeued superBuf member =>
    invariant.dequeuedOlder earlier isDequeued superBuf (drops.sublist.subset member)

/-- The head of the queue, if matched, comes after all dequeued superbufs. -/
theorem OrderInvariant.of_dequeue
    (invariant : OrderInvariant streams seen matched dequeued before)
    (isMatched : superBuf.matched = true) (drops : DropsFront [superBuf] before after) :
    OrderInvariant streams seen matched (dequeued ++ [superBuf]) after := by
  have dropped := invariant.of_drops drops
  have shape : before.queue.que = superBuf :: after.queue.que := drops.que
  have ascends := invariant.queAscends
  rw [shape, List.pairwise_cons] at ascends
  have member : superBuf ∈ before.queue.que := by
    simp [shape]
  refine { dropped with
    dequeuedMatched := ?_
    dequeuedAscend := ?_
    dequeuedOlder := ?_ }
  · intro current isDequeued
    rcases List.mem_append.mp isDequeued with earlier | isNew
    · exact invariant.dequeuedMatched current earlier
    · rw [List.mem_singleton.mp isNew]
      exact invariant.logged superBuf member isMatched
  · refine List.pairwise_append.mpr ⟨invariant.dequeuedAscend, by simp, ?_⟩
    intro earlier isDequeued current isNew
    rw [List.mem_singleton.mp isNew]
    exact invariant.dequeuedOlder earlier isDequeued superBuf member isMatched
  · intro earlier isDequeued current inQueue currentMatched
    rcases List.mem_append.mp isDequeued with old | isNew
    · exact dropped.dequeuedOlder earlier old current inQueue currentMatched
    · rw [List.mem_singleton.mp isNew]
      exact ascends.1 current inQueue isMatched currentMatched

theorem OrderInvariant.see (invariant : OrderInvariant streams seen matched dequeued before)
    (info : BufInfo) :
    OrderInvariant streams (seen ++ [info]) matched dequeued before :=
  { invariant with
    slots := fun superBuf member slot inNode filled => by
      obtain ⟨source, isSeen, same⟩ := invariant.slots superBuf member slot inNode filled
      exact ⟨source, List.mem_append_left _ isSeen, same⟩
    whole := fun superBuf member => by
      refine ⟨(invariant.whole superBuf member).length, ?_⟩
      intro index stream located
      obtain ⟨source, isSeen, facts⟩ :=
        (invariant.whole superBuf member).slots index stream located
      exact ⟨source, List.mem_append_left _ isSeen, facts⟩ }

end Drops

/-! ## The comparison of an arriving buffer -/

/--
The node that an arriving buffer touches: the superbuf of its frame, behind
every superbuf that is already matched once it is matched itself.
-/
structure TouchedNode (info : BufInfo) (handled next : Channel) (front : List SuperbufNode)
    (touched : SuperbufNode)
    (back : List SuperbufNode) : Prop where
  que : next.queue.que = front ++ touched :: back
  others : (front ++ back).Sublist handled.queue.que
  frameIdx : touched.frameIdx = info.frameIdx
  slots : ∀ slot ∈ touched.superBuf, slot.frameIdx ≠ 0 → slot = info.toSlot ∨
        ∃ superBuf ∈ handled.queue.que, slot ∈ superBuf.superBuf
  behind : touched.matched = true → ∀ superBuf ∈ back, superBuf.matched = false
  matchCnt : touched.matched = true → next.queue.matchCnt = handled.queue.matchCnt + 1

private theorem JoinedFrom.slot_mem {joined : SuperbufNode}
    (join : JoinedFrom info bufSIdx superBuf joined) {slot : Slot}
    (member : slot ∈ joined.superBuf) :
    slot = info.toSlot ∨ slot ∈ superBuf.superBuf := by
  rw [join.slots] at member
  exact (List.mem_or_eq_of_mem_set member).symm

private theorem MatchedFirst.unmatched_behind {que : List SuperbufNode}
    (ordered : que.Pairwise fun earlier later =>
        later.matched = true → earlier.matched = true)
    (shape : que = front ++ superBuf :: back) (unmatched : superBuf.matched = false) :
    ∀ later ∈ back, later.matched = false := by
  intro later member
  rw [shape, List.pairwise_append, List.pairwise_cons] at ordered
  cases flag : later.matched with
  | false => rfl
  | true =>
    have contrary := ordered.2.1.1 later member flag
    rw [unmatched] at contrary
    exact contrary.symm

private theorem Ascending.stopsScan {ch : Channel} (ascending : Ascending ch)
    (stops : stopsScan ch.queue info bufSIdx superBuf = true) :
    superBuf.matched = false ∧ info.frameIdx = superBuf.frameIdx := by
  simp only [Superbuf.stopsScan, Bool.and_eq_true, Bool.not_eq_true'] at stops
  exact ⟨stops.1, (ascending.takesBuffer_iff info bufSIdx superBuf).mp stops.2⟩

/-- The comparison leaves the queue alone, shortens it, or touches one node. -/
theorem CompareCase.touches {result : Channel × List ChannelOutput}
    (outcome : CompareCase info bufSIdx handled result)
    (matchedFirst : MatchedFirst handled) (ascending : Ascending handled) :
    result.1.queue.que.Sublist handled.queue.que ∨ ∃ front touched back,
        TouchedNode info handled result.1 front touched back := by
  cases outcome with
  | duplicate setup que =>
    left
    rw [que]
  | @joins next earlier later superBuf joined setup shape stops que join incomplete =>
    right
    have facts := ascending.stopsScan stops
    refine ⟨earlier, joined, later, que, ?_, ?_, ?_, ?_, ?_⟩
    · rw [shape]
      exact List.Sublist.append (List.Sublist.refl _) (List.sublist_cons_self _ _)
    · rw [join.frameIdx, facts.2]
    · intro slot member _
      rcases join.slot_mem member with isNew | isOld
      · exact Or.inl isNew
      · exact Or.inr ⟨superBuf, by simp [shape], isOld⟩
    · intro matched
      simp [incomplete] at matched
    · intro matched
      simp [incomplete] at matched
  | @completes next kept released later superBuf joined setup shape passes
      stops releases que join complete size matchCnt =>
      right
      have facts := ascending.stopsScan stops
      refine ⟨kept, joined, later, que, ?_, ?_, ?_, ?_, ?_⟩
      · rw [shape]
        exact List.Sublist.append (List.sublist_append_left _ _) (List.sublist_cons_self _ _)
      · rw [join.frameIdx, facts.2]
      · intro slot member _
        rcases join.slot_mem member with isNew | isOld
        · exact Or.inl isNew
        · exact Or.inr ⟨superBuf, by simp [shape], isOld⟩
      · intro _
        exact MatchedFirst.unmatched_behind matchedFirst.ordered shape facts.1
      · intro _
        exact matchCnt
  | refused =>
    left
    exact List.Sublist.refl _
  | @starts next kept released memory setup passes evicts size inserted =>
    have keptSublist := evicts.sublist
    cases memory with
    | false =>
      left
      simp only [Bool.false_eq_true, if_false] at inserted
      rw [inserted.1]
      exact keptSublist
    | true =>
      right
      simp only [if_true] at inserted
      obtain ⟨front, back, rfl, inserts, que, _, counted, _⟩ := inserted
      refine ⟨front, newSuperbuf info bufSIdx handled, back, que, keptSublist, rfl, ?_, ?_, ?_⟩
      · intro slot member filled
        rcases List.mem_or_eq_of_mem_set member with isOld | isNew
        · have empty := List.eq_of_mem_replicate isOld
          simp [empty, Slot.empty] at filled
        · exact Or.inl isNew
      · -- the first node behind the new one is an unmatched newer one
        intro _ current member
        cases back with
        | nil => simp at member
        | cons newer rest =>
          have isNew := inserts.2 newer rfl
          simp only [isNewer, Bool.and_eq_true, Bool.not_eq_true'] at isNew
          have ordered := matchedFirst.ordered.sublist keptSublist
          rcases List.mem_cons.mp member with rfl | inRest
          · exact isNew.1
          · exact MatchedFirst.unmatched_behind ordered rfl isNew.1 current inRest
      · intro matched
        have single : handled.queue.bundledStreams.length = 1 := by
          simpa [newSuperbuf] using matched
        rw [counted, if_pos single]

/-- Nothing is newly matched in what remains of the queue. -/
theorem newlyMatched_of_subset {after : Channel}
    (subset : after.queue.que ⊆ before.queue.que) :
    newlyMatched before after = [] := by
  refine List.filter_eq_nil_iff.mpr ?_
  intro superBuf member
  simp [subset member]

/-- At most the touched node is newly matched. -/
theorem TouchedNode.newlyMatched_cases {next : Channel}
    (touches : TouchedNode info handled next front touched back)
    (subset : handled.queue.que ⊆ before.queue.que) :
    newlyMatched before next = [] ∨
      (newlyMatched before next = [touched] ∧ touched.matched = true) := by
  have outside : ∀ superBuf ∈ front ++ back, superBuf ∈ before.queue.que :=
    fun superBuf member => subset (touches.others.subset member)
  have keptOut : ∀ part : List SuperbufNode, (∀ superBuf ∈ part, superBuf ∈ before.queue.que) →
        part.filter (fun superBuf =>
          superBuf.matched && decide (superBuf ∉ before.queue.que)) = [] := by
    intro part known
    refine List.filter_eq_nil_iff.mpr ?_
    intro superBuf member
    simp [known superBuf member]
  have frontOut := keptOut front fun superBuf member =>
      outside superBuf (List.mem_append_left _ member)
  have backOut := keptOut back fun superBuf member =>
      outside superBuf (List.mem_append_right _ member)
  unfold newlyMatched
  rw [touches.que, List.filter_append, List.filter_cons, frontOut, backOut]
  split
  · rename_i counted
    right
    exact ⟨rfl, (Bool.and_eq_true_iff.mp counted).1⟩
  · left
    rfl

private theorem NodeOk.whole (nodeOk : NodeOk streams superBuf)
    (matched : superBuf.matched = true)
    (sameFrame : ∀ slot ∈ superBuf.superBuf, slot.frameIdx ≠ 0 → slot.frameIdx = superBuf.frameIdx)
    (sources : ∀ slot ∈ superBuf.superBuf, slot.frameIdx ≠ 0 → ∃ info ∈ seen, slot = info.toSlot) :
    WholeSuperbuf streams seen superBuf where
  length := nodeOk.length
  slots := by
    intro index stream located
    have inStreams : index < streams.length := (List.getElem?_eq_some_iff.mp located).1
    have inNode : index < superBuf.superBuf.length := by
      rw [nodeOk.length]
      exact inStreams
    have slotAt : superBuf.superBuf[index]? = some superBuf.superBuf[index] :=
      List.getElem?_eq_getElem inNode
    have member : superBuf.superBuf[index] ∈ superBuf.superBuf := List.getElem_mem inNode
    have filled : superBuf.superBuf[index].frameIdx ≠ 0 := by
      have allFilled := nodeOk.matched.symm.trans matched
      rw [List.all_eq_true] at allFilled
      simpa using allFilled _ member
    obtain ⟨info, isSeen, same⟩ := sources _ member filled
    have frame := sameFrame _ member filled
    have ofStream : streams[index]? = some info.streamId := by
      rcases nodeOk.slots index _ slotAt with empty | ⟨_, _, ofStream⟩
      · rw [empty] at filled
        exact absurd rfl filled
      · rw [ofStream, same]
        rfl
    refine ⟨info, isSeen, ?_, ?_, ?_⟩
    · rw [ofStream] at located
      exact Option.some.inj located
    · rw [← frame, same]
      rfl
    · rw [slotAt, same]

private theorem WholeSuperbuf.precedes (whole : WholeSuperbuf streams seen superBuf)
    (stream : streams[bufSIdx]? = some info.streamId)
    (increases : ∀ earlier ∈ seen, earlier.streamId = info.streamId →
          earlier.frameIdx < info.frameIdx) :
    superBuf.frameIdx < info.frameIdx := by
  obtain ⟨earlier, isSeen, sameStream, sameFrame, _⟩ :=
    whole.slots bufSIdx info.streamId stream
  rw [← sameFrame]
  exact increases earlier isSeen sameStream

section Compare

variable {matched dequeued : List SuperbufNode} {ch next : Channel}

private theorem OrderInvariant.of_shorter
    (invariant : OrderInvariant streams seen matched dequeued handled)
    (wellFormed : WellFormed next) (matchedFirst : MatchedFirst next)
    (ascending : Ascending next)
    (bundledStreams : next.queue.bundledStreams = handled.queue.bundledStreams)
    (shorter : next.queue.que.Sublist handled.queue.que) :
    OrderInvariant streams seen matched dequeued next :=
  { invariant with
    bundledStreams := bundledStreams.trans invariant.bundledStreams
    wellFormed := wellFormed
    matchedFirst := matchedFirst
    ascending := ascending
    slots := fun superBuf member =>
      invariant.slots superBuf (shorter.subset member)
    logged := fun superBuf member =>
      invariant.logged superBuf (shorter.subset member)
    queAscends := invariant.queAscends.sublist shorter
    dequeuedOlder := fun earlier isDequeued superBuf member =>
      invariant.dequeuedOlder earlier isDequeued superBuf (shorter.subset member) }

/--
A comparison that touches a node.  When the node is matched, its frame is
later than every frame matched before, because its stream delivered those.
-/
private theorem OrderInvariant.of_touched
    (before : OrderInvariant streams seen matched dequeued ch)
    (invariant : OrderInvariant streams seen matched dequeued handled)
    (subset : handled.queue.que ⊆ ch.queue.que) (wellFormed : WellFormed next)
    (matchedFirst : MatchedFirst next) (ascending : Ascending next)
    (bundledStreams : next.queue.bundledStreams = handled.queue.bundledStreams)
    (stream : streams[bufSIdx]? = some info.streamId)
    (increases : ∀ earlier ∈ seen, earlier.streamId = info.streamId →
          earlier.frameIdx < info.frameIdx)
    (touches : TouchedNode info handled next front touched back) :
    OrderInvariant streams (seen ++ [info]) (matched ++ newlyMatched ch next) dequeued next := by
  have nextStreams : next.queue.bundledStreams = streams :=
    bundledStreams.trans invariant.bundledStreams
  have others : ∀ superBuf ∈ next.queue.que, superBuf = touched ∨ superBuf ∈ handled.queue.que := by
    intro superBuf member
    rw [touches.que, List.mem_append, List.mem_cons] at member
    rcases member with inFront | isTouched | inBack
    · exact Or.inr (touches.others.subset (List.mem_append_left _ inFront))
    · exact Or.inl isTouched
    · exact Or.inr (touches.others.subset (List.mem_append_right _ inBack))
  have slots : ∀ superBuf ∈ next.queue.que, ∀ slot ∈ superBuf.superBuf, slot.frameIdx ≠ 0 →
          ∃ source ∈ seen ++ [info], slot = source.toSlot := by
    intro superBuf member slot inNode filled
    have known := (invariant.see info).slots
    rcases others superBuf member with rfl | isOld
    · rcases touches.slots slot inNode filled with isNew | ⟨oldNode, inQueue, inOld⟩
      · exact ⟨info, by simp, isNew⟩
      · exact known oldNode inQueue slot inOld filled
    · exact known superBuf isOld slot inNode filled
  have later : ∀ superBuf ∈ matched, Precedes superBuf touched := by
    intro superBuf member
    have precedes := (invariant.whole superBuf member).precedes stream increases
    rw [← touches.frameIdx] at precedes
    exact precedes
  have inQueue : touched ∈ next.queue.que := by
    simp [touches.que]
  have wholeTouched : touched.matched = true → WholeSuperbuf streams (seen ++ [info]) touched := by
    intro isMatched
    have nodeOk := wellFormed.nodes touched inQueue
    rw [nextStreams] at nodeOk
    exact nodeOk.whole isMatched (ascending.sameFrame touched inQueue) (slots touched inQueue)
  have wholeOld := (invariant.see info).whole
  have newly := touches.newlyMatched_cases subset
  refine ⟨nextStreams, wellFormed, matchedFirst, ascending, slots,
    ?_, ?_, ?_, ?_, ?_, invariant.dequeuedAscend, ?_⟩
  · intro superBuf member isMatched
    by_cases wasThere : superBuf ∈ ch.queue.que
    · exact List.mem_append_left _ (before.logged superBuf wasThere isMatched)
    · refine List.mem_append_right _ (List.mem_filter.mpr ⟨member, ?_⟩)
      simp [isMatched, wasThere]
  · have ascends := invariant.queAscends.sublist touches.others
    rw [List.pairwise_append] at ascends
    obtain ⟨frontAscends, backAscends, across⟩ := ascends
    rw [touches.que, List.pairwise_append, List.pairwise_cons]
    refine ⟨frontAscends, ⟨?_, backAscends⟩, ?_⟩
    · intro superBuf inBack isMatched backMatched
      have unmatched := touches.behind isMatched superBuf inBack
      simp [backMatched] at unmatched
    · intro earlier inFront superBuf member
      rcases List.mem_cons.mp member with rfl | inBack
      · intro earlierMatched _
        refine later earlier (invariant.logged earlier ?_ earlierMatched)
        exact touches.others.subset (List.mem_append_left _ inFront)
      · exact across earlier inFront superBuf inBack
  · intro superBuf member
    rcases List.mem_append.mp member with isOld | isNew
    · exact wholeOld superBuf isOld
    · rcases newly with none | ⟨only, isMatched⟩
      · simp [none] at isNew
      · rw [only, List.mem_singleton] at isNew
        rw [isNew]
        exact wholeTouched isMatched
  · rcases newly with none | ⟨only, _⟩
    · simpa [none] using invariant.matchedAscend
    · rw [only, List.pairwise_append]
      refine ⟨invariant.matchedAscend, by simp, ?_⟩
      intro superBuf isOld current isNew
      rw [List.mem_singleton.mp isNew]
      exact later superBuf isOld
  · intro superBuf isDequeued
    exact List.mem_append_left _ (invariant.dequeuedMatched superBuf isDequeued)
  · intro earlier isDequeued superBuf member isMatched
    rcases others superBuf member with rfl | isOld
    · exact later earlier (invariant.dequeuedMatched earlier isDequeued)
    · exact invariant.dequeuedOlder earlier isDequeued superBuf isOld isMatched

/-- The arrival of a buffer whose stream goes on keeps the order. -/
theorem superbufCompAndEnqueue_order (memory : Bool)
    (invariant : OrderInvariant streams seen matched dequeued ch)
    (increases : ∀ earlier ∈ seen, earlier.streamId = info.streamId →
          earlier.frameIdx < info.frameIdx) :
    OrderInvariant streams (seen ++ [info]) (matched ++
        newlyMatched ch (superbufCompAndEnqueue memory info ch).1)
      dequeued (superbufCompAndEnqueue memory info ch).1 := by
  rcases superbufCompAndEnqueue_cases memory info ch with
      ⟨ignored, _⟩ | ⟨handled, flushed, _, ⟨dropped, drops, _⟩,
        discarded⟩ | ⟨bufSIdx, handled, flushed, compared, result⟩
  · rw [ignored, newlyMatched_of_subset (List.Subset.refl _), List.append_nil]
    exact invariant.see info
  · rw [discarded, newlyMatched_of_subset drops.sublist.subset, List.append_nil]
    exact (invariant.of_drops drops).see info
  · rw [result]
    dsimp only
    obtain ⟨dropped, drops, _⟩ := handleMetadata_drops compared.metadata
    have held := invariant.of_drops drops
    have subset : handled.queue.que ⊆ ch.queue.que := drops.sublist.subset
    have outcome := compare_case memory info bufSIdx held.wellFormed.distinct
    have wellFormed := outcome.wellFormed compared.stream compared.frameIdx held.wellFormed
    have matchedFirst := outcome.matchedFirst held.wellFormed
        (held.ascending.completesOldest info bufSIdx) held.matchedFirst
    have ascending := outcome.ascends held.ascending
    have sameStreams := outcome.sameSetup.bundledStreams
    rcases outcome.touches held.matchedFirst held.ascending with
        shorter | ⟨front, touched, back, touches⟩
    · rw [newlyMatched_of_subset (List.Subset.trans shorter.subset subset), List.append_nil]
      exact (held.of_shorter wellFormed matchedFirst ascending sameStreams shorter).see info
    · have stream := compared.stream
      rw [held.bundledStreams] at stream
      exact invariant.of_touched held subset wellFormed matchedFirst
        ascending sameStreams stream increases touches

end Compare

end AnglerHal.Superbuf
