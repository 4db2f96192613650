import AnglerHal.SuperbufSteps

namespace AnglerHal.Superbuf

/-!
# The representation invariant of the superbuf queue

`WellFormed` holds under every bundling priority.  `MatchedFirst` needs that a
completed superbuf is the oldest unmatched one, which `Ascending` supplies for
every priority but `low`.  `Bounded` then limits the unmatched superbufs, as
long as the `uint8_t` that counts them can exceed `max_unmatched_frames`.
-/

/-! ## Well-formed nodes -/

/-- A slot is as `memset` left it, or holds a buffer of its own stream. -/
def SlotOk (streams : List Nat) (index : Nat) (slot : Slot) : Prop :=
  slot = Slot.empty ∨ (slot.frameIdx ≠ 0 ∧ slot.buf.isSome = true ∧
      streams[index]? = some slot.streamId)

/-- A superbuf of the bundle, `matched` exactly when all slots are filled. -/
structure NodeOk (streams : List Nat) (superBuf : SuperbufNode) : Prop where
  length : superBuf.superBuf.length = streams.length
  slots : ∀ (index : Nat) (slot : Slot),
      superBuf.superBuf[index]? = some slot → SlotOk streams index slot
  matched : superBuf.matched = superBuf.superBuf.all fun slot => slot.frameIdx != 0
  filled : ∃ slot ∈ superBuf.superBuf, slot.frameIdx ≠ 0

/-- Distinct allocated nodes, each of them a superbuf of the bundle. -/
structure WellFormed (ch : Channel) : Prop where
  distinct : DistinctNodes ch.queue.que
  allocated : ∀ superBuf ∈ ch.queue.que, superBuf.node < ch.nextNode
  nodes : ∀ superBuf ∈ ch.queue.que, NodeOk ch.queue.bundledStreams superBuf

variable {slots : List Slot} {superBuf joined : SuperbufNode}
  {ch before after : Channel} {dropped later kept released : List SuperbufNode}
  {info : BufInfo} {bufSIdx : Nat} {result : Channel × List ChannelOutput}

section Nodes

variable {streams : List Nat}

theorem slotOk_toSlot (stream : streams[bufSIdx]? = some info.streamId)
    (frameIdx : info.frameIdx ≠ 0) :
    SlotOk streams bufSIdx info.toSlot :=
  Or.inr ⟨frameIdx, rfl, stream⟩

private theorem slots_set (stream : streams[bufSIdx]? = some info.streamId)
    (frameIdx : info.frameIdx ≠ 0)
    (before : ∀ (index : Nat) (slot : Slot), slots[index]? = some slot → SlotOk streams index slot)
    (index : Nat) (slot : Slot)
    (found : (slots.set bufSIdx info.toSlot)[index]? = some slot) :
    SlotOk streams index slot := by
  rw [List.getElem?_set] at found
  split at found
  · rename_i same
    subst same
    split at found
    · obtain rfl : info.toSlot = slot := by simpa using found
      exact slotOk_toSlot stream frameIdx
    · simp at found
  · exact before index slot found

private theorem filled_set (stream : streams[bufSIdx]? = some info.streamId)
    (frameIdx : info.frameIdx ≠ 0) (length : slots.length = streams.length) :
    ∃ slot ∈ slots.set bufSIdx info.toSlot, slot.frameIdx ≠ 0 := by
  obtain ⟨bound, _⟩ := List.getElem?_eq_some_iff.mp stream
  refine ⟨info.toSlot, ?_, frameIdx⟩
  exact List.mem_set (by omega) _

theorem JoinedFrom.nodeOk (join : JoinedFrom info bufSIdx superBuf joined)
    (stream : streams[bufSIdx]? = some info.streamId) (frameIdx : info.frameIdx ≠ 0)
    (nodeOk : NodeOk streams superBuf) :
    NodeOk streams joined where
  length := by
    rw [join.slots, List.length_set, nodeOk.length]
  slots := by
    rw [join.slots]
    exact slots_set stream frameIdx nodeOk.slots
  matched := join.matched
  filled := by
    rw [join.slots]
    exact filled_set stream frameIdx nodeOk.length

theorem newSuperbuf_nodeOk
    (stream : ch.queue.bundledStreams[bufSIdx]? = some info.streamId)
    (frameIdx : info.frameIdx ≠ 0) :
    NodeOk ch.queue.bundledStreams (newSuperbuf info bufSIdx ch) where
  length := by
    simp [newSuperbuf]
  slots := by
    refine slots_set stream frameIdx ?_
    intro index slot found
    left
    exact List.eq_of_mem_replicate (List.mem_of_getElem? found)
  matched := by
    obtain ⟨bound, _⟩ := List.getElem?_eq_some_iff.mp stream
    by_cases single : ch.queue.bundledStreams.length = 1
    · have first : bufSIdx = 0 := by omega
      simp [newSuperbuf, single, first, BufInfo.toSlot, frameIdx]
    · -- a second stream leaves a zeroed slot next to the new buffer
      have other : ∃ index, index < ch.queue.bundledStreams.length ∧ index ≠ bufSIdx := by
        by_cases zero : bufSIdx = 0
        · exact ⟨1, by omega, by omega⟩
        · exact ⟨0, by omega, by omega⟩
      obtain ⟨index, inBounds, different⟩ := other
      have zeroed : ((List.replicate ch.queue.bundledStreams.length Slot.empty).set
            bufSIdx info.toSlot)[index]? = some Slot.empty := by
        rw [List.getElem?_set_ne (Ne.symm different)]
        simp [inBounds]
      have incomplete : (((List.replicate ch.queue.bundledStreams.length
            Slot.empty).set bufSIdx info.toSlot).all fun slot => slot.frameIdx != 0) = false := by
        rw [List.all_eq_false]
        exact ⟨Slot.empty, List.mem_of_getElem? zeroed, by decide⟩
      simp only [newSuperbuf]
      rw [incomplete]
      simpa using single
  filled := by
    exact filled_set stream frameIdx (by simp)

end Nodes

/-! ## Preservation of well-formedness -/

theorem WellFormed.of_sublist (wellFormed : WellFormed before)
    (sublist : after.queue.que.Sublist before.queue.que)
    (bundledStreams : after.queue.bundledStreams = before.queue.bundledStreams)
    (nextNode : after.nextNode = before.nextNode) :
    WellFormed after where
  distinct := (sublist.map SuperbufNode.node).nodup wellFormed.distinct
  allocated := by
    intro superBuf member
    rw [nextNode]
    exact wellFormed.allocated superBuf (sublist.subset member)
  nodes := by
    intro superBuf member
    rw [bundledStreams]
    exact wellFormed.nodes superBuf (sublist.subset member)

/-- Dropping nodes from the front leaves a sublist. -/
theorem DropsFront.sublist {dropped : List SuperbufNode} {before after : Channel}
    (drops : DropsFront dropped before after) :
    after.queue.que.Sublist before.queue.que := by
  rw [drops.que]
  exact List.sublist_append_right dropped _

/-- Dropping nodes from the front keeps the queue well formed. -/
theorem DropsFront.wellFormed (drops : DropsFront dropped before after)
    (wellFormed : WellFormed before) :
    WellFormed after :=
  wellFormed.of_sublist drops.sublist drops.bundledStreams drops.nextNode

private theorem WellFormed.of_replace {earlier : List SuperbufNode}
    (wellFormed : WellFormed before)
    (sublist : (earlier ++ superBuf :: later).Sublist before.queue.que)
    (que : after.queue.que = earlier ++ joined :: later)
    (sameNode : joined.node = superBuf.node)
    (joinedOk : NodeOk before.queue.bundledStreams joined)
    (bundledStreams : after.queue.bundledStreams = before.queue.bundledStreams)
    (nextNode : after.nextNode = before.nextNode) :
    WellFormed after where
  distinct := by
    have original : DistinctNodes (earlier ++ superBuf :: later) :=
      (sublist.map SuperbufNode.node).nodup wellFormed.distinct
    simpa [DistinctNodes, que, sameNode] using original
  allocated := by
    intro current member
    rw [nextNode]
    rw [que] at member
    simp only [List.mem_append, List.mem_cons] at member
    rcases member with inEarlier | rfl | inLater
    · exact wellFormed.allocated current (sublist.subset (by simp [inEarlier]))
    · rw [sameNode]
      exact wellFormed.allocated superBuf (sublist.subset (by simp))
    · exact wellFormed.allocated current (sublist.subset (by simp [inLater]))
  nodes := by
    intro current member
    rw [bundledStreams]
    rw [que] at member
    simp only [List.mem_append, List.mem_cons] at member
    rcases member with inEarlier | rfl | inLater
    · exact wellFormed.nodes current (sublist.subset (by simp [inEarlier]))
    · exact joinedOk
    · exact wellFormed.nodes current (sublist.subset (by simp [inLater]))

/-- The evictions leave a sublist. -/
theorem Evicts.sublist {info : BufInfo} {ch : Channel} {kept released : List SuperbufNode}
    (evicts : Evicts info ch kept released) :
    kept.Sublist ch.queue.que := by
  rcases evicts.shape with ⟨rfl, _⟩ | ⟨victim, copies, evictsNode, _⟩
  · exact List.Sublist.refl _
  · obtain ⟨earlier, later, shape, rfl, _⟩ := evictsNode.split
    rw [shape]
    exact (List.Sublist.refl earlier).append (List.sublist_cons_self victim later)

/-- The comparison of an arriving buffer keeps the queue well formed. -/
theorem CompareCase.wellFormed (outcome : CompareCase info bufSIdx ch result)
    (stream : ch.queue.bundledStreams[bufSIdx]? = some info.streamId)
    (frameIdx : info.frameIdx ≠ 0) (wellFormed : WellFormed ch) :
    WellFormed result.1 := by
  cases outcome with
  | duplicate setup que size matchCnt nomatchFrameId nextNode =>
    exact wellFormed.of_sublist (by rw [que]) setup.bundledStreams nextNode
  | joins setup shape stops que join incomplete size matchCnt nomatchFrameId nextNode =>
    refine wellFormed.of_replace (by rw [shape]) que join.node
      (join.nodeOk stream frameIdx (wellFormed.nodes _ ?_))
      setup.bundledStreams nextNode
    simp [shape]
  | completes setup shape passes stops releases que join complete size
      matchCnt nomatchFrameId nextNode =>
      refine wellFormed.of_replace ?_ que join.node
        (join.nodeOk stream frameIdx (wellFormed.nodes _ ?_))
        setup.bundledStreams nextNode
      · rw [shape, List.append_assoc]
        exact (List.Sublist.refl _).append (List.sublist_append_right _ _)
      · simp [shape]
  | refused => exact wellFormed
  | @starts next kept released memory setup passes evicts size inserted =>
    cases memory with
    | false =>
      obtain ⟨que, nextNode, _, _⟩ := inserted
      exact wellFormed.of_sublist (by rw [que]; exact evicts.sublist) setup.bundledStreams nextNode
    | true =>
      obtain ⟨front, back, rfl, _, que, nextNode, _, _⟩ := inserted
      have older : ∀ current ∈ front ++ back, current.node < ch.nextNode := fun current member =>
          wellFormed.allocated current (evicts.sublist.subset member)
      have fresh : (newSuperbuf info bufSIdx ch).node = ch.nextNode := rfl
      have perm : (front ++ newSuperbuf info bufSIdx ch :: back).Perm
            (newSuperbuf info bufSIdx ch :: (front ++ back)) :=
        List.perm_middle
      refine ⟨?_, ?_, ?_⟩
      · rw [que]
        unfold DistinctNodes
        rw [(perm.map SuperbufNode.node).nodup_iff, List.map_cons, List.nodup_cons]
        refine ⟨?_, (evicts.sublist.map SuperbufNode.node).nodup wellFormed.distinct⟩
        intro member
        obtain ⟨current, inKept, same⟩ := List.mem_map.mp member
        have smaller := older current inKept
        omega
      · intro current member
        rw [que, perm.mem_iff, List.mem_cons] at member
        rw [nextNode]
        rcases member with rfl | inKept
        · omega
        · have smaller := older current inKept
          omega
      · intro current member
        rw [que, perm.mem_iff, List.mem_cons] at member
        rw [setup.bundledStreams]
        rcases member with rfl | inKept
        · exact newSuperbuf_nodeOk stream frameIdx
        · exact wellFormed.nodes current (evicts.sublist.subset inKept)

/-! ## Matched superbufs come first -/

/-- No unmatched superbuf precedes a matched one, and they are counted. -/
structure MatchedFirst (ch : Channel) : Prop where
  ordered : ch.queue.que.Pairwise fun earlier later =>
      later.matched = true → earlier.matched = true
  matchCnt : ch.queue.matchCnt = ch.queue.que.countP SuperbufNode.matched

/--
A buffer that completes a superbuf completes the first unmatched one, or finds
an older superbuf in front of it.
-/
def CompletesOldest (info : BufInfo) (bufSIdx : Nat) (ch : Channel) : Prop :=
  ∀ superBuf, ch.queue.que.find? (stopsScan ch.queue info bufSIdx) = some superBuf →
    (superBuf.insertBuf bufSIdx info).matched = true →
    ∀ first, ch.queue.que.find? (fun current => !current.matched) = some first →
      first = superBuf ∨ first.frameIdx < info.frameIdx

/-- Dropping from the front keeps the matched superbufs in front. -/
theorem DropsFront.matchedFirst (drops : DropsFront dropped before after)
    (matchedFirst : MatchedFirst before) :
    MatchedFirst after where
  ordered := matchedFirst.ordered.sublist drops.sublist
  matchCnt := by
    rw [drops.matchCnt, matchedFirst.matchCnt, drops.que, List.countP_append]
    omega

theorem EvictsNode.unmatched {info : BufInfo} {ch : Channel} {kept : List SuperbufNode}
    {victim : SuperbufNode} (evictsNode : EvictsNode info ch.queue.que kept victim)
    (matchedFirst : MatchedFirst ch) :
    victim.matched = false := by
  obtain ⟨earlier, later, shape, _, oldest, member, older⟩ := evictsNode.split
  have oldestUnmatched : oldest.matched = false := by
    simp only [isOlder, Bool.and_eq_true, Bool.not_eq_true'] at older
    exact older.1
  rcases List.mem_append.mp member with inEarlier | isVictim
  · by_contra matched
    have ordered := matchedFirst.ordered
    rw [shape, List.pairwise_append] at ordered
    have oldestMatched := ordered.2.2 oldest inEarlier victim (by simp) (by simpa using matched)
    simp [oldestUnmatched] at oldestMatched
  · rw [← List.mem_singleton.mp isVictim]
    exact oldestUnmatched

theorem Evicts.countP_matched (evicts : Evicts info ch kept released)
    (matchedFirst : MatchedFirst ch) :
    kept.countP SuperbufNode.matched = ch.queue.que.countP SuperbufNode.matched := by
  rcases evicts.shape with ⟨rfl, _⟩ | ⟨victim, copies, evictsNode, _⟩
  · rfl
  · have unmatched := evictsNode.unmatched matchedFirst
    obtain ⟨earlier, later, shape, rfl, _⟩ := evictsNode.split
    simp [shape, unmatched]

theorem NodeOk.matched_of_single {streams : List Nat} (nodeOk : NodeOk streams superBuf)
    (single : streams.length = 1) :
    superBuf.matched = true := by
  obtain ⟨slot, onlySlot⟩ := List.length_eq_one_iff.mp (nodeOk.length.trans single)
  obtain ⟨filled, member, nonzero⟩ := nodeOk.filled
  rw [onlySlot, List.mem_singleton] at member
  subst filled
  rw [nodeOk.matched, onlySlot]
  simpa using nonzero

private theorem stopsScan_unmatched {queue : ChannelQueue}
    (stops : stopsScan queue info bufSIdx superBuf = true) :
    superBuf.matched = false := by
  simp only [stopsScan, Bool.and_eq_true, Bool.not_eq_true'] at stops
  exact stops.1

private theorem completes_kept_matched (distinct : DistinctNodes ch.queue.que)
    (oldest : CompletesOldest info bufSIdx ch)
    (shape : ch.queue.que = kept ++ released ++ superBuf :: later)
    (passes : ∀ current ∈ kept ++ released, stopsScan ch.queue info bufSIdx current = false)
    (stops : stopsScan ch.queue info bufSIdx superBuf = true)
    (releases : ReleasesFrom info kept released)
    (join : JoinedFrom info bufSIdx superBuf joined) (complete : joined.matched = true) :
    ∀ current ∈ kept, current.matched = true := by
  intro current member
  by_contra unmatched
  have found : ch.queue.que.find? (stopsScan ch.queue info bufSIdx) =
        some superBuf := by
    rw [List.find?_eq_some_iff_append]
    exact ⟨stops, kept ++ released, later, shape,
      fun earlier inEarlier => by simp [passes earlier inEarlier]⟩
  have completed : (superBuf.insertBuf bufSIdx info).matched = true := by
    rw [join.matched, join.slots] at complete
    exact complete
  -- the first unmatched node of the queue is one of the kept ones
  have someUnmatched : (kept.find? fun node => !node.matched).isSome = true := by
    rw [List.find?_isSome]
    exact ⟨current, member, by simpa using unmatched⟩
  obtain ⟨first, isFirst⟩ := Option.isSome_iff_exists.mp someUnmatched
  have firstMember := List.mem_of_find?_eq_some isFirst
  have firstInQueue : ch.queue.que.find? (fun node => !node.matched) = some first := by
    rw [shape, List.append_assoc, List.find?_append, isFirst]
    rfl
  rcases oldest superBuf found completed first firstInQueue with
      same | older
  · subst first
    have apart : ∀ node ∈ kept ++ released, node.node ≠ superBuf.node :=
      (shape ▸ distinct : DistinctNodes (kept ++ released ++ superBuf :: later)).ne_around.1
    exact apart superBuf (by simp [firstMember]) rfl
  · have firstUnmatched : first.matched = false := by
      simpa using List.find?_some isFirst
    have notOlder := releases.1 first firstMember
    simp [isOlder, firstUnmatched, older] at notOlder

private theorem released_unmatched {rest : List SuperbufNode}
    (matchedFirst : MatchedFirst ch) (shape : ch.queue.que = kept ++ released ++ rest)
    (releases : ReleasesFrom info kept released) :
    ∀ current ∈ released, current.matched = false := by
  cases released with
  | nil => simp
  | cons oldest others =>
    have older := releases.2 oldest rfl
    simp only [isOlder, Bool.and_eq_true, Bool.not_eq_true'] at older
    have ordered := matchedFirst.ordered
    rw [shape, List.append_assoc, List.pairwise_append,
      List.cons_append, List.pairwise_cons] at ordered
    intro current member
    rcases List.mem_cons.mp member with rfl | inOthers
    · exact older.1
    · by_contra matched
      have oldestMatched := ordered.2.1.1 current (by simp [inOthers]) (by simpa using matched)
      simp [older.1] at oldestMatched

/-- The comparison of an arriving buffer keeps matched superbufs in front. -/
theorem CompareCase.matchedFirst (outcome : CompareCase info bufSIdx ch result)
    (wellFormed : WellFormed ch) (oldest : CompletesOldest info bufSIdx ch)
    (matchedFirst : MatchedFirst ch) :
    MatchedFirst result.1 := by
  cases outcome with
  | duplicate setup que size matchCnt nomatchFrameId nextNode =>
    exact ⟨by simpa [que] using matchedFirst.ordered,
      by simpa [que, matchCnt] using matchedFirst.matchCnt⟩
  | joins setup shape stops que join incomplete size matchCnt nomatchFrameId nextNode =>
    have before := stopsScan_unmatched stops
    have ordered := matchedFirst.ordered
    have counted := matchedFirst.matchCnt
    rw [shape] at ordered counted
    constructor
    · rw [que]
      simp only [List.pairwise_append, List.pairwise_cons, List.mem_cons] at ordered ⊢
      obtain ⟨earlierOrdered, ⟨above, laterOrdered⟩, across⟩ := ordered
      refine ⟨earlierOrdered, ⟨?_, laterOrdered⟩, ?_⟩
      · intro current member matched
        simpa [before] using above current member matched
      · rintro current member other (rfl | inLater)
        · simp [incomplete]
        · exact across current member other (Or.inr inLater)
    · rw [matchCnt, counted, que]
      simp [before, incomplete]
  | @completes next kept released later superBuf joined setup shape passes
      stops releases que join complete size matchCnt nomatchFrameId
      nextNode =>
      have before := stopsScan_unmatched stops
      have keptMatched :=
        completes_kept_matched wellFormed.distinct oldest shape passes stops releases join complete
      have releasedUnmatched := released_unmatched matchedFirst shape releases
      have ordered := matchedFirst.ordered
      rw [shape] at ordered
      constructor
      · rw [que]
        simp only [List.pairwise_append, List.pairwise_cons, List.mem_cons] at ordered ⊢
        obtain ⟨⟨keptOrdered, _⟩, ⟨_, laterOrdered⟩, _⟩ := ordered
        exact ⟨keptOrdered, ⟨fun _ _ _ => complete, laterOrdered⟩,
          fun current member _ _ _ => keptMatched current member⟩
      · have releasedCount : released.countP SuperbufNode.matched = 0 :=
          List.countP_eq_zero.mpr fun current member => by
            simp [releasedUnmatched current member]
        rw [matchCnt, matchedFirst.matchCnt, shape, que]
        simp [releasedCount, before, complete]
        omega
  | refused => exact matchedFirst
  | @starts next kept released memory setup passes evicts size inserted =>
    have keptOrdered := matchedFirst.ordered.sublist evicts.sublist
    have keptCount := evicts.countP_matched matchedFirst
    cases memory with
    | false =>
      obtain ⟨que, _, matchCnt, _⟩ := inserted
      exact ⟨by rw [que]; exact keptOrdered,
        by rw [matchCnt, que, keptCount]; exact matchedFirst.matchCnt⟩
    | true =>
      obtain ⟨front, back, rfl, inserts, que, _, matchCnt, _⟩ := inserted
      have allMatched : ch.queue.bundledStreams.length = 1 →
            ∀ current ∈ front ++ back, current.matched = true :=
        fun single current member =>
          (wellFormed.nodes current (evicts.sublist.subset member)).matched_of_single single
      have flag : (newSuperbuf info bufSIdx ch).matched =
            decide (ch.queue.bundledStreams.length = 1) := rfl
      constructor
      · rw [que]
        simp only [List.pairwise_append, List.pairwise_cons, List.mem_cons] at keptOrdered ⊢
        obtain ⟨frontOrdered, backOrdered, across⟩ := keptOrdered
        refine ⟨frontOrdered, ⟨?_, backOrdered⟩, ?_⟩
        · -- the insertion point is unmatched, and so is all after it
          intro current member matched
          cases back with
          | nil => simp at member
          | cons newer rest =>
            have isNew := inserts.2 newer rfl
            simp only [isNewer, Bool.and_eq_true, Bool.not_eq_true'] at isNew
            rcases List.mem_cons.mp member with rfl | inRest
            · simp [isNew.1] at matched
            · have newerMatched := (List.pairwise_cons.mp backOrdered).1 current inRest matched
              simp [isNew.1] at newerMatched
        · rintro current member other (rfl | inBack) matched
          · rw [flag, decide_eq_true_eq] at matched
            exact allMatched matched current (by simp [member])
          · exact across current member other inBack matched
      · rw [matchCnt, que, matchedFirst.matchCnt, ← keptCount]
        by_cases single : ch.queue.bundledStreams.length = 1
        · simp [flag, single]
          omega
        · simp [flag, single]

/-! ## Unmatched superbufs ascend, except under low priority -/

/-- The order of the unmatched superbufs and the frame of every slot. -/
structure Ascending (ch : Channel) : Prop where
  priority : ch.queue.attr.priority ≠ .low
  ascending : ch.queue.que.Pairwise fun earlier later =>
      earlier.matched = false → later.matched = false → earlier.frameIdx < later.frameIdx
  nomatchFrameId : ch.queue.nomatchFrameId = 0
  sameFrame : ∀ superBuf ∈ ch.queue.que, ∀ slot ∈ superBuf.superBuf,
      slot.frameIdx ≠ 0 → slot.frameIdx = superBuf.frameIdx

/-- Without low priority a superbuf takes the buffers of its frame only. -/
theorem Ascending.takesBuffer_iff (ascending : Ascending ch) (info : BufInfo)
    (bufSIdx : Nat) (superBuf : SuperbufNode) :
    takesBuffer ch.queue info bufSIdx superBuf = true ↔ info.frameIdx = superBuf.frameIdx := by
  have priority := ascending.priority
  simp [takesBuffer, ascending.nomatchFrameId, priority]

/-- Without low priority a completed superbuf is the oldest unmatched one. -/
theorem Ascending.completesOldest (ascending : Ascending ch) (info : BufInfo)
    (bufSIdx : Nat) :
    CompletesOldest info bufSIdx ch := by
  intro superBuf found _ first isFirst
  have stops := List.find?_some found
  have member := List.mem_of_find?_eq_some found
  have unmatched := stopsScan_unmatched stops
  have sameFrame : info.frameIdx = superBuf.frameIdx := by
    simp only [stopsScan, Bool.and_eq_true] at stops
    exact (ascending.takesBuffer_iff info bufSIdx superBuf).mp stops.2
  obtain ⟨firstUnmatched, earlier, later, shape, earlierMatched⟩ :=
    List.find?_eq_some_iff_append.mp isFirst
  have ordered := ascending.ascending
  rw [shape, List.mem_append, List.mem_cons] at member
  rw [shape, List.pairwise_append, List.pairwise_cons] at ordered
  rcases member with inEarlier | rfl | inLater
  · have matched := earlierMatched superBuf inEarlier
    simp [unmatched] at matched
  · exact Or.inl rfl
  · right
    rw [sameFrame]
    exact ordered.2.1.1 superBuf inLater (by simpa using firstUnmatched) unmatched

theorem Ascending.of_sublist (ascending : Ascending before)
    (sublist : after.queue.que.Sublist before.queue.que)
    (attr : after.queue.attr = before.queue.attr)
    (nomatchFrameId : after.queue.nomatchFrameId = 0) :
    Ascending after where
  priority := by
    rw [attr]
    exact ascending.priority
  ascending := ascending.ascending.sublist sublist
  nomatchFrameId := nomatchFrameId
  sameFrame := fun superBuf member =>
    ascending.sameFrame superBuf (sublist.subset member)

/-- Dropping from the front keeps the order of the unmatched superbufs. -/
theorem DropsFront.ascends (drops : DropsFront dropped before after)
    (ascending : Ascending before) :
    Ascending after :=
  ascending.of_sublist drops.sublist drops.attr
    (drops.nomatchFrameId.trans ascending.nomatchFrameId)

private theorem JoinedFrom.sameFrame (join : JoinedFrom info bufSIdx superBuf joined)
    (ascending : Ascending ch) (member : superBuf ∈ ch.queue.que)
    (stops : stopsScan ch.queue info bufSIdx superBuf = true) :
    ∀ slot ∈ joined.superBuf, slot.frameIdx ≠ 0 → slot.frameIdx = joined.frameIdx := by
  intro slot inJoined nonzero
  rw [join.slots] at inJoined
  rw [join.frameIdx]
  rcases List.mem_or_eq_of_mem_set inJoined with wasThere | rfl
  · exact ascending.sameFrame superBuf member slot wasThere nonzero
  · simp only [stopsScan, Bool.and_eq_true] at stops
    exact (ascending.takesBuffer_iff info bufSIdx superBuf).mp stops.2

private theorem newSuperbuf_sameFrame (info : BufInfo) (bufSIdx : Nat) (ch : Channel) :
    ∀ slot ∈ (newSuperbuf info bufSIdx ch).superBuf, slot.frameIdx ≠ 0 →
        slot.frameIdx = (newSuperbuf info bufSIdx ch).frameIdx := by
  intro slot member nonzero
  rcases List.mem_or_eq_of_mem_set member with zeroed | rfl
  · have empty := List.eq_of_mem_replicate zeroed
    subst slot
    simp [Slot.empty] at nonzero
  · rfl

private theorem ascending_insert {front back : List SuperbufNode}
    (ascending : Ascending ch)
    (passes : ∀ current ∈ ch.queue.que, stopsScan ch.queue info bufSIdx current = false)
    (sublist : (front ++ back).Sublist ch.queue.que)
    (inserts : InsertsAt info front back) :
    (front ++ newSuperbuf info bufSIdx ch :: back).Pairwise fun earlier later =>
        earlier.matched = false → later.matched = false → earlier.frameIdx < later.frameIdx := by
  have ordered := ascending.ascending.sublist sublist
  simp only [List.pairwise_append, List.pairwise_cons, List.mem_cons] at ordered ⊢
  obtain ⟨frontOrdered, backOrdered, across⟩ := ordered
  refine ⟨frontOrdered, ⟨?_, backOrdered⟩, ?_⟩
  · intro current member _ unmatched
    cases back with
    | nil => simp at member
    | cons newer rest =>
      have isNew := inserts.2 newer rfl
      simp only [isNewer, Bool.and_eq_true, Bool.not_eq_true', decide_eq_true_eq] at isNew
      rcases List.mem_cons.mp member with rfl | inRest
      · exact isNew.2
      · have above := (List.pairwise_cons.mp backOrdered).1 current inRest isNew.1 unmatched
        exact Nat.lt_trans isNew.2 above
  · rintro current member other (rfl | inBack) unmatched laterUnmatched
    · -- in front of the insertion point nothing is newer or of this frame
      have notNewer := inserts.1 current member
      have refuses := passes current (sublist.subset (by simp [member]))
      have different : info.frameIdx ≠ current.frameIdx := by
        intro same
        have takes := (ascending.takesBuffer_iff info bufSIdx current).mpr same
        simp [stopsScan, unmatched, takes] at refuses
      simp only [isNewer, unmatched, Bool.not_false, Bool.true_and,
        decide_eq_false_iff_not] at notNewer
      change current.frameIdx < info.frameIdx
      omega
    · exact across current member other inBack unmatched laterUnmatched

/-- The comparison keeps the order of the unmatched superbufs. -/
theorem CompareCase.ascends (outcome : CompareCase info bufSIdx ch result)
    (ascending : Ascending ch) :
    Ascending result.1 := by
  cases outcome with
  | duplicate setup que size matchCnt nomatchFrameId nextNode =>
    exact ascending.of_sublist (by rw [que]) setup.attr nomatchFrameId
  | @joins next earlier later superBuf joined setup shape stops que join
      incomplete size matchCnt nomatchFrameId nextNode =>
      have before := stopsScan_unmatched stops
      have ordered := ascending.ascending
      rw [shape] at ordered
      refine ⟨by rw [setup.attr]; exact ascending.priority, ?_, nomatchFrameId, ?_⟩
      · rw [que]
        simp only [List.pairwise_append, List.pairwise_cons,
          List.mem_cons, forall_eq_or_imp] at ordered ⊢
        simpa [join.frameIdx, before, incomplete] using ordered
      · intro current member
        rw [que, List.mem_append, List.mem_cons] at member
        rcases member with inEarlier | rfl | inLater
        · exact ascending.sameFrame current (by simp [shape, inEarlier])
        · exact join.sameFrame ascending (by simp [shape]) stops
        · exact ascending.sameFrame current (by simp [shape, inLater])
  | @completes next kept released later superBuf joined setup shape passes
      stops releases que join complete size matchCnt nomatchFrameId
      nextNode =>
      have ordered := ascending.ascending
      rw [shape] at ordered
      refine ⟨by rw [setup.attr]; exact ascending.priority, ?_, nomatchFrameId, ?_⟩
      · rw [que]
        simp only [List.pairwise_append, List.pairwise_cons,
          List.mem_append, List.mem_cons, forall_eq_or_imp] at ordered ⊢
        obtain ⟨⟨keptOrdered, _, _⟩, ⟨_, laterOrdered⟩, across⟩ := ordered
        refine ⟨keptOrdered, ⟨by simp [complete], laterOrdered⟩, ?_⟩
        intro current member
        exact ⟨by simp [complete], (across current (Or.inl member)).2⟩
      · intro current member
        rw [que, List.mem_append, List.mem_cons] at member
        rcases member with inKept | rfl | inLater
        · exact ascending.sameFrame current (by simp [shape, inKept])
        · exact join.sameFrame ascending (by simp [shape]) stops
        · exact ascending.sameFrame current (by simp [shape, inLater])
  | refused => exact ascending
  | @starts next kept released memory setup passes evicts size inserted =>
    cases memory with
    | false =>
      obtain ⟨que, _, _, nomatchFrameId⟩ := inserted
      exact ascending.of_sublist (by rw [que]; exact evicts.sublist)
        setup.attr (nomatchFrameId.trans ascending.nomatchFrameId)
    | true =>
      obtain ⟨front, back, rfl, inserts, que, _, _, nomatchFrameId⟩ := inserted
      refine ⟨by rw [setup.attr]; exact ascending.priority, ?_, ?_, ?_⟩
      · rw [que]
        exact ascending_insert ascending passes evicts.sublist inserts
      · rw [nomatchFrameId]
        simp [ascending.priority, ascending.nomatchFrameId]
      · intro current member
        rw [que, List.mem_append, List.mem_cons] at member
        rcases member with inFront | rfl | inBack
        · exact ascending.sameFrame current (evicts.sublist.subset (by simp [inFront]))
        · exact newSuperbuf_sameFrame info bufSIdx ch
        · exact ascending.sameFrame current (evicts.sublist.subset (by simp [inBack]))

/-! ## The number of superbufs -/

/-- The eviction loop of the next new superbuf frees at most one node. -/
def EvictsOnce (ch : Channel) : Prop :=
  unmatchedCount ch.queue.que % 256 ≤ ch.queue.attr.maxUnmatchedFrames.toNat + 1

/-- `que.size` is the number of nodes. -/
def Sized (ch : Channel) : Prop :=
  ch.queue.size = ch.queue.que.length

/-- The limit on unmatched superbufs, while the `uint8_t` count can pass it. -/
def Bounded (ch : Channel) : Prop :=
  ch.queue.attr.maxUnmatchedFrames.toNat < 255 → unmatchedCount ch.queue.que ≤
      ch.queue.attr.maxUnmatchedFrames.toNat + 1

/-- Under the limit an eviction frees one node; at `255` there is none. -/
theorem Bounded.evictsOnce (bounded : Bounded ch) :
    EvictsOnce ch := by
  unfold EvictsOnce
  by_cases small : ch.queue.attr.maxUnmatchedFrames.toNat < 255
  · have count := bounded small
    have reduced := Nat.mod_le (unmatchedCount ch.queue.que) 256
    omega
  · have byte := Nat.mod_lt (unmatchedCount ch.queue.que) (by decide : 0 < 256)
    omega

/-- An eviction that frees one node releases it once. -/
theorem Evicts.cases_of_once (evicts : Evicts info ch kept released)
    (once : EvictsOnce ch) :
    (kept = ch.queue.que ∧ released = []) ∨
    ∃ victim, EvictsNode info ch.queue.que kept victim ∧ released = [victim] := by
  rcases evicts.shape with
      unchanged | ⟨victim, copies, evictsNode, exceeds, amount, rfl⟩
  · exact Or.inl unchanged
  · right
    have single : copies = 1 := by
      unfold EvictsOnce at once
      omega
    subst single
    exact ⟨victim, evictsNode, rfl⟩

theorem Evicts.length {info : BufInfo} {ch : Channel} {kept released : List SuperbufNode}
    (evicts : Evicts info ch kept released)
    (once : EvictsOnce ch) :
    ch.queue.que.length = kept.length + released.length := by
  rcases evicts.cases_of_once once with
      ⟨rfl, rfl⟩ | ⟨victim, evictsNode, rfl⟩
  · simp
  · obtain ⟨earlier, later, shape, rfl, _⟩ := evictsNode.split
    simp [shape]
    omega

theorem DropsFront.sized (drops : DropsFront dropped before after)
    (sized : Sized before) :
    Sized after := by
  unfold Sized at *
  rw [drops.size, sized, drops.que, List.length_append]
  omega

theorem CompareCase.sized (outcome : CompareCase info bufSIdx ch result)
    (once : EvictsOnce ch) (sized : Sized ch) :
    Sized result.1 := by
  unfold Sized at *
  cases outcome with
  | duplicate setup que size matchCnt nomatchFrameId nextNode => simp [que, size, sized]
  | joins setup shape stops que join incomplete size matchCnt nomatchFrameId nextNode =>
    simp [que, size, sized, shape]
  | completes setup shape passes stops releases que join complete size
      matchCnt nomatchFrameId nextNode =>
      simp [que, size, sized, shape]
      omega
  | refused => exact sized
  | @starts next kept released memory setup passes evicts size inserted =>
    have lengths := evicts.length once
    cases memory with
    | false =>
      obtain ⟨que, _⟩ := inserted
      simp only [Bool.false_eq_true, if_false] at size
      simp only [size, que, sized]
      omega
    | true =>
      obtain ⟨front, back, rfl, _, que, _⟩ := inserted
      simp only [if_true, List.length_append] at size lengths
      simp only [size, que, sized, List.length_append, List.length_cons]
      omega

theorem unmatchedCount_sublist {fewer more : List SuperbufNode} (sublist : fewer.Sublist more) :
    unmatchedCount fewer ≤ unmatchedCount more :=
  sublist.countP_le

/-- Dropping from the front keeps the limit. -/
theorem DropsFront.bounded {dropped : List SuperbufNode} {before after : Channel}
    (drops : DropsFront dropped before after) (bounded : Bounded before) :
    Bounded after := by
  unfold Bounded at *
  rw [drops.attr]
  intro small
  exact Nat.le_trans (unmatchedCount_sublist drops.sublist) (bounded small)

private theorem Evicts.room_for_one (evicts : Evicts info ch kept released)
    (matchedFirst : MatchedFirst ch) (bounded : Bounded ch)
    (small : ch.queue.attr.maxUnmatchedFrames.toNat < 255) :
    unmatchedCount kept ≤ ch.queue.attr.maxUnmatchedFrames.toNat := by
  have count := bounded small
  have reduced : unmatchedCount ch.queue.que % 256 = unmatchedCount ch.queue.que :=
    Nat.mod_eq_of_lt (by omega)
  have room := evicts.room
  rcases evicts.cases_of_once bounded.evictsOnce with
      ⟨rfl, rfl⟩ | ⟨victim, evictsNode, rfl⟩
  · by_contra exceeds
    exact room (by omega) rfl
  · have unmatched := evictsNode.unmatched matchedFirst
    obtain ⟨earlier, later, shape, rfl, _⟩ := evictsNode.split
    have removed : unmatchedCount ch.queue.que = unmatchedCount (earlier ++ later) + 1 := by
      simp [shape, unmatchedCount, unmatched]
      omega
    omega

theorem CompareCase.bounded {info : BufInfo} {bufSIdx : Nat} {ch : Channel}
    {result : Channel × List ChannelOutput}
    (outcome : CompareCase info bufSIdx ch result) (matchedFirst : MatchedFirst ch)
    (bounded : Bounded ch) :
    Bounded result.1 := by
  cases outcome with
  | duplicate setup que size matchCnt nomatchFrameId nextNode =>
    simpa [Bounded, que, setup.attr] using bounded
  | joins setup shape stops que join incomplete size matchCnt nomatchFrameId nextNode =>
    have before := stopsScan_unmatched stops
    simpa [Bounded, que, setup.attr, shape, unmatchedCount, before, incomplete] using bounded
  | @completes next kept released later superBuf joined setup shape passes
      stops releases que join complete size matchCnt nomatchFrameId
      nextNode =>
      intro small
      simp only [setup.attr] at small ⊢
      have count := bounded small
      simp only [shape, que, unmatchedCount, List.countP_append,
        List.countP_cons, complete] at count ⊢
      simp only [Bool.not_true, Bool.false_eq_true, if_false]
      omega
  | refused => exact bounded
  | @starts next kept released memory setup passes evicts size inserted =>
    intro small
    simp only [setup.attr] at small ⊢
    have room := evicts.room_for_one matchedFirst bounded small
    cases memory with
    | false =>
      obtain ⟨que, _⟩ := inserted
      rw [que]
      omega
    | true =>
      obtain ⟨front, back, rfl, _, que, _⟩ := inserted
      rw [que]
      simp only [unmatchedCount, List.countP_append, List.countP_cons] at room ⊢
      split <;> omega

/-! ## Whole runs -/

theorem superbufStep_dropsFront (ch : Channel) (op : SuperbufOp)
    (other : ∀ memory info, op ≠ .compAndEnqueue memory info) :
    ∃ dropped, DropsFront dropped ch (superbufStep ch op).1 := by
  cases op with
  | compAndEnqueue memory info => exact absurd rfl (other memory info)
  | dequeue =>
    rcases superbufDequeue_cases ch with
        nothing | ⟨superBuf, next, taken, _, drops⟩
    · exact ⟨[], by simpa [superbufStep, nothing] using .refl ch⟩
    · exact ⟨[superBuf], by simpa [superbufStep, taken] using drops⟩
  | bufdoneOverflow iterations =>
    obtain ⟨dropped, drops, _⟩ := superbufBufdoneOverflow_drops iterations ch
    exact ⟨dropped, drops⟩
  | skip iterations =>
    obtain ⟨dropped, drops, _⟩ := superbufSkip_drops iterations ch
    exact ⟨dropped, drops⟩
  | flush camType =>
    obtain ⟨dropped, drops, _⟩ := superbufFlush_drops camType ch
    exact ⟨dropped, drops⟩
  | flushMatched =>
    obtain ⟨dropped, drops, _⟩ := superbufFlushMatched_drops ch
    exact ⟨dropped, drops⟩

/--
The step rule: what drops from the front keep, and what the comparison of a
buffer keeps, is kept by every operation.
-/
theorem superbufStep_preserves (holds : Channel → Prop) (ch : Channel) (op : SuperbufOp) (drops :
      ∀ {dropped before after}, DropsFront dropped before after → holds before → holds after)
    (compares : ∀ {memory info bufSIdx handled flushed}, op = .compAndEnqueue memory info →
        Compares info bufSIdx ch handled flushed →
        holds handled →
        holds (compare memory info bufSIdx handled).1)
    (before : holds ch) :
    holds (superbufStep ch op).1 := by
  by_cases arrival : ∃ memory info, op = .compAndEnqueue memory info
  · obtain ⟨memory, info, rfl⟩ := arrival
    simp only [superbufStep]
    rcases superbufCompAndEnqueue_cases memory info ch with
        ⟨ignored, _⟩ | ⟨handled, flushed, _, ⟨dropped, front, _⟩,
          discarded⟩ | ⟨bufSIdx, handled, flushed, compared, result⟩
    · rw [ignored]
      exact before
    · rw [discarded]
      exact drops front before
    · rw [result]
      obtain ⟨dropped, front, _⟩ := handleMetadata_drops compared.metadata
      exact compares rfl compared (drops front before)
  · obtain ⟨dropped, front⟩ :=
      superbufStep_dropsFront ch op fun memory info same =>
        arrival ⟨memory, info, same⟩
    exact drops front before

/-- The stream of a compared buffer, after its metadata has been handled. -/
theorem Compares.stream {handled : Channel} {flushed : List ChannelOutput}
    (compared : Compares info bufSIdx ch handled flushed) :
    handled.queue.bundledStreams[bufSIdx]? = some info.streamId := by
  obtain ⟨dropped, front, _⟩ := handleMetadata_drops compared.metadata
  have sameStreams : handled.queue.bundledStreams = ch.queue.bundledStreams := front.bundledStreams
  rw [sameStreams]
  exact compared.arrives.stream

/-- Every operation keeps the queue well formed. -/
theorem superbufStep_wellFormed (op : SuperbufOp) (wellFormed : WellFormed ch) :
    WellFormed (superbufStep ch op).1 := by
  refine superbufStep_preserves WellFormed ch op
    (fun drops held => drops.wellFormed held) ?_ wellFormed
  intro memory info bufSIdx handled flushed _ compared held
  exact (compare_case memory info bufSIdx held.distinct).wellFormed
    compared.stream compared.frameIdx held

/-- No operation changes the attributes or the streams of the bundle. -/
theorem superbufStep_sameSetup (op : SuperbufOp) (wellFormed : WellFormed ch) :
    SameSetup ch (superbufStep ch op).1 := by
  have kept : WellFormed (superbufStep ch op).1 ∧ SameSetup ch (superbufStep ch op).1 := by
    refine superbufStep_preserves
      (fun current => WellFormed current ∧ SameSetup ch current) ch op ?_ ?_
      ⟨wellFormed, rfl, rfl⟩
    · rintro dropped before after drops ⟨held, setup⟩
      exact ⟨drops.wellFormed held, drops.attr.trans setup.attr,
        drops.bundledStreams.trans setup.bundledStreams⟩
    · rintro memory info bufSIdx handled flushed _ compared ⟨held, setup⟩
      have outcome := compare_case memory info bufSIdx held.distinct
      have same := outcome.sameSetup
      exact ⟨outcome.wellFormed compared.stream compared.frameIdx held, same.attr.trans setup.attr,
        same.bundledStreams.trans setup.bundledStreams⟩
  exact kept.2

/-- The invariant of a bundle whose priority is not low. -/
structure NormalInvariant (ch : Channel) : Prop where
  wellFormed : WellFormed ch
  matchedFirst : MatchedFirst ch
  ascending : Ascending ch
  sized : Sized ch
  bounded : Bounded ch

/-- An empty queue satisfies the invariant. -/
theorem Channel.Fresh.wellFormed (fresh : ch.Fresh) :
    WellFormed ch := by
  constructor <;> simp [fresh.que, DistinctNodes]

/-- An empty queue has its matched superbufs in front. -/
theorem Channel.Fresh.matchedFirst (fresh : ch.Fresh) :
    MatchedFirst ch := by
  constructor <;> simp [fresh.que, fresh.matchCnt]

/-- An empty queue satisfies the whole invariant. -/
theorem Channel.Fresh.normalInvariant (fresh : ch.Fresh)
    (priority : ch.queue.attr.priority ≠ .low) :
    NormalInvariant ch where
  wellFormed := fresh.wellFormed
  matchedFirst := fresh.matchedFirst
  ascending := by
    refine ⟨priority, ?_, fresh.nomatchFrameId, ?_⟩ <;> simp [fresh.que]
  sized := by
    simp [Sized, fresh.que, fresh.size]
  bounded := by
    simp [Bounded, fresh.que, unmatchedCount]

/-- Every operation keeps the invariant. -/
theorem superbufStep_normalInvariant (op : SuperbufOp) (invariant : NormalInvariant ch) :
    NormalInvariant (superbufStep ch op).1 := by
  refine superbufStep_preserves NormalInvariant ch op ?_ ?_ invariant
  · intro dropped before after drops held
    exact ⟨drops.wellFormed held.wellFormed, drops.matchedFirst held.matchedFirst,
      drops.ascends held.ascending,
      drops.sized held.sized,
      drops.bounded held.bounded⟩
  · intro memory info bufSIdx handled flushed _ compared held
    have outcome := compare_case memory info bufSIdx held.wellFormed.distinct
    exact ⟨ outcome.wellFormed compared.stream compared.frameIdx held.wellFormed,
      outcome.matchedFirst held.wellFormed
        (held.ascending.completesOldest info bufSIdx) held.matchedFirst,
      outcome.ascends held.ascending,
      outcome.sized held.bounded.evictsOnce held.sized,
      outcome.bounded held.matchedFirst held.bounded⟩

/-- Every list of operations runs to the end. -/
theorem superbufRun_total (ch : Channel) (ops : List SuperbufOp) :
    ∃ final log, superbufRun ch ops = some (final, log) :=
  LabelledRun.run?_total (fun _ _ => ⟨_, _, rfl⟩) ch ops

/-- The run of a bundle keeps its invariant, attributes and streams. -/
theorem superbufRun_normalInvariant {final : Channel} {ops : List SuperbufOp}
    {log : List ChannelOutput} (fresh : ch.Fresh)
    (priority : ch.queue.attr.priority ≠ .low)
    (ran : superbufRun ch ops = some (final, log)) :
    NormalInvariant final ∧ SameSetup ch final := by
  refine LabelledRun.stateInvariant_of_run
    (fun current => NormalInvariant current ∧ SameSetup ch current)
    ran ⟨fresh.normalInvariant priority, rfl, rfl⟩ ?_
  intro current op next emitted held stepped
  obtain ⟨invariant, setup⟩ := held
  have result : superbufStep current op = (next, emitted) := by
    simpa using stepped
  have kept := superbufStep_normalInvariant op invariant
  have same := superbufStep_sameSetup op invariant.wellFormed
  rw [result] at kept same
  exact ⟨kept, same.attr.trans setup.attr, same.bundledStreams.trans setup.bundledStreams⟩

end AnglerHal.Superbuf
