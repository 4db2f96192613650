import AnglerHal.SuperbufOverflow
import Mathlib.Algebra.Order.BigOperators.Group.List

namespace AnglerHal.Superbuf

/-!
# Buffer conservation in a bundle

Every buffer of a bundled stream that enters `comp_and_enqueue` is in a slot of
the queue, has been queued back with `mm_channel_qbuf`, or has been handed out
in a dequeued superbuf, and in one of these places only.  `Transfers` states
the balance of one operation and composes along runs.

The eviction loop keeps the balance while at most one unmatched superbuf is
above the limit.  With two above it the loop comes back to the node it has just
freed; the last section shows a bundle with low priority that gets there.
-/

/-! ## Where a buffer can be -/

/-- The buffers in the slots of the queue. -/
def queueBufs (ch : Channel) : List BufDef :=
  ch.queue.que.flatMap SuperbufNode.bufs

/-- The list nodes of the queue. -/
def queueNodes (ch : Channel) : List Nat :=
  ch.queue.que.map SuperbufNode.node

/-- The buffers passed to `mm_channel_qbuf`. -/
def qbufs (log : List ChannelOutput) : List BufDef :=
  log.filterMap fun output =>
    match output with
    | .qbuf buf => some buf
    | _ => none

/-- The buffers in superbufs handed to the application. -/
def handedOut (log : List ChannelOutput) : List BufDef :=
  log.flatMap fun output =>
    match output with
    | .superbuf superBuf => superBuf.bufs
    | _ => []

/-- The list nodes freed. -/
def freedNodes (log : List ChannelOutput) : List Nat :=
  log.filterMap fun output =>
    match output with
    | .freeNode node => some node
    | _ => none

/-- The buffer an operation gives to the bundle, if it is a bundled one. -/
def givenBuf (streams : List Nat) : SuperbufOp → List BufDef
  | .compAndEnqueue _ info => if info.streamId ∈ streams then [info.buf] else []
  | _ => []

/-- All buffers of bundled streams given by a list of operations. -/
def givenBufs (streams : List Nat) (ops : List SuperbufOp) : List BufDef :=
  ops.flatMap (givenBuf streams)

section Logs

variable (first second : List ChannelOutput)

@[simp] theorem qbufs_append : qbufs (first ++ second) = qbufs first ++ qbufs second := by
  simp [qbufs]

@[simp] theorem handedOut_append :
    handedOut (first ++ second) = handedOut first ++ handedOut second := by
  simp [handedOut]

@[simp] theorem freedNodes_append : freedNodes (first ++ second) =
      freedNodes first ++ freedNodes second := by
  simp [freedNodes]

end Logs

/-- Buffers queued back are the only trace of a list of `qbuf` calls. -/
@[simp] theorem qbufs_map_qbuf (bufs : List BufDef) :
    qbufs (bufs.map ChannelOutput.qbuf) = bufs := by
  simp [qbufs, List.filterMap_map]

@[simp] theorem handedOut_map_qbuf (bufs : List BufDef) :
    handedOut (bufs.map ChannelOutput.qbuf) = [] := by
  simp [handedOut]

@[simp] theorem freedNodes_map_qbuf (bufs : List BufDef) :
    freedNodes (bufs.map ChannelOutput.qbuf) = [] := by
  simp [freedNodes]

theorem bufDone_default (superBuf : SuperbufNode) :
    qbufs (bufDone .default superBuf) = superBuf.bufs ∧ handedOut (bufDone .default superBuf) = [] ∧
      freedNodes (bufDone .default superBuf) = [superBuf.node] := by
  have everything : bufDone .default superBuf = [ChannelOutput.freeNode superBuf.node] ++
          superBuf.bufs.map ChannelOutput.qbuf := by
    simp [bufDone]
  rw [everything, qbufs_append, handedOut_append, freedNodes_append,
    qbufs_map_qbuf, handedOut_map_qbuf, freedNodes_map_qbuf]
  exact ⟨rfl, rfl, rfl⟩

variable {streams : List Nat} {ch : Channel} {result : Channel × List ChannelOutput}
  {bufSIdx : Nat} {info : BufInfo} {memory : Bool}

theorem NodeOk.bufsByFrameIdx_eq {superBuf : SuperbufNode}
    (nodeOk : NodeOk streams superBuf) :
    superBuf.bufsByFrameIdx = superBuf.bufs := by
  unfold SuperbufNode.bufsByFrameIdx SuperbufNode.bufs
  apply List.filterMap_congr
  intro slot member
  obtain ⟨index, found⟩ := List.mem_iff_getElem?.mp member
  rcases nodeOk.slots index slot found with rfl | ⟨nonzero, _⟩
  · simp [Slot.empty]
  · simp [nonzero]

theorem release_nodes {released : List SuperbufNode}
    (nodesOk : ∀ superBuf ∈ released, NodeOk streams superBuf) :
    qbufs (released.flatMap SuperbufNode.release) = released.flatMap SuperbufNode.bufs ∧
      handedOut (released.flatMap SuperbufNode.release) = [] ∧
      freedNodes (released.flatMap SuperbufNode.release) = released.map SuperbufNode.node := by
  induction released with
  | nil => simp [qbufs, handedOut, freedNodes]
  | cons superBuf rest inductionHypothesis =>
    obtain ⟨restQbufs, restHanded, restFreed⟩ :=
      inductionHypothesis fun current member =>
        nodesOk current (by simp [member])
    have same := (nodesOk superBuf (by simp)).bufsByFrameIdx_eq
    have parts : qbufs superBuf.release = superBuf.bufs ∧ handedOut superBuf.release = [] ∧
          freedNodes superBuf.release = [superBuf.node] := by
      simp only [SuperbufNode.release, same, qbufs_append,
        qbufs_map_qbuf, handedOut_append, handedOut_map_qbuf,
        freedNodes_append, freedNodes_map_qbuf]
      simp [qbufs, handedOut, freedNodes]
    simp only [List.flatMap_cons, List.map_cons, qbufs_append,
      handedOut_append, freedNodes_append, parts, restQbufs, restHanded,
      restFreed]
    exact ⟨trivial, rfl, rfl⟩

/-! ## The balance of one operation -/

/--
The buffers in the queue and those given are, after the step, in the queue,
queued back or handed out; likewise for old and newly allocated nodes.
-/
structure Transfers (given : List BufDef) (ch : Channel)
    (result : Channel × List ChannelOutput) : Prop where
  bufs : (queueBufs ch ++ given).Perm (queueBufs result.1 ++ qbufs result.2 ++ handedOut result.2)
  nodes : ∃ allocated, result.1.nextNode = ch.nextNode + allocated ∧
        (queueNodes ch ++ List.range' ch.nextNode allocated).Perm
          (queueNodes result.1 ++ freedNodes result.2)

namespace Transfers

theorem refl (ch : Channel) : Transfers [] ch (ch, []) where
  bufs := by
    simp [qbufs, handedOut]
  nodes := ⟨0, rfl, by simp [freedNodes]⟩

theorem qbuf (ch : Channel) (buf : BufDef) : Transfers [buf] ch (ch, [.qbuf buf]) where
  bufs := by
    simp [qbufs, handedOut]
  nodes := ⟨0, rfl, by simp [freedNodes]⟩

theorem trans {first second : List BufDef} {ch middle final : Channel}
    {earlier later : List ChannelOutput}
    (firstStep : Transfers first ch (middle, earlier))
    (secondStep : Transfers second middle (final, later)) :
    Transfers (first ++ second) ch (final, earlier ++ later) where
  bufs := by
    have firstCount := firstStep.bufs
    have secondCount := secondStep.bufs
    rw [List.perm_iff_count] at firstCount secondCount ⊢
    intro buf
    have firstBuf := firstCount buf
    have secondBuf := secondCount buf
    simp only [List.count_append, qbufs_append, handedOut_append] at firstBuf secondBuf ⊢
    omega
  nodes := by
    obtain ⟨fewer, firstNext, firstNodes⟩ := firstStep.nodes
    obtain ⟨more, secondNext, secondNodes⟩ := secondStep.nodes
    simp only at firstNext secondNext firstNodes secondNodes
    refine ⟨fewer + more, by simp only; omega, ?_⟩
    rw [← List.range'_append_1]
    rw [firstNext] at secondNodes
    rw [List.perm_iff_count] at firstNodes secondNodes ⊢
    intro node
    have firstNode := firstNodes node
    have secondNode := secondNodes node
    simp only [List.count_append, freedNodes_append] at firstNode secondNode ⊢
    omega

end Transfers

theorem Drops.transfers (drops : Drops ch result) :
    Transfers [] ch result := by
  obtain ⟨dropped, front, released⟩ := drops
  have outputs : qbufs result.2 = dropped.flatMap SuperbufNode.bufs ∧ handedOut result.2 = [] ∧
        freedNodes result.2 = dropped.map SuperbufNode.node := by
    rw [released]
    clear front released
    induction dropped with
    | nil => simp [qbufs, handedOut, freedNodes]
    | cons superBuf rest inductionHypothesis =>
      simpa [bufDone_default superBuf] using inductionHypothesis
  refine ⟨?_, 0, front.nextNode, ?_⟩
  · rw [outputs.1, outputs.2.1]
    simp only [queueBufs, front.que, List.flatMap_append, List.append_nil]
    exact List.perm_append_comm
  · rw [outputs.2.2]
    simp only [queueNodes, front.que, List.map_append, List.range'_zero, List.append_nil]
    exact List.perm_append_comm

theorem superbufDequeue_transfers (ch : Channel) : Transfers [] ch (superbufDequeue ch) := by
  rcases superbufDequeue_cases ch with
      nothing | ⟨superBuf, next, taken, _, front⟩
  · rw [nothing]
    exact .refl ch
  · rw [taken]
    refine ⟨?_, 0, front.nextNode, ?_⟩
    · simp only [queueBufs, front.que, qbufs, handedOut]
      simpa using List.perm_append_comm
    · have moved : ([superBuf.node] ++ queueNodes next).Perm (queueNodes next ++ [superBuf.node]) :=
        List.perm_append_comm
      simpa [queueNodes, front.que, freedNodes] using moved

private theorem bufs_set {slots : List Slot} {slot : Slot} (info : BufInfo)
    (found : slots[bufSIdx]? = some slot) (empty : slot.buf = none) :
    ((slots.set bufSIdx info.toSlot).filterMap Slot.buf).Perm
      (info.buf :: slots.filterMap Slot.buf) := by
  obtain ⟨bound, at_index⟩ := List.getElem?_eq_some_iff.mp found
  have split : slots = slots.take bufSIdx ++ slot :: slots.drop (bufSIdx + 1) := by
    rw [← at_index, List.getElem_cons_drop, List.take_append_drop]
  have filled : slots.set bufSIdx info.toSlot =
        slots.take bufSIdx ++ info.toSlot :: slots.drop (bufSIdx + 1) :=
    List.set_eq_take_append_cons_drop.trans (by simp [bound])
  have before : slots.filterMap Slot.buf = (slots.take bufSIdx).filterMap Slot.buf ++
          (slots.drop (bufSIdx + 1)).filterMap Slot.buf := by
    conv_lhs => rw [split]
    simp [empty]
  rw [filled, before]
  simp only [List.filterMap_append, List.filterMap_cons, BufInfo.toSlot]
  exact List.perm_middle

theorem JoinedFrom.bufs {info : BufInfo} {bufSIdx : Nat} {streams : List Nat}
    {superBuf joined : SuperbufNode} (join : JoinedFrom info bufSIdx superBuf joined)
    (stream : streams[bufSIdx]? = some info.streamId) (nodeOk : NodeOk streams superBuf) :
    joined.bufs.Perm (info.buf :: superBuf.bufs) := by
  obtain ⟨bound, _⟩ := List.getElem?_eq_some_iff.mp stream
  have inBounds : bufSIdx < superBuf.superBuf.length := by
    rw [nodeOk.length]
    exact bound
  have found := List.getElem?_eq_getElem inBounds
  have slotEq : superBuf.slot bufSIdx = superBuf.superBuf[bufSIdx] := by
    simp [SuperbufNode.slot, found]
  have empty : superBuf.superBuf[bufSIdx].buf = none := by
    rcases nodeOk.slots bufSIdx _ found with isEmpty | ⟨nonzero, _⟩
    · rw [isEmpty]
      rfl
    · exact absurd (slotEq ▸ join.empty) nonzero
  unfold SuperbufNode.bufs
  rw [join.slots]
  exact bufs_set info found empty

theorem newSuperbuf_bufs
    (stream : ch.queue.bundledStreams[bufSIdx]? = some info.streamId) :
    (newSuperbuf info bufSIdx ch).bufs.Perm [info.buf] := by
  obtain ⟨bound, _⟩ := List.getElem?_eq_some_iff.mp stream
  have found : (List.replicate ch.queue.bundledStreams.length
        Slot.empty)[bufSIdx]? = some Slot.empty := by
    simp [bound]
  have filled := bufs_set info found rfl
  have nothing : (List.replicate ch.queue.bundledStreams.length
        Slot.empty).filterMap Slot.buf = [] := by
    rw [List.filterMap_eq_nil_iff]
    intro slot member
    rw [List.eq_of_mem_replicate member]
    rfl
  rw [nothing] at filled
  exact filled

theorem CompareCase.transfers (outcome : CompareCase info bufSIdx ch result)
    (stream : ch.queue.bundledStreams[bufSIdx]? = some info.streamId)
    (wellFormed : WellFormed ch)
    (once : (∀ current ∈ ch.queue.que, stopsScan ch.queue info bufSIdx current = false) →
      EvictsOnce ch) :
    Transfers [info.buf] ch result := by
  cases outcome with
  | duplicate setup que size matchCnt nomatchFrameId nextNode =>
    refine ⟨?_, 0, nextNode, ?_⟩
    · simp [queueBufs, que, qbufs, handedOut]
    · simp [queueNodes, que, freedNodes]
  | @joins next earlier later superBuf joined setup shape stops que join
      incomplete size matchCnt nomatchFrameId nextNode =>
      have joinedBufs := join.bufs stream (wellFormed.nodes superBuf (by simp [shape]))
      refine ⟨?_, 0, nextNode, ?_⟩
      · rw [List.perm_iff_count] at joinedBufs ⊢
        intro buf
        have counted := joinedBufs buf
        simp only [queueBufs, shape, que, qbufs, handedOut,
          List.flatMap_append, List.flatMap_cons, List.count_append,
          List.filterMap_nil, List.flatMap_nil, List.count_nil,
          List.count_cons] at counted ⊢
        omega
      · simp [queueNodes, shape, que, join.node, freedNodes]
  | @completes next kept released later superBuf joined setup shape passes
      stops releases que join complete size matchCnt nomatchFrameId
      nextNode =>
      have joinedBufs := join.bufs stream (wellFormed.nodes superBuf (by simp [shape]))
      have releasedOk : ∀ current ∈ released, NodeOk ch.queue.bundledStreams current :=
        fun current member =>
          wellFormed.nodes current (by simp [shape, member])
      obtain ⟨releasedBufs, releasedHanded, releasedFreed⟩ := release_nodes releasedOk
      refine ⟨?_, 0, nextNode, ?_⟩
      · rw [List.perm_iff_count] at joinedBufs ⊢
        intro buf
        have counted := joinedBufs buf
        simp only [queueBufs, shape, que, releasedBufs, releasedHanded,
          List.flatMap_append, List.flatMap_cons, List.count_append,
          List.count_nil, List.count_cons] at counted ⊢
        omega
      · rw [List.perm_iff_count]
        intro node
        simp only [queueNodes, shape, que, releasedFreed, join.node,
          List.map_append, List.map_cons, List.count_append,
          List.count_cons, List.range'_zero, List.count_nil]
        omega
  | refused => exact .qbuf ch info.buf
  | @starts next kept released memory setup passes evicts size inserted =>
    have evictedOnce := evicts.cases_of_once (once passes)
    have split : (kept ++ released).Perm ch.queue.que := by
      rcases evictedOnce with ⟨rfl, rfl⟩ | ⟨victim, evictsNode, rfl⟩
      · simp
      · obtain ⟨earlier, later, shape, rfl, _⟩ := evictsNode.split
        rw [shape, List.append_assoc]
        exact (List.Perm.refl earlier).append (List.perm_append_singleton victim later)
    obtain ⟨releasedBufs, releasedHanded, releasedFreed⟩ :=
      release_nodes fun current member =>
        wellFormed.nodes current (split.subset (List.mem_append_right kept member))
    have bufSplit : (kept.flatMap SuperbufNode.bufs ++
          released.flatMap SuperbufNode.bufs).Perm (queueBufs ch) := by
      rw [← List.flatMap_append]
      exact split.flatMap_right _
    have nodeSplit : (kept.map SuperbufNode.node ++
          released.map SuperbufNode.node).Perm (queueNodes ch) := by
      rw [← List.map_append]
      exact split.map _
    cases memory with
    | false =>
      obtain ⟨que, nextNode, _⟩ := inserted
      refine ⟨?_, 0, nextNode, ?_⟩
      · simp only [Bool.false_eq_true, if_false, qbufs_append,
          handedOut_append, releasedBufs, releasedHanded]
        rw [List.perm_iff_count] at bufSplit ⊢
        intro buf
        have counted := bufSplit buf
        simp only [queueBufs, que, qbufs, handedOut, List.count_append, List.filterMap_cons,
          List.filterMap_nil, List.flatMap_cons, List.flatMap_nil,
          List.count_nil] at counted ⊢
        omega
      · simp only [Bool.false_eq_true, if_false, freedNodes_append,
          releasedFreed, List.range'_zero, List.append_nil]
        simpa [queueNodes, que, freedNodes] using nodeSplit.symm
    | true =>
      obtain ⟨front, back, rfl, _, que, nextNode, _⟩ := inserted
      have newBufs := newSuperbuf_bufs stream
      refine ⟨?_, 1, nextNode, ?_⟩
      · simp only [if_true, List.append_nil, releasedBufs, releasedHanded]
        rw [List.perm_iff_count] at bufSplit newBufs ⊢
        intro buf
        have counted := bufSplit buf
        have newCounted := newBufs buf
        simp only [queueBufs, que, List.flatMap_append,
          List.flatMap_cons, List.count_append] at counted newCounted ⊢
        omega
      · simp only [if_true, List.append_nil, releasedFreed]
        rw [List.perm_iff_count] at nodeSplit ⊢
        intro node
        have counted := nodeSplit node
        have fresh : (newSuperbuf info bufSIdx ch).node = ch.nextNode := rfl
        simp only [queueNodes, que, List.map_append, List.map_cons,
          List.count_append, List.count_cons, List.range'_one, fresh,
          List.count_nil] at counted ⊢
        omega

/-! ## Whole runs -/

/-- A flush queues everything back only for `CAM_STREAM_TYPE_DEFAULT`. -/
def flushesAll : SuperbufOp → Bool
  | .flush camType => camType == .default
  | _ => true

/--
Under low priority, a buffer that no superbuf takes must find at most
`max_unmatched_frames + 1` unmatched superbufs, as the scan counts them.
-/
def evictsAtMostOne (ch : Channel) : SuperbufOp → Bool
  | .compAndEnqueue _ info =>
    match ch.queue.bundledStreams.findIdx? fun stream =>
        info.streamId == stream with
    | none => true
    | some bufSIdx =>
      match handleMetadata ch info with
      | none => true
      | some (handled, _) =>
        info.frameIdx == 0 || isStale info handled || ch.queue.attr.priority != .low ||
          handled.queue.que.any (stopsScan handled.queue info bufSIdx) ||
          unmatchedCount handled.queue.que % 256 ≤ ch.queue.attr.maxUnmatchedFrames.toNat + 1
  | _ => true

theorem Compares.evictsOnce {handled : Channel} {flushed : List ChannelOutput}
    (compared : Compares info bufSIdx ch handled flushed)
    (met : evictsAtMostOne ch (.compAndEnqueue memory info) = true)
    (low : ch.queue.attr.priority = .low)
    (passes : ∀ current ∈ handled.queue.que, stopsScan handled.queue info bufSIdx current = false) :
    EvictsOnce handled := by
  have located := compared.arrives
  unfold Arrives at located
  obtain ⟨dropped, front, _⟩ := handleMetadata_drops compared.metadata
  have sameAttr : handled.queue.attr = ch.queue.attr := front.attr
  have nothingTakes : handled.queue.que.any (stopsScan handled.queue info bufSIdx) =
        false := by
    simpa using passes
  unfold EvictsOnce
  rw [sameAttr]
  simpa [evictsAtMostOne, located, compared.metadata, compared.frameIdx,
    compared.fresh, low, nothingTakes] using met

/-- What a bundle of either priority keeps while its buffers balance. -/
structure BalanceInvariant (ch : Channel) : Prop where
  wellFormed : WellFormed ch
  normal : ch.queue.attr.priority ≠ .low → NormalInvariant ch

theorem superbufStep_balanceInvariant (op : SuperbufOp)
    (invariant : BalanceInvariant ch) :
    BalanceInvariant (superbufStep ch op).1 where
  wellFormed := superbufStep_wellFormed op invariant.wellFormed
  normal := by
    intro notLow
    rw [(superbufStep_sameSetup op invariant.wellFormed).attr] at notLow
    exact superbufStep_normalInvariant op (invariant.normal notLow)

theorem superbufCompAndEnqueue_transfers (invariant : BalanceInvariant ch)
    (met : evictsAtMostOne ch (.compAndEnqueue memory info) = true) :
    Transfers (givenBuf ch.queue.bundledStreams (.compAndEnqueue memory info)) ch
      (superbufCompAndEnqueue memory info ch) := by
  rcases superbufCompAndEnqueue_cases memory info ch with
      ⟨ignored, foreign⟩ | ⟨handled, flushed, bundled, drops, discarded⟩ |
        ⟨bufSIdx, handled, flushed, compared, result⟩
  · rw [ignored]
    simpa [givenBuf, foreign] using Transfers.refl ch
  · rw [discarded]
    simpa [givenBuf, bundled] using drops.transfers.trans (.qbuf handled info.buf)
  · rw [result]
    have drops := handleMetadata_drops compared.metadata
    have ⟨dropped, front, _⟩ := drops
    have bundled : info.streamId ∈ ch.queue.bundledStreams :=
      List.mem_of_getElem? compared.arrives.stream
    have handledOk : WellFormed handled := front.wellFormed invariant.wellFormed
    have once : (∀ current ∈ handled.queue.que,
          stopsScan handled.queue info bufSIdx current = false) →
        EvictsOnce handled := by
      intro passes
      by_cases low : ch.queue.attr.priority = .low
      · exact compared.evictsOnce met low passes
      · exact (front.bounded (invariant.normal low).bounded).evictsOnce
    have outcome : Transfers [info.buf] handled ((compare memory info bufSIdx handled).1,
            (compare memory info bufSIdx handled).2) :=
      (compare_case memory info bufSIdx handledOk.distinct).transfers compared.stream handledOk once
    have given : givenBuf ch.queue.bundledStreams (.compAndEnqueue memory info) =
          [] ++ [info.buf] := by
      simp [givenBuf, bundled]
    rw [given]
    exact drops.transfers.trans outcome

theorem superbufStep_transfers {op : SuperbufOp} (invariant : BalanceInvariant ch)
    (flushes : flushesAll op = true) (met : evictsAtMostOne ch op = true) :
    Transfers (givenBuf ch.queue.bundledStreams op) ch (superbufStep ch op) := by
  cases op with
  | compAndEnqueue memory info => exact superbufCompAndEnqueue_transfers invariant met
  | dequeue => exact superbufDequeue_transfers ch
  | bufdoneOverflow iterations => exact (superbufBufdoneOverflow_drops iterations ch).transfers
  | skip iterations => exact (superbufSkip_drops iterations ch).transfers
  | flush camType =>
    obtain rfl : camType = .default := by
      simpa [flushesAll] using flushes
    exact (superbufFlush_default_drops ch).transfers
  | flushMatched => exact (superbufFlushMatched_drops ch).transfers

/-- The buffers given are in one place each, and no node is freed twice. -/
structure Conserves (streams : List Nat) (ops : List SuperbufOp) (final : Channel)
    (log : List ChannelOutput) : Prop where
  balance : (givenBufs streams ops).Perm (queueBufs final ++ qbufs log ++ handedOut log)
  once : (queueBufs final ++ qbufs log ++ handedOut log).Nodup
  freedOnce : (queueNodes final ++ freedNodes log).Nodup

/-- The guard of balanced runs. -/
def balancedStep (ch : Channel) (_past : List SuperbufOp) (op : SuperbufOp) : Prop :=
  flushesAll op = true ∧ evictsAtMostOne ch op = true

instance (ch : Channel) (past : List SuperbufOp) (op : SuperbufOp) :
    Decidable (balancedStep ch past op) :=
  inferInstanceAs (Decidable (_ ∧ _))

/--
In every run with full flushes, given distinct buffers and, under low
priority, never more than one superbuf above the limit, buffers are conserved.
-/
theorem superbufRun_conserves {ch final : Channel} {ops : List SuperbufOp}
    {log : List ChannelOutput} (fresh : ch.Fresh)
    (distinct : (givenBufs ch.queue.bundledStreams ops).Nodup)
    (guarded : LabelledRun.Guarded (fun state op => some (superbufStep state op))
        balancedStep ch [] ops)
    (ran : superbufRun ch ops = some (final, log)) :
    Conserves ch.queue.bundledStreams ops final log := by
  have start : BalanceInvariant ch := ⟨fresh.wellFormed, fresh.normalInvariant⟩
  have outcome : BalanceInvariant final ∧ final.queue.bundledStreams = ch.queue.bundledStreams ∧
        Transfers (givenBufs ch.queue.bundledStreams ops) ch (final, log) := by
    refine LabelledRun.invariant_of_guarded (fun current past emitted =>
        BalanceInvariant current ∧ current.queue.bundledStreams = ch.queue.bundledStreams ∧
          Transfers (givenBufs ch.queue.bundledStreams past) ch (current, emitted))
      [] guarded ran ⟨start, rfl, .refl ch⟩ ?_
    rintro state past emitted op next released ⟨invariant, streams, soFar⟩ ⟨flushes, met⟩ stepped
    have result : superbufStep state op = (next, released) := by
      simpa using stepped
    have kept := superbufStep_balanceInvariant op invariant
    have setup := superbufStep_sameSetup op invariant.wellFormed
    have moved := superbufStep_transfers invariant flushes met
    rw [result] at kept setup moved
    rw [streams] at moved
    refine ⟨kept, setup.bundledStreams.trans streams, ?_⟩
    simpa [givenBufs] using soFar.trans moved
  obtain ⟨_, _, moved⟩ := outcome
  have balance : (givenBufs ch.queue.bundledStreams ops).Perm
        (queueBufs final ++ qbufs log ++ handedOut log) := by
    simpa [queueBufs, fresh.que] using moved.bufs
  refine ⟨balance, balance.nodup_iff.mp distinct, ?_⟩
  obtain ⟨allocated, _, nodes⟩ := moved.nodes
  have allocatedOnce : (List.range' ch.nextNode allocated).Perm
        (queueNodes final ++ freedNodes log) := by
    simpa [queueNodes, fresh.que] using nodes
  exact allocatedOnce.nodup_iff.mp List.nodup_range'

/-! ## Bundles with low priority -/

/-- Attributes of a continuous bundle with low priority. -/
def divertAttr : ChannelAttr where
  notifyMode := .continuous
  waterMark := 0
  lookBack := 0
  postFrameSkip := 5
  maxUnmatchedFrames := 1
  priority := .low

/-- Frames with low priority, a dequeue, an eviction and a full flush. -/
def evictingOps : List SuperbufOp :=
  [arrival 0 1, arrival 1 1, arrival 2 1, .dequeue, arrival 0 6,
    arrival 0 7, arrival 0 8, arrival 1 7, .flush .default]

/-- These frames are conserved. -/
theorem superbufRun_conserves_evicting : ((superbufRun (startedChannel threeStreamTypes divertAttr)
        evictingOps).map fun (_, log) =>
          ((handedOut log).length, (qbufs log).length, freedNodes log)) =
        some (3, 4, [0, 1, 2, 3]) ∧
      ∃ final log, superbufRun (startedChannel threeStreamTypes divertAttr)
            evictingOps = some (final, log) ∧
          Conserves [1, 2, 3] evictingOps final log := by
  refine ⟨by decide, ?_⟩
  obtain ⟨final, log, ran⟩ :=
    superbufRun_total (startedChannel threeStreamTypes divertAttr) evictingOps
  exact ⟨final, log, ran, superbufRun_conserves (startedChannel_fresh _ _) (by decide)
      (by decide) ran⟩

/--
A frame diverted by its metadata is kept as expected; two superbufs complete
behind it and the limit is exceeded by two.
-/
def divertedOps : List SuperbufOp :=
  [arrival 0 1, arrival 1 1, arrival 2 1, .dequeue, .compAndEnqueue true (threeStreamBuf
        { plainMetadata with bufDivertFrameId := some 10 } 0 2),
    arrival 1 10, arrival 2 8, arrival 0 12, arrival 1 11, arrival 2 9,
    arrival 0 14, arrival 0 15, arrival 0 16]

/-- The loop then frees one node twice and queues its buffer twice. -/
theorem superbufRun_frees_twice : (startedChannel threeStreamTypes divertAttr).Fresh ∧
      (givenBufs [1, 2, 3] divertedOps).Nodup ∧
      ∃ final log, superbufRun (startedChannel threeStreamTypes divertAttr)
            divertedOps = some (final, log) ∧
          ¬ (qbufs log).Nodup ∧ ¬ (freedNodes log).Nodup ∧
          ¬ Conserves [1, 2, 3] divertedOps final log := by
  refine ⟨startedChannel_fresh _ _, by decide, ?_⟩
  obtain ⟨final, log, ran⟩ :=
    superbufRun_total (startedChannel threeStreamTypes divertAttr) divertedOps
  have facts : ((superbufRun (startedChannel threeStreamTypes divertAttr)
          divertedOps).map fun (_, log) =>
            (decide (qbufs log).Nodup, decide (freedNodes log).Nodup)) =
        some (false, false) := by
    decide
  simp only [ran, Option.map_some, Option.some.injEq, Prod.mk.injEq,
    decide_eq_false_iff_not] at facts
  obtain ⟨twiceQueued, twiceFreed⟩ := facts
  refine ⟨final, log, ran, twiceQueued, twiceFreed, ?_⟩
  intro conserves
  exact twiceFreed (List.nodup_append.mp conserves.freedOnce).2.1

/-! ## How many buffers a bundle holds back -/

theorem NormalInvariant.length_queueBufs (invariant : NormalInvariant ch)
    (limit : ch.queue.attr.maxUnmatchedFrames.toNat < 255) :
    (queueBufs ch).length ≤
      (ch.queue.matchCnt + ch.queue.attr.maxUnmatchedFrames.toNat + 1) *
        ch.queue.bundledStreams.length := by
  have each : ∀ superBuf ∈ ch.queue.que,
      superBuf.bufs.length ≤ ch.queue.bundledStreams.length :=
    fun superBuf member => (List.length_filterMap_le _ _).trans
      (invariant.wellFormed.nodes superBuf member).length.le
  have nodes : ch.queue.que.length ≤
      ch.queue.matchCnt + ch.queue.attr.maxUnmatchedFrames.toNat + 1 := by
    rw [List.length_eq_countP_add_countP SuperbufNode.matched, invariant.matchedFirst.matchCnt,
      Nat.add_assoc]
    simpa [unmatchedCount] using invariant.bounded limit
  refine le_trans ?_ (Nat.mul_le_mul_right _ nodes)
  rw [queueBufs, List.length_flatMap]
  simpa using List.sum_le_card_nsmul (ch.queue.que.map _) _ (List.forall_mem_map.mpr each)

/--
In every run of a burst bundle with normal priority, the loop of overflow ends
with a bounded number of buffers in the queue.
-/
theorem superbufRun_holdsBack {ch final : Channel} {ops : List SuperbufOp}
    {log : List ChannelOutput} (fresh : ch.Fresh)
    (priority : ch.queue.attr.priority = .normal)
    (burst : ch.queue.attr.notifyMode ≠ .continuous)
    (limit : ch.queue.attr.maxUnmatchedFrames.toNat < 255)
    (ran : superbufRun ch ops = some (final, log)) :
    ∃ rounds, (superbufBufdoneOverflow rounds final).1.queue.matchCnt ≤
        ch.queue.attr.waterMark.toNat ∧
      (queueBufs (superbufBufdoneOverflow rounds final).1).length ≤
        (ch.queue.attr.waterMark.toNat + ch.queue.attr.maxUnmatchedFrames.toNat + 1) *
          ch.queue.bundledStreams.length := by
  obtain ⟨invariant, setup⟩ := superbufRun_normalInvariant fresh (by simp [priority]) ran
  obtain ⟨rounds, ended⟩ := invariant.matchedFirst.loopsEnd.overflow (by rwa [setup.attr])
  have kept := superbufStep_normalInvariant (.bufdoneOverflow rounds) invariant
  have same := superbufStep_sameSetup (.bufdoneOverflow rounds) invariant.wellFormed
  have held := kept.length_queueBufs (by rwa [same.attr, setup.attr])
  rw [same.attr, same.bundledStreams, setup.attr, setup.bundledStreams] at held
  rw [setup.attr] at ended
  exact ⟨rounds, ended, held.trans
    (Nat.mul_le_mul_right _ (Nat.add_le_add_right (Nat.add_le_add_right ended _) _))⟩

theorem superbufRun_holdsBack_twoFrames :
    ∃ final log, superbufRun (fiveStreamChannel (burstAttr 2)) twoFrames = some (final, log) ∧
      ∃ rounds, (superbufBufdoneOverflow rounds final).1.queue.matchCnt ≤ 0 ∧
        (queueBufs (superbufBufdoneOverflow rounds final).1).length ≤ 15 := by
  obtain ⟨final, log, ran⟩ := superbufRun_total (fiveStreamChannel (burstAttr 2)) twoFrames
  exact ⟨final, log, ran,
    superbufRun_holdsBack (startedChannel_fresh _ _) rfl (by decide) (by decide) ran⟩

end AnglerHal.Superbuf
