import AnglerHal.SuperbufQueue
import Mathlib.Data.List.Nodup
import Mathlib.Data.List.TakeDrop

namespace AnglerHal.Superbuf

/-!
# What one operation can do to the queue

Every operation except the comparison of an arriving buffer removes some nodes
from the front of the list and leaves the rest alone; `DropsFront` says so
once.  `CompareCase` lists the outcomes of the comparison itself, with the
list written out around the node that is joined, evicted or inserted.  All
invariants of the queue are derived from these two descriptions.
-/

/-- `dropped` has been removed from the front of the queue, nothing else. -/
structure DropsFront (dropped : List SuperbufNode) (before after : Channel) : Prop where
  que : before.queue.que = dropped ++ after.queue.que
  size : after.queue.size = before.queue.size - dropped.length
  matchCnt : after.queue.matchCnt = before.queue.matchCnt - dropped.countP SuperbufNode.matched
  attr : after.queue.attr = before.queue.attr
  bundledStreams : after.queue.bundledStreams = before.queue.bundledStreams
  nomatchFrameId : after.queue.nomatchFrameId = before.queue.nomatchFrameId
  nextNode : after.nextNode = before.nextNode

namespace DropsFront

/-- Dropping nothing. -/
theorem refl (ch : Channel) : DropsFront [] ch ch := by
  constructor <;> simp

/-- Two drops in a row drop the concatenation. -/
theorem trans {first second : List SuperbufNode} {start middle final : Channel}
    (earlier : DropsFront first start middle) (later : DropsFront second middle final) :
    DropsFront (first ++ second) start final where
  que := by
    rw [earlier.que, later.que, List.append_assoc]
  size := by
    rw [later.size, earlier.size, List.length_append, Nat.sub_sub]
  matchCnt := by
    rw [later.matchCnt, earlier.matchCnt, List.countP_append, Nat.sub_sub]
  attr := later.attr.trans earlier.attr
  bundledStreams := later.bundledStreams.trans earlier.bundledStreams
  nomatchFrameId := later.nomatchFrameId.trans earlier.nomatchFrameId
  nextNode := later.nextNode.trans earlier.nextNode

/-- A drop of nothing, from the fields that the queue invariants read. -/
theorem of_same {before after : Channel} (que : after.queue.que = before.queue.que)
    (size : after.queue.size = before.queue.size)
    (matchCnt : after.queue.matchCnt = before.queue.matchCnt)
    (attr : after.queue.attr = before.queue.attr)
    (bundledStreams : after.queue.bundledStreams = before.queue.bundledStreams)
    (nomatchFrameId : after.queue.nomatchFrameId = before.queue.nomatchFrameId)
    (nextNode : after.nextNode = before.nextNode) :
    DropsFront [] before after where
  que := by simp [que]
  size := by simp [size]
  matchCnt := by simp [matchCnt]
  attr := attr
  bundledStreams := bundledStreams
  nomatchFrameId := nomatchFrameId
  nextNode := nextNode

end DropsFront

/-- A function of the channel that drops a prefix and queues it back. -/
def Drops (before : Channel) (result : Channel × List ChannelOutput) : Prop :=
  ∃ dropped, DropsFront dropped before result.1 ∧ result.2 = dropped.flatMap (bufDone .default)

/-! ## Dequeue, overflow, skip and flush drop from the front -/

/-- The head is unlinked, or the queue is left alone. -/
theorem superbufDequeueInternal_cases (matchedOnly : Bool) (ch : Channel) :
    (superbufDequeueInternal matchedOnly ch = (ch, none) ∧
      ∀ superBuf, ch.queue.que.head? = some superBuf →
        matchedOnly = true ∧ superBuf.matched = false) ∨
    ∃ superBuf rest next, ch.queue.que = superBuf :: rest ∧
        superbufDequeueInternal matchedOnly ch = (next, some superBuf) ∧
        (matchedOnly = true → superBuf.matched = true) ∧
        DropsFront [superBuf] ch next := by
  cases shape : ch.queue.que with
  | nil =>
    left
    simp [superbufDequeueInternal, shape]
  | cons superBuf rest =>
    by_cases refused : matchedOnly && !superBuf.matched
    · left
      have parts : matchedOnly = true ∧ superBuf.matched = false := by
        simpa using refused
      refine ⟨by simp [superbufDequeueInternal, shape, refused], ?_⟩
      intro current isHead
      obtain rfl : superBuf = current := by simpa using isHead
      exact parts
    · right
      refine ⟨superBuf, rest, _, rfl,
        by simp [superbufDequeueInternal, shape, refused]; rfl, ?_, ?_⟩
      · intro only
        simpa [only] using refused
      · constructor <;> simp [shape, List.countP_cons]
        split <;> simp

/-- `mm_channel_superbuf_dequeue` drops at most one node, a matched one. -/
theorem superbufDequeue_cases (ch : Channel) : superbufDequeue ch = (ch, []) ∨ ∃ superBuf next,
      superbufDequeue ch = (next, [.freeNode superBuf.node, .superbuf superBuf]) ∧
        superBuf.matched = true ∧
        DropsFront [superBuf] ch next := by
  rcases superbufDequeueInternal_cases true ch with
      ⟨nothing, _⟩ | ⟨superBuf, rest, next, _, taken, matched, drops⟩
  · left
    simp [superbufDequeue, nothing]
  · right
    exact ⟨superBuf, next, by simp [superbufDequeue, taken], matched rfl, drops⟩

/-- One round of overflow or skip drops at most one node, a matched one. -/
theorem dropMatched_cases (ch : Channel) : (dropMatched ch = (ch, []) ∧
      ∀ superBuf, ch.queue.que.head? = some superBuf → superBuf.matched = false) ∨
    ∃ superBuf next, dropMatched ch = (next, bufDone .default superBuf) ∧ superBuf.matched = true ∧
        DropsFront [superBuf] ch next := by
  rcases superbufDequeueInternal_cases true ch with
      ⟨nothing, unmatched⟩ | ⟨superBuf, rest, next, _, taken, matched, drops⟩
  · left
    exact ⟨by simp [dropMatched, nothing], fun superBuf isHead => (unmatched superBuf isHead).2⟩
  · right
    exact ⟨superBuf, next, by simp [dropMatched, taken], matched rfl, drops⟩

theorem dropMatchedAbove_drops (limit iterations : Nat) (ch : Channel) : ∃ dropped,
      DropsFront dropped ch (dropMatchedAbove limit iterations ch).1 ∧
        (∀ superBuf ∈ dropped, superBuf.matched = true) ∧
        (dropMatchedAbove limit iterations ch).2 = dropped.flatMap (bufDone .default) := by
  induction iterations generalizing ch with
  | zero => exact ⟨[], .refl ch, by simp, rfl⟩
  | succ iterations inductionHypothesis =>
    by_cases above : limit < ch.queue.matchCnt
    · rcases dropMatched_cases ch with
          ⟨nothing, _⟩ | ⟨superBuf, next, taken, matched, drops⟩
      · simpa [dropMatchedAbove, above, nothing] using inductionHypothesis ch
      · obtain ⟨dropped, laterDrops, allMatched, released⟩ := inductionHypothesis next
        refine ⟨superBuf :: dropped, ?_, ?_, ?_⟩
        · simpa [dropMatchedAbove, above, taken] using drops.trans laterDrops
        · simpa [matched] using allMatched
        · simp [dropMatchedAbove, above, taken, released]
    · exact ⟨[], by simpa [dropMatchedAbove, above] using .refl ch,
        by simp, by simp [dropMatchedAbove, above]⟩

/-- `bufdone_overflow` drops matched nodes only. -/
theorem superbufBufdoneOverflow_drops (iterations : Nat) (ch : Channel) :
    Drops ch (superbufBufdoneOverflow iterations ch) := by
  unfold superbufBufdoneOverflow
  split
  · exact ⟨[], .refl ch, rfl⟩
  · obtain ⟨dropped, drops, _, released⟩ :=
      dropMatchedAbove_drops ch.queue.attr.waterMark.toNat iterations ch
    exact ⟨dropped, drops, released⟩

/-- `skip` drops matched nodes only. -/
theorem superbufSkip_drops (iterations : Nat) (ch : Channel) :
    Drops ch (superbufSkip iterations ch) := by
  unfold superbufSkip
  split
  · exact ⟨[], .refl ch, rfl⟩
  · obtain ⟨dropped, drops, _, released⟩ :=
      dropMatchedAbove_drops ch.queue.attr.lookBack.toNat iterations ch
    exact ⟨dropped, drops, released⟩

theorem flushLoop_drops (matchedOnly : Bool) (camType : CamStreamType) (rounds : Nat)
    (ch : Channel) :
    ∃ dropped, DropsFront dropped ch (flushLoop matchedOnly camType rounds ch).1 ∧
        (flushLoop matchedOnly camType rounds ch).2 = dropped.flatMap (bufDone camType) := by
  induction rounds generalizing ch with
  | zero => exact ⟨[], .refl ch, rfl⟩
  | succ rounds inductionHypothesis =>
    rcases superbufDequeueInternal_cases matchedOnly ch with
        ⟨nothing, _⟩ | ⟨superBuf, rest, next, _, taken, _, drops⟩
    · exact ⟨[], by simpa [flushLoop, nothing] using .refl ch, by simp [flushLoop, nothing]⟩
    · obtain ⟨dropped, laterDrops, released⟩ := inductionHypothesis next
      refine ⟨superBuf :: dropped, ?_, ?_⟩
      · simpa [flushLoop, taken] using drops.trans laterDrops
      · simp [flushLoop, taken, released]

/-- `mm_channel_superbuf_flush` drops from the front. -/
theorem superbufFlush_drops (camType : CamStreamType) (ch : Channel) : ∃ dropped,
      DropsFront dropped ch (superbufFlush camType ch).1 ∧ (superbufFlush camType ch).2 =
          dropped.flatMap (bufDone camType) :=
  flushLoop_drops false camType ch.queue.que.length ch

/-- A flush of every stream type queues everything it drops back. -/
theorem superbufFlush_default_drops (ch : Channel) : Drops ch (superbufFlush .default ch) :=
  superbufFlush_drops .default ch

/-- `mm_channel_superbuf_flush_matched` drops from the front. -/
theorem superbufFlushMatched_drops (ch : Channel) : Drops ch (superbufFlushMatched ch) :=
  flushLoop_drops true .default ch.queue.que.length ch

/-! ## They change nothing but the nodes -/

/-- The channels agree but for the nodes and their counts. -/
def OnlyNodesDiffer (before after : Channel) : Prop :=
  ∃ que size matchCnt, after = { before with queue := { before.queue with que, size, matchCnt } }

theorem OnlyNodesDiffer.refl (ch : Channel) : OnlyNodesDiffer ch ch :=
  ⟨_, _, _, rfl⟩

theorem OnlyNodesDiffer.trans {start middle final : Channel}
    (earlier : OnlyNodesDiffer start middle) (later : OnlyNodesDiffer middle final) :
    OnlyNodesDiffer start final := by
  obtain ⟨_, _, _, rfl⟩ := earlier
  obtain ⟨que, size, matchCnt, rfl⟩ := later
  exact ⟨que, size, matchCnt, rfl⟩

/-- Unlinking the head. -/
theorem superbufDequeueInternal_onlyNodes (matchedOnly : Bool) (ch : Channel) :
    OnlyNodesDiffer ch (superbufDequeueInternal matchedOnly ch).1 := by
  unfold superbufDequeueInternal
  split
  · exact .refl ch
  · split
    · exact .refl ch
    · exact ⟨_, _, _, rfl⟩

theorem dropMatched_onlyNodes (ch : Channel) : OnlyNodesDiffer ch (dropMatched ch).1 := by
  have unlinked := superbufDequeueInternal_onlyNodes true ch
  unfold dropMatched
  split <;> rename_i taken <;> rw [taken] at unlinked <;> exact unlinked

theorem dropMatchedAbove_onlyNodes (limit rounds : Nat) (ch : Channel) :
    OnlyNodesDiffer ch (dropMatchedAbove limit rounds ch).1 := by
  induction rounds generalizing ch with
  | zero => exact .refl ch
  | succ rounds inductionHypothesis =>
    simp only [dropMatchedAbove]
    split
    · exact (dropMatched_onlyNodes ch).trans (inductionHypothesis _)
    · exact .refl ch

theorem superbufBufdoneOverflow_onlyNodes (rounds : Nat) (ch : Channel) :
    OnlyNodesDiffer ch (superbufBufdoneOverflow rounds ch).1 := by
  unfold superbufBufdoneOverflow
  split
  · exact .refl ch
  · exact dropMatchedAbove_onlyNodes _ rounds ch

theorem superbufSkip_onlyNodes (rounds : Nat) (ch : Channel) :
    OnlyNodesDiffer ch (superbufSkip rounds ch).1 := by
  unfold superbufSkip
  split
  · exact .refl ch
  · exact dropMatchedAbove_onlyNodes _ rounds ch

/-- The loop of the two flush functions. -/
theorem flushLoop_onlyNodes (matchedOnly : Bool) (camType : CamStreamType) (rounds : Nat)
    (ch : Channel) :
    OnlyNodesDiffer ch (flushLoop matchedOnly camType rounds ch).1 := by
  induction rounds generalizing ch with
  | zero => exact .refl ch
  | succ rounds inductionHypothesis =>
    have unlinked := superbufDequeueInternal_onlyNodes matchedOnly ch
    simp only [flushLoop]
    split <;> rename_i taken <;> rw [taken] at unlinked
    · exact unlinked
    · exact unlinked.trans (inductionHypothesis _)

theorem superbufFlush_onlyNodes (camType : CamStreamType) (ch : Channel) :
    OnlyNodesDiffer ch (superbufFlush camType ch).1 :=
  flushLoop_onlyNodes false camType _ ch

theorem superbufFlushMatched_onlyNodes (ch : Channel) :
    OnlyNodesDiffer ch (superbufFlushMatched ch).1 :=
  flushLoop_onlyNodes true .default _ ch

/-! ## Metadata handling drops from the front -/

/-- Setting the expected frame id does not touch the list. -/
theorem DropsFront.setExpectedFrameId (ch : Channel) (frameId : Nat) :
    DropsFront [] ch (ch.setExpectedFrameId frameId) :=
  .of_same rfl rfl rfl rfl rfl rfl rfl

variable {result : Channel × List ChannelOutput} {ch : Channel} {info : BufInfo}
  {queue : ChannelQueue} {bufSIdx : Nat}
  {que earlier later released kept : List SuperbufNode} {superBuf : SuperbufNode}

theorem Drops.and_then_same {before : Channel} {after : Channel}
    (drops : Drops before result) (same : DropsFront [] result.1 after) :
    Drops before (after, result.2) := by
  obtain ⟨dropped, front, released⟩ := drops
  exact ⟨dropped, by simpa using front.trans same, released⟩

theorem Drops.after_same {before middle : Channel} (same : DropsFront [] before middle)
    (drops : Drops middle result) :
    Drops before result := by
  obtain ⟨dropped, front, released⟩ := drops
  exact ⟨dropped, by simpa using same.trans front, released⟩

theorem Drops.of_same {before after : Channel} (same : DropsFront [] before after) :
    Drops before (after, []) :=
  ⟨[], same, rfl⟩

theorem Drops.trans {before : Channel} {first second : Channel × List ChannelOutput}
    (earlier : Drops before first) (later : Drops first.1 second) :
    Drops before (second.1, first.2 ++ second.2) := by
  obtain ⟨dropped, front, released⟩ := earlier
  obtain ⟨laterDropped, laterFront, laterReleased⟩ := later
  exact ⟨dropped ++ laterDropped, front.trans laterFront, by simp [released, laterReleased]⟩

theorem noteDivertInfo_same (info : BufInfo) (metadata : Metadata) (ch : Channel) :
    DropsFront [] ch (noteDivertInfo info metadata ch) := by
  unfold noteDivertInfo
  split
  · exact .refl ch
  · split <;> exact .of_same rfl rfl rfl rfl rfl rfl rfl

theorem handlePrepSnapshotDone_drops (metadata : Metadata) (ch : Channel) :
    Drops ch (handlePrepSnapshotDone metadata ch) := by
  unfold handlePrepSnapshotDone
  split
  · exact .of_same (.refl ch)
  · have flushed : Drops ch (superbufFlush .default { ch with
                bWaitForPrepSnapshotDone := false }.expectFutureFrame) := by
      refine .after_same ?_ (superbufFlush_default_drops _)
      exact .of_same rfl rfl rfl rfl rfl rfl rfl
    exact flushed.and_then_same (.of_same rfl rfl rfl rfl rfl rfl rfl)
  · exact .of_same (.of_same rfl rfl rfl rfl rfl rfl rfl)

theorem handleGoodFrameIdxRange_drops (metadata : Metadata) (ch : Channel) :
    Drops ch (handleGoodFrameIdxRange metadata ch) := by
  unfold handleGoodFrameIdxRange
  split
  · split <;> exact .of_same (.of_same rfl rfl rfl rfl rfl rfl rfl)
  · split
    · exact (superbufFlushMatched_drops ch).and_then_same (.setExpectedFrameId _ _)
    · exact .of_same (.refl ch)

theorem applyBracketing_same (metadata : Metadata) (ch : Channel) :
    DropsFront [] ch (applyBracketing metadata ch) := by
  unfold applyBracketing
  split
  · exact .refl ch
  · split <;> exact .of_same rfl rfl rfl rfl rfl rfl rfl

theorem applyFrameConfig_same (metadata : Metadata) (ch : Channel) :
    DropsFront [] ch (applyFrameConfig metadata ch) := by
  unfold applyFrameConfig
  split
  · split
    · exact .of_same rfl rfl rfl rfl rfl rfl rfl
    · exact .refl ch
  · exact .refl ch

theorem applyLedOff_same (info : BufInfo) (ch : Channel) :
    DropsFront [] ch (applyLedOff info ch) := by
  unfold applyLedOff
  split
  · exact .of_same rfl rfl rfl rfl rfl rfl rfl
  · exact .refl ch

theorem handleZoom1x_drops (info : BufInfo) (metadata : Metadata) (ch : Channel) :
    Drops ch (handleZoom1x info metadata ch) := by
  unfold handleZoom1x
  split
  · exact .of_same (.of_same rfl rfl rfl rfl rfl rfl rfl)
  · exact .after_same (.setExpectedFrameId ch _) (superbufFlushMatched_drops _)

theorem applyMetadata_drops (info : BufInfo) (metadata : Metadata) (ch : Channel) :
    Drops ch (applyMetadata info metadata ch) := by
  unfold applyMetadata
  refine .after_same (noteDivertInfo_same info metadata ch) ?_
  dsimp only
  split
  · exact handleZoom1x_drops info metadata _
  · have ranged := (handlePrepSnapshotDone_drops metadata (noteDivertInfo info metadata ch)).trans
        (handleGoodFrameIdxRange_drops metadata _)
    refine ranged.and_then_same ?_
    have bracketed := applyBracketing_same metadata (handleGoodFrameIdxRange metadata
        (handlePrepSnapshotDone metadata (noteDivertInfo info metadata ch)).1).1
    have configured := applyFrameConfig_same metadata (applyBracketing metadata
        (handleGoodFrameIdxRange metadata (handlePrepSnapshotDone metadata
            (noteDivertInfo info metadata ch)).1).1)
    simpa using (bracketed.trans configured).trans (applyLedOff_same info _)

/-- The content of a metadata buffer is applied, and any other buffer is left alone. -/
theorem handleMetadata_cases (handled : handleMetadata ch info = some result) :
    (∃ metadata, info.buf.buffer = some metadata ∧ applyMetadata info metadata ch = result) ∨
      (ch, []) = result := by
  unfold handleMetadata at handled
  split at handled
  · cases handled
  · split at handled
    · cases handled
    · split at handled
      · split at handled
        · cases handled
        · rename_i metadata content
          exact .inl ⟨metadata, content, Option.some.inj handled⟩
      · exact .inr (Option.some.inj handled)

/-- `mm_channel_handle_metadata` only drops nodes from the front. -/
theorem handleMetadata_drops (handled : handleMetadata ch info = some result) :
    Drops ch result := by
  obtain ⟨metadata, -, rfl⟩ | rfl := handleMetadata_cases handled
  · exact applyMetadata_drops info metadata ch
  · exact .of_same (.refl ch)

/-! ## The scan -/

/-- The scan stops at this node: it is unmatched and takes the buffer. -/
def stopsScan (queue : ChannelQueue) (info : BufInfo) (bufSIdx : Nat)
    (superBuf : SuperbufNode) : Bool :=
  !superBuf.matched && takesBuffer queue info bufSIdx superBuf

/-- An unmatched node older than the arriving buffer. -/
def isOlder (info : BufInfo) (superBuf : SuperbufNode) : Bool :=
  !superBuf.matched && decide (superBuf.frameIdx < info.frameIdx)

/-- An unmatched node newer than the arriving buffer. -/
def isNewer (info : BufInfo) (superBuf : SuperbufNode) : Bool :=
  !superBuf.matched && decide (info.frameIdx < superBuf.frameIdx)

/-- The number of unmatched nodes. -/
def unmatchedCount (que : List SuperbufNode) : Nat :=
  que.countP fun superBuf => !superBuf.matched

/-- The scan variables after the nodes of `passed`, none of which stops it. -/
def ScanState.pass (info : BufInfo) (state : ScanState)
    (passed : List SuperbufNode) : ScanState where
  unmatchedBundles :=
    (state.unmatchedBundles + unmatchedCount passed) % 256
  lastBuf :=
    state.lastBuf.or ((passed.find? (isOlder info)).map SuperbufNode.node)
  insertBeforeBuf :=
    state.insertBeforeBuf.or ((passed.find? (isNewer info)).map SuperbufNode.node)
  foundSuperBuf := none

theorem scan_append (state : ScanState) {passed : List SuperbufNode}
    (rest : List SuperbufNode) (small : state.unmatchedBundles < 256)
    (searching : state.foundSuperBuf = none)
    (passes : ∀ superBuf ∈ passed, stopsScan queue info bufSIdx superBuf = false) :
    scan queue info bufSIdx state (passed ++ rest) =
      scan queue info bufSIdx (state.pass info passed) rest := by
  induction passed generalizing state with
  | nil =>
    obtain ⟨count, last, insertion, found⟩ := state
    simp only at small searching
    subst found
    simp [ScanState.pass, unmatchedCount, Nat.mod_eq_of_lt small]
  | cons superBuf passed inductionHypothesis =>
    have headPasses := passes superBuf (by simp)
    have tailPasses : ∀ later ∈ passed, stopsScan queue info bufSIdx later = false :=
      fun later member => passes later (by simp [member])
    by_cases matched : superBuf.matched
    · have advanced := inductionHypothesis state small searching tailPasses
      have same : state.pass info (superBuf :: passed) =
            state.pass info passed := by
        simp [ScanState.pass, unmatchedCount, isOlder, isNewer, matched]
      rw [same, ← advanced]
      simp [scan, matched]
    · have refuses : takesBuffer queue info bufSIdx superBuf = false := by
        simpa [stopsScan, matched] using headPasses
      simp only [List.cons_append, scan, matched, refuses, Bool.false_eq_true, if_false]
      rw [inductionHypothesis _ (Nat.mod_lt _ (by decide)) rfl tailPasses]
      congr 1
      obtain ⟨count, last, insertion, found⟩ := state
      simp only [ScanState.pass, ScanState.mk.injEq, and_true]
      refine ⟨?_, ?_, ?_⟩
      · simp only [unmatchedCount, List.countP_cons, matched]
        simp
        omega
      · cases last <;>
          by_cases older : superBuf.frameIdx < info.frameIdx <;>
          simp [isOlder, matched, older]
      · cases insertion <;>
          by_cases newer : info.frameIdx < superBuf.frameIdx <;>
          simp [isNewer, matched, newer]

/-- The scan over a queue in which nothing takes the buffer. -/
theorem scan_of_none
    (passes : ∀ superBuf ∈ que, stopsScan queue info bufSIdx superBuf = false) :
    scan queue info bufSIdx ScanState.initial que =
      ScanState.initial.pass info que := by
  have passed := scan_append ScanState.initial [] (by decide) rfl passes
  simpa [scan] using passed

theorem scan_of_found
    (passes : ∀ current ∈ earlier, stopsScan queue info bufSIdx current = false)
    (stops : stopsScan queue info bufSIdx superBuf = true) :
    scan queue info bufSIdx ScanState.initial (earlier ++ superBuf :: later) =
      { ScanState.initial.pass info earlier with
          foundSuperBuf := some superBuf.node } := by
  have parts : superBuf.matched = false ∧ takesBuffer queue info bufSIdx superBuf = true := by
    simpa [stopsScan] using stops
  rw [scan_append ScanState.initial _ (by decide) rfl passes]
  simp [scan, parts]

/-! ## List surgery by node number -/

/-- No two list nodes share an allocation. -/
def DistinctNodes (que : List SuperbufNode) : Prop :=
  (que.map SuperbufNode.node).Nodup

/-- Around one node of a list of distinct nodes, no other has its number. -/
theorem DistinctNodes.ne_around
    (distinct : DistinctNodes (earlier ++ superBuf :: later)) :
    (∀ current ∈ earlier, current.node ≠ superBuf.node) ∧
      ∀ current ∈ later, current.node ≠ superBuf.node := by
  simp only [DistinctNodes, List.map_append, List.map_cons,
    List.nodup_append, List.nodup_cons, List.mem_map,
    List.mem_cons] at distinct
  obtain ⟨_, ⟨notLater, _⟩, apart⟩ := distinct
  constructor
  · intro current member same
    exact apart current.node ⟨current, member, rfl⟩ superBuf.node (Or.inl rfl) same
  · intro current member same
    exact notLater ⟨current, member, same⟩

private theorem span_at_node (later : List SuperbufNode)
    (apart : ∀ current ∈ earlier, current.node ≠ superBuf.node) :
    (earlier ++ superBuf :: later).span (fun current => current.node != superBuf.node) =
      (earlier, superBuf :: later) := by
  have passes : ∀ current ∈ earlier, (current.node != superBuf.node) = true := by
    intro current member
    simpa using apart current member
  rw [List.span_eq_takeWhile_dropWhile, List.takeWhile_append_of_pos passes,
    List.dropWhile_append_of_pos passes]
  simp

private theorem find_at_node (apart : ∀ current ∈ earlier, current.node ≠ superBuf.node) :
    (earlier ++ superBuf :: later).find? (fun current => current.node == superBuf.node) =
      some superBuf := by
  rw [List.find?_eq_some_iff_append]
  refine ⟨by simp, earlier, later, rfl, ?_⟩
  intro current member
  simpa using apart current member

private theorem releaseUntil_append (later : List SuperbufNode)
    (apart : ∀ current ∈ released, current.node ≠ superBuf.node) :
    releaseUntil superBuf.node (released ++ superBuf :: later) = (superBuf :: later, released) := by
  induction released with
  | nil => simp [releaseUntil]
  | cons current rest inductionHypothesis =>
    have headApart := apart current (by simp)
    have tailResult := inductionHypothesis (fun later member => apart later (by simp [member]))
    simp [releaseUntil, headApart, tailResult]

theorem updateNode_append {updated : SuperbufNode}
    (distinct : DistinctNodes (earlier ++ superBuf :: later)) :
    updateNode superBuf.node updated (earlier ++ superBuf :: later) =
      earlier ++ updated :: later := by
  obtain ⟨apartEarlier, apartLater⟩ := distinct.ne_around
  have unchanged : ∀ nodes : List SuperbufNode, (∀ current ∈ nodes, current.node ≠ superBuf.node) →
        nodes.map (fun current =>
          if current.node = superBuf.node then updated else current) =
          nodes := by
    intro nodes apart
    conv_rhs => rw [← List.map_id nodes]
    apply List.map_congr_left
    intro current member
    simp [apart current member]
  simp [updateNode, unchanged earlier apartEarlier, unchanged later apartLater]

/-- The released nodes, if any, start at the first older unmatched node. -/
def ReleasesFrom (info : BufInfo) (kept released : List SuperbufNode) : Prop :=
  (∀ current ∈ kept, isOlder info current = false) ∧ ∀ oldest, released.head? = some oldest →
      isOlder info oldest = true

theorem releaseOlder_split (info : BufInfo)
    (distinct : DistinctNodes (earlier ++ superBuf :: later)) (updated : SuperbufNode)
    (sameNode : updated.node = superBuf.node) :
    ∃ kept released, earlier = kept ++ released ∧ ReleasesFrom info kept released ∧ releaseOlder
            ((earlier.find? (isOlder info)).map SuperbufNode.node)
            superBuf.node (earlier ++ updated :: later) =
          (kept ++ updated :: later, released) := by
  cases found : earlier.find? (isOlder info) with
  | none =>
    refine ⟨earlier, [], by simp, ⟨?_, by simp⟩, by simp [releaseOlder]⟩
    simpa using found
  | some oldest =>
    obtain ⟨older, kept, rest, rfl, keptNotOlder⟩ := List.find?_eq_some_iff_append.mp found
    have apart := distinct.ne_around.1
    have distinctOldest : DistinctNodes (kept ++ oldest :: (rest ++ superBuf :: later)) := by
      simpa using distinct
    have spanned := span_at_node (rest ++ updated :: later) distinctOldest.ne_around.1
    have releasedApart : ∀ current ∈ oldest :: rest, current.node ≠ updated.node := by
      intro current member
      rw [sameNode]
      exact apart current (by simp [List.mem_cons.mp member])
    have cut := releaseUntil_append later releasedApart
    refine ⟨kept, oldest :: rest, rfl, ⟨?_, ?_⟩, ?_⟩
    · intro current member
      simpa using keptNotOlder current member
    · intro current isHead
      obtain rfl : oldest = current := by simpa using isHead
      exact older
    · rw [← sameNode]
      simp only [Option.map_some, releaseOlder]
      have shape : kept ++ oldest :: rest ++ updated :: later =
            kept ++ oldest :: (rest ++ updated :: later) := by
        simp
      rw [shape, spanned]
      simp only [List.cons_append] at cut
      simp [cut]

/-- One node is gone from a list; it stood at or after an older one. -/
structure EvictsNode (info : BufInfo) (que kept : List SuperbufNode)
    (victim : SuperbufNode) : Prop where
  split : ∃ earlier later, que = earlier ++ victim :: later ∧ kept = earlier ++ later ∧
        ∃ oldest ∈ earlier ++ [victim], isOlder info oldest = true
  notInsertion : ∀ newer, que.find? (isNewer info) = some newer → victim.node ≠ newer.node

theorem evictUnmatched_cases (limit : Nat) (insertBeforeBuf : Option Nat) (unmatchedBundles : Nat)
    (que : List SuperbufNode) :
    (evictUnmatched limit insertBeforeBuf unmatchedBundles que = (que, [])) ∨
    ∃ earlier victim later, que = earlier ++ victim :: later ∧ some victim.node ≠ insertBeforeBuf ∧
        limit < unmatchedBundles ∧
        evictUnmatched limit insertBeforeBuf unmatchedBundles que = (earlier ++ later,
            List.replicate (unmatchedBundles - limit) victim) := by
  induction que with
  | nil =>
    left
    rfl
  | cons superBuf rest inductionHypothesis =>
    by_cases exceeds : limit < unmatchedBundles
    · by_cases evictable : !superBuf.expected && some superBuf.node != insertBeforeBuf
      · right
        have parts : superBuf.expected = false ∧ some superBuf.node ≠ insertBeforeBuf := by
          simpa using evictable
        exact ⟨[], superBuf, rest, rfl, parts.2, exceeds,
          by simp [evictUnmatched, exceeds, evictable]⟩
      · rcases inductionHypothesis with
            unchanged | ⟨earlier, victim, later, shape, notInsertion, _, evicted⟩
        · left
          simp [evictUnmatched, exceeds, evictable, unchanged]
        · right
          exact ⟨superBuf :: earlier, victim, later, by simp [shape], notInsertion, exceeds,
            by simp [evictUnmatched, exceeds, evictable, evicted]⟩
    · left
      simp [evictUnmatched, exceeds]

/--
The two evictions together: nothing happens, or one node is unlinked and
released, `unmatchedBundles - limit` times by the loop or once after it.
-/
theorem evict_cases (info : BufInfo) (limit : Nat) (distinct : DistinctNodes que) :
    (evict limit (ScanState.initial.pass info que) que = (que, []) ∧
      (que.find? (isOlder info) = none ∨ ¬ limit < unmatchedCount que % 256)) ∨
    ∃ kept victim copies, EvictsNode info que kept victim ∧ limit < unmatchedCount que % 256 ∧
        (copies = 1 ∨ copies = unmatchedCount que % 256 - limit) ∧
        evict limit (ScanState.initial.pass info que) que =
          (kept, List.replicate copies victim) := by
  cases found : que.find? (isOlder info) with
  | none =>
    left
    simp [evict, ScanState.pass, ScanState.initial, found]
  | some oldest =>
    obtain ⟨older, before, rest, shape, _⟩ := List.find?_eq_some_iff_append.mp found
    have distinctOldest : DistinctNodes (before ++ oldest :: rest) := shape ▸ distinct
    have spanned := span_at_node rest distinctOldest.ne_around.1
    rw [← shape] at spanned
    have insertion : (ScanState.initial.pass info que).insertBeforeBuf =
          (que.find? (isNewer info)).map SuperbufNode.node := by
      simp [ScanState.pass, ScanState.initial]
    have last : (ScanState.initial.pass info que).lastBuf = some oldest.node := by
      simp [ScanState.pass, ScanState.initial, found]
    have count : (ScanState.initial.pass info que).unmatchedBundles = unmatchedCount que % 256 := by
      simp [ScanState.pass, ScanState.initial]
    rcases evictUnmatched_cases limit (ScanState.initial.pass info que).insertBeforeBuf
        (unmatchedCount que % 256) (oldest :: rest) with
        unchanged | ⟨earlier, victim, later, restShape, notInsertion, exceeds, evicted⟩
    · by_cases exceeds : limit < unmatchedCount que % 256
      · right
        refine ⟨before ++ rest, oldest, 1, ⟨⟨before, rest, shape, rfl, oldest, by simp, older⟩, ?_⟩,
          exceeds, Or.inl rfl, ?_⟩
        · intro newer newest same
          have newerIs := List.find?_some newest
          have newerMember := List.mem_of_find?_eq_some newest
          have oldestMember : oldest ∈ que := List.mem_of_find?_eq_some found
          have equal : oldest = newer :=
            List.inj_on_of_nodup_map distinct oldestMember newerMember same
          subst newer
          simp only [isOlder, isNewer, Bool.and_eq_true, decide_eq_true_eq] at older newerIs
          omega
        · simp only [evict, last, spanned, count, unchanged]
          simp [exceeds]
      · left
        refine ⟨?_, Or.inr exceeds⟩
        simp only [evict, last, spanned, count, unchanged]
        simpa [exceeds] using shape.symm
    · right
      refine ⟨before ++ (earlier ++ later), victim, unmatchedCount que % 256 - limit,
        ⟨⟨before ++ earlier, later, by simp [shape, restShape], by simp, oldest, ?_, older⟩, ?_⟩,
        exceeds, Or.inr rfl, ?_⟩
      · have member : oldest ∈ earlier ++ victim :: later := by
          rw [← restShape]
          simp
        cases earlier with
        | nil =>
          simp only [List.nil_append, List.cons.injEq] at restShape
          simp [restShape.1]
        | cons first others =>
          simp only [List.cons_append, List.cons.injEq] at restShape
          simp [restShape.1]
      · intro newer newest same
        apply notInsertion
        simp [insertion, newest, same]
      · simp only [evict, last, spanned, count, evicted]
        have settled : ¬ limit < unmatchedCount que % 256 - (unmatchedCount que % 256 - limit) := by
          omega
        simp [settled]

/-- The new node stands right before the first newer unmatched node. -/
def InsertsAt (info : BufInfo) (front back : List SuperbufNode) : Prop :=
  (∀ current ∈ front, isNewer info current = false) ∧
    ∀ newer, back.head? = some newer → isNewer info newer = true

private theorem insertBefore_append {insertBeforeBuf : Option Nat}
    {newNode : SuperbufNode} {front : List SuperbufNode} (back : List SuperbufNode)
    (apart : ∀ current ∈ front, some current.node ≠ insertBeforeBuf) :
    insertBefore insertBeforeBuf newNode (front ++ back) =
      front ++ insertBefore insertBeforeBuf newNode back := by
  induction front with
  | nil => rfl
  | cons current rest inductionHypothesis =>
    have headApart := apart current (by simp)
    have tailResult := inductionHypothesis (fun later member => apart later (by simp [member]))
    simp [insertBefore, headApart, tailResult]

/-- Without an insertion point the new node goes to the tail. -/
theorem insertBefore_none (newNode : SuperbufNode) (que : List SuperbufNode) :
    insertBefore none newNode que = que ++ [newNode] := by
  have appended : insertBefore none newNode (que ++ []) = que ++ insertBefore none newNode [] :=
    insertBefore_append [] (by simp)
  simpa [insertBefore] using appended

theorem insertBefore_split (newNode : SuperbufNode) (distinct : DistinctNodes que)
    (sublist : kept.Sublist que)
    (keepsInsertion : ∀ newer, que.find? (isNewer info) = some newer → newer ∈ kept) :
    ∃ front back, kept = front ++ back ∧ InsertsAt info front back ∧
        insertBefore ((que.find? (isNewer info)).map SuperbufNode.node) newNode kept =
          front ++ newNode :: back := by
  cases found : que.find? (isNewer info) with
  | none =>
    have noneNewer : ∀ current ∈ que, isNewer info current = false := by
      simpa using found
    refine ⟨kept, [], by simp, ⟨?_, by simp⟩, ?_⟩
    · intro current member
      exact noneNewer current (sublist.subset member)
    · simpa using insertBefore_none newNode kept
  | some newer =>
    obtain ⟨isNew, before, rest, shape, beforeNotNewer⟩ :=
      List.find?_eq_some_iff_append.mp found
    obtain ⟨front, back, rfl⟩ := List.append_of_mem (keepsInsertion newer found)
    have distinctKept : DistinctNodes (front ++ newer :: back) :=
      (sublist.map SuperbufNode.node).nodup distinct
    have apart := distinctKept.ne_around.1
    refine ⟨front, newer :: back, rfl, ⟨?_, ?_⟩, ?_⟩
    · -- a node kept in front of the insertion point was in front of it
      intro current member
      have distinctQue : DistinctNodes (before ++ newer :: rest) := shape ▸ distinct
      have inBefore : current ∈ before := by
        have ordered : [current, newer].Sublist que :=
          List.Sublist.trans (List.Sublist.append (List.singleton_sublist.mpr member)
              (List.singleton_sublist.mpr (List.mem_cons_self : newer ∈ newer :: back)))
            sublist
        rw [shape] at ordered
        obtain ⟨left, right, parts, inLeft, inRight⟩ := List.sublist_append_iff.mp ordered
        cases left with
        | nil =>
          exfalso
          simp only [List.nil_append] at parts
          subst right
          have newerLater : newer ∈ rest := by
            cases inRight with
            | cons _ tail => exact tail.subset (by simp)
            | cons_cons _ tail => exact tail.subset (by simp)
          exact distinctQue.ne_around.2 newer newerLater rfl
        | cons first others =>
          simp only [List.cons_append, List.cons.injEq] at parts
          rw [parts.1]
          exact inLeft.subset (by simp)
      simpa using beforeNotNewer current inBefore
    · intro current isHead
      obtain rfl : newer = current := by simpa using isHead
      exact isNew
    · rw [insertBefore_append (newer :: back)]
      · simp [insertBefore]
      · intro current member
        simpa using apart current member

/-! ## The outcomes of the comparison -/

/--
What the evictions do to the queue before a new superbuf is linked in: nothing,
or one node is unlinked and released `copies` times.
-/
structure Evicts (info : BufInfo) (ch : Channel) (kept released : List SuperbufNode) : Prop where
  room : ch.queue.attr.maxUnmatchedFrames.toNat < unmatchedCount ch.queue.que % 256 → released ≠ []
  shape : (kept = ch.queue.que ∧ released = []) ∨ ∃ victim copies,
      EvictsNode info ch.queue.que kept victim ∧ ch.queue.attr.maxUnmatchedFrames.toNat <
          unmatchedCount ch.queue.que % 256 ∧
        (copies = 1 ∨ copies = unmatchedCount ch.queue.que % 256 -
            ch.queue.attr.maxUnmatchedFrames.toNat) ∧
        released = List.replicate copies victim

/-- The parts of the setup that no operation of the queue changes. -/
structure SameSetup (before after : Channel) : Prop where
  attr : after.queue.attr = before.queue.attr
  bundledStreams : after.queue.bundledStreams = before.queue.bundledStreams

/-- `joined` is `superBuf` with the buffer put into its empty slot. -/
structure JoinedFrom (info : BufInfo) (bufSIdx : Nat) (superBuf joined : SuperbufNode) : Prop where
  empty : (superBuf.slot bufSIdx).frameIdx = 0
  node : joined.node = superBuf.node
  frameIdx : joined.frameIdx = superBuf.frameIdx
  slots : joined.superBuf = superBuf.superBuf.set bufSIdx info.toSlot
  matched : joined.matched = joined.superBuf.all fun slot => slot.frameIdx != 0

/-- The outcomes of the locked part of `comp_and_enqueue`. -/
inductive CompareCase (info : BufInfo) (bufSIdx : Nat) (ch : Channel) :
    Channel × List ChannelOutput → Prop where
  /-- The frame's superbuf already holds a buffer of this stream. -/
  | duplicate {next : Channel} (setup : SameSetup ch next) (que : next.queue.que = ch.queue.que)
      (size : next.queue.size = ch.queue.size)
      (matchCnt : next.queue.matchCnt = ch.queue.matchCnt)
      (nomatchFrameId : next.queue.nomatchFrameId = 0)
      (nextNode : next.nextNode = ch.nextNode) :
      CompareCase info bufSIdx ch (next, [.qbuf info.buf])
  /-- The buffer joins a superbuf that stays unmatched. -/
  | joins {next : Channel} {earlier later : List SuperbufNode} {superBuf joined : SuperbufNode}
      (setup : SameSetup ch next)
      (shape : ch.queue.que = earlier ++ superBuf :: later)
      (stops : stopsScan ch.queue info bufSIdx superBuf = true)
      (que : next.queue.que = earlier ++ joined :: later)
      (join : JoinedFrom info bufSIdx superBuf joined)
      (incomplete : joined.matched = false)
      (size : next.queue.size = ch.queue.size)
      (matchCnt : next.queue.matchCnt = ch.queue.matchCnt)
      (nomatchFrameId : next.queue.nomatchFrameId = 0)
      (nextNode : next.nextNode = ch.nextNode) :
      CompareCase info bufSIdx ch (next, [])
  /-- The buffer completes a superbuf; older nodes are released. -/
  | completes {next : Channel} {kept released later : List SuperbufNode}
      {superBuf joined : SuperbufNode}
      (setup : SameSetup ch next)
      (shape : ch.queue.que = kept ++ released ++ superBuf :: later)
      (passes : ∀ current ∈ kept ++ released, stopsScan ch.queue info bufSIdx current = false)
      (stops : stopsScan ch.queue info bufSIdx superBuf = true)
      (releases : ReleasesFrom info kept released)
      (que : next.queue.que = kept ++ joined :: later)
      (join : JoinedFrom info bufSIdx superBuf joined)
      (complete : joined.matched = true)
      (size : next.queue.size = ch.queue.size - released.length)
      (matchCnt : next.queue.matchCnt = ch.queue.matchCnt + 1)
      (nomatchFrameId : next.queue.nomatchFrameId = 0)
      (nextNode : next.nextNode = ch.nextNode) :
      CompareCase info bufSIdx ch (next, released.flatMap SuperbufNode.release)
  /-- The buffer is older than a full set of unmatched superbufs. -/
  | refused : CompareCase info bufSIdx ch (ch, [.qbuf info.buf])
  /-- No superbuf takes the buffer; perhaps a node is evicted. -/
  | starts {next : Channel} {kept : List SuperbufNode} {released : List SuperbufNode}
      (memory : Bool)
      (setup : SameSetup ch next)
      (passes : ∀ current ∈ ch.queue.que, stopsScan ch.queue info bufSIdx current = false)
      (evicts : Evicts info ch kept released)
      (size : next.queue.size = ch.queue.size - released.length + (if memory then 1 else 0))
      (inserted : if memory then
          ∃ front back, kept = front ++ back ∧ InsertsAt info front back ∧ next.queue.que =
                front ++ newSuperbuf info bufSIdx ch :: back ∧
              next.nextNode = ch.nextNode + 1 ∧
              next.queue.matchCnt = (if ch.queue.bundledStreams.length = 1 then
                  ch.queue.matchCnt + 1 else ch.queue.matchCnt) ∧
              next.queue.nomatchFrameId = (if ch.queue.attr.priority = .low ∧
                    info.buf.streamType ≠ .metadata then
                  info.frameIdx else ch.queue.nomatchFrameId)
        else
          next.queue.que = kept ∧ next.nextNode = ch.nextNode ∧
            next.queue.matchCnt = ch.queue.matchCnt ∧
            next.queue.nomatchFrameId = ch.queue.nomatchFrameId) :
      CompareCase info bufSIdx ch (next, released.flatMap SuperbufNode.release ++
            (if memory then [] else [.qbuf info.buf]))

/-- The comparison changes neither attributes nor bundled streams. -/
theorem CompareCase.sameSetup (outcome : CompareCase info bufSIdx ch result) :
    SameSetup ch result.1 := by
  cases outcome <;> first | assumption | exact ⟨rfl, rfl⟩

private theorem expectAfterMatch_same (info : BufInfo) (ch : Channel) :
    DropsFront [] ch (expectAfterMatch info ch) := by
  unfold expectAfterMatch
  split <;> exact .of_same rfl rfl rfl rfl rfl rfl rfl

theorem joinSuperbuf_case (distinct : DistinctNodes ch.queue.que)
    (shape : ch.queue.que = earlier ++ superBuf :: later)
    (passes : ∀ current ∈ earlier, stopsScan ch.queue info bufSIdx current = false)
    (stops : stopsScan ch.queue info bufSIdx superBuf = true) :
    CompareCase info bufSIdx ch (joinSuperbuf info bufSIdx
        ((earlier.find? (isOlder info)).map SuperbufNode.node) superBuf
        { ch with queue := { ch.queue with nomatchFrameId := 0 } }) := by
  have distinctShape : DistinctNodes (earlier ++ superBuf :: later) := shape ▸ distinct
  unfold joinSuperbuf
  split
  · exact .duplicate ⟨rfl, rfl⟩ rfl rfl rfl rfl rfl
  · rename_i slotFree
    have empty : (superBuf.slot bufSIdx).frameIdx = 0 := by
      simpa using slotFree
    dsimp only
    split
    · rename_i complete
      have same := expectAfterMatch_same info
        { ch with queue := { ch.queue with nomatchFrameId := 0 } }
      have sameQue : (expectAfterMatch info { ch with
                queue := { ch.queue with
                  nomatchFrameId := 0 } }).queue.que =
            earlier ++ superBuf :: later := by
        have dropped := same.que
        simp only [List.nil_append] at dropped
        rw [← dropped, shape]
      obtain ⟨kept, released, rfl, releases, cut⟩ :=
        releaseOlder_split info distinctShape
          { superBuf.insertBuf bufSIdx info with expected := false }
          rfl
      rw [sameQue, updateNode_append distinctShape, cut]
      refine .completes ⟨same.attr, same.bundledStreams⟩ shape passes
        stops releases (Eq.refl _) ⟨empty, rfl, rfl, rfl, rfl⟩ complete
        ?_ ?_ ?_ ?_
      · simp [same.size]
      · simp [same.matchCnt]
      · simpa using same.nomatchFrameId
      · simpa using same.nextNode
    · rename_i incomplete
      have unmatched : (superBuf.insertBuf bufSIdx info).matched = false := by
        simpa using incomplete
      rw [shape, updateNode_append distinctShape, updateNode_append distinctShape]
      split
      · exact .joins ⟨rfl, rfl⟩ shape stops (Eq.refl _)
          ⟨empty, rfl, rfl, rfl, rfl⟩ unmatched rfl rfl rfl rfl
      · exact .joins ⟨rfl, rfl⟩ shape stops (Eq.refl _)
          ⟨empty, rfl, rfl, rfl, rfl⟩ unmatched rfl rfl rfl rfl

private theorem EvictsNode.keeps {info : BufInfo} {que kept : List SuperbufNode}
    {victim : SuperbufNode} (evictsNode : EvictsNode info que kept victim) :
    kept.Sublist que ∧ ∀ newer, que.find? (isNewer info) = some newer → newer ∈ kept := by
  obtain ⟨earlier, later, shape, rfl, _⟩ := evictsNode.split
  constructor
  · rw [shape]
    exact (List.Sublist.refl earlier).append (List.sublist_cons_self victim later)
  · intro newer newest
    have member := List.mem_of_find?_eq_some newest
    have different := evictsNode.notInsertion newer newest
    rw [shape] at member
    simp only [List.mem_append, List.mem_cons] at member ⊢
    rcases member with inEarlier | isVictim | inLater
    · exact Or.inl inEarlier
    · exact (different (by rw [isVictim])).elim
    · exact Or.inr inLater

private theorem enqueueNew_case (memory : Bool) (distinct : DistinctNodes ch.queue.que)
    (passes : ∀ current ∈ ch.queue.que, stopsScan ch.queue info bufSIdx current = false)
    (evicts : Evicts info ch kept released) (evicted : Channel)
    (isEvicted : evicted = { ch with
            queue := { ch.queue with
              que := kept
              size := ch.queue.size - released.length } }) :
    CompareCase info bufSIdx ch (if memory then
        (enqueueNew info bufSIdx ((ch.queue.que.find? (isNewer info)).map SuperbufNode.node)
          evicted,
          released.flatMap SuperbufNode.release)
      else
        (evicted, released.flatMap SuperbufNode.release ++ [ChannelOutput.qbuf info.buf])) := by
  have keeps : kept.Sublist ch.queue.que ∧ ∀ newer, ch.queue.que.find? (isNewer info) = some newer →
          newer ∈ kept := by
    rcases evicts.shape with ⟨rfl, _⟩ | ⟨victim, copies, evictsNode, _⟩
    · exact ⟨List.Sublist.refl _, fun newer newest => List.mem_of_find?_eq_some newest⟩
    · exact evictsNode.keeps
  subst evicted
  cases memory with
  | false => exact .starts false ⟨rfl, rfl⟩ passes evicts rfl ⟨rfl, rfl, rfl, rfl⟩
  | true =>
    obtain ⟨front, back, shape, inserts, linked⟩ :=
      insertBefore_split (newSuperbuf info bufSIdx ch) distinct keeps.1 keeps.2
    have outcome : CompareCase info bufSIdx ch (enqueueNew info bufSIdx
            ((ch.queue.que.find? (isNewer info)).map SuperbufNode.node)
            { ch with
                queue := { ch.queue with
                  que := kept
                  size := ch.queue.size - released.length } },
            released.flatMap SuperbufNode.release ++ (if true then [] else [.qbuf info.buf])) := by
      refine .starts true ?_ passes evicts ?_ ⟨front, back, shape, inserts, ?_, ?_, ?_, ?_⟩
      · unfold enqueueNew
        dsimp only
        split <;> exact ⟨rfl, rfl⟩
      all_goals
        unfold enqueueNew
        dsimp only
        split <;> first | rfl | exact linked
    simpa using outcome

theorem startSuperbuf_case (memory : Bool) (distinct : DistinctNodes ch.queue.que)
    (passes : ∀ current ∈ ch.queue.que, stopsScan ch.queue info bufSIdx current = false) :
    CompareCase info bufSIdx ch (startSuperbuf memory info bufSIdx
        (ScanState.initial.pass info ch.queue.que) ch) := by
  have count : (ScanState.initial.pass info ch.queue.que).unmatchedBundles =
        unmatchedCount ch.queue.que % 256 := by
    simp [ScanState.pass, ScanState.initial]
  have insertion : (ScanState.initial.pass info ch.queue.que).insertBeforeBuf =
        (ch.queue.que.find? (isNewer info)).map SuperbufNode.node := by
    simp [ScanState.pass, ScanState.initial]
  have last : (ScanState.initial.pass info ch.queue.que).lastBuf =
        (ch.queue.que.find? (isOlder info)).map SuperbufNode.node := by
    simp [ScanState.pass, ScanState.initial]
  unfold startSuperbuf
  dsimp only
  split
  · exact .refused
  · rename_i notRefused
    rw [count, last] at notRefused
    rw [insertion]
    rcases evict_cases info ch.queue.attr.maxUnmatchedFrames.toNat distinct with
        ⟨unchanged, noRoom⟩ | ⟨kept, victim, copies, evictsNode, exceeds, amount, evicted⟩
    · rw [unchanged]
      refine enqueueNew_case memory distinct passes ⟨?_, Or.inl ⟨rfl, rfl⟩⟩ _ rfl
      intro exceeds
      rcases noRoom with nothingOlder | within
      · exact absurd ⟨exceeds, by simp [nothingOlder]⟩ notRefused
      · exact absurd exceeds within
    · rw [evicted]
      refine enqueueNew_case memory distinct passes
        ⟨?_, Or.inr ⟨victim, copies, evictsNode, exceeds, amount, rfl⟩⟩ _ rfl
      intro _
      rcases amount with rfl | rfl
      · simp
      · simp only [ne_eq, List.replicate_eq_nil_iff]
        omega

/-- The comparison works on the first superbuf that takes the buffer. -/
theorem compare_of_found (memory : Bool) (info : BufInfo) (bufSIdx : Nat)
    (distinct : DistinctNodes ch.queue.que)
    (shape : ch.queue.que = earlier ++ superBuf :: later)
    (passes : ∀ current ∈ earlier, stopsScan ch.queue info bufSIdx current = false)
    (stops : stopsScan ch.queue info bufSIdx superBuf = true) :
    compare memory info bufSIdx ch = joinSuperbuf info bufSIdx
        ((earlier.find? (isOlder info)).map SuperbufNode.node) superBuf
        { ch with queue := { ch.queue with nomatchFrameId := 0 } } := by
  have distinctShape : DistinctNodes (earlier ++ superBuf :: later) := shape ▸ distinct
  have scanned : scan ch.queue info bufSIdx ScanState.initial ch.queue.que =
        { ScanState.initial.pass info earlier with
            foundSuperBuf := some superBuf.node } := by
    rw [shape]
    exact scan_of_found passes stops
  have located : ch.queue.que.find? (fun current => current.node == superBuf.node) =
        some superBuf := by
    rw [shape]
    exact find_at_node distinctShape.ne_around.1
  have last : (ScanState.initial.pass info earlier).lastBuf =
        (earlier.find? (isOlder info)).map SuperbufNode.node := by
    simp [ScanState.pass, ScanState.initial]
  unfold compare
  rw [scanned]
  dsimp only [Option.bind_some]
  rw [located]
  dsimp only
  rw [last]

/-- Every outcome of the locked part of `comp_and_enqueue`. -/
theorem compare_case (memory : Bool) (info : BufInfo) (bufSIdx : Nat)
    (distinct : DistinctNodes ch.queue.que) :
    CompareCase info bufSIdx ch (compare memory info bufSIdx ch) := by
  cases found : ch.queue.que.find? (stopsScan ch.queue info bufSIdx) with
  | none =>
    have passes : ∀ current ∈ ch.queue.que, stopsScan ch.queue info bufSIdx current = false := by
      simpa using found
    unfold compare
    rw [scan_of_none passes]
    exact startSuperbuf_case memory distinct passes
  | some superBuf =>
    obtain ⟨stops, earlier, later, shape, earlierPasses⟩ :=
      List.find?_eq_some_iff_append.mp found
    have passes : ∀ current ∈ earlier, stopsScan ch.queue info bufSIdx current = false := by
      intro current member
      simpa using earlierPasses current member
    rw [compare_of_found memory info bufSIdx distinct shape passes stops]
    exact joinSuperbuf_case distinct shape passes stops

/-! ## The outcomes of one operation -/

/-- The buffer belongs to the bundled stream of slot `bufSIdx`. -/
def Arrives (info : BufInfo) (bufSIdx : Nat) (ch : Channel) : Prop :=
  ch.queue.bundledStreams.findIdx? (fun stream => info.streamId == stream) = some bufSIdx

/--
The comparison finds the channel `handled`: the buffer is a bundled one with a
frame id, its metadata has been handled, and it is not stale.
-/
structure Compares (info : BufInfo) (bufSIdx : Nat) (ch handled : Channel)
    (flushed : List ChannelOutput) : Prop where
  arrives : Arrives info bufSIdx ch
  frameIdx : info.frameIdx ≠ 0
  metadata : handleMetadata ch info = some (handled, flushed)
  fresh : isStale info handled = false

/-- An arriving buffer is ignored, discarded or compared with the queue. -/
theorem superbufCompAndEnqueue_cases (memory : Bool) (info : BufInfo) (ch : Channel) :
    (superbufCompAndEnqueue memory info ch = (ch, []) ∧ info.streamId ∉ ch.queue.bundledStreams) ∨
    (∃ handled flushed, info.streamId ∈ ch.queue.bundledStreams ∧ Drops ch (handled, flushed) ∧
        superbufCompAndEnqueue memory info ch =
          (handled, flushed ++ [ChannelOutput.qbuf info.buf])) ∨
    ∃ bufSIdx handled flushed, Compares info bufSIdx ch handled flushed ∧
        superbufCompAndEnqueue memory info ch = ((compare memory info bufSIdx handled).1,
            flushed ++ (compare memory info bufSIdx handled).2) := by
  unfold superbufCompAndEnqueue
  cases located : ch.queue.bundledStreams.findIdx? (fun stream => info.streamId == stream) with
  | none =>
    left
    refine ⟨rfl, ?_⟩
    intro member
    have notThere := List.findIdx?_eq_none_iff.mp located
    simpa using notThere info.streamId member
  | some bufSIdx =>
    right
    have member : info.streamId ∈ ch.queue.bundledStreams := by
      obtain ⟨bound, same, _⟩ := List.findIdx?_eq_some_iff_getElem.mp located
      have equal : info.streamId = ch.queue.bundledStreams[bufSIdx] := by
        simpa using same
      rw [equal]
      exact List.getElem_mem bound
    dsimp only
    split
    · left
      exact ⟨ch, [], member, .of_same (.refl ch), rfl⟩
    · rename_i frameIdx
      cases handling : handleMetadata ch info with
      | none =>
        left
        exact ⟨ch, [], member, .of_same (.refl ch), rfl⟩
      | some result =>
        obtain ⟨handled, flushed⟩ := result
        dsimp only
        split
        · left
          exact ⟨handled, flushed, member, handleMetadata_drops handling, rfl⟩
        · rename_i notStale
          right
          exact ⟨bufSIdx, handled, flushed, ⟨located, frameIdx, handling, by simpa using notStale⟩,
            rfl⟩

/-- The slot of an arriving buffer is the slot of its stream. -/
theorem Arrives.stream (arrives : Arrives info bufSIdx ch) :
    ch.queue.bundledStreams[bufSIdx]? = some info.streamId := by
  obtain ⟨bound, same, _⟩ := List.findIdx?_eq_some_iff_getElem.mp arrives
  have equal : info.streamId = ch.queue.bundledStreams[bufSIdx] := by
    simpa using same
  rw [List.getElem?_eq_getElem bound, equal]

end AnglerHal.Superbuf
