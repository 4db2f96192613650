import AnglerHal.SuperbufInvariant
import Mathlib.Tactic.IntervalCases

namespace AnglerHal.Superbuf

/-!
# The queue as the application sees it

The invariant of `SuperbufInvariant` is restated here in the words of the
header: a block of matched superbufs, then an ascending block of unmatched
ones, two counters that agree with the list, and slots that hold buffers of
their own stream and frame.

The scan counts unmatched superbufs in a `uint8_t`.  A limit of `255` is
therefore never exceeded by the count, and the last section shows a bundle of
five streams whose queue grows past it.
-/

/-- The documented shape of a superbuf queue. -/
structure RepresentationInvariant (ch : Channel) : Prop where
  blocks : ∃ matched unmatched, ch.queue.que = matched ++ unmatched ∧
        (∀ superBuf ∈ matched, superBuf.matched = true) ∧
        (∀ superBuf ∈ unmatched, superBuf.matched = false) ∧
        unmatched.Pairwise fun earlier later =>
          earlier.frameIdx < later.frameIdx
  matchCnt : ch.queue.matchCnt = ch.queue.que.countP SuperbufNode.matched
  size : ch.queue.size = ch.queue.que.length
  limit : unmatchedCount ch.queue.que ≤ ch.queue.attr.maxUnmatchedFrames.toNat + 1
  slots : ∀ superBuf ∈ ch.queue.que, ∀ (index : Nat) (slot : Slot),
      superBuf.superBuf[index]? = some slot →
      (slot.frameIdx ≠ 0 ∨ slot.buf.isSome = true) →
      slot.frameIdx = superBuf.frameIdx ∧ slot.buf.isSome = true ∧
        ch.queue.bundledStreams[index]? = some slot.streamId
  numOfBufs : ∀ superBuf ∈ ch.queue.que, superBuf.superBuf.length = ch.queue.bundledStreams.length
  complete : ∀ superBuf ∈ ch.queue.que, (superBuf.matched = true ↔
        ∀ slot ∈ superBuf.superBuf, slot.frameIdx ≠ 0)

private theorem split_matched {que : List SuperbufNode} (ordered : que.Pairwise fun earlier later =>
        later.matched = true → earlier.matched = true) :
    ∃ matched unmatched, que = matched ++ unmatched ∧
        (∀ superBuf ∈ matched, superBuf.matched = true) ∧
        ∀ superBuf ∈ unmatched, superBuf.matched = false := by
  induction que with
  | nil => exact ⟨[], [], rfl, by simp, by simp⟩
  | cons superBuf rest inductionHypothesis =>
    rw [List.pairwise_cons] at ordered
    cases flag : superBuf.matched with
    | false =>
      refine ⟨[], superBuf :: rest, rfl, by simp, ?_⟩
      intro current member
      rcases List.mem_cons.mp member with rfl | inRest
      · exact flag
      · by_contra matched
        have headMatched := ordered.1 current inRest (by simpa using matched)
        simp [flag] at headMatched
    | true =>
      obtain ⟨matched, unmatched, rfl, allMatched, noneMatched⟩ :=
        inductionHypothesis ordered.2
      exact ⟨superBuf :: matched, unmatched, rfl, by simpa [flag] using allMatched, noneMatched⟩

theorem NormalInvariant.representation {ch : Channel} (invariant : NormalInvariant ch)
    (limit : ch.queue.attr.maxUnmatchedFrames.toNat < 255) :
    RepresentationInvariant ch where
  blocks := by
    obtain ⟨matched, unmatched, shape, allMatched, noneMatched⟩ :=
      split_matched invariant.matchedFirst.ordered
    refine ⟨matched, unmatched, shape, allMatched, noneMatched, ?_⟩
    have ordered := invariant.ascending.ascending
    rw [shape, List.pairwise_append] at ordered
    refine ordered.2.1.imp_of_mem ?_
    intro earlier later inEarlier inLater below
    exact below (noneMatched earlier inEarlier) (noneMatched later inLater)
  matchCnt := invariant.matchedFirst.matchCnt
  size := invariant.sized
  limit := invariant.bounded limit
  slots := by
    intro superBuf member index slot found filled
    rcases (invariant.wellFormed.nodes superBuf member).slots
        index slot found with rfl | ⟨nonzero, hasBuf, stream⟩
    · simp [Slot.empty] at filled
    · exact ⟨invariant.ascending.sameFrame superBuf member slot
        (List.mem_of_getElem? found) nonzero, hasBuf, stream⟩
  numOfBufs := fun superBuf member =>
    (invariant.wellFormed.nodes superBuf member).length
  complete := by
    intro superBuf member
    rw [(invariant.wellFormed.nodes superBuf member).matched]
    simp

/--
Every run of a bundle with normal priority keeps the documented shape, unless
the limit on unmatched frames is the largest `uint8_t`.
-/
theorem superbufRun_representation {ch final : Channel} {ops : List SuperbufOp}
    {log : List ChannelOutput} (fresh : ch.Fresh)
    (priority : ch.queue.attr.priority = .normal)
    (limit : ch.queue.attr.maxUnmatchedFrames ≠ 255)
    (ran : superbufRun ch ops = some (final, log)) :
    RepresentationInvariant final := by
  obtain ⟨invariant, setup⟩ := superbufRun_normalInvariant fresh (by simp [priority]) ran
  refine invariant.representation ?_
  have byte := ch.queue.attr.maxUnmatchedFrames.toNat_lt
  have notMax : ch.queue.attr.maxUnmatchedFrames.toNat ≠ 255 := by
    intro same
    exact limit (UInt8.toNat_inj.mp same)
  rw [setup.attr]
  omega

/-! ## A bundle of five streams -/

/-- A started bundle of streams of the given types, with handles from 1 on. -/
def startedChannel (streamTypes : List CamStreamType) (attr : ChannelAttr) : Channel where
  queue := {
    que := []
    size := 0
    bundledStreams := (List.range streamTypes.length).map (· + 1)
    attr := attr
    expectedFrameId := 0
    matchCnt := 0
    expectedFrameIdWithoutLed := 0
    ledOnStartFrameId := 0
    ledOffStartFrameId := 0
    ledOnNumFrames := 0
    once := false
    frameSkipCount := 0
    nomatchFrameId := 0 }
  streams := streamTypes.zipIdx.map fun (streamType, index) => {
    myHdl := index + 1
    serverStreamId := index
    streamType := some streamType
    ownedByChannel := true }
  bWaitForPrepSnapshotDone := false
  stopZslSnapshot := false
  needLEDFlash := false
  bracketingState := .off
  isFlashBracketingEnabled := false
  isZoom1xFrameRequested := false
  burstSnapNum := 0
  divertedFrameId := 0
  curCaptureIdx := 0
  frameConfig := none
  nextNode := 0

/-- A started bundle is fresh. -/
theorem startedChannel_fresh (streamTypes : List CamStreamType) (attr : ChannelAttr) :
    (startedChannel streamTypes attr).Fresh :=
  ⟨rfl, rfl, rfl, rfl⟩

/-- The types of the five streams, in the order of their handles. -/
def fiveStreamTypes : List CamStreamType :=
  [.preview, .video, .snapshot, .callback, .raw]

/-- A started bundle of these streams. -/
def fiveStreamChannel (attr : ChannelAttr) : Channel :=
  startedChannel fiveStreamTypes attr

/-- The buffer of stream `index` for a frame. -/
def fiveStreamBuf (index frame : Nat) : BufInfo where
  streamId := index + 1
  frameIdx := frame
  buf := {
    handle := 5 * frame + index
    streamType := fiveStreamTypes.getD index .default
    buffer := none }

/-- Attributes of a normal burst bundle with the given limit. -/
def burstAttr (maxUnmatchedFrames : UInt8) : ChannelAttr where
  notifyMode := .burst
  waterMark := 0
  lookBack := 0
  postFrameSkip := 0
  maxUnmatchedFrames := maxUnmatchedFrames
  priority := .normal

/-- The buffers of frame 1 in stream order, then one buffer of frame 3. -/
def twoFrames : List SuperbufOp :=
  ((List.range 5).map fun index =>
      .compAndEnqueue true (fiveStreamBuf index 1)) ++
    [.compAndEnqueue true (fiveStreamBuf 2 3)]

/-- A frame completed by its five buffers while another one waits. -/
theorem superbufRun_representation_twoFrames :
    ((superbufRun (fiveStreamChannel (burstAttr 254)) twoFrames).map
        fun (final, _) => final.queue.que.map SuperbufNode.matched) =
        some [true, false] ∧
      ∃ final log, superbufRun (fiveStreamChannel (burstAttr 254)) twoFrames = some (final, log) ∧
          RepresentationInvariant final := by
  refine ⟨by decide, ?_⟩
  obtain ⟨final, log, ran⟩ :=
    superbufRun_total (fiveStreamChannel (burstAttr 254)) twoFrames
  exact ⟨final, log, ran, superbufRun_representation (startedChannel_fresh _ _) rfl (by decide) ran⟩

/-! ## The limit `255` -/

/-- Frame `n + 1` arrives on one of the five streams, each in its turn. -/
def scatteredBuf (n : Nat) : BufInfo :=
  fiveStreamBuf (n % 5) (n + 1)

/-- The superbuf that holds only the buffer of frame `n + 1`. -/
def scatteredNode (n : Nat) : SuperbufNode where
  node := n
  superBuf :=
    (List.replicate 5 Slot.empty).set (n % 5) (scatteredBuf n).toSlot
  matched := false
  expected := false
  frameIdx := n + 1

/-- The bundle with limit `255` after `n` scattered frames. -/
def scatteredChannel (n : Nat) : Channel :=
  { fiveStreamChannel (burstAttr 255) with
      queue := { (fiveStreamChannel (burstAttr 255)).queue with
        que := (List.range n).map scatteredNode
        size := n }
      nextNode := n }

private theorem scattered_passes (n : Nat) : ∀ current ∈ (scatteredChannel n).queue.que,
      stopsScan (scatteredChannel n).queue (scatteredBuf n) (n % 5) current = false := by
  intro current member
  obtain ⟨index, inRange, rfl⟩ := List.mem_map.mp member
  have below := List.mem_range.mp inRange
  simp [stopsScan, takesBuffer, scatteredChannel, scatteredNode,
    scatteredBuf, fiveStreamBuf, fiveStreamChannel, startedChannel,
    fiveStreamTypes, burstAttr]
  omega

private theorem scattered_newest (n : Nat) :
    ((scatteredChannel n).queue.que.find? (isNewer (scatteredBuf n))) =
      none := by
  rw [List.find?_eq_none]
  intro current member
  obtain ⟨index, inRange, rfl⟩ := List.mem_map.mp member
  have below := List.mem_range.mp inRange
  simp [isNewer, scatteredNode, scatteredBuf, fiveStreamBuf]
  omega

private theorem scattered_keeps (n : Nat) : evict 255 (ScanState.initial.pass (scatteredBuf n)
          (scatteredChannel n).queue.que)
        (scatteredChannel n).queue.que =
      ((scatteredChannel n).queue.que, []) := by
  have distinct : DistinctNodes (scatteredChannel n).queue.que := by
    have nodes : (scatteredChannel n).queue.que.map SuperbufNode.node =
          List.range n := by
      simp [scatteredChannel, scatteredNode, Function.comp_def]
    unfold DistinctNodes
    rw [nodes]
    exact List.nodup_range
  rcases evict_cases (scatteredBuf n) 255 distinct with
      ⟨unchanged, _⟩ | ⟨_, _, _, _, exceeds, _⟩
  · exact unchanged
  · have byte := Nat.mod_lt (unmatchedCount (scatteredChannel n).queue.que) (by decide : 0 < 256)
    omega

private theorem scattered_step (n : Nat) : superbufStep (scatteredChannel n)
        (.compAndEnqueue true (scatteredBuf n)) =
      (scatteredChannel (n + 1), []) := by
  have turn : n % 5 < 5 := Nat.mod_lt n (by decide)
  have located : (scatteredChannel n).queue.bundledStreams.findIdx?
          (fun stream => (scatteredBuf n).streamId == stream) =
        some (n % 5) := by
    simp only [scatteredChannel, fiveStreamChannel, startedChannel,
      fiveStreamTypes, scatteredBuf, fiveStreamBuf]
    generalize n % 5 = index at turn
    interval_cases index <;> rfl
  have metadata : handleMetadata (scatteredChannel n) (scatteredBuf n) =
        some (scatteredChannel n, []) := by
    have stream : ∃ streamObj streamType, utilGetStreamByHandler (scatteredChannel n)
              (scatteredBuf n).streamId = some streamObj ∧
            streamObj.streamType = some streamType ∧
            streamType ≠ .metadata := by
      simp only [scatteredChannel, fiveStreamChannel, startedChannel,
        fiveStreamTypes, scatteredBuf, fiveStreamBuf,
        utilGetStreamByHandler]
      generalize n % 5 = index at turn
      interval_cases index <;> exact ⟨_, _, rfl, rfl, by decide⟩
    obtain ⟨streamObj, streamType, found, typed, image⟩ := stream
    simp [handleMetadata, found, typed, image]
  have stale : isStale (scatteredBuf n) (scatteredChannel n) = false := by
    simp [isStale, utilSeqCompWRollover, scatteredChannel,
      fiveStreamChannel, startedChannel, fiveStreamTypes, scatteredBuf,
      fiveStreamBuf]
  have insertion : (ScanState.initial.pass (scatteredBuf n)
        (scatteredChannel n).queue.que).insertBeforeBuf = none := by
    simp [ScanState.pass, ScanState.initial, scattered_newest n]
  have refused : ¬ (255 < (ScanState.initial.pass (scatteredBuf n)
            (scatteredChannel n).queue.que).unmatchedBundles ∧
        (ScanState.initial.pass (scatteredBuf n)
          (scatteredChannel n).queue.que).lastBuf = none) := by
    have byte := Nat.mod_lt (unmatchedCount (scatteredChannel n).queue.que) (by decide : 0 < 256)
    simp only [ScanState.pass, ScanState.initial, Nat.zero_add]
    omega
  have compared : compare true (scatteredBuf n) (n % 5) (scatteredChannel n) =
        (scatteredChannel (n + 1), []) := by
    unfold compare
    rw [scan_of_none (scattered_passes n)]
    change startSuperbuf true (scatteredBuf n) (n % 5) (ScanState.initial.pass (scatteredBuf n)
        (scatteredChannel n).queue.que) (scatteredChannel n) = _
    unfold startSuperbuf
    have limit : (scatteredChannel n).queue.attr.maxUnmatchedFrames.toNat = 255 := rfl
    dsimp only
    rw [limit, if_neg refused, scattered_keeps n, insertion]
    simp only [if_true, enqueueNew, insertBefore_none]
    simp [scatteredChannel, fiveStreamChannel, startedChannel,
      fiveStreamTypes, newSuperbuf, burstAttr, List.range_succ,
      scatteredNode]
    simp [scatteredBuf, fiveStreamBuf]
  have numbered : (scatteredBuf n).frameIdx ≠ 0 := Nat.succ_ne_zero n
  simp [superbufStep, superbufCompAndEnqueue, located, metadata, stale, compared, numbered]

private theorem scattered_run (n : Nat) : superbufRun (fiveStreamChannel (burstAttr 255))
        ((List.range n).map fun index =>
          .compAndEnqueue true (scatteredBuf index)) =
      some (scatteredChannel n, []) := by
  induction n with
  | zero => rfl
  | succ n inductionHypothesis =>
    rw [List.range_succ, List.map_append]
    have extended := LabelledRun.run?_snoc inductionHypothesis (congrArg some (scattered_step n))
    simpa [superbufRun] using extended

/-- After 257 scattered frames the queue is past its limit of 256. -/
theorem superbufRun_exceeds_byte_limit : (fiveStreamChannel (burstAttr 255)).Fresh ∧
      (fiveStreamChannel (burstAttr 255)).queue.attr.priority = .normal ∧
      ∃ final log, superbufRun (fiveStreamChannel (burstAttr 255))
            ((List.range 257).map fun index =>
              .compAndEnqueue true (scatteredBuf index)) =
          some (final, log) ∧
        ¬ RepresentationInvariant final := by
  refine ⟨startedChannel_fresh _ _, rfl, _, _, scattered_run 257, ?_⟩
  intro invariant
  have count : unmatchedCount (scatteredChannel 257).queue.que = 257 := by
    have all : ∀ current ∈ (scatteredChannel 257).queue.que, (!current.matched) = true := by
      intro current member
      obtain ⟨index, _, rfl⟩ := List.mem_map.mp member
      rfl
    unfold unmatchedCount
    rw [List.countP_eq_length.mpr all]
    simp [scatteredChannel]
  have limit := invariant.limit
  rw [count] at limit
  exact absurd limit (by decide)

end AnglerHal.Superbuf
