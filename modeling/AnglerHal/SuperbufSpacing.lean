import AnglerHal.SuperbufOrder

namespace AnglerHal.Superbuf

/-!
# The distance between matched superbufs

A match at frame `f` sets the expected frame id to `f + post_frame_skip`, and
buffers below the expected id are discarded.  As long as that sum stays below
`2 ^ 32` and nothing lowers the expected id, matched superbufs are at least
`post_frame_skip` frames apart.
-/

/-- A change that does not lower the expected frame id. -/
structure KeepsExpectation (before after : Channel) : Prop where
  expectedFrameId : before.queue.expectedFrameId ≤ after.queue.expectedFrameId
  postFrameSkip : after.queue.attr.postFrameSkip = before.queue.attr.postFrameSkip
  flashBracketing : after.isFlashBracketingEnabled = before.isFlashBracketingEnabled
  needLEDFlash : before.needLEDFlash = false → after.needLEDFlash = false

/-- A change outside the fields that decide which buffers are stale. -/
structure SameExpectation (before after : Channel) : Prop where
  expectedFrameId : after.queue.expectedFrameId = before.queue.expectedFrameId
  postFrameSkip : after.queue.attr.postFrameSkip = before.queue.attr.postFrameSkip
  flashBracketing : after.isFlashBracketingEnabled = before.isFlashBracketingEnabled
  needLEDFlash : after.needLEDFlash = before.needLEDFlash

theorem SameExpectation.trans {start middle final : Channel}
    (earlier : SameExpectation start middle) (later : SameExpectation middle final) :
    SameExpectation start final where
  expectedFrameId := later.expectedFrameId.trans earlier.expectedFrameId
  postFrameSkip := later.postFrameSkip.trans earlier.postFrameSkip
  flashBracketing := later.flashBracketing.trans earlier.flashBracketing
  needLEDFlash := later.needLEDFlash.trans earlier.needLEDFlash

/-- What leaves the expected frame id alone does not lower it. -/
theorem SameExpectation.keeps {before after : Channel} (same : SameExpectation before after) :
    KeepsExpectation before after where
  expectedFrameId := Nat.le_of_eq same.expectedFrameId.symm
  postFrameSkip := same.postFrameSkip
  flashBracketing := same.flashBracketing
  needLEDFlash := fun off => same.needLEDFlash.trans off

/-- Two changes in a row that do not lower the expected frame id. -/
theorem KeepsExpectation.trans {start middle final : Channel}
    (earlier : KeepsExpectation start middle) (later : KeepsExpectation middle final) :
    KeepsExpectation start final where
  expectedFrameId := earlier.expectedFrameId.trans later.expectedFrameId
  postFrameSkip := later.postFrameSkip.trans earlier.postFrameSkip
  flashBracketing := later.flashBracketing.trans earlier.flashBracketing
  needLEDFlash := fun off => later.needLEDFlash (earlier.needLEDFlash off)

theorem OnlyNodesDiffer.sameExpectation {before after : Channel}
    (only : OnlyNodesDiffer before after) : SameExpectation before after := by
  obtain ⟨_, _, _, rfl⟩ := only
  exact ⟨rfl, rfl, rfl, rfl⟩

variable {ch handled next : Channel} {info : BufInfo} {flushed : List ChannelOutput}

theorem expectFutureFrame_keeps (room :
      ch.queue.expectedFrameId + maxFutureFrameOffset < uint32Size) :
    KeepsExpectation ch ch.expectFutureFrame := by
  refine ⟨?_, rfl, rfl, id⟩
  simp only [Channel.expectFutureFrame, Channel.setExpectedFrameId, Nat.mod_eq_of_lt room]
  omega

/-! ## Plain metadata -/

/-- The metadata carries no entry that the bundle reads. -/
def Metadata.Plain (metadata : Metadata) : Prop :=
  metadata.prepSnapshotDone = none ∧ metadata.goodFrameIdxRange = none ∧
    metadata.cropData = none ∧ metadata.bufDivertFrameId = none

/-- Metadata is decidably plain. -/
instance decidablePlain (metadata : Metadata) : Decidable metadata.Plain :=
  inferInstanceAs (Decidable (_ ∧ _))

/-- The bundle waits for a frame that metadata has to announce. -/
def waitsForFutureFrame (ch : Channel) : Bool :=
  ch.isZoom1xFrameRequested || ch.bracketingState == .waitGoodFrameIdx

theorem applyMetadata_plain {metadata : Metadata} (plain : metadata.Plain)
    (noLed : ch.needLEDFlash = false) :
    applyMetadata info metadata ch = if ch.isZoom1xFrameRequested then
        superbufFlushMatched ch.expectFutureFrame
      else if ch.bracketingState = .waitGoodFrameIdx then
        ((applyLedOff info (superbufFlushMatched ch).1.expectFutureFrame),
          (superbufFlushMatched ch).2)
      else
        (ch, []) := by
  obtain ⟨prep, range, crop, divert⟩ := plain
  by_cases zoom : ch.isZoom1xFrameRequested
  · simp [applyMetadata, noteDivertInfo, divert, zoom, handleZoom1x, isCrop1xFound, crop]
  · by_cases waits : ch.bracketingState = .waitGoodFrameIdx
    · simp [applyMetadata, noteDivertInfo, divert, zoom, waits, prep, range,
        handlePrepSnapshotDone, handleGoodFrameIdxRange, applyBracketing,
        applyFrameConfig]
    · simp [applyMetadata, noteDivertInfo, divert, zoom, waits, prep, range,
        handlePrepSnapshotDone, handleGoodFrameIdxRange, applyBracketing,
        applyFrameConfig, applyLedOff, noLed]

theorem applyMetadata_keeps {info : BufInfo} {metadata : Metadata} {ch : Channel}
    (plain : metadata.Plain) (noLed : ch.needLEDFlash = false)
    (room : waitsForFutureFrame ch = true →
        ch.queue.expectedFrameId + maxFutureFrameOffset < uint32Size) :
    KeepsExpectation ch (applyMetadata info metadata ch).1 := by
  rw [applyMetadata_plain plain noLed]
  split
  · rename_i zoom
    have future := expectFutureFrame_keeps (room (by simp [waitsForFutureFrame, zoom]))
    exact future.trans (superbufFlushMatched_onlyNodes _).sameExpectation.keeps
  · split
    · rename_i waits
      have flushed : SameExpectation ch (superbufFlushMatched ch).1 :=
        (superbufFlushMatched_onlyNodes ch).sameExpectation
      have roomAfter : (superbufFlushMatched ch).1.queue.expectedFrameId +
            maxFutureFrameOffset < uint32Size := by
        rw [flushed.expectedFrameId]
        exact room (by simp [waitsForFutureFrame, waits])
      have ledStaysOff : (superbufFlushMatched ch).1.expectFutureFrame.needLEDFlash =
            false :=
        flushed.needLEDFlash.trans noLed
      have noLedOff : applyLedOff info (superbufFlushMatched ch).1.expectFutureFrame =
            (superbufFlushMatched ch).1.expectFutureFrame := by
        simp [applyLedOff, ledStaysOff]
      dsimp only
      rw [noLedOff]
      exact flushed.keeps.trans (expectFutureFrame_keeps roomAfter)
    · exact SameExpectation.keeps ⟨rfl, rfl, rfl, rfl⟩

theorem handleMetadata_keeps
    (plain : ∀ metadata, info.buf.buffer = some metadata → metadata.Plain)
    (noLed : ch.needLEDFlash = false)
    (room : waitsForFutureFrame ch = true →
        ch.queue.expectedFrameId + maxFutureFrameOffset < uint32Size)
    (result : handleMetadata ch info = some (handled, flushed)) :
    KeepsExpectation ch handled := by
  obtain ⟨metadata, content, applied⟩ | same := handleMetadata_cases result
  · have kept := @applyMetadata_keeps info metadata ch (plain metadata content) noLed room
    rw [applied] at kept
    exact kept
  · obtain rfl := congrArg Prod.fst same
    exact SameExpectation.keeps ⟨rfl, rfl, rfl, rfl⟩

/-! ## The comparison -/

private theorem expectAfterMatch_noFlash (info : BufInfo)
    (noFlash : ch.isFlashBracketingEnabled = false) :
    expectAfterMatch info ch = ch.setExpectedFrameId
        (info.frameIdx + ch.queue.attr.postFrameSkip.toNat) := by
  simp [expectAfterMatch, noFlash]

/--
Without flash bracketing the comparison counts a match exactly when it moves
the expected frame id behind the buffer's frame.
-/
theorem compare_expectation (memory : Bool) (info : BufInfo) (bufSIdx : Nat)
    (noFlash : ch.isFlashBracketingEnabled = false) :
    SameExpectation ch (compare memory info bufSIdx ch).1 ∧
        (compare memory info bufSIdx ch).1.queue.matchCnt = ch.queue.matchCnt ∨
      SameExpectation (ch.setExpectedFrameId (info.frameIdx + ch.queue.attr.postFrameSkip.toNat))
        (compare memory info bufSIdx ch).1 := by
  unfold compare
  dsimp only
  split
  · unfold joinSuperbuf
    split
    · exact Or.inl ⟨⟨rfl, rfl, rfl, rfl⟩, rfl⟩
    · dsimp only
      split
      · right
        rw [expectAfterMatch_noFlash info (by exact noFlash)]
        exact ⟨rfl, rfl, rfl, rfl⟩
      · split <;> exact Or.inl ⟨⟨rfl, rfl, rfl, rfl⟩, rfl⟩
  · unfold startSuperbuf
    dsimp only
    split
    · exact Or.inl ⟨⟨rfl, rfl, rfl, rfl⟩, rfl⟩
    · split
      · by_cases single : ch.queue.bundledStreams.length = 1
        · right
          simp only [enqueueNew, single, if_true]
          exact ⟨rfl, rfl, rfl, rfl⟩
        · left
          simp only [enqueueNew, single, if_false]
          exact ⟨⟨rfl, rfl, rfl, rfl⟩, trivial⟩
      · exact Or.inl ⟨⟨rfl, rfl, rfl, rfl⟩, rfl⟩

/-! ## Matched superbufs stay apart -/

/-- The earlier superbuf's frame is at least `skip` frames older. -/
def ApartBy (skip : Nat) (earlier later : SuperbufNode) : Prop :=
  earlier.frameIdx + skip ≤ later.frameIdx

/-- Matched superbufs are apart, and the expected id is ahead of them all. -/
structure SpacingInvariant (skip : Nat) (matched : List SuperbufNode) (ch : Channel) : Prop where
  noFlash : ch.isFlashBracketingEnabled = false
  noLed : ch.needLEDFlash = false
  postFrameSkip : ch.queue.attr.postFrameSkip.toNat = skip
  apart : matched.Pairwise (ApartBy skip)
  ahead : ∀ superBuf ∈ matched, superBuf.frameIdx + skip ≤ ch.queue.expectedFrameId

section Spacing

variable {streams : List Nat} {seen : List BufInfo}
  {matched dequeued : List SuperbufNode} {skip : Nat}

/-- Not lowering the expected frame id keeps the spacing. -/
theorem SpacingInvariant.of_keeps {before after : Channel}
    (spacing : SpacingInvariant skip matched before)
    (keeps : KeepsExpectation before after) :
    SpacingInvariant skip matched after where
  noFlash := keeps.flashBracketing.trans spacing.noFlash
  noLed := keeps.needLEDFlash spacing.noLed
  postFrameSkip := by
    rw [keeps.postFrameSkip]
    exact spacing.postFrameSkip
  apart := spacing.apart
  ahead := fun superBuf member =>
    (spacing.ahead superBuf member).trans keeps.expectedFrameId

private theorem SameExpectation.raises (moved : SameExpectation
        (handled.setExpectedFrameId (info.frameIdx + skip)) next)
    (fits : info.frameIdx + skip < uint32Size)
    (notStale : handled.queue.expectedFrameId ≤ info.frameIdx) :
    KeepsExpectation handled next where
  expectedFrameId := by
    rw [moved.expectedFrameId]
    simp only [Channel.setExpectedFrameId, Nat.mod_eq_of_lt fits]
    omega
  postFrameSkip := moved.postFrameSkip
  flashBracketing := moved.flashBracketing
  needLEDFlash := fun off => moved.needLEDFlash.trans off

private theorem SpacingInvariant.of_match {touched : SuperbufNode}
    (spacing : SpacingInvariant skip matched handled)
    (moved : SameExpectation (handled.setExpectedFrameId (info.frameIdx + skip)) next)
    (frameIdx : touched.frameIdx = info.frameIdx)
    (notStale : handled.queue.expectedFrameId ≤ info.frameIdx)
    (fits : info.frameIdx + skip < uint32Size) :
    SpacingInvariant skip (matched ++ [touched]) next := by
  have expected : next.queue.expectedFrameId = info.frameIdx + skip := by
    rw [moved.expectedFrameId]
    exact Nat.mod_eq_of_lt fits
  have older : ∀ superBuf ∈ matched, superBuf.frameIdx + skip ≤ info.frameIdx :=
    fun superBuf member => (spacing.ahead superBuf member).trans notStale
  have kept := spacing.of_keeps (moved.raises fits notStale)
  refine { kept with apart := ?_, ahead := ?_ }
  · refine List.pairwise_append.mpr ⟨spacing.apart, by simp, ?_⟩
    intro earlier isOld later isNew
    rw [List.mem_singleton.mp isNew]
    unfold ApartBy
    rw [frameIdx]
    exact older earlier isOld
  · intro superBuf member
    rw [expected]
    rcases List.mem_append.mp member with isOld | isNew
    · exact (older superBuf isOld).trans (Nat.le_add_right _ _)
    · rw [List.mem_singleton.mp isNew, frameIdx]

theorem superbufCompAndEnqueue_handled (memory : Bool) (info : BufInfo) (ch : Channel) :
    (superbufCompAndEnqueue memory info ch).1 = ch ∨ ∃ handled flushed,
        handleMetadata ch info = some (handled, flushed) ∧
          ((superbufCompAndEnqueue memory info ch).1 = handled ∨ ∃ bufSIdx,
              Compares info bufSIdx ch handled flushed ∧ (superbufCompAndEnqueue memory info ch).1 =
                  (compare memory info bufSIdx handled).1) := by
  unfold superbufCompAndEnqueue
  split
  · exact Or.inl rfl
  · rename_i bufSIdx located
    split
    · exact Or.inl rfl
    · rename_i frameIdx
      split
      · exact Or.inl rfl
      · rename_i handled flushed handling
        right
        refine ⟨handled, flushed, handling, ?_⟩
        split
        · exact Or.inl rfl
        · rename_i notStale
          exact Or.inr ⟨bufSIdx, ⟨located, frameIdx, handling, by simpa using notStale⟩, rfl⟩

private theorem Compares.expected_le {bufSIdx : Nat}
    (compared : Compares info bufSIdx ch handled flushed) :
    handled.queue.expectedFrameId ≤ info.frameIdx := by
  have notStale := compared.fresh
  simp only [isStale, utilSeqCompWRollover, Bool.or_eq_false_iff] at notStale
  by_contra older
  have below : info.frameIdx < handled.queue.expectedFrameId := by
    omega
  have notAbove : ¬ handled.queue.expectedFrameId < info.frameIdx := by
    omega
  simp [below, notAbove] at notStale

/-- The arrival of a buffer keeps matched superbufs apart. -/
theorem superbufCompAndEnqueue_spacing (memory : Bool)
    (order : OrderInvariant streams seen matched dequeued ch)
    (spacing : SpacingInvariant skip matched ch)
    (plain : ∀ metadata, info.buf.buffer = some metadata → metadata.Plain)
    (fits : info.frameIdx + skip < uint32Size)
    (room : waitsForFutureFrame ch = true →
        ch.queue.expectedFrameId + maxFutureFrameOffset < uint32Size) :
    SpacingInvariant skip (matched ++ newlyMatched ch (superbufCompAndEnqueue memory info ch).1)
      (superbufCompAndEnqueue memory info ch).1 := by
  rcases superbufCompAndEnqueue_handled memory info ch with
      unchanged | ⟨handled, flushed, handling, outcome⟩
  · rw [unchanged, newlyMatched_of_subset (List.Subset.refl _), List.append_nil]
    exact spacing
  · obtain ⟨dropped, drops, _⟩ := handleMetadata_drops handling
    have subset : handled.queue.que ⊆ ch.queue.que := drops.sublist.subset
    have held : OrderInvariant streams seen matched dequeued handled := order.of_drops drops
    have spaced := spacing.of_keeps (handleMetadata_keeps plain spacing.noLed room handling)
    rcases outcome with discarded | ⟨bufSIdx, compared, result⟩
    · rw [discarded, newlyMatched_of_subset subset, List.append_nil]
      exact spaced
    · rw [result]
      have expectation := compare_expectation memory info bufSIdx spaced.noFlash
      rw [spaced.postFrameSkip] at expectation
      have notStale := compared.expected_le
      have keeps : KeepsExpectation handled (compare memory info bufSIdx handled).1 := by
        rcases expectation with ⟨same, _⟩ | moved
        · exact same.keeps
        · exact moved.raises fits notStale
      have outcome := compare_case memory info bufSIdx held.wellFormed.distinct
      rcases outcome.touches held.matchedFirst held.ascending with
          shorter | ⟨front, touched, back, touches⟩
      · rw [newlyMatched_of_subset (List.Subset.trans shorter.subset subset), List.append_nil]
        exact spaced.of_keeps keeps
      · rcases touches.newlyMatched_cases subset with
            none | ⟨only, isMatched⟩
        · rw [none, List.append_nil]
          exact spaced.of_keeps keeps
        · -- a match is counted, so the expected id has moved with it
          have counted := touches.matchCnt isMatched
          rcases expectation with ⟨_, uncounted⟩ | moved
          · omega
          · rw [only]
            exact spaced.of_match moved touches.frameIdx notStale fits

end Spacing

end AnglerHal.Superbuf
