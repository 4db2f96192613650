import AnglerHal.SuperbufRepresentation

namespace AnglerHal.Superbuf

/-!
# The loops of overflow and skip

`mm_channel_superbuf_bufdone_overflow` and `mm_channel_superbuf_skip` repeat
`dropMatched` while `match_cnt` is above a limit.  A round makes progress only
if the head of the queue is matched, so the loops end when the matched
superbufs stand in front.

Under low priority an image frame may complete the superbuf of a later
metadata frame behind an unmatched superbuf.  `oldestCompleted` is the
condition that no arriving buffer does so; the last section shows a bundle of
three streams in which one does, and the loop that then spins.
-/

/-! ## Progress of one round -/

variable {ch : Channel} {superBuf : SuperbufNode} {rest : List SuperbufNode}
  {info : BufInfo} {bufSIdx : Nat}

/-- While matched superbufs stand in front, a counted one is at the head. -/
theorem MatchedFirst.head_matched (matchedFirst : MatchedFirst ch)
    (counted : 0 < ch.queue.matchCnt) :
    ∃ superBuf rest, ch.queue.que = superBuf :: rest ∧ superBuf.matched = true := by
  rw [matchedFirst.matchCnt, List.countP_pos_iff] at counted
  obtain ⟨found, member, matched⟩ := counted
  have ordered := matchedFirst.ordered
  cases shape : ch.queue.que with
  | nil => simp [shape] at member
  | cons superBuf rest =>
    refine ⟨superBuf, rest, rfl, ?_⟩
    rw [shape, List.mem_cons] at member
    rw [shape, List.pairwise_cons] at ordered
    rcases member with rfl | inRest
    · exact matched
    · exact ordered.1 found inRest matched

/-- A round at a matched head removes that node and counts it off. -/
theorem dropMatched_of_head (shape : ch.queue.que = superBuf :: rest)
    (matched : superBuf.matched = true) :
    (dropMatched ch).1.queue.que = rest ∧
      (dropMatched ch).1.queue.matchCnt = ch.queue.matchCnt - 1 ∧
      DropsFront [superBuf] ch (dropMatched ch).1 := by
  rcases dropMatched_cases ch with
      ⟨_, unmatched⟩ | ⟨dropped, next, taken, droppedMatched, drops⟩
  · have notMatched := unmatched superBuf (by simp [shape])
    simp [matched] at notMatched
  · have front := drops.que
    rw [shape] at front
    simp only [List.cons_append, List.nil_append, List.cons.injEq] at front
    obtain ⟨rfl, restShape⟩ := front
    rw [taken]
    refine ⟨restShape.symm, ?_, drops⟩
    simpa [matched] using drops.matchCnt

theorem dropMatched_of_unmatched (shape : ch.queue.que = superBuf :: rest)
    (unmatched : superBuf.matched = false) :
    dropMatched ch = (ch, []) := by
  simp [dropMatched, superbufDequeueInternal, shape, unmatched]

theorem dropMatchedAbove_ends (limit : Nat) (matchedFirst : MatchedFirst ch) :
    ∃ rounds, (dropMatchedAbove limit rounds ch).1.queue.matchCnt ≤ limit := by
  generalize measure : ch.queue.matchCnt = count
  induction count generalizing ch with
  | zero => exact ⟨0, by simp [dropMatchedAbove, measure]⟩
  | succ count inductionHypothesis =>
    by_cases above : limit < ch.queue.matchCnt
    · obtain ⟨superBuf, rest, shape, matched⟩ := matchedFirst.head_matched (by omega)
      obtain ⟨_, counted, drops⟩ := dropMatched_of_head shape matched
      obtain ⟨rounds, ended⟩ :=
        inductionHypothesis (drops.matchedFirst matchedFirst) (by omega)
      refine ⟨rounds + 1, ?_⟩
      simpa [dropMatchedAbove, above] using ended
    · exact ⟨0, by simpa [dropMatchedAbove] using above⟩

theorem dropMatchedAbove_stuck (limit rounds : Nat)
    (shape : ch.queue.que = superBuf :: rest) (unmatched : superBuf.matched = false) :
    dropMatchedAbove limit rounds ch = (ch, []) := by
  have nothing := dropMatched_of_unmatched shape unmatched
  induction rounds with
  | zero => rfl
  | succ rounds inductionHypothesis => simp [dropMatchedAbove, nothing, inductionHypothesis]

/-! ## Runs in which completed superbufs are the oldest -/

/-- `CompletesOldest`, evaluated. -/
def completesOldest (info : BufInfo) (bufSIdx : Nat) (ch : Channel) : Bool :=
  match ch.queue.que.find? (stopsScan ch.queue info bufSIdx) with
  | none => true
  | some superBuf =>
    !(superBuf.insertBuf bufSIdx info).matched ||
      match ch.queue.que.find? fun current => !current.matched with
      | none => true
      | some first => first == superBuf || first.frameIdx < info.frameIdx

theorem completesOldest_iff :
    completesOldest info bufSIdx ch = true ↔
      CompletesOldest info bufSIdx ch := by
  unfold completesOldest CompletesOldest
  cases ch.queue.que.find? (stopsScan ch.queue info bufSIdx) with
  | none => simp
  | some superBuf =>
    cases ch.queue.que.find? (fun current => !current.matched) with
    | none => simp
    | some first =>
      cases completed : (superBuf.insertBuf bufSIdx info).matched <;>
        simp [completed]

/--
Under low priority, a buffer that completes a superbuf must find that the
first unmatched superbuf is the completed one or has a smaller frame id.
-/
def oldestCompleted (ch : Channel) : SuperbufOp → Bool
  | .compAndEnqueue _ info =>
    match ch.queue.bundledStreams.findIdx? fun stream =>
        info.streamId == stream with
    | none => true
    | some bufSIdx =>
      match handleMetadata ch info with
      | none => true
      | some (handled, _) =>
        info.frameIdx == 0 || isStale info handled || ch.queue.attr.priority != .low ||
          completesOldest info bufSIdx handled
  | _ => true

theorem Compares.completesOldest {memory : Bool} {handled : Channel}
    {flushed : List ChannelOutput} (compared : Compares info bufSIdx ch handled flushed)
    (met : oldestCompleted ch (.compAndEnqueue memory info) = true)
    (low : ch.queue.attr.priority = .low) :
    CompletesOldest info bufSIdx handled := by
  have located := compared.arrives
  unfold Arrives at located
  rw [← completesOldest_iff]
  simpa [oldestCompleted, located, compared.metadata, compared.frameIdx,
    compared.fresh, low] using met

/-- What a bundle of either priority keeps along such runs. -/
structure OverflowInvariant (ch : Channel) : Prop where
  wellFormed : WellFormed ch
  matchedFirst : MatchedFirst ch
  ascending : ch.queue.attr.priority ≠ .low → Ascending ch

theorem superbufStep_overflowInvariant {op : SuperbufOp}
    (met : oldestCompleted ch op = true) (invariant : OverflowInvariant ch) :
    OverflowInvariant (superbufStep ch op).1 := by
  have setup := superbufStep_sameSetup op invariant.wellFormed
  by_cases low : ch.queue.attr.priority = .low
  · have kept : WellFormed (superbufStep ch op).1 ∧ MatchedFirst (superbufStep ch op).1 := by
      refine superbufStep_preserves (fun current => WellFormed current ∧ MatchedFirst current) ch op
        ?_ ?_ ⟨invariant.wellFormed, invariant.matchedFirst⟩
      · rintro dropped before after drops ⟨wellFormed, matchedFirst⟩
        exact ⟨drops.wellFormed wellFormed, drops.matchedFirst matchedFirst⟩
      · rintro memory info bufSIdx handled flushed rfl compared ⟨wellFormed, matchedFirst⟩
        have outcome := compare_case memory info bufSIdx wellFormed.distinct
        exact ⟨ outcome.wellFormed compared.stream compared.frameIdx wellFormed,
          outcome.matchedFirst wellFormed (compared.completesOldest met low) matchedFirst⟩
    refine ⟨kept.1, kept.2, fun notLow => ?_⟩
    rw [setup.attr] at notLow
    exact absurd low notLow
  · have kept : OverflowInvariant (superbufStep ch op).1 ∧
          (superbufStep ch op).1.queue.attr.priority ≠ .low := by
      refine superbufStep_preserves (fun current => OverflowInvariant current ∧
          current.queue.attr.priority ≠ .low) ch op
        ?_ ?_ ⟨invariant, low⟩
      · rintro dropped before after drops ⟨held, notLow⟩
        exact ⟨⟨drops.wellFormed held.wellFormed, drops.matchedFirst held.matchedFirst,
            fun _ => drops.ascends (held.ascending notLow)⟩,
          by rw [drops.attr]; exact notLow⟩
      · rintro memory info bufSIdx handled flushed rfl compared ⟨held, notLow⟩
        have outcome := compare_case memory info bufSIdx held.wellFormed.distinct
        have ascending := held.ascending notLow
        exact ⟨⟨ outcome.wellFormed compared.stream compared.frameIdx held.wellFormed,
            outcome.matchedFirst held.wellFormed
              (ascending.completesOldest info bufSIdx) held.matchedFirst,
            fun _ => outcome.ascends ascending⟩,
          by rw [outcome.sameSetup.attr]; exact notLow⟩
    exact kept.1

/-! ## Termination -/

/-- The head is matched when counted, and both loops come to an end. -/
structure LoopsEnd (ch : Channel) : Prop where
  overflowHead : ch.queue.attr.waterMark.toNat < ch.queue.matchCnt → ∃ superBuf rest,
        ch.queue.que = superBuf :: rest ∧ superBuf.matched = true ∧
          (dropMatched ch).1.queue.que = rest
  skipHead : ch.queue.attr.lookBack.toNat < ch.queue.matchCnt → ∃ superBuf rest,
        ch.queue.que = superBuf :: rest ∧ superBuf.matched = true ∧
          (dropMatched ch).1.queue.que = rest
  overflow : ch.queue.attr.notifyMode ≠ .continuous → ∃ rounds,
        (superbufBufdoneOverflow rounds ch).1.queue.matchCnt ≤ ch.queue.attr.waterMark.toNat
  skip : ch.queue.attr.notifyMode ≠ .continuous → ∃ rounds,
        (superbufSkip rounds ch).1.queue.matchCnt ≤ ch.queue.attr.lookBack.toNat

theorem MatchedFirst.loopsEnd (matchedFirst : MatchedFirst ch) :
    LoopsEnd ch := by
  have head : ∀ limit, limit < ch.queue.matchCnt → ∃ superBuf rest,
          ch.queue.que = superBuf :: rest ∧ superBuf.matched = true ∧
            (dropMatched ch).1.queue.que = rest := by
    intro limit above
    obtain ⟨superBuf, rest, shape, matched⟩ := matchedFirst.head_matched (by omega)
    exact ⟨superBuf, rest, shape, matched, (dropMatched_of_head shape matched).1⟩
  refine ⟨head _, head _, ?_, ?_⟩
  · intro burst
    obtain ⟨rounds, ended⟩ :=
      dropMatchedAbove_ends ch.queue.attr.waterMark.toNat matchedFirst
    exact ⟨rounds, by simpa [superbufBufdoneOverflow, burst] using ended⟩
  · intro burst
    obtain ⟨rounds, ended⟩ :=
      dropMatchedAbove_ends ch.queue.attr.lookBack.toNat matchedFirst
    exact ⟨rounds, by simpa [superbufSkip, burst] using ended⟩

/--
In every run in which completed superbufs are the oldest, the loops of
overflow and skip end in every state reached.
-/
theorem superbufRun_loopsEnd {ch final : Channel} {ops : List SuperbufOp} {log : List ChannelOutput}
    (fresh : ch.Fresh)
    (guarded : LabelledRun.Guarded (fun state op => some (superbufStep state op))
        (fun state _ op => oldestCompleted state op = true) ch [] ops)
    (ran : superbufRun ch ops = some (final, log)) :
    LoopsEnd final := by
  have start : OverflowInvariant ch :=
    ⟨fresh.wellFormed, fresh.matchedFirst, fun notLow => (fresh.normalInvariant notLow).ascending⟩
  have invariant : OverflowInvariant final := by
    refine LabelledRun.stateInvariant_of_guarded OverflowInvariant guarded ran start ?_
    intro state past op next emitted held met stepped
    have result : superbufStep state op = (next, emitted) := by
      simpa using stepped
    have kept := superbufStep_overflowInvariant met held
    rw [result] at kept
    exact kept
  exact invariant.matchedFirst.loopsEnd

/-! ## A bundle of three streams with low priority -/

/-- A metadata stream and two image streams. -/
def threeStreamTypes : List CamStreamType :=
  [.metadata, .preview, .snapshot]

/-- A metadata buffer without any of the entries that the bundle reads. -/
def plainMetadata : Metadata where
  prepSnapshotDone := none
  goodFrameIdxRange := none
  cropData := none
  bufDivertFrameId := none

/-- The buffer of stream `index` for a frame. -/
def threeStreamBuf (metadata : Metadata) (index frame : Nat) : BufInfo where
  streamId := index + 1
  frameIdx := frame
  buf := {
    handle := 3 * frame + index
    streamType := threeStreamTypes.getD index .default
    buffer := if index = 0 then some metadata else none }

/-- Attributes of a burst bundle with low priority. -/
def lowAttr : ChannelAttr where
  notifyMode := .burst
  waterMark := 0
  lookBack := 0
  postFrameSkip := 0
  maxUnmatchedFrames := 3
  priority := .low

/-- The arrival of a buffer of stream `index` for a frame. -/
def arrival (index frame : Nat) : SuperbufOp :=
  .compAndEnqueue true (threeStreamBuf plainMetadata index frame)

/-- Image frames that join the next metadata frame in order. -/
theorem superbufRun_loopsEnd_inOrder : ((superbufRun (startedChannel threeStreamTypes lowAttr)
        [arrival 0 4, arrival 1 3, arrival 2 4, arrival 1 5]).map
          fun (final, _) => final.queue.que.map SuperbufNode.matched) =
        some [true, false] ∧
      ∃ final log, superbufRun (startedChannel threeStreamTypes lowAttr)
            [arrival 0 4, arrival 1 3, arrival 2 4, arrival 1 5] =
          some (final, log) ∧
        LoopsEnd final := by
  refine ⟨by decide, ?_⟩
  obtain ⟨final, log, ran⟩ :=
    superbufRun_total (startedChannel threeStreamTypes lowAttr)
      [arrival 0 4, arrival 1 3, arrival 2 4, arrival 1 5]
  exact ⟨final, log, ran, superbufRun_loopsEnd (startedChannel_fresh _ _) (by decide) ran⟩

/-- The frame ids of every stream increase strictly. -/
def IncreasingPerStream (ops : List SuperbufOp) : Prop :=
  (ops.filterMap fun op =>
      match op with
      | .compAndEnqueue _ info => some info
      | _ => none).Pairwise
    fun earlier later =>
      earlier.streamId = later.streamId → earlier.frameIdx < later.frameIdx

/-- Two image frames wait; later ones complete the metadata frame behind. -/
def overtakingOps : List SuperbufOp :=
  [arrival 1 5, arrival 2 3, arrival 0 7, arrival 1 6, arrival 2 4]

/--
After these buffers one superbuf is matched but the head is not, and the loop
of overflow goes round without end.
-/
theorem superbufRun_overflow_spins : (startedChannel threeStreamTypes lowAttr).Fresh ∧
      IncreasingPerStream overtakingOps ∧
      ∃ final log, superbufRun (startedChannel threeStreamTypes lowAttr)
            overtakingOps = some (final, log) ∧
        final.queue.attr.notifyMode ≠ .continuous ∧
        (∀ rounds, final.queue.attr.waterMark.toNat <
            (superbufBufdoneOverflow rounds final).1.queue.matchCnt) ∧
        ¬ LoopsEnd final := by
  refine ⟨startedChannel_fresh _ _, by unfold IncreasingPerStream; decide, ?_⟩
  obtain ⟨final, log, ran⟩ :=
    superbufRun_total (startedChannel threeStreamTypes lowAttr) overtakingOps
  have facts : ((superbufRun (startedChannel threeStreamTypes lowAttr)
          overtakingOps).map fun (final, _) =>
            (final.queue.que.map SuperbufNode.matched, final.queue.matchCnt, final.queue.attr)) =
        some ([false, true], 1, lowAttr) := by
    decide
  simp only [ran, Option.map_some, Option.some.injEq, Prod.mk.injEq] at facts
  obtain ⟨flags, counted, attr⟩ := facts
  have stuck : ∀ rounds, superbufBufdoneOverflow rounds final = (final, []) := by
    intro rounds
    cases shape : final.queue.que with
    | nil => simp [shape] at flags
    | cons superBuf rest =>
      have unmatched : superBuf.matched = false := by
        simp only [shape, List.map_cons, List.cons.injEq] at flags
        exact flags.1
      unfold superbufBufdoneOverflow
      rw [if_neg (by simp [attr, lowAttr])]
      exact dropMatchedAbove_stuck _ rounds shape unmatched
  have burst : final.queue.attr.notifyMode ≠ .continuous := by
    simp [attr, lowAttr]
  have above : ∀ rounds, final.queue.attr.waterMark.toNat <
          (superbufBufdoneOverflow rounds final).1.queue.matchCnt := by
    intro rounds
    rw [stuck rounds, counted, attr]
    decide
  refine ⟨final, log, ran, burst, above, ?_⟩
  intro ends
  obtain ⟨rounds, ended⟩ := ends.overflow burst
  have more := above rounds
  omega

end AnglerHal.Superbuf
