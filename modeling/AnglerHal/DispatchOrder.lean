import AnglerHal.SuperbufSpacing

namespace AnglerHal.Superbuf

/-!
# The order in which the command thread dispatches

Runs of `processStreamBuf` over any commands.  Whatever the commands are, the
superbufs are matched and dequeued in the order of their frames, and each one
holds a buffer of every bundled stream.  They are `post_frame_skip` frames
apart while the sum that sets the expected frame id does not wrap and no
command lowers the expected id (`keepsSpacing`).
-/

/-! ## What a run shows -/

/-- The buffers that the commands deliver, in order. -/
def arrivals (commands : List (List CallbackMemory × Command)) : List BufInfo :=
  commands.filterMap fun (_, command) =>
    match command with
    | .dataCb _ info => some info
    | _ => none

/-- The superbufs that were completed, in order. -/
def matchedSuperbufs (outputs : List CmdOutput) : List SuperbufNode :=
  outputs.filterMap fun output =>
    match output with
    | .matched superBuf => some superBuf
    | _ => none

/-- The superbufs that the dispatch loop dequeued, in order. -/
def dequeuedSuperbufs (outputs : List CmdOutput) : List SuperbufNode :=
  outputs.filterMap fun output =>
    match output with
    | .dequeued superBuf => some superBuf
    | _ => none

/-- The superbufs sent to the callback thread, in order. -/
def dispatchedSuperbufs (outputs : List CmdOutput) : List SuperbufNode :=
  outputs.filterMap fun output =>
    match output with
    | .dispatched superBuf _ _ => some superBuf
    | _ => none

theorem matchedSuperbufs_append (first second : List CmdOutput) :
    matchedSuperbufs (first ++ second) = matchedSuperbufs first ++ matchedSuperbufs second :=
  List.filterMap_append

theorem dequeuedSuperbufs_append (first second : List CmdOutput) :
    dequeuedSuperbufs (first ++ second) = dequeuedSuperbufs first ++ dequeuedSuperbufs second :=
  List.filterMap_append

theorem dispatchedSuperbufs_append (first second : List CmdOutput) :
    dispatchedSuperbufs (first ++ second) =
      dispatchedSuperbufs first ++ dispatchedSuperbufs second :=
  List.filterMap_append

theorem arrivals_dataCb (past : List (List CallbackMemory × Command))
    (memory : List CallbackMemory) (room : Bool) (info : BufInfo) :
    arrivals (past ++ [(memory, Command.dataCb room info)]) = arrivals past ++ [info] :=
  List.filterMap_append

variable {command : Command} {thread start final : CmdThread} {streams : List Nat}
  {past commands : List (List CallbackMemory × Command)}
  {matched dequeued : List SuperbufNode} {skip : Nat} {outputs : List CmdOutput}
  {entry : List CallbackMemory × Command}

theorem arrivals_other (past : List (List CallbackMemory × Command)) (memory : List CallbackMemory)
    (other : ∀ room info, command ≠ .dataCb room info) :
    arrivals (past ++ [(memory, command)]) = arrivals past := by
  have none : arrivals [(memory, command)] = [] := by
    cases command with
    | dataCb room info => exact absurd rfl (other room info)
    | _ => rfl
  unfold arrivals at none ⊢
  rw [List.filterMap_append, none, List.append_nil]

/-- Outputs that mark no superbuf as matched, dequeued or dispatched. -/
structure QuietOutputs (outputs : List CmdOutput) : Prop where
  matched : matchedSuperbufs outputs = []
  dequeued : dequeuedSuperbufs outputs = []
  dispatched : dispatchedSuperbufs outputs = []

theorem quietOutputs_channel (outputs : List ChannelOutput) :
    QuietOutputs (outputs.map CmdOutput.channel) := by
  constructor <;>
    simp [matchedSuperbufs, dequeuedSuperbufs, dispatchedSuperbufs, List.filterMap_map]

theorem quietOutputs_nil : QuietOutputs [] :=
  ⟨rfl, rfl, rfl⟩

/-! ## Parts of a command that match nothing -/

/--
A part of the command's handling that keeps the order, completes no superbuf
and dispatches only what it dequeued.
-/
structure KeepsOrder (before : CmdThread) (result : CmdThread × List CmdOutput) : Prop where
  order : ∀ {streams seen matched dequeued},
      OrderInvariant streams seen matched dequeued before.ch → OrderInvariant streams seen matched
          (dequeued ++ dequeuedSuperbufs result.2) result.1.ch
  matched : matchedSuperbufs result.2 = []
  dispatched : (dispatchedSuperbufs result.2).Sublist (dequeuedSuperbufs result.2)

namespace KeepsOrder

theorem trans {start middle final : CmdThread} {first second : List CmdOutput}
    (earlier : KeepsOrder start (middle, first))
    (later : KeepsOrder middle (final, second)) :
    KeepsOrder start (final, first ++ second) where
  order := by
    intro streams seen matched dequeued invariant
    have result := later.order (earlier.order invariant)
    rw [List.append_assoc, ← dequeuedSuperbufs_append] at result
    exact result
  matched := by
    rw [matchedSuperbufs_append, earlier.matched, later.matched]
    rfl
  dispatched := by
    rw [dispatchedSuperbufs_append, dequeuedSuperbufs_append]
    exact earlier.dispatched.append later.dispatched

theorem of_drops {before after : CmdThread} {outputs : List CmdOutput} {dropped : List SuperbufNode}
    (drops : DropsFront dropped before.ch after.ch)
    (quiet : QuietOutputs outputs) :
    KeepsOrder before (after, outputs) where
  order := by
    intro streams seen matched dequeued invariant
    simpa [quiet.dequeued] using invariant.of_drops drops
  matched := quiet.matched
  dispatched := by
    simp [quiet.dispatched]

end KeepsOrder

theorem CmdThread.continueWith_keepsOrder {result : Channel × List ChannelOutput}
    {dropped : List SuperbufNode} (drops : DropsFront dropped thread.ch result.1) :
    KeepsOrder thread (thread.continueWith result) :=
  .of_drops drops (quietOutputs_channel result.2)

theorem controlZslSnapshot_keeps (thread : CmdThread) :
    KeepsOrder thread (controlZslSnapshot thread) ∧
      KeepsExpectation thread.ch (controlZslSnapshot thread).1.ch := by
  unfold controlZslSnapshot
  split
  · exact ⟨.of_drops (.of_same rfl rfl rfl rfl rfl rfl rfl) ⟨rfl, rfl, rfl⟩,
      SameExpectation.keeps ⟨rfl, rfl, rfl, rfl⟩⟩
  · split
    · exact ⟨ .of_drops (.of_same rfl rfl rfl rfl rfl rfl rfl) ⟨rfl, rfl, rfl⟩,
        Nat.le_refl _, rfl, rfl, fun _ => rfl⟩
    · exact ⟨.of_drops (.refl thread.ch) quietOutputs_nil,
        SameExpectation.keeps ⟨rfl, rfl, rfl, rfl⟩⟩

theorem countDispatched_keeps (thread : CmdThread) :
    DropsFront [] thread.ch (countDispatched thread).1.ch ∧
      KeepsExpectation thread.ch (countDispatched thread).1.ch ∧
      QuietOutputs (countDispatched thread).2.2 := by
  unfold countDispatched
  dsimp only
  split
  · exact ⟨.of_same rfl rfl rfl rfl rfl rfl rfl,
      ⟨Nat.le_refl _, rfl, rfl, fun _ => rfl⟩, rfl, rfl, rfl⟩
  · exact ⟨.of_same rfl rfl rfl rfl rfl rfl rfl,
      SameExpectation.keeps ⟨rfl, rfl, rfl, rfl⟩, rfl, rfl, rfl⟩

theorem dispatchSuperbuf_ch (memory : CallbackMemory) (bReady : Bool) (superBuf : SuperbufNode)
    (thread : CmdThread) :
    (dispatchSuperbuf memory bReady superBuf thread).1.ch = thread.ch := by
  unfold dispatchSuperbuf
  cases thread.superBufNotifyCb <;> cases memory <;> rfl

theorem dispatchSuperbuf_outputs (memory : CallbackMemory) (bReady : Bool) (superBuf : SuperbufNode)
    (thread : CmdThread) :
    matchedSuperbufs (dispatchSuperbuf memory bReady superBuf thread).2 = [] ∧ dequeuedSuperbufs
        (dispatchSuperbuf memory bReady superBuf thread).2 = [] ∧
      (dispatchedSuperbufs (dispatchSuperbuf memory bReady superBuf thread).2).Sublist
          [superBuf] := by
  have quiet := quietOutputs_channel (superBuf.bufs.map ChannelOutput.qbuf)
  simp only [List.map_map, Function.comp_def] at quiet
  have nothing : (dispatchedSuperbufs
      (superBuf.bufs.map fun buf => CmdOutput.channel (.qbuf buf))).Sublist [superBuf] := by
    rw [quiet.dispatched]
    exact List.nil_sublist _
  unfold dispatchSuperbuf
  cases thread.superBufNotifyCb with
  | false => exact ⟨quiet.matched, quiet.dequeued, nothing⟩
  | true =>
    cases memory with
    | sent => exact ⟨rfl, rfl, List.Sublist.refl _⟩
    | noNode => exact ⟨rfl, rfl, List.nil_sublist _⟩
    | noCommand => exact ⟨quiet.matched, quiet.dequeued, nothing⟩

/-- One round of the dispatch loop after the dequeue. -/
structure SendsOne (superBuf : SuperbufNode) (before : CmdThread)
    (result : CmdThread × List CmdOutput) : Prop where
  same : DropsFront [] before.ch result.1.ch
  keeps : KeepsExpectation before.ch result.1.ch
  matched : matchedSuperbufs result.2 = []
  dequeued : dequeuedSuperbufs result.2 = [superBuf]
  dispatched : (dispatchedSuperbufs result.2).Sublist [superBuf]

/-- The body of the dispatch loop sends the dequeued superbuf only. -/
theorem dispatchRound_sendsOne (notifyMode : NotifyMode) (memory : CallbackMemory)
    (superBuf : SuperbufNode) (thread : CmdThread) :
    SendsOne superBuf thread (dispatchRound notifyMode memory superBuf thread) := by
  have counts : ∀ (counted : CmdThread) (bReady : Bool) (outputs : List CmdOutput),
        DropsFront [] thread.ch counted.ch →
        KeepsExpectation thread.ch counted.ch →
        QuietOutputs outputs →
        SendsOne superBuf thread ((dispatchSuperbuf memory bReady superBuf counted).1,
            .dequeued superBuf :: outputs ++
              (dispatchSuperbuf memory bReady superBuf counted).2) := by
    intro counted bReady outputs same keeps quiet
    obtain ⟨noMatch, noDequeue, sent⟩ :=
      dispatchSuperbuf_outputs memory bReady superBuf counted
    have ch := dispatchSuperbuf_ch memory bReady superBuf counted
    refine ⟨by rw [ch]; exact same, by rw [ch]; exact keeps, ?_, ?_, ?_⟩
    · change matchedSuperbufs (outputs ++ (dispatchSuperbuf memory bReady superBuf counted).2) = []
      rw [matchedSuperbufs_append, quiet.matched, noMatch]
      rfl
    · change superBuf :: dequeuedSuperbufs
              (outputs ++ (dispatchSuperbuf memory bReady superBuf counted).2) =
          [superBuf]
      rw [dequeuedSuperbufs_append, quiet.dequeued, noDequeue]
      rfl
    · change (dispatchedSuperbufs (outputs ++
            (dispatchSuperbuf memory bReady superBuf counted).2)).Sublist _
      rw [dispatchedSuperbufs_append, quiet.dispatched, List.nil_append]
      exact sent
  unfold dispatchRound
  by_cases burst : notifyMode = .burst
  · obtain ⟨same, keeps, quiet⟩ := countDispatched_keeps thread
    simp only [burst, if_true]
    exact counts _ _ _ same keeps quiet
  · simp only [burst, if_false]
    exact counts thread false [] (.refl thread.ch)
      (SameExpectation.keeps ⟨rfl, rfl, rfl, rfl⟩) quietOutputs_nil

theorem dispatchLoop_keeps (notifyMode : NotifyMode) (rounds : Nat) (memory : List CallbackMemory)
    (thread : CmdThread) :
    KeepsOrder thread (dispatchLoop notifyMode rounds memory thread) ∧ KeepsExpectation thread.ch
        (dispatchLoop notifyMode rounds memory thread).1.ch := by
  have still : KeepsOrder thread (thread, []) ∧ KeepsExpectation thread.ch thread.ch :=
    ⟨.of_drops (.refl thread.ch) quietOutputs_nil, SameExpectation.keeps ⟨rfl, rfl, rfl, rfl⟩⟩
  induction rounds generalizing memory thread with
  | zero => exact still
  | succ rounds inductionHypothesis =>
    unfold dispatchLoop
    split
    · have unlinked := (superbufDequeueInternal_onlyNodes true thread.ch).sameExpectation
      rcases superbufDequeueInternal_cases true thread.ch with
          ⟨nothing, _⟩ | ⟨superBuf, rest, next, _, taken, isMatched, drops⟩
      · rw [nothing]
        exact still
      · rw [taken] at unlinked ⊢
        dsimp only at unlinked ⊢
        have round := dispatchRound_sendsOne notifyMode (memory.headD .sent) superBuf
            { thread with ch := next }
        have first : KeepsOrder thread (dispatchRound notifyMode (memory.headD .sent) superBuf
                { thread with ch := next }) := by
          refine ⟨?_, round.matched, ?_⟩
          · intro streams seen matched dequeued invariant
            rw [round.dequeued]
            exact (invariant.of_dequeue (isMatched rfl) drops).of_drops round.same
          · rw [round.dequeued]
            exact round.dispatched
        have others :=
          inductionHypothesis memory.tail (dispatchRound notifyMode (memory.headD .sent) superBuf
              { thread with ch := next }).1
            ⟨.of_drops (.refl _) quietOutputs_nil, SameExpectation.keeps ⟨rfl, rfl, rfl, rfl⟩⟩
        exact ⟨first.trans others.1, (unlinked.keeps.trans round.keeps).trans others.2⟩
    · exact still

theorem dispatchMatched_keeps (memory : List CallbackMemory) (thread : CmdThread) :
    KeepsOrder thread (dispatchMatched memory thread) ∧
      KeepsExpectation thread.ch (dispatchMatched memory thread).1.ch := by
  obtain ⟨control, controlKeeps⟩ := controlZslSnapshot_keeps thread
  have overflowDrops :=
    superbufBufdoneOverflow_drops (controlZslSnapshot thread).1.ch.queue.matchCnt
      (controlZslSnapshot thread).1.ch
  obtain ⟨dropped, drops, _⟩ := overflowDrops
  have overflow := CmdThread.continueWith_keepsOrder drops
  have overflowKeeps :=
    (superbufBufdoneOverflow_onlyNodes (controlZslSnapshot thread).1.ch.queue.matchCnt
      (controlZslSnapshot thread).1.ch).sameExpectation.keeps
  have dispatches :=
    dispatchLoop_keeps thread.ch.queue.attr.notifyMode ((controlZslSnapshot thread).1.continueWith
        (superbufBufdoneOverflow (controlZslSnapshot thread).1.ch.queue.matchCnt
          (controlZslSnapshot thread).1.ch)).1.ch.queue.que.length
      memory
      ((controlZslSnapshot thread).1.continueWith (superbufBufdoneOverflow
          (controlZslSnapshot thread).1.ch.queue.matchCnt
          (controlZslSnapshot thread).1.ch)).1
  exact ⟨(control.trans overflow).trans dispatches.1,
    (controlKeeps.trans overflowKeeps).trans dispatches.2⟩

/-! ## The commands -/

private theorem flush_keepsOrder {after : CmdThread} (same :
      DropsFront [] (superbufFlush .default thread.ch).1 after.ch) :
    KeepsOrder thread (after, (superbufFlush .default thread.ch).2.map CmdOutput.channel) := by
  obtain ⟨dropped, drops, _⟩ := superbufFlush_drops .default thread.ch
  exact .of_drops (drops.trans same) (quietOutputs_channel _)

private theorem clearForRequest_same (pendingRetroCnt : Nat) (ch : Channel) :
    DropsFront [] ch (clearForRequest pendingRetroCnt ch) :=
  .of_same rfl rfl rfl rfl rfl rfl rfl

theorem handleCommand_keepsOrder (thread : CmdThread) (command : Command)
    (other : ∀ memory info, command ≠ .dataCb memory info) :
    KeepsOrder thread (handleCommand thread command) := by
  cases command with
  | dataCb memory info => exact absurd rfl (other memory info)
  | reqDataCb numBufRequested numRetroBufRequested =>
    simp only [handleCommand, requestData]
    generalize (if numBufRequested = 0 ∨ numBufRequested < numRetroBufRequested then
      numBufRequested else numRetroBufRequested) = pendingRetroCnt
    obtain ⟨dropped, drops, _⟩ :=
      superbufSkip_drops thread.ch.queue.matchCnt (clearForRequest pendingRetroCnt thread.ch)
    exact .of_drops ((clearForRequest_same pendingRetroCnt thread.ch).trans drops)
      (quietOutputs_channel _)
  | startZsl => exact .of_drops (.refl thread.ch) ⟨rfl, rfl, rfl⟩
  | stopZsl => exact .of_drops (.refl thread.ch) ⟨rfl, rfl, rfl⟩
  | configNotify notifyMode =>
    refine ⟨?_, rfl, List.Sublist.refl _⟩
    intro streams seen matched dequeued invariant
    have sorted := invariant.ascending
    have formed := invariant.wellFormed
    have inFront := invariant.matchedFirst
    simp only [dequeuedSuperbufs, handleCommand, List.filterMap_nil, List.append_nil]
    exact { invariant with
      wellFormed := ⟨formed.distinct, formed.allocated, formed.nodes⟩
      matchedFirst := ⟨inFront.ordered, inFront.matchCnt⟩
      ascending := ⟨sorted.priority, sorted.ascending, sorted.nomatchFrameId, sorted.sameFrame⟩ }
  | flushQueue frameIdx =>
    obtain ⟨dropped, drops, _⟩ :=
      superbufFlush_drops .default (thread.ch.setExpectedFrameId frameIdx)
    exact .of_drops ((DropsFront.setExpectedFrameId thread.ch frameIdx).trans drops)
      (quietOutputs_channel _)
  | bracketing start => exact flush_keepsOrder (.of_same rfl rfl rfl rfl rfl rfl rfl)
  | flashBracketing start => exact flush_keepsOrder (.of_same rfl rfl rfl rfl rfl rfl rfl)
  | zoom1x start => exact flush_keepsOrder (.of_same rfl rfl rfl rfl rfl rfl rfl)
  | captureSetting frameConfig => exact flush_keepsOrder (.of_same rfl rfl rfl rfl rfl rfl rfl)

theorem processStreamBuf_keepsOrder (memory : List CallbackMemory) (thread : CmdThread)
    (command : Command) (other : ∀ room info, command ≠ .dataCb room info) :
    KeepsOrder thread (processStreamBuf memory command thread) := by
  have handled := handleCommand_keepsOrder thread command other
  have dispatches := (dispatchMatched_keeps memory (handleCommand thread command).1).1
  unfold processStreamBuf
  dsimp only
  split
  · exact handled
  · exact handled.trans dispatches

private theorem dataCb_outputs (thread : CmdThread) (room : Bool) (info : BufInfo) :
    matchedSuperbufs (handleCommand thread (.dataCb room info)).2 = newlyMatched thread.ch
          (superbufCompAndEnqueue room info thread.ch).1 ∧
      dequeuedSuperbufs (handleCommand thread (.dataCb room info)).2 = [] ∧
      dispatchedSuperbufs (handleCommand thread (.dataCb room info)).2 = [] := by
  simp [handleCommand, CmdThread.continueWith, matchedSuperbufs,
    dequeuedSuperbufs, dispatchedSuperbufs, List.filterMap_map]

private theorem processStreamBuf_dataCb (memory : List CallbackMemory) (thread : CmdThread)
    (room : Bool) (info : BufInfo) :
    (processStreamBuf memory (.dataCb room info) thread).2 =
      (handleCommand thread (.dataCb room info)).2 ++ (dispatchMatched memory
          (handleCommand thread (.dataCb room info)).1).2 :=
  rfl

private theorem dataCb_matched (memory : List CallbackMemory) (thread : CmdThread) (room : Bool)
    (info : BufInfo) :
    matchedSuperbufs (processStreamBuf memory (.dataCb room info) thread).2 = newlyMatched thread.ch
        (superbufCompAndEnqueue room info thread.ch).1 := by
  have newly := (dataCb_outputs thread room info).1
  have noMatch :=
    (dispatchMatched_keeps memory (handleCommand thread (.dataCb room info)).1).1.matched
  rw [processStreamBuf_dataCb, matchedSuperbufs_append, newly, noMatch, List.append_nil]

theorem processStreamBuf_order (memory : List CallbackMemory) (command : Command)
    (invariant : OrderInvariant streams (arrivals past) matched dequeued thread.ch)
    (increases : ∀ room info, command = .dataCb room info → ∀ earlier ∈ arrivals past,
          earlier.streamId = info.streamId → earlier.frameIdx < info.frameIdx) :
    OrderInvariant streams (arrivals (past ++ [(memory, command)])) (matched ++
          matchedSuperbufs (processStreamBuf memory command thread).2)
        (dequeued ++ dequeuedSuperbufs (processStreamBuf memory command thread).2)
        (processStreamBuf memory command thread).1.ch ∧
      (dispatchedSuperbufs (processStreamBuf memory command thread).2).Sublist (dequeuedSuperbufs
            (processStreamBuf memory command thread).2) := by
  by_cases arrival : ∃ room info, command = .dataCb room info
  · obtain ⟨room, info, rfl⟩ := arrival
    obtain ⟨_, noDequeue, noDispatch⟩ := dataCb_outputs thread room info
    have dispatches := (dispatchMatched_keeps memory (handleCommand thread (.dataCb room info)).1).1
    have arrived := superbufCompAndEnqueue_order room invariant (increases room info rfl)
    have result := dispatches.order arrived
    have dequeuedThen : dequeuedSuperbufs (processStreamBuf memory (.dataCb room info) thread).2 =
          dequeuedSuperbufs (dispatchMatched memory
              (handleCommand thread (.dataCb room info)).1).2 := by
      rw [processStreamBuf_dataCb, dequeuedSuperbufs_append, noDequeue, List.nil_append]
    have dispatchedThen : dispatchedSuperbufs
            (processStreamBuf memory (.dataCb room info) thread).2 =
          dispatchedSuperbufs (dispatchMatched memory
              (handleCommand thread (.dataCb room info)).1).2 := by
      rw [processStreamBuf_dataCb, dispatchedSuperbufs_append, noDispatch, List.nil_append]
    rw [arrivals_dataCb, dataCb_matched, dequeuedThen, dispatchedThen]
    exact ⟨result, dispatches.dispatched⟩
  · have other : ∀ room info, command ≠ .dataCb room info :=
      fun room info same => arrival ⟨room, info, same⟩
    have keeps := processStreamBuf_keepsOrder memory thread command other
    rw [arrivals_other past memory other, keeps.matched, List.append_nil]
    exact ⟨keeps.order invariant, keeps.dispatched⟩

/-! ## The expected frame id -/

/--
The command leaves no way to match a superbuf too early: the sum
`frame_idx + post_frame_skip` of an arriving buffer fits into a `uint32_t`, and
so does the expected id moved on while a bracketed or zoomed frame is awaited;
a queue flush does not lower the expected id; flash bracketing, which sets the
expected id by itself, is not switched on.
-/
def keepsSpacing (thread : CmdThread) : Command → Bool
  | .dataCb _ info =>
    decide (info.frameIdx + thread.ch.queue.attr.postFrameSkip.toNat < uint32Size) &&
      (!waitsForFutureFrame thread.ch || decide (thread.ch.queue.expectedFrameId +
          maxFutureFrameOffset < uint32Size))
  | .flushQueue frameIdx => decide (thread.ch.queue.expectedFrameId ≤ frameIdx % uint32Size)
  | .flashBracketing start => !start
  | _ => true

theorem handleCommand_keepsExpectation
    (spacing : SpacingInvariant skip matched thread.ch)
    (other : ∀ memory info, command ≠ .dataCb memory info)
    (met : keepsSpacing thread command = true) :
    KeepsExpectation thread.ch (handleCommand thread command).1.ch := by
  have flushed : SameExpectation thread.ch (superbufFlush .default thread.ch).1 :=
    (superbufFlush_onlyNodes .default thread.ch).sameExpectation
  cases command with
  | dataCb memory info => exact absurd rfl (other memory info)
  | reqDataCb numBufRequested numRetroBufRequested =>
    simp only [handleCommand, requestData]
    generalize (if numBufRequested = 0 ∨ numBufRequested < numRetroBufRequested then
      numBufRequested else numRetroBufRequested) = pendingRetroCnt
    have cleared : KeepsExpectation thread.ch (clearForRequest pendingRetroCnt thread.ch) := by
      refine ⟨Nat.le_refl _, rfl, rfl, ?_⟩
      intro off
      simp [clearForRequest, off]
    exact cleared.trans (superbufSkip_onlyNodes _ _).sameExpectation.keeps
  | startZsl => exact SameExpectation.keeps ⟨rfl, rfl, rfl, rfl⟩
  | stopZsl => exact SameExpectation.keeps ⟨rfl, rfl, rfl, rfl⟩
  | configNotify notifyMode => exact SameExpectation.keeps ⟨rfl, rfl, rfl, rfl⟩
  | flushQueue frameIdx =>
    have raised : KeepsExpectation thread.ch (thread.ch.setExpectedFrameId frameIdx) :=
      ⟨of_decide_eq_true met, rfl, rfl, id⟩
    exact raised.trans (superbufFlush_onlyNodes .default _).sameExpectation.keeps
  | bracketing start => exact flushed.keeps.trans (SameExpectation.keeps ⟨rfl, rfl, rfl, rfl⟩)
  | flashBracketing start =>
    have off : start = false := by
      simpa [keepsSpacing] using met
    refine ⟨flushed.keeps.expectedFrameId, flushed.postFrameSkip, ?_, flushed.keeps.needLEDFlash⟩
    rw [spacing.noFlash]
    exact off
  | zoom1x start => exact flushed.keeps.trans (SameExpectation.keeps ⟨rfl, rfl, rfl, rfl⟩)
  | captureSetting frameConfig =>
    exact flushed.keeps.trans (SameExpectation.keeps ⟨rfl, rfl, rfl, rfl⟩)

/-- The content of a buffer, where it is metadata, is plain. -/
def BufInfo.Plain (info : BufInfo) : Prop :=
  ∀ metadata ∈ info.buf.buffer, metadata.Plain

/-- The content of a buffer is decidably plain. -/
instance decidablePlainBuf (info : BufInfo) : Decidable info.Plain :=
  inferInstanceAs (Decidable (∀ metadata ∈ info.buf.buffer, metadata.Plain))

theorem processStreamBuf_spacing {seen : List BufInfo} (memory : List CallbackMemory)
    (order : OrderInvariant streams seen matched dequeued thread.ch)
    (spacing : SpacingInvariant skip matched thread.ch)
    (plain : ∀ room info, command = .dataCb room info → info.Plain)
    (met : keepsSpacing thread command = true) :
    SpacingInvariant skip (matched ++ matchedSuperbufs (processStreamBuf memory command thread).2)
      (processStreamBuf memory command thread).1.ch := by
  have dispatches := (dispatchMatched_keeps memory (handleCommand thread command).1).2
  by_cases arrival : ∃ room info, command = .dataCb room info
  · obtain ⟨room, info, rfl⟩ := arrival
    simp only [keepsSpacing, Bool.and_eq_true, Bool.or_eq_true,
      Bool.not_eq_true', decide_eq_true_eq, spacing.postFrameSkip] at met
    have arrived := superbufCompAndEnqueue_spacing room order spacing
        (fun metadata content => plain room info rfl metadata content)
        met.1 (fun waits => met.2.resolve_left (by simp [waits]))
    rw [dataCb_matched]
    exact arrived.of_keeps dispatches
  · have other : ∀ room info, command ≠ .dataCb room info :=
      fun room info same => arrival ⟨room, info, same⟩
    have nothing := (processStreamBuf_keepsOrder memory thread command other).matched
    have handled := handleCommand_keepsExpectation spacing other met
    rw [nothing, List.append_nil]
    unfold processStreamBuf
    dsimp only
    split
    · exact spacing.of_keeps handled
    · exact spacing.of_keeps (handled.trans dispatches)

/-! ## Whole runs -/

/-- The frame ids of every stream increase strictly along the commands. -/
def IncreasingArrivals (commands : List (List CallbackMemory × Command)) : Prop :=
  (arrivals commands).Pairwise fun earlier later =>
    earlier.streamId = later.streamId → earlier.frameIdx < later.frameIdx

/-- Frame ids can be compared along a list of commands. -/
instance decidableIncreasingArrivals (commands : List (List CallbackMemory × Command)) :
    Decidable (IncreasingArrivals commands) :=
  inferInstanceAs (Decidable (List.Pairwise _ _))

/-- Matched and dequeued superbufs in frame order, each of them whole. -/
structure DispatchesInOrder (streams : List Nat) (seen : List BufInfo)
    (outputs : List CmdOutput) : Prop where
  matchedAscend : (matchedSuperbufs outputs).Pairwise Precedes
  dequeuedAscend : (dequeuedSuperbufs outputs).Pairwise Precedes
  whole : ∀ superBuf ∈ dequeuedSuperbufs outputs, WholeSuperbuf streams seen superBuf
  dispatched : (dispatchedSuperbufs outputs).Sublist (dequeuedSuperbufs outputs)

/-- Matched superbufs, and so the dequeued ones, are `skip` frames apart. -/
structure DispatchesApart (skip : Nat) (outputs : List CmdOutput) : Prop where
  matched : (matchedSuperbufs outputs).Pairwise (ApartBy skip)
  dequeued : (dequeuedSuperbufs outputs).Pairwise (ApartBy skip)

/-- The order along a run, with the commands seen and the outputs given. -/
structure RunOrder (streams : List Nat) (past : List (List CallbackMemory × Command))
    (outputs : List CmdOutput)
    (thread : CmdThread) : Prop where
  order : OrderInvariant streams (arrivals past) (matchedSuperbufs outputs)
      (dequeuedSuperbufs outputs) thread.ch
  dispatched : (dispatchedSuperbufs outputs).Sublist (dequeuedSuperbufs outputs)

/-- The condition that the buffer of a command goes on in its stream. -/
def GoesOn (past : List (List CallbackMemory × Command)) (entry : List CallbackMemory × Command) :
    Prop :=
  ∀ room info, entry.2 = .dataCb room info → ∀ earlier ∈ arrivals past,
      earlier.streamId = info.streamId → earlier.frameIdx < info.frameIdx

theorem Channel.Fresh.orderInvariant {ch : Channel} (fresh : ch.Fresh)
    (priority : ch.queue.attr.priority ≠ .low) :
    OrderInvariant ch.queue.bundledStreams [] [] [] ch := by
  have normal := fresh.normalInvariant priority
  refine ⟨rfl, normal.wellFormed, normal.matchedFirst, normal.ascending,
    ?_, ?_, ?_, ?_, ?_, ?_, ?_, ?_⟩ <;> simp [fresh.que]

theorem processStreamBuf_runOrder {emitted : List CmdOutput} {next : CmdThread}
    (held : RunOrder streams past outputs thread) (goesOn : GoesOn past entry)
    (stepped : processStreamBuf entry.1 entry.2 thread = (next, emitted)) :
    RunOrder streams (past ++ [entry]) (outputs ++ emitted) next := by
  obtain ⟨memory, command⟩ := entry
  have kept := processStreamBuf_order memory command held.order goesOn
  rw [stepped] at kept
  refine ⟨?_, ?_⟩
  · rw [matchedSuperbufs_append, dequeuedSuperbufs_append]
    exact kept.1
  · rw [dispatchedSuperbufs_append, dequeuedSuperbufs_append]
    exact held.dispatched.append kept.2

theorem IncreasingArrivals.goesOn {earlier later : List (List CallbackMemory × Command)}
    (increasing : IncreasingArrivals commands)
    (shape : commands = earlier ++ entry :: later) :
    GoesOn earlier entry := by
  intro room info arrives old isOld sameStream
  obtain ⟨memory, command⟩ := entry
  dsimp only at arrives
  have split : arrivals commands = arrivals earlier ++ info :: arrivals later := by
    simp [shape, arrives, arrivals]
  unfold IncreasingArrivals at increasing
  rw [split, List.pairwise_append] at increasing
  exact increasing.2.2 old isOld info (by simp) sameStream

theorem cmdRun_runOrder (fresh : start.ch.Fresh)
    (priority : start.ch.queue.attr.priority ≠ .low)
    (increasing : IncreasingArrivals commands)
    (ran : cmdRun start commands = some (final, outputs)) :
    RunOrder start.ch.queue.bundledStreams commands outputs final := by
  have goesOn : LabelledRun.Guarded cmdStep
        (fun _ past entry => GoesOn past entry) start [] commands :=
    LabelledRun.guarded_of_events fun earlier entry later shape =>
      increasing.goesOn shape
  have kept := LabelledRun.invariant_of_guarded (fun thread past log =>
        RunOrder start.ch.queue.bundledStreams past log thread)
      [] goesOn ran ⟨fresh.orderInvariant priority, List.Sublist.refl _⟩
      (fun held met stepped =>
        processStreamBuf_runOrder held met (cmdStep_some stepped))
  simpa using kept

theorem cmdRun_spacing (fresh : start.ch.Fresh)
    (priority : start.ch.queue.attr.priority ≠ .low)
    (noFlash : start.ch.isFlashBracketingEnabled = false)
    (noLed : start.ch.needLEDFlash = false) (increasing : IncreasingArrivals commands)
    (plain : ∀ info ∈ arrivals commands, info.Plain)
    (guarded : LabelledRun.Guarded cmdStep
        (fun thread _ entry => keepsSpacing thread entry.2 = true)
        start [] commands)
    (ran : cmdRun start commands = some (final, outputs)) :
    SpacingInvariant start.ch.queue.attr.postFrameSkip.toNat
      (matchedSuperbufs outputs) final.ch := by
  have each : LabelledRun.Guarded cmdStep (fun _ past entry =>
          GoesOn past entry ∧ ∀ room info, entry.2 = .dataCb room info → info.Plain)
        start [] commands := by
    refine LabelledRun.guarded_of_events ?_
    intro earlier entry later shape
    refine ⟨increasing.goesOn shape, ?_⟩
    intro room info arrives
    refine plain info (List.mem_filterMap.mpr ⟨entry, by simp [shape], ?_⟩)
    simp [arrives]
  have kept := LabelledRun.invariant_of_guarded (fun thread past log =>
        RunOrder start.ch.queue.bundledStreams past log thread ∧
          SpacingInvariant start.ch.queue.attr.postFrameSkip.toNat (matchedSuperbufs log) thread.ch)
      [] (each.and guarded) ran
      ⟨⟨fresh.orderInvariant priority, List.Sublist.refl _⟩,
        noFlash, noLed, rfl, by simp [matchedSuperbufs],
        by simp [matchedSuperbufs]⟩
      (by
        intro thread past log entry next emitted held met stepped
        obtain ⟨order, spacing⟩ := held
        obtain ⟨⟨goesOn, plainBuf⟩, condition⟩ := met
        have result := cmdStep_some stepped
        have spaced := processStreamBuf_spacing entry.1 order.order spacing plainBuf condition
        rw [result] at spaced
        refine ⟨processStreamBuf_runOrder order goesOn result, ?_⟩
        rw [matchedSuperbufs_append]
        exact spaced)
  simpa using kept.2

theorem apart_of_selected {selected : List SuperbufNode}
    (ascend : matched.Pairwise Precedes) (apart : matched.Pairwise (ApartBy skip))
    (members : ∀ superBuf ∈ selected, superBuf ∈ matched)
    (selectedAscend : selected.Pairwise Precedes) :
    selected.Pairwise (ApartBy skip) := by
  refine selectedAscend.imp_of_mem ?_
  intro earlier later isEarlier isLater precedes
  obtain ⟨first, firstBound, rfl⟩ := List.mem_iff_getElem.mp (members earlier isEarlier)
  obtain ⟨second, secondBound, rfl⟩ := List.mem_iff_getElem.mp (members later isLater)
  unfold Precedes at precedes
  rcases Nat.lt_trichotomy first second with before | same | after
  · exact List.pairwise_iff_getElem.mp apart _ _ firstBound secondBound before
  · subst same
    omega
  · have contrary : matched[second].frameIdx < matched[first].frameIdx :=
      List.pairwise_iff_getElem.mp ascend _ _ secondBound firstBound after
    omega

/--
A bundle of normal priority whose streams deliver increasing frame ids and
plain metadata dispatches whole superbufs in frame order, whatever the other
commands are; they are `post_frame_skip` frames apart when every command of
the run meets `keepsSpacing`.
-/
theorem cmdRun_dispatchesInOrder {start final : CmdThread}
    {commands : List (List CallbackMemory × Command)} {outputs : List CmdOutput}
    (fresh : start.ch.Fresh) (priority : start.ch.queue.attr.priority = .normal)
    (noFlash : start.ch.isFlashBracketingEnabled = false)
    (noLed : start.ch.needLEDFlash = false) (increasing : IncreasingArrivals commands)
    (plain : ∀ info ∈ arrivals commands, info.Plain)
    (ran : cmdRun start commands = some (final, outputs)) :
    DispatchesInOrder start.ch.queue.bundledStreams (arrivals commands) outputs ∧
      (LabelledRun.Guarded cmdStep (fun thread _ entry => keepsSpacing thread entry.2 = true)
          start [] commands →
        DispatchesApart start.ch.queue.attr.postFrameSkip.toNat outputs) := by
  have notLow : start.ch.queue.attr.priority ≠ .low := by
    rw [priority]
    decide
  have held := cmdRun_runOrder fresh notLow increasing ran
  have order := held.order
  refine ⟨⟨order.matchedAscend, order.dequeuedAscend, ?_, held.dispatched⟩, ?_⟩
  · intro superBuf isDequeued
    exact order.whole superBuf (order.dequeuedMatched superBuf isDequeued)
  · intro guarded
    have spacing := cmdRun_spacing fresh notLow noFlash noLed increasing plain guarded ran
    exact ⟨spacing.apart, apart_of_selected order.matchedAscend spacing.apart
        order.dequeuedMatched order.dequeuedAscend⟩

/-! ## A bundle of two streams -/

/-- A continuous bundle of normal priority that skips five frames. -/
def skippingAttr : ChannelAttr where
  notifyMode := .continuous
  waterMark := 1
  lookBack := 1
  postFrameSkip := 5
  maxUnmatchedFrames := 3
  priority := .normal

/-- The command thread of a started bundle with a callback. -/
def startedThread (streamTypes : List CamStreamType) (attr : ChannelAttr) : CmdThread where
  ch := startedChannel streamTypes attr
  pendingCnt := 0
  pendingRetroCnt := 0
  manualZSLSnapshot := false
  startZSlSnapshotCalled := false
  unLockAEC := false
  superBufNotifyCb := true

/-- Metadata and preview buffer of a frame, in that order. -/
def bothStreams (frame : Nat) : List (List CallbackMemory × Command) :=
  [([], .dataCb true (threeStreamBuf plainMetadata 0 frame)),
    ([], .dataCb true (threeStreamBuf plainMetadata 1 frame))]

/-- The commands of the frames 3, 4 and 9; frame 4 is skipped. -/
def skippedFrame : List (List CallbackMemory × Command) :=
  bothStreams 3 ++ bothStreams 4 ++ bothStreams 9

/-- Frames 3 and 9 are dispatched whole and apart. -/
theorem cmdRun_dispatchesInOrder_skipped :
    ((cmdRun (startedThread [.metadata, .preview] skippingAttr)
        skippedFrame).map fun (_, outputs) =>
          (dequeuedSuperbufs outputs).map SuperbufNode.frameIdx) =
        some [3, 9] ∧
      ∃ final outputs, cmdRun (startedThread [.metadata, .preview] skippingAttr)
            skippedFrame = some (final, outputs) ∧
          DispatchesInOrder [1, 2] (arrivals skippedFrame) outputs ∧
          DispatchesApart 5 outputs := by
  refine ⟨by decide, _, _, rfl, ?_⟩
  have result :=
    @cmdRun_dispatchesInOrder (startedThread [.metadata, .preview] skippingAttr) _ skippedFrame _
      (startedChannel_fresh _ _) rfl rfl rfl (by decide) (by decide) rfl
  exact ⟨result.1, result.2 (by decide)⟩

/-- Both streams deliver the frames `2 ^ 32 - 3` and `2 ^ 32 - 2`. -/
def lastFrames : List (List CallbackMemory × Command) :=
  bothStreams 4294967293 ++ bothStreams 4294967294

/--
The sum that sets the expected frame id wraps to `2`, so the next frame is
not discarded and is dispatched one frame after its predecessor.
-/
theorem cmdRun_dispatchesTooEarly : (startedThread [.metadata, .preview] skippingAttr).ch.Fresh ∧
      IncreasingArrivals lastFrames ∧
      (∀ info ∈ arrivals lastFrames, info.Plain) ∧
      ∃ final outputs, cmdRun (startedThread [.metadata, .preview] skippingAttr)
            lastFrames = some (final, outputs) ∧
          (dequeuedSuperbufs outputs).map SuperbufNode.frameIdx = [4294967293, 4294967294] ∧
          ¬ DispatchesApart 5 outputs := by
  refine ⟨startedChannel_fresh _ _, by decide, by decide, _, _, rfl, by decide, ?_⟩
  intro apart
  have gap := apart.dequeued
  revert gap
  unfold ApartBy
  decide

end AnglerHal.Superbuf
