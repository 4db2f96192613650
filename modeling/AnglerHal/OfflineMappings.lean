import AnglerHal.ReprocessChannel
import AnglerHal.RingWindow

namespace AnglerHal.Channel

/-!
# Offline mappings stay paired

Input frame and metadata of a job are mapped one after the other and recorded
in two lists, from which completed jobs are removed in FIFO order.  If no call
maps only one of the two, and no call maps while `mNumBuffers` mappings are
still recorded, the lists stay in step and their indices stay distinct.
-/

/-! ## Guards -/

/-- The call queues its output buffer and goes on to the mappings. -/
def reachesMappings (env : ReprocessEnv) (frame : FwkInputData)
    (channel : ReprocessChannel) : Bool :=
  (queueOutput env frame { channel with nextJob := channel.nextJob + 1 }).2 == .noError

/-- The two mappings of a call succeed together or fail together. -/
def mapsBothOrNeither (env : ReprocessEnv) : Bool :=
  (env.mapInputRc == 0) == (env.mapMetaRc == 0)

/--
A call that maps maps both buffers or neither, and maps only while fewer than
`mNumBuffers` input frames are recorded as mapped.
-/
def mapsInStep (channel : ReprocessChannel) (_past : List ReprocessEvent) : ReprocessEvent → Prop
  | .doReprocessOffline env frame =>
    reachesMappings env frame channel = true → mapsBothOrNeither env = true ∧
        (env.mapInputRc = 0 → channel.mOfflineBuffers.length < channel.mNumBuffers)
  | .unmapOfflineBuffers _ => True

instance (channel : ReprocessChannel) (past : List ReprocessEvent) :
    (event : ReprocessEvent) → Decidable (mapsInStep channel past event)
  | .doReprocessOffline _ _ => inferInstanceAs (Decidable (_ → _))
  | .unmapOfflineBuffers _ => isTrue trivial

/-! ## The invariant -/

/-- The mappings of one type that were made, in order. -/
def mappedOf (type : MappingType) (log : List ReprocessOutput) : List OfflineBuffer :=
  log.filterMap fun
    | .mapBuf buffer => if buffer.type = type then some buffer else none
    | _ => none

/-- The mappings of one type that were undone, in order. -/
def unmappedOf (type : MappingType) (log : List ReprocessOutput) : List OfflineBuffer :=
  log.filterMap fun
    | .unmapBuf buffer => if buffer.type = type then some buffer else none
    | _ => none

/-- What the claim demands of a reached state and the calls made so far. -/
structure MappingsPaired (channel : ReprocessChannel) (log : List ReprocessOutput) : Prop where
  sameJobs : channel.mOfflineBuffers.map OfflineBuffer.job =
      channel.mOfflineMetaBuffers.map OfflineBuffer.job
  inputsOnce : mappedOf .offlineInputBuf log =
      unmappedOf .offlineInputBuf log ++ channel.mOfflineBuffers
  metasOnce : mappedOf .offlineMetaBuf log =
      unmappedOf .offlineMetaBuf log ++ channel.mOfflineMetaBuffers
  inputsDistinct : (channel.mOfflineBuffers.map OfflineBuffer.index).Nodup
  metasDistinct : (channel.mOfflineMetaBuffers.map OfflineBuffer.index).Nodup

/-- Both lists are windows of the same allocation numbers. -/
structure InStep (channel : ReprocessChannel) (first : Nat) : Prop where
  positive : 0 < channel.mNumBuffers
  sameJobs : channel.mOfflineBuffers.map OfflineBuffer.job =
      channel.mOfflineMetaBuffers.map OfflineBuffer.job
  inputTypes : ∀ buffer ∈ channel.mOfflineBuffers, buffer.type = .offlineInputBuf
  metaTypes : ∀ buffer ∈ channel.mOfflineMetaBuffers, buffer.type = .offlineMetaBuf
  fits : channel.mOfflineBuffers.length ≤ channel.mNumBuffers
  inputs : channel.mOfflineBuffers.map OfflineBuffer.index =
      RingWindow.window 0 channel.mNumBuffers first
        channel.mOfflineBuffers.length
  metas : channel.mOfflineMetaBuffers.map OfflineBuffer.index =
      RingWindow.window channel.mNumBuffers channel.mNumBuffers first
        channel.mOfflineBuffers.length
  nextInput : bufIdx channel = RingWindow.slot 0 channel.mNumBuffers
        (first + channel.mOfflineBuffers.length)
  nextMeta : metaBufIdx channel = RingWindow.slot channel.mNumBuffers channel.mNumBuffers
        (first + channel.mOfflineBuffers.length)

/-- The fields that the mappings read. -/
structure SameMappings (before after : ReprocessChannel) : Prop where
  mNumBuffers : after.mNumBuffers = before.mNumBuffers
  buffersIndex : after.mOfflineBuffersIndex = before.mOfflineBuffersIndex
  metaIndex : after.mOfflineMetaIndex = before.mOfflineMetaIndex
  buffers : after.mOfflineBuffers = before.mOfflineBuffers
  metaBuffers : after.mOfflineMetaBuffers = before.mOfflineMetaBuffers

theorem SameMappings.refl (channel : ReprocessChannel) :
    SameMappings channel channel :=
  ⟨rfl, rfl, rfl, rfl, rfl⟩

theorem SameMappings.trans {first second third : ReprocessChannel}
    (earlier : SameMappings first second) (later : SameMappings second third) :
    SameMappings first third :=
  ⟨later.mNumBuffers.trans earlier.mNumBuffers, later.buffersIndex.trans earlier.buffersIndex,
    later.metaIndex.trans earlier.metaIndex,
    later.buffers.trans earlier.buffers,
    later.metaBuffers.trans earlier.metaBuffers⟩

variable {first number job : Nat} {channel : ReprocessChannel} {env : ReprocessEnv}
  {frame : FwkInputData} {past : List ReprocessEvent} {type : MappingType}
  {buffers : List OfflineBuffer}

theorem InStep.of_same {before after : ReprocessChannel} (inStep : InStep before first)
    (same : SameMappings before after) :
    InStep after first := by
  obtain ⟨n1, n2, n3, n4, n5⟩ := same
  obtain ⟨positive, jobs, inTypes, metaTypes, fits, inputs, metas, nextIn, nextMeta⟩ := inStep
  refine ⟨?_, ?_, ?_, ?_, ?_, ?_, ?_, ?_, ?_⟩ <;>
    simp only [bufIdx, wrapBuffersIndex, metaBufIdx, wrapMetaIndex, n1, n2,
      n3, n4, n5] at * <;> assumption

/-! ## Queueing the output buffer -/

theorem registerOutput_same (imported : Bool) (buffer : Nat) (channel : ReprocessChannel) :
    SameMappings channel (channel.registerBuffer imported buffer).1 := by
  unfold ReprocessChannel.registerBuffer
  split
  · exact .refl channel
  · split <;> exact ⟨rfl, rfl, rfl, rfl, rfl⟩

theorem startOnReprocess_same (env : ReprocessEnv) (buffer : Nat) (channel : ReprocessChannel) :
    SameMappings channel (startOnReprocess env buffer channel).1 := by
  have registers := registerOutput_same env.firstImport buffer channel
  unfold startOnReprocess
  split
  · exact .refl channel
  · split <;> rename_i registered <;> rw [registered] at registers
    · split
      · exact registers.trans ⟨rfl, rfl, rfl, rfl, rfl⟩
      · exact registers
    · exact registers

theorem outputSlot_same (imported : Bool) (buffer : Nat) (channel : ReprocessChannel) :
    SameMappings channel (outputSlot imported buffer channel).1 := by
  have registers := registerOutput_same imported buffer channel
  unfold outputSlot
  split
  · exact .refl channel
  · split <;> rename_i registered <;> rw [registered] at registers
    · split <;> exact registers
    · exact registers

theorem queueFwkOutput_same (env : ReprocessEnv) (buffer : Nat) (frameNumber : UInt32)
    (channel : ReprocessChannel) :
    SameMappings channel (queueFwkOutput env buffer frameNumber channel).1 := by
  have starts := startOnReprocess_same env buffer channel
  unfold queueFwkOutput
  split <;> rename_i began <;> rw [began] at starts
  · rename_i started
    have finds := outputSlot_same env.secondImport buffer started
    split <;> rename_i found <;> rw [found] at finds
    · split
      · exact (starts.trans finds).trans ⟨rfl, rfl, rfl, rfl, rfl⟩
      · exact starts.trans finds
    · exact starts.trans finds
  · exact starts

theorem queueHeapOutput_same (env : ReprocessEnv) (frameNumber : UInt32)
    (channel : ReprocessChannel) :
    SameMappings channel (queueHeapOutput env frameNumber channel).1 := by
  have takes : SameMappings channel (takeHeapBuffer env.allocated channel).1 := by
    unfold takeHeapBuffer
    split <;> exact ⟨rfl, rfl, rfl, rfl, rfl⟩
  unfold queueHeapOutput
  split <;> rename_i taken <;> rw [taken] at takes
  · exact takes
  · split <;> exact takes.trans ⟨rfl, rfl, rfl, rfl, rfl⟩

theorem queueOutput_same (env : ReprocessEnv) (frame : FwkInputData) (channel : ReprocessChannel) :
    SameMappings channel (queueOutput env frame channel).1 := by
  unfold queueOutput
  split
  · exact .refl channel
  · split
    · exact .refl channel
    · split
      · exact queueHeapOutput_same env frame.frameNumber channel
      · split
        · exact queueFwkOutput_same env _ frame.frameNumber channel
        · exact .refl channel

/-! ## The next indices -/

theorem or_eq_zero_iff (left right : Int32) : left ||| right = 0 ↔ left = 0 ∧ right = 0 := by
  constructor
  · intro joined
    have bits := congrArg Int32.toBitVec joined
    simpa [← Int32.toBitVec_inj] using bits
  · rintro ⟨rfl, rfl⟩
    rfl

theorem bufIdx_of_index (positive : 0 < channel.mNumBuffers)
    (index : channel.mOfflineBuffersIndex = (RingWindow.slot 0 channel.mNumBuffers number : Int)) :
    bufIdx channel = RingWindow.slot 0 channel.mNumBuffers (number + 1) := by
  rw [RingWindow.slot_succ positive]
  unfold bufIdx wrapBuffersIndex
  rw [index]
  split <;> split <;> omega

theorem metaBufIdx_of_index (positive : 0 < channel.mNumBuffers)
    (index : channel.mOfflineMetaIndex =
        (RingWindow.slot channel.mNumBuffers channel.mNumBuffers number : Int)) :
    metaBufIdx channel = RingWindow.slot channel.mNumBuffers channel.mNumBuffers (number + 1) := by
  rw [RingWindow.slot_succ positive]
  unfold metaBufIdx wrapMetaIndex
  rw [index]
  split <;> split <;> omega

theorem bufIdx_wrapped (channel : ReprocessChannel) (metaIndex : Int) : bufIdx { channel with
            mOfflineBuffersIndex := wrapBuffersIndex channel
            mOfflineMetaIndex := metaIndex } =
      bufIdx channel := by
  simp only [bufIdx, wrapBuffersIndex]
  split
  · simp
  · rfl

theorem metaBufIdx_wrapped (channel : ReprocessChannel) (buffersIndex : Int) : metaBufIdx
        { channel with
            mOfflineBuffersIndex := buffersIndex
            mOfflineMetaIndex := wrapMetaIndex channel } =
      metaBufIdx channel := by
  simp only [metaBufIdx, wrapMetaIndex]
  split
  · simp
  · rfl

/-! ## Steps -/

/-- The calls of a step map and unmap what its lists gain and lose. -/
structure Records (before after : ReprocessChannel) (emitted : List ReprocessOutput) : Prop where
  inputs : before.mOfflineBuffers ++ mappedOf .offlineInputBuf emitted =
      unmappedOf .offlineInputBuf emitted ++ after.mOfflineBuffers
  metas : before.mOfflineMetaBuffers ++ mappedOf .offlineMetaBuf emitted =
      unmappedOf .offlineMetaBuf emitted ++ after.mOfflineMetaBuffers

theorem mapAndReprocess_both (inStep : InStep channel first)
    (inputMapped : env.mapInputRc = 0) (metaMapped : env.mapMetaRc = 0)
    (room : channel.mOfflineBuffers.length < channel.mNumBuffers) :
    InStep (mapAndReprocess env frame job channel).1 first ∧
      Records channel (mapAndReprocess env frame job channel).1
        (mapAndReprocess env frame job channel).2 := by
  have sameMeta : metaBufIdx { channel with
              mOfflineBuffers := channel.mOfflineBuffers ++
                [⟨bufIdx channel, .offlineInputBuf, job⟩]
              mOfflineBuffersIndex := bufIdx channel } =
        metaBufIdx channel := rfl
  have submits : (mapAndReprocess env frame job channel) = ({ channel with
            mOfflineBuffers := channel.mOfflineBuffers ++ [⟨bufIdx channel, .offlineInputBuf, job⟩]
            mOfflineBuffersIndex := bufIdx channel
            mOfflineMetaBuffers := channel.mOfflineMetaBuffers ++
              [⟨metaBufIdx channel, .offlineMetaBuf, job⟩]
            mOfflineMetaIndex := metaBufIdx channel },
          [.mapBuf ⟨bufIdx channel, .offlineInputBuf, job⟩,
            .mapBuf ⟨metaBufIdx channel, .offlineMetaBuf, job⟩,
            if env.setParameterRc ≠ 0 then
              .inputError frame.frameNumber
            else
              .doReprocess job (bufIdx channel) (metaBufIdx channel)]) := by
    have joined : (0 : Int32) ||| 0 = 0 := rfl
    by_cases accepted : env.setParameterRc = 0 <;>
      simp [mapAndReprocess, mapInput, mapMeta, inputMapped, metaMapped, joined, sameMeta, accepted]
  rw [submits]
  refine ⟨⟨inStep.positive, ?_, ?_, ?_, ?_, ?_, ?_, ?_, ?_⟩, ?_, ?_⟩
  · simp [inStep.sameJobs]
  · intro buffer member
    rcases List.mem_append.mp member with recorded | isNew
    · exact inStep.inputTypes buffer recorded
    · rw [List.mem_singleton.mp isNew]
  · intro buffer member
    rcases List.mem_append.mp member with recorded | isNew
    · exact inStep.metaTypes buffer recorded
    · rw [List.mem_singleton.mp isNew]
  · simpa [Nat.succ_le_iff] using room
  · simp [inStep.inputs, inStep.nextInput, RingWindow.window_snoc]
  · simp [inStep.metas, inStep.nextMeta, RingWindow.window_snoc]
  · simp only [List.length_append, List.length_singleton, ← Nat.add_assoc]
    refine bufIdx_of_index inStep.positive ?_
    exact congrArg Int.ofNat inStep.nextInput
  · simp only [List.length_append, List.length_singleton, ← Nat.add_assoc]
    refine metaBufIdx_of_index inStep.positive ?_
    exact congrArg Int.ofNat inStep.nextMeta
  · split <;> simp [mappedOf, unmappedOf]
  · split <;> simp [mappedOf, unmappedOf]

theorem mapAndReprocess_neither (inStep : InStep channel first)
    (inputFailed : env.mapInputRc ≠ 0) (metaFailed : env.mapMetaRc ≠ 0) :
    InStep (mapAndReprocess env frame job channel).1 first ∧
      Records channel (mapAndReprocess env frame job channel).1
        (mapAndReprocess env frame job channel).2 := by
  have joined : env.mapInputRc ||| env.mapMetaRc ≠ 0 := by
    rw [ne_eq, or_eq_zero_iff]
    exact fun both => inputFailed both.1
  have fails : (mapAndReprocess env frame job channel) = ({ channel with
            mOfflineBuffersIndex := wrapBuffersIndex channel
            mOfflineMetaIndex := wrapMetaIndex channel },
          [.inputError frame.frameNumber]) := by
    simp only [mapAndReprocess, mapInput, mapMeta, if_neg inputFailed,
      if_neg metaFailed, if_neg joined, if_pos joined]
    rfl
  rw [fails]
  refine ⟨⟨inStep.positive, inStep.sameJobs, inStep.inputTypes,
    inStep.metaTypes, inStep.fits, inStep.inputs, inStep.metas, ?_, ?_⟩,
    ?_, ?_⟩
  · exact (bufIdx_wrapped channel _).trans inStep.nextInput
  · exact (metaBufIdx_wrapped channel _).trans inStep.nextMeta
  · simp [mappedOf, unmappedOf]
  · simp [mappedOf, unmappedOf]

theorem doReprocessOffline_inStep (inStep : InStep channel first)
    (guard : mapsInStep channel past (.doReprocessOffline env frame)) :
    InStep (doReprocessOffline env frame channel).1 first ∧
      Records channel (doReprocessOffline env frame channel).1
        (doReprocessOffline env frame channel).2 := by
  have numbered : SameMappings channel { channel with nextJob := channel.nextJob + 1 } :=
    ⟨rfl, rfl, rfl, rfl, rfl⟩
  have same := numbered.trans (queueOutput_same env frame _)
  unfold doReprocessOffline
  dsimp only
  split <;> rename_i queues <;> rw [queues] at same
  · rename_i queued
    have reaches : reachesMappings env frame channel = true := by
      simp [reachesMappings, queues]
    obtain ⟨together, room⟩ := guard reaches
    have queuedInStep : InStep queued first := inStep.of_same same
    have sameLists : queued.mOfflineBuffers = channel.mOfflineBuffers ∧
          queued.mOfflineMetaBuffers = channel.mOfflineMetaBuffers ∧
          queued.mNumBuffers = channel.mNumBuffers :=
      ⟨same.buffers, same.metaBuffers, same.mNumBuffers⟩
    obtain ⟨buffers, metaBuffers, numBuffers⟩ := sameLists
    have outcome : InStep (mapAndReprocess env frame channel.nextJob queued).1 first ∧
          Records queued (mapAndReprocess env frame channel.nextJob queued).1
            (mapAndReprocess env frame channel.nextJob queued).2 := by
      by_cases mapped : env.mapInputRc = 0
      · refine mapAndReprocess_both queuedInStep mapped ?_ ?_
        · simpa [mapsBothOrNeither, mapped] using together
        · rw [buffers, numBuffers]
          exact room mapped
      · refine mapAndReprocess_neither queuedInStep mapped ?_
        simpa [mapsBothOrNeither, mapped] using together
    refine ⟨outcome.1, ?_, ?_⟩
    · rw [← buffers]
      exact outcome.2.inputs
    · rw [← metaBuffers]
      exact outcome.2.metas
  · rename_i failed status _
    refine ⟨inStep.of_same same, ?_, ?_⟩
    · simpa [mappedOf, unmappedOf] using same.buffers.symm
    · simpa [mappedOf, unmappedOf] using same.metaBuffers.symm

theorem unmappedOf_map (types : ∀ buffer ∈ buffers, buffer.type = type) :
    unmappedOf type (buffers.map .unmapBuf) = buffers := by
  induction buffers with
  | nil => rfl
  | cons buffer rest inductionHypothesis =>
    have rests := inductionHypothesis fun other member =>
      types other (List.mem_cons_of_mem buffer member)
    simp only [unmappedOf, List.map_cons, List.filterMap_cons,
      types buffer (by simp), if_true] at rests ⊢
    rw [rests]

theorem unmappedOf_map_of_ne (types : ∀ buffer ∈ buffers, buffer.type ≠ type) :
    unmappedOf type (buffers.map .unmapBuf) = [] := by
  simp only [unmappedOf, List.filterMap_eq_nil_iff, List.mem_map]
  rintro _ ⟨buffer, member, rfl⟩
  simp [types buffer member]

theorem mappedOf_map_unmapBuf (type : MappingType) (buffers : List OfflineBuffer) :
    mappedOf type (buffers.map .unmapBuf) = [] := by
  simp only [mappedOf, List.filterMap_eq_nil_iff, List.mem_map]
  rintro _ ⟨buffer, member, rfl⟩
  rfl

theorem unmapped_append_stillMapped (all : Bool) (buffers : List OfflineBuffer) :
    unmapped all buffers ++ stillMapped all buffers = buffers := by
  cases all with
  | false => exact List.take_append_drop 1 buffers
  | true => simp [unmapped, stillMapped]

theorem InStep.drop {channel : ReprocessChannel} {first : Nat} (inStep : InStep channel first)
    {oldest : Nat}
    (recorded : oldest ≤ channel.mOfflineBuffers.length) :
    InStep { channel with
          mOfflineBuffers := channel.mOfflineBuffers.drop oldest
          mOfflineMetaBuffers := channel.mOfflineMetaBuffers.drop oldest }
      (first + oldest) := by
  have total : first + oldest + (channel.mOfflineBuffers.length - oldest) =
        first + channel.mOfflineBuffers.length := by
    omega
  refine ⟨inStep.positive, ?_, ?_, ?_, ?_, ?_, ?_, ?_, ?_⟩
  · simp only [List.map_drop, inStep.sameJobs]
  · intro buffer member
    exact inStep.inputTypes buffer (List.mem_of_mem_drop member)
  · intro buffer member
    exact inStep.metaTypes buffer (List.mem_of_mem_drop member)
  · have fits := inStep.fits
    simp only [List.length_drop]
    omega
  · simp only [List.map_drop, inStep.inputs, RingWindow.drop_window, List.length_drop]
  · simp only [List.map_drop, inStep.metas, RingWindow.drop_window, List.length_drop]
  · simp only [List.length_drop, total]
    exact inStep.nextInput
  · simp only [List.length_drop, total]
    exact inStep.nextMeta

theorem unmapOfflineBuffers_inStep {all : Bool} {first : Nat} {channel : ReprocessChannel}
    (inStep : InStep channel first) :
    (∃ later, InStep (unmapOfflineBuffers all channel).1 later) ∧
      Records channel (unmapOfflineBuffers all channel).1 (unmapOfflineBuffers all channel).2 := by
  have inputTypes : ∀ buffer ∈ unmapped all channel.mOfflineBuffers,
        buffer.type = .offlineInputBuf := by
    intro buffer member
    apply inStep.inputTypes
    rw [← unmapped_append_stillMapped all channel.mOfflineBuffers]
    exact List.mem_append_left _ member
  have metaTypes : ∀ buffer ∈ unmapped all channel.mOfflineMetaBuffers,
        buffer.type = .offlineMetaBuf := by
    intro buffer member
    apply inStep.metaTypes
    rw [← unmapped_append_stillMapped all channel.mOfflineMetaBuffers]
    exact List.mem_append_left _ member
  have sameLength : channel.mOfflineMetaBuffers.length =
        channel.mOfflineBuffers.length := by
    simpa using (congrArg List.length inStep.sameJobs).symm
  refine ⟨?_, ?_, ?_⟩
  · cases all with
    | true =>
      refine ⟨first + channel.mOfflineMetaBuffers.length, ?_⟩
      have dropped := inStep.drop (Nat.le_refl _)
      rw [List.drop_length, ← sameLength, List.drop_length] at dropped
      exact dropped
    | false =>
      by_cases empty : channel.mOfflineBuffers = []
      · have metaEmpty : channel.mOfflineMetaBuffers = [] := by
          simpa [empty] using sameLength
        refine ⟨first, ?_⟩
        simpa [unmapOfflineBuffers, stillMapped, empty, metaEmpty] using inStep.drop (Nat.zero_le _)
      · refine ⟨first + 1, ?_⟩
        exact inStep.drop (List.length_pos_iff.mpr empty)
  · simp only [unmapOfflineBuffers]
    rw [mappedOf_map_unmapBuf, List.append_nil, List.map_append]
    have split : unmappedOf .offlineInputBuf
            ((unmapped all channel.mOfflineBuffers).map .unmapBuf ++
              (unmapped all channel.mOfflineMetaBuffers).map .unmapBuf) =
          unmapped all channel.mOfflineBuffers := by
      rw [unmappedOf, List.filterMap_append, ← unmappedOf, ← unmappedOf,
        unmappedOf_map inputTypes, unmappedOf_map_of_ne, List.append_nil]
      intro buffer member
      simp [metaTypes buffer member]
    rw [split, unmapped_append_stillMapped]
  · simp only [unmapOfflineBuffers]
    rw [mappedOf_map_unmapBuf, List.append_nil, List.map_append]
    have split : unmappedOf .offlineMetaBuf ((unmapped all channel.mOfflineBuffers).map .unmapBuf ++
              (unmapped all channel.mOfflineMetaBuffers).map .unmapBuf) =
          unmapped all channel.mOfflineMetaBuffers := by
      rw [unmappedOf, List.filterMap_append, ← unmappedOf, ← unmappedOf,
        unmappedOf_map metaTypes, unmappedOf_map_of_ne, List.nil_append]
      intro buffer member
      simp [inputTypes buffer member]
    rw [split, unmapped_append_stillMapped]

theorem reprocessStep_inStep {next : ReprocessChannel} {event : ReprocessEvent}
    {emitted : List ReprocessOutput} (inStep : InStep channel first)
    (guard : mapsInStep channel past event)
    (stepped : reprocessStep channel event = some (next, emitted)) :
    (∃ later, InStep next later) ∧ Records channel next emitted := by
  cases event with
  | doReprocessOffline env frame =>
    have outcome := doReprocessOffline_inStep inStep guard
    simp only [reprocessStep, Option.some.injEq] at stepped
    rw [stepped] at outcome
    exact ⟨⟨first, outcome.1⟩, outcome.2⟩
  | unmapOfflineBuffers all =>
    have outcome := @unmapOfflineBuffers_inStep all _ _ inStep
    simp only [reprocessStep, Option.some.injEq] at stepped
    rw [stepped] at outcome
    exact outcome

/-! ## Whole runs -/

theorem InStep.mappingsPaired {log : List ReprocessOutput}
    (inStep : InStep channel first)
    (inputsOnce : mappedOf .offlineInputBuf log =
        unmappedOf .offlineInputBuf log ++ channel.mOfflineBuffers)
    (metasOnce : mappedOf .offlineMetaBuf log =
        unmappedOf .offlineMetaBuf log ++ channel.mOfflineMetaBuffers) :
    MappingsPaired channel log where
  sameJobs := inStep.sameJobs
  inputsOnce := inputsOnce
  metasOnce := metasOnce
  inputsDistinct := by
    rw [inStep.inputs]
    exact RingWindow.nodup_window inStep.fits
  metasDistinct := by
    rw [inStep.metas]
    exact RingWindow.nodup_window inStep.fits

theorem newReprocessChannel_inStep {numBuffers : Nat} (positive : 0 < numBuffers)
    (reprocessType : ReprocessType) :
    InStep (newReprocessChannel numBuffers reprocessType) 0 := by
  refine ⟨positive, rfl, ?_, ?_, Nat.zero_le _, rfl, rfl, ?_, ?_⟩
  · simp [newReprocessChannel]
  · simp [newReprocessChannel]
  · simp [bufIdx, wrapBuffersIndex, newReprocessChannel, RingWindow.slot]
  · simp [metaBufIdx, wrapMetaIndex, newReprocessChannel, RingWindow.slot]

/--
In every run whose calls map both buffers or neither, and map only while fewer
than `mNumBuffers` mappings are recorded, the two lists stay paired, every
mapping is recorded and undone once, and no recorded index is mapped again.
-/
theorem reprocessRun_mappingsPaired {numBuffers : Nat} {reprocessType : ReprocessType}
    {events : List ReprocessEvent} {final : ReprocessChannel}
    {log : List ReprocessOutput} (positive : 0 < numBuffers)
    (guarded : LabelledRun.Guarded reprocessStep mapsInStep
        (newReprocessChannel numBuffers reprocessType) [] events)
    (ran : reprocessRun (newReprocessChannel numBuffers reprocessType) events = some (final, log)) :
    MappingsPaired final log := by
  have outcome : (∃ first, InStep final first) ∧ mappedOf .offlineInputBuf log =
          unmappedOf .offlineInputBuf log ++ final.mOfflineBuffers ∧
        mappedOf .offlineMetaBuf log =
          unmappedOf .offlineMetaBuf log ++ final.mOfflineMetaBuffers := by
    refine LabelledRun.invariant_of_guarded (fun current _ emitted =>
        (∃ first, InStep current first) ∧ mappedOf .offlineInputBuf emitted =
            unmappedOf .offlineInputBuf emitted ++ current.mOfflineBuffers ∧
          mappedOf .offlineMetaBuf emitted = unmappedOf .offlineMetaBuf emitted ++
              current.mOfflineMetaBuffers)
      [] guarded ran
      ⟨⟨0, newReprocessChannel_inStep positive reprocessType⟩, rfl, rfl⟩ ?_
    rintro current past emitted event next step ⟨⟨first, inStep⟩, inputs, metas⟩ guard stepped
    obtain ⟨later, records⟩ := reprocessStep_inStep inStep guard stepped
    refine ⟨later, ?_, ?_⟩
    · calc
        mappedOf .offlineInputBuf (emitted ++ step) = mappedOf .offlineInputBuf emitted ++
              mappedOf .offlineInputBuf step := by simp [mappedOf]
        _ = unmappedOf .offlineInputBuf emitted ++ (current.mOfflineBuffers ++
                mappedOf .offlineInputBuf step) := by
              rw [inputs, List.append_assoc]
        _ = unmappedOf .offlineInputBuf (emitted ++ step) ++
              next.mOfflineBuffers := by
              rw [records.inputs]
              simp [unmappedOf]
    · calc
        mappedOf .offlineMetaBuf (emitted ++ step) = mappedOf .offlineMetaBuf emitted ++
              mappedOf .offlineMetaBuf step := by simp [mappedOf]
        _ = unmappedOf .offlineMetaBuf emitted ++ (current.mOfflineMetaBuffers ++
                mappedOf .offlineMetaBuf step) := by
              rw [metas, List.append_assoc]
        _ = unmappedOf .offlineMetaBuf (emitted ++ step) ++
              next.mOfflineMetaBuffers := by
              rw [records.metas]
              simp [unmappedOf]
  obtain ⟨⟨first, inStep⟩, inputs, metas⟩ := outcome
  exact inStep.mappingsPaired inputs metas

/-! ## Calls that fail half-way -/

/-- Calls out of `doReprocessOffline` that end with these status codes. -/
def mappingEnv (mapInputRc mapMetaRc setParameterRc : Int32) : ReprocessEnv where
  firstImport := true
  started := true
  secondImport := true
  allocated := true
  bufDone := true
  mapInputRc := mapInputRc
  mapMetaRc := mapMetaRc
  setParameterRc := setParameterRc

/-- An input frame to be reprocessed into one of the framework's buffers. -/
def yuvFrame (frameNumber : UInt32) (outputBuffer : Nat) : FwkInputData where
  frameNumber := frameNumber
  outputBuffer := some outputBuffer
  hasInputBuffer := true
  hasMetadata := true

/-- Jobs of a ring of two, one of them failing at `setParameter`. -/
def ringEvents : List ReprocessEvent :=
  [.doReprocessOffline (mappingEnv 0 0 0) (yuvFrame 1 1),
    .doReprocessOffline (mappingEnv 0 0 (-1)) (yuvFrame 2 2),
    .unmapOfflineBuffers false,
    .doReprocessOffline (mappingEnv (-1) (-1) 0) (yuvFrame 3 1),
    .doReprocessOffline (mappingEnv 0 0 0) (yuvFrame 4 1)]

/-- Their mappings stay paired across the wrap of the indices. -/
theorem reprocessRun_mappingsPaired_ring : ∃ final log,
      reprocessRun (newReprocessChannel 2 .yuv) ringEvents = some (final, log) ∧
        (final.mOfflineBuffers.map OfflineBuffer.index,
          final.mOfflineMetaBuffers.map OfflineBuffer.index) = ([1, 0], [3, 2]) ∧
        MappingsPaired final log :=
  ⟨_, _, rfl, by decide, @reprocessRun_mappingsPaired 2 .yuv ringEvents _ _ (by decide)
      (by decide) rfl⟩

/-- The metadata mapping fails after the input frame has been mapped. -/
def halfMappedEvents : List ReprocessEvent :=
  [.doReprocessOffline (mappingEnv 0 (-1) 0) (yuvFrame 1 1)]

/-- The input frame stays recorded although its job was never submitted. -/
theorem reprocessRun_halfMapped : ∃ final log,
      reprocessRun (newReprocessChannel 2 .yuv) halfMappedEvents = some (final, log) ∧
        (final.mOfflineBuffers.length, final.mOfflineMetaBuffers.length) = (1, 0) ∧
        ¬ MappingsPaired final log := by
  refine ⟨_, _, rfl, by decide, ?_⟩
  intro paired
  exact absurd paired.sameJobs (by decide)

end AnglerHal.Channel
