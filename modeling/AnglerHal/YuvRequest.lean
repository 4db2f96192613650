import AnglerHal.RegularChannel

namespace AnglerHal.Yuv

open Channel

/-!
# Requests of a YUV channel that fail

A channel that bypasses the post-processor notes every request without an input
buffer in `mOfflinePpInfoList`, in the order of the requests.  A stream callback looks
up its frame there, and gives its buffer back only at the head of the list.  The note is
made before the steps that may fail.

The list, the free heap buffers and the buffers queued to the stream are modelled with
the memory of the channel.  An inactive channel has no heap buffer, so that the start of
the stream queues none.
-/

/-! ## The channel -/

/-- `PpInfo`. -/
structure PpInfo where
  frameNumber : UInt32
  offlinePpFlag : Bool
  output : Nat
  callbackBuffer : Option Nat
  deriving DecidableEq

/-- `cam_edge_application_t::edge_mode`, as far as it is told apart. -/
inductive EdgeMode where
  | off
  | zeroShutterLag
  | other
  deriving DecidableEq

/-- The noise reduction modes that are told apart. -/
inductive NoiseRedMode where
  | off
  | minimal
  | zeroShutterLag
  | other
  deriving DecidableEq

/-- The entries of the metadata that decide on post-processing. -/
structure PpMetadata where
  edgeMode : Option EdgeMode
  noiseRedMode : Option NoiseRedMode
  cropRegion : Option (Int × Int)
  deriving DecidableEq

/-- `QCamera3YUVChannel`. -/
structure YuvChannel where
  channel : RegularChannel
  mBypass : Bool
  mEdgeMode : EdgeMode
  mNoiseRedMode : NoiseRedMode
  mCropRegion : Int × Int
  /-- `mCamera3Stream->width` and `height`. -/
  streamSize : Int × Int
  mOfflinePpInfoList : List PpInfo
  mFreeHeapBufferList : List Nat
  /-- `mBufDefs[i].mem_info != NULL`. -/
  mapped : Nat → Bool
  /-- The buffers queued to the stream. -/
  queued : List Nat

/-- What one call asks for; `none` is `NULL`. -/
structure YuvRequest where
  buffer : Option Nat
  frameNumber : UInt32
  hasInput : Bool
  metadata : Option PpMetadata
  deriving DecidableEq

/-- How the calls out of `request` end. -/
structure YuvEnv where
  startEnv : RegisterEnv
  registerEnv : RegisterEnv
  /-- `mNumBufs` of the stream when it is given the buffer, and 0 without `mBufDefs`. -/
  streamBufs : Nat
  /-- `mMemOps != NULL`. -/
  memOps : Bool
  mapOk : Bool
  qbufOk : Bool
  /-- The allocation in `allocateOne`. -/
  allocated : Bool
  /-- `calloc` of the source frame. -/
  calloc : Bool
  setFwkInputPPData : Status
  deriving DecidableEq

/-- Whether the memory holds a buffer at an index. -/
def holds (memory : StreamMem) (index : Nat) : Bool :=
  if index < memory.mMaxHeapBuffers then decide (index < memory.mHeapMem.mBufferCount)
  else memory.mGrallocMem.isRegistered index

/-! ## Requests -/

/-- The members after the metadata has been read. -/
def YuvChannel.readMetadata (yuv : YuvChannel) (metadata : PpMetadata) : YuvChannel :=
  { yuv with
    mEdgeMode := metadata.edgeMode.getD yuv.mEdgeMode
    mNoiseRedMode := metadata.noiseRedMode.getD yuv.mNoiseRedMode
    mCropRegion := metadata.cropRegion.getD yuv.mCropRegion }

/-- Whether the members ask for post-processing. -/
def YuvChannel.ppNeeded (yuv : YuvChannel) : Bool :=
  (yuv.mEdgeMode ≠ .off && yuv.mEdgeMode ≠ .zeroShutterLag) ||
    (yuv.mNoiseRedMode ≠ .zeroShutterLag && yuv.mNoiseRedMode ≠ .off &&
      yuv.mNoiseRedMode ≠ .minimal) ||
    (yuv.mCropRegion.1 < yuv.streamSize.1 || yuv.mCropRegion.2 < yuv.streamSize.2)

/-- `needsFramePostprocessing`. -/
def needsFramePostprocessing (metadata : PpMetadata) (yuv : YuvChannel) : YuvChannel × Bool :=
  (yuv.readMetadata metadata, (yuv.readMetadata metadata).ppNeeded)

/-- `QCamera3Stream::bufDone`. -/
def bufDone (env : YuvEnv) (index : Nat) (yuv : YuvChannel) : YuvChannel × Status :=
  if env.streamBufs ≤ index then
    (yuv, .badIndex)
  else if yuv.mapped index = false ∧ env.memOps = false then
    (yuv, .noInit)
  else if yuv.mapped index = false ∧ holds yuv.channel.mMemory index = false then
    (yuv, .invalidOperation)
  else if yuv.mapped index = false ∧ env.mapOk = false then
    (yuv, .badValue)
  else
    let mapped := { yuv with mapped := Function.update yuv.mapped index true }
    if env.qbufOk then ({ mapped with queued := mapped.queued ++ [index] }, .noError)
    else (mapped, .failedTransaction)

/-- `mMemory.markFrameNumber`. -/
def YuvChannel.mark (index : Nat) (frameNumber : UInt32) (yuv : YuvChannel) :
    YuvChannel × Status :=
  let (memory, status) := yuv.channel.mMemory.markFrameNumber index frameNumber
  ({ yuv with channel := { yuv.channel with mMemory := memory } }, status)

/-- A status as the result of a call: negative unless it is `NO_ERROR`. -/
def resultOf : Status → Except Status Nat
  | .noError => .ok 0
  | status => .error status

/-- The part of `QCamera3ProcessingChannel::request` without an input buffer. -/
def regularRequest (env : YuvEnv) (buffer : Nat) (frameNumber : UInt32) (yuv : YuvChannel) :
    YuvChannel × Except Status Nat :=
  match requestSlot env.startEnv env.registerEnv buffer yuv.channel with
  | (channel, .error status) => ({ yuv with channel := channel }, .error status)
  | (channel, .ok index) =>
    match bufDone env index { yuv with channel := channel } with
    | (queued, .noError) =>
      let (marked, status) := queued.mark index frameNumber
      (marked, resultOf status)
    | (failed, status) => (failed, .error status)

/-- The part of `QCamera3ProcessingChannel::request` with an input buffer. -/
def inputRequest (env : YuvEnv) (yuv : YuvChannel) : YuvChannel × Except Status Nat :=
  if env.calloc = false then (yuv, .error .noMemory)
  else (yuv, resultOf env.setFwkInputPPData)

/-- The heap buffer for a frame that is post-processed, and what `rc` is after it. -/
def takeHeapBuffer (env : YuvEnv) (yuv : YuvChannel) : YuvChannel × Option (Nat × Nat) :=
  match yuv.mFreeHeapBufferList with
  | bufIdx :: rest => ({ yuv with mFreeHeapBufferList := rest }, some (bufIdx, 0))
  | [] =>
    let (heap, allocated) := yuv.channel.mMemory.mHeapMem.allocateOne env.allocated
    ({ yuv with
      channel := { yuv.channel with
        mMemory := { yuv.channel.mMemory with mHeapMem := heap } } },
      allocated.map fun bufIdx => (bufIdx, bufIdx))

/-- A frame that is post-processed is captured to a heap buffer.  What `bufDone` returns
is not looked at. -/
def captureToHeap (env : YuvEnv) (frameNumber : UInt32) (yuv : YuvChannel) :
    YuvChannel × Except Status Nat :=
  match takeHeapBuffer env yuv with
  | (failed, none) => (failed, .error .badValue)
  | (taken, some (bufIdx, rc)) =>
    ((bufDone env bufIdx (taken.mark bufIdx frameNumber).1).1, .ok rc)

/-- The part of `request` for a frame that is post-processed. -/
def offlineRequest (env : YuvEnv) (frameNumber : UInt32) (yuv : YuvChannel) :
    YuvChannel × Except Status Nat :=
  if yuv.channel.m_bIsActive then captureToHeap env frameNumber yuv
  else
    match start yuv.channel with
    | (channel, .noError) => captureToHeap env frameNumber { yuv with channel := channel }
    | (channel, status) => ({ yuv with channel := channel }, .error status)

/-- The end of `mOfflinePpInfoList` takes one more note. -/
def YuvChannel.note (info : PpInfo) (yuv : YuvChannel) : YuvChannel :=
  { yuv with mOfflinePpInfoList := yuv.mOfflinePpInfoList ++ [info] }

/-- The part of `request` after the request is noted. -/
def notedRequest (env : YuvEnv) (buffer : Nat) (frameNumber : UInt32) (ppFlag : Bool)
    (yuv : YuvChannel) : YuvChannel × Except Status Nat :=
  if ppFlag then offlineRequest env frameNumber yuv
  else regularRequest env buffer frameNumber yuv

/-- `QCamera3YUVChannel::request`, with `needMetadata` where it is written. -/
def request (env : YuvEnv) (asked : YuvRequest) (yuv : YuvChannel) :
    YuvChannel × Except Status Nat × Option Bool :=
  match asked.buffer, asked.metadata with
  | some buffer, some metadata =>
    if asked.hasInput then
      let (next, result) := inputRequest env yuv
      (next, result, some false)
    else if yuv.mBypass then
      let (read, ppFlag) := needsFramePostprocessing metadata yuv
      let (next, result) := notedRequest env buffer asked.frameNumber ppFlag
        (read.note ⟨asked.frameNumber, ppFlag, buffer, none⟩)
      (next, result, some ppFlag)
    else
      let (next, result) := regularRequest env buffer asked.frameNumber yuv
      (next, result, some false)
  | _, _ => (yuv, .error .badValue, none)

/-! ## Stream callbacks -/

/-- What a stream callback does with its buffer. -/
inductive CbAction where
  /-- The buffer goes back to the stream. -/
  | bufDone
  /-- The frame goes to the post-processor. -/
  | processData (output : Nat) (frameNumber : Int32)
  /-- The buffer is kept until the frames before it are done. -/
  | cached
  /-- `QCamera3ProcessingChannel::streamCbRoutine` returns the buffer. -/
  | returned
  deriving DecidableEq

/-- The first note of a frame, with its place in the list. -/
def findPpInfo (frameNumber : Int32) (infos : List PpInfo) : Option (PpInfo × Nat) :=
  infos.zipIdx.find? fun entry => entry.1.frameNumber == frameNumber.toUInt32

/-- `streamCbRoutine`: the list after it, and what becomes of the buffer. -/
def streamCbRoutine (superFrame frameIndex : Nat) (mallocOk : Bool) (yuv : YuvChannel) :
    YuvChannel × CbAction :=
  if yuv.channel.mNumBufs ≤ frameIndex then (yuv, .bufDone)
  else if yuv.mBypass then
    let resultFrameNumber := yuv.channel.mMemory.getFrameNumber frameIndex
    match findPpInfo resultFrameNumber yuv.mOfflinePpInfoList with
    | none => (yuv, .bufDone)
    | some (info, place) =>
      if info.offlinePpFlag then
        (yuv, if mallocOk then .processData info.output resultFrameNumber else .bufDone)
      else if place = 0 then
        ({ yuv with mOfflinePpInfoList := yuv.mOfflinePpInfoList.tail }, .returned)
      else
        ({ yuv with
          mOfflinePpInfoList := yuv.mOfflinePpInfoList.set place
            { info with callbackBuffer := some superFrame } }, .cached)
  else (yuv, .returned)

/-! ## What is promised -/

/-- The lists and the stream are as before, and so is what callbacks do. -/
structure Unchanged (before after : YuvChannel) : Prop where
  infos : after.mOfflinePpInfoList = before.mOfflinePpInfoList
  freeHeapBuffers : after.mFreeHeapBufferList = before.mFreeHeapBufferList
  queued : after.queued = before.queued
  callbacks : ∀ superFrame frameIndex mallocOk, holds before.channel.mMemory frameIndex = true →
    (streamCbRoutine superFrame frameIndex mallocOk after).2 =
      (streamCbRoutine superFrame frameIndex mallocOk before).2

/-- A call that returns an error leaves the channel unchanged. -/
def Atomic (env : YuvEnv) (asked : YuvRequest) (yuv : YuvChannel) : Prop :=
  ∀ status, (request env asked yuv).2.1 = .error status →
    Unchanged yuv (request env asked yuv).1

/-- The stream takes the buffer at an index, which the memory holds or does not. -/
def Queues (env : YuvEnv) (yuv : YuvChannel) (held : Bool) (index : Nat) : Prop :=
  index < env.streamBufs ∧
    (yuv.mapped index = true ∨ env.memOps = true ∧ held = true ∧ env.mapOk = true) ∧
    env.qbufOk = true

/-- The channel has room for one more buffer, and a stream or the means for one. -/
def HasRoom (env : RegisterEnv) (channel : RegularChannel) : Prop :=
  channel.mMemory.getCnt ≤ channel.mNumBufs - 1 ∧
    (channel.m_numStreams ≠ 0 ∨ env.initialized = true)

/-- A new buffer is registered at an index, the first free one. -/
def Registers (env : RegisterEnv) (channel : RegularChannel) (index : Nat) : Prop :=
  HasRoom env channel ∧
    channel.mMemory.mGrallocMem.mBufferCount <
      maxNumFrames - 1 - channel.mMemory.mGrallocMem.mStartIdx ∧
    channel.mMemory.mGrallocMem.getFreeIndexLocked = some index ∧ env.imported = true

/-- The slot at which a request finds its buffer, and whether the memory holds it there. -/
def SlotBefore (startEnv registerEnv : RegisterEnv) (channel : RegularChannel) (buffer index : Nat)
    (held : Bool) : Prop :=
  match channel.mMemory.mGrallocMem.getMatchBufIndex buffer with
  | some found =>
    found = index ∧ (channel.m_bIsActive = true ∨ HasRoom startEnv channel) ∧
      holds channel.mMemory index = held
  | none =>
    Registers (if channel.m_bIsActive then registerEnv else startEnv) channel index ∧
      held = (decide (channel.mMemory.mMaxHeapBuffers ≤ index) || holds channel.mMemory index)

/-- The buffer has a slot that the stream takes, and that can be marked or cannot. -/
def SlotQueues (env : YuvEnv) (yuv : YuvChannel) (buffer : Nat) (marked : Bool) : Prop :=
  ∃ index, SlotBefore env.startEnv env.registerEnv yuv.channel buffer index marked ∧
    Queues env yuv marked index

/-- The channel can start, and there is a heap buffer. -/
def HeapWorks (env : YuvEnv) (yuv : YuvChannel) : Prop :=
  (yuv.channel.m_bIsActive = true ∨ yuv.channel.m_numStreams ≠ 0) ∧
    (yuv.mFreeHeapBufferList ≠ [] ∨ env.allocated = true ∧
      yuv.channel.mMemory.mHeapMem.mBufferCount < yuv.channel.mMemory.mHeapMem.mMaxCnt)

/-- The condition: no step fails once the request is noted, and no buffer is queued whose
slot cannot be marked. -/
def Careful (env : YuvEnv) (asked : YuvRequest) (yuv : YuvChannel) : Prop :=
  match asked.buffer, asked.metadata with
  | some buffer, some metadata =>
    if asked.hasInput then True
    else if yuv.mBypass then
      if (yuv.readMetadata metadata).ppNeeded then HeapWorks env yuv
      else SlotQueues env yuv buffer true
    else ¬ SlotQueues env yuv buffer false
  | _, _ => True

/-! ## The slot of a buffer -/

section Slots

variable {env startEnv registerEnv : RegisterEnv} {channel : RegularChannel} {buffer index : Nat}

/-- A buffer that is registered already is not registered again. -/
theorem registerBuffer_of_match
    (matched : channel.mMemory.mGrallocMem.getMatchBufIndex buffer = some index) :
    (HasRoom env channel ∧ registerBuffer env buffer channel =
      ({ channel with m_numStreams := max 1 channel.m_numStreams }, .noError)) ∨
    (¬ HasRoom env channel ∧ (registerBuffer env buffer channel).2 ≠ .noError) := by
  by_cases room : HasRoom env channel
  · have count := room.1
    have streams := room.2
    refine .inl ⟨room, ?_⟩
    rw [registerBuffer, if_neg (by omega), if_neg (by grind), GrallocMemory.registerBuffer,
      if_pos (by simp [matched])]
    rfl
  · refine .inr ⟨room, ?_⟩
    unfold registerBuffer
    split
    · simp
    · split
      · simp
      · rename_i few means
        exact absurd ⟨Nat.le_of_not_lt few, by grind⟩ room

/-- What registering a new buffer makes of the channel. -/
def RegularChannel.registered (buffer index : Nat) (channel : RegularChannel) : RegularChannel :=
  let gralloc := channel.mMemory.mGrallocMem
  { channel.setGralloc { gralloc.setSlot index { gralloc.slots index with
        registered := true
        bufferHandle := some buffer } with
      mBufferCount := gralloc.mBufferCount + 1 } with
    m_numStreams := max 1 channel.m_numStreams }

theorem registerBuffer_of_no_match
    (noMatch : channel.mMemory.mGrallocMem.getMatchBufIndex buffer = none) :
    (∃ index, Registers env channel index ∧ registerBuffer env buffer channel =
      (RegularChannel.registered buffer index channel, .noError)) ∨
    ((∀ index, ¬ Registers env channel index) ∧
      (registerBuffer env buffer channel).2 ≠ .noError) := by
  unfold registerBuffer
  split
  · rename_i full
    exact .inr ⟨fun _ registers => absurd registers.1.1 (Nat.not_le_of_lt full), nofun⟩
  · rename_i few
    split
    · rename_i noMeans
      exact .inr ⟨fun _ registers => by have means := registers.1.2; grind, nofun⟩
    · rename_i means
      rw [GrallocMemory.registerBuffer, if_neg (by simp [noMatch])]
      by_cases slots : channel.mMemory.mGrallocMem.mBufferCount <
          maxNumFrames - 1 - channel.mMemory.mGrallocMem.mStartIdx
      · rw [if_neg (Nat.not_le_of_lt slots)]
        cases free : channel.mMemory.mGrallocMem.getFreeIndexLocked with
        | none =>
          exact .inr ⟨fun _ registers => absurd (free.symm.trans registers.2.2.1) nofun, nofun⟩
        | some index =>
          cases imported : env.imported with
          | true =>
            exact .inl ⟨index, ⟨⟨Nat.le_of_not_lt few, by grind⟩, slots, free, imported⟩, rfl⟩
          | false =>
            exact .inr ⟨fun _ registers => by simp [Registers, imported] at registers, nofun⟩
      · rw [if_pos (Nat.le_of_not_lt slots)]
        exact .inr ⟨fun _ registers => slots registers.2.1, nofun⟩

/-- The buffer is found where it was registered. -/
theorem getMatchBufIndex_registered
    (noMatch : channel.mMemory.mGrallocMem.getMatchBufIndex buffer = none)
    (registers : Registers env channel index) :
    (RegularChannel.registered buffer index channel).mMemory.mGrallocMem.getMatchBufIndex buffer =
      some index := by
  have member : index ∈ channel.mMemory.mGrallocMem.indices := by
    have free := registers.2.2.1
    unfold GrallocMemory.getFreeIndexLocked at free
    split at free
    · cases free
    · exact List.mem_of_find?_eq_some free
  have others := List.find?_eq_none.mp noMatch
  have here : ((RegularChannel.registered buffer index channel).mMemory.mGrallocMem.slots
      index).bufferHandle = some buffer := by
    simp [RegularChannel.registered, RegularChannel.setGralloc, GrallocMemory.setSlot]
  cases found : (RegularChannel.registered buffer index
      channel).mMemory.mGrallocMem.getMatchBufIndex buffer with
  | none => exact absurd (by simpa using here) (List.find?_eq_none.mp found index member)
  | some other =>
    by_contra different
    have elsewhere : other ≠ index := fun same => different (congrArg some same)
    refine others other (List.mem_of_find?_eq_some found) ?_
    simpa [RegularChannel.registered, RegularChannel.setGralloc, GrallocMemory.setSlot, elsewhere]
      using List.find?_some found

theorem holds_registered (registers : Registers env channel index) :
    holds (RegularChannel.registered buffer index channel).mMemory index =
      (decide (channel.mMemory.mMaxHeapBuffers ≤ index) || holds channel.mMemory index) := by
  have free := registers.2.2.1
  unfold GrallocMemory.getFreeIndexLocked at free
  split at free
  · cases free
  · have member := List.mem_range'_1.mp (List.mem_of_find?_eq_some free)
    by_cases inHeap : index < channel.mMemory.mMaxHeapBuffers
    · have notAbove := Nat.not_le_of_lt inHeap
      rw [decide_eq_false notAbove, Bool.false_or]
      exact (if_pos inHeap).trans (if_pos inHeap).symm
    · have inRange : index < maxNumFrames := by omega
      simp [holds, RegularChannel.registered, RegularChannel.setGralloc, GrallocMemory.setSlot,
        GrallocMemory.isRegistered, inHeap, inRange, member.1, Nat.le_of_not_lt inHeap]

/-- A new buffer has the slot at which it is registered. -/
theorem slot_of_registered {held : Bool} {after : RegularChannel} {place : Nat}
    (registers : Registers env channel place)
    (memory : after.mMemory = (RegularChannel.registered buffer place channel).mMemory) :
    (∃ last, (after, Except.ok (ε := Status) place) = (last, .ok index) ∧
        holds last.mMemory index = held) ↔
      Registers env channel index ∧
        held = (decide (channel.mMemory.mMaxHeapBuffers ≤ index) ||
          holds channel.mMemory index) := by
  have heldAt := @holds_registered env channel buffer place registers
  constructor
  · rintro ⟨_, same, rfl⟩
    cases same
    exact ⟨registers, by rw [memory, heldAt]⟩
  · rintro ⟨again, rfl⟩
    cases registers.2.2.1.symm.trans again.2.2.1
    exact ⟨after, rfl, by rw [memory, heldAt]⟩

/-- A request whose buffer cannot be registered does not start the channel. -/
theorem requestSlot_of_not_registered (active : channel.m_bIsActive = false)
    (failed : (registerBuffer startEnv buffer channel).2 ≠ .noError) (after : RegularChannel) :
    requestSlot startEnv registerEnv buffer channel ≠ (after, .ok index) := by
  unfold requestSlot startOnRequest
  cases registered : registerBuffer startEnv buffer channel with
  | mk next status =>
    rw [registered] at failed
    cases status <;> simp_all

/-- A request gets its slot exactly as the channel before it says. -/
theorem requestSlot_iff {held : Bool} :
    (∃ after, requestSlot startEnv registerEnv buffer channel = (after, .ok index) ∧
        holds after.mMemory index = held) ↔
      SlotBefore startEnv registerEnv channel buffer index held := by
  unfold SlotBefore
  cases active : channel.m_bIsActive with
  | true =>
    simp only [requestSlot, startOnRequest, active, matchOrRegister, if_true]
    cases matched : channel.mMemory.mGrallocMem.getMatchBufIndex buffer with
    | some found => grind
    | none =>
      obtain ⟨place, registers, same⟩ | ⟨refuses, failed⟩ :=
        @registerBuffer_of_no_match registerEnv _ _ matched
      · simp only [same, getMatchBufIndex_registered matched registers]
        exact slot_of_registered registers rfl
      · refine ⟨?_, fun slot => absurd slot.1 (refuses index)⟩
        rintro ⟨_, same, _⟩
        grind
  | false =>
    have refused := @requestSlot_of_not_registered startEnv registerEnv channel buffer index active
    cases matched : channel.mMemory.mGrallocMem.getMatchBufIndex buffer with
    | some found =>
      obtain ⟨room, same⟩ | ⟨noRoom, failed⟩ := @registerBuffer_of_match startEnv _ _ _ matched
      · have streams : max 1 channel.m_numStreams ≠ 0 := by omega
        simp only [requestSlot, startOnRequest, active, Bool.false_eq_true, if_false, same, start,
          streams, matchOrRegister, matched]
        grind
      · refine ⟨?_, fun slot => by grind⟩
        rintro ⟨after, same, _⟩
        exact absurd same (refused failed after)
    | none =>
      obtain ⟨place, registers, same⟩ | ⟨refuses, failed⟩ :=
        @registerBuffer_of_no_match startEnv _ _ matched
      · have found := getMatchBufIndex_registered matched registers
        have streams : (RegularChannel.registered buffer place channel).m_numStreams ≠ 0 := by
          simp only [RegularChannel.registered]
          omega
        simp only [requestSlot, startOnRequest, active, Bool.false_eq_true, if_false, same, start,
          streams, matchOrRegister, found]
        exact slot_of_registered registers rfl
      · refine ⟨?_, fun slot => absurd slot.1 (refuses index)⟩
        rintro ⟨after, same, _⟩
        exact absurd same (refused failed after)

end Slots

variable {result : Except Status Nat} {before after : YuvChannel} {info : PpInfo}

/-! ## The steps -/

section Steps

variable {env : YuvEnv} {yuv next : YuvChannel} {buffer index : Nat} {frameNumber : UInt32}

/-- A mark is made where there is a buffer. -/
theorem mark_status (index : Nat) (frameNumber : UInt32) (yuv : YuvChannel) :
    (yuv.mark index frameNumber).2 =
      if holds yuv.channel.mMemory index then .noError else .badIndex := by
  simp only [YuvChannel.mark, StreamMem.markFrameNumber, HeapMemory.markFrameNumber,
    GrallocMemory.markFrameNumber, holds]
  split
  · simp only [decide_eq_true_eq]
    split <;> rfl
  · split <;> rfl

theorem bufDone_of_queues
    (queues : Queues env yuv (holds yuv.channel.mMemory index) index) :
    bufDone env index yuv = ({ yuv with
      mapped := Function.update yuv.mapped index true
      queued := yuv.queued ++ [index] }, .noError) := by
  obtain ⟨known, mappable, qbufOk⟩ := queues
  rw [bufDone, if_neg (Nat.not_le_of_lt known), if_neg (by grind), if_neg (by grind),
    if_neg (by grind), if_pos qbufOk]

/-- A buffer that the stream does not take. -/
theorem bufDone_of_not_queues
    (refused : ¬ Queues env yuv (holds yuv.channel.mMemory index) index) :
    ∃ mapped status, status ≠ .noError ∧
      bufDone env index yuv = ({ yuv with mapped := mapped }, status) := by
  unfold bufDone
  split
  · exact ⟨yuv.mapped, .badIndex, nofun, rfl⟩
  · split
    · exact ⟨yuv.mapped, .noInit, nofun, rfl⟩
    · split
      · exact ⟨yuv.mapped, .invalidOperation, nofun, rfl⟩
      · split
        · exact ⟨yuv.mapped, .badValue, nofun, rfl⟩
        · rename_i known memOps held mapOk
          have noQbuf : env.qbufOk = false := by
            by_contra qbufOk
            refine refused ⟨Nat.lt_of_not_le known, ?_, Bool.not_eq_false _ ▸ qbufOk⟩
            cases mapped : yuv.mapped index with
            | true => exact Or.inl rfl
            | false =>
              rw [not_and, Bool.not_eq_false] at memOps held mapOk
              exact Or.inr ⟨memOps mapped, held mapped, mapOk mapped⟩
          refine ⟨Function.update yuv.mapped index true, .failedTransaction, nofun, ?_⟩
          rw [noQbuf, if_neg Bool.false_ne_true]

/-- How a request without an input buffer ends. -/
inductive RegularEnds (env : YuvEnv) (yuv : YuvChannel) (buffer : Nat) (next : YuvChannel) :
    Except Status Nat → Prop where
  | refused (status : Status) (mapped : Nat → Bool)
      (after : next = { yuv with
        channel := (requestSlot env.startEnv env.registerEnv buffer yuv.channel).1
        mapped := mapped })
      (slot : ∀ marked, ¬ SlotQueues env yuv buffer marked) :
      RegularEnds env yuv buffer next (.error status)
  | done (slot : SlotQueues env yuv buffer true) : RegularEnds env yuv buffer next (.ok 0)
  | unmarked (status : Status) (index : Nat) (queued : next.queued = yuv.queued ++ [index])
      (infos : next.mOfflinePpInfoList = yuv.mOfflinePpInfoList)
      (slot : SlotQueues env yuv buffer false) :
      RegularEnds env yuv buffer next (.error status)

theorem regularRequest_ends (env : YuvEnv) (buffer : Nat) (frameNumber : UInt32)
    (yuv : YuvChannel) :
    RegularEnds env yuv buffer (regularRequest env buffer frameNumber yuv).1
      (regularRequest env buffer frameNumber yuv).2 := by
  unfold regularRequest
  cases found : requestSlot env.startEnv env.registerEnv buffer yuv.channel with
  | mk channel slot =>
    cases slot with
    | error status =>
      refine .refused status yuv.mapped (by rw [found]) ?_
      rintro marked ⟨index, slot, _⟩
      obtain ⟨other, same, _⟩ := requestSlot_iff.mpr slot
      rw [found] at same
      cases same
    | ok index =>
      have slot := requestSlot_iff.mp ⟨channel, found, rfl⟩
      simp only
      by_cases queues : Queues env yuv (holds channel.mMemory index) index
      · have taken : Queues env { yuv with channel := channel } (holds channel.mMemory index)
            index := queues
        rw [bufDone_of_queues taken]
        simp only [mark_status]
        cases held : holds channel.mMemory index with
        | true => exact .done ⟨index, held ▸ slot, held ▸ queues⟩
        | false => exact .unmarked _ index rfl rfl ⟨index, held ▸ slot, held ▸ queues⟩
      · have refused : ¬ Queues env { yuv with channel := channel } (holds channel.mMemory index)
            index := queues
        obtain ⟨mapped, status, failed, same⟩ := bufDone_of_not_queues refused
        rw [same]
        cases status with
        | noError => exact absurd rfl failed
        | _ =>
          refine .refused _ mapped (by rw [found]) ?_
          rintro marked ⟨place, again, takes⟩
          obtain ⟨other, same, held⟩ := requestSlot_iff.mpr again
          rw [found] at same
          cases same
          exact queues (held ▸ takes)

theorem SlotQueues.unique {first second : Bool} (one : SlotQueues env yuv buffer first)
    (other : SlotQueues env yuv buffer second) : first = second := by
  obtain ⟨index, slot, _⟩ := one
  obtain ⟨place, slotAgain, _⟩ := other
  obtain ⟨channel, found, held⟩ := requestSlot_iff.mpr slot
  obtain ⟨again, foundAgain, heldAgain⟩ := requestSlot_iff.mpr slotAgain
  rw [found] at foundAgain
  cases foundAgain
  exact held.symm.trans heldAgain

/-- A request that fails leaves the notes as it finds them. -/
theorem RegularEnds.infos {status : Status}
    (ends : RegularEnds env yuv buffer next result) (failed : result = .error status) :
    next.mOfflinePpInfoList = yuv.mOfflinePpInfoList := by
  cases ends with
  | refused _ _ after _ => rw [after]
  | done _ => cases failed
  | unmarked _ _ _ infos _ => exact infos

/-- A request without an input buffer succeeds exactly when its slot can be marked. -/
theorem RegularEnds.ok_iff (ends : RegularEnds env yuv buffer next result) :
    (∃ rc, result = .ok rc) ↔ SlotQueues env yuv buffer true := by
  cases ends with
  | refused _ _ _ slot => exact ⟨nofun, fun works => absurd works (slot true)⟩
  | done slot => exact ⟨fun _ => slot, fun _ => ⟨0, rfl⟩⟩
  | unmarked _ _ _ _ slot => exact ⟨nofun, fun works => nomatch slot.unique works⟩

/-- The heap buffer of a frame that is post-processed. -/
theorem takeHeapBuffer_ends (env : YuvEnv) (yuv : YuvChannel) :
    (takeHeapBuffer env yuv).1.mOfflinePpInfoList = yuv.mOfflinePpInfoList ∧
      ((takeHeapBuffer env yuv).2 ≠ none ↔ yuv.mFreeHeapBufferList ≠ [] ∨
        env.allocated = true ∧
          yuv.channel.mMemory.mHeapMem.mBufferCount < yuv.channel.mMemory.mHeapMem.mMaxCnt) := by
  unfold takeHeapBuffer
  cases free : yuv.mFreeHeapBufferList with
  | cons bufIdx rest => simp
  | nil =>
    refine ⟨rfl, ?_⟩
    simp only [HeapMemory.allocateOne]
    split
    · simp; omega
    · cases env.allocated with
      | true => simp; omega
      | false => simp

/-- A buffer goes to the stream exactly when there is a heap buffer. -/
theorem captureToHeap_ends (env : YuvEnv) (frameNumber : UInt32) (yuv : YuvChannel) :
    ((∃ rc, (captureToHeap env frameNumber yuv).2 = .ok rc) ↔
      yuv.mFreeHeapBufferList ≠ [] ∨ env.allocated = true ∧
        yuv.channel.mMemory.mHeapMem.mBufferCount < yuv.channel.mMemory.mHeapMem.mMaxCnt) ∧
      ∀ status, (captureToHeap env frameNumber yuv).2 = .error status →
        (captureToHeap env frameNumber yuv).1.mOfflinePpInfoList = yuv.mOfflinePpInfoList := by
  obtain ⟨infos, taken⟩ := takeHeapBuffer_ends env yuv
  rw [← taken]
  unfold captureToHeap
  split
  · rename_i failed took
    rw [took] at infos ⊢
    exact ⟨⟨nofun, fun has => absurd rfl has⟩, fun _ _ => infos⟩
  · rename_i took
    rw [took]
    exact ⟨⟨fun _ => nofun, fun _ => ⟨_, rfl⟩⟩, nofun⟩

/-- A frame that is post-processed is requested exactly when there is a heap buffer. -/
theorem offlineRequest_ends (env : YuvEnv) (frameNumber : UInt32) (yuv : YuvChannel) :
    ((∃ rc, (offlineRequest env frameNumber yuv).2 = .ok rc) ↔ HeapWorks env yuv) ∧
      ∀ status, (offlineRequest env frameNumber yuv).2 = .error status →
        (offlineRequest env frameNumber yuv).1.mOfflinePpInfoList = yuv.mOfflinePpInfoList := by
  unfold offlineRequest HeapWorks
  by_cases active : yuv.channel.m_bIsActive = true
  · obtain ⟨works, infos⟩ := captureToHeap_ends env frameNumber yuv
    rw [if_pos active, works]
    exact ⟨⟨fun has => ⟨Or.inl active, has⟩, And.right⟩, infos⟩
  · rw [if_neg active]
    by_cases streams : yuv.channel.m_numStreams = 0
    · rw [start, if_pos streams]
      refine ⟨⟨nofun, fun works => ?_⟩, fun _ _ => rfl⟩
      cases works.1 with
      | inl isActive => exact absurd isActive active
      | inr some => exact absurd streams some
    · rw [start, if_neg streams]
      obtain ⟨works, infos⟩ := captureToHeap_ends env frameNumber
        { yuv with channel := { yuv.channel with m_bIsActive := true } }
      simp only
      rw [works]
      exact ⟨⟨fun has => ⟨Or.inr streams, has⟩, And.right⟩, infos⟩

end Steps

/-! ## Callbacks after a request -/

section Callbacks

theorem Unchanged.refl (yuv : YuvChannel) : Unchanged yuv yuv :=
  ⟨rfl, rfl, rfl, fun _ _ _ _ => rfl⟩

/-- Callbacks read the list and the frame numbers only. -/
theorem streamCbRoutine_congr {superFrame frameIndex : Nat} {mallocOk : Bool}
    (infos : after.mOfflinePpInfoList = before.mOfflinePpInfoList)
    (bypass : after.mBypass = before.mBypass)
    (mNumBufs : after.channel.mNumBufs = before.channel.mNumBufs)
    (number : after.channel.mMemory.getFrameNumber frameIndex =
      before.channel.mMemory.getFrameNumber frameIndex) :
    (streamCbRoutine superFrame frameIndex mallocOk after).2 =
      (streamCbRoutine superFrame frameIndex mallocOk before).2 := by
  simp only [streamCbRoutine, infos, bypass, mNumBufs, number]
  split
  · rfl
  · split
    · split
      · rfl
      · split
        · rfl
        · split <;> rfl
    · rfl

/-- A slot that holds a buffer keeps its frame number while others are registered. -/
theorem getFrameNumber_of_extends {earlier later : StreamMem} {index : Nat}
    (heap : later.mHeapMem = earlier.mHeapMem)
    (layout : later.mMaxHeapBuffers = earlier.mMaxHeapBuffers)
    (extension : earlier.mGrallocMem.Extends later.mGrallocMem)
    (held : holds earlier index = true) :
    later.getFrameNumber index = earlier.getFrameNumber index := by
  rw [StreamMem.getFrameNumber, StreamMem.getFrameNumber, heap, layout]
  rw [holds] at held
  split
  · rfl
  · rename_i inGralloc
    rw [if_neg inGralloc] at held
    rw [GrallocMemory.getFrameNumber, GrallocMemory.getFrameNumber,
      if_pos (extension.isRegistered held), if_pos held, extension.slots index held]

/-- Registering and starting touch neither the heap memory nor the number of buffers. -/
def SameHeap (before after : RegularChannel) : Prop :=
  after.mNumBufs = before.mNumBufs ∧ after.mMemory.mHeapMem = before.mMemory.mHeapMem

theorem registerBuffer_sameHeap (env : RegisterEnv) (buffer : Nat) (channel : RegularChannel) :
    SameHeap channel (registerBuffer env buffer channel).1 := by
  unfold registerBuffer
  split
  · exact ⟨rfl, rfl⟩
  · split
    · exact ⟨rfl, rfl⟩
    · split <;> exact ⟨rfl, rfl⟩

theorem requestSlot_sameHeap (startEnv registerEnv : RegisterEnv) (buffer : Nat)
    (channel : RegularChannel) :
    SameHeap channel (requestSlot startEnv registerEnv buffer channel).1 := by
  have starts : SameHeap channel (startOnRequest startEnv buffer channel).1 := by
    have registers := registerBuffer_sameHeap startEnv buffer channel
    unfold startOnRequest
    split
    · exact ⟨rfl, rfl⟩
    · split <;> rename_i registered <;> rw [registered] at registers
      · unfold start
        split <;> exact registers
      · exact registers
  have looksUp (started : RegularChannel) :
      SameHeap started (matchOrRegister registerEnv buffer started).1 := by
    have registers := registerBuffer_sameHeap registerEnv buffer started
    unfold matchOrRegister
    split
    · exact ⟨rfl, rfl⟩
    · split <;> rename_i registered <;> rw [registered] at registers
      · split <;> exact registers
      · exact registers
  unfold requestSlot
  split <;> rename_i started <;> rw [started] at starts
  · rename_i channelStarted
    have looks := looksUp channelStarted
    exact ⟨looks.1.trans starts.1, looks.2.trans starts.2⟩
  · exact starts

/-- A request that is refused before its buffer is queued changes no callback. -/
theorem Unchanged.of_requestSlot (startEnv registerEnv : RegisterEnv) (buffer : Nat)
    (mapped : Nat → Bool) (yuv : YuvChannel) :
    Unchanged yuv { yuv with
      channel := (requestSlot startEnv registerEnv buffer yuv.channel).1
      mapped := mapped } := by
  obtain ⟨mNumBufs, heap⟩ := requestSlot_sameHeap startEnv registerEnv buffer yuv.channel
  obtain ⟨layout, extension⟩ := requestSlot_extends startEnv registerEnv buffer yuv.channel
  refine ⟨rfl, rfl, rfl, ?_⟩
  intro superFrame frameIndex mallocOk held
  exact streamCbRoutine_congr rfl rfl mNumBufs
    (getFrameNumber_of_extends heap layout extension held)

end Callbacks

/-! ## The exact condition -/

/-- A request that is noted keeps its note and succeeds exactly when no step fails. -/
theorem notedRequest_ends (env : YuvEnv) (buffer : Nat) (frameNumber : UInt32) (ppFlag : Bool)
    (yuv : YuvChannel) :
    ((∃ rc, (notedRequest env buffer frameNumber ppFlag yuv).2 = .ok rc) ↔
      if ppFlag then HeapWorks env yuv else SlotQueues env yuv buffer true) ∧
      ∀ status, (notedRequest env buffer frameNumber ppFlag yuv).2 = .error status →
        (notedRequest env buffer frameNumber ppFlag yuv).1.mOfflinePpInfoList =
          yuv.mOfflinePpInfoList := by
  cases ppFlag with
  | true => exact offlineRequest_ends env frameNumber yuv
  | false =>
    have ends := regularRequest_ends env buffer frameNumber yuv
    exact ⟨ends.ok_iff, fun _ => ends.infos⟩

/-- A note that is left behind is a change. -/
theorem not_unchanged_of_noted
    (noted : after.mOfflinePpInfoList = before.mOfflinePpInfoList ++ [info]) :
    ¬ Unchanged before after := by
  intro unchanged
  have same := congrArg List.length (noted.symm.trans unchanged.infos)
  simp at same

/-- After a note the call is atomic exactly when it succeeds. -/
theorem atomic_iff_of_noted {works : Prop} (succeeds : (∃ rc, result = .ok rc) ↔ works)
    (noted : ∀ status, result = .error status →
      after.mOfflinePpInfoList = before.mOfflinePpInfoList ++ [info]) :
    (∀ status, result = .error status → Unchanged before after) ↔ works := by
  rw [← succeeds]
  cases result with
  | ok rc => exact ⟨fun _ => ⟨rc, rfl⟩, fun _ => nofun⟩
  | error status =>
    refine ⟨fun atomic => ?_, nofun⟩
    exact absurd (atomic status rfl) (not_unchanged_of_noted (noted status rfl))

/-- Without a note only a queued buffer is a change. -/
theorem RegularEnds.atomic_iff {env : YuvEnv} {yuv next : YuvChannel} {buffer : Nat}
    (ends : RegularEnds env yuv buffer next result) :
    (∀ status, result = .error status → Unchanged yuv next) ↔
      ¬ SlotQueues env yuv buffer false := by
  cases ends with
  | refused status mapped after slot =>
    refine ⟨fun _ => slot false, fun _ _ _ => ?_⟩
    rw [after]
    exact Unchanged.of_requestSlot env.startEnv env.registerEnv buffer mapped yuv
  | done slot =>
    refine ⟨fun _ unmarked => ?_, fun _ _ failed => nomatch failed⟩
    exact Bool.noConfusion (slot.unique unmarked)
  | unmarked status index queued infos slot =>
    refine ⟨fun atomic => ?_, fun none => absurd slot none⟩
    have same := congrArg List.length (queued.symm.trans (atomic status rfl).queued)
    simp at same

/-- A request is atomic on error exactly when none of its steps fails late. -/
theorem request_atomic_iff (env : YuvEnv) (asked : YuvRequest) (yuv : YuvChannel) :
    Atomic env asked yuv ↔ Careful env asked yuv := by
  unfold Atomic Careful request
  cases asked.buffer with
  | none => exact ⟨fun _ => trivial, fun _ _ _ => .refl yuv⟩
  | some buffer =>
    cases asked.metadata with
    | none => exact ⟨fun _ => trivial, fun _ _ _ => .refl yuv⟩
    | some metadata =>
      by_cases hasInput : asked.hasInput = true
      · simp only [hasInput, if_true, iff_true, inputRequest]
        intro _ _
        split <;> exact .refl yuv
      · simp only [if_neg hasInput]
        by_cases bypass : yuv.mBypass = true
        · simp only [if_pos bypass, needsFramePostprocessing]
          obtain ⟨succeeds, noted⟩ := notedRequest_ends env buffer asked.frameNumber
            (yuv.readMetadata metadata).ppNeeded ((yuv.readMetadata metadata).note
              ⟨asked.frameNumber, (yuv.readMetadata metadata).ppNeeded, buffer, none⟩)
          exact atomic_iff_of_noted succeeds noted
        · simp only [if_neg bypass]
          exact (regularRequest_ends env buffer asked.frameNumber yuv).atomic_iff

/-- A channel that bypasses the post-processor, started with one buffer. -/
def startedChannel : YuvChannel where
  channel :=
    { mMemory :=
        { mHeapMem := .new 2
          mGrallocMem := { (GrallocMemory.new 2).setSlot 2 ⟨true, some 7, -1⟩ with
            mBufferCount := 1 }
          mMaxHeapBuffers := 2 }
      mNumBufs := 4
      m_numStreams := 1
      m_bIsActive := true
      mPerFrameMapUnmapEnable := false }
  mBypass := true
  mEdgeMode := .off
  mNoiseRedMode := .off
  mCropRegion := (640, 480)
  streamSize := (640, 480)
  mOfflinePpInfoList := []
  mFreeHeapBufferList := []
  mapped := fun _ => true
  queued := []

/-- The stream refuses the buffer of a request, which stays in the list. -/
theorem request_leaves_note :
    ¬ ∀ (env : YuvEnv) (asked : YuvRequest) (yuv : YuvChannel), Atomic env asked yuv := by
  intro atomic
  have unchanged := atomic ⟨⟨true, true⟩, ⟨true, true⟩, 4, true, true, false, true, true, .noError⟩
    ⟨some 7, 3, false, some ⟨none, none, none⟩⟩ startedChannel .failedTransaction (by decide)
  have same := unchanged.infos
  revert same
  decide

end AnglerHal.Yuv
