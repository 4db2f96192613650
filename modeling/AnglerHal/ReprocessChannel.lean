import AnglerHal.LabelledRun
import AnglerHal.StreamMemory

namespace AnglerHal.Channel

/-!
# The reprocess channel and its offline mappings

This module embeds `QCamera3ReprocessChannel::doReprocessOffline` and
`unmapOfflineBuffers`.  A call first queues an output buffer, then maps the
input frame and its metadata under two round-robin indices, and at last asks
the stream to reprocess them.  What the calls to the stream and to the
allocators return is part of the event.

Every call is a job with a number of its own, which the list entries remember.
-/

/-- `reprocess_type_t`. -/
inductive ReprocessType where
  | none
  | jpeg
  | yuv
  | privateFormat
  | raw
  deriving DecidableEq

/-- The two mapping types of offline buffers. -/
inductive MappingType where
  | offlineInputBuf
  | offlineMetaBuf
  deriving DecidableEq

/-- `OfflineBuffer`, with the job that mapped it. -/
structure OfflineBuffer where
  index : Nat
  type : MappingType
  job : Nat
  deriving DecidableEq

/-- The fields of a `qcamera_fwk_input_pp_data_t` that reprocessing reads. -/
structure FwkInputData where
  frameNumber : UInt32
  outputBuffer : Option Nat
  hasInputBuffer : Bool
  hasMetadata : Bool
  deriving DecidableEq

/-- How the calls out of one `doReprocessOffline` end. -/
structure ReprocessEnv where
  firstImport : Bool
  started : Bool
  secondImport : Bool
  allocated : Bool
  bufDone : Bool
  mapInputRc : Int32
  mapMetaRc : Int32
  setParameterRc : Int32
  deriving DecidableEq

/-- The members of `QCamera3ReprocessChannel` that reprocessing uses. -/
structure ReprocessChannel where
  mNumBuffers : Nat
  m_numStreams : Nat
  m_bIsActive : Bool
  mReprocessType : ReprocessType
  mGrallocMemory : GrallocMemory
  mMemory : HeapMemory
  mFreeBufferList : List Nat
  mOfflineBuffersIndex : Int
  mOfflineMetaIndex : Int
  mOfflineBuffers : List OfflineBuffer
  mOfflineMetaBuffers : List OfflineBuffer
  /-- The number of the next job. -/
  nextJob : Nat

/-- The calls out of the reprocess channel. -/
inductive ReprocessOutput where
  | mapBuf (buffer : OfflineBuffer)
  | unmapBuf (buffer : OfflineBuffer)
  | doReprocess (job : Nat) (bufIndex metaBufIndex : Nat)
  | inputError (frameNumber : UInt32)
  deriving DecidableEq

/-- `QCamera3ReprocessChannel::registerBuffer` of an output buffer. -/
def ReprocessChannel.registerBuffer (imported : Bool) (buffer : Nat)
    (channel : ReprocessChannel) : ReprocessChannel × Status :=
  if channel.mNumBuffers - 1 < channel.mGrallocMemory.mBufferCount then
    (channel, .badValue)
  else
    match channel.mGrallocMemory.registerBuffer imported buffer with
    | (gralloc, .alreadyExists) => ({ channel with mGrallocMemory := gralloc }, .noError)
    | (gralloc, status) => ({ channel with mGrallocMemory := gralloc }, status)

/-- Register the output buffer and start the channel on its first job. -/
def startOnReprocess (env : ReprocessEnv) (buffer : Nat)
    (channel : ReprocessChannel) : ReprocessChannel × Status :=
  if channel.m_bIsActive then
    (channel, .noError)
  else
    match channel.registerBuffer env.firstImport buffer with
    | (registered, .noError) =>
      if env.started then
        ({ registered with m_bIsActive := true }, .noError)
      else
        (registered, .unknownError)
    | (registered, status) => (registered, status)

/-- Find the slot of the output buffer, registering it if it has none. -/
def outputSlot (imported : Bool) (buffer : Nat)
    (channel : ReprocessChannel) : ReprocessChannel × Except Status Nat :=
  match channel.mGrallocMemory.getMatchBufIndex buffer with
  | some index => (channel, .ok index)
  | none =>
    match channel.registerBuffer imported buffer with
    | (registered, .noError) =>
      match registered.mGrallocMemory.getMatchBufIndex buffer with
      | some index => (registered, .ok index)
      | none => (registered, .error .deadObject)
    | (registered, status) => (registered, .error status)

/-- Queue an output buffer that the framework allocated. -/
def queueFwkOutput (env : ReprocessEnv) (buffer : Nat) (frameNumber : UInt32)
    (channel : ReprocessChannel) : ReprocessChannel × Status :=
  match startOnReprocess env buffer channel with
  | (started, .noError) =>
    match outputSlot env.secondImport buffer started with
    | (registered, .ok index) =>
      if env.bufDone then
        ({ registered with
            mGrallocMemory :=
              (registered.mGrallocMemory.markFrameNumber index frameNumber).1 }, .noError)
      else
        (registered, .failedTransaction)
    | (registered, .error status) => (registered, status)
  | (started, status) => (started, status)

/-- Take a heap buffer for the output of a JPEG reprocess. -/
def takeHeapBuffer (allocated : Bool)
    (channel : ReprocessChannel) : ReprocessChannel × Option Nat :=
  match channel.mFreeBufferList with
  | [] =>
    let (memory, index) := channel.mMemory.allocateOne allocated
    ({ channel with mMemory := memory }, index)
  | index :: rest => ({ channel with mFreeBufferList := rest }, some index)

/-- Queue an output buffer of the channel's own. -/
def queueHeapOutput (env : ReprocessEnv) (frameNumber : UInt32)
    (channel : ReprocessChannel) : ReprocessChannel × Status :=
  match takeHeapBuffer env.allocated channel with
  | (taken, none) => (taken, .badValue)
  | (taken, some index) =>
    let marked := { taken with
          mMemory := (taken.mMemory.markFrameNumber index frameNumber).1 }
    if env.bufDone then
      (marked, .noError)
    else
      (marked, .failedTransaction)

/-- `doReprocessOffline` up to the mappings. -/
def queueOutput (env : ReprocessEnv) (frame : FwkInputData)
    (channel : ReprocessChannel) : ReprocessChannel × Status :=
  if channel.m_numStreams < 1 then
    (channel, .unknownError)
  else if frame.hasMetadata = false ∨ frame.hasInputBuffer = false then
    (channel, .badValue)
  else if channel.mReprocessType = .jpeg then
    queueHeapOutput env frame.frameNumber channel
  else
    match frame.outputBuffer with
    | some buffer => queueFwkOutput env buffer frame.frameNumber channel
    | none => (channel, .noError)

/-- Loop the input index back when the last one has been given out. -/
def wrapBuffersIndex (channel : ReprocessChannel) : Int :=
  if channel.mOfflineBuffersIndex = (channel.mNumBuffers : Int) - 1 then
    -1
  else
    channel.mOfflineBuffersIndex

/-- Loop the metadata index back when the last one has been given out. -/
def wrapMetaIndex (channel : ReprocessChannel) : Int :=
  if channel.mOfflineMetaIndex = (channel.mNumBuffers : Int) * 2 - 1 then
    (channel.mNumBuffers : Int) - 1
  else
    channel.mOfflineMetaIndex

/-- `buf_idx`. -/
def bufIdx (channel : ReprocessChannel) : Nat :=
  (wrapBuffersIndex channel + 1).toNat

/-- `meta_buf_idx`. -/
def metaBufIdx (channel : ReprocessChannel) : Nat :=
  (wrapMetaIndex channel + 1).toNat

/-- Map the input frame, recording the mapping if it succeeds. -/
def mapInput (env : ReprocessEnv) (job : Nat) (channel : ReprocessChannel) :
    ReprocessChannel × List ReprocessOutput :=
  if env.mapInputRc = 0 then
    let mapped : OfflineBuffer := ⟨bufIdx channel, .offlineInputBuf, job⟩
    ({ channel with
        mOfflineBuffers := channel.mOfflineBuffers ++ [mapped]
        mOfflineBuffersIndex := bufIdx channel }, [.mapBuf mapped])
  else
    ({ channel with mOfflineBuffersIndex := wrapBuffersIndex channel }, [])

/--
Map the metadata.  The mapping is recorded only if the mapping of the input
frame succeeded too, since the two status codes are joined by then.
-/
def mapMeta (env : ReprocessEnv) (job : Nat) (channel : ReprocessChannel) :
    ReprocessChannel × List ReprocessOutput :=
  let mapped : OfflineBuffer := ⟨metaBufIdx channel, .offlineMetaBuf, job⟩
  let called : List ReprocessOutput := if env.mapMetaRc = 0 then [.mapBuf mapped] else []
  if env.mapInputRc ||| env.mapMetaRc = 0 then
    ({ channel with
        mOfflineMetaBuffers := channel.mOfflineMetaBuffers ++ [mapped]
        mOfflineMetaIndex := metaBufIdx channel }, called)
  else
    ({ channel with mOfflineMetaIndex := wrapMetaIndex channel }, called)

/-- The mappings and the request to reprocess. -/
def mapAndReprocess (env : ReprocessEnv) (frame : FwkInputData) (job : Nat)
    (channel : ReprocessChannel) :
    ReprocessChannel × List ReprocessOutput :=
  let (withInput, inputCalls) := mapInput env job channel
  let (withMeta, metaCalls) := mapMeta env job withInput
  let submitted : List ReprocessOutput := if env.mapInputRc ||| env.mapMetaRc ≠ 0 then
      [.inputError frame.frameNumber]
    else if env.setParameterRc ≠ 0 then
      [.inputError frame.frameNumber]
    else
      [.doReprocess job (bufIdx channel) (metaBufIdx withInput)]
  (withMeta, inputCalls ++ metaCalls ++ submitted)

/-- `QCamera3ReprocessChannel::doReprocessOffline`. -/
def doReprocessOffline (env : ReprocessEnv) (frame : FwkInputData) (channel : ReprocessChannel) :
    ReprocessChannel × List ReprocessOutput :=
  let numbered := { channel with nextJob := channel.nextJob + 1 }
  match queueOutput env frame numbered with
  | (queued, .noError) => mapAndReprocess env frame channel.nextJob queued
  | (failed, _) => (failed, [])

/-- The entries that one call unmaps and removes. -/
def unmapped (all : Bool) (buffers : List OfflineBuffer) : List OfflineBuffer :=
  if all then buffers else buffers.take 1

/-- The entries that one call keeps. -/
def stillMapped (all : Bool) (buffers : List OfflineBuffer) : List OfflineBuffer :=
  if all then [] else buffers.drop 1

/-- `unmapOfflineBuffers`. -/
def unmapOfflineBuffers (all : Bool) (channel : ReprocessChannel) :
    ReprocessChannel × List ReprocessOutput :=
  ({ channel with
      mOfflineBuffers := stillMapped all channel.mOfflineBuffers
      mOfflineMetaBuffers := stillMapped all channel.mOfflineMetaBuffers },
    (unmapped all channel.mOfflineBuffers ++
      unmapped all channel.mOfflineMetaBuffers).map .unmapBuf)

/-- The operations on the offline mappings. -/
inductive ReprocessEvent where
  | doReprocessOffline (env : ReprocessEnv) (frame : FwkInputData)
  | unmapOfflineBuffers (all : Bool)
  deriving DecidableEq

/-- Execute one operation. -/
def reprocessStep (channel : ReprocessChannel) :
    ReprocessEvent → Option (ReprocessChannel × List ReprocessOutput)
  | .doReprocessOffline env frame => some (doReprocessOffline env frame channel)
  | .unmapOfflineBuffers all => some (unmapOfflineBuffers all channel)

/-- Execute a list of operations. -/
def reprocessRun (channel : ReprocessChannel) (events : List ReprocessEvent) :
    Option (ReprocessChannel × List ReprocessOutput) :=
  LabelledRun.run? reprocessStep channel events

/-- A channel as its constructor leaves it, with its stream added. -/
def newReprocessChannel (numBuffers : Nat) (reprocessType : ReprocessType) : ReprocessChannel where
  mNumBuffers := numBuffers
  m_numStreams := 1
  m_bIsActive := false
  mReprocessType := reprocessType
  mGrallocMemory := .new 0
  mMemory := .new numBuffers
  mFreeBufferList := []
  mOfflineBuffersIndex := (numBuffers : Int) - 1
  mOfflineMetaIndex := (numBuffers : Int) * 2 - 1
  mOfflineBuffers := []
  mOfflineMetaBuffers := []
  nextJob := 0

end AnglerHal.Channel
