import AnglerHal.StreamMemory

namespace AnglerHal.Channel

/-!
# The buffers of a regular channel

`QCamera3RegularChannel::request` looks for the slot of a buffer in the gralloc memory
of the channel, and registers the buffer if it has none.
-/

/-- How the calls out of `QCamera3ProcessingChannel::registerBuffer` end. -/
structure RegisterEnv where
  initialized : Bool
  imported : Bool
  deriving DecidableEq

/-- The members of a `QCamera3RegularChannel` that its requests use. -/
structure RegularChannel where
  mMemory : StreamMem
  mNumBufs : Nat
  m_numStreams : Nat
  m_bIsActive : Bool
  mPerFrameMapUnmapEnable : Bool

/-- Replace the gralloc memory of the channel. -/
def RegularChannel.setGralloc (channel : RegularChannel)
    (gralloc : GrallocMemory) : RegularChannel :=
  { channel with
      mMemory := { channel.mMemory with mGrallocMem := gralloc } }

/-- `QCamera3ProcessingChannel::registerBuffer`. -/
def registerBuffer (env : RegisterEnv) (buffer : Nat)
    (channel : RegularChannel) : RegularChannel × Status :=
  if channel.mNumBufs - 1 < channel.mMemory.getCnt then
    (channel, .badValue)
  else if channel.m_numStreams = 0 ∧ env.initialized = false then
    (channel, .unknownError)
  else
    match channel.mMemory.mGrallocMem.registerBuffer env.imported buffer with
    | (gralloc, .alreadyExists) =>
      ({ channel.setGralloc gralloc with
          m_numStreams := max 1 channel.m_numStreams }, .noError)
    | (gralloc, status) =>
      ({ channel.setGralloc gralloc with
          m_numStreams := max 1 channel.m_numStreams }, status)

/-- `QCamera3Channel::start`. -/
def start (channel : RegularChannel) : RegularChannel × Status :=
  if channel.m_numStreams = 0 then
    (channel, .noInit)
  else
    ({ channel with m_bIsActive := true }, .noError)

/-- The first request registers its buffer and starts the channel. -/
def startOnRequest (env : RegisterEnv) (buffer : Nat)
    (channel : RegularChannel) : RegularChannel × Status :=
  if channel.m_bIsActive then
    (channel, .noError)
  else
    match registerBuffer env buffer channel with
    | (registered, .noError) => start registered
    | (registered, status) => (registered, status)

/-- Find the slot of a buffer, registering the buffer if it has none. -/
def matchOrRegister (env : RegisterEnv) (buffer : Nat)
    (channel : RegularChannel) : RegularChannel × Except Status Nat :=
  match channel.mMemory.mGrallocMem.getMatchBufIndex buffer with
  | some index => (channel, .ok index)
  | none =>
    match registerBuffer env buffer channel with
    | (registered, .noError) =>
      match registered.mMemory.mGrallocMem.getMatchBufIndex buffer with
      | some index => (registered, .ok index)
      | none => (registered, .error .deadObject)
    | (registered, status) => (registered, .error status)

/-- `request` up to the slot of the buffer. -/
def requestSlot (startEnv registerEnv : RegisterEnv) (buffer : Nat)
    (channel : RegularChannel) : RegularChannel × Except Status Nat :=
  match startOnRequest startEnv buffer channel with
  | (started, .noError) => matchOrRegister registerEnv buffer started
  | (started, status) => (started, .error status)

theorem registerBuffer_extends (env : RegisterEnv) (buffer : Nat) (channel : RegularChannel) :
    (registerBuffer env buffer channel).1.mMemory.mMaxHeapBuffers =
        channel.mMemory.mMaxHeapBuffers ∧
      channel.mMemory.mGrallocMem.Extends
        (registerBuffer env buffer channel).1.mMemory.mGrallocMem := by
  have extension :=
    GrallocMemory.registerBuffer_extends env.imported buffer channel.mMemory.mGrallocMem
  unfold registerBuffer
  split
  · exact ⟨rfl, .refl _⟩
  · split
    · exact ⟨rfl, .refl _⟩
    · split <;> rename_i registered <;> rw [registered] at extension <;>
        exact ⟨rfl, extension⟩

theorem startOnRequest_extends (env : RegisterEnv) (buffer : Nat) (channel : RegularChannel) :
    (startOnRequest env buffer channel).1.mMemory.mMaxHeapBuffers =
        channel.mMemory.mMaxHeapBuffers ∧
      channel.mMemory.mGrallocMem.Extends
        (startOnRequest env buffer channel).1.mMemory.mGrallocMem := by
  have extension := registerBuffer_extends env buffer channel
  unfold startOnRequest
  split
  · exact ⟨rfl, .refl _⟩
  · split <;> rename_i registered <;> rw [registered] at extension
    · unfold start
      split <;> exact extension
    · exact extension

theorem matchOrRegister_extends (env : RegisterEnv) (buffer : Nat) (channel : RegularChannel) :
    (matchOrRegister env buffer channel).1.mMemory.mMaxHeapBuffers =
        channel.mMemory.mMaxHeapBuffers ∧
      channel.mMemory.mGrallocMem.Extends
        (matchOrRegister env buffer channel).1.mMemory.mGrallocMem := by
  have extension := registerBuffer_extends env buffer channel
  unfold matchOrRegister
  split
  · exact ⟨rfl, .refl _⟩
  · split <;> rename_i registered <;> rw [registered] at extension
    · split <;> exact extension
    · exact extension

/-- `request` touches only a free slot before it hands the buffer over. -/
theorem requestSlot_extends (startEnv registerEnv : RegisterEnv) (buffer : Nat)
    (channel : RegularChannel) :
    (requestSlot startEnv registerEnv buffer channel).1.mMemory.mMaxHeapBuffers =
        channel.mMemory.mMaxHeapBuffers ∧
      channel.mMemory.mGrallocMem.Extends (requestSlot startEnv registerEnv buffer
          channel).1.mMemory.mGrallocMem := by
  have starts := startOnRequest_extends startEnv buffer channel
  unfold requestSlot
  split <;> rename_i started <;> rw [started] at starts
  · rename_i channelStarted
    have looks := matchOrRegister_extends registerEnv buffer channelStarted
    exact ⟨looks.1.trans starts.1, starts.2.trans looks.2⟩
  · exact starts

end AnglerHal.Channel
