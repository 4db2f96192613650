import Mathlib.Data.List.Basic

namespace AnglerHal.Channel

/-!
# Buffer memory of a channel

This module embeds the bookkeeping of `QCamera3HeapMemory`,
`QCamera3GrallocMemory` and `QCamera3StreamMem`: which slots hold a buffer, and
which frame number each slot is marked with.  A slot of the heap memory is an
index below `mBufferCount`; a slot of the gralloc memory is an index from
`mStartIdx` up to `MM_CAMERA_MAX_NUM_FRAMES`.

Frame numbers are `uint32_t` values and are stored in `int32_t` marks, `-1`
standing for an unmarked slot.
-/

/-- The status codes that the channels return. -/
inductive Status where
  | noError
  | badValue
  | badIndex
  | noMemory
  | noInit
  | alreadyExists
  | deadObject
  | invalidOperation
  | failedTransaction
  | unknownError
  deriving DecidableEq

/-- `BAD_INDEX`, where it is returned in place of a frame number. -/
def badIndexCode : Int32 :=
  -75

/-- `MM_CAMERA_MAX_NUM_FRAMES`. -/
def maxNumFrames : Nat :=
  64

/-- Frame numbers are told apart by their marks. -/
theorem toInt32_injective : Function.Injective UInt32.toInt32 := by
  intro first second same
  have back := congrArg Int32.toUInt32 same
  simpa using back

/-- One entry of `mMemInfo`, `mBufferHandle` and `mCurrentFrameNumbers`. -/
structure MemSlot where
  /-- `mMemInfo[i].handle != 0`. -/
  registered : Bool
  bufferHandle : Option Nat
  frameNumber : Int32
  deriving DecidableEq

/-- A slot as the constructors leave it. -/
def MemSlot.unused : MemSlot where
  registered := false
  bufferHandle := none
  frameNumber := -1

/-! ## Gralloc memory -/

/-- `QCamera3GrallocMemory`. -/
structure GrallocMemory where
  mStartIdx : Nat
  mBufferCount : Nat
  slots : Nat → MemSlot

namespace GrallocMemory

/-- The memory as its constructor leaves it. -/
def new (startIdx : Nat) : GrallocMemory where
  mStartIdx := startIdx
  mBufferCount := 0
  slots := fun _ => .unused

/-- Overwrite one slot. -/
def setSlot (memory : GrallocMemory) (index : Nat) (slot : MemSlot) : GrallocMemory :=
  { memory with
      slots := fun other =>
        if other = index then slot else memory.slots other }

/-- The slots that the search loops visit, in their order. -/
def indices (memory : GrallocMemory) : List Nat :=
  List.range' memory.mStartIdx (maxNumFrames - memory.mStartIdx)

/-- `getMatchBufIndex`, with `none` for `-1`. -/
def getMatchBufIndex (memory : GrallocMemory) (buffer : Nat) : Option Nat :=
  memory.indices.find? fun index =>
    (memory.slots index).bufferHandle == some buffer

/-- `getFreeIndexLocked`, with `none` for `-1`. -/
def getFreeIndexLocked (memory : GrallocMemory) : Option Nat :=
  if maxNumFrames - 1 ≤ memory.mBufferCount then
    none
  else
    memory.indices.find? fun index => !(memory.slots index).registered

/--
`registerBuffer`.  `imported` says whether the ION import and the mapping of
the buffer succeed; when they fail the slot keeps the buffer handle.
-/
def registerBuffer (imported : Bool) (buffer : Nat)
    (memory : GrallocMemory) : GrallocMemory × Status :=
  if (memory.getMatchBufIndex buffer).isSome then
    (memory, .alreadyExists)
  else if maxNumFrames - 1 - memory.mStartIdx ≤ memory.mBufferCount then
    (memory, .badIndex)
  else
    match memory.getFreeIndexLocked with
    | none => (memory, .badIndex)
    | some index =>
      if imported then
        ({ memory.setSlot index { memory.slots index with
                registered := true
                bufferHandle := some buffer } with
            mBufferCount := memory.mBufferCount + 1 }, .noError)
      else
        (memory.setSlot index { memory.slots index with bufferHandle := some buffer }, .noMemory)

/-- The test that guards the accesses to one slot. -/
def isRegistered (memory : GrallocMemory) (index : Nat) : Bool :=
  decide (index < maxNumFrames) && decide (memory.mStartIdx ≤ index) &&
    (memory.slots index).registered

/-- `markFrameNumber`. -/
def markFrameNumber (index : Nat) (frameNumber : UInt32)
    (memory : GrallocMemory) : GrallocMemory × Status :=
  if memory.isRegistered index then
    (memory.setSlot index { memory.slots index with frameNumber := frameNumber.toInt32 }, .noError)
  else
    (memory, .badIndex)

/-- `getFrameNumber`. -/
def getFrameNumber (memory : GrallocMemory) (index : Nat) : Int32 :=
  if memory.isRegistered index then
    (memory.slots index).frameNumber
  else if index < maxNumFrames ∧ index < memory.mStartIdx then
    badIndexCode
  else
    -1

theorem setSlot_slots (memory : GrallocMemory) (index other : Nat) (slot : MemSlot) :
    (memory.setSlot index slot).slots other = if other = index then slot else memory.slots other :=
  rfl

/-- `later` has every registered slot of `earlier`, unchanged. -/
structure Extends (earlier later : GrallocMemory) : Prop where
  mStartIdx : later.mStartIdx = earlier.mStartIdx
  slots : ∀ index, earlier.isRegistered index = true → later.slots index = earlier.slots index

theorem Extends.refl (memory : GrallocMemory) :
    Extends memory memory :=
  ⟨rfl, fun _ _ => rfl⟩

variable {index : Nat}

/-- What was registered stays registered. -/
theorem Extends.isRegistered {earlier later : GrallocMemory} (extension : Extends earlier later)
    (registered : earlier.isRegistered index = true) :
    later.isRegistered index = true := by
  have same := extension.slots index registered
  simp only [GrallocMemory.isRegistered, extension.mStartIdx, same] at registered ⊢
  exact registered

theorem Extends.trans {first second third : GrallocMemory} (earlier : Extends first second)
    (later : Extends second third) :
    Extends first third where
  mStartIdx := later.mStartIdx.trans earlier.mStartIdx
  slots := by
    intro index registered
    rw [later.slots index (earlier.isRegistered registered), earlier.slots index registered]

theorem setSlot_extends {memory : GrallocMemory}
    (unregistered : (memory.slots index).registered = false) (slot : MemSlot) :
    Extends memory (memory.setSlot index slot) where
  mStartIdx := rfl
  slots := by
    intro other registered
    rw [setSlot_slots, if_neg]
    rintro rfl
    simp [isRegistered, unregistered] at registered

/-- Registration touches only a free slot. -/
theorem registerBuffer_extends (imported : Bool) (buffer : Nat) (memory : GrallocMemory) :
    Extends memory (memory.registerBuffer imported buffer).1 := by
  unfold registerBuffer
  split
  · exact .refl memory
  · split
    · exact .refl memory
    · split
      · exact .refl memory
      · rename_i index free
        have unregistered : (memory.slots index).registered = false := by
          simp only [getFreeIndexLocked] at free
          split at free
          · simp at free
          · simpa using List.find?_some free
        split
        · have extension := setSlot_extends unregistered { memory.slots index with
                  registered := true
                  bufferHandle := some buffer }
          exact ⟨extension.mStartIdx, extension.slots⟩
        · exact setSlot_extends unregistered _

end GrallocMemory

/-! ## Heap memory -/

/-- `QCamera3HeapMemory`; the slots below `mBufferCount` are allocated. -/
structure HeapMemory where
  mMaxCnt : Nat
  mBufferCount : Nat
  frameNumbers : Nat → Int32

namespace HeapMemory

/-- The memory as its constructor leaves it. -/
def new (maxCnt : Nat) : HeapMemory where
  mMaxCnt := min maxCnt maxNumFrames
  mBufferCount := 0
  frameNumbers := fun _ => -1

/-- `allocate`: all buffers at once. -/
def allocate (allocated : Bool) (memory : HeapMemory) : HeapMemory × Status :=
  if memory.mBufferCount ≠ 0 then
    (memory, .badIndex)
  else if allocated then
    ({ memory with mBufferCount := memory.mMaxCnt }, .noError)
  else
    (memory, .noMemory)

/-- `allocateOne`: the index of the new buffer, or `none` on an error. -/
def allocateOne (allocated : Bool) (memory : HeapMemory) : HeapMemory × Option Nat :=
  if memory.mMaxCnt < memory.mBufferCount + 1 then
    (memory, none)
  else if allocated then
    ({ memory with mBufferCount := memory.mBufferCount + 1 }, some memory.mBufferCount)
  else
    (memory, none)

/-- `markFrameNumber`. -/
def markFrameNumber (index : Nat) (frameNumber : UInt32)
    (memory : HeapMemory) : HeapMemory × Status :=
  if index < memory.mBufferCount then
    ({ memory with
        frameNumbers := fun other =>
          if other = index then frameNumber.toInt32
          else memory.frameNumbers other }, .noError)
  else
    (memory, .badIndex)

/-- `getFrameNumber`. -/
def getFrameNumber (memory : HeapMemory) (index : Nat) : Int32 :=
  if index < memory.mBufferCount then
    memory.frameNumbers index
  else
    -1

/-- `getBufferIndex`: the first buffer with this mark. -/
def getBufferIndex (memory : HeapMemory) (frameNumber : UInt32) : Option Nat :=
  (List.range memory.mBufferCount).find? fun index =>
    memory.frameNumbers index == frameNumber.toInt32

end HeapMemory

/-! ## Stream memory -/

/-- `QCamera3StreamMem`: heap slots first, gralloc slots above them. -/
structure StreamMem where
  mHeapMem : HeapMemory
  mGrallocMem : GrallocMemory
  mMaxHeapBuffers : Nat

namespace StreamMem

/-- The memory as its constructor leaves it. -/
def new (maxHeapBuffer : Nat) : StreamMem where
  mHeapMem := .new maxHeapBuffer
  mGrallocMem := .new maxHeapBuffer
  mMaxHeapBuffers := maxHeapBuffer

/-- `getCnt`. -/
def getCnt (memory : StreamMem) : Nat :=
  memory.mHeapMem.mBufferCount + memory.mGrallocMem.mBufferCount

/-- `markFrameNumber`. -/
def markFrameNumber (index : Nat) (frameNumber : UInt32)
    (memory : StreamMem) : StreamMem × Status :=
  if index < memory.mMaxHeapBuffers then
    let (heap, status) := memory.mHeapMem.markFrameNumber index frameNumber
    ({ memory with mHeapMem := heap }, status)
  else
    let (gralloc, status) := memory.mGrallocMem.markFrameNumber index frameNumber
    ({ memory with mGrallocMem := gralloc }, status)

/-- `getFrameNumber`. -/
def getFrameNumber (memory : StreamMem) (index : Nat) : Int32 :=
  if index < memory.mMaxHeapBuffers then
    memory.mHeapMem.getFrameNumber index
  else
    memory.mGrallocMem.getFrameNumber index

end StreamMem

end AnglerHal.Channel
