import AnglerHal.PendingLoopResult

namespace AnglerHal.Hal3

/-!
# Metadata in batch mode

In constrained high speed mode one metadata buffer stands for all requests of a
batch.  `handleBatchMetadata` finds the first frame of the batch in
`mPendingBatchMap` and calls `handleMetadataWithLock` once for every frame,
with the frame numbers and the time stamp of the buffer overwritten.

`mMutex` is free between these calls.  What other threads do to the tracker
there is a parameter, and so are the time stamps, which the source interpolates
in floating point.
-/

/-- Values of type `uint32_t`. -/
def uint32Size : Nat :=
  4294967296

/-- `last + 1 - first`, in unsigned arithmetic. -/
def frameNumDiff (first last : Nat) : Nat :=
  (last + 1 + uint32Size - first) % uint32Size

/-- A metadata super buffer, and those of its entries that are set. -/
structure MetadataSuperBuf where
  metadataBuf : Nat
  frameNumberValid : Option Bool
  frameNumber : Option Nat
  captureTime : Option Int
  urgentFrameNumberValid : Option Bool
  urgentFrameNumber : Option Nat
  /-- The stream ids of `CAM_INTF_META_FRAME_DROPPED`; none without `frame_dropped`. -/
  frameDropped : Option (List Nat)
  deriving DecidableEq

/-- What the callbacks read, unless an entry is missing. -/
def MetadataSuperBuf.entries (superBuf : MetadataSuperBuf) : Option MetadataEntries := do
  let frameNumberValid ← superBuf.frameNumberValid
  let frameNumber ← superBuf.frameNumber
  let captureTime ← superBuf.captureTime
  let urgentFrameNumberValid ← superBuf.urgentFrameNumberValid
  let urgentFrameNumber ← superBuf.urgentFrameNumber
  return {
    frameNumberValid := frameNumberValid
    frameNumber := frameNumber
    urgentFrameNumberValid := urgentFrameNumberValid
    urgentFrameNumber := urgentFrameNumber
    captureTime := captureTime
    droppedStreams := superBuf.frameDropped.getD [] }

/-- The first frame of a batch and the number of its frames. -/
structure BatchRange where
  first : Nat
  diff : Nat
  deriving DecidableEq

/--
The batch that ends with `last`.  `valueFor` ends the process when the frame is
no key of the map.
-/
def batchRange (batches : KeyedVector Nat Nat) (valid : Bool) (last : Nat) : Option BatchRange :=
  if valid then
    (batches.valueFor? last).map fun first =>
      { first := first, diff := frameNumDiff first last }
  else
    some { first := 0, diff := 0 }

/--
The entries of the buffer as they are overwritten for one round.  The frame
numbers stand for what the round reads; behind the end of its batch a number is
marked invalid.
-/
def roundEntries (times : Nat → Int) (urgent normal : BatchRange) (round : Nat)
    (entries : MetadataEntries) : MetadataEntries :=
  { entries with
      urgentFrameNumberValid :=
        entries.urgentFrameNumberValid && decide (round < urgent.diff)
      urgentFrameNumber :=
        if entries.urgentFrameNumberValid then
          (urgent.first + round) % uint32Size
        else
          entries.urgentFrameNumber
      frameNumberValid :=
        entries.frameNumberValid && decide (round < normal.diff)
      frameNumber :=
        if entries.frameNumberValid then
          (normal.first + round) % uint32Size
        else
          entries.frameNumber
      captureTime :=
        if entries.captureTime = 0 then 0 else times round }

/-- The call of `handleMetadataWithLock` in one round. -/
def batchCallback (times : Nat → Int) (urgent normal : BatchRange) (superBuf : MetadataSuperBuf)
    (round : Nat) : MetadataCallback where
  metadataBuf := superBuf.metadataBuf
  entries :=
    superBuf.entries.map (roundEntries times urgent normal round)
  freeAndBufdoneMetaBuf := false
  lastUrgentMetadataInBatch := round + 1 == urgent.diff
  lastMetadataInBatch := round + 1 == normal.diff

/-- `loopCount`. -/
def batchRoundCount (urgent normal : BatchRange) : Option MetadataEntries → Nat
  | none => 1
  | some entries =>
    if entries.urgentFrameNumberValid || entries.frameNumberValid then
      max urgent.diff normal.diff
    else
      1

/--
`handleMetadataWithLock` on a super buffer.  The frame number of a reported drop is
printed before the entries are tested.
-/
def handleSuperBufWithLock (superBuf : MetadataSuperBuf) (callback : MetadataCallback)
    (tracker : Tracker) : Option (Tracker × List Output) :=
  if superBuf.frameDropped.isSome ∧
      (superBuf.frameNumberValid.isNone ∨ superBuf.frameNumber.isNone) then
    none
  else
    handleMetadataWithLock callback tracker

/-- The loop over the frames; other threads run before every round. -/
def batchRounds (interleave : Nat → Tracker → Tracker) (superBuf : MetadataSuperBuf)
    (callbackAt : Nat → MetadataCallback) :
    Nat → Nat → Tracker → Option (Tracker × List Output)
  | 0, _, tracker => some (tracker, [])
  | rounds + 1, round, tracker =>
    match handleSuperBufWithLock superBuf (callbackAt round) (interleave round tracker) with
    | none => none
    | some (next, sent) =>
      match batchRounds interleave superBuf callbackAt rounds (round + 1) next with
      | none => none
      | some (final, later) => some (final, sent ++ later)

/-- The range of the urgent frames of a buffer. -/
def urgentRange (tracker : Tracker) : Option MetadataEntries → Option BatchRange
  | none => some { first := 0, diff := 0 }
  | some entries =>
    batchRange tracker.mPendingBatchMap entries.urgentFrameNumberValid entries.urgentFrameNumber

/-- The range of the frames of a buffer. -/
def normalRange (tracker : Tracker) : Option MetadataEntries → Option BatchRange
  | none => some { first := 0, diff := 0 }
  | some entries => batchRange tracker.mPendingBatchMap entries.frameNumberValid entries.frameNumber

/-- A valid frame number is taken out of the batch map. -/
def closeBatch (tracker : Tracker) : Option MetadataEntries → Tracker
  | none => tracker
  | some entries =>
    if entries.frameNumberValid then
      { tracker with
          mPendingBatchMap :=
            tracker.mPendingBatchMap.removeItem entries.frameNumber }
    else
      tracker

/-- `handleBatchMetadata`, which returns the buffer at its end. -/
def handleBatchMetadata (interleave : Nat → Tracker → Tracker) (times : Nat → Int)
    (superBuf : MetadataSuperBuf)
    (tracker : Tracker) : Option (Tracker × List Output) :=
  match urgentRange tracker superBuf.entries, normalRange tracker superBuf.entries with
  | some urgent, some normal =>
    (batchRounds interleave superBuf (batchCallback times urgent normal superBuf)
        (batchRoundCount urgent normal superBuf.entries) 0
        (closeBatch tracker superBuf.entries)).map
      fun (next, sent) =>
        (next, sent ++ [.metadataBufDone superBuf.metadataBuf])
  | _, _ => none

/-- The call of `handleMetadataWithLock` outside batch mode. -/
def singleCallback (superBuf : MetadataSuperBuf) : MetadataCallback where
  metadataBuf := superBuf.metadataBuf
  entries := superBuf.entries
  freeAndBufdoneMetaBuf := true
  lastUrgentMetadataInBatch := true
  lastMetadataInBatch := true

/-- The tracker after `hdrPlusPerfLock`, and whether `lock_acq_timed` was called. -/
structure HdrPlusLock where
  tracker : Tracker
  lockAcqTimed : Bool

/--
`hdrPlusPerfLock`, where `isTimerReset` answers `timerReset`.  Neither entry is
tested before it is read.
-/
def hdrPlusPerfLock (superBuf : MetadataSuperBuf) (timerReset : Bool) (tracker : Tracker) :
    Option HdrPlusLock := do
  let frameNumberValid ← superBuf.frameNumberValid
  let lockAcqTimed ←
    if frameNumberValid then
      superBuf.frameNumber.map fun frameNumber =>
        tracker.mLastCustIntentFrmNum == (Int32.ofNat frameNumber).toInt
    else
      some false
  return {
    tracker := if timerReset then { tracker with mLastCustIntentFrmNum := -1 } else tracker
    lockAcqTimed := lockAcqTimed }

/-- What `captureResultCb` meets outside the tracker. -/
structure MetadataEnv where
  /-- What other threads do to the tracker before each round of a batch. -/
  interleave : Nat → Tracker → Tracker
  /-- The time stamps of the rounds. -/
  times : Nat → Int
  /-- The answer of `m_perfLock.isTimerReset`. -/
  timerReset : Bool

/-- `captureResultCb` for a metadata buffer. -/
def captureResultCb (env : MetadataEnv) (superBuf : MetadataSuperBuf) (tracker : Tracker) :
    Option (Tracker × List Output) :=
  if tracker.constrainedHighSpeed then
    handleBatchMetadata env.interleave env.times superBuf tracker
  else
    match hdrPlusPerfLock superBuf env.timerReset tracker with
    | none => none
    | some lock => handleSuperBufWithLock superBuf (singleCallback superBuf) lock.tracker

end AnglerHal.Hal3
