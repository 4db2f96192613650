import AnglerHal.ChannelStart
import Mathlib.Data.List.Nodup
import Mathlib.Data.List.Perm.Subperm
import Mathlib.Data.List.Range

namespace AnglerHal.KernelQueue

open ChannelStart (BufStatus maxNumFrames)

/-!
# The kernel's queue of a stream

`queued_buffer_count` follows the buffers that a stream has given to the
kernel.  `mm_stream_qbuf` counts a buffer before the ioctl and takes it back
when the ioctl fails, `mm_stream_read_msm_frame` counts down, and the fd of the
stream enters and leaves the poll thread when the count leaves and reaches `0`.

The kernel accepts a buffer that has been registered and that it does not have
yet.  It gives all of them up when the stream is switched off and when the
buffers are registered anew or no longer.  The buffers are plain ones here;
containers of user buffers go another way.
-/

/-- The value of an `int8_t`. -/
def int8 (value : Int) : Int :=
  (value + 128) % 256 - 128

/-- The outcomes of `invalidate_buf` and of `VIDIOC_QBUF` in one call. -/
structure QbufOutcome where
  invalidate : Bool
  ioctl : Bool
  deriving DecidableEq

/-- Neither fails. -/
def QbufOutcome.ok (outcome : QbufOutcome) : Bool :=
  outcome.invalidate && outcome.ioctl

/-- Who gets a buffer that has been read. -/
structure Consumers where
  isBundled : Bool
  isLinked : Bool
  hasCb : Bool
  deriving DecidableEq

/-- The references that are counted for a buffer that has been read. -/
def Consumers.count (consumers : Consumers) : Nat :=
  consumers.isBundled.toNat + consumers.isLinked.toNat + consumers.hasCb.toNat

/--
The stream and the kernel's side of it: the buffers that `VIDIOC_REQBUFS` has
registered and those that are queued.  `polled` says that the fd of the stream
is in the poll thread.
-/
structure KernelStream where
  active : Bool
  bufStatus : List BufStatus
  queuedBufferCount : Int
  polled : Bool
  kernelBufs : Nat
  kernel : List Nat
  deriving DecidableEq

namespace KernelStream

/-- Overwrite the status of one buffer. -/
def setStatus (idx : Nat) (status : BufStatus) (stream : KernelStream) : KernelStream :=
  { stream with bufStatus := stream.bufStatus.set idx status }

/-- Take a buffer back from the count. -/
def countDown (stream : KernelStream) : KernelStream :=
  let count := int8 (stream.queuedBufferCount - 1)
  { stream with
      queuedBufferCount := count
      polled := if count = 0 then false else stream.polled }

/-- Count a buffer. -/
def countUp (stream : KernelStream) : KernelStream :=
  let count := int8 (stream.queuedBufferCount + 1)
  { stream with
      queuedBufferCount := count
      polled := if count = 1 then true else stream.polled }

/-- `mm_stream_qbuf`, with its success. -/
def qbuf (outcome : QbufOutcome) (idx : Nat) (stream : KernelStream) : KernelStream × Bool :=
  if !outcome.invalidate then
    (stream, false)
  else if outcome.ioctl ∧ idx < stream.kernelBufs ∧ idx ∉ stream.kernel then
    ({ stream.countUp with kernel := stream.kernel ++ [idx] }, true)
  else
    (stream.countUp.countDown, false)

/-- `mm_stream_init_bufs`, with the flags of the upper layer. -/
def initBufs (regFlags : List Bool) (stream : KernelStream) : KernelStream :=
  { stream with
      bufStatus := regFlags.map fun flag => {
        bufRefcnt := 0
        initialRegFlag := flag
        inKernel := false } }

/-- The outcome of one of several calls; the calls not listed succeed. -/
def outcomeAt (outcomes : List QbufOutcome) (idx : Nat) : QbufOutcome :=
  outcomes.getD idx { invalidate := true, ioctl := true }

/-- The loop of `mm_stream_reg_buf`, from buffer `idx` on. -/
def regLoop (outcomes : List QbufOutcome) : Nat → Nat → KernelStream → KernelStream × Bool
  | 0, _, stream => (stream, true)
  | rounds + 1, idx, stream =>
    match stream.bufStatus[idx]? with
    | none => (stream, true)
    | some status =>
      if status.initialRegFlag then
        let (queued, ok) := stream.qbuf (outcomeAt outcomes idx) idx
        if ok then
          regLoop outcomes rounds (idx + 1) (queued.setStatus idx
              { status with bufRefcnt := 0, inKernel := true })
        else
          (queued, false)
      else
        regLoop outcomes rounds (idx + 1) (stream.setStatus idx
            { status with bufRefcnt := 1, inKernel := false })

/-- The kernel takes `VIDIOC_REQBUFS`; it does not while it is streaming. -/
def acceptsRequest (request : Bool) (stream : KernelStream) : Bool :=
  decide (stream.bufStatus.length ≤ maxNumFrames) && request && !stream.active

/-- `mm_stream_reg_buf`, with its success. -/
def regBuf (request : Bool) (outcomes : List QbufOutcome)
    (stream : KernelStream) : KernelStream × Bool :=
  if stream.acceptsRequest request then
    regLoop outcomes stream.bufStatus.length 0 { stream with
          queuedBufferCount := 0
          kernelBufs := stream.bufStatus.length
          kernel := [] }
  else
    (stream, false)

/-- `mm_stream_unreg_buf`. -/
def unregBuf (request : Bool) (stream : KernelStream) : KernelStream :=
  let reset := { stream with
        bufStatus := stream.bufStatus.map fun status =>
          { status with bufRefcnt := 0, inKernel := false } }
  if request && !stream.active then
    { reset with kernelBufs := 0, kernel := [] }
  else
    reset

/--
`mm_stream_data_notify` with `mm_stream_read_msm_frame`: the kernel hands out
one of its buffers, or the ioctl fails.  `cleaned` is the outcome of
`clean_invalidate_buf`.
-/
def dataNotify (dqbuf : Option Nat) (cleaned : Bool) (consumers : Consumers)
    (stream : KernelStream) : KernelStream :=
  match dqbuf with
  | none => stream
  | some idx =>
    if stream.active ∧ idx ∈ stream.kernel then
      let read := { stream.countDown with kernel := stream.kernel.erase idx }
      match cleaned, stream.bufStatus[idx]? with
      | true, some status =>
        read.setStatus idx { status with
              bufRefcnt := (status.bufRefcnt + consumers.count) % 256
              inKernel := false }
      | _, _ => read
    else
      stream

/-- `mm_stream_buf_done` of a plain buffer. -/
def bufDone (outcome : QbufOutcome) (idx : Nat) (stream : KernelStream) : KernelStream :=
  match stream.bufStatus[idx]? with
  | none => stream
  | some status =>
    if status.bufRefcnt = 0 then
      stream
    else
      let released := { status with bufRefcnt := status.bufRefcnt - 1 }
      if status.bufRefcnt = 1 then
        let (queued, ok) := (stream.setStatus idx released).qbuf outcome idx
        if ok then
          queued.setStatus idx { released with inKernel := true }
        else
          queued
      else
        stream.setStatus idx released

/-- The start of a registered stream with `mm_stream_streamon`. -/
def streamOn (ioctl : Bool) (stream : KernelStream) : KernelStream :=
  if ioctl then
    { stream with active := true }
  else
    { stream with polled := false }

/-- The stop of a stream with `mm_stream_streamoff`. -/
def streamOff (ioctl : Bool) (stream : KernelStream) : KernelStream :=
  { stream with
      active := false
      polled := false
      kernel := if ioctl then [] else stream.kernel }

end KernelStream

/-- What happens to a stream and its buffers. -/
inductive KernelEvent where
  | initBufs (regFlags : List Bool)
  | regBuf (request : Bool) (outcomes : List QbufOutcome)
  | unregBuf (request : Bool)
  | streamOn (ioctl : Bool)
  | streamOff (ioctl : Bool)
  | dataNotify (dqbuf : Option Nat) (cleaned : Bool) (consumers : Consumers)
  | bufDone (outcome : QbufOutcome) (idx : Nat)
  | qbuf (outcome : QbufOutcome) (idx : Nat)
  deriving DecidableEq

/-- One event. -/
def kernelStep (stream : KernelStream) : KernelEvent → KernelStream
  | .initBufs regFlags => stream.initBufs regFlags
  | .regBuf request outcomes => (stream.regBuf request outcomes).1
  | .unregBuf request => stream.unregBuf request
  | .streamOn ioctl => stream.streamOn ioctl
  | .streamOff ioctl => stream.streamOff ioctl
  | .dataNotify dqbuf cleaned consumers => stream.dataNotify dqbuf cleaned consumers
  | .bufDone outcome idx => stream.bufDone outcome idx
  | .qbuf outcome idx => (stream.qbuf outcome idx).1

/-- The stream after a list of events. -/
def kernelRun (stream : KernelStream) (events : List KernelEvent) : KernelStream :=
  events.foldl kernelStep stream

/-! ## What the accounting promises -/

/-- The count is the number of buffers in the kernel. -/
def CountsKernel (stream : KernelStream) : Prop :=
  stream.queuedBufferCount = stream.kernel.length

/-- The fd is in the poll thread while buffers are queued. -/
def PollsQueued (stream : KernelStream) : Prop :=
  stream.polled = true ↔ 0 < stream.queuedBufferCount

/-- Somebody holds the buffer. -/
def KernelStream.isHeld (stream : KernelStream) (idx : Nat) : Bool :=
  match stream.bufStatus[idx]? with
  | some status => decide (0 < status.bufRefcnt)
  | none => false

/-- Every buffer is in the kernel or held. -/
def NoneStranded (stream : KernelStream) : Prop :=
  ∀ idx < stream.bufStatus.length, idx ∈ stream.kernel ∨ stream.isHeld idx = true

/-- The accounting as a whole. -/
structure AccountsForKernel (stream : KernelStream) : Prop where
  counts : CountsKernel stream
  noneStranded : NoneStranded stream
  polls : PollsQueued stream

end AnglerHal.KernelQueue
