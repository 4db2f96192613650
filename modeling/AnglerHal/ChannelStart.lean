import AnglerHal.SuperbufQueue

namespace AnglerHal.ChannelStart

open Superbuf (CamStreamType ChannelAttr ChannelQueue ChannelOutput SuperbufNode bufDone)

/-!
# Starting a channel

`mm_channel_start` brings every own stream of a channel from the configured to
the active state by three events of the stream's state machine, and on a
failure fires three events at every stream it has reached.  The state machine
rejects an event that does not fit the state without an error.

The kernel, the memory operations of the upper layer and the other threads are
the environment of one call: their return codes and the superbufs that the
command thread has collected when the error handling starts.  What the kernel
keeps of a stream is the number of buffers it was asked to register.
-/

/-! ## The state machine of a stream -/

/-- `mm_stream_state_type_t`. -/
inductive StreamState where
  | notUsed
  | inited
  | acquired
  | cfg
  | buffed
  | reg
  | active
  deriving DecidableEq

/-- The events of `mm_stream_evt_type_t` that starting a channel fires. -/
inductive StreamEvt where
  | getBuf
  | putBuf
  | regBuf
  | unregBuf
  | start
  | stop
  deriving DecidableEq

/-- `mm_stream_buf_status_t`. -/
structure BufStatus where
  bufRefcnt : Nat
  initialRegFlag : Bool
  inKernel : Bool
  deriving DecidableEq

/--
The fields of an own `mm_stream_t` that starting a channel reads and writes.
`buf` is `none` while the pointer is `NULL`, and `kernelBufs` is what the last
`VIDIOC_REQBUFS` has left registered.
-/
structure MmStream where
  myHdl : Nat
  state : StreamState
  streamType : CamStreamType
  noFrameExpected : Bool
  isBundled : Bool
  hasBufCb : Bool
  cmdThread : Bool
  buf : Option (List BufStatus)
  kernelBufs : Nat
  deriving DecidableEq

/-- What the calls out of one stream return during a start. -/
structure StreamEnv where
  getBufsRc : Int
  regFlags : List Bool
  statusMemory : Bool
  requestBufRc : Int
  qbufRc : Nat → Int
  streamOnRc : Int
  streamOffRc : Int
  unregBufRc : Int
  putBufsRc : Int

/-- `MM_CAMERA_MAX_NUM_FRAMES`. -/
def maxNumFrames : Nat :=
  64

/-- `mm_stream_deinit_bufs`. -/
def deinitBufs (env : StreamEnv) (stream : MmStream) : MmStream × Int :=
  match stream.buf with
  | none => (stream, 0)
  | some _ => ({ stream with buf := none }, env.putBufsRc)

/-- `mm_stream_init_bufs`. -/
def initBufs (env : StreamEnv) (stream : MmStream) : MmStream × Int :=
  let (cleared, _) := deinitBufs env stream
  if env.getBufsRc ≠ 0 then
    (cleared, env.getBufsRc)
  else if !env.statusMemory then
    ({ cleared with buf := none }, -1)
  else
    ({ cleared with
        buf := some (env.regFlags.map fun flag => {
          bufRefcnt := 0
          initialRegFlag := flag
          inKernel := false }) }, 0)

/-- `mm_stream_request_buf`. -/
def requestBuf (env : StreamEnv) (bufNum : Nat) : Int :=
  if maxNumFrames < bufNum then
    -1
  else
    env.requestBufRc

/-- The loop of `mm_stream_reg_buf`, from buffer `index` on. -/
def regLoop (qbufRc : Nat → Int) : Nat → List BufStatus → List BufStatus × Int
  | _, [] => ([], 0)
  | index, status :: rest =>
    if status.initialRegFlag then
      if qbufRc index ≠ 0 then
        (status :: rest, qbufRc index)
      else
        let (later, rc) := regLoop qbufRc (index + 1) rest
        ({ status with bufRefcnt := 0, inKernel := true } :: later, rc)
    else
      let (later, rc) := regLoop qbufRc (index + 1) rest
      ({ status with bufRefcnt := 1, inKernel := false } :: later, rc)

/-- `mm_stream_reg_buf`. -/
def regBuf (env : StreamEnv) (stream : MmStream) : MmStream × Int :=
  let statuses := stream.buf.getD []
  let requested := requestBuf env statuses.length
  if requested ≠ 0 then
    (stream, requested)
  else
    let (registered, rc) := regLoop env.qbufRc 0 statuses
    ({ stream with
        buf := stream.buf.map fun _ => registered
        kernelBufs := statuses.length }, rc)

/-- `mm_stream_unreg_buf`. -/
def unregBuf (env : StreamEnv) (stream : MmStream) : MmStream × Int :=
  ({ stream with
      buf := stream.buf.map fun statuses => statuses.map fun status =>
        { status with bufRefcnt := 0, inKernel := false }
      kernelBufs := if env.unregBufRc < 0 then stream.kernelBufs else 0 },
    env.unregBufRc)

/-- `mm_stream_fsm_cfg`. -/
def streamFsmCfg (env : StreamEnv) (evt : StreamEvt) (stream : MmStream) : MmStream × Int :=
  match evt with
  | .getBuf =>
    let (next, rc) := initBufs env stream
    if rc = 0 then ({ next with state := .buffed }, rc) else (next, rc)
  | _ => (stream, 0)

/-- `mm_stream_fsm_buffed`. -/
def streamFsmBuffed (env : StreamEnv) (evt : StreamEvt) (stream : MmStream) : MmStream × Int :=
  match evt with
  | .putBuf =>
    let (next, rc) := deinitBufs env stream
    ({ next with state := .cfg }, rc)
  | .regBuf =>
    let (next, rc) := regBuf env stream
    if rc = 0 then ({ next with state := .reg }, rc) else (next, rc)
  | _ => (stream, 0)

/-- `mm_stream_fsm_reg`. -/
def streamFsmReg (env : StreamEnv) (evt : StreamEvt) (stream : MmStream) : MmStream × Int :=
  match evt with
  | .unregBuf =>
    let (next, rc) := unregBuf env stream
    ({ next with state := .buffed }, rc)
  | .start =>
    if env.streamOnRc ≠ 0 then
      -- the thread that was launched for the callbacks is released again
      ({ stream with
          cmdThread := !stream.hasBufCb && stream.cmdThread },
        env.streamOnRc)
    else
      ({ stream with
          state := .active
          cmdThread := stream.hasBufCb || stream.cmdThread }, 0)
  | _ => (stream, 0)

/-- `mm_stream_fsm_active`. -/
def streamFsmActive (env : StreamEnv) (evt : StreamEvt) (stream : MmStream) : MmStream × Int :=
  match evt with
  | .stop =>
    ({ stream with
        state := .reg
        cmdThread := !stream.hasBufCb && stream.cmdThread },
      env.streamOffRc)
  | _ => (stream, 0)

/-- `mm_stream_fsm_fn`. -/
def streamFsmFn (env : StreamEnv) (evt : StreamEvt) (stream : MmStream) : MmStream × Int :=
  match stream.state with
  | .notUsed => (stream, -1)
  | .inited => (stream, 0)
  | .acquired => (stream, 0)
  | .cfg => streamFsmCfg env evt stream
  | .buffed => streamFsmBuffed env evt stream
  | .reg => streamFsmReg env evt stream
  | .active => streamFsmActive env evt stream

/-! ## The channel -/

/-- A stream of another channel that is linked into this one. -/
structure LinkedSlot where
  myHdl : Nat
  streamType : CamStreamType
  noFrameExpected : Bool
  deriving DecidableEq

/-- An entry of `my_obj->streams` that is in use. -/
inductive ChannelSlot where
  | own (stream : MmStream)
  | linked (slot : LinkedSlot)
  deriving DecidableEq

/-- The link fields of a source stream in its own channel. -/
structure SourceStream where
  myHdl : Nat
  isLinked : Bool
  linkedObj : Option Nat
  deriving DecidableEq

/-- `mm_channel_bundle_t`; the callback is known by a number. -/
structure Bundle where
  isActive : Bool
  superbufQueue : ChannelQueue
  superBufNotifyCb : Option Nat
  userData : Nat
  deriving DecidableEq

/-- The part of `mm_channel_t` that `mm_channel_start` works on. -/
structure StartChannel where
  myHdl : Nat
  slots : List ChannelSlot
  sources : List SourceStream
  bundle : Bundle
  cmdThread : Bool
  cbThread : Bool
  bWaitForPrepSnapshotDone : Bool
  deriving DecidableEq

/--
The environment of one call: one of each stream, by handle, and what the
superbuf queue of an active bundle holds when the error handling starts.
-/
structure StartEnv where
  stream : Nat → StreamEnv
  queued : List SuperbufNode

/-- The handle of a slot. -/
def ChannelSlot.myHdl : ChannelSlot → Nat
  | .own stream => stream.myHdl
  | .linked slot => slot.myHdl

/-- The handle of an own stream. -/
def ChannelSlot.ownHdl? : ChannelSlot → Option Nat
  | .own stream => some stream.myHdl
  | .linked _ => none

/-- The linked slot, if it is one. -/
def ChannelSlot.linked? : ChannelSlot → Option LinkedSlot
  | .own _ => none
  | .linked slot => some slot

/-- Whether frames are expected of the slot's stream. -/
def ChannelSlot.noFrameExpected : ChannelSlot → Bool
  | .own stream => stream.noFrameExpected
  | .linked slot => slot.noFrameExpected

/-- The slot holds an own metadata stream. -/
def ChannelSlot.isOwnMetadata : ChannelSlot → Bool
  | .own stream => stream.streamType == .metadata
  | .linked _ => false

/-- `meta_stream_idx`: the last own metadata stream, `0` without one. -/
def metaStreamIdx (slots : List ChannelSlot) : Nat :=
  (slots.zipIdx.foldl (fun found (slot, index) =>
      if slot.isOwnMetadata then index else found) 0)

/-- `s_objs`: the slots in use, the metadata stream switched to the front. -/
def startOrder (slots : List ChannelSlot) : List ChannelSlot :=
  match slots[0]?, slots[metaStreamIdx slots]? with
  | some first, some metadata => (slots.set 0 metadata).set (metaStreamIdx slots) first
  | _, _ => slots

/-- The own streams in the order in which they are started. -/
def ownOrder (slots : List ChannelSlot) : List Nat :=
  (startOrder slots).filterMap ChannelSlot.ownHdl?

/-- Change an own stream, found by its handle. -/
def updateOwn (hdl : Nat) (change : MmStream → MmStream)
    (slots : List ChannelSlot) : List ChannelSlot :=
  slots.map fun slot =>
    match slot with
    | .own stream => if stream.myHdl = hdl then .own (change stream) else .own stream
    | .linked linked => .linked linked

/-- The own stream of a handle. -/
def findOwn (hdl : Nat) (slots : List ChannelSlot) : Option MmStream :=
  slots.findSome? fun slot =>
    match slot with
    | .own stream => if stream.myHdl = hdl then some stream else none
    | .linked _ => none

/-! ## `mm_channel_start` -/

/-- Initialise the superbuf queue and the bundled flags, launch the threads. -/
def setUpBundle (ch : StartChannel) : StartChannel :=
  let bundled := (startOrder ch.slots).filter fun slot => !slot.noFrameExpected
  { ch with
      slots := ch.slots.map fun slot =>
        match slot with
        | .own stream =>
          .own { stream with
            isBundled := !stream.noFrameExpected || stream.isBundled }
        | .linked linked => .linked linked
      bundle := { ch.bundle with
        isActive := true
        superbufQueue := { ch.bundle.superbufQueue with
          que := []
          size := 0
          bundledStreams := bundled.map ChannelSlot.myHdl
          expectedFrameId := 0
          expectedFrameIdWithoutLed := 0
          ledOffStartFrameId := 0
          ledOnStartFrameId := 0
          ledOnNumFrames := 0 } }
      cmdThread := true
      cbThread := true }

/-- Set the link fields of the sources of all linked slots. -/
def setLinks (isLinked : Bool) (linkedObj : Option Nat) (ch : StartChannel) : StartChannel :=
  { ch with
      sources := ch.sources.map fun source =>
        if source.myHdl ∈ (ch.slots.filterMap ChannelSlot.linked?).map LinkedSlot.myHdl then
          { source with isLinked := isLinked, linkedObj := linkedObj }
        else
          source }

/-- Get the buffers of one stream, register them and start the stream. -/
def startStream (env : StreamEnv) (stream : MmStream) : MmStream × Int :=
  if stream.state = .active then
    (stream, -1)
  else
    match streamFsmFn env .getBuf stream with
    | (buffed, rc) =>
      if rc ≠ 0 then
        (buffed, rc)
      else
        match streamFsmFn env .regBuf buffed with
        | (registered, rc) =>
          if rc ≠ 0 then
            (registered, rc)
          else
            streamFsmFn env .start registered

/-- The start loop: the streams reached, and the return code of the last. -/
def startLoop (env : Nat → StreamEnv) :
    List Nat → List ChannelSlot → List ChannelSlot × Int × List Nat
  | [], slots => (slots, 0, [])
  | hdl :: rest, slots =>
    match findOwn hdl slots with
    | none => startLoop env rest slots
    | some stream =>
      let started := updateOwn hdl (fun current =>
          (startStream (env hdl) current).1) slots
      if (startStream (env hdl) stream).2 ≠ 0 then
        (started, (startStream (env hdl) stream).2, [hdl])
      else
        let (final, rc, reached) := startLoop env rest started
        (final, rc, hdl :: reached)

/-- Stop a stream, unregister its buffers and put them back. -/
def undoStream (env : StreamEnv) (stream : MmStream) : MmStream :=
  let stopped := (streamFsmFn env .stop stream).1
  let unregistered := (streamFsmFn env .unregBuf stopped).1
  (streamFsmFn env .putBuf unregistered).1

/-- Undo every stream that the start loop has reached. -/
def undoLoop (env : Nat → StreamEnv) : List Nat → List ChannelSlot → List ChannelSlot
  | [], slots => slots
  | hdl :: rest, slots => undoLoop env rest (updateOwn hdl (undoStream (env hdl)) slots)

/--
The superbuf flushes of the error handling, one for each linked slot and for
the type of its stream; the first one empties the queue.
-/
def flushLinked : List CamStreamType → List SuperbufNode → List ChannelOutput
  | [], _ => []
  | streamType :: rest, queued => queued.flatMap (bufDone streamType) ++ flushLinked rest []

/-- A bundle after `memset`. -/
def Bundle.zero : Bundle where
  isActive := false
  superbufQueue := {
    que := []
    size := 0
    bundledStreams := []
    attr := {
      notifyMode := .burst
      waterMark := 0
      lookBack := 0
      postFrameSkip := 0
      maxUnmatchedFrames := 0
      priority := .normal }
    expectedFrameId := 0
    matchCnt := 0
    expectedFrameIdWithoutLed := 0
    ledOnStartFrameId := 0
    ledOffStartFrameId := 0
    ledOnNumFrames := 0
    once := false
    frameSkipCount := 0
    nomatchFrameId := 0 }
  superBufNotifyCb := none
  userData := 0

/-- The error handling of `mm_channel_start`. -/
def undoStart (env : StartEnv) (reached : List Nat) (ch : StartChannel) :
    StartChannel × List ChannelOutput :=
  let unlinked := setLinks false none ch
  let flushed := if ch.bundle.isActive then
      flushLinked (((startOrder ch.slots).filterMap ChannelSlot.linked?).map
          LinkedSlot.streamType) env.queued
    else
      []
  let undone := { unlinked with
        slots :=
          undoLoop env.stream reached (ch.slots.filter fun slot => slot.linked?.isNone) }
  if ch.bundle.isActive then
    ({ undone with
        bundle := Bundle.zero
        cmdThread := false
        cbThread := false }, flushed)
  else
    (undone, flushed)

/-- The part of `mm_channel_start` before its loop over the own streams. -/
def prepareStart (ch : StartChannel) : StartChannel :=
  if ch.bundle.superBufNotifyCb.isSome then
    setLinks true (some ch.myHdl) (setUpBundle ch)
  else
    setLinks true (some ch.myHdl) ch

/-- `mm_channel_start`: the channel, the return code and what is queued back. -/
def channelStart (env : StartEnv) (ch : StartChannel) : StartChannel × Int × List ChannelOutput :=
  let prepared := prepareStart ch
  match startLoop env.stream (ownOrder ch.slots) prepared.slots with
  | (slots, rc, reached) =>
    let started := { prepared with slots := slots }
    if rc ≠ 0 then
      let (undone, outputs) := undoStart env reached started
      ({ undone with bWaitForPrepSnapshotDone := false }, rc, outputs)
    else
      ({ started with bWaitForPrepSnapshotDone := false }, rc, [])

end AnglerHal.ChannelStart
