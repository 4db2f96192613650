import AnglerHal.ChannelStart

namespace AnglerHal.StreamStates

open ChannelStart (BufStatus MmStream StreamEnv StreamEvt StreamState
  deinitBufs initBufs regBuf requestBuf streamFsmActive streamFsmBuffed
  streamFsmCfg streamFsmFn streamFsmReg unregBuf)

/-!
# The states of a stream and what it owns

`mm_stream_fsm_fn` moves a stream between seven states.  The state is to say
whether the fd is open, whether the buffers are allocated and whether the
thread that dispatches to the data callbacks may run.

Between the events of the state machine other threads register data
callbacks, count them down and change the reference counts of the buffers.
-/

/-! ## The state machine -/

/--
`mm_stream_evt_type_t`; the events that starting a channel fires are those of
`StreamEvt`.
-/
inductive FsmEvt where
  | acquire
  | release
  | setFmt
  | channel (evt : StreamEvt)
  | qbuf
  | setParm
  | getParm
  | doAction
  | getQueuedBufCount
  deriving DecidableEq

/--
The fields of an `mm_stream_t` that its state machine works on.  `fd` is
`none` while it is negative, and `bufCb` holds the `cb_count` of the callbacks
that are registered.
-/
structure FsmStream where
  myHdl : Nat
  fd : Option Nat
  state : StreamState
  streamType : Superbuf.CamStreamType
  noFrameExpected : Bool
  isBundled : Bool
  bufCb : List (Option Int)
  cmdThread : Bool
  buf : Option (List BufStatus)
  kernelBufs : Nat
  deriving DecidableEq

/-- What the calls out of one event return, and what comes with the event. -/
structure FsmEnv extends StreamEnv where
  /-- Neither `ch_obj` nor its `cam_obj` is `NULL`. -/
  objs : Bool
  devName : Bool
  openFd : Option Nat
  setExtModeRc : Int
  /-- `config->stream_cb` is not `NULL`. -/
  streamCb : Bool
  syncInfoRc : Int
  setFmtRc : Int
  /-- What `mm_stream_buf_done` makes of the counts, and its return code. -/
  bufDone : List BufStatus → List BufStatus × Int
  queuedBufferCount : Int
  /-- The parameters of the event are not `NULL`. -/
  parms : Bool
  ctrlRc : Int
  /-- `mm_camera_cmd_thread_stop` has memory for the command to exit. -/
  exitMemory : Bool

/-- The calls that start and end the thread of a stream. -/
inductive ThreadCall where
  /-- `mm_camera_cmd_thread_launch`. -/
  | launch
  /-- `mm_camera_cmd_thread_release`, when it can end the thread. -/
  | release
  deriving DecidableEq

/-- Whether a thread runs after the calls. -/
def threadAfter : Bool → List ThreadCall → Bool
  | running, [] => running
  | _, .launch :: rest => threadAfter true rest
  | _, .release :: rest => threadAfter false rest

/-- What an event leaves behind: the stream, the return code and the calls. -/
structure Reply where
  stream : FsmStream
  rc : Int
  calls : List ThreadCall := []
  deriving DecidableEq

namespace FsmStream

/-- `has_cb`, as the loop over `buf_cb` finds it. -/
def hasCb (stream : FsmStream) : Bool :=
  stream.bufCb.any Option.isSome

/-- The part of the stream that starting a channel works on. -/
def mm (stream : FsmStream) : MmStream where
  myHdl := stream.myHdl
  state := stream.state
  streamType := stream.streamType
  noFrameExpected := stream.noFrameExpected
  isBundled := stream.isBundled
  hasBufCb := stream.hasCb
  cmdThread := stream.cmdThread
  buf := stream.buf
  kernelBufs := stream.kernelBufs

/-- Take over what has become of that part, its thread apart. -/
def update (mm : MmStream) (stream : FsmStream) : FsmStream :=
  { stream with
      state := mm.state
      buf := mm.buf
      kernelBufs := mm.kernelBufs }

/-- The reply of an event that calls for the thread. -/
def reply (rc : Int) (calls : List ThreadCall) (stream : FsmStream) : Reply where
  stream :=
    { stream with cmdThread := threadAfter stream.cmdThread calls }
  rc := rc
  calls := calls

end FsmStream

/-- `mm_stream_set_parm`, `mm_stream_get_parm` and `mm_stream_do_action`. -/
def parmRc (env : FsmEnv) : Int :=
  if env.parms then env.ctrlRc else -1

/-- `mm_stream_config`. -/
def streamConfig (env : FsmEnv) (stream : FsmStream) : FsmStream × Int :=
  let configured := { stream with
        bufCb := stream.bufCb.set 0 (if env.streamCb then some (-1) else none) }
  if env.syncInfoRc = 0 then
    (configured, env.setFmtRc)
  else
    (configured, env.syncInfoRc)

/-- `mm_stream_release`; a thread that still runs is not ended by it. -/
def streamRelease (stream : FsmStream) : FsmStream :=
  { stream with
      myHdl := 0
      fd := none
      isBundled := false
      bufCb := stream.bufCb.map fun _ => none
      buf := none }

/-- `mm_stream_fsm_inited`. -/
def fsmInited (env : FsmEnv) (evt : FsmEvt) (stream : FsmStream) : Reply :=
  match evt with
  | .acquire =>
    if !env.objs || !env.devName then
      { stream := stream, rc := -1 }
    else
      match env.openFd with
      | none => { stream := { stream with fd := none }, rc := -1 }
      | some fd =>
        if env.setExtModeRc = 0 then
          { stream := { stream with fd := some fd, state := .acquired }
            rc := 0 }
        else
          { stream := { stream with fd := none }
            rc := env.setExtModeRc }
  | _ => { stream := stream, rc := 0 }

/-- `mm_stream_fsm_acquired`. -/
def fsmAcquired (env : FsmEnv) (evt : FsmEvt) (stream : FsmStream) : Reply :=
  match evt with
  | .setFmt =>
    let (configured, rc) := streamConfig env stream
    -- the state changes whatever `mm_stream_config` returns
    { stream := { configured with state := .cfg }, rc := rc }
  | .release => { stream := { streamRelease stream with state := .notUsed }, rc := 0 }
  | .setParm | .getParm => { stream := stream, rc := parmRc env }
  | _ => { stream := stream, rc := 0 }

/-- `mm_stream_fsm_cfg`. -/
def fsmCfg (env : FsmEnv) (evt : FsmEvt) (stream : FsmStream) : Reply :=
  match evt with
  | .setFmt =>
    let (configured, rc) := streamConfig env stream
    { stream := { configured with state := .cfg }, rc := rc }
  | .release => { stream := { streamRelease stream with state := .notUsed }, rc := 0 }
  | .setParm | .getParm => { stream := stream, rc := parmRc env }
  | .channel evt =>
    let (mm, rc) := streamFsmCfg env.toStreamEnv evt stream.mm
    { stream := stream.update mm, rc := rc }
  | _ => { stream := stream, rc := 0 }

/-- `mm_stream_fsm_buffed`. -/
def fsmBuffed (env : FsmEnv) (evt : FsmEvt) (stream : FsmStream) : Reply :=
  match evt with
  | .setParm | .getParm => { stream := stream, rc := parmRc env }
  | .channel evt =>
    let (mm, rc) := streamFsmBuffed env.toStreamEnv evt stream.mm
    { stream := stream.update mm, rc := rc }
  | _ => { stream := stream, rc := 0 }

/-- `mm_camera_cmd_thread_release`. -/
def releaseCalls (env : FsmEnv) : List ThreadCall :=
  if env.exitMemory then [.release] else []

/-- The calls of `MM_STREAM_EVT_START`. -/
def startCalls (env : FsmEnv) (stream : FsmStream) : List ThreadCall :=
  if stream.hasCb then
    .launch :: (if env.streamOnRc ≠ 0 then releaseCalls env else [])
  else
    []

/-- The calls of `MM_STREAM_EVT_STOP`. -/
def stopCalls (env : FsmEnv) (stream : FsmStream) : List ThreadCall :=
  -- `buf_cb` is read anew, not what `MM_STREAM_EVT_START` has found
  if stream.hasCb then releaseCalls env else []

/-- `mm_stream_fsm_reg`. -/
def fsmReg (env : FsmEnv) (evt : FsmEvt) (stream : FsmStream) : Reply :=
  match evt with
  | .setParm | .getParm => { stream := stream, rc := parmRc env }
  | .channel evt =>
    let (mm, rc) := streamFsmReg env.toStreamEnv evt stream.mm
    (stream.update mm).reply rc (if evt = .start then startCalls env stream else [])
  | _ => { stream := stream, rc := 0 }

/-- `mm_stream_fsm_active`. -/
def fsmActive (env : FsmEnv) (evt : FsmEvt) (stream : FsmStream) : Reply :=
  match evt with
  | .qbuf =>
    { stream :=
        { stream with buf := stream.buf.map fun counts =>
            (env.bufDone counts).1 }
      rc := (env.bufDone (stream.buf.getD [])).2 }
  | .getQueuedBufCount => { stream := stream, rc := env.queuedBufferCount }
  | .setParm | .getParm | .doAction => { stream := stream, rc := parmRc env }
  | .channel evt =>
    let (mm, rc) := streamFsmActive env.toStreamEnv evt stream.mm
    (stream.update mm).reply rc (if evt = .stop then stopCalls env stream else [])
  | _ => { stream := stream, rc := 0 }

/-- `mm_stream_fsm_fn`. -/
def fsmFn (env : FsmEnv) (evt : FsmEvt) (stream : FsmStream) : Reply :=
  match stream.state with
  | .notUsed => { stream := stream, rc := -1 }
  | .inited => fsmInited env evt stream
  | .acquired => fsmAcquired env evt stream
  | .cfg => fsmCfg env evt stream
  | .buffed => fsmBuffed env evt stream
  | .reg => fsmReg env evt stream
  | .active => fsmActive env evt stream

/-! ## The machine that starting a channel works with -/

/-- `mm_stream_deinit_bufs` leaves no buffers. -/
theorem deinitBufs_frame (env : StreamEnv) (stream : MmStream) : (deinitBufs env stream).1 =
      { stream with buf := none } := by
  cases allocated : stream.buf <;> simp [deinitBufs, allocated]
  simp [← allocated]

/-- `mm_stream_reg_buf_cb`: the first free entry of `buf_cb` is taken. -/
def regBufCb (cbCount : Int) : List (Option Int) → List (Option Int)
  | [] => []
  | none :: rest => some cbCount :: rest
  | some other :: rest => some other :: regBufCb cbCount rest

/-- `mm_stream_dispatch_app_data` counts a callback down. -/
def countDown : Option Int → Option Int
  | none => none
  | some cbCount =>
    if 0 < cbCount then
      if cbCount - 1 = 0 then none else some (cbCount - 1)
    else
      some cbCount

/-- What happens to a stream. -/
inductive StreamEvent where
  | fsm (env : FsmEnv) (evt : FsmEvt)
  | regBufCb (cbCount : Int)
  /-- The thread of the stream dispatches a buffer. -/
  | dispatchAppData
  /-- Other threads count references under `buf_lock`. -/
  | countRefs (change : List BufStatus → List BufStatus)

/-- The reply to an event of the run. -/
def reply (event : StreamEvent) (stream : FsmStream) : Reply :=
  match event with
  | .fsm env evt => fsmFn env evt stream
  | .regBufCb cbCount =>
    { stream := { stream with bufCb := regBufCb cbCount stream.bufCb }
      rc := 0 }
  | .dispatchAppData =>
    if stream.cmdThread then
      { stream := { stream with bufCb := stream.bufCb.map countDown }
        rc := 0 }
    else
      { stream := stream, rc := 0 }
  | .countRefs change => { stream := { stream with buf := stream.buf.map change }, rc := 0 }

/-- One event of the run. -/
def streamStep (stream : FsmStream) (event : StreamEvent) : Option (FsmStream × List ThreadCall) :=
  some ((reply event stream).stream, (reply event stream).calls)

end AnglerHal.StreamStates
