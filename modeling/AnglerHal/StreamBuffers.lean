import AnglerHal.LabelledRun

namespace AnglerHal.Stream

/-!
# Reference counts of stream buffers

A buffer that the poll thread reads from the kernel is counted once for the
channel that the stream is bundled in, once for a linked channel, and once for
the thread that dispatches it to the data callbacks; every callback counts once
more.  The last `mm_stream_buf_done` queues the buffer to the kernel again.

What a thread does under `buf_lock` is one step.  `cb_lock` is held while the
callbacks are called.  A buffer is handed over in a node from `malloc`; without
memory the consumer is not told, and the reference that has been counted for it
stays.
-/

/-- `mm_stream_buf_status_t`. -/
structure BufStatus where
  buf_refcnt : Nat
  in_kernel : Bool
  deriving DecidableEq

/-- Where the poll thread is with the buffer that it has read. -/
inductive PollPc where
  | idle
  /-- `mm_stream_read_msm_frame` has returned. -/
  | read (idx : Nat)
  /-- The callbacks have been checked. -/
  | checked (idx : Nat) (hasCb : Bool)
  /-- The references have been counted. -/
  | counted (idx : Nat) (hasCb : Bool)
  /-- The own channel has been notified. -/
  | notified (idx : Nat) (hasCb : Bool)
  /-- The linked channel has been notified. -/
  | linked (idx : Nat) (hasCb : Bool)
  deriving DecidableEq

/-- Where `mm_stream_dispatch_app_data` is. -/
inductive DispatchPc where
  | idle
  /-- In the loop over the callbacks, with `cb_lock` held. -/
  | dispatching (idx : Nat) (slot : Nat)
  /-- Before its own `mm_stream_buf_done`. -/
  | finishing (idx : Nat)
  deriving DecidableEq

/-- The stream, the kernel's queue and what the consumers hold. -/
structure StreamState where
  /-- `streaming_mode == CAM_STREAMING_MODE_BATCH`. -/
  batch : Bool
  is_bundled : Bool
  is_linked : Bool
  /-- The `cb_count` of every registered callback. -/
  buf_cb : List (Option Int)
  buf_status : Nat → BufStatus
  kernel : List Nat
  poll : PollPc
  /-- What the own channel has been notified of and has not released. -/
  bundle : List Nat
  /-- The same for the linked channel. -/
  linkedBundle : List Nat
  cmd_queue : List Nat
  dispatch : DispatchPc
  /-- What the callbacks have been given and have not released. -/
  app : List Nat

/-- The calls to the driver. -/
inductive BufOutput where
  | qbuf (idx : Nat)
  deriving DecidableEq

namespace StreamState

/-- Overwrite the status of one buffer. -/
def setStatus (idx : Nat) (status : BufStatus) (stream : StreamState) : StreamState :=
  { stream with
      buf_status := fun other =>
        if other = idx then status else stream.buf_status other }

/-- Add references to one buffer. -/
def addRefs (idx count : Nat) (stream : StreamState) : StreamState :=
  stream.setStatus idx { stream.buf_status idx with
        buf_refcnt := (stream.buf_status idx).buf_refcnt + count }

/-- `mm_stream_buf_done`; `queued` is the outcome of `mm_stream_qbuf`. -/
def bufDone (idx : Nat) (queued : Bool) (stream : StreamState) : StreamState × List BufOutput :=
  let status := stream.buf_status idx
  if status.buf_refcnt = 0 then
    if stream.batch then
      -- `mm_stream_write_user_buf` lets the `uint8_t` wrap
      (stream.setStatus idx { status with buf_refcnt := 255 }, [])
    else
      (stream, [])
  else if status.buf_refcnt = 1 then
    if queued then
      ({ stream.setStatus idx ⟨0, true⟩ with
          kernel := stream.kernel ++ [idx] }, [.qbuf idx])
    else
      (stream.setStatus idx { status with buf_refcnt := 0 }, [])
  else
    (stream.setStatus idx { status with buf_refcnt := status.buf_refcnt - 1 }, [])

/-- `cb_lock` is free. -/
def cbUnlocked (stream : StreamState) : Bool :=
  match stream.dispatch with
  | .dispatching .. => false
  | _ => true

/-- One pass of the loop over the callbacks. -/
def dispatchSlot (idx slot : Nat) (stream : StreamState) : StreamState :=
  let next := { stream with dispatch := .dispatching idx (slot + 1) }
  match stream.buf_cb[slot]? with
  | none => { stream with dispatch := .finishing idx }
  | some none => next
  | some (some cbCount) =>
    let called := if cbCount ≠ 0 then
        { next.addRefs idx 1 with app := next.app ++ [idx] }
      else
        next
    if 0 < cbCount then
      { called with
          buf_cb :=
            called.buf_cb.set slot (if cbCount - 1 = 0 then none else some (cbCount - 1)) }
    else
      called

end StreamState

/-- The steps of the threads; `handed` tells whether the nodes were allocated. -/
inductive StreamEvent where
  | readMsmFrame (idx : Nat)
  | checkCb
  | countRefs
  /-- `mm_stream_notify_channel` for the own channel. -/
  | notifyChannel (handed : Bool)
  /-- The same for the linked channel. -/
  | notifyLinked (handed : Bool)
  | enqueueCb (handed : Bool)
  /-- A channel that links the stream is started or stopped. -/
  | setLinked (linked : Bool)
  /-- A callback is registered or removed. -/
  | setCb (slot : Nat) (cb : Option Int)
  | takeCb
  | dispatchSlot
  | dispatchDone (queued : Bool)
  /-- The own channel's thread, or the user of its superbufs, releases. -/
  | bundleDone (idx : Nat) (queued : Bool)
  | linkedDone (idx : Nat) (queued : Bool)
  /-- The user of a callback releases. -/
  | appDone (idx : Nat) (queued : Bool)
  deriving DecidableEq

/-- One step of one of the threads. -/
def streamStep
    (stream : StreamState)
    (event : StreamEvent) : Option (StreamState × List BufOutput) :=
  match event with
  | .readMsmFrame idx =>
    if stream.poll = .idle ∧ idx ∈ stream.kernel then
      some ({ stream with
        kernel := stream.kernel.erase idx
        poll := .read idx }, [])
    else
      none
  | .checkCb =>
    match stream.poll with
    | .read idx =>
      if stream.cbUnlocked then
        some ({ stream with
          poll := .checked idx (stream.buf_cb.any Option.isSome) }, [])
      else
        none
    | _ =>
      none
  | .countRefs =>
    match stream.poll with
    | .checked idx hasCb =>
      some ({ stream.setStatus idx
          { buf_refcnt :=
              (stream.buf_status idx).buf_refcnt +
                stream.is_bundled.toNat + hasCb.toNat
            in_kernel := false } with
        poll := .counted idx hasCb }, [])
    | _ =>
      none
  | .notifyChannel handed =>
    match stream.poll with
    | .counted idx hasCb =>
      some ({ stream with
        bundle :=
          if stream.is_bundled && handed then stream.bundle ++ [idx]
          else stream.bundle
        poll := .notified idx hasCb }, [])
    | _ =>
      none
  | .notifyLinked handed =>
    match stream.poll with
    | .notified idx hasCb =>
      if stream.is_linked then
        -- counted before the node is allocated
        some ({ stream.addRefs idx 1 with
          linkedBundle :=
            if handed then stream.linkedBundle ++ [idx]
            else stream.linkedBundle
          poll := .linked idx hasCb }, [])
      else
        some ({ stream with poll := .linked idx hasCb }, [])
    | _ =>
      none
  | .enqueueCb handed =>
    match stream.poll with
    | .linked idx hasCb =>
      some ({ stream with
        cmd_queue :=
          if hasCb && handed then stream.cmd_queue ++ [idx]
          else stream.cmd_queue
        poll := .idle }, [])
    | _ =>
      none
  | .setLinked linked =>
    some ({ stream with is_linked := linked }, [])
  | .setCb slot cb =>
    if stream.cbUnlocked then
      some ({ stream with buf_cb := stream.buf_cb.set slot cb }, [])
    else
      none
  | .takeCb =>
    match stream.dispatch, stream.cmd_queue with
    | .idle, idx :: rest =>
      some ({ stream with
        cmd_queue := rest
        dispatch := .dispatching idx 0 }, [])
    | _, _ =>
      none
  | .dispatchSlot =>
    match stream.dispatch with
    | .dispatching idx slot =>
      some (stream.dispatchSlot idx slot, [])
    | _ =>
      none
  | .dispatchDone queued =>
    match stream.dispatch with
    | .finishing idx =>
      some (({ stream with dispatch := .idle }).bufDone idx queued)
    | _ =>
      none
  | .bundleDone idx queued =>
    if idx ∈ stream.bundle then
      some (({ stream with
        bundle := stream.bundle.erase idx }).bufDone idx queued)
    else
      none
  | .linkedDone idx queued =>
    if idx ∈ stream.linkedBundle then
      some (({ stream with
        linkedBundle := stream.linkedBundle.erase idx }).bufDone idx queued)
    else
      none
  | .appDone idx queued =>
    if idx ∈ stream.app then
      some (({ stream with
        app := stream.app.erase idx }).bufDone idx queued)
    else
      none

/-- Execute a list of steps. -/
def streamRun (stream : StreamState)
    (events : List StreamEvent) : Option (StreamState × List BufOutput) :=
  LabelledRun.run? streamStep stream events

/-! ## Consumers -/

/-- The consumers that the poll thread has counted and not yet notified. -/
def PollPc.carries (bundled : Bool) (idx : Nat) : PollPc → Nat
  | .counted held hasCb => if held = idx then bundled.toNat + hasCb.toNat else 0
  | .notified held hasCb | .linked held hasCb => if held = idx then hasCb.toNat else 0
  | .idle | .read _ | .checked .. => 0

/-- The dispatching thread holds the buffer. -/
def DispatchPc.holds (idx : Nat) : DispatchPc → Nat
  | .dispatching held _ | .finishing held => if held = idx then 1 else 0
  | .idle => 0

namespace StreamState

/-- The consumers that have a buffer and have not released it. -/
def consumers (stream : StreamState) (idx : Nat) : Nat :=
  stream.poll.carries stream.is_bundled idx + stream.bundle.count idx +
    stream.linkedBundle.count idx + stream.cmd_queue.count idx +
    stream.dispatch.holds idx + stream.app.count idx

/-- The poll thread is still going to give the buffer to the linked channel. -/
def promised (stream : StreamState) (idx : Nat) : Bool :=
  match stream.poll with
  | .counted held _ | .notified held _ => stream.is_linked && held == idx
  | _ => false

end StreamState

/-- The stream after `mm_stream_reg_buf`. -/
structure StreamState.Registered (stream : StreamState) : Prop where
  poll : stream.poll = .idle
  bundle : stream.bundle = []
  linkedBundle : stream.linkedBundle = []
  cmd_queue : stream.cmd_queue = []
  dispatch : stream.dispatch = .idle
  once : stream.kernel.Nodup
  /-- A buffer is queued, or the user holds it. -/
  status : ∀ idx, (idx ∈ stream.kernel ∧ stream.app.count idx = 0 ∧
          stream.buf_status idx = ⟨0, true⟩) ∨
        idx ∉ stream.kernel ∧ stream.buf_status idx = ⟨stream.app.count idx, false⟩

/--
The counts are the numbers of consumers, and a buffer in the kernel has no
consumer and is not going to get one.
-/
structure AccountingExact (stream : StreamState) : Prop where
  counted : ∀ idx, (stream.buf_status idx).buf_refcnt = stream.consumers idx
  inKernel : ∀ idx, (stream.buf_status idx).in_kernel = true →
      (stream.buf_status idx).buf_refcnt = 0
  queuedOnce : stream.kernel.Nodup
  queued : ∀ idx ∈ stream.kernel, stream.consumers idx = 0 ∧ stream.promised idx = false

/-! ## Guards -/

/-- The outcome of `mm_stream_qbuf` in a release. -/
def StreamEvent.queued? : StreamEvent → Option Bool
  | .dispatchDone queued => some queued
  | .bundleDone _ queued | .linkedDone _ queued | .appDone _ queued => some queued
  | _ => none

/-- The buffer that a step releases. -/
def StreamState.releases (stream : StreamState) : StreamEvent → Option Nat
  | .dispatchDone _ =>
    match stream.dispatch with
    | .finishing idx => some idx
    | _ => none
  | .bundleDone idx _ | .linkedDone idx _ | .appDone idx _ => some idx
  | _ => none

/--
A buffer without a data callback is not released between the notification of
the own channel and that of the linked one.
-/
def releasesCounted (stream : StreamState) (event : StreamEvent) : Bool :=
  match stream.poll with
  | .notified idx false => !(stream.is_linked && stream.releases event == some idx)
  | _ => true

/-- The stream is not linked while its last buffer is queued already. -/
def linksBefore (stream : StreamState) : StreamEvent → Bool
  | .setLinked true =>
    match stream.poll with
    | .notified idx _ => !(stream.buf_status idx).in_kernel
    | _ => true
  | _ => true

/-- There is memory to hand a counted buffer over. -/
def handsOver (stream : StreamState) : StreamEvent → Bool
  | .notifyChannel handed => handed || !stream.is_bundled
  | .notifyLinked handed => handed || !stream.is_linked
  | .enqueueCb handed =>
    match stream.poll with
    | .linked _ hasCb => handed || !hasCb
    | _ => true
  | _ => true

/-- The guard of the runs whose accounting is exact. -/
def countsFirst (stream : StreamState) (_ : List StreamEvent) (event : StreamEvent) : Prop :=
  releasesCounted stream event = true ∧ linksBefore stream event = true ∧
    handsOver stream event = true

instance (stream : StreamState) (past : List StreamEvent) (event : StreamEvent) :
    Decidable (countsFirst stream past event) :=
  inferInstanceAs (Decidable (_ ∧ _ ∧ _))

end AnglerHal.Stream
