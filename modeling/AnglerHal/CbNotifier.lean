import AnglerHal.CameraQueue
import AnglerHal.HalCommon
import AnglerHal.LabelledRun

namespace AnglerHal.CbNotifier

open PostProc (CameraQueue)

/-!
# `QCameraCbNotifier`

Threads of the HAL put callbacks into `mDataQ` and commands into the queue of
the notifier thread, which calls the framework.  An event is one critical
section of a queue with what its thread does up to the next one.  A call of
`notifyCallback` has two of them: the callback is enqueued first, and the
command for it is sent afterwards.

`mActive` is read without a lock, so a call comes with what it has read.  The
commands of the snapshots and `EXIT` go to the head of the queue of commands.
-/

/-- `qcamera_callback_type_m`. -/
inductive CallbackType where
  | notify
  | data
  | dataTimestamp
  | dataSnapshot
  deriving DecidableEq

/-- `qcamera_callback_argm_t`, with the number of the call that it came with. -/
structure Callback where
  call : Nat
  cbType : CallbackType
  previewFrame : Bool
  hasRelease : Bool
  deriving DecidableEq

/-- `matchSnapshotNotifications`. -/
def matchSnapshotNotifications (cb : Callback) : Bool :=
  cb.cbType = .dataSnapshot

/-- `matchPreviewNotifications`. -/
def matchPreviewNotifications (cb : Callback) : Bool :=
  cb.cbType = .data ∧ cb.previewFrame = true

/-- `camera_cmd_type_t`. -/
inductive Command where
  | none
  | startDataProc
  | stopDataProc
  | doNextJob
  | exit
  deriving DecidableEq

/-- Where the notifier thread is. -/
inductive Routine where
  | waiting
  | got (command : Command)
  | exited
  deriving DecidableEq

/-- The local variables of `cbNotifyRoutine`. -/
structure Snapshots where
  isSnapshotActive : Bool
  longShotEnabled : Bool
  numOfSnapshotExpected : Nat
  numOfSnapshotRcvd : Nat
  deriving DecidableEq

/--
The queues, the count of the semaphore of the thread, the calls that have
enqueued a callback and not yet sent its command, and the thread.
-/
structure Notifier where
  dataQ : CameraQueue Callback
  commands : List Command
  cmdSem : Nat
  posting : List Callback
  nextCall : Nat
  routine : Routine
  snapshots : Snapshots

/-- What the memory does for a `sendCmd`: the command and the node of the queue. -/
structure SendEnv where
  command : Bool
  node : Bool
  deriving DecidableEq

/-- What the thread finds outside itself while it serves one command. -/
structure ServeEnv where
  numOfSnapshotsExpected : Nat
  isLongshotEnabled : Bool
  msgTypeEnabled : Bool
  notifyCb : Bool
  dataCb : Bool
  dataCbTimestamp : Bool
  deriving DecidableEq

/-- One critical section. -/
inductive Event where
  | enqueue (active memory node : Bool) (cbType : CallbackType) (previewFrame hasRelease : Bool)
  | post (call : Nat) (env : SendEnv)
  | flushPreview (active : Bool)
  | startSnapshots (env : SendEnv)
  | stopSnapshots (env : SendEnv)
  | exit (env : SendEnv)
  | getCmd
  | serve (env : ServeEnv)
  deriving DecidableEq

/-- What the threads and the framework see. -/
inductive Output where
  | enqueued (cb : Callback)
  | returned (call : Nat) (rc : Int)
  | delivered (cb : Callback)
  | released (call : Nat)
  | started (expected : Nat) (longshot : Bool)
  | stopped
  | snapshotDone
  deriving DecidableEq

/-- `sendCmd`; a command that gets no node is lost, and the thread is woken. -/
def Notifier.sendCmd (command : Command) (priority : Bool) (env : SendEnv)
    (notifier : Notifier) : Notifier × Int :=
  if !env.command then
    (notifier, noMemory)
  else
    let commands := if env.node then
        if priority then
          command :: notifier.commands
        else
          notifier.commands ++ [command]
      else
        notifier.commands
    ({ notifier with
        commands := commands
        cmdSem := notifier.cmdSem + 1 }, noError)

/-- `notifyCallback` up to the end of the `enqueue`. -/
def Notifier.enqueue (active memory node : Bool) (cb : Callback)
    (notifier : Notifier) : Notifier × List Output :=
  let counted := { notifier with nextCall := notifier.nextCall + 1 }
  if !active then
    (counted, [.returned cb.call unknownError])
  else if !memory then
    (counted, [.returned cb.call noMemory])
  else if node && notifier.dataQ.m_active then
    ({ counted with
        dataQ := notifier.dataQ.enqueue cb
        posting := cb :: notifier.posting }, [.enqueued cb])
  else
    (counted, [.returned cb.call unknownError])

/-- `releaseNotifications` of the callbacks that a flush takes out. -/
def releases (flushed : List Callback) : List Output :=
  flushed.filterMap fun cb =>
    if cb.hasRelease then some (.released cb.call) else none

/-- `cbNotifyRoutine` with a snapshot callback of an enabled type. -/
def Notifier.snapshotCallback (env : ServeEnv) (cb : Callback)
    (notifier : Notifier) : Notifier × List Output :=
  let snapshots := notifier.snapshots
  if snapshots.isSnapshotActive && env.dataCb then
    if !snapshots.longShotEnabled then
      let rcvd := (snapshots.numOfSnapshotRcvd + 1) % 4294967296
      let done :=
        decide (0 < snapshots.numOfSnapshotExpected) && snapshots.numOfSnapshotExpected == rcvd
      ({ notifier with
          snapshots := { snapshots with numOfSnapshotRcvd := rcvd } },
        (if done then [.snapshotDone] else []) ++ [.delivered cb])
    else
      (notifier, [.delivered cb])
  else
    (notifier, [])

/-- `cbNotifyRoutine` with a callback, up to its release. -/
def Notifier.deliver (env : ServeEnv) (cb : Callback)
    (notifier : Notifier) : Notifier × List Output :=
  if env.msgTypeEnabled then
    match cb.cbType with
    | .notify => (notifier, if env.notifyCb then [.delivered cb] else [])
    | .data => (notifier, if env.dataCb then [.delivered cb] else [])
    | .dataTimestamp => (notifier, if env.dataCbTimestamp then [.delivered cb] else [])
    | .dataSnapshot => notifier.snapshotCallback env cb
  else
    (notifier, [])

/-- `cbNotifyRoutine` with a command. -/
def Notifier.serve (env : ServeEnv) (command : Command)
    (notifier : Notifier) : Notifier × List Output :=
  let again := { notifier with routine := .waiting }
  match command with
  | .none => (again, [])
  | .startDataProc =>
    ({ again with
        snapshots :=
          { isSnapshotActive := true
            longShotEnabled := env.isLongshotEnabled
            numOfSnapshotExpected := env.numOfSnapshotsExpected
            numOfSnapshotRcvd := 0 } },
      [.started env.numOfSnapshotsExpected env.isLongshotEnabled])
  | .stopDataProc =>
    let (flushed, rest) := notifier.dataQ.flushNodes matchSnapshotNotifications
    ({ again with
        dataQ := rest
        snapshots :=
          { notifier.snapshots with
              isSnapshotActive := false
              numOfSnapshotExpected := 0
              numOfSnapshotRcvd := 0 } },
      releases flushed ++ [.stopped])
  | .doNextJob =>
    match notifier.dataQ.dequeue with
    | (none, _) => (again, [])
    | (some cb, rest) =>
      let (after, outputs) := { again with dataQ := rest }.deliver env cb
      (after, outputs ++ releases [cb])
  | .exit =>
    let (flushed, rest) := notifier.dataQ.flush
    ({ notifier with dataQ := rest, routine := .exited }, releases flushed)

/-- One event.  The thread that has exited does nothing any more. -/
def notifierStep
    (notifier : Notifier) :
    Event → Option (Notifier × List Output)
  | .enqueue active memory node cbType previewFrame hasRelease =>
    some (notifier.enqueue active memory node
      { call := notifier.nextCall
        cbType := cbType
        previewFrame := previewFrame
        hasRelease := hasRelease })
  | .post call env =>
    match notifier.posting.find? fun cb => cb.call == call with
    | none =>
      none
    | some cb =>
      let (sent, rc) :=
        { notifier with
            posting := notifier.posting.erase cb }.sendCmd
          .doNextJob false env
      some (sent, [.returned call rc])
  | .flushPreview active =>
    if active then
      let (flushed, rest) := notifier.dataQ.flushNodes matchPreviewNotifications
      some ({ notifier with dataQ := rest }, releases flushed)
    else
      some (notifier, [])
  | .startSnapshots env =>
    some ((notifier.sendCmd .startDataProc true env).1, [])
  | .stopSnapshots env =>
    some ((notifier.sendCmd .stopDataProc true env).1, [])
  | .exit env =>
    some ((notifier.sendCmd .exit true env).1, [])
  | .getCmd =>
    match notifier.routine, notifier.cmdSem with
    | .waiting, sem + 1 =>
      let (command, rest) :=
        match notifier.commands with
        | [] => (.none, [])
        | first :: later => (first, later)
      some ({ notifier with
        commands := rest
        cmdSem := sem
        routine := .got command }, [])
    | _, _ =>
      none
  | .serve env =>
    match notifier.routine with
    | .got command =>
      some (notifier.serve env command)
    | _ =>
      none

/-- `setCallbacks` has launched the thread. -/
def Notifier.launched : Notifier where
  dataQ := .new
  commands := []
  cmdSem := 0
  posting := []
  nextCall := 0
  routine := .waiting
  snapshots :=
    { isSnapshotActive := false
      longShotEnabled := false
      numOfSnapshotExpected := 0
      numOfSnapshotRcvd := 0 }

/-! ## What the callers are promised -/

/-- The callbacks that were enqueued, in order. -/
def enqueuedCallbacks (log : List Output) : List Callback :=
  log.filterMap fun output =>
    match output with
    | .enqueued cb => some cb
    | _ => none

/-- The callbacks that were delivered, in order. -/
def deliveredCallbacks (log : List Output) : List Callback :=
  log.filterMap fun output =>
    match output with
    | .delivered cb => some cb
    | _ => none

/-- A snapshot callback was delivered. -/
def isSnapshot : Output → Bool
  | .delivered cb => cb.cbType = .dataSnapshot
  | _ => false

/-- A command has started or ended a series of snapshots. -/
def isBoundary : Output → Bool
  | .started _ _ => true
  | .stopped => true
  | _ => false

/--
Each callback that was accepted is released once, at the latest when the thread
exits, one that was refused is not released, callbacks are delivered in the
order in which they were enqueued, and a series of snapshots is reported as
done once, at its last expected snapshot.
-/
structure NotifierSound (notifier : Notifier) (log : List Output) : Prop where
  accepted : ∀ call, .returned call noError ∈ log → ∃ cb ∈ enqueuedCallbacks log, cb.call = call ∧
          (cb.hasRelease = true → log.count (.released call) ≤ 1 ∧ (notifier.routine = .exited →
                log.count (.released call) = 1))
  refused : ∀ call rc, .returned call rc ∈ log → rc ≠ noError → .released call ∉ log
  ordered : (deliveredCallbacks log).Sublist (enqueuedCallbacks log)
  done : ∀ before expected after, log = before ++ .started expected false :: after → 0 < expected →
      (∀ output ∈ after, isBoundary output = false) → after.count .snapshotDone ≤ 1 ∧
          ∀ earlier later, after = earlier ++ .snapshotDone :: later →
              earlier.countP isSnapshot + 1 = expected

/-- The thread is about to count a snapshot. -/
def Notifier.countsSnapshot (env : ServeEnv) (notifier : Notifier) : Bool :=
  notifier.routine == .got .doNextJob &&
    notifier.dataQ.items.head?.any matchSnapshotNotifications &&
    env.msgTypeEnabled && notifier.snapshots.isSnapshotActive &&
    env.dataCb && !notifier.snapshots.longShotEnabled

/--
A command that a call sends for its callback gets its memory, and the count of
the snapshots does not wrap around.
-/
def Careful (notifier : Notifier) : Event → Prop
  | .post _ env => env.command = true
  | .serve env =>
    notifier.countsSnapshot env = true → notifier.snapshots.numOfSnapshotRcvd + 1 < 4294967296
  | _ => True

instance decidableCareful (notifier : Notifier) : ∀ event, Decidable (Careful notifier event)
  | .post _ env => inferInstanceAs (Decidable (env.command = true))
  | .serve env =>
    inferInstanceAs (Decidable (notifier.countsSnapshot env = true →
        notifier.snapshots.numOfSnapshotRcvd + 1 < 4294967296))
  | .enqueue .. | .flushPreview _ | .startSnapshots _ | .stopSnapshots _
  | .exit _ | .getCmd => isTrue trivial

end AnglerHal.CbNotifier
