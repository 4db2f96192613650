import AnglerHal.CameraQueue
import AnglerHal.LabelledRun
import Mathlib.Data.List.Nodup

namespace AnglerHal.StreamThread

open LabelledRun
open PostProc (CameraQueue)

/-!
# The thread of a HAL1 stream

`dataNotifyCB` puts a frame into `mDataQ` and sends the stream thread a command;
the thread takes one frame for each command.  `start` opens the queue and launches
the thread; `stop` sends `CAMERA_CMD_TYPE_EXIT` ahead of all other commands and
waits for the thread, which flushes the queue as its last act.  Every access to a
queue or a semaphore is one step here, and the steps of the callbacks, of the thread
and of `start` and `stop` come in any order.

The frames that were received, handed to `mDataCB` and given back are recorded.
-/

/-- A received frame, with the number of the cycle it was received in; even numbers
stand for the times between two cycles. -/
structure Frame where
  id : Nat
  cycle : Nat
  deriving DecidableEq

/-- `CAMERA_CMD_TYPE_DO_NEXT_JOB` and `CAMERA_CMD_TYPE_EXIT`. -/
inductive Cmd where
  | doNextJob
  | exit
  deriving DecidableEq

/-- Where the stream thread is in `dataProcRoutine`. -/
inductive ThreadState where
  | none
  | waiting
  /-- `cam_sem_wait` has returned. -/
  | woken
  | doNext
  /-- A frame is dequeued. -/
  | holds (frame : Frame)
  | exiting
  | ended
  deriving DecidableEq

/-- Where `start` and `stop` are. -/
inductive Control where
  | idle
  /-- `mDataQ.init` is done. -/
  | opened
  | running
  /-- The exit command is queued. -/
  | exitSent
  | joining
  deriving DecidableEq

/-- A `QCameraStream` and its `mProcTh`.  `sending` and `posting` count callbacks that have
queued a frame, and then its command, and go on from there. -/
structure StreamState where
  mDataQ : CameraQueue Frame
  cmdQueue : List Cmd
  cmdSem : Nat
  sending : Nat
  posting : Nat
  thread : ThreadState
  control : Control
  /-- `cmd_pid` is not 0. -/
  cmdPid : Bool
  mBActive : Bool
  cycle : Nat
  /-- The frames that have been queued since the last start. -/
  accepted : Nat
  received : List Frame
  delivered : List Frame
  returned : List Frame

/-- A stream that has not been started. -/
def StreamState.new : StreamState where
  mDataQ := CameraQueue.new
  cmdQueue := []
  cmdSem := 0
  sending := 0
  posting := 0
  thread := .none
  control := .idle
  cmdPid := false
  mBActive := false
  cycle := 0
  accepted := 0
  received := []
  delivered := []
  returned := []

inductive Event where
  /-- `mDataQ.enqueue`, in `processDataNotify`. -/
  | receive
  /-- `cmd_queue.enqueue`, in `sendCmd`. -/
  | sendCmd
  /-- `cam_sem_post`. -/
  | post
  /-- `mDataQ.init`, in `start`. -/
  | initQueue
  /-- `launch`, and whether `pthread_create` makes a thread. -/
  | launch (up : Bool)
  /-- `stop`, up to the queued exit command. -/
  | stop
  | postExit
  /-- `pthread_join` returns. -/
  | join
  /-- The thread returns from `cam_sem_wait`. -/
  | wake
  | getCmd
  /-- `mDataQ.dequeue`. -/
  | takeFrame
  /-- The call of `mDataCB`, or `bufDone` where there is none. -/
  | handOn
  /-- `mDataQ.flush`. -/
  | flush
  deriving DecidableEq

namespace StreamState

def receive (state : StreamState) : StreamState :=
  let frame : Frame := ⟨state.received.length, state.cycle⟩
  if state.mDataQ.m_active = true then
    { state with
      mDataQ := state.mDataQ.enqueue frame
      sending := state.sending + 1
      accepted := state.accepted + 1
      received := state.received ++ [frame] }
  else
    { state with
      received := state.received ++ [frame]
      returned := state.returned ++ [frame] }

/-- `pthread_create` leaves `cmd_pid` alone when it fails, and `launch` does not look at
what it returns. -/
def launch (up : Bool) (state : StreamState) : StreamState :=
  { state with
    thread := if up then .waiting else .none
    cmdPid := up
    mBActive := true
    control := .running }

def stop (state : StreamState) : StreamState :=
  if state.cmdPid = true then
    { state with mBActive := false, cmdQueue := .exit :: state.cmdQueue, control := .exitSent }
  else { state with mBActive := false, control := .idle, cycle := state.cycle + 1 }

def getCmd (state : StreamState) : StreamState :=
  match state.cmdQueue with
  | [] => { state with thread := .waiting }
  | .doNextJob :: rest => { state with cmdQueue := rest, thread := .doNext }
  | .exit :: rest => { state with cmdQueue := rest, thread := .exiting }

def takeFrame (state : StreamState) : StreamState :=
  { state with
    mDataQ := state.mDataQ.dequeue.2
    thread := match state.mDataQ.dequeue.1 with
      | some frame => .holds frame
      | none => .waiting }

def handOn (dataCB : Bool) (frame : Frame) (state : StreamState) : StreamState :=
  if dataCB then { state with delivered := state.delivered ++ [frame], thread := .waiting }
  else { state with returned := state.returned ++ [frame], thread := .waiting }

/-- `releaseFrameData` gives the frames of the queue back. -/
def flush (state : StreamState) : StreamState :=
  { state with
    mDataQ := state.mDataQ.flush.2
    returned := state.returned ++ state.mDataQ.flush.1
    thread := .ended }

/-- One step, where it is enabled; `dataCB` tells whether `mDataCB` is set. -/
def step (dataCB : Bool) (state : StreamState) : Event → Option (StreamState × List Unit)
  | .receive => some (state.receive, [])
  | .sendCmd =>
    if 0 < state.sending then
      some ({ state with
        sending := state.sending - 1
        posting := state.posting + 1
        cmdQueue := state.cmdQueue ++ [.doNextJob] }, [])
    else none
  | .post =>
    if 0 < state.posting then
      some ({ state with posting := state.posting - 1, cmdSem := state.cmdSem + 1 }, [])
    else none
  | .initQueue =>
    if state.control = .idle then
      some ({ state with
        mDataQ := state.mDataQ.init
        control := .opened
        cycle := state.cycle + 1
        accepted := 0 }, [])
    else none
  | .launch up => if state.control = .opened then some (state.launch up, []) else none
  | .stop => if state.control = .running then some (state.stop, []) else none
  | .postExit =>
    if state.control = .exitSent then
      some ({ state with cmdSem := state.cmdSem + 1, control := .joining }, [])
    else none
  | .join =>
    if state.control = .joining ∧ state.thread = .ended then
      some ({ state with
        thread := .none
        cmdPid := false
        control := .idle
        cycle := state.cycle + 1 }, [])
    else none
  | .wake =>
    if state.thread = .waiting ∧ 0 < state.cmdSem then
      some ({ state with cmdSem := state.cmdSem - 1, thread := .woken }, [])
    else none
  | .getCmd => if state.thread = .woken then some (state.getCmd, []) else none
  | .takeFrame => if state.thread = .doNext then some (state.takeFrame, []) else none
  | .handOn =>
    match state.thread with
    | .holds frame => some (state.handOn dataCB frame, [])
    | _ => none
  | .flush => if state.thread = .exiting then some (state.flush, []) else none

/-- The frame that the thread has dequeued and not yet handed on. -/
def held (state : StreamState) : List Frame :=
  match state.thread with
  | .holds frame => [frame]
  | _ => []

/-- What the stream promises at any time. -/
structure Sound (state : StreamState) : Prop where
  /-- A received frame is handed on once, or given back once, or still waits. -/
  once : ∀ frame ∈ state.received,
    state.delivered.count frame + state.returned.count frame + state.held.count frame +
      state.mDataQ.items.count frame = 1
  order : state.delivered.Sublist state.received
  /-- No frame waits when the thread has no command left. -/
  drained : state.thread = .waiting → state.cmdQueue = [] → state.sending = 0 →
    state.mDataQ.items = []
  /-- No frame of the cycle waits after a stop. -/
  finished : state.control = .idle → ∀ frame ∈ state.mDataQ.items,
    frame.cycle + 1 ≠ state.cycle

/-- A cycle whose thread did not come up ends without having queued a frame. -/
def Disciplined (state : StreamState) : Event → Prop
  | .stop => state.control = .running → state.cmdPid = false → state.accepted = 0
  | _ => True

/-! ## The invariant -/

/-- What holds between any two steps. -/
structure Inv (state : StreamState) : Prop where
  /-- Every received frame is in one place. -/
  accounts : state.received.Perm
    (state.delivered ++ state.returned ++ state.held ++ state.mDataQ.items)
  inOrder : (state.delivered ++ state.held ++ state.mDataQ.items).Sublist state.received
  ids : state.received.map (·.id) = List.range state.received.length
  /-- A command is there, or will be, for every frame of the queue. -/
  commands : state.mDataQ.items.length ≤ state.cmdQueue.count .doNextJob + state.sending +
    if state.thread = .doNext then 1 else 0
  ended : state.thread = .ended → state.mDataQ.m_active = false
  cycles : ∀ frame ∈ state.mDataQ.items, frame.cycle ≤ state.cycle
  pid : state.cmdPid = false → state.thread = .none
  idle : state.control = .idle ∨ state.control = .opened → state.cmdPid = false
  /-- Nothing takes a frame from the queue in a cycle without a thread. -/
  down : state.cmdPid = false → state.control ≠ .idle →
    state.mDataQ.items.countP (fun frame => frame.cycle = state.cycle) = state.accepted

variable {state next : StreamState} {dataCB : Bool}

theorem Inv.new : StreamState.new.Inv where
  accounts := List.Perm.refl _
  inOrder := List.Sublist.refl _
  ids := rfl
  commands := Nat.le_refl _
  ended := by simp [StreamState.new]
  cycles := by simp [StreamState.new]
  pid := fun _ => rfl
  idle := fun _ => rfl
  down := fun _ busy => absurd rfl busy

/-- The invariant leaves one promise open: that of the frames after a stop. -/
theorem Inv.sound_iff (inv : state.Inv) :
    state.Sound ↔ (state.control = .idle → ∀ frame ∈ state.mDataQ.items,
      frame.cycle + 1 ≠ state.cycle) := by
  refine ⟨Sound.finished, fun finished => ⟨fun frame member => ?_, ?_, ?_, finished⟩⟩
  · have nodup : state.received.Nodup := by
      refine List.Nodup.of_map (·.id) ?_
      rw [inv.ids]
      exact List.nodup_range
    have one := (List.nodup_iff_count_eq_one.mp nodup) frame member
    rw [inv.accounts.count_eq] at one
    simpa [Nat.add_assoc] using one
  · refine List.Sublist.trans ?_ inv.inOrder
    rw [List.append_assoc]
    exact List.sublist_append_left _ _
  · intro waiting noCommand noneSending
    have few := inv.commands
    rw [waiting, noCommand, noneSending] at few
    exact List.length_eq_zero_iff.mp (by simpa using few)

theorem Inv.receive (inv : state.Inv) : state.receive.Inv := by
  have ids : (state.received ++ [(⟨state.received.length, state.cycle⟩ : Frame)]).map (·.id) =
      List.range (state.received ++ [(⟨state.received.length, state.cycle⟩ : Frame)]).length := by
    simp [inv.ids, List.range_succ]
  unfold StreamState.receive
  dsimp only
  split
  · rename_i active
    have queued := CameraQueue.enqueue_of_active active ⟨state.received.length, state.cycle⟩
    refine ⟨?_, ?_, ids, ?_, fun hasEnded => ?_, ?_, inv.pid, inv.idle, fun isDown busy => ?_⟩ <;>
      simp only [queued.1, queued.2]
    · rw [← List.append_assoc]
      exact inv.accounts.append_right _
    · rw [← List.append_assoc]
      exact inv.inOrder.append (List.Sublist.refl _)
    · have := inv.commands
      simp only [List.length_append, List.length_singleton]
      omega
    · exact absurd (inv.ended hasEnded) (by simp [active])
    · intro frame member
      obtain old | new := List.mem_append.mp member
      · exact inv.cycles frame old
      · obtain rfl := List.mem_singleton.mp new
        exact Nat.le_refl _
    · simp [List.countP_append, inv.down isDown busy]
  · refine ⟨?_, ?_, ids, inv.commands, inv.ended, inv.cycles, inv.pid, inv.idle, inv.down⟩
    · refine (inv.accounts.append_right _).trans ?_
      simp only [List.append_assoc, StreamState.held]
      refine List.Perm.append_left _ (List.Perm.append_left _ ?_)
      rw [← List.append_assoc]
      exact List.perm_append_comm
    · exact inv.inOrder.trans (List.sublist_append_left _ _)

/-- Where the frames and commands of a stream with these queues are. -/
theorem Inv.command (inv : state.Inv) {queue : List Cmd} {thread : ThreadState}
    (running : state.thread ≠ .none)
    (commands : queue.count .doNextJob + (if thread = .doNext then 1 else 0) =
      state.cmdQueue.count .doNextJob + if state.thread = .doNext then 1 else 0)
    (notEnded : thread ≠ .ended)
    (held : ∀ sem, { state with cmdQueue := queue, thread := thread, cmdSem := sem }.held =
      state.held) (sem : Nat) :
    { state with cmdQueue := queue, thread := thread, cmdSem := sem }.Inv where
  accounts := by
    rw [held]
    exact inv.accounts
  inOrder := by
    rw [held]
    exact inv.inOrder
  ids := inv.ids
  commands := by
    have := inv.commands
    simp only
    omega
  ended hasEnded := absurd hasEnded notEnded
  cycles := inv.cycles
  pid isDown := absurd (inv.pid isDown) running
  idle := inv.idle
  down := inv.down

theorem Inv.takeFrame (inv : state.Inv) (doNext : state.thread = .doNext) :
    state.takeFrame.Inv := by
  have isHeld : state.held = [] := by rw [held, doNext]
  have commands := inv.commands
  have accounts := inv.accounts
  have inOrder := inv.inOrder
  rw [isHeld] at accounts inOrder
  rw [doNext, if_pos rfl] at commands
  have running : ∀ {P : Prop}, state.cmdPid = false → P := fun isDown => by
    have := inv.pid isDown
    simp [doNext] at this
  unfold StreamState.takeFrame
  cases stored : state.mDataQ.items with
  | nil =>
    rw [CameraQueue.dequeue_of_nil stored]
    refine ⟨?_, ?_, inv.ids, ?_, by simp, inv.cycles, running, inv.idle, running⟩
    · exact accounts
    · exact inOrder
    · simp [stored]
  | cons first rest =>
    obtain ⟨isFirst, isRest, _⟩ := CameraQueue.dequeue_of_cons stored
    refine ⟨?_, ?_, inv.ids, ?_, fun hasEnded => ?_, fun frame member => ?_, running, inv.idle,
      running⟩
    · simpa [held, isFirst, isRest, stored] using accounts
    · simpa [held, isFirst, isRest, stored] using inOrder
    · rw [stored, List.length_cons] at commands
      simp only [isFirst, isRest, reduceCtorEq, if_false]
      omega
    · simp only [isFirst, reduceCtorEq] at hasEnded
    · rw [isRest] at member
      exact inv.cycles frame (stored ▸ List.mem_cons_of_mem _ member)

theorem Inv.handOn (inv : state.Inv) {frame : Frame} (holds : state.thread = .holds frame) :
    (state.handOn dataCB frame).Inv := by
  have isHeld : state.held = [frame] := by rw [held, holds]
  have commands := inv.commands
  have accounts := inv.accounts
  have inOrder := inv.inOrder
  rw [isHeld] at accounts inOrder
  rw [holds] at commands
  have running : ∀ {P : Prop}, state.cmdPid = false → P := fun isDown => by
    have := inv.pid isDown
    simp [holds] at this
  unfold StreamState.handOn
  split
  · refine ⟨?_, ?_, inv.ids, commands, by simp, inv.cycles, running, inv.idle, running⟩
    · refine accounts.trans ?_
      simp only [held, List.append_nil, List.append_assoc]
      refine List.Perm.append_left _ ?_
      rw [← List.append_assoc, ← List.append_assoc]
      exact List.perm_append_comm.append_right _
    · simpa [held] using inOrder
  · refine ⟨?_, ?_, inv.ids, commands, by simp, inv.cycles, running, inv.idle, running⟩
    · simpa [held] using accounts
    · refine List.Sublist.trans ?_ inOrder
      simp [held]

theorem Inv.flush (inv : state.Inv) (exiting : state.thread = .exiting) : state.flush.Inv := by
  have isHeld : state.held = [] := by rw [held, exiting]
  have accounts := inv.accounts
  have inOrder := inv.inOrder
  rw [isHeld] at accounts inOrder
  have running : ∀ {P : Prop}, state.cmdPid = false → P := fun isDown => by
    have := inv.pid isDown
    simp [exiting] at this
  refine ⟨?_, ?_, inv.ids, ?_, fun _ => rfl, by simp [StreamState.flush], running, inv.idle,
    running⟩
  · simpa [StreamState.flush, held, CameraQueue.flush] using accounts
  · refine List.Sublist.trans ?_ inOrder
    simp [StreamState.flush, held]
  · simp [StreamState.flush]

theorem Inv.initQueue (inv : state.Inv) (isIdle : state.control = .idle) :
    { state with
      mDataQ := state.mDataQ.init
      control := .opened
      cycle := state.cycle + 1
      accepted := 0 }.Inv where
  accounts := inv.accounts
  inOrder := inv.inOrder
  ids := inv.ids
  commands := inv.commands
  ended hasEnded := by
    have := inv.pid (inv.idle (.inl isIdle))
    simp only at hasEnded
    simp [this] at hasEnded
  cycles frame member := Nat.le_succ_of_le (inv.cycles frame member)
  pid := inv.pid
  idle _ := inv.idle (.inl isIdle)
  down _ _ := by
    rw [List.countP_eq_zero]
    intro frame member
    have := inv.cycles frame member
    simp
    omega

theorem Inv.launch (inv : state.Inv) (opened : state.control = .opened) (up : Bool) :
    (state.launch up).Inv := by
  have isDown := inv.idle (.inr opened)
  have noThread := inv.pid isDown
  have isHeld : state.held = [] := by rw [held, noThread]
  have accounts := inv.accounts
  have inOrder := inv.inOrder
  have commands := inv.commands
  rw [isHeld] at accounts inOrder
  rw [noThread] at commands
  unfold StreamState.launch
  refine ⟨?_, ?_, inv.ids, ?_, ?_, inv.cycles, ?_, by simp, fun _ _ =>
    inv.down isDown (by simp [opened])⟩
  · cases up <;> simpa [held] using accounts
  · cases up <;> simpa [held] using inOrder
  · cases up <;> simpa using commands
  · cases up <;> simp
  · cases up <;> simp

theorem Inv.stop (inv : state.Inv) : state.stop.Inv := by
  unfold StreamState.stop
  split
  · rename_i isUp
    refine ⟨inv.accounts, inv.inOrder, inv.ids, ?_, inv.ended, inv.cycles, inv.pid, by simp,
      fun isDown => by simp [isUp] at isDown⟩
    have := inv.commands
    simpa using this
  · rename_i isDown
    exact ⟨inv.accounts, inv.inOrder, inv.ids, inv.commands, inv.ended,
      fun frame member => Nat.le_succ_of_le (inv.cycles frame member), inv.pid,
      fun _ => by simpa using isDown, fun _ busy => absurd rfl busy⟩

theorem Inv.join (inv : state.Inv) (hasEnded : state.thread = .ended) :
    { state with
      thread := .none
      cmdPid := false
      control := .idle
      cycle := state.cycle + 1 }.Inv := by
  have isHeld : state.held = [] := by rw [held, hasEnded]
  have accounts := inv.accounts
  have inOrder := inv.inOrder
  have commands := inv.commands
  rw [isHeld] at accounts inOrder
  rw [hasEnded] at commands
  exact ⟨accounts, inOrder, inv.ids, commands, by simp,
    fun frame member => Nat.le_succ_of_le (inv.cycles frame member), fun _ => rfl, fun _ => rfl,
    fun _ busy => absurd rfl busy⟩

variable {event : Event} {out : List Unit}

theorem Inv.step (inv : state.Inv)
    (stepped : state.step dataCB event = some (next, out)) : next.Inv := by
  cases event with
  | receive =>
    simp only [StreamState.step, Option.some.injEq, Prod.mk.injEq] at stepped
    exact stepped.1 ▸ inv.receive
  | sendCmd =>
    obtain ⟨some, rfl⟩ := of_step stepped
    refine ⟨inv.accounts, inv.inOrder, inv.ids, ?_, inv.ended, inv.cycles, inv.pid, inv.idle,
      inv.down⟩
    have := inv.commands
    simp only [List.count_append, List.count_singleton_self]
    omega
  | post =>
    obtain ⟨_, rfl⟩ := of_step stepped
    exact ⟨inv.accounts, inv.inOrder, inv.ids, inv.commands, inv.ended, inv.cycles, inv.pid,
      inv.idle, inv.down⟩
  | initQueue =>
    obtain ⟨met, rfl⟩ := of_step stepped
    exact inv.initQueue met
  | launch up =>
    obtain ⟨met, rfl⟩ := of_step stepped
    exact inv.launch met up
  | stop =>
    obtain ⟨_, rfl⟩ := of_step stepped
    exact inv.stop
  | postExit =>
    obtain ⟨sent, rfl⟩ := of_step stepped
    exact ⟨inv.accounts, inv.inOrder, inv.ids, inv.commands, inv.ended, inv.cycles,
      inv.pid, by simp, fun isDown _ => inv.down isDown (by simp [sent])⟩
  | join =>
    obtain ⟨⟨_, met⟩, rfl⟩ := of_step stepped
    exact inv.join met
  | wake =>
    obtain ⟨⟨waiting, _⟩, rfl⟩ := of_step stepped
    exact inv.command (by simp [waiting]) (by simp [waiting]) (by simp)
      (fun _ => by simp [held, waiting]) _
  | getCmd =>
    obtain ⟨woken, rfl⟩ := of_step stepped
    unfold StreamState.getCmd
    split <;> rename_i isQueue <;>
      exact inv.command (by simp [woken]) (by simp [woken, isQueue]) (by simp)
        (fun _ => by simp [held, woken]) _
  | takeFrame =>
    obtain ⟨met, rfl⟩ := of_step stepped
    exact inv.takeFrame met
  | handOn =>
    simp only [StreamState.step] at stepped
    split at stepped
    · rename_i frame holds
      simp only [Option.some.injEq, Prod.mk.injEq] at stepped
      exact stepped.1 ▸ inv.handOn holds
    · cases stepped
  | flush =>
    obtain ⟨met, rfl⟩ := of_step stepped
    exact inv.flush met

/-- The frames that the queue keeps are not of a finished cycle. -/
theorem finished_of_sub (finished : state.control = .idle → ∀ frame ∈ state.mDataQ.items,
      frame.cycle + 1 ≠ state.cycle)
    (control : next.control = state.control) (cycle : next.cycle = state.cycle)
    (sub : ∀ frame ∈ next.mDataQ.items, frame ∈ state.mDataQ.items) :
    next.control = .idle → ∀ frame ∈ next.mDataQ.items, frame.cycle + 1 ≠ next.cycle := by
  intro isIdle frame member
  rw [cycle]
  exact finished (control ▸ isIdle) frame (sub frame member)

/-- A step keeps the promise exactly when it is disciplined. -/
theorem Inv.sound_step_iff (inv : state.Inv)
    (sound : state.Sound) (stepped : state.step dataCB event = some (next, out)) :
    next.Sound ↔ state.Disciplined event := by
  rw [(inv.step stepped).sound_iff]
  have finished := inv.sound_iff.mp sound
  cases event with
  | receive =>
    simp only [StreamState.step, Option.some.injEq, Prod.mk.injEq] at stepped
    obtain ⟨rfl, -⟩ := stepped
    refine iff_of_true (fun isIdle frame member => ?_) trivial
    unfold StreamState.receive at isIdle member ⊢
    split at member <;> rename_i active <;> simp only [active, if_true] at isIdle ⊢
    · rw [(CameraQueue.enqueue_of_active active _).1] at member
      obtain old | new := List.mem_append.mp member
      · exact finished isIdle frame old
      · rw [List.mem_singleton.mp new]
        exact Nat.succ_ne_self _
    · exact finished isIdle frame member
  | stop =>
    obtain ⟨running, rfl⟩ := of_step stepped
    unfold StreamState.stop
    split
    · rename_i isUp
      exact iff_of_true (by simp) (fun _ isDown => by simp [isUp] at isDown)
    · rename_i notUp
      have isDown : state.cmdPid = false := by simpa using notUp
      have count := inv.down isDown (by simp [running])
      simp only [forall_const, Disciplined, running, isDown, ← count, List.countP_eq_zero,
        ne_eq, Nat.add_right_cancel_iff, decide_eq_true_eq]
  | join =>
    obtain ⟨⟨_, hasEnded⟩, rfl⟩ := of_step stepped
    have empty := state.mDataQ.inactiveEmpty (inv.ended hasEnded)
    exact iff_of_true (fun _ frame member => by simp [empty] at member) trivial
  | sendCmd =>
    obtain ⟨_, rfl⟩ := of_step stepped
    exact iff_of_true (finished_of_sub finished rfl rfl fun _ => id) trivial
  | post =>
    obtain ⟨_, rfl⟩ := of_step stepped
    exact iff_of_true (finished_of_sub finished rfl rfl fun _ => id) trivial
  | initQueue =>
    obtain ⟨_, rfl⟩ := of_step stepped
    exact iff_of_true (by simp) trivial
  | launch up =>
    obtain ⟨_, rfl⟩ := of_step stepped
    exact iff_of_true (by simp [StreamState.launch]) trivial
  | postExit =>
    obtain ⟨_, rfl⟩ := of_step stepped
    exact iff_of_true (by simp) trivial
  | wake =>
    obtain ⟨_, rfl⟩ := of_step stepped
    exact iff_of_true (finished_of_sub finished rfl rfl fun _ => id) trivial
  | getCmd =>
    obtain ⟨_, rfl⟩ := of_step stepped
    unfold StreamState.getCmd
    split <;> exact iff_of_true (finished_of_sub finished rfl rfl fun _ => id) trivial
  | takeFrame =>
    obtain ⟨_, rfl⟩ := of_step stepped
    refine iff_of_true (finished_of_sub finished rfl rfl fun frame member => ?_) trivial
    rw [StreamState.takeFrame, CameraQueue.dequeue_items] at member
    exact List.mem_of_mem_tail member
  | handOn =>
    simp only [StreamState.step] at stepped
    split at stepped
    · cases stepped
      unfold StreamState.handOn
      split <;> exact iff_of_true (finished_of_sub finished rfl rfl fun _ => id) trivial
    · cases stepped
  | flush =>
    obtain ⟨_, rfl⟩ := of_step stepped
    exact iff_of_true (finished_of_sub finished rfl rfl (by simp [StreamState.flush])) trivial

end StreamState

open StreamState

/-- The stream keeps its promise after every step of a run exactly when no cycle without a
thread ends after having queued a frame. -/
theorem streamThreadRun_sound_iff (dataCB : Bool) (events : List Event) :
    Guarded (StreamState.step dataCB)
        (fun state _ event => ∀ next out, state.step dataCB event = some (next, out) → next.Sound)
        StreamState.new [] events ↔
      Guarded (StreamState.step dataCB) (fun state _ event =>
        (state.step dataCB event).isSome → state.Disciplined event) StreamState.new [] events := by
  refine guarded_iff_of_invariant (fun state => state.Inv ∧ state.Sound) ?_ ?_
    ⟨Inv.new, Inv.new.sound_iff.mpr (by simp [StreamState.new])⟩
  · rintro state past event ⟨inv, sound⟩
    cases stepped : state.step dataCB event with
    | none => simp
    | some result =>
      obtain ⟨next, out⟩ := result
      rw [← inv.sound_step_iff sound stepped]
      simp
  · rintro state past event next out ⟨inv, _⟩ sound stepped
    exact ⟨inv.step stepped, sound next out stepped⟩

/-- The thread of a cycle does not come up, and a frame is received. -/
def startWithoutThread : List Event :=
  [.initQueue, .launch false, .receive, .sendCmd, .post, .stop]

/-- The frame waits in the queue after the stop. -/
theorem frame_left_after_stop :
    ¬ ∀ (dataCB : Bool) (events : List Event), Guarded (StreamState.step dataCB)
      (fun state _ event => ∀ next out, state.step dataCB event = some (next, out) → next.Sound)
      StreamState.new [] events := by
  intro claim
  have stopped := (((((claim true startWithoutThread).2 _ _ rfl).2 _ _ rfl).2 _ _ rfl).2 _ _ rfl).2
    _ _ rfl
  have sound := stopped.1 _ _ rfl
  exact absurd rfl (sound.finished rfl ⟨0, 1⟩ (by decide))

end AnglerHal.StreamThread
