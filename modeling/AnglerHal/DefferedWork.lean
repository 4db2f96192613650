import AnglerHal.LabelledRun
import Mathlib.Data.Int.Init

namespace AnglerHal.DefferedWork

/-!
# Deffered work of HAL 1

`queueDefferedWork` gives a job the first free id of `mDeffOngoingJobs` and
queues it for the deffered-work thread; `waitDefferedWork` sleeps on `mDeffCond`
until the id is free again.  Everything under `mDeffLock` is one step here, and
a thread that was woken gets the lock again in a step of its own.

`waitDefferedWork` takes its id by reference; the variable behind it does not
change during the call.
-/

/-- `MAX_ONGOING_JOBS`. -/
def maxOngoingJobs : Nat :=
  25

/-- `CMD_DEFF_ALLOCATE_BUFF` and `CMD_DEFF_PPROC_START`, and whether there is a channel. -/
inductive DefferedWorkCmd where
  | allocateBuff (channel : Bool)
  | pprocStart (channel : Bool)
  deriving DecidableEq

/-- `DeffWork`, with the number of the `queueDefferedWork` call that made it. -/
structure DeffWork where
  number : Nat
  id : Nat
  cmd : DefferedWorkCmd
  deriving DecidableEq

/--
A thread inside the loop of `waitDefferedWork`, the number of the job that had
the id when it called, and whether a wake-up is pending for it.
-/
structure Waiter where
  thread : Nat
  jobId : Nat
  job : Option Nat
  woken : Bool
  deriving DecidableEq

/--
The table of ids, the command queue, the job in the hands of the deffered-work
thread, the numbers of the jobs that it is done with, and the waiting threads.
-/
structure DeffState where
  mDeffOngoingJobs : Nat → Bool
  mCmdQueue : List DeffWork
  running : Option DeffWork
  finished : List Nat
  nextNumber : Nat
  waiters : List Waiter

/-- The interface after its construction. -/
def DeffState.created : DeffState where
  mDeffOngoingJobs := fun _ => false
  mCmdQueue := []
  running := none
  finished := []
  nextNumber := 0
  waiters := []

/--
Calls of the threads, their return from the condition variable, and the steps
of the deffered-work thread.  `active` says whether the queue takes the job,
`succeeded` is the outcome of starting the postprocessor, and `signalled` is
the thread that a `signal` wakes.
-/
inductive DeffEvent where
  | queueDefferedWork (thread : Nat) (cmd : DefferedWorkCmd) (active : Bool)
  | waitDefferedWork (thread : Nat) (jobId : Int)
  | relock (thread : Nat)
  | dequeue
  | finish (succeeded : Bool) (signalled : Option Nat)
  deriving DecidableEq

/-- What the calls return, and the channel that a failed start deletes. -/
inductive DeffOutput where
  | queued (thread : Nat) (jobId : Int)
  | returned (thread : Nat) (job : Option Nat)
  | delChannel
  deriving DecidableEq

/-- The jobs that are queued or running. -/
def DeffState.jobs (state : DeffState) : List DeffWork :=
  state.running.toList ++ state.mCmdQueue

/-- The number of the queued or running job with an id. -/
def DeffState.jobWith (jobId : Nat) (state : DeffState) : Option Nat :=
  (state.jobs.find? fun work => work.id = jobId).map DeffWork.number

/-- The first free id. -/
def DeffState.freeId (state : DeffState) : Option Nat :=
  (List.range maxOngoingJobs).find? fun i => !state.mDeffOngoingJobs i

/-- An assignment to `mDeffOngoingJobs[i]`. -/
def DeffState.setOngoing (i : Nat) (ongoing : Bool) (state : DeffState) : DeffState :=
  { state with
    mDeffOngoingJobs := fun j =>
      if j = i then ongoing else state.mDeffOngoingJobs j }

/-- A thread goes to sleep or is woken. -/
def setWoken (thread : Nat) (woken : Bool) (waiters : List Waiter) : List Waiter :=
  waiters.map fun waiter =>
    if waiter.thread = thread then
      { waiter with woken := woken }
    else
      waiter

/-- `broadcast`. -/
def wakeAll (waiters : List Waiter) : List Waiter :=
  waiters.map fun waiter => { waiter with woken := true }

/-- `signal`, which wakes one sleeping thread if there is one. -/
def signal? (signalled : Option Nat) (waiters : List Waiter) : Option (List Waiter) :=
  match signalled with
  | none =>
    if waiters.all fun waiter => waiter.woken then
      some waiters
    else
      none
  | some thread =>
    if waiters.any fun waiter =>
        waiter.thread = thread && !waiter.woken then
      some (setWoken thread true waiters)
    else
      none

/--
The waiting threads after the deffered-work thread is done with a job.  An
allocation without a channel leaves the case early and wakes nobody.
-/
def notified? (cmd : DefferedWorkCmd) (signalled : Option Nat)
    (waiters : List Waiter) : Option (List Waiter) :=
  match cmd with
  | .allocateBuff true => signal? signalled waiters
  | .allocateBuff false => some waiters
  | .pprocStart _ => some (wakeAll waiters)

/-- Whether the completion step frees the id of the job. -/
def DefferedWorkCmd.completes : DefferedWorkCmd → Bool
  | .allocateBuff channel => channel
  | .pprocStart _ => true

/--
A failed start of the postprocessor deletes the capture channel; without a
channel the start fails, unless the assertion before it stops the process.
-/
def DefferedWorkCmd.startFailure (succeeded : Bool) : DefferedWorkCmd → List DeffOutput
  | .allocateBuff _ => []
  | .pprocStart channel => if channel && succeeded then [] else [.delChannel]

/-- The deffered-work thread is done with its job. -/
def DeffState.done (work : DeffWork) (waiters : List Waiter) (state : DeffState) : DeffState :=
  { state with
    mDeffOngoingJobs := fun j =>
      if j = work.id ∧ work.cmd.completes = true then
        false
      else
        state.mDeffOngoingJobs j
    running := none
    finished := work.number :: state.finished
    waiters := waiters }

/-- A thread is outside the loop of `waitDefferedWork`. -/
def DeffState.isFree (thread : Nat) (state : DeffState) : Bool :=
  state.waiters.all fun waiter => waiter.thread ≠ thread

/-- `queueDefferedWork`. -/
def DeffState.queueDefferedWork (thread : Nat) (cmd : DefferedWorkCmd) (active : Bool)
    (state : DeffState) : DeffState × List DeffOutput :=
  match state.freeId with
  | none => (state, [.queued thread (-1)])
  | some i =>
    if active then
      ({ state.setOngoing i true with
          mCmdQueue :=
            state.mCmdQueue ++ [{
              number := state.nextNumber
              id := i
              cmd := cmd }]
          nextNumber := state.nextNumber + 1 },
        [.queued thread i])
    else
      (state, [.queued thread (-1)])

/-- `waitDefferedWork` up to its first wait. -/
def DeffState.waitDefferedWork (thread : Nat) (jobId : Int)
    (state : DeffState) : DeffState × List DeffOutput :=
  if (maxOngoingJobs : Int) ≤ jobId ∨ jobId < 0 then
    (state, [.returned thread none])
  else if state.mDeffOngoingJobs jobId.toNat then
    ({ state with
        waiters := {
          thread := thread
          jobId := jobId.toNat
          job := state.jobWith jobId.toNat
          woken := false } :: state.waiters }, [])
  else
    (state, [.returned thread (state.jobWith jobId.toNat)])

/-- One step.  A thread inside `waitDefferedWork` calls nothing else. -/
def deffStep (state : DeffState) : DeffEvent → Option (DeffState × List DeffOutput)
  | .queueDefferedWork thread cmd active =>
    if state.isFree thread then
      some (state.queueDefferedWork thread cmd active)
    else
      none
  | .waitDefferedWork thread jobId =>
    if state.isFree thread then
      some (state.waitDefferedWork thread jobId)
    else
      none
  | .relock thread =>
    match state.waiters.find? fun waiter =>
        waiter.thread = thread && waiter.woken with
    | none => none
    | some waiter =>
      if state.mDeffOngoingJobs waiter.jobId then
        some ({ state with
          waiters := setWoken thread false state.waiters }, [])
      else
        some ({ state with
          waiters :=
            state.waiters.filter fun other => other.thread ≠ thread },
          [.returned thread waiter.job])
  | .dequeue =>
    match state.running, state.mCmdQueue with
    | none, work :: later => some ({ state with running := some work, mCmdQueue := later }, [])
    | _, _ => none
  | .finish succeeded signalled =>
    match state.running with
    | none => none
    | some work =>
      match notified? work.cmd signalled state.waiters with
      | none => none
      | some waiters => some (state.done work waiters, work.cmd.startFailure succeeded)

/-! ## What is promised, and when -/

/-- A thread that sleeps waits for a job that the deffered-work thread is not done with. -/
def Waiter.MaySleep (finished : List Nat) (waiter : Waiter) : Prop :=
  ∃ number, waiter.job = some number ∧ number ∉ finished

/--
After a step: the queued and running jobs have different ids, a call that found
a queued or running job with its id returned only when that job has run, and no
thread sleeps for a job that has run.
-/
structure SoundAfter (next : DeffState) (emitted : List DeffOutput) : Prop where
  distinct : (next.jobs.map DeffWork.id).Nodup
  ran : ∀ thread number, .returned thread (some number) ∈ emitted → number ∈ next.finished
  awake : ∀ waiter ∈ next.waiters, waiter.woken = false → waiter.MaySleep next.finished

/-- The threads that sleep, and have no wake-up pending, for a job. -/
def DeffState.sleepers (number : Nat) (state : DeffState) : List Nat :=
  (state.waiters.filter fun waiter => !waiter.woken && waiter.job == some number).map Waiter.thread

/-- The threads that sleep. -/
def DeffState.asleep (state : DeffState) : List Nat :=
  (state.waiters.filter fun waiter => !waiter.woken).map Waiter.thread

/-- Every outcome of the step is sound. -/
def SoundStep (state : DeffState) (_ : List DeffEvent) (event : DeffEvent) : Prop :=
  ∀ next emitted, deffStep state event = some (next, emitted) → SoundAfter next emitted

/--
When an allocation has a channel, nobody else than the thread that the signal
wakes sleeps for it, and when it has none, nobody does; a postprocessor start
may have any sleepers.  A woken thread does not find its id taken by a later
job, and nobody waits for an id that a job without a channel left behind.
-/
def Prompt (state : DeffState) (_ : List DeffEvent) : DeffEvent → Prop
  | .queueDefferedWork _ _ _ => True
  | .waitDefferedWork thread jobId =>
    state.isFree thread = true →
    0 ≤ jobId →
    jobId < maxOngoingJobs →
    state.mDeffOngoingJobs jobId.toNat = true → ∃ work ∈ state.jobs, work.id = jobId.toNat
  | .relock thread =>
    ∀ waiter ∈ state.waiters, waiter.thread = thread → waiter.woken = true →
      state.mDeffOngoingJobs waiter.jobId = true → waiter.MaySleep state.finished
  | .dequeue => True
  | .finish _ signalled =>
    ∀ work, state.running = some work →
      match work.cmd with
      | .allocateBuff true =>
        ∀ thread ∈ state.asleep, signalled = some thread →
          ∀ sleeper ∈ state.sleepers work.number, sleeper = thread
      | .allocateBuff false => state.sleepers work.number = []
      | .pprocStart _ => True

end AnglerHal.DefferedWork
