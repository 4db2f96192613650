import AnglerHal.JpegClients
import Mathlib.Algebra.Group.Nat.Defs

namespace AnglerHal.JpegService

/-!
# The JPEG encoder service

Clients create sessions, start and abort jobs and destroy sessions; each of
these calls runs under the interface lock and is one event here.  The job
manager thread waits for `job_sem`, looks at the number of ongoing jobs and
then works on one job under `job_lock`: three events, between which anything
else may happen.  OMX answers in `mm_jpeg_fbd` and `mm_jpeg_event_handler`.

One call of `mm_jpeg_create_session` makes a chain of OMX sessions that share a
queue of free sessions and a queue of free output buffers.  A session is named
by its slot in the client table and such a pair of queues by a number.  What
OMX and `malloc` return is part of the events.  A step has no result where the
source follows a pointer to queues that are gone or reads before an array.
-/

/-- `MM_JPEG_MAX_SESSION`, the session slots of one client. -/
def mmJpegMaxSession : Nat :=
  10

/-- `MM_JPEG_MAX_BUF`. -/
def mmJpegMaxBuf : Nat :=
  64

/-- `JOB_HIST_MAX`. -/
def jobHistMax : Nat :=
  10000

/-- A session id: the client index and the session index it is made of. -/
structure SessionKey where
  clientIdx : Nat
  sessionIdx : Nat
  deriving DecidableEq

/--
A job id: the low 16 bits are those of the session id, `history` is the rest.
-/
structure JobId where
  session : SessionKey
  history : Nat
  deriving DecidableEq

/--
The id of the next job: `session_id | ((job_hist % JOB_HIST_MAX) << 16)`.  The
magic value of the session id stands in bit 24, which is bit 8 of the history.
-/
def makeJobId (session : SessionKey) (jobHist : Nat) : JobId where
  session := session
  history := (jobHist % jobHistMax) ||| 256

/-- `mm_jpeg_abort_state_t`. -/
inductive AbortState where
  | none
  | init
  | done
  deriving DecidableEq

/-- `jpeg_job_status_t`, as the callbacks use it. -/
inductive JobStatus where
  | done
  | error
  deriving DecidableEq

/-- The fields of `mm_jpeg_encode_params_t` that decide something here. -/
structure EncodeParams where
  numSrcBufs : Nat
  numDstBufs : Nat
  burstMode : Bool
  jpegCb : Bool
  deriving DecidableEq

/-- The buffer indices of `mm_jpeg_encode_job_t`. -/
structure EncodeJob where
  srcIndex : Int
  dstIndex : Int
  deriving DecidableEq

/-- `mm_jpeg_job_q_node_t` of an encoding job. -/
structure JobNode where
  jobId : JobId
  encodeJob : EncodeJob
  deriving DecidableEq

/--
`mm_jpeg_job_session_t`.  `queues` stands for `session_handle_q` and
`out_buf_q`, which are set and cleared together, and `omxOwes` says that OMX
holds the output buffer of a submitted job.
-/
structure JobSession where
  active : Bool
  nextSession : Option SessionKey
  params : EncodeParams
  queues : Option Nat
  abortState : AbortState
  encoding : Bool
  jobId : JobId
  encodeJob : EncodeJob
  autoOutBuf : Bool
  jobHist : Nat
  omxOwes : Bool
  deriving DecidableEq

/-- A session slot after `memset`. -/
def JobSession.zero : JobSession where
  active := false
  nextSession := none
  params := ⟨0, 0, false, false⟩
  queues := none
  abortState := .none
  encoding := false
  jobId := ⟨⟨0, 0⟩, 0⟩
  encodeJob := ⟨0, 0⟩
  autoOutBuf := false
  jobHist := 0
  omxOwes := false

/-- Where the job manager thread is in its loop. -/
inductive ThreadState where
  /-- In `cam_sem_wait`. -/
  | waiting
  /-- A token is taken. -/
  | woken
  /-- The number of ongoing jobs has been looked at. -/
  | checked
  deriving DecidableEq

/--
`mm_jpeg_obj`.  `sessionIds` are the session ids that clients were given and
have not destroyed.  `JpegClients`, `JpegCreate` and `JobIds` take other fields.
-/
structure JpegObj where
  session : SessionKey → JobSession
  sessionHandleQ : Nat → List SessionKey
  outBufQ : Nat → List Nat
  queuesMade : Nat
  jobQueue : List JobNode
  ongoingJobQ : List JobNode
  jobSem : Nat
  thread : ThreadState
  sessionIds : List SessionKey

/-- The object after `mm_jpeg_init`. -/
def JpegObj.zero : JpegObj where
  session := fun _ => JobSession.zero
  sessionHandleQ := fun _ => []
  outBufQ := fun _ => []
  queuesMade := 0
  jobQueue := []
  ongoingJobQ := []
  jobSem := 0
  thread := .waiting
  sessionIds := []

/-- What the service is compiled with. -/
structure ServiceConfig where
  /-- `MM_JPEG_CONCURRENT_SESSIONS_COUNT`. -/
  concurrentSessions : Nat
  thumbFromMain : Bool
  positive : 0 < concurrentSessions

/-- What OMX answers while one session of a chain is made. -/
structure SessionSetup where
  /-- `mm_jpeg_session_create`. -/
  created : Bool
  /-- `mm_jpeg_session_configure`. -/
  configured : Bool
  /-- `malloc` of the session's node in `session_handle_q`. -/
  node : Bool
  deriving DecidableEq

/-- The other allocations of `mm_jpeg_create_session`. -/
structure CreateMemory where
  /-- The work buffers and the two queues. -/
  queues : Bool
  /-- The output buffers without memory for their nodes in `out_buf_q`. -/
  lostOutputs : List Nat
  deriving DecidableEq

/-- The allocations of `mm_jpeg_start_job`. -/
inductive StartMemory where
  | enough
  /-- None for the job. -/
  | noJob
  /-- None for its node in `job_queue`. -/
  | noNode
  deriving DecidableEq

/-- `malloc` of the nodes in `mm_jpegenc_job_done`. -/
structure DoneMemory where
  /-- The session's, in `session_handle_q`. -/
  handle : Bool
  /-- The output buffer's, in `out_buf_q`. -/
  output : Bool
  deriving DecidableEq

/-- `malloc` of the nodes in `mm_jpeg_process_encoding_job`. -/
structure WorkMemory where
  /-- The job's, back at the head of `job_queue`. -/
  requeue : Bool
  /-- The job's, in `ongoing_job_q`. -/
  ongoing : Bool
  done : DoneMemory
  deriving DecidableEq

/-- The calls of `mm_jpeg_session_encode` that may fail, in their order. -/
inductive EncodeStep where
  | configure
  | configureJobParams
  | emptyThisBuffer
  | emptyThumbBuffer
  | fillThisBuffer
  deriving DecidableEq

/-- The events of the service. -/
inductive ServiceEvent where
  | createSession (clientIdx : Nat) (params : EncodeParams) (setups : List SessionSetup)
      (memory : CreateMemory)
  | startJob (session : SessionKey) (job : EncodeJob) (memory : StartMemory)
  /-- `mm_jpeg_abort_job`, with the sessions whose OMX refuses the command. -/
  | abortJob (jobId : JobId) (refused : List SessionKey)
  | destroySession (session : SessionKey) (refused : List SessionKey)
  /-- The thread returns from `cam_sem_wait`. -/
  | semWait
  /-- The thread compares the number of ongoing jobs with its limit. -/
  | checkOngoing
  /-- The thread's section under `job_lock`. -/
  | work (fails : Option EncodeStep) (memory : WorkMemory)
  /-- `mm_jpeg_fbd`. -/
  | fbd (session : SessionKey) (memory : DoneMemory)
  /-- `mm_jpeg_event_handler`, for an error or a completed command. -/
  | eventHandler (session : SessionKey) (isError : Bool) (memory : DoneMemory)
  deriving DecidableEq

/-- What the clients see of an event. -/
inductive ServiceOutput where
  | created (rc : Int) (sessionId : Option SessionKey)
  | accepted (jobId : JobId)
  | rejected
  | jpegCb (status : JobStatus) (jobId : JobId)
  | aborted (jobId : JobId)
  /-- A job removed because its session is destroyed. -/
  | discarded (jobId : JobId)
  deriving DecidableEq

/-- Replace the record of one session. -/
def JpegObj.setSession (obj : JpegObj) (key : SessionKey) (value : JobSession) : JpegObj :=
  { obj with
      session := fun other => if other = key then value else obj.session other }

/-- Replace one queue of free OMX sessions. -/
def JpegObj.setHandles (obj : JpegObj) (queues : Nat) (value : List SessionKey) : JpegObj :=
  { obj with
      sessionHandleQ := fun other =>
        if other = queues then value else obj.sessionHandleQ other }

/-- Replace one queue of free output buffers. -/
def JpegObj.setOutBufs (obj : JpegObj) (queues : Nat) (value : List Nat) : JpegObj :=
  { obj with
      outBufQ := fun other =>
        if other = queues then value else obj.outBufQ other }

/-- `mm_jpeg_queue_remove_job_by_job_id`: the node and the rest of the queue. -/
def removeJobByJobId (jobId : JobId) : List JobNode → Option (JobNode × List JobNode)
  | [] => none
  | node :: rest =>
    if node.jobId = jobId then
      some (node, rest)
    else
      match removeJobByJobId jobId rest with
      | none => none
      | some (found, others) => some (found, node :: others)

/-- The queue without its first job of this id, if it has one. -/
def withoutJob (jobId : JobId) (queue : List JobNode) : List JobNode :=
  match removeJobByJobId jobId queue with
  | none => queue
  | some (_, rest) => rest

/--
`mm_jpegenc_job_done`, for a session whose queues are `queues`.  It does not
look at what `mm_jpeg_queue_enq` returns.
-/
def mmJpegencJobDone (memory : DoneMemory) (queues : Nat) (key : SessionKey)
    (obj : JpegObj) : JpegObj :=
  let finished := obj.session key
  let removed := { obj.setSession key { finished with encoding := false } with
      ongoingJobQ := withoutJob finished.jobId obj.ongoingJobQ }
  let free := if memory.handle then
      removed.setHandles queues (obj.sessionHandleQ queues ++ [key])
    else
      removed
  let outputs := if finished.autoOutBuf && memory.output then
      free.setOutBufs queues (obj.outBufQ queues ++ [(finished.encodeJob.dstIndex + 1).toNat])
    else
      free
  { outputs with jobSem := obj.jobSem + 1 }

/-- The first slot of the client that is not active. -/
def mmJpegGetNewSessionIdx (clientIdx : Nat) (obj : JpegObj) : Option SessionKey :=
  ((List.range mmJpegMaxSession).map (SessionKey.mk clientIdx)).find?
    fun key => !(obj.session key).active

/-- How the loop of `mm_jpeg_create_session` ends. -/
inductive CreateEnd where
  | complete
  | stopped (rc : Int)
  deriving DecidableEq

/-- `p_prev_session->next_session = p_session`. -/
def linkSession (made : List SessionKey) (key : SessionKey) (obj : JpegObj) : JpegObj :=
  match made.getLast? with
  | none => obj
  | some previous => obj.setSession previous { obj.session previous with nextSession := some key }

/-- A slot that `mm_jpeg_create_session` has just taken. -/
def takeSlot (key : SessionKey) (obj : JpegObj) : JpegObj :=
  obj.setSession key { obj.session key with active := true, nextSession := none }

/-- What the loop stores in a session that OMX has opened. -/
def openSession (node : Bool) (params : EncodeParams) (queues : Nat) (key : SessionKey)
    (obj : JpegObj) : JpegObj :=
  let opened := obj.setSession key { obj.session key with
        abortState := .none
        autoOutBuf := false
        omxOwes := false
        params := params
        queues := some queues }
  if node then
    opened.setHandles queues (obj.sessionHandleQ queues ++ [key])
  else
    opened

/--
The loop of `mm_jpeg_create_session`, with the sessions made so far.  Where no
slot is left or OMX does not open the session, `rc` is still `0`.
-/
def createSessions (clientIdx : Nat) (params : EncodeParams) (queues : Nat) :
    List SessionSetup → List SessionKey → JpegObj → JpegObj × List SessionKey × CreateEnd
  | [], made, obj => (obj, made, .complete)
  | setup :: rest, made, obj =>
    match mmJpegGetNewSessionIdx clientIdx obj with
    | none => (obj, made, .stopped 0)
    | some key =>
      let linked := linkSession made key (takeSlot key obj)
      if setup.created then
        let opened := openSession setup.node params queues key linked
        if setup.configured then
          createSessions clientIdx params queues rest (made ++ [key]) opened
        else
          (opened, made ++ [key], .stopped (-1))
      else
        (linked.setSession key { linked.session key with active := false }, made, .stopped 0)

/-- A new pair of empty queues. -/
def newQueues (obj : JpegObj) : JpegObj :=
  { (obj.setHandles obj.queuesMade []).setOutBufs obj.queuesMade [] with
      queuesMade := obj.queuesMade + 1 }

/-- The arguments that `mm_jpeg_create_session` refuses. -/
def invalidSession (clientIdx : Nat) (params : EncodeParams) : Bool :=
  decide (mmJpegMaxBuf < params.numSrcBufs) || decide (mmJpegMaxBuf < params.numDstBufs) ||
    decide (Jpeg.maxJpegClientNum ≤ clientIdx)

/-- `mm_jpeg_create_session`. -/
def mmJpegCreateSession (clientIdx : Nat) (params : EncodeParams) (setups : List SessionSetup)
    (memory : CreateMemory) (obj : JpegObj) : JpegObj × List ServiceOutput :=
  if invalidSession clientIdx params || !memory.queues then
    (obj, [.created (-1) none])
  else
    let queues := obj.queuesMade
    match createSessions clientIdx params queues setups [] (newQueues obj) with
    | (made, sessions, .complete) =>
      let stored := (List.range params.numDstBufs).filter (· ∉ memory.lostOutputs)
      ({ made.setOutBufs queues (stored.map (· + 1)) with
          sessionIds := obj.sessionIds ++ sessions.head?.toList },
        [.created 0 sessions.head?])
    | (made, sessions, .stopped rc) =>
      ({ made with
          sessionIds :=
            if rc = 0 then
              obj.sessionIds ++ sessions.head?.toList
            else
              obj.sessionIds },
        [.created rc sessions.head?])

/-- `mm_jpeg_start_job`. -/
def mmJpegStartJob (key : SessionKey) (job : EncodeJob) (memory : StartMemory)
    (obj : JpegObj) : JpegObj × List ServiceOutput :=
  let session := obj.session key
  if !session.active || (session.params.numSrcBufs : Int) ≤ job.srcIndex ||
      (session.params.numDstBufs : Int) ≤ job.dstIndex then
    (obj, [.rejected])
  else
    let jobId := makeJobId key session.jobHist
    let counted := obj.setSession key { session with jobHist := (session.jobHist + 1) % 2 ^ 32 }
    match memory with
    | .noJob => (obj, [.rejected])
    | .noNode => (counted, [.rejected])
    | .enough =>
      ({ counted with
          jobQueue := obj.jobQueue ++ [⟨jobId, job⟩]
          jobSem := obj.jobSem + 1 },
        [.accepted jobId])

/--
The sessions from `key` on, along `next_session`.  A chain lies in the slots of
one client, which bound the walk.
-/
def chainFrom (obj : JpegObj) : Nat → SessionKey → List SessionKey
  | 0, _ => []
  | steps + 1, key =>
    key :: match (obj.session key).nextSession with
      | none => []
      | some next => chainFrom obj steps next

/-- The sessions of the chain that begins with `key`. -/
def chainOf (obj : JpegObj) (key : SessionKey) : List SessionKey :=
  chainFrom obj mmJpegMaxSession key

/--
`mm_jpeg_session_abort` along a chain.  A session that is not in the state
`MM_JPEG_ABORT_NONE` and one whose OMX refuses the command end the walk.  OMX
answers an accepted command with an event, which the call waits for.
-/
def mmJpegSessionAbort (refused : List SessionKey) : List SessionKey → JpegObj → JpegObj
  | [], obj => obj
  | key :: rest, obj =>
    let session := obj.session key
    if session.abortState ≠ .none then
      obj
    else if session.encoding && refused.contains key then
      obj.setSession key { session with abortState := .init }
    else
      mmJpegSessionAbort refused rest (obj.setSession key { session with abortState := .done })

/-- `mm_jpeg_abort_job`. -/
def mmJpegAbortJob (jobId : JobId) (refused : List SessionKey)
    (obj : JpegObj) : JpegObj × List ServiceOutput :=
  match removeJobByJobId jobId obj.jobQueue with
  | some (_, rest) => ({ obj with jobQueue := rest }, [.aborted jobId])
  | none =>
    match removeJobByJobId jobId obj.ongoingJobQ with
    | some (node, rest) =>
      -- The chain is found from the job id, so it starts at its head.
      (mmJpegSessionAbort refused (chainOf obj node.jobId.session)
        { obj with ongoingJobQ := rest }, [.aborted jobId])
    | none => (obj, [])

/-- `mm_jpeg_session_destroy` and `mm_jpeg_remove_session_idx` of a chain. -/
def removeSessions (chain : List SessionKey) (obj : JpegObj) : JpegObj :=
  { obj with
      session := fun key =>
        if key ∈ chain then
          { obj.session key with omxOwes := false, active := false }
        else
          obj.session key }

/-- The jobs of a queue that do not belong to the session. -/
def otherJobs (key : SessionKey) (queue : List JobNode) : List JobNode :=
  queue.filter fun node => node.jobId.session ≠ key

/-- The outputs for the jobs that a destroyed session takes along. -/
def discardedJobs (key : SessionKey) (queue : List JobNode) : List ServiceOutput :=
  (queue.filter fun node => node.jobId.session = key).map fun node => .discarded node.jobId

/-- `mm_jpeg_destroy_session`, for a session whose queues are `queues`. -/
def mmJpegDestroySession (queues : Nat) (key : SessionKey) (refused : List SessionKey)
    (obj : JpegObj) : JpegObj × List ServiceOutput :=
  let emptied := { obj with
      jobQueue := otherJobs key obj.jobQueue
      ongoingJobQ := otherJobs key obj.ongoingJobQ }
  let removed :=
    removeSessions (chainOf obj key) (mmJpegSessionAbort refused (chainOf obj key) emptied)
  let drained := (removed.setHandles queues []).setOutBufs queues []
  let cleared := drained.setSession key { drained.session key with queues := none }
  ({ cleared with
      jobSem := obj.jobSem + 1
      sessionIds := obj.sessionIds.erase key },
    discardedJobs key obj.jobQueue ++ discardedJobs key obj.ongoingJobQ)

/-- `mm_jpeg_queue_deq` of a queue of numbers, `0` when it is empty. -/
def deqU32 : List Nat → Nat × List Nat
  | [] => (0, [])
  | value :: rest => (value, rest)

section Encoding

variable (config : ServiceConfig)

/--
`mm_jpeg_session_encode`: the session and whether it fails.  `job_lock` keeps
aborts away, so `MM_JPEG_CHK_ABORT` finds nothing.
-/
def mmJpegSessionEncode (fails : Option EncodeStep) (session : JobSession) : JobSession × Bool :=
  let begun := { session with abortState := .none, encoding := false }
  if config.thumbFromMain && decide (session.encodeJob.srcIndex < 0) then
    (begun, true)
  else
    match fails with
    | some .configure => (begun, true)
    | some .configureJobParams => (begun, true)
    | some .emptyThisBuffer => ({ begun with encoding := true }, true)
    | some .emptyThumbBuffer => ({ begun with encoding := true }, true)
    | some .fillThisBuffer => ({ begun with encoding := true }, true)
    | none => ({ begun with encoding := true, omxOwes := true }, false)

/--
`mm_jpeg_session_encode` comes to `OMX_EmptyThisBuffer` with a negative
`src_index`, and takes the buffer from before `p_in_omx_buf`.
-/
def readsBefore (fails : Option EncodeStep) (job : EncodeJob) : Bool :=
  !config.thumbFromMain && decide (job.srcIndex < 0) &&
    fails != some .configure && fails != some .configureJobParams

/-- The rest of `mm_jpeg_process_encoding_job` once it has all it needs. -/
def encodeJobOn (fails : Option EncodeStep) (memory : WorkMemory) (queues : Nat)
    (key : SessionKey) (autoOutBuf : Bool)
    (node : JobNode)
    (obj : JpegObj) : JpegObj × List ServiceOutput :=
  if memory.ongoing then
    let assigned := { obj.session key with
        autoOutBuf := autoOutBuf
        encodeJob := node.encodeJob
        jobId := node.jobId }
    match mmJpegSessionEncode config fails assigned with
    | (session, failed) =>
      let submitted := { obj.setSession key session with
          ongoingJobQ := obj.ongoingJobQ ++ [node] }
      if failed then
        (mmJpegencJobDone memory.done queues key submitted, if session.params.jpegCb then
            [.jpegCb .error session.jobId]
          else
            [])
      else
        (submitted, [])
  else
    -- `ret` is still `OMX_ErrorNone`, and the session is that of its last job
    (mmJpegencJobDone memory.done queues key
      (obj.setSession key { obj.session key with autoOutBuf := autoOutBuf }), [])

/-- `mm_jpeg_process_encoding_job`. -/
def mmJpegProcessEncodingJob (fails : Option EncodeStep) (memory : WorkMemory) (node : JobNode)
    (obj : JpegObj) : Option (JpegObj × List ServiceOutput) :=
  match (obj.session node.jobId.session).queues with
  | none => none
  | some queues =>
    match obj.sessionHandleQ queues with
    | [] =>
      if memory.requeue then
        some ({ obj with jobQueue := node :: obj.jobQueue }, [])
      else
        some (obj, [])
    | key :: handles =>
      let taken := obj.setHandles queues handles
      if node.encodeJob.dstIndex < 0 then
        match deqU32 (obj.outBufQ queues) with
        | (0, outBufs) =>
          -- Neither the session nor the token is given back.
          some ((taken.setOutBufs queues outBufs).setSession key
            { obj.session key with autoOutBuf := false }, [])
        | (bufIdx + 1, outBufs) =>
          if memory.ongoing && readsBefore config fails node.encodeJob then
            none
          else
            some (encodeJobOn config fails memory queues key true { node with
                  encodeJob :=
                    { node.encodeJob with dstIndex := bufIdx } }
              (taken.setOutBufs queues outBufs))
      else if memory.ongoing && readsBefore config fails node.encodeJob then
        none
      else
        some (encodeJobOn config fails memory queues key false node taken)

/-- One event of the service. -/
def serviceStep (obj : JpegObj) : ServiceEvent → Option (JpegObj × List ServiceOutput)
  | .createSession clientIdx params setups memory =>
    if setups.length = (if params.burstMode then config.concurrentSessions else 1) then
      some (mmJpegCreateSession clientIdx params setups memory obj)
    else
      none
  | .startJob session job memory =>
    if session ∈ obj.sessionIds then
      some (mmJpegStartJob session job memory obj)
    else
      none
  | .abortJob jobId refused => some (mmJpegAbortJob jobId refused obj)
  | .destroySession session refused =>
    if session ∈ obj.sessionIds then
      match (obj.session session).queues with
      | none => none
      | some queues => some (mmJpegDestroySession queues session refused obj)
    else
      none
  | .semWait =>
    if obj.thread = .waiting ∧ 0 < obj.jobSem then
      some ({ obj with thread := .woken, jobSem := obj.jobSem - 1 }, [])
    else
      none
  | .checkOngoing =>
    if obj.thread = .woken then
      if config.concurrentSessions ≤ obj.ongoingJobQ.length then
        some ({ obj with thread := .waiting }, [])
      else
        some ({ obj with thread := .checked }, [])
    else
      none
  | .work fails memory =>
    if obj.thread = .checked then
      match obj.jobQueue with
      | [] => some ({ obj with thread := .waiting }, [])
      | node :: rest =>
        mmJpegProcessEncodingJob config fails memory node
          { obj with thread := .waiting, jobQueue := rest }
    else
      none
  | .fbd key memory =>
    if (obj.session key).omxOwes then
      let answered := obj.setSession key { obj.session key with omxOwes := false }
      if (obj.session key).abortState ≠ .none then
        some (answered, [])
      else if (obj.session key).params.jpegCb then
        match (obj.session key).queues with
        | none => none
        | some queues =>
          some (mmJpegencJobDone memory queues key answered,
            [.jpegCb .done (obj.session key).jobId])
      else
        some (answered, [])
    else
      none
  | .eventHandler key isError memory =>
    if (obj.session key).active then
      if (obj.session key).abortState = .init then
        some (obj.setSession key { obj.session key with
              abortState := .done
              omxOwes := (obj.session key).omxOwes && !isError }, [])
      else if isError then
        let answered := obj.setSession key { obj.session key with omxOwes := false }
        if (obj.session key).encoding then
          match (obj.session key).queues with
          | none => none
          | some queues =>
            some (mmJpegencJobDone memory queues key answered,
              if (obj.session key).params.jpegCb then
                [.jpegCb .error (obj.session key).jobId]
              else
                [])
        else
          some (answered, [])
      else
        some (obj, [])
    else
      none

end Encoding

/-- A service with one concurrent session. -/
def singleSession : ServiceConfig where
  concurrentSessions := 1
  thumbFromMain := false
  positive := by decide

/-- A session with one source and one output buffer. -/
def oneBuffer : EncodeParams where
  numSrcBufs := 1
  numDstBufs := 1
  burstMode := false
  jpegCb := true

/-- A burst session of two OMX sessions. -/
def burstSession : EncodeParams where
  numSrcBufs := 1
  numDstBufs := 2
  burstMode := true
  jpegCb := true

/-- A service with two concurrent sessions. -/
def twoSessions : ServiceConfig where
  concurrentSessions := 2
  thumbFromMain := false
  positive := Nat.two_pos

/-- A session that is made without a failure. -/
def wellMade : SessionSetup :=
  ⟨true, true, true⟩

/-- Enough memory for `mm_jpeg_create_session`. -/
def createMemory : CreateMemory :=
  ⟨true, []⟩

/-- Enough memory for `mm_jpegenc_job_done`. -/
def doneMemory : DoneMemory :=
  ⟨true, true⟩

/-- Enough memory for `mm_jpeg_process_encoding_job`. -/
def workMemory : WorkMemory :=
  ⟨true, true, doneMemory⟩

/-- One round of the job manager thread. -/
def oneRound : List ServiceEvent :=
  [.semWait, .checkOngoing, .work none workMemory]

end AnglerHal.JpegService
