import AnglerHal.FrameLedger
import AnglerHal.JpegEvents
import AnglerHal.PostProcessor

namespace AnglerHal.Hal1PostProc

open PostProc (CallerPc CameraQueue Cmd SendMemory)

/-!
# `QCameraPostProcessor`

Callbacks of the channels put frames into the input queues and send
`DO_NEXT_JOB`; the data process thread takes at most one entry of each input
queue for a command.  A frame that needs reprocessing goes through
`m_inputPPQ`, `m_ongoingPPQ` and, when the reprocess channel returns its
result, either back to `m_inputPPQ` for the next pass or on to `m_inputJpegQ`.

A call that queues a frame and the command it owes for it are two steps, and so
are a job's entry into `m_ongoingPPQ` and its submission.  What a call reads
from the parameters, and how the calls out of it end, comes with the event, and
so do the outcomes of `malloc`: `enqueue` returns false without memory for its
node, and a command that gets no memory is lost.
-/

/-- Where the data process thread is. -/
inductive ThreadPc where
  /-- Waiting for a command. -/
  | idle
  /-- `DO_NEXT_JOB` while active, before the JPEG job. -/
  | jpegJobs
  /-- Before the raw frame. -/
  | rawJobs
  /-- Before `doReprocess`. -/
  | ppJobs
  /-- `doReprocess` has queued the job, and extra ones for its other results. -/
  | submitting (job : PpJob) (extra : List PpJob)
  deriving DecidableEq

/-- The post-processor, its thread, and what is with the other components. -/
structure PostProcessor where
  m_inputPPQ : CameraQueue PpRequest
  m_ongoingPPQ : CameraQueue PpJob
  m_inputJpegQ : CameraQueue JpegJob
  m_ongoingJpegQ : CameraQueue JpegJob
  m_inputRawQ : CameraQueue SuperBuf
  m_inputSaveQ : List Nat
  m_InputMetadata : List Nat
  m_PPindex : Nat
  m_bufCountPPQ : Nat
  cmdQueue : List Cmd
  is_active : Bool
  thread : ThreadPc
  /-- Where the caller of `start` and `stop` is, which waits for the thread. -/
  caller : CallerPc
  /-- The `DO_NEXT_JOB` commands that calls in progress have yet to send. -/
  owed : Nat
  /-- The jobs that the reprocess channels work on, in submission order. -/
  reprocessing : List PpJob
  /-- The JPEG jobs that the encoder works on. -/
  encoding : List Nat
  /-- The frames that the notifier gives back after its callback. -/
  notifying : List SuperBuf
  nextJob : Nat
  nextJpeg : Nat
  ledger : Ledger

namespace PostProcessor

/-- The post-processor as its constructor and `init` leave it. -/
def new : PostProcessor where
  m_inputPPQ := .new
  m_ongoingPPQ := .new
  m_inputJpegQ := .new
  m_ongoingJpegQ := .new
  m_inputRawQ := .new
  m_inputSaveQ := []
  m_InputMetadata := []
  m_PPindex := 0
  m_bufCountPPQ := 0
  cmdQueue := []
  is_active := false
  thread := .idle
  caller := .idle
  owed := 0
  reprocessing := []
  encoding := []
  notifying := []
  nextJob := 0
  nextJpeg := 0
  ledger := .empty

/-- The callback of a channel hands a superbuf struct over. -/
def hand (post : PostProcessor) : PostProcessor :=
  { post with
    ledger := { post.ledger with handed := post.ledger.handed + 1 } }

/-- Change the ledger. -/
def record (change : Ledger → Ledger) (post : PostProcessor) : PostProcessor :=
  { post with ledger := change post.ledger }

/-- A `sendCmd` of `DO_NEXT_JOB` is still to come. -/
def owe (count : Nat) (post : PostProcessor) : PostProcessor :=
  { post with owed := post.owed + count }

/-- The end of a call, which sends a command if `triggerEvent` says so. -/
def trigger (triggerEvent : Bool) (post : PostProcessor) : PostProcessor :=
  if triggerEvent = true then
    post.owe 1
  else
    post

/--
`validatePostProcess`.  `queuedBufs` are the numbers of `getNumQueuedBuf` for
the streams of the reprocess channel whose source is the channel of the frame;
no reprocess channel has a source that `getChannelByHandle` does not know.
-/
def validatePostProcess (queuedBufs : List Int) (frame : SuperBuf) (post : PostProcessor) : Bool :=
  frame.reprocessed || !(queuedBufs.any fun queued =>
      decide (0 < post.m_inputPPQ.items.length) && decide (queued ≤ post.m_ongoingPPQ.items.length))

/-! ## Calls of the channels -/

/-- `processRawData`. -/
def processRawData (node : Bool) (frame : SuperBuf) (post : PostProcessor) : PostProcessor :=
  if post.m_inputRawQ.accepts node = true then
    { post with m_inputRawQ := post.m_inputRawQ.enqueue frame }.owe 1
  else
    post.record (·.releaseFrame frame)

end PostProcessor

/-- What `processData` reads and how its allocations end. -/
structure DataCall where
  num_bufs : Nat
  hasMetadata : Bool
  needReprocess : Bool
  /-- `isNV16PictureFormat` or `isNV21PictureFormat`. -/
  rawFormat : Bool
  isAdvCamFeaturesEnabled : Bool
  mallocOk : Bool
  /-- The node of the queue is allocated. -/
  node : Bool
  queuedBufs : List Int
  deriving DecidableEq

/-- The metadata that `processData` remembers for the advanced features. -/
def DataCall.inputMetadata (call : DataCall) (frame : SuperBuf) : List Nat :=
  if call.isAdvCamFeaturesEnabled && frame.hasMetadata then
    [frame.id]
  else
    []

namespace PostProcessor

/-- `processData`, where the frame needs reprocessing. -/
def enqueuePp (call : DataCall) (frame : SuperBuf) (post : PostProcessor) : PostProcessor :=
  if post.m_inputPPQ.accepts call.node = true then
    let queued := { post with
        m_inputPPQ := post.m_inputPPQ.enqueue ⟨0, frame, some frame⟩
        m_InputMetadata :=
          post.m_InputMetadata ++ call.inputMetadata frame }
    queued.trigger (queued.validatePostProcess call.queuedBufs frame)
  else
    post.record (·.releaseFrame frame)

/-- A JPEG job goes into its input queue, or is released. -/
def enqueueJpeg (node : Bool) (job : JpegJob) (post : PostProcessor) : PostProcessor :=
  if post.m_inputJpegQ.accepts node = true then
    { post with
      m_inputJpegQ := post.m_inputJpegQ.enqueue job
      nextJpeg := post.nextJpeg + 1 }.owe 1
  else
    post.record (·.releaseJpegJobData job)

/-- The JPEG job for a frame that needs no reprocessing. -/
def jpegJobOfFrame (frame : SuperBuf) (post : PostProcessor) : JpegJob where
  job := post.nextJpeg
  src_frame := frame
  src_reproc_frame := none
  metadata := if frame.hasMetadata then some frame.id else none
  reproc_frame_release := false
  src_reproc_bufs := none

/-- `processData`. -/
def processData (call : DataCall) (post : PostProcessor) : PostProcessor :=
  let frame : SuperBuf := ⟨post.ledger.handed, false, call.num_bufs, call.hasMetadata⟩
  let post := post.hand
  if call.needReprocess = true then
    if call.mallocOk = true then post.enqueuePp call frame else post
  else if call.rawFormat = true then
    (post.processRawData call.node frame).owe 1
  else
    if call.mallocOk = true then
      post.enqueueJpeg call.node (post.jpegJobOfFrame frame)
    else
      post

end PostProcessor

/-- What `processPPData` reads and how its allocations end. -/
structure PpDataCall where
  /-- The pass of the reprocess channel that returns the frame. -/
  pass : Nat
  num_bufs : Nat
  hasMetadata : Bool
  /-- `generateThumbFromMain`. -/
  needSuperBufMatch : Bool
  rawFormat : Bool
  isLongshotEnabled : Bool
  /-- `getExifBufIndex(m_PPindex)`, if the advanced features are enabled. -/
  exifBufIndex : Option Nat
  mallocOk : Bool
  /-- The node of the queue is allocated. -/
  node : Bool
  queuedBufs : List Int
  deriving DecidableEq

/-- What `processPPData` does with the result of a submission. -/
inductive PpOutput where
  /-- It takes a job out of `m_ongoingPPQ`. -/
  | taken (submitted : PpJob) (job : Option PpJob)
  /-- It makes a JPEG job for the result. -/
  | toJpeg (submitted : PpJob) (result : SuperBuf) (job : JpegJob)
  deriving DecidableEq

namespace PostProcessor

/-- The metadata of a JPEG job: of the source frame, or else of the result. -/
def metadataOf (call : PpDataCall) (job : PpJob) (result : SuperBuf)
    (post : PostProcessor) : Option Nat :=
  match call.exifBufIndex with
  | some index => post.m_InputMetadata[index]?
  | none =>
    match job.src_reproc_frame.filter SuperBuf.hasMetadata with
    | some source => some source.id
    | none => if result.hasMetadata then some result.id else none

/-- The JPEG job for the result of the last pass. -/
def jpegJobOf (call : PpDataCall) (job : PpJob) (result : SuperBuf)
    (post : PostProcessor) : JpegJob where
  job := post.nextJpeg
  src_frame := result
  src_reproc_frame := job.src_reproc_frame
  metadata := post.metadataOf call job result
  reproc_frame_release := job.reproc_frame_release
  src_reproc_bufs := job.src_reproc_bufs

/-- The input of a second pass is released with its result. -/
def releaseInput (job : PpJob) (post : PostProcessor) : PostProcessor :=
  match job.src_frame with
  | some frame =>
    if 1 < job.reprocCount then
      post.record (·.releaseFrame frame)
    else
      post
  | none => post

/-- The result goes back to `m_inputPPQ` for another pass. -/
def nextPass (call : PpDataCall) (job : PpJob) (result : SuperBuf)
    (post : PostProcessor) : PostProcessor :=
  let request : PpRequest := ⟨job.reprocCount, result, job.src_reproc_frame⟩
  if post.m_inputPPQ.accepts call.node = true then
    let queued := { post with m_inputPPQ := post.m_inputPPQ.enqueue request }
    queued.trigger (queued.validatePostProcess call.queuedBufs result)
  else
    post.record (·.releasePPInputData request)

/-- The result goes on to the encoder. -/
def lastPass (call : PpDataCall) (job : PpJob) (result : SuperBuf)
    (post : PostProcessor) : PostProcessor :=
  let jpeg := post.jpegJobOf call job result
  let indexed := { post with
      m_PPindex := post.m_PPindex + call.exifBufIndex.toList.length }
  if post.m_inputJpegQ.accepts call.node = true then
    let queued := { indexed with
        m_inputJpegQ := indexed.m_inputJpegQ.enqueue jpeg
        nextJpeg := indexed.nextJpeg + 1 }
    queued.trigger (!call.isLongshotEnabled || queued.validatePostProcess call.queuedBufs result)
  else
    indexed.record (·.releaseJpegJobData jpeg)

/-- `processPPData`, once it has a job. -/
def processPPJob (passes : Nat) (call : PpDataCall) (submitted job : PpJob) (result : SuperBuf)
    (post : PostProcessor) : PostProcessor × List PpOutput :=
  if call.needSuperBufMatch = false ∧ (job.src_frame = none ∨ job.src_reproc_frame = none) then
    (post, [])
  else if call.needSuperBufMatch = false ∧ call.rawFormat = true then
    ((post.record (·.releaseOngoingPPData job)).processRawData call.node result, [])
  else if job.reprocCount < passes then
    if call.mallocOk = true then
      ((post.releaseInput job).nextPass call job result, [])
    else
      (post.releaseInput job, [])
  else if call.mallocOk = true then
    ((post.releaseInput job).lastPass call job result, [.toJpeg submitted result
        ((post.releaseInput job).jpegJobOf call job result)])
  else
    (post.releaseInput job, [])

/--
`processPPData`.  A channel returns the results of its submissions in order;
the result does not say which job it is of, and the oldest one is taken.
-/
def processPPData (passes : Nat) (call : PpDataCall)
    (post : PostProcessor) : Option (PostProcessor × List PpOutput) :=
  match post.reprocessing.find? fun job => job.reprocCount == call.pass with
  | none => none
  | some submitted =>
    let result : SuperBuf := ⟨post.ledger.handed, true, call.num_bufs, call.hasMetadata⟩
    let answered := { post.hand with
        reprocessing :=
          post.reprocessing.eraseP fun job => job.reprocCount == call.pass
        m_ongoingPPQ := post.m_ongoingPPQ.dequeue.2 }
    match post.m_ongoingPPQ.dequeue.1 with
    | none => some (answered, [.taken submitted none])
    | some job =>
      let (next, outputs) := answered.processPPJob passes call submitted job result
      some (next, .taken submitted (some job) :: outputs)

/-! ## Events of the encoder and of the notifier -/

/-- Release the job of an event, if `flushNodes` finds it. -/
def releaseJpeg (job : Nat) (found : Bool) (post : PostProcessor) : PostProcessor :=
  if found = true then
    let (removed, queue) := post.m_ongoingJpegQ.flushNodes fun entry => entry.job == job
    { post with
      m_ongoingJpegQ := queue
      ledger := post.ledger.releaseAll Ledger.releaseJpegJobData removed }
  else
    post

/-- `processJpegEvt`. -/
def processJpegEvt (job : Nat) (found : Bool) (path : JpegEvtPath)
    (post : PostProcessor) : Option PostProcessor :=
  if job ∈ post.encoding then
    let reported := { post with encoding := post.encoding.erase job }
    match path with
    | .release =>
      let released := reported.releaseJpeg job found
      if released.m_inputPPQ.items = [] then
        some (released.owe 1)
      else
        some (released.owe 2)
    | .save =>
      some ({ reported with
            m_inputSaveQ := reported.m_inputSaveQ ++ [job] }.owe 1)
    | .saveRefused => some reported
  else
    none

/-- The save thread takes the next event. -/
def dataSave (found : Bool) (post : PostProcessor) : Option PostProcessor :=
  match post.m_inputSaveQ with
  | [] => none
  | job :: rest => some ({ post with m_inputSaveQ := rest }.releaseJpeg job found)

/-- `releaseNotifyData`, after the callback or when the notifier is flushed. -/
def releaseNotifyData (post : PostProcessor) : Option PostProcessor :=
  match post.notifying with
  | [] => none
  | frame :: rest => some ({ post with notifying := rest }.record (·.releaseFrame frame))

/-! ## The data process thread -/

/-- `CAMERA_CMD_TYPE_START_DATA_PROC`. -/
def startDataProc (post : PostProcessor) : PostProcessor :=
  { post with
    is_active := true
    caller := .idle
    m_ongoingPPQ := post.m_ongoingPPQ.init
    m_inputJpegQ := post.m_inputJpegQ.init
    m_inputPPQ := post.m_inputPPQ.init
    m_inputRawQ := post.m_inputRawQ.init }

/-- The frames in the queues that `STOP_DATA_PROC` empties. -/
def releaseQueues (post : PostProcessor) : Ledger :=
  ((((post.ledger.releaseAll Ledger.releaseJpegJobData post.m_ongoingJpegQ.items).releaseAll
          Ledger.releaseOngoingPPData post.m_ongoingPPQ.items).releaseAll
        Ledger.releaseJpegJobData post.m_inputJpegQ.items).releaseAll
      Ledger.releasePPInputData post.m_inputPPQ.items).releaseAll
    Ledger.releaseFrame post.m_inputRawQ.items

/--
`CAMERA_CMD_TYPE_STOP_DATA_PROC`: jobs of the encoder are aborted; the save
thread empties its queue if it is told to.
-/
def stopDataProc (saveStopped : Bool) (post : PostProcessor) : PostProcessor :=
  { post with
    is_active := false
    caller := .stopped
    m_inputSaveQ := if saveStopped = true then [] else post.m_inputSaveQ
    m_ongoingJpegQ :=
      (post.m_ongoingJpegQ.flushNodes fun _ => true).2
    encoding := []
    m_ongoingPPQ := post.m_ongoingPPQ.flush.2
    m_inputJpegQ := post.m_inputJpegQ.flush.2
    m_inputPPQ := post.m_inputPPQ.flush.2
    m_inputRawQ := post.m_inputRawQ.flush.2
    ledger := post.releaseQueues }

/-- `CAMERA_CMD_TYPE_DO_NEXT_JOB` while not active. -/
def dropJobs (post : PostProcessor) : PostProcessor :=
  { post with
    m_inputJpegQ := post.m_inputJpegQ.dequeue.2
    m_inputRawQ := post.m_inputRawQ.dequeue.2
    m_inputPPQ := post.m_inputPPQ.flush.2
    ledger :=
      ((post.ledger.releaseAll Ledger.releaseJpegJobData
            post.m_inputJpegQ.dequeue.1.toList).releaseAll
          Ledger.releaseFrame post.m_inputRawQ.dequeue.1.toList).releaseAll
        Ledger.releasePPInputData post.m_inputPPQ.items }

/--
The thread takes its next command; `saveStop` is how the command for the save
thread fares, for which it waits.
-/
def getCmd (saveStop : SendMemory) (post : PostProcessor) : Option PostProcessor :=
  match post.thread, post.cmdQueue with
  | .idle, .startDataProc :: rest => some { post with cmdQueue := rest }.startDataProc
  | .idle, .stopDataProc :: rest =>
    match saveStop with
    | .sent => some ({ post with cmdQueue := rest }.stopDataProc true)
    | .noCommand => some ({ post with cmdQueue := rest }.stopDataProc false)
    -- the wait never ends
    | .noNode => none
  | .idle, .doNextJob :: rest =>
    if post.is_active = true then
      some { post with cmdQueue := rest, thread := .jpegJobs }
    else
      some { post with cmdQueue := rest }.dropJobs
  | _, _ => none

/--
The JPEG job of a command: it is queued and encoded, or released if one of
these fails.
-/
def encodeJob (encodeOk : Bool) (job : JpegJob) (post : PostProcessor) : PostProcessor :=
  if post.m_ongoingJpegQ.m_active = true ∧ encodeOk = true then
    { post with
      m_ongoingJpegQ := post.m_ongoingJpegQ.enqueue job
      encoding := post.encoding ++ [job.job] }
  else
    post.record (·.releaseJpegJobData job)

/-- The JPEG part of `DO_NEXT_JOB`. -/
def doJpegJob (encodeOk : Bool) (post : PostProcessor) : Option PostProcessor :=
  match post.thread with
  | .jpegJobs =>
    let taken := { post with
        m_inputJpegQ := post.m_inputJpegQ.dequeue.2
        thread := .rawJobs }
    match post.m_inputJpegQ.dequeue.1 with
    | none => some taken
    | some job => some (taken.encodeJob encodeOk job)
  | _ => none

end PostProcessor

/-- How `processRawImageImpl` ends. -/
inductive RawOutcome where
  /-- It fails before it has anything to send. -/
  | failed
  /-- A raw snapshot is pending inside the HAL, which is told so. -/
  | intRawEvt
  /-- Nobody listens to `CAMERA_MSG_COMPRESSED_IMAGE`. -/
  | notEnabled
  /-- `sendDataNotify` finds no memory. -/
  | noNotifyMemory
  /-- The notifier refuses the callback, and `sendDataNotify` releases its data. -/
  | notifyRefused
  | notified
  deriving DecidableEq

namespace PostProcessor

/-- What `processRawImageImpl` does with the frame, and whether it fails. -/
def processRawImageImpl (outcome : RawOutcome) (zslChannelUsed : Bool) (frame : SuperBuf)
    (post : PostProcessor) : PostProcessor × Bool :=
  match outcome with
  | .failed | .noNotifyMemory => (post, false)
  | .intRawEvt | .notEnabled => (post, true)
  | .notifyRefused =>
    if zslChannelUsed = true then
      (post.record (·.releaseFrame frame), false)
    else
      (post, false)
  | .notified =>
    if zslChannelUsed = true then
      ({ post with notifying := post.notifying ++ [frame] }, true)
    else
      (post, true)

/-- The raw part of `DO_NEXT_JOB`: a frame that fails is released. -/
def doRawJob (outcome : RawOutcome) (zslChannelUsed : Bool)
    (post : PostProcessor) : Option PostProcessor :=
  match post.thread with
  | .rawJobs =>
    let taken := { post with
        m_inputRawQ := post.m_inputRawQ.dequeue.2
        thread := .ppJobs }
    match post.m_inputRawQ.dequeue.1 with
    | none => some taken
    | some frame =>
      match taken.processRawImageImpl outcome zslChannelUsed frame with
      | (next, true) => some next
      | (next, false) => some (next.record (·.releaseFrame frame))
  | _ => none

end PostProcessor

/-- What `doReprocess` reads and how its allocations end. -/
structure ReprocessCall where
  queuedBufs : List Int
  mallocOk : Bool
  /-- `mPPChannels[mCurReprocCount] != NULL`. -/
  hasChannel : Bool
  isRegularCapture : Bool
  /-- The array for the copies of the buffers is allocated. -/
  newOk : Bool
  /-- The node of the job is allocated. -/
  node : Bool
  /-- `getNumberInBufsForSingleShot`. -/
  inBufs : Nat
  /-- `getNumberOutBufsForSingleShot`. -/
  outBufs : Nat
  /-- The number of extra jobs before `calloc` fails. -/
  callocs : Nat
  /-- The number of extra jobs before the node of one is not allocated. -/
  extraNodes : Nat
  deriving DecidableEq

namespace PostProcessor

/-- The job for a request, with its cached buffers in a regular capture. -/
def ppJobOf (call : ReprocessCall) (request : PpRequest) (source : SuperBuf)
    (post : PostProcessor) : PpJob where
  job := post.nextJob
  reprocCount := request.reprocCount + 1
  src_frame := some request.src_frame
  src_reproc_frame := some source
  reproc_frame_release := call.isRegularCapture
  src_reproc_bufs :=
    if call.isRegularCapture ∧ 0 < request.src_frame.num_bufs then
      some post.ledger.allocated
    else
      none

/-- The ledger once the job is made. -/
def ppJobLedger (call : ReprocessCall) (request : PpRequest) (source : SuperBuf)
    (ledger : Ledger) : Ledger :=
  if call.isRegularCapture = true then
    { ledger with
      allocated :=
        if 0 < request.src_frame.num_bufs then
          ledger.allocated + 1
        else
          ledger.allocated
      kept := ledger.kept ++ [request.src_frame.id, source.id] }
  else
    ledger

/-- The jobs without frames for results that have no input of their own. -/
def extraJobs (call : ReprocessCall) (count : Nat) (job : PpJob) : List PpJob :=
  if call.isRegularCapture = false ∧ count % call.inBufs = 0 then
    (List.range (min (call.outBufs - call.inBufs) call.callocs)).map fun i =>
      ⟨job.job + 1 + i, job.reprocCount, none, none, false, none⟩
  else
    []

/-- Put jobs into `m_ongoingPPQ` one after the other. -/
def enqueueOngoing (jobs : List PpJob) (queue : CameraQueue PpJob) : CameraQueue PpJob :=
  jobs.foldl (fun queue job => queue.enqueue job) queue

/--
`doReprocess` from the job on: it is queued, or released.  An extra job that is
not queued ends the call with the others in the queue.
-/
def queueJob (call : ReprocessCall) (request : PpRequest) (source : SuperBuf)
    (post : PostProcessor) : PostProcessor :=
  let job := post.ppJobOf call request source
  let extra := extraJobs call (post.m_bufCountPPQ + 1) job
  let made := { post with
      m_bufCountPPQ := post.m_bufCountPPQ + 1
      nextJob := post.nextJob + 1 + extra.length
      ledger := ppJobLedger call request source post.ledger }
  if post.m_ongoingPPQ.accepts call.node = true then
    if extra.length ≤ call.extraNodes then
      { made with
        m_ongoingPPQ := enqueueOngoing (job :: extra) made.m_ongoingPPQ
        thread := .submitting job extra }
    else
      { made with
        m_ongoingPPQ := enqueueOngoing (job :: extra.take call.extraNodes) made.m_ongoingPPQ
        thread := .idle }
  else
    { made.record (·.releaseOngoingPPData job) with thread := .idle }

/-- `doReprocess`, up to the submission. -/
def doReprocess (call : ReprocessCall) (post : PostProcessor) : Option PostProcessor :=
  match post.thread with
  | .ppJobs =>
    let idle := { post with thread := .idle }
    match post.m_inputPPQ.items.head? with
    | none => some idle
    | some request =>
      if post.validatePostProcess call.queuedBufs request.src_frame = true then
        let taken := { idle with m_inputPPQ := post.m_inputPPQ.dequeue.2 }
        match request.src_reproc_frame with
        | none => some taken
        | some source =>
          if call.mallocOk = false then
            some taken
          else if call.hasChannel = false then
            some (taken.record (·.releasePPInputData request))
          else if call.isRegularCapture = true ∧
              0 < request.src_frame.num_bufs ∧ call.newOk = false then
            some taken
          else
            some (taken.queueJob call request source)
      else
        some idle
  | _ => none

/-- `doReprocess` or `doReprocessOffline` of the channel takes the job, or fails. -/
def submit (accepted : Bool) (post : PostProcessor) : Option PostProcessor :=
  match post.thread with
  | .submitting job extra =>
    if accepted = true then
      some { post with
          reprocessing := post.reprocessing ++ job :: extra
          thread := .idle }
    else
      some { post with thread := .idle }
  | _ => none

/-! ## `start` and `stop` -/

/--
`start`: new reprocess channels, and the command for the thread.  The caller
waits for the thread unless `sendCmd` returns `NO_MEMORY`.
-/
def start (needReprocess : Bool) (memory : SendMemory)
    (post : PostProcessor) : Option PostProcessor :=
  match post.caller with
  | .idle =>
    let started := { post with
        m_PPindex := 0
        m_InputMetadata := []
        cmdQueue := memory.push .startDataProc post.cmdQueue
        caller := if memory = .noCommand then .idle else .starting }
    if needReprocess = true then
      some { started with
          reprocessing := []
          m_bufCountPPQ := 0 }
    else
      some started
  | _ => none

/-- The first part of `stop`: the command goes before the others. -/
def stop (memory : SendMemory) (post : PostProcessor) : Option PostProcessor :=
  match post.caller with
  | .idle =>
    some { post with
        cmdQueue :=
          if memory = .sent then .stopDataProc :: post.cmdQueue
          else post.cmdQueue
        caller := if memory = .noCommand then .stopped else .stopping }
  | _ => none

/-- The rest of `stop`, once the thread has obeyed: the channels are deleted. -/
def stopReturn (post : PostProcessor) : Option PostProcessor :=
  match post.caller with
  | .stopped =>
    some { post with
        reprocessing := []
        m_PPindex := 0
        m_InputMetadata := []
        caller := .idle }
  | _ => none

/-- A command that is owed is sent. -/
def sendCmd (memory : SendMemory) (post : PostProcessor) : Option PostProcessor :=
  match post.owed with
  | 0 => none
  | count + 1 =>
    some { post with
        owed := count
        cmdQueue := memory.push .doNextJob post.cmdQueue }

end PostProcessor

/-- The steps of all threads. -/
inductive PpEvent where
  | processData (call : DataCall)
  | processRawData (num_bufs : Nat) (hasMetadata node : Bool)
  | processPPData (call : PpDataCall)
  | processJpegEvt (job : Nat) (found : Bool) (path : JpegEvtPath)
  | dataSave (found : Bool)
  | releaseNotifyData
  | sendCmd (memory : SendMemory)
  | getCmd (saveStop : SendMemory)
  | doJpegJob (encodeOk : Bool)
  | doRawJob (outcome : RawOutcome) (zslChannelUsed : Bool)
  | doReprocess (call : ReprocessCall)
  | submit (accepted : Bool)
  | start (needReprocess : Bool) (memory : SendMemory)
  | stop (memory : SendMemory)
  | stopReturn
  deriving DecidableEq

/-- A step without a result of a reprocess channel. -/
def silent (next : Option PostProcessor) : Option (PostProcessor × List PpOutput) :=
  next.map fun post => (post, [])

/-- One step; `none` if the thread or the component is not at that point. -/
def ppStep (passes : Nat) (post : PostProcessor) : PpEvent → Option (PostProcessor × List PpOutput)
  | .processData call => some (post.processData call, [])
  | .processRawData num_bufs hasMetadata node =>
    some (post.hand.processRawData node ⟨post.ledger.handed, false, num_bufs, hasMetadata⟩, [])
  | .processPPData call => post.processPPData passes call
  | .processJpegEvt job found path => silent (post.processJpegEvt job found path)
  | .dataSave found => silent (post.dataSave found)
  | .releaseNotifyData => silent post.releaseNotifyData
  | .sendCmd memory => silent (post.sendCmd memory)
  | .getCmd saveStop => silent (post.getCmd saveStop)
  | .doJpegJob encodeOk => silent (post.doJpegJob encodeOk)
  | .doRawJob outcome zslChannelUsed => silent (post.doRawJob outcome zslChannelUsed)
  | .doReprocess call => silent (post.doReprocess call)
  | .submit accepted => silent (post.submit accepted)
  | .start needReprocess memory => silent (post.start needReprocess memory)
  | .stop memory => silent (post.stop memory)
  | .stopReturn => silent post.stopReturn

end AnglerHal.Hal1PostProc
