import AnglerHal.CameraQueue
import AnglerHal.LabelledRun

namespace AnglerHal.PostProc

/-!
# `QCamera3PostProcessor`

The data-process thread reads commands from its queue and moves jobs between
the queues of the postprocessor.  The stream, metadata, reprocess and JPEG
callbacks fill these queues and post `DO_NEXT_JOB` commands.  What a call does
under `mReprocJobLock`, and what it does to one queue, is one step; the command
that a call posts after it has changed a queue is a step of its own, counted in
`owed` until it is made.

A step comes with the outcomes of its calls of `malloc`.  Nobody looks at the
result of `enqueue` or `sendCmd`, so what gets no memory is lost silently.

Frames, metadata buffers, JPEG settings and framework inputs carry the number
of the request they belong to.
-/

/-- `mm_camera_super_buf_t`: a frame of the stream or of the reprocess channel. -/
inductive SuperBuf where
  | live (request : Nat)
  | reprocessed (request : Nat)
  deriving DecidableEq

/-- `qcamera_hal3_pp_buffer_t`. -/
structure PpBuffer where
  input : Nat
  output : Option Nat
  frameNumber : UInt32
  deriving DecidableEq

/-- `qcamera_fwk_input_pp_data_t`. -/
structure FwkFrame where
  request : Nat
  /-- `reproc_config.reprocess_type != REPROCESS_TYPE_NONE`. -/
  needsReprocess : Bool
  frameNumber : UInt32
  deriving DecidableEq

/-- `jpeg_settings_t`. -/
structure JpegSettings where
  request : Nat
  outBufIndex : Nat
  deriving DecidableEq

/-- `qcamera_hal3_pp_data_t`, with the address of the object. -/
structure PpJob where
  address : Nat
  srcFrame : Option Nat
  srcMetadata : Option Nat
  fwkSrcFrame : Option FwkFrame
  jpegSettings : Option JpegSettings
  deriving DecidableEq

/-- `qcamera_hal3_jpeg_data_t`. -/
structure JpegJob where
  srcFrame : Option SuperBuf
  srcReprocFrame : Option Nat
  fwkFrame : Option FwkFrame
  fwkSrcBuffer : Option FwkFrame
  /-- The request whose metadata `metadata` points to. -/
  metadata : Option Nat
  srcMetadata : Option Nat
  jpegSettings : Option JpegSettings
  deriving DecidableEq

/-- The commands of the data-process thread. -/
inductive Cmd where
  | startDataProc
  | stopDataProc
  | doNextJob
  deriving DecidableEq

/-- Where the data-process thread is. -/
inductive ThreadPc where
  /-- Waiting for a command. -/
  | idle
  /-- `DO_NEXT_JOB` while active, before the JPEG jobs. -/
  | jpegJobs
  /-- A JPEG job has left the input queue. -/
  | jpegTaken (job : JpegJob)
  /-- `encodeData` has failed for the job in `m_ongoingJpegQ`. -/
  | jpegFailed (job : JpegJob)
  /-- Before the framework jobs. -/
  | fwkJobs
  /-- Before the live jobs. -/
  | ppJobs
  /-- The parts of a live job have left their queues. -/
  | ppTaken (buffer : PpBuffer) (metaBuffer : Nat) (settings : Option JpegSettings)
  deriving DecidableEq

/-- Where the caller of `start` and `stop` is. -/
inductive CallerPc where
  | idle
  | starting
  | stopping
  /-- `STOP_DATA_PROC` is done; the reprocess channel is still there. -/
  | stopped
  deriving DecidableEq

/-- How `QCameraCmdThread::sendCmd` gets on with memory. -/
inductive SendMemory where
  | sent
  /-- No `camera_cmd_t`: nothing is queued, and a caller does not wait. -/
  | noCommand
  /-- No node for the queue: the thread is woken and finds no command. -/
  | noNode
  deriving DecidableEq

/-- The commands after `sendCmd` without priority. -/
def SendMemory.push (memory : SendMemory) (cmd : Cmd) (commands : List Cmd) : List Cmd :=
  match memory with
  | .sent => commands ++ [cmd]
  | .noCommand | .noNode => commands

/-- What `malloc` does for one call. -/
structure CallMemory where
  /-- The object that the call makes. -/
  object : Bool
  /-- The node that the object is queued with. -/
  node : Bool
  command : SendMemory
  deriving DecidableEq

/-- The postprocessor, its thread and its reprocess channel. -/
structure PostProcessor where
  m_inputPPQ : CameraQueue PpBuffer
  m_inputFWKPPQ : CameraQueue FwkFrame
  m_ongoingPPQ : CameraQueue PpJob
  m_inputJpegQ : CameraQueue JpegJob
  m_ongoingJpegQ : CameraQueue JpegJob
  m_inputMetaQ : CameraQueue Nat
  m_jpegSettingsQ : CameraQueue JpegSettings
  /-- `m_pReprocChannel != NULL`. -/
  m_pReprocChannel : Bool
  cmdQueue : List Cmd
  is_active : Bool
  thread : ThreadPc
  caller : CallerPc
  /-- The `DO_NEXT_JOB` commands that calls in progress have yet to post. -/
  owed : Nat
  /-- `processData` has returned with `mReprocJobLock` held. -/
  lockLeaked : Bool
  /-- The jobs that the reprocess channel works on, in submission order. -/
  reprocessing : List PpJob
  /-- The address of the next job object. -/
  nextJob : Nat

/-- The postprocessor as its constructor and `init` leave it. -/
def PostProcessor.new : PostProcessor where
  m_inputPPQ := .new
  m_inputFWKPPQ := .new
  m_ongoingPPQ := .new
  m_inputJpegQ := .new
  m_ongoingJpegQ := .new
  m_inputMetaQ := .new
  m_jpegSettingsQ := .new
  m_pReprocChannel := false
  cmdQueue := []
  is_active := false
  thread := .idle
  caller := .idle
  owed := 0
  lockLeaked := false
  reprocessing := []
  nextJob := 0

/-- What the postprocessor does outside of its queues. -/
inductive PpOutput where
  /-- `doReprocessOffline` has taken the job. -/
  | submitted (job : PpJob)
  | submitFailed (job : PpJob)
  /-- `free` of a job object. -/
  | freed (address : Nat)
  /-- `releaseSuperBuf`. -/
  | superBufDone (frame : Nat)
  | metadataBufDone (metaBuffer : Nat)
  /-- The input and metadata buffers of an input-buffer request go back. -/
  | offlineReleased (request : Nat)
  /-- The encoder has been started. -/
  | encode (job : JpegJob)
  deriving DecidableEq

/-- How the calls out of the data-process thread end. -/
structure JobOutcome where
  encodeOk : Bool
  overrideOk : Bool
  submitOk : Bool
  /-- There is memory for the `qcamera_hal3_pp_data_t`. -/
  jobMemory : Bool
  /-- There is memory for the node in the queue of the ongoing jobs. -/
  ongoingMemory : Bool
  /-- The memory of `processPPData`, and of the command that is posted. -/
  memory : CallMemory
  /-- How many of the commands of `STOP_DATA_PROC` get their memory. -/
  stopCommands : Nat
  deriving DecidableEq

/-- How `start` gets along with the reprocess channel. -/
inductive StartOutcome where
  /-- `REPROCESS_TYPE_NONE`. -/
  | noReprocess
  | channelStarted
  | channelFailed
  deriving DecidableEq

/-- What a frame of the reprocess channel is for. -/
inductive ReprocessKind where
  | jpeg
  | yuv
  deriving DecidableEq

/-! ## Releasing jobs -/

/-- The metadata buffer that `releaseJpegJobData` returns. -/
def releaseJpegJobData (job : JpegJob) : List PpOutput :=
  match job.fwkSrcBuffer, job.srcMetadata with
  | none, some metaBuffer => [.metadataBufDone metaBuffer]
  | _, _ => []

/-- The metadata buffer that `releasePPJobData` returns. -/
def releasePPJobData (job : PpJob) : List PpOutput :=
  match job.srcFrame, job.srcMetadata with
  | some _, some metaBuffer => [.metadataBufDone metaBuffer]
  | _, _ => []

/-- `releaseOngoingPPData`, followed by the `free` of the flush. -/
def releaseOngoingPPData (job : PpJob) : List PpOutput :=
  (match job.srcFrame with
    | some frame => [.superBufDone frame]
    | none => []) ++
    releasePPJobData job ++ [.freed job.address]

/-! ## Calls of the other threads -/

/-- `sendCmd` for `DO_NEXT_JOB`. -/
def PostProcessor.sendNextJob (memory : SendMemory) (post : PostProcessor) : PostProcessor :=
  { post with cmdQueue := memory.push .doNextJob post.cmdQueue }

/-- `processData` for a frame of the stream. -/
def PostProcessor.processData (buffer : PpBuffer) (memory : CallMemory)
    (post : PostProcessor) : PostProcessor :=
  if memory.object then
    let queued := { post with m_inputPPQ := post.m_inputPPQ.tryEnqueue memory.node buffer }
    if post.m_inputMetaQ.isEmpty then
      queued
    else
      queued.sendNextJob memory.command
  else
    -- `NO_MEMORY` is returned without an unlock
    { post with lockLeaked := true }

/-- `processPPMetadata`. -/
def PostProcessor.processPPMetadata (metaBuffer : Nat) (memory : CallMemory)
    (post : PostProcessor) : PostProcessor :=
  let queued := { post with m_inputMetaQ := post.m_inputMetaQ.tryEnqueue memory.node metaBuffer }
  if post.m_inputPPQ.isEmpty then
    queued
  else
    queued.sendNextJob memory.command

/-- `processData` for the input buffer of a request. -/
def PostProcessor.processFwkData (frame : FwkFrame) (memory : CallMemory)
    (post : PostProcessor) : PostProcessor :=
  if frame.needsReprocess then
    { post with
        m_inputFWKPPQ := post.m_inputFWKPPQ.tryEnqueue memory.node frame
        owed := post.owed + 1 }
  else
    match post.m_jpegSettingsQ.dequeue with
    | (none, settingsQ) =>
      { post with m_jpegSettingsQ := settingsQ }
    | (some settings, settingsQ) =>
      if memory.object then
        let job : JpegJob :=
          { srcFrame := none
            srcReprocFrame := none
            fwkFrame := some frame
            fwkSrcBuffer := none
            metadata := some frame.request
            srcMetadata := none
            jpegSettings := some settings }
        { post with
            m_jpegSettingsQ := settingsQ
            m_inputJpegQ := post.m_inputJpegQ.tryEnqueue memory.node job
            owed := post.owed + 1 }
      else
        { post with m_jpegSettingsQ := settingsQ }

/-- `processJpegSettingData`. -/
def PostProcessor.processJpegSettingData (settings : JpegSettings) (memory : CallMemory)
    (post : PostProcessor) : PostProcessor :=
  { post with m_jpegSettingsQ := post.m_jpegSettingsQ.tryEnqueue memory.node settings }

/-- The JPEG job that `processPPData` makes of a job and its frame. -/
def jpegJobOf (frame : SuperBuf) (job : PpJob) : JpegJob where
  srcFrame := some frame
  srcReprocFrame :=
    if some frame = job.srcFrame.map SuperBuf.live then none else job.srcFrame
  fwkFrame := none
  fwkSrcBuffer := job.fwkSrcFrame
  metadata :=
    match job.fwkSrcFrame with
    | none => job.srcMetadata
    | some fwkFrame => some fwkFrame.request
  srcMetadata := job.srcMetadata
  jpegSettings := job.jpegSettings

/-- `processPPData`, up to the command it posts; `false` on an error. -/
def PostProcessor.processPPData (frame : SuperBuf) (memory : CallMemory)
    (post : PostProcessor) : PostProcessor × List PpOutput × Bool :=
  match post.m_ongoingPPQ.dequeue with
  | (none, ongoing) => ({ post with m_ongoingPPQ := ongoing }, [], false)
  | (some job, ongoing) =>
    if (job.srcFrame.isNone && job.fwkSrcFrame.isNone) || job.jpegSettings.isNone then
      ({ post with m_ongoingPPQ := ongoing }, [], false)
    else if memory.object then
      ({ post with
          m_ongoingPPQ := ongoing
          m_inputJpegQ := post.m_inputJpegQ.tryEnqueue memory.node (jpegJobOf frame job)
          owed := post.owed + 1 }, [.freed job.address], true)
    else
      ({ post with m_ongoingPPQ := ongoing }, [], false)

/-- The request that a job works for. -/
def PpJob.request (job : PpJob) : Nat :=
  match job.srcFrame, job.fwkSrcFrame with
  | some frame, _ => frame
  | none, some fwkFrame => fwkFrame.request
  | none, none => 0

/-- The offline buffers that a reprocess callback gives back. -/
def offlineReleased (job : PpJob) : List PpOutput :=
  match job.fwkSrcFrame with
  | some fwkFrame => [.offlineReleased fwkFrame.request]
  | none => []

/-- `QCamera3ReprocessChannel::streamCbRoutine` for the oldest job. -/
def PostProcessor.reprocessDone (kind : ReprocessKind) (memory : CallMemory)
    (post : PostProcessor) : Option (PostProcessor × List PpOutput) :=
  match post.reprocessing with
  | [] => none
  | job :: rest =>
    let done := { post with reprocessing := rest }
    match kind with
    | .jpeg =>
      let (next, emitted, _) := done.processPPData (.reprocessed job.request) memory
      some (next, offlineReleased job ++ emitted)
    | .yuv =>
      match done.m_ongoingPPQ.dequeue with
      | (none, ongoing) => some ({ done with m_ongoingPPQ := ongoing }, offlineReleased job)
      | (some found, ongoing) =>
        some ({ done with
            m_ongoingPPQ := ongoing
            owed := done.owed + 1 },
          offlineReleased job ++ releasePPJobData found ++ [.freed found.address])

/-- The offline buffers that a finished JPEG job gives back. -/
def jpegOfflineReleased (job : JpegJob) : List PpOutput :=
  match job.fwkFrame, job.fwkSrcBuffer with
  | some frame, _ => [.offlineReleased frame.request]
  | none, some frame => [.offlineReleased frame.request]
  | none, none => []

/-- `jpegEvtHandle`, up to the command that `releaseJpegJobData` posts. -/
def PostProcessor.jpegEvtHandle (post : PostProcessor) : PostProcessor × List PpOutput :=
  match post.m_ongoingJpegQ.dequeue with
  | (none, ongoing) => ({ post with m_ongoingJpegQ := ongoing }, [])
  | (some job, ongoing) =>
    ({ post with
        m_ongoingJpegQ := ongoing
        owed := post.owed + 1 },
      jpegOfflineReleased job ++ releaseJpegJobData job)

/-- `start`, up to the wait for its command; `NO_MEMORY` is not waited for. -/
def PostProcessor.start (outcome : StartOutcome) (memory : SendMemory)
    (post : PostProcessor) : PostProcessor :=
  let sent (post : PostProcessor) : PostProcessor :=
    { post with
        cmdQueue := memory.push .startDataProc post.cmdQueue
        caller := if memory = .noCommand then .idle else .starting }
  match outcome with
  | .noReprocess => sent post
  | .channelStarted => sent { post with m_pReprocChannel := true, reprocessing := [] }
  | .channelFailed => { post with m_pReprocChannel := false, reprocessing := [] }

/-- `stop`, up to the wait for its command. -/
def PostProcessor.stop (memory : SendMemory) (post : PostProcessor) : PostProcessor :=
  match memory with
  | .sent =>
    { post with
        cmdQueue := .stopDataProc :: post.cmdQueue
        caller := .stopping }
  | .noCommand => { post with caller := .stopped }
  | .noNode => { post with caller := .stopping }

/-! ## The data-process thread -/

/-- `START_DATA_PROC`. -/
def PostProcessor.startDataProc (post : PostProcessor) : PostProcessor :=
  { post with
      is_active := true
      m_ongoingPPQ := post.m_ongoingPPQ.init
      m_inputJpegQ := post.m_inputJpegQ.init
      m_inputPPQ := post.m_inputPPQ.init
      m_inputFWKPPQ := post.m_inputFWKPPQ.init
      m_inputMetaQ := post.m_inputMetaQ.init
      caller := .idle }

/-- `STOP_DATA_PROC`; `commands` of its commands get their memory. -/
def PostProcessor.stopDataProc (commands : Nat)
    (post : PostProcessor) : PostProcessor × List PpOutput :=
  let released := post.m_ongoingJpegQ.items.length + post.m_ongoingPPQ.items.length +
      post.m_inputJpegQ.items.length
  ({ post with
      is_active := false
      m_ongoingJpegQ :=
        { post.m_ongoingJpegQ with
            items := []
            inactiveEmpty := fun _ => rfl }
      m_ongoingPPQ := post.m_ongoingPPQ.flush.2
      m_inputJpegQ := post.m_inputJpegQ.flush.2
      m_inputPPQ := post.m_inputPPQ.flush.2
      m_inputFWKPPQ := post.m_inputFWKPPQ.flush.2
      m_inputMetaQ := post.m_inputMetaQ.flush.2
      -- every released job posts a command
      cmdQueue := post.cmdQueue ++ List.replicate (min commands released) .doNextJob
      caller := .stopped },
    post.m_ongoingJpegQ.items.flatMap releaseJpegJobData ++
      post.m_ongoingPPQ.items.flatMap releaseOngoingPPData ++
      post.m_inputJpegQ.items.flatMap releaseJpegJobData ++
      post.m_inputPPQ.items.map (fun buffer => .superBufDone buffer.input) ++
      post.m_inputMetaQ.items.map .metadataBufDone)

/-- `DO_NEXT_JOB` while the thread is not active. -/
def PostProcessor.dropJobs (post : PostProcessor) : PostProcessor × List PpOutput :=
  ({ post with
      m_inputJpegQ := post.m_inputJpegQ.dequeue.2
      m_inputPPQ := post.m_inputPPQ.dequeue.2
      m_inputMetaQ := post.m_inputMetaQ.dequeue.2
      m_inputFWKPPQ := post.m_inputFWKPPQ.dequeue.2 },
    (post.m_inputPPQ.dequeue.1.toList.map fun buffer =>
        .superBufDone buffer.input) ++
      post.m_inputMetaQ.dequeue.1.toList.map .metadataBufDone)

/-- Read the next command. -/
def PostProcessor.getCmd (outcome : JobOutcome)
    (post : PostProcessor) : Option (PostProcessor × List PpOutput) :=
  match post.cmdQueue with
  | [] => none
  | .startDataProc :: rest => some (({ post with cmdQueue := rest }).startDataProc, [])
  | .stopDataProc :: rest =>
    some (({ post with cmdQueue := rest }).stopDataProc outcome.stopCommands)
  | .doNextJob :: rest =>
    if post.is_active then
      some ({ post with cmdQueue := rest, thread := .jpegJobs }, [])
    else
      some ({ post with cmdQueue := rest }).dropJobs

/-- Take a JPEG job if none is being encoded. -/
def PostProcessor.takeJpegJob (post : PostProcessor) : PostProcessor :=
  if post.m_ongoingJpegQ.isEmpty then
    match post.m_inputJpegQ.dequeue with
    | (none, input) => { post with m_inputJpegQ := input, thread := .fwkJobs }
    | (some job, input) => { post with m_inputJpegQ := input, thread := .jpegTaken job }
  else
    { post with thread := .fwkJobs }

/-- Start the encoder for the job that has been taken. -/
def PostProcessor.encodeData (outcome : JobOutcome) (job : JpegJob)
    (post : PostProcessor) : PostProcessor × List PpOutput :=
  let ongoing := { post with
        m_ongoingJpegQ := post.m_ongoingJpegQ.tryEnqueue outcome.ongoingMemory job }
  if outcome.encodeOk && job.jpegSettings.isSome then
    ({ ongoing with thread := .fwkJobs }, [.encode job])
  else
    ({ ongoing with thread := .jpegFailed job }, [])

/-- The encoder could not be started. -/
def PostProcessor.encodeFailed (outcome : JobOutcome) (job : JpegJob)
    (post : PostProcessor) : PostProcessor × List PpOutput :=
  (({ post with
      m_ongoingJpegQ := post.m_ongoingJpegQ.dequeueLast.2
      thread := .fwkJobs }).sendNextJob outcome.memory.command, releaseJpegJobData job)

/-- The framework job of one command. -/
def PostProcessor.doFwkJob (outcome : JobOutcome)
    (post : PostProcessor) : PostProcessor × List PpOutput :=
  match post.m_inputFWKPPQ.dequeue with
  | (none, input) =>
    ({ post with m_inputFWKPPQ := input, thread := .ppJobs }, [])
  | (some frame, input) =>
    let job : PpJob :=
      { address := post.nextJob
        srcFrame := none
        srcMetadata := none
        fwkSrcFrame := some frame
        jpegSettings := post.m_jpegSettingsQ.dequeue.1 }
    let taken :=
      { post with
          m_inputFWKPPQ := input
          m_jpegSettingsQ := post.m_jpegSettingsQ.dequeue.2
          thread := .ppJobs }
    if !outcome.jobMemory then
      (taken, [])
    else if post.m_pReprocChannel then
      let queued :=
        { taken with
            m_ongoingPPQ := taken.m_ongoingPPQ.tryEnqueue outcome.ongoingMemory job
            nextJob := post.nextJob + 1 }
      if outcome.submitOk then
        ({ queued with reprocessing := queued.reprocessing ++ [job] }, [.submitted job])
      else
        ({ queued with
            m_ongoingPPQ := queued.m_ongoingPPQ.dequeueLast.2 },
          [.submitFailed job, .freed job.address])
    else
      ({ taken with nextJob := post.nextJob + 1 }, [.submitFailed job, .freed job.address])

/-- The section in which the parts of a live job are taken. -/
def PostProcessor.takePpJob (post : PostProcessor) : PostProcessor :=
  match post.m_inputPPQ.dequeue, post.m_inputMetaQ.dequeue with
  | (some buffer, inputPP), (some metaBuffer, inputMeta) =>
    { post with
        m_inputPPQ := inputPP
        m_inputMetaQ := inputMeta
        m_jpegSettingsQ := post.m_jpegSettingsQ.dequeue.2
        thread :=
          .ppTaken buffer metaBuffer post.m_jpegSettingsQ.dequeue.1 }
  | _, _ => { post with thread := .idle }

/-- What the thread frees and returns when a live job fails. -/
def ppJobFailed (job : PpJob) (buffer : PpBuffer) (metaBuffer : Nat) : List PpOutput :=
  [.submitFailed job, .freed job.address, .superBufDone buffer.input, .metadataBufDone metaBuffer]

/-- The live job made of a frame, its metadata and its settings. -/
def ppJobOf (address : Nat) (buffer : PpBuffer) (metaBuffer : Nat)
    (settings : Option JpegSettings) : PpJob where
  address := address
  srcFrame := some buffer.input
  srcMetadata := some metaBuffer
  fwkSrcFrame := none
  jpegSettings := settings

/-- The live job of one command. -/
def PostProcessor.doPpJob (outcome : JobOutcome) (buffer : PpBuffer) (metaBuffer : Nat)
    (settings : Option JpegSettings)
    (post : PostProcessor) : PostProcessor × List PpOutput :=
  let job := ppJobOf post.nextJob buffer metaBuffer settings
  let queued := { post with
        m_ongoingPPQ := post.m_ongoingPPQ.tryEnqueue outcome.ongoingMemory job
        nextJob := post.nextJob + 1
        thread := .idle }
  if !outcome.jobMemory then
    ({ post with thread := .idle }, [.superBufDone buffer.input, .metadataBufDone metaBuffer])
  else if post.m_pReprocChannel then
    if outcome.overrideOk then
      if outcome.submitOk then
        ({ queued with reprocessing := queued.reprocessing ++ [job] }, [.submitted job])
      else
        ({ queued with
            m_ongoingPPQ := queued.m_ongoingPPQ.dequeueLast.2 },
          ppJobFailed job buffer metaBuffer)
    else
      -- the job stays in the queue although it is freed
      (queued, ppJobFailed job buffer metaBuffer)
  else
    match queued.processPPData (.live buffer.input) outcome.memory with
    | (next, emitted, true) =>
      (({ next with owed := next.owed - 1 }).sendNextJob outcome.memory.command, emitted)
    | (next, emitted, false) => (next, emitted ++ ppJobFailed job buffer metaBuffer)

/-- One step of the data-process thread. -/
def PostProcessor.dataProcessRoutine (outcome : JobOutcome)
    (post : PostProcessor) : Option (PostProcessor × List PpOutput) :=
  match post.thread with
  | .idle => post.getCmd outcome
  | .jpegJobs => some (post.takeJpegJob, [])
  | .jpegTaken job => some (post.encodeData outcome job)
  | .jpegFailed job => some (post.encodeFailed outcome job)
  | .fwkJobs => some (post.doFwkJob outcome)
  | .ppJobs => if post.lockLeaked then none else some (post.takePpJob, [])
  | .ppTaken buffer metaBuffer settings => some (post.doPpJob outcome buffer metaBuffer settings)

/-! ## Steps -/

/-- The steps of the threads that use the postprocessor. -/
inductive PpEvent where
  | start (outcome : StartOutcome) (memory : SendMemory)
  | stop (memory : SendMemory)
  | stopReturn
  | processData (buffer : PpBuffer) (memory : CallMemory)
  | processPPMetadata (metaBuffer : Nat) (memory : CallMemory)
  | processFwkData (frame : FwkFrame) (memory : CallMemory)
  | processJpegSettingData (settings : JpegSettings) (memory : CallMemory)
  | reprocessDone (kind : ReprocessKind) (memory : CallMemory)
  | jpegEvtHandle
  | sendCmd (memory : SendMemory)
  | dataProcessRoutine (outcome : JobOutcome)
  deriving DecidableEq

/-- One step of one of the threads. -/
def ppStep (post : PostProcessor) (event : PpEvent) : Option (PostProcessor × List PpOutput) :=
  match event with
  | .start outcome memory =>
    if post.caller = .idle then
      some (post.start outcome memory, [])
    else
      none
  | .stop memory =>
    if post.caller = .idle then
      some (post.stop memory, [])
    else
      none
  | .stopReturn =>
    if post.caller = .stopped then
      some ({ post with
        m_pReprocChannel := false
        reprocessing := []
        caller := .idle }, [])
    else
      none
  | .processData buffer memory =>
    if post.lockLeaked then none else some (post.processData buffer memory, [])
  | .processPPMetadata metaBuffer memory =>
    if post.lockLeaked then none else some (post.processPPMetadata metaBuffer memory, [])
  | .processFwkData frame memory =>
    if frame.needsReprocess && post.lockLeaked then none
    else some (post.processFwkData frame memory, [])
  | .processJpegSettingData settings memory =>
    some (post.processJpegSettingData settings memory, [])
  | .reprocessDone kind memory => post.reprocessDone kind memory
  | .jpegEvtHandle => some post.jpegEvtHandle
  | .sendCmd memory =>
    match post.owed with
    | 0 => none
    | left + 1 => some (({ post with owed := left }).sendNextJob memory, [])
  | .dataProcessRoutine outcome => post.dataProcessRoutine outcome

/-- Execute a list of steps. -/
def ppRun (post : PostProcessor) (events : List PpEvent) : Option (PostProcessor × List PpOutput) :=
  LabelledRun.run? ppStep post events

end AnglerHal.PostProc
