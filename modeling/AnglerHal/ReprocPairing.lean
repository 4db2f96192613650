import AnglerHal.FramePostProcessor

namespace AnglerHal.Hal1PostProc

open LabelledRun
open PostProc (CameraQueue Cmd SendMemory)

/-!
# Results of the reprocess channel and their jobs

A result says nothing about the job it is of: `processPPData` takes the oldest
job of `m_ongoingPPQ`.  With one reprocess channel this is the right one as
long as the queue holds exactly the jobs that the channel works on, and behind
them the one that is being submitted.  A job stays in the queue when its
submission fails, or is left out because an extra job gets no node, and from
then on every result is paired with the job before its own.
-/

/-- The jobs that are in `m_ongoingPPQ` and not yet submitted. -/
def ThreadPc.queued : ThreadPc → List PpJob
  | .submitting job extra => job :: extra
  | _ => []

/-- The metadata is that of the source frame of the job, or of the result. -/
def OwnMetadata (submitted : PpJob) (result : SuperBuf) (metadata : Option Nat) : Prop :=
  ∀ frame, metadata = some frame → frame = result.id ∨
        submitted.src_reproc_frame.map SuperBuf.id = some frame

/-- The job is the one whose submission produced the frame. -/
def PpOutput.Own : PpOutput → Prop
  | .taken submitted job => job = some submitted
  | .toJpeg submitted result job =>
    job.src_frame = result ∧ job.src_reproc_frame = submitted.src_reproc_frame ∧
      OwnMetadata submitted result job.metadata

/-- `m_ongoingPPQ` holds the jobs that are submitted and unanswered. -/
def PostProcessor.Paired (post : PostProcessor) : Prop :=
  post.m_ongoingPPQ.items = post.reprocessing ++ post.thread.queued

/-- The step takes the right job and leaves the right ones in the queue. -/
def PairedStep (post : PostProcessor) (event : PpEvent) : Prop :=
  ∀ next outputs, ppStep 1 post event = some (next, outputs) →
      (∀ output ∈ outputs, output.Own) ∧ next.Paired

/-- `processPPData` makes a JPEG job for the result of this job. -/
def PpDataCall.MakesJpeg (job : PpJob) (call : PpDataCall) : Prop :=
  ¬ (call.needSuperBufMatch = false ∧ (job.src_frame = none ∨ job.src_reproc_frame = none)) ∧
    ¬ (call.needSuperBufMatch = false ∧ call.rawFormat = true) ∧
    call.mallocOk = true

/-- The metadata at the place that `getExifBufIndex` names is that of the frame. -/
def PostProcessor.Selects (call : PpDataCall) (job : PpJob) (post : PostProcessor) : Prop :=
  ∀ index frame, call.exifBufIndex = some index → post.m_InputMetadata[index]? = some frame →
      frame = post.ledger.handed ∨ job.src_reproc_frame.map SuperBuf.id = some frame

/-- `doReprocess` puts the job of the oldest request into `m_ongoingPPQ`. -/
def PostProcessor.QueuesJob (call : ReprocessCall) (post : PostProcessor) : Prop :=
  post.thread = .ppJobs ∧ post.m_ongoingPPQ.accepts call.node = true ∧
    ∃ request, post.m_inputPPQ.items.head? = some request ∧
      post.validatePostProcess call.queuedBufs request.src_frame = true ∧
      request.src_reproc_frame.isSome = true ∧
      call.mallocOk = true ∧ call.hasChannel = true ∧
      ¬ (call.isRegularCapture = true ∧ 0 < request.src_frame.num_bufs ∧ call.newOk = false)

/--
No submission fails or is left out for an extra job without a node,
`getExifBufIndex` selects the metadata of the frame, and the channel is not
replaced or stopped while it works on a job.
-/
def SubmissionsAccepted (post : PostProcessor) : PpEvent → Prop
  | .submit accepted => post.thread.queued ≠ [] → accepted = true
  | .processPPData call =>
    ∀ submitted, post.reprocessing.find? (fun job => job.reprocCount == call.pass) =
        some submitted →
      call.MakesJpeg submitted → post.Selects call submitted
  | .doReprocess call =>
    post.QueuesJob call → call.isRegularCapture = false →
    (post.m_bufCountPPQ + 1) % call.inBufs = 0 →
      min (call.outBufs - call.inBufs) call.callocs ≤ call.extraNodes
  | .getCmd saveStop =>
    post.thread = .idle →
    post.cmdQueue.head? = some .stopDataProc → saveStop ≠ .noNode → post.reprocessing = []
  | .start needReprocess _ => post.caller = .idle → needReprocess = true → post.reprocessing = []
  | .stopReturn => post.caller = .stopped → post.reprocessing = []
  | _ => True

/-- What steps that meet the condition keep. -/
structure PairingInv (post : PostProcessor) : Prop where
  paired : post.Paired
  /-- There is one pass only. -/
  first : ∀ job ∈ post.m_ongoingPPQ.items, job.reprocCount = 1
  requests : ∀ request ∈ post.m_inputPPQ.items, request.reprocCount = 0

theorem PairingInv.new : PairingInv .new where
  paired := rfl
  first := by simp [PostProcessor.new]
  requests := by simp [PostProcessor.new]

variable {post next : PostProcessor}

/-- The step leaves the jobs alone, and queues requests for the first pass only. -/
structure JobsAlone (post next : PostProcessor) : Prop where
  ongoing : next.m_ongoingPPQ.items = post.m_ongoingPPQ.items
  reprocessing : next.reprocessing = post.reprocessing
  queued : next.thread.queued = post.thread.queued
  requests : ∀ request ∈ next.m_inputPPQ.items,
      request ∈ post.m_inputPPQ.items ∨ request.reprocCount = 0

theorem PairingInv.of_alone (inv : PairingInv post) (alone : JobsAlone post next) :
    PairingInv next where
  paired := by
    have paired := inv.paired
    unfold PostProcessor.Paired at paired ⊢
    rw [alone.ongoing, alone.reprocessing, alone.queued, paired]
  first := by
    rw [alone.ongoing]
    exact inv.first
  requests := by
    intro request member
    rcases alone.requests request member with old | isFirst
    · exact inv.requests request old
    · exact isFirst

theorem JobsAlone.of_same (ongoing : next.m_ongoingPPQ = post.m_ongoingPPQ)
    (reprocessing : next.reprocessing = post.reprocessing)
    (queued : next.thread.queued = post.thread.queued)
    (requests : next.m_inputPPQ = post.m_inputPPQ) :
    JobsAlone post next where
  ongoing := by rw [ongoing]
  reprocessing := reprocessing
  queued := queued
  requests := by
    intro request member
    rw [requests] at member
    exact .inl member

/-! ## Steps that leave the jobs alone -/

theorem processRawData_alone (node : Bool) (frame : SuperBuf) :
    JobsAlone post (post.processRawData node frame) := by
  unfold PostProcessor.processRawData
  split
  · exact .of_same rfl rfl rfl rfl
  · exact .of_same rfl rfl rfl rfl

theorem JobsAlone.trans {last : PostProcessor} (one : JobsAlone post next)
    (two : JobsAlone next last) :
    JobsAlone post last where
  ongoing := two.ongoing.trans one.ongoing
  reprocessing := two.reprocessing.trans one.reprocessing
  queued := two.queued.trans one.queued
  requests := by
    intro request member
    rcases two.requests request member with old | isFirst
    · exact one.requests request old
    · exact .inr isFirst

theorem trigger_alone (triggerEvent : Bool) : JobsAlone post (post.trigger triggerEvent) := by
  unfold PostProcessor.trigger
  split
  · exact .of_same rfl rfl rfl rfl
  · exact .of_same rfl rfl rfl rfl

theorem enqueueJpeg_alone (node : Bool) (job : JpegJob) :
    JobsAlone post (post.enqueueJpeg node job) := by
  unfold PostProcessor.enqueueJpeg
  split
  · exact .of_same rfl rfl rfl rfl
  · exact .of_same rfl rfl rfl rfl

theorem enqueuePp_alone (call : DataCall) (frame : SuperBuf) :
    JobsAlone post (post.enqueuePp call frame) := by
  unfold PostProcessor.enqueuePp
  split
  · rename_i accepts
    have active := CameraQueue.active_of_accepts accepts
    have requests : ∀ request ∈ (post.m_inputPPQ.enqueue ⟨0, frame, some frame⟩).items,
          request ∈ post.m_inputPPQ.items ∨ request.reprocCount = 0 := by
      intro request member
      rw [(CameraQueue.enqueue_of_active active _).1] at member
      rcases List.mem_append.mp member with old | isNew
      · exact .inl old
      · obtain rfl := List.mem_singleton.mp isNew
        exact .inr rfl
    have queued : JobsAlone post { post with
            m_inputPPQ := post.m_inputPPQ.enqueue ⟨0, frame, some frame⟩
            m_InputMetadata :=
              post.m_InputMetadata ++ call.inputMetadata frame } :=
      ⟨rfl, rfl, rfl, requests⟩
    exact queued.trans (trigger_alone _)
  · exact .of_same rfl rfl rfl rfl

theorem processData_alone (call : DataCall) : JobsAlone post (post.processData call) := by
  have handed : JobsAlone post post.hand := .of_same rfl rfl rfl rfl
  unfold PostProcessor.processData
  split
  · split
    · exact handed.trans (enqueuePp_alone call _)
    · exact handed
  · split
    · exact (handed.trans (processRawData_alone _ _)).trans (.of_same rfl rfl rfl rfl)
    · split
      · exact handed.trans (enqueueJpeg_alone _ _)
      · exact handed

theorem releaseJpeg_alone (job : Nat) (found : Bool) :
    JobsAlone post (post.releaseJpeg job found) := by
  unfold PostProcessor.releaseJpeg
  split
  · exact .of_same rfl rfl rfl rfl
  · exact .of_same rfl rfl rfl rfl

variable {found accepted : Bool} {call : ReprocessCall} {count : Nat} {job : PpJob}
  {saveStop : SendMemory} {result : SuperBuf} {outputs : List PpOutput}
  {event : PpEvent}

theorem processJpegEvt_alone {job : Nat} {path : JpegEvtPath}
    (handled : post.processJpegEvt job found path = some next) :
    JobsAlone post next := by
  unfold PostProcessor.processJpegEvt at handled
  split at handled
  · have reported : JobsAlone post { post with encoding := post.encoding.erase job } :=
      .of_same rfl rfl rfl rfl
    cases path with
    | release =>
      have released := reported.trans (releaseJpeg_alone job found)
      simp only at handled
      split at handled
      · cases handled
        exact released.trans (.of_same rfl rfl rfl rfl)
      · cases handled
        exact released.trans (.of_same rfl rfl rfl rfl)
    | save =>
      cases handled
      exact .of_same rfl rfl rfl rfl
    | saveRefused =>
      cases handled
      exact reported
  · cases handled

theorem dataSave_alone (saved : post.dataSave found = some next) :
    JobsAlone post next := by
  unfold PostProcessor.dataSave at saved
  split at saved
  · cases saved
  · rename_i job rest _
    cases saved
    have taken : JobsAlone post { post with m_inputSaveQ := rest } := .of_same rfl rfl rfl rfl
    exact taken.trans (releaseJpeg_alone job found)

theorem releaseNotifyData_alone (released : post.releaseNotifyData = some next) :
    JobsAlone post next := by
  unfold PostProcessor.releaseNotifyData at released
  split at released
  · cases released
  · cases released
    exact .of_same rfl rfl rfl rfl

theorem sendCmd_alone {memory : SendMemory} (sent : post.sendCmd memory = some next) :
    JobsAlone post next := by
  unfold PostProcessor.sendCmd at sent
  split at sent
  · cases sent
  · cases sent
    exact .of_same rfl rfl rfl rfl

theorem doJpegJob_alone {encodeOk : Bool} (done : post.doJpegJob encodeOk = some next) :
    JobsAlone post next := by
  unfold PostProcessor.doJpegJob at done
  split at done
  · rename_i thread
    have queued : post.thread.queued = [] := by
      rw [thread]
      rfl
    simp only at done
    split at done
    · cases done
      exact .of_same rfl rfl queued.symm rfl
    · cases done
      unfold PostProcessor.encodeJob
      split
      · exact .of_same rfl rfl queued.symm rfl
      · exact .of_same rfl rfl queued.symm rfl
  · cases done

theorem processRawImageImpl_alone (outcome : RawOutcome) (zslChannelUsed : Bool)
    (frame : SuperBuf) :
    JobsAlone post (post.processRawImageImpl outcome zslChannelUsed frame).1 := by
  unfold PostProcessor.processRawImageImpl
  cases outcome with
  | failed | intRawEvt | notEnabled | noNotifyMemory => exact .of_same rfl rfl rfl rfl
  | notifyRefused | notified =>
    simp only
    split
    · exact .of_same rfl rfl rfl rfl
    · exact .of_same rfl rfl rfl rfl

theorem doRawJob_alone {outcome : RawOutcome} {zslChannelUsed : Bool}
    (done : post.doRawJob outcome zslChannelUsed = some next) :
    JobsAlone post next := by
  unfold PostProcessor.doRawJob at done
  split at done
  · rename_i thread
    have queued : post.thread.queued = [] := by
      rw [thread]
      rfl
    have taken : JobsAlone post { post with
            m_inputRawQ := post.m_inputRawQ.dequeue.2
            thread := .ppJobs } :=
      .of_same rfl rfl queued.symm rfl
    simp only at done
    split at done
    · cases done
      exact taken
    · rename_i frame _
      have sent := taken.trans (processRawImageImpl_alone outcome zslChannelUsed frame)
      split at done
      · rename_i impl
        cases done
        rw [impl] at sent
        exact sent
      · rename_i impl
        cases done
        rw [impl] at sent
        exact sent.trans (.of_same rfl rfl rfl rfl)
  · cases done

/-! ## Steps that change the jobs -/

/-- Jobs that are queued one after the other stand behind the others. -/
theorem enqueueOngoing_items {queue : CameraQueue PpJob} (active : queue.m_active = true)
    (jobs : List PpJob) :
    (PostProcessor.enqueueOngoing jobs queue).items = queue.items ++ jobs := by
  induction jobs generalizing queue with
  | nil => exact (List.append_nil _).symm
  | cons job rest inductionHypothesis =>
    obtain ⟨items, stillActive⟩ := CameraQueue.enqueue_of_active active job
    change (PostProcessor.enqueueOngoing rest (queue.enqueue job)).items = _
    rw [inductionHypothesis stillActive, items, List.append_assoc]
    rfl

theorem extraJobs_reprocCount {extra : PpJob}
    (member : extra ∈ PostProcessor.extraJobs call count job) :
    extra.reprocCount = job.reprocCount := by
  unfold PostProcessor.extraJobs at member
  split at member
  · obtain ⟨i, -, rfl⟩ := List.mem_map.mp member
    rfl
  · cases member

theorem extraJobs_length (fits :
      call.isRegularCapture = false → count % call.inBufs = 0 →
          min (call.outBufs - call.inBufs) call.callocs ≤ call.extraNodes) :
    (PostProcessor.extraJobs call count job).length ≤ call.extraNodes := by
  unfold PostProcessor.extraJobs
  split
  · rename_i extra
    rw [List.length_map, List.length_range]
    exact fits extra.1 extra.2
  · exact Nat.zero_le _

theorem PairingInv.queueJob {request : PpRequest} {source : SuperBuf}
    (inv : PairingInv post) (idle : post.thread = .idle)
    (isFirst : request.reprocCount = 0)
    (fits : post.m_ongoingPPQ.accepts call.node = true →
        call.isRegularCapture = false → (post.m_bufCountPPQ + 1) % call.inBufs = 0 →
          min (call.outBufs - call.inBufs) call.callocs ≤ call.extraNodes) :
    PairingInv (post.queueJob call request source) := by
  have paired := inv.paired
  unfold PostProcessor.Paired at paired
  rw [idle] at paired
  unfold PostProcessor.queueJob
  simp only
  split
  · rename_i accepts
    rw [if_pos (extraJobs_length (fits accepts))]
    have active := CameraQueue.active_of_accepts accepts
    have items := enqueueOngoing_items active (post.ppJobOf call request source ::
          PostProcessor.extraJobs call (post.m_bufCountPPQ + 1) (post.ppJobOf call request source))
    refine ⟨?_, ?_, inv.requests⟩
    · unfold PostProcessor.Paired
      rw [items, paired]
      simp [ThreadPc.queued]
    · intro job member
      rw [items] at member
      rcases List.mem_append.mp member with old | isNew
      · exact inv.first job old
      · rcases List.mem_cons.mp isNew with rfl | isExtra
        · exact congrArg (· + 1) isFirst
        · rw [extraJobs_reprocCount isExtra]
          exact congrArg (· + 1) isFirst
  · refine ⟨?_, inv.first, inv.requests⟩
    unfold PostProcessor.Paired
    rw [PostProcessor.record, paired]

theorem PairingInv.doReprocess (inv : PairingInv post)
    (fits : SubmissionsAccepted post (.doReprocess call))
    (done : post.doReprocess call = some next) :
    PairingInv next := by
  unfold PostProcessor.doReprocess at done
  split at done
  · rename_i thread
    have queued : post.thread.queued = [] := by
      rw [thread]
      rfl
    have idle : PairingInv { post with thread := .idle } :=
      inv.of_alone (.of_same rfl rfl queued.symm rfl)
    simp only at done
    split at done
    · cases done
      exact idle
    · rename_i request peeked
      have isFirst : request.reprocCount = 0 := inv.requests request (List.mem_of_mem_head? peeked)
      have taken : PairingInv { post with
              thread := .idle
              m_inputPPQ := post.m_inputPPQ.dequeue.2 } := by
        refine ⟨idle.paired, idle.first, ?_⟩
        intro request member
        rw [CameraQueue.dequeue_items] at member
        exact inv.requests request (List.mem_of_mem_tail member)
      split at done
      · rename_i valid
        split at done
        · cases done
          exact taken
        · rename_i source isSource
          split at done
          · cases done
            exact taken
          · rename_i mallocOk
            split at done
            · cases done
              exact taken.of_alone (.of_same rfl rfl rfl rfl)
            · rename_i hasChannel
              split at done
              · cases done
                exact taken
              · rename_i copies
                cases done
                refine taken.queueJob rfl isFirst fun accepts => fits ⟨thread, accepts, ?_⟩
                refine ⟨request, peeked, valid, ?_, ?_, ?_, copies⟩
                · rw [isSource]
                  rfl
                · exact (Bool.not_eq_false _).mp mallocOk
                · exact (Bool.not_eq_false _).mp hasChannel
      · cases done
        exact idle
  · cases done

theorem PairingInv.submit (inv : PairingInv post)
    (submits : SubmissionsAccepted post (.submit accepted))
    (done : post.submit accepted = some next) :
    PairingInv next := by
  unfold PostProcessor.submit at done
  split at done
  · rename_i job extra thread
    have isAccepted : accepted = true := by
      refine submits ?_
      rw [thread]
      exact List.cons_ne_nil job extra
    rw [if_pos isAccepted] at done
    cases done
    refine ⟨?_, inv.first, inv.requests⟩
    have paired := inv.paired
    unfold PostProcessor.Paired at paired ⊢
    rw [thread] at paired
    simpa [ThreadPc.queued] using paired
  · cases done

theorem PairingInv.stopDataProc {rest : List Cmd} (saveStopped : Bool)
    (idle : post.thread = .idle) (none : post.reprocessing = []) :
    PairingInv (PostProcessor.stopDataProc saveStopped { post with cmdQueue := rest }) where
  paired := by
    unfold PostProcessor.Paired
    change [] = post.reprocessing ++ post.thread.queued
    rw [none, idle]
    rfl
  first := fun _ member => nomatch member
  requests := fun _ member => nomatch member

theorem PairingInv.getCmd (inv : PairingInv post)
    (stopsIdle : SubmissionsAccepted post (.getCmd saveStop))
    (done : post.getCmd saveStop = some next) :
    PairingInv next := by
  unfold PostProcessor.getCmd at done
  split at done
  · cases done
    exact ⟨inv.paired, inv.first, inv.requests⟩
  · rename_i rest thread commands
    have none := stopsIdle thread (by rw [commands]; rfl)
    cases saveStop with
    | sent =>
      cases done
      exact .stopDataProc true thread (none nofun)
    | noCommand =>
      cases done
      exact .stopDataProc false thread (none nofun)
    | noNode => cases done
  · rename_i rest thread commands
    have queued : post.thread.queued = [] := by
      rw [thread]
      rfl
    split at done
    · cases done
      exact inv.of_alone (.of_same rfl rfl queued.symm rfl)
    · cases done
      exact ⟨inv.paired, inv.first, fun request member => nomatch member⟩
  · cases done

/-! ## Results -/

theorem lastPass_alone (call : PpDataCall) (job : PpJob) (result : SuperBuf) :
    JobsAlone post (post.lastPass call job result) := by
  unfold PostProcessor.lastPass
  simp only
  split
  · have queued : JobsAlone post { post with
            m_PPindex := post.m_PPindex + call.exifBufIndex.toList.length
            m_inputJpegQ :=
              post.m_inputJpegQ.enqueue (post.jpegJobOf call job result)
            nextJpeg := post.nextJpeg + 1 } :=
      .of_same rfl rfl rfl rfl
    exact queued.trans (trigger_alone _)
  · exact .of_same rfl rfl rfl rfl

theorem releaseInput_alone (job : PpJob) : JobsAlone post (post.releaseInput job) := by
  unfold PostProcessor.releaseInput
  split
  · split
    · exact .of_same rfl rfl rfl rfl
    · exact .of_same rfl rfl rfl rfl
  · exact .of_same rfl rfl rfl rfl

theorem processPPJob_alone {submitted : PpJob} (call : PpDataCall) (result : SuperBuf)
    (isFirst : job.reprocCount = 1) :
    JobsAlone post (post.processPPJob 1 call submitted job result).1 := by
  have last : ¬ job.reprocCount < 1 := by
    rw [isFirst]
    exact Nat.lt_irrefl 1
  have released : JobsAlone post (post.releaseInput job) := releaseInput_alone job
  simp only [PostProcessor.processPPJob, if_neg last]
  split
  · exact .of_same rfl rfl rfl rfl
  · split
    · have released : JobsAlone post (post.record (·.releaseOngoingPPData job)) :=
        .of_same rfl rfl rfl rfl
      exact released.trans (processRawData_alone _ result)
    · split
      · exact released.trans (lastPass_alone call job result)
      · exact released

@[simp]
theorem releaseInput_metadata (job : PpJob) :
    (post.releaseInput job).m_InputMetadata = post.m_InputMetadata := by
  unfold PostProcessor.releaseInput
  split
  · split
    · rfl
    · rfl
  · rfl

theorem metadataOf_own {call : PpDataCall} (selected :
      ∀ index frame, call.exifBufIndex = some index → post.m_InputMetadata[index]? = some frame →
          frame = result.id ∨ job.src_reproc_frame.map SuperBuf.id = some frame) :
    OwnMetadata job result (post.metadataOf call job result) := by
  intro frame isMetadata
  unfold PostProcessor.metadataOf at isMetadata
  split at isMetadata
  · rename_i index exif
    exact selected index frame exif isMetadata
  · split at isMetadata
    · rename_i source isSource
      obtain ⟨isSource, -⟩ := Option.filter_eq_some_iff.mp isSource
      right
      rw [isSource]
      exact isMetadata
    · split at isMetadata
      · exact .inl (Option.some.inj isMetadata).symm
      · cases isMetadata

theorem processPPJob_own {call : PpDataCall} {output : PpOutput}
    (isFirst : job.reprocCount = 1)
    (selected : call.MakesJpeg job → ∀ index frame, call.exifBufIndex = some index →
          post.m_InputMetadata[index]? = some frame → frame = result.id ∨
              job.src_reproc_frame.map SuperBuf.id = some frame)
    (member : output ∈ (post.processPPJob 1 call job job result).2) :
    output.Own := by
  have last : ¬ job.reprocCount < 1 := by
    rw [isFirst]
    exact Nat.lt_irrefl 1
  simp only [PostProcessor.processPPJob, if_neg last] at member
  split at member
  · cases member
  · rename_i valid
    split at member
    · cases member
    · rename_i notRaw
      split at member
      · rename_i mallocOk
        obtain rfl := List.mem_singleton.mp member
        refine ⟨rfl, rfl, metadataOf_own ?_⟩
        rw [releaseInput_metadata]
        exact selected ⟨valid, notRaw, mallocOk⟩
      · cases member

theorem PairingInv.processPPData {call : PpDataCall} (inv : PairingInv post)
    (selected : SubmissionsAccepted post (.processPPData call))
    (done : post.processPPData 1 call = some (next, outputs)) :
    (∀ output ∈ outputs, output.Own) ∧ PairingInv next := by
  have paired := inv.paired
  unfold PostProcessor.Paired at paired
  unfold PostProcessor.processPPData at done
  split at done
  · cases done
  · rename_i submitted found
    -- every job is of the first pass, so the first one in flight is answered
    obtain ⟨rest, inFlight⟩ : ∃ rest, post.reprocessing = submitted :: rest ∧
          post.reprocessing.eraseP (fun job => job.reprocCount == call.pass) = rest := by
      cases flight : post.reprocessing with
      | nil =>
        rw [flight] at found
        cases found
      | cons first rest =>
        have ofPass := List.find?_some found
        have member := List.mem_of_find?_eq_some found
        have submittedFirst := inv.first submitted (paired ▸ List.mem_append_left _ member)
        have firstFirst := inv.first first
            (paired ▸ flight ▸ List.mem_append_left _ List.mem_cons_self)
        have firstOfPass : (first.reprocCount == call.pass) = true := by
          rw [firstFirst, ← submittedFirst]
          exact ofPass
        simp only [flight, List.find?_cons, firstOfPass] at found
        obtain rfl := Option.some.inj found
        exact ⟨rest, rfl, List.eraseP_cons_of_pos firstOfPass⟩
    obtain ⟨flight, erased⟩ := inFlight
    have ongoing : post.m_ongoingPPQ.items = submitted :: (rest ++ post.thread.queued) := by
      rw [paired, flight]
      rfl
    have isFirst : submitted.reprocCount = 1 := inv.first submitted (ongoing ▸ List.mem_cons_self)
    have dequeued : post.m_ongoingPPQ.dequeue.1 = some submitted := by
      rw [CameraQueue.dequeue_fst, ongoing]
      rfl
    have answered : PairingInv { post.hand with
            reprocessing :=
              post.reprocessing.eraseP fun job => job.reprocCount == call.pass
            m_ongoingPPQ := post.m_ongoingPPQ.dequeue.2 } := by
      refine ⟨?_, ?_, inv.requests⟩
      · unfold PostProcessor.Paired
        change post.m_ongoingPPQ.dequeue.2.items = _ ++ post.thread.queued
        rw [CameraQueue.dequeue_items, ongoing, erased]
        rfl
      · intro job member
        rw [CameraQueue.dequeue_items] at member
        exact inv.first job (List.mem_of_mem_tail member)
    simp only [dequeued] at done
    cases done
    refine ⟨?_, answered.of_alone (processPPJob_alone call _ isFirst)⟩
    intro output member
    rcases List.mem_cons.mp member with rfl | later
    · rfl
    · exact processPPJob_own isFirst (selected submitted found) later

/-! ## Runs -/

theorem silent_eq_some {result : Option PostProcessor}
    (stepped : silent result = some (next, outputs)) :
    result = some next ∧ outputs = [] := by
  obtain ⟨post, isNext, same⟩ := Option.map_eq_some_iff.mp stepped
  cases same
  exact ⟨isNext, rfl⟩

/-- What a step keeps, and what it takes. -/
structure PairingKept (next : PostProcessor) (outputs : List PpOutput) : Prop where
  own : ∀ output ∈ outputs, output.Own
  inv : PairingInv next

theorem PairingKept.silent (inv : PairingInv next) : PairingKept next [] :=
  ⟨fun _ member => (nomatch member), inv⟩

theorem PairingInv.step (inv : PairingInv post)
    (accepted : SubmissionsAccepted post event)
    (stepped : ppStep 1 post event = some (next, outputs)) :
    PairingKept next outputs := by
  cases event with
  | processData call =>
    cases stepped
    exact .silent (inv.of_alone (processData_alone call))
  | processRawData num_bufs hasMetadata node =>
    cases stepped
    have handed : JobsAlone post post.hand := .of_same rfl rfl rfl rfl
    exact .silent (inv.of_alone (handed.trans (processRawData_alone _ _)))
  | processPPData call =>
    obtain ⟨own, kept⟩ := inv.processPPData accepted stepped
    exact ⟨own, kept⟩
  | processJpegEvt job found path =>
    obtain ⟨done, rfl⟩ := silent_eq_some stepped
    exact .silent (inv.of_alone (processJpegEvt_alone done))
  | dataSave found =>
    obtain ⟨done, rfl⟩ := silent_eq_some stepped
    exact .silent (inv.of_alone (dataSave_alone done))
  | releaseNotifyData =>
    obtain ⟨done, rfl⟩ := silent_eq_some stepped
    exact .silent (inv.of_alone (releaseNotifyData_alone done))
  | sendCmd memory =>
    obtain ⟨done, rfl⟩ := silent_eq_some stepped
    exact .silent (inv.of_alone (sendCmd_alone done))
  | getCmd saveStop =>
    obtain ⟨done, rfl⟩ := silent_eq_some stepped
    exact .silent (inv.getCmd accepted done)
  | doJpegJob encodeOk =>
    obtain ⟨done, rfl⟩ := silent_eq_some stepped
    exact .silent (inv.of_alone (doJpegJob_alone done))
  | doRawJob outcome zslChannelUsed =>
    obtain ⟨done, rfl⟩ := silent_eq_some stepped
    exact .silent (inv.of_alone (doRawJob_alone done))
  | doReprocess call =>
    obtain ⟨done, rfl⟩ := silent_eq_some stepped
    exact .silent (inv.doReprocess accepted done)
  | submit isAccepted =>
    obtain ⟨done, rfl⟩ := silent_eq_some stepped
    exact .silent (inv.submit accepted done)
  | start needReprocess memory =>
    obtain ⟨done, rfl⟩ := silent_eq_some stepped
    unfold PostProcessor.start at done
    split at done
    · rename_i idle
      simp only at done
      split at done
      · rename_i needed
        cases done
        refine .silent (inv.of_alone (.of_same rfl ?_ rfl rfl))
        exact (accepted idle needed).symm
      · cases done
        exact .silent (inv.of_alone (.of_same rfl rfl rfl rfl))
    · cases done
  | stop memory =>
    obtain ⟨done, rfl⟩ := silent_eq_some stepped
    unfold PostProcessor.stop at done
    split at done
    · cases done
      exact .silent (inv.of_alone (.of_same rfl rfl rfl rfl))
    · cases done
  | stopReturn =>
    obtain ⟨done, rfl⟩ := silent_eq_some stepped
    unfold PostProcessor.stopReturn at done
    split at done
    · rename_i stopped
      cases done
      refine .silent (inv.of_alone (.of_same rfl ?_ rfl rfl))
      exact (accepted stopped).symm
    · cases done

theorem PairingInv.submit_accepted (inv : PairingInv post)
    (sound : PairedStep post (.submit accepted)) :
    SubmissionsAccepted post (.submit accepted) := by
  intro submits
  cases thread : post.thread with
  | submitting job extra =>
    cases accepted with
    | true => rfl
    | false =>
      have stepped : ppStep 1 post (.submit false) = some ({ post with thread := .idle }, []) := by
        simp [ppStep, silent, PostProcessor.submit, thread]
      have left := (sound _ _ stepped).2
      have paired := inv.paired
      unfold PostProcessor.Paired at left paired
      rw [thread] at paired
      rw [paired] at left
      exact absurd (List.append_cancel_left left) (List.cons_ne_nil _ _)
  | idle | jpegJobs | rawJobs | ppJobs =>
    rw [thread] at submits
    exact absurd rfl submits

theorem PairingInv.data_selects {call : PpDataCall} (inv : PairingInv post)
    (sound : PairedStep post (.processPPData call)) :
    SubmissionsAccepted post (.processPPData call) := by
  intro submitted found makes index frame exif metadata
  obtain ⟨valid, notRaw, mallocOk⟩ := makes
  have isFirst : submitted.reprocCount = 1 :=
    inv.first submitted (inv.paired ▸ List.mem_append_left _ (List.mem_of_find?_eq_some found))
  have last : ¬ submitted.reprocCount < 1 := by
    rw [isFirst]
    exact Nat.lt_irrefl 1
  cases done : post.processPPData 1 call with
  | none =>
    simp only [PostProcessor.processPPData, found] at done
    split at done
    · cases done
    · cases done
  | some stepped =>
    obtain ⟨next, outputs⟩ := stepped
    have own := (sound next outputs done).1
    unfold PostProcessor.processPPData at done
    rw [found] at done
    simp only at done
    split at done
    · cases done
      cases own _ List.mem_cons_self
    · rename_i job dequeued
      cases done
      obtain rfl := Option.some.inj (own _ List.mem_cons_self)
      have jpeg := fun output member =>
        own output (List.mem_cons_of_mem _ member)
      simp only [PostProcessor.processPPJob, if_neg last, if_neg valid,
        if_neg notRaw, if_pos mallocOk, List.forall_mem_singleton] at jpeg
      obtain ⟨-, -, isOwn⟩ := jpeg
      refine isOwn frame ?_
      simp only [PostProcessor.jpegJobOf, PostProcessor.metadataOf, exif, releaseInput_metadata]
      exact metadata

theorem PostProcessor.QueuesJob.eq_queueJob (queues : post.QueuesJob call) :
    ∃ request source, post.doReprocess call = some (PostProcessor.queueJob call request source
        { post with
            thread := .idle
            m_inputPPQ := post.m_inputPPQ.dequeue.2 }) := by
  obtain ⟨thread, -, request, isHead, valid, isSource, mallocOk, hasChannel, copies⟩ := queues
  obtain ⟨source, isSource⟩ := Option.isSome_iff_exists.mp isSource
  refine ⟨request, source, ?_⟩
  unfold PostProcessor.doReprocess
  simp only [thread, isHead, isSource, mallocOk, hasChannel]
  rw [if_pos valid, if_neg (by decide), if_neg (by decide), if_neg copies]

theorem PairingInv.extra_fits (inv : PairingInv post)
    (sound : PairedStep post (.doReprocess call)) :
    SubmissionsAccepted post (.doReprocess call) := by
  intro queues notRegular isLast
  by_contra tooMany
  obtain ⟨request, source, done⟩ := queues.eq_queueJob
  have stepped := (sound _ [] (by rw [ppStep, silent, done]; rfl)).2
  have active := CameraQueue.active_of_accepts queues.2.1
  have paired := inv.paired
  unfold PostProcessor.Paired at stepped paired
  rw [queues.1] at paired
  have longer : ∀ job : PpJob, ¬ (PostProcessor.extraJobs call
        (post.m_bufCountPPQ + 1) job).length ≤ call.extraNodes := by
    intro job
    simpa only [PostProcessor.extraJobs, notRegular, isLast, and_self, if_true,
      List.length_map, List.length_range] using tooMany
  unfold PostProcessor.queueJob at stepped
  dsimp only at stepped
  rw [if_pos queues.2.1, if_neg (longer _)] at stepped
  dsimp only at stepped
  rw [enqueueOngoing_items active, paired] at stepped
  simp [ThreadPc.queued] at stepped

theorem PairingInv.stops_idle (sound : PairedStep post (.getCmd saveStop)) :
    SubmissionsAccepted post (.getCmd saveStop) := by
  intro thread stops waits
  obtain ⟨rest, commands⟩ := List.head?_eq_some_iff.mp stops
  have stepped : ∃ saveStopped, ppStep 1 post (.getCmd saveStop) =
        some (PostProcessor.stopDataProc saveStopped { post with cmdQueue := rest }, []) := by
    cases saveStop with
    | sent => exact ⟨true, by simp [ppStep, silent, PostProcessor.getCmd, thread, commands]⟩
    | noCommand => exact ⟨false, by simp [ppStep, silent, PostProcessor.getCmd, thread, commands]⟩
    | noNode => exact absurd rfl waits
  obtain ⟨saveStopped, stepped⟩ := stepped
  have left := (sound _ _ stepped).2
  exact (List.append_eq_nil_iff.mp left.symm).1

theorem PairingInv.pairedStep_iff (inv : PairingInv post) :
    PairedStep post event ↔ SubmissionsAccepted post event := by
  have paired := inv.paired
  unfold PostProcessor.Paired at paired
  constructor
  · intro sound
    cases event with
    | submit accepted => exact inv.submit_accepted sound
    | processPPData call => exact inv.data_selects sound
    | doReprocess call => exact inv.extra_fits sound
    | getCmd saveStop => exact PairingInv.stops_idle sound
    | start needReprocess memory =>
      intro idle needed
      have stepped : ppStep 1 post (.start needReprocess memory) = some ({ post with
                  m_PPindex := 0
                  m_InputMetadata := []
                  cmdQueue := memory.push .startDataProc post.cmdQueue
                  caller := if memory = .noCommand then .idle else .starting
                  reprocessing := []
                  m_bufCountPPQ := 0 }, []) := by
        simp [ppStep, silent, PostProcessor.start, idle, needed]
      have left := (sound _ _ stepped).2
      unfold PostProcessor.Paired at left
      rw [paired] at left
      exact List.append_left_eq_self.mp left
    | stopReturn =>
      intro stopped
      have stepped : ppStep 1 post .stopReturn = some ({ post with
                  reprocessing := []
                  m_PPindex := 0
                  m_InputMetadata := []
                  caller := .idle }, []) := by
        simp [ppStep, silent, PostProcessor.stopReturn, stopped]
      have left := (sound _ _ stepped).2
      unfold PostProcessor.Paired at left
      rw [paired] at left
      exact List.append_left_eq_self.mp left
    | processData | processRawData | processJpegEvt | dataSave
      | releaseNotifyData | sendCmd | doJpegJob | doRawJob | stop => trivial
  · intro accepted next outputs stepped
    obtain ⟨own, kept⟩ := inv.step accepted stepped
    exact ⟨own, kept.paired⟩

/--
With one reprocess channel, every result is paired with its own job and
`m_ongoingPPQ` holds exactly the submitted and unanswered jobs throughout a run
exactly when no submission fails or is left out, `getExifBufIndex` selects the
metadata of the frame, and the channel is stopped or replaced only when it works
on nothing.
-/
theorem pairingRun_sound_iff (events : List PpEvent) :
    Guarded (ppStep 1) (fun post _ event => PairedStep post event) .new [] events ↔
      Guarded (ppStep 1) (fun post _ event => SubmissionsAccepted post event) .new [] events := by
  refine guarded_iff_of_invariant PairingInv (fun inv => inv.pairedStep_iff) ?_ PairingInv.new
  intro post _ event next _ inv sound stepped
  exact (inv.step (inv.pairedStep_iff.mp sound) stepped).inv

/-- A frame of a ZSL snapshot that needs one reprocess pass. -/
def zslFrame : DataCall where
  num_bufs := 2
  hasMetadata := true
  needReprocess := true
  rawFormat := false
  isAdvCamFeaturesEnabled := false
  mallocOk := true
  node := true
  queuedBufs := [3]

/-- `doReprocess` of such a frame, up to its submission. -/
def zslReprocess : ReprocessCall where
  queuedBufs := [3]
  mallocOk := true
  hasChannel := true
  isRegularCapture := false
  newOk := true
  node := true
  inBufs := 1
  outBufs := 1
  callocs := 0
  extraNodes := 0

/-- The result of such a frame. -/
def zslResult : PpDataCall where
  pass := 1
  num_bufs := 1
  hasMetadata := false
  needSuperBufMatch := false
  rawFormat := false
  isLongshotEnabled := false
  exifBufIndex := none
  mallocOk := true
  node := true
  queuedBufs := [3]

/-- One frame on its way into `m_ongoingPPQ`. -/
def reprocessFrame (queuedBufs : List Int) : List PpEvent :=
  [.processData { zslFrame with queuedBufs }, .sendCmd .sent, .getCmd .sent,
    .doJpegJob true, .doRawJob .failed false,
    .doReprocess { zslReprocess with queuedBufs }]

/-- The submission of the first of two frames fails. -/
def failedSubmission : List PpEvent :=
  .start true .sent :: .getCmd .sent :: reprocessFrame [3] ++
    .submit false :: reprocessFrame [3] ++ [.submit true]

/-- The result of the second frame is paired with the job of the first one. -/
theorem pairingRun_failedSubmission :
    ¬ Guarded (ppStep 1) (fun post _ event => PairedStep post event)
      .new [] (failedSubmission ++ [.processPPData zslResult]) := by
  intro sound
  have taken := sound.last rfl
  have own : _ = _ := (taken _ _ rfl).1 _ List.mem_cons_self
  exact absurd (congrArg (Option.map PpJob.job) own) (by decide)

end AnglerHal.Hal1PostProc
