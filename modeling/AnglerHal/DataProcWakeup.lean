import AnglerHal.ReprocPairing

namespace AnglerHal.Hal1PostProc

open LabelledRun
open PostProc (CameraQueue Cmd SendMemory)

/-!
# Wake-ups of the data process thread

A command is good for one entry of each input queue.  A JPEG job or a raw frame
comes with a command of its own.  A frame for reprocessing gets none when
`validatePostProcess` finds no free buffer: then the answer of a submitted job
owes the command.  So a submitted job, a command or the thread itself must be
left whenever a frame waits; a call that ends early loses that frame, and so
does a command without memory.
-/

/-- The post-processor as `START_DATA_PROC` leaves it. -/
def PostProcessor.started : PostProcessor :=
  PostProcessor.new.startDataProc

/-- A job that was submitted to a channel or to the encoder is not yet answered. -/
def PostProcessor.Unanswered (post : PostProcessor) : Prop :=
  post.reprocessing ≠ [] ∨ post.encoding ≠ []

/-- While the thread is active, it waits without a command only without work. -/
def PostProcessor.NoLostWork (post : PostProcessor) : Prop :=
  post.is_active = true →
  post.thread = .idle →
  .doNextJob ∉ post.cmdQueue →
  post.owed = 0 → post.m_inputJpegQ.items = [] ∧ post.m_inputRawQ.items = [] ∧
      (post.m_inputPPQ.items = [] ∨ post.Unanswered)

/-- The step loses no work. -/
def KeepsWork (passes : Nat) (post : PostProcessor) (event : PpEvent) : Prop :=
  ∀ next outputs, ppStep passes post event = some (next, outputs) → next.NoLostWork

/-- While no submitted job is unanswered, every stream has a free buffer. -/
def PostProcessor.BuffersFree (queuedBufs : List Int) (post : PostProcessor) : Prop :=
  post.Unanswered ∨ ∀ queued ∈ queuedBufs, 0 < queued

/-- `processPPData` takes the result with this job on. -/
def PpDataCall.Forwards (job : PpJob) (call : PpDataCall) : Prop :=
  ¬ (call.needSuperBufMatch = false ∧ (job.src_frame = none ∨ job.src_reproc_frame = none)) ∧
    (call.mallocOk = true ∨ call.needSuperBufMatch = false ∧ call.rawFormat = true) ∧
    call.node = true

/-- `doReprocess` makes a job for the request. -/
def ReprocessCall.Makes (request : PpRequest) (call : ReprocessCall) : Prop :=
  request.src_reproc_frame ≠ none ∧ call.mallocOk = true ∧ call.hasChannel = true ∧
    ¬ (call.isRegularCapture = true ∧ 0 < request.src_frame.num_bufs ∧ call.newOk = false) ∧
    call.node = true

/-- The extra jobs of a queued job are queued as well. -/
def ReprocessCall.QueuesExtra (count : Nat) (call : ReprocessCall) : Prop :=
  call.isRegularCapture = false → count % call.inBufs = 0 →
    min (call.outBufs - call.inBufs) call.callocs ≤ call.extraNodes

/--
Every command gets its memory, no submission fails or is left out, a call that
ends early leaves no frame waiting, and a buffer is free when no submitted job
is left; the thread stays active.
-/
def AnswersWake (post : PostProcessor) : PpEvent → Prop
  | .processData call => call.needReprocess = true → post.BuffersFree call.queuedBufs
  | .processPPData call =>
    ∀ job ∈ post.m_ongoingPPQ.items.head?, call.Forwards job ∨ post.m_inputPPQ.items = []
  | .processJpegEvt _ _ path => path ≠ .saveRefused ∨ post.m_inputPPQ.items = []
  | .doReprocess call =>
    post.thread = .ppJobs →
    ∀ request ∈ post.m_inputPPQ.items.head?, post.BuffersFree call.queuedBufs ∧
        (call.Makes request ∨ post.m_inputPPQ.items.tail = []) ∧
        call.QueuesExtra (post.m_bufCountPPQ + 1)
  | .submit accepted => accepted = true
  | .sendCmd memory => memory = .sent
  | .start .. | .stop _ | .stopReturn => False
  | _ => True

instance (post : PostProcessor) : Decidable post.Unanswered :=
  inferInstanceAs (Decidable (_ ∨ _))

instance (queuedBufs : List Int) (post : PostProcessor) : Decidable (post.BuffersFree queuedBufs) :=
  inferInstanceAs (Decidable (_ ∨ _))

instance (job : PpJob) (call : PpDataCall) : Decidable (call.Forwards job) :=
  inferInstanceAs (Decidable (_ ∧ _))

instance (request : PpRequest) (call : ReprocessCall) : Decidable (call.Makes request) :=
  inferInstanceAs (Decidable (_ ∧ _))

instance (count : Nat) (call : ReprocessCall) : Decidable (call.QueuesExtra count) :=
  inferInstanceAs (Decidable (_ → _))

instance (post : PostProcessor) (event : PpEvent) : Decidable (AnswersWake post event) :=
  match event with
  | .processData _ | .doReprocess _ => inferInstanceAs (Decidable (_ → _))
  | .processPPData _ => inferInstanceAs (Decidable (∀ job ∈ post.m_ongoingPPQ.items.head?, _))
  | .processJpegEvt _ _ _ => inferInstanceAs (Decidable (_ ∨ _))
  | .submit _ | .sendCmd _ => inferInstanceAs (Decidable (_ = _))
  | .start .. | .stop _ | .stopReturn => inferInstanceAs (Decidable False)
  | .processRawData .. | .dataSave _ | .releaseNotifyData | .getCmd _ | .doJpegJob _
  | .doRawJob .. => inferInstanceAs (Decidable True)

/-! ## What is left for the thread -/

/-- The commands that are sent or owed. -/
def PostProcessor.pending (post : PostProcessor) : Nat :=
  post.cmdQueue.length + post.owed

/-- The queues that `START_DATA_PROC` switches on. -/
structure PostProcessor.QueuesOn (post : PostProcessor) : Prop where
  pp : post.m_inputPPQ.m_active = true
  ongoing : post.m_ongoingPPQ.m_active = true
  jpeg : post.m_inputJpegQ.m_active = true
  raw : post.m_inputRawQ.m_active = true

/-- The command in hand is still good for a JPEG job. -/
def ThreadPc.takesJpeg : ThreadPc → Nat
  | .jpegJobs => 1
  | _ => 0

/-- The command in hand is still good for a raw frame. -/
def ThreadPc.takesRaw : ThreadPc → Nat
  | .jpegJobs | .rawJobs => 1
  | _ => 0

/-- Somebody will look at `m_inputPPQ` again. -/
def PostProcessor.Attended (post : PostProcessor) : Prop :=
  0 < post.pending ∨ post.thread ≠ .idle ∨ post.Unanswered

/-- There is a command for each JPEG job and raw frame, and a job for each answer. -/
structure Supplied (post : PostProcessor) : Prop where
  active : post.is_active = true
  commands : ∀ cmd ∈ post.cmdQueue, cmd = .doNextJob
  queues : post.QueuesOn
  jpeg : post.m_inputJpegQ.items.length ≤ post.pending + post.thread.takesJpeg
  raw : post.m_inputRawQ.items.length ≤ post.pending + post.thread.takesRaw
  ongoing : post.m_ongoingPPQ.items.length = post.reprocessing.length + post.thread.queued.length

/-- What steps that meet the condition keep. -/
structure WakeInv (post : PostProcessor) : Prop where
  supplied : Supplied post
  pp : post.m_inputPPQ.items = [] ∨ post.Attended

theorem WakeInv.started : WakeInv .started where
  supplied :=
    { active := rfl
      commands := fun _ member => nomatch member
      queues := ⟨rfl, rfl, rfl, rfl⟩
      jpeg := Nat.le_refl 0
      raw := Nat.le_refl 0
      ongoing := rfl }
  pp := .inl rfl

variable {post next : PostProcessor}

theorem WakeInv.noLostWork (inv : WakeInv post) :
    post.NoLostWork := by
  intro _ idle noCommand noneOwed
  have commands : post.cmdQueue = [] := by
    refine List.eq_nil_iff_forall_not_mem.mpr ?_
    intro cmd member
    exact noCommand (inv.supplied.commands cmd member ▸ member)
  have nonePending : post.pending = 0 := by
    unfold PostProcessor.pending
    rw [commands, noneOwed]
    rfl
  have jpeg := inv.supplied.jpeg
  have raw := inv.supplied.raw
  rw [nonePending, idle] at jpeg raw
  refine ⟨List.length_eq_zero_iff.mp (Nat.le_zero.mp jpeg),
    List.length_eq_zero_iff.mp (Nat.le_zero.mp raw), ?_⟩
  rcases inv.pp with empty | pending | busy | unanswered
  · exact .inl empty
  · rw [nonePending] at pending
    exact absurd pending (Nat.lt_irrefl 0)
  · exact absurd idle busy
  · exact .inr unanswered

theorem Supplied.attended_of_refused (supplied : Supplied post) {queuedBufs : List Int}
    {frame : SuperBuf} {asked : PostProcessor}
    (sameOngoing : asked.m_ongoingPPQ = post.m_ongoingPPQ)
    (free : post.BuffersFree queuedBufs)
    (refused : asked.validatePostProcess queuedBufs frame = false) :
    post.Unanswered ∨ post.thread.queued ≠ [] := by
  rcases free with unanswered | free
  · exact .inl unanswered
  · unfold PostProcessor.validatePostProcess at refused
    obtain ⟨-, someFull⟩ := Bool.or_eq_false_iff.mp refused
    rw [Bool.not_eq_false', List.any_eq_true] at someFull
    obtain ⟨queued, member, full⟩ := someFull
    have isFull := of_decide_eq_true (Bool.and_eq_true_iff.mp full).2
    have positive := free queued member
    have ongoing := supplied.ongoing
    rw [sameOngoing] at isFull
    by_cases working : post.reprocessing = []
    · right
      intro none
      rw [working, none] at ongoing
      rw [ongoing] at isFull
      exact absurd (Int.lt_of_lt_of_le positive isFull) (Int.lt_irrefl 0)
    · exact .inl (.inl working)

theorem ThreadPc.ne_idle_of_queued {thread : ThreadPc} (queued : thread.queued ≠ []) :
    thread ≠ .idle := by
  rintro rfl
  exact queued rfl

/-! ## Calls of the other threads -/

/--
A call that leaves the thread alone and sends a command for each JPEG job and
raw frame that it queues.
-/
structure Feeds (post next : PostProcessor) : Prop where
  active : next.is_active = post.is_active
  commands : next.cmdQueue = post.cmdQueue
  thread : next.thread = post.thread
  queues : post.QueuesOn → next.QueuesOn
  owed : post.owed ≤ next.owed
  jpeg : next.m_inputJpegQ.items.length + post.owed ≤ post.m_inputJpegQ.items.length + next.owed
  raw : next.m_inputRawQ.items.length + post.owed ≤ post.m_inputRawQ.items.length + next.owed
  ongoing : next.m_ongoingPPQ.items.length + post.reprocessing.length =
      post.m_ongoingPPQ.items.length + next.reprocessing.length

theorem Supplied.of_feeds (supplied : Supplied post) (feeds : Feeds post next) :
    Supplied next := by
  refine ⟨feeds.active.trans supplied.active, ?_, feeds.queues supplied.queues, ?_, ?_, ?_⟩
  · rw [feeds.commands]
    exact supplied.commands
  · have before := supplied.jpeg
    have grown := feeds.jpeg
    unfold PostProcessor.pending at before ⊢
    rw [feeds.commands, feeds.thread]
    omega
  · have before := supplied.raw
    have grown := feeds.raw
    unfold PostProcessor.pending at before ⊢
    rw [feeds.commands, feeds.thread]
    omega
  · have before := supplied.ongoing
    have changed := feeds.ongoing
    rw [feeds.thread]
    omega

theorem Feeds.attended (feeds : Feeds post next) (unanswered : post.Unanswered → next.Unanswered)
    (attended : post.Attended) :
    next.Attended := by
  rcases attended with pending | busy | isUnanswered
  · left
    refine Nat.lt_of_lt_of_le pending ?_
    unfold PostProcessor.pending
    rw [feeds.commands]
    exact Nat.add_le_add_left feeds.owed _
  · exact .inr (.inl (feeds.thread ▸ busy))
  · exact .inr (.inr (unanswered isUnanswered))

theorem WakeInv.of_feeds (inv : WakeInv post) (feeds : Feeds post next)
    (samePp : next.m_inputPPQ = post.m_inputPPQ)
    (unanswered : post.Unanswered → next.Unanswered) :
    WakeInv next := by
  refine ⟨inv.supplied.of_feeds feeds, ?_⟩
  rw [samePp]
  exact inv.pp.imp_right (feeds.attended unanswered)

/-- The parts of the state that feeding may change. -/
def PostProcessor.fed (post : PostProcessor) :=
  (post.is_active, post.cmdQueue, post.thread, post.owed, post.m_inputJpegQ, post.m_inputRawQ,
    post.m_inputPPQ, post.m_ongoingPPQ, post.reprocessing)

theorem Feeds.of_same (same : next.fed = post.fed) : Feeds post next := by
  simp only [PostProcessor.fed, Prod.mk.injEq] at same
  obtain ⟨active, commands, thread, owed, jpeg, raw, pp, ongoing, reprocessing⟩ := same
  exact { active, commands, thread,
          queues := fun ⟨ppOn, ongoingOn, jpegOn, rawOn⟩ =>
            ⟨pp ▸ ppOn, ongoing ▸ ongoingOn, jpeg ▸ jpegOn, raw ▸ rawOn⟩
          owed := Nat.le_of_eq owed.symm
          jpeg := Nat.le_of_eq (by rw [jpeg, owed])
          raw := Nat.le_of_eq (by rw [raw, owed])
          ongoing := by rw [ongoing, reprocessing] }

theorem Feeds.trans {last : PostProcessor} (one : Feeds post next) (two : Feeds next last) :
    Feeds post last where
  active := two.active.trans one.active
  commands := two.commands.trans one.commands
  thread := two.thread.trans one.thread
  queues := fun on => two.queues (one.queues on)
  owed := Nat.le_trans one.owed two.owed
  jpeg := by
    have first := one.jpeg
    have second := two.jpeg
    omega
  raw := by
    have first := one.raw
    have second := two.raw
    omega
  ongoing := by
    have first := one.ongoing
    have second := two.ongoing
    omega

theorem enqueue_length {α : Type} {queue : CameraQueue α} (active : queue.m_active = true)
    (data : α) :
    (queue.enqueue data).items.length = queue.items.length + 1 := by
  rw [(CameraQueue.enqueue_of_active active data).1, List.length_append]
  rfl

theorem attended_of_owed {count : Nat} (owed : next.owed = count + 1) :
    next.Attended := by
  left
  unfold PostProcessor.pending
  rw [owed]
  exact Nat.succ_pos _

theorem record_feeds (change : Ledger → Ledger) : Feeds post (post.record change) :=
  .of_same rfl

theorem processRawData_feeds (node : Bool) (frame : SuperBuf) :
    Feeds post (post.processRawData node frame) := by
  unfold PostProcessor.processRawData
  split
  · rename_i accepts
    have rawOn := CameraQueue.active_of_accepts accepts
    exact
      { active := rfl
        commands := rfl
        thread := rfl
        queues := fun on =>
          ⟨on.pp, on.ongoing, on.jpeg,
            (CameraQueue.enqueue_of_active rawOn frame).2⟩
        owed := Nat.le_succ _
        jpeg := Nat.le_succ _
        raw := Nat.le_of_eq
          ((congrArg (· + post.owed) (enqueue_length rawOn frame)).trans
            (Nat.succ_add_eq_add_succ _ _))
        ongoing := rfl }
  · exact record_feeds _

theorem enqueueJpeg_feeds (node : Bool) (job : JpegJob) :
    Feeds post (post.enqueueJpeg node job) := by
  unfold PostProcessor.enqueueJpeg
  split
  · rename_i accepts
    have jpegOn := CameraQueue.active_of_accepts accepts
    exact
      { active := rfl
        commands := rfl
        thread := rfl
        queues := fun on =>
          ⟨on.pp, on.ongoing, (CameraQueue.enqueue_of_active jpegOn job).2,
            on.raw⟩
        owed := Nat.le_succ _
        jpeg := Nat.le_of_eq
          ((congrArg (· + post.owed) (enqueue_length jpegOn job)).trans
            (Nat.succ_add_eq_add_succ _ _))
        raw := Nat.le_succ _
        ongoing := rfl }
  · exact record_feeds _

theorem trigger_feeds (triggerEvent : Bool) :
    Feeds post (post.trigger triggerEvent) := by
  unfold PostProcessor.trigger
  split
  · exact
      { active := rfl
        commands := rfl
        thread := rfl
        queues := fun ⟨pp, ongoing, jpeg, raw⟩ => ⟨pp, ongoing, jpeg, raw⟩
        owed := Nat.le_succ _
        jpeg := Nat.le_succ _
        raw := Nat.le_succ _
        ongoing := rfl }
  · exact .of_same rfl

theorem enqueuePp_keeps {call : DataCall} (frame : SuperBuf) (inv : WakeInv post)
    (free : post.BuffersFree call.queuedBufs) :
    WakeInv (post.enqueuePp call frame) := by
  have ppOn := inv.supplied.queues.pp
  have stillOn := (CameraQueue.enqueue_of_active ppOn ⟨0, frame, some frame⟩).2
  have queued : Feeds post { post with
          m_inputPPQ := post.m_inputPPQ.enqueue ⟨0, frame, some frame⟩
          m_InputMetadata :=
            post.m_InputMetadata ++ call.inputMetadata frame } :=
    { active := rfl
      commands := rfl
      thread := rfl
      queues := fun on => ⟨stillOn, on.ongoing, on.jpeg, on.raw⟩
      owed := Nat.le_refl _
      jpeg := Nat.le_refl _
      raw := Nat.le_refl _
      ongoing := rfl }
  unfold PostProcessor.enqueuePp
  split
  · refine ⟨inv.supplied.of_feeds (queued.trans (trigger_feeds _)), .inr ?_⟩
    unfold PostProcessor.trigger
    simp only
    split
    · exact attended_of_owed rfl
    · rename_i refused
      have isRefused := (Bool.not_eq_true _).mp refused
      have attended := inv.supplied.attended_of_refused (by rfl) free isRefused
      rcases attended with unanswered | submits
      · exact .inr (.inr unanswered)
      · exact .inr (.inl (ThreadPc.ne_idle_of_queued submits))
  -- the frame is given back
  · exact inv.of_feeds (record_feeds _) rfl id

theorem WakeInv.of_attended (supplied : Supplied post) (feeds : Feeds post next)
    (attended : next.Attended) :
    WakeInv next :=
  ⟨supplied.of_feeds feeds, .inr attended⟩

/-- A frame for `processRawData` brings its command, or is given back. -/
theorem WakeInv.processRawData (inv : WakeInv post) (node : Bool) (frame : SuperBuf) :
    WakeInv (post.processRawData node frame) := by
  have feeds := @processRawData_feeds post node frame
  unfold PostProcessor.processRawData at feeds ⊢
  split
  · rename_i accepts
    rw [if_pos accepts] at feeds
    exact .of_attended inv.supplied feeds (attended_of_owed rfl)
  · exact inv.of_feeds (record_feeds _) rfl id

theorem WakeInv.enqueueJpeg (inv : WakeInv post) (node : Bool) (job : JpegJob) :
    WakeInv (post.enqueueJpeg node job) := by
  have feeds := @enqueueJpeg_feeds post node job
  unfold PostProcessor.enqueueJpeg at feeds ⊢
  split
  · rename_i accepts
    rw [if_pos accepts] at feeds
    exact .of_attended inv.supplied feeds (attended_of_owed rfl)
  · exact inv.of_feeds (record_feeds _) rfl id

theorem processRawData_attended (frame : SuperBuf) (on : post.QueuesOn) :
    (post.processRawData true frame).Attended := by
  unfold PostProcessor.processRawData
  rw [if_pos (by simp [CameraQueue.accepts, on.raw])]
  exact attended_of_owed rfl

theorem enqueueJpeg_attended (job : JpegJob) (on : post.QueuesOn) :
    (post.enqueueJpeg true job).Attended := by
  unfold PostProcessor.enqueueJpeg
  rw [if_pos (by simp [CameraQueue.accepts, on.jpeg])]
  exact attended_of_owed rfl

theorem hand_feeds : Feeds post post.hand :=
  .of_same rfl

theorem WakeInv.processData {call : DataCall} (inv : WakeInv post)
    (wakes : AnswersWake post (.processData call)) :
    WakeInv (post.processData call) := by
  have handed : WakeInv post.hand := inv.of_feeds hand_feeds rfl id
  unfold PostProcessor.processData
  split
  · rename_i needed
    split
    · exact enqueuePp_keeps _ handed (wakes needed)
    · exact handed
  · split
    · have raw := handed.supplied.of_feeds (processRawData_feeds call.node
          ⟨post.ledger.handed, false, call.num_bufs, call.hasMetadata⟩)
      exact .of_attended raw (trigger_feeds true) (attended_of_owed rfl)
    · split
      · exact handed.enqueueJpeg _ _
      · exact handed

/-! ## Results -/

variable {result : SuperBuf} {call : PpDataCall} {job : PpJob} {passes : Nat}
  {outputs : List PpOutput} {found : Bool}

theorem validatePostProcess_result (reprocessed : result.reprocessed = true)
    (queuedBufs : List Int) :
    post.validatePostProcess queuedBufs result = true := by
  unfold PostProcessor.validatePostProcess
  rw [reprocessed, Bool.true_or]

theorem releaseInput_feeds (job : PpJob) : Feeds post (post.releaseInput job) := by
  unfold PostProcessor.releaseInput
  split
  · split
    · exact record_feeds _
    · exact .of_same rfl
  · exact .of_same rfl

theorem releaseInput_pp (job : PpJob) : (post.releaseInput job).m_inputPPQ = post.m_inputPPQ := by
  unfold PostProcessor.releaseInput
  split
  · split
    · rfl
    · rfl
  · rfl

theorem nextPass_keeps (supplied : Supplied post)
    (reprocessed : result.reprocessed = true) (node : call.node = true) :
    WakeInv (post.nextPass call job result) := by
  have ppOn := supplied.queues.pp
  have stillOn :=
    (CameraQueue.enqueue_of_active ppOn ⟨job.reprocCount, result, job.src_reproc_frame⟩).2
  have queued : Feeds post { post with
          m_inputPPQ :=
            post.m_inputPPQ.enqueue ⟨job.reprocCount, result, job.src_reproc_frame⟩ } :=
    { active := rfl
      commands := rfl
      thread := rfl
      queues := fun on => ⟨stillOn, on.ongoing, on.jpeg, on.raw⟩
      owed := Nat.le_refl _
      jpeg := Nat.le_refl _
      raw := Nat.le_refl _
      ongoing := rfl }
  unfold PostProcessor.nextPass
  simp only [validatePostProcess_result reprocessed]
  rw [if_pos (by simp [CameraQueue.accepts, ppOn, node])]
  exact .of_attended supplied (queued.trans (trigger_feeds true)) (attended_of_owed rfl)

/-- The last pass queues a JPEG job as `processData` does. -/
theorem lastPass_eq (reprocessed : result.reprocessed = true) :
    post.lastPass call job result = { post with
        m_PPindex :=
          post.m_PPindex + call.exifBufIndex.toList.length }.enqueueJpeg call.node
        (post.jpegJobOf call job result) := by
  unfold PostProcessor.lastPass
  simp only [validatePostProcess_result reprocessed, Bool.or_true]
  rfl

theorem lastPass_keeps (supplied : Supplied post)
    (reprocessed : result.reprocessed = true) (node : call.node = true) :
    WakeInv (post.lastPass call job result) := by
  have indexed : Feeds post { post with
          m_PPindex := post.m_PPindex + call.exifBufIndex.toList.length } :=
    .of_same rfl
  have still := supplied.of_feeds indexed
  rw [lastPass_eq reprocessed, node]
  exact .of_attended still (enqueueJpeg_feeds _ _) (enqueueJpeg_attended _ still.queues)

/-- Without a node the result is given back, and nobody wakes the thread. -/
theorem nextPass_wakes (supplied : Supplied post)
    (reprocessed : result.reprocessed = true)
    (noneWaits : ¬ call.node = true → post.m_inputPPQ.items = []) :
    WakeInv (post.nextPass call job result) := by
  by_cases node : call.node = true
  · exact nextPass_keeps supplied reprocessed node
  · have waiting : WakeInv post := ⟨supplied, .inl (noneWaits node)⟩
    unfold PostProcessor.nextPass
    dsimp only
    rw [if_neg (by simp [CameraQueue.accepts, node])]
    exact waiting.of_feeds (record_feeds _) rfl id

theorem lastPass_wakes (supplied : Supplied post)
    (reprocessed : result.reprocessed = true)
    (noneWaits : ¬ call.node = true → post.m_inputPPQ.items = []) :
    WakeInv (post.lastPass call job result) := by
  by_cases node : call.node = true
  · exact lastPass_keeps supplied reprocessed node
  · have waiting : WakeInv post := ⟨supplied, .inl (noneWaits node)⟩
    have indexed : WakeInv { post with
            m_PPindex := post.m_PPindex + call.exifBufIndex.toList.length } :=
      waiting.of_feeds (.of_same rfl) rfl id
    rw [lastPass_eq reprocessed]
    exact indexed.enqueueJpeg _ _

theorem processPPJob_keeps {submitted : PpJob} (supplied : Supplied post)
    (reprocessed : result.reprocessed = true)
    (forwards : call.Forwards job ∨ post.m_inputPPQ.items = []) :
    WakeInv (post.processPPJob passes call submitted job result).1 := by
  have released : Supplied (post.releaseInput job) := supplied.of_feeds (releaseInput_feeds job)
  -- a call that ends early leaves no frame waiting
  have noneWaits : ¬ call.Forwards job → (post.releaseInput job).m_inputPPQ.items = [] := by
    intro early
    rw [releaseInput_pp]
    exact forwards.resolve_left early
  unfold PostProcessor.processPPJob
  split
  · rename_i invalid
    have early : ¬ call.Forwards job := fun forward => forward.1 invalid
    exact ⟨supplied, .inl (forwards.resolve_left early)⟩
  · split
    · have withoutJob :=
        supplied.of_feeds (record_feeds fun ledger => ledger.releaseOngoingPPData job)
      cases node : call.node with
      | true =>
        exact .of_attended withoutJob (processRawData_feeds true result)
          (processRawData_attended result withoutJob.queues)
      | false =>
        have waiting : WakeInv (post.record (·.releaseOngoingPPData job)) :=
          ⟨withoutJob, .inl (forwards.resolve_left fun forward => by
            rw [forward.2.2] at node
            cases node)⟩
        exact waiting.processRawData false result
    · rename_i notRaw
      have early : ¬ call.mallocOk = true → ¬ call.Forwards job := fun noMemory forward =>
          forward.2.1.elim noMemory notRaw
      split
      · split
        · exact nextPass_wakes released reprocessed fun noNode =>
            noneWaits fun forward => noNode forward.2.2
        · rename_i noMemory
          exact ⟨released, .inl (noneWaits (early noMemory))⟩
      · split
        · exact lastPass_wakes released reprocessed fun noNode =>
            noneWaits fun forward => noNode forward.2.2
        · rename_i noMemory
          exact ⟨released, .inl (noneWaits (early noMemory))⟩

theorem WakeInv.processPPData (inv : WakeInv post)
    (wakes : AnswersWake post (.processPPData call))
    (done : post.processPPData passes call = some (next, outputs)) :
    WakeInv next := by
  unfold PostProcessor.processPPData at done
  split at done
  · cases done
  · rename_i submitted found
    have member := List.mem_of_find?_eq_some found
    have ofPass := List.find?_some found
    have fewer :=
      List.length_eraseP_of_mem (p := fun job : PpJob => job.reprocCount == call.pass) member ofPass
    have counted := inv.supplied.ongoing
    have working : 0 < post.reprocessing.length := List.length_pos_of_mem member
    simp only at done
    split at done
    · rename_i none
      rw [CameraQueue.dequeue_fst, List.head?_eq_none_iff] at none
      rw [none] at counted
      simp only [List.length_nil] at counted
      omega
    · rename_i job dequeued
      have isHead : post.m_ongoingPPQ.items.head? = some job := by
        rw [← CameraQueue.dequeue_fst]
        exact dequeued
      have shorter : post.m_ongoingPPQ.dequeue.2.items.length + 1 =
          post.m_ongoingPPQ.items.length := by
        rw [CameraQueue.dequeue_items, List.length_tail]
        omega
      have answered : Feeds post { post.hand with
              reprocessing :=
                post.reprocessing.eraseP fun job =>
                  job.reprocCount == call.pass
              m_ongoingPPQ := post.m_ongoingPPQ.dequeue.2 } :=
        { active := rfl
          commands := rfl
          thread := rfl
          queues := fun on =>
            ⟨on.pp, (CameraQueue.dequeue_m_active _).trans on.ongoing, on.jpeg, on.raw⟩
          owed := Nat.le_refl _
          jpeg := Nat.le_refl _
          raw := Nat.le_refl _
          ongoing := by
            simp only [fewer]
            omega }
      cases done
      exact processPPJob_keeps (inv.supplied.of_feeds answered) rfl (wakes job isHead)

/-! ## Events of the encoder -/

theorem releaseJpeg_feeds (job : Nat) (found : Bool) : Feeds post (post.releaseJpeg job found) := by
  unfold PostProcessor.releaseJpeg
  split
  · exact .of_same rfl
  · exact .of_same rfl

theorem releaseJpeg_same (job : Nat) (found : Bool) :
    (post.releaseJpeg job found).m_inputPPQ = post.m_inputPPQ ∧
      (post.releaseJpeg job found).reprocessing = post.reprocessing ∧
      (post.releaseJpeg job found).encoding = post.encoding := by
  unfold PostProcessor.releaseJpeg
  split
  · exact ⟨rfl, rfl, rfl⟩
  · exact ⟨rfl, rfl, rfl⟩

theorem owe_feeds (count : Nat) : Feeds post (post.owe count) where
  active := rfl
  commands := rfl
  thread := rfl
  queues := fun ⟨pp, ongoing, jpeg, raw⟩ => ⟨pp, ongoing, jpeg, raw⟩
  owed := Nat.le_add_right _ _
  jpeg := Nat.add_le_add_left (Nat.le_add_right _ _) _
  raw := Nat.add_le_add_left (Nat.le_add_right _ _) _
  ongoing := rfl

theorem WakeInv.processJpegEvt {job : Nat} {path : JpegEvtPath} (inv : WakeInv post)
    (wakes : AnswersWake post (.processJpegEvt job found path))
    (done : post.processJpegEvt job found path = some next) :
    WakeInv next := by
  unfold PostProcessor.processJpegEvt at done
  split at done
  · have reported : Feeds post { post with encoding := post.encoding.erase job } :=
      .of_same rfl
    cases path with
    | release =>
      have released := inv.supplied.of_feeds (reported.trans (releaseJpeg_feeds job found))
      simp only at done
      split at done
      · cases done
        exact .of_attended released (owe_feeds 1) (attended_of_owed rfl)
      · cases done
        exact .of_attended released (owe_feeds 2) (attended_of_owed rfl)
    | save =>
      cases done
      have saved : Feeds post { post with
              encoding := post.encoding.erase job
              m_inputSaveQ := post.m_inputSaveQ ++ [job] } :=
        .of_same rfl
      exact .of_attended inv.supplied (saved.trans (owe_feeds 1)) (attended_of_owed rfl)
    | saveRefused =>
      cases done
      have none := wakes.resolve_left fun accepted => accepted rfl
      exact ⟨inv.supplied.of_feeds reported, .inl none⟩
  · cases done

theorem WakeInv.dataSave (inv : WakeInv post) (done : post.dataSave found = some next) :
    WakeInv next := by
  unfold PostProcessor.dataSave at done
  split at done
  · cases done
  · rename_i job rest _
    cases done
    have taken : Feeds post { post with m_inputSaveQ := rest } := .of_same rfl
    obtain ⟨samePp, sameReprocessing, sameEncoding⟩ :=
      @releaseJpeg_same { post with m_inputSaveQ := rest } job found
    refine inv.of_feeds (taken.trans (releaseJpeg_feeds job found)) samePp ?_
    unfold PostProcessor.Unanswered
    rw [sameReprocessing, sameEncoding]
    exact id

/-! ## The thread -/

theorem WakeInv.sendCmd (inv : WakeInv post) (done : post.sendCmd .sent = some next) :
    WakeInv next := by
  unfold PostProcessor.sendCmd at done
  split at done
  · cases done
  · rename_i count owed
    cases done
    obtain ⟨⟨active, commands, queues, jpeg, raw, ongoing⟩, pp⟩ := inv
    have same : PostProcessor.pending { post with
              owed := count
              cmdQueue := SendMemory.sent.push .doNextJob post.cmdQueue } =
          post.pending := by
      unfold PostProcessor.pending
      rw [owed, SendMemory.push, List.length_append]
      exact Nat.succ_add_eq_add_succ _ _
    refine ⟨⟨active, ?_, ⟨queues.pp, queues.ongoing, queues.jpeg, queues.raw⟩, ?_, ?_, ongoing⟩, ?_⟩
    · intro cmd member
      rcases List.mem_append.mp member with old | isNew
      · exact commands cmd old
      · exact List.mem_singleton.mp isNew
    · rw [same]
      exact jpeg
    · rw [same]
      exact raw
    · unfold PostProcessor.Attended at pp ⊢
      rw [same]
      exact pp

theorem WakeInv.getCmd {saveStop : SendMemory} (inv : WakeInv post)
    (done : post.getCmd saveStop = some next) :
    WakeInv next := by
  obtain ⟨⟨active, commands, queues, jpeg, raw, ongoing⟩, -⟩ := inv
  unfold PostProcessor.getCmd at done
  split at done
  · rename_i rest _ isStart
    cases commands .startDataProc (isStart ▸ List.mem_cons_self)
  · rename_i rest _ isStop
    cases commands .stopDataProc (isStop ▸ List.mem_cons_self)
  · rename_i rest idle isNext
    rw [if_pos active] at done
    cases done
    have one : post.pending = rest.length + post.owed + 1 := by
      unfold PostProcessor.pending
      rw [isNext, List.length_cons]
      omega
    rw [one, idle] at jpeg raw
    rw [idle] at ongoing
    refine ⟨⟨active, ?_, ⟨queues.pp, queues.ongoing, queues.jpeg, queues.raw⟩,
      jpeg, raw, ongoing⟩, .inr (.inr (.inl ?_))⟩
    · intro cmd member
      exact commands cmd (isNext ▸ List.mem_cons_of_mem _ member)
    · intro same
      cases same
  · cases done

theorem WakeInv.doJpegJob {encodeOk : Bool} (inv : WakeInv post)
    (done : post.doJpegJob encodeOk = some next) :
    WakeInv next := by
  obtain ⟨⟨active, commands, queues, jpeg, raw, ongoing⟩, -⟩ := inv
  unfold PostProcessor.doJpegJob at done
  split at done
  · rename_i thread
    have shorter : post.m_inputJpegQ.dequeue.2.items.length ≤ post.pending := by
      rw [CameraQueue.dequeue_items, List.length_tail]
      rw [thread] at jpeg
      exact Nat.sub_le_of_le_add jpeg
    rw [thread] at raw ongoing
    have taken : WakeInv { post with
            m_inputJpegQ := post.m_inputJpegQ.dequeue.2
            thread := .rawJobs } :=
      ⟨⟨active, commands, ⟨queues.pp, queues.ongoing,
          (CameraQueue.dequeue_m_active _).trans queues.jpeg, queues.raw⟩,
        shorter, raw, ongoing⟩, .inr (.inr (.inl fun same => nomatch same))⟩
    simp only at done
    split at done
    · cases done
      exact taken
    · cases done
      unfold PostProcessor.encodeJob
      split
      · refine taken.of_feeds (.of_same rfl) rfl ?_
        rintro (working | encoding)
        · exact .inl working
        · exact .inr fun none => encoding (List.append_eq_nil_iff.mp none).1
      · exact taken.of_feeds (record_feeds _) rfl id
  · cases done

theorem processRawImageImpl_feeds (outcome : RawOutcome) (zslChannelUsed : Bool)
    (frame : SuperBuf) :
    Feeds post (post.processRawImageImpl outcome zslChannelUsed frame).1 ∧
      (post.processRawImageImpl outcome zslChannelUsed frame).1.m_inputPPQ = post.m_inputPPQ ∧
      (post.Unanswered → (post.processRawImageImpl outcome zslChannelUsed frame).1.Unanswered) := by
  unfold PostProcessor.processRawImageImpl
  cases outcome with
  | failed | intRawEvt | notEnabled | noNotifyMemory =>
    exact ⟨.of_same rfl, rfl, id⟩
  | notifyRefused | notified =>
    simp only
    split
    · exact ⟨.of_same rfl, rfl, id⟩
    · exact ⟨.of_same rfl, rfl, id⟩

theorem WakeInv.doRawJob {outcome : RawOutcome} {zslChannelUsed : Bool} (inv : WakeInv post)
    (done : post.doRawJob outcome zslChannelUsed = some next) :
    WakeInv next := by
  obtain ⟨⟨active, commands, queues, jpeg, raw, ongoing⟩, -⟩ := inv
  unfold PostProcessor.doRawJob at done
  split at done
  · rename_i thread
    have shorter : post.m_inputRawQ.dequeue.2.items.length ≤ post.pending := by
      rw [CameraQueue.dequeue_items, List.length_tail]
      rw [thread] at raw
      exact Nat.sub_le_of_le_add raw
    rw [thread] at jpeg ongoing
    have taken : WakeInv { post with
            m_inputRawQ := post.m_inputRawQ.dequeue.2
            thread := .ppJobs } :=
      ⟨⟨active, commands, ⟨queues.pp, queues.ongoing, queues.jpeg,
          (CameraQueue.dequeue_m_active _).trans queues.raw⟩,
        jpeg, shorter, ongoing⟩, .inr (.inr (.inl fun same => nomatch same))⟩
    simp only at done
    split at done
    · cases done
      exact taken
    · rename_i frame _
      obtain ⟨feeds, samePp, unanswered⟩ :=
        @processRawImageImpl_feeds { post with
            m_inputRawQ := post.m_inputRawQ.dequeue.2
            thread := .ppJobs }
          outcome zslChannelUsed frame
      have sent := taken.of_feeds feeds samePp unanswered
      split at done
      · rename_i impl
        cases done
        rw [impl] at sent
        exact sent
      · rename_i impl
        cases done
        rw [impl] at sent
        exact sent.of_feeds (record_feeds _) rfl id
  · cases done

theorem enqueueOngoing_m_active {queue : CameraQueue PpJob} (active : queue.m_active = true)
    (jobs : List PpJob) :
    (PostProcessor.enqueueOngoing jobs queue).m_active = true := by
  induction jobs generalizing queue with
  | nil => exact active
  | cons job rest inductionHypothesis =>
    exact inductionHypothesis (CameraQueue.enqueue_of_active active job).2

theorem Supplied.queueJob {call : ReprocessCall} {request : PpRequest}
    {source : SuperBuf} (supplied : Supplied post) (idle : post.thread = .idle)
    (noneWaits : ¬ call.node = true → post.m_inputPPQ.items = [])
    (queuesExtra : call.QueuesExtra (post.m_bufCountPPQ + 1)) :
    WakeInv (post.queueJob call request source) := by
  have waiting : ¬ call.node = true → WakeInv post := fun noNode =>
    ⟨supplied, .inl (noneWaits noNode)⟩
  obtain ⟨active, commands, queues, jpeg, raw, ongoing⟩ := supplied
  unfold PostProcessor.queueJob
  simp only
  split
  · rw [if_pos (extraJobs_length queuesExtra)]
    rw [idle] at jpeg raw ongoing
    refine ⟨⟨active, commands, ⟨queues.pp, enqueueOngoing_m_active queues.ongoing _, queues.jpeg,
        queues.raw⟩, jpeg, raw, ?_⟩, .inr (.inr (.inl fun same => nomatch same))⟩
    simp only [enqueueOngoing_items queues.ongoing, List.length_append, ongoing,
      ThreadPc.queued, List.length_nil, Nat.add_zero]
  · rename_i refused
    have noNode : ¬ call.node = true := by
      simpa [CameraQueue.accepts, queues.ongoing] using refused
    refine (waiting noNode).of_feeds (.of_same ?_) rfl id
    simp only [PostProcessor.fed, PostProcessor.record, idle]

theorem WakeInv.doReprocess {call : ReprocessCall} (inv : WakeInv post)
    (wakes : AnswersWake post (.doReprocess call))
    (done : post.doReprocess call = some next) :
    WakeInv next := by
  have supplied := inv.supplied
  unfold PostProcessor.doReprocess at done
  split at done
  · rename_i thread
    have asks := wakes thread
    have idle : Supplied { post with thread := .idle } := by
      obtain ⟨active, commands, queues, jpeg, raw, ongoing⟩ := supplied
      rw [thread] at jpeg raw ongoing
      exact ⟨active, commands, ⟨queues.pp, queues.ongoing, queues.jpeg, queues.raw⟩, jpeg, raw,
        ongoing⟩
    simp only at done
    split at done
    · rename_i empty
      cases done
      exact ⟨idle, .inl (List.head?_eq_none_iff.mp empty)⟩
    · rename_i request isHead
      obtain ⟨free, makes, queuesExtra⟩ := asks request isHead
      have taken : Supplied { post with
              thread := .idle
              m_inputPPQ := post.m_inputPPQ.dequeue.2 } := by
        obtain ⟨active, commands, queues, jpeg, raw, ongoing⟩ := idle
        exact ⟨active, commands, ⟨(CameraQueue.dequeue_m_active _).trans queues.pp, queues.ongoing,
            queues.jpeg, queues.raw⟩, jpeg, raw, ongoing⟩
      -- a request that is dropped is the last one
      have lastOne : ¬ call.Makes request → post.m_inputPPQ.dequeue.2.items = [] := by
        intro dropped
        rw [CameraQueue.dequeue_items]
        exact makes.resolve_left dropped
      split at done
      · split at done
        · rename_i noSource
          cases done
          exact ⟨taken, .inl (lastOne fun made => made.1 noSource)⟩
        · split at done
          · rename_i noMemory
            cases done
            refine ⟨taken, .inl (lastOne ?_)⟩
            rintro ⟨-, mallocOk, -⟩
            rw [noMemory] at mallocOk
            cases mallocOk
          · split at done
            · rename_i noChannel
              cases done
              refine ⟨taken.of_feeds (record_feeds _), .inl (lastOne ?_)⟩
              rintro ⟨-, -, hasChannel, -⟩
              rw [noChannel] at hasChannel
              cases hasChannel
            · split at done
              · rename_i noBufs
                cases done
                exact ⟨taken, .inl (lastOne fun made => made.2.2.2.1 noBufs)⟩
              · cases done
                exact taken.queueJob rfl (fun noNode => lastOne fun made => noNode made.2.2.2.2)
                  queuesExtra
      · rename_i refused
        cases done
        refine ⟨idle, .inr (.inr (.inr ?_))⟩
        have isRefused := (Bool.not_eq_true _).mp refused
        rcases supplied.attended_of_refused rfl free isRefused with
          unanswered | submits
        · exact unanswered
        · rw [thread] at submits
          exact absurd rfl submits
  · cases done

theorem WakeInv.submit {accepted : Bool} (inv : WakeInv post) (isAccepted : accepted = true)
    (done : post.submit accepted = some next) :
    WakeInv next := by
  obtain ⟨⟨active, commands, queues, jpeg, raw, ongoing⟩, -⟩ := inv
  unfold PostProcessor.submit at done
  split at done
  · rename_i job extra thread
    rw [if_pos isAccepted] at done
    cases done
    rw [thread] at jpeg raw ongoing
    refine ⟨⟨active, commands, ⟨queues.pp, queues.ongoing, queues.jpeg, queues.raw⟩, jpeg, raw, ?_⟩,
      .inr (.inr (.inr (.inl ?_)))⟩
    · simpa [ThreadPc.queued] using ongoing
    · simp
  · cases done

theorem WakeInv.step {event : PpEvent} (inv : WakeInv post)
    (wakes : AnswersWake post event)
    (stepped : ppStep passes post event = some (next, outputs)) :
    WakeInv next := by
  cases event with
  | processData call =>
    cases stepped
    exact inv.processData wakes
  | processRawData num_bufs hasMetadata node =>
    cases stepped
    have handed : WakeInv post.hand := inv.of_feeds hand_feeds rfl id
    exact handed.processRawData node _
  | processPPData call => exact inv.processPPData wakes stepped
  | processJpegEvt job found path =>
    obtain ⟨done, rfl⟩ := silent_eq_some stepped
    exact inv.processJpegEvt wakes done
  | dataSave found =>
    obtain ⟨done, rfl⟩ := silent_eq_some stepped
    exact inv.dataSave done
  | releaseNotifyData =>
    obtain ⟨done, rfl⟩ := silent_eq_some stepped
    unfold PostProcessor.releaseNotifyData at done
    split at done
    · cases done
    · cases done
      exact inv.of_feeds (.of_same rfl) rfl id
  | sendCmd memory =>
    obtain rfl : memory = .sent := wakes
    obtain ⟨done, rfl⟩ := silent_eq_some stepped
    exact inv.sendCmd done
  | getCmd saveStop =>
    obtain ⟨done, rfl⟩ := silent_eq_some stepped
    exact inv.getCmd done
  | doJpegJob encodeOk =>
    obtain ⟨done, rfl⟩ := silent_eq_some stepped
    exact inv.doJpegJob done
  | doRawJob outcome zslChannelUsed =>
    obtain ⟨done, rfl⟩ := silent_eq_some stepped
    exact inv.doRawJob done
  | doReprocess call =>
    obtain ⟨done, rfl⟩ := silent_eq_some stepped
    exact inv.doReprocess wakes done
  | submit accepted =>
    obtain ⟨done, rfl⟩ := silent_eq_some stepped
    exact inv.submit wakes done
  | start | stop | stopReturn => exact wakes.elim

/--
While the thread is active, it never waits without a command when there is work
that no unanswered job will bring back, in every run whose steps all meet the
condition.
-/
theorem wakeRun_noLostWork (passes : Nat) (events : List PpEvent) (wakes :
      Guarded (ppStep passes) (fun post _ event => AnswersWake post event) .started [] events) :
    Guarded (ppStep passes) (fun post _ event => KeepsWork passes post event)
      .started [] events := by
  refine Guarded.of_invariant WakeInv wakes ?_ ?_ WakeInv.started
  · intro post _ event inv wakes next outputs stepped
    exact (inv.step wakes stepped).noLostWork
  · intro post _ event next _ inv wakes stepped
    exact inv.step wakes stepped

/-- A frame goes through its pass and the encoder while a second one waits. -/
def waitingFrame : List PpEvent :=
  reprocessFrame [1] ++ [.submit true, .processData { zslFrame with queuedBufs := [1] },
      .processPPData zslResult, .sendCmd .sent, .getCmd .sent, .doJpegJob true,
      .doRawJob .failed false,
      .doReprocess { zslReprocess with queuedBufs := [1] }, .submit true]

/-- The answer for the first frame wakes the thread for the second one. -/
theorem wakeRun_noLostWork_waiting : Guarded (ppStep 1) (fun post _ event => KeepsWork 1 post event)
      .started [] waitingFrame :=
  wakeRun_noLostWork 1 waitingFrame (by decide)

/-- The only buffer is free, but the submission of a frame fails. -/
def refusedFrame : List PpEvent :=
  reprocessFrame [1] ++ [.submit false]

/-- A second frame finds the job of the first one in the queue and waits forever. -/
theorem wakeRun_refused : ¬ Guarded (ppStep 1) (fun post _ event => KeepsWork 1 post event)
      .started []
      (refusedFrame ++ [.processData { zslFrame with queuedBufs := [1] }]) := by
  intro sound
  have waits := sound.last rfl
  have covered := waits _ _ rfl rfl rfl (by decide) rfl
  exact absurd covered (by decide)

end AnglerHal.Hal1PostProc
