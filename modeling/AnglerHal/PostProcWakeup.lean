import AnglerHal.PostProcessor

namespace AnglerHal.PostProc

/-!
# No lost wake-up

Each `DO_NEXT_JOB` command handles at most one JPEG job, one framework job and
one live job.  The counting invariant says, for each of the three, that the
commands still to be handled cover the work in the input queues: the commands
in the command queue, the commands that calls in progress are about to post,
and the command in progress as long as it has not come to that kind of job.

Nothing makes up for a command that is lost for want of memory, nor for a JPEG
job that is encoded without standing in the queue of the ongoing ones.
-/

/-- The commands that are posted or about to be posted. -/
def PostProcessor.postedCommands (post : PostProcessor) : Nat :=
  post.cmdQueue.count .doNextJob + post.owed

/-- The command in progress still comes to the JPEG jobs. -/
def ThreadPc.beforeJpeg : ThreadPc → Nat
  | .jpegJobs | .jpegTaken _ | .jpegFailed _ => 1
  | _ => 0

/-- The command in progress still comes to the framework jobs. -/
def ThreadPc.beforeFwk : ThreadPc → Nat
  | .jpegJobs | .jpegTaken _ | .jpegFailed _ | .fwkJobs => 1
  | _ => 0

/-- The command in progress still comes to the live jobs. -/
def ThreadPc.beforePp : ThreadPc → Nat
  | .jpegJobs | .jpegTaken _ | .jpegFailed _ | .fwkJobs | .ppJobs => 1
  | _ => 0

/-- The live jobs whose frame and metadata have both arrived. -/
def PostProcessor.readyPpJobs (post : PostProcessor) : Nat :=
  min post.m_inputPPQ.items.length post.m_inputMetaQ.items.length

/-- The commands to come cover the work. -/
structure WakeupInvariant (post : PostProcessor) : Prop where
  pp : post.readyPpJobs ≤ post.postedCommands + post.thread.beforePp
  fwk : post.m_inputFWKPPQ.items.length ≤ post.postedCommands + post.thread.beforeFwk
  jpeg : post.m_inputJpegQ.items ≠ [] → post.m_ongoingJpegQ.items = [] →
    1 ≤ post.postedCommands + post.thread.beforeJpeg
  /-- Without `START_DATA_PROC`, every command drops a JPEG job. -/
  inactive : post.is_active = false → post.thread = .idle ∧
        post.m_inputJpegQ.items.length ≤ post.postedCommands
  /-- The queue of the encoder is never switched off. -/
  encoder : post.m_ongoingJpegQ.m_active = true

/-- No `DO_NEXT_JOB` is in the queue, in progress or about to be posted. -/
structure PostProcessor.NoCommandLeft (post : PostProcessor) : Prop where
  posted : Cmd.doNextJob ∉ post.cmdQueue
  owed : post.owed = 0
  thread : post.thread = .idle

/-- No input queue holds work that a command would handle. -/
structure PostProcessor.NoWorkLeft (post : PostProcessor) : Prop where
  pp : post.m_inputPPQ.items = [] ∨ post.m_inputMetaQ.items = []
  fwk : post.m_inputFWKPPQ.items = []
  jpeg : post.m_inputJpegQ.items = [] ∨ post.m_ongoingJpegQ.items ≠ []

variable {post before after next : PostProcessor} {memory : CallMemory}
  {emitted : List PpOutput} {outcome : JobOutcome} {job : JpegJob} {past : List PpEvent}

theorem WakeupInvariant.noWorkLeft (invariant : WakeupInvariant post)
    (noCommand : post.NoCommandLeft) :
    post.NoWorkLeft := by
  have posted : post.postedCommands = 0 := by
    rw [PostProcessor.postedCommands, noCommand.owed,
      List.count_eq_zero_of_not_mem noCommand.posted]
  have pp := invariant.pp
  have fwk := invariant.fwk
  have jpeg := invariant.jpeg
  simp only [posted, noCommand.thread, ThreadPc.beforePp,
    ThreadPc.beforeFwk, ThreadPc.beforeJpeg, PostProcessor.readyPpJobs]
    at pp fwk jpeg
  refine ⟨?_, ?_, ?_⟩
  · rcases Nat.le_or_le post.m_inputPPQ.items.length
      post.m_inputMetaQ.items.length with fewer | fewer
    · rw [Nat.min_eq_left fewer] at pp
      exact .inl (List.length_eq_zero_iff.mp (Nat.le_zero.mp pp))
    · rw [Nat.min_eq_right fewer] at pp
      exact .inr (List.length_eq_zero_iff.mp (Nat.le_zero.mp pp))
  · exact List.length_eq_zero_iff.mp (Nat.le_zero.mp fwk)
  · by_cases empty : post.m_inputJpegQ.items = []
    · exact .inl empty
    · refine .inr fun noneOngoing => ?_
      exact absurd (jpeg empty noneOngoing) (by decide)

/-! ## The condition -/

/-- The command was allocated and queued. -/
def SendMemory.isSent : SendMemory → Bool
  | .sent => true
  | .noCommand | .noNode => false

/--
A command that the step has to post gets its memory, and a JPEG job that goes
to the encoder its node.
-/
def PostProcessor.keepsCommand (post : PostProcessor) : PpEvent → Bool
  | .processData _ memory => memory.command.isSent || post.m_inputMetaQ.isEmpty
  | .processPPMetadata _ memory => memory.command.isSent || post.m_inputPPQ.isEmpty
  | .sendCmd memory => memory.isSent
  | .dataProcessRoutine outcome =>
    match post.thread with
    | .jpegTaken _ => outcome.ongoingMemory
    | .jpegFailed _ => outcome.memory.command.isSent
    | .ppTaken .. => outcome.memory.command.isSent || post.m_pReprocChannel
    | _ => true
  | _ => true

/-- The condition on a step of a run. -/
def keepsCommands (post : PostProcessor) (_ : List PpEvent) (event : PpEvent) : Prop :=
  post.keepsCommand event = true

instance (post : PostProcessor) (past : List PpEvent) (event : PpEvent) :
    Decidable (keepsCommands post past event) :=
  inferInstanceAs (Decidable (_ = _))

theorem SendMemory.eq_sent {memory : SendMemory} (isSent : memory.isSent = true) :
    memory = .sent := by
  cases memory with
  | sent => rfl
  | noCommand | noNode => cases isSent

theorem sent_or {memory : SendMemory} {other : Bool} (keeps : (memory.isSent || other) = true) :
    memory = .sent ∨ other = true :=
  (Bool.or_eq_true_iff.mp keeps).imp SendMemory.eq_sent id

/-! ## The calls of the other threads -/

theorem tryEnqueue_length {α : Type} (node : Bool) (queue : CameraQueue α) (data : α) :
    (queue.tryEnqueue node data).items.length ≤ queue.items.length + 1 := by
  rcases queue.tryEnqueue_cases node data with grown | same
  · simp [grown]
  · simp [same]

theorem count_doNextJob_snoc (commands : List Cmd) :
    (commands ++ [Cmd.doNextJob]).count Cmd.doNextJob = commands.count Cmd.doNextJob + 1 := by
  simp

/-- A command that is posted covers one more live job. -/
theorem WakeupInvariant.of_sent (invariant : WakeupInvariant before)
    (ppGrows : after.readyPpJobs ≤ before.readyPpJobs + 1)
    (sameFwk : after.m_inputFWKPPQ = before.m_inputFWKPPQ)
    (sameJpeg : after.m_inputJpegQ = before.m_inputJpegQ)
    (sameOngoing : after.m_ongoingJpegQ = before.m_ongoingJpegQ)
    (posted : after.cmdQueue = before.cmdQueue ++ [.doNextJob])
    (sameOwed : after.owed = before.owed) (sameThread : after.thread = before.thread)
    (sameActive : after.is_active = before.is_active) :
    WakeupInvariant after := by
  obtain ⟨pp, fwk, jpeg, inactive, encoder⟩ := invariant
  have oneMore : after.postedCommands = before.postedCommands + 1 := by
    simp only [PostProcessor.postedCommands, posted, count_doNextJob_snoc, sameOwed]
    omega
  refine ⟨?_, ?_, ?_, ?_, sameOngoing ▸ encoder⟩
  · rw [oneMore, sameThread]
    omega
  · rw [oneMore, sameThread, sameFwk]
    omega
  · intro _ _
    omega
  · rw [sameActive, sameThread, sameJpeg, oneMore]
    intro isInactive
    obtain ⟨idle, few⟩ := inactive isInactive
    exact ⟨idle, by omega⟩

theorem processData_wakeup (invariant : WakeupInvariant post) (buffer : PpBuffer)
    (keeps : memory.command = .sent ∨ post.m_inputMetaQ.isEmpty = true) :
    WakeupInvariant (post.processData buffer memory) := by
  have grows := tryEnqueue_length memory.node post.m_inputPPQ buffer
  unfold PostProcessor.processData
  dsimp only
  split
  · split
    · rename_i noMeta
      have empty : post.m_inputMetaQ.items = [] := by
        simpa [CameraQueue.isEmpty] using noMeta
      obtain ⟨-, fwk, jpeg, inactive, encoder⟩ := invariant
      refine ⟨?_, fwk, jpeg, inactive, encoder⟩
      simp [PostProcessor.readyPpJobs, empty]
    · rename_i someMeta
      rw [keeps.resolve_right someMeta]
      refine invariant.of_sent ?_ rfl rfl rfl rfl rfl rfl rfl
      simp only [PostProcessor.readyPpJobs, PostProcessor.sendNextJob]
      omega
  · exact ⟨invariant.pp, invariant.fwk, invariant.jpeg, invariant.inactive, invariant.encoder⟩

theorem processPPMetadata_wakeup (invariant : WakeupInvariant post) (metaBuffer : Nat)
    (keeps : memory.command = .sent ∨ post.m_inputPPQ.isEmpty = true) :
    WakeupInvariant (post.processPPMetadata metaBuffer memory) := by
  have grows := tryEnqueue_length memory.node post.m_inputMetaQ metaBuffer
  unfold PostProcessor.processPPMetadata
  dsimp only
  split
  · rename_i noFrame
    have empty : post.m_inputPPQ.items = [] := by
      simpa [CameraQueue.isEmpty] using noFrame
    obtain ⟨-, fwk, jpeg, inactive, encoder⟩ := invariant
    refine ⟨?_, fwk, jpeg, inactive, encoder⟩
    simp [PostProcessor.readyPpJobs, empty]
  · rename_i someFrame
    rw [keeps.resolve_right someFrame]
    refine invariant.of_sent ?_ rfl rfl rfl rfl rfl rfl rfl
    simp only [PostProcessor.readyPpJobs, PostProcessor.sendNextJob]
    omega

/--
A call that is about to post a command may add one framework job and one JPEG
job, and may finish any JPEG job.
-/
theorem WakeupInvariant.of_owed (invariant : WakeupInvariant before)
    (samePP : after.m_inputPPQ.items = before.m_inputPPQ.items)
    (sameMeta : after.m_inputMetaQ.items = before.m_inputMetaQ.items)
    (fwkGrows : after.m_inputFWKPPQ.items.length ≤ before.m_inputFWKPPQ.items.length + 1)
    (jpegGrows : after.m_inputJpegQ.items.length ≤ before.m_inputJpegQ.items.length + 1)
    (sameCommands : after.cmdQueue = before.cmdQueue)
    (owes : after.owed = before.owed + 1) (sameThread : after.thread = before.thread)
    (sameActive : after.is_active = before.is_active)
    (sameEncoder : after.m_ongoingJpegQ.m_active = before.m_ongoingJpegQ.m_active) :
    WakeupInvariant after := by
  obtain ⟨pp, fwk, jpeg, inactive, encoder⟩ := invariant
  simp only [PostProcessor.readyPpJobs, PostProcessor.postedCommands] at pp fwk jpeg inactive
  refine ⟨?_, ?_, ?_, ?_, sameEncoder.trans encoder⟩ <;>
    simp only [PostProcessor.readyPpJobs, PostProcessor.postedCommands,
      samePP, sameMeta, sameCommands, owes, sameThread, sameActive]
  · omega
  · omega
  · intro _ _
    omega
  · intro isInactive
    exact ⟨(inactive isInactive).1, by have := (inactive isInactive).2; omega⟩

/-- The parts of the state that the wakeups depend on. -/
def PostProcessor.wakeups (post : PostProcessor) :=
  (post.m_inputPPQ.items, post.m_inputMetaQ.items, post.m_inputFWKPPQ.items,
    post.m_inputJpegQ.items, post.m_ongoingJpegQ.items, post.m_ongoingJpegQ.m_active,
    post.cmdQueue.count .doNextJob, post.owed, post.thread, post.is_active)

theorem WakeupInvariant.of_same (invariant : WakeupInvariant before)
    (same : after.wakeups = before.wakeups) : WakeupInvariant after := by
  obtain ⟨pp, fwk, jpeg, inactive, encoder⟩ := invariant
  simp only [PostProcessor.wakeups, Prod.mk.injEq] at same
  obtain ⟨samePP, sameMeta, sameFwk, sameJpeg, sameOngoing, sameEncoder, sameCommands, sameOwed,
    sameThread, sameActive⟩ := same
  simp only [PostProcessor.readyPpJobs, PostProcessor.postedCommands] at pp fwk jpeg inactive
  refine ⟨?_, ?_, ?_, ?_, sameEncoder.trans encoder⟩ <;>
    simpa only [PostProcessor.readyPpJobs, PostProcessor.postedCommands, samePP, sameMeta,
      sameFwk, sameJpeg, sameOngoing, sameCommands, sameOwed, sameThread, sameActive]

theorem processFwkData_wakeup (invariant : WakeupInvariant post)
    (frame : FwkFrame) (memory : CallMemory) :
    WakeupInvariant (post.processFwkData frame memory) := by
  unfold PostProcessor.processFwkData
  split
  · exact invariant.of_owed rfl rfl (tryEnqueue_length _ _ _) (Nat.le_succ _) rfl rfl rfl rfl rfl
  · split
    · exact invariant.of_same rfl
    · split
      · exact invariant.of_owed rfl rfl (Nat.le_succ _) (tryEnqueue_length _ _ _)
          rfl rfl rfl rfl rfl
      · exact invariant.of_same rfl

theorem processPPData_wakeup (invariant : WakeupInvariant post)
    (frame : SuperBuf) (memory : CallMemory) :
    WakeupInvariant (post.processPPData frame memory).1 := by
  unfold PostProcessor.processPPData
  split
  · exact invariant.of_same rfl
  · split
    · exact invariant.of_same rfl
    · split
      · exact invariant.of_owed rfl rfl (Nat.le_succ _) (tryEnqueue_length _ _ _)
          rfl rfl rfl rfl rfl
      · exact invariant.of_same rfl

theorem reprocessDone_wakeup {kind : ReprocessKind} (invariant : WakeupInvariant post)
    (done : post.reprocessDone kind memory = some (next, emitted)) :
    WakeupInvariant next := by
  unfold PostProcessor.reprocessDone at done
  split at done
  · simp at done
  · rename_i job rest isReprocessing
    have taken : WakeupInvariant { post with reprocessing := rest } := invariant.of_same rfl
    cases kind with
    | jpeg =>
      cases done
      exact processPPData_wakeup taken _ _
    | yuv =>
      simp only at done
      split at done
      · cases done
        exact taken.of_same rfl
      · cases done
        exact taken.of_owed rfl rfl (Nat.le_succ _) (Nat.le_succ _) rfl rfl rfl rfl rfl

theorem jpegEvtHandle_wakeup (invariant : WakeupInvariant post) :
    WakeupInvariant post.jpegEvtHandle.1 := by
  unfold PostProcessor.jpegEvtHandle
  split
  · rename_i ongoing none
    have same : post.m_ongoingJpegQ.dequeue = (Option.none, ongoing) := none
    have empty : post.m_ongoingJpegQ.items = [] := by
      have first := congrArg Prod.fst same
      rw [CameraQueue.dequeue_fst] at first
      exact List.head?_eq_none_iff.mp first
    rw [CameraQueue.dequeue_of_nil empty] at same
    cases same
    exact invariant
  · rename_i job ongoing some
    have sameEncoder := congrArg (fun result => result.2.m_active) some
    rw [CameraQueue.dequeue_m_active] at sameEncoder
    exact invariant.of_owed rfl rfl (Nat.le_succ _) (Nat.le_succ _) rfl rfl rfl rfl sameEncoder.symm

/-! ## The data-process thread -/

theorem getCmd_wakeup (invariant : WakeupInvariant post) (idle : post.thread = .idle)
    (read : post.getCmd outcome = some (next, emitted)) :
    WakeupInvariant next := by
  obtain ⟨pp, fwk, jpeg, inactive, encoder⟩ := invariant
  simp only [PostProcessor.readyPpJobs, PostProcessor.postedCommands, idle,
    ThreadPc.beforePp, ThreadPc.beforeFwk, ThreadPc.beforeJpeg]
    at pp fwk jpeg inactive
  unfold PostProcessor.getCmd at read
  split at read
  · simp at read
  · rename_i rest queued
    cases read
    have sameCount : post.cmdQueue.count .doNextJob = rest.count .doNextJob := by
      simp [queued]
    rw [sameCount] at pp fwk jpeg
    refine ⟨?_, ?_, ?_, (fun isInactive => nomatch isInactive), encoder⟩ <;>
      simpa only [PostProcessor.readyPpJobs, PostProcessor.postedCommands,
        PostProcessor.startDataProc, CameraQueue.init_items, idle]
  · rename_i rest queued
    simp only [Option.some.injEq, PostProcessor.stopDataProc, Prod.mk.injEq] at read
    obtain ⟨rfl, -⟩ := read
    refine ⟨?_, ?_, ?_, ?_, encoder⟩ <;>
      simp [PostProcessor.readyPpJobs, idle]
  · rename_i rest queued
    have oneLess : post.cmdQueue.count .doNextJob = rest.count .doNextJob + 1 := by
      simp [queued]
    rw [oneLess] at pp fwk jpeg inactive
    split at read
    · rename_i active
      cases read
      refine ⟨?_, ?_, ?_, fun isInactive => ?_, encoder⟩
      · simp only [PostProcessor.readyPpJobs, PostProcessor.postedCommands, ThreadPc.beforePp]
        omega
      · simp only [PostProcessor.postedCommands, ThreadPc.beforeFwk]
        omega
      · simp [ThreadPc.beforeJpeg]
      · simp [active] at isInactive
    · rename_i notActive
      simp only [Option.some.injEq, PostProcessor.dropJobs, Prod.mk.injEq] at read
      obtain ⟨rfl, -⟩ := read
      have isInactive : post.is_active = false := by simpa using notActive
      have dropped := (inactive isInactive).2
      refine ⟨?_, ?_, ?_, fun _ => ⟨idle, ?_⟩, encoder⟩ <;>
        simp only [PostProcessor.readyPpJobs, PostProcessor.postedCommands,
          CameraQueue.dequeue_items, List.length_tail]
      · omega
      · omega
      · intro nonempty _
        have some := List.length_pos_iff.mpr nonempty
        rw [List.length_tail] at some
        omega
      · omega

theorem takeJpegJob_wakeup (invariant : WakeupInvariant post)
    (jpegJobs : post.thread = .jpegJobs) :
    WakeupInvariant post.takeJpegJob := by
  obtain ⟨pp, fwk, jpeg, inactive, encoder⟩ := invariant
  have active : post.is_active = true := by
    by_contra notActive
    have idle := (inactive (by simpa using notActive)).1
    simp [jpegJobs] at idle
  simp only [PostProcessor.readyPpJobs, PostProcessor.postedCommands,
    jpegJobs, ThreadPc.beforePp, ThreadPc.beforeFwk] at pp fwk
  unfold PostProcessor.takeJpegJob
  split
  · split
    · rename_i input none
      have same : post.m_inputJpegQ.dequeue = (Option.none, input) := none
      have first := congrArg Prod.fst same
      have rest := congrArg (fun result => result.2.items) same
      simp only [CameraQueue.dequeue_fst, CameraQueue.dequeue_items,
        List.head?_eq_none_iff] at first rest
      refine ⟨pp, fwk, ?_, fun isInactive => ?_, encoder⟩
      · intro nonempty
        exact absurd (by rw [← rest, first]; rfl) nonempty
      · simp [active] at isInactive
    · refine ⟨pp, fwk, ?_, fun isInactive => ?_, encoder⟩
      · intro _ _
        simp [ThreadPc.beforeJpeg]
      · simp [active] at isInactive
  · rename_i ongoing
    refine ⟨pp, fwk, ?_, fun isInactive => ?_, encoder⟩
    · intro _ empty
      have isEmpty : post.m_ongoingJpegQ.items = [] := empty
      simp [CameraQueue.isEmpty, isEmpty] at ongoing
    · simp [active] at isInactive

theorem WakeupInvariant.active {post : PostProcessor} (invariant : WakeupInvariant post)
    (busy : post.thread ≠ .idle) :
    post.is_active = true := by
  by_contra notActive
  exact busy (invariant.inactive (by simpa using notActive)).1

theorem encodeData_wakeup (outcome : JobOutcome) (invariant : WakeupInvariant post)
    (taken : post.thread = .jpegTaken job) (memory : outcome.ongoingMemory = true) :
    WakeupInvariant (post.encodeData outcome job).1 := by
  have active := invariant.active (by simp [taken])
  obtain ⟨pp, fwk, jpeg, -, encoder⟩ := invariant
  simp only [PostProcessor.readyPpJobs, PostProcessor.postedCommands, taken,
    ThreadPc.beforePp, ThreadPc.beforeFwk] at pp fwk
  unfold PostProcessor.encodeData
  rw [memory]
  dsimp only [CameraQueue.tryEnqueue_true]
  have started := CameraQueue.enqueue_of_active encoder job
  split
  · refine ⟨pp, fwk, ?_, fun isInactive => ?_, started.2⟩
    · intro _ empty
      have isEmpty : (post.m_ongoingJpegQ.enqueue job).items = [] := empty
      simp [started.1] at isEmpty
    · simp [active] at isInactive
  · refine ⟨pp, fwk, ?_, fun isInactive => ?_, started.2⟩
    · intro _ _
      simp [ThreadPc.beforeJpeg]
    · simp [active] at isInactive

theorem encodeFailed_wakeup (invariant : WakeupInvariant post)
    (failed : post.thread = .jpegFailed job) (sent : outcome.memory.command = .sent) :
    WakeupInvariant (post.encodeFailed outcome job).1 := by
  have active := invariant.active (by simp [failed])
  obtain ⟨pp, fwk, jpeg, -, encoder⟩ := invariant
  simp only [PostProcessor.readyPpJobs, PostProcessor.postedCommands, failed,
    ThreadPc.beforePp, ThreadPc.beforeFwk] at pp fwk
  unfold PostProcessor.encodeFailed
  rw [sent]
  dsimp only [PostProcessor.sendNextJob, SendMemory.push]
  refine ⟨?_, ?_, ?_, fun isInactive => ?_, encoder⟩
  · simp only [PostProcessor.readyPpJobs, PostProcessor.postedCommands,
      count_doNextJob_snoc, ThreadPc.beforePp]
    omega
  · simp only [PostProcessor.postedCommands, count_doNextJob_snoc, ThreadPc.beforeFwk]
    omega
  · intro _ _
    simp only [PostProcessor.postedCommands, count_doNextJob_snoc]
    omega
  · simp [active] at isInactive

theorem doFwkJob_shape (post : PostProcessor) (outcome : JobOutcome) :
    (post.doFwkJob outcome).1.m_inputFWKPPQ.items = post.m_inputFWKPPQ.items.tail ∧
      (post.doFwkJob outcome).1.m_inputPPQ = post.m_inputPPQ ∧
      (post.doFwkJob outcome).1.m_inputMetaQ = post.m_inputMetaQ ∧
      (post.doFwkJob outcome).1.m_inputJpegQ = post.m_inputJpegQ ∧
      (post.doFwkJob outcome).1.m_ongoingJpegQ = post.m_ongoingJpegQ ∧
      (post.doFwkJob outcome).1.cmdQueue = post.cmdQueue ∧
      (post.doFwkJob outcome).1.owed = post.owed ∧
      (post.doFwkJob outcome).1.is_active = post.is_active ∧
      (post.doFwkJob outcome).1.thread = .ppJobs := by
  have rest := post.m_inputFWKPPQ.dequeue_items
  unfold PostProcessor.doFwkJob
  split <;> rename_i taken <;> rw [taken] at rest
  · exact ⟨rest, rfl, rfl, rfl, rfl, rfl, rfl, rfl, rfl⟩
  · dsimp only
    split
    · exact ⟨rest, rfl, rfl, rfl, rfl, rfl, rfl, rfl, rfl⟩
    · split
      · split <;> exact ⟨rest, rfl, rfl, rfl, rfl, rfl, rfl, rfl, rfl⟩
      · exact ⟨rest, rfl, rfl, rfl, rfl, rfl, rfl, rfl, rfl⟩

theorem doFwkJob_wakeup (outcome : JobOutcome) (invariant : WakeupInvariant post)
    (fwkJobs : post.thread = .fwkJobs) :
    WakeupInvariant (post.doFwkJob outcome).1 := by
  have active := invariant.active (by simp [fwkJobs])
  obtain ⟨pp, fwk, jpeg, -, encoder⟩ := invariant
  obtain ⟨fwkRest, samePP, sameMeta, sameJpeg, sameOngoing, sameCommands,
    sameOwed, sameActive, thread⟩ := doFwkJob_shape post outcome
  simp only [PostProcessor.readyPpJobs, PostProcessor.postedCommands,
    fwkJobs, ThreadPc.beforePp, ThreadPc.beforeFwk, ThreadPc.beforeJpeg]
    at pp fwk jpeg
  refine ⟨?_, ?_, ?_, fun isInactive => ?_, sameOngoing ▸ encoder⟩
  · simpa only [PostProcessor.readyPpJobs, PostProcessor.postedCommands,
      samePP, sameMeta, sameCommands, sameOwed, thread]
  · simp only [PostProcessor.postedCommands, fwkRest, List.length_tail,
      sameCommands, sameOwed, thread, ThreadPc.beforeFwk]
    omega
  · simpa only [PostProcessor.postedCommands, sameJpeg, sameOngoing, sameCommands, sameOwed, thread]
  · rw [sameActive, active] at isInactive
    cases isInactive

theorem takePpJob_wakeup (invariant : WakeupInvariant post)
    (ppJobs : post.thread = .ppJobs) :
    WakeupInvariant post.takePpJob := by
  have active := invariant.active (by simp [ppJobs])
  obtain ⟨pp, fwk, jpeg, -, encoder⟩ := invariant
  have frames := post.m_inputPPQ.dequeue_items
  have metas := post.m_inputMetaQ.dequeue_items
  simp only [PostProcessor.readyPpJobs, PostProcessor.postedCommands, ppJobs,
    ThreadPc.beforePp, ThreadPc.beforeFwk, ThreadPc.beforeJpeg]
    at pp fwk jpeg
  unfold PostProcessor.takePpJob
  split
  · rename_i buffer inputPP metaBuffer inputMeta frame metadata
    rw [frame] at frames
    rw [metadata] at metas
    dsimp only at frames metas
    refine ⟨?_, fwk, jpeg, fun isInactive => ?_, encoder⟩
    · simp only [PostProcessor.readyPpJobs, PostProcessor.postedCommands,
        frames, metas, List.length_tail, ThreadPc.beforePp]
      omega
    · simp [active] at isInactive
  · rename_i notBoth
    refine ⟨?_, fwk, jpeg, fun isInactive => ?_, encoder⟩
    · have noneReady : post.readyPpJobs = 0 := by
        cases frame : post.m_inputPPQ.items with
        | nil => simp [PostProcessor.readyPpJobs, frame]
        | cons buffer frames =>
          cases metadata : post.m_inputMetaQ.items with
          | nil => simp [PostProcessor.readyPpJobs, metadata]
          | cons metaBuffer metas =>
            exact (notBoth buffer _ metaBuffer _
              (Prod.ext (CameraQueue.dequeue_of_cons frame).1 rfl)
              (Prod.ext (CameraQueue.dequeue_of_cons metadata).1 rfl)).elim
      exact noneReady ▸ Nat.zero_le _
    · simp [active] at isInactive

theorem WakeupInvariant.of_posted {left : Nat} (invariant : WakeupInvariant post)
    (owed : post.owed = left + 1) :
    WakeupInvariant { post with
          owed := left
          cmdQueue := post.cmdQueue ++ [Cmd.doNextJob] } := by
  obtain ⟨pp, fwk, jpeg, inactive, encoder⟩ := invariant
  simp only [PostProcessor.readyPpJobs, PostProcessor.postedCommands, owed] at pp fwk jpeg inactive
  refine ⟨?_, ?_, ?_, ?_, encoder⟩ <;>
    simp only [PostProcessor.readyPpJobs, PostProcessor.postedCommands, count_doNextJob_snoc]
  · omega
  · omega
  · intro nonempty empty
    have some := jpeg nonempty empty
    omega
  · intro isInactive
    obtain ⟨idle, few⟩ := inactive isInactive
    exact ⟨idle, by omega⟩

theorem processPPData_owed {frame : SuperBuf}
    (processed : post.processPPData frame memory = (next, emitted, true)) :
    next.owed = post.owed + 1 := by
  unfold PostProcessor.processPPData at processed
  split at processed
  · simp at processed
  · split at processed
    · simp at processed
    · split at processed
      · simp only [Prod.mk.injEq] at processed
        rw [← processed.1]
      · simp at processed

theorem doPpJob_wakeup {buffer : PpBuffer} {metaBuffer : Nat}
    {settings : Option JpegSettings} (invariant : WakeupInvariant post)
    (taken : post.thread = .ppTaken buffer metaBuffer settings)
    (keeps : outcome.memory.command = .sent ∨ post.m_pReprocChannel = true) :
    WakeupInvariant (post.doPpJob outcome buffer metaBuffer settings).1 := by
  have active := invariant.active (by simp [taken])
  have queued : ∀ ongoing reprocessing nextJob, WakeupInvariant { post with
              m_ongoingPPQ := ongoing
              reprocessing := reprocessing
              nextJob := nextJob
              thread := .idle } := by
    intro ongoing reprocessing nextJob
    obtain ⟨pp, fwk, jpeg, -, encoder⟩ := invariant
    simp only [taken, ThreadPc.beforePp, ThreadPc.beforeFwk, ThreadPc.beforeJpeg] at pp fwk jpeg
    refine ⟨pp, fwk, jpeg, fun isInactive => ?_, encoder⟩
    simp [active] at isInactive
  unfold PostProcessor.doPpJob
  dsimp only
  split
  · exact queued _ _ _
  · split
    · split
      · split
        · exact queued _ _ _
        · exact queued _ _ _
      · exact queued _ _ _
    · rename_i noChannel
      have processed := processPPData_wakeup (queued (post.m_ongoingPPQ.tryEnqueue
          outcome.ongoingMemory (ppJobOf post.nextJob buffer metaBuffer settings))
          post.reprocessing (post.nextJob + 1)) (.live buffer.input) outcome.memory
      rw [keeps.resolve_right noChannel]
      split
      · rename_i next emitted done
        have owes := processPPData_owed done
        rw [show PostProcessor.processPPData _ _ _ = _ from done] at processed
        refine processed.of_posted ?_
        dsimp only at owes ⊢
        omega
      · rename_i next emitted done
        rw [show PostProcessor.processPPData _ _ _ = _ from done] at processed
        exact processed

/-! ## Runs -/

theorem start_wakeup (outcome : StartOutcome) (memory : SendMemory)
    (invariant : WakeupInvariant post) :
    WakeupInvariant (post.start outcome memory) := by
  cases outcome <;> cases memory <;>
    exact invariant.of_same
      (by simp [PostProcessor.wakeups, PostProcessor.start, SendMemory.push])

theorem stop_wakeup (memory : SendMemory) (invariant : WakeupInvariant post) :
    WakeupInvariant (post.stop memory) := by
  cases memory <;>
    exact invariant.of_same (by simp [PostProcessor.wakeups, PostProcessor.stop])

/-- A step of the data-process thread. -/
theorem dataProcessRoutine_wakeup (invariant : WakeupInvariant post)
    (keeps : keepsCommands post past (.dataProcessRoutine outcome))
    (stepped : post.dataProcessRoutine outcome = some (next, emitted)) :
    WakeupInvariant next := by
  unfold PostProcessor.dataProcessRoutine at stepped
  simp only [keepsCommands, PostProcessor.keepsCommand] at keeps
  split at stepped
  · rename_i idle
    exact getCmd_wakeup invariant idle stepped
  · rename_i jpegJobs
    cases stepped
    exact takeJpegJob_wakeup invariant jpegJobs
  · rename_i job taken
    simp only [taken] at keeps
    have kept := encodeData_wakeup outcome invariant taken keeps
    rw [Option.some.inj stepped] at kept
    exact kept
  · rename_i job failed
    simp only [failed] at keeps
    have kept := encodeFailed_wakeup invariant failed (SendMemory.eq_sent keeps)
    rw [Option.some.inj stepped] at kept
    exact kept
  · rename_i fwkJobs
    have kept := doFwkJob_wakeup outcome invariant fwkJobs
    rw [Option.some.inj stepped] at kept
    exact kept
  · rename_i ppJobs
    split at stepped
    · cases stepped
    · cases stepped
      exact takePpJob_wakeup invariant ppJobs
  · rename_i buffer metaBuffer settings taken
    simp only [taken] at keeps
    have kept := doPpJob_wakeup invariant taken (sent_or keeps)
    rw [Option.some.inj stepped] at kept
    exact kept

theorem ppStep_wakeup {event : PpEvent} (invariant : WakeupInvariant post)
    (keeps : keepsCommands post past event)
    (stepped : ppStep post event = some (next, emitted)) :
    WakeupInvariant next := by
  cases event with
  | start outcome memory =>
    obtain ⟨-, rfl⟩ := LabelledRun.of_step stepped
    exact start_wakeup outcome memory invariant
  | stop memory =>
    obtain ⟨-, rfl⟩ := LabelledRun.of_step stepped
    exact stop_wakeup memory invariant
  | stopReturn =>
    obtain ⟨-, rfl⟩ := LabelledRun.of_step stepped
    exact invariant.of_same rfl
  | processData buffer memory =>
    simp only [ppStep] at stepped
    split at stepped
    · cases stepped
    · cases stepped
      exact processData_wakeup invariant buffer (sent_or keeps)
  | processPPMetadata metaBuffer memory =>
    simp only [ppStep] at stepped
    split at stepped
    · cases stepped
    · cases stepped
      exact processPPMetadata_wakeup invariant metaBuffer (sent_or keeps)
  | processFwkData frame memory =>
    simp only [ppStep] at stepped
    split at stepped
    · cases stepped
    · cases stepped
      exact processFwkData_wakeup invariant frame memory
  | processJpegSettingData settings memory =>
    cases stepped
    exact invariant.of_same rfl
  | reprocessDone kind memory => exact reprocessDone_wakeup invariant stepped
  | jpegEvtHandle =>
    simp only [ppStep, Option.some.injEq] at stepped
    have kept := jpegEvtHandle_wakeup invariant
    rw [stepped] at kept
    exact kept
  | sendCmd memory =>
    obtain rfl : memory = .sent := SendMemory.eq_sent keeps
    simp only [ppStep] at stepped
    split at stepped
    · cases stepped
    · rename_i left owed
      cases stepped
      exact invariant.of_posted owed
  | dataProcessRoutine outcome => exact dataProcessRoutine_wakeup invariant keeps stepped

theorem new_wakeup : WakeupInvariant .new :=
  ⟨Nat.zero_le _, Nat.zero_le _, fun nonempty => absurd rfl nonempty,
    fun _ => ⟨rfl, Nat.zero_le _⟩, rfl⟩

theorem ppRun_wakeup {events : List PpEvent} {final : PostProcessor} {log : List PpOutput}
    (guarded : LabelledRun.Guarded ppStep keepsCommands .new [] events)
    (ran : ppRun .new events = some (final, log)) :
    WakeupInvariant final :=
  LabelledRun.stateInvariant_of_guarded WakeupInvariant guarded ran new_wakeup ppStep_wakeup

/--
In every state that a run of all the threads reaches without losing a command,
no input queue holds work once no `DO_NEXT_JOB` command is left.
-/
theorem ppRun_noLostWakeup {events : List PpEvent} {final : PostProcessor} {log : List PpOutput}
    (guarded : LabelledRun.Guarded ppStep keepsCommands .new [] events)
    (ran : ppRun .new events = some (final, log))
    (noCommand : final.NoCommandLeft) :
    final.NoWorkLeft :=
  (ppRun_wakeup guarded ran).noWorkLeft noCommand

/-- Every `malloc` of a call succeeds. -/
def enough : CallMemory where
  object := true
  node := true
  command := .sent

/-- Every call out of the data-process thread succeeds. -/
def allOk : JobOutcome where
  encodeOk := true
  overrideOk := true
  submitOk := true
  jobMemory := true
  ongoingMemory := true
  memory := enough
  stopCommands := 0

/-- One live job goes to the reprocess channel, and the next frame arrives. -/
def oneJobEvents : List PpEvent :=
  [.start .channelStarted .sent, .dataProcessRoutine allOk,
    .processData ⟨1, none, 0⟩ enough, .processPPMetadata 1 enough,
    .dataProcessRoutine allOk, .dataProcessRoutine allOk,
    .dataProcessRoutine allOk, .dataProcessRoutine allOk,
    .dataProcessRoutine allOk, .processData ⟨2, none, 0⟩ enough]

/-- The second frame waits for its metadata, and no command is left. -/
theorem ppRun_noLostWakeup_waiting : ∃ final log, ppRun .new oneJobEvents = some (final, log) ∧
        final.m_inputPPQ.items = [⟨2, none, 0⟩] ∧
        final.NoCommandLeft ∧ final.NoWorkLeft :=
  ⟨_, _, rfl, rfl, ⟨by decide, rfl, rfl⟩,
    @ppRun_noLostWakeup oneJobEvents _ _ (by decide) rfl ⟨by decide, rfl, rfl⟩⟩

/-- There is no memory for the command of a frame and its metadata. -/
def lostCommandEvents : List PpEvent :=
  [.start .channelStarted .sent, .dataProcessRoutine allOk,
    .processData ⟨1, none, 0⟩ enough,
    .processPPMetadata 1 { enough with command := .noCommand }]

/-- Frame and metadata wait, and nobody tells the thread. -/
theorem ppRun_losesWakeup : ∃ final log, ppRun .new lostCommandEvents = some (final, log) ∧
        final.is_active = true ∧ final.NoCommandLeft ∧
        final.m_inputPPQ.items = [⟨1, none, 0⟩] ∧ final.m_inputMetaQ.items = [1] ∧
        ¬ final.NoWorkLeft := by
  refine ⟨_, _, rfl, rfl, ⟨by decide, rfl, rfl⟩, rfl, rfl, ?_⟩
  intro noWork
  rcases noWork.pp with noFrame | noMeta
  · cases noFrame
  · cases noMeta

end AnglerHal.PostProc
