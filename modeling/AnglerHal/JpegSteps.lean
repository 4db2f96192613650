import AnglerHal.JpegService

namespace AnglerHal.JpegService

/-!
# What one event of the JPEG service can do

`Change` lists the outcomes of an event, with what each of them has found in
the object, as long as there is memory for the nodes of `session_handle_q` and
`ongoing_job_q`.  The proofs about runs go through its cases and do not open the
functions of the service again.
-/

/--
There is memory for the node of an ongoing job and for that of a session which
is done.
-/
def hasNodes : ServiceEvent → Bool
  | .work _ memory => memory.ongoing && memory.done.handle
  | .fbd _ memory => memory.handle
  | .eventHandler _ _ memory => memory.handle
  | _ => true

/--
What `mm_jpeg_process_encoding_job` has taken for the job `node`: the session
`key`, and an output buffer if the job `taken` names one it did not name before.
-/
structure Taken (obj base : JpegObj) (queues : Nat) (key : SessionKey) (node taken : JobNode)
    (autoOutBuf : Bool) : Prop where
  todo : obj.jobQueue = node :: base.jobQueue
  home : (obj.session node.jobId.session).queues = some queues
  free : obj.sessionHandleQ queues = key :: base.sessionHandleQ queues
  otherHandles : ∀ other, other ≠ queues → base.sessionHandleQ other = obj.sessionHandleQ other
  session : base.session = obj.session
  queuesMade : base.queuesMade = obj.queuesMade
  ongoingJobQ : base.ongoingJobQ = obj.ongoingJobQ
  jobSem : base.jobSem = obj.jobSem
  thread : base.thread = .waiting
  sessionIds : base.sessionIds = obj.sessionIds
  jobId : taken.jobId = node.jobId
  output : autoOutBuf = false ∧ base.outBufQ = obj.outBufQ ∧ taken = node ∧
        0 ≤ node.encodeJob.dstIndex ∨
      autoOutBuf = true ∧ ∃ bufIdx : Nat, obj.outBufQ queues = (bufIdx + 1) :: base.outBufQ queues ∧
            (∀ other, other ≠ queues → base.outBufQ other = obj.outBufQ other) ∧
            taken.encodeJob.dstIndex = bufIdx

/-- The object once the session `key` has been given the job. -/
def submitted (config : ServiceConfig) (fails : Option EncodeStep) (key : SessionKey)
    (autoOutBuf : Bool)
    (node : JobNode)
    (obj : JpegObj) : JpegObj :=
  { obj.setSession key (mmJpegSessionEncode config fails { obj.session key with
          autoOutBuf := autoOutBuf
          encodeJob := node.encodeJob
          jobId := node.jobId }).1 with
      ongoingJobQ := obj.ongoingJobQ ++ [node] }

/-- The object with one more job id used. -/
def historyCounted (key : SessionKey) (obj : JpegObj) : JpegObj :=
  obj.setSession key { obj.session key with
    jobHist := ((obj.session key).jobHist + 1) % 2 ^ 32 }

/-- The object with one more job to do. -/
def jobStarted (key : SessionKey) (job : EncodeJob) (obj : JpegObj) : JpegObj :=
  { historyCounted key obj with
      jobQueue :=
        obj.jobQueue ++ [⟨makeJobId key (obj.session key).jobHist, job⟩]
      jobSem := obj.jobSem + 1 }

/-- The session `key` once OMX has answered for it. -/
def answered (key : SessionKey) (obj : JpegObj) : JpegObj :=
  obj.setSession key { obj.session key with omxOwes := false }

/-- The callback of a session, if it has one. -/
def callback (status : JobStatus) (session : JobSession) : List ServiceOutput :=
  if session.params.jpegCb then
    [.jpegCb status session.jobId]
  else
    []

/-- The outcomes of an event. -/
inductive Change (config : ServiceConfig) (obj : JpegObj) :
    ServiceEvent → JpegObj → List ServiceOutput → Prop
  | created (clientIdx params setups memory) (count : setups.length =
          (if params.burstMode then config.concurrentSessions else 1)) :
      Change config obj (.createSession clientIdx params setups memory)
        (mmJpegCreateSession clientIdx params setups memory obj).1
        (mmJpegCreateSession clientIdx params setups memory obj).2
  | rejected (key job memory) : Change config obj (.startJob key job memory) obj [.rejected]
  | unqueued (key job memory) :
      Change config obj (.startJob key job memory) (historyCounted key obj) [.rejected]
  | started (key job memory) (held : key ∈ obj.sessionIds)
      (dst : job.dstIndex < ((obj.session key).params.numDstBufs : Int)) :
      Change config obj (.startJob key job memory) (jobStarted key job obj)
        [.accepted (makeJobId key (obj.session key).jobHist)]
  | abortedTodo (jobId refused node rest)
      (found : removeJobByJobId jobId obj.jobQueue = some (node, rest)) :
      Change config obj (.abortJob jobId refused) { obj with jobQueue := rest } [.aborted jobId]
  | abortedOngoing (jobId refused node rest) (missing : removeJobByJobId jobId obj.jobQueue = none)
      (found : removeJobByJobId jobId obj.ongoingJobQ = some (node, rest)) :
      Change config obj (.abortJob jobId refused)
        (mmJpegSessionAbort refused (chainOf obj node.jobId.session)
          { obj with ongoingJobQ := rest }) [.aborted jobId]
  | abortedNothing (jobId refused) : Change config obj (.abortJob jobId refused) obj []
  | destroyed (key refused queues) (held : key ∈ obj.sessionIds)
      (home : (obj.session key).queues = some queues) :
      Change config obj (.destroySession key refused)
        (mmJpegDestroySession queues key refused obj).1
        (mmJpegDestroySession queues key refused obj).2
  | woken (waiting : obj.thread = .waiting) (token : 0 < obj.jobSem) : Change config obj .semWait
        { obj with thread := .woken, jobSem := obj.jobSem - 1 } []
  | full (woken : obj.thread = .woken)
      (limit : config.concurrentSessions ≤ obj.ongoingJobQ.length) :
      Change config obj .checkOngoing { obj with thread := .waiting } []
  | checked (woken : obj.thread = .woken) :
      Change config obj .checkOngoing { obj with thread := .checked } []
  | idle (fails memory) (checked : obj.thread = .checked) (empty : obj.jobQueue = []) :
      Change config obj (.work fails memory) { obj with thread := .waiting } []
  | requeued (fails memory node rest queues) (checked : obj.thread = .checked)
      (todo : obj.jobQueue = node :: rest)
      (home : (obj.session node.jobId.session).queues = some queues)
      (none : obj.sessionHandleQ queues = []) :
      Change config obj (.work fails memory) { obj with thread := .waiting } []
  | forgotten (fails memory node rest queues) (checked : obj.thread = .checked)
      (todo : obj.jobQueue = node :: rest)
      (home : (obj.session node.jobId.session).queues = some queues)
      (none : obj.sessionHandleQ queues = [])
      (noMemory : memory.requeue = false) :
      Change config obj (.work fails memory) { obj with thread := .waiting, jobQueue := rest } []
  | lost (fails memory node rest queues key handles outBufs) (checked : obj.thread = .checked)
      (todo : obj.jobQueue = node :: rest)
      (home : (obj.session node.jobId.session).queues = some queues)
      (free : obj.sessionHandleQ queues = key :: handles)
      (auto : node.encodeJob.dstIndex < 0)
      (none : deqU32 (obj.outBufQ queues) = (0, outBufs)) :
      Change config obj (.work fails memory) (((({ obj with thread := .waiting, jobQueue := rest } :
              JpegObj).setHandles queues handles).setOutBufs queues
            outBufs).setSession key
          { obj.session key with autoOutBuf := false }) []
  | submits (fails memory base queues key node taken autoOutBuf) (checked : obj.thread = .checked)
      (took : Taken obj base queues key node taken autoOutBuf)
      (passes : (mmJpegSessionEncode config fails { obj.session key with
            autoOutBuf := autoOutBuf
            encodeJob := taken.encodeJob
            jobId := taken.jobId }).2 = false) :
      Change config obj (.work fails memory) (submitted config fails key autoOutBuf taken base) []
  | fails (fails memory base queues key node taken autoOutBuf) (checked : obj.thread = .checked)
      (took : Taken obj base queues key node taken autoOutBuf)
      (gaveUp : (mmJpegSessionEncode config fails { obj.session key with
            autoOutBuf := autoOutBuf
            encodeJob := taken.encodeJob
            jobId := taken.jobId }).2 = true) :
      Change config obj (.work fails memory) (mmJpegencJobDone ⟨true, memory.done.output⟩ queues key
          (submitted config fails key autoOutBuf taken base))
        (callback .error ((submitted config fails key autoOutBuf taken base).session key))
  | finished (key queues memory) (owes : (obj.session key).omxOwes = true)
      (abortState : (obj.session key).abortState = .none)
      (jpegCb : (obj.session key).params.jpegCb = true)
      (home : (obj.session key).queues = some queues) :
      Change config obj (.fbd key memory)
        (mmJpegencJobDone ⟨true, memory.output⟩ queues key (answered key obj))
        [.jpegCb .done (obj.session key).jobId]
  | dropped (key memory) (owes : (obj.session key).omxOwes = true) (silent :
        (obj.session key).abortState ≠ .none ∨ (obj.session key).params.jpegCb = false) :
      Change config obj (.fbd key memory) (answered key obj) []
  | absorbed (key isError memory) (init : (obj.session key).abortState = .init) :
      Change config obj (.eventHandler key isError memory)
        (obj.setSession key { obj.session key with
              abortState := .done
              omxOwes := (obj.session key).omxOwes && !isError }) []
  | erred (key queues memory) (active : (obj.session key).active = true)
      (notInit : (obj.session key).abortState ≠ .init)
      (encoding : (obj.session key).encoding = true)
      (home : (obj.session key).queues = some queues) :
      Change config obj (.eventHandler key true memory)
        (mmJpegencJobDone ⟨true, memory.output⟩ queues key (answered key obj))
        (callback .error (obj.session key))
  | noted (key memory) (notInit : (obj.session key).abortState ≠ .init)
      (notEncoding : (obj.session key).encoding = false) :
      Change config obj (.eventHandler key true memory) (answered key obj) []
  | ignored (key memory) (notInit : (obj.session key).abortState ≠ .init) :
      Change config obj (.eventHandler key false memory) obj []

variable {key : SessionKey} {memory : DoneMemory}

section Cases

variable {config : ServiceConfig} {obj next : JpegObj} {emitted : List ServiceOutput}

theorem startJob_change {key : SessionKey} {job : EncodeJob} (memory : StartMemory)
    (held : key ∈ obj.sessionIds) :
    Change config obj (.startJob key job memory)
      (mmJpegStartJob key job memory obj).1 (mmJpegStartJob key job memory obj).2 := by
  unfold mmJpegStartJob
  simp only
  split
  · exact .rejected key job memory
  · rename_i accepted
    simp only [Bool.or_eq_true, Bool.not_eq_true', decide_eq_true_eq,
      not_or, Int.not_le] at accepted
    cases memory with
    | noJob => exact .rejected key job .noJob
    | noNode => exact .unqueued key job .noNode
    | enough => exact .started key job .enough held accepted.2

theorem abortJob_change (jobId : JobId) (refused : List SessionKey) :
    Change config obj (.abortJob jobId refused) (mmJpegAbortJob jobId refused obj).1
      (mmJpegAbortJob jobId refused obj).2 := by
  unfold mmJpegAbortJob
  cases missing : removeJobByJobId jobId obj.jobQueue with
  | some result =>
    obtain ⟨node, rest⟩ := result
    exact .abortedTodo jobId refused node rest missing
  | none =>
    cases found : removeJobByJobId jobId obj.ongoingJobQ with
    | some result =>
      obtain ⟨node, rest⟩ := result
      exact .abortedOngoing jobId refused node rest missing found
    | none => exact .abortedNothing jobId refused

theorem encodeJobOn_change {fails : Option EncodeStep} {memory : WorkMemory}
    {base : JpegObj} {queues : Nat} {key : SessionKey} {node taken : JobNode}
    {autoOutBuf : Bool} (nodes : hasNodes (.work fails memory) = true)
    (checked : obj.thread = .checked)
    (took : Taken obj base queues key node taken autoOutBuf) :
    Change config obj (.work fails memory)
      (encodeJobOn config fails memory queues key autoOutBuf taken base).1
      (encodeJobOn config fails memory queues key autoOutBuf taken base).2 := by
  simp only [hasNodes, Bool.and_eq_true] at nodes
  have done : memory.done = ⟨true, memory.done.output⟩ := by
    rw [← nodes.2]
  unfold encodeJobOn
  rw [if_pos nodes.1, done]
  cases encoded : mmJpegSessionEncode config fails { base.session key with
        autoOutBuf := autoOutBuf
        encodeJob := taken.encodeJob
        jobId := taken.jobId } with
  | mk session failed =>
    have shape : submitted config fails key autoOutBuf taken base =
          { base.setSession key session with
              ongoingJobQ := base.ongoingJobQ ++ [taken] } := by
      rw [submitted, encoded]
    cases failed with
    | false =>
      simp only [encoded, Bool.false_eq_true, if_false]
      rw [← shape]
      refine .submits fails memory base queues key node taken autoOutBuf checked took ?_
      rw [← took.session, encoded]
    | true =>
      simp only [encoded, if_true]
      have outcome := @Change.fails config obj fails memory base queues key node taken
          autoOutBuf checked took (by rw [← took.session, encoded])
      rw [shape] at outcome
      simpa [callback, JpegObj.setSession] using outcome

theorem work_change {fails : Option EncodeStep} {memory : WorkMemory}
    (nodes : hasNodes (.work fails memory) = true) (checked : obj.thread = .checked) (stepped :
      serviceStep config obj (.work fails memory) = some (next, emitted)) :
    Change config obj (.work fails memory) next emitted := by
  simp only [serviceStep, checked, if_true] at stepped
  cases todo : obj.jobQueue with
  | nil =>
    simp only [todo, Option.some.injEq, Prod.mk.injEq] at stepped
    obtain ⟨rfl, rfl⟩ := stepped
    rw [← todo]
    exact .idle fails memory checked todo
  | cons node rest =>
    simp only [todo, mmJpegProcessEncodingJob] at stepped
    cases home : (obj.session node.jobId.session).queues with
    | none => simp [home] at stepped
    | some queues =>
      simp only [home] at stepped
      cases free : obj.sessionHandleQ queues with
      | nil =>
        simp only [free] at stepped
        split at stepped
        · cases stepped
          rw [← todo]
          exact .requeued fails memory node rest queues checked todo home free
        · rename_i noMemory
          cases stepped
          exact .forgotten fails memory node rest queues checked todo home free (by
            simpa using noMemory)
      | cons key handles =>
        simp only [free] at stepped
        by_cases auto : node.encodeJob.dstIndex < 0
        · simp only [auto, if_true] at stepped
          cases output : deqU32 (obj.outBufQ queues) with
          | mk buffer outBufs =>
            cases buffer with
            | zero =>
              simp only [output, Option.some.injEq, Prod.mk.injEq] at stepped
              obtain ⟨rfl, rfl⟩ := stepped
              exact .lost fails memory node rest queues key handles outBufs
                checked todo home free auto output
            | succ bufIdx =>
              simp only [output, Option.ite_none_left_eq_some, Option.some.injEq] at stepped
              replace stepped := stepped.2
              have shape : obj.outBufQ queues = (bufIdx + 1) :: outBufs := by
                cases entries : obj.outBufQ queues with
                | nil => simp [entries, deqU32] at output
                | cons first others =>
                  simp only [entries, deqU32, Prod.mk.injEq] at output
                  rw [output.1, output.2]
              have changed := @encodeJobOn_change config obj fails memory (((({ obj with
                          thread := .waiting, jobQueue := rest } :
                        JpegObj).setHandles queues
                      handles)).setOutBufs queues outBufs)
                  queues key node
                  { node with
                      encodeJob :=
                        { node.encodeJob with dstIndex := bufIdx } }
                  true nodes checked
                  { todo := todo
                    home := home
                    free := by
                      simp [JpegObj.setOutBufs, JpegObj.setHandles, free]
                    otherHandles := by
                      intro other different
                      simp [JpegObj.setOutBufs, JpegObj.setHandles, different]
                    session := rfl
                    queuesMade := rfl
                    ongoingJobQ := rfl
                    jobSem := rfl
                    thread := rfl
                    sessionIds := rfl
                    jobId := rfl
                    output := .inr ⟨rfl, bufIdx, by
                      simp [JpegObj.setOutBufs, shape], by
                      intro other different
                      simp [JpegObj.setOutBufs, JpegObj.setHandles, different], rfl⟩ }
              rw [stepped] at changed
              exact changed
        · simp only [auto, if_false, Option.ite_none_left_eq_some, Option.some.injEq] at stepped
          replace stepped := stepped.2
          have changed := @encodeJobOn_change config obj fails memory
              (({ obj with thread := .waiting, jobQueue := rest } :
                  JpegObj).setHandles queues handles)
              queues key node node false nodes checked
              { todo := todo
                home := home
                free := by
                  simp [JpegObj.setHandles, free]
                otherHandles := by
                  intro other different
                  simp [JpegObj.setHandles, different]
                session := rfl
                queuesMade := rfl
                ongoingJobQ := rfl
                jobSem := rfl
                thread := rfl
                sessionIds := rfl
                jobId := rfl
                output := .inl ⟨rfl, rfl, rfl, by omega⟩ }
          rw [stepped] at changed
          exact changed

theorem fbd_change (handle : memory.handle = true)
    (stepped : serviceStep config obj (.fbd key memory) = some (next, emitted)) :
    Change config obj (.fbd key memory) next emitted := by
  obtain ⟨_, output⟩ := memory
  obtain rfl := handle
  simp only [serviceStep] at stepped
  split at stepped
  · rename_i owes
    split at stepped
    · rename_i abortState
      cases stepped
      exact .dropped key _ owes (.inl abortState)
    · rename_i abortState
      simp only [ne_eq, not_not] at abortState
      split at stepped
      · rename_i jpegCb
        split at stepped
        · cases stepped
        · rename_i queues home
          cases stepped
          exact .finished key queues ⟨true, output⟩ owes abortState jpegCb home
      · rename_i jpegCb
        cases stepped
        exact .dropped key _ owes (.inr (by simpa using jpegCb))
  · cases stepped

theorem eventHandler_change {isError : Bool} (handle : memory.handle = true)
    (stepped : serviceStep config obj (.eventHandler key isError memory) = some (next, emitted)) :
    Change config obj (.eventHandler key isError memory) next emitted := by
  obtain ⟨_, output⟩ := memory
  obtain rfl := handle
  simp only [serviceStep] at stepped
  split at stepped
  · rename_i active
    split at stepped
    · rename_i init
      cases stepped
      exact .absorbed key isError _ init
    · rename_i notInit
      cases isError with
      | false =>
        simp only [Bool.false_eq_true, if_false, Option.some.injEq, Prod.mk.injEq] at stepped
        obtain ⟨rfl, rfl⟩ := stepped
        exact .ignored key _ notInit
      | true =>
        simp only [if_true] at stepped
        split at stepped
        · rename_i encoding
          split at stepped
          · cases stepped
          · rename_i queues home
            cases stepped
            exact .erred key queues ⟨true, output⟩ active notInit encoding home
        · rename_i notEncoding
          cases stepped
          exact .noted key _ notInit (by simpa using notEncoding)
  · cases stepped

/-- With memory for the nodes, every step of the service is one of the outcomes. -/
theorem serviceStep_change {event : ServiceEvent} (nodes : hasNodes event = true)
    (stepped : serviceStep config obj event = some (next, emitted)) :
    Change config obj event next emitted := by
  cases event with
  | createSession clientIdx params setups memory =>
    simp only [serviceStep] at stepped
    by_cases count : setups.length = (if params.burstMode then config.concurrentSessions else 1)
    · rw [if_pos count, Option.some.injEq] at stepped
      have changed := @Change.created config obj clientIdx params setups memory count
      rwa [stepped] at changed
    · rw [if_neg count] at stepped
      cases stepped
  | startJob key job memory =>
    simp only [serviceStep] at stepped
    split at stepped
    · rename_i held
      simp only [Option.some.injEq] at stepped
      have changed := @startJob_change config obj key job memory held
      rwa [stepped] at changed
    · cases stepped
  | abortJob jobId refused =>
    simp only [serviceStep, Option.some.injEq] at stepped
    have changed := @abortJob_change config obj jobId refused
    rwa [stepped] at changed
  | destroySession key refused =>
    simp only [serviceStep] at stepped
    split at stepped
    · rename_i held
      cases home : (obj.session key).queues with
      | none => simp [home] at stepped
      | some queues =>
        simp only [home, Option.some.injEq] at stepped
        have changed := @Change.destroyed config obj key refused queues held home
        rwa [stepped] at changed
    · cases stepped
  | semWait =>
    simp only [serviceStep] at stepped
    split at stepped
    · rename_i ready
      cases stepped
      exact .woken ready.1 ready.2
    · cases stepped
  | checkOngoing =>
    simp only [serviceStep] at stepped
    split at stepped
    · rename_i woken
      split at stepped
      · rename_i limit
        cases stepped
        exact .full woken limit
      · cases stepped
        exact .checked woken
    · cases stepped
  | work fails memory =>
    by_cases checked : obj.thread = .checked
    · exact work_change nodes checked stepped
    · simp [serviceStep, checked] at stepped
  | fbd key memory => exact fbd_change nodes stepped
  | eventHandler key isError memory => exact eventHandler_change nodes stepped

end Cases

end AnglerHal.JpegService
