import AnglerHal.JpegSteps
import AnglerHal.JpegTeardown

namespace AnglerHal.JpegService

/-!
# The invariant of the JPEG service

The chains and the pool of sessions keep their invariants through every event
that takes none of the branches which leave a session behind.  What an abort
does to an ongoing job is left to the modules that use the invariant.
-/

/-- The chains and the pool. -/
structure ServiceInvariant (obj : JpegObj) : Prop where
  chains : ChainInvariant obj
  pool : PoolInvariant obj

/-- The job that the thread takes next finds the output buffer it asks for. -/
def takesOutput (obj : JpegObj) : Bool :=
  match obj.jobQueue with
  | [] => true
  | node :: _ =>
    match (obj.session node.jobId.session).queues with
    | none => true
    | some queues =>
      decide (0 ≤ node.encodeJob.dstIndex) || (obj.sessionHandleQ queues).isEmpty ||
        (deqU32 (obj.outBufQ queues)).1 != 0

/-- The session has left the queue of free sessions. -/
def isOut (obj : JpegObj) (key : SessionKey) : Bool :=
  match (obj.session key).queues with
  | none => false
  | some queues => !(obj.sessionHandleQ queues).contains key

/--
An error of a session that is marked as encoding comes while the session works
on a job that was not aborted.
-/
def errsAtWork (obj : JpegObj) (key : SessionKey) : Bool :=
  (obj.session key).abortState == .init || !(obj.session key).encoding ||
    ((obj.session key).abortState == .none && isOut obj key)

/-- The branches that lose a session or count it twice are not taken. -/
def keepsSessions (obj : JpegObj) : ServiceEvent → Bool
  | .createSession clientIdx params setups memory =>
    createsWhole clientIdx params setups memory obj
  | .work _ _ => takesOutput obj
  | .eventHandler key true _ => errsAtWork obj key
  | _ => true

variable {obj : JpegObj} {key other : SessionKey} {queues : Nat} {node : JobNode}
  {rest : List JobNode} {handles : List SessionKey} {outBufs : List Nat}

/-- A session outside its queue of free sessions. -/
theorem isOut_iff (home : (obj.session key).queues = some queues) :
    isOut obj key = true ↔ key ∉ obj.sessionHandleQ queues := by
  simp [isOut, home]

/-- A thread that finds no output buffer violates the condition. -/
theorem not_takesOutput (todo : obj.jobQueue = node :: rest)
    (home : (obj.session node.jobId.session).queues = some queues)
    (free : obj.sessionHandleQ queues = key :: handles)
    (auto : node.encodeJob.dstIndex < 0)
    (none : deqU32 (obj.outBufQ queues) = (0, outBufs)) :
    takesOutput obj = false := by
  have negative : ¬ 0 ≤ node.encodeJob.dstIndex := by
    omega
  simp [takesOutput, todo, home, free, none, negative]

/-- A thread that loses a session does not keep the sessions. -/
theorem not_keepsSessions {fails : Option EncodeStep} {memory : WorkMemory}
    (todo : obj.jobQueue = node :: rest)
    (home : (obj.session node.jobId.session).queues = some queues)
    (free : obj.sessionHandleQ queues = key :: handles)
    (auto : node.encodeJob.dstIndex < 0)
    (none : deqU32 (obj.outBufQ queues) = (0, outBufs)) :
    ¬ keepsSessions obj (.work fails memory) = true := by
  intro keeps
  have violated := not_takesOutput todo home free auto none
  simp only [keepsSessions, violated] at keeps
  cases keeps

/-- The object after `mm_jpeg_init`. -/
theorem serviceInvariant_zero : ServiceInvariant JpegObj.zero := by
  have inactive : ∀ queues key, ¬ InChain JpegObj.zero queues key := by
    rintro queues key ⟨active, -⟩
    cases active
  refine ⟨⟨List.nodup_nil, by simp [JpegObj.zero], by simp [JpegObj.zero],
    ?_, by simp [JpegObj.zero]⟩, ⟨fun _ => List.nodup_nil,
    by simp [JpegObj.zero], ?_, by simp [JpegObj.zero],
    by simp [JpegObj.zero], ?_, ?_⟩⟩
  · intro key queues equal
    cases equal
  · intro key owes
    cases owes
  · refine ⟨[], List.nodup_nil, ?_, by simp [JpegObj.zero]⟩
    intro key
    simp only [List.not_mem_nil, false_iff]
    rintro ⟨queues, inChain, -⟩
    exact inactive queues key inChain
  · rintro key ⟨queues, inChain, -⟩
    exact absurd inChain (inactive queues key)

section Submission

variable {config : ServiceConfig} {failing : Option EncodeStep} {obj base : JpegObj} {queues : Nat}
  {key : SessionKey}
  {node taken : JobNode}
  {autoOutBuf : Bool}

theorem mmJpegSessionEncode_eq (session : JobSession) : ∃ encoding,
      ((mmJpegSessionEncode config failing session).2 = false → encoding = true) ∧
        (mmJpegSessionEncode config failing session).1 = { session with
              abortState := .none
              encoding := encoding
              omxOwes :=
                session.omxOwes || !(mmJpegSessionEncode config failing session).2 } := by
  simp only [mmJpegSessionEncode]
  split
  · exact ⟨false, by simp⟩
  · split
    · exact ⟨false, by simp⟩
    · exact ⟨false, by simp⟩
    · exact ⟨true, by simp⟩
    · exact ⟨true, by simp⟩
    · exact ⟨true, by simp⟩
    · exact ⟨true, by simp⟩

/-- The record of the session that was given the job. -/
theorem submitted_key (took : Taken obj base queues key node taken autoOutBuf) : ∃ encoding,
      ((mmJpegSessionEncode config failing { obj.session key with
              autoOutBuf := autoOutBuf
              encodeJob := taken.encodeJob
              jobId := taken.jobId }).2 = false →
          encoding = true) ∧
        (submitted config failing key autoOutBuf taken base).session key = { obj.session key with
              abortState := .none
              encoding := encoding
              autoOutBuf := autoOutBuf
              encodeJob := taken.encodeJob
              jobId := taken.jobId
              omxOwes :=
                (obj.session key).omxOwes || !(mmJpegSessionEncode config failing {
                    obj.session key with
                      autoOutBuf := autoOutBuf
                      encodeJob := taken.encodeJob
                      jobId := taken.jobId }).2 } := by
  obtain ⟨encoding, marked, written⟩ :=
    @mmJpegSessionEncode_eq config failing { obj.session key with
        autoOutBuf := autoOutBuf
        encodeJob := taken.encodeJob
        jobId := taken.jobId }
  refine ⟨encoding, marked, ?_⟩
  simp only [submitted, took.session, setSession_same]
  rw [written]

theorem submitted_other (took : Taken obj base queues key node taken autoOutBuf)
    (different : other ≠ key) :
    (submitted config failing key autoOutBuf taken base).session other =
      obj.session other := by
  have unchanged : (submitted config failing key autoOutBuf taken base).session other =
        base.session other := by
    simp [submitted, JpegObj.setSession, different]
  rw [unchanged, took.session]

theorem submitted_params (took : Taken obj base queues key node taken autoOutBuf) :
    ((submitted config failing key autoOutBuf taken base).session
        other).params = (obj.session other).params := by
  by_cases isKey : other = key
  · subst isKey
    obtain ⟨_, -, written⟩ :=
      @submitted_key config failing obj base queues other node taken autoOutBuf took
    rw [written]
  · rw [submitted_other took isKey]

theorem submitted_sameChains (took : Taken obj base queues key node taken autoOutBuf) :
    SameChains obj (submitted config failing key autoOutBuf taken base) := by
  obtain ⟨_, -, written⟩ :=
    @submitted_key config failing obj base queues key node taken autoOutBuf took
  refine ⟨took.sessionIds, took.queuesMade, ?_, ?_, ?_⟩
  all_goals
    intro other
    by_cases isKey : other = key
    · rw [isKey, written]
    · rw [submitted_other took isKey]

/-- A free session is given the next job. -/
theorem submitted_busy (pool : PoolInvariant obj)
    (took : Taken obj base queues key node taken autoOutBuf) (other : SessionKey) :
    Busy (submitted config failing key autoOutBuf taken base) other ↔
      other = key ∨ Busy obj other := by
  obtain ⟨_, -, written⟩ :=
    @submitted_key config failing obj base queues key node taken autoOutBuf took
  exact dispatched_busy pool took.free (submitted_sameChains took) rfl
    took.otherHandles (fun _ different => submitted_other took different)
    (by rw [written]) other

theorem submitted_invariant (held : ServiceInvariant obj)
    (took : Taken obj base queues key node taken autoOutBuf) :
    ServiceInvariant (submitted config failing key autoOutBuf taken base) := by
  have same := @submitted_sameChains config failing obj base queues key node taken autoOutBuf took
  obtain ⟨_, -, written⟩ :=
    @submitted_key config failing obj base queues key node taken autoOutBuf took
  have todoHeld : ∀ other ∈ obj.jobQueue, other.jobId.session ∈ obj.sessionIds := held.pool.todoHeld
  rw [took.todo] at todoHeld
  refine ⟨same.chainInvariant held.chains, ?_⟩
  refine held.pool.dispatched took.free same rfl took.otherHandles
    (fun _ different => submitted_other took different)
    (by rw [written]) (by rw [written]) ?_ ?_ ?_ ?_
  · rw [← took.ongoingJobQ]
    rfl
  · exact fun other member => todoHeld other (List.mem_cons_of_mem _ member)
  · rw [took.jobId]
    exact todoHeld node (List.mem_cons_self ..)
  · rw [took.jobId]
    exact took.home

theorem free_omxOwes (pool : PoolInvariant obj) (free : key ∈ obj.sessionHandleQ queues) :
    (obj.session key).omxOwes = false := by
  cases owes : (obj.session key).omxOwes with
  | false => rfl
  | true =>
    obtain ⟨place, inChain, absent⟩ := pool.owed key owes
    have home := pool.handleInChain queues key free
    have same : some place = some queues := inChain.2.symm.trans home.2
    rw [Option.some.injEq] at same
    rw [same] at absent
    exact absurd free absent

/-- The session of a job that was not submitted is ready to be freed. -/
theorem submitted_ready (held : ServiceInvariant obj)
    (took : Taken obj base queues key node taken autoOutBuf)
    (gaveUp : (mmJpegSessionEncode config failing { obj.session key with
          autoOutBuf := autoOutBuf
          encodeJob := taken.encodeJob
          jobId := taken.jobId }).2 = true) :
    Busy (submitted config failing key autoOutBuf taken base) key ∧
      ((submitted config failing key autoOutBuf taken base).session key).queues = some queues ∧
      ((submitted config failing key autoOutBuf taken base).session key).omxOwes = false := by
  obtain ⟨_, -, written⟩ :=
    @submitted_key config failing obj base queues key node taken autoOutBuf took
  have free : key ∈ obj.sessionHandleQ queues := by
    rw [took.free]
    exact List.mem_cons_self ..
  refine ⟨(submitted_busy held.pool took key).mpr (.inl rfl), ?_, ?_⟩
  · rw [written]
    exact (held.pool.handleInChain queues key free).2
  · rw [written, gaveUp]
    simp [free_omxOwes held.pool free]

end Submission

section Answers

variable {obj : JpegObj} {key : SessionKey} {queues : Nat} {job : EncodeJob} {output : Bool}

/-- Starting a job writes the history count of its session. -/
theorem jobStarted_session (other : SessionKey) : ∃ jobHist,
      (jobStarted key job obj).session other = { obj.session other with jobHist := jobHist } := by
  by_cases isKey : other = key
  · subst isKey
    exact ⟨_, setSession_same _ _ _⟩
  · exact ⟨_, setSession_other _ _ isKey⟩

/-- So does counting the job id only. -/
theorem historyCounted_session (other : SessionKey) : ∃ jobHist,
      (historyCounted key obj).session other =
        { obj.session other with jobHist := jobHist } :=
  @jobStarted_session obj key ⟨0, 0⟩ other

theorem historyCounted_sameChains : SameChains obj (historyCounted key obj) :=
  sameChains_setSession rfl rfl rfl

/-- A job that is not begun makes no session busy. -/
theorem historyCounted_busy :
    Busy (historyCounted key obj) other ↔ Busy obj other := by
  obtain ⟨_, written⟩ := @historyCounted_session obj key other
  simp only [Busy, historyCounted_sameChains.inChain_iff, written]
  exact Iff.rfl

theorem jobStarted_sameChains : SameChains obj (jobStarted key job obj) := by
  refine ⟨rfl, rfl, ?_, ?_, ?_⟩
  all_goals
    intro other
    obtain ⟨_, written⟩ := @jobStarted_session obj key job other
    rw [written]

theorem answered_sameChains : SameChains obj (answered key obj) :=
  sameChains_setSession rfl rfl rfl

theorem answered_session (other : SessionKey) : ∃ omxOwes, (answered key obj).session other =
        { obj.session other with omxOwes := omxOwes } := by
  by_cases isKey : other = key
  · subst isKey
    exact ⟨false, by simp [answered]⟩
  · refine ⟨(obj.session other).omxOwes, ?_⟩
    rw [answered, setSession_other _ _ isKey]

theorem answered_busy (other : SessionKey) : Busy (answered key obj) other ↔ Busy obj other := by
  obtain ⟨_, same⟩ := @answered_session obj key other
  simp only [Busy, answered_sameChains.inChain_iff, same]
  rfl

theorem answered_invariant (held : ServiceInvariant obj) : ServiceInvariant (answered key obj) := by
  refine ⟨answered_sameChains.chainInvariant held.chains, ?_⟩
  refine held.pool.of_agree answered_sameChains rfl ?_ ?_ ?_ rfl held.pool.todoHeld
  · intro other
    obtain ⟨_, same⟩ := @answered_session obj key other
    rw [same]
  · intro other
    obtain ⟨_, same⟩ := @answered_session obj key other
    rw [same]
  · intro other owes
    by_cases isKey : other = key
    · subst isKey
      simp [answered] at owes
    · rwa [answered, setSession_other _ _ isKey] at owes

theorem answered_jobDone (held : ServiceInvariant obj) (busy : Busy obj key)
    (home : (obj.session key).queues = some queues) :
    ServiceInvariant (mmJpegencJobDone ⟨true, output⟩ queues key (answered key obj)) := by
  have after := @answered_invariant obj key held
  refine ⟨mmJpegencJobDone_sameChains.chainInvariant after.chains, ?_⟩
  refine after.pool.jobDone ((answered_busy key).mpr busy) ?_ ?_
  · simpa [answered] using home
  · simp [answered]

/-- A session that OMX owes an answer is busy unless it is aborted. -/
theorem owed_busy (held : ServiceInvariant obj) (owes : (obj.session key).omxOwes = true)
    (abortState : (obj.session key).abortState = .none) :
    Busy obj key := by
  obtain ⟨place, inChain, absent⟩ := held.pool.owed key owes
  exact ⟨place, inChain, abortState, absent⟩

/-- An error at work finds a busy session. -/
theorem errsAtWork_busy (atWork : errsAtWork obj key = true)
    (active : (obj.session key).active = true)
    (notInit : (obj.session key).abortState ≠ .init)
    (encoding : (obj.session key).encoding = true)
    (home : (obj.session key).queues = some queues) :
    Busy obj key := by
  simp only [errsAtWork, encoding, Bool.not_true, Bool.or_false,
    Bool.or_eq_true, Bool.and_eq_true, beq_iff_eq, isOut_iff home] at atWork
  rcases atWork with init | ⟨abortState, absent⟩
  · exact absurd init notInit
  · exact ⟨queues, ⟨active, home⟩, abortState, absent⟩

end Answers

/--
One event keeps the invariant if it keeps the sessions and if an abort of an
ongoing job does.
-/
theorem change_invariant {config : ServiceConfig} {next : JpegObj}
    {event : ServiceEvent} {emitted : List ServiceOutput} (held : ServiceInvariant obj)
    (guard : keepsSessions obj event = true)
    (abort : ∀ jobId refused node rest, event = .abortJob jobId refused →
        removeJobByJobId jobId obj.jobQueue = none →
        removeJobByJobId jobId obj.ongoingJobQ = some (node, rest) →
        ServiceInvariant (mmJpegSessionAbort refused (chainOf obj node.jobId.session)
            { obj with ongoingJobQ := rest }))
    (changed : Change config obj event next emitted) :
    ServiceInvariant next := by
  have quiet : ∀ other : JpegObj, other.session = obj.session →
      other.sessionHandleQ = obj.sessionHandleQ →
      other.queuesMade = obj.queuesMade →
      other.ongoingJobQ = obj.ongoingJobQ →
      other.sessionIds = obj.sessionIds →
      (∀ node ∈ other.jobQueue, node ∈ obj.jobQueue) →
      ServiceInvariant other := by
    intro other session handles made ongoing ids todo
    have same : SameChains obj other :=
      ⟨ids, made, fun _ => by rw [session], fun _ => by rw [session], fun _ => by rw [session]⟩
    exact ⟨same.chainInvariant held.chains,
      held.pool.of_agree same handles (fun _ => by rw [session])
        (fun _ => by rw [session]) (fun _ => by rw [session]; exact id)
        ongoing
        fun node member => held.pool.todoHeld node (todo node member)⟩
  cases changed with
  | created clientIdx params setups memory count =>
    obtain ⟨chains, pool⟩ := mmJpegCreateSession_invariant held.chains held.pool guard
    exact ⟨chains, pool⟩
  | rejected key job memory => exact held
  | unqueued key job memory =>
    refine ⟨historyCounted_sameChains.chainInvariant held.chains, ?_⟩
    refine held.pool.of_agree historyCounted_sameChains rfl ?_ ?_ ?_ rfl held.pool.todoHeld
    all_goals
      intro other
      obtain ⟨_, written⟩ := @historyCounted_session obj key other
      rw [written]
    exact id
  | started key job memory isHeld dst =>
    refine ⟨jobStarted_sameChains.chainInvariant held.chains, ?_⟩
    refine held.pool.of_agree jobStarted_sameChains rfl ?_ ?_ ?_ rfl ?_
    · intro other
      obtain ⟨_, written⟩ := @jobStarted_session obj key job other
      rw [written]
    · intro other
      obtain ⟨_, written⟩ := @jobStarted_session obj key job other
      rw [written]
    · intro other owes
      obtain ⟨_, written⟩ := @jobStarted_session obj key job other
      rwa [written] at owes
    · intro node member
      rw [jobStarted, List.mem_append, List.mem_singleton] at member
      rcases member with member | rfl
      · exact held.pool.todoHeld node member
      · exact isHeld
  | abortedTodo jobId refused node rest found =>
    refine quiet _ rfl rfl rfl rfl rfl ?_
    intro other member
    exact (removeJobByJobId_eq_some found).2.symm.subset (List.mem_cons_of_mem _ member)
  | abortedOngoing jobId refused node rest missing found =>
    exact abort jobId refused node rest rfl missing found
  | abortedNothing jobId refused => exact held
  | destroyed key refused queues isHeld home =>
    exact ⟨held.chains.destroyed isHeld home, held.pool.destroyed held.chains isHeld home⟩
  | woken waiting token => exact quiet _ rfl rfl rfl rfl rfl fun _ member => member
  | full woken limit => exact quiet _ rfl rfl rfl rfl rfl fun _ member => member
  | checked woken => exact quiet _ rfl rfl rfl rfl rfl fun _ member => member
  | idle failing memory checked empty => exact quiet _ rfl rfl rfl rfl rfl fun _ member => member
  | requeued failing memory node rest queues checked todo home none =>
    exact quiet _ rfl rfl rfl rfl rfl fun _ member => member
  | forgotten failing memory node rest queues checked todo home none noMemory =>
    refine quiet _ rfl rfl rfl rfl rfl ?_
    intro other member
    rw [todo]
    exact List.mem_cons_of_mem _ member
  | lost failing memory node rest queues key handles outBufs checked todo home free auto none =>
    exact absurd guard (not_keepsSessions todo home free auto none)
  | submits failing memory base queues key node taken autoOutBuf checked took passes =>
    exact submitted_invariant held took
  | fails failing memory base queues key node taken autoOutBuf checked took gaveUp =>
    have after :=
      @submitted_invariant config failing obj base queues key node taken autoOutBuf held took
    obtain ⟨busy, home, owes⟩ := submitted_ready held took gaveUp
    exact ⟨mmJpegencJobDone_sameChains.chainInvariant after.chains,
      after.pool.jobDone busy home owes⟩
  | finished key queues memory owes abortState jpegCb home =>
    exact answered_jobDone held (owed_busy held owes abortState) home
  | dropped key memory owes silent => exact answered_invariant held
  | absorbed key isError memory init =>
    have same : SameChains obj (obj.setSession key { obj.session key with
                abortState := .done
                omxOwes := (obj.session key).omxOwes && !isError }) :=
      sameChains_setSession rfl rfl rfl
    refine ⟨same.chainInvariant held.chains, ?_⟩
    refine held.pool.of_agree same rfl ?_ ?_ ?_ rfl held.pool.todoHeld
    all_goals
      intro other
      by_cases isKey : other = key
    · subst isKey
      simp [init]
    · rw [setSession_other _ _ isKey]
    · subst isKey
      simp
    · rw [setSession_other _ _ isKey]
    · subst isKey
      simpa using fun owes _ => owes
    · rw [setSession_other _ _ isKey]
      exact id
  | erred key queues memory active notInit encoding home =>
    exact answered_jobDone held (errsAtWork_busy guard active notInit encoding home) home
  | noted key memory notInit notEncoding => exact answered_invariant held
  | ignored key memory notInit => exact held

/-- Every busy session is encoding a job that OMX has not answered. -/
def AtWork (obj : JpegObj) : Prop :=
  ∀ key, Busy obj key → (obj.session key).omxOwes = true ∧ (obj.session key).encoding = true

section Work

variable {config : ServiceConfig} {obj next : JpegObj} {event : ServiceEvent}
  {emitted : List ServiceOutput}

theorem AtWork.of_step (atWork : AtWork obj) (step : ∀ key, Busy next key → Busy obj key ∧
            (next.session key).omxOwes = (obj.session key).omxOwes ∧
            (next.session key).encoding = (obj.session key).encoding) :
    AtWork next := by
  intro key busy
  obtain ⟨wasBusy, owes, encoding⟩ := step key busy
  rw [owes, encoding]
  exact atWork key wasBusy

theorem mmJpegencJobDone_atWork (home : (obj.session key).queues = some queues)
    (atWork : ∀ other, other ≠ key → Busy obj other → (obj.session other).omxOwes = true ∧
            (obj.session other).encoding = true) :
    AtWork (mmJpegencJobDone ⟨true, output⟩ queues key obj) := by
  intro other busy
  obtain ⟨different, wasBusy⟩ := (mmJpegencJobDone_busy home other).mp busy
  rw [mmJpegencJobDone_session, setSession_other _ _ different]
  exact atWork other different wasBusy

theorem answered_atWork (atWork : AtWork obj)
    (home : (obj.session key).queues = some queues) :
    AtWork (mmJpegencJobDone ⟨true, output⟩ queues key (answered key obj)) := by
  refine mmJpegencJobDone_atWork (by simpa [answered] using home) ?_
  intro other different busy
  rw [answered, setSession_other _ _ different]
  exact atWork other ((answered_busy other).mp busy)

/--
An event keeps the sessions at work if it keeps the sessions and completes jobs
of sessions with a callback only.
-/
theorem change_atWork (held : ServiceInvariant obj) (atWork : AtWork obj)
    (guard : keepsSessions obj event = true)
    (withCb : ∀ key memory, event = .fbd key memory → Busy obj key →
      (obj.session key).params.jpegCb = true)
    (changed : Change config obj event next emitted) :
    AtWork next := by
  cases changed with
  | created clientIdx params setups memory count =>
    refine atWork.of_step ?_
    intro key busy
    obtain ⟨wasBusy, same⟩ := mmJpegCreateSession_busy held.chains guard busy
    rw [same]
    exact ⟨wasBusy, rfl, rfl⟩
  | rejected key job memory => exact atWork
  | unqueued key job memory =>
    refine atWork.of_step ?_
    intro other busy
    obtain ⟨_, written⟩ := @historyCounted_session obj key other
    rw [written]
    exact ⟨historyCounted_busy.mp busy, rfl, rfl⟩
  | started key job memory isHeld dst =>
    refine atWork.of_step ?_
    intro other busy
    obtain ⟨_, written⟩ := @jobStarted_session obj key job other
    rw [written]
    exact ⟨historyCounted_busy.mp busy, rfl, rfl⟩
  | abortedTodo jobId refused node rest found => exact atWork
  | abortedOngoing jobId refused node rest missing found =>
    refine atWork.of_step ?_
    intro key busy
    obtain ⟨state, written⟩ :=
      @mmJpegSessionAbort_session refused (chainOf obj node.jobId.session)
        { obj with ongoingJobQ := rest } key
    rw [written]
    exact ⟨((mmJpegSessionAbort_busy key).mp busy).1, rfl, rfl⟩
  | abortedNothing jobId refused => exact atWork
  | destroyed head refused queues isHeld home =>
    refine atWork.of_step ?_
    intro key busy
    obtain ⟨wasBusy, same⟩ := mmJpegDestroySession_busy_session held.chains isHeld home busy
    rw [same]
    exact ⟨wasBusy, rfl, rfl⟩
  | woken waiting token => exact atWork
  | full woken limit => exact atWork
  | checked woken => exact atWork
  | idle failing memory checked empty => exact atWork
  | requeued failing memory node rest queues checked todo home none => exact atWork
  | forgotten failing memory node rest queues checked todo home none noMemory => exact atWork
  | lost failing memory node rest queues key handles outBufs checked todo home free auto none =>
    exact absurd guard (not_keepsSessions todo home free auto none)
  | submits failing memory base queues key node taken autoOutBuf checked took passes =>
    intro other busy
    by_cases isKey : other = key
    · obtain ⟨_, marked, written⟩ :=
        @submitted_key config failing obj base queues key node taken autoOutBuf took
      rw [isKey, written, passes, marked passes]
      simp
    · rw [submitted_other took isKey]
      exact atWork other (((submitted_busy held.pool took other).mp busy).resolve_left isKey)
  | fails failing memory base queues key node taken autoOutBuf checked took gaveUp =>
    obtain ⟨-, home, -⟩ := submitted_ready held took gaveUp
    refine mmJpegencJobDone_atWork home ?_
    intro other different busy
    rw [submitted_other took different]
    exact atWork other (((submitted_busy held.pool took other).mp busy).resolve_left different)
  | finished key queues memory owes abortState jpegCb home => exact answered_atWork atWork home
  | dropped key memory owes silent =>
    intro other busy
    have wasBusy := (answered_busy other).mp busy
    by_cases isKey : other = key
    · subst isKey
      rcases silent with aborted | noCb
      · obtain ⟨_, -, abortState, -⟩ := wasBusy
        exact absurd abortState aborted
      · rw [withCb other memory rfl wasBusy] at noCb
        cases noCb
    · rw [answered, setSession_other _ _ isKey]
      exact atWork other wasBusy
  | absorbed key isError memory init =>
    intro other busy
    obtain ⟨place, inChain, abortState, absent⟩ := busy
    by_cases isKey : other = key
    · subst isKey
      simp at abortState
    · rw [InChain, setSession_other _ _ isKey] at inChain
      rw [setSession_other _ _ isKey] at abortState ⊢
      exact atWork other ⟨place, inChain, abortState, absent⟩
  | erred key queues memory active notInit encoding home => exact answered_atWork atWork home
  | noted key memory notInit notEncoding =>
    intro other busy
    have wasBusy := (answered_busy other).mp busy
    by_cases isKey : other = key
    · subst isKey
      rw [(atWork other wasBusy).2] at notEncoding
      cases notEncoding
    · rw [answered, setSession_other _ _ isKey]
      exact atWork other wasBusy
  | ignored key memory notInit => exact atWork

end Work

end AnglerHal.JpegService
