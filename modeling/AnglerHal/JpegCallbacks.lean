import AnglerHal.JpegInvariant

namespace AnglerHal.JpegService

open LabelledRun

/-!
# The callbacks of the JPEG service

Every accepted job is answered by one callback, unless it is aborted or its
session is destroyed.  The bookkeeping counts job ids: an id that was accepted
is in one of the two queues of jobs or has been answered, aborted or discarded.

`mm_jpeg_abort_job` finds a chain from the id of the job and aborts the chain
from its head on.  `abortsAlone` is the condition that this stops the session
that encodes the job and no other working session.
-/

/-- An abort of an ongoing job stops the session of this job and no other. -/
def abortsAlone (obj : JpegObj) : ServiceEvent → Bool
  | .abortJob jobId refused =>
    match removeJobByJobId jobId obj.jobQueue with
    | some _ => true
    | none =>
      match removeJobByJobId jobId obj.ongoingJobQ with
      | none => true
      | some (node, _) =>
        ((abortedKeys refused (chainOf obj node.jobId.session) obj).filter (isOut obj)).map
            (fun key => (obj.session key).jobId) == [jobId]
  | _ => true

/-- A job that finds no free session goes back to its queue. -/
def requeues : ServiceEvent → Bool
  | .work _ memory => memory.requeue
  | _ => true

/--
The branches that lose a job or answer an aborted one are not taken, also not
for want of memory.
-/
def answersAll (obj : JpegObj) (event : ServiceEvent) : Bool :=
  keepsSessions obj event && abortsAlone obj event && hasNodes event && requeues event

/-- Sessions are created with a callback. -/
def hasJpegCb : ServiceEvent → Bool
  | .createSession _ params _ _ => params.jpegCb
  | _ => true

/-- The job of an output that accepts one. -/
def ServiceOutput.accepted? : ServiceOutput → Option JobId
  | .accepted jobId => some jobId
  | _ => none

/-- The job of a callback. -/
def ServiceOutput.jpegCb? : ServiceOutput → Option JobId
  | .jpegCb _ jobId => some jobId
  | _ => none

/-- The job of an abort. -/
def ServiceOutput.aborted? : ServiceOutput → Option JobId
  | .aborted jobId => some jobId
  | _ => none

/-- The job of a destroyed session. -/
def ServiceOutput.discarded? : ServiceOutput → Option JobId
  | .discarded jobId => some jobId
  | _ => none

/-- How often the id was accepted. -/
def acceptedCount (log : List ServiceOutput) (jobId : JobId) : Nat :=
  (log.filterMap ServiceOutput.accepted?).count jobId

/-- How often the id was given to the callback. -/
def callbackCount (log : List ServiceOutput) (jobId : JobId) : Nat :=
  (log.filterMap ServiceOutput.jpegCb?).count jobId

/-- How often a job of this id was aborted or its session destroyed. -/
def droppedCount (log : List ServiceOutput) (jobId : JobId) : Nat :=
  (log.filterMap ServiceOutput.aborted?).count jobId +
    (log.filterMap ServiceOutput.discarded?).count jobId

/-- How often the id stands in a queue of jobs. -/
def queuedCount (queue : List JobNode) (jobId : JobId) : Nat :=
  (queue.map JobNode.jobId).count jobId

/-- What the clients and OMX can rely on in a state of a run. -/
structure CallbacksOk (obj : JpegObj) (log : List ServiceOutput) : Prop where
  /-- Once nothing is left to do, every other job has had its one callback. -/
  settled : obj.jobQueue = [] → obj.ongoingJobQ = [] → ∀ jobId,
      callbackCount log jobId + droppedCount log jobId = acceptedCount log jobId
  /-- No job has two callbacks, and no aborted or discarded job has one. -/
  once : ∀ jobId, callbackCount log jobId + droppedCount log jobId ≤ acceptedCount log jobId
  /-- OMX still owes an answer for every ongoing job. -/
  outstanding : ∃ workers : List SessionKey, workers.Nodup ∧
        (∀ key ∈ workers, (obj.session key).omxOwes = true) ∧
        (workers.map fun key => (obj.session key).jobId).Perm (obj.ongoingJobQ.map JobNode.jobId)

/-- Every accepted job is in a queue or has come to an end. -/
def Accounted (obj : JpegObj) (log : List ServiceOutput) : Prop :=
  ∀ jobId, acceptedCount log jobId = callbackCount log jobId + droppedCount log jobId +
        queuedCount obj.jobQueue jobId + queuedCount obj.ongoingJobQ jobId

/-- What the callbacks need of a state. -/
structure CallbackInvariant (obj : JpegObj) (log : List ServiceOutput) : Prop where
  service : ServiceInvariant obj
  atWork : AtWork obj
  jpegCb : ∀ queues key, InChain obj queues key → (obj.session key).params.jpegCb = true
  accounted : Accounted obj log

variable {obj next : JpegObj} {rest : List JobNode} {node : JobNode} {output : Bool}
  {log : List ServiceOutput}

section Counts

variable (log emitted : List ServiceOutput) (jobId : JobId)

@[simp] theorem acceptedCount_append : acceptedCount (log ++ emitted) jobId =
      acceptedCount log jobId + acceptedCount emitted jobId := by
  simp [acceptedCount]

@[simp] theorem callbackCount_append : callbackCount (log ++ emitted) jobId =
      callbackCount log jobId + callbackCount emitted jobId := by
  simp [callbackCount]

@[simp] theorem droppedCount_append : droppedCount (log ++ emitted) jobId =
      droppedCount log jobId + droppedCount emitted jobId := by
  simp only [droppedCount, List.filterMap_append, List.count_append]
  omega

theorem Accounted.step {log emitted : List ServiceOutput}
    (accounted : Accounted obj log)
    (balanced : ∀ jobId, acceptedCount emitted jobId + queuedCount obj.jobQueue jobId +
            queuedCount obj.ongoingJobQ jobId =
          callbackCount emitted jobId + droppedCount emitted jobId +
            queuedCount next.jobQueue jobId +
            queuedCount next.ongoingJobQ jobId) :
    Accounted next (log ++ emitted) := by
  intro jobId
  have before := accounted jobId
  have change := balanced jobId
  simp only [acceptedCount_append, callbackCount_append, droppedCount_append]
  omega

theorem queuedCount_remove {queue : List JobNode} {jobId : JobId}
    (found : removeJobByJobId jobId queue = some (node, rest)) (other : JobId) :
    queuedCount queue other = queuedCount [node] other + queuedCount rest other := by
  have shape := (removeJobByJobId_eq_some found).2.map JobNode.jobId
  have counts := shape.count_eq other
  simpa [queuedCount, List.count_cons, Nat.add_comm] using counts

theorem queuedCount_withoutJob {queue : List JobNode} {jobId : JobId}
    (present : jobId ∈ queue.map JobNode.jobId) (other : JobId) :
    queuedCount queue other = [jobId].count other + queuedCount (withoutJob jobId queue) other := by
  have counts := (withoutJob_perm present).count_eq other
  simpa [queuedCount, List.count_cons, Nat.add_comm] using counts

/-- A session that is done takes its job from the queue of ongoing jobs. -/
theorem queuedCount_answered {obj : JpegObj} {key : SessionKey} {output : Bool}
    (pool : PoolInvariant obj) (busy : Busy obj key) (queues : Nat) (other : JobId) :
    queuedCount obj.ongoingJobQ other = [(obj.session key).jobId].count other +
      queuedCount (mmJpegencJobDone ⟨true, output⟩ queues key (answered key obj)).ongoingJobQ
        other := by
  have jobId : ((answered key obj).session key).jobId = (obj.session key).jobId := by
    simp [answered]
  have ongoing : (answered key obj).ongoingJobQ = obj.ongoingJobQ := rfl
  rw [mmJpegencJobDone_ongoingJobQ, jobId, ongoing]
  exact queuedCount_withoutJob (busy_ongoing pool busy) other

theorem queuedCount_otherJobs (key : SessionKey) (queue : List JobNode) (other : JobId) :
    queuedCount queue other = ((discardedJobs key queue).filterMap
          ServiceOutput.discarded?).count other +
        queuedCount (otherJobs key queue) other := by
  induction queue with
  | nil => rfl
  | cons node rest inductionHypothesis =>
    by_cases isKey : node.jobId.session = key
    · simp only [queuedCount, discardedJobs, otherJobs, isKey, ne_eq,
        not_true_eq_false, decide_false, decide_true, List.filter_cons,
        if_true, Bool.false_eq_true, if_false, List.map_cons,
        List.filterMap_cons, ServiceOutput.discarded?,
        List.count_cons] at inductionHypothesis ⊢
      omega
    · simp only [queuedCount, discardedJobs, otherJobs, isKey, ne_eq,
        not_false_eq_true, decide_false, decide_true, List.filter_cons,
        if_true, Bool.false_eq_true, if_false, List.map_cons,
        List.count_cons] at inductionHypothesis ⊢
      omega

end Counts

section Aborts

variable {refused chain : List SessionKey} {key : SessionKey}

theorem abortedOngoing_invariant {jobId : JobId} (held : ServiceInvariant obj)
    (missing : removeJobByJobId jobId obj.jobQueue = none)
    (found : removeJobByJobId jobId obj.ongoingJobQ = some (node, rest))
    (alone : abortsAlone obj (.abortJob jobId refused) = true) :
    ServiceInvariant (mmJpegSessionAbort refused (chainOf obj node.jobId.session)
        { obj with ongoingJobQ := rest }) := by
  obtain ⟨sameId, shape⟩ := removeJobByJobId_eq_some found
  have headHeld : node.jobId.session ∈ obj.sessionIds :=
    held.pool.ongoingHeld node (shape.symm.subset (List.mem_cons_self ..))
  simp only [abortsAlone, missing, found, beq_iff_eq] at alone
  have keys : abortedKeys refused (chainOf obj node.jobId.session)
          { obj with ongoingJobQ := rest } =
        abortedKeys refused (chainOf obj node.jobId.session) obj :=
    abortedKeys_congr rfl
  have same := @mmJpegSessionAbort_sameChains refused (chainOf obj node.jobId.session)
      { obj with ongoingJobQ := rest }
  have start : SameChains obj { obj with ongoingJobQ := rest } :=
    ⟨rfl, rfl, fun _ => rfl, fun _ => rfl, fun _ => rfl⟩
  have same := start.trans same
  have busy : ∀ other, Busy (mmJpegSessionAbort refused (chainOf obj node.jobId.session)
          { obj with ongoingJobQ := rest }) other ↔
        Busy obj other ∧ other ∉ abortedKeys refused (chainOf obj node.jobId.session)
            obj := by
    intro other
    rw [mmJpegSessionAbort_busy, keys]
    exact Iff.rfl
  -- Exactly one busy session is stopped, and it works on this job.
  obtain ⟨worker, isWorker, workerId⟩ := List.map_eq_singleton_iff.mp alone
  have stopped : ∀ other, Busy obj other →
      (other ∈ abortedKeys refused (chainOf obj node.jobId.session) obj ↔ other = worker) := by
    intro other isBusy
    obtain ⟨queues, inChain, -, absent⟩ := isBusy
    have isOutOther := (isOut_iff inChain.2).mpr absent
    have singleton : ∀ candidate, candidate ∈ (abortedKeys refused (chainOf obj node.jobId.session)
            obj).filter (isOut obj) ↔ candidate = worker := by
      intro candidate
      rw [isWorker, List.mem_singleton]
    rw [← singleton other, List.mem_filter]
    simp [isOutOther]
  have workerBusy : Busy obj worker := by
    have member : worker ∈ (abortedKeys refused (chainOf obj node.jobId.session)
          obj).filter (isOut obj) := by
      rw [isWorker]
      exact List.mem_singleton.mpr rfl
    rw [List.mem_filter] at member
    have inChain := (held.chains.chain _ headHeld worker).mp (mem_of_mem_abortedKeys member.1)
    obtain ⟨queues, headInChain⟩ := held.chains.headInChain _ headHeld
    have home : (obj.session worker).queues = some queues := by
      rw [inChain.2, headInChain.2]
    exact ⟨queues, ⟨inChain.1, home⟩,
      abortState_of_mem_abortedKeys member.1, (isOut_iff home).mp member.2⟩
  have record : ∀ other, ∃ state, (mmJpegSessionAbort refused (chainOf obj node.jobId.session)
          { obj with ongoingJobQ := rest }).session other =
            { obj.session other with abortState := state } :=
    mmJpegSessionAbort_session
  refine ⟨same.chainInvariant held.chains, ⟨?_, ?_, ?_, ?_, ?_, ?_, ?_⟩⟩
  · rw [mmJpegSessionAbort_sessionHandleQ]
    exact held.pool.handleNodup
  · intro queues other member
    rw [mmJpegSessionAbort_sessionHandleQ] at member
    rw [same.inChain_iff]
    exact held.pool.handleInChain queues other member
  · intro other owes
    obtain ⟨state, written⟩ := record other
    rw [written] at owes
    obtain ⟨queues, inChain, absent⟩ := held.pool.owed other owes
    refine ⟨queues, (same.inChain_iff queues other).mpr inChain, ?_⟩
    rw [mmJpegSessionAbort_sessionHandleQ]
    exact absent
  · rw [same.ids, mmJpegSessionAbort_jobQueue]
    exact held.pool.todoHeld
  · intro other member
    rw [mmJpegSessionAbort_ongoingJobQ] at member
    rw [same.ids]
    exact held.pool.ongoingHeld other (shape.symm.subset (List.mem_cons_of_mem _ member))
  · obtain ⟨workers, nodup, members, assigned⟩ := held.pool.workers
    have working : worker ∈ workers := (members worker).mpr workerBusy
    refine ⟨workers.erase worker, nodup.erase worker, ?_, ?_⟩
    · intro other
      rw [nodup.mem_erase_iff, members, busy]
      constructor
      · rintro ⟨different, isBusy⟩
        exact ⟨isBusy, fun member =>
          different ((stopped other isBusy).mp member)⟩
      · rintro ⟨isBusy, notStopped⟩
        exact ⟨fun equal => notStopped ((stopped other isBusy).mpr equal), isBusy⟩
    · have unchanged : ((workers.erase worker).map fun other =>
            ((mmJpegSessionAbort refused (chainOf obj node.jobId.session)
              { obj with ongoingJobQ := rest }).session other).jobId) =
          (workers.erase worker).map fun other =>
            (obj.session other).jobId := by
        refine List.map_congr_left ?_
        intro other _
        obtain ⟨state, written⟩ := record other
        rw [written]
      have split : (workers.map fun other => (obj.session other).jobId).Perm
            ((obj.session worker).jobId :: (workers.erase worker).map fun other =>
                (obj.session other).jobId) :=
        (List.perm_cons_erase working).map _
      have removed := shape.map JobNode.jobId
      rw [List.map_cons, sameId] at removed
      rw [workerId] at split
      have rests := ((split.symm.trans assigned).trans removed).cons_inv
      rw [unchanged, mmJpegSessionAbort_ongoingJobQ]
      exact rests
  · intro other isBusy
    obtain ⟨state, written⟩ := record other
    rw [same.queues, same.queues, written]
    exact held.pool.workerChain other ((busy other).mp isBusy).1

end Aborts

section Steps

variable {config : ServiceConfig} {event : ServiceEvent}
  {emitted log : List ServiceOutput}

theorem change_jpegCb (held : CallbackInvariant obj log)
    (guard : answersAll obj event = true) (withCb : hasJpegCb event = true)
    (changed : Change config obj event next emitted) (queues : Nat) (key : SessionKey)
    (inChain : InChain next queues key) :
    (next.session key).params.jpegCb = true := by
  have unchanged : ∀ other : JpegObj, SameChains obj other →
      (other.session key).params = (obj.session key).params →
      InChain other queues key →
      (other.session key).params.jpegCb = true := by
    intro other same params inside
    rw [params]
    exact held.jpegCb queues key ((same.inChain_iff queues key).mp inside)
  have answeredParams : ∀ other : SessionKey, ((answered other obj).session key).params =
        (obj.session key).params := by
    intro other
    obtain ⟨_, written⟩ := @answered_session obj other key
    rw [written]
  have doneParams : ∀ (start : JpegObj) output place other,
      ((mmJpegencJobDone ⟨true, output⟩ place other start).session key).params =
        (start.session key).params := by
    intro start output place other
    rw [mmJpegencJobDone_session]
    by_cases isKey : key = other
    · subst isKey
      simp
    · rw [setSession_other _ _ isKey]
  simp only [answersAll, Bool.and_eq_true] at guard
  replace guard := guard.1.1
  cases changed with
  | created clientIdx params setups memory count =>
    rcases mmJpegCreateSession_cases guard.1 with
      same | ⟨final, made, extra, outBufs, building, -, result⟩
    · rw [same] at inChain ⊢
      exact held.jpegCb queues key inChain
    · rw [result] at inChain ⊢
      rw [setOutBufs_session]
      by_cases member : key ∈ made
      · rw [(building.opened key member).2.2.2]
        exact withCb
      · have wasInChain : InChain obj queues key := (building.inChain_iff member).mp inChain
        have same : final.session key = obj.session key :=
          (building.active_unchanged wasInChain.1).2
        rw [same]
        exact held.jpegCb queues key wasInChain
  | rejected => exact held.jpegCb queues key inChain
  | unqueued other job memory =>
    obtain ⟨_, written⟩ := @historyCounted_session obj other key
    exact unchanged _ historyCounted_sameChains (by rw [written]) inChain
  | started other job memory isHeld dst =>
    obtain ⟨_, written⟩ := @jobStarted_session obj other job key
    exact unchanged _ jobStarted_sameChains (by rw [written]) inChain
  | abortedTodo jobId refused node rest found => exact held.jpegCb queues key inChain
  | abortedOngoing jobId refused node rest missing found =>
    obtain ⟨state, written⟩ :=
      @mmJpegSessionAbort_session refused (chainOf obj node.jobId.session)
        { obj with ongoingJobQ := rest } key
    refine unchanged _ ?_ (by rw [written]) inChain
    have same := @mmJpegSessionAbort_sameChains refused
        (chainOf obj node.jobId.session) { obj with ongoingJobQ := rest }
    exact ⟨same.ids, same.made, same.active, same.queues, same.nextSession⟩
  | abortedNothing jobId refused => exact held.jpegCb queues key inChain
  | destroyed head refused place isHeld home =>
    obtain ⟨wasInChain, different⟩ :=
      (mmJpegDestroySession_inChain held.service.chains isHeld home queues key).mp inChain
    have outside : key ∉ chainOf obj head := by
      intro member
      obtain ⟨-, inQueues⟩ := (held.service.chains.chain head isHeld key).mp member
      rw [home, wasInChain.2, Option.some.injEq] at inQueues
      exact different inQueues
    rw [mmJpegDestroySession_other outside]
    exact held.jpegCb queues key wasInChain
  | woken waiting token => exact held.jpegCb queues key inChain
  | full woken limit => exact held.jpegCb queues key inChain
  | checked woken => exact held.jpegCb queues key inChain
  | idle failing memory checked empty => exact held.jpegCb queues key inChain
  | requeued failing memory node rest place checked todo home none =>
    exact held.jpegCb queues key inChain
  | forgotten failing memory node rest place checked todo home none noMemory =>
    exact held.jpegCb queues key inChain
  | lost failing memory node rest place other handles outBufs checked todo home free auto none =>
    exact absurd guard.1 (not_keepsSessions todo home free auto none)
  | submits failing memory base place other node taken autoOutBuf checked took passes =>
    refine unchanged _ (submitted_sameChains took) ?_ inChain
    exact submitted_params took
  | fails failing memory base place other node taken autoOutBuf checked took gaveUp =>
    refine unchanged _ ((submitted_sameChains took).trans mmJpegencJobDone_sameChains) ?_ inChain
    rw [doneParams]
    exact submitted_params took
  | finished other place memory owes abortState jpegCb home =>
    refine unchanged _ (answered_sameChains.trans mmJpegencJobDone_sameChains) ?_ inChain
    rw [doneParams, answeredParams]
  | dropped other memory owes silent =>
    exact unchanged _ answered_sameChains (answeredParams other) inChain
  | absorbed other isError memory init =>
    refine unchanged _ (sameChains_setSession rfl rfl rfl) ?_ inChain
    by_cases isKey : key = other
    · subst isKey
      simp
    · rw [setSession_other _ _ isKey]
  | erred other place memory active notInit encoding home =>
    refine unchanged _ (answered_sameChains.trans mmJpegencJobDone_sameChains) ?_ inChain
    rw [doneParams, answeredParams]
  | noted other memory notInit notEncoding =>
    exact unchanged _ answered_sameChains (answeredParams other) inChain
  | ignored other memory notInit => exact held.jpegCb queues key inChain

/-- Creating a session moves no job. -/
theorem mmJpegCreateSession_jobs {clientIdx : Nat} {params : EncodeParams}
    {setups : List SessionSetup} {memory : CreateMemory}
    (whole : createsWhole clientIdx params setups memory obj = true) :
    (mmJpegCreateSession clientIdx params setups memory obj).1.jobQueue = obj.jobQueue ∧
      (mmJpegCreateSession clientIdx params setups memory obj).1.ongoingJobQ =
        obj.ongoingJobQ := by
  rcases mmJpegCreateSession_cases whole with
    same | ⟨final, made, extra, outBufs, building, -, result⟩
  · rw [same]
    exact ⟨rfl, rfl⟩
  · rw [result]
    exact ⟨building.jobQueue, building.ongoingJobQ⟩

/-- It says nothing of jobs either. -/
theorem mmJpegCreateSession_emitted (clientIdx : Nat) (params : EncodeParams)
    (setups : List SessionSetup) (memory : CreateMemory) :
    ∃ rc sessionId, (mmJpegCreateSession clientIdx params setups memory obj).2 =
        [.created rc sessionId] := by
  unfold mmJpegCreateSession
  split
  · exact ⟨-1, none, rfl⟩
  · simp only
    split
    · exact ⟨_, _, rfl⟩
    · exact ⟨_, _, rfl⟩

/-- An event that moves no job and says nothing of one. -/
theorem Accounted.quiet (accounted : Accounted obj log)
    (todo : next.jobQueue = obj.jobQueue) (ongoing : next.ongoingJobQ = obj.ongoingJobQ)
    (silent : ∀ jobId, acceptedCount emitted jobId = 0 ∧ callbackCount emitted jobId = 0 ∧
      droppedCount emitted jobId = 0) :
    Accounted next (log ++ emitted) := by
  refine accounted.step ?_
  intro jobId
  obtain ⟨accepted, called, dropped⟩ := silent jobId
  rw [todo, ongoing]
  omega

/-- A job is accepted into the queue of jobs to do. -/
theorem Accounted.started {key : SessionKey} {job : EncodeJob} (accounted : Accounted obj log) :
    Accounted (jobStarted key job obj)
      (log ++ [.accepted (makeJobId key (obj.session key).jobHist)]) := by
  refine accounted.step ?_
  intro jobId
  simp only [acceptedCount, callbackCount, droppedCount, jobStarted, historyCounted,
    queuedCount, ServiceOutput.accepted?, ServiceOutput.jpegCb?,
    ServiceOutput.aborted?, ServiceOutput.discarded?,
    List.filterMap_cons, List.filterMap_nil, List.map_append,
    List.map_cons, List.map_nil, List.count_append, List.count_nil,
    setSession_ongoingJobQ]
  omega

/-- A job leaves the queues with one output that ends it. -/
theorem Accounted.ended {output : ServiceOutput} {jobId : JobId} (accounted : Accounted obj log)
    (ends : output = .aborted jobId ∨ ∃ status, output = .jpegCb status jobId)
    (left : ∀ other, queuedCount obj.jobQueue other + queuedCount obj.ongoingJobQ other =
      [jobId].count other + queuedCount next.jobQueue other +
        queuedCount next.ongoingJobQ other) :
    Accounted next (log ++ [output]) := by
  refine accounted.step ?_
  intro other
  have counts := left other
  rcases ends with rfl | ⟨status, rfl⟩
  all_goals
    simp only [acceptedCount, callbackCount, droppedCount, ServiceOutput.accepted?,
      ServiceOutput.jpegCb?, ServiceOutput.aborted?, ServiceOutput.discarded?,
      List.filterMap_cons, List.filterMap_nil, List.count_nil]
    omega

/-- The jobs of a destroyed session are discarded. -/
theorem Accounted.destroyed {key : SessionKey} {refused : List SessionKey} {queues : Nat}
    (accounted : Accounted obj log) :
    Accounted (mmJpegDestroySession queues key refused obj).1
      (log ++ (mmJpegDestroySession queues key refused obj).2) := by
  refine accounted.step ?_
  intro other
  have jobs := @mmJpegDestroySession_jobs refused obj key queues
  have todo := queuedCount_otherJobs key obj.jobQueue other
  have ongoing := queuedCount_otherJobs key obj.ongoingJobQ other
  have silent : ∀ queue : List JobNode,
      (discardedJobs key queue).filterMap ServiceOutput.accepted? = [] ∧
        (discardedJobs key queue).filterMap ServiceOutput.jpegCb? = [] ∧
        (discardedJobs key queue).filterMap ServiceOutput.aborted? = [] := by
    intro queue
    simp [discardedJobs, List.filterMap_map, Function.comp_def,
      ServiceOutput.accepted?, ServiceOutput.jpegCb?,
      ServiceOutput.aborted?]
  have emits : (mmJpegDestroySession queues key refused obj).2 =
        discardedJobs key obj.jobQueue ++ discardedJobs key obj.ongoingJobQ :=
    rfl
  simp only [emits, jobs.1, jobs.2, acceptedCount, callbackCount,
    droppedCount, List.filterMap_append, silent, List.append_nil,
    List.count_nil, List.count_append]
  omega

section Taking

variable {failing : Option EncodeStep} {base : JpegObj} {queues : Nat}
  {key : SessionKey} {taken : JobNode} {autoOutBuf : Bool}

/-- The job that is taken goes from one queue to the other. -/
theorem Accounted.submitted (accounted : Accounted obj log)
    (took : Taken obj base queues key node taken autoOutBuf) :
    Accounted (submitted config failing key autoOutBuf taken base) (log ++ []) := by
  refine accounted.step ?_
  intro other
  have todo : (JpegService.submitted config failing key autoOutBuf taken base).jobQueue =
        base.jobQueue :=
    rfl
  have ongoing : (JpegService.submitted config failing key autoOutBuf taken base).ongoingJobQ =
        obj.ongoingJobQ ++ [taken] := by
    rw [← took.ongoingJobQ]
    rfl
  simp only [todo, ongoing, took.todo, took.jobId, acceptedCount,
    callbackCount, droppedCount, queuedCount, List.filterMap_nil,
    List.map_cons, List.map_append, List.map_nil, List.count_append,
    List.count_cons, List.count_nil]
  omega

/-- A job that OMX does not take is answered with an error at once. -/
theorem failed_accounted (held : CallbackInvariant obj log)
    (took : Taken obj base queues key node taken autoOutBuf) :
    Accounted (mmJpegencJobDone ⟨true, output⟩ queues key
        (submitted config failing key autoOutBuf taken base))
      (log ++ callback .error
        ((submitted config failing key autoOutBuf taken base).session key)) := by
  obtain ⟨_, -, written⟩ :=
    @submitted_key config failing obj base queues key node taken autoOutBuf took
  have free : key ∈ obj.sessionHandleQ queues := by
    rw [took.free]
    exact List.mem_cons_self ..
  have withCb := held.jpegCb queues key (held.service.pool.handleInChain queues key free)
  have emits : callback .error ((submitted config failing key autoOutBuf taken base).session
            key) =
        [.jpegCb .error taken.jobId] := by
    rw [written]
    simp [callback, withCb]
  have ongoing : (submitted config failing key autoOutBuf taken base).ongoingJobQ =
        obj.ongoingJobQ ++ [taken] := by
    rw [← took.ongoingJobQ]
    rfl
  have done : (mmJpegencJobDone ⟨true, output⟩ queues key
      (submitted config failing key autoOutBuf taken base)).ongoingJobQ =
        withoutJob taken.jobId (obj.ongoingJobQ ++ [taken]) := by
    rw [mmJpegencJobDone_ongoingJobQ, written, ongoing]
  have todo : (mmJpegencJobDone ⟨true, output⟩ queues key
        (submitted config failing key autoOutBuf taken base)).jobQueue =
        base.jobQueue := by
    rw [mmJpegencJobDone_jobQueue]
    rfl
  rw [emits]
  refine held.accounted.ended (.inr ⟨.error, rfl⟩) ?_
  intro other
  have counts := @queuedCount_withoutJob (obj.ongoingJobQ ++ [taken]) taken.jobId (by simp) other
  rw [done, todo, took.todo]
  simp only [queuedCount, List.map_append, List.map_cons, List.map_nil, List.count_append,
    List.count_cons, List.count_nil, took.jobId] at counts ⊢
  omega

end Taking

/-- OMX has answered, and the job is done. -/
theorem answered_accounted {key : SessionKey} {queues : Nat}
    (status : JobStatus) (held : CallbackInvariant obj log) (busy : Busy obj key) :
    Accounted (mmJpegencJobDone ⟨true, output⟩ queues key (answered key obj))
      (log ++ [.jpegCb status (obj.session key).jobId]) := by
  refine held.accounted.ended (.inr ⟨status, rfl⟩) ?_
  intro other
  have counts := @queuedCount_answered obj key output held.service.pool busy queues other
  have todo : (answered key obj).jobQueue = obj.jobQueue := rfl
  rw [mmJpegencJobDone_jobQueue, todo]
  omega

/-- Every event keeps the bookkeeping of the job ids. -/
theorem change_accounted (held : CallbackInvariant obj log) (guard : answersAll obj event = true)
    (changed : Change config obj event next emitted) :
    Accounted next (log ++ emitted) := by
  have quiet : ∀ other : JpegObj, other.jobQueue = obj.jobQueue →
      other.ongoingJobQ = obj.ongoingJobQ →
      Accounted other (log ++ []) :=
    fun _ todo ongoing => held.accounted.quiet todo ongoing fun _ => ⟨rfl, rfl, rfl⟩
  simp only [answersAll, Bool.and_eq_true] at guard
  obtain ⟨⟨⟨keeps, alone⟩, -⟩, requeue⟩ := guard
  cases changed with
  | created clientIdx params setups memory count =>
    obtain ⟨rc, sessionId, emitted⟩ :=
      @mmJpegCreateSession_emitted obj clientIdx params setups memory
    obtain ⟨todo, ongoing⟩ := mmJpegCreateSession_jobs keeps
    rw [emitted]
    exact held.accounted.quiet todo ongoing fun _ => ⟨rfl, rfl, rfl⟩
  | rejected key job memory => exact held.accounted.quiet rfl rfl fun _ => ⟨rfl, rfl, rfl⟩
  | unqueued key job memory => exact held.accounted.quiet rfl rfl fun _ => ⟨rfl, rfl, rfl⟩
  | started key job memory isHeld dst => exact held.accounted.started
  | abortedTodo jobId refused node rest found =>
    refine held.accounted.ended (.inl rfl) ?_
    intro other
    have counts := queuedCount_remove found other
    have same := (removeJobByJobId_eq_some found).1
    simp only [queuedCount, List.map_cons, List.map_nil, same] at counts ⊢
    omega
  | abortedOngoing jobId refused node rest missing found =>
    refine held.accounted.ended (.inl rfl) ?_
    intro other
    have counts := queuedCount_remove found other
    have same := (removeJobByJobId_eq_some found).1
    simp only [queuedCount, List.map_cons, List.map_nil, same,
      mmJpegSessionAbort_jobQueue, mmJpegSessionAbort_ongoingJobQ] at counts ⊢
    omega
  | abortedNothing jobId refused => exact quiet _ rfl rfl
  | destroyed key refused queues isHeld home => exact held.accounted.destroyed
  | woken waiting token => exact quiet _ rfl rfl
  | full woken limit => exact quiet _ rfl rfl
  | checked woken => exact quiet _ rfl rfl
  | idle failing memory checked empty => exact quiet _ rfl rfl
  | requeued failing memory node rest queues checked todo home none => exact quiet _ rfl rfl
  | forgotten failing memory node rest queues checked todo home none noMemory =>
    simp only [requeues, noMemory] at requeue
    cases requeue
  | lost failing memory node rest queues key handles outBufs checked todo home free auto none =>
    exact absurd keeps (not_keepsSessions todo home free auto none)
  | submits failing memory base queues key node taken autoOutBuf checked took passes =>
    exact held.accounted.submitted took
  | fails failing memory base queues key node taken autoOutBuf checked took gaveUp =>
    exact failed_accounted held took
  | finished key queues memory owes abortState jpegCb home =>
    exact answered_accounted .done held (owed_busy held.service owes abortState)
  | dropped key memory owes silent => exact quiet _ rfl rfl
  | absorbed key isError memory init => exact quiet _ rfl rfl
  | erred key queues memory active notInit encoding home =>
    have withCb := held.jpegCb queues key ⟨active, home⟩
    have emits : callback .error (obj.session key) = [.jpegCb .error (obj.session key).jobId] := by
      simp [callback, withCb]
    rw [emits]
    exact answered_accounted .error held (errsAtWork_busy keeps active notInit encoding home)
  | noted key memory notInit notEncoding => exact quiet _ rfl rfl
  | ignored key memory notInit => exact quiet _ rfl rfl

end Steps

theorem callbackInvariant_zero : CallbackInvariant JpegObj.zero [] := by
  refine ⟨serviceInvariant_zero, ?_, ?_, ?_⟩
  · rintro key ⟨queues, ⟨active, -⟩, -⟩
    cases active
  · rintro queues key ⟨active, -⟩
    cases active
  · intro jobId
    rfl

theorem serviceStep_callbackInvariant {config : ServiceConfig} {event : ServiceEvent}
    {emitted : List ServiceOutput} (held : CallbackInvariant obj log)
    (guard : answersAll obj event = true) (withCb : hasJpegCb event = true)
    (stepped : serviceStep config obj event = some (next, emitted)) :
    CallbackInvariant next (log ++ emitted) := by
  have parts := guard
  simp only [answersAll, Bool.and_eq_true] at parts
  have changed := serviceStep_change parts.1.2 stepped
  replace parts := parts.1.1
  refine ⟨?_, ?_, ?_, ?_⟩
  · refine change_invariant held.service parts.1 ?_ changed
    rintro jobId refused node rest rfl missing found
    exact abortedOngoing_invariant held.service missing found parts.2
  · refine change_atWork held.service held.atWork parts.1 ?_ changed
    rintro key memory - ⟨queues, inChain, -⟩
    exact held.jpegCb queues key inChain
  · exact change_jpegCb held guard withCb changed
  · exact change_accounted held guard changed

theorem CallbackInvariant.callbacksOk (held : CallbackInvariant obj log) :
    CallbacksOk obj log := by
  refine ⟨?_, ?_, ?_⟩
  · intro todo ongoing jobId
    have counts := held.accounted jobId
    simp only [todo, ongoing, queuedCount, List.map_nil, List.count_nil] at counts
    omega
  · intro jobId
    have counts := held.accounted jobId
    omega
  · obtain ⟨workers, nodup, members, assigned⟩ := held.service.pool.workers
    refine ⟨workers, nodup, ?_, assigned⟩
    intro key member
    exact (held.atWork key ((members key).mp member)).1

/--
Every job is answered as it should be in a run that loses no session and in
which an abort stops no session but that of its job.
-/
theorem serviceRun_callbacksOk (config : ServiceConfig) (events : List ServiceEvent)
    (final : JpegObj) (log : List ServiceOutput)
    (withCb : ∀ event ∈ events, hasJpegCb event = true)
    (guarded : Guarded (serviceStep config) (fun obj _ event => answersAll obj event = true)
        JpegObj.zero [] events)
    (ran : run? (serviceStep config) JpegObj.zero events = some (final, log)) :
    CallbacksOk final log := by
  have each : Guarded (serviceStep config) (fun _ _ event => hasJpegCb event = true)
        JpegObj.zero [] events := by
    refine guarded_of_events ?_
    rintro earlier event later rfl
    exact withCb event (by simp)
  have held := invariant_of_guarded (fun obj _ log => CallbackInvariant obj log)
      [] (guarded.and each) ran callbackInvariant_zero
      (fun before met stepped =>
        serviceStep_callbackInvariant before met.1 met.2 stepped)
  exact held.callbacksOk

/-- A burst session whose two OMX sessions work on a job each. -/
def burstJobs : List ServiceEvent :=
  [.createSession 0 burstSession [wellMade, wellMade] createMemory,
    .startJob ⟨0, 0⟩ ⟨0, -1⟩ .enough, .startJob ⟨0, 0⟩ ⟨0, -1⟩ .enough] ++
    oneRound ++ oneRound

/--
The first OMX session answers its job with an error, the job of the second is
aborted: the walk stops at no other session at work.
-/
theorem serviceRun_callbacksOk_burst : ∃ final log, run? (serviceStep twoSessions) JpegObj.zero
          (burstJobs ++ [.eventHandler ⟨0, 0⟩ true doneMemory,
              .abortJob (makeJobId ⟨0, 0⟩ 1) []]) = some (final, log) ∧
        final.ongoingJobQ = [] ∧ CallbacksOk final log := by
  refine ⟨_, _, rfl, by decide, ?_⟩
  exact serviceRun_callbacksOk twoSessions (burstJobs ++
      [ServiceEvent.eventHandler ⟨0, 0⟩ true doneMemory, .abortJob (makeJobId ⟨0, 0⟩ 1) []]) _ _
    (by decide) (by decide) rfl

/-- A burst session with one output buffer. -/
def oneOutput : EncodeParams where
  numSrcBufs := 1
  numDstBufs := 1
  burstMode := true
  jpegCb := true

/--
Two jobs ask for an output buffer and there is one.  The second job is dropped
by the thread: both queues get empty and it has no callback.
-/
theorem serviceRun_losesCallback : ∃ final log, run? (serviceStep twoSessions) JpegObj.zero
          ([.createSession 0 oneOutput [wellMade, wellMade] createMemory,
            .startJob ⟨0, 0⟩ ⟨0, -1⟩ .enough, .startJob ⟨0, 0⟩ ⟨0, -1⟩ .enough] ++
              oneRound ++ oneRound ++ [.fbd ⟨0, 0⟩ doneMemory]) = some (final, log) ∧
        ¬ CallbacksOk final log := by
  refine ⟨_, _, rfl, ?_⟩
  intro ok
  have settled := ok.settled (by decide) (by decide) (makeJobId ⟨0, 0⟩ 1)
  revert settled
  decide

end AnglerHal.JpegService
