import AnglerHal.JpegInvariant

namespace AnglerHal.JpegService

open LabelledRun

/-!
# The wake-ups of the job manager thread

The thread takes a token in every round, also in rounds in which it finds too
many ongoing jobs or no free session.  It is woken again by the end of an
ongoing job, so a thread that waits without a token in front of a job must have
an ongoing job behind it.  That holds as long as no session is lost: a job that
finds no free session then finds the sessions of its chain at work.

`mm_jpeg_abort_job` on an ongoing job removes the job, keeps the session away
from its queue and posts no token.
-/

/-- A thread that waits without a token has nothing to do or will be woken. -/
def Awake (obj : JpegObj) : Prop :=
  obj.thread = .waiting → obj.jobSem = 0 → obj.jobQueue = [] ∨ obj.ongoingJobQ ≠ []

instance decidableAwake (obj : JpegObj) : Decidable (Awake obj) :=
  inferInstanceAs (Decidable (_ → _ → _ ∨ _))

/-- `mm_jpeg_abort_job` does not name a job that OMX works on. -/
def abortsWaiting (obj : JpegObj) : ServiceEvent → Bool
  | .abortJob jobId _ =>
    (removeJobByJobId jobId obj.jobQueue).isSome || (removeJobByJobId jobId obj.ongoingJobQ).isNone
  | _ => true

/--
No session is lost, also not for want of memory, and no ongoing job is aborted.
-/
def keepsWaking (obj : JpegObj) (event : ServiceEvent) : Bool :=
  keepsSessions obj event && abortsWaiting obj event && hasNodes event

/-- Every session outside its queue of free sessions is at work. -/
def NoneLost (obj : JpegObj) : Prop :=
  ∀ queues key, InChain obj queues key → key ∉ obj.sessionHandleQ queues →
        (obj.session key).abortState = .none

variable {obj : JpegObj} {node : JobNode} {queues : Nat} {key : SessionKey}

/-- The condition excludes an abort of an ongoing job. -/
theorem not_abortsWaiting {jobId : JobId} {refused : List SessionKey}
    {rest : List JobNode} (missing : removeJobByJobId jobId obj.jobQueue = none)
    (found : removeJobByJobId jobId obj.ongoingJobQ = some (node, rest)) :
    abortsWaiting obj (.abortJob jobId refused) = false := by
  simp [abortsWaiting, missing, found]

section Lost

variable {config : ServiceConfig} {next : JpegObj} {event : ServiceEvent}
  {emitted : List ServiceOutput}

theorem NoneLost.of_step (kept : NoneLost obj) (same : SameChains obj next) (step : ∀ queues key,
        InChain obj queues key → key ∉ next.sessionHandleQ queues →
            (next.session key).abortState = .none ∨ key ∉ obj.sessionHandleQ queues ∧
                ((obj.session key).abortState = .none → (next.session key).abortState = .none)) :
    NoneLost next := by
  intro queues key inChain absent
  have wasInChain := (same.inChain_iff queues key).mp inChain
  rcases step queues key wasInChain absent with atWork | ⟨wasOut, keeps⟩
  · exact atWork
  · exact keeps (kept queues key wasInChain wasOut)

theorem mmJpegencJobDone_noneLost {output : Bool} (kept : NoneLost obj) :
    NoneLost (mmJpegencJobDone ⟨true, output⟩ queues key obj) := by
  refine kept.of_step mmJpegencJobDone_sameChains ?_
  intro place other inChain absent
  right
  constructor
  · intro member
    refine absent ?_
    rw [mmJpegencJobDone_sessionHandleQ]
    by_cases isQueues : place = queues
    · rw [isQueues] at member ⊢
      simp [member]
    · rwa [setHandles_other _ _ isQueues]
  · rw [mmJpegencJobDone_session]
    by_cases isKey : other = key
    · subst isKey
      simp
    · rw [setSession_other _ _ isKey]
      exact id

theorem answered_noneLost (kept : NoneLost obj) :
    NoneLost (answered key obj) := by
  refine kept.of_step answered_sameChains ?_
  intro place other inChain absent
  obtain ⟨_, written⟩ := @answered_session obj key other
  right
  exact ⟨absent, by rw [written]; exact id⟩

theorem submitted_noneLost {failing : Option EncodeStep} {base : JpegObj}
    {taken : JobNode} {autoOutBuf : Bool} (kept : NoneLost obj)
    (took : Taken obj base queues key node taken autoOutBuf) :
    NoneLost (submitted config failing key autoOutBuf taken base) := by
  obtain ⟨_, -, written⟩ :=
    @submitted_key config failing obj base queues key node taken autoOutBuf took
  refine kept.of_step (submitted_sameChains took) ?_
  intro place other inChain absent
  by_cases isKey : other = key
  · left
    rw [isKey, written]
  · right
    rw [submitted_other took isKey]
    refine ⟨?_, id⟩
    intro member
    refine absent ?_
    have handles : (submitted config failing key autoOutBuf taken base).sessionHandleQ place =
          base.sessionHandleQ place :=
      rfl
    rw [handles]
    by_cases isQueues : place = queues
    · rw [isQueues] at member ⊢
      rw [took.free, List.mem_cons] at member
      exact member.resolve_left isKey
    · rwa [took.otherHandles place isQueues]

/-- No session is lost by an event that meets the condition. -/
theorem change_noneLost (held : ServiceInvariant obj) (kept : NoneLost obj)
    (guard : keepsWaking obj event = true)
    (changed : Change config obj event next emitted) :
    NoneLost next := by
  simp only [keepsWaking, Bool.and_eq_true] at guard
  obtain ⟨guard, -⟩ := guard
  cases changed with
  | created clientIdx params setups memory count =>
    rcases mmJpegCreateSession_cases guard.1 with
      same | ⟨final, made, extra, outBufs, building, -, result⟩
    · rw [same]
      exact kept
    · rw [result]
      intro place key inChain absent
      by_cases member : key ∈ made
      · exact (building.opened key member).2.1
      · have wasInChain : InChain obj place key := (building.inChain_iff member).mp inChain
        have notNew : place ≠ obj.queuesMade :=
          Nat.ne_of_lt (held.chains.numbered key place wasInChain.2)
        have wasOut : key ∉ obj.sessionHandleQ place := by
          intro inside
          refine absent ?_
          have handles := building.otherHandles place notNew
          rw [setOutBufs_sessionHandleQ, handles]
          rwa [newQueues, setOutBufs_sessionHandleQ, setHandles_other _ _ notNew]
        have unchanged := (building.active_unchanged wasInChain.1).2
        have atWork := kept place key wasInChain wasOut
        rw [setOutBufs_session, unchanged]
        exact atWork
  | rejected key job memory => exact kept
  | unqueued key job memory =>
    refine kept.of_step historyCounted_sameChains ?_
    intro place other inChain absent
    obtain ⟨_, written⟩ := @historyCounted_session obj key other
    right
    exact ⟨absent, by rw [written]; exact id⟩
  | started key job memory isHeld dst =>
    refine kept.of_step jobStarted_sameChains ?_
    intro place other inChain absent
    obtain ⟨_, written⟩ := @jobStarted_session obj key job other
    right
    exact ⟨absent, by rw [written]; exact id⟩
  | abortedTodo jobId refused node rest found => exact kept
  | abortedOngoing jobId refused node rest missing found =>
    rw [not_abortsWaiting missing found] at guard
    cases guard.2
  | abortedNothing jobId refused => exact kept
  | destroyed key refused queues isHeld home =>
    intro place other inChain absent
    obtain ⟨wasInChain, different⟩ :=
      (mmJpegDestroySession_inChain held.chains isHeld home place other).mp inChain
    rw [mmJpegDestroySession_handles, if_neg different] at absent
    have outside : other ∉ chainOf obj key := by
      intro member
      obtain ⟨-, inQueues⟩ := (held.chains.chain key isHeld other).mp member
      rw [home, wasInChain.2, Option.some.injEq] at inQueues
      exact different inQueues
    rw [mmJpegDestroySession_other outside]
    exact kept place other wasInChain absent
  | woken waiting token => exact kept
  | full woken limit => exact kept
  | checked woken => exact kept
  | idle failing memory checked empty => exact kept
  | requeued failing memory node rest queues checked todo home none => exact kept
  | forgotten failing memory node rest queues checked todo home none noMemory => exact kept
  | lost failing memory node rest queues key handles outBufs checked todo home free auto none =>
    exact absurd guard.1 (not_keepsSessions todo home free auto none)
  | submits failing memory base queues key node taken autoOutBuf checked took passes =>
    exact submitted_noneLost kept took
  | fails failing memory base queues key node taken autoOutBuf checked took gaveUp =>
    exact mmJpegencJobDone_noneLost (submitted_noneLost kept took)
  | finished key queues memory owes abortState jpegCb home =>
    exact mmJpegencJobDone_noneLost (answered_noneLost kept)
  | dropped key memory owes silent => exact answered_noneLost kept
  | absorbed key isError memory init =>
    refine kept.of_step (sameChains_setSession rfl rfl rfl) ?_
    intro place other inChain absent
    right
    refine ⟨absent, ?_⟩
    by_cases isKey : other = key
    · subst isKey
      simp [init]
    · rw [setSession_other _ _ isKey]
      exact id
  | erred key queues memory active notInit encoding home =>
    exact mmJpegencJobDone_noneLost (answered_noneLost kept)
  | noted key memory notInit notEncoding => exact answered_noneLost kept
  | ignored key memory notInit => exact kept

end Lost

section Waking

variable {config : ServiceConfig} {next : JpegObj} {event : ServiceEvent}
  {emitted : List ServiceOutput}

theorem ongoing_of_no_handle {node : JobNode} {queues : Nat}
    (held : ServiceInvariant obj) (kept : NoneLost obj) (todo : node ∈ obj.jobQueue)
    (home : (obj.session node.jobId.session).queues = some queues)
    (none : obj.sessionHandleQ queues = []) :
    obj.ongoingJobQ ≠ [] := by
  have isHeld := held.pool.todoHeld node todo
  obtain ⟨place, inChain⟩ := held.chains.headInChain _ isHeld
  have same : some place = some queues := inChain.2.symm.trans home
  rw [Option.some.injEq] at same
  rw [same] at inChain
  have absent : node.jobId.session ∉ obj.sessionHandleQ queues := by
    simp [none]
  have busy : Busy obj node.jobId.session := ⟨queues, inChain, kept queues _ inChain absent, absent⟩
  intro empty
  have present := busy_ongoing held.pool busy
  simp [empty] at present

theorem change_awake (held : ServiceInvariant obj) (kept : NoneLost obj) (awake : Awake obj)
    (guard : keepsWaking obj event = true)
    (changed : Change config obj event next emitted) :
    Awake next := by
  have posted : ∀ other : JpegObj, other.jobSem = obj.jobSem + 1 → Awake other := by
    intro other token _ empty
    omega
  simp only [keepsWaking, Bool.and_eq_true] at guard
  obtain ⟨guard, -⟩ := guard
  cases changed with
  | created clientIdx params setups memory count =>
    rcases mmJpegCreateSession_cases guard.1 with
      same | ⟨final, made, extra, outBufs, building, -, result⟩
    · rw [same]
      exact awake
    · rw [result]
      intro waiting empty
      have todo : final.jobQueue = obj.jobQueue := building.jobQueue
      have ongoing : final.ongoingJobQ = obj.ongoingJobQ := building.ongoingJobQ
      have outcome := awake (building.thread.symm.trans waiting) (building.jobSem.symm.trans empty)
      rw [← todo, ← ongoing] at outcome
      exact outcome
  | rejected key job memory => exact awake
  | unqueued key job memory => exact awake
  | started key job memory isHeld dst => exact posted _ rfl
  | abortedTodo jobId refused node rest found =>
    intro waiting empty
    rcases awake waiting empty with nothing | ongoing
    · simp [nothing, removeJobByJobId] at found
    · exact .inr ongoing
  | abortedOngoing jobId refused node rest missing found =>
    rw [not_abortsWaiting missing found] at guard
    cases guard.2
  | abortedNothing jobId refused => exact awake
  | destroyed key refused queues isHeld home => exact posted _ rfl
  | woken waiting token =>
    intro waiting
    cases waiting
  | full woken limit =>
    intro _ _
    right
    intro empty
    have positive := config.positive
    simp only at empty
    rw [empty] at limit
    simp only [List.length_nil] at limit
    omega
  | checked woken =>
    intro waiting
    cases waiting
  | idle failing memory checked empty => exact fun _ _ => .inl empty
  | requeued failing memory node rest queues checked todo home none =>
    intro _ _
    right
    have member : node ∈ obj.jobQueue := by
      rw [todo]
      exact List.mem_cons_self ..
    exact @ongoing_of_no_handle obj node queues held kept member home none
  | forgotten failing memory node rest queues checked todo home none noMemory =>
    intro _ _
    right
    have member : node ∈ obj.jobQueue := by
      rw [todo]
      exact List.mem_cons_self ..
    exact @ongoing_of_no_handle obj node queues held kept member home none
  | lost failing memory node rest queues key handles outBufs checked todo home free auto none =>
    exact absurd guard.1 (not_keepsSessions todo home free auto none)
  | submits failing memory base queues key node taken autoOutBuf checked took passes =>
    intro _ _
    right
    simp [submitted]
  | fails failing memory base queues key node taken autoOutBuf checked took gaveUp =>
    refine posted _ ?_
    rw [mmJpegencJobDone_jobSem]
    exact congrArg (· + 1) took.jobSem
  | finished key queues memory owes abortState jpegCb home => exact posted _ rfl
  | dropped key memory owes silent => exact awake
  | absorbed key isError memory init => exact awake
  | erred key queues memory active notInit encoding home => exact posted _ rfl
  | noted key memory notInit notEncoding => exact awake
  | ignored key memory notInit => exact awake

end Waking

/-- What the wake-ups need of a state. -/
structure WakeInvariant (obj : JpegObj) : Prop where
  service : ServiceInvariant obj
  noneLost : NoneLost obj
  awake : Awake obj

theorem wakeInvariant_zero : WakeInvariant JpegObj.zero := by
  refine ⟨serviceInvariant_zero, ?_, fun _ _ => .inl rfl⟩
  rintro queues key ⟨active, -⟩
  cases active

theorem serviceStep_wakeInvariant {config : ServiceConfig} {next : JpegObj}
    {event : ServiceEvent} {emitted : List ServiceOutput} (held : WakeInvariant obj)
    (guard : keepsWaking obj event = true)
    (stepped : serviceStep config obj event = some (next, emitted)) :
    WakeInvariant next := by
  have parts := guard
  simp only [keepsWaking, Bool.and_eq_true] at parts
  have changed := serviceStep_change parts.2 stepped
  replace parts := parts.1
  refine ⟨?_, ?_, ?_⟩
  · refine change_invariant held.service parts.1 ?_ changed
    rintro jobId refused node rest rfl missing found
    rw [not_abortsWaiting missing found] at parts
    cases parts.2
  · exact change_noneLost held.service held.noneLost guard changed
  · exact change_awake held.service held.noneLost held.awake guard changed

/--
No wake-up is lost in a run that loses no session and aborts no ongoing job.
-/
theorem serviceRun_awake (config : ServiceConfig) (events : List ServiceEvent) (final : JpegObj)
    (log : List ServiceOutput)
    (guarded : Guarded (serviceStep config) (fun obj _ event => keepsWaking obj event = true)
        JpegObj.zero [] events)
    (ran : run? (serviceStep config) JpegObj.zero events = some (final, log)) :
    Awake final := by
  have held := stateInvariant_of_guarded WakeInvariant guarded ran wakeInvariant_zero
      (fun before met stepped => serviceStep_wakeInvariant before met stepped)
  exact held.awake

/-- A client, its two jobs, and a thread that has begun the first one. -/
def twoJobs : List ServiceEvent :=
  [.createSession 0 oneBuffer [wellMade] createMemory,
    .startJob ⟨0, 0⟩ ⟨0, 0⟩ .enough, .startJob ⟨0, 0⟩ ⟨0, 0⟩ .enough] ++
    oneRound ++ [.semWait, .checkOngoing]

/-- The first of two jobs ends and wakes the thread for the second one. -/
theorem serviceRun_awake_twoJobs : ∃ final log, run? (serviceStep singleSession) JpegObj.zero
          (twoJobs ++ [.fbd ⟨0, 0⟩ doneMemory]) = some (final, log) ∧
        final.jobQueue ≠ [] ∧ final.thread = .waiting ∧ Awake final := by
  refine ⟨_, _, rfl, by decide, by decide, ?_⟩
  exact serviceRun_awake singleSession (twoJobs ++ [ServiceEvent.fbd ⟨0, 0⟩ doneMemory]) _ _
    (by decide) rfl

/-- Aborting the first of two jobs leaves the second one and a thread asleep. -/
theorem serviceRun_sleeps : ∃ final log, run? (serviceStep singleSession) JpegObj.zero
          (twoJobs ++ [.abortJob (makeJobId ⟨0, 0⟩ 0) []]) = some (final, log) ∧
        ¬ Awake final := by
  exact ⟨_, _, rfl, by decide⟩

end AnglerHal.JpegService
