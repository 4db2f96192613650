import AnglerHal.JpegService
import Mathlib.Data.List.Perm.Basic

namespace AnglerHal.JpegService

/-!
# Free and busy OMX sessions

A chain's OMX sessions wait in `session_handle_q` and leave it for a job.  The
invariant of this module relates the sessions that are neither waiting nor
aborted to the jobs of `ongoing_job_q`: one session for each job.  It does not
mind job ids that occur twice.
-/

section Updates

variable (obj : JpegObj) (key other : SessionKey) (value : JobSession) (queues : Nat)
  (handles : List SessionKey)
  (outBufs : List Nat)

@[simp] theorem setSession_same : (obj.setSession key value).session key = value := by
  simp [JpegObj.setSession]

theorem setSession_other {other key : SessionKey} (different : other ≠ key) :
    (obj.setSession key value).session other = obj.session other := by
  simp [JpegObj.setSession, different]

@[simp] theorem setSession_sessionHandleQ :
    (obj.setSession key value).sessionHandleQ = obj.sessionHandleQ :=
  rfl

@[simp] theorem setSession_ongoingJobQ : (obj.setSession key value).ongoingJobQ = obj.ongoingJobQ :=
  rfl

@[simp] theorem setHandles_same :
    (obj.setHandles queues handles).sessionHandleQ queues = handles := by
  simp [JpegObj.setHandles]

theorem setHandles_other {different queues : Nat} (apart : different ≠ queues) :
    (obj.setHandles queues handles).sessionHandleQ different =
      obj.sessionHandleQ different := by
  simp [JpegObj.setHandles, apart]

@[simp] theorem setHandles_session : (obj.setHandles queues handles).session = obj.session :=
  rfl

@[simp] theorem setOutBufs_session : (obj.setOutBufs queues outBufs).session = obj.session :=
  rfl

@[simp] theorem setOutBufs_sessionHandleQ :
    (obj.setOutBufs queues outBufs).sessionHandleQ = obj.sessionHandleQ :=
  rfl

end Updates

/-- The session belongs to the chain with these queues. -/
def InChain (obj : JpegObj) (queues : Nat) (key : SessionKey) : Prop :=
  (obj.session key).active = true ∧ (obj.session key).queues = some queues

/-- The session has left its queue of free sessions and is not aborted. -/
def Busy (obj : JpegObj) (key : SessionKey) : Prop :=
  ∃ queues, InChain obj queues key ∧ (obj.session key).abortState = .none ∧
      key ∉ obj.sessionHandleQ queues

/-- The chains that clients hold and the queues they use. -/
structure ChainInvariant (obj : JpegObj) : Prop where
  idsNodup : obj.sessionIds.Nodup
  headInChain : ∀ head ∈ obj.sessionIds, ∃ queues, InChain obj queues head
  headsApart : ∀ head ∈ obj.sessionIds, ∀ other ∈ obj.sessionIds,
      (obj.session head).queues = (obj.session other).queues → head = other
  numbered : ∀ key queues, (obj.session key).queues = some queues → queues < obj.queuesMade
  chain : ∀ head ∈ obj.sessionIds, ∀ key, key ∈ chainOf obj head ↔ (obj.session key).active = true ∧
          (obj.session key).queues = (obj.session head).queues

/-- The free sessions, the sessions OMX works for, and the ongoing jobs. -/
structure PoolInvariant (obj : JpegObj) : Prop where
  handleNodup : ∀ queues, (obj.sessionHandleQ queues).Nodup
  handleInChain : ∀ queues, ∀ key ∈ obj.sessionHandleQ queues, InChain obj queues key
  owed : ∀ key, (obj.session key).omxOwes = true →
        ∃ queues, InChain obj queues key ∧ key ∉ obj.sessionHandleQ queues
  todoHeld : ∀ node ∈ obj.jobQueue, node.jobId.session ∈ obj.sessionIds
  ongoingHeld : ∀ node ∈ obj.ongoingJobQ, node.jobId.session ∈ obj.sessionIds
  workers : ∃ workers : List SessionKey, workers.Nodup ∧ (∀ key, key ∈ workers ↔ Busy obj key) ∧
        (workers.map fun key => (obj.session key).jobId).Perm (obj.ongoingJobQ.map JobNode.jobId)
  workerChain : ∀ key, Busy obj key → (obj.session (obj.session key).jobId.session).queues =
          (obj.session key).queues

/-- A step that makes and ends no session. -/
structure SameChains (obj next : JpegObj) : Prop where
  ids : next.sessionIds = obj.sessionIds
  made : next.queuesMade = obj.queuesMade
  active : ∀ key, (next.session key).active = (obj.session key).active
  queues : ∀ key, (next.session key).queues = (obj.session key).queues
  nextSession : ∀ key, (next.session key).nextSession = (obj.session key).nextSession

theorem SameChains.trans {obj middle next : JpegObj} (first : SameChains obj middle)
    (second : SameChains middle next) :
    SameChains obj next where
  ids := second.ids.trans first.ids
  made := second.made.trans first.made
  active := fun key => (second.active key).trans (first.active key)
  queues := fun key => (second.queues key).trans (first.queues key)
  nextSession := fun key =>
    (second.nextSession key).trans (first.nextSession key)

variable {key : SessionKey} {obj next : JpegObj}

/-- A new record that keeps a session in its chain. -/
theorem sameChains_setSession {value : JobSession}
    (active : value.active = (obj.session key).active)
    (queues : value.queues = (obj.session key).queues)
    (nextSession : value.nextSession = (obj.session key).nextSession) :
    SameChains obj (obj.setSession key value) := by
  refine ⟨rfl, rfl, ?_, ?_, ?_⟩
  all_goals
    intro other
    by_cases same : other = key
    · subst same
      simp [active, queues, nextSession]
    · rw [setSession_other _ _ same]

/-- The walk along a chain reads the links only. -/
theorem chainFrom_congr (links :
      ∀ key, (next.session key).nextSession = (obj.session key).nextSession)
    (steps : Nat)
    (key : SessionKey) :
    chainFrom next steps key = chainFrom obj steps key := by
  induction steps generalizing key with
  | zero => rfl
  | succ steps inductionHypothesis =>
    simp only [chainFrom, links key]
    cases (obj.session key).nextSession with
    | none => rfl
    | some following => simp [inductionHypothesis]

theorem SameChains.inChain_iff (same : SameChains obj next) (queues : Nat)
    (key : SessionKey) :
    InChain next queues key ↔ InChain obj queues key := by
  rw [InChain, InChain, same.active, same.queues]

theorem SameChains.chainInvariant (same : SameChains obj next)
    (chains : ChainInvariant obj) :
    ChainInvariant next where
  idsNodup := by
    rw [same.ids]
    exact chains.idsNodup
  headInChain := by
    intro head held
    rw [same.ids] at held
    obtain ⟨queues, inChain⟩ := chains.headInChain head held
    exact ⟨queues, (same.inChain_iff queues head).mpr inChain⟩
  headsApart := by
    intro head held other otherHeld equal
    rw [same.ids] at held otherHeld
    rw [same.queues, same.queues] at equal
    exact chains.headsApart head held other otherHeld equal
  numbered := by
    intro key queues equal
    rw [same.queues] at equal
    rw [same.made]
    exact chains.numbered key queues equal
  chain := by
    intro head held key
    rw [same.ids] at held
    rw [chainOf, chainFrom_congr same.nextSession, same.active, same.queues, same.queues]
    exact chains.chain head held key

/-- A free session is not busy. -/
theorem not_busy_of_free {queues : Nat} (pool : PoolInvariant obj)
    (free : key ∈ obj.sessionHandleQ queues) :
    ¬ Busy obj key := by
  rintro ⟨home, inChain, -, absent⟩
  have inQueues := pool.handleInChain queues key free
  have same : some home = some queues := inChain.2.symm.trans inQueues.2
  rw [Option.some.injEq] at same
  rw [same] at absent
  exact absent free

/-- A busy session has an ongoing job with the id it works on. -/
theorem busy_ongoing (pool : PoolInvariant obj) (busy : Busy obj key) :
    (obj.session key).jobId ∈ obj.ongoingJobQ.map JobNode.jobId := by
  obtain ⟨workers, -, members, assigned⟩ := pool.workers
  refine assigned.subset ?_
  exact List.mem_map_of_mem ((members key).mpr busy)

/-- What a step leaves alone when no session starts or ends work. -/
theorem PoolInvariant.of_agree (pool : PoolInvariant obj) (same : SameChains obj next)
    (handles : next.sessionHandleQ = obj.sessionHandleQ)
    (abortState : ∀ key, (next.session key).abortState = .none ↔
          (obj.session key).abortState = .none)
    (jobId : ∀ key, (next.session key).jobId = (obj.session key).jobId)
    (omxOwes : ∀ key, (next.session key).omxOwes = true → (obj.session key).omxOwes = true)
    (ongoing : next.ongoingJobQ = obj.ongoingJobQ)
    (todo : ∀ node ∈ next.jobQueue, node.jobId.session ∈ obj.sessionIds) :
    PoolInvariant next := by
  have busy : ∀ key, Busy next key ↔ Busy obj key := by
    intro key
    simp only [Busy, same.inChain_iff, abortState, handles]
  refine ⟨?_, ?_, ?_, ?_, ?_, ?_, ?_⟩
  · rw [handles]
    exact pool.handleNodup
  · intro queues key member
    rw [handles] at member
    exact (same.inChain_iff queues key).mpr (pool.handleInChain queues key member)
  · intro key owes
    obtain ⟨queues, inChain, absent⟩ := pool.owed key (omxOwes key owes)
    refine ⟨queues, (same.inChain_iff queues key).mpr inChain, ?_⟩
    rw [handles]
    exact absent
  · rw [same.ids]
    exact todo
  · rw [same.ids, ongoing]
    exact pool.ongoingHeld
  · obtain ⟨workers, nodup, members, assigned⟩ := pool.workers
    refine ⟨workers, nodup, ?_, ?_⟩
    · intro key
      rw [members, busy]
    · simp only [jobId, ongoing]
      exact assigned
  · intro key isBusy
    rw [jobId, same.queues, same.queues]
    exact pool.workerChain key ((busy key).mp isBusy)

section Dispatch

variable {obj next : JpegObj} {queues : Nat} {key : SessionKey} {rest : List SessionKey}
  {node : JobNode}

/-- Who is busy after the first free session is given a job. -/
theorem dispatched_busy (pool : PoolInvariant obj)
    (free : obj.sessionHandleQ queues = key :: rest) (same : SameChains obj next)
    (handles : next.sessionHandleQ queues = rest)
    (otherHandles : ∀ other, other ≠ queues → next.sessionHandleQ other = obj.sessionHandleQ other)
    (others : ∀ other, other ≠ key → next.session other = obj.session other)
    (abortState : (next.session key).abortState = .none) (other : SessionKey) :
    Busy next other ↔ other = key ∨ Busy obj other := by
  have nodup := pool.handleNodup queues
  rw [free, List.nodup_cons] at nodup
  have keyFree : key ∈ obj.sessionHandleQ queues := by
    simp [free]
  have keyInChain := pool.handleInChain queues key keyFree
  by_cases isKey : other = key
  · subst isKey
    refine ⟨fun _ => .inl rfl, fun _ => ?_⟩
    refine ⟨queues, (same.inChain_iff queues other).mpr keyInChain, abortState, ?_⟩
    rw [handles]
    exact nodup.1
  · simp only [isKey, false_or]
    have waits : ∀ home, other ∈ next.sessionHandleQ home ↔ other ∈ obj.sessionHandleQ home := by
      intro home
      by_cases isQueues : home = queues
      · subst isQueues
        rw [handles, free]
        simp [isKey]
      · rw [otherHandles home isQueues]
    simp only [Busy, same.inChain_iff, waits, others other isKey]

/-- Giving the first free session a job. -/
theorem PoolInvariant.dispatched (pool : PoolInvariant obj)
    (free : obj.sessionHandleQ queues = key :: rest) (same : SameChains obj next)
    (handles : next.sessionHandleQ queues = rest)
    (otherHandles : ∀ other, other ≠ queues → next.sessionHandleQ other = obj.sessionHandleQ other)
    (others : ∀ other, other ≠ key → next.session other = obj.session other)
    (abortState : (next.session key).abortState = .none)
    (jobId : (next.session key).jobId = node.jobId)
    (ongoing : next.ongoingJobQ = obj.ongoingJobQ ++ [node])
    (todo : ∀ node ∈ next.jobQueue, node.jobId.session ∈ obj.sessionIds)
    (held : node.jobId.session ∈ obj.sessionIds)
    (home : (obj.session node.jobId.session).queues = some queues) :
    PoolInvariant next := by
  have nodup := pool.handleNodup queues
  rw [free, List.nodup_cons] at nodup
  have keyFree : key ∈ obj.sessionHandleQ queues := by
    simp [free]
  have keyInChain := pool.handleInChain queues key keyFree
  have busy := dispatched_busy pool free same handles otherHandles others abortState
  have waits : ∀ home other,
      other ∈ next.sessionHandleQ home → other ∈ obj.sessionHandleQ home := by
    intro home other member
    by_cases isQueues : home = queues
    · subst isQueues
      rw [handles] at member
      simp [free, member]
    · rwa [otherHandles home isQueues] at member
  refine ⟨?_, ?_, ?_, ?_, ?_, ?_, ?_⟩
  · intro home
    by_cases isQueues : home = queues
    · subst isQueues
      rw [handles]
      exact nodup.2
    · rw [otherHandles home isQueues]
      exact pool.handleNodup home
  · intro home other member
    exact (same.inChain_iff home other).mpr
      (pool.handleInChain home other (waits home other member))
  · intro other owes
    by_cases isKey : other = key
    · subst isKey
      refine ⟨queues, (same.inChain_iff queues other).mpr keyInChain, ?_⟩
      rw [handles]
      exact nodup.1
    · rw [others other isKey] at owes
      obtain ⟨home, inChain, absent⟩ := pool.owed other owes
      refine ⟨home, (same.inChain_iff home other).mpr inChain, ?_⟩
      exact fun member => absent (waits home other member)
  · rw [same.ids]
    exact todo
  · intro other member
    rw [ongoing, List.mem_append, List.mem_singleton] at member
    rw [same.ids]
    rcases member with member | rfl
    · exact pool.ongoingHeld other member
    · exact held
  · obtain ⟨workers, workersNodup, members, assigned⟩ := pool.workers
    have keyNew : key ∉ workers := by
      rw [members]
      exact not_busy_of_free pool keyFree
    refine ⟨workers ++ [key], ?_, ?_, ?_⟩
    · exact List.nodup_append.mpr ⟨workersNodup, by simp, by
          intro first member second isKey
          rw [List.mem_singleton] at isKey
          rw [isKey]
          exact fun equal => keyNew (equal ▸ member)⟩
    · intro other
      rw [List.mem_append, List.mem_singleton, busy, members, or_comm]
    · rw [ongoing, List.map_append, List.map_append]
      refine List.Perm.append ?_ (by simp [jobId])
      have unchanged : (workers.map fun other => (next.session other).jobId) =
            workers.map fun other => (obj.session other).jobId := by
        refine List.map_congr_left ?_
        intro other member
        have different : other ≠ key := fun equal => keyNew (equal ▸ member)
        rw [others other different]
      rw [unchanged]
      exact assigned
  · intro other isBusy
    rw [same.queues, same.queues]
    rcases (busy other).mp isBusy with rfl | wasBusy
    · rw [jobId, home, keyInChain.2]
    · by_cases isKey : other = key
      · subst isKey
        exact absurd wasBusy (not_busy_of_free pool keyFree)
      · rw [others other isKey]
        exact pool.workerChain other wasBusy

end Dispatch

section Removal

variable {jobId : JobId} {queue rest : List JobNode} {node : JobNode}

/-- The node that is found has the id, and the rest is what is left. -/
theorem removeJobByJobId_eq_some (found : removeJobByJobId jobId queue = some (node, rest)) :
    node.jobId = jobId ∧ queue.Perm (node :: rest) := by
  induction queue generalizing rest with
  | nil => simp [removeJobByJobId] at found
  | cons first others inductionHypothesis =>
    by_cases isFirst : first.jobId = jobId
    · simp only [removeJobByJobId, isFirst, if_pos, Option.some.injEq, Prod.mk.injEq] at found
      obtain ⟨rfl, rfl⟩ := found
      exact ⟨isFirst, List.Perm.refl _⟩
    · simp only [removeJobByJobId, if_neg isFirst] at found
      cases later : removeJobByJobId jobId others with
      | none => simp [later] at found
      | some result =>
        obtain ⟨other, remaining⟩ := result
        simp only [later, Option.some.injEq, Prod.mk.injEq] at found
        obtain ⟨rfl, rfl⟩ := found
        obtain ⟨same, shape⟩ := inductionHypothesis later
        exact ⟨same, (shape.cons first).trans (List.Perm.swap _ _ _)⟩

theorem removeJobByJobId_eq_none (missing : removeJobByJobId jobId queue = none) :
    jobId ∉ queue.map JobNode.jobId := by
  induction queue with
  | nil => simp
  | cons first others inductionHypothesis =>
    by_cases isFirst : first.jobId = jobId
    · simp [removeJobByJobId, isFirst] at missing
    · simp only [removeJobByJobId, if_neg isFirst] at missing
      cases later : removeJobByJobId jobId others with
      | none =>
        simp only [List.map_cons, List.mem_cons, not_or]
        exact ⟨fun same => isFirst same.symm, inductionHypothesis later⟩
      | some result => simp [later] at missing

/-- An id of the queue is taken out once. -/
theorem withoutJob_perm (present : jobId ∈ queue.map JobNode.jobId) : (queue.map JobNode.jobId).Perm
      (jobId :: (withoutJob jobId queue).map JobNode.jobId) := by
  unfold withoutJob
  cases found : removeJobByJobId jobId queue with
  | none => exact absurd present (removeJobByJobId_eq_none found)
  | some result =>
    obtain ⟨node, rest⟩ := result
    obtain ⟨rfl, shape⟩ := removeJobByJobId_eq_some found
    exact shape.map JobNode.jobId

theorem mem_of_mem_withoutJob (member : node ∈ withoutJob jobId queue) : node ∈ queue := by
  unfold withoutJob at member
  cases found : removeJobByJobId jobId queue with
  | none => rwa [found] at member
  | some result =>
    obtain ⟨removed, rest⟩ := result
    rw [found] at member
    exact (removeJobByJobId_eq_some found).2.symm.subset (List.mem_cons_of_mem _ member)

end Removal

section JobDone

variable {obj : JpegObj} {queues : Nat} {key : SessionKey} {output : Bool}

@[simp] theorem mmJpegencJobDone_ongoingJobQ :
    (mmJpegencJobDone ⟨true, output⟩ queues key obj).ongoingJobQ =
      withoutJob (obj.session key).jobId obj.ongoingJobQ := by
  simp only [mmJpegencJobDone]
  split <;> rfl

@[simp] theorem mmJpegencJobDone_jobQueue :
    (mmJpegencJobDone ⟨true, output⟩ queues key obj).jobQueue = obj.jobQueue := by
  simp only [mmJpegencJobDone]
  split <;> rfl

@[simp] theorem mmJpegencJobDone_jobSem :
    (mmJpegencJobDone ⟨true, output⟩ queues key obj).jobSem = obj.jobSem + 1 :=
  rfl

@[simp] theorem mmJpegencJobDone_sessionHandleQ :
    (mmJpegencJobDone ⟨true, output⟩ queues key obj).sessionHandleQ =
      (obj.setHandles queues (obj.sessionHandleQ queues ++ [key])).sessionHandleQ := by
  simp only [mmJpegencJobDone]
  split <;> rfl

@[simp] theorem mmJpegencJobDone_session :
    (mmJpegencJobDone ⟨true, output⟩ queues key obj).session =
      (obj.setSession key { obj.session key with encoding := false }).session := by
  simp only [mmJpegencJobDone]
  split <;> rfl

theorem mmJpegencJobDone_sameChains :
    SameChains obj (mmJpegencJobDone ⟨true, output⟩ queues key obj) := by
  have ofSession : SameChains obj (obj.setSession key { obj.session key with encoding := false }) :=
    sameChains_setSession rfl rfl rfl
  refine ⟨?_, ?_, ?_, ?_, ?_⟩
  · simp only [mmJpegencJobDone]
    split <;> rfl
  · simp only [mmJpegencJobDone]
    split <;> rfl
  all_goals
    intro other
    rw [mmJpegencJobDone_session]
  · exact ofSession.active other
  · exact ofSession.queues other
  · exact ofSession.nextSession other

/-- A session that is done with its job is free again. -/
theorem mmJpegencJobDone_busy (home : (obj.session key).queues = some queues) (other : SessionKey) :
    Busy (mmJpegencJobDone ⟨true, output⟩ queues key obj) other ↔ other ≠ key ∧ Busy obj other := by
  have same := @mmJpegencJobDone_sameChains obj queues key output
  by_cases isKey : other = key
  · subst isKey
    simp only [ne_eq, not_true_eq_false, false_and, iff_false]
    rintro ⟨place, inChain, -, absent⟩
    have equal : some place = some queues := by
      rw [← home, ← same.queues]
      exact inChain.2.symm
    rw [Option.some.injEq] at equal
    rw [equal] at absent
    simp at absent
  · have waits : ∀ place,
      other ∈ (mmJpegencJobDone ⟨true, output⟩ queues key obj).sessionHandleQ place ↔
          other ∈ obj.sessionHandleQ place := by
      intro place
      rw [mmJpegencJobDone_sessionHandleQ]
      by_cases isQueues : place = queues
      · subst isQueues
        simp [isKey]
      · rw [setHandles_other _ _ isQueues]
    simp only [Busy, same.inChain_iff, waits]
    rw [mmJpegencJobDone_session, setSession_other _ _ isKey]
    simp [isKey]

/-- `mm_jpegenc_job_done` of a busy session that OMX has answered. -/
theorem PoolInvariant.jobDone (pool : PoolInvariant obj) (busy : Busy obj key)
    (home : (obj.session key).queues = some queues)
    (answered : (obj.session key).omxOwes = false) :
    PoolInvariant (mmJpegencJobDone ⟨true, output⟩ queues key obj) := by
  have same := @mmJpegencJobDone_sameChains obj queues key output
  have busyAfter := @mmJpegencJobDone_busy obj queues key output home
  have ⟨place, inChain, _, absent⟩ := busy
  have isHome : some place = some queues := inChain.2.symm.trans home
  rw [Option.some.injEq] at isHome
  rw [isHome] at absent inChain
  have waits : ∀ other place, other ≠ key →
      (other ∈ (mmJpegencJobDone ⟨true, output⟩ queues key obj).sessionHandleQ place ↔
        other ∈ obj.sessionHandleQ place) := by
    intro other place different
    rw [mmJpegencJobDone_sessionHandleQ]
    by_cases isQueues : place = queues
    · subst isQueues
      simp [different]
    · rw [setHandles_other _ _ isQueues]
  refine ⟨?_, ?_, ?_, ?_, ?_, ?_, ?_⟩
  · intro place
    rw [mmJpegencJobDone_sessionHandleQ]
    by_cases isQueues : place = queues
    · subst isQueues
      rw [setHandles_same]
      exact List.nodup_append.mpr ⟨pool.handleNodup place, by simp, by
          intro first member second isKey
          rw [List.mem_singleton] at isKey
          rw [isKey]
          exact fun equal => absent (equal ▸ member)⟩
    · rw [setHandles_other _ _ isQueues]
      exact pool.handleNodup place
  · intro place other member
    rw [same.inChain_iff]
    by_cases isKey : other = key
    · subst isKey
      by_cases isQueues : place = queues
      · rw [isQueues]
        exact inChain
      · rw [mmJpegencJobDone_sessionHandleQ, setHandles_other _ _ isQueues] at member
        exact pool.handleInChain place other member
    · exact pool.handleInChain place other ((waits other place isKey).mp member)
  · intro other owes
    by_cases isKey : other = key
    · subst isKey
      simp [answered] at owes
    · rw [mmJpegencJobDone_session, setSession_other _ _ isKey] at owes
      obtain ⟨place, otherInChain, otherAbsent⟩ := pool.owed other owes
      refine ⟨place, (same.inChain_iff place other).mpr otherInChain, ?_⟩
      rw [waits other place isKey]
      exact otherAbsent
  · rw [same.ids, mmJpegencJobDone_jobQueue]
    exact pool.todoHeld
  · rw [same.ids, mmJpegencJobDone_ongoingJobQ]
    exact fun node member =>
      pool.ongoingHeld node (mem_of_mem_withoutJob member)
  · obtain ⟨workers, nodup, members, assigned⟩ := pool.workers
    have working : key ∈ workers := (members key).mpr busy
    refine ⟨workers.erase key, nodup.erase key, ?_, ?_⟩
    · intro other
      rw [nodup.mem_erase_iff, members, busyAfter]
    · have unchanged : ((workers.erase key).map fun other =>
              ((mmJpegencJobDone ⟨true, output⟩ queues key obj).session other).jobId) =
            (workers.erase key).map fun other =>
              (obj.session other).jobId := by
        refine List.map_congr_left ?_
        intro other member
        rw [nodup.mem_erase_iff] at member
        rw [mmJpegencJobDone_session, setSession_other _ _ member.1]
      rw [unchanged, mmJpegencJobDone_ongoingJobQ]
      have split : (workers.map fun other => (obj.session other).jobId).Perm
            ((obj.session key).jobId :: (workers.erase key).map fun other =>
                (obj.session other).jobId) :=
        (List.perm_cons_erase working).map _
      have taken := withoutJob_perm (busy_ongoing pool busy)
      exact ((split.symm.trans assigned).trans taken).cons_inv
  · intro other isBusy
    obtain ⟨different, wasBusy⟩ := (busyAfter other).mp isBusy
    rw [same.queues, same.queues, mmJpegencJobDone_session, setSession_other _ _ different]
    exact pool.workerChain other wasBusy

end JobDone

end AnglerHal.JpegService
