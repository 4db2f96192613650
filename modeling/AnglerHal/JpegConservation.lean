import AnglerHal.JpegWakeup

namespace AnglerHal.JpegService

open LabelledRun

/-!
# The OMX sessions and output buffers of a chain

The sessions of a chain and its output buffers are lent to jobs and returned by
`mm_jpegenc_job_done`.  A session is either free or works on one ongoing job,
and an output buffer is either free or belongs to one ongoing job that took it.

Both are lost where `mm_jpegenc_job_done` is not reached: at a job that finds
no output buffer, at an abort of an ongoing job, and at a completion for a
session without a callback.  Where it is reached it ignores the results of its
two calls of `mm_jpeg_queue_enq`, so what it returns is lost with their nodes.
An id that two ongoing jobs share makes it remove the wrong one of them.
-/

/-- OMX works for the session on the job of this node. -/
def worksOn (obj : JpegObj) (key : SessionKey) (node : JobNode) : Bool :=
  decide (node.jobId = (obj.session key).jobId) && decide
      (node.encodeJob.dstIndex = (obj.session key).encodeJob.dstIndex) &&
    (obj.session key).omxOwes

/-- The job took this output buffer of the chain automatically. -/
def tookOutput (obj : JpegObj) (head : SessionKey) (queues index : Nat) (node : JobNode) : Bool :=
  decide (node.encodeJob.dstIndex = (index : Int)) && (chainOf obj head).any fun key =>
      !(obj.sessionHandleQ queues).contains key && (obj.session key).autoOutBuf &&
        worksOn obj key node

/-- No session and no output buffer of a live chain is lost. -/
structure Conserved (obj : JpegObj) : Prop where
  sessions : ∀ head ∈ obj.sessionIds, ∀ queues, (obj.session head).queues = some queues →
      ∀ key ∈ chainOf obj head, (obj.sessionHandleQ queues).count key = 1 ∨
          (obj.sessionHandleQ queues).count key = 0 ∧
            (obj.ongoingJobQ.filter (worksOn obj key)).length = 1
  outputs : ∀ head ∈ obj.sessionIds, ∀ queues, (obj.session head).queues = some queues →
      ∀ index < (obj.session head).params.numDstBufs, (obj.outBufQ queues).count (index + 1) +
          (obj.ongoingJobQ.filter (tookOutput obj head queues index)).length = 1

/-- The job that the thread takes next has an id that no ongoing job has. -/
def startsNewId (obj : JpegObj) : Bool :=
  match obj.jobQueue with
  | [] => true
  | node :: _ =>
    match (obj.session node.jobId.session).queues with
    | none => true
    | some queues =>
      (obj.sessionHandleQ queues).isEmpty ||
        !(obj.ongoingJobQ.map JobNode.jobId).contains node.jobId

/-- There is memory for the nodes of the output buffers. -/
def hasOutputNodes : ServiceEvent → Bool
  | .createSession _ _ _ memory => memory.lostOutputs.isEmpty
  | .work _ memory => memory.done.output
  | .fbd _ memory => memory.output
  | .eventHandler _ _ memory => memory.output
  | _ => true

/--
The branches that do not return what a job has taken are not taken, also not
for want of memory.
-/
def returnsAll (obj : JpegObj) (event : ServiceEvent) : Bool :=
  keepsWaking obj event && hasOutputNodes event && match event with
    | .work _ _ => startsNewId obj
    | .fbd key _ => (obj.session key).abortState != .none || (obj.session key).params.jpegCb
    | _ => true

/-- The output buffers that these sessions took automatically, as queued. -/
def autoOutputs (obj : JpegObj) (queues : Nat) (workers : List SessionKey) : List Nat :=
  (workers.filter fun key =>
      decide ((obj.session key).queues = some queues) && (obj.session key).autoOutBuf).map
    fun key => ((obj.session key).encodeJob.dstIndex + 1).toNat

/-- The sessions are those that are busy. -/
def ListsBusy (obj : JpegObj) (workers : List SessionKey) : Prop :=
  workers.Nodup ∧ ∀ key, key ∈ workers ↔ Busy obj key

/-- The free output buffers and those of busy sessions are all there are. -/
def OutputsKept (obj : JpegObj) : Prop :=
  ∀ workers, ListsBusy obj workers → ∀ head ∈ obj.sessionIds, ∀ queues,
      (obj.session head).queues = some queues →
        (obj.outBufQ queues ++ autoOutputs obj queues workers).Perm
          ((List.range (obj.session head).params.numDstBufs).map (· + 1))

/-- A busy session works on a job that is queued as ongoing. -/
def Matched (obj : JpegObj) : Prop :=
  ∀ key, Busy obj key → ∃ node ∈ obj.ongoingJobQ, node.jobId = (obj.session key).jobId ∧
          node.encodeJob.dstIndex = (obj.session key).encodeJob.dstIndex

/-- What conservation needs of a state. -/
structure ConservationInvariant (obj : JpegObj) : Prop where
  service : ServiceInvariant obj
  noneLost : NoneLost obj
  atWork : AtWork obj
  idsNodup : (obj.ongoingJobQ.map JobNode.jobId).Nodup
  matched : Matched obj
  outputsKept : OutputsKept obj

variable {queue : List JobNode} {other key : SessionKey} {workers : List SessionKey}
  {index : Nat}

section Lists

variable {obj next : JpegObj} {queues : Nat} {workers others : List SessionKey} {key : SessionKey}

theorem autoOutputs_perm (same : workers.Perm others) :
    (autoOutputs obj queues workers).Perm (autoOutputs obj queues others) :=
  (same.filter _).map _

theorem autoOutputs_cons : autoOutputs obj queues (key :: workers) =
      (if (obj.session key).queues = some queues ∧ (obj.session key).autoOutBuf = true then
        [((obj.session key).encodeJob.dstIndex + 1).toNat]
      else
        []) ++ autoOutputs obj queues workers := by
  by_cases counted : (obj.session key).queues = some queues ∧ (obj.session key).autoOutBuf = true
  · simp [autoOutputs, counted.1, counted.2]
  · have skipped : (decide ((obj.session key).queues = some queues) &&
          (obj.session key).autoOutBuf) = false := by
      simpa using counted
    rw [if_neg counted, List.nil_append]
    simp [autoOutputs, skipped]

theorem autoOutputs_congr (agree : ∀ other ∈ workers,
        (next.session other).queues = (obj.session other).queues ∧ (next.session other).autoOutBuf =
            (obj.session other).autoOutBuf ∧
          (next.session other).encodeJob = (obj.session other).encodeJob) :
    autoOutputs next queues workers = autoOutputs obj queues workers := by
  induction workers with
  | nil => rfl
  | cons first rest inductionHypothesis =>
    obtain ⟨sameQueues, sameAuto, sameJob⟩ := agree first (List.mem_cons_self ..)
    rw [autoOutputs_cons, autoOutputs_cons, sameQueues, sameAuto, sameJob,
      inductionHypothesis fun other member =>
        agree other (List.mem_cons_of_mem _ member)]

theorem mem_withoutJob_of_ne {jobId : JobId} {node : JobNode} (member : node ∈ queue)
    (different : node.jobId ≠ jobId) :
    node ∈ withoutJob jobId queue := by
  unfold withoutJob
  cases found : removeJobByJobId jobId queue with
  | none => exact member
  | some result =>
    obtain ⟨removed, rest⟩ := result
    obtain ⟨sameId, shape⟩ := removeJobByJobId_eq_some found
    have inside := shape.subset member
    rw [List.mem_cons] at inside
    rcases inside with rfl | inRest
    · exact absurd sameId different
    · exact inRest

theorem OutputsKept.of_same (kept : OutputsKept obj)
    (busy : ∀ other, Busy next other ↔ Busy obj other)
    (ids : next.sessionIds = obj.sessionIds) (outBufQ : next.outBufQ = obj.outBufQ)
    (sameQueues : ∀ other, (next.session other).queues = (obj.session other).queues)
    (params : ∀ other, (next.session other).params = (obj.session other).params)
    (autoOutBuf : ∀ other, (next.session other).autoOutBuf = (obj.session other).autoOutBuf)
    (encodeJob : ∀ other, (next.session other).encodeJob = (obj.session other).encodeJob) :
    OutputsKept next := by
  rintro workers ⟨nodup, members⟩ head held queues home
  have listed : ListsBusy obj workers := ⟨nodup, fun other => (members other).trans (busy other)⟩
  rw [ids] at held
  rw [sameQueues] at home
  rw [outBufQ, params, autoOutputs_congr fun other _ =>
    ⟨sameQueues other, autoOutBuf other, encodeJob other⟩]
  exact kept workers listed head held queues home

end Lists

section Done

variable {obj : JpegObj} {queues : Nat} {key : SessionKey} {output : Bool}

theorem mmJpegencJobDone_outBufQ (place : Nat) :
    (mmJpegencJobDone ⟨true, true⟩ queues key obj).outBufQ place =
      if place = queues ∧ (obj.session key).autoOutBuf = true then
        obj.outBufQ queues ++ [((obj.session key).encodeJob.dstIndex + 1).toNat]
      else
        obj.outBufQ place := by
  simp only [mmJpegencJobDone]
  by_cases auto : (obj.session key).autoOutBuf = true
  · by_cases isQueues : place = queues
    · simp [auto, isQueues, JpegObj.setOutBufs]
    · simp [auto, isQueues, JpegObj.setOutBufs, JpegObj.setHandles, JpegObj.setSession]
  · simp [auto, JpegObj.setHandles, JpegObj.setSession]

theorem mmJpegencJobDone_outputsKept (kept : OutputsKept obj) (busy : Busy obj key)
    (home : (obj.session key).queues = some queues) :
    OutputsKept (mmJpegencJobDone ⟨true, true⟩ queues key obj) := by
  have same := @mmJpegencJobDone_sameChains obj queues key true
  have params : ∀ other, ((mmJpegencJobDone ⟨true, true⟩ queues key obj).session other).params =
        (obj.session other).params := by
    intro other
    rw [mmJpegencJobDone_session]
    by_cases isKey : other = key
    · subst isKey
      simp
    · rw [setSession_other _ _ isKey]
  rintro workers ⟨nodup, members⟩ head held place headHome
  rw [same.ids] at held
  rw [same.queues] at headHome
  have free : key ∉ workers := by
    rw [members, mmJpegencJobDone_busy home]
    exact fun both => both.1 rfl
  have listed : ListsBusy obj (key :: workers) := by
    refine ⟨List.nodup_cons.mpr ⟨free, nodup⟩, ?_⟩
    intro other
    rw [List.mem_cons, members, mmJpegencJobDone_busy home]
    constructor
    · rintro (rfl | ⟨-, otherBusy⟩)
      · exact busy
      · exact otherBusy
    · intro otherBusy
      by_cases isKey : other = key
      · exact .inl isKey
      · exact .inr ⟨isKey, otherBusy⟩
  have before := kept (key :: workers) listed head held place headHome
  have unchanged : autoOutputs (mmJpegencJobDone ⟨true, true⟩ queues key obj) place workers =
        autoOutputs obj place workers := by
    refine autoOutputs_congr ?_
    intro other member
    have different : other ≠ key := fun equal => free (equal ▸ member)
    rw [mmJpegencJobDone_session, setSession_other _ _ different]
    exact ⟨rfl, rfl, rfl⟩
  rw [params, unchanged, mmJpegencJobDone_outBufQ]
  rw [autoOutputs_cons, home] at before
  by_cases returned : place = queues ∧ (obj.session key).autoOutBuf = true
  · obtain ⟨rfl, auto⟩ := returned
    simp only [auto, and_self, if_true, List.append_assoc] at before ⊢
    exact before
  · have skipped : ¬ (some queues = some place ∧ (obj.session key).autoOutBuf = true) := by
      rw [Option.some.injEq]
      exact fun both => returned ⟨both.1.symm, both.2⟩
    rw [if_neg skipped, List.nil_append] at before
    rw [if_neg returned]
    exact before

theorem busy_jobId_inj (pool : PoolInvariant obj)
    (idsNodup : (obj.ongoingJobQ.map JobNode.jobId).Nodup) (busy : Busy obj key)
    (otherBusy : Busy obj other)
    (same : (obj.session key).jobId = (obj.session other).jobId) :
    key = other := by
  obtain ⟨workers, -, members, assigned⟩ := pool.workers
  have distinct := assigned.nodup_iff.mpr idsNodup
  exact List.inj_on_of_nodup_map distinct ((members key).mpr busy)
    ((members other).mpr otherBusy) same

theorem mmJpegencJobDone_matched (pool : PoolInvariant obj)
    (idsNodup : (obj.ongoingJobQ.map JobNode.jobId).Nodup) (matched : Matched obj)
    (busy : Busy obj key) (home : (obj.session key).queues = some queues) :
    Matched (mmJpegencJobDone ⟨true, output⟩ queues key obj) := by
  intro other otherBusy
  obtain ⟨different, wasBusy⟩ := (mmJpegencJobDone_busy home other).mp otherBusy
  obtain ⟨node, member, sameId, sameDst⟩ := matched other wasBusy
  rw [mmJpegencJobDone_session, setSession_other _ _ different, mmJpegencJobDone_ongoingJobQ]
  refine ⟨node, mem_withoutJob_of_ne member ?_, sameId, sameDst⟩
  rw [sameId]
  exact fun equal =>
    different (busy_jobId_inj pool idsNodup wasBusy busy equal)

theorem mmJpegencJobDone_idsNodup (pool : PoolInvariant obj)
    (idsNodup : (obj.ongoingJobQ.map JobNode.jobId).Nodup) (busy : Busy obj key) :
    ((mmJpegencJobDone ⟨true, output⟩ queues key obj).ongoingJobQ.map JobNode.jobId).Nodup := by
  rw [mmJpegencJobDone_ongoingJobQ]
  have shape := withoutJob_perm (busy_ongoing pool busy)
  have distinct := shape.nodup_iff.mp idsNodup
  exact (List.nodup_cons.mp distinct).2

end Done

section Submitted

variable {config : ServiceConfig} {failing : Option EncodeStep} {obj base : JpegObj} {queues : Nat}
  {key : SessionKey}
  {node taken : JobNode}
  {autoOutBuf : Bool}

theorem submitted_outputsKept (held : ServiceInvariant obj) (kept : OutputsKept obj)
    (took : Taken obj base queues key node taken autoOutBuf) :
    OutputsKept (submitted config failing key autoOutBuf taken base) := by
  have same := @submitted_sameChains config failing obj base queues key node taken autoOutBuf took
  obtain ⟨_, -, written⟩ :=
    @submitted_key config failing obj base queues key node taken autoOutBuf took
  have busy :=
    @submitted_busy config failing obj base queues key node taken autoOutBuf held.pool took
  have keyFree : key ∈ obj.sessionHandleQ queues := by
    rw [took.free]
    exact List.mem_cons_self ..
  have keyHome : (obj.session key).queues = some queues :=
    (held.pool.handleInChain queues key keyFree).2
  rintro workers ⟨nodup, members⟩ head headHeld place home
  rw [same.ids] at headHeld
  rw [same.queues] at home
  have working : key ∈ workers := (members key).mpr ((busy key).mpr (.inl rfl))
  have listed : ListsBusy obj (workers.erase key) := by
    refine ⟨nodup.erase key, ?_⟩
    intro other
    rw [nodup.mem_erase_iff, members, busy]
    constructor
    · rintro ⟨different, isKey | wasBusy⟩
      · exact absurd isKey different
      · exact wasBusy
    · intro wasBusy
      refine ⟨?_, .inr wasBusy⟩
      rintro rfl
      exact not_busy_of_free held.pool keyFree wasBusy
  have before := kept (workers.erase key) listed head headHeld place home
  have unchanged : autoOutputs (submitted config failing key autoOutBuf taken base) place
          (workers.erase key) =
        autoOutputs obj place (workers.erase key) := by
    refine autoOutputs_congr ?_
    intro other member
    rw [nodup.mem_erase_iff] at member
    rw [submitted_other took member.1]
    exact ⟨rfl, rfl, rfl⟩
  have split := @autoOutputs_perm (submitted config failing key autoOutBuf taken base)
      place _ _ (List.perm_cons_erase working)
  rw [autoOutputs_cons, unchanged, written] at split
  simp only [keyHome] at split
  have outBufQ : (submitted config failing key autoOutBuf taken base).outBufQ =
        base.outBufQ :=
    rfl
  rw [submitted_params took, outBufQ]
  refine (List.Perm.append_left _ split).trans ?_
  rcases took.output with
    ⟨given, sameOutBufs, -⟩ | ⟨auto, bufIdx, first, otherOutBufs, dst⟩
  · rw [sameOutBufs]
    simp only [given, Bool.false_eq_true, and_false, if_false, List.nil_append]
    exact before
  · by_cases isQueues : place = queues
    · subst isQueues
      rw [first] at before
      have number : (taken.encodeJob.dstIndex + 1).toNat = bufIdx + 1 := by
        rw [dst]
        omega
      simp only [auto, and_self, if_true, number]
      exact List.perm_middle.trans before
    · have skipped : ¬ (some queues = some place ∧ autoOutBuf = true) := by
        rw [Option.some.injEq]
        exact fun both => isQueues both.1.symm
      rw [if_neg skipped, List.nil_append, otherOutBufs place isQueues]
      exact before

theorem submitted_ongoing (took : Taken obj base queues key node taken autoOutBuf) :
    (submitted config failing key autoOutBuf taken base).ongoingJobQ =
      obj.ongoingJobQ ++ [taken] := by
  rw [← took.ongoingJobQ]
  rfl

theorem submitted_matched (held : ServiceInvariant obj) (matched : Matched obj)
    (took : Taken obj base queues key node taken autoOutBuf) :
    Matched (submitted config failing key autoOutBuf taken base) := by
  obtain ⟨_, -, written⟩ :=
    @submitted_key config failing obj base queues key node taken autoOutBuf took
  intro other busy
  rw [submitted_ongoing took]
  by_cases isKey : other = key
  · rw [isKey, written]
    exact ⟨taken, by simp, rfl, rfl⟩
  · have wasBusy := ((submitted_busy held.pool took other).mp busy).resolve_left isKey
    obtain ⟨worked, member, sameId, sameDst⟩ := matched other wasBusy
    rw [submitted_other took isKey]
    exact ⟨worked, List.mem_append_left _ member, sameId, sameDst⟩

theorem submitted_idsNodup (idsNodup : (obj.ongoingJobQ.map JobNode.jobId).Nodup)
    (took : Taken obj base queues key node taken autoOutBuf)
    (new : startsNewId obj = true) :
    ((submitted config failing key autoOutBuf taken base).ongoingJobQ.map JobNode.jobId).Nodup := by
  have absent : taken.jobId ∉ obj.ongoingJobQ.map JobNode.jobId := by
    rw [took.jobId]
    simpa [startsNewId, took.todo, took.home, took.free] using new
  rw [submitted_ongoing took, List.map_append]
  refine List.nodup_append.mpr ⟨idsNodup, by simp, ?_⟩
  intro first member second isTaken
  simp only [List.map_cons, List.map_nil, List.mem_singleton] at isTaken
  rw [isTaken]
  exact fun equal => absent (equal ▸ member)

theorem submitted_conservation (held : ConservationInvariant obj)
    (took : Taken obj base queues key node taken autoOutBuf)
    (new : startsNewId obj = true) :
    ServiceInvariant (submitted config failing key autoOutBuf taken base) ∧
      NoneLost (submitted config failing key autoOutBuf taken base) ∧
      ((submitted config failing key autoOutBuf taken base).ongoingJobQ.map JobNode.jobId).Nodup ∧
      Matched (submitted config failing key autoOutBuf taken base) ∧
      OutputsKept (submitted config failing key autoOutBuf taken base) :=
  ⟨submitted_invariant held.service took, submitted_noneLost held.noneLost took,
    submitted_idsNodup held.idsNodup took new,
    submitted_matched held.service held.matched took,
    submitted_outputsKept held.service held.outputsKept took⟩

end Submitted

section Chains

variable {obj : JpegObj} {key : SessionKey} {queues clientIdx : Nat} {params : EncodeParams}
  {setups : List SessionSetup}
  {memory : CreateMemory}
  {refused : List SessionKey}

theorem mmJpegCreateSession_outputsKept (chains : ChainInvariant obj) (kept : OutputsKept obj)
    (whole : createsWhole clientIdx params setups memory obj = true)
    (nodes : memory.lostOutputs.isEmpty = true) :
    OutputsKept (mmJpegCreateSession clientIdx params setups memory obj).1 := by
  rcases mmJpegCreateSession_cases whole with
    same | ⟨final, made, extra, outBufs, building, handed, result⟩
  · rw [same]
    exact kept
  · rw [result]
    rintro workers ⟨nodup, members⟩ head held place home
    have listed : ListsBusy obj workers := ⟨nodup, fun other =>
        (members other).trans (building.busy_iff chains rfl rfl other)⟩
    have unchanged : autoOutputs { final.setOutBufs obj.queuesMade outBufs with
                sessionIds := obj.sessionIds ++ extra } place workers =
          autoOutputs obj place workers := by
      refine autoOutputs_congr ?_
      intro other member
      have sameSession : final.session other = obj.session other :=
        building.busy_session ((listed.2 other).mp member)
      rw [setOutBufs_session, sameSession]
      exact ⟨rfl, rfl, rfl⟩
    rw [unchanged]
    rw [List.mem_append] at held
    rcases held with wasHeld | new
    · obtain ⟨headQueues, headInChain⟩ := chains.headInChain head wasHeld
      have sameHead : final.session head = obj.session head :=
        (building.active_unchanged headInChain.1).2
      rw [setOutBufs_session, sameHead] at home ⊢
      have notNew : place ≠ obj.queuesMade := Nat.ne_of_lt (chains.numbered head place home)
      have before := kept workers listed head wasHeld place home
      have outBufQ : (final.setOutBufs obj.queuesMade outBufs).outBufQ place =
            obj.outBufQ place := by
        simp only [JpegObj.setOutBufs, notNew, if_false, building.outBufQ]
        simp [newQueues, JpegObj.setOutBufs, JpegObj.setHandles, notNew]
      rw [outBufQ]
      exact before
    · rcases handed with rfl | ⟨rfl, rfl⟩
      · cases new
      · have isHead : made.head? = some head := by
          simpa using new
        have opened := building.opened head (List.mem_of_head? isHead)
        have isNew : place = obj.queuesMade := by
          have equal := home.symm.trans opened.1.2
          rwa [Option.some.injEq] at equal
        have nothing : autoOutputs obj place workers = [] := by
          rw [autoOutputs, List.map_eq_nil_iff, List.filter_eq_nil_iff]
          intro other _
          simp only [Bool.and_eq_true, decide_eq_true_eq, not_and]
          intro inPlace
          rw [isNew] at inPlace
          exact absurd (chains.numbered other _ inPlace) (Nat.lt_irrefl _)
        rw [List.isEmpty_iff] at nodes
        rw [nothing, List.append_nil, setOutBufs_session, opened.2.2.2, isNew]
        simp [JpegObj.setOutBufs, nodes]

theorem mmJpegDestroySession_outputsKept (held : ServiceInvariant obj) (kept : OutputsKept obj)
    (isHeld : key ∈ obj.sessionIds)
    (home : (obj.session key).queues = some queues) :
    OutputsKept (mmJpegDestroySession queues key refused obj).1 := by
  have busy_iff := @mmJpegDestroySession_busy refused obj key queues held.chains isHeld home
  rintro workers ⟨nodup, members⟩ head headHeld place headHome
  have ids : (mmJpegDestroySession queues key refused obj).1.sessionIds =
        obj.sessionIds.erase key :=
    rfl
  rw [ids, held.chains.idsNodup.mem_erase_iff] at headHeld
  have apart : (obj.session head).queues ≠ some queues := by
    rw [← home]
    exact fun same =>
      headHeld.1 (held.chains.headsApart head headHeld.2 key isHeld same)
  have sameHead : (mmJpegDestroySession queues key refused obj).1.session head =
        obj.session head :=
    mmJpegDestroySession_other (not_mem_chainOf held.chains isHeld home apart)
  rw [sameHead] at headHome ⊢
  have different : place ≠ queues := by
    rintro rfl
    exact apart headHome
  rw [mmJpegDestroySession_outBufQ different]
  -- The busy sessions of the destroyed chain have no output of this one.
  obtain ⟨before, beforeNodup, beforeMembers, -⟩ := held.pool.workers
  have listed : ListsBusy obj before := ⟨beforeNodup, beforeMembers⟩
  have remaining : workers.Perm (before.filter fun other =>
        (obj.session other).queues ≠ some queues) := by
    refine (List.perm_ext_iff_of_nodup nodup (beforeNodup.filter _)).mpr ?_
    intro other
    rw [members, busy_iff, List.mem_filter, beforeMembers]
    simp
  have sameRecords : autoOutputs (mmJpegDestroySession queues key refused obj).1 place
          workers = autoOutputs obj place workers := by
    refine autoOutputs_congr ?_
    intro other member
    have busy := (members other).mp member
    rw [(mmJpegDestroySession_busy_session held.chains isHeld home busy).2]
    exact ⟨rfl, rfl, rfl⟩
  have sameOutputs : autoOutputs obj place (before.filter fun other =>
          (obj.session other).queues ≠ some queues) =
        autoOutputs obj place before := by
    rw [autoOutputs, autoOutputs, List.filter_filter]
    refine congrArg _ (List.filter_congr ?_)
    intro other _
    by_cases inPlace : (obj.session other).queues = some place
    · simp [inPlace, different]
    · simp [inPlace]
  rw [sameRecords]
  refine (List.Perm.append_left _ (autoOutputs_perm remaining)).trans ?_
  rw [sameOutputs]
  exact kept before listed head headHeld.2 place headHome

end Chains

section Steps

variable {config : ServiceConfig} {obj next : JpegObj} {event : ServiceEvent}
  {emitted : List ServiceOutput}

theorem mmJpegCreateSession_ongoingJobQ {clientIdx : Nat} {params : EncodeParams}
    {setups : List SessionSetup} {memory : CreateMemory}
    (whole : createsWhole clientIdx params setups memory obj = true) :
    (mmJpegCreateSession clientIdx params setups memory obj).1.ongoingJobQ =
      obj.ongoingJobQ := by
  rcases mmJpegCreateSession_cases whole with
    same | ⟨final, made, extra, outBufs, building, -, result⟩
  · rw [same]
  · rw [result]
    exact building.ongoingJobQ

theorem change_idsNodup (held : ConservationInvariant obj) (guard : returnsAll obj event = true)
    (changed : Change config obj event next emitted) :
    (next.ongoingJobQ.map JobNode.jobId).Nodup := by
  simp only [returnsAll, keepsWaking, Bool.and_eq_true] at guard
  obtain ⟨⟨⟨⟨keeps, waits⟩, -⟩, outputs⟩, returns⟩ := guard
  cases changed with
  | created clientIdx params setups memory count =>
    rw [mmJpegCreateSession_ongoingJobQ keeps]
    exact held.idsNodup
  | abortedOngoing jobId refused node rest missing found =>
    rw [not_abortsWaiting missing found] at waits
    cases waits
  | destroyed key refused queues isHeld home =>
    rw [mmJpegDestroySession_jobs.2, otherJobs]
    exact held.idsNodup.sublist (List.filter_sublist.map _)
  | lost failing memory node rest queues key handles outBufs checked todo home free auto none =>
    exact absurd keeps (not_keepsSessions todo home free auto none)
  | submits failing memory base queues key node taken autoOutBuf checked took passes =>
    exact submitted_idsNodup held.idsNodup took returns
  | fails failing memory base queues key node taken autoOutBuf checked took gaveUp =>
    obtain ⟨service, -, distinct, -⟩ :=
      @submitted_conservation config failing obj base queues key node taken
        autoOutBuf held took returns
    obtain ⟨busy, -⟩ := submitted_ready held.service took gaveUp
    exact mmJpegencJobDone_idsNodup service.pool distinct busy
  | finished key queues memory owes abortState jpegCb home =>
    exact mmJpegencJobDone_idsNodup (answered_invariant held.service).pool held.idsNodup
      ((answered_busy key).mpr (owed_busy held.service owes abortState))
  | erred key queues memory active notInit encoding home =>
    exact mmJpegencJobDone_idsNodup (answered_invariant held.service).pool held.idsNodup
      ((answered_busy key).mpr (errsAtWork_busy keeps active notInit encoding home))
  | _ => exact held.idsNodup

theorem Matched.of_same (matched : Matched obj) (ongoing : next.ongoingJobQ = obj.ongoingJobQ)
    (step : ∀ key, Busy next key → Busy obj key ∧
            (next.session key).jobId = (obj.session key).jobId ∧
            (next.session key).encodeJob = (obj.session key).encodeJob) :
    Matched next := by
  intro key busy
  obtain ⟨wasBusy, jobId, encodeJob⟩ := step key busy
  rw [ongoing, jobId, encodeJob]
  exact matched key wasBusy

theorem answered_matched (matched : Matched obj) :
    Matched (answered key obj) := by
  refine matched.of_same rfl ?_
  intro other busy
  obtain ⟨_, written⟩ := @answered_session obj key other
  rw [written]
  exact ⟨(answered_busy other).mp busy, rfl, rfl⟩

theorem absorbed_busy {omxOwes : Bool} (init : (obj.session key).abortState = .init) :
    Busy (obj.setSession key { obj.session key with
            abortState := .done, omxOwes := omxOwes }) other ↔
      Busy obj other := by
  by_cases isKey : other = key
  · subst isKey
    constructor
    · rintro ⟨_, -, abortState, -⟩
      simp at abortState
    · rintro ⟨_, -, abortState, -⟩
      rw [init] at abortState
      cases abortState
  · simp only [Busy, InChain, setSession_other _ _ isKey]
    rfl

theorem change_matched (held : ConservationInvariant obj) (guard : returnsAll obj event = true)
    (changed : Change config obj event next emitted) :
    Matched next := by
  simp only [returnsAll, keepsWaking, Bool.and_eq_true] at guard
  obtain ⟨⟨⟨⟨keeps, waits⟩, -⟩, outputs⟩, returns⟩ := guard
  cases changed with
  | created clientIdx params setups memory count =>
    refine held.matched.of_same (mmJpegCreateSession_ongoingJobQ keeps) ?_
    intro key busy
    obtain ⟨wasBusy, same⟩ := mmJpegCreateSession_busy held.service.chains keeps busy
    rw [same]
    exact ⟨wasBusy, rfl, rfl⟩
  | unqueued key job memory =>
    refine held.matched.of_same rfl ?_
    intro other busy
    obtain ⟨_, written⟩ := @historyCounted_session obj key other
    rw [written]
    exact ⟨historyCounted_busy.mp busy, rfl, rfl⟩
  | started key job memory isHeld dst =>
    refine held.matched.of_same rfl ?_
    intro other busy
    obtain ⟨_, written⟩ := @jobStarted_session obj key job other
    rw [written]
    exact ⟨historyCounted_busy.mp busy, rfl, rfl⟩
  | abortedOngoing jobId refused node rest missing found =>
    rw [not_abortsWaiting missing found] at waits
    cases waits
  | destroyed key refused queues isHeld home =>
    intro other busy
    obtain ⟨wasBusy, same⟩ :=
      mmJpegDestroySession_busy_session held.service.chains isHeld home busy
    obtain ⟨-, apart⟩ :=
      (mmJpegDestroySession_busy held.service.chains isHeld home other).mp busy
    obtain ⟨node, member, sameId, sameDst⟩ := held.matched other wasBusy
    rw [same, mmJpegDestroySession_jobs.2, otherJobs]
    refine ⟨node, List.mem_filter.mpr ⟨member, ?_⟩, sameId, sameDst⟩
    rw [sameId]
    have elsewhere := (not_congr (busy_session_iff held.service.chains held.service.pool
        isHeld home wasBusy)).mpr apart
    simpa using elsewhere
  | lost failing memory node rest queues key handles outBufs checked todo home free auto none =>
    exact absurd keeps (not_keepsSessions todo home free auto none)
  | submits failing memory base queues key node taken autoOutBuf checked took passes =>
    exact submitted_matched held.service held.matched took
  | fails failing memory base queues key node taken autoOutBuf checked took gaveUp =>
    obtain ⟨service, -, distinct, matched, -⟩ :=
      @submitted_conservation config failing obj base queues key node taken
        autoOutBuf held took returns
    obtain ⟨busy, home, -⟩ := submitted_ready held.service took gaveUp
    exact mmJpegencJobDone_matched service.pool distinct matched busy home
  | finished key queues memory owes abortState jpegCb home =>
    exact mmJpegencJobDone_matched (answered_invariant held.service).pool
      held.idsNodup (answered_matched held.matched)
      ((answered_busy key).mpr (owed_busy held.service owes abortState))
      (by simpa [answered] using home)
  | dropped key memory owes silent => exact answered_matched held.matched
  | absorbed key isError memory init =>
    refine held.matched.of_same rfl ?_
    intro other busy
    refine ⟨(absorbed_busy init).mp busy, ?_⟩
    by_cases isKey : other = key
    · subst isKey
      simp
    · rw [setSession_other _ _ isKey]
      exact ⟨rfl, rfl⟩
  | erred key queues memory active notInit encoding home =>
    exact mmJpegencJobDone_matched (answered_invariant held.service).pool
      held.idsNodup (answered_matched held.matched)
      ((answered_busy key).mpr (errsAtWork_busy keeps active notInit encoding home))
      (by simpa [answered] using home)
  | noted key memory notInit notEncoding => exact answered_matched held.matched
  | _ => exact held.matched

theorem answered_outputsKept (kept : OutputsKept obj) :
    OutputsKept (answered key obj) := by
  refine kept.of_same answered_busy rfl rfl ?_ ?_ ?_ ?_
  all_goals
    intro other
    obtain ⟨_, written⟩ := @answered_session obj key other
    rw [written]

theorem change_outputsKept (held : ConservationInvariant obj) (guard : returnsAll obj event = true)
    (changed : Change config obj event next emitted) :
    OutputsKept next := by
  simp only [returnsAll, keepsWaking, Bool.and_eq_true] at guard
  obtain ⟨⟨⟨⟨keeps, waits⟩, -⟩, outputs⟩, returns⟩ := guard
  cases changed with
  | created clientIdx params setups memory count =>
    exact mmJpegCreateSession_outputsKept held.service.chains held.outputsKept keeps outputs
  | unqueued key job memory =>
    refine held.outputsKept.of_same (fun _ => historyCounted_busy) rfl rfl ?_ ?_ ?_ ?_
    all_goals
      intro other
      obtain ⟨_, written⟩ := @historyCounted_session obj key other
      rw [written]
  | started key job memory isHeld dst =>
    refine held.outputsKept.of_same (fun _ => historyCounted_busy) rfl rfl ?_ ?_ ?_ ?_
    all_goals
      intro other
      obtain ⟨_, written⟩ := @jobStarted_session obj key job other
      rw [written]
  | abortedOngoing jobId refused node rest missing found =>
    rw [not_abortsWaiting missing found] at waits
    cases waits
  | destroyed key refused queues isHeld home =>
    exact mmJpegDestroySession_outputsKept held.service held.outputsKept isHeld home
  | lost failing memory node rest queues key handles outBufs checked todo home free auto none =>
    exact absurd keeps (not_keepsSessions todo home free auto none)
  | submits failing memory base queues key node taken autoOutBuf checked took passes =>
    exact submitted_outputsKept held.service held.outputsKept took
  | fails failing memory base queues key node taken autoOutBuf checked took gaveUp =>
    obtain ⟨-, -, -, -, kept⟩ :=
      @submitted_conservation config failing obj base queues key node taken
        autoOutBuf held took returns
    obtain ⟨busy, home, -⟩ := submitted_ready held.service took gaveUp
    simp only [hasOutputNodes] at outputs
    rw [outputs]
    exact mmJpegencJobDone_outputsKept kept busy home
  | finished key queues memory owes abortState jpegCb home =>
    simp only [hasOutputNodes] at outputs
    rw [outputs]
    exact mmJpegencJobDone_outputsKept (answered_outputsKept held.outputsKept)
      ((answered_busy key).mpr (owed_busy held.service owes abortState))
      (by simpa [answered] using home)
  | dropped key memory owes silent => exact answered_outputsKept held.outputsKept
  | absorbed key isError memory init =>
    refine held.outputsKept.of_same (fun _ => absorbed_busy init) rfl rfl ?_ ?_ ?_ ?_
    all_goals
      intro other
      by_cases isKey : other = key
      · subst isKey
        simp
      · rw [setSession_other _ _ isKey]
  | erred key queues memory active notInit encoding home =>
    simp only [hasOutputNodes] at outputs
    rw [outputs]
    exact mmJpegencJobDone_outputsKept (answered_outputsKept held.outputsKept)
      ((answered_busy key).mpr (errsAtWork_busy keeps active notInit encoding home))
      (by simpa [answered] using home)
  | noted key memory notInit notEncoding => exact answered_outputsKept held.outputsKept
  | _ => exact held.outputsKept

end Steps

theorem conservationInvariant_zero : ConservationInvariant JpegObj.zero := by
  have idle : ∀ key, ¬ Busy JpegObj.zero key := by
    rintro key ⟨_, ⟨active, -⟩, -⟩
    cases active
  refine ⟨serviceInvariant_zero, wakeInvariant_zero.noneLost,
    fun key busy => absurd busy (idle key), List.nodup_nil,
    fun key busy => absurd busy (idle key), ?_⟩
  intro workers _ head held
  cases held

theorem serviceStep_conservation {config : ServiceConfig} {obj next : JpegObj}
    {event : ServiceEvent} {emitted : List ServiceOutput}
    (held : ConservationInvariant obj) (guard : returnsAll obj event = true)
    (stepped : serviceStep config obj event = some (next, emitted)) :
    ConservationInvariant next := by
  have parts := guard
  simp only [returnsAll, Bool.and_eq_true] at parts
  have wakes := parts.1.1
  simp only [keepsWaking, Bool.and_eq_true] at wakes
  have changed := serviceStep_change wakes.2 stepped
  replace wakes := wakes.1
  refine ⟨?_, ?_, ?_, ?_, ?_, ?_⟩
  · refine change_invariant held.service wakes.1 ?_ changed
    rintro jobId refused node rest rfl missing found
    rw [not_abortsWaiting missing found] at wakes
    cases wakes.2
  · exact change_noneLost held.service held.noneLost parts.1.1 changed
  · refine change_atWork held.service held.atWork wakes.1 ?_ changed
    rintro key memory rfl ⟨_, -, abortState, -⟩
    simpa [abortState] using parts.2
  · exact change_idsNodup held guard changed
  · exact change_matched held guard changed
  · exact change_outputsKept held guard changed

section Reading

variable {obj : JpegObj} {queues : Nat} {head key : SessionKey} {node : JobNode}

theorem filter_length_one {property : JobNode → Bool}
    (idsNodup : (queue.map JobNode.jobId).Nodup) (member : node ∈ queue)
    (has : property node = true)
    (determined : ∀ other ∈ queue, property other = true → other.jobId = node.jobId) :
    (queue.filter property).length = 1 := by
  have nodup : queue.Nodup := List.Nodup.of_map _ idsNodup
  have single : (queue.filter property).Perm [node] := by
    refine (List.perm_ext_iff_of_nodup (nodup.filter _) (by simp)).mpr ?_
    intro other
    rw [List.mem_filter, List.mem_singleton]
    constructor
    · rintro ⟨inQueue, hasToo⟩
      exact List.inj_on_of_nodup_map idsNodup inQueue member (determined other inQueue hasToo)
    · rintro rfl
      exact ⟨member, has⟩
  rw [single.length_eq]
  rfl

theorem ConservationInvariant.busy_of_out (held : ConservationInvariant obj)
    (isHeld : head ∈ obj.sessionIds) (home : (obj.session head).queues = some queues)
    (member : key ∈ chainOf obj head) (absent : key ∉ obj.sessionHandleQ queues) :
    Busy obj key ∧ (obj.session key).queues = some queues := by
  have ⟨active, sameQueues⟩ := (held.service.chains.chain head isHeld key).mp member
  rw [home] at sameQueues
  have inChain : InChain obj queues key := ⟨active, sameQueues⟩
  exact ⟨⟨queues, inChain, held.noneLost queues key inChain absent, absent⟩, sameQueues⟩

theorem ConservationInvariant.worksOn_one (held : ConservationInvariant obj) (busy : Busy obj key) :
    (obj.ongoingJobQ.filter (worksOn obj key)).length = 1 := by
  obtain ⟨node, member, sameId, sameDst⟩ := held.matched key busy
  refine filter_length_one held.idsNodup member ?_ ?_
  · simp [worksOn, sameId, sameDst, (held.atWork key busy).1]
  · intro other _ works
    simp only [worksOn, Bool.and_eq_true, decide_eq_true_eq] at works
    rw [works.1.1, sameId]

/-- The busy sessions of the chain that took this output buffer. -/
def outputHolders (obj : JpegObj) (queues index : Nat)
    (workers : List SessionKey) : List SessionKey :=
  (workers.filter fun key =>
      decide ((obj.session key).queues = some queues) && (obj.session key).autoOutBuf).filter
    fun key =>
      ((obj.session key).encodeJob.dstIndex + 1).toNat == index + 1

theorem count_autoOutputs (workers : List SessionKey) (index : Nat) :
    (autoOutputs obj queues workers).count (index + 1) =
      (outputHolders obj queues index workers).length := by
  rw [autoOutputs, outputHolders, List.count_eq_countP, List.countP_map,
    List.countP_eq_length_filter]
  rfl

theorem mem_outputHolders :
    key ∈ outputHolders obj queues index workers ↔ key ∈ workers ∧
        (obj.session key).queues = some queues ∧
        (obj.session key).autoOutBuf = true ∧
        (obj.session key).encodeJob.dstIndex = (index : Int) := by
  have number : ((obj.session key).encodeJob.dstIndex + 1).toNat = index + 1 ↔
        (obj.session key).encodeJob.dstIndex = (index : Int) := by
    omega
  simp only [outputHolders, List.mem_filter, Bool.and_eq_true,
    decide_eq_true_eq, beq_iff_eq, number, and_assoc]

theorem ConservationInvariant.holder_of_tookOutput (held : ConservationInvariant obj)
    (listed : ListsBusy obj workers) (isHeld : head ∈ obj.sessionIds)
    (home : (obj.session head).queues = some queues)
    (took : tookOutput obj head queues index node = true) :
    ∃ key ∈ outputHolders obj queues index workers, node.jobId = (obj.session key).jobId := by
  simp only [tookOutput, worksOn, Bool.and_eq_true, decide_eq_true_eq,
    List.any_eq_true, Bool.not_eq_true', List.contains_eq_mem,
    decide_eq_false_iff_not] at took
  obtain ⟨isIndex, key, member, ⟨absent, auto⟩, ⟨sameId, sameDst⟩, -⟩ := took
  obtain ⟨busy, sameQueues⟩ := held.busy_of_out isHeld home member absent
  refine ⟨key, mem_outputHolders.mpr ⟨(listed.2 key).mpr busy, sameQueues, auto, ?_⟩, sameId⟩
  rw [← sameDst, isIndex]

theorem ConservationInvariant.tookOutput_of_holder (held : ConservationInvariant obj)
    (listed : ListsBusy obj workers) (isHeld : head ∈ obj.sessionIds)
    (home : (obj.session head).queues = some queues)
    (holder : key ∈ outputHolders obj queues index workers) :
    ∃ node ∈ obj.ongoingJobQ, tookOutput obj head queues index node = true ∧
        node.jobId = (obj.session key).jobId := by
  obtain ⟨working, sameQueues, auto, isIndex⟩ := mem_outputHolders.mp holder
  have busy := (listed.2 key).mp working
  obtain ⟨node, member, sameId, sameDst⟩ := held.matched key busy
  obtain ⟨place, inChain, -, absent⟩ := busy
  have isPlace : some place = some queues := inChain.2.symm.trans sameQueues
  rw [Option.some.injEq] at isPlace
  rw [isPlace] at absent
  have inside : key ∈ chainOf obj head := by
    refine (held.service.chains.chain head isHeld key).mpr ⟨inChain.1, ?_⟩
    rw [sameQueues, home]
  refine ⟨node, member, ?_, sameId⟩
  simp only [tookOutput, worksOn, Bool.and_eq_true, decide_eq_true_eq,
    List.any_eq_true, Bool.not_eq_true', List.contains_eq_mem,
    decide_eq_false_iff_not]
  exact ⟨by rw [sameDst, isIndex], key, inside, ⟨absent, auto⟩,
    ⟨sameId, sameDst⟩, (held.atWork key ((listed.2 key).mp working)).1⟩

theorem ConservationInvariant.conserved (held : ConservationInvariant obj) :
    Conserved obj := by
  refine ⟨?_, ?_⟩
  · intro head isHeld queues home key member
    by_cases free : key ∈ obj.sessionHandleQ queues
    · left
      exact List.count_eq_one_of_mem (held.service.pool.handleNodup queues) free
    · right
      obtain ⟨busy, -⟩ := held.busy_of_out isHeld home member free
      exact ⟨List.count_eq_zero.mpr free, held.worksOn_one busy⟩
  · intro head isHeld queues home index small
    obtain ⟨workers, nodup, members, -⟩ := held.service.pool.workers
    have listed : ListsBusy obj workers := ⟨nodup, members⟩
    have all := held.outputsKept workers listed head isHeld queues home
    have total := all.count_eq (index + 1)
    have range : ((List.range (obj.session head).params.numDstBufs).map
          (· + 1)).count (index + 1) = 1 := by
      refine List.count_eq_one_of_mem ?_ ?_
      · exact List.Nodup.map (fun _ _ => Nat.succ.inj) List.nodup_range
      · exact List.mem_map.mpr ⟨index, List.mem_range.mpr small, rfl⟩
    rw [List.count_append, count_autoOutputs, range] at total
    suffices holds : (obj.ongoingJobQ.filter (tookOutput obj head queues index)).length =
          (outputHolders obj queues index workers).length by
      rw [holds]
      exact total
    cases holders : outputHolders obj queues index workers with
    | nil =>
      rw [List.length_nil, List.length_eq_zero_iff, List.filter_eq_nil_iff]
      intro node _ took
      obtain ⟨key, holder, -⟩ := held.holder_of_tookOutput listed isHeld home took
      rw [holders] at holder
      cases holder
    | cons first rest =>
      have alone : rest = [] := by
        rw [holders, List.length_cons] at total
        exact List.length_eq_zero_iff.mp (by omega)
      subst alone
      obtain ⟨node, member, took, sameId⟩ :=
        held.tookOutput_of_holder listed isHeld home (holders ▸ List.mem_singleton.mpr rfl)
      refine filter_length_one held.idsNodup member took ?_
      intro other _ tookToo
      obtain ⟨key, holder, otherId⟩ := held.holder_of_tookOutput listed isHeld home tookToo
      rw [holders, List.mem_singleton] at holder
      rw [otherId, holder, sameId]

end Reading

/--
No session and no output buffer is lost in a run whose jobs all come back and
whose ongoing jobs have distinct ids.
-/
theorem serviceRun_conserved (config : ServiceConfig) (events : List ServiceEvent) (final : JpegObj)
    (log : List ServiceOutput)
    (guarded : Guarded (serviceStep config) (fun obj _ event => returnsAll obj event = true)
        JpegObj.zero [] events)
    (ran : run? (serviceStep config) JpegObj.zero events = some (final, log)) :
    Conserved final := by
  have held :=
    stateInvariant_of_guarded ConservationInvariant guarded ran conservationInvariant_zero
      (fun before met stepped => serviceStep_conservation before met stepped)
  exact held.conserved

/-- A job of a burst session is at work, and its output buffer is not free. -/
theorem serviceRun_conserved_burst : ∃ final log, run? (serviceStep twoSessions) JpegObj.zero
          ([.createSession 0 burstSession [wellMade, wellMade] createMemory,
            .startJob ⟨0, 0⟩ ⟨0, -1⟩ .enough] ++ oneRound) = some (final, log) ∧
        final.sessionHandleQ 0 = [⟨0, 1⟩] ∧ final.outBufQ 0 = [2] ∧
        Conserved final := by
  refine ⟨_, _, rfl, by decide, by decide, ?_⟩
  exact serviceRun_conserved twoSessions
    ([.createSession 0 burstSession [wellMade, wellMade] createMemory,
      .startJob ⟨0, 0⟩ ⟨0, -1⟩ .enough] ++ oneRound) _ _
    (by decide) rfl

/-- Aborting an ongoing job loses the session and the output buffer it uses. -/
theorem serviceRun_losesSession : ∃ final log, run? (serviceStep twoSessions) JpegObj.zero
          ([.createSession 0 burstSession [wellMade, wellMade] createMemory,
            .startJob ⟨0, 0⟩ ⟨0, -1⟩ .enough] ++ oneRound ++
              [.abortJob (makeJobId ⟨0, 0⟩ 0) []]) = some (final, log) ∧
        ¬ Conserved final := by
  refine ⟨_, _, rfl, ?_⟩
  intro conserved
  have outputs := conserved.outputs ⟨0, 0⟩ (by decide) 0 (by decide) 0 (by decide)
  revert outputs
  decide

end AnglerHal.JpegService
