import AnglerHal.JpegChains

namespace AnglerHal.JpegService

variable {other : SessionKey}

/-!
# Aborting and destroying chains of sessions

`mm_jpeg_session_abort` writes the abort states of a chain and nothing else.
`mm_jpeg_destroy_session` follows the links of a chain, so it touches no other
chain and leaves no session of this one behind.
-/

section Ending

variable {refused chain : List SessionKey} {obj : JpegObj} {key : SessionKey} {queues : Nat}

theorem mmJpegSessionAbort_rest :
    { mmJpegSessionAbort refused chain obj with session := obj.session } =
      obj := by
  induction chain generalizing obj with
  | nil => rfl
  | cons first rest inductionHypothesis =>
    simp only [mmJpegSessionAbort]
    split
    · rfl
    · split
      · rfl
      · have later := @inductionHypothesis (obj.setSession first
            { obj.session first with abortState := .done })
        exact congrArg (fun other : JpegObj => { other with session := obj.session }) later

@[simp] theorem mmJpegSessionAbort_sessionHandleQ :
    (mmJpegSessionAbort refused chain obj).sessionHandleQ = obj.sessionHandleQ := by
  have unchanged := congrArg JpegObj.sessionHandleQ (@mmJpegSessionAbort_rest refused chain obj)
  exact unchanged

@[simp] theorem mmJpegSessionAbort_outBufQ :
    (mmJpegSessionAbort refused chain obj).outBufQ = obj.outBufQ := by
  have unchanged := congrArg JpegObj.outBufQ (@mmJpegSessionAbort_rest refused chain obj)
  exact unchanged

@[simp] theorem mmJpegSessionAbort_queuesMade :
    (mmJpegSessionAbort refused chain obj).queuesMade = obj.queuesMade := by
  have unchanged := congrArg JpegObj.queuesMade (@mmJpegSessionAbort_rest refused chain obj)
  exact unchanged

@[simp] theorem mmJpegSessionAbort_jobQueue :
    (mmJpegSessionAbort refused chain obj).jobQueue = obj.jobQueue := by
  have unchanged := congrArg JpegObj.jobQueue (@mmJpegSessionAbort_rest refused chain obj)
  exact unchanged

@[simp] theorem mmJpegSessionAbort_ongoingJobQ :
    (mmJpegSessionAbort refused chain obj).ongoingJobQ = obj.ongoingJobQ := by
  have unchanged := congrArg JpegObj.ongoingJobQ (@mmJpegSessionAbort_rest refused chain obj)
  exact unchanged

@[simp] theorem mmJpegSessionAbort_sessionIds :
    (mmJpegSessionAbort refused chain obj).sessionIds = obj.sessionIds := by
  have unchanged := congrArg JpegObj.sessionIds (@mmJpegSessionAbort_rest refused chain obj)
  exact unchanged

/-- An abort writes nothing but the abort state of a session. -/
theorem mmJpegSessionAbort_session (other : SessionKey) : ∃ state,
      (mmJpegSessionAbort refused chain obj).session other =
        { obj.session other with abortState := state } := by
  induction chain generalizing obj with
  | nil => exact ⟨(obj.session other).abortState, rfl⟩
  | cons first rest inductionHypothesis =>
    simp only [mmJpegSessionAbort]
    split
    · exact ⟨(obj.session other).abortState, rfl⟩
    · have written : ∀ state, ∃ result, (obj.setSession first
              { obj.session first with
                  abortState := state }).session other =
              { obj.session other with abortState := result } := by
        intro state
        by_cases isFirst : other = first
        · subst isFirst
          exact ⟨state, by simp⟩
        · exact ⟨(obj.session other).abortState, by
            rw [setSession_other _ _ isFirst]⟩
      split
      · exact written .init
      · obtain ⟨state, later⟩ :=
          @inductionHypothesis (obj.setSession first
              { obj.session first with abortState := .done })
        obtain ⟨_, earlier⟩ := written .done
        exact ⟨state, by rw [later, earlier]⟩

theorem mmJpegSessionAbort_other (absent : other ∉ chain) :
    (mmJpegSessionAbort refused chain obj).session other =
      obj.session other := by
  induction chain generalizing obj with
  | nil => rfl
  | cons first rest inductionHypothesis =>
    simp only [List.mem_cons, not_or] at absent
    simp only [mmJpegSessionAbort]
    split
    · rfl
    · split
      · rw [setSession_other _ _ absent.1]
      · rw [inductionHypothesis absent.2, setSession_other _ _ absent.1]

/-- No session is made or ended by an abort. -/
theorem mmJpegSessionAbort_sameChains : SameChains obj (mmJpegSessionAbort refused chain obj) := by
  refine ⟨mmJpegSessionAbort_sessionIds, mmJpegSessionAbort_queuesMade, ?_, ?_, ?_⟩
  all_goals
    intro other
    obtain ⟨state, same⟩ := @mmJpegSessionAbort_session refused chain obj other
    rw [same]

section Aborts

/-- The sessions whose abort state `mm_jpeg_session_abort` writes. -/
def abortedKeys (refused : List SessionKey) : List SessionKey → JpegObj → List SessionKey
  | [], _ => []
  | key :: rest, obj =>
    let session := obj.session key
    if session.abortState ≠ .none then
      []
    else if session.encoding && refused.contains key then
      [key]
    else
      key :: abortedKeys refused rest (obj.setSession key { session with abortState := .done })

/-- Only sessions that are not aborted yet are aborted. -/
theorem abortState_of_mem_abortedKeys (member : key ∈ abortedKeys refused chain obj) :
    (obj.session key).abortState = .none := by
  induction chain generalizing obj with
  | nil => cases member
  | cons first rest inductionHypothesis =>
    simp only [abortedKeys] at member
    split at member
    · cases member
    · rename_i abortState
      simp only [ne_eq, not_not] at abortState
      split at member
      · rw [List.mem_singleton] at member
        rw [member]
        exact abortState
      · rw [List.mem_cons] at member
        rcases member with rfl | later
        · exact abortState
        · have before := inductionHypothesis later
          by_cases isFirst : key = first
          · rw [isFirst]
            exact abortState
          · rwa [setSession_other _ _ isFirst] at before

theorem mmJpegSessionAbort_of_not_mem (absent : key ∉ abortedKeys refused chain obj) :
    (mmJpegSessionAbort refused chain obj).session key = obj.session key := by
  induction chain generalizing obj with
  | nil => rfl
  | cons first rest inductionHypothesis =>
    simp only [abortedKeys] at absent
    simp only [mmJpegSessionAbort]
    split
    · rfl
    · rename_i abortState
      rw [if_neg abortState] at absent
      split
      · rename_i stopped
        rw [if_pos stopped, List.mem_singleton] at absent
        rw [setSession_other _ _ absent]
      · rename_i continued
        rw [if_neg continued, List.mem_cons, not_or] at absent
        rw [inductionHypothesis absent.2, setSession_other _ _ absent.1]

theorem mmJpegSessionAbort_of_mem (member : key ∈ abortedKeys refused chain obj) :
    ((mmJpegSessionAbort refused chain obj).session key).abortState ≠ .none := by
  induction chain generalizing obj with
  | nil => cases member
  | cons first rest inductionHypothesis =>
    simp only [abortedKeys] at member
    simp only [mmJpegSessionAbort]
    split
    · rename_i abortState
      rw [if_pos abortState] at member
      cases member
    · rename_i abortState
      rw [if_neg abortState] at member
      split
      · rename_i stopped
        rw [if_pos stopped, List.mem_singleton] at member
        subst member
        simp
      · rename_i continued
        rw [if_neg continued, List.mem_cons] at member
        by_cases later : key ∈ abortedKeys refused rest (obj.setSession first
                { obj.session first with abortState := .done })
        · exact inductionHypothesis later
        · have isFirst := member.resolve_right later
          subst isFirst
          rw [mmJpegSessionAbort_of_not_mem later, setSession_same]
          simp

/-- The walk aborts sessions of the chain only. -/
theorem mem_of_mem_abortedKeys (member : key ∈ abortedKeys refused chain obj) : key ∈ chain := by
  induction chain generalizing obj with
  | nil => cases member
  | cons first rest inductionHypothesis =>
    simp only [abortedKeys] at member
    split at member
    · cases member
    · split at member
      · rw [List.mem_singleton] at member
        simp [member]
      · rw [List.mem_cons] at member ⊢
        exact member.imp id fun later => inductionHypothesis later

/-- The walk looks at sessions only. -/
theorem abortedKeys_congr {other : JpegObj} (same : other.session = obj.session) :
    abortedKeys refused chain other = abortedKeys refused chain obj := by
  induction chain generalizing obj other with
  | nil => rfl
  | cons first rest inductionHypothesis =>
    simp only [abortedKeys, same]
    split
    · rfl
    · split
      · rfl
      · refine congrArg (first :: ·) (inductionHypothesis ?_)
        simp [JpegObj.setSession, same]

/-- The busy sessions after an abort are those it has not stopped. -/
theorem mmJpegSessionAbort_busy (other : SessionKey) :
    Busy (mmJpegSessionAbort refused chain obj) other ↔
      Busy obj other ∧ other ∉ abortedKeys refused chain obj := by
  have same := @mmJpegSessionAbort_sameChains refused chain obj
  simp only [Busy, same.inChain_iff, mmJpegSessionAbort_sessionHandleQ]
  constructor
  · rintro ⟨queues, inChain, abortState, absent⟩
    have notAborted : other ∉ abortedKeys refused chain obj :=
      fun member => mmJpegSessionAbort_of_mem member abortState
    rw [mmJpegSessionAbort_of_not_mem notAborted] at abortState
    exact ⟨⟨queues, inChain, abortState, absent⟩, notAborted⟩
  · rintro ⟨⟨queues, inChain, abortState, absent⟩, notAborted⟩
    refine ⟨queues, inChain, ?_, absent⟩
    rwa [mmJpegSessionAbort_of_not_mem notAborted]

end Aborts

theorem head_mem_chainOf : key ∈ chainOf obj key := by
  simp [chainOf, mmJpegMaxSession, chainFrom]

/-- A session with other queues is not in the chain. -/
theorem not_mem_chainOf (chains : ChainInvariant obj) (held : key ∈ obj.sessionIds)
    (home : (obj.session key).queues = some queues)
    (apart : (obj.session other).queues ≠ some queues) :
    other ∉ chainOf obj key := by
  intro member
  obtain ⟨-, inQueues⟩ := (chains.chain key held other).mp member
  rw [home] at inQueues
  exact apart inQueues

/-- The sessions of other chains are left alone. -/
theorem mmJpegDestroySession_other (absent : other ∉ chainOf obj key) :
    (mmJpegDestroySession queues key refused obj).1.session other =
      obj.session other := by
  have different : other ≠ key := by
    rintro rfl
    exact absent head_mem_chainOf
  simp only [mmJpegDestroySession]
  rw [setSession_other _ _ different, setOutBufs_session, setHandles_session]
  simp only [removeSessions, absent, if_false]
  rw [mmJpegSessionAbort_other absent]

theorem mmJpegDestroySession_member (member : other ∈ chainOf obj key) :
    ((mmJpegDestroySession queues key refused obj).1.session other).active = false ∧
      ((mmJpegDestroySession queues key refused obj).1.session other).omxOwes =
        false := by
  simp only [mmJpegDestroySession]
  by_cases isKey : other = key
  · subst isKey
    simp [removeSessions, member]
  · rw [setSession_other _ _ isKey, setOutBufs_session, setHandles_session]
    simp [removeSessions, member]

theorem mmJpegDestroySession_nextSession (other : SessionKey) :
    ((mmJpegDestroySession queues key refused obj).1.session other).nextSession =
      (obj.session other).nextSession := by
  obtain ⟨state, aborted⟩ :=
    @mmJpegSessionAbort_session refused (chainOf obj key) { obj with
          jobQueue := otherJobs key obj.jobQueue
          ongoingJobQ := otherJobs key obj.ongoingJobQ } other
  have unlinked : ∀ chain, ((removeSessions chain (mmJpegSessionAbort refused (chainOf obj key)
            { obj with
                jobQueue := otherJobs key obj.jobQueue
                ongoingJobQ :=
                  otherJobs key obj.ongoingJobQ })).session
        other).nextSession = (obj.session other).nextSession := by
    intro chain
    simp only [removeSessions]
    split
    · rw [aborted]
    · rw [aborted]
  simp only [mmJpegDestroySession]
  by_cases isKey : other = key
  · subst isKey
    rw [setSession_same, setOutBufs_session, setHandles_session]
    exact unlinked _
  · rw [setSession_other _ _ isKey, setOutBufs_session, setHandles_session]
    exact unlinked _

/-- The queue of free sessions is emptied, the others are left alone. -/
theorem mmJpegDestroySession_handles (place : Nat) :
    (mmJpegDestroySession queues key refused obj).1.sessionHandleQ place =
      if place = queues then [] else obj.sessionHandleQ place := by
  by_cases isQueues : place = queues
  · subst isQueues
    simp [mmJpegDestroySession]
  · simp only [mmJpegDestroySession, isQueues, if_false,
      setSession_sessionHandleQ, setOutBufs_sessionHandleQ]
    rw [setHandles_other _ _ isQueues, removeSessions, mmJpegSessionAbort_sessionHandleQ]

/-- The queues of free output buffers of other chains are left alone. -/
theorem mmJpegDestroySession_outBufQ {place : Nat} (different : place ≠ queues) :
    (mmJpegDestroySession queues key refused obj).1.outBufQ place =
      obj.outBufQ place := by
  simp [mmJpegDestroySession, JpegObj.setSession, JpegObj.setOutBufs,
    JpegObj.setHandles, removeSessions, different]

/-- The queues of jobs lose the jobs of the session. -/
theorem mmJpegDestroySession_jobs : (mmJpegDestroySession queues key refused obj).1.jobQueue =
        otherJobs key obj.jobQueue ∧
      (mmJpegDestroySession queues key refused obj).1.ongoingJobQ =
        otherJobs key obj.ongoingJobQ := by
  simp [mmJpegDestroySession, JpegObj.setSession, JpegObj.setOutBufs,
    JpegObj.setHandles, removeSessions]

theorem mmJpegDestroySession_queuesMade :
    (mmJpegDestroySession queues key refused obj).1.queuesMade =
      obj.queuesMade := by
  simp [mmJpegDestroySession, JpegObj.setSession, JpegObj.setOutBufs,
    JpegObj.setHandles, removeSessions]

/-- A session of another chain keeps its place, and no other is in a chain. -/
theorem mmJpegDestroySession_inChain (chains : ChainInvariant obj)
    (held : key ∈ obj.sessionIds) (home : (obj.session key).queues = some queues)
    (place : Nat) (other : SessionKey) :
    InChain (mmJpegDestroySession queues key refused obj).1 place other ↔
      InChain obj place other ∧ place ≠ queues := by
  by_cases member : other ∈ chainOf obj key
  · obtain ⟨-, inQueues⟩ := (chains.chain key held other).mp member
    rw [home] at inQueues
    simp only [InChain, (mmJpegDestroySession_member member).1,
      Bool.false_eq_true, false_and, false_iff, not_and, ne_eq, not_not]
    rintro ⟨-, inPlace⟩
    rw [inQueues, Option.some.injEq] at inPlace
    exact inPlace.symm
  · rw [InChain, mmJpegDestroySession_other member]
    refine ⟨fun inChain => ⟨inChain, ?_⟩, And.left⟩
    rintro rfl
    refine member ((chains.chain key held other).mpr ⟨inChain.1, ?_⟩)
    rw [inChain.2, home]

/-- The busy sessions of the other chains stay busy. -/
theorem mmJpegDestroySession_busy (chains : ChainInvariant obj) (held : key ∈ obj.sessionIds)
    (home : (obj.session key).queues = some queues)
    (other : SessionKey) :
    Busy (mmJpegDestroySession queues key refused obj).1 other ↔
      Busy obj other ∧ (obj.session other).queues ≠ some queues := by
  have inChain_iff := @mmJpegDestroySession_inChain refused obj key queues chains held home
  have kept : ∀ {place}, InChain obj place other → place ≠ queues →
      (mmJpegDestroySession queues key refused obj).1.session other =
        obj.session other := by
    intro place inChain different
    refine mmJpegDestroySession_other (not_mem_chainOf chains held home ?_)
    rw [inChain.2]
    exact fun same => different (Option.some.inj same)
  constructor
  · rintro ⟨place, inChain, abortState, absent⟩
    obtain ⟨wasInChain, different⟩ := (inChain_iff place other).mp inChain
    rw [mmJpegDestroySession_handles, if_neg different] at absent
    rw [kept wasInChain different] at abortState
    refine ⟨⟨place, wasInChain, abortState, absent⟩, ?_⟩
    rw [wasInChain.2]
    exact fun same => different (Option.some.inj same)
  · rintro ⟨⟨place, inChain, abortState, absent⟩, apart⟩
    have different : place ≠ queues := by
      rintro rfl
      exact apart inChain.2
    refine ⟨place, (inChain_iff place other).mpr ⟨inChain, different⟩, ?_, ?_⟩
    · rwa [kept inChain different]
    · rwa [mmJpegDestroySession_handles, if_neg different]

/-- A busy session of another chain is left as it was. -/
theorem mmJpegDestroySession_busy_session (chains : ChainInvariant obj)
    (held : key ∈ obj.sessionIds) (home : (obj.session key).queues = some queues)
    (busy : Busy (mmJpegDestroySession queues key refused obj).1 other) :
    Busy obj other ∧ (mmJpegDestroySession queues key refused obj).1.session other =
        obj.session other := by
  obtain ⟨wasBusy, apart⟩ := (mmJpegDestroySession_busy chains held home other).mp busy
  exact ⟨wasBusy, mmJpegDestroySession_other (not_mem_chainOf chains held home apart)⟩

/-- The chains after `mm_jpeg_destroy_session`. -/
theorem ChainInvariant.destroyed (chains : ChainInvariant obj) (held : key ∈ obj.sessionIds)
    (home : (obj.session key).queues = some queues) :
    ChainInvariant (mmJpegDestroySession queues key refused obj).1 := by
  have ids : (mmJpegDestroySession queues key refused obj).1.sessionIds =
        obj.sessionIds.erase key :=
    rfl
  have kept : ∀ {head}, head ∈ obj.sessionIds.erase key →
      head ∈ obj.sessionIds ∧ head ∉ chainOf obj key := by
    intro head member
    rw [chains.idsNodup.mem_erase_iff] at member
    refine ⟨member.2, ?_⟩
    intro inside
    obtain ⟨-, same⟩ := (chains.chain key held head).mp inside
    exact member.1 (chains.headsApart head member.2 key held same)
  refine ⟨?_, ?_, ?_, ?_, ?_⟩
  · rw [ids]
    exact chains.idsNodup.erase key
  · intro head member
    rw [ids] at member
    obtain ⟨stays, apart⟩ := kept member
    obtain ⟨place, inChain⟩ := chains.headInChain head stays
    refine ⟨place, ?_⟩
    rw [InChain, mmJpegDestroySession_other apart]
    exact inChain
  · intro head member other otherMember same
    rw [ids] at member otherMember
    obtain ⟨stays, apart⟩ := kept member
    obtain ⟨otherStays, otherApart⟩ := kept otherMember
    rw [mmJpegDestroySession_other apart, mmJpegDestroySession_other otherApart] at same
    exact chains.headsApart head stays other otherStays same
  · intro other place equal
    rw [mmJpegDestroySession_queuesMade]
    by_cases member : other ∈ chainOf obj key
    · by_cases isKey : other = key
      · subst isKey
        simp [mmJpegDestroySession] at equal
      · obtain ⟨state, aborted⟩ :=
          @mmJpegSessionAbort_session refused (chainOf obj key) { obj with
                jobQueue := otherJobs key obj.jobQueue
                ongoingJobQ := otherJobs key obj.ongoingJobQ } other
        simp only [mmJpegDestroySession] at equal
        rw [setSession_other _ _ isKey, setOutBufs_session, setHandles_session] at equal
        simp only [removeSessions, member, if_true, aborted] at equal
        exact chains.numbered other place equal
    · rw [mmJpegDestroySession_other member] at equal
      exact chains.numbered other place equal
  · intro head member other
    rw [ids] at member
    obtain ⟨stays, apart⟩ := kept member
    have sameChain : chainOf (mmJpegDestroySession queues key refused obj).1 head =
          chainOf obj head :=
      chainFrom_congr mmJpegDestroySession_nextSession _ _
    rw [sameChain, chains.chain head stays other, mmJpegDestroySession_other apart]
    by_cases inside : other ∈ chainOf obj key
    · rw [(mmJpegDestroySession_member inside).1]
      simp only [Bool.false_eq_true, false_and, iff_false, not_and]
      intro _ same
      obtain ⟨-, inQueues⟩ := (chains.chain key held other).mp inside
      refine apart ((chains.chain key held head).mpr ⟨?_, ?_⟩)
      · obtain ⟨_, inChain⟩ := chains.headInChain head stays
        exact inChain.1
      · rw [← same, inQueues]
    · rw [mmJpegDestroySession_other inside]

/-- The busy sessions that work for a chain are those of its queues. -/
theorem busy_session_iff (chains : ChainInvariant obj) (pool : PoolInvariant obj)
    (held : key ∈ obj.sessionIds) (home : (obj.session key).queues = some queues)
    (busy : Busy obj other) :
    (obj.session other).jobId.session = key ↔ (obj.session other).queues = some queues := by
  have chain := pool.workerChain other busy
  constructor
  · intro isKey
    rw [← chain, isKey, home]
  · intro inQueues
    obtain ⟨node, member, same⟩ := List.mem_map.mp (busy_ongoing pool busy)
    have workerHeld := pool.ongoingHeld node member
    rw [same] at workerHeld
    rw [inQueues, ← home] at chain
    exact chains.headsApart _ workerHeld _ held chain

/-- The pool of sessions after `mm_jpeg_destroy_session`. -/
theorem PoolInvariant.destroyed (chains : ChainInvariant obj) (pool : PoolInvariant obj)
    (held : key ∈ obj.sessionIds) (home : (obj.session key).queues = some queues) :
    PoolInvariant (mmJpegDestroySession queues key refused obj).1 := by
  have inChain_iff := @mmJpegDestroySession_inChain refused obj key queues chains held home
  have busy_iff := @mmJpegDestroySession_busy refused obj key queues chains held home
  have outside : ∀ {place other}, InChain obj place other → place ≠ queues →
      other ∉ chainOf obj key := by
    intro place other inChain different
    refine not_mem_chainOf chains held home ?_
    rw [inChain.2]
    exact fun same => different (Option.some.inj same)
  have sameHead : ∀ {other}, Busy obj other → ((obj.session other).jobId.session = key ↔
        (obj.session other).queues = some queues) :=
    fun busy => busy_session_iff chains pool held home busy
  have jobs := @mmJpegDestroySession_jobs refused obj key queues
  have ids : (mmJpegDestroySession queues key refused obj).1.sessionIds =
        obj.sessionIds.erase key :=
    rfl
  refine ⟨?_, ?_, ?_, ?_, ?_, ?_, ?_⟩
  · intro place
    rw [mmJpegDestroySession_handles]
    split
    · exact List.nodup_nil
    · exact pool.handleNodup place
  · intro place other member
    rw [mmJpegDestroySession_handles] at member
    split at member
    · cases member
    · rename_i different
      exact (inChain_iff place other).mpr ⟨pool.handleInChain place other member, different⟩
  · intro other owes
    by_cases member : other ∈ chainOf obj key
    · rw [(mmJpegDestroySession_member member).2] at owes
      cases owes
    · rw [mmJpegDestroySession_other member] at owes
      obtain ⟨place, inChain, absent⟩ := pool.owed other owes
      have different : place ≠ queues := by
        rintro rfl
        refine member ((chains.chain key held other).mpr ⟨inChain.1, ?_⟩)
        rw [inChain.2, home]
      refine ⟨place, (inChain_iff place other).mpr ⟨inChain, different⟩, ?_⟩
      rwa [mmJpegDestroySession_handles, if_neg different]
  · intro node member
    rw [jobs.1, otherJobs, List.mem_filter] at member
    rw [ids, chains.idsNodup.mem_erase_iff]
    exact ⟨by simpa using member.2, pool.todoHeld node member.1⟩
  · intro node member
    rw [jobs.2, otherJobs, List.mem_filter] at member
    rw [ids, chains.idsNodup.mem_erase_iff]
    exact ⟨by simpa using member.2, pool.ongoingHeld node member.1⟩
  · obtain ⟨workers, nodup, members, assigned⟩ := pool.workers
    refine ⟨workers.filter fun other =>
        (obj.session other).jobId.session ≠ key, nodup.filter _, ?_, ?_⟩
    · intro other
      rw [List.mem_filter, busy_iff, members]
      simp only [ne_eq, decide_eq_true_eq, and_congr_right_iff]
      intro busy
      rw [sameHead busy]
    · have unchanged : ((workers.filter fun other =>
              (obj.session other).jobId.session ≠ key).map fun other =>
            ((mmJpegDestroySession queues key refused obj).1.session other).jobId) =
          (workers.filter fun other =>
              (obj.session other).jobId.session ≠ key).map fun other =>
            (obj.session other).jobId := by
        refine List.map_congr_left ?_
        intro other member
        rw [List.mem_filter] at member
        have busy := (members other).mp member.1
        have ⟨place, inChain, _, _⟩ := busy
        have different : place ≠ queues := by
          rintro rfl
          have isKey := (sameHead busy).mpr inChain.2
          simp [isKey] at member
        rw [mmJpegDestroySession_other (outside inChain different)]
      rw [unchanged, jobs.2, otherJobs]
      have filtered := assigned.filter fun jobId : JobId => decide (jobId.session ≠ key)
      rw [List.filter_map, List.filter_map] at filtered
      exact filtered
  · intro other busy
    obtain ⟨wasBusy, apart⟩ := (busy_iff other).mp busy
    have ⟨place, inChain, _, _⟩ := wasBusy
    have different : place ≠ queues := by
      rintro rfl
      exact apart inChain.2
    rw [mmJpegDestroySession_other (outside inChain different)]
    have chain := pool.workerChain other wasBusy
    have notMember : (obj.session other).jobId.session ∉ chainOf obj key := by
      intro member
      obtain ⟨-, inQueues⟩ := (chains.chain key held _).mp member
      rw [chain, home] at inQueues
      exact apart inQueues
    rw [mmJpegDestroySession_other notMember]
    exact chain

end Ending

end AnglerHal.JpegService
