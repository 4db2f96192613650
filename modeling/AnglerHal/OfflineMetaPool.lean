import AnglerHal.ReprocessChannel
import Mathlib.Data.List.Perm.Basic

namespace AnglerHal.Channel

/-!
# Offline metadata buffers

A request with an input buffer takes a metadata buffer from
`mFreeOfflineMetaBuffersList` and marks it with its frame number.  The buffer
is found again by this mark, which is never cleared: when the reprocessed frame
arrives, and when the JPEG of the request is finished.  `putStreamBufs` fills
the list anew.
-/

/-- Where a job of a request with an input buffer is. -/
inductive OfflineStage where
  | reprocess
  | jpeg
  deriving DecidableEq

/-- A job that has not completed, with the buffer that holds its metadata. -/
structure OfflineJob where
  frameNumber : UInt32
  metaBufIdx : Nat
  reprocessType : ReprocessType
  stage : OfflineStage
  deriving DecidableEq

/-- The offline metadata buffers of a `QCamera3ProcessingChannel`. -/
structure OfflineMetaPool where
  mOfflineMetaMemory : StreamMem
  mFreeOfflineMetaBuffersList : List Nat
  /-- The jobs that have not completed. -/
  jobs : List OfflineJob

/-- `MAX_REPROCESS_PIPELINE_STAGES`. -/
def maxReprocessPipelineStages : Nat :=
  2

namespace OfflineMetaPool

/-- The pool after the constructor and `initialize`. -/
def initialized (numBuffers : Nat) (allocated : Bool) : OfflineMetaPool :=
  let memory := StreamMem.new (numBuffers + (maxReprocessPipelineStages - 1))
  match memory.mHeapMem.allocate allocated with
  | (heap, .noError) =>
    { mOfflineMetaMemory := { memory with mHeapMem := heap }
      mFreeOfflineMetaBuffersList :=
        List.range (numBuffers + (maxReprocessPipelineStages - 1))
      jobs := [] }
  | (heap, _) =>
    { mOfflineMetaMemory := { memory with mHeapMem := heap }
      mFreeOfflineMetaBuffersList := []
      jobs := [] }

/-- How the calls inside `setFwkInputPPData` end. -/
structure InputOutcome where
  /-- The input buffer is registered and its planes are known. -/
  inputOk : Bool
  /-- `getBufDef` of the metadata buffer. -/
  bufDefOk : Bool
  deriving DecidableEq

/-- `setFwkInputPPData` and the job that the request makes of its frame. -/
def setFwkInputPPData
    (frameNumber : UInt32)
    (reprocessType : ReprocessType)
    (outcome : InputOutcome)
    (pool : OfflineMetaPool) : OfflineMetaPool :=
  if outcome.inputOk then
    match pool.mFreeOfflineMetaBuffersList with
    | [] =>
      pool
    | metaBufIdx :: rest =>
      let marked :=
        { pool with
            mFreeOfflineMetaBuffersList := rest
            mOfflineMetaMemory :=
              (pool.mOfflineMetaMemory.markFrameNumber metaBufIdx
                frameNumber).1 }
      if outcome.bufDefOk then
        { marked with
            jobs := marked.jobs ++
              [{ frameNumber := frameNumber
                 metaBufIdx := metaBufIdx
                 reprocessType := reprocessType
                 stage :=
                   if reprocessType = .none then .jpeg else .reprocess }] }
      else
        marked
  else
    pool

/-- The metadata buffer part of `releaseOfflineMemory`. -/
def releaseOfflineMemory (resultFrameNumber : UInt32) (pool : OfflineMetaPool) : OfflineMetaPool :=
  match pool.mOfflineMetaMemory.mHeapMem.getBufferIndex resultFrameNumber with
  | some metaBufIndex =>
    { pool with
        mFreeOfflineMetaBuffersList :=
          pool.mFreeOfflineMetaBuffersList ++ [metaBufIndex] }
  | none => pool

/--
`QCamera3ReprocessChannel::streamCbRoutine` for the job at a position; a frame
for the encoder goes on to `processPPData`, which may not find its job.
-/
def reprocessDone (position : Nat) (found : Bool)
    (pool : OfflineMetaPool) : Option OfflineMetaPool :=
  match pool.jobs[position]? with
  | some job =>
    if job.stage = .reprocess then
      let released := pool.releaseOfflineMemory job.frameNumber
      if job.reprocessType = .jpeg ∧ found = true then
        some { released with
          jobs := pool.jobs.set position { job with stage := .jpeg } }
      else
        some { released with jobs := pool.jobs.eraseIdx position }
    else
      none
  | none => none

/-- The frame number that `processData` gives a live frame of a picture. -/
def liveFrameNumber : UInt32 :=
  0

/-- `streamCbRoutine` for a live frame that goes to the encoder. -/
def liveReprocessDone (pool : OfflineMetaPool) : OfflineMetaPool :=
  pool.releaseOfflineMemory liveFrameNumber

/-- `jpegEvtHandle` for the job at a position. -/
def jpegEvtHandle (position : Nat) (pool : OfflineMetaPool) : Option OfflineMetaPool :=
  match pool.jobs[position]? with
  | some job =>
    if job.stage = .jpeg then
      some { pool.releaseOfflineMemory job.frameNumber with
        jobs := pool.jobs.eraseIdx position }
    else
      none
  | none => none

/-- `putStreamBufs`. -/
def putStreamBufs (pool : OfflineMetaPool) : OfflineMetaPool :=
  { pool with
      mFreeOfflineMetaBuffersList :=
        List.range pool.mOfflineMetaMemory.getCnt }

end OfflineMetaPool

/-- The steps on the pool. -/
inductive PoolEvent where
  | setFwkInputPPData (frameNumber : UInt32) (reprocessType : ReprocessType)
      (outcome : OfflineMetaPool.InputOutcome)
  | reprocessDone (position : Nat) (found : Bool)
  | liveReprocessDone
  | jpegEvtHandle (position : Nat)
  /-- A job fails and is freed; its metadata buffer is not given back. -/
  | jobFailed (position : Nat)
  /-- `m_postprocessor.stop()` drops all jobs. -/
  | stop
  | putStreamBufs
  deriving DecidableEq

/-- One step; the pool has no output of its own. -/
def poolStep (pool : OfflineMetaPool) (event : PoolEvent) : Option (OfflineMetaPool × List Unit) :=
  match event with
  | .setFwkInputPPData frameNumber reprocessType outcome =>
    some (pool.setFwkInputPPData frameNumber reprocessType outcome, [])
  | .reprocessDone position found => (pool.reprocessDone position found).map (·, [])
  | .liveReprocessDone => some (pool.liveReprocessDone, [])
  | .jpegEvtHandle position => (pool.jpegEvtHandle position).map (·, [])
  | .jobFailed position => some ({ pool with jobs := pool.jobs.eraseIdx position }, [])
  | .stop => some ({ pool with jobs := [] }, [])
  | .putStreamBufs => some (pool.putStreamBufs, [])

/-- Execute a list of steps. -/
def poolRun (pool : OfflineMetaPool)
    (events : List PoolEvent) : Option (OfflineMetaPool × List Unit) :=
  LabelledRun.run? poolStep pool events

/-- No buffer is free twice, or free while a job uses it, or used twice. -/
structure PoolSound (pool : OfflineMetaPool) : Prop where
  nodup : pool.mFreeOfflineMetaBuffersList.Nodup
  notFree : ∀ job ∈ pool.jobs, job.metaBufIdx ∉ pool.mFreeOfflineMetaBuffersList
  apart : (pool.jobs.map OfflineJob.metaBufIdx).Nodup

/-! ## Guards -/

/-- The frame numbers of the requests with an input buffer. -/
def inputFrames (past : List PoolEvent) : List UInt32 :=
  past.filterMap fun
    | .setFwkInputPPData frameNumber _ _ => some frameNumber
    | _ => none

/-- A request has a frame number of its own, other than the mark `-1`. -/
def framesApart (past : List PoolEvent) : PoolEvent → Bool
  | .setFwkInputPPData frameNumber _ _ =>
    frameNumber.toInt32 != -1 && !(inputFrames past).contains frameNumber
  | _ => true

/-- No reprocessed frame of an input buffer goes on to the encoder. -/
def notEncoded (pool : OfflineMetaPool) : PoolEvent → Bool
  | .reprocessDone position found =>
    match pool.jobs[position]? with
    | some job => !(job.reprocessType = .jpeg && found)
    | none => true
  | _ => true

/-- No metadata buffer carries the frame number of live pictures. -/
def liveUnmarked (pool : OfflineMetaPool) : PoolEvent → Bool
  | .liveReprocessDone =>
    (pool.mOfflineMetaMemory.mHeapMem.getBufferIndex OfflineMetaPool.liveFrameNumber).isNone
  | _ => true

/-- The list is filled anew only when no job is left. -/
def reclaimsIdle (pool : OfflineMetaPool) : PoolEvent → Bool
  | .putStreamBufs => pool.jobs.isEmpty
  | _ => true

/-- The guard of the runs that keep the pool sound. -/
def returnsOnce (pool : OfflineMetaPool) (past : List PoolEvent) (event : PoolEvent) : Prop :=
  framesApart past event = true ∧ notEncoded pool event = true ∧
    liveUnmarked pool event = true ∧ reclaimsIdle pool event = true

instance (pool : OfflineMetaPool) (past : List PoolEvent) (event : PoolEvent) :
    Decidable (returnsOnce pool past event) :=
  inferInstanceAs (Decidable (_ ∧ _))

/-! ## The invariant -/

/-- The free buffers, and those of the jobs. -/
def OfflineMetaPool.buffers (pool : OfflineMetaPool) : List Nat :=
  pool.mFreeOfflineMetaBuffersList ++ pool.jobs.map OfflineJob.metaBufIdx

/-- The mark of a metadata buffer. -/
def OfflineMetaPool.mark (pool : OfflineMetaPool) (index : Nat) : Int32 :=
  pool.mOfflineMetaMemory.mHeapMem.frameNumbers index

/-- Every job is found by its mark alone. -/
structure PoolInvariant (pool : OfflineMetaPool) (past : List PoolEvent) : Prop where
  apart : pool.buffers.Nodup
  marks : ∀ index, pool.mark index = -1 ∨ ∃ frameNumber ∈ inputFrames past,
          pool.mark index = frameNumber.toInt32
  known : ∀ job ∈ pool.jobs, job.frameNumber ∈ inputFrames past
  found : ∀ job ∈ pool.jobs, ∀ index,
      pool.mark index = job.frameNumber.toInt32 → index = job.metaBufIdx

variable {pool : OfflineMetaPool} {past : List PoolEvent} {frameNumber : UInt32}

theorem PoolInvariant.sound (invariant : PoolInvariant pool past) :
    PoolSound pool := by
  obtain ⟨free, used, disjoint⟩ := List.nodup_append.mp invariant.apart
  refine ⟨free, ?_, used⟩
  intro job member isFree
  exact disjoint _ isFree _ (List.mem_map_of_mem member) rfl

theorem inputFrames_append (past : List PoolEvent) (event : PoolEvent) :
    inputFrames (past ++ [event]) = inputFrames past ++ inputFrames [event] :=
  List.filterMap_append

theorem PoolInvariant.of_kept {before after : OfflineMetaPool} (event : PoolEvent)
    (invariant : PoolInvariant before past)
    (memory : after.mOfflineMetaMemory = before.mOfflineMetaMemory)
    (jobs : ∀ job ∈ after.jobs, job ∈ before.jobs) (apart : after.buffers.Nodup) :
    PoolInvariant after (past ++ [event]) := by
  have sameMark : ∀ index, after.mark index = before.mark index := by
    intro index
    rw [OfflineMetaPool.mark, memory]
    rfl
  refine ⟨apart, ?_, ?_, ?_⟩
  · intro index
    rw [sameMark, inputFrames_append]
    rcases invariant.marks index with unmarked | ⟨frame, member, isMark⟩
    · exact .inl unmarked
    · exact .inr ⟨frame, List.mem_append_left _ member, isMark⟩
  · intro job member
    rw [inputFrames_append]
    exact List.mem_append_left _ (invariant.known job (jobs job member))
  · intro job member index isMark
    rw [sameMark] at isMark
    exact invariant.found job (jobs job member) index isMark

theorem markFrameNumber_mark (memory : StreamMem) (metaBufIdx : Nat) (frameNumber : UInt32)
    (index : Nat) :
    let marked := (memory.markFrameNumber metaBufIdx frameNumber).1
    marked.mHeapMem.frameNumbers index = memory.mHeapMem.frameNumbers index ∨ index = metaBufIdx ∧
        marked.mHeapMem.frameNumbers index = frameNumber.toInt32 := by
  unfold StreamMem.markFrameNumber HeapMemory.markFrameNumber
  dsimp only
  split
  · split
    · by_cases same : index = metaBufIdx
      · exact .inr ⟨same, by simp [same]⟩
      · exact .inl (by simp [same])
    · exact .inl rfl
  · exact .inl rfl

theorem PoolInvariant.of_marked {pool : OfflineMetaPool} {past : List PoolEvent}
    {frameNumber : UInt32} {reprocessType : ReprocessType}
    {outcome : OfflineMetaPool.InputOutcome} {metaBufIdx : Nat} {rest : List Nat}
    {newJobs : List OfflineJob} (invariant : PoolInvariant pool past)
    (isFirst : pool.mFreeOfflineMetaBuffersList = metaBufIdx :: rest)
    (notUnmarked : frameNumber.toInt32 ≠ -1) (isNew : frameNumber ∉ inputFrames past)
    (newJob : newJobs = [] ∨ ∃ job, newJobs = [job] ∧ job.frameNumber = frameNumber ∧
          job.metaBufIdx = metaBufIdx) :
    PoolInvariant { pool with
          mFreeOfflineMetaBuffersList := rest
          mOfflineMetaMemory :=
            (pool.mOfflineMetaMemory.markFrameNumber metaBufIdx frameNumber).1
          jobs := pool.jobs ++ newJobs }
      (past ++ [PoolEvent.setFwkInputPPData frameNumber reprocessType outcome]) := by
  have frames : inputFrames
          (past ++ [PoolEvent.setFwkInputPPData frameNumber reprocessType outcome]) =
        inputFrames past ++ [frameNumber] :=
    inputFrames_append past _
  have unknown : ∀ index, pool.mark index ≠ frameNumber.toInt32 := by
    intro index isMark
    rcases invariant.marks index with unmarked | ⟨frame, member, isFrame⟩
    · exact notUnmarked (isMark.symm.trans unmarked)
    · obtain rfl := toInt32_injective (isMark.symm.trans isFrame)
      exact isNew member
  have apart := invariant.apart
  rw [OfflineMetaPool.buffers, isFirst] at apart
  have marked := markFrameNumber_mark pool.mOfflineMetaMemory metaBufIdx frameNumber
  refine ⟨?_, ?_, ?_, ?_⟩
  · rcases newJob with rfl | ⟨job, rfl, -, sameIdx⟩
    · rw [List.cons_append, List.nodup_cons] at apart
      simpa [OfflineMetaPool.buffers] using apart.2
    · have moved : rest ++ (pool.jobs ++ [job]).map OfflineJob.metaBufIdx =
            (rest ++ pool.jobs.map OfflineJob.metaBufIdx) ++ [metaBufIdx] := by
        simp [sameIdx]
      rw [OfflineMetaPool.buffers, moved]
      exact (List.perm_append_singleton _ _).nodup_iff.mpr apart
  · intro index
    rw [frames]
    rcases marked index with same | ⟨-, isMark⟩
    · rcases invariant.marks index with unmarked | ⟨frame, member, isFrame⟩
      · exact .inl (same.trans unmarked)
      · exact .inr ⟨frame, List.mem_append_left _ member, same.trans isFrame⟩
    · exact .inr ⟨frameNumber, by simp, isMark⟩
  · intro job member
    rw [frames]
    rcases List.mem_append.mp member with earlier | isLast
    · exact List.mem_append_left _ (invariant.known job earlier)
    · rcases newJob with rfl | ⟨made, rfl, sameFrame, -⟩
      · cases isLast
      · obtain rfl := List.mem_singleton.mp isLast
        simp [sameFrame]
  · intro job member index isMark
    rcases List.mem_append.mp member with earlier | isLast
    · rcases marked index with same | ⟨-, isNewMark⟩
      · exact invariant.found job earlier index (same.symm.trans isMark)
      · have sameFrame := toInt32_injective (isNewMark.symm.trans isMark)
        exact absurd (sameFrame ▸ invariant.known job earlier) isNew
    · rcases newJob with rfl | ⟨made, rfl, sameFrame, sameIdx⟩
      · cases isLast
      · obtain rfl := List.mem_singleton.mp isLast
        rcases marked index with same | ⟨sameIndex, -⟩
        · rw [sameFrame] at isMark
          exact absurd (same.symm.trans isMark) (unknown index)
        · exact sameIndex.trans sameIdx.symm

theorem setFwkInputPPData_invariant {reprocessType : ReprocessType}
    {outcome : OfflineMetaPool.InputOutcome} (invariant : PoolInvariant pool past)
    (notUnmarked : frameNumber.toInt32 ≠ -1) (isNew : frameNumber ∉ inputFrames past) :
    PoolInvariant
      (pool.setFwkInputPPData frameNumber reprocessType outcome)
      (past ++ [PoolEvent.setFwkInputPPData frameNumber reprocessType outcome]) := by
  unfold OfflineMetaPool.setFwkInputPPData
  split
  · split
    · exact invariant.of_kept _ rfl (fun _ member => member) invariant.apart
    · rename_i metaBufIdx rest isFirst
      dsimp only
      split
      · exact invariant.of_marked isFirst notUnmarked isNew
          (.inr ⟨_, rfl, rfl, rfl⟩)
      · have kept :=
          @PoolInvariant.of_marked pool past frameNumber reprocessType outcome
            metaBufIdx rest [] invariant isFirst notUnmarked isNew (.inl rfl)
        rw [List.append_nil] at kept
        exact kept
  · exact invariant.of_kept _ rfl (fun _ member => member) invariant.apart

theorem mark_of_getBufferIndex {index : Nat}
    (found : pool.mOfflineMetaMemory.mHeapMem.getBufferIndex frameNumber = some index) :
    pool.mark index = frameNumber.toInt32 := by
  have isMark := List.find?_some found
  exact beq_iff_eq.mp isMark

theorem PoolInvariant.of_completed {position : Nat} {job : OfflineJob}
    (event : PoolEvent) (invariant : PoolInvariant pool past)
    (isJob : pool.jobs[position]? = some job) :
    PoolInvariant { pool.releaseOfflineMemory job.frameNumber with
          jobs := pool.jobs.eraseIdx position }
      (past ++ [event]) := by
  have member : job ∈ pool.jobs := List.mem_of_getElem? isJob
  obtain ⟨bound, isElem⟩ := List.getElem?_eq_some_iff.mp isJob
  have taken : (job :: pool.jobs.eraseIdx position).Perm pool.jobs := by
    rw [← isElem]
    exact List.getElem_cons_eraseIdx_perm bound
  have fewer : ∀ other ∈ pool.jobs.eraseIdx position, other ∈ pool.jobs :=
    fun other isOther => List.mem_of_mem_eraseIdx isOther
  have apart : (pool.mFreeOfflineMetaBuffersList ++ job.metaBufIdx ::
          (pool.jobs.eraseIdx position).map OfflineJob.metaBufIdx).Nodup := by
    refine (List.Perm.nodup_iff ?_).mp invariant.apart
    exact ((taken.map OfflineJob.metaBufIdx).append_left _).symm
  unfold OfflineMetaPool.releaseOfflineMemory
  split
  · rename_i index isFound
    have sameIdx := invariant.found job member index (mark_of_getBufferIndex isFound)
    subst sameIdx
    refine invariant.of_kept _ rfl fewer ?_
    rw [OfflineMetaPool.buffers, List.append_assoc]
    exact apart
  · refine invariant.of_kept _ rfl fewer ?_
    exact apart.sublist ((List.sublist_cons_self _ _).append_left _)

theorem poolStep_invariant {next : OfflineMetaPool} {event : PoolEvent}
    {emitted : List Unit} (invariant : PoolInvariant pool past)
    (met : returnsOnce pool past event)
    (stepped : poolStep pool event = some (next, emitted)) :
    PoolInvariant next (past ++ [event]) := by
  obtain ⟨isApart, notEncodedAfter, unmarked, reclaims⟩ := met
  cases event with
  | setFwkInputPPData frameNumber reprocessType outcome =>
    simp only [poolStep, Option.some.injEq, Prod.mk.injEq] at stepped
    obtain ⟨rfl, rfl⟩ := stepped
    simp only [framesApart, Bool.and_eq_true, bne_iff_ne, ne_eq,
      Bool.not_eq_true', List.contains_eq_mem, decide_eq_false_iff_not]
      at isApart
    exact setFwkInputPPData_invariant invariant isApart.1 isApart.2
  | reprocessDone position found =>
    simp only [poolStep, Option.map_eq_some_iff, Prod.mk.injEq] at stepped
    obtain ⟨after, done, rfl, rfl⟩ := stepped
    unfold OfflineMetaPool.reprocessDone at done
    split at done
    · rename_i job isJob
      split at done
      · dsimp only at done
        split at done
        · rename_i encoded
          simp [notEncoded, isJob, encoded] at notEncodedAfter
        · obtain rfl := Option.some.inj done
          exact invariant.of_completed _ isJob
      · cases done
    · cases done
  | liveReprocessDone =>
    simp only [poolStep, Option.some.injEq, Prod.mk.injEq] at stepped
    obtain ⟨rfl, rfl⟩ := stepped
    have none : pool.mOfflineMetaMemory.mHeapMem.getBufferIndex
          OfflineMetaPool.liveFrameNumber = none := by
      simpa [liveUnmarked] using unmarked
    have same : pool.liveReprocessDone = pool := by
      unfold OfflineMetaPool.liveReprocessDone OfflineMetaPool.releaseOfflineMemory
      rw [none]
    rw [same]
    exact invariant.of_kept _ rfl (fun _ member => member) invariant.apart
  | jpegEvtHandle position =>
    simp only [poolStep, Option.map_eq_some_iff, Prod.mk.injEq] at stepped
    obtain ⟨after, done, rfl, rfl⟩ := stepped
    unfold OfflineMetaPool.jpegEvtHandle at done
    split at done
    · rename_i job isJob
      split at done
      · obtain rfl := Option.some.inj done
        exact invariant.of_completed _ isJob
      · cases done
    · cases done
  | jobFailed position =>
    simp only [poolStep, Option.some.injEq, Prod.mk.injEq] at stepped
    obtain ⟨rfl, rfl⟩ := stepped
    refine invariant.of_kept _ rfl (fun _ member => List.mem_of_mem_eraseIdx member) ?_
    exact invariant.apart.sublist (((List.eraseIdx_sublist _ _).map _).append_left _)
  | stop =>
    simp only [poolStep, Option.some.injEq, Prod.mk.injEq] at stepped
    obtain ⟨rfl, rfl⟩ := stepped
    refine invariant.of_kept _ rfl (fun _ member => nomatch member) ?_
    exact invariant.apart.sublist ((List.nil_sublist _).append_left _)
  | putStreamBufs =>
    simp only [poolStep, Option.some.injEq, Prod.mk.injEq] at stepped
    obtain ⟨rfl, rfl⟩ := stepped
    have none : pool.jobs = [] := by
      simpa [reclaimsIdle] using reclaims
    refine invariant.of_kept _ rfl (fun _ member => member) ?_
    simp [OfflineMetaPool.buffers, OfflineMetaPool.putStreamBufs, none, List.nodup_range]

theorem initialized_invariant (numBuffers : Nat) (allocated : Bool) :
    PoolInvariant (.initialized numBuffers allocated) [] := by
  cases allocated with
  | true =>
    refine ⟨?_, fun _ => .inl rfl, (fun _ member => nomatch member),
      (fun _ member => nomatch member)⟩
    simp [OfflineMetaPool.initialized, OfflineMetaPool.buffers,
      StreamMem.new, HeapMemory.new, HeapMemory.allocate,
      List.nodup_range]
  | false =>
    exact ⟨List.nodup_nil, fun _ => .inl rfl,
      (fun _ member => nomatch member), (fun _ member => nomatch member)⟩

/--
In every state that a guarded run reaches, no metadata buffer is free twice,
free while a job uses it, or used by two jobs.
-/
theorem poolRun_sound {numBuffers : Nat} {allocated : Bool} {events : List PoolEvent}
    {final : OfflineMetaPool} {log : List Unit}
    (guarded : LabelledRun.Guarded poolStep returnsOnce
        (.initialized numBuffers allocated) [] events)
    (ran : poolRun (.initialized numBuffers allocated) events = some (final, log)) :
    PoolSound final := by
  have invariant :=
    LabelledRun.invariant_of_guarded (fun pool past _ => PoolInvariant pool past) [] guarded ran
      (initialized_invariant numBuffers allocated)
      (fun held met stepped => poolStep_invariant held met stepped)
  exact invariant.sound

/-- An input buffer and its metadata are ready. -/
def inputReady : OfflineMetaPool.InputOutcome where
  inputOk := true
  bufDefOk := true

/-- Requests of two kinds overlap, and one of them fails. -/
def overlappingEvents : List PoolEvent :=
  [.setFwkInputPPData 5 .yuv inputReady, .setFwkInputPPData 6 .none inputReady,
    .setFwkInputPPData 7 .yuv { inputReady with bufDefOk := false },
    .jpegEvtHandle 1, .reprocessDone 0 true,
    .setFwkInputPPData 8 .yuv inputReady]

/-- The buffers come back in the order in which the jobs complete. -/
theorem poolRun_sound_overlapping :
    ∃ final log,
      poolRun (.initialized 3 true) overlappingEvents = some (final, log) ∧
        final.mFreeOfflineMetaBuffersList = [1, 0] ∧
        final.jobs.map OfflineJob.metaBufIdx = [3] ∧
        PoolSound final :=
  ⟨_, _, rfl, by decide, by decide,
    @poolRun_sound 3 true overlappingEvents _ _ (by decide) rfl⟩

/-- One request whose reprocessed frame is encoded. -/
def encodedEvents : List PoolEvent :=
  [.setFwkInputPPData 5 .jpeg inputReady, .reprocessDone 0 true]

/--
The buffer is free while the JPEG job still uses it, and free twice when that
job completes.
-/
theorem poolRun_returnsTwice :
    (∃ final log,
      poolRun (.initialized 1 true) encodedEvents = some (final, log) ∧
        ¬ PoolSound final) ∧
      ∃ final log,
        poolRun (.initialized 1 true)
            (encodedEvents ++ [.jpegEvtHandle 0]) = some (final, log) ∧
          final.mFreeOfflineMetaBuffersList = [1, 0, 0] ∧
          ¬ PoolSound final := by
  refine ⟨⟨_, _, rfl, ?_⟩, ⟨_, _, rfl, by decide, ?_⟩⟩
  · intro sound
    exact sound.notFree ⟨5, 0, .jpeg, .jpeg⟩ (by decide) (by decide)
  · intro sound
    exact absurd sound.nodup (by decide)

end AnglerHal.Channel
