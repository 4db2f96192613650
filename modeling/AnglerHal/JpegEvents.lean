import AnglerHal.CameraQueue
import AnglerHal.JpegService
import Mathlib.Data.List.Nodup

namespace AnglerHal.Hal1PostProc

open JpegService (JobId SessionKey makeJobId)
open LabelledRun
open PostProc (CameraQueue)

/-!
# JPEG jobs and their events

The data process thread puts a job into `m_ongoingJpegQ`, gives it to the
encoder and only then stores the id that the encoder has chosen.  An event
carries the id, and its handler takes every job out of the queue that holds
this id.  With `mUseSaveProc` the handler leaves the work to the save thread.
-/

/-- A job in `m_ongoingJpegQ`; without an id its `jobId` is still 0. -/
structure OngoingJpeg where
  job : Nat
  jobId : Option JobId
  deriving DecidableEq

/-- Where the data process thread is with the job that it submits. -/
inductive SubmitPc where
  | idle
  | encoding (job : Nat)
  | startJob (job : Nat) (jobId : JobId)
  | failed (job : Nat)
  deriving DecidableEq

/-- What `processJpegEvt` does with an event. -/
inductive JpegEvtPath where
  /-- It takes the job out itself. -/
  | release
  /-- It puts the event into `m_inputSaveQ`. -/
  | save
  /-- It finds no memory for the save thread, or `m_inputSaveQ` switched off. -/
  | saveRefused
  deriving DecidableEq

/-- The jobs of the post-processor and of the encoder. -/
structure JpegJobs where
  m_ongoingJpegQ : CameraQueue OngoingJpeg
  pc : SubmitPc
  /-- The jobs that the encoder has accepted and not reported. -/
  running : List (Nat × JobId)
  /-- The events that wait for the save thread. -/
  m_inputSaveQ : List (Nat × JobId)
  /-- The number of jobs submitted so far. -/
  submitted : Nat

/-- The queue as the constructor leaves it, and an encoder without jobs. -/
def JpegJobs.new : JpegJobs where
  m_ongoingJpegQ := .new
  pc := .idle
  running := []
  m_inputSaveQ := []
  submitted := 0

/-- The steps of the threads. -/
inductive JpegEvent where
  /-- `DO_NEXT_JOB` finds a job and puts it into `m_ongoingJpegQ`. -/
  | enqueue
  /-- `encodeData` fails, before `start_job` or in it. -/
  | encodeFails
  /-- `start_job` accepts the job under an id. -/
  | startJob (jobId : JobId)
  /-- `start_job` has returned and `encodeData` stores the id. -/
  | recordId
  /-- The thread takes the job that failed out again. -/
  | dequeueLast
  /-- The encoder reports a job. -/
  | processJpegEvt (job : Nat) (jobId : JobId) (path : JpegEvtPath)
  /-- The save thread takes the next event. -/
  | dataSave
  deriving DecidableEq

/-- What the threads take out of the queue, and for which job. -/
inductive JpegOutput where
  | handled (job : Nat) (removed : List Nat)
  | dropped (job : Nat) (removed : Option Nat)
  deriving DecidableEq

/-- `matchJobId`. -/
def matchJobId (jobId : JobId) (entry : OngoingJpeg) : Bool :=
  entry.jobId == some jobId

/-- `flushNodes(matchJobId, …)`. -/
def JpegJobs.releaseJob (job : Nat) (jobId : JobId)
    (jobs : JpegJobs) : JpegJobs × List JpegOutput :=
  let (removed, queue) := jobs.m_ongoingJpegQ.flushNodes (matchJobId jobId)
  ({ jobs with m_ongoingJpegQ := queue }, [.handled job (removed.map OngoingJpeg.job)])

/-- The id is stored in the job, wherever it is in the queue. -/
def JpegJobs.recordId (job : Nat) (jobId : JobId)
    (queue : CameraQueue OngoingJpeg) : CameraQueue OngoingJpeg where
  items := queue.items.map fun entry =>
    if entry.job = job then { entry with jobId := some jobId } else entry
  m_active := queue.m_active
  inactiveEmpty := fun inactive => by
    rw [queue.inactiveEmpty inactive]
    rfl

/-- `processJpegEvt`, as far as it is about the job of the event. -/
def JpegJobs.processJpegEvt (job : Nat) (jobId : JobId) (path : JpegEvtPath)
    (jobs : JpegJobs) : Option (JpegJobs × List JpegOutput) :=
  if (job, jobId) ∈ jobs.running then
    let reported := { jobs with running := jobs.running.erase (job, jobId) }
    match path with
    | .release => some (reported.releaseJob job jobId)
    | .save =>
      some ({ reported with
            m_inputSaveQ := reported.m_inputSaveQ ++ [(job, jobId)] }, [])
    | .saveRefused => some (reported, [])
  else
    none

/-- One step; `none` if the thread or the encoder is not at that point. -/
def jpegStep (jobs : JpegJobs) : JpegEvent → Option (JpegJobs × List JpegOutput)
  | .enqueue =>
    match jobs.pc with
    | .idle =>
      some ({ jobs with
            m_ongoingJpegQ :=
              jobs.m_ongoingJpegQ.enqueue ⟨jobs.submitted, none⟩
            pc := .encoding jobs.submitted
            submitted := jobs.submitted + 1 }, [])
    | _ => none
  | .encodeFails =>
    match jobs.pc with
    | .encoding job => some ({ jobs with pc := .failed job }, [])
    | _ => none
  | .startJob jobId =>
    match jobs.pc with
    | .encoding job =>
      some ({ jobs with
            pc := .startJob job jobId
            running := jobs.running ++ [(job, jobId)] }, [])
    | _ => none
  | .recordId =>
    match jobs.pc with
    | .startJob job jobId =>
      some ({ jobs with
            m_ongoingJpegQ :=
              JpegJobs.recordId job jobId jobs.m_ongoingJpegQ
            pc := .idle }, [])
    | _ => none
  | .dequeueLast =>
    match jobs.pc with
    | .failed job =>
      let (removed, queue) := jobs.m_ongoingJpegQ.dequeueLast
      some ({ jobs with
            m_ongoingJpegQ := queue
            pc := .idle },
          [.dropped job (removed.map OngoingJpeg.job)])
    | _ => none
  | .processJpegEvt job jobId path => jobs.processJpegEvt job jobId path
  | .dataSave =>
    match jobs.m_inputSaveQ with
    | [] => none
    | (job, jobId) :: rest => some ({ jobs with m_inputSaveQ := rest }.releaseJob job jobId)

/-- The events still to be handled. -/
def JpegJobs.awaited (jobs : JpegJobs) : List (Nat × JobId) :=
  jobs.running ++ jobs.m_inputSaveQ

/--
Every job in the queue still has its event to come, or is with the thread and
not accepted by the encoder.
-/
def JpegJobs.Accounted (jobs : JpegJobs) : Prop :=
  ∀ entry ∈ jobs.m_ongoingJpegQ.items, entry.job ∈ jobs.awaited.map Prod.fst ∨
      jobs.pc = .encoding entry.job ∨ jobs.pc = .failed entry.job

/-- What is taken out of the queue is the job itself. -/
def JpegOutput.Own : JpegOutput → Prop
  | .handled job removed => removed = [job]
  | .dropped job removed => removed = some job

/--
The step takes out the job that it is about and leaves no job in the queue
whose event is handled; the queue is empty once all events are.
-/
structure JpegSound (next : JpegJobs) (outputs : List JpegOutput) : Prop where
  own : ∀ output ∈ outputs, output.Own
  accounted : next.Accounted
  empty : next.pc = .idle → next.awaited = [] → next.m_ongoingJpegQ.items = []

/-- The step ends soundly. -/
def JpegSoundStep (jobs : JpegJobs) (event : JpegEvent) : Prop :=
  ∀ next outputs, jpegStep jobs event = some (next, outputs) → JpegSound next outputs

/-- The id is stored in the job, and in no other job of the queue. -/
def JpegJobs.Identified (job : Nat) (jobId : JobId) (jobs : JpegJobs) : Prop :=
  jobs.pc ≠ .startJob job jobId ∧ ∀ entry ∈ jobs.m_ongoingJpegQ.items,
      entry.jobId = some jobId → entry.job = job

/--
An event finds the id stored in its job and in no other one, and the save
thread accepts the events that it is given.
-/
def JpegTimely (jobs : JpegJobs) : JpegEvent → Prop
  | .processJpegEvt job jobId path =>
    (job, jobId) ∈ jobs.running → path ≠ .saveRefused ∧
        (path = .release → jobs.Identified job jobId)
  | .dataSave =>
    ∀ job jobId, jobs.m_inputSaveQ.head? = some (job, jobId) → jobs.Identified job jobId
  | _ => True

/-!
## The jobs in the queue

The queue holds the accepted jobs with their ids, and behind them the job that
the thread submits, which has no id yet.
-/

/-- The job that the thread submits. -/
def SubmitPc.jobs : SubmitPc → List Nat
  | .idle => []
  | .encoding job | .startJob job _ | .failed job => [job]

/-- The job that the encoder has accepted from the thread, with its id. -/
def SubmitPc.accepted : SubmitPc → List (Nat × JobId)
  | .startJob job jobId => [(job, jobId)]
  | _ => []

/-- A job whose id is stored. -/
def recorded (accepted : Nat × JobId) : OngoingJpeg :=
  ⟨accepted.1, some accepted.2⟩

/-- The jobs in `front` are recorded, and with that of the thread accounted for. -/
structure Recorded (front : List (Nat × JobId)) (jobs : JpegJobs) : Prop where
  active : jobs.m_ongoingJpegQ.m_active = true
  queue : jobs.m_ongoingJpegQ.items = front.map recorded ++ jobs.pc.jobs.map fun job => ⟨job, none⟩
  awaited : (front ++ jobs.pc.accepted).Perm jobs.awaited
  distinct : (front.map Prod.fst ++ jobs.pc.jobs).Nodup
  fresh : ∀ job ∈ front.map Prod.fst ++ jobs.pc.jobs, job < jobs.submitted

/-- What steps that meet the condition keep. -/
def JpegInv (jobs : JpegJobs) : Prop :=
  ∃ front, Recorded front jobs

theorem JpegInv.new : JpegInv .new :=
  ⟨[], rfl, rfl, List.Perm.refl _, List.nodup_nil, fun _ member => nomatch member⟩

variable {jobs : JpegJobs} {front : List (Nat × JobId)} {job : Nat} {jobId : JobId}

theorem Recorded.nodup (queued : Recorded front jobs) :
    front.Nodup :=
  List.Nodup.of_map Prod.fst (List.nodup_append.mp queued.distinct).1

theorem Recorded.accounted (queued : Recorded front jobs) :
    jobs.Accounted := by
  intro entry member
  rw [queued.queue, List.mem_append] at member
  rcases member with isRecorded | isSubmitted
  · obtain ⟨accepted, inFront, rfl⟩ := List.mem_map.mp isRecorded
    have isAwaited : accepted ∈ jobs.awaited :=
      queued.awaited.subset (List.mem_append_left _ inFront)
    exact .inl (List.mem_map_of_mem isAwaited)
  · obtain ⟨job, submits, rfl⟩ := List.mem_map.mp isSubmitted
    cases pc : jobs.pc with
    | idle =>
      rw [pc] at submits
      cases submits
    | encoding other =>
      rw [pc] at submits
      obtain rfl := List.mem_singleton.mp submits
      exact .inr (.inl rfl)
    | failed other =>
      rw [pc] at submits
      obtain rfl := List.mem_singleton.mp submits
      exact .inr (.inr rfl)
    | startJob other jobId =>
      rw [pc] at submits
      obtain rfl := List.mem_singleton.mp submits
      have isAwaited : (job, jobId) ∈ jobs.awaited := by
        refine queued.awaited.subset (List.mem_append_right _ ?_)
        rw [pc]
        exact List.mem_singleton.mpr rfl
      exact .inl (List.mem_map.mpr ⟨_, isAwaited, rfl⟩)

theorem JpegJobs.Accounted.empty (accounted : jobs.Accounted) (idle : jobs.pc = .idle)
    (none : jobs.awaited = []) :
    jobs.m_ongoingJpegQ.items = [] := by
  refine List.eq_nil_iff_forall_not_mem.mpr ?_
  intro entry member
  have owed := accounted entry member
  rw [none, idle] at owed
  simp at owed

variable {outputs : List JpegOutput} {next : JpegJobs} {event : JpegEvent}

theorem Recorded.sound (queued : Recorded front jobs)
    (own : ∀ output ∈ outputs, output.Own) :
    JpegSound jobs outputs :=
  ⟨own, queued.accounted, queued.accounted.empty⟩

theorem Recorded.of_awaited (queued : Recorded front jobs)
    (isAwaited : (job, jobId) ∈ jobs.awaited) :
    (job, jobId) ∈ front ∨ jobs.pc = .startJob job jobId := by
  rcases List.mem_append.mp (queued.awaited.symm.subset isAwaited) with
    inFront | isAccepted
  · exact .inl inFront
  · right
    cases pc : jobs.pc with
    | startJob other otherId =>
      rw [pc] at isAccepted
      cases List.mem_singleton.mp isAccepted
      rfl
    | idle | encoding | failed =>
      rw [pc] at isAccepted
      cases isAccepted

theorem Recorded.filter (queued : Recorded front jobs) (inFront : (job, jobId) ∈ front)
    (identified : jobs.Identified job jobId) :
    jobs.m_ongoingJpegQ.items.filter (matchJobId jobId) = [⟨job, some jobId⟩] ∧
      (jobs.m_ongoingJpegQ.items.filter fun entry => !matchJobId jobId entry) =
        (front.erase (job, jobId)).map recorded ++ jobs.pc.jobs.map fun job => ⟨job, none⟩ := by
  have same : ∀ accepted ∈ front,
        matchJobId jobId (recorded accepted) = (accepted == (job, jobId)) := by
    rintro ⟨other, otherId⟩ member
    have inQueue : recorded (other, otherId) ∈ jobs.m_ongoingJpegQ.items := by
      rw [queued.queue]
      exact List.mem_append_left _ (List.mem_map_of_mem member)
    have isJob := identified.2 _ inQueue
    simp only [recorded, Option.some.injEq] at isJob
    by_cases sameId : otherId = jobId
    · simp [matchJobId, recorded, sameId, isJob sameId]
    · simp [matchJobId, recorded, sameId]
  have unrecorded : ∀ submitted : List Nat,
        (submitted.map fun job => (⟨job, none⟩ : OngoingJpeg)).filter (matchJobId jobId) = [] := by
      intro submitted
      simp [matchJobId]
  have kept : ∀ submitted : List Nat, ((submitted.map fun job => (⟨job, none⟩ : OngoingJpeg)).filter
            fun entry => !matchJobId jobId entry) =
          submitted.map fun job => ⟨job, none⟩ := by
      intro submitted
      simp [matchJobId]
  have matching : front.filter (matchJobId jobId ∘ recorded) = [(job, jobId)] := by
    calc
      front.filter (matchJobId jobId ∘ recorded)
      _ = front.filter (· == (job, jobId)) := List.filter_congr same
      _ = [(job, jobId)] := by
        rw [List.filter_beq, List.count_eq_one_of_mem queued.nodup inFront]
        rfl
  have others : front.filter ((fun entry => !matchJobId jobId entry) ∘ recorded) =
        front.erase (job, jobId) := by
    rw [queued.nodup.erase_eq_filter]
    refine List.filter_congr ?_
    intro accepted member
    simp only [Function.comp, same accepted member, bne]
  rw [queued.queue, List.filter_append, List.filter_append, unrecorded, kept,
    List.filter_map, List.filter_map, matching, others]
  exact ⟨rfl, rfl⟩

theorem Recorded.releaseJob (queued : Recorded front jobs) {awaited : JpegJobs}
    (sameQueue : awaited.m_ongoingJpegQ = jobs.m_ongoingJpegQ)
    (samePc : awaited.pc = jobs.pc) (sameSubmitted : awaited.submitted = jobs.submitted)
    (handled : awaited.awaited.Perm (jobs.awaited.erase (job, jobId)))
    (isAwaited : (job, jobId) ∈ jobs.awaited) (identified : jobs.Identified job jobId) :
    Recorded (front.erase (job, jobId)) (awaited.releaseJob job jobId).1 ∧
      (awaited.releaseJob job jobId).2 = [.handled job [job]] := by
  have inFront : (job, jobId) ∈ front := by
    rcases queued.of_awaited isAwaited with inFront | starting
    · exact inFront
    · exact absurd starting identified.1
  obtain ⟨removed, rest⟩ := queued.filter inFront identified
  have fewer : List.Sublist ((front.erase (job, jobId)).map Prod.fst ++ jobs.pc.jobs)
        (front.map Prod.fst ++ jobs.pc.jobs) :=
    (List.erase_sublist.map Prod.fst).append (List.Sublist.refl _)
  refine ⟨⟨?_, ?_, ?_, ?_, ?_⟩, ?_⟩
  · change awaited.m_ongoingJpegQ.m_active = true
    rw [sameQueue]
    exact queued.active
  · change (awaited.m_ongoingJpegQ.items.filter _) = _ ++ awaited.pc.jobs.map _
    rw [sameQueue, samePc]
    exact rest
  · change (_ ++ awaited.pc.accepted).Perm awaited.awaited
    rw [samePc]
    have erased := queued.awaited.erase (job, jobId)
    rw [List.erase_append_left _ inFront] at erased
    exact erased.trans handled.symm
  · change (_ ++ awaited.pc.jobs).Nodup
    rw [samePc]
    exact queued.distinct.sublist fewer
  · intro other member
    change other ∈ _ ++ awaited.pc.jobs at member
    rw [samePc] at member
    change other < awaited.submitted
    rw [sameSubmitted]
    exact queued.fresh other (fewer.subset member)
  · change [JpegOutput.handled job
        ((awaited.m_ongoingJpegQ.items.filter _).map OngoingJpeg.job)] = _
    rw [sameQueue, removed]
    rfl

/-! ## Steps of the thread that submits -/

theorem Recorded.enqueue (queued : Recorded front jobs) (idle : jobs.pc = .idle) : Recorded front
      { jobs with
        m_ongoingJpegQ := jobs.m_ongoingJpegQ.enqueue ⟨jobs.submitted, none⟩
        pc := .encoding jobs.submitted
        submitted := jobs.submitted + 1 } := by
  obtain ⟨items, active⟩ :=
    CameraQueue.enqueue_of_active queued.active ⟨jobs.submitted, none⟩
  have queue := queued.queue
  have awaited := queued.awaited
  have distinct := queued.distinct
  have fresh := queued.fresh
  rw [idle] at queue awaited distinct fresh
  simp only [SubmitPc.jobs, SubmitPc.accepted, List.map_nil,
    List.append_nil] at queue awaited distinct fresh
  refine ⟨active, ?_, ?_, ?_, ?_⟩
  · rw [items, queue]
    rfl
  · change (front ++ []).Perm jobs.awaited
    rw [List.append_nil]
    exact awaited
  · refine List.nodup_append.mpr ⟨distinct, List.nodup_singleton _, ?_⟩
    rintro old isOld new isNew rfl
    obtain rfl := List.mem_singleton.mp isNew
    exact absurd (fresh _ isOld) (Nat.lt_irrefl _)
  · intro job member
    rcases List.mem_append.mp member with isOld | isNew
    · exact Nat.lt_succ_of_lt (fresh job isOld)
    · obtain rfl := List.mem_singleton.mp isNew
      exact Nat.lt_succ_self _

theorem Recorded.encodeFails (queued : Recorded front jobs) (encoding : jobs.pc = .encoding job) :
    Recorded front { jobs with pc := .failed job } := by
  obtain ⟨active, queue, awaited, distinct, fresh⟩ := queued
  rw [encoding] at queue awaited distinct fresh
  exact ⟨active, queue, awaited, distinct, fresh⟩

theorem Recorded.startJob (queued : Recorded front jobs) (encoding : jobs.pc = .encoding job)
    (jobId : JobId) :
    Recorded front { jobs with
        pc := .startJob job jobId
        running := jobs.running ++ [(job, jobId)] } := by
  obtain ⟨active, queue, awaited, distinct, fresh⟩ := queued
  rw [encoding] at queue awaited distinct fresh
  refine ⟨active, queue, ?_, distinct, fresh⟩
  change (front ++ [(job, jobId)]).Perm (jobs.running ++ [(job, jobId)] ++ jobs.m_inputSaveQ)
  simp only [SubmitPc.accepted, List.append_nil] at awaited
  calc
    front ++ [(job, jobId)]
    List.Perm _ (jobs.running ++ jobs.m_inputSaveQ ++ [(job, jobId)]) :=
      awaited.append_right _
    List.Perm _ (jobs.running ++ ([(job, jobId)] ++ jobs.m_inputSaveQ)) := by
      rw [List.append_assoc]
      exact List.perm_append_comm.append_left _
    _ = jobs.running ++ [(job, jobId)] ++ jobs.m_inputSaveQ :=
      (List.append_assoc _ _ _).symm

theorem Recorded.recordId (queued : Recorded front jobs)
    (starting : jobs.pc = .startJob job jobId) :
    Recorded (front ++ [(job, jobId)]) { jobs with
        m_ongoingJpegQ := JpegJobs.recordId job jobId jobs.m_ongoingJpegQ
        pc := .idle } := by
  obtain ⟨active, queue, awaited, distinct, fresh⟩ := queued
  rw [starting] at queue awaited distinct fresh
  refine ⟨active, ?_, ?_, ?_, ?_⟩
  · have others : ∀ accepted ∈ front, (if (recorded accepted).job = job then
              { recorded accepted with jobId := some jobId }
            else
              recorded accepted) = recorded accepted := by
      intro accepted member
      have apart : accepted.1 ≠ job :=
        (List.nodup_append.mp distinct).2.2 _ (List.mem_map_of_mem member) _
          (List.mem_singleton.mpr rfl)
      exact if_neg apart
    change (jobs.m_ongoingJpegQ.items.map fun entry =>
        if entry.job = job then { entry with jobId := some jobId } else entry) = _
    rw [queue, List.map_append, List.map_map]
    simp only [SubmitPc.jobs, List.map_append, List.map_cons, List.map_nil,
      ↓reduceIte, List.append_nil]
    exact congrArg (· ++ _) (List.map_congr_left others)
  · change (front ++ [(job, jobId)] ++ []).Perm jobs.awaited
    rw [List.append_nil]
    exact awaited
  · simpa [SubmitPc.jobs] using distinct
  · simpa [SubmitPc.jobs] using fresh

theorem Recorded.dequeueLast (queued : Recorded front jobs) (failed : jobs.pc = .failed job) :
    Recorded front { jobs with
          m_ongoingJpegQ := jobs.m_ongoingJpegQ.dequeueLast.2
          pc := .idle } ∧
      jobs.m_ongoingJpegQ.dequeueLast.1 = some ⟨job, none⟩ := by
  obtain ⟨active, queue, awaited, distinct, fresh⟩ := queued
  rw [failed] at queue awaited distinct fresh
  have items : jobs.m_ongoingJpegQ.items = front.map recorded ++ [⟨job, none⟩] := queue
  refine ⟨⟨active, ?_, awaited, ?_, ?_⟩, ?_⟩
  · rw [CameraQueue.dequeueLast_items, items, List.dropLast_concat]
    simp [SubmitPc.jobs]
  · exact (List.nodup_append.mp distinct).1.append List.nodup_nil (List.disjoint_nil_right _)
  · intro other member
    simp only [SubmitPc.jobs, List.append_nil] at member
    exact fresh other (List.mem_append_left _ member)
  · change jobs.m_ongoingJpegQ.items.getLast? = _
    rw [items, List.getLast?_concat]

/-! ## Steps of the threads that handle events -/

theorem Recorded.saveEvt (queued : Recorded front jobs) (isRunning : (job, jobId) ∈ jobs.running) :
    Recorded front { jobs with
        running := jobs.running.erase (job, jobId)
        m_inputSaveQ := jobs.m_inputSaveQ ++ [(job, jobId)] } := by
  obtain ⟨active, queue, awaited, distinct, fresh⟩ := queued
  refine ⟨active, queue, awaited.trans ?_, distinct, fresh⟩
  change (jobs.running ++ jobs.m_inputSaveQ).Perm
      (jobs.running.erase (job, jobId) ++ (jobs.m_inputSaveQ ++ [(job, jobId)]))
  calc
    jobs.running ++ jobs.m_inputSaveQ
    List.Perm _ ((job, jobId) :: jobs.running.erase (job, jobId) ++ jobs.m_inputSaveQ) :=
      (List.perm_cons_erase isRunning).append_right _
    List.Perm _ (jobs.running.erase (job, jobId) ++ jobs.m_inputSaveQ ++ [(job, jobId)]) :=
      (List.perm_append_singleton _ _).symm
    _ = jobs.running.erase (job, jobId) ++ (jobs.m_inputSaveQ ++ [(job, jobId)]) :=
      List.append_assoc _ _ _

/-- What a step keeps, and what it takes out. -/
structure JpegKept (next : JpegJobs) (outputs : List JpegOutput) : Prop where
  inv : JpegInv next
  own : ∀ output ∈ outputs, output.Own

theorem JpegKept.silent (queued : Recorded front jobs) : JpegKept jobs [] :=
  ⟨⟨front, queued⟩, fun _ member => nomatch member⟩

theorem Recorded.handled (queued : Recorded front jobs) {reported : JpegJobs}
    (sameQueue : reported.m_ongoingJpegQ = jobs.m_ongoingJpegQ)
    (samePc : reported.pc = jobs.pc)
    (sameSubmitted : reported.submitted = jobs.submitted)
    (handled : reported.awaited.Perm (jobs.awaited.erase (job, jobId)))
    (isAwaited : (job, jobId) ∈ jobs.awaited) (identified : jobs.Identified job jobId) :
    JpegKept (reported.releaseJob job jobId).1 (reported.releaseJob job jobId).2 := by
  obtain ⟨kept, removed⟩ :=
    queued.releaseJob sameQueue samePc sameSubmitted handled isAwaited identified
  refine ⟨⟨_, kept⟩, ?_⟩
  intro output member
  rw [removed] at member
  obtain rfl := List.mem_singleton.mp member
  rfl

theorem JpegInv.processJpegEvt {path : JpegEvtPath} (inv : JpegInv jobs)
    (timely : JpegTimely jobs (.processJpegEvt job jobId path))
    (stepped : jobs.processJpegEvt job jobId path = some (next, outputs)) :
    JpegKept next outputs := by
  obtain ⟨front, queued⟩ := inv
  unfold JpegJobs.processJpegEvt at stepped
  split at stepped
  · rename_i isRunning
    obtain ⟨accepted, identified⟩ := timely isRunning
    cases path with
    | release =>
      cases stepped
      refine queued.handled rfl rfl rfl ?_ (List.mem_append_left _ isRunning) (identified rfl)
      change (jobs.running.erase (job, jobId) ++ jobs.m_inputSaveQ).Perm
          ((jobs.running ++ jobs.m_inputSaveQ).erase (job, jobId))
      rw [List.erase_append_left _ isRunning]
    | save =>
      cases stepped
      exact .silent (queued.saveEvt isRunning)
    | saveRefused => exact absurd rfl accepted
  · cases stepped

theorem JpegInv.dataSave (inv : JpegInv jobs) (timely : JpegTimely jobs .dataSave)
    (stepped : jpegStep jobs .dataSave = some (next, outputs)) :
    JpegKept next outputs := by
  obtain ⟨front, queued⟩ := inv
  simp only [jpegStep] at stepped
  split at stepped
  · cases stepped
  · rename_i job jobId rest saved
    have identified := timely job jobId (by rw [saved]; rfl)
    have isAwaited : (job, jobId) ∈ jobs.awaited := by
      refine List.mem_append_right _ ?_
      rw [saved]
      exact List.mem_cons_self
    cases stepped
    refine queued.handled rfl rfl rfl ?_ isAwaited identified
    have split : jobs.awaited.Perm ((job, jobId) :: (jobs.running ++ rest)) := by
      unfold JpegJobs.awaited
      rw [saved]
      exact List.perm_middle
    have erased := split.erase (job, jobId)
    rw [List.erase_cons_head] at erased
    exact erased.symm

theorem JpegInv.step (inv : JpegInv jobs) (timely : JpegTimely jobs event)
    (stepped : jpegStep jobs event = some (next, outputs)) :
    JpegKept next outputs := by
  obtain ⟨front, queued⟩ := inv
  cases event with
  | enqueue =>
    simp only [jpegStep] at stepped
    split at stepped
    · cases stepped
      exact .silent (queued.enqueue ‹_›)
    · cases stepped
  | encodeFails =>
    simp only [jpegStep] at stepped
    split at stepped
    · cases stepped
      exact .silent (queued.encodeFails ‹_›)
    · cases stepped
  | startJob jobId =>
    simp only [jpegStep] at stepped
    split at stepped
    · cases stepped
      exact .silent (queued.startJob ‹_› jobId)
    · cases stepped
  | recordId =>
    simp only [jpegStep] at stepped
    split at stepped
    · cases stepped
      exact .silent (queued.recordId ‹_›)
    · cases stepped
  | dequeueLast =>
    simp only [jpegStep] at stepped
    split at stepped
    · rename_i job failed
      cases stepped
      obtain ⟨kept, removed⟩ := queued.dequeueLast failed
      refine ⟨⟨front, kept⟩, ?_⟩
      intro output member
      obtain rfl := List.mem_singleton.mp member
      rw [removed]
      rfl
    · cases stepped
  | processJpegEvt job jobId path => exact JpegInv.processJpegEvt ⟨front, queued⟩ timely stepped
  | dataSave => exact JpegInv.dataSave ⟨front, queued⟩ timely stepped

/-! ## The condition is needed -/

theorem Recorded.identified (queued : Recorded front jobs) (removed :
      (jobs.m_ongoingJpegQ.items.filter (matchJobId jobId)).map OngoingJpeg.job = [job]) :
    jobs.Identified job jobId := by
  refine ⟨?_, ?_⟩
  · intro starting
    obtain ⟨entry, isRemoved, isJob⟩ :=
      List.mem_map.mp (removed ▸ List.mem_singleton.mpr rfl)
    obtain ⟨inQueue, hasId⟩ := List.mem_filter.mp isRemoved
    have distinct := queued.distinct
    rw [queued.queue, starting] at inQueue
    rw [starting] at distinct
    rcases List.mem_append.mp inQueue with inFront | isSubmitted
    · obtain ⟨accepted, member, rfl⟩ := List.mem_map.mp inFront
      exact (List.nodup_append.mp distinct).2.2 _
        (List.mem_map_of_mem member) _ (List.mem_singleton.mpr rfl) isJob
    · obtain rfl := List.mem_singleton.mp isSubmitted
      simp [matchJobId] at hasId
  · intro entry inQueue hasId
    have isRemoved : entry.job ∈ [job] := by
      rw [← removed]
      refine List.mem_map_of_mem (List.mem_filter.mpr ⟨inQueue, ?_⟩)
      simp [matchJobId, hasId]
    exact List.mem_singleton.mp isRemoved

theorem Recorded.awaited_nodup (queued : Recorded front jobs) :
    (jobs.awaited.map Prod.fst).Nodup := by
  have accepted : List.Sublist (jobs.pc.accepted.map Prod.fst) jobs.pc.jobs := by
    cases jobs.pc with
    | startJob job jobId => exact List.Sublist.refl _
    | idle | encoding | failed => exact List.nil_sublist _
  have distinct :=
    queued.distinct.sublist ((List.Sublist.refl (front.map Prod.fst)).append accepted)
  rw [← List.map_append] at distinct
  exact (queued.awaited.map Prod.fst).nodup_iff.mp distinct

theorem Recorded.saveRefused (queued : Recorded front jobs)
    (isRunning : (job, jobId) ∈ jobs.running) :
    ¬ JpegJobs.Accounted { jobs with running := jobs.running.erase (job, jobId) } := by
  intro accounted
  have split : jobs.awaited.Perm ((job, jobId) :: (jobs.running.erase (job, jobId) ++
          jobs.m_inputSaveQ)) :=
    (List.perm_cons_erase isRunning).append_right _
  have distinct := (split.map Prod.fst).nodup_iff.mp queued.awaited_nodup
  have notAwaited := (List.nodup_cons.mp distinct).1
  rcases queued.of_awaited (List.mem_append_left _ isRunning) with
    inFront | starting
  · have inQueue : recorded (job, jobId) ∈ jobs.m_ongoingJpegQ.items := by
      rw [queued.queue]
      exact List.mem_append_left _ (List.mem_map_of_mem inFront)
    have apart : ∀ other ∈ jobs.pc.jobs, job ≠ other :=
      (List.nodup_append.mp queued.distinct).2.2 _ (List.mem_map_of_mem inFront)
    rcases accounted _ inQueue with isAwaited | encoding | failed
    · exact notAwaited isAwaited
    · change jobs.pc = .encoding job at encoding
      rw [encoding] at apart
      exact apart job (List.mem_singleton.mpr rfl) rfl
    · change jobs.pc = .failed job at failed
      rw [failed] at apart
      exact apart job (List.mem_singleton.mpr rfl) rfl
  · have inQueue : ⟨job, none⟩ ∈ jobs.m_ongoingJpegQ.items := by
      rw [queued.queue, starting]
      exact List.mem_append_right _ (List.mem_singleton.mpr rfl)
    rcases accounted _ inQueue with isAwaited | encoding | failed
    · exact notAwaited isAwaited
    · change jobs.pc = .encoding job at encoding
      rw [starting] at encoding
      cases encoding
    · change jobs.pc = .failed job at failed
      rw [starting] at failed
      cases failed

theorem JpegInv.soundStep_iff (inv : JpegInv jobs) :
    JpegSoundStep jobs event ↔ JpegTimely jobs event := by
  constructor
  · intro sound
    obtain ⟨front, queued⟩ := inv
    cases event with
    | processJpegEvt job jobId path =>
      intro isRunning
      refine ⟨?_, ?_⟩
      · rintro rfl
        have stepped : jpegStep jobs (.processJpegEvt job jobId .saveRefused) = some
                ({ jobs with running := jobs.running.erase (job, jobId) }, []) := by
          simp [jpegStep, JpegJobs.processJpegEvt, isRunning]
        exact queued.saveRefused isRunning (sound _ _ stepped).accounted
      · rintro rfl
        have stepped : jpegStep jobs (.processJpegEvt job jobId .release) = some
                (JpegJobs.releaseJob job jobId { jobs with
                    running := jobs.running.erase (job, jobId) }) := by
          simp [jpegStep, JpegJobs.processJpegEvt, isRunning]
        exact queued.identified ((sound _ _ stepped).own _ (List.mem_singleton.mpr rfl))
    | dataSave =>
      intro job jobId saved
      obtain ⟨rest, isSaved⟩ := List.head?_eq_some_iff.mp saved
      have stepped : jpegStep jobs .dataSave = some (JpegJobs.releaseJob job jobId
                { jobs with m_inputSaveQ := rest }) := by
        simp [jpegStep, isSaved]
      exact queued.identified ((sound _ _ stepped).own _ (List.mem_singleton.mpr rfl))
    | enqueue | encodeFails | startJob | recordId | dequeueLast => trivial
  · intro timely next outputs stepped
    obtain ⟨⟨front, queued⟩, own⟩ := inv.step timely stepped
    exact queued.sound own

/--
Throughout a run, each job is taken out of `m_ongoingJpegQ` by its own event or
by the thread that failed to submit it, and none is left behind, exactly when
every event is handled after the id of its job is stored, while no other job
holds this id, and is not refused by the save thread.
-/
theorem jpegRun_sound_iff (events : List JpegEvent) :
    Guarded jpegStep (fun jobs _ event => JpegSoundStep jobs event) .new [] events ↔
      Guarded jpegStep (fun jobs _ event => JpegTimely jobs event) .new [] events := by
  refine guarded_iff_of_invariant JpegInv (fun inv => inv.soundStep_iff) ?_ JpegInv.new
  intro jobs _ event next _ inv sound stepped
  exact (inv.step (inv.soundStep_iff.mp sound) stepped).inv

/-- The encoder reports a job before `encodeData` has stored its id. -/
def earlyEvent : List JpegEvent :=
  [.enqueue, .startJob (makeJobId ⟨0, 0⟩ 0), .processJpegEvt 0 (makeJobId ⟨0, 0⟩ 0) .release]

/-- The event finds no job, and the job stays in the queue. -/
theorem jpegRun_early : ¬ Guarded jpegStep (fun jobs _ event => JpegSoundStep jobs event)
      .new [] (earlyEvent ++ [.recordId]) := by
  intro sound
  have stored := sound.last rfl
  have empty := (stored _ _ rfl).empty rfl rfl
  exact absurd empty (by decide)

end AnglerHal.Hal1PostProc
