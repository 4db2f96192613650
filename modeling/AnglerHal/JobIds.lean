import AnglerHal.JpegCreate

namespace AnglerHal.JobIds

open Jpeg (maxJpegClientNum)
open JpegService (SessionKey EncodeJob jobHistMax mmJpegMaxSession)
open JpegCreate (sessionIdOf)

/-!
# The ids of encoding jobs

`mm_jpeg_start_job` names a job by the id of its session with the session's job
count, reduced modulo `JOB_HIST_MAX`, in the bits from 16 on.  The session id has
`JOB_ID_MAGICVAL` in bit 24, which is bit 8 of that count, so a job and the one
256 counts later have one id when bit 8 of the first count is clear.
-/

/-! ## The code -/

/-- `GET_CLIENT_IDX`. -/
def getClientIdx (id : Nat) : Nat :=
  id &&& 0xff

/-- `GET_SESSION_IDX`. -/
def getSessionIdx (id : Nat) : Nat :=
  (id >>> 8) &&& 0xff

/-- What `mm_jpeg_start_job` uses of a session slot. -/
structure Session where
  active : Bool
  numSrcBufs : Int
  numDstBufs : Int
  clientHdl : Nat
  jobHist : BitVec 32

/-- `mm_jpeg_cmd_type_t`. -/
inductive CmdType where
  | job
  | exit
  | decodeJob
  deriving DecidableEq

/-- `mm_jpeg_job_q_node_t`.  `address` names the node, the ids are those of
`enc_info` and `dec_info`. -/
structure JobNode where
  address : Nat
  type : CmdType
  encJobId : Nat
  decJobId : Nat
  session : Nat
  encodeJob : EncodeJob
  clientHandle : Nat
  deriving DecidableEq

/-- What `mm_jpeg_start_job` uses of `mm_jpeg_obj`, with the number of nodes that
have been allocated. -/
structure JpegObj where
  session : SessionKey → Session
  jobQueue : List JobNode
  allocated : Nat

/-- A call: the session it names, the job, and whether the two allocations, of
the job node and in `mm_jpeg_queue_enq`, return memory. -/
structure Call where
  sessionId : Nat
  job : EncodeJob
  malloc : Bool
  enq : Bool

/-- What a call returns and leaves; `node` is the job node it has made. -/
structure Started where
  rc : Int
  jobId : Nat
  node : Option JobNode
  obj : JpegObj

/-- `session_id | ((job_hist % JOB_HIST_MAX) << 16)`. -/
def jobIdOf (sessionId : Nat) (jobHist : BitVec 32) : Nat :=
  sessionId ||| ((jobHist.toNat % jobHistMax) <<< 16)

/-- The slot that a session id names. -/
def Call.key (call : Call) : SessionKey where
  clientIdx := getClientIdx call.sessionId
  sessionIdx := getSessionIdx call.sessionId

/-- The checks at the head of `mm_jpeg_start_job`, and its `malloc`. -/
def JpegObj.accepts (obj : JpegObj) (call : Call) : Bool :=
  call.key.sessionIdx < mmJpegMaxSession && call.key.clientIdx < maxJpegClientNum &&
    (obj.session call.key).active &&
    call.job.srcIndex < (obj.session call.key).numSrcBufs &&
    call.job.dstIndex < (obj.session call.key).numDstBufs && call.malloc

/-- `job_hist++`. -/
def JpegObj.countJob (obj : JpegObj) (key : SessionKey) : JpegObj :=
  { obj with
      session := fun other =>
        if other = key then { obj.session key with jobHist := (obj.session key).jobHist + 1 }
        else obj.session other
      allocated := obj.allocated + 1 }

/-- The node of the job that a call starts. -/
def JpegObj.nodeFor (obj : JpegObj) (call : Call) : JobNode where
  address := obj.allocated
  type := .job
  encJobId := jobIdOf call.sessionId (obj.session call.key).jobHist
  decJobId := 0
  session := call.sessionId
  encodeJob := call.job
  clientHandle := (obj.session call.key).clientHdl

/-- `mm_jpeg_start_job`. -/
def startJob (obj : JpegObj) (call : Call) : Started :=
  if obj.accepts call then
    let node := obj.nodeFor call
    let counted := obj.countJob call.key
    if call.enq then
      ⟨0, node.encJobId, some node, { counted with jobQueue := obj.jobQueue ++ [node] }⟩
    else
      ⟨-1, node.encJobId, some node, counted⟩
  else
    ⟨-1, 0, none, obj⟩

/-- The job nodes that calls make one after the other. -/
def startedJobs : List Call → JpegObj → List JobNode
  | [], _ => []
  | call :: rest, obj =>
    (startJob obj call).node.toList ++ startedJobs rest (startJob obj call).obj

/-- The id by which `mm_jpeg_queue_remove_job_by_job_id` knows a node. -/
def JobNode.lqJobId (node : JobNode) : Nat :=
  match node.type with
  | .decodeJob => node.decJobId
  | _ => node.encJobId

/-- `mm_jpeg_queue_remove_job_by_job_id`, with the queue it leaves.  An entry
whose data is `NULL` ends the search. -/
def removeJobByJobId (jobId : Nat) :
    List (Option JobNode) → Option JobNode × List (Option JobNode)
  | [] => (none, [])
  | none :: rest => (none, none :: rest)
  | some node :: rest =>
    if node.lqJobId = jobId then
      (some node, rest)
    else
      ((removeJobByJobId jobId rest).1, some node :: (removeJobByJobId jobId rest).2)

/-! ## What is promised -/

/-- A slot that exists. -/
def Valid (key : SessionKey) : Prop :=
  key.sessionIdx < mmJpegMaxSession ∧ key.clientIdx < maxJpegClientNum

/-- The ids of the jobs that were started on one session. -/
def idsOn (key : SessionKey) (jobs : List JobNode) : List Nat :=
  (jobs.filter fun node => node.session = sessionIdOf key).map JobNode.encJobId

/-- What the ids of started jobs are for. -/
structure Identifies (jobs : List JobNode) : Prop where
  distinct : ∀ key, Valid key → (idsOn key jobs).Nodup
  apart : ∀ first ∈ jobs, ∀ second ∈ jobs, first.session ≠ second.session →
    first.encJobId ≠ second.encJobId
  indices : ∀ node ∈ jobs, ∀ key, Valid key → node.session = sessionIdOf key →
    getClientIdx node.encJobId = key.clientIdx ∧ getSessionIdx node.encJobId = key.sessionIdx
  removes : ∀ queue : List JobNode, queue.Sublist jobs → ∀ node ∈ queue,
    removeJobByJobId node.encJobId (queue.map some) =
      (some node, (queue.erase node).map some)

/-- Two counts that are one in a job id. -/
def SameHistory (first second : BitVec 32) : Prop :=
  (first.toNat % jobHistMax) ||| 256 = (second.toNat % jobHistMax) ||| 256

/-- The number of calls that start a job on a session. -/
def startsOn (obj : JpegObj) (key : SessionKey) (calls : List Call) : Nat :=
  calls.countP fun call => obj.accepts call && call.sessionId = sessionIdOf key

/-- Every call names a session that `mm_jpeg_create_session` has returned. -/
def Named (calls : List Call) : Prop :=
  ∀ call ∈ calls, ∃ key, Valid key ∧ call.sessionId = sessionIdOf key

/-! ## The fields of an id -/

/-- Setting bit 8. -/
theorem or_bit8 (value : Nat) : value ||| 256 = 512 * (value / 512) + 256 + value % 256 := by
  have high : (value ||| 256) / 2 ^ 9 = value / 2 ^ 9 := by
    rw [Nat.or_div_two_pow]
    exact Nat.or_zero _
  have low : (value ||| 256) % 2 ^ 8 = value % 2 ^ 8 := by
    rw [Nat.or_mod_two_pow]
    exact Nat.or_zero _
  have bit : (value ||| 256) / 2 ^ 8 % 2 ^ 1 = 1 := by
    rw [Nat.or_div_two_pow, Nat.or_mod_two_pow]
    obtain even | odd := Nat.mod_two_eq_zero_or_one (value / 2 ^ 8)
    · rw [pow_one, even]
      rfl
    · rw [pow_one, odd]
      rfl
  omega

theorem getClientIdx_eq (id : Nat) : getClientIdx id = id % 256 :=
  Nat.and_two_pow_sub_one_eq_mod id 8

theorem getSessionIdx_eq (id : Nat) : getSessionIdx id = id / 256 % 256 := by
  rw [← Nat.shiftRight_eq_div_pow id 8]
  exact Nat.and_two_pow_sub_one_eq_mod _ 8

theorem Valid.low_lt {key : SessionKey} (valid : Valid key) :
    key.sessionIdx < 10 ∧ key.clientIdx < 8 :=
  valid

theorem sessionIdOf_eq {key : SessionKey} (valid : Valid key) :
    sessionIdOf key = 2 ^ 24 + 256 * key.sessionIdx + key.clientIdx := by
  obtain ⟨sessionLow, clientLow⟩ := valid.low_lt
  have session : key.sessionIdx <<< 8 = 256 * key.sessionIdx := by
    rw [Nat.shiftLeft_eq, Nat.mul_comm]
  rw [sessionIdOf, Nat.or_assoc, ← Nat.shiftLeft_add_eq_or_of_lt (by omega) key.sessionIdx,
    session, ← Nat.shiftLeft_add_eq_or_of_lt (by omega) 1]
  omega

/-- The magic value falls together with bit 8 of the count. -/
theorem jobIdOf_eq {key : SessionKey} (valid : Valid key) (jobHist : BitVec 32) :
    jobIdOf (sessionIdOf key) jobHist =
      2 ^ 16 * ((jobHist.toNat % jobHistMax) ||| 256) + 256 * key.sessionIdx + key.clientIdx := by
  obtain ⟨sessionLow, clientLow⟩ := valid.low_lt
  have magic : sessionIdOf key = 256 <<< 16 ||| (256 * key.sessionIdx + key.clientIdx) := by
    rw [sessionIdOf_eq valid, ← Nat.shiftLeft_add_eq_or_of_lt (by omega) 256]
    omega
  rw [jobIdOf, magic, Nat.or_assoc, Nat.or_comm (256 * _ + _), ← Nat.or_assoc,
    ← Nat.shiftLeft_or_distrib, Nat.or_comm 256, ← Nat.shiftLeft_add_eq_or_of_lt (by omega),
    Nat.shiftLeft_eq]
  omega

variable {first second : SessionKey} {node : JobNode}

theorem sessionIdOf_inj (firstValid : Valid first)
    (secondValid : Valid second) (same : sessionIdOf first = sessionIdOf second) :
    first = second := by
  obtain ⟨_, _⟩ := first
  obtain ⟨_, _⟩ := second
  have := firstValid.low_lt
  have := secondValid.low_lt
  rw [sessionIdOf_eq firstValid, sessionIdOf_eq secondValid] at same
  simp only [SessionKey.mk.injEq] at *
  omega

theorem jobIdOf_eq_iff (firstValid : Valid first)
    (secondValid : Valid second) (firstHist secondHist : BitVec 32) :
    jobIdOf (sessionIdOf first) firstHist = jobIdOf (sessionIdOf second) secondHist ↔
      first = second ∧ SameHistory firstHist secondHist := by
  obtain ⟨_, _⟩ := first
  obtain ⟨_, _⟩ := second
  have := firstValid.low_lt
  have := secondValid.low_lt
  rw [jobIdOf_eq firstValid, jobIdOf_eq secondValid, SameHistory, SessionKey.mk.injEq]
  simp only at *
  omega

theorem indices_jobIdOf {key : SessionKey} (valid : Valid key) (jobHist : BitVec 32) :
    getClientIdx (jobIdOf (sessionIdOf key) jobHist) = key.clientIdx ∧
      getSessionIdx (jobIdOf (sessionIdOf key) jobHist) = key.sessionIdx := by
  obtain ⟨sessionLow, clientLow⟩ := valid.low_lt
  rw [getClientIdx_eq, getSessionIdx_eq, jobIdOf_eq valid]
  omega

/-! ## Counts that fall together -/

theorem sameHistory_iff (first second : BitVec 32) :
    SameHistory first second ↔
      first.toNat % jobHistMax % 256 = second.toNat % jobHistMax % 256 ∧
        first.toNat % jobHistMax / 512 = second.toNat % jobHistMax / 512 := by
  rw [SameHistory, or_bit8, or_bit8]
  omega

theorem toNat_add_ofNat (jobHist : BitVec 32) (count : Nat) :
    (jobHist + BitVec.ofNat 32 count).toNat = (jobHist.toNat + count) % 2 ^ 32 := by
  rw [BitVec.toNat_add, BitVec.toNat_ofNat, Nat.add_mod_mod]

/-- Up to 256 counts stay apart, also where the counter wraps. -/
theorem not_sameHistory_of_near (jobHist : BitVec 32) {first second : Nat} (order : first < second)
    (near : second < 256) :
    ¬ SameHistory (jobHist + BitVec.ofNat 32 first) (jobHist + BitVec.ofNat 32 second) := by
  rw [sameHistory_iff, toNat_add_ofNat, toNat_add_ofNat, jobHistMax]
  obtain ⟨earlier, isEarlier⟩ : ∃ earlier, earlier = (jobHist.toNat + first) % 2 ^ 32 := ⟨_, rfl⟩
  obtain ⟨later, isLater⟩ : ∃ later, later = (jobHist.toNat + second) % 2 ^ 32 := ⟨_, rfl⟩
  rw [← isEarlier, ← isLater]
  obtain goesOn | wraps : later = earlier + (second - first) ∨
      later + 2 ^ 32 = earlier + (second - first) := by omega
  · have reduced : later % 10000 = earlier % 10000 + (second - first) ∨
        later % 10000 + 10000 = earlier % 10000 + (second - first) := by omega
    clear isEarlier isLater goesOn
    omega
  · have isLater : later % 10000 < 256 := by omega
    have isEarlier : 7000 < earlier % 10000 := by omega
    omega

/-- Among `JOB_HIST_MAX` counts two fall together: 0 and 256 where they are not
cut off by the wrap, else 6144 and 6400 before it. -/
theorem sameHistory_within_max (jobHist : BitVec 32) :
    ∃ first second, first < second ∧ second < jobHistMax ∧
      SameHistory (jobHist + BitVec.ofNat 32 first) (jobHist + BitVec.ofNat 32 second) := by
  have bound := jobHist.isLt
  have fall (first second left right : Nat) (order : first < second) (inside : second < jobHistMax)
      (isLeft : (jobHist.toNat + first) % 2 ^ 32 % jobHistMax = left)
      (isRight : (jobHist.toNat + second) % 2 ^ 32 % jobHistMax = right)
      (same : left % 256 = right % 256 ∧ left / 512 = right / 512) :
      ∃ first second, first < second ∧ second < jobHistMax ∧
        SameHistory (jobHist + BitVec.ofNat 32 first) (jobHist + BitVec.ofNat 32 second) := by
    refine ⟨first, second, order, inside, ?_⟩
    rw [sameHistory_iff, toNat_add_ofNat, toNat_add_ofNat, isLeft, isRight]
    exact same
  simp only [jobHistMax] at fall ⊢
  by_cases late : jobHist.toNat + 9999 < 2 ^ 32
  · have whole (count : Nat) (inside : count ≤ 9999) :
        (jobHist.toNat + count) % 2 ^ 32 = jobHist.toNat + count :=
      Nat.mod_eq_of_lt (by omega)
    obtain zero | inside | past : jobHist.toNat % 10000 = 0 ∨
        1 ≤ jobHist.toNat % 10000 ∧ jobHist.toNat % 10000 ≤ 256 ∨
        256 < jobHist.toNat % 10000 := by omega
    · exact fall 0 256 0 256 (by omega) (by omega) (by rw [whole _ (by omega)]; omega)
        (by rw [whole _ (by omega)]; omega) (by omega)
    · exact fall (256 - jobHist.toNat % 10000) (10000 - jobHist.toNat % 10000) 256 0 (by omega)
        (by omega) (by rw [whole _ (by omega)]; omega) (by rw [whole _ (by omega)]; omega)
        (by omega)
    · exact fall (10000 - jobHist.toNat % 10000) (10256 - jobHist.toNat % 10000) 0 256 (by omega)
        (by omega) (by rw [whole _ (by omega)]; omega) (by rw [whole _ (by omega)]; omega)
        (by omega)
  · by_cases early : 2 ^ 32 ≤ jobHist.toNat + 9743
    · exact fall (2 ^ 32 - jobHist.toNat) (2 ^ 32 - jobHist.toNat + 256) 0 256 (by omega)
        (by omega) (by omega) (by omega) (by omega)
    · exact fall (2 ^ 32 - jobHist.toNat - 1152) (2 ^ 32 - jobHist.toNat - 896) 6144 6400
        (by omega) (by omega) (by omega) (by omega) (by omega)

/-! ## The started jobs -/

section Runs

variable {obj : JpegObj} {call : Call} {calls : List Call} {key : SessionKey}

theorem key_of_named (valid : Valid key) (named : call.sessionId = sessionIdOf key) :
    call.key = key := by
  have low := valid.low_lt
  have clientIdx : getClientIdx call.sessionId = key.clientIdx := by
    rw [named, getClientIdx_eq, sessionIdOf_eq valid]
    omega
  have sessionIdx : getSessionIdx call.sessionId = key.sessionIdx := by
    rw [named, getSessionIdx_eq, sessionIdOf_eq valid]
    omega
  rw [Call.key, clientIdx, sessionIdx]

/-- No call changes what the next ones are checked against. -/
theorem accepts_startJob (other : Call) :
    (startJob obj other).obj.accepts call = obj.accepts call := by
  have counted : (obj.countJob other.key).accepts call = obj.accepts call := by
    by_cases same : call.key = other.key
    · simp only [JpegObj.accepts, JpegObj.countJob, same, if_true]
    · simp only [JpegObj.accepts, JpegObj.countJob, same, if_false]
  unfold startJob
  split
  · split
    · exact counted
    · exact counted
  · rfl

theorem startsOn_startJob (other : Call) :
    startsOn (startJob obj other).obj key calls = startsOn obj key calls := by
  simp only [startsOn, accepts_startJob]

theorem startJob_of_accepts (accepted : obj.accepts call = true) :
    (startJob obj call).node = some (obj.nodeFor call) ∧
      (startJob obj call).obj.session = (obj.countJob call.key).session := by
  unfold startJob
  rw [if_pos accepted]
  split
  · exact ⟨rfl, rfl⟩
  · exact ⟨rfl, rfl⟩

theorem startJob_of_refused (refused : obj.accepts call = false) :
    startJob obj call = ⟨-1, 0, none, obj⟩ := by
  rw [startJob, if_neg (by simp [refused])]

theorem idsOn_append (first second : List JobNode) :
    idsOn key (first ++ second) = idsOn key first ++ idsOn key second := by
  simp only [idsOn, List.filter_append, List.map_append]

/-- The ids of a session's jobs follow its counter. -/
theorem idsOn_startedJobs (valid : Valid key) (named : Named calls) :
    idsOn key (startedJobs calls obj) =
      (List.range (startsOn obj key calls)).map fun count =>
        jobIdOf (sessionIdOf key) ((obj.session key).jobHist + BitVec.ofNat 32 count) := by
  induction calls generalizing obj with
  | nil => rfl
  | cons call rest inductionHypothesis =>
    obtain ⟨own, ownValid, isOwn⟩ := named call List.mem_cons_self
    have tail : idsOn key (startedJobs rest (startJob obj call).obj) = _ :=
      inductionHypothesis fun other isOther => named other (List.mem_cons_of_mem _ isOther)
    rw [startedJobs, idsOn_append, tail, startsOn_startJob]
    cases accepted : obj.accepts call with
    | false => simp [startJob_of_refused accepted, startsOn, idsOn, accepted]
    | true =>
      obtain ⟨made, counted⟩ := startJob_of_accepts accepted
      rw [made, counted, JpegObj.countJob, key_of_named ownValid isOwn]
      by_cases same : own = key
      · subst same
        have first : idsOn own [obj.nodeFor call] =
            [jobIdOf (sessionIdOf own) (obj.session own).jobHist] := by
          simp [idsOn, JpegObj.nodeFor, isOwn, key_of_named ownValid isOwn]
        have more : startsOn obj own (call :: rest) = startsOn obj own rest + 1 := by
          simp [startsOn, accepted, isOwn]
        rw [Option.toList_some, first, more, List.range_succ_eq_map]
        simp [Function.comp_def, BitVec.ofNat_add, BitVec.add_assoc, BitVec.add_comm 1#32]
      · have apart : sessionIdOf own ≠ sessionIdOf key :=
          fun equal => same (sessionIdOf_inj ownValid valid equal)
        simp [startsOn, idsOn, JpegObj.nodeFor, isOwn, apart, Ne.symm same]

/-- A job has the id of its session and some count. -/
theorem startedJobs_form (named : Named calls) (started : node ∈ startedJobs calls obj) :
    node.type = .job ∧ ∃ key jobHist, Valid key ∧
      node.session = sessionIdOf key ∧ node.encJobId = jobIdOf (sessionIdOf key) jobHist := by
  induction calls generalizing obj with
  | nil => cases started
  | cons call rest inductionHypothesis =>
    obtain ⟨own, ownValid, isOwn⟩ := named call List.mem_cons_self
    rw [startedJobs] at started
    obtain first | later := List.mem_append.mp started
    · cases accepted : obj.accepts call with
      | false => simp [startJob_of_refused accepted] at first
      | true =>
        rw [(startJob_of_accepts accepted).1, Option.toList_some, List.mem_singleton] at first
        subst first
        exact ⟨rfl, own, _, ownValid, isOwn, congrArg (jobIdOf · _) isOwn⟩
    · exact inductionHypothesis
        (fun other isOther => named other (List.mem_cons_of_mem _ isOther)) later

end Runs

/-! ## Looking up a job -/

/-- With distinct ids the search finds the job that is asked for. -/
theorem removeJobByJobId_of_distinct {queue : List JobNode}
    (distinct : (queue.map JobNode.encJobId).Nodup)
    (jobs : ∀ node ∈ queue, node.type = .job) (queued : node ∈ queue) :
    removeJobByJobId node.encJobId (queue.map some) =
      (some node, (queue.erase node).map some) := by
  induction queue with
  | nil => cases queued
  | cons first rest inductionHypothesis =>
    have known : first.lqJobId = first.encJobId := by
      rw [JobNode.lqJobId, jobs first List.mem_cons_self]
    rw [List.map_cons, List.nodup_cons] at distinct
    rw [List.map_cons, removeJobByJobId, known]
    by_cases same : first = node
    · subst same
      rw [if_pos rfl, List.erase_cons_head]
    · have later : node ∈ rest := (List.mem_cons.mp queued).resolve_left (Ne.symm same)
      have apart : first.encJobId ≠ node.encJobId :=
        fun equal => distinct.1 (equal ▸ List.mem_map_of_mem later)
      rw [if_neg apart, inductionHypothesis distinct.2
          (fun other isOther => jobs other (List.mem_cons_of_mem _ isOther)) later,
        List.erase_cons_tail (by simpa using same), List.map_cons]

section Promise

variable {obj : JpegObj} {calls : List Call}

/-- All that is promised rests on the ids of one session being distinct. -/
theorem identifies_of_distinct (named : Named calls)
    (distinct : ∀ key, Valid key → (idsOn key (startedJobs calls obj)).Nodup) :
    Identifies (startedJobs calls obj) := by
  have apart : ∀ first ∈ startedJobs calls obj, ∀ second ∈ startedJobs calls obj,
      first.session ≠ second.session → first.encJobId ≠ second.encJobId := by
    intro first isFirst second isSecond other same
    obtain ⟨_, firstKey, firstHist, firstValid, firstSession, firstId⟩ :=
      startedJobs_form named isFirst
    obtain ⟨_, secondKey, secondHist, secondValid, secondSession, secondId⟩ :=
      startedJobs_form named isSecond
    rw [firstId, secondId, jobIdOf_eq_iff firstValid secondValid] at same
    exact other (by rw [firstSession, secondSession, same.1])
  have all : ((startedJobs calls obj).map JobNode.encJobId).Nodup := by
    rw [List.Nodup, List.pairwise_map, List.pairwise_iff_forall_sublist]
    intro first second pair
    have isFirst := pair.subset List.mem_cons_self
    have isSecond := pair.subset (List.mem_cons_of_mem _ List.mem_cons_self)
    by_cases same : first.session = second.session
    · obtain ⟨_, key, _, valid, session, _⟩ := startedJobs_form named isFirst
      have own := distinct key valid
      rw [idsOn, List.Nodup, List.pairwise_map, List.pairwise_filter,
        List.pairwise_iff_forall_sublist] at own
      exact own pair (by simpa using session) (by simpa [← same] using session)
    · exact apart first isFirst second isSecond same
  refine ⟨distinct, apart, fun node started key valid session => ?_,
    fun queue part node queued => ?_⟩
  · obtain ⟨_, own, jobHist, ownValid, isOwn, isId⟩ := startedJobs_form named started
    obtain rfl := sessionIdOf_inj ownValid valid (isOwn.symm.trans session)
    rw [isId]
    exact indices_jobIdOf ownValid jobHist
  · exact removeJobByJobId_of_distinct (all.sublist (part.map _))
      (fun other isOther => (startedJobs_form named (part.subset isOther)).1) queued

/-- The ids of one session are distinct as long as no two counts fall together. -/
theorem nodup_idsOn_iff (named : Named calls) {key : SessionKey} (valid : Valid key) :
    (idsOn key (startedJobs calls obj)).Nodup ↔
      ∀ first second, first < second → second < startsOn obj key calls →
        ¬ SameHistory ((obj.session key).jobHist + BitVec.ofNat 32 first)
          ((obj.session key).jobHist + BitVec.ofNat 32 second) := by
  rw [idsOn_startedJobs valid named, List.Nodup, List.pairwise_map, List.pairwise_iff_getElem]
  simp only [List.length_range, List.getElem_range, ne_eq, jobIdOf_eq_iff valid valid, true_and]
  exact ⟨fun apart first second order inside => apart first second (by omega) inside order,
    fun apart first second _ inside order => apart first second order inside⟩

/-- The jobs that calls start are known by their ids exactly when no two counts of
one session fall together: never after `JOB_HIST_MAX` jobs of a session, always
while there are at most 256. -/
theorem startedJobs_identified_iff (obj : JpegObj) (calls : List Call) (named : Named calls) :
    (Identifies (startedJobs calls obj) ↔
      ∀ key, Valid key → ∀ first second, first < second → second < startsOn obj key calls →
        ¬ SameHistory ((obj.session key).jobHist + BitVec.ofNat 32 first)
          ((obj.session key).jobHist + BitVec.ofNat 32 second)) ∧
    (∀ key, Valid key → jobHistMax ≤ startsOn obj key calls →
      ¬ (idsOn key (startedJobs calls obj)).Nodup) ∧
    ((∀ key, Valid key → startsOn obj key calls ≤ 256) →
      Identifies (startedJobs calls obj)) := by
  refine ⟨⟨fun identified key valid => (nodup_idsOn_iff named valid).mp
      (identified.distinct key valid), fun apart => identifies_of_distinct named
      fun key valid => (nodup_idsOn_iff named valid).mpr (apart key valid)⟩,
    fun key valid many distinct => ?_, fun few => identifies_of_distinct named
      fun key valid => (nodup_idsOn_iff named valid).mpr
        fun first second order inside => ?_⟩
  · obtain ⟨first, second, order, inside, same⟩ :=
      sameHistory_within_max (obj.session key).jobHist
    exact (nodup_idsOn_iff named valid).mp distinct first second order
      (Nat.lt_of_lt_of_le inside many) same
  · exact not_sameHistory_of_near _ order (Nat.lt_of_lt_of_le inside (few key valid))

end Promise

/-- An object with every session active and nothing started. -/
def freshObj : JpegObj where
  session := fun _ => ⟨true, 1, 1, 0, 0⟩
  jobQueue := []
  allocated := 0

/-- A call on the first session of the first client. -/
def firstSessionCall : Call :=
  ⟨sessionIdOf ⟨0, 0⟩, ⟨0, 0⟩, true, true⟩

theorem firstSessionCall_named (count : Nat) : Named (List.replicate count firstSessionCall) := by
  intro call isCall
  obtain rfl := List.eq_of_mem_replicate isCall
  exact ⟨⟨0, 0⟩, ⟨by decide, by decide⟩, rfl⟩

theorem startsOn_firstSession (count : Nat) :
    startsOn freshObj ⟨0, 0⟩ (List.replicate count firstSessionCall) = count := by
  have counted : (freshObj.accepts firstSessionCall &&
      firstSessionCall.sessionId = sessionIdOf ⟨0, 0⟩) = true := by decide
  rw [startsOn, List.countP_replicate, if_pos counted]

/-- Two jobs of one session. -/
theorem startedJobs_identified_two :
    Identifies (startedJobs (List.replicate 2 firstSessionCall) freshObj) := by
  refine (startedJobs_identified_iff freshObj _ (firstSessionCall_named 2)).2.2
    fun key _ => Nat.le_trans List.countP_le_length (by decide)

/-- `JOB_HIST_MAX` calls on a new session. -/
theorem manyJobs_collide : ¬ ∀ (obj : JpegObj) (calls : List Call) (key : SessionKey),
    Named calls → Valid key → startsOn obj key calls = jobHistMax →
      Identifies (startedJobs calls obj) := by
  intro claim
  have valid : Valid ⟨0, 0⟩ := ⟨by decide, by decide⟩
  have many := startsOn_firstSession jobHistMax
  have distinct := (claim _ _ _ (firstSessionCall_named jobHistMax) valid many).distinct _ valid
  obtain ⟨first, second, order, inside, same⟩ := sameHistory_within_max 0
  exact (nodup_idsOn_iff (firstSessionCall_named _) valid).mp distinct first second order
    (Nat.lt_of_lt_of_eq inside many.symm) same

end AnglerHal.JobIds
