import AnglerHal.KernelQueue

namespace AnglerHal.KernelQueue

open ChannelStart (BufStatus maxNumFrames)

/-!
# Accounting from a registration to the next stop

`mm_stream_reg_buf` resets the count when the kernel has just given up all
buffers.  From then on the count is exact, whatever calls fail, until the
kernel takes its buffers back without telling the count: when the stream is
switched off or the buffers are unregistered.  The fd follows the count from a
registration that finds it outside the poll thread until stream off, or a
failed stream on, takes it out.
-/

/-! ## Registrations -/

/-- What holds of a stream since its last registration. -/
structure Registration where
  /-- The kernel has not taken back the registered buffers. -/
  counted : Bool
  /-- The fd has been outside and nobody else has taken it out. -/
  followed : Bool
  /-- Every buffer has been placed, and none has been lost since. -/
  kept : Bool
  deriving DecidableEq

/-- There has been no registration. -/
def Registration.none : Registration where
  counted := false
  followed := false
  kept := false

/--
The event loses no buffer: the last release succeeds in queueing it, and a
buffer that is read is cleaned and finds a consumer.
-/
def keepsBuffer (stream : KernelStream) : KernelEvent → Bool
  | .bufDone outcome idx =>
    outcome.ok || stream.bufStatus[idx]?.all fun status => status.bufRefcnt != 1
  | .dataNotify (some idx) cleaned consumers =>
    !(stream.active && decide (idx ∈ stream.kernel)) || (cleaned &&
        stream.bufStatus[idx]?.all fun status =>
          (status.bufRefcnt + consumers.count) % 256 != 0)
  | _ => true

/-- The registration after one more event. -/
def Registration.next
    (stream : KernelStream)
    (event : KernelEvent)
    (registration : Registration) : Registration :=
  match event with
  | .initBufs _ => { registration with kept := false }
  | .regBuf request outcomes =>
    if stream.acceptsRequest request then
      { counted := true
        followed := !stream.polled
        kept := (stream.regBuf request outcomes).2 }
    else
      registration
  | .unregBuf request =>
    if request && !stream.active then
      .none
    else
      { registration with kept := false }
  | .streamOn ioctl => { registration with followed := registration.followed && ioctl }
  | .streamOff ioctl =>
    if ioctl then
      .none
    else
      { registration with followed := false }
  | _ =>
    { registration with
        kept := registration.kept && keepsBuffer stream event }

/-- The registration after a list of events. -/
def registrationAfter : KernelStream → Registration → List KernelEvent → Registration
  | _, registration, [] => registration
  | stream, registration, event :: rest =>
    registrationAfter (kernelStep stream event) (registration.next stream event) rest

/-! ## Queueing -/

/-- The count is exact, and the kernel has registered buffers only. -/
structure Exact (stream : KernelStream) : Prop where
  few : stream.kernelBufs ≤ maxNumFrames
  once : stream.kernel.Nodup
  registered : ∀ idx ∈ stream.kernel, idx < stream.kernelBufs
  counts : CountsKernel stream

variable {before after stream : KernelStream} {idx : Nat} {status : BufStatus}
  {result : KernelStream × Bool}

theorem Exact.of_same (exact : Exact before)
    (kernelBufs : after.kernelBufs = before.kernelBufs)
    (kernel : after.kernel = before.kernel)
    (count : after.queuedBufferCount = before.queuedBufferCount) :
    Exact after where
  few := kernelBufs ▸ exact.few
  once := kernel ▸ exact.once
  registered := by
    rw [kernel, kernelBufs]
    exact exact.registered
  counts := by
    rw [CountsKernel, kernel, count]
    exact exact.counts

theorem Exact.length_le {stream : KernelStream} (exact : Exact stream) :
    stream.kernel.length ≤ maxNumFrames := by
  have among : stream.kernel ⊆ List.range stream.kernelBufs := by
    intro idx member
    exact List.mem_range.mpr (exact.registered idx member)
  have short := (exact.once.subperm among).length_le
  rw [List.length_range] at short
  exact short.trans exact.few

theorem int8_of_small {count : Int} (lower : -128 ≤ count) (upper : count ≤ 127) :
    int8 count = count := by
  unfold int8
  omega

theorem countUp_spec (lower : 0 ≤ stream.queuedBufferCount)
    (upper : stream.queuedBufferCount ≤ 64) :
    stream.countUp.queuedBufferCount = stream.queuedBufferCount + 1 ∧
      (PollsQueued stream → PollsQueued stream.countUp) := by
  have next : int8 (stream.queuedBufferCount + 1) = stream.queuedBufferCount + 1 :=
    int8_of_small (by omega) (by omega)
  refine ⟨next, ?_⟩
  intro polls
  unfold PollsQueued KernelStream.countUp at *
  dsimp only
  rw [next]
  by_cases first : stream.queuedBufferCount = 0
  · simp [first]
  · rw [if_neg (by omega), polls]
    omega

theorem countDown_spec {stream : KernelStream} (lower : 0 < stream.queuedBufferCount)
    (upper : stream.queuedBufferCount ≤ 65) :
    stream.countDown.queuedBufferCount = stream.queuedBufferCount - 1 ∧
      (PollsQueued stream → PollsQueued stream.countDown) := by
  have next : int8 (stream.queuedBufferCount - 1) = stream.queuedBufferCount - 1 :=
    int8_of_small (by omega) (by omega)
  refine ⟨next, ?_⟩
  intro polls
  unfold PollsQueued KernelStream.countDown at *
  dsimp only
  rw [next]
  by_cases last : stream.queuedBufferCount = 1
  · simp [last]
  · rw [if_neg (by omega), polls]
    omega

theorem Exact.range (exact : Exact stream) :
    0 ≤ stream.queuedBufferCount ∧ stream.queuedBufferCount ≤ 64 := by
  have counts : stream.queuedBufferCount = stream.kernel.length := exact.counts
  have short : stream.kernel.length ≤ 64 := exact.length_le
  omega

/-- What `mm_stream_qbuf` does, from an exact count. -/
structure Queues (idx : Nat) (before : KernelStream) (result : KernelStream × Bool) : Prop where
  exact : Exact result.1
  polls : PollsQueued before → PollsQueued result.1
  bufStatus : result.1.bufStatus = before.bufStatus
  kernelBufs : result.1.kernelBufs = before.kernelBufs
  active : result.1.active = before.active
  kernel : before.kernel ⊆ result.1.kernel
  queued : result.2 = true → idx ∈ result.1.kernel
  onlyThis : ∀ other ∈ result.1.kernel, other ∈ before.kernel ∨ other = idx

theorem qbuf_queues (outcome : QbufOutcome) (idx : Nat) (exact : Exact stream) :
    Queues idx stream (stream.qbuf outcome idx) := by
  have counts : stream.queuedBufferCount = stream.kernel.length := exact.counts
  obtain ⟨lower, upper⟩ := exact.range
  obtain ⟨counted, polledThen⟩ := countUp_spec lower upper
  unfold KernelStream.qbuf
  split
  · exact ⟨exact, id, rfl, rfl, rfl, fun _ => id, fun failed => absurd failed Bool.false_ne_true,
      fun _ member => Or.inl member⟩
  · split
    · rename_i accepted
      obtain ⟨_, inRange, notThere⟩ := accepted
      refine ⟨⟨exact.few, ?_, ?_, ?_⟩, polledThen, rfl, rfl, rfl, ?_, ?_, ?_⟩
      · simpa [List.nodup_append] using ⟨exact.once, fun other member same =>
            notThere (same ▸ member)⟩
      · intro other member
        rcases List.mem_append.mp member with before | isThis
        · exact exact.registered other before
        · rw [List.mem_singleton.mp isThis]
          exact inRange
      · change stream.countUp.queuedBufferCount = _
        rw [counted, counts, List.length_append, List.length_singleton]
        rfl
      · exact List.subset_append_left _ _
      · intro _
        exact List.mem_append_right _ (List.mem_singleton.mpr rfl)
      · intro other member
        rcases List.mem_append.mp member with before | isThis
        · exact Or.inl before
        · exact Or.inr (List.mem_singleton.mp isThis)
    · -- The buffer has been counted and is taken back.
      have up : stream.countUp.queuedBufferCount ≤ 65 := by omega
      have positive : 0 < stream.countUp.queuedBufferCount := by omega
      obtain ⟨back, polledAgain⟩ := countDown_spec positive up
      refine ⟨⟨exact.few, exact.once, exact.registered, ?_⟩,
        fun polls => polledAgain (polledThen polls), rfl, rfl, rfl,
        fun _ => id, fun failed => absurd failed Bool.false_ne_true,
        fun _ member => Or.inl member⟩
      change stream.countUp.countDown.queuedBufferCount = _
      rw [back, counted, counts]
      change _ = (stream.kernel.length : Int)
      omega

theorem qbuf_inKernel {stream : KernelStream} {outcome : QbufOutcome} {idx : Nat}
    (ok : outcome.ok = true) (registered : idx < stream.kernelBufs) :
    idx ∈ (stream.qbuf outcome idx).1.kernel := by
  obtain ⟨invalidated, queued⟩ := Bool.and_eq_true_iff.mp ok
  unfold KernelStream.qbuf
  simp only [invalidated, queued, Bool.not_true, Bool.false_eq_true, if_false]
  by_cases there : idx ∈ stream.kernel
  · simp [there, KernelStream.countUp, KernelStream.countDown]
  · simp [there, registered]

/-! ## The status of the buffers -/

theorem isHeld_congr (same : after.bufStatus[idx]? = before.bufStatus[idx]?) :
    after.isHeld idx = before.isHeld idx := by
  unfold KernelStream.isHeld
  rw [same]

theorem isHeld_set_other {other : Nat}
    (bufStatus : after.bufStatus = before.bufStatus.set idx status)
    (different : other ≠ idx) :
    after.isHeld other = before.isHeld other := by
  refine isHeld_congr ?_
  rw [bufStatus, List.getElem?_set_ne (Ne.symm different)]

theorem isHeld_set_self (bufStatus : after.bufStatus = before.bufStatus.set idx status)
    (inRange : idx < before.bufStatus.length) (held : 0 < status.bufRefcnt) :
    after.isHeld idx = true := by
  unfold KernelStream.isHeld
  rw [bufStatus, List.getElem?_set_self inRange]
  exact decide_eq_true held

theorem Exact.setStatus (exact : Exact stream) (idx : Nat) (status : BufStatus) :
    Exact (stream.setStatus idx status) :=
  exact.of_same rfl rfl rfl

theorem NoneStranded.of_one (noneStranded : NoneStranded before)
    (length : after.bufStatus.length = before.bufStatus.length)
    (kernel : ∀ other ≠ idx, other ∈ before.kernel → other ∈ after.kernel)
    (others : ∀ other ≠ idx, after.isHeld other = before.isHeld other)
    (this : idx < before.bufStatus.length → idx ∈ after.kernel ∨ after.isHeld idx = true) :
    NoneStranded after := by
  intro other inRange
  rw [length] at inRange
  by_cases same : other = idx
  · subst same
    exact this inRange
  · rcases noneStranded other inRange with inKernel | held
    · exact Or.inl (kernel other same inKernel)
    · right
      rw [others other same]
      exact held

/-! ## The loop of a registration -/

/-- A buffer is in the kernel or held. -/
def Placed (stream : KernelStream) (idx : Nat) : Prop :=
  idx ∈ stream.kernel ∨ stream.isHeld idx = true

/-- What the loop of `mm_stream_reg_buf` has done from buffer `idx` on. -/
structure Registers (idx rounds : Nat) (before : KernelStream)
    (result : KernelStream × Bool) : Prop where
  exact : Exact result.1
  polls : PollsQueued before → PollsQueued result.1
  length : result.1.bufStatus.length = before.bufStatus.length
  kernelBufs : result.1.kernelBufs = before.kernelBufs
  placed : result.2 = true → (∀ earlier < idx, Placed before earlier) → ∀ other < idx + rounds,
          other < before.bufStatus.length → Placed result.1 other

theorem Registers.step {rounds : Nat} {middle : KernelStream}
    (later : Registers (idx + 1) rounds middle result)
    (polls : PollsQueued before → PollsQueued middle)
    (length : middle.bufStatus.length = before.bufStatus.length)
    (kernelBufs : middle.kernelBufs = before.kernelBufs)
    (others : ∀ other ≠ idx, Placed before other → Placed middle other)
    (this : Placed middle idx) :
    Registers idx (rounds + 1) before result where
  exact := later.exact
  polls := fun held => later.polls (polls held)
  length := later.length.trans length
  kernelBufs := later.kernelBufs.trans kernelBufs
  placed := by
    intro ok earlier other bound inRange
    refine later.placed ok ?_ other (by omega) (by rw [length]; exact inRange)
    intro index below
    by_cases same : index = idx
    · rw [same]
      exact this
    · exact others index same (earlier index (by omega))

theorem regLoop_registers (outcomes : List QbufOutcome) (rounds idx : Nat) {stream : KernelStream}
    (exact : Exact stream) :
    Registers idx rounds stream (KernelStream.regLoop outcomes rounds idx stream) := by
  induction rounds generalizing idx stream with
  | zero =>
    refine ⟨exact, id, rfl, rfl, ?_⟩
    intro _ earlier other bound _
    exact earlier other (by omega)
  | succ rounds inductionHypothesis =>
    unfold KernelStream.regLoop
    split
    · rename_i outside
      refine ⟨exact, id, rfl, rfl, ?_⟩
      intro _ earlier other bound inRange
      have atEnd := List.getElem?_eq_none_iff.mp outside
      exact earlier other (by omega)
    · rename_i status found
      have inRange : idx < stream.bufStatus.length := (List.getElem?_eq_some_iff.mp found).1
      split
      · have queues := qbuf_queues (KernelStream.outcomeAt outcomes idx) idx exact
        generalize stream.qbuf (KernelStream.outcomeAt outcomes idx) idx = result at queues ⊢
        obtain ⟨queued, ok⟩ := result
        have sameStatus : queued.bufStatus = stream.bufStatus := queues.bufStatus
        dsimp only
        split
        · rename_i success
          have later := inductionHypothesis (idx + 1) (queues.exact.setStatus idx
                { status with bufRefcnt := 0, inKernel := true })
          refine later.step (fun held => queues.polls held) ?_
            queues.kernelBufs ?_ (Or.inl (queues.queued success))
          · simp [KernelStream.setStatus, sameStatus]
          · intro other different placed
            rcases placed with inKernel | held
            · exact Or.inl (queues.kernel inKernel)
            · right
              rw [isHeld_set_other rfl different, isHeld_congr (congrArg (·[other]?) sameStatus)]
              exact held
        · exact ⟨queues.exact, queues.polls,
            congrArg List.length queues.bufStatus, queues.kernelBufs,
            fun failed => absurd failed Bool.false_ne_true⟩
      · have later := inductionHypothesis (idx + 1) (exact.setStatus idx
              { status with bufRefcnt := 1, inKernel := false })
        refine later.step id (by simp [KernelStream.setStatus]) rfl ?_
          (Or.inr (isHeld_set_self rfl inRange Nat.one_pos))
        intro other different placed
        rcases placed with inKernel | held
        · exact Or.inl inKernel
        · right
          rw [isHeld_set_other rfl different]
          exact held

/-! ## One event -/

/-- What a registration promises of the stream. -/
structure RegistrationHolds (registration : Registration) (stream : KernelStream) : Prop where
  exact : registration.counted = true → Exact stream
  followed : registration.followed = true → registration.counted = true ∧ PollsQueued stream
  kept : registration.kept = true → registration.counted = true ∧
        stream.bufStatus.length = stream.kernelBufs ∧ NoneStranded stream

namespace RegistrationHolds

theorem none (stream : KernelStream) : RegistrationHolds .none stream := by
  constructor <;>
    exact fun contrary => absurd contrary Bool.false_ne_true

variable {registration : Registration}

theorem of_change {keeps : Bool} (holds : RegistrationHolds registration before)
    (exact : Exact before → Exact after)
    (polls : Exact before → PollsQueued before → PollsQueued after)
    (kept : keeps = true → Exact before → before.bufStatus.length = before.kernelBufs →
          NoneStranded before → after.bufStatus.length = after.kernelBufs ∧ NoneStranded after) :
    RegistrationHolds { registration with kept := registration.kept && keeps } after where
  exact := fun counted => exact (holds.exact counted)
  followed := by
    intro followed
    obtain ⟨counted, held⟩ := holds.followed followed
    exact ⟨counted, polls (holds.exact counted) held⟩
  kept := by
    intro both
    obtain ⟨was, keepsNow⟩ := Bool.and_eq_true_iff.mp both
    obtain ⟨counted, length, noneStranded⟩ := holds.kept was
    exact ⟨counted, kept keepsNow (holds.exact counted) length noneStranded⟩

theorem regBuf {request : Bool} {outcomes : List QbufOutcome}
    (holds : RegistrationHolds registration stream) :
    RegistrationHolds
      (registration.next stream (.regBuf request outcomes))
      (stream.regBuf request outcomes).1 := by
  by_cases accepts : stream.acceptsRequest request = true
  · have started :
        stream.regBuf request outcomes =
          KernelStream.regLoop outcomes stream.bufStatus.length 0
            { stream with
                queuedBufferCount := 0
                kernelBufs := stream.bufStatus.length
                kernel := [] } := by
      simp [KernelStream.regBuf, accepts]
    have few : stream.bufStatus.length ≤ maxNumFrames := by
      simp only [KernelStream.acceptsRequest, Bool.and_eq_true,
        decide_eq_true_eq] at accepts
      exact accepts.1.1
    have registers :=
      @regLoop_registers outcomes stream.bufStatus.length 0
        { stream with
            queuedBufferCount := 0
            kernelBufs := stream.bufStatus.length
            kernel := [] }
        ⟨few, List.nodup_nil, fun _ member => absurd member List.not_mem_nil,
          rfl⟩
    rw [← started] at registers
    have next :
        registration.next stream (.regBuf request outcomes) =
          { counted := true
            followed := !stream.polled
            kept := (stream.regBuf request outcomes).2 } := by
      simp [Registration.next, accepts]
    rw [next]
    refine ⟨fun _ => registers.exact, ?_, ?_⟩
    · intro outside
      refine ⟨rfl, registers.polls ?_⟩
      have out : stream.polled = false := by
        simpa using outside
      simp [PollsQueued, out]
    · intro ok
      refine ⟨rfl, registers.length.trans registers.kernelBufs.symm, ?_⟩
      intro idx inRange
      rw [registers.length] at inRange
      refine registers.placed ok ?_ idx (by simpa using inRange) inRange
      intro earlier below
      exact absurd below (Nat.not_lt_zero earlier)
  · have refused : stream.regBuf request outcomes = (stream, false) := by
      simp [KernelStream.regBuf, accepts]
    have same :
        registration.next stream (.regBuf request outcomes) =
          registration := by
      simp [Registration.next, accepts]
    rw [refused, same]
    exact holds

end RegistrationHolds

theorem dequeue_exact (exact : Exact stream) (member : idx ∈ stream.kernel) :
    Exact { stream.countDown with kernel := stream.kernel.erase idx } ∧
      (PollsQueued stream → PollsQueued stream.countDown) := by
  have counts : stream.queuedBufferCount = stream.kernel.length := exact.counts
  have some : 0 < stream.kernel.length := List.length_pos_of_mem member
  obtain ⟨_, upper⟩ := exact.range
  obtain ⟨counted, polls⟩ := @countDown_spec stream (by omega) (by omega)
  refine ⟨⟨exact.few, exact.once.erase idx, ?_, ?_⟩, polls⟩
  · intro other inKernel
    exact exact.registered other (List.mem_of_mem_erase inKernel)
  · change stream.countDown.queuedBufferCount = ((stream.kernel.erase idx).length : Int)
    rw [counted, counts, List.length_erase_of_mem member]
    omega

theorem RegistrationHolds.unchanged {registration : Registration}
    (holds : RegistrationHolds registration stream) (keeps : Bool) :
    RegistrationHolds { registration with kept := registration.kept && keeps } stream :=
  holds.of_change id (fun _ => id) (fun _ _ length noneStranded => ⟨length, noneStranded⟩)

theorem dataNotify_holds {registration : Registration} (dqbuf : Option Nat)
    (cleaned : Bool) (consumers : Consumers)
    (holds : RegistrationHolds registration stream) :
    RegistrationHolds (registration.next stream (.dataNotify dqbuf cleaned consumers))
      (stream.dataNotify dqbuf cleaned consumers) := by
  cases dqbuf with
  | none => exact holds.unchanged _
  | some idx =>
    unfold KernelStream.dataNotify
    dsimp only
    split
    · rename_i reads
      obtain ⟨active, member⟩ := reads
      have keepsIf : keepsBuffer stream (.dataNotify (some idx) cleaned consumers) = (cleaned &&
              stream.bufStatus[idx]?.all fun status =>
                (status.bufRefcnt + consumers.count) % 256 != 0) := by
        simp [keepsBuffer, active, member]
      have kernelOthers : ∀ other ≠ idx, other ∈ stream.kernel → other ∈ stream.kernel.erase idx :=
        fun other different inKernel =>
          (List.mem_erase_of_ne different).mpr inKernel
      split
      · rename_i status found
        refine holds.of_change ?_ ?_ ?_
        · exact fun exact =>
            (dequeue_exact exact member).1.setStatus idx _
        · exact fun exact => (dequeue_exact exact member).2
        · intro keeps _ length noneStranded
          rw [keepsIf, found] at keeps
          refine ⟨?_, ?_⟩
          · simpa [KernelStream.setStatus, KernelStream.countDown] using length
          · refine noneStranded.of_one ?_ kernelOthers
              (fun other different => isHeld_set_other rfl different) ?_
            · simp [KernelStream.setStatus, KernelStream.countDown]
            · intro inRange
              right
              refine isHeld_set_self rfl inRange ?_
              have counted : (status.bufRefcnt + consumers.count) % 256 ≠ 0 := by
                simpa using keeps
              exact Nat.pos_of_ne_zero counted
      · rename_i notCleaned
        refine holds.of_change ?_ ?_ ?_
        · exact fun exact => (dequeue_exact exact member).1
        · exact fun exact => (dequeue_exact exact member).2
        · intro keeps exact length _
          -- A registered buffer that has been cleaned is counted.
          rw [keepsIf] at keeps
          obtain ⟨isCleaned, _⟩ := Bool.and_eq_true_iff.mp keeps
          have inRange : idx < stream.bufStatus.length := by
            rw [length]
            exact exact.registered idx member
          exact absurd (List.getElem?_eq_getElem inRange) (notCleaned _ isCleaned)
    · exact holds.unchanged _

theorem lastRelease_holds {registration : Registration} {released : BufStatus}
    {ok : Bool} (holds : RegistrationHolds registration stream)
    (inRange : idx < stream.bufStatus.length)
    (queues : Exact stream → Queues idx (stream.setStatus idx released) result)
    (inKernel : ok = true → idx < stream.kernelBufs → idx ∈ after.kernel)
    (same : after = result.1 ∨ ∃ status, after = result.1.setStatus idx status) :
    RegistrationHolds { registration with kept := registration.kept && ok } after := by
  have outside : after.kernelBufs = result.1.kernelBufs ∧ after.kernel = result.1.kernel ∧
        (Exact result.1 → Exact after) ∧
        (PollsQueued result.1 → PollsQueued after) := by
    rcases same with rfl | ⟨status, rfl⟩
    · exact ⟨rfl, rfl, id, id⟩
    · exact ⟨rfl, rfl, fun exact => exact.setStatus idx status, id⟩
  obtain ⟨sameBufs, sameKernel, exactThen, pollsThen⟩ := outside
  refine holds.of_change ?_ ?_ ?_
  · exact fun exact => exactThen (queues exact).exact
  · exact fun exact polls => pollsThen ((queues exact).polls polls)
  · intro placed exact length noneStranded
    have queued := queues exact
    have status : ∃ last, after.bufStatus = stream.bufStatus.set idx last := by
      rcases same with rfl | ⟨status, rfl⟩
      · exact ⟨released, queued.bufStatus⟩
      · refine ⟨status, ?_⟩
        simp [KernelStream.setStatus, queued.bufStatus]
    obtain ⟨last, statusAfter⟩ := status
    have sameLength : after.bufStatus.length = stream.bufStatus.length := by
      rw [statusAfter, List.length_set]
    refine ⟨?_, ?_⟩
    · rw [sameLength, sameBufs, queued.kernelBufs]
      exact length
    · refine noneStranded.of_one sameLength ?_
        (fun other different => isHeld_set_other statusAfter different) ?_
      · intro other _ member
        rw [sameKernel]
        exact queued.kernel member
      · intro _
        exact Or.inl (inKernel placed (length ▸ inRange))

theorem bufDone_holds {registration : Registration} (outcome : QbufOutcome) (idx : Nat)
    (holds : RegistrationHolds registration stream) :
    RegistrationHolds (registration.next stream (.bufDone outcome idx))
      (stream.bufDone outcome idx) := by
  unfold KernelStream.bufDone
  split
  · exact holds.unchanged _
  · rename_i status found
    have inRange : idx < stream.bufStatus.length := (List.getElem?_eq_some_iff.mp found).1
    split
    · exact holds.unchanged _
    · dsimp only
      split
      · rename_i last
        have next : registration.next stream (.bufDone outcome idx) = { registration with
                  kept := registration.kept && outcome.ok } := by
          simp [Registration.next, keepsBuffer, found, last]
        have queues := fun exact : Exact stream =>
            qbuf_queues outcome idx (exact.setStatus idx
                { status with bufRefcnt := status.bufRefcnt - 1 })
        have inKernel :=
          @qbuf_inKernel (stream.setStatus idx { status with bufRefcnt := status.bufRefcnt - 1 })
            outcome idx
        rw [next]
        split
        · exact lastRelease_holds holds inRange queues inKernel (Or.inr ⟨_, rfl⟩)
        · exact lastRelease_holds holds inRange queues inKernel (Or.inl rfl)
      · refine holds.of_change (fun exact => exact.setStatus idx _) (fun _ => id) ?_
        intro _ _ length noneStranded
        refine ⟨by simpa [KernelStream.setStatus] using length, ?_⟩
        refine noneStranded.of_one (by simp [KernelStream.setStatus]) (fun _ _ => id)
          (fun other different => isHeld_set_other rfl different) ?_
        intro _
        right
        refine isHeld_set_self rfl inRange ?_
        change 0 < status.bufRefcnt - 1
        omega

theorem qbuf_holds {registration : Registration} (outcome : QbufOutcome) (idx : Nat)
    (holds : RegistrationHolds registration stream) :
    RegistrationHolds (registration.next stream (.qbuf outcome idx))
      (stream.qbuf outcome idx).1 := by
  refine holds.of_change ?_ ?_ ?_
  · exact fun exact => (qbuf_queues outcome idx exact).exact
  · exact fun exact => (qbuf_queues outcome idx exact).polls
  · intro _ exact length noneStranded
    have queued := qbuf_queues outcome idx exact
    refine ⟨?_, ?_⟩
    · rw [queued.bufStatus, queued.kernelBufs]
      exact length
    · intro other inRange
      rw [queued.bufStatus] at inRange
      rcases noneStranded other inRange with member | held
      · exact Or.inl (queued.kernel member)
      · right
        rw [isHeld_congr (congrArg (·[other]?) queued.bufStatus)]
        exact held

theorem kernelStep_holds {registration : Registration} (event : KernelEvent)
    (holds : RegistrationHolds registration stream) :
    RegistrationHolds (registration.next stream event) (kernelStep stream event) := by
  cases event with
  | initBufs regFlags =>
    exact ⟨fun counted => (holds.exact counted).of_same rfl rfl rfl,
      holds.followed, fun contrary => absurd contrary Bool.false_ne_true⟩
  | regBuf request outcomes => exact holds.regBuf
  | unregBuf request =>
    by_cases taken : (request && !stream.active) = true
    · simp only [Registration.next, taken, if_true]
      exact .none _
    · simp only [Registration.next, kernelStep, KernelStream.unregBuf,
        taken, Bool.false_eq_true, if_false]
      exact ⟨fun counted => (holds.exact counted).of_same rfl rfl rfl,
        holds.followed, fun contrary => absurd contrary Bool.false_ne_true⟩
  | streamOn ioctl =>
    cases ioctl with
    | true =>
      simp only [Registration.next, Bool.and_true]
      exact ⟨fun counted => (holds.exact counted).of_same rfl rfl rfl, holds.followed, holds.kept⟩
    | false =>
      simp only [Registration.next, Bool.and_false]
      exact ⟨fun counted => (holds.exact counted).of_same rfl rfl rfl,
        fun contrary => absurd contrary Bool.false_ne_true, holds.kept⟩
  | streamOff ioctl =>
    cases ioctl with
    | true => exact .none _
    | false =>
      exact ⟨fun counted => (holds.exact counted).of_same rfl rfl rfl,
        fun contrary => absurd contrary Bool.false_ne_true, holds.kept⟩
  | dataNotify dqbuf cleaned consumers => exact dataNotify_holds dqbuf cleaned consumers holds
  | bufDone outcome idx => exact bufDone_holds outcome idx holds
  | qbuf outcome idx => exact qbuf_holds outcome idx holds

/-! ## Whole runs -/

theorem kernelRun_holds {registration : Registration} (events : List KernelEvent)
    (holds : RegistrationHolds registration stream) :
    RegistrationHolds (registrationAfter stream registration events) (kernelRun stream events) := by
  induction events generalizing stream registration with
  | nil => exact holds
  | cons event rest inductionHypothesis => exact inductionHypothesis (kernelStep_holds event holds)

/--
From a registration that the kernel takes until it takes the buffers back the
count is exact, whatever fails.  From one that finds the fd outside until stream
off, or a failed stream on, the fd follows the count.  From one that succeeds
every buffer is in the kernel or held until one is lost.
-/
theorem kernelRun_accounts (start : KernelStream) (events : List KernelEvent) :
    ((registrationAfter start .none events).counted = true →
        CountsKernel (kernelRun start events)) ∧
      ((registrationAfter start .none events).followed = true →
        PollsQueued (kernelRun start events)) ∧
      ((registrationAfter start .none events).kept = true →
        NoneStranded (kernelRun start events)) := by
  have holds := kernelRun_holds events (RegistrationHolds.none start)
  exact ⟨fun counted => (holds.exact counted).counts, fun followed => (holds.followed followed).2,
    fun kept => (holds.kept kept).2.2⟩

/-! ## A stream in use, and a stream switched off -/

/-- A stream before its buffers are requested. -/
def newStream : KernelStream where
  active := false
  bufStatus := []
  queuedBufferCount := 0
  polled := false
  kernelBufs := 0
  kernel := []

/--
The only buffer in the kernel is read and given to two consumers, a call for
it fails, and the buffer that was held from the start is queued.
-/
def inUse : List KernelEvent :=
  [.initBufs [true, false], .regBuf true [], .streamOn true, .dataNotify (some 0) true
      { isBundled := true, isLinked := false, hasCb := true },
    .qbuf { invalidate := true, ioctl := false } 0,
    .bufDone { invalidate := true, ioctl := true } 1]

/-- The accounting of the stream in use is right as a whole. -/
theorem kernelRun_accounts_inUse : (kernelRun newStream inUse).queuedBufferCount = 1 ∧
      CountsKernel (kernelRun newStream inUse) ∧
      PollsQueued (kernelRun newStream inUse) ∧
      NoneStranded (kernelRun newStream inUse) :=
  ⟨by decide, (kernelRun_accounts newStream inUse).1 (by decide),
    (kernelRun_accounts newStream inUse).2.1 (by decide),
    (kernelRun_accounts newStream inUse).2.2 (by decide)⟩

/-- Two buffers are registered, and the stream is switched on and off. -/
def switchedOff : List KernelEvent :=
  [.initBufs [true, true], .regBuf true [], .streamOn true, .streamOff true]

/-- The buffers are requested and registered for another start. -/
def registeredAgain : List KernelEvent :=
  [.unregBuf true, .initBufs [true, true], .regBuf true []]

/--
Switched off, the stream still counts two buffers.  The kernel has none and
the fd has left the poll thread; the next registration counts anew.
-/
theorem kernelRun_switchedOff : AccountsForKernel newStream ∧
      ¬ (∀ events, AccountsForKernel (kernelRun newStream events)) ∧
      (kernelRun newStream switchedOff).queuedBufferCount = 2 ∧
      (kernelRun newStream switchedOff).kernel = [] ∧
      (kernelRun newStream switchedOff).polled = false ∧
      AccountsForKernel (kernelRun newStream (switchedOff ++ registeredAgain)) := by
  refine ⟨⟨rfl, ?_, ?_⟩, ?_, rfl, rfl, rfl, rfl, ?_, ?_⟩
  · intro idx inRange
    exact absurd inRange (Nat.not_lt_zero idx)
  · simp [PollsQueued, newStream]
  · intro accounts
    have counts := (accounts switchedOff).counts
    revert counts
    unfold CountsKernel
    decide
  · unfold NoneStranded
    decide
  · unfold PollsQueued
    decide

end AnglerHal.KernelQueue
