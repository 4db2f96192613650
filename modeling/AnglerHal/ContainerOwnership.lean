import AnglerHal.BatchTimes
import AnglerHal.BufferAccounting

namespace AnglerHal.Stream

/-!
# Containers with a stale timestamp

In batch mode the buffers of a stream are containers of user buffers.
`mm_stream_read_user_buf` looks into a container that has been dequeued, and
gives one whose timestamp is not newer than the last one back to the kernel.
It reports success all the same, so `mm_stream_data_notify` goes on to count
the references and to notify the consumers.

The threads are those of `StreamBuffers`; only the read differs.  The test for
a modified buffer compares a pointer with itself and never fails, and the
frame ids and timestamps that are computed for the user buffers in a container
decide nothing here.
-/

/-- A stream in batch mode, with the timestamp of the last container. -/
structure ContainerStream where
  stream : StreamState
  prev_timestamp : Int

/--
The steps of the threads.  `requeued` is the outcome of `mm_stream_qbuf` for a
stale container and `cleaned` that of `clean_invalidate_buf`.
-/
inductive ContainerEvent where
  | readMsmFrame (idx : Nat) (timestamp : Int) (requeued cleaned : Bool)
  | thread (event : StreamEvent)
  deriving DecidableEq

namespace ContainerStream

/-- The test of `mm_stream_read_user_buf`. -/
def isStale (timestamp : Int) (container : ContainerStream) : Bool :=
  decide (timestamp ≤ container.prev_timestamp)

/-- `mm_stream_read_user_buf`, for the container that has been dequeued. -/
def readUserBuf (idx : Nat) (timestamp : Int) (requeued : Bool) (container : ContainerStream) :
    ContainerStream × List BufOutput :=
  if container.isStale timestamp then
    if requeued then
      ({ container with
          stream := { container.stream with
            kernel := container.stream.kernel ++ [idx] } }, [.qbuf idx])
    else
      (container, [])
  else
    ({ container with prev_timestamp := timestamp }, [])

/-- `BatchTimes` has the times of the same function. -/
theorem readUserBuf_times {times : BatchTimes.Stream} {container : ContainerStream}
    (same : times.prevTimestamp = container.prev_timestamp) (read : BatchTimes.Container)
    (idx : Nat) (requeued : Bool) :
    (BatchTimes.readUserBuf times read).requeued = container.isStale read.timeStamp ∧
      (BatchTimes.readUserBuf times read).stream.prevTimestamp =
        (container.readUserBuf idx read.timeStamp requeued).1.prev_timestamp := by
  simp only [BatchTimes.readUserBuf, readUserBuf, isStale, same, decide_eq_true_eq]
  by_cases stale : read.timeStamp ≤ container.prev_timestamp
  · cases requeued <;> simp [stale, same]
  · by_cases startsOver : times.startsOver read <;> simp [stale, startsOver]

/-- `mm_stream_data_notify` goes on unless the cache could not be cleaned. -/
def afterClean (cleaned : Bool) (container : ContainerStream) : ContainerStream :=
  if cleaned then
    container
  else
    { container with stream := { container.stream with poll := .idle } }

end ContainerStream

/-- One step of one of the threads. -/
def containerStep (container : ContainerStream) (event : ContainerEvent) :
    Option (ContainerStream × List BufOutput) :=
  match event with
  | .readMsmFrame idx timestamp requeued cleaned =>
    if container.stream.poll = .idle ∧ idx ∈ container.stream.kernel then
      let (read, outputs) := { container with
            stream := { container.stream with
              kernel := container.stream.kernel.erase idx
              poll := .read idx } }.readUserBuf idx timestamp requeued
      some (read.afterClean cleaned, outputs)
    else
      none
  | .thread (.readMsmFrame _) => none
  | .thread event =>
    match streamStep container.stream event with
    | none => none
    | some (next, outputs) => some ({ container with stream := next }, outputs)

/-- Execute a list of steps. -/
def containerRun (container : ContainerStream) (events : List ContainerEvent) :
    Option (ContainerStream × List BufOutput) :=
  LabelledRun.run? containerStep container events

/-! ## Ownership -/

/-- The poll thread is about to give the container to its consumers. -/
def StreamState.comes (stream : StreamState) (idx : Nat) : Bool :=
  match stream.poll with
  | .read held | .checked held _ => held == idx
  | .counted held _ | .notified held _ => stream.is_linked && held == idx
  | _ => false

/-- The kernel has the container, and nobody else has it or gets it. -/
structure OwnedByKernel (stream : StreamState) (idx : Nat) : Prop where
  kernel : idx ∈ stream.kernel
  refcnt : (stream.buf_status idx).buf_refcnt = 0
  consumers : stream.consumers idx = 0
  comes : stream.comes idx = false

/-- Consumers have the container or are about to get it; the kernel has not. -/
structure HeldByConsumers (stream : StreamState) (idx : Nat) : Prop where
  kernel : idx ∉ stream.kernel
  refcnt : (stream.buf_status idx).buf_refcnt = stream.consumers idx
  held : 0 < stream.consumers idx ∨ stream.comes idx = true

/-- Every container is owned by exactly one side. -/
def OwnedOnce (containers : Nat) (stream : StreamState) : Prop :=
  ∀ idx < containers, OwnedByKernel stream idx ∨ HeldByConsumers stream idx

/-! ## The condition -/

/-- A container that has been read finds a consumer. -/
def findsConsumer (stream : StreamState) : StreamEvent → Bool
  | .countRefs =>
    match stream.poll with
    | .checked _ hasCb => stream.is_bundled || hasCb || stream.is_linked
    | _ => true
  | .setLinked false =>
    match stream.poll with
    | .counted idx _ | .notified idx _ =>
      !stream.is_linked || decide (0 < (stream.buf_status idx).buf_refcnt)
    | _ => true
  | _ => true

/-- The last release of a container queues it. -/
def queuesLast (stream : StreamState) (event : StreamEvent) : Bool :=
  match stream.releases event, event.queued? with
  | some idx, some queued => queued || (stream.buf_status idx).buf_refcnt != 1
  | _, _ => true

/--
The condition on a step.  A container that has been read is delivered unless
it has gone back to the kernel; the rest concerns the consumers.
-/
def deliversOrReturns (container : ContainerStream) (_ : List ContainerEvent)
    (event : ContainerEvent) : Prop :=
  match event with
  | .readMsmFrame _ timestamp requeued cleaned =>
    (container.isStale timestamp && requeued) = !cleaned
  | .thread event =>
    countsFirst container.stream [] event ∧ findsConsumer container.stream event = true ∧
      queuesLast container.stream event = true

instance decidableDelivers (container : ContainerStream) (past : List ContainerEvent) :
    ∀ event, Decidable (deliversOrReturns container past event)
  | .readMsmFrame _ _ _ _ => inferInstanceAs (Decidable (_ = _))
  | .thread _ => inferInstanceAs (Decidable (_ ∧ _ ∧ _))

/-! ## Nothing is dropped -/

/-- Somebody has the container. -/
def PlacedSomewhere (stream : StreamState) (idx : Nat) : Prop :=
  idx ∈ stream.kernel ∨ 0 < (stream.buf_status idx).buf_refcnt ∨ stream.comes idx = true

variable {stream taken next : StreamState} {idx other containers : Nat}
  {queued hasCb : Bool} {event : StreamEvent} {emitted : List BufOutput}
  {container : ContainerStream} {past : List ContainerEvent}

theorem PlacedSomewhere.of_keeps {after : StreamState}
    (placed : PlacedSomewhere stream idx)
    (kernel : idx ∈ stream.kernel → idx ∈ after.kernel)
    (refcnt : 0 < (stream.buf_status idx).buf_refcnt → 0 < (after.buf_status idx).buf_refcnt)
    (comes : stream.comes idx = true →
        0 < (after.buf_status idx).buf_refcnt ∨ after.comes idx = true) :
    PlacedSomewhere after idx := by
  rcases placed with inKernel | held | coming
  · exact Or.inl (kernel inKernel)
  · exact Or.inr (Or.inl (refcnt held))
  · exact Or.inr (comes coming)

theorem bufDone_placed (status : taken.buf_status = stream.buf_status)
    (kernel : taken.kernel = stream.kernel)
    (comes : taken.comes other = stream.comes other)
    (queues : queued = true ∨ (stream.buf_status idx).buf_refcnt ≠ 1)
    (placed : PlacedSomewhere stream other) :
    PlacedSomewhere (taken.bufDone idx queued).1 other := by
  have before : PlacedSomewhere taken other := by
    unfold PlacedSomewhere
    rw [status, kernel, comes]
    exact placed
  have set : ∀ newStatus : BufStatus, (other = idx → 0 < newStatus.buf_refcnt) →
          PlacedSomewhere (taken.setStatus idx newStatus) other := by
    intro newStatus positive
    by_cases same : other = idx
    · refine Or.inr (Or.inl ?_)
      rw [setStatus_buf_status, if_pos same]
      exact positive same
    · refine before.of_keeps id ?_ Or.inr
      rw [setStatus_buf_status, if_neg same]
      exact id
  unfold StreamState.bufDone
  dsimp only
  rw [status]
  split
  · split
    · exact set _ fun _ => (by decide : 0 < 255)
    · exact before
  · split
    · rename_i last
      split
      · by_cases same : other = idx
        · exact Or.inl (List.mem_append_right _ (by simp [same]))
        · refine before.of_keeps (List.mem_append_left _) ?_ Or.inr
          change _ → 0 < ((taken.setStatus idx ⟨0, true⟩).buf_status other).buf_refcnt
          rw [setStatus_buf_status, if_neg same]
          exact id
      · rename_i notQueued
        exact absurd last (queues.resolve_left notQueued)
    · refine set _ fun _ => ?_
      change 0 < (stream.buf_status idx).buf_refcnt - 1
      omega

theorem queuesLast_release (queues : queuesLast stream event = true)
    (releases : stream.releases event = some idx)
    (outcome : event.queued? = some queued) :
    queued = true ∨ (stream.buf_status idx).buf_refcnt ≠ 1 := by
  simpa [queuesLast, releases, outcome] using queues

theorem countRefs_placed (isPoll : stream.poll = .checked idx hasCb)
    (finds : findsConsumer stream .countRefs = true)
    (placed : PlacedSomewhere stream other) :
    PlacedSomewhere
      { stream.setStatus idx
          { buf_refcnt :=
              (stream.buf_status idx).buf_refcnt +
                stream.is_bundled.toNat + hasCb.toNat
            in_kernel := false } with
        poll := .counted idx hasCb } other := by
  have someConsumer :
      (stream.is_bundled || hasCb || stream.is_linked) = true := by
    simpa [findsConsumer, isPoll] using finds
  by_cases same : other = idx
  · subst same
    by_cases isLinked : stream.is_linked = true
    · refine Or.inr (Or.inr ?_)
      simp [StreamState.comes, StreamState.setStatus, isLinked]
    · refine Or.inr (Or.inl ?_)
      simp only [StreamState.setStatus, if_true]
      rcases Bool.or_eq_true_iff.mp someConsumer with counted | contrary
      · rcases Bool.or_eq_true_iff.mp counted with bundled | cb
        · simp only [bundled, Bool.toNat_true]
          omega
        · simp [cb]
      · exact absurd contrary isLinked
  · refine placed.of_keeps id ?_ ?_
    · simp only [StreamState.setStatus, if_neg same]
      exact id
    · intro coming
      simp [StreamState.comes, isPoll, Ne.symm same] at coming

theorem setLinked_placed {linked : Bool}
    (finds : findsConsumer stream (.setLinked linked) = true)
    (placed : PlacedSomewhere stream other) :
    PlacedSomewhere { stream with is_linked := linked } other := by
  refine placed.of_keeps id id fun coming => ?_
  unfold StreamState.comes at coming ⊢
  cases isPoll : stream.poll with
  | idle | linked => simp [isPoll] at coming
  | read idx | checked idx hasCb =>
    right
    simpa [isPoll] using coming
  | counted idx hasCb | notified idx hasCb =>
    obtain ⟨wasLinked, rfl⟩ : stream.is_linked = true ∧ idx = other := by
      simpa [isPoll] using coming
    cases linked with
    | true =>
      right
      simp
    | false =>
      left
      simpa [findsConsumer, isPoll, wasLinked] using finds

theorem dispatchSlot_placed (idx slot : Nat) (placed : PlacedSomewhere stream other) :
    PlacedSomewhere (stream.dispatchSlot idx slot) other := by
  have more : 0 < (stream.buf_status other).buf_refcnt →
        0 < ((stream.addRefs idx 1).buf_status other).buf_refcnt := by
    intro held
    by_cases same : other = idx
    · simp [StreamState.addRefs, same]
    · simpa [StreamState.addRefs, same] using held
  unfold StreamState.dispatchSlot
  dsimp only
  split
  · exact placed.of_keeps id id Or.inr
  · exact placed.of_keeps id id Or.inr
  · split
    · split
      · exact placed.of_keeps id more Or.inr
      · exact placed.of_keeps id id Or.inr
    · split
      · exact placed.of_keeps id more Or.inr
      · exact placed.of_keeps id id Or.inr

theorem notifyLinked_placed (handed : Bool) (isPoll : stream.poll = .notified idx hasCb)
    (isLinked : stream.is_linked = true) (placed : PlacedSomewhere stream other) :
    PlacedSomewhere { stream.addRefs idx 1 with
        linkedBundle :=
          if handed then stream.linkedBundle ++ [idx]
          else stream.linkedBundle
        poll := .linked idx hasCb } other := by
  have counted : ((stream.addRefs idx 1).buf_status other).buf_refcnt =
        (stream.buf_status other).buf_refcnt + if other = idx then 1 else 0 := by
    by_cases same : other = idx
    · simp [StreamState.addRefs, same]
    · simp [StreamState.addRefs, same]
  refine placed.of_keeps id ?_ fun coming => Or.inl ?_
  · intro held
    change 0 < ((stream.addRefs idx 1).buf_status other).buf_refcnt
    omega
  · change 0 < ((stream.addRefs idx 1).buf_status other).buf_refcnt
    have same : idx = other := by
      simpa [StreamState.comes, isPoll, isLinked] using coming
    rw [counted, if_pos same.symm]
    omega

theorem TakenFrom.comes (taking : TakenFrom stream taken idx) (other : Nat) :
    taken.comes other = stream.comes other := by
  unfold StreamState.comes
  rw [taking.poll, taking.linked]

theorem release_placed (queues : queuesLast stream event = true)
    (isRelease : stream.releases event = some idx)
    (stepped : streamStep stream event = some (next, emitted))
    (placed : PlacedSomewhere stream other) :
    PlacedSomewhere next other := by
  obtain ⟨taken, queued, outcome, taking, done⟩ := streamStep_releases isRelease stepped
  have result := bufDone_placed taking.status taking.kernel (taking.comes other)
      (queuesLast_release queues isRelease outcome) placed
  rw [done] at result
  exact result

/-- The poll thread keeps its buffer until a consumer has it. -/
theorem pollStep_placed (isPollStep : event.isPollStep = true)
    (isOther : ∀ idx, event ≠ .readMsmFrame idx)
    (finds : findsConsumer stream event = true)
    (stepped : streamStep stream event = some (next, emitted))
    (placed : PlacedSomewhere stream other) :
    PlacedSomewhere next other := by
  cases event with
  | readMsmFrame idx =>
    exact absurd rfl (isOther idx)
  | checkCb =>
    simp only [streamStep] at stepped
    split at stepped
    · rename_i idx isPoll
      obtain ⟨-, rfl⟩ := LabelledRun.of_step stepped
      refine placed.of_keeps id id fun coming => Or.inr ?_
      simpa [StreamState.comes, isPoll] using coming
    · cases stepped
  | countRefs =>
    simp only [streamStep] at stepped
    split at stepped
    · rename_i idx hasCb isPoll
      cases stepped
      exact countRefs_placed isPoll finds placed
    · cases stepped
  | notifyChannel handed =>
    simp only [streamStep] at stepped
    split at stepped
    · rename_i idx hasCb isPoll
      cases stepped
      refine placed.of_keeps id id fun coming => Or.inr ?_
      simpa [StreamState.comes, isPoll] using coming
    · cases stepped
  | notifyLinked handed =>
    simp only [streamStep] at stepped
    split at stepped
    · rename_i idx hasCb isPoll
      split at stepped
      · rename_i isLinked
        cases stepped
        exact notifyLinked_placed handed isPoll isLinked placed
      · rename_i notLinked
        cases stepped
        refine placed.of_keeps id id fun coming => ?_
        simp [StreamState.comes, isPoll, notLinked] at coming
    · cases stepped
  | enqueueCb handed =>
    simp only [streamStep] at stepped
    split at stepped
    · rename_i idx hasCb isPoll
      cases stepped
      refine placed.of_keeps id id fun coming => ?_
      simp [StreamState.comes, isPoll] at coming
    · cases stepped
  | _ => cases isPollStep

theorem streamStep_placed (isOther : ∀ idx, event ≠ .readMsmFrame idx)
    (finds : findsConsumer stream event = true)
    (queues : queuesLast stream event = true)
    (stepped : streamStep stream event = some (next, emitted))
    (placed : PlacedSomewhere stream other) :
    PlacedSomewhere next other := by
  cases isRelease : stream.releases event with
  | some idx => exact release_placed queues isRelease stepped placed
  | none =>
    cases event with
    | readMsmFrame | checkCb | countRefs | notifyChannel | notifyLinked | enqueueCb =>
      exact pollStep_placed rfl isOther finds stepped placed
    | setLinked linked =>
      obtain ⟨rfl, -⟩ := Prod.mk.inj (Option.some.inj stepped)
      exact setLinked_placed finds placed
    | setCb slot cb =>
      obtain ⟨-, rfl⟩ := LabelledRun.of_step stepped
      exact placed.of_keeps id id Or.inr
    | takeCb =>
      simp only [streamStep] at stepped
      split at stepped
      · cases stepped
        exact placed.of_keeps id id Or.inr
      · cases stepped
    | dispatchSlot =>
      simp only [streamStep] at stepped
      split at stepped
      · rename_i idx slot isDispatch
        cases stepped
        exact dispatchSlot_placed idx slot placed
      · cases stepped
    | dispatchDone queued => exact absurd isRelease (dispatchDone_releases stepped)
    | bundleDone | linkedDone | appDone => cases isRelease

/-! ## Runs -/

/-- What every step that meets the condition keeps. -/
structure ContainerInvariant (containers : Nat) (container : ContainerStream) : Prop where
  accounting : BufferInvariant container.stream
  placed : ∀ idx < containers, PlacedSomewhere container.stream idx

theorem ContainerInvariant.ownedOnce
    (invariant : ContainerInvariant containers container) :
    OwnedOnce containers container.stream := by
  intro idx inRange
  have accounting := invariant.accounting
  have exact := accounting.exact
  by_cases inKernel : idx ∈ container.stream.kernel
  · left
    obtain ⟨consumers, promised⟩ := exact.queued idx inKernel
    have refcnt := exact.counted idx
    refine ⟨inKernel, refcnt.trans consumers, consumers, ?_⟩
    have poll := accounting.poll
    unfold StreamState.promised at promised
    unfold StreamState.comes
    cases isPoll : container.stream.poll with
    | idle | linked => rfl
    | counted held hasCb | notified held hasCb => simpa [isPoll] using promised
    | read held | checked held hasCb =>
      rw [isPoll] at poll
      have apart : held ≠ idx := by
        rintro rfl
        exact poll.2 inKernel
      simpa using apart
  · right
    refine ⟨inKernel, exact.counted idx, ?_⟩
    rw [← exact.counted idx]
    exact (invariant.placed idx inRange).resolve_left inKernel

theorem requeued_invariant (invariant : ContainerInvariant containers container)
    (isIdle : container.stream.poll = .idle) (member : idx ∈ container.stream.kernel) :
    ContainerInvariant containers { container with
          stream := { container.stream with
            kernel := container.stream.kernel.erase idx ++ [idx]
            poll := .idle } } := by
  have accounting := invariant.accounting
  have permuted : (container.stream.kernel.erase idx ++ [idx]).Perm
        container.stream.kernel :=
    (List.perm_append_singleton idx _).trans (List.perm_cons_erase member).symm
  refine ⟨⟨?_, accounting.inKernel, ?_, ?_, trivial⟩, ?_⟩
  · intro other
    have counted := accounting.counted other
    simpa [StreamState.consumers, isIdle] using counted
  · exact fun other inKernel =>
      accounting.kernel other (permuted.mem_iff.mp inKernel)
  · exact permuted.nodup_iff.mpr accounting.queuedOnce
  · intro other inRange
    refine (invariant.placed other inRange).of_keeps
      (fun inKernel => permuted.mem_iff.mpr inKernel) id fun coming => ?_
    simp [StreamState.comes, isIdle] at coming

theorem delivered_invariant (timestamp : Int)
    (invariant : ContainerInvariant containers container)
    (isIdle : container.stream.poll = .idle) (member : idx ∈ container.stream.kernel) :
    ContainerInvariant containers
      { stream := { container.stream with
          kernel := container.stream.kernel.erase idx
          poll := .read idx }
        prev_timestamp := timestamp } := by
  refine ⟨?_, ?_⟩
  · have met : countsFirst container.stream [] (.readMsmFrame idx) := by
      refine ⟨?_, rfl, rfl⟩
      simp [releasesCounted, isIdle]
    have step :
        streamStep container.stream (.readMsmFrame idx) =
          some
            ({ container.stream with
                kernel := container.stream.kernel.erase idx
                poll := .read idx }, []) := by
      simp [streamStep, isIdle, member]
    exact streamStep_invariant invariant.accounting met step
  · intro other inRange
    by_cases same : other = idx
    · refine Or.inr (Or.inr ?_)
      simp [StreamState.comes, same]
    · refine (invariant.placed other inRange).of_keeps
        (fun inKernel => (List.mem_erase_of_ne same).mpr inKernel) id
        fun coming => ?_
      simp [StreamState.comes, isIdle] at coming

theorem readMsmFrame_invariant {timestamp : Int} {requeued cleaned : Bool}
    {next : ContainerStream} (invariant : ContainerInvariant containers container)
    (met : deliversOrReturns container past (.readMsmFrame idx timestamp requeued cleaned))
    (stepped : containerStep container (.readMsmFrame idx timestamp requeued cleaned) =
        some (next, emitted)) :
    ContainerInvariant containers next := by
  simp only [containerStep] at stepped
  split at stepped
  · rename_i isRead
    obtain ⟨isIdle, member⟩ := isRead
    cases stepped
    have returns : (container.isStale timestamp && requeued) = !cleaned := met
    have sameTest : ∀ stream, ContainerStream.isStale timestamp
            { container with stream := stream } =
          container.isStale timestamp :=
      fun _ => rfl
    unfold ContainerStream.readUserBuf ContainerStream.afterClean
    rw [sameTest]
    cases stale : container.isStale timestamp with
    | false =>
      have clean : cleaned = true := by
        simpa [stale] using returns
      simp only [clean, if_true, Bool.false_eq_true, if_false]
      exact delivered_invariant timestamp invariant isIdle member
    | true =>
      cases requeued with
      | true =>
        have notClean : cleaned = false := by
          simpa [stale] using returns
        simp only [notClean, if_true, Bool.false_eq_true, if_false]
        exact requeued_invariant invariant isIdle member
      | false =>
        have clean : cleaned = true := by
          simpa [stale] using returns
        simp only [clean, if_true, Bool.false_eq_true, if_false]
        exact delivered_invariant container.prev_timestamp invariant isIdle member
  · cases stepped

theorem containerStep_thread (isOther : ∀ idx, event ≠ .readMsmFrame idx) :
    containerStep container (.thread event) = (streamStep container.stream event).map fun result =>
        ({ container with stream := result.1 }, result.2) := by
  cases event with
  | readMsmFrame idx => exact absurd rfl (isOther idx)
  | _ =>
    simp only [containerStep]
    split <;> rename_i result <;> simp [result]

theorem containerStep_invariant {next : ContainerStream} {event : ContainerEvent}
    (invariant : ContainerInvariant containers container)
    (met : deliversOrReturns container past event)
    (stepped : containerStep container event = some (next, emitted)) :
    ContainerInvariant containers next := by
  cases event with
  | readMsmFrame idx timestamp requeued cleaned =>
    exact readMsmFrame_invariant invariant met stepped
  | thread event =>
    obtain ⟨counts, finds, queues⟩ := met
    by_cases isRead : ∃ idx, event = .readMsmFrame idx
    · obtain ⟨idx, rfl⟩ := isRead
      simp [containerStep] at stepped
    · have isOther : ∀ idx, event ≠ .readMsmFrame idx := fun idx same => isRead ⟨idx, same⟩
      rw [containerStep_thread isOther, Option.map_eq_some_iff] at stepped
      obtain ⟨⟨stream, outputs⟩, step, moved⟩ := stepped
      simp only [Prod.mk.injEq] at moved
      obtain ⟨rfl, rfl⟩ := moved
      exact ⟨streamStep_invariant invariant.accounting counts step, fun idx inRange =>
          streamStep_placed isOther finds queues step (invariant.placed idx inRange)⟩

/-- The stream after `mm_stream_reg_buf`, with every container somewhere. -/
structure ContainerStream.Registered (containers : Nat) (container : ContainerStream) : Prop where
  batch : container.stream.batch = true
  registered : container.stream.Registered
  placed : ∀ idx < containers, idx ∈ container.stream.kernel ∨ 0 < container.stream.app.count idx

theorem containerRun_invariant {start final : ContainerStream}
    {events : List ContainerEvent} {log : List BufOutput}
    (registered : start.Registered containers)
    (guarded : LabelledRun.Guarded containerStep deliversOrReturns start [] events)
    (ran : containerRun start events = some (final, log)) :
    ContainerInvariant containers final := by
  refine LabelledRun.stateInvariant_of_guarded (ContainerInvariant containers) guarded ran
    ⟨Registered_invariant registered.registered, ?_⟩ containerStep_invariant
  intro idx inRange
  rcases registered.placed idx inRange with inKernel | held
  · exact Or.inl inKernel
  · refine Or.inr (Or.inl ?_)
    rcases registered.registered.status idx with ⟨_, none, _⟩ | ⟨_, status⟩
    · omega
    · rw [status]
      exact held

/--
While no container is delivered that has gone back to the kernel, none is lost
between them and the consumers are counted before they release, every
container is owned by the kernel or held by consumers, never both.
-/
theorem containerRun_ownedOnce {containers : Nat} {start final : ContainerStream}
    {events : List ContainerEvent} {log : List BufOutput}
    (registered : start.Registered containers)
    (guarded : LabelledRun.Guarded containerStep deliversOrReturns start [] events)
    (ran : containerRun start events = some (final, log)) :
    OwnedOnce containers final.stream :=
  (containerRun_invariant registered guarded ran).ownedOnce

/-! ## A stale container -/

/-- A batch stream of two containers, both in the kernel. -/
def twoContainers (bundled linked : Bool) (callbacks : List (Option Int)) : ContainerStream where
  stream := { twoBuffers bundled linked callbacks with batch := true }
  prev_timestamp := 100

theorem twoContainers_registered (bundled linked : Bool) (callbacks : List (Option Int)) :
    (twoContainers bundled linked callbacks).Registered 2 := by
  have registered := twoBuffers_registered bundled linked callbacks
  refine ⟨rfl, ⟨rfl, rfl, rfl, rfl, rfl, registered.once, registered.status⟩, ?_⟩
  intro idx inRange
  left
  have cases : idx = 0 ∨ idx = 1 := by omega
  simpa [twoContainers, twoBuffers] using cases

/-- A newer container goes to a channel and to a callback. -/
def newerContainer : List ContainerEvent :=
  [.readMsmFrame 0 101 true true, .thread .checkCb, .thread .countRefs,
    .thread (.notifyChannel true), .thread (.notifyLinked true), .thread (.enqueueCb true),
    .thread (.bundleDone 0 true)]

/-- One container is in the kernel and one is held. -/
theorem containerRun_ownedOnce_newer : ∃ final log,
      containerRun (twoContainers true false [some (-1)]) newerContainer = some (final, log) ∧
        final.stream.kernel = [1] ∧ final.stream.consumers 0 = 1 ∧
        OwnedOnce 2 final.stream :=
  ⟨_, _, rfl, rfl, rfl, @containerRun_ownedOnce 2 (twoContainers true false [some (-1)]) _
      newerContainer _ (twoContainers_registered _ _ _) (by decide) rfl⟩

/-- A container that is not newer than the last one. -/
def staleContainer : List ContainerEvent :=
  [.readMsmFrame 0 100 true true, .thread .checkCb, .thread .countRefs,
    .thread (.notifyChannel true)]

/--
The container is in the kernel again, and the channel has been notified of it
and holds a reference.
-/
theorem containerRun_staleDelivered : (twoContainers true false [none]).Registered 2 ∧ ∃ final log,
        containerRun (twoContainers true false [none]) staleContainer = some (final, log) ∧
          log = [.qbuf 0] ∧ final.stream.kernel = [1, 0] ∧
          final.stream.bundle = [0] ∧
          final.stream.buf_status 0 = ⟨1, false⟩ ∧
          ¬ OwnedOnce 2 final.stream := by
  refine ⟨twoContainers_registered _ _ _, _, _, rfl, rfl, rfl, rfl, rfl, ?_⟩
  intro owned
  rcases owned 0 (by decide) with byKernel | held
  · exact absurd byKernel.refcnt (by decide)
  · exact held.kernel (by decide)

end AnglerHal.Stream
