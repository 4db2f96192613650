import AnglerHal.StreamBuffers

namespace AnglerHal.Stream

/-!
# Exact accounting

The count of a buffer is the number of its consumers in every interleaving.
That a buffer in the kernel has none needs the order of the poll thread: as
long as it is going to notify a linked channel, something else has to keep the
buffer out of the kernel.
-/

/-! ## The invariant -/

/-- What keeps the poll thread's buffer out of the kernel. -/
def PollPc.Ok (stream : StreamState) : PollPc → Prop
  | .read idx | .checked idx _ => (stream.buf_status idx).in_kernel = true ∧ idx ∉ stream.kernel
  | .counted idx hasCb => stream.buf_status idx = ⟨stream.is_bundled.toNat + hasCb.toNat, false⟩
  | .notified idx _ => stream.is_linked = true → (stream.buf_status idx).in_kernel = false
  | .idle | .linked .. => True

/-- What every step keeps. -/
structure BufferInvariant (stream : StreamState) : Prop where
  counted : ∀ idx, (stream.buf_status idx).buf_refcnt = stream.consumers idx
  inKernel : ∀ idx, (stream.buf_status idx).in_kernel = true →
      (stream.buf_status idx).buf_refcnt = 0
  kernel : ∀ idx ∈ stream.kernel, (stream.buf_status idx).in_kernel = true
  queuedOnce : stream.kernel.Nodup
  poll : stream.poll.Ok stream

variable {stream after taken next : StreamState} {idx : Nat}
  {hasCb handed queued : Bool} {event : StreamEvent} {emitted : List BufOutput}

theorem BufferInvariant.exact (invariant : BufferInvariant stream) :
    AccountingExact stream := by
  refine ⟨invariant.counted, invariant.inKernel, invariant.queuedOnce, ?_⟩
  intro idx member
  have queued := invariant.kernel idx member
  refine ⟨(invariant.counted idx).symm.trans (invariant.inKernel idx queued), ?_⟩
  have poll := invariant.poll
  unfold StreamState.promised
  split <;> rename_i isPoll
  · rename_i held hasCb
    rw [isPoll] at poll
    by_cases same : held = idx
    · subst same
      rw [poll] at queued
      cases queued
    · simp [same]
  · rename_i held hasCb
    rw [isPoll] at poll
    by_cases same : held = idx
    · subst same
      by_contra promised
      have isLinked : stream.is_linked = true := by simpa using promised
      rw [poll isLinked] at queued
      cases queued
    · simp [same]
  · rfl

theorem BufferInvariant.not_inKernel (invariant : BufferInvariant stream)
    (consumed : 0 < stream.consumers idx) :
    (stream.buf_status idx).in_kernel = false := by
  by_contra queued
  have none := invariant.inKernel idx (by simpa using queued)
  rw [invariant.counted idx] at none
  omega

theorem Registered_invariant (registered : stream.Registered) :
    BufferInvariant stream := by
  have consumers : ∀ idx, stream.consumers idx = stream.app.count idx := by
    intro idx
    simp [StreamState.consumers, registered.poll, registered.bundle,
      registered.linkedBundle, registered.cmd_queue, registered.dispatch,
      PollPc.carries, DispatchPc.holds]
  refine ⟨?_, ?_, ?_, registered.once, ?_⟩
  · intro idx
    rw [consumers]
    rcases registered.status idx with ⟨-, none, status⟩ | ⟨-, status⟩
    · rw [status, none]
    · rw [status]
  · intro idx queued
    rcases registered.status idx with ⟨-, -, status⟩ | ⟨-, status⟩
    · rw [status]
    · rw [status] at queued
      cases queued
  · intro idx member
    rcases registered.status idx with ⟨-, -, status⟩ | ⟨notMember, -⟩
    · rw [status]
    · exact absurd member notMember
  · rw [registered.poll]
    trivial

/-! ## Releasing -/

@[simp]
theorem setStatus_consumers (stream : StreamState) (idx other : Nat) (status : BufStatus) :
    (stream.setStatus idx status).consumers other = stream.consumers other :=
  rfl

@[simp]
theorem setStatus_buf_status (stream : StreamState) (idx other : Nat) (status : BufStatus) :
    (stream.setStatus idx status).buf_status other =
      if other = idx then status else stream.buf_status other :=
  rfl

/-- The same stream with fewer consumers of one buffer. -/
structure TakenFrom (stream taken : StreamState) (idx : Nat) : Prop where
  status : taken.buf_status = stream.buf_status
  kernel : taken.kernel = stream.kernel
  poll : taken.poll = stream.poll
  linked : taken.is_linked = stream.is_linked
  bundled : taken.is_bundled = stream.is_bundled
  fewer : stream.consumers idx = taken.consumers idx + 1
  others : ∀ other, other ≠ idx → taken.consumers other = stream.consumers other

theorem carries_le_consumers (stream : StreamState) (idx : Nat) :
    stream.poll.carries stream.is_bundled idx ≤ stream.consumers idx := by
  unfold StreamState.consumers
  omega

theorem PollPc.Ok.of_status {poll : PollPc} (isOk : poll.Ok stream)
    (kernel : after.kernel = stream.kernel)
    (linked : after.is_linked = stream.is_linked)
    (bundled : after.is_bundled = stream.is_bundled)
    (location : ∀ idx, (after.buf_status idx).in_kernel = (stream.buf_status idx).in_kernel)
    (counts : ∀ idx hasCb, poll = .counted idx hasCb →
        after.buf_status idx = stream.buf_status idx) :
    poll.Ok after := by
  cases poll with
  | idle | linked => trivial
  | read idx | checked idx hasCb =>
    refine ⟨(location idx).trans isOk.1, ?_⟩
    rw [kernel]
    exact isOk.2
  | counted idx hasCb =>
    have status : stream.buf_status idx = ⟨stream.is_bundled.toNat + hasCb.toNat, false⟩ := isOk
    show after.buf_status idx = ⟨after.is_bundled.toNat + hasCb.toNat, false⟩
    rw [counts idx hasCb rfl, bundled, status]
  | notified idx hasCb =>
    intro isLinked
    rw [location]
    exact isOk (linked ▸ isLinked)

theorem BufferInvariant.of_released {count : Nat} (invariant : BufferInvariant stream)
    (taking : TakenFrom stream taken idx)
    (notQueued : (stream.buf_status idx).in_kernel = false)
    (pastCounting : ∀ hasCb, stream.poll ≠ .counted idx hasCb)
    (isCount : count = taken.consumers idx) :
    BufferInvariant (taken.setStatus idx { stream.buf_status idx with buf_refcnt := count }) := by
  have location : ∀ other, ((taken.setStatus idx { stream.buf_status idx with
                buf_refcnt := count }).buf_status other).in_kernel =
          (stream.buf_status other).in_kernel := by
    intro other
    by_cases same : other = idx
    · simp [same]
    · simp [same, taking.status]
  refine ⟨?_, ?_, ?_, ?_, ?_⟩
  · intro other
    by_cases same : other = idx
    · subst same
      simpa using isCount
    · rw [setStatus_buf_status, if_neg same, taking.status, invariant.counted]
      exact (taking.others other same).symm
  · intro other queued
    rw [location] at queued
    by_cases same : other = idx
    · subst same
      rw [notQueued] at queued
      cases queued
    · rw [setStatus_buf_status, if_neg same, taking.status]
      exact invariant.inKernel other queued
  · intro other member
    rw [location]
    exact invariant.kernel other (taking.kernel ▸ member)
  · exact taking.kernel ▸ invariant.queuedOnce
  · show taken.poll.Ok _
    rw [taking.poll]
    refine PollPc.Ok.of_status invariant.poll taking.kernel taking.linked taking.bundled location ?_
    intro other hasCb isPoll
    have apart : other ≠ idx := by
      rintro rfl
      exact pastCounting hasCb isPoll
    rw [setStatus_buf_status, if_neg apart, taking.status]

theorem BufferInvariant.bufDone {stream taken : StreamState} {idx : Nat} {queued : Bool}
    (invariant : BufferInvariant stream) (taking : TakenFrom stream taken idx)
    (inOrder : stream.poll = .notified idx false → stream.is_linked = false) :
    BufferInvariant (taken.bufDone idx queued).1 := by
  have held : (stream.buf_status idx).buf_refcnt = taken.consumers idx + 1 :=
    (invariant.counted idx).trans taking.fewer
  have notQueued : (stream.buf_status idx).in_kernel = false :=
    invariant.not_inKernel (by rw [taking.fewer]; omega)
  have notMember : idx ∉ stream.kernel := by
    intro member
    rw [invariant.kernel idx member] at notQueued
    cases notQueued
  have counts : ∀ other status, status.buf_refcnt = taken.consumers idx →
        ((taken.setStatus idx status).buf_status other).buf_refcnt =
          taken.consumers other := by
    intro other status isCount
    by_cases same : other = idx
    · subst same
      simpa using isCount
    · rw [setStatus_buf_status, if_neg same, taking.status,
        invariant.counted, taking.others other same]
  -- the poll thread has not only just counted this buffer
  have pastCounting : ∀ hasCb, stream.poll ≠ .counted idx hasCb := by
    intro hasCb isPoll
    have isOk := invariant.poll
    have carries := carries_le_consumers taken idx
    rw [isPoll] at isOk
    rw [taking.poll, taking.bundled, isPoll] at carries
    have status : stream.buf_status idx = _ := isOk
    rw [status] at held
    simp only [PollPc.carries, if_true] at carries
    dsimp only at held
    omega
  unfold StreamState.bufDone
  dsimp only
  rw [taking.status, if_neg (by omega)]
  split
  · rename_i isLast
    have noneLeft : taken.consumers idx = 0 := by omega
    split
    · refine ⟨?_, ?_, ?_, ?_, ?_⟩
      · exact fun other => counts other ⟨0, true⟩ noneLeft.symm
      · intro other isQueued
        show ((taken.setStatus idx ⟨0, true⟩).buf_status other).buf_refcnt = 0
        by_cases same : other = idx
        · simp [same]
        · have earlier : ((taken.setStatus idx ⟨0, true⟩).buf_status other).in_kernel =
                true := isQueued
          rw [setStatus_buf_status, if_neg same, taking.status] at earlier ⊢
          exact invariant.inKernel other earlier
      · intro other member
        show ((taken.setStatus idx ⟨0, true⟩).buf_status other).in_kernel = true
        by_cases same : other = idx
        · simp [same]
        · rw [setStatus_buf_status, if_neg same, taking.status]
          rcases List.mem_append.mp member with earlier | isNew
          · exact invariant.kernel other (taking.kernel ▸ earlier)
          · exact absurd (List.mem_singleton.mp isNew) same
      · show (taken.kernel ++ [idx]).Nodup
        rw [taking.kernel]
        exact (List.perm_append_singleton idx _).nodup_iff.mpr
          (List.nodup_cons.mpr ⟨notMember, invariant.queuedOnce⟩)
      · show taken.poll.Ok _
        have isOk := invariant.poll
        rw [taking.poll]
        cases isPoll : stream.poll with
        | idle | linked => trivial
        | read other | checked other hasCb =>
          rw [isPoll] at isOk
          have apart : other ≠ idx := by
            rintro rfl
            rw [isOk.1] at notQueued
            cases notQueued
          refine ⟨?_, ?_⟩
          · show ((taken.setStatus idx ⟨0, true⟩).buf_status other).in_kernel = true
            rw [setStatus_buf_status, if_neg apart, taking.status]
            exact isOk.1
          · show other ∉ taken.kernel ++ [idx]
            rw [taking.kernel]
            simp [isOk.2, apart]
        | counted other hasCb =>
          rw [isPoll] at isOk
          have apart : other ≠ idx := by
            rintro rfl
            exact pastCounting hasCb isPoll
          show (taken.setStatus idx ⟨0, true⟩).buf_status other = _
          rw [setStatus_buf_status, if_neg apart, taking.status]
          show _ = (⟨taken.is_bundled.toNat + hasCb.toNat, false⟩ : BufStatus)
          rw [taking.bundled]
          exact isOk
        | notified other hasCb =>
          rw [isPoll] at isOk
          intro isLinked
          have linkedBefore : stream.is_linked = true := taking.linked ▸ isLinked
          have apart : other ≠ idx := by
            rintro rfl
            cases hasCb with
            | true =>
              have carries := carries_le_consumers taken other
              rw [taking.poll, isPoll, noneLeft] at carries
              simp [PollPc.carries] at carries
            | false =>
              rw [inOrder isPoll] at linkedBefore
              cases linkedBefore
          show ((taken.setStatus idx ⟨0, true⟩).buf_status other).in_kernel = false
          rw [setStatus_buf_status, if_neg apart, taking.status]
          exact isOk linkedBefore
    · refine BufferInvariant.of_released invariant taking notQueued pastCounting ?_
      exact noneLeft.symm
  · refine BufferInvariant.of_released invariant taking notQueued pastCounting ?_
    show (stream.buf_status idx).buf_refcnt - 1 = taken.consumers idx
    omega

theorem count_erase_of_mem {held : List Nat} (member : idx ∈ held) :
    held.count idx = (held.erase idx).count idx + 1 := by
  have positive := List.count_pos_iff.mpr member
  rw [List.count_erase_self]
  omega

theorem takenFrom_bundle (member : idx ∈ stream.bundle) :
    TakenFrom stream { stream with bundle := stream.bundle.erase idx } idx := by
  refine ⟨rfl, rfl, rfl, rfl, rfl, ?_, ?_⟩
  · have fewer := count_erase_of_mem member
    simp only [StreamState.consumers]
    omega
  · intro other apart
    simp only [StreamState.consumers, List.count_erase_of_ne apart]

theorem takenFrom_linkedBundle (member : idx ∈ stream.linkedBundle) :
    TakenFrom stream { stream with linkedBundle := stream.linkedBundle.erase idx } idx := by
  refine ⟨rfl, rfl, rfl, rfl, rfl, ?_, ?_⟩
  · have fewer := count_erase_of_mem member
    simp only [StreamState.consumers]
    omega
  · intro other apart
    simp only [StreamState.consumers, List.count_erase_of_ne apart]

theorem takenFrom_app (member : idx ∈ stream.app) :
    TakenFrom stream { stream with app := stream.app.erase idx } idx := by
  refine ⟨rfl, rfl, rfl, rfl, rfl, ?_, ?_⟩
  · have fewer := count_erase_of_mem member
    simp only [StreamState.consumers]
    omega
  · intro other apart
    simp only [StreamState.consumers, List.count_erase_of_ne apart]

theorem takenFrom_dispatch (finishing : stream.dispatch = .finishing idx) :
    TakenFrom stream { stream with dispatch := .idle } idx := by
  refine ⟨rfl, rfl, rfl, rfl, rfl, ?_, ?_⟩
  · simp only [StreamState.consumers, finishing, DispatchPc.holds, if_true]
    omega
  · intro other apart
    simp only [StreamState.consumers, finishing, DispatchPc.holds, if_neg (Ne.symm apart)]

/-! ## The poll thread -/

theorem BufferInvariant.of_moved (invariant : BufferInvariant stream)
    (status : after.buf_status = stream.buf_status)
    (kernel : after.kernel = stream.kernel)
    (consumers : ∀ idx, after.consumers idx = stream.consumers idx)
    (poll : after.poll.Ok after) :
    BufferInvariant after := by
  refine ⟨?_, ?_, ?_, kernel ▸ invariant.queuedOnce, poll⟩
  · intro idx
    rw [status, consumers]
    exact invariant.counted idx
  · rw [status]
    exact invariant.inKernel
  · rw [status, kernel]
    exact invariant.kernel

/-- A step that has no part in the counts keeps the poll thread's fact. -/
theorem BufferInvariant.poll_kept (invariant : BufferInvariant stream)
    (status : after.buf_status = stream.buf_status)
    (kernel : after.kernel = stream.kernel)
    (linked : after.is_linked = stream.is_linked)
    (bundled : after.is_bundled = stream.is_bundled) (poll : after.poll = stream.poll) :
    after.poll.Ok after := by
  rw [poll]
  exact PollPc.Ok.of_status invariant.poll kernel linked bundled
    (fun _ => by rw [status]) (fun _ _ _ => by rw [status])

theorem countRefs_invariant (invariant : BufferInvariant stream)
    (isPoll : stream.poll = .checked idx hasCb) :
    BufferInvariant
      { stream.setStatus idx
          { buf_refcnt :=
              (stream.buf_status idx).buf_refcnt +
                stream.is_bundled.toNat + hasCb.toNat
            in_kernel := false } with
        poll := .counted idx hasCb } := by
  have isOk := invariant.poll
  rw [isPoll] at isOk
  have none := invariant.inKernel idx isOk.1
  have noConsumer : stream.consumers idx = 0 := (invariant.counted idx).symm.trans none
  refine ⟨?_, ?_, ?_, invariant.queuedOnce, ?_⟩
  · intro other
    have earlier := invariant.counted other
    by_cases same : other = idx
    · subst same
      simp only [StreamState.consumers, isPoll, PollPc.carries] at noConsumer
      simp only [StreamState.setStatus, StreamState.consumers, PollPc.carries,
        if_true, none]
      omega
    · simp only [StreamState.consumers, isPoll, PollPc.carries] at earlier
      simp only [StreamState.setStatus, StreamState.consumers, PollPc.carries,
        if_neg same, if_neg (Ne.symm same)]
      exact earlier
  · intro other queued
    by_cases same : other = idx
    · simp [StreamState.setStatus, same] at queued
    · simp only [StreamState.setStatus, if_neg same] at queued ⊢
      exact invariant.inKernel other queued
  · intro other member
    have apart : other ≠ idx := by
      rintro rfl
      exact isOk.2 member
    simp only [StreamState.setStatus, if_neg apart]
    exact invariant.kernel other member
  · show (stream.setStatus idx _).buf_status idx = _
    simp [none, StreamState.setStatus]

theorem BufferInvariant.of_given (invariant : BufferInvariant stream)
    (status : after.buf_status = (stream.addRefs idx 1).buf_status)
    (kernel : after.kernel = stream.kernel)
    (notQueued : (stream.buf_status idx).in_kernel = false)
    (more : after.consumers idx = stream.consumers idx + 1)
    (others : ∀ other, other ≠ idx → after.consumers other = stream.consumers other)
    (poll : after.poll.Ok after) :
    BufferInvariant after := by
  have location : ∀ other, (after.buf_status other).in_kernel =
          (stream.buf_status other).in_kernel := by
    intro other
    rw [status]
    by_cases same : other = idx
    · simp [StreamState.addRefs, same]
    · simp [StreamState.addRefs, same]
  refine ⟨?_, ?_, ?_, kernel ▸ invariant.queuedOnce, poll⟩
  · intro other
    rw [status]
    have earlier := invariant.counted other
    by_cases same : other = idx
    · subst same
      rw [more]
      simp [StreamState.addRefs, earlier]
    · rw [others other same]
      simpa [StreamState.addRefs, same] using earlier
  · intro other queued
    rw [location] at queued
    have apart : other ≠ idx := by
      rintro rfl
      rw [notQueued] at queued
      cases queued
    rw [status]
    simpa [StreamState.addRefs, apart] using invariant.inKernel other queued
  · intro other member
    rw [location]
    exact invariant.kernel other (kernel ▸ member)

theorem notifyLinked_invariant (invariant : BufferInvariant stream)
    (isPoll : stream.poll = .notified idx hasCb) (isLinked : stream.is_linked = true)
    (hands : handsOver stream (.notifyLinked handed) = true) :
    BufferInvariant { stream.addRefs idx 1 with
          linkedBundle :=
            if handed then stream.linkedBundle ++ [idx]
            else stream.linkedBundle
          poll := .linked idx hasCb } := by
  obtain rfl : handed = true := by
    simpa [handsOver, isLinked] using hands
  have isOk := invariant.poll
  rw [isPoll] at isOk
  refine invariant.of_given rfl rfl (isOk isLinked) ?_ ?_ trivial
  · simp only [StreamState.consumers, isPoll, PollPc.carries, if_true,
      List.count_append, List.count_singleton_self, StreamState.addRefs,
      StreamState.setStatus]
    omega
  · intro other apart
    simp only [StreamState.consumers, isPoll, PollPc.carries, if_true,
      StreamState.addRefs, StreamState.setStatus, List.count_append,
      List.count_singleton, beq_iff_eq, if_neg (Ne.symm apart), Nat.add_zero]

theorem dispatchSlot_invariant {slot : Nat} (invariant : BufferInvariant stream)
    (isDispatch : stream.dispatch = .dispatching idx slot) :
    BufferInvariant (stream.dispatchSlot idx slot) := by
  have holds : stream.dispatch.holds idx = 1 := by
    rw [isDispatch]
    simp [DispatchPc.holds]
  have consumed : stream.poll.carries stream.is_bundled idx + 1 ≤
        stream.consumers idx := by
    simp only [StreamState.consumers, holds]
    omega
  have notQueued : (stream.buf_status idx).in_kernel = false := invariant.not_inKernel (by omega)
  have sameConsumers : ∀ (cbs : List (Option Int)) other, ({ stream with
            buf_cb := cbs
            dispatch := .dispatching idx (slot + 1) }).consumers other =
          stream.consumers other := by
    intro cbs other
    simp only [StreamState.consumers, isDispatch, DispatchPc.holds]
  have given : ∀ cbs : List (Option Int), BufferInvariant { stream.addRefs idx 1 with
              dispatch := .dispatching idx (slot + 1)
              app := stream.app ++ [idx]
              buf_cb := cbs } := by
    intro cbs
    refine invariant.of_given rfl rfl notQueued ?_ ?_ ?_
    · simp only [StreamState.consumers, isDispatch, DispatchPc.holds,
        List.count_append, List.count_singleton_self, StreamState.addRefs,
        StreamState.setStatus]
      omega
    · intro other apart
      simp only [StreamState.consumers, isDispatch, DispatchPc.holds,
        StreamState.addRefs, StreamState.setStatus, List.count_append,
        List.count_singleton, beq_iff_eq, if_neg (Ne.symm apart),
        Nat.add_zero]
    · refine PollPc.Ok.of_status invariant.poll rfl rfl rfl ?_ ?_
      · intro other
        by_cases same : other = idx
        · simp [StreamState.addRefs, StreamState.setStatus, same]
        · simp [StreamState.addRefs, StreamState.setStatus, same]
      · intro other hasCb isPoll
        have wasPoll : stream.poll = .counted other hasCb := isPoll
        have apart : other ≠ idx := by
          rintro rfl
          have isOk := invariant.poll
          rw [wasPoll] at isOk
          have status : stream.buf_status other = _ := isOk
          have count := invariant.counted other
          rw [status] at count
          rw [wasPoll] at consumed
          simp only [PollPc.carries, if_true] at consumed
          dsimp only at count
          omega
        simp [StreamState.addRefs, StreamState.setStatus, apart]
  have kept : ∀ cbs : List (Option Int), BufferInvariant { stream with
              buf_cb := cbs
              dispatch := .dispatching idx (slot + 1) } :=
    fun cbs =>
      invariant.of_moved rfl rfl (sameConsumers cbs)
        (invariant.poll_kept rfl rfl rfl rfl rfl)
  unfold StreamState.dispatchSlot
  dsimp only
  split
  · refine invariant.of_moved rfl rfl ?_ ?_
    · intro other
      simp only [StreamState.consumers, isDispatch, DispatchPc.holds]
    · exact invariant.poll_kept rfl rfl rfl rfl rfl
  · exact kept stream.buf_cb
  · rename_i cbCount isCb
    by_cases isCalled : cbCount ≠ 0
    · rw [if_pos isCalled]
      split
      · exact given _
      · exact given _
    · rw [if_neg isCalled]
      split
      · exact kept _
      · exact kept stream.buf_cb

theorem readFrame_invariant (invariant : BufferInvariant stream)
    (isIdle : stream.poll = .idle) (member : idx ∈ stream.kernel) :
    BufferInvariant { stream with
        kernel := stream.kernel.erase idx
        poll := .read idx } := by
  refine ⟨?_, invariant.inKernel, ?_, invariant.queuedOnce.erase idx, ?_⟩
  · intro other
    have earlier := invariant.counted other
    simpa [StreamState.consumers, isIdle, PollPc.carries] using earlier
  · exact fun other stays => invariant.kernel other (List.mem_of_mem_erase stays)
  · exact ⟨invariant.kernel idx member, invariant.queuedOnce.not_mem_erase⟩

theorem checkCb_consumers (hasCb : Bool) (isPoll : stream.poll = .read idx)
    (other : Nat) :
    ({ stream with poll := .checked idx hasCb }).consumers other =
      stream.consumers other := by
  simp [StreamState.consumers, isPoll, PollPc.carries]

/-- A bundled buffer goes from the poll thread to the channel. -/
theorem notifyChannel_consumers (isPoll : stream.poll = .counted idx hasCb)
    (hands : handsOver stream (.notifyChannel handed) = true) (other : Nat) :
    ({ stream with
        bundle :=
          if stream.is_bundled && handed then stream.bundle ++ [idx]
          else stream.bundle
        poll := .notified idx hasCb }).consumers other =
      stream.consumers other := by
  simp only [StreamState.consumers, isPoll, PollPc.carries]
  cases isBundled : stream.is_bundled with
  | false => simp
  | true =>
    obtain rfl : handed = true := by
      simpa [handsOver, isBundled] using hands
    by_cases same : idx = other
    · simp [same]
      omega
    · simp [same]

theorem notifyChannel_invariant (invariant : BufferInvariant stream)
    (isPoll : stream.poll = .counted idx hasCb)
    (hands : handsOver stream (.notifyChannel handed) = true) :
    BufferInvariant { stream with
        bundle :=
          if stream.is_bundled && handed then stream.bundle ++ [idx]
          else stream.bundle
        poll := .notified idx hasCb } := by
  have isOk := invariant.poll
  rw [isPoll] at isOk
  have status : stream.buf_status idx = _ := isOk
  refine invariant.of_moved rfl rfl (notifyChannel_consumers isPoll hands) ?_
  intro _
  show (stream.buf_status idx).in_kernel = false
  rw [status]

theorem skipLinked_consumers (isPoll : stream.poll = .notified idx hasCb) (other : Nat) :
    ({ stream with poll := .linked idx hasCb }).consumers other =
      stream.consumers other := by
  simp [StreamState.consumers, isPoll, PollPc.carries]

/-- A buffer with callbacks goes from the poll thread to the command queue. -/
theorem enqueueCb_consumers (isPoll : stream.poll = .linked idx hasCb)
    (hands : handsOver stream (.enqueueCb handed) = true) (other : Nat) :
    ({ stream with
        cmd_queue :=
          if hasCb && handed then stream.cmd_queue ++ [idx]
          else stream.cmd_queue
        poll := .idle }).consumers other =
      stream.consumers other := by
  simp only [StreamState.consumers, isPoll, PollPc.carries]
  cases hasCb with
  | false => simp
  | true =>
    obtain rfl : handed = true := by
      simpa [handsOver, isPoll] using hands
    by_cases same : idx = other
    · simp [same]
      omega
    · simp [same]

theorem setLinked_invariant {linked : Bool} (invariant : BufferInvariant stream)
    (links : linksBefore stream (.setLinked linked) = true) :
    BufferInvariant { stream with is_linked := linked } := by
  refine invariant.of_moved rfl rfl (fun _ => rfl) ?_
  show stream.poll.Ok _
  have isOk := invariant.poll
  cases isPoll : stream.poll with
  | idle | linked => trivial
  | read | checked | counted =>
    rw [isPoll] at isOk
    exact isOk
  | notified idx hasCb =>
    intro isLinked
    have becomes : linked = true := isLinked
    subst becomes
    simpa [linksBefore, isPoll] using links

theorem takeCb_consumers {rest : List Nat} (isIdle : stream.dispatch = .idle)
    (isQueue : stream.cmd_queue = idx :: rest) (other : Nat) :
    ({ stream with
        cmd_queue := rest
        dispatch := .dispatching idx 0 }).consumers other =
      stream.consumers other := by
  simp only [StreamState.consumers, isIdle, isQueue, DispatchPc.holds, List.count_cons, beq_iff_eq]
  omega

/-! ## Releases -/

theorem releasesCounted_notified (counted : releasesCounted stream event = true)
    (isRelease : stream.releases event = some idx)
    (isPoll : stream.poll = .notified idx false) :
    stream.is_linked = false := by
  simpa [releasesCounted, isPoll, isRelease] using counted

/-- A release takes one consumer away and calls `mm_stream_buf_done`. -/
theorem streamStep_releases (isRelease : stream.releases event = some idx)
    (stepped : streamStep stream event = some (next, emitted)) :
    ∃ taken queued, event.queued? = some queued ∧ TakenFrom stream taken idx ∧
      taken.bufDone idx queued = (next, emitted) := by
  cases event with
  | dispatchDone queued =>
    simp only [streamStep] at stepped
    split at stepped
    · rename_i held finishing
      obtain rfl : held = idx := by
        simpa [StreamState.releases, finishing] using isRelease
      exact ⟨_, queued, rfl, takenFrom_dispatch finishing, Option.some.inj stepped⟩
    · cases stepped
  | bundleDone held queued =>
    obtain rfl : held = idx := by simpa [StreamState.releases] using isRelease
    simp only [streamStep] at stepped
    split at stepped
    · rename_i member
      exact ⟨_, queued, rfl, takenFrom_bundle member, Option.some.inj stepped⟩
    · cases stepped
  | linkedDone held queued =>
    obtain rfl : held = idx := by simpa [StreamState.releases] using isRelease
    simp only [streamStep] at stepped
    split at stepped
    · rename_i member
      exact ⟨_, queued, rfl, takenFrom_linkedBundle member, Option.some.inj stepped⟩
    · cases stepped
  | appDone held queued =>
    obtain rfl : held = idx := by simpa [StreamState.releases] using isRelease
    simp only [streamStep] at stepped
    split at stepped
    · rename_i member
      exact ⟨_, queued, rfl, takenFrom_app member, Option.some.inj stepped⟩
    · cases stepped
  | _ => cases isRelease

/-- `dispatchDone` is a release wherever it is a step. -/
theorem dispatchDone_releases
    (stepped : streamStep stream (.dispatchDone queued) = some (next, emitted)) :
    stream.releases (.dispatchDone queued) ≠ none := by
  simp only [streamStep] at stepped
  split at stepped
  · rename_i idx finishing
    simp [StreamState.releases, finishing]
  · cases stepped

/-- Only releases call the driver. -/
theorem emitted_of_not_releases (notRelease : stream.releases event = none)
    (stepped : streamStep stream event = some (next, emitted)) :
    emitted = [] := by
  cases event with
  | dispatchDone queued => exact absurd notRelease (dispatchDone_releases stepped)
  | bundleDone idx queued | linkedDone idx queued | appDone idx queued => cases notRelease
  | setLinked linked =>
    simp only [streamStep, Option.some.injEq, Prod.mk.injEq] at stepped
    exact stepped.2.symm
  | readMsmFrame idx | setCb slot cb | countRefs | notifyChannel | enqueueCb | takeCb
  | dispatchSlot =>
    simp only [streamStep] at stepped
    split at stepped
    · exact (Prod.mk.inj (Option.some.inj stepped)).2.symm
    · cases stepped
  | checkCb | notifyLinked =>
    simp only [streamStep] at stepped
    split at stepped
    · split at stepped <;> cases stepped <;> rfl
    · cases stepped

theorem release_invariant (invariant : BufferInvariant stream)
    (counted : releasesCounted stream event = true)
    (isRelease : stream.releases event = some idx)
    (stepped : streamStep stream event = some (next, emitted)) :
    BufferInvariant next := by
  obtain ⟨taken, queued, -, taking, done⟩ := streamStep_releases isRelease stepped
  have released := @BufferInvariant.bufDone stream taken idx queued invariant taking
      (releasesCounted_notified counted isRelease)
  rw [done] at released
  exact released

/-! ## Runs -/

/-- The step is one of `mm_stream_data_notify`. -/
def StreamEvent.isPollStep : StreamEvent → Bool
  | .readMsmFrame _ | .checkCb | .countRefs => true
  | .notifyChannel _ | .notifyLinked _ | .enqueueCb _ => true
  | _ => false

theorem pollStep_invariant (invariant : BufferInvariant stream)
    (hands : handsOver stream event = true) (isPollStep : event.isPollStep = true)
    (stepped : streamStep stream event = some (next, emitted)) :
    BufferInvariant next := by
  cases event with
  | readMsmFrame idx =>
    obtain ⟨⟨isIdle, member⟩, rfl⟩ := LabelledRun.of_step stepped
    exact readFrame_invariant invariant isIdle member
  | checkCb =>
    simp only [streamStep] at stepped
    split at stepped
    · rename_i idx isPoll
      obtain ⟨-, rfl⟩ := LabelledRun.of_step stepped
      have isOk := invariant.poll
      rw [isPoll] at isOk
      exact invariant.of_moved rfl rfl (checkCb_consumers _ isPoll) isOk
    · cases stepped
  | countRefs =>
    simp only [streamStep] at stepped
    split at stepped
    · rename_i idx hasCb isPoll
      cases stepped
      exact countRefs_invariant invariant isPoll
    · cases stepped
  | notifyChannel handed =>
    simp only [streamStep] at stepped
    split at stepped
    · rename_i idx hasCb isPoll
      cases stepped
      exact notifyChannel_invariant invariant isPoll hands
    · cases stepped
  | notifyLinked handed =>
    simp only [streamStep] at stepped
    split at stepped
    · rename_i idx hasCb isPoll
      split at stepped
      · rename_i isLinked
        cases stepped
        exact notifyLinked_invariant invariant isPoll isLinked hands
      · cases stepped
        exact invariant.of_moved rfl rfl (skipLinked_consumers isPoll) trivial
    · cases stepped
  | enqueueCb handed =>
    simp only [streamStep] at stepped
    split at stepped
    · rename_i idx hasCb isPoll
      cases stepped
      exact invariant.of_moved rfl rfl (enqueueCb_consumers isPoll hands) trivial
    · cases stepped
  | _ => cases isPollStep

/-- Every step that meets the guard keeps the accounting. -/
theorem streamStep_invariant {past : List StreamEvent}
    (invariant : BufferInvariant stream) (met : countsFirst stream past event)
    (stepped : streamStep stream event = some (next, emitted)) :
    BufferInvariant next := by
  obtain ⟨counted, links, hands⟩ := met
  cases isRelease : stream.releases event with
  | some idx => exact release_invariant invariant counted isRelease stepped
  | none =>
    cases event with
    | readMsmFrame | checkCb | countRefs | notifyChannel | notifyLinked | enqueueCb =>
      exact pollStep_invariant invariant hands rfl stepped
    | setLinked linked =>
      obtain ⟨rfl, -⟩ := Prod.mk.inj (Option.some.inj stepped)
      exact setLinked_invariant invariant links
    | setCb slot cb =>
      obtain ⟨-, rfl⟩ := LabelledRun.of_step stepped
      exact invariant.of_moved rfl rfl (fun _ => rfl) (invariant.poll_kept rfl rfl rfl rfl rfl)
    | takeCb =>
      simp only [streamStep] at stepped
      split at stepped
      · rename_i idx rest isIdle isQueue
        cases stepped
        exact invariant.of_moved rfl rfl (takeCb_consumers isIdle isQueue)
          (invariant.poll_kept rfl rfl rfl rfl rfl)
      · cases stepped
    | dispatchSlot =>
      simp only [streamStep] at stepped
      split at stepped
      · rename_i idx slot isDispatch
        cases stepped
        exact dispatchSlot_invariant invariant isDispatch
      · cases stepped
    | dispatchDone queued => exact absurd isRelease (dispatchDone_releases stepped)
    | bundleDone | linkedDone | appDone => cases isRelease

theorem qbuf_of_bufDone {other : Nat}
    (isQueued : .qbuf other ∈ (taken.bufDone idx queued).2) :
    other = idx ∧ (taken.buf_status idx).buf_refcnt = 1 ∧
      other ∈ (taken.bufDone idx queued).1.kernel := by
  unfold StreamState.bufDone at isQueued ⊢
  dsimp only at isQueued ⊢
  by_cases none : (taken.buf_status idx).buf_refcnt = 0
  · rw [if_pos none] at isQueued
    split at isQueued <;> cases isQueued
  · rw [if_neg none] at isQueued ⊢
    by_cases isLast : (taken.buf_status idx).buf_refcnt = 1
    · rw [if_pos isLast] at isQueued ⊢
      cases queued with
      | true =>
        obtain rfl : other = idx := by simpa using isQueued
        exact ⟨rfl, isLast, by simp⟩
      | false => cases isQueued
    · rw [if_neg isLast] at isQueued
      cases isQueued

theorem qbuf_of_step (stepped : streamStep stream event = some (next, emitted))
    (isQueued : .qbuf idx ∈ emitted) :
    (stream.buf_status idx).buf_refcnt = 1 ∧ idx ∈ next.kernel := by
  cases isRelease : stream.releases event with
  | none =>
    rw [emitted_of_not_releases isRelease stepped] at isQueued
    cases isQueued
  | some done =>
    obtain ⟨taken, queued, -, taking, released⟩ := streamStep_releases isRelease stepped
    have member : .qbuf idx ∈ (taken.bufDone done queued).2 := by
      rw [released]
      exact isQueued
    obtain ⟨rfl, isLast, inKernel⟩ := qbuf_of_bufDone member
    rw [released] at inKernel
    rw [taking.status] at isLast
    exact ⟨isLast, inKernel⟩

/--
A step of the guarded run that queues a buffer to the kernel releases it for
its last consumer, and no further consumer is to come.
-/
def RequeuesLast (stream : StreamState) (past : List StreamEvent) : Prop :=
  ∀ event next emitted idx, countsFirst stream past event →
    streamStep stream event = some (next, emitted) →
    .qbuf idx ∈ emitted → stream.consumers idx = 1 ∧ next.consumers idx = 0 ∧
        next.promised idx = false

/--
In every state that a guarded run reaches, the counts are the numbers of
consumers, a buffer in the kernel has no consumer, and only the last release
queues a buffer.
-/
theorem streamRun_accountingExact {start final : StreamState}
    {events : List StreamEvent} {log : List BufOutput} (registered : start.Registered)
    (guarded : LabelledRun.Guarded streamStep countsFirst start [] events)
    (ran : streamRun start events = some (final, log)) :
    AccountingExact final ∧ RequeuesLast final events := by
  have invariant := LabelledRun.stateInvariant_of_guarded BufferInvariant guarded ran
      (Registered_invariant registered) streamStep_invariant
  refine ⟨invariant.exact, ?_⟩
  intro event next emitted idx met stepped isQueued
  obtain ⟨isLast, inKernel⟩ := qbuf_of_step stepped isQueued
  have after := (streamStep_invariant invariant met stepped).exact
  exact ⟨(invariant.counted idx).symm.trans isLast, after.queued idx inKernel⟩

/-- A stream whose two buffers are queued. -/
def twoBuffers (bundled linked : Bool) (callbacks : List (Option Int)) : StreamState where
  batch := false
  is_bundled := bundled
  is_linked := linked
  buf_cb := callbacks
  buf_status := fun idx => if idx < 2 then ⟨0, true⟩ else ⟨0, false⟩
  kernel := [0, 1]
  poll := .idle
  bundle := []
  linkedBundle := []
  cmd_queue := []
  dispatch := .idle
  app := []

theorem twoBuffers_registered (bundled linked : Bool) (callbacks : List (Option Int)) :
    (twoBuffers bundled linked callbacks).Registered := by
  have once : [0, 1].Nodup := by decide
  refine ⟨rfl, rfl, rfl, rfl, rfl, once, ?_⟩
  intro idx
  by_cases isBuffer : idx < 2
  · refine .inl ⟨?_, rfl, if_pos isBuffer⟩
    have cases : idx = 0 ∨ idx = 1 := by omega
    simpa [twoBuffers] using cases
  · refine .inr ⟨?_, if_neg isBuffer⟩
    simp only [twoBuffers, List.mem_cons, List.not_mem_nil, or_false]
    omega

/-- A buffer with all kinds of consumers; the own channel is fast. -/
def sharedEvents : List StreamEvent :=
  [.readMsmFrame 1, .checkCb, .countRefs, .notifyChannel true, .bundleDone 1 true,
    .notifyLinked true, .enqueueCb true, .takeCb, .dispatchSlot, .dispatchSlot,
    .linkedDone 1 true, .dispatchDone true, .appDone 1 true]

/-- With a data callback the fast consumer does no harm. -/
theorem streamRun_accountingExact_shared : ∃ final log,
      streamRun (twoBuffers true true [some (-1)]) sharedEvents = some (final, log) ∧
        log = [.qbuf 1] ∧ final.kernel = [0, 1] ∧
        AccountingExact final ∧ RequeuesLast final sharedEvents :=
  ⟨_, _, rfl, rfl, rfl, @streamRun_accountingExact (twoBuffers true true [some (-1)]) _
      sharedEvents _ (twoBuffers_registered _ _ _) (by decide) rfl⟩

/-- Without a data callback the own channel releases too early. -/
def fastReleaseEvents : List StreamEvent :=
  [.readMsmFrame 1, .checkCb, .countRefs, .notifyChannel true, .bundleDone 1 true,
    .notifyLinked true]

/--
The buffer is queued to the kernel, and then counted for and given to the
linked channel.
-/
theorem streamRun_countsInKernel : (twoBuffers true true [none]).Registered ∧ ∃ final log,
        streamRun (twoBuffers true true [none]) fastReleaseEvents = some (final, log) ∧
          final.buf_status 1 = ⟨1, true⟩ ∧ 1 ∈ final.kernel ∧
          final.linkedBundle = [1] ∧ ¬ AccountingExact final := by
  refine ⟨twoBuffers_registered _ _ _, _, _, rfl, rfl, by decide, rfl, ?_⟩
  intro accounting
  exact absurd (accounting.inKernel 1 rfl) (by decide)

end AnglerHal.Stream
