import AnglerHal.MemoryPool

namespace AnglerHal.MemoryPool

/-!
# The allocation loop

What `alloc` does to one list of the pool: where its buffers go, which of them
are as requested, and when it succeeds.
-/

/-! ## Counting descriptors -/

@[simp] theorem countOf_nil (id : Nat) : countOf id [] = 0 :=
  rfl

@[simp] theorem countOf_append (id : Nat) (before after : List MemInfo) :
    countOf id (before ++ after) = countOf id before + countOf id after :=
  List.countP_append

@[simp] theorem countOf_reverse (id : Nat) (infos : List MemInfo) :
    countOf id infos.reverse = countOf id infos :=
  List.countP_reverse

theorem countOf_cons (id : Nat) (info : MemInfo) (rest : List MemInfo) : countOf id (info :: rest) =
      countOf id rest + if info.buffer.id = id then 1 else 0 := by
  simp [countOf, List.countP_cons]

/-- A nonempty list holds some buffer. -/
theorem exists_countOf_pos {infos : List MemInfo} (nonempty : infos ≠ []) :
    ∃ id, 0 < countOf id infos := by
  obtain ⟨info, rest, rfl⟩ := List.exists_cons_of_ne_nil nonempty
  exact ⟨info.buffer.id, by simp [countOf_cons]⟩

/-! ## Descriptors and their buffers -/

/-- A descriptor is one that `allocOneBuffer` filled in. -/
def MemInfo.Described (info : MemInfo) : Prop :=
  ∃ request : Request, info = request.allocOneBuffer info.buffer.id

theorem described_allocOneBuffer (request : Request) (id : Nat) :
    (request.allocOneBuffer id).Described :=
  ⟨request, rfl⟩

/-- The secure mode of a new buffer is that of its request. -/
@[simp] theorem secureMode_allocOneBuffer (request : Request) (id : Nat) :
    (request.allocOneBuffer id).buffer.secureMode = request.secureMode := by
  cases mode : request.secureMode with
  | nonSecure =>
    cases caching : request.cached <;>
      simp [IonBuffer.secureMode, Request.allocOneBuffer, Request.ionAlloc, mode, caching]
  | secure => simp [IonBuffer.secureMode, Request.allocOneBuffer, Request.ionAlloc, mode]

theorem secureMode_of_flags {buffer other : IonBuffer}
    (flags : buffer.alloc.flags = other.alloc.flags) :
    buffer.secureMode = other.secureMode := by
  simp only [IonBuffer.secureMode, flags]

variable {request : Request} {info found : MemInfo} {pool others : List MemInfo}
  {ion : Nat → Bool} {count i : Nat}

theorem asRequested_of_fits_iff (described : info.Described)
    (fits : request.fits info = true) :
    (Handed.mk request info).AsRequested ↔ info.buffer.secureMode = request.secureMode := by
  obtain ⟨origin, written⟩ := described
  simp only [Request.fits, Bool.and_eq_true, decide_eq_true_eq] at fits
  obtain ⟨⟨size, heapId⟩, cached⟩ := fits
  rw [written] at size heapId cached ⊢
  rw [secureMode_allocOneBuffer]
  have sameHeap : origin.heapId = request.heapId := heapId
  have sameCaching : origin.cached = request.cached := cached
  constructor
  · intro asked
    calc
      origin.secureMode = (origin.allocOneBuffer info.buffer.id).buffer.secureMode :=
        (secureMode_allocOneBuffer origin _).symm
      _ = (request.allocOneBuffer info.buffer.id).buffer.secureMode :=
        secureMode_of_flags asked.flags
      _ = request.secureMode :=
        secureMode_allocOneBuffer request _
  · intro sameMode
    have sameAlloc : origin.ionAlloc.flags = request.ionAlloc.flags ∧
          origin.ionAlloc.heapIdMask = request.ionAlloc.heapIdMask := by
      cases mode : request.secureMode <;>
        simp [Request.ionAlloc, sameMode, mode, sameHeap, sameCaching]
    exact ⟨size, heapId, cached, size, sameAlloc.1, sameAlloc.2⟩

theorem le_ionAlloc_len_iff (request : Request) : request.size ≤ request.ionAlloc.len ↔
      request.size ≤ request.sizeLimit := by
  cases mode : request.secureMode with
  | nonSecure =>
    simp only [Request.ionAlloc, Request.sizeLimit, mode, alignTo]
    omega
  | secure =>
    simp only [Request.ionAlloc, Request.sizeLimit, mode, alignTo]
    omega

theorem asRequested_allocOneBuffer_iff (request : Request) (id : Nat) :
    (Handed.mk request (request.allocOneBuffer id)).AsRequested ↔
      request.size ≤ request.sizeLimit := by
  rw [← le_ionAlloc_len_iff]
  constructor
  · intro asked
    exact asked.len
  · intro long
    exact ⟨long, rfl, rfl, long, rfl, rfl⟩

/-! ## Searching the pool -/

theorem fitting_of_findBufferLocked_none (missed : findBufferLocked request pool = none) :
    request.fitting pool = [] := by
  induction pool with
  | nil => rfl
  | cons info rest inductionHypothesis =>
    simp only [findBufferLocked] at missed
    split at missed
    · contradiction
    · rename_i unfit
      split at missed
      · rename_i restMissed
        simpa [Request.fitting, unfit] using inductionHypothesis restMissed
      · contradiction

/-- What a successful search takes from the list. -/
structure TakenFrom (request : Request) (pool : List MemInfo) (found : MemInfo)
    (others : List MemInfo) : Prop where
  fits : request.fits found = true
  fitting : request.fitting pool = found :: request.fitting others
  mem : ∀ info, info ∈ pool ↔ info = found ∨ info ∈ others
  count : ∀ id, countOf id pool = countOf id (found :: others)

theorem findBufferLocked_takenFrom
    (hit : findBufferLocked request pool = some (found, others)) :
    TakenFrom request pool found others := by
  induction pool generalizing others with
  | nil => simp [findBufferLocked] at hit
  | cons info rest inductionHypothesis =>
    simp only [findBufferLocked] at hit
    split at hit
    · rename_i fits
      cases hit
      exact {
        fits := fits
        fitting := by simp [Request.fitting, fits]
        mem := by simp
        count := fun _ => rfl }
    · rename_i unfit
      split at hit
      · contradiction
      · rename_i deeper restOthers restHit
        cases hit
        have taken := inductionHypothesis restHit
        exact {
          fits := taken.fits
          fitting := by
            have tail := taken.fitting
            simp only [Request.fitting] at tail ⊢
            simp [unfit, tail]
          mem := by
            intro other
            simp only [List.mem_cons, taken.mem]
            exact or_left_comm
          count := by
            intro id
            have tail := taken.count id
            simp only [countOf_cons] at tail ⊢
            omega }

/-! ## The loop -/

theorem goodBuffers_hit_iff (taken : TakenFrom request pool found others) :
    GoodBuffers request ion (count + 1) i pool ↔ found.buffer.secureMode = request.secureMode ∧
        GoodBuffers request ion count (i + 1) others := by
  have place : i + (request.fitting pool).length = i + 1 + (request.fitting others).length := by
    rw [taken.fitting, List.length_cons]
    omega
  constructor
  · rintro ⟨reused, fresh⟩
    simp only [taken.fitting, List.take_succ_cons, List.mem_cons, forall_eq_or_imp] at reused
    refine ⟨reused.1, reused.2, ?_⟩
    intro short allocates
    refine fresh ?_ (by rw [place]; exact allocates)
    rw [taken.fitting, List.length_cons]
    omega
  · rintro ⟨first, reused, fresh⟩
    constructor
    · simp only [taken.fitting, List.take_succ_cons, List.mem_cons, forall_eq_or_imp]
      exact ⟨first, reused⟩
    · intro short allocates
      rw [place] at allocates
      refine fresh ?_ allocates
      rw [taken.fitting, List.length_cons] at short
      omega

theorem goodBuffers_fresh_iff (missing : request.fitting pool = [])
    (allocates : ion i = true) :
    GoodBuffers request ion (count + 1) i pool ↔ request.size ≤ request.sizeLimit ∧
        GoodBuffers request ion count (i + 1) pool := by
  constructor
  · rintro ⟨_, fresh⟩
    have fits : request.size ≤ request.sizeLimit := by
      apply fresh
      · simp [missing]
      · simpa [missing] using allocates
    exact ⟨fits, by simp [missing], fun _ _ => fits⟩
  · rintro ⟨fits, _⟩
    exact ⟨by simp [missing], fun _ _ => fits⟩

theorem goodBuffers_of_failed (missing : request.fitting pool = [])
    (fails : ion i = false) :
    GoodBuffers request ion count i pool := by
  constructor
  · simp [missing]
  · intro _ allocates
    simp [missing, fails] at allocates

theorem ionSuffices_hit_iff (taken : TakenFrom request pool found others) :
    IonSuffices request ion (count + 1) i pool ↔ IonSuffices request ion count (i + 1) others := by
  unfold IonSuffices
  rw [taken.fitting, List.length_cons]
  constructor
  · intro served slot low high
    exact served slot (by omega) (by omega)
  · intro served slot low high
    exact served slot (by omega) (by omega)

theorem ionSuffices_fresh_iff (missing : request.fitting pool = [])
    (allocates : ion i = true) :
    IonSuffices request ion (count + 1) i pool ↔ IonSuffices request ion count (i + 1) pool := by
  unfold IonSuffices
  rw [missing, List.length_nil]
  constructor
  · intro served slot low high
    exact served slot (by omega) (by omega)
  · intro served slot low high
    by_cases first : slot = i
    · rw [first]
      exact allocates
    · exact served slot (by omega) (by omega)

theorem allocLoop_succ {next after : Nat} (count : Nat)
    (given : allocateBuffer request (ion i) pool next = some (info, others, after)) :
    allocLoop request ion (count + 1) i pool next =
      { allocLoop request ion count (i + 1) others after with
        handed :=
          info :: (allocLoop request ion count (i + 1) others after).handed } := by
  simp only [allocLoop, given]

theorem allocateBuffer_cases (request : Request) (ionAllocates : Bool) (pool : List MemInfo)
    (next : Nat) :
    (∃ found others, TakenFrom request pool found others ∧
        allocateBuffer request ionAllocates pool next = some (found, others, next)) ∨
    (request.fitting pool = [] ∧ ionAllocates = true ∧
      allocateBuffer request ionAllocates pool next =
        some (request.allocOneBuffer next, pool, next + 1)) ∨
    (request.fitting pool = [] ∧ ionAllocates = false ∧
      allocateBuffer request ionAllocates pool next = none) := by
  cases search : findBufferLocked request pool with
  | some result =>
    obtain ⟨found, others⟩ := result
    exact .inl ⟨found, others, findBufferLocked_takenFrom search,
      by simp only [allocateBuffer, search]⟩
  | none =>
    have missing := fitting_of_findBufferLocked_none search
    cases ionAllocates with
    | true =>
      exact .inr (.inl ⟨missing, rfl, by
        simp only [allocateBuffer, search, if_true]⟩)
    | false =>
      exact .inr (.inr ⟨missing, rfl, by
        simp only [allocateBuffer, search, Bool.false_eq_true, if_false]⟩)

/-- What the loop does to the buffers of the list. -/
structure LoopSpec (request : Request) (ion : Nat → Bool) (count i : Nat) (pool : List MemInfo)
    (next : Nat)
    (done : LoopResult) : Prop where
  counts : ∀ id, countOf id done.handed + countOf id done.pool + (if id < next then 1 else 0) =
        countOf id pool + if id < done.next then 1 else 0
  next_le : next ≤ done.next
  described : ∀ info, info ∈ done.handed ∨ info ∈ done.pool → info.Described
  asRequested : (∀ info ∈ done.handed, (Handed.mk request info).AsRequested) ↔
      GoodBuffers request ion count i pool
  succeeded : done.succeeded = true ↔ IonSuffices request ion count i pool
  length : done.succeeded = true → done.handed.length = count

/-- The loop, by induction on the buffers still to be allocated. -/
theorem allocLoop_spec (request : Request) (ion : Nat → Bool) (count i : Nat)
    (pool : List MemInfo) (next : Nat) (described : ∀ info ∈ pool, info.Described) :
    LoopSpec request ion count i pool next
      (allocLoop request ion count i pool next) := by
  induction count generalizing i pool next with
  | zero =>
    exact {
      counts := fun id =>
        congrArg (· + if id < next then 1 else 0) (Nat.zero_add (countOf id pool))
      next_le := Nat.le_refl next
      described := by simpa [allocLoop] using described
      asRequested :=
        ⟨fun _ => ⟨by simp, fun short => absurd short (by simp)⟩, fun _ => by simp [allocLoop]⟩
      succeeded := by
        simp only [allocLoop, IonSuffices, true_iff]
        intro slot low high
        omega
      length := fun _ => rfl }
  | succ count inductionHypothesis =>
    rcases allocateBuffer_cases request (ion i) pool next with
      ⟨found, others, taken, given⟩ | ⟨missing, allocates, given⟩ | ⟨missing, fails, given⟩
    · have foundDescribed : found.Described := described found ((taken.mem found).mpr (.inl rfl))
      have later := inductionHypothesis (i + 1) others next fun info member =>
          described info ((taken.mem info).mpr (.inr member))
      rw [allocLoop_succ count given]
      exact {
        counts := by
          intro id
          have held := later.counts id
          rw [taken.count id]
          simp only [countOf_cons]
          omega
        next_le := later.next_le
        described := by
          simp only [List.mem_cons]
          rintro info ((rfl | handed) | kept)
          · exact foundDescribed
          · exact later.described info (.inl handed)
          · exact later.described info (.inr kept)
        asRequested := by
          rw [goodBuffers_hit_iff taken, ← later.asRequested,
            ← asRequested_of_fits_iff foundDescribed taken.fits]
          exact List.forall_mem_cons
        succeeded := by
          rw [ionSuffices_hit_iff taken]
          exact later.succeeded
        length := fun completed => by
          rw [List.length_cons, later.length completed] }
    · have later := inductionHypothesis (i + 1) pool (next + 1) described
      rw [allocLoop_succ count given]
      exact {
        counts := by
          intro id
          have held := later.counts id
          have after := later.next_le
          simp only [countOf_cons, Request.allocOneBuffer]
          split_ifs at held ⊢ <;> omega
        next_le := Nat.le_of_succ_le later.next_le
        described := by
          simp only [List.mem_cons]
          rintro info ((rfl | handed) | kept)
          · exact described_allocOneBuffer request next
          · exact later.described info (.inl handed)
          · exact later.described info (.inr kept)
        asRequested := by
          rw [goodBuffers_fresh_iff missing allocates, ← later.asRequested,
            ← asRequested_allocOneBuffer_iff request next]
          exact List.forall_mem_cons
        succeeded := by
          rw [ionSuffices_fresh_iff missing allocates]
          exact later.succeeded
        length := fun completed => by
          rw [List.length_cons, later.length completed] }
    · simp only [allocLoop, given]
      exact {
        counts := fun id => by simp
        next_le := Nat.le_refl next
        described := by simpa using described
        asRequested :=
          ⟨fun _ => goodBuffers_of_failed missing fails, by simp⟩
        succeeded := by
          refine ⟨fun contra => absurd contra (by simp), ?_⟩
          intro served
          have first := served i (by simp [missing]) (by omega)
          rw [fails] at first
          exact first
        length := fun contra => absurd contra (by simp) }

end AnglerHal.MemoryPool
