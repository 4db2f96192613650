import AnglerHal.PoolLoop

namespace AnglerHal.MemoryPool

open LabelledRun

/-!
# Ownership of the pooled buffers

Every call keeps the buffers accounted for and hands out what was requested
exactly when it is `Safe`.
-/

/-! ## Replacing one list -/

variable {lists : List (List MemInfo)} {i object : Nat} {info : MemInfo}
  {state : PoolState} {memory : StreamMemory} {pool : List MemInfo}
  {past : List PoolEvent} {event : PoolEvent} {result : PoolState × List Handed}

theorem countOf_flatten_set {old : List MemInfo} (here : lists[i]? = some old)
    (new : List MemInfo) (id : Nat) :
    countOf id (lists.set i new).flatten + countOf id old =
      countOf id lists.flatten + countOf id new := by
  induction lists generalizing i with
  | nil => simp at here
  | cons first rest inductionHypothesis =>
    cases i with
    | zero =>
      simp only [List.getElem?_cons_zero, Option.some.injEq] at here
      subst here
      simp only [List.set_cons_zero, List.flatten_cons, countOf_append]
      omega
    | succ i =>
      simp only [List.getElem?_cons_succ] at here
      have held := inductionHypothesis here
      simp only [List.set_cons_succ, List.flatten_cons, countOf_append]
      omega

theorem mem_flatten_set {new : List MemInfo} (member : info ∈ (lists.set i new).flatten) :
    info ∈ lists.flatten ∨ info ∈ new := by
  obtain ⟨infos, listed, member⟩ := List.mem_flatten.mp member
  rcases List.mem_or_eq_of_mem_set listed with old | replaced
  · exact .inl (List.mem_flatten.mpr ⟨infos, old, member⟩)
  · exact .inr (replaced ▸ member)

theorem find_eq_some (found : state.find object = some (memory, pool)) :
    state.objects[object]? = some memory ∧ state.mPools[memory.streamType]? = some pool := by
  simp only [PoolState.find] at found
  split at found
  · contradiction
  · rename_i here
    split at found
    · contradiction
    · rename_i listed
      cases found
      exact ⟨here, listed⟩

section Write

variable (found : state.find object = some (memory, pool))

include found

theorem countOf_places_write (memInfo pool' : List MemInfo) (id : Nat) :
    countOf id (state.write object memory memInfo pool').places +
        countOf id memory.memInfo + countOf id pool =
      countOf id state.places + countOf id memInfo + countOf id pool' := by
  obtain ⟨here, listed⟩ := find_eq_some found
  have slots : (state.objects.map StreamMemory.memInfo)[object]? = some memory.memInfo := by
    rw [List.getElem?_map, here]
    rfl
  have objects := countOf_flatten_set slots memInfo id
  have pools := countOf_flatten_set listed pool' id
  simp only [PoolState.places, PoolState.write, countOf_append, List.map_set]
  omega

theorem mem_places (member : info ∈ memory.memInfo ∨ info ∈ pool) :
    info ∈ state.places := by
  obtain ⟨here, listed⟩ := find_eq_some found
  rcases member with slot | pooled
  · exact List.mem_append_right _ (List.mem_flatten.mpr
      ⟨_, List.mem_map_of_mem (List.mem_of_getElem? here), slot⟩)
  · exact List.mem_append_left _ (List.mem_flatten.mpr ⟨_, List.mem_of_getElem? listed, pooled⟩)

end Write

theorem mem_places_write {memInfo pool' : List MemInfo}
    (member : info ∈ (state.write object memory memInfo pool').places) :
    info ∈ state.places ∨ info ∈ memInfo ∨ info ∈ pool' := by
  simp only [PoolState.places, PoolState.write, List.mem_append, List.map_set] at member
  rcases member with pooled | slot
  · rcases mem_flatten_set pooled with old | new
    · exact .inl (List.mem_append_left _ old)
    · exact .inr (.inr new)
  · rcases mem_flatten_set slot with old | new
    · exact .inl (List.mem_append_right _ old)
    · exact .inr (.inl new)

/-! ## Accounting -/

theorem countOf_eq_zero_iff {infos : List MemInfo} : (∀ id, countOf id infos = 0) ↔ infos = [] := by
  constructor
  · intro absent
    by_contra nonempty
    obtain ⟨id, present⟩ := exists_countOf_pos nonempty
    rw [absent id] at present
    exact absurd present (Nat.lt_irrefl 0)
  · rintro rfl id
    rfl

theorem accounted_iff_of_lost {lost : List MemInfo} (balance : ∀ id,
        countOf id state.places + countOf id lost + state.freed.count id =
          if id < state.next then 1 else 0) :
    state.Accounted ↔ lost = [] := by
  rw [← countOf_eq_zero_iff]
  constructor
  · intro accounted id
    have all := balance id
    rw [← accounted id] at all
    omega
  · intro none id
    have all := balance id
    rw [none id] at all
    exact all

theorem accounted_iff_of_doubled {doubled : List MemInfo} (balance : ∀ id,
        countOf id state.places + state.freed.count id =
          (if id < state.next then 1 else 0) + countOf id doubled) :
    state.Accounted ↔ doubled = [] := by
  rw [← countOf_eq_zero_iff]
  constructor
  · intro accounted id
    have all := balance id
    rw [accounted id] at all
    omega
  · intro none id
    have all := balance id
    rw [none id] at all
    exact all

/-- The account holds, and every descriptor is one that was filled in. -/
structure PoolInv (state : PoolState) : Prop where
  accounted : state.Accounted
  described : ∀ info ∈ state.places, info.Described

theorem poolInv_created (kinds : List (Bool × Nat)) : PoolInv (.created kinds) := by
  have empty : (PoolState.created kinds).places = [] := by
    simp only [PoolState.places, PoolState.created, List.map_map,
      List.append_eq_nil_iff, List.flatten_eq_nil_iff]
    constructor
    · intro infos member
      exact List.eq_of_mem_replicate member
    · intro infos member
      obtain ⟨kind, _, rfl⟩ := List.mem_map.mp member
      rfl
  constructor
  · intro id
    rw [empty]
    simp [PoolState.created]
  · simp [empty]

/-! ## Allocation -/

section Alloc

variable (inv : PoolInv state) (found : state.find object = some (memory, pool))
  (request : Request) (count : Nat) (ion : Nat → Bool)

include inv found

theorem alloc_loopSpec : LoopSpec request ion count memory.memInfo.length pool state.next
      (allocLoop request ion count memory.memInfo.length pool state.next) :=
  allocLoop_spec request ion count _ pool state.next fun info pooled =>
    inv.described info (mem_places found (.inr pooled))

theorem alloc_asRequested_iff (mBufferCount : Nat) : (∀ handed ∈
        (state.alloc object memory pool request count ion mBufferCount).2,
      handed.AsRequested) ↔
      GoodBuffers request ion count memory.memInfo.length pool := by
  rw [← (alloc_loopSpec inv found request count ion).asRequested]
  simp only [PoolState.alloc]
  split <;> exact List.forall_mem_map

theorem alloc_accounted_iff_of_suffices {mBufferCount : Nat}
    (served : IonSuffices request ion count memory.memInfo.length pool) :
    (state.alloc object memory pool request count ion mBufferCount).1.Accounted ↔
      memory.memInfo.length + count ≤ mBufferCount := by
  have spec := alloc_loopSpec inv found request count ion
  have completed := spec.succeeded.mpr served
  have length := spec.length completed
  simp only [PoolState.alloc, completed, if_true]
  generalize allocLoop request ion count memory.memInfo.length pool state.next = done at *
  rw [← length, ← List.length_append, ← List.drop_eq_nil_iff]
  apply accounted_iff_of_lost
  intro id
  have written :=
    countOf_places_write found ((memory.memInfo ++ done.handed).take mBufferCount) done.pool id
  have split : countOf id ((memory.memInfo ++ done.handed).take mBufferCount) +
          countOf id ((memory.memInfo ++ done.handed).drop mBufferCount) =
        countOf id memory.memInfo + countOf id done.handed := by
    rw [← countOf_append, List.take_append_drop, countOf_append]
  have counts := spec.counts id
  have before := inv.accounted id
  have balance : countOf id (state.write object memory
              ((memory.memInfo ++ done.handed).take mBufferCount)
              done.pool).places +
          countOf id ((memory.memInfo ++ done.handed).drop mBufferCount) +
          state.freed.count id =
        if id < done.next then 1 else 0 := by
    omega
  exact balance

theorem alloc_accounted_iff_of_not_suffices (mBufferCount : Nat)
    (missing : ¬ IonSuffices request ion count memory.memInfo.length pool) :
    (state.alloc object memory pool request count ion mBufferCount).1.Accounted ↔
      memory.memInfo = [] := by
  have spec := alloc_loopSpec inv found request count ion
  have failed := mt spec.succeeded.mp missing
  simp only [PoolState.alloc, failed]
  generalize allocLoop request ion count memory.memInfo.length pool state.next = done at *
  apply accounted_iff_of_doubled
  intro id
  have written := countOf_places_write found memory.memInfo
      (done.pool ++ (memory.memInfo ++ done.handed).reverse) id
  have counts := spec.counts id
  have before := inv.accounted id
  simp only [countOf_append, countOf_reverse] at written
  have balance : countOf id (state.write object memory memory.memInfo
              (done.pool ++ (memory.memInfo ++ done.handed).reverse)).places +
          state.freed.count id =
        (if id < done.next then 1 else 0) + countOf id memory.memInfo := by
    omega
  exact balance

theorem alloc_described (mBufferCount : Nat) : ∀ info ∈
        (state.alloc object memory pool request count ion mBufferCount).1.places,
      info.Described := by
  have spec := alloc_loopSpec inv found request count ion
  have slots : ∀ info ∈ memory.memInfo, info.Described :=
    fun info slot => inv.described info (mem_places found (.inl slot))
  intro info member
  simp only [PoolState.alloc] at member
  split at member
  · rcases mem_places_write member with old | kept | pooled
    · exact inv.described info old
    · rcases List.mem_append.mp (List.mem_of_mem_take kept) with slot | handed
      · exact slots info slot
      · exact spec.described info (.inl handed)
    · exact spec.described info (.inr pooled)
  · rcases mem_places_write member with old | slot | pooled
    · exact inv.described info old
    · exact slots info slot
    · rw [List.mem_append, List.mem_reverse, List.mem_append] at pooled
      rcases pooled with pooled | slot | handed
      · exact spec.described info (.inr pooled)
      · exact slots info slot
      · exact spec.described info (.inl handed)

end Alloc

/-! ## Calls -/

/-- What `SoundStep` asks of the result of a call. -/
def SoundAfter (result : PoolState × List Handed) : Prop :=
  result.1.Accounted ∧ ∀ handed ∈ result.2, handed.AsRequested

theorem soundStep_iff_soundAfter (stepped : poolStep state event = some result) :
    SoundStep state past event ↔ SoundAfter result := by
  constructor
  · intro sound
    exact sound result.1 result.2 stepped
  · intro sound next emitted steppedTo
    rw [stepped, Option.some.injEq] at steppedTo
    rw [steppedTo] at sound
    exact sound

theorem forall_found_iff (found : state.find object = some (memory, pool))
    (condition : StreamMemory → List MemInfo → Prop) :
    (∀ memory' pool', state.find object = some (memory', pool') → condition memory' pool') ↔
      condition memory pool := by
  constructor
  · intro all
    exact all memory pool found
  · intro here memory' pool' found'
    rw [found, Option.some.injEq, Prod.mk.injEq] at found'
    rw [← found'.1, ← found'.2]
    exact here

theorem allocChecked_soundAfter_iff (inv : PoolInv state)
    (found : state.find object = some (memory, pool)) (request : Request) (count : Nat)
    (ion : Nat → Bool) (mBufferCount : Nat) :
    SoundAfter (state.allocChecked object memory pool request count ion mBufferCount) ↔
      (memory.memInfo.length + count ≤ mmCameraMaxNumFrames →
        (state.alloc object memory pool request count ion mBufferCount).1.Accounted ∧
          GoodBuffers request ion count memory.memInfo.length pool) := by
  unfold PoolState.allocChecked
  split
  · rename_i tooMany
    constructor
    · intro _ within
      exact absurd within (Nat.not_le.mpr tooMany)
    · intro _
      exact ⟨inv.accounted, by simp⟩
  · rename_i enough
    have within := Nat.not_lt.mp enough
    rw [SoundAfter, alloc_asRequested_iff inv found]
    exact ⟨fun sound _ => sound, fun sound => sound within⟩

theorem allocate_sound_iff (inv : PoolInv state) (object count size : Nat)
    (isSecure : SecureMode) (ion : Nat → Bool) :
    SoundStep state past (.allocate object count size isSecure ion) ↔
      Safe state past (.allocate object count size isSecure ion) := by
  cases found : state.find object with
  | none => simp [SoundStep, Safe, poolStep, found]
  | some lists =>
    obtain ⟨memory, pool⟩ := lists
    rw [soundStep_iff_soundAfter (by simp only [poolStep, found]; rfl),
      allocChecked_soundAfter_iff inv found, Safe,
      forall_found_iff found fun memory pool =>
        memory.memInfo.length + count ≤ mmCameraMaxNumFrames → memory.memInfo = [] ∧
            GoodBuffers (memory.request size isSecure) ion count memory.memInfo.length pool]
    apply imp_congr_right
    intro _
    apply and_congr_left
    intro _
    by_cases served : IonSuffices (memory.request size isSecure) ion count
          memory.memInfo.length pool
    · rw [alloc_accounted_iff_of_suffices inv found _ _ _ served, ← List.length_eq_zero_iff]
      omega
    · exact alloc_accounted_iff_of_not_suffices inv found _ _ _ _ served

/--
`allocateMore` is sound when it gets good buffers, and gets all of them if its
object has some.
-/
theorem allocateMore_sound_iff (inv : PoolInv state) (object count size : Nat)
    (ion : Nat → Bool) :
    SoundStep state past (.allocateMore object count size ion) ↔
      Safe state past (.allocateMore object count size ion) := by
  cases found : state.find object with
  | none => simp [SoundStep, Safe, poolStep, found]
  | some lists =>
    obtain ⟨memory, pool⟩ := lists
    rw [soundStep_iff_soundAfter (by simp only [poolStep, found]; rfl),
      allocChecked_soundAfter_iff inv found, Safe,
      forall_found_iff found fun memory pool =>
        memory.memInfo.length + count ≤ mmCameraMaxNumFrames → (memory.memInfo ≠ [] →
            IonSuffices (memory.request size .nonSecure) ion count memory.memInfo.length pool) ∧
            GoodBuffers (memory.request size .nonSecure) ion count memory.memInfo.length pool]
    apply imp_congr_right
    intro _
    apply and_congr_left
    intro _
    by_cases served : IonSuffices (memory.request size .nonSecure) ion count
          memory.memInfo.length pool
    · rw [alloc_accounted_iff_of_suffices inv found _ _ _ served]
      exact ⟨fun _ _ => served, fun _ => Nat.le_refl _⟩
    · rw [alloc_accounted_iff_of_not_suffices inv found _ _ _ _ served]
      constructor
      · intro empty nonempty
        exact absurd empty nonempty
      · intro required
        by_contra nonempty
        exact served (required nonempty)

theorem deallocate_sound (inv : PoolInv state) (object : Nat) :
    SoundStep state past (.deallocate object) := by
  cases found : state.find object with
  | none => simp [SoundStep, poolStep, found]
  | some lists =>
    obtain ⟨memory, pool⟩ := lists
    rw [soundStep_iff_soundAfter (by simp only [poolStep, found]; rfl)]
    refine ⟨?_, by simp⟩
    intro id
    have written := countOf_places_write found [] (pool ++ memory.memInfo) id
    have before := inv.accounted id
    simp only [countOf_append, countOf_nil] at written
    have balance : countOf id (state.write object memory [] (pool ++ memory.memInfo)).places +
            state.freed.count id =
          if id < state.next then 1 else 0 := by
      omega
    exact balance

theorem flatten_map_nil (lists : List (List MemInfo)) :
    (lists.map fun _ => ([] : List MemInfo)).flatten = [] := by
  rw [List.flatten_eq_nil_iff]
  intro infos member
  obtain ⟨_, _, rfl⟩ := List.mem_map.mp member
  rfl

theorem count_map_id (id : Nat) (infos : List MemInfo) :
    (infos.map fun info => info.buffer.id).count id = countOf id infos := by
  simp only [List.count, countOf, List.countP_map]
  rfl

theorem clear_sound (inv : PoolInv state) :
    SoundStep state past .clear := by
  rw [soundStep_iff_soundAfter rfl]
  refine ⟨?_, by simp⟩
  intro id
  have before := inv.accounted id
  simp only [PoolState.places, countOf_append] at before
  simp only [PoolState.places, flatten_map_nil, List.nil_append, List.count_append, count_map_id]
  omega

theorem sound_iff_safe (inv : PoolInv state) (event : PoolEvent) :
    SoundStep state past event ↔ Safe state past event := by
  cases event with
  | allocate object count size isSecure ion =>
    exact allocate_sound_iff inv object count size isSecure ion
  | allocateMore object count size ion => exact allocateMore_sound_iff inv object count size ion
  | deallocate object => exact iff_of_true (deallocate_sound inv object) trivial
  | clear => exact iff_of_true (clear_sound inv) trivial

/-! ## Runs -/

theorem described_of_step (inv : PoolInv state)
    (stepped : poolStep state event = some result) :
    ∀ info ∈ result.1.places, info.Described := by
  have checked {object : Nat} {memory : StreamMemory} {pool : List MemInfo}
      (found : state.find object = some (memory, pool))
      (request : Request) (count : Nat) (ion : Nat → Bool)
      (mBufferCount : Nat) :
      ∀ info ∈ (state.allocChecked object memory pool request count ion mBufferCount).1.places,
        info.Described := by
    unfold PoolState.allocChecked
    split
    · exact inv.described
    · exact alloc_described inv found request count ion mBufferCount
  cases event with
  | allocate object count size isSecure ion =>
    simp only [poolStep] at stepped
    split at stepped
    · contradiction
    · rename_i memory pool found
      obtain rfl := Option.some.inj stepped
      exact checked found _ _ _ _
  | allocateMore object count size ion =>
    simp only [poolStep] at stepped
    split at stepped
    · contradiction
    · rename_i memory pool found
      obtain rfl := Option.some.inj stepped
      exact checked found _ _ _ _
  | deallocate object =>
    simp only [poolStep] at stepped
    split at stepped
    · contradiction
    · rename_i memory pool found
      obtain rfl := Option.some.inj stepped
      intro info member
      rcases mem_places_write member with old | slot | pooled
      · exact inv.described info old
      · exact absurd slot List.not_mem_nil
      · exact inv.described info (mem_places found (List.mem_append.mp pooled).symm)
  | clear =>
    simp only [poolStep] at stepped
    obtain rfl := Option.some.inj stepped
    intro info member
    simp only [PoolState.places, flatten_map_nil, List.nil_append] at member
    exact inv.described info (List.mem_append_right _ member)

/--
Along every run of calls on new objects, all buffers are accounted for and
handed out as requested exactly when every call is safe.
-/
theorem poolRun_sound_iff (kinds : List (Bool × Nat)) (events : List PoolEvent) :
    Guarded poolStep SoundStep (.created kinds) [] events ↔
      Guarded poolStep Safe (.created kinds) [] events := by
  refine guarded_iff_of_invariant PoolInv
    (fun inv => sound_iff_safe inv _) ?_ (poolInv_created kinds)
  intro state past event next emitted inv sound stepped
  exact {
    accounted := (sound next emitted stepped).1
    described := described_of_step inv stepped }

/--
An object with one buffer asks for another one, and ION has none: the way back
releases the buffer that the object keeps.
-/
theorem allocateMore_failure_doubles_buffer :
    ¬ Guarded poolStep SoundStep (.created [(false, 1)]) []
      ([PoolEvent.allocate 0 1 4096 .nonSecure fun _ => true] ++
        [PoolEvent.allocateMore 0 1 4096 fun _ => false]) := by
  intro sound
  have after := ((sound.last rfl) _ _ rfl).1 0
  exact absurd after (by decide)

end AnglerHal.MemoryPool
