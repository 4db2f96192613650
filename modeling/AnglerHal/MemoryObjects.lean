import AnglerHal.MemoryPool
import AnglerHal.StepTrace

namespace AnglerHal.MemoryObjects

open MemoryPool StepTrace

variable {turns total secured : Nat} {isSecure : SecureMode} {userptr : Bool}

/-!
# Memory objects without a pool

`QCameraHeapMemory`, `QCameraStreamMemory` and `QCameraVideoMemory` fill the slots of
their arrays with what ION, `mmap`, `mGetMemory` and `native_handle_create` give them.
Everything that is acquired has a number, and a slot has the numbers of what it holds.
-/

/-! ## Loops -/

section Loops

variable {State : Type}

/-- A loop upwards that a turn may end: the turns before it succeed. -/
def forUp (body : Nat → State → State × Bool) : Nat → State → State × Bool
  | 0, state => (state, true)
  | turns + 1, state =>
    match forUp body turns state with
    | (state, true) => body turns state
    | (state, false) => (state, false)

/-- A loop upwards. -/
def upTo (body : Nat → State → State) : Nat → State → State
  | 0, state => state
  | turns + 1, state => body turns (upTo body turns state)

/-- A loop downwards. -/
def downTo (body : Nat → State → State) : Nat → State → State
  | 0, state => state
  | turns + 1, state => downTo body turns (body turns state)

/-- The rule for a loop: every turn keeps the invariant, or ends the loop. -/
theorem forUp_rule (body : Nat → State → State × Bool) {state : State}
    (invariant : Nat → State → Prop) (failed : State → Prop) (start : invariant 0 state)
    (turn : ∀ turn < turns, ∀ state, invariant turn state →
      (∃ next, body turn state = (next, true) ∧ invariant (turn + 1) next) ∨
        ∃ next, body turn state = (next, false) ∧ failed next) :
    (∃ after, forUp body turns state = (after, true) ∧ invariant turns after) ∨
      ∃ after, forUp body turns state = (after, false) ∧ failed after := by
  induction turns with
  | zero => exact .inl ⟨state, rfl, start⟩
  | succ turns inductionHypothesis =>
    rw [forUp]
    rcases inductionHypothesis fun earlier lt => turn earlier (Nat.lt_succ_of_lt lt) with
      ⟨after, ends, kept⟩ | ⟨after, ends, lost⟩
    · rw [ends]
      exact turn turns (Nat.lt_succ_self turns) after kept
    · rw [ends]
      exact .inr ⟨after, rfl, lost⟩

/-- What each turn keeps holds after the loop. -/
theorem upTo_rule (body : Nat → State → State) (invariant : Nat → State → Prop)
    {state : State} (start : invariant 0 state)
    (keeps : ∀ turn < turns, ∀ state, invariant turn state →
      invariant (turn + 1) (body turn state)) :
    invariant turns (upTo body turns state) := by
  induction turns with
  | zero => exact start
  | succ turns inductionHypothesis =>
    exact keeps turns (Nat.lt_succ_self turns) _
      (inductionHypothesis fun turn lt => keeps turn (Nat.lt_succ_of_lt lt))

end Loops

/-! ## The objects -/

/-- The arrays of the classes. -/
inductive Member where
  | mMemInfo
  | mPtr
  | mCameraMemory
  | mMetadata
  | mNativeHandles
  deriving DecidableEq

/-- How many things a slot holds: `fd`, `handle` and `main_ion_fd` of `QCameraMemInfo`, or one. -/
def Member.width : Member → Nat
  | .mMemInfo => 3
  | _ => 1

/-- The classes; `mBufType` of a video memory is `CAM_STREAM_BUF_TYPE_USERPTR` or not. -/
inductive Kind where
  | heap
  | stream
  | video (userptr : Bool)
  deriving DecidableEq

/-- An object, and what has been acquired and released for it. -/
structure Memory where
  mBufferCount : Nat
  mMetaBufCount : Nat
  /-- What each slot holds: nothing, where it is `NULL` or -1. -/
  slot : Member → Nat → List Nat
  /-- How many of the buffers are secure, which nobody maps. -/
  secured : Nat
  next : Nat
  released : List Nat
  /-- A `NULL` was dereferenced, or an array was indexed outside of it. -/
  faulted : Bool

/-- A new object; nothing sets the native handles. -/
def Memory.created (uninit : Nat → List Nat) : Memory where
  mBufferCount := 0
  mMetaBufCount := 0
  slot := fun member index => if member = .mNativeHandles then uninit index else []
  secured := 0
  next := 0
  released := []
  faulted := false

/-- What ION does with a request for a buffer. -/
inductive IonOutcome where
  | gives
  | openFails
  | allocFails
  | shareFails
  deriving DecidableEq

/-- What happens in a call, for each slot. -/
structure Outcomes where
  ion : Nat → IonOutcome
  mmap : Nat → Bool
  mGetMemory : Nat → Bool
  /-- `mGetMemory` for the metadata. -/
  mGetMetadata : Nat → Bool
  native_handle_create : Nat → Bool

/-- The calls on an object. -/
inductive Call where
  | allocate (count : Nat) (isSecure : SecureMode) (outcomes : Outcomes)
  | allocateMore (count : Nat) (outcomes : Outcomes)
  | deallocate

namespace Memory

/-- Writes a slot. -/
def put (member : Member) (index : Nat) (ids : List Nat) (memory : Memory) : Memory :=
  { memory with
    slot := Function.update memory.slot member
      (Function.update (memory.slot member) index ids) }

/-- A slot gets what is acquired for it. -/
def acquire (member : Member) (index : Nat) (memory : Memory) : Memory :=
  { memory.put member index (List.range' memory.next member.width) with
    next := memory.next + member.width }

/-- What a slot holds is released, and the slot cleared. -/
def release (member : Member) (index : Nat) (memory : Memory) : Memory :=
  { memory.put member index [] with released := memory.released ++ memory.slot member index }

/-- What a slot holds is released, and the slot left as it is. -/
def drop (member : Member) (index : Nat) (memory : Memory) : Memory :=
  { memory with released := memory.released ++ memory.slot member index }

/-- `->` on a pointer. -/
def deref (member : Member) (index : Nat) (memory : Memory) : Memory :=
  { memory with faulted := memory.faulted || (memory.slot member index).isEmpty }

/-- What is acquired and released again at once. -/
def spend (count : Nat) (memory : Memory) : Memory :=
  { memory with
    next := memory.next + count
    released := memory.released ++ (List.range' memory.next count).reverse }

/-- `allocOneBuffer` for the descriptor in a slot. -/
def allocOneBuffer (outcome : IonOutcome) (index : Nat) (memory : Memory) : Memory × Bool :=
  match outcome with
  | .gives => (memory.acquire .mMemInfo index, true)
  | .openFails => (memory, false)
  | .allocFails => (memory.spend 1, false)
  | .shareFails => (memory.spend 2, false)

/-- `deallocOneBuffer` for the descriptor in a slot. -/
def deallocOneBuffer (index : Nat) (memory : Memory) : Memory :=
  memory.release .mMemInfo index

/-- A turn of `alloc`: on failure all the slots below are released. -/
def allocTurn (outcomes : Outcomes) (index : Nat) (memory : Memory) : Memory × Bool :=
  match memory.allocOneBuffer (outcomes.ion index) index with
  | (memory, true) => (memory, true)
  | (memory, false) => (downTo deallocOneBuffer index memory, false)

/-- `alloc` without a pool. -/
def alloc (outcomes : Outcomes) (count : Nat) (memory : Memory) : Memory × Bool :=
  if memory.mBufferCount + count > mmCameraMaxNumFrames then
    (memory, false)
  else
    forUp (fun turn => allocTurn outcomes (memory.mBufferCount + turn)) count memory

/-- `dealloc` without a pool. -/
def dealloc (memory : Memory) : Memory :=
  upTo deallocOneBuffer memory.mBufferCount memory

/-! ### `QCameraHeapMemory` -/

/-- The loop that maps the buffers from a slot on. -/
def mapBuffers (outcomes : Outcomes) (first count : Nat) (memory : Memory) : Memory × Bool :=
  forUp (fun turn memory =>
    if outcomes.mmap (first + turn) then
      (memory.acquire .mPtr (first + turn), true)
    else
      (downTo (fun back memory =>
        (memory.release .mPtr (first + back)).deallocOneBuffer (first + back)) turn memory,
          false)) count memory

/-- `QCameraHeapMemory::allocate`. -/
def heapAllocate (count : Nat) (isSecure : SecureMode) (outcomes : Outcomes) (memory : Memory) :
    Memory × Bool :=
  match memory.alloc outcomes count with
  | (memory, false) => (memory, false)
  | (memory, true) =>
    match isSecure with
    | .secure => ({ memory with mBufferCount := count, secured := count }, true)
    | .nonSecure =>
      match memory.mapBuffers outcomes 0 count with
      | (memory, false) => (memory, false)
      | (memory, true) => ({ memory with mBufferCount := count }, true)

/-- `QCameraHeapMemory::allocateMore`. -/
def heapAllocateMore (count : Nat) (outcomes : Outcomes) (memory : Memory) : Memory × Bool :=
  match memory.alloc outcomes count with
  | (memory, false) => (memory, false)
  | (memory, true) =>
    match memory.mapBuffers outcomes memory.mBufferCount count with
    | (memory, false) => (memory, false)
    | (memory, true) => ({ memory with mBufferCount := memory.mBufferCount + count }, true)

/-- `QCameraHeapMemory::deallocate`. -/
def heapDeallocate (memory : Memory) : Memory :=
  { (upTo (release .mPtr) memory.mBufferCount memory).dealloc with
    mBufferCount := 0
    secured := 0 }

/-! ### `QCameraStreamMemory` -/

/-- The loop that gets the camera memories from a slot on. -/
def getMemories (outcomes : Outcomes) (isSecure : SecureMode) (first count : Nat)
    (memory : Memory) : Memory :=
  upTo (fun turn memory =>
    if isSecure = .nonSecure ∧ outcomes.mGetMemory (first + turn) then
      memory.acquire .mCameraMemory (first + turn)
    else
      memory.put .mCameraMemory (first + turn) []) count memory

/-- `QCameraStreamMemory::allocate`. -/
def streamAllocate (count : Nat) (isSecure : SecureMode) (outcomes : Outcomes)
    (memory : Memory) : Memory × Bool :=
  match memory.alloc outcomes count with
  | (memory, false) => (memory, false)
  | (memory, true) =>
    ({ memory.getMemories outcomes isSecure 0 count with
        mBufferCount := count
        secured := if isSecure = .secure then count else 0 }, true)

/-- `QCameraStreamMemory::allocateMore`. -/
def streamAllocateMore (count : Nat) (outcomes : Outcomes) (memory : Memory) : Memory × Bool :=
  match memory.alloc outcomes count with
  | (memory, false) => (memory, false)
  | (memory, true) =>
    ({ memory.getMemories outcomes .nonSecure memory.mBufferCount count with
        mBufferCount := memory.mBufferCount + count }, true)

/-- `QCameraStreamMemory::deallocate`; a camera memory is released if there is one. -/
def streamDeallocate (memory : Memory) : Memory :=
  { (upTo (release .mCameraMemory) memory.mBufferCount memory).dealloc with
    mBufferCount := 0
    secured := 0 }

/-! ### `QCameraVideoMemory` -/

/-- A turn of `allocateMeta`: on failure the metadata below is released, but not cleared. -/
def metaTurn (outcomes : Outcomes) (index : Nat) (memory : Memory) : Memory × Bool :=
  if outcomes.mGetMetadata index then
    (memory.acquire .mMetadata index, true)
  else
    (downTo (drop .mMetadata) index (memory.put .mMetadata index []), false)

/-- `allocateMeta`. -/
def allocateMeta (outcomes : Outcomes) (buf_cnt : Nat) (memory : Memory) : Memory × Bool :=
  match forUp (metaTurn outcomes) buf_cnt memory with
  | (memory, false) => (memory, false)
  | (memory, true) => ({ memory with mMetaBufCount := buf_cnt }, true)

/-- A turn of the loops that creates a native handle, which the metadata points to. -/
def createHandle (outcomes : Outcomes) (index : Nat) (memory : Memory) : Memory × Bool :=
  let memory := memory.deref .mMetadata index
  if outcomes.native_handle_create index then
    (memory.acquire .mNativeHandles index, true)
  else
    (memory.put .mNativeHandles index [], false)

/-- `QCameraVideoMemory::allocate`. -/
def videoAllocate (userptr : Bool) (count : Nat) (isSecure : SecureMode) (outcomes : Outcomes)
    (memory : Memory) : Memory × Bool :=
  match memory.streamAllocate count isSecure outcomes with
  | (memory, false) => (memory, false)
  | (memory, true) =>
    if userptr then
      (memory, true)
    else
      match memory.allocateMeta outcomes count with
      | (memory, false) => (memory, false)
      | (memory, true) => forUp (createHandle outcomes) count memory

/-- What `QCameraVideoMemory::allocateMore` does for a slot that it has no metadata for. -/
def unwindMore (first : Nat) (turns : Nat) (memory : Memory) : Memory :=
  upTo (fun turn memory =>
    ((((memory.deref .mMetadata (first + turn)).drop .mMetadata (first + turn)).deref
      .mCameraMemory (first + turn)).release .mCameraMemory (first + turn)).deallocOneBuffer
        (first + turn)) turns memory

/-- `QCameraVideoMemory::allocateMore`; the base has counted the buffers already. -/
def videoAllocateMore (userptr : Bool) (count : Nat) (outcomes : Outcomes) (memory : Memory) :
    Memory × Bool :=
  match memory.streamAllocateMore count outcomes with
  | (memory, false) => (memory, false)
  | (memory, true) =>
    let first := memory.mBufferCount
    match (if userptr then (memory, true) else
      forUp (fun turn memory =>
        if mmCameraMaxNumFrames ≤ first + turn then
          ({ memory with faulted := true }, false)
        else if outcomes.mGetMetadata (first + turn) then
          (memory.acquire .mMetadata (first + turn)).createHandle outcomes (first + turn)
        else
          (unwindMore first turn (memory.put .mMetadata (first + turn) []), false))
        count memory) with
    | (memory, false) => (memory, false)
    | (memory, true) =>
      ({ memory with
          mBufferCount := memory.mBufferCount + count
          mMetaBufCount := memory.mBufferCount + count }, true)

/-- `deallocateMeta`. -/
def deallocateMeta (memory : Memory) : Memory :=
  { upTo (fun index memory => (memory.deref .mMetadata index).release .mMetadata index)
      memory.mMetaBufCount memory with
    mMetaBufCount := 0 }

/-- `QCameraVideoMemory::deallocate`; the native handles stay in their array. -/
def videoDeallocate (userptr : Bool) (memory : Memory) : Memory :=
  let memory := if userptr then memory else upTo (drop .mNativeHandles) memory.mBufferCount memory
  memory.deallocateMeta.streamDeallocate

/-! ### Calls -/

/-- A call on an object of a class: the object after it, and whether it succeeds. -/
def execute (kind : Kind) (memory : Memory) : Call → Memory × Bool
  | .allocate count isSecure outcomes =>
    match kind with
    | .heap => memory.heapAllocate count isSecure outcomes
    | .stream => memory.streamAllocate count isSecure outcomes
    | .video userptr => memory.videoAllocate userptr count isSecure outcomes
  | .allocateMore count outcomes =>
    match kind with
    | .heap => memory.heapAllocateMore count outcomes
    | .stream => memory.streamAllocateMore count outcomes
    | .video userptr => memory.videoAllocateMore userptr count outcomes
  | .deallocate =>
    match kind with
    | .heap => (memory.heapDeallocate, true)
    | .stream => (memory.streamDeallocate, true)
    | .video userptr => (memory.videoDeallocate userptr, true)

/-- The object after a call. -/
def step (kind : Kind) (memory : Memory) (call : Call) : Memory :=
  (memory.execute kind call).1

end Memory

/-! ## What is to hold -/

/-- Whether the slots of an array hold something in the objects of a class. -/
def Kind.has : Kind → Member → Bool
  | _, .mMemInfo => true
  | .heap, .mPtr => true
  | .stream, .mCameraMemory => true
  | .video _, .mCameraMemory => true
  | .video userptr, .mMetadata => !userptr
  | .video userptr, .mNativeHandles => !userptr
  | _, _ => false

/-- The arrays that are filled up to a count. -/
def Kind.upto (kind : Kind) (count : Nat) (member : Member) : Nat :=
  if kind.has member then count else 0

/-- What the slots of an array below a count hold. -/
def column (memory : Memory) (member : Member) (count : Nat) : List Nat :=
  (List.range count).flatMap (memory.slot member)

/-- The arrays in a list. -/
def members : List Member :=
  [.mMemInfo, .mPtr, .mCameraMemory, .mMetadata, .mNativeHandles]

/-- What the slots hold, each array up to a count of its own. -/
def held (memory : Memory) (upto : Member → Nat) : List Nat :=
  members.flatMap fun member => column memory member (upto member)

/-- Everything that was acquired is held by one slot, or was released once. -/
def Accounted (memory : Memory) (upto : Member → Nat) : Prop :=
  (memory.released ++ held memory upto).Perm (List.range memory.next)

/-- The slots below the count are live, and hold everything that is not released. -/
structure Sound (kind : Kind) (memory : Memory) : Prop where
  noFault : memory.faulted = false
  live : ∀ member, kind.has member = true → ∀ index < memory.mBufferCount,
    (member = .mPtr ∨ member = .mCameraMemory → memory.secured ≤ index) →
      (memory.slot member index).length = member.width
  accounted : Accounted memory (kind.upto memory.mBufferCount)
  metaCount : memory.mMetaBufCount = kind.upto memory.mBufferCount .mMetadata

/-- The counts and the slots are as before. -/
structure Unchanged (memory next : Memory) : Prop where
  mBufferCount : next.mBufferCount = memory.mBufferCount
  mMetaBufCount : next.mMetaBufCount = memory.mMetaBufCount
  slot : next.slot = memory.slot

/-- What is to hold of a call. -/
structure Settled (kind : Kind) (memory : Memory) (call : Call) (next : Memory) : Prop where
  sound : Sound kind next
  failed : (memory.execute kind call).2 = false → Unchanged memory next
  released : call = .deallocate → next.released.Perm (List.range next.next)

/-- `allocate` is called on an empty object. -/
def OnEmpty (memory : Memory) (call : Call) (_ : Memory) : Prop :=
  match call with
  | .allocate _ _ _ => memory.mBufferCount = 0
  | _ => True

/-! ## When it holds -/

/-- ION gives every new buffer. -/
def IonGives (memory : Memory) (count : Nat) (outcomes : Outcomes) : Prop :=
  ∀ turn < count, outcomes.ion (memory.mBufferCount + turn) = .gives

/-- Everything that a class wants for a new buffer beside it is there. -/
def Completed (kind : Kind) (memory : Memory) (count : Nat) (isSecure : SecureMode)
    (outcomes : Outcomes) : Prop :=
  ∀ turn < count,
    (isSecure = .nonSecure →
      (kind.has .mPtr = true → outcomes.mmap (memory.mBufferCount + turn) = true) ∧
      (kind.has .mCameraMemory = true →
        outcomes.mGetMemory (memory.mBufferCount + turn) = true)) ∧
    (kind.has .mMetadata = true → outcomes.mGetMetadata turn = true ∧
      outcomes.native_handle_create turn = true)

/-- Nothing fails after a part of a call is done. -/
def Clear (kind : Kind) (memory : Memory) (call : Call) (_ : Memory) : Prop :=
  match call with
  | .allocate count isSecure outcomes =>
    memory.mBufferCount + count ≤ mmCameraMaxNumFrames → IonGives memory count outcomes →
      Completed kind memory count isSecure outcomes
  | .allocateMore count outcomes =>
    memory.mBufferCount + count ≤ mmCameraMaxNumFrames →
      (memory.mBufferCount ≠ 0 → IonGives memory count outcomes) ∧
      (IonGives memory count outcomes →
        match kind with
        | .video userptr => count = 0 ∧ (userptr = true → memory.mBufferCount = 0)
        | _ => Completed kind memory count .nonSecure outcomes)
  | .deallocate => True

variable {upto' : Member → Nat} {next : Memory}

/-! ## The books -/

section Books

variable {memory before after : Memory} {member other : Member} {upto : Member → Nat}
  {index count first width : Nat} {ids : List Nat}

@[simp] theorem column_zero : column memory member 0 = [] :=
  rfl

theorem column_succ :
    column memory member (count + 1) = column memory member count ++ memory.slot member count := by
  simp [column, List.range_succ]

@[simp] theorem put_slot_self : (memory.put member index ids).slot member =
    Function.update (memory.slot member) index ids := by
  simp [Memory.put]

theorem put_slot_of_ne (ne : other ≠ member) :
    (memory.put member index ids).slot other = memory.slot other := by
  simp [Memory.put, ne]

/-- The slots below a count say what the array holds. -/
theorem column_congr (same : ∀ index < count, after.slot member index = before.slot member index) :
    column after member count = column before member count :=
  List.flatMap_congr fun index among => same index (List.mem_range.mp among)

/-- Empty slots hold nothing. -/
theorem column_of_empty (empty : ∀ index < count, memory.slot member index = []) :
    column memory member count = [] := by
  simpa [column] using empty

/-- What the arrays but one hold. -/
def others (memory : Memory) (upto : Member → Nat) (member : Member) : List Nat :=
  (members.filter (· ≠ member)).flatMap fun other => column memory other (upto other)

theorem count_held (member : Member) (id : Nat) :
    (held memory upto).count id =
      (column memory member (upto member)).count id + (others memory upto member).count id := by
  cases member <;> simp [held, others, members, List.count_append] <;> omega

theorem others_congr
    (same : ∀ other ≠ member, column after other (upto' other) = column before other (upto other)) :
    others after upto' member = others before upto member :=
  List.flatMap_congr fun other among => same other (by simpa using (List.mem_filter.mp among).2)

/-- The books, resource by resource. -/
theorem accounted_iff : Accounted memory upto ↔
    ∀ id, memory.released.count id + (held memory upto).count id =
      (List.range memory.next).count id := by
  simp [Accounted, List.perm_iff_count]

/-- What one array takes over changes the books of that array only. -/
theorem Accounted.of_column (member : Member) (accounted : Accounted before upto)
    (same : ∀ other ≠ member, column after other (upto' other) = column before other (upto other))
    (books : ∀ id, after.released.count id + (column after member (upto' member)).count id +
      (List.range before.next).count id =
        before.released.count id + (column before member (upto member)).count id +
          (List.range after.next).count id) :
    Accounted after upto' := by
  rw [accounted_iff] at accounted ⊢
  intro id
  have balance := accounted id
  have change := books id
  rw [count_held member] at balance ⊢
  rw [others_congr same]
  omega

/-- A new resource has the next number. -/
theorem range_add (next width : Nat) :
    List.range (next + width) = List.range next ++ List.range' next width := by
  simpa [List.range_eq_range'] using (List.range'_append_1 (s := 0) (m := next) (n := width)).symm

/-- The members that the loops leave alone. -/
structure SameCounts (before after : Memory) : Prop where
  mBufferCount : after.mBufferCount = before.mBufferCount
  mMetaBufCount : after.mMetaBufCount = before.mMetaBufCount
  secured : after.secured = before.secured
  faulted : after.faulted = before.faulted

theorem SameCounts.trans {between : Memory} (earlier : SameCounts before between)
    (later : SameCounts between after) : SameCounts before after :=
  ⟨later.1.trans earlier.1, later.2.trans earlier.2, later.3.trans earlier.3,
    later.4.trans earlier.4⟩

/-- The slots of one array from `first` on are filled, each with `width` things. -/
structure Filled (member : Member) (width first count : Nat) (before after : Memory) : Prop where
  counts : SameCounts before after
  others : ∀ other ≠ member, after.slot other = before.slot other
  outside : ∀ index, index < first ∨ first + count ≤ index →
    after.slot member index = before.slot member index
  width : ∀ index, first ≤ index → index < first + count →
    (after.slot member index).length = width
  accounted : ∀ upto, upto member = first → Accounted before upto →
    Accounted after (Function.update upto member (first + count))

theorem Filled.start : Filled member width first 0 before before := by
  refine ⟨⟨rfl, rfl, rfl, rfl⟩, fun _ _ => rfl, fun _ _ => rfl, by omega, ?_⟩
  rintro upto rfl accounted
  simpa using accounted

/-- One more slot gets something. -/
theorem Filled.fill {ids : List Nat}
    (filled : Filled member width first count before after)
    (counts : SameCounts after next)
    (slots : next.slot = (after.put member (first + count) ids).slot)
    (isWidth : ids.length = width) (released : next.released = after.released)
    (fresh : List.range next.next = List.range after.next ++ ids) :
    Filled member width first (count + 1) before next := by
  have own : next.slot member = Function.update (after.slot member) (first + count) ids := by
    rw [slots, put_slot_self]
  have kept : ∀ other ≠ member, next.slot other = after.slot other := fun other ne => by
    rw [slots, put_slot_of_ne ne]
  refine ⟨filled.counts.trans counts, fun other ne =>
    (kept other ne).trans (filled.others other ne), ?_, ?_, ?_⟩
  · intro index away
    rw [own, Function.update_of_ne (by omega)]
    exact filled.outside index (by omega)
  · intro index low high
    rw [own]
    by_cases new : index = first + count
    · rw [new, Function.update_self, isWidth]
    · rw [Function.update_of_ne new]
      exact filled.width index low (by omega)
  · intro upto isFirst held
    refine (filled.accounted upto isFirst held).of_column member (fun other ne => ?_) fun id => ?_
    · rw [Function.update_of_ne ne, Function.update_of_ne ne]
      exact column_congr fun index _ => by rw [kept other ne]
    · have below : column next member (first + count) = column after member (first + count) :=
        column_congr fun index lt => by rw [own, Function.update_of_ne (by omega)]
      rw [Function.update_self, Function.update_self, ← Nat.add_assoc, column_succ, below, own,
        Function.update_self, List.count_append, released, fresh, List.count_append]
      omega

/-- A slot is filled with a new resource. -/
theorem Filled.acquire (filled : Filled member member.width first count before after) :
    Filled member member.width first (count + 1) before (after.acquire member (first + count)) :=
  filled.fill ⟨rfl, rfl, rfl, rfl⟩ rfl (by simp) rfl (range_add _ _)

/-- A slot that is cleared holds nothing. -/
theorem Filled.clear (filled : Filled member 0 first count before after) :
    Filled member 0 first (count + 1) before (after.put member (first + count) []) :=
  filled.fill ⟨rfl, rfl, rfl, rfl⟩ rfl rfl rfl (List.append_nil _).symm

/-- The slots of one array below a count are released and cleared. -/
structure Emptied (member : Member) (count : Nat) (before after : Memory) : Prop where
  counts : SameCounts before after
  others : ∀ other ≠ member, after.slot other = before.slot other
  outside : ∀ index, count ≤ index → after.slot member index = before.slot member index
  empty : ∀ index < count, after.slot member index = []
  accounted : ∀ upto, count ≤ upto member → Accounted before upto → Accounted after upto

theorem Emptied.start : Emptied member 0 before before :=
  ⟨⟨rfl, rfl, rfl, rfl⟩, fun _ _ => rfl, fun _ _ => rfl, by omega, fun _ _ accounted => accounted⟩

/-- The slots above stay, in every array. -/
theorem Emptied.above (emptied : Emptied member count before after) (other : Member)
    (above : count ≤ index) : after.slot other index = before.slot other index := by
  by_cases own : other = member
  · rw [own]
    exact emptied.outside index above
  · rw [emptied.others other own]

/-- A release moves what the slot holds. -/
theorem Accounted.release (accounted : Accounted memory upto) (below : index < upto member) :
    Accounted (memory.release member index) upto := by
  have slots : (memory.release member index).slot member =
      Function.update (memory.slot member) index [] := put_slot_self
  refine accounted.of_column member (fun other ne => ?_) fun id => ?_
  · exact column_congr fun index _ => by rw [Memory.release, put_slot_of_ne ne]
  · have moved : ∀ count, index < count →
        (column (memory.release member index) member count).count id +
          (memory.slot member index).count id = (column memory member count).count id := by
      intro count lt
      induction count with
      | zero => omega
      | succ count inductionHypothesis =>
        rw [column_succ, column_succ, List.count_append, List.count_append, slots]
        rcases Nat.lt_or_eq_of_le (Nat.le_of_lt_succ lt) with lt | rfl
        · rw [Function.update_of_ne (Nat.ne_of_gt lt)]
          have := inductionHypothesis lt
          omega
        · have below : column (memory.release member index) member index =
              column memory member index :=
            column_congr fun other lt => by rw [slots, Function.update_of_ne (Nat.ne_of_lt lt)]
          rw [Function.update_self, below, List.count_nil]
          omega
    have := moved (upto member) below
    change (memory.released ++ memory.slot member index).count id + _ +
      (List.range memory.next).count id = memory.released.count id + _ +
        (List.range memory.next).count id
    rw [List.count_append]
    omega

/-- One more slot is emptied. -/
theorem Emptied.release (emptied : Emptied member count before after) :
    Emptied member (count + 1) before (after.release member count) := by
  obtain ⟨counts, others, outside, empty, accounted⟩ := emptied
  have slots : (after.release member count).slot member =
      Function.update (after.slot member) count [] := put_slot_self
  refine ⟨⟨counts.1, counts.2, counts.3, counts.4⟩, fun other ne => ?_, ?_, ?_,
    fun upto le held => (accounted upto (by omega) held).release le⟩
  · rw [Memory.release, put_slot_of_ne ne]
    exact others other ne
  · intro index away
    rw [slots, Function.update_of_ne (by omega)]
    exact outside index (by omega)
  · intro index lt
    rw [slots]
    by_cases new : index = count
    · rw [new, Function.update_self]
    · rw [Function.update_of_ne new]
      exact empty index (by omega)

/-- A loop upwards that releases the slots of an array. -/
theorem emptied_upTo : Emptied member count before (upTo (Memory.release member) count before) :=
  upTo_rule _ (fun turns after => Emptied member turns before after) Emptied.start
    fun _ _ _ emptied => emptied.release

/-- A loop downwards that does so. -/
theorem emptied_downTo :
    Emptied member count before (downTo (Memory.release member) count before) := by
  induction count generalizing before with
  | zero => exact .start
  | succ count inductionHypothesis =>
    have slots : (before.release member count).slot member =
        Function.update (before.slot member) count [] := put_slot_self
    obtain ⟨counts, others, outside, empty, accounted⟩ : Emptied member count
        (before.release member count) (downTo (Memory.release member) (count + 1) before) :=
      inductionHypothesis
    refine ⟨⟨counts.1, counts.2, counts.3, counts.4⟩, fun other ne => ?_, ?_, ?_,
      fun upto le held => accounted upto (by omega) (held.release le)⟩
    · exact (others other ne).trans (put_slot_of_ne ne)
    · intro index away
      exact (outside index (by omega)).trans (by rw [slots, Function.update_of_ne (by omega)])
    · intro index lt
      rcases Nat.lt_or_eq_of_le (Nat.le_of_lt_succ lt) with lt | rfl
      · exact empty index lt
      · exact (outside index (Nat.le_refl _)).trans (by rw [slots, Function.update_self])

/-- An array whose slots are empty needs no counting. -/
theorem Accounted.of_empty (accounted : Accounted memory upto)
    (empty : ∀ other index, upto' other ≠ upto other →
      index < max (upto other) (upto' other) → memory.slot other index = []) :
    Accounted memory upto' := by
  have same : held memory upto' = held memory upto := by
    refine List.flatMap_congr fun other _ => ?_
    by_cases equal : upto' other = upto other
    · rw [equal]
    · rw [column_of_empty fun index lt => empty other index equal (by omega),
        column_of_empty fun index lt => empty other index equal (by omega)]
  rwa [Accounted, same]

/-- Resources that a failed turn gave back are accounted for. -/
theorem Accounted.spend (accounted : Accounted memory upto) (count : Nat) :
    Accounted (memory.spend count) upto := by
  refine accounted.of_column .mMemInfo (fun _ _ => rfl) fun id => ?_
  change (memory.released ++ (List.range' memory.next count).reverse).count id + _ + _ =
    _ + _ + (List.range (memory.next + count)).count id
  rw [range_add, List.count_append, List.count_append, List.count_reverse]
  change _ + (column memory .mMemInfo (upto .mMemInfo)).count id + _ = _
  omega

/-- Dropping an array releases its column. -/
theorem upTo_drop : upTo (Memory.drop member) count memory =
    { memory with released := memory.released ++ column memory member count } := by
  induction count with
  | zero => simp [upTo]
  | succ count inductionHypothesis =>
    rw [upTo, inductionHypothesis, column_succ]
    simp [Memory.drop]

/-- What is dropped is not counted any more. -/
theorem Accounted.drop (accounted : Accounted memory upto) (member : Member) :
    Accounted (upTo (Memory.drop member) (upto member) memory)
      (Function.update upto member 0) := by
  rw [upTo_drop]
  refine accounted.of_column member (fun other ne => ?_) fun id => ?_
  · rw [Function.update_of_ne ne]
    rfl
  · rw [Function.update_self, column_zero]
    simp

end Books

/-! ## The loops of the calls -/

section Fillings

variable {memory : Memory} {outcomes : Outcomes} {member : Member} {count first : Nat}

/-- A loop whose turns all fill their slot. -/
theorem forUp_filled {body : Nat → Memory → Memory × Bool}
    (fills : ∀ turn < count, ∀ state, Filled member member.width first turn memory state →
      body turn state = (state.acquire member (first + turn), true)) :
    ∃ after, forUp body count memory = (after, true) ∧
      Filled member member.width first count memory after := by
  have ends := forUp_rule body
    (fun turns state => Filled member member.width first turns memory state) (fun _ => False)
    .start fun turn lt state filled => .inl ⟨_, fills turn lt state filled, filled.acquire⟩
  simpa using ends

/-- `mmap` for each buffer. -/
theorem mapBuffers_filled (memory : Memory)
    (gives : ∀ turn < count, outcomes.mmap (first + turn) = true) :
    ∃ after, memory.mapBuffers outcomes first count = (after, true) ∧
      Filled .mPtr 1 first count memory after :=
  forUp_filled fun turn lt state _ => by rw [if_pos (gives turn lt)]

/-- `mGetMemory` for each buffer of an object that is not secure. -/
theorem getMemories_filled (memory : Memory)
    (gives : isSecure = .nonSecure → ∀ turn < count, outcomes.mGetMemory (first + turn) = true) :
    Filled .mCameraMemory (if isSecure = .secure then 0 else 1) first count memory
      (memory.getMemories outcomes isSecure first count) := by
  cases isSecure with
  | secure =>
    refine upTo_rule _ (fun turns state => Filled .mCameraMemory 0 first turns memory state) .start
      fun turn _ state filled => ?_
    rw [if_neg (by simp)]
    exact filled.clear
  | nonSecure =>
    refine upTo_rule _ (fun turns state => Filled .mCameraMemory 1 first turns memory state) .start
      fun turn lt state filled => ?_
    rw [if_pos ⟨rfl, gives rfl turn lt⟩]
    exact filled.acquire

/-- `mGetMetadata` for each buffer. -/
theorem allocateMeta_filled (memory : Memory)
    (gives : ∀ turn < count, outcomes.mGetMetadata turn = true) :
    ∃ after, memory.allocateMeta outcomes count = ({ after with mMetaBufCount := count }, true) ∧
      Filled .mMetadata 1 0 count memory after := by
  obtain ⟨after, ends, filled⟩ :
      ∃ after, forUp (Memory.metaTurn outcomes) count memory = (after, true) ∧
        Filled .mMetadata 1 0 count memory after :=
    forUp_filled fun turn lt state _ => by
      rw [Nat.zero_add, Memory.metaTurn, if_pos (gives turn lt)]
  exact ⟨after, by rw [Memory.allocateMeta, ends], filled⟩

/-- `native_handle_create` for each buffer. -/
theorem createHandles_filled (memory : Memory)
    (live : ∀ index < count, (memory.slot .mMetadata index).length = 1)
    (gives : ∀ turn < count, outcomes.native_handle_create turn = true) :
    ∃ after, forUp (Memory.createHandle outcomes) count memory = (after, true) ∧
      Filled .mNativeHandles 1 0 count memory after := by
  refine forUp_filled fun turn lt state filled => ?_
  have isLive : (state.slot .mMetadata turn).isEmpty = false := by
    rw [filled.others .mMetadata (by decide), ← Bool.not_eq_true, List.isEmpty_iff]
    intro none
    have := live turn lt
    rw [none] at this
    cases this
  have same : state.deref .mMetadata turn = state := by
    simp [Memory.deref, isLive]
  rw [Memory.createHandle, same]
  simp [gives turn lt]

/-- A call that fails leaves the slots, and the books, as they were. -/
structure Restored (before after : Memory) : Prop where
  counts : SameCounts before after
  slot : after.slot = before.slot
  accounted : ∀ upto, upto .mMemInfo = before.mBufferCount → Accounted before upto →
    Accounted after upto

/-- A turn of `alloc` fails with nothing but new buffers below it. -/
theorem Filled.restored {after : Memory} {spent : Nat}
    (filled : Filled .mMemInfo 3 0 turns memory after) (empty : memory.mBufferCount = 0)
    (clean : ∀ index, memory.slot .mMemInfo index = []) :
    Restored memory (downTo Memory.deallocOneBuffer turns (after.spend spent)) := by
  have emptied : Emptied .mMemInfo turns (after.spend spent)
      (downTo Memory.deallocOneBuffer turns (after.spend spent)) := emptied_downTo
  have slots : ∀ index,
      (downTo Memory.deallocOneBuffer turns (after.spend spent)).slot .mMemInfo index = [] := by
    intro index
    by_cases below : index < turns
    · exact emptied.empty index below
    · rw [emptied.outside index (by omega)]
      exact (filled.outside index (by omega)).trans (clean index)
  refine ⟨filled.counts.trans ⟨emptied.counts.1, emptied.counts.2, emptied.counts.3,
    emptied.counts.4⟩, funext fun member => ?_, fun upto isNone held => ?_⟩
  · by_cases own : member = .mMemInfo
    · rw [own]
      exact funext fun index => (slots index).trans (clean index).symm
    · exact (emptied.others member own).trans (filled.others member own)
  · have all := (filled.accounted upto (isNone.trans empty) held).spend spent
    refine (emptied.accounted _ (by simp) all).of_empty fun other index differ _ => ?_
    by_cases own : other = .mMemInfo
    · rw [own]
      exact slots index
    · exact absurd (Function.update_of_ne own _ _).symm differ

/-- What `alloc` does where a failure of ION has no older buffers to release. -/
theorem alloc_spec
    (clean : ∀ index, memory.mBufferCount ≤ index → memory.slot .mMemInfo index = [])
    (clear : memory.mBufferCount + count ≤ mmCameraMaxNumFrames → memory.mBufferCount ≠ 0 →
      IonGives memory count outcomes) :
    (∃ after, memory.alloc outcomes count = (after, true) ∧
      memory.mBufferCount + count ≤ mmCameraMaxNumFrames ∧ IonGives memory count outcomes ∧
        Filled .mMemInfo 3 memory.mBufferCount count memory after) ∨
    ∃ after, memory.alloc outcomes count = (after, false) ∧ Restored memory after := by
  by_cases many : memory.mBufferCount + count > mmCameraMaxNumFrames
  · rw [Memory.alloc, if_pos many]
    exact .inr ⟨memory, rfl, ⟨rfl, rfl, rfl, rfl⟩, rfl, fun _ _ held => held⟩
  · rw [Memory.alloc, if_neg many]
    have fits := Nat.not_lt.mp many
    refine (forUp_rule _
      (fun turns state => (∀ turn < turns, outcomes.ion (memory.mBufferCount + turn) = .gives) ∧
        Filled .mMemInfo 3 memory.mBufferCount turns memory state)
      (Restored memory) ⟨fun _ no => by omega, .start⟩ ?_).imp
        (fun ⟨after, ends, gave, filled⟩ => ⟨after, ends, fits, gave, filled⟩) id
    rintro turn lt state ⟨gave, filled⟩
    by_cases gives : outcomes.ion (memory.mBufferCount + turn) = .gives
    · refine .inl ⟨_, by rw [Memory.allocTurn, gives]; rfl, fun other lt => ?_, filled.acquire⟩
      rcases Nat.lt_or_eq_of_le (Nat.le_of_lt_succ lt) with lt | rfl
      · exact gave other lt
      · exact gives
    · have empty : memory.mBufferCount = 0 := by
        by_contra older
        exact gives (clear fits older turn lt)
      obtain ⟨spent, ends⟩ : ∃ spent, state.allocTurn outcomes (memory.mBufferCount + turn) =
          (downTo Memory.deallocOneBuffer turn (state.spend spent), false) := by
        have same : memory.mBufferCount + turn = turn := by
          rw [empty, Nat.zero_add]
        rw [same] at gives ⊢
        rw [Memory.allocTurn]
        cases outcome : outcomes.ion turn with
        | gives => exact absurd outcome gives
        | openFails => exact ⟨0, by simp [Memory.allocOneBuffer, Memory.spend]⟩
        | allocFails => exact ⟨1, rfl⟩
        | shareFails => exact ⟨2, rfl⟩
      rw [empty] at filled
      exact .inr ⟨_, ends, filled.restored empty fun index => clean index (by omega)⟩

end Fillings

/-! ## The invariant -/

/-- The object is sound, and the slots from the count on are clear. -/
structure Good (kind : Kind) (memory : Memory) : Prop extends Sound kind memory where
  clean : ∀ member, member = .mMemInfo ∨ member = .mPtr ∧ kind = .heap →
    ∀ index, memory.mBufferCount ≤ index → memory.slot member index = []
  securedLe : memory.secured ≤ memory.mBufferCount

/-- Some arrays are filled from `first` on. -/
structure Grown (widths : Member → Nat) (filled : Member → Bool) (first count : Nat)
    (before after : Memory) : Prop where
  faulted : after.faulted = before.faulted
  others : ∀ member, filled member = false → after.slot member = before.slot member
  outside : ∀ member index, index < first ∨ first + count ≤ index →
    after.slot member index = before.slot member index
  width : ∀ member, filled member = true → ∀ index, first ≤ index → index < first + count →
    (after.slot member index).length = widths member
  accounted : ∀ upto, (∀ member, filled member = true → upto member = first) →
    Accounted before upto →
      Accounted after fun member => if filled member then first + count else upto member

section Invariant

variable {kind : Kind} {memory before after : Memory} {outcomes : Outcomes}
  {member : Member} {widths : Member → Nat} {filled : Member → Bool} {count first : Nat}

theorem Grown.start : Grown widths (fun _ => false) first count before before :=
  ⟨rfl, fun _ _ => rfl, fun _ _ _ => rfl, by simp, fun _ _ accounted => by simpa using accounted⟩

/-- One more array is filled. -/
theorem Grown.fill (grown : Grown widths filled first count before after)
    (fills : Filled member (widths member) first count after next)
    (new : filled member = false) :
    Grown widths (fun other => filled other || decide (other = member)) first count before
      next := by
  refine ⟨fills.counts.faulted.trans grown.faulted, fun other no => ?_, fun other index away => ?_,
    fun other some index low high => ?_, fun upto isFirst held => ?_⟩
  · simp only [Bool.or_eq_false_iff, decide_eq_false_iff_not] at no
    exact (fills.others other no.2).trans (grown.others other no.1)
  · by_cases own : other = member
    · rw [own]
      exact (fills.outside index away).trans (grown.outside member index away)
    · rw [fills.others other own]
      exact grown.outside other index away
  · by_cases own : other = member
    · rw [own]
      exact fills.width index low high
    · rw [fills.others other own]
      exact grown.width other (by simpa [own] using some) index low high
  · have all := fills.accounted _ (by simpa [new] using isFirst member (by simp))
      (grown.accounted upto (fun other some => isFirst other (by simp [some])) held)
    convert all using 1
    funext other
    by_cases own : other = member
    · simp [own]
    · simp [own]

/-- An object whose arrays are all filled with new buffers is a good one. -/
theorem Good.grow {metaTotal : Nat} (good : Good kind memory)
    (grown : Grown widths kind.has memory.mBufferCount count memory after)
    (isTotal : total = memory.mBufferCount + count)
    (isMeta : metaTotal = kind.upto total .mMetadata)
    (isSecured : memory.mBufferCount = 0 ∧ secured ≤ total ∨ secured = memory.secured)
    (full : ∀ member, widths member = member.width ∨
      (member = .mPtr ∨ member = .mCameraMemory) ∧ total ≤ secured) :
    Good kind { after with
      mBufferCount := total, mMetaBufCount := metaTotal, secured := secured } := by
  have securedLe := good.securedLe
  refine ⟨⟨grown.faulted.trans good.noFault, fun member has index below mapped => ?_, ?_, isMeta⟩,
    fun member which index above => ?_, by change secured ≤ total; omega⟩
  · change index < total at below
    by_cases old : index < memory.mBufferCount
    · change (after.slot member index).length = _
      rw [grown.outside member index (.inl old)]
      refine good.live member has index old fun isMapped => ?_
      have : secured ≤ index := mapped isMapped
      omega
    · refine (grown.width member has index (by omega) (by omega)).trans ?_
      rcases full member with same | ⟨isMapped, isSecure⟩
      · exact same
      · have : secured ≤ index := mapped isMapped
        omega
  · have all := grown.accounted _ (fun member has => by simp [Kind.upto, has]) good.accounted
    have same : (fun member => if kind.has member then memory.mBufferCount + count else
        kind.upto memory.mBufferCount member) = kind.upto total := by
      funext member
      by_cases has : kind.has member <;> simp [Kind.upto, has, isTotal]
    rw [same] at all
    exact all
  · change total ≤ index at above
    exact (grown.outside member index (by omega)).trans (good.clean member which index (by omega))

/-- A call that fails leaves a good object. -/
theorem Good.restore (good : Good kind memory) (restored : Restored memory after) :
    Good kind after := by
  obtain ⟨⟨buffers, metas, secured, faulted⟩, slot, accounted⟩ := restored
  refine ⟨⟨faulted.trans good.noFault, ?_, ?_, ?_⟩, ?_, ?_⟩
  · rw [buffers, slot, secured]
    exact good.live
  · rw [buffers]
    exact accounted _ (by simp [Kind.upto, Kind.has]) good.accounted
  · rw [metas, buffers]
    exact good.metaCount
  · rw [buffers, slot]
    exact good.clean
  · rw [buffers, secured]
    exact good.securedLe

/-! ## Allocating -/

/-- How much the slots of new buffers hold. -/
def newWidths (isSecure : SecureMode) (member : Member) : Nat :=
  if isSecure = .secure ∧ (member = .mPtr ∨ member = .mCameraMemory) then 0 else member.width

theorem newWidths_full (all : isSecure = .secure → total ≤ secured) (member : Member) :
    newWidths isSecure member = member.width ∨
      (member = .mPtr ∨ member = .mCameraMemory) ∧ total ≤ secured := by
  by_cases bare : isSecure = .secure ∧ (member = .mPtr ∨ member = .mCameraMemory)
  · exact .inr ⟨bare.2, all bare.1⟩
  · exact .inl (if_neg bare)

/-- Slots that stay clear hold nothing. -/
theorem Filled.of_empty (empty : ∀ index < count, before.slot member index = []) :
    Filled member 0 0 count before before := by
  refine ⟨⟨rfl, rfl, rfl, rfl⟩, fun _ _ => rfl, fun _ _ => rfl, fun index _ below => ?_,
    fun upto isFirst held => held.of_empty fun other index differ below => ?_⟩
  · rw [empty index (by omega), List.length_nil]
  · by_cases own : other = member
    · rw [own, isFirst, Function.update_self] at below
      rw [own]
      exact empty index (by omega)
    · exact absurd (Function.update_of_ne own _ _) differ

/-- A call on an object succeeds and leaves a good one, or fails and leaves it as it was. -/
def Ends (kind : Kind) (memory : Memory) (result : Memory × Bool) : Prop :=
  (∃ after, result = (after, true) ∧ Good kind after) ∨
    ∃ after, result = (after, false) ∧ Restored memory after

theorem Good.memInfoClean (good : Good kind memory) :
    ∀ index, memory.mBufferCount ≤ index → memory.slot .mMemInfo index = [] :=
  good.clean .mMemInfo (.inl rfl)

/-- The buffers of a heap memory are mapped, unless they are secure. -/
theorem Good.map (isSecure : SecureMode) (secured : Nat) (good : Good .heap memory)
    (filled : Filled .mMemInfo 3 memory.mBufferCount count memory after)
    (mapped : Filled .mPtr (newWidths isSecure .mPtr) memory.mBufferCount count after next)
    (isSecured : memory.mBufferCount = 0 ∧ secured ≤ memory.mBufferCount + count ∨
      secured = memory.secured)
    (all : isSecure = .secure → memory.mBufferCount + count ≤ secured) :
    Good .heap { next with mBufferCount := memory.mBufferCount + count, secured := secured } := by
  have own : Filled .mMemInfo (newWidths isSecure .mMemInfo) memory.mBufferCount count memory
      after := by
    simpa [newWidths, Member.width] using filled
  have first : Grown (newWidths isSecure) _ memory.mBufferCount count memory after :=
    Grown.start.fill own rfl
  have grown : Grown (newWidths isSecure) Kind.heap.has memory.mBufferCount count memory next := by
    convert first.fill mapped (by decide) using 1
    funext member
    cases member <;> rfl
  have metas : next.mMetaBufCount = 0 :=
    mapped.counts.mMetaBufCount.trans (filled.counts.mMetaBufCount.trans good.metaCount)
  exact good.grow grown rfl metas isSecured (newWidths_full all)

/-- `QCameraHeapMemory::allocate`. -/
theorem heapAllocate_ends (good : Good .heap memory) (empty : memory.mBufferCount = 0)
    (clear : Clear .heap memory (.allocate count isSecure outcomes) next) :
    Ends .heap memory (memory.heapAllocate count isSecure outcomes) := by
  rcases alloc_spec good.memInfoClean fun _ older => absurd empty older with
    ⟨after, ends, fits, gives, filled⟩ | ⟨after, ends, restored⟩
  · rw [Memory.heapAllocate, ends]
    cases isSecure with
    | secure =>
      have bare : Filled .mPtr 0 memory.mBufferCount count after after := by
        rw [empty]
        refine .of_empty fun index _ => ?_
        rw [filled.others .mPtr (by decide)]
        exact good.clean .mPtr (.inr ⟨rfl, rfl⟩) index (by omega)
      have grows := good.map .secure count filled bare (by omega) (by omega)
      rw [empty, Nat.zero_add] at grows
      exact .inl ⟨_, rfl, grows⟩
    | nonSecure =>
      obtain ⟨next, maps, mapped⟩ := mapBuffers_filled after
        fun turn lt => (((clear fits gives) turn lt).1 rfl).1 rfl
      have grows := good.map .nonSecure _ filled mapped
        (.inr (mapped.counts.secured.trans filled.counts.secured)) (fun no => by cases no)
      rw [empty] at maps
      rw [empty, Nat.zero_add] at grows
      simp only [maps]
      exact .inl ⟨_, rfl, grows⟩
  · rw [Memory.heapAllocate, ends]
    exact .inr ⟨after, rfl, restored⟩

/-- `QCameraHeapMemory::allocateMore`. -/
theorem heapAllocateMore_ends (good : Good .heap memory)
    (clear : Clear .heap memory (.allocateMore count outcomes) next) :
    Ends .heap memory (memory.heapAllocateMore count outcomes) := by
  rcases alloc_spec good.memInfoClean fun fits => (clear fits).1 with
    ⟨after, ends, fits, gives, filled⟩ | ⟨after, ends, restored⟩
  · obtain ⟨next, maps, mapped⟩ := mapBuffers_filled after
      fun turn lt => (((clear fits).2 gives turn lt).1 rfl).1 rfl
    have same : after.mBufferCount = memory.mBufferCount := filled.counts.mBufferCount
    have grows := good.map .nonSecure _ filled mapped
      (.inr (mapped.counts.secured.trans filled.counts.secured)) (fun no => by cases no)
    rw [Memory.heapAllocateMore, ends]
    simp only [same, maps, mapped.counts.mBufferCount]
    exact .inl ⟨_, rfl, grows⟩
  · rw [Memory.heapAllocateMore, ends]
    exact .inr ⟨after, rfl, restored⟩

theorem Grown.recount (grown : Grown widths filled first count before after)
    (mBufferCount mMetaBufCount secured : Nat) :
    Grown widths filled first count before { after with
      mBufferCount := mBufferCount, mMetaBufCount := mMetaBufCount, secured := secured } :=
  ⟨grown.faulted, grown.others, grown.outside, grown.width, grown.accounted⟩

/-- The camera memories of new buffers. -/
theorem Filled.memories (isSecure : SecureMode)
    (filled : Filled .mMemInfo 3 memory.mBufferCount count memory after)
    (gives : isSecure = .nonSecure →
      ∀ turn < count, outcomes.mGetMemory (memory.mBufferCount + turn) = true) :
    Grown (newWidths isSecure) Kind.stream.has memory.mBufferCount count memory
        (after.getMemories outcomes isSecure memory.mBufferCount count) ∧
      SameCounts memory (after.getMemories outcomes isSecure memory.mBufferCount count) := by
  have own : Filled .mMemInfo (newWidths isSecure .mMemInfo) memory.mBufferCount count memory
      after := by
    simpa [newWidths, Member.width] using filled
  have taken := getMemories_filled after gives
  have memories : Filled .mCameraMemory (newWidths isSecure .mCameraMemory) memory.mBufferCount
      count after (after.getMemories outcomes isSecure memory.mBufferCount count) := by
    simpa [newWidths, Member.width] using taken
  refine ⟨?_, filled.counts.trans taken.counts⟩
  have first : Grown (newWidths isSecure) _ memory.mBufferCount count memory after :=
    Grown.start.fill own rfl
  convert first.fill memories (by decide) using 1
  funext member
  cases member <;> rfl

/-- What the base does for a stream or a video memory. -/
theorem streamAllocate_spec (good : Good kind memory) (empty : memory.mBufferCount = 0)
    (gives : memory.mBufferCount + count ≤ mmCameraMaxNumFrames → IonGives memory count outcomes →
      isSecure = .nonSecure →
        ∀ turn < count, outcomes.mGetMemory (memory.mBufferCount + turn) = true) :
    (∃ after, memory.streamAllocate count isSecure outcomes = (after, true) ∧
      memory.mBufferCount + count ≤ mmCameraMaxNumFrames ∧ IonGives memory count outcomes ∧
      Grown (newWidths isSecure) Kind.stream.has 0 count memory after ∧
      after.mBufferCount = count ∧ after.mMetaBufCount = memory.mMetaBufCount ∧
      after.secured = if isSecure = .secure then count else 0) ∨
    ∃ after, memory.streamAllocate count isSecure outcomes = (after, false) ∧
      Restored memory after := by
  rcases alloc_spec good.memInfoClean fun _ older => absurd empty older with
    ⟨after, ends, fits, ion, filled⟩ | ⟨after, ends, restored⟩
  · obtain ⟨grown, counts⟩ := filled.memories isSecure (gives fits ion)
    rw [empty] at grown counts
    rw [Memory.streamAllocate, ends]
    exact .inl ⟨_, rfl, fits, ion, grown.recount _ _ _, rfl, counts.mMetaBufCount, rfl⟩
  · rw [Memory.streamAllocate, ends]
    exact .inr ⟨after, rfl, restored⟩

/-- What `allocateMore` of a stream memory leaves. -/
theorem streamAllocateMore_spec (good : Good kind memory)
    (older : memory.mBufferCount + count ≤ mmCameraMaxNumFrames → memory.mBufferCount ≠ 0 →
      IonGives memory count outcomes)
    (gives : memory.mBufferCount + count ≤ mmCameraMaxNumFrames → IonGives memory count outcomes →
      ∀ turn < count, outcomes.mGetMemory (memory.mBufferCount + turn) = true) :
    (∃ after, memory.streamAllocateMore count outcomes = (after, true) ∧
      memory.mBufferCount + count ≤ mmCameraMaxNumFrames ∧ IonGives memory count outcomes ∧
      Grown (newWidths .nonSecure) Kind.stream.has memory.mBufferCount count memory after ∧
      after.mBufferCount = memory.mBufferCount + count ∧
      after.mMetaBufCount = memory.mMetaBufCount ∧ after.secured = memory.secured) ∨
    ∃ after, memory.streamAllocateMore count outcomes = (after, false) ∧
      Restored memory after := by
  rcases alloc_spec good.memInfoClean older with
    ⟨after, ends, fits, ion, filled⟩ | ⟨after, ends, restored⟩
  · obtain ⟨grown, counts⟩ := filled.memories .nonSecure fun _ => gives fits ion
    have same : after.mBufferCount = memory.mBufferCount := filled.counts.mBufferCount
    rw [Memory.streamAllocateMore, ends]
    simp only [same]
    exact .inl ⟨_, rfl, fits, ion, grown.recount _ _ _, rfl, counts.mMetaBufCount, counts.secured⟩
  · rw [Memory.streamAllocateMore, ends]
    exact .inr ⟨after, rfl, restored⟩

/-- A stream memory, or a video memory without metadata, is as its base leaves it. -/
theorem Good.base (good : Good kind memory) (same : kind.has = Kind.stream.has)
    (grown : Grown (newWidths isSecure) Kind.stream.has memory.mBufferCount count memory after)
    (isTotal : after.mBufferCount = memory.mBufferCount + count)
    (isMeta : after.mMetaBufCount = memory.mMetaBufCount)
    (isSecured : memory.mBufferCount = 0 ∧ after.secured ≤ after.mBufferCount ∨
      after.secured = memory.secured)
    (all : isSecure = .secure → after.mBufferCount ≤ after.secured) :
    Good kind after := by
  have metas : after.mMetaBufCount = kind.upto after.mBufferCount .mMetadata := by
    have bare : kind.has .mMetadata = false := by
      rw [same]
      rfl
    rw [isMeta, good.metaCount]
    simp [Kind.upto, bare]
  rw [← same] at grown
  exact good.grow grown isTotal metas isSecured (newWidths_full all)

/-- `QCameraStreamMemory::allocate`. -/
theorem streamAllocate_ends (good : Good .stream memory)
    (empty : memory.mBufferCount = 0)
    (clear : Clear .stream memory (.allocate count isSecure outcomes) next) :
    Ends .stream memory (memory.streamAllocate count isSecure outcomes) := by
  refine (streamAllocate_spec good empty fun fits ion nonSecure turn lt =>
    ((clear fits ion turn lt).1 nonSecure).2 rfl).imp_left ?_
  rintro ⟨after, ends, -, -, grown, total, metas, secured⟩
  rw [← empty] at grown
  refine ⟨after, ends, good.base rfl grown (by omega) metas (.inl ⟨empty, ?_⟩) fun isSecure => ?_⟩
  · rw [secured, total]
    split <;> omega
  · rw [secured, if_pos isSecure]
    omega

/-- `QCameraStreamMemory::allocateMore`. -/
theorem streamAllocateMore_ends (good : Good .stream memory)
    (clear : Clear .stream memory (.allocateMore count outcomes) next) :
    Ends .stream memory (memory.streamAllocateMore count outcomes) := by
  refine (streamAllocateMore_spec good (fun fits => (clear fits).1) fun fits ion turn lt =>
    (((clear fits).2 ion turn lt).1 rfl).2 rfl).imp_left ?_
  rintro ⟨after, ends, -, -, grown, total, metas, secured⟩
  exact ⟨after, ends, good.base rfl grown total metas (.inr secured) fun no => by cases no⟩

/-- `QCameraVideoMemory::allocate`. -/
theorem videoAllocate_ends (good : Good (.video userptr) memory)
    (empty : memory.mBufferCount = 0)
    (clear : Clear (.video userptr) memory (.allocate count isSecure outcomes) next) :
    Ends (.video userptr) memory (memory.videoAllocate userptr count isSecure outcomes) := by
  rcases streamAllocate_spec good empty fun fits ion nonSecure turn lt =>
      ((clear fits ion turn lt).1 nonSecure).2 rfl with
    ⟨after, ends, fits, ion, grown, total, metas, secured⟩ | ⟨after, ends, restored⟩
  · have isSecured : after.secured ≤ after.mBufferCount := by
      rw [secured, total]
      split <;> omega
    have all : isSecure = .secure → after.mBufferCount ≤ after.secured := by
      intro isSecure
      rw [secured, if_pos isSecure]
      omega
    cases userptr with
    | true =>
      rw [← empty] at grown
      refine .inl ⟨after, by rw [Memory.videoAllocate, ends]; rfl,
        good.base ?_ grown (by omega) metas (.inl ⟨empty, isSecured⟩) all⟩
      funext member
      cases member <;> rfl
    | false =>
      obtain ⟨withMeta, metaEnds, metaFilled⟩ := allocateMeta_filled after
        fun turn lt => ((clear fits ion turn lt).2 rfl).1
      obtain ⟨final, handleEnds, handleFilled⟩ := createHandles_filled
        { withMeta with mMetaBufCount := count }
        (fun index lt => metaFilled.width index (Nat.zero_le _) (by omega))
        fun turn lt => ((clear fits ion turn lt).2 rfl).2
      have metaWidth :
        Filled .mMetadata (newWidths isSecure .mMetadata) 0 count after withMeta := by
        simpa [newWidths, Member.width] using metaFilled
      have handleWidth : Filled .mNativeHandles (newWidths isSecure .mNativeHandles) 0 count
          { withMeta with mMetaBufCount := count } final := by
        simpa [newWidths, Member.width] using handleFilled
      have metaGrown := (grown.fill metaWidth rfl).recount withMeta.mBufferCount count
        withMeta.secured
      have whole :
        Grown (newWidths isSecure) (Kind.video false).has memory.mBufferCount count memory
          final := by
        rw [empty]
        convert metaGrown.fill handleWidth rfl using 1
        funext member
        cases member <;> rfl
      have finalTotal : final.mBufferCount = count :=
        handleFilled.counts.mBufferCount.trans (metaFilled.counts.mBufferCount.trans total)
      have finalSecured : final.secured = after.secured :=
        handleFilled.counts.secured.trans metaFilled.counts.secured
      have finalMeta : final.mMetaBufCount = count := handleFilled.counts.mMetaBufCount
      refine .inl ⟨final, ?_, good.grow whole (by omega) ?_ (.inl ⟨empty, ?_⟩)
        (newWidths_full fun isSecure => ?_)⟩
      · rw [Memory.videoAllocate, ends]
        simp [metaEnds, handleEnds]
      · rw [finalMeta, finalTotal]
        rfl
      · rw [finalSecured, finalTotal, ← total]
        exact isSecured
      · rw [finalSecured, finalTotal, ← total]
        exact all isSecure
  · rw [Memory.videoAllocate, ends]
    exact .inr ⟨after, rfl, restored⟩

/-- A video memory gets no more buffers, but may be asked for none. -/
theorem videoAllocateMore_ends (good : Good (.video userptr) memory)
    (clear : Clear (.video userptr) memory (.allocateMore count outcomes) next) :
    Ends (.video userptr) memory (memory.videoAllocateMore userptr count outcomes) := by
  rcases streamAllocateMore_spec good (fun fits => (clear fits).1) fun fits ion turn lt => by
      have := ((clear fits).2 ion).1
      omega with
    ⟨after, ends, fits, ion, grown, total, metas, secured⟩ | ⟨after, ends, restored⟩
  · obtain ⟨none, isEmpty⟩ := (clear fits).2 ion
    subst none
    have slots : after.slot = memory.slot :=
      funext fun member => funext fun index => grown.outside member index (by omega)
    have accounted : Accounted after (Kind.upto (.video userptr) memory.mBufferCount) := by
      convert grown.accounted _ (fun member has => ?_) good.accounted using 1
      · funext member
        cases member <;> simp [Kind.upto, Kind.has]
      · cases member <;> simp [Kind.upto, Kind.has] at has ⊢
    refine .inl ⟨{ after with mMetaBufCount := after.mBufferCount },
      by cases userptr <;> simp [Memory.videoAllocateMore, ends, forUp],
      ⟨grown.faulted.trans good.noFault, ?_, ?_, ?_⟩, ?_, ?_⟩
    · simpa [slots, total, secured] using good.live
    · change Accounted after (Kind.upto _ after.mBufferCount)
      rwa [total]
    · cases userptr with
      | true => simp [Kind.upto, Kind.has, total, isEmpty rfl]
      | false => rfl
    · simpa [slots, total] using good.clean
    · change after.secured ≤ after.mBufferCount
      rw [secured, total]
      exact good.securedLe
  · rw [Memory.videoAllocateMore, ends]
    exact .inr ⟨after, rfl, restored⟩

/-! ## Deallocating -/

theorem Kind.upto_zero (kind : Kind) : kind.upto 0 = fun _ => 0 := by
  funext member
  simp [Kind.upto]

/-- Two arrays are emptied at the end of a `deallocate`. -/
theorem vacated (memory : Memory) (member : Member) (held : Accounted memory fun other =>
      if other = .mMemInfo ∨ other = member then memory.mBufferCount else 0) :
    Accounted (upTo (Memory.release member) memory.mBufferCount memory).dealloc (fun _ => 0) ∧
      (∀ other, other = .mMemInfo ∨ other = member →
        (∀ index, memory.mBufferCount ≤ index → memory.slot other index = []) → ∀ index,
          (upTo (Memory.release member) memory.mBufferCount memory).dealloc.slot other index =
            []) ∧
      SameCounts memory (upTo (Memory.release member) memory.mBufferCount memory).dealloc := by
  have first : Emptied member memory.mBufferCount memory _ := emptied_upTo
  rw [Memory.dealloc, first.counts.mBufferCount]
  have second : Emptied .mMemInfo memory.mBufferCount
      (upTo (Memory.release member) memory.mBufferCount memory)
      (upTo Memory.deallocOneBuffer memory.mBufferCount
        (upTo (Memory.release member) memory.mBufferCount memory)) := emptied_upTo
  have empty : ∀ other, other = .mMemInfo ∨ other = member → ∀ index < memory.mBufferCount,
      (upTo Memory.deallocOneBuffer memory.mBufferCount
        (upTo (Memory.release member) memory.mBufferCount memory)).slot other index = [] := by
    intro other which index below
    by_cases info : other = .mMemInfo
    · rw [info]
      exact second.empty index below
    · obtain rfl := which.resolve_left info
      rw [second.others other info]
      exact first.empty index below
  refine ⟨?_, fun other which clean index => ?_, first.counts.trans second.counts⟩
  · refine (second.accounted _ (by simp) (first.accounted _ (by simp) held)).of_empty
      fun other index differ below => ?_
    by_cases which : other = .mMemInfo ∨ other = member
    · exact empty other which index (by simpa [which] using below)
    · simp [which] at differ
  · rcases Nat.lt_or_ge index memory.mBufferCount with below | above
    · exact empty other which index below
    · rw [second.above other above, first.above other above]
      exact clean index above

/-- `QCameraHeapMemory::deallocate`. -/
theorem heapDeallocate_good (good : Good .heap memory) : Good .heap memory.heapDeallocate := by
  obtain ⟨accounted, clear, counts⟩ := vacated memory .mPtr (by
    convert good.accounted using 1
    funext member
    cases member <;> rfl)
  refine ⟨⟨counts.faulted.trans good.noFault, fun member _ index no => absurd no (by simp [
    Memory.heapDeallocate]), ?_, counts.mMetaBufCount.trans good.metaCount⟩, ?_, Nat.le_refl 0⟩
  · change Accounted _ (Kind.upto .heap 0)
    rw [Kind.upto_zero]
    exact accounted
  · intro member which index _
    have which : member = .mMemInfo ∨ member = .mPtr := which.imp_right And.left
    exact clear member which (good.clean member (which.imp_right fun own => ⟨own, rfl⟩)) index

/-- The base gives back what is left of a video memory, or a whole stream memory. -/
theorem streamDeallocate_good (faulted : memory.faulted = false)
    (held : Accounted memory (Kind.stream.upto memory.mBufferCount))
    (clean : ∀ index, memory.mBufferCount ≤ index → memory.slot .mMemInfo index = [])
    (metas : memory.mMetaBufCount = 0) (other : kind ≠ .heap) :
    Good kind memory.streamDeallocate := by
  obtain ⟨accounted, clear, counts⟩ := vacated memory .mCameraMemory (by
    convert held using 1
    funext member
    cases member <;> rfl)
  refine ⟨⟨counts.faulted.trans faulted, fun member _ index no => absurd no (by simp [
    Memory.streamDeallocate]), ?_, ?_⟩, ?_, Nat.le_refl 0⟩
  · change Accounted _ (Kind.upto kind 0)
    rw [Kind.upto_zero]
    exact accounted
  · change _ = Kind.upto kind 0 .mMetadata
    rw [Kind.upto_zero]
    exact counts.mMetaBufCount.trans metas
  · intro member which index _
    obtain rfl := which.resolve_right fun no => other no.2
    exact clear .mMemInfo (.inl rfl) clean index

/-- The metadata of a video memory is released, and no `NULL` is met. -/
theorem deallocateMeta_emptied (memory : Memory)
    (live : ∀ index < memory.mMetaBufCount, memory.slot .mMetadata index ≠ []) :
    ∃ after, memory.deallocateMeta = { after with mMetaBufCount := 0 } ∧
      Emptied .mMetadata memory.mMetaBufCount memory after := by
  refine ⟨_, rfl, ?_⟩
  refine upTo_rule _ (fun turns after => turns ≤ memory.mMetaBufCount →
    Emptied .mMetadata turns memory after) (fun _ => .start) (fun turn lt state emptied le => ?_)
      (Nat.le_refl _)
  have before := emptied (Nat.le_of_lt lt)
  have isLive : (state.slot .mMetadata turn).isEmpty = false := by
    rw [before.outside turn (Nat.le_refl _), ← Bool.not_eq_true, List.isEmpty_iff]
    exact live turn lt
  have same : state.deref .mMetadata turn = state := by
    simp [Memory.deref, isLive]
  rw [same]
  exact before.release

/-- `QCameraVideoMemory::deallocate`. -/
theorem videoDeallocate_good (good : Good (.video userptr) memory) :
    Good (.video userptr) (memory.videoDeallocate userptr) := by
  -- The native handles are deleted first.
  obtain ⟨dropped, isDropped, slots, counts, accounted⟩ : ∃ dropped,
      memory.videoDeallocate userptr = dropped.deallocateMeta.streamDeallocate ∧
      dropped.slot = memory.slot ∧ SameCounts memory dropped ∧
      Accounted dropped (Function.update (Kind.upto (.video userptr) memory.mBufferCount)
        .mNativeHandles 0) := by
    cases userptr with
    | true =>
      refine ⟨memory, rfl, rfl, ⟨rfl, rfl, rfl, rfl⟩, ?_⟩
      have same : Function.update (Kind.upto (.video true) memory.mBufferCount) .mNativeHandles 0 =
          Kind.upto (.video true) memory.mBufferCount := Function.update_eq_self_iff.mpr rfl
      rw [same]
      exact good.accounted
    | false =>
      have held := good.accounted.drop .mNativeHandles
      have all : Kind.upto (.video false) memory.mBufferCount .mNativeHandles =
          memory.mBufferCount := rfl
      rw [all] at held
      refine ⟨_, rfl, ?_, ?_, held⟩
      · simp [upTo_drop]
      · simp only [upTo_drop, Bool.false_eq_true, if_false]
        exact ⟨rfl, rfl, rfl, rfl⟩
  have isCount : dropped.mMetaBufCount =
      Kind.upto (.video userptr) memory.mBufferCount .mMetadata :=
    counts.mMetaBufCount.trans good.metaCount
  obtain ⟨after, isAfter, emptied⟩ := deallocateMeta_emptied dropped (by
    intro index below none
    rw [isCount] at below
    rw [slots] at none
    cases userptr with
    | true => exact absurd below (Nat.not_lt_zero index)
    | false =>
      have live := good.live .mMetadata rfl index below (by simp)
      rw [none] at live
      cases live)
  have buffers : after.mBufferCount = memory.mBufferCount :=
    emptied.counts.mBufferCount.trans counts.mBufferCount
  rw [isDropped, isAfter]
  refine streamDeallocate_good (emptied.counts.faulted.trans (counts.faulted.trans good.noFault))
    ?_ ?_ rfl (by simp)
  · -- Of the buffers the base has its own part still.
    change Accounted after (Kind.stream.upto after.mBufferCount)
    rw [buffers]
    have held := emptied.accounted _ (by rw [isCount]; simp) accounted
    refine held.of_empty fun other index differ below => ?_
    cases other with
    | mMetadata =>
      refine emptied.empty index ?_
      rw [isCount]
      simpa [Kind.upto, Kind.has] using below
    | mMemInfo => simp [Kind.upto, Kind.has] at differ
    | mPtr => simp [Kind.upto, Kind.has] at differ
    | mCameraMemory => simp [Kind.upto, Kind.has] at differ
    | mNativeHandles => simp [Kind.upto, Kind.has] at differ
  · intro index above
    change after.mBufferCount ≤ index at above
    change after.slot .mMemInfo index = []
    rw [emptied.others .mMemInfo (by decide), slots]
    exact good.memInfoClean index (buffers ▸ above)

end Invariant

/-! ## Runs -/

/-- A new object is a good one. -/
theorem created_good (kind : Kind) (uninit : Nat → List Nat) :
    Good kind (Memory.created uninit) := by
  refine ⟨⟨rfl, fun _ _ index no => absurd no (Nat.not_lt_zero index), ?_, ?_⟩, ?_, Nat.le_refl 0⟩
  · change Accounted _ (Kind.upto kind 0)
    rw [Kind.upto_zero]
    simp [Accounted, held, Memory.created, members]
  · change 0 = Kind.upto kind 0 .mMetadata
    rw [Kind.upto_zero]
  · intro member which index _
    have : member ≠ .mNativeHandles := by
      rintro rfl
      simp at which
    simp [Memory.created, this]

/-- Every call that the condition admits ends as it is to end. -/
theorem execute_ends {kind : Kind} {memory : Memory} {call : Call}
    (good : Good kind memory) (onEmpty : OnEmpty memory call next)
    (clear : Clear kind memory call next) :
    Ends kind memory (memory.execute kind call) := by
  cases call with
  | allocate count isSecure outcomes =>
    cases kind with
    | heap => exact heapAllocate_ends good onEmpty clear
    | stream => exact streamAllocate_ends good onEmpty clear
    | video userptr => exact videoAllocate_ends good onEmpty clear
  | allocateMore count outcomes =>
    cases kind with
    | heap => exact heapAllocateMore_ends good clear
    | stream => exact streamAllocateMore_ends good clear
    | video userptr => exact videoAllocateMore_ends good clear
  | deallocate =>
    cases kind with
    | heap => exact .inl ⟨_, rfl, heapDeallocate_good good⟩
    | stream =>
      exact .inl ⟨_, rfl, streamDeallocate_good good.noFault good.accounted good.memInfoClean
        good.metaCount (by decide)⟩
    | video userptr => exact .inl ⟨_, rfl, videoDeallocate_good good⟩

/-- A `deallocate` leaves no buffers. -/
theorem deallocate_empties (kind : Kind) (memory : Memory) :
    (memory.step kind .deallocate).mBufferCount = 0 := by
  cases kind <;> rfl

/-- In every run whose calls fail only before anything is done, the object stays sound, a call
that fails changes nothing, and after `deallocate` everything has been released once. -/
theorem memoryRun_settled (kind : Kind) (uninit : Nat → List Nat) (calls : List Call)
    (onEmpty : EachStep (Memory.step kind) OnEmpty (Memory.created uninit) calls)
    (clear : EachStep (Memory.step kind) (Clear kind) (Memory.created uninit) calls) :
    EachStep (Memory.step kind) (Settled kind) (Memory.created uninit) calls := by
  refine (onEmpty.and clear).of_invariant (Good kind) ?_ (created_good kind uninit)
  rintro memory call good ⟨empty, isClear⟩
  rcases execute_ends good empty isClear with ⟨after, ends, isGood⟩ | ⟨after, ends, restored⟩
  · have next : memory.step kind call = after := by
      rw [Memory.step, ends]
    rw [next]
    refine ⟨isGood, isGood.toSound, fun fails => ?_, ?_⟩
    · rw [ends] at fails
      cases fails
    · rintro rfl
      have books := isGood.accounted
      rw [← next, deallocate_empties, Kind.upto_zero, next] at books
      simpa [Accounted, held, members] using books
  · have next : memory.step kind call = after := by
      rw [Memory.step, ends]
    rw [next]
    refine ⟨good.restore restored, (good.restore restored).toSound,
      fun _ => ⟨restored.counts.mBufferCount, restored.counts.mMetaBufCount, restored.slot⟩, ?_⟩
    rintro rfl
    cases kind <;> cases ends

/-- What succeeds always. -/
def Outcomes.good : Outcomes :=
  ⟨fun _ => .gives, fun _ => true, fun _ => true, fun _ => true, fun _ => true⟩

/-- A video memory with two buffers, which are released again. -/
theorem memoryRun_settled_video :
    EachStep (Memory.step (.video false)) (Settled (.video false)) (Memory.created fun _ => [])
      [.allocate 2 .nonSecure .good, .deallocate] :=
  memoryRun_settled (.video false) (fun _ => []) [.allocate 2 .nonSecure .good, .deallocate]
    ⟨rfl, trivial, trivial⟩
    ⟨fun _ _ _ _ => ⟨fun _ => ⟨fun _ => rfl, fun _ => rfl⟩, fun _ => ⟨rfl, rfl⟩⟩, trivial, trivial⟩

/-- A video memory with one buffer gets one more, and counts three. -/
theorem memoryRun_countsThree :
    ¬ EachStep (Memory.step (.video false)) (Settled (.video false)) (Memory.created fun _ => [])
      [.allocate 1 .nonSecure .good, .allocateMore 1 .good] := by
  rintro ⟨-, settled, -⟩
  have live := settled.sound.live .mMetadata rfl 1 (by decide) (by decide)
  exact absurd live (by decide)

end AnglerHal.MemoryObjects
