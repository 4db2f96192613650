import AnglerHal.LabelledRun

namespace AnglerHal.MemoryPool

/-!
# The memory pool of HAL 1

`QCameraStreamMemory` objects take their ION buffers from a shared
`QCameraMemoryPool` and release them into it.  A buffer is known by its file
descriptors, which `QCameraMemInfo` copies from one place to another; here it
has a number instead, and what ION was asked for when it was allocated.

The slots of `mMemInfo` from `mBufferCount` on are written before they are read
again, so an object is modelled with the slots below it.  The mappings in
`mCameraMemory` play no part.
-/

/-! ## Buffers -/

/-- `0x1 << ION_IOMMU_HEAP_ID` and `ION_HEAP(ION_CP_MM_HEAP_ID)`. -/
inductive HeapIdMask where
  | iommu
  | cpMm
  deriving DecidableEq

/-- `NON_SECURE` and `SECURE`. -/
inductive SecureMode where
  | nonSecure
  | secure
  deriving DecidableEq

/-- `flags` of `ion_allocation_data`: 0, `ION_FLAG_CACHED` or `ION_SECURE`. -/
inductive IonFlags where
  | plain
  | cached
  | secure
  deriving DecidableEq

/-- `struct ion_allocation_data`, the request to ION. -/
structure IonAllocationData where
  len : Nat
  align : Nat
  flags : IonFlags
  heapIdMask : HeapIdMask
  deriving DecidableEq

/-- An ION buffer with the request that allocated it. -/
structure IonBuffer where
  id : Nat
  alloc : IonAllocationData
  deriving DecidableEq

/-- `QCameraMemInfo`; `fd`, `main_ion_fd` and `handle` are the buffer. -/
structure MemInfo where
  buffer : IonBuffer
  size : Nat
  cached : Bool
  heapId : HeapIdMask
  deriving DecidableEq

/-- The arguments of `allocateBuffer`, apart from the stream type. -/
structure Request where
  heapId : HeapIdMask
  size : Nat
  cached : Bool
  secureMode : SecureMode
  deriving DecidableEq

/--
`(len + mask) & (~mask)` for the masks `4095U` and `1048575U`.  The complement
is a 32-bit number, so the upper half of a longer length is lost.
-/
def alignTo (align len : Nat) : Nat :=
  (len + (align - 1)) % 4294967296 / align * align

/-- `alloc` in `allocOneBuffer`, at the call of `ION_IOC_ALLOC`. -/
def Request.ionAlloc (request : Request) : IonAllocationData :=
  match request.secureMode with
  | .nonSecure => {
      len := alignTo 4096 request.size
      align := 4096
      flags := if request.cached then .cached else .plain
      heapIdMask := request.heapId }
  | .secure => {
      len := alignTo 1048576 (alignTo 4096 request.size)
      align := 1048576
      flags := .secure
      heapIdMask := .cpMm }

/-- The result of `allocOneBuffer` when ION gives the buffer `id`. -/
def Request.allocOneBuffer (request : Request) (id : Nat) : MemInfo where
  buffer := {
    id := id
    alloc := request.ionAlloc }
  size := request.ionAlloc.len
  cached := request.cached
  heapId := request.heapId

/-- The secure mode that a buffer was allocated with. -/
def IonBuffer.secureMode (buffer : IonBuffer) : SecureMode :=
  if buffer.alloc.flags = .secure then .secure else .nonSecure

/-! ## The pool -/

/-- The comparison of `findBufferLocked`. -/
def Request.fits (request : Request) (info : MemInfo) : Bool :=
  request.size ≤ info.size && info.heapId = request.heapId && info.cached = request.cached

/-- `findBufferLocked`: the first entry that fits, and the list without it. -/
def findBufferLocked (request : Request) : List MemInfo → Option (MemInfo × List MemInfo)
  | [] => none
  | info :: rest =>
    if request.fits info then
      some (info, rest)
    else
      match findBufferLocked request rest with
      | none => none
      | some (found, others) => some (found, info :: others)

/--
`allocateBuffer` on one list of `mPools`: the descriptor, the list after the
call and the number of the next ION buffer, or `none` when ION fails.
-/
def allocateBuffer (request : Request) (ionAllocates : Bool) (pool : List MemInfo)
    (next : Nat) : Option (MemInfo × List MemInfo × Nat) :=
  match findBufferLocked request pool with
  | some (found, others) => some (found, others, next)
  | none =>
    if ionAllocates then
      some (request.allocOneBuffer next, pool, next + 1)
    else
      none

/-- What the loop of `alloc` leaves behind. -/
structure LoopResult where
  handed : List MemInfo
  pool : List MemInfo
  next : Nat
  succeeded : Bool
  deriving DecidableEq

/--
The loop of `QCameraMemory::alloc` from slot `i` on, up to the first failure;
`ion i` says whether ION has a buffer when slot `i` asks for one.
-/
def allocLoop (request : Request) (ion : Nat → Bool) : Nat → Nat → List MemInfo → Nat → LoopResult
  | 0, _, pool, next => {
      handed := []
      pool := pool
      next := next
      succeeded := true }
  | count + 1, i, pool, next =>
    match allocateBuffer request (ion i) pool next with
    | none => {
        handed := []
        pool := pool
        next := next
        succeeded := false }
    | some (info, others, after) =>
      let later := allocLoop request ion count (i + 1) others after
      { later with handed := info :: later.handed }

/-! ## Memory objects -/

/-- A `QCameraStreamMemory`; `mBufferCount` is the length of `memInfo`. -/
structure StreamMemory where
  cached : Bool
  streamType : Nat
  memInfo : List MemInfo
  deriving DecidableEq

/-- `MM_CAMERA_MAX_NUM_FRAMES`. -/
def mmCameraMaxNumFrames : Nat :=
  64

/-- `CAM_STREAM_TYPE_MAX`. -/
def camStreamTypeMax : Nat :=
  12

/--
The memory objects, the pool with its list for each stream type, the number of
the next ION buffer, and the buffers that were freed so far, each as often as
it was freed.
-/
structure PoolState where
  objects : List StreamMemory
  mPools : List (List MemInfo)
  next : Nat
  freed : List Nat
  deriving DecidableEq

/-- New objects and an empty pool. -/
def PoolState.created (kinds : List (Bool × Nat)) : PoolState where
  objects := kinds.map fun kind => {
    cached := kind.1
    streamType := kind.2
    memInfo := [] }
  mPools := List.replicate camStreamTypeMax []
  next := 0
  freed := []

/-- The calls on an object of the list, and `clear` of the pool. -/
inductive PoolEvent where
  | allocate (object count size : Nat) (isSecure : SecureMode) (ion : Nat → Bool)
  | allocateMore (object count size : Nat) (ion : Nat → Bool)
  | deallocate (object : Nat)
  | clear

/-- A descriptor that `allocateBuffer` handed out for a request. -/
structure Handed where
  request : Request
  info : MemInfo
  deriving DecidableEq

/-- An object and its list of `mPools` take new values. -/
def PoolState.write (object : Nat) (memory : StreamMemory) (memInfo pool : List MemInfo)
    (state : PoolState) : PoolState :=
  { state with
    objects := state.objects.set object { memory with memInfo := memInfo }
    mPools := state.mPools.set memory.streamType pool }

/-- The request for each buffer of a call on an object. -/
def StreamMemory.request (memory : StreamMemory) (size : Nat)
    (isSecure : SecureMode) : Request where
  heapId := .iommu
  size := size
  cached := memory.cached
  secureMode := isSecure

/--
`alloc` within the bound on the number of frames, with `mBufferCount` as
`allocate` and `allocateMore` assign it on success.  The way back after a
failure releases all slots below the failing one.
-/
def PoolState.alloc (object : Nat) (memory : StreamMemory) (pool : List MemInfo) (request : Request)
    (count : Nat)
    (ion : Nat → Bool)
    (mBufferCount : Nat)
    (state : PoolState) : PoolState × List Handed :=
  let done := allocLoop request ion count memory.memInfo.length pool state.next
  let handed := done.handed.map (Handed.mk request)
  if done.succeeded then
    ({ state.write object memory ((memory.memInfo ++ done.handed).take mBufferCount) done.pool with
        next := done.next }, handed)
  else
    ({ state.write object memory memory.memInfo
        (done.pool ++ (memory.memInfo ++ done.handed).reverse) with
        next := done.next }, handed)

/-- `alloc` with its test of the number of frames. -/
def PoolState.allocChecked (object : Nat) (memory : StreamMemory) (pool : List MemInfo)
    (request : Request)
    (count : Nat)
    (ion : Nat → Bool)
    (mBufferCount : Nat)
    (state : PoolState) : PoolState × List Handed :=
  if mmCameraMaxNumFrames < memory.memInfo.length + count then
    (state, [])
  else
    state.alloc object memory pool request count ion mBufferCount

/-- An object and its list of the pool, where both exist. -/
def PoolState.find (object : Nat) (state : PoolState) : Option (StreamMemory × List MemInfo) :=
  match state.objects[object]? with
  | none => none
  | some memory =>
    match state.mPools[memory.streamType]? with
    | none => none
    | some pool => some (memory, pool)

/-- One call. -/
def poolStep (state : PoolState) : PoolEvent → Option (PoolState × List Handed)
  | .allocate object count size isSecure ion =>
    match state.find object with
    | none => none
    | some (memory, pool) =>
      some (state.allocChecked object memory pool (memory.request size isSecure) count ion count)
  | .allocateMore object count size ion =>
    match state.find object with
    | none => none
    | some (memory, pool) =>
      some (state.allocChecked object memory pool (memory.request size .nonSecure) count ion
        (memory.memInfo.length + count))
  | .deallocate object =>
    match state.find object with
    | none => none
    | some (memory, pool) => some (state.write object memory [] (pool ++ memory.memInfo), [])
  | .clear =>
    some ({ state with
      mPools := state.mPools.map fun _ => []
      freed :=
        state.freed ++ state.mPools.flatten.map fun info => info.buffer.id }, [])

/-! ## Where the buffers are -/

/-- The descriptors in the pool and in the slots of the objects. -/
def PoolState.places (state : PoolState) : List MemInfo :=
  state.mPools.flatten ++ (state.objects.map StreamMemory.memInfo).flatten

/-- How often a buffer occurs in a list of descriptors. -/
def countOf (id : Nat) (infos : List MemInfo) : Nat :=
  infos.countP fun info => info.buffer.id = id

/--
Every buffer that ION gave is in exactly one place or was freed exactly once,
and there are no others.
-/
def PoolState.Accounted (state : PoolState) : Prop :=
  ∀ id, countOf id state.places + state.freed.count id = if id < state.next then 1 else 0

/--
A descriptor is what was asked for: its size, heap and caching, and the length
of the buffer behind it, with the heap, the caching and the secure mode that
ION is asked for on such a request.
-/
structure Handed.AsRequested (handed : Handed) : Prop where
  size : handed.request.size ≤ handed.info.size
  heapId : handed.info.heapId = handed.request.heapId
  cached : handed.info.cached = handed.request.cached
  len : handed.request.size ≤ handed.info.buffer.alloc.len
  flags : handed.info.buffer.alloc.flags = handed.request.ionAlloc.flags
  heapIdMask : handed.info.buffer.alloc.heapIdMask = handed.request.ionAlloc.heapIdMask

/-- After the step all buffers are accounted for, and it handed out what was requested. -/
def SoundStep (state : PoolState) (_ : List PoolEvent) (event : PoolEvent) : Prop :=
  ∀ next emitted, poolStep state event = some (next, emitted) →
      next.Accounted ∧ ∀ handed ∈ emitted, handed.AsRequested

/-! ## When the pool is safe -/

/-- The entries of a list that a request can get. -/
def Request.fitting (request : Request) (pool : List MemInfo) : List MemInfo :=
  pool.filter request.fits

/-- The largest size whose aligned length is representable. -/
def Request.sizeLimit (request : Request) : Nat :=
  match request.secureMode with
  | .nonSecure => 4294963200
  | .secure => 4293918720

/-- ION has a buffer for every slot that the pool cannot serve. -/
def IonSuffices (request : Request) (ion : Nat → Bool) (count i : Nat)
    (pool : List MemInfo) : Prop :=
  ∀ slot, i + (request.fitting pool).length ≤ slot → slot < i + count → ion slot = true

/--
The pooled buffers that a call reuses have its secure mode, and when it gets a
new one the size can be aligned.
-/
structure GoodBuffers (request : Request) (ion : Nat → Bool) (count i : Nat)
    (pool : List MemInfo) : Prop where
  reused : ∀ info ∈ (request.fitting pool).take count, info.buffer.secureMode = request.secureMode
  fresh : (request.fitting pool).length < count → ion (i + (request.fitting pool).length) = true →
      request.size ≤ request.sizeLimit

/--
`allocate` is called on an object without buffers, `allocateMore` on one with
buffers does not fail, and the buffers are good ones.  A call with too many
buffers changes nothing.
-/
def Safe (state : PoolState) (_ : List PoolEvent) : PoolEvent → Prop
  | .allocate object count size isSecure ion =>
    ∀ memory pool, state.find object = some (memory, pool) →
      memory.memInfo.length + count ≤ mmCameraMaxNumFrames → memory.memInfo = [] ∧
          GoodBuffers (memory.request size isSecure) ion count memory.memInfo.length pool
  | .allocateMore object count size ion =>
    ∀ memory pool, state.find object = some (memory, pool) →
      memory.memInfo.length + count ≤ mmCameraMaxNumFrames → (memory.memInfo ≠ [] →
          IonSuffices (memory.request size .nonSecure) ion count memory.memInfo.length pool) ∧
          GoodBuffers (memory.request size .nonSecure) ion count memory.memInfo.length pool
  | .deallocate _ => True
  | .clear => True

end AnglerHal.MemoryPool
