import Mathlib.Algebra.BigOperators.Group.List.Basic
import Mathlib.Algebra.GroupWithZero.Nat

namespace AnglerHal.BufDef

/-!
# Buffer definitions

`getBufDef` describes one buffer of a memory object to the kernel: a descriptor
for each plane, with the plane's length and offset, the descriptor of the file
that holds the buffer, and the length of the planes before it.  HAL3's
`QCamera3Memory` and HAL1's `QCameraMemory` fill the descriptors alike.
-/

/-- `VIDEO_MAX_PLANES`. -/
def videoMaxPlanes : Nat :=
  8

/-- What `getBufDef` reads of `cam_mp_len_offset_t`. -/
structure MpLenOffset where
  len : UInt32
  offset : UInt32
  deriving DecidableEq

/-- `cam_frame_len_offset_t`; `mp` has room for `VIDEO_MAX_PLANES` planes. -/
structure FrameLenOffset where
  numPlanes : UInt32
  mp : Nat → MpLenOffset
  frameLen : UInt32
  withinPlanes : numPlanes.toNat ≤ videoMaxPlanes

/-- What `getBufDef` reads of an entry of `mMemInfo`. -/
structure MemInfo where
  fd : Int32
  size : UInt64
  deriving DecidableEq

/-- A memory object; `self` is its address. -/
structure Memory where
  mBufferCount : UInt32
  mMemInfo : Nat → MemInfo
  mPtr : Nat → UInt64
  self : UInt64

/-- `struct v4l2_plane`. -/
structure V4l2Plane where
  length : UInt32
  userptr : UInt64
  dataOffset : UInt32
  reserved : UInt32
  deriving DecidableEq

/-- What the two functions write of `mm_camera_buf_def_t`. -/
structure BufDefinition where
  fd : Int32
  mplane : Bool
  frameLen : UInt64
  memInfo : UInt64
  numPlanes : Int8
  buffer : UInt64
  bufIdx : UInt32
  planes : Nat → V4l2Plane

inductive Status where
  | noError
  | noInit
  deriving DecidableEq

/-- `(long unsigned int)fd`. -/
def userptrOf (fd : Int32) : UInt64 :=
  fd.toInt64.toUInt64

/-- The planes with plane `i` replaced. -/
def setPlane (planes : Nat → V4l2Plane) (i : Nat) (plane : V4l2Plane) : Nat → V4l2Plane :=
  fun j => if j = i then plane else planes j

/-- The planes below `count` that the loop has set, after plane 0. -/
def setPlanes (memory : Memory) (offset : FrameLenOffset) (index : Nat)
    (planes : Nat → V4l2Plane) : Nat → Nat → V4l2Plane
  | 0 => planes
  | 1 => setPlane planes 0
      { length := (offset.mp 0).len
        userptr := userptrOf (memory.mMemInfo index).fd
        dataOffset := (offset.mp 0).offset
        reserved := 0 }
  | i + 2 =>
    let before := setPlanes memory offset index planes (i + 1)
    -- The table is asked for the buffer with the number of the plane.
    setPlane before (i + 1)
      { length := (offset.mp (i + 1)).len
        userptr := userptrOf (memory.mMemInfo (i + 1)).fd
        dataOffset := (offset.mp (i + 1)).offset
        reserved := (before i).reserved + (before i).length }

/-- How many planes are set: plane 0 always is, and the loop runs up to the
signed `num_planes`. -/
def planesSet (numPlanes : Int8) : Nat :=
  if numPlanes.toInt ≤ 1 then 1 else numPlanes.toInt.toNat

/-- `QCamera3Memory::getBufDef`. -/
def hal3GetBufDef (memory : Memory) (offset : FrameLenOffset) (bufDef : BufDefinition)
    (index : UInt32) : Status × BufDefinition :=
  if memory.mBufferCount = 0 then (.noInit, bufDef)
  else
    let numPlanes := offset.numPlanes.toUInt8.toInt8
    (.noError,
      { bufDef with
        fd := (memory.mMemInfo index.toNat).fd
        frameLen := (memory.mMemInfo index.toNat).size
        memInfo := memory.self
        numPlanes := numPlanes
        buffer := memory.mPtr index.toNat
        bufIdx := index.toUInt8.toUInt32
        planes := setPlanes memory offset index.toNat bufDef.planes (planesSet numPlanes) })

/-- `QCamera3StreamMem`: heap buffers below `mMaxHeapBuffers`, gralloc buffers from
there on. -/
structure StreamMem where
  mMaxHeapBuffers : UInt32
  mHeapMem : Memory
  mGrallocMem : Memory
  self : UInt64

/-- The memory object that a buffer of the stream belongs to. -/
def StreamMem.memoryOf (streamMem : StreamMem) (index : UInt32) : Memory :=
  if index < streamMem.mMaxHeapBuffers then streamMem.mHeapMem else streamMem.mGrallocMem

/-- `QCamera3StreamMem::getBufDef`. -/
def streamGetBufDef (streamMem : StreamMem) (offset : FrameLenOffset) (bufDef : BufDefinition)
    (index : UInt32) : Status × BufDefinition :=
  let (ret, bufDef) := hal3GetBufDef (streamMem.memoryOf index) offset bufDef index
  (ret, { bufDef with memInfo := streamMem.self })

/-- `QCameraMemory::getBufDef`. -/
def hal1GetBufDef (memory : Memory) (offset : FrameLenOffset) (bufDef : BufDefinition)
    (index : UInt32) : BufDefinition :=
  if memory.mBufferCount = 0 then bufDef
  else
    let numPlanes := offset.numPlanes.toUInt8.toInt8
    { fd := (memory.mMemInfo index.toNat).fd
      mplane := true
      frameLen := offset.frameLen.toUInt64
      memInfo := memory.self
      numPlanes := numPlanes
      buffer := memory.mPtr index.toNat
      bufIdx := index
      planes := setPlanes memory offset index.toNat bufDef.planes (planesSet numPlanes) }

/-! ## The descriptors -/

/-- The lengths of the planes before one. -/
def lengthBefore (offset : FrameLenOffset) (i : Nat) : Nat :=
  ((List.range i).map fun plane => (offset.mp plane).len.toNat).sum

/-- Descriptor `i` is that of the buffer with the given `fd`. -/
structure Described (offset : FrameLenOffset) (fd : Int32) (planes : Nat → V4l2Plane) (i : Nat) :
    Prop where
  userptr : (planes i).userptr = userptrOf fd
  dataOffset : (planes i).dataOffset = (offset.mp i).offset
  length : (planes i).length = (offset.mp i).len
  reserved : (planes i).reserved.toNat = lengthBefore offset i

/-- Every plane of the frame is described. -/
def AllDescribed (memory : Memory) (offset : FrameLenOffset) (index : UInt32)
    (bufDef : BufDefinition) : Prop :=
  ∀ i < offset.numPlanes.toNat,
    Described offset (memory.mMemInfo index.toNat).fd bufDef.planes i

/-- The entries of the table that the loop takes in place of the buffer's own have its
`fd`, and the lengths before each plane fit the 32-bit field. -/
def SameEntries (memory : Memory) (offset : FrameLenOffset) (index : UInt32) : Prop :=
  ∀ i < offset.numPlanes.toNat, lengthBefore offset i < 2 ^ 32 ∧
    (0 < i → (memory.mMemInfo i).fd = (memory.mMemInfo index.toNat).fd)

section Planes

variable {memory : Memory} {offset : FrameLenOffset} {index count i : Nat}
  {planes : Nat → V4l2Plane}

theorem lengthBefore_succ :
    lengthBefore offset (i + 1) = lengthBefore offset i + (offset.mp i).len.toNat := by
  simp [lengthBefore, List.range_succ]

theorem userptrOf_injective {first second : Int32} (same : userptrOf first = userptrOf second) :
    first = second := by
  have signed : first.toInt64 = second.toInt64 := by
    have := congrArg UInt64.toInt64 same
    simpa [userptrOf] using this
  have back := congrArg Int64.toInt32 signed
  simpa using back

/-- What the loop leaves in a descriptor: the length before it wraps. -/
theorem setPlanes_get (set : i < count) :
    setPlanes memory offset index planes count i =
      { length := (offset.mp i).len
        userptr := userptrOf (memory.mMemInfo (if i = 0 then index else i)).fd
        dataOffset := (offset.mp i).offset
        reserved := UInt32.ofNat (lengthBefore offset i) } := by
  induction count generalizing i with
  | zero => omega
  | succ last ih =>
    cases last with
    | zero =>
      obtain rfl : i = 0 := by omega
      simp [setPlanes, setPlane, lengthBefore]
    | succ last =>
      by_cases isLast : i = last + 1
      · subst isLast
        simp only [setPlanes, setPlane, if_true, ih (Nat.lt_succ_self last)]
        simp [lengthBefore_succ, UInt32.ofNat_add]
      · simp only [setPlanes, setPlane, isLast, if_false]
        exact ih (by omega)

theorem numPlanes_le_planesSet (offset : FrameLenOffset) :
    offset.numPlanes.toNat ≤ planesSet offset.numPlanes.toUInt8.toInt8 := by
  have bounded := offset.withinPlanes
  unfold videoMaxPlanes at bounded
  have kept : offset.numPlanes.toUInt8.toBitVec.toNat = offset.numPlanes.toNat :=
    Nat.mod_eq_of_lt (by omega)
  have value : offset.numPlanes.toUInt8.toInt8.toInt = offset.numPlanes.toNat := by
    rw [← kept]
    have small : 2 * offset.numPlanes.toUInt8.toBitVec.toNat < 2 ^ 8 := by omega
    exact BitVec.toInt_eq_toNat_of_lt small
  rw [planesSet, value, Int.toNat_natCast]
  split <;> omega

/-- A descriptor is right exactly when the entry it is taken from has the buffer's
`fd` and the length before it does not wrap. -/
theorem described_iff {bufDef : BufDefinition} {index : UInt32}
    (set : bufDef.planes = setPlanes memory offset index.toNat planes
      (planesSet offset.numPlanes.toUInt8.toInt8)) :
    AllDescribed memory offset index bufDef ↔ SameEntries memory offset index := by
  refine forall_congr' fun i => forall_congr' fun inFrame => ?_
  have value : bufDef.planes i = _ :=
    (congrFun set i).trans
      (setPlanes_get (Nat.lt_of_lt_of_le inFrame (numPlanes_le_planesSet offset)))
  constructor
  · intro described
    have sum := described.reserved
    have entry := userptrOf_injective (value ▸ described.userptr)
    rw [value, UInt32.toNat_ofNat'] at sum
    refine ⟨by omega, fun later => ?_⟩
    rwa [if_neg (by omega)] at entry
  · rintro ⟨fits, same⟩
    have entry : (memory.mMemInfo (if i = 0 then index.toNat else i)).fd =
        (memory.mMemInfo index.toNat).fd := by
      split
      · rfl
      · exact same (by omega)
    exact {
      userptr := by rw [value, entry]
      dataOffset := by rw [value]
      length := by rw [value]
      reserved := by rw [value, UInt32.toNat_ofNat', Nat.mod_eq_of_lt fits] }

end Planes

/-- Both functions describe every plane of an allocated buffer exactly when the
entries with the numbers of the planes have the `fd` of the buffer. -/
theorem getBufDef_describes_iff (offset : FrameLenOffset) (bufDef : BufDefinition)
    (index : UInt32) :
    (∀ memory : Memory, memory.mBufferCount ≠ 0 →
      ((hal3GetBufDef memory offset bufDef index).1 = .noError ∧
          AllDescribed memory offset index (hal3GetBufDef memory offset bufDef index).2 ↔
        SameEntries memory offset index) ∧
      (AllDescribed memory offset index (hal1GetBufDef memory offset bufDef index) ↔
        SameEntries memory offset index)) ∧
    (∀ streamMem : StreamMem, (streamMem.memoryOf index).mBufferCount ≠ 0 →
      ((streamGetBufDef streamMem offset bufDef index).1 = .noError ∧
          AllDescribed (streamMem.memoryOf index) offset index
            (streamGetBufDef streamMem offset bufDef index).2 ↔
        SameEntries (streamMem.memoryOf index) offset index)) := by
  have hal3 (memory : Memory) (allocated : memory.mBufferCount ≠ 0) :
      (hal3GetBufDef memory offset bufDef index).1 = .noError ∧
          AllDescribed memory offset index (hal3GetBufDef memory offset bufDef index).2 ↔
        SameEntries memory offset index := by
    rw [hal3GetBufDef, if_neg allocated]
    exact (and_iff_right rfl).trans (described_iff rfl)
  refine ⟨fun memory allocated => ⟨hal3 memory allocated, ?_⟩, fun streamMem allocated => ?_⟩
  · rw [hal1GetBufDef, if_neg allocated]
    exact described_iff rfl
  · exact hal3 (streamMem.memoryOf index) allocated

/-- Two planes of ten bytes. -/
def twoPlanes : FrameLenOffset where
  numPlanes := 2
  mp := fun _ => ⟨10, 0⟩
  frameLen := 20
  withinPlanes := Nat.le_of_ble_eq_true rfl

/-- Two heap buffers, of the files 7 and 8. -/
def twoBuffers : Memory where
  mBufferCount := 2
  mMemInfo := fun i => if i = 0 then ⟨7, 20⟩ else if i = 1 then ⟨8, 20⟩ else ⟨-1, 0⟩
  mPtr := fun _ => 0
  self := 0

/-- A definition before it is filled. -/
def blank : BufDefinition :=
  ⟨0, false, 0, 0, 0, 0, 0, fun _ => ⟨0, 0, 0, 0⟩⟩

/-- The second buffer has the number of the second plane. -/
theorem getBufDef_describes_second :
    AllDescribed twoBuffers twoPlanes 1 (hal1GetBufDef twoBuffers twoPlanes blank 1) := by
  have entries : SameEntries twoBuffers twoPlanes 1 := by
    unfold SameEntries
    decide
  exact (((getBufDef_describes_iff twoPlanes blank 1).1 twoBuffers (by decide)).2).mpr entries

/-- The second plane of the first buffer points to the second buffer. -/
theorem secondPlane_otherBuffer :
    ¬ ∀ (memory : Memory) (offset : FrameLenOffset) (bufDef : BufDefinition) (index : UInt32),
      memory.mBufferCount ≠ 0 →
        AllDescribed memory offset index (hal3GetBufDef memory offset bufDef index).2 ∧
        AllDescribed memory offset index (hal1GetBufDef memory offset bufDef index) := by
  intro claim
  have described := (claim twoBuffers twoPlanes blank 0 (by decide)).1 1 (by decide)
  exact absurd described.userptr (by decide)

end AnglerHal.BufDef
