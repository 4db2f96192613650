import AnglerHal.HalCommon
import AnglerHal.LabelledRun
import AnglerHal.StreamMemory
import Mathlib.Algebra.Group.Nat.Defs
import Mathlib.Data.Finset.Card

namespace AnglerHal.Gralloc

open Channel (GrallocMemory Status maxNumFrames)

/-!
# The registration table of the gralloc memory

`QCamera3GrallocMemory` keeps five arrays with one entry per slot: the buffer,
its private handle, its ION data, its mapping and its frame number.  This
module embeds registration with every exit it has, and follows beside the table
which registrations have succeeded and have not been taken back.

`registerBuffer` names the buffer in its slot before it opens the ION device,
imports the buffer and maps it, and leaves the name there when one of these
fails.
-/

/-- `private_handle_t`, as far as registration reads it. -/
structure PrivateHandle where
  fd : Int
  size : Nat
  deriving DecidableEq

/-- `QCamera3MemInfo`. -/
structure MemInfo where
  fd : Int
  mainIonFd : Int
  handle : Nat
  size : Nat
  deriving DecidableEq

/-- The entries of the five arrays at one index; `0` is `NULL`. -/
structure Slot where
  mBufferHandle : Nat
  mPrivateHandle : Option PrivateHandle
  mMemInfo : MemInfo
  mPtr : Nat
  mCurrentFrameNumber : Int32
  deriving DecidableEq

/-- A slot as the constructors leave it; they do not set the mapping. -/
def Slot.fresh (ptr : Nat) : Slot where
  mBufferHandle := 0
  mPrivateHandle := none
  mMemInfo := { fd := -1, mainIonFd := -1, handle := 0, size := 0 }
  mPtr := ptr
  mCurrentFrameNumber := -1

/-- A slot as `unregisterBufferLocked` leaves it. -/
def Slot.cleared : Slot where
  mBufferHandle := 0
  mPrivateHandle := none
  mMemInfo := { fd := 0, mainIonFd := -1, handle := 0, size := 0 }
  mPtr := 0
  mCurrentFrameNumber := -1

/-- The slot has an ION handle. -/
def Slot.isUsed (slot : Slot) : Bool :=
  slot.mMemInfo.handle != 0

/-- `QCamera3GrallocMemory`. -/
structure Table where
  mStartIdx : Nat
  mBufferCount : Nat
  slots : Nat → Slot

/-- The table as its constructor leaves it. -/
def Table.new (startIdx : Nat) (ptrs : Nat → Nat) : Table where
  mStartIdx := startIdx
  mBufferCount := 0
  slots := fun index => .fresh (ptrs index)

/-- Change the entries at one index. -/
def Table.modify (index : Nat) (change : Slot → Slot) (table : Table) : Table :=
  { table with
      slots := fun other =>
        if other = index then change (table.slots other)
        else table.slots other }

/-- The indices that the loops visit, in their order. -/
def Table.indices (table : Table) : List Nat :=
  List.range' table.mStartIdx (maxNumFrames - table.mStartIdx)

/-- `getMatchBufIndex`. -/
def getMatchBufIndex (table : Table) (buffer : Nat) : Int :=
  if buffer = 0 then
    badValue
  else
    match table.indices.find? fun index =>
        (table.slots index).mBufferHandle == buffer with
    | none => -1
    | some index => index

/-- `getFreeIndexLocked`, with `none` for `-1`. -/
def getFreeIndexLocked (table : Table) : Option Nat :=
  if maxNumFrames - 1 ≤ table.mBufferCount then
    none
  else
    table.indices.find? fun index => !(table.slots index).isUsed

/-- A handle that an ION import gives; the driver numbers them from one. -/
structure IonHandle where
  id : Nat
  ne_zero : id ≠ 0
  deriving DecidableEq

/-- What the system calls of one registration answer. -/
structure SysCalls where
  /-- `open("/dev/ion")`. -/
  ionFd : Int
  /-- `ION_IOC_IMPORT`, `none` for a failure. -/
  imported : Option IonHandle
  /-- `mmap`, `none` for `MAP_FAILED`. -/
  vaddr : Option Nat
  deriving DecidableEq

/-- All three system calls succeed. -/
def SysCalls.succeed (sys : SysCalls) : Bool :=
  decide (0 ≤ sys.ionFd) && sys.imported.isSome && sys.vaddr.isSome

/-- The limit that `registerBuffer` puts on the count, in unsigned arithmetic. -/
def registrationLimit (table : Table) : Nat :=
  (2 ^ 32 + (maxNumFrames - 1) - table.mStartIdx) % 2 ^ 32

/-- The part of `registerBuffer` that fills the slot it has found. -/
def fillSlot (buffer : Nat) (priv : PrivateHandle) (sys : SysCalls) (index : Nat)
    (table : Table) : Table × Status :=
  let named := table.modify index fun slot =>
      { slot with
          mBufferHandle := buffer
          mPrivateHandle := some priv
          mMemInfo := { slot.mMemInfo with mainIonFd := sys.ionFd } }
  if sys.ionFd < 0 then
    (named, .noMemory)
  else
    match sys.imported with
    | none => (named, .noMemory)
    | some handle =>
      let known := named.modify index fun slot =>
          { slot with
              mMemInfo := { slot.mMemInfo with
                fd := priv.fd
                size := priv.size
                handle := handle.id } }
      match sys.vaddr with
      | none =>
        (known.modify index fun slot =>
          { slot with mMemInfo := { slot.mMemInfo with handle := 0 } },
          .noMemory)
      | some vaddr =>
        ({ known.modify index fun slot =>
            { slot with mPtr := vaddr } with
            mBufferCount := known.mBufferCount + 1 }, .noError)

/-- `registerBuffer`; it reads the private handle through the buffer. -/
def registerBuffer (buffer : Nat) (priv : PrivateHandle) (sys : SysCalls)
    (table : Table) : Option (Table × Status) :=
  if 0 ≤ getMatchBufIndex table buffer then
    some (table, .alreadyExists)
  else if registrationLimit table ≤ table.mBufferCount then
    some (table, .badIndex)
  else
    match getFreeIndexLocked table with
    | none => some (table, .badIndex)
    | some index =>
      if buffer = 0 then
        none
      else
        some (fillSlot buffer priv sys index table)

/-- `unregisterBufferLocked`. -/
def unregisterBufferLocked (index : Nat) (table : Table) : Table :=
  { table.modify index fun _ => .cleared with
      mBufferCount := table.mBufferCount - 1 }

/-- `unregisterBuffer`. -/
def unregisterBuffer (index : Nat) (table : Table) : Table × Status :=
  if maxNumFrames ≤ index then
    (table, .badValue)
  else if index < table.mStartIdx then
    (table, .badIndex)
  else if (table.slots index).isUsed then
    (unregisterBufferLocked index table, .noError)
  else
    (table, .badValue)

/-- The body of the loop of `unregisterBuffers`. -/
def unregisterUsed (table : Table) (index : Nat) : Table :=
  if (table.slots index).isUsed then
    unregisterBufferLocked index table
  else
    table

/-- `unregisterBuffers`. -/
def unregisterBuffers (table : Table) : Table :=
  { table.indices.foldl unregisterUsed table with mBufferCount := 0 }

/-- `markFrameNumber`. -/
def markFrameNumber (index : Nat) (frameNumber : UInt32) (table : Table) : Table × Status :=
  if maxNumFrames ≤ index then
    (table, .badIndex)
  else if index < table.mStartIdx then
    (table, .badIndex)
  else if (table.slots index).isUsed then
    (table.modify index fun slot =>
      { slot with mCurrentFrameNumber := frameNumber.toInt32 }, .noError)
  else
    (table, .badIndex)

/-! ## Calls, and the registrations they leave -/

/-- The calls on the table. -/
inductive MemCall where
  | registerBuffer (buffer : Nat) (priv : PrivateHandle) (sys : SysCalls)
  | unregisterBuffer (index : Nat)
  | unregisterBuffers
  | markFrameNumber (index : Nat) (frameNumber : UInt32)
  deriving DecidableEq

/-- A registration that has succeeded: the buffer, its slot and what it got. -/
structure Registration where
  buffer : Nat
  index : Nat
  info : MemInfo
  vaddr : Nat
  deriving DecidableEq

/-- The table, and the registrations that have not been taken back. -/
structure Tracked where
  table : Table
  live : List Registration

/-- What a successful registration adds to the live ones. -/
def registrationOf (buffer : Nat) (priv : PrivateHandle) (sys : SysCalls)
    (index : Nat) : List Registration :=
  match sys.imported, sys.vaddr with
  | some handle, some vaddr =>
    [{ buffer := buffer
       index := index
       info := {
         fd := priv.fd
         mainIonFd := sys.ionFd
         handle := handle.id
         size := priv.size }
       vaddr := vaddr }]
  | _, _ => []

/-- One call, with its return code. -/
def memStep (tracked : Tracked) : MemCall → Option (Tracked × List Status)
  | .registerBuffer buffer priv sys =>
    match registerBuffer buffer priv sys tracked.table with
    | none => none
    | some (table, status) =>
      some ({
        table := table
        live :=
          match status, getFreeIndexLocked tracked.table with
          | .noError, some index => registrationOf buffer priv sys index ++ tracked.live
          | _, _ => tracked.live }, [status])
  | .unregisterBuffer index =>
    match unregisterBuffer index tracked.table with
    | (table, status) =>
      some ({
        table := table
        live :=
          if status = .noError then
            tracked.live.filter fun reg => reg.index != index
          else
            tracked.live }, [status])
  | .unregisterBuffers => some ({ table := unregisterBuffers tracked.table, live := [] }, [])
  | .markFrameNumber index frameNumber =>
    match markFrameNumber index frameNumber tracked.table with
    | (table, status) => some ({ table := table, live := tracked.live }, [status])

/-- The slots that have an ION handle. -/
def usedSlots (table : Table) : Finset Nat :=
  (Finset.range maxNumFrames).filter fun index =>
    (table.slots index).isUsed = true

/-- What the table promises of its count and of its lookups. -/
structure TableOk (tracked : Tracked) : Prop where
  count : tracked.table.mBufferCount = (usedSlots tracked.table).card
  matched_iff : ∀ buffer, 0 ≤ getMatchBufIndex tracked.table buffer ↔
        ∃ reg ∈ tracked.live, reg.buffer = buffer
  matched : ∀ reg ∈ tracked.live, getMatchBufIndex tracked.table reg.buffer = reg.index ∧
        (tracked.table.slots reg.index).mMemInfo = reg.info ∧
        (tracked.table.slots reg.index).mPtr = reg.vaddr ∧
        ∀ index, (tracked.table.slots index).mBufferHandle = reg.buffer → index = reg.index

/-- What one call has to do. -/
structure CallOk (tracked : Tracked) (call : MemCall) : Prop where
  table : ∀ next statuses, memStep tracked call = some (next, statuses) → TableOk next
  failed : ∀ buffer priv sys next status, call = .registerBuffer buffer priv sys →
      memStep tracked call = some (next, [status]) →
      status ≠ .noError →
      next.table = tracked.table
  retried : ∀ buffer priv sys next status, call = .registerBuffer buffer priv sys →
      memStep tracked call = some (next, [status]) →
      status ≠ .noError → status ≠ .alreadyExists →
      ∀ againPriv againSys again, memStep next (.registerBuffer buffer againPriv againSys) ≠
          some (again, [.alreadyExists])

/--
A registration that gets as far as the system calls has all of them succeed;
`NULL` is not a buffer.
-/
def registersFully (tracked : Tracked) : MemCall → Bool
  | .registerBuffer buffer _ sys =>
    buffer == 0 || decide (0 ≤ getMatchBufIndex tracked.table buffer) || decide
        (registrationLimit tracked.table ≤ tracked.table.mBufferCount) ||
      (getFreeIndexLocked tracked.table).isNone || sys.succeed
  | _ => true

/-! ## The invariant and the lookups -/

/-- The table between calls. -/
structure TableInvariant (tracked : Tracked) : Prop where
  range : ∀ index, (tracked.table.slots index).isUsed = true →
        tracked.table.mStartIdx ≤ index ∧ index < maxNumFrames
  named : ∀ index, (tracked.table.slots index).mBufferHandle ≠ 0 ↔
        (tracked.table.slots index).isUsed = true
  apart : ∀ first second, (tracked.table.slots first).isUsed = true →
      (tracked.table.slots first).mBufferHandle = (tracked.table.slots second).mBufferHandle →
      first = second
  count : tracked.table.mBufferCount = (usedSlots tracked.table).card
  holds : ∀ reg ∈ tracked.live, (tracked.table.slots reg.index).isUsed = true ∧
        (tracked.table.slots reg.index).mBufferHandle = reg.buffer ∧
        (tracked.table.slots reg.index).mMemInfo = reg.info ∧
        (tracked.table.slots reg.index).mPtr = reg.vaddr
  recorded : ∀ index, (tracked.table.slots index).isUsed = true →
        ∃ reg ∈ tracked.live, reg.index = index

variable {table : Table} {index buffer vaddr : Nat} {tracked next : Tracked}
  {priv : PrivateHandle} {sys : SysCalls} {handle : IonHandle} {statuses : List Status}
  {call : MemCall}

theorem mem_indices : index ∈ table.indices ↔
      table.mStartIdx ≤ index ∧ index < maxNumFrames := by
  simp only [Table.indices, List.mem_range'_1]
  omega

theorem mem_usedSlots : index ∈ usedSlots table ↔
      index < maxNumFrames ∧ (table.slots index).isUsed = true := by
  simp [usedSlots]

theorem TableInvariant.of_matched (invariant : TableInvariant tracked)
    (matched : 0 ≤ getMatchBufIndex tracked.table buffer) :
    ∃ index, (tracked.table.slots index).isUsed = true ∧
        (tracked.table.slots index).mBufferHandle = buffer := by
  unfold getMatchBufIndex at matched
  split at matched
  · simp [badValue] at matched
  · rename_i nonzero
    split at matched
    · simp at matched
    · rename_i index found
      have named : (tracked.table.slots index).mBufferHandle = buffer := by
        simpa using List.find?_some found
      exact ⟨index, (invariant.named index).mp (named ▸ nonzero), named⟩

theorem TableInvariant.getMatchBufIndex_eq (invariant : TableInvariant tracked)
    (used : (tracked.table.slots index).isUsed = true) :
    getMatchBufIndex tracked.table (tracked.table.slots index).mBufferHandle = index := by
  have nonzero := (invariant.named index).mpr used
  unfold getMatchBufIndex
  rw [if_neg nonzero]
  split
  · rename_i missing
    have here := List.find?_eq_none.mp missing index (mem_indices.mpr (invariant.range index used))
    simp at here
  · rename_i other found
    have named : (tracked.table.slots other).mBufferHandle =
          (tracked.table.slots index).mBufferHandle := by
      simpa using List.find?_some found
    rw [invariant.apart index other used named.symm]

theorem TableInvariant.ok {tracked : Tracked} (invariant : TableInvariant tracked) :
    TableOk tracked where
  count := invariant.count
  matched_iff := by
    intro buffer
    constructor
    · intro matched
      obtain ⟨index, used, named⟩ := invariant.of_matched matched
      obtain ⟨reg, live, rfl⟩ := invariant.recorded index used
      exact ⟨reg, live, (invariant.holds reg live).2.1.symm.trans named⟩
    · rintro ⟨reg, live, rfl⟩
      obtain ⟨used, named, _⟩ := invariant.holds reg live
      have found := invariant.getMatchBufIndex_eq used
      rw [named] at found
      omega
  matched := by
    intro reg live
    obtain ⟨used, named, info, ptr⟩ := invariant.holds reg live
    have found := invariant.getMatchBufIndex_eq used
    rw [named] at found
    refine ⟨found, info, ptr, ?_⟩
    intro index same
    exact (invariant.apart reg.index index used (named.trans same.symm)).symm

theorem TableInvariant.new (startIdx : Nat) (ptrs : Nat → Nat) :
    TableInvariant { table := .new startIdx ptrs, live := [] } where
  range := by simp [Table.new, Slot.fresh, Slot.isUsed]
  named := by simp [Table.new, Slot.fresh, Slot.isUsed]
  apart := by simp [Table.new, Slot.fresh, Slot.isUsed]
  count := by simp [Table.new, usedSlots, Slot.fresh, Slot.isUsed]
  holds := by simp
  recorded := by simp [Table.new, Slot.fresh, Slot.isUsed]

/-! ## The steps -/

theorem modify_slots (index other : Nat) (change : Slot → Slot) (table : Table) :
    (table.modify index change).slots other = if other = index then change (table.slots other)
      else table.slots other :=
  rfl

/-- The slot of a complete registration. -/
def filledSlot (buffer : Nat) (priv : PrivateHandle) (ionFd : Int) (handle : IonHandle)
    (vaddr : Nat)
    (slot : Slot) : Slot where
  mBufferHandle := buffer
  mPrivateHandle := some priv
  mMemInfo := {
    fd := priv.fd
    mainIonFd := ionFd
    handle := handle.id
    size := priv.size }
  mPtr := vaddr
  mCurrentFrameNumber := slot.mCurrentFrameNumber

theorem fillSlot_succeeds (opened : 0 ≤ sys.ionFd)
    (imported : sys.imported = some handle) (mapped : sys.vaddr = some vaddr) :
    fillSlot buffer priv sys index table = ({ table.modify index
            (filledSlot buffer priv sys.ionFd handle vaddr) with
          mBufferCount := table.mBufferCount + 1 }, .noError) := by
  have notFailed : ¬ sys.ionFd < 0 := by
    omega
  simp only [fillSlot, if_neg notFailed, imported, mapped]
  refine Prod.ext ?_ rfl
  simp only [Table.modify, Table.mk.injEq, true_and]
  funext other
  by_cases same : other = index
  · simp [same, filledSlot]
  · simp [same]

theorem fillSlot_fails {buffer index : Nat} {priv : PrivateHandle} {sys : SysCalls} {table : Table}
    (failed : sys.succeed = false) :
    (fillSlot buffer priv sys index table).2 = .noMemory ∧
      ((fillSlot buffer priv sys index table).1.slots index).mBufferHandle = buffer := by
  unfold fillSlot
  dsimp only
  split
  · simp [modify_slots]
  · split
    · simp [modify_slots]
    · split
      · simp [modify_slots]
      · rename_i opened _ handle imported _ vaddr mapped
        simp only [SysCalls.succeed, imported, mapped, Option.isSome_some,
          Bool.and_true, decide_eq_false_iff_not] at failed
        omega

theorem fillSlot_status (buffer : Nat) (priv : PrivateHandle) (sys : SysCalls) (index : Nat)
    (table : Table) :
    (fillSlot buffer priv sys index table).2 = .noError ∨
      (fillSlot buffer priv sys index table).2 = .noMemory := by
  cases succeed : sys.succeed with
  | false => exact .inr (fillSlot_fails succeed).1
  | true =>
    simp only [SysCalls.succeed, Bool.and_eq_true, decide_eq_true_eq,
      Option.isSome_iff_exists] at succeed
    obtain ⟨⟨opened, handle, imported⟩, vaddr, mapped⟩ := succeed
    rw [fillSlot_succeeds opened imported mapped]
    exact .inl rfl

theorem getFreeIndexLocked_spec (free : getFreeIndexLocked table = some index) :
    table.mStartIdx ≤ index ∧ index < maxNumFrames ∧ (table.slots index).isUsed = false := by
  unfold getFreeIndexLocked at free
  split at free
  · simp at free
  · have inside := mem_indices.mp (List.mem_of_find?_eq_some free)
    have unused := List.find?_some free
    exact ⟨inside.1, inside.2, by simpa using unused⟩

theorem TableInvariant.fill {ionFd : Int} (invariant : TableInvariant tracked)
    (nonzero : buffer ≠ 0) (unmatched : ¬ 0 ≤ getMatchBufIndex tracked.table buffer)
    (free : getFreeIndexLocked tracked.table = some index) :
    TableInvariant {
      table := { tracked.table.modify index (filledSlot buffer priv ionFd handle vaddr) with
        mBufferCount := tracked.table.mBufferCount + 1 }
      live :=
        { buffer := buffer
          index := index
          info := {
            fd := priv.fd
            mainIonFd := ionFd
            handle := handle.id
            size := priv.size }
          vaddr := vaddr } :: tracked.live } := by
  obtain ⟨above, below, unused⟩ := getFreeIndexLocked_spec free
  have isNew : ∀ other, (tracked.table.slots other).mBufferHandle ≠ buffer := by
    intro other same
    have used := (invariant.named other).mp (same ▸ nonzero)
    have found := invariant.getMatchBufIndex_eq used
    rw [same] at found
    omega
  have usedNow : ∀ slot, (filledSlot buffer priv ionFd handle vaddr slot).isUsed =
        true := by
    intro slot
    simpa [filledSlot, Slot.isUsed] using handle.ne_zero
  refine ⟨?_, ?_, ?_, ?_, ?_, ?_⟩
  · intro other used
    simp only [modify_slots] at used
    by_cases same : other = index
    · rw [same]
      exact ⟨above, below⟩
    · rw [if_neg same] at used
      exact invariant.range other used
  · intro other
    simp only [modify_slots]
    by_cases same : other = index
    · simp only [if_pos same, usedNow, iff_true]
      exact nonzero
    · simp only [if_neg same]
      exact invariant.named other
  · intro first second used equal
    simp only [modify_slots] at used equal
    by_cases isFirst : first = index
    · by_cases isSecond : second = index
      · exact isFirst.trans isSecond.symm
      · rw [if_pos isFirst, if_neg isSecond] at equal
        exact absurd equal.symm (isNew second)
    · rw [if_neg isFirst] at used equal
      by_cases isSecond : second = index
      · rw [if_pos isSecond] at equal
        exact absurd equal (isNew first)
      · rw [if_neg isSecond] at equal
        exact invariant.apart first second used equal
  · have slotsNow : usedSlots { tracked.table.modify index
              (filledSlot buffer priv ionFd handle vaddr) with
            mBufferCount := tracked.table.mBufferCount + 1 } =
          insert index (usedSlots tracked.table) := by
      ext other
      rw [Finset.mem_insert, mem_usedSlots, mem_usedSlots]
      simp only [modify_slots]
      by_cases same : other = index
      · simp [same, usedNow, below]
      · simp [same]
    rw [slotsNow, Finset.card_insert_of_notMem, invariant.count]
    simp [mem_usedSlots, unused]
  · intro reg live
    obtain rfl | old := List.mem_cons.mp live
    · simp only [modify_slots, if_true]
      exact ⟨usedNow _, rfl, rfl, rfl⟩
    · have held := invariant.holds reg old
      have apart : reg.index ≠ index := by
        intro same
        rw [same, unused] at held
        simp at held
      simpa only [modify_slots, if_neg apart] using held
  · intro other used
    simp only [modify_slots] at used
    by_cases same : other = index
    · exact ⟨_, List.mem_cons_self, same.symm⟩
    · rw [if_neg same] at used
      obtain ⟨reg, live, at_index⟩ := invariant.recorded other used
      exact ⟨reg, List.mem_cons_of_mem _ live, at_index⟩

theorem TableInvariant.clear (invariant : TableInvariant tracked)
    (used : (tracked.table.slots index).isUsed = true) :
    TableInvariant {
      table := unregisterBufferLocked index tracked.table
      live := tracked.live.filter fun reg => reg.index != index } := by
  have unused : Slot.cleared.isUsed = false := by
    decide
  refine ⟨?_, ?_, ?_, ?_, ?_, ?_⟩
  · intro other stillUsed
    simp only [unregisterBufferLocked, modify_slots] at stillUsed
    by_cases same : other = index
    · simp [if_pos same, unused] at stillUsed
    · rw [if_neg same] at stillUsed
      exact invariant.range other stillUsed
  · intro other
    simp only [unregisterBufferLocked, modify_slots]
    by_cases same : other = index
    · simp only [if_pos same, unused]
      simp [Slot.cleared]
    · simp only [if_neg same]
      exact invariant.named other
  · intro first second stillUsed equal
    simp only [unregisterBufferLocked, modify_slots] at stillUsed equal
    by_cases isFirst : first = index
    · simp [if_pos isFirst, unused] at stillUsed
    · rw [if_neg isFirst] at stillUsed equal
      by_cases isSecond : second = index
      · have nonzero := (invariant.named first).mpr stillUsed
        rw [if_pos isSecond] at equal
        exact absurd equal nonzero
      · rw [if_neg isSecond] at equal
        exact invariant.apart first second stillUsed equal
  · have slotsNow : usedSlots (unregisterBufferLocked index tracked.table) =
          (usedSlots tracked.table).erase index := by
      ext other
      rw [Finset.mem_erase, mem_usedSlots, mem_usedSlots]
      simp only [unregisterBufferLocked, modify_slots]
      by_cases same : other = index
      · simp [same, unused]
      · simp [same]
    have member : index ∈ usedSlots tracked.table :=
      mem_usedSlots.mpr ⟨(invariant.range index used).2, used⟩
    rw [slotsNow, Finset.card_erase_of_mem member, ← invariant.count]
    rfl
  · intro reg live
    obtain ⟨old, apart⟩ := List.mem_filter.mp live
    have held := invariant.holds reg old
    have elsewhere : reg.index ≠ index := by
      simpa using apart
    simpa only [unregisterBufferLocked, modify_slots, if_neg elsewhere] using held
  · intro other stillUsed
    simp only [unregisterBufferLocked, modify_slots] at stillUsed
    by_cases same : other = index
    · simp [if_pos same, unused] at stillUsed
    · rw [if_neg same] at stillUsed
      obtain ⟨reg, live, rfl⟩ := invariant.recorded other stillUsed
      exact ⟨reg, List.mem_filter.mpr ⟨live, by simpa using same⟩, rfl⟩

theorem foldl_unregisterUsed (indices : List Nat) (table : Table) :
    (indices.foldl unregisterUsed table).mStartIdx = table.mStartIdx ∧ ∀ index,
        (indices.foldl unregisterUsed table).slots index =
          if index ∈ indices ∧ (table.slots index).isUsed = true then
            .cleared
          else
            table.slots index := by
  induction indices generalizing table with
  | nil => simp
  | cons first rest inductionHypothesis =>
    obtain ⟨startIdx, later⟩ := inductionHypothesis (unregisterUsed table first)
    rw [List.foldl_cons]
    constructor
    · rw [startIdx, unregisterUsed]
      split <;> rfl
    · intro index
      rw [later index]
      have firstSlots : (unregisterUsed table first).slots index =
            if index = first ∧ (table.slots index).isUsed = true then
              .cleared
            else
              table.slots index := by
        unfold unregisterUsed
        by_cases same : index = first
        · subst same
          split <;> simp_all [unregisterBufferLocked, modify_slots]
        · split <;> simp [unregisterBufferLocked, modify_slots, same]
      have unused : Slot.cleared.isUsed = false := by
        decide
      rw [firstSlots]
      by_cases same : index = first
      · by_cases used : (table.slots index).isUsed = true
        · simp [same, unused, same ▸ used]
        · simp [same, same ▸ used]
      · simp [same]

theorem TableInvariant.clearAll (invariant : TableInvariant tracked) :
    TableInvariant {
      table := unregisterBuffers tracked.table, live := [] } := by
  obtain ⟨startIdx, slots⟩ := foldl_unregisterUsed tracked.table.indices tracked.table
  have nothing : ∀ index, ((unregisterBuffers tracked.table).slots index).isUsed = false ∧
          ((unregisterBuffers tracked.table).slots index).mBufferHandle = 0 := by
    intro index
    simp only [unregisterBuffers]
    rw [slots index]
    split
    · decide
    · rename_i kept
      have unused : ¬ (tracked.table.slots index).isUsed = true := by
        intro used
        exact kept ⟨mem_indices.mpr (invariant.range index used), used⟩
      have unnamed := mt (invariant.named index).mp unused
      exact ⟨by simpa using unused, by simpa using unnamed⟩
  refine ⟨?_, ?_, ?_, ?_, by simp, ?_⟩
  · intro index used
    simp [nothing index] at used
  · intro index
    simp [nothing index]
  · intro index _ used
    simp [nothing index] at used
  · have empty : usedSlots (unregisterBuffers tracked.table) = ∅ := by
      ext index
      simp [mem_usedSlots, nothing index]
    rw [empty]
    rfl
  · intro index used
    simp [nothing index] at used

theorem TableInvariant.mark (index : Nat) (frameNumber : Int32)
    (invariant : TableInvariant tracked) :
    TableInvariant {
      table := tracked.table.modify index fun slot =>
        { slot with mCurrentFrameNumber := frameNumber }
      live := tracked.live } := by
  have same : ∀ other, ((tracked.table.modify index fun slot =>
            { slot with mCurrentFrameNumber := frameNumber }).slots
          other).mBufferHandle = (tracked.table.slots other).mBufferHandle ∧
        ((tracked.table.modify index fun slot =>
            { slot with mCurrentFrameNumber := frameNumber }).slots
          other).mMemInfo = (tracked.table.slots other).mMemInfo ∧
        ((tracked.table.modify index fun slot =>
            { slot with mCurrentFrameNumber := frameNumber }).slots
          other).mPtr = (tracked.table.slots other).mPtr := by
    intro other
    rw [modify_slots]
    split <;> exact ⟨rfl, rfl, rfl⟩
  have sameUsed : ∀ other, ((tracked.table.modify index fun slot =>
            { slot with mCurrentFrameNumber := frameNumber }).slots
          other).isUsed = (tracked.table.slots other).isUsed := by
    intro other
    simp only [Slot.isUsed, (same other).2.1]
  refine ⟨?_, ?_, ?_, ?_, ?_, ?_⟩
  · intro other used
    exact invariant.range other (sameUsed other ▸ used)
  · intro other
    simp only [sameUsed, (same other).1]
    exact invariant.named other
  · intro first second used equal
    simp only [(same _).1, sameUsed] at used equal
    exact invariant.apart first second used equal
  · have sameSlots : usedSlots (tracked.table.modify index fun slot =>
            { slot with mCurrentFrameNumber := frameNumber }) =
          usedSlots tracked.table := by
      ext other
      simp only [mem_usedSlots, sameUsed]
    rw [sameSlots]
    exact invariant.count
  · intro reg live
    simp only [sameUsed, (same _).1, (same _).2.1, (same _).2.2]
    exact invariant.holds reg live
  · intro other used
    simp only [sameUsed] at used
    exact invariant.recorded other used

/-! ## The memory of a channel -/

/-- What `StreamMemory` keeps of the table. -/
def Table.toMemory (table : Table) : GrallocMemory where
  mStartIdx := table.mStartIdx
  mBufferCount := table.mBufferCount
  slots := fun index => {
    registered := (table.slots index).isUsed
    bufferHandle := Option.guard (· != 0) (table.slots index).mBufferHandle
    frameNumber := (table.slots index).mCurrentFrameNumber }

theorem getMatchBufIndex_toMemory (isBuffer : buffer ≠ 0) :
    0 ≤ getMatchBufIndex table buffer ↔ (table.toMemory.getMatchBufIndex buffer).isSome := by
  have same : table.toMemory.getMatchBufIndex buffer = table.indices.find? fun index =>
      (table.slots index).mBufferHandle == buffer := by
    refine congrArg (List.find? · table.indices) (funext fun index => ?_)
    by_cases empty : (table.slots index).mBufferHandle = 0 <;>
      simp [Table.toMemory, Option.guard, empty, Ne.symm isBuffer]
  rw [getMatchBufIndex, if_neg isBuffer, same]
  split <;> simp_all

theorem fillSlot_toMemory (isBuffer : buffer ≠ 0) (unused : (table.slots index).isUsed = false) :
    Prod.map Table.toMemory id (fillSlot buffer priv sys index table) =
      if sys.succeed then
        ({ table.toMemory.setSlot index { table.toMemory.slots index with
            registered := true
            bufferHandle := some buffer } with
          mBufferCount := table.mBufferCount + 1 }, .noError)
      else
        (table.toMemory.setSlot index { table.toMemory.slots index with
          bufferHandle := some buffer }, .noMemory) := by
  have unusedInfo : (table.slots index).mMemInfo.handle = 0 := by
    simpa [Slot.isUsed] using unused
  obtain ⟨ionFd, imported, vaddr⟩ := sys
  by_cases closed : ionFd < 0
  · simp only [fillSlot, SysCalls.succeed, closed, Int.not_le.mpr closed, if_true]
    refine Prod.ext (congrArg (GrallocMemory.mk _ _) (funext fun other => ?_)) rfl
    by_cases same : other = index <;>
      simp [same, Table.toMemory, Table.modify, Slot.isUsed, isBuffer, Option.guard]
  · simp only [fillSlot, SysCalls.succeed, closed, Int.not_lt.mp closed, if_false]
    rcases imported with _ | handle <;> rcases vaddr with _ | vaddr <;>
      refine Prod.ext (congrArg (GrallocMemory.mk _ _) (funext fun other => ?_)) rfl <;>
      by_cases same : other = index <;>
      simp [same, Table.toMemory, Table.modify, Slot.isUsed, isBuffer, Option.guard, unusedInfo,
        IonHandle.ne_zero, GrallocMemory.setSlot_slots]

/-- `StreamMemory` registers the same buffers at the same slots. -/
theorem registerBuffer_toMemory (isBuffer : buffer ≠ 0) (inFrames : table.mStartIdx < maxNumFrames) :
    (registerBuffer buffer priv sys table).map (Prod.map Table.toMemory id) =
      some (table.toMemory.registerBuffer sys.succeed buffer) := by
  have limit : registrationLimit table = maxNumFrames - 1 - table.toMemory.mStartIdx := by
    simp only [registrationLimit, maxNumFrames, Table.toMemory] at inFrames ⊢
    omega
  have free : table.toMemory.getFreeIndexLocked = getFreeIndexLocked table := rfl
  have count : table.mBufferCount = table.toMemory.mBufferCount := rfl
  simp only [registerBuffer, GrallocMemory.registerBuffer, limit, free, count,
    getMatchBufIndex_toMemory isBuffer, if_neg isBuffer]
  split
  · rfl
  · split
    · rfl
    · cases found : getFreeIndexLocked table with
      | none => rfl
      | some index =>
        exact congrArg some (fillSlot_toMemory isBuffer (getFreeIndexLocked_spec found).2.2)

/-! ## One call -/

/-- A registration that reaches its slot. -/
structure ReachesSlot (tracked : Tracked) (buffer index : Nat) : Prop where
  nonzero : buffer ≠ 0
  unmatched : ¬ 0 ≤ getMatchBufIndex tracked.table buffer
  below : ¬ registrationLimit tracked.table ≤ tracked.table.mBufferCount
  free : getFreeIndexLocked tracked.table = some index

theorem ReachesSlot.memStep_eq (reaches : ReachesSlot tracked buffer index)
    (priv : PrivateHandle) (sys : SysCalls) :
    memStep tracked (.registerBuffer buffer priv sys) = some ({
        table := (fillSlot buffer priv sys index tracked.table).1
        live :=
          match (fillSlot buffer priv sys index tracked.table).2 with
          | .noError => registrationOf buffer priv sys index ++ tracked.live
          | _ => tracked.live },
        [(fillSlot buffer priv sys index tracked.table).2]) := by
  simp only [memStep, registerBuffer, if_neg reaches.unmatched,
    if_neg reaches.below, reaches.free, if_neg reaches.nonzero]
  cases (fillSlot buffer priv sys index tracked.table).2 <;> rfl

theorem memStep_registerBuffer_cases
    (stepped : memStep tracked (.registerBuffer buffer priv sys) = some (next, statuses)) :
    (∃ index, ReachesSlot tracked buffer index) ∨ next = tracked ∧ (statuses = [.alreadyExists] ∧
            0 ≤ getMatchBufIndex tracked.table buffer ∨
          statuses = [.badIndex] ∧ ¬ 0 ≤ getMatchBufIndex tracked.table buffer) := by
  simp only [memStep, registerBuffer] at stepped
  by_cases matched : 0 ≤ getMatchBufIndex tracked.table buffer
  · simp only [if_pos matched, Option.some.injEq, Prod.mk.injEq] at stepped
    obtain ⟨rfl, rfl⟩ := stepped
    exact .inr ⟨rfl, .inl ⟨rfl, matched⟩⟩
  · rw [if_neg matched] at stepped
    by_cases full : registrationLimit tracked.table ≤ tracked.table.mBufferCount
    · simp only [if_pos full, Option.some.injEq, Prod.mk.injEq] at stepped
      obtain ⟨rfl, rfl⟩ := stepped
      exact .inr ⟨rfl, .inr ⟨rfl, matched⟩⟩
    · rw [if_neg full] at stepped
      cases free : getFreeIndexLocked tracked.table with
      | none =>
        simp only [free, Option.some.injEq, Prod.mk.injEq] at stepped
        obtain ⟨rfl, rfl⟩ := stepped
        exact .inr ⟨rfl, .inr ⟨rfl, matched⟩⟩
      | some index =>
        by_cases zero : buffer = 0
        · simp [free, zero] at stepped
        · exact .inl ⟨index, zero, matched, full, free⟩

theorem matched_of_alreadyExists
    (stepped : memStep tracked (.registerBuffer buffer priv sys) = some (next, [.alreadyExists])) :
    0 ≤ getMatchBufIndex tracked.table buffer := by
  obtain ⟨index, reaches⟩ | ⟨_, ⟨_, matched⟩ | ⟨answered, _⟩⟩ :=
    memStep_registerBuffer_cases stepped
  · rw [reaches.memStep_eq] at stepped
    simp only [Option.some.injEq, Prod.mk.injEq, List.cons.injEq, and_true] at stepped
    have status := fillSlot_status buffer priv sys index tracked.table
    rw [stepped.2] at status
    simp at status
  · exact matched
  · simp at answered

theorem ReachesSlot.succeed_of_registersFully
    (reaches : ReachesSlot tracked buffer index)
    (fully : registersFully tracked (.registerBuffer buffer priv sys) = true) :
    sys.succeed = true := by
  simpa [registersFully, reaches.nonzero, reaches.unmatched,
    reaches.below, reaches.free] using fully

theorem ReachesSlot.invariant_of_succeed (invariant : TableInvariant tracked)
    (reaches : ReachesSlot tracked buffer index) (succeed : sys.succeed = true)
    (stepped : memStep tracked (.registerBuffer buffer priv sys) = some (next, statuses)) :
    TableInvariant next ∧ statuses = [.noError] := by
  simp only [SysCalls.succeed, Bool.and_eq_true, decide_eq_true_eq,
    Option.isSome_iff_exists] at succeed
  obtain ⟨⟨opened, handle, imported⟩, vaddr, mapped⟩ := succeed
  rw [reaches.memStep_eq, fillSlot_succeeds opened imported mapped] at stepped
  simp only [registrationOf, imported, mapped, Option.some.injEq, Prod.mk.injEq] at stepped
  obtain ⟨rfl, rfl⟩ := stepped
  exact ⟨invariant.fill reaches.nonzero reaches.unmatched reaches.free, rfl⟩

theorem unregisterBuffer_cases (index : Nat) (table : Table) : ((table.slots index).isUsed = true ∧
        unregisterBuffer index table = (unregisterBufferLocked index table, .noError)) ∨
      ∃ status, status ≠ .noError ∧ unregisterBuffer index table = (table, status) := by
  unfold unregisterBuffer
  split
  · exact .inr ⟨.badValue, by decide, rfl⟩
  · split
    · exact .inr ⟨.badIndex, by decide, rfl⟩
    · split
      · rename_i used
        exact .inl ⟨used, rfl⟩
      · exact .inr ⟨.badValue, by decide, rfl⟩

theorem markFrameNumber_cases (index : Nat) (frameNumber : UInt32) (table : Table) :
    markFrameNumber index frameNumber table = (table.modify index fun slot =>
          { slot with mCurrentFrameNumber := frameNumber.toInt32 },
          .noError) ∨
      markFrameNumber index frameNumber table = (table, .badIndex) := by
  unfold markFrameNumber
  split
  · exact .inr rfl
  · split
    · exact .inr rfl
    · split
      · exact .inl rfl
      · exact .inr rfl

theorem memStep_invariant (invariant : TableInvariant tracked)
    (fully : registersFully tracked call = true)
    (stepped : memStep tracked call = some (next, statuses)) :
    TableInvariant next := by
  cases call with
  | registerBuffer buffer priv sys =>
    obtain ⟨index, reaches⟩ | ⟨rfl, _⟩ := memStep_registerBuffer_cases stepped
    · have succeed := reaches.succeed_of_registersFully fully
      exact (reaches.invariant_of_succeed invariant succeed stepped).1
    · exact invariant
  | unregisterBuffer index =>
    obtain ⟨used, done⟩ | ⟨status, failed, rejected⟩ :=
      unregisterBuffer_cases index tracked.table
    · simp only [memStep, done, if_true, Option.some.injEq, Prod.mk.injEq] at stepped
      obtain ⟨rfl, rfl⟩ := stepped
      exact invariant.clear used
    · simp only [memStep, rejected, if_neg failed, Option.some.injEq, Prod.mk.injEq] at stepped
      obtain ⟨rfl, rfl⟩ := stepped
      exact invariant
  | unregisterBuffers =>
    simp only [memStep, Option.some.injEq, Prod.mk.injEq] at stepped
    obtain ⟨rfl, rfl⟩ := stepped
    exact invariant.clearAll
  | markFrameNumber index frameNumber =>
    obtain done | rejected := markFrameNumber_cases index frameNumber tracked.table
    · simp only [memStep, done, Option.some.injEq, Prod.mk.injEq] at stepped
      obtain ⟨rfl, rfl⟩ := stepped
      exact invariant.mark index frameNumber.toInt32
    · simp only [memStep, rejected, Option.some.injEq, Prod.mk.injEq] at stepped
      obtain ⟨rfl, rfl⟩ := stepped
      exact invariant

theorem callOk_of_registersFully (invariant : TableInvariant tracked)
    (fully : registersFully tracked call = true) :
    CallOk tracked call where
  table := by
    intro next statuses stepped
    exact (memStep_invariant invariant fully stepped).ok
  failed := by
    rintro buffer priv sys next status rfl stepped failed
    obtain ⟨index, reaches⟩ | ⟨rfl, _⟩ := memStep_registerBuffer_cases stepped
    · have succeed := reaches.succeed_of_registersFully fully
      have answered := (reaches.invariant_of_succeed invariant succeed stepped).2
      simp only [List.cons.injEq, and_true] at answered
      exact absurd answered failed
    · rfl
  retried := by
    rintro buffer priv sys next status rfl stepped failed isNew
      againPriv againSys again steppedAgain
    have matchedAgain := matched_of_alreadyExists steppedAgain
    obtain ⟨index, reaches⟩ | ⟨rfl, ⟨found, _⟩ | ⟨_, unmatched⟩⟩ :=
      memStep_registerBuffer_cases stepped
    · have succeed := reaches.succeed_of_registersFully fully
      have answered := (reaches.invariant_of_succeed invariant succeed stepped).2
      simp only [List.cons.injEq, and_true] at answered
      exact failed answered
    · simp only [List.cons.injEq, and_true] at found
      exact isNew found
    · exact unmatched matchedAgain

theorem registersFully_of_callOk (invariant : TableInvariant tracked)
    (ok : CallOk tracked call) :
    registersFully tracked call = true := by
  cases call with
  | registerBuffer buffer priv sys =>
    by_contra incomplete
    simp only [registersFully, Bool.or_eq_true, beq_iff_eq,
      decide_eq_true_eq, Option.isNone_iff_eq_none, not_or,
      Bool.not_eq_true] at incomplete
    obtain ⟨⟨⟨⟨nonzero, unmatched⟩, below⟩, free⟩, failed⟩ := incomplete
    obtain ⟨index, free⟩ := Option.ne_none_iff_exists'.mp free
    have reaches : ReachesSlot tracked buffer index := ⟨nonzero, unmatched, below, free⟩
    obtain ⟨status, name⟩ := @fillSlot_fails buffer index priv sys tracked.table failed
    have stepped := reaches.memStep_eq priv sys
    rw [status] at stepped
    have unchanged := ok.failed buffer priv sys _ _ rfl stepped (by decide)
    dsimp only at unchanged
    rw [unchanged] at name
    have unused := (getFreeIndexLocked_spec free).2.2
    have used := (invariant.named index).mp (name ▸ nonzero)
    rw [unused] at used
    simp at used
  | unregisterBuffer index => rfl
  | unregisterBuffers => rfl
  | markFrameNumber index frameNumber => rfl

theorem callOk_iff (invariant : TableInvariant tracked) :
    CallOk tracked call ↔ registersFully tracked call = true :=
  ⟨registersFully_of_callOk invariant, callOk_of_registersFully invariant⟩

/-! ## Every sequence of calls -/

theorem callsOk_iff_of_invariant {past calls : List MemCall}
    (invariant : TableInvariant tracked) :
    LabelledRun.Guarded memStep (fun state _ call => CallOk state call) tracked past calls ↔
      LabelledRun.Guarded memStep (fun state _ call => registersFully state call = true)
        tracked past calls := by
  refine LabelledRun.guarded_iff_of_invariant TableInvariant
    (fun here => callOk_iff here) ?_ invariant
  intro state before call next statuses here ok stepped
  exact memStep_invariant here ((callOk_iff here).mp ok) stepped

/--
For every first index and every sequence of calls, every call keeps the table's
promises if and only if every registration that reaches the system calls has
all of them succeed.
-/
theorem memCalls_ok_iff (startIdx : Nat) (ptrs : Nat → Nat) (calls : List MemCall) :
    LabelledRun.Guarded memStep (fun tracked _ call => CallOk tracked call)
        { table := .new startIdx ptrs, live := [] } [] calls ↔
      LabelledRun.Guarded memStep (fun tracked _ call => registersFully tracked call = true)
        { table := .new startIdx ptrs, live := [] } [] calls :=
  callsOk_iff_of_invariant (.new startIdx ptrs)

/--
The mapping of a buffer fails once: the buffer is found although it is not
registered, and the retry is answered as a double registration.
-/
theorem memCalls_failedMapping : ∃ tracked, LabelledRun.run? memStep
          { table := .new 0 fun _ => 0, live := [] }
          [.registerBuffer 7 ⟨3, 4096⟩ ⟨5, some ⟨1, by decide⟩, none⟩] =
        some (tracked, [.noMemory]) ∧
      tracked.live = [] ∧
      getMatchBufIndex tracked.table 7 = 0 ∧
      (∃ again, memStep tracked (.registerBuffer 7 ⟨3, 4096⟩ ⟨5, some ⟨1, by decide⟩, some 8192⟩) =
          some (again, [.alreadyExists])) ∧
      ¬ LabelledRun.Guarded memStep (fun state _ call => CallOk state call)
        { table := .new 0 fun _ => 0, live := [] } []
        [.registerBuffer 7 ⟨3, 4096⟩ ⟨5, some ⟨1, by decide⟩, none⟩] := by
  refine ⟨_, rfl, by decide, by decide, ⟨_, rfl⟩, ?_⟩
  rw [callsOk_iff_of_invariant (.new 0 fun _ => 0)]
  decide

end AnglerHal.Gralloc
