import AnglerHal.LabelledRun
import Mathlib.Data.List.Nodup

namespace AnglerHal.BatchStaging

open LabelledRun

/-!
# Staging plane buffers of a USERPTR stream

In batch mode the application gives back plane buffers one by one.
`mm_stream_write_user_buf` puts their indices into a free container and queues the
container to the kernel when the batch is full.  Every index goes into the first
entry of the container: `count`, which names the entry, is never advanced.

Next to the stream the state keeps which plane buffers the application holds, the
order in which they were staged, those staged but in no queued container, and the
containers at the kernel.
-/

/-! ## The code -/

/-- A container: its `user_buf`, its `buf_status` and the structure in its memory
that the kernel reads. -/
structure Container where
  bufsUsed : Nat
  bufInUse : Bool
  bufIdx : List Int
  bufRefcnt : Nat
  inKernel : Bool
  bufCnt : Nat
  contBufIdx : List Int
  deriving DecidableEq

/-- The members of `mm_stream_t` that staging uses. -/
structure Stream where
  bufNum : Nat
  buf : Nat → Container
  curBufIdx : Int
  curBufsStaged : Nat

/-- The buffer that is given back: a container, or a plane buffer. -/
inductive Buf where
  | userptr (bufIdx : Nat)
  | plane (bufIdx : Nat)
  deriving DecidableEq

/-- What became of a container whose reference was given up. -/
inductive Put where
  | delayed
  | refused
  | queued
  deriving DecidableEq

/-- What `mm_stream_write_user_buf` leaves and returns. -/
structure Written where
  stream : Stream
  rc : Int
  queued : Option Nat

/-- Overwrite one container. -/
def Stream.setBuf (stream : Stream) (index : Nat) (container : Container) : Stream :=
  { stream with
      buf := fun other => if other = index then container else stream.buf other }

/-- `cont_buf` filled from `user_buf`. -/
def Container.fill (container : Container) : Container :=
  { container with
      bufCnt := container.bufsUsed
      contBufIdx := container.bufIdx.take container.bufsUsed ++
        container.contBufIdx.drop container.bufsUsed }

/-- A container that the kernel has taken. -/
def Container.handOver (container : Container) : Container :=
  { container with
      bufIdx := List.replicate container.bufCnt (-1) ++ container.bufIdx.drop container.bufCnt
      inKernel := true
      bufInUse := true }

/-- Give up a reference to a container and queue it with the last one; `qbuf` says
whether `mm_stream_qbuf` succeeds. -/
def putContainer (index : Nat) (qbuf : Bool) (stream : Stream) : Stream × Put :=
  let count := ((stream.buf index).bufRefcnt + 255) % 256
  let counted := { stream.buf index with bufRefcnt := count }
  if count = 0 then
    if qbuf then
      (stream.setBuf index counted.fill.handOver, .queued)
    else
      (stream.setBuf index counted.fill, .refused)
  else
    (stream.setBuf index counted, .delayed)

/-- The container that takes the next plane buffer. -/
def Stream.target (stream : Stream) : Option Nat :=
  if stream.curBufIdx < 0 ∨ (stream.bufNum : Int) ≤ stream.curBufIdx then
    (List.range stream.bufNum).find? fun index =>
      !(stream.buf index).inKernel && !(stream.buf index).bufInUse
  else
    some stream.curBufIdx.toNat

/-- A plane buffer's index in the container, and the staged count. -/
def Stream.stage (stream : Stream) (index plane : Nat) : Stream :=
  { stream.setBuf index { stream.buf index with
      -- `count` is still zero
      bufIdx := (stream.buf index).bufIdx.set 0 plane } with
    curBufIdx := index
    curBufsStaged := (stream.curBufsStaged + 1) % 256 }

/-- `mm_stream_write_user_buf`. -/
def writeUserBuf (buf : Buf) (qbuf : Bool) (stream : Stream) : Written :=
  match buf with
  | .userptr index =>
    match putContainer index qbuf stream with
    | (next, .delayed) => ⟨next, 0, none⟩
    | (next, .refused) => ⟨next, -1, none⟩
    | (next, .queued) => ⟨next, 0, some index⟩
  | .plane plane =>
    match stream.target with
    | none => ⟨stream, -1, none⟩
    | some index =>
      let staged := stream.stage index plane
      if staged.curBufsStaged = (staged.buf index).bufsUsed then
        match putContainer index qbuf staged with
        | (next, .delayed) => ⟨next, 0, none⟩
        | (next, .refused) => ⟨next, -1, none⟩
        | (next, .queued) => ⟨{ next with
            curBufsStaged := 0
            curBufIdx := -1 }, 0, some index⟩
      else
        ⟨staged, 0, none⟩

/-- A container comes back: `mm_stream_read_user_buf`, and its new consumers. -/
def readUserBuf (index consumers : Nat) (stream : Stream) : Stream :=
  stream.setBuf index { stream.buf index with
    bufsUsed := (stream.buf index).bufCnt
    bufInUse := true
    bufIdx := (stream.buf index).contBufIdx.take (stream.buf index).bufCnt ++
      (stream.buf index).bufIdx.drop (stream.buf index).bufCnt
    bufRefcnt := ((stream.buf index).bufRefcnt + consumers) % 256
    inKernel := false }

/-! ## Runs -/

/-- The indices that a container carries. -/
def Stream.entries (stream : Stream) (index : Nat) : List Int :=
  (stream.buf index).contBufIdx.take (stream.buf index).bufCnt

/-- A stream with the plane buffers that the application holds, those it has staged,
in order, those staged but in no queued container, and the queued containers. -/
structure World where
  stream : Stream
  held : List Nat
  staged : List Nat
  loose : List Nat
  queued : List Nat

/-- The events of the stream. -/
inductive Event where
  /-- `mm_stream_buf_done` for a plane buffer that the application holds. -/
  | release (plane : Nat) (qbuf : Bool)
  /-- The kernel returns one of its containers, to some consumers. -/
  | comeBack (position consumers : Nat)
  deriving DecidableEq

/-- The plane buffers behind a container's entries. -/
def planesOf (entries : List Int) : List Nat :=
  entries.filterMap fun entry => if 0 ≤ entry then some entry.toNat else none

/-- What the application and the kernel have after a plane buffer was staged. -/
def World.afterStaging (world : World) (plane : Nat) (written : Written) : World where
  stream := written.stream
  held := world.held.erase plane
  staged := world.staged ++ [plane]
  loose :=
    match written.queued with
    | none => world.loose ++ [plane]
    | some index => (world.loose ++ [plane]).filter fun other =>
        (other : Int) ∉ written.stream.entries index
  queued := world.queued ++ written.queued.toList

/-- One event; the output is the container that was queued. -/
def World.step (world : World) : Event → Option (World × List Nat)
  | .release plane qbuf =>
    if plane ∈ world.held then
      let written := writeUserBuf (.plane plane) qbuf world.stream
      match world.stream.target with
      | none => some ({ world with stream := written.stream }, [])
      | some _ => some (world.afterStaging plane written, written.queued.toList)
    else
      none
  | .comeBack position consumers =>
    match world.queued[position]? with
    | none => none
    | some index =>
      some ({ world with
        stream := readUserBuf index consumers world.stream
        held := world.held ++ planesOf (world.stream.entries index)
        queued := world.queued.eraseIdx position }, [])

/-- What a step promises for batches of a size: a container is queued with the last
plane buffers staged, no plane buffer is in two entries at the kernel, and the
plane buffers staged but not queued are one batch at most. -/
structure SoundStep (size : Nat) (world : World) (event : Event) : Prop where
  whole : ∀ next queued, world.step event = some (next, queued) → ∀ index ∈ queued,
    (next.stream.buf index).bufCnt = size ∧
      next.stream.entries index =
        (next.staged.drop (next.staged.length - size)).map Int.ofNat
  once : ∀ next queued, world.step event = some (next, queued) →
    (next.queued.flatMap next.stream.entries).Nodup
  kept : ∀ next queued, world.step event = some (next, queued) → next.loose.length ≤ size

/-- The condition: a plane buffer is staged while the batch is not full, and a batch
that gets queued has one plane buffer. -/
def World.Careful (size : Nat) (world : World) : Event → Prop
  | .release plane qbuf => plane ∈ world.held → ∀ index, world.stream.target = some index →
    world.stream.curBufsStaged < size ∧
      (world.stream.curBufsStaged + 1 = size → (world.stream.buf index).bufRefcnt % 256 = 1 →
        qbuf = true → size = 1)
  | .comeBack _ _ => True

/-- A container made for batches of a size. -/
structure Container.Holds (size : Nat) (container : Container) : Prop where
  bufsUsed : container.bufsUsed = size
  bufIdx : size ≤ container.bufIdx.length
  contBufIdx : size ≤ container.contBufIdx.length

/-- A stream after its start: nothing is staged, the containers at the kernel and the
application hold different plane buffers. -/
structure World.Started (size : Nat) (world : World) : Prop where
  size_pos : 1 ≤ size
  size_lt : size < 256
  slots : ∀ index, (world.stream.buf index).Holds size
  atKernel : ∀ index ∈ world.queued, (world.stream.buf index).inKernel = true ∧
    (world.stream.buf index).bufCnt = size
  queued : world.queued.Nodup
  planes : (world.held.map Int.ofNat ++ world.queued.flatMap world.stream.entries).Nodup
  curBufIdx : world.stream.curBufIdx = -1
  curBufsStaged : world.stream.curBufsStaged = 0
  loose : world.loose = []

variable {other index : Nat} {stream : Stream} {event : Event}

/-! ## What staging does -/

section Staging

variable {size : Nat} {container : Container}

/-- The batch is complete and the container gets queued. -/
def Stream.Completes (stream : Stream) (size index : Nat) (qbuf : Bool) : Prop :=
  (stream.curBufsStaged + 1) % 256 = size ∧ (stream.buf index).bufRefcnt % 256 = 1 ∧ qbuf = true

/-- What holds when a plane buffer was staged in a container. -/
structure Stages (stream : Stream) (size index plane : Nat) (qbuf : Bool)
    (written : Written) : Prop where
  bufNum : written.stream.bufNum = stream.bufNum
  others : ∀ other, other ≠ index → written.stream.buf other = stream.buf other
  holds : (written.stream.buf index).Holds size
  outcome : (written.queued = none ∧ ¬ stream.Completes size index qbuf ∧
      written.stream.curBufIdx = index ∧
      written.stream.curBufsStaged = (stream.curBufsStaged + 1) % 256 ∧
      (written.stream.buf index).inKernel = (stream.buf index).inKernel) ∨
    (written.queued = some index ∧ stream.Completes size index qbuf ∧
      written.stream.curBufIdx = -1 ∧ written.stream.curBufsStaged = 0 ∧
      (written.stream.buf index).inKernel = true ∧ (written.stream.buf index).bufCnt = size ∧
      written.stream.entries index = ((stream.buf index).bufIdx.set 0 plane).take size)

theorem setBuf_self : (stream.setBuf index container).buf index = container :=
  if_pos rfl

theorem setBuf_other (apart : other ≠ index) :
    (stream.setBuf index container).buf other = stream.buf other :=
  if_neg apart

theorem Container.Holds.fill (holds : container.Holds size) : container.fill.Holds size := by
  refine ⟨holds.bufsUsed, holds.bufIdx, ?_⟩
  have := holds.bufIdx
  simp only [Container.fill, holds.bufsUsed, List.length_append, List.length_take]
  omega

theorem Container.Holds.handOver (holds : container.Holds size) :
    container.fill.handOver.Holds size := by
  have filled := holds.fill
  refine ⟨filled.bufsUsed, ?_, filled.contBufIdx⟩
  have := holds.bufIdx
  simp only [Container.handOver, Container.fill, holds.bufsUsed, List.length_append,
    List.length_replicate, List.length_drop]
  omega

theorem entries_fill (holds : container.Holds size) :
    container.fill.contBufIdx.take container.fill.bufCnt = container.bufIdx.take size := by
  have long : (container.bufIdx.take size).length = size :=
    List.length_take_of_le holds.bufIdx
  rw [Container.fill, holds.bufsUsed]
  exact List.take_left' long

theorem refcnt_iff {refcnt : Nat} : (refcnt + 255) % 256 = 0 ↔ refcnt % 256 = 1 := by
  omega

theorem stages_of_target (plane : Nat) (qbuf : Bool) (found : stream.target = some index)
    (holds : (stream.buf index).Holds size) :
    Stages stream size index plane qbuf (writeUserBuf (.plane plane) qbuf stream) := by
  have staged : ((stream.stage index plane).buf index) =
      { stream.buf index with bufIdx := (stream.buf index).bufIdx.set 0 plane } := setBuf_self
  have others : ∀ other, other ≠ index → (stream.stage index plane).buf other = stream.buf other :=
    fun other apart => setBuf_other apart
  have counted (count : Nat) : Container.Holds size { stream.buf index with
      bufIdx := (stream.buf index).bufIdx.set 0 plane
      bufRefcnt := count } :=
    ⟨holds.bufsUsed, by simpa using holds.bufIdx, holds.contBufIdx⟩
  simp only [writeUserBuf, found, staged, holds.bufsUsed]
  by_cases full : (stream.curBufsStaged + 1) % 256 = size
  · have isFull : (stream.stage index plane).curBufsStaged = size := full
    rw [if_pos isFull, putContainer]
    simp only [staged, refcnt_iff]
    by_cases last : (stream.buf index).bufRefcnt % 256 = 1
    · cases qbuf with
      | true =>
        simp only [last, if_true]
        refine ⟨rfl, fun other apart => (setBuf_other apart).trans (others other apart), ?_,
          Or.inr ⟨rfl, ⟨full, last, rfl⟩, rfl, rfl, ?_, ?_, ?_⟩⟩
        · exact setBuf_self ▸ (counted _).handOver
        · exact setBuf_self ▸ rfl
        · exact setBuf_self ▸ holds.bufsUsed
        · exact (congrArg (fun container : Container =>
            container.contBufIdx.take container.bufCnt) setBuf_self).trans
              (entries_fill (counted _))
      | false =>
        simp only [last, if_true, Bool.false_eq_true, if_false]
        refine ⟨rfl, fun other apart => (setBuf_other apart).trans (others other apart),
          setBuf_self ▸ (counted _).fill,
          Or.inl ⟨rfl, fun done => absurd done.2.2 Bool.false_ne_true, rfl, rfl, ?_⟩⟩
        exact setBuf_self ▸ rfl
    · simp only [last, if_false]
      refine ⟨rfl, fun other apart => (setBuf_other apart).trans (others other apart),
        setBuf_self ▸ counted _, Or.inl ⟨rfl, fun done => last done.2.1, rfl, rfl, ?_⟩⟩
      exact setBuf_self ▸ rfl
  · have open_ : ¬ (stream.stage index plane).curBufsStaged = size := full
    rw [if_neg open_]
    exact ⟨rfl, others, staged ▸ counted _, Or.inl ⟨rfl, fun done => full done.1, rfl, rfl,
      staged ▸ rfl⟩⟩

end Staging

/-! ## Whole runs -/

/-- What holds between two events of a run that meets the condition. -/
structure Inv (size : Nat) (world : World) : Prop where
  size_pos : 1 ≤ size
  size_lt : size < 256
  slots : ∀ index, (world.stream.buf index).Holds size
  atKernel : ∀ index ∈ world.queued, (world.stream.buf index).inKernel = true ∧
    (world.stream.buf index).bufCnt = size
  queued : world.queued.Nodup
  planes : ((world.held ++ world.loose).map Int.ofNat ++
    world.queued.flatMap world.stream.entries).Nodup
  counted : world.stream.curBufsStaged = world.loose.length
  bounded : world.loose.length ≤ size
  recent : ∃ before, world.staged = before ++ world.loose
  current : ∀ index, world.stream.target = some index →
    (world.stream.buf index).inKernel = false

section Runs

variable {size : Nat} {world : World}

theorem Inv.started (started : world.Started size) : Inv size world where
  size_pos := started.size_pos
  size_lt := started.size_lt
  slots := started.slots
  atKernel := started.atKernel
  queued := started.queued
  planes := by simpa [started.loose] using started.planes
  counted := by rw [started.curBufsStaged, started.loose, List.length_nil]
  bounded := by simp [started.loose]
  recent := ⟨world.staged, by rw [started.loose, List.append_nil]⟩
  current := fun index found => by
    rw [Stream.target, started.curBufIdx, if_pos (Or.inl (by decide))] at found
    have free := List.find?_some found
    simp only [Bool.and_eq_true, Bool.not_eq_true'] at free
    exact free.1

/-- Where the next plane buffer goes when a container is being filled. -/
theorem target_of_current (isCurrent : stream.curBufIdx = index)
    (found : stream.target = some other) :
    other = index ∨ (stream.buf other).inKernel = false := by
  unfold Stream.target at found
  split at found
  · have free := List.find?_some found
    simp only [Bool.and_eq_true, Bool.not_eq_true'] at free
    exact Or.inr free.1
  · rw [isCurrent] at found
    exact Or.inl (Option.some.inj found).symm

theorem target_of_none (isNone : stream.curBufIdx = -1)
    (found : stream.target = some other) : (stream.buf other).inKernel = false := by
  rw [Stream.target, isNone, if_pos (Or.inl (by decide))] at found
  have free := List.find?_some found
  simp only [Bool.and_eq_true, Bool.not_eq_true'] at free
  exact free.1

section Release

variable {plane : Nat} {qbuf : Bool} {written : Written}

theorem Inv.ne_of_queued (inv : Inv size world) (found : world.stream.target = some index) :
    ∀ other ∈ world.queued, other ≠ index := by
  rintro other queued rfl
  exact Bool.noConfusion ((inv.current other found).symm.trans (inv.atKernel other queued).1)

/-- Staging leaves the containers at the kernel alone. -/
theorem Inv.same_entries (inv : Inv size world) (found : world.stream.target = some index)
    (stages : Stages world.stream size index plane qbuf written) :
    world.queued.flatMap written.stream.entries = world.queued.flatMap world.stream.entries :=
  List.flatMap_congr fun other queued => by
    rw [Stream.entries, Stream.entries, stages.others other (inv.ne_of_queued found other queued)]

theorem Inv.same_kernel (inv : Inv size world) (found : world.stream.target = some index)
    (stages : Stages world.stream size index plane qbuf written) :
    ∀ other ∈ world.queued, (written.stream.buf other).inKernel = true ∧
      (written.stream.buf other).bufCnt = size := fun other queued => by
  rw [stages.others other (inv.ne_of_queued found other queued)]
  exact inv.atKernel other queued

theorem Inv.slots_stages (inv : Inv size world)
    (stages : Stages world.stream size index plane qbuf written) (other : Nat) :
    (written.stream.buf other).Holds size := by
  by_cases same : other = index
  · exact same ▸ stages.holds
  · exact stages.others other same ▸ inv.slots other

/-- The plane buffer goes from the application to the batch. -/
theorem planes_moved (held : plane ∈ world.held) :
    (world.held.erase plane ++ (world.loose ++ [plane])).Perm (world.held ++ world.loose) := by
  have taken := (List.perm_cons_erase held).append_right world.loose
  rw [← List.append_assoc]
  exact (List.perm_append_singleton plane _).trans taken.symm

/-- A plane buffer is staged and the container is not queued yet. -/
theorem Inv.keeps (inv : Inv size world) (found : world.stream.target = some index)
    (held : plane ∈ world.held) (stages : Stages world.stream size index plane qbuf written)
    (open_ : world.stream.curBufsStaged < size) (notQueued : written.queued = none) :
    Inv size (world.afterStaging plane written) := by
  obtain ⟨_, _, current, staged, inKernel⟩ | ⟨queued, _⟩ := stages.outcome
  · have sizeLt := inv.size_lt
    have counted := inv.counted
    obtain ⟨before, recent⟩ := inv.recent
    refine ⟨inv.size_pos, inv.size_lt, inv.slots_stages stages, ?_, ?_, ?_, ?_, ?_, ?_, ?_⟩
    · simpa [World.afterStaging, notQueued] using inv.same_kernel found stages
    · simpa [World.afterStaging, notQueued] using inv.queued
    · have moved := ((planes_moved held).map Int.ofNat).append_right
        (world.queued.flatMap world.stream.entries)
      have planes := moved.nodup_iff.mpr inv.planes
      rw [← inv.same_entries found stages] at planes
      simpa only [World.afterStaging, notQueued, Option.toList_none, List.append_nil] using planes
    · simp only [World.afterStaging, notQueued, List.length_append, List.length_singleton]
      omega
    · simp only [World.afterStaging, notQueued, List.length_append, List.length_singleton]
      omega
    · exact ⟨before, by simp only [World.afterStaging, notQueued, recent, List.append_assoc]⟩
    · intro other isTarget
      obtain same | free := target_of_current current isTarget
      · rw [same]
        exact inKernel.trans (inv.current index found)
      · exact free
  · rw [notQueued] at queued
    cases queued

/-- A batch of one plane buffer is queued. -/
theorem Inv.queues (inv : Inv size world) (found : world.stream.target = some index)
    (held : plane ∈ world.held) (stages : Stages world.stream size index plane qbuf written)
    (one : size = 1) (isQueued : written.queued = some index) :
    Inv size (world.afterStaging plane written) ∧
      written.stream.entries index = [(plane : Int)] := by
  obtain ⟨notQueued, _⟩ | ⟨_, completes, current, staged, inKernel, cnt, entries⟩ := stages.outcome
  · rw [isQueued] at notQueued
    cases notQueued
  · subst one
    have counted := inv.counted
    have bounded := inv.bounded
    have full := completes.1
    have nothing : world.loose = [] := List.length_eq_zero_iff.mp (by omega)
    have single : written.stream.entries index = [(plane : Int)] := by
      have long := (inv.slots index).bufIdx
      rw [entries]
      cases slots : (world.stream.buf index).bufIdx with
      | nil => simp [slots] at long
      | cons first rest => rfl
    have apart : index ∉ world.queued := fun queued => inv.ne_of_queued found index queued rfl
    refine ⟨⟨inv.size_pos, inv.size_lt, inv.slots_stages stages, ?_, ?_, ?_, ?_, ?_, ?_, ?_⟩,
      single⟩
    · simp only [World.afterStaging, isQueued, Option.toList_some, List.mem_append,
        List.mem_singleton]
      rintro other (queued | rfl)
      · exact inv.same_kernel found stages other queued
      · exact ⟨inKernel, cnt⟩
    · simpa [World.afterStaging, isQueued, List.nodup_append] using ⟨inv.queued, fun other queued =>
        fun same => apart (same ▸ queued)⟩
    · have planes := inv.planes
      have taken := ((List.perm_cons_erase held).map Int.ofNat).append_right
        (world.queued.flatMap world.stream.entries)
      rw [nothing, List.append_nil] at planes
      have moved := taken.nodup_iff.mp planes
      rw [← inv.same_entries found stages] at moved
      simp only [World.afterStaging, isQueued, nothing, List.nil_append, single,
        Option.toList_some, List.flatMap_append, List.flatMap_singleton,
        List.mem_singleton, decide_not, List.filter_singleton]
      simpa [← List.append_assoc] using (List.perm_append_singleton _ _).nodup_iff.mpr moved
    · simpa [World.afterStaging, isQueued, nothing, single] using staged
    · simp [World.afterStaging, isQueued, nothing, single]
    · exact ⟨world.staged ++ [plane], by simp [World.afterStaging, isQueued, nothing, single]⟩
    · exact fun other isTarget => target_of_none current isTarget

end Release

theorem map_planesOf_sublist (entries : List Int) :
    ((planesOf entries).map Int.ofNat).Sublist entries := by
  induction entries with
  | nil => exact List.Sublist.refl _
  | cons entry rest inductionHypothesis =>
    by_cases isPlane : 0 ≤ entry
    · obtain ⟨plane, rfl⟩ := Int.eq_ofNat_of_zero_le isPlane
      simpa [planesOf] using inductionHypothesis
    · simpa [planesOf, isPlane] using inductionHypothesis.cons entry

/-- A container comes back with its plane buffers. -/
theorem Inv.comesBack (inv : Inv size world) {position consumers : Nat}
    (found : world.queued[position]? = some index) :
    Inv size { world with
      stream := readUserBuf index consumers world.stream
      held := world.held ++ planesOf (world.stream.entries index)
      queued := world.queued.eraseIdx position } := by
  obtain ⟨inside, same⟩ := List.getElem?_eq_some_iff.mp found
  have shape : world.queued = world.queued.take position ++ index ::
      world.queued.drop (position + 1) := by
    rw [← same, List.getElem_cons_drop, List.take_append_drop]
  have rest : world.queued.eraseIdx position =
      world.queued.take position ++ world.queued.drop (position + 1) :=
    List.eraseIdx_eq_take_drop_succ ..
  generalize world.queued.take position = before at shape rest
  generalize world.queued.drop (position + 1) = behind at shape rest
  have isQueued : index ∈ world.queued := shape ▸ List.mem_append_right _ List.mem_cons_self
  have cnt := (inv.atKernel index isQueued).2
  have distinct := inv.queued
  rw [shape, List.nodup_middle] at distinct
  have apart : ∀ other ∈ before ++ behind, other ≠ index :=
    fun other isRest same => (List.nodup_cons.mp distinct).1 (same ▸ isRest)
  have others : ∀ other, other ≠ index →
      (readUserBuf index consumers world.stream).buf other = world.stream.buf other :=
    fun other apart => setBuf_other apart
  have slots := inv.slots index
  refine ⟨inv.size_pos, inv.size_lt, fun other => ?_, fun other isRest => ?_, ?_, ?_, inv.counted,
    inv.bounded, inv.recent, fun other isTarget => ?_⟩
  · by_cases isIndex : other = index
    · subst isIndex
      rw [show (readUserBuf other consumers world.stream).buf other = _ from setBuf_self]
      refine ⟨cnt, ?_, slots.contBufIdx⟩
      have := slots.bufIdx
      have := slots.contBufIdx
      simp only [cnt, List.length_append, List.length_take, List.length_drop]
      omega
    · exact others other isIndex ▸ inv.slots other
  · rw [rest] at isRest
    have stays : other ∈ world.queued := by
      rw [shape]
      simp only [List.mem_append, List.mem_cons] at isRest ⊢
      exact isRest.imp_right Or.inr
    rw [others other (apart other isRest)]
    exact inv.atKernel other stays
  · exact rest ▸ (List.nodup_cons.mp distinct).2
  · have same : (world.queued.eraseIdx position).flatMap
        (readUserBuf index consumers world.stream).entries =
          (before ++ behind).flatMap world.stream.entries := by
      rw [rest]
      exact List.flatMap_congr fun other isRest => by
        rw [Stream.entries, Stream.entries, others other (apart other isRest)]
    have planes := inv.planes
    rw [shape] at planes
    rw [same]
    have moved : ((world.held.map Int.ofNat ++ world.stream.entries index ++
        world.loose.map Int.ofNat) ++ (before ++ behind).flatMap world.stream.entries).Perm
          ((world.held ++ world.loose).map Int.ofNat ++
            (before ++ index :: behind).flatMap world.stream.entries) := by
      refine List.perm_iff_count.mpr fun entry => ?_
      simp only [List.map_append, List.flatMap_append, List.flatMap_cons, List.count_append]
      omega
    refine (moved.nodup_iff.mpr planes).sublist (List.Sublist.append ?_ (List.Sublist.refl _))
    rw [List.map_append, List.map_append]
    exact ((List.Sublist.refl _).append (map_planesOf_sublist _)).append (List.Sublist.refl _)
  · unfold Stream.target at isTarget
    split at isTarget
    · have free := List.find?_some isTarget
      simp only [Bool.and_eq_true, Bool.not_eq_true'] at free
      exact free.1
    · rename_i valid
      by_cases isIndex : other = index
      · subst isIndex
        rw [show (readUserBuf other consumers world.stream).buf other = _ from setBuf_self]
      · rw [others other isIndex]
        have same : ¬ (world.stream.curBufIdx < 0 ∨
            (world.stream.bufNum : Int) ≤ world.stream.curBufIdx) := valid
        refine inv.current other ?_
        rw [Stream.target, if_neg same]
        exact isTarget

/-- One step: what it leaves, and what it queues. -/
theorem Inv.step (inv : Inv size world) {next : World} {queued : List Nat}
    (careful : world.Careful size event) (stepped : world.step event = some (next, queued)) :
    Inv size next ∧ ∀ index ∈ queued, (next.stream.buf index).bufCnt = size ∧
      next.stream.entries index =
        (next.staged.drop (next.staged.length - size)).map Int.ofNat := by
  cases event with
  | comeBack position consumers =>
    simp only [World.step] at stepped
    split at stepped
    · cases stepped
    · rename_i index found
      obtain ⟨rfl, rfl⟩ := Prod.mk.inj (Option.some.inj stepped)
      exact ⟨inv.comesBack found, nofun⟩
  | release plane qbuf =>
    simp only [World.step] at stepped
    split at stepped
    · rename_i held
      split at stepped
      · rename_i nowhere
        obtain ⟨rfl, rfl⟩ := Prod.mk.inj (Option.some.inj stepped)
        have same : (writeUserBuf (.plane plane) qbuf world.stream).stream = world.stream := by
          simp only [writeUserBuf, nowhere]
        rw [same]
        exact ⟨inv, nofun⟩
      · rename_i index found
        obtain ⟨rfl, rfl⟩ := Prod.mk.inj (Option.some.inj stepped)
        obtain ⟨open_, single⟩ := careful held index found
        have stages := stages_of_target plane qbuf found (inv.slots index)
        obtain ⟨notQueued, _⟩ | ⟨isQueued, completes, _⟩ := stages.outcome
        · refine ⟨inv.keeps found held stages open_ notQueued, ?_⟩
          rw [notQueued]
          exact nofun
        · have sizeLt := inv.size_lt
          have full := completes.1
          have one := single (by omega) completes.2.1 completes.2.2
          obtain ⟨kept, entries⟩ := inv.queues found held stages one isQueued
          refine ⟨kept, ?_⟩
          rw [isQueued]
          rintro other isOther
          obtain rfl := List.mem_singleton.mp isOther
          refine ⟨(kept.atKernel other (by simp [World.afterStaging, isQueued])).2, ?_⟩
          subst one
          exact entries.trans (by simp [World.afterStaging])
    · cases stepped

/-- A step is sound exactly when it meets the condition. -/
theorem Inv.soundStep_iff (inv : Inv size world) :
    SoundStep size world event ↔ world.Careful size event := by
  refine ⟨fun sound => ?_, fun careful => ⟨fun next queued stepped => (inv.step careful stepped).2,
    fun next queued stepped => (inv.step careful stepped).1.planes.of_append_right,
    fun next queued stepped => (inv.step careful stepped).1.bounded⟩⟩
  cases event with
  | comeBack position consumers => trivial
  | release plane qbuf =>
    intro held index found
    have stages := stages_of_target plane qbuf found (inv.slots index)
    have stepped : world.step (.release plane qbuf) =
        some (world.afterStaging plane (writeUserBuf (.plane plane) qbuf world.stream),
          (writeUserBuf (.plane plane) qbuf world.stream).queued.toList) := by
      simp only [World.step, if_pos held, found]
    generalize writeUserBuf (.plane plane) qbuf world.stream = written at stages stepped
    have counted := inv.counted
    have bounded := inv.bounded
    have sizeLt := inv.size_lt
    have open_ : world.stream.curBufsStaged < size := by
      by_contra full
      obtain ⟨notQueued, _⟩ | ⟨_, completes, _⟩ := stages.outcome
      · have kept := sound.kept _ _ stepped
        simp only [World.afterStaging, notQueued, List.length_append, List.length_singleton] at kept
        omega
      · have := completes.1
        omega
    refine ⟨open_, fun full last isDone => ?_⟩
    by_contra many
    obtain ⟨_, notDone, _⟩ | ⟨isQueued, _, _, _, _, _, entries⟩ := stages.outcome
    · exact notDone ⟨by omega, last, isDone⟩
    · have whole := (sound.whole _ _ stepped index (by simp [isQueued])).2
      obtain ⟨before, recent⟩ := inv.recent
      have planes := inv.planes.of_append_left.of_map
      -- the first entry should be the oldest plane buffer of the batch
      cases isLoose : world.loose with
      | nil =>
        rw [isLoose, List.length_nil] at counted
        have := inv.size_pos
        omega
      | cons oldest rest =>
        have long := (inv.slots index).bufIdx
        have last : (world.afterStaging plane written).staged.drop
            ((world.afterStaging plane written).staged.length - size) =
              oldest :: (rest ++ [plane]) := by
          have length : (oldest :: rest).length = world.stream.curBufsStaged :=
            (isLoose ▸ counted).symm
          simp only [World.afterStaging, recent, isLoose, List.append_assoc]
          refine List.drop_left' ?_
          simp only [List.length_append, List.length_cons] at length ⊢
          simp only [List.length_nil]
          omega
        rw [last] at whole
        have first : (world.afterStaging plane written).stream.entries index =
            (plane : Int) :: (((world.stream.buf index).bufIdx.set 0 plane).take size).tail := by
          refine entries.trans ?_
          cases slots : (world.stream.buf index).bufIdx with
          | nil => simp [slots] at long; omega
          | cons first others =>
            obtain ⟨more, rfl⟩ : ∃ more, size = more + 1 := ⟨size - 1, by omega⟩
            rfl
        rw [first, List.map_cons] at whole
        obtain rfl : plane = oldest := Int.ofNat.inj (List.cons.inj whole).1
        rw [isLoose, List.nodup_append] at planes
        exact planes.2.2 plane held plane List.mem_cons_self rfl

end Runs

end AnglerHal.BatchStaging
