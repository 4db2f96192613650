import Mathlib.Data.List.Range
import Mathlib.Tactic.Ring

namespace AnglerHal.BatchTimes

/-!
# Frame ids and timestamps of the buffers of a batch

A container that comes back from the kernel has one frame id and one timestamp for
all its plane buffers.  `mm_stream_read_user_buf` numbers the plane buffers and
spreads their timestamps over the time before the container's own one, by the
measured interval where it sees no container missing and by `frameInterval`
elsewhere.  What is remembered between two containers is in the stream.

The build is a 32-bit one, so that `long` and `int` have 32 bits here; `nsecs_t`
values are taken without a bound.
-/

/-! ## The code -/

/-- The returned container: its `mm_camera_buf_def_t` with the kernel's structure. -/
structure Container where
  frameIdx : Nat
  tvSec : Int
  tvNsec : Int
  isUvSubsampled : Bool
  bufCnt : Nat
  bufIdx : List Nat
  deriving DecidableEq

/-- The members of `mm_stream_t` that are used. -/
structure Stream where
  prevTimestamp : Int
  prevFrameID : Nat
  frameInterval : Int
  deriving DecidableEq

/-- What a plane buffer is given. -/
structure PlaneBuf where
  bufIdx : Nat
  frameIdx : Nat
  tvSec : Int
  tvNsec : Int
  isUvSubsampled : Bool
  deriving DecidableEq

/-- What a call leaves: the stream, the container's own `ts`, the plane buffers in their
order, whether the measured interval was used, and whether the container went back to
the kernel. -/
structure Read where
  stream : Stream
  ts : Int × Int
  planes : List PlaneBuf
  measured : Bool
  requeued : Bool
  deriving DecidableEq

/-- Nanoseconds in a second. -/
def second : Int :=
  1000000000

/-- `timeStamp`. -/
def Container.timeStamp (container : Container) : Int :=
  container.tvSec * second + container.tvNsec

/-- The time of a plane buffer. -/
def PlaneBuf.time (plane : PlaneBuf) : Int :=
  plane.tvSec * second + plane.tvNsec

/-- Seconds and nanoseconds of a time. -/
def splitTs (frameTs : Int) : Int × Int :=
  (frameTs.tdiv second, frameTs - frameTs.tdiv second * second)

/-- `frameID`, in `uint32_t` arithmetic. -/
def Container.frameID (container : Container) : Nat :=
  if container.frameIdx = 1 then container.frameIdx
  else (container.frameIdx + 2 ^ 32 - 1) * container.bufCnt % 2 ^ 32

/-- `frameInterval * 1000000`, a `long`. -/
def intervalNsec (frameInterval : Int) : Int :=
  Int.bmod (frameInterval * 1000000) (2 ^ 32)

/-- One turn of the loop over the plane buffers. -/
def Container.plane (container : Container) (interval prevTimestamp : Int) (i : Nat) : PlaneBuf :=
  let frameTs := i * interval + prevTimestamp
  { bufIdx := container.bufIdx.getD i 0
    frameIdx := (container.frameID + i) % 2 ^ 32
    tvSec := (splitTs frameTs).1
    tvNsec := (splitTs frameTs).2
    isUvSubsampled := container.isUvSubsampled }

/-- The first container, or one before which a batch seems to be missing. -/
def Stream.startsOver (stream : Stream) (container : Container) : Prop :=
  stream.prevTimestamp = 0 ∨ stream.prevFrameID ≠ (container.frameIdx + 1) % 2 ^ 32

instance (stream : Stream) (container : Container) : Decidable (stream.startsOver container) :=
  inferInstanceAs (Decidable (_ ∨ _))

/-- `mm_stream_read_user_buf`. -/
def readUserBuf (stream : Stream) (container : Container) : Read :=
  let timeStamp := container.timeStamp
  let next := { stream with
    prevTimestamp := timeStamp
    prevFrameID := container.frameIdx }
  if timeStamp ≤ stream.prevTimestamp then
    ⟨stream, (container.tvSec, container.tvNsec), [], false, true⟩
  else if stream.startsOver container then
    let interval := intervalNsec stream.frameInterval
    let prevTimestamp := timeStamp - container.bufCnt * interval
    ⟨next, splitTs prevTimestamp,
      (List.range container.bufCnt).map (container.plane interval prevTimestamp), false, false⟩
  else
    -- an `int`, which is made unsigned by the division
    let tsDelta : Int := (timeStamp - stream.prevTimestamp) % (2 ^ 32 : Int)
    let interval := tsDelta / (container.bufCnt : Int)
    ⟨next, splitTs stream.prevTimestamp,
      (List.range container.bufCnt).map (container.plane interval stream.prevTimestamp),
      true, false⟩

/-- The stream after some containers. -/
def streamAfter (containers : List Container) (stream : Stream) : Stream :=
  containers.foldl (fun current container => (readUserBuf current container).stream) stream

/-- The plane buffers of some containers, in their order. -/
def planesRead : List Container → Stream → List PlaneBuf
  | [], _ => []
  | container :: rest, stream =>
    (readUserBuf stream container).planes ++ planesRead rest (readUserBuf stream container).stream

/-! ## What is promised -/

/-- The containers that a stream of batches of one size delivers: ids and timestamps
grow, and `frameInterval` is not larger than the true interval. -/
structure Delivered (size : Nat) (frameInterval : Int) (containers : List Container) : Prop where
  size_pos : 1 ≤ size
  bufCnt : ∀ container ∈ containers, container.bufCnt = size
  frameIdx : ∀ container ∈ containers, 1 ≤ container.frameIdx ∧ container.frameIdx < 2 ^ 32
  frameIdxs : containers.Pairwise fun first second => first.frameIdx < second.frameIdx
  positive : ∀ container ∈ containers, 0 < container.timeStamp
  timeStamps : containers.Pairwise fun first second => first.timeStamp < second.timeStamp
  nonneg : 0 ≤ frameInterval
  interval : containers.Pairwise fun first second =>
    size * (frameInterval * 1000000) ≤ second.timeStamp - first.timeStamp

/-- What the plane buffers are promised. -/
structure SoundReads (containers : List Container) (stream : Stream) : Prop where
  frameIdxs : ((planesRead containers stream).map PlaneBuf.frameIdx).Pairwise (· < ·)
  times : ((planesRead containers stream).map PlaneBuf.time).Pairwise (· < ·)
  between : ∀ before container behind, containers = before ++ container :: behind →
    ∀ plane ∈ (readUserBuf (streamAfter before stream) container).planes,
      plane.time ≤ container.timeStamp ∧
        ∀ previous, before.getLast? = some previous → previous.timeStamp ≤ plane.time
  measured : ∀ before container behind, containers = before ++ container :: behind →
    ((readUserBuf (streamAfter before stream) container).measured = true ↔
      ∃ previous, before.getLast? = some previous ∧ previous.frameIdx + 1 = container.frameIdx)

/-- The condition: no container follows on the one before it, the interval is positive
as a `long` (or zero, for batches of one), and 32-bit ids do not wrap. -/
structure Spread (size : Nat) (frameInterval : Int) (containers : List Container) : Prop where
  gaps : containers.Pairwise fun first second => first.frameIdx + 1 ≠ second.frameIdx
  interval : containers ≠ [] → 0 < intervalNsec frameInterval ∨
    size = 1 ∧ intervalNsec frameInterval = 0
  fits : ∀ container ∈ containers, container.frameID + size ≤ 2 ^ 32
  grows : containers.Pairwise fun first second => first.frameID + size ≤ second.frameID

/-- A stream that has read nothing. -/
def freshStream (frameInterval : Int) : Stream where
  prevTimestamp := 0
  prevFrameID := 0
  frameInterval := frameInterval

/-! ## The reads of a delivered sequence -/

/-- The plane buffers of a container after which none seems to be missing. -/
def Container.spreadPlanes (container : Container) (frameInterval : Int) : List PlaneBuf :=
  (List.range container.bufCnt).map (container.plane (intervalNsec frameInterval)
    (container.timeStamp - container.bufCnt * intervalNsec frameInterval))

theorem time_plane (container : Container) (interval prevTimestamp : Int) (i : Nat) :
    (container.plane interval prevTimestamp i).time = i * interval + prevTimestamp := by
  simp only [PlaneBuf.time, Container.plane, splitTs]
  ring

theorem intervalNsec_le {frameInterval : Int} (nonneg : 0 ≤ frameInterval) :
    intervalNsec frameInterval ≤ frameInterval * 1000000 := by
  rw [intervalNsec, Int.bmod_def]
  split <;> omega

/-- What has been read lies before the containers still to come. -/
structure Ready (stream : Stream) (containers : List Container) : Prop where
  earlier : ∀ container ∈ containers, stream.prevTimestamp < container.timeStamp
  previous : stream.prevTimestamp = 0 ∨ 1 ≤ stream.prevFrameID ∧
    ∀ container ∈ containers, stream.prevFrameID < container.frameIdx

section Delivered

variable {size : Nat} {frameInterval : Int} {container : Container}
  {containers before behind : List Container} {stream : Stream}

/-- The stream after a container. -/
def Stream.advance (stream : Stream) (container : Container) : Stream :=
  { stream with
    prevTimestamp := container.timeStamp
    prevFrameID := container.frameIdx }

/-- While ids grow, every container is read as if one was missing before it: the test
is for an id that is one lower than the last. -/
theorem readUserBuf_of_ready (ready : Ready stream (container :: behind))
    (small : container.frameIdx < 2 ^ 32) :
    readUserBuf stream container =
      ⟨stream.advance container,
        splitTs (container.timeStamp - container.bufCnt * intervalNsec stream.frameInterval),
        container.spreadPlanes stream.frameInterval, false, false⟩ := by
  have later := ready.earlier container List.mem_cons_self
  have again : stream.startsOver container := by
    refine ready.previous.imp_right fun previous => ?_
    have less := previous.2 container List.mem_cons_self
    omega
  rw [readUserBuf, if_neg (Int.not_le.mpr later), if_pos again]
  rfl

theorem Delivered.tail (delivered : Delivered size frameInterval (container :: behind)) :
    Delivered size frameInterval behind where
  size_pos := delivered.size_pos
  bufCnt := fun other member => delivered.bufCnt other (List.mem_cons_of_mem _ member)
  frameIdx := fun other member => delivered.frameIdx other (List.mem_cons_of_mem _ member)
  frameIdxs := delivered.frameIdxs.of_cons
  positive := fun other member => delivered.positive other (List.mem_cons_of_mem _ member)
  timeStamps := delivered.timeStamps.of_cons
  nonneg := delivered.nonneg
  interval := delivered.interval.of_cons

theorem Delivered.ready_advance (delivered : Delivered size frameInterval (container :: behind))
    (stream : Stream) : Ready (stream.advance container) behind where
  earlier := (List.pairwise_cons.mp delivered.timeStamps).1
  previous := Or.inr ⟨(delivered.frameIdx container List.mem_cons_self).1,
    (List.pairwise_cons.mp delivered.frameIdxs).1⟩

theorem planesRead_eq (delivered : Delivered size stream.frameInterval containers)
    (ready : Ready stream containers) :
    planesRead containers stream =
      containers.flatMap fun container => container.spreadPlanes stream.frameInterval := by
  induction containers generalizing stream with
  | nil => rfl
  | cons container behind inductionHypothesis =>
    have small := (delivered.frameIdx container List.mem_cons_self).2
    have rest : planesRead behind (stream.advance container) = _ :=
      inductionHypothesis delivered.tail (delivered.ready_advance stream)
    rw [planesRead, readUserBuf_of_ready ready small, List.flatMap_cons]
    exact congrArg _ rest

theorem readAfter_eq
    (delivered : Delivered size stream.frameInterval (before ++ container :: behind))
    (ready : Ready stream (before ++ container :: behind)) :
    (readUserBuf (streamAfter before stream) container).planes =
        container.spreadPlanes stream.frameInterval ∧
      (readUserBuf (streamAfter before stream) container).measured = false := by
  induction before generalizing stream with
  | nil =>
    have small := (delivered.frameIdx container List.mem_cons_self).2
    rw [streamAfter, List.foldl_nil, readUserBuf_of_ready ready small]
    exact ⟨rfl, rfl⟩
  | cons first rest inductionHypothesis =>
    have small := (delivered.frameIdx first List.mem_cons_self).2
    rw [streamAfter, List.foldl_cons, readUserBuf_of_ready ready small]
    exact inductionHypothesis delivered.tail (delivered.ready_advance stream)

theorem Delivered.of_mem (delivered : Delivered size frameInterval containers)
    (member : container ∈ containers) : container.spreadPlanes frameInterval =
      (List.range size).map (container.plane (intervalNsec frameInterval)
        (container.timeStamp - size * intervalNsec frameInterval)) := by
  rw [Container.spreadPlanes, delivered.bufCnt container member]

theorem frameID_lt (small : container.frameIdx < 2 ^ 32) : container.frameID < 2 ^ 32 := by
  unfold Container.frameID
  split
  · exact small
  · exact Nat.mod_lt _ (by decide)

/-- The ids of one container grow unless they wrap. -/
theorem frameIdxs_grow_iff (interval prevTimestamp : Int) (pos : 1 ≤ size)
    (small : container.frameID < 2 ^ 32) :
    (((List.range size).map (container.plane interval prevTimestamp)).map
        PlaneBuf.frameIdx).Pairwise (· < ·) ↔ container.frameID + size ≤ 2 ^ 32 := by
  have ids (i : Nat) : (container.plane interval prevTimestamp i).frameIdx =
      (container.frameID + i) % 2 ^ 32 := rfl
  rw [List.map_map, List.pairwise_map, List.pairwise_iff_getElem]
  simp only [List.length_range, List.getElem_range, Function.comp_apply, ids]
  constructor
  · intro grow
    by_contra wraps
    have wrong := grow 0 (2 ^ 32 - container.frameID) (by omega) (by omega) (by omega)
    omega
  · intro fits first second _ isSecond order
    omega

/-- The ids of a later container are larger when its first one is. -/
theorem frameIdxs_across_iff {other : Container} (interval prevTimestamp otherPrev : Int)
    (pos : 1 ≤ size) (fits : container.frameID + size ≤ 2 ^ 32)
    (otherFits : other.frameID + size ≤ 2 ^ 32) :
    (∀ first ∈ (List.range size).map (container.plane interval prevTimestamp),
      ∀ second ∈ (List.range size).map (other.plane interval otherPrev),
        first.frameIdx < second.frameIdx) ↔ container.frameID + size ≤ other.frameID := by
  have ids (current : Container) (prev : Int) (i : Nat) :
      (current.plane interval prev i).frameIdx = (current.frameID + i) % 2 ^ 32 := rfl
  simp only [List.forall_mem_map, List.mem_range, ids]
  constructor
  · intro across
    have last := across (size - 1) (by omega) 0 (by omega)
    omega
  · intro grows first isFirst second isSecond
    omega

/-- The timestamps of one container. -/
theorem times_grow_iff (interval prevTimestamp : Int) :
    (((List.range size).map (container.plane interval prevTimestamp)).map
        PlaneBuf.time).Pairwise (· < ·) ↔ size ≤ 1 ∨ 0 < interval := by
  rw [List.map_map, List.pairwise_map, List.pairwise_iff_getElem]
  simp only [List.length_range, List.getElem_range, Function.comp_apply, time_plane]
  constructor
  · intro grow
    by_contra flat
    have wrong := grow 0 1 (by omega) (by omega) (by omega)
    omega
  · rintro (one | positive) first second _ isSecond order
    · omega
    · have := Int.mul_lt_mul_of_pos_right (Int.ofNat_lt.mpr order) positive
      omega

/-- A plane buffer lies in the time before its container. -/
theorem time_bounds (container : Container) {interval : Int} {i : Nat} (nonneg : 0 ≤ interval)
    (inside : i < size) :
    container.timeStamp - size * interval ≤ (container.plane interval
        (container.timeStamp - size * interval) i).time ∧
      (container.plane interval (container.timeStamp - size * interval) i).time ≤
        container.timeStamp - interval := by
  rw [time_plane]
  have low := Int.mul_nonneg (Int.natCast_nonneg i) nonneg
  have high : ((i : Int) + 1) * interval ≤ size * interval :=
    Int.mul_le_mul_of_nonneg_right (by omega) nonneg
  rw [Int.add_mul, Int.one_mul] at high
  omega

/-- Consecutive ids stand side by side. -/
theorem gaps_iff
    (grows : containers.Pairwise fun first second => first.frameIdx < second.frameIdx) :
    (containers.Pairwise fun first second => first.frameIdx + 1 ≠ second.frameIdx) ↔
      ∀ before container behind, containers = before ++ container :: behind →
        ¬ ∃ previous, before.getLast? = some previous ∧
          previous.frameIdx + 1 = container.frameIdx := by
  constructor
  · rintro gaps before container behind rfl ⟨previous, isLast, follows⟩
    exact (List.pairwise_append.mp gaps).2.2 previous (List.mem_of_getLast? isLast) container
      List.mem_cons_self follows
  · intro apart
    rw [List.pairwise_iff_getElem] at grows ⊢
    intro first second isFirst isSecond order follows
    by_cases near : second = first + 1
    · subst near
      refine apart (containers.take (first + 1)) containers[first + 1]
        (containers.drop (first + 1 + 1)) ?_ ⟨containers[first], ?_, follows⟩
      · rw [List.getElem_cons_drop, List.take_append_drop]
      · rw [List.getLast?_take, if_neg (by omega), Nat.add_sub_cancel,
          List.getElem?_eq_getElem isFirst]
        rfl
    · have step := grows first (first + 1) isFirst (by omega) (by omega)
      have more := grows (first + 1) second (by omega) isSecond (by omega)
      omega

theorem Delivered.ready_fresh (delivered : Delivered size frameInterval containers) :
    Ready (freshStream frameInterval) containers :=
  ⟨delivered.positive, Or.inl rfl⟩

theorem frameIdxs_iff (delivered : Delivered size frameInterval containers) :
    ((planesRead containers (freshStream frameInterval)).map PlaneBuf.frameIdx).Pairwise (· < ·) ↔
      (∀ container ∈ containers, container.frameID + size ≤ 2 ^ 32) ∧
        containers.Pairwise fun first second => first.frameID + size ≤ second.frameID := by
  rw [planesRead_eq delivered delivered.ready_fresh, List.pairwise_map, List.pairwise_flatMap]
  have within : (∀ container ∈ containers, (container.spreadPlanes frameInterval).Pairwise
      fun first second => first.frameIdx < second.frameIdx) ↔
        ∀ container ∈ containers, container.frameID + size ≤ 2 ^ 32 := by
    refine forall₂_congr fun container member => ?_
    rw [delivered.of_mem member, ← List.pairwise_map, frameIdxs_grow_iff _ _ delivered.size_pos
      (frameID_lt (delivered.frameIdx container member).2)]
  refine (and_congr_left' within).trans (and_congr_right fun fits => ?_)
  refine List.Pairwise.iff_of_mem fun {first second} isFirst isSecond => ?_
  rw [freshStream, delivered.of_mem isFirst, delivered.of_mem isSecond]
  exact frameIdxs_across_iff _ _ _ delivered.size_pos (fits first isFirst) (fits second isSecond)

/-- Once the interval is not negative, nothing else is needed of the timestamps. -/
theorem times_iff (delivered : Delivered size frameInterval containers)
    (nonneg : containers ≠ [] → 0 ≤ intervalNsec frameInterval) :
    ((planesRead containers (freshStream frameInterval)).map PlaneBuf.time).Pairwise (· < ·) ↔
      (containers ≠ [] → size ≤ 1 ∨ 0 < intervalNsec frameInterval) := by
  rw [planesRead_eq delivered delivered.ready_fresh, List.pairwise_map, List.pairwise_flatMap]
  have within : (∀ container ∈ containers, (container.spreadPlanes frameInterval).Pairwise
      fun first second => first.time < second.time) ↔
        (containers ≠ [] → size ≤ 1 ∨ 0 < intervalNsec frameInterval) := by
    have each (container : Container) (member : container ∈ containers) :
        ((container.spreadPlanes frameInterval).Pairwise
          fun first second => first.time < second.time) ↔
            size ≤ 1 ∨ 0 < intervalNsec frameInterval := by
      rw [delivered.of_mem member, ← List.pairwise_map, times_grow_iff]
    refine ⟨fun all some => ?_, fun all container member =>
      (each container member).mpr (all (List.ne_nil_of_mem member))⟩
    obtain ⟨container, member⟩ := List.exists_mem_of_ne_nil _ some
    exact (each container member).mp (all container member)
  refine (and_congr_left' within).trans (and_iff_left_of_imp fun grows => ?_)
  have both := delivered.interval.and delivered.timeStamps
  refine both.imp_of_mem fun {first second} isFirst isSecond apart => ?_
  have nonneg := nonneg (List.ne_nil_of_mem isFirst)
  have less := intervalNsec_le delivered.nonneg
  have scaled : (size : Int) * intervalNsec frameInterval ≤ size * (frameInterval * 1000000) :=
    Int.mul_le_mul_of_nonneg_left less (Int.natCast_nonneg size)
  rw [freshStream, delivered.of_mem isFirst, delivered.of_mem isSecond]
  simp only [List.forall_mem_map, List.mem_range]
  intro earlier isEarlier later isLater
  have before := (time_bounds first nonneg isEarlier).2
  have behind := (time_bounds second nonneg isLater).1
  obtain one | positive := grows (List.ne_nil_of_mem isFirst)
  · have single : size = 1 := by omega
    have once : (size : Int) * intervalNsec frameInterval = intervalNsec frameInterval := by
      rw [single, Int.natCast_one, Int.one_mul]
    omega
  · omega

end Delivered

/-- The plane buffers of a delivered sequence are numbered and timed as promised
exactly when the condition holds. -/
theorem reads_sound_iff {size : Nat} {frameInterval : Int} {containers : List Container}
    (delivered : Delivered size frameInterval containers) :
    SoundReads containers (freshStream frameInterval) ↔
      Spread size frameInterval containers := by
  have reads (before behind : List Container) (container : Container)
      (shape : containers = before ++ container :: behind) :
      (readUserBuf (streamAfter before (freshStream frameInterval)) container).planes =
          container.spreadPlanes frameInterval ∧
        (readUserBuf (streamAfter before (freshStream frameInterval)) container).measured =
          false := by
    subst shape
    exact readAfter_eq delivered delivered.ready_fresh
  constructor
  · intro sound
    have nonneg : containers ≠ [] → 0 ≤ intervalNsec frameInterval := by
      intro some
      cases shape : containers with
      | nil => exact absurd shape some
      | cons first rest =>
        have isFirst : first ∈ containers := shape ▸ List.mem_cons_self
        have inTime := sound.between [] first rest shape
        rw [(reads [] rest first shape).1, delivered.of_mem isFirst] at inTime
        have early := (inTime _ (List.mem_map_of_mem
          (List.mem_range.mpr delivered.size_pos))).1
        rw [time_plane] at early
        have pos := delivered.size_pos
        by_contra negative
        have := Int.mul_neg_of_pos_of_neg (Int.ofNat_lt.mpr pos) (Int.not_le.mp negative)
        simp only [Int.natCast_zero, Int.zero_mul] at early
        omega
    obtain ⟨fits, grows⟩ := (frameIdxs_iff delivered).mp sound.frameIdxs
    refine ⟨?_, fun some => ?_, fits, grows⟩
    · refine (gaps_iff delivered.frameIdxs).mpr fun before container behind shape follows => ?_
      have measured := (sound.measured before container behind shape).mpr follows
      rw [(reads before behind container shape).2] at measured
      cases measured
    · have pos := delivered.size_pos
      have := nonneg some
      obtain one | positive := (times_iff delivered nonneg).mp sound.times some
      · omega
      · exact Or.inl positive
  · intro spread
    have nonneg : containers ≠ [] → 0 ≤ intervalNsec frameInterval := fun some => by
      obtain positive | ⟨_, zero⟩ := spread.interval some <;> omega
    refine ⟨(frameIdxs_iff delivered).mpr ⟨spread.fits, spread.grows⟩,
      (times_iff delivered nonneg).mpr fun some => ?_, ?_, ?_⟩
    · obtain positive | ⟨one, _⟩ := spread.interval some
      · exact Or.inr positive
      · exact Or.inl (by omega)
    · intro before container behind shape
      have member : container ∈ containers :=
        shape ▸ List.mem_append_right _ List.mem_cons_self
      have nonneg := nonneg (List.ne_nil_of_mem member)
      rw [(reads before behind container shape).1, delivered.of_mem member]
      simp only [List.forall_mem_map, List.mem_range]
      intro i inside
      obtain ⟨low, high⟩ := time_bounds container nonneg inside
      refine ⟨by omega, fun previous isLast => ?_⟩
      have gap := (List.pairwise_append.mp (shape ▸ delivered.interval)).2.2 previous
        (List.mem_of_getLast? isLast) container List.mem_cons_self
      have scaled : (size : Int) * intervalNsec frameInterval ≤ size * (frameInterval * 1000000) :=
        Int.mul_le_mul_of_nonneg_left (intervalNsec_le delivered.nonneg) (Int.natCast_nonneg size)
      omega
    · intro before container behind shape
      rw [(reads before behind container shape).2]
      exact ⟨nofun, fun follows =>
        absurd follows
          ((gaps_iff delivered.frameIdxs).mp spread.gaps before container behind shape)⟩

/-- Two containers with a missing one between them. -/
def apartContainers : List Container :=
  [⟨2, 1, 0, false, 2, [0, 1]⟩, ⟨4, 1, 200000000, false, 2, [2, 3]⟩]

theorem reads_sound_apart : Delivered 2 33 apartContainers ∧
    (SoundReads apartContainers (freshStream 33) ↔ Spread 2 33 apartContainers) := by
  have delivered : Delivered 2 33 apartContainers :=
    ⟨by decide, by decide, by decide, by decide, by decide, by decide, by decide, by decide⟩
  exact ⟨delivered, reads_sound_iff delivered⟩

/-- Two containers, the second right after the first. -/
def firstContainers : List Container :=
  [⟨1, 1, 0, false, 2, [0, 1]⟩, ⟨2, 1, 100000000, false, 2, [2, 3]⟩]

/-- The first two containers share a frame id. -/
theorem reads_share_id : ¬ ∀ (size : Nat) (frameInterval : Int) (containers : List Container),
    Delivered size frameInterval containers →
      SoundReads containers (freshStream frameInterval) := by
  intro always
  have sound := always 2 33 firstContainers
    ⟨by decide, by decide, by decide, by decide, by decide, by decide, by decide, by decide⟩
  exact absurd sound.frameIdxs (by decide)

end AnglerHal.BatchTimes
