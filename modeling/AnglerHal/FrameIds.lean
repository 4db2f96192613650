import AnglerHal.SuperbufRepresentation

namespace AnglerHal.Superbuf

/-!
# Frame ids as the bundle compares them

Frame ids are 32-bit counters that start again at zero.  The bundle compares them
as plain numbers, which is their order in time only while no rollover lies between
them.
-/

/-! ## Rollover -/

/-- `first` comes after `second`, by less than half of the counter's range. -/
def LaterId (first second : BitVec 32) : Prop :=
  first ≠ second ∧ (first - second).toNat < 2 ^ 31

/-- Two ids are close enough to be ordered. -/
def CloseIds (first second : BitVec 32) : Prop :=
  (first - second).toNat < 2 ^ 31 ∨ (second - first).toNat < 2 ^ 31

/-- The comparison tells which of two ids is later. -/
structure ComparesInTime (first second : BitVec 32) : Prop where
  positive : 0 < utilSeqCompWRollover first.toNat second.toNat ↔ LaterId first second
  zero : utilSeqCompWRollover first.toNat second.toNat = 0 ↔ first = second
  negative : utilSeqCompWRollover first.toNat second.toNat < 0 ↔ LaterId second first

/-- The second test of `comp_and_enqueue`: metadata older than the image frame that
waits for metadata. -/
def olderMetadata (info : BufInfo) (ch : Channel) : Bool :=
  ch.queue.nomatchFrameId != 0 && info.frameIdx < ch.queue.nomatchFrameId &&
    info.buf.streamType == .metadata

/-- A bundled buffer of frame `first` is discarded as stale exactly when its frame
comes before the expected frame `second`; any other goes on to the second test. -/
def DiscardsInTime (first second : BitVec 32) : Prop :=
  ∀ memory info ch bufSIdx handled flushed, Arrives info bufSIdx ch → info.frameIdx ≠ 0 →
    handleMetadata ch info = some (handled, flushed) → info.frameIdx = first.toNat →
    handled.queue.expectedFrameId = second.toNat →
    (LaterId second first →
      superbufCompAndEnqueue memory info ch = (handled, flushed ++ [.qbuf info.buf])) ∧
    (¬ LaterId second first → superbufCompAndEnqueue memory info ch =
      if olderMetadata info handled then (handled, flushed ++ [.qbuf info.buf])
      else ((compare memory info bufSIdx handled).1,
        flushed ++ (compare memory info bufSIdx handled).2))

theorem toNat_sub_cases (first second : BitVec 32) :
    (second.toNat ≤ first.toNat ∧ (first - second).toNat = first.toNat - second.toNat) ∨
      (first.toNat < second.toNat ∧
        (first - second).toNat = 2 ^ 32 + first.toNat - second.toNat) := by
  have := first.isLt
  have := second.isLt
  rw [BitVec.toNat_sub]
  omega

variable {first second bufSIdx : Nat} {memory : Bool} {info : BufInfo} {ch : Channel}
  {flushed : List ChannelOutput}

theorem seqComp_pos :
    0 < utilSeqCompWRollover first second ↔ second < first := by
  unfold utilSeqCompWRollover
  split
  · simpa
  · split
    · simp; omega
    · simp; omega

theorem seqComp_neg :
    utilSeqCompWRollover first second < 0 ↔ first < second := by
  unfold utilSeqCompWRollover
  split
  · simp; omega
  · split
    · simpa
    · simp; omega

theorem seqComp_zero :
    utilSeqCompWRollover first second = 0 ↔ first = second := by
  unfold utilSeqCompWRollover
  split
  · simp; omega
  · split
    · simp; omega
    · simp; omega

/-- Without a rollover between two ids, the later one is the larger one. -/
theorem laterId_iff_lt {first second : BitVec 32}
    (near : first.toNat < second.toNat + 2 ^ 31 ∧ second.toNat < first.toNat + 2 ^ 31) :
    LaterId first second ↔ second.toNat < first.toNat := by
  rw [LaterId, Ne, BitVec.toNat_inj.symm]
  obtain ⟨order, same⟩ | ⟨order, same⟩ := toNat_sub_cases first second
  · rw [same]; omega
  · rw [same]; omega

/-- With a rollover between them, it is the smaller one. -/
theorem laterId_iff_gt {first second : BitVec 32} (close : CloseIds first second)
    (far : ¬ (first.toNat < second.toNat + 2 ^ 31 ∧ second.toNat < first.toNat + 2 ^ 31)) :
    LaterId first second ↔ first.toNat < second.toNat := by
  rw [LaterId, Ne, BitVec.toNat_inj.symm]
  unfold CloseIds at close
  have := first.isLt
  have := second.isLt
  obtain ⟨order, same⟩ | ⟨order, same⟩ := toNat_sub_cases first second <;>
    obtain ⟨back, sameBack⟩ | ⟨back, sameBack⟩ := toNat_sub_cases second first <;>
    rw [same] at close ⊢ <;> rw [sameBack] at close <;> omega

theorem isStale_eq (info : BufInfo) (ch : Channel) :
    isStale info ch = (decide (info.frameIdx < ch.queue.expectedFrameId) ||
      olderMetadata info ch) := by
  rw [isStale, olderMetadata, decide_eq_decide.mpr seqComp_neg]

theorem superbufCompAndEnqueue_eq {handled : Channel} (arrives : Arrives info bufSIdx ch)
    (frameIdx : info.frameIdx ≠ 0) (metadata : handleMetadata ch info = some (handled, flushed)) :
    superbufCompAndEnqueue memory info ch =
      if isStale info handled then (handled, flushed ++ [.qbuf info.buf])
      else ((compare memory info bufSIdx handled).1,
        flushed ++ (compare memory info bufSIdx handled).2) := by
  unfold superbufCompAndEnqueue
  rw [arrives]
  simp only [frameIdx, if_false, metadata]

/-- Frame ids less than half of the range apart are compared, and stale buffers
discarded, in the order of time exactly when no rollover lies between the two. -/
theorem frameIds_inTime_iff (first second : BitVec 32) (close : CloseIds first second) :
    ComparesInTime first second ∧ DiscardsInTime first second ↔
      first.toNat < second.toNat + 2 ^ 31 ∧ second.toNat < first.toNat + 2 ^ 31 := by
  constructor
  · rintro ⟨inTime, _⟩
    by_contra far
    have wrong := inTime.positive
    rw [seqComp_pos, laterId_iff_gt close far] at wrong
    have other := inTime.negative
    omega
  · intro near
    refine ⟨⟨?_, ?_, ?_⟩, ?_⟩
    · rw [seqComp_pos, laterId_iff_lt near]
    · rw [seqComp_zero, BitVec.toNat_inj]
    · rw [seqComp_neg, laterId_iff_lt near.symm]
    · intro memory info ch bufSIdx handled flushed arrives frameIdx metadata isFirst isSecond
      rw [superbufCompAndEnqueue_eq arrives frameIdx metadata, isStale_eq, isFirst, isSecond,
        laterId_iff_lt near.symm]
      exact ⟨fun stale => if_pos (by simp [stale]), fun fresh => by simp [fresh]⟩

/-- Two ids before the rollover. -/
theorem frameIds_inTime_beforeRollover :
    CloseIds 4294967294 4294967295 ∧ ComparesInTime 4294967294 4294967295 ∧
      DiscardsInTime 4294967294 4294967295 :=
  have close : CloseIds 4294967294 4294967295 := Or.inr (by decide)
  ⟨close, (frameIds_inTime_iff _ _ close).mpr (by decide)⟩

/-- Frame 1 after frame `2 ^ 32 - 1`. -/
theorem frameIds_rollover : ¬ ∀ first second : BitVec 32, CloseIds first second →
    ComparesInTime first second ∧ DiscardsInTime first second := by
  intro claim
  have wrong := (claim 1 4294967295 (Or.inl (by decide))).1.negative
  exact absurd (wrong.mp (by decide)) (by unfold LaterId; decide)

end AnglerHal.Superbuf
