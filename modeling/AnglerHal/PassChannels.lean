import AnglerHal.LabelledRun

namespace AnglerHal.Hal1PostProc

open LabelledRun

/-!
# Reprocess channels of `QCameraPostProcessor`

`start` deletes the reprocess channels of the run before it and creates one for
each pass; `stop` and the destructor delete them.  A deleted channel stays in
`mPPChannels`, where only `mTotalNumReproc` tells it from a live one, and
`setCurPPCount` counts a pass before its channel exists.  A `start` that fails
at one of its passes keeps the number of all of them.
-/

/-- What comes of one pass of `start`. -/
inductive PassOutcome where
  | started
  | notAdded
  | notStarted
  deriving DecidableEq

/--
The post-processor's table of reprocess channels.  A channel is the number of
its creation.  Counts stay within the range of `int8_t`, as the number of
passes does.
-/
structure Passes where
  m_bInited : Bool
  mPPChannels : Nat → Option Nat
  mTotalNumReproc : Nat
  mCurPPCount : Int
  /-- The number of channels created so far. -/
  created : Nat
  stops : Nat → Nat
  deletes : Nat → Nat
  destroyed : Bool

namespace Passes

/-- The constructor. -/
def new : Passes where
  m_bInited := false
  mPPChannels := fun _ => none
  mTotalNumReproc := 0
  mCurPPCount := 0
  created := 0
  stops := fun _ => 0
  deletes := fun _ => 0
  destroyed := false

/-- Stop and delete the channel of one entry, which keeps its value. -/
def deleteEntry (i : Nat) (passes : Passes) : Passes :=
  match passes.mPPChannels i with
  | none => passes
  | some channel =>
    { passes with
      stops :=
        Function.update passes.stops channel (passes.stops channel + 1)
      deletes :=
        Function.update passes.deletes channel (passes.deletes channel + 1)
      mCurPPCount := passes.mCurPPCount - 1 }

/-- The loop over the first entries that `start`, `stop` and the destructor share. -/
def deleteEntries : Nat → Passes → Passes
  | 0, passes => passes
  | i + 1, passes => (deleteEntries i passes).deleteEntry i

/-- A channel is created and started for pass `i`. -/
def addChannel (i : Nat) (passes : Passes) : Passes :=
  { passes with
    mCurPPCount := i + 1
    mPPChannels :=
      Function.update passes.mPPChannels i (some passes.created)
    created := passes.created + 1 }

/-- `addReprocChannel` returns no channel for pass `i`. -/
def failAdd (i : Nat) (passes : Passes) : Passes :=
  { passes with
    mCurPPCount := i + 1
    mPPChannels := Function.update passes.mPPChannels i none }

/-- The channel of pass `i` does not start and is deleted. -/
def failStart (i : Nat) (passes : Passes) : Passes :=
  { passes with
    mCurPPCount := i + 1
    mPPChannels := Function.update passes.mPPChannels i none
    created := passes.created + 1
    deletes :=
      Function.update passes.deletes passes.created (passes.deletes passes.created + 1) }

/-- The loop of `start` over its passes, which a pass that fails ends. -/
def createChannels : Nat → List PassOutcome → Passes → Passes
  | _, [], passes => passes
  | i, .started :: rest, passes => createChannels (i + 1) rest (passes.addChannel i)
  | i, .notAdded :: _, passes => passes.failAdd i
  | i, .notStarted :: _, passes => passes.failStart i

/-- Forget the channels of the run before, and count those of this one. -/
def setTotal (total : Nat) (passes : Passes) : Passes :=
  { passes with
    mTotalNumReproc := total
    mCurPPCount := 0 }

end Passes

/--
A call of the post-processor.  `start` says whether it has a source channel and
needs reprocessing, and what comes of each of its `getReprocCount` passes.
-/
inductive PassCall where
  | init (opened : Bool)
  | deinit
  | start (hasSrcChannel needReprocess : Bool) (outcomes : List PassOutcome)
  | stop
  | destruct
  deriving DecidableEq

namespace Passes

/-- `start`, up to the command that starts the data process thread. -/
def start (hasSrcChannel needReprocess : Bool) (outcomes : List PassOutcome)
    (passes : Passes) : Passes :=
  if passes.m_bInited = true ∧ hasSrcChannel = true ∧ needReprocess = true then
    ((passes.deleteEntries passes.mTotalNumReproc).setTotal
      outcomes.length).createChannels 0 outcomes
  else
    passes

/-- `stop`. -/
def stop (passes : Passes) : Passes :=
  (passes.deleteEntries passes.mTotalNumReproc).setTotal 0

/-- `~QCameraPostProcessor`. -/
def destruct (passes : Passes) : Passes :=
  { passes.deleteEntries passes.mTotalNumReproc with
    mTotalNumReproc := 0
    destroyed := true }

end Passes

/-- One call; there is none after the destructor. -/
def passStep (passes : Passes) (call : PassCall) : Option (Passes × List Unit) :=
  if passes.destroyed = true then
    none
  else
    match call with
    | .init opened => some ({ passes with m_bInited := passes.m_bInited || opened }, [])
    | .deinit => some ({ passes with m_bInited := false }, [])
    | .start hasSrcChannel needReprocess outcomes =>
      some (passes.start hasSrcChannel needReprocess outcomes, [])
    | .stop => some (passes.stop, [])
    | .destruct => some (passes.destruct, [])

/-- The number of channels that are created and not deleted. -/
def Passes.live (passes : Passes) : Nat :=
  (List.range passes.created).countP fun channel =>
    passes.deletes channel == 0

/--
What holds between two calls: no channel is stopped or deleted twice, a deleted
channel was stopped, nothing is left once the table is given up, no entry in
use refers to a deleted channel, and `getCurPPCount` is the number of live ones.
-/
structure PassesSound (passes : Passes) : Prop where
  once : ∀ channel < passes.created, passes.stops channel ≤ 1 ∧
        passes.deletes channel = passes.stops channel
  closed : passes.mTotalNumReproc = 0 → ∀ channel < passes.created,
        passes.stops channel = 1 ∧ passes.deletes channel = 1
  entries : ∀ i < passes.mTotalNumReproc, ∀ channel,
        passes.mPPChannels i = some channel → passes.deletes channel = 0
  counted : passes.mCurPPCount = passes.live

/-- The call leaves the table sound. -/
def PassSoundStep (passes : Passes) (call : PassCall) : Prop :=
  ∀ next outputs, passStep passes call = some (next, outputs) → PassesSound next

/-- A `start` that creates channels does so for each of its passes. -/
def PassesStart (passes : Passes) : PassCall → Prop
  | .start hasSrcChannel needReprocess outcomes =>
    passes.destroyed = false →
    passes.m_bInited = true →
    hasSrcChannel = true →
    needReprocess = true → ∀ outcome ∈ outcomes, outcome = .started
  | _ => True

/-!
## The channels in use

The first channels ever created are stopped and deleted, the last ones fill the
first entries of the table in order.
-/

/-- All channels before `first` are gone, and the next `n` fill the table. -/
structure PassesFrom (first n : Nat) (passes : Passes) : Prop where
  created : passes.created = first + n
  entries : ∀ i < n, passes.mPPChannels i = some (first + i)
  gone : ∀ channel < first, passes.stops channel = 1 ∧ passes.deletes channel = 1
  used : ∀ channel, first ≤ channel → passes.stops channel = 0 ∧ passes.deletes channel = 0
  counted : passes.mCurPPCount = n

/-- What calls that meet the condition keep. -/
def PassesInv (passes : Passes) : Prop :=
  ∃ first, PassesFrom first passes.mTotalNumReproc passes

theorem PassesInv.new : PassesInv .new :=
  ⟨0, rfl, by simp [Passes.new], by simp, by simp [Passes.new], rfl⟩

variable {passes : Passes} {first n : Nat}

theorem PassesFrom.live (inUse : PassesFrom first n passes) : passes.live = n := by
  have gone : (List.range first).countP (fun channel => passes.deletes channel == 0) = 0 := by
    rw [List.countP_eq_zero]
    intro channel member
    simp [(inUse.gone channel (List.mem_range.mp member)).2]
  have used : ((List.range n).map (first + ·)).countP
          (fun channel => passes.deletes channel == 0) = n := by
    rw [List.countP_eq_length.mpr, List.length_map, List.length_range]
    intro channel member
    obtain ⟨i, -, rfl⟩ := List.mem_map.mp member
    simp [(inUse.used (first + i) (Nat.le_add_right first i)).2]
  unfold Passes.live
  rw [inUse.created, List.range_add, List.countP_append, gone, used, Nat.zero_add]

theorem PassesInv.sound (inv : PassesInv passes) :
    PassesSound passes := by
  obtain ⟨first, inUse⟩ := inv
  refine ⟨?_, ?_, ?_, ?_⟩
  · intro channel _
    by_cases gone : channel < first
    · obtain ⟨stopped, deleted⟩ := inUse.gone channel gone
      exact ⟨Nat.le_of_eq stopped, deleted.trans stopped.symm⟩
    · obtain ⟨stopped, deleted⟩ := inUse.used channel (Nat.le_of_not_lt gone)
      exact ⟨stopped ▸ Nat.zero_le 1, deleted.trans stopped.symm⟩
  · intro none channel created
    rw [inUse.created, none, Nat.add_zero] at created
    exact inUse.gone channel created
  · intro i inTable channel entry
    rw [inUse.entries i inTable] at entry
    obtain rfl := Option.some.inj entry
    exact (inUse.used _ (Nat.le_add_right first i)).2
  · rw [inUse.live, inUse.counted]

theorem Passes.deleteEntries_spec (entries : ∀ i < n, passes.mPPChannels i = some (first + i)) :
    passes.deleteEntries n = { passes with
        stops := fun channel =>
          passes.stops channel + if first ≤ channel ∧ channel < first + n then 1 else 0
        deletes := fun channel =>
          passes.deletes channel + if first ≤ channel ∧ channel < first + n then 1 else 0
        mCurPPCount := passes.mCurPPCount - n } := by
  induction n with
  | zero =>
    have none : ∀ channel, ¬ (first ≤ channel ∧ channel < first) := by
      rintro channel ⟨low, high⟩
      exact absurd high (Nat.not_lt_of_le low)
    simp [Passes.deleteEntries, none]
  | succ n inductionHypothesis =>
    have entry := entries n (Nat.lt_succ_self n)
    have counts : ∀ counter : Nat → Nat, Function.update (fun channel =>
                counter channel + if first ≤ channel ∧ channel < first + n then 1 else 0)
              (first + n)
              (counter (first + n) + (if first ≤ first + n ∧ first + n < first + n then 1 else 0) +
                1) =
            fun channel =>
              counter channel + if first ≤ channel ∧ channel < first + (n + 1) then 1
                else 0 := by
      intro counter
      funext channel
      by_cases last : channel = first + n
      · subst last
        simp
      · have same : (first ≤ channel ∧ channel < first + n) ↔
              (first ≤ channel ∧ channel < first + (n + 1)) := by
          omega
        simp [Function.update_of_ne last, same]
    unfold Passes.deleteEntries
    rw [inductionHypothesis fun i earlier =>
      entries i (Nat.lt_succ_of_lt earlier)]
    simp only [Passes.deleteEntry, entry, counts, Int.natCast_add, Int.natCast_one, Int.sub_sub]

theorem PassesFrom.deleteEntries (inUse : PassesFrom first n passes) :
    PassesFrom passes.created 0 (passes.deleteEntries n) := by
  rw [Passes.deleteEntries_spec inUse.entries]
  refine ⟨rfl, ?_, ?_, ?_, ?_⟩
  · intro i none
    cases none
  · intro channel created
    simp only [inUse.created] at created
    by_cases gone : channel < first
    · obtain ⟨stopped, deleted⟩ := inUse.gone channel gone
      simp [stopped, deleted, Nat.not_le_of_lt gone]
    · obtain ⟨stopped, deleted⟩ := inUse.used channel (Nat.le_of_not_lt gone)
      simp [stopped, deleted, created, Nat.le_of_not_lt gone]
  · intro channel later
    simp only [inUse.created] at later
    have isUsed : first ≤ channel := Nat.le_trans (Nat.le_add_right _ _) later
    obtain ⟨stopped, deleted⟩ := inUse.used channel isUsed
    simp [stopped, deleted, Nat.not_lt_of_le later]
  · simp [inUse.counted]

theorem PassesFrom.setTotal (none : PassesFrom first 0 passes) (total : Nat) :
    PassesFrom first 0 (passes.setTotal total) :=
  ⟨none.created, none.entries, none.gone, none.used, rfl⟩

theorem PassesFrom.addChannel (inUse : PassesFrom first n passes) :
    PassesFrom first (n + 1) (passes.addChannel n) := by
  refine ⟨congrArg (· + 1) inUse.created, ?_, inUse.gone, inUse.used, rfl⟩
  intro i inTable
  by_cases last : i = n
  · subst last
    simp [Passes.addChannel, inUse.created]
  · have earlier : i < n := by
      omega
    simp [Passes.addChannel, Function.update_of_ne last, inUse.entries i earlier]

theorem PassesFrom.failAdd_count (inUse : PassesFrom first n passes) :
    (passes.failAdd n).mCurPPCount ≠ (passes.failAdd n).live := by
  have live : (passes.failAdd n).live = n := inUse.live
  rw [live]
  change (n : Int) + 1 ≠ n
  omega

theorem PassesFrom.failStart_count (inUse : PassesFrom first n passes) :
    (passes.failStart n).mCurPPCount ≠ (passes.failStart n).live := by
  have live : (passes.failStart n).live = n := by
    have others : ∀ channel ∈ List.range passes.created,
          ((passes.failStart n).deletes channel == 0) = (passes.deletes channel == 0) := by
      intro channel member
      have older : channel ≠ passes.created := Nat.ne_of_lt (List.mem_range.mp member)
      simp [Passes.failStart, Function.update_of_ne older]
    have gone : (passes.failStart n).deletes passes.created ≠ 0 := by
      simp [Passes.failStart]
    change (List.range (passes.created + 1)).countP
        (fun channel => (passes.failStart n).deletes channel == 0) = n
    rw [List.range_succ, List.countP_append,
      List.countP_congr fun channel member => by rw [others channel member]]
    simpa [gone, Passes.live] using inUse.live
  rw [live]
  change (n : Int) + 1 ≠ n
  omega

theorem Passes.createChannels_total (i : Nat) (outcomes : List PassOutcome) (passes : Passes) :
    (passes.createChannels i outcomes).mTotalNumReproc =
      passes.mTotalNumReproc := by
  induction outcomes generalizing i passes with
  | nil => rfl
  | cons outcome rest inductionHypothesis =>
    cases outcome with
    | started => exact inductionHypothesis (i + 1) (passes.addChannel i)
    | notAdded | notStarted => rfl

variable {outcomes : List PassOutcome} {call : PassCall}

theorem PassesFrom.createChannels (inUse : PassesFrom first n passes)
    (started : ∀ outcome ∈ outcomes, outcome = .started) :
    PassesFrom first (n + outcomes.length) (passes.createChannels n outcomes) := by
  induction outcomes generalizing n passes with
  | nil => exact inUse
  | cons outcome rest inductionHypothesis =>
    obtain ⟨rfl, restStarted⟩ := List.forall_mem_cons.mp started
    have filled := inductionHypothesis inUse.addChannel restStarted
    rw [List.length_cons, Nat.add_comm rest.length, ← Nat.add_assoc]
    exact filled

theorem PassesFrom.createChannels_started (inUse : PassesFrom first n passes)
    (counted : (passes.createChannels n outcomes).mCurPPCount =
        (passes.createChannels n outcomes).live) :
    ∀ outcome ∈ outcomes, outcome = .started := by
  induction outcomes generalizing n passes with
  | nil => exact fun outcome member => nomatch member
  | cons outcome rest inductionHypothesis =>
    cases outcome with
    | started => exact List.forall_mem_cons.mpr ⟨rfl, inductionHypothesis inUse.addChannel counted⟩
    | notAdded => exact absurd counted inUse.failAdd_count
    | notStarted => exact absurd counted inUse.failStart_count

theorem PassesInv.createChannels (inv : PassesInv passes)
    (started : ∀ outcome ∈ outcomes, outcome = .started) :
    PassesInv (((passes.deleteEntries passes.mTotalNumReproc).setTotal
        outcomes.length).createChannels 0 outcomes) := by
  obtain ⟨first, inUse⟩ := inv
  have none := inUse.deleteEntries.setTotal outcomes.length
  have filled := none.createChannels started
  rw [Nat.zero_add] at filled
  refine ⟨passes.created, ?_⟩
  rw [Passes.createChannels_total]
  exact filled

theorem PassesInv.stop (inv : PassesInv passes) : PassesInv passes.stop := by
  obtain ⟨first, inUse⟩ := inv
  exact ⟨passes.created, inUse.deleteEntries.setTotal 0⟩

theorem PassesInv.destruct (inv : PassesInv passes) : PassesInv passes.destruct := by
  obtain ⟨first, inUse⟩ := inv
  have none := inUse.deleteEntries
  exact ⟨passes.created, none.created, none.entries, none.gone, none.used, none.counted⟩

theorem PassesInv.step {next : Passes} {outputs : List Unit} (inv : PassesInv passes)
    (starts : PassesStart passes call)
    (stepped : passStep passes call = some (next, outputs)) :
    PassesInv next := by
  unfold passStep at stepped
  split at stepped
  · cases stepped
  · rename_i notDestroyed
    cases call with
    | init | deinit =>
      cases stepped
      obtain ⟨first, inUse⟩ := inv
      exact ⟨first, inUse.created, inUse.entries, inUse.gone, inUse.used, inUse.counted⟩
    | start hasSrcChannel needReprocess outcomes =>
      cases stepped
      unfold Passes.start
      split
      · rename_i creates
        obtain ⟨inited, hasInput, needed⟩ := creates
        exact inv.createChannels (starts ((Bool.not_eq_true _).mp notDestroyed) inited hasInput
            needed)
      · exact inv
    | stop =>
      cases stepped
      exact inv.stop
    | destruct =>
      cases stepped
      exact inv.destruct

theorem PassesInv.soundStep_iff (inv : PassesInv passes) :
    PassSoundStep passes call ↔ PassesStart passes call := by
  constructor
  · intro sound
    cases call with
    | start hasSrcChannel needReprocess outcomes =>
      intro notDestroyed inited hasInput needed
      have stepped : passStep passes (.start hasSrcChannel needReprocess outcomes) =
            some (((passes.deleteEntries passes.mTotalNumReproc).setTotal
              outcomes.length).createChannels 0 outcomes, []) := by
        simp [passStep, notDestroyed, Passes.start, inited, hasInput, needed]
      obtain ⟨first, inUse⟩ := inv
      have none := inUse.deleteEntries.setTotal outcomes.length
      exact none.createChannels_started (sound _ _ stepped).counted
    | init | deinit | stop | destruct => trivial
  · intro starts next outputs stepped
    exact (inv.step starts stepped).sound

/--
In every sequence of calls, each reprocess channel is stopped and deleted once,
no entry in use dangles and `getCurPPCount` is the number of live channels,
exactly when every `start` that creates channels succeeds at all its passes.
-/
theorem passRun_sound_iff (calls : List PassCall) :
    Guarded passStep (fun passes _ call => PassSoundStep passes call) .new [] calls ↔
      Guarded passStep (fun passes _ call => PassesStart passes call) .new [] calls := by
  refine guarded_iff_of_invariant PassesInv (fun inv => inv.soundStep_iff) ?_ PassesInv.new
  intro passes _ call next _ inv sound stepped
  exact inv.step (inv.soundStep_iff.mp sound) stepped

/-- Two passes, and in the next run no channel for the first of them. -/
def failingStart : List PassCall :=
  [.init true, .start true true [.started, .started], .stop, .start true true [.notAdded, .started]]

/-- The next `stop` stops and deletes the second channel once more. -/
theorem passRun_notAdded : ¬ Guarded passStep (fun passes _ call => PassSoundStep passes call)
      .new [] (failingStart ++ [.stop]) := by
  intro sound
  have stopped := sound.last rfl
  have once := (stopped _ _ rfl).once 1 (by decide)
  exact absurd once.1 (by decide)

end AnglerHal.Hal1PostProc
