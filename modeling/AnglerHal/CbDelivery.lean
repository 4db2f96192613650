import AnglerHal.CbNotifier
import Mathlib.Data.List.Nodup

namespace AnglerHal.CbNotifier

open PostProc (CameraQueue)
open LabelledRun

/-!
# Delivery and release of the callbacks

A callback leaves `mDataQ` once, by a delivery or by a flush, and whoever takes
it out releases it.  The order of the queue is that of the calls, and the
thread counts the snapshots of a series from the command that starts it.
-/

/-! ## The log -/

@[simp]
theorem enqueuedCallbacks_append (log later : List Output) : enqueuedCallbacks (log ++ later) =
      enqueuedCallbacks log ++ enqueuedCallbacks later :=
  List.filterMap_append

@[simp]
theorem deliveredCallbacks_append (log later : List Output) : deliveredCallbacks (log ++ later) =
      deliveredCallbacks log ++ deliveredCallbacks later :=
  List.filterMap_append

variable {flushed : List Callback} {output : Output} {cb : Callback}
  {log before after : List Output} {snapshots : Snapshots} {notifier : Notifier}

theorem eq_released_of_mem_releases (member : output ∈ releases flushed) :
    ∃ cb ∈ flushed, output = .released cb.call := by
  obtain ⟨cb, inFlushed, isOutput⟩ := List.mem_filterMap.mp member
  split at isOutput
  · exact ⟨cb, inFlushed, (Option.some.inj isOutput).symm⟩
  · cases isOutput

@[simp]
theorem enqueuedCallbacks_releases (flushed : List Callback) :
    enqueuedCallbacks (releases flushed) = [] := by
  refine List.filterMap_eq_nil_iff.mpr ?_
  intro output member
  obtain ⟨cb, -, rfl⟩ := eq_released_of_mem_releases member
  rfl

@[simp]
theorem deliveredCallbacks_releases (flushed : List Callback) :
    deliveredCallbacks (releases flushed) = [] := by
  refine List.filterMap_eq_nil_iff.mpr ?_
  intro output member
  obtain ⟨cb, -, rfl⟩ := eq_released_of_mem_releases member
  rfl

theorem count_releases (distinct : (flushed.map Callback.call).Nodup)
    (same : ∀ other ∈ flushed, other.call = cb.call → other = cb) :
    (releases flushed).count (.released cb.call) =
      if cb ∈ flushed ∧ cb.hasRelease = true then 1 else 0 := by
  induction flushed with
  | nil => rfl
  | cons first rest inductionHypothesis =>
    simp only [List.map_cons, List.nodup_cons] at distinct
    obtain ⟨notAgain, restDistinct⟩ := distinct
    have later := inductionHypothesis restDistinct
        (fun other member => same other (List.mem_cons_of_mem _ member))
    by_cases isFirst : first.call = cb.call
    · obtain rfl := same first List.mem_cons_self isFirst
      have notInRest : first ∉ rest := fun member =>
        notAgain (List.mem_map_of_mem member)
      simp only [notInRest, false_and, if_false] at later
      cases wants : first.hasRelease with
      | true => simpa [releases, wants] using later
      | false => simpa [releases, wants] using later
    · have different : cb ≠ first := fun equal => isFirst (equal ▸ rfl)
      cases wants : first.hasRelease with
      | true => simpa [releases, wants, different, isFirst] using later
      | false => simpa [releases, wants, different] using later

/-! ## Calls and releases -/

/--
Where the callbacks of the calls are.  `items` are in the queue, and the calls
of `posting` have not returned.
-/
structure Accounts (nextCall : Nat) (items posting : List Callback) (log : List Output) : Prop where
  enqueuedOld : ∀ cb ∈ enqueuedCallbacks log, cb.call < nextCall
  returnedOld : ∀ call rc, .returned call rc ∈ log → call < nextCall
  distinct : ((enqueuedCallbacks log).map Callback.call).Nodup
  order : (deliveredCallbacks log ++ items).Sublist (enqueuedCallbacks log)
  posting : ∀ cb ∈ posting, cb ∈ enqueuedCallbacks log
  accepted : ∀ call, .returned call noError ∈ log → ∃ cb ∈ enqueuedCallbacks log, cb.call = call
  refused : ∀ call rc, .returned call rc ∈ log → rc ≠ noError →
        ∀ cb ∈ enqueuedCallbacks log, cb.call ≠ call
  releasedOnce : ∀ cb ∈ enqueuedCallbacks log, log.count (.released cb.call) =
        if cb ∉ items ∧ cb.hasRelease = true then 1 else 0
  releasedKnown : ∀ call, .released call ∈ log → ∃ cb ∈ enqueuedCallbacks log, cb.call = call

theorem Accounts.launched : Accounts 0 [] [] [] := by
  constructor <;> simp [enqueuedCallbacks, deliveredCallbacks]

variable {nextCall : Nat} {items posting : List Callback}

theorem Accounts.same_call (accounts : Accounts nextCall items posting log)
    {other : Callback} (member : cb ∈ enqueuedCallbacks log)
    (otherMember : other ∈ enqueuedCallbacks log) (sameCall : other.call = cb.call) :
    other = cb :=
  List.inj_on_of_nodup_map accounts.distinct otherMember member sameCall

theorem Accounts.items_sublist (accounts : Accounts nextCall items posting log) :
    items.Sublist (enqueuedCallbacks log) :=
  (List.sublist_append_right _ _).trans accounts.order

/--
A call returns: without an error if its callback was enqueued, and with one if
there is none.
-/
theorem Accounts.returns (accounts : Accounts nextCall items posting log)
    {call limit : Nat} {rc : Int} {left : List Callback} (grows : nextCall ≤ limit)
    (old : call < limit)
    (accepts : rc = noError → ∃ cb ∈ enqueuedCallbacks log, cb.call = call)
    (refuses : rc ≠ noError → ∀ cb ∈ enqueuedCallbacks log, cb.call ≠ call)
    (fewer : ∀ cb ∈ left, cb ∈ posting) :
    Accounts limit items left (log ++ [Output.returned call rc]) := by
  have sameEnqueued : enqueuedCallbacks (log ++ [Output.returned call rc]) =
        enqueuedCallbacks log := by
    rw [enqueuedCallbacks_append]
    exact List.append_nil _
  have sameDelivered : deliveredCallbacks (log ++ [Output.returned call rc]) =
        deliveredCallbacks log := by
    rw [deliveredCallbacks_append]
    exact List.append_nil _
  have returned : ∀ other code, .returned other code ∈ log ++ [Output.returned call rc] →
          .returned other code ∈ log ∨ (other = call ∧ code = rc) := by
    intro other code member
    rcases List.mem_append.mp member with earlier | isNew
    · exact .inl earlier
    · cases List.mem_singleton.mp isNew
      exact .inr ⟨rfl, rfl⟩
  constructor
  · intro cb member
    rw [sameEnqueued] at member
    exact Nat.lt_of_lt_of_le (accounts.enqueuedOld cb member) grows
  · intro other code member
    rcases returned other code member with earlier | ⟨rfl, -⟩
    · exact Nat.lt_of_lt_of_le (accounts.returnedOld other code earlier) grows
    · exact old
  · rw [sameEnqueued]
    exact accounts.distinct
  · rw [sameEnqueued, sameDelivered]
    exact accounts.order
  · rw [sameEnqueued]
    exact fun cb member => accounts.posting cb (fewer cb member)
  · intro other member
    rw [sameEnqueued]
    rcases returned other noError member with earlier | ⟨rfl, isOk⟩
    · exact accounts.accepted other earlier
    · exact accepts isOk.symm
  · intro other code member isError
    rw [sameEnqueued]
    rcases returned other code member with earlier | ⟨rfl, rfl⟩
    · exact accounts.refused other code earlier isError
    · exact refuses isError
  · intro cb member
    rw [sameEnqueued] at member
    rw [List.count_append]
    exact accounts.releasedOnce cb member
  · intro other member
    rw [sameEnqueued]
    rcases List.mem_append.mp member with earlier | isNew
    · exact accounts.releasedKnown other earlier
    · cases List.mem_singleton.mp isNew

theorem Accounts.refuse (accounts : Accounts nextCall items posting log) {rc : Int}
    (error : rc ≠ noError) :
    Accounts (nextCall + 1) items posting (log ++ [Output.returned nextCall rc]) :=
  accounts.returns (Nat.le_succ _) (Nat.lt_succ_self _) (fun isOk => absurd isOk error)
    (fun _ cb member => Nat.ne_of_lt (accounts.enqueuedOld cb member))
    (fun _ member => member)

theorem Accounts.enqueue (accounts : Accounts nextCall items posting log) {cb : Callback}
    (isNext : cb.call = nextCall) :
    Accounts (nextCall + 1) (items ++ [cb]) (cb :: posting) (log ++ [Output.enqueued cb]) := by
  have nowEnqueued : enqueuedCallbacks (log ++ [Output.enqueued cb]) =
        enqueuedCallbacks log ++ [cb] :=
    enqueuedCallbacks_append log _
  have sameDelivered :
      deliveredCallbacks (log ++ [Output.enqueued cb]) = deliveredCallbacks log := by
    rw [deliveredCallbacks_append]
    exact List.append_nil _
  have earlierOutput :
      ∀ output ∈ log ++ [Output.enqueued cb], output = .enqueued cb ∨ output ∈ log := by
    intro output member
    rcases List.mem_append.mp member with earlier | isNew
    · exact .inr earlier
    · exact .inl (List.mem_singleton.mp isNew)
  have returned : ∀ call rc, .returned call rc ∈ log ++ [Output.enqueued cb] →
          .returned call rc ∈ log :=
    fun call rc member =>
      (earlierOutput _ member).resolve_left fun same => nomatch same
  have isNew : ∀ other ∈ enqueuedCallbacks log, other.call ≠ cb.call := by
    intro other member
    rw [isNext]
    exact Nat.ne_of_lt (accounts.enqueuedOld other member)
  constructor
  · intro other member
    rw [nowEnqueued] at member
    rcases List.mem_append.mp member with earlier | isCb
    · exact Nat.lt_succ_of_lt (accounts.enqueuedOld other earlier)
    · obtain rfl := List.mem_singleton.mp isCb
      exact isNext ▸ Nat.lt_succ_self _
  · intro call rc member
    exact Nat.lt_succ_of_lt (accounts.returnedOld call rc (returned call rc member))
  · rw [nowEnqueued, List.map_append]
    refine List.nodup_append.mpr ⟨accounts.distinct, by simp, ?_⟩
    intro call member other isCb
    obtain ⟨earlier, inLog, rfl⟩ := List.mem_map.mp member
    obtain rfl : other = cb.call := by simpa using isCb
    exact isNew earlier inLog
  · rw [nowEnqueued, sameDelivered, ← List.append_assoc]
    exact accounts.order.append (List.Sublist.refl [cb])
  · intro other member
    rw [nowEnqueued]
    rcases List.mem_cons.mp member with rfl | earlier
    · exact List.mem_append_right _ List.mem_cons_self
    · exact List.mem_append_left _ (accounts.posting other earlier)
  · intro call member
    rw [nowEnqueued]
    obtain ⟨other, earlier, isCall⟩ := accounts.accepted call (returned call noError member)
    exact ⟨other, List.mem_append_left _ earlier, isCall⟩
  · intro call rc member isError other inQueue
    rw [nowEnqueued] at inQueue
    have inLog := returned call rc member
    rcases List.mem_append.mp inQueue with earlier | isCb
    · exact accounts.refused call rc inLog isError other earlier
    · obtain rfl := List.mem_singleton.mp isCb
      rw [isNext]
      exact (Nat.ne_of_lt (accounts.returnedOld call rc inLog)).symm
  · intro other member
    rw [nowEnqueued] at member
    rcases List.mem_append.mp member with earlier | isCb
    · have different : other ≠ cb := fun equal =>
        isNew other earlier (equal ▸ rfl)
      simpa [different] using accounts.releasedOnce other earlier
    · obtain rfl := List.mem_singleton.mp isCb
      have notReleased : Output.released other.call ∉ log := by
        intro released
        obtain ⟨earlier, inLog, sameCall⟩ := accounts.releasedKnown other.call released
        exact isNew earlier inLog sameCall
      simp [List.count_eq_zero_of_not_mem notReleased]
  · intro call member
    rw [nowEnqueued]
    obtain ⟨other, earlier, isCall⟩ :=
      accounts.releasedKnown call ((earlierOutput _ member).resolve_left fun same => nomatch same)
    exact ⟨other, List.mem_append_left _ earlier, isCall⟩

theorem Accounts.post (accounts : Accounts nextCall items posting log)
    (posts : cb ∈ posting) :
    Accounts nextCall items (posting.erase cb) (log ++ [Output.returned cb.call noError]) := by
  have enqueued := accounts.posting cb posts
  exact accounts.returns (Nat.le_refl _) (accounts.enqueuedOld cb enqueued)
    (fun _ => ⟨cb, enqueued, rfl⟩) (fun isError => absurd rfl isError)
    (fun _ member => List.mem_of_mem_erase member)

/--
Callbacks are taken out of the queue.  What the step puts out releases them,
and tells of nothing else but deliveries and snapshots.
-/
theorem Accounts.takeOut (accounts : Accounts nextCall items posting log)
    {gone rest : List Callback} {outputs : List Output}
    (parts : ∀ cb, cb ∈ items ↔ cb ∈ gone ∨ cb ∈ rest) (apart : ∀ cb ∈ gone, cb ∉ rest)
    (distinct : (gone.map Callback.call).Nodup)
    (order : (deliveredCallbacks (log ++ outputs) ++ rest).Sublist (enqueuedCallbacks log))
    (noEnqueue : enqueuedCallbacks outputs = [])
    (noReturn : ∀ call rc, .returned call rc ∉ outputs)
    (released : ∀ call, outputs.count (.released call) = (releases gone).count (.released call)) :
    Accounts nextCall rest posting (log ++ outputs) := by
  have sameEnqueued : enqueuedCallbacks (log ++ outputs) = enqueuedCallbacks log := by
    simp [noEnqueue]
  have returned : ∀ call rc, .returned call rc ∈ log ++ outputs ↔ .returned call rc ∈ log := by
    intro call rc
    simp [noReturn call rc]
  have enqueued : ∀ cb ∈ gone, cb ∈ enqueuedCallbacks log := by
    intro cb member
    exact accounts.items_sublist.subset ((parts cb).mpr (.inl member))
  constructor
  · rw [sameEnqueued]
    exact accounts.enqueuedOld
  · intro call rc member
    exact accounts.returnedOld call rc ((returned call rc).mp member)
  · rw [sameEnqueued]
    exact accounts.distinct
  · rw [sameEnqueued]
    exact order
  · rw [sameEnqueued]
    exact accounts.posting
  · intro call member
    rw [sameEnqueued]
    exact accounts.accepted call ((returned call noError).mp member)
  · intro call rc member isError
    rw [sameEnqueued]
    exact accounts.refused call rc ((returned call rc).mp member) isError
  · intro cb member
    rw [sameEnqueued] at member
    rw [List.count_append, released, count_releases distinct (fun other inGone =>
        accounts.same_call member (enqueued other inGone)),
      accounts.releasedOnce cb member]
    by_cases inGone : cb ∈ gone
    · have inItems := (parts cb).mpr (.inl inGone)
      simp [inGone, inItems, apart cb inGone]
    · have sameQueue : cb ∈ items ↔ cb ∈ rest := by
        simpa [inGone] using parts cb
      simp [inGone, sameQueue]
  · intro call member
    rw [sameEnqueued]
    rcases List.mem_append.mp member with earlier | now
    · exact accounts.releasedKnown call earlier
    · have counted : 0 < (releases gone).count (.released call) := by
        rw [← released]
        exact List.count_pos_iff.mpr now
      obtain ⟨cb, inGone, isCall⟩ :=
        eq_released_of_mem_releases (List.count_pos_iff.mp counted)
      obtain rfl : call = cb.call := by simpa using isCall
      exact ⟨cb, enqueued cb inGone, rfl⟩

theorem Accounts.flushNodes (accounts : Accounts nextCall items posting log)
    (isMatch : Callback → Bool) {extra : List Output}
    (noCallbacks : ∀ output ∈ extra, isBoundary output = true) :
    Accounts nextCall (items.filter fun cb => !isMatch cb) posting
      (log ++ (releases (items.filter isMatch) ++ extra)) := by
  have noEnqueue : enqueuedCallbacks extra = [] := by
    refine List.filterMap_eq_nil_iff.mpr ?_
    intro output member
    have boundary := noCallbacks output member
    cases output <;> simp_all [isBoundary]
  have noDelivery : deliveredCallbacks extra = [] := by
    refine List.filterMap_eq_nil_iff.mpr ?_
    intro output member
    have boundary := noCallbacks output member
    cases output <;> simp_all [isBoundary]
  refine @takeOut _ _ _ _ accounts (items.filter isMatch) _ _ ?_ ?_ ?_ ?_ ?_ ?_ ?_
  · intro cb
    cases isMatched : isMatch cb <;> simp [isMatched]
  · intro cb member
    simp only [List.mem_filter] at member
    simp [member.2]
  · exact List.Nodup.sublist (((List.filter_sublist).trans accounts.items_sublist).map _)
      accounts.distinct
  · have kept := (List.Sublist.refl (deliveredCallbacks log)).append
        (List.filter_sublist : (items.filter fun cb => !isMatch cb).Sublist items)
    simpa [noDelivery] using kept.trans accounts.order
  · simp [noEnqueue]
  · intro call rc member
    rcases List.mem_append.mp member with isRelease | isExtra
    · obtain ⟨cb, -, isOutput⟩ := eq_released_of_mem_releases isRelease
      cases isOutput
    · cases noCallbacks _ isExtra
  · intro call
    have notExtra : Output.released call ∉ extra := by
      intro member
      cases noCallbacks _ member
    rw [List.count_append, List.count_eq_zero_of_not_mem notExtra, Nat.add_zero]

/-! ## Series of snapshots -/

/--
What the variables of the thread say about the outputs since the last command
that started a series.
-/
def SessionOk (snapshots : Snapshots) (log : List Output) : Prop :=
  ∀ before expected longshot after, log = before ++ .started expected longshot :: after →
    (∀ output ∈ after, isBoundary output = false) → snapshots.longShotEnabled = longshot ∧
        snapshots.numOfSnapshotExpected = expected ∧
        (longshot = false → snapshots.numOfSnapshotRcvd = after.countP isSnapshot ∧
            after.count .snapshotDone ≤ 1 ∧
            (.snapshotDone ∈ after → expected ≤ after.countP isSnapshot) ∧
            ∀ earlier later, after = earlier ++ .snapshotDone :: later →
                earlier.countP isSnapshot + 1 = expected)

theorem append_eq_append_cons {outputs : List Output}
    (shape : log ++ outputs = before ++ output :: after) :
    (∃ earlier, log = before ++ output :: earlier ∧ after = earlier ++ outputs) ∨
      ∃ front, before = log ++ front ∧ outputs = front ++ output :: after := by
  rcases List.append_eq_append_iff.mp shape with
    ⟨front, isBefore, isOutputs⟩ | ⟨between, isLog, rest⟩
  · exact .inr ⟨front, isBefore, isOutputs⟩
  · cases between with
    | nil => exact .inr ⟨[], by simpa using isLog.symm, rest.symm⟩
    | cons first earlier =>
      simp only [List.cons_append, List.cons.injEq] at rest
      obtain ⟨rfl, rfl⟩ := rest
      exact .inl ⟨earlier, isLog, rfl⟩

theorem split_series {outputs : List Output} {boundary : Output}
    (starts : isBoundary boundary = true)
    (noBoundary : ∀ output ∈ outputs, isBoundary output = false)
    (shape : log ++ outputs = before ++ boundary :: after) :
    ∃ earlier, log = before ++ boundary :: earlier ∧ after = earlier ++ outputs := by
  rcases append_eq_append_cons shape with inLog | ⟨front, -, inOutputs⟩
  · exact inLog
  · have member : boundary ∈ outputs := by simp [inOutputs]
    rw [noBoundary boundary member] at starts
    cases starts

theorem SessionOk.append (session : SessionOk snapshots log) {outputs : List Output}
    (quiet : ∀ output ∈ outputs, isBoundary output = false ∧ isSnapshot output = false ∧
          output ≠ .snapshotDone) :
    SessionOk snapshots (log ++ outputs) := by
  intro before expected longshot after shape noBoundary
  obtain ⟨earlier, inLog, rfl⟩ :=
    split_series rfl (fun output member => (quiet output member).1) shape
  obtain ⟨sameLongshot, sameExpected, counts⟩ :=
    session before expected longshot earlier inLog
      (fun output member => noBoundary output (List.mem_append_left _ member))
  refine ⟨sameLongshot, sameExpected, ?_⟩
  intro short
  obtain ⟨rcvd, once, last, position⟩ := counts short
  have noSnapshot : outputs.countP isSnapshot = 0 := List.countP_eq_zero.mpr fun output member => by
      simp [(quiet output member).2.1]
  have noDone : Output.snapshotDone ∉ outputs := fun member =>
    (quiet _ member).2.2 rfl
  refine ⟨?_, ?_, ?_, ?_⟩
  · rw [List.countP_append, noSnapshot, Nat.add_zero]
    exact rcvd
  · rw [List.count_append, List.count_eq_zero_of_not_mem noDone]
    exact once
  · intro member
    rw [List.countP_append, noSnapshot, Nat.add_zero]
    exact last ((List.mem_append.mp member).resolve_right noDone)
  · intro first later isDone
    rcases append_eq_append_cons isDone with
      ⟨more, inEarlier, -⟩ | ⟨front, -, inOutputs⟩
    · exact position first more inEarlier
    · exact absurd (by simp [inOutputs]) noDone

theorem SessionOk.count (session : SessionOk snapshots log)
    (isSnapshotType : cb.cbType = .dataSnapshot) {done : Bool}
    (reached : done = true → snapshots.numOfSnapshotExpected = snapshots.numOfSnapshotRcvd + 1) :
    SessionOk { snapshots with
          numOfSnapshotRcvd := snapshots.numOfSnapshotRcvd + 1 }
      (log ++ ((if done then [.snapshotDone] else []) ++ [Output.delivered cb])) := by
  intro before expected longshot after shape noBoundary
  have noneOfThese : ∀ output ∈ (if done then [Output.snapshotDone] else []) ++
            [Output.delivered cb],
        isBoundary output = false := by
    cases done <;> simp [isBoundary]
  obtain ⟨earlier, inLog, rfl⟩ := split_series rfl noneOfThese shape
  obtain ⟨sameLongshot, sameExpected, counts⟩ :=
    session before expected longshot earlier inLog
      (fun output member => noBoundary output (List.mem_append_left _ member))
  refine ⟨sameLongshot, sameExpected, ?_⟩
  intro isShort
  obtain ⟨counted, once, last, position⟩ := counts isShort
  have snapshotsNow : (earlier ++ ((if done then [Output.snapshotDone] else []) ++
            [Output.delivered cb])).countP isSnapshot =
        snapshots.numOfSnapshotRcvd + 1 := by
    rw [List.countP_append, ← counted]
    cases done <;> simp [isSnapshot, isSnapshotType]
  have doneNow : done = true → expected = snapshots.numOfSnapshotRcvd + 1 :=
    fun isDone => sameExpected.symm.trans (reached isDone)
  have notTwice : done = true → Output.snapshotDone ∉ earlier := by
    intro isDone member
    have enough := last member
    rw [← counted, doneNow isDone] at enough
    exact absurd enough (Nat.not_succ_le_self _)
  refine ⟨snapshotsNow.symm, ?_, ?_, ?_⟩
  · cases done with
    | false => simpa using once
    | true => simp [List.count_eq_zero_of_not_mem (notTwice rfl)]
  · intro member
    rw [snapshotsNow]
    rcases List.mem_append.mp member with before | now
    · exact Nat.le_succ_of_le (counted ▸ last before)
    · cases done with
      | false => simp at now
      | true => exact Nat.le_of_eq (doneNow rfl)
  · intro first later isDone
    rcases append_eq_append_cons isDone with
      ⟨more, inEarlier, -⟩ | ⟨front, rfl, inOutputs⟩
    · exact position first more inEarlier
    · cases done with
      | false =>
        have member : Output.snapshotDone ∈ [Output.delivered cb] := by
          rw [show [Output.delivered cb] = _ from inOutputs]
          simp
        simp at member
      | true =>
        cases front with
        | nil =>
          rw [List.append_nil, ← counted]
          exact (doneNow rfl).symm
        | cons head tail =>
          simp only [if_true, List.cons_append, List.nil_append, List.cons.injEq] at inOutputs
          have member : Output.snapshotDone ∈ [Output.delivered cb] := by
            rw [inOutputs.2]
            simp
          simp at member

theorem SessionOk.boundary (log : List Output) {boundary : Output}
    (isOne : isBoundary boundary = true)
    (started : ∀ expected longshot, boundary = .started expected longshot →
          snapshots.longShotEnabled = longshot ∧ snapshots.numOfSnapshotExpected = expected ∧
            snapshots.numOfSnapshotRcvd = 0) :
    SessionOk snapshots (log ++ [boundary]) := by
  intro before expected longshot after shape noBoundary
  rcases append_eq_append_cons shape with
    ⟨earlier, -, rfl⟩ | ⟨front, -, isLast⟩
  · have noOne := noBoundary boundary (by simp)
    rw [isOne] at noOne
    cases noOne
  · cases front with
    | nil =>
      simp only [List.nil_append, List.cons.injEq] at isLast
      obtain ⟨rfl, rfl⟩ := isLast
      obtain ⟨sameLongshot, sameExpected, none⟩ := started expected longshot rfl
      exact ⟨sameLongshot, sameExpected, fun _ => ⟨by simpa using none, by simp, by simp, by simp⟩⟩
    | cons head tail => simp at isLast

/-! ## Runs -/

/-- What every run keeps that meets the condition. -/
structure Inv (notifier : Notifier) (log : List Output) : Prop where
  accounts : Accounts notifier.nextCall notifier.dataQ.items notifier.posting log
  session : SessionOk notifier.snapshots log
  exited : notifier.routine = .exited → notifier.dataQ.m_active = false

theorem Inv.launched : Inv .launched [] where
  accounts := Accounts.launched
  session := by
    intro before expected longshot after shape
    simp at shape
  exited := by simp [Notifier.launched]

theorem Inv.sound (inv : Inv notifier log) : NotifierSound notifier log where
  accepted := by
    intro call returned
    obtain ⟨cb, enqueued, rfl⟩ := inv.accounts.accepted call returned
    refine ⟨cb, enqueued, rfl, ?_⟩
    intro wants
    have counted := inv.accounts.releasedOnce cb enqueued
    constructor
    · rw [counted]
      split <;> simp
    · intro exited
      have empty := notifier.dataQ.inactiveEmpty (inv.exited exited)
      simpa [empty, wants] using counted
  refused := by
    intro call rc returned isError released
    obtain ⟨cb, enqueued, rfl⟩ := inv.accounts.releasedKnown call released
    exact inv.accounts.refused cb.call rc returned isError cb enqueued rfl
  ordered :=
    (List.sublist_append_left _ _).trans inv.accounts.order
  done := by
    intro before expected after shape positive noBoundary
    obtain ⟨-, -, counts⟩ := inv.session before expected false after shape noBoundary
    obtain ⟨-, once, -, position⟩ := counts rfl
    exact ⟨once, position⟩

theorem releases_quiet (member : output ∈ releases flushed) :
    isBoundary output = false ∧ isSnapshot output = false ∧ output ≠ .snapshotDone := by
  obtain ⟨cb, -, rfl⟩ := eq_released_of_mem_releases member
  simp [isBoundary, isSnapshot]

/-- What the thread has done with a callback, apart from releasing it. -/
inductive Served (snapshots : Snapshots) (cb : Callback) : Snapshots → List Output → Prop where
  | skipped : Served snapshots cb snapshots []
  | delivered (uncounted : cb.cbType ≠ .dataSnapshot ∨ snapshots.longShotEnabled = true) :
      Served snapshots cb snapshots [.delivered cb]
  | counted {done : Bool} (isSnapshotType : cb.cbType = .dataSnapshot) (reached : done = true →
          snapshots.numOfSnapshotExpected = snapshots.numOfSnapshotRcvd + 1) :
      Served snapshots cb { snapshots with
            numOfSnapshotRcvd := snapshots.numOfSnapshotRcvd + 1 }
        ((if done then [.snapshotDone] else []) ++ [.delivered cb])

theorem Notifier.deliver_served {env : ServeEnv} {cb : Callback} {notifier : Notifier} (noWrap :
      (cb.cbType = .dataSnapshot ∧ env.msgTypeEnabled = true ∧
        notifier.snapshots.isSnapshotActive = true ∧ env.dataCb = true ∧
        notifier.snapshots.longShotEnabled = false) →
          notifier.snapshots.numOfSnapshotRcvd + 1 < 4294967296) :
    ∃ snapshots outputs, notifier.deliver env cb =
          ({ notifier with snapshots := snapshots }, outputs) ∧
        Served notifier.snapshots cb snapshots outputs := by
  have plain : ∀ isSet : Bool, cb.cbType ≠ .dataSnapshot →
          Served notifier.snapshots cb notifier.snapshots
            (if isSet then [.delivered cb] else []) := by
    intro isSet other
    cases isSet with
    | false => exact .skipped
    | true => exact .delivered (.inl other)
  unfold deliver
  cases enabled : env.msgTypeEnabled with
  | false => exact ⟨_, _, rfl, .skipped⟩
  | true =>
    cases isType : cb.cbType with
    | notify => exact ⟨_, _, rfl, plain env.notifyCb (by simp [isType])⟩
    | data => exact ⟨_, _, rfl, plain env.dataCb (by simp [isType])⟩
    | dataTimestamp => exact ⟨_, _, rfl, plain env.dataCbTimestamp (by simp [isType])⟩
    | dataSnapshot =>
      simp only [if_true, snapshotCallback]
      cases serves : (notifier.snapshots.isSnapshotActive && env.dataCb) with
      | false => exact ⟨_, _, rfl, .skipped⟩
      | true =>
        by_cases long : notifier.snapshots.longShotEnabled = true
        · refine ⟨notifier.snapshots, _, ?_, .delivered (.inr long)⟩
          simp [long]
        · have short : (!notifier.snapshots.longShotEnabled) = true := by
            simpa using long
          have active := Bool.and_eq_true_iff.mp serves
          have small := noWrap ⟨isType, enabled, active.1, active.2, by
              simpa using long⟩
          rw [if_pos rfl, if_pos short, Nat.mod_eq_of_lt small]
          refine ⟨_, _, rfl, ?_⟩
          refine .counted isType ?_
          intro isDone
          simp only [Bool.and_eq_true, beq_iff_eq] at isDone
          exact isDone.2

theorem SessionOk.served {snapshots after : Snapshots}
    (session : SessionOk snapshots log) {cb : Callback} {outputs : List Output}
    (served : Served snapshots cb after outputs) :
    SessionOk after (log ++ outputs) := by
  cases served with
  | skipped => simpa using session
  | counted isSnapshotType reached => exact session.count isSnapshotType reached
  | delivered uncounted =>
    rcases uncounted with other | long
    · refine session.append ?_
      simp [isBoundary, isSnapshot, other]
    · -- a series with longshot is not counted
      intro before expected longshot later shape noBoundary
      obtain ⟨earlier, inLog, rfl⟩ := split_series rfl (by simp [isBoundary]) shape
      obtain ⟨sameLongshot, sameExpected, -⟩ :=
        session before expected longshot earlier inLog (fun output member =>
            noBoundary output (List.mem_append_left _ member))
      refine ⟨sameLongshot, sameExpected, ?_⟩
      intro short
      rw [long, short] at sameLongshot
      cases sameLongshot

theorem Served.outputs {after : Snapshots} {outputs : List Output}
    (served : Served snapshots cb after outputs) :
    enqueuedCallbacks outputs = [] ∧ (∀ call rc, .returned call rc ∉ outputs) ∧
      (∀ call, .released call ∉ outputs) ∧
      (deliveredCallbacks outputs).Sublist [cb] := by
  cases served with
  | skipped => simp [enqueuedCallbacks, deliveredCallbacks]
  | delivered uncounted => simp [enqueuedCallbacks, deliveredCallbacks]
  | @counted done isSnapshotType reached =>
    cases done <;> simp [enqueuedCallbacks, deliveredCallbacks]

theorem Accounts.serve {cb : Callback} {rest : List Callback}
    (accounts : Accounts nextCall (cb :: rest) posting log)
    {snapshots after : Snapshots} {outputs : List Output}
    (served : Served snapshots cb after outputs) :
    Accounts nextCall rest posting (log ++ (outputs ++ releases [cb])) := by
  obtain ⟨noEnqueue, noReturn, noRelease, delivers⟩ := served.outputs
  have nodup : (cb :: rest).Nodup :=
    (List.Nodup.of_map _ accounts.distinct).sublist accounts.items_sublist
  refine @takeOut _ _ _ _ accounts [cb] rest _ ?_ ?_ ?_ ?_ ?_ ?_ ?_
  · simp
  · simpa using (List.nodup_cons.mp nodup).1
  · simp
  · have kept :=
      (List.Sublist.refl (deliveredCallbacks log)).append (delivers.append (List.Sublist.refl rest))
    simpa [List.append_assoc] using kept.trans accounts.order
  · simp [noEnqueue]
  · intro call rc member
    rcases List.mem_append.mp member with isOutput | isRelease
    · exact noReturn call rc isOutput
    · obtain ⟨other, -, isOther⟩ := eq_released_of_mem_releases isRelease
      cases isOther
  · intro call
    rw [List.count_append, List.count_eq_zero_of_not_mem (noRelease call), Nat.zero_add]

theorem Inv.sendCmd {notifier : Notifier} (inv : Inv notifier log) (command : Command)
    (priority : Bool) (env : SendEnv) :
    Inv (notifier.sendCmd command priority env).1 log := by
  unfold Notifier.sendCmd
  split
  · exact inv
  · exact ⟨inv.accounts, inv.session, inv.exited⟩

theorem Inv.serve {notifier : Notifier} (inv : Inv notifier log) {env : ServeEnv}
    {command : Command} (got : notifier.routine = .got command)
    (careful : Careful notifier (.serve env)) :
    Inv (notifier.serve env command).1 (log ++ (notifier.serve env command).2) := by
  cases command with
  | none =>
    exact ⟨by simpa [Notifier.serve] using inv.accounts, by
      simpa [Notifier.serve] using inv.session, by simp [Notifier.serve]⟩
  | startDataProc =>
    have noted := @Accounts.flushNodes _ _ _ _ inv.accounts (fun _ => false)
        [.started env.numOfSnapshotsExpected env.isLongshotEnabled]
        (by simp [isBoundary])
    refine ⟨by simpa [Notifier.serve, releases] using noted, ?_, by
      simp [Notifier.serve]⟩
    refine SessionOk.boundary log rfl ?_
    rintro expected longshot ⟨⟩
    exact ⟨rfl, rfl, rfl⟩
  | stopDataProc =>
    have flushed := @Accounts.flushNodes _ _ _ _ inv.accounts matchSnapshotNotifications
        [.stopped] (by simp [isBoundary])
    refine ⟨flushed, ?_, by simp [Notifier.serve]⟩
    simp only [Notifier.serve, ← List.append_assoc]
    exact SessionOk.boundary _ rfl (by simp)
  | doNextJob =>
    cases stored : notifier.dataQ.items with
    | nil =>
      have empty := CameraQueue.dequeue_of_nil stored
      simp only [Notifier.serve, empty, List.append_nil]
      exact ⟨inv.accounts, inv.session, by simp⟩
    | cons cb rest =>
      obtain ⟨isFirst, isRest, isActive⟩ := CameraQueue.dequeue_of_cons stored
      have taken : notifier.dataQ.dequeue = (some cb, notifier.dataQ.dequeue.2) :=
        Prod.ext isFirst rfl
      obtain ⟨snapshots, outputs, delivered, served⟩ :=
        @Notifier.deliver_served env cb { notifier with
              routine := .waiting
              dataQ := notifier.dataQ.dequeue.2 } (by
            rintro ⟨isType, enabled, active, dataCb, short⟩
            dsimp only at active short
            refine careful ?_
            simp [Notifier.countsSnapshot, got, stored,
              matchSnapshotNotifications, isType, enabled, active,
              dataCb, short])
      simp only [Notifier.serve]
      rw [taken]
      simp only [delivered]
      have accounts := inv.accounts
      rw [stored] at accounts
      refine ⟨?_, ?_, by simp⟩
      · simpa only [isRest] using accounts.serve served
      · rw [← List.append_assoc]
        exact (inv.session.served served).append (fun output member => releases_quiet member)
  | exit =>
    have flushed := @Accounts.flushNodes _ _ _ _ inv.accounts (fun _ => true) [] (by simp)
    refine ⟨by simpa [Notifier.serve, CameraQueue.flush] using flushed, ?_, fun _ => rfl⟩
    exact inv.session.append (fun output member => releases_quiet member)

theorem Inv.step {next : Notifier} (inv : Inv notifier log) {event : Event}
    (careful : Careful notifier event) {outputs : List Output}
    (stepped : notifierStep notifier event = some (next, outputs)) :
    Inv next (log ++ outputs) := by
  cases event with
  | enqueue active memory node cbType previewFrame hasRelease =>
    have refuse :
        ∀ rc, rc ≠ noError →
          Inv { notifier with nextCall := notifier.nextCall + 1 }
            (log ++ [Output.returned notifier.nextCall rc]) := by
      intro rc error
      exact
        { accounts := inv.accounts.refuse error
          session := inv.session.append (by simp [isBoundary, isSnapshot])
          exited := inv.exited }
    simp only [notifierStep, Notifier.enqueue] at stepped
    split at stepped
    · cases stepped
      exact refuse unknownError (by decide)
    split at stepped
    · cases stepped
      exact refuse noMemory (by decide)
    split at stepped
    · rename_i accepted
      have isActive := (Bool.and_eq_true_iff.mp accepted).2
      have queued := fun cb => CameraQueue.enqueue_of_active isActive cb
      cases stepped
      refine ⟨?_, ?_, ?_⟩
      · simpa only [(queued _).1] using inv.accounts.enqueue rfl
      · exact inv.session.append (by simp [isBoundary, isSnapshot])
      · intro exited
        exact absurd (inv.exited exited) (by simp [isActive])
    · cases stepped
      exact refuse unknownError (by decide)
  | post call env =>
    simp only [notifierStep] at stepped
    split at stepped
    · cases stepped
    · rename_i cb found
      have posts := List.mem_of_find?_eq_some found
      obtain rfl : cb.call = call := by
        simpa using List.find?_some found
      have sent : env.command = true := careful
      simp only [Notifier.sendCmd, sent, Bool.not_true, Bool.false_eq_true,
        if_false, Option.some.injEq, Prod.mk.injEq] at stepped
      obtain ⟨rfl, rfl⟩ := stepped
      exact
        { accounts := inv.accounts.post posts
          session := inv.session.append (by simp [isBoundary, isSnapshot])
          exited := inv.exited }
  | flushPreview active =>
    cases active with
    | false =>
      cases stepped
      simpa using inv
    | true =>
      cases stepped
      have flushed :=
        @Accounts.flushNodes _ _ _ _ inv.accounts
          matchPreviewNotifications [] (by simp)
      exact
        { accounts := by
            simpa [CameraQueue.flushNodes] using flushed
          session :=
            inv.session.append
              (fun output member => releases_quiet member)
          exited := inv.exited }
  | startSnapshots env =>
    cases stepped
    simpa using inv.sendCmd .startDataProc true env
  | stopSnapshots env =>
    cases stepped
    simpa using inv.sendCmd .stopDataProc true env
  | exit env =>
    cases stepped
    simpa using inv.sendCmd .exit true env
  | getCmd =>
    simp only [notifierStep] at stepped
    split at stepped
    · cases stepped
      exact ⟨by simpa using inv.accounts, by simpa using inv.session, by
        simp⟩
    · cases stepped
  | serve env =>
    simp only [notifierStep] at stepped
    split at stepped
    · rename_i command got
      have served := inv.serve got careful
      rwa [Option.some.inj stepped] at served
    · cases stepped

/--
The notifier gives its callers what it promises at every point of a run whose
calls get the memory for their commands and whose series stay countable.
-/
theorem notifierRun_sound {events : List Event} (careful :
      Guarded notifierStep (fun notifier _ event => Careful notifier event) .launched [] events)
    {final : Notifier}
    {log : List Output}
    (ran : run? notifierStep .launched events = some (final, log)) :
    NotifierSound final log := by
  have inv :=
    invariant_of_guarded (fun notifier _ log => Inv notifier log) [] careful ran Inv.launched
      (fun inv careful stepped => inv.step careful stepped)
  exact inv.sound

/-- Memory for everything that a command needs. -/
def enough : SendEnv where
  command := true
  node := true

/-- One expected snapshot, all callbacks set. -/
def oneSnapshot : ServeEnv where
  numOfSnapshotsExpected := 1
  isLongshotEnabled := false
  msgTypeEnabled := true
  notifyCb := true
  dataCb := true
  dataCbTimestamp := true

/-- A series of one snapshot, up to the exit of the thread. -/
def snapshotRun : List Event :=
  [.startSnapshots enough, .getCmd, .serve oneSnapshot,
    .enqueue true true true .dataSnapshot false true, .post 0 enough,
    .getCmd, .serve oneSnapshot,
    .enqueue true true true .data true true, .post 1 enough,
    .exit enough, .getCmd, .serve oneSnapshot]

/-- The snapshot is reported as done, and both callbacks are released. -/
theorem notifierRun_sound_snapshot : ∃ final log,
      run? notifierStep .launched snapshotRun = some (final, log) ∧
        final.routine = .exited ∧ .snapshotDone ∈ log ∧
        NotifierSound final log :=
  ⟨_, _, rfl, rfl, by decide, @notifierRun_sound snapshotRun (by decide) _ _ rfl⟩

/-- A callback is enqueued, its command gets no memory, and the next call's does. -/
def refusedRun : List Event :=
  [.enqueue true true true .data false true, .post 0 { command := false, node := true },
    .enqueue true true true .data false true, .post 1 enough,
    .getCmd, .serve oneSnapshot]

/-- The callback of the call that returned an error is delivered and released. -/
theorem notifierRun_refused : ∃ final log,
      run? notifierStep .launched refusedRun = some (final, log) ∧ ¬ NotifierSound final log := by
  refine ⟨_, _, rfl, ?_⟩
  intro sound
  exact sound.refused 0 noMemory (by decide) (by decide) (by decide)

end AnglerHal.CbNotifier
