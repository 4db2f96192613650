import AnglerHal.LabelledRun

namespace AnglerHal.PerfLock

open LabelledRun

/-!
# The performance lock of the camera HAL

`QCameraPerfLock` holds up to two handles of the performance library, a plain and
a timed one, and asks the power HAL for a hint while it holds neither.  The timer
of the timed lock runs out only when `isTimerReset` looks at it.  What the library
answers and the time of each look are part of the calls; the handles that went
each way and the hints of the power HAL are kept beside the members.
-/

/-- The members of `QCameraPerfLock`, what the library handed out and got back, and the
hints that are enabled at the power HAL. -/
structure QCameraPerfLock where
  mPerfLockEnable : Bool
  /-- `perf_lock_acq` and `perf_lock_rel` are set. -/
  perfLockFns : Bool
  mPerfLockHandle : Int
  mPerfLockHandleTimed : Int
  mCurrentPowerHint : Nat
  mCurrentPowerHintEnable : UInt32
  mTimerSet : Bool
  mPerfLockTimeout : UInt32
  mStartTimeofLock : Int
  obtained : List Int
  released : List Int
  hal : Nat → Bool
  deinited : Bool

/-- The calls, with the answers of the library and of the clock. -/
inductive Call where
  | lockAcq (acquired : Int)
  | lockAcqTimed (timerVal : Int32) (now : Int) (acquired : Int)
  | lockRel (rc : Int)
  | lockRelTimed (rc : Int)
  | isTimerReset (now : Int)
  | powerHint (hint : Nat) (enable : UInt32)
  | lockDeinit
  deriving DecidableEq

/-- The object after `lock_init`: the lock is enabled by its property, and disabled
again where the library or one of its functions is not found. -/
def lockInit (enabled library : Bool) (hint : Nat) : QCameraPerfLock where
  mPerfLockEnable := enabled && library
  perfLockFns := enabled && library
  mPerfLockHandle := -1
  mPerfLockHandleTimed := -1
  mCurrentPowerHint := hint
  mCurrentPowerHintEnable := 0
  mTimerSet := false
  mPerfLockTimeout := 0
  mStartTimeofLock := 0
  obtained := []
  released := []
  hal := fun _ => false
  deinited := false

/-- `ns2ms`. -/
def ns2ms (time : Int) : Int :=
  Int.tdiv time 1000000

namespace QCameraPerfLock

def powerHintInternal (hint : Nat) (enable : UInt32) (lock : QCameraPerfLock) : QCameraPerfLock :=
  { lock with hal := fun other => if other = hint then enable = 1 else lock.hal other }

/-- The current hint is switched off at the power HAL. -/
def hintOff (lock : QCameraPerfLock) : QCameraPerfLock :=
  if lock.mCurrentPowerHintEnable ≠ 0 then lock.powerHintInternal lock.mCurrentPowerHint 0
  else lock

/-- The current hint is switched on again after a release. -/
def hintOn (lock : QCameraPerfLock) : QCameraPerfLock :=
  if lock.mCurrentPowerHintEnable = 1 ∧ lock.mTimerSet = false then
    lock.powerHintInternal lock.mCurrentPowerHint lock.mCurrentPowerHintEnable
  else lock

def startTimer (timerVal : Int32) (now : Int) (lock : QCameraPerfLock) : QCameraPerfLock :=
  { lock with
    mStartTimeofLock := now
    mTimerSet := true
    mPerfLockTimeout := timerVal.toUInt32 }

/-- The timeout with what is left of a running one. -/
def extendedTimeout (timerVal : Int32) (now : Int) (lock : QCameraPerfLock) : Int32 :=
  if lock.mTimerSet then
    timerVal +
      Int32.ofInt (lock.mPerfLockTimeout.toNat - ns2ms (now - lock.mStartTimeofLock))
  else timerVal

def lockAcq (acquired : Int) (lock : QCameraPerfLock) : QCameraPerfLock × Int :=
  if lock.mPerfLockEnable then
    let lock := lock.hintOff
    if lock.perfLockFns ∧ lock.mPerfLockHandle < 0 then
      (if acquired < 0 then lock
        else { lock with
          mPerfLockHandle := acquired
          obtained := lock.obtained ++ [acquired] },
        acquired)
    else (lock, -1)
  else (lock, -1)

def lockAcqTimed (timerVal : Int32) (now acquired : Int) (lock : QCameraPerfLock) :
    QCameraPerfLock × Int :=
  if lock.mPerfLockEnable then
    let lock := (lock.startTimer (lock.extendedTimeout timerVal now) now).hintOff
    if lock.perfLockFns ∧ lock.mPerfLockHandleTimed < 0 then
      (if acquired < 0 then lock
        else { lock with
          mPerfLockHandleTimed := acquired
          obtained := lock.obtained ++ [acquired] },
        acquired)
    else (lock, -1)
  else (lock, -1)

def lockRel (rc : Int) (lock : QCameraPerfLock) : QCameraPerfLock × Int :=
  if lock.mPerfLockEnable then
    if lock.mPerfLockHandle < 0 then (lock, -1)
    else if lock.perfLockFns then
      ({ lock with
          mPerfLockHandle := -1
          released := lock.released ++ [lock.mPerfLockHandle] }.hintOn, rc)
    else (lock.hintOn, -1)
  else (lock, -1)

def lockRelTimed (rc : Int) (lock : QCameraPerfLock) : QCameraPerfLock × Int :=
  if lock.mPerfLockEnable then
    if lock.mPerfLockHandleTimed < 0 then (lock, -1)
    else if lock.perfLockFns then
      ({ lock with
          mPerfLockHandleTimed := -1
          released := lock.released ++ [lock.mPerfLockHandleTimed] }.hintOn, rc)
    else (lock.hintOn, -1)
  else (lock, -1)

/-- The timer has been set and has run out. -/
def expired (now : Int) (lock : QCameraPerfLock) : Prop :=
  lock.mPerfLockEnable = true ∧ lock.mTimerSet = true ∧
    (lock.mPerfLockTimeout.toNat : Int) < ns2ms (now - lock.mStartTimeofLock)

instance (now : Int) (lock : QCameraPerfLock) : Decidable (lock.expired now) :=
  inferInstanceAs (Decidable (_ ∧ _ ∧ _))

def isTimerReset (now : Int) (lock : QCameraPerfLock) : QCameraPerfLock × Int :=
  if lock.expired now then ({ lock with mTimerSet := false }, 1) else (lock, 0)

def powerHint (hint : Nat) (enable : UInt32) (lock : QCameraPerfLock) : QCameraPerfLock :=
  { lock.hintOff.powerHintInternal hint enable with
    mCurrentPowerHint := hint
    mCurrentPowerHintEnable := enable }

/-- The destructor calls it as well. -/
def lockDeinit (lock : QCameraPerfLock) : QCameraPerfLock :=
  if lock.mPerfLockEnable then
    { lock with
      perfLockFns := false
      mPerfLockEnable := false
      deinited := true }
  else { lock with deinited := true }

/-- A call, and the value it returns. -/
def step (lock : QCameraPerfLock) : Call → Option (QCameraPerfLock × List Int)
  | .lockAcq acquired => let (next, rc) := lock.lockAcq acquired; some (next, [rc])
  | .lockAcqTimed timerVal now acquired =>
    let (next, rc) := lock.lockAcqTimed timerVal now acquired; some (next, [rc])
  | .lockRel rc => let (next, rc) := lock.lockRel rc; some (next, [rc])
  | .lockRelTimed rc => let (next, rc) := lock.lockRelTimed rc; some (next, [rc])
  | .isTimerReset now => let (next, rc) := lock.isTimerReset now; some (next, [rc])
  | .powerHint hint enable => some (lock.powerHint hint enable, [])
  | .lockDeinit => some (lock.lockDeinit, [])

/-- A plain or a timed handle is held. -/
def Held (lock : QCameraPerfLock) : Prop :=
  0 ≤ lock.mPerfLockHandle ∨ 0 ≤ lock.mPerfLockHandleTimed

/-- What the object promises between its calls. -/
structure Sound (lock : QCameraPerfLock) : Prop where
  /-- No handle goes back more often than it was handed out. -/
  once : ∀ handle, lock.released.count handle ≤ lock.obtained.count handle
  /-- Every handle has gone back after `lock_deinit`. -/
  returned : lock.deinited = true →
    ∀ handle, lock.released.count handle = lock.obtained.count handle
  quiet : lock.Held → ∀ hint, lock.hal hint = false
  shown : ¬ lock.Held → lock.mTimerSet = false → ∀ hint,
    lock.hal hint = true ↔ hint = lock.mCurrentPowerHint ∧ lock.mCurrentPowerHintEnable = 1

/-- The call neither loses nor shows a hint at the wrong time, and leaves no handle. -/
def Disciplined (lock : QCameraPerfLock) : Call → Prop
  -- Where the hint is switched off for the lock, the lock is obtained.
  | .lockAcq acquired =>
    lock.mPerfLockEnable = true → ¬ lock.Held → lock.mTimerSet = false →
      lock.mCurrentPowerHintEnable = 1 → 0 ≤ acquired
  | .lockAcqTimed .. => True
  -- The hint does not come back while the other handle is held.
  | .lockRel _ | .lockRelTimed _ =>
    lock.mPerfLockEnable = true → 0 ≤ lock.mPerfLockHandle → 0 ≤ lock.mPerfLockHandleTimed →
      lock.mTimerSet = false → lock.mCurrentPowerHintEnable ≠ 1
  -- The timer does not run out after the release that it kept from showing the hint.
  | .isTimerReset now =>
    lock.expired now → ¬ lock.Held → lock.mCurrentPowerHintEnable = 1 →
      lock.hal lock.mCurrentPowerHint = true
  | .powerHint _ enable => lock.Held → enable ≠ 1
  | .lockDeinit => ¬ lock.Held

/-! ## The invariant -/

/-- What holds between any two calls. -/
structure Inv (lock : QCameraPerfLock) : Prop where
  ledger : ∀ handle, lock.obtained.count handle = lock.released.count handle +
    (if 0 ≤ lock.mPerfLockHandle ∧ lock.mPerfLockHandle = handle then 1 else 0) +
    (if 0 ≤ lock.mPerfLockHandleTimed ∧ lock.mPerfLockHandleTimed = handle then 1 else 0)
  current : ∀ hint, lock.hal hint = true →
    hint = lock.mCurrentPowerHint ∧ lock.mCurrentPowerHintEnable = 1
  fns : lock.mPerfLockEnable = true → lock.perfLockFns = true
  owner : lock.Held → lock.mPerfLockEnable = true ∨ lock.deinited = true
  closed : lock.deinited = true → lock.mPerfLockEnable = false

variable {lock next : QCameraPerfLock}

theorem Inv.lockInit (enabled library : Bool) (hint : Nat) :
    (lockInit enabled library hint).Inv where
  ledger := by simp [PerfLock.lockInit]
  current := by simp [PerfLock.lockInit]
  fns := id
  owner := by simp [PerfLock.lockInit, Held]
  closed := by simp [PerfLock.lockInit]

/-- The promise, in terms of the current hint. -/
theorem Inv.sound_iff (inv : lock.Inv) :
    lock.Sound ↔ (lock.deinited = true → ¬ lock.Held) ∧
      (lock.Held → lock.hal lock.mCurrentPowerHint = false) ∧
      (¬ lock.Held → lock.mTimerSet = false → lock.mCurrentPowerHintEnable = 1 →
        lock.hal lock.mCurrentPowerHint = true) := by
  have ledger := inv.ledger
  have current := inv.current
  constructor
  · intro sound
    refine ⟨fun deinited held => ?_, fun held => sound.quiet held _, fun free timer enabled =>
      (sound.shown free timer _).mpr ⟨rfl, enabled⟩⟩
    have returned := sound.returned deinited
    rcases held with plain | timed
    · have count := ledger lock.mPerfLockHandle
      rw [if_pos ⟨plain, rfl⟩, returned] at count
      omega
    · have count := ledger lock.mPerfLockHandleTimed
      simp only [returned, timed, true_and, if_true] at count
      omega
  · rintro ⟨returned, quiet, shown⟩
    refine ⟨fun handle => ?_, fun deinited handle => ?_, fun held hint => ?_,
      fun free timer hint => ⟨current hint, ?_⟩⟩
    · have count := ledger handle
      omega
    · have free := not_or.mp (returned deinited)
      have count := ledger handle
      rw [if_neg (fun held => free.1 held.1), if_neg (fun held => free.2 held.1)] at count
      omega
    · by_contra on
      have on : lock.hal hint = true := by simpa using on
      have isCurrent := (current hint on).1
      rw [isCurrent, quiet held] at on
      exact absurd on (by decide)
    · rintro ⟨rfl, enabled⟩
      exact shown free timer enabled

theorem Inv.hintOff_eq (inv : lock.Inv) : lock.hintOff = { lock with hal := fun _ => false } := by
  have current := inv.current
  unfold hintOff powerHintInternal
  split
  · congr 1
    funext other
    split
    · decide
    · rename_i different
      by_contra on
      exact different (current other (by simpa using on)).1
  · rename_i disabled
    have off : lock.hal = fun _ => false := by
      funext other
      by_contra on
      have := (current other (by simpa using on)).2
      simp [this] at disabled
    rw [← off]

theorem Inv.startTimer (inv : lock.Inv) (timerVal : Int32) (now : Int) :
    (lock.startTimer timerVal now).Inv :=
  ⟨inv.ledger, inv.current, inv.fns, inv.owner, inv.closed⟩

theorem Inv.hintOn (inv : lock.Inv) : lock.hintOn.Inv := by
  unfold QCameraPerfLock.hintOn
  split
  · rename_i shows
    refine ⟨inv.ledger, fun hint on => ?_, inv.fns, inv.owner, inv.closed⟩
    simp only [powerHintInternal] at on
    split at on
    · exact ⟨‹_›, shows.1⟩
    · exact inv.current hint on
  · exact inv

variable {call : Call} {values : List Int}

/-- The invariant holds after every call. -/
theorem Inv.step (inv : lock.Inv) (stepped : lock.step call = some (next, values)) : next.Inv := by
  have ledger := inv.ledger
  have owner := inv.owner
  cases call with
  | lockAcq acquired =>
    simp only [QCameraPerfLock.step, lockAcq, inv.hintOff_eq, Option.some.injEq,
      Prod.mk.injEq] at stepped
    obtain ⟨rfl, -⟩ := stepped
    split
    · split
      · split
        · exact ⟨ledger, by simp, inv.fns, owner, inv.closed⟩
        · refine ⟨fun handle => ?_, by simp, inv.fns, fun _ => .inl ‹_›, inv.closed⟩
          have := ledger handle
          simp only [List.count_append, List.count_singleton]
          grind
      · exact ⟨ledger, by simp, inv.fns, owner, inv.closed⟩
    · exact inv
  | lockAcqTimed timerVal now acquired =>
    simp only [QCameraPerfLock.step, lockAcqTimed, (inv.startTimer _ now).hintOff_eq,
      Option.some.injEq, Prod.mk.injEq] at stepped
    obtain ⟨rfl, -⟩ := stepped
    split
    · split
      · split
        · exact ⟨ledger, by simp, inv.fns, owner, inv.closed⟩
        · refine ⟨fun handle => ?_, by simp, inv.fns, fun _ => .inl ‹_›, inv.closed⟩
          have := ledger handle
          simp only [List.count_append, List.count_singleton, QCameraPerfLock.startTimer] at *
          grind
      · exact ⟨ledger, by simp, inv.fns, owner, inv.closed⟩
    · exact inv
  | lockRel rc =>
    simp only [QCameraPerfLock.step, lockRel, Option.some.injEq, Prod.mk.injEq] at stepped
    obtain ⟨rfl, -⟩ := stepped
    split
    · split
      · exact inv
      · split
        · refine Inv.hintOn ⟨fun handle => ?_, inv.current, inv.fns, fun _ => .inl ‹_›, inv.closed⟩
          have := ledger handle
          simp only [List.count_append, List.count_singleton]
          grind
        · exact inv.hintOn
    · exact inv
  | lockRelTimed rc =>
    simp only [QCameraPerfLock.step, lockRelTimed, Option.some.injEq, Prod.mk.injEq] at stepped
    obtain ⟨rfl, -⟩ := stepped
    split
    · split
      · exact inv
      · split
        · refine Inv.hintOn ⟨fun handle => ?_, inv.current, inv.fns, fun _ => .inl ‹_›, inv.closed⟩
          have := ledger handle
          simp only [List.count_append, List.count_singleton]
          grind
        · exact inv.hintOn
    · exact inv
  | isTimerReset now =>
    simp only [QCameraPerfLock.step, isTimerReset, Option.some.injEq, Prod.mk.injEq] at stepped
    obtain ⟨rfl, -⟩ := stepped
    split
    · exact ⟨ledger, inv.current, inv.fns, owner, inv.closed⟩
    · exact inv
  | powerHint hint enable =>
    simp only [QCameraPerfLock.step, QCameraPerfLock.powerHint, inv.hintOff_eq, Option.some.injEq,
      Prod.mk.injEq] at stepped
    obtain ⟨rfl, -⟩ := stepped
    refine ⟨ledger, fun other on => ?_, inv.fns, owner, inv.closed⟩
    simp only [powerHintInternal] at on
    split at on
    · exact ⟨‹_›, by simpa using on⟩
    · simp at on
  | lockDeinit =>
    simp only [QCameraPerfLock.step, Option.some.injEq, Prod.mk.injEq] at stepped
    obtain ⟨rfl, -⟩ := stepped
    unfold QCameraPerfLock.lockDeinit
    split
    · exact ⟨ledger, inv.current, by simp, fun _ => .inr rfl, fun _ => rfl⟩
    · rename_i disabled
      exact ⟨ledger, inv.current, inv.fns, fun _ => .inr rfl,
        fun _ => Bool.eq_false_iff.mpr disabled⟩

/-- A sound object is sound after a call exactly when the call is disciplined. -/
theorem Inv.sound_step_iff (inv : lock.Inv) (sound : lock.Sound)
    (stepped : lock.step call = some (next, values)) : next.Sound ↔ lock.Disciplined call := by
  have nextInv := inv.step stepped
  rw [nextInv.sound_iff]
  obtain ⟨returned, quiet, shown⟩ := inv.sound_iff.mp sound
  have fns := inv.fns
  have owner := inv.owner
  have closed := inv.closed
  clear nextInv
  cases call with
  | lockAcq acquired =>
    simp only [QCameraPerfLock.step, lockAcq, inv.hintOff_eq, Option.some.injEq,
      Prod.mk.injEq] at stepped
    obtain ⟨rfl, -⟩ := stepped
    simp only [Disciplined, Held] at *
    grind
  | lockAcqTimed timerVal now acquired =>
    simp only [QCameraPerfLock.step, lockAcqTimed, (inv.startTimer _ now).hintOff_eq,
      Option.some.injEq, Prod.mk.injEq] at stepped
    obtain ⟨rfl, -⟩ := stepped
    simp only [Disciplined, Held, QCameraPerfLock.startTimer] at *
    grind
  | lockRel rc =>
    simp only [QCameraPerfLock.step, lockRel, QCameraPerfLock.hintOn, powerHintInternal,
      Option.some.injEq, Prod.mk.injEq] at stepped
    obtain ⟨rfl, -⟩ := stepped
    simp only [Disciplined, Held] at *
    grind
  | lockRelTimed rc =>
    simp only [QCameraPerfLock.step, lockRelTimed, QCameraPerfLock.hintOn, powerHintInternal,
      Option.some.injEq, Prod.mk.injEq] at stepped
    obtain ⟨rfl, -⟩ := stepped
    simp only [Disciplined, Held] at *
    grind
  | isTimerReset now =>
    simp only [QCameraPerfLock.step, isTimerReset, Option.some.injEq, Prod.mk.injEq] at stepped
    obtain ⟨rfl, -⟩ := stepped
    simp only [Disciplined, Held] at *
    grind
  | powerHint hint enable =>
    simp only [QCameraPerfLock.step, QCameraPerfLock.powerHint, inv.hintOff_eq, powerHintInternal,
      Option.some.injEq, Prod.mk.injEq] at stepped
    obtain ⟨rfl, -⟩ := stepped
    simp only [Disciplined, Held] at *
    grind
  | lockDeinit =>
    simp only [QCameraPerfLock.step, QCameraPerfLock.lockDeinit, Option.some.injEq,
      Prod.mk.injEq] at stepped
    obtain ⟨rfl, -⟩ := stepped
    simp only [Disciplined, Held] at *
    grind

end QCameraPerfLock

open QCameraPerfLock

/-- The object keeps its promise after every call of a run exactly when every call of
the run is disciplined. -/
theorem perfLockRun_sound_iff (enabled library : Bool) (hint : Nat) (calls : List Call) :
    Guarded QCameraPerfLock.step
        (fun lock _ call => ∀ next values, lock.step call = some (next, values) → next.Sound)
        (lockInit enabled library hint) [] calls ↔
      Guarded QCameraPerfLock.step (fun lock _ call => lock.Disciplined call)
        (lockInit enabled library hint) [] calls := by
  have start := Inv.lockInit enabled library hint
  have soundStart : (lockInit enabled library hint).Sound :=
    start.sound_iff.mpr (by simp [lockInit, Held])
  refine guarded_iff_of_invariant (fun lock => lock.Inv ∧ lock.Sound) ?_ ?_ ⟨start, soundStart⟩
  · rintro lock past call ⟨inv, sound⟩
    obtain ⟨next, values, stepped⟩ : ∃ next values, lock.step call = some (next, values) := by
      cases call <;> exact ⟨_, _, rfl⟩
    rw [← inv.sound_step_iff sound stepped]
    simp [stepped]
  · rintro lock past call next values ⟨inv, _⟩ sound stepped
    exact ⟨inv.step stepped, sound next values stepped⟩

/-- A video session starts while the plain handle is held. -/
def hintWhileHeld : List Call :=
  [.lockAcq 5, .powerHint 7 1]

/-- The hint is enabled at the power HAL while the handle is held. -/
theorem hint_enabled_while_held :
    ¬ ∀ calls : List Call, Guarded QCameraPerfLock.step
        (fun lock _ call => ∀ next values, lock.step call = some (next, values) → next.Sound)
        (lockInit true true 0) [] calls := by
  intro claim
  have sound := (claim hintWhileHeld).2 _ _ rfl |>.1 _ _ rfl
  exact absurd (sound.quiet (.inl (by decide)) 7) (by decide)

end AnglerHal.PerfLock
