import AnglerHal.LabelledRun
import AnglerHal.PerfLocks

namespace AnglerHal.PowerHints

open LabelledRun

/-!
# The video-encode hint of the 8994

A start hint does not take its lock at once: it starts a detached thread that
takes it two seconds later, unless the hint was stopped or started again in
between.  A call of `process_video_encode_hint` and the body of a thread after
its delay are one critical section of `video_encode_lock` each; the governor is
`interactive` throughout.

When the thread cannot be created, the override returns `HINT_NONE` and the
generic handler serves the hint; what it acquires is not part of this
accounting.
-/

/-- `struct video_encode_metadata_t`. -/
structure VideoEncodeMetadata where
  hintId : Int
  state : Int
  deriving DecidableEq

/--
The variables of the hint, the counters that the delayed threads were started
with, and the locks.
-/
structure VideoEncodeHint where
  counter : Nat
  shouldEnable : Bool
  isEnabled : Bool
  newHintId : Int
  curHintId : Int
  threads : List Nat
  locks : HintLocks
  deriving DecidableEq

/-- The variables as the library is loaded. -/
def VideoEncodeHint.loaded : VideoEncodeHint where
  counter := 0
  shouldEnable := false
  isEnabled := false
  newHintId := defaultVideoEncodeHintId
  curHintId := defaultVideoEncodeHintId
  threads := []
  locks := noLocks

/-- The critical section of a start hint; `created` is what `pthread_create` did. -/
def VideoEncodeHint.startHint (created : Bool) (hintId : Int)
    (hint : VideoEncodeHint) : VideoEncodeHint × HintResult :=
  let counter := if hint.counter < 65535 then hint.counter + 1 else 0
  let announced := { hint with
        newHintId := hintId
        counter := counter
        shouldEnable := true }
  if created then
    ({ announced with threads := counter :: hint.threads }, .handled)
  else
    ({ announced with shouldEnable := false }, .none)

/-- The critical section of a stop hint. -/
def VideoEncodeHint.stopHint (hint : VideoEncodeHint) : VideoEncodeHint × HintResult :=
  let stopped := { hint with shouldEnable := false }
  if hint.isEnabled then
    ({ stopped with
        locks := hint.locks.undoHintAction hint.curHintId
        isEnabled := false }, .handled)
  else
    (stopped, .handled)

/-- `process_video_encode_hint`; the metadata is `none` when there is none. -/
def VideoEncodeHint.processVideoEncodeHint (governor : Option Governor)
    (metadata : Option VideoEncodeMetadata)
    (created : Bool)
    (hint : VideoEncodeHint) : VideoEncodeHint × HintResult :=
  match governor, metadata with
  | some governor, some metadata =>
    if metadata.state = 1 then
      if governor = .interactive then
        hint.startHint created metadata.hintId
      else
        (hint, .none)
    else if metadata.state = 0 then
      if governor = .interactive then
        hint.stopHint
      else
        (hint, .none)
    else
      (hint, .none)
  | _, _ => (hint, .none)

/-- The thread's own request is still the current one. -/
def VideoEncodeHint.Current (expectedCounter : Nat) (hint : VideoEncodeHint) : Prop :=
  hint.shouldEnable = true ∧ hint.counter = expectedCounter

instance (expectedCounter : Nat) (hint : VideoEncodeHint) :
    Decidable (hint.Current expectedCounter) := by
  unfold VideoEncodeHint.Current
  infer_instance

/-- `video_encode_hint_function`, after its delay. -/
def VideoEncodeHint.videoEncodeHintFunction (env : HintEnv) (expectedCounter : Nat)
    (hint : VideoEncodeHint) : VideoEncodeHint :=
  if hint.Current expectedCounter then
    { hint with
        locks := hint.locks.performHintAction env hint.newHintId
        curHintId := hint.newHintId
        isEnabled := true
        shouldEnable := false }
  else
    hint

/-! ## Runs -/

/-- The hint, and whether a stop hint came after the last start hint. -/
structure EncodeState where
  hint : VideoEncodeHint
  stopped : Bool
  deriving DecidableEq

/-- One critical section of `video_encode_lock`. -/
inductive EncodeEvent where
  | hint (metadata : Option VideoEncodeMetadata) (created : Bool)
  | delayed (expectedCounter : Nat) (env : HintEnv)
  deriving DecidableEq

/-- Whether a hint is stopped after a call with this metadata. -/
def stoppedBy (metadata : Option VideoEncodeMetadata) (stopped : Bool) : Bool :=
  match metadata with
  | none => stopped
  | some metadata =>
    if metadata.state = 1 then
      false
    else if metadata.state = 0 then
      true
    else
      stopped

/-- A thread that was started runs its body once. -/
def encodeStep (state : EncodeState) : EncodeEvent → Option (EncodeState × List HintResult)
  | .hint metadata created =>
    let (next, result) := state.hint.processVideoEncodeHint (some .interactive) metadata created
    some ({ hint := next, stopped := stoppedBy metadata state.stopped }, [result])
  | .delayed expectedCounter env =>
    if expectedCounter ∈ state.hint.threads then
      let waiting := { state.hint with
            threads := state.hint.threads.erase expectedCounter }
      some ({ state with
        hint := waiting.videoEncodeHintFunction env expectedCounter }, [])
    else
      none

/-- No hint was sent yet. -/
def encodeStart : EncodeState where
  hint := .loaded
  stopped := false

/--
At most one lock is held, `video_encode_hint_is_enabled` tells whether one is,
undoing the current hint then releases it, and a stopped hint holds nothing.
-/
structure EncodeSound (state : EncodeState) : Prop where
  atMostOne : state.hint.locks.held.length ≤ 1
  enabled : state.hint.isEnabled = true ↔ state.hint.locks.held ≠ []
  released : state.hint.isEnabled = true →
      (state.hint.locks.undoHintAction state.hint.curHintId).held = []
  stopped : state.stopped = true → state.hint.locks.held = []

/-- The step ends in a sound state. -/
def EncodeSoundStep (state : EncodeState) (event : EncodeEvent) : Prop :=
  ∀ next results, encodeStep state event = some (next, results) → EncodeSound next

/--
A thread whose request is current takes its lock while none is held, or fails
to take a second one under the id of the first.
-/
def EncodeCareful (state : EncodeState) : EncodeEvent → Prop
  | .hint _ _ => True
  | .delayed expectedCounter env =>
    expectedCounter ∈ state.hint.threads →
    state.hint.Current expectedCounter → if state.hint.isEnabled then
        ¬ env.Keeps ∧ state.hint.newHintId = state.hint.curHintId
      else
        env.Keeps

/-- What sound steps keep. -/
structure EncodeInv (state : EncodeState) : Prop where
  holds : ∃ handle, state.hint.locks = .only state.hint.curHintId handle ∧
        handle.isSome = state.hint.isEnabled
  stopped : state.stopped = true → state.hint.shouldEnable = false ∧ state.hint.isEnabled = false

theorem EncodeInv.start : EncodeInv encodeStart where
  holds := ⟨none, rfl, rfl⟩
  stopped := by simp [encodeStart]

variable {state : EncodeState} {event : EncodeEvent}

theorem EncodeInv.sound (inv : EncodeInv state) :
    EncodeSound state := by
  obtain ⟨handle, locks, enabled⟩ := inv.holds
  have heldIff : state.hint.isEnabled = true ↔ state.hint.locks.held ≠ [] := by
    rw [← enabled, locks]
    exact (HintLocks.only_held_ne_nil _ _).symm
  exact
    { atMostOne := by
        rw [locks]
        exact HintLocks.length_only_held _ _
      enabled := heldIff
      released := by
        intro _
        rw [locks, HintLocks.undoHintAction_only]
        rfl
      stopped := by
        intro stopped
        have off := (inv.stopped stopped).2
        by_contra held
        simp [heldIff.mpr held] at off }

theorem EncodeInv.stopHint {state : EncodeState} (inv : EncodeInv state) :
    EncodeInv { hint := state.hint.stopHint.1, stopped := true } := by
  obtain ⟨handle, locks, enabled⟩ := inv.holds
  cases isEnabled : state.hint.isEnabled with
  | false =>
    have skipped :
        state.hint.stopHint.1 =
          { state.hint with shouldEnable := false } := by
      simp [VideoEncodeHint.stopHint, isEnabled]
    rw [skipped]
    exact
      { holds := ⟨handle, locks, enabled⟩
        stopped := fun _ => ⟨rfl, isEnabled⟩ }
  | true =>
    have undone :
        state.hint.stopHint.1 =
          { state.hint with
              shouldEnable := false
              locks := noLocks
              isEnabled := false } := by
      simp [VideoEncodeHint.stopHint, isEnabled, locks]
    rw [undone]
    exact
      { holds := ⟨none, rfl, rfl⟩
        stopped := fun _ => ⟨rfl, rfl⟩ }

theorem EncodeInv.startHint (inv : EncodeInv state) (created : Bool) (hintId : Int) :
    EncodeInv
      { hint := (state.hint.startHint created hintId).1, stopped := false } := by
  unfold VideoEncodeHint.startHint
  cases created <;>
    exact
      { holds := inv.holds
        stopped := by simp }

theorem EncodeInv.hint (inv : EncodeInv state) (metadata : Option VideoEncodeMetadata)
    (created : Bool) :
    EncodeInv
      { hint :=
          (state.hint.processVideoEncodeHint (some .interactive) metadata
            created).1
        stopped := stoppedBy metadata state.stopped } := by
  cases metadata with
  | none =>
    exact inv
  | some metadata =>
    by_cases start : metadata.state = 1
    · simpa [VideoEncodeHint.processVideoEncodeHint, stoppedBy, start] using
        inv.startHint created metadata.hintId
    · by_cases stop : metadata.state = 0
      · simpa [VideoEncodeHint.processVideoEncodeHint, stoppedBy, start,
          stop] using inv.stopHint
      · simpa [VideoEncodeHint.processVideoEncodeHint, stoppedBy, start,
          stop] using inv

/-- The state after the body of a thread whose request is current. -/
def EncodeState.taken (env : HintEnv) (threads : List Nat) (state : EncodeState) : EncodeState :=
  { state with
      hint :=
        { state.hint with
            threads := threads
            locks :=
              state.hint.locks.performHintAction env state.hint.newHintId
            curHintId := state.hint.newHintId
            isEnabled := true
            shouldEnable := false } }

theorem EncodeInv.taken_first (inv : EncodeInv state) (env : HintEnv)
    (threads : List Nat) (running : state.stopped = false)
    (isEnabled : state.hint.isEnabled = false) :
    (env.Keeps → EncodeInv (state.taken env threads)) ∧
      (EncodeSound (state.taken env threads) → env.Keeps) := by
  obtain ⟨handle, locks, enabled⟩ := inv.holds
  obtain rfl : handle = none := by simpa [isEnabled] using enabled
  constructor
  · intro keeps
    obtain ⟨handle, performed⟩ :=
      HintLocks.performHintAction_of_keeps keeps state.hint.newHintId
        state.hint.locks
    refine
      { holds := ⟨some handle, ?_, rfl⟩
        stopped := by simp [EncodeState.taken, running] }
    simp only [EncodeState.taken, performed]
    rw [locks]
    rfl
  · intro sound
    by_contra lost
    have held := sound.enabled.mp rfl
    simp [EncodeState.taken, locks, HintLocks.only, noLocks,
      HintLocks.performHintAction_of_not_keeps lost] at held

theorem EncodeInv.taken_again (inv : EncodeInv state) (env : HintEnv)
    (threads : List Nat) (running : state.stopped = false)
    (isEnabled : state.hint.isEnabled = true) :
    (¬ env.Keeps ∧ state.hint.newHintId = state.hint.curHintId →
        EncodeInv (state.taken env threads)) ∧
      (EncodeSound (state.taken env threads) →
        ¬ env.Keeps ∧ state.hint.newHintId = state.hint.curHintId) := by
  obtain ⟨handle, locks, enabled⟩ := inv.holds
  obtain ⟨first, rfl⟩ : ∃ first, handle = some first := by
    simpa [isEnabled, Option.isSome_iff_exists] using enabled
  constructor
  · rintro ⟨lost, sameId⟩
    refine
      { holds := ⟨some first, ?_, rfl⟩
        stopped := by simp [EncodeState.taken, running] }
    simpa [EncodeState.taken, sameId,
      HintLocks.performHintAction_of_not_keeps lost] using locks
  · intro sound
    have lost : ¬ env.Keeps := by
      intro keeps
      obtain ⟨second, performed⟩ :=
        HintLocks.performHintAction_of_keeps keeps state.hint.newHintId
          state.hint.locks
      have two := sound.atMostOne
      simp only [EncodeState.taken, performed] at two
      simp [locks, HintLocks.only] at two
    refine ⟨lost, ?_⟩
    by_contra otherId
    have released := sound.released rfl
    simp only [EncodeState.taken, locks,
      HintLocks.performHintAction_of_not_keeps lost,
      HintLocks.undoHintAction_only_of_ne (Ne.symm otherId)] at released
    exact (HintLocks.only_held_ne_nil _ (some first)).mpr rfl released

theorem encodeStep_delayed {expectedCounter : Nat}
    (waits : expectedCounter ∈ state.hint.threads) (env : HintEnv) :
    encodeStep state (.delayed expectedCounter env) = some
        (if state.hint.Current expectedCounter then
          state.taken env (state.hint.threads.erase expectedCounter)
        else
          { state with
              hint :=
                { state.hint with
                    threads := state.hint.threads.erase expectedCounter } },
          []) := by
  simp only [encodeStep, waits, if_true]
  by_cases current : state.hint.Current expectedCounter
  · have same : ({ state.hint with
            threads := state.hint.threads.erase expectedCounter } :
          VideoEncodeHint).Current expectedCounter := current
    simp only [VideoEncodeHint.videoEncodeHintFunction, same, current, if_true, EncodeState.taken]
  · have same : ¬ ({ state.hint with
            threads := state.hint.threads.erase expectedCounter } :
          VideoEncodeHint).Current expectedCounter := current
    simp only [VideoEncodeHint.videoEncodeHintFunction, same, current, if_false]

theorem EncodeInv.running (inv : EncodeInv state)
    (wanted : state.hint.shouldEnable = true) :
    state.stopped = false := by
  by_contra stopped
  have off := (inv.stopped (by simpa using stopped)).1
  simp [wanted] at off

theorem EncodeInv.step {next : EncodeState} {results : List HintResult}
    (inv : EncodeInv state) (careful : EncodeCareful state event)
    (stepped : encodeStep state event = some (next, results)) :
    EncodeInv next := by
  cases event with
  | hint metadata created =>
    simp only [encodeStep, Option.some.injEq, Prod.mk.injEq] at stepped
    obtain ⟨rfl, -⟩ := stepped
    exact inv.hint metadata created
  | delayed expectedCounter env =>
    by_cases waits : expectedCounter ∈ state.hint.threads
    · rw [encodeStep_delayed waits] at stepped
      cases stepped
      by_cases current : state.hint.Current expectedCounter
      · rw [if_pos current]
        have met := careful waits current
        have running := inv.running current.1
        cases isEnabled : state.hint.isEnabled with
        | false =>
          exact (inv.taken_first env _ running isEnabled).1 (by simpa [isEnabled] using met)
        | true => exact (inv.taken_again env _ running isEnabled).1 (by simpa [isEnabled] using met)
      · rw [if_neg current]
        exact ⟨inv.holds, inv.stopped⟩
    · simp [encodeStep, waits] at stepped

theorem EncodeInv.soundStep_iff (inv : EncodeInv state) :
    EncodeSoundStep state event ↔ EncodeCareful state event := by
  constructor
  · intro sound
    cases event with
    | hint metadata created => trivial
    | delayed expectedCounter env =>
      intro waits current
      have after := sound _ _ (encodeStep_delayed waits env)
      rw [if_pos current] at after
      have running := inv.running current.1
      cases isEnabled : state.hint.isEnabled with
      | false => simpa using (inv.taken_first env _ running isEnabled).2 after
      | true => simpa using (inv.taken_again env _ running isEnabled).2 after
  · intro careful next results stepped
    exact (inv.step careful stepped).sound

/--
The locks are accounted for throughout a run exactly when no thread takes a
second lock and none fails to take the first.
-/
theorem encodeRun_sound_iff (events : List EncodeEvent) :
    Guarded encodeStep (fun state _ event => EncodeSoundStep state event) encodeStart [] events ↔
      Guarded encodeStep (fun state _ event => EncodeCareful state event)
        encodeStart [] events := by
  refine guarded_iff_of_invariant EncodeInv (fun inv => inv.soundStep_iff) ?_ EncodeInv.start
  intro state _ event next _ inv sound stepped
  exact inv.step (inv.soundStep_iff.mp sound) stepped

/-- A kept lock, or one that `perf_lock_acq` refuses. -/
def encodeEnv (lockHandle : Option Nat) : HintEnv where
  lockHandle := lockHandle
  newHint := true
  newNode := true

/-- The hint is started again while it is enabled, and its second lock leaks. -/
theorem encodeRun_startedTwice :
    ¬ Guarded encodeStep (fun state _ event => EncodeSoundStep state event) encodeStart []
      [.hint (some ⟨defaultVideoEncodeHintId, 1⟩) true, .delayed 1 (encodeEnv (some 5)),
        .hint (some ⟨defaultVideoEncodeHintId, 1⟩) true,
        .delayed 2 (encodeEnv (some 6))] := by
  rintro ⟨-, first⟩
  obtain ⟨-, second⟩ := first _ _ rfl
  obtain ⟨-, third⟩ := second _ _ rfl
  obtain ⟨last, -⟩ := third _ _ rfl
  exact absurd (last _ _ rfl).atMostOne (by decide)

end AnglerHal.PowerHints
