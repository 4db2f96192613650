import Mathlib.Data.List.Basic

namespace AnglerHal.PowerHints

/-!
# Locks behind the power hints

`perform_hint_action` acquires an indefinite perflock and remembers its handle
under the id of the hint; `undo_hint_action` releases the lock remembered last
under an id.  The perflocks that were acquired and not yet released are kept
beside the list of the hints, which is all that the source has.

The library that serves the locks may be missing, or have no `perf_lock_acq`.
Nothing is acquired then, which is the same as an acquisition that fails.  Its
`perf_lock_rel` is taken to be there, so the tests for it are passed.
-/

/-- The governors that the hints tell apart by their text. -/
inductive Governor where
  | ondemand
  | interactive
  | other
  deriving DecidableEq

/-- `HINT_NONE` and `HINT_HANDLED`. -/
inductive HintResult where
  | none
  | handled
  deriving DecidableEq

/-- `DEFAULT_VIDEO_ENCODE_HINT_ID`. -/
def defaultVideoEncodeHintId : Int :=
  0x0A00

/-- `DISPLAY_STATE_HINT_ID`. -/
def displayStateHintId : Int :=
  0x0C00

/-- `struct hint_data`. -/
structure HintData where
  hintId : Int
  perflockHandle : Nat
  deriving DecidableEq

/--
`active_hint_list_head`, newest node first, and the handles of the perflocks
that are held.
-/
structure HintLocks where
  active : List HintData
  held : List Nat
  deriving DecidableEq

/--
What the calls out of `perform_hint_action` return: the handle of
`perf_lock_acq`, unless it is `-1`, and whether there is memory for the
`hint_data` and for the list node.
-/
structure HintEnv where
  lockHandle : Option Nat
  newHint : Bool
  newNode : Bool
  deriving DecidableEq

/-- Nothing is held and no hint is active. -/
def noLocks : HintLocks where
  active := []
  held := []

/-- `perf_lock_rel`. -/
def HintLocks.perfLockRel (handle : Nat) (locks : HintLocks) : HintLocks :=
  { locks with held := locks.held.erase handle }

/-- `perform_hint_action`, where `perf_lock_rel` was found. -/
def HintLocks.performHintAction (env : HintEnv) (hintId : Int) (locks : HintLocks) : HintLocks :=
  match env.lockHandle with
  | none => locks
  | some lockHandle =>
    let acquired := { locks with held := lockHandle :: locks.held }
    if env.newHint then
      if env.newNode then
        { acquired with active := ⟨hintId, lockHandle⟩ :: locks.active }
      else
        -- the lock cannot be kept track of
        acquired.perfLockRel lockHandle
    else
      acquired.perfLockRel lockHandle

/-- `hint_compare` with a hint that has this id. -/
def hintCompare (hintId : Int) (hint : HintData) : Bool :=
  hint.hintId == hintId

/-- `undo_hint_action`, where `perf_lock_rel` was found. -/
def HintLocks.undoHintAction (hintId : Int) (locks : HintLocks) : HintLocks :=
  match locks.active.find? (hintCompare hintId) with
  | none => locks
  | some found =>
    { locks.perfLockRel found.perflockHandle with
        active := locks.active.eraseP (hintCompare hintId) }

/-- The lock is acquired and can be kept track of. -/
def HintEnv.Keeps (env : HintEnv) : Prop :=
  env.lockHandle.isSome ∧ env.newHint = true ∧ env.newNode = true

instance (env : HintEnv) : Decidable env.Keeps := by
  unfold HintEnv.Keeps
  infer_instance

variable {env : HintEnv}

/-- A kept lock is held, and its hint is the newest one. -/
theorem HintLocks.performHintAction_of_keeps (keeps : env.Keeps) (hintId : Int)
    (locks : HintLocks) :
    ∃ handle,
      locks.performHintAction env hintId =
        { active := ⟨hintId, handle⟩ :: locks.active
          held := handle :: locks.held } := by
  obtain ⟨acquired, newHint, newNode⟩ := keeps
  obtain ⟨handle, lockHandle⟩ := Option.isSome_iff_exists.mp acquired
  refine ⟨handle, ?_⟩
  simp [performHintAction, lockHandle, newHint, newNode]

/-- A lock that is not kept leaves nothing behind. -/
theorem HintLocks.performHintAction_of_not_keeps (lost : ¬ env.Keeps) (hintId : Int)
    (locks : HintLocks) :
    locks.performHintAction env hintId = locks := by
  unfold performHintAction
  cases lockHandle : env.lockHandle with
  | none => rfl
  | some handle =>
    have noMemory : ¬ (env.newHint = true ∧ env.newNode = true) := by
      intro memory
      exact lost ⟨by simp [lockHandle], memory⟩
    cases newHint : env.newHint with
    | false => simp [perfLockRel]
    | true =>
      have noNode : env.newNode = false := by
        simpa [newHint] using noMemory
      simp [noNode, perfLockRel]

/-- Nothing, or one lock that is remembered under `hintId`. -/
def HintLocks.only (hintId : Int) : Option Nat → HintLocks
  | none => noLocks
  | some handle => { active := [⟨hintId, handle⟩], held := [handle] }

/-- Whether anything is held can be read off the held locks. -/
theorem HintLocks.only_held_ne_nil (hintId : Int) (handle : Option Nat) :
    (only hintId handle).held ≠ [] ↔ handle.isSome = true := by
  cases handle with
  | none => simp [only, noLocks]
  | some handle => simp [only]

/-- At most one lock is held. -/
theorem HintLocks.length_only_held (hintId : Int) (handle : Option Nat) :
    (only hintId handle).held.length ≤ 1 := by
  cases handle with
  | none => simp [only, noLocks]
  | some handle => simp [only]

/-- Undoing the hint releases what is held. -/
@[simp]
theorem HintLocks.undoHintAction_only (hintId : Int) (handle : Option Nat) :
    (only hintId handle).undoHintAction hintId = noLocks := by
  cases handle with
  | none => rfl
  | some handle => simp [only, undoHintAction, perfLockRel, hintCompare, noLocks]

/-- Undoing a hint under another id releases nothing. -/
theorem HintLocks.undoHintAction_only_of_ne {hintId other : Int} (different : hintId ≠ other)
    (handle : Option Nat) :
    (only hintId handle).undoHintAction other = only hintId handle := by
  cases handle with
  | none => rfl
  | some handle => simp [only, undoHintAction, hintCompare, different]

/-- Locks that are those of one hint stay so when the hint is performed well. -/
theorem HintLocks.only_performed (env : HintEnv) (hintId : Int) (handle : Option Nat) :
    (((only hintId handle).performHintAction env hintId).held.length = 1 ↔
        (env.Keeps ↔ (only hintId handle).held = [])) ∧
      ((env.Keeps ↔ (only hintId handle).held = []) →
        ∃ after,
          (only hintId handle).performHintAction env hintId =
            only hintId after) := by
  by_cases keeps : env.Keeps
  · obtain ⟨acquired, performed⟩ :=
      performHintAction_of_keeps keeps hintId (only hintId handle)
    cases handle with
    | none =>
      refine ⟨?_, fun _ => ⟨some acquired, ?_⟩⟩
      · rw [performed]
        simp [keeps, only, noLocks]
      · rw [performed]
        rfl
    | some held =>
      rw [performed]
      simp [keeps, only]
  · rw [performHintAction_of_not_keeps keeps]
    refine ⟨?_, fun _ => ⟨handle, rfl⟩⟩
    cases handle with
    | none => simp [keeps, only, noLocks]
    | some held => simp [keeps, only]

end AnglerHal.PowerHints
