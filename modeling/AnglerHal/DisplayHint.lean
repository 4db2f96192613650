import AnglerHal.LabelledRun
import AnglerHal.PerfLocks

namespace AnglerHal.PowerHints

open LabelledRun

/-!
# The display-state hint

`set_interactive` asks the override of the board first, and serves the call
itself when the override does not.  Both keep a `display_hint_sent` of their
own, and both read the governor.  What is done under the MSM-DCVS governor
takes no lock and is left out.
-/

/-- The `display_hint_sent` of the override and of `power.c`, and the locks. -/
structure DisplayHint where
  overrideSent : Bool
  genericSent : Bool
  locks : HintLocks
  deriving DecidableEq

/-- The variables as the library is loaded. -/
def DisplayHint.loaded : DisplayHint where
  overrideSent := false
  genericSent := false
  locks := noLocks

/-- `set_interactive_override`. -/
def DisplayHint.setInteractiveOverride (governor : Option Governor) (on : Bool) (env : HintEnv)
    (display : DisplayHint) : DisplayHint × HintResult :=
  match governor with
  | none => (display, .none)
  | some governor =>
    if !on then
      if governor = .interactive then
        if !display.overrideSent then
          ({ display with
              locks :=
                display.locks.performHintAction env displayStateHintId
              overrideSent := true }, .handled)
        else
          (display, .none)
      else
        (display, .none)
    else
      if governor = .interactive then
        ({ display with
            locks := display.locks.undoHintAction displayStateHintId
            overrideSent := false }, .handled)
      else
        (display, .none)

/-- What `set_interactive` does after the override. -/
def DisplayHint.setInteractiveGeneric (governor : Option Governor) (on : Bool) (env : HintEnv)
    (display : DisplayHint) : DisplayHint :=
  match governor with
  | none => display
  | some governor =>
    if !on then
      -- the two governors differ in the resources that they ask for
      if governor = .ondemand ∨ governor = .interactive then
        if !display.genericSent then
          { display with
              locks :=
                display.locks.performHintAction env displayStateHintId
              genericSent := true }
        else
          display
      else
        display
    else
      if governor = .ondemand ∨ governor = .interactive then
        { display with
            locks := display.locks.undoHintAction displayStateHintId
            genericSent := false }
      else
        display

/--
`set_interactive`; `governor` is what the override reads, and `reread` what is
read after it.
-/
def DisplayHint.setInteractive (governor reread : Option Governor) (on : Bool) (env : HintEnv)
    (display : DisplayHint) : DisplayHint :=
  match display.setInteractiveOverride governor on env with
  | (served, .handled) => served
  | (passed, .none) => passed.setInteractiveGeneric reread on env

/-! ## Runs -/

/-- A call of `set_interactive`. -/
structure DisplayEvent where
  on : Bool
  governor : Option Governor
  reread : Option Governor
  env : HintEnv
  deriving DecidableEq

/-- One call. -/
def displayStep (display : DisplayHint) (event : DisplayEvent) : Option (DisplayHint × List Unit) :=
  some (display.setInteractive event.governor event.reread event.on event.env, [])

/-- One lock is held while the display is off, and none while it is on. -/
structure DisplaySound (on : Bool) (display : DisplayHint) : Prop where
  atMostOne : display.locks.held.length ≤ 1
  off : on = false → display.locks.held.length = 1
  on : on = true → display.locks.held = []

/-- The call leaves the locks as its state of the display asks. -/
def DisplaySoundStep (display : DisplayHint) (event : DisplayEvent) : Prop :=
  ∀ next told, displayStep display event = some (next, told) → DisplaySound event.on next

/-- The governor is one under which the generic handler uses locks. -/
def usesLocks (governor : Option Governor) : Bool :=
  governor = some .ondemand ∨ governor = some .interactive

/-- The display goes off, and one of the two handlers has not sent the hint. -/
def DisplayHint.Sends (governor reread : Option Governor) (display : DisplayHint) : Prop :=
  (governor = some .interactive ∧ display.overrideSent = false) ∨
    (usesLocks reread = true ∧ display.genericSent = false)

instance (governor reread : Option Governor) (display : DisplayHint) :
    Decidable (display.Sends governor reread) := by
  unfold DisplayHint.Sends
  infer_instance

/--
A call for a display that goes off sends the hint, and keeps its lock, exactly
when none is held; a call for a display that goes on undoes the hint unless
none is held.
-/
def DisplayCareful (display : DisplayHint) (event : DisplayEvent) : Prop :=
  if event.on then
    event.governor = some .interactive ∨ usesLocks event.reread = true ∨ display.locks.held = []
  else
    (display.Sends event.governor event.reread ∧ event.env.Keeps ↔ display.locks.held = [])

/-- What sound calls keep. -/
def DisplayInv (display : DisplayHint) : Prop :=
  ∃ handle, display.locks = .only displayStateHintId handle

theorem DisplayInv.loaded : DisplayInv .loaded :=
  ⟨none, rfl⟩

theorem DisplayHint.setInteractiveGeneric_locks (governor : Option Governor) (on : Bool)
    (env : HintEnv) (display : DisplayHint) :
    (display.setInteractiveGeneric governor on env).locks = if usesLocks governor = true then
        if on then
          display.locks.undoHintAction displayStateHintId
        else if display.genericSent then
          display.locks
        else
          display.locks.performHintAction env displayStateHintId
      else
        display.locks := by
  cases governor with
  | none => rfl
  | some governor =>
    cases governor with
    | other => cases on <;> rfl
    | ondemand =>
      cases on with
      | true => rfl
      | false => cases sent : display.genericSent <;>
          simp [setInteractiveGeneric, usesLocks, sent]
    | interactive =>
      cases on with
      | true => rfl
      | false => cases sent : display.genericSent <;>
          simp [setInteractiveGeneric, usesLocks, sent]

theorem DisplayHint.setInteractive_off (governor reread : Option Governor) (env : HintEnv)
    (display : DisplayHint) :
    (display.setInteractive governor reread false env).locks = if display.Sends governor reread then
        display.locks.performHintAction env displayStateHintId
      else
        display.locks := by
  by_cases served : governor = some .interactive ∧ display.overrideSent = false
  · obtain ⟨rfl, fresh⟩ := served
    simp [setInteractive, setInteractiveOverride, Sends, fresh]
  · have passed : display.setInteractiveOverride governor false env = (display, .none) := by
      cases governor with
      | none => rfl
      | some governor =>
        cases governor with
        | ondemand => rfl
        | other => rfl
        | interactive =>
          have sent : display.overrideSent = true := by simpa using served
          simp [setInteractiveOverride, sent]
    simp only [setInteractive, passed, setInteractiveGeneric_locks, Sends, served, false_or]
    cases usesLocks reread <;> cases display.genericSent <;> simp

theorem DisplayHint.setInteractive_on (governor reread : Option Governor) (env : HintEnv)
    (display : DisplayHint) :
    (display.setInteractive governor reread true env).locks =
      if governor = some .interactive ∨ usesLocks reread = true then
        display.locks.undoHintAction displayStateHintId
      else
        display.locks := by
  by_cases served : governor = some .interactive
  · subst served
    simp [setInteractive, setInteractiveOverride]
  · have passed : display.setInteractiveOverride governor true env = (display, .none) := by
      cases governor with
      | none => rfl
      | some governor =>
        have declined : governor ≠ .interactive := by simpa using served
        simp [setInteractiveOverride, declined]
    simp only [setInteractive, passed, setInteractiveGeneric_locks, served, false_or, if_true]

variable {display : DisplayHint}

theorem DisplayInv.off (inv : DisplayInv display) (governor reread : Option Governor)
    (env : HintEnv) :
    ((display.setInteractive governor reread false env).locks.held.length = 1 ↔
        (display.Sends governor reread ∧ env.Keeps ↔ display.locks.held = [])) ∧
      ((display.Sends governor reread ∧ env.Keeps ↔ display.locks.held = []) →
        DisplayInv (display.setInteractive governor reread false env)) := by
  obtain ⟨handle, locks⟩ := inv
  have after := display.setInteractive_off governor reread env
  unfold DisplayInv
  rw [after]
  by_cases sends : display.Sends governor reread
  · rw [if_pos sends, locks]
    simpa only [sends, true_and] using HintLocks.only_performed env displayStateHintId handle
  · rw [if_neg sends, locks]
    refine ⟨?_, fun _ => ⟨handle, rfl⟩⟩
    cases handle with
    | none => simp [sends, HintLocks.only, noLocks]
    | some held => simp [sends, HintLocks.only]

theorem DisplayInv.on {display : DisplayHint} (inv : DisplayInv display)
    (governor reread : Option Governor) (env : HintEnv) :
    ((display.setInteractive governor reread true env).locks.held = [] ↔
        governor = some .interactive ∨ usesLocks reread = true ∨ display.locks.held = []) ∧
      DisplayInv (display.setInteractive governor reread true env) := by
  obtain ⟨handle, locks⟩ := inv
  have after := display.setInteractive_on governor reread env
  unfold DisplayInv
  rw [after, ← or_assoc]
  by_cases undoes : governor = some .interactive ∨ usesLocks reread = true
  · rw [if_pos undoes, locks, HintLocks.undoHintAction_only]
    exact ⟨by simp [undoes, noLocks], none, rfl⟩
  · rw [if_neg undoes]
    exact ⟨by simp [undoes], handle, locks⟩

theorem DisplayInv.sound_iff {event : DisplayEvent} (inv : DisplayInv display) :
    (DisplaySoundStep display event ↔ DisplayCareful display event) ∧
      (DisplayCareful display event →
        DisplayInv
          (display.setInteractive event.governor event.reread event.on
            event.env)) := by
  obtain ⟨on, governor, reread, env⟩ := event
  cases on with
  | true =>
    obtain ⟨released, kept⟩ := inv.on governor reread env
    refine ⟨⟨?_, ?_⟩, fun _ => kept⟩
    · intro sound
      exact released.mp ((sound _ _ rfl).on rfl)
    · rintro careful _ _ ⟨⟩
      have none := released.mpr careful
      exact
        { atMostOne := by simp [none]
          off := by simp
          on := fun _ => none }
  | false =>
    obtain ⟨one, kept⟩ := inv.off governor reread env
    refine ⟨⟨?_, ?_⟩, kept⟩
    · intro sound
      exact one.mp ((sound _ _ rfl).off rfl)
    · rintro careful _ _ ⟨⟩
      have held := one.mpr careful
      exact
        { atMostOne := Nat.le_of_eq held
          off := fun _ => held
          on := by simp }

/--
The lock of the display is accounted for throughout a sequence of calls exactly
when every call for a display that goes off acquires a lock if and only if none
is held.
-/
theorem displayRun_sound_iff (events : List DisplayEvent) :
    Guarded displayStep (fun display _ event => DisplaySoundStep display event) .loaded [] events ↔
      Guarded displayStep (fun display _ event => DisplayCareful display event)
        .loaded [] events := by
  refine guarded_iff_of_invariant DisplayInv (fun inv => inv.sound_iff.1) ?_ DisplayInv.loaded
  rintro display _ event _ _ inv sound ⟨⟩
  exact inv.sound_iff.2 (inv.sound_iff.1.mp sound)

/-- A call under the interactive governor whose acquisition succeeds. -/
def interactiveCall (on : Bool) (handle : Nat) : DisplayEvent where
  on := on
  governor := some .interactive
  reread := some .interactive
  env := { lockHandle := some handle, newHint := true, newNode := true }

/-- The display goes off twice, and each handler takes a lock. -/
theorem displayRun_offTwice : ¬ Guarded displayStep
      (fun display _ event => DisplaySoundStep display event)
      .loaded [] [interactiveCall false 5, interactiveCall false 6] := by
  rintro ⟨-, first⟩
  obtain ⟨second, -⟩ := first _ _ rfl
  exact absurd (second _ _ rfl).atMostOne (by decide)

end AnglerHal.PowerHints
