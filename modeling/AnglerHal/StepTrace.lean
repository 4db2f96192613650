import Mathlib.Data.List.Basic

namespace AnglerHal.StepTrace

/-!
# What holds of every step

A total machine takes one step for each event.  A relation between the state before
a step, its event and the state after it holds along a run when it holds of every
step of the run.
-/

variable {State Event : Type} {step : State → Event → State}

/-- A relation holds of every step of a run. -/
def EachStep (step : State → Event → State) (relation : State → Event → State → Prop) :
    State → List Event → Prop
  | _, [] => True
  | state, event :: rest =>
    relation state event (step state event) ∧ EachStep step relation (step state event) rest

/-- What holds of any step holds along any run. -/
theorem EachStep.of_forall {relation : State → Event → State → Prop}
    (holds : ∀ state event, relation state event (step state event)) (state : State)
    (events : List Event) :
    EachStep step relation state events := by
  induction events generalizing state with
  | nil => trivial
  | cons event rest inductionHypothesis =>
    exact ⟨holds state event, inductionHypothesis (step state event)⟩

/-- Two relations that hold along a run hold together. -/
theorem EachStep.and {first second : State → Event → State → Prop} {state : State}
    {events : List Event} (holds : EachStep step first state events)
    (also : EachStep step second state events) :
    EachStep step (fun state event next => first state event next ∧ second state event next)
      state events := by
  induction events generalizing state with
  | nil => trivial
  | cons event rest inductionHypothesis =>
    exact ⟨⟨holds.1, also.1⟩, inductionHypothesis holds.2 also.2⟩

section Invariant

variable {relation guard granted : State → Event → State → Prop}
variable {state : State} {events : List Event}

/-- The rule for invariants: what is shown of a step that meets a condition holds along a run. -/
theorem EachStep.of_invariant (guarded : EachStep step guard state events)
    (invariant : State → Prop)
    (preserved : ∀ state event, invariant state → guard state event (step state event) →
      invariant (step state event) ∧ relation state event (step state event))
    (start : invariant state) :
    EachStep step relation state events := by
  induction events generalizing state with
  | nil => trivial
  | cons event rest inductionHypothesis =>
    obtain ⟨next, holds⟩ := preserved state event start guarded.1
    exact ⟨holds, inductionHypothesis guarded.2 next⟩

/--
Where the relation and the condition agree on the granted steps, and keep the invariant, they
agree along a run of such steps.
-/
theorem EachStep.iff_of_invariant (isGranted : EachStep step granted state events)
    (invariant : State → Prop)
    (preserved : ∀ state event, invariant state → granted state event (step state event) →
      (relation state event (step state event) ↔ guard state event (step state event)) ∧
        (guard state event (step state event) → invariant (step state event)))
    (start : invariant state) :
    EachStep step relation state events ↔ EachStep step guard state events := by
  induction events generalizing state with
  | nil => exact Iff.rfl
  | cons event rest inductionHypothesis =>
    obtain ⟨same, next⟩ := preserved state event start isGranted.1
    constructor
    · rintro ⟨holds, later⟩
      exact ⟨same.mp holds, (inductionHypothesis isGranted.2 (next (same.mp holds))).mp later⟩
    · rintro ⟨guarded, later⟩
      exact ⟨same.mpr guarded, (inductionHypothesis isGranted.2 (next guarded)).mpr later⟩

end Invariant

end AnglerHal.StepTrace
