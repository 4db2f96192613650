import Mathlib.Data.List.Basic

namespace AnglerHal.LabelledRun

/-!
# Runs of partial labelled machines

A machine reads one event at a time, may emit outputs, and may have no next
state at all (`none`), which stands for a step whose behaviour the source
leaves undefined.  This module is independent of any particular machine: it
supplies runs, the condition "every step of the run meets a guard", and the
rule that an invariant over state, past events and emitted outputs holds along
every guarded run.
-/

variable {State Event Output : Type}

/-- Execute a list of events, concatenating the outputs of its steps. -/
def run? (step : State → Event → Option (State × List Output)) :
    State → List Event → Option (State × List Output)
  | state, [] => some (state, [])
  | state, event :: rest =>
    match step state event with
    | none => none
    | some (next, emitted) =>
      match run? step next rest with
      | none => none
      | some (final, later) => some (final, emitted ++ later)

/-- A step that was taken met its condition. -/
theorem of_step {condition : Prop} [Decidable condition] {result next : State}
    {emitted out : List Output}
    (stepped : (if condition then some (result, emitted) else none) = some (next, out)) :
    condition ∧ result = next := by
  simp only [Option.ite_none_right_eq_some, Option.some.injEq, Prod.mk.injEq] at stepped
  exact ⟨stepped.1, stepped.2.1⟩

/--
Every step of the run meets `guard`, which may look at the state before the
step, at the events already consumed and at the event itself.
-/
def Guarded (step : State → Event → Option (State × List Output))
    (guard : State → List Event → Event → Prop) :
    State → List Event → List Event → Prop
  | _, _, [] => True
  | state, past, event :: rest =>
    guard state past event ∧ ∀ next emitted, step state event = some (next, emitted) →
        Guarded step guard next (past ++ [event]) rest

/-- A decidable guard can be checked along a run. -/
instance decidableGuarded {step : State → Event → Option (State × List Output)}
    {guard : State → List Event → Event → Prop}
    [∀ state past event, Decidable (guard state past event)] :
    ∀ state past events, Decidable (Guarded step guard state past events)
  | _, _, [] => isTrue trivial
  | state, past, event :: rest =>
    match stepped : step state event with
    | none =>
      decidable_of_iff (guard state past event) (by
        simp [Guarded, stepped])
    | some (next, emitted) =>
      have : Decidable (Guarded step guard next (past ++ [event]) rest) :=
        decidableGuarded next (past ++ [event]) rest
      decidable_of_iff (guard state past event ∧ Guarded step guard next (past ++ [event]) rest) (by
        simp [Guarded, stepped])

section Invariant

variable {step : State → Event → Option (State × List Output)}
  {guard : State → List Event → Event → Prop}

/-- A successful run of a nonempty event list splits after its first step. -/
theorem run?_cons_eq_some {state final : State} {event : Event} {rest : List Event}
    {log : List Output} (ran : run? step state (event :: rest) = some (final, log)) :
    ∃ next emitted later, step state event = some (next, emitted) ∧
        run? step next rest = some (final, later) ∧
        log = emitted ++ later := by
  simp only [run?] at ran
  cases stepped : step state event with
  | none => simp [stepped] at ran
  | some result =>
    obtain ⟨next, emitted⟩ := result
    simp only [stepped] at ran
    cases continued : run? step next rest with
    | none => simp [continued] at ran
    | some result =>
      obtain ⟨last, later⟩ := result
      simp only [continued, Option.some.injEq, Prod.mk.injEq] at ran
      obtain ⟨rfl, rfl⟩ := ran
      exact ⟨next, emitted, later, rfl, continued, rfl⟩

/-- A machine whose steps are all defined runs to the end. -/
theorem run?_total (total : ∀ state event, ∃ next emitted, step state event = some (next, emitted))
    (state : State)
    (events : List Event) :
    ∃ final log, run? step state events = some (final, log) := by
  induction events generalizing state with
  | nil => exact ⟨state, [], rfl⟩
  | cons event rest inductionHypothesis =>
    obtain ⟨next, emitted, stepped⟩ := total state event
    obtain ⟨final, later, ran⟩ := inductionHypothesis next
    exact ⟨final, emitted ++ later, by simp [run?, stepped, ran]⟩

/-- A run followed by one more step. -/
theorem run?_snoc {state middle final : State} {events : List Event} {event : Event}
    {log emitted : List Output} (ran : run? step state events = some (middle, log))
    (stepped : step middle event = some (final, emitted)) :
    run? step state (events ++ [event]) = some (final, log ++ emitted) := by
  induction events generalizing state log with
  | nil =>
    simp only [run?, Option.some.injEq, Prod.mk.injEq] at ran
    obtain ⟨rfl, rfl⟩ := ran
    simp [run?, stepped]
  | cons first rest inductionHypothesis =>
    obtain ⟨next, before, later, firstStep, restRun, rfl⟩ := run?_cons_eq_some ran
    simp [run?, firstStep, inductionHypothesis restRun]

/-- A condition on events and their past, met at every position of a run. -/
theorem guarded_of_events {condition : List Event → Event → Prop} {state : State}
    {past events : List Event}
    (each : ∀ earlier event later, events = earlier ++ event :: later →
          condition (past ++ earlier) event) :
    Guarded step (fun _ before event => condition before event)
      state past events := by
  induction events generalizing state past with
  | nil => trivial
  | cons event rest inductionHypothesis =>
    refine ⟨by simpa using each [] event rest rfl, ?_⟩
    intro next emitted _
    refine inductionHypothesis ?_
    intro earlier current later shape
    have here := each (event :: earlier) current later (by simp [shape])
    simpa using here

/-- Two conditions on the same run. -/
theorem Guarded.and {other : State → List Event → Event → Prop} {state : State}
    {past events : List Event} (guarded : Guarded step guard state past events)
    (guardedToo : Guarded step other state past events) :
    Guarded step (fun current before event =>
        guard current before event ∧ other current before event)
      state past events := by
  induction events generalizing state past with
  | nil => trivial
  | cons event rest inductionHypothesis =>
    exact ⟨⟨guarded.1, guardedToo.1⟩, fun next emitted stepped =>
      inductionHypothesis (guarded.2 next emitted stepped) (guardedToo.2 next emitted stepped)⟩

/--
Two conditions that say the same of every step from a state with the
invariant, which the first one keeps, say the same of whole runs.
-/
theorem guarded_iff_of_invariant {other : State → List Event → Event → Prop}
    (invariant : State → Prop)
    (same : ∀ {state past event}, invariant state →
          (guard state past event ↔ other state past event))
    (preserved : ∀ {state past event next emitted}, invariant state → guard state past event →
        step state event = some (next, emitted) →
        invariant next)
    {state : State} {past events : List Event} (start : invariant state) :
    Guarded step guard state past events ↔
      Guarded step other state past events := by
  induction events generalizing state past with
  | nil => exact Iff.rfl
  | cons event rest inductionHypothesis =>
    constructor
    · rintro ⟨met, later⟩
      refine ⟨(same start).mp met, ?_⟩
      intro next emitted stepped
      exact (inductionHypothesis (preserved start met stepped)).mp (later next emitted stepped)
    · rintro ⟨met, later⟩
      have here := (same start).mpr met
      refine ⟨here, ?_⟩
      intro next emitted stepped
      exact (inductionHypothesis (preserved start here stepped)).mpr (later next emitted stepped)

/--
What a guarded step from a state with the invariant guarantees, the steps of a
guarded run guarantee.
-/
theorem Guarded.of_invariant {other : State → List Event → Event → Prop}
    (invariant : State → Prop) {state : State} {past events : List Event}
    (guarded : Guarded step guard state past events)
    (sound : ∀ {state past event},
        invariant state → guard state past event → other state past event)
    (preserved : ∀ {state past event next emitted}, invariant state → guard state past event →
        step state event = some (next, emitted) →
        invariant next)
    (start : invariant state) :
    Guarded step other state past events := by
  induction events generalizing state past with
  | nil => trivial
  | cons event rest inductionHypothesis =>
    obtain ⟨met, later⟩ := guarded
    refine ⟨sound start met, ?_⟩
    intro next emitted stepped
    exact inductionHypothesis (later next emitted stepped) (preserved start met stepped)

/-- The last step of a guarded run. -/
theorem Guarded.last {state middle : State} {past events : List Event} {event : Event}
    {log : List Output} (guarded : Guarded step guard state past (events ++ [event]))
    (ran : run? step state events = some (middle, log)) :
    guard middle (past ++ events) event := by
  induction events generalizing state past log with
  | nil =>
    simp only [run?, Option.some.injEq, Prod.mk.injEq] at ran
    obtain ⟨rfl, rfl⟩ := ran
    simpa using guarded.1
  | cons first rest inductionHypothesis =>
    obtain ⟨next, before, later, firstStep, restRun, rfl⟩ := run?_cons_eq_some ran
    simpa using inductionHypothesis (guarded.2 next before firstStep) restRun

/--
The invariant rule.  An invariant of state, past events and log that holds at
the start and is kept by every step meeting the guard holds at the end of
every guarded run.
-/
theorem invariant_of_guarded (invariant : State → List Event → List Output → Prop)
    {state final : State} {past events : List Event} (log : List Output)
    {later : List Output} (guarded : Guarded step guard state past events)
    (ran : run? step state events = some (final, later))
    (start : invariant state past log)
    (preserved : ∀ {state past log event next emitted}, invariant state past log →
        guard state past event →
        step state event = some (next, emitted) →
        invariant next (past ++ [event]) (log ++ emitted)) :
    invariant final (past ++ events) (log ++ later) := by
  induction events generalizing state past log later with
  | nil =>
    simp only [run?, Option.some.injEq, Prod.mk.injEq] at ran
    obtain ⟨rfl, rfl⟩ := ran
    simpa using start
  | cons event rest inductionHypothesis =>
    obtain ⟨next, emitted, tailLog, firstStep, restRun, rfl⟩ := run?_cons_eq_some ran
    obtain ⟨headGuard, tailGuard⟩ := guarded
    have nextInvariant := preserved start headGuard firstStep
    have result := inductionHypothesis (log ++ emitted)
        (tailGuard next emitted firstStep) restRun nextInvariant
    simpa [List.append_assoc] using result

/--
The rule for runs that are defined because the invariant says so: every step
meeting the guard exists and keeps the invariant.
-/
theorem run?_of_guarded (invariant : State → List Event → List Output → Prop)
    {state : State} {past events : List Event} (log : List Output)
    (guarded : Guarded step guard state past events) (start : invariant state past log)
    (progress : ∀ {state past log event}, invariant state past log → guard state past event →
        ∃ next emitted, step state event = some (next, emitted) ∧
            invariant next (past ++ [event]) (log ++ emitted)) :
    ∃ final later, run? step state events = some (final, later) ∧
        invariant final (past ++ events) (log ++ later) := by
  induction events generalizing state past log with
  | nil => exact ⟨state, [], rfl, by simpa using start⟩
  | cons event rest inductionHypothesis =>
    obtain ⟨headGuard, tailGuard⟩ := guarded
    obtain ⟨next, emitted, stepped, nextInvariant⟩ := progress start headGuard
    obtain ⟨final, later, ran, finalInvariant⟩ :=
      inductionHypothesis (log ++ emitted) (tailGuard next emitted stepped) nextInvariant
    refine ⟨final, emitted ++ later, by simp [run?, stepped, ran], ?_⟩
    simpa [List.append_assoc] using finalInvariant

/-- The rule for invariants that mention only the state. -/
theorem stateInvariant_of_guarded (invariant : State → Prop) {state final : State}
    {past events : List Event} {log : List Output}
    (guarded : Guarded step guard state past events)
    (ran : run? step state events = some (final, log)) (start : invariant state)
    (preserved : ∀ {state past event next emitted}, invariant state → guard state past event →
        step state event = some (next, emitted) →
        invariant next) :
    invariant final := by
  have kept := invariant_of_guarded (fun current _ _ => invariant current) [] guarded ran start
      (fun held met stepped => preserved held met stepped)
  exact kept

/-- The rule for invariants of the state that every step keeps. -/
theorem stateInvariant_of_run (invariant : State → Prop) {state final : State}
    {events : List Event} {log : List Output}
    (ran : run? step state events = some (final, log)) (start : invariant state)
    (preserved : ∀ {state event next emitted}, invariant state →
        step state event = some (next, emitted) →
        invariant next) :
    invariant final := by
  induction events generalizing state log with
  | nil =>
    simp only [run?, Option.some.injEq, Prod.mk.injEq] at ran
    obtain ⟨rfl, rfl⟩ := ran
    exact start
  | cons event rest inductionHypothesis =>
    obtain ⟨next, emitted, later, firstStep, restRun, rfl⟩ := run?_cons_eq_some ran
    exact inductionHypothesis restRun (preserved start firstStep)

end Invariant

end AnglerHal.LabelledRun
