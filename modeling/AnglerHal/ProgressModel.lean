import Mathlib.Data.List.Basic
import Mathlib.Data.List.Pairwise
import Mathlib.Data.List.TakeWhile

namespace AnglerHal.Progress

/-!
# Requests on their way to the last partial result

This is what the counting of partial results is for, without buffers and
reprocess requests.  A request gets an urgent and a normal metadata and, if it
asks for a raw frame, a black level.  Each of them is a partial result; the last
one, number `finalCount`, closes the request.  A request without a raw frame has
no third result of its own: it is closed with its normal metadata, or deferred
while an older raw request is open.
-/

/-- The number of the last partial result. -/
def finalCount : Nat :=
  3

/-- An open request. -/
structure Entry where
  frame : Nat
  raw : Bool
  count : Nat
  urgent : Bool
  answered : Bool
  deriving DecidableEq

/-- What can happen to the requests. -/
inductive Event where
  | request (frame : Nat) (raw : Bool)
  | urgent (frame : Nat)
  | normal (frame : Nat)
  | level (frame : Nat)
  deriving DecidableEq

/-- The frame number of an event. -/
def Event.frame : Event → Nat
  | .request frame _ => frame
  | .urgent frame => frame
  | .normal frame => frame
  | .level frame => frame

/-- Open requests, partial results sent, and frames closed with an error. -/
structure State where
  entries : List Entry
  partials : List (Nat × Nat)
  errors : List Nat
  deriving DecidableEq

/-- No request yet. -/
def State.empty : State where
  entries := []
  partials := []
  errors := []

/-! ## Steps -/

/-- An urgent metadata counts for its request and for those it overtakes. -/
def Entry.noteUrgent (frame : Nat) (entry : Entry) : Entry :=
  if entry.frame < frame then
    if entry.count = 0 then { entry with count := 1 } else entry
  else if entry.frame = frame ∧ entry.urgent = false then
    { entry with count := entry.count + 1, urgent := true }
  else
    entry

/-- The partial result that an urgent metadata sends for a request. -/
def Entry.urgentPartial (frame : Nat) (entry : Entry) : Option (Nat × Nat) :=
  if entry.frame = frame ∧ entry.urgent = false then
    some (frame, entry.count + 1)
  else
    none

/-- A raw request is open before this frame. -/
def blocked (frame : Nat) (entries : List Entry) : Bool :=
  entries.any fun entry => entry.raw && decide (entry.frame < frame)

/-- The count of a request after its normal metadata. -/
def Entry.normalCount (isBlocked : Bool) (entry : Entry) : Nat :=
  if entry.raw = false ∧ isBlocked = false then
    entry.count + 2
  else
    entry.count + 1

/-- A normal metadata was missed for this request. -/
def Entry.missed (frame : Nat) (entry : Entry) : Bool :=
  decide (entry.frame < frame) && !entry.raw && !entry.answered

/-- What a normal metadata leaves of a request. -/
def Entry.noteNormal (frame : Nat) (isBlocked : Bool) (entry : Entry) : Option Entry :=
  if entry.missed frame then
    none
  else if entry.frame = frame then
    if entry.normalCount isBlocked = finalCount then
      none
    else
      some { entry with
        count := entry.normalCount isBlocked
        answered := true }
  else
    some entry

/-- The partial result that a normal metadata sends for a request. -/
def Entry.normalPartial (frame : Nat) (isBlocked : Bool) (entry : Entry) : Option (Nat × Nat) :=
  if entry.missed frame then
    some (entry.frame, finalCount)
  else if entry.frame = frame then
    some (entry.frame, entry.normalCount isBlocked)
  else
    none

/-- The error that a normal metadata reports for a request. -/
def Entry.normalError (frame : Nat) (entry : Entry) : Option Nat :=
  if entry.missed frame then some entry.frame else none

/-- A request that waits for an older raw request only. -/
def Entry.deferred (entry : Entry) : Bool :=
  entry.count == finalCount - 1 && !entry.raw

/-- A black level, with the requests split before its own. -/
def levelFrom (before : List Entry) (state : State) : List Entry → State
  | [] => state
  | entry :: later =>
    if entry.raw = false then
      state
    else if entry.count + 1 = finalCount then
      { state with
          entries := before ++ later.dropWhile Entry.deferred
          partials :=
            state.partials ++ (entry.frame, finalCount) ::
              (later.takeWhile Entry.deferred).map fun waiting =>
                (waiting.frame, waiting.count + 1) }
    else
      { state with
          entries :=
            before ++ { entry with count := entry.count + 1 } :: later
          partials :=
            state.partials ++ [(entry.frame, entry.count + 1)] }

/-- One step. -/
def step (state : State) : Event → State
  | .request frame raw =>
    { state with
        entries := state.entries ++ [{
          frame := frame
          raw := raw
          count := 0
          urgent := false
          answered := false }] }
  | .urgent frame =>
    { state with
        entries := state.entries.map (Entry.noteUrgent frame)
        partials :=
          state.partials ++ state.entries.filterMap (Entry.urgentPartial frame) }
  | .normal frame =>
    { entries :=
        state.entries.filterMap (Entry.noteNormal frame (blocked frame state.entries))
      partials :=
        state.partials ++ state.entries.filterMap
            (Entry.normalPartial frame (blocked frame state.entries))
      errors :=
        state.errors ++ state.entries.filterMap (Entry.normalError frame) }
  | .level frame =>
    levelFrom (state.entries.takeWhile fun entry => entry.frame != frame) state
      (state.entries.dropWhile fun entry => entry.frame != frame)

/-- A whole run. -/
def run (state : State) (events : List Event) : State :=
  events.foldl step state

/-! ## History -/

/-- An urgent metadata of this frame or a later one has come. -/
def urgentSeen (past : List Event) (frame : Nat) : Prop :=
  ∃ other, Event.urgent other ∈ past ∧ frame ≤ other

instance (past : List Event) (frame : Nat) : Decidable (urgentSeen past frame) :=
  decidable_of_iff (∃ event ∈ past, ∃ other ∈ [event.frame],
      event = Event.urgent other ∧ frame ≤ other)
    ⟨fun ⟨_, member, other, _, same, below⟩ =>
        ⟨other, same ▸ member, below⟩,
      fun ⟨other, member, below⟩ =>
        ⟨.urgent other, member, other, by simp [Event.frame], rfl, below⟩⟩

/-- The count that the history of a request calls for. -/
def expectedCount (past : List Event) (entry : Entry) : Nat :=
  (if urgentSeen past entry.frame then 1 else 0) +
    (if Event.normal entry.frame ∈ past then 1 else 0) +
    (if entry.raw = true ∧ Event.level entry.frame ∈ past then 1 else 0)

/-- The partial results of a frame, in order. -/
def partialsOf (frame : Nat) (partials : List (Nat × Nat)) : List Nat :=
  (partials.filter fun sent => sent.1 == frame).map Prod.snd

@[simp]
theorem partialsOf_append (frame : Nat) (earlier later : List (Nat × Nat)) :
    partialsOf frame (earlier ++ later) = partialsOf frame earlier ++ partialsOf frame later := by
  simp [partialsOf]

/--
Events may be lost, but what comes is in order: a request has a new frame
number, metadata of each kind come with increasing frames, an urgent metadata
does not follow the normal one of its frame, and a black level comes once.
-/
def Lossy (past : List Event) : Event → Prop
  | .request frame _ => ∀ event ∈ past, event.frame < frame
  | .urgent frame =>
    (∀ event ∈ past, event = .urgent event.frame → event.frame < frame) ∧ Event.normal frame ∉ past
  | .normal frame => ∀ event ∈ past, event = .normal event.frame → event.frame < frame
  | .level frame => Event.level frame ∉ past

/--
Losses that the counting makes up for: a normal metadata comes after an urgent
one of its frame or a later one and passes over no raw request, and an urgent
metadata passes over no raw request that has its black level already.
-/
def Tolerated (past : List Event) : Event → Prop
  | .urgent frame =>
    ∀ event ∈ past, event = .request event.frame true →
      event.frame < frame → Event.level event.frame ∈ past →
      urgentSeen past event.frame
  | .normal frame =>
    urgentSeen past frame ∧ ∀ event ∈ past, event = .request event.frame true →
        event.frame < frame → Event.normal event.frame ∈ past
  | _ => True

/--
Every request gets one urgent and then one normal metadata, every raw request
one black level, and each of the three comes in frame order.
-/
def InSequence (past : List Event) : Event → Prop
  | .request frame _ => ∀ event ∈ past, event.frame < frame
  | .urgent frame =>
    (∃ raw ∈ [false, true], Event.request frame raw ∈ past) ∧ Event.urgent frame ∉ past ∧
      ∀ event ∈ past, ∀ raw ∈ [false, true], event = .request event.frame raw →
        event.frame < frame → Event.urgent event.frame ∈ past
  | .normal frame =>
    Event.urgent frame ∈ past ∧ Event.normal frame ∉ past ∧ ∀ event ∈ past, ∀ raw ∈ [false, true],
        event = .request event.frame raw →
        event.frame < frame → Event.normal event.frame ∈ past
  | .level frame =>
    Event.level frame ∉ past ∧ ∀ event ∈ past, event = .request event.frame true →
        event.frame < frame → Event.level event.frame ∈ past

instance (past : List Event) (event : Event) : Decidable (Lossy past event) :=
  match event with
  | .request _ _ => inferInstanceAs (Decidable (∀ event ∈ past, _))
  | .urgent _ => inferInstanceAs (Decidable (_ ∧ _))
  | .normal _ => inferInstanceAs (Decidable (∀ event ∈ past, _))
  | .level _ => inferInstanceAs (Decidable (_ ∉ past))

instance (past : List Event) (event : Event) : Decidable (Tolerated past event) :=
  match event with
  | .urgent _ => inferInstanceAs (Decidable (∀ event ∈ past, _))
  | .normal _ => inferInstanceAs (Decidable (_ ∧ _))
  | .request _ _ | .level _ => isTrue trivial

instance (past : List Event) (event : Event) : Decidable (InSequence past event) :=
  match event with
  | .request _ _ => inferInstanceAs (Decidable (∀ event ∈ past, _))
  | .urgent _ => inferInstanceAs (Decidable (_ ∧ _ ∧ _))
  | .normal _ => inferInstanceAs (Decidable (_ ∧ _ ∧ _))
  | .level _ => inferInstanceAs (Decidable (_ ∧ _))

/-- A condition on each of some events, with those before it. -/
def Along (condition : List Event → Event → Prop) : List Event → List Event → Prop
  | _, [] => True
  | past, event :: rest => condition past event ∧ Along condition (past ++ [event]) rest

instance decidableAlong {condition : List Event → Event → Prop}
    [∀ past event, Decidable (condition past event)] :
    ∀ past events, Decidable (Along condition past events)
  | _, [] => isTrue trivial
  | past, event :: rest =>
    have : Decidable (Along condition (past ++ [event]) rest) :=
      decidableAlong (past ++ [event]) rest
    inferInstanceAs (Decidable (_ ∧ _))

end AnglerHal.Progress
