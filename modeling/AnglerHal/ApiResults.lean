import AnglerHal.ApiAnswers
import AnglerHal.LabelledRun

namespace AnglerHal.ApiResults

open ApiStates

/-!
# The results of the camera API

A thread of the framework locks the API, submits its command, and waits for a
result of its event; while it waits, the lock is free.  Other threads submit
commands and events without waiting.  The thread of the state machine takes the
commands before the events, and adds each result to `m_apiResultList`.

Commands and results are numbered here, and a result knows the command that it
was produced for.  In the source it knows only the event.
-/

/-! ## Commands and results -/

/-- A command that was given to `processAPI`. -/
structure Command where
  id : Nat
  evt : Evt
  deriving DecidableEq

/-- `api_result_list`, a single entry. -/
structure Entry where
  result : ApiResult
  producedFor : Option Nat
  serial : Nat
  deriving DecidableEq

/--
The interface and its state machine.  `results` is `m_apiResultList`, and
`signals` are the results for which `signalAPIResult` does not yet hold the
lock.  `callers` are inside `waitAPIResult`; `opened` are the commands taken and
not yet answered, and `consumed` the results returned.
-/
structure Hal where
  sm : StateMachine
  apiQueue : List Command
  evtQueue : List Evt
  signals : List Entry
  results : List Entry
  callers : List Command
  opened : List Command
  consumed : List Nat
  nextId : Nat
  nextSerial : Nat
  deriving DecidableEq

/-- Before the first command. -/
def Hal.start : Hal where
  sm := .start
  apiQueue := []
  evtQueue := []
  signals := []
  results := []
  callers := []
  opened := []
  consumed := []
  nextId := 0
  nextSerial := 0

/-- The results that no caller has taken. -/
def Hal.entries (hal : Hal) : List Entry :=
  hal.results ++ hal.signals

/-! ## The threads that submit -/

/-- The next command. -/
def Hal.newCommand (hal : Hal) (evt : Evt) : Command where
  id := hal.nextId
  evt := evt

/--
`processAPI`.  It is accepted when the state machine is active and the command
can be allocated and queued.
-/
def processAPI (evt : Evt) (accepted : Bool) (hal : Hal) : Hal :=
  if accepted then
    { hal with
      apiQueue := hal.apiQueue ++ [hal.newCommand evt]
      nextId := hal.nextId + 1 }
  else
    hal

/-- `processEvt`. -/
def processEvt (evt : Evt) (accepted : Bool) (hal : Hal) : Hal :=
  if accepted then
    { hal with evtQueue := hal.evtQueue ++ [evt] }
  else
    hal

/--
`lockAPI`, `processAPI`, and `waitAPIResult` up to its wait.  The lock is held
in between, so that no result can be signalled before the caller waits.
-/
def submit (evt : ApiEvt) (accepted : Bool) (hal : Hal) : Hal :=
  let posted := processAPI (.api evt) accepted hal
  if accepted then
    { posted with callers := hal.callers ++ [hal.newCommand (.api evt)] }
  else
    posted

/-! ## The state machine -/

/-- The results among what the state machine does. -/
def apiResult? : SmOutput → Option ApiResult
  | .signalAPIResult result => some result
  | _ => none

/--
`smEvtProcRoutine` takes a command, or else an event.  It does not come to do
so before the results of the previous one are signalled.
-/
def dequeue (hal : Hal) : Option (Evt × Hal) :=
  if hal.signals ≠ [] then
    none
  else
    match hal.apiQueue, hal.evtQueue with
    | command :: rest, _ =>
      some (command.evt, { hal with
          apiQueue := rest
          opened := command :: hal.opened })
    | [], evt :: rest => some (evt, { hal with evtQueue := rest })
    | [], [] => none

/--
A result is produced for the command that is being processed, if it answers
that, and else for an earlier command that was left open.
-/
def produce
    (hal : Hal)
    (result : ApiResult) : Hal :=
  { hal with
    opened :=
      hal.opened.eraseP fun command => command.evt = result.requestApi
    signals := hal.signals ++
      [{ result := result
         producedFor :=
          (hal.opened.find? fun command =>
            command.evt = result.requestApi).map Command.id
         serial := hal.nextSerial }]
    nextSerial := hal.nextSerial + 1 }

/-- One turn of `smEvtProcRoutine`. -/
def process (parent : Parent) (hal : Hal) : Hal :=
  match dequeue hal with
  | none => hal
  | some (evt, taken) =>
    let done := stateMachine parent evt taken.sm
    (done.2.filterMap apiResult?).foldl produce { taken with sm := done.1 }

/-- `signalAPIResult`; `memory` is the outcome of `malloc`. -/
def signalAPIResult (memory : Bool) (hal : Hal) : Hal :=
  match hal.signals with
  | [] => hal
  | entry :: rest =>
    { hal with
      signals := rest
      results := if memory then hal.results ++ [entry] else hal.results }

/-! ## The threads that wait -/

/-- The search of `waitAPIResult`, and the list without what it finds. -/
def takeResult (evt : Evt) : List Entry → Option (Entry × List Entry)
  | [] => none
  | entry :: rest =>
    if entry.result.requestApi = evt then
      some (entry, rest)
    else
      (takeResult evt rest).map fun taken => (taken.1, entry :: taken.2)

/-- What `waitAPIResult` returns to a caller. -/
structure Returned where
  caller : Command
  entry : Entry
  deriving DecidableEq

/-- `waitAPIResult` after `m_cond` was signalled, or after no signal at all. -/
def waitAPIResult (caller : Command) (hal : Hal) : Hal × List Returned :=
  if caller ∈ hal.callers then
    match takeResult caller.evt hal.results with
    | none => (hal, [])
    | some (entry, rest) =>
      ({ hal with
          results := rest
          callers := hal.callers.erase caller
          consumed := hal.consumed ++ [entry.serial] },
        [{ caller := caller, entry := entry }])
  else
    (hal, [])

/-! ## Runs -/

/-- What a thread does next. -/
inductive HalEvent where
  | submit (evt : ApiEvt) (accepted : Bool)
  | post (evt : Evt) (accepted : Bool)
  | notify (evt : Evt) (accepted : Bool)
  | process (parent : Parent)
  | signal (memory : Bool)
  | wake (caller : Command)

/-- One step of a run. -/
def halStep (hal : Hal) : HalEvent → Option (Hal × List Returned)
  | .submit evt accepted => some (submit evt accepted hal, [])
  | .post evt accepted => some (processAPI evt accepted hal, [])
  | .notify evt accepted => some (processEvt evt accepted hal, [])
  | .process parent => some (process parent hal, [])
  | .signal memory => some (signalAPIResult memory hal, [])
  | .wake caller => some (waitAPIResult caller hal)

/-- The answer to a command is not lost. -/
def Hal.Pending (hal : Hal) (command : Command) : Prop :=
  command ∈ hal.apiQueue ∨ command ∈ hal.opened ∨
    ∃ entry ∈ hal.entries, entry.producedFor = some command.id

/--
What returns was produced for its caller, no result is returned twice, the
list is empty when nobody waits, and a caller still has its answer to come.
-/
structure Sound (hal : Hal) (returned : List Returned) : Prop where
  own : ∀ answer ∈ returned, answer.entry.producedFor = some answer.caller.id
  once : hal.consumed.Nodup
  settled : hal.callers = [] → hal.results = []
  pending : ∀ caller ∈ hal.callers, hal.Pending caller

/-- A step leaves the results with their callers. -/
def SoundStep (hal : Hal) (event : HalEvent) : Prop :=
  ∀ next returned, halStep hal event = some (next, returned) → Sound next returned

/-- The answers that an event gives in a state. -/
def answersTo (parent : Parent) (state : SmState) : Evt → List Evt
  | .api evt => answered parent state evt
  | .internal evt => released parent state evt

/-- The open command that an answer goes to has a caller that waits. -/
def Hal.Awaited (hal : Hal) (evt : Evt) : Prop :=
  ∃ caller ∈ hal.callers, (hal.opened.find? fun command => command.evt = evt) = some caller

instance (hal : Hal) (evt : Evt) : Decidable (hal.Awaited evt) :=
  inferInstanceAs (Decidable (∃ caller ∈ hal.callers,
    (hal.opened.find? fun command => command.evt = evt) = some caller))

/--
When a step does so: a caller is the only one to wait for its event, the state
machine answers only what is waited for, and a result can be allocated.
-/
def Careful (hal : Hal) : HalEvent → Prop
  | .submit evt accepted => accepted = true → ∀ caller ∈ hal.callers, caller.evt ≠ .api evt
  | .process parent =>
    ∀ item ∈ dequeue hal, ∀ evt ∈ answersTo parent item.2.sm.state item.1, item.2.Awaited evt
  | .signal memory => hal.signals ≠ [] → memory = true
  | .post _ _ => True
  | .notify _ _ => True
  | .wake _ => True

instance (hal : Hal) : (event : HalEvent) → Decidable (Careful hal event)
  | .submit evt accepted =>
    inferInstanceAs (Decidable (accepted = true → ∀ caller ∈ hal.callers, caller.evt ≠ .api evt))
  | .process parent =>
    inferInstanceAs (Decidable (∀ item ∈ dequeue hal,
      ∀ evt ∈ answersTo parent item.2.sm.state item.1, item.2.Awaited evt))
  | .signal memory => inferInstanceAs (Decidable (hal.signals ≠ [] → memory = true))
  | .post _ _ => isTrue trivial
  | .notify _ _ => isTrue trivial
  | .wake _ => isTrue trivial

end AnglerHal.ApiResults
