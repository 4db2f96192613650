import AnglerHal.LabelledRun
import Mathlib.Data.Int.Init

namespace AnglerHal.MapAcks

/-!
# Acknowledgements of map and unmap messages

`mm_camera_util_sendmsg` sends one message over the domain socket and waits for
the `CAM_EVENT_TYPE_MAP_UNMAP_DONE` event that acknowledges it.  The calls of
one camera exclude each other by `msg_lock`.  The event thread stores each
acknowledgement in the single slot `evt_rcvd`, which the waiting call clears.

The acknowledgements carry no message number.  The numbers below are those of
the daemon, which answers the messages in the order in which it received them;
the code does not see them.
-/

/-! ## The event slot -/

/-- `CAM_EVENT_TYPE_MAP_UNMAP_DONE`. -/
def camEventTypeMapUnmapDone : Nat :=
  1

/--
`MSM_CAMERA_STATUS_SUCCESS` of the kernel header.  It is not zero, the status
of a cleared event.
-/
structure StatusSuccess where
  code : Nat
  nonzero : code ≠ 0

/-- `evt_rcvd`, with the message whose acknowledgement was stored in it. -/
structure EvtRcvd where
  serverEventType : Nat
  status : Nat
  message : Option Nat
  deriving DecidableEq

/-- `evt_rcvd` after `memset`. -/
def EvtRcvd.cleared : EvtRcvd where
  serverEventType := 0
  status := 0
  message := none

/-- `evt_rcvd` as `mm_camera_event_notify` stores an acknowledgement. -/
def EvtRcvd.stored (status message : Nat) : EvtRcvd where
  serverEventType := camEventTypeMapUnmapDone
  status := status
  message := some message

/-- The condition that ends the loop of `mm_camera_util_wait_for_event`. -/
def EvtRcvd.matches (evtMask : Nat) (event : EvtRcvd) : Bool :=
  event.serverEventType &&& evtMask ≠ 0

/-! ## Calls and the daemon -/

/--
What a call returns, with its message when the socket took it, the message
whose acknowledgement was in the slot that it read, and the acknowledgements
given until then.
-/
structure SendResult where
  message : Option Nat
  rc : Int
  decidedBy : Option Nat
  acks : List Nat
  deriving DecidableEq

/-- Where the call that holds `msg_lock` stands. -/
inductive SendPc where
  | locked
  | sent (message : Nat)
  | waiting (message : Nat)
  | leaving (result : SendResult)
  deriving DecidableEq

/--
`msg_lock` with the thread that holds it and its place in
`mm_camera_util_sendmsg`, the event slot, the number of messages that the
daemon has received, and the statuses of its acknowledgements so far.  A thread
without `msg_lock` has no state of its own in the function.
-/
structure MsgState where
  msgLock : Option (Nat × SendPc)
  evtRcvd : EvtRcvd
  received : Nat
  acks : List Nat
  deriving DecidableEq

/-- The camera after `mm_camera_open`. -/
def MsgState.opened : MsgState where
  msgLock := none
  evtRcvd := .cleared
  received := 0
  acks := []

/-- Steps of the calling threads, of the daemon and of the event thread. -/
inductive MsgEvent where
  | lock (thread : Nat)
  | socketSendmsg (delivered : Bool)
  | testEvent
  | wakeUp (timedOut : Bool)
  | unlock
  | mapUnmapDone (status : Nat)
  deriving DecidableEq

/-- A call has returned to its thread. -/
structure Returned where
  thread : Nat
  rc : Int
  deriving DecidableEq

/-- The end of `mm_camera_util_wait_for_event`, and what its caller makes of it. -/
def MsgState.takeEvent (success : StatusSuccess) (thread message : Nat)
    (state : MsgState) : MsgState :=
  { state with
    msgLock := some (thread, .leaving {
      message := some message
      rc := if success.code = state.evtRcvd.status then 0 else -1
      decidedBy := state.evtRcvd.message
      acks := state.acks })
    evtRcvd := .cleared }

/-- One test of the loop condition, under `evt_lock`. -/
def MsgState.testLoop (success : StatusSuccess) (thread message : Nat)
    (state : MsgState) : MsgState :=
  if state.evtRcvd.matches camEventTypeMapUnmapDone then
    state.takeEvent success thread message
  else
    { state with msgLock := some (thread, .waiting message) }

/--
One step.  `evt_lock` is held from the test of the loop condition until the
wait releases it or the slot has been cleared, so these are single steps.  A
wake-up without a signal is possible and tests the condition again; a wait
that timed out does not test it.
-/
def msgStep (success : StatusSuccess) (state : MsgState) :
    MsgEvent → Option (MsgState × List Returned)
  | .lock thread =>
    match state.msgLock with
    | none => some ({ state with msgLock := some (thread, .locked) }, [])
    | some _ => none
  | .socketSendmsg delivered =>
    match state.msgLock with
    | some (thread, .locked) =>
      if delivered then
        some ({ state with
          msgLock := some (thread, .sent state.received)
          received := state.received + 1 }, [])
      else
        some ({ state with
          msgLock := some (thread, .leaving {
            message := none
            rc := -1
            decidedBy := none
            acks := state.acks }) }, [])
    | _ => none
  | .testEvent =>
    match state.msgLock with
    | some (thread, .sent message) => some (state.testLoop success thread message, [])
    | _ => none
  | .wakeUp timedOut =>
    match state.msgLock with
    | some (thread, .waiting message) =>
      if timedOut then
        some (state.takeEvent success thread message, [])
      else
        some (state.testLoop success thread message, [])
    | _ => none
  | .unlock =>
    match state.msgLock with
    | some (thread, .leaving result) => some ({ state with msgLock := none }, [⟨thread, result.rc⟩])
    | _ => none
  | .mapUnmapDone status =>
    if state.acks.length < state.received then
      some ({ state with
        evtRcvd := .stored status state.acks.length
        acks := state.acks ++ [status] }, [])
    else
      none

/-! ## What a call should return -/

/--
A call returns `0` exactly when its own message was acknowledged with success
before it gave up, and no acknowledgement of another message decided it.
-/
def SoundResult (success : StatusSuccess) (result : SendResult) : Prop :=
  (result.rc = 0 ↔ ∃ message, result.message = some message ∧
        result.acks[message]? = some success.code) ∧
  ∀ message, result.decidedBy = some message → result.message = some message

/-- A call that has its result has a sound one. -/
def MsgState.Sound (success : StatusSuccess) (state : MsgState) : Prop :=
  ∀ thread result, state.msgLock = some (thread, .leaving result) → SoundResult success result

/-- After the step, the call that is about to return has a sound result. -/
def SoundStep (success : StatusSuccess) (state : MsgState) (_ : List MsgEvent)
    (event : MsgEvent) : Prop :=
  ∀ next emitted, msgStep success state event = some (next, emitted) → next.Sound success

/-- The message for which the step ends or tests the loop of the wait. -/
def MsgState.tested (state : MsgState) : MsgEvent → Option Nat
  | .testEvent =>
    match state.msgLock with
    | some (_, .sent message) => some message
    | _ => none
  | .wakeUp _ =>
    match state.msgLock with
    | some (_, .waiting message) => some message
    | _ => none
  | _ => none

/--
When the wait finds an event in the slot, every message that the daemon has
received is acknowledged.
-/
def NoneOutstanding (state : MsgState) (_ : List MsgEvent) (event : MsgEvent) : Prop :=
  ∀ message, state.tested event = some message → state.evtRcvd.matches camEventTypeMapUnmapDone →
      state.acks.length = state.received

/-! ## The invariant -/

@[simp] theorem matches_stored (status message : Nat) :
    (EvtRcvd.stored status message).matches camEventTypeMapUnmapDone =
      true := by
  simp [EvtRcvd.matches, EvtRcvd.stored, camEventTypeMapUnmapDone]

/-- The message that a call inside the wait waits for. -/
def SendPc.awaited : SendPc → Option Nat
  | .sent message => some message
  | .waiting message => some message
  | _ => none

/--
The slot is cleared or holds the latest acknowledgement.  A waiting call waits
for the latest message, which is unanswered while the slot is cleared.
-/
structure MsgInv (success : StatusSuccess) (state : MsgState) : Prop where
  answered : state.acks.length ≤ state.received
  slot : state.evtRcvd = .cleared ∨ ∃ earlier status, state.acks = earlier ++ [status] ∧
          state.evtRcvd = .stored status earlier.length
  latest : ∀ thread pc message, state.msgLock = some (thread, pc) → pc.awaited = some message →
        message + 1 = state.received ∧ (state.evtRcvd = .cleared → state.acks.length ≤ message)
  sound : state.Sound success

theorem opened_invariant (success : StatusSuccess) : MsgInv success .opened where
  answered := Nat.le_refl _
  slot := Or.inl rfl
  latest := by
    intro thread pc message held
    cases held
  sound := by
    intro thread result held
    cases held

section Steps

variable {success : StatusSuccess} {state next : MsgState} {emitted : List Returned}
  {thread message : Nat}
  {pc : SendPc}

theorem takeEvent_sound_iff (inv : MsgInv success state) (held : state.msgLock = some (thread, pc))
    (awaits : pc.awaited = some message) :
    (state.takeEvent success thread message).Sound success ↔
      (state.evtRcvd.matches camEventTypeMapUnmapDone → state.acks.length = state.received) := by
  obtain ⟨isLatest, unanswered⟩ := inv.latest thread pc message held awaits
  have unfolds : (state.takeEvent success thread message).Sound success ↔ SoundResult success {
          message := some message
          rc := if success.code = state.evtRcvd.status then 0 else -1
          decidedBy := state.evtRcvd.message
          acks := state.acks } := by
    constructor
    · intro sound
      exact sound thread _ rfl
    · intro sound other result leaves
      cases leaves
      exact sound
  rw [unfolds]
  rcases inv.slot with cleared | ⟨earlier, status, acked, stored⟩
  · have own : state.acks[message]? = none := List.getElem?_eq_none (unanswered cleared)
    have failed : success.code ≠ EvtRcvd.cleared.status := success.nonzero
    rw [cleared, if_neg failed]
    refine iff_of_true ?_ (fun isSet => by cases isSet)
    simp [SoundResult, own, EvtRcvd.cleared]
  · rw [stored, acked]
    simp only [matches_stored, true_implies, List.length_append, List.length_singleton]
    constructor
    · rintro ⟨_, decided⟩
      have same : some message = some earlier.length := decided earlier.length rfl
      cases same
      exact isLatest
    · intro allAnswered
      have own : earlier.length = message := by omega
      subst own
      constructor
      · by_cases succeeded : success.code = status
        · simp [EvtRcvd.stored, succeeded]
        · have failed : ¬ status = success.code := fun equal => succeeded equal.symm
          simp [EvtRcvd.stored, succeeded, failed]
      · intro decided isStored
        exact isStored

theorem testLoop_sound_iff (inv : MsgInv success state) (held : state.msgLock = some (thread, pc))
    (awaits : pc.awaited = some message) :
    (state.testLoop success thread message).Sound success ↔
      (state.evtRcvd.matches camEventTypeMapUnmapDone → state.acks.length = state.received) := by
  rw [MsgState.testLoop]
  by_cases isSet : state.evtRcvd.matches camEventTypeMapUnmapDone
  · rw [if_pos isSet]
    exact takeEvent_sound_iff inv held awaits
  · rw [if_neg isSet]
    refine iff_of_true ?_ (fun found => absurd found isSet)
    intro other result leaves
    cases leaves

theorem takeEvent_invariant (inv : MsgInv success state)
    (sound : (state.takeEvent success thread message).Sound success) :
    MsgInv success (state.takeEvent success thread message) where
  answered := inv.answered
  slot := Or.inl rfl
  latest := by
    intro other pc awaited held awaits
    cases held
    cases awaits
  sound := sound

theorem testLoop_invariant (inv : MsgInv success state) (held : state.msgLock = some (thread, pc))
    (awaits : pc.awaited = some message)
    (sound : (state.testLoop success thread message).Sound success) :
    MsgInv success (state.testLoop success thread message) := by
  rw [MsgState.testLoop] at sound ⊢
  by_cases isSet : state.evtRcvd.matches camEventTypeMapUnmapDone
  · rw [if_pos isSet] at sound ⊢
    exact takeEvent_invariant inv sound
  · rw [if_neg isSet] at sound ⊢
    exact {
      answered := inv.answered
      slot := inv.slot
      latest := by
        intro other pc' awaited held' awaits'
        cases held'
        cases awaits'
        exact inv.latest thread pc message held awaits
      sound := sound }

end Steps

/-! ## Runs -/

section Runs

variable {success : StatusSuccess} {state next : MsgState} {past : List MsgEvent} {event : MsgEvent}
  {emitted : List Returned}

theorem sound_of_untested (inv : MsgInv success state) (untested : state.tested event = none)
    (stepped : msgStep success state event = some (next, emitted)) :
    MsgInv success next := by
  obtain ⟨answered, slot, latest, sound⟩ := inv
  cases event with
  | lock thread =>
    simp only [msgStep] at stepped
    split at stepped
    · cases stepped
      refine ⟨answered, slot, ?_, ?_⟩
      · intro other pc message held awaits
        cases held
        cases awaits
      · intro other result leaves
        cases leaves
    · cases stepped
  | socketSendmsg delivered =>
    simp only [msgStep] at stepped
    split at stepped
    · rename_i thread held
      cases delivered with
      | true =>
        cases stepped
        refine ⟨Nat.le_succ_of_le answered, slot, ?_, ?_⟩
        · intro other pc message held' awaits
          cases held'
          cases awaits
          exact ⟨rfl, fun _ => answered⟩
        · intro other result leaves
          cases leaves
      | false =>
        cases stepped
        refine ⟨answered, slot, ?_, ?_⟩
        · intro other pc message held' awaits
          cases held'
          cases awaits
        · intro other result leaves
          cases leaves
          simp [SoundResult]
    · cases stepped
  | testEvent =>
    simp only [msgStep] at stepped
    split at stepped
    · rename_i thread message held
      simp [MsgState.tested, held] at untested
    · cases stepped
  | wakeUp timedOut =>
    simp only [msgStep] at stepped
    split at stepped
    · rename_i thread message held
      simp [MsgState.tested, held] at untested
    · cases stepped
  | unlock =>
    simp only [msgStep] at stepped
    split at stepped
    · cases stepped
      refine ⟨answered, slot, ?_, ?_⟩
      · intro other pc message held
        cases held
      · intro other result leaves
        cases leaves
    · cases stepped
  | mapUnmapDone status =>
    simp only [msgStep] at stepped
    split at stepped
    · rename_i outstanding
      cases stepped
      refine ⟨?_, ?_, ?_, sound⟩
      · simpa using Nat.succ_le_of_lt outstanding
      · exact Or.inr ⟨state.acks, status, rfl, rfl⟩
      · intro other pc message held awaits
        refine ⟨(latest other pc message held awaits).1, ?_⟩
        intro cleared
        cases cleared
    · cases stepped

theorem step_of_tested {message : Nat} (tested : state.tested event = some message)
    (stepped : msgStep success state event = some (next, emitted)) :
    ∃ thread pc, state.msgLock = some (thread, pc) ∧ pc.awaited = some message ∧
        (next = state.takeEvent success thread message ∨
          next = state.testLoop success thread message) := by
  cases event with
  | testEvent =>
    simp only [MsgState.tested] at tested
    split at tested
    · rename_i thread awaited held
      cases tested
      simp only [msgStep, held, Option.some.injEq, Prod.mk.injEq] at stepped
      exact ⟨thread, _, held, rfl, Or.inr stepped.1.symm⟩
    · cases tested
  | wakeUp timedOut =>
    simp only [MsgState.tested] at tested
    split at tested
    · rename_i thread awaited held
      cases tested
      cases timedOut with
      | true =>
        simp only [msgStep, held, ↓reduceIte, Option.some.injEq, Prod.mk.injEq] at stepped
        exact ⟨thread, _, held, rfl, Or.inl stepped.1.symm⟩
      | false =>
        simp only [msgStep, held, Bool.false_eq_true, ↓reduceIte,
          Option.some.injEq, Prod.mk.injEq] at stepped
        exact ⟨thread, _, held, rfl, Or.inr stepped.1.symm⟩
    · cases tested
  | lock | socketSendmsg | unlock | mapUnmapDone => cases tested

theorem soundStep_iff (inv : MsgInv success state) : SoundStep success state past event ↔
      NoneOutstanding state past event := by
  constructor
  · intro sound message tested
    have defined : ∃ next emitted, msgStep success state event = some (next, emitted) := by
      cases event with
      | testEvent =>
        simp only [MsgState.tested] at tested
        split at tested
        · rename_i thread awaited held
          exact ⟨_, _, by simp only [msgStep, held]; rfl⟩
        · cases tested
      | wakeUp timedOut =>
        simp only [MsgState.tested] at tested
        split at tested
        · rename_i thread awaited held
          cases timedOut with
          | true => exact ⟨_, _, by simp only [msgStep, held, ↓reduceIte]; rfl⟩
          | false =>
            exact ⟨_, _, by
              simp only [msgStep, held, Bool.false_eq_true, ↓reduceIte]
              rfl⟩
        · cases tested
      | lock | socketSendmsg | unlock | mapUnmapDone => cases tested
    obtain ⟨next, emitted, stepped⟩ := defined
    have nextSound := sound next emitted stepped
    obtain ⟨thread, pc, held, awaits, taken | looped⟩ := step_of_tested tested stepped
    · subst taken
      exact (takeEvent_sound_iff inv held awaits).mp nextSound
    · subst looped
      exact (testLoop_sound_iff inv held awaits).mp nextSound
  · intro noneOutstanding next emitted stepped
    cases tested : state.tested event with
    | none => exact (sound_of_untested inv tested stepped).sound
    | some message =>
      obtain ⟨thread, pc, held, awaits, taken | looped⟩ := step_of_tested tested stepped
      · subst taken
        exact (takeEvent_sound_iff inv held awaits).mpr (noneOutstanding message tested)
      · subst looped
        exact (testLoop_sound_iff inv held awaits).mpr (noneOutstanding message tested)

theorem step_invariant (inv : MsgInv success state) (sound : SoundStep success state past event)
    (stepped : msgStep success state event = some (next, emitted)) :
    MsgInv success next := by
  have nextSound := sound next emitted stepped
  cases tested : state.tested event with
  | none => exact sound_of_untested inv tested stepped
  | some message =>
    obtain ⟨thread, pc, held, awaits, taken | looped⟩ := step_of_tested tested stepped
    · subst taken
      exact takeEvent_invariant inv nextSound
    · subst looped
      exact testLoop_invariant inv held awaits nextSound

/--
All calls of a run get sound results exactly if every call that finds an event
in the slot finds it when no received message is unacknowledged.
-/
theorem msgRun_sound_iff (success : StatusSuccess) (events : List MsgEvent) :
    LabelledRun.Guarded (msgStep success) (SoundStep success) .opened [] events ↔
      LabelledRun.Guarded (msgStep success) NoneOutstanding .opened [] events := by
  refine LabelledRun.guarded_iff_of_invariant (MsgInv success)
    (fun inv => soundStep_iff inv) ?_ (opened_invariant success)
  intro state past event next emitted inv sound stepped
  exact step_invariant inv sound stepped

end Runs

/-- A success status other than zero, such as `StatusSuccess` asks for. -/
def kernelSuccess : StatusSuccess where
  code := 1
  nonzero := Nat.one_ne_zero

/--
The wait for the first message times out.  Its acknowledgement arrives while
the second call is about to wait, which returns `0` although its own message is
still unanswered.
-/
theorem msgRun_lateAcknowledgement :
    ¬ LabelledRun.Guarded (msgStep kernelSuccess) (SoundStep kernelSuccess) .opened []
      ([MsgEvent.lock 1, .socketSendmsg true, .testEvent, .wakeUp true,
        .unlock, .lock 2, .socketSendmsg true, .mapUnmapDone 1] ++ [MsgEvent.testEvent]) := by
  intro sound
  have result :=
    (sound.last rfl) _ _ rfl 2 { message := some 1, rc := 0, decidedBy := some 0, acks := [1] } rfl
  have own : some 1 = some 0 := result.2 0 rfl
  cases own

end AnglerHal.MapAcks
