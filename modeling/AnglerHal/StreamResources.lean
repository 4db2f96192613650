import AnglerHal.StreamStates

namespace AnglerHal.StreamStates

open ChannelStart (MmStream StreamEnv StreamState deinitBufs initBufs regBuf
  streamFsmActive streamFsmBuffed streamFsmCfg streamFsmReg unregBuf)

/-!
# The resources of a stream in every state

The fd and the buffers always go with the state.  The promises that fail are
about events: configuring an acquired stream changes its state also when it
fails, the handlers of all states in use return `0` for an event without a
case, and the thread is launched for the callbacks that a start finds and
released for those that the stop finds.
-/

/-! ## What the state promises -/

/-- The states in which the fd is open. -/
def fdOpen : StreamState → Bool
  | .acquired | .cfg | .buffed | .reg | .active => true
  | .notUsed | .inited => false

/-- The states in which the buffers are allocated. -/
def buffered : StreamState → Bool
  | .buffed | .reg | .active => true
  | .notUsed | .inited | .acquired | .cfg => false

/-- The events that the handler of a state has a case for. -/
def handles : StreamState → FsmEvt → Bool
  | .inited, .acquire => true
  | .acquired, .setFmt | .acquired, .release => true
  | .acquired, .setParm | .acquired, .getParm => true
  | .cfg, .setFmt | .cfg, .release | .cfg, .channel .getBuf => true
  | .cfg, .setParm | .cfg, .getParm => true
  | .buffed, .channel .putBuf | .buffed, .channel .regBuf => true
  | .buffed, .setParm | .buffed, .getParm => true
  | .reg, .channel .unregBuf | .reg, .channel .start => true
  | .reg, .setParm | .reg, .getParm => true
  | .active, .qbuf | .active, .getQueuedBufCount => true
  | .active, .channel .stop => true
  | .active, .setParm | .active, .getParm | .active, .doAction => true
  | _, _ => false

/-- The events that are to leave the state as it was when they fail. -/
def undone : FsmEvt → Bool
  | .acquire | .setFmt => true
  | .channel .getBuf | .channel .regBuf | .channel .start => true
  | _ => false

/-- The state determines the resources. -/
structure Resources (stream : FsmStream) : Prop where
  fd : stream.fd.isSome = fdOpen stream.state
  buf : stream.buf.isSome = buffered stream.state
  thread : stream.cmdThread = true → stream.state = .active

/-- A thread is launched while none runs, and released while one does. -/
def alternates : Bool → List ThreadCall → Bool
  | _, [] => true
  | running, .launch :: rest => !running && alternates true rest
  | running, .release :: rest => running && alternates false rest

/-- What an event of the state machine is to do. -/
structure FsmSound (stream : FsmStream) (evt : FsmEvt) (after : Reply) : Prop where
  resources : Resources after.stream
  thread : alternates stream.cmdThread after.calls = true
  failed : undone evt = true → after.rc ≠ 0 → after.stream.state = stream.state
  unhandled : handles stream.state evt = false →
      after.stream = stream ∧ after.calls = [] ∧ after.rc ≠ 0

/-- What an event of the run is to do. -/
def Sound (stream : FsmStream) (event : StreamEvent) : Prop :=
  match event with
  | .fsm env evt => FsmSound stream evt (fsmFn env evt stream)
  | _ => Resources (reply event stream).stream

/-- Every event of the run does what it is to do, and threads alternate. -/
structure SoundRun (initial : FsmStream) (events : List StreamEvent) : Prop where
  steps : LabelledRun.Guarded streamStep
      (fun stream _ event => Sound stream event) initial [] events
  threads : ∀ {final log}, LabelledRun.run? streamStep initial events = some (final, log) →
        alternates initial.cmdThread log = true

/-- When an event does what it is to do. -/
def Harmless (stream : FsmStream) : StreamEvent → Prop
  | .fsm env evt =>
    match stream.state, evt with
    | .notUsed, _ => True
    | .acquired, .setFmt => env.syncInfoRc = 0 ∧ env.setFmtRc = 0
    | .reg, .channel .start => stream.hasCb = true → env.streamOnRc ≠ 0 → env.exitMemory = true
    | .active, .channel .stop => (stream.hasCb && env.exitMemory) = stream.cmdThread
    | state, evt => handles state evt = true
  | _ => True

variable {stream : FsmStream} {evt : FsmEvt} {rc : Int} {event : StreamEvent}

theorem sound_of_handled {after : Reply} (handled : handles stream.state evt = true)
    (resources : Resources after.stream)
    (thread : alternates stream.cmdThread after.calls = true)
    (failed : undone evt = true → after.rc ≠ 0 → after.stream.state = stream.state) :
    FsmSound stream evt after where
  resources := resources
  thread := thread
  failed := failed
  unhandled := fun unhandled => by simp [handled] at unhandled

theorem sound_of_same (resources : Resources stream)
    (handled : handles stream.state evt = true) :
    FsmSound stream evt { stream := stream, rc := rc } :=
  sound_of_handled handled resources rfl (fun _ _ => rfl)

/-- An event that its state ignores is answered with 0. -/
theorem ignored_sound_iff (unhandled : handles stream.state evt = false) :
    FsmSound stream evt { stream := stream, rc := 0 } ↔ false = true :=
  iff_of_false (fun sound => (sound.unhandled unhandled).2.2 rfl) Bool.false_ne_true

theorem fsmNotUsed_sound (evt : FsmEvt) (resources : Resources stream) :
    FsmSound stream evt { stream := stream, rc := -1 } where
  resources := resources
  thread := rfl
  failed := fun _ _ => rfl
  unhandled := fun _ => ⟨rfl, rfl, by simp⟩

theorem fsmInited_sound_iff (env : FsmEnv) (evt : FsmEvt) (resources : Resources stream)
    (atState : stream.state = .inited) :
    FsmSound stream evt (fsmInited env evt stream) ↔ Harmless stream (.fsm env evt) := by
  have handled : handles stream.state evt = handles .inited evt := by
    rw [atState]
  simp only [Harmless, atState]
  cases evt with
  | acquire =>
    have closed : Resources { stream with fd := none } :=
      ⟨by simp [atState, fdOpen], resources.buf, resources.thread⟩
    refine iff_of_true ?_ rfl
    simp only [fsmInited]
    split
    · exact sound_of_same resources handled
    · split
      · exact sound_of_handled handled closed rfl (fun _ _ => rfl)
      · split
        · refine sound_of_handled handled ⟨rfl, ?_, ?_⟩ rfl ?_
          · simpa [atState, buffered] using resources.buf
          · simpa [atState] using resources.thread
          · simp
        · exact sound_of_handled handled closed rfl (fun _ _ => rfl)
  | _ => exact ignored_sound_iff handled

theorem released_resources (resources : Resources stream)
    (idle : stream.state ≠ .active) :
    Resources { streamRelease stream with state := .notUsed } where
  fd := rfl
  buf := rfl
  thread := fun running => absurd (resources.thread running) idle

theorem configured_resources (env : FsmEnv) (resources : Resources stream)
    (opened : fdOpen stream.state = true) (empty : buffered stream.state = false)
    (idle : stream.state ≠ .active) :
    Resources { (streamConfig env stream).1 with state := .cfg } := by
  have kept : (streamConfig env stream).1.fd = stream.fd ∧
        (streamConfig env stream).1.buf = stream.buf ∧
        (streamConfig env stream).1.cmdThread = stream.cmdThread := by
    unfold streamConfig
    dsimp only
    split <;> exact ⟨rfl, rfl, rfl⟩
  refine ⟨?_, ?_, ?_⟩
  · rw [kept.1, resources.fd, opened]
    rfl
  · rw [kept.2.1, resources.buf, empty]
    rfl
  · intro running
    exact absurd (resources.thread (kept.2.2 ▸ running)) idle

theorem streamConfig_rc (env : FsmEnv) (stream : FsmStream) : (streamConfig env stream).2 = 0 ↔
      env.syncInfoRc = 0 ∧ env.setFmtRc = 0 := by
  unfold streamConfig
  dsimp only
  split
  · next synced => simp [synced]
  · next failed => simp [failed]

theorem fsmAcquired_sound_iff (env : FsmEnv) (evt : FsmEvt)
    (resources : Resources stream) (atState : stream.state = .acquired) :
    FsmSound stream evt (fsmAcquired env evt stream) ↔ Harmless stream (.fsm env evt) := by
  have idle : stream.state ≠ .active := by simp [atState]
  have handled : handles stream.state evt = handles .acquired evt := by
    rw [atState]
  simp only [Harmless, atState]
  cases evt with
  | setFmt =>
    simp only [fsmAcquired]
    rw [← streamConfig_rc env stream]
    constructor
    · intro sound
      by_contra failed
      simpa [atState] using sound.failed rfl failed
    · intro succeeded
      refine sound_of_handled handled ?_ rfl ?_
      · exact configured_resources env resources
          (by simp [atState, fdOpen]) (by simp [atState, buffered]) idle
      · exact fun _ failed => absurd succeeded failed
  | release =>
    refine iff_of_true (sound_of_handled handled ?_ rfl ?_) rfl
    · exact released_resources resources idle
    · simp [undone]
  | setParm | getParm => exact iff_of_true (sound_of_same resources handled) rfl
  | _ => exact ignored_sound_iff handled

theorem Resources.noThread (resources : Resources stream)
    (idle : stream.state ≠ .active) :
    stream.cmdThread = false :=
  Bool.eq_false_iff.mpr fun running => idle (resources.thread running)

theorem reply_sound_iff {stream : FsmStream} {evt : FsmEvt} {mm : MmStream} {rc : Int}
    {calls : List ThreadCall} (handled : handles stream.state evt = true)
    (resources : Resources stream) (opened : fdOpen stream.state = true)
    (stays : fdOpen mm.state = true) (buf : mm.buf.isSome = buffered mm.state)
    (failed : undone evt = true → rc ≠ 0 → mm.state = stream.state) :
    FsmSound stream evt ((stream.update mm).reply rc calls) ↔
      alternates stream.cmdThread calls = true ∧
        (threadAfter stream.cmdThread calls = true → mm.state = .active) := by
  constructor
  · intro sound
    exact ⟨sound.thread, sound.resources.thread⟩
  · rintro ⟨alternating, thread⟩
    refine sound_of_handled handled ⟨?_, buf, thread⟩ alternating failed
    exact resources.fd.trans (opened.trans stays.symm)

theorem update_sound {mm : MmStream} (handled : handles stream.state evt = true)
    (resources : Resources stream) (idle : stream.state ≠ .active)
    (opened : fdOpen stream.state = true) (stays : fdOpen mm.state = true)
    (buf : mm.buf.isSome = buffered mm.state)
    (failed : undone evt = true → rc ≠ 0 → mm.state = stream.state) :
    FsmSound stream evt { stream := stream.update mm, rc := rc } :=
  (@reply_sound_iff stream evt mm rc [] handled resources opened stays buf
    failed).mpr ⟨rfl, fun running =>
      absurd (resources.thread running) idle⟩

theorem getBuf_outcome (env : StreamEnv) (stream : MmStream) (empty : stream.buf = none)
    (atState : stream.state = .cfg) :
    let after := streamFsmCfg env .getBuf stream
    after.1.buf.isSome = buffered after.1.state ∧ fdOpen after.1.state = true ∧
      (after.2 ≠ 0 → after.1.state = .cfg) := by
  simp only [streamFsmCfg, initBufs, deinitBufs, empty]
  split_ifs <;> simp_all [buffered, fdOpen]

theorem fsmCfg_sound_iff (env : FsmEnv) (evt : FsmEvt) (resources : Resources stream)
    (atState : stream.state = .cfg) :
    FsmSound stream evt (fsmCfg env evt stream) ↔ Harmless stream (.fsm env evt) := by
  have idle : stream.state ≠ .active := by simp [atState]
  have handled : handles stream.state evt = handles .cfg evt := by
    rw [atState]
  simp only [Harmless, atState]
  cases evt with
  | setFmt =>
    refine iff_of_true (sound_of_handled handled ?_ rfl ?_) rfl
    · exact configured_resources env resources
        (by simp [atState, fdOpen]) (by simp [atState, buffered]) idle
    · exact fun _ _ => atState.symm
  | release =>
    refine iff_of_true (sound_of_handled handled ?_ rfl ?_) rfl
    · exact released_resources resources idle
    · simp [undone]
  | setParm | getParm => exact iff_of_true (sound_of_same resources handled) rfl
  | channel evt =>
    cases evt with
    | getBuf =>
      have empty : stream.buf = none := by
        simpa [atState, buffered] using resources.buf
      obtain ⟨allocated, opened, failed⟩ :=
        getBuf_outcome env.toStreamEnv stream.mm empty atState
      refine iff_of_true (update_sound handled resources idle ?_ opened allocated ?_) rfl
      · rw [atState]
        rfl
      · exact fun _ refused => (failed refused).trans atState.symm
    | _ => exact ignored_sound_iff handled
  | _ => exact ignored_sound_iff handled

theorem regBuf_outcome (env : StreamEnv) (stream : MmStream) (allocated : stream.buf.isSome = true)
    (atState : stream.state = .buffed) :
    let after := streamFsmBuffed env .regBuf stream
    after.1.buf.isSome = buffered after.1.state ∧ fdOpen after.1.state = true ∧
      (after.2 ≠ 0 → after.1.state = .buffed) := by
  simp only [streamFsmBuffed, regBuf]
  split_ifs <;> simp_all [buffered, fdOpen]

theorem fsmBuffed_sound_iff (env : FsmEnv) (evt : FsmEvt) (resources : Resources stream)
    (atState : stream.state = .buffed) :
    FsmSound stream evt (fsmBuffed env evt stream) ↔ Harmless stream (.fsm env evt) := by
  have idle : stream.state ≠ .active := by simp [atState]
  have opened : fdOpen stream.state = true := by simp [atState, fdOpen]
  have handled : handles stream.state evt = handles .buffed evt := by
    rw [atState]
  simp only [Harmless, atState]
  cases evt with
  | setParm | getParm => exact iff_of_true (sound_of_same resources handled) rfl
  | channel evt =>
    cases evt with
    | putBuf =>
      refine iff_of_true (update_sound handled resources idle opened rfl ?_ ?_) rfl
      · show (deinitBufs env.toStreamEnv stream.mm).1.buf.isSome = false
        rw [deinitBufs_frame]
        rfl
      · simp [undone]
    | regBuf =>
      have allocated : stream.buf.isSome = true := by
        simpa [atState, buffered] using resources.buf
      obtain ⟨kept, stays, failed⟩ :=
        regBuf_outcome env.toStreamEnv stream.mm allocated atState
      refine iff_of_true (update_sound handled resources idle opened stays kept ?_) rfl
      exact fun _ refused => (failed refused).trans atState.symm
    | _ => exact ignored_sound_iff handled
  | _ => exact ignored_sound_iff handled

theorem fsmReg_start (env : FsmEnv) (stream : FsmStream) : fsmReg env (.channel .start) stream =
      (stream.update (streamFsmReg env.toStreamEnv .start stream.mm).1).reply
          (streamFsmReg env.toStreamEnv .start stream.mm).2
          (startCalls env stream) :=
  rfl

theorem fsmReg_unregBuf (env : FsmEnv) (stream : FsmStream) :
    fsmReg env (.channel .unregBuf) stream = {
      stream := stream.update (streamFsmReg env.toStreamEnv .unregBuf stream.mm).1
      rc := (streamFsmReg env.toStreamEnv .unregBuf stream.mm).2 } :=
  rfl

theorem start_outcome (env : StreamEnv) (stream : MmStream) (atState : stream.state = .reg) :
    (streamFsmReg env .start stream).1.buf = stream.buf ∧ (streamFsmReg env .start stream).1.state =
        (if env.streamOnRc = 0 then .active else .reg) ∧
      (streamFsmReg env .start stream).2 = env.streamOnRc := by
  by_cases on : env.streamOnRc = 0 <;>
    simp [streamFsmReg, on, atState]

theorem startCalls_alternate (env : FsmEnv) (stream : FsmStream) :
    alternates false (startCalls env stream) = true := by
  unfold startCalls releaseCalls
  split_ifs <;> rfl

theorem threadAfter_startCalls (env : FsmEnv) (stream : FsmStream) :
    threadAfter false (startCalls env stream) = true ↔ stream.hasCb = true ∧
        (env.streamOnRc ≠ 0 → env.exitMemory = false) := by
  cases called : stream.hasCb <;> cases memory : env.exitMemory <;>
    by_cases on : env.streamOnRc = 0 <;>
    simp [startCalls, releaseCalls, called, memory, on, threadAfter]

theorem fsmReg_sound_iff (env : FsmEnv) (evt : FsmEvt) (resources : Resources stream)
    (atState : stream.state = .reg) :
    FsmSound stream evt (fsmReg env evt stream) ↔ Harmless stream (.fsm env evt) := by
  have idle : stream.state ≠ .active := by simp [atState]
  have opened : fdOpen stream.state = true := by simp [atState, fdOpen]
  have allocated : stream.buf.isSome = true := by
    simpa [atState, buffered] using resources.buf
  have handled : handles stream.state evt = handles .reg evt := by
    rw [atState]
  simp only [Harmless, atState]
  cases evt with
  | setParm | getParm => exact iff_of_true (sound_of_same resources handled) rfl
  | channel evt =>
    cases evt with
    | unregBuf =>
      have kept : (streamFsmReg env.toStreamEnv .unregBuf stream.mm).1.buf.isSome =
            true := by
        simpa [streamFsmReg, unregBuf, FsmStream.mm] using allocated
      refine iff_of_true ?_ rfl
      rw [fsmReg_unregBuf]
      exact update_sound handled resources idle opened rfl kept (by simp [undone])
    | start =>
      obtain ⟨kept, state, rc⟩ := start_outcome env.toStreamEnv stream.mm atState
      rw [fsmReg_start, rc, reply_sound_iff handled resources opened,
        resources.noThread idle, threadAfter_startCalls, state]
      · by_cases on : env.streamOnRc = 0 <;>
          simp [startCalls_alternate, on]
      · rw [state]
        split <;> rfl
      · rw [kept, state]
        split <;> exact allocated
      · intro _ failed
        rw [state, if_neg failed, atState]
    | _ => exact ignored_sound_iff handled
  | _ => exact ignored_sound_iff handled

theorem fsmActive_stop (env : FsmEnv) (stream : FsmStream) : fsmActive env (.channel .stop) stream =
      (stream.update (streamFsmActive env.toStreamEnv .stop stream.mm).1).reply
          (streamFsmActive env.toStreamEnv .stop stream.mm).2
          (stopCalls env stream) :=
  rfl

theorem stopCalls_sound (env : FsmEnv) (stream : FsmStream) :
    (alternates stream.cmdThread (stopCalls env stream) = true ∧
        ¬ threadAfter stream.cmdThread (stopCalls env stream) = true) ↔
      (stream.hasCb && env.exitMemory) = stream.cmdThread := by
  cases called : stream.hasCb <;> cases memory : env.exitMemory <;>
    cases running : stream.cmdThread <;>
    simp [stopCalls, releaseCalls, called, memory, alternates, threadAfter]

theorem fsmActive_sound_iff (env : FsmEnv) (evt : FsmEvt) (resources : Resources stream)
    (atState : stream.state = .active) :
    FsmSound stream evt (fsmActive env evt stream) ↔ Harmless stream (.fsm env evt) := by
  have opened : fdOpen stream.state = true := by simp [atState, fdOpen]
  have allocated : stream.buf.isSome = true := by
    simpa [atState, buffered] using resources.buf
  have handled : handles stream.state evt = handles .active evt := by
    rw [atState]
  simp only [Harmless, atState]
  cases evt with
  | qbuf =>
    refine iff_of_true (sound_of_handled handled ?_ rfl ?_) rfl
    · exact ⟨resources.fd, by simpa [fsmActive] using resources.buf, resources.thread⟩
    · simp [undone]
  | getQueuedBufCount | setParm | getParm | doAction =>
    exact iff_of_true (sound_of_same resources handled) rfl
  | channel evt =>
    cases evt with
    | stop =>
      rw [← stopCalls_sound, fsmActive_stop,
        reply_sound_iff handled resources opened rfl allocated (by simp [undone])]
      simp [streamFsmActive]
    | _ => exact ignored_sound_iff handled
  | _ => exact ignored_sound_iff handled

theorem sound_iff_harmless (resources : Resources stream) :
    Sound stream event ↔ Harmless stream event := by
  cases event with
  | fsm env evt =>
    simp only [Sound, fsmFn]
    cases atState : stream.state with
    | notUsed =>
      refine iff_of_true (fsmNotUsed_sound evt resources) ?_
      simp [Harmless, atState]
    | inited => exact fsmInited_sound_iff env evt resources atState
    | acquired => exact fsmAcquired_sound_iff env evt resources atState
    | cfg => exact fsmCfg_sound_iff env evt resources atState
    | buffed => exact fsmBuffed_sound_iff env evt resources atState
    | reg => exact fsmReg_sound_iff env evt resources atState
    | active => exact fsmActive_sound_iff env evt resources atState
  | regBufCb cbCount => exact iff_of_true ⟨resources.fd, resources.buf, resources.thread⟩ trivial
  | dispatchAppData =>
    refine iff_of_true ?_ trivial
    simp only [Sound, reply]
    split <;> exact ⟨resources.fd, resources.buf, resources.thread⟩
  | countRefs change =>
    refine iff_of_true ⟨resources.fd, ?_, resources.thread⟩ trivial
    simpa [reply] using resources.buf

theorem Sound.resources (sound : Sound stream event) :
    Resources (reply event stream).stream := by
  cases event with
  | fsm env evt => exact FsmSound.resources sound
  | _ => exact sound

theorem Sound.alternates (sound : Sound stream event) :
    alternates stream.cmdThread (reply event stream).calls = true := by
  cases event with
  | fsm env evt => exact FsmSound.thread sound
  | dispatchAppData =>
    simp only [reply]
    split <;> rfl
  | _ => rfl

theorem streamConfig_thread (env : FsmEnv) (stream : FsmStream) :
    (streamConfig env stream).1.cmdThread = stream.cmdThread := by
  unfold streamConfig
  dsimp only
  split <;> rfl

theorem threadAfter_fsmFn (env : FsmEnv) (evt : FsmEvt) (stream : FsmStream) :
    threadAfter stream.cmdThread (fsmFn env evt stream).calls =
      (fsmFn env evt stream).stream.cmdThread := by
  unfold fsmFn
  cases stream.state with
  | notUsed => rfl
  | inited =>
    cases evt with
    | acquire =>
      simp only [fsmInited]
      split
      · rfl
      · split
        · rfl
        · split <;> rfl
    | _ => rfl
  | acquired | cfg =>
    cases evt with
    | setFmt => exact (streamConfig_thread env stream).symm
    | _ => rfl
  | buffed => cases evt <;> rfl
  | reg => cases evt <;> rfl
  | active => cases evt <;> rfl

theorem alternates_append (running : Bool) (calls later : List ThreadCall) :
    alternates running (calls ++ later) = (alternates running calls &&
        alternates (threadAfter running calls) later) := by
  induction calls generalizing running with
  | nil => rfl
  | cons call rest inductionHypothesis =>
    cases call <;>
      simp [alternates, threadAfter, inductionHypothesis, Bool.and_assoc]

theorem threadAfter_append (running : Bool) (calls later : List ThreadCall) :
    threadAfter running (calls ++ later) = threadAfter (threadAfter running calls) later := by
  induction calls generalizing running with
  | nil => rfl
  | cons call rest inductionHypothesis => cases call <;> simp [threadAfter, inductionHypothesis]

theorem threadAfter_reply (event : StreamEvent) (stream : FsmStream) :
    threadAfter stream.cmdThread (reply event stream).calls =
      (reply event stream).stream.cmdThread := by
  cases event with
  | fsm env evt => exact threadAfter_fsmFn env evt stream
  | dispatchAppData =>
    simp only [reply]
    split <;> rfl
  | _ => rfl

/-! ## Runs of a stream -/

/-- A stream that `mm_channel_add_stream` has set up. -/
structure FsmStream.Inited (stream : FsmStream) : Prop where
  state : stream.state = .inited
  fd : stream.fd = none
  buf : stream.buf = none
  cmdThread : stream.cmdThread = false

theorem FsmStream.Inited.resources (inited : stream.Inited) :
    Resources stream where
  fd := by simp [inited.fd, inited.state, fdOpen]
  buf := by simp [inited.buf, inited.state, buffered]
  thread := fun running => by simp [inited.cmdThread] at running

theorem threads_alternate {initial final : FsmStream} {events : List StreamEvent}
    {log : List ThreadCall}
    (sound : LabelledRun.Guarded streamStep
        (fun stream _ event => Sound stream event) initial [] events)
    (ran : LabelledRun.run? streamStep initial events = some (final, log)) :
    alternates initial.cmdThread log = true := by
  have kept := LabelledRun.invariant_of_guarded (fun stream _ emitted =>
        alternates initial.cmdThread emitted = true ∧
          threadAfter initial.cmdThread emitted = stream.cmdThread)
      [] sound ran ⟨rfl, rfl⟩ (by
        rintro stream past emitted event next calls ⟨before, running⟩ here stepped
        simp only [streamStep, Option.some.injEq, Prod.mk.injEq] at stepped
        obtain ⟨rfl, rfl⟩ := stepped
        rw [alternates_append, threadAfter_append, before, running]
        exact ⟨here.alternates, threadAfter_reply event stream⟩)
  simpa using kept.1

/--
In a run from a stream that has been set up, the state determines the
resources, threads are released once, failures leave the state alone and
unhandled events are reported, exactly when every event is harmless: it is one
that the state handles, configuring an acquired stream succeeds, and a thread
is released when and only when one runs.
-/
theorem streamRun_sound_iff {initial : FsmStream} (inited : initial.Inited)
    (events : List StreamEvent) :
    SoundRun initial events ↔ LabelledRun.Guarded streamStep
        (fun stream _ event => Harmless stream event) initial [] events := by
  have same : LabelledRun.Guarded streamStep
          (fun stream _ event => Sound stream event) initial [] events ↔
        LabelledRun.Guarded streamStep
          (fun stream _ event => Harmless stream event) initial [] events := by
    refine LabelledRun.guarded_iff_of_invariant Resources
      (fun resources => sound_iff_harmless resources) ?_ inited.resources
    intro stream past event next emitted _ sound stepped
    simp only [streamStep, Option.some.injEq, Prod.mk.injEq] at stepped
    obtain ⟨rfl, rfl⟩ := stepped
    exact sound.resources
  rw [← same]
  exact ⟨SoundRun.steps, fun sound =>
    ⟨sound, fun ran => threads_alternate sound ran⟩⟩

/-! ## Concrete runs -/

theorem guarded_cons {condition : FsmStream → StreamEvent → Prop}
    {past rest : List StreamEvent} :
    LabelledRun.Guarded streamStep (fun current _ next => condition current next)
        stream past (event :: rest) ↔
      condition stream event ∧ LabelledRun.Guarded streamStep
          (fun current _ next => condition current next)
          (reply event stream).stream (past ++ [event]) rest := by
  simp [LabelledRun.Guarded, streamStep]

/-- A stream that has been set up. -/
def setUpStream : FsmStream where
  myHdl := 1
  fd := none
  state := .inited
  streamType := .preview
  noFrameExpected := false
  isBundled := false
  bufCb := [none, none, none, none]
  cmdThread := false
  buf := none
  kernelBufs := 0

/-- The calls out of the stream succeed. -/
def succeeds (streamCb : Bool) : FsmEnv where
  getBufsRc := 0
  regFlags := [true, true]
  statusMemory := true
  requestBufRc := 0
  qbufRc := fun _ => 0
  streamOnRc := 0
  streamOffRc := 0
  unregBufRc := 0
  putBufsRc := 0
  objs := true
  devName := true
  openFd := some 7
  setExtModeRc := 0
  streamCb := streamCb
  syncInfoRc := 0
  setFmtRc := 0
  bufDone := fun counts => (counts, 0)
  queuedBufferCount := 2
  parms := true
  ctrlRc := 0
  exitMemory := true

/-- Bring a stream with or without a callback from set up to active. -/
def activate (streamCb : Bool) : List StreamEvent :=
  [.acquire, .setFmt, .channel .getBuf, .channel .regBuf,
    .channel .start].map (.fsm (succeeds streamCb))

/-- A stream with a callback is started, stopped and released. -/
theorem streamRun_sound_iff_released : SoundRun setUpStream (activate true ++
        [.channel .stop, .channel .unregBuf, .channel .putBuf,
          .release].map (.fsm (succeeds true))) := by
  refine (streamRun_sound_iff ⟨rfl, rfl, rfl, rfl⟩ _).mpr ?_
  simp only [activate, List.map, List.cons_append, List.nil_append, guarded_cons]
  exact ⟨rfl, ⟨rfl, rfl⟩, rfl, rfl, fun _ _ => rfl, rfl, rfl, rfl, rfl, trivial⟩

/--
A thread that was never launched is released, a stream is configured although
the ioctl fails, and a buffer queued to a stream without an fd is no error.
-/
theorem streamRun_unsound : (¬ SoundRun setUpStream (activate false ++
        [.regBufCb (-1), .fsm (succeeds false) (.channel .stop)])) ∧
    (¬ SoundRun setUpStream [.fsm (succeeds false) .acquire,
        .fsm { succeeds false with setFmtRc := -1 } .setFmt]) ∧
    ¬ SoundRun setUpStream [.fsm (succeeds false) .qbuf] := by
  refine ⟨?_, ?_, ?_⟩
  · intro sound
    have alternating := sound.threads rfl
    exact absurd alternating (by decide)
  · intro sound
    have configured := (guarded_cons.mp (guarded_cons.mp sound.steps).2).1
    have state := configured.failed rfl (by decide)
    exact absurd state (by decide)
  · intro sound
    have queued := (guarded_cons.mp sound.steps).1
    exact (queued.unhandled rfl).2.2 rfl

end AnglerHal.StreamStates
