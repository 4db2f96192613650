import AnglerHal.InterfaceLocks
import AnglerHal.StepTrace

namespace AnglerHal.ObjectHandles

open CameraTable (einval generateHandler indexByHandler)
open ChannelFsm (ChannelState)
open StepTrace

/-!
# The handles of cameras, channels and streams

A handle is a count above an index.  An operation looks its handles up one after the
other, the camera in its table, the channel in the camera and the stream in the
channel, and every function on the way has a return code of its own for a handle that
it does not find.  Each operation is one step here, and what it does to an object that
it finds beside the handles is a number that it writes there.
-/

/-! ## Objects -/

/-- `mm_stream_t`, where its state is not `MM_STREAM_STATE_NOTUSED`. -/
structure Stream where
  myHdl : Nat
  rest : Nat
  deriving DecidableEq

/-- `mm_channel_t`; a stream that is not used is missing. -/
structure Channel where
  myHdl : Nat
  state : ChannelState
  streams : List (Option Stream)
  rest : Nat
  deriving DecidableEq

/-- `mm_camera_obj_t`. -/
structure Camera where
  myHdl : Nat
  refCount : Int
  ch : List Channel
  rest : Nat
  deriving DecidableEq

/-- `MAX_STREAM_NUM_IN_BUNDLE`. -/
def maxStreamNumInBundle : Nat :=
  8

/-- `MM_CAMERA_CHANNEL_MAX`. -/
def mmCameraChannelMax : Nat :=
  16

/-- A channel after `memset`. -/
def Channel.zero : Channel :=
  ⟨0, .notUsed, List.replicate maxStreamNumInBundle none, 0⟩

/-- `g_cam_ctrl.cam_obj`, and `g_handler_history_count`. -/
structure CamCtrl where
  camObj : List (Option Camera)
  history : Nat

/-- No camera is open, and no handle was generated. -/
def CamCtrl.empty (maxNumSensors : Nat) : CamCtrl :=
  ⟨List.replicate maxNumSensors none, 0⟩

/-- The count of the next handle, a `uint16_t` that is not 0. -/
def nextCount (history : Nat) : Nat :=
  if (history + 1) % 65536 = 0 then 1 else (history + 1) % 65536

/-! ## Operations -/

/-- The entries of `mm_camera_ops`, with what else their answer depends on. -/
inductive Operation where
  | queryCapability
  | registerEventNotify
  | closeCamera
  | errorCloseCamera
  | setParms
  | getParms
  | doAutoFocus
  | cancelAutoFocus
  | prepareSnapshot
  | startZslSnapshot
  | stopZslSnapshot
  | mapBuf
  | unmapBuf
  | addChannel
  | deleteChannel
  | getBundleInfo
  | addStream
  | linkStream
  | deleteStream
  | configStream
  | qbuf
  | getQueuedBufCount
  /-- Whether the buffer is of an offline type. -/
  | mapStreamBuf (offline : Bool)
  | unmapStreamBuf (offline : Bool)
  | setStreamParms
  | getStreamParms
  | startChannel
  | stopChannel
  | requestSuperBuf
  | cancelSuperBufRequest
  | flushSuperBufQueue
  | configureNotifyMode
  /-- Whether the type is one that the function knows. -/
  | processAdvancedCapture (known : Bool)
  deriving DecidableEq

/-- The object that an operation works on. -/
inductive Level where
  | camera
  | channel
  | stream
  deriving DecidableEq

/-- The object that the handles of an operation lead to. -/
def Operation.level : Operation → Level
  | .queryCapability | .registerEventNotify | .closeCamera | .errorCloseCamera
  | .setParms | .getParms | .doAutoFocus | .cancelAutoFocus | .prepareSnapshot
  | .mapBuf | .unmapBuf | .addChannel => .camera
  | .deleteStream | .configStream | .qbuf | .getQueuedBufCount | .mapStreamBuf _
  | .unmapStreamBuf _ | .setStreamParms | .getStreamParms | .linkStream => .stream
  | _ => .channel

/-- Whether an operation answers with a handle. -/
def Operation.givesHandle : Operation → Bool
  | .addChannel | .addStream | .linkStream => true
  | _ => false

/-- What an operation returns for a camera that is not found. -/
def Operation.noCamera (operation : Operation) : Int :=
  if operation.givesHandle then 0 else -1

/-- What an operation returns for a channel that is not found. -/
def Operation.noChannel (operation : Operation) : Int :=
  match operation with
  | .stopChannel => 0
  | _ => operation.noCamera

/-- What the state machine of a channel does with the event of an operation. -/
inductive Handling where
  /-- It passes the event on to a stream. -/
  | passes
  | handles
  /-- It has no case for it, and its return code is still 0. -/
  | ignores
  deriving DecidableEq

/-- `mm_channel_fsm_fn_stopped`. -/
def handlingStopped : Operation → Handling
  | .deleteStream | .configStream | .setStreamParms | .getStreamParms
  | .getQueuedBufCount | .mapStreamBuf _ | .unmapStreamBuf _ => .passes
  -- What a link does is in `Camera.linkStream`.
  | .addStream | .startChannel | .getBundleInfo | .deleteChannel | .linkStream => .handles
  | _ => .ignores

/-- `mm_channel_fsm_fn_active`. -/
def handlingActive : Operation → Handling
  | .setStreamParms | .getStreamParms | .getQueuedBufCount => .passes
  | .mapStreamBuf offline | .unmapStreamBuf offline => if offline then .passes else .ignores
  | .stopChannel | .requestSuperBuf | .cancelSuperBufRequest | .flushSuperBufQueue
  | .startZslSnapshot | .stopZslSnapshot | .configureNotifyMode
  | .processAdvancedCapture _ => .handles
  | _ => .ignores

/-- The handles that an operation is given. -/
structure Handles where
  camera : Nat
  channel : Nat
  stream : Nat
  /-- The channel that a stream is linked into. -/
  linked : Nat
  deriving DecidableEq

/-- What the objects that are found do. -/
structure Outcome where
  rc : Int
  /-- What is written to the object. -/
  rest : Nat
  /-- Whether `MM_STREAM_EVT_ACQUIRE` succeeds. -/
  acquires : Bool
  /-- Whether the state of a stream releases it for `MM_STREAM_EVT_RELEASE`. -/
  releases : Bool
  deriving DecidableEq

/-- An object, or none in its place, after a call, with the count and what is returned. -/
structure Answer (Object : Type) where
  object : Object
  history : Nat
  rc : Int

/-- Replaces what a call works on in what it is part of. -/
def Answer.map {Object Whole : Type} (whole : Object → Whole) (answer : Answer Object) :
    Answer Whole :=
  ⟨whole answer.object, answer.history, answer.rc⟩

/-- The first entry with a property, and its place. -/
def findAt {Entry : Type} (found : Entry → Bool) (entries : List Entry) : Option (Nat × Entry) :=
  match entries.findIdx? found with
  | none => none
  | some index => entries[index]?.map fun entry => (index, entry)

namespace Channel

/-- `mm_channel_util_get_stream_by_handler`. -/
def streamByHandler (handler : Nat) (channel : Channel) : Option (Nat × Option Stream) :=
  findAt (fun stream => stream.any fun stream => handler = stream.myHdl) channel.streams

/-- What a stream does with an operation, and what is left of it. -/
def streamCall (operation : Operation) (outcome : Outcome) (stream : Stream) :
    Option Stream × Int :=
  match operation with
  | .deleteStream =>
    (if outcome.releases then none else some { stream with rest := outcome.rest }, outcome.rc)
  | _ => (some { stream with rest := outcome.rest }, outcome.rc)

/-- The functions that look a stream up, such as `mm_channel_del_stream`. -/
def passOn (operation : Operation) (streamId : Nat) (outcome : Outcome) (history : Nat)
    (channel : Channel) : Answer Channel :=
  match channel.streamByHandler streamId with
  | some (index, some stream) =>
    let (stream, rc) := streamCall operation outcome stream
    ⟨{ channel with streams := channel.streams.set index stream }, history, rc⟩
  | _ => ⟨channel, history, -1⟩

/-- `mm_channel_add_stream`. -/
def addStream (outcome : Outcome) (history : Nat) (channel : Channel) : Answer Channel :=
  match channel.streams.findIdx? Option.isNone with
  | none => ⟨channel, history, 0⟩
  | some index =>
    let myHdl := generateHandler (nextCount history) index
    if outcome.acquires then
      ⟨{ channel with streams := channel.streams.set index (some ⟨myHdl, outcome.rest⟩) },
        nextCount history, myHdl⟩
    else
      ⟨channel, nextCount history, 0⟩

/-- The functions that work on a channel. -/
def work (operation : Operation) (outcome : Outcome) (history : Nat) (channel : Channel) :
    Answer Channel :=
  match operation with
  | .addStream => channel.addStream outcome history
  | .startChannel =>
    ⟨{ channel with
        state := if outcome.rc = 0 then .active else channel.state
        rest := outcome.rest }, history, outcome.rc⟩
  | .stopChannel => ⟨{ channel with state := .stopped, rest := outcome.rest }, history, outcome.rc⟩
  | .deleteChannel => ⟨channel, history, 0⟩
  | _ => ⟨{ channel with rest := outcome.rest }, history, outcome.rc⟩

/-- What a channel does with an event that its state handles in some way. -/
def act (handling : Handling) (operation : Operation) (streamId : Nat) (outcome : Outcome)
    (history : Nat) (channel : Channel) : Answer Channel :=
  match handling with
  | .passes => channel.passOn operation streamId outcome history
  | .handles => channel.work operation outcome history
  | .ignores => ⟨channel, history, 0⟩

/-- `mm_channel_fsm_fn`. -/
def fsm (operation : Operation) (streamId : Nat) (outcome : Outcome) (history : Nat)
    (channel : Channel) : Answer Channel :=
  match channel.state with
  | .notUsed => ⟨channel, history, operation.noCamera⟩
  | .stopped => channel.act (handlingStopped operation) operation streamId outcome history
  | .active => channel.act (handlingActive operation) operation streamId outcome history
  | .paused => ⟨channel, history, 0⟩

/-- What the functions of a camera do with a channel that they have found. -/
def call (operation : Operation) (streamId : Nat) (outcome : Outcome) (history : Nat)
    (channel : Channel) : Answer Channel :=
  match operation with
  -- `mm_camera_qbuf` does not ask the state machine.
  | .qbuf => channel.passOn .qbuf streamId outcome history
  | .processAdvancedCapture false => ⟨channel, history, -1⟩
  -- Whatever the state machine says, the channel is cleared.
  | .deleteChannel =>
    (channel.fsm .deleteChannel streamId outcome history).map fun _ => Channel.zero
  | _ => channel.fsm operation streamId outcome history

end Channel

namespace Camera

/-- `mm_camera_util_get_channel_by_handler`. -/
def channelByHandler (handler : Nat) (camera : Camera) : Option (Nat × Channel) :=
  findAt (fun channel => handler = channel.myHdl) camera.ch

/-- The functions that look a channel up, such as `mm_camera_del_channel`. -/
def onChannel (operation : Operation) (handles : Handles) (outcome : Outcome) (history : Nat)
    (camera : Camera) : Answer Camera :=
  match camera.channelByHandler handles.channel with
  | none => ⟨camera, history, operation.noChannel⟩
  | some (index, channel) =>
    (channel.call operation handles.stream outcome history).map fun channel =>
      { camera with ch := camera.ch.set index channel }

/-- `mm_camera_add_channel`. -/
def addChannel (outcome : Outcome) (history : Nat) (camera : Camera) : Answer Camera :=
  match camera.ch.findIdx? (·.state = .notUsed) with
  | none => ⟨camera, history, 0⟩
  | some index =>
    let myHdl := generateHandler (nextCount history) index
    let channel :=
      { Channel.zero with myHdl := myHdl, state := .stopped, rest := outcome.rest }
    ⟨{ camera with ch := camera.ch.set index channel }, nextCount history, myHdl⟩

/-- `mm_camera_link_stream`: the slot of the stream is copied. -/
def linkStream (handles : Handles) (history : Nat) (camera : Camera) : Answer Camera :=
  match camera.channelByHandler handles.linked, camera.channelByHandler handles.channel with
  | some (index, channel), some (_, owner) =>
    match channel.state, owner.streamByHandler handles.stream,
      channel.streams.findIdx? Option.isNone with
    | .stopped, some (_, some stream), some free =>
      let linked := { channel with streams := channel.streams.set free (some stream) }
      ⟨{ camera with ch := camera.ch.set index linked }, history, stream.myHdl⟩
    | _, _, _ => ⟨camera, history, 0⟩
  | _, _ => ⟨camera, history, 0⟩

/-- What an operation does with a camera that it has found. -/
def call (operation : Operation) (handles : Handles) (outcome : Outcome) (history : Nat)
    (camera : Camera) : Answer (Option Camera) :=
  match operation with
  | .closeCamera =>
    if camera.refCount - 1 > 0 then
      ⟨some { camera with refCount := camera.refCount - 1 }, history, 0⟩
    else
      ⟨none, history, outcome.rc⟩
  | .errorCloseCamera =>
    if camera.refCount - 1 > 0 then
      ⟨some camera, history, 0⟩
    else
      ⟨some { camera with rest := outcome.rest }, history, 0⟩
  | .addChannel => (camera.addChannel outcome history).map some
  | .linkStream => (camera.linkStream handles history).map some
  | _ =>
    if operation.level = .camera then
      ⟨some { camera with rest := outcome.rest }, history, outcome.rc⟩
    else
      (camera.onChannel operation handles outcome history).map some

end Camera

/-- `mm_camera_util_get_camera_by_handler`. -/
def CamCtrl.cameraByHandler (camHandle : Nat) (ctrl : CamCtrl) : Option Camera :=
  match ctrl.camObj[indexByHandler camHandle]? with
  | some (some camera) => if camHandle = camera.myHdl then some camera else none
  | _ => none

/-- An operation of the camera interface, and what it returns. -/
def CamCtrl.operate (operation : Operation) (handles : Handles) (outcome : Outcome)
    (ctrl : CamCtrl) : CamCtrl × Int :=
  match ctrl.cameraByHandler handles.camera with
  | none => (ctrl, operation.noCamera)
  | some camera =>
    let answer := camera.call operation handles outcome ctrl.history
    (⟨ctrl.camObj.set (indexByHandler handles.camera) answer.object, answer.history⟩, answer.rc)

/-- `camera_open`. -/
def CamCtrl.cameraOpen (numCam cameraIdx : Nat) (malloc : Bool) (outcome : Outcome)
    (ctrl : CamCtrl) : CamCtrl × Int :=
  if numCam ≤ cameraIdx then
    (ctrl, einval)
  else
    match ctrl.camObj[cameraIdx]? with
    | some (some camera) =>
      (⟨ctrl.camObj.set cameraIdx (some { camera with refCount := camera.refCount + 1 }),
        ctrl.history⟩, 0)
    | some none =>
      if malloc then
        let count := nextCount ctrl.history
        if outcome.rc = 0 then
          (⟨ctrl.camObj.set cameraIdx (some ⟨generateHandler count cameraIdx, 1,
            List.replicate mmCameraChannelMax Channel.zero, outcome.rest⟩), count⟩, 0)
        else
          (⟨ctrl.camObj, count⟩, outcome.rc)
      else
        (ctrl, einval)
    -- The table has room for all the cameras.
    | none => (ctrl, einval)

/-- A call on the camera interface. -/
inductive Event where
  | cameraOpen (cameraIdx : Nat) (malloc : Bool) (outcome : Outcome)
  | operate (operation : Operation) (handles : Handles) (outcome : Outcome)

/-- The table after a call. -/
def step (numCam : Nat) (ctrl : CamCtrl) : Event → CamCtrl
  | .cameraOpen cameraIdx malloc outcome => (ctrl.cameraOpen numCam cameraIdx malloc outcome).1
  | .operate operation handles outcome => (ctrl.operate operation handles outcome).1

/-! ## What is to hold -/

/-- The handle of a stream that is used. -/
def streamHandles (stream : Option Stream) : List Nat :=
  (stream.map Stream.myHdl).toList

/-- The handles of a channel that is used, and of its streams. -/
def Channel.handles (channel : Channel) : List Nat :=
  if channel.state = .notUsed then
    []
  else
    channel.myHdl :: channel.streams.flatMap streamHandles

/-- The handles of a camera, its channels and streams. -/
def Camera.handles (camera : Camera) : List Nat :=
  camera.myHdl :: camera.ch.flatMap Channel.handles

/-- The handles of a place of the table. -/
def cameraHandles (camera : Option Camera) : List Nat :=
  camera.elim [] Camera.handles

/-- The handles in use. -/
def CamCtrl.handles (ctrl : CamCtrl) : List Nat :=
  ctrl.camObj.flatMap cameraHandles

/-- The handles that an operation is given. -/
def Operation.given (operation : Operation) (handles : Handles) : List Nat :=
  match operation with
  | .linkStream => [handles.camera, handles.channel, handles.stream, handles.linked]
  | _ =>
    match operation.level with
    | .camera => [handles.camera]
    | .channel => [handles.camera, handles.channel]
    | .stream => [handles.camera, handles.channel, handles.stream]

/-- An operation is given a handle that is not in use. -/
def Stale (operation : Operation) (handles : Handles) (ctrl : CamCtrl) : Prop :=
  ∃ handle ∈ operation.given handles, handle ∉ ctrl.handles

/-- What is returned is an error, or the handle 0. -/
def IsError (operation : Operation) (rc : Int) : Prop :=
  if operation.givesHandle then rc = 0 else rc < 0

/--
What is to hold of a call: the handles in use differ and are not zero, one that was generated
before and is not in use is not used again, and those that are not in use are refused.
-/
structure Safe (ctrl : CamCtrl) (event : Event) (next : CamCtrl) : Prop where
  distinct : next.handles.Nodup
  counted : ∀ handle ∈ next.handles, 0 < handle ∧ handle < 256 * (next.history + 1)
  grows : ctrl.history ≤ next.history
  stays : ∀ handle ∉ ctrl.handles, handle < 256 * (ctrl.history + 1) → handle ∉ next.handles
  refuses : ∀ operation handles outcome, event = .operate operation handles outcome →
    Stale operation handles ctrl →
      IsError operation (ctrl.operate operation handles outcome).2 ∧ next = ctrl

/-! ## When it holds -/

/-- The operations on streams that an active channel does not pass on. -/
def Operation.ignoredWhenActive : Operation → Bool
  | .deleteStream | .configStream => true
  | .mapStreamBuf offline | .unmapStreamBuf offline => !offline
  | _ => false

/--
`stop_channel` is given a handle that the camera has for a channel, and the operations that an
active channel ignores a stream in use.
-/
def Clear (ctrl : CamCtrl) (event : Event) (_ : CamCtrl) : Prop :=
  match event with
  | .cameraOpen .. => True
  | .operate operation handles _ =>
    ∀ camera, ctrl.cameraByHandler handles.camera = some camera →
      (operation = .stopChannel → (camera.channelByHandler handles.channel).isSome) ∧
      (operation.ignoredWhenActive = true →
        ∀ index channel, camera.channelByHandler handles.channel = some (index, channel) →
          channel.state = .active → handles.stream ∈ ctrl.handles)

/-- A stream is linked only for the handles to be refused. -/
def LinksNone (ctrl : CamCtrl) (event : Event) (_ : CamCtrl) : Prop :=
  ∀ handles outcome, event = .operate .linkStream handles outcome →
    Stale .linkStream handles ctrl

/-- Another handle may be generated. -/
def CountsOn (ctrl : CamCtrl) (_ : Event) (_ : CamCtrl) : Prop :=
  ctrl.history < 65535

/-! ## The handles of a whole and of its parts -/

/-- What is generated is nothing, or one handle with the next count. -/
def Fresh (history history' : Nat) (fresh : List Nat) : Prop :=
  history' = history ∧ fresh = [] ∨
    history' = nextCount history ∧
      ∃ index < 256, fresh = [generateHandler (nextCount history) index]

/-- No handle is used more often than before, or than it is generated. -/
def Extends (history : Nat) (before : List Nat) (history' : Nat) (after : List Nat) : Prop :=
  ∃ fresh, Fresh history history' fresh ∧
    ∀ handle, after.count handle ≤ fresh.count handle + before.count handle

variable {history history' index handle : Nat} {before : List Nat} {Part : Type}
  {ctrl : CamCtrl}

theorem Extends.of_count {after : List Nat}
    (fewer : ∀ handle, after.count handle ≤ before.count handle) :
    Extends history before history after :=
  ⟨[], Or.inl ⟨rfl, rfl⟩, fun handle => by simpa using fewer handle⟩

theorem Extends.refl (history : Nat) (before : List Nat) :
    Extends history before history before :=
  of_count fun _ => Nat.le_refl _

/-- Where nothing is left in use, only the count matters. -/
theorem Extends.nil {after : List Nat} (adds : Extends history before history' after) :
    Extends history before history' [] := by
  obtain ⟨fresh, isFresh, -⟩ := adds
  exact ⟨fresh, isFresh, fun handle => by simp⟩

theorem Extends.cons {history history' : Nat} {before after : List Nat}
    (adds : Extends history before history' after) (handle : Nat) :
    Extends history (handle :: before) history' (handle :: after) := by
  obtain ⟨fresh, isFresh, counts⟩ := adds
  refine ⟨fresh, isFresh, fun other => ?_⟩
  have := counts other
  simp only [List.count_cons]
  omega

/-- What a part of a list adds, the list adds. -/
theorem Extends.set {handles : Part → List Nat} {part part' : Part} {parts : List Part}
    (found : parts[index]? = some part)
    (adds : Extends history (handles part) history' (handles part')) :
    Extends history (parts.flatMap handles) history'
      ((parts.set index part').flatMap handles) := by
  obtain ⟨fresh, isFresh, counts⟩ := adds
  refine ⟨fresh, isFresh, fun handle => ?_⟩
  have count := counts handle
  induction parts generalizing index with
  | nil => simp at found
  | cons first rest inductionHypothesis =>
    cases index with
    | zero =>
      obtain rfl : first = part := by simpa using found
      simp only [List.set_cons_zero, List.flatMap_cons, List.count_append]
      omega
    | succ index =>
      have below : rest[index]? = some part := by simpa using found
      have later := inductionHypothesis below
      simp only [List.set_cons_succ, List.flatMap_cons, List.count_append]
      omega

/-- The handles in use differ, are not zero and have counts that were reached. -/
structure Counted (history : Nat) (handles : List Nat) : Prop where
  distinct : handles.Nodup
  counted : ∀ handle ∈ handles, 0 < handle ∧ handle < 256 * (history + 1)

theorem nextCount_eq (countsOn : history < 65535) :
    nextCount history = history + 1 := by
  unfold nextCount
  rw [Nat.mod_eq_of_lt (by omega), if_neg (by omega)]

/-- A handle that is used after a call was used before, or has the next count. -/
theorem Extends.mem {after : List Nat} (adds : Extends history before history' after)
    (countsOn : history < 65535) (member : handle ∈ after) :
    handle ∈ before ∨
      history' = history + 1 ∧ 256 * (history + 1) ≤ handle ∧ handle < 256 * (history + 2) := by
  obtain ⟨fresh, isFresh, counts⟩ := adds
  have positive := List.count_pos_iff.mpr member
  have count := counts handle
  rcases isFresh with ⟨rfl, rfl⟩ | ⟨rfl, index, small, rfl⟩
  · exact Or.inl (List.count_pos_iff.mp (by simpa using Nat.lt_of_lt_of_le positive count))
  · by_cases used : handle ∈ before
    · exact Or.inl used
    · rw [List.count_eq_zero.mpr used, Nat.add_zero] at count
      have generated := List.mem_singleton.mp
        (List.count_pos_iff.mp (Nat.lt_of_lt_of_le positive count))
      rw [generateHandler, nextCount_eq countsOn] at generated
      exact Or.inr ⟨nextCount_eq countsOn, by omega, by omega⟩

theorem Extends.grows {after : List Nat} (adds : Extends history before history' after)
    (countsOn : history < 65535) :
    history ≤ history' := by
  obtain ⟨_, ⟨rfl, -⟩ | ⟨rfl, -⟩, -⟩ := adds
  · exact Nat.le_refl _
  · rw [nextCount_eq countsOn]
    omega

theorem Counted.after {after : List Nat} (counted : Counted history before)
    (adds : Extends history before history' after) (countsOn : history < 65535) :
    Counted history' after := by
  refine ⟨List.nodup_iff_count.mpr fun handle => ?_, fun handle member => ?_⟩
  · have once := List.nodup_iff_count.mp counted.distinct handle
    obtain ⟨fresh, isFresh, counts⟩ := adds
    have count := counts handle
    rcases isFresh with ⟨-, rfl⟩ | ⟨-, index, small, rfl⟩
    · rw [List.count_nil] at count
      omega
    · by_cases used : handle ∈ before
      · -- A handle in use has an earlier count.
        have bound := (counted.counted handle used).2
        have other : [generateHandler (nextCount history) index].count handle = 0 := by
          rw [List.count_eq_zero, List.mem_singleton, generateHandler, nextCount_eq countsOn]
          omega
        omega
      · rw [List.count_eq_zero.mpr used, List.count_singleton] at count
        split at count <;> omega
  · have grows := adds.grows countsOn
    rcases adds.mem countsOn member with used | ⟨rfl, lower, upper⟩
    · have := counted.counted handle used
      omega
    · omega

theorem findAt_some {Entry : Type} {test : Entry → Bool} {entries : List Entry}
    {entry : Entry} (found : findAt test entries = some (index, entry)) :
    entries[index]? = some entry ∧ test entry = true := by
  unfold findAt at found
  split at found
  · cases found
  · rename_i place first
    obtain ⟨within, holds, -⟩ := List.findIdx?_eq_some_iff_getElem.mp first
    rw [List.getElem?_eq_getElem within] at found
    obtain ⟨rfl, rfl⟩ : place = index ∧ entries[place] = entry := by simpa using found
    exact ⟨List.getElem?_eq_getElem within, holds⟩

/-- Putting a part where it is changes nothing. -/
theorem set_same {parts : List Part} {part : Part} (found : parts[index]? = some part) :
    parts.set index part = parts := by
  obtain ⟨within, rfl⟩ := List.getElem?_eq_some_iff.mp found
  exact List.set_getElem_self within

/-! ## Calls on a channel -/

namespace Channel

@[simp] theorem streamHandles_none : streamHandles none = [] := rfl

@[simp] theorem streamHandles_some (stream : Stream) :
    streamHandles (some stream) = [stream.myHdl] := rfl

theorem handles_used {channel : Channel} (used : channel.state ≠ .notUsed) :
    channel.handles = channel.myHdl :: channel.streams.flatMap streamHandles :=
  if_neg used

/-- A channel that is not used is cleared, and none is paused. -/
structure Wf (channel : Channel) : Prop where
  room : channel.streams.length ≤ 256
  cleared : channel.state = .notUsed → channel = zero
  runs : channel.state ≠ .paused

theorem wf_zero : Wf zero :=
  ⟨by decide, fun _ => rfl, by decide⟩

/-- A call leaves a channel in order, and generates what it adds. -/
structure Keeps (channel : Channel) (history : Nat) (answer : Answer Channel) : Prop where
  wf : answer.object.Wf
  adds : Extends history channel.handles answer.history answer.object.handles

section Calls

variable {channel : Channel} (wf : channel.Wf)
include wf

theorem keeps_unchanged (history : Nat) (rc : Int) : channel.Keeps history ⟨channel, history, rc⟩ :=
  ⟨wf, .refl ..⟩

/-- A channel that is used and stays so, with other streams. -/
theorem keeps_streams (used : channel.state ≠ .notUsed) {rc : Int}
    {state : ChannelState} {streams : List (Option Stream)} {rest : Nat}
    (runs : state = .stopped ∨ state = .active)
    (room : streams.length = channel.streams.length)
    (adds : Extends history (channel.streams.flatMap streamHandles) history'
      (streams.flatMap streamHandles)) :
    channel.Keeps history ⟨⟨channel.myHdl, state, streams, rest⟩, history', rc⟩ := by
  have uses : state ≠ .notUsed := by rcases runs with rfl | rfl <;> decide
  refine ⟨⟨room ▸ wf.room, fun isNot => absurd isNot uses, ?_⟩, ?_⟩
  · rcases runs with rfl | rfl <;> simp
  · rw [handles_used used, handles_used uses]
    exact adds.cons _

theorem running (used : channel.state ≠ .notUsed) :
    channel.state = .stopped ∨ channel.state = .active := by
  have runs := wf.runs
  cases state : channel.state <;> simp_all

/-- Only a channel that is used has streams. -/
theorem used_of_stream {stream : Stream}
    (place : channel.streams[index]? = some (some stream)) :
    channel.state ≠ .notUsed := by
  intro isNot
  rw [wf.cleared isNot] at place
  obtain ⟨within, isSome⟩ := List.getElem?_eq_some_iff.mp place
  simp [zero] at isSome

theorem addStream_keeps (used : channel.state ≠ .notUsed) (outcome : Outcome) (history : Nat) :
    channel.Keeps history (channel.addStream outcome history) := by
  unfold addStream
  split
  · exact keeps_unchanged wf ..
  · rename_i index free
    obtain ⟨within, isNone, -⟩ := List.findIdx?_eq_some_iff_getElem.mp free
    have small : index < 256 := Nat.lt_of_lt_of_le within wf.room
    have fresh : Fresh history (nextCount history)
        [generateHandler (nextCount history) index] :=
      Or.inr ⟨rfl, index, small, rfl⟩
    split
    · have place : channel.streams[index]? = some none := by
        rw [List.getElem?_eq_getElem within]
        simpa using isNone
      exact keeps_streams wf used (running wf used) (by simp)
        (.set place ⟨_, fresh, fun handle => by simp⟩)
    · exact ⟨wf, _, fresh, fun handle => Nat.le_add_left ..⟩

theorem work_keeps (used : channel.state ≠ .notUsed) (operation : Operation) (outcome : Outcome)
    (history : Nat) :
    channel.Keeps history (channel.work operation outcome history) := by
  unfold work
  split
  · exact addStream_keeps wf used ..
  · refine keeps_streams wf used ?_ rfl (.refl ..)
    split
    · exact Or.inr rfl
    · exact running wf used
  · exact keeps_streams wf used (Or.inl rfl) rfl (.refl ..)
  · exact keeps_unchanged wf ..
  · exact keeps_streams wf used (running wf used) rfl (.refl ..)

theorem passOn_keeps (operation : Operation) (streamId : Nat) (outcome : Outcome)
    (history : Nat) :
    channel.Keeps history (channel.passOn operation streamId outcome history) := by
  unfold passOn
  split
  · rename_i index stream found
    obtain ⟨place, -⟩ := findAt_some found
    have used := used_of_stream wf place
    refine keeps_streams wf used (running wf used) (by simp)
      (.set place (.of_count fun handle => ?_))
    split
    · dsimp only
      split <;> simp
    · exact Nat.le_refl _
  · exact keeps_unchanged wf ..

theorem act_keeps (used : channel.state ≠ .notUsed) (handling : Handling)
    (operation : Operation) (streamId : Nat) (outcome : Outcome) (history : Nat) :
    channel.Keeps history (channel.act handling operation streamId outcome history) := by
  cases handling with
  | passes => exact passOn_keeps wf ..
  | handles => exact work_keeps wf used ..
  | ignores => exact keeps_unchanged wf ..

theorem fsm_keeps (operation : Operation) (streamId : Nat) (outcome : Outcome) (history : Nat) :
    channel.Keeps history (channel.fsm operation streamId outcome history) := by
  unfold fsm
  split
  · exact keeps_unchanged wf ..
  · exact act_keeps wf (by simp [*]) ..
  · exact act_keeps wf (by simp [*]) ..
  · exact keeps_unchanged wf ..

theorem call_keeps (operation : Operation) (streamId : Nat) (outcome : Outcome)
    (history : Nat) :
    channel.Keeps history (channel.call operation streamId outcome history) := by
  unfold call
  split
  · exact passOn_keeps wf ..
  · exact keeps_unchanged wf ..
  · exact ⟨wf_zero, (fsm_keeps wf ..).adds.nil⟩
  · exact fsm_keeps wf ..

end Calls

end Channel

/-! ## Calls on a camera -/

namespace Camera

/-- The channels of a camera are in order. -/
structure Wf (camera : Camera) : Prop where
  room : camera.ch.length ≤ 256
  channels : ∀ channel ∈ camera.ch, channel.Wf

/-- A call leaves a camera in order, or closed, and generates what it adds. -/
structure Keeps (camera : Camera) (history : Nat) (answer : Answer (Option Camera)) : Prop where
  wf : ∀ camera', answer.object = some camera' → camera'.Wf
  adds : Extends history camera.handles answer.history (cameraHandles answer.object)

section Calls

variable {camera : Camera}

/-- A camera that is not closed, with the channels that it has. -/
theorem keeps_channels {rc refCount : Int} {ch : List Channel} {rest : Nat}
    (next : Wf ⟨camera.myHdl, refCount, ch, rest⟩)
    (adds : Extends history (camera.ch.flatMap Channel.handles) history'
      (ch.flatMap Channel.handles)) :
    camera.Keeps history ⟨some ⟨camera.myHdl, refCount, ch, rest⟩, history', rc⟩ :=
  ⟨by rintro _ ⟨⟩; exact next, adds.cons _⟩

variable (wf : camera.Wf)
include wf

theorem keeps_rest (history : Nat) (rc refCount : Int) (rest : Nat) :
    camera.Keeps history ⟨some { camera with refCount := refCount, rest := rest }, history, rc⟩ :=
  keeps_channels ⟨wf.room, wf.channels⟩ (.refl ..)

theorem wf_set {channel : Channel} (next : channel.Wf) (index : Nat) (refCount : Int)
    (rest : Nat) :
    Wf ⟨camera.myHdl, refCount, camera.ch.set index channel, rest⟩ := by
  refine ⟨by simpa using wf.room, fun other member => ?_⟩
  rcases List.mem_or_eq_of_mem_set member with before | rfl
  · exact wf.channels other before
  · exact next

theorem wf_channel {channel : Channel} (place : camera.ch[index]? = some channel) :
    channel.Wf :=
  wf.channels channel (List.mem_of_getElem? place)

theorem onChannel_keeps (operation : Operation) (handles : Handles) (outcome : Outcome)
    (history : Nat) :
    camera.Keeps history ((camera.onChannel operation handles outcome history).map some) := by
  unfold onChannel
  split
  · exact keeps_rest wf ..
  · rename_i index channel found
    obtain ⟨place, -⟩ := findAt_some found
    have keeps := Channel.call_keeps (wf_channel wf place) operation handles.stream outcome history
    exact keeps_channels (wf_set wf keeps.wf ..) (keeps.adds.set place)

theorem addChannel_keeps (outcome : Outcome) (history : Nat) :
    camera.Keeps history ((camera.addChannel outcome history).map some) := by
  unfold addChannel
  split
  · exact keeps_rest wf ..
  · rename_i index free
    obtain ⟨within, notUsed, -⟩ := List.findIdx?_eq_some_iff_getElem.mp free
    have place := List.getElem?_eq_getElem within
    refine keeps_channels (wf_set wf ?_ ..) (.set place ?_)
    · exact ⟨Channel.wf_zero.room, fun isNot => ChannelState.noConfusion isNot, by simp⟩
    · rw [Channel.handles, if_pos (by simpa using notUsed)]
      exact ⟨_, Or.inr ⟨rfl, index, Nat.lt_of_lt_of_le within wf.room, rfl⟩, fun _ => Nat.le_refl _⟩

theorem call_keeps {operation : Operation} {handles : Handles} {outcome : Outcome}
    (links : operation = .linkStream → camera.linkStream handles history = ⟨camera, history, 0⟩) :
    camera.Keeps history (camera.call operation handles outcome history) := by
  unfold call
  split
  · split
    · exact keeps_rest wf ..
    · exact ⟨by rintro _ ⟨⟩, .of_count fun _ => by simp [cameraHandles]⟩
  · split
    · exact keeps_rest wf ..
    · exact keeps_rest wf ..
  · exact addChannel_keeps wf ..
  · rw [links rfl]
    exact keeps_rest wf ..
  · split
    · exact keeps_rest wf ..
    · exact onChannel_keeps wf ..

end Calls

end Camera

/-! ## Calls with handles that are not in use -/

theorem isError_noCamera (operation : Operation) : IsError operation operation.noCamera := by
  unfold IsError Operation.noCamera
  split <;> simp_all

theorem isError_neg {operation : Operation} (noHandle : operation.givesHandle = false) :
    IsError operation (-1) := by
  rw [IsError, noHandle]
  decide

theorem handlingStopped_stream {operation : Operation} (level : operation.level = .stream)
    (qbuf : operation ≠ .qbuf)
    (noLink : operation ≠ .linkStream) :
    handlingStopped operation = .passes := by
  cases operation <;> cases level <;>
    first
    | rfl
    | exact absurd rfl qbuf
    | exact absurd rfl noLink

theorem handlingActive_stream {operation : Operation}
    (level : operation.level = .stream) (qbuf : operation ≠ .qbuf)
    (noLink : operation ≠ .linkStream) (clear : operation.ignoredWhenActive ≠ true) :
    handlingActive operation = .passes := by
  cases operation <;> cases level <;> simp_all [handlingActive, Operation.ignoredWhenActive]

namespace Channel

variable {streamId : Nat}

theorem streamByHandler_unknown {channel : Channel}
    (unknown : streamId ∉ channel.streams.flatMap streamHandles) :
    channel.streamByHandler streamId = none := by
  have others : ∀ stream ∈ channel.streams,
      ¬ stream.any (fun stream => streamId = stream.myHdl) := by
    rintro (- | stream) member
    · simp
    · intro same
      exact unknown (List.mem_flatMap.mpr ⟨_, member, by simpa using same⟩)
  rw [streamByHandler, findAt, List.findIdx?_eq_none_iff.mpr fun stream member => by
    simpa using others stream member]

theorem passOn_unknown {channel : Channel}
    (unknown : streamId ∉ channel.streams.flatMap streamHandles) (operation : Operation)
    (outcome : Outcome) (history : Nat) :
    channel.passOn operation streamId outcome history = ⟨channel, history, -1⟩ := by
  rw [passOn, streamByHandler_unknown unknown]

/-- A channel that is not used refuses whatever it is asked for. -/
theorem call_notUsed {channel : Channel} (wf : channel.Wf)
    (isNot : channel.state = .notUsed) (operation : Operation) (streamId : Nat)
    (outcome : Outcome) (history : Nat) :
    ∃ rc, channel.call operation streamId outcome history = ⟨channel, history, rc⟩ ∧
      IsError operation rc := by
  obtain rfl := wf.cleared isNot
  unfold call
  split
  · exact ⟨-1, passOn_unknown (by simp [zero]) .., isError_neg rfl⟩
  · exact ⟨-1, rfl, isError_neg rfl⟩
  · exact ⟨-1, rfl, isError_neg rfl⟩
  · exact ⟨operation.noCamera, rfl, isError_noCamera operation⟩

/-- A channel refuses what is for a stream that it does not have. -/
theorem call_unknown {channel : Channel} {operation : Operation}
    (unknown : streamId ∉ channel.streams.flatMap streamHandles)
    (used : channel.state = .stopped ∨ channel.state = .active)
    (level : operation.level = .stream) (noLink : operation ≠ .linkStream)
    (clear : operation.ignoredWhenActive = true → channel.state ≠ .active)
    (outcome : Outcome) (history : Nat) :
    channel.call operation streamId outcome history = ⟨channel, history, -1⟩ := by
  have refused := passOn_unknown unknown operation outcome history
  by_cases qbuf : operation = .qbuf
  · rw [qbuf] at refused ⊢
    exact refused
  · have passes : channel.call operation streamId outcome history =
        channel.passOn operation streamId outcome history := by
      unfold call
      split
      · exact absurd rfl qbuf
      · cases level
      · cases level
      · rcases used with state | state
        · rw [fsm, state]
          simp only [handlingStopped_stream level qbuf noLink]
          rfl
        · rw [fsm, state]
          simp only [handlingActive_stream level qbuf noLink fun ignored => clear ignored state]
          rfl
    rw [passes, refused]

end Channel

namespace Camera

variable {camera : Camera}

theorem mem_handles_channel {channel : Channel}
    (place : camera.ch[index]? = some channel) (member : handle ∈ channel.handles) :
    handle ∈ camera.handles :=
  List.mem_cons_of_mem _ (List.mem_flatMap.mpr ⟨channel, List.mem_of_getElem? place, member⟩)

/-- A handle that leads to a channel in use is in use. -/
theorem mem_handles_found {handler : Nat} {channel : Channel}
    (found : camera.channelByHandler handler = some (index, channel))
    (used : channel.state ≠ .notUsed) :
    handler ∈ camera.handles := by
  obtain ⟨place, isHandle⟩ := findAt_some found
  refine mem_handles_channel place ?_
  rw [Channel.handles_used used, of_decide_eq_true isHandle]
  exact List.mem_cons_self

theorem call_onChannel {operation : Operation} (noLink : operation ≠ .linkStream)
    (level : operation.level ≠ .camera) (handles : Handles) (outcome : Outcome)
    (history : Nat) (camera : Camera) :
    camera.call operation handles outcome history =
      (camera.onChannel operation handles outcome history).map some := by
  unfold call
  split
  · exact absurd rfl level
  · exact absurd rfl level
  · exact absurd rfl level
  · exact absurd rfl noLink
  · exact if_neg level

/-- A camera refuses what is for a channel or a stream that is not in use. -/
theorem onChannel_refuses (wf : camera.Wf) {operation : Operation} {handles : Handles}
    {inUse : List Nat} (within : camera.handles ⊆ inUse)
    (noLink : operation ≠ .linkStream)
    (stale : handles.channel ∉ inUse ∨ operation.level = .stream ∧ handles.stream ∉ inUse)
    (stops : operation = .stopChannel → (camera.channelByHandler handles.channel).isSome)
    (clear : operation.ignoredWhenActive = true →
      ∀ index channel, camera.channelByHandler handles.channel = some (index, channel) →
        channel.state = .active → handles.stream ∈ inUse)
    (outcome : Outcome) (history : Nat) :
    ∃ rc, camera.onChannel operation handles outcome history = ⟨camera, history, rc⟩ ∧
      IsError operation rc := by
  unfold onChannel
  split
  · rename_i missing
    refine ⟨operation.noChannel, rfl, ?_⟩
    have other : operation ≠ .stopChannel := by
      intro isStop
      simpa [missing] using stops isStop
    have same : operation.noChannel = operation.noCamera := by
      unfold Operation.noChannel
      split
      · exact absurd rfl other
      · rfl
    exact same ▸ isError_noCamera operation
  · rename_i index channel found
    obtain ⟨place, -⟩ := findAt_some found
    have unchanged : { camera with ch := camera.ch.set index channel } = camera := by
      rw [set_same place]
    have channelWf := wf_channel wf place
    by_cases isNot : channel.state = .notUsed
    · obtain ⟨rc, same, isError⟩ :=
        Channel.call_notUsed channelWf isNot operation handles.stream outcome history
      rw [same]
      exact ⟨rc, by rw [Answer.map, unchanged], isError⟩
    · have used := Channel.handles_used isNot
      have isUsed := within (mem_handles_found found isNot)
      obtain ⟨level, stranger⟩ := stale.resolve_left fun notIn => notIn isUsed
      have unknown : handles.stream ∉ channel.streams.flatMap streamHandles := by
        intro member
        refine stranger (within (mem_handles_channel place ?_))
        exact used ▸ List.mem_cons_of_mem _ member
      have refused := Channel.call_unknown unknown (Channel.running channelWf isNot) level noLink
        (fun ignored active => stranger (clear ignored index channel found active)) outcome history
      rw [refused]
      refine ⟨-1, by rw [Answer.map, unchanged], isError_neg ?_⟩
      cases operation <;> cases level <;> simp_all [Operation.givesHandle]

/-- A stream is linked only between channels, and from a stream, in use. -/
theorem linkStream_refuses (wf : camera.Wf) {handles : Handles}
    (stale : ∃ handle ∈ [handles.channel, handles.stream, handles.linked],
      handle ∉ camera.handles)
    (history : Nat) :
    camera.linkStream handles history = ⟨camera, history, 0⟩ := by
  unfold linkStream
  split
  · rename_i index channel _ owner foundLinked foundOwner
    obtain ⟨ownerPlace, -⟩ := findAt_some foundOwner
    split
    · rename_i _ stream _ stopped foundStream _
      obtain ⟨streamPlace, isStream⟩ := findAt_some foundStream
      have ownerUsed := Channel.used_of_stream (wf_channel wf ownerPlace) streamPlace
      have linkedUsed : channel.state ≠ .notUsed := by simp [stopped]
      obtain ⟨handle, given, notIn⟩ := stale
      simp only [List.mem_cons, List.not_mem_nil, or_false] at given
      refine absurd ?_ notIn
      rcases given with rfl | rfl | rfl
      · exact mem_handles_found foundOwner ownerUsed
      · refine mem_handles_channel ownerPlace ?_
        rw [Channel.handles_used ownerUsed]
        refine List.mem_cons_of_mem _ (List.mem_flatMap.mpr
          ⟨_, List.mem_of_getElem? streamPlace, ?_⟩)
        simpa using isStream
      · exact mem_handles_found foundLinked linkedUsed
    · rfl
  · rfl

end Camera

/-! ## Calls on the table -/

namespace CamCtrl

/-- The cameras of the table are in order, and so are the handles in use. -/
structure Wf (ctrl : CamCtrl) : Prop where
  room : ctrl.camObj.length ≤ 256
  cameras : ∀ camera, some camera ∈ ctrl.camObj → camera.Wf
  counted : Counted ctrl.history ctrl.handles

theorem wf_empty {maxNumSensors : Nat} (indexed : maxNumSensors ≤ 256) :
    (empty maxNumSensors).Wf where
  room := by simpa [empty] using indexed
  cameras := by simp [empty]
  counted := by
    have noHandle : (empty maxNumSensors).handles = [] := by
      simp [empty, handles, cameraHandles]
    rw [noHandle]
    exact ⟨List.nodup_nil, by simp⟩

/-- A call leaves the table in order, and generates what it adds. -/
structure Keeps (ctrl next : CamCtrl) : Prop where
  wf : next.Wf
  adds : Extends ctrl.history ctrl.handles next.history next.handles

section Calls

theorem cameraByHandler_some {handles : Handles} {camera : Camera}
    (found : ctrl.cameraByHandler handles.camera = some camera) :
    ctrl.camObj[indexByHandler handles.camera]? = some (some camera) ∧
      handles.camera = camera.myHdl := by
  unfold cameraByHandler at found
  split at found
  · split at found
    · obtain rfl := Option.some.inj found
      exact ⟨by assumption, by assumption⟩
    · cases found
  · cases found

theorem mem_handles_camera {camera : Camera}
    (place : ctrl.camObj[index]? = some (some camera))
    (member : handle ∈ camera.handles) :
    handle ∈ ctrl.handles :=
  List.mem_flatMap.mpr ⟨some camera, List.mem_of_getElem? place, member⟩

/-- Where the camera is found, a handle that is not in use is not that of the camera. -/
theorem stale_below {operation : Operation} {handles : Handles} {camera : Camera}
    (found : ctrl.cameraByHandler handles.camera = some camera)
    (stale : Stale operation handles ctrl) :
    ∃ handle ∈ operation.given handles, handle ≠ handles.camera ∧ handle ∉ ctrl.handles := by
  obtain ⟨place, same⟩ := cameraByHandler_some found
  obtain ⟨handle, given, notIn⟩ := stale
  refine ⟨handle, given, ?_, notIn⟩
  rintro rfl
  refine notIn (mem_handles_camera place ?_)
  rw [same]
  exact List.mem_cons_self

variable (wf : ctrl.Wf)
include wf

theorem keeps_refl : Keeps ctrl ctrl :=
  ⟨wf, .refl ..⟩

/-- What a place of the table keeps, the table keeps. -/
theorem keeps_set {place place' : Option Camera}
    (found : ctrl.camObj[index]? = some place)
    (next : ∀ camera, place' = some camera → camera.Wf)
    (adds : Extends ctrl.history (cameraHandles place) history' (cameraHandles place'))
    (countsOn : ctrl.history < 65535) :
    Keeps ctrl ⟨ctrl.camObj.set index place', history'⟩ := by
  have whole : Extends ctrl.history ctrl.handles history'
      (handles ⟨ctrl.camObj.set index place', history'⟩) :=
    adds.set found
  refine ⟨⟨by simpa using wf.room, fun camera member => ?_, wf.counted.after whole countsOn⟩, whole⟩
  rcases List.mem_or_eq_of_mem_set member with before | same
  · exact wf.cameras camera before
  · exact next camera same.symm

theorem cameraOpen_keeps (numCam cameraIdx : Nat) (malloc : Bool) (outcome : Outcome)
    (countsOn : ctrl.history < 65535) :
    Keeps ctrl (ctrl.cameraOpen numCam cameraIdx malloc outcome).1 := by
  unfold cameraOpen
  split
  · exact keeps_refl wf
  · split
    · rename_i camera found
      have cameraWf := wf.cameras camera (List.mem_of_getElem? found)
      refine keeps_set wf found ?_ (.refl ..) countsOn
      rintro _ ⟨⟩
      exact ⟨cameraWf.room, cameraWf.channels⟩
    · rename_i found
      have small : cameraIdx < 256 :=
        Nat.lt_of_lt_of_le (List.getElem?_eq_some_iff.mp found).1 wf.room
      have fresh : Fresh ctrl.history (nextCount ctrl.history)
          [generateHandler (nextCount ctrl.history) cameraIdx] :=
        Or.inr ⟨rfl, cameraIdx, small, rfl⟩
      split
      · split
        · refine keeps_set wf found ?_ ⟨_, fresh, fun handle => ?_⟩ countsOn
          · rintro _ ⟨⟩
            refine ⟨by simp [mmCameraChannelMax], fun channel member => ?_⟩
            rw [List.eq_of_mem_replicate member]
            exact Channel.wf_zero
          · have noHandle : (List.replicate mmCameraChannelMax Channel.zero).flatMap
                Channel.handles = [] :=
              rfl
            simp only [cameraHandles, Option.elim_some, Camera.handles, noHandle]
            exact Nat.le_add_right ..
        · -- The handle of a camera that does not open is lost.
          have adds : Extends ctrl.history ctrl.handles (nextCount ctrl.history) ctrl.handles :=
            ⟨_, fresh, fun handle => Nat.le_add_left ..⟩
          exact ⟨⟨wf.room, wf.cameras, wf.counted.after adds countsOn⟩, adds⟩
      · exact keeps_refl wf
    · exact keeps_refl wf

theorem linkStream_unchanged {handles : Handles} {camera : Camera}
    (found : ctrl.cameraByHandler handles.camera = some camera)
    (stale : Stale .linkStream handles ctrl) :
    camera.linkStream handles ctrl.history = ⟨camera, ctrl.history, 0⟩ := by
  obtain ⟨place, -⟩ := cameraByHandler_some found
  obtain ⟨handle, given, other, notIn⟩ := stale_below found stale
  refine Camera.linkStream_refuses (wf.cameras camera (List.mem_of_getElem? place))
    ⟨handle, ?_, fun member => notIn (mem_handles_camera place member)⟩ _
  exact (List.mem_cons.mp given).resolve_left other

theorem operate_keeps {operation : Operation} {handles : Handles} {outcome : Outcome}
    (links : operation = .linkStream → Stale .linkStream handles ctrl)
    (countsOn : ctrl.history < 65535) :
    Keeps ctrl (ctrl.operate operation handles outcome).1 := by
  unfold operate
  split
  · exact keeps_refl wf
  · rename_i camera found
    obtain ⟨place, -⟩ := cameraByHandler_some found
    have keeps : camera.Keeps ctrl.history (camera.call operation handles outcome ctrl.history) :=
      Camera.call_keeps (wf.cameras camera (List.mem_of_getElem? place)) fun isLink =>
        linkStream_unchanged wf found (links isLink)
    exact keeps_set wf place keeps.wf keeps.adds countsOn

end Calls

end CamCtrl

/-- A handle that is given beside that of the camera is that of the channel, or of a stream. -/
theorem given_below {operation : Operation} {handles : Handles}
    (noLink : operation ≠ .linkStream) (other : handle ≠ handles.camera)
    (given : handle ∈ operation.given handles) :
    operation.level ≠ .camera ∧ handle = handles.channel ∨
      operation.level = .stream ∧ handle = handles.stream := by
  unfold Operation.given at given
  split at given
  · exact absurd rfl noLink
  · cases level : operation.level <;> simp_all

/-- An operation refuses a handle that is not in use, and changes nothing. -/
theorem CamCtrl.operate_refuses (wf : ctrl.Wf) {operation : Operation}
    {handles : Handles} {outcome : Outcome} {next : CamCtrl}
    (clear : Clear ctrl (.operate operation handles outcome) next)
    (stale : Stale operation handles ctrl) :
    IsError operation (ctrl.operate operation handles outcome).2 ∧
      (ctrl.operate operation handles outcome).1 = ctrl := by
  unfold operate
  split
  · exact ⟨isError_noCamera operation, rfl⟩
  · rename_i camera found
    obtain ⟨place, -⟩ := cameraByHandler_some found
    have cameraWf := wf.cameras camera (List.mem_of_getElem? place)
    obtain ⟨stops, ignored⟩ := clear camera found
    obtain ⟨handle, given, other, notIn⟩ := stale_below found stale
    have refused : ∃ rc, camera.call operation handles outcome ctrl.history =
        ⟨some camera, ctrl.history, rc⟩ ∧ IsError operation rc := by
      by_cases isLink : operation = .linkStream
      · subst isLink
        refine ⟨0, ?_, rfl⟩
        rw [Camera.call, linkStream_unchanged wf found stale, Answer.map]
      · have below := given_below isLink other given
        have level : operation.level ≠ .camera := by
          rcases below with ⟨level, -⟩ | ⟨level, -⟩
          · exact level
          · rw [level]
            decide
        have strangers : handles.channel ∉ ctrl.handles ∨
            operation.level = .stream ∧ handles.stream ∉ ctrl.handles := by
          rcases below with ⟨-, rfl⟩ | ⟨level, rfl⟩
          · exact Or.inl notIn
          · exact Or.inr ⟨level, notIn⟩
        obtain ⟨rc, same, isError⟩ := Camera.onChannel_refuses cameraWf
          (fun _ => mem_handles_camera place) isLink strangers stops ignored outcome ctrl.history
        exact ⟨rc, by rw [Camera.call_onChannel isLink level, same, Answer.map], isError⟩
    obtain ⟨rc, same, isError⟩ := refused
    rw [same]
    refine ⟨isError, ?_⟩
    dsimp only
    rw [set_same place]

/-- One call: the table stays in order, and what is to hold does. -/
theorem step_safe {numCam : Nat} {event : Event} (wf : ctrl.Wf)
    (links : LinksNone ctrl event (step numCam ctrl event))
    (countsOn : ctrl.history < 65535)
    (clear : Clear ctrl event (step numCam ctrl event)) :
    (step numCam ctrl event).Wf ∧ Safe ctrl event (step numCam ctrl event) := by
  have keeps : CamCtrl.Keeps ctrl (step numCam ctrl event) := by
    cases event with
    | cameraOpen cameraIdx malloc outcome => exact CamCtrl.cameraOpen_keeps wf _ _ _ _ countsOn
    | operate operation handles outcome =>
      refine CamCtrl.operate_keeps wf (fun isLink => ?_) countsOn
      subst isLink
      exact links handles outcome rfl
  refine ⟨keeps.wf, keeps.wf.counted.distinct, keeps.wf.counted.counted, keeps.adds.grows countsOn,
    fun handle notIn old member => ?_, ?_⟩
  · rcases keeps.adds.mem countsOn member with before | ⟨-, new, -⟩
    · exact notIn before
    · omega
  · rintro operation handles outcome rfl stale
    exact CamCtrl.operate_refuses wf clear stale

/--
In every history in which no stream is linked and the count does not wrap, and whose calls are
clear, the handles in use differ, are not zero and are not used again, and a handle that is not
in use is refused.
-/
theorem handles_distinct_and_refused {numCam maxNumSensors : Nat} (indexed : maxNumSensors ≤ 256)
    {events : List Event}
    (links : EachStep (step numCam) LinksNone (.empty maxNumSensors) events)
    (countsOn : EachStep (step numCam) CountsOn (.empty maxNumSensors) events)
    (clear : EachStep (step numCam) Clear (.empty maxNumSensors) events) :
    EachStep (step numCam) Safe (.empty maxNumSensors) events :=
  ((links.and countsOn).and clear).of_invariant CamCtrl.Wf
    (fun _ _ wf guarded => step_safe wf guarded.1.1 guarded.1.2 guarded.2)
    (CamCtrl.wf_empty indexed)

/-- An outcome that succeeds. -/
def Outcome.ok : Outcome :=
  ⟨0, 1, true, true⟩

/-- A camera is opened and gets a channel, that is deleted and then asked for a stream. -/
theorem handles_distinct_and_refused_deleted :
    EachStep (step 1) Safe (.empty 1)
      [.cameraOpen 0 true .ok, .operate .addChannel ⟨256, 0, 0, 0⟩ .ok,
        .operate .deleteChannel ⟨256, 512, 0, 0⟩ .ok,
        .operate .addStream ⟨256, 512, 0, 0⟩ .ok] := by
  have other : ∀ operation handles ctrl next,
      operation ≠ .stopChannel ∧ operation.ignoredWhenActive = false →
        Clear ctrl (.operate operation handles .ok) next := by
    rintro operation handles ctrl next ⟨noStop, passed⟩ camera -
    exact ⟨fun isStop => absurd isStop noStop, fun ignored => by simp [passed] at ignored⟩
  refine handles_distinct_and_refused (by decide) ⟨?_, ?_, ?_, ?_, trivial⟩
    ⟨?_, ?_, ?_, ?_, trivial⟩
    ⟨trivial, other _ _ _ _ ?_, other _ _ _ _ ?_, other _ _ _ _ ?_, trivial⟩
  all_goals first
    | rintro _ _ ⟨⟩
    | (unfold CountsOn; decide)
    | decide

/-- `stop_channel` of a channel that was never added succeeds. -/
theorem stopChannel_neverIssued :
    ¬ EachStep (step 1) Safe (.empty 1)
      [.cameraOpen 0 true .ok, .operate .stopChannel ⟨256, 512, 0, 0⟩ .ok] := by
  rintro ⟨-, safe, -⟩
  have stale : Stale .stopChannel ⟨256, 512, 0, 0⟩
      (step 1 (.empty 1) (.cameraOpen 0 true .ok)) :=
    ⟨512, by decide, by decide⟩
  have isError := (safe.refuses _ _ _ rfl stale).1
  exact absurd isError (by unfold IsError; decide)

end AnglerHal.ObjectHandles
