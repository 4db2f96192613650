import AnglerHal.LabelledRun

namespace AnglerHal.CameraTable

/-!
# The camera table of the camera interface

`camera_open` drops the global lock while it opens the device, and puts the new
object into the table afterwards.  A call is a sequence of steps of its thread:
the two critical sections of an open with `mm_camera_open` between them, the
statement that makes the address of the table of operations after the lock was
given up, the critical section of a close, and `mm_camera_close`.  A close may
come from any thread, with any handle.

How often an object was opened and closed is kept beside the table only to say
what the table owes to its callers.
-/

/-- `num_cam`, and the size of the table that it fits in. -/
structure Sensors where
  numCam : Nat
  maxNumSensors : Nat
  fits : numCam ≤ maxNumSensors
  indexed : maxNumSensors ≤ 256

/-- `mm_camera_obj_t`. -/
structure CameraObj where
  myHdl : Nat
  refCount : Nat
  deriving DecidableEq

/-- How far a thread is in its call. -/
inductive CallPhase where
  /-- Between the critical sections of an open; `rc` is what `mm_camera_open` returned. -/
  | opening (cameraIdx obj : Nat) (rc : Option Int)
  /-- A reference was added to the camera in this place of the table. -/
  | referenced (cameraIdx : Nat)
  /-- The object was put into the table. -/
  | published (obj : Nat)
  /-- The object was taken out of the table. -/
  | closing (obj : Nat)
  deriving DecidableEq

/--
`g_cam_ctrl.cam_obj`, the objects that are allocated, the calls of the threads,
and how often an open of an object succeeded and a close found it.  The locks
are in `InterfaceLocks`, the handles in `ObjectHandles`.
-/
structure CamCtrl where
  camObj : Nat → Option Nat
  objs : Nat → Option CameraObj
  nextObj : Nat
  calls : Nat → Option CallPhase
  opened : Nat → Nat
  closed : Nat → Nat

/-- No camera is open. -/
def CamCtrl.empty : CamCtrl where
  camObj := fun _ => none
  objs := fun _ => none
  nextObj := 0
  calls := fun _ => none
  opened := fun _ => 0
  closed := fun _ => 0

/--
One step of a thread.  `historyCount` is the count that a new handle gets; it
also advances for channels and streams.
-/
inductive TableEvent where
  | cameraOpen (thread cameraIdx : Nat) (malloc : Bool) (historyCount : Nat)
  | mmCameraOpen (thread : Nat) (rc : Int)
  | publish (thread : Nat)
  | returnVtbl (thread : Nat)
  | intfClose (thread cameraHandle : Nat)
  | mmCameraClose (thread : Nat)
  | intfErrorClose (thread cameraHandle : Nat)
  deriving DecidableEq

/--
A call has returned.  An open that succeeds returns the address inside the
object, or one made of a `NULL` entry of the table.
-/
inductive TableOutput where
  | opened (thread : Nat) (vtbl : Option Nat)
  | openFailed (thread : Nat) (rc : Int)
  | closed (thread : Nat) (rc : Int)
  deriving DecidableEq

/-- `mm_camera_util_generate_handler`: the count above the index. -/
def generateHandler (historyCount cameraIdx : Nat) : Nat :=
  historyCount * 256 + cameraIdx

/-- `mm_camera_util_get_index_by_handler`. -/
def indexByHandler (handler : Nat) : Nat :=
  handler % 256

/-- `mm_camera_util_get_camera_by_handler`. -/
def CamCtrl.cameraByHandler (sensors : Sensors) (camHandle : Nat) (ctrl : CamCtrl) : Option Nat :=
  if indexByHandler camHandle < sensors.maxNumSensors then
    match ctrl.camObj (indexByHandler camHandle) with
    | none => none
    | some obj =>
      match ctrl.objs obj with
      | none => none
      | some cam => if camHandle = cam.myHdl then some obj else none
  else
    none

/-- Set how far a thread is. -/
def CamCtrl.setCall (thread : Nat) (phase : Option CallPhase) (ctrl : CamCtrl) : CamCtrl :=
  { ctrl with calls := Function.update ctrl.calls thread phase }

/-- `-EINVAL`. -/
def einval : Int :=
  -22

/-- The first critical section of `camera_open`. -/
def CamCtrl.cameraOpen (sensors : Sensors) (thread cameraIdx : Nat) (malloc : Bool)
    (historyCount : Nat)
    (ctrl : CamCtrl) : Option (CamCtrl × List TableOutput) :=
  if sensors.numCam ≤ cameraIdx then
    some (ctrl, [.openFailed thread einval])
  else
    match ctrl.camObj cameraIdx with
    | some obj =>
      -- opened already
      match ctrl.objs obj with
      | none =>
        none
      | some cam =>
        let added :=
          { ctrl with
              objs :=
                Function.update ctrl.objs obj (some { cam with refCount := cam.refCount + 1 })
              opened :=
                Function.update ctrl.opened obj (ctrl.opened obj + 1) }
        some (added.setCall thread (some (.referenced cameraIdx)), [])
    | none =>
      if malloc then
        let cam : CameraObj :=
          { myHdl := generateHandler historyCount cameraIdx
            refCount := 1 }
        let allocated :=
          { ctrl with
              objs := Function.update ctrl.objs ctrl.nextObj (some cam)
              nextObj := ctrl.nextObj + 1 }
        some (allocated.setCall thread (some (.opening cameraIdx ctrl.nextObj none)), [])
      else
        some (ctrl, [.openFailed thread einval])

/-- The second critical section of `camera_open`. -/
def CamCtrl.publish (thread cameraIdx obj : Nat) (rc : Int)
    (ctrl : CamCtrl) : CamCtrl × List TableOutput :=
  if rc ≠ 0 then
    let emptied := { ctrl with
          camObj := Function.update ctrl.camObj cameraIdx none
          objs := Function.update ctrl.objs obj none }
    (emptied.setCall thread none, [.openFailed thread rc])
  else
    let filled := { ctrl with
          camObj := Function.update ctrl.camObj cameraIdx (some obj)
          opened := Function.update ctrl.opened obj (ctrl.opened obj + 1) }
    (filled.setCall thread (some (.published obj)), [])

/-- The critical section of `mm_camera_intf_close`. -/
def CamCtrl.intfClose (sensors : Sensors) (thread cameraHandle : Nat)
    (ctrl : CamCtrl) : CamCtrl × List TableOutput :=
  match ctrl.cameraByHandler sensors cameraHandle with
  | none => (ctrl, [.closed thread (-1)])
  | some obj =>
    match ctrl.objs obj with
    | none => (ctrl, [.closed thread (-1)])
    | some cam =>
      let dropped := { ctrl with
            objs :=
              Function.update ctrl.objs obj (some { cam with refCount := cam.refCount - 1 })
            closed :=
              Function.update ctrl.closed obj (ctrl.closed obj + 1) }
      if 0 < cam.refCount - 1 then
        (dropped, [.closed thread 0])
      else
        let emptied := { dropped with
              camObj :=
                Function.update ctrl.camObj (indexByHandler cameraHandle) none }
        (emptied.setCall thread (some (.closing obj)), [])

/--
A thread that is in no call starts one; a thread in a call goes on with it.
-/
def tableStep (sensors : Sensors) (ctrl : CamCtrl) :
    TableEvent → Option (CamCtrl × List TableOutput)
  | .cameraOpen thread cameraIdx malloc historyCount =>
    match ctrl.calls thread with
    | none => ctrl.cameraOpen sensors thread cameraIdx malloc historyCount
    | some _ => none
  | .mmCameraOpen thread rc =>
    match ctrl.calls thread with
    | some (.opening cameraIdx obj none) =>
      some (ctrl.setCall thread (some (.opening cameraIdx obj (some rc))), [])
    | _ => none
  | .publish thread =>
    match ctrl.calls thread with
    | some (.opening cameraIdx obj (some rc)) => some (ctrl.publish thread cameraIdx obj rc)
    | _ => none
  | .returnVtbl thread =>
    match ctrl.calls thread with
    | some (.referenced cameraIdx) =>
      some (ctrl.setCall thread none, [.opened thread (ctrl.camObj cameraIdx)])
    | some (.published obj) => some (ctrl.setCall thread none, [.opened thread (some obj)])
    | _ => none
  | .intfClose thread cameraHandle =>
    match ctrl.calls thread with
    | none => some (ctrl.intfClose sensors thread cameraHandle)
    | some _ => none
  | .mmCameraClose thread =>
    match ctrl.calls thread with
    | some (.closing obj) =>
      let freed := { ctrl with objs := Function.update ctrl.objs obj none }
      some (freed.setCall thread none, [.closed thread 0])
    | _ => none
  | .intfErrorClose thread cameraHandle =>
    -- the descriptors of the last user are closed, the table stays
    match ctrl.calls thread with
    | none =>
      some (ctrl, [.closed thread (if (ctrl.cameraByHandler sensors cameraHandle).isSome then
          0
        else
          -1)])
    | some _ => none

/-! ## What the table owes to its callers -/

/-- The object is found under its handle. -/
def CamCtrl.Found (sensors : Sensors) (obj : Nat) (ctrl : CamCtrl) : Prop :=
  ∃ cam, ctrl.objs obj = some cam ∧ ctrl.cameraByHandler sensors cam.myHdl = some obj

/-- The object has users, or a call that makes it the first one. -/
def CamCtrl.Live (cameraIdx obj : Nat) (ctrl : CamCtrl) : Prop :=
  ∃ cam, ctrl.objs obj = some cam ∧ 0 < cam.refCount ∧ indexByHandler cam.myHdl = cameraIdx

/--
An object that was opened more often than closed is found, its count is the
number of its outstanding opens, and a camera has one live object.
-/
structure TableSound (sensors : Sensors) (ctrl : CamCtrl) : Prop where
  found : ∀ obj, ctrl.closed obj < ctrl.opened obj → ctrl.Found sensors obj
  counted : ∀ obj cam, ctrl.closed obj < ctrl.opened obj → ctrl.objs obj = some cam →
        cam.refCount = ctrl.opened obj - ctrl.closed obj
  single : ∀ cameraIdx first second,
      ctrl.Live cameraIdx first → ctrl.Live cameraIdx second → first = second

/-- The caller does not get an address of an object that is freed. -/
def TableOutput.Valid (ctrl : CamCtrl) : TableOutput → Prop
  | .opened _ vtbl => ∃ obj, vtbl = some obj ∧ (ctrl.objs obj).isSome = true
  | _ => True

/--
The step ends in a sound table, returns no address of a freed object, and
leaves the table as it was when it ends an open that failed.
-/
def TableSoundStep (sensors : Sensors) (ctrl : CamCtrl) (event : TableEvent) : Prop :=
  ∀ next outputs, tableStep sensors ctrl event = some (next, outputs) → TableSound sensors next ∧
        (∀ output ∈ outputs, output.Valid next) ∧
        (∀ thread rc, .openFailed thread rc ∈ outputs → next.camObj = ctrl.camObj)

/-- The thread is between the critical sections of an open. -/
def CamCtrl.Opening (thread cameraIdx obj : Nat) (ctrl : CamCtrl) : Prop :=
  ∃ rc, ctrl.calls thread = some (.opening cameraIdx obj rc)

/--
A call that allocates a new object finds no other open of the camera between
its critical sections.  A call that returns an address comes before the closes
of the other users have emptied the slot it referenced, or freed its object.
-/
def TableCareful (sensors : Sensors) (ctrl : CamCtrl) : TableEvent → Prop
  | .cameraOpen thread cameraIdx malloc _ =>
    ctrl.calls thread = none →
    cameraIdx < sensors.numCam →
    ctrl.camObj cameraIdx = none →
    malloc = true → ∀ other obj, ¬ ctrl.Opening other cameraIdx obj
  | .returnVtbl thread =>
    (∀ cameraIdx, ctrl.calls thread = some (.referenced cameraIdx) → ctrl.camObj cameraIdx ≠ none) ∧
    (∀ obj, ctrl.calls thread = some (.published obj) → (ctrl.objs obj).isSome = true)
  | _ => True

end AnglerHal.CameraTable
