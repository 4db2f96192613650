import Mathlib.Data.List.Basic

namespace AnglerHal.CameraDiscovery

/-!
# Camera discovery

`get_num_of_cameras` counts the media devices of cameras and keeps the names of their
video nodes, `get_sensor_info` keeps what the sensors say, and `sort_camera_info` puts
the back cameras in front.  A function has no result when it indexes an array of
`MM_CAMERA_MAX_NUM_SENSORS` entries outside of it.
-/

/-- What the kernel headers define. -/
structure Platform where
  /-- `MM_CAMERA_MAX_NUM_SENSORS`. -/
  maxNumSensors : Nat
  msmConfigurationName : String
  msmCameraName : String

/-- `type` and `group_id` of an entity, as far as they are looked at. -/
inductive EntityKind where
  /-- `MEDIA_ENT_T_DEVNODE_V4L` of `QCAMERA_VNODE_GROUP_ID`. -/
  | vnode
  /-- `MEDIA_ENT_T_V4L2_SUBDEV` of `MSM_CAMERA_SUBDEV_SENSOR`. -/
  | sensor
  /-- `MEDIA_ENT_T_V4L2_SUBDEV` of `MSM_CAMERA_SUBDEV_SENSOR_INIT`. -/
  | sensorInit
  | other
  deriving DecidableEq

/-- `media_entity_desc`. -/
structure Entity where
  kind : EntityKind
  flags : UInt32
  name : String
  deriving DecidableEq

/-- A media device: its model, unless `MEDIA_IOC_DEVICE_INFO` fails, and its entities. -/
structure MediaDevice where
  model : Option String
  entities : List Entity
  deriving DecidableEq

/-- What the three loops over `/dev/media%d` find, and what else is asked for. -/
structure Kernel where
  initDevices : List MediaDevice
  cameraDevices : List MediaDevice
  sensorDevices : List MediaDevice
  /-- Whether `open` succeeds, with no name for a buffer that nothing was written to. -/
  opens : Option String → Bool
  /-- `vold.decrypt` is 1. -/
  decrypt : Bool
  /-- `gMmCameraIntfLogLevel >= 2`, where `CDBG` reads its arguments. -/
  logs : Bool

/-- `camera_info`. -/
structure CameraInfo where
  facing : Nat
  orientation : Nat
  deriving DecidableEq

/-- `CAMERA_FACING_BACK`. -/
def cameraFacingBack : Nat :=
  0

/-- `CAMERA_FACING_FRONT`. -/
def cameraFacingFront : Nat :=
  1

/-- `mm_camera_ctrl_t`, without the objects. -/
structure CameraCtrl where
  num_cam : Int8
  video_dev_name : Nat → String
  info : Nat → CameraInfo

/-- Whether an `int8_t` indexes an array of the given size. -/
def Indexes (size : Nat) (index : Int8) : Prop :=
  0 ≤ index.toInt ∧ index.toInt < size

instance (size : Nat) (index : Int8) : Decidable (Indexes size index) :=
  inferInstanceAs (Decidable (_ ∧ _))

/-- The loop that looks for the `sensor_init` subdevice: the name that it leaves. -/
def subdevName (platform : Platform) : List MediaDevice → Option String → Option String
  | [], name => name
  | device :: rest, name =>
    match device.model with
    | none => name
    | some model =>
      if model ≠ platform.msmConfigurationName then
        subdevName platform rest name
      else
        match device.entities.find? (·.kind = .sensorInit) with
        | some entity =>
          -- `snprintf` leaves 31 of the characters.
          subdevName platform rest (some (.ofList (("/dev/" ++ entity.name).toList.take 31)))
        | none => subdevName platform rest name

/-- The loop of `get_num_of_cameras` over the cameras. -/
def cameraLoop (platform : Platform) (logs : Bool) :
    List MediaDevice → Int8 → (Nat → String) → Option (Int8 × (Nat → String))
  | [], num_cameras, names => some (num_cameras, names)
  | device :: rest, num_cameras, names =>
    match device.model with
    | none => some (0, names)
    | some model =>
      if model ≠ platform.msmCameraName then
        cameraLoop platform logs rest num_cameras names
      else
        let vnode := device.entities.find? (·.kind = .vnode)
        if (vnode.isSome ∨ logs) ∧ ¬ Indexes platform.maxNumSensors num_cameras then
          none
        else
          cameraLoop platform logs rest (num_cameras + 1)
            (match vnode with
            | some entity => Function.update names num_cameras.toInt.toNat entity.name
            | none => names)

/-- What a sensor says of its camera. -/
def sensorInfo (entity : Entity) : CameraInfo :=
  let temp := entity.flags >>> 8
  { facing := (temp >>> 8).toNat, orientation := ((temp &&& 0xFF) * 90).toNat }

/-- The loop of `get_sensor_info` over the entities of a device. -/
def entityLoop (platform : Platform) :
    List Entity → Nat → (Nat → CameraInfo) → Option (Nat × (Nat → CameraInfo))
  | [], num_cameras, info => some (num_cameras, info)
  | entity :: rest, num_cameras, info =>
    if entity.kind = .sensor then
      if num_cameras < platform.maxNumSensors then
        entityLoop platform rest (num_cameras + 1)
          (Function.update info num_cameras (sensorInfo entity))
      else
        none
    else
      entityLoop platform rest num_cameras info

/-- The loop of `get_sensor_info` over the devices; at its end it logs a name. -/
def sensorLoop (platform : Platform) (logs : Bool) :
    List MediaDevice → Nat → (Nat → CameraInfo) → Option (Nat → CameraInfo)
  | [], _, info => some info
  | device :: rest, num_cameras, info =>
    match device.model with
    | none => some info
    | some model =>
      if model ≠ platform.msmConfigurationName then
        sensorLoop platform logs rest num_cameras info
      else
        match entityLoop platform device.entities num_cameras info with
        | none => none
        | some (num_cameras, info) =>
          if logs ∧ ¬ num_cameras < platform.maxNumSensors then
            none
          else
            sensorLoop platform logs rest num_cameras info

/-- The pair of the arrays in one place. -/
def CameraCtrl.pair (ctrl : CameraCtrl) (index : Nat) : CameraInfo × String :=
  (ctrl.info index, ctrl.video_dev_name index)

/-- A loop of `sort_camera_info`: the cameras that face one way, behind those saved before. -/
def saveLoop (platform : Platform) (ctrl : CameraCtrl) (facing : Nat) :
    List Nat → List (CameraInfo × String) → Option (List (CameraInfo × String))
  | [], temp => some temp
  | index :: rest, temp =>
    if index < platform.maxNumSensors then
      if (ctrl.info index).facing = facing then
        if temp.length < platform.maxNumSensors then
          saveLoop platform ctrl facing rest (temp ++ [ctrl.pair index])
        else
          none
      else
        saveLoop platform ctrl facing rest temp
    else
      none

/-- The indices below `num_cam`. -/
def CameraCtrl.indices (ctrl : CameraCtrl) : List Nat :=
  List.range ctrl.num_cam.toInt.toNat

/-- `sort_camera_info`. -/
def sortCameraInfo (platform : Platform) (ctrl : CameraCtrl) : Option CameraCtrl :=
  match saveLoop platform ctrl cameraFacingBack ctrl.indices [] with
  | none => none
  | some back =>
    match saveLoop platform ctrl cameraFacingFront ctrl.indices back with
    | none => none
    | some temp =>
      if (temp.length : Int) = ctrl.num_cam.toInt then
        some { ctrl with
          info := fun index => (temp.map Prod.fst).getD index ⟨0, 0⟩
          video_dev_name := fun index => (temp.map Prod.snd).getD index "" }
      else
        some ctrl

/-- The part of `get_num_of_cameras` that fills the arrays. -/
def enumerate (platform : Platform) (kernel : Kernel) (ctrl : CameraCtrl) : Option CameraCtrl :=
  match cameraLoop platform kernel.logs kernel.cameraDevices 0 ctrl.video_dev_name with
  | none => none
  | some (num_cam, names) =>
    (sensorLoop platform kernel.logs kernel.sensorDevices 0 ctrl.info).map fun info =>
      ⟨num_cam, names, info⟩

/-- Whether `get_num_of_cameras` comes to the enumeration. -/
def Kernel.Enumerates (platform : Platform) (kernel : Kernel) : Prop :=
  kernel.decrypt = false ∧ kernel.opens (subdevName platform kernel.initDevices none) = true

instance (platform : Platform) (kernel : Kernel) : Decidable (kernel.Enumerates platform) :=
  inferInstanceAs (Decidable (_ ∧ _))

/-- `get_num_of_cameras`. -/
def getNumOfCameras (platform : Platform) (kernel : Kernel) (ctrl : CameraCtrl) :
    Option (UInt8 × CameraCtrl) :=
  if kernel.Enumerates platform then
    ((enumerate platform kernel ctrl).bind (sortCameraInfo platform)).map fun ctrl =>
      (ctrl.num_cam.toUInt8, ctrl)
  else
    some (0, ctrl)

/-! ## What is to hold -/

/-- The cameras that are discovered. -/
def CameraCtrl.cameras (ctrl : CameraCtrl) : List (CameraInfo × String) :=
  ctrl.indices.map ctrl.pair

/-- A camera on the back. -/
def isBack (camera : CameraInfo × String) : Bool :=
  camera.1.facing == cameraFacingBack

/-- A camera on the front. -/
def isFront (camera : CameraInfo × String) : Bool :=
  camera.1.facing == cameraFacingFront

/-- The cameras are sorted: the back cameras first, each group in the order that it had. -/
structure Sorted (before after : List (CameraInfo × String)) : Prop where
  perm : after.Perm before
  backFirst : after = after.filter isBack ++ after.filter isFront
  back : after.filter isBack = before.filter isBack
  front : after.filter isFront = before.filter isFront

/-- What sorting is to do: sort the cameras, or nothing when one faces neither way. -/
def SortsCameras (before after : CameraCtrl) : Prop :=
  if ∀ camera ∈ before.cameras, isBack camera ∨ isFront camera then
    Sorted before.cameras after.cameras
  else
    after = before

/-- What is to hold of a discovery: the arrays are indexed inside, and the cameras sorted. -/
def Discovers (platform : Platform) (kernel : Kernel) (ctrl : CameraCtrl) : Prop :=
  kernel.Enumerates platform → ∃ found, enumerate platform kernel ctrl = some found ∧
    ∃ sorted, getNumOfCameras platform kernel ctrl = some (sorted.num_cam.toUInt8, sorted) ∧
      SortsCameras found sorted

/-! ## When it holds -/

/-- The devices in front of the first for which `MEDIA_IOC_DEVICE_INFO` fails. -/
def reached (devices : List MediaDevice) : List MediaDevice :=
  devices.takeWhile (·.model.isSome)

/-- The devices of cameras. -/
def cameraDevices (platform : Platform) (devices : List MediaDevice) : List MediaDevice :=
  (reached devices).filter (·.model = some platform.msmCameraName)

/-- The devices that have the sensors. -/
def configurations (platform : Platform) (devices : List MediaDevice) : List MediaDevice :=
  (reached devices).filter (·.model = some platform.msmConfigurationName)

/-- How many sensors there are. -/
def numSensors (platform : Platform) (devices : List MediaDevice) : Nat :=
  ((configurations platform devices).flatMap MediaDevice.entities).countP (·.kind = .sensor)

/-- Every camera whose name is kept or logged has a number that indexes the array. -/
def CamerasFit (platform : Platform) (kernel : Kernel) : Prop :=
  ∀ number device, (cameraDevices platform kernel.cameraDevices)[number]? = some device →
    (kernel.logs ∨ ∃ entity ∈ device.entities, entity.kind = .vnode) →
      Indexes platform.maxNumSensors (.ofNat number)

/-- The sensors fit into the array, and leave a place where the next name is logged. -/
def SensorsFit (platform : Platform) (kernel : Kernel) : Prop :=
  numSensors platform kernel.sensorDevices ≤ platform.maxNumSensors ∧
    (kernel.logs = true → configurations platform kernel.sensorDevices ≠ [] →
      numSensors platform kernel.sensorDevices < platform.maxNumSensors)

/-- The number of cameras fits as well, unless a device fails and there are none. -/
def NumberFits (platform : Platform) (kernel : Kernel) : Prop :=
  (∀ device ∈ kernel.cameraDevices, device.model ≠ none) →
    (Int8.ofNat (cameraDevices platform kernel.cameraDevices).length).toInt ≤
      platform.maxNumSensors

variable {start facing : Nat} {temp : List (CameraInfo × String)}

/-! ## The cameras -/

section Enumeration

variable {platform : Platform} {logs : Bool} {device : MediaDevice} {devices : List MediaDevice}

@[simp] private theorem reached_cons_of_none (failed : device.model = none) :
    reached (device :: devices) = [] := by
  simp [reached, failed]

@[simp] private theorem reached_cons_of_some {model : String} (named : device.model = some model) :
    reached (device :: devices) = device :: reached devices := by
  simp [reached, named]

/-- The loop over the cameras ends well exactly if it indexes the names inside. -/
private theorem cameraLoop_isSome (platform : Platform) (logs : Bool)
    (devices : List MediaDevice) (start : Nat) (names : Nat → String) :
    (cameraLoop platform logs devices (.ofNat start) names).isSome ↔
      ∀ number device, (cameraDevices platform devices)[number]? = some device →
        (logs ∨ ∃ entity ∈ device.entities, entity.kind = .vnode) →
          Indexes platform.maxNumSensors (.ofNat (start + number)) := by
  induction devices generalizing start names with
  | nil => simp [cameraLoop, cameraDevices, reached]
  | cons device devices ih =>
    cases named : device.model with
    | none => simp [cameraLoop, cameraDevices, named]
    | some model =>
      by_cases camera : model = platform.msmCameraName
      · have list : cameraDevices platform (device :: devices) =
            device :: cameraDevices platform devices := by
          simp [cameraDevices, named, camera]
        have used : ((device.entities.find? (·.kind = .vnode)).isSome ∨ logs) ↔
            (logs ∨ ∃ entity ∈ device.entities, entity.kind = .vnode) := by
          simp [List.find?_isSome, or_comm]
        have rest := ih (start + 1)
        simp only [Int8.ofNat_add start 1] at rest
        rw [list]
        by_cases outside : ((device.entities.find? (·.kind = .vnode)).isSome ∨ logs) ∧
            ¬ Indexes platform.maxNumSensors (.ofNat start)
        · simp only [cameraLoop, named, camera, ne_eq, not_true_eq_false, if_false,
            if_pos outside, Option.isSome_none, Bool.false_eq_true, false_iff]
          exact fun all => outside.2 (all 0 device rfl (used.mp outside.1))
        · simp only [cameraLoop, named, camera, ne_eq, not_true_eq_false, if_false,
            if_neg outside]
          refine (rest _).trans ⟨fun all number found kept used' => ?_,
            fun all number found kept used' => ?_⟩
          · cases number with
            | zero =>
              cases kept
              exact not_not.mp fun no => outside ⟨used.mpr used', no⟩
            | succ number =>
              have := all number found kept used'
              rwa [Nat.add_assoc, Nat.add_comm 1] at this
          · have := all (number + 1) found kept used'
            rwa [Nat.add_comm number 1, ← Nat.add_assoc] at this
      · have list : cameraDevices platform (device :: devices) =
            cameraDevices platform devices := by
          simp [cameraDevices, named, camera]
        simp only [cameraLoop, named, ne_eq, camera, not_false_eq_true, if_true, list]
        exact ih start names

/-- The number that the loop ends with. -/
private theorem cameraLoop_number (start : Nat) {names names' : Nat → String} {number : Int8}
    (ends : cameraLoop platform logs devices (.ofNat start) names = some (number, names')) :
    number = if ∀ device ∈ devices, device.model ≠ none then
      .ofNat (start + (cameraDevices platform devices).length) else 0 := by
  induction devices generalizing start names with
  | nil => simpa [cameraLoop, cameraDevices, reached, eq_comm] using congrArg (·.map Prod.fst) ends
  | cons device devices ih =>
    cases named : device.model with
    | none =>
      have : number = 0 := by
        simpa [cameraLoop, named, eq_comm] using congrArg (·.map Prod.fst) ends
      simp [this, named]
    | some model =>
      by_cases camera : model = platform.msmCameraName
      · have list : cameraDevices platform (device :: devices) =
            device :: cameraDevices platform devices := by
          simp [cameraDevices, named, camera]
        simp only [cameraLoop, named, camera, ne_eq, not_true_eq_false, if_false] at ends
        split at ends
        · cases ends
        · rw [show (1 : Int8) = .ofNat 1 from rfl, ← Int8.ofNat_add] at ends
          have := ih _ ends
          simpa [list, named, Nat.add_assoc, Nat.add_comm 1] using this
      · have list : cameraDevices platform (device :: devices) =
            cameraDevices platform devices := by
          simp [cameraDevices, named, camera]
        simp only [cameraLoop, named, ne_eq, camera, not_false_eq_true, if_true] at ends
        simpa [list, named] using ih _ ends

/-- The loop over the entities ends well exactly if the sensors fit. -/
private theorem entityLoop_isSome (entities : List Entity)
    (info : Nat → CameraInfo) (below : start ≤ platform.maxNumSensors) :
    (entityLoop platform entities start info).isSome ↔
      start + entities.countP (·.kind = .sensor) ≤ platform.maxNumSensors := by
  induction entities generalizing start info with
  | nil => simpa [entityLoop] using below
  | cons entity entities ih =>
    by_cases sensor : entity.kind = .sensor
    · simp only [entityLoop, sensor, if_true, List.countP_cons, decide_true]
      by_cases room : start < platform.maxNumSensors
      · rw [if_pos room, ih _ room]
        omega
      · rw [if_neg room]
        simp only [Option.isSome_none, Bool.false_eq_true, false_iff]
        omega
    · simpa [entityLoop, sensor] using ih info below

private theorem entityLoop_number {entities : List Entity} {number : Nat}
    {info info' : Nat → CameraInfo}
    (ends : entityLoop platform entities start info = some (number, info')) :
    number = start + entities.countP (·.kind = .sensor) := by
  induction entities generalizing start info with
  | nil => simpa [entityLoop, eq_comm] using congrArg (·.map Prod.fst) ends
  | cons entity entities ih =>
    by_cases sensor : entity.kind = .sensor
    · simp only [entityLoop, sensor, if_true] at ends
      split at ends
      · rw [ih ends]
        simp [sensor, Nat.add_assoc, Nat.add_comm 1]
      · cases ends
    · simp only [entityLoop, sensor, if_false] at ends
      simpa [sensor] using ih ends

/-- The loop over the sensors ends well exactly if they fit, with the name that is logged. -/
private theorem sensorLoop_isSome (logs : Bool) (devices : List MediaDevice) {start : Nat}
    (info : Nat → CameraInfo) (below : start ≤ platform.maxNumSensors) :
    (sensorLoop platform logs devices start info).isSome ↔
      start + numSensors platform devices ≤ platform.maxNumSensors ∧
        (logs = true → configurations platform devices ≠ [] →
          start + numSensors platform devices < platform.maxNumSensors) := by
  induction devices generalizing start info with
  | nil => simpa [sensorLoop, numSensors, configurations, reached] using below
  | cons device devices ih =>
    cases named : device.model with
    | none => simpa [sensorLoop, numSensors, configurations, named] using below
    | some model =>
      by_cases configuration : model = platform.msmConfigurationName
      · have list : configurations platform (device :: devices) =
            device :: configurations platform devices := by
          simp [configurations, named, configuration]
        have sum : numSensors platform (device :: devices) =
            device.entities.countP (·.kind = .sensor) + numSensors platform devices := by
          simp [numSensors, list]
        have last : configurations platform devices = [] → numSensors platform devices = 0 := by
          intro none
          simp [numSensors, none]
        have fits := entityLoop_isSome device.entities info below
        rw [sum, list]
        cases ends : entityLoop platform device.entities start info with
        | none =>
          simp only [ends, Option.isSome_none, Bool.false_eq_true, false_iff] at fits
          simp only [sensorLoop, named, configuration, ne_eq, not_true_eq_false, if_false, ends,
            Option.isSome_none, Bool.false_eq_true, false_iff, not_and]
          omega
        | some result =>
          obtain ⟨number, info'⟩ := result
          simp only [ends, Option.isSome_some, true_iff] at fits
          have counted := entityLoop_number ends
          simp only [sensorLoop, named, configuration, ne_eq, not_true_eq_false, if_false, ends]
          by_cases full : logs ∧ ¬ number < platform.maxNumSensors
          · rw [if_pos full]
            simp only [Option.isSome_none, Bool.false_eq_true, false_iff, not_and, reduceCtorEq,
              not_false_eq_true, true_implies, full.1]
            omega
          · rw [if_neg full, ih info' (counted ▸ fits)]
            by_cases isLast : configurations platform devices = []
            · have := last isLast
              simp only [isLast, this, not_true_eq_false, ne_eq, false_implies, implies_true,
                reduceCtorEq, not_false_eq_true, true_implies]
              grind
            · simp only [isLast, ne_eq, reduceCtorEq, not_false_eq_true, true_implies]
              grind
      · have list : configurations platform (device :: devices) =
            configurations platform devices := by
          simp [configurations, named, configuration]
        simpa [sensorLoop, named, configuration, numSensors, list] using ih info below

end Enumeration

/-! ## Sorting -/

section Sorting

variable {platform : Platform} {ctrl : CameraCtrl}

/-- A loop of `sort_camera_info` reads the arrays outside of them. -/
private theorem saveLoop_eq_none {indices : List Nat}
    (outside : ∃ index ∈ indices, ¬ index < platform.maxNumSensors) :
    saveLoop platform ctrl facing indices temp = none := by
  induction indices generalizing temp with
  | nil => simp at outside
  | cons index rest ih =>
    by_cases inside : index < platform.maxNumSensors
    · have later : ∃ index ∈ rest, ¬ index < platform.maxNumSensors := by
        obtain ⟨other, among, no⟩ := outside
        rcases List.mem_cons.mp among with rfl | among
        · exact absurd inside no
        · exact ⟨other, among, no⟩
      simp [saveLoop, inside, ih later]
    · simp [saveLoop, inside]

/-- What a loop saves where there is room. -/
private theorem saveLoop_eq_some {indices : List Nat}
    (inside : ∀ index ∈ indices, index < platform.maxNumSensors)
    (room : temp.length + ((indices.map ctrl.pair).filter (·.1.facing == facing)).length ≤
      platform.maxNumSensors) :
    saveLoop platform ctrl facing indices temp =
      some (temp ++ (indices.map ctrl.pair).filter (·.1.facing == facing)) := by
  induction indices generalizing temp with
  | nil => simp [saveLoop]
  | cons index rest ih =>
    have first := inside index List.mem_cons_self
    have others := fun index among => inside index (List.mem_cons_of_mem _ among)
    by_cases faces : (ctrl.info index).facing = facing
    · have kept : ((ctrl.pair index).1.facing == facing) = true := by
        simpa [CameraCtrl.pair] using faces
      rw [List.map_cons, List.filter_cons, kept, if_pos rfl, List.length_cons] at room
      have free : temp.length < platform.maxNumSensors := by omega
      have more : (temp ++ [ctrl.pair index]).length +
          ((rest.map ctrl.pair).filter (·.1.facing == facing)).length ≤
            platform.maxNumSensors := by
        rw [List.length_append, List.length_singleton]
        omega
      simpa [saveLoop, first, faces, free, kept] using ih others more
    · have dropped : ((ctrl.pair index).1.facing == facing) = false := by
        simpa [CameraCtrl.pair] using faces
      simp only [List.map_cons, List.filter_cons, dropped, Bool.false_eq_true, if_false] at room
      simpa [saveLoop, first, faces, dropped] using ih others room

/-- No camera faces both ways. -/
private theorem length_filter_add_le (cameras : List (CameraInfo × String)) :
    (cameras.filter isBack).length + (cameras.filter isFront).length ≤ cameras.length ∧
      ((cameras.filter isBack).length + (cameras.filter isFront).length = cameras.length ↔
        ∀ camera ∈ cameras, isBack camera ∨ isFront camera) := by
  induction cameras with
  | nil => simp
  | cons camera cameras ih =>
    obtain ⟨le, eq⟩ := ih
    have notBoth : isBack camera → isFront camera = false := by
      simp only [isBack, isFront, beq_iff_eq, cameraFacingBack, cameraFacingFront]
      intro back
      simp [back]
    rw [List.forall_mem_cons, ← eq]
    cases back : isBack camera with
    | true =>
      have front := notBoth back
      simp only [List.filter_cons, back, front, if_true, Bool.false_eq_true, if_false,
        List.length_cons, true_or, true_and]
      omega
    | false =>
      cases front : isFront camera <;>
        simp only [List.filter_cons, back, front, if_true, Bool.false_eq_true, if_false,
          List.length_cons, or_true, or_self, true_and, false_and, iff_false] <;> omega

/-- The cameras of the arrays that are written back. -/
private theorem cameras_of_temp {num_cam : Int8}
    (length : temp.length = num_cam.toInt.toNat) :
    CameraCtrl.cameras ⟨num_cam, fun index => (temp.map Prod.snd).getD index "",
      fun index => (temp.map Prod.fst).getD index ⟨0, 0⟩⟩ = temp := by
  refine List.ext_getElem (by simp [CameraCtrl.cameras, CameraCtrl.indices, length]) ?_
  intro index _ inside
  simp [CameraCtrl.cameras, CameraCtrl.indices, CameraCtrl.pair, List.getD, inside]

private theorem sorted_filter {cameras : List (CameraInfo × String)}
    (all : ∀ camera ∈ cameras, isBack camera ∨ isFront camera) :
    Sorted cameras (cameras.filter isBack ++ cameras.filter isFront) := by
  have exclusive : ∀ camera, ¬ (isBack camera = true ∧ isFront camera = true) := by
    simp only [isBack, isFront, beq_iff_eq, cameraFacingBack, cameraFacingFront]
    omega
  have noFront : (cameras.filter isBack).filter isFront = [] := by
    simp only [List.filter_filter, List.filter_eq_nil_iff, Bool.and_eq_true]
    exact fun camera _ both => exclusive camera ⟨both.2, both.1⟩
  have noBack : (cameras.filter isFront).filter isBack = [] := by
    simp only [List.filter_filter, List.filter_eq_nil_iff, Bool.and_eq_true]
    exact fun camera _ both => exclusive camera both
  have back : (cameras.filter isBack ++ cameras.filter isFront).filter isBack =
      cameras.filter isBack := by
    rw [List.filter_append, noBack, List.append_nil, List.filter_filter]
    simp
  have front : (cameras.filter isBack ++ cameras.filter isFront).filter isFront =
      cameras.filter isFront := by
    rw [List.filter_append, noFront, List.nil_append, List.filter_filter]
    simp
  refine ⟨?_, ?_, back, front⟩
  · have : cameras.filter isFront = cameras.filter (fun camera => !isBack camera) := by
      refine List.filter_congr fun camera among => ?_
      have one := all camera among
      have notBoth := exclusive camera
      grind
    rw [this]
    exact List.filter_append_perm isBack cameras
  · rw [back, front]

/-- Sorting sorts, where the number of cameras fits. -/
private theorem sortCameraInfo_of_le (ctrl : CameraCtrl)
    (fits : ctrl.num_cam.toInt ≤ platform.maxNumSensors) :
    ∃ sorted, sortCameraInfo platform ctrl = some sorted ∧ sorted.num_cam = ctrl.num_cam ∧
      SortsCameras ctrl sorted := by
  have length : ctrl.cameras.length = ctrl.num_cam.toInt.toNat := by
    simp [CameraCtrl.cameras, CameraCtrl.indices]
  have inside : ∀ index ∈ ctrl.indices, index < platform.maxNumSensors := by
    simp only [CameraCtrl.indices, List.mem_range]
    omega
  obtain ⟨le, eq⟩ := length_filter_add_le ctrl.cameras
  have back : saveLoop platform ctrl cameraFacingBack ctrl.indices [] =
      some (ctrl.cameras.filter isBack) := by
    refine (saveLoop_eq_some inside ?_).trans (by rfl)
    change 0 + (ctrl.cameras.filter isBack).length ≤ _
    omega
  have front : saveLoop platform ctrl cameraFacingFront ctrl.indices
      (ctrl.cameras.filter isBack) =
        some (ctrl.cameras.filter isBack ++ ctrl.cameras.filter isFront) := by
    refine (saveLoop_eq_some inside ?_).trans (by rfl)
    change (ctrl.cameras.filter isBack).length + (ctrl.cameras.filter isFront).length ≤ _
    omega
  simp only [sortCameraInfo, back, front, List.length_append]
  by_cases all : ∀ camera ∈ ctrl.cameras, isBack camera ∨ isFront camera
  · have counted := eq.mpr all
    split
    case isTrue equal =>
      refine ⟨_, rfl, rfl, ?_⟩
      rw [SortsCameras, if_pos all, cameras_of_temp (by rw [List.length_append]; omega)]
      exact sorted_filter all
    case isFalse other =>
      refine ⟨_, rfl, rfl, ?_⟩
      have nothing : ctrl.cameras = [] := List.eq_nil_of_length_eq_zero (by omega)
      rw [SortsCameras, if_pos all, nothing]
      exact sorted_filter (by simp)
  · have fewer : ¬ ((ctrl.cameras.filter isBack).length +
        (ctrl.cameras.filter isFront).length : Nat) = ctrl.num_cam.toInt := by
      intro equal
      exact all (eq.mp (by omega))
    rw [if_neg fewer]
    exact ⟨_, rfl, rfl, by rw [SortsCameras, if_neg all]⟩

private theorem sortCameraInfo_isSome (platform : Platform) (ctrl : CameraCtrl) :
    (sortCameraInfo platform ctrl).isSome ↔ ctrl.num_cam.toInt ≤ platform.maxNumSensors := by
  refine ⟨fun ends => Int.not_lt.mp fun more => ?_, fun fits => ?_⟩
  · have outside : ∃ index ∈ ctrl.indices, ¬ index < platform.maxNumSensors := by
      refine ⟨platform.maxNumSensors, ?_, Nat.lt_irrefl _⟩
      simp only [CameraCtrl.indices, List.mem_range]
      omega
    rw [sortCameraInfo, saveLoop_eq_none outside] at ends
    cases ends
  · obtain ⟨sorted, ends, -⟩ := sortCameraInfo_of_le ctrl fits
    simp [ends]

end Sorting

/-- `get_num_of_cameras` indexes its arrays inside and sorts the cameras exactly if the
cameras and the sensors fit into the arrays. -/
theorem discovers_iff (platform : Platform) (kernel : Kernel) (ctrl : CameraCtrl) :
    Discovers platform kernel ctrl ↔
      (kernel.Enumerates platform →
        CamerasFit platform kernel ∧ SensorsFit platform kernel ∧ NumberFits platform kernel) := by
  refine imp_congr_right fun enumerates => ?_
  have cameras : (cameraLoop platform kernel.logs kernel.cameraDevices 0
      ctrl.video_dev_name).isSome ↔ CamerasFit platform kernel := by
    simpa [CamerasFit] using
      cameraLoop_isSome platform kernel.logs kernel.cameraDevices 0 ctrl.video_dev_name
  have sensors : (sensorLoop platform kernel.logs kernel.sensorDevices 0 ctrl.info).isSome ↔
      SensorsFit platform kernel := by
    simpa [SensorsFit] using sensorLoop_isSome kernel.logs kernel.sensorDevices ctrl.info
      (Nat.zero_le platform.maxNumSensors)
  rw [← cameras, ← sensors]
  cases names : cameraLoop platform kernel.logs kernel.cameraDevices 0 ctrl.video_dev_name with
  | none => simp [enumerate, names]
  | some result =>
    obtain ⟨num_cam, video_dev_name⟩ := result
    have number := cameraLoop_number 0 names
    cases info : sensorLoop platform kernel.logs kernel.sensorDevices 0 ctrl.info with
    | none => simp [enumerate, names, info]
    | some info' =>
      have found : enumerate platform kernel ctrl = some ⟨num_cam, video_dev_name, info'⟩ := by
        simp [enumerate, names, info]
      have fits : NumberFits platform kernel ↔ num_cam.toInt ≤ platform.maxNumSensors := by
        rw [number, NumberFits]
        split
        case isTrue all => rw [Nat.zero_add, imp_iff_right all]
        case isFalse some => simp [some]
      simp only [getNumOfCameras, if_pos enumerates, found, Option.bind_some, Option.some.injEq,
        exists_eq_left', Option.isSome_some, true_and, fits]
      refine ⟨fun ⟨sorted, ends, _⟩ => ?_, fun le => ?_⟩
      · refine (sortCameraInfo_isSome platform ⟨num_cam, video_dev_name, info'⟩).mp ?_
        cases sorts : sortCameraInfo platform ⟨num_cam, video_dev_name, info'⟩ with
        | none => simp [sorts] at ends
        | some => rfl
      · obtain ⟨sorted, ends, same, sorts⟩ :=
          sortCameraInfo_of_le ⟨num_cam, video_dev_name, info'⟩ le
        exact ⟨sorted, by simp [ends], sorts⟩

/-- A platform of five sensors. -/
def fiveSensors : Platform :=
  ⟨5, "msm_config", "msm_camera"⟩

/-- A configuration device, and six cameras with a video node. -/
def sixCameras : List MediaDevice :=
  ⟨some "msm_config", [⟨.sensorInit, 0, "v4l-subdev0"⟩]⟩ ::
    List.replicate 6 ⟨some "msm_camera", [⟨.vnode, 0, "video1"⟩]⟩

/-- The name of the sixth camera is written behind the array. -/
theorem discovers_sixCameras :
    ¬ Discovers fiveSensors ⟨sixCameras, sixCameras, sixCameras, (· = some "/dev/v4l-subdev0"),
      false, false⟩ ⟨0, fun _ => "", fun _ => ⟨0, 0⟩⟩ := by
  intro discovers
  obtain ⟨found, enumerates, -⟩ := discovers (by decide)
  have outside : (enumerate fiveSensors ⟨sixCameras, sixCameras, sixCameras,
      (· = some "/dev/v4l-subdev0"), false, false⟩
        ⟨0, fun _ => "", fun _ => ⟨0, 0⟩⟩).isSome = false := by
    decide
  rw [enumerates] at outside
  cases outside

end AnglerHal.CameraDiscovery
