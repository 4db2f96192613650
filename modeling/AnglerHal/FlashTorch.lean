import AnglerHal.HalCommon
import AnglerHal.LabelledRun
import AnglerHal.Strtol
import Mathlib.Data.Int.Init

namespace AnglerHal.FlashTorch

open CString Strtol

/-!
# The torch and the cameras

`QCameraFlash` keeps for every camera id the file descriptor of its flash,
whether the torch is on, and whether a camera has reserved the flash.  The
factory sets the torch, and opens and closes cameras of both versions of the
HAL.  A camera of the first version does not reserve the flash.

What the kernel, the camera interface and `getFlashInfo` return comes with the
call.  A call through a callback that is `NULL` has no next state, and neither
has the closing of a device that is not open.  A device with pending buffers
also ends the process when it is closed; such a run ends there.
-/

/-! ## Return values -/

/-- `EBUSY`. -/
def ebusy : Int :=
  16

/-- `ENODEV`. -/
def enodev : Int :=
  19

/-- `EINVAL`. -/
def einval : Int :=
  22

/-- `ENOSYS`. -/
def enosys : Int :=
  38

/-- `EALREADY`. -/
def ealready : Int :=
  114

/-- `FAILED_TRANSACTION`. -/
def failedTransaction : Int :=
  unknownError + 2

/-- What `ioctl` returns: `-1` for a failure. -/
def ioctlRc : Option Nat → Int
  | none => -1
  | some value => value

/-! ## One flash -/

/-- `m_flashFds`, `m_flashOn` and `m_cameraOpen` of one camera id. -/
structure FlashUnit where
  flashFd : Option Nat
  flashOn : Bool
  cameraOpen : Bool
  deriving DecidableEq

/--
What the calls out of one request return: `hasFlash` of `getFlashInfo`, the
`open` of the flash node, and the `ioctl` of each configuration.  The flash can
be switched off twice in one request.
-/
structure FlashEnv where
  hasFlash : Bool
  openNode : Option Nat
  init : Option Nat
  low : Option Nat
  off : Option Nat
  offAgain : Option Nat
  release : Option Nat
  deriving DecidableEq

/-- `initFlash`. -/
def FlashUnit.initFlash (env : FlashEnv) (flash : FlashUnit) : FlashUnit × Int :=
  if !env.hasFlash then
    (flash, -enosys)
  else if flash.cameraOpen then
    (flash, -ebusy)
  else if flash.flashFd.isSome then
    (flash, 0)
  else
    match env.openNode with
    | none => ({ flash with flashFd := none }, -ebusy)
    | some fd =>
      match env.init with
      | none => ({ flash with flashFd := none }, ioctlRc none)
      | some value => ({ flash with flashFd := some fd }, ioctlRc (some value))

/-- `setFlashMode`; `cfg` is the result of its `ioctl`. -/
def FlashUnit.setFlashMode (cfg : Option Nat) (mode : Bool) (flash : FlashUnit) : FlashUnit × Int :=
  if mode = flash.flashOn then
    (flash, -ealready)
  else if flash.flashFd.isNone then
    (flash, -einval)
  else
    match cfg with
    | none => (flash, ioctlRc none)
    | some value => ({ flash with flashOn := mode }, ioctlRc (some value))

/-- `deinitFlash`. -/
def FlashUnit.deinitFlash (off release : Option Nat) (flash : FlashUnit) : FlashUnit × Int :=
  if flash.flashFd.isNone then
    (flash, -einval)
  else
    ({ (flash.setFlashMode off false).1 with flashFd := none }, ioctlRc release)

/-- The reservation of `reserveFlashForCamera`, before it notifies. -/
def FlashUnit.reserve (env : FlashEnv) (flash : FlashUnit) : FlashUnit :=
  let dark := if flash.flashOn then
      ((flash.setFlashMode env.off false).1.deinitFlash env.offAgain env.release).1
    else
      flash
  { dark with cameraOpen := true }

/-! ## The factory -/

/-- `QCAMERA_TORCH_MODE_STATUS` of a camera id, as the framework is told. -/
inductive TorchModeStatus where
  | notAvailable
  | availableOff
  | availableOn
  deriving DecidableEq

/-- A call of `torch_mode_status_change`. -/
structure TorchStatus where
  cameraId : Bytes
  status : TorchModeStatus
  deriving DecidableEq

/-- The version of a camera device. -/
inductive DeviceVersion where
  | hal1
  | hal3
  deriving DecidableEq

/--
What does not change: `MM_CAMERA_MAX_NUM_SENSORS`, the cameras that were found,
their version, and the callbacks (`some true` when they have a
`torch_mode_status_change`).
-/
structure Factory where
  maxNumSensors : Nat
  numOfCameras : Nat
  version : DeviceVersion
  callbacks : Option Bool
  deriving DecidableEq

/-- `QCameraFlash` knows the camera id. -/
def Factory.valid (factory : Factory) (cameraId : Int) : Bool :=
  0 ≤ cameraId && cameraId < factory.maxNumSensors

/-- There is a camera of this id. -/
def Factory.present (factory : Factory) (cameraId : Int) : Bool :=
  0 ≤ cameraId && cameraId < factory.numOfCameras

/-- `mHalDescriptors` is not `NULL`. -/
def Factory.hasDescriptors (factory : Factory) : Bool :=
  0 < factory.numOfCameras && factory.numOfCameras ≤ factory.maxNumSensors

/-- The three arrays. -/
abbrev Units :=
  Int → FlashUnit

/-- A function of `QCameraFlash`, on the flash of one camera id. -/
def Factory.onUnit (factory : Factory) (cameraId : Int) (act : FlashUnit → FlashUnit × Int)
    (units : Units) : Units × Int :=
  if factory.valid cameraId then
    (Function.update units cameraId (act (units cameraId)).1, (act (units cameraId)).2)
  else
    (units, -einval)

/-- The notification of the flash module, and its return value. -/
def Factory.notify (factory : Factory) (env : FlashEnv) (cameraId : Int)
    (status : TorchModeStatus) : List TorchStatus × Int :=
  if factory.callbacks = some true then
    (if env.hasFlash then [{ cameraId := decimal (.ofInt cameraId), status }] else [], 0)
  else
    ([], -enosys)

/-- `reserveFlashForCamera`. -/
def Factory.reserveFlashForCamera (factory : Factory) (env : FlashEnv) (cameraId : Int)
    (units : Units) : Units × List TorchStatus × Int :=
  if !factory.valid cameraId then
    (units, [], -einval)
  else if (units cameraId).cameraOpen then
    (units, [], 0)
  else
    (Function.update units cameraId ((units cameraId).reserve env),
      factory.notify env cameraId .notAvailable)

/-- `releaseFlashFromCamera`. -/
def Factory.releaseFlashFromCamera (factory : Factory) (env : FlashEnv) (cameraId : Int)
    (units : Units) : Units × List TorchStatus × Int :=
  if !factory.valid cameraId then
    (units, [], -einval)
  else if !(units cameraId).cameraOpen then
    (units, [], 0)
  else
    (Function.update units cameraId { units cameraId with cameraOpen := false },
      factory.notify env cameraId .availableOff)

/-! ## `setTorchMode` -/

/--
The camera id of a text, when `setTorchMode` accepts it.  A number behind the
range of a `long` is `ERANGE`.
-/
def Factory.torchCamera (factory : Factory) (text : Bytes) : Option Int :=
  match numeral text with
  | none => none
  | some (value, rest) =>
    if value < -LongSize.lp64.max - 1 || LongSize.lp64.max < value || !factory.present value ||
        !rest.isEmpty then
      none
    else
      some value

/-- The notification of `setTorchMode`. -/
def Factory.torchStatus (factory : Factory) (text : Bytes)
    (status : TorchModeStatus) : Option (List TorchStatus) :=
  match factory.callbacks with
  | none => some []
  | some true => some [{ cameraId := text, status }]
  | some false => none

/-- What `setTorchMode` makes of a return value that is not 0. -/
def torchRc (rc : Int) : Int :=
  if rc = -ealready then 0 else rc

/-- `setTorchMode`. -/
def Factory.setTorchMode (factory : Factory) (env : FlashEnv) (text : Bytes) (on : Bool)
    (units : Units) : Option (Units × List TorchStatus × Int) :=
  match factory.torchCamera text with
  | none => some (units, [], -einval)
  | some cameraId =>
    if on then
      let inited := factory.onUnit cameraId (·.initFlash env) units
      if inited.2 = 0 then
        let lit := factory.onUnit cameraId (·.setFlashMode env.low true) inited.1
        if lit.2 = 0 then
          (factory.torchStatus text .availableOn).map fun told =>
            (lit.1, told, 0)
        else
          some (lit.1, [], torchRc lit.2)
      else
        some (inited.1, [], inited.2)
    else
      let dark := factory.onUnit cameraId (·.setFlashMode env.off false) units
      if dark.2 = 0 then
        let closed := factory.onUnit cameraId (·.deinitFlash env.offAgain env.release) dark.1
        if closed.2 = 0 then
          (factory.torchStatus text .availableOff).map fun told =>
            (closed.1, told, 0)
        else
          some (closed.1, [], closed.2)
      else
        some (dark.1, [], torchRc dark.2)

/-! ## Cameras -/

/-- A camera device; `cameraOpened` is its field `mCameraOpened`. -/
structure Device where
  cameraId : Int
  version : DeviceVersion
  cameraOpened : Bool
  deriving DecidableEq

/-- The flash module, and the devices that are open. -/
structure Hal where
  units : Units
  devices : List Device

/-- Before the first call. -/
def Hal.start : Hal where
  units := fun _ => { flashFd := none, flashOn := false, cameraOpen := false }
  devices := []

/--
What the calls out of one opening return: those of the flash, `camera_open` and
`register_event_notify`, and `openCamera` of the first version.
-/
structure OpenEnv where
  flash : FlashEnv
  cameraOpen : Int
  registerEvents : Int
  hal1Open : Int
  deriving DecidableEq

/-- `closeCamera` of the third version. -/
def Factory.closeCamera (factory : Factory) (env : FlashEnv) (device : Device)
    (units : Units) : Units × List TorchStatus :=
  let released := factory.releaseFlashFromCamera env device.cameraId units
  (released.1, released.2.1)

/-- The destructor of a device, as far as it concerns the flash. -/
def Factory.delete (factory : Factory) (env : FlashEnv) (device : Device)
    (units : Units) : Units × List TorchStatus :=
  match device.version with
  | .hal1 => (units, [])
  | .hal3 =>
    if device.cameraOpened then
      factory.closeCamera env device units
    else
      (units, [])

/-- `openCamera` of the third version, on a new device. -/
def Factory.openCamera (factory : Factory) (env : OpenEnv) (cameraId : Int)
    (units : Units) : Units × List TorchStatus × Device × Int :=
  let device : Device := { cameraId, version := .hal3, cameraOpened := false }
  let reserved := factory.reserveFlashForCamera env.flash cameraId units
  if reserved.2.2 < 0 then
    (reserved.1, reserved.2.1, device, unknownError)
  else if env.cameraOpen ≠ 0 then
    (reserved.1, reserved.2.1, device, env.cameraOpen)
  else if env.registerEvents < 0 then
    (reserved.1, reserved.2.1, { device with cameraOpened := true }, failedTransaction)
  else
    (reserved.1, reserved.2.1, { device with cameraOpened := true }, 0)

/-- A new device of the third version is opened, or deleted again. -/
def Factory.openHal3 (factory : Factory) (env : OpenEnv) (cameraId : Int)
    (hal : Hal) : Hal × List TorchStatus × Int :=
  match factory.openCamera env cameraId hal.units with
  | (units, told, device, rc) =>
    if rc ≠ 0 then
      let deleted := factory.delete env.flash device units
      ({ hal with units := deleted.1 }, told ++ deleted.2, rc)
    else
      ({ units, devices := hal.devices ++ [device] }, told, rc)

/-- A new device of the first version is opened, or deleted again. -/
def openHal1 (env : OpenEnv) (cameraId : Int) (hal : Hal) : Hal × List TorchStatus × Int :=
  if env.hal1Open ≠ 0 then
    (hal, [], env.hal1Open)
  else
    ({ hal with
        devices := hal.devices ++ [{ cameraId, version := .hal1, cameraOpened := true }] }, [], 0)

/-- `cameraDeviceOpen`. -/
def Factory.cameraDeviceOpen (factory : Factory) (env : OpenEnv) (cameraId : Int)
    (hal : Hal) : Hal × List TorchStatus × Int :=
  if !factory.present cameraId then
    (hal, [], -enodev)
  else if !factory.hasDescriptors then
    (hal, [], -enodev)
  else
    match factory.version with
    | .hal3 => factory.openHal3 env cameraId hal
    | .hal1 => openHal1 env cameraId hal

/-- `openLegacy`; `version1` says that `halVersion` is the first one. -/
def Factory.openLegacy (factory : Factory) (env : OpenEnv) (cameraId : Int) (version1 : Bool)
    (hal : Hal) : Hal × List TorchStatus × Int :=
  if !factory.present cameraId then
    (hal, [], -enodev)
  else if version1 then
    openHal1 env cameraId hal
  else
    (hal, [], -einval)

/-- `close_camera_device`, of one of the devices that are open. -/
def Factory.closeCameraDevice (factory : Factory) (env : FlashEnv) (index : Nat)
    (hal : Hal) : Option (Hal × List TorchStatus × Int) :=
  match hal.devices[index]? with
  | none => none
  | some device =>
    let deleted := factory.delete env device hal.units
    some ({ units := deleted.1, devices := hal.devices.eraseIdx index }, deleted.2, 0)

/-! ## Runs -/

/-- The calls of the factory. -/
inductive HalEvent where
  | setTorchMode (text : Bytes) (on : Bool) (env : FlashEnv)
  | cameraDeviceOpen (cameraId : Int) (env : OpenEnv)
  | openLegacy (cameraId : Int) (version1 : Bool) (env : OpenEnv)
  | closeCameraDevice (index : Nat) (env : FlashEnv)
  deriving DecidableEq

/-- One call. -/
def halCall (factory : Factory) (hal : Hal) : HalEvent → Option (Hal × List TorchStatus × Int)
  | .setTorchMode text on env =>
    (factory.setTorchMode env text on hal.units).map
      fun (units, told, rc) => ({ hal with units }, told, rc)
  | .cameraDeviceOpen cameraId env => some (factory.cameraDeviceOpen env cameraId hal)
  | .openLegacy cameraId version1 env => some (factory.openLegacy env cameraId version1 hal)
  | .closeCameraDevice index env => factory.closeCameraDevice env index hal

/-- One call of a run, with what the framework is told. -/
def halStep (factory : Factory) (hal : Hal) (event : HalEvent) : Option (Hal × List TorchStatus) :=
  (halCall factory hal event).map fun (next, told, _) => (next, told)

/-! ## What the flash promises -/

/-- Torch and camera never own the flash of a camera id together. -/
structure UnitSound (hal : Hal) (cameraId : Int) : Prop where
  held : (hal.units cameraId).flashOn = true → (hal.units cameraId).flashFd.isSome = true
  apart : (hal.units cameraId).cameraOpen = true → (hal.units cameraId).flashFd = none ∧
        (hal.units cameraId).flashOn = false
  reserved : (hal.units cameraId).cameraOpen = true ↔
      ∃ device ∈ hal.devices, device.cameraId = cameraId

/-- A request for the torch that fails. -/
def failedTorch (event : HalEvent) (rc : Int) : Bool :=
  match event with
  | .setTorchMode .. => rc ≠ 0
  | _ => false

/-- A request for the torch. -/
def isTorch : HalEvent → Bool
  | .setTorchMode .. => true
  | _ => false

/--
A call leaves every flash with one owner, and one that fails to set the torch
leaves it as it was.  A request for the torch calls nothing that is `NULL`.
-/
def SoundCall (factory : Factory) (hal : Hal) (event : HalEvent) : Prop :=
  (isTorch event = true → (halCall factory hal event).isSome = true) ∧
  ∀ next told rc, halCall factory hal event = some (next, told, rc) → ∀ cameraId,
        factory.valid cameraId = true → UnitSound next cameraId ∧ (failedTorch event rc = true →
              (next.units cameraId).flashFd = (hal.units cameraId).flashFd ∧
                (next.units cameraId).flashOn = (hal.units cameraId).flashOn)

/-- The torch is switched with nothing left half done. -/
def CarefulTorch (env : FlashEnv) (flash : FlashUnit) : Bool → Prop
  | true =>
    flash.flashOn = false → flash.cameraOpen = false → env.hasFlash = true →
          env.openNode.isSome = true → env.init.isSome = true → env.init = some 0 ∧ env.low = some 0
  | false => flash.flashOn = true → env.off.isSome = true → env.off = some 0 ∧ env.release = some 0

/-- The torch is switched, and every call for it returns 0. -/
def Switches (env : FlashEnv) (flash : FlashUnit) : Bool → Prop
  | true =>
    flash.flashOn = false ∧ flash.cameraOpen = false ∧ env.hasFlash = true ∧
      env.openNode.isSome = true ∧ env.init = some 0 ∧ env.low = some 0
  | false => flash.flashOn = true ∧ env.off = some 0 ∧ env.release = some 0

/-- A device of the third version is opened with nothing left half done. -/
def CarefulOpen (factory : Factory) (env : OpenEnv) (flash : FlashUnit) : Prop :=
  if flash.cameraOpen then
    env.cameraOpen = 0 → 0 ≤ env.registerEvents
  else
    (flash.flashOn = true → env.flash.off.isSome = true ∨ env.flash.offAgain.isSome = true) ∧
    factory.callbacks = some true ∧
    env.cameraOpen = 0

/--
When a call does so.  Switching the torch fails with its first `ioctl` or not at all, and
where it succeeds the callbacks have their member.  Opening a camera switches the torch off,
and once the flash is reserved neither misses the callback nor fails in `camera_open`; a
device of the first version is opened only beside another one.  The device of the third
version is the last one of its camera id that is closed.
-/
def Careful (factory : Factory) (hal : Hal) : HalEvent → Prop
  | .setTorchMode text on env =>
    ∀ cameraId, factory.torchCamera text = some cameraId → factory.valid cameraId = true →
          CarefulTorch env (hal.units cameraId) on ∧
            (Switches env (hal.units cameraId) on → factory.callbacks ≠ some false)
  | .cameraDeviceOpen cameraId env =>
    factory.present cameraId = true → factory.hasDescriptors = true → match factory.version with
        | .hal3 => CarefulOpen factory env (hal.units cameraId)
        | .hal1 => env.hal1Open = 0 → (hal.units cameraId).cameraOpen = true
  | .openLegacy cameraId version1 env =>
    factory.present cameraId = true → factory.valid cameraId = true → version1 = true →
          env.hal1Open = 0 → (hal.units cameraId).cameraOpen = true
  | .closeCameraDevice index _ =>
    ∀ device, hal.devices[index]? = some device → device.version = .hal3 →
          ∀ other ∈ hal.devices.eraseIdx index, other.cameraId ≠ device.cameraId

end AnglerHal.FlashTorch
