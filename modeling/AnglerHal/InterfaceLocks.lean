import AnglerHal.CameraTable
import AnglerHal.LockDiscipline

namespace AnglerHal.ChannelFsm

/-- `mm_channel_state_type_t`. -/
inductive ChannelState where
  | notUsed
  | stopped
  | active
  | paused
  deriving DecidableEq

/-- `mm_channel_evt_type_t`. -/
inductive ChannelEvt where
  | addStream
  | delStream
  | linkStream
  | configStream
  | getBundleInfo
  | start
  | stop
  | pause
  | resume
  | requestSuperBuf
  | cancelRequestSuperBuf
  | flushSuperBufQueue
  | configNotifyMode
  | startZslSnapshot
  | stopZslSnapshot
  | mapStreamBuf
  | unmapStreamBuf
  | setStreamParm
  | getStreamParm
  | doStreamAction
  | delete
  | afBracketing
  | aeBracketing
  | flashBracketing
  | zoom1x
  | captureSetting
  | getStreamQueuedBufCount
  deriving DecidableEq

end AnglerHal.ChannelFsm

namespace AnglerHal.InterfaceLocks

open CameraTable (einval generateHandler indexByHandler)
open ChannelFsm (ChannelEvt ChannelState)
open LockDiscipline

/-!
# The locks of the camera interface

An operation of the camera interface takes the global lock, looks the camera
up, takes its lock and gives up the global one.  The function of the camera
gives up the lock of the camera, in exchange for the lock of a channel when it
works on one, and the state machine of the channel gives up that lock.

The operations below are the entries of `mm_camera_ops`, `camera_open` and
`get_num_of_cameras`.  What they do to the cameras and channels beside taking
locks is not followed here; what the calls out of an operation return comes
with it.
-/

/-! ## Locks and tables -/

/-- A camera is known by its handle, a channel by its place in the camera. -/
inductive Lock where
  | gIntfLock
  | camLock (camera : Nat)
  | chLock (camera channel : Nat)
  deriving DecidableEq

/-- The order in which locks are taken. -/
def Lock.rank : Lock → Nat
  | .gIntfLock => 0
  | .camLock _ => 1
  | .chLock _ _ => 2

/-- `pthread_mutex_lock`. -/
def lock (wanted : Lock) : LockM Lock Unit :=
  acquire Lock.rank wanted

/-- `pthread_mutex_unlock`. -/
def unlock (held : Lock) : LockM Lock Unit :=
  release held

/-- `mm_channel_t`. -/
structure Channel where
  myHdl : Nat
  state : ChannelState
  deriving DecidableEq

/-- `mm_camera_obj_t`; the places of `ch` in their order. -/
structure Camera where
  myHdl : Nat
  refCount : Int
  ch : List Channel
  deriving DecidableEq

/-- `g_cam_ctrl`, with `MM_CAMERA_MAX_NUM_SENSORS`. -/
structure CamCtrl where
  numCam : Nat
  maxNumSensors : Nat
  camObj : Nat → Option Camera

/-- `mm_camera_util_get_camera_by_handler`. -/
def CamCtrl.cameraByHandler (camHandle : Nat) (ctrl : CamCtrl) : Option Camera :=
  if indexByHandler camHandle < ctrl.maxNumSensors then
    (ctrl.camObj (indexByHandler camHandle)).filter fun cam => camHandle = cam.myHdl
  else
    none

/-- `mm_camera_util_get_channel_by_handler`: the place of the channel. -/
def Camera.channelByHandler (handler : Nat) (cam : Camera) : Option Nat :=
  cam.ch.findIdx? fun channel => handler = channel.myHdl

/-- What the `open` of a device node gives, or its error. -/
inductive OpenResult where
  | fd
  | busy
  | failed
  deriving DecidableEq

/-- A device that is found in `/dev`, as its information says. -/
inductive MediaDevice where
  /-- The `ioctl` for the information fails. -/
  | unreadable
  /-- The model is `MSM_CAMERA_NAME`. -/
  | camera
  | other
  deriving DecidableEq

/-- What the calls out of an operation return. -/
structure CallResults where
  ioctl : Int
  /-- What the function of the channel's state returns for the event. -/
  fsm : ChannelEvt → Int
  /-- The handle that it stores through `out_val`. -/
  outVal : Nat
  channelQbuf : Int
  registerEventNotify : Int
  sendmsg : Int
  malloc : Bool
  /-- `g_handler_history_count` of the handle that is generated. -/
  historyCount : Nat
  hasDevName : Bool
  ctrlFd : OpenResult
  dsFd : OpenResult
  /-- The property `vold.decrypt`. -/
  decrypt : Int
  /-- The node of the `sensor_init` subdevice. -/
  sensorInit : OpenResult
  mediaDevices : List MediaDevice

/-! ## The functions of a camera -/

section Camera

variable (results : CallResults) (cam : Camera)

/-- `mm_channel_fsm_fn`, which gives up the lock of the channel. -/
def mmChannelFsmFn (channel : Nat) (evt : ChannelEvt) : LockM Lock Int := do
  unlock (.chLock cam.myHdl channel)
  return results.fsm evt

/-- The body of the functions that pass one event to a channel. -/
def channelEvent (chId : Nat) (unknown : Int) (evt : ChannelEvt) : LockM Lock Int := do
  match cam.channelByHandler chId with
  | some channel =>
    lock (.chLock cam.myHdl channel)
    unlock (.camLock cam.myHdl)
    mmChannelFsmFn results cam channel evt
  | none =>
    unlock (.camLock cam.myHdl)
    return unknown

/-- The body of the functions that pass on an event whose answer is a handle. -/
def channelHandle (chId : Nat) (evt : ChannelEvt) : LockM Lock Int := do
  match cam.channelByHandler chId with
  | some channel =>
    lock (.chLock cam.myHdl channel)
    unlock (.camLock cam.myHdl)
    let _ ← mmChannelFsmFn results cam channel evt
    return results.outVal
  | none =>
    unlock (.camLock cam.myHdl)
    return 0

/-- `mm_camera_util_s_ctrl` and `mm_camera_util_g_ctrl`. -/
def utilCtrl : Int :=
  if 0 ≤ results.ioctl then 0 else -1

/-- The body of the functions that end with giving up the lock of the camera. -/
def cameraCall (rc : Int) : LockM Lock Int := do
  unlock (.camLock cam.myHdl)
  return rc

/-- `mm_camera_query_capability`. -/
def mmCameraQueryCapability : LockM Lock Int :=
  cameraCall cam results.ioctl

/-- `mm_camera_set_parms`. -/
def mmCameraSetParms (parms : Bool) : LockM Lock Int :=
  cameraCall cam (if parms then utilCtrl results else -1)

/-- `mm_camera_get_parms`. -/
def mmCameraGetParms (parms : Bool) : LockM Lock Int :=
  cameraCall cam (if parms then utilCtrl results else -1)

/-- `mm_camera_do_auto_focus`. -/
def mmCameraDoAutoFocus : LockM Lock Int :=
  cameraCall cam (utilCtrl results)

/-- `mm_camera_cancel_auto_focus`. -/
def mmCameraCancelAutoFocus : LockM Lock Int :=
  cameraCall cam (utilCtrl results)

/-- `mm_camera_prepare_snapshot`. -/
def mmCameraPrepareSnapshot : LockM Lock Int :=
  cameraCall cam (utilCtrl results)

/-- `mm_camera_close`. -/
def mmCameraClose : LockM Lock Int :=
  cameraCall cam 0

/-- `mm_camera_close_fd`. -/
def mmCameraCloseFd : LockM Lock Int :=
  cameraCall cam 0

/-- `mm_camera_register_event_notify`. -/
def mmCameraRegisterEventNotify : LockM Lock Int :=
  cameraCall cam results.registerEventNotify

/-- `mm_camera_map_buf`. -/
def mmCameraMapBuf : LockM Lock Int :=
  cameraCall cam results.sendmsg

/-- `mm_camera_unmap_buf`. -/
def mmCameraUnmapBuf : LockM Lock Int :=
  cameraCall cam results.sendmsg

/-- `mm_camera_add_channel`. -/
def mmCameraAddChannel : LockM Lock Int := do
  let chHdl := match cam.ch.findIdx? fun channel => channel.state = .notUsed with
    | some index => generateHandler results.historyCount index
    | none => 0
  cameraCall cam chHdl

/-- `mm_camera_qbuf`: the channel is not locked, to avoid a deadlock. -/
def mmCameraQbuf (chId : Nat) : LockM Lock Int := do
  unlock (.camLock cam.myHdl)
  match cam.channelByHandler chId with
  | some _ => return results.channelQbuf
  | none => return -1

/-- `mm_camera_link_stream`: the channel of the link is locked, its owner is not. -/
def mmCameraLinkStream (chId linkedChId : Nat) : LockM Lock Int := do
  match cam.channelByHandler linkedChId, cam.channelByHandler chId with
  | some channel, some _ =>
    lock (.chLock cam.myHdl channel)
    unlock (.camLock cam.myHdl)
    let _ ← mmChannelFsmFn results cam channel .linkStream
    return results.outVal
  | _, _ =>
    unlock (.camLock cam.myHdl)
    return 0

/-- `mm_camera_advanced_capture_t`, with the values that it does not name. -/
inductive AdvancedCapture where
  | afBracketing
  | aeBracketing
  | flashBracketing
  | zoom1x
  | frameCapture
  | unknown (type : Nat)
  deriving DecidableEq

/-- `mm_camera_channel_advanced_capture`. -/
def mmCameraChannelAdvancedCapture (chId : Nat) (type : AdvancedCapture) : LockM Lock Int := do
  match cam.channelByHandler chId with
  | some channel =>
    lock (.chLock cam.myHdl channel)
    unlock (.camLock cam.myHdl)
    match type with
    | .afBracketing => mmChannelFsmFn results cam channel .afBracketing
    | .aeBracketing => mmChannelFsmFn results cam channel .aeBracketing
    | .flashBracketing => mmChannelFsmFn results cam channel .flashBracketing
    | .zoom1x => mmChannelFsmFn results cam channel .zoom1x
    | .frameCapture => mmChannelFsmFn results cam channel .captureSetting
    | .unknown _ =>
      -- the default branch passes no event to the state machine
      return -1
  | none =>
    unlock (.camLock cam.myHdl)
    return -1

/-- `mm_camera_get_queued_buf_count`. -/
def mmCameraGetQueuedBufCount (chId : Nat) : LockM Lock Int :=
  channelEvent results cam chId (-1) .getStreamQueuedBufCount

/-- `mm_camera_del_channel`. -/
def mmCameraDelChannel (chId : Nat) : LockM Lock Int :=
  channelEvent results cam chId (-1) .delete

/-- `mm_camera_get_bundle_info`. -/
def mmCameraGetBundleInfo (chId : Nat) : LockM Lock Int :=
  channelEvent results cam chId (-1) .getBundleInfo

/-- `mm_camera_del_stream`. -/
def mmCameraDelStream (chId : Nat) : LockM Lock Int :=
  channelEvent results cam chId (-1) .delStream

/-- `mm_camera_start_zsl_snapshot_ch`. -/
def mmCameraStartZslSnapshotCh (chId : Nat) : LockM Lock Int :=
  channelEvent results cam chId (-1) .startZslSnapshot

/-- `mm_camera_stop_zsl_snapshot_ch`. -/
def mmCameraStopZslSnapshotCh (chId : Nat) : LockM Lock Int :=
  channelEvent results cam chId (-1) .stopZslSnapshot

/-- `mm_camera_config_stream`. -/
def mmCameraConfigStream (chId : Nat) : LockM Lock Int :=
  channelEvent results cam chId (-1) .configStream

/-- `mm_camera_start_channel`. -/
def mmCameraStartChannel (chId : Nat) : LockM Lock Int :=
  channelEvent results cam chId (-1) .start

/-- `mm_camera_stop_channel`. -/
def mmCameraStopChannel (chId : Nat) : LockM Lock Int :=
  channelEvent results cam chId 0 .stop

/-- `mm_camera_request_super_buf`. -/
def mmCameraRequestSuperBuf (chId : Nat) : LockM Lock Int :=
  channelEvent results cam chId (-1) .requestSuperBuf

/-- `mm_camera_cancel_super_buf_request`. -/
def mmCameraCancelSuperBufRequest (chId : Nat) : LockM Lock Int :=
  channelEvent results cam chId (-1) .cancelRequestSuperBuf

/-- `mm_camera_flush_super_buf_queue`. -/
def mmCameraFlushSuperBufQueue (chId : Nat) : LockM Lock Int :=
  channelEvent results cam chId (-1) .flushSuperBufQueue

/-- `mm_camera_config_channel_notify`. -/
def mmCameraConfigChannelNotify (chId : Nat) : LockM Lock Int :=
  channelEvent results cam chId (-1) .configNotifyMode

/-- `mm_camera_set_stream_parms`. -/
def mmCameraSetStreamParms (chId : Nat) : LockM Lock Int :=
  channelEvent results cam chId (-1) .setStreamParm

/-- `mm_camera_get_stream_parms`. -/
def mmCameraGetStreamParms (chId : Nat) : LockM Lock Int :=
  channelEvent results cam chId (-1) .getStreamParm

/-- `mm_camera_map_stream_buf`. -/
def mmCameraMapStreamBuf (chId : Nat) : LockM Lock Int :=
  channelEvent results cam chId (-1) .mapStreamBuf

/-- `mm_camera_unmap_stream_buf`. -/
def mmCameraUnmapStreamBuf (chId : Nat) : LockM Lock Int :=
  channelEvent results cam chId (-1) .unmapStreamBuf

/-- `mm_camera_add_stream`. -/
def mmCameraAddStream (chId : Nat) : LockM Lock Int :=
  channelHandle results cam chId .addStream

/-- What `mm_camera_open` returns. -/
def openRc : Int :=
  if !results.hasDevName then
    -1
  else
    match results.ctrlFd with
    | .busy => -87
    | .failed => -1
    | .fd =>
      match results.dsFd with
      | .fd => 0
      | _ => -1

/-- `mm_camera_open`: both ends give up the lock of the camera. -/
def mmCameraOpen : LockM Lock Int :=
  cameraCall cam (openRc results)

end Camera

/-! ## The exported operations -/

section Interface

variable (ctrl : CamCtrl) (results : CallResults) (cameraHandle : Nat)

/-- The body of the operations that work on an open camera. -/
def withCamera (unknown : Int) (body : Camera → LockM Lock Int) : LockM Lock Int := do
  lock .gIntfLock
  match ctrl.cameraByHandler cameraHandle with
  | some cam =>
    lock (.camLock cam.myHdl)
    unlock .gIntfLock
    body cam
  | none =>
    unlock .gIntfLock
    return unknown

/-- `mm_camera_intf_close`; destroying the lock that was given up takes none. -/
def mmCameraIntfClose : LockM Lock Int := do
  lock .gIntfLock
  match ctrl.cameraByHandler cameraHandle with
  | some cam =>
    if 0 < cam.refCount - 1 then
      unlock .gIntfLock
      return 0
    else
      lock (.camLock cam.myHdl)
      unlock .gIntfLock
      mmCameraClose cam
  | none =>
    unlock .gIntfLock
    return -1

/-- `mm_camera_intf_error_close`. -/
def mmCameraIntfErrorClose : LockM Lock Int := do
  lock .gIntfLock
  match ctrl.cameraByHandler cameraHandle with
  | some cam =>
    if 0 < cam.refCount - 1 then
      unlock .gIntfLock
      return 0
    else
      lock (.camLock cam.myHdl)
      unlock .gIntfLock
      mmCameraCloseFd cam
  | none =>
    unlock .gIntfLock
    return -1

/-- `mm_camera_intf_query_capability`. -/
def mmCameraIntfQueryCapability : LockM Lock Int :=
  withCamera ctrl cameraHandle (-1) fun cam =>
    mmCameraQueryCapability results cam

/-- `mm_camera_intf_register_event_notify`. -/
def mmCameraIntfRegisterEventNotify : LockM Lock Int :=
  withCamera ctrl cameraHandle (-1) fun cam =>
    mmCameraRegisterEventNotify results cam

/-- `mm_camera_intf_set_parms`. -/
def mmCameraIntfSetParms (parms : Bool) : LockM Lock Int :=
  withCamera ctrl cameraHandle (-1) fun cam =>
    mmCameraSetParms results cam parms

/-- `mm_camera_intf_get_parms`. -/
def mmCameraIntfGetParms (parms : Bool) : LockM Lock Int :=
  withCamera ctrl cameraHandle (-1) fun cam =>
    mmCameraGetParms results cam parms

/-- `mm_camera_intf_do_auto_focus`. -/
def mmCameraIntfDoAutoFocus : LockM Lock Int :=
  withCamera ctrl cameraHandle (-1) fun cam =>
    mmCameraDoAutoFocus results cam

/-- `mm_camera_intf_cancel_auto_focus`. -/
def mmCameraIntfCancelAutoFocus : LockM Lock Int :=
  withCamera ctrl cameraHandle (-1) fun cam =>
    mmCameraCancelAutoFocus results cam

/-- `mm_camera_intf_prepare_snapshot`. -/
def mmCameraIntfPrepareSnapshot : LockM Lock Int :=
  withCamera ctrl cameraHandle (-1) fun cam =>
    mmCameraPrepareSnapshot results cam

/-- `mm_camera_intf_start_zsl_snapshot`. -/
def mmCameraIntfStartZslSnapshot (chId : Nat) : LockM Lock Int :=
  withCamera ctrl cameraHandle (-1) fun cam =>
    mmCameraStartZslSnapshotCh results cam chId

/-- `mm_camera_intf_stop_zsl_snapshot`. -/
def mmCameraIntfStopZslSnapshot (chId : Nat) : LockM Lock Int :=
  withCamera ctrl cameraHandle (-1) fun cam =>
    mmCameraStopZslSnapshotCh results cam chId

/-- `mm_camera_intf_map_buf`. -/
def mmCameraIntfMapBuf : LockM Lock Int :=
  withCamera ctrl cameraHandle (-1) fun cam =>
    mmCameraMapBuf results cam

/-- `mm_camera_intf_unmap_buf`. -/
def mmCameraIntfUnmapBuf : LockM Lock Int :=
  withCamera ctrl cameraHandle (-1) fun cam =>
    mmCameraUnmapBuf results cam

/-- `mm_camera_intf_add_channel`. -/
def mmCameraIntfAddChannel : LockM Lock Int :=
  withCamera ctrl cameraHandle 0 fun cam =>
    mmCameraAddChannel results cam

/-- `mm_camera_intf_del_channel`. -/
def mmCameraIntfDelChannel (chId : Nat) : LockM Lock Int :=
  withCamera ctrl cameraHandle (-1) fun cam =>
    mmCameraDelChannel results cam chId

/-- `mm_camera_intf_get_bundle_info`. -/
def mmCameraIntfGetBundleInfo (chId : Nat) : LockM Lock Int :=
  withCamera ctrl cameraHandle (-1) fun cam =>
    mmCameraGetBundleInfo results cam chId

/-- `mm_camera_intf_add_stream`. -/
def mmCameraIntfAddStream (chId : Nat) : LockM Lock Int :=
  withCamera ctrl cameraHandle 0 fun cam =>
    mmCameraAddStream results cam chId

/-- `mm_camera_intf_link_stream`. -/
def mmCameraIntfLinkStream (chId linkedChId : Nat) : LockM Lock Int :=
  withCamera ctrl cameraHandle 0 fun cam =>
    mmCameraLinkStream results cam chId linkedChId

/-- `mm_camera_intf_del_stream`. -/
def mmCameraIntfDelStream (chId : Nat) : LockM Lock Int :=
  withCamera ctrl cameraHandle (-1) fun cam =>
    mmCameraDelStream results cam chId

/-- `mm_camera_intf_config_stream`. -/
def mmCameraIntfConfigStream (chId : Nat) : LockM Lock Int :=
  withCamera ctrl cameraHandle (-1) fun cam =>
    mmCameraConfigStream results cam chId

/-- `mm_camera_intf_qbuf`. -/
def mmCameraIntfQbuf (chId : Nat) : LockM Lock Int :=
  withCamera ctrl cameraHandle (-1) fun cam =>
    mmCameraQbuf results cam chId

/-- `mm_camera_intf_get_queued_buf_count`. -/
def mmCameraIntfGetQueuedBufCount (chId : Nat) : LockM Lock Int :=
  withCamera ctrl cameraHandle (-1) fun cam =>
    mmCameraGetQueuedBufCount results cam chId

/-- `mm_camera_intf_map_stream_buf`. -/
def mmCameraIntfMapStreamBuf (chId : Nat) : LockM Lock Int :=
  withCamera ctrl cameraHandle (-1) fun cam =>
    mmCameraMapStreamBuf results cam chId

/-- `mm_camera_intf_unmap_stream_buf`. -/
def mmCameraIntfUnmapStreamBuf (chId : Nat) : LockM Lock Int :=
  withCamera ctrl cameraHandle (-1) fun cam =>
    mmCameraUnmapStreamBuf results cam chId

/-- `mm_camera_intf_set_stream_parms`. -/
def mmCameraIntfSetStreamParms (chId : Nat) : LockM Lock Int :=
  withCamera ctrl cameraHandle (-1) fun cam =>
    mmCameraSetStreamParms results cam chId

/-- `mm_camera_intf_get_stream_parms`. -/
def mmCameraIntfGetStreamParms (chId : Nat) : LockM Lock Int :=
  withCamera ctrl cameraHandle (-1) fun cam =>
    mmCameraGetStreamParms results cam chId

/-- `mm_camera_intf_start_channel`. -/
def mmCameraIntfStartChannel (chId : Nat) : LockM Lock Int :=
  withCamera ctrl cameraHandle (-1) fun cam =>
    mmCameraStartChannel results cam chId

/-- `mm_camera_intf_stop_channel`. -/
def mmCameraIntfStopChannel (chId : Nat) : LockM Lock Int :=
  withCamera ctrl cameraHandle (-1) fun cam =>
    mmCameraStopChannel results cam chId

/-- `mm_camera_intf_request_super_buf`. -/
def mmCameraIntfRequestSuperBuf (chId : Nat) : LockM Lock Int :=
  withCamera ctrl cameraHandle (-1) fun cam =>
    mmCameraRequestSuperBuf results cam chId

/-- `mm_camera_intf_cancel_super_buf_request`. -/
def mmCameraIntfCancelSuperBufRequest (chId : Nat) : LockM Lock Int :=
  withCamera ctrl cameraHandle (-1) fun cam =>
    mmCameraCancelSuperBufRequest results cam chId

/-- `mm_camera_intf_flush_super_buf_queue`. -/
def mmCameraIntfFlushSuperBufQueue (chId : Nat) : LockM Lock Int :=
  withCamera ctrl cameraHandle (-1) fun cam =>
    mmCameraFlushSuperBufQueue results cam chId

/-- `mm_camera_intf_configure_notify_mode`. -/
def mmCameraIntfConfigureNotifyMode (chId : Nat) : LockM Lock Int :=
  withCamera ctrl cameraHandle (-1) fun cam =>
    mmCameraConfigChannelNotify results cam chId

/-- `mm_camera_intf_process_advanced_capture`. -/
def mmCameraIntfProcessAdvancedCapture (chId : Nat) (type : AdvancedCapture) : LockM Lock Int :=
  withCamera ctrl cameraHandle (-1) fun cam =>
    mmCameraChannelAdvancedCapture results cam chId type

end Interface

/-- The loop of `get_num_of_cameras` that counts the cameras. -/
def countCameras (numCameras : Nat) : List MediaDevice → Nat
  | [] => numCameras
  | .unreadable :: _ => 0
  | .camera :: rest => countCameras (numCameras + 1) rest
  | .other :: rest => countCameras numCameras rest

/-- `get_num_of_cameras`. -/
def getNumOfCameras (results : CallResults) : LockM Lock Int := do
  if results.decrypt = 1 then
    return 0
  else
    lock .gIntfLock
    match results.sensorInit with
    | .fd =>
      unlock .gIntfLock
      return countCameras 0 results.mediaDevices
    | _ =>
      -- `FALSE` is returned under the lock
      return 0

/-- The object that `camera_open` allocates. -/
def newCamera (results : CallResults) (cameraIdx : Nat) : Camera where
  myHdl := generateHandler results.historyCount cameraIdx
  refCount := 1
  ch := []

/-- `camera_open`. -/
def cameraOpen (ctrl : CamCtrl) (results : CallResults) (cameraIdx : Nat) : LockM Lock Int := do
  if ctrl.numCam ≤ cameraIdx then
    return einval
  else
    lock .gIntfLock
    match ctrl.camObj cameraIdx with
    | some _ =>
      unlock .gIntfLock
      return 0
    | none =>
      if results.malloc then
        lock (.camLock (newCamera results cameraIdx).myHdl)
        unlock .gIntfLock
        let rc ← mmCameraOpen results (newCamera results cameraIdx)
        lock .gIntfLock
        unlock .gIntfLock
        return rc
      else
        unlock .gIntfLock
        return einval

/-- The entries of `mm_camera_ops`, with the arguments that they look at. -/
inductive CameraOp where
  | queryCapability
  | registerEventNotify
  | closeCamera
  | errorCloseCamera
  | setParms (parms : Bool)
  | getParms (parms : Bool)
  | doAutoFocus
  | cancelAutoFocus
  | prepareSnapshot
  | startZslSnapshot (chId : Nat)
  | stopZslSnapshot (chId : Nat)
  | mapBuf
  | unmapBuf
  | addChannel
  | deleteChannel (chId : Nat)
  | getBundleInfo (chId : Nat)
  | addStream (chId : Nat)
  | linkStream (chId linkedChId : Nat)
  | deleteStream (chId : Nat)
  | configStream (chId : Nat)
  | qbuf (chId : Nat)
  | getQueuedBufCount (chId : Nat)
  | mapStreamBuf (chId : Nat)
  | unmapStreamBuf (chId : Nat)
  | setStreamParms (chId : Nat)
  | getStreamParms (chId : Nat)
  | startChannel (chId : Nat)
  | stopChannel (chId : Nat)
  | requestSuperBuf (chId : Nat)
  | cancelSuperBufRequest (chId : Nat)
  | flushSuperBufQueue (chId : Nat)
  | configureNotifyMode (chId : Nat)
  | processAdvancedCapture (chId : Nat) (type : AdvancedCapture)
  deriving DecidableEq

/-- `mm_camera_ops`. -/
def mmCameraOps (ctrl : CamCtrl) (results : CallResults) (cameraHandle : Nat) :
    CameraOp → LockM Lock Int
  | .queryCapability => mmCameraIntfQueryCapability ctrl results cameraHandle
  | .registerEventNotify => mmCameraIntfRegisterEventNotify ctrl results cameraHandle
  | .closeCamera => mmCameraIntfClose ctrl cameraHandle
  | .errorCloseCamera => mmCameraIntfErrorClose ctrl cameraHandle
  | .setParms parms => mmCameraIntfSetParms ctrl results cameraHandle parms
  | .getParms parms => mmCameraIntfGetParms ctrl results cameraHandle parms
  | .doAutoFocus => mmCameraIntfDoAutoFocus ctrl results cameraHandle
  | .cancelAutoFocus => mmCameraIntfCancelAutoFocus ctrl results cameraHandle
  | .prepareSnapshot => mmCameraIntfPrepareSnapshot ctrl results cameraHandle
  | .startZslSnapshot chId => mmCameraIntfStartZslSnapshot ctrl results cameraHandle chId
  | .stopZslSnapshot chId => mmCameraIntfStopZslSnapshot ctrl results cameraHandle chId
  | .mapBuf => mmCameraIntfMapBuf ctrl results cameraHandle
  | .unmapBuf => mmCameraIntfUnmapBuf ctrl results cameraHandle
  | .addChannel => mmCameraIntfAddChannel ctrl results cameraHandle
  | .deleteChannel chId => mmCameraIntfDelChannel ctrl results cameraHandle chId
  | .getBundleInfo chId => mmCameraIntfGetBundleInfo ctrl results cameraHandle chId
  | .addStream chId => mmCameraIntfAddStream ctrl results cameraHandle chId
  | .linkStream chId linkedChId => mmCameraIntfLinkStream ctrl results cameraHandle chId linkedChId
  | .deleteStream chId => mmCameraIntfDelStream ctrl results cameraHandle chId
  | .configStream chId => mmCameraIntfConfigStream ctrl results cameraHandle chId
  | .qbuf chId => mmCameraIntfQbuf ctrl results cameraHandle chId
  | .getQueuedBufCount chId => mmCameraIntfGetQueuedBufCount ctrl results cameraHandle chId
  | .mapStreamBuf chId => mmCameraIntfMapStreamBuf ctrl results cameraHandle chId
  | .unmapStreamBuf chId => mmCameraIntfUnmapStreamBuf ctrl results cameraHandle chId
  | .setStreamParms chId => mmCameraIntfSetStreamParms ctrl results cameraHandle chId
  | .getStreamParms chId => mmCameraIntfGetStreamParms ctrl results cameraHandle chId
  | .startChannel chId => mmCameraIntfStartChannel ctrl results cameraHandle chId
  | .stopChannel chId => mmCameraIntfStopChannel ctrl results cameraHandle chId
  | .requestSuperBuf chId => mmCameraIntfRequestSuperBuf ctrl results cameraHandle chId
  | .cancelSuperBufRequest chId => mmCameraIntfCancelSuperBufRequest ctrl results cameraHandle chId
  | .flushSuperBufQueue chId => mmCameraIntfFlushSuperBufQueue ctrl results cameraHandle chId
  | .configureNotifyMode chId => mmCameraIntfConfigureNotifyMode ctrl results cameraHandle chId
  | .processAdvancedCapture chId type =>
    mmCameraIntfProcessAdvancedCapture ctrl results cameraHandle chId type

/-- An exported operation. -/
inductive Operation where
  | getNumOfCameras
  | cameraOpen (cameraIdx : Nat)
  | ops (cameraHandle : Nat) (op : CameraOp)
  deriving DecidableEq

/-- Run an exported operation. -/
def Operation.run (ctrl : CamCtrl) (results : CallResults) : Operation → LockM Lock Int
  | .getNumOfCameras => InterfaceLocks.getNumOfCameras results
  | .cameraOpen cameraIdx => InterfaceLocks.cameraOpen ctrl results cameraIdx
  | .ops cameraHandle op => mmCameraOps ctrl results cameraHandle op

variable {channel chId : Nat} {finish : List Lock} {body : LockM Lock Int}
  {type : AdvancedCapture} {cam : Camera} {unknown : Int}

/-! ## What each function does with the lock that it is handed -/

section Camera

variable {results : CallResults}

theorem mmChannelFsmFn_hands (channel : Nat) (evt : ChannelEvt) :
    Hands [.chLock cam.myHdl channel] [] (mmChannelFsmFn results cam channel evt) :=
  Hands.release (by simp) (by
    rw [List.erase_cons_head]
    exact Hands.pure _)

theorem channelLock_hands (given : Hands [.chLock cam.myHdl channel] finish body) :
    Hands [.camLock cam.myHdl] finish (do
      lock (.chLock cam.myHdl channel)
      unlock (.camLock cam.myHdl)
      body) :=
  Hands.handOver (Nat.lt_succ_self 1) given

theorem cameraCall_hands (rc : Int) : Hands [.camLock cam.myHdl] [] (cameraCall cam rc) :=
  Hands.release (by simp) (by
    rw [List.erase_cons_head]
    exact Hands.pure _)

theorem channelEvent_hands (chId : Nat) (unknown : Int) (evt : ChannelEvt) :
    Hands [.camLock cam.myHdl] [] (channelEvent results cam chId unknown evt) := by
  rw [channelEvent]
  cases cam.channelByHandler chId with
  | none => exact cameraCall_hands unknown
  | some channel => exact channelLock_hands (mmChannelFsmFn_hands channel evt)

theorem channelHandle_hands (chId : Nat) (evt : ChannelEvt) : Hands [.camLock cam.myHdl] []
      (channelHandle results cam chId evt) := by
  rw [channelHandle]
  cases cam.channelByHandler chId with
  | none => exact cameraCall_hands 0
  | some channel =>
    refine channelLock_hands ?_
    exact Hands.bind (mmChannelFsmFn_hands channel evt) (fun _ => Hands.pure _)

theorem mmCameraQbuf_hands (chId : Nat) :
    Hands [.camLock cam.myHdl] [] (mmCameraQbuf results cam chId) := by
  rw [mmCameraQbuf]
  refine Hands.release (by simp) ?_
  rw [List.erase_cons_head]
  cases cam.channelByHandler chId with
  | none => exact Hands.pure _
  | some channel => exact Hands.pure _

theorem mmCameraLinkStream_hands (chId linkedChId : Nat) : Hands [.camLock cam.myHdl] []
      (mmCameraLinkStream results cam chId linkedChId) := by
  rw [mmCameraLinkStream]
  cases cam.channelByHandler linkedChId with
  | none => exact cameraCall_hands 0
  | some channel =>
    cases cam.channelByHandler chId with
    | none => exact cameraCall_hands 0
    | some owner =>
      refine channelLock_hands ?_
      exact Hands.bind (mmChannelFsmFn_hands channel .linkStream) (fun _ => Hands.pure _)

/-- A type of advanced capture that has an event. -/
def AdvancedCapture.Known : AdvancedCapture → Prop
  | .unknown _ => False
  | _ => True

theorem mmCameraChannelAdvancedCapture_hands
    (known : cam.channelByHandler chId ≠ none → type.Known) :
    Hands [.camLock cam.myHdl] [] (mmCameraChannelAdvancedCapture results cam chId type) := by
  rw [mmCameraChannelAdvancedCapture]
  cases found : cam.channelByHandler chId with
  | none => exact cameraCall_hands (-1)
  | some channel =>
    have isKnown : type.Known := known (by simp [found])
    refine channelLock_hands ?_
    cases type with
    | unknown type => exact isKnown.elim
    | afBracketing | aeBracketing | flashBracketing | zoom1x
    | frameCapture => exact mmChannelFsmFn_hands channel _

theorem mmCameraChannelAdvancedCapture_leaves
    (found : cam.channelByHandler chId = some channel) (unknown : ¬ type.Known) :
    Hands [.camLock cam.myHdl] [.chLock cam.myHdl channel]
      (mmCameraChannelAdvancedCapture results cam chId type) := by
  rw [mmCameraChannelAdvancedCapture, found]
  refine channelLock_hands ?_
  cases type with
  | unknown type => exact Hands.pure _
  | afBracketing | aeBracketing | flashBracketing | zoom1x
  | frameCapture => exact (unknown trivial).elim

end Camera

/-! ## The exported operations keep the discipline -/

section Operations

variable {ctrl : CamCtrl} {results : CallResults} {cameraHandle : Nat}

theorem cameraLock_hands (given : Hands [.camLock cam.myHdl] finish body) :
    Hands [.gIntfLock] finish (do
      lock (.camLock cam.myHdl)
      unlock .gIntfLock
      body) :=
  Hands.handOver (Nat.lt_succ_self 0) given

theorem intfLock_hands (given : Hands [.gIntfLock] finish body) :
    Hands [] finish (do
      lock .gIntfLock
      body) :=
  Hands.acquire (fun _ held => nomatch held) given

theorem intfUnlock_hands (rc : Int) : Hands [.gIntfLock] [] (do
      unlock .gIntfLock
      return rc) :=
  Hands.release (by simp) (by
    rw [List.erase_cons_head]
    exact Hands.pure rc)

theorem withCamera_disciplined {body : Camera → LockM Lock Int} (given : ∀ cam,
        ctrl.cameraByHandler cameraHandle = some cam → Hands [.camLock cam.myHdl] [] (body cam)) :
    Disciplined (withCamera ctrl cameraHandle unknown body) := by
  refine intfLock_hands ?_
  cases found : ctrl.cameraByHandler cameraHandle with
  | none => exact intfUnlock_hands unknown
  | some cam => exact cameraLock_hands (given cam found)

theorem withCamera_leaves {body : Camera → LockM Lock Int}
    (found : ctrl.cameraByHandler cameraHandle = some cam)
    (given : Hands [.camLock cam.myHdl] finish (body cam)) :
    Hands [] finish (withCamera ctrl cameraHandle unknown body) := by
  refine intfLock_hands ?_
  rw [found]
  exact cameraLock_hands given

theorem mmCameraIntfClose_disciplined : Disciplined (mmCameraIntfClose ctrl cameraHandle) := by
  refine intfLock_hands ?_
  cases ctrl.cameraByHandler cameraHandle with
  | none => exact intfUnlock_hands (-1)
  | some cam =>
    by_cases referenced : 0 < cam.refCount - 1
    · simp only [referenced, ↓reduceIte]
      exact intfUnlock_hands 0
    · simp only [referenced, ↓reduceIte]
      exact cameraLock_hands (cameraCall_hands 0)

theorem mmCameraIntfErrorClose_disciplined :
    Disciplined (mmCameraIntfErrorClose ctrl cameraHandle) := by
  refine intfLock_hands ?_
  cases ctrl.cameraByHandler cameraHandle with
  | none => exact intfUnlock_hands (-1)
  | some cam =>
    by_cases referenced : 0 < cam.refCount - 1
    · simp only [referenced, ↓reduceIte]
      exact intfUnlock_hands 0
    · simp only [referenced, ↓reduceIte]
      exact cameraLock_hands (cameraCall_hands 0)

theorem cameraOpen_disciplined (cameraIdx : Nat) :
    Disciplined (InterfaceLocks.cameraOpen ctrl results cameraIdx) := by
  rw [InterfaceLocks.cameraOpen]
  by_cases beyond : ctrl.numCam ≤ cameraIdx
  · rw [if_pos beyond]
    exact Hands.pure einval
  · rw [if_neg beyond]
    refine intfLock_hands ?_
    cases ctrl.camObj cameraIdx with
    | some cam => exact intfUnlock_hands 0
    | none =>
      cases results.malloc with
      | false => exact intfUnlock_hands einval
      | true =>
        refine cameraLock_hands ?_
        refine Hands.bind (cameraCall_hands (openRc results)) ?_
        intro rc
        exact intfLock_hands (intfUnlock_hands rc)

/--
The operation leaves a lock behind: the cameras are counted and the node of the
`sensor_init` subdevice cannot be opened, or a channel is asked for an advanced
capture of an unknown type.
-/
def Operation.LeavesLock (ctrl : CamCtrl) (results : CallResults) : Operation → Prop
  | .getNumOfCameras => results.decrypt ≠ 1 ∧ results.sensorInit ≠ .fd
  | .ops cameraHandle (.processAdvancedCapture chId type) =>
    ∃ cam, ctrl.cameraByHandler cameraHandle = some cam ∧ cam.channelByHandler chId ≠ none ∧
        ¬ type.Known
  | _ => False

theorem getNumOfCameras_disciplined_iff : Disciplined (InterfaceLocks.getNumOfCameras results) ↔
      ¬ Operation.getNumOfCameras.LeavesLock ctrl results := by
  simp only [Operation.LeavesLock, not_and_not_right]
  rw [InterfaceLocks.getNumOfCameras]
  by_cases decrypting : results.decrypt = 1
  · rw [if_pos decrypting]
    exact iff_of_true (Hands.pure 0) (fun running => absurd decrypting running)
  · rw [if_neg decrypting]
    cases opened : results.sensorInit with
    | fd => exact iff_of_true (intfLock_hands (intfUnlock_hands _)) (fun _ => rfl)
    | busy | failed =>
      refine iff_of_false (not_disciplined_of_hands (intfLock_hands (Hands.pure 0))) ?_
      intro unlocked
      cases unlocked decrypting

theorem processAdvancedCapture_disciplined_iff (chId : Nat) (type : AdvancedCapture) : Disciplined
        (mmCameraIntfProcessAdvancedCapture ctrl results cameraHandle chId type) ↔
      ¬ (Operation.ops cameraHandle
        (.processAdvancedCapture chId type)).LeavesLock ctrl results := by
  constructor
  · rintro disciplined ⟨cam, found, hasChannel, unknown⟩
    obtain ⟨channel, foundChannel⟩ := Option.ne_none_iff_exists'.mp hasChannel
    have leaves : Hands [] [.chLock cam.myHdl channel]
          (mmCameraIntfProcessAdvancedCapture ctrl results cameraHandle chId type) :=
      withCamera_leaves found (mmCameraChannelAdvancedCapture_leaves foundChannel unknown)
    exact not_disciplined_of_hands leaves disciplined
  · intro unlocked
    refine withCamera_disciplined ?_
    intro cam found
    refine mmCameraChannelAdvancedCapture_hands ?_
    intro hasChannel
    by_contra unknown
    exact unlocked ⟨cam, found, hasChannel, unknown⟩

theorem mmCameraOps_disciplined {op : CameraOp}
    (other : ∀ chId type, op ≠ .processAdvancedCapture chId type) :
    Disciplined (mmCameraOps ctrl results cameraHandle op) := by
  cases op with
  | processAdvancedCapture chId type => exact absurd rfl (other chId type)
  | closeCamera => exact mmCameraIntfClose_disciplined
  | errorCloseCamera => exact mmCameraIntfErrorClose_disciplined
  | queryCapability | registerEventNotify | setParms | getParms |
  doAutoFocus | cancelAutoFocus | prepareSnapshot | mapBuf |
  unmapBuf | addChannel =>
      exact withCamera_disciplined (fun _ _ => cameraCall_hands _)
  | startZslSnapshot | stopZslSnapshot | deleteChannel | getBundleInfo
  | deleteStream | configStream | getQueuedBufCount | mapStreamBuf |
  unmapStreamBuf | setStreamParms | getStreamParms | startChannel |
  stopChannel | requestSuperBuf | cancelSuperBufRequest |
  flushSuperBufQueue | configureNotifyMode =>
      exact withCamera_disciplined (fun _ _ => channelEvent_hands _ _ _)
  | addStream chId => exact withCamera_disciplined (fun _ _ => channelHandle_hands _ _)
  | linkStream chId linkedChId =>
    exact withCamera_disciplined (fun _ _ => mmCameraLinkStream_hands _ _)
  | qbuf chId => exact withCamera_disciplined (fun _ _ => mmCameraQbuf_hands _)

/--
Every exported operation, whatever its arguments and whatever the calls out of
it return, takes the locks in their order and ends without one, but for the two
that leave a lock behind.
-/
theorem operation_disciplined_iff (ctrl : CamCtrl) (results : CallResults) (operation : Operation) :
    Disciplined (operation.run ctrl results) ↔ ¬ operation.LeavesLock ctrl results := by
  cases operation with
  | getNumOfCameras => exact getNumOfCameras_disciplined_iff
  | cameraOpen cameraIdx => exact iff_of_true (cameraOpen_disciplined cameraIdx) id
  | ops cameraHandle op =>
    by_cases capture : ∃ chId type, op = .processAdvancedCapture chId type
    · obtain ⟨chId, type, rfl⟩ := capture
      exact processAdvancedCapture_disciplined_iff chId type
    · have other : ∀ chId type, op ≠ .processAdvancedCapture chId type :=
        fun chId type same => capture ⟨chId, type, same⟩
      refine iff_of_true (mmCameraOps_disciplined other) ?_
      intro leaves
      cases op with
      | processAdvancedCapture chId type => exact other chId type rfl
      | _ => exact leaves

end Operations

/-- Every call succeeds, but the node of the `sensor_init` subdevice is missing. -/
def noSensorInit : CallResults where
  ioctl := 0
  fsm := fun _ => 0
  outVal := 0
  channelQbuf := 0
  registerEventNotify := 0
  sendmsg := 0
  malloc := true
  historyCount := 1
  hasDevName := true
  ctrlFd := .fd
  dsFd := .fd
  decrypt := 0
  sensorInit := .failed
  mediaDevices := []

/-- No camera is open. -/
def noCamera : CamCtrl where
  numCam := 0
  maxNumSensors := 5
  camObj := fun _ => none

/-- `get_num_of_cameras` returns with the global lock held. -/
theorem getNumOfCameras_keepsLock :
    ¬ Disciplined (Operation.getNumOfCameras.run noCamera noSensorInit) := by
  have leaves : Hands [] [.gIntfLock] (Operation.getNumOfCameras.run noCamera noSensorInit) :=
    ⟨0, rfl⟩
  exact not_disciplined_of_hands leaves

end AnglerHal.InterfaceLocks
