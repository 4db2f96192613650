import AnglerHal.CString

namespace AnglerHal.Rmnetctl

open CString

/-!
# The calls of the rmnet control library

Each call checks its arguments, fills a request, sends it and receives the
response with `rmnetctl_transact`, and makes its result of the response.  The
calls differ in the request and in what they make of the response, and each has
its own definition for these two.

The kernel header with the message is not part of the sources.  Its constants
are parameters; its message types are those that the calls name.
-/

/-- A string without its terminating NUL. -/
abbrev Name :=
  List UInt8

/-- The constants of `linux/rmnet_data.h` that the calls use. -/
structure RmnetData where
  rmnetMaxStrLen : Nat
  rmnetEpmodeLength : Nat
  egressFlagsMask : UInt32
  ingressFlagsMask : UInt32
  rmnetConfigOk : Int

/-- `message_type`. -/
inductive MessageType where
  | associateNetworkDevice
  | unassociateNetworkDevice
  | getNetworkDeviceAssociated
  | setLinkEgressDataFormat
  | getLinkEgressDataFormat
  | setLinkIngressDataFormat
  | getLinkIngressDataFormat
  | setLogicalEpConfig
  | unsetLogicalEpConfig
  | getLogicalEpConfig
  | newVnd
  | newVndWithPrefix
  | freeVnd
  | getVndName
  | addVndTcFlow
  | delVndTcFlow
  deriving DecidableEq

/-- `crd`: what kind of message this is. -/
inductive Crd where
  | command
  | returnCode
  | returnData
  deriving DecidableEq

/-- The members of a request that its call fills. -/
inductive RequestData where
  | dev (dev : Name)
  | egressFormat (dev : Name) (flags : UInt32) (aggSize aggCount : UInt16)
  | ingressFormat (dev : Name) (flags : UInt32) (tailSpacing : UInt8)
  | epConfig (dev nextDev : Name) (epId : Int) (operatingMode : UInt8)
  | epId (dev : Name) (epId : Int)
  | vnd (id : UInt32) (vndName : Name)
  | flowControl (id mapFlowId tcFlowId : UInt32)
  deriving DecidableEq

/-- A request, as far as it is filled. -/
structure Request where
  messageType : MessageType
  argLength : Nat
  data : RequestData
  deriving DecidableEq

/--
A response.  Its data is a union; each call reads the members that it knows,
whatever the kernel meant by them.
-/
structure Response where
  messageType : MessageType
  crd : Crd
  returnCode : Int
  flags : UInt32
  aggSize : UInt16
  aggCount : UInt16
  tailSpacing : UInt8
  operatingMode : UInt8
  nextDev : Name
  vndName : Name
  deriving DecidableEq

/-- What a call returns. -/
inductive ReturnCode where
  | success
  | libErr
  | kernelErr
  | invalidArg
  deriving DecidableEq

/-- `rmnetctl_error_codes_e`, as far as the calls and `rmnetctl_transact` go. -/
inductive ApiError where
  | messageSend
  | messageReceive
  | requestNull
  | responseNull
  | messageType
  | returnType
  | stringTruncation
  deriving DecidableEq

/-- The value of an error code. -/
def ApiError.code : ApiError → Nat
  | .messageSend => 3
  | .messageReceive => 4
  | .requestNull => 10
  | .responseNull => 11
  | .messageType => 12
  | .returnType => 13
  | .stringTruncation => 14

/-- `RMNETCTL_KERNEL_FIRST_ERR`. -/
def kernelFirstErr : Nat :=
  15

/-- What a call writes through its other pointers. -/
inductive ApiData where
  | nothing
  | registerStatus (status : Int)
  | egressFormat (flags : UInt32) (aggSize aggCount : UInt16)
  | ingressFormat (flags : Option UInt32) (tailSpacing : Option UInt8)
  | epConfig (nextDev : Name) (operatingMode : UInt8)
  | vndName (name : Name)
  deriving DecidableEq

/-- The result of a call; `errorCode` is `none` when it is not written. -/
structure ApiResult where
  returnCode : ReturnCode
  errorCode : Option Nat
  data : ApiData
  deriving DecidableEq

/-- A call that fails in the library. -/
def libErr (error : ApiError) : ApiResult where
  returnCode := .libErr
  errorCode := some error.code
  data := .nothing

/-- A call that is refused for its arguments. -/
def invalidArg : ApiResult where
  returnCode := .invalidArg
  errorCode := none
  data := .nothing

/-- A call that reports data; `rmnetctl_transact` has set the error code to 0. -/
def reported (data : ApiData) : ApiResult where
  returnCode := .success
  errorCode := some 0
  data := data

/--
One call: the request that it sends or the result that it has without one, and
what it makes of the response.
-/
structure ApiCall where
  request : Except ApiResult Request
  report : Response → ApiResult

section Calls

variable (header : RmnetData)

/-- `_rmnetctl_check_dev_name` passes. -/
def checkDevName : Option Name → Bool
  | none => false
  | some devName => devName.length < header.rmnetMaxStrLen

/-- `_rmnetctl_check_len` passes. -/
def checkLen (strLen : Nat) : Bool :=
  strLen ≤ header.rmnetMaxStrLen

/-- A device name copied into the request, or `RMNETCTL_API_ERR_STRING_TRUNCATION`. -/
def copyName (devName : Option Name) : Except ApiResult Name :=
  let (copied, strLen) := strlcpy (devName.getD []) header.rmnetMaxStrLen
  if checkLen header strLen then
    .ok copied
  else
    .error (libErr .stringTruncation)

/-- `_rmnetctl_check_code` and `_rmnetctl_set_codes`. -/
def reportCode (response : Response) : ApiResult :=
  if response.crd ≠ .returnCode then
    libErr .returnType
  else if response.returnCode = header.rmnetConfigOk then
    reported .nothing
  else
    { returnCode := .kernelErr
      errorCode :=
        some (((response.returnCode % 65536).toNat + kernelFirstErr) % 65536)
      data := .nothing }

/-- `_rmnetctl_check_data`, and the data that the call reads. -/
def reportData (data : Response → ApiData) (response : Response) : ApiResult :=
  if response.crd ≠ .returnData then
    libErr .returnType
  else
    reported (data response)

/-- Refuse the arguments, or go on with the request. -/
def checked (valid : Bool) (request : Except ApiResult Request) : Except ApiResult Request :=
  if valid then request else .error invalidArg

/-- `rmnet_associate_network_device`. -/
def rmnetAssociateNetworkDevice (pointers : Bool) (devName : Option Name)
    (assocDev : UInt8) : ApiCall where
  request :=
    checked (pointers && checkDevName header devName && (assocDev == 1 || assocDev == 0)) do
      let dev ← copyName header devName
      return {
        messageType :=
          if assocDev = 1 then
            .associateNetworkDevice
          else
            .unassociateNetworkDevice
        argLength := header.rmnetMaxStrLen
        data := .dev dev }
  report := reportCode header

/-- `rmnet_get_network_device_associated`. -/
def rmnetGetNetworkDeviceAssociated (pointers : Bool) (devName : Option Name) : ApiCall where
  request :=
    checked (pointers && checkDevName header devName) do
      let dev ← copyName header devName
      return {
        messageType := .getNetworkDeviceAssociated
        argLength := header.rmnetMaxStrLen
        data := .dev dev }
  report := reportData fun response => .registerStatus response.returnCode

/-- `rmnet_set_link_egress_data_format`. -/
def rmnetSetLinkEgressDataFormat (pointers : Bool) (egressFlags : UInt32)
    (aggSize aggCount : UInt16)
    (devName : Option Name) : ApiCall where
  request :=
    checked (pointers && checkDevName header devName &&
        ~~~header.egressFlagsMask &&& egressFlags == 0) do
      let dev ← copyName header devName
      return {
        messageType := .setLinkEgressDataFormat
        argLength := header.rmnetMaxStrLen + 4 + 2 + 2
        data := .egressFormat dev egressFlags aggSize aggCount }
  report := reportCode header

/-- `rmnet_get_link_egress_data_format`. -/
def rmnetGetLinkEgressDataFormat (pointers : Bool) (devName : Option Name) : ApiCall where
  request :=
    checked (pointers && checkDevName header devName) do
      let dev ← copyName header devName
      return {
        messageType := .getLinkEgressDataFormat
        argLength := header.rmnetMaxStrLen
        data := .dev dev }
  report := reportData fun response =>
    .egressFormat response.flags response.aggSize response.aggCount

/-- `rmnet_set_link_ingress_data_format_tailspace`. -/
def rmnetSetLinkIngressDataFormatTailspace (pointers : Bool) (ingressFlags : UInt32)
    (tailSpacing : UInt8)
    (devName : Option Name) : ApiCall where
  request :=
    checked (pointers && checkDevName header devName &&
        ~~~header.ingressFlagsMask &&& ingressFlags == 0) do
      let dev ← copyName header devName
      return {
        messageType := .setLinkIngressDataFormat
        argLength := header.rmnetMaxStrLen + 4 + 2 + 2
        data := .ingressFormat dev ingressFlags tailSpacing }
  report := reportCode header

/--
`rmnet_get_link_ingress_data_format_tailspace`; `flags` and `tail` tell whether
the caller wants these two.
-/
def rmnetGetLinkIngressDataFormatTailspace (pointers : Bool) (devName : Option Name)
    (flags tail : Bool) : ApiCall where
  request :=
    checked (pointers && checkDevName header devName) do
      let dev ← copyName header devName
      return {
        messageType := .getLinkIngressDataFormat
        argLength := header.rmnetMaxStrLen
        data := .dev dev }
  report := reportData fun response =>
    .ingressFormat (if flags then some response.flags else none)
      (if tail then some response.tailSpacing else none)

/-- An endpoint id that the calls take. -/
def checkEpId (epId : Int) : Bool :=
  !(epId < -1 || epId > 31)

/-- `rmnet_set_logical_ep_config`. -/
def rmnetSetLogicalEpConfig (pointers : Bool) (epId : Int) (operatingMode : UInt8)
    (devName nextDev : Option Name) : ApiCall where
  request :=
    checked (pointers && checkEpId epId && checkDevName header devName &&
        checkDevName header nextDev &&
        operatingMode.toNat < header.rmnetEpmodeLength) do
      let dev ← copyName header devName
      let next ← copyName header nextDev
      return {
        messageType := .setLogicalEpConfig
        argLength :=
          header.rmnetMaxStrLen + header.rmnetMaxStrLen + 4 + 1
        data := .epConfig dev next epId operatingMode }
  report := reportCode header

/-- `rmnet_unset_logical_ep_config`. -/
def rmnetUnsetLogicalEpConfig (pointers : Bool) (epId : Int) (devName : Option Name) : ApiCall where
  request :=
    checked (pointers && checkEpId epId && checkDevName header devName) do
      let dev ← copyName header devName
      return {
        messageType := .unsetLogicalEpConfig
        argLength := header.rmnetMaxStrLen + 4
        data := .epId dev epId }
  report := reportCode header

/-- `rmnet_get_logical_ep_config`. -/
def rmnetGetLogicalEpConfig (pointers : Bool) (epId : Int) (devName : Option Name)
    (nextDevLen : UInt32) : ApiCall where
  request :=
    checked (pointers && checkEpId epId && checkDevName header devName && nextDevLen != 0) do
      let dev ← copyName header devName
      return {
        messageType := .getLogicalEpConfig
        argLength := header.rmnetMaxStrLen + 4
        data := .epId dev epId }
  report response :=
    if response.crd ≠ .returnData then
      libErr .returnType
    else
      let (nextDev, strLen) := strlcpy response.nextDev (min header.rmnetMaxStrLen nextDevLen.toNat)
      -- the length is not compared with that of the caller's buffer
      if checkLen header strLen then
        reported (.epConfig nextDev response.operatingMode)
      else
        libErr .stringTruncation

/-- `rmnet_new_vnd_prefix`. -/
def rmnetNewVndPrefix (pointers : Bool) (id : UInt32) (newVnd : UInt8)
    (vndPrefix : Option Name) : ApiCall where
  request :=
    checked (pointers && (newVnd == 1 || newVnd == 0)) <| if newVnd = 1 then
        match vndPrefix with
        | some name => do
            let vndName ← copyName header (some name)
            return {
              messageType := .newVndWithPrefix
              argLength := 4
              data := .vnd id vndName }
        | none => .ok { messageType := .newVnd, argLength := 4, data := .vnd id [] }
      else
        .ok { messageType := .freeVnd, argLength := 4, data := .vnd id [] }
  report := reportCode header

/-- `rmnet_new_vnd`. -/
def rmnetNewVnd (pointers : Bool) (id : UInt32) (newVnd : UInt8) : ApiCall :=
  rmnetNewVndPrefix header pointers id newVnd none

/-- `rmnet_get_vnd_name`. -/
def rmnetGetVndName (pointers : Bool) (id : UInt32) (buflen : UInt32) : ApiCall where
  request :=
    checked (pointers && buflen != 0) <|
      .ok { messageType := .getVndName, argLength := 4, data := .vnd id [] }
  report response :=
    if response.crd ≠ .returnData then
      libErr .returnType
    else
      let (name, strLen) := strlcpy response.vndName buflen.toNat
      if strLen ≥ buflen.toNat then
        libErr .stringTruncation
      else
        reported (.vndName name)

/-- `rmnet_add_del_vnd_tc_flow`. -/
def rmnetAddDelVndTcFlow (pointers : Bool) (id mapFlowId tcFlowId : UInt32)
    (setFlow : UInt8) : ApiCall where
  request :=
    checked (pointers && (setFlow == 1 || setFlow == 0)) <| .ok {
        messageType :=
          if setFlow = 1 then .addVndTcFlow else .delVndTcFlow
        argLength := 4 * 3
        data := .flowControl id mapFlowId tcFlowId }
  report := reportCode header

end Calls

/-- The arguments of a call; `pointers` tells whether none of those it checks is `NULL`. -/
inductive Api where
  | associateNetworkDevice (pointers : Bool) (devName : Option Name) (assocDev : UInt8)
  | getNetworkDeviceAssociated (pointers : Bool) (devName : Option Name)
  | setLinkEgressDataFormat (pointers : Bool) (egressFlags : UInt32)
      (aggSize aggCount : UInt16) (devName : Option Name)
  | getLinkEgressDataFormat (pointers : Bool) (devName : Option Name)
  | setLinkIngressDataFormatTailspace (pointers : Bool)
      (ingressFlags : UInt32) (tailSpacing : UInt8) (devName : Option Name)
  | getLinkIngressDataFormatTailspace (pointers : Bool) (devName : Option Name) (flags tail : Bool)
  | setLogicalEpConfig (pointers : Bool) (epId : Int)
      (operatingMode : UInt8) (devName nextDev : Option Name)
  | unsetLogicalEpConfig (pointers : Bool) (epId : Int) (devName : Option Name)
  | getLogicalEpConfig (pointers : Bool) (epId : Int) (devName : Option Name) (nextDevLen : UInt32)
  | newVndPrefix (pointers : Bool) (id : UInt32) (newVnd : UInt8) (vndPrefix : Option Name)
  | newVnd (pointers : Bool) (id : UInt32) (newVnd : UInt8)
  | getVndName (pointers : Bool) (id buflen : UInt32)
  | addDelVndTcFlow (pointers : Bool) (id mapFlowId tcFlowId : UInt32) (setFlow : UInt8)
  deriving DecidableEq

/-- The call with these arguments. -/
def Api.call (header : RmnetData) : Api → ApiCall
  | .associateNetworkDevice pointers devName assocDev =>
    rmnetAssociateNetworkDevice header pointers devName assocDev
  | .getNetworkDeviceAssociated pointers devName =>
    rmnetGetNetworkDeviceAssociated header pointers devName
  | .setLinkEgressDataFormat pointers flags aggSize aggCount devName =>
    rmnetSetLinkEgressDataFormat header pointers flags aggSize aggCount devName
  | .getLinkEgressDataFormat pointers devName =>
    rmnetGetLinkEgressDataFormat header pointers devName
  | .setLinkIngressDataFormatTailspace pointers flags tail devName =>
    rmnetSetLinkIngressDataFormatTailspace header pointers flags tail devName
  | .getLinkIngressDataFormatTailspace pointers devName flags tail =>
    rmnetGetLinkIngressDataFormatTailspace header pointers devName flags tail
  | .setLogicalEpConfig pointers epId mode devName nextDev =>
    rmnetSetLogicalEpConfig header pointers epId mode devName nextDev
  | .unsetLogicalEpConfig pointers epId devName =>
    rmnetUnsetLogicalEpConfig header pointers epId devName
  | .getLogicalEpConfig pointers epId devName nextDevLen =>
    rmnetGetLogicalEpConfig header pointers epId devName nextDevLen
  | .newVndPrefix pointers id which vndPrefix =>
    rmnetNewVndPrefix header pointers id which vndPrefix
  | .newVnd pointers id which => rmnetNewVnd header pointers id which
  | .getVndName pointers id buflen => rmnetGetVndName pointers id buflen
  | .addDelVndTcFlow pointers id mapFlowId tcFlowId setFlow =>
    rmnetAddDelVndTcFlow header pointers id mapFlowId tcFlowId setFlow

/-! ## Results that come from the kernel -/

/-- The result comes from the kernel. -/
def ReturnCode.FromKernel (code : ReturnCode) : Prop :=
  code = .success ∨ code = .kernelErr

/-- The response is of the kind that the call waits for, and its name fits. -/
def Api.Accepts (header : RmnetData) (response : Response) : Api → Prop
  | .getNetworkDeviceAssociated .. => response.crd = .returnData
  | .getLinkEgressDataFormat .. => response.crd = .returnData
  | .getLinkIngressDataFormatTailspace .. => response.crd = .returnData
  | .getLogicalEpConfig .. =>
    response.crd = .returnData ∧ response.nextDev.length ≤ header.rmnetMaxStrLen
  | .getVndName _ _ buflen => response.crd = .returnData ∧ response.vndName.length < buflen.toNat
  | _ => response.crd = .returnCode

theorem reportCode_fromKernel (header : RmnetData) (response : Response) :
    (reportCode header response).returnCode.FromKernel ↔ response.crd = .returnCode := by
  unfold reportCode ReturnCode.FromKernel
  by_cases code : response.crd = .returnCode
  · by_cases ok : response.returnCode = header.rmnetConfigOk
    · simp [code, ok, reported]
    · simp [code, ok]
  · simp [code, libErr]

theorem reportData_fromKernel (data : Response → ApiData) (response : Response) :
    (reportData data response).returnCode.FromKernel ↔ response.crd = .returnData := by
  unfold reportData ReturnCode.FromKernel
  by_cases kind : response.crd = .returnData
  · simp [kind, reported]
  · simp [kind, libErr]

/-- What the checks before a transaction return does not come from the kernel. -/
def Refuses (request : Except ApiResult Request) : Prop :=
  ∀ result, request = .error result → ¬ result.returnCode.FromKernel

theorem libErr_not_fromKernel (error : ApiError) : ¬ (libErr error).returnCode.FromKernel := by
  simp [libErr, ReturnCode.FromKernel]

/-- The checks before a transaction refuse the arguments or report a string that is cut. -/
def ReportsCut (request : Except ApiResult Request) : Prop :=
  ∀ result, request = .error result → result = invalidArg ∨ result = libErr .stringTruncation

theorem ReportsCut.ok (request : Request) : ReportsCut (.ok request) := by
  rintro result ⟨⟩

theorem ReportsCut.checked {valid : Bool} {request : Except ApiResult Request}
    (reports : ReportsCut request) :
    ReportsCut (checked valid request) := by
  intro result refused
  cases valid with
  | true => exact reports result refused
  | false => exact .inl (Except.error.inj refused).symm

theorem ReportsCut.copyName {header : RmnetData} {devName : Option Name}
    {request : Name → Except ApiResult Request}
    (reports : ∀ dev, ReportsCut (request dev)) :
    ReportsCut (copyName header devName >>= request) := by
  intro result refused
  cases copied : Rmnetctl.copyName header devName with
  | ok dev =>
    rw [copied] at refused
    exact reports dev result refused
  | error error =>
    rw [copied] at refused
    obtain rfl : error = result := Except.error.inj refused
    unfold Rmnetctl.copyName at copied
    split at copied
    · split at copied
      · cases copied
      · exact .inr (Except.error.inj copied).symm

theorem Api.reportsCut (header : RmnetData) (api : Api) :
    ReportsCut (api.call header).request := by
  cases api with
  | associateNetworkDevice | getNetworkDeviceAssociated
  | setLinkEgressDataFormat | getLinkEgressDataFormat
  | setLinkIngressDataFormatTailspace | getLinkIngressDataFormatTailspace
  | unsetLogicalEpConfig | getLogicalEpConfig => exact .checked (.copyName fun _ => .ok _)
  | setLogicalEpConfig => exact .checked (.copyName fun _ => .copyName fun _ => .ok _)
  | getVndName | addDelVndTcFlow => exact .checked (.ok _)
  | newVndPrefix pointers id which vndPrefix =>
    refine .checked ?_
    split
    · cases vndPrefix with
      | none => exact .ok _
      | some name => exact .copyName fun _ => .ok _
    · exact .ok _
  | newVnd pointers id which =>
    refine .checked ?_
    split
    · exact .ok _
    · exact .ok _

/-- No call makes a result of the kernel without a transaction. -/
theorem Api.refuses (header : RmnetData) (api : Api) : Refuses (api.call header).request := by
  intro result refused
  rcases api.reportsCut header result refused with rfl | rfl
  · simp [invalidArg, ReturnCode.FromKernel]
  · exact libErr_not_fromKernel _

/-- A call makes a result of the kernel of exactly the responses that it accepts. -/
theorem Api.report_fromKernel (header : RmnetData) (api : Api) (response : Response) :
    ((api.call header).report response).returnCode.FromKernel ↔
      api.Accepts header response := by
  cases api with
  | getNetworkDeviceAssociated | getLinkEgressDataFormat
  | getLinkIngressDataFormatTailspace => exact reportData_fromKernel _ response
  | getLogicalEpConfig pointers epId devName nextDevLen =>
    simp only [call, rmnetGetLogicalEpConfig, Accepts, strlcpy, checkLen]
    by_cases kind : response.crd = .returnData
    · by_cases fits : response.nextDev.length ≤ header.rmnetMaxStrLen
      · simp [kind, fits, reported, ReturnCode.FromKernel]
      · simp [kind, fits, libErr, ReturnCode.FromKernel]
    · simp [kind, libErr, ReturnCode.FromKernel]
  | getVndName pointers id buflen =>
    simp only [call, rmnetGetVndName, Accepts, strlcpy]
    by_cases kind : response.crd = .returnData
    · by_cases truncated : response.vndName.length ≥ buflen.toNat
      · simp [kind, truncated, libErr, ReturnCode.FromKernel]
      · simp [kind, truncated, Nat.lt_of_not_le truncated, reported, ReturnCode.FromKernel]
    · simp [kind, libErr, ReturnCode.FromKernel]
  | associateNetworkDevice | setLinkEgressDataFormat
  | setLinkIngressDataFormatTailspace | setLogicalEpConfig
  | unsetLogicalEpConfig | newVndPrefix | newVnd | addDelVndTcFlow =>
    exact reportCode_fromKernel header response

end AnglerHal.Rmnetctl
