import AnglerHal.HalCommon
import AnglerHal.ParamMaps
import AnglerHal.StepTrace

namespace AnglerHal.HdrMode

open ParamMaps StepTrace

/-!
# The HDR mode and the scene mode

`setHDRMode` and `setSceneMode` compare the requested strings with the committed ones
and stage what has changed in `m_tempMap`, which `commitParamChanges` takes over.  A
change of the HDR mode also stages the scene mode `auto` in place of `hdr`.
-/

/-- `HDR_MODE_SENSOR`. -/
def hdrModeSensor : String :=
  "hdr-mode-sensor"

/-- `HDR_MODE_MULTI_FRAME`. -/
def hdrModeMultiFrame : String :=
  "hdr-mode-multiframe"

/-- `SCENE_MODE_AUTO`. -/
def sceneModeAuto : String :=
  "auto"

/-- `SCENE_MODE_HDR`. -/
def sceneModeHdr : String :=
  "hdr"

/-- `CAM_QCOM_FEATURE_SENSOR_HDR`. -/
def camQcomFeatureSensorHdr : BitVec 32 :=
  1#32 <<< 15

/-- `CAM_QCOM_FEATURE_HDR`. -/
def camQcomFeatureHdr : BitVec 32 :=
  1#32 <<< 5

/-- Whether `strncmp` finds a difference in the first `count` characters. -/
def strncmp (str str' : String) (count : Nat) : Bool :=
  str.toList.take count != str'.toList.take count

/-- The keys of the strings. -/
inductive Key where
  | sceneMode
  | hdrMode
  | sensorHdr
  deriving DecidableEq

/-- The entries of the batch. -/
inductive Parm where
  | sensorHdr
  | bestshotMode
  deriving DecidableEq

/-- What the setters keep in `QCameraParameters`. -/
structure HdrState where
  /-- The committed strings. -/
  params : Key → Option String
  m_tempMap : Key → Option String
  m_pParamBuf : List (Parm × Int)
  m_bHDREnabled : Bool
  m_bSensorHDREnabled : Bool
  m_bHDRModeSensor : Bool
  m_bSceneTransitionAuto : Bool
  m_bUpdateEffects : Bool
  m_bNeedRestart : Bool
  m_SelectedScene : Int

/-- A `SET_PARAMS` call, with `m_bSceneSelection` as `setSceneSelectionMode` leaves it. -/
structure SetParams where
  sceneMode : Option String
  hdrMode : Option String
  m_bSceneSelection : Bool

/-- The object before its parameters are set up. -/
def HdrState.new : HdrState where
  params := fun _ => none
  m_tempMap := fun _ => none
  m_pParamBuf := []
  m_bHDREnabled := false
  m_bSensorHDREnabled := false
  m_bHDRModeSensor := true
  m_bSceneTransitionAuto := false
  m_bUpdateEffects := false
  m_bNeedRestart := false
  m_SelectedScene := 0

/-- `QCameraParameters::updateParamEntry`. -/
def updateParamEntry (key : Key) (value : String) (state : HdrState) : HdrState :=
  { state with m_tempMap := fun key' => if key' = key then some value else state.m_tempMap key' }

/-- `ADD_SET_PARAM_ENTRY_TO_BATCH`, for which the batch has room. -/
def addSetParamEntryToBatch (parm : Parm) (value : Int) (state : HdrState) : HdrState :=
  { state with m_pParamBuf := state.m_pParamBuf ++ [(parm, value)] }

/-- `QCameraParameters::setSensorSnapshotHDR`. -/
def setSensorSnapshotHdr (snapshotHdr : String) (state : HdrState) : Int × HdrState :=
  match lookupAttr onOffModesMap snapshotHdr with
  | some value =>
    (noError, addSetParamEntryToBatch .sensorHdr value
      (updateParamEntry .sensorHdr snapshotHdr state))
  | none => (badValue, state)

/-- `QCameraParameters::setHDRMode` with a string. -/
def setHdrModeStr (hdrModeStr : String) (state : HdrState) : Int × HdrState :=
  match lookupAttr hdrModesMap hdrModeStr with
  | some _ =>
    let state' := updateParamEntry .hdrMode hdrModeStr { state with
      m_bHDRModeSensor := !strncmp hdrModeStr hdrModeSensor hdrModeSensor.length }
    match state.params .sceneMode with
    | some str =>
      if strncmp str sceneModeHdr sceneModeHdr.length then
        (noError, state')
      else
        (noError, { updateParamEntry .sceneMode sceneModeAuto state' with m_bNeedRestart := true })
    | none => (noError, state')
  | none => (badValue, state)

/-- `supported_hdr_modes`. -/
def supportedHdrModes (mask : BitVec 32) : BitVec 32 :=
  mask &&& (camQcomFeatureSensorHdr ||| camQcomFeatureHdr)

/-- `QCameraParameters::setHDRMode` with the parameters. -/
def setHdrMode (mask : BitVec 32) (call : SetParams) (state : HdrState) : Int × HdrState :=
  match call.hdrMode with
  | none => (noError, state)
  | some str =>
    if camQcomFeatureSensorHdr = supportedHdrModes mask ∧
        strncmp str hdrModeSensor hdrModeSensor.length then
      (noError, state)
    else if camQcomFeatureHdr = supportedHdrModes mask ∧
        strncmp str hdrModeSensor hdrModeMultiFrame.length then
      (noError, state)
    else if supportedHdrModes mask = 0 then
      (noError, state)
    else if state.params .hdrMode ≠ some str then
      setHdrModeStr str state
    else
      (noError, state)

/-- `QCameraParameters::setSceneMode` with a string. -/
def setSceneModeStr (m_bSceneSelection : Bool) (sceneModeStr : String) (state : HdrState) :
    Int × HdrState :=
  match lookupAttr sceneModesMap sceneModeStr with
  | some value =>
    let state := updateParamEntry .sceneMode sceneModeStr state
    if state.m_bSensorHDREnabled then
      (noError, state)
    else
      let state := if m_bSceneSelection then { state with m_SelectedScene := value } else state
      (noError, addSetParamEntryToBatch .bestshotMode value state)
  | none => (badValue, state)

/-- The flags that `setSceneMode` sets for a scene mode that is new. -/
def enterSceneMode (str : String) (prevStr : Option String) (state : HdrState) : HdrState :=
  let state := if str = sceneModeAuto then { state with m_bSceneTransitionAuto := true } else state
  let state :=
    if str = sceneModeHdr then
      if state.m_bHDRModeSensor then
        { state with m_bSensorHDREnabled := true }
      else
        { state with m_bHDREnabled := true }
    else
      let state := { state with m_bHDREnabled := false }
      if state.m_bSensorHDREnabled then
        (setSensorSnapshotHdr "off"
          { state with m_bSensorHDREnabled := false, m_bNeedRestart := true }).2
      else
        state
  if state.m_bSensorHDREnabled then
    { (setSensorSnapshotHdr "on" state).2 with m_bNeedRestart := true }
  else if state.m_bHDREnabled ∨ prevStr = some sceneModeHdr then
    { state with m_bNeedRestart := true }
  else
    state

/-- `QCameraParameters::setSceneMode` with the parameters. -/
def setSceneMode (call : SetParams) (state : HdrState) : Int × HdrState :=
  match call.sceneMode with
  | none => (noError, state)
  | some str =>
    if state.params .sceneMode ≠ some str then
      setSceneModeStr call.m_bSceneSelection str
        (enterSceneMode str (state.params .sceneMode) state)
    else
      (noError, state)

/-- `QCameraParameters::commitParamChanges`. -/
def commitParamChanges (state : HdrState) : HdrState :=
  { state with
    params := fun key => (state.m_tempMap key).or (state.params key)
    m_tempMap := fun _ => none
    m_bUpdateEffects := state.m_bUpdateEffects || state.m_bSceneTransitionAuto
    m_bSceneTransitionAuto := false }

/-- The part of `updateParameters` that sets the two modes, and what the setters return. -/
def updateParameters (mask : BitVec 32) (state : HdrState) (call : SetParams) :
    Int × Int × HdrState :=
  let hdr := setHdrMode mask call { state with m_bNeedRestart := false, m_pParamBuf := [] }
  let scene := setSceneMode call hdr.2
  (hdr.1, scene.1, scene.2)

/-- A `SET_PARAMS` call with its commit. -/
def setParams (mask : BitVec 32) (state : HdrState) (call : SetParams) : HdrState :=
  commitParamChanges (updateParameters mask state call).2.2

/-- The part of `initDefaultParameters` under "Set HDR Type". -/
def initHdrType (mask : BitVec 32) (state : HdrState) : HdrState :=
  if supportedHdrModes mask = 0 then
    state
  else if camQcomFeatureSensorHdr = supportedHdrModes mask then
    (setHdrModeStr hdrModeSensor state).2
  else
    (setHdrModeStr hdrModeMultiFrame state).2

/-- The part of `initDefaultParameters` that sets up the two modes, with its commit. -/
def initDefaultParameters (mask : BitVec 32) : HdrState :=
  let state := initHdrType mask (setSceneModeStr false sceneModeAuto .new).2
  let sensorHdr := if mask &&& camQcomFeatureSensorHdr ≠ 0 then some "off" else none
  commitParamChanges { state with
    params := fun key => if key = .sensorHdr then sensorHdr else state.params key
    m_bHDREnabled := false
    m_bSensorHDREnabled := false }

/-! ## What is to hold -/

/-- An HDR mode that a capability mask supports. -/
def Supports (mask : BitVec 32) (str : String) : Prop :=
  str = hdrModeSensor ∧ mask &&& camQcomFeatureSensorHdr ≠ 0 ∨
    str = hdrModeMultiFrame ∧ mask &&& camQcomFeatureHdr ≠ 0

instance (mask : BitVec 32) (str : String) : Decidable (Supports mask str) :=
  inferInstanceAs (Decidable (_ ∨ _))

/-- A call for which both setters return no error. -/
def Successful (mask : BitVec 32) (state : HdrState) (call : SetParams) : Prop :=
  (updateParameters mask state call).1 = noError ∧ (updateParameters mask state call).2.1 = noError

instance (mask : BitVec 32) (state : HdrState) (call : SetParams) :
    Decidable (Successful mask state call) :=
  inferInstanceAs (Decidable (_ ∧ _))

/-- The flags agree with the committed modes. -/
structure Agrees (state : HdrState) : Prop where
  exclusive : ¬ (state.m_bHDREnabled = true ∧ state.m_bSensorHDREnabled = true)
  scene : state.m_bHDREnabled = true ∨ state.m_bSensorHDREnabled = true ↔
    state.params .sceneMode = some sceneModeHdr
  sensor : state.m_bHDREnabled = true ∨ state.m_bSensorHDREnabled = true →
    (state.m_bSensorHDREnabled = true ↔ state.params .hdrMode = some hdrModeSensor)

/-- What is to hold after the commit of a call. -/
def Follows (mask : BitVec 32) (before : HdrState) (call : SetParams) (after : HdrState) : Prop :=
  Agrees after ∧ ∀ str ∈ call.hdrMode, ¬ Supports mask str →
    after.m_bHDRModeSensor = before.m_bHDRModeSensor

/-- A call that changes the HDR mode while the scene mode is and remains `hdr`. -/
def ChangesUnderHdr (mask : BitVec 32) (before : HdrState) (call : SetParams) : Prop :=
  before.params .sceneMode = some sceneModeHdr ∧
    (call.sceneMode = none ∨ call.sceneMode = some sceneModeHdr) ∧
    ∃ str ∈ call.hdrMode, Supports mask str ∧ before.params .hdrMode ≠ some str

/-- A call that asks for the sensor mode where only the multi-frame mode is supported. -/
def AsksForSensor (mask : BitVec 32) (call : SetParams) : Prop :=
  call.hdrMode = some hdrModeSensor ∧ ¬ Supports mask hdrModeSensor

/-- A call that does neither. -/
def Settled (mask : BitVec 32) (before : HdrState) (call : SetParams) : Prop :=
  ¬ ChangesUnderHdr mask before call ∧ ¬ AsksForSensor mask call

/-! ## One call -/

/-- What holds between calls: the flags agree with the modes, and these are known. -/
structure Good (mask : BitVec 32) (state : HdrState) : Prop where
  agrees : Agrees state
  hdrMode : ∃ mode, state.params .hdrMode = some mode ∧ Supports mask mode ∧
    state.m_bHDRModeSensor = decide (mode = hdrModeSensor)
  noTemp : state.m_tempMap = fun _ => none
  scene : ∃ str value, state.params .sceneMode = some str ∧
    lookupAttr sceneModesMap str = some value

/-- The state between the two setters, when the HDR mode it leads to is supported. -/
structure Between (mask : BitVec 32) (before mid : HdrState) : Prop where
  params : mid.params = before.params
  hdrEnabled : mid.m_bHDREnabled = before.m_bHDREnabled
  sensorEnabled : mid.m_bSensorHDREnabled = before.m_bSensorHDREnabled
  hdrMode : ∃ mode, (mid.m_tempMap .hdrMode).or (before.params .hdrMode) = some mode ∧
    Supports mask mode ∧ mid.m_bHDRModeSensor = decide (mode = hdrModeSensor)

section Masks

variable {mask : BitVec 32}

/-- A mask has the one feature, the other, both, or none. -/
theorem supportedHdrModes_cases (mask : BitVec 32) :
    supportedHdrModes mask = 0 ∧ mask &&& camQcomFeatureSensorHdr = 0 ∧
        mask &&& camQcomFeatureHdr = 0 ∨
      supportedHdrModes mask = camQcomFeatureSensorHdr ∧ mask &&& camQcomFeatureSensorHdr ≠ 0 ∧
        mask &&& camQcomFeatureHdr = 0 ∨
      supportedHdrModes mask = camQcomFeatureHdr ∧ mask &&& camQcomFeatureSensorHdr = 0 ∧
        mask &&& camQcomFeatureHdr ≠ 0 ∨
      supportedHdrModes mask = camQcomFeatureSensorHdr ||| camQcomFeatureHdr ∧
        mask &&& camQcomFeatureSensorHdr ≠ 0 ∧ mask &&& camQcomFeatureHdr ≠ 0 := by
  have sensor : mask &&& camQcomFeatureSensorHdr = 0 ∨
      mask &&& camQcomFeatureSensorHdr = camQcomFeatureSensorHdr := by
    have isBit : camQcomFeatureSensorHdr = .twoPow 32 15 := by decide
    rw [isBit, BitVec.and_twoPow]
    split
    · exact .inr rfl
    · exact .inl rfl
  have multi : mask &&& camQcomFeatureHdr = 0 ∨
      mask &&& camQcomFeatureHdr = camQcomFeatureHdr := by
    have isBit : camQcomFeatureHdr = .twoPow 32 5 := by decide
    rw [isBit, BitVec.and_twoPow]
    split
    · exact .inr rfl
    · exact .inl rfl
  rw [supportedHdrModes, BitVec.and_or_distrib_left]
  rcases sensor with sensor | sensor <;> rcases multi with multi | multi <;>
    rw [sensor, multi] <;> decide

theorem supports_sensor : Supports mask hdrModeSensor ↔ mask &&& camQcomFeatureSensorHdr ≠ 0 := by
  simp [Supports, hdrModeSensor, hdrModeMultiFrame]

theorem supports_multiFrame :
    Supports mask hdrModeMultiFrame ↔ mask &&& camQcomFeatureHdr ≠ 0 := by
  simp [Supports, hdrModeSensor, hdrModeMultiFrame]

theorem known_of_supports {str : String} (supports : Supports mask str) :
    str = hdrModeSensor ∨ str = hdrModeMultiFrame :=
  supports.imp And.left And.left

end Masks

variable {value : Int} {after : HdrState} {mask : BitVec 32}

section Call

variable {before mid : HdrState} {call : SetParams} {str : String}

theorem lookup_hdrMode_iff :
    (lookupAttr hdrModesMap str).isSome ↔ str = hdrModeSensor ∨ str = hdrModeMultiFrame := by
  constructor
  · intro isSome
    obtain ⟨value, found⟩ := Option.isSome_iff_exists.mp isSome
    have member := mem_of_lookupAttr found
    simp only [hdrModesMap, List.mem_cons, Prod.mk.injEq, List.not_mem_nil, or_false] at member
    exact member.imp And.left And.left
  · rintro (rfl | rfl) <;> decide

/-- Only `hdr` itself begins like it. -/
theorem strncmp_scene (known : lookupAttr sceneModesMap str = some value) :
    strncmp str sceneModeHdr sceneModeHdr.length = false ↔ str = sceneModeHdr := by
  have all : ∀ entry ∈ sceneModesMap,
      strncmp entry.1 sceneModeHdr sceneModeHdr.length = false ↔ entry.1 = sceneModeHdr := by
    decide
  exact all _ (mem_of_lookupAttr known)

/-- The state after `setHDRMode` staged a mode. -/
structure Staged (str : String) (before mid : HdrState) : Prop where
  params : mid.params = before.params
  hdrEnabled : mid.m_bHDREnabled = before.m_bHDREnabled
  sensorEnabled : mid.m_bSensorHDREnabled = before.m_bSensorHDREnabled
  modeSensor : mid.m_bHDRModeSensor = decide (str = hdrModeSensor)
  hdrMode : mid.m_tempMap .hdrMode = some str
  sceneMode : mid.m_tempMap .sceneMode =
    if before.params .sceneMode = some sceneModeHdr then some sceneModeAuto
    else before.m_tempMap .sceneMode

theorem setHdrModeStr_staged (known : str = hdrModeSensor ∨ str = hdrModeMultiFrame)
    {scene : String} (isScene : before.params .sceneMode = some scene)
    (knownScene : lookupAttr sceneModesMap scene = some value) :
    (setHdrModeStr str before).1 = noError ∧ Staged str before (setHdrModeStr str before).2 := by
  obtain ⟨mode, found⟩ := Option.isSome_iff_exists.mp (lookup_hdrMode_iff.mpr known)
  have modeSensor : (!strncmp str hdrModeSensor hdrModeSensor.length) =
      decide (str = hdrModeSensor) := by
    rcases known with rfl | rfl <;> decide
  simp only [setHdrModeStr, found, isScene, modeSensor]
  split
  next differs =>
    have notHdr : scene ≠ sceneModeHdr := fun same => by
      rw [(strncmp_scene knownScene).mpr same] at differs
      cases differs
    exact ⟨rfl, rfl, rfl, rfl, rfl, rfl, by simp [updateParamEntry, isScene, notHdr]⟩
  next same =>
    have isHdr := (strncmp_scene knownScene).mp (Bool.eq_false_iff.mpr same)
    exact ⟨rfl, rfl, rfl, rfl, rfl, rfl, by simp [updateParamEntry, isScene, isHdr]⟩

/-- Nothing is staged: the mode is refused, or it is committed already. -/
def Ignored (mask : BitVec 32) (call : SetParams) (before mid : HdrState) : Prop :=
  mid = before ∧ ¬ AsksForSensor mask call ∧
    ∀ str ∈ call.hdrMode, Supports mask str → before.params .hdrMode = some str

/-- The sensor mode passes the tests under every mask. -/
theorem setHdrMode_sensor (hasHdr : supportedHdrModes mask ≠ 0)
    (isCall : call.hdrMode = some hdrModeSensor) :
    setHdrMode mask call before =
      if before.params .hdrMode ≠ some hdrModeSensor then setHdrModeStr hdrModeSensor before
      else (noError, before) := by
  have equal : strncmp hdrModeSensor hdrModeSensor hdrModeSensor.length = false := by decide
  have equal' : strncmp hdrModeSensor hdrModeSensor hdrModeMultiFrame.length = false := by decide
  simp only [setHdrMode, isCall, equal, equal', Bool.false_eq_true, and_false, if_false, hasHdr]

/-- The multi-frame mode passes them where the sensor mode is supported as well. -/
theorem setHdrMode_multiFrame (hasHdr : supportedHdrModes mask ≠ 0)
    (isCall : call.hdrMode = some hdrModeMultiFrame) :
    setHdrMode mask call before =
      if Supports mask hdrModeSensor ∧ Supports mask hdrModeMultiFrame ∧
          before.params .hdrMode ≠ some hdrModeMultiFrame then
        setHdrModeStr hdrModeMultiFrame before
      else
        (noError, before) := by
  have differs : strncmp hdrModeMultiFrame hdrModeSensor hdrModeSensor.length = true := by decide
  have differs' : strncmp hdrModeMultiFrame hdrModeSensor hdrModeMultiFrame.length = true := by
    decide
  simp only [setHdrMode, isCall, differs, differs', and_true, hasHdr, if_false, supports_sensor,
    supports_multiFrame]
  rcases supportedHdrModes_cases mask with none | onlySensor | onlyMulti | both
  · exact absurd none.1 hasHdr
  · rw [if_pos onlySensor.1.symm, if_neg fun passes => passes.2.1 onlySensor.2.2]
  · rw [if_neg (by rw [onlyMulti.1]; decide), if_pos onlyMulti.1.symm,
      if_neg fun passes => passes.1 onlyMulti.2.1]
  · rw [if_neg (by rw [both.1]; decide), if_neg (by rw [both.1]; decide)]
    simp only [ne_eq, both.2.1, both.2.2, not_false_eq_true, true_and]

/-- An unknown mode is refused. -/
theorem setHdrMode_unknown (hasHdr : supportedHdrModes mask ≠ 0) (isCall : call.hdrMode = some str)
    (unknown : ¬ (str = hdrModeSensor ∨ str = hdrModeMultiFrame))
    (isNew : before.params .hdrMode ≠ some str)
    (success : (setHdrMode mask call before).1 = noError) :
    (setHdrMode mask call before).2 = before := by
  have notFound : lookupAttr hdrModesMap str = none := by
    rw [← Option.not_isSome_iff_eq_none, lookup_hdrMode_iff]
    exact unknown
  revert success
  simp only [setHdrMode, isCall, isNew, hasHdr, ne_eq, not_false_eq_true, if_true, if_false,
    setHdrModeStr, notFound]
  split
  · exact fun _ => rfl
  · split
    · exact fun _ => rfl
    · exact fun success => absurd (show badValue = noError from success) (by decide)

theorem ignored_of (isCall : call.hdrMode = some str) (same : mid = before)
    (asksNot : ¬ AsksForSensor mask call)
    (committed : Supports mask str → before.params .hdrMode = some str) :
    Ignored mask call before mid := by
  refine ⟨same, asksNot, fun str' isStr => ?_⟩
  obtain rfl := Option.some.inj (isCall.symm.trans isStr)
  exact committed

/-- `setHDRMode` stages a new mode or ignores it. -/
theorem setHdrMode_cases (good : Good mask before) (hasHdr : supportedHdrModes mask ≠ 0)
    (success : (setHdrMode mask call before).1 = noError) :
    Ignored mask call before (setHdrMode mask call before).2 ∨
      ∃ str, call.hdrMode = some str ∧ (Supports mask str ∨ AsksForSensor mask call) ∧
        before.params .hdrMode ≠ some str ∧ Staged str before (setHdrMode mask call before).2 := by
  obtain ⟨mode, isMode, supported, -⟩ := good.hdrMode
  obtain ⟨scene, value, isScene, knownScene⟩ := good.scene
  cases isCall : call.hdrMode with
  | none =>
    refine .inl ⟨by simp [setHdrMode, isCall], ?_, ?_⟩ <;> simp [AsksForSensor, isCall]
  | some str =>
    have asks (asks : AsksForSensor mask call) : str = hdrModeSensor :=
      Option.some.inj (isCall.symm.trans asks.1)
    by_cases known : str = hdrModeSensor ∨ str = hdrModeMultiFrame
    · obtain ⟨-, staged⟩ := setHdrModeStr_staged known isScene knownScene
      rcases known with rfl | rfl
      · rw [setHdrMode_sensor hasHdr isCall]
        by_cases isSensor : before.params .hdrMode = some hdrModeSensor
        · rw [if_neg (not_not.mpr isSensor)]
          obtain rfl := Option.some.inj (isMode.symm.trans isSensor)
          exact .inl (ignored_of isCall rfl (fun asks => asks.2 supported) fun _ => isMode)
        · rw [if_pos isSensor]
          refine .inr ⟨_, rfl, ?_, isSensor, staged⟩
          by_cases supports : Supports mask hdrModeSensor
          · exact .inl supports
          · exact .inr ⟨isCall, supports⟩
      · rw [setHdrMode_multiFrame hasHdr isCall]
        by_cases passes : Supports mask hdrModeSensor ∧ Supports mask hdrModeMultiFrame ∧
            before.params .hdrMode ≠ some hdrModeMultiFrame
        · rw [if_pos passes]
          exact .inr ⟨_, rfl, .inl passes.2.1, passes.2.2, staged⟩
        · rw [if_neg passes]
          refine .inl (ignored_of isCall rfl (fun isAsked => absurd (asks isAsked) (by decide))
            fun supports => ?_)
          -- without the sensor mode, the multi-frame mode is the only one to be committed
          rcases known_of_supports supported with rfl | rfl
          · by_contra isNew
            exact passes ⟨supported, supports, isNew⟩
          · exact isMode
    · have isNew : before.params .hdrMode ≠ some str := fun same =>
        known (known_of_supports (Option.some.inj (isMode.symm.trans same) ▸ supported))
      exact .inl (ignored_of isCall (setHdrMode_unknown hasHdr isCall known isNew success)
        (fun isAsked => known (.inl (asks isAsked)))
        fun supports => absurd (known_of_supports supports) known)

/-- The state after `setSceneMode` staged a mode that is new. -/
structure Entered (str : String) (mid after : HdrState) : Prop where
  params : after.params = mid.params
  modeSensor : after.m_bHDRModeSensor = mid.m_bHDRModeSensor
  hdrMode : after.m_tempMap .hdrMode = mid.m_tempMap .hdrMode
  hdrEnabled : after.m_bHDREnabled =
    if str = sceneModeHdr then mid.m_bHDREnabled || !mid.m_bHDRModeSensor else false
  sensorEnabled : after.m_bSensorHDREnabled =
    if str = sceneModeHdr then mid.m_bSensorHDREnabled || mid.m_bHDRModeSensor else false

theorem setSensorSnapshotHdr_on (state : HdrState) : (setSensorSnapshotHdr "on" state).2 =
    addSetParamEntryToBatch .sensorHdr 1 (updateParamEntry .sensorHdr "on" state) := rfl

theorem setSensorSnapshotHdr_off (state : HdrState) : (setSensorSnapshotHdr "off" state).2 =
    addSetParamEntryToBatch .sensorHdr 0 (updateParamEntry .sensorHdr "off" state) := rfl

theorem enterSceneMode_entered (str : String) (prevStr : Option String) (mid : HdrState) :
    Entered str mid (enterSceneMode str prevStr mid) := by
  have autoNotHdr : sceneModeAuto ≠ sceneModeHdr := by decide
  by_cases isHdr : str = sceneModeHdr
  · cases isSensor : mid.m_bHDRModeSensor <;> cases sensor : mid.m_bSensorHDREnabled <;>
      constructor <;>
      simp [enterSceneMode, setSensorSnapshotHdr_on, isHdr, isSensor, sensor, autoNotHdr.symm,
        addSetParamEntryToBatch, updateParamEntry]
  · by_cases isAuto : str = sceneModeAuto <;> cases sensor : mid.m_bSensorHDREnabled <;>
      by_cases prev : prevStr = some sceneModeHdr <;> constructor <;>
      simp [enterSceneMode, setSensorSnapshotHdr_off, isHdr, isAuto, autoNotHdr, sensor, prev,
        addSetParamEntryToBatch, updateParamEntry]

/-- `setSceneMode` with a mode that is new. -/
theorem setSceneMode_entered (isCall : call.sceneMode = some str)
    (isNew : mid.params .sceneMode ≠ some str) (success : (setSceneMode call mid).1 = noError) :
    Entered str mid (setSceneMode call mid).2 ∧
      (setSceneMode call mid).2.m_tempMap .sceneMode = some str ∧
      ∃ value, lookupAttr sceneModesMap str = some value := by
  have entered := enterSceneMode_entered str (mid.params .sceneMode) mid
  revert success
  simp only [setSceneMode, isCall, isNew, ne_eq, not_false_eq_true, if_true, setSceneModeStr]
  generalize enterSceneMode str (mid.params .sceneMode) mid = flagged at entered ⊢
  split
  next value found =>
    intro _
    refine ⟨?_, ?_, value, found⟩
    · split
      · exact ⟨entered.params, entered.modeSensor, entered.hdrMode, entered.hdrEnabled,
          entered.sensorEnabled⟩
      · split <;> exact ⟨entered.params, entered.modeSensor, entered.hdrMode,
          entered.hdrEnabled, entered.sensorEnabled⟩
    · split
      · rfl
      · split <;> rfl
  next =>
    exact fun success => absurd (show badValue = noError from success) (by decide)

/-- `setSceneMode` with the committed mode, or with none. -/
theorem setSceneMode_same (isSame : ∀ str ∈ call.sceneMode, mid.params .sceneMode = some str) :
    (setSceneMode call mid).2 = mid := by
  unfold setSceneMode
  split
  · rfl
  · next str isStr => rw [if_neg (not_not.mpr (isSame str isStr))]

theorem between_of_ignored (good : Good mask before) (ignored : Ignored mask call before mid) :
    Between mask before mid := by
  obtain ⟨mode, isMode, supported, modeSensor⟩ := good.hdrMode
  obtain ⟨rfl, -, -⟩ := ignored
  exact ⟨rfl, rfl, rfl, mode, by rw [good.noTemp, isMode]; rfl, supported, modeSensor⟩

theorem between_of_staged (supports : Supports mask str) (staged : Staged str before mid) :
    Between mask before mid :=
  ⟨staged.params, staged.hdrEnabled, staged.sensorEnabled, str,
    by rw [staged.hdrMode]; rfl, supports, staged.modeSensor⟩

/-- The flags are off while the committed scene mode is another one. -/
theorem flags_off (good : Good mask before)
    (notHdr : before.params .sceneMode ≠ some sceneModeHdr) :
    before.m_bHDREnabled = false ∧ before.m_bSensorHDREnabled = false := by
  have off := mt good.agrees.scene.mp notHdr
  rw [not_or, Bool.not_eq_true, Bool.not_eq_true] at off
  exact off

/-- The commit of a scene mode that is new. -/
theorem good_of_entered (good : Good mask before)
    (between : Between mask before mid) (isNew : before.params .sceneMode ≠ some str)
    (entered : Entered str mid after) (isStaged : after.m_tempMap .sceneMode = some str)
    (known : lookupAttr sceneModesMap str = some value) : Good mask (commitParamChanges after) := by
  obtain ⟨mode, isMode, supported, modeSensor⟩ := between.hdrMode
  have scene : (commitParamChanges after).params .sceneMode = some str := by
    simp [commitParamChanges, isStaged]
  have hdrMode : (commitParamChanges after).params .hdrMode = some mode := by
    simp only [commitParamChanges, entered.hdrMode, entered.params, between.params]
    exact isMode
  have isSensor : (commitParamChanges after).m_bHDRModeSensor = decide (mode = hdrModeSensor) :=
    entered.modeSensor.trans modeSensor
  have hdrEnabled : (commitParamChanges after).m_bHDREnabled = after.m_bHDREnabled := rfl
  have sensorEnabled : (commitParamChanges after).m_bSensorHDREnabled =
    after.m_bSensorHDREnabled := rfl
  refine ⟨?_, ⟨mode, hdrMode, supported, isSensor⟩, rfl, str, value, scene, known⟩
  rw [entered.hdrEnabled] at hdrEnabled
  rw [entered.sensorEnabled] at sensorEnabled
  by_cases isHdr : str = sceneModeHdr
  · obtain ⟨hdrOff, sensorOff⟩ := flags_off good fun same => isNew (isHdr ▸ same)
    rw [if_pos isHdr, between.hdrEnabled, hdrOff, modeSensor] at hdrEnabled
    rw [if_pos isHdr, between.sensorEnabled, sensorOff, modeSensor] at sensorEnabled
    constructor <;> rw [hdrEnabled, sensorEnabled]
    · by_cases same : mode = hdrModeSensor <;> simp [same]
    · by_cases same : mode = hdrModeSensor <;> simp [same, scene, isHdr]
    · simp [hdrMode]
  · rw [if_neg isHdr] at hdrEnabled sensorEnabled
    constructor <;> rw [hdrEnabled, sensorEnabled]
    · simp
    · simp [scene, isHdr]
    · simp

/-- The commit of a mode that is staged outside `hdr`, the scene mode being the same. -/
theorem good_of_staged (good : Good mask before) (supports : Supports mask str)
    (staged : Staged str before mid) (notHdr : before.params .sceneMode ≠ some sceneModeHdr) :
    Good mask (commitParamChanges mid) := by
  obtain ⟨scene, value, isScene, knownScene⟩ := good.scene
  obtain ⟨hdrOff, sensorOff⟩ := flags_off good notHdr
  have noScene : mid.m_tempMap .sceneMode = none := by
    rw [staged.sceneMode, if_neg notHdr, good.noTemp]
  have sceneSame : (commitParamChanges mid).params .sceneMode = some scene := by
    simp [commitParamChanges, noScene, staged.params, isScene]
  have hdrEnabled : (commitParamChanges mid).m_bHDREnabled = false :=
    staged.hdrEnabled.trans hdrOff
  have sensorEnabled : (commitParamChanges mid).m_bSensorHDREnabled = false :=
    staged.sensorEnabled.trans sensorOff
  refine ⟨?_, ⟨str, ?_, supports, staged.modeSensor⟩, rfl, scene, value, sceneSame, knownScene⟩
  · constructor <;> rw [hdrEnabled, sensorEnabled]
    · simp
    · rw [sceneSame, ← isScene]
      simp [notHdr]
    · simp
  · simp [commitParamChanges, staged.hdrMode]

/-- The commit of nothing. -/
theorem good_of_same (good : Good mask before) : Good mask (commitParamChanges before) := by
  have same : (commitParamChanges before).params = before.params := by
    simp [commitParamChanges, good.noTemp]
  obtain ⟨exclusive, scene, sensor⟩ := good.agrees
  refine ⟨⟨exclusive, ?_, ?_⟩, ?_, rfl, ?_⟩ <;> rw [same]
  · exact scene
  · exact sensor
  · exact good.hdrMode
  · exact good.scene

/-- The commit of a mode that is staged under `hdr`: the flags stay, the scene mode does not. -/
theorem not_agrees_of_staged (good : Good mask before) (staged : Staged str before mid)
    (isHdr : before.params .sceneMode = some sceneModeHdr) : ¬ Agrees (commitParamChanges mid) := by
  intro agrees
  have scene : (commitParamChanges mid).params .sceneMode = some sceneModeAuto := by
    simp [commitParamChanges, staged.sceneMode, isHdr]
  have flags : (commitParamChanges mid).m_bHDREnabled = true ∨
      (commitParamChanges mid).m_bSensorHDREnabled = true := by
    show mid.m_bHDREnabled = true ∨ mid.m_bSensorHDREnabled = true
    rw [staged.hdrEnabled, staged.sensorEnabled]
    exact good.agrees.scene.mpr isHdr
  exact absurd (scene.symm.trans (agrees.scene.mp flags)) (by decide)

/-- A scene mode is new, or the commit is that of what `setHDRMode` left. -/
theorem setSceneMode_cases (params : mid.params = before.params)
    (success : (setSceneMode call mid).1 = noError) :
    ((∀ str ∈ call.sceneMode, before.params .sceneMode = some str) ∧
        (setSceneMode call mid).2 = mid) ∨
      ∃ str value, call.sceneMode = some str ∧ before.params .sceneMode ≠ some str ∧
        Entered str mid (setSceneMode call mid).2 ∧
        (setSceneMode call mid).2.m_tempMap .sceneMode = some str ∧
        lookupAttr sceneModesMap str = some value := by
  by_cases same : ∀ str ∈ call.sceneMode, before.params .sceneMode = some str
  · exact .inl ⟨same, setSceneMode_same (params ▸ same)⟩
  · push Not at same
    obtain ⟨str, isStr, isNew⟩ := same
    obtain ⟨entered, isStaged, value, known⟩ :=
      setSceneMode_entered isStr (params ▸ isNew) success
    exact .inr ⟨str, value, isStr, isNew, entered, isStaged, known⟩

theorem setSceneMode_modeSensor (success : (setSceneMode call mid).1 = noError) :
    (setSceneMode call mid).2.m_bHDRModeSensor = mid.m_bHDRModeSensor := by
  rcases setSceneMode_cases rfl success with ⟨-, same⟩ | ⟨str, value, -, -, entered, -, -⟩
  · rw [same]
  · exact entered.modeSensor

/-- What a call does agrees with whether it is settled. -/
def Decided (mask : BitVec 32) (before : HdrState) (call : SetParams) (after : HdrState) : Prop :=
  (Follows mask before call after ↔ Settled mask before call) ∧
    (Settled mask before call → Good mask after)

theorem decided_of_good (next : Good mask after) (settled : Settled mask before call)
    (sensor : ∀ str ∈ call.hdrMode, ¬ Supports mask str →
      after.m_bHDRModeSensor = before.m_bHDRModeSensor) : Decided mask before call after :=
  ⟨⟨fun _ => settled, fun _ => ⟨next.agrees, sensor⟩⟩, fun _ => next⟩

theorem decided_of_not (notFollows : ¬ Follows mask before call after)
    (notSettled : ¬ Settled mask before call) : Decided mask before call after :=
  ⟨iff_of_false notFollows notSettled, fun settled => absurd settled notSettled⟩

section Outcomes

variable (good : Good mask before) (success : (setSceneMode call mid).1 = noError)
include good success

/-- A call whose HDR mode is ignored. -/
theorem decided_of_ignored (ignored : Ignored mask call before mid) :
    Decided mask before call (commitParamChanges (setSceneMode call mid).2) := by
  have between := between_of_ignored good ignored
  have modeSensor := setSceneMode_modeSensor success
  have settled : Settled mask before call := by
    refine ⟨?_, ignored.2.1⟩
    rintro ⟨-, -, str, isStr, supports, isNew⟩
    exact isNew (ignored.2.2 str isStr supports)
  have kept : (setSceneMode call mid).2.m_bHDRModeSensor = before.m_bHDRModeSensor :=
    modeSensor.trans (congrArg HdrState.m_bHDRModeSensor ignored.1)
  refine decided_of_good ?_ settled fun _ _ _ => kept
  rcases setSceneMode_cases between.params success with ⟨-, same⟩ | entered
  · rw [same, ignored.1]
    exact good_of_same good
  · obtain ⟨str, value, -, isNew, entered, isStaged, known⟩ := entered
    exact good_of_entered good between isNew entered isStaged known

/-- A call that stages an HDR mode that is supported. -/
theorem decided_of_staged (isStr : call.hdrMode = some str) (supports : Supports mask str)
    (isNew : before.params .hdrMode ≠ some str) (staged : Staged str before mid) :
    Decided mask before call (commitParamChanges (setSceneMode call mid).2) := by
  have asksNot : ¬ AsksForSensor mask call := fun asks =>
    asks.2 (Option.some.inj (isStr.symm.trans asks.1) ▸ supports)
  have noneUnsupported {after : HdrState} : ∀ str' ∈ call.hdrMode, ¬ Supports mask str' →
      after.m_bHDRModeSensor = before.m_bHDRModeSensor := fun str' isStr' notSupported =>
    absurd (Option.some.inj (isStr.symm.trans isStr') ▸ supports) notSupported
  rcases setSceneMode_cases staged.params success with ⟨same, unchanged⟩ | entered
  · rw [unchanged]
    by_cases isHdr : before.params .sceneMode = some sceneModeHdr
    · refine decided_of_not (fun follows => not_agrees_of_staged good staged isHdr follows.1)
        fun settled => settled.1 ⟨isHdr, ?_, str, isStr, supports, isNew⟩
      cases isScene : call.sceneMode with
      | none => exact .inl rfl
      | some scene => exact .inr ((same scene isScene).symm.trans isHdr)
    · exact decided_of_good (good_of_staged good supports staged isHdr)
        ⟨fun changes => isHdr changes.1, asksNot⟩ noneUnsupported
  · obtain ⟨scene, value, isScene, isNewScene, entered, isStaged, known⟩ := entered
    refine decided_of_good (good_of_entered good (between_of_staged supports staged) isNewScene
      entered isStaged known) ⟨?_, asksNot⟩ noneUnsupported
    rintro ⟨isHdr, none | hdr, -⟩
    · cases none.symm.trans isScene
    · exact isNewScene (isHdr.trans (hdr.symm.trans isScene))

/-- A call that stages the sensor mode though it is not supported. -/
theorem decided_of_asks (isStr : call.hdrMode = some str) (asks : AsksForSensor mask call)
    (staged : Staged str before mid) :
    Decided mask before call (commitParamChanges (setSceneMode call mid).2) := by
  obtain ⟨mode, -, supported, modeSensor⟩ := good.hdrMode
  obtain rfl := Option.some.inj (isStr.symm.trans asks.1)
  refine decided_of_not (fun follows => ?_) fun settled => settled.2 asks
  have kept : (setSceneMode call mid).2.m_bHDRModeSensor = before.m_bHDRModeSensor :=
    follows.2 _ isStr asks.2
  rw [setSceneMode_modeSensor success, staged.modeSensor, modeSensor] at kept
  have isSensor : mode = hdrModeSensor := by simpa using kept.symm
  exact asks.2 (isSensor ▸ supported)

end Outcomes

/-- One call follows the modes exactly when it is settled, and leaves a good state then. -/
theorem setParams_decided (hasHdr : supportedHdrModes mask ≠ 0) (good : Good mask before)
    (successful : Successful mask before call) :
    Decided mask before call (setParams mask before call) := by
  -- the call begins with an empty batch
  let start : HdrState := { before with m_bNeedRestart := false, m_pParamBuf := [] }
  have goodStart : Good mask start :=
    ⟨⟨good.agrees.exclusive, good.agrees.scene, good.agrees.sensor⟩, good.hdrMode, good.noTemp,
      good.scene⟩
  obtain ⟨hdrSuccess, sceneSuccess⟩ := successful
  show Decided mask start call (setParams mask before call)
  rcases setHdrMode_cases goodStart hasHdr hdrSuccess with ignored | staged
  · exact decided_of_ignored goodStart sceneSuccess ignored
  · obtain ⟨str, isStr, supports | asks, isNew, staged⟩ := staged
    · exact decided_of_staged goodStart sceneSuccess isStr supports isNew staged
    · exact decided_of_asks goodStart sceneSuccess isStr asks staged

end Call

/-! ## Every run -/

/-- The mode that a fresh object is given. -/
theorem initHdrType_eq (hasHdr : supportedHdrModes mask ≠ 0) {state : HdrState}
    (noScene : state.params .sceneMode = none) : ∃ mode, Supports mask mode ∧
      initHdrType mask state = updateParamEntry .hdrMode mode
        { state with m_bHDRModeSensor := decide (mode = hdrModeSensor) } := by
  have sensor : (setHdrModeStr hdrModeSensor state).2 = updateParamEntry .hdrMode hdrModeSensor
      { state with m_bHDRModeSensor := decide (hdrModeSensor = hdrModeSensor) } := by
    have found : lookupAttr hdrModesMap hdrModeSensor = some 0 := by decide
    have equal : (!strncmp hdrModeSensor hdrModeSensor hdrModeSensor.length) = true := by decide
    simp only [setHdrModeStr, found, noScene, equal, decide_true]
  have multi : (setHdrModeStr hdrModeMultiFrame state).2 =
      updateParamEntry .hdrMode hdrModeMultiFrame
        { state with m_bHDRModeSensor := decide (hdrModeMultiFrame = hdrModeSensor) } := by
    have found : lookupAttr hdrModesMap hdrModeMultiFrame = some 1 := by decide
    have differs : (!strncmp hdrModeMultiFrame hdrModeSensor hdrModeSensor.length) =
        decide (hdrModeMultiFrame = hdrModeSensor) := by
      decide
    simp only [setHdrModeStr, found, noScene, differs]
  unfold initHdrType
  rw [if_neg hasHdr]
  rcases supportedHdrModes_cases mask with none | onlySensor | onlyMulti | both
  · exact absurd none.1 hasHdr
  · rw [if_pos onlySensor.1.symm]
    exact ⟨_, supports_sensor.mpr onlySensor.2.1, sensor⟩
  · rw [if_neg (by rw [onlyMulti.1]; decide)]
    exact ⟨_, supports_multiFrame.mpr onlyMulti.2.2, multi⟩
  · rw [if_neg (by rw [both.1]; decide)]
    exact ⟨_, supports_multiFrame.mpr both.2.2, multi⟩

theorem initDefaultParameters_good (hasHdr : supportedHdrModes mask ≠ 0) :
    Good mask (initDefaultParameters mask) := by
  have scene : (setSceneModeStr false sceneModeAuto .new).2 =
      addSetParamEntryToBatch .bestshotMode 0 (updateParamEntry .sceneMode sceneModeAuto .new) :=
        rfl
  obtain ⟨mode, supports, hdr⟩ := initHdrType_eq hasHdr
    (show (setSceneModeStr false sceneModeAuto .new).2.params .sceneMode = none from rfl)
  have autoNotHdr : sceneModeAuto ≠ sceneModeHdr := by decide
  have isScene : (initDefaultParameters mask).params .sceneMode = some sceneModeAuto := by
    rw [initDefaultParameters, hdr, scene]
    rfl
  refine ⟨⟨?_, ?_, ?_⟩, ⟨mode, ?_, supports, ?_⟩, rfl, sceneModeAuto, 0, isScene, by decide⟩
  · rintro ⟨hdrEnabled, -⟩
    cases hdrEnabled
  · rw [isScene]
    refine iff_of_false ?_ fun same => autoNotHdr (Option.some.inj same)
    rintro (hdrEnabled | sensorEnabled)
    · cases hdrEnabled
    · cases sensorEnabled
  · rintro (hdrEnabled | sensorEnabled)
    · cases hdrEnabled
    · cases sensorEnabled
  · rw [initDefaultParameters, hdr]
    rfl
  · rw [initDefaultParameters, hdr]
    rfl

/--
Along a sequence of successful calls the HDR flags follow the committed modes exactly when every
call is settled: it changes no HDR mode while the scene mode is and remains `hdr`, and asks for
the sensor mode only where that is supported.
-/
theorem hdrFlags_iff {mask : BitVec 32} (hasHdr : supportedHdrModes mask ≠ 0)
    {sequence : List SetParams}
    (successful : EachStep (setParams mask) (fun before call _ => Successful mask before call)
      (initDefaultParameters mask) sequence) :
    EachStep (setParams mask) (Follows mask) (initDefaultParameters mask) sequence ↔
      EachStep (setParams mask) (fun before call _ => Settled mask before call)
        (initDefaultParameters mask) sequence :=
  successful.iff_of_invariant (Good mask)
    (fun _ _ good isSuccessful => setParams_decided hasHdr good isSuccessful)
    (initDefaultParameters_good hasHdr)

/-- A call that asks for the two modes. -/
def askFor (sceneMode : Option String) (hdrMode : Option String) : SetParams :=
  ⟨sceneMode, hdrMode, false⟩

/-- With both features the scene mode is set, then left together with a new HDR mode. -/
theorem hdrFlags_iff_both :
    EachStep (setParams 0x8020) (Follows 0x8020) (initDefaultParameters 0x8020)
      [askFor (some "hdr") none, askFor (some "night") (some "hdr-mode-sensor")] := by
  have successful : EachStep (setParams 0x8020)
      (fun before call _ => Successful 0x8020 before call) (initDefaultParameters 0x8020)
      [askFor (some "hdr") none, askFor (some "night") (some "hdr-mode-sensor")] :=
    ⟨by decide, by decide, trivial⟩
  refine (hdrFlags_iff (by decide) successful).mpr ⟨⟨?_, ?_⟩, ⟨?_, ?_⟩, trivial⟩
  · rintro ⟨-, -, str, isStr, -⟩
    cases isStr
  · rintro ⟨asks, -⟩
    cases asks
  · rintro ⟨-, none | hdr, -⟩
    · cases none
    · exact absurd hdr (by decide)
  · exact fun asks => asks.2 (by decide)

/-- With both features the HDR mode is changed while the scene mode is `hdr`. -/
theorem hdrFlags_stale : ¬ ∀ (mask : BitVec 32) (sequence : List SetParams),
    supportedHdrModes mask ≠ 0 →
    EachStep (setParams mask) (fun before call _ => Successful mask before call)
      (initDefaultParameters mask) sequence →
    EachStep (setParams mask) (Follows mask) (initDefaultParameters mask) sequence := by
  intro follows
  have holds := follows 0x8020
    [askFor (some "hdr") none, askFor (some "hdr") (some "hdr-mode-sensor")] (by decide)
    ⟨by decide, by decide, trivial⟩
  exact absurd (holds.2.1.1.scene.mp (.inl (by decide))) (by decide)

end AnglerHal.HdrMode
