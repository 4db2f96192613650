import AnglerHal.HalCommon
import AnglerHal.ParamMaps

namespace AnglerHal.CaptureFeatures

/-!
# Features that take several frames

What the counting functions of `QCameraParameters` read: the capabilities, the flags of
the features and the burst number.
-/

/-- A conversion to `uint8_t`. -/
def uint8 (number : Int) : Nat :=
  (number % 256).toNat

/-- The counts of `m_pCapability`. -/
structure Capability where
  ubifocusBurstCount : UInt8
  refocusBurstCount : UInt8
  refocusOutputCount : UInt8
  optiZoomBurstCount : UInt8
  optiZoomThreshold : UInt8
  chromaFlashBurstCount : UInt8
  stillmoreBurstCount : UInt8
  stillmoreMinBurstCount : UInt8
  stillmoreMaxBurstCount : UInt8
  /-- `hdr_bracketing_setting.num_frames`. -/
  hdrNumFrames : UInt32
  deriving DecidableEq

/-- The members of `QCameraParameters` that the counts depend on. -/
structure Features where
  capability : Capability
  m_nBurstNum : UInt8
  m_bAFBracketingOn : Bool
  m_bReFocusOn : Bool
  m_bOptiZoomOn : Bool
  mParmZoomLevel : Int
  m_bChromaFlashOn : Bool
  m_bStillMoreOn : Bool
  m_bSeeMoreOn : Bool
  /-- `m_stillmore_config.burst_count`. -/
  stillmoreConfig : UInt8
  m_bHDREnabled : Bool
  m_HDRSceneEnabled : Bool
  m_bHDR1xFrameEnabled : Bool
  m_bHDR1xExtraBufferNeeded : Bool
  deriving DecidableEq

/-- `isUbiFocusEnabled`. -/
def isUbiFocusEnabled (features : Features) : Bool :=
  features.m_bAFBracketingOn && !features.m_bReFocusOn

/-- `isUbiRefocus`. -/
def isUbiRefocus (features : Features) : Bool :=
  features.m_bReFocusOn && decide (features.capability.refocusOutputCount.toNat > 1)

/-- `isOptiZoomEnabled`. -/
def isOptiZoomEnabled (features : Features) : Bool :=
  features.m_bOptiZoomOn && decide (0 ≤ features.mParmZoomLevel) &&
    decide (features.mParmZoomLevel ≥ features.capability.optiZoomThreshold.toNat)

/-- `isHDREnabled`. -/
def isHdrEnabled (features : Features) : Bool :=
  features.m_nBurstNum == 1 && (features.m_bHDREnabled || features.m_HDRSceneEnabled)

/-- `isAdvCamFeaturesEnabled`. -/
def isAdvCamFeaturesEnabled (features : Features) : Bool :=
  isUbiFocusEnabled features || features.m_bChromaFlashOn || features.m_bOptiZoomOn ||
    isHdrEnabled features || features.m_bStillMoreOn

/-- The burst count of still more: one with see more, that of the configuration in its range. -/
def stillmoreCount (features : Features) : Nat :=
  if features.m_bSeeMoreOn then
    1
  else if features.stillmoreConfig ≥ features.capability.stillmoreMinBurstCount ∧
      features.stillmoreConfig ≤ features.capability.stillmoreMaxBurstCount then
    features.stillmoreConfig.toNat
  else
    features.capability.stillmoreBurstCount.toNat

theorem burstNum_of_isHdrEnabled {features : Features} (hdr : isHdrEnabled features = true) :
    features.m_nBurstNum = 1 := by
  simp only [isHdrEnabled, Bool.and_eq_true, beq_iff_eq] at hdr
  exact hdr.1

end AnglerHal.CaptureFeatures
