import AnglerHal.CaptureFeatures

namespace AnglerHal.CaptureCounts

open ParamMaps CaptureFeatures

/-!
# The counts of a capture

`setBurstNum` and `setNumOfSnapshot` store what six counting functions multiply.  The
burst number is an `int` for the driver and under its key, and a byte in
`m_nBurstNum`.
-/

/-- What `setBurstNum` leaves. -/
structure BurstNum where
  /-- `KEY_QC_SNAPSHOT_BURST_NUM`. -/
  key : Int
  m_nBurstNum : UInt8
  /-- `CAM_INTF_PARM_BURST_NUM`. -/
  driver : Nat
  deriving DecidableEq

/-- The burst number that `setBurstNum` arrives at; `prop` is the one of the system property. -/
def burstNum (features : Features) (requested prop : Int) : Int :=
  let nBurstNum := if isAdvCamFeaturesEnabled features then 1 else requested
  if nBurstNum ≤ 0 then
    if prop ≤ 0 then 1 else prop
  else
    nBurstNum

/-- `QCameraParameters::setBurstNum`. -/
def setBurstNum (features : Features) (requested prop : Int) : BurstNum :=
  let nBurstNum := burstNum features requested prop
  { key := nBurstNum
    m_nBurstNum := .ofNat (uint8 nBurstNum)
    driver := uint32 nBurstNum }

/-- `getBurstNum`. -/
def getBurstNum (features : Features) : Nat :=
  features.m_nBurstNum.toNat

/-- `getNumOfExtraHDRInBufsIfNeeded`. -/
def getNumOfExtraHdrInBufsIfNeeded (features : Features) : Nat :=
  let numOfBufs : Int :=
    if isHdrEnabled features then
      let frames : Int := features.capability.hdrNumFrames.toNat
      (if features.m_bHDR1xFrameEnabled ∧ features.m_bHDR1xExtraBufferNeeded then frames + 1
        else frames) - 1
    else
      0
  uint8 (uint32 numOfBufs * getBurstNum features)

/-- `getNumOfExtraHDROutBufsIfNeeded`. -/
def getNumOfExtraHdrOutBufsIfNeeded (features : Features) : Nat :=
  let numOfBufs : Int :=
    if isHdrEnabled features ∧ features.m_bHDR1xFrameEnabled then 1 else 0
  uint8 (numOfBufs * getBurstNum features)

/-- `getNumOfExtraBuffersForImageProc`. -/
def getNumOfExtraBuffersForImageProc (features : Features) : Nat :=
  let capability := features.capability
  if isUbiRefocus features then
    uint8 (capability.refocusBurstCount.toNat - 1)
  else
    let numOfBufs : Int :=
      if isUbiFocusEnabled features then
        capability.ubifocusBurstCount.toNat - 1
      else if features.m_bOptiZoomOn then
        capability.optiZoomBurstCount.toNat - 1
      else if features.m_bChromaFlashOn then
        capability.chromaFlashBurstCount.toNat - 1
      else if features.m_bStillMoreOn then
        if features.m_bSeeMoreOn then 0 else stillmoreCount features - 1
      else
        0
    uint8 (numOfBufs * getBurstNum features)

/-- `getNumberInBufsForSingleShot`. -/
def getNumberInBufsForSingleShot (features : Features) : Nat :=
  let capability := features.capability
  if isUbiRefocus features then
    capability.refocusBurstCount.toNat
  else if isUbiFocusEnabled features then
    capability.ubifocusBurstCount.toNat
  else if features.m_bOptiZoomOn then
    capability.optiZoomBurstCount.toNat
  else if features.m_bChromaFlashOn then
    capability.chromaFlashBurstCount.toNat
  else if isHdrEnabled features then
    let frames := capability.hdrNumFrames.toNat
    if features.m_bHDR1xFrameEnabled ∧ features.m_bHDR1xExtraBufferNeeded then
      uint32 (frames + 1)
    else
      frames
  else if features.m_bStillMoreOn then
    stillmoreCount features
  else
    1

/-- `getNumberOutBufsForSingleShot`. -/
def getNumberOutBufsForSingleShot (features : Features) : Nat :=
  if isUbiRefocus features then
    features.capability.refocusOutputCount.toNat
  else if isHdrEnabled features ∧ features.m_bHDR1xFrameEnabled then
    2
  else
    1

/-- `nBurstNum` of `setNumOfSnapshot`. -/
def snapshotBurstNum (features : Features) : Nat :=
  if isUbiRefocus features then
    features.capability.refocusOutputCount.toNat + 1
  else
    getBurstNum features

/-- `nExpnum` of `setNumOfSnapshot`, where `exposures` is the number of exposures of a list. -/
def snapshotExpnum (features : Features) (bracketStr : Option String) (exposures : Nat) : Nat :=
  match bracketStr.filter (· ≠ "") with
  | none => 0
  | some str =>
    if lookupAttr bracketingModesMap str = some 1 then
      if exposures = 0 then 1 else exposures
    else
      1 + getNumOfExtraHdrOutBufsIfNeeded features

/-- `setNumOfSnapshot`: what it stores under `KEY_QC_NUM_SNAPSHOT_PER_SHUTTER`. -/
def setNumOfSnapshot (features : Features) (bracketStr : Option String) (exposures : Nat) : Int :=
  snapshotBurstNum features * snapshotExpnum features bracketStr exposures

/-- `getNumOfSnapshots`, of what is stored. -/
def getNumOfSnapshots (numSnapshotPerShutter : Int) : Nat :=
  if 0 < numSnapshotPerShutter then uint8 numSnapshotPerShutter else 1

/-! ## What is to hold -/

/-- An update and its commit, after which the features may be others. -/
structure Update where
  before : Features
  requested : Int
  prop : Int
  after : Features
  /-- The committed value of `KEY_QC_AE_BRACKET_HDR`. -/
  bracketStr : Option String
  exposures : Nat

/-- What `setBurstNum` leaves in the update. -/
def Update.burst (update : Update) : BurstNum :=
  setBurstNum update.before update.requested update.prop

/-- The members after the commit. -/
def Update.features (update : Update) : Features :=
  { update.after with m_nBurstNum := update.burst.m_nBurstNum }

/-- The number of snapshots after the commit. -/
def Update.numOfSnapshots (update : Update) : Nat :=
  getNumOfSnapshots (setNumOfSnapshot update.features update.bracketStr update.exposures)

/-- AE bracketing is off. -/
def Update.AeBracketOff (update : Update) : Prop :=
  lookupAttr bracketingModesMap update.bracketStr ≠ some 1

/-- The counts agree, as integers. -/
structure CountsAgree (update : Update) : Prop where
  key : update.burst.key = getBurstNum update.features
  driver : update.burst.driver = getBurstNum update.features
  snapshots : isUbiRefocus update.features = false →
    update.numOfSnapshots =
      getBurstNum update.features * getNumberOutBufsForSingleShot update.features
  extra : (getNumOfExtraHdrInBufsIfNeeded update.features +
      getNumOfExtraBuffersForImageProc update.features : Int) =
    getBurstNum update.features * (getNumberInBufsForSingleShot update.features - 1 : Int)

/-! ## When it holds -/

/-- The frames beside the first that a feature for image processing takes. -/
def imageProcFrames (features : Features) : Int :=
  let capability := features.capability
  if isUbiRefocus features then capability.refocusBurstCount.toNat - 1
  else if isUbiFocusEnabled features then capability.ubifocusBurstCount.toNat - 1
  else if features.m_bOptiZoomOn then capability.optiZoomBurstCount.toNat - 1
  else if features.m_bChromaFlashOn then capability.chromaFlashBurstCount.toNat - 1
  else if features.m_bStillMoreOn then stillmoreCount features - 1
  else 0

/-- The frames beside the first that HDR takes. -/
def hdrFrames (features : Features) : Int :=
  if isHdrEnabled features then
    features.capability.hdrNumFrames.toNat +
      (if features.m_bHDR1xFrameEnabled ∧ features.m_bHDR1xExtraBufferNeeded then 1 else 0) - 1
  else
    0

/-- The features that `getNumberInBufsForSingleShot` prefers to HDR. -/
def precedesHdr (features : Features) : Bool :=
  isUbiRefocus features || isUbiFocusEnabled features || features.m_bOptiZoomOn ||
    features.m_bChromaFlashOn

/-- The frames beside the first of the feature that a single shot is counted for. -/
def countedFrames (features : Features) : Int :=
  if isHdrEnabled features ∧ precedesHdr features = false then hdrFrames features
  else imageProcFrames features

/-- The frames beside the first of a feature that is on as well. -/
def otherFrames (features : Features) : Int :=
  if isHdrEnabled features ∧ precedesHdr features = false then imageProcFrames features
  else hdrFrames features

/-- The extra frames are those of one feature and fit into a byte with the burst number. -/
structure FramesFit (features : Features) : Prop where
  counted : 0 ≤ countedFrames features
  product : countedFrames features * getBurstNum features < 256
  other : otherFrames features % 256 = 0
  refocus : isUbiRefocus features = true →
    getBurstNum features = 1 ∨ imageProcFrames features = 0

/-- A burst number that a byte holds, a mode that is named, and frames that fit. -/
structure CountsFit (update : Update) : Prop where
  burst : burstNum update.before update.requested update.prop < 256
  bracket : isUbiRefocus update.features = true ∨ update.bracketStr.filter (· ≠ "") ≠ none ∨
    getBurstNum update.features * getNumberOutBufsForSingleShot update.features = 1
  frames : FramesFit update.features

section Frames

variable {features : Features}

theorem uint8_uint32_mul (number : Int) (count : Nat) :
    uint8 (uint32 number * count) = uint8 (number * count) := by
  unfold uint8 uint32
  rw [Int.toNat_of_nonneg (Int.emod_nonneg _ (by decide)), Int.mul_emod,
    Int.emod_emod_of_dvd number (by decide : (256 : Int) ∣ 4294967296), ← Int.mul_emod]

theorem stillmoreCount_lt (features : Features) : stillmoreCount features < 256 := by
  have config := features.stillmoreConfig.toNat_lt
  have default := features.capability.stillmoreBurstCount.toNat_lt
  unfold stillmoreCount
  split
  · decide
  · split <;> omega

theorem imageProcFrames_range (features : Features) :
    -1 ≤ imageProcFrames features ∧ imageProcFrames features < 255 := by
  have refocus := features.capability.refocusBurstCount.toNat_lt
  have ubifocus := features.capability.ubifocusBurstCount.toNat_lt
  have optiZoom := features.capability.optiZoomBurstCount.toNat_lt
  have chromaFlash := features.capability.chromaFlashBurstCount.toNat_lt
  have stillmore := stillmoreCount_lt features
  unfold imageProcFrames
  dsimp only
  split_ifs <;> omega

theorem hdrFrames_range (features : Features) :
    -1 ≤ hdrFrames features ∧ hdrFrames features < 4294967296 := by
  have frames := features.capability.hdrNumFrames.toNat_lt
  unfold hdrFrames
  split_ifs <;> omega

theorem extraHdrIn_eq (features : Features) :
    getNumOfExtraHdrInBufsIfNeeded features =
      uint8 (hdrFrames features * getBurstNum features) := by
  rw [← uint8_uint32_mul]
  unfold getNumOfExtraHdrInBufsIfNeeded hdrFrames
  split_ifs <;> simp

theorem extraImageProc_eq (features : Features) :
    getNumOfExtraBuffersForImageProc features =
      if isUbiRefocus features then uint8 (imageProcFrames features)
      else uint8 (imageProcFrames features * getBurstNum features) := by
  have one (isOn : features.m_bSeeMoreOn = true) : stillmoreCount features = 1 := if_pos isOn
  unfold getNumOfExtraBuffersForImageProc imageProcFrames
  dsimp only
  split_ifs with refocus ubifocus optiZoom chromaFlash stillmore seeMore
  · rfl
  · rfl
  · rfl
  · rfl
  · rw [one seeMore]
    rfl
  · rfl
  · rfl

/-- A single shot counts one frame more than `countedFrames`. -/
theorem numberIn_eq (features : Features) :
    getNumberInBufsForSingleShot features = uint32 (countedFrames features + 1) := by
  have refocusLt := features.capability.refocusBurstCount.toNat_lt
  have ubifocusLt := features.capability.ubifocusBurstCount.toNat_lt
  have optiZoomLt := features.capability.optiZoomBurstCount.toNat_lt
  have chromaFlashLt := features.capability.chromaFlashBurstCount.toNat_lt
  have stillmoreLt := stillmoreCount_lt features
  have framesLt := features.capability.hdrNumFrames.toNat_lt
  unfold getNumberInBufsForSingleShot countedFrames precedesHdr imageProcFrames hdrFrames uint32
  dsimp only
  cases refocus : isUbiRefocus features
  case true =>
    simp only [Bool.true_or, Bool.true_eq_false, and_false, if_true, if_false]
    omega
  cases ubifocus : isUbiFocusEnabled features
  case true =>
    simp only [Bool.true_or, Bool.or_true, Bool.true_eq_false, Bool.false_eq_true, and_false,
      if_true, if_false]
    omega
  cases optiZoom : features.m_bOptiZoomOn
  case true =>
    simp only [Bool.true_or, Bool.or_true, Bool.true_eq_false, Bool.false_eq_true, and_false,
      if_true, if_false]
    omega
  cases chromaFlash : features.m_bChromaFlashOn
  case true =>
    simp only [Bool.or_true, Bool.true_eq_false, Bool.false_eq_true, and_false, if_true, if_false]
    omega
  cases hdr : isHdrEnabled features
  case true =>
    simp only [Bool.or_self, Bool.false_eq_true, and_self, if_true, if_false]
    split_ifs <;> omega
  simp only [Bool.or_self, Bool.false_eq_true, false_and, if_false]
  split_ifs <;> omega

end Frames

section Extra

variable {features : Features}

theorem hdrFrames_of_not (notHdr : isHdrEnabled features = false) : hdrFrames features = 0 := by
  simp [hdrFrames, notHdr]

theorem getBurstNum_of_hdr (hdr : isHdrEnabled features = true) : getBurstNum features = 1 := by
  rw [getBurstNum, burstNum_of_isHdrEnabled hdr]
  rfl

/-- One feature for image processing, without HDR. -/
theorem image_iff {image : Int} {count : Nat} {refocus : Bool} (lower : -1 ≤ image)
    (upper : image < 255) (positive : 1 ≤ count) :
    (uint8 (0 * count) + (if refocus then uint8 image else uint8 (image * count) : Nat) : Int) =
        count * ((uint32 (image + 1) : Int) - 1) ↔
      0 ≤ image ∧ image * count < 256 ∧ (0 : Int) % 256 = 0 ∧
        (refocus = true → count = 1 ∨ image = 0) := by
  have shot : (uint32 (image + 1) : Int) - 1 = image := by
    unfold uint32
    omega
  rw [shot, Int.mul_comm (count : Int) image, Int.zero_mul]
  by_cases nonneg : 0 ≤ image
  · have product : 0 ≤ image * count := Int.mul_nonneg nonneg (Int.natCast_nonneg count)
    cases refocus with
    | true =>
      have same : image = image * count ↔ count = 1 ∨ image = 0 := by
        constructor
        · intro equal
          by_contra neither
          have many : 2 ≤ count := by omega
          have less : image * 2 ≤ image * count :=
            Int.mul_le_mul_of_nonneg_left (by omega) nonneg
          rw [← equal] at less
          omega
        · rintro (one | zero)
          · simp [one]
          · simp [zero]
      have left : (uint8 0 + (if true = true then uint8 image else uint8 (image * count) : Nat) :
          Int) = image := by
        unfold uint8
        rw [if_pos rfl]
        omega
      rw [left, same]
      constructor
      · intro single
        have small : image * count = image := (same.mpr single).symm
        exact ⟨nonneg, by omega, rfl, fun _ => single⟩
      · exact fun fit => fit.2.2.2 rfl
    | false =>
      generalize image * count = frames at product ⊢
      unfold uint8
      simp only [Bool.false_eq_true, if_false, false_imp_iff, and_true]
      omega
  · have negative : image * count = -count := by
      rw [show image = -1 by omega]
      omega
    rw [negative]
    refine iff_of_false ?_ fun fit => nonneg fit.1
    unfold uint8
    split_ifs <;> omega

/-- The extra buffers are those of the burst exactly when the frames fit. -/
theorem extra_iff (positive : 1 ≤ getBurstNum features) :
    (getNumOfExtraHdrInBufsIfNeeded features + getNumOfExtraBuffersForImageProc features : Int) =
        getBurstNum features * (getNumberInBufsForSingleShot features - 1 : Int) ↔
      FramesFit features := by
  rw [extraHdrIn_eq, extraImageProc_eq, numberIn_eq]
  obtain ⟨imageLower, imageUpper⟩ := imageProcFrames_range features
  obtain ⟨hdrLower, hdrUpper⟩ := hdrFrames_range features
  have fits : FramesFit features ↔ 0 ≤ countedFrames features ∧
      countedFrames features * getBurstNum features < 256 ∧ otherFrames features % 256 = 0 ∧
      (isUbiRefocus features = true → getBurstNum features = 1 ∨ imageProcFrames features = 0) :=
    ⟨fun fit => ⟨fit.counted, fit.product, fit.other, fit.refocus⟩,
      fun fit => ⟨fit.1, fit.2.1, fit.2.2.1, fit.2.2.2⟩⟩
  rw [fits]
  cases hdr : isHdrEnabled features
  case true =>
    -- with HDR the burst number is one
    have single := getBurstNum_of_hdr hdr
    cases precedes : precedesHdr features
    case true =>
      have counted : countedFrames features = imageProcFrames features := by
        simp [countedFrames, precedes]
      have other : otherFrames features = hdrFrames features := by simp [otherFrames, precedes]
      rw [counted, other, single]
      generalize imageProcFrames features = image at *
      generalize hdrFrames features = frames at *
      unfold uint8 uint32
      split_ifs <;> omega
    case false =>
      have notRefocus : isUbiRefocus features = false := by
        simp only [precedesHdr, Bool.or_eq_false_iff] at precedes
        exact precedes.1.1.1
      have counted : countedFrames features = hdrFrames features := by
        simp [countedFrames, precedes, hdr]
      have other : otherFrames features = imageProcFrames features := by
        simp [otherFrames, precedes, hdr]
      rw [counted, other, single, notRefocus]
      generalize imageProcFrames features = image at *
      generalize hdrFrames features = frames at *
      unfold uint8 uint32
      simp only [Bool.false_eq_true, if_false]
      omega
  case false =>
    have counted : countedFrames features = imageProcFrames features := by
      simp [countedFrames, hdr]
    have other : otherFrames features = 0 := by
      simp [otherFrames, hdr, hdrFrames_of_not]
    rw [counted, other, hdrFrames_of_not hdr]
    exact image_iff imageLower imageUpper positive

end Extra

section Update

variable {update : Update}

theorem burstNum_pos (features : Features) (requested prop : Int) :
    1 ≤ burstNum features requested prop := by
  unfold burstNum
  dsimp only
  split_ifs <;> omega

theorem getBurstNum_update (update : Update) : (getBurstNum update.features : Int) =
    burstNum update.before update.requested update.prop % 256 := by
  have nonneg := burstNum_pos update.before update.requested update.prop
  simp only [getBurstNum, Update.features, Update.burst, setBurstNum, uint8, UInt8.toNat_ofNat']
  omega

/-- The extra output frame of HDR is for a burst number of one. -/
theorem extraHdrOut_eq (features : Features) : getNumOfExtraHdrOutBufsIfNeeded features =
    if isHdrEnabled features ∧ features.m_bHDR1xFrameEnabled then 1 else 0 := by
  unfold getNumOfExtraHdrOutBufsIfNeeded
  dsimp only
  split_ifs with out
  · rw [getBurstNum_of_hdr out.1]
    rfl
  · simp [uint8]

/-- The number of snapshots where the mode is named. -/
theorem numOfSnapshots_named (off : update.AeBracketOff) {str : String}
    (named : update.bracketStr.filter (· ≠ "") = some str)
    (notRefocus : isUbiRefocus update.features = false)
    (positive : 1 ≤ getBurstNum update.features) :
    update.numOfSnapshots =
      getBurstNum update.features * getNumberOutBufsForSingleShot update.features := by
  have isStr : update.bracketStr = some str := (Option.filter_eq_some_iff.mp named).1
  have notOn : lookupAttr bracketingModesMap str ≠ some 1 := isStr ▸ off
  have byte : getBurstNum update.features < 256 := update.features.m_nBurstNum.toNat_lt
  simp only [Update.numOfSnapshots, setNumOfSnapshot, snapshotBurstNum, snapshotExpnum, named,
    notOn, notRefocus, if_false, Bool.false_eq_true, extraHdrOut_eq, getNumberOutBufsForSingleShot,
    getNumOfSnapshots]
  split_ifs with out positive' notPositive
  · rw [getBurstNum_of_hdr out.1]
    rfl
  · rw [getBurstNum_of_hdr out.1] at positive'
    omega
  · unfold uint8
    omega
  · omega

/-- The number of snapshots where it is not. -/
theorem numOfSnapshots_unnamed (unnamed : update.bracketStr.filter (· ≠ "") = none) :
    update.numOfSnapshots = 1 := by
  simp only [Update.numOfSnapshots, setNumOfSnapshot, snapshotExpnum, unnamed, getNumOfSnapshots]
  simp

/--
The counts agree after an update exactly when a byte holds the burst number, the mode of AE
bracketing is named, and the extra frames fit.
-/
theorem countsAgree_iff (off : update.AeBracketOff) : CountsAgree update ↔ CountsFit update := by
  have burst := getBurstNum_update update
  have least := burstNum_pos update.before update.requested update.prop
  constructor
  · rintro ⟨key, driver, snapshots, extra⟩
    have fits : burstNum update.before update.requested update.prop =
      getBurstNum update.features := key
    refine ⟨by omega, ?_, (extra_iff (by omega)).mp extra⟩
    cases refocus : isUbiRefocus update.features with
    | true => exact .inl rfl
    | false =>
      refine .inr (or_iff_not_imp_left.mpr fun unnamed => ?_)
      rw [← snapshots refocus, numOfSnapshots_unnamed (not_not.mp unnamed)]
  · rintro ⟨fits, bracket, frames⟩
    have positive : 1 ≤ getBurstNum update.features := by omega
    refine ⟨?_, ?_, fun notRefocus => ?_, (extra_iff positive).mpr frames⟩
    · show burstNum update.before update.requested update.prop = getBurstNum update.features
      omega
    · show uint32 (burstNum update.before update.requested update.prop) =
        getBurstNum update.features
      unfold uint32
      omega
    · cases named : update.bracketStr.filter (· ≠ "") with
      | some str => exact numOfSnapshots_named off named notRefocus positive
      | none =>
        rw [numOfSnapshots_unnamed named]
        refine ((bracket.resolve_left ?_).resolve_left ?_).symm
        · rw [notRefocus]
          exact Bool.false_ne_true
        · exact not_not.mpr named

end Update

/-- No feature is on, and the capabilities are empty. -/
def plainFeatures : Features where
  capability := ⟨0, 0, 0, 0, 0, 0, 0, 0, 0, 0⟩
  m_nBurstNum := 1
  m_bAFBracketingOn := false
  m_bReFocusOn := false
  m_bOptiZoomOn := false
  mParmZoomLevel := 0
  m_bChromaFlashOn := false
  m_bStillMoreOn := false
  m_bSeeMoreOn := false
  stillmoreConfig := 0
  m_bHDREnabled := false
  m_HDRSceneEnabled := false
  m_bHDR1xFrameEnabled := true
  m_bHDR1xExtraBufferNeeded := true

/-- An update that requests a burst number and nothing else. -/
def requestBurst (requested : Int) : Update where
  before := plainFeatures
  requested := requested
  prop := 0
  after := plainFeatures
  bracketStr := some "Off"
  exposures := 0

/-- HDR of three frames, with one more for the frame at normal exposure. -/
def hdrFeatures : Features :=
  { plainFeatures with
    capability := { plainFeatures.capability with hdrNumFrames := 3 }
    m_bHDREnabled := true }

/-- The counts agree for a burst that is requested while HDR is on. -/
theorem countsAgree_hdr :
    CountsAgree { requestBurst 7 with before := hdrFeatures, after := hdrFeatures } := by
  refine (countsAgree_iff (by unfold Update.AeBracketOff; decide)).mpr
    ⟨by decide, .inr (.inl (by decide)), by decide, by decide, by decide, fun refocus => ?_⟩
  cases refocus

/-- A burst number of 256 is zero in `m_nBurstNum`. -/
theorem countsAgree_wrapped : ¬ ∀ update : Update, update.AeBracketOff → CountsAgree update := by
  intro agree
  have counts := agree (requestBurst 256) (by unfold Update.AeBracketOff; decide)
  exact absurd counts.key (by decide)

end AnglerHal.CaptureCounts
