import AnglerHal.ParamMaps
import AnglerHal.StepTrace
import Mathlib.Algebra.Order.Ring.Int

namespace AnglerHal.BatchCount

open ParamMaps StepTrace

/-!
# The batch count of a frame-rate mode

`UpdateHFRFrameRate` refreshes the mode, its flag and its frame rates with every
call, and the batch count only for a mode above 120 fps.  The rates are floats that
hold integers, and their quotient is that of integers.
-/

/-- `CAM_HFR_MODE_OFF`. -/
def camHfrModeOff : Int :=
  0

/-- `CAM_HFR_MODE_120FPS`. -/
def camHfrMode120Fps : Int :=
  3

/-- `CAM_HFR_MODE_MAX`. -/
def camHfrModeMax : Int :=
  9

/-- `CAMERA_MIN_BATCH_COUNT`. -/
def cameraMinBatchCount : Int :=
  1

/-- The frame rate that `UpdateHFRFrameRate` takes for a mode. -/
def modeFps (mode : Int) : Int :=
  if mode = 1 then 60000
  else if mode = 2 then 90000
  else if mode = 3 then 120000
  else if mode = 4 then 150000
  else if mode = 5 then 180000
  else if mode = 6 then 210000
  else if mode = 7 then 240000
  else if mode = 8 then 480000
  else 0

/-- The requested parameters and the strings that are committed. -/
structure FpsParams where
  hfrStr : Option String
  hsrStr : Option String
  prevHfrStr : Option String
  prevHsrStr : Option String
  parmMinFps : Int
  parmMaxFps : Int
  deriving DecidableEq

/-- `cam_fps_range_t`. -/
structure FpsRange where
  minFps : Int := 0
  maxFps : Int := 0
  videoMinFps : Int := 0
  videoMaxFps : Int := 0
  deriving DecidableEq

/-- The members of `QCameraParameters` that the mode is kept in. -/
structure HfrState where
  mHfrMode : Int
  m_hfrFpsRange : FpsRange
  m_bHfrMode : Bool
  mBufBatchCnt : Int8
  deriving DecidableEq

/-- What the count depends on beside the state: a capability and a system property. -/
structure BatchEnv where
  maxBatchBufsSupported : UInt8
  batchcount : Int8
  deriving DecidableEq

/-- The members as the constructor leaves them. -/
def HfrState.new : HfrState where
  mHfrMode := camHfrModeOff
  m_hfrFpsRange := {}
  m_bHfrMode := false
  mBufBatchCnt := 0

/-- The loop of `setBufBatchCount`; a byte is halved seven times at most. -/
def halveCount (maxSupported : Int) : Nat → Int → Int
  | 0, count => count
  | turns + 1, count =>
    if maxSupported ≠ 0 ∧ maxSupported < count then
      halveCount maxSupported turns (count.tdiv 2)
    else
      count

/-- `QCameraParameters::setBufBatchCount`: the count that it leaves. -/
def setBufBatchCount (env : BatchEnv) (bufCnt : Int8) : Int8 :=
  if ¬ (env.batchcount ≠ 0 ∨ bufCnt.toInt > cameraMinBatchCount) then
    0
  else
    let halved := halveCount env.maxBatchBufsSupported.toNat 7 bufCnt.toInt
    if env.batchcount > 0 then
      env.batchcount
    else if halved > cameraMinBatchCount then
      .ofInt halved
    else
      0

/-- The entry of a string that is to be committed: it is there, and differs from the former one. -/
def changedEntry (key : String) (str prevStr : Option String) : List (String × String) :=
  match str, prevStr with
  | some str, some prevStr => if str ≠ prevStr then [(key, str)] else []
  | _, _ => []

/-- The mode that a call requests. -/
def FpsParams.mode (params : FpsParams) : Int :=
  match params.hfrStr.filter (· ≠ "off") with
  | some hfrStr => (lookupAttr hfrModesMap hfrStr).getD camHfrModeOff
  | none =>
    match params.hsrStr.filter (· ≠ "off") with
    | some hsrStr => (lookupAttr hfrModesMap hsrStr).getD camHfrModeOff
    | none => camHfrModeOff

/-- `QCameraParameters::UpdateHFRFrameRate`: what it returns, the entries, and the members. -/
def updateHfrFrameRate (env : BatchEnv) (state : HfrState) (params : FpsParams) :
    Bool × List (String × String) × HfrState :=
  let newHfrMode := params.mode
  let updateNeeded := decide (state.mHfrMode ≠ newHfrMode)
  let range : FpsRange := { state.m_hfrFpsRange with
    videoMinFps := if updateNeeded then modeFps newHfrMode else state.m_hfrFpsRange.videoMinFps
    videoMaxFps := if updateNeeded then modeFps newHfrMode else state.m_hfrFpsRange.videoMaxFps
    minFps := params.parmMinFps
    maxFps := params.parmMaxFps }
  let isOn := decide (newHfrMode > camHfrModeOff ∧ newHfrMode < camHfrModeMax)
  let range := if isOn then range else { range with videoMinFps := 0, videoMaxFps := 0 }
  (updateNeeded,
    changedEntry "video-hfr" params.hfrStr params.prevHfrStr ++
      changedEntry "video-hsr" params.hsrStr params.prevHsrStr,
    { mHfrMode := newHfrMode
      m_hfrFpsRange := range
      m_bHfrMode := isOn
      mBufBatchCnt :=
        if isOn ∧ newHfrMode > camHfrMode120Fps ∧ params.parmMaxFps ≠ 0 then
          setBufBatchCount env (.ofInt (range.videoMaxFps.tdiv params.parmMaxFps))
        else
          state.mBufBatchCnt })

/-! ## The count follows the mode -/

/-- The flag and the rates are those of the requested mode, and the count is one for it. -/
structure FollowsMode (env : BatchEnv) (params : FpsParams) (after : HfrState) : Prop where
  flag : after.m_bHfrMode = decide (params.mode ≠ camHfrModeOff)
  videoMinFps : after.m_hfrFpsRange.videoMinFps = modeFps params.mode
  videoMaxFps : after.m_hfrFpsRange.videoMaxFps = modeFps params.mode
  mode : after.mBufBatchCnt ≠ 0 → params.mode > camHfrMode120Fps
  aboveMin : after.mBufBatchCnt ≠ 0 → after.mBufBatchCnt.toInt > cameraMinBatchCount
  quotient : after.mBufBatchCnt ≠ 0 → params.parmMaxFps ≠ 0 →
    after.mBufBatchCnt.toInt ≤ (modeFps params.mode).tdiv params.parmMaxFps
  supported : after.mBufBatchCnt ≠ 0 → env.maxBatchBufsSupported ≠ 0 →
    after.mBufBatchCnt.toInt ≤ env.maxBatchBufsSupported.toNat

/-- A call for at most 120 fps finds no count, and one above has no negative frame rate. -/
def Fresh (state : HfrState) (params : FpsParams) : Prop :=
  if params.mode > camHfrMode120Fps then 0 ≤ params.parmMaxFps else state.mBufBatchCnt = 0

/-- What holds after every call: the rates are those of the mode, and a count is a legal one. -/
structure Consistent (env : BatchEnv) (state : HfrState) : Prop where
  videoMinFps : state.m_hfrFpsRange.videoMinFps = modeFps state.mHfrMode
  videoMaxFps : state.m_hfrFpsRange.videoMaxFps = modeFps state.mHfrMode
  aboveMin : state.mBufBatchCnt ≠ 0 → state.mBufBatchCnt.toInt > cameraMinBatchCount
  supported : state.mBufBatchCnt ≠ 0 → env.maxBatchBufsSupported ≠ 0 →
    state.mBufBatchCnt.toInt ≤ env.maxBatchBufsSupported.toNat

section Count

variable {env : BatchEnv} {state : HfrState} {params : FpsParams} {maxSupported : Int}

/-- Halving ends at a count that is supported, when there are turns enough. -/
theorem halveCount_spec (positive : 0 ≤ maxSupported) (turns : Nat) (count : Int)
    (enough : count < 2 ^ turns) :
    halveCount maxSupported turns count ≤ max count 0 ∧
      (maxSupported ≠ 0 → halveCount maxSupported turns count ≤ maxSupported) := by
  induction turns generalizing count with
  | zero =>
    rw [halveCount]
    simp only [Int.pow_zero] at enough
    omega
  | succ turns inductionHypothesis =>
    rw [halveCount]
    split
    next greater =>
      have half : count.tdiv 2 = count / 2 := Int.tdiv_eq_ediv_of_nonneg (by omega)
      have shorter : count.tdiv 2 < 2 ^ turns := by
        rw [Int.pow_succ] at enough
        omega
      obtain ⟨least, supported⟩ := inductionHypothesis _ shorter
      exact ⟨by omega, supported⟩
    next => omega

/-- The count that is set without a system property. -/
theorem setBufBatchCount_spec (noProperty : env.batchcount = 0) (bufCnt : Int8)
    (isSet : setBufBatchCount env bufCnt ≠ 0) :
    (setBufBatchCount env bufCnt).toInt > cameraMinBatchCount ∧
      (setBufBatchCount env bufCnt).toInt ≤ bufCnt.toInt ∧
      (env.maxBatchBufsSupported ≠ 0 →
        (setBufBatchCount env bufCnt).toInt ≤ env.maxBatchBufsSupported.toNat) := by
  have upper := bufCnt.toInt_lt
  obtain ⟨least, supported⟩ := halveCount_spec
    (Int.natCast_nonneg env.maxBatchBufsSupported.toNat) 7 bufCnt.toInt (by omega)
  have notMore : ¬ (0 : Int8) > 0 := by decide
  simp only [setBufBatchCount, noProperty, ne_eq, not_true_eq_false, false_or, notMore,
    if_false] at isSet ⊢
  generalize halveCount env.maxBatchBufsSupported.toNat 7 bufCnt.toInt = halved at *
  split at isSet
  next => exact absurd rfl isSet
  next isGreater =>
    rw [if_neg isGreater] at *
    split at isSet
    next above =>
      rw [if_pos above]
      unfold cameraMinBatchCount at above isGreater
      have isHalved : (Int8.ofInt halved).toInt = halved :=
        Int8.toInt_ofInt_of_le (by omega) (by omega)
      rw [isHalved]
      refine ⟨above, by omega, fun some => supported ?_⟩
      simpa [← UInt8.toNat_inj] using some
    next => exact absurd rfl isSet

/-- A quotient that is not negative does not grow when it is narrowed. -/
theorem toInt_narrowed_le {quotient : Int} (nonneg : 0 ≤ quotient) :
    (Int8.ofInt quotient).toInt ≤ quotient := by
  have size : Int8.size = 256 := rfl
  rw [Int8.toInt_ofInt, Int.bmod_def, size]
  split <;> omega

end Count

section Mode

variable {env : BatchEnv} {state : HfrState} {params : FpsParams}

theorem lookup_range {name : String} :
    0 ≤ (lookupAttr hfrModesMap name).getD camHfrModeOff ∧
      (lookupAttr hfrModesMap name).getD camHfrModeOff < camHfrModeMax := by
  have all : ∀ entry ∈ hfrModesMap, 0 ≤ entry.2 ∧ entry.2 < camHfrModeMax := by decide
  simp only [lookupAttr, Option.bind_some]
  cases found : hfrModesMap.find? fun entry => entry.1 = name with
  | none => decide
  | some entry => exact all entry (List.mem_of_find?_eq_some found)

theorem mode_range (params : FpsParams) : 0 ≤ params.mode ∧ params.mode < camHfrModeMax := by
  unfold FpsParams.mode
  split
  · exact lookup_range
  · split
    · exact lookup_range
    · decide

theorem modeFps_nonneg (mode : Int) : 0 ≤ modeFps mode := by
  unfold modeFps
  repeat (first | split | decide)

theorem isOn_iff (params : FpsParams) :
    (params.mode > camHfrModeOff ∧ params.mode < camHfrModeMax) ↔ params.mode ≠ camHfrModeOff := by
  obtain ⟨nonneg, below⟩ := mode_range params
  unfold camHfrModeOff
  omega

/-- The members but for the count, after a call. -/
theorem updateHfrFrameRate_members (params : FpsParams) (consistent : Consistent env state) :
    (updateHfrFrameRate env state params).2.2.mHfrMode = params.mode ∧
      (updateHfrFrameRate env state params).2.2.m_bHfrMode = decide (params.mode ≠ camHfrModeOff) ∧
      (updateHfrFrameRate env state params).2.2.m_hfrFpsRange.videoMinFps = modeFps params.mode ∧
      (updateHfrFrameRate env state params).2.2.m_hfrFpsRange.videoMaxFps =
        modeFps params.mode := by
  have rates : ∀ rate, rate = modeFps state.mHfrMode →
      (if state.mHfrMode ≠ params.mode then modeFps params.mode else rate) =
        modeFps params.mode := by
    intro rate same
    split
    next => rfl
    next equal => rw [same, not_not.mp equal]
  have minRate := rates _ consistent.videoMinFps
  have maxRate := rates _ consistent.videoMaxFps
  simp only [updateHfrFrameRate, decide_eq_true_eq, isOn_iff]
  by_cases isOff : params.mode = camHfrModeOff
  · simp only [isOff, ne_eq, not_true_eq_false, if_false, true_and]
    exact ⟨rfl, rfl⟩
  · simp only [ne_eq, isOff, not_false_eq_true, if_true, true_and]
    exact ⟨minRate, maxRate⟩

/-- The count that a call leaves. -/
theorem updateHfrFrameRate_count (params : FpsParams) (consistent : Consistent env state) :
    (updateHfrFrameRate env state params).2.2.mBufBatchCnt =
      if params.mode > camHfrMode120Fps ∧ params.parmMaxFps ≠ 0 then
        setBufBatchCount env (.ofInt ((modeFps params.mode).tdiv params.parmMaxFps))
      else
        state.mBufBatchCnt := by
  obtain ⟨-, -, -, maxRate⟩ := updateHfrFrameRate_members params consistent
  by_cases above : params.mode > camHfrMode120Fps
  · have isOn : params.mode ≠ camHfrModeOff := by
      unfold camHfrMode120Fps at above
      unfold camHfrModeOff
      omega
    rw [← maxRate]
    simp only [updateHfrFrameRate, decide_eq_true_eq, isOn_iff, isOn, ne_eq, not_false_eq_true,
      true_and]
  · simp only [updateHfrFrameRate, above, false_and, and_false, if_false]

/-- One call: the members stay consistent, and they follow its mode when it is fresh. -/
theorem updateHfrFrameRate_step (noProperty : env.batchcount = 0)
    (consistent : Consistent env state) (fresh : Fresh state params) :
    Consistent env (updateHfrFrameRate env state params).2.2 ∧
      FollowsMode env params (updateHfrFrameRate env state params).2.2 := by
  obtain ⟨mode, flag, minRate, maxRate⟩ := updateHfrFrameRate_members params consistent
  have count := updateHfrFrameRate_count params consistent
  generalize (updateHfrFrameRate env state params).2.2 = after at *
  unfold Fresh at fresh
  by_cases above : params.mode > camHfrMode120Fps
  · rw [if_pos above] at fresh
    by_cases zero : params.parmMaxFps = 0
    · rw [if_neg (by simp [zero])] at count
      have aboveMin := consistent.aboveMin
      have supported := consistent.supported
      rw [← count] at aboveMin supported
      exact ⟨⟨by rw [minRate, mode], by rw [maxRate, mode], aboveMin, supported⟩,
        ⟨flag, minRate, maxRate, fun _ => above, aboveMin, fun _ some => absurd zero some,
          supported⟩⟩
    · rw [if_pos ⟨above, zero⟩] at count
      have nonneg : 0 ≤ (modeFps params.mode).tdiv params.parmMaxFps :=
        Int.tdiv_nonneg (modeFps_nonneg _) fresh
      have set := setBufBatchCount_spec noProperty
        (.ofInt ((modeFps params.mode).tdiv params.parmMaxFps))
      rw [← count] at set
      exact ⟨⟨by rw [minRate, mode], by rw [maxRate, mode], fun some => (set some).1,
          fun some => (set some).2.2⟩,
        ⟨flag, minRate, maxRate, fun _ => above, fun some => (set some).1,
          fun some _ => Int.le_trans (set some).2.1 (toInt_narrowed_le nonneg),
          fun some => (set some).2.2⟩⟩
  · rw [if_neg above] at fresh
    rw [if_neg fun both => above both.1, fresh] at count
    exact ⟨⟨by rw [minRate, mode], by rw [maxRate, mode], fun some => absurd count some,
        fun some => absurd count some⟩,
      ⟨flag, minRate, maxRate, fun some => absurd count some, fun some => absurd count some,
        fun some => absurd count some, fun some => absurd count some⟩⟩

end Mode

/-- The calls of `UpdateHFRFrameRate` on one object. -/
def callStep (env : BatchEnv) (state : HfrState) (params : FpsParams) : HfrState :=
  (updateHfrFrameRate env state params).2.2

/--
In every history of calls that are all fresh, the members follow the requested mode
after each of them.
-/
theorem batchCount_follows (env : BatchEnv) (noProperty : env.batchcount = 0)
    (calls : List FpsParams)
    (fresh : EachStep (callStep env) (fun state params _ => Fresh state params)
      .new calls) :
    EachStep (callStep env) (fun _ params after => FollowsMode env params after)
      .new calls := by
  refine fresh.of_invariant (Consistent env) ?_ ?_
  · intro state params consistent isFresh
    exact updateHfrFrameRate_step noProperty consistent isFresh
  · exact ⟨rfl, rfl, fun some => absurd rfl some, fun some => absurd rfl some⟩

/-- 240 fps with a preview of 30 fps. -/
def highSpeed : FpsParams where
  hfrStr := some "off"
  hsrStr := some "240"
  prevHfrStr := some "off"
  prevHsrStr := some "off"
  parmMinFps := 30000
  parmMaxFps := 30000

/-- No high frame rate. -/
def normalSpeed : FpsParams where
  hfrStr := some "off"
  hsrStr := some "off"
  prevHfrStr := some "off"
  prevHsrStr := some "240"
  parmMinFps := 30000
  parmMaxFps := 30000

/-- Sixteen buffers at most, and no system property. -/
def sixteenBufs : BatchEnv where
  maxBatchBufsSupported := 16
  batchcount := 0

theorem fresh_highSpeed (state : HfrState) : Fresh state highSpeed := by
  rw [Fresh, if_pos (by decide)]
  decide

/-- The switch to 240 fps, and a call that repeats it. -/
theorem batchCount_follows_highSpeed :
    sixteenBufs.batchcount = 0 ∧
      EachStep (callStep sixteenBufs) (fun state params _ => Fresh state params)
        .new [highSpeed, highSpeed] ∧
      EachStep (callStep sixteenBufs) (fun _ params after => FollowsMode sixteenBufs params after)
        .new [highSpeed, highSpeed] :=
  have fresh : EachStep (callStep sixteenBufs) (fun state params _ => Fresh state params)
      .new [highSpeed, highSpeed] :=
    ⟨fresh_highSpeed _, fresh_highSpeed _, trivial⟩
  ⟨rfl, fresh, batchCount_follows sixteenBufs rfl _ fresh⟩

/-- The count of 240 fps is still there when the high frame rate is switched off. -/
theorem batchCount_stale :
    ¬ EachStep (callStep sixteenBufs) (fun _ params after => FollowsMode sixteenBufs params after)
      .new [highSpeed, normalSpeed] := by
  rintro ⟨-, follows, -⟩
  have above := follows.mode (by decide)
  exact absurd above (by decide)

end AnglerHal.BatchCount
