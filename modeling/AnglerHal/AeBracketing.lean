import AnglerHal.CaptureCounts
import AnglerHal.StepTrace
import AnglerHal.Strtol

namespace AnglerHal.AeBracketing

open CString ParamMaps CaptureFeatures CaptureCounts StepTrace Strtol

/-!
# The exposures of AE bracketing

`setAEBracket` commits the exposures with every call and copies them to
`m_AEBracketingClient` when the mode is new.  `setNumOfSnapshot` counts those that are
committed, `getBurstCountForAdvancedCapture` and `configureAEBracketing` those of the
client.  A string is the list of its bytes before the NUL.
-/

/-- `MAX_EXP_BRACKETING_LENGTH`. -/
def maxExpBracketingLength : Nat :=
  32

/-- `PROPERTY_VALUE_MAX`. -/
def propertyValueMax : Nat :=
  92

/-- `AE_BRACKET`. -/
def aeBracket : String :=
  "AE-Bracket"

/-- `AE_BRACKET_OFF`. -/
def aeBracketOff : String :=
  "Off"

/-- `strtok_r` with a comma: the token and what is behind it. -/
def strtok (text : Bytes) : Option (Bytes × Bytes) :=
  match text.dropWhile (· == comma) with
  | [] => none
  | byte :: rest =>
    some ((byte :: rest).takeWhile (· != comma), ((byte :: rest).dropWhile (· != comma)).drop 1)

/-- The tokens that a loop over `strtok_r` sees; every turn takes a byte at least. -/
def tokensIn : Nat → Bytes → List Bytes
  | 0, _ => []
  | turns + 1, text =>
    match strtok text with
    | none => []
    | some (token, rest) => token :: tokensIn turns rest

/-- All tokens of a text. -/
def tokens (text : Bytes) : List Bytes :=
  tokensIn text.length text

/-- `cam_exp_bracketing_t`. -/
structure ExpBracketing where
  mode : Int
  values : Bytes
  deriving DecidableEq

/-- What the setters of AE bracketing keep. -/
structure AeState where
  /-- `KEY_QC_CAPTURE_BURST_EXPOSURE`. -/
  exposures : Option Bytes
  /-- `KEY_QC_AE_BRACKET_HDR`. -/
  bracket : Option String
  /-- The entry of that key in `m_tempMap`. -/
  tempBracket : Option String
  m_bAeBracketingEnabled : Bool
  m_AEBracketingClient : ExpBracketing
  deriving DecidableEq

/-- A `SET_PARAMS` call, and whether it comes to the commit. -/
structure AeCall where
  /-- `isHDREnabled` when `setAEBracket` runs. -/
  hdr : Bool
  exposures : Option Bytes
  /-- The property `persist.capture.burst.exposures`. -/
  prop : Bytes
  bracket : Option String
  commits : Bool
  /-- The features after the call. -/
  features : Features

/-- A string that is there and not empty. -/
def present : Option Bytes → Option Bytes
  | some (byte :: rest) => some (byte :: rest)
  | _ => none

/-- The flag and the configuration that `setAEBracket` takes for a mode. -/
def expBracketing (aecBracketStr : String) (exposures : Option Bytes) : Bool × ExpBracketing :=
  if lookupAttr bracketingModesMap aecBracketStr = some 1 then
    match present exposures with
    | some strVal => (true, ⟨1, (strlcpy strVal maxExpBracketingLength).1⟩)
    | none => (false, ⟨0, []⟩)
  else
    (false, ⟨0, []⟩)

/-- `QCameraParameters::setAEBracket` with a string. -/
def setAeBracketStr (aecBracketStr : String) (state : AeState) : AeState :=
  { state with
    m_bAeBracketingEnabled := (expBracketing aecBracketStr state.exposures).1
    m_AEBracketingClient := (expBracketing aecBracketStr state.exposures).2
    tempBracket := some aecBracketStr }

/-- The exposures that a call asks for: its own, those of the property, or none. -/
def AeCall.text (call : AeCall) : Option Bytes :=
  (present call.exposures).or (present (some call.prop))

/-- `QCameraParameters::setAEBracket` with the parameters. -/
def setAeBracket (call : AeCall) (state : AeState) : AeState :=
  if call.hdr then
    setAeBracketStr aeBracketOff state
  else
    let state := { state with exposures := call.text }
    match call.bracket with
    | none => state
    | some str => if state.bracket ≠ some str then setAeBracketStr str state else state

/-- `commitParamChanges`. -/
def commitParamChanges (state : AeState) : AeState :=
  { state with bracket := state.tempBracket.or state.bracket, tempBracket := none }

/-- A `SET_PARAMS` call. -/
def setParams (state : AeState) (call : AeCall) : AeState :=
  if call.commits then commitParamChanges (setAeBracket call state) else setAeBracket call state

/-- The part of `initDefaultParameters` for AE bracketing, with its commit. -/
def initDefaultParameters (prop : Bytes) : AeState :=
  commitParamChanges (setAeBracketStr aeBracketOff
    { exposures := present (some prop)
      bracket := none
      tempBracket := none
      m_bAeBracketingEnabled := false
      m_AEBracketingClient := ⟨0, []⟩ })

/-- `isAEBracketEnabled`. -/
def isAeBracketEnabled (state : AeState) : Bool :=
  match state.bracket with
  | none => false
  | some str => str != aeBracketOff

/-- The exposures that `setNumOfSnapshot` counts. -/
def exposureCount (state : AeState) : Nat :=
  match state.exposures with
  | none => 0
  | some strVal => (tokens (strlcpy strVal propertyValueMax).1).length

/-- The exposures of the client, as they are counted. -/
def clientTokens (state : AeState) : List Bytes :=
  tokens (strlcpy state.m_AEBracketingClient.values propertyValueMax).1

/-- The burst count of a feature that precedes AE bracketing. -/
def otherBurstCount (features : Features) : Option Nat :=
  let capability := features.capability
  if isUbiFocusEnabled features then
    some capability.ubifocusBurstCount.toNat
  else if isUbiRefocus features then
    some capability.refocusBurstCount.toNat
  else if isOptiZoomEnabled features then
    some capability.optiZoomBurstCount.toNat
  else if features.m_bChromaFlashOn then
    some capability.chromaFlashBurstCount.toNat
  else if features.m_bStillMoreOn then
    some (stillmoreCount features)
  else if isHdrEnabled features then
    some capability.hdrNumFrames.toNat
  else
    none

/-- `getBurstCountForAdvancedCapture`. -/
def getBurstCountForAdvancedCapture (features : Features) (state : AeState) : Nat :=
  let burstCount :=
    match otherBurstCount features with
    | some count => count
    | none => if isAeBracketEnabled state then (clientTokens state).length else 0
  uint8 (if burstCount ≤ 0 then 1 else burstCount : Nat)

/-- `cam_capture_settings_t` of a bracketing capture. -/
structure CaptureSettings where
  numFrames : Int
  mode : Int
  values : Int
  deriving DecidableEq

/-- `cam_capture_frame_config_t`. -/
structure FrameConfig where
  numBatch : Nat
  configs : List CaptureSettings
  deriving DecidableEq

/-- `configureAEBracketing`: the parsed `exp_value` is counted, and `values` is what is used. -/
def configureAeBracketing (long : LongSize) (state : AeState) : FrameConfig :=
  let client := state.m_AEBracketingClient
  let expValue := (clientTokens state).map fun token => uint8 (strtolInt long token).1.toInt
  { numBatch := expValue.length
    configs := (List.range expValue.length).map fun index =>
      ⟨1, client.mode, (client.values.getD index 0).toNat⟩ }

/-! ## What is to hold -/

/-- A string of comma-separated numbers. -/
inductive NumberList : Bytes → List Int → Prop where
  | last {text : Bytes} {number : Int} (isNumber : numeral text = some (number, [])) :
    NumberList text [number]
  | next {text rest : Bytes} {number : Int} {numbers : List Int}
    (isNumber : numeral text = some (number, [])) (later : NumberList rest numbers) :
    NumberList (text ++ comma :: rest) (number :: numbers)

/-- The exposures of a capture are the numbers of a text. -/
structure UsesList (long : LongSize) (features : Features) (state : AeState) (text : Bytes)
    (numbers : List Int) : Prop where
  list : state.m_AEBracketingClient.values = text
  snapshots : snapshotExpnum features state.bracket (exposureCount state) = numbers.length
  burst : getBurstCountForAdvancedCapture features state = numbers.length
  batch : (configureAeBracketing long state).numBatch = numbers.length
  values : ∀ index < numbers.length,
    ((configureAeBracketing long state).configs[index]?).map CaptureSettings.values =
      numbers[index]?

/-- What is to hold after a commit with AE bracketing on, HDR off and a list of exposures. -/
def Follows (long : LongSize) (_ : AeState) (call : AeCall) (after : AeState) : Prop :=
  call.commits = true → after.bracket = some aeBracket → isHdrEnabled call.features = false →
    ∀ text numbers, after.exposures = some text → NumberList text numbers →
      UsesList long call.features after text numbers

/-- The mode that a call sets anew, if any. -/
def newMode (before : AeState) (call : AeCall) : Option String :=
  match call.bracket with
  | none => none
  | some str => if before.bracket ≠ some str then some str else none

/-- A text that the client has: it is short where it is copied, and the former one elsewhere. -/
def IsCopied (before : AeState) (call : AeCall) (text : Bytes) : Prop :=
  if newMode before call = none then before.m_AEBracketingClient.values = text
  else text.length < maxExpBracketingLength

/-- No other feature is counted, or it takes as many frames. -/
def CountsAs (features : Features) (count : Nat) : Prop :=
  ∀ other ∈ otherBurstCount features, uint8 (if other ≤ 0 then 1 else other : Nat) = count

/-- The characters of a text are the codes of its numbers. -/
def CharsAre (text : Bytes) (numbers : List Int) : Prop :=
  ∀ index < numbers.length, some ((text.getD index 0).toNat : Int) = numbers[index]?

/-- A call that is none of a commit of AE bracketing with a list, or one of a copied list. -/
def Suits (before : AeState) (call : AeCall) : Prop :=
  call.commits = true → call.hdr = false →
    (newMode before call).or (before.tempBracket.or before.bracket) = some aeBracket →
    isHdrEnabled call.features = false →
    ∀ text numbers, call.text = some text → NumberList text numbers →
      IsCopied before call text ∧ CountsAs call.features numbers.length ∧ CharsAre text numbers

/-! ## The tokens of a list -/

section Tokens

variable {text rest : Bytes} {numbers : List Int} {number : Int}

theorem numeral_noComma (isNumber : numeral text = some (number, [])) :
    text ≠ [] ∧ comma ∉ text := by
  constructor
  · rintro rfl
    cases isNumber
  · intro member
    rcases mem_of_numeral isNumber member with none | space | minus | plus | digit
    · cases none
    · cases space
    · cases minus
    · cases plus
    · cases digit

theorem strtok_eq (nonempty : text ≠ []) (noComma : comma ∉ text) (rest : Bytes) :
    strtok (text ++ comma :: rest) = some (text, rest) ∧ strtok text = some (text, []) := by
  obtain ⟨first, later, rfl⟩ := List.exists_cons_of_ne_nil nonempty
  have isFirst : (first == comma) = false := by
    rw [beq_eq_false_iff_ne]
    rintro rfl
    exact noComma (.head _)
  have all : ∀ byte ∈ first :: later, (byte != comma) = true := by
    intro byte member
    rw [bne_iff_ne]
    rintro rfl
    exact noComma member
  have start : (first :: later ++ comma :: rest).dropWhile (· == comma) =
      first :: (later ++ comma :: rest) := List.dropWhile_cons_of_neg (by simp [isFirst])
  have start' : (first :: later).dropWhile (· == comma) = first :: later :=
    List.dropWhile_cons_of_neg (by simp [isFirst])
  have notComma : (comma != comma) = false := by decide
  constructor
  · simp only [strtok, start]
    rw [← List.cons_append, List.takeWhile_append_of_pos all, List.dropWhile_append_of_pos all,
      List.takeWhile_cons, List.dropWhile_cons, notComma]
    simp
  · simp only [strtok, start', List.takeWhile_eq_self_iff.mpr all,
      List.dropWhile_eq_nil_iff.mpr all, List.drop_nil]

theorem tokensIn_nil (turns : Nat) : tokensIn turns [] = [] := by
  cases turns <;> rfl

/-- A loop sees as many tokens as there are numbers. -/
theorem length_tokensIn (list : NumberList text numbers) {turns : Nat}
    (enough : text.length ≤ turns) : (tokensIn turns text).length = numbers.length := by
  induction list generalizing turns with
  | last isNumber =>
    obtain ⟨nonempty, noComma⟩ := numeral_noComma isNumber
    have positive := List.length_pos_of_ne_nil nonempty
    obtain ⟨less, rfl⟩ : ∃ less, turns = less + 1 := ⟨turns - 1, by omega⟩
    simp [tokensIn, (strtok_eq nonempty noComma []).2, tokensIn_nil]
  | @next text rest number numbers isNumber later inductionHypothesis =>
    obtain ⟨nonempty, noComma⟩ := numeral_noComma isNumber
    have positive := List.length_pos_of_ne_nil nonempty
    rw [List.length_append, List.length_cons] at enough
    obtain ⟨less, rfl⟩ : ∃ less, turns = less + 1 := ⟨turns - 1, by omega⟩
    simp only [tokensIn, (strtok_eq nonempty noComma rest).1, List.length_cons]
    rw [inductionHypothesis (by omega)]

theorem length_tokens (list : NumberList text numbers) :
    (tokens text).length = numbers.length :=
  length_tokensIn list (Nat.le_refl _)

theorem NumberList.nonempty (list : NumberList text numbers) : text ≠ [] ∧ 0 < numbers.length := by
  cases list with
  | last isNumber => exact ⟨(numeral_noComma isNumber).1, Nat.one_pos⟩
  | next isNumber later => exact ⟨by simp, Nat.succ_pos _⟩

theorem length_numbers_le (list : NumberList text numbers) : numbers.length ≤ text.length := by
  induction list with
  | last isNumber => exact List.length_pos_of_ne_nil (numeral_noComma isNumber).1
  | next isNumber later inductionHypothesis =>
    rw [List.length_append, List.length_cons, List.length_cons]
    omega

end Tokens

/-! ## One call -/

section Call

variable {long : LongSize} {features : Features} {state before : AeState} {call : AeCall}
variable {text : Bytes} {numbers : List Int}

theorem strlcpy_eq {size : Nat} (fits : text.length < size) : (strlcpy text size).1 = text :=
  List.take_of_length_le (by omega)

theorem clientTokens_eq (copied : state.m_AEBracketingClient.values = text)
    (short : text.length < maxExpBracketingLength) : clientTokens state = tokens text := by
  unfold clientTokens
  rw [copied, strlcpy_eq (Nat.lt_trans short (by decide))]

/-- The values of the client are those that a frame configuration holds. -/
theorem configs_values {index : Nat} (inRange : index < (clientTokens state).length) :
    ((configureAeBracketing long state).configs[index]?).map CaptureSettings.values =
      some ((state.m_AEBracketingClient.values.getD index 0).toNat : Int) := by
  simp [configureAeBracketing, inRange]

/-- A list is used as it is to be exactly when the client has it and the rest fits it. -/
theorem usesList_iff (isOn : state.bracket = some aeBracket)
    (isText : state.exposures = some text) (list : NumberList text numbers)
    (short : state.m_AEBracketingClient.values.length < maxExpBracketingLength) :
    UsesList long features state text numbers ↔
      state.m_AEBracketingClient.values = text ∧ CountsAs features numbers.length ∧
        CharsAre text numbers := by
  obtain ⟨nonempty, positive⟩ := list.nonempty
  have named : state.bracket.filter (· ≠ "") = some aeBracket := by
    rw [isOn]
    rfl
  have found : lookupAttr bracketingModesMap (some aeBracket) = some 1 := by decide
  have enabled : isAeBracketEnabled state = true := by
    rw [isAeBracketEnabled, isOn]
    decide
  by_cases copied : state.m_AEBracketingClient.values = text
  · rw [copied] at short
    have count : (clientTokens state).length = numbers.length := by
      rw [clientTokens_eq copied short, length_tokens list]
    have atMost := length_numbers_le list
    have bound : maxExpBracketingLength = 32 := rfl
    have snapshots : snapshotExpnum features state.bracket (exposureCount state) =
        numbers.length := by
      have committed : exposureCount state = numbers.length := by
        simp only [exposureCount, isText]
        rw [strlcpy_eq (Nat.lt_trans short (by decide)), length_tokens list]
      simp only [snapshotExpnum, named, found, if_true, committed]
      rw [if_neg (by omega)]
    have burst : getBurstCountForAdvancedCapture features state = numbers.length ↔
        CountsAs features numbers.length := by
      unfold getBurstCountForAdvancedCapture CountsAs
      cases other : otherBurstCount features with
      | some otherCount => simp
      | none =>
        simp only [enabled, if_true, count, Option.mem_def, reduceCtorEq, false_imp_iff,
          implies_true, iff_true]
        rw [if_neg (by omega)]
        unfold uint8
        omega
    have batch : (configureAeBracketing long state).numBatch = numbers.length := by
      simp [configureAeBracketing, count]
    have values : (∀ index < numbers.length,
        ((configureAeBracketing long state).configs[index]?).map CaptureSettings.values =
          numbers[index]?) ↔ CharsAre text numbers := by
      refine forall₂_congr fun index inRange => ?_
      rw [configs_values (count ▸ inRange), copied]
    exact ⟨fun uses => ⟨copied, burst.mp uses.burst, values.mp uses.values⟩,
      fun fits => ⟨copied, snapshots, burst.mpr fits.2.1, batch, values.mpr fits.2.2⟩⟩
  · exact iff_of_false (fun uses => copied uses.list) fun fits => copied fits.1

theorem setAeBracket_eq (notHdr : call.hdr = false) : setAeBracket call before =
    match newMode before call with
    | none => { before with exposures := call.text }
    | some str => setAeBracketStr str { before with exposures := call.text } := by
  simp only [setAeBracket, notHdr, Bool.false_eq_true, if_false, newMode]
  cases call.bracket with
  | none => rfl
  | some str =>
    dsimp only
    split <;> rfl

theorem setParams_bracket (commits : call.commits = true) (notHdr : call.hdr = false) :
    (setParams before call).bracket =
      (newMode before call).or (before.tempBracket.or before.bracket) := by
  rw [setParams, if_pos commits, setAeBracket_eq notHdr]
  cases newMode before call <;> rfl

theorem setParams_exposures (notHdr : call.hdr = false) :
    (setParams before call).exposures = call.text := by
  rw [setParams, setAeBracket_eq notHdr]
  cases newMode before call <;> cases call.commits <;> rfl

theorem setParams_client (notHdr : call.hdr = false) :
    (setParams before call).m_AEBracketingClient =
      match newMode before call with
      | none => before.m_AEBracketingClient
      | some str => (expBracketing str call.text).2 := by
  rw [setParams, setAeBracket_eq notHdr]
  cases newMode before call <;> cases call.commits <;> rfl

/-- The client has a copy of at most 31 characters. -/
theorem length_expBracketing_lt (str : String) (exposures : Option Bytes) :
    (expBracketing str exposures).2.values.length < maxExpBracketingLength := by
  unfold expBracketing
  split
  · split
    · exact Nat.lt_of_le_of_lt (List.length_take_le _ _) (by decide)
    · decide
  · decide

theorem length_setParams_lt
    (short : before.m_AEBracketingClient.values.length < maxExpBracketingLength)
    (call : AeCall) :
    (setParams before call).m_AEBracketingClient.values.length < maxExpBracketingLength := by
  cases hdr : call.hdr with
  | true =>
    have set : (setParams before call).m_AEBracketingClient =
        (expBracketing aeBracketOff before.exposures).2 := by
      simp only [setParams, setAeBracket, hdr, if_true]
      split <;> rfl
    rw [set]
    exact length_expBracketing_lt ..
  | false =>
    rw [setParams_client hdr]
    split
    · exact short
    · exact length_expBracketing_lt ..

theorem present_some (nonempty : text ≠ []) : present (some text) = some text := by
  obtain ⟨first, rest, rfl⟩ := List.exists_cons_of_ne_nil nonempty
  rfl

/-- The client has the text after a call exactly when it is copied. -/
theorem isCopied_iff (notHdr : call.hdr = false) (isText : call.text = some text)
    (nonempty : text ≠ [])
    (isOn : (newMode before call).or (before.tempBracket.or before.bracket) = some aeBracket) :
    (setParams before call).m_AEBracketingClient.values = text ↔ IsCopied before call text := by
  rw [setParams_client notHdr, isText]
  unfold IsCopied
  cases mode : newMode before call with
  | none => simp
  | some str =>
    rw [mode] at isOn
    obtain rfl := Option.some.inj isOn
    have found : lookupAttr bracketingModesMap (some aeBracket) = some 1 := by decide
    simp only [expBracketing, found, present_some nonempty, if_true, reduceCtorEq, if_false,
      strlcpy, List.take_eq_self_iff]
    exact Nat.lt_succ_iff.symm

/-- A call follows the list exactly when it suits it. -/
theorem follows_iff
    (short : before.m_AEBracketingClient.values.length < maxExpBracketingLength) :
    Follows long before call (setParams before call) ↔ Suits before call := by
  have length := length_setParams_lt short call
  refine imp_congr_right fun commits => ?_
  cases hdr : call.hdr with
  | true =>
    have off : (setParams before call).bracket = some aeBracketOff := by
      simp [setParams, setAeBracket, hdr, commits, commitParamChanges, setAeBracketStr]
    rw [off]
    exact iff_of_true (fun isOn => absurd isOn (by decide)) fun isFalse => by cases isFalse
  | false =>
    rw [setParams_bracket commits hdr]
    simp only [true_imp_iff]
    refine imp_congr_right fun isOn => imp_congr_right fun _ => ?_
    rw [setParams_exposures hdr]
    refine forall₄_congr fun text numbers isText list => ?_
    rw [usesList_iff (by rw [setParams_bracket commits hdr, isOn])
      (by rw [setParams_exposures hdr, isText]) list length,
      isCopied_iff hdr isText list.nonempty.1 isOn]

end Call

/-- The exposures of every commit are those of its list exactly when every call suits its list. -/
theorem aeExposures_iff (long : LongSize) (prop : Bytes) (sequence : List AeCall) :
    EachStep setParams (Follows long) (initDefaultParameters prop) sequence ↔
      EachStep setParams (fun before call _ => Suits before call) (initDefaultParameters prop)
        sequence :=
  have granted : EachStep setParams (fun _ _ _ => True) (initDefaultParameters prop) sequence :=
    .of_forall (fun _ _ => trivial) _ _
  granted.iff_of_invariant
    (fun state => state.m_AEBracketingClient.values.length < maxExpBracketingLength)
    (fun _ _ short _ => ⟨follows_iff short, fun _ => length_setParams_lt short _⟩)
    (length_expBracketing_lt _ _)

/-- A call for AE bracketing with the exposure -6, and no other feature. -/
def bracketMinusSix : AeCall where
  hdr := false
  exposures := some [45, 54]
  prop := []
  bracket := some aeBracket
  commits := true
  features := plainFeatures

/-- The frame is given the code of the minus in place of -6. -/
theorem aeExposures_codes : ¬ ∀ (long : LongSize) (prop : Bytes) (sequence : List AeCall),
    EachStep setParams (Follows long) (initDefaultParameters prop) sequence := by
  intro follows
  have uses := (follows .lp64 [] [bracketMinusSix]).1 rfl rfl (by decide) [45, 54] [-6] rfl
    (.last (by decide))
  exact absurd (uses.values 0 (by decide)) (by decide)

end AnglerHal.AeBracketing
