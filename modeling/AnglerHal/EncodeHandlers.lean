import AnglerHal.MetadataParser

namespace AnglerHal.MetadataParser

open CString PowerHints

/-!
# Two handlers of one string

`power_hint` of the 8994 lets its override parse the metadata of a video-encode
hint first and, unless that handles the hint, the generic handler parses the same
string again.  The first parse has put a NUL after the first token by then, so
the second one sees no other.
-/

/-- The record that both handlers start from. -/
def initialMetadata : VideoEncodeMetadata where
  hintId := defaultVideoEncodeHintId
  state := -1

/-- What the variables and the calls of the two handlers are. -/
structure HandlerEnv where
  fuel : Nat
  overrideLocals : Locals
  genericLocals : Locals
  overrideGovernor : Option Governor
  genericGovernor : Option Governor
  created : Bool

/-- What the handlers parse, when they come to it, and the result of the override. -/
structure Handlers where
  override : Option VideoEncodeMetadata
  result : HintResult
  generic : Option VideoEncodeMetadata
  deriving DecidableEq

section Handlers

variable (atoi : Bytes → Int) (env : HandlerEnv)

/-- `power_hint_override`: the string as it is left, what was parsed, and the result. -/
def powerHintOverride (hint : VideoEncodeHint) (metadata : Option Bytes) :
    Option (Option Bytes × Option VideoEncodeMetadata × HintResult) :=
  match env.overrideGovernor, metadata with
  | some governor, some block => do
    let (block, record, code) ←
      parseVideoEncodeMetadata atoi env.fuel env.overrideLocals block initialMetadata
    if code = -1 then
      return (some block, none, .none)
    else
      let (_, result) :=
        hint.processVideoEncodeHint (some governor) (some record) env.created
      return (some block, some record, result)
  | _, _ => some (metadata, none, .none)

/-- What the generic `process_video_encode_hint` parses. -/
def genericMetadata (metadata : Option Bytes) : Option (Option VideoEncodeMetadata) :=
  match env.genericGovernor, metadata with
  | some _, some block => do
    let (_, record, code) ←
      parseVideoEncodeMetadata atoi env.fuel env.genericLocals block initialMetadata
    return if code = -1 then none else some record
  | _, _ => some none

/-- `power_hint` with `POWER_HINT_VIDEO_ENCODE`, as far as the metadata is parsed. -/
def powerHint (hint : VideoEncodeHint) (metadata : Option Bytes) : Option Handlers := do
  let (metadata, override, result) ← powerHintOverride atoi env hint metadata
  if result = .handled then
    return { override := override, result := result, generic := none }
  else
    let generic ← genericMetadata atoi env metadata
    return { override := override, result := result, generic := generic }

end Handlers

section Agreement

variable (atoi : Bytes → Int)

/-- When the override has parsed the string and declines, the generic handler parses the same. -/
def HandlersAgree (text : Bytes) : Prop :=
  ∀ env hint handlers override generic, text.length < env.fuel →
    powerHint atoi env hint (some (text ++ [0])) = some handlers →
    handlers.override = some override → handlers.result = .none →
    handlers.generic = some generic → generic = override

/-- Two parses of one string give the same record. -/
def ParsesAgree (record : VideoEncodeMetadata) (text : Bytes) : Prop :=
  ∀ fuel locals locals' block block' first second, text.length < fuel →
    parseVideoEncodeMetadata atoi fuel locals (text ++ [0]) record = some (block, first, 0) →
    parseVideoEncodeMetadata atoi fuel locals' block record = some (block', second, 0) →
    second = first

/-- A field of a record. -/
def Field.get (record : VideoEncodeMetadata) : Field → Int
  | .hintId => record.hintId
  | .state => record.state

/-- The tokens after the first one give no field another number than it has after that. -/
def FirstTokenDecides (record : VideoEncodeMetadata) (tokens : List Bytes) : Prop :=
  ∀ field value, lastValue field tokens.tail = some value →
    atoi value = (lastValue field (tokens.take 1)).elim (field.get record) atoi

end Agreement

variable {atoi : Bytes → Int}

theorem elim_eq_iff {value : Option Bytes} {number : Int} :
    value.elim number atoi = number ↔ ∀ bytes, value = some bytes → atoi bytes = number := by
  cases value with
  | none => simp
  | some bytes => simp

/-- The first token alone makes the same record exactly when it decides. -/
theorem encodeMetadata_take_iff (record : VideoEncodeMetadata) (tokens : List Bytes) :
    encodeMetadata atoi (tokens.take 1) record = encodeMetadata atoi tokens record ↔
      FirstTokenDecides atoi record tokens := by
  cases tokens with
  | nil => exact iff_of_true rfl nofun
  | cons token later =>
    have same : encodeMetadata atoi [token] record = encodeMetadata atoi (token :: later) record ↔
        (lastValue .hintId later).elim ((lastValue .hintId [token]).elim record.hintId atoi) atoi =
            (lastValue .hintId [token]).elim record.hintId atoi ∧
          (lastValue .state later).elim ((lastValue .state [token]).elim record.state atoi) atoi =
            (lastValue .state [token]).elim record.state atoi := by
      have single : ∀ field, lastValue field [token] = givenValue field token := by
        intro field
        rw [lastValue_cons]
        rfl
      simp only [encodeMetadata, VideoEncodeMetadata.mk.injEq, single, lastValue_cons, elim_or]
      exact and_congr eq_comm eq_comm
    refine same.trans ?_
    rw [elim_eq_iff, elim_eq_iff]
    constructor
    · rintro ⟨hintId, state⟩ field
      cases field with
      | hintId => exact hintId
      | state => exact state
    · intro decides
      exact ⟨decides .hintId, decides .state⟩

variable {text : Bytes} {env : HandlerEnv} {hint : VideoEncodeHint}

/-- The second parse of a string makes the record of its first token. -/
theorem parse_twice (atoi : Bytes → Int) (noNul : 0 ∉ text) {fuel : Nat}
    (enough : text.length < fuel) (locals locals' : Locals)
    (record record' : VideoEncodeMetadata) :
    ∃ block block',
      parseVideoEncodeMetadata atoi fuel locals (text ++ [0]) record =
        some (block, encodeMetadata atoi (tokens text) record, 0) ∧
      parseVideoEncodeMetadata atoi fuel locals' block record' =
        some (block', encodeMetadata atoi ((tokens text).take 1) record', 0) := by
  obtain ⟨left, after, first, noNulLeft, shorter, isFirst⟩ :=
    parseVideoEncodeMetadata_spec atoi fuel locals [] noNul enough record
  obtain ⟨left', after', second, -⟩ :=
    parseVideoEncodeMetadata_spec atoi fuel locals' after noNulLeft
      (Nat.lt_of_le_of_lt shorter enough) record'
  rw [isFirst] at second
  exact ⟨_, _, first, second⟩

theorem parsesAgree_iff (record : VideoEncodeMetadata) (noNul : 0 ∉ text) :
    ParsesAgree atoi record text ↔ FirstTokenDecides atoi record (tokens text) := by
  rw [← encodeMetadata_take_iff]
  constructor
  · intro agree
    obtain ⟨block, block', first, second⟩ :=
      parse_twice atoi noNul (Nat.lt_succ_self _) zeroLocals zeroLocals record record
    exact agree _ _ _ _ _ _ _ (Nat.lt_succ_self _) first second
  · intro same fuel locals locals' block block' first second enough parsed reparsed
    obtain ⟨block₁, block₂, isFirst, isSecond⟩ :=
      parse_twice atoi noNul enough locals locals' record record
    rw [parsed] at isFirst
    cases isFirst
    rw [reparsed] at isSecond
    cases isSecond
    exact same

/-- The handlers parse the string twice when the override declines. -/
theorem powerHint_of_declines (noNul : 0 ∉ text) (enough : text.length < env.fuel)
    {governor governor' : Governor}
    (overrideGovernor : env.overrideGovernor = some governor)
    (genericGovernor : env.genericGovernor = some governor')
    (declines : (hint.processVideoEncodeHint (some governor)
      (some (encodeMetadata atoi (tokens text) initialMetadata)) env.created).2 = .none) :
    powerHint atoi env hint (some (text ++ [0])) =
      some {
        override := some (encodeMetadata atoi (tokens text) initialMetadata)
        result := .none
        generic := some (encodeMetadata atoi ((tokens text).take 1) initialMetadata) } := by
  obtain ⟨block, block', first, second⟩ :=
    parse_twice atoi noNul enough env.overrideLocals env.genericLocals
      initialMetadata initialMetadata
  simp [powerHint, powerHintOverride, genericMetadata, overrideGovernor, genericGovernor, first,
    second, declines]

theorem powerHint_declined {handlers : Handlers}
    {override generic : VideoEncodeMetadata} (noNul : 0 ∉ text)
    (enough : text.length < env.fuel)
    (handled : powerHint atoi env hint (some (text ++ [0])) = some handlers)
    (isOverride : handlers.override = some override) (isNone : handlers.result = .none)
    (isGeneric : handlers.generic = some generic) :
    override = encodeMetadata atoi (tokens text) initialMetadata ∧
      generic = encodeMetadata atoi ((tokens text).take 1) initialMetadata := by
  obtain ⟨block, block', first, second⟩ :=
    parse_twice atoi noNul enough env.overrideLocals env.genericLocals
      initialMetadata initialMetadata
  cases overrideGovernor : env.overrideGovernor with
  | none =>
    simp [powerHint, powerHintOverride, overrideGovernor, Option.bind_eq_some_iff] at handled
    obtain ⟨parsed, -, rfl⟩ := handled
    cases isOverride
  | some governor =>
    simp only [powerHint, powerHintOverride, overrideGovernor, first, Option.bind_eq_bind,
      Option.bind_some] at handled
    cases declined : (hint.processVideoEncodeHint (some governor)
        (some (encodeMetadata atoi (tokens text) initialMetadata)) env.created).2 with
    | handled =>
      simp [declined] at handled
      subst handled
      cases isNone
    | none =>
      cases genericGovernor : env.genericGovernor with
      | none =>
        simp [declined, genericMetadata, genericGovernor] at handled
        subst handled
        cases isGeneric
      | some governor' =>
        simp [declined, genericMetadata, genericGovernor, second] at handled
        subst handled
        exact ⟨(Option.some.inj isOverride).symm, (Option.some.inj isGeneric).symm⟩

theorem handlersAgree_iff (noNul : 0 ∉ text) :
    HandlersAgree atoi text ↔ FirstTokenDecides atoi initialMetadata (tokens text) := by
  rw [← encodeMetadata_take_iff]
  constructor
  · intro agree
    let env : HandlerEnv :=
      { fuel := text.length + 1
        overrideLocals := zeroLocals
        genericLocals := zeroLocals
        overrideGovernor := some .ondemand
        genericGovernor := some .ondemand
        created := true }
    -- under another governor than `interactive` the override always declines
    have declines : (VideoEncodeHint.loaded.processVideoEncodeHint (some .ondemand)
        (some (encodeMetadata atoi (tokens text) initialMetadata)) true).2 = .none := by
      simp only [VideoEncodeHint.processVideoEncodeHint]
      split
      · rfl
      · split
        · rfl
        · rfl
    exact agree env .loaded _ _ _ (Nat.lt_succ_self _)
      (powerHint_of_declines noNul (Nat.lt_succ_self _) rfl rfl declines) rfl rfl rfl
  · intro same env hint handlers override generic enough handled isOverride isNone isGeneric
    obtain ⟨rfl, rfl⟩ := powerHint_declined noNul enough handled isOverride isNone isGeneric
    exact same

/-- `hint_id=7;state=1`. -/
def startHint : Bytes :=
  hintIdName ++ [61, 55, 59] ++ stateName ++ [61, 49]

/--
The two handlers of a video-encode hint see the same request, and two parses of
a string give the same record, exactly when the tokens after the first one say
nothing new.
-/
theorem encodeHandlers_agree_iff (atoi : Bytes → Int) (text : Bytes) (noNul : 0 ∉ text) :
    (HandlersAgree atoi text ↔ FirstTokenDecides atoi initialMetadata (tokens text)) ∧
      ∀ record, ParsesAgree atoi record text ↔ FirstTokenDecides atoi record (tokens text) :=
  ⟨handlersAgree_iff noNul, fun record => parsesAgree_iff record noNul⟩

/-- One token decides. -/
theorem encodeHandlers_agree_state :
    HandlersAgree digit (stateName ++ [61, 49]) :=
  (encodeHandlers_agree_iff digit (stateName ++ [61, 49]) (by decide)).1.mpr (by
    intro field value later
    cases field <;> cases later)

/-- The second handler does not see that a hint is started. -/
theorem encodeHandlers_disagree : ¬ HandlersAgree digit startHint := by
  rw [handlersAgree_iff (by decide)]
  intro decides
  exact absurd (decides .state [49] (by decide)) (by decide)

end AnglerHal.MetadataParser
