import AnglerHal.CString
import AnglerHal.VideoEncodeHint

namespace AnglerHal.MetadataParser

open CString PowerHints

/-!
# The metadata of the video hints

The metadata is a string of tokens that are separated by semicolons, each an
attribute and a value with an equals sign between them.  `parse_metadata` takes
the next token with `strtok_r`, which ends it with a NUL in the string itself,
and copies its two parts into buffers of 1024 bytes.

`atoi` is a parameter.
-/

/-- `;`. -/
def attributeStringDelim : UInt8 :=
  59

/-- `=`. -/
def attributeValueDelim : UInt8 :=
  61

/-- `hint_id`. -/
def hintIdName : Bytes :=
  [104, 105, 110, 116, 95, 105, 100]

/-- `state`. -/
def stateName : Bytes :=
  [115, 116, 97, 116, 101]

/-- `METADATA_PARSING_*`. -/
inductive ParsingStatus where
  | err
  | continue
  | done
  deriving DecidableEq

/-- The string and the variables of a parse function. -/
structure Parser where
  metadata : Bytes
  saveptr : Option Nat
  attributeBuf : Bytes
  valueBuf : Bytes
  deriving DecidableEq

/-- A difference of unsigned lengths; `none` when it would wrap. -/
def unsignedSub (length amount : Nat) : Option Nat :=
  if amount ≤ length then some (length - amount) else none

/-- The part of `parse_metadata` that copies the two halves of a token. -/
def Parser.copyAttribute (attributeSize valueSize token delim : Nat) (parser : Parser) :
    Option Parser := do
  let bytesToCopy := min (delim - token) (attributeSize - 1)
  let copied ← strncpy parser.attributeBuf (parser.metadata.drop token) bytesToCopy
  let attributeBuf ← store copied bytesToCopy 0
  let stringLength ← strlen parser.metadata token
  let attributeLength ← strlen attributeBuf 0
  let rest ← unsignedSub stringLength (attributeLength + 1)
  let bytesToCopy := min rest (valueSize - 1)
  let copied ← strncpy parser.valueBuf (parser.metadata.drop (delim + 1)) bytesToCopy
  let valueBuf ← store copied bytesToCopy 0
  return { parser with attributeBuf := attributeBuf, valueBuf := valueBuf }

/-- `parse_metadata`. -/
def Parser.parseMetadata (metadata : Option Nat) (attributeSize valueSize : Nat)
    (parser : Parser) : Option (Parser × ParsingStatus) := do
  let (block, attributeString, saveptr) ←
    strtokR attributeStringDelim parser.metadata metadata parser.saveptr
  let parser := { parser with metadata := block, saveptr := saveptr }
  match attributeString with
  | none => return (parser, .done)
  | some token =>
    let attributeBuf ← store parser.attributeBuf 0 0
    let valueBuf ← store parser.valueBuf 0 0
    let parser := { parser with attributeBuf := attributeBuf, valueBuf := valueBuf }
    match ← strchr parser.metadata token attributeValueDelim with
    | none => return (parser, .continue)
    | some delim =>
      let parser ← parser.copyAttribute attributeSize valueSize token delim
      return (parser, .continue)

/-- The buffer holds this name, by its length and its bytes. -/
def isNamed (name buffer : Bytes) : Option Bool := do
  let length ← strlen buffer 0
  if length = name.length then
    strncmpEq buffer name name.length
  else
    return false

/-- The fields of a metadata record. -/
inductive Field where
  | hintId
  | state
  deriving DecidableEq

/-- The name of a field. -/
def Field.name : Field → Bytes
  | .hintId => hintIdName
  | .state => stateName

section Parse

variable {α : Type} (atoi : Bytes → Int) (assign : Field → Int → α → α)

/-- What one field takes from the two buffers; `assign` stores a field of the record. -/
def Parser.readField (field : Field) (parser : Parser) (record : α) : Option α := do
  if ← isNamed field.name parser.attributeBuf then
    let length ← strlen parser.valueBuf 0
    if length > 0 then
      return assign field (atoi (parser.valueBuf.take length)) record
    else
      return record
  else
    return record

/--
The loop of a parse function; it returns the string as it is left, the record
and the return code.  `fuel` bounds the number of its turns.
-/
def parseLoop : Nat → Option Nat → Parser → α → Option (Bytes × α × Int)
  | 0, _, _, _ => none
  | fuel + 1, metadata, parser, record => do
    let (parser, status) ← parser.parseMetadata metadata 1024 1024
    match status with
    | .done => return (parser.metadata, record, 0)
    | .err => return (parser.metadata, record, -1)
    | .continue =>
      let record ← parser.readField atoi assign .hintId record
      let record ← parser.readField atoi assign .state record
      parseLoop fuel none parser record

end Parse

/-- A field of the record is set. -/
def assignEncode (field : Field) (number : Int) (metadata : VideoEncodeMetadata) :
    VideoEncodeMetadata :=
  match field with
  | .hintId => { metadata with hintId := number }
  | .state => { metadata with state := number }

/-- `struct video_decode_metadata_t`. -/
structure VideoDecodeMetadata where
  hintId : Int
  state : Int
  deriving DecidableEq

/-- A field of the record is set. -/
def assignDecode (field : Field) (number : Int) (metadata : VideoDecodeMetadata) :
    VideoDecodeMetadata :=
  match field with
  | .hintId => { metadata with hintId := number }
  | .state => { metadata with state := number }

/-- The variables of a parse function, which are not initialised. -/
structure Locals where
  saveptr : Option Nat
  attributeBuf : Bytes
  valueBuf : Bytes
  attributeLength : attributeBuf.length = 1024
  valueLength : valueBuf.length = 1024

/-- The parser at the begin of the metadata. -/
def Locals.parser (locals : Locals) (metadata : Bytes) : Parser where
  metadata := metadata
  saveptr := locals.saveptr
  attributeBuf := locals.attributeBuf
  valueBuf := locals.valueBuf

/-- `parse_video_encode_metadata`. -/
def parseVideoEncodeMetadata (atoi : Bytes → Int) (fuel : Nat) (locals : Locals)
    (metadata : Bytes) (record : VideoEncodeMetadata) :
    Option (Bytes × VideoEncodeMetadata × Int) :=
  parseLoop atoi assignEncode fuel (some 0) (locals.parser metadata) record

/-- `parse_video_decode_metadata`. -/
def parseVideoDecodeMetadata (atoi : Bytes → Int) (fuel : Nat) (locals : Locals)
    (metadata : Bytes) (record : VideoDecodeMetadata) :
    Option (Bytes × VideoDecodeMetadata × Int) :=
  parseLoop atoi assignDecode fuel (some 0) (locals.parser metadata) record

/-! ## What the metadata says -/

/-- The tokens of a text. -/
def tokens (text : Bytes) : List Bytes :=
  (text.splitOn attributeStringDelim).filter (· ≠ [])

/-- The text before the first equals sign of a token, and the text after it. -/
def halves (token : Bytes) : Option (Bytes × Bytes) :=
  if attributeValueDelim ∈ token then
    some (token.takeWhile (· ≠ attributeValueDelim),
      (token.dropWhile (· ≠ attributeValueDelim)).tail)
  else
    none

/-- The value that a token gives to a field, cut to 1023 bytes. -/
def givenValue (field : Field) (token : Bytes) : Option Bytes :=
  match halves token with
  | some (name, value) =>
    if name = field.name ∧ value ≠ [] then some (value.take 1023) else none
  | none => none

/-- The value of the last token that gives one to the field. -/
def lastValue (field : Field) (tokens : List Bytes) : Option Bytes :=
  (tokens.filterMap (givenValue field)).getLast?

/-- What a record becomes by one token. -/
def applyToken {α : Type} (atoi : Bytes → Int) (assign : Field → Int → α → α) (record : α)
    (token : Bytes) : α :=
  [Field.hintId, Field.state].foldl (fun record field =>
    match givenValue field token with
    | some value => assign field (atoi value) record
    | none => record) record

/-! ## Tokens of a text -/

theorem tokens_of_delims {skipped : Bytes} (delims : ∀ byte ∈ skipped, byte = attributeStringDelim)
    (text : Bytes) :
    tokens (skipped ++ text) = tokens text := by
  induction skipped with
  | nil => rfl
  | cons byte skipped inductionHypothesis =>
    obtain rfl := delims byte (by simp)
    have later := inductionHypothesis fun other member => delims other (by simp [member])
    have first : (attributeStringDelim :: (skipped ++ text)).splitOn attributeStringDelim =
        [] :: (skipped ++ text).splitOn attributeStringDelim :=
      List.splitOn_append_cons_self_of_not_mem List.not_mem_nil (skipped ++ text)
    rw [← later]
    simp only [tokens, List.cons_append]
    rw [first]
    simp

theorem tokens_nil : tokens [] = [] := by
  simp [tokens]

variable {token value buffer text before rest : Bytes} {pointer : Option Nat}

theorem tokens_of_not_mem (nonempty : token ≠ []) (notIn : attributeStringDelim ∉ token) :
    tokens token = [token] := by
  simp [tokens, List.splitOn_eq_singleton notIn, nonempty]

theorem tokens_append (nonempty : token ≠ []) (notIn : attributeStringDelim ∉ token)
    (later : Bytes) :
    tokens (token ++ attributeStringDelim :: later) = token :: tokens later := by
  simp [tokens, List.splitOn_append_cons_self_of_not_mem notIn, nonempty]

/-- The delimiters at the begin of a text. -/
theorem exists_delims (text : Bytes) :
    ∃ skipped rest, text = skipped ++ rest ∧ (∀ byte ∈ skipped, byte = attributeStringDelim) ∧
      rest.head? ≠ some attributeStringDelim := by
  induction text with
  | nil => exact ⟨[], [], rfl, by simp, by simp⟩
  | cons byte text inductionHypothesis =>
    by_cases isDelim : byte = attributeStringDelim
    · obtain ⟨skipped, rest, rfl, delims, head⟩ := inductionHypothesis
      refine ⟨byte :: skipped, rest, rfl, ?_, head⟩
      simpa [isDelim] using delims
    · exact ⟨[], byte :: text, rfl, by simp, by simpa using isDelim⟩

/-- The first token of a text, when there is one, and what comes after it. -/
inductive TokenView (text : Bytes) : Prop where
  | done (delims : ∀ byte ∈ text, byte = attributeStringDelim) (isEmpty : tokens text = [])
  | last (skipped token : Bytes) (isText : text = skipped ++ token)
      (delims : ∀ byte ∈ skipped, byte = attributeStringDelim) (nonempty : token ≠ [])
      (notIn : attributeStringDelim ∉ token) (isTokens : tokens text = [token])
  | next (skipped token later : Bytes)
      (isText : text = skipped ++ token ++ attributeStringDelim :: later)
      (delims : ∀ byte ∈ skipped, byte = attributeStringDelim) (nonempty : token ≠ [])
      (notIn : attributeStringDelim ∉ token) (isTokens : tokens text = token :: tokens later)

theorem tokenView (text : Bytes) : TokenView text := by
  obtain ⟨skipped, rest, rfl, delims, head⟩ := exists_delims text
  by_cases isIn : attributeStringDelim ∈ rest
  · obtain ⟨token, later, rfl, notIn⟩ := List.eq_append_cons_of_mem isIn
    have nonempty : token ≠ [] := by
      rintro rfl
      exact head rfl
    refine .next skipped token later (by simp) delims nonempty notIn ?_
    rw [tokens_of_delims delims, tokens_append nonempty notIn]
  · by_cases isEmpty : rest = []
    · subst isEmpty
      rw [List.append_nil]
      refine .done delims ?_
      rw [← List.append_nil skipped, tokens_of_delims delims, tokens_nil]
    · refine .last skipped rest rfl delims isEmpty isIn ?_
      rw [tokens_of_delims delims, tokens_of_not_mem isEmpty isIn]

theorem halves_append {name : Bytes} (notIn : attributeValueDelim ∉ name) :
    halves (name ++ attributeValueDelim :: value) = some (name, value) := by
  have passes : ∀ byte ∈ name, decide (byte ≠ attributeValueDelim) = true := by
    intro byte member
    have isOther : byte ≠ attributeValueDelim := fun same => notIn (same ▸ member)
    simpa using isOther
  rw [halves, if_pos (by simp), List.takeWhile_append_of_pos passes,
    List.dropWhile_append_of_pos passes]
  simp

/-! ## One turn of the loop -/

/-- A buffer of 1024 bytes holds this string. -/
def Holds (buffer text : Bytes) : Prop :=
  0 ∉ text ∧ ∃ after, buffer = text ++ 0 :: after ∧ (text ++ 0 :: after).length = 1024

theorem Holds.length_eq (holds : Holds buffer text) :
    buffer.length = 1024 := by
  obtain ⟨-, after, rfl, length⟩ := holds
  exact length

/-- What the two buffers hold after a token. -/
def bufferTexts (token : Bytes) : Bytes × Bytes :=
  match halves token with
  | some (name, value) => (name.take 1023, value.take 1023)
  | none => ([], [])

theorem Parser.copyAttribute_spec (parser : Parser) {name : Bytes}
    (isBlock : parser.metadata = before ++ (name ++ attributeValueDelim :: value) ++ 0 :: rest)
    (noNul : 0 ∉ name ++ attributeValueDelim :: value)
    (attributeLength : parser.attributeBuf.length = 1024)
    (valueLength : parser.valueBuf.length = 1024) :
    ∃ attributeBuf valueBuf, parser.copyAttribute 1024 1024 before.length
        (before.length + name.length) =
        some { parser with attributeBuf := attributeBuf, valueBuf := valueBuf } ∧
      Holds attributeBuf (name.take 1023) ∧ Holds valueBuf (value.take 1023) := by
  have noNulName : 0 ∉ name := fun member => noNul (by simp [member])
  have noNulValue : 0 ∉ value := fun member => noNul (by simp [member])
  have noNulTake : 0 ∉ name.take 1023 := fun member => noNulName (List.mem_of_mem_take member)
  have bytesToCopy : min (before.length + name.length - before.length) (1024 - 1) =
      min 1023 name.length := by omega
  have textTake : (name ++ attributeValueDelim :: value).take (min 1023 name.length) =
      name.take 1023 := by
    rw [List.take_append_of_le_length (by omega), ← List.take_take, List.take_length]
  obtain ⟨copied, after, isCopy, stored, storedLength⟩ :=
    store_strncpy rest noNul (min 1023 name.length)
      (by omega : _ < parser.attributeBuf.length)
  rw [textTake] at stored storedLength
  have subtracted : unsignedSub (name ++ attributeValueDelim :: value).length
      ((name.take 1023).length + 1) =
        some (name.length - min 1023 name.length + value.length) := by
    have le : (name.take 1023).length + 1 ≤ (name ++ attributeValueDelim :: value).length := by
      simp only [List.length_take, List.length_append, List.length_cons]
      omega
    rw [unsignedSub, if_pos le]
    simp only [List.length_take, List.length_append, List.length_cons, Option.some.injEq]
    omega
  obtain ⟨copiedValue, afterValue, isCopyValue, storedValue, storedValueLength⟩ :=
    store_strncpy rest noNulValue
      (min (name.length - min 1023 name.length + value.length) (1024 - 1))
      (by omega : _ < parser.valueBuf.length)
  have valueTake : value.take (min (name.length - min 1023 name.length + value.length) (1024 - 1))
      = value.take 1023 := by
    rw [Nat.min_comm, ← List.take_take, List.take_of_length_le (Nat.le_add_left _ _)]
  rw [valueTake] at storedValue storedValueLength
  have token : parser.metadata.drop before.length =
      name ++ attributeValueDelim :: value ++ 0 :: rest := by
    rw [isBlock, List.append_assoc, List.drop_left]
  have afterDelim : parser.metadata.drop (before.length + name.length + 1) =
      value ++ 0 :: rest := by
    rw [isBlock, show before ++ (name ++ attributeValueDelim :: value) ++ 0 :: rest =
      (before ++ name ++ [attributeValueDelim]) ++ (value ++ 0 :: rest) by simp]
    rw [show before.length + name.length + 1 =
      (before ++ name ++ [attributeValueDelim]).length by simp [Nat.add_assoc], List.drop_left]
  have stringLength : strlen parser.metadata before.length =
      some (name ++ attributeValueDelim :: value).length := by
    rw [isBlock]
    exact strlen_append before noNul
  refine ⟨_, _, ?_, ⟨noNulTake, after, rfl, storedLength.trans attributeLength⟩,
    ⟨fun member => noNulValue (List.mem_of_mem_take member), afterValue, rfl,
      storedValueLength.trans valueLength⟩⟩
  simp only [copyAttribute, bytesToCopy, token, isCopy, stored, stringLength,
    strlen_zero noNulTake, subtracted, afterDelim, isCopyValue, storedValue,
    Option.bind_eq_bind, Option.bind_some, Option.pure_def]

theorem store_zero (length : buffer.length = 1024) :
    ∃ after, store buffer 0 0 = some (0 :: after) ∧ (0 :: after).length = 1024 := by
  cases buffer with
  | nil => cases length
  | cons byte after => exact ⟨after, rfl, length⟩

/-- A token is taken: it is ended in the string, and its halves are in the buffers. -/
theorem Parser.parseMetadata_token {parser : Parser} (skipped token rest : Bytes)
    (last : UInt8) (isStart : pointer.or parser.saveptr = some before.length)
    (isBlock : parser.metadata = before ++ skipped ++ token ++ last :: rest)
    (delims : ∀ byte ∈ skipped, byte = attributeStringDelim) (nonempty : token ≠ [])
    (noNul : 0 ∉ token) (notIn : attributeStringDelim ∉ token)
    (stops : last = attributeStringDelim ∨ last = 0)
    (attributeLength : parser.attributeBuf.length = 1024)
    (valueLength : parser.valueBuf.length = 1024) :
    ∃ attributeBuf valueBuf, parser.parseMetadata pointer 1024 1024 =
        some ({
          metadata := before ++ skipped ++ token ++ 0 :: rest
          saveptr := if last = 0 then none else some ((before ++ skipped ++ token).length + 1)
          attributeBuf := attributeBuf
          valueBuf := valueBuf }, .continue) ∧
      Holds attributeBuf (bufferTexts token).1 ∧ Holds valueBuf (bufferTexts token).2 := by
  have tokenized := strtokR_token isStart isBlock delims nonempty noNul notIn stops
  obtain ⟨attributeAfter, storedAttribute, attributeLength⟩ := store_zero attributeLength
  obtain ⟨valueAfter, storedValue, valueLength⟩ := store_zero valueLength
  by_cases hasValue : attributeValueDelim ∈ token
  · obtain ⟨name, value, rfl, notInName⟩ := List.eq_append_cons_of_mem hasValue
    have found : strchr (before ++ skipped ++ (name ++ attributeValueDelim :: value) ++ 0 :: rest)
        (before ++ skipped).length attributeValueDelim =
          some (some ((before ++ skipped).length + name.length)) := by
      have found := strchr_append (before ++ skipped) (value ++ 0 :: rest)
        (fun member => noNul (by simp [member])) notInName (.inl (Eq.refl attributeValueDelim))
      rw [if_pos rfl] at found
      simpa using found
    obtain ⟨attributeBuf, valueBuf, copied, holdsAttribute, holdsValue⟩ :=
      copyAttribute_spec {
        metadata := before ++ skipped ++ (name ++ attributeValueDelim :: value) ++ 0 :: rest
        saveptr := if last = 0 then none
          else some ((before ++ skipped ++ (name ++ attributeValueDelim :: value)).length + 1)
        attributeBuf := 0 :: attributeAfter
        valueBuf := 0 :: valueAfter } rfl noNul attributeLength valueLength
    refine ⟨attributeBuf, valueBuf, ?_, ?_⟩
    · simp only [parseMetadata, tokenized, storedAttribute, storedValue, found, copied,
        Option.bind_eq_bind, Option.bind_some, Option.pure_def]
    · rw [bufferTexts, halves_append notInName]
      exact ⟨holdsAttribute, holdsValue⟩
  · have found := strchr_append (before ++ skipped) rest noNul hasValue (.inr (Eq.refl 0))
    rw [if_neg (by decide)] at found
    refine ⟨0 :: attributeAfter, 0 :: valueAfter, ?_, ?_⟩
    · simp only [parseMetadata, tokenized, storedAttribute, storedValue, found,
        Option.bind_eq_bind, Option.bind_some, Option.pure_def]
    · rw [bufferTexts, halves, if_neg hasValue]
      exact ⟨⟨by simp, _, rfl, attributeLength⟩, ⟨by simp, _, rfl, valueLength⟩⟩

/-- No token is left. -/
theorem Parser.parseMetadata_done {parser : Parser} {block : Bytes}
    (none : strtokR attributeStringDelim parser.metadata pointer parser.saveptr =
      some (block, none, none)) :
    parser.parseMetadata pointer 1024 1024 =
      some ({ parser with metadata := block, saveptr := Option.none }, .done) := by
  simp only [parseMetadata, none, Option.bind_eq_bind, Option.bind_some, Option.pure_def]

theorem isNamed_of_holds (name : Bytes) (holds : Holds buffer text) :
    isNamed name buffer = some (decide (text = name)) := by
  obtain ⟨noNul, after, rfl, -⟩ := holds
  simp only [isNamed, strlen_zero noNul, Option.bind_eq_bind, Option.bind_some, Option.pure_def]
  split
  · rename_i sameLength
    exact strncmpEq_append noNul sameLength
  · rename_i otherLength
    have isOther : text ≠ name := fun same => otherLength (congrArg List.length same)
    simp [isOther]

theorem take_eq_name_iff (field : Field) (name : Bytes) :
    name.take 1023 = field.name ↔ name = field.name := by
  have short : field.name.length < 1023 := by cases field <;> decide
  constructor
  · intro same
    have length := congrArg List.length same
    rw [List.length_take] at length
    rwa [List.take_of_length_le (by omega)] at same
  · intro same
    rw [same, List.take_of_length_le (Nat.le_of_lt short)]

section Parse

variable {α : Type} {atoi : Bytes → Int} {assign : Field → Int → α → α}

/-- A field takes from the buffers what the token gives it. -/
theorem Parser.readField_spec {parser : Parser}
    (holdsAttribute : Holds parser.attributeBuf (bufferTexts token).1)
    (holdsValue : Holds parser.valueBuf (bufferTexts token).2) (field : Field)
    (record : α) :
    parser.readField atoi assign field record =
      some (match givenValue field token with
        | some value => assign field (atoi value) record
        | none => record) := by
  have named := isNamed_of_holds field.name holdsAttribute
  obtain ⟨noNul, after, isValue, -⟩ := holdsValue
  simp only [readField, named, Option.bind_eq_bind, Option.bind_some, isValue,
    strlen_zero noNul, List.take_left, Option.pure_def]
  unfold bufferTexts givenValue
  cases halves token with
  | none =>
    have isOther : [] ≠ field.name := by cases field <;> decide
    simp [isOther]
  | some parts =>
    obtain ⟨name, value⟩ := parts
    by_cases isName : name = field.name
    · cases value with
      | nil => simp [isName]
      | cons byte value =>
        subst isName
        simp [(take_eq_name_iff field _).mpr rfl]
    · have isOther := mt (take_eq_name_iff field name).mp isName
      simp [isOther, isName]

/-- A turn of the loop that takes a token. -/
theorem parseLoop_token {parser parser' : Parser}
    (parsed : parser.parseMetadata pointer 1024 1024 = some (parser', .continue))
    (holdsAttribute : Holds parser'.attributeBuf (bufferTexts token).1)
    (holdsValue : Holds parser'.valueBuf (bufferTexts token).2) (fuel : Nat)
    (record : α) :
    parseLoop atoi assign (fuel + 1) pointer parser record =
      parseLoop atoi assign fuel none parser' (applyToken atoi assign record token) := by
  simp only [parseLoop, parsed, Option.bind_eq_bind, Option.bind_some,
    Parser.readField_spec holdsAttribute holdsValue]
  rfl

/-- The turn of the loop that finds no token. -/
theorem parseLoop_done {parser : Parser}
    (none : strtokR attributeStringDelim parser.metadata pointer parser.saveptr =
      some (parser.metadata, none, none))
    (fuel : Nat) (record : α) :
    parseLoop atoi assign (fuel + 1) pointer parser record =
      some (parser.metadata, record, 0) := by
  simp only [parseLoop, Parser.parseMetadata_done none, Option.bind_eq_bind, Option.bind_some,
    Option.pure_def]

variable (atoi assign) in
/--
From a pointer on, the loop applies the tokens of the text that is left, and it
leaves a string there whose only token is the first of them.
-/
theorem parseLoop_spec (fuel : Nat) (parser : Parser) (pointer : Option Nat)
    (before text : Bytes) (isStart : pointer.or parser.saveptr = some before.length)
    (isBlock : parser.metadata = before ++ text ++ 0 :: rest) (noNul : 0 ∉ text)
    (attributeLength : parser.attributeBuf.length = 1024)
    (valueLength : parser.valueBuf.length = 1024) (enough : text.length < fuel)
    (record : α) :
    ∃ left after, parseLoop atoi assign fuel pointer parser record =
        some (before ++ left ++ 0 :: after, (tokens text).foldl (applyToken atoi assign) record,
          0) ∧
      0 ∉ left ∧ left.length ≤ text.length ∧ tokens left = (tokens text).take 1 := by
  induction fuel generalizing parser pointer before text record with
  | zero => exact absurd enough (Nat.not_lt_zero _)
  | succ fuel inductionHypothesis =>
    cases tokenView text with
    | done delims isEmpty =>
      refine ⟨text, rest, ?_, noNul, Nat.le_refl _, by rw [isEmpty]; rfl⟩
      rw [parseLoop_done (strtokR_done isStart isBlock delims (by decide)), isBlock, isEmpty]
      rfl
    | last skipped token isText delims nonempty notIn isTokens =>
      subst isText
      have noNulToken : 0 ∉ token := fun member => noNul (by simp [member])
      obtain ⟨attributeBuf, valueBuf, parsed, holdsAttribute, holdsValue⟩ :=
        Parser.parseMetadata_token skipped token rest 0 isStart (by rw [isBlock]; simp) delims
          nonempty noNulToken notIn (.inr rfl)
          attributeLength valueLength
      rw [parseLoop_token parsed holdsAttribute holdsValue]
      have positive : fuel ≠ 0 := by
        have tokenPos := List.length_pos_of_ne_nil nonempty
        rw [List.length_append] at enough
        omega
      obtain ⟨fewer, rfl⟩ := Nat.exists_eq_succ_of_ne_zero positive
      refine ⟨skipped ++ token, rest, ?_, noNul, Nat.le_refl _, by rw [isTokens]; rfl⟩
      rw [parseLoop_done rfl, isTokens]
      simp
    | next skipped token later isText delims nonempty notIn isTokens =>
      subst isText
      have noNulToken : 0 ∉ token := fun member => noNul (by simp [member])
      have noNulLater : 0 ∉ later := fun member => noNul (by simp [member])
      obtain ⟨attributeBuf, valueBuf, parsed, holdsAttribute, holdsValue⟩ :=
        Parser.parseMetadata_token skipped token (later ++ 0 :: rest) attributeStringDelim isStart
          (by rw [isBlock]; simp) delims nonempty noNulToken notIn (.inl rfl)
          attributeLength valueLength
      obtain ⟨left, after, looped, -⟩ :=
        inductionHypothesis {
            metadata := before ++ skipped ++ token ++ 0 :: (later ++ 0 :: rest)
            saveptr := some ((before ++ skipped ++ token).length + 1)
            attributeBuf := attributeBuf
            valueBuf := valueBuf } none (before ++ skipped ++ token ++ [0]) later
          (by simp [Nat.add_assoc]) (by simp) noNulLater holdsAttribute.length_eq
          holdsValue.length_eq (by simp at enough; omega)
          (applyToken atoi assign record token)
      rw [parseLoop_token parsed holdsAttribute holdsValue]
      refine ⟨skipped ++ token, left ++ 0 :: after, ?_, fun member => noNul ?_, by simp, ?_⟩
      · rw [if_neg (by decide), looped, isTokens]
        simp
      · rcases List.mem_append.mp member with inSkipped | inToken
        · simp [inSkipped]
        · simp [inToken]
      · rw [tokens_of_delims delims, tokens_of_not_mem nonempty notIn, isTokens]
        rfl

end Parse

/-! ## The grammar -/

theorem lastValue_cons (field : Field) (token : Bytes) (later : List Bytes) :
    lastValue field (token :: later) =
      (lastValue field later).or (givenValue field token) := by
  unfold lastValue
  cases given : givenValue field token with
  | none => simp [given]
  | some value =>
    rw [List.filterMap_cons_some given, List.getLast?_cons]
    cases (later.filterMap (givenValue field)).getLast? with
    | none => rfl
    | some last => rfl

/-- A number that the last value gives, or that stays as it is. -/
theorem elim_or (atoi : Bytes → Int) (number : Int) (first second : Option Bytes) :
    (first.or second).elim number atoi = first.elim (second.elim number atoi) atoi := by
  cases first with
  | none => rfl
  | some value => rfl

/-- The record that the tokens of a text make of another one. -/
def encodeMetadata (atoi : Bytes → Int) (tokens : List Bytes) (record : VideoEncodeMetadata) :
    VideoEncodeMetadata where
  hintId := (lastValue .hintId tokens).elim record.hintId atoi
  state := (lastValue .state tokens).elim record.state atoi

/-- The record that the tokens of a text make of another one. -/
def decodeMetadata (atoi : Bytes → Int) (tokens : List Bytes) (record : VideoDecodeMetadata) :
    VideoDecodeMetadata where
  hintId := (lastValue .hintId tokens).elim record.hintId atoi
  state := (lastValue .state tokens).elim record.state atoi

theorem foldl_applyToken_encode (atoi : Bytes → Int) (tokens : List Bytes)
    (record : VideoEncodeMetadata) :
    tokens.foldl (applyToken atoi assignEncode) record = encodeMetadata atoi tokens record := by
  induction tokens generalizing record with
  | nil => rfl
  | cons token later inductionHypothesis =>
    rw [List.foldl_cons, inductionHypothesis]
    simp only [encodeMetadata, lastValue_cons, elim_or]
    simp only [applyToken, List.foldl_cons, List.foldl_nil]
    cases givenValue .hintId token <;> cases givenValue .state token <;> rfl

theorem foldl_applyToken_decode (atoi : Bytes → Int) (tokens : List Bytes)
    (record : VideoDecodeMetadata) :
    tokens.foldl (applyToken atoi assignDecode) record = decodeMetadata atoi tokens record := by
  induction tokens generalizing record with
  | nil => rfl
  | cons token later inductionHypothesis =>
    rw [List.foldl_cons, inductionHypothesis]
    simp only [decodeMetadata, lastValue_cons, elim_or]
    simp only [applyToken, List.foldl_cons, List.foldl_nil]
    cases givenValue .hintId token <;> cases givenValue .state token <;> rfl

/-- A parse of a string that is followed by other bytes. -/
theorem parseVideoEncodeMetadata_spec (atoi : Bytes → Int) (fuel : Nat)
    (locals : Locals) (rest : Bytes) (noNul : 0 ∉ text) (enough : text.length < fuel)
    (record : VideoEncodeMetadata) :
    ∃ left after, parseVideoEncodeMetadata atoi fuel locals (text ++ 0 :: rest) record =
        some (left ++ 0 :: after, encodeMetadata atoi (tokens text) record, 0) ∧
      0 ∉ left ∧ left.length ≤ text.length ∧ tokens left = (tokens text).take 1 := by
  have looped := parseLoop_spec atoi assignEncode fuel (locals.parser (text ++ 0 :: rest)) (some 0)
    [] text rfl rfl noNul locals.attributeLength locals.valueLength enough record
  rw [foldl_applyToken_encode] at looped
  exact looped

/--
The parse functions end within as many turns as the string has bytes and one,
inside the string and their two buffers, and each field becomes the value of the
last token that gives one to it.
-/
theorem parseVideoMetadata_grammar (atoi : Bytes → Int) (text : Bytes)
    (noNul : 0 ∉ text) (locals : Locals) (fuel : Nat) (enough : text.length < fuel)
    (encode : VideoEncodeMetadata) (decode : VideoDecodeMetadata) :
    (∃ block, parseVideoEncodeMetadata atoi fuel locals (text ++ [0]) encode =
      some (block, encodeMetadata atoi (tokens text) encode, 0)) ∧
    ∃ block, parseVideoDecodeMetadata atoi fuel locals (text ++ [0]) decode =
      some (block, decodeMetadata atoi (tokens text) decode, 0) := by
  constructor
  · obtain ⟨left, after, parsed, -⟩ :=
      parseVideoEncodeMetadata_spec atoi fuel locals [] noNul enough encode
    exact ⟨_, parsed⟩
  · obtain ⟨left, after, looped, -⟩ := parseLoop_spec atoi assignDecode fuel
      (locals.parser (text ++ [0])) (some 0) [] text rfl rfl noNul locals.attributeLength
      locals.valueLength enough decode
    rw [foldl_applyToken_decode] at looped
    exact ⟨_, looped⟩

/-- The number that a single digit stands for. -/
def digit (text : Bytes) : Int :=
  (text.head?.elim 0 UInt8.toNat : Nat) - 48

/-- Buffers whose bytes are all zero. -/
def zeroLocals : Locals where
  saveptr := none
  attributeBuf := .replicate 1024 0
  valueBuf := .replicate 1024 0
  attributeLength := List.length_replicate
  valueLength := List.length_replicate

/-- `state=1;;state` sets the state and leaves the hint. -/
theorem parseVideoMetadata_grammar_state :
    ∃ block, parseVideoEncodeMetadata digit 20 zeroLocals
        ([115, 116, 97, 116, 101, 61, 49, 59, 59, 115, 116, 97, 116, 101] ++ [0]) ⟨7, -1⟩ =
      some (block, ⟨7, 1⟩, 0) :=
  (parseVideoMetadata_grammar digit
    [115, 116, 97, 116, 101, 61, 49, 59, 59, 115, 116, 97, 116, 101] (by decide) zeroLocals 20
    (by decide) ⟨7, -1⟩ ⟨7, -1⟩).1

end AnglerHal.MetadataParser
