import AnglerHal.CString

namespace AnglerHal.RpmStats

open CString

/-!
# The low-power statistics of the RPM

`extract_stats` looks through the lines of a file for one parameter after the
other.  A line is that of the parameter when it starts with the name, and the
number is scanned after the first colon in the buffer of the line.  Neither the
end of the line in this buffer nor the success of the scan is looked at, so what
lies behind the line and what the variable for the number held before count.
-/

/-- A text as bytes. -/
def asciiBytes (text : String) : Bytes :=
  text.toList.map fun char => char.toNat.toUInt8

/-- `parameter_names`. -/
def parameterNames : List Bytes :=
  [asciiBytes "vlow_count", asciiBytes "accumulated_vlow_time",
    asciiBytes "vmin_count", asciiBytes "accumulated_vmin_time",
    asciiBytes "xo_accumulated_duration", asciiBytes "xo_count",
    asciiBytes "xo_accumulated_duration", asciiBytes "xo_count",
    asciiBytes "xo_accumulated_duration", asciiBytes "xo_count"]

/-- `RPM_PARAMETERS`. -/
def rpmParameters : Nat :=
  4

/-- `NUM_PARAMETERS`. -/
def numParameters : Nat :=
  10

/-- `RPM_CLK`. -/
def rpmClk : UInt64 :=
  19200

/-- A blank or a tabulator. -/
def isBlank (byte : UInt8) : Bool :=
  byte == 32 || byte == 9

/-- `:`. -/
def colon : UInt8 :=
  58

/-- The two files. -/
inductive StatsFile where
  | rpmStat
  | rpmMasterStat
  deriving DecidableEq

/--
What `getline` reads, with what is behind the NUL in its buffer, and what the
variable `value` of the loop's body holds before it is written.
-/
structure Line where
  text : Bytes
  behind : Bytes
  value : UInt64
  deriving DecidableEq

/-- The buffer of `getline`, whose size is `len`. -/
def Line.buffer (line : Line) : Bytes :=
  line.text ++ 0 :: line.behind

/-! ## `sscanf` -/

/-- The value of a digit, in hex or in decimal. -/
def digit (hex : Bool) (byte : UInt8) : Option Nat :=
  if 48 ≤ byte ∧ byte ≤ 57 then
    some (byte.toNat - 48)
  else if hex ∧ 97 ≤ byte ∧ byte ≤ 102 then
    some (byte.toNat - 87)
  else if hex ∧ 65 ≤ byte ∧ byte ≤ 70 then
    some (byte.toNat - 55)
  else
    none

/-- The digits that a text begins with. -/
def digits (hex : Bool) : Bytes → List Nat
  | [] => []
  | byte :: rest =>
    match digit hex byte with
    | none => []
    | some value => value :: digits hex rest

/-- A text without the `0x` that may stand before the digits of a hex number. -/
def withoutPrefix (hex : Bool) (text : Bytes) : Bytes :=
  match text with
  | 48 :: byte :: rest =>
    if hex ∧ (byte = 120 ∨ byte = 88) ∧ digits hex rest ≠ [] then rest else text
  | _ => text

/-- The conversions `%llx` and `%llu`: white space, a sign and at least one digit. -/
def scanNumber (hex : Bool) (text : Bytes) : Option UInt64 :=
  let text := text.dropWhile isSpace
  let unsigned := if text.head? = some 43 ∨ text.head? = some 45 then text.tail else text
  match digits hex (withoutPrefix hex unsigned) with
  | [] => none
  | first :: rest =>
    let value := (first :: rest).foldl (fun value next => value * (if hex then 16 else 10) + next) 0
    if value ≥ 18446744073709551616 then
      some 18446744073709551615
    else if text.head? = some 45 then
      some (-UInt64.ofNat value)
    else
      some (UInt64.ofNat value)

/-! ## `extract_stats` -/

/-- `RPM_MASTER_STAT` is in hex, `RPM_STAT` in decimal. -/
def StatsFile.isHex : StatsFile → Bool
  | .rpmMasterStat => true
  | .rpmStat => false

/-- Durations in `RPM_MASTER_STAT` are in ticks. -/
def scaled (file : StatsFile) (name : Bytes) (value : UInt64) : UInt64 :=
  match file with
  | .rpmMasterStat => if name = asciiBytes "xo_accumulated_duration" then value / rpmClk else value
  | .rpmStat => value

/-- `value` at the end of the loop's body: unchanged by a scan that finds no number. -/
def readValue (file : StatsFile) (name : Bytes) (line : Line) (offset : Nat) : Option UInt64 := do
  let length ← strlen line.buffer (offset + 1)
  let number := scanNumber file.isHex ((line.buffer.drop (offset + 1)).take length)
  return scaled file name (number.getD line.value)

/-- The loop of `extract_stats`. -/
def extractLoop (file : StatsFile) (parameters : Nat) :
    List Line → Nat → List UInt64 → Option (List UInt64)
  | [], _, list => some list
  | line :: rest, index, list =>
    if index < parameters then do
      let name ← parameterNames[index]?
      let start ← scan (fun byte => !isBlank byte) line.buffer
      if ← strncmpEq (line.buffer.drop start) name name.length then
        -- `memchr` looks through the whole buffer
        match line.buffer.findIdx? (· == colon) with
        | none => extractLoop file parameters rest index list
        | some offset => do
          let value ← readValue file name line offset
          if index < list.length then
            extractLoop file parameters rest (index + 1) (list.set index value)
          else
            none
      else
        extractLoop file parameters rest index list
    else
      some list

/-- `extract_stats`; `lines` is `none`, with an error, when the file cannot be opened. -/
def extractStats (list : List UInt64) (file : StatsFile) (lines : Except Int (List Line))
    (parameters index : Nat) : Option (Int × List UInt64) :=
  match lines with
  | .error errno => some (-errno, list)
  | .ok lines => do
    let list ← extractLoop file parameters lines index list
    return (0, list)

/-- `stats` of `get_platform_low_power_stats` after both files, and the return code. -/
def platformStats (rpmStat rpmMasterStat : Except Int (List Line)) :
    Option (Int × List UInt64) := do
  -- `sizeof(parameter_names)` elements, which are more than there are names
  let (ret, stats) ←
    extractStats (List.replicate 80 0) .rpmStat rpmStat rpmParameters 0
  if ret ≠ 0 then
    return (ret, stats)
  else
    extractStats stats .rpmMasterStat rpmMasterStat numParameters 4

/-! ## What the files say -/

/-- A line starts with a name, after blanks. -/
def StartsWith (name text : Bytes) : Prop :=
  name <+: text.dropWhile isBlank

instance (name text : Bytes) : Decidable (StartsWith name text) :=
  inferInstanceAs (Decidable (_ <+: _))

/-- The text behind the first colon of a line, up to a NUL. -/
def behindColon (text : Bytes) : Bytes :=
  ((text.dropWhile (· ≠ colon)).tail).takeWhile (· ≠ 0)

/-- The number that a line carries, scaled as the file requires. -/
def carried (file : StatsFile) (name text : Bytes) : Option UInt64 :=
  if colon ∈ text then
    (scanNumber file.isHex (behindColon text)).map (scaled file name)
  else
    none

/-- For each name in turn, the number on the first later line that has the name and a number. -/
def wanted (file : StatsFile) : List Bytes → List Bytes → List UInt64
  | [], _ => []
  | _, [] => []
  | text :: rest, name :: names =>
    if StartsWith name text then
      match carried file name text with
      | some value => value :: wanted file rest names
      | none => wanted file rest (name :: names)
    else
      wanted file rest (name :: names)

/-- Every line that starts with the name that is looked for at that point carries a number. -/
def Carry (file : StatsFile) : List Bytes → List Bytes → Prop
  | [], _ => True
  | _, [] => True
  | text :: rest, name :: names =>
    if StartsWith name text then
      (carried file name text).isSome ∧ Carry file rest names
    else
      Carry file rest (name :: names)

/-- A list in which some elements from an index on are replaced. -/
def replaceFrom (list : List UInt64) (index : Nat) (values : List UInt64) : List UInt64 :=
  list.take index ++ values ++ list.drop (index + values.length)

/-- The names that a call looks for. -/
def names (parameters index : Nat) : List Bytes :=
  (parameterNames.take parameters).drop index

/-- The statistics that the two files say, zero for the names that are not found. -/
def expectedStats (rpmStat rpmMasterStat : List Bytes) : List UInt64 :=
  replaceFrom (replaceFrom (List.replicate 80 0) 0
    (wanted .rpmStat rpmStat (names rpmParameters 0))) 4
      (wanted .rpmMasterStat rpmMasterStat (names numParameters 4))

/-- Whatever is behind the lines and in the variables, the statistics are what the files say. -/
def ReadsFiles (rpmStat rpmMasterStat : List Bytes) : Prop :=
  ∀ lines masterLines, lines.map Line.text = rpmStat → masterLines.map Line.text = rpmMasterStat →
    platformStats (.ok lines) (.ok masterLines) =
      some (0, expectedStats rpmStat rpmMasterStat)

/-! ## One line -/

theorem replaceFrom_nil (list : List UInt64) (index : Nat) : replaceFrom list index [] = list := by
  simp [replaceFrom]

variable {list : List UInt64} {index parameters : Nat} {name : Bytes}
  {rpmStat rpmMasterStat : List Bytes}

theorem replaceFrom_cons (isIndex : index < list.length) (value : UInt64)
    (values : List UInt64) :
    replaceFrom (list.set index value) (index + 1) values =
      replaceFrom list index (value :: values) := by
  have takeLength : (list.take index).length = index := by
    rw [List.length_take]
    omega
  have takes : (list.set index value).take (index + 1) = list.take index ++ [value] := by
    rw [List.take_set, List.take_succ_eq_append_getElem isIndex,
      List.set_append_right _ _ (Nat.le_of_eq takeLength), takeLength, Nat.sub_self,
      List.set_cons_zero]
  have drops : (list.set index value).drop (index + 1 + values.length) =
      list.drop (index + (value :: values).length) := by
    rw [List.drop_set_of_lt (by omega), List.length_cons, Nat.add_right_comm, Nat.add_assoc]
  rw [replaceFrom, replaceFrom, takes, drops]
  simp

theorem name_noNul (isName : name ∈ parameterNames) : 0 ∉ name := by
  have all : ∀ name ∈ parameterNames, 0 ∉ name := by decide
  exact all name isName

section OneLine

variable {file : StatsFile} {line : Line} {rest : List Line}

/-- The comparison of a line with a name. -/
theorem compare_name (line : Line) (noNul : 0 ∉ name) :
    (do
      let start ← scan (fun byte => !isBlank byte) line.buffer
      strncmpEq (line.buffer.drop start) name name.length) =
      some (decide (StartsWith name line.text)) := by
  have scanned : scan (fun byte => !isBlank byte) line.buffer =
      some (line.text.takeWhile isBlank).length := by
    rw [Line.buffer, scan_takeWhile line.text line.behind (by decide)]
    simp
  have dropped : line.buffer.drop (line.text.takeWhile isBlank).length =
      line.text.dropWhile isBlank ++ 0 :: line.behind := by
    calc line.buffer.drop (line.text.takeWhile isBlank).length
        = ((line.text.takeWhile isBlank ++ line.text.dropWhile isBlank) ++
            0 :: line.behind).drop (line.text.takeWhile isBlank).length := by
          rw [List.takeWhile_append_dropWhile, Line.buffer]
      _ = line.text.dropWhile isBlank ++ 0 :: line.behind := by
          rw [List.append_assoc, List.drop_left]
  rw [scanned]
  simp only [Option.bind_eq_bind, Option.bind_some, dropped]
  exact strncmpEq_name _ _ noNul

/-- One turn of the loop, with the comparison made. -/
theorem extractLoop_cons (file : StatsFile) (list : List UInt64) (line : Line) (rest : List Line)
    (isName : (parameterNames.take parameters)[index]? = some name) :
    extractLoop file parameters (line :: rest) index list =
      if StartsWith name line.text then
        match line.buffer.findIdx? (· == colon) with
        | none => extractLoop file parameters rest index list
        | some offset => do
          let value ← readValue file name line offset
          if index < list.length then
            extractLoop file parameters rest (index + 1) (list.set index value)
          else
            none
      else
        extractLoop file parameters rest index list := by
  rw [List.getElem?_take] at isName
  split at isName
  next isIndex =>
    have compared := compare_name line (name_noNul (List.mem_of_getElem? isName))
    rw [extractLoop, if_pos isIndex, isName]
    simp only [Option.bind_eq_bind, Option.bind_some] at compared ⊢
    obtain ⟨start, scanned, equal⟩ := Option.bind_eq_some_iff.mp compared
    simp only [scanned, equal, Option.bind_some, decide_eq_true_eq]
  next => cases isName

/-- The colon of a line is found before what is behind the line. -/
theorem exists_offset (file : StatsFile) (name : Bytes) (isIn : colon ∈ line.text) :
    ∃ offset, line.buffer.findIdx? (· == colon) = some offset ∧
      readValue file name line offset =
        some ((carried file name line.text).getD (scaled file name line.value)) := by
  obtain ⟨before, after, isText, notIn⟩ := List.eq_append_cons_of_mem isIn
  have isBuffer : line.buffer = before ++ colon :: (after ++ 0 :: line.behind) := by
    rw [Line.buffer, isText, List.append_assoc, List.cons_append]
  have notFound : before.findIdx? (· == colon) = none := by
    rw [List.findIdx?_eq_none_iff]
    intro byte member
    have isOther : byte ≠ colon := fun same => notIn (same ▸ member)
    simpa using isOther
  have found : line.buffer.findIdx? (· == colon) = some before.length := by
    rw [isBuffer, List.findIdx?_append, notFound]
    simp [List.findIdx?_cons]
  have dropped : line.buffer.drop (before.length + 1) = after ++ 0 :: line.behind := by
    rw [isBuffer, ← List.drop_drop, List.drop_left, List.drop_succ_cons, List.drop_zero]
  have tail : behindColon line.text = after.takeWhile (· ≠ 0) := by
    have passes : ∀ byte ∈ before, decide (byte ≠ colon) = true := by
      intro byte member
      have isOther : byte ≠ colon := fun same => notIn (same ▸ member)
      simpa using isOther
    rw [behindColon, isText, List.dropWhile_append_of_pos passes]
    simp
  have length : strlen line.buffer (before.length + 1) =
      some (behindColon line.text).length := by
    have samePredicate : (fun byte : UInt8 => !byte == 0) = fun byte => decide (byte ≠ 0) := by
      funext byte
      by_cases zero : byte = 0
      · simp [zero]
      · simp [zero]
    rw [strlen, dropped, scan_takeWhile after line.behind rfl, tail, samePredicate]
  have taken : (line.buffer.drop (before.length + 1)).take (behindColon line.text).length =
      behindColon line.text := by
    have isPrefix : behindColon line.text <+: after ++ 0 :: line.behind := by
      rw [tail]
      exact (List.takeWhile_prefix _).trans (List.prefix_append _ _)
    rw [dropped]
    exact (List.prefix_iff_eq_take.mp isPrefix).symm
  refine ⟨before.length, found, ?_⟩
  rw [readValue, length, carried, if_pos isIn]
  simp only [Option.bind_eq_bind, Option.bind_some, taken]
  cases scanNumber file.isHex (behindColon line.text) with
  | none => rfl
  | some number => rfl

/-- A line with another name is skipped. -/
theorem extractLoop_skip (file : StatsFile) (list : List UInt64) (rest : List Line)
    (isName : (parameterNames.take parameters)[index]? = some name)
    (isOther : ¬ StartsWith name line.text) :
    extractLoop file parameters (line :: rest) index list =
      extractLoop file parameters rest index list := by
  rw [extractLoop_cons file list line rest isName, if_neg isOther]

/-- A line with the name and a colon is used. -/
theorem extractLoop_take (file : StatsFile) (rest : List Line)
    (isName : (parameterNames.take parameters)[index]? = some name)
    (isIndex : index < list.length) (starts : StartsWith name line.text)
    (isIn : colon ∈ line.text) :
    extractLoop file parameters (line :: rest) index list =
      extractLoop file parameters rest (index + 1)
        (list.set index ((carried file name line.text).getD (scaled file name line.value))) := by
  obtain ⟨offset, found, read⟩ := exists_offset file name isIn
  rw [extractLoop_cons file list line rest isName, if_pos starts, found]
  simp [read, isIndex]

end OneLine

/-! ## The whole file -/

/-- The names that are left at an index. -/
theorem names_cons (isName : (parameterNames.take parameters)[index]? = some name) :
    names parameters index = name :: names parameters (index + 1) := by
  obtain ⟨isIndex, rfl⟩ := List.getElem?_eq_some_iff.mp isName
  exact List.drop_eq_getElem_cons isIndex

theorem getElem?_of_names {rest : List Bytes}
    (left : names parameters index = name :: rest) :
    (parameterNames.take parameters)[index]? = some name ∧ names parameters (index + 1) = rest := by
  have isName : (parameterNames.take parameters)[index]? = some name := by
    have atZero : (names parameters index)[0]? = some name := by
      rw [left]
      rfl
    simpa [names] using atZero
  have same := (names_cons isName).symm.trans left
  exact ⟨isName, (List.cons.inj same).2⟩

/-- No name is left once the index has reached the number of parameters. -/
theorem extractLoop_done {file : StatsFile} (lines : List Line)
    (few : parameters ≤ numParameters) (left : names parameters index = []) :
    extractLoop file parameters lines index list = some list := by
  have isDone : parameters ≤ index := by
    have length : parameterNames.length = numParameters := rfl
    rw [names, List.drop_eq_nil_iff, List.length_take, length] at left
    omega
  cases lines with
  | nil => rfl
  | cons line rest => rw [extractLoop, if_neg (Nat.not_lt.mpr isDone)]

section WholeFile

variable {file : StatsFile}

/-- Where every line that counts carries a number, the list is filled with those numbers. -/
theorem extractLoop_of_carry (few : parameters ≤ numParameters) (lines : List Line)
    (index : Nat) (list : List UInt64) (room : parameters ≤ list.length)
    (carry : Carry file (lines.map Line.text) (names parameters index)) :
    extractLoop file parameters lines index list =
      some (replaceFrom list index
        (wanted file (lines.map Line.text) (names parameters index))) := by
  induction lines generalizing index list with
  | nil => rw [extractLoop, List.map_nil, wanted, replaceFrom_nil]
  | cons line rest inductionHypothesis =>
    cases left : names parameters index with
    | nil => simp only [extractLoop_done _ few left, List.map_cons, wanted, replaceFrom_nil]
    | cons name later =>
      obtain ⟨isName, rfl⟩ := getElem?_of_names left
      rw [List.map_cons, left, Carry] at carry
      rw [List.map_cons, wanted]
      by_cases starts : StartsWith name line.text
      · rw [if_pos starts] at carry ⊢
        obtain ⟨number, isNumber⟩ := Option.isSome_iff_exists.mp carry.1
        have isIn : colon ∈ line.text := by
          by_contra notIn
          rw [carried, if_neg notIn] at isNumber
          cases isNumber
        have isIndex : index < list.length := by
          have inTake := (List.getElem?_eq_some_iff.mp isName).1
          rw [List.length_take] at inTake
          omega
        have filled := inductionHypothesis (index + 1) (list.set index number)
          (by rw [List.length_set]; exact room) carry.2
        rw [extractLoop_take file rest isName isIndex starts isIn, isNumber, Option.getD_some,
          filled, replaceFrom_cons isIndex]
      · rw [if_neg starts] at carry ⊢
        rw [extractLoop_skip file list rest isName starts]
        rw [← left] at carry ⊢
        exact inductionHypothesis index list room carry

/-- What precedes the index is not touched. -/
theorem extractLoop_before (few : parameters ≤ numParameters) {lines : List Line}
    {position : Nat} {result : List UInt64} (isBefore : position < index)
    (run : extractLoop file parameters lines index list = some result) :
    result[position]? = list[position]? := by
  induction lines generalizing index list with
  | nil =>
    rw [extractLoop] at run
    rw [Option.some.inj run]
  | cons line rest inductionHypothesis =>
    cases left : names parameters index with
    | nil =>
      rw [extractLoop_done _ few left] at run
      rw [Option.some.inj run]
    | cons name later =>
      obtain ⟨isName, -⟩ := getElem?_of_names left
      rw [extractLoop_cons file list line rest isName] at run
      split at run
      next =>
        split at run
        next => exact inductionHypothesis isBefore run
        next offset =>
          obtain ⟨value, -, run⟩ := Option.bind_eq_some_iff.mp run
          split at run
          next =>
            rw [inductionHypothesis (Nat.lt_succ_of_lt isBefore) run,
              List.getElem?_set_ne (Nat.ne_of_gt isBefore)]
          next => cases run
      next => exact inductionHypothesis isBefore run

/-- Some content of the variable becomes another number than the expected one. -/
theorem exists_other (file : StatsFile) (name : Bytes) (expected : Option UInt64) :
    ∃ value, some (scaled file name value) ≠ expected := by
  have apart : scaled file name 0 ≠ scaled file name rpmClk := by
    cases file with
    | rpmStat =>
      simp only [scaled]
      decide
    | rpmMasterStat =>
      by_cases isDuration : name = asciiBytes "xo_accumulated_duration"
      · simp only [scaled, if_pos isDuration]
        decide
      · simp only [scaled, if_neg isDuration]
        decide
  by_cases same : some (scaled file name 0) = expected
  · refine ⟨rpmClk, fun other => apart ?_⟩
    exact Option.some.inj (same.trans other.symm)
  · exact ⟨0, same⟩

/-- Lines with nothing behind them. -/
def plainLines (texts : List Bytes) : List Line :=
  texts.map fun text => ⟨text, [], 0⟩

theorem plainLines_text (texts : List Bytes) : (plainLines texts).map Line.text = texts := by
  rw [plainLines, List.map_map]
  exact List.map_id _

/-- A first line that counts and carries no number may spoil the entry at its index. -/
theorem exists_spoiled (texts : List Bytes) (index : Nat) (list : List UInt64)
    (few : parameters ≤ numParameters) (room : parameters ≤ list.length)
    (expected : List UInt64) {text : Bytes}
    (isName : (parameterNames.take parameters)[index]? = some name)
    (starts : StartsWith name text) (empty : carried file name text = none) :
    ∃ lines, lines.map Line.text = text :: texts ∧
      ∀ result, extractLoop file parameters lines index list = some result →
        ∃ position, position < parameters ∧ result[position]? ≠ expected[position]? := by
  have inTake := (List.getElem?_eq_some_iff.mp isName).1
  rw [List.length_take] at inTake
  have isIndex : index < list.length := by omega
  by_cases isIn : colon ∈ text
  · obtain ⟨value, isOther⟩ := exists_other file name expected[index]?
    refine ⟨⟨text, [], value⟩ :: plainLines texts, by rw [List.map_cons, plainLines_text], ?_⟩
    intro result run
    rw [extractLoop_take file (plainLines texts) isName isIndex starts isIn, empty,
      Option.getD_none] at run
    refine ⟨index, by omega, ?_⟩
    rw [extractLoop_before few (Nat.lt_succ_self index) run, List.getElem?_set_self isIndex]
    exact isOther
  · -- a colon behind the line, and no end of string behind that
    refine ⟨⟨text, [colon], 0⟩ :: plainLines texts, by rw [List.map_cons, plainLines_text], ?_⟩
    intro result run
    exfalso
    have notFound : text.findIdx? (· == colon) = none := by
      rw [List.findIdx?_eq_none_iff]
      intro byte member
      have isOther : byte ≠ colon := fun same => isIn (same ▸ member)
      simpa using isOther
    have found : (Line.mk text [colon] 0).buffer.findIdx? (· == colon) =
        some (text.length + 1) := by
      rw [Line.buffer, List.findIdx?_append, notFound]
      simp [List.findIdx?_cons, colon, Nat.add_comm]
    have beyond : strlen (Line.mk text [colon] 0).buffer (text.length + 1 + 1) = none := by
      have isEnd : (Line.mk text [colon] 0).buffer.length ≤ text.length + 1 + 1 := by
        simp [Line.buffer]
      rw [strlen, List.drop_eq_nil_of_le isEnd]
      rfl
    rw [extractLoop_cons file list _ _ isName, if_pos starts, found] at run
    simp [readValue, beyond] at run

/-- Where some line that counts carries no number, the list may differ from what is expected. -/
theorem exists_lines_of_not_carry (few : parameters ≤ numParameters)
    (texts : List Bytes) (index : Nat) (list expected : List UInt64)
    (room : parameters ≤ list.length)
    (bad : ¬ Carry file texts (names parameters index)) :
    ∃ lines, lines.map Line.text = texts ∧
      ∀ result, extractLoop file parameters lines index list = some result →
        ∃ position, position < parameters ∧ result[position]? ≠ expected[position]? := by
  induction texts generalizing index list with
  | nil => exact absurd trivial bad
  | cons text texts inductionHypothesis =>
    cases left : names parameters index with
    | nil =>
      rw [left] at bad
      exact absurd trivial bad
    | cons name later =>
      obtain ⟨isName, rfl⟩ := getElem?_of_names left
      rw [left, Carry] at bad
      by_cases starts : StartsWith name text
      · rw [if_pos starts, not_and] at bad
        cases isNumber : carried file name text with
        | none =>
          exact exists_spoiled texts index list few room expected isName starts isNumber
        | some number =>
          have laterBad := bad (by rw [isNumber]; rfl)
          have isIn : colon ∈ text := by
            by_contra notIn
            rw [carried, if_neg notIn] at isNumber
            cases isNumber
          have isIndex : index < list.length := by
            have inTake := (List.getElem?_eq_some_iff.mp isName).1
            rw [List.length_take] at inTake
            omega
          obtain ⟨lines, isText, spoiled⟩ := inductionHypothesis (index + 1)
            (list.set index number) (by rw [List.length_set]; exact room) laterBad
          refine ⟨⟨text, [], 0⟩ :: lines, by rw [List.map_cons, isText], fun result run => ?_⟩
          rw [extractLoop_take file lines isName isIndex starts isIn, isNumber,
            Option.getD_some] at run
          exact spoiled result run
      · rw [if_neg starts, ← left] at bad
        obtain ⟨lines, isText, spoiled⟩ := inductionHypothesis index list room bad
        refine ⟨⟨text, [], 0⟩ :: lines, by rw [List.map_cons, isText], fun result run => ?_⟩
        rw [extractLoop_skip file list lines isName starts] at run
        exact spoiled result run

end WholeFile

/-! ## Both files -/

theorem platformStats_ok (lines masterLines : List Line) :
    platformStats (.ok lines) (.ok masterLines) =
      (extractLoop .rpmStat rpmParameters lines 0 (List.replicate 80 0)).bind fun stats =>
        (extractLoop .rpmMasterStat numParameters masterLines 4 stats).map fun stats =>
          (0, stats) := by
  rw [platformStats, extractStats]
  cases extractLoop .rpmStat rpmParameters lines 0 (List.replicate 80 0) with
  | none => rfl
  | some stats =>
    simp only [Option.bind_eq_bind, Option.bind_some, Option.pure_def, extractStats,
      Option.map_eq_bind]
    rfl

/-- No more numbers are found than there are names. -/
theorem length_wanted (file : StatsFile) (texts rest : List Bytes) :
    (wanted file texts rest).length ≤ rest.length := by
  induction texts generalizing rest with
  | nil => simp [wanted]
  | cons text texts inductionHypothesis =>
    cases rest with
    | nil => simp [wanted]
    | cons name rest =>
      rw [wanted]
      split
      next =>
        split
        next => exact Nat.succ_le_succ (inductionHypothesis rest)
        next => exact inductionHypothesis (name :: rest)
      next => exact inductionHypothesis (name :: rest)

/-- The list after the first file. -/
def afterRpmStat (rpmStat : List Bytes) : List UInt64 :=
  replaceFrom (List.replicate 80 0) 0 (wanted .rpmStat rpmStat (names rpmParameters 0))

theorem length_afterRpmStat (rpmStat : List Bytes) : (afterRpmStat rpmStat).length = 80 := by
  have few := length_wanted .rpmStat rpmStat (names rpmParameters 0)
  have four : (names rpmParameters 0).length = 4 := rfl
  simp only [afterRpmStat, replaceFrom, List.length_append, List.length_take, List.length_drop,
    List.length_replicate]
  omega

theorem platformStats_of_carry (lines masterLines : List Line)
    (carry : Carry .rpmStat (lines.map Line.text) (names rpmParameters 0))
    (masterCarry :
      Carry .rpmMasterStat (masterLines.map Line.text) (names numParameters 4)) :
    platformStats (.ok lines) (.ok masterLines) =
      some (0, expectedStats (lines.map Line.text) (masterLines.map Line.text)) := by
  have first := extractLoop_of_carry (by decide) lines 0 (List.replicate 80 0) (by decide) carry
  have second := extractLoop_of_carry (Nat.le_refl _) masterLines 4
    (afterRpmStat (lines.map Line.text)) (by rw [length_afterRpmStat]; decide) masterCarry
  rw [afterRpmStat] at second
  rw [platformStats_ok, first, Option.bind_some, second]
  rfl

theorem carry_of_reads (reads : ReadsFiles rpmStat rpmMasterStat) :
    Carry .rpmStat rpmStat (names rpmParameters 0) := by
  by_contra bad
  obtain ⟨lines, isText, spoiled⟩ := exists_lines_of_not_carry (by decide) rpmStat 0
    (List.replicate 80 0) (expectedStats rpmStat rpmMasterStat) (by decide) bad
  have read := reads lines (plainLines rpmMasterStat) isText (plainLines_text _)
  rw [platformStats_ok] at read
  obtain ⟨stats, first, read⟩ := Option.bind_eq_some_iff.mp read
  obtain ⟨result, second, read⟩ := Option.map_eq_some_iff.mp read
  obtain ⟨position, isBefore, differs⟩ := spoiled stats first
  -- the second file does not touch what the first one has spoiled
  have kept := extractLoop_before (Nat.le_refl _) isBefore second
  rw [(Prod.mk.inj read).2] at kept
  exact differs kept.symm

theorem masterCarry_of_reads (reads : ReadsFiles rpmStat rpmMasterStat) :
    Carry .rpmMasterStat rpmMasterStat (names numParameters 4) := by
  by_contra bad
  obtain ⟨masterLines, isText, spoiled⟩ := exists_lines_of_not_carry (Nat.le_refl _)
    rpmMasterStat 4 (afterRpmStat rpmStat) (expectedStats rpmStat rpmMasterStat)
    (by rw [length_afterRpmStat]; decide) bad
  have read := reads (plainLines rpmStat) masterLines (plainLines_text _) isText
  have few : rpmParameters ≤ numParameters := by decide
  have room : rpmParameters ≤ (List.replicate 80 (0 : UInt64)).length := by decide
  have first := extractLoop_of_carry few (plainLines rpmStat) 0 (List.replicate 80 0) room
    (by rw [plainLines_text]; exact carry_of_reads reads)
  rw [plainLines_text] at first
  rw [platformStats_ok, first, Option.bind_some] at read
  obtain ⟨result, second, read⟩ := Option.map_eq_some_iff.mp read
  obtain ⟨position, -, differs⟩ := spoiled result second
  exact differs (by rw [(Prod.mk.inj read).2])

/--
The statistics are what the files say, whatever is behind their lines and in the
variables, exactly when every line that is looked at under its name carries a number.
-/
theorem readsFiles_iff (rpmStat rpmMasterStat : List Bytes) :
    ReadsFiles rpmStat rpmMasterStat ↔
      Carry .rpmStat rpmStat (names rpmParameters 0) ∧
        Carry .rpmMasterStat rpmMasterStat (names numParameters 4) := by
  constructor
  · intro reads
    exact ⟨carry_of_reads reads, masterCarry_of_reads reads⟩
  · rintro ⟨carry, masterCarry⟩ lines masterLines rfl rfl
    exact platformStats_of_carry lines masterLines carry masterCarry

/-- A line without a number hands out what the variable held. -/
theorem readsFiles_garbage :
    platformStats (.ok [⟨asciiBytes "vlow_count: -", [], 7⟩]) (.ok []) =
        some (0, 7 :: List.replicate 79 0) ∧
      ¬ ∀ rpmStat rpmMasterStat, ReadsFiles rpmStat rpmMasterStat := by
  have read : platformStats (.ok [⟨asciiBytes "vlow_count: -", [], 7⟩]) (.ok []) =
      some (0, 7 :: List.replicate 79 0) := by
    decide
  refine ⟨read, fun all => ?_⟩
  have wrong := all [asciiBytes "vlow_count: -"] [] [⟨asciiBytes "vlow_count: -", [], 7⟩] [] rfl rfl
  rw [read] at wrong
  revert wrong
  decide

end AnglerHal.RpmStats
