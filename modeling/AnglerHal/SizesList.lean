import AnglerHal.HalCommon
import AnglerHal.Strtol

namespace AnglerHal.SizesList

open CString Strtol

/-!
# Lists of sizes

A list of sizes is written with commas between its items, and `parseSizesList`
reads it again.  `parse_pair` returns `BAD_VALUE` for what is no pair and leaves
its arguments as they are; the caller looks for another code, so the variables
count, which hold anything at the begin of a turn.
-/

/-- `cam_dimension_t`, and `Size` as well. -/
structure CamDimension where
  width : Int32
  height : Int32
  deriving DecidableEq

/-- `cam_hfr_info_t`, as far as its sizes go. -/
structure CamHfrInfo where
  dim : CamDimension
  deriving DecidableEq

/-- The delimiter of a pair. -/
def delimX : UInt8 :=
  120

/-- `snprintf` of a size into 32 bytes. -/
def printSize (before : Bytes) (size : CamDimension) : Bytes :=
  (before ++ decimal size.width ++ delimX :: decimal size.height).take 31

/-- `QCameraParameters::createSizesString`. -/
def createSizesString : List CamDimension → Bytes
  | [] => []
  | first :: rest => printSize [] first ++ rest.flatMap (printSize [comma])

/-- `QCameraParameters::createHfrSizesString`. -/
def createHfrSizesString (values : List CamHfrInfo) : Bytes :=
  createSizesString (values.map CamHfrInfo.dim)

/-- `QCameraParameters::parse_pair`: the code, the two values and where `endptr` is. -/
def parsePair (long : LongSize) (str : Bytes) (first second : Int32) (delim : UInt8)
    (endptr : Bytes) :
    Int × Int32 × Int32 × Bytes :=
  let (w, rest) := strtolInt long str
  if rest.head? ≠ some delim then
    (badValue, first, second, endptr)
  else
    let (h, rest) := strtolInt long rest.tail
    (noError, w, h, rest)

/-- The loop of `parseSizesList`; `uninit` is what the variables of a turn hold. -/
def parseSizesLoop (long : LongSize) (uninit : Bytes → CamDimension) :
    Nat → Bytes → Option (List CamDimension)
  | 0, _ => none
  | fuel + 1, start =>
    let (success, width, height, sizeStartPtr) :=
      parsePair long start (uninit start).width (uninit start).height delimX start
    if success = -1 ∨ (sizeStartPtr.head? ≠ some comma ∧ sizeStartPtr ≠ []) then
      some []
    else if sizeStartPtr = [] then
      some [⟨width, height⟩]
    else
      (parseSizesLoop long uninit fuel sizeStartPtr.tail).map (⟨width, height⟩ :: ·)

/-- `QCameraParameters::parseSizesList`, with the sizes that it pushes. -/
def parseSizesList (long : LongSize) (uninit : Bytes → CamDimension) (fuel : Nat)
    (sizesStr : Option Bytes) :
    Option (List CamDimension) :=
  match sizesStr with
  | none => some []
  | some text => parseSizesLoop long uninit fuel text

/-! ## What a string says -/

/-- The size at the begin of a text, and what is behind it. -/
def sizeItem (text : Bytes) : Option (CamDimension × Bytes) := do
  let (width, rest) ← numeral text
  guard (rest.head? = some delimX)
  let (height, rest) ← numeral rest.tail
  guard (FitsInt width ∧ FitsInt height)
  return (⟨.ofInt width, .ofInt height⟩, rest)

/-- The sizes that a text lists up to its first malformed item. -/
inductive Written : Bytes → List CamDimension → Prop where
  | malformed {text} (noItem : sizeItem text = none) : Written text []
  | spoiled {text size byte rest} (isItem : sizeItem text = some (size, byte :: rest))
      (isOther : byte ≠ comma) :
      Written text []
  | last {text size} (isItem : sizeItem text = some (size, [])) : Written text [size]
  | next {text size rest sizes} (isItem : sizeItem text = some (size, comma :: rest))
      (others : Written rest sizes) :
      Written text (size :: sizes)

/-- The string ends the parser, which pushes the sizes that are written in it. -/
def ParsesWritten (long : LongSize) (text : Bytes) : Prop :=
  ∃ sizes, Written text sizes ∧ ∀ uninit fuel, text.length < fuel →
    parseSizesList long uninit fuel (some text) = some sizes

/-- The string made of some sizes is parsed into them. -/
def RoundTrips (long : LongSize) (text : Bytes) (table : List CamDimension) : Prop :=
  ∀ uninit fuel, text.length < fuel →
    parseSizesList long uninit fuel (some text) = some table

/-- What is behind a number, or the text itself. -/
def behindNumber (text : Bytes) : Bytes :=
  ((numeral text).map Prod.snd).getD text

/-- Where the parser looks for a comma after an item. -/
def behindItem (text : Bytes) : Bytes :=
  if (behindNumber text).head? = some delimX then
    behindNumber (behindNumber text).tail
  else
    text

/--
Every item that is followed by a comma or by the end has two numbers that an `int`
holds, up to an item that is followed by something else.
-/
inductive Clean : Bytes → Prop where
  | halts {text byte rest} (isBehind : behindItem text = byte :: rest) (isOther : byte ≠ comma) :
      Clean text
  | last {text size} (isItem : sizeItem text = some (size, [])) : Clean text
  | next {text size rest} (isItem : sizeItem text = some (size, comma :: rest))
      (others : Clean rest) :
      Clean text

/-! ## One item -/

section Item

variable {long : LongSize} {text rest : Bytes} {size : CamDimension}
  {uninit : Bytes → CamDimension} {fuel : Nat}

theorem strtolInt_behind (long : LongSize) (text : Bytes) :
    (strtolInt long text).2 = behindNumber text := by
  cases isNumber : numeral text with
  | none => simp [strtolInt_of_none isNumber, behindNumber, isNumber]
  | some number =>
    obtain ⟨value, rest⟩ := number
    rw [strtolInt_snd isNumber]
    simp [behindNumber, isNumber]

theorem of_guard {holds : Prop} [Decidable holds] {passes : Unit}
    (passed : (guard holds : Option Unit) = some passes) : holds := by
  by_contra fails
  rw [guard, if_neg fails] at passed
  cases passed

theorem sizeItem_spec (isItem : sizeItem text = some (size, rest)) :
    ∃ width height middle, numeral text = some (width, delimX :: middle) ∧
      numeral middle = some (height, rest) ∧ FitsInt width ∧ FitsInt height ∧
      size = ⟨.ofInt width, .ofInt height⟩ := by
  obtain ⟨⟨width, tail⟩, isWidth, isItem⟩ := Option.bind_eq_some_iff.mp isItem
  obtain ⟨_, delim, isItem⟩ := Option.bind_eq_some_iff.mp isItem
  obtain ⟨⟨height, rest'⟩, isHeight, isItem⟩ := Option.bind_eq_some_iff.mp isItem
  obtain ⟨_, fits, same⟩ := Option.bind_eq_some_iff.mp isItem
  have isDelim : tail.head? = some delimX := of_guard delim
  obtain ⟨fitsWidth, fitsHeight⟩ := of_guard fits
  obtain ⟨rfl, rfl⟩ := Prod.mk.inj (Option.some.inj same)
  obtain ⟨middle, rfl⟩ := List.head?_eq_some_iff.mp isDelim
  exact ⟨width, height, middle, isWidth, isHeight, fitsWidth, fitsHeight, rfl⟩

theorem behindNumber_of_numeral {value : Int} (isNumber : numeral text = some (value, rest)) :
    behindNumber text = rest := by
  simp [behindNumber, isNumber]

theorem behindItem_of_sizeItem (isItem : sizeItem text = some (size, rest)) :
    behindItem text = rest := by
  obtain ⟨width, height, middle, isWidth, isHeight, -, -, -⟩ := sizeItem_spec isItem
  rw [behindItem, behindNumber_of_numeral isWidth, List.head?_cons, if_pos rfl, List.tail_cons,
    behindNumber_of_numeral isHeight]

theorem length_of_sizeItem (isItem : sizeItem text = some (size, rest)) :
    rest.length < text.length := by
  obtain ⟨width, height, middle, isWidth, isHeight, -, -, -⟩ := sizeItem_spec isItem
  have first := length_of_numeral isWidth
  have second := length_of_numeral isHeight
  rw [List.length_cons] at first
  omega

/-- One turn: the parser halts, or it pushes a size, that of the item if there is one. -/
theorem parseSizesLoop_succ (long : LongSize) (uninit : Bytes → CamDimension) (fuel : Nat)
    (text : Bytes) :
    ∃ pushed, (∀ size rest, sizeItem text = some (size, rest) → pushed = size) ∧
      parseSizesLoop long uninit (fuel + 1) text =
        match behindItem text with
        | [] => some [pushed]
        | byte :: rest =>
          if byte = comma then
            (parseSizesLoop long uninit fuel rest).map (pushed :: ·)
          else
            some [] := by
  by_cases isDelim : (behindNumber text).head? = some delimX
  · refine ⟨⟨(strtolInt long text).1, (strtolInt long (behindNumber text).tail).1⟩, ?_, ?_⟩
    · intro size rest isItem
      obtain ⟨width, height, middle, isWidth, isHeight, fitsWidth, fitsHeight, rfl⟩ :=
        sizeItem_spec isItem
      rw [behindNumber_of_numeral isWidth, List.tail_cons, strtolInt_of_fits isWidth fitsWidth,
        strtolInt_of_fits isHeight fitsHeight]
    · simp only [parseSizesLoop, parsePair, strtolInt_behind, isDelim, behindItem, ne_eq,
        not_true_eq_false, if_false, if_true]
      rcases behindNumber (behindNumber text).tail with _ | ⟨byte, rest⟩
      · simp [noError]
      · by_cases isComma : byte = comma <;> simp [noError, isComma]
  · refine ⟨uninit text, ?_, ?_⟩
    · intro size rest isItem
      obtain ⟨width, height, middle, isWidth, -, -, -, -⟩ := sizeItem_spec isItem
      rw [behindNumber_of_numeral isWidth] at isDelim
      exact absurd rfl isDelim
    · simp only [parseSizesLoop, parsePair, strtolInt_behind, isDelim, behindItem, ne_eq,
        not_false_eq_true, if_true, if_false]
      rcases text with _ | ⟨byte, rest⟩
      · simp [badValue]
      · by_cases isComma : byte = comma <;> simp [badValue, isComma]

end Item

/-! ## Whole strings -/

section Strings

variable {long : LongSize} {text : Bytes} {sizes : List CamDimension}
  {uninit : Bytes → CamDimension} {fuel : Nat}

/-- Every string says what its sizes are. -/
theorem exists_written (text : Bytes) : ∃ sizes, Written text sizes := by
  induction bound : text.length using Nat.strong_induction_on generalizing text with
  | _ length inductionHypothesis =>
    cases isItem : sizeItem text with
    | none => exact ⟨[], .malformed isItem⟩
    | some item =>
      obtain ⟨size, _ | ⟨byte, rest⟩⟩ := item
      · exact ⟨[size], .last isItem⟩
      · by_cases isComma : byte = comma
        · subst isComma
          have shorter := length_of_sizeItem isItem
          rw [List.length_cons] at shorter
          obtain ⟨sizes, written⟩ := inductionHypothesis rest.length (by omega) rest rfl
          exact ⟨size :: sizes, .next isItem written⟩
        · exact ⟨[], .spoiled isItem isComma⟩

/-- Induction on the items: a clean string is parsed into what it says. -/
theorem Clean.parses (clean : Clean text) (written : Written text sizes)
    (enough : text.length < fuel) :
    parseSizesLoop long uninit fuel text = some sizes := by
  obtain ⟨fuel, rfl⟩ : ∃ turns, fuel = turns + 1 := ⟨fuel - 1, by omega⟩
  induction clean generalizing sizes fuel with
  | @halts text byte rest isBehind isOther =>
    obtain ⟨pushed, -, turn⟩ := parseSizesLoop_succ long uninit fuel text
    simp only [turn, isBehind, isOther, if_false]
    cases written with
    | malformed => rfl
    | spoiled => rfl
    | last isItem =>
      rw [behindItem_of_sizeItem isItem] at isBehind
      cases isBehind
    | next isItem =>
      rw [behindItem_of_sizeItem isItem] at isBehind
      exact absurd (List.cons.inj isBehind).1.symm isOther
  | @last text size isItem =>
    obtain ⟨pushed, isSize, turn⟩ := parseSizesLoop_succ long uninit fuel text
    obtain rfl := isSize _ _ isItem
    rw [turn, behindItem_of_sizeItem isItem]
    cases written with
    | malformed noItem => rw [isItem] at noItem; cases noItem
    | spoiled other => rw [isItem] at other; cases other
    | last other => rw [isItem] at other; cases other; rfl
    | next other => rw [isItem] at other; cases other
  | @next text size rest isItem others inductionHypothesis =>
    obtain ⟨pushed, isSize, turn⟩ := parseSizesLoop_succ long uninit fuel text
    obtain rfl := isSize _ _ isItem
    rw [turn, behindItem_of_sizeItem isItem]
    have shorter := length_of_sizeItem isItem
    rw [List.length_cons] at shorter
    obtain ⟨turns, rfl⟩ : ∃ turns, fuel = turns + 1 := ⟨fuel - 1, by omega⟩
    cases written with
    | malformed noItem => rw [isItem] at noItem; cases noItem
    | spoiled other isOther =>
      rw [isItem] at other
      cases other
      exact absurd rfl isOther
    | last other => rw [isItem] at other; cases other
    | next other written =>
      rw [isItem] at other
      cases other
      simp [inductionHypothesis written turns (by omega)]

/-- Induction on what is written: a string that is parsed into it is clean. -/
theorem Written.clean (written : Written text sizes)
    (parsed : parseSizesLoop long uninit fuel text = some sizes) : Clean text := by
  cases fuel with
  | zero => cases parsed
  | succ fuel =>
    induction written generalizing fuel with
    | @malformed text noItem =>
      obtain ⟨pushed, -, turn⟩ := parseSizesLoop_succ long uninit fuel text
      rw [turn] at parsed
      cases isBehind : behindItem text with
      | nil => simp [isBehind] at parsed
      | cons byte rest =>
        refine .halts isBehind ?_
        rintro rfl
        simp [isBehind] at parsed
    | @spoiled text size byte rest isItem isOther =>
      exact .halts (behindItem_of_sizeItem isItem) isOther
    | last isItem => exact .last isItem
    | @next text size rest sizes isItem others inductionHypothesis =>
      obtain ⟨pushed, -, turn⟩ := parseSizesLoop_succ long uninit fuel text
      simp only [turn, behindItem_of_sizeItem isItem, if_true] at parsed
      obtain ⟨later, pushes, same⟩ := Option.map_eq_some_iff.mp parsed
      obtain rfl := (List.cons.inj same).2
      cases fuel with
      | zero => cases pushes
      | succ fuel => exact .next isItem (inductionHypothesis fuel pushes)

theorem parsesWritten_iff : ParsesWritten long text ↔ Clean text := by
  constructor
  · rintro ⟨sizes, written, parses⟩
    exact written.clean (parses (fun _ => ⟨0, 0⟩) (text.length + 1) (Nat.lt_succ_self _))
  · intro clean
    obtain ⟨sizes, written⟩ := exists_written text
    exact ⟨sizes, written, fun uninit fuel enough => clean.parses written enough⟩

end Strings

/-! ## There and back -/

section RoundTrip

variable {long : LongSize} {size : CamDimension} {table : List CamDimension} {rest : Bytes}

/-- Both numbers of a size are not negative. -/
def CamDimension.Nonneg (size : CamDimension) : Prop :=
  0 ≤ size.width.toInt ∧ 0 ≤ size.height.toInt

theorem length_decimal_le {number : Int32} (nonneg : 0 ≤ number.toInt) :
    (decimal number).length ≤ 10 := by
  have upper := number.toInt_lt
  rw [decimal, if_neg (by omega)]
  exact length_decimalNat_le (by decide) (by omega)

/-- The buffer holds a size. -/
theorem printSize_eq (before : Bytes) (short : before.length ≤ 1) (nonneg : size.Nonneg) :
    printSize before size =
      before ++ decimal size.width ++ delimX :: decimal size.height := by
  have width := length_decimal_le nonneg.1
  have height := length_decimal_le nonneg.2
  refine List.take_of_length_le ?_
  rw [List.length_append, List.length_append, List.length_cons]
  omega

theorem sizeItem_print (rest : Bytes) (nonneg : size.Nonneg)
    (stops : ∀ byte ∈ rest.head?, isDigit byte = false) :
    sizeItem (decimal size.width ++ delimX :: decimal size.height ++ rest) = some (size, rest) := by
  have fits : ∀ number : Int32, FitsInt number.toInt := by
    intro number
    have lower := number.le_toInt
    have upper := number.toInt_lt
    unfold FitsInt
    omega
  have isWidth : numeral (decimal size.width ++ delimX :: (decimal size.height ++ rest)) =
      some (size.width.toInt, delimX :: (decimal size.height ++ rest)) := by
    refine numeral_decimal nonneg.1 ?_
    rintro byte same
    obtain rfl := Option.some.inj same
    rfl
  have isHeight := numeral_decimal nonneg.2 stops
  rw [List.append_assoc, List.cons_append]
  simp [sizeItem, isWidth, isHeight, fits, guard]

/-- What follows the first size of a table. -/
theorem flatMap_print (nonneg : ∀ size ∈ table, size.Nonneg) :
    table.flatMap (printSize [comma]) = [] ∧ table = [] ∨
      ∃ size rest, table = size :: rest ∧ table.flatMap (printSize [comma]) =
        comma :: createSizesString table := by
  cases table with
  | nil => exact .inl ⟨rfl, rfl⟩
  | cons size rest =>
    refine .inr ⟨size, rest, rfl, ?_⟩
    have own := nonneg size (by simp)
    rw [List.flatMap_cons, createSizesString, printSize_eq [comma] (by simp) own,
      printSize_eq [] (by simp) own]
    simp

/-- Induction on the table. -/
theorem createSizesString_clean (nonneg : ∀ size ∈ table, size.Nonneg) (some : table ≠ []) :
    Clean (createSizesString table) ∧ Written (createSizesString table) table := by
  induction table with
  | nil => exact absurd rfl some
  | cons size rest inductionHypothesis =>
    have own := nonneg size (by simp)
    have others : ∀ size ∈ rest, size.Nonneg := fun other member => nonneg other (by simp [member])
    rw [createSizesString, printSize_eq [] (by simp) own, List.nil_append]
    obtain ⟨isEmpty, rfl⟩ | ⟨second, later, isRest, isTail⟩ := flatMap_print others
    · have isItem := sizeItem_print [] own (by simp)
      rw [isEmpty]
      exact ⟨.last isItem, .last isItem⟩
    · have isItem := sizeItem_print (comma :: createSizesString rest) own (by
        rintro byte same
        obtain rfl := Option.some.inj same
        rfl)
      obtain ⟨clean, written⟩ := inductionHypothesis others (by simp [isRest])
      rw [isTail]
      exact ⟨.next isItem clean, .next isItem written⟩

/-- A table comes back from its string exactly when it is not empty. -/
theorem createSizesString_roundTrips_iff (long : LongSize)
    (nonneg : ∀ size ∈ table, size.Nonneg) :
    RoundTrips long (createSizesString table) table ↔ table ≠ [] := by
  constructor
  · rintro roundTrips rfl
    have pushed := roundTrips (fun _ => ⟨0, 0⟩) 1 Nat.one_pos
    cases pushed
  · intro some uninit fuel enough
    obtain ⟨clean, written⟩ := createSizesString_clean nonneg some
    exact clean.parses written enough

end RoundTrip

/--
Tables come back from their strings exactly when they are not empty, and a string
is parsed into the sizes written in it exactly when it is clean.
-/
theorem sizesLists_iff (long : LongSize) :
    (∀ table : List CamDimension, (∀ size ∈ table, size.Nonneg) →
      (RoundTrips long (createSizesString table) table ↔ table ≠ [])) ∧
    (∀ values : List CamHfrInfo, (∀ value ∈ values, value.dim.Nonneg) →
      (RoundTrips long (createHfrSizesString values) (values.map CamHfrInfo.dim) ↔
        values ≠ [])) ∧
    ∀ text, ParsesWritten long text ↔ Clean text := by
  refine ⟨fun table nonneg => createSizesString_roundTrips_iff long nonneg, ?_,
    fun text => parsesWritten_iff⟩
  intro values nonneg
  have dims : ∀ size ∈ values.map CamHfrInfo.dim, size.Nonneg := by
    intro size member
    obtain ⟨value, inValues, rfl⟩ := List.mem_map.mp member
    exact nonneg value inValues
  rw [createHfrSizesString, createSizesString_roundTrips_iff long dims, ne_eq, List.map_eq_nil_iff]

/-- The string of an empty table is parsed into one size, which the variables held. -/
theorem sizesLists_empty :
    ¬ ((∀ table : List CamDimension, (∀ size ∈ table, size.Nonneg) →
        RoundTrips .ilp32 (createSizesString table) table) ∧
      ∀ text, ParsesWritten .ilp32 text) ∧
    parseSizesList .ilp32 (fun _ => ⟨3, 4⟩) 1 (some (createSizesString [])) = some [⟨3, 4⟩] := by
  refine ⟨?_, rfl⟩
  rintro ⟨roundTrips, -⟩
  have pushed := roundTrips [] (by simp) (fun _ => ⟨0, 0⟩) 1 Nat.one_pos
  cases pushed

end AnglerHal.SizesList
