import AnglerHal.HalCommon
import AnglerHal.Strtol

namespace AnglerHal.CameraAreas

open CString Strtol

/-!
# Focus and metering areas

`parseCameraAreaString` copies one piece of the string after the other, up to its
closing parenthesis, into a buffer of 32 bytes and reads five numbers of it.  A
write behind the buffer or behind the areas has the result `none`.

What is between the pieces, and behind the fifth number of a piece, is not looked
at, and a number may be missing.
-/

/-! ## Areas -/

/-- `(`. -/
def opening : UInt8 :=
  40

/-- `)`. -/
def closing : UInt8 :=
  41

/-- `cam_area_t`. -/
structure CamArea where
  left : Int32
  top : Int32
  width : Int32
  height : Int32
  weight : Int32
  deriving DecidableEq

/-- An area that `memset` has cleared. -/
def CamArea.zero : CamArea where
  left := 0
  top := 0
  width := 0
  height := 0
  weight := 0

/-- `strchr`: what precedes a character, and the string from it on. -/
def splitAt? (text : Bytes) (char : UInt8) : Option (Bytes × Bytes) :=
  match text.dropWhile (· != char) with
  | [] => none
  | found => some (text.takeWhile (· != char), found)

/-- The loop of `parseNDimVector` for the numbers that are left. -/
def parseNumbers (long : LongSize) (delim : UInt8) : Nat → Bytes → Int × List Int32
  | 0, _ => (noError, [])
  | left + 1, start =>
    let (value, rest) := strtolInt long start
    if rest.head? ≠ some delim ∧ left ≠ 0 then
      (-1, [value])
    else
      let (rc, values) := parseNumbers long delim left rest.tail
      (rc, value :: values)

/-- `QCameraParameters::parseNDimVector`. -/
def parseNDimVector (long : LongSize) (str : Bytes) (count : Nat) (delim : UInt8) :
    Int × List Int32 :=
  if str.head? ≠ some opening ∨ str.getLast? ≠ some closing then
    (badValue, [])
  else
    parseNumbers long delim count str.tail

/-- The loop that copies a piece into `area_str[32]`, from an index on. -/
def copyArea : Nat → Bytes → Option Bytes
  | i, [] => if i < 32 then some [] else none
  | i, byte :: rest => if i < 32 then (copyArea (i + 1) rest).map (byte :: ·) else none

/-- The area that five values are stored as. -/
def areaOf (values : List Int32) : CamArea where
  left := values.getD 0 0
  top := values.getD 1 0
  width := values.getD 2 0 - values.getD 0 0
  height := values.getD 3 0 - values.getD 1 0
  weight := values.getD 4 0

/-- `pAreas[index] = area`. -/
def setArea (pAreas : List CamArea) (index : Nat) (area : CamArea) : Option (List CamArea) :=
  if index < pAreas.length then some (pAreas.set index area) else none

/-- The loop of `parseCameraAreaString`: the code, the areas and their number. -/
def parseAreas (long : LongSize) (maxNumAreas : Nat) :
    Nat → Bytes → List CamArea → Nat → Option (Int × List CamArea × Nat)
  | 0, _, _, _ => none
  | fuel + 1, start, pAreas, index =>
    if start.head? ≠ some opening then
      some (badValue, pAreas, 0)
    else
      match splitAt? start closing with
      | none => some (badValue, pAreas, 0)
      | some (before, fromEnd) => do
        let areaStr ← copyArea 0 (before ++ [closing])
        let (rc, values) := parseNDimVector long areaStr 5 comma
        if rc < 0 then
          some (badValue, pAreas, 0)
        else if maxNumAreas ≤ index then
          some (badValue, pAreas, 0)
        else do
          let pAreas ← setArea pAreas index (areaOf values)
          match splitAt? fromEnd opening with
          | none => some (noError, pAreas, index + 1)
          | some (_, next) => parseAreas long maxNumAreas fuel next pAreas (index + 1)

/-- `QCameraParameters::parseCameraAreaString`. -/
def parseCameraAreaString (long : LongSize) (fuel : Nat) (str : Bytes) (maxNumAreas : Nat)
    (pAreas : List CamArea) :
    Option (Int × List CamArea × Nat) :=
  parseAreas long maxNumAreas fuel str pAreas 0

/-- The checks of one area in `validateCameraAreas`. -/
def validArea (area : CamArea) : Bool :=
  !(area.left < -1000) && !(area.top < -1000) && !(area.width ≤ 0 || area.height ≤ 0) &&
    !(area.left + area.width > 1000) && !(area.top + area.height > 1000) &&
      !(area.weight < 1 || area.weight > 1000)

/-- `QCameraParameters::validateCameraAreas`. -/
def validateCameraAreas (areas : List CamArea) : Bool :=
  areas == [.zero] || areas.all validArea

/--
The part of `setFocusAreas` and `setMeteringAreas` up to the stored string, with
the areas that are used further on when the string is accepted; the two setters
check the code of the parser in different ways.
-/
def setAreas (failed : Int → Bool) (long : LongSize) (fuel maxNumAreas : Nat) (hasMemory : Bool)
    (areasStr : Option Bytes) :
    Option (Int × Option (List CamArea)) :=
  match areasStr with
  | none => some (noError, none)
  | some str =>
    if maxNumAreas = 0 then
      some (noError, none)
    else if hasMemory then do
      let (rc, areas, found) ← parseCameraAreaString long fuel str maxNumAreas
        (List.replicate maxNumAreas .zero)
      if failed rc then
        some (badValue, none)
      else if validateCameraAreas (areas.take found) then
        some (noError, some (if areas.take found = [.zero] then [] else areas.take found))
      else
        some (badValue, none)
    else
      some (noMemory, none)

/-- `QCameraParameters::setFocusAreas`, as far as it depends on the string. -/
def setFocusAreas : LongSize → Nat → Nat → Bool → Option Bytes →
    Option (Int × Option (List CamArea)) :=
  setAreas (· != noError)

/-- `QCameraParameters::setMeteringAreas`, as far as it depends on the string. -/
def setMeteringAreas : LongSize → Nat → Nat → Bool → Option Bytes →
    Option (Int × Option (List CamArea)) :=
  setAreas (· < 0)

/-! ## What a string says -/

/-- A piece from a parenthesis to the first one that closes, and what is behind it. -/
def areaPiece (text : Bytes) : Option (Bytes × Bytes) :=
  if text.head? = some opening then
    (splitAt? text closing).map fun found => (found.1 ++ [closing], found.2.tail)
  else
    none

/-- A number of integers that are separated by commas, up to the closing parenthesis. -/
def integers : Nat → Bytes → Option (List Int)
  | 0, _ => none
  | 1, text =>
    match numeral text with
    | some (value, rest) => if rest = [closing] then some [value] else none
    | none => none
  | left + 2, text =>
    match numeral text with
    | some (value, byte :: rest) =>
      if byte = comma then (integers (left + 1) rest).map (value :: ·) else none
    | _ => none

/-- The integers of a string that is a list of areas. -/
inductive AreaList : Bytes → List (List Int) → Prop where
  | last {text piece values} (isPiece : areaPiece text = some (piece, []))
      (isArea : integers 5 piece.tail = some values) :
      AreaList text [values]
  | next {text piece rest values others} (isPiece : areaPiece text = some (piece, comma :: rest))
      (isArea : integers 5 piece.tail = some values)
      (list : AreaList rest others) :
      AreaList text (values :: others)

/-- Left, top, right, bottom and weight of an area that is legal. -/
def InBounds (values : List Int) : Prop :=
  ∃ left top right bottom weight, values = [left, top, right, bottom, weight] ∧
    (-1000 ≤ left ∧ left < right ∧ right ≤ 1000) ∧
    (-1000 ≤ top ∧ top < bottom ∧ bottom ≤ 1000) ∧ 1 ≤ weight ∧ weight ≤ 1000

/-- What the string of an accepted call is. -/
def Legal (maxNumAreas : Nat) (text : Bytes) : Prop :=
  ∃ areas, AreaList text areas ∧ areas.length ≤ maxNumAreas ∧
    (areas = [[0, 0, 0, 0, 0]] ∨ ∀ values ∈ areas, InBounds values)

/-- A setter ends inside its buffers, and accepts only legal strings. -/
def AcceptsLegal (setter : LongSize → Nat → Nat → Bool → Option Bytes →
      Option (Int × Option (List CamArea)))
    (long : LongSize) (maxNumAreas : Nat) (text : Bytes) : Prop :=
  ∀ fuel, text.length < fuel →
    ∃ rc accepted, setter long fuel maxNumAreas true (some text) = some (rc, accepted) ∧
      (accepted.isSome → Legal maxNumAreas text)

/-! ## What the parser reads -/

/-- The area that is read of a piece, when its first four numbers end at a comma. -/
def readPiece (long : LongSize) (piece : Bytes) : Option CamArea :=
  if (parseNDimVector long piece 5 comma).1 < 0 then
    none
  else
    some (areaOf (parseNDimVector long piece 5 comma).2)

/-- Every piece that the parser comes to, with so many areas left, has at most 31 bytes. -/
inductive Short (long : LongSize) : Nat → Bytes → Prop where
  | noPiece {left text} (isNone : areaPiece text = none) : Short long left text
  | refused {left text piece behind} (isPiece : areaPiece text = some (piece, behind))
      (fits : piece.length ≤ 31)
      (unread : readPiece long piece = none ∨ left = 0) :
      Short long left text
  | next {left text piece behind} (isPiece : areaPiece text = some (piece, behind))
      (fits : piece.length ≤ 31)
      (others : Short long left (behind.dropWhile (· != opening))) :
      Short long (left + 1) text

/-- The pieces of a text with what is between them, and the areas that are read of them. -/
inductive Reads (long : LongSize) : Nat → Bytes → List (Bytes × Bytes) → List CamArea → Prop where
  | last {left text piece gap area} (isPiece : areaPiece text = some (piece, gap))
      (isLast : gap.dropWhile (· != opening) = [])
      (isRead : readPiece long piece = some area) :
      Reads long (left + 1) text [(piece, gap)] [area]
  | next {left text piece behind area pieces areas}
      (isPiece : areaPiece text = some (piece, behind))
      (isRead : readPiece long piece = some area)
      (others : Reads long left (behind.dropWhile (· != opening)) pieces areas) :
      Reads long (left + 1) text ((piece, behind.takeWhile (· != opening)) :: pieces)
        (area :: areas)

/-- Five integers which an `int` holds, as it does the extents of the area. -/
def CleanValues (values : List Int) : Prop :=
  ∃ left top right bottom weight, values = [left, top, right, bottom, weight] ∧
    FitsInt left ∧ FitsInt top ∧ FitsInt right ∧ FitsInt bottom ∧ FitsInt weight ∧
    FitsInt (right - left) ∧ FitsInt (bottom - top)

/-- A piece of such integers. -/
def CleanPiece (piece : Bytes) : Prop :=
  ∃ values, integers 5 piece.tail = some values ∧ CleanValues values

/-- One comma between two pieces, and nothing behind the last one. -/
def CleanGaps (gaps : List Bytes) : Prop :=
  gaps = List.replicate (gaps.length - 1) [comma] ++ [[]]

/-- No piece is too long, and when valid areas are read the string is nothing but these. -/
def Harmless (long : LongSize) (maxNumAreas : Nat) (text : Bytes) : Prop :=
  Short long maxNumAreas text ∧
    ∀ pieces areas, Reads long maxNumAreas text pieces areas →
      validateCameraAreas areas = true →
      (∀ piece ∈ pieces, CleanPiece piece.1) ∧ CleanGaps (pieces.map Prod.snd)

/-! ## One piece -/

section Piece

variable {long : LongSize} {text piece behind : Bytes} {maxNumAreas fuel index : Nat}
  {pAreas : List CamArea} {area : CamArea}

/-- A piece is what `strchr` finds, with its two parentheses. -/
theorem areaPiece_spec (isPiece : areaPiece text = some (piece, behind)) :
    ∃ before, text.head? = some opening ∧ splitAt? text closing = some (before, closing :: behind) ∧
      piece = before ++ [closing] ∧ piece.head? = some opening ∧ behind.length < text.length := by
  unfold areaPiece at isPiece
  split at isPiece
  next isHead =>
    obtain ⟨⟨before, found⟩, isFound, same⟩ := Option.map_eq_some_iff.mp isPiece
    obtain ⟨rfl, rfl⟩ := Prod.mk.inj same
    cases isDropped : text.dropWhile (· != closing) with
    | nil =>
      rw [splitAt?, isDropped] at isFound
      cases isFound
    | cons byte rest =>
      have stops := List.head?_dropWhile_not (· != closing) text
      rw [isDropped] at stops
      obtain rfl : byte = closing := by simpa using stops
      have isSplit : splitAt? text closing =
        some (text.takeWhile (· != closing), closing :: rest) := by
        rw [splitAt?, isDropped]
      obtain ⟨rfl, rfl⟩ := Prod.mk.inj (Option.some.inj (isSplit.symm.trans isFound))
      obtain ⟨others, rfl⟩ := List.head?_eq_some_iff.mp isHead
      have taken := congrArg List.length
        (List.takeWhile_append_dropWhile (p := (· != closing)) (l := opening :: others))
      rw [isDropped, List.length_append, List.length_cons, List.length_cons] at taken
      refine ⟨_, rfl, isSplit, rfl, rfl, ?_⟩
      simp only [List.tail_cons, List.length_cons]
      omega
  next => cases isPiece

theorem copyArea_eq (piece : Bytes) :
    copyArea index piece = if index + piece.length < 32 then some piece else none := by
  induction piece generalizing index with
  | nil => rfl
  | cons byte rest inductionHypothesis =>
    rw [copyArea, inductionHypothesis, List.length_cons]
    by_cases fits : index + 1 + rest.length < 32
    · rw [if_pos (by omega), if_pos fits, if_pos (by omega)]
      rfl
    · have tooLong : ¬ index + (rest.length + 1) < 32 := by
        omega
      rw [if_neg fits, if_neg tooLong]
      split <;> rfl

theorem splitAt?_opening (behind : Bytes) :
    (splitAt? (closing :: behind) opening).map Prod.snd =
      if behind.dropWhile (· != opening) = [] then
        none
      else
        some (behind.dropWhile (· != opening)) := by
  have skips : (closing :: behind).dropWhile (· != opening) = behind.dropWhile (· != opening) := rfl
  rw [splitAt?, skips]
  cases behind.dropWhile (· != opening) <;> rfl

theorem parseAreas_noPiece (isNone : areaPiece text = none) :
    parseAreas long maxNumAreas (fuel + 1) text pAreas index = some (badValue, pAreas, 0) := by
  unfold areaPiece at isNone
  rw [parseAreas]
  split at isNone
  next isHead =>
    rw [if_neg (not_not_intro isHead), Option.map_eq_none_iff.mp isNone]
  next noHead => rw [if_pos noHead]

/-- A turn with a piece: the buffer is too small, the piece is refused, or its area is stored. -/
theorem parseAreas_piece (isPiece : areaPiece text = some (piece, behind)) :
    parseAreas long maxNumAreas (fuel + 1) text pAreas index =
      if 31 < piece.length then
        none
      else
        match readPiece long piece with
        | none => some (badValue, pAreas, 0)
        | some area =>
          if maxNumAreas ≤ index then
            some (badValue, pAreas, 0)
          else
            (setArea pAreas index area).bind fun pAreas =>
              if behind.dropWhile (· != opening) = [] then
                some (noError, pAreas, index + 1)
              else
                parseAreas long maxNumAreas fuel (behind.dropWhile (· != opening)) pAreas
                  (index + 1) := by
  obtain ⟨before, isHead, isSplit, isBefore, -, -⟩ := areaPiece_spec isPiece
  rw [parseAreas, if_neg (not_not_intro isHead), isSplit]
  simp only [← isBefore, copyArea_eq, Nat.zero_add]
  by_cases long31 : 31 < piece.length
  · rw [if_pos long31, if_neg (by omega)]
    rfl
  · rw [if_neg long31, if_pos (by omega)]
    simp only [Option.bind_eq_bind, Option.bind_some, readPiece]
    by_cases refused : (parseNDimVector long piece 5 comma).1 < 0
    · simp [refused]
    · simp only [refused, if_false]
      by_cases full : maxNumAreas ≤ index
      · simp [full]
      · simp only [full, if_false]
        congr 1
        funext pAreas
        have next := splitAt?_opening behind
        cases isNext : splitAt? (closing :: behind) opening with
        | none =>
          rw [isNext] at next
          by_cases isEmpty : behind.dropWhile (· != opening) = []
          · simp [isEmpty]
          · simp [isEmpty] at next
        | some found =>
          rw [isNext] at next
          by_cases isEmpty : behind.dropWhile (· != opening) = []
          · simp [isEmpty] at next
          · simp only [isEmpty, if_false, Option.map_some, Option.some.injEq] at next
            simp [isEmpty, next]

end Piece

/-! ## The parser -/

section Parser

variable {long : LongSize} {maxNumAreas fuel index left : Nat} {text : Bytes}
  {pAreas : List CamArea} {pieces pieces' : List (Bytes × Bytes)} {areas areas' : List CamArea}

theorem not_reads_nil : ¬ Reads long left [] pieces areas := by
  intro reads
  cases reads with
  | last isPiece => cases isPiece
  | next isPiece => cases isPiece

theorem Reads.unique (reads : Reads long left text pieces areas)
    (reads' : Reads long left text pieces' areas') : areas = areas' := by
  induction reads generalizing pieces' areas' with
  | last isPiece isLast isRead =>
    cases reads' with
    | last isPiece' _ isRead' =>
      cases isPiece.symm.trans isPiece'
      cases isRead.symm.trans isRead'
      rfl
    | next isPiece' _ others =>
      cases isPiece.symm.trans isPiece'
      rw [isLast] at others
      exact absurd others not_reads_nil
  | next isPiece isRead others inductionHypothesis =>
    cases reads' with
    | last isPiece' isLast =>
      cases isPiece.symm.trans isPiece'
      rw [isLast] at others
      exact absurd others not_reads_nil
    | next isPiece' isRead' others' =>
      cases isPiece.symm.trans isPiece'
      cases isRead.symm.trans isRead'
      rw [inductionHypothesis others']

/-- A piece that is read is what the areas begin with. -/
theorem Reads.piece (reads : Reads long left text pieces areas) :
    ∃ piece behind area turns, areaPiece text = some (piece, behind) ∧
      readPiece long piece = some area ∧ left = turns + 1 := by
  cases reads with
  | last isPiece _ isRead => exact ⟨_, _, _, _, isPiece, isRead, rfl⟩
  | next isPiece isRead _ => exact ⟨_, _, _, _, isPiece, isRead, rfl⟩

/-- What the parser makes of a text whose pieces fit its buffer. -/
theorem Short.parses (short : Short long left text) (room : index + left = maxNumAreas)
    (capacity : pAreas.length = maxNumAreas) (enough : text.length < fuel) :
    ∃ rc after found, parseAreas long maxNumAreas fuel text pAreas index = some (rc, after, found) ∧
      (rc = badValue ∧ (∀ pieces areas, ¬ Reads long left text pieces areas) ∨
        rc = noError ∧ ∃ pieces areas, Reads long left text pieces areas ∧
          after.take found = pAreas.take index ++ areas) := by
  obtain ⟨fuel, rfl⟩ : ∃ turns, fuel = turns + 1 := ⟨fuel - 1, by omega⟩
  induction short generalizing fuel pAreas index with
  | noPiece isNone =>
    refine ⟨_, _, _, parseAreas_noPiece isNone, .inl ⟨rfl, fun pieces areas reads => ?_⟩⟩
    obtain ⟨_, _, _, _, isPiece, -⟩ := reads.piece
    rw [isNone] at isPiece
    cases isPiece
  | @refused left text piece behind isPiece fits unread =>
    have notRead : ∀ pieces areas, ¬ Reads long left text pieces areas := by
      intro pieces areas reads
      obtain ⟨_, _, _, _, isPiece', isRead, notZero⟩ := reads.piece
      cases isPiece.symm.trans isPiece'
      rcases unread with isNone | isZero
      · rw [isRead] at isNone
        cases isNone
      · omega
    refine ⟨badValue, pAreas, 0, ?_, .inl ⟨rfl, notRead⟩⟩
    rw [parseAreas_piece isPiece, if_neg (by omega)]
    cases isRead : readPiece long piece with
    | none => rfl
    | some area =>
      have full : maxNumAreas ≤ index := by
        rcases unread with isNone | isZero
        · rw [isRead] at isNone
          cases isNone
        · omega
      simp only [full, if_true]
  | @next left text piece behind isPiece fits others inductionHypothesis =>
    obtain ⟨_, _, _, _, _, shorter⟩ := areaPiece_spec isPiece
    have dropped := (List.dropWhile_suffix (· != opening) (l := behind)).length_le
    rw [parseAreas_piece isPiece, if_neg (by omega)]
    cases isRead : readPiece long piece with
    | none =>
      refine ⟨badValue, pAreas, 0, rfl, .inl ⟨rfl, fun pieces areas reads => ?_⟩⟩
      obtain ⟨_, _, _, _, isPiece', isRead', -⟩ := reads.piece
      cases isPiece.symm.trans isPiece'
      rw [isRead] at isRead'
      cases isRead'
    | some area =>
      have isRoom : index < pAreas.length := by
        omega
      have stored : (pAreas.set index area).take (index + 1) = pAreas.take index ++ [area] := by
        rw [List.take_add_one, List.take_set_of_le (Nat.le_refl _),
          List.getElem?_set_self isRoom]
        rfl
      simp only [setArea, isRoom, if_true, Option.bind_some,
        show ¬ maxNumAreas ≤ index by omega, if_false]
      by_cases isEmpty : behind.dropWhile (· != opening) = []
      · rw [if_pos isEmpty]
        exact ⟨_, _, _, rfl, .inr ⟨rfl, _, _, .last isPiece isEmpty isRead, stored⟩⟩
      · rw [if_neg isEmpty]
        obtain ⟨fuel, rfl⟩ : ∃ turns, fuel = turns + 1 := ⟨fuel - 1, by omega⟩
        have later : index + 1 + left = maxNumAreas := by
          omega
        have length : (pAreas.set index area).length = maxNumAreas := by
          rw [List.length_set, capacity]
        obtain ⟨rc, after, found, parsed, outcome⟩ :=
          inductionHypothesis later length fuel (by omega)
        refine ⟨rc, after, found, parsed, ?_⟩
        rcases outcome with ⟨bad, notRead⟩ | ⟨good, pieces, areas, reads, taken⟩
        · refine .inl ⟨bad, fun pieces areas reads => ?_⟩
          cases reads with
          | last isPiece' isLast =>
            cases isPiece.symm.trans isPiece'
            exact isEmpty isLast
          | next isPiece' _ others' =>
            cases isPiece.symm.trans isPiece'
            exact notRead _ _ others'
        · refine .inr ⟨good, _, _, .next isPiece isRead reads, ?_⟩
          rw [taken, stored, List.append_assoc]
          rfl

/-- Induction on the turns: a text that is parsed inside the buffer is short. -/
theorem short_of_parses {result : Int × List CamArea × Nat} (room : index + left = maxNumAreas)
    (parsed : parseAreas long maxNumAreas fuel text pAreas index = some result) :
    Short long left text := by
  induction fuel generalizing text pAreas index left with
  | zero => cases parsed
  | succ fuel inductionHypothesis =>
    cases isPiece : areaPiece text with
    | none => exact .noPiece isPiece
    | some found =>
      obtain ⟨piece, behind⟩ := found
      rw [parseAreas_piece isPiece] at parsed
      split at parsed
      next => cases parsed
      next short31 =>
        have fits : piece.length ≤ 31 := by
          omega
        cases isRead : readPiece long piece with
        | none => exact .refused isPiece fits (.inl isRead)
        | some area =>
          cases left with
          | zero => exact .refused isPiece fits (.inr rfl)
          | succ left =>
            simp only [isRead, show ¬ maxNumAreas ≤ index by omega, if_false] at parsed
            obtain ⟨stored, -, parsed⟩ := Option.bind_eq_some_iff.mp parsed
            refine .next isPiece fits ?_
            split at parsed
            next isEmpty =>
              rw [isEmpty]
              exact .noPiece rfl
            next => exact inductionHypothesis (by omega) parsed

end Parser

variable {gap : Bytes} {fuel : Nat}

/-! ## Lists of areas -/

section Lists

variable {long : LongSize} {left : Nat} {text : Bytes} {values : List Int}
  {pieces : List (Bytes × Bytes)} {areas : List CamArea} {written : List (List Int)}

theorem parseNumbers_integers {count : Nat} (isList : integers count text = some values)
    (fits : ∀ value ∈ values, FitsInt value) :
    parseNumbers long comma count text = (noError, values.map Int32.ofInt) := by
  induction count generalizing text values with
  | zero => cases isList
  | succ left inductionHypothesis =>
    cases isNumber : numeral text with
    | none => cases left <;> simp [integers, isNumber] at isList
    | some number =>
      obtain ⟨value, rest⟩ := number
      cases left with
      | zero =>
        simp only [integers, isNumber, Option.ite_none_right_eq_some, Option.some.injEq] at isList
        obtain ⟨-, rfl⟩ := isList
        have read : strtolInt long text = (.ofInt value, rest) :=
          strtolInt_of_fits isNumber (fits value (by simp))
        simp [parseNumbers, read]
      | succ left =>
        cases rest with
        | nil => simp [integers, isNumber] at isList
        | cons byte rest =>
          simp only [integers, isNumber, Option.ite_none_right_eq_some] at isList
          obtain ⟨rfl, isList⟩ := isList
          obtain ⟨others, isRest, rfl⟩ := Option.map_eq_some_iff.mp isList
          have read : strtolInt long text = (.ofInt value, comma :: rest) :=
            strtolInt_of_fits isNumber (fits value (by simp))
          have later := inductionHypothesis isRest fun other member => fits other (by simp [member])
          rw [parseNumbers]
          simp [read, later]

/-- The area of five integers. -/
def areaOfInts (values : List Int) : CamArea :=
  areaOf (values.map Int32.ofInt)

theorem readPiece_of_integers {piece behind : Bytes}
    (isPiece : areaPiece text = some (piece, behind))
    (isArea : integers 5 piece.tail = some values) (clean : CleanValues values) :
    readPiece long piece = some (areaOfInts values) := by
  obtain ⟨before, -, -, isBefore, isHead, -⟩ := areaPiece_spec isPiece
  have isLast : piece.getLast? = some closing := by
    rw [isBefore, List.getLast?_concat]
  have fits : ∀ value ∈ values, FitsInt value := by
    obtain ⟨_, _, _, _, _, rfl, fitsLeft, fitsTop, fitsRight, fitsBottom, fitsWeight, -⟩ := clean
    simp [fitsLeft, fitsTop, fitsRight, fitsBottom, fitsWeight]
  have read : parseNDimVector long piece 5 comma = (noError, values.map Int32.ofInt) := by
    rw [parseNDimVector, if_neg (by simp [isHead, isLast]), parseNumbers_integers isArea fits]
  rw [readPiece, read]
  exact if_neg (Int.lt_irrefl 0)

theorem cleanGaps_singleton : CleanGaps [gap] ↔ gap = [] := by
  simp [CleanGaps]

theorem cleanGaps_cons {gaps : List Bytes} (more : gaps ≠ []) :
    CleanGaps (gap :: gaps) ↔ gap = [comma] ∧ CleanGaps gaps := by
  obtain ⟨second, others, rfl⟩ := List.exists_cons_of_ne_nil more
  simp [CleanGaps, List.replicate_succ]

theorem Reads.ne_nil (reads : Reads long left text pieces areas) : pieces ≠ [] := by
  cases reads <;> exact List.cons_ne_nil _ _

theorem Reads.length_le (reads : Reads long left text pieces areas) : areas.length ≤ left := by
  induction reads with
  | last => exact Nat.succ_le_succ (Nat.zero_le _)
  | next _ _ _ inductionHypothesis => exact Nat.succ_le_succ inductionHypothesis

theorem AreaList.dropWhile (list : AreaList text written) :
    text.dropWhile (· != opening) = text ∧ text.takeWhile (· != opening) = [] ∧ text ≠ [] := by
  have isHead : text.head? = some opening := by
    cases list with
    | last isPiece => exact (areaPiece_spec isPiece).choose_spec.1
    | next isPiece => exact (areaPiece_spec isPiece).choose_spec.1
  obtain ⟨others, rfl⟩ := List.head?_eq_some_iff.mp isHead
  exact ⟨rfl, rfl, List.cons_ne_nil _ _⟩

/-- A list of areas has clean pieces with clean gaps. -/
theorem AreaList.clean (list : AreaList text written)
    (values : ∀ values ∈ written, CleanValues values)
    (reads : Reads long left text pieces areas) :
    (∀ piece ∈ pieces, CleanPiece piece.1) ∧ CleanGaps (pieces.map Prod.snd) := by
  induction reads generalizing written with
  | last isPiece isLast isRead =>
    cases list with
    | last isPiece' isArea =>
      cases isPiece.symm.trans isPiece'
      refine ⟨?_, cleanGaps_singleton.mpr rfl⟩
      rintro piece member
      obtain rfl := List.mem_singleton.mp member
      exact ⟨_, isArea, values _ (by simp)⟩
    | next isPiece' isArea others =>
      cases isPiece.symm.trans isPiece'
      have drops : (comma :: _).dropWhile (· != opening) = _ := others.dropWhile.1
      rw [drops] at isLast
      exact absurd isLast others.dropWhile.2.2
  | next isPiece isRead reads inductionHypothesis =>
    cases list with
    | last isPiece' isArea =>
      cases isPiece.symm.trans isPiece'
      exact absurd reads not_reads_nil
    | next isPiece' isArea others =>
      cases isPiece.symm.trans isPiece'
      have drops : (comma :: _).dropWhile (· != opening) = _ := others.dropWhile.1
      have takes : (comma :: _).takeWhile (· != opening) = comma :: _ :=
        congrArg (comma :: ·) others.dropWhile.2.1
      rw [drops] at inductionHypothesis
      obtain ⟨cleanPieces, cleanGaps⟩ :=
        inductionHypothesis others fun other member => values other (by simp [member])
      refine ⟨?_, (cleanGaps_cons (by simpa using reads.ne_nil)).mpr ⟨takes, cleanGaps⟩⟩
      rintro piece member
      rcases List.mem_cons.mp member with rfl | inOthers
      · exact ⟨_, isArea, values _ (by simp)⟩
      · exact cleanPieces piece inOthers

/-- Clean pieces with clean gaps are a list of areas, which are those that are read. -/
theorem Reads.list (reads : Reads long left text pieces areas)
    (cleanPieces : ∀ piece ∈ pieces, CleanPiece piece.1)
    (cleanGaps : CleanGaps (pieces.map Prod.snd)) :
    ∃ written, AreaList text written ∧ (∀ values ∈ written, CleanValues values) ∧
      areas = written.map areaOfInts := by
  induction reads with
  | @last left text piece gap area isPiece isLast isRead =>
    obtain ⟨values, isArea, clean⟩ := cleanPieces (piece, gap) (by simp)
    obtain rfl : gap = [] := cleanGaps_singleton.mp cleanGaps
    refine ⟨[values], .last isPiece isArea, by simpa using clean, ?_⟩
    rw [readPiece_of_integers isPiece isArea clean] at isRead
    simp [Option.some.inj isRead]
  | @next left text piece behind area pieces areas isPiece isRead reads inductionHypothesis =>
    obtain ⟨values, isArea, clean⟩ := cleanPieces _ List.mem_cons_self
    obtain ⟨isComma, laterGaps⟩ :=
      (cleanGaps_cons (by simpa using reads.ne_nil)).mp cleanGaps
    obtain ⟨written, list, cleanWritten, rfl⟩ :=
      inductionHypothesis (fun other member => cleanPieces other (by simp [member])) laterGaps
    have split := List.takeWhile_append_dropWhile (p := (· != opening)) (l := behind)
    have isBehind : comma :: behind.dropWhile (· != opening) = behind :=
      (congrArg (· ++ behind.dropWhile (· != opening)) isComma).symm.trans split
    have isNext : areaPiece text = some (piece, comma :: behind.dropWhile (· != opening)) := by
      rw [isBehind, isPiece]
    refine ⟨values :: written, .next isNext isArea list, ?_, ?_⟩
    · intro other member
      rcases List.mem_cons.mp member with rfl | inWritten
      · exact clean
      · exact cleanWritten other inWritten
    · rw [readPiece_of_integers isPiece isArea clean] at isRead
      simp [Option.some.inj isRead]

end Lists

/-! ## Accepted strings -/

section Accepted

variable {values : List Int}

theorem toInt_ofInt {value : Int} (fits : FitsInt value) : (Int32.ofInt value).toInt = value := by
  unfold FitsInt at fits
  exact Int32.toInt_ofInt_of_le (by omega) (by omega)

/-- An extent that an `int` holds does not wrap. -/
theorem toInt_extent {start stop : Int} (fitsStart : FitsInt start) (fitsStop : FitsInt stop)
    (fits : FitsInt (stop - start)) :
    (Int32.ofInt stop - Int32.ofInt start).toInt = stop - start := by
  rw [Int32.toInt_sub, toInt_ofInt fitsStop, toInt_ofInt fitsStart]
  unfold FitsInt at fits
  exact Int.bmod_eq_of_le (by omega) (by omega)

theorem start_add_extent (start stop : Int32) : start + (stop - start) = stop := by
  rw [Int32.add_comm, Int32.sub_add_cancel]

theorem inBounds_of_valid (clean : CleanValues values)
    (valid : validArea (areaOfInts values) = true) : InBounds values := by
  obtain ⟨left, top, right, bottom, weight, rfl, fitsLeft, fitsTop, fitsRight, fitsBottom,
    fitsWeight, fitsWidth, fitsHeight⟩ := clean
  have isArea : areaOfInts [left, top, right, bottom, weight] =
      ⟨.ofInt left, .ofInt top, .ofInt right - .ofInt left, .ofInt bottom - .ofInt top,
        .ofInt weight⟩ := rfl
  have thousand : (1000 : Int32).toInt = 1000 ∧ (-1000 : Int32).toInt = -1000 ∧
      (0 : Int32).toInt = 0 ∧ (1 : Int32).toInt = 1 := by decide
  rw [isArea] at valid
  simp only [validArea, start_add_extent, Bool.and_eq_true, Bool.not_eq_true', Bool.or_eq_false_iff,
    decide_eq_false_iff_not, Int32.lt_iff_toInt_lt, Int32.le_iff_toInt_le, gt_iff_lt, thousand,
    toInt_ofInt fitsLeft, toInt_ofInt fitsTop, toInt_ofInt fitsRight, toInt_ofInt fitsBottom,
    toInt_ofInt fitsWeight, toInt_extent fitsLeft fitsRight fitsWidth,
    toInt_extent fitsTop fitsBottom fitsHeight] at valid
  exact ⟨left, top, right, bottom, weight, rfl, by omega, by omega, by omega⟩

theorem zero_of_clean (clean : CleanValues values) (isZero : areaOfInts values = .zero) :
    values = [0, 0, 0, 0, 0] := by
  obtain ⟨left, top, right, bottom, weight, rfl, fitsLeft, fitsTop, fitsRight, fitsBottom,
    fitsWeight, fitsWidth, fitsHeight⟩ := clean
  have isLeft := congrArg (fun area => area.left.toInt) isZero
  have isTop := congrArg (fun area => area.top.toInt) isZero
  have isWidth := congrArg (fun area => area.width.toInt) isZero
  have isHeight := congrArg (fun area => area.height.toInt) isZero
  have isWeight := congrArg (fun area => area.weight.toInt) isZero
  change (Int32.ofInt left).toInt = 0 at isLeft
  change (Int32.ofInt top).toInt = 0 at isTop
  change (Int32.ofInt right - Int32.ofInt left).toInt = 0 at isWidth
  change (Int32.ofInt bottom - Int32.ofInt top).toInt = 0 at isHeight
  change (Int32.ofInt weight).toInt = 0 at isWeight
  rw [toInt_ofInt fitsLeft] at isLeft
  rw [toInt_ofInt fitsTop] at isTop
  rw [toInt_extent fitsLeft fitsRight fitsWidth] at isWidth
  rw [toInt_extent fitsTop fitsBottom fitsHeight] at isHeight
  rw [toInt_ofInt fitsWeight] at isWeight
  obtain ⟨rfl, rfl, rfl⟩ : left = 0 ∧ top = 0 ∧ weight = 0 := ⟨isLeft, isTop, isWeight⟩
  obtain ⟨rfl, rfl⟩ : right = 0 ∧ bottom = 0 := ⟨by omega, by omega⟩
  rfl

theorem cleanValues_of_legal (legal : values = [0, 0, 0, 0, 0] ∨ InBounds values) :
    CleanValues values := by
  rcases legal with rfl | ⟨left, top, right, bottom, weight, rfl, horizontal, vertical, weights⟩
  · exact ⟨0, 0, 0, 0, 0, rfl, by decide⟩
  · refine ⟨left, top, right, bottom, weight, rfl, ?_⟩
    unfold FitsInt
    omega

end Accepted

section Setters

variable {long : LongSize} {maxNumAreas : Nat} {text : Bytes} {failed : Int → Bool}

/-- A call that comes to the parser with a text whose pieces fit. -/
theorem setAreas_outcome (isFailure : failed badValue = true)
    (isSuccess : failed noError = false) (positive : 0 < maxNumAreas)
    (short : Short long maxNumAreas text) (enough : text.length < fuel) :
    ∃ rc accepted, setAreas failed long fuel maxNumAreas true (some text) = some (rc, accepted) ∧
      (accepted.isSome = true ↔ ∃ pieces areas, Reads long maxNumAreas text pieces areas ∧
        validateCameraAreas areas = true) := by
  obtain ⟨rc, after, found, parsed, outcome⟩ := short.parses (Nat.zero_add maxNumAreas)
    (List.length_replicate (n := maxNumAreas) (a := CamArea.zero)) enough
  have notZero : maxNumAreas ≠ 0 := by
    omega
  simp only [setAreas, notZero, if_false, if_true, parseCameraAreaString, parsed,
    Option.bind_eq_bind, Option.bind_some]
  rcases outcome with ⟨rfl, notRead⟩ | ⟨rfl, pieces, areas, reads, taken⟩
  · rw [if_pos isFailure]
    refine ⟨badValue, none, rfl, ?_⟩
    constructor
    · intro isSome
      cases isSome
    · rintro ⟨pieces, areas, reads, -⟩
      exact absurd reads (notRead pieces areas)
  · rw [List.take_zero, List.nil_append] at taken
    rw [isSuccess, taken]
    by_cases valid : validateCameraAreas areas = true
    · simp only [valid, if_true, Bool.false_eq_true, if_false]
      exact ⟨_, _, rfl, iff_of_true rfl ⟨pieces, areas, reads, valid⟩⟩
    · simp only [valid, Bool.false_eq_true, if_false]
      refine ⟨_, _, rfl, ?_⟩
      constructor
      · intro isSome
        cases isSome
      · rintro ⟨pieces', areas', reads', valid'⟩
        exact absurd (reads.unique reads' ▸ valid') valid

/-- A call that ends inside its buffers has pieces that fit. -/
theorem short_of_setAreas {result : Int × Option (List CamArea)}
    (positive : 0 < maxNumAreas)
    (called : setAreas failed long fuel maxNumAreas true (some text) = some result) :
    Short long maxNumAreas text := by
  have notZero : maxNumAreas ≠ 0 := by
    omega
  simp only [setAreas, notZero, if_false, if_true] at called
  obtain ⟨parsed, isParsed, -⟩ := Option.bind_eq_some_iff.mp called
  exact short_of_parses (Nat.zero_add _) isParsed

theorem setAreas_acceptsLegal_iff (isFailure : failed badValue = true)
    (isSuccess : failed noError = false) (positive : 0 < maxNumAreas) :
    AcceptsLegal (setAreas failed) long maxNumAreas text ↔ Harmless long maxNumAreas text := by
  constructor
  · intro accepts
    obtain ⟨rc, accepted, called, legal⟩ := accepts (text.length + 1) (Nat.lt_succ_self _)
    have short := short_of_setAreas positive called
    refine ⟨short, fun pieces areas reads valid => ?_⟩
    obtain ⟨rc', accepted', called', isAccepted⟩ :=
      setAreas_outcome isFailure isSuccess positive short (Nat.lt_succ_self _)
    cases called.symm.trans called'
    obtain ⟨written, list, -, bounds⟩ := legal (isAccepted.mpr ⟨pieces, areas, reads, valid⟩)
    refine list.clean (fun values member => cleanValues_of_legal ?_) reads
    rcases bounds with rfl | bounds
    · exact .inl (List.mem_singleton.mp member)
    · exact .inr (bounds values member)
  · rintro ⟨short, clean⟩ fuel enough
    obtain ⟨rc, accepted, called, isAccepted⟩ :=
      setAreas_outcome isFailure isSuccess positive short enough
    refine ⟨rc, accepted, called, fun isSome => ?_⟩
    obtain ⟨pieces, areas, reads, valid⟩ := isAccepted.mp isSome
    obtain ⟨cleanPieces, cleanGaps⟩ := clean pieces areas reads valid
    obtain ⟨written, list, cleanWritten, rfl⟩ := reads.list cleanPieces cleanGaps
    refine ⟨written, list, by simpa using reads.length_le, ?_⟩
    simp only [validateCameraAreas, Bool.or_eq_true, beq_iff_eq, List.all_map, List.all_eq_true]
      at valid
    rcases valid with isZero | valid
    · obtain ⟨values, rfl⟩ : ∃ values, written = [values] := by
        rw [← List.length_eq_one_iff]
        simpa using congrArg List.length isZero
      refine .inl
        (congrArg (fun values => [values]) (zero_of_clean (cleanWritten values (by simp)) ?_))
      exact (List.cons.inj isZero).1
    · exact .inr fun values member => inBounds_of_valid (cleanWritten values member)
        (valid values member)

end Setters

/--
The two setters stay inside their buffers and accept only legal strings, exactly when
the string has no piece that is too long, and is clean when valid areas are read of it.
-/
theorem cameraAreas_iff (long : LongSize) (maxNumAreas : Nat) (text : Bytes)
    (positive : 0 < maxNumAreas) :
    (AcceptsLegal setFocusAreas long maxNumAreas text ↔ Harmless long maxNumAreas text) ∧
      (AcceptsLegal setMeteringAreas long maxNumAreas text ↔ Harmless long maxNumAreas text) :=
  ⟨setAreas_acceptsLegal_iff rfl rfl positive, setAreas_acceptsLegal_iff rfl rfl positive⟩

/-- `(0,0,1,1,1)`. -/
def singleArea : Bytes :=
  [40, 48, 44, 48, 44, 49, 44, 49, 44, 49, 41]

theorem singleArea_harmless : Harmless .ilp32 1 singleArea := by
  have isPiece : areaPiece singleArea = some (singleArea, []) := by decide
  refine ⟨.next isPiece (by decide) (.noPiece rfl), fun pieces areas reads valid => ?_⟩
  have list : AreaList singleArea [[0, 0, 1, 1, 1]] := .last isPiece (by decide)
  refine list.clean ?_ reads
  rintro values member
  obtain rfl := List.mem_singleton.mp member
  exact ⟨0, 0, 1, 1, 1, rfl, by decide⟩

/-- A single area is accepted as it stands. -/
theorem cameraAreas_iff_single :
    0 < 1 ∧ AcceptsLegal setFocusAreas .ilp32 1 singleArea ∧
      AcceptsLegal setMeteringAreas .ilp32 1 singleArea :=
  ⟨by decide, (cameraAreas_iff .ilp32 1 singleArea (by decide)).1.mpr singleArea_harmless,
    (cameraAreas_iff .ilp32 1 singleArea (by decide)).2.mpr singleArea_harmless⟩

/-- `(0,0,1,1,1)` with 21 blanks before its first number. -/
def paddedArea : Bytes :=
  opening :: List.replicate 21 32 ++ singleArea.tail

/-- A piece of 32 bytes is written behind the buffer. -/
theorem cameraAreas_overflow :
    ¬ AcceptsLegal setFocusAreas .ilp32 1 paddedArea ∧
      setFocusAreas .ilp32 33 1 true (some paddedArea) = none := by
  have overflow : setFocusAreas .ilp32 33 1 true (some paddedArea) = none := by decide
  refine ⟨fun accepts => ?_, overflow⟩
  obtain ⟨rc, accepted, called, -⟩ := accepts 33 (by decide)
  rw [overflow] at called
  cases called

end AnglerHal.CameraAreas
