import AnglerHal.RawConversion
import Mathlib.Algebra.BigOperators.Ring.List
import Mathlib.Data.Fintype.Basic
import Mathlib.Tactic.FinCases
import Mathlib.Tactic.Ring

namespace AnglerHal.BlackLevel

open RawConversion (Memory ReadPixel mipiPixel mipiPixel_eq rowStart)

/-!
# The dynamic black level of a raw frame

`calculateBlacklevelForRaw10` adds up the pixels of the optical black region, one
sum for each phase of the Bayer pattern.  It unpacks the MIPI format with a macro
of its own, not with the code that converts the frame afterwards, and finds the
second row of a cell by one more stride, not by its own offset.
-/

/-- The region of `getBlackLevelRegion`, on whole cells of the Bayer pattern.  An `int`
counts the bytes of a row up to its right edge. -/
structure BlackRegion where
  left : Nat
  top : Nat
  right : Nat
  bottom : Nat
  evenLeft : left % 2 = 0
  evenTop : top % 2 = 0
  evenRight : right % 2 = 0
  evenBottom : bottom % 2 = 0
  inRow : 5 * (right / 4) + 4 < 2 ^ 31

/-- The byte with the upper bits of a pixel. -/
def upperByte : ReadPixel := fun memory rowStart x =>
  (memory (rowStart + (5 * (x / 4) + x % 4))).toNat

/-- The fifth byte of a group of four pixels, moved right to one of them. -/
def lowBits (shift : Nat → Nat) : ReadPixel := fun memory rowStart x =>
  (memory (rowStart + (5 * (x / 4) + 4))).toNat >>> shift (x % 4) % 4

/-- `GET_RAW_PIXEL`. -/
def getRawPixel : ReadPixel := fun memory rowStart j =>
  (memory (rowStart + (5 * (j / 4) + j % 4))).toNat <<< 2 |||
    (memory (rowStart + (5 * (j / 4) + 4))).toNat >>> (j % 4) &&& 0x03

/-- A natural number as the nearest `float`, ties to the even one. -/
def roundToFloat (n : Nat) : Nat :=
  let unit := 2 ^ (Nat.log2 n - 23)
  let rest := n % unit
  let roundsUp := unit < 2 * rest ∨ unit = 2 * rest ∧ n / unit % 2 = 1
  (n / unit + if roundsUp then 1 else 0) * unit

/-- `level += pixel`, on a `float`. -/
def addFloat (level pixel : Nat) : Nat :=
  roundToFloat (level + pixel)

/-- `for (i = low; i < high; i += 2)`. -/
def stepsOfTwo (low high : Nat) : List Nat :=
  List.range' low ((high - low + 1) / 2) 2

/-- The body of the loop over `j`, for the row that begins at `start`. -/
def addCell (buffer : Memory) (strideBytes start : Nat) (levels : Fin 4 → Nat) (j : Nat) :
    Fin 4 → Nat
  | 0 => addFloat (levels 0) (getRawPixel buffer start j)
  | 1 => addFloat (levels 1) (getRawPixel buffer start (j + 1))
  | 2 => addFloat (levels 2) (getRawPixel buffer (start + strideBytes) j)
  | 3 => addFloat (levels 3) (getRawPixel buffer (start + strideBytes) (j + 1))

/-- `fwk_blacklevel` before the division by `count`. -/
def calculateBlacklevelForRaw10 (buffer : Memory) (strideBytes : Nat) (region : BlackRegion) :
    Fin 4 → Nat :=
  (stepsOfTwo region.top region.bottom).foldl
    (fun levels i =>
      let start := rowStart strideBytes i
      (stepsOfTwo region.left region.right).foldl (addCell buffer strideBytes start) levels)
    fun _ => 0

/-! ## Sums over one phase -/

/-- The rows, or the columns, of one parity. -/
def ofParity (low high parity : Nat) : List Nat :=
  (List.range' low (high - low)).filter (· % 2 = parity)

/-- The values of a phase's pixels, row by row. -/
def phasePixels (region : BlackRegion) (phase : Fin 4) (value : Nat → Nat → Nat) : List Nat :=
  (ofParity region.top region.bottom (phase.val / 2)).flatMap fun y =>
    (ofParity region.left region.right (phase.val % 2)).map fun x => value y x

/-- The sum over a phase's pixels, by the way each of them is read. -/
def phaseSum (region : BlackRegion) (phase : Fin 4) (buffer : Memory) (strideBytes : Nat)
    (read : ReadPixel) : Nat :=
  (phasePixels region phase fun y x => read buffer (rowStart strideBytes y) x).sum

theorem ofParity_eq_steps {low high parity : Nat} (evenLow : low % 2 = 0)
    (evenHigh : high % 2 = 0) (isParity : parity < 2) :
    ofParity low high parity = (stepsOfTwo low high).map (· + parity) := by
  obtain ⟨cells, wide⟩ : ∃ cells, high - low = 2 * cells := ⟨(high - low) / 2, by omega⟩
  rw [ofParity, stepsOfTwo, wide, show (2 * cells + 1) / 2 = cells by omega]
  clear wide
  induction cells with
  | zero => rfl
  | succ cells ih =>
    rw [show 2 * (cells + 1) = 2 * cells + 1 + 1 by omega, List.range'_concat,
      List.range'_concat, List.range'_concat, List.filter_append, List.filter_append, ih,
      List.map_append, List.append_assoc, Nat.one_mul, Nat.one_mul]
    congr 1
    have evenCell : (low + 2 * cells) % 2 = 0 := by omega
    have oddCell : (low + (2 * cells + 1)) % 2 = 1 := by omega
    obtain rfl | rfl : parity = 0 ∨ parity = 1 := by omega
    · simp only [List.filter_cons, List.filter_nil, evenCell, oddCell]
      rfl
    · simp only [List.filter_cons, List.filter_nil, evenCell, oddCell]
      rfl

variable {region : BlackRegion} {phase : Fin 4} {buffer : Memory}
  {strideBytes level i : Nat} {pixels : List Nat}

theorem phaseSum_add {read upper lower : ReadPixel}
    (split : ∀ rowStart x, read buffer rowStart x =
      4 * upper buffer rowStart x + lower buffer rowStart x) :
    phaseSum region phase buffer strideBytes read =
      4 * phaseSum region phase buffer strideBytes upper +
        phaseSum region phase buffer strideBytes lower := by
  simp only [phaseSum, phasePixels, split]
  induction ofParity region.top region.bottom (phase.val / 2) with
  | nil => rfl
  | cons y rows ih =>
    simp only [List.flatMap_cons, List.sum_append, ih, List.sum_map_add, List.sum_map_mul_left]
    ring

/-! ## The accumulators -/

/-- A `float` can hold each of the first numbers as it is. -/
theorem roundToFloat_of_le {n : Nat} (small : n ≤ 2 ^ 24) : roundToFloat n = n := by
  obtain rfl | below := Nat.eq_or_lt_of_le small
  · decide
  · have noShift : Nat.log2 n - 23 = 0 := by
      by_cases zero : n = 0
      · subst zero
        rfl
      · have := (Nat.log2_lt zero).mpr below
        omega
    simp [roundToFloat, noShift, Nat.mod_one]

/-- No addition of a loop is rounded. -/
def AddsExactly (level : Nat) (pixels : List Nat) : Prop :=
  ∀ n ≤ pixels.length, roundToFloat (level + (pixels.take n).sum) = level + (pixels.take n).sum

instance (level : Nat) (pixels : List Nat) : Decidable (AddsExactly level pixels) :=
  inferInstanceAs (Decidable (∀ n ≤ pixels.length, _))

/-- Small sums are not rounded. -/
theorem AddsExactly.of_le (small : level + pixels.sum ≤ 2 ^ 24) : AddsExactly level pixels := by
  intro n _
  have parts := List.sum_take_add_sum_drop pixels n
  exact roundToFloat_of_le (by omega)

/-- Additions that are not rounded give the sum. -/
theorem foldl_addFloat (exactly : AddsExactly level pixels) :
    pixels.foldl addFloat level = level + pixels.sum := by
  induction pixels generalizing level with
  | nil => rfl
  | cons pixel rest ih =>
    have first : roundToFloat (level + pixel) = level + pixel := by
      simpa using exactly 1 (by simp)
    have others : AddsExactly (level + pixel) rest := by
      intro n inRest
      have next := exactly (n + 1) (by simpa using inRest)
      rw [List.take_succ_cons, List.sum_cons, ← Nat.add_assoc] at next
      exact next
    rw [List.foldl_cons, addFloat, first, ih others, List.sum_cons]
    omega

/-- Each cell's second row is where its own offset says. -/
def PairsWhole (strideBytes : Nat) (region : BlackRegion) : Prop :=
  ∀ i ∈ stepsOfTwo region.top region.bottom, rowStart strideBytes i + strideBytes < 2 ^ 32

instance (strideBytes : Nat) (region : BlackRegion) : Decidable (PairsWhole strideBytes region) :=
  inferInstanceAs (Decidable (∀ i ∈ _, _))

theorem rowStart_pair (phase : Fin 4)
    (whole : rowStart strideBytes i + strideBytes < 2 ^ 32) :
    rowStart strideBytes (i + phase.val / 2) =
      rowStart strideBytes i + phase.val / 2 * strideBytes := by
  obtain isFirst | isSecond : phase.val / 2 = 0 ∨ phase.val / 2 = 1 := by omega
  · simp [isFirst]
  · unfold rowStart at *
    rw [isSecond, Nat.one_mul, Nat.add_one_mul]
    omega

theorem addCell_phase {j : Nat} {levels : Fin 4 → Nat}
    (phase : Fin 4) (whole : rowStart strideBytes i + strideBytes < 2 ^ 32) :
    addCell buffer strideBytes (rowStart strideBytes i) levels j phase =
      addFloat (levels phase)
        (getRawPixel buffer (rowStart strideBytes (i + phase.val / 2)) (j + phase.val % 2)) := by
  rw [rowStart_pair phase whole]
  fin_cases phase <;> simp [addCell]

/-- A loop that feeds one accumulator the values of each step. -/
theorem foldl_phase {step : (Fin 4 → Nat) → Nat → Fin 4 → Nat} {values : Nat → List Nat}
    {steps : List Nat} (feeds : ∀ i ∈ steps, ∀ levels, step levels i phase =
      (values i).foldl addFloat (levels phase)) (levels : Fin 4 → Nat) :
    steps.foldl step levels phase = (steps.flatMap values).foldl addFloat (levels phase) := by
  induction steps generalizing levels with
  | nil => rfl
  | cons i rest ih =>
    rw [List.foldl_cons, ih (fun other member => feeds other (List.mem_cons_of_mem _ member)),
      feeds i List.mem_cons_self, List.flatMap_cons, List.foldl_append]

/-- Each accumulator takes the pixels of its own phase. -/
theorem calculateBlacklevelForRaw10_eq (buffer : Memory) (whole : PairsWhole strideBytes region)
    (phase : Fin 4) :
    calculateBlacklevelForRaw10 buffer strideBytes region phase =
      (phasePixels region phase fun y x => getRawPixel buffer (rowStart strideBytes y) x).foldl
        addFloat 0 := by
  have evenTop := region.evenTop
  have evenLeft := region.evenLeft
  rw [phasePixels, ofParity_eq_steps evenTop region.evenBottom (by omega),
    ofParity_eq_steps evenLeft region.evenRight (by omega), List.flatMap_map]
  refine foldl_phase (fun i inRegion levels => ?_) _
  rw [List.map_map, List.map_eq_flatMap]
  exact foldl_phase (fun j _ levels => addCell_phase phase (whole i inRegion)) levels

/-! ## The two readings -/

theorem getRawPixel_eq (buffer : Memory) (rowStart j : Nat) :
    getRawPixel buffer rowStart j =
      4 * upperByte buffer rowStart j + lowBits id buffer rowStart j := by
  have lower : ∀ n : Nat, n &&& 3 = n % 4 := fun n => Nat.and_two_pow_sub_one_eq_mod n 2
  have small : ∀ n : Nat, n % 4 < 2 ^ 2 := fun n => Nat.mod_lt _ (by omega)
  simp only [getRawPixel, lower, lowBits, upperByte, id]
  rw [← Nat.shiftLeft_add_eq_or_of_lt (small _), Nat.shiftLeft_eq]
  omega

section Sums

variable (buffer : Memory) (strideBytes : Nat) (region : BlackRegion)

/-- The four sums are those of the pixels that the conversion extracts. -/
def SumsAgree : Prop :=
  ∀ phase, calculateBlacklevelForRaw10 buffer strideBytes region phase =
    phaseSum region phase buffer strideBytes mipiPixel

/-- Bits `c` and `c + 1` of the fifth bytes add up to the same as bits `2 * c` and
`2 * c + 1`, where `c` is the pixel's place in its group. -/
def LowBitsAgree : Prop :=
  ∀ phase, phaseSum region phase buffer strideBytes (lowBits id) =
    phaseSum region phase buffer strideBytes (lowBits (· <<< 1))

/-- No addition to an accumulator is rounded. -/
def FloatExact : Prop :=
  ∀ phase, AddsExactly 0 (phasePixels region phase fun y x =>
    getRawPixel buffer (rowStart strideBytes y) x)

/-- Up to its precision a `float` counts exactly. -/
theorem floatExact_of_le
    (small : ∀ phase, phaseSum region phase buffer strideBytes getRawPixel ≤ 2 ^ 24) :
    FloatExact buffer strideBytes region :=
  fun phase => .of_le ((Nat.zero_add _).trans_le (small phase))

/-- The sums are right exactly when the wrong shift of the macro does not change
the total of the low bits. -/
theorem blacklevel_agrees_iff (whole : PairsWhole strideBytes region)
    (exactly : FloatExact buffer strideBytes region) :
    SumsAgree buffer strideBytes region ↔ LowBitsAgree buffer strideBytes region := by
  refine forall_congr' fun phase => ?_
  have summed := foldl_addFloat (exactly phase)
  have byMacro : phaseSum region phase buffer strideBytes getRawPixel =
      4 * phaseSum region phase buffer strideBytes upperByte +
        phaseSum region phase buffer strideBytes (lowBits id) :=
    phaseSum_add (getRawPixel_eq buffer)
  have converted : phaseSum region phase buffer strideBytes mipiPixel =
      4 * phaseSum region phase buffer strideBytes upperByte +
        phaseSum region phase buffer strideBytes (lowBits (· <<< 1)) :=
    phaseSum_add (mipiPixel_eq buffer)
  rw [calculateBlacklevelForRaw10_eq buffer whole, summed, Nat.zero_add, converted]
  change phaseSum region phase buffer strideBytes getRawPixel = _ ↔ _
  rw [byMacro]
  exact Nat.add_left_cancel_iff

/-- A frame of one bit, the lower bit of the second pixel. -/
def oneBit : Memory := fun address => if address = 4 then 4 else 0

/-- A frame whose fifth bytes end in 1110, in which either shift finds the same. -/
def sameLowBits : Memory := fun address =>
  if address = 4 ∨ address = 12 then 14 else UInt8.ofNat (7 * address + 3)

/-- One cell of the Bayer pattern. -/
def oneCell : BlackRegion := ⟨0, 0, 2, 2, rfl, rfl, rfl, rfl, by decide⟩

/-- Sums of 14, 43, 238 and 267. -/
theorem blacklevel_agrees_cell : SumsAgree sameLowBits 8 oneCell := by
  have whole : PairsWhole 8 oneCell := by decide
  have exactly : FloatExact sameLowBits 8 oneCell := floatExact_of_le _ _ _ (by decide)
  refine (blacklevel_agrees_iff sameLowBits 8 oneCell whole exactly).mpr ?_
  unfold LowBitsAgree
  decide

/-- The macro moves the fifth byte by one bit for the second pixel, not by two. -/
theorem blacklevel_disagrees :
    ¬ ∀ (buffer : Memory) (strideBytes : Nat) (region : BlackRegion),
      SumsAgree buffer strideBytes region := by
  intro agrees
  exact absurd (agrees oneBit 8 oneCell 1) (by decide)

end Sums

end AnglerHal.BlackLevel
