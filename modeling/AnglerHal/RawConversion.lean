import AnglerHal.PlaneSound
import Mathlib.Tactic.IntervalCases

namespace AnglerHal.RawConversion

open PlaneLayout (Dimension Format IsPad PaddingInfo PlaneInfo bind_ok int32_ok le_padToSize
  padInt_ok padToSize packedPlane packedPlane_ok packedStride streamCalcOffsetRaw)

/-!
# In-place conversion of raw frames

`QCamera3RawChannel` turns the packed 10-bit pixels of a frame into 16-bit ones
inside the frame's own buffer, from the last pixel to the first.  A byte may
therefore be overwritten before it is read; whether it is depends on the stride
that `mm_stream_calc_offset_raw` gives the packed rows.

The rows and pixels of a frame are found by `uint32_t` offsets, which wrap.  They
do not where `mm_stream_calc_offset_raw` has computed the frame's length.
-/

/-- The bytes from `frame->buffer` on. -/
abbrev Memory := Nat → UInt8

/-- `raw16_buffer[i] = value`, in the byte order of the processor. -/
def store16 (memory : Memory) (i value : Nat) : Memory := fun address =>
  if address = 2 * i then UInt8.ofNat value
  else if address = 2 * i + 1 then UInt8.ofNat (value / 256)
  else memory address

/-- `raw16_buffer[i]`. -/
def load16 (memory : Memory) (i : Nat) : Nat :=
  (memory (2 * i)).toNat + 256 * (memory (2 * i + 1)).toNat

/-- The `uint64_t` that starts at a byte. -/
def load64 (memory : Memory) (address : Nat) : Nat :=
  (memory address).toNat + 256 * ((memory (address + 1)).toNat +
    256 * ((memory (address + 2)).toNat + 256 * ((memory (address + 3)).toNat +
      256 * ((memory (address + 4)).toNat + 256 * ((memory (address + 5)).toNat +
        256 * ((memory (address + 6)).toNat + 256 * (memory (address + 7)).toNat))))))

/-- A bit of a word lies in one of its bytes. -/
theorem testBit_load64 {memory : Memory} {address bit : Nat} (inWord : bit < 64) :
    (load64 memory address).testBit bit = (memory (address + bit / 8)).toNat.testBit (bit % 8) := by
  have bytes := fun address => (memory address).toNat_lt
  have step : ∀ {byte rest bit : Nat}, byte < 2 ^ 8 → (byte + 256 * rest).testBit bit =
      if bit < 8 then byte.testBit bit else rest.testBit (bit - 8) := by
    intro byte rest bit small
    rw [Nat.add_comm]
    exact Nat.testBit_two_pow_mul_add rest small bit
  simp only [load64, step (bytes _)]
  interval_cases bit <;> rfl

section Stores

variable {memory : Memory} {i j value address : Nat}

theorem load16_store16 (fits : value < 65536) : load16 (store16 memory i value) i = value := by
  have high : value / 256 % 256 = value / 256 := Nat.mod_eq_of_lt (by omega)
  simp only [load16, store16, if_true, show 2 * i + 1 ≠ 2 * i by omega, if_false,
    UInt8.toNat_ofNat']
  omega

theorem store16_other (other : address < 2 * i ∨ 2 * i + 2 ≤ address) :
    store16 memory i value address = memory address := by
  have notLow : address ≠ 2 * i := by omega
  have notHigh : address ≠ 2 * i + 1 := by omega
  simp [store16, notLow, notHigh]

theorem load16_congr {other : Memory}
    (same : ∀ address, 2 * i ≤ address → memory address = other address) :
    load16 memory i = load16 other i := by
  simp [load16, same (2 * i) (by omega), same (2 * i + 1) (by omega)]

theorem load16_store16_ne (other : i ≠ j) :
    load16 (store16 memory j value) i = load16 memory i := by
  simp only [load16]
  rw [store16_other (by omega), store16_other (by omega)]

end Stores

/-! ## The loops -/

/-- The raw formats that the channel converts. -/
inductive RawFormat where
  /-- `CAM_FORMAT_BAYER_QCOM_RAW_10BPP_*` and the ideal ones. -/
  | qcomRaw10
  /-- `CAM_FORMAT_BAYER_MIPI_RAW_10BPP_*` and the ideal ones. -/
  | mipiRaw10
  deriving DecidableEq

/-- The formats of `mm_stream_calc_offset_raw` that are packed so. -/
def RawFormat.formats : RawFormat → List Format
  | .qcomRaw10 => [.bayer .qcom .bpp10, .bayer .idealQcom .bpp10]
  | .mipiRaw10 => [.bayer .mipi .bpp10, .bayer .idealMipi .bpp10]

/-- `raw16_stride`: the width on whole groups of 16 pixels. -/
def raw16Stride (width : Nat) : Nat :=
  padToSize width 16

/-- What the conversions ask of the stream. -/
structure Stream where
  width : Nat
  height : Nat
  strideInBytes : Nat
  deriving DecidableEq

/-- `getFrameDimension` and `getFrameOffset`. -/
def streamOf (dim : Dimension) (info : PlaneInfo) : Option Stream := do
  let plane ← info.planes.head?
  let strideInBytes ← plane.strideInBytes
  return ⟨dim.width, dim.height, strideInBytes⟩

/-- `y * (uint32_t) offset.mp[0].stride_in_bytes`. -/
def rowStart (strideInBytes y : Nat) : Nat :=
  y * strideInBytes % 2 ^ 32

/-- `y * raw16_stride + x`, on `uint32_t`. -/
def Stream.raw16Index (stream : Stream) (y x : Nat) : Nat :=
  (y * raw16Stride stream.width + x) % 2 ^ 32

/-- How one pixel of the packed frame is read: row start, then column. -/
abbrev ReadPixel := Memory → Nat → Nat → Nat

/-- The loop over `xs`, from column `columns - 1` down to 0. -/
def convertColumns (read : Memory → Nat → Nat) (index : Nat → Nat) : Nat → Memory → Memory
  | 0, memory => memory
  | x + 1, memory =>
    convertColumns read index x (store16 memory (index x) (read memory x))

/-- The loop over `ys`, from row `rows - 1` down to 0. -/
def convertRows (read : ReadPixel) (stream : Stream) : Nat → Memory → Memory
  | 0, memory => memory
  | y + 1, memory =>
    convertRows read stream y
      (convertColumns (fun memory => read memory (rowStart stream.strideInBytes y))
        (stream.raw16Index y) stream.width memory)

/-- The pixel that the legacy format keeps in ten bits of a 64-bit word. -/
def legacyPixel : ReadPixel := fun memory rowStart x =>
  load64 memory (rowStart / 8 * 8 + 8 * (x / 6)) >>> (10 * (x % 6)) &&& 0x3FF

/-- The pixel that MIPI keeps in a byte and two bits of the fifth byte. -/
def mipiPixel : ReadPixel := fun memory rowStart x =>
  let upper8bit := (memory (rowStart + (5 * (x / 4) + x % 4))).toNat
  let lower2bit := (memory (rowStart + (5 * (x / 4) + 4))).toNat >>> ((x % 4) <<< 1) &&& 0x3
  upper8bit <<< 2 ||| lower2bit

def convertLegacyToRaw16 (stream : Option Stream) (buffer : Memory) : Memory :=
  match stream with
  | some stream => convertRows legacyPixel stream stream.height buffer
  -- Could not find stream.
  | none => buffer

/-- `raw_proc_fn` is what `libgoog_rownr` offers, where it is installed. -/
def convertMipiToRaw16 (rawProc : Option (Memory → Stream → Memory)) (stream : Option Stream)
    (buffer : Memory) : Memory :=
  match stream with
  | some stream =>
    let firstQuintuple := fun i => (buffer i).toNat
    let processed := match rawProc with
      | some process => process buffer stream
      | none => buffer
    let converted := convertRows mipiPixel stream stream.height processed
    -- The loop has overwritten the fifth byte when it reads the first two pixels.
    store16
      (store16 converted 0 (firstQuintuple 0 <<< 2 ||| firstQuintuple 4 &&& 0x3))
      1 (firstQuintuple 1 <<< 2 ||| firstQuintuple 4 >>> 2 &&& 0x3)
  | none => buffer

/-- The conversion of a format, without `libgoog_rownr`. -/
def RawFormat.convert : RawFormat → Option Stream → Memory → Memory
  | .qcomRaw10 => convertLegacyToRaw16
  | .mipiRaw10 => convertMipiToRaw16 none

/-! ## The packed pixels -/

/--
Bit `b` of a pixel.  The legacy format has six pixels in the lower 60 bits of a
64-bit word.  MIPI has the upper eight bits of four pixels in four bytes, and their
lower two in a fifth.
-/
def packedBit (format : RawFormat) (memory : Memory) (rowStart x b : Nat) : Bool :=
  match format with
  | .qcomRaw10 =>
    let bit := 10 * (x % 6) + b
    (memory (rowStart + 8 * (x / 6) + bit / 8)).toNat.testBit (bit % 8)
  | .mipiRaw10 =>
    if b < 2 then (memory (rowStart + 5 * (x / 4) + 4)).toNat.testBit (2 * (x % 4) + b)
    else (memory (rowStart + 5 * (x / 4) + x % 4)).toNat.testBit (b - 2)

/-- A number is the 10-bit pixel that is packed there. -/
def IsPacked (format : RawFormat) (memory : Memory) (rowStart x value : Nat) : Prop :=
  value < 2 ^ 10 ∧ ∀ b < 10, value.testBit b = packedBit format memory rowStart x b

/-! ## The offsets -/

/-- The length of the packed frame is an `int`, and a converted row is at most twice as
long as a packed one. -/
structure Stream.Fits (stream : Stream) : Prop where
  packed : stream.height * stream.strideInBytes < 2 ^ 31
  stride : raw16Stride stream.width ≤ 2 * stream.strideInBytes

section Offsets

variable {stream : Stream} {x y : Nat}

theorem raw16Stride_eq (width : Nat) : raw16Stride width = 16 * ((width + 15) / 16) :=
  IsPad.sixteen.padToSize_eq width

theorem width_le_raw16Stride (width : Nat) : width ≤ raw16Stride width :=
  le_padToSize width 16

/-- No row of a frame that fits starts behind the range of `uint32_t`. -/
theorem Stream.Fits.rowStart_eq (fits : stream.Fits) (inFrame : y < stream.height) :
    rowStart stream.strideInBytes y = y * stream.strideInBytes := by
  have below : y * stream.strideInBytes ≤ stream.height * stream.strideInBytes :=
    Nat.mul_le_mul_right _ (Nat.le_of_lt inFrame)
  have packed := fits.packed
  exact Nat.mod_eq_of_lt (by omega)

/-- Nor is any pixel stored there. -/
theorem Stream.Fits.raw16Index_eq (fits : stream.Fits) (inRow : x < stream.width)
    (inFrame : y < stream.height) :
    stream.raw16Index y x = y * raw16Stride stream.width + x := by
  have wide := width_le_raw16Stride stream.width
  have rows : (y + 1) * raw16Stride stream.width ≤ stream.height * raw16Stride stream.width :=
    Nat.mul_le_mul_right _ inFrame
  have bytes : stream.height * raw16Stride stream.width ≤
      stream.height * (2 * stream.strideInBytes) :=
    Nat.mul_le_mul_left _ fits.stride
  have packed := fits.packed
  rw [Nat.add_one_mul] at rows
  rw [Nat.mul_left_comm] at bytes
  exact Nat.mod_eq_of_lt (by omega)

end Offsets

/-! ## What a descending pass leaves -/

section Pass

variable {read : Memory → Nat → Nat} {index : Nat → Nat} {start columns address x : Nat}
  {memory : Memory}

/-- A pixel is read from bytes that no later position of `raw16_buffer` covers. -/
def ReadsBelow (read : Memory → Nat → Nat) (start x : Nat) : Prop :=
  ∀ memory other : Memory, (∀ address < 2 * (start + x) + 2, memory address = other address) →
    read memory x = read other x

/-- The pass writes the columns of its row only. -/
theorem convertColumns_outside (inPlace : ∀ x < columns, index x = start + x)
    (outside : address < 2 * start ∨ 2 * (start + columns) ≤ address) :
    convertColumns read index columns memory address = memory address := by
  induction columns generalizing memory with
  | zero => rfl
  | succ x ih =>
    rw [convertColumns, ih (fun column before => inPlace column (by omega)) (by omega),
      inPlace x (by omega)]
    exact store16_other (by omega)

/-- The pass converts every pixel whose bytes it has not overwritten by then. -/
theorem convertColumns_pixel (inPlace : ∀ x < columns, index x = start + x)
    (fits : ∀ memory x, read memory x < 65536)
    (below : ReadsBelow read start x) (inRow : x < columns) :
    load16 (convertColumns read index columns memory) (start + x) = read memory x := by
  induction columns generalizing memory with
  | zero => omega
  | succ last ih =>
    have before : ∀ x < last, index x = start + x := fun x earlier => inPlace x (by omega)
    rw [convertColumns, inPlace last (by omega)]
    by_cases isLast : x = last
    · subst isLast
      rw [load16_congr (fun address above => convertColumns_outside before (.inr (by omega))),
        load16_store16 (fits memory x)]
    · rw [ih before (by omega)]
      exact below _ _ fun address bound => store16_other (by omega)

end Pass

section Rows

variable {read : ReadPixel} {stream : Stream} {rows address x y : Nat} {memory : Memory}

/-- Converting the upper rows leaves what is behind them. -/
theorem convertRows_above (fits : stream.Fits) (inFrame : rows ≤ stream.height)
    (above : 2 * (rows * raw16Stride stream.width) ≤ address) :
    convertRows read stream rows memory address = memory address := by
  induction rows generalizing memory with
  | zero => rfl
  | succ y ih =>
    have wide := width_le_raw16Stride stream.width
    have next := Nat.add_one_mul y (raw16Stride stream.width)
    rw [convertRows, ih (by omega) (by omega)]
    exact convertColumns_outside (fun x inRow => fits.raw16Index_eq inRow inFrame)
      (.inr (by omega))

/-- The loops convert every pixel whose bytes they have not overwritten by then. -/
theorem convertRows_pixel (fits : stream.Fits) (framed : rows ≤ stream.height)
    (small : ∀ memory rowStart x, read memory rowStart x < 65536)
    (below : ReadsBelow (fun memory => read memory (y * stream.strideInBytes))
      (y * raw16Stride stream.width) x)
    (inRow : x < stream.width) (inFrame : y < rows) :
    load16 (convertRows read stream rows memory) (y * raw16Stride stream.width + x) =
      read memory (y * stream.strideInBytes) x := by
  have wide := width_le_raw16Stride stream.width
  induction rows generalizing memory with
  | zero => omega
  | succ last ih =>
    have inPlace : ∀ x < stream.width,
        stream.raw16Index last x = last * raw16Stride stream.width + x :=
      fun x inRow => fits.raw16Index_eq inRow framed
    rw [convertRows, fits.rowStart_eq framed]
    by_cases isLast : y = last
    · subst isLast
      rw [load16_congr (fun address above => convertRows_above fits (by omega) (by omega))]
      exact convertColumns_pixel inPlace (fun memory => small memory _) below inRow
    · have earlier : (y + 1) * raw16Stride stream.width ≤ last * raw16Stride stream.width :=
        Nat.mul_le_mul_right _ (by omega)
      have next := Nat.add_one_mul y (raw16Stride stream.width)
      rw [ih (by omega) (by omega)]
      exact below _ _ fun address bound => convertColumns_outside inPlace (.inl (by omega))

end Rows

/-! ## The legacy format -/

/-- The ten bits of a pixel lie in two bytes of its word. -/
theorem legacyPixel_eq (memory : Memory) (rowStart x : Nat) :
    legacyPixel memory rowStart x =
      (let first := rowStart / 8 * 8 + 8 * (x / 6) + 10 * (x % 6) / 8
       ((memory first).toNat + 256 * (memory (first + 1)).toNat) / 2 ^ (10 * (x % 6) % 8) %
        1024) := by
  have bounded : x % 6 < 6 := Nat.mod_lt _ (by omega)
  have bytes := fun address => (memory address).toNat_lt
  simp only [legacyPixel, Nat.shiftRight_eq_div_pow, load64]
  rw [show (0x3FF : Nat) = 2 ^ 10 - 1 from rfl, Nat.and_two_pow_sub_one_eq_mod]
  generalize rowStart / 8 * 8 + 8 * (x / 6) = base
  have b0 := bytes base
  have b1 := bytes (base + 1)
  have b2 := bytes (base + 2)
  have b3 := bytes (base + 3)
  have b4 := bytes (base + 4)
  have b5 := bytes (base + 5)
  have b6 := bytes (base + 6)
  have b7 := bytes (base + 7)
  generalize x % 6 = column at *
  interval_cases column <;> norm_num [Nat.add_assoc] <;> omega

theorem legacyPixel_lt (memory : Memory) (rowStart x : Nat) :
    legacyPixel memory rowStart x < 65536 := by
  rw [legacyPixel_eq]
  exact lt_trans (Nat.mod_lt _ (by omega)) (by omega)

/-- What the legacy reader gives is the packed pixel. -/
theorem legacyPixel_isPacked (memory : Memory) {rowStart : Nat} (x : Nat)
    (whole : rowStart % 8 = 0) :
    IsPacked .qcomRaw10 memory rowStart x (legacyPixel memory rowStart x) := by
  refine ⟨?_, fun b inPixel => ?_⟩
  · rw [legacyPixel_eq]
    exact Nat.mod_lt _ (by omega)
  · have inWord : 10 * (x % 6) + b < 64 := by omega
    rw [legacyPixel, show (0x3FF : Nat) = 2 ^ 10 - 1 from rfl, Nat.and_two_pow_sub_one_eq_mod,
      Nat.testBit_mod_two_pow, Nat.testBit_shiftRight, testBit_load64 inWord]
    simp [packedBit, inPixel, show rowStart / 8 * 8 = rowStart by omega]

variable {width stride x y : Nat} {stream : Stream} {format : RawFormat} {fmt : Format}

/-- A packed row is no longer than the row it is converted to. -/
theorem legacyPixel_readsBelow (x y : Nat) (short : stride ≤ 2 * raw16Stride width) :
    ReadsBelow (fun memory => legacyPixel memory (y * stride)) (y * raw16Stride width) x := by
  intro memory other same
  have rows := Nat.mul_le_mul_left y short
  rw [Nat.mul_left_comm] at rows
  simp only [legacyPixel_eq]
  rw [same _ (by omega), same _ (by omega)]

/-- The legacy loops leave what the reader gives for the original frame. -/
theorem convertLegacyToRaw16_reads (buffer : Memory)
    (fits : stream.Fits) (short : stream.strideInBytes ≤ 2 * raw16Stride stream.width)
    (inRow : x < stream.width) (inFrame : y < stream.height) :
    load16 (convertLegacyToRaw16 (some stream) buffer) (y * raw16Stride stream.width + x) =
      legacyPixel buffer (y * stream.strideInBytes) x :=
  convertRows_pixel fits (Nat.le_refl _) legacyPixel_lt (legacyPixel_readsBelow x y short) inRow
    inFrame

/-! ## The MIPI format -/

theorem mipiPixel_eq (memory : Memory) (rowStart x : Nat) :
    mipiPixel memory rowStart x =
      4 * (memory (rowStart + (5 * (x / 4) + x % 4))).toNat +
        (memory (rowStart + (5 * (x / 4) + 4))).toNat >>> ((x % 4) <<< 1) % 4 := by
  have lower : ∀ n : Nat, n &&& 3 = n % 4 := fun n => Nat.and_two_pow_sub_one_eq_mod n 2
  have small : ∀ n : Nat, n % 4 < 2 ^ 2 := fun n => Nat.mod_lt _ (by omega)
  simp only [mipiPixel, lower]
  rw [← Nat.shiftLeft_add_eq_or_of_lt (small _), Nat.shiftLeft_eq]
  omega

/-- What the MIPI reader gives is the packed pixel. -/
theorem mipiPixel_isPacked (memory : Memory) (rowStart x : Nat) :
    IsPacked .mipiRaw10 memory rowStart x (mipiPixel memory rowStart x) := by
  refine ⟨?_, fun b inPixel => ?_⟩
  · have byte := (memory (rowStart + (5 * (x / 4) + x % 4))).toNat_lt
    rw [mipiPixel_eq]
    omega
  · have twice : (x % 4) <<< 1 = 2 * (x % 4) := by
      rw [Nat.shiftLeft_eq]
      omega
    simp only [mipiPixel, packedBit, Nat.testBit_or, Nat.testBit_shiftLeft, Nat.testBit_and,
      Nat.testBit_shiftRight, twice, ← Nat.add_assoc]
    rw [show (0x3 : Nat) = 2 ^ 2 - 1 from rfl, Nat.testBit_two_pow_sub_one]
    by_cases inLower : b < 2
    · simp [inLower]
    · simp [inLower, show 2 ≤ b by omega]

theorem mipiPixel_lt (memory : Memory) (rowStart x : Nat) :
    mipiPixel memory rowStart x < 65536 :=
  Nat.lt_trans (mipiPixel_isPacked memory rowStart x).1 (by omega)

/-- Only the first two pixels of the frame are read too late. -/
theorem mipiPixel_readsBelow (short : stride + 3 ≤ 2 * raw16Stride width)
    (notFirst : 2 ≤ x ∨ 0 < y) :
    ReadsBelow (fun memory => mipiPixel memory (y * stride)) (y * raw16Stride width) x := by
  intro memory other same
  have rows := Nat.mul_le_mul_left y short
  rw [Nat.mul_add, Nat.mul_left_comm] at rows
  simp only [mipiPixel_eq]
  rw [same _ (by omega), same _ (by omega)]

/-- What the fix-up stores for the first two pixels. -/
theorem mipiPixel_first (memory : Memory) :
    mipiPixel memory 0 0 = ((memory 0).toNat <<< 2 ||| (memory 4).toNat &&& 0x3) ∧
    mipiPixel memory 0 1 = ((memory 1).toNat <<< 2 ||| (memory 4).toNat >>> 2 &&& 0x3) :=
  ⟨rfl, rfl⟩

/-- The MIPI loops and the fix-up leave what the reader gives for the original frame. -/
theorem convertMipiToRaw16_reads (buffer : Memory)
    (fits : stream.Fits) (short : stream.strideInBytes + 3 ≤ 2 * raw16Stride stream.width)
    (inRow : x < stream.width) (inFrame : y < stream.height) :
    load16 (convertMipiToRaw16 none (some stream) buffer)
        (y * raw16Stride stream.width + x) =
      mipiPixel buffer (y * stream.strideInBytes) x := by
  obtain ⟨first, second⟩ := mipiPixel_first buffer
  simp only [convertMipiToRaw16]
  rw [← first, ← second]
  by_cases fixed : x < 2 ∧ y = 0
  · obtain ⟨inPair, rfl⟩ := fixed
    rw [Nat.zero_mul, Nat.zero_mul, Nat.zero_add]
    interval_cases x
    · rw [load16_store16_ne (by omega), load16_store16 (mipiPixel_lt buffer 0 0)]
    · rw [load16_store16 (mipiPixel_lt buffer 0 1)]
  · have row : 0 < y → raw16Stride stream.width ≤ y * raw16Stride stream.width :=
      fun later => Nat.le_mul_of_pos_left _ later
    have padded := raw16Stride_eq stream.width
    rw [load16_store16_ne (by omega), load16_store16_ne (by omega)]
    exact convertRows_pixel fits (Nat.le_refl _) mipiPixel_lt
      (mipiPixel_readsBelow short (by omega)) inRow inFrame

/-! ## The layout of the packed frame -/

/-- The bytes of a packed row: 16 for 12 pixels, or 80 for 64 of them. -/
def packedRow (format : RawFormat) (width : Nat) : Nat :=
  match format with
  | .qcomRaw10 => 16 * ((width + 11) / 12)
  | .mipiRaw10 => 8 * ((5 * ((width + 3) / 4) + 7) / 8)

theorem packedStride_row {strides : Nat × Nat}
    (packs : fmt ∈ format.formats) (strided : packedStride fmt width = .ok strides) :
    strides.2 = packedRow format width := by
  cases format with
  | qcomRaw10 =>
    have computed : (do
        let rounded ← PlaneLayout.checkedInt32 (width + 11)
        let bits ← PlaneLayout.checkedInt32 (rounded / 12 * 12 * 8)
        return (rounded / 12 * 12, bits / 6)) = Except.ok strides := by
      rcases List.mem_pair.mp packs with rfl | rfl <;> exact strided
    obtain ⟨rounded, isRounded, computed⟩ := bind_ok.mp computed
    obtain ⟨bits, isBits, computed⟩ := bind_ok.mp computed
    obtain ⟨rfl, _⟩ := int32_ok.mp isRounded
    obtain ⟨rfl, _⟩ := int32_ok.mp isBits
    obtain rfl := Except.ok.inj computed
    simp only [packedRow]
    omega
  | mipiRaw10 =>
    have computed : (do
        let stride ← PlaneLayout.padInt width 4
        let fifths ← PlaneLayout.checkedInt32 (stride * 5)
        let strideInBytes ← PlaneLayout.padInt (fifths / 4) 8
        return (stride, strideInBytes)) = Except.ok strides := by
      rcases List.mem_pair.mp packs with rfl | rfl <;> exact strided
    obtain ⟨stride, isStride, computed⟩ := bind_ok.mp computed
    obtain ⟨fifths, isFifths, computed⟩ := bind_ok.mp computed
    obtain ⟨strideInBytes, isBytes, computed⟩ := bind_ok.mp computed
    obtain rfl := padInt_ok isStride
    obtain ⟨rfl, _⟩ := int32_ok.mp isFifths
    obtain rfl := padInt_ok isBytes
    obtain rfl := Except.ok.inj computed
    rw [IsPad.four.padToSize_eq, IsPad.eight.padToSize_eq, packedRow]
    omega

/-- What `mm_stream_calc_offset_raw` promises the conversions. -/
theorem streamOf_layout {dim : Dimension}
    {padding : PaddingInfo} {info : PlaneInfo} (packs : fmt ∈ format.formats)
    (laidOut : streamCalcOffsetRaw fmt dim padding = .ok info)
    (found : streamOf dim info = some stream) :
    stream.width = dim.width ∧ stream.height = dim.height ∧
      stream.strideInBytes = packedRow format dim.width ∧
      stream.height * stream.strideInBytes < 2 ^ 31 := by
  have computed : (do
      let _ ← PlaneLayout.padInt dim.width padding.widthPadding
      let scanline ← PlaneLayout.padInt dim.height padding.heightPadding
      let strides ← packedStride fmt dim.width
      let info ← packedPlane padding strides.1 strides.2 scanline
      return info.asOneRow) = Except.ok info := by
    cases format <;> rcases List.mem_pair.mp packs with rfl | rfl <;> exact laidOut
  obtain ⟨_, _, computed⟩ := bind_ok.mp computed
  obtain ⟨scanline, isScanline, computed⟩ := bind_ok.mp computed
  obtain ⟨strides, strided, computed⟩ := bind_ok.mp computed
  obtain ⟨packed, isPlane, computed⟩ := bind_ok.mp computed
  obtain rfl := Except.ok.inj computed
  obtain ⟨plane, isOnly, isStride, length⟩ := packedPlane_ok isPlane
  have isStream : some (⟨dim.width, dim.height, strides.2⟩ : Stream) = some stream := by
    rw [← found]
    simp [streamOf, PlaneInfo.asOneRow, isOnly, isStride]
  obtain rfl := Option.some.inj isStream
  have high := Nat.mul_le_mul_right strides.2 (le_padToSize dim.height padding.heightPadding)
  rw [← padInt_ok isScanline, Nat.mul_comm] at length
  exact ⟨rfl, rfl, packedStride_row packs strided, Nat.lt_of_le_of_lt high length⟩

/--
In place, either conversion leaves at each position of the 16-bit frame the pixel
that the original content packs there, for every stride that
`mm_stream_calc_offset_raw` computes.
-/
theorem conversions_decode {format : RawFormat} {fmt : Format} {dim : Dimension}
    {padding : PaddingInfo} {info : PlaneInfo} {stream : Stream} {x y : Nat}
    (packs : fmt ∈ format.formats) (laidOut : streamCalcOffsetRaw fmt dim padding = .ok info)
    (found : streamOf dim info = some stream) (buffer : Memory) (inRow : x < dim.width)
    (inFrame : y < dim.height) :
    IsPacked format buffer (y * stream.strideInBytes) x
      (load16 (format.convert (some stream) buffer) (y * raw16Stride dim.width + x)) := by
  obtain ⟨width, height, strideInBytes, length⟩ := streamOf_layout packs laidOut found
  have padded := raw16Stride_eq stream.width
  rw [← width] at inRow strideInBytes ⊢
  rw [← height] at inFrame
  cases format with
  | qcomRaw10 =>
    rw [packedRow] at strideInBytes
    have fits : stream.Fits := ⟨length, by omega⟩
    rw [RawFormat.convert, convertLegacyToRaw16_reads buffer fits (by omega) inRow inFrame]
    refine legacyPixel_isPacked buffer x ?_
    rw [strideInBytes, Nat.mul_left_comm]
    omega
  | mipiRaw10 =>
    rw [packedRow] at strideInBytes
    have fits : stream.Fits := ⟨length, by omega⟩
    rw [RawFormat.convert, convertMipiToRaw16_reads buffer fits (by omega) inRow inFrame]
    exact mipiPixel_isPacked buffer (y * stream.strideInBytes) x

/-- Paddings as a camera asks for them. -/
def rawPadding : PaddingInfo := ⟨16, 16, 4096, 0, 0⟩

/-- The second pixel of a frame of one row, which the MIPI pass reads too late. -/
theorem conversions_decode_second : ∃ info stream,
    streamCalcOffsetRaw (.bayer .mipi .bpp10) ⟨6, 1⟩ rawPadding = .ok info ∧
      streamOf ⟨6, 1⟩ info = some stream ∧
      IsPacked .mipiRaw10 (fun address => UInt8.ofNat (7 * address)) (0 * stream.strideInBytes) 1
        (load16 (RawFormat.mipiRaw10.convert (some stream)
          fun address => UInt8.ofNat (7 * address)) (0 * raw16Stride 6 + 1)) :=
  ⟨_, ⟨6, 1, 16⟩, rfl, rfl, @conversions_decode .mipiRaw10 (.bayer .mipi .bpp10) ⟨6, 1⟩ rawPadding
    _ ⟨6, 1, 16⟩ 1 0 (by decide) rfl rfl _ (by decide) (by decide)⟩

end AnglerHal.RawConversion
