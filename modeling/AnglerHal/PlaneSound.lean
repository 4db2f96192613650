import AnglerHal.PlaneLayout
import Mathlib.Data.List.Forall2

namespace AnglerHal.PlaneLayout

/-!
# Sound plane layouts

A plane must hold the rows that its format has, and the frame its planes.  This is so
for all formats with dimensions and paddings of ordinary size, but for the chroma plane
of the Adreno format and the length of a metadata frame.
-/

/-! ## Padding -/

/-- Masking never takes more away than was added. -/
theorem le_padToSize (size padding : Nat) : size ≤ padToSize size padding := by
  have masked : (size + (padding - 1)) &&& (padding - 1) ≤ padding - 1 := Nat.and_le_right
  unfold padToSize
  omega

/-- A power of two up to 4096. -/
def IsPad (padding : Nat) : Prop :=
  ∃ exponent ≤ 12, padding = 2 ^ exponent

namespace IsPad

theorem one : IsPad 1 := ⟨0, by decide, rfl⟩
theorem two : IsPad 2 := ⟨1, by decide, rfl⟩
theorem four : IsPad 4 := ⟨2, by decide, rfl⟩
theorem eight : IsPad 8 := ⟨3, by decide, rfl⟩
theorem sixteen : IsPad 16 := ⟨4, by decide, rfl⟩
theorem thirtyTwo : IsPad 32 := ⟨5, by decide, rfl⟩
theorem sixtyFour : IsPad 64 := ⟨6, by decide, rfl⟩
theorem twoK : IsPad 2048 := ⟨11, by decide, rfl⟩
theorem fourK : IsPad 4096 := ⟨12, by decide, rfl⟩

variable {padding : Nat}

theorem pos (pad : IsPad padding) : 0 < padding := by
  obtain ⟨exponent, _, rfl⟩ := pad
  exact Nat.two_pow_pos exponent

theorem dvd_fourK (pad : IsPad padding) : padding ∣ 4096 := by
  obtain ⟨exponent, small, rfl⟩ := pad
  exact Nat.pow_dvd_pow 2 small

theorem le_fourK (pad : IsPad padding) : padding ≤ 4096 :=
  Nat.le_of_dvd (by decide) pad.dvd_fourK

/-- Masking rounds up to a multiple. -/
theorem padToSize_eq (pad : IsPad padding) (size : Nat) :
    padToSize size padding = padding * ((size + (padding - 1)) / padding) := by
  obtain ⟨exponent, _, rfl⟩ := pad
  have division := Nat.div_add_mod (size + (2 ^ exponent - 1)) (2 ^ exponent)
  rw [padToSize, Nat.and_two_pow_sub_one_eq_mod]
  omega

theorem dvd_padToSize (pad : IsPad padding) (size : Nat) : padding ∣ padToSize size padding := by
  rw [pad.padToSize_eq]
  exact Nat.dvd_mul_right padding _

theorem padToSize_le_add (pad : IsPad padding) (size : Nat) :
    padToSize size padding ≤ size + (padding - 1) := by
  rw [pad.padToSize_eq]
  exact Nat.mul_div_le _ _

variable {size : Nat}

/-- A bound that is a multiple itself is kept. -/
theorem padToSize_le {bound : Nat} (pad : IsPad padding) (multiple : padding ∣ bound)
    (below : size ≤ bound) : padToSize size padding ≤ bound := by
  obtain ⟨factor, rfl⟩ := multiple
  have positive := pad.pos
  rw [pad.padToSize_eq]
  refine Nat.mul_le_mul_left padding (Nat.lt_succ_iff.mp ?_)
  rw [Nat.div_lt_iff_lt_mul positive, Nat.succ_mul, Nat.mul_comm factor]
  omega

/-- Rounding up gives whole pages if less than the padding is missing from them. -/
theorem pages_iff (pad : IsPad padding) :
    4096 ∣ padToSize size padding ↔ (size + (padding - 1)) % 4096 < padding := by
  obtain ⟨factor, pages⟩ := pad.dvd_fourK
  have positive := pad.pos
  have small := Nat.mod_lt (size + (padding - 1)) positive
  rw [pad.padToSize_eq, pages, Nat.mul_dvd_mul_iff_left positive, Nat.mod_mul,
    Nat.dvd_iff_mod_eq_zero]
  constructor
  · intro whole
    rw [whole]
    omega
  · intro below
    have zero : padding * ((size + (padding - 1)) / padding % factor) < padding * 1 := by omega
    have none := Nat.lt_of_mul_lt_mul_left zero
    omega

/-- What the functions use of a padded dimension. -/
theorem padded (pad : IsPad padding) (inRange : size ≤ 16384) :
    size ≤ padToSize size padding ∧ padToSize size padding ≤ 16384 :=
  ⟨le_padToSize size padding, pad.padToSize_le (Nat.dvd_trans pad.dvd_fourK ⟨4, rfl⟩) inRange⟩

end IsPad

variable {α β : Type}
  {value result padding stride strideInBytes scanline offsetY width height : Nat}
  {info : StreamInfo}

theorem ok_bind (value : α) (next : α → Except Failure β) :
    (Except.ok value >>= next) = next value :=
  rfl

/-- A computation delivers a result through the results of its parts. -/
theorem bind_ok {computed : Except Failure α} {next : α → Except Failure β} {result : β} :
    (computed >>= next) = .ok result ↔ ∃ value, computed = .ok value ∧ next value = .ok result := by
  cases computed with
  | error failure =>
    constructor
    · intro equal
      cases equal
    · rintro ⟨_, equal, _⟩
      cases equal
  | ok value =>
    constructor
    · intro equal
      exact ⟨value, rfl, equal⟩
    · rintro ⟨_, same, equal⟩
      rw [Except.ok.inj same]
      exact equal

theorem int32_ok :
    checkedInt32 value = .ok result ↔ value = result ∧ value < 2 ^ 31 := by
  unfold checkedInt32
  split
  · next fits => exact ⟨fun equal => ⟨Except.ok.inj equal, fits⟩, fun equal => by rw [equal.1]⟩
  · next outside => exact ⟨fun equal => (nomatch equal), fun equal => absurd equal.2 outside⟩

theorem padInt_ok {size : Nat} (padded : padInt size padding = .ok result) :
    padToSize size padding = result := by
  obtain ⟨_, _, equal⟩ := bind_ok.mp padded
  exact Except.ok.inj equal

/-- A packed plane has the stride it was given, and a length that an `int` can hold. -/
theorem packedPlane_ok {padding : PaddingInfo} {info : PlaneInfo}
    (laidOut : packedPlane padding stride strideInBytes scanline = .ok info) :
    ∃ plane, info.planes = [plane] ∧ plane.strideInBytes = some strideInBytes ∧
      strideInBytes * scanline < 2 ^ 31 := by
  obtain ⟨planes, filled, totalled⟩ := bind_ok.mp laidOut
  obtain ⟨_, _, padded⟩ := bind_ok.mp totalled
  obtain ⟨_, _, isInfo⟩ := bind_ok.mp padded
  obtain rfl := Except.ok.inj isInfo
  obtain ⟨plane, isPlane, rest⟩ := bind_ok.mp filled
  obtain rfl := Except.ok.inj rest
  obtain ⟨size, isSize, sized⟩ := bind_ok.mp isPlane
  obtain ⟨_, _, sized⟩ := bind_ok.mp sized
  obtain ⟨_, _, sized⟩ := bind_ok.mp sized
  obtain ⟨_, _, sized⟩ := bind_ok.mp sized
  obtain rfl := Except.ok.inj sized
  exact ⟨_, rfl, rfl, (int32_ok.mp isSize).2⟩

theorem checkedInt32_eq (fits : value < 2 ^ 31) : checkedInt32 value = .ok value :=
  if_pos fits

theorem checkedUint32_eq (fits : value < 2 ^ 32) : checkedUint32 value = .ok value :=
  if_pos fits

theorem padInt_eq {size : Nat} (pad : IsPad padding) (fits : size < 2 ^ 30) :
    padInt size padding = .ok (padToSize size padding) := by
  have bound := pad.le_fourK
  rw [padInt, checkedInt32_eq (by omega)]
  rfl

theorem padUint_eq {size : Nat} (pad : IsPad padding) (fits : size < 2 ^ 31) :
    padUint size padding = .ok (padToSize size padding) := by
  have bound := pad.le_fourK
  rw [padUint, checkedUint32_eq (by omega)]
  rfl

/-! ## What a layout must satisfy -/

/-- The rows that a plane has to hold. -/
structure PlaneSize where
  rowBytes : Nat
  height : Nat

/-- The bytes of a packed row, in whole groups of pixels. -/
def packedBytes (packing : Packing) (depth : Depth) (width : Nat) : Nat :=
  match packing, depth with
  | .qcom, .bpp8 | .idealQcom, .bpp8 => (width + 7) / 8 * 8
  | .qcom, .bpp10 | .idealQcom, .bpp10 => (width + 5) / 6 * 8
  | .qcom, .bpp12 | .idealQcom, .bpp12 => (width + 4) / 5 * 8
  | .qcom, .bpp14 | .idealQcom, .bpp14 => (width + 3) / 4 * 8
  | .mipi, .bpp8 | .idealMipi, .bpp8 => width
  | .mipi, .bpp10 | .idealMipi, .bpp10 => (width + 3) / 4 * 5
  | .mipi, .bpp12 | .idealMipi, .bpp12 => (width + 1) / 2 * 3
  | .mipi, .bpp14 | .idealMipi, .bpp14 => (width + 3) / 4 * 7
  | .idealPlain8, _ => width
  | .idealPlain16, _ => width * 2

/-- The bytes of a row of pixels in one plane. -/
def Format.rowBytes (fmt : Format) (width : Nat) : Nat :=
  match fmt with
  | .rawYuyv | .rawYvyu | .rawUyvy | .rawVyuy => width * 2
  | .bayer packing depth => packedBytes packing depth width
  | _ => width

/-- The planes of a format.  A row of interleaved chroma is as wide as one of luma. -/
def Format.sizes (fmt : Format) (dim : Dimension) : List PlaneSize :=
  match fmt with
  | .nv12 | .nv21 | .nv21Adreno | .nv12Venus =>
      [⟨dim.width, dim.height⟩, ⟨dim.width, dim.height / 2⟩]
  | .yv12 =>
      [⟨dim.width, dim.height⟩, ⟨dim.width / 2, dim.height / 2⟩,
        ⟨dim.width / 2, dim.height / 2⟩]
  | .nv16 | .nv61 => [⟨dim.width, dim.height⟩, ⟨dim.width, dim.height⟩]
  | .jpeg | .nv24 | .nv42 => []
  | _ => [⟨fmt.rowBytes dim.width, dim.height⟩]

/-- The planes of a stream: video is always NV12, and metadata one plane of bytes. -/
def frameSizes (type : StreamType) (fmt : Format) (dim : Dimension) : List PlaneSize :=
  match type with
  | .video => Format.nv12.sizes dim
  | .metadata => Format.yOnly.sizes dim
  | _ => fmt.sizes dim

/-- The bytes from one row of a plane to the next. -/
def Plane.bytes (plane : Plane) : Nat :=
  plane.strideInBytes.getD plane.stride

/-- A plane holds its rows. -/
def Plane.Holds (plane : Plane) (size : PlaneSize) : Prop :=
  size.rowBytes ≤ plane.bytes ∧ size.height + plane.offsetY ≤ plane.scanline ∧
    plane.bytes * plane.scanline ≤ plane.len

/-- A frame holds its planes, and has whole pages. -/
structure PlaneInfo.Sound (info : PlaneInfo) (sizes : List PlaneSize) : Prop where
  planes : List.Forall₂ Plane.Holds info.planes sizes
  room : (info.planes.map Plane.len).sum ≤ info.frameLen
  pages : 4096 ∣ info.frameLen

/-- A layout that is delivered is sound, and no value overflows. -/
def Meets : Except Failure PlaneInfo → List PlaneSize → Prop
  | .ok info, sizes => info.Sound sizes
  | .error .refused, _ => True
  | .error .overflow, _ => False

/-! ## Common layouts -/

/-- The plane that `fillPlane` delivers. -/
def filled (planePadding offsetY : Nat) (geometry : Geometry) : Plane where
  len := padToSize (geometry.bytes * geometry.scanline) planePadding
  offset := padToSize (geometry.stride * offsetY) planePadding
  offsetX := 0
  offsetY := offsetY
  stride := geometry.stride
  strideInBytes := geometry.strideInBytes
  scanline := geometry.scanline
  width := geometry.width
  height := geometry.height

/-- A plane of ordinary size. -/
structure Geometry.Fits (geometry : Geometry) : Prop where
  stride : geometry.stride ≤ 32768
  bytes : geometry.bytes ≤ 32768
  scanline : geometry.scanline ≤ 16399

/-- The strides and scanlines of a plane are enough for its rows. -/
def Geometry.Covers (offsetY : Nat) (geometry : Geometry) (size : PlaneSize) : Prop :=
  size.rowBytes ≤ geometry.bytes ∧ size.height + offsetY ≤ geometry.scanline

theorem Geometry.covers_rows {size : PlaneSize} :
    (rows stride scanline width height).Covers offsetY size ↔
      size.rowBytes ≤ stride ∧ size.height + offsetY ≤ scanline :=
  Iff.rfl

theorem Geometry.fits_rows (narrow : stride ≤ 32768) (low : scanline ≤ 16399) :
    (rows stride scanline width height).Fits :=
  ⟨narrow, narrow, low⟩

section LayOut

variable {planePadding : Nat} {geometry : Geometry} {geometries : List Geometry}

theorem Geometry.Fits.product (fits : geometry.Fits) :
    geometry.bytes * geometry.scanline ≤ 537362432 :=
  Nat.mul_le_mul fits.bytes fits.scanline

theorem fillPlane_eq (pad : IsPad planePadding) (shift : offsetY ≤ 15) (fits : geometry.Fits) :
    fillPlane planePadding offsetY geometry = .ok (filled planePadding offsetY geometry) := by
  have area := fits.product
  have start : geometry.stride * offsetY ≤ 32768 * 15 := Nat.mul_le_mul fits.stride shift
  rw [fillPlane, checkedInt32_eq (by omega), ok_bind, padUint_eq pad (by omega), ok_bind,
    checkedInt32_eq (by omega), ok_bind, padUint_eq pad (by omega)]
  rfl

theorem fillPlanes_eq (pad : IsPad planePadding) (shift : offsetY ≤ 15)
    (fits : ∀ geometry ∈ geometries, geometry.Fits) :
    fillPlanes planePadding offsetY geometries =
      .ok (geometries.map (filled planePadding offsetY)) := by
  induction geometries with
  | nil => rfl
  | cons geometry rest ih =>
      rw [fillPlanes, fillPlane_eq pad shift (fits geometry (by simp)),
        ih fun other member => fits other (by simp [member])]
      rfl

/-- The lengths add up to little more than the areas. -/
theorem sum_len_le (offsetY : Nat) (pad : IsPad planePadding)
    (fits : ∀ geometry ∈ geometries, geometry.Fits) :
    ((geometries.map (filled planePadding offsetY)).map Plane.len).sum ≤
      geometries.length * 537366528 := by
  induction geometries with
  | nil => simp
  | cons geometry rest ih =>
      have area := (fits geometry (by simp)).product
      have len := pad.padToSize_le_add (geometry.bytes * geometry.scanline)
      have small := pad.le_fourK
      have others := ih fun other member => fits other (by simp [member])
      simp only [List.map_cons, List.sum_cons, List.length_cons, filled] at others ⊢
      omega

theorem holds_filled_iff {size : PlaneSize} :
    (filled planePadding offsetY geometry).Holds size ↔ geometry.Covers offsetY size := by
  constructor
  · rintro ⟨wide, high, -⟩
    exact ⟨wide, high⟩
  · rintro ⟨wide, high⟩
    exact ⟨wide, high, le_padToSize _ _⟩

/-- A layout of up to three planes of ordinary size is sound as soon as their strides
and scanlines are. -/
theorem meets_layOut_iff (pad : IsPad planePadding) (shift : offsetY ≤ 15)
    (few : geometries.length ≤ 3) (allFit : geometries.Forall Geometry.Fits)
    {sizes : List PlaneSize} :
    Meets (layOut planePadding offsetY geometries) sizes ↔
      List.Forall₂ (Geometry.Covers offsetY) geometries sizes := by
  have fits := List.forall_iff_forall_mem.mp allFit
  have total := sum_len_le offsetY pad fits
  have bound : geometries.length * 537366528 ≤ 3 * 537366528 := Nat.mul_le_mul_right _ few
  rw [layOut, fillPlanes_eq pad shift fits, ok_bind, checkedUint32_eq (by omega), ok_bind,
    padUint_eq IsPad.fourK (by omega)]
  have planes : List.Forall₂ Plane.Holds (geometries.map (filled planePadding offsetY)) sizes ↔
      List.Forall₂ (Geometry.Covers offsetY) geometries sizes := by
    rw [List.forall₂_map_left_iff]
    exact ⟨fun held => held.imp fun _ _ => holds_filled_iff.mp,
      fun covered => covered.imp fun _ _ => holds_filled_iff.mpr⟩
  constructor
  · exact fun sound => planes.mp sound.planes
  · exact fun covered =>
      ⟨planes.mpr covered, le_padToSize _ _, IsPad.fourK.dvd_padToSize _⟩

end LayOut

/-! ## The functions -/

/-- Sides of 1 up to 16384. -/
structure Dimension.InRange (dim : Dimension) : Prop where
  widthPos : 1 ≤ dim.width
  heightPos : 1 ≤ dim.height
  width : dim.width ≤ 16384
  height : dim.height ≤ 16384

/-- The paddings are powers of two. -/
structure PaddingInfo.PowersOfTwo (padding : PaddingInfo) : Prop where
  width : IsPad padding.widthPadding
  height : IsPad padding.heightPadding
  plane : IsPad padding.planePadding

/-- The Venus macros satisfy the relations themselves. -/
structure Venus.Sound (venus : Venus) (dim : Dimension) : Prop where
  yStride : dim.width ≤ venus.yStride dim.width
  yScanlines : dim.height ≤ venus.yScanlines dim.height
  uvStride : dim.width ≤ venus.uvStride dim.width
  uvScanlines : dim.height / 2 ≤ venus.uvScanlines dim.height
  room : venus.yStride dim.width * venus.yScanlines dim.height +
    venus.uvStride dim.width * venus.uvScanlines dim.height ≤
      venus.bufferSize dim.width dim.height
  pages : 4096 ∣ venus.bufferSize dim.width dim.height
  small : venus.bufferSize dim.width dim.height < 2 ^ 31
  uvStrideSmall : venus.uvStride dim.width < 2 ^ 31
  uvScanlinesSmall : venus.uvScanlines dim.height < 2 ^ 31

section Functions

variable {venus : Venus} {fmt : Format} {dim : Dimension} {padding : PaddingInfo}

theorem padToSize_one (size : Nat) : padToSize size 1 = size := by
  simp [padToSize]

theorem meets_venusPlanes (inRange : dim.InRange) (sound : venus.Sound dim) :
    Meets (venusPlanes venus dim) (Format.nv12.sizes dim) := by
  have room := sound.room
  have small := sound.small
  have stride : venus.yStride dim.width ≤
      venus.yStride dim.width * venus.yScanlines dim.height :=
    Nat.le_mul_of_pos_right _ (Nat.lt_of_lt_of_le inRange.heightPos sound.yScanlines)
  have scanlines : venus.yScanlines dim.height ≤
      venus.yStride dim.width * venus.yScanlines dim.height :=
    Nat.le_mul_of_pos_left _ (Nat.lt_of_lt_of_le inRange.widthPos sound.yStride)
  have luma : fillPlane 1 0 (rows (venus.yStride dim.width) (venus.yScanlines dim.height)
      dim.width dim.height) =
        .ok (filled 1 0 (rows (venus.yStride dim.width) (venus.yScanlines dim.height)
          dim.width dim.height)) := by
    rw [fillPlane, checkedInt32_eq (by simp only [Geometry.bytes, rows, Option.getD_none]; omega),
      ok_bind, padUint_eq IsPad.one (by simp only [Geometry.bytes, rows, Option.getD_none]; omega),
      ok_bind, checkedInt32_eq (by simp), ok_bind, padUint_eq IsPad.one (by simp)]
    rfl
  have len : (filled 1 0 (rows (venus.yStride dim.width) (venus.yScanlines dim.height)
      dim.width dim.height)).len = venus.yStride dim.width * venus.yScanlines dim.height :=
    padToSize_one _
  rw [venusPlanes, checkedInt32_eq (by omega), ok_bind, checkedInt32_eq (by omega), ok_bind,
    checkedUint32_eq (by omega), ok_bind, luma, ok_bind, checkedInt32_eq sound.uvStrideSmall,
      ok_bind,
    checkedInt32_eq sound.uvScanlinesSmall, ok_bind, len, if_neg (by omega)]
  refine ⟨?_, ?_, sound.pages⟩
  · refine .cons (holds_filled_iff.mpr ⟨sound.yStride, sound.yScanlines⟩)
      (.cons ⟨sound.uvStride, sound.uvScanlines, ?_⟩ .nil)
    exact Nat.le_sub_of_add_le (by rw [Nat.add_comm]; exact room)
  · simp only [List.map_cons, List.map_nil, List.sum_cons, List.sum_nil, len]
    omega

/-- The half of a width is rounded down before it is padded and doubled. -/
theorem double_half_iff :
    width ≤ padToSize (width / 2) 32 * 2 ↔ width % 64 ≠ 1 := by
  rw [IsPad.thirtyTwo.padToSize_eq]
  omega

/-- Preview and postview frames are sound, but for the chroma plane of Adreno frames. -/
theorem meets_display_iff {venus : Option Venus} {stridePadding scanlinePadding : Nat}
    (inRange : dim.InRange) (stridePad : IsPad stridePadding)
    (scanlinePad : IsPad scanlinePadding)
    (venusSound : ∀ macros, venus = some macros → macros.Sound dim) :
    Meets (calcOffsetDisplay venus fmt dim stridePadding scanlinePadding) (fmt.sizes dim) ↔
      (fmt = .nv21Adreno → dim.width % 64 ≠ 1) := by
  have narrow := inRange.width
  have low := inRange.height
  have stride := stridePad.padded narrow
  have scanline := scanlinePad.padded low
  have chroma := scanlinePad.padded (show dim.height / 2 ≤ 16384 by omega)
  have stride16 := IsPad.sixteen.padded narrow
  have stride32 := IsPad.thirtyTwo.padded narrow
  have half32 := IsPad.thirtyTwo.padded (show dim.width / 2 ≤ 16384 by omega)
  have scanline32 := IsPad.thirtyTwo.padded low
  have chroma32 := IsPad.thirtyTwo.padded (show dim.height / 2 ≤ 16384 by omega)
  have even := IsPad.two.padded low
  have half16 := IsPad.sixteen.padded (show padToSize dim.width 16 / 2 ≤ 16384 by omega)
  cases fmt
  case nv12 | nv21 =>
    rw [calcOffsetDisplay, padInt_eq stridePad (by omega), ok_bind,
      padInt_eq scanlinePad (by omega), ok_bind, padInt_eq scanlinePad (by omega), ok_bind]
    refine (meets_layOut_iff IsPad.one (by decide) (by simp) ?_).trans ?_
    · exact ⟨Geometry.fits_rows (by omega) (by omega), Geometry.fits_rows (by omega) (by omega)⟩
    simp [Format.sizes, Geometry.covers_rows, stride, scanline, chroma]
  case nv21Adreno =>
    rw [calcOffsetDisplay, padInt_eq IsPad.thirtyTwo (by omega), ok_bind,
      padInt_eq IsPad.thirtyTwo (by omega), ok_bind, padInt_eq IsPad.thirtyTwo (by omega),
      ok_bind, padInt_eq IsPad.thirtyTwo (by omega), ok_bind]
    refine (meets_layOut_iff IsPad.fourK (by decide) (by simp) ?_).trans ?_
    · exact ⟨Geometry.fits_rows (by omega) (by omega), Geometry.fits_rows (by omega) (by omega)⟩
    simp [Format.sizes, Geometry.covers_rows, stride32, scanline32, chroma32, double_half_iff]
  case yv12 =>
    rw [calcOffsetDisplay, padInt_eq IsPad.sixteen (by omega), ok_bind,
      padInt_eq IsPad.two (by omega), ok_bind, padInt_eq IsPad.sixteen (by omega), ok_bind]
    refine (meets_layOut_iff IsPad.one (by decide) (by simp) ?_).trans ?_
    · exact ⟨Geometry.fits_rows (by omega) (by omega), Geometry.fits_rows (by omega) (by omega),
        Geometry.fits_rows (by omega) (by omega)⟩
    have wide : dim.width / 2 ≤ padToSize (padToSize dim.width 16 / 2) 16 := by omega
    have high : dim.height / 2 ≤ padToSize dim.height 2 / 2 := by omega
    simp [Format.sizes, Geometry.covers_rows, stride16, even, wide, high]
  case nv16 | nv61 =>
    rw [calcOffsetDisplay, padInt_eq IsPad.sixteen (by omega), ok_bind]
    refine (meets_layOut_iff IsPad.one (by decide) (by simp) ?_).trans ?_
    · exact ⟨Geometry.fits_rows (by omega) (by omega), Geometry.fits_rows (by omega) (by omega)⟩
    simp [Format.sizes, Geometry.covers_rows, stride16]
  case nv12Venus =>
    cases venus with
    | none => simp [calcOffsetDisplay, Meets]
    | some macros =>
        exact iff_of_true (meets_venusPlanes inRange (venusSound macros rfl)) nofun
  all_goals simp [calcOffsetDisplay, Meets]

/-- The planes of a padded frame are sound when its first plane and the halves of its
scanlines are. -/
theorem meets_paddedPlanes (pad : IsPad padding.planePadding)
    (wide : dim.width ≤ stride) (narrow : stride ≤ 16384)
    (high : dim.height + offsetY ≤ scanline) (low : scanline ≤ 16399)
    (halfHigh : dim.height / 2 + offsetY ≤ scanline / 2) (shift : offsetY ≤ 15) :
    Meets (paddedPlanes fmt dim padding stride scanline offsetY) (fmt.sizes dim) := by
  have half16 := IsPad.sixteen.padded (show stride / 2 ≤ 16384 by omega)
  cases fmt
  case nv12 | nv21 =>
    refine (meets_layOut_iff pad shift (by simp) ?_).mpr ?_
    · exact ⟨Geometry.fits_rows (by omega) low, Geometry.fits_rows (by omega) (by omega)⟩
    simp [Format.sizes, Geometry.covers_rows, wide, high, halfHigh]
  case yv12 =>
    rw [paddedPlanes, padInt_eq IsPad.sixteen (by omega), ok_bind]
    refine (meets_layOut_iff pad shift (by simp) ?_).mpr ?_
    · exact ⟨Geometry.fits_rows (by omega) low, Geometry.fits_rows (by omega) (by omega),
        Geometry.fits_rows (by omega) (by omega)⟩
    have halfWide : dim.width / 2 ≤ padToSize (stride / 2) 16 := by omega
    simp [Format.sizes, Geometry.covers_rows, wide, high, halfWide, halfHigh]
  case nv16 | nv61 =>
    refine (meets_layOut_iff pad shift (by simp) ?_).mpr ?_
    · exact ⟨Geometry.fits_rows (by omega) low, Geometry.fits_rows (by omega) low⟩
    simp [Format.sizes, Geometry.covers_rows, wide, high]
  all_goals simp [paddedPlanes, Meets]

theorem meets_snapshot {isAFamily : Bool} (inRange : dim.InRange)
    (powers : padding.PowersOfTwo) :
    Meets (streamCalcOffsetSnapshot fmt dim padding isAFamily) (fmt.sizes dim) := by
  have narrow := inRange.width
  have low := inRange.height
  cases isAFamily with
  | true =>
      have scanline := IsPad.sixteen.padded low
      have shift := IsPad.sixteen.padToSize_le_add dim.height
      rw [streamCalcOffsetSnapshot, if_pos rfl, padInt_eq IsPad.sixteen (by omega), ok_bind,
        checkedInt32_eq (by omega), ok_bind]
      exact meets_paddedPlanes powers.plane (Nat.le_refl _) narrow (by omega) (by omega)
        (by omega) (by omega)
  | false =>
      have stride := powers.width.padded narrow
      have scanline := powers.height.padded low
      rw [streamCalcOffsetSnapshot, if_neg Bool.false_ne_true,
        padInt_eq powers.width (by omega), ok_bind, padInt_eq powers.height (by omega), ok_bind]
      exact meets_paddedPlanes powers.plane stride.1 stride.2 scanline.1 (by omega)
        (by omega) (by omega)

theorem meets_analysis (inRange : dim.InRange) (powers : padding.PowersOfTwo)
    (minStride : padding.minStride ≤ 16384) (minScanline : padding.minScanline ≤ 16384) :
    Meets (streamCalcOffsetAnalysis fmt dim padding) (fmt.sizes dim) := by
  have narrow := inRange.width
  have low := inRange.height
  have clipped : ∀ least length : Nat, least ≤ 16384 → length ≤ 16384 →
      length ≤ (if length < least then least else length) ∧
        (if length < least then least else length) ≤ 16384 := by
    intro least length _ _
    split <;> omega
  have width := clipped padding.minStride dim.width minStride narrow
  have height := clipped padding.minScanline dim.height minScanline low
  have stride := powers.width.padded width.2
  have scanline := powers.height.padded height.2
  rw [streamCalcOffsetAnalysis, checkedInt32_eq (by omega), ok_bind, checkedInt32_eq (by omega),
    ok_bind,
    padInt_eq powers.width (by omega), ok_bind, padInt_eq powers.height (by omega), ok_bind]
  split
  · refine (meets_layOut_iff powers.plane (by decide) (by simp) ?_).mpr ?_
    · exact Geometry.fits_rows (by omega) (by omega)
    exact .cons ⟨Nat.le_trans width.1 stride.1, Nat.le_trans height.1 scanline.1⟩ .nil
  · exact meets_paddedPlanes powers.plane (by omega) stride.2 (by omega) (by omega) (by omega)
      (by omega)

/-- The strides of a packed format are enough for a row of its pixels. -/
def CoversRow (fmt : Format) (width : Nat) (result : Except Failure (Nat × Nat)) : Prop :=
  result = .error .refused ∨ ∃ stride strideInBytes,
    result = .ok (stride, strideInBytes) ∧ stride ≤ 32768 ∧ strideInBytes ≤ 32768 ∧
      fmt.rowBytes width ≤ strideInBytes ∧
        ∀ height, fmt.sizes ⟨width, height⟩ = [⟨fmt.rowBytes width, height⟩]

theorem packedStride_coversRow (narrow : width ≤ 16384) :
    CoversRow fmt width (packedStride fmt width) := by
  have stride16 := IsPad.sixteen.padded narrow
  cases fmt
  case rawYuyv | rawYvyu | rawUyvy | rawVyuy | jpegRaw | metaRaw =>
    rw [packedStride, padInt_eq IsPad.sixteen (by omega), ok_bind, checkedInt32_eq (by omega)]
    refine .inr ⟨_, _, rfl, by omega, by omega, ?_, fun _ => rfl⟩
    simp only [Format.rowBytes]
    omega
  case bayer packing depth =>
    have whole := IsPad.sixteen.dvd_padToSize width
    have stride4 := IsPad.four.padded narrow
    have groups := IsPad.four.dvd_padToSize width
    have stride8 := IsPad.eight.padded narrow
    have stride32 := IsPad.thirtyTwo.padded narrow
    have pairs := IsPad.thirtyTwo.dvd_padToSize width
    cases packing <;> cases depth
    case qcom.bpp8 | mipi.bpp8 | idealQcom.bpp8 | idealMipi.bpp8 | idealPlain8.bpp8 =>
      rw [packedStride, padInt_eq IsPad.sixteen (by omega)]
      refine .inr ⟨_, _, rfl, by omega, by omega, ?_, fun _ => rfl⟩
      simp only [Format.rowBytes, packedBytes]
      omega
    case qcom.bpp10 | idealQcom.bpp10 | qcom.bpp12 | idealQcom.bpp12 =>
      rw [packedStride, checkedInt32_eq (by omega), ok_bind, checkedInt32_eq (by omega)]
      refine .inr ⟨_, _, rfl, by omega, by omega, ?_, fun _ => rfl⟩
      simp only [Format.rowBytes, packedBytes]
      omega
    case mipi.bpp10 | idealMipi.bpp10 =>
      rw [packedStride, padInt_eq IsPad.four (by omega), ok_bind, checkedInt32_eq (by omega),
        ok_bind, padInt_eq IsPad.eight (by omega)]
      have enough := le_padToSize (padToSize width 4 * 5 / 4) 8
      have bounded := IsPad.eight.padToSize_le_add (padToSize width 4 * 5 / 4)
      refine .inr ⟨_, _, rfl, by omega, by omega, ?_, fun _ => rfl⟩
      simp only [Format.rowBytes, packedBytes]
      omega
    case mipi.bpp12 | idealMipi.bpp12 =>
      rw [packedStride, padInt_eq IsPad.thirtyTwo (by omega), ok_bind, checkedInt32_eq (by omega)]
      refine .inr ⟨_, _, rfl, by omega, by omega, ?_, fun _ => rfl⟩
      simp only [Format.rowBytes, packedBytes]
      omega
    case idealPlain16.bpp8 | idealPlain16.bpp10 | idealPlain16.bpp12 =>
      rw [packedStride, padInt_eq IsPad.eight (by omega), ok_bind, checkedInt32_eq (by omega)]
      refine .inr ⟨_, _, rfl, by omega, by omega, ?_, fun _ => rfl⟩
      simp only [Format.rowBytes, packedBytes]
      omega
    all_goals exact .inl rfl
  all_goals exact .inl rfl

theorem meets_packedPlane {rowBytes : Nat}
    (pad : IsPad padding.planePadding) (narrow : stride ≤ 32768)
    (narrowBytes : strideInBytes ≤ 32768) (low : scanline ≤ 16399)
    (wide : rowBytes ≤ strideInBytes) (high : height ≤ scanline) :
    Meets (packedPlane padding stride strideInBytes scanline) [⟨rowBytes, height⟩] := by
  refine (meets_layOut_iff pad (by decide) (by simp) ?_).mpr ?_
  · exact ⟨narrow, narrowBytes, low⟩
  · exact .cons ⟨wide, high⟩ .nil

/-- The recorded width and height do not matter. -/
theorem Meets.asOneRow {result : Except Failure PlaneInfo} {sizes : List PlaneSize}
    (meets : Meets result sizes) :
    Meets (result >>= fun info => return info.asOneRow) sizes := by
  cases result with
  | error failure => cases failure <;> exact meets
  | ok info =>
      refine ⟨?_, ?_, meets.pages⟩
      · exact List.forall₂_map_left_iff.mpr (meets.planes.imp fun _ _ held => held)
      · simpa [PlaneInfo.asOneRow, Function.comp_def] using meets.room

theorem meets_raw (inRange : dim.InRange) (powers : padding.PowersOfTwo) :
    Meets (streamCalcOffsetRaw fmt dim padding) (fmt.sizes dim) := by
  have stride := powers.width.padded inRange.width
  have scanline := powers.height.padded inRange.height
  rw [streamCalcOffsetRaw, padInt_eq powers.width (by omega), ok_bind,
    padInt_eq powers.height (by omega), ok_bind]
  have packed : ∀ format : Format, Meets (packedStride format dim.width >>= fun strides =>
      packedPlane padding strides.1 strides.2 (padToSize dim.height padding.heightPadding))
        (format.sizes dim) := by
    intro format
    have covers : CoversRow format dim.width _ := packedStride_coversRow inRange.width
    rcases covers with refused | ⟨stride, strideInBytes, strides, narrow, narrowBytes, wide, sizes⟩
    · rw [refused]
      exact trivial
    · rw [strides, ok_bind, sizes dim.height]
      exact meets_packedPlane powers.plane narrow narrowBytes (by omega) wide scanline.1
  split
  · refine (meets_layOut_iff powers.plane (by decide) (by simp) ?_).mpr ?_
    · have narrow : padToSize dim.width padding.widthPadding ≤ 32768 := by omega
      have low : padToSize dim.height padding.heightPadding ≤ 16399 := by omega
      exact ⟨⟨narrow, narrow, low⟩, ⟨narrow, narrow, Nat.le_trans (Nat.div_le_self _ 2) low⟩⟩
    · exact .cons ⟨stride.1, scanline.1⟩
        (.cons ⟨stride.1, Nat.div_le_div_right scanline.1⟩ .nil)
  · exact packed .metaRaw
  · have oneRow := (packed fmt).asOneRow
    rwa [bind_assoc] at oneRow

theorem meets_video {venus : Option Venus} (inRange : dim.InRange)
    (venusSound : ∀ macros, venus = some macros → macros.Sound dim) :
    Meets (streamCalcOffsetVideo venus dim) (Format.nv12.sizes dim) := by
  have narrow := inRange.width
  have low := inRange.height
  cases venus with
  | some macros => exact meets_venusPlanes inRange (venusSound macros rfl)
  | none =>
      refine (meets_layOut_iff IsPad.twoK (by decide) (by simp) ?_).mpr ?_
      · exact ⟨Geometry.fits_rows (by omega) (by omega),
          Geometry.fits_rows (by omega) (by omega)⟩
      · exact .cons ⟨Nat.le_refl _, Nat.le_refl _⟩ (.cons ⟨Nat.le_refl _, Nat.le_refl _⟩ .nil)

/-- A metadata frame has whole pages only where its plane has. -/
theorem meets_metadata_iff (inRange : dim.InRange) (powers : padding.PowersOfTwo) :
    Meets (streamCalcOffsetMetadata dim padding) (Format.yOnly.sizes dim) ↔
      (dim.width * dim.height + (padding.planePadding - 1)) % 4096 < padding.planePadding := by
  have narrow := inRange.width
  have low := inRange.height
  have fits : (rows dim.width dim.height dim.width dim.height).Fits :=
    Geometry.fits_rows (by omega) (by omega)
  rw [streamCalcOffsetMetadata, fillPlane_eq powers.plane (by decide) fits,
    ← powers.plane.pages_iff]
  constructor
  · exact fun sound => sound.pages
  · intro pages
    refine ⟨.cons ?_ .nil, by simp, pages⟩
    exact holds_filled_iff.mpr ⟨Nat.le_refl _, Nat.le_refl _⟩

end Functions

/-! ## Streams -/

/-- When a layout of ordinary size is sound. -/
def KeepsLayout (type : StreamType) (fmt : Format) (dim : Dimension) (padding : PaddingInfo) :
    Prop :=
  match type with
  | .preview | .postview => fmt = .nv21Adreno → dim.width % 64 ≠ 1
  -- Up to a whole number of pages less is missing than the padding can add.
  | .metadata =>
    (dim.width * dim.height + (padding.planePadding - 1)) % 4096 < padding.planePadding
  | _ => True

theorem meets_calcOffsetOf_iff {platform : Platform} {type : StreamType} {fmt : Format}
    {dim : Dimension} {padding : PaddingInfo} (inRange : dim.InRange)
    (powers : padding.PowersOfTwo)
    (clip : type = .analysis → padding.minStride ≤ 16384 ∧ padding.minScanline ≤ 16384)
    (venusSound : ∀ macros, platform.venus = some macros → macros.Sound dim) :
    Meets (calcOffsetOf platform type fmt dim padding) (frameSizes type fmt dim) ↔
      KeepsLayout type fmt dim padding := by
  cases type
  case preview => exact meets_display_iff inRange .thirtyTwo .two venusSound
  case postview => exact meets_display_iff inRange .sixtyFour .sixtyFour venusSound
  case metadata => exact meets_metadata_iff inRange powers
  case snapshot | callback | offlineProc =>
    exact iff_of_true (meets_snapshot inRange powers) trivial
  case video => exact iff_of_true (meets_video inRange venusSound) trivial
  case raw => exact iff_of_true (meets_raw inRange powers) trivial
  case analysis =>
    exact iff_of_true (meets_analysis inRange powers (clip rfl).1 (clip rfl).2) trivial
  all_goals exact iff_of_true trivial trivial

/-- The type and the dimension that a stream is laid out for. -/
def StreamInfo.source (info : StreamInfo) : StreamType × Dimension :=
  if info.type = .offlineProc then (info.reprocessConfig.sourceType, info.dim)
  else (info.type, info.rotatedDim)

/-- The planes of the input source where the layout is taken from there. -/
def StreamInfo.copied (info : StreamInfo) : Option PlaneInfo :=
  match info.reprocessConfig with
  | .offline .default inputBufPlanes =>
      if info.type = .offlineProc ∧ info.bufPlanes.frameLen = 0 then some inputBufPlanes else none
  | _ => none

/-- The planes that a stream has to hold. -/
def StreamInfo.sizes (info : StreamInfo) : List PlaneSize :=
  frameSizes info.source.1 info.fmt info.source.2

theorem Dimension.InRange.rotated (inRange : info.dim.InRange) :
    info.source.2.InRange := by
  have turned : info.rotatedDim.InRange := by
    rw [StreamInfo.rotatedDim]
    split
    · exact ⟨inRange.heightPos, inRange.widthPos, inRange.height, inRange.width⟩
    · exact inRange
  rw [StreamInfo.source]
  split
  · exact inRange
  · exact turned

/-- A stream is laid out by the function of its source, unless its planes are copied. -/
theorem streamCalcOffset_eq {platform : Platform} {padding : PaddingInfo} :
    streamCalcOffset platform info padding =
      match info.copied with
      | some planes => .ok planes
      | none => calcOffsetOf platform info.source.1 info.fmt info.source.2 padding := by
  by_cases offline : info.type = .offlineProc
  · rw [streamCalcOffset, if_pos offline, streamCalcOffsetPostproc, StreamInfo.copied,
      StreamInfo.source, if_pos offline]
    cases config : info.reprocessConfig with
    | online inputStreamType => rfl
    | offline inputType inputBufPlanes =>
        cases inputType
        case default =>
          by_cases empty : info.bufPlanes.frameLen = 0 <;>
            simp [empty, offline, Reprocess.sourceType]
        all_goals rfl
  · have notCopied : info.copied = none := by
      rw [StreamInfo.copied]
      split <;> simp [offline]
    rw [streamCalcOffset, if_neg offline, notCopied, StreamInfo.source, if_neg offline]

/-- Every stream with a dimension and paddings of ordinary size is laid out without an
overflow, and soundly: unless it is a preview or postview of an Adreno format whose
width is one more than a multiple of 64, or metadata that does not fill whole pages.
Copied planes are as sound as they were. -/
theorem streamCalcOffset_meets_iff {platform : Platform} {info : StreamInfo}
    {padding : PaddingInfo} (inRange : info.dim.InRange) (powers : padding.PowersOfTwo)
    (clip : info.source.1 = .analysis →
      padding.minStride ≤ 16384 ∧ padding.minScanline ≤ 16384)
    (venusSound : ∀ macros, platform.venus = some macros → macros.Sound info.source.2) :
    Meets (streamCalcOffset platform info padding) info.sizes ↔
      (∀ planes, info.copied = some planes → planes.Sound info.sizes) ∧
        (info.copied = none →
          KeepsLayout info.source.1 info.fmt info.source.2 padding) := by
  rw [streamCalcOffset_eq]
  cases copied : info.copied with
  | some planes => simp [Meets]
  | none =>
      simpa [StreamInfo.sizes] using meets_calcOffsetOf_iff inRange.rotated powers clip venusSound

/-- A platform whose Venus macros align the planes of a frame. -/
def venusPlatform : Platform where
  isAFamily := false
  venus := some {
    yStride := fun width => padToSize width 128
    yScanlines := fun height => padToSize height 32
    uvStride := fun width => padToSize width 128
    uvScanlines := fun height => padToSize ((height + 1) / 2) 16
    bufferSize := fun width height => padToSize
      (padToSize width 128 * (padToSize height 32 + padToSize ((height + 1) / 2) 16) + 20480)
      4096 }

/-- A stream without rotation and without a source of its own. -/
def plainStream (type : StreamType) (fmt : Format) (dim : Dimension) : StreamInfo where
  type := type
  fmt := fmt
  dim := dim
  reprocessConfig := .online .default
  rotationFeature := false
  quarterTurn := false
  bufPlanes := ⟨[], 0⟩

def samplePadding : PaddingInfo := ⟨32, 32, 64, 0, 0⟩

theorem streamCalcOffset_meets_iff_video :
    Meets (streamCalcOffset venusPlatform (plainStream .video .nv12 ⟨1920, 1080⟩) samplePadding)
      (plainStream .video .nv12 ⟨1920, 1080⟩).sizes :=
  (streamCalcOffset_meets_iff
    ⟨by decide, by decide, by decide, by decide⟩
    ⟨.thirtyTwo, .thirtyTwo, .sixtyFour⟩
    (fun analysis => absurd analysis (by decide))
    (by
      rintro macros ⟨⟩
      constructor <;> decide)).mpr ⟨nofun, fun _ => trivial⟩

/-- Metadata of 1000 bytes, and an Adreno preview that is 65 pixels wide. -/
theorem streamCalcOffset_unsound :
    ¬ Meets (streamCalcOffset venusPlatform (plainStream .metadata .jpeg ⟨1000, 1⟩) samplePadding)
        (plainStream .metadata .jpeg ⟨1000, 1⟩).sizes ∧
      ¬ Meets (streamCalcOffset venusPlatform (plainStream .preview .nv21Adreno ⟨65, 2⟩)
          samplePadding) (plainStream .preview .nv21Adreno ⟨65, 2⟩).sizes := by
  have powers : samplePadding.PowersOfTwo := ⟨.thirtyTwo, .thirtyTwo, .sixtyFour⟩
  constructor
  · intro sound
    exact absurd ((meets_metadata_iff ⟨by decide, by decide, by decide, by decide⟩ powers).mp sound)
      (by decide)
  · intro sound
    have venusSound : ∀ macros, venusPlatform.venus = some macros → macros.Sound ⟨65, 2⟩ := by
      rintro macros ⟨⟩
      constructor <;> decide
    have display : Meets (calcOffsetDisplay venusPlatform.venus .nv21Adreno ⟨65, 2⟩ 32 2)
        (Format.nv21Adreno.sizes ⟨65, 2⟩) := sound
    exact (meets_display_iff ⟨by decide, by decide, by decide, by decide⟩ .thirtyTwo .two
      venusSound).mp display rfl rfl

end AnglerHal.PlaneLayout
