import Mathlib.Algebra.GroupWithZero.Nat

namespace AnglerHal.PlaneLayout

/-!
# The plane layout of a stream

The `mm_stream_calc_offset_*` functions derive the planes of a frame from the type, the
format and the dimension of its stream.  Each format has its own strides and
scanlines; the lengths of the planes and of the frame follow from these in one way.

Values are natural numbers, and each intermediate value is checked against the 32-bit
type it has in the source.
-/

/-! ## Arithmetic -/

/-- Why a function delivers no layout. -/
inductive Failure where
  /-- `rc = -1`. -/
  | refused
  /-- A value leaves the range of its 32-bit type. -/
  | overflow
  deriving DecidableEq

/-- A value of type `int32_t`. -/
def checkedInt32 (value : Nat) : Except Failure Nat :=
  if value < 2 ^ 31 then .ok value else .error .overflow

/-- A value of type `uint32_t`. -/
def checkedUint32 (value : Nat) : Except Failure Nat :=
  if value < 2 ^ 32 then .ok value else .error .overflow

/-- `PAD_TO_SIZE`: the mask takes the bits of `padding - 1` away. -/
def padToSize (size padding : Nat) : Nat :=
  size + (padding - 1) - ((size + (padding - 1)) &&& (padding - 1))

/-- `PAD_TO_SIZE` where the size is an `int`. -/
def padInt (size padding : Nat) : Except Failure Nat := do
  let _ ← checkedInt32 (size + (padding - 1))
  return padToSize size padding

/-- `PAD_TO_SIZE` where the size is a `uint32_t`. -/
def padUint (size padding : Nat) : Except Failure Nat := do
  let _ ← checkedUint32 (size + (padding - 1))
  return padToSize size padding

/-! ## Formats and planes -/

/-- How the pixels of a Bayer format lie in memory. -/
inductive Packing where
  | qcom
  | mipi
  | idealQcom
  | idealMipi
  | idealPlain8
  | idealPlain16
  deriving DecidableEq

/-- The bits of a Bayer pixel. -/
inductive Depth where
  | bpp8
  | bpp10
  | bpp12
  | bpp14
  deriving DecidableEq

/-- `cam_format_t`.  No function here tells the four orders of the Bayer colours apart. -/
inductive Format where
  | jpeg
  | nv12
  | nv21
  | nv21Adreno
  | yv12
  | nv16
  | nv61
  | nv12Venus
  | rawYuyv
  | rawYvyu
  | rawUyvy
  | rawVyuy
  | bayer (packing : Packing) (depth : Depth)
  | jpegRaw
  | metaRaw
  | nv24
  | nv42
  | yOnly
  deriving DecidableEq

/-- `cam_dimension_t`. -/
structure Dimension where
  width : Nat
  height : Nat
  deriving DecidableEq

/-- `cam_padding_info_t`. -/
structure PaddingInfo where
  widthPadding : Nat
  heightPadding : Nat
  planePadding : Nat
  minStride : Nat
  minScanline : Nat
  deriving DecidableEq

/-- `cam_mp_len_offset_t`; `none` is a field that the branch does not write. -/
structure Plane where
  len : Nat
  offset : Nat
  offsetX : Nat
  offsetY : Nat
  stride : Nat
  strideInBytes : Option Nat
  scanline : Nat
  width : Option Nat
  height : Option Nat
  deriving DecidableEq

/-- `cam_frame_len_offset_t`. -/
structure PlaneInfo where
  planes : List Plane
  frameLen : Nat
  deriving DecidableEq

/-- What a branch decides about a plane before its length. -/
structure Geometry where
  stride : Nat
  strideInBytes : Option Nat
  scanline : Nat
  width : Option Nat
  height : Option Nat
  deriving DecidableEq

/-- The bytes from one row to the next: a sample has one byte where the branch leaves
`stride_in_bytes` alone. -/
def Geometry.bytes (geometry : Geometry) : Nat :=
  geometry.strideInBytes.getD geometry.stride

/-- The geometry of a plane with one byte a sample. -/
def rows (stride scanline width height : Nat) : Geometry :=
  ⟨stride, none, scanline, some width, some height⟩

/-- One plane: its length and its offset are padded alike.  A padding of one stands for
the branches that do not pad. -/
def fillPlane (planePadding offsetY : Nat) (geometry : Geometry) : Except Failure Plane := do
  let size ← checkedInt32 (geometry.bytes * geometry.scanline)
  let len ← padUint size planePadding
  let start ← checkedInt32 (geometry.stride * offsetY)
  let offset ← padUint start planePadding
  return {
    len := len
    offset := offset
    offsetX := 0
    offsetY := offsetY
    stride := geometry.stride
    strideInBytes := geometry.strideInBytes
    scanline := geometry.scanline
    width := geometry.width
    height := geometry.height }

/-- The planes one after the other. -/
def fillPlanes (planePadding offsetY : Nat) : List Geometry → Except Failure (List Plane)
  | [] => .ok []
  | geometry :: rest => do
      let plane ← fillPlane planePadding offsetY geometry
      let planes ← fillPlanes planePadding offsetY rest
      return plane :: planes

/-- The planes and the length of the frame, on `CAM_PAD_TO_4K`. -/
def layOut (planePadding offsetY : Nat) (geometries : List Geometry) :
    Except Failure PlaneInfo := do
  let planes ← fillPlanes planePadding offsetY geometries
  let total ← checkedUint32 (planes.map Plane.len).sum
  let frameLen ← padUint total 4096
  return ⟨planes, frameLen⟩

/-! ## The Venus macros -/

/-- The macros of the Venus driver for `COLOR_FMT_NV12`. -/
structure Venus where
  yStride : Nat → Nat
  yScanlines : Nat → Nat
  uvStride : Nat → Nat
  uvScanlines : Nat → Nat
  bufferSize : Nat → Nat → Nat

/-- The layout that the Venus macros give. -/
def venusPlanes (venus : Venus) (dim : Dimension) : Except Failure PlaneInfo := do
  let stride ← checkedInt32 (venus.yStride dim.width)
  let scanline ← checkedInt32 (venus.yScanlines dim.height)
  let frameLen ← checkedUint32 (venus.bufferSize dim.width dim.height)
  let luma ← fillPlane 1 0 (rows stride scanline dim.width dim.height)
  let uvStride ← checkedInt32 (venus.uvStride dim.width)
  let uvScanline ← checkedInt32 (venus.uvScanlines dim.height)
  -- The second plane has what the first leaves of the buffer.
  if frameLen < luma.len then .error .overflow
  else
    let chroma := { luma with
      len := frameLen - luma.len
      stride := uvStride
      scanline := uvScanline
      height := some (dim.height / 2) }
    return ⟨[luma, chroma], frameLen⟩

/-! ## The functions -/

section Functions

variable (venus : Option Venus) (fmt : Format) (dim : Dimension) (padding : PaddingInfo)

/-- `mm_stream_calc_offset_preview` and `_post_view`, which differ in the paddings of the
two 4:2:0 formats. -/
def calcOffsetDisplay (stridePadding scanlinePadding : Nat) : Except Failure PlaneInfo :=
  match fmt with
  | .nv12 | .nv21 => do
      let stride ← padInt dim.width stridePadding
      let scanline ← padInt dim.height scanlinePadding
      let chroma ← padInt (dim.height / 2) scanlinePadding
      layOut 1 0 [rows stride scanline dim.width dim.height,
        rows stride chroma dim.width (dim.height / 2)]
  | .nv21Adreno => do
      let stride ← padInt dim.width 32
      let scanline ← padInt dim.height 32
      let half ← padInt (dim.width / 2) 32
      let chroma ← padInt (dim.height / 2) 32
      layOut 4096 0 [rows stride scanline dim.width dim.height,
        rows (half * 2) chroma dim.width (dim.height / 2)]
  | .yv12 => do
      let stride ← padInt dim.width 16
      let scanline ← padInt dim.height 2
      let chroma ← padInt (stride / 2) 16
      layOut 1 0 [rows stride scanline dim.width dim.height,
        rows chroma (scanline / 2) (dim.width / 2) (dim.height / 2),
        rows chroma (scanline / 2) (dim.width / 2) (dim.height / 2)]
  | .nv16 | .nv61 => do
      let stride ← padInt dim.width 16
      layOut 1 0 [rows stride dim.height dim.width dim.height,
        rows stride dim.height dim.width dim.height]
  | .nv12Venus =>
      match venus with
      | some venus => venusPlanes venus dim
      | none => .error .refused
  | _ => .error .refused

/-- `mm_stream_calc_offset_preview`. -/
def streamCalcOffsetPreview : Except Failure PlaneInfo :=
  calcOffsetDisplay venus fmt dim 32 2

/-- `mm_stream_calc_offset_post_view`. -/
def streamCalcOffsetPostView : Except Failure PlaneInfo :=
  calcOffsetDisplay venus fmt dim 64 64

/-- The formats that `mm_stream_calc_offset_snapshot` and `_analysis` lay out alike. -/
def paddedPlanes (stride scanline offsetY : Nat) : Except Failure PlaneInfo :=
  match fmt with
  | .nv12 | .nv21 =>
      layOut padding.planePadding offsetY [rows stride scanline dim.width dim.height,
        rows stride (scanline / 2) dim.width (dim.height / 2)]
  | .yv12 => do
      let chroma ← padInt (stride / 2) 16
      layOut padding.planePadding offsetY [rows stride scanline dim.width dim.height,
        rows chroma (scanline / 2) (dim.width / 2) (dim.height / 2),
        rows chroma (scanline / 2) (dim.width / 2) (dim.height / 2)]
  | .nv16 | .nv61 =>
      layOut padding.planePadding offsetY [rows stride scanline dim.width dim.height,
        rows stride scanline dim.width dim.height]
  | _ => .error .refused

/-- `mm_stream_calc_offset_snapshot`. -/
def streamCalcOffsetSnapshot (isAFamily : Bool) : Except Failure PlaneInfo :=
  if isAFamily then do
    let padded ← padInt dim.height 16
    -- Double padding: the rows start where the first padding ends.
    let scanline ← checkedInt32 (padded + (padded - dim.height))
    paddedPlanes fmt dim padding dim.width scanline (padded - dim.height)
  else do
    let stride ← padInt dim.width padding.widthPadding
    let scanline ← padInt dim.height padding.heightPadding
    paddedPlanes fmt dim padding stride scanline 0

/-- One plane of packed pixels, which counts its samples in bytes. -/
def packedPlane (stride strideInBytes scanline : Nat) : Except Failure PlaneInfo :=
  layOut padding.planePadding 0 [⟨stride, some strideInBytes, scanline, none, none⟩]

/-- The packed plane is recorded as one row of its own length. -/
def PlaneInfo.asOneRow (info : PlaneInfo) : PlaneInfo :=
  { info with
    planes := info.planes.map fun plane =>
      { plane with width := some plane.len, height := some 1 } }

/-- `stride` and `stride_in_bytes` of a packed format, as `mm_stream_calc_offset_raw`
derives them from the width. -/
def packedStride (width : Nat) : Except Failure (Nat × Nat) :=
  match fmt with
  | .rawYuyv | .rawYvyu | .rawUyvy | .rawVyuy | .jpegRaw | .metaRaw => do
      let stride ← padInt width 16
      let strideInBytes ← checkedInt32 (stride * 2)
      return (stride, strideInBytes)
  | .bayer .qcom .bpp8 | .bayer .mipi .bpp8 | .bayer .idealQcom .bpp8
  | .bayer .idealMipi .bpp8 | .bayer .idealPlain8 .bpp8 => do
      let stride ← padInt width 16
      return (stride, stride)
  | .bayer .qcom .bpp10 | .bayer .idealQcom .bpp10 => do
      -- Every 12 pixels occupy 16 bytes.
      let rounded ← checkedInt32 (width + 11)
      let bits ← checkedInt32 (rounded / 12 * 12 * 8)
      return (rounded / 12 * 12, bits / 6)
  | .bayer .qcom .bpp12 | .bayer .idealQcom .bpp12 => do
      -- Every 10 pixels occupy 16 bytes.
      let rounded ← checkedInt32 (width + 9)
      let bits ← checkedInt32 (rounded / 10 * 10 * 8)
      return (rounded / 10 * 10, bits / 5)
  | .bayer .mipi .bpp10 | .bayer .idealMipi .bpp10 => do
      -- Every 64 pixels occupy 80 bytes.
      let stride ← padInt width 4
      let fifths ← checkedInt32 (stride * 5)
      let strideInBytes ← padInt (fifths / 4) 8
      return (stride, strideInBytes)
  | .bayer .mipi .bpp12 | .bayer .idealMipi .bpp12 => do
      -- Every 32 pixels occupy 48 bytes.
      let stride ← padInt width 32
      let thirds ← checkedInt32 (stride * 3)
      return (stride, thirds / 2)
  | .bayer .idealPlain16 .bpp8 | .bayer .idealPlain16 .bpp10
  | .bayer .idealPlain16 .bpp12 => do
      -- Every 8 pixels occupy 16 bytes.
      let stride ← padInt width 8
      let strideInBytes ← checkedInt32 (stride * 2)
      return (stride, strideInBytes)
  | _ => .error .refused

/-- `mm_stream_calc_offset_raw`. -/
def streamCalcOffsetRaw : Except Failure PlaneInfo := do
  let stride ← padInt dim.width padding.widthPadding
  let scanline ← padInt dim.height padding.heightPadding
  match fmt with
  | .nv21 =>
      layOut padding.planePadding 0
        [⟨stride, some stride, scanline, some dim.width, some dim.height⟩,
          ⟨stride, some stride, scanline / 2, some dim.width, some (dim.height / 2)⟩]
  | .metaRaw => do
      let (stride, strideInBytes) ← packedStride fmt dim.width
      packedPlane padding stride strideInBytes scanline
  | _ => do
      let (stride, strideInBytes) ← packedStride fmt dim.width
      let info ← packedPlane padding stride strideInBytes scanline
      return info.asOneRow

/-- `mm_stream_calc_offset_video`, with and without `VENUS_PRESENT`. -/
def streamCalcOffsetVideo : Except Failure PlaneInfo :=
  match venus with
  | some venus => venusPlanes venus dim
  | none =>
      layOut 2048 0 [rows dim.width dim.height dim.width dim.height,
        rows dim.width (dim.height / 2) dim.width (dim.height / 2)]

/-- `mm_stream_calc_offset_metadata`: the frame has the length of its plane. -/
def streamCalcOffsetMetadata : Except Failure PlaneInfo := do
  let plane ← fillPlane padding.planePadding 0
    (rows dim.width dim.height dim.width dim.height)
  return ⟨[plane], plane.len⟩

/-- `mm_stream_calc_offset_analysis`. -/
def streamCalcOffsetAnalysis : Except Failure PlaneInfo := do
  let minStride ← checkedInt32
    (if dim.width < padding.minStride then padding.minStride else dim.width)
  let minScanline ←
    checkedInt32 (if dim.height < padding.minScanline then padding.minScanline else dim.height)
  let stride ← padInt minStride padding.widthPadding
  let scanline ← padInt minScanline padding.heightPadding
  match fmt with
  | .yOnly =>
      layOut padding.planePadding 0 [rows stride scanline dim.width dim.height]
  | _ => paddedPlanes fmt dim padding stride scanline 0

end Functions

/-! ## Streams -/

/-- `cam_stream_type_t`. -/
inductive StreamType where
  | default
  | preview
  | postview
  | snapshot
  | video
  | callback
  | implDefined
  | metadata
  | raw
  | offlineProc
  | parm
  | analysis
  deriving DecidableEq

/-- What the build and the chip decide. -/
structure Platform where
  /-- `mm_camera_util_chip_is_a_family()`. -/
  isAFamily : Bool
  /-- `VENUS_PRESENT`. -/
  venus : Option Venus

/-- The switch over the stream type. -/
def calcOffsetOf (platform : Platform) (type : StreamType) (fmt : Format) (dim : Dimension)
    (padding : PaddingInfo) : Except Failure PlaneInfo :=
  match type with
  | .preview => streamCalcOffsetPreview platform.venus fmt dim
  | .postview => streamCalcOffsetPostView platform.venus fmt dim
  | .snapshot | .callback | .offlineProc =>
      streamCalcOffsetSnapshot fmt dim padding platform.isAFamily
  | .video => streamCalcOffsetVideo platform.venus dim
  | .raw => streamCalcOffsetRaw fmt dim padding
  | .analysis => streamCalcOffsetAnalysis fmt dim padding
  | .metadata => streamCalcOffsetMetadata dim padding
  | .default | .implDefined | .parm => .error .refused

/-- `reprocess_config`. -/
inductive Reprocess where
  /-- `CAM_OFFLINE_REPROCESS_TYPE`, with the input type and its buffer planes. -/
  | offline (inputType : StreamType) (inputBufPlanes : PlaneInfo)
  | online (inputStreamType : StreamType)

/-- `cam_stream_info_t`, as far as the layout reads it. -/
structure StreamInfo where
  type : StreamType
  fmt : Format
  dim : Dimension
  reprocessConfig : Reprocess
  /-- `feature_mask & CAM_QCOM_FEATURE_ROTATION`. -/
  rotationFeature : Bool
  /-- Whether the rotation is `ROTATE_90` or `ROTATE_270`. -/
  quarterTurn : Bool
  /-- `buf_planes`. -/
  bufPlanes : PlaneInfo

/-- The type whose function lays the post-processed frame out. -/
def Reprocess.sourceType : Reprocess → StreamType
  | .offline inputType _ => inputType
  | .online inputStreamType => inputStreamType

/-- `mm_stream_calc_offset_postproc`. -/
def streamCalcOffsetPostproc (platform : Platform) (info : StreamInfo) (padding : PaddingInfo) :
    Except Failure PlaneInfo :=
  match info.reprocessConfig with
  | .offline .default inputBufPlanes =>
      -- Take the offsets from the input source.
      if info.bufPlanes.frameLen = 0 then .ok inputBufPlanes
      else calcOffsetOf platform .default info.fmt info.dim padding
  | .offline inputType _ => calcOffsetOf platform inputType info.fmt info.dim padding
  | .online inputStreamType => calcOffsetOf platform inputStreamType info.fmt info.dim padding

/-- The dimension after the rotation, which a video stream ignores. -/
def StreamInfo.rotatedDim (info : StreamInfo) : Dimension :=
  if info.rotationFeature ∧ info.type ≠ .video ∧ info.quarterTurn then
    ⟨info.dim.height, info.dim.width⟩
  else info.dim

/-- `mm_stream_calc_offset`. -/
def streamCalcOffset (platform : Platform) (info : StreamInfo) (padding : PaddingInfo) :
    Except Failure PlaneInfo :=
  if info.type = .offlineProc then streamCalcOffsetPostproc platform info padding
  else calcOffsetOf platform info.type info.fmt info.rotatedDim padding

end AnglerHal.PlaneLayout
