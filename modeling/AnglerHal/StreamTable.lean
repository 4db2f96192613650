import AnglerHal.HalCommon
import Mathlib.Data.List.Basic
import Mathlib.Algebra.Group.Nat.Defs

namespace AnglerHal.StreamTable

/-!
# The stream table of a configuration

`configureStreamsPerfLocked` counts the streams of the framework by their kind, checks
the counts, and then fills the arrays of `mStreamConfigInfo`: one entry for each
stream, and entries for the streams that the HAL adds for itself.  Every write to an
array is kept with its index.
-/

/-! ## Streams and capabilities -/

/-- `MAX_NUM_STREAMS`. -/
def maxNumStreams : Nat :=
  8

/-- `MAX_RAW_STREAMS`. -/
def maxRawStreams : Nat :=
  1

/-- `MAX_STALLING_STREAMS`. -/
def maxStallingStreams : Nat :=
  1

/-- `MAX_PROCESSED_STREAMS`. -/
def maxProcessedStreams : Nat :=
  3

/-- `camera3_stream_type_t`. -/
inductive StreamType where
  | output
  | input
  | bidirectional
  | unknown
  deriving DecidableEq

/-- The pixel formats that the function tells apart. -/
inductive Format where
  | implementationDefined
  | ycbcr420888
  | blob
  | rawOpaque
  | raw16
  | raw10
  | unknown
  deriving DecidableEq

/-- `cam_stream_type_t`, as far as it is used. -/
inductive CamStreamType where
  | default
  | preview
  | snapshot
  | video
  | callback
  | raw
  | analysis
  deriving DecidableEq

/-- `cam_dimension_t`. -/
structure Dimension where
  width : Nat
  height : Nat
  deriving DecidableEq

/-- `camera3_stream_t`. -/
structure Stream where
  streamType : StreamType
  format : Format
  dim : Dimension
  /-- The rotation is 90 or 270 degrees. -/
  rotated : Bool
  /-- `IS_USAGE_ZSL(usage)`. -/
  isUsageZsl : Bool
  /-- `usage & PRIV_FLAGS_VIDEO_ENCODER`. -/
  videoEncoder : Bool
  deriving DecidableEq

/-- What is read besides the streams, and what the other checks return. -/
structure Hal where
  /-- `mOpMode` is the constrained high speed mode. -/
  highSpeed : Bool
  mEnableRawDump : Bool
  m_bTnrPreview : Bool
  m_bTnrVideo : Bool
  maxViewfinderSize : Dimension
  analysisRecommendedRes : Dimension
  maxRawSize : Dimension
  /-- `mDummyBatchStream`, as it was before. -/
  dummyBatchStream : Dimension
  validateUsageFlags : Int
  validateStreamDimensions : Int
  validateStreamRotations : Int
  /-- `mMetadataChannel->initialize`. -/
  metadataInitialize : Int
  deriving DecidableEq

/-- `CAM_QCOM_FEATURE_NONE`. -/
def featureNone : Nat :=
  0

/-- `CAM_QCOM_FEATURE_PP_SUPERSET_HAL3`. -/
def featurePpSupersetHal3 : Nat :=
  2 ^ 1 ||| 2 ^ 2 ||| 2 ^ 3 ||| 2 ^ 7 ||| 2 ^ 10 ||| 2 ^ 9 ||| 2 ^ 23

/-- `CAM_QCOM_FEATURE_CPP_TNR`. -/
def featureCppTnr : Nat :=
  2 ^ 17

/-- `VIDEO_4K_WIDTH` and `VIDEO_4K_HEIGHT`. -/
def video4k : Dimension :=
  ⟨3840, 2160⟩

/-- `QCamera3SupportChannel::kDim`. -/
def supportDim : Dimension :=
  ⟨640, 480⟩

/-- `isOnEncoder`. -/
def isOnEncoder (maxViewfinderSize dim : Dimension) : Bool :=
  maxViewfinderSize.width < dim.width || maxViewfinderSize.height < dim.height

/-- A raw format. -/
def Format.isRaw : Format → Bool
  | .rawOpaque => true
  | .raw16 => true
  | .raw10 => true
  | _ => false

/-! ## The checks -/

/-- What the first loop over the streams finds. -/
structure Counts where
  isZsl : Bool
  hasInput : Option Stream
  isJpeg : Bool
  jpegSize : Dimension
  bJpegExceeds4K : Bool
  m_bIsVideo : Bool
  m_bIs4KVideo : Bool
  videoSize : Dimension
  stallStreamCnt : Nat
  rawStreamCnt : Nat
  processedStreamCnt : Nat
  numStreamsOnEncoder : Nat
  numYuv888OnEncoder : Nat
  bJpegOnEncoder : Bool
  commonFeatureMask : Nat
  largeYuv888Size : Dimension
  deriving DecidableEq

/-- The variables before the loop. -/
def Counts.start : Counts where
  isZsl := false
  hasInput := none
  isJpeg := false
  jpegSize := ⟨0, 0⟩
  bJpegExceeds4K := false
  m_bIsVideo := false
  m_bIs4KVideo := false
  videoSize := ⟨0, 0⟩
  stallStreamCnt := 0
  rawStreamCnt := 0
  processedStreamCnt := 0
  numStreamsOnEncoder := 0
  numYuv888OnEncoder := 0
  bJpegOnEncoder := false
  commonFeatureMask := 0
  largeYuv888Size := ⟨0, 0⟩

/-- A stream on the encoder path. -/
def Counts.addOnEncoder (counts : Counts) (mask : Nat) : Counts :=
  { counts with
    commonFeatureMask := counts.commonFeatureMask ||| mask
    numStreamsOnEncoder := counts.numStreamsOnEncoder + 1 }

/-- The part of the loop on input, jpeg and video streams. -/
def Counts.noteKind (counts : Counts) (stream : Stream) : Counts :=
  let counts :=
    if stream.streamType = .bidirectional ∨ stream.streamType = .input then
      { counts with isZsl := true }
    else counts
  let counts :=
    if stream.streamType = .input then { counts with hasInput := some stream } else counts
  let counts :=
    if stream.format = .blob then
      { counts with
        isJpeg := true
        jpegSize := stream.dim
        bJpegExceeds4K := counts.bJpegExceeds4K ||
          video4k.width < stream.dim.width || video4k.height < stream.dim.height }
    else counts
  if stream.format = .implementationDefined ∧ stream.videoEncoder then
    { counts with
      m_bIsVideo := true
      videoSize := stream.dim
      m_bIs4KVideo := counts.m_bIs4KVideo ||
        (video4k.width ≤ stream.dim.width && video4k.height ≤ stream.dim.height) }
  else counts

/-- The part of the loop on the formats of output streams. -/
def Counts.noteFormat (hal : Hal) (counts : Counts) (stream : Stream) : Counts :=
  let onEncoder := isOnEncoder hal.maxViewfinderSize stream.dim
  match stream.format with
  | .blob =>
    let counts := { counts with stallStreamCnt := counts.stallStreamCnt + 1 }
    if onEncoder then { counts.addOnEncoder featureNone with bJpegOnEncoder := true } else counts
  | .raw10 => { counts with rawStreamCnt := counts.rawStreamCnt + 1 }
  | .rawOpaque => { counts with rawStreamCnt := counts.rawStreamCnt + 1 }
  | .raw16 => { counts with rawStreamCnt := counts.rawStreamCnt + 1 }
  | .implementationDefined =>
    let counts := { counts with processedStreamCnt := counts.processedStreamCnt + 1 }
    if onEncoder then
      if stream.streamType = .bidirectional ∨ stream.isUsageZsl then
        counts.addOnEncoder featureNone
      else counts.addOnEncoder featurePpSupersetHal3
    else counts
  | .ycbcr420888 =>
    let counts := { counts with processedStreamCnt := counts.processedStreamCnt + 1 }
    if onEncoder then
      let mask := if stream.dim.width ≤ video4k.width ∧ stream.dim.height ≤ video4k.height then
        featurePpSupersetHal3 else featureNone
      { counts.addOnEncoder mask with
        numYuv888OnEncoder := counts.numYuv888OnEncoder + 1
        largeYuv888Size := stream.dim }
    else counts
  | .unknown =>
    let counts := { counts with processedStreamCnt := counts.processedStreamCnt + 1 }
    if onEncoder then counts.addOnEncoder featurePpSupersetHal3 else counts

/-- A stream that the counts include. -/
def Stream.isOutput (stream : Stream) : Bool :=
  stream.streamType = .bidirectional || stream.streamType = .output

/-- One turn of the first loop. -/
def Counts.add (hal : Hal) (counts : Counts) (stream : Stream) : Counts :=
  if stream.isOutput then (counts.noteKind stream).noteFormat hal stream
  else counts.noteKind stream

/-- The checks before and after the first loop. -/
def checkStreams (hal : Hal) (streams : List Stream) (counts : Counts) : Int :=
  if streams.length < 1 then badValue
  else if maxNumStreams ≤ streams.length then badValue
  else if hal.validateUsageFlags ≠ 0 then hal.validateUsageFlags
  else if maxStallingStreams < counts.stallStreamCnt ∨ maxRawStreams < counts.rawStreamCnt ∨
      maxProcessedStreams < counts.processedStreamCnt then badValue
  else if counts.isZsl ∧ counts.m_bIsVideo then badValue
  else if 2 < counts.numStreamsOnEncoder then badValue
  else if counts.m_bIs4KVideo ∧ counts.bJpegExceeds4K then badValue
  else if ¬ counts.isZsl ∧ counts.bJpegOnEncoder ∧ counts.bJpegExceeds4K ∧
      1 < counts.numStreamsOnEncoder then badValue
  else if hal.validateStreamDimensions ≠ 0 then hal.validateStreamDimensions
  else hal.validateStreamRotations

/-- `zslStream` after one more stream; `none` if there are several. -/
def selectZsl (inputStream : Option Stream) (zslStream : Option Stream) (stream : Stream) :
    Option (Option Stream) :=
  if (stream.isUsageZsl ∨ stream.streamType = .bidirectional) ∧ zslStream.isSome then none
  else
    let zslStream :=
      if stream.isUsageZsl ∨ stream.streamType = .bidirectional then some stream else zslStream
    match inputStream with
    | none => some zslStream
    | some input =>
      if stream.streamType = .output ∧ stream.format = .ycbcr420888 ∧
          input.format = .ycbcr420888 ∧ input.dim = stream.dim then some (some stream)
      else some zslStream

/-! ## The table -/

/-- The arrays of `mStreamConfigInfo`. -/
inductive TableArray where
  | streamSizes
  | type
  | postprocessMask
  deriving DecidableEq

/-- `mStreamConfigInfo`, with the writes to its arrays. -/
structure StreamConfigInfo where
  streamSizes : Nat → Dimension
  type : Nat → CamStreamType
  postprocessMask : Nat → Nat
  numStreams : Nat
  written : List (TableArray × Nat)

namespace StreamConfigInfo

/-- The table after `memset`. -/
def cleared : StreamConfigInfo where
  streamSizes := fun _ => ⟨0, 0⟩
  type := fun _ => .default
  postprocessMask := fun _ => featureNone
  numStreams := 0
  written := []

/-- `stream_sizes[num_streams] = ...`. -/
def setSize (table : StreamConfigInfo) (dim : Dimension) : StreamConfigInfo :=
  { table with
    streamSizes := Function.update table.streamSizes table.numStreams dim
    written := (.streamSizes, table.numStreams) :: table.written }

/-- `type[num_streams] = ...`. -/
def setType (table : StreamConfigInfo) (type : CamStreamType) : StreamConfigInfo :=
  { table with
    type := Function.update table.type table.numStreams type
    written := (.type, table.numStreams) :: table.written }

/-- `postprocess_mask[num_streams] = ...`. -/
def setMask (table : StreamConfigInfo) (mask : Nat) : StreamConfigInfo :=
  { table with
    postprocessMask := Function.update table.postprocessMask table.numStreams mask
    written := (.postprocessMask, table.numStreams) :: table.written }

/-- An entry that the HAL adds. -/
def append (table : StreamConfigInfo) (dim : Dimension) (type : CamStreamType)
    (mask : Nat) : StreamConfigInfo :=
  let entry := ((table.setSize dim).setType type).setMask mask
  { entry with numStreams := entry.numStreams + 1 }

/-- An entry that the HAL adds in some cases. -/
def appendIf (table : StreamConfigInfo) (needed : Bool) (dim : Dimension) (type : CamStreamType)
    (mask : Nat) : StreamConfigInfo :=
  if needed then table.append dim type mask else table

end StreamConfigInfo

/-- The second loop's variables. -/
structure Filling where
  table : StreamConfigInfo
  isRawStreamRequested : Bool
  dummyBatchStream : Dimension

/-- `m_bTnrEnabled`. -/
def tnrEnabled (hal : Hal) (counts : Counts) : Bool :=
  (hal.m_bTnrPreview || hal.m_bTnrVideo) && counts.m_bIsVideo &&
    (counts.videoSize = ⟨1920, 1080⟩ || counts.videoSize = ⟨1280, 720⟩) && !hal.highSpeed

/-- `bYuv888OverrideJpeg`. -/
def yuv888OverrideJpeg (hal : Hal) (counts : Counts) : Bool :=
  counts.numYuv888OnEncoder ≠ 0 && isOnEncoder hal.maxViewfinderSize counts.jpegSize &&
    counts.jpegSize.width < counts.largeYuv888Size.width &&
    counts.jpegSize.height < counts.largeYuv888Size.height

/-- The mask for streams on the encoder: `commonFeatureMask` if there are several. -/
def encoderMask (hal : Hal) (counts : Counts) : Nat :=
  if 1 < counts.numStreamsOnEncoder then
    if yuv888OverrideJpeg hal counts = false ∧ counts.isJpeg = false then featurePpSupersetHal3
    else counts.commonFeatureMask
  else featureNone

/-- The size of a jpeg stream's entry is that of the stream that it shares with. -/
def overrideJpegSize (hal : Hal) (counts : Counts) (zslStream : Option Stream)
    (entry : StreamConfigInfo) : StreamConfigInfo × Int :=
  if counts.isZsl then
    match zslStream with
    | some zsl => (entry.setSize zsl.dim, 0)
    | none => (entry, badValue)
  else if counts.m_bIs4KVideo then (entry.setSize counts.videoSize, 0)
  else if yuv888OverrideJpeg hal counts then (entry.setSize counts.largeYuv888Size, 0)
  else (entry, 0)

/-- The entry of a stream; the status is that of the missing ZSL stream. -/
def fillEntry (hal : Hal) (counts : Counts) (zslStream : Option Stream)
    (table : StreamConfigInfo) (stream : Stream) : StreamConfigInfo × Int :=
  let table := table.setSize stream.dim
  let onEncoder := isOnEncoder hal.maxViewfinderSize stream.dim
  if (stream.streamType = .bidirectional ∨ stream.isUsageZsl) ∧
      stream.format = .implementationDefined then
    ((table.setType .snapshot).setMask (encoderMask hal counts), 0)
  else if stream.streamType = .input then (table, 0)
  else
    match stream.format with
    | .implementationDefined =>
      let wantsTnr := if stream.videoEncoder then hal.m_bTnrVideo else hal.m_bTnrPreview
      let mask := if tnrEnabled hal counts && wantsTnr then
        featurePpSupersetHal3 ||| featureCppTnr else featurePpSupersetHal3
      let type := if stream.videoEncoder then CamStreamType.video else .preview
      let entry := (table.setType type).setMask mask
      if stream.rotated then (entry.setSize ⟨stream.dim.height, stream.dim.width⟩, 0)
      else (entry, 0)
    | .ycbcr420888 =>
      let mask := if onEncoder then encoderMask hal counts else featurePpSupersetHal3
      ((table.setType .callback).setMask mask, 0)
    | .blob =>
      let mask := if counts.m_bIs4KVideo ∧ ¬ counts.isZsl then featurePpSupersetHal3
        else if onEncoder then encoderMask hal counts else featureNone
      overrideJpegSize hal counts zslStream ((table.setType .snapshot).setMask mask)
    | .rawOpaque => (table.setType .raw, 0)
    | .raw16 => (table.setType .raw, 0)
    | .raw10 => (table.setType .raw, 0)
    | .unknown => ((table.setType .default).setMask featureNone, 0)

/-- The status of the construction of a stream's channel. -/
def constructChannel (stream : Stream) : Int :=
  match stream.streamType with
  | .input => 0
  | .unknown => badValue
  | _ => if stream.format = .unknown then badValue else 0

/-- `mDummyBatchStream` after a stream. -/
def noteBatch (hal : Hal) (counts : Counts) (stream : Stream) (before : Dimension) : Dimension :=
  if stream.format = .implementationDefined ∧ ¬ counts.m_bIsVideo ∧ hal.highSpeed then stream.dim
  else before

/-- One turn of the second loop. -/
def addStream (hal : Hal) (counts : Counts) (zslStream : Option Stream) (filling : Filling)
    (stream : Stream) : Filling × Int :=
  let (table, filled) := fillEntry hal counts zslStream filling.table stream
  let entry := { filling with table := table }
  if filled ≠ 0 then (entry, filled)
  else
    let noted := { entry with
      isRawStreamRequested := entry.isRawStreamRequested ||
        (stream.streamType ≠ .input && stream.format.isRaw) }
    if constructChannel stream ≠ 0 then (noted, constructChannel stream)
    else if stream.streamType = .input then (noted, 0)
    else
      ({ noted with
        table := { table with numStreams := table.numStreams + 1 }
        dummyBatchStream := noteBatch hal counts stream noted.dummyBatchStream }, 0)

/-- The second loop, which ends at the first error. -/
def addStreams (hal : Hal) (counts : Counts) (zslStream : Option Stream) :
    Filling → List Stream → Filling × Int
  | filling, [] => (filling, 0)
  | filling, stream :: rest =>
    let (next, rc) := addStream hal counts zslStream filling stream
    if rc ≠ 0 then (next, rc) else addStreams hal counts zslStream next rest

/-- `isSupportChannelNeeded`. -/
def isSupportChannelNeeded (streams : List Stream) (table : StreamConfigInfo) : Bool :=
  let pprocRequested := (List.range table.numStreams).any fun i =>
    table.type i ≠ .analysis && table.postprocessMask i ≠ featureNone
  if pprocRequested = false then true
  else streams.all fun stream => stream.format.isRaw || stream.format = .blob

/-- The entries for analysis, support, raw dump and the dummy batch stream. -/
def addInternal (hal : Hal) (counts : Counts) (streams : List Stream) (filling : Filling) :
    StreamConfigInfo :=
  let analysis :=
    filling.table.append hal.analysisRecommendedRes .analysis featurePpSupersetHal3
  let support := analysis.appendIf (isSupportChannelNeeded streams analysis) supportDim .callback
    featurePpSupersetHal3
  let rawDump := support.appendIf (hal.mEnableRawDump && !filling.isRawStreamRequested)
    hal.maxRawSize .raw featureNone
  rawDump.appendIf (hal.highSpeed && !counts.m_bIsVideo) filling.dummyBatchStream .video
    featurePpSupersetHal3

/-- What a call returns, whether it has passed all checks, and the table that it has
written. -/
structure Outcome where
  rc : Int
  passed : Bool
  table : StreamConfigInfo

/-- `configureStreamsPerfLocked`. -/
def configureStreams (hal : Hal) (streams : List Stream) : Outcome :=
  let counts := streams.foldl (Counts.add hal) .start
  let checked := checkStreams hal streams counts
  if checked ≠ 0 then ⟨checked, false, .cleared⟩
  else
    match streams.foldlM (selectZsl counts.hasInput) none with
    | none => ⟨badValue, false, .cleared⟩
    | some zslStream =>
      if hal.metadataInitialize < 0 then ⟨hal.metadataInitialize, false, .cleared⟩
      else
        let (filling, rc) :=
          addStreams hal counts zslStream ⟨.cleared, false, hal.dummyBatchStream⟩ streams
        if rc ≠ 0 then ⟨rc, false, filling.table⟩
        else ⟨hal.metadataInitialize, true, addInternal hal counts streams filling⟩

/-! ## What is counted -/

/-- The streams that the checks bound. -/
def Counts.total (counts : Counts) : Nat :=
  counts.stallStreamCnt + counts.rawStreamCnt + counts.processedStreamCnt

@[simp]
theorem noteKind_total (counts : Counts) (stream : Stream) :
    (counts.noteKind stream).total = counts.total := by
  simp only [Counts.noteKind, Counts.total]
  split_ifs <;> rfl

@[simp]
theorem noteKind_rawStreamCnt (counts : Counts) (stream : Stream) :
    (counts.noteKind stream).rawStreamCnt = counts.rawStreamCnt := by
  simp only [Counts.noteKind]
  split_ifs <;> rfl

theorem noteFormat_total (hal : Hal) (counts : Counts) (stream : Stream) :
    (counts.noteFormat hal stream).total = counts.total + 1 := by
  simp only [Counts.noteFormat, Counts.addOnEncoder]
  cases stream.format <;> simp only <;> repeat' split
  all_goals simp only [Counts.total]; omega

theorem noteFormat_rawStreamCnt (hal : Hal) (counts : Counts) (stream : Stream) :
    (counts.noteFormat hal stream).rawStreamCnt =
      counts.rawStreamCnt + if stream.format.isRaw then 1 else 0 := by
  simp only [Counts.noteFormat, Counts.addOnEncoder]
  cases stream.format <;> simp only [Format.isRaw, if_true, Bool.false_eq_true, if_false,
    Nat.add_zero] <;> repeat' split
  all_goals rfl

/-- A raw stream that the counts include. -/
def Stream.isRawOutput (stream : Stream) : Bool :=
  stream.isOutput && stream.format.isRaw

/-- Every output stream is counted once. -/
theorem counts_total (hal : Hal) (streams : List Stream) (counts : Counts) :
    (streams.foldl (Counts.add hal) counts).total =
        counts.total + streams.countP Stream.isOutput ∧
      (streams.foldl (Counts.add hal) counts).rawStreamCnt =
        counts.rawStreamCnt + streams.countP Stream.isRawOutput := by
  induction streams generalizing counts with
  | nil => exact ⟨rfl, rfl⟩
  | cons stream rest inductionHypothesis =>
    obtain ⟨total, raw⟩ := inductionHypothesis (counts.add hal stream)
    rw [List.foldl_cons, total, raw, Counts.add, List.countP_cons, List.countP_cons,
      Stream.isRawOutput]
    by_cases isOutput : stream.isOutput
    · rw [if_pos isOutput, noteFormat_total, noteFormat_rawStreamCnt, noteKind_total,
        noteKind_rawStreamCnt, isOutput, Bool.true_and]
      exact ⟨by rw [if_pos rfl, Nat.add_assoc, Nat.add_comm 1],
        by rw [Nat.add_assoc, Nat.add_comm (ite _ _ _)]⟩
    · rw [if_neg isOutput, noteKind_total, noteKind_rawStreamCnt]
      simp [isOutput]

variable {streams : List Stream} {table : StreamConfigInfo} {filling : Filling}
  {rc : Int}

/-- What the checks leave. -/
theorem checkStreams_bounds {hal : Hal} {counts : Counts}
    (checked : checkStreams hal streams counts = 0) :
    counts.total ≤ 5 ∧ (counts.rawStreamCnt = 0 → counts.total ≤ 4) := by
  by_cases bad : maxStallingStreams < counts.stallStreamCnt ∨
      maxRawStreams < counts.rawStreamCnt ∨ maxProcessedStreams < counts.processedStreamCnt
  · rw [checkStreams, if_pos bad] at checked
    split_ifs at checked with _ _ flags
    · cases checked
    · cases checked
    · exact absurd checked flags
    · cases checked
  · simp only [maxStallingStreams, maxRawStreams, maxProcessedStreams] at bad
    simp only [Counts.total]
    omega

/-! ## What is written -/

/-- All entries are written, and no other ones. -/
def StreamConfigInfo.Exact (table : StreamConfigInfo) : Prop :=
  ∀ index, (∃ array, (array, index) ∈ table.written) ↔ index < table.numStreams

/-- What is promised of a call. -/
structure Outcome.Sound (outcome : Outcome) : Prop where
  within : ∀ write ∈ outcome.table.written, write.2 < maxNumStreams
  counted : outcome.passed = true → outcome.table.Exact

/-- All entries are written, and perhaps a part of the next one. -/
structure StreamConfigInfo.Filled (table : StreamConfigInfo) : Prop where
  within : ∀ write ∈ table.written, write.2 ≤ table.numStreams
  entries : ∀ index, index < table.numStreams → ∃ array, (array, index) ∈ table.written

section Written

theorem filled_cleared : StreamConfigInfo.cleared.Filled :=
  ⟨nofun, nofun⟩

/-- A write to the entry after the last. -/
theorem StreamConfigInfo.Filled.write (filled : table.Filled) (array : TableArray)
    {next : StreamConfigInfo} (numStreams : next.numStreams = table.numStreams)
    (written : next.written = (array, table.numStreams) :: table.written) : next.Filled where
  within := fun write member => by
    rw [numStreams]
    obtain rfl | old := List.mem_cons.mp (written ▸ member)
    · exact Nat.le_refl _
    · exact filled.within write old
  entries := fun index inside => by
    obtain ⟨array, old⟩ := filled.entries index (numStreams ▸ inside)
    exact ⟨array, written ▸ List.mem_cons_of_mem _ old⟩

theorem StreamConfigInfo.Filled.setSize (filled : table.Filled) (dim : Dimension) :
    (table.setSize dim).Filled :=
  filled.write .streamSizes rfl rfl

theorem StreamConfigInfo.Filled.setType (filled : table.Filled) (type : CamStreamType) :
    (table.setType type).Filled :=
  filled.write .type rfl rfl

theorem StreamConfigInfo.Filled.setMask (filled : table.Filled) (mask : Nat) :
    (table.setMask mask).Filled :=
  filled.write .postprocessMask rfl rfl

theorem StreamConfigInfo.Exact.filled (exact : table.Exact) : table.Filled where
  within := fun write member => Nat.le_of_lt ((exact write.2).mp ⟨write.1, member⟩)
  entries := fun index inside => (exact index).mpr inside

/-- The entry that was begun is closed. -/
theorem StreamConfigInfo.Filled.close (filled : table.Filled)
    (begun : ∃ array, (array, table.numStreams) ∈ table.written) :
    StreamConfigInfo.Exact { table with numStreams := table.numStreams + 1 } := by
  intro index
  constructor
  · rintro ⟨array, member⟩
    exact Nat.lt_succ_of_le (filled.within _ member)
  · intro inside
    obtain less | rfl := Nat.lt_succ_iff_lt_or_eq.mp inside
    · exact filled.entries index less
    · exact begun

theorem StreamConfigInfo.Filled.append (filled : table.Filled) (dim : Dimension)
    (type : CamStreamType) (mask : Nat) : (table.append dim type mask).Exact :=
  (((filled.setSize dim).setType type).setMask mask).close ⟨.postprocessMask, List.mem_cons_self⟩

theorem StreamConfigInfo.Exact.appendIf (exact : table.Exact) (needed : Bool) (dim : Dimension)
    (type : CamStreamType) (mask : Nat) :
    (table.appendIf needed dim type mask).Exact ∧
      (table.appendIf needed dim type mask).numStreams ≤ table.numStreams + needed.toNat := by
  cases needed with
  | true => exact ⟨exact.filled.append dim type mask, Nat.le_refl _⟩
  | false => exact ⟨exact, Nat.le_refl _⟩

/-- Writes to one entry: the table stays filled, with the same number of entries. -/
structure Begun (table next : StreamConfigInfo) : Prop where
  filled : next.Filled
  numStreams : next.numStreams = table.numStreams
  begun : ∃ array, (array, next.numStreams) ∈ next.written

namespace Begun

variable {next : StreamConfigInfo}

theorem setSize (begun : Begun table next) (dim : Dimension) : Begun table (next.setSize dim) :=
  ⟨begun.filled.setSize dim, begun.numStreams, .streamSizes, List.mem_cons_self⟩

theorem setType (begun : Begun table next) (type : CamStreamType) :
    Begun table (next.setType type) :=
  ⟨begun.filled.setType type, begun.numStreams, .type, List.mem_cons_self⟩

theorem setMask (begun : Begun table next) (mask : Nat) : Begun table (next.setMask mask) :=
  ⟨begun.filled.setMask mask, begun.numStreams, .postprocessMask, List.mem_cons_self⟩

end Begun

end Written

section Loop

variable (hal : Hal) (counts : Counts) (zslStream : Option Stream)

theorem overrideJpegSize_begun {entry : StreamConfigInfo} (begun : Begun table entry) :
    Begun table (overrideJpegSize hal counts zslStream entry).1 := by
  unfold overrideJpegSize
  split
  · cases zslStream with
    | none => exact begun
    | some zsl => exact begun.setSize zsl.dim
  · split
    · exact begun.setSize _
    · split
      · exact begun.setSize _
      · exact begun

/-- A stream's writes are to one entry. -/
theorem fillEntry_begun (filled : table.Filled) (stream : Stream) :
    Begun table (fillEntry hal counts zslStream table stream).1 := by
  have sized : Begun table (table.setSize stream.dim) :=
    ⟨filled.setSize _, rfl, .streamSizes, List.mem_cons_self⟩
  unfold fillEntry
  simp only
  split
  · exact (sized.setType _).setMask _
  · split
    · exact sized
    · cases stream.format with
      | implementationDefined =>
        simp only
        split
        · exact ((sized.setType _).setMask _).setSize _
        · exact (sized.setType _).setMask _
      | ycbcr420888 => exact (sized.setType _).setMask _
      | blob => exact overrideJpegSize_begun hal counts zslStream ((sized.setType _).setMask _)
      | rawOpaque => exact sized.setType _
      | raw16 => exact sized.setType _
      | raw10 => exact sized.setType _
      | unknown => exact (sized.setType _).setMask _

/-- One turn of the second loop adds an entry for an output stream at most. -/
theorem addStream_filled {next : Filling} {stream : Stream}
    (filled : filling.table.Filled)
    (added : addStream hal counts zslStream filling stream = (next, rc)) :
    next.table.Filled ∧
      next.table.numStreams ≤ filling.table.numStreams + (if stream.isOutput then 1 else 0) ∧
      (rc = 0 → next.isRawStreamRequested =
        (filling.isRawStreamRequested || stream.isRawOutput)) := by
  obtain ⟨entry, numStreams, begun⟩ := fillEntry_begun hal counts zslStream filled stream
  unfold addStream at added
  simp only at added
  split_ifs at added with failed refused isInput
  · obtain ⟨rfl, rfl⟩ := Prod.mk.inj added
    exact ⟨entry, numStreams ▸ Nat.le_add_right _ _, fun zero => absurd zero failed⟩
  · obtain ⟨rfl, rfl⟩ := Prod.mk.inj added
    exact ⟨entry, numStreams ▸ Nat.le_add_right _ _, fun zero => absurd zero refused⟩
  · obtain ⟨rfl, rfl⟩ := Prod.mk.inj added
    refine ⟨entry, numStreams ▸ Nat.le_add_right _ _, fun _ => ?_⟩
    simp [Stream.isRawOutput, Stream.isOutput, isInput]
  · obtain ⟨rfl, rfl⟩ := Prod.mk.inj added
    have isOutput : stream.isOutput = true := by
      cases kind : stream.streamType with
      | output => simp [Stream.isOutput, kind]
      | bidirectional => simp [Stream.isOutput, kind]
      | input => exact absurd kind isInput
      | unknown => exact absurd (by simp [constructChannel, kind, badValue]) refused
    refine ⟨(entry.close begun).filled, ?_, fun _ => ?_⟩
    · rw [if_pos isOutput]
      exact Nat.le_of_eq (congrArg (· + 1) numStreams)
    · simp [Stream.isRawOutput, isOutput, isInput]

/-- Induction on the streams. -/
theorem addStreams_filled {final : Filling} (filled : filling.table.Filled)
    (added : addStreams hal counts zslStream filling streams = (final, rc)) :
    final.table.Filled ∧
      final.table.numStreams ≤ filling.table.numStreams + streams.countP Stream.isOutput ∧
      (rc = 0 → final.isRawStreamRequested =
        (filling.isRawStreamRequested || streams.any Stream.isRawOutput)) := by
  induction streams generalizing filling with
  | nil =>
    obtain ⟨rfl, rfl⟩ := Prod.mk.inj added
    exact ⟨filled, Nat.le_refl _, fun _ => (Bool.or_false _).symm⟩
  | cons stream rest inductionHypothesis =>
    rw [addStreams] at added
    cases first : addStream hal counts zslStream filling stream with
    | mk next status =>
      obtain ⟨stays, counted, raw⟩ := addStream_filled hal counts zslStream filled first
      simp only [first] at added
      rw [List.countP_cons]
      split_ifs at added with failed
      · obtain ⟨rfl, rfl⟩ := Prod.mk.inj added
        exact ⟨stays, by omega, fun zero => absurd zero failed⟩
      · obtain ⟨final, bounded, requested⟩ := inductionHypothesis stays added
        refine ⟨final, by omega, fun zero => ?_⟩
        rw [requested zero, raw (not_not.mp failed), List.any_cons, Bool.or_assoc]

/-- The entries that the HAL adds. -/
theorem addInternal_exact (filled : filling.table.Filled) :
    (addInternal hal counts streams filling).Exact ∧
      (addInternal hal counts streams filling).numStreams ≤ filling.table.numStreams + 4 ∧
      (filling.isRawStreamRequested = true →
        (addInternal hal counts streams filling).numStreams ≤ filling.table.numStreams + 3) := by
  have analysis := filled.append hal.analysisRecommendedRes .analysis featurePpSupersetHal3
  have first : (filling.table.append hal.analysisRecommendedRes .analysis
      featurePpSupersetHal3).numStreams = filling.table.numStreams + 1 := rfl
  obtain ⟨support, second⟩ := analysis.appendIf (isSupportChannelNeeded streams
    (filling.table.append hal.analysisRecommendedRes .analysis featurePpSupersetHal3)) supportDim
    .callback featurePpSupersetHal3
  obtain ⟨rawDump, third⟩ := support.appendIf
    (hal.mEnableRawDump && !filling.isRawStreamRequested) hal.maxRawSize .raw featureNone
  obtain ⟨batch, fourth⟩ := rawDump.appendIf (hal.highSpeed && !counts.m_bIsVideo)
    filling.dummyBatchStream .video featurePpSupersetHal3
  have small (needed : Bool) : needed.toNat ≤ 1 := Bool.toNat_le needed
  have less := small (isSupportChannelNeeded streams
    (filling.table.append hal.analysisRecommendedRes .analysis featurePpSupersetHal3))
  have dump := small (hal.mEnableRawDump && !filling.isRawStreamRequested)
  have dummy := small (hal.highSpeed && !counts.m_bIsVideo)
  refine ⟨batch, Nat.le_trans fourth (by omega), fun requested => Nat.le_trans fourth ?_⟩
  have noDump : (hal.mEnableRawDump && !filling.isRawStreamRequested).toNat = 0 := by
    rw [requested, Bool.not_true, Bool.and_false]
    rfl
  omega

end Loop

theorem sound_cleared (rc : Int) : Outcome.Sound ⟨rc, false, .cleared⟩ :=
  ⟨nofun, nofun⟩

/-- Every write to the table is within its arrays, and at the end the entries written are
those counted. -/
theorem configureStreams_sound (hal : Hal) (streams : List Stream) :
    (configureStreams hal streams).Sound := by
  unfold configureStreams
  obtain ⟨counts, isCounts⟩ : ∃ counts, counts = streams.foldl (Counts.add hal) .start := ⟨_, rfl⟩
  simp only [← isCounts]
  split
  · exact sound_cleared _
  · rename_i passes
    obtain ⟨five, four⟩ := checkStreams_bounds (not_not.mp passes)
    obtain ⟨total, raw⟩ := counts_total hal streams .start
    rw [← isCounts] at total raw
    have startTotal : Counts.start.total = 0 := rfl
    have startRaw : Counts.start.rawStreamCnt = 0 := rfl
    cases selected : streams.foldlM (selectZsl counts.hasInput) none with
    | none => exact sound_cleared _
    | some zslStream =>
      simp only
      split
      · exact sound_cleared _
      · cases added : addStreams hal counts zslStream ⟨.cleared, false, hal.dummyBatchStream⟩
            streams with
        | mk filling rc =>
          obtain ⟨filled, bounded, requested⟩ :=
            addStreams_filled hal counts zslStream filled_cleared added
          have few : filling.table.numStreams ≤ 0 + streams.countP Stream.isOutput := bounded
          simp only
          split
          · refine ⟨fun write member => ?_, nofun⟩
            have inside := filled.within write member
            simp only [maxNumStreams]
            omega
          · rename_i noError
            obtain ⟨exact, most, fewer⟩ := addInternal_exact hal counts filled
            refine ⟨fun write member => ?_, fun _ => exact⟩
            have inside := (exact write.2).mp ⟨write.1, member⟩
            refine Nat.lt_of_lt_of_le inside ?_
            -- a raw stream leaves no room for more, but then there is no raw dump
            cases isRaw : filling.isRawStreamRequested with
            | true =>
              have := fewer isRaw
              simp only [maxNumStreams]
              omega
            | false =>
              have noRaw : streams.countP Stream.isRawOutput = 0 := by
                have all := requested (not_not.mp noError)
                rw [isRaw, Bool.false_or] at all
                rw [List.countP_eq_zero]
                exact fun stream member isRaw => Bool.false_ne_true
                  (all.trans (List.any_eq_true.mpr ⟨stream, member, isRaw⟩))
              have := four (by omega)
              simp only [maxNumStreams]
              omega

end AnglerHal.StreamTable
