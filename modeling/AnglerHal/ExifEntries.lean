import AnglerHal.HalCommon
import AnglerHal.ParamMaps
import AnglerHal.Strtol

namespace AnglerHal.ExifEntries

open CString ParamMaps

/-!
# The EXIF entries of a picture

`getExifData` gathers strings and numbers in local buffers and `addEntry` copies them
into a table.  A string is the list of its bytes before the NUL.  A buffer holds units:
bytes, shorts or rationals.
-/

/-- `MAX_EXIF_TABLE_ENTRIES`. -/
def maxExifTableEntries : Nat :=
  17

/-- `EXIF_ASCII_PREFIX_SIZE`. -/
def exifAsciiPrefixSize : Nat :=
  8

/-- `GPS_PROCESSING_METHOD_SIZE`. -/
def gpsProcessingMethodSize : Nat :=
  33

/-- `PROPERTY_VALUE_MAX`. -/
def propertyValueMax : Nat :=
  92

/-- `ExifAsciiPrefix`. -/
def exifAsciiPrefix : Bytes :=
  [0x41, 0x53, 0x43, 0x49, 0x49, 0, 0, 0]

/-- The tags of the entries. -/
inductive Tag where
  | dateTime
  | exifDateTimeOriginal
  | exifDateTimeDigitized
  | subsecTime
  | subsecTimeOriginal
  | subsecTimeDigitized
  | focalLength
  | isoSpeedRating
  | gpsProcessingmethod
  | gpsLatitude
  | gpsLatitudeRef
  | gpsLongitude
  | gpsLongitudeRef
  | gpsAltitude
  | gpsAltitudeRef
  | gpsDatestamp
  | gpsTimestamp
  | make
  | model
  | software
  | orientation
  | tnOrientation
  deriving DecidableEq

/-- `exif_tag_type_t`. -/
inductive TagType where
  | byte
  | ascii
  | short
  | long
  | rational
  | undefined
  | slong
  | srational
  deriving DecidableEq

/-- What a buffer holds in one unit, `unset` before anything is written there. -/
inductive Datum where
  | unset
  | int (value : Int)
  | rat (num denom : Nat)
  deriving DecidableEq

/-- The bytes of a string as units. -/
def units (bytes : Bytes) : List Datum :=
  bytes.map fun byte => .int byte.toNat

/-- A read or write of the units from `start` to `stop` of a buffer. -/
structure Access where
  size : Nat
  start : Nat
  stop : Nat
  deriving DecidableEq

/-- An access that stays inside its buffer. -/
def Access.Inside (access : Access) : Prop :=
  access.stop ≤ access.size

instance (access : Access) : Decidable access.Inside :=
  inferInstanceAs (Decidable (access.stop ≤ access.size))

/-- A call of `addEntry`: its arguments, and the size and content of the buffer. -/
structure Call where
  tagid : Tag
  type : TagType
  count : Nat
  size : Nat
  data : List Datum
  deriving DecidableEq

/-- The union of an entry: the value itself, or a pointer to a block of the heap. -/
inductive EntryData where
  | null
  | value (datum : Datum)
  | block (id : Nat)
  deriving DecidableEq

/-- `QEXIF_INFO_DATA`. -/
structure Entry where
  tag_id : Tag
  type : TagType
  count : Nat
  data : EntryData
  deriving DecidableEq

/-- Types and counts for which the data is a pointer. -/
def isPointer : TagType → Nat → Bool
  | .ascii, _ => true
  | .undefined, _ => true
  | _, count => 1 < count

/-- The size that `addEntry` requests, a NUL behind the ascii string. -/
def blockSize : TagType → Nat → Nat
  | .ascii, count => count + 1
  | _, count => count

/-- `QCameraExif`, whose table has the entries that are added. -/
structure QCameraExif where
  m_Entries : List Entry
  bounded : m_Entries.length ≤ maxExifTableEntries

/-- `QCameraExif::QCameraExif`. -/
def QCameraExif.new : QCameraExif where
  m_Entries := []
  bounded := Nat.zero_le _

/-- `m_nNumEntries`. -/
def QCameraExif.m_nNumEntries (exif : QCameraExif) : Nat :=
  exif.m_Entries.length

/-- The next entry of the table. -/
def QCameraExif.push (exif : QCameraExif) (entry : Entry)
    (room : exif.m_nNumEntries < maxExifTableEntries) : QCameraExif where
  m_Entries := exif.m_Entries ++ [entry]
  bounded := by
    rw [List.length_append]
    exact room

/-- The object with the blocks it allocated, the calls of `malloc` and the accesses so far. -/
structure Assembly where
  exif : QCameraExif
  blocks : List (List Datum)
  mallocs : Nat
  accesses : List Access

/-- `QCameraExif::addEntry`, where `malloc` says which call of it succeeds. -/
def addEntry (malloc : Nat → Bool) (state : Assembly) (call : Call) : Int × Assembly :=
  if room : state.exif.m_nNumEntries < maxExifTableEntries then
    let entry := Entry.mk call.tagid call.type call.count
    if isPointer call.type call.count then
      if malloc state.mallocs then
        (noError,
          { exif := state.exif.push (entry (.block state.blocks.length)) room
            blocks := state.blocks ++ [call.data.take call.count]
            mallocs := state.mallocs + 1
            accesses := state.accesses ++
              [⟨call.size, 0, call.count⟩, ⟨blockSize call.type call.count, 0, call.count⟩] })
      else
        (noMemory,
          { state with
            exif := state.exif.push (entry .null) room
            mallocs := state.mallocs + 1 })
    else
      (noError,
        { state with
          exif := state.exif.push (entry (.value (call.data.headD .unset))) room
          accesses := state.accesses ++ [⟨call.size, 0, 1⟩] })
  else
    (noMemory, state)

/-- What `~QCameraExif` frees for one entry. -/
def Entry.freed (entry : Entry) : List EntryData :=
  if isPointer entry.type entry.count ∧ entry.data ≠ .null then [entry.data] else []

/-- `QCameraExif::~QCameraExif`: the pointers that it frees. -/
def QCameraExif.delete (exif : QCameraExif) : List EntryData :=
  exif.m_Entries.flatMap Entry.freed

/-- A statement of `getExifData`: an access of a local buffer, or a call of `addEntry`. -/
inductive Statement where
  | touch (access : Access)
  | add (call : Call)
  deriving DecidableEq

/-- One statement; the result of `addEntry` is not looked at. -/
def execute (malloc : Nat → Bool) (state : Assembly) : Statement → Assembly
  | .touch access => { state with accesses := state.accesses ++ [access] }
  | .add call => (addEntry malloc state call).2

/-! ## What the helpers read -/

/-- `struct tm`. -/
structure Tm where
  tm_year : Int
  tm_mon : Fin 12
  tm_mday : Fin 32
  tm_hour : Fin 24
  tm_min : Fin 60
  tm_sec : Fin 61
  yearRange : -2147483648 ≤ tm_year ∧ tm_year ≤ 2147483647

/-- The numbers that floating-point calls make of a string. -/
structure Numbers where
  /-- `(int)degF`, `(int)minF` and `(int)(secF * 10000.0)` of `parseGPSCoordinate`. -/
  coordinate : Bytes → Int × Int × Int
  /-- Whether `getFloat` is below zero. -/
  negative : Bytes → Bool
  /-- Whether `atof` is below zero, and its absolute value by 1000. -/
  altitude : Bytes → Bool × Int

/-- A property, whose value fits into `PROPERTY_VALUE_MAX` bytes with its NUL. -/
abbrev Property :=
  { value : Bytes // value.length < propertyValueMax }

/-- What the application, the platform and the heap supply. -/
structure Supplies where
  /-- Whether `new QCameraExif` succeeds. -/
  newExif : Bool
  /-- Which call of `malloc` succeeds. -/
  malloc : Nat → Bool
  long : Strtol.LongSize
  /-- `gettimeofday` with `localtime_r`, and the microseconds. -/
  now : Option (Tm × Fin 1000000)
  gmtime : Int → Option Tm
  numbers : Numbers
  /-- `(int)(getFloat(KEY_FOCAL_LENGTH) * FOCAL_LENGTH_DECIMAL_PRECISION)`. -/
  focalLengthValue : Int
  isoMode : Option String
  yuvSensor : Bool
  gpsProcessingMethod : Option Bytes
  gpsLatitude : Option Bytes
  gpsLongitude : Option Bytes
  gpsAltitude : Option Bytes
  gpsTimestamp : Option Bytes
  manufacturer : Property
  productModel : Property
  description : Property
  exifRotation : String
  mRotation : Int

/-- `%0*d`. -/
def padded (width : Nat) (value : Int) : Bytes :=
  let sign : Bytes := if value < 0 then [45] else []
  let digits := Strtol.decimalNat value.natAbs
  sign ++ List.replicate (width - sign.length - digits.length) 48 ++ digits

/-- The date of a `struct tm`, as `%Y:%m:%d` gives it. -/
def Tm.date (time : Tm) : Bytes :=
  padded 4 (time.tm_year + 1900) ++ 58 :: padded 2 (time.tm_mon + 1) ++ 58 ::
    padded 2 time.tm_mday

/-- `QCameraParameters::getExifDateTime`. -/
def getExifDateTime (supplies : Supplies) : Option (Bytes × Bytes) :=
  supplies.now.map fun (time, usec) =>
    (time.date ++ 32 :: padded 2 time.tm_hour ++ 58 :: padded 2 time.tm_min ++ 58 ::
      padded 2 time.tm_sec, padded 6 usec)

/-- `QCameraParameters::getRational`. -/
def getRational (rat : Datum) (num denom : Int) : Int × Datum :=
  if 0 > num ∨ 0 > denom then (badValue, rat) else (noError, .rat num.toNat denom.toNat)

/-- `QCameraParameters::parseGPSCoordinate`: what it leaves in the three rationals. -/
def parseGPSCoordinate (numbers : Numbers) (str : Bytes) : List Datum :=
  let (degrees, minutes, seconds) := numbers.coordinate str
  [(getRational .unset degrees 1).2, (getRational .unset minutes 1).2,
    (getRational .unset seconds 10000).2]

/-- `QCameraParameters::getExifIsoSpeed`. -/
def getExifIsoSpeed (supplies : Supplies) : Int :=
  (lookupAttr isoModesMap supplies.isoMode).getD 0

/-- `QCameraParameters::useJpegExifRotation`. -/
def useJpegExifRotation (supplies : Supplies) : Bool :=
  supplies.exifRotation == "on"

/-- `QCameraParameters::getJpegExifRotation`. -/
def getJpegExifRotation (supplies : Supplies) : Int :=
  if useJpegExifRotation supplies then
    if supplies.mRotation < 0 then 0 else supplies.mRotation
  else
    0

/-! ## The statements of `getExifData` -/

/-- Storing into an array unit by unit. -/
def stores (size count : Nat) : List Statement :=
  (List.range count).map fun index => .touch ⟨size, index, index + 1⟩

/-- An entry of a string that ends in a NUL, in a buffer of the given size. -/
def asciiEntry (tagid : Tag) (size : Nat) (text : Bytes) : Statement :=
  .add ⟨tagid, .ascii, uint32 (text.length + 1), size, units (text ++ [0])⟩

/-- An entry of a single value. -/
def singleEntry (tagid : Tag) (type : TagType) (datum : Datum) : Statement :=
  .add ⟨tagid, type, 1, 1, [datum]⟩

/-- An entry of three rationals. -/
def rationalsEntry (tagid : Tag) (data : List Datum) : Statement :=
  .add ⟨tagid, .rational, 3, 3, data⟩

/-- The entries of `getExifDateTime`. -/
def dateTimeEntries (supplies : Supplies) : List Statement :=
  match getExifDateTime supplies with
  | none => []
  | some (dateTime, subSecTime) =>
    [asciiEntry .dateTime (dateTime.length + 1) dateTime,
      asciiEntry .exifDateTimeOriginal (dateTime.length + 1) dateTime,
      asciiEntry .exifDateTimeDigitized (dateTime.length + 1) dateTime,
      asciiEntry .subsecTime (subSecTime.length + 1) subSecTime,
      asciiEntry .subsecTimeOriginal (subSecTime.length + 1) subSecTime,
      asciiEntry .subsecTimeDigitized (subSecTime.length + 1) subSecTime]

/-- The entry of `getExifFocalLength`. -/
def focalLengthEntries (supplies : Supplies) : List Statement :=
  match getRational .unset supplies.focalLengthValue 1000 with
  | (0, focalLength) => [singleEntry .focalLength .rational focalLength]
  | _ => []

/-- The entry of `getExifIsoSpeed`. -/
def isoSpeedEntries (supplies : Supplies) : List Statement :=
  if supplies.yuvSensor then
    []
  else
    [singleEntry .isoSpeedRating .short (.int (getExifIsoSpeed supplies))]

/-- The size of `gpsProcessingMethod`. -/
def methodSize : Nat :=
  exifAsciiPrefixSize + gpsProcessingMethodSize

/-- The entry of `getExifGpsProcessingMethod`: `strlcpy` may copy all of the string. -/
def gpsProcessingMethodEntries (supplies : Supplies) : List Statement :=
  match supplies.gpsProcessingMethod with
  | none => []
  | some str =>
    let count := uint32 (exifAsciiPrefixSize + str.length)
    let data := (units (exifAsciiPrefix ++ str ++ [0])).set count (.int 0)
    [.touch ⟨methodSize, 0, exifAsciiPrefixSize⟩,
      .touch ⟨methodSize, exifAsciiPrefixSize, exifAsciiPrefixSize + (str.length + 1)⟩,
      .touch ⟨methodSize, count, count + 1⟩,
      .add ⟨.gpsProcessingmethod, .ascii, uint32 (count + 1), methodSize, data⟩]

/-- The entries of a coordinate and of its reference. -/
def coordinateEntries (tagid refTagid : Tag) (below atLeast : UInt8) (numbers : Numbers)
    (param : Option Bytes) : List Statement :=
  match param with
  | none => []
  | some str =>
    stores 3 3 ++ stores 2 2 ++
      [rationalsEntry tagid (parseGPSCoordinate numbers str),
        .add ⟨refTagid, .ascii, 2, 2,
          units [if numbers.negative str then below else atLeast, 0]⟩]

/-- The entries of `getExifLatitude`. -/
def latitudeEntries (supplies : Supplies) : List Statement :=
  coordinateEntries .gpsLatitude .gpsLatitudeRef 83 78 supplies.numbers supplies.gpsLatitude

/-- The entries of `getExifLongitude`. -/
def longitudeEntries (supplies : Supplies) : List Statement :=
  coordinateEntries .gpsLongitude .gpsLongitudeRef 87 69 supplies.numbers supplies.gpsLongitude

/-- The entries of `getExifAltitude`. -/
def altitudeEntries (supplies : Supplies) : List Statement :=
  match supplies.gpsAltitude with
  | none => []
  | some str =>
    let (below, value) := supplies.numbers.altitude str
    match getRational .unset value 1000 with
    | (0, altitude) =>
      [singleEntry .gpsAltitude .rational altitude,
        singleEntry .gpsAltitudeRef .byte (.int (if below then 1 else 0))]
    | _ => []

/-- The entries of `getExifGpsDateTimeStamp`; the date stamp is read for its `strlen`. -/
def gpsDateTimeStampEntries (supplies : Supplies) : List Statement :=
  match supplies.gpsTimestamp with
  | none => []
  | some str =>
    match supplies.gmtime (Strtol.strtol supplies.long str).1 with
    | none => []
    | some time =>
      .touch ⟨20, 0, time.date.length + 1⟩ :: stores 3 3 ++
        [.touch ⟨20, 0, time.date.length + 1⟩, asciiEntry .gpsDatestamp 20 time.date,
          rationalsEntry .gpsTimestamp [(getRational .unset time.tm_hour 1).2,
            (getRational .unset time.tm_min 1).2, (getRational .unset time.tm_sec 1).2]]

/-- The entry of a property, unless it is empty. -/
def propertyEntries (tagid : Tag) (property : Property) : List Statement :=
  .touch ⟨propertyValueMax, 0, property.val.length + 1⟩ ::
    if 0 < property.val.length then
      [.touch ⟨propertyValueMax, 0, property.val.length + 1⟩,
        asciiEntry tagid propertyValueMax property.val]
    else
      []

/-- The entries of the rotation. -/
def orientationEntries (supplies : Supplies) : List Statement :=
  if useJpegExifRotation supplies then
    let rotation := getJpegExifRotation supplies
    let orientation : Int :=
      if rotation = 90 then 6 else if rotation = 180 then 3 else if rotation = 270 then 8 else 1
    [singleEntry .orientation .short (.int orientation),
      singleEntry .tnOrientation .short (.int orientation)]
  else
    []

/-- All statements of `getExifData`. -/
def statements (supplies : Supplies) : List Statement :=
  dateTimeEntries supplies ++ focalLengthEntries supplies ++ isoSpeedEntries supplies ++
    gpsProcessingMethodEntries supplies ++ latitudeEntries supplies ++
    longitudeEntries supplies ++ altitudeEntries supplies ++ gpsDateTimeStampEntries supplies ++
    propertyEntries .make supplies.manufacturer ++ propertyEntries .model supplies.productModel ++
    propertyEntries .software supplies.description ++ orientationEntries supplies

/-- `QCamera2HardwareInterface::getExifData`. -/
def getExifData (supplies : Supplies) : Option Assembly :=
  if supplies.newExif then
    some ((statements supplies).foldl (execute supplies.malloc) ⟨.new, [], 0, []⟩)
  else
    none

/-! ## What is to hold -/

/-- The calls of `addEntry` among some statements. -/
def calls : List Statement → List Call
  | [] => []
  | .touch _ :: rest => calls rest
  | .add call :: rest => call :: calls rest

/-- The calls of `getExifData` that find room in the table. -/
def accepted (supplies : Supplies) : List Call :=
  (calls (statements supplies)).take maxExifTableEntries

/-- How often `addEntry` allocates. -/
def allocations (accepted : List Call) : Nat :=
  accepted.countP fun call => isPointer call.type call.count

/-- What an entry has for its data. -/
def Entry.contents (entry : Entry) (blocks : List (List Datum)) : Option (List Datum) :=
  match entry.data with
  | .null => none
  | .value datum => some [datum]
  | .block id => blocks[id]?

/-- An entry that is made by a call. -/
def Entry.IsOf (entry : Entry) (call : Call) : Prop :=
  entry.tag_id = call.tagid ∧ entry.type = call.type ∧ entry.count = call.count

/-- An entry whose data is a copy of exactly `count` units of the data of a call. -/
def Copied (blocks : List (List Datum)) (entry : Entry) (call : Call) : Prop :=
  entry.IsOf call ∧ (call.data.take call.count).length = call.count ∧
    entry.contents blocks = some (call.data.take call.count)

/-- What is to hold of the object that `getExifData` returns. -/
structure Sound (supplies : Supplies) (state : Assembly) : Prop where
  inside : ∀ access ∈ state.accesses, access.Inside
  bounded : state.exif.m_nNumEntries ≤ maxExifTableEntries
  copied : List.Forall₂ (Copied state.blocks) state.exif.m_Entries (accepted supplies)
  freed : state.exif.delete.Perm ((List.range state.blocks.length).map .block)

/-- The object that `getExifData` returns, if any, is as it is to be. -/
def ExifSound (supplies : Supplies) : Prop :=
  ∀ state, getExifData supplies = some state → Sound supplies state

/-- A GPS processing method that fits into its buffer with the NUL. -/
def MethodFits (supplies : Supplies) : Prop :=
  ∀ str ∈ supplies.gpsProcessingMethod, str.length < gpsProcessingMethodSize

/-! ## The statements are well formed -/

/-- A call whose buffer is filled up to `count`, which is one for a value in the entry. -/
def Call.Filled (call : Call) : Prop :=
  call.count ≤ call.data.length ∧ (isPointer call.type call.count = false → call.count = 1)

/-- A statement that stays inside the local buffers. -/
def Statement.Inside : Statement → Prop
  | .touch access => access.Inside
  | .add call => call.count ≤ call.size

theorem uint32_le {number : Int} (nonneg : 0 ≤ number) : (uint32 number : Int) ≤ number := by
  unfold uint32
  omega

@[simp] theorem length_units (bytes : Bytes) : (units bytes).length = bytes.length :=
  List.length_map _

/-- A statement that is no unfilled call. -/
def Statement.Filled : Statement → Prop
  | .touch _ => True
  | .add call => call.Filled

variable {size : Nat} {text : Bytes} {supplies : Supplies} {blocks : List (List Datum)}
  {entry : Entry} {entries : List Entry}

section Filled

theorem asciiEntry_filled (tagid : Tag) (size : Nat) (text : Bytes) :
    (asciiEntry tagid size text).Filled := by
  refine ⟨?_, fun inline => by cases inline⟩
  have count := @uint32_le (text.length + 1) (by omega)
  simp only [length_units, List.length_append, List.length_singleton]
  omega

theorem asciiEntry_inside (fits : text.length < size) (tagid : Tag) :
    (asciiEntry tagid size text).Inside := by
  have count := @uint32_le (text.length + 1) (by omega)
  change uint32 (text.length + 1) ≤ size
  omega

theorem length_padded_le {width : Nat} (digits : Nat) {value : Int} (positive : 0 < digits)
    (bound : value.natAbs < 10 ^ digits) :
    (padded width value).length ≤ Max.max width (digits + 1) := by
  have written := Strtol.length_decimalNat_le positive bound
  have sign : (if value < 0 then [45] else [] : Bytes).length ≤ 1 := by
    split <;> simp
  simp only [padded, List.length_append, List.length_replicate]
  omega

/-- A date with its NUL fits into the date stamp. -/
theorem length_date_lt (time : Tm) : time.date.length < 20 := by
  have year : (padded 4 (time.tm_year + 1900)).length ≤ 11 :=
    length_padded_le 10 (by decide) (by have := time.yearRange; omega)
  have month : (padded 2 ((time.tm_mon : Nat) + 1 : Int)).length ≤ 3 :=
    length_padded_le 2 (by decide) (by have := time.tm_mon.isLt; omega)
  have day : (padded 2 ((time.tm_mday : Nat) : Int)).length ≤ 3 :=
    length_padded_le 2 (by decide) (by have := time.tm_mday.isLt; omega)
  simp only [Tm.date, List.length_append, List.length_cons]
  omega

/-- Statements that are filled and stay inside. -/
def Proper (statements : List Statement) : Prop :=
  ∀ statement ∈ statements, statement.Filled ∧ statement.Inside

theorem proper_nil : Proper [] := by
  simp [Proper]

theorem proper_cons {statement : Statement} {rest : List Statement} :
    Proper (statement :: rest) ↔ (statement.Filled ∧ statement.Inside) ∧ Proper rest := by
  simp [Proper]

theorem proper_append {first second : List Statement} :
    Proper (first ++ second) ↔ Proper first ∧ Proper second :=
  List.forall_mem_append

theorem asciiEntry_proper (fits : text.length < size) (tagid : Tag) :
    Proper [asciiEntry tagid size text] :=
  proper_cons.mpr ⟨⟨asciiEntry_filled .., asciiEntry_inside fits tagid⟩, proper_nil⟩

theorem singleEntry_proper (tagid : Tag) (type : TagType) (datum : Datum) :
    Proper [singleEntry tagid type datum] :=
  proper_cons.mpr ⟨⟨⟨Nat.le_refl _, fun _ => rfl⟩, Nat.le_refl _⟩, proper_nil⟩

theorem rationalsEntry_proper (tagid : Tag) {data : List Datum} (three : data.length = 3) :
    Proper [rationalsEntry tagid data] :=
  proper_cons.mpr
    ⟨⟨⟨Nat.le_of_eq three.symm, fun inline => by cases inline⟩, Nat.le_refl 3⟩, proper_nil⟩

theorem touch_proper {start stop : Nat} (inside : stop ≤ size) :
    Proper [.touch ⟨size, start, stop⟩] :=
  proper_cons.mpr ⟨⟨trivial, inside⟩, proper_nil⟩

theorem stores_proper (size : Nat) : Proper (stores size size) := by
  intro statement member
  obtain ⟨index, inRange, rfl⟩ := List.mem_map.mp member
  exact ⟨trivial, List.mem_range.mp inRange⟩

theorem dateTimeEntries_proper (supplies : Supplies) : Proper (dateTimeEntries supplies) := by
  unfold dateTimeEntries
  split
  · exact proper_nil
  · have entry := fun tagid (text : Bytes) =>
      asciiEntry_proper (Nat.lt_succ_self text.length) tagid
    simp only [proper_cons, proper_nil, and_true] at entry ⊢
    simp only [entry, and_self]

theorem focalLengthEntries_proper (supplies : Supplies) :
    Proper (focalLengthEntries supplies) := by
  unfold focalLengthEntries
  split
  · exact singleEntry_proper _ _ _
  · exact proper_nil

theorem isoSpeedEntries_proper (supplies : Supplies) : Proper (isoSpeedEntries supplies) := by
  unfold isoSpeedEntries
  split
  · exact proper_nil
  · exact singleEntry_proper _ _ _

theorem coordinateEntries_proper (tagid refTagid : Tag) (below atLeast : UInt8)
    (numbers : Numbers) (param : Option Bytes) :
    Proper (coordinateEntries tagid refTagid below atLeast numbers param) := by
  unfold coordinateEntries
  split
  · exact proper_nil
  · refine proper_append.mpr ⟨proper_append.mpr ⟨stores_proper 3, stores_proper 2⟩, ?_⟩
    refine proper_cons.mpr ⟨(proper_cons.mp (rationalsEntry_proper tagid rfl)).1, ?_⟩
    exact proper_cons.mpr
      ⟨⟨⟨Nat.le_refl _, fun inline => by cases inline⟩, Nat.le_refl _⟩, proper_nil⟩

theorem altitudeEntries_proper (supplies : Supplies) : Proper (altitudeEntries supplies) := by
  unfold altitudeEntries
  split
  · exact proper_nil
  · dsimp only
    split
    · exact proper_append.mpr ⟨singleEntry_proper _ _ _, singleEntry_proper _ _ _⟩
    · exact proper_nil

theorem gpsDateTimeStampEntries_proper (supplies : Supplies) :
    Proper (gpsDateTimeStampEntries supplies) := by
  unfold gpsDateTimeStampEntries
  split
  · exact proper_nil
  · split
    · exact proper_nil
    · next time _ =>
      have fits := length_date_lt time
      refine proper_append.mpr ⟨?_, ?_⟩
      · exact proper_append.mpr ⟨touch_proper fits, stores_proper 3⟩
      · exact proper_append.mpr ⟨touch_proper fits,
          proper_append.mpr ⟨asciiEntry_proper fits _, rationalsEntry_proper _ rfl⟩⟩

theorem propertyEntries_proper (tagid : Tag) (property : Property) :
    Proper (propertyEntries tagid property) := by
  have fits := property.property
  refine proper_cons.mpr ⟨⟨trivial, fits⟩, ?_⟩
  split
  · exact proper_append.mpr ⟨touch_proper fits, asciiEntry_proper fits _⟩
  · exact proper_nil

theorem orientationEntries_proper (supplies : Supplies) :
    Proper (orientationEntries supplies) := by
  unfold orientationEntries
  split
  · exact proper_append.mpr ⟨singleEntry_proper _ _ _, singleEntry_proper _ _ _⟩
  · exact proper_nil

theorem gpsProcessingMethodEntries_filled (supplies : Supplies) :
    ∀ statement ∈ gpsProcessingMethodEntries supplies, statement.Filled := by
  unfold gpsProcessingMethodEntries
  split
  · exact fun _ member => absurd member List.not_mem_nil
  · next str _ =>
    refine List.forall_mem_cons.mpr ⟨trivial, List.forall_mem_cons.mpr ⟨trivial,
      List.forall_mem_cons.mpr ⟨trivial, List.forall_mem_singleton.mpr ⟨?_, ?_⟩⟩⟩⟩
    rotate_left
    · exact fun inline => by cases inline
    have whole := @uint32_le (uint32 (exifAsciiPrefixSize + str.length) + 1) (by omega)
    have start := @uint32_le (exifAsciiPrefixSize + str.length) (by omega)
    simp only [List.length_set, length_units, List.length_append]
    simp only [exifAsciiPrefix, exifAsciiPrefixSize, List.length_cons, List.length_nil] at *
    omega

/-- The copy of a processing method stays inside only when the method fits. -/
theorem methodFits_of_inside
    (inside : ∀ access, .touch access ∈ gpsProcessingMethodEntries supplies → access.Inside) :
    MethodFits supplies := by
  intro str isSome
  have isMethod : supplies.gpsProcessingMethod = some str := isSome
  have copied := inside ⟨methodSize, exifAsciiPrefixSize, exifAsciiPrefixSize + (str.length + 1)⟩
  simp only [gpsProcessingMethodEntries, isMethod] at copied
  have stays := copied (.tail _ (.head _))
  simp only [Access.Inside, methodSize] at stays
  omega

theorem gpsProcessingMethodEntries_proper (fits : MethodFits supplies) :
    Proper (gpsProcessingMethodEntries supplies) := by
  refine fun statement member => ⟨gpsProcessingMethodEntries_filled supplies _ member, ?_⟩
  revert statement
  unfold gpsProcessingMethodEntries
  split
  · exact fun _ member => absurd member List.not_mem_nil
  · next str isSome =>
    have short := fits str isSome
    have whole := @uint32_le (uint32 (exifAsciiPrefixSize + str.length) + 1) (by omega)
    have start := @uint32_le (exifAsciiPrefixSize + str.length) (by omega)
    have size : methodSize = exifAsciiPrefixSize + gpsProcessingMethodSize := rfl
    refine List.forall_mem_cons.mpr ⟨?_, List.forall_mem_cons.mpr ⟨?_,
      List.forall_mem_cons.mpr ⟨?_, List.forall_mem_singleton.mpr ?_⟩⟩⟩
    all_goals
      simp only [Statement.Inside, Access.Inside]
      omega

/-- Everything but the processing method is proper whatever is supplied. -/
theorem statements_split (supplies : Supplies) : ∃ before later, Proper before ∧ Proper later ∧
    statements supplies = before ++ gpsProcessingMethodEntries supplies ++ later := by
  have latitude : Proper (latitudeEntries supplies) := coordinateEntries_proper _ _ _ _ _ _
  have longitude : Proper (longitudeEntries supplies) := coordinateEntries_proper _ _ _ _ _ _
  refine ⟨dateTimeEntries supplies ++ focalLengthEntries supplies ++ isoSpeedEntries supplies,
    latitudeEntries supplies ++ longitudeEntries supplies ++ altitudeEntries supplies ++
      gpsDateTimeStampEntries supplies ++ propertyEntries .make supplies.manufacturer ++
      propertyEntries .model supplies.productModel ++
      propertyEntries .software supplies.description ++ orientationEntries supplies, ?_, ?_, ?_⟩
  · simp only [proper_append, dateTimeEntries_proper, focalLengthEntries_proper,
      isoSpeedEntries_proper, and_self]
  · simp only [proper_append, latitude, longitude, altitudeEntries_proper,
      gpsDateTimeStampEntries_proper, propertyEntries_proper, orientationEntries_proper, and_self]
  · simp only [statements, List.append_assoc]

theorem statements_proper (fits : MethodFits supplies) :
    Proper (statements supplies) := by
  obtain ⟨before, later, first, last, whole⟩ := statements_split supplies
  rw [whole]
  exact proper_append.mpr
    ⟨proper_append.mpr ⟨first, gpsProcessingMethodEntries_proper fits⟩, last⟩

theorem statements_filled (supplies : Supplies) :
    ∀ statement ∈ statements supplies, statement.Filled := by
  obtain ⟨before, later, first, last, whole⟩ := statements_split supplies
  rw [whole]
  refine List.forall_mem_append.mpr ⟨List.forall_mem_append.mpr
    ⟨fun _ member => (first _ member).1, gpsProcessingMethodEntries_filled supplies⟩, ?_⟩
  exact fun _ member => (last _ member).1

end Filled

/-! ## The table under construction -/

/-- An entry without its copy: the allocation failed. -/
def Failed (entry : Entry) (call : Call) : Prop :=
  entry.IsOf call ∧ isPointer entry.type entry.count = true ∧ entry.data = .null

/-- The table after some calls that found room. -/
structure Assembled (malloc : Nat → Bool) (state : Assembly) (done : List Call) : Prop where
  entries : List.Forall₂ (fun entry call => Copied state.blocks entry call ∨ Failed entry call)
    state.exif.m_Entries done
  filled : (∀ entry ∈ state.exif.m_Entries, entry.data ≠ .null) ↔
    ∀ call < state.mallocs, malloc call = true
  freed : state.exif.delete = (List.range state.blocks.length).map .block
  mallocs : state.mallocs = allocations done

section Assembly

variable {malloc : Nat → Bool} {state : Assembly} {done : List Call} {call : Call}

theorem assembled_new (malloc : Nat → Bool) : Assembled malloc ⟨.new, [], 0, []⟩ [] where
  entries := .nil
  filled := ⟨fun _ _ none => absurd none (Nat.not_lt_zero _),
    fun _ _ member => absurd member List.not_mem_nil⟩
  freed := rfl
  mallocs := rfl

theorem copied_append (copied : Copied blocks entry call) (block : List Datum) :
    Copied (blocks ++ [block]) entry call := by
  obtain ⟨isOf, length, contents⟩ := copied
  refine ⟨isOf, length, ?_⟩
  revert contents
  unfold Entry.contents
  split
  · exact id
  · exact id
  · next id _ =>
    intro isBlock
    obtain ⟨inBlocks, -⟩ := List.getElem?_eq_some_iff.mp isBlock
    rw [List.getElem?_append_left inBlocks, isBlock]

/-- The entries that a table has, with those of one more block. -/
theorem entries_append
    (entriesOf : List.Forall₂ (fun entry call => Copied blocks entry call ∨ Failed entry call)
      entries done) (block : List Datum) :
    List.Forall₂ (fun entry call => Copied (blocks ++ [block]) entry call ∨ Failed entry call)
      entries done :=
  entriesOf.imp fun _ _ made => made.imp (copied_append · block) id

theorem delete_push {exif : QCameraExif}
    (room : exif.m_nNumEntries < maxExifTableEntries) :
    (exif.push entry room).delete = exif.delete ++ entry.freed := by
  simp [QCameraExif.delete, QCameraExif.push]

theorem filled_push :
    (∀ made ∈ entries ++ [entry], made.data ≠ .null) ↔
      (∀ made ∈ entries, made.data ≠ .null) ∧ entry.data ≠ .null := by
  simp [or_imp, forall_and]

theorem allocations_append :
    allocations (done ++ [call]) =
      allocations done + if isPointer call.type call.count then 1 else 0 := by
  simp [allocations, List.countP_append, List.countP_singleton]

/-- The step: a call that finds room adds its entry. -/
theorem assembled_addEntry (assembled : Assembled malloc state done) (filled : call.Filled)
    (room : state.exif.m_nNumEntries < maxExifTableEntries) :
    Assembled malloc (addEntry malloc state call).2 (done ++ [call]) := by
  have taken : (call.data.take call.count).length = call.count :=
    List.length_take_of_le filled.1
  unfold addEntry
  rw [dif_pos room]
  dsimp only
  split
  next pointer =>
    split
    next succeeds =>
      -- a block of its own
      refine ⟨?_, ?_, ?_, ?_⟩
      · refine List.rel_append (entries_append assembled.entries _) (.cons (.inl ?_) .nil)
        exact ⟨⟨rfl, rfl, rfl⟩, taken, List.getElem?_concat_length⟩
      · simp only [QCameraExif.push, filled_push, assembled.filled, Nat.forall_lt_succ_right,
          succeeds]
        simp
      · rw [delete_push, assembled.freed, List.length_append, List.length_singleton,
          List.range_succ, List.map_append]
        simp [Entry.freed, pointer]
      · rw [allocations_append, if_pos pointer, ← assembled.mallocs]
    next fails =>
      refine ⟨?_, ?_, ?_, ?_⟩
      · exact List.rel_append assembled.entries
          (.cons (.inr ⟨⟨rfl, rfl, rfl⟩, pointer, rfl⟩) .nil)
      · simp only [QCameraExif.push, filled_push, Nat.forall_lt_succ_right]
        simp [fails]
      · rw [delete_push, assembled.freed]
        simp [Entry.freed]
      · rw [allocations_append, if_pos pointer, ← assembled.mallocs]
  next inline =>
    -- the value itself
    have single := filled.2 (Bool.eq_false_iff.mpr inline)
    have first : call.data.take call.count = [call.data.headD .unset] := by
      rw [single] at taken ⊢
      cases whole : call.data with
      | nil => simp [whole] at taken
      | cons datum rest => rfl
    refine ⟨?_, ?_, ?_, ?_⟩
    · refine List.rel_append assembled.entries (.cons (.inl ?_) .nil)
      exact ⟨⟨rfl, rfl, rfl⟩, taken, congrArg some first.symm⟩
    · simp only [QCameraExif.push, filled_push, assembled.filled]
      simp
    · rw [delete_push, assembled.freed]
      simp [Entry.freed, inline]
    · rw [allocations_append, if_neg inline, ← assembled.mallocs, Nat.add_zero]

theorem length_entries (assembled : Assembled malloc state done) :
    state.exif.m_nNumEntries = done.length :=
  assembled.entries.length_eq

/-- The run: the table has the first calls, as far as it has room. -/
theorem assembled_run {statements : List Statement}
    (filled : ∀ statement ∈ statements, statement.Filled)
    (assembled : Assembled malloc state (done.take maxExifTableEntries)) :
    Assembled malloc (statements.foldl (execute malloc) state)
      ((done ++ calls statements).take maxExifTableEntries) := by
  induction statements generalizing state done with
  | nil => simpa [calls] using assembled
  | cons statement rest ih =>
    obtain ⟨first, later⟩ := List.forall_mem_cons.mp filled
    cases statement with
    | touch access =>
      exact ih later ⟨assembled.entries, assembled.filled, assembled.freed, assembled.mallocs⟩
    | add call =>
      have next : Assembled malloc (addEntry malloc state call).2
          ((done ++ [call]).take maxExifTableEntries) := by
        have length := length_entries assembled
        rw [List.length_take] at length
        by_cases room : state.exif.m_nNumEntries < maxExifTableEntries
        · have added := assembled_addEntry assembled first room
          rw [List.take_of_length_le (by omega)] at added
          rwa [List.take_of_length_le (by rw [List.length_append, List.length_singleton]; omega)]
        · have full : addEntry malloc state call = (noMemory, state) := by
            unfold addEntry
            rw [dif_neg room]
          rw [full, List.take_append_of_le_length (by omega)]
          exact assembled
      have run := ih later next
      rwa [List.append_assoc] at run

end Assembly

/-! ## The accesses -/

section Accesses

variable {malloc : Nat → Bool} {state : Assembly} {call : Call} {access : Access}

theorem count_le_blockSize (type : TagType) (count : Nat) : count ≤ blockSize type count := by
  cases type <;> simp [blockSize]

/-- A proper call stays inside the local buffer and inside the block. -/
theorem accesses_addEntry (filled : call.Filled) (fits : call.count ≤ call.size)
    (inside : ∀ access ∈ state.accesses, access.Inside) :
    ∀ access ∈ (addEntry malloc state call).2.accesses, access.Inside := by
  unfold addEntry
  split
  next room =>
    dsimp only
    split
    next pointer =>
      split
      next succeeds =>
        refine List.forall_mem_append.mpr ⟨inside, List.forall_mem_cons.mpr ⟨fits, ?_⟩⟩
        exact List.forall_mem_singleton.mpr (count_le_blockSize call.type call.count)
      next fails => exact inside
    next inline =>
      have single := filled.2 (Bool.eq_false_iff.mpr inline)
      refine List.forall_mem_append.mpr ⟨inside, List.forall_mem_singleton.mpr ?_⟩
      exact single ▸ fits
  next full => exact inside

theorem inside_run {statements : List Statement} (proper : Proper statements)
    (inside : ∀ access ∈ state.accesses, access.Inside) :
    ∀ access ∈ (statements.foldl (execute malloc) state).accesses, access.Inside := by
  induction statements generalizing state with
  | nil => exact inside
  | cons statement rest ih =>
    obtain ⟨⟨filled, fits⟩, later⟩ := proper_cons.mp proper
    refine ih later ?_
    cases statement with
    | touch access => exact List.forall_mem_append.mpr ⟨inside, List.forall_mem_singleton.mpr fits⟩
    | add call => exact accesses_addEntry filled fits inside

theorem mem_accesses_execute (statement : Statement) (member : access ∈ state.accesses) :
    access ∈ (execute malloc state statement).accesses := by
  cases statement with
  | touch touched => exact List.mem_append_left _ member
  | add call =>
    simp only [execute, addEntry]
    split
    next room =>
      split
      next pointer =>
        split
        next succeeds => exact List.mem_append_left _ member
        next fails => exact member
      next inline => exact List.mem_append_left _ member
    next full => exact member

theorem mem_accesses_run (statements : List Statement) (member : access ∈ state.accesses) :
    access ∈ (statements.foldl (execute malloc) state).accesses := by
  induction statements generalizing state with
  | nil => exact member
  | cons statement rest ih => exact ih (mem_accesses_execute statement member)

/-- Every access of a local buffer is recorded. -/
theorem touched_run {statements : List Statement} (touched : .touch access ∈ statements) :
    access ∈ (statements.foldl (execute malloc) state).accesses := by
  induction statements generalizing state with
  | nil => cases touched
  | cons statement rest ih =>
    rcases List.mem_cons.mp touched with rfl | later
    · exact mem_accesses_run rest (List.mem_append_right _ (List.mem_singleton.mpr rfl))
    · exact ih later

end Accesses

/-! ## When the object is as it is to be -/

/-- The object of `getExifData` before it is returned. -/
def assemble (supplies : Supplies) : Assembly :=
  (statements supplies).foldl (execute supplies.malloc) ⟨.new, [], 0, []⟩

theorem assembled_assemble (supplies : Supplies) :
    Assembled supplies.malloc (assemble supplies) (accepted supplies) := by
  have new : Assembled supplies.malloc ⟨.new, [], 0, []⟩ (([] : List Call).take
    maxExifTableEntries) := assembled_new supplies.malloc
  have run := assembled_run (statements_filled supplies) new
  rwa [List.nil_append] at run

/-- A copy is no null pointer. -/
theorem ne_null_of_copied {call : Call} (copied : Copied blocks entry call) :
    entry.data ≠ .null := by
  intro null
  simp [Copied, Entry.contents, null] at copied

/-- The entries are copies exactly when no allocation failed. -/
theorem copied_iff {malloc : Nat → Bool} {state : Assembly} {done : List Call}
    (assembled : Assembled malloc state done) :
    List.Forall₂ (Copied state.blocks) state.exif.m_Entries done ↔
      ∀ call < allocations done, malloc call = true := by
  rw [← assembled.mallocs, ← assembled.filled]
  have entries := assembled.entries
  clear assembled
  generalize state.exif.m_Entries = made at entries ⊢
  induction entries with
  | nil => simp
  | cons first rest ih =>
    rw [List.forall₂_cons, List.forall_mem_cons]
    refine and_congr ?_ ih
    refine ⟨ne_null_of_copied, fun some => ?_⟩
    exact first.resolve_right fun failed => some failed.2.2

theorem sound_assemble_iff (supplies : Supplies) :
    Sound supplies (assemble supplies) ↔ MethodFits supplies ∧
      ∀ call < allocations (accepted supplies), supplies.malloc call = true := by
  have assembled := assembled_assemble supplies
  constructor
  · intro sound
    refine ⟨methodFits_of_inside fun access touched => ?_, (copied_iff assembled).mp sound.copied⟩
    refine sound.inside access (touched_run ?_)
    simp [statements, touched]
  · rintro ⟨fits, succeeds⟩
    exact {
      inside := inside_run (statements_proper fits) fun _ member => absurd member List.not_mem_nil
      bounded := (assemble supplies).exif.bounded
      copied := (copied_iff assembled).mpr succeeds
      freed := .of_eq assembled.freed
    }

/--
The entries are built inside the local buffers, counted, copied and freed as they are to be
exactly when the GPS processing method fits into its buffer and every allocation for an entry
that finds room succeeds.
-/
theorem exifSound_iff (supplies : Supplies) :
    ExifSound supplies ↔ (supplies.newExif = true → MethodFits supplies ∧
      ∀ call < allocations (accepted supplies), supplies.malloc call = true) := by
  rw [← sound_assemble_iff]
  unfold ExifSound getExifData
  cases supplies.newExif with
  | false => simp
  | true =>
    constructor
    · exact fun sound _ => sound _ rfl
    · rintro sound _ ⟨⟩
      exact sound rfl

/-- Supplies with nothing but a processing method, for which every allocation succeeds. -/
def methodOnly (str : Bytes) : Supplies where
  newExif := true
  malloc := fun _ => true
  long := .ilp32
  now := none
  gmtime := fun _ => none
  numbers := ⟨fun _ => (0, 0, 0), fun _ => false, fun _ => (false, 0)⟩
  focalLengthValue := 4000
  isoMode := none
  yuvSensor := false
  gpsProcessingMethod := some str
  gpsLatitude := none
  gpsLongitude := none
  gpsAltitude := none
  gpsTimestamp := none
  manufacturer := ⟨[], by decide⟩
  productModel := ⟨[], by decide⟩
  description := ⟨[], by decide⟩
  exifRotation := "off"
  mRotation := 0

/-- A processing method of 33 bytes is copied behind the end of its buffer. -/
theorem exifSound_overflow : ¬ ∀ supplies, ExifSound supplies := by
  intro sound
  have copied := (sound (methodOnly (List.replicate 33 65)) _ rfl).inside ⟨41, 8, 42⟩
  exact absurd (copied (by decide)) (by decide)

end AnglerHal.ExifEntries
