import AnglerHal.Rescale

namespace AnglerHal.CropMapper

open Rescale

/-!
# Crop rectangles between the sensor and the active array

`QCamera3CropRegionMapper` carries rectangles and points from the space of the
sensor output to that of the active array and back.  The rectangles are signed
numbers, whose arithmetic has no result when it overflows; the points are
unsigned and wrap.

A mapped rectangle is bounded edge by edge.  A left edge beyond the space, or a
negative width, is not looked at.
-/

/-- A signed 32-bit result; `none` when it overflows. -/
def checkedInt32 (value : Int) : Option Int :=
  if -2147483648 ≤ value ∧ value ≤ 2147483647 then some value else none

/-- `QCamera3CropRegionMapper`. -/
structure QCamera3CropRegionMapper where
  mSensorW : Int
  mSensorH : Int
  mActiveArrayW : Int
  mActiveArrayH : Int
  deriving DecidableEq

/-- `crop_left`, `crop_top`, `crop_width` and `crop_height`. -/
structure Rect where
  left : Int
  top : Int
  width : Int
  height : Int
  deriving DecidableEq

/-- A `uint32_t` stored in an `int32_t`. -/
def storeInt32 (value : UInt32) : Int :=
  if value.toNat < 2147483648 then value.toNat else value.toNat - 4294967296

namespace QCamera3CropRegionMapper

/-- The constructor. -/
def new : QCamera3CropRegionMapper where
  mSensorW := 0
  mSensorH := 0
  mActiveArrayW := 0
  mActiveArrayH := 0

/-- `QCamera3CropRegionMapper::update`. -/
def update (mapper : QCamera3CropRegionMapper)
    (activeArrayW activeArrayH sensorW sensorH : UInt32) : QCamera3CropRegionMapper :=
  if activeArrayW = 0 ∨ activeArrayH = 0 ∨ sensorW = 0 ∨ sensorH = 0 then
    mapper
  else if activeArrayW < sensorW ∨ activeArrayH < sensorH then
    mapper
  else
    { mSensorW := storeInt32 sensorW
      mSensorH := storeInt32 sensorH
      mActiveArrayW := storeInt32 activeArrayW
      mActiveArrayH := storeInt32 activeArrayH }

/-- The sizes have not been set. -/
def Uninitialized (mapper : QCamera3CropRegionMapper) : Prop :=
  mapper.mSensorW = 0 ∨ mapper.mSensorH = 0 ∨
    mapper.mActiveArrayW = 0 ∨ mapper.mActiveArrayH = 0

instance (mapper : QCamera3CropRegionMapper) : Decidable mapper.Uninitialized :=
  inferInstanceAs (Decidable (_ ∨ _))

/-- `value * target / source`. -/
def scale (target source value : Int) : Option Int := do
  let product ← checkedInt32 (value * target)
  checkedInt32 (product.tdiv source)

/-- The four assignments that carry a rectangle to another space. -/
def scaleRect (targetW targetH sourceW sourceH : Int) (crop : Rect) : Option Rect := do
  let left ← scale targetW sourceW crop.left
  let top ← scale targetH sourceH crop.top
  let width ← scale targetW sourceW crop.width
  let height ← scale targetH sourceH crop.height
  return { left := left, top := top, width := width, height := height }

/-- The check of the right or lower edge in `boundToSize`. -/
def boundExtent (bound start extent : Int) : Option Int := do
  let edge ← checkedInt32 (start + extent)
  if edge > bound then checkedInt32 (bound - start) else some extent

/-- `QCamera3CropRegionMapper::boundToSize`. -/
def boundToSize (boundW boundH : Int) (crop : Rect) : Option Rect := do
  let left := if crop.left < 0 then 0 else crop.left
  let top := if crop.top < 0 then 0 else crop.top
  let width ← boundExtent boundW left crop.width
  let height ← boundExtent boundH top crop.height
  return { left := left, top := top, width := width, height := height }

/-- `QCamera3CropRegionMapper::toActiveArray` of a rectangle. -/
def toActiveArray (mapper : QCamera3CropRegionMapper) (crop : Rect) : Option Rect :=
  if mapper.Uninitialized then
    some crop
  else do
    let scaled ← scaleRect mapper.mActiveArrayW mapper.mActiveArrayH
      mapper.mSensorW mapper.mSensorH crop
    boundToSize mapper.mActiveArrayW mapper.mActiveArrayH scaled

/-- `QCamera3CropRegionMapper::toSensor` of a rectangle. -/
def toSensor (mapper : QCamera3CropRegionMapper) (crop : Rect) : Option Rect :=
  if mapper.Uninitialized then
    some crop
  else do
    let scaled ← scaleRect mapper.mSensorW mapper.mSensorH
      mapper.mActiveArrayW mapper.mActiveArrayH crop
    boundToSize mapper.mSensorW mapper.mSensorH scaled

end QCamera3CropRegionMapper

open QCamera3CropRegionMapper

/-! ## One axis -/

/-- An edge and an extent, bounded as `boundToSize` does it. -/
def boundAxis (bound start extent : Int) : Int × Int :=
  (max start 0, min extent (bound - max start 0))

/-- An edge and an extent, carried to another space and bounded there. -/
def mapAxis (target source start extent : Int) : Int × Int :=
  boundAxis target (rescale target source start) (rescale target source extent)

variable
  {value result target source targetW targetH sourceW sourceH bound start extent : Int}
  {crop : Rect} {activeArrayW activeArrayH sensorW sensorH : UInt32}

theorem int32_eq_some :
    checkedInt32 value = some result ↔
      (-2147483648 ≤ value ∧ value ≤ 2147483647) ∧ value = result := by
  unfold checkedInt32
  split
  · rename_i fits
    simp [fits]
  · rename_i overflows
    simp [overflows]

theorem scale_eq_some (scaled : scale target source value = some result) :
    result = rescale target source value := by
  simp only [scale, Option.bind_eq_bind, Option.bind_eq_some_iff, int32_eq_some] at scaled
  obtain ⟨product, ⟨-, rfl⟩, -, rfl⟩ := scaled
  rfl

theorem scaleRect_eq_some {result : Rect}
    (scaled : scaleRect targetW targetH sourceW sourceH crop = some result) :
    result =
      { left := rescale targetW sourceW crop.left
        top := rescale targetH sourceH crop.top
        width := rescale targetW sourceW crop.width
        height := rescale targetH sourceH crop.height } := by
  simp only [scaleRect, Option.bind_eq_bind, Option.bind_eq_some_iff, Option.pure_def,
    Option.some.injEq] at scaled
  obtain ⟨left, leftScaled, top, topScaled, width, widthScaled, height, heightScaled, rfl⟩ :=
    scaled
  rw [scale_eq_some leftScaled, scale_eq_some topScaled, scale_eq_some widthScaled,
    scale_eq_some heightScaled]

theorem boundExtent_eq_some (bounded : boundExtent bound start extent = some result) :
    result = min extent (bound - start) := by
  simp only [boundExtent, Option.bind_eq_bind, Option.bind_eq_some_iff] at bounded
  obtain ⟨edge, isEdge, bounded⟩ := bounded
  obtain ⟨-, rfl⟩ := int32_eq_some.mp isEdge
  split at bounded
  · obtain ⟨-, rfl⟩ := int32_eq_some.mp bounded
    omega
  · obtain rfl := Option.some.inj bounded
    omega

theorem boundToSize_eq_some {boundW boundH : Int} {result : Rect}
    (bounded : boundToSize boundW boundH crop = some result) :
    (result.left, result.width) = boundAxis boundW crop.left crop.width ∧
      (result.top, result.height) = boundAxis boundH crop.top crop.height := by
  simp only [boundToSize, Option.bind_eq_bind, Option.bind_eq_some_iff, Option.pure_def,
    Option.some.injEq] at bounded
  obtain ⟨width, widthBounded, height, heightBounded, rfl⟩ := bounded
  have clamped : ∀ edge : Int, (if edge < 0 then 0 else edge) = max edge 0 := by
    intro edge
    omega
  simp only [clamped] at widthBounded heightBounded ⊢
  exact ⟨by rw [boundExtent_eq_some widthBounded]; rfl,
    by rw [boundExtent_eq_some heightBounded]; rfl⟩

/-- A rectangle that is carried without an overflow is carried axis by axis. -/
theorem mapRect_eq_some {result : Rect}
    (mapped : (do
      let scaled ← scaleRect targetW targetH sourceW sourceH crop
      boundToSize targetW targetH scaled) = some result) :
    (result.left, result.width) = mapAxis targetW sourceW crop.left crop.width ∧
      (result.top, result.height) = mapAxis targetH sourceH crop.top crop.height := by
  simp only [Option.bind_eq_bind, Option.bind_eq_some_iff] at mapped
  obtain ⟨scaled, isScaled, bounded⟩ := mapped
  obtain rfl := scaleRect_eq_some isScaled
  exact boundToSize_eq_some bounded

/-! ## Results exist -/

theorem int32_of_fits (low : -2147483648 ≤ value) (high : value ≤ 2147483647) :
    checkedInt32 value = some value :=
  int32_eq_some.mpr ⟨⟨low, high⟩, rfl⟩

/-- A coordinate below 2^15 in absolute value, and a size up to 2^15. -/
theorem scale_of_small (source : Int) (targetPos : 0 < target)
    (targetSmall : target ≤ 32768) (low : -32768 < value) (high : value < 32768) :
    scale target source value = some (rescale target source value) ∧
      -1073709056 ≤ rescale target source value ∧
      rescale target source value ≤ 1073709056 := by
  have productLow : -1073709056 ≤ value * target := by nlinarith
  have productHigh : value * target ≤ 1073709056 := by nlinarith
  have shrinks := Int.natAbs_tdiv_le_natAbs (value * target) source
  have quotientLow : -1073709056 ≤ (value * target).tdiv source := by omega
  have quotientHigh : (value * target).tdiv source ≤ 1073709056 := by omega
  refine ⟨?_, quotientLow, quotientHigh⟩
  simp only [scale, Option.bind_eq_bind, int32_of_fits (by omega : -2147483648 ≤ value * target)
    (by omega), Option.bind_some]
  exact int32_of_fits (by omega) (by omega)

theorem boundExtent_isSome (start : Int) (boundPos : 0 < bound)
    (boundSmall : bound ≤ 32768) (startNonneg : 0 ≤ start) (startSmall : start ≤ 1073709056)
    (low : -1073709056 ≤ extent) (high : extent ≤ 1073709056) :
    ∃ result, boundExtent bound start extent = some result := by
  simp only [boundExtent, Option.bind_eq_bind,
    int32_of_fits (by omega : -2147483648 ≤ start + extent) (by omega), Option.bind_some]
  split
  · exact ⟨_, int32_of_fits (by omega) (by omega)⟩
  · exact ⟨_, rfl⟩

/-- Coordinates of absolute value below 2^15. -/
structure Rect.Small (crop : Rect) : Prop where
  left : -32768 < crop.left ∧ crop.left < 32768
  top : -32768 < crop.top ∧ crop.top < 32768
  width : -32768 < crop.width ∧ crop.width < 32768
  height : -32768 < crop.height ∧ crop.height < 32768

theorem mapRect_isSome (sourceW sourceH : Int) (small : crop.Small)
    (targetWPos : 0 < targetW) (targetWSmall : targetW ≤ 32768)
    (targetHPos : 0 < targetH) (targetHSmall : targetH ≤ 32768) :
    ∃ result, (do
      let scaled ← scaleRect targetW targetH sourceW sourceH crop
      boundToSize targetW targetH scaled) = some result := by
  obtain ⟨left, leftLow, leftHigh⟩ :=
    scale_of_small sourceW targetWPos targetWSmall small.left.1 small.left.2
  obtain ⟨top, topLow, topHigh⟩ :=
    scale_of_small sourceH targetHPos targetHSmall small.top.1 small.top.2
  obtain ⟨width, widthLow, widthHigh⟩ :=
    scale_of_small sourceW targetWPos targetWSmall small.width.1 small.width.2
  obtain ⟨height, heightLow, heightHigh⟩ :=
    scale_of_small sourceH targetHPos targetHSmall small.height.1 small.height.2
  simp only [scaleRect, left, top, width, height, Option.bind_eq_bind, Option.bind_some,
    Option.pure_def, boundToSize]
  obtain ⟨boundedW, isW⟩ := boundExtent_isSome
    (if rescale targetW sourceW crop.left < 0 then 0 else rescale targetW sourceW crop.left)
    targetWPos targetWSmall (by omega) (by omega) widthLow widthHigh
  obtain ⟨boundedH, isH⟩ := boundExtent_isSome
    (if rescale targetH sourceH crop.top < 0 then 0 else rescale targetH sourceH crop.top)
    targetHPos targetHSmall (by omega) (by omega) heightLow heightHigh
  rw [isW, isH]
  exact ⟨_, rfl⟩

/-! ## Legal rectangles -/

/-- An edge and an extent lie in the space. -/
def AxisLegal (space : Int) (axis : Int × Int) : Prop :=
  0 ≤ axis.1 ∧ 0 ≤ axis.2 ∧ axis.1 + axis.2 ≤ space

/-- The rectangle lies in a space of this size. -/
structure Rect.Legal (spaceW spaceH : Int) (crop : Rect) : Prop where
  left : 0 ≤ crop.left
  top : 0 ≤ crop.top
  width : 0 ≤ crop.width
  height : 0 ≤ crop.height
  right : crop.left + crop.width ≤ spaceW
  bottom : crop.top + crop.height ≤ spaceH

/-- A rectangle is legal when both its axes are. -/
theorem Rect.legal_iff (spaceW spaceH : Int) (crop : Rect) :
    crop.Legal spaceW spaceH ↔
      AxisLegal spaceW (crop.left, crop.width) ∧ AxisLegal spaceH (crop.top, crop.height) :=
  ⟨fun legal => ⟨⟨legal.left, legal.width, legal.right⟩, ⟨legal.top, legal.height, legal.bottom⟩⟩,
    fun ⟨⟨left, width, right⟩, ⟨top, height, bottom⟩⟩ => ⟨left, top, width, height, right, bottom⟩⟩

/-- Bounding makes legal what has no negative extent and does not begin beyond the space. -/
theorem boundAxis_legal_iff (boundNonneg : 0 ≤ bound) :
    AxisLegal bound (boundAxis bound start extent) ↔ 0 ≤ extent ∧ start ≤ bound := by
  unfold AxisLegal boundAxis
  omega

/-- Towards the larger space the two conditions are those on the given numbers. -/
theorem mapAxis_legal_iff_of_le (sourcePos : 0 < source) (larger : source ≤ target) :
    AxisLegal target (mapAxis target source start extent) ↔ 0 ≤ extent ∧ start ≤ source := by
  have targetNonneg : 0 ≤ target := by omega
  rw [mapAxis, boundAxis_legal_iff targetNonneg, rescale_nonneg_iff sourcePos]
  have extentIff : -source < extent * target ↔ 0 ≤ extent := by
    constructor
    · intro near
      by_contra negative
      nlinarith
    · intro nonneg
      nlinarith
  have startIff : rescale target source start ≤ target ↔ start ≤ source := by
    constructor
    · intro le
      by_contra beyond
      have far : start * target < (target + 1) * source :=
        (rescale_lt_iff sourcePos targetNonneg (by omega)).mp (by omega)
      nlinarith
    · exact rescale_le targetNonneg sourcePos
  rw [extentIff, startIff]

/-- Towards any space the two conditions are on the products that are divided. -/
theorem mapAxis_legal_iff (sourcePos : 0 < source) (targetPos : 0 < target) :
    AxisLegal target (mapAxis target source start extent) ↔
      -source < extent * target ∧ start * target < (target + 1) * source := by
  rw [mapAxis, boundAxis_legal_iff targetPos.le, rescale_nonneg_iff sourcePos]
  have startIff :
      rescale target source start ≤ target ↔ start * target < (target + 1) * source := by
    rcases le_or_gt 0 start with nonneg | negative
    · rw [← rescale_lt_iff sourcePos targetPos.le nonneg, Int.lt_add_one_iff]
    · refine iff_of_true (rescale_le targetPos.le sourcePos (by omega)) ?_
      nlinarith
  rw [startIff]

/-! ## The mapper after an update -/

/-- Sizes that `update` accepts. -/
structure Accepted (activeArrayW activeArrayH sensorW sensorH : UInt32) : Prop where
  sensorWPos : 0 < sensorW.toNat
  sensorHPos : 0 < sensorH.toNat
  sensorW : sensorW.toNat ≤ activeArrayW.toNat
  sensorH : sensorH.toNat ≤ activeArrayH.toNat

/-- The sizes are those of signed numbers. -/
structure Accepted.Stored (mapper : QCamera3CropRegionMapper)
    (activeArrayW activeArrayH sensorW sensorH : UInt32) : Prop where
  sensorW : mapper.mSensorW = sensorW.toNat
  sensorH : mapper.mSensorH = sensorH.toNat
  activeArrayW : mapper.mActiveArrayW = activeArrayW.toNat
  activeArrayH : mapper.mActiveArrayH = activeArrayH.toNat

theorem update_of_accepted
    (accepted : Accepted activeArrayW activeArrayH sensorW sensorH)
    (mapper : QCamera3CropRegionMapper) :
    mapper.update activeArrayW activeArrayH sensorW sensorH =
      { mSensorW := storeInt32 sensorW
        mSensorH := storeInt32 sensorH
        mActiveArrayW := storeInt32 activeArrayW
        mActiveArrayH := storeInt32 activeArrayH } := by
  obtain ⟨sensorWPos, sensorHPos, sensorW, sensorH⟩ := accepted
  have nonzero : ∀ size : UInt32, 0 < size.toNat → size ≠ 0 := by
    rintro size pos rfl
    exact Nat.lt_irrefl 0 pos
  unfold update
  rw [if_neg, if_neg]
  · simp only [UInt32.lt_iff_toNat_lt]
    omega
  · rintro (zero | zero | zero | zero)
    · exact nonzero _ (by omega) zero
    · exact nonzero _ (by omega) zero
    · exact nonzero _ sensorWPos zero
    · exact nonzero _ sensorHPos zero

/-- A size that is not 0 is not stored as 0. -/
theorem storeInt32_ne_zero {size : UInt32} (pos : 0 < size.toNat) : storeInt32 size ≠ 0 := by
  have bound : size.toNat < 4294967296 := size.toNat_lt
  unfold storeInt32
  split <;> omega

theorem Accepted.initialized
    (accepted : Accepted activeArrayW activeArrayH sensorW sensorH)
    (mapper : QCamera3CropRegionMapper) :
    ¬ (mapper.update activeArrayW activeArrayH sensorW sensorH).Uninitialized := by
  obtain ⟨sensorWPos, sensorHPos, sensorWLe, sensorHLe⟩ := id accepted
  rw [update_of_accepted accepted]
  rintro (zero | zero | zero | zero)
  · exact storeInt32_ne_zero sensorWPos zero
  · exact storeInt32_ne_zero sensorHPos zero
  · exact storeInt32_ne_zero (by omega) zero
  · exact storeInt32_ne_zero (by omega) zero

theorem Accepted.stored (accepted : Accepted activeArrayW activeArrayH sensorW sensorH)
    (smallW : activeArrayW.toNat < 2147483648)
    (smallH : activeArrayH.toNat < 2147483648) (mapper : QCamera3CropRegionMapper) :
    Stored (mapper.update activeArrayW activeArrayH sensorW sensorH)
      activeArrayW activeArrayH sensorW sensorH := by
  rw [update_of_accepted accepted]
  have sensorW := accepted.sensorW
  have sensorH := accepted.sensorH
  constructor
  · exact if_pos (by omega)
  · exact if_pos (by omega)
  · exact if_pos smallW
  · exact if_pos smallH

/-- The maps of an updated mapper. -/
theorem Accepted.maps (accepted : Accepted activeArrayW activeArrayH sensorW sensorH)
    (smallW : activeArrayW.toNat < 2147483648)
    (smallH : activeArrayH.toNat < 2147483648) (mapper : QCamera3CropRegionMapper)
    (crop : Rect) :
    (mapper.update activeArrayW activeArrayH sensorW sensorH).toActiveArray crop = (do
        let scaled ← scaleRect activeArrayW.toNat activeArrayH.toNat sensorW.toNat sensorH.toNat
          crop
        boundToSize activeArrayW.toNat activeArrayH.toNat scaled) ∧
      (mapper.update activeArrayW activeArrayH sensorW sensorH).toSensor crop = (do
        let scaled ← scaleRect sensorW.toNat sensorH.toNat activeArrayW.toNat activeArrayH.toNat
          crop
        boundToSize sensorW.toNat sensorH.toNat scaled) := by
  have stored := accepted.stored smallW smallH mapper
  have initialized := accepted.initialized mapper
  rw [toActiveArray, toSensor, if_neg initialized, if_neg initialized,
    stored.sensorW, stored.sensorH, stored.activeArrayW, stored.activeArrayH]
  exact ⟨rfl, rfl⟩

/-- The mapped rectangle exists and is legal. -/
def MapsLegal (spaceW spaceH : Int) (mapped : Option Rect) : Prop :=
  ∃ crop, mapped = some crop ∧ crop.Legal spaceW spaceH

/-- What a mapper makes of a small rectangle is legal when both axes are. -/
theorem mapsLegal_iff (small : crop.Small)
    (targetWPos : 0 < targetW) (targetWSmall : targetW ≤ 32768)
    (targetHPos : 0 < targetH) (targetHSmall : targetH ≤ 32768) :
    MapsLegal targetW targetH (do
      let scaled ← scaleRect targetW targetH sourceW sourceH crop
      boundToSize targetW targetH scaled) ↔
      AxisLegal targetW (mapAxis targetW sourceW crop.left crop.width) ∧
        AxisLegal targetH (mapAxis targetH sourceH crop.top crop.height) := by
  obtain ⟨result, mapped⟩ := mapRect_isSome sourceW sourceH
    small targetWPos targetWSmall targetHPos targetHSmall
  obtain ⟨horizontal, vertical⟩ := mapRect_eq_some mapped
  rw [MapsLegal, mapped, ← horizontal, ← vertical, ← Rect.legal_iff]
  constructor
  · rintro ⟨crop, same, legal⟩
    obtain rfl := Option.some.inj same
    exact legal
  · exact fun legal => ⟨result, rfl, legal⟩

/--
A mapped rectangle is legal exactly when its extents are not negative and its
edges do not begin beyond the space it is given in; towards the sensor both may
be missed by what the division rounds away.
-/
theorem mapped_legal_iff (mapper : QCamera3CropRegionMapper)
    (activeArrayW activeArrayH sensorW sensorH : UInt32)
    (accepted : Accepted activeArrayW activeArrayH sensorW sensorH)
    (smallW : activeArrayW.toNat ≤ 32768) (smallH : activeArrayH.toNat ≤ 32768)
    (crop : Rect) (small : crop.Small) :
    let updated := mapper.update activeArrayW activeArrayH sensorW sensorH
    (MapsLegal activeArrayW.toNat activeArrayH.toNat (updated.toActiveArray crop) ↔
      (0 ≤ crop.width ∧ crop.left ≤ sensorW.toNat) ∧
        0 ≤ crop.height ∧ crop.top ≤ sensorH.toNat) ∧
    (MapsLegal sensorW.toNat sensorH.toNat (updated.toSensor crop) ↔
      (-activeArrayW.toNat < crop.width * sensorW.toNat ∧
        crop.left * sensorW.toNat < (sensorW.toNat + 1) * activeArrayW.toNat) ∧
      -activeArrayH.toNat < crop.height * sensorH.toNat ∧
        crop.top * sensorH.toNat < (sensorH.toNat + 1) * activeArrayH.toNat) := by
  intro updated
  obtain ⟨toActiveArray, toSensor⟩ := accepted.maps (by omega) (by omega) mapper crop
  obtain ⟨sensorWPos, sensorHPos, sensorWLe, sensorHLe⟩ := accepted
  rw [toActiveArray, toSensor]
  constructor
  · rw [mapsLegal_iff small (by omega) (by omega) (by omega) (by omega),
      mapAxis_legal_iff_of_le (by omega) (by omega),
      mapAxis_legal_iff_of_le (by omega) (by omega)]
  · rw [mapsLegal_iff small (by omega) (by omega) (by omega) (by omega),
      mapAxis_legal_iff (by omega) (by omega), mapAxis_legal_iff (by omega) (by omega)]

/-- The whole sensor, which comes to be the whole active array. -/
theorem mapped_legal_whole :
    MapsLegal 4000 3000 ((new.update 4000 3000 2000 1500).toActiveArray ⟨0, 0, 2000, 1500⟩) :=
  (mapped_legal_iff new 4000 3000 2000 1500
    ⟨by decide, by decide, by decide, by decide⟩ (by decide) (by decide) ⟨0, 0, 2000, 1500⟩
    ⟨by decide, by decide, by decide, by decide⟩).1.mpr (by decide)

/-- A rectangle to the right of the sensor comes out with a negative width. -/
theorem mapped_illegal :
    ¬ MapsLegal 4000 3000 ((new.update 4000 3000 2000 1500).toActiveArray ⟨2100, 0, 100, 100⟩) := by
  rintro ⟨crop, mapped, legal⟩
  obtain rfl : (⟨4200, 0, -200, 200⟩ : Rect) = crop := Option.some.inj mapped
  exact absurd legal.width (by decide)

end AnglerHal.CropMapper
