import Mathlib.Data.List.Basic

namespace AnglerHal.ParamMaps

/-!
# Names of parameter values
-/

/-- `lookupAttr`, which finds no name with `none`. -/
def lookupAttr (arr : List (String × Int)) (name : Option String) : Option Int :=
  name.bind fun name => (arr.find? fun entry => entry.1 = name).map Prod.snd

/-- `ISO_MODES_MAP`, with the speed that `getExifIsoSpeed` gives for the mode. -/
def isoModesMap : List (String × Int) :=
  [("auto", 0), ("ISO_HJR", 1), ("ISO100", 100), ("ISO200", 200), ("ISO400", 400),
    ("ISO800", 800), ("ISO1600", 1600), ("ISO3200", 3200)]

/-- `HFR_MODES_MAP`. -/
def hfrModesMap : List (String × Int) :=
  [("off", 0), ("60", 1), ("90", 2), ("120", 3), ("150", 4), ("180", 5), ("210", 6), ("240", 7),
    ("480", 8)]

/-- `SCENE_MODES_MAP`. -/
def sceneModesMap : List (String × Int) :=
  [("auto", 0), ("action", 17), ("portrait", 7), ("landscape", 2), ("night", 6),
    ("night-portrait", 15), ("theatre", 16), ("beach", 4), ("snow", 3), ("sunset", 5),
    ("steadyphoto", 10), ("fireworks", 13), ("sports", 9), ("party", 14), ("candlelight", 12),
    ("asd", 1), ("backlight", 8), ("flowers", 11), ("AR", 18), ("hdr", 21)]

/-- `HDR_MODES_MAP`. -/
def hdrModesMap : List (String × Int) :=
  [("hdr-mode-sensor", 0), ("hdr-mode-multiframe", 1)]

/-- `ON_OFF_MODES_MAP`. -/
def onOffModesMap : List (String × Int) :=
  [("off", 0), ("on", 1)]

/-- `BRACKETING_MODES_MAP`. -/
def bracketingModesMap : List (String × Int) :=
  [("Off", 0), ("AE-Bracket", 1)]

/-- A name that is found is one of the map. -/
theorem mem_of_lookupAttr {arr : List (String × Int)} {name : String} {value : Int}
    (found : lookupAttr arr (some name) = some value) : (name, value) ∈ arr := by
  obtain ⟨entry, isFound, rfl⟩ := Option.map_eq_some_iff.mp found
  have same := List.find?_some isFound
  have member := List.mem_of_find?_eq_some isFound
  rw [decide_eq_true_eq] at same
  exact same ▸ member

end AnglerHal.ParamMaps
