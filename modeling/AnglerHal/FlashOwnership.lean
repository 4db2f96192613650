import AnglerHal.FlashTorch

namespace AnglerHal.FlashTorch

/-!
# Who owns a flash

The torch and a camera own a flash in turns as long as no request stops half
way.  A request for the torch keeps the file descriptor when the flash cannot
be lit, and a camera that fails to open after it has reserved the flash keeps
the reservation.
-/

/-! ## One flash -/

/-- The torch is on just while its file is open, and not beside a camera. -/
structure FlashUnit.Owned (flash : FlashUnit) : Prop where
  paired : flash.flashFd.isSome = flash.flashOn
  apart : flash.cameraOpen = true → flash.flashOn = false

/-- What `setTorchMode` does to one flash. -/
def FlashUnit.torch (env : FlashEnv) (flash : FlashUnit) : Bool → FlashUnit × Int
  | true =>
    let inited := flash.initFlash env
    if inited.2 = 0 then
      let lit := inited.1.setFlashMode env.low true
      (lit.1, torchRc lit.2)
    else
      inited
  | false =>
    let dark := flash.setFlashMode env.off false
    if dark.2 = 0 then
      dark.1.deinitFlash env.offAgain env.release
    else
      (dark.1, torchRc dark.2)

variable {flash : FlashUnit} {env : FlashEnv} {on : Bool} {hal : Hal}
  {cameraId rc : Int} {devices : List Device} {text : CString.Bytes} {units next : Units}
  {told : List TorchStatus} {device closed : Device} {index : Nat} {event : HalEvent}

theorem FlashUnit.Owned.lit_or_closed (owned : flash.Owned) : (∃ fd, flash =
      { flashFd := some fd, flashOn := true, cameraOpen := false }) ∨
    ∃ cameraOpen, flash = { flashFd := none, flashOn := false, cameraOpen } := by
  obtain ⟨flashFd, flashOn, cameraOpen⟩ := flash
  obtain ⟨paired, apart⟩ := owned
  cases flashOn with
  | true =>
    obtain ⟨fd, rfl⟩ := Option.isSome_iff_exists.mp paired
    cases cameraOpen with
    | true => simp at apart
    | false => exact .inl ⟨fd, rfl⟩
  | false =>
    obtain rfl : flashFd = none := by simpa using paired
    exact .inr ⟨cameraOpen, rfl⟩

theorem torch_on_lit (env : FlashEnv) (fd : Nat) : (FlashUnit.torch env
        { flashFd := some fd, flashOn := true, cameraOpen := false }
        true).1 =
      { flashFd := some fd, flashOn := true, cameraOpen := false } := by
  cases hasFlash : env.hasFlash <;>
    simp [FlashUnit.torch, FlashUnit.initFlash, FlashUnit.setFlashMode, hasFlash, enosys]

theorem torch_on_unset {cameraOpen : Bool} (unset :
      ¬ (cameraOpen = false ∧ env.hasFlash = true ∧
        env.openNode.isSome = true ∧ env.init.isSome = true)) :
    (FlashUnit.torch env { flashFd := none, flashOn := false, cameraOpen } true).1 =
      { flashFd := none, flashOn := false, cameraOpen } := by
  cases hasFlash : env.hasFlash with
  | false => simp [FlashUnit.torch, FlashUnit.initFlash, hasFlash, enosys]
  | true =>
    cases cameraOpen with
    | true => simp [FlashUnit.torch, FlashUnit.initFlash, hasFlash, ebusy]
    | false =>
      cases node : env.openNode with
      | none => simp [FlashUnit.torch, FlashUnit.initFlash, hasFlash, node, ebusy]
      | some fd =>
        have failed : env.init = none := by
          simpa [hasFlash, node] using unset
        simp [FlashUnit.torch, FlashUnit.initFlash, hasFlash, node, failed, ioctlRc]

theorem torch_on_set {fd value : Nat} (hasFlash : env.hasFlash = true)
    (node : env.openNode = some fd) (set : env.init = some value) :
    FlashUnit.torch env { flashFd := none, flashOn := false, cameraOpen := false } true =
      if value = 0 then
        ({ flashFd := some fd, flashOn := env.low.isSome, cameraOpen := false }, ioctlRc env.low)
      else
        ({ flashFd := some fd, flashOn := false, cameraOpen := false }, value) := by
  by_cases done : value = 0
  · cases low : env.low with
    | none =>
      simp [FlashUnit.torch, FlashUnit.initFlash, FlashUnit.setFlashMode,
        hasFlash, node, set, done, low, ioctlRc, torchRc, ealready]
    | some value =>
      have positive : (value : Int) ≠ -114 := by omega
      simp [FlashUnit.torch, FlashUnit.initFlash, FlashUnit.setFlashMode,
        hasFlash, node, set, done, low, ioctlRc, torchRc, ealready,
        positive]
  · simp [FlashUnit.torch, FlashUnit.initFlash, hasFlash, node, set, done, ioctlRc]

theorem torch_off_lit (env : FlashEnv) (fd : Nat) : FlashUnit.torch env
        { flashFd := some fd, flashOn := true, cameraOpen := false } false =
      match env.off with
      | none => ({ flashFd := some fd, flashOn := true, cameraOpen := false }, -1)
      | some 0 => ({ flashFd := none, flashOn := false, cameraOpen := false }, ioctlRc env.release)
      | some (more + 1) =>
        ({ flashFd := some fd, flashOn := false, cameraOpen := false },
          ((more + 1 : Nat) : Int)) := by
  cases off : env.off with
  | none => simp [FlashUnit.torch, FlashUnit.setFlashMode, off, ioctlRc, torchRc, ealready]
  | some value =>
    cases value with
    | zero => simp [FlashUnit.torch, FlashUnit.setFlashMode, FlashUnit.deinitFlash, off, ioctlRc]
    | succ more =>
      have nonzero : (more : Int) + 1 ≠ 0 := by omega
      have positive : (more : Int) + 1 ≠ -114 := by omega
      simp [FlashUnit.torch, FlashUnit.setFlashMode, off, ioctlRc,
        torchRc, ealready, nonzero, positive]

theorem torch_off_closed (env : FlashEnv) (cameraOpen : Bool) : (FlashUnit.torch env
        { flashFd := none, flashOn := false, cameraOpen } false).1 =
      { flashFd := none, flashOn := false, cameraOpen } := by
  simp [FlashUnit.torch, FlashUnit.setFlashMode, ealready]

theorem ioctlRc_eq_zero (cfg : Option Nat) : ioctlRc cfg = 0 ↔ cfg = some 0 := by
  cases cfg <;> simp [ioctlRc]

theorem torch_careful (owned : flash.Owned) (careful : CarefulTorch env flash on) :
    (flash.torch env on).1.Owned ∧ (flash.torch env on).1.cameraOpen = flash.cameraOpen ∧
      ((flash.torch env on).2 ≠ 0 → (flash.torch env on).1 = flash) := by
  rcases owned.lit_or_closed with ⟨fd, rfl⟩ | ⟨cameraOpen, rfl⟩
  · cases on with
    | true =>
      rw [torch_on_lit]
      exact ⟨owned, rfl, fun _ => rfl⟩
    | false =>
      rw [torch_off_lit]
      cases off : env.off with
      | none => exact ⟨owned, rfl, fun _ => rfl⟩
      | some value =>
        obtain ⟨done, released⟩ := careful rfl (by simp [off])
        rw [off] at done
        cases done
        exact ⟨⟨rfl, fun _ => rfl⟩, rfl, by simp [released, ioctlRc]⟩
  · cases on with
    | false =>
      rw [torch_off_closed]
      exact ⟨owned, rfl, fun _ => rfl⟩
    | true =>
      by_cases set : cameraOpen = false ∧ env.hasFlash = true ∧
            env.openNode.isSome = true ∧ env.init.isSome = true
      · obtain ⟨rfl, hasFlash, node, inits⟩ := set
        obtain ⟨done, lit⟩ := careful rfl rfl hasFlash node inits
        obtain ⟨fd, node⟩ := Option.isSome_iff_exists.mp node
        rw [torch_on_set hasFlash node done, lit]
        exact ⟨⟨rfl, by simp⟩, rfl, by simp [ioctlRc]⟩
      · rw [torch_on_unset set]
        exact ⟨owned, rfl, fun _ => rfl⟩

theorem torch_careless (owned : flash.Owned) (careless : ¬ CarefulTorch env flash on) :
    (flash.torch env on).2 ≠ 0 ∧ ¬ ((flash.torch env on).1.flashFd = flash.flashFd ∧
        (flash.torch env on).1.flashOn = flash.flashOn) := by
  rcases owned.lit_or_closed with ⟨fd, rfl⟩ | ⟨cameraOpen, rfl⟩
  · cases on with
    | true => simp [CarefulTorch] at careless
    | false =>
      simp only [CarefulTorch, not_forall] at careless
      obtain ⟨-, done, undone⟩ := careless
      obtain ⟨value, off⟩ := Option.isSome_iff_exists.mp done
      rw [torch_off_lit, off]
      cases value with
      | zero =>
        have unreleased : env.release ≠ some 0 := fun released => undone ⟨off, released⟩
        exact ⟨mt (ioctlRc_eq_zero env.release).mp unreleased, by simp⟩
      | succ more => exact ⟨by dsimp only; omega, by simp⟩
  · cases on with
    | false => simp [CarefulTorch] at careless
    | true =>
      simp only [CarefulTorch, not_forall] at careless
      obtain ⟨-, isFree, hasFlash, node, set, undone⟩ := careless
      cases isFree
      obtain ⟨fd, node⟩ := Option.isSome_iff_exists.mp node
      obtain ⟨value, set⟩ := Option.isSome_iff_exists.mp set
      rw [torch_on_set hasFlash node set]
      split
      · rename_i done
        have unlit : env.low ≠ some 0 := fun lit => undone ⟨done ▸ set, lit⟩
        exact ⟨mt (ioctlRc_eq_zero env.low).mp unlit, by simp⟩
      · exact ⟨by dsimp only; omega, by simp⟩

theorem reserve_owned (owned : flash.Owned) (dark :
      flash.flashOn = true → env.off.isSome = true ∨ env.offAgain.isSome = true) :
    flash.reserve env = { flashFd := none, flashOn := false, cameraOpen := true } := by
  rcases owned.lit_or_closed with ⟨fd, rfl⟩ | ⟨cameraOpen, rfl⟩
  · cases off : env.off with
    | some value => simp [FlashUnit.reserve, FlashUnit.setFlashMode, FlashUnit.deinitFlash, off]
    | none =>
      obtain ⟨value, offAgain⟩ : ∃ value, env.offAgain = some value := by
        simpa [off, Option.isSome_iff_exists] using dark rfl
      simp [FlashUnit.reserve, FlashUnit.setFlashMode, FlashUnit.deinitFlash, off, offAgain]
  · simp [FlashUnit.reserve]

theorem reserve_lit (owned : flash.Owned) (lit :
      ¬ (flash.flashOn = true → env.off.isSome = true ∨ env.offAgain.isSome = true)) :
    flash.reserve env = { flashFd := none, flashOn := true, cameraOpen := true } := by
  simp only [Classical.not_imp, not_or, Bool.not_eq_true,
    Option.isSome_eq_false_iff, Option.isNone_iff_eq_none] at lit
  obtain ⟨isOn, off, offAgain⟩ := lit
  rcases owned.lit_or_closed with ⟨fd, rfl⟩ | ⟨cameraOpen, rfl⟩
  · simp [FlashUnit.reserve, FlashUnit.setFlashMode, FlashUnit.deinitFlash, off, offAgain]
  · cases isOn

/-! ## The invariant -/

section Calls

variable {factory : Factory}

/--
Every flash has one owner, and where a camera is the owner, one of the third
version is open.
-/
structure Inv (factory : Factory) (hal : Hal) : Prop where
  owned : ∀ cameraId, factory.valid cameraId = true → (hal.units cameraId).Owned
  reserved : ∀ cameraId, factory.valid cameraId = true → ((hal.units cameraId).cameraOpen = true ↔
          ∃ device ∈ hal.devices, device.cameraId = cameraId)
  owner : ∀ cameraId, factory.valid cameraId = true → (hal.units cameraId).cameraOpen = true →
          ∃ device ∈ hal.devices, device.cameraId = cameraId ∧ device.version = .hal3
  devices : ∀ device ∈ hal.devices, device.cameraOpened = true ∧
        (device.version = .hal3 → factory.valid device.cameraId = true)

theorem Hal.start_inv : Inv factory Hal.start where
  owned _ _ := ⟨rfl, fun _ => rfl⟩
  reserved := by simp [Hal.start]
  owner := by simp [Hal.start]
  devices := by simp [Hal.start]

theorem Inv.sound (inv : Inv factory hal) (valid : factory.valid cameraId = true) :
    UnitSound hal cameraId where
  held isOn := (inv.owned cameraId valid).paired.trans isOn
  apart isOpen := by
    have owned := inv.owned cameraId valid
    have isOff := owned.apart isOpen
    refine ⟨?_, isOff⟩
    simpa [isOff] using owned.paired
  reserved := inv.reserved cameraId valid

theorem Inv.change (inv : Inv factory hal)
    (owned : factory.valid cameraId = true → flash.Owned)
    (reserved : factory.valid cameraId = true → (flash.cameraOpen = true ↔
          ∃ device ∈ devices, device.cameraId = cameraId))
    (owner : factory.valid cameraId = true → flash.cameraOpen = true → ∃ device ∈ devices,
            device.cameraId = cameraId ∧ device.version = .hal3)
    (others : ∀ device : Device, device.cameraId ≠ cameraId →
          (device ∈ devices ↔ device ∈ hal.devices))
    (opened : ∀ device ∈ devices, device.cameraOpened = true ∧ (device.version = .hal3 →
            factory.valid device.cameraId = true)) :
    Inv factory { units := Function.update hal.units cameraId flash, devices } where
  owned := by
    intro other valid
    by_cases same : other = cameraId
    · subst same
      simpa using owned valid
    · simpa [same] using inv.owned other valid
  reserved := by
    intro other valid
    by_cases same : other = cameraId
    · subst same
      simpa using reserved valid
    · have before := inv.reserved other valid
      simp only [Function.update_of_ne same]
      rw [before]
      constructor
      · rintro ⟨device, member, rfl⟩
        exact ⟨device, (others device same).mpr member, rfl⟩
      · rintro ⟨device, member, rfl⟩
        exact ⟨device, (others device same).mp member, rfl⟩
  owner := by
    intro other valid isOpen
    by_cases same : other = cameraId
    · subst same
      exact owner valid (by simpa using isOpen)
    · simp only [Function.update_of_ne same] at isOpen
      obtain ⟨device, member, rfl, version⟩ := inv.owner other valid isOpen
      exact ⟨device, (others device same).mpr member, rfl, version⟩
  devices := opened

/-! ## The torch -/

theorem setTorchMode_none
    (unknown : ∀ cameraId, factory.torchCamera text = some cameraId →
          factory.valid cameraId = false)
    (stepped : factory.setTorchMode env text on units = some (next, told, rc)) :
    next = units := by
  unfold Factory.setTorchMode at stepped
  cases named : factory.torchCamera text with
  | none =>
    simp only [named] at stepped
    cases stepped
    rfl
  | some cameraId =>
    have invalid := unknown cameraId named
    cases on with
    | true =>
      simp only [named, Factory.onUnit, invalid, einval] at stepped
      cases stepped
      rfl
    | false =>
      simp only [named, Factory.onUnit, invalid, einval] at stepped
      cases stepped
      rfl

theorem onUnit_valid (act : FlashUnit → FlashUnit × Int) (units : Units)
    (valid : factory.valid cameraId = true) :
    factory.onUnit cameraId act units = (Function.update units cameraId (act (units cameraId)).1,
        (act (units cameraId)).2) := by
  simp [Factory.onUnit, valid]

theorem setTorchMode_units (named : factory.torchCamera text = some cameraId)
    (valid : factory.valid cameraId = true)
    (stepped : factory.setTorchMode env text on units = some (next, told, rc)) :
    next = Function.update units cameraId ((units cameraId).torch env on).1 ∧
      rc = ((units cameraId).torch env on).2 := by
  cases on with
  | true =>
    unfold Factory.setTorchMode at stepped
    simp only [named, if_true, onUnit_valid _ _ valid,
      Function.update_self, Function.update_idem] at stepped
    simp only [FlashUnit.torch]
    split at stepped
    · rename_i inits
      rw [if_pos inits]
      split at stepped
      · rename_i lit
        obtain ⟨shown, -, same⟩ := Option.map_eq_some_iff.mp stepped
        cases same
        exact ⟨rfl, by rw [lit]; rfl⟩
      · cases stepped
        exact ⟨rfl, rfl⟩
    · rename_i fails
      rw [if_neg fails]
      cases stepped
      exact ⟨rfl, rfl⟩
  | false =>
    unfold Factory.setTorchMode at stepped
    simp only [named, Bool.false_eq_true, if_false, onUnit_valid _ _ valid, Function.update_self,
      Function.update_idem] at stepped
    simp only [FlashUnit.torch]
    split at stepped
    · rename_i dark
      rw [if_pos dark]
      split at stepped
      · rename_i released
        obtain ⟨shown, -, same⟩ := Option.map_eq_some_iff.mp stepped
        cases same
        exact ⟨rfl, released.symm⟩
      · cases stepped
        exact ⟨rfl, rfl⟩
    · rename_i lit
      rw [if_neg lit]
      cases stepped
      exact ⟨rfl, rfl⟩

theorem setTorchMode_failed (named : factory.torchCamera text = some cameraId)
    (valid : factory.valid cameraId = true)
    (failed : ((units cameraId).torch env on).2 ≠ 0) :
    factory.setTorchMode env text on units = some
        (Function.update units cameraId ((units cameraId).torch env on).1, [],
          ((units cameraId).torch env on).2) := by
  cases on with
  | true =>
    simp only [FlashUnit.torch] at failed ⊢
    unfold Factory.setTorchMode
    simp only [named, if_true, onUnit_valid _ _ valid, Function.update_self, Function.update_idem]
    split
    · rename_i inits
      rw [if_pos inits] at failed
      rw [if_neg fun lit => failed (by dsimp only; rw [lit]; rfl)]
    · rfl
  | false =>
    simp only [FlashUnit.torch] at failed ⊢
    unfold Factory.setTorchMode
    simp only [named, Bool.false_eq_true, if_false,
      onUnit_valid _ _ valid, Function.update_self, Function.update_idem]
    split
    · rename_i dark
      rw [if_pos dark] at failed
      rw [if_neg failed]
    · rfl

/-- The torch is lit, of a flash that nobody else has. -/
theorem switches_on_iff (owned : flash.Owned) :
    (flash.initFlash env).2 = 0 ∧ ((flash.initFlash env).1.setFlashMode env.low true).2 = 0 ↔
      Switches env flash true := by
  rcases owned.lit_or_closed with ⟨fd, rfl⟩ | ⟨cameraOpen, rfl⟩
  · cases hasFlash : env.hasFlash <;>
      simp [FlashUnit.initFlash, FlashUnit.setFlashMode, Switches, hasFlash, enosys, ealready]
  · cases hasFlash : env.hasFlash with
    | false => simp [FlashUnit.initFlash, Switches, hasFlash, enosys]
    | true =>
      cases cameraOpen with
      | true => simp [FlashUnit.initFlash, Switches, hasFlash, ebusy]
      | false =>
        rcases node : env.openNode with _ | fd
        · simp [FlashUnit.initFlash, Switches, hasFlash, node, ebusy]
        · rcases set : env.init with _ | value
          · simp [FlashUnit.initFlash, Switches, hasFlash, node, set, ioctlRc]
          · rcases low : env.low with _ | mode <;>
              simp [FlashUnit.initFlash, FlashUnit.setFlashMode, Switches, hasFlash, node, set,
                low, ioctlRc]

/-- The torch is switched off. -/
theorem switches_off_iff (owned : flash.Owned) :
    (flash.setFlashMode env.off false).2 = 0 ∧
        ((flash.setFlashMode env.off false).1.deinitFlash env.offAgain env.release).2 = 0 ↔
      Switches env flash false := by
  rcases owned.lit_or_closed with ⟨fd, rfl⟩ | ⟨cameraOpen, rfl⟩
  · rcases off : env.off with _ | value <;>
      simp [FlashUnit.setFlashMode, FlashUnit.deinitFlash, Switches, off, ioctlRc_eq_zero]
  · simp [FlashUnit.setFlashMode, Switches, ealready]

/-- The notification is what a request for the torch can miss. -/
theorem setTorchMode_eq_none_iff (named : factory.torchCamera text = some cameraId)
    (valid : factory.valid cameraId = true) (owned : (units cameraId).Owned) :
    factory.setTorchMode env text on units = none ↔
      Switches env (units cameraId) on ∧ factory.callbacks = some false := by
  have told : ∀ status, factory.torchStatus text status = none ↔
      factory.callbacks = some false := by
    intro status
    rcases callbacks : factory.callbacks with _ | _ | _ <;>
      simp [Factory.torchStatus, callbacks]
  unfold Factory.setTorchMode
  cases on with
  | true =>
    rw [← switches_on_iff owned]
    simp only [named, if_true, onUnit_valid _ _ valid, Function.update_self]
    split
    · rename_i inits
      split
      · rename_i lit
        simp [told, inits, lit]
      · rename_i unlit
        simp [inits, unlit]
    · rename_i fails
      simp [fails]
  | false =>
    rw [← switches_off_iff owned]
    simp only [named, Bool.false_eq_true, if_false, onUnit_valid _ _ valid, Function.update_self]
    split
    · rename_i dark
      split
      · rename_i closed
        simp [told, dark, closed]
      · rename_i stays
        simp [dark, stays]
    · rename_i lit
      simp [lit]

theorem setTorchMode_careful (inv : Inv factory hal)
    (careful : Careful factory hal (.setTorchMode text on env))
    (stepped : factory.setTorchMode env text on hal.units = some (next, told, rc)) :
    Inv factory { hal with units := next } ∧ (rc ≠ 0 → next = hal.units) := by
  by_cases known : ∃ cameraId, factory.torchCamera text = some cameraId ∧
          factory.valid cameraId = true
  · obtain ⟨cameraId, named, valid⟩ := known
    obtain ⟨rfl, rfl⟩ := setTorchMode_units named valid stepped
    obtain ⟨owned, sameCamera, undone⟩ :=
      torch_careful (inv.owned cameraId valid) (careful cameraId named valid).1
    refine ⟨inv.change (fun _ => owned) ?_ ?_ (fun _ _ => Iff.rfl) inv.devices, fun failed => ?_⟩
    · rw [sameCamera]
      exact inv.reserved cameraId
    · rw [sameCamera]
      exact inv.owner cameraId
    · rw [undone failed, Function.update_eq_self]
  · have unknown : ∀ cameraId, factory.torchCamera text = some cameraId →
            factory.valid cameraId = false := by
      intro cameraId named
      by_contra valid
      exact known ⟨cameraId, named, by simpa using valid⟩
    rw [setTorchMode_none unknown stepped]
    exact ⟨inv, fun _ => rfl⟩

theorem setTorchMode_careless (inv : Inv factory hal)
    (sound : SoundCall factory hal (.setTorchMode text on env)) :
    Careful factory hal (.setTorchMode text on env) := by
  obtain ⟨told, sound⟩ := sound
  intro cameraId named valid
  have owned := inv.owned cameraId valid
  refine ⟨?_, fun switches silent => ?_⟩
  · by_contra careless
    obtain ⟨failed, changed⟩ := torch_careless owned careless
    have stepped := setTorchMode_failed named valid failed
    obtain ⟨-, undone⟩ := sound _ _ _ (by rw [halCall, stepped]; rfl) cameraId valid
    exact changed (by simpa using undone (by simpa [failedTorch] using failed))
  · have missed := (setTorchMode_eq_none_iff named valid owned).mpr ⟨switches, silent⟩
    simp [isTorch, halCall, missed] at told

/-- A careful request for the torch reaches its end. -/
theorem setTorchMode_told (inv : Inv factory hal) (careful : Careful factory hal event)
    (torch : isTorch event = true) :
    (halCall factory hal event).isSome = true := by
  cases event with
  | setTorchMode text on env =>
    rw [halCall, Option.isSome_map, Option.isSome_iff_ne_none]
    intro missed
    cases named : factory.torchCamera text with
    | none => simp [Factory.setTorchMode, named] at missed
    | some cameraId =>
      by_cases valid : factory.valid cameraId = true
      · obtain ⟨switches, silent⟩ :=
          (setTorchMode_eq_none_iff named valid (inv.owned cameraId valid)).mp missed
        exact (careful cameraId named valid).2 switches silent
      · cases on <;> simp [Factory.setTorchMode, named, Factory.onUnit, valid, einval] at missed
  | _ => cases torch

/-! ## Opening a camera -/

theorem valid_of_present (present : factory.present cameraId = true)
    (described : factory.hasDescriptors = true) :
    factory.valid cameraId = true := by
  simp only [Factory.present, Factory.hasDescriptors, Factory.valid,
    Bool.and_eq_true, decide_eq_true_eq] at present described ⊢
  omega

theorem mem_append_other {added : Device} (same : added.cameraId = cameraId)
    (different : device.cameraId ≠ cameraId) :
    device ∈ devices ++ [added] ↔ device ∈ devices := by
  simp only [List.mem_append, List.mem_singleton, or_iff_left_iff_imp]
  rintro rfl
  exact absurd same different

theorem openHal1_inv {env : OpenEnv} (inv : Inv factory hal)
    (reserved : factory.valid cameraId = true →
        env.hal1Open = 0 → (hal.units cameraId).cameraOpen = true) :
    Inv factory (openHal1 env cameraId hal).1 := by
  by_cases opens : env.hal1Open = 0
  · rw [openHal1, if_neg (by simpa using opens)]
    rw [← Function.update_eq_self cameraId hal.units]
    refine inv.change (inv.owned cameraId) ?_ ?_ ?_ ?_
    · intro valid
      simp [reserved valid opens]
    · intro valid isOpen
      obtain ⟨device, member, owner⟩ := inv.owner cameraId valid isOpen
      exact ⟨device, List.mem_append_left _ member, owner⟩
    · intro device
      exact mem_append_other rfl
    · intro device member
      rcases List.mem_append.mp member with old | new
      · exact inv.devices device old
      · cases List.mem_singleton.mp new
        simp
  · rw [openHal1, if_pos opens]
    exact inv

theorem openHal1_reserved {env : OpenEnv} (opens : env.hal1Open = 0)
    (sound : UnitSound (openHal1 env cameraId hal).1 cameraId) :
    (hal.units cameraId).cameraOpen = true := by
  have reserved := sound.reserved
  rw [openHal1, if_neg (by simpa using opens)] at reserved
  exact reserved.mpr ⟨_, List.mem_append_right _ (List.mem_singleton_self _), rfl⟩

/-- A new device of the third version. -/
def hal3Device (cameraId : Int) : Device where
  cameraId := cameraId
  version := .hal3
  cameraOpened := true

theorem cameraDeviceOpen_version {env : OpenEnv}
    (present : factory.present cameraId = true)
    (described : factory.hasDescriptors = true) :
    factory.cameraDeviceOpen env cameraId hal = if factory.version = .hal3 then
        factory.openHal3 env cameraId hal
      else
        openHal1 env cameraId hal := by
  cases version : factory.version <;>
    simp [Factory.cameraDeviceOpen, present, described, version]

theorem cameraDeviceOpen_unknown {env : OpenEnv} (unknown :
      ¬ (factory.present cameraId = true ∧ factory.hasDescriptors = true)) :
    (factory.cameraDeviceOpen env cameraId hal).1 = hal := by
  cases present : factory.present cameraId with
  | false => simp [Factory.cameraDeviceOpen, present]
  | true =>
    have undescribed : factory.hasDescriptors = false := by
      simpa [present] using unknown
    simp [Factory.cameraDeviceOpen, present, undescribed]

theorem openLegacy_some {env : OpenEnv} {version1 : Bool} :
    (factory.openLegacy env cameraId version1 hal).1 =
      if factory.present cameraId = true ∧ version1 = true then
        (openHal1 env cameraId hal).1
      else
        hal := by
  cases present : factory.present cameraId <;> cases version1 <;>
    simp [Factory.openLegacy, present]

theorem openHal3_units (env : OpenEnv) (cameraId : Int) (hal : Hal) :
    (factory.openHal3 env cameraId hal).1 =
      let reserved := factory.reserveFlashForCamera env.flash cameraId hal.units
      if reserved.2.2 < 0 ∨ env.cameraOpen ≠ 0 then
        { hal with units := reserved.1 }
      else if env.registerEvents < 0 then
        { hal with
          units :=
            (factory.releaseFlashFromCamera env.flash cameraId reserved.1).1 }
      else
        { units := reserved.1
          devices := hal.devices ++ [hal3Device cameraId] } := by
  simp only [Factory.openHal3, Factory.openCamera]
  by_cases reserves : (factory.reserveFlashForCamera env.flash cameraId hal.units).2.2 < 0
  · simp only [reserves, if_true, true_or]
    rfl
  · by_cases opens : env.cameraOpen = 0
    · by_cases registers : env.registerEvents < 0
      · simp only [reserves, opens, registers, if_true, if_false, ne_eq, not_true_eq_false, or_self]
        rfl
      · simp only [reserves, opens, registers, if_false, ne_eq, not_true_eq_false, or_self]
        rfl
    · simp only [reserves, opens, if_true, if_false, ne_eq, not_false_eq_true, or_true]
      rfl

theorem reserveFlashForCamera_shared (env : FlashEnv)
    (valid : factory.valid cameraId = true)
    (reserved : (units cameraId).cameraOpen = true) :
    factory.reserveFlashForCamera env cameraId units = (units, [], 0) := by
  simp [Factory.reserveFlashForCamera, valid, reserved]

theorem reserveFlashForCamera_alone (env : FlashEnv)
    (valid : factory.valid cameraId = true) (free : (units cameraId).cameraOpen = false) :
    factory.reserveFlashForCamera env cameraId units =
      (Function.update units cameraId ((units cameraId).reserve env),
        factory.notify env cameraId .notAvailable) := by
  simp [Factory.reserveFlashForCamera, valid, free]

theorem notify_fails (env : FlashEnv) (cameraId : Int) (status : TorchModeStatus) :
    (factory.notify env cameraId status).2 < 0 ↔ factory.callbacks ≠ some true := by
  by_cases told : factory.callbacks = some true <;>
    simp [Factory.notify, told, enosys]

theorem releaseFlashFromCamera_reserved (env : FlashEnv)
    (valid : factory.valid cameraId = true)
    (reserved : (units cameraId).cameraOpen = true) :
    (factory.releaseFlashFromCamera env cameraId units).1 = Function.update units cameraId
        { units cameraId with cameraOpen := false } := by
  simp [Factory.releaseFlashFromCamera, valid, reserved]

theorem openHal3_shared {env : OpenEnv} (valid : factory.valid cameraId = true)
    (reserved : (hal.units cameraId).cameraOpen = true) :
    (factory.openHal3 env cameraId hal).1 = if env.cameraOpen ≠ 0 then
        hal
      else if env.registerEvents < 0 then
        { hal with
          units :=
            Function.update hal.units cameraId { hal.units cameraId with cameraOpen := false } }
      else
        { hal with devices := hal.devices ++ [hal3Device cameraId] } := by
  rw [openHal3_units, reserveFlashForCamera_shared env.flash valid reserved]
  simp only [releaseFlashFromCamera_reserved env.flash valid reserved, Int.lt_irrefl, false_or]

theorem openHal3_alone {env : OpenEnv} (valid : factory.valid cameraId = true)
    (free : (hal.units cameraId).cameraOpen = false) :
    (factory.openHal3 env cameraId hal).1 =
      if factory.callbacks ≠ some true ∨ env.cameraOpen ≠ 0 then
        { hal with
          units :=
            Function.update hal.units cameraId ((hal.units cameraId).reserve env.flash) }
      else if env.registerEvents < 0 then
        { hal with
          units :=
            Function.update hal.units cameraId { (hal.units cameraId).reserve env.flash with
                cameraOpen := false } }
      else
        { units :=
            Function.update hal.units cameraId ((hal.units cameraId).reserve env.flash)
          devices := hal.devices ++ [hal3Device cameraId] } := by
  have reserves : (Function.update hal.units cameraId
        ((hal.units cameraId).reserve env.flash) cameraId).cameraOpen =
          true := by
    rw [Function.update_self]
    rfl
  rw [openHal3_units, reserveFlashForCamera_alone env.flash valid free]
  simp only [notify_fails, releaseFlashFromCamera_reserved env.flash valid reserves,
    Function.update_self, Function.update_idem]

theorem openHal3_inv {env : OpenEnv} (inv : Inv factory hal)
    (valid : factory.valid cameraId = true)
    (careful : CarefulOpen factory env (hal.units cameraId)) :
    Inv factory (factory.openHal3 env cameraId hal).1 := by
  have devices : ∀ device ∈ hal.devices ++ [hal3Device cameraId], device.cameraOpened = true ∧
          (device.version = .hal3 → factory.valid device.cameraId = true) := by
    intro device member
    rcases List.mem_append.mp member with old | new
    · exact inv.devices device old
    · cases List.mem_singleton.mp new
      exact ⟨rfl, fun _ => valid⟩
  have opened : ∃ device ∈ hal.devices ++ [hal3Device cameraId],
        device.cameraId = cameraId ∧ device.version = .hal3 :=
    ⟨_, List.mem_append_right _ (List.mem_singleton_self _), rfl, rfl⟩
  have counted : ∃ device ∈ hal.devices ++ [hal3Device cameraId], device.cameraId = cameraId :=
    opened.imp fun _ found => ⟨found.1, found.2.1⟩
  cases reserved : (hal.units cameraId).cameraOpen with
  | true =>
    simp only [CarefulOpen, reserved, if_true] at careful
    rw [openHal3_shared valid reserved]
    split
    · exact inv
    · rename_i opens
      rw [if_neg (by have := careful (by simpa using opens); omega),
        ← Function.update_eq_self cameraId hal.units]
      exact inv.change (inv.owned cameraId) (fun _ => by simp only [reserved, counted])
        (fun _ _ => opened) (fun _ => mem_append_other rfl) devices
  | false =>
    simp only [CarefulOpen, reserved, Bool.false_eq_true, if_false] at careful
    obtain ⟨dark, told, opens⟩ := careful
    have isReserved := reserve_owned (inv.owned cameraId valid) dark
    rw [openHal3_alone valid reserved, if_neg (by simp [told, opens]), isReserved]
    split
    · have noDevice := inv.reserved cameraId valid
      rw [reserved] at noDevice
      exact inv.change (fun _ => ⟨rfl, fun _ => rfl⟩) (fun _ => noDevice)
        (fun _ isOpen => by cases isOpen) (fun _ _ => Iff.rfl) inv.devices
    · exact inv.change (fun _ => ⟨rfl, fun _ => rfl⟩) (fun _ => by simp only [counted])
        (fun _ _ => opened) (fun _ => mem_append_other rfl) devices

theorem openHal3_careful {env : OpenEnv} (inv : Inv factory hal)
    (valid : factory.valid cameraId = true)
    (sound : UnitSound (factory.openHal3 env cameraId hal).1 cameraId) :
    CarefulOpen factory env (hal.units cameraId) := by
  have owned := inv.owned cameraId valid
  have before := inv.reserved cameraId valid
  cases reserved : (hal.units cameraId).cameraOpen with
  | true =>
    simp only [CarefulOpen, reserved, if_true]
    intro opens
    by_contra fails
    rw [openHal3_shared valid reserved, if_neg (by simpa using opens), if_pos (by omega)] at sound
    have after := sound.reserved
    rw [reserved] at before
    simp only [Function.update_self, Bool.false_eq_true, false_iff] at after
    exact after (before.mp rfl)
  | false =>
    rw [openHal3_alone valid reserved] at sound
    rw [reserved] at before
    have dark : (hal.units cameraId).flashOn = true → env.flash.off.isSome = true ∨
            env.flash.offAgain.isSome = true := by
      by_contra lit
      rw [reserve_lit owned lit] at sound
      have held := sound.held
      split at held
      · simp at held
      · split at held
        · simp at held
        · simp at held
    simp only [CarefulOpen, reserved, Bool.false_eq_true, if_false]
    refine ⟨dark, ?_⟩
    by_contra fails
    rw [if_pos (by
      rw [← not_and_or]
      exact fails), reserve_owned owned dark] at sound
    have after := sound.reserved
    simp only [Function.update_self, true_iff] at after
    simpa using before.mpr after

/-! ## Closing a camera -/

theorem mem_eraseIdx_of_ne (found : devices[index]? = some closed)
    (member : device ∈ devices) (different : device ≠ closed) :
    device ∈ devices.eraseIdx index := by
  obtain ⟨place, isDevice⟩ := List.mem_iff_getElem?.mp member
  refine List.mem_eraseIdx_iff_getElem?.mpr ⟨place, ?_, isDevice⟩
  rintro rfl
  exact different (Option.some.inj (isDevice.symm.trans found))

theorem mem_eraseIdx_other (found : devices[index]? = some closed)
    (different : device.cameraId ≠ closed.cameraId) :
    device ∈ devices.eraseIdx index ↔ device ∈ devices :=
  ⟨List.mem_of_mem_eraseIdx, fun member =>
    mem_eraseIdx_of_ne found member (ne_of_apply_ne _ different)⟩

theorem closeCameraDevice_some {env : FlashEnv} {index : Nat} {hal : Hal}
    {device : Device} (inv : Inv factory hal)
    (found : hal.devices[index]? = some device) :
    ∃ told,
      factory.closeCameraDevice env index hal =
        some
          ({ units :=
              if device.version = .hal3 then
                Function.update hal.units device.cameraId
                  { hal.units device.cameraId with cameraOpen := false }
              else
                hal.units
             devices := hal.devices.eraseIdx index },
            told, 0) := by
  have member := List.mem_of_getElem? found
  obtain ⟨opened, valid⟩ := inv.devices device member
  cases version : device.version with
  | hal1 =>
    exact ⟨[], by
      simp [Factory.closeCameraDevice, found, Factory.delete, version]⟩
  | hal3 =>
    have reserved :=
      (inv.reserved device.cameraId (valid version)).mpr
        ⟨device, member, rfl⟩
    exact ⟨(factory.notify env device.cameraId .availableOff).1, by
      simp [Factory.closeCameraDevice, found, Factory.delete, version,
        opened, Factory.closeCamera, Factory.releaseFlashFromCamera,
        valid version, reserved]⟩

theorem closeCameraDevice_inv {next : Hal} (inv : Inv factory hal)
    (careful : Careful factory hal (.closeCameraDevice index env))
    (stepped :
      factory.closeCameraDevice env index hal = some (next, told, rc)) :
    Inv factory next := by
  cases found : hal.devices[index]? with
  | none =>
    simp [Factory.closeCameraDevice, found] at stepped
  | some device =>
    obtain ⟨said, closed⟩ := @closeCameraDevice_some factory env index hal device inv found
    rw [stepped] at closed
    cases closed
    have devices :
        ∀ other ∈ hal.devices.eraseIdx index,
          other.cameraOpened = true ∧
            (other.version = .hal3 →
              factory.valid other.cameraId = true) :=
      fun other member =>
        inv.devices other (List.mem_of_mem_eraseIdx member)
    cases version : device.version with
    | hal1 =>
      have owner :
          ∀ cameraId,
            factory.valid cameraId = true →
              (hal.units cameraId).cameraOpen = true →
                ∃ other ∈ hal.devices.eraseIdx index,
                  other.cameraId = cameraId ∧
                    other.version = .hal3 := by
        intro cameraId valid isOpen
        obtain ⟨other, member, same, isHal3⟩ := inv.owner cameraId valid isOpen
        refine ⟨other, mem_eraseIdx_of_ne found member ?_, same, isHal3⟩
        rintro rfl
        rw [version] at isHal3
        cases isHal3
      have kept :
          factory.valid device.cameraId = true →
            ((hal.units device.cameraId).cameraOpen = true ↔
              ∃ other ∈ hal.devices.eraseIdx index,
                other.cameraId = device.cameraId) := by
        intro valid
        constructor
        · intro isOpen
          exact (owner _ valid isOpen).imp
            fun _ present => ⟨present.1, present.2.1⟩
        · rintro ⟨other, member, same⟩
          exact (inv.reserved _ valid).mpr
            ⟨other, List.mem_of_mem_eraseIdx member, same⟩
      rw [if_neg (by simp),
        ← Function.update_eq_self device.cameraId hal.units]
      exact inv.change (inv.owned _) kept (owner _)
        (fun _ => mem_eraseIdx_other found) devices
    | hal3 =>
      have alone := careful device found version
      rw [if_pos rfl]
      refine inv.change (fun valid => ?_) (fun _ => ?_)
        (fun _ isOpen => by cases isOpen)
        (fun _ => mem_eraseIdx_other found) devices
      · exact ⟨(inv.owned _ valid).paired, fun isOpen => by cases isOpen⟩
      · simp only [Bool.false_eq_true, false_iff]
        rintro ⟨other, member, same⟩
        exact alone other member same

theorem closeCameraDevice_careful (inv : Inv factory hal)
    (sound : SoundCall factory hal (.closeCameraDevice index env)) :
    Careful factory hal (.closeCameraDevice index env) := by
  intro device found version other member same
  obtain ⟨told, closed⟩ := @closeCameraDevice_some factory env index hal device inv found
  have valid := (inv.devices device (List.mem_of_getElem? found)).2 version
  have reserved := (sound.2 _ _ _ closed device.cameraId valid).1.reserved
  simp only [version, if_true, Function.update_self, Bool.false_eq_true,
    false_iff] at reserved
  exact reserved ⟨other, member, same⟩

/-! ## Runs -/

theorem halCall_careful {next : Hal} (inv : Inv factory hal)
    (careful : Careful factory hal event)
    (stepped : halCall factory hal event = some (next, told, rc)) :
    Inv factory next ∧ (failedTorch event rc = true → next.units = hal.units) := by
  cases event with
  | setTorchMode text on env =>
    obtain ⟨⟨units, said, answer⟩, called, same⟩ := Option.map_eq_some_iff.mp stepped
    cases same
    obtain ⟨kept, undone⟩ := setTorchMode_careful inv careful called
    exact ⟨kept, fun failed => undone (by simpa [failedTorch] using failed)⟩
  | cameraDeviceOpen cameraId env =>
    refine ⟨?_, by simp [failedTorch]⟩
    obtain rfl : (factory.cameraDeviceOpen env cameraId hal).1 = next := by
      rw [Option.some.inj stepped]
    by_cases known : factory.present cameraId = true ∧ factory.hasDescriptors = true
    · obtain ⟨present, described⟩ := known
      have valid := valid_of_present present described
      have met := careful present described
      rw [cameraDeviceOpen_version present described]
      cases version : factory.version with
      | hal3 =>
        rw [version] at met
        exact openHal3_inv inv valid met
      | hal1 =>
        rw [version] at met
        exact openHal1_inv inv fun _ => met
    · rw [cameraDeviceOpen_unknown known]
      exact inv
  | openLegacy cameraId version1 env =>
    refine ⟨?_, by simp [failedTorch]⟩
    obtain rfl : (factory.openLegacy env cameraId version1 hal).1 = next := by
      rw [Option.some.inj stepped]
    rw [openLegacy_some]
    split
    · rename_i opens
      exact openHal1_inv inv fun valid => careful opens.1 valid opens.2
    · exact inv
  | closeCameraDevice index env =>
    exact ⟨closeCameraDevice_inv inv careful stepped, by simp [failedTorch]⟩

theorem soundCall_iff_careful (inv : Inv factory hal) :
    SoundCall factory hal event ↔ Careful factory hal event := by
  constructor
  · intro sound
    cases event with
    | setTorchMode text on env => exact setTorchMode_careless inv sound
    | cameraDeviceOpen cameraId env =>
      intro present described
      have valid := valid_of_present present described
      have opened :=
        (sound.2 (factory.cameraDeviceOpen env cameraId hal).1 _ _ rfl cameraId valid).1
      rw [cameraDeviceOpen_version present described] at opened
      cases version : factory.version with
      | hal3 =>
        rw [version] at opened
        exact openHal3_careful inv valid opened
      | hal1 =>
        rw [version] at opened
        exact fun opens => openHal1_reserved opens opened
    | openLegacy cameraId version1 env =>
      intro present valid isFirst opens
      have opened :=
        (sound.2 (factory.openLegacy env cameraId version1 hal).1 _ _ rfl cameraId valid).1
      rw [openLegacy_some, if_pos ⟨present, isFirst⟩] at opened
      exact openHal1_reserved opens opened
    | closeCameraDevice index env => exact closeCameraDevice_careful inv sound
  · intro careful
    refine ⟨setTorchMode_told inv careful, fun next told rc stepped cameraId valid => ?_⟩
    obtain ⟨kept, undone⟩ := halCall_careful inv careful stepped
    refine ⟨kept.sound valid, fun failed => ?_⟩
    rw [undone failed]
    exact ⟨rfl, rfl⟩

/--
In every run from the start, every flash has one owner after each call, and
requests for the torch that fail undo themselves, just when all calls are
careful.
-/
theorem halRun_sound_iff (factory : Factory) (events : List HalEvent) :
    LabelledRun.Guarded (halStep factory) (fun hal _ event => SoundCall factory hal event)
        Hal.start [] events ↔
      LabelledRun.Guarded (halStep factory) (fun hal _ event => Careful factory hal event)
        Hal.start [] events := by
  refine LabelledRun.guarded_iff_of_invariant (Inv factory)
    (fun inv => soundCall_iff_careful inv) ?_ Hal.start_inv
  intro hal _ event next _ inv sound stepped
  simp only [halStep, Option.map_eq_some_iff, Prod.mk.injEq] at stepped
  obtain ⟨⟨after, told, rc⟩, called, rfl, -⟩ := stepped
  exact (halCall_careful inv ((soundCall_iff_careful inv).mp sound) called).1

end Calls

/-- Two cameras of the third version. -/
def twoCameras : Factory where
  maxNumSensors := 5
  numOfCameras := 2
  version := .hal3
  callbacks := some true

/-- A camera whose `camera_open` fails. -/
def failedOpen : OpenEnv where
  flash :=
    { hasFlash := true, openNode := none, init := none, low := none
      off := none, offAgain := none, release := none }
  cameraOpen := -1
  registerEvents := 0
  hal1Open := 0

/-- The flash stays reserved for a camera that did not open. -/
theorem halRun_keptReserved : ¬ LabelledRun.Guarded (halStep twoCameras)
      (fun hal _ event => SoundCall twoCameras hal event)
      Hal.start [] [.cameraDeviceOpen 0 failedOpen] := by
  rintro ⟨sound, -⟩
  have reserved := (sound.2 _ _ _ rfl 0 rfl).1.reserved
  obtain ⟨device, member, -⟩ := reserved.mp rfl
  cases member

end AnglerHal.FlashTorch
