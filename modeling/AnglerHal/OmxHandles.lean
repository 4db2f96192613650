import AnglerHal.OmxCore
import Mathlib.Data.List.Nodup

namespace AnglerHal.OmxCore

/-!
# The handles of the OMX core

The error path of `OMX_GetHandle` closes a library that the call has loaded,
and leaves the component marked as open.  Everything else that a call may do to
the table keeps it consistent, as long as the last user frees its handles
first.
-/

/-! ## One component -/

/-- What a component with a free place has become. -/
inductive Created (env : GetEnv) (instIdx : Nat) (comp : Component) :
    Component × Option Nat → Prop where
  /-- The library is not found, or an open component makes nothing. -/
  | same (nothing : (comp.isOpen = false ∧ env.dlopen = none) ∨
          (comp.isOpen = true ∧ env.made = none)) :
      Created env instIdx comp (comp, none)
  /-- The library is closed again. -/
  | broken {changed : Component} (wasClosed : comp.isOpen = false)
      (loads : env.dlopen.isSome = true)
      (fails : ¬ (env.maps = true ∧ env.made.isSome = true))
      (isOpen : changed.isOpen = true)
      (noLibrary : changed.libHandle = none) :
      Created env instIdx comp (changed, none)
  /-- A handle is stored. -/
  | made {changed : Component} {handle : Nat} (isMade : env.made = some handle)
      (loads : comp.isOpen = true ∨ env.dlopen.isSome = true)
      (maps : comp.isOpen = false → env.maps = true)
      (isOpen : changed.isOpen = true)
      (callable : changed.callable = true)
      (stored : changed.handle = comp.handle.set instIdx (some handle)) :
      Created env instIdx comp (changed, some handle)

variable {comp changed : Component} {env : GetEnv} {instIdx handle compIdx made : Nat}
  {table : List Component} {core next : Core} {memory out : Bool} {answer : Answer}
  {componentName : Option String} {event : CoreEvent}

theorem Component.Sound.callable (sound : comp.Sound) (isOpen : comp.isOpen = true) :
    comp.callable = true := by
  obtain ⟨library, create, get⟩ := sound.opened isOpen
  simp [Component.callable, library, create, get]

theorem Component.Sound.loadLibrary_none (sound : comp.Sound)
    (isClosed : comp.isOpen = false) (missing : env.dlopen = none) :
    loadLibrary env comp = (comp, false, false) := by
  have noLibrary := (sound.closed isClosed).1
  cases comp with
  | mk handle isOpen libHandle getInstance createCompFunc compName libName =>
    cases noLibrary
    simp_all [loadLibrary]

/-- What the error path leaves of a component that it has loaded. -/
def leftOpen (env : GetEnv) (comp : Component) : Component :=
  { comp with
      isOpen := true
      libHandle := none
      getInstance := env.getInstance
      createCompFunc := env.createComponentFns }

theorem createHandle_created {env : GetEnv} {instIdx : Nat} {comp : Component}
    (sound : comp.Sound) :
    ∃ result, createHandle env instIdx comp = some result ∧
        Created env instIdx comp result := by
  cases isOpen : comp.isOpen with
  | true =>
    have callable := sound.callable isOpen
    cases isMade : env.made with
    | none =>
      refine ⟨(comp, none), ?_, .same (.inr ⟨isOpen, isMade⟩)⟩
      simp [createHandle, loadLibrary, isOpen, callable, isMade, getError]
    | some handle =>
      refine ⟨({ comp with
        handle := comp.handle.set instIdx (some handle) }, some handle),
        ?_, .made isMade (.inl isOpen) (by simp [isOpen]) isOpen callable rfl⟩
      simp [createHandle, loadLibrary, isOpen, callable, isMade]
  | false =>
    cases loads : env.dlopen with
    | none =>
      refine ⟨(comp, none), ?_, .same (.inl ⟨isOpen, loads⟩)⟩
      simp [createHandle, sound.loadLibrary_none isOpen loads, getError]
    | some lib =>
      have loaded : env.dlopen.isSome = true := by simp [loads]
      cases maps : env.maps with
      | false =>
        refine ⟨(leftOpen env comp, none), ?_, .broken isOpen loaded (by simp [maps]) rfl rfl⟩
        simp [createHandle, loadLibrary, isOpen, loads, maps, getError, leftOpen]
      | true =>
        have found := maps
        simp only [GetEnv.maps, Bool.and_eq_true] at found
        cases isMade : env.made with
        | none =>
          refine ⟨(leftOpen env comp, none), ?_, .broken isOpen loaded (by simp [isMade]) rfl rfl⟩
          simp [createHandle, loadLibrary, isOpen, loads, maps,
            getError, leftOpen, Component.callable, found, isMade]
        | some handle =>
          refine ⟨({ comp with
              handle := comp.handle.set instIdx (some handle)
              isOpen := true
              libHandle := some lib
              getInstance := env.getInstance
              createCompFunc := env.createComponentFns },
            some handle), ?_,
            .made isMade (.inr loaded) (fun _ => maps) rfl ?_ rfl⟩
          · simp [createHandle, loadLibrary, isOpen, loads, maps, Component.callable, found, isMade]
          · simp [Component.callable, found]

/-! ## The whole table -/

theorem storedCount_set {table : List Component} {comp changed : Component}
    {compIdx : Nat} (handle : Nat) (found : table[compIdx]? = some comp) :
    storedCount handle (table.set compIdx changed) + comp.handle.count (some handle) =
      storedCount handle table + changed.handle.count (some handle) := by
  induction table generalizing compIdx with
  | nil => simp at found
  | cons first rest inductionHypothesis =>
    cases compIdx with
    | zero =>
      cases found
      simp only [List.set_cons_zero, storedCount]
      omega
    | succ previous =>
      have later := @inductionHypothesis previous found
      simp only [List.set_cons_succ, storedCount]
      omega

theorem count_set_free {places : List (Option Nat)} {instIdx made : Nat} (handle : Nat)
    (free : places[instIdx]? = some none) :
    (places.set instIdx (some made)).count (some handle) =
      places.count (some handle) + if made = handle then 1 else 0 := by
  obtain ⟨inRange, isNone⟩ := List.getElem?_eq_some_iff.mp free
  rw [List.count_set inRange, isNone]
  simp

theorem count_set_taken {places : List (Option Nat)} {taken : Nat} (handle : Nat)
    (held : places[instIdx]? = some (some taken)) :
    (places.set instIdx none).count (some handle) + (if taken = handle then 1 else 0) =
      places.count (some handle) := by
  obtain ⟨inRange, isTaken⟩ := List.getElem?_eq_some_iff.mp held
  rw [List.count_set inRange, isTaken]
  by_cases same : taken = handle
  · have present : 0 < places.count (some handle) :=
      List.count_pos_iff.mpr (same ▸ List.mem_of_getElem? held)
    simp only [same, BEq.rfl, if_true]
    simp
    omega
  · simp [same]

theorem getFreeInstIdx_some (found : getFreeInstIdx comp = some instIdx) :
    comp.handle[instIdx]? = some none := by
  obtain ⟨inRange, isNone, -⟩ := List.findIdx?_eq_some_iff_getElem.mp found
  rw [List.getElem?_eq_getElem inRange]
  simpa using isNone

theorem getIdxFromHandle_some
    (found : getIdxFromHandle handle table = some (compIdx, instIdx)) :
    ∃ comp, table[compIdx]? = some comp ∧ comp.handle[instIdx]? = some (some handle) := by
  induction table generalizing compIdx with
  | nil => cases found
  | cons first rest inductionHypothesis =>
    simp only [getIdxFromHandle] at found
    split at found
    · rename_i place held
      obtain ⟨inRange, isHandle, -⟩ := List.findIdx?_eq_some_iff_getElem.mp held
      cases found
      refine ⟨first, rfl, ?_⟩
      rw [List.getElem?_eq_getElem inRange]
      simpa using isHandle
    · obtain ⟨⟨previous, place⟩, later, shifted⟩ := Option.map_eq_some_iff.mp found
      cases shifted
      exact inductionHypothesis later

/-! ## The invariant -/

/-- The table is consistent, and it stores nothing else than live handles. -/
structure Inv (core : Core) : Prop where
  consistent : Consistent core
  known : ∀ handle, 0 < storedCount handle (core.table.getD []) → handle ∈ core.live
  once : core.live.Nodup

theorem Inv.live_of_noTable (inv : Inv core) (noTable : core.table = none) :
    core.live = [] := by
  refine List.eq_nil_iff_forall_not_mem.mpr fun handle member => ?_
  have stored := inv.consistent.stored handle member
  simp [noTable, storedCount] at stored

theorem newComponent_sound (info : String × String) : (newComponent info).Sound where
  opened := by
    intro isOpen
    cases isOpen
  closed := by
    intro _
    exact ⟨rfl, fun slot member => List.eq_of_mem_replicate member⟩

theorem storedCount_new (handle : Nat) (infos : List (String × String)) :
    storedCount handle (infos.map newComponent) = 0 := by
  induction infos with
  | nil => rfl
  | cons first rest inductionHypothesis =>
    simp [storedCount, newComponent, List.count_replicate, inductionHypothesis]

theorem Core.start_inv : Inv Core.start where
  consistent :=
    { counted := by simp [Core.start]
      components := by simp [Core.start]
      stored := by simp [Core.start] }
  known := by simp [Core.start, storedCount]
  once := by simp [Core.start]

/-! ## `OMX_Init` and `OMX_Deinit` -/

theorem countUp_some (counted : countUp core = some next) :
    next = { core with cnt := core.cnt + 1 } := by
  simp only [countUp] at counted
  split at counted
  · simpa using counted.symm
  · cases counted

theorem omxInit_inv (inv : Inv core)
    (stepped : omxInit memory core = some (next, answer)) :
    Inv next := by
  simp only [omxInit] at stepped
  cases present : core.table with
  | some table =>
    simp only [present, Option.map_eq_some_iff, Prod.mk.injEq] at stepped
    obtain ⟨more, counted, rfl, -⟩ := stepped
    rw [countUp_some counted]
    exact { inv with
      consistent := { inv.consistent with
        counted := by simp [present] } }
  | none =>
    have noHandles := inv.live_of_noTable present
    simp only [present, compMaxNum, compInfo, List.length_cons,
      List.length_nil, Nat.reduceAdd, Nat.lt_irrefl, if_false] at stepped
    split at stepped
    · simp only [Option.map_eq_some_iff, Prod.mk.injEq] at stepped
      obtain ⟨more, counted, rfl, -⟩ := stepped
      rw [countUp_some counted]
      refine ⟨⟨by simp, ?_, by simp [noHandles]⟩, ?_, inv.once⟩
      · intro comp member
        obtain ⟨info, -, rfl⟩ := List.mem_map.mp member
        exact newComponent_sound info
      · intro handle stored
        have nothing := storedCount_new handle compInfo
        simp only [Option.getD_some] at stored
        exact absurd nothing (Nat.ne_of_gt stored)
    · cases stepped
      exact inv

theorem omxInit_returns {memory : Bool} {core : Core} (room : core.cnt < intMax) :
    ∃ result, omxInit memory core = some result := by
  simp only [omxInit, countUp]
  cases core.table with
  | some table => simp [room]
  | none => cases memory <;> simp [room, compMaxNum, compInfo]

/-- With the largest count there is a table, and one more user does not fit. -/
theorem omxInit_room (inv : Inv core)
    (stepped : omxInit memory core = some (next, answer)) :
    core.cnt < intMax := by
  by_contra full
  have many : 0 < core.cnt := by
    simp only [intMax] at full
    omega
  obtain ⟨table, present⟩ := Option.isSome_iff_exists.mp (inv.consistent.counted.mpr many)
  simp [omxInit, present, countUp, full] at stepped

theorem omxDeinit_inv (inv : Inv core) (freed : core.cnt = 1 → core.live = []) :
    Inv (omxDeinit core).1 := by
  by_cases last : core.cnt = 1
  · simp only [omxDeinit, last, if_true]
    exact
      { consistent :=
          { counted := by simp
            components := by simp
            stored := by simp [freed last] }
        known := by simp [storedCount]
        once := inv.once }
  · simp only [omxDeinit, last, if_false]
    have counted := inv.consistent.counted
    refine { inv with consistent := { inv.consistent with counted := ?_ } }
    dsimp only
    rw [counted]
    split <;> omega

theorem omxDeinit_lost (last : core.cnt = 1) (left : handle ∈ core.live) :
    ¬ Consistent (omxDeinit core).1 := by
  intro consistent
  have stored := consistent.stored handle
  simp [omxDeinit, last, left, storedCount] at stored

/-! ## `OMX_GetHandle` -/

/-- The table and the handles after a component was asked. -/
def handOut (core : Core) (table : List Component) (compIdx : Nat)
    (result : Component × Option Nat) : Core :=
  { core with
      table := some (table.set compIdx result.1)
      live := core.live ++ result.2.toList }

theorem omxGetHandle_notAsked {out : Bool} {componentName : Option String}
    {env : GetEnv} {core : Core} (notAsked : core.asked out componentName = none)
    (hasTable : out = true → componentName.isSome = true → core.table.isSome = true) :
    ∃ answer, omxGetHandle out componentName env core = some (core, answer) := by
  cases out with
  | false => exact ⟨_, rfl⟩
  | true =>
    simp only [omxGetHandle, Bool.not_true, Bool.false_eq_true, if_false]
    cases componentName with
    | none => exact ⟨_, rfl⟩
    | some name =>
      obtain ⟨table, present⟩ := Option.isSome_iff_exists.mp (hasTable rfl rfl)
      simp only [present]
      cases named : getCompFromList name table with
      | none => exact ⟨_, rfl⟩
      | some compIdx =>
        obtain ⟨inRange, -⟩ := List.findIdx?_eq_some_iff_getElem.mp named
        have found := List.getElem?_eq_getElem inRange
        simp only [Core.asked, if_true, Option.bind_some, present, Option.getD_some, named, found,
          Option.filter_some] at notAsked
        cases free : getFreeInstIdx table[compIdx] with
        | none => exact ⟨{ rc := .errorInvalidComponent }, by simp [found, free]⟩
        | some instIdx => simp [free] at notAsked

/-- A name is only looked for in a table. -/
theorem omxGetHandle_table
    (stepped : omxGetHandle out componentName env core = some (next, answer))
    (isOut : out = true) (isNamed : componentName.isSome = true) :
    core.table.isSome = true := by
  obtain ⟨name, rfl⟩ := Option.isSome_iff_exists.mp isNamed
  cases present : core.table with
  | some table => rfl
  | none => simp [omxGetHandle, isOut, present] at stepped

theorem omxGetHandle_asked {out : Bool} {componentName : Option String} {env : GetEnv}
    {core : Core} {comp : Component} (asked : core.asked out componentName = some comp) :
    ∃ table compIdx instIdx, core.table = some table ∧ table[compIdx]? = some comp ∧
        comp.handle[instIdx]? = some none ∧
        ∀ result, createHandle env instIdx comp = some result → ∃ answer,
              omxGetHandle out componentName env core =
                some (handOut core table compIdx result, answer) ∧
              (answer.rc = .errorNone ↔ result.2.isSome = true) := by
  cases out with
  | false => cases asked
  | true =>
    simp only [Core.asked, if_true, Option.filter_eq_some_iff, Option.bind_eq_some_iff] at asked
    obtain ⟨⟨name, rfl, compIdx, named, found⟩, hasFree⟩ := asked
    obtain ⟨instIdx, free⟩ := Option.isSome_iff_exists.mp hasFree
    cases present : core.table with
    | none => simp [present] at found
    | some table =>
      simp only [present, Option.getD_some] at named found
      refine ⟨table, compIdx, instIdx, rfl, found, getFreeInstIdx_some free, ?_⟩
      rintro ⟨changed, made⟩ created
      simp only [omxGetHandle, Bool.not_true, Bool.false_eq_true,
        if_false, present, named, found, free, created, handOut]
      cases made with
      | none => exact ⟨{ rc := .errorInvalidComponent }, by simp, by simp⟩
      | some made => exact ⟨_, rfl, by simp⟩

theorem handOut_same (present : core.table = some table)
    (found : table[compIdx]? = some comp) :
    handOut core table compIdx (comp, none) = core := by
  obtain ⟨inRange, rfl⟩ := List.getElem?_eq_some_iff.mp found
  cases core
  simp_all [handOut]

theorem handOut_broken (found : table[compIdx]? = some comp)
    (isOpen : changed.isOpen = true) (noLibrary : changed.libHandle = none) :
    ¬ Consistent (handOut core table compIdx (changed, none)) := by
  intro consistent
  obtain ⟨inRange, -⟩ := List.getElem?_eq_some_iff.mp found
  have member : changed ∈ table.set compIdx changed := List.mem_set inRange changed
  have library := ((consistent.components changed member).opened isOpen).1
  simp [noLibrary] at library

theorem storedCount_handOut (handle : Nat) (found : table[compIdx]? = some comp)
    (free : comp.handle[instIdx]? = some none)
    (stored : changed.handle = comp.handle.set instIdx (some made)) :
    storedCount handle (table.set compIdx changed) =
      storedCount handle table + if made = handle then 1 else 0 := by
  have moved := @storedCount_set table comp changed compIdx handle found
  have added := @count_set_free comp.handle instIdx made handle free
  rw [← stored] at added
  omega

theorem handOut_inv (inv : Inv core) (present : core.table = some table)
    (found : table[compIdx]? = some comp) (free : comp.handle[instIdx]? = some none)
    (isOpen : changed.isOpen = true) (callable : changed.callable = true)
    (stored : changed.handle = comp.handle.set instIdx (some made))
    (fresh : made ∉ core.live) :
    Inv (handOut core table compIdx (changed, some made)) := by
  obtain ⟨⟨counted, components, storedOnce⟩, known, once⟩ := inv
  simp only [present, Option.getD_some] at components storedOnce known
  have count := fun handle => storedCount_handOut handle found free stored
  refine ⟨⟨by simpa [handOut, present] using counted, ?_, ?_⟩, ?_, ?_⟩
  · intro other member
    simp only [handOut, Option.getD_some] at member
    rcases List.mem_or_eq_of_mem_set member with old | rfl
    · exact components other old
    · simp only [Component.callable, Bool.and_eq_true] at callable
      exact ⟨fun _ => ⟨callable.1.1, callable.1.2, callable.2⟩,
        fun isClosed => by simp [isOpen] at isClosed⟩
  · intro handle member
    simp only [handOut, Option.getD_some, Option.toList_some,
      List.mem_append, List.mem_singleton] at member ⊢
    rw [count]
    by_cases same : made = handle
    · have unknown : ¬ 0 < storedCount handle table :=
        fun isStored => fresh (same ▸ known handle isStored)
      simp only [same, if_true]
      omega
    · simp only [same, if_false, Nat.add_zero]
      exact storedOnce handle (member.resolve_right fun equal => same equal.symm)
  · intro handle isStored
    simp only [handOut, Option.getD_some, Option.toList_some,
      List.mem_append, List.mem_singleton] at isStored ⊢
    rw [count] at isStored
    by_cases same : made = handle
    · exact .inr same.symm
    · simp only [same, if_false, Nat.add_zero] at isStored
      exact .inl (known handle isStored)
  · simp only [handOut, Option.toList_some]
    refine List.nodup_append.mpr ⟨once, List.nodup_singleton made, ?_⟩
    intro handle member other isMade equal
    exact fresh (by simp_all)

theorem handOut_twice (inv : Inv core) (present : core.table = some table)
    (found : table[compIdx]? = some comp) (free : comp.handle[instIdx]? = some none)
    (stored : changed.handle = comp.handle.set instIdx (some made))
    (used : made ∈ core.live) :
    ¬ Consistent (handOut core table compIdx (changed, some made)) := by
  intro consistent
  have before := inv.consistent.stored made used
  have after := consistent.stored made (by simp [handOut])
  simp only [present, handOut, Option.getD_some] at before after
  rw [storedCount_handOut made found free stored, before] at after
  simp at after

theorem omxGetHandle_sound (inv : Inv core)
    (careful : Careful core (.getHandle out componentName env)) :
    ∃ next answer, omxGetHandle out componentName env core = some (next, answer) ∧ Inv next ∧
      (answer.rc ≠ .errorNone → next.table = core.table) := by
  obtain ⟨hasTable, loads⟩ := careful
  cases asked : core.asked out componentName with
  | none =>
    obtain ⟨answer, call⟩ := @omxGetHandle_notAsked out componentName env core asked hasTable
    exact ⟨core, answer, call, inv, fun _ => rfl⟩
  | some comp =>
    obtain ⟨table, compIdx, instIdx, present, found, free, calls⟩ :=
      @omxGetHandle_asked out componentName env core comp asked
    have sound : comp.Sound :=
      inv.consistent.components comp (by simpa [present] using List.mem_of_getElem? found)
    obtain ⟨result, created, changes⟩ := @createHandle_created env instIdx comp sound
    obtain ⟨answer, call, fine⟩ := calls result created
    refine ⟨_, answer, call, ?_⟩
    cases changes with
    | same _ =>
      rw [handOut_same present found]
      exact ⟨inv, fun _ => rfl⟩
    | broken wasClosed loaded fails _ _ =>
      have needed := loads comp asked (.inr loaded)
      exact absurd (needed.1 wasClosed) fails
    | made isMade loaded _ isOpen callable stored =>
      have needed := loads comp asked loaded
      refine ⟨handOut_inv inv present found free isOpen callable stored
        (needed.2 _ isMade), fun failed => ?_⟩
      exact absurd (fine.mpr rfl) failed

theorem omxGetHandle_careful (inv : Inv core)
    (stepped : omxGetHandle out componentName env core = some (next, answer))
    (consistent : Consistent next) :
    Careful core (.getHandle out componentName env) := by
  refine ⟨omxGetHandle_table stepped, ?_⟩
  intro comp asked loadable
  obtain ⟨table, compIdx, instIdx, present, found, free, calls⟩ :=
    @omxGetHandle_asked out componentName env core comp asked
  have soundComp : comp.Sound :=
    inv.consistent.components comp (by simpa [present] using List.mem_of_getElem? found)
  obtain ⟨result, created, changes⟩ := @createHandle_created env instIdx comp soundComp
  obtain ⟨given, call, -⟩ := calls result created
  rw [stepped] at call
  cases call
  cases changes with
  | same nothing =>
    rcases nothing with ⟨isClosed, missing⟩ | ⟨isOpen, unmade⟩
    · simp [isClosed, missing] at loadable
    · exact ⟨fun isClosed => by simp [isOpen] at isClosed,
        fun made isMade => by simp [unmade] at isMade⟩
  | broken _ _ _ isOpen noLibrary => exact absurd consistent (handOut_broken found isOpen noLibrary)
  | made isMade _ maps _ _ stored =>
    refine ⟨fun isClosed => ⟨maps isClosed, by simp [isMade]⟩, ?_⟩
    intro made isMade' used
    rw [isMade] at isMade'
    cases isMade'
    exact handOut_twice inv present found free stored used consistent

/-! ## `OMX_FreeHandle` -/

theorem releaseHandle_sound (sound : comp.Sound)
    (held : comp.handle[instIdx]? = some (some handle)) :
    (releaseHandle instIdx comp).Sound := by
  have isOpen : comp.isOpen = true := by
    by_contra isClosed
    have empty := (sound.closed (by simpa using isClosed)).2 _ (List.mem_of_getElem? held)
    cases empty
  simp only [releaseHandle]
  split
  · exact ⟨sound.opened, fun isClosed => by simp [isOpen] at isClosed⟩
  · rename_i inactive
    refine ⟨(by simp), fun _ => ⟨rfl, ?_⟩⟩
    intro slot member
    simp only [isCompActive, List.any_eq_true, not_exists, not_and,
      Bool.not_eq_true, Option.isSome_eq_false_iff] at inactive
    simpa using inactive slot member

theorem releaseHandle_handle (instIdx : Nat) (comp : Component) :
    (releaseHandle instIdx comp).handle = comp.handle.set instIdx none := by
  simp only [releaseHandle]
  split <;> rfl

theorem release_inv (inv : Inv core) (present : core.table = some table)
    (found : table[compIdx]? = some comp)
    (held : comp.handle[instIdx]? = some (some handle)) :
    Inv { core with
        table := some (table.set compIdx (releaseHandle instIdx comp))
        live := core.live.erase handle } := by
  obtain ⟨⟨counted, components, storedOnce⟩, known, once⟩ := inv
  simp only [present, Option.getD_some] at components storedOnce known
  have count : ∀ other, storedCount other (table.set compIdx (releaseHandle instIdx comp)) +
            (if handle = other then 1 else 0) =
          storedCount other table := by
    intro other
    have moved := @storedCount_set table comp (releaseHandle instIdx comp) compIdx other found
    have removed := count_set_taken other held
    rw [releaseHandle_handle] at moved
    omega
  refine ⟨⟨by simpa [present] using counted, ?_, ?_⟩, ?_, once.erase handle⟩
  · intro other member
    simp only [Option.getD_some] at member
    rcases List.mem_or_eq_of_mem_set member with old | rfl
    · exact components other old
    · exact releaseHandle_sound (components comp (List.mem_of_getElem? found)) held
  · intro other member
    obtain ⟨different, isLive⟩ := once.mem_erase_iff.mp member
    have before := storedOnce other isLive
    have apart : ¬ handle = other := fun equal => different equal.symm
    have after := count other
    simp only [apart, if_false, Nat.add_zero] at after
    simp only [Option.getD_some]
    omega
  · intro other isStored
    simp only [Option.getD_some] at isStored
    have after := count other
    refine once.mem_erase_iff.mpr ⟨?_, known other (by omega)⟩
    rintro rfl
    have before := storedOnce other (known other (by omega))
    simp only [if_true] at after
    omega

theorem omxFreeHandle_inv {hComp : Option Nat} {deInit : Bool} {dlcloseRc : Int} {core : Core}
    (inv : Inv core)
    (hasTable : hComp.isSome = true → core.table.isSome = true) :
    ∃ next answer, omxFreeHandle hComp deInit dlcloseRc core = some (next, answer) ∧ Inv next := by
  cases hComp with
  | none => exact ⟨core, _, rfl, inv⟩
  | some handle =>
    obtain ⟨table, present⟩ := Option.isSome_iff_exists.mp (hasTable rfl)
    simp only [omxFreeHandle, present]
    cases located : getIdxFromHandle handle table with
    | none => exact ⟨core, _, rfl, inv⟩
    | some places =>
      obtain ⟨compIdx, instIdx⟩ := places
      obtain ⟨comp, found, held⟩ := getIdxFromHandle_some located
      cases deInit with
      | false => exact ⟨core, _, rfl, inv⟩
      | true =>
        simp only [found]
        exact ⟨_, _, rfl, release_inv inv present found held⟩

/-- A handle is only looked for in a table. -/
theorem omxFreeHandle_table {hComp : Option Nat} {deInit : Bool} {dlcloseRc : Int}
    (stepped : omxFreeHandle hComp deInit dlcloseRc core = some (next, answer))
    (isHandle : hComp.isSome = true) :
    core.table.isSome = true := by
  obtain ⟨handle, rfl⟩ := Option.isSome_iff_exists.mp isHandle
  cases present : core.table with
  | some table => rfl
  | none => simp [omxFreeHandle, present] at stepped

/-! ## Runs -/

theorem coreCall_sound (inv : Inv core) (careful : Careful core event) :
    ∃ next answer, coreCall core event = some (next, answer) ∧ Inv next ∧
      (failedGet event answer = true → next.table = core.table) := by
  cases event with
  | init memory =>
    obtain ⟨⟨next, answer⟩, called⟩ := @omxInit_returns memory core careful
    exact ⟨next, answer, called, omxInit_inv inv called, by simp [failedGet]⟩
  | deinit => exact ⟨_, _, rfl, omxDeinit_inv inv careful, by simp [failedGet]⟩
  | getHandle out componentName env =>
    obtain ⟨next, answer, called, kept, undone⟩ := omxGetHandle_sound inv careful
    exact ⟨next, answer, called, kept, fun failed => undone (by simpa [failedGet] using failed)⟩
  | freeHandle hComp deInit dlcloseRc =>
    obtain ⟨next, answer, called, kept⟩ :=
      @omxFreeHandle_inv hComp deInit dlcloseRc core inv careful
    exact ⟨next, answer, called, kept, by simp [failedGet]⟩

theorem soundCall_iff_careful (inv : Inv core) :
    SoundCall core event ↔ Careful core event := by
  constructor
  · rintro ⟨next, answer, called, consistent, -⟩
    cases event with
    | init memory => exact omxInit_room inv called
    | deinit =>
      intro last
      refine List.eq_nil_iff_forall_not_mem.mpr fun handle left => ?_
      cases called
      exact omxDeinit_lost last left consistent
    | getHandle out componentName env => exact omxGetHandle_careful inv called consistent
    | freeHandle hComp deInit dlcloseRc => exact omxFreeHandle_table called
  · intro careful
    obtain ⟨next, answer, called, kept, undone⟩ := coreCall_sound inv careful
    exact ⟨next, answer, called, kept.consistent, undone⟩

/--
In every run from the start, all calls come back, keep the table consistent and
undo themselves when a handle is not handed out, just when all calls are careful.
-/
theorem coreRun_sound_iff (events : List CoreEvent) :
    LabelledRun.Guarded coreStep (fun core _ event => SoundCall core event) Core.start [] events ↔
      LabelledRun.Guarded coreStep (fun core _ event => Careful core event)
        Core.start [] events := by
  refine LabelledRun.guarded_iff_of_invariant Inv
    (fun inv => soundCall_iff_careful inv) ?_ Core.start_inv
  intro core _ event next _ inv sound stepped
  simp only [coreStep, Option.map_eq_some_iff, Prod.mk.injEq] at stepped
  obtain ⟨⟨after, answer⟩, called, rfl, -⟩ := stepped
  obtain ⟨reached, given, call, kept, -⟩ :=
    coreCall_sound inv ((soundCall_iff_careful inv).mp sound)
  rw [called] at call
  cases call
  exact kept

/-- A library that is found and makes no encoder. -/
def emptyLibrary : GetEnv where
  dlopen := some 1
  createComponentFns := some 2
  getInstance := some 3
  obj := none
  comp := none

/-- The encoder is asked for, and its object cannot be created. -/
def failedEncoder : List CoreEvent :=
  [.init true, .getHandle true (some "OMX.qcom.image.jpeg.encoder") emptyLibrary]

/-- The encoder stays open without its library. -/
theorem coreRun_leftOpen : ¬ LabelledRun.Guarded coreStep (fun core _ event => SoundCall core event)
      Core.start [] failedEncoder := by
  rintro ⟨-, later⟩
  obtain ⟨⟨next, answer, called, consistent, -⟩, -⟩ := later _ _ rfl
  cases called
  have library := ((consistent.components _ (List.mem_cons_self ..)).opened rfl).1
  cases library

end AnglerHal.OmxCore
