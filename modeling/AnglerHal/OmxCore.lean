import AnglerHal.LabelledRun

namespace AnglerHal.OmxCore

/-!
# The component table of the OMX core

`OMX_Init` and `OMX_Deinit` count the users of one table of components.
`OMX_GetHandle` loads the library of a component with its first handle, and
`OMX_FreeHandle` unloads it with the last.  All four run under one lock, so
that a call is one step.

The libraries are not at hand: what `dlopen`, `dlsym`, the functions of a
library and `ComponentDeInit` return comes with the call.  A pointer other than
`NULL` is known by a number.  A call that reads through `NULL` or calls into a
library that is not loaded has no next state, and neither has a count of users
that an `int` cannot hold.
-/

/-! ## The table -/

/-- `OMX_COMP_MAX_INSTANCES`. -/
def compMaxInstances : Nat :=
  3

/-- `OMX_COMP_MAX_NUM`. -/
def compMaxNum : Nat :=
  3

/-- `INT_MAX`. -/
def intMax : Nat :=
  2147483647

/-- `omx_core_component_t`; `isOpen` is its field `open`. -/
structure Component where
  handle : List (Option Nat)
  isOpen : Bool
  libHandle : Option Nat
  getInstance : Option Nat
  createCompFunc : Option Nat
  compName : String
  libName : String
  deriving DecidableEq

/-- `g_comp_info`. -/
def compInfo : List (String × String) :=
  [("OMX.qcom.image.jpeg.encoder", "libqomx_jpegenc.so"),
    ("OMX.qcom.image.jpeg.decoder", "libqomx_jpegdec.so"),
    ("OMX.qcom.image.jpeg.encoder_pipeline", "libqomx_jpegenc_pipe.so")]

/--
`g_omxcore` and `g_omxcore_cnt`, and the handles that were returned and not
yet freed.
-/
structure Core where
  table : Option (List Component)
  cnt : Nat
  live : List Nat
  deriving DecidableEq

/-- Before the first call. -/
def Core.start : Core where
  table := none
  cnt := 0
  live := []

/-- `OMX_ERRORTYPE`, with what `dlclose` has returned. -/
inductive ErrorType where
  | errorNone
  | errorBadParameter
  | errorInvalidComponent
  | errorInsufficientResources
  | errorUndefined
  | dlclose (rc : Int)
  deriving DecidableEq

/-- What a call returns, and the handle that it gives out. -/
structure Answer where
  rc : ErrorType
  handle : Option Nat := none
  deriving DecidableEq

/-! ## `OMX_Init` and `OMX_Deinit` -/

/-- An entry of the new table. -/
def newComponent (info : String × String) : Component where
  handle := List.replicate compMaxInstances none
  isOpen := false
  libHandle := none
  getInstance := none
  createCompFunc := none
  compName := info.1
  libName := info.2

/-- One more user. -/
def countUp (core : Core) : Option Core :=
  if core.cnt < intMax then
    some { core with cnt := core.cnt + 1 }
  else
    none

/-- `OMX_Init`; `memory` is the outcome of `malloc`. -/
def omxInit (memory : Bool) (core : Core) : Option (Core × Answer) :=
  match core.table with
  | some _ => (countUp core).map fun next => (next, { rc := .errorNone })
  | none =>
    if compMaxNum < compInfo.length then
      some (core, { rc := .errorUndefined })
    else if memory then
      (countUp { core with table := some (compInfo.map newComponent) }).map
        fun next => (next, { rc := .errorNone })
    else
      some (core, { rc := .errorInsufficientResources })

/-- `OMX_Deinit`. -/
def omxDeinit (core : Core) : Core × Answer :=
  let freed := if core.cnt = 1 then { core with table := none } else core
  ({ freed with cnt := if freed.cnt = 0 then 0 else freed.cnt - 1 }, { rc := .errorNone })

/-! ## `OMX_GetHandle` -/

/-- `get_comp_from_list`. -/
def getCompFromList (compName : String) (table : List Component) : Option Nat :=
  table.findIdx? fun comp => comp.compName == compName

/-- `get_free_inst_idx`. -/
def getFreeInstIdx (comp : Component) : Option Nat :=
  comp.handle.findIdx? Option.isNone

/-- What the calls out of one `OMX_GetHandle` return. -/
structure GetEnv where
  dlopen : Option Nat
  createComponentFns : Option Nat
  getInstance : Option Nat
  obj : Option Nat
  comp : Option Nat
  deriving DecidableEq

/-- Both functions were found in the library. -/
def GetEnv.maps (env : GetEnv) : Bool :=
  env.createComponentFns.isSome && env.getInstance.isSome

/-- The component that the two functions make. -/
def GetEnv.made (env : GetEnv) : Option Nat :=
  env.obj.bind fun _ => env.comp

/--
The part of `OMX_GetHandle` that loads the library: the component,
`close_handle`, and whether there was no error.
-/
def loadLibrary (env : GetEnv) (comp : Component) : Component × Bool × Bool :=
  if comp.isOpen then
    (comp, false, true)
  else
    match env.dlopen with
    | none => ({ comp with libHandle := none }, false, false)
    | some lib =>
      ({ comp with
          libHandle := some lib
          isOpen := true
          createCompFunc := env.createComponentFns
          getInstance := env.getInstance }, true, env.maps)

/-- The error path of `OMX_GetHandle`. -/
def getError (closeHandle : Bool) (comp : Component) : Component :=
  if closeHandle then { comp with libHandle := none } else comp

/-- The functions of the component can be called. -/
def Component.callable (comp : Component) : Bool :=
  comp.libHandle.isSome && comp.createCompFunc.isSome && comp.getInstance.isSome

/-- `OMX_GetHandle` on a component with a free place, and the handle. -/
def createHandle (env : GetEnv) (instIdx : Nat)
    (comp : Component) : Option (Component × Option Nat) :=
  match loadLibrary env comp with
  | (loaded, closeHandle, ok) =>
    if !ok then
      some (getError closeHandle loaded, none)
    else if !loaded.callable then
      none
    else
      match env.made with
      | none => some (getError closeHandle loaded, none)
      | some made =>
        some ({ loaded with
          handle := loaded.handle.set instIdx (some made) }, some made)

/-- `OMX_GetHandle`; `out` says that `handle` is not `NULL`. -/
def omxGetHandle (out : Bool) (componentName : Option String) (env : GetEnv)
    (core : Core) : Option (Core × Answer) :=
  if !out then
    some (core, { rc := .errorBadParameter })
  else
    match componentName, core.table with
    | none, _ => some (core, { rc := .errorInvalidComponent })
    | some _, none => none
    | some name, some table =>
      match getCompFromList name table with
      | none => some (core, { rc := .errorInvalidComponent })
      | some compIdx =>
        match table[compIdx]? with
        | none => none
        | some comp =>
          match getFreeInstIdx comp with
          | none => some (core, { rc := .errorInvalidComponent })
          | some instIdx =>
            match createHandle env instIdx comp with
            | none => none
            | some (changed, none) =>
              some ({ core with
                table := some (table.set compIdx changed) },
                { rc := .errorInvalidComponent })
            | some (changed, some made) =>
              some ({ core with
                table := some (table.set compIdx changed)
                live := core.live ++ [made] },
                { rc := .errorNone, handle := some made })

/-! ## `OMX_FreeHandle` -/

/-- `get_idx_from_handle`. -/
def getIdxFromHandle (hComp : Nat) : List Component → Option (Nat × Nat)
  | [] => none
  | comp :: rest =>
    match comp.handle.findIdx? fun slot => slot == some hComp with
    | some instIdx => some (0, instIdx)
    | none =>
      (getIdxFromHandle hComp rest).map fun found =>
        (found.1 + 1, found.2)

/-- `is_comp_active`. -/
def isCompActive (comp : Component) : Bool :=
  comp.handle.any Option.isSome

/-- Take a handle out, and close the library behind the last one. -/
def releaseHandle (instIdx : Nat) (comp : Component) : Component :=
  let released := { comp with handle := comp.handle.set instIdx none }
  if isCompActive released then
    released
  else
    { released with
        libHandle := none
        getInstance := none
        createCompFunc := none
        isOpen := false }

/-- `OMX_FreeHandle`; `deInit` is the success of `ComponentDeInit`. -/
def omxFreeHandle (hComp : Option Nat) (deInit : Bool) (dlcloseRc : Int)
    (core : Core) : Option (Core × Answer) :=
  match hComp, core.table with
  | none, _ => some (core, { rc := .errorBadParameter })
  | some _, none => none
  | some handle, some table =>
    match getIdxFromHandle handle table with
    | none => some (core, { rc := .errorInvalidComponent })
    | some (compIdx, instIdx) =>
      if !deInit then
        some (core, { rc := .errorInvalidComponent })
      else
        match table[compIdx]? with
        | none => none
        | some comp =>
          some ({ core with
            table :=
              some (table.set compIdx (releaseHandle instIdx comp))
            live := core.live.erase handle },
            { rc :=
                if isCompActive (releaseHandle instIdx comp) then
                  .errorNone
                else if dlcloseRc = 0 then .errorNone
                else .dlclose dlcloseRc })

/-- The calls of the core. -/
inductive CoreEvent where
  | init (memory : Bool)
  | deinit
  | getHandle (out : Bool) (componentName : Option String) (env : GetEnv)
  | freeHandle (hComp : Option Nat) (deInit : Bool) (dlcloseRc : Int)
  deriving DecidableEq

/-- One call. -/
def coreCall (core : Core) : CoreEvent → Option (Core × Answer)
  | .init memory => omxInit memory core
  | .deinit => some (omxDeinit core)
  | .getHandle out componentName env => omxGetHandle out componentName env core
  | .freeHandle hComp deInit dlcloseRc => omxFreeHandle hComp deInit dlcloseRc core

/-- One call of a run, with its answer. -/
def coreStep (core : Core) (event : CoreEvent) : Option (Core × List Answer) :=
  (coreCall core event).map fun (next, answer) => (next, [answer])

/-! ## What the table promises -/

/-- The flag, the library and the functions of a component go together. -/
structure Component.Sound (comp : Component) : Prop where
  opened : comp.isOpen = true → comp.libHandle.isSome = true ∧ comp.createCompFunc.isSome = true ∧
        comp.getInstance.isSome = true
  closed : comp.isOpen = false → comp.libHandle = none ∧ ∀ slot ∈ comp.handle, slot = none

/-- In how many places of the table a handle is stored. -/
def storedCount (handle : Nat) : List Component → Nat
  | [] => 0
  | comp :: rest => comp.handle.count (some handle) + storedCount handle rest

/-- What is to hold after every call. -/
structure Consistent (core : Core) : Prop where
  counted : core.table.isSome = true ↔ 0 < core.cnt
  components : ∀ comp ∈ core.table.getD [], comp.Sound
  stored : ∀ handle ∈ core.live, storedCount handle (core.table.getD []) = 1

/-- A call that asks for a handle, and fails. -/
def failedGet (event : CoreEvent) (answer : Answer) : Bool :=
  match event with
  | .getHandle .. => answer.rc ≠ .errorNone
  | _ => false

/--
A call comes back, keeps the table consistent, and undoes itself when it fails.
-/
def SoundCall (core : Core) (event : CoreEvent) : Prop :=
  ∃ next answer, coreCall core event = some (next, answer) ∧ Consistent next ∧
    (failedGet event answer = true → next.table = core.table)

/-- The component that a handle is asked from, when it has a free place. -/
def Core.asked (out : Bool) (componentName : Option String) (core : Core) : Option Component :=
  if out then
    (componentName.bind fun name =>
      (getCompFromList name (core.table.getD [])).bind fun compIdx =>
        (core.table.getD [])[compIdx]?).filter fun comp =>
          (getFreeInstIdx comp).isSome
  else
    none

/--
When a call does so: the count has room for one more user, nobody leaves the
table as its last user with handles left, no component and no handle is looked
for while there is no table, and with a library that had to be loaded the rest
succeeds too, making a component that is not in use.
-/
def Careful (core : Core) : CoreEvent → Prop
  | .init _ => core.cnt < intMax
  | .deinit => core.cnt = 1 → core.live = []
  | .getHandle out componentName env =>
    (out = true → componentName.isSome = true → core.table.isSome = true) ∧
      ∀ comp, core.asked out componentName = some comp →
        comp.isOpen = true ∨ env.dlopen.isSome = true → (comp.isOpen = false →
            env.maps = true ∧ env.made.isSome = true) ∧
          ∀ made, env.made = some made → made ∉ core.live
  | .freeHandle hComp _ _ => hComp.isSome = true → core.table.isSome = true

end AnglerHal.OmxCore
