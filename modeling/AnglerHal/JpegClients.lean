import AnglerHal.LabelledRun

namespace AnglerHal.Jpeg

/-!
# The client table of the JPEG interface

`jpeg_open` creates the JPEG object on the first open and takes a slot of its
client table; `mm_jpeg_intf_close` clears the slot of a handle and tears the
object down when the count of clients reaches zero.  A handle is a generation
number with the slot's index in its low byte.  Both functions run under one
lock.

The close looks at the index only and counts a client off whatever the result
is.  `closesCurrent` is the condition that a close names a client that is open
under exactly this handle.
-/

/-- `MAX_JPEG_CLIENT_NUM`. -/
def maxJpegClientNum : Nat :=
  8

/-- The fields of `mm_jpeg_client_t` that opening and closing use. -/
structure JpegClient where
  isUsed : Bool
  clientHandle : Nat
  deriving DecidableEq

/-- A client slot after `memset`. -/
def JpegClient.zero : JpegClient where
  isUsed := false
  clientHandle := 0

/-- The fields of `mm_jpeg_obj` that opening and closing use. -/
structure JpegObj where
  numClients : Int
  clntMgr : List JpegClient
  deriving DecidableEq

/-- A JPEG object after `memset` and `mm_jpeg_init`. -/
def JpegObj.zero : JpegObj where
  numClients := 0
  clntMgr := List.replicate maxJpegClientNum JpegClient.zero

/-- The globals of the interface. -/
structure JpegIntf where
  gJpegObj : Option JpegObj
  gHandlerHistoryCount : Nat
  deriving DecidableEq

/-- The calls on the interface, with the outcomes of what they call. -/
inductive JpegCall where
  | jpegOpen (memory : Bool) (initRc : Int)
  | close (clientHdl : Nat) (deinitRc : Int)
  deriving DecidableEq

/-- The results of the calls: a handle or a return code. -/
inductive JpegAnswer where
  | handle (clientHdl : Nat)
  | rc (value : Int)
  deriving DecidableEq

/-- The next generation number of `mm_jpeg_util_generate_handler`. -/
def nextHistoryCount (count : Nat) : Nat :=
  if (count + 1) % 65536 = 0 then 1 else (count + 1) % 65536

/-- `(handler << 8) | index`, for an index of one byte. -/
def makeHandler (count index : Nat) : Nat :=
  count * 256 + index

/-- `mm_jpeg_util_get_index_by_handler`. -/
def getIndexByHandler (handler : Nat) : Nat :=
  handler % 256

/-- `mm_jpeg_new_client`; a failure gives the handle `0`. -/
def newClient (count : Nat) (obj : JpegObj) : JpegObj × Nat × Nat :=
  if (maxJpegClientNum : Int) ≤ obj.numClients then
    (obj, count, 0)
  else
    match obj.clntMgr.findIdx? fun client => !client.isUsed with
    | none => (obj, count, 0)
    | some index =>
      let generation := nextHistoryCount count
      ({ numClients := obj.numClients + 1
         clntMgr := obj.clntMgr.set index {
           isUsed := true
           clientHandle := makeHandler generation index } },
        generation, makeHandler generation index)

/-- `jpeg_open`. -/
def jpegOpen (memory : Bool) (initRc : Int) (intf : JpegIntf) : JpegIntf × List JpegAnswer :=
  match intf.gJpegObj, memory && initRc == 0 with
  | none, false => (intf, [.handle 0])
  | opened, _ =>
    match newClient intf.gHandlerHistoryCount (opened.getD JpegObj.zero) with
    | (obj, count, clientHdl) =>
      if 0 < clientHdl then
        ({ gJpegObj := some obj, gHandlerHistoryCount := count }, [.handle clientHdl])
      else
        ({ gJpegObj := if obj.numClients = 0 then none else some obj
           gHandlerHistoryCount := count }, [.handle 0])

/-- `mm_jpeg_close`. -/
def jpegClose (clientHdl : Nat) (obj : JpegObj) : JpegObj × Int :=
  if maxJpegClientNum ≤ getIndexByHandler clientHdl then
    (obj, -1)
  else
    ({ obj with
        clntMgr :=
          obj.clntMgr.set (getIndexByHandler clientHdl) JpegClient.zero }, 0)

/-- `mm_jpeg_intf_close`. -/
def intfClose (clientHdl : Nat) (deinitRc : Int) (intf : JpegIntf) : JpegIntf × List JpegAnswer :=
  if clientHdl = 0 then
    (intf, [.rc (-1)])
  else
    match intf.gJpegObj with
    | none => (intf, [.rc (-1)])
    | some obj =>
      match jpegClose clientHdl obj with
      | (closed, rc) =>
        let counted := { closed with numClients := closed.numClients - 1 }
        if rc = 0 ∧ counted.numClients = 0 then
          ({ intf with gJpegObj := none }, [.rc deinitRc])
        else
          ({ intf with gJpegObj := some counted }, [.rc rc])

/-- What one call does. -/
def callResult (intf : JpegIntf) : JpegCall → JpegIntf × List JpegAnswer
  | .jpegOpen memory initRc => jpegOpen memory initRc intf
  | .close clientHdl deinitRc => intfClose clientHdl deinitRc intf

/-- One call; every call returns. -/
def jpegStep (intf : JpegIntf) (call : JpegCall) : Option (JpegIntf × List JpegAnswer) :=
  some (callResult intf call)

/-! ## What the table promises -/

/-- The slots in use. -/
def openClients (intf : JpegIntf) : Nat :=
  match intf.gJpegObj with
  | none => 0
  | some obj => obj.clntMgr.countP JpegClient.isUsed

/-- The handle is the current one of an open client. -/
def isCurrent (intf : JpegIntf) (clientHdl : Nat) : Bool :=
  match intf.gJpegObj with
  | none => false
  | some obj =>
    match obj.clntMgr[getIndexByHandler clientHdl]? with
    | none => false
    | some client => client.isUsed && client.clientHandle == clientHdl

/-- The count is the number of used slots, and the object exists for them. -/
structure TableOk (intf : JpegIntf) : Prop where
  numClients : ∀ obj, intf.gJpegObj = some obj → obj.numClients = openClients intf
  exists_iff : intf.gJpegObj.isSome = true ↔ 0 < openClients intf

/-- What one call has to do. -/
structure CallOk (intf : JpegIntf) (call : JpegCall) : Prop where
  table : ∀ next answers, jpegStep intf call = some (next, answers) → TableOk next
  refused : ∀ clientHdl deinitRc, call = .close clientHdl deinitRc →
      isCurrent intf clientHdl = false →
      ∃ rc, rc ≠ 0 ∧ jpegStep intf call = some (intf, [.rc rc])
  tornDown : ∀ next answers, jpegStep intf call = some (next, answers) →
      intf.gJpegObj.isSome = true → next.gJpegObj = none →
      ∃ clientHdl deinitRc, call = .close clientHdl deinitRc ∧
          isCurrent intf clientHdl = true ∧ openClients intf = 1

/--
A close names a client that is open under this handle, unless the handle is
zero or nothing is open at all.
-/
def closesCurrent (intf : JpegIntf) : JpegCall → Bool
  | .jpegOpen _ _ => true
  | .close clientHdl _ => clientHdl == 0 || intf.gJpegObj.isNone || isCurrent intf clientHdl

/-- The table between calls: well sized, with real handles, and as promised. -/
structure TableInvariant (intf : JpegIntf) : Prop where
  size : ∀ obj, intf.gJpegObj = some obj → obj.clntMgr.length = maxJpegClientNum
  handles : ∀ obj, intf.gJpegObj = some obj → ∀ client ∈ obj.clntMgr,
        client.isUsed = true → client.clientHandle ≠ 0
  ok : TableOk intf

/-! ## One call -/

variable {clntMgr : List JpegClient} {index clientHdl count : Nat} {obj : JpegObj}
  {intf next : JpegIntf} {call : JpegCall} {answers : List JpegAnswer}

theorem countP_take
    (free : clntMgr.findIdx? (fun client => !client.isUsed) = some index) :
    (clntMgr.set index { isUsed := true, clientHandle := clientHdl }).countP JpegClient.isUsed =
      clntMgr.countP JpegClient.isUsed + 1 := by
  obtain ⟨inside, unused, _⟩ := List.findIdx?_eq_some_iff_getElem.mp free
  have notUsed : (clntMgr[index]).isUsed = false := by
    simpa using unused
  rw [List.countP_set inside]
  simp [notUsed]

theorem countP_clear {client : JpegClient} (found : clntMgr[index]? = some client)
    (used : client.isUsed = true) :
    (clntMgr.set index JpegClient.zero).countP JpegClient.isUsed + 1 =
      clntMgr.countP JpegClient.isUsed := by
  obtain ⟨inside, rfl⟩ := List.getElem?_eq_some_iff.mp found
  have positive : 0 < clntMgr.countP JpegClient.isUsed :=
    List.countP_pos_iff.mpr ⟨_, List.getElem_mem inside, used⟩
  rw [List.countP_set inside]
  simp only [used, if_true, JpegClient.zero, Bool.false_eq_true, if_false]
  omega

theorem newClient_cases (count : Nat) (obj : JpegObj) :
    newClient count obj = (obj, count, 0) ∨
      ∃ index,
        obj.clntMgr.findIdx? (fun client => !client.isUsed) = some index ∧
        newClient count obj =
          ({ numClients := obj.numClients + 1
             clntMgr := obj.clntMgr.set index {
               isUsed := true
               clientHandle :=
                 makeHandler (nextHistoryCount count) index } },
            nextHistoryCount count,
            makeHandler (nextHistoryCount count) index) := by
  unfold newClient
  split
  · exact .inl rfl
  · split
    · exact .inl rfl
    · rename_i index free
      exact .inr ⟨index, free, rfl⟩

theorem makeHandler_pos (count index : Nat) : 0 < makeHandler (nextHistoryCount count) index := by
  have positive : 0 < nextHistoryCount count := by
    unfold nextHistoryCount
    split <;> omega
  unfold makeHandler
  omega

theorem TableInvariant.of_obj (size : obj.clntMgr.length = maxJpegClientNum)
    (numClients : obj.numClients = (obj.clntMgr.countP JpegClient.isUsed : Nat))
    (handles : ∀ client ∈ obj.clntMgr, client.isUsed = true → client.clientHandle ≠ 0)
    (positive : 0 < obj.clntMgr.countP JpegClient.isUsed) :
    TableInvariant { gJpegObj := some obj, gHandlerHistoryCount := count } := by
  refine ⟨?_, ?_, ?_, ?_⟩
  · rintro _ ⟨⟩
    exact size
  · rintro _ ⟨⟩
    exact handles
  · rintro _ ⟨⟩
    exact numClients
  · simp [openClients, positive]

theorem TableInvariant.of_none : TableInvariant
      { gJpegObj := none, gHandlerHistoryCount := count } := by
  refine ⟨?_, ?_, ?_, ?_⟩
  · rintro _ ⟨⟩
  · rintro _ ⟨⟩
  · rintro _ ⟨⟩
  · simp [openClients]

theorem TableInvariant.getD (invariant : TableInvariant intf) :
    (intf.gJpegObj.getD JpegObj.zero).clntMgr.length = maxJpegClientNum ∧
      (intf.gJpegObj.getD JpegObj.zero).numClients =
        ((intf.gJpegObj.getD JpegObj.zero).clntMgr.countP JpegClient.isUsed : Nat) ∧
      ∀ client ∈ (intf.gJpegObj.getD JpegObj.zero).clntMgr,
        client.isUsed = true → client.clientHandle ≠ 0 := by
  cases opened : intf.gJpegObj with
  | none => decide
  | some obj =>
    have counted := invariant.ok.numClients obj opened
    simp only [openClients, opened] at counted
    exact ⟨invariant.size obj opened, counted, invariant.handles obj opened⟩

/--
An open keeps the table, and never takes an existing object away: a failed
open closes the object only when it has no client.
-/
theorem jpegOpen_spec (memory : Bool) (initRc : Int) (invariant : TableInvariant intf) :
    TableInvariant (jpegOpen memory initRc intf).1 ∧
      (intf.gJpegObj.isSome = true →
        (jpegOpen memory initRc intf).1.gJpegObj ≠ none) := by
  unfold jpegOpen
  split
  · rename_i absent _
    exact ⟨invariant, by simp [absent]⟩
  · obtain ⟨size, counted, handles⟩ := invariant.getD
    obtain failed | ⟨index, free, taken⟩ :=
      newClient_cases intf.gHandlerHistoryCount
        (intf.gJpegObj.getD JpegObj.zero)
    · simp only [failed, Nat.lt_irrefl, if_false]
      by_cases empty : (intf.gJpegObj.getD JpegObj.zero).numClients = 0
      · rw [if_pos empty]
        refine ⟨.of_none, ?_⟩
        intro present
        obtain ⟨obj, opened⟩ := Option.isSome_iff_exists.mp present
        have some_client := invariant.ok.exists_iff.mp present
        have numClients := invariant.ok.numClients obj opened
        simp only [opened, Option.getD_some] at empty
        omega
      · rw [if_neg empty]
        exact ⟨.of_obj size counted handles (by omega), by simp⟩
    · simp only [taken, makeHandler_pos, if_true]
      refine ⟨.of_obj (by simpa using size) ?_ ?_ ?_, by simp⟩
      · rw [countP_take free, counted]
        push_cast
        rfl
      · intro client member used
        obtain old | rfl := List.mem_or_eq_of_mem_set member
        · exact handles client old used
        · exact Nat.ne_of_gt (makeHandler_pos _ index)
      · rw [countP_take free]
        omega

theorem isCurrent_iff : isCurrent intf clientHdl = true ↔
      ∃ obj client, intf.gJpegObj = some obj ∧
        obj.clntMgr[getIndexByHandler clientHdl]? = some client ∧
        client.isUsed = true ∧ client.clientHandle = clientHdl := by
  unfold isCurrent
  cases opened : intf.gJpegObj with
  | none => simp
  | some obj =>
    cases found : obj.clntMgr[getIndexByHandler clientHdl]? with
    | none => simp [found]
    | some client => simp [found]

/--
Closing a current client keeps the table, and takes the object away only with
the last client.
-/
theorem intfClose_current (deinitRc : Int) (invariant : TableInvariant intf)
    (current : isCurrent intf clientHdl = true) :
    TableInvariant (intfClose clientHdl deinitRc intf).1 ∧
      ((intfClose clientHdl deinitRc intf).1.gJpegObj = none → openClients intf = 1) := by
  obtain ⟨obj, client, opened, found, used, handle⟩ := isCurrent_iff.mp current
  have nonzero : clientHdl ≠ 0 :=
    handle ▸ invariant.handles obj opened client (List.mem_of_getElem? found) used
  have size := invariant.size obj opened
  have numClients := invariant.ok.numClients obj opened
  simp only [openClients, opened] at numClients
  have inside : getIndexByHandler clientHdl < obj.clntMgr.length :=
    (List.getElem?_eq_some_iff.mp found).1
  have closed := countP_clear found used
  have accepted : ¬ maxJpegClientNum ≤ getIndexByHandler clientHdl := by
    omega
  simp only [intfClose, if_neg nonzero, opened, jpegClose, if_neg accepted, true_and]
  by_cases last : obj.numClients - 1 = 0
  · rw [if_pos last]
    refine ⟨.of_none, ?_⟩
    intro _
    simp only [openClients, opened]
    omega
  · rw [if_neg last]
    refine ⟨.of_obj (by simpa using size) ?_ ?_ ?_, by simp⟩
    · dsimp only
      omega
    · intro other member otherUsed
      obtain old | rfl := List.mem_or_eq_of_mem_set member
      · exact invariant.handles obj opened other old otherUsed
      · simp [JpegClient.zero] at otherUsed
    · dsimp only
      omega

theorem intfClose_stray {deinitRc : Int} (nonzero : clientHdl ≠ 0)
    (opened : intf.gJpegObj = some obj) :
    (intfClose clientHdl deinitRc intf).1 ≠ intf := by
  intro unchanged
  have same := congrArg JpegIntf.gJpegObj unchanged
  simp only [intfClose, if_neg nonzero, opened] at same
  split at same
  · simp at same
  · have counts := congrArg (Option.map JpegObj.numClients) same
    simp only [Option.map_some, Option.some.injEq] at counts
    unfold jpegClose at counts
    split at counts
    · dsimp only at counts
      omega
    · dsimp only at counts
      omega

theorem intfClose_ignored (deinitRc : Int)
    (notCurrent : isCurrent intf clientHdl = false)
    (condition : closesCurrent intf (.close clientHdl deinitRc) = true) :
    intfClose clientHdl deinitRc intf = (intf, [.rc (-1)]) := by
  simp only [closesCurrent, notCurrent, Bool.or_false, Bool.or_eq_true,
    beq_iff_eq, Option.isNone_iff_eq_none] at condition
  obtain zero | absent := condition
  · simp [intfClose, zero]
  · simp [intfClose, absent]

theorem jpegStep_next (stepped : jpegStep intf call = some (next, answers)) :
    (callResult intf call).1 = next :=
  congrArg Prod.fst (Option.some.inj stepped)

theorem callOk_iff (invariant : TableInvariant intf) :
    CallOk intf call ↔ closesCurrent intf call = true := by
  cases call with
  | jpegOpen memory initRc =>
    simp only [closesCurrent, iff_true]
    obtain ⟨kept, present⟩ := jpegOpen_spec memory initRc invariant
    refine ⟨?_, by simp, ?_⟩
    · intro next answers stepped
      obtain rfl := jpegStep_next stepped
      exact kept.ok
    · intro next answers stepped existed absent
      obtain rfl := jpegStep_next stepped
      exact absurd absent (present existed)
  | close clientHdl deinitRc =>
    constructor
    · intro ok
      by_contra stray
      simp only [closesCurrent, Bool.or_eq_true, beq_iff_eq,
        Option.isNone_iff_eq_none, not_or, Bool.not_eq_true] at stray
      obtain ⟨⟨nonzero, present⟩, notCurrent⟩ := stray
      obtain ⟨obj, opened⟩ := Option.ne_none_iff_exists'.mp present
      obtain ⟨rc, _, unchanged⟩ := ok.refused clientHdl deinitRc rfl notCurrent
      simp only [jpegStep, callResult, Option.some.injEq] at unchanged
      exact intfClose_stray nonzero opened (congrArg Prod.fst unchanged)
    · intro condition
      cases current : isCurrent intf clientHdl with
      | false =>
        have ignored := intfClose_ignored deinitRc current condition
        refine ⟨?_, ?_, ?_⟩
        · intro next answers stepped
          obtain rfl := jpegStep_next stepped
          simpa [callResult, ignored] using invariant.ok
        · rintro _ _ ⟨⟩ _
          exact ⟨-1, by decide, by simp [jpegStep, callResult, ignored]⟩
        · intro next answers stepped present absent
          obtain rfl := jpegStep_next stepped
          simp [callResult, ignored] at absent
          simp [absent] at present
      | true =>
        obtain ⟨kept, last⟩ := intfClose_current deinitRc invariant current
        refine ⟨?_, ?_, ?_⟩
        · intro next answers stepped
          obtain rfl := jpegStep_next stepped
          exact kept.ok
        · rintro _ _ ⟨⟩ stale
          simp [current] at stale
        · intro next answers stepped _ absent
          obtain rfl := jpegStep_next stepped
          exact ⟨clientHdl, deinitRc, rfl, current, last absent⟩

theorem jpegStep_invariant (invariant : TableInvariant intf)
    (condition : closesCurrent intf call = true)
    (stepped : jpegStep intf call = some (next, answers)) :
    TableInvariant next := by
  obtain rfl := jpegStep_next stepped
  cases call with
  | jpegOpen memory initRc => exact (jpegOpen_spec memory initRc invariant).1
  | close clientHdl deinitRc =>
    cases current : isCurrent intf clientHdl with
    | true => exact (intfClose_current deinitRc invariant current).1
    | false =>
      have ignored := intfClose_ignored deinitRc current condition
      simpa [callResult, ignored] using invariant

/-! ## Every sequence of calls -/

theorem callsOk_iff_of_invariant {past calls : List JpegCall}
    (invariant : TableInvariant intf) :
    LabelledRun.Guarded jpegStep (fun state _ call => CallOk state call) intf past calls ↔
      LabelledRun.Guarded jpegStep (fun state _ call => closesCurrent state call = true)
        intf past calls := by
  refine LabelledRun.guarded_iff_of_invariant TableInvariant
    (fun here => callOk_iff here) ?_ invariant
  intro state before call next answers here ok stepped
  exact jpegStep_invariant here ((callOk_iff here).mp ok) stepped

/--
For every sequence of calls, every call does what it has to do if and only if
every close names a client that is open under exactly this handle, or comes
with the handle zero or when nothing is open.
-/
theorem jpegCalls_ok_iff (count : Nat) (calls : List JpegCall) :
    LabelledRun.Guarded jpegStep (fun intf _ call => CallOk intf call)
        { gJpegObj := none, gHandlerHistoryCount := count } [] calls ↔
      LabelledRun.Guarded jpegStep (fun intf _ call => closesCurrent intf call = true)
        { gJpegObj := none, gHandlerHistoryCount := count } [] calls :=
  callsOk_iff_of_invariant .of_none

/--
Two clients are open and one of them is closed twice: the second close is
answered with success and the object is gone under the other client.
-/
theorem jpegCalls_closedTwice : ∃ intf, LabelledRun.run? jpegStep
          { gJpegObj := none, gHandlerHistoryCount := 0 }
          [.jpegOpen true 0, .jpegOpen true 0, .close 256 0] =
        some (intf, [.handle 256, .handle 513, .rc 0]) ∧
      isCurrent intf 256 = false ∧ isCurrent intf 513 = true ∧
      jpegStep intf (.close 256 0) =
        some ({ gJpegObj := none, gHandlerHistoryCount := 2 }, [.rc 0]) ∧
      ¬ LabelledRun.Guarded jpegStep (fun intf _ call => CallOk intf call)
        { gJpegObj := none, gHandlerHistoryCount := 0 } []
        [.jpegOpen true 0, .jpegOpen true 0, .close 256 0, .close 256 0] := by
  refine ⟨_, rfl, by decide, by decide, by decide, ?_⟩
  rw [callsOk_iff_of_invariant .of_none]
  decide

end AnglerHal.Jpeg
