import AnglerHal.ApiAnswered
import AnglerHal.ApiResults
import Mathlib.Data.List.Nodup

namespace AnglerHal.ApiResults

open ApiStates

/-!
# Results reach their own callers

Each command is in one place: queued, open, or answered by one result in the
list.  In a careful run every result in the list belongs to a caller that waits
for its event, and no two callers wait for the same one.
-/

/-! ## Lists -/

theorem nodup_map_snoc {f : α → β} {items : List α} {item : α} (nodup : (items.map f).Nodup)
    (fresh : f item ∉ items.map f) :
    ((items ++ [item]).map f).Nodup := by
  rw [List.map_append]
  exact List.nodup_append.mpr ⟨nodup, List.nodup_singleton _, fun _ listed _ isLast same =>
      fresh (List.mem_singleton.mp isLast ▸ same ▸ listed)⟩

theorem perm_eraseP_of_find? {p : α → Bool} {items : List α} {item : α}
    (found : items.find? p = some item) :
    items.Perm (item :: items.eraseP p) := by
  induction items with
  | nil => cases found
  | cons first rest inductionHypothesis =>
    cases meets : p first with
    | true =>
      rw [List.find?_cons_of_pos meets, Option.some.injEq] at found
      rw [found, List.eraseP_cons_of_pos (found ▸ meets)]
    | false =>
      rw [List.find?_cons_of_neg (by simp [meets])] at found
      rw [List.eraseP_cons_of_neg (by simp [meets])]
      exact ((inductionHypothesis found).cons first).trans (.swap ..)

theorem find?_eraseP_of_apart {p q : α → Bool} {items : List α}
    (apart : ∀ item, p item = true → q item = false) :
    (items.eraseP p).find? q = items.find? q := by
  induction items with
  | nil => rfl
  | cons first rest inductionHypothesis =>
    cases meets : p first with
    | true =>
      rw [List.eraseP_cons_of_pos meets, List.find?_cons_of_neg (by simp [apart first meets])]
    | false =>
      rw [List.eraseP_cons_of_neg (by simp [meets]), List.find?_cons,
        List.find?_cons, inductionHypothesis]

/-! ## Results in the list -/

variable {evt : Evt} {rest : List Entry} {entry : Entry} {caller other : Command}
  {returned : List Returned} {result : ApiResult}

theorem takeResult_some {results : List Entry}
    (taken : takeResult evt results = some (entry, rest)) :
    entry.result.requestApi = evt ∧ results.Perm (entry :: rest) := by
  induction results generalizing rest with
  | nil => cases taken
  | cons first others inductionHypothesis =>
    simp only [takeResult] at taken
    split at taken
    case isTrue same =>
      cases taken
      exact ⟨same, .refl _⟩
    case isFalse =>
      obtain ⟨⟨found, left⟩, later, shape⟩ := Option.map_eq_some_iff.mp taken
      cases shape
      obtain ⟨same, perm⟩ := inductionHypothesis later
      exact ⟨same, (perm.cons first).trans (.swap ..)⟩

theorem answers_eq_map (outputs : List SmOutput) : answers outputs =
      (outputs.filterMap apiResult?).map ApiResult.requestApi := by
  rw [List.map_filterMap]
  refine List.filterMap_congr fun output _ => ?_
  cases output <;> rfl

theorem stateMachine_answers (parent : Parent) (evt : Evt) (sm : StateMachine) :
    answers (stateMachine parent evt sm).2 = answersTo parent sm.state evt := by
  cases evt with
  | api evt => exact stateMachineApi_answers parent sm evt
  | internal evt => exact stateMachineInternal_answers parent sm evt

theorem answersTo_nodup (parent : Parent) (state : SmState) (evt : Evt) :
    (answersTo parent state evt).Nodup := by
  cases evt with
  | api evt =>
    simp only [answersTo, answered]
    split <;> simp
  | internal evt =>
    simp only [answersTo, released]
    split
    case h_2 => simp
    all_goals first | simp | split <;> simp

/-! ## The invariant -/

/-- The commands that are queued, open or answered by a result in the list. -/
def Hal.ids (hal : Hal) : List Nat :=
  hal.apiQueue.map Command.id ++ hal.opened.map Command.id ++
    hal.entries.filterMap Entry.producedFor

/-- The results returned, and those in the list. -/
def Hal.serials (hal : Hal) : List Nat :=
  hal.consumed ++ hal.entries.map Entry.serial

/-- Where commands and results are in a careful run. -/
structure Inv (hal : Hal) : Prop where
  apart : (hal.callers.map Command.evt).Nodup
  numbered : (hal.callers.map Command.id).Nodup
  known : ∀ caller ∈ hal.callers, caller.id < hal.nextId
  ids : hal.ids.Nodup
  idsOld : ∀ id ∈ hal.ids, id < hal.nextId
  serials : hal.serials.Nodup
  serialsOld : ∀ serial ∈ hal.serials, serial < hal.nextSerial
  owned : ∀ entry ∈ hal.entries, ∃ caller ∈ hal.callers, entry.producedFor = some caller.id ∧
          entry.result.requestApi = caller.evt
  pending : ∀ caller ∈ hal.callers, hal.Pending caller

theorem Hal.start_inv : Inv Hal.start where
  apart := .nil
  numbered := .nil
  known := by simp [Hal.start]
  ids := .nil
  idsOld := by simp [Hal.start, Hal.ids, Hal.entries]
  serials := .nil
  serialsOld := by simp [Hal.start, Hal.serials, Hal.entries]
  owned := by simp [Hal.start, Hal.entries]
  pending := by simp [Hal.start]

section Step

variable {hal : Hal}

theorem Inv.caller_eq (inv : Inv hal) (waits : caller ∈ hal.callers)
    (waitsToo : other ∈ hal.callers) (same : caller.id = other.id) :
    caller = other :=
  List.inj_on_of_nodup_map inv.numbered waits waitsToo same

theorem Inv.caller_eq_of_evt (inv : Inv hal) (waits : caller ∈ hal.callers)
    (waitsToo : other ∈ hal.callers) (same : caller.evt = other.evt) :
    caller = other :=
  List.inj_on_of_nodup_map inv.apart waits waitsToo same

theorem Inv.sound (inv : Inv hal) (own : ∀ answer ∈ returned,
        answer.entry.producedFor = some answer.caller.id) :
    Sound hal returned where
  own := own
  once := (List.nodup_append.mp inv.serials).1
  settled nobody := by
    refine List.eq_nil_iff_forall_not_mem.mpr fun entry listed => ?_
    obtain ⟨caller, waits, -⟩ := inv.owned entry (List.mem_append_left _ listed)
    simp [nobody] at waits
  pending := inv.pending

/-! ## Submissions -/

theorem processAPI_inv (evt : Evt) (accepted : Bool) (inv : Inv hal) :
    Inv (processAPI evt accepted hal) := by
  cases accepted with
  | false => exact inv
  | true =>
    have ids : (processAPI evt true hal).ids.Perm (hal.nextId :: hal.ids) := by
      simp only [processAPI, if_true, Hal.ids, Hal.entries, Hal.newCommand,
        List.map_append, List.map_cons, List.map_nil, List.append_assoc,
        List.cons_append, List.nil_append]
      exact List.perm_middle
    have fresh : hal.nextId ∉ hal.ids := fun listed => Nat.lt_irrefl _ (inv.idsOld _ listed)
    exact { inv with
        known := fun caller waits => Nat.lt_succ_of_lt (inv.known caller waits)
        ids := ids.nodup_iff.mpr (List.nodup_cons.mpr ⟨fresh, inv.ids⟩)
        idsOld := fun id listed => by
          rcases List.mem_cons.mp (ids.mem_iff.mp listed) with rfl | listed
          · exact Nat.lt_succ_self _
          · exact Nat.lt_succ_of_lt (inv.idsOld id listed)
        pending := fun caller waits =>
          (inv.pending caller waits).imp_left fun queued => List.mem_append_left _ queued }

theorem submit_inv {evt : ApiEvt} {accepted : Bool} (inv : Inv hal)
    (careful : Careful hal (.submit evt accepted)) :
    Inv (submit evt accepted hal) := by
  cases accepted with
  | false => exact inv
  | true =>
    have posted := processAPI_inv (.api evt) true inv
    have apart : Command.evt (hal.newCommand (.api evt)) ∉ hal.callers.map Command.evt := by
      rintro listed
      obtain ⟨caller, waits, same⟩ := List.mem_map.mp listed
      exact careful rfl caller waits same
    have numbered : Command.id (hal.newCommand (.api evt)) ∉ hal.callers.map Command.id := by
      rintro listed
      obtain ⟨caller, waits, same⟩ := List.mem_map.mp listed
      exact Nat.ne_of_lt (inv.known caller waits) same
    exact { posted with
        apart := nodup_map_snoc inv.apart apart
        numbered := nodup_map_snoc inv.numbered numbered
        known := fun caller waits => by
          rcases List.mem_append.mp waits with waits | waits
          · exact posted.known caller waits
          · rw [List.mem_singleton.mp waits]
            exact Nat.lt_succ_self _
        owned := fun entry listed => by
          obtain ⟨caller, waits, own⟩ := inv.owned entry listed
          exact ⟨caller, List.mem_append_left _ waits, own⟩
        pending := fun caller waits => by
          rcases List.mem_append.mp waits with waits | waits
          · exact posted.pending caller waits
          · rw [List.mem_singleton.mp waits]
            exact .inl (List.mem_append_right _ (List.mem_singleton_self _)) }

theorem processEvt_inv (evt : Evt) (accepted : Bool) (inv : Inv hal) :
    Inv (processEvt evt accepted hal) := by
  cases accepted with
  | false => exact inv
  | true => exact { inv with }

/-! ## The state machine -/

theorem dequeue_inv {taken : Hal} (inv : Inv hal)
    (dequeued : dequeue hal = some (evt, taken)) :
    Inv taken := by
  simp only [dequeue] at dequeued
  split at dequeued
  · cases dequeued
  · split at dequeued
    case h_1 command rest queue =>
      cases dequeued
      have ids : ((rest.map Command.id ++ (command :: hal.opened).map Command.id) ++
              hal.entries.filterMap Entry.producedFor).Perm hal.ids := by
        refine List.Perm.append_right _ ?_
        simp only [queue, List.map_cons, List.cons_append]
        exact List.perm_middle
      exact { inv with
          ids := ids.nodup_iff.mpr inv.ids
          idsOld := fun id listed => inv.idsOld id (ids.mem_iff.mp listed)
          pending := fun caller waits => by
            rcases inv.pending caller waits with queued | isOpen | listed
            · rw [queue] at queued
              rcases List.mem_cons.mp queued with rfl | queued
              · exact .inr (.inl (List.mem_cons_self ..))
              · exact .inl queued
            · exact .inr (.inl (List.mem_cons_of_mem _ isOpen))
            · exact .inr (.inr listed) }
    case h_2 =>
      cases dequeued
      exact { inv with }
    case h_3 =>
      cases dequeued

theorem produce_inv (inv : Inv hal) (awaited : hal.Awaited result.requestApi) :
    Inv (produce hal result) := by
  obtain ⟨caller, waits, found⟩ := awaited
  have same : caller.evt = result.requestApi := by
    simpa using List.find?_some found
  have moved := perm_eraseP_of_find? found
  have entries :
      (produce hal result).entries =
        hal.entries ++
          [{ result := result
             producedFor := some caller.id
             serial := hal.nextSerial }] := by
    simp [produce, Hal.entries, found]
  have ids : (produce hal result).ids.Perm hal.ids := by
    have opened := (moved.map Command.id).symm
    rw [Hal.ids, Hal.ids, entries, List.filterMap_append, ← List.append_assoc]
    refine (List.perm_append_singleton caller.id _).trans ?_
    rw [← List.cons_append]
    refine List.Perm.append_right _ ?_
    exact List.perm_middle.symm.trans (opened.append_left _)
  have serials :
      (produce hal result).serials = hal.serials ++ [hal.nextSerial] := by
    rw [Hal.serials, entries, List.map_append, ← List.append_assoc]
    rfl
  have fresh : hal.nextSerial ∉ hal.serials :=
    fun listed => Nat.lt_irrefl _ (inv.serialsOld _ listed)
  exact
    { apart := inv.apart
      numbered := inv.numbered
      known := inv.known
      ids := ids.nodup_iff.mpr inv.ids
      idsOld := fun id listed => inv.idsOld id (ids.mem_iff.mp listed)
      serials := by
        rw [serials]
        exact List.nodup_append.mpr ⟨inv.serials, List.nodup_singleton _,
          fun _ listed _ isLast same =>
            fresh (List.mem_singleton.mp isLast ▸ same ▸ listed)⟩
      serialsOld := fun serial listed => by
        rw [serials] at listed
        rcases List.mem_append.mp listed with listed | isLast
        · exact Nat.lt_succ_of_lt (inv.serialsOld serial listed)
        · rw [List.mem_singleton.mp isLast]
          exact Nat.lt_succ_self _
      owned := fun entry listed => by
        rw [entries] at listed
        rcases List.mem_append.mp listed with listed | isLast
        · exact inv.owned entry listed
        · rw [List.mem_singleton.mp isLast]
          exact ⟨caller, waits, rfl, same.symm⟩
      pending := fun other waitsToo => by
        rcases inv.pending other waitsToo with queued | isOpen | answer
        · exact .inl queued
        · rcases List.mem_cons.mp (moved.mem_iff.mp isOpen) with rfl | isOpen
          · refine .inr (.inr ?_)
            rw [entries]
            exact ⟨_, List.mem_append_right _ (List.mem_singleton_self _), rfl⟩
          · exact .inr (.inl isOpen)
        · obtain ⟨entry, listed, own⟩ := answer
          refine .inr (.inr ⟨entry, ?_, own⟩)
          rw [entries]
          exact List.mem_append_left _ listed }

theorem produce_awaited (other : result.requestApi ≠ evt) (awaited : hal.Awaited evt) :
    (produce hal result).Awaited evt := by
  obtain ⟨caller, waits, found⟩ := awaited
  refine ⟨caller, waits, ?_⟩
  rw [← found]
  refine find?_eraseP_of_apart fun command same => ?_
  have same := of_decide_eq_true same
  simp [same, other]

theorem foldl_produce_inv {results : List ApiResult} (inv : Inv hal)
    (apart : (results.map ApiResult.requestApi).Nodup)
    (awaited : ∀ evt ∈ results.map ApiResult.requestApi, hal.Awaited evt) :
    Inv (results.foldl produce hal) := by
  induction results generalizing hal with
  | nil => exact inv
  | cons first rest inductionHypothesis =>
    obtain ⟨notLater, later⟩ := List.nodup_cons.mp apart
    refine inductionHypothesis (produce_inv inv (awaited _ (List.mem_cons_self ..))) later ?_
    intro evt listed
    refine produce_awaited ?_ (awaited evt (List.mem_cons_of_mem _ listed))
    rintro rfl
    exact notLater listed

theorem process_inv {parent : Parent} (inv : Inv hal) (careful : Careful hal (.process parent)) :
    Inv (process parent hal) := by
  simp only [process]
  split
  case h_1 => exact inv
  case h_2 evt taken dequeued =>
    have kept : Inv { taken with sm := (stateMachine parent evt taken.sm).1 } :=
      { dequeue_inv inv dequeued with }
    have same : ((stateMachine parent evt taken.sm).2.filterMap apiResult?).map
            ApiResult.requestApi =
          answersTo parent taken.sm.state evt := by
      rw [← answers_eq_map, stateMachine_answers]
    refine foldl_produce_inv kept ?_ ?_
    · rw [same]
      exact answersTo_nodup parent taken.sm.state evt
    · rw [same]
      exact careful (evt, taken) dequeued

theorem signalAPIResult_inv {memory : Bool} (inv : Inv hal)
    (careful : Careful hal (.signal memory)) :
    Inv (signalAPIResult memory hal) := by
  simp only [signalAPIResult]
  split
  case h_1 => exact inv
  case h_2 entry rest shape =>
    have allocated : memory = true := careful (by simp [shape])
    subst allocated
    have entries : (hal.results ++ [entry]) ++ rest = hal.entries := by
      simp [Hal.entries, shape]
    exact { inv with
        ids := by simpa only [Hal.ids, Hal.entries, if_true, entries] using inv.ids
        idsOld := by
          simpa only [Hal.ids, Hal.entries, if_true, entries] using inv.idsOld
        serials := by
          simpa only [Hal.serials, Hal.entries, if_true, entries] using inv.serials
        serialsOld := by
          simpa only [Hal.serials, Hal.entries, if_true, entries] using inv.serialsOld
        owned := by
          simpa only [Hal.entries, if_true, entries] using inv.owned
        pending := by
          simpa only [Hal.Pending, Hal.entries, if_true, entries] using inv.pending }

/-! ## The threads that wait -/

theorem Inv.own_of_taken (inv : Inv hal) (waits : caller ∈ hal.callers)
    (taken : takeResult caller.evt hal.results = some (entry, rest)) :
    entry.producedFor = some caller.id := by
  obtain ⟨same, perm⟩ := takeResult_some taken
  have listed : entry ∈ hal.entries :=
    List.mem_append_left _ (perm.mem_iff.mpr (List.mem_cons_self ..))
  obtain ⟨owner, waitsToo, own, event⟩ := inv.owned entry listed
  rw [inv.caller_eq_of_evt waits waitsToo (same.symm.trans event)]
  exact own

theorem takeResult_inv (inv : Inv hal) (waits : caller ∈ hal.callers)
    (taken : takeResult caller.evt hal.results = some (entry, rest)) :
    Inv
      { hal with
        results := rest
        callers := hal.callers.erase caller
        consumed := hal.consumed ++ [entry.serial] } := by
  have own := inv.own_of_taken waits taken
  obtain ⟨-, perm⟩ := takeResult_some taken
  have entries : hal.entries.Perm (entry :: (rest ++ hal.signals)) := perm.append_right _
  have ids :
      hal.ids.Perm
        (caller.id :: (hal.apiQueue.map Command.id ++
          hal.opened.map Command.id ++
          (rest ++ hal.signals).filterMap Entry.producedFor)) := by
    refine .trans (.append_left _ (entries.filterMap _)) ?_
    rw [List.filterMap_cons_some own]
    exact List.perm_middle
  obtain ⟨gone, others⟩ := List.nodup_cons.mp (ids.nodup_iff.mp inv.ids)
  have serials :
      hal.serials.Perm
        (hal.consumed ++ [entry.serial] ++
          (rest ++ hal.signals).map Entry.serial) := by
    rw [List.append_assoc]
    exact .append_left _ (entries.map _)
  have staying :
      ∀ other,
        other ∈ hal.callers.erase caller ↔
          other ≠ caller ∧ other ∈ hal.callers :=
    fun other => inv.numbered.of_map.mem_erase_iff
  have fewer : hal.callers.erase caller |>.Sublist hal.callers := List.erase_sublist
  exact
    { apart := inv.apart.sublist (fewer.map _)
      numbered := inv.numbered.sublist (fewer.map _)
      known := fun other stays => inv.known other ((staying other).mp stays).2
      ids := others
      idsOld := fun id listed =>
        inv.idsOld id (ids.mem_iff.mpr (List.mem_cons_of_mem _ listed))
      serials := serials.nodup_iff.mp inv.serials
      serialsOld := fun serial listed =>
        inv.serialsOld serial (serials.mem_iff.mpr listed)
      owned := fun left listed => by
        obtain ⟨owner, waitsToo, produced, event⟩ :=
          inv.owned left (entries.mem_iff.mpr (List.mem_cons_of_mem _ listed))
        refine ⟨owner, (staying owner).mpr ⟨?_, waitsToo⟩, produced, event⟩
        rintro rfl
        exact gone (List.mem_append_right _
          (List.mem_filterMap.mpr ⟨left, listed, produced⟩))
      pending := fun other stays => by
        obtain ⟨isOther, waitsToo⟩ := (staying other).mp stays
        rcases inv.pending other waitsToo with queued | isOpen | answer
        · exact .inl queued
        · exact .inr (.inl isOpen)
        · obtain ⟨left, listed, produced⟩ := answer
          rcases List.mem_cons.mp (entries.mem_iff.mp listed) with rfl | listed
          · have same := Option.some.inj (produced.symm.trans own)
            exact absurd (inv.caller_eq waitsToo waits same) isOther
          · exact .inr (.inr ⟨left, listed, produced⟩) }

theorem waitAPIResult_inv (caller : Command) (inv : Inv hal) : Inv (waitAPIResult caller hal).1 ∧
      ∀ answer ∈ (waitAPIResult caller hal).2,
        answer.entry.producedFor = some answer.caller.id := by
  simp only [waitAPIResult]
  split
  case isFalse =>
    exact ⟨inv, by simp⟩
  case isTrue waits =>
    split
    case h_1 =>
      exact ⟨inv, by simp⟩
    case h_2 entry rest taken =>
      refine ⟨takeResult_inv inv waits taken, fun answer returned => ?_⟩
      rw [List.mem_singleton.mp returned]
      exact inv.own_of_taken waits taken

/-! ## Runs -/

theorem halStep_sound {event : HalEvent} {next : Hal} (inv : Inv hal)
    (careful : Careful hal event) (stepped : halStep hal event = some (next, returned)) :
    Inv next ∧ Sound next returned := by
  have of_inv : Inv next → returned = [] → Inv next ∧ Sound next returned :=
    fun kept nothing => ⟨kept, kept.sound (by simp [nothing])⟩
  cases event with
  | submit evt accepted =>
    cases stepped
    exact of_inv (submit_inv inv careful) rfl
  | post evt accepted =>
    cases stepped
    exact of_inv (processAPI_inv evt accepted inv) rfl
  | notify evt accepted =>
    cases stepped
    exact of_inv (processEvt_inv evt accepted inv) rfl
  | process parent =>
    cases stepped
    exact of_inv (process_inv inv careful) rfl
  | signal memory =>
    cases stepped
    exact of_inv (signalAPIResult_inv inv careful) rfl
  | wake caller =>
    obtain ⟨kept, own⟩ := waitAPIResult_inv caller inv
    rw [Option.some.inj stepped] at kept own
    exact ⟨kept, kept.sound own⟩

end Step

/--
In every run from the start whose steps are careful, each step leaves the
results with their callers.
-/
theorem halRun_sound (events : List HalEvent) (careful :
      LabelledRun.Guarded halStep (fun hal _ event => Careful hal event) Hal.start [] events) :
    LabelledRun.Guarded halStep (fun hal _ event => SoundStep hal event) Hal.start [] events := by
  refine careful.of_invariant Inv ?_ ?_ Hal.start_inv
  · intro hal _ event inv met next returned stepped
    exact (halStep_sound inv met stepped).2
  · intro hal _ event next returned inv met stepped
    exact (halStep_sound inv met stepped).1

/-- A caller waits for a snapshot while another is refused. -/
def snapshotPrepared : List HalEvent :=
  [.submit .startPreview true, .process ableParent, .signal true, .wake ⟨0, .api .startPreview⟩,
    .submit .prepareSnapshot true, .process ableParent,
    .submit .getParams true, .process ableParent,
    .notify (.internal (.evtInternal .prepSnapshotDone)) true, .signal true,
    .process ableParent, .wake ⟨1, .api .prepareSnapshot⟩,
    .wake ⟨2, .api .getParams⟩, .signal true,
    .wake ⟨1, .api .prepareSnapshot⟩]

theorem halRun_sound_snapshotPrepared :
    LabelledRun.Guarded halStep (fun hal _ event => SoundStep hal event)
      Hal.start [] snapshotPrepared :=
  halRun_sound snapshotPrepared (by decide)

/--
The server has a picture taken, and the preview is started again by
`clearIntPendingEvents`; then the framework starts it.
-/
def backendPicture : List HalEvent :=
  [.submit .startPreview true, .process ableParent, .signal true, .wake ⟨0, .api .startPreview⟩,
    .submit .takePicture true, .process ableParent, .signal true,
    .wake ⟨1, .api .takePicture⟩,
    .post (.internal .snapshotDone) true, .process ableParent,
    .post (.api .startPreview) true, .process ableParent, .signal true,
    .submit .startPreview true, .process ableParent, .signal true]

/-- The framework gets the result of the start that nobody waited for. -/
theorem halRun_stale : ¬ LabelledRun.Guarded halStep (fun hal _ event => SoundStep hal event)
      Hal.start [] (backendPicture ++ [.wake ⟨4, .api .startPreview⟩]) := by
  intro sound
  have returns := sound.last rfl
  have own := (returns _ _ rfl).own _ (List.mem_cons_self ..)
  exact absurd own (by decide)

end AnglerHal.ApiResults
