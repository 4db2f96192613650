import AnglerHal.ApiTransitions
import AnglerHal.LabelledRun
import Mathlib.Data.Int.Init

namespace AnglerHal.ApiStates

/-!
# Every command is answered

For each command the run keeps how many more were taken from the queue than
were answered.  In a careful run that is none, but for the one command that
waits for a snapshot.
-/

/-! ## Runs -/

/-- An event, and what its parent returns meanwhile. -/
structure SmEvent where
  evt : Evt
  parent : Parent

/-- The state machine, and the commands taken less the commands answered. -/
@[ext] structure CommandRun where
  sm : StateMachine
  opened : ApiEvt → Int

/-- Before the first event. -/
def CommandRun.start : CommandRun where
  sm := .start
  opened := fun _ => 0

/-- The open commands after an event. -/
def openAfter (evt : Evt) (outputs : List SmOutput) (opened : ApiEvt → Int) : ApiEvt → Int :=
  fun command =>
    opened command + (if evt = .api command then 1 else 0) - (answers outputs).count (.api command)

/-- One event of a run. -/
def smStep
    (run : CommandRun)
    (event : SmEvent) : Option (CommandRun × List SmOutput) :=
  let done := stateMachine event.parent event.evt run.sm
  some
    ({ sm := done.1
       opened := openAfter event.evt done.2 run.opened }, done.2)

/--
Every command has been answered once, except possibly one that waits for a
snapshot.
-/
structure Answered (retro : Bool) (run : CommandRun) : Prop where
  settled : ∀ evt, run.opened evt ≠ 0 → run.opened evt = 1 ∧
          ((run.sm.state = .prepareSnapshot ∧ evt = .prepareSnapshot) ∨
            (run.sm.state = .previewPicTaking ∧ retro = true ∧
              (evt = .prepareSnapshot ∨ evt = .takePicture)))
  single : run.opened .prepareSnapshot = 0 ∨ run.opened .takePicture = 0

/-- An event leaves every command answered. -/
def AnsweredAfter (run : CommandRun) (event : SmEvent) : Prop :=
  ∀ next outputs, smStep run event = some (next, outputs) →
      Answered event.parent.isRetroPicture next

/-- A command waits for a snapshot. -/
def CommandRun.waits (run : CommandRun) : Prop :=
  run.opened .prepareSnapshot ≠ 0 ∨ run.opened .takePicture ≠ 0

/--
When a command does so: the state has a case for it, and while a retro picture
is taken no second command comes to wait, and none is left waiting behind.
-/
def CarefulCommand (run : CommandRun) (parent : Parent) (evt : ApiEvt) : Prop :=
  ignores run.sm.state evt = false ∧ (run.sm.state = .previewPicTaking → run.waits →
        parent.isRetroPicture = true ∧ leavesWithCommand parent evt = false ∧
          defers parent .previewPicTaking evt = false)

/--
When an internal event does so: the daemon does not die while a picture is
taken, and while a retro picture is taken what is answered is waiting, and
nothing is left waiting behind.
-/
def CarefulInternal (run : CommandRun) (parent : Parent) (evt : InternalEvt) : Prop :=
  (run.sm.state = .picTaking → evt ≠ .evtNotify true) ∧ (run.sm.state = .previewPicTaking →
      (run.waits → parent.isRetroPicture = true ∧ evt ≠ .snapshotDone) ∧
      (parent.isRetroPicture = true → (evt = .evtInternal .prepSnapshotDone →
          run.opened .prepareSnapshot ≠ 0) ∧
        (evt = .evtInternal .readyForSnapshot → run.opened .takePicture ≠ 0)))

/-- When an event leaves every command answered. -/
def Careful (run : CommandRun) (event : SmEvent) : Prop :=
  match event.evt with
  | .api evt => CarefulCommand run event.parent evt
  | .internal evt => CarefulInternal run event.parent evt

/-! ## The invariant -/

/-- What is open in each state. -/
structure Inv (run : CommandRun) : Prop where
  others : ∀ evt, evt ≠ .prepareSnapshot → evt ≠ .takePicture → run.opened evt = 0
  preparing : run.sm.state = .prepareSnapshot →
      run.opened .prepareSnapshot = 1 ∧ run.opened .takePicture = 0
  taking : run.sm.state = .previewPicTaking →
      (run.opened .prepareSnapshot = 0 ∧ run.opened .takePicture = 0) ∨
        (run.opened .prepareSnapshot = 1 ∧ run.opened .takePicture = 0) ∨
        (run.opened .prepareSnapshot = 0 ∧ run.opened .takePicture = 1)
  idle : run.sm.state ≠ .prepareSnapshot →
      run.sm.state ≠ .previewPicTaking → ∀ evt, run.opened evt = 0

variable {run next : CommandRun} {retro : Bool} {evt : ApiEvt} {outputs : List SmOutput}
  {opened : ApiEvt → Int} {state : SmState} {event : SmEvent}

theorem inv_of_none (none : ∀ evt, run.opened evt = 0)
    (elsewhere : run.sm.state ≠ .prepareSnapshot) :
    Inv run where
  others evt _ _ := none evt
  preparing isPreparing := absurd isPreparing elsewhere
  taking _ := .inl ⟨none _, none _⟩
  idle _ _ := none

theorem CommandRun.start_inv : Inv CommandRun.start :=
  inv_of_none (fun _ => rfl) (by decide)

theorem answered_of_none (none : ∀ evt, run.opened evt = 0) :
    Answered retro run where
  settled evt isOpen := absurd (none evt) isOpen
  single := .inl (none _)

theorem answered_of_one (others : ∀ evt,
        evt ≠ .prepareSnapshot → evt ≠ .takePicture → run.opened evt = 0)
    (one : (run.opened .prepareSnapshot = 1 ∧ run.opened .takePicture = 0) ∨
        (run.opened .prepareSnapshot = 0 ∧ run.opened .takePicture = 1))
    (taking : run.sm.state = .previewPicTaking)
    (isRetro : retro = true) :
    Answered retro run where
  settled evt isOpen := by
    by_cases prepares : evt = .prepareSnapshot
    · subst prepares
      rcases one with ⟨opens, -⟩ | ⟨closed, -⟩
      · exact ⟨opens, .inr ⟨taking, isRetro, .inl rfl⟩⟩
      · exact absurd closed isOpen
    · by_cases takes : evt = .takePicture
      · subst takes
        rcases one with ⟨-, closed⟩ | ⟨-, opens⟩
        · exact absurd closed isOpen
        · exact ⟨opens, .inr ⟨taking, isRetro, .inr rfl⟩⟩
      · exact absurd (others evt prepares takes) isOpen
  single := one.symm.imp And.left And.right

theorem one_waits (others : ∀ evt,
        evt ≠ .prepareSnapshot → evt ≠ .takePicture → next.opened evt = 0)
    (one : (next.opened .prepareSnapshot = 1 ∧ next.opened .takePicture = 0) ∨
        (next.opened .prepareSnapshot = 0 ∧ next.opened .takePicture = 1))
    (taking : next.sm.state = .previewPicTaking)
    (isRetro : retro = true) :
    Answered retro next ∧ Inv next := by
  refine ⟨answered_of_one others one taking isRetro,
    ⟨others, fun isPreparing => ?_, fun _ => .inr one, fun _ elsewhere => absurd taking elsewhere⟩⟩
  rw [taking] at isPreparing
  cases isPreparing

theorem prepare_waits (preparing : next.sm.state = .prepareSnapshot)
    (opens : next.opened .prepareSnapshot = 1)
    (rest : ∀ evt, evt ≠ .prepareSnapshot → next.opened evt = 0) :
    Answered retro next ∧ Inv next := by
  have takes := rest .takePicture (by simp)
  refine ⟨⟨fun evt isOpen => ?_, .inr takes⟩,
    ⟨fun evt notPrepare _ => rest evt notPrepare, fun _ => ⟨opens, takes⟩,
      fun isTaking => ?_, fun elsewhere => absurd preparing elsewhere⟩⟩
  · have isPrepare : evt = .prepareSnapshot := by
      by_contra different
      exact isOpen (rest evt different)
    exact ⟨isPrepare ▸ opens, .inl ⟨preparing, isPrepare⟩⟩
  · rw [preparing] at isTaking
    cases isTaking

/-! ## What an event does to the open commands -/

theorem openAfter_answered (isAnswered : answers outputs = [.api evt]) :
    openAfter (.api evt) outputs opened = opened := by
  funext command
  by_cases same : evt = command
  · simp [openAfter, isAnswered, same]
  · simp [openAfter, isAnswered, same]

theorem openAfter_left (isOpen : answers outputs = []) (command : ApiEvt) :
    openAfter (.api evt) outputs opened command =
      opened command + if evt = command then 1 else 0 := by
  simp [openAfter, isOpen]

theorem openAfter_internal (evt : InternalEvt) (outputs : List SmOutput) (opened : ApiEvt → Int)
    (command : ApiEvt) :
    openAfter (.internal evt) outputs opened command =
      opened command - (answers outputs).count (.api command) := by
  simp [openAfter]

theorem not_answered_of_ignored (inv : Inv run)
    (ignored : ignores run.sm.state evt = true)
    (isOpen : next.opened evt = run.opened evt + 1) :
    ¬ Answered retro next := by
  intro done
  have plain : evt ≠ .prepareSnapshot ∧ evt ≠ .takePicture := by
    constructor
    · rintro rfl
      cases ignored
    · rintro rfl
      cases ignored
  have before := inv.others evt plain.1 plain.2
  rcases (done.settled evt (by omega)).2 with
    ⟨-, prepares⟩ | ⟨-, -, prepares | takes⟩
  · exact plain.1 prepares
  · exact plain.1 prepares
  · exact plain.2 takes

/-! ## Commands -/

section Step

variable {parent : Parent}

/-- After a command. -/
def CommandRun.command (run : CommandRun) (parent : Parent) (evt : ApiEvt) : CommandRun :=
  let done := stateMachineApi parent evt run.sm
  { sm := done.1
    opened := openAfter (.api evt) done.2 run.opened }

theorem command_opened {evt : ApiEvt} (handled : ignores run.sm.state evt = false)
    (now : defers parent run.sm.state evt = false) :
    (run.command parent evt).opened = run.opened := by
  refine openAfter_answered ?_
  rw [stateMachineApi_answers, answered, handled, now]
  rfl

theorem command_left {evt : ApiEvt} (left : ignores run.sm.state evt = true ∨
        defers parent run.sm.state evt = true)
    (command : ApiEvt) :
    (run.command parent evt).opened command =
      run.opened command + if evt = command then 1 else 0 := by
  refine openAfter_left ?_ command
  rw [stateMachineApi_answers, answered, if_pos (by simpa using left)]

theorem defers_cases (left : defers parent state evt = true) :
    (state = .previewing ∧ (evt = .prepareSnapshot ∨ evt = .takePicture)) ∨
      (state = .previewPicTaking ∧ evt = .prepareSnapshot ∧ parent.isRetroPicture = true) := by
  cases state <;> cases evt <;> simp_all [defers]

theorem defers_takePicture (left : defers parent .previewing .takePicture = true) :
    parent.isRetroPicture = true := by
  simp only [defers, Bool.and_eq_true] at left
  exact left.1.2

theorem command_previewing_left (inv : Inv run) (previews : run.sm.state = .previewing)
    (left : defers parent run.sm.state evt = true) :
    Answered parent.isRetroPicture (run.command parent evt) ∧ Inv (run.command parent evt) := by
  have none := inv.idle (by simp [previews]) (by simp [previews])
  have opened : ∀ command, (run.command parent evt).opened command =
          if evt = command then 1 else 0 := by
    intro command
    rw [command_left (.inr left), none command, Int.zero_add]
  have moved := previewingApi_state parent run.sm previews evt
  have same : (run.command parent evt).sm = (previewingApi parent run.sm evt).1 := by
    simp only [CommandRun.command, stateMachineApi, previews]
  rw [← same] at moved
  rcases defers_cases left with ⟨-, rfl | rfl⟩ | ⟨taking, -⟩
  · have isPreparing := moved.1.mpr ⟨rfl, by rw [← previews]; exact left⟩
    refine prepare_waits isPreparing (by simp [opened]) ?_
    intro command notPrepare
    rw [opened, if_neg (Ne.symm notPrepare)]
  · have taking : (run.command parent .takePicture).sm.state = .previewPicTaking := by
      by_contra elsewhere
      cases moved.2 elsewhere (by rw [← previews]; exact left)
    have isRetro := defers_takePicture (by rw [← previews]; exact left)
    refine one_waits ?_ (.inr ⟨by simp [opened], by simp [opened]⟩) taking isRetro
    intro command _ notTake
    rw [opened, if_neg (Ne.symm notTake)]
  · rw [previews] at taking
    cases taking

theorem Inv.rest_of_prepare (inv : Inv run) (takes : run.opened .takePicture = 0) (evt : ApiEvt)
    (notPrepare : evt ≠ .prepareSnapshot) :
    run.opened evt = 0 := by
  by_cases isTake : evt = .takePicture
  · exact isTake ▸ takes
  · exact inv.others evt notPrepare isTake

theorem Inv.rest_of_take (inv : Inv run) (prepares : run.opened .prepareSnapshot = 0) (evt : ApiEvt)
    (notTake : evt ≠ .takePicture) :
    run.opened evt = 0 := by
  by_cases isPrepare : evt = .prepareSnapshot
  · exact isPrepare ▸ prepares
  · exact inv.others evt isPrepare notTake

theorem Inv.none_of_idle (inv : Inv run) (idle : ¬ run.waits) (evt : ApiEvt) :
    run.opened evt = 0 := by
  simp only [CommandRun.waits, not_or, Decidable.not_not] at idle
  by_cases prepares : evt = .prepareSnapshot
  · exact prepares ▸ idle.1
  · exact inv.rest_of_prepare idle.2 evt prepares

theorem Inv.one_of_waits (inv : Inv run) (taking : run.sm.state = .previewPicTaking)
    (waits : run.waits) :
    (run.opened .prepareSnapshot = 1 ∧ run.opened .takePicture = 0) ∨
      (run.opened .prepareSnapshot = 0 ∧ run.opened .takePicture = 1) := by
  rcases inv.taking taking with ⟨noPrepare, noTake⟩ | one
  · rcases waits with waits | waits
    · exact absurd noPrepare waits
    · exact absurd noTake waits
  · exact one

theorem command_idle (inv : Inv run) (idle : ¬ run.waits)
    (handled : ignores run.sm.state evt = false)
    (now : defers parent run.sm.state evt = false)
    (elsewhere : (run.command parent evt).sm.state ≠ .prepareSnapshot) :
    Answered parent.isRetroPicture (run.command parent evt) ∧ Inv (run.command parent evt) := by
  have none : ∀ command, (run.command parent evt).opened command = 0 := by
    rw [command_opened handled now]
    exact inv.none_of_idle idle
  exact ⟨answered_of_none none, inv_of_none none elsewhere⟩

theorem command_taking_state (taking : run.sm.state = .previewPicTaking) (evt : ApiEvt) :
    ((run.command parent evt).sm.state = .previewPicTaking ↔ leavesWithCommand parent evt = false) ∧
      (run.command parent evt).sm.state ≠ .prepareSnapshot := by
  have same : (run.command parent evt).sm = (previewPicTakingApi parent run.sm evt).1 := by
    simp only [CommandRun.command, stateMachineApi, taking]
  rw [same]
  exact previewPicTakingApi_state parent run.sm taking evt

theorem command_taking (inv : Inv run) (taking : run.sm.state = .previewPicTaking)
    (careful : CarefulCommand run parent evt) :
    Answered parent.isRetroPicture (run.command parent evt) ∧ Inv (run.command parent evt) := by
  obtain ⟨handled, waiting⟩ := careful
  obtain ⟨stays, elsewhere⟩ := @command_taking_state run parent taking evt
  by_cases waits : run.waits
  · obtain ⟨isRetro, remains, now⟩ := waiting taking waits
    rw [← taking] at now
    have same := command_opened handled now
    refine one_waits ?_ ?_ (stays.mpr remains) isRetro
    · rw [same]
      exact inv.others
    · rw [same]
      exact inv.one_of_waits taking waits
  · have none := inv.none_of_idle waits
    cases now : defers parent run.sm.state evt with
    | false => exact command_idle inv waits handled now elsewhere
    | true =>
      rcases defers_cases now with ⟨previews, -⟩ | ⟨-, rfl, isRetro⟩
      · rw [taking] at previews
        cases previews
      · have opened : ∀ command, (run.command parent .prepareSnapshot).opened command =
                if ApiEvt.prepareSnapshot = command then 1 else 0 := by
          intro command
          rw [command_left (.inr now), none command, Int.zero_add]
        refine one_waits ?_ (.inl ⟨by simp [opened], by simp [opened]⟩) (stays.mpr rfl) isRetro
        intro command notPrepare _
        rw [opened, if_neg (Ne.symm notPrepare)]

theorem Inv.idle_elsewhere (inv : Inv run) (notPreparing : run.sm.state ≠ .prepareSnapshot)
    (notTaking : run.sm.state ≠ .previewPicTaking) :
    ¬ run.waits := by
  have none := inv.idle notPreparing notTaking
  simp [CommandRun.waits, none]

theorem command_careful (inv : Inv run) (careful : CarefulCommand run parent evt) :
    Answered parent.isRetroPicture (run.command parent evt) ∧ Inv (run.command parent evt) := by
  have handled := careful.1
  by_cases preparing : run.sm.state = .prepareSnapshot
  · have now : defers parent run.sm.state evt = false := by
      rw [preparing]
      rfl
    have same : run.command parent evt = run := by
      have opened := command_opened handled now
      have sm : (run.command parent evt).sm = run.sm := by
        simp only [CommandRun.command, stateMachineApi, preparing]
        exact prepareSnapshotApi_same run.sm evt
      exact CommandRun.ext sm opened
    obtain ⟨prepares, takes⟩ := inv.preparing preparing
    rw [same]
    exact prepare_waits preparing prepares (inv.rest_of_prepare takes)
  · by_cases taking : run.sm.state = .previewPicTaking
    · exact command_taking inv taking careful
    · have idle := inv.idle_elsewhere preparing taking
      by_cases previews : run.sm.state = .previewing
      · cases now : defers parent run.sm.state evt with
        | true => exact command_previewing_left inv previews now
        | false =>
          refine command_idle inv idle handled now ?_
          simp only [CommandRun.command, stateMachineApi, previews]
          intro isPreparing
          obtain ⟨rfl, left⟩ :=
            (previewingApi_state parent run.sm previews evt).1.mp isPreparing
          rw [previews, left] at now
          cases now
      · have now : defers parent run.sm.state evt = false := by
          by_contra left
          rcases defers_cases (by simpa using left) with
            ⟨same, -⟩ | ⟨same, -⟩
          · exact previews same
          · exact taking same
        exact command_idle inv idle handled now
          (stateMachineApi_noPrepare parent run.sm previews preparing evt)

theorem command_careless (inv : Inv run)
    (done : Answered parent.isRetroPicture (run.command parent evt)) :
    CarefulCommand run parent evt := by
  have handled : ignores run.sm.state evt = false := by
    by_contra ignored
    have isIgnored : ignores run.sm.state evt = true := by simpa using ignored
    have isOpen := @command_left run parent evt (.inl isIgnored) evt
    rw [if_pos rfl] at isOpen
    exact not_answered_of_ignored inv isIgnored isOpen done
  refine ⟨handled, fun taking waits => ?_⟩
  obtain ⟨stays, elsewhere⟩ := @command_taking_state run parent taking evt
  have one := inv.one_of_waits taking waits
  cases now : defers parent run.sm.state evt with
  | true =>
    exfalso
    rcases defers_cases now with ⟨previews, -⟩ | ⟨-, rfl, -⟩
    · rw [taking] at previews
      cases previews
    · have prepares := @command_left run parent .prepareSnapshot (.inr now) .prepareSnapshot
      have takes := @command_left run parent .prepareSnapshot (.inr now) .takePicture
      rw [if_pos rfl] at prepares
      rw [if_neg (by simp)] at takes
      rcases one with ⟨waited, -⟩ | ⟨waited, took⟩
      · have := (done.settled .prepareSnapshot (by omega)).1
        omega
      · rcases done.single with none | none
        · omega
        · omega
  | false =>
    have opened := @command_opened run parent evt handled now
    obtain ⟨command, isOpen⟩ : ∃ command, (run.command parent evt).opened command ≠ 0 := by
      rw [opened]
      rcases waits with waits | waits
      · exact ⟨.prepareSnapshot, waits⟩
      · exact ⟨.takePicture, waits⟩
    rcases (done.settled command isOpen).2 with
      ⟨prepares, -⟩ | ⟨remains, isRetro, -⟩
    · exact absurd prepares elsewhere
    · rw [taking] at now
      exact ⟨isRetro, stays.mp remains, now⟩

/-! ## Internal events -/

/-- After an internal event. -/
def CommandRun.internal (run : CommandRun) (parent : Parent) (evt : InternalEvt) : CommandRun :=
  let done := stateMachineInternal parent evt run.sm
  { sm := done.1
    opened := openAfter (.internal evt) done.2 run.opened }

theorem internal_opened (evt : InternalEvt) (command : ApiEvt) :
    (run.internal parent evt).opened command = run.opened command -
        (released parent run.sm.state evt).count (.api command) := by
  rw [← stateMachineInternal_answers]
  exact openAfter_internal evt _ run.opened command

theorem internal_silent {evt : InternalEvt} (silent : ∀ command : ApiEvt,
        (released parent run.sm.state evt).count (.api command) = 0) :
    (run.internal parent evt).opened = run.opened := by
  funext command
  rw [internal_opened, silent command]
  simp

theorem internal_settles {evt : InternalEvt} {command : ApiEvt}
    (answers : released parent run.sm.state evt = [.api command])
    (opens : run.opened command = 1)
    (rest : ∀ other, other ≠ command → run.opened other = 0) (other : ApiEvt) :
    (run.internal parent evt).opened other = 0 := by
  rw [internal_opened, answers]
  by_cases same : other = command
  · subst same
    simp [opens]
  · simp [rest other same, Ne.symm same]

theorem not_answered_of_released (negative : next.opened evt < 0) :
    ¬ Answered retro next := by
  intro done
  have one := (done.settled evt (by omega)).1
  omega

theorem released_elsewhere (notPreparing : state ≠ .prepareSnapshot)
    (notPic : state ≠ .picTaking) (notTaking : state ≠ .previewPicTaking)
    (evt : InternalEvt) :
    released parent state evt = [] := by
  cases state <;> first | rfl | contradiction

theorem released_picTaking {evt : InternalEvt} (alive : evt ≠ .evtNotify true) :
    released parent .picTaking evt = [] := by
  rcases evt with type | died | _ | _ | _ | _
  case evtNotify =>
    cases died with
    | true => exact absurd rfl alive
    | false => rfl
  all_goals rfl

theorem released_taking {evt : InternalEvt} (notPrepared : ¬ (parent.isRetroPicture = true ∧
        evt = .evtInternal .prepSnapshotDone))
    (notReady : ¬ (parent.isRetroPicture = true ∧ evt = .evtInternal .readyForSnapshot))
    (command : ApiEvt) :
    (released parent .previewPicTaking evt).count (.api command) = 0 := by
  rcases evt with type | died | _ | _ | _ | _
  case evtInternal =>
    cases type
    case prepSnapshotDone =>
      have notRetro : parent.isRetroPicture = false := by
        simpa using notPrepared
      simp [released, notRetro]
    case readyForSnapshot =>
      have notRetro : parent.isRetroPicture = false := by
        simpa using notReady
      simp [released, notRetro]
    all_goals rfl
  case snapshotDone =>
    cases retro : parent.isRetroPicture <;> simp [released, retro]
  all_goals rfl

theorem internal_taking_state (taking : run.sm.state = .previewPicTaking) (evt : InternalEvt) :
    (run.internal parent evt).sm.state =
      if evt = .snapshotDone then .previewing else .previewPicTaking := by
  have moved := previewPicTakingInternal_state parent run.sm evt
  rw [taking] at moved
  simpa only [CommandRun.internal, stateMachineInternal, taking] using moved

theorem internal_taking {evt : InternalEvt} (inv : Inv run)
    (taking : run.sm.state = .previewPicTaking)
    (careful : CarefulInternal run parent evt) :
    Answered parent.isRetroPicture (run.internal parent evt) ∧ Inv (run.internal parent evt) := by
  obtain ⟨waiting, released⟩ := careful.2 taking
  have moved := @internal_taking_state run parent taking evt
  have elsewhere : (run.internal parent evt).sm.state ≠ .prepareSnapshot := by
    rw [moved]
    split <;> simp
  have settle : (∀ command, (run.internal parent evt).opened command = 0) →
        Answered parent.isRetroPicture (run.internal parent evt) ∧ Inv (run.internal parent evt) :=
    fun none => ⟨answered_of_none none, inv_of_none none elsewhere⟩
  by_cases prepared : parent.isRetroPicture = true ∧ evt = .evtInternal .prepSnapshotDone
  · obtain ⟨isRetro, rfl⟩ := prepared
    have waits := (released isRetro).1 rfl
    have answers : ApiStates.released parent run.sm.state
            (.evtInternal .prepSnapshotDone) = [.api .prepareSnapshot] := by
      simp [ApiStates.released, taking, isRetro]
    rcases inv.one_of_waits taking (.inl waits) with ⟨opens, none⟩ | ⟨none, -⟩
    · exact settle (internal_settles answers opens (inv.rest_of_prepare none))
    · exact absurd none waits
  · by_cases ready : parent.isRetroPicture = true ∧ evt = .evtInternal .readyForSnapshot
    · obtain ⟨isRetro, rfl⟩ := ready
      have waits := (released isRetro).2 rfl
      have answers : ApiStates.released parent run.sm.state
              (.evtInternal .readyForSnapshot) = [.api .takePicture] := by
        simp [ApiStates.released, taking, isRetro]
      rcases inv.one_of_waits taking (.inr waits) with
        ⟨-, none⟩ | ⟨none, opens⟩
      · exact absurd none waits
      · exact settle (internal_settles answers opens (inv.rest_of_take none))
    · have same : (run.internal parent evt).opened = run.opened := by
        refine internal_silent ?_
        rw [taking]
        exact released_taking prepared ready
      by_cases waits : run.waits
      · obtain ⟨isRetro, notDone⟩ := waiting waits
        rw [if_neg notDone] at moved
        refine one_waits ?_ ?_ moved isRetro
        · rw [same]
          exact inv.others
        · rw [same]
          exact inv.one_of_waits taking waits
      · refine settle fun command => ?_
        rw [same]
        exact inv.none_of_idle waits command

theorem internal_preparing {evt : InternalEvt} (inv : Inv run)
    (preparing : run.sm.state = .prepareSnapshot) :
    Answered retro (run.internal parent evt) ∧ Inv (run.internal parent evt) := by
  obtain ⟨prepares, takes⟩ := inv.preparing preparing
  have moved := prepareSnapshotInternal_state parent run.sm evt
  have sm : (run.internal parent evt).sm = (prepareSnapshotInternal parent run.sm evt).1 := by
    simp only [CommandRun.internal, stateMachineInternal, preparing]
  rw [← sm, preparing] at moved
  by_cases prepared : evt = .evtInternal .prepSnapshotDone
  · subst prepared
    have answers : released parent run.sm.state (.evtInternal .prepSnapshotDone) =
          [.api .prepareSnapshot] := by
      rw [preparing]
      rfl
    have none := internal_settles answers prepares (inv.rest_of_prepare takes)
    exact ⟨answered_of_none none, inv_of_none none (by simp [moved])⟩
  · rw [if_neg prepared] at moved
    have same : (run.internal parent evt).opened = run.opened := by
      refine internal_silent ?_
      intro command
      rw [preparing]
      rcases evt with type | died | _ | _ | _ | _
      case evtInternal =>
        cases type
        case prepSnapshotDone => exact absurd rfl prepared
        all_goals rfl
      all_goals rfl
    refine prepare_waits moved ?_ ?_
    · rw [same]
      exact prepares
    · rw [same]
      exact inv.rest_of_prepare takes

theorem internal_careful {evt : InternalEvt} (inv : Inv run)
    (careful : CarefulInternal run parent evt) :
    Answered parent.isRetroPicture (run.internal parent evt) ∧ Inv (run.internal parent evt) := by
  by_cases preparing : run.sm.state = .prepareSnapshot
  · exact internal_preparing inv preparing
  · by_cases taking : run.sm.state = .previewPicTaking
    · exact internal_taking inv taking careful
    · have none : ∀ command, (run.internal parent evt).opened command = 0 := by
        rw [internal_silent]
        · exact inv.idle preparing taking
        · intro command
          by_cases pic : run.sm.state = .picTaking
          · rw [pic, released_picTaking (careful.1 pic)]
            rfl
          · rw [released_elsewhere preparing pic taking]
            rfl
      exact ⟨answered_of_none none, inv_of_none none
        (stateMachineInternal_noPrepare parent run.sm preparing evt)⟩

theorem internal_careless {evt : InternalEvt} (inv : Inv run)
    (done : Answered parent.isRetroPicture (run.internal parent evt)) :
    CarefulInternal run parent evt := by
  constructor
  · rintro pic rfl
    have none := inv.idle (by simp [pic]) (by simp [pic]) .takePicture
    have opened := @internal_opened run parent (.evtNotify true) .takePicture
    have negative : (run.internal parent (.evtNotify true)).opened .takePicture < 0 := by
      rw [opened, none, pic]
      simp [released]
    exact not_answered_of_released negative done
  · intro taking
    have moved := @internal_taking_state run parent taking evt
    have waited : parent.isRetroPicture = true → (evt = .evtInternal .prepSnapshotDone →
            run.opened .prepareSnapshot ≠ 0) ∧
          (evt = .evtInternal .readyForSnapshot → run.opened .takePicture ≠ 0) := by
      intro isRetro
      constructor
      · rintro rfl none
        have opened := @internal_opened run parent (.evtInternal .prepSnapshotDone) .prepareSnapshot
        rw [none, taking] at opened
        exact not_answered_of_released (by rw [opened]; simp [released, isRetro]) done
      · rintro rfl none
        have opened := @internal_opened run parent (.evtInternal .readyForSnapshot) .takePicture
        rw [none, taking] at opened
        exact not_answered_of_released (by rw [opened]; simp [released, isRetro]) done
    refine ⟨fun waits => ?_, waited⟩
    obtain ⟨command, isOpen⟩ : ∃ command, run.opened command ≠ 0 := by
      rcases waits with waits | waits
      · exact ⟨.prepareSnapshot, waits⟩
      · exact ⟨.takePicture, waits⟩
    by_contra careless
    -- nothing is answered by an event that is careless in this way
    have same : (run.internal parent evt).opened = run.opened := by
      refine internal_silent ?_
      rw [taking]
      refine released_taking ?_ ?_
      · rintro ⟨isRetro, rfl⟩
        exact careless ⟨isRetro, by simp⟩
      · rintro ⟨isRetro, rfl⟩
        exact careless ⟨isRetro, by simp⟩
    rw [← same] at isOpen
    rcases (done.settled command isOpen).2 with
      ⟨isPreparing, -⟩ | ⟨remains, isRetro, -⟩
    · rw [moved] at isPreparing
      split at isPreparing <;> cases isPreparing
    · refine careless ⟨isRetro, ?_⟩
      rintro rfl
      rw [moved, if_pos rfl] at remains
      cases remains

/-! ## Runs -/

theorem answeredAfter_iff_careful (inv : Inv run) :
    AnsweredAfter run event ↔ Careful run event := by
  obtain ⟨evt, parent⟩ := event
  cases evt with
  | api evt =>
    constructor
    · intro done
      exact command_careless inv (done (run.command parent evt) _ rfl)
    · intro careful next outputs stepped
      cases stepped
      exact (command_careful inv careful).1
  | internal evt =>
    constructor
    · intro done
      exact internal_careless inv (done (run.internal parent evt) _ rfl)
    · intro careful next outputs stepped
      cases stepped
      exact (internal_careful inv careful).1

theorem smStep_inv (inv : Inv run) (careful : Careful run event)
    (stepped : smStep run event = some (next, outputs)) :
    Inv next := by
  obtain ⟨evt, parent⟩ := event
  cases stepped
  cases evt with
  | api evt => exact (command_careful inv careful).2
  | internal evt => exact (internal_careful inv careful).2

end Step

/--
In every run from the start, every command is answered after each event just
when all events are careful.
-/
theorem smRun_answered_iff (events : List SmEvent) :
    LabelledRun.Guarded smStep (fun run _ event => AnsweredAfter run event)
        CommandRun.start [] events ↔
      LabelledRun.Guarded smStep (fun run _ event => Careful run event)
        CommandRun.start [] events := by
  refine LabelledRun.guarded_iff_of_invariant Inv
    (fun inv => answeredAfter_iff_careful inv) ?_ CommandRun.start_inv
  intro run _ event next outputs inv done stepped
  exact smStep_inv inv ((answeredAfter_iff_careful inv).mp done) stepped

/-- A parent whose calls all succeed, and that takes no retro picture. -/
def ableParent : Parent where
  msgs := 0
  longshotOn := false
  longshotOff := false
  restartsPreview := false
  vanillaHal := false
  rc := fun _ => 0
  needRestart := false
  faceId := 0
  hasPreviewWindow := true
  isZSLMode := false
  isLongshotEnabled := false
  isRetroPicture := false
  recordingHint := false
  isPreviewRestartEnabled := false
  hasHandle := true

/-- A face image is registered while a snapshot is prepared. -/
def faceWhilePreparing : List SmEvent :=
  [{ evt := .api .startPreview, parent := ableParent },
    { evt := .api .prepareSnapshot, parent := ableParent },
    { evt := .api .regFaceImage, parent := ableParent }]

/-- The face image is never answered. -/
theorem smRun_unanswered : ¬ LabelledRun.Guarded smStep (fun run _ event => AnsweredAfter run event)
      CommandRun.start [] faceWhilePreparing := by
  rintro ⟨-, previews⟩
  obtain ⟨-, prepares⟩ := previews _ _ rfl
  obtain ⟨registers, -⟩ := prepares _ _ rfl
  have done := registers _ _ rfl
  have isOpen := (done.settled .regFaceImage (by decide)).2
  simp at isOpen

end AnglerHal.ApiStates
