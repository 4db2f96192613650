import AnglerHal.DefferedWork
import Mathlib.Data.List.Nodup

namespace AnglerHal.DefferedWork

open LabelledRun

/-!
# Ids and wake-ups of deffered work

Ids stay apart and a wait returns in time along every run; no sleeper is
forgotten exactly when every step is `Prompt`.
-/

/-! ## Threads in the waiting list -/

/-- Waking threads changes no name. -/
@[simp] theorem map_thread_setWoken (thread : Nat) (woken : Bool) (waiters : List Waiter) :
    (setWoken thread woken waiters).map Waiter.thread = waiters.map Waiter.thread := by
  simp only [setWoken, List.map_map]
  apply List.map_congr_left
  intro waiter _
  simp only [Function.comp_apply]
  split <;> rfl

@[simp] theorem map_thread_wakeAll (waiters : List Waiter) :
    (wakeAll waiters).map Waiter.thread = waiters.map Waiter.thread := by
  simp only [wakeAll, List.map_map]
  rfl

/-- The same wait as another one, up to a pending wake-up. -/
def Waiter.SameWait (waiter other : Waiter) : Prop :=
  waiter.thread = other.thread ∧ waiter.jobId = other.jobId ∧ waiter.job = other.job

variable {thread jobId number : Nat} {waiter : Waiter} {cmd : DefferedWorkCmd}
  {signalled : Option Nat} {notified : List Waiter} {state : DeffState}
  {work : DeffWork} {event : DeffEvent} {result : DeffState × List DeffOutput}

theorem mem_setWoken {woken : Bool} {waiters : List Waiter}
    (member : waiter ∈ setWoken thread woken waiters) :
    ∃ before ∈ waiters, waiter.SameWait before ∧
      (waiter.woken = if before.thread = thread then woken
        else before.woken) := by
  obtain ⟨before, listed, rfl⟩ := List.mem_map.mp member
  refine ⟨before, listed, ?_, ?_⟩
  · split <;> exact ⟨rfl, rfl, rfl⟩
  · split <;> rfl

theorem mem_notified {waiters : List Waiter}
    (notifies : notified? cmd signalled waiters = some notified)
    (member : waiter ∈ notified) :
    ∃ before ∈ waiters, waiter.SameWait before ∧ (waiter.woken = false → before.woken = false) := by
  have unchanged (same : waiters = notified) : ∃ before ∈ waiters, waiter.SameWait before ∧
        (waiter.woken = false → before.woken = false) := by
    rw [same]
    exact ⟨waiter, member, ⟨rfl, rfl, rfl⟩, id⟩
  cases cmd with
  | allocateBuff channel =>
    cases channel with
    | false => exact unchanged (Option.some.inj notifies)
    | true =>
      simp only [notified?, signal?] at notifies
      split at notifies <;> split at notifies
      · exact unchanged (Option.some.inj notifies)
      · contradiction
      · obtain rfl := Option.some.inj notifies
        obtain ⟨before, listed, same, woken⟩ := mem_setWoken member
        refine ⟨before, listed, same, ?_⟩
        intro asleep
        rw [asleep] at woken
        split at woken
        · contradiction
        · exact woken.symm
      · contradiction
  | pprocStart channel =>
    obtain rfl := Option.some.inj notifies
    obtain ⟨before, listed, rfl⟩ := List.mem_map.mp member
    exact ⟨before, listed, ⟨rfl, rfl, rfl⟩, fun asleep => by
      contradiction⟩

theorem map_thread_notified {waiters : List Waiter}
    (notifies : notified? cmd signalled waiters = some notified) :
    notified.map Waiter.thread = waiters.map Waiter.thread := by
  cases cmd with
  | allocateBuff channel =>
    cases channel with
    | false => rw [Option.some.inj notifies]
    | true =>
      simp only [notified?, signal?] at notifies
      split at notifies <;> split at notifies
      · rw [Option.some.inj notifies]
      · contradiction
      · obtain rfl := Option.some.inj notifies
        exact map_thread_setWoken _ _ _
      · contradiction
  | pprocStart channel =>
    obtain rfl := Option.some.inj notifies
    exact map_thread_wakeAll _

/-! ## The invariant -/

/-- What holds between the steps, apart from the sleepers. -/
structure DeffInv (state : DeffState) : Prop where
  distinct : (state.jobs.map DeffWork.id).Nodup
  numbered : (state.jobs.map DeffWork.number).Nodup
  ongoing : ∀ work ∈ state.jobs, state.mDeffOngoingJobs work.id = true
  pending : ∀ work ∈ state.jobs, work.number ∉ state.finished
  counted : ∀ work ∈ state.jobs, work.number < state.nextNumber
  finished : ∀ number ∈ state.finished, number < state.nextNumber
  threads : (state.waiters.map Waiter.thread).Nodup
  waiting : ∀ waiter ∈ state.waiters, ∀ number, waiter.job = some number → number ∈ state.finished ∨
        ∃ work ∈ state.jobs, work.number = number ∧ work.id = waiter.jobId

/-- No thread sleeps for a job that has run. -/
def DeffState.Awake (state : DeffState) : Prop :=
  ∀ waiter ∈ state.waiters, waiter.woken = false → waiter.MaySleep state.finished

theorem deffInv_created : DeffInv .created := by
  constructor <;> simp [DeffState.created, DeffState.jobs]

theorem DeffInv.jobWith_of_free (inv : DeffInv state)
    (free : state.mDeffOngoingJobs jobId = false) :
    state.jobWith jobId = none := by
  simp only [DeffState.jobWith, Option.map_eq_none_iff, List.find?_eq_none, decide_eq_true_eq]
  rintro work member rfl
  rw [inv.ongoing work member] at free
  contradiction

theorem mem_of_jobWith (found : state.jobWith jobId = some number) :
    ∃ work ∈ state.jobs, work.number = number ∧ work.id = jobId := by
  obtain ⟨work, search, rfl⟩ := Option.map_eq_some_iff.mp found
  exact ⟨work, List.mem_of_find?_eq_some search, rfl, by simpa using List.find?_some search⟩

theorem freeId_free {i : Nat} (found : state.freeId = some i) :
    state.mDeffOngoingJobs i = false := by
  simpa using List.find?_some found

theorem DeffInv.queueDefferedWork (inv : DeffInv state) (thread : Nat)
    (cmd : DefferedWorkCmd) (active : Bool) :
    DeffInv (state.queueDefferedWork thread cmd active).1 ∧
      (state.queueDefferedWork thread cmd active).1.waiters = state.waiters ∧
      (state.queueDefferedWork thread cmd active).1.finished =
        state.finished := by
  unfold DeffState.queueDefferedWork
  split
  · exact ⟨inv, rfl, rfl⟩
  · rename_i i found
    have free := freeId_free found
    split
    · refine ⟨?_, rfl, rfl⟩
      have apart : ∀ work ∈ state.jobs, work.id ≠ i := by
        rintro work member rfl
        rw [inv.ongoing work member] at free
        contradiction
      have fresh : ∀ work ∈ state.jobs, work.number ≠ state.nextNumber :=
        fun work member => Nat.ne_of_lt (inv.counted work member)
      have jobs : DeffState.jobs { state.setOngoing i true with
                mCmdQueue :=
                  state.mCmdQueue ++ [{
                    number := state.nextNumber
                    id := i
                    cmd := cmd }]
                nextNumber := state.nextNumber + 1 } =
            state.jobs ++ [{
              number := state.nextNumber
              id := i
              cmd := cmd }] :=
        (List.append_assoc _ _ _).symm
      constructor
      · rw [jobs, List.map_append, List.nodup_append]
        refine ⟨inv.distinct, List.nodup_singleton _, ?_⟩
        intro id listed other new
        obtain ⟨work, member, rfl⟩ := List.mem_map.mp listed
        rw [List.map_singleton, List.mem_singleton] at new
        rw [new]
        exact apart work member
      · rw [jobs, List.map_append, List.nodup_append]
        refine ⟨inv.numbered, List.nodup_singleton _, ?_⟩
        intro number listed other new
        obtain ⟨work, member, rfl⟩ := List.mem_map.mp listed
        rw [List.map_singleton, List.mem_singleton] at new
        rw [new]
        exact fresh work member
      · rw [jobs]
        intro work member
        rcases List.mem_append.mp member with old | new
        · exact (if_neg (apart work old)).trans (inv.ongoing work old)
        · rw [List.mem_singleton] at new
          rw [new]
          exact if_pos rfl
      · rw [jobs]
        intro work member
        rcases List.mem_append.mp member with old | new
        · exact inv.pending work old
        · rw [List.mem_singleton] at new
          rw [new]
          exact fun done =>
            absurd (inv.finished _ done) (Nat.lt_irrefl _)
      · rw [jobs]
        intro work member
        rcases List.mem_append.mp member with old | new
        · exact Nat.lt_succ_of_lt (inv.counted work old)
        · rw [List.mem_singleton] at new
          rw [new]
          exact Nat.lt_succ_self _
      · exact fun number done => Nat.lt_succ_of_lt (inv.finished number done)
      · exact inv.threads
      · intro waiter member number job
        rcases inv.waiting waiter member number job with
          done | ⟨work, listed, same⟩
        · exact .inl done
        · right
          rw [jobs]
          exact ⟨work, List.mem_append_left _ listed, same⟩
    · exact ⟨inv, rfl, rfl⟩

theorem DeffInv.waitDefferedWork (inv : DeffInv state)
    (free : state.isFree thread = true) (jobId : Int) :
    DeffInv (state.waitDefferedWork thread jobId).1 := by
  unfold DeffState.waitDefferedWork
  split
  · exact inv
  · split
    · exact {
        distinct := inv.distinct
        numbered := inv.numbered
        ongoing := inv.ongoing
        pending := inv.pending
        counted := inv.counted
        finished := inv.finished
        threads := by
          refine List.nodup_cons.mpr ⟨?_, inv.threads⟩
          intro listed
          obtain ⟨waiter, member, same⟩ := List.mem_map.mp listed
          have apart := List.all_eq_true.mp free waiter member
          simp [same] at apart
        waiting := by
          intro waiter member number job
          rcases List.mem_cons.mp member with rfl | old
          · exact .inr (mem_of_jobWith job)
          · exact inv.waiting waiter old number job }
    · exact inv

theorem DeffInv.waiters (inv : DeffInv state) {waiters : List Waiter}
    (threads : (waiters.map Waiter.thread).Nodup)
    (before : ∀ waiter ∈ waiters, ∃ other ∈ state.waiters, waiter.SameWait other) :
    DeffInv { state with waiters := waiters } where
  distinct := inv.distinct
  numbered := inv.numbered
  ongoing := inv.ongoing
  pending := inv.pending
  counted := inv.counted
  finished := inv.finished
  threads := threads
  waiting := by
    intro waiter member number job
    obtain ⟨other, listed, _, sameId, sameJob⟩ := before waiter member
    rw [sameId]
    exact inv.waiting other listed number (sameJob ▸ job)

theorem DeffInv.dequeue (inv : DeffInv state) {later : List DeffWork}
    (idle : state.running = none) (queued : state.mCmdQueue = work :: later) :
    DeffInv { state with running := some work, mCmdQueue := later } := by
  have jobs : DeffState.jobs { state with running := some work, mCmdQueue := later } =
        state.jobs := by
    simp [DeffState.jobs, idle, queued]
  constructor
  · rw [jobs]
    exact inv.distinct
  · rw [jobs]
    exact inv.numbered
  · rw [jobs]
    exact inv.ongoing
  · rw [jobs]
    exact inv.pending
  · rw [jobs]
    exact inv.counted
  · exact inv.finished
  · exact inv.threads
  · rw [jobs]
    exact inv.waiting

theorem DeffInv.done (inv : DeffInv state) (runs : state.running = some work)
    {waiters : List Waiter} (threads : (waiters.map Waiter.thread).Nodup)
    (before : ∀ waiter ∈ waiters, ∃ other ∈ state.waiters, waiter.SameWait other) :
    DeffInv (state.done work waiters) := by
  have jobs : state.jobs = work :: (state.done work waiters).jobs := by
    simp [DeffState.jobs, DeffState.done, runs]
  have distinct := inv.distinct
  have numbered := inv.numbered
  rw [jobs, List.map_cons, List.nodup_cons] at distinct numbered
  have still {other : DeffWork} (member : other ∈ (state.done work waiters).jobs) :
      other ∈ state.jobs := by
    rw [jobs]
    exact List.mem_cons_of_mem work member
  constructor
  · exact distinct.2
  · exact numbered.2
  · intro other member
    have apart : other.id ≠ work.id := fun same =>
      distinct.1 (same ▸ List.mem_map_of_mem member)
    exact (if_neg fun both => apart both.1).trans (inv.ongoing other (still member))
  · intro other member done
    rcases List.mem_cons.mp done with now | old
    · exact numbered.1 (now ▸ List.mem_map_of_mem member)
    · exact inv.pending other (still member) old
  · exact fun other member => inv.counted other (still member)
  · intro number done
    rcases List.mem_cons.mp done with rfl | old
    · exact inv.counted work (jobs ▸ List.mem_cons_self)
    · exact inv.finished number old
  · exact threads
  · intro waiter member number job
    obtain ⟨other, listed, _, sameId, sameJob⟩ := before waiter member
    rcases inv.waiting other listed number (sameJob ▸ job) with
      done | ⟨held, listed, sameNumber, sameHeld⟩
    · exact .inl (List.mem_cons_of_mem _ done)
    · rw [jobs] at listed
      rcases List.mem_cons.mp listed with rfl | left
      · exact .inl (sameNumber ▸ List.mem_cons_self)
      · exact .inr ⟨held, left, sameNumber, sameHeld.trans sameId.symm⟩

/-! ## Steps -/

/-- What a step does, apart from the sleepers. -/
structure StepKeeps (next : DeffState) (emitted : List DeffOutput) : Prop where
  inv : DeffInv next
  ran : ∀ thread number, .returned thread (some number) ∈ emitted → number ∈ next.finished

theorem soundStep_of_none {past : List DeffEvent} (stuck : deffStep state event = none) :
    SoundStep state past event := by
  intro next emitted stepped
  rw [stuck] at stepped
  contradiction

/-! ## Sleepers -/

theorem mem_asleep :
    thread ∈ state.asleep ↔
      ∃ waiter ∈ state.waiters, waiter.woken = false ∧ waiter.thread = thread := by
  simp [DeffState.asleep, and_assoc]

theorem mem_sleepers :
    thread ∈ state.sleepers number ↔
      ∃ waiter ∈ state.waiters, waiter.woken = false ∧ waiter.job = some number ∧
        waiter.thread = thread := by
  simp [DeffState.sleepers, and_assoc]

theorem sleepers_eq_nil_iff :
    state.sleepers number = [] ↔
      ∀ waiter ∈ state.waiters, waiter.woken = false → waiter.job ≠ some number := by
  simp [DeffState.sleepers]

/-- Only a signal for a thread that does not sleep has no outcome. -/
theorem notified_none (notifies : notified? cmd signalled state.waiters = none) :
    cmd = .allocateBuff true ∧ ∀ thread, signalled = some thread → thread ∉ state.asleep := by
  cases cmd with
  | allocateBuff channel =>
    cases channel with
    | false => cases notifies
    | true =>
      refine ⟨rfl, ?_⟩
      rintro thread rfl listed
      obtain ⟨waiter, member, asleep, named⟩ := mem_asleep.mp listed
      simp only [notified?, signal?, ite_eq_right_iff, reduceCtorEq, imp_false] at notifies
      exact notifies (List.any_eq_true.mpr ⟨waiter, member, by simp [asleep, named]⟩)
  | pprocStart channel => cases notifies

/-- A signal leaves a sleeper of the job exactly when it goes to another thread. -/
theorem signal_sleepers_iff {waiters : List Waiter}
    (notifies : signal? signalled state.waiters = some waiters) :
    (∀ waiter ∈ waiters, waiter.woken = false → waiter.job ≠ some number) ↔
      ∀ thread ∈ state.asleep, signalled = some thread →
        ∀ sleeper ∈ state.sleepers number, sleeper = thread := by
  cases signalled with
  | none =>
    simp only [signal?, Option.ite_none_right_eq_some, List.all_eq_true] at notifies
    obtain ⟨allWoken, same⟩ := notifies
    obtain rfl := Option.some.inj same
    refine iff_of_true ?_ (by simp)
    intro waiter member asleep
    rw [allWoken waiter member] at asleep
    contradiction
  | some thread =>
    simp only [signal?, Option.ite_none_right_eq_some] at notifies
    obtain ⟨isAsleep, same⟩ := notifies
    obtain rfl := Option.some.inj same
    constructor
    · rintro others chosen - named sleeper listed
      obtain rfl := Option.some.inj named
      obtain ⟨waiter, member, asleep, job, rfl⟩ := mem_sleepers.mp listed
      by_contra other
      refine others waiter (List.mem_map.mpr ⟨waiter, member, if_neg other⟩) asleep job
    · intro only waiter member asleep job
      obtain ⟨before, listed, same, woken⟩ := mem_setWoken member
      obtain ⟨target, known, found⟩ := List.any_eq_true.mp isAsleep
      simp only [Bool.and_eq_true, decide_eq_true_eq, Bool.not_eq_true'] at found
      rw [asleep] at woken
      split at woken
      · contradiction
      · rename_i other
        refine other (only thread (mem_asleep.mpr ⟨target, known, found.2, found.1⟩) rfl
          before.thread (mem_sleepers.mpr ⟨before, listed, woken.symm, ?_, rfl⟩))
        exact same.2.2.symm.trans job

/-- After a job nobody is forgotten when no sleeper of this job is left. -/
theorem done_awake_iff (awake : state.Awake) {waiters : List Waiter}
    (notifies : notified? work.cmd signalled state.waiters = some waiters) :
    (state.done work waiters).Awake ↔
      ∀ waiter ∈ waiters, waiter.woken = false → waiter.job ≠ some work.number := by
  constructor
  · intro sleepers waiter member asleep job
    obtain ⟨number, sameJob, left⟩ := sleepers waiter member asleep
    rw [job] at sameJob
    obtain rfl := Option.some.inj sameJob
    exact left List.mem_cons_self
  · intro others waiter member asleep
    obtain ⟨before, listed, same, stays⟩ := mem_notified notifies member
    obtain ⟨number, job, left⟩ := awake before listed (stays asleep)
    have sameJob := same.2.2.trans job
    refine ⟨number, sameJob, ?_⟩
    intro done
    rcases List.mem_cons.mp done with rfl | old
    · exact others waiter member asleep sameJob
    · exact left old

section Steps

variable {past : List DeffEvent} (inv : DeffInv state) (awake : state.Awake)

include inv

theorem queueDefferedWork_keeps (thread : Nat) (cmd : DefferedWorkCmd) (active : Bool) :
    StepKeeps (state.queueDefferedWork thread cmd active).1
      (state.queueDefferedWork thread cmd active).2 := by
  refine ⟨(inv.queueDefferedWork thread cmd active).1, ?_⟩
  unfold DeffState.queueDefferedWork
  split
  · simp
  · split <;> simp

theorem waitDefferedWork_keeps (free : state.isFree thread = true) (jobId : Int) :
    StepKeeps (state.waitDefferedWork thread jobId).1 (state.waitDefferedWork thread jobId).2 := by
  refine ⟨inv.waitDefferedWork free jobId, ?_⟩
  unfold DeffState.waitDefferedWork
  split
  · simp
  · split
    · simp
    · rename_i idle
      simp [inv.jobWith_of_free (Bool.eq_false_iff.mpr idle)]

theorem eq_of_thread {other : Waiter} (member : waiter ∈ state.waiters)
    (memberToo : other ∈ state.waiters) (same : waiter.thread = other.thread) :
    waiter = other :=
  List.inj_on_of_nodup_map inv.threads member memberToo same

theorem finished_of_free {waiter : Waiter} (member : waiter ∈ state.waiters)
    (free : state.mDeffOngoingJobs waiter.jobId = false) {number : Nat}
    (job : waiter.job = some number) :
    number ∈ state.finished := by
  rcases inv.waiting waiter member number job with
    done | ⟨work, listed, _, sameId⟩
  · exact done
  · rw [← sameId, inv.ongoing work listed] at free
    contradiction

theorem relock_keeps (stepped : deffStep state (.relock thread) = some result) :
    StepKeeps result.1 result.2 := by
  simp only [deffStep] at stepped
  split at stepped
  · contradiction
  · rename_i waiter search
    have member := List.mem_of_find?_eq_some search
    split at stepped
    · obtain rfl := Option.some.inj stepped
      refine ⟨inv.waiters ?_ ?_, by simp⟩
      · rw [map_thread_setWoken]
        exact inv.threads
      · intro other listed
        obtain ⟨before, here, same, _⟩ := mem_setWoken listed
        exact ⟨before, here, same⟩
    · rename_i free
      obtain rfl := Option.some.inj stepped
      refine ⟨inv.waiters ?_ ?_, ?_⟩
      · exact inv.threads.sublist (List.filter_sublist.map _)
      · exact fun other listed =>
          ⟨other, List.mem_of_mem_filter listed, rfl, rfl, rfl⟩
      · intro other number returned
        simp only [List.mem_singleton, DeffOutput.returned.injEq] at returned
        exact finished_of_free inv member (Bool.eq_false_iff.mpr free) returned.2.symm

theorem finish_keeps {succeeded : Bool}
    (stepped : deffStep state (.finish succeeded signalled) = some result) :
    StepKeeps result.1 result.2 := by
  simp only [deffStep] at stepped
  split at stepped
  · contradiction
  · rename_i work runs
    split at stepped
    · contradiction
    · rename_i waiters notifies
      obtain rfl := Option.some.inj stepped
      refine ⟨inv.done runs ?_ ?_, ?_⟩
      · rw [map_thread_notified notifies]
        exact inv.threads
      · intro waiter member
        obtain ⟨before, listed, same, _⟩ := mem_notified notifies member
        exact ⟨before, listed, same⟩
      · intro thread number member
        unfold DefferedWorkCmd.startFailure at member
        split at member
        · simp at member
        · split at member <;> simp at member

theorem deffStep_keeps (stepped : deffStep state event = some result) :
    StepKeeps result.1 result.2 := by
  cases event with
  | queueDefferedWork thread cmd active =>
    simp only [deffStep] at stepped
    split at stepped
    · obtain rfl := Option.some.inj stepped
      exact queueDefferedWork_keeps inv thread cmd active
    · contradiction
  | waitDefferedWork thread jobId =>
    simp only [deffStep] at stepped
    split at stepped
    · rename_i free
      obtain rfl := Option.some.inj stepped
      exact waitDefferedWork_keeps inv free jobId
    · contradiction
  | relock thread => exact relock_keeps inv stepped
  | dequeue =>
    simp only [deffStep] at stepped
    split at stepped
    · rename_i work later idle queued
      obtain rfl := Option.some.inj stepped
      exact ⟨inv.dequeue idle queued, by simp⟩
    · contradiction
  | finish succeeded signalled => exact finish_keeps inv stepped

theorem soundStep_iff_awake (stepped : deffStep state event = some result) :
    SoundStep state past event ↔ result.1.Awake := by
  have keeps := deffStep_keeps inv stepped
  constructor
  · intro sound
    exact (sound result.1 result.2 stepped).awake
  · intro awake next emitted steppedTo
    rw [stepped] at steppedTo
    obtain rfl := Option.some.inj steppedTo
    exact ⟨keeps.inv.distinct, keeps.ran, awake⟩

theorem dequeue_sound (awake : state.Awake) : SoundStep state past .dequeue := by
  cases runs : state.running with
  | some work => exact soundStep_of_none (by simp [deffStep, runs])
  | none =>
    cases queued : state.mCmdQueue with
    | nil => exact soundStep_of_none (by simp [deffStep, runs, queued])
    | cons work later =>
      rw [soundStep_iff_awake inv (by simp only [deffStep, runs, queued]; rfl)]
      exact awake

theorem finish_sound_iff (awake : state.Awake) (succeeded : Bool) (signalled : Option Nat) :
    SoundStep state past (.finish succeeded signalled) ↔
      Prompt state past (.finish succeeded signalled) := by
  cases runs : state.running with
  | none =>
    exact iff_of_true (soundStep_of_none (by simp [deffStep, runs])) (by simp [Prompt, runs])
  | some work =>
    simp only [Prompt, runs, Option.some.injEq, forall_eq']
    cases notifies : notified? work.cmd signalled state.waiters with
    | none =>
      obtain ⟨channel, nobody⟩ := notified_none notifies
      simp only [channel]
      exact iff_of_true (soundStep_of_none (by simp [deffStep, runs, notifies]))
        fun thread listed named => absurd listed (nobody thread named)
    | some waiters =>
      rw [soundStep_iff_awake inv (by simp only [deffStep, runs, notifies]; rfl),
        done_awake_iff awake notifies]
      cases kind : work.cmd with
      | allocateBuff channel =>
        rw [kind] at notifies
        cases channel with
        | true =>
          exact signal_sleepers_iff notifies
        | false =>
          obtain rfl := Option.some.inj notifies
          exact sleepers_eq_nil_iff.symm
      | pprocStart channel =>
        rw [kind] at notifies
        obtain rfl := Option.some.inj notifies
        refine iff_of_true ?_ trivial
        intro waiter member asleep
        obtain ⟨before, -, rfl⟩ := List.mem_map.mp member
        contradiction

theorem maySleep_jobWith_iff (thread jobId : Nat) : Waiter.MaySleep state.finished {
        thread := thread
        jobId := jobId
        job := state.jobWith jobId
        woken := false } ↔
      ∃ work ∈ state.jobs, work.id = jobId := by
  constructor
  · rintro ⟨number, found, _⟩
    obtain ⟨work, member, _, same⟩ := mem_of_jobWith found
    exact ⟨work, member, same⟩
  · rintro ⟨work, member, same⟩
    cases found : state.jobWith jobId with
    | none =>
      simp only [DeffState.jobWith, Option.map_eq_none_iff,
        List.find?_eq_none, decide_eq_true_eq] at found
      exact absurd same (found work member)
    | some number =>
      obtain ⟨other, listed, rfl, _⟩ := mem_of_jobWith found
      exact ⟨other.number, rfl, inv.pending other listed⟩

theorem waitDefferedWork_sound_iff (awake : state.Awake) (thread : Nat) (jobId : Int) :
    SoundStep state past (.waitDefferedWork thread jobId) ↔
      Prompt state past (.waitDefferedWork thread jobId) := by
  cases free : state.isFree thread with
  | false =>
    exact iff_of_true (soundStep_of_none (by simp [deffStep, free])) (by simp [Prompt, free])
  | true =>
    rw [soundStep_iff_awake inv (by simp only [deffStep, free, if_true]; rfl)]
    simp only [Prompt, free, true_implies]
    unfold DeffState.waitDefferedWork
    split
    · rename_i outside
      refine iff_of_true awake ?_
      intro low high
      omega
    · rename_i inside
      split
      · rename_i ongoing
        simp only [ongoing, true_implies]
        rw [← maySleep_jobWith_iff inv thread]
        constructor
        · intro sleepers _ _
          exact sleepers _ List.mem_cons_self rfl
        · intro found waiter member asleep
          rcases List.mem_cons.mp member with rfl | old
          · exact found (by omega) (by omega)
          · exact awake waiter old asleep
      · rename_i idle
        exact iff_of_true awake fun _ _ ongoing => absurd ongoing idle

theorem relock_sound_iff (awake : state.Awake) (thread : Nat) :
    SoundStep state past (.relock thread) ↔ Prompt state past (.relock thread) := by
  cases search : state.waiters.find? fun waiter =>
        waiter.thread = thread && waiter.woken with
  | none =>
    refine iff_of_true (soundStep_of_none (by simp [deffStep, search])) ?_
    intro waiter member named woken
    have missed := List.find?_eq_none.mp search waiter member
    simp [named, woken] at missed
  | some waiter =>
    have member := List.mem_of_find?_eq_some search
    have picked := List.find?_some search
    simp only [Bool.and_eq_true, decide_eq_true_eq] at picked
    have only {other : Waiter} (listed : other ∈ state.waiters) (named : other.thread = thread) :
        other = waiter :=
      eq_of_thread inv listed member (named.trans picked.1.symm)
    cases ongoing : state.mDeffOngoingJobs waiter.jobId with
    | true =>
      rw [soundStep_iff_awake inv (by simp only [deffStep, search, ongoing, if_true]; rfl)]
      constructor
      · intro sleepers other listed named woken _
        obtain rfl := only listed named
        exact sleepers { other with woken := false }
          (List.mem_map.mpr ⟨other, member, if_pos named⟩) rfl
      · intro met other listed asleep
        obtain ⟨before, here, same, woken⟩ := mem_setWoken listed
        by_cases named : before.thread = thread
        · obtain rfl := only here named
          obtain ⟨number, job, left⟩ := met before here named picked.2 ongoing
          exact ⟨number, same.2.2.trans job, left⟩
        · rw [if_neg named, asleep] at woken
          obtain ⟨number, job, left⟩ := awake before here woken.symm
          exact ⟨number, same.2.2.trans job, left⟩
    | false =>
      rw [soundStep_iff_awake inv (by
          simp only [deffStep, search, ongoing, Bool.false_eq_true, if_false]
          rfl)]
      constructor
      · intro _ other listed named _ busy
        obtain rfl := only listed named
        rw [ongoing] at busy
        contradiction
      · intro _ other listed asleep
        exact awake other (List.mem_of_mem_filter listed) asleep

theorem sound_iff_prompt (awake : state.Awake) (event : DeffEvent) :
    SoundStep state past event ↔ Prompt state past event := by
  cases event with
  | queueDefferedWork thread cmd active =>
    refine iff_of_true ?_ trivial
    cases free : state.isFree thread with
    | false => exact soundStep_of_none (by simp [deffStep, free])
    | true =>
      rw [soundStep_iff_awake inv (by simp only [deffStep, free, if_true]; rfl)]
      obtain ⟨_, waiters, finished⟩ := inv.queueDefferedWork thread cmd active
      unfold DeffState.Awake
      rw [waiters, finished]
      exact awake
  | waitDefferedWork thread jobId => exact waitDefferedWork_sound_iff inv awake thread jobId
  | relock thread => exact relock_sound_iff inv awake thread
  | dequeue => exact iff_of_true (dequeue_sound inv awake) trivial
  | finish succeeded signalled => exact finish_sound_iff inv awake succeeded signalled

end Steps

/-! ## Runs -/

/--
Along every run ids stay apart, waits return in time and no sleeper is
forgotten exactly when every step is prompt.
-/
theorem deffRun_sound_iff (events : List DeffEvent) :
    Guarded deffStep SoundStep .created [] events ↔ Guarded deffStep Prompt .created [] events := by
  refine guarded_iff_of_invariant (fun state => DeffInv state ∧ state.Awake)
    (fun good => sound_iff_prompt good.1 good.2 _) ?_
    ⟨deffInv_created, fun waiter member => absurd member List.not_mem_nil⟩
  intro state past event next emitted good sound stepped
  exact ⟨(deffStep_keeps good.1 stepped).inv, (sound next emitted stepped).awake⟩

/-- Two threads wait for two allocations, and the first one's signal wakes the wrong thread. -/
theorem signal_wakes_other_waiter : ¬ Guarded deffStep SoundStep .created []
      ([DeffEvent.queueDefferedWork 1 (.allocateBuff true) true,
        .queueDefferedWork 1 (.allocateBuff true) true,
        .waitDefferedWork 1 0, .waitDefferedWork 2 1, .dequeue] ++
        [DeffEvent.finish true (some 2)]) := by
  intro sound
  have after := ((sound.last rfl) _ _ rfl).awake
  obtain ⟨number, job, left⟩ :=
    after { thread := 1, jobId := 0, job := some 0, woken := false } (by decide) rfl
  obtain rfl := Option.some.inj job
  exact left (by decide)

end AnglerHal.DefferedWork
