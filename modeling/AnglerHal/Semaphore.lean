import AnglerHal.LabelledRun

namespace AnglerHal.Semaphore

/-!
# The counting semaphore of the camera stack

`cam_semaphore_t` is a value, a mutex and a condition.  Everything a thread
does to the value happens while it holds the mutex, so an event here is what
one thread does between taking the mutex and giving it up: a post, a call of
one of the waits up to its return or its first condition wait, and the return
of a condition wait up to the next one.  A condition wait may return at any
moment, and the one of a timed wait may return with a timeout.

The value is a C `int`; a post at its maximum has no defined result.
-/

/-- Which of the two waits a thread is blocked in. -/
inductive WaitKind where
  | wait
  | timedwait
  deriving DecidableEq

/-- The value, and the threads that are in a condition wait. -/
structure CamSemaphore where
  val : Int
  waiting : Nat → Option WaitKind

/-- `INT_MAX`. -/
def intMax : Int :=
  2147483647

/-- What a thread does to the semaphore while it holds the mutex. -/
inductive SemEvent where
  | post (thread : Nat)
  | call (thread : Nat) (kind : WaitKind)
  | wake (thread : Nat) (timedOut : Bool)
  deriving DecidableEq

/-- A wait has returned with a code. -/
inductive SemOutput where
  | returned (thread : Nat) (kind : WaitKind) (rc : Int)
  deriving DecidableEq

/-- Enter or leave the condition wait of one thread. -/
def CamSemaphore.setWaiting (sem : CamSemaphore) (thread : Nat)
    (kind : Option WaitKind) : CamSemaphore :=
  { sem with
      waiting := fun other =>
        if other = thread then kind else sem.waiting other }

/--
The loop test of a wait and what follows it: `timedOut` is `rc == ETIMEDOUT`
of the last condition wait.
-/
def testLoop (thread : Nat) (kind : WaitKind) (timedOut : Bool) (sem : CamSemaphore) :
    CamSemaphore × List SemOutput :=
  match kind with
  | .wait =>
    if sem.val = 0 then
      (sem.setWaiting thread (some .wait), [])
    else
      ({ sem.setWaiting thread none with val := sem.val - 1 }, [.returned thread .wait 0])
  | .timedwait =>
    if sem.val = 0 ∧ ¬ timedOut then
      (sem.setWaiting thread (some .timedwait), [])
    else
      ({ sem.setWaiting thread none with
          val := if 0 < sem.val then sem.val - 1 else sem.val },
        [.returned thread .timedwait (if timedOut then -1 else 0)])

/--
`cam_sem_post`, `cam_sem_wait` and `cam_sem_timedwait`, one critical section
at a time.  A thread in a condition wait does nothing but return from it, and
only a timed wait times out.
-/
def semStep (sem : CamSemaphore) : SemEvent → Option (CamSemaphore × List SemOutput)
  | .post thread =>
    if (sem.waiting thread).isSome ∨ intMax ≤ sem.val then
      none
    else
      some ({ sem with val := sem.val + 1 }, [])
  | .call thread kind =>
    if (sem.waiting thread).isSome then
      none
    else
      some (testLoop thread kind false sem)
  | .wake thread timedOut =>
    match sem.waiting thread with
    | none => none
    | some .wait => if timedOut then none else some (testLoop thread .wait false sem)
    | some .timedwait => some (testLoop thread .timedwait timedOut sem)

/-- Any interleaving of the threads' critical sections. -/
def semRun (sem : CamSemaphore) (events : List SemEvent) : Option (CamSemaphore × List SemOutput) :=
  LabelledRun.run? semStep sem events

/-- `cam_sem_init`, before any thread uses the semaphore. -/
def semInit (n : Int) : CamSemaphore where
  val := n
  waiting := fun _ => none

/-! ## Counting -/

/-- The posts among the events. -/
def posts (events : List SemEvent) : Nat :=
  events.countP fun event =>
    match event with
    | .post _ => true
    | _ => false

/-- The waits and timed waits that returned `0`. -/
def successes (outputs : List SemOutput) : Nat :=
  outputs.countP fun output =>
    match output with
    | .returned _ _ rc => rc == 0

/--
The event is not the timeout of a condition wait that finds a token when it
gets the mutex back.
-/
def leavesToken (sem : CamSemaphore) : SemEvent → Bool
  | .wake _ timedOut => !timedOut || decide (sem.val = 0)
  | _ => true

theorem testLoop_counts {thread : Nat} {kind : WaitKind} {timedOut : Bool} {sem : CamSemaphore}
    (nonneg : 0 ≤ sem.val)
    (onlyTimed : kind = .wait → timedOut = false) :
    0 ≤ (testLoop thread kind timedOut sem).1.val ∧ (testLoop thread kind timedOut sem).1.val +
          successes (testLoop thread kind timedOut sem).2 =
        sem.val - (if timedOut = true ∧ sem.val ≠ 0 then 1 else 0) := by
  cases kind with
  | wait =>
    have notTimed := onlyTimed rfl
    by_cases empty : sem.val = 0
    · simp [testLoop, empty, notTimed, successes, CamSemaphore.setWaiting]
    · simp only [testLoop, empty, notTimed, if_false]
      refine ⟨by omega, ?_⟩
      simp [successes]
  | timedwait =>
    by_cases empty : sem.val = 0
    · cases timedOut <;>
        simp [testLoop, empty, successes, CamSemaphore.setWaiting]
    · have positive : 0 < sem.val := by
        omega
      cases timedOut <;>
        simp [testLoop, empty, positive, successes] <;> omega

theorem semStep_counts {sem next : CamSemaphore} {event : SemEvent} {emitted : List SemOutput}
    (nonneg : 0 ≤ sem.val)
    (stepped : semStep sem event = some (next, emitted)) :
    0 ≤ next.val ∧ next.val + successes emitted = sem.val + posts [event] -
          (if leavesToken sem event then 0 else 1) := by
  cases event with
  | post thread =>
    simp only [semStep] at stepped
    split at stepped
    · simp at stepped
    · cases stepped
      refine ⟨by dsimp only; omega, ?_⟩
      simp [successes, posts, leavesToken]
  | call thread kind =>
    simp only [semStep] at stepped
    split at stepped
    · simp at stepped
    · have counted := @testLoop_counts thread kind false sem nonneg fun _ => rfl
      simp only [Option.some.injEq] at stepped
      rw [stepped] at counted
      simpa [posts, leavesToken] using counted
  | wake thread timedOut =>
    simp only [semStep] at stepped
    split at stepped
    · simp at stepped
    · split at stepped
      · simp at stepped
      · rename_i notTimed
        have counted := @testLoop_counts thread .wait false sem nonneg fun _ => rfl
        simp only [Option.some.injEq] at stepped
        rw [stepped] at counted
        simpa [posts, leavesToken, notTimed] using counted
    · have counted := @testLoop_counts thread .timedwait timedOut sem nonneg (by simp)
      simp only [Option.some.injEq] at stepped
      rw [stepped] at counted
      refine ⟨counted.1, counted.2.trans ?_⟩
      by_cases empty : sem.val = 0 <;>
        cases timedOut <;> simp [posts, leavesToken, empty]

/--
Along every interleaving the value stays non-negative, never exceeds what
posts and successful waits account for, and equals it exactly when no condition
wait times out while there is a token.
-/
theorem semRun_accounts {sem final : CamSemaphore} {past events : List SemEvent}
    {outputs : List SemOutput} (nonneg : 0 ≤ sem.val)
    (ran : semRun sem events = some (final, outputs)) :
    0 ≤ final.val ∧ final.val + successes outputs ≤ sem.val + posts events ∧
      (final.val + successes outputs = sem.val + posts events ↔ LabelledRun.Guarded semStep
          (fun state _ event => leavesToken state event = true)
          sem past events) := by
  induction events generalizing sem past outputs with
  | nil =>
    simp only [semRun, LabelledRun.run?, Option.some.injEq, Prod.mk.injEq] at ran
    obtain ⟨rfl, rfl⟩ := ran
    exact ⟨nonneg, by simp [successes, posts], by simp [successes, posts, LabelledRun.Guarded]⟩
  | cons event rest inductionHypothesis =>
    obtain ⟨next, emitted, later, stepped, continued, rfl⟩ :=
      LabelledRun.run?_cons_eq_some ran
    obtain ⟨nextNonneg, first⟩ := semStep_counts nonneg stepped
    obtain ⟨finalNonneg, bound, exactly⟩ :=
      @inductionHypothesis next (past ++ [event]) later nextNonneg continued
    have taken : successes (emitted ++ later) = successes emitted + successes later := by
      simp [successes]
    have posted : posts (event :: rest) = posts [event] + posts rest := by
      simp [posts, List.countP_cons, Nat.add_comm]
    have guardIff : LabelledRun.Guarded semStep
            (fun state _ event => leavesToken state event = true)
            sem past (event :: rest) ↔
          leavesToken sem event = true ∧ LabelledRun.Guarded semStep
              (fun state _ event => leavesToken state event = true)
              next (past ++ [event]) rest := by
      simp [LabelledRun.Guarded, stepped]
    refine ⟨finalNonneg, ?_, ?_⟩
    · rw [taken, posted]
      push_cast
      split at first <;> omega
    · rw [guardIff, ← exactly, taken, posted]
      push_cast
      cases leaves : leavesToken sem event with
      | true =>
        simp only [leaves, if_true] at first
        simp only [true_and]
        constructor <;> intro same <;> omega
      | false =>
        simp only [leaves, Bool.false_eq_true, if_false] at first
        simp only [Bool.false_eq_true, false_and, iff_false]
        omega

/-- The value is what was posted and not handed to a wait that returned `0`. -/
structure CountsExactly (n : Int) (events : List SemEvent) (outputs : List SemOutput)
    (final : CamSemaphore) : Prop where
  nonneg : 0 ≤ final.val
  val : final.val = n + posts events - successes outputs

/--
After every interleaving the semaphore counts exactly if and only if no
condition wait of the run timed out and then found a token.
-/
theorem semRun_countsExactly_iff {n : Int} {events : List SemEvent}
    {outputs : List SemOutput} {final : CamSemaphore} (nonneg : 0 ≤ n)
    (ran : semRun (semInit n) events = some (final, outputs)) :
    CountsExactly n events outputs final ↔ LabelledRun.Guarded semStep
        (fun state _ event => leavesToken state event = true)
        (semInit n) [] events := by
  obtain ⟨finalNonneg, _, exactly⟩ :=
    @semRun_accounts (semInit n) final [] events outputs nonneg ran
  rw [← exactly]
  constructor
  · intro counts
    have val := counts.val
    simp only [semInit]
    omega
  · intro counts
    simp only [semInit] at counts
    exact ⟨finalNonneg, by omega⟩

/-- A timed wait that is posted to, and one that times out without a token. -/
theorem semRun_countsExactly_posted : ∃ final outputs, semRun (semInit 0)
          [.call 1 .timedwait, .post 2, .wake 1 false, .call 1 .timedwait, .wake 1 true] =
        some (final, outputs) ∧
      outputs = [.returned 1 .timedwait 0, .returned 1 .timedwait (-1)] ∧
      CountsExactly 0 [.call 1 .timedwait, .post 2, .wake 1 false,
          .call 1 .timedwait, .wake 1 true] outputs final := by
  refine ⟨_, _, rfl, by decide, ?_⟩
  exact (@semRun_countsExactly_iff 0 [.call 1 .timedwait, .post 2, .wake 1 false,
      .call 1 .timedwait, .wake 1 true] _ _ (by decide) rfl).mpr (by decide)

/-- A post that arrives with the timeout is taken by a wait that fails. -/
theorem semRun_losesToken : ∃ final outputs, semRun (semInit 0)
          [.call 1 .timedwait, .post 2, .wake 1 true] =
        some (final, outputs) ∧
      outputs = [.returned 1 .timedwait (-1)] ∧
      final.val = 0 ∧
      ¬ CountsExactly 0 [.call 1 .timedwait, .post 2, .wake 1 true] outputs final := by
  refine ⟨_, _, rfl, by decide, by decide, ?_⟩
  intro counts
  have val := counts.val
  revert val
  decide

end AnglerHal.Semaphore
