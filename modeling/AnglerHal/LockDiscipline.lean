import Mathlib.Data.List.Basic

namespace AnglerHal.LockDiscipline

/-!
# Programs that take and give up locks

A program carries the list of the locks it holds.  Taking a lock fails unless
it ranks above every lock that is held, and giving up a lock fails unless it is
held.  A program that does not fail has therefore taken its locks in the order
of their ranks and given up only what it held, each time once; what is left at
its end are the locks that it still holds.

This module is independent of any particular set of locks.
-/

variable {Lock α β : Type}

/-- A program with the locks that it holds. -/
abbrev LockM (Lock : Type) :=
  StateT (List Lock) Option

/-- Take a lock that ranks above all locks held. -/
def acquire (rank : Lock → Nat) (wanted : Lock) : LockM Lock Unit :=
  fun held =>
    if ∀ other ∈ held, rank other < rank wanted then
      some ((), wanted :: held)
    else
      none

/-- Give up a lock that is held. -/
def release [DecidableEq Lock] (lock : Lock) : LockM Lock Unit :=
  fun held =>
    if lock ∈ held then
      some ((), held.erase lock)
    else
      none

/-- Starting with some locks the program does not fail, and ends with others. -/
def Hands (start finish : List Lock) (program : LockM Lock α) : Prop :=
  ∃ result, program start = some (result, finish)

/-- The program starts without locks, keeps the order and ends without locks. -/
def Disciplined (program : LockM Lock α) : Prop :=
  Hands [] [] program

section Rules

variable {start middle finish : List Lock} {program : LockM Lock α}

theorem Hands.unique {other : List Lock} (ends : Hands start finish program)
    (endsToo : Hands start other program) :
    finish = other := by
  obtain ⟨_, ran⟩ := ends
  obtain ⟨_, ranToo⟩ := endsToo
  rw [ran] at ranToo
  cases ranToo
  rfl

/-- A result takes no lock. -/
theorem Hands.pure (result : α) : Hands start start (Pure.pure result : LockM Lock α) :=
  ⟨result, rfl⟩

/-- Two programs one after the other. -/
theorem Hands.bind {next : α → LockM Lock β} (first : Hands start middle program)
    (second : ∀ result, Hands middle finish (next result)) :
    Hands start finish (program >>= next) := by
  obtain ⟨result, ran⟩ := first
  obtain ⟨final, ranNext⟩ := second result
  refine ⟨final, ?_⟩
  calc
    (program >>= next) start = next result middle := by
      simp [Bind.bind, StateT.bind, ran]
    _ = some (final, finish) := ranNext

/-- Taking a lock above the locks held. -/
theorem Hands.acquire {rank : Lock → Nat} {wanted : Lock} {next : Unit → LockM Lock β}
    (above : ∀ other ∈ start, rank other < rank wanted)
    (rest : Hands (wanted :: start) finish (next ())) :
    Hands start finish (LockDiscipline.acquire rank wanted >>= next) :=
  Hands.bind ⟨(), if_pos above⟩ (fun _ => rest)

/-- Giving up a lock that is held. -/
theorem Hands.release [DecidableEq Lock] {lock : Lock} {next : Unit → LockM Lock β}
    (held : lock ∈ start) (rest : Hands (start.erase lock) finish (next ())) :
    Hands start finish (LockDiscipline.release lock >>= next) :=
  Hands.bind ⟨(), if_pos held⟩ (fun _ => rest)

/-- Passing from one lock to the next: the new one is taken before the old one is given up. -/
theorem Hands.handOver [DecidableEq Lock] {rank : Lock → Nat} {held wanted : Lock}
    {next : Unit → LockM Lock β} (above : rank held < rank wanted)
    (rest : Hands [wanted] finish (next ())) :
    Hands [held] finish (LockDiscipline.acquire rank wanted >>= fun _ =>
        LockDiscipline.release held >>= next) := by
  have distinct : wanted ≠ held := by
    rintro rfl
    exact Nat.lt_irrefl _ above
  refine Hands.acquire (by simpa using above) ?_
  refine Hands.release (by simp) ?_
  have left : [wanted, held].erase held = [wanted] := by
    rw [List.erase_cons_tail (by simpa using distinct), List.erase_cons_head]
  rw [left]
  exact rest

/-- A program that ends with a lock is not disciplined. -/
theorem not_disciplined_of_hands {lock : Lock} {rest : List Lock}
    (ends : Hands [] (lock :: rest) program) :
    ¬ Disciplined program := by
  intro disciplined
  cases ends.unique disciplined

end Rules

end AnglerHal.LockDiscipline
