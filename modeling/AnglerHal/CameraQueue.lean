import Mathlib.Data.List.Basic

namespace AnglerHal.PostProc

/-!
# `QCameraQueue`

A queue that can be switched off.  `flush` empties a queue and switches it off;
until the next `init`, `enqueue` drops what it is given.  A queue that is
switched off is therefore empty, which every value of the type carries as a
field.
-/

/-- `QCameraQueue`. -/
structure CameraQueue (α : Type) where
  items : List α
  m_active : Bool
  inactiveEmpty : m_active = false → items = []

namespace CameraQueue

variable {α : Type}

/-- The queue as its constructor leaves it. -/
def new : CameraQueue α where
  items := []
  m_active := true
  inactiveEmpty := fun _ => rfl

/-- `init`: switch the queue on. -/
def init (queue : CameraQueue α) : CameraQueue α where
  items := queue.items
  m_active := true
  inactiveEmpty := fun inactive => nomatch inactive

/-- `isEmpty`. -/
def isEmpty (queue : CameraQueue α) : Bool :=
  queue.items.isEmpty

/-- `enqueue`, which drops the data if the queue is switched off. -/
def enqueue (data : α) (queue : CameraQueue α) : CameraQueue α :=
  match active : queue.m_active with
  | true =>
    { items := queue.items ++ [data]
      m_active := true
      inactiveEmpty := fun inactive => nomatch inactive }
  | false =>
    { items := queue.items
      m_active := false
      inactiveEmpty := fun _ => queue.inactiveEmpty active }

/-- `enqueue` returns true: the queue is on, and there is memory for the node. -/
def accepts (node : Bool) (queue : CameraQueue α) : Bool :=
  queue.m_active && node

/-- `enqueue`, with what `malloc` does for the node. -/
def tryEnqueue (node : Bool) (data : α) (queue : CameraQueue α) : CameraQueue α :=
  if node then
    queue.enqueue data
  else
    queue

/-- `dequeue(true)`: take the oldest entry. -/
def dequeue
    (queue : CameraQueue α) : Option α × CameraQueue α :=
  match stored : queue.items with
  | [] =>
    (none, queue)
  | first :: rest =>
    (some first,
      { items := rest
        m_active := queue.m_active
        inactiveEmpty := fun inactive => by
          rw [queue.inactiveEmpty inactive] at stored
          cases stored })

/-- `dequeue(false)`: take the newest entry. -/
def dequeueLast
    (queue : CameraQueue α) : Option α × CameraQueue α :=
  (queue.items.getLast?,
    { items := queue.items.dropLast
      m_active := queue.m_active
      inactiveEmpty := fun inactive => by
        rw [queue.inactiveEmpty inactive]
        rfl })

/-- `flush`: empty the queue, hand its entries out and switch it off. -/
def flush
    (queue : CameraQueue α) : List α × CameraQueue α :=
  (queue.items,
    { items := []
      m_active := false
      inactiveEmpty := fun _ => rfl })

/-- `flushNodes`: take out the entries that match, and hand them out. -/
def flushNodes
    (isMatch : α → Bool)
    (queue : CameraQueue α) : List α × CameraQueue α :=
  (queue.items.filter isMatch,
    { items := queue.items.filter fun data => !isMatch data
      m_active := queue.m_active
      inactiveEmpty := fun inactive => by
        rw [queue.inactiveEmpty inactive]
        rfl })

@[simp]
theorem new_items : (new : CameraQueue α).items = [] :=
  rfl

@[simp]
theorem init_items (queue : CameraQueue α) : queue.init.items = queue.items :=
  rfl

theorem active_of_accepts {queue : CameraQueue α} {node : Bool}
    (accepts : queue.accepts node = true) :
    queue.m_active = true :=
  (Bool.and_eq_true_iff.mp accepts).1

theorem enqueue_of_active {queue : CameraQueue α} (active : queue.m_active = true) (data : α) :
    (queue.enqueue data).items = queue.items ++ [data] ∧ (queue.enqueue data).m_active = true := by
  unfold enqueue
  split
  · exact ⟨rfl, rfl⟩
  · simp_all

theorem enqueue_of_inactive {queue : CameraQueue α} (inactive : queue.m_active = false) (data : α) :
    (queue.enqueue data).items = [] ∧ (queue.enqueue data).m_active = false := by
  unfold enqueue
  split
  · simp_all
  · exact ⟨queue.inactiveEmpty inactive, rfl⟩

/-- A queue grows by at most what it is given. -/
theorem enqueue_cases (queue : CameraQueue α) (data : α) :
    (queue.enqueue data).items = queue.items ++ [data] ∨
      (queue.enqueue data).items = queue.items := by
  cases active : queue.m_active with
  | true => exact .inl (enqueue_of_active active data).1
  | false =>
    refine .inr ?_
    rw [(enqueue_of_inactive active data).1, queue.inactiveEmpty active]

/-- Without memory for the node it does not grow at all. -/
theorem tryEnqueue_cases (node : Bool) (queue : CameraQueue α) (data : α) :
    (queue.tryEnqueue node data).items = queue.items ++ [data] ∨
      (queue.tryEnqueue node data).items = queue.items := by
  cases node with
  | true => exact queue.enqueue_cases data
  | false => exact .inr rfl

@[simp]
theorem tryEnqueue_true (queue : CameraQueue α) (data : α) :
    queue.tryEnqueue true data = queue.enqueue data :=
  rfl

theorem dequeue_of_nil {queue : CameraQueue α} (empty : queue.items = []) :
    queue.dequeue = (none, queue) := by
  unfold dequeue
  split
  · rfl
  · simp_all

theorem dequeue_of_cons {queue : CameraQueue α} {first : α} {rest : List α}
    (stored : queue.items = first :: rest) :
    queue.dequeue.1 = some first ∧ queue.dequeue.2.items = rest ∧
      queue.dequeue.2.m_active = queue.m_active := by
  unfold dequeue
  split
  · simp_all
  · rename_i other later isStored
    rw [isStored] at stored
    cases stored
    exact ⟨rfl, rfl, rfl⟩

/-- `dequeue` leaves the tail. -/
@[simp]
theorem dequeue_items (queue : CameraQueue α) : queue.dequeue.2.items = queue.items.tail := by
  cases stored : queue.items with
  | nil =>
    rw [dequeue_of_nil stored, stored]
    rfl
  | cons first rest =>
    rw [(dequeue_of_cons stored).2.1]
    rfl

/-- `dequeue` hands out the head. -/
@[simp]
theorem dequeue_fst (queue : CameraQueue α) : queue.dequeue.1 = queue.items.head? := by
  cases stored : queue.items with
  | nil =>
    rw [dequeue_of_nil stored]
    rfl
  | cons first rest =>
    rw [(dequeue_of_cons stored).1]
    rfl

@[simp]
theorem dequeue_m_active (queue : CameraQueue α) : queue.dequeue.2.m_active = queue.m_active := by
  cases stored : queue.items with
  | nil => rw [dequeue_of_nil stored]
  | cons first rest => rw [(dequeue_of_cons stored).2.2]

@[simp]
theorem dequeueLast_items (queue : CameraQueue α) :
    queue.dequeueLast.2.items = queue.items.dropLast :=
  rfl

@[simp]
theorem flush_items (queue : CameraQueue α) : queue.flush.2.items = [] :=
  rfl

end CameraQueue

end AnglerHal.PostProc
