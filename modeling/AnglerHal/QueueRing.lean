import AnglerHal.CamQueue
import AnglerHal.CameraQueue

namespace AnglerHal.QueueRing

/-!
# `QCameraQueue`

The queue of the camera HAL is a ring of nodes as well, with a head that is linked
in by hand, a flag that makes it reject what it is given, and the duty to free the
data that is still in it.  `m_size` is taken as its 32 bits.
-/

open LinkedRing
open CamQueue (Queue Holds)

/-! ## The queue -/

/-- What happens to data that is not handed out. -/
inductive Event (Value User : Type) where
  | dataFn (data : Value) (userData : User)
  | free (data : Value)
  deriving DecidableEq

/-- What a call returns and does with data. -/
structure Result (Value User : Type) where
  accepted : Bool := false
  returned : Option Value := none
  events : List (Event Value User) := []
  deriving DecidableEq

/-- `QCameraQueue`, with its nodes, and whether it has a function for the data. -/
structure QCameraQueue (Value User : Type) where
  nodes : Queue Value
  hasDataFn : Bool
  userData : User
  active : Bool

section Code

variable {Value User Spec : Type}

/-- The constructors. -/
def create (head : Nat) (hasDataFn : Bool) (userData : User) : QCameraQueue Value User where
  nodes := CamQueue.init head
  hasDataFn := hasDataFn
  userData := userData
  active := true

/-- `init`. -/
def init (queue : QCameraQueue Value User) : QCameraQueue Value User :=
  { queue with active := true }

/-- `enqueue`, with the node that `malloc` gave. -/
def enqueue (queue : QCameraQueue Value User) (node : Option Nat) (data : Option Value) :
    Option (QCameraQueue Value User × Result Value User) :=
  match node with
  | none => some (queue, {})
  | some node =>
    if queue.active then do
      let (nodes, _) ← CamQueue.enq queue.nodes (some node) data
      some ({ queue with nodes := nodes }, { accepted := true })
    else
      -- the node is freed before anything points to it
      some (queue, {})

/-- How `enqueueWithPriority` links its node in. -/
def linkFirst (memory : Memory Nat) (node head : Nat) : Option (Memory Nat) := do
  let pNext ← memory.readNext head
  let memory ← memory.writeNext head node
  let memory ← memory.writePrev pNext node
  let memory ← memory.writeNext node pNext
  memory.writePrev node head

/-- `enqueueWithPriority`. -/
def enqueueWithPriority (queue : QCameraQueue Value User) (node : Option Nat)
    (data : Option Value) : Option (QCameraQueue Value User × Result Value User) :=
  match node with
  | none => some (queue, {})
  | some node =>
    if queue.active then do
      let memory ← linkFirst (queue.nodes.memory.alloc node 0) node queue.nodes.head
      let nodes := { queue.nodes with
        memory := memory
        data := Function.update queue.nodes.data node data
        size := (queue.nodes.size + 1) % 2 ^ 32 }
      some ({ queue with nodes := nodes }, { accepted := true })
    else
      some (queue, {})

/-- `peek`. -/
def peek (queue : QCameraQueue Value User) :
    Option (QCameraQueue Value User × Result Value User) :=
  if queue.active then do
    let pos ← queue.nodes.memory.readNext queue.nodes.head
    if pos = queue.nodes.head then
      some (queue, {})
    else if pos ∈ queue.nodes.memory.live then
      some (queue, { returned := queue.nodes.data pos })
    else
      none
  else
    some (queue, {})

/-- `dequeue`. -/
def dequeue (queue : QCameraQueue Value User) (fromHead : Bool) :
    Option (QCameraQueue Value User × Result Value User) :=
  if queue.active then do
    let pos ←
      if fromHead then
        queue.nodes.memory.readNext queue.nodes.head
      else
        queue.nodes.memory.readPrev queue.nodes.head
    if pos = queue.nodes.head then
      some (queue, {})
    else do
      let nodes ← queue.nodes.takeOut pos
      some ({ queue with nodes := nodes }, { returned := queue.nodes.data pos })
  else
    some (queue, {})

/-- What is done with the data of a node that is thrown away. -/
def discard (hasDataFn : Bool) (userData : User) : Option Value → List (Event Value User)
  | none => []
  | some data => (if hasDataFn then [.dataFn data userData] else []) ++ [.free data]

/--
The loop of the flushes, over the nodes whose data `accepts` accepts.  One with more turns
than there are nodes does not end.
-/
def flushLoop (accepts : Option Value → Bool) (discarded : Option Value → List (Event Value User)) :
    Nat → Nat → Queue Value → List (Event Value User) →
      Option (Queue Value × List (Event Value User))
  | 0, _, _, _ => none
  | turns + 1, pos, nodes, events =>
    if pos = nodes.head then
      some (nodes, events)
    else do
      let next ← nodes.memory.readNext pos
      if accepts (nodes.data pos) then do
        let rest ← nodes.takeOut pos
        flushLoop accepts discarded turns next rest (events ++ discarded (nodes.data pos))
      else
        flushLoop accepts discarded turns next nodes events

/-- The walk of a flush over the whole ring. -/
def flushWalk (queue : QCameraQueue Value User) (accepts : Option Value → Bool) :
    Option (Queue Value × List (Event Value User)) := do
  let pos ← queue.nodes.memory.readNext queue.nodes.head
  flushLoop accepts (discard queue.hasDataFn queue.userData)
    (queue.nodes.memory.live.length + 1) pos queue.nodes []

/-- `flush`. -/
def flush (queue : QCameraQueue Value User) :
    Option (QCameraQueue Value User × Result Value User) :=
  if queue.active then do
    let (nodes, events) ← flushWalk queue fun _ => true
    some ({ queue with nodes := { nodes with size := 0 }, active := false }, { events := events })
  else
    some (queue, {})

/-- The nodes that a test accepts are flushed. -/
def flushAccepted (queue : QCameraQueue Value User) (accepts : Option Value → Bool) :
    Option (QCameraQueue Value User × Result Value User) :=
  if queue.active then do
    let (nodes, events) ← flushWalk queue accepts
    some ({ queue with nodes := nodes }, { events := events })
  else
    some (queue, {})

/-- `flushNodes` with a `match_fn`, which may be NULL. -/
def flushNodes (queue : QCameraQueue Value User) (matchFn : Option (Option Value → User → Bool)) :
    Option (QCameraQueue Value User × Result Value User) :=
  match matchFn with
  | none => some (queue, {})
  | some accepts => flushAccepted queue fun data => accepts data queue.userData

/-- `flushNodes` with a `match_fn_data`. -/
def flushNodesData (queue : QCameraQueue Value User)
    (matchFn : Option (Option Value → User → Spec → Bool))
    (matchData : Spec) : Option (QCameraQueue Value User × Result Value User) :=
  match matchFn with
  | none => some (queue, {})
  | some accepts => flushAccepted queue fun data => accepts data queue.userData matchData

/-- A call. -/
inductive Op (Value User Spec : Type) where
  | init
  | enqueue (node : Option Nat) (data : Option Value)
  | enqueueWithPriority (node : Option Nat) (data : Option Value)
  | peek
  | dequeue (fromHead : Bool)
  | flush
  | flushNodes (matchFn : Option (Option Value → User → Bool))
  | flushNodesData (matchFn : Option (Option Value → User → Spec → Bool)) (matchData : Spec)

/-- The call of an operation. -/
def Op.call (op : Op Value User Spec) (queue : QCameraQueue Value User) :
    Option (QCameraQueue Value User × Result Value User) :=
  match op with
  | .init => some (QueueRing.init queue, {})
  | .enqueue node data => QueueRing.enqueue queue node data
  | .enqueueWithPriority node data => QueueRing.enqueueWithPriority queue node data
  | .peek => QueueRing.peek queue
  | .dequeue fromHead => QueueRing.dequeue queue fromHead
  | .flush => QueueRing.flush queue
  | .flushNodes matchFn => QueueRing.flushNodes queue matchFn
  | .flushNodesData matchFn matchData => QueueRing.flushNodesData queue matchFn matchData

/-- A call with its result as the output of a step. -/
def step (queue : QCameraQueue Value User) (op : Op Value User Spec) :
    Option (QCameraQueue Value User × List (Result Value User)) :=
  (op.call queue).map fun result => (result.1, [result.2])

/-- `malloc`: a node lies at an address of its own. -/
def Malloc (queue : QCameraQueue Value User) (_ : List (Op Value User Spec)) :
    Op Value User Spec → Prop
  | .enqueue (some node) _ => node ∉ queue.nodes.memory.live ∧ node < 2 ^ 32
  | .enqueueWithPriority (some node) _ => node ∉ queue.nodes.memory.live ∧ node < 2 ^ 32
  | _ => True

instance (queue : QCameraQueue Value User) (past : List (Op Value User Spec)) :
    ∀ op, Decidable (Malloc queue past op)
  | .enqueue (some _) _ => inferInstanceAs (Decidable (_ ∧ _))
  | .enqueueWithPriority (some _) _ => inferInstanceAs (Decidable (_ ∧ _))
  | .init => isTrue trivial
  | .enqueue none _ => isTrue trivial
  | .enqueueWithPriority none _ => isTrue trivial
  | .peek => isTrue trivial
  | .dequeue _ => isTrue trivial
  | .flush => isTrue trivial
  | .flushNodes _ => isTrue trivial
  | .flushNodesData _ _ => isTrue trivial

end Code

/-! ## What a sequence of calls denotes -/

/-- A list with two ends, which takes nothing more while it is not active. -/
structure Deque (Value : Type) where
  values : List (Option Value)
  active : Bool

section Denotation

variable {Value User Spec : Type}

/-- A value put into a deque. -/
def Deque.put (deque : Deque Value) (isAllocated : Bool) (values : List (Option Value)) :
    Deque Value × Result Value User :=
  if isAllocated ∧ deque.active then
    ({ deque with values := values }, { accepted := true })
  else
    (deque, {})

/-- The values that a test accepts are thrown away, the others stay in their order. -/
def Deque.prune (hasDataFn : Bool) (userData : User) (deque : Deque Value)
    (accepts : Option Value → Bool) : Deque Value × Result Value User :=
  ({ deque with values := deque.values.filter fun data => !accepts data },
    { events := (deque.values.filter accepts).flatMap (discard hasDataFn userData) })

/-- A call on a plain list. -/
def Op.apply (hasDataFn : Bool) (userData : User) (op : Op Value User Spec)
    (deque : Deque Value) : Deque Value × Result Value User :=
  match op with
  | .init => ({ deque with active := true }, {})
  | .enqueue node data => deque.put node.isSome (deque.values ++ [data])
  | .enqueueWithPriority node data => deque.put node.isSome (data :: deque.values)
  | .peek => (deque, { returned := deque.values.head?.join })
  | .dequeue true =>
    ({ deque with values := deque.values.tail }, { returned := deque.values.head?.join })
  | .dequeue false =>
    ({ deque with values := deque.values.dropLast }, { returned := deque.values.getLast?.join })
  | .flush =>
    ({ values := [], active := false },
      { events := deque.values.flatMap (discard hasDataFn userData) })
  | .flushNodes none => (deque, {})
  | .flushNodes (some accepts) =>
    deque.prune hasDataFn userData fun data => accepts data userData
  | .flushNodesData none _ => (deque, {})
  | .flushNodesData (some accepts) matchData =>
    deque.prune hasDataFn userData fun data => accepts data userData matchData

/-- The list after some calls. -/
def denoted (hasDataFn : Bool) (userData : User) (deque : Deque Value)
    (ops : List (Op Value User Spec)) : Deque Value :=
  ops.foldl (fun current op => (op.apply hasDataFn userData current).1) deque

/-- What the calls return and do with data. -/
def results (hasDataFn : Bool) (userData : User) :
    Deque Value → List (Op Value User Spec) → List (Result Value User)
  | _, [] => []
  | deque, op :: rest =>
    (op.apply hasDataFn userData deque).2 ::
      results hasDataFn userData (op.apply hasDataFn userData deque).1 rest

/-- The queue is the list: its ring of nodes, its size and its flag. -/
structure Represents (queue : QCameraQueue Value User) (deque : Deque Value) : Prop where
  nodes : ∃ items, Holds queue.nodes items ∧ items.map queue.nodes.data = deque.values
  size : queue.nodes.size = deque.values.length
  active : queue.active = deque.active
  inactive : deque.active = false → deque.values = []

/-- The data that events free. -/
def freed (events : List (Event Value User)) : List Value :=
  events.filterMap fun
    | .free data => some data
    | .dataFn _ _ => none

/-- Each value that is freed was passed once to the function for the data, right before. -/
def Discarded (hasDataFn : Bool) (userData : User) (events : List (Event Value User)) : Prop :=
  events = (freed events).flatMap fun data => discard hasDataFn userData (some data)

/-- The pointers that a call has accepted. -/
def Op.entered (op : Op Value User Spec) (result : Result Value User) : List Value :=
  match op with
  | .enqueue _ data => if result.accepted then data.toList else []
  | .enqueueWithPriority _ data => if result.accepted then data.toList else []
  | _ => []

/-- The pointers that leave with a call. -/
def Op.left (op : Op Value User Spec) (result : Result Value User) : List Value :=
  match op with
  | .dequeue _ => result.returned.toList
  | _ => freed result.events

/-- The pointers that the calls have accepted. -/
def entered (ops : List (Op Value User Spec)) (outcomes : List (Result Value User)) :
    List Value :=
  (ops.zip outcomes).flatMap fun call => call.1.entered call.2

/-- The pointers that have left with the calls. -/
def left (ops : List (Op Value User Spec)) (outcomes : List (Result Value User)) : List Value :=
  (ops.zip outcomes).flatMap fun call => call.1.left call.2

/-- The pointers in a list. -/
def pointers (values : List (Option Value)) : List Value :=
  values.flatMap Option.toList

end Denotation

/-! ## One call -/

section Calls

variable {Value User : Type} {memory : Memory Nat} {nodes : Queue Value}
  {items before after : List Nat} {node head : Nat}

theorem linkFirst_spec (nodeLive : node ∈ memory.live) (headLive : head ∈ memory.live)
    (nextLive : memory.next head ∈ memory.live) (other : node ≠ head)
    (apart : node ≠ memory.next head) :
    ∃ result, linkFirst memory node head = some result ∧ result.live = memory.live ∧
      Inserted memory result node head (memory.next head) := by
  simp only [linkFirst, Memory.readNext, Memory.writePrev, Memory.writeNext, nodeLive, headLive,
    nextLive, if_true, Option.bind_eq_bind, Option.bind_some]
  refine ⟨_, rfl, rfl, ?_, ?_, ?_, ?_, ?_, ?_⟩ <;> grind [Function.update_apply]

/-- A node allocated and linked in behind the head. -/
theorem linkFirst_holds (holds : Holds nodes items) (fresh : node ∉ nodes.memory.live)
    (address : node < 2 ^ 32) (data : Nat → Option Value) :
    ∃ result, linkFirst (nodes.memory.alloc node 0) node nodes.head = some result ∧
      Holds { nodes with
        memory := result
        data := data
        size := (nodes.size + 1) % 2 ^ 32 } (node :: items) := by
  obtain ⟨other, -⟩ := holds.fresh_items fresh
  have firstLive := (holds.live _).mpr (rightOf_mem nodes.head items)
  have kept : (nodes.memory.alloc node 0).next nodes.head = rightOf nodes.head items := by
    rw [Memory.alloc_next other.symm, holds.ring.head_neighbours.2]
  have nodeIn : node ∈ (nodes.memory.alloc node 0).live := List.mem_cons_self
  have headIn : nodes.head ∈ (nodes.memory.alloc node 0).live :=
    List.mem_cons_of_mem _ holds.head_live
  have nextIn : (nodes.memory.alloc node 0).next nodes.head ∈
      (nodes.memory.alloc node 0).live := kept ▸ List.mem_cons_of_mem _ firstLive
  have apart : node ≠ (nodes.memory.alloc node 0).next nodes.head := by
    rw [kept]
    rintro rfl
    exact fresh firstLive
  obtain ⟨result, linked, live, inserted⟩ := linkFirst_spec nodeIn headIn nextIn other apart
  rw [kept] at inserted
  exact ⟨result, linked, Holds.link [] items holds fresh address live inserted data⟩

/-- Induction on the nodes that are still to be looked at. -/
theorem flushLoop_spec (accepts : Option Value → Bool)
    (discarded : Option Value → List (Event Value User)) {turns : Nat}
    (events : List (Event Value User)) (enough : after.length < turns)
    (holds : Holds nodes (before ++ after)) :
    ∃ next, flushLoop accepts discarded turns (rightOf nodes.head after) nodes events =
        some (next, events ++ ((after.map nodes.data).filter accepts).flatMap discarded) ∧
      next.data = nodes.data ∧
      Holds next (before ++ after.filter fun item => !accepts (nodes.data item)) := by
  induction after generalizing before turns nodes events with
  | nil =>
    obtain ⟨fewer, rfl⟩ := Nat.exists_eq_add_of_lt enough
    refine ⟨nodes, ?_, rfl, holds⟩
    rw [flushLoop, if_pos (show rightOf nodes.head [] = nodes.head from rfl)]
    simp
  | cons first rest inductionHypothesis =>
    obtain ⟨fewer, rfl⟩ : ∃ fewer, turns = fewer + 1 := ⟨turns - 1, by omega⟩
    have fewerTurns : rest.length < fewer := Nat.lt_of_succ_lt_succ enough
    have isFirst : rightOf nodes.head (first :: rest) = first := rfl
    have other : first ≠ nodes.head := fun same =>
      (List.nodup_cons.mp holds.ring.nodup).1 (same ▸ List.mem_append_right _ List.mem_cons_self)
    have read : nodes.memory.readNext first = some (rightOf nodes.head rest) := by
      have firstLive : first ∈ nodes.memory.live := (holds.live first).mpr
        (List.mem_cons_of_mem _ (List.mem_append_right _ List.mem_cons_self))
      rw [Memory.readNext, if_pos firstLive, holds.ring.neighbours.2]
    rw [isFirst, flushLoop, if_neg other, read]
    simp only [Option.bind_eq_bind, Option.bind_some]
    cases accepted : accepts (nodes.data first) with
    | true =>
      obtain ⟨taken, takes, isHead, isData, -, kept⟩ := CamQueue.takeOut_spec holds
      obtain ⟨next, walked, data, final⟩ :=
        inductionHypothesis (events ++ discarded (nodes.data first)) fewerTurns kept
      rw [isHead, isData] at walked
      rw [isData] at data final
      refine ⟨next, ?_, data, ?_⟩
      · simp only [if_true, takes, Option.bind_some, walked, List.map_cons,
          List.filter_cons_of_pos accepted, List.flatMap_cons, List.append_assoc]
      · rwa [List.filter_cons_of_neg (by simp [accepted])]
    | false =>
      have moved : Holds nodes ((before ++ [first]) ++ rest) := by
        rwa [List.append_assoc, List.singleton_append]
      obtain ⟨next, walked, data, final⟩ := inductionHypothesis events fewerTurns moved
      refine ⟨next, ?_, data, ?_⟩
      · rw [List.map_cons, List.filter_cons_of_neg (by simp [accepted])]
        simpa using walked
      · rw [List.filter_cons_of_pos (by simp [accepted])]
        rwa [List.append_assoc, List.singleton_append] at final

theorem flushWalk_spec {queue : QCameraQueue Value User} (accepts : Option Value → Bool)
    (holds : Holds queue.nodes items) :
    ∃ next, flushWalk queue accepts = some (next,
        ((items.map queue.nodes.data).filter accepts).flatMap
          (discard queue.hasDataFn queue.userData)) ∧
      Holds next (items.filter fun item => !accepts (queue.nodes.data item)) ∧
      (items.filter fun item => !accepts (queue.nodes.data item)).map next.data =
        (items.map queue.nodes.data).filter fun data => !accepts data := by
  have whole : Holds queue.nodes ([] ++ items) := holds
  obtain ⟨next, walked, data, final⟩ := flushLoop_spec accepts
    (discard queue.hasDataFn queue.userData) [] (Nat.lt_succ_of_lt holds.length_le_live) whole
  refine ⟨next, ?_, final, ?_⟩
  · rw [flushWalk, holds.readNext_head]
    exact walked
  · rw [data, List.filter_map]
    rfl

/-- A call does what is done to the list. -/
def Works (queue : QCameraQueue Value User)
    (called : Option (QCameraQueue Value User × Result Value User))
    (outcome : Deque Value × Result Value User) : Prop :=
  ∃ next, called = some (next, outcome.2) ∧ Represents next outcome.1 ∧
    next.hasDataFn = queue.hasDataFn ∧ next.userData = queue.userData

variable {queue : QCameraQueue Value User} {deque : Deque Value}

/-- Other nodes in an active queue. -/
theorem represents_nodes (hasDataFn : Bool) (userData : User) (holds : Holds nodes items) :
    Represents ⟨nodes, hasDataFn, userData, true⟩ ⟨items.map nodes.data, true⟩ where
  nodes := ⟨items, holds, rfl⟩
  size := by rw [holds.size, List.length_map]
  active := rfl
  inactive := nofun

/-- A call that does nothing. -/
theorem works_nothing (represents : Represents queue deque) :
    Works queue (some (queue, {})) (deque, {}) :=
  ⟨queue, rfl, represents, rfl, rfl⟩

/-- A call that does nothing with a queue that is not active, as such a queue is empty. -/
theorem represents_cases (represents : Represents queue deque) :
    (queue.active = false ∧ deque = ⟨[], false⟩) ∨
      (queue.active = true ∧ ∃ items, Holds queue.nodes items ∧
        deque = ⟨items.map queue.nodes.data, true⟩) := by
  obtain ⟨values, active⟩ := deque
  obtain ⟨⟨items, holds, isValues⟩, -, isActive, inactive⟩ := represents
  cases active with
  | false => exact .inl ⟨isActive, congrArg (Deque.mk · false) (inactive rfl)⟩
  | true =>
    obtain rfl : items.map queue.nodes.data = values := isValues
    exact .inr ⟨isActive, items, holds, rfl⟩

theorem enqueue_works (represents : Represents queue deque) (allocated : Option Nat)
    (data : Option Value)
    (malloc : ∀ node, allocated = some node →
      node ∉ queue.nodes.memory.live ∧ node < 2 ^ 32) :
    Works queue (enqueue queue allocated data)
      (deque.put allocated.isSome (deque.values ++ [data])) := by
  cases allocated with
  | none => exact works_nothing represents
  | some node =>
    obtain ⟨fresh, address⟩ := malloc node rfl
    obtain ⟨isInactive, rfl⟩ | ⟨isActive, items, holds, rfl⟩ := represents_cases represents
    · simp only [enqueue, isInactive, Bool.false_eq_true, if_false]
      exact works_nothing represents
    · obtain ⟨next, enqueued, nextItems, nextHolds, isNext⟩ :=
        CamQueue.enq_spec holds fresh address data
      refine ⟨{ queue with nodes := next }, ?_, ?_, rfl, rfl⟩
      · rw [enqueue, if_pos isActive, enqueued]
        rfl
      · have now := represents_nodes queue.hasDataFn queue.userData nextHolds
        rw [isNext] at now
        rw [isActive]
        exact now

theorem enqueueWithPriority_works (represents : Represents queue deque) (allocated : Option Nat)
    (data : Option Value)
    (malloc : ∀ node, allocated = some node →
      node ∉ queue.nodes.memory.live ∧ node < 2 ^ 32) :
    Works queue (enqueueWithPriority queue allocated data)
      (deque.put allocated.isSome (data :: deque.values)) := by
  cases allocated with
  | none => exact works_nothing represents
  | some node =>
    obtain ⟨fresh, address⟩ := malloc node rfl
    obtain ⟨isInactive, rfl⟩ | ⟨isActive, items, holds, rfl⟩ := represents_cases represents
    · simp only [enqueueWithPriority, isInactive, Bool.false_eq_true, if_false]
      exact works_nothing represents
    · obtain ⟨result, linked, nextHolds⟩ := linkFirst_holds holds fresh address
        (Function.update queue.nodes.data node data)
      refine ⟨{ queue with nodes := { queue.nodes with
        memory := result
        data := Function.update queue.nodes.data node data
        size := (queue.nodes.size + 1) % 2 ^ 32 } }, ?_, ?_, rfl, rfl⟩
      · rw [enqueueWithPriority, if_pos isActive, linked]
        rfl
      · have now := represents_nodes queue.hasDataFn queue.userData nextHolds
        have new : node ∉ [] ++ items := (holds.fresh_items fresh).2
        have isNext : (node :: items).map (Function.update queue.nodes.data node data) =
            data :: items.map queue.nodes.data :=
          CamQueue.map_update queue.nodes.data data new
        rw [isNext] at now
        rw [isActive]
        exact now

theorem peek_works (represents : Represents queue deque) :
    Works queue (peek queue) (deque, { returned := deque.values.head?.join }) := by
  obtain ⟨isInactive, rfl⟩ | ⟨isActive, items, holds, rfl⟩ := represents_cases represents
  · simp only [peek, isInactive, Bool.false_eq_true, if_false]
    exact works_nothing represents
  · refine ⟨queue, ?_, represents, rfl, rfl⟩
    rw [peek, if_pos isActive, holds.readNext_head]
    cases items with
    | nil => exact if_pos rfl
    | cons first rest =>
      have isFirst : rightOf queue.nodes.head (first :: rest) = first := rfl
      have other : first ≠ queue.nodes.head := fun same =>
        (List.nodup_cons.mp holds.ring.nodup).1 (same ▸ List.mem_cons_self)
      have firstLive : first ∈ queue.nodes.memory.live := (holds.live first).mpr (by simp)
      simp only [isFirst, Option.bind_eq_bind, Option.bind_some, if_neg other, if_pos firstLive]
      rfl

/-- A node at one end is taken out. -/
theorem takeOut_works (isActive : queue.active = true) {item : Nat}
    (holds : Holds queue.nodes (before ++ item :: after)) :
    Works queue (do
        let nodes ← queue.nodes.takeOut item
        some ({ queue with nodes := nodes }, { returned := queue.nodes.data item }))
      (⟨(before ++ after).map queue.nodes.data, true⟩, { returned := queue.nodes.data item }) := by
  obtain ⟨rest, taken, -, isData, -, kept⟩ := CamQueue.takeOut_spec holds
  refine ⟨{ queue with nodes := rest }, by rw [taken]; rfl, ?_, rfl, rfl⟩
  have now := represents_nodes queue.hasDataFn queue.userData kept
  rw [isData] at now
  rw [isActive]
  exact now

theorem dequeue_head_works (represents : Represents queue deque) :
    Works queue (dequeue queue true) ({ deque with values := deque.values.tail },
      { returned := deque.values.head?.join }) := by
  obtain ⟨isInactive, rfl⟩ | ⟨isActive, items, holds, rfl⟩ := represents_cases represents
  · simp only [dequeue, isInactive, Bool.false_eq_true, if_false]
    exact works_nothing represents
  · rw [dequeue, if_pos isActive, if_pos rfl, holds.readNext_head]
    cases items with
    | nil =>
      refine ⟨queue, if_pos rfl, represents, rfl, rfl⟩
    | cons first rest =>
      have isFirst : rightOf queue.nodes.head (first :: rest) = first := rfl
      have other : first ≠ queue.nodes.head := fun same =>
        (List.nodup_cons.mp holds.ring.nodup).1 (same ▸ List.mem_cons_self)
      have whole : Holds queue.nodes ([] ++ first :: rest) := holds
      simp only [isFirst, Option.bind_eq_bind, Option.bind_some, if_neg other]
      exact takeOut_works isActive whole

theorem dequeue_tail_works (represents : Represents queue deque) :
    Works queue (dequeue queue false) ({ deque with values := deque.values.dropLast },
      { returned := deque.values.getLast?.join }) := by
  obtain ⟨isInactive, rfl⟩ | ⟨isActive, items, holds, rfl⟩ := represents_cases represents
  · simp only [dequeue, isInactive, Bool.false_eq_true, if_false]
    exact works_nothing represents
  · have read : queue.nodes.memory.readPrev queue.nodes.head =
        some (leftOf queue.nodes.head items) := by
      rw [Memory.readPrev, if_pos holds.head_live, holds.ring.head_neighbours.1]
    rw [dequeue, if_pos isActive, if_neg (by decide), read]
    obtain rfl | ⟨before, last, rfl⟩ := List.eq_nil_or_concat' items
    · exact ⟨queue, if_pos rfl, represents, rfl, rfl⟩
    · have isLast : leftOf queue.nodes.head (before ++ [last]) = last := by
        simp [leftOf]
      have other : last ≠ queue.nodes.head := fun same =>
        (List.nodup_cons.mp holds.ring.nodup).1 (same ▸ by simp)
      have works := takeOut_works isActive holds
      rw [List.append_nil] at works
      simp only [isLast, Option.bind_eq_bind, Option.bind_some, if_neg other, List.map_append,
        List.map_cons, List.map_nil, List.dropLast_concat, List.getLast?_concat]
      exact works

theorem flush_works (represents : Represents queue deque) :
    Works queue (flush queue) (⟨[], false⟩,
      { events := deque.values.flatMap (discard queue.hasDataFn queue.userData) }) := by
  obtain ⟨isInactive, rfl⟩ | ⟨isActive, items, holds, rfl⟩ := represents_cases represents
  · simp only [flush, isInactive, Bool.false_eq_true, if_false]
    exact works_nothing represents
  · obtain ⟨next, walked, final, -⟩ := flushWalk_spec (fun _ => true) holds
    refine ⟨{ queue with nodes := { next with size := 0 }, active := false }, ?_, ?_, rfl, rfl⟩
    · simp only [flush, if_pos isActive, walked, Option.bind_eq_bind, Option.bind_some,
        List.filter_true]
    · rw [List.filter_eq_nil_iff.mpr (by simp)] at final
      exact ⟨⟨[], ⟨final.ring, final.live, final.address, rfl⟩, rfl⟩, rfl, rfl, fun _ => rfl⟩

theorem flushAccepted_works (represents : Represents queue deque)
    (accepts : Option Value → Bool) :
    Works queue (flushAccepted queue accepts)
      (deque.prune queue.hasDataFn queue.userData accepts) := by
  obtain ⟨isInactive, rfl⟩ | ⟨isActive, items, holds, rfl⟩ := represents_cases represents
  · simp only [flushAccepted, isInactive, Bool.false_eq_true, if_false]
    exact works_nothing represents
  · obtain ⟨next, walked, final, isData⟩ := flushWalk_spec accepts holds
    refine ⟨{ queue with nodes := next }, ?_, ?_, rfl, rfl⟩
    · simp only [flushAccepted, if_pos isActive, walked, Option.bind_eq_bind, Option.bind_some,
        Deque.prune]
    · have now := represents_nodes queue.hasDataFn queue.userData final
      rw [isData] at now
      rw [isActive]
      exact now

end Calls

/-! ## Runs -/

section Runs

variable {Value User Spec : Type} {queue : QCameraQueue Value User} {deque : Deque Value}

/-- One call does what it does on the list. -/
theorem step_works (op : Op Value User Spec) (past : List (Op Value User Spec))
    (represents : Represents queue deque) (malloc : Malloc queue past op) :
    Works queue (op.call queue) (op.apply queue.hasDataFn queue.userData deque) := by
  cases op with
  | init =>
    obtain ⟨nodes, size, active, inactive⟩ := represents
    exact ⟨init queue, rfl, ⟨nodes, size, rfl, nofun⟩, rfl, rfl⟩
  | enqueue allocated data =>
    refine enqueue_works represents allocated data ?_
    rintro node rfl
    exact malloc
  | enqueueWithPriority allocated data =>
    refine enqueueWithPriority_works represents allocated data ?_
    rintro node rfl
    exact malloc
  | peek => exact peek_works represents
  | dequeue fromHead =>
    cases fromHead with
    | true => exact dequeue_head_works represents
    | false => exact dequeue_tail_works represents
  | flush => exact flush_works represents
  | flushNodes matchFn =>
    cases matchFn with
    | none => exact works_nothing represents
    | some accepts => exact flushAccepted_works represents _
  | flushNodesData matchFn matchData =>
    cases matchFn with
    | none => exact works_nothing represents
    | some accepts => exact flushAccepted_works represents _

/-- Induction on the calls. -/
theorem run_works (hasDataFn : Bool) (userData : User)
    (ops past : List (Op Value User Spec)) (represents : Represents queue deque)
    (isFn : queue.hasDataFn = hasDataFn) (isData : queue.userData = userData)
    (malloc : LabelledRun.Guarded step Malloc queue past ops) :
    ∃ final, LabelledRun.run? step queue ops =
        some (final, results hasDataFn userData deque ops) ∧
      Represents final (denoted hasDataFn userData deque ops) := by
  induction ops generalizing queue deque past with
  | nil => exact ⟨queue, rfl, represents⟩
  | cons op rest inductionHypothesis =>
    obtain ⟨next, called, after, sameFn, sameData⟩ := step_works op past represents malloc.1
    rw [isFn, isData] at called after
    have stepped : step queue op = some (next, [(op.apply hasDataFn userData deque).2]) := by
      rw [step, called]
      rfl
    obtain ⟨final, ran, last⟩ := inductionHypothesis _ after (sameFn.trans isFn)
      (sameData.trans isData) (malloc.2 next _ stepped)
    exact ⟨final, by simp only [LabelledRun.run?, stepped, ran]; rfl, last⟩

end Runs

/-! ## The ledger of the data -/

section Ledger

variable {Value User Spec : Type} {hasDataFn : Bool} {userData : User}

theorem freed_discard (data : Option Value) :
    freed (discard hasDataFn userData data) = data.toList := by
  cases data with
  | none => rfl
  | some data => cases hasDataFn <;> rfl

theorem freed_flatMap_discard (values : List (Option Value)) :
    freed (values.flatMap (discard hasDataFn userData)) = pointers values := by
  induction values with
  | nil => rfl
  | cons data rest inductionHypothesis =>
    have split : freed ((data :: rest).flatMap (discard hasDataFn userData)) =
        freed (discard hasDataFn userData data) ++
          freed (rest.flatMap (discard hasDataFn userData)) := by
      rw [List.flatMap_cons, freed, List.filterMap_append]
      rfl
    rw [split, freed_discard, inductionHypothesis, pointers, pointers, List.flatMap_cons]

theorem discarded_flatMap (values : List (Option Value)) :
    Discarded hasDataFn userData (values.flatMap (discard hasDataFn userData)) := by
  rw [Discarded, freed_flatMap_discard, pointers, List.flatMap_assoc]
  refine List.flatMap_congr fun data _ => ?_
  cases data with
  | none => rfl
  | some data => simp

/-- Every call discards what it frees. -/
theorem apply_discarded (op : Op Value User Spec) (deque : Deque Value) :
    Discarded hasDataFn userData (op.apply hasDataFn userData deque).2.events := by
  cases op with
  | init => rfl
  | enqueue allocated data => simp only [Op.apply, Deque.put]; split <;> rfl
  | enqueueWithPriority allocated data => simp only [Op.apply, Deque.put]; split <;> rfl
  | peek => rfl
  | dequeue fromHead => cases fromHead <;> rfl
  | flush => exact discarded_flatMap deque.values
  | flushNodes matchFn =>
    cases matchFn with
    | none => rfl
    | some accepts => exact discarded_flatMap _
  | flushNodesData matchFn matchData =>
    cases matchFn with
    | none => rfl
    | some accepts => exact discarded_flatMap _

theorem pointers_append (values more : List (Option Value)) :
    pointers (values ++ more) = pointers values ++ pointers more :=
  List.flatMap_append

/-- Values pruned are those that a test accepts, the others are kept. -/
theorem prune_conserves (deque : Deque Value) (accepts : Option Value → Bool) :
    (freed (deque.prune hasDataFn userData accepts).2.events ++
      pointers (deque.prune hasDataFn userData accepts).1.values).Perm
        (pointers deque.values) := by
  rw [Deque.prune, freed_flatMap_discard, ← pointers_append]
  exact (List.filter_append_perm accepts deque.values).flatMap_right _

/-- What is put in and what was there is what leaves and what is there. -/
theorem apply_conserves (op : Op Value User Spec) (deque : Deque Value) :
    (op.entered (op.apply hasDataFn userData deque).2 ++ pointers deque.values).Perm
      (op.left (op.apply hasDataFn userData deque).2 ++
        pointers (op.apply hasDataFn userData deque).1.values) := by
  cases op with
  | init => exact .refl _
  | enqueue allocated data =>
    simp only [Op.apply, Deque.put]
    split
    · simpa [Op.entered, Op.left, freed, pointers] using List.perm_append_comm
    · exact .refl _
  | enqueueWithPriority allocated data =>
    simp only [Op.apply, Deque.put]
    split
    · simp [Op.entered, Op.left, freed, pointers]
    · exact .refl _
  | peek => exact .refl _
  | dequeue fromHead =>
    obtain ⟨values, active⟩ := deque
    cases fromHead with
    | true =>
      cases values with
      | nil => exact .refl _
      | cons first rest => simp [Op.entered, Op.left, Op.apply, pointers]
    | false =>
      obtain rfl | ⟨before, last, rfl⟩ := List.eq_nil_or_concat' values
      · exact .refl _
      · simpa [Op.entered, Op.left, Op.apply, pointers] using List.perm_append_comm
  | flush =>
    simp [Op.entered, Op.left, Op.apply, freed_flatMap_discard, pointers]
  | flushNodes matchFn =>
    cases matchFn with
    | none => exact .refl _
    | some accepts => exact (prune_conserves deque _).symm
  | flushNodesData matchFn matchData =>
    cases matchFn with
    | none => exact .refl _
    | some accepts => exact (prune_conserves deque _).symm

/-- Induction on the calls. -/
theorem ledger (hasDataFn : Bool) (userData : User) (ops : List (Op Value User Spec))
    (deque : Deque Value) :
    (entered ops (results hasDataFn userData deque ops) ++ pointers deque.values).Perm
      (left ops (results hasDataFn userData deque ops) ++
        pointers (denoted hasDataFn userData deque ops).values) := by
  induction ops generalizing deque with
  | nil => exact .refl _
  | cons op rest inductionHypothesis =>
    have now : (op.entered (op.apply hasDataFn userData deque).2 ++ pointers deque.values).Perm
        (op.left (op.apply hasDataFn userData deque).2 ++
          pointers (op.apply hasDataFn userData deque).1.values) := apply_conserves op deque
    have later := inductionHypothesis (op.apply hasDataFn userData deque).1
    simp only [entered, left, results, List.zip_cons_cons, List.flatMap_cons] at later ⊢
    rw [List.append_assoc, List.append_assoc]
    have swap (first second third : List Value) :
        (first ++ (second ++ third)).Perm (second ++ (first ++ third)) := by
      rw [← List.append_assoc, ← List.append_assoc]
      exact List.perm_append_comm.append_right third
    exact (swap _ _ _).trans ((now.append_left _).trans ((swap _ _ _).trans (later.append_left _)))

theorem results_discarded (ops : List (Op Value User Spec)) (deque : Deque Value) :
    ∀ result ∈ results hasDataFn userData deque ops,
      Discarded hasDataFn userData result.events := by
  induction ops generalizing deque with
  | nil => nofun
  | cons op rest inductionHypothesis =>
    intro result member
    obtain rfl | later := List.mem_cons.mp member
    · exact apply_discarded op deque
    · exact inductionHypothesis _ result later

end Ledger

/-! ## The queue of the other components -/

section Component

open PostProc (CameraQueue)

variable {Value User Spec : Type}

/-- The queue without nodes, as a list. -/
def Deque.of (queue : CameraQueue (Option Value)) : Deque Value where
  values := queue.items
  active := queue.m_active

/--
A call on the queue without nodes, for the calls that its users make.  The lists that the
flushes hand out are discarded by the callers of this model.
-/
def Op.onItems (hasDataFn : Bool) (userData : User) (queue : CameraQueue (Option Value)) :
    Op Value User Spec → Option (CameraQueue (Option Value) × List (Result Value User))
  | .init => some (queue.init, [{}])
  | .enqueue node data =>
    some (queue.tryEnqueue node.isSome data, [{ accepted := queue.accepts node.isSome }])
  | .dequeue true => some (queue.dequeue.2, [{ returned := queue.dequeue.1.join }])
  | .dequeue false => some (queue.dequeueLast.2, [{ returned := queue.dequeueLast.1.join }])
  | .flush =>
    some (queue.flush.2, [{ events := queue.flush.1.flatMap (discard hasDataFn userData) }])
  | .flushNodes (some accepts) =>
    let flushed := queue.flushNodes fun data => accepts data userData
    some (flushed.2, [{ events := flushed.1.flatMap (discard hasDataFn userData) }])
  | _ => none

variable {hasDataFn : Bool} {userData : User} {queue next : CameraQueue (Option Value)}
  {outcomes : List (Result Value User)}

theorem apply_of {op : Op Value User Spec}
    (called : op.onItems hasDataFn userData queue = some (next, outcomes)) :
    (op.apply hasDataFn userData (.of queue)).1 = .of next ∧
      [(op.apply hasDataFn userData (.of queue)).2] = outcomes := by
  unfold Op.onItems at called
  split at called <;> cases called
  · exact ⟨rfl, rfl⟩
  · rename_i node data
    cases active : queue.m_active with
    | true =>
      obtain ⟨items, stillActive⟩ := CameraQueue.enqueue_of_active active data
      cases node <;> simp [Op.apply, Deque.put, Deque.of, CameraQueue.accepts,
        CameraQueue.tryEnqueue, active, items, stillActive]
    | false =>
      obtain ⟨items, stillInactive⟩ := CameraQueue.enqueue_of_inactive active data
      cases node <;> simp [Op.apply, Deque.put, Deque.of, CameraQueue.accepts,
        CameraQueue.tryEnqueue, active, items, stillInactive, queue.inactiveEmpty active]
  · simp [Op.apply, Deque.of]
  · exact ⟨rfl, rfl⟩
  · exact ⟨rfl, rfl⟩
  · exact ⟨rfl, rfl⟩

/-- Induction on the calls. -/
theorem denoted_of {ops : List (Op Value User Spec)}
    (ran : LabelledRun.run? (Op.onItems hasDataFn userData) queue ops = some (next, outcomes)) :
    denoted hasDataFn userData (.of queue) ops = .of next ∧
      results hasDataFn userData (.of queue) ops = outcomes := by
  induction ops generalizing queue outcomes with
  | nil =>
    cases ran
    exact ⟨rfl, rfl⟩
  | cons op rest inductionHypothesis =>
    obtain ⟨_, _, _, called, continued, rfl⟩ := LabelledRun.run?_cons_eq_some ran
    obtain ⟨same, rfl⟩ := apply_of called
    obtain ⟨reached, outputs⟩ := inductionHypothesis continued
    rw [← same] at reached outputs
    exact ⟨reached, congrArg _ outputs⟩

/-- The ring of nodes runs as the queue without nodes of the other components. -/
theorem ring_refines {head : Nat} (valid : head < 2 ^ 32) {ops : List (Op Value User Spec)}
    (malloc : LabelledRun.Guarded step Malloc (create head hasDataFn userData) [] ops)
    (ran : LabelledRun.run? (Op.onItems hasDataFn userData) .new ops = some (next, outcomes)) :
    ∃ final, LabelledRun.run? step (create head hasDataFn userData) ops = some (final, outcomes) ∧
      Represents final (.of next) := by
  have start : Represents (create head hasDataFn userData : QCameraQueue Value User) (.of .new) :=
    ⟨⟨[], CamQueue.holds_init valid, rfl⟩, rfl, rfl, nofun⟩
  obtain ⟨reached, rfl⟩ := denoted_of ran
  obtain ⟨final, runs, represents⟩ := run_works hasDataFn userData ops [] start rfl rfl malloc
  exact ⟨final, runs, reached ▸ represents⟩

/-- Two values are put in, one is taken out, and the other is flushed. -/
def onePassedOps : List (Op Nat Nat Nat) :=
  [.enqueue (some 8) (some 1), .enqueue (some 16) (some 2), .dequeue true, .flush]

theorem ring_refines_onePassed : ∃ final,
    LabelledRun.run? step (create 4 true 0) onePassedOps = some (final,
      [{ accepted := true }, { accepted := true }, { returned := some 1 },
        { events := [.dataFn 2 0, .free 2] }]) ∧
      Represents final (.of ⟨[], false, fun _ => rfl⟩) :=
  ring_refines (by decide) (by decide) rfl

end Component

/--
The queue is the list that the calls denote.  What its calls have accepted is what
they have let out and what is still in the list, each pointer as often.
-/
theorem cameraQueue_owns {Value User Spec : Type} {head : Nat} (valid : head < 2 ^ 32)
    (hasDataFn : Bool) (userData : User) (ops : List (Op Value User Spec))
    (malloc : LabelledRun.Guarded step Malloc (create head hasDataFn userData) [] ops) :
    ∃ final outcomes,
      LabelledRun.run? step (create head hasDataFn userData) ops = some (final, outcomes) ∧
        outcomes = results hasDataFn userData ⟨[], true⟩ ops ∧
        Represents final (denoted hasDataFn userData ⟨[], true⟩ ops) ∧
        (entered ops outcomes).Perm
          (left ops outcomes ++ pointers (denoted hasDataFn userData ⟨[], true⟩ ops).values) ∧
        ∀ result ∈ outcomes, Discarded hasDataFn userData result.events := by
  have start : Represents (create head hasDataFn userData : QCameraQueue Value User)
      ⟨[], true⟩ :=
    ⟨⟨[], CamQueue.holds_init valid, rfl⟩, rfl, rfl, nofun⟩
  obtain ⟨final, ran, represents⟩ := run_works hasDataFn userData ops [] start rfl rfl malloc
  have balance := ledger hasDataFn userData ops ⟨[], true⟩
  rw [show pointers (⟨[], true⟩ : Deque Value).values = [] from rfl, List.append_nil] at balance
  exact ⟨final, _, ran, rfl, represents, balance, results_discarded ops _⟩

/-- Three values are put in, one of them at the head, and leave in the three ways. -/
def drainedOps : List (Op Nat Nat Nat) :=
  [.enqueue (some 8) (some 1), .enqueueWithPriority (some 16) (some 2),
    .enqueue (some 24) (some 3), .dequeue false,
    .flushNodes (some fun data _ => data = some 2), .flush, .enqueue (some 8) (some 4)]

theorem cameraQueue_owns_drained : ∃ final outcomes,
    LabelledRun.run? step (create 4 true 0) drainedOps = some (final, outcomes) ∧
      outcomes = results true 0 ⟨[], true⟩ drainedOps ∧
      Represents final (denoted true 0 ⟨[], true⟩ drainedOps) ∧
      (entered drainedOps outcomes).Perm
        (left drainedOps outcomes ++ pointers (denoted true 0 ⟨[], true⟩ drainedOps).values) ∧
      ∀ result ∈ outcomes, Discarded true 0 result.events :=
  cameraQueue_owns (by decide) true 0 drainedOps (by decide)

end AnglerHal.QueueRing
