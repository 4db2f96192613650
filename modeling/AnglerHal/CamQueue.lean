import AnglerHal.LabelledRun
import AnglerHal.LinkedRing
import Mathlib.Algebra.Group.Nat.Defs

namespace AnglerHal.CamQueue

/-!
# The queues over `cam_list`

`cam_queue_t` and `mm_jpeg_queue_t` are rings of nodes with a dummy head.  The
pointers of the nodes are modelled, so that a use of freed memory shows; it has the
result `none`, as has a loop that does not end.  A value is what a node's data
points to, and NULL is `none`.
-/

open LinkedRing

/-! ## `cam_list.h` -/

/-- `cam_list_add_tail_node`. -/
def camListAddTailNode (memory : Memory Nat) (item head : Nat) : Option (Memory Nat) := do
  let prev ← memory.readPrev head
  let memory ← memory.writePrev head item
  let memory ← memory.writeNext item head
  let memory ← memory.writePrev item prev
  memory.writeNext prev item

/-- `cam_list_insert_before_node`. -/
def camListInsertBeforeNode (memory : Memory Nat) (item node : Nat) : Option (Memory Nat) := do
  let memory ← memory.writeNext item node
  let nodePrev ← memory.readPrev node
  let memory ← memory.writePrev item nodePrev
  let itemPrev ← memory.readPrev item
  let memory ← memory.writeNext itemPrev item
  memory.writePrev node item

/-- `cam_list_del_node`. -/
def camListDelNode (memory : Memory Nat) (ptr : Nat) : Option (Memory Nat) := do
  let prev ← memory.readPrev ptr
  let next ← memory.readNext ptr
  let memory ← memory.writePrev next prev
  let ptrNext ← memory.readNext ptr
  let memory ← memory.writeNext prev ptrNext
  let memory ← memory.writeNext ptr ptr
  memory.writePrev ptr ptr

/-! ## The queues -/

/-- A queue with the memory of its nodes. -/
structure Queue (Value : Type) where
  head : Nat
  memory : Memory Nat
  data : Nat → Option Value
  size : Nat

/-- What a call returns and frees. -/
structure Result (Value : Type) where
  rc : Int := 0
  returned : Option Value := none
  nodesFreed : Nat := 0
  dataFreed : List Value := []
  deriving DecidableEq

/-- What a removal does at a node. -/
inductive Look where
  | stop
  | take
  | skip
  deriving DecidableEq

section Code

variable {Value : Type}

/-- `cam_queue_init` and `mm_jpeg_queue_init`. -/
def init (head : Nat) : Queue Value where
  head := head
  memory := ⟨[head], fun _ => head, fun _ => head⟩
  data := fun _ => none
  size := 0

/-- `cam_queue_enq` and `mm_jpeg_queue_enq`, with the node that `malloc` gave. -/
def enq (queue : Queue Value) (node : Option Nat) (data : Option Value) :
    Option (Queue Value × Result Value) :=
  match node with
  | none => some (queue, { rc := -1 })
  | some node => do
    let memory ← camListAddTailNode (queue.memory.alloc node 0) node queue.head
    some ({ queue with
      memory := memory
      data := Function.update queue.data node data
      size := (queue.size + 1) % 2 ^ 32 }, {})

/-- `mm_jpeg_queue_enq_head`. -/
def mmJpegQueueEnqHead (queue : Queue Value) (node : Option Nat) (data : Option Value) :
    Option (Queue Value × Result Value) :=
  match node with
  | none => some (queue, { rc := -1 })
  | some node => do
    let allocated := queue.memory.alloc node 0
    let pos ← allocated.readNext queue.head
    let memory ← camListInsertBeforeNode allocated node pos
    some ({ queue with
      memory := memory
      data := Function.update queue.data node data
      size := (queue.size + 1) % 2 ^ 32 }, {})

/-- `cam_list_del_node`, `size--` and `free(node)`. -/
def Queue.takeOut (queue : Queue Value) (node : Nat) : Option (Queue Value) := do
  let memory ← camListDelNode queue.memory node
  let memory ← memory.free node
  some { queue with
    memory := memory
    size := (queue.size + 2 ^ 32 - 1) % 2 ^ 32 }

/-- `cam_queue_deq` and `mm_jpeg_queue_deq`. -/
def deq (queue : Queue Value) : Option (Queue Value × Result Value) := do
  let pos ← queue.memory.readNext queue.head
  if pos = queue.head then
    some (queue, {})
  else
    let rest ← queue.takeOut pos
    some (rest, { returned := queue.data pos, nodesFreed := 1 })

/-- The loop of the removals.  One with more turns than there are nodes has met a
node twice and does not end. -/
def removeLoop (look : Option Value → Look) :
    Nat → Nat → Queue Value → Option (Queue Value × Result Value)
  | 0, _, _ => none
  | turns + 1, pos, queue =>
    if pos = queue.head then
      some (queue, {})
    else if pos ∈ queue.memory.live then
      match look (queue.data pos) with
      | .stop => some (queue, {})
      | .take => do
        let rest ← queue.takeOut pos
        some (rest, { returned := queue.data pos, nodesFreed := 1 })
      | .skip => do
        let next ← queue.memory.readNext pos
        removeLoop look turns next queue
    else none

/-- A removal. -/
def remove (look : Option Value → Look) (queue : Queue Value) :
    Option (Queue Value × Result Value) := do
  let pos ← queue.memory.readNext queue.head
  removeLoop look (queue.memory.live.length + 1) pos queue

/-- One more node freed by a flush, with its data. -/
def Result.freeing (freed : Result Value) (data : Option Value) : Result Value :=
  { freed with
    nodesFreed := freed.nodesFreed + 1
    dataFreed := freed.dataFreed ++ data.toList }

/-- The loop of `cam_queue_flush`: it reads `pos->next` first. -/
def camQueueFlushLoop :
    Nat → Nat → Queue Value → Result Value → Option (Queue Value × Result Value)
  | 0, _, _, _ => none
  | turns + 1, pos, queue, freed =>
    if pos = queue.head then
      some ({ queue with size := 0 }, freed)
    else do
      let next ← queue.memory.readNext pos
      let rest ← queue.takeOut pos
      camQueueFlushLoop turns next rest (freed.freeing (queue.data pos))

/-- `cam_queue_flush`. -/
def camQueueFlush (queue : Queue Value) : Option (Queue Value × Result Value) := do
  let pos ← queue.memory.readNext queue.head
  camQueueFlushLoop (queue.memory.live.length + 1) pos queue {}

/-- The loop of `mm_jpeg_queue_flush`: it reads `pos->next` last. -/
def mmJpegQueueFlushLoop :
    Nat → Nat → Queue Value → Result Value → Option (Queue Value × Result Value)
  | 0, _, _, _ => none
  | turns + 1, pos, queue, freed =>
    if pos = queue.head then
      some ({ queue with size := 0 }, freed)
    else do
      let rest ← queue.takeOut pos
      let next ← rest.memory.readNext pos
      mmJpegQueueFlushLoop turns next rest (freed.freeing (queue.data pos))

/-- `mm_jpeg_queue_flush`. -/
def mmJpegQueueFlush (queue : Queue Value) : Option (Queue Value × Result Value) := do
  let pos ← queue.memory.readNext queue.head
  mmJpegQueueFlushLoop (queue.memory.live.length + 1) pos queue {}

/-- A call.  `cam_queue_t` has no `enqHead` and no `remove`. -/
inductive Op (Value : Type) where
  | enq (node : Option Nat) (data : Option Value)
  | enqHead (node : Option Nat) (data : Option Value)
  | deq
  | remove (look : Option Value → Look)
  | flush

/-- Whether a call is a flush. -/
def Op.isFlush {Value : Type} : Op Value → Bool
  | .flush => true
  | _ => false

/-- The calls on a queue with its flush. -/
def step (flush : Queue Value → Option (Queue Value × Result Value)) (queue : Queue Value)
    (op : Op Value) : Option (Queue Value × List (Result Value)) :=
  let called := match op with
    | .enq node data => enq queue node data
    | .enqHead node data => mmJpegQueueEnqHead queue node data
    | .deq => deq queue
    | .remove look => remove look queue
    | .flush => flush queue
  called.map fun result => (result.1, [result.2])

end Code

/-- A job node, the union of `enc_info` and `dec_info`, as far as the removals read it. -/
inductive JobNode where
  | encode (clientHandle sessionId jobId : Nat)
  | decode (clientHandle sessionId jobId : Nat)
  deriving DecidableEq

-- What `enc_info` has at these places lies behind the end of `dec_info`, where
-- `memset` has left 0.

/-- `enc_info.client_handle`. -/
def JobNode.encClientHandle : JobNode → Nat
  | .encode clientHandle _ _ => clientHandle
  | .decode .. => 0

/-- `enc_info.encode_job.session_id`. -/
def JobNode.encSessionId : JobNode → Nat
  | .encode _ sessionId _ => sessionId
  | .decode .. => 0

/-- `enc_info.job_id`. -/
def JobNode.encJobId : JobNode → Nat
  | .encode _ _ jobId => jobId
  | .decode .. => 0

/-- A test that skips nodes without data. -/
def lookFor (test : JobNode → Bool) : Option JobNode → Look
  | some data => if test data then .take else .skip
  | none => .skip

/-- The test of `mm_jpeg_queue_remove_job_by_job_id`, which gives up at a node without
data. -/
def lookForJobId (jobId : Nat) : Option JobNode → Look
  | none => .stop
  | some (.decode _ _ lqJobId) => if lqJobId = jobId then .take else .skip
  | some (.encode _ _ lqJobId) => if lqJobId = jobId then .take else .skip

section Removals

variable (queue : Queue JobNode)

/-- `mm_jpeg_queue_remove_job_by_client_id`. -/
def mmJpegQueueRemoveJobByClientId (clientHdl : Nat) :
    Option (Queue JobNode × Result JobNode) :=
  remove (lookFor fun data => data.encClientHandle = clientHdl) queue

/-- `mm_jpeg_queue_remove_job_by_session_id`. -/
def mmJpegQueueRemoveJobBySessionId (sessionId : Nat) :
    Option (Queue JobNode × Result JobNode) :=
  remove (lookFor fun data => data.encSessionId = sessionId) queue

/-- `mm_jpeg_queue_remove_job_by_job_id`. -/
def mmJpegQueueRemoveJobByJobId (jobId : Nat) : Option (Queue JobNode × Result JobNode) :=
  remove (lookForJobId jobId) queue

/-- `mm_jpeg_queue_remove_job_unlk`. -/
def mmJpegQueueRemoveJobUnlk (jobId : Nat) : Option (Queue JobNode × Result JobNode) :=
  remove (lookFor fun data => data.encJobId = jobId) queue

end Removals

/--
The loops of `mm_jpeg_destroy_session` and `mm_jpegdec_destroy_session` that remove
and free the jobs of a session.
-/
def freeJobs (sessionId : Nat) : Nat → Queue JobNode → Option (Queue JobNode × List JobNode)
  | 0, _ => none
  | turns + 1, queue => do
    let (rest, removed) ← mmJpegQueueRemoveJobBySessionId queue sessionId
    match removed.returned with
    | none => some (rest, [])
    | some node => do
      let (left, freed) ← freeJobs sessionId turns rest
      some (left, node :: freed)

/-! ## What a sequence of calls denotes -/

section Denotation

variable {Value : Type}

/-- Remove the first value that a test takes. -/
def removeFirst (look : Option Value → Look) :
    List (Option Value) → List (Option Value) × Result Value
  | [] => ([], {})
  | data :: rest =>
    match look data with
    | .stop => (data :: rest, {})
    | .take => (rest, { returned := data, nodesFreed := 1 })
    | .skip => (data :: (removeFirst look rest).1, (removeFirst look rest).2)

/-- A call on a plain list. -/
def Op.apply : Op Value → List (Option Value) → List (Option Value) × Result Value
  | .enq none _, values => (values, { rc := -1 })
  | .enq (some _) data, values => (values ++ [data], {})
  | .enqHead none _, values => (values, { rc := -1 })
  | .enqHead (some _) data, values => (data :: values, {})
  | .deq, [] => ([], {})
  | .deq, data :: rest => (rest, { returned := data, nodesFreed := 1 })
  | .remove look, values => removeFirst look values
  | .flush, values =>
    ([], { nodesFreed := values.length, dataFreed := values.flatMap Option.toList })

/-- The list after some calls. -/
def denoted (values : List (Option Value)) (ops : List (Op Value)) : List (Option Value) :=
  ops.foldl (fun current op => (op.apply current).1) values

/-- What the calls return and free. -/
def results : List (Option Value) → List (Op Value) → List (Result Value)
  | _, [] => []
  | values, op :: rest => (op.apply values).2 :: results (op.apply values).1 rest

/-- The nodes of a queue: a ring, and all that is allocated. -/
structure Holds (queue : Queue Value) (items : List Nat) : Prop where
  ring : Ring queue.memory queue.head items
  live : ∀ cell, cell ∈ queue.memory.live ↔ cell ∈ queue.head :: items
  address : ∀ cell ∈ queue.memory.live, cell < 2 ^ 32
  size : queue.size = items.length

/-- The queue is the list of these values. -/
def Represents (queue : Queue Value) (values : List (Option Value)) : Prop :=
  ∃ items, Holds queue items ∧ items.map queue.data = values

/-- The calls on a queue are those on the list. -/
def Simulates (flush : Queue Value → Option (Queue Value × Result Value)) (head : Nat)
    (ops : List (Op Value)) : Prop :=
  ∃ final, LabelledRun.run? (step flush) (init head) ops = some (final, results [] ops) ∧
    Represents final (denoted [] ops)

/-- `malloc`: a node lies at an address of its own, which has 32 bits. -/
def Malloc (queue : Queue Value) (_ : List (Op Value)) : Op Value → Prop
  | .enq (some node) _ => node ∉ queue.memory.live ∧ node < 2 ^ 32
  | .enqHead (some node) _ => node ∉ queue.memory.live ∧ node < 2 ^ 32
  | _ => True

instance (queue : Queue Value) (past : List (Op Value)) :
    ∀ op, Decidable (Malloc queue past op)
  | .enq (some _) _ => inferInstanceAs (Decidable (_ ∧ _))
  | .enqHead (some _) _ => inferInstanceAs (Decidable (_ ∧ _))
  | .enq none _ => isTrue trivial
  | .enqHead none _ => isTrue trivial
  | .deq => isTrue trivial
  | .remove _ => isTrue trivial
  | .flush => isTrue trivial

/-- Every flush finds a list that is allowed. -/
def FlushedOn (allowed : List (Option Value) → Prop) :
    List (Option Value) → List (Op Value) → Prop
  | _, [] => True
  | values, op :: rest => (op.isFlush = true → allowed values) ∧
      FlushedOn allowed (op.apply values).1 rest

end Denotation

/-! ## The pointers of `cam_list.h` -/

section Lists

variable {memory : Memory Nat} {item head node ptr : Nat}

theorem camListAddTailNode_spec (itemLive : item ∈ memory.live) (headLive : head ∈ memory.live)
    (prevLive : memory.prev head ∈ memory.live) (other : item ≠ head)
    (apart : item ≠ memory.prev head) :
    ∃ result, camListAddTailNode memory item head = some result ∧ result.live = memory.live ∧
      Inserted memory result item (memory.prev head) head := by
  simp only [camListAddTailNode, Memory.readPrev, Memory.writePrev, Memory.writeNext, itemLive,
    headLive, prevLive, if_true, Option.bind_eq_bind, Option.bind_some]
  refine ⟨_, rfl, rfl, ?_, ?_, ?_, ?_, ?_, ?_⟩ <;> grind [Function.update_apply]

theorem camListInsertBeforeNode_spec (itemLive : item ∈ memory.live)
    (nodeLive : node ∈ memory.live) (prevLive : memory.prev node ∈ memory.live)
    (other : item ≠ node) (apart : item ≠ memory.prev node) :
    ∃ result, camListInsertBeforeNode memory item node = some result ∧
      result.live = memory.live ∧ Inserted memory result item (memory.prev node) node := by
  simp only [camListInsertBeforeNode, Memory.readPrev, Memory.writePrev, Memory.writeNext,
    itemLive, nodeLive, prevLive, if_true, Option.bind_eq_bind, Option.bind_some,
    Function.update_self]
  refine ⟨_, rfl, rfl, ?_, ?_, ?_, ?_, ?_, ?_⟩ <;> grind [Function.update_apply]

theorem camListDelNode_spec (ptrLive : ptr ∈ memory.live)
    (prevLive : memory.prev ptr ∈ memory.live) (nextLive : memory.next ptr ∈ memory.live)
    (before : ptr ≠ memory.prev ptr) (behind : ptr ≠ memory.next ptr) :
    ∃ result, camListDelNode memory ptr = some result ∧ result.live = memory.live ∧
      Removed memory result ptr (memory.prev ptr) (memory.next ptr) := by
  simp only [camListDelNode, Memory.readPrev, Memory.readNext, Memory.writePrev,
    Memory.writeNext, ptrLive, prevLive, nextLive, if_true, Option.bind_eq_bind,
    Option.bind_some]
  refine ⟨_, rfl, rfl, ?_, ?_, ?_, ?_⟩ <;> grind [Function.update_apply]

end Lists

variable {turns : Nat}

/-! ## One call -/

section Calls

variable {Value : Type} {queue : Queue Value} {items before after : List Nat} {node item : Nat}

/-- There are fewer than 2^32 nodes, as they have addresses. -/
theorem Holds.length_lt (holds : Holds queue items) : items.length < 2 ^ 32 := by
  have inside : queue.head :: items ⊆ List.range (2 ^ 32) := fun cell member =>
    List.mem_range.mpr (holds.address cell ((holds.live cell).mpr member))
  have bound := holds.ring.length_lt inside
  rwa [List.length_range] at bound

/-- A walk over the nodes has turns enough. -/
theorem Holds.length_le_live (holds : Holds queue items) :
    items.length < queue.memory.live.length :=
  holds.ring.length_lt fun cell member => (holds.live cell).mpr member

theorem Holds.head_live (holds : Holds queue items) : queue.head ∈ queue.memory.live :=
  (holds.live _).mpr List.mem_cons_self

theorem Holds.readNext_head (holds : Holds queue items) :
    queue.memory.readNext queue.head = some (rightOf queue.head items) := by
  rw [Memory.readNext, if_pos holds.head_live, holds.ring.head_neighbours.2]

theorem holds_init {head : Nat} (valid : head < 2 ^ 32) :
    Holds (init head : Queue Value) [] where
  ring := ring_nil rfl rfl
  live := fun _ => Iff.rfl
  address := fun cell member => by
    rw [List.mem_singleton.mp member]
    exact valid
  size := rfl

/-- The data of the other nodes is not touched. -/
theorem map_update (data : Nat → Option Value) (value : Option Value)
    (fresh : node ∉ before ++ after) :
    (before ++ node :: after).map (Function.update data node value) =
      before.map data ++ value :: after.map data := by
  rw [List.mem_append, not_or] at fresh
  have same (cells : List Nat) (new : node ∉ cells) :
      cells.map (Function.update data node value) = cells.map data := by
    refine List.map_congr_left fun cell member => Function.update_of_ne ?_ _ _
    rintro rfl
    exact new member
  rw [List.map_append, List.map_cons, Function.update_self, same before fresh.1,
    same after fresh.2]

/-- A node allocated and linked in anywhere. -/
theorem Holds.link (before after : List Nat) (holds : Holds queue (before ++ after))
    {result : Memory Nat} (fresh : node ∉ queue.memory.live) (address : node < 2 ^ 32)
    (live : result.live = node :: queue.memory.live)
    (inserted : Inserted (queue.memory.alloc node 0) result node (leftOf queue.head before)
      (rightOf queue.head after)) (data : Nat → Option Value) :
    Holds { queue with
      memory := result
      data := data
      size := (queue.size + 1) % 2 ^ 32 } (before ++ node :: after) := by
  have new : node ∉ queue.head :: (before ++ after) := fun member =>
    fresh ((holds.live node).mpr member)
  have same : Inserted queue.memory result node (leftOf queue.head before)
      (rightOf queue.head after) :=
    { inserted with
      next := fun cell left other => (inserted.next cell left other).trans
        (Memory.alloc_next other)
      prev := fun cell right other => (inserted.prev cell right other).trans
        (Memory.alloc_prev other) }
  have linked : Holds { queue with
      memory := result
      data := data
      size := (before ++ node :: after).length } (before ++ node :: after) :=
    { ring := holds.ring.insert new same
      live := fun cell => by
        rw [live, List.mem_cons, holds.live]
        simp only [List.mem_cons, List.mem_append]
        tauto
      address := fun cell member => by
        obtain rfl | old := List.mem_cons.mp (live ▸ member)
        · exact address
        · exact holds.address cell old
      size := rfl }
  have bound := linked.length_lt
  have counted : (queue.size + 1) % 2 ^ 32 = (before ++ node :: after).length := by
    rw [holds.size]
    simp only [List.length_append, List.length_cons] at bound ⊢
    omega
  rw [counted]
  exact linked

theorem Holds.fresh_items (holds : Holds queue items) (fresh : node ∉ queue.memory.live) :
    node ≠ queue.head ∧ node ∉ items := by
  rw [holds.live, List.mem_cons, not_or] at fresh
  exact fresh

theorem enq_spec (holds : Holds queue items) (fresh : node ∉ queue.memory.live)
    (address : node < 2 ^ 32) (data : Option Value) :
    ∃ next, enq queue (some node) data = some (next, {}) ∧
      Represents next (items.map queue.data ++ [data]) := by
  obtain ⟨other, new⟩ := holds.fresh_items fresh
  have kept : (queue.memory.alloc node 0).prev queue.head = leftOf queue.head items := by
    rw [Memory.alloc_prev other.symm, holds.ring.head_neighbours.1]
  have lastLive : leftOf queue.head items ∈ queue.memory.live :=
    (holds.live _).mpr (leftOf_mem _ _)
  have nodeIn : node ∈ (queue.memory.alloc node 0).live := List.mem_cons_self
  have headIn : queue.head ∈ (queue.memory.alloc node 0).live :=
    List.mem_cons_of_mem _ holds.head_live
  have prevIn : (queue.memory.alloc node 0).prev queue.head ∈
      (queue.memory.alloc node 0).live := kept ▸ List.mem_cons_of_mem _ lastLive
  have apart : node ≠ (queue.memory.alloc node 0).prev queue.head := by
    rw [kept]
    rintro rfl
    exact fresh lastLive
  obtain ⟨result, added, live, inserted⟩ :=
    camListAddTailNode_spec nodeIn headIn prevIn other apart
  rw [kept] at inserted
  have linked := Holds.link items [] (by rwa [List.append_nil]) fresh address live inserted
    (Function.update queue.data node data)
  exact ⟨_, by rw [enq, added]; rfl, _, linked,
    map_update _ _ (by rwa [List.append_nil])⟩

theorem mmJpegQueueEnqHead_spec (holds : Holds queue items) (fresh : node ∉ queue.memory.live)
    (address : node < 2 ^ 32) (data : Option Value) :
    ∃ next, mmJpegQueueEnqHead queue (some node) data = some (next, {}) ∧
      Represents next (data :: items.map queue.data) := by
  obtain ⟨other, new⟩ := holds.fresh_items fresh
  have firstMem := rightOf_mem queue.head items
  have firstLive := (holds.live _).mpr firstMem
  have apart : rightOf queue.head items ≠ node := by
    rintro rfl
    exact fresh firstLive
  have read : (queue.memory.alloc node 0).readNext queue.head =
      some (rightOf queue.head items) := by
    have headIn : queue.head ∈ (queue.memory.alloc node 0).live :=
      List.mem_cons_of_mem _ holds.head_live
    rw [Memory.readNext, if_pos headIn, Memory.alloc_next other.symm,
      holds.ring.head_neighbours.2]
  have kept : (queue.memory.alloc node 0).prev (rightOf queue.head items) = queue.head := by
    have first : Linked queue.memory (leftOf queue.head []) (rightOf queue.head items) :=
      ((linked_seam : ((queue.head :: ([] ++ items)) ++ [queue.head]).IsChain _ ↔ _).mp
        holds.ring.linked).2.2
    rw [Memory.alloc_prev apart]
    exact first.2
  have nodeIn : node ∈ (queue.memory.alloc node 0).live := List.mem_cons_self
  have firstIn : rightOf queue.head items ∈ (queue.memory.alloc node 0).live :=
    List.mem_cons_of_mem _ firstLive
  have prevIn : (queue.memory.alloc node 0).prev (rightOf queue.head items) ∈
      (queue.memory.alloc node 0).live := by
    rw [kept]
    exact List.mem_cons_of_mem _ holds.head_live
  obtain ⟨result, added, live, inserted⟩ := camListInsertBeforeNode_spec nodeIn firstIn prevIn
    apart.symm (by rwa [kept])
  rw [kept] at inserted
  have linked := Holds.link [] items holds fresh address live inserted
    (Function.update queue.data node data)
  exact ⟨_, by simp only [mmJpegQueueEnqHead, read, added, Option.bind_eq_bind,
    Option.bind_some], _, linked, map_update _ _ new⟩

/-- A node is taken out of the middle and given back. -/
theorem takeOut_spec (holds : Holds queue (before ++ item :: after)) :
    ∃ rest, queue.takeOut item = some rest ∧ rest.head = queue.head ∧ rest.data = queue.data ∧
      item ∉ rest.memory.live ∧ Holds rest (before ++ after) := by
  have inside (cell : Nat) (member : cell ∈ queue.head :: (before ++ after)) :
      cell ∈ queue.memory.live := by
    refine (holds.live cell).mpr ?_
    simp only [List.mem_cons, List.mem_append] at member ⊢
    tauto
  have gone : item ∉ queue.head :: (before ++ after) := by
    have swap : (queue.head :: (before ++ item :: after)).Perm
        (item :: queue.head :: (before ++ after)) :=
      (List.perm_middle.cons _).trans (List.Perm.swap item _ _)
    exact (List.nodup_cons.mp (swap.nodup_iff.mp holds.ring.nodup)).1
  have itemLive : item ∈ queue.memory.live := (holds.live item).mpr (by simp)
  obtain ⟨prev, next⟩ := holds.ring.neighbours
  have leftIn : leftOf queue.head before ∈ queue.head :: (before ++ after) := by
    rw [← List.cons_append]
    exact List.mem_append_left _ (leftOf_mem _ _)
  have rightIn : rightOf queue.head after ∈ queue.head :: (before ++ after) := by
    have member := rightOf_mem queue.head after
    simp only [List.mem_cons, List.mem_append] at member ⊢
    tauto
  obtain ⟨result, deleted, live, removed⟩ := camListDelNode_spec itemLive
    (prev ▸ inside _ leftIn) (next ▸ inside _ rightIn)
    (by rw [prev]; rintro same; exact gone (same ▸ leftIn))
    (by rw [next]; rintro same; exact gone (same ▸ rightIn))
  rw [prev, next] at removed
  have bound := holds.length_lt
  have taken : queue.takeOut item = some { queue with
      memory := { result with live := result.live.filter (· ≠ item) }
      size := (queue.size + 2 ^ 32 - 1) % 2 ^ 32 } := by
    simp only [Queue.takeOut, deleted, Memory.free, live, itemLive, if_true,
      Option.bind_eq_bind, Option.bind_some]
  refine ⟨_, taken, rfl, rfl, by simp, ?_, fun cell => ?_, fun cell member => ?_, ?_⟩
  · obtain ⟨nodup, linked⟩ := holds.ring.remove removed
    exact ⟨nodup, linked⟩
  · simp only [live, List.mem_filter, holds.live, decide_eq_true_eq]
    constructor
    · rintro ⟨member, other⟩
      simp only [List.mem_cons, List.mem_append] at member ⊢
      tauto
    · intro member
      refine ⟨(holds.live cell).mp (inside cell member), ?_⟩
      rintro rfl
      exact gone member
  · exact holds.address cell (live ▸ (List.mem_filter.mp member).1)
  · have counted := holds.size
    simp only [List.length_append, List.length_cons] at bound counted ⊢
    omega

theorem deq_spec (holds : Holds queue items) :
    ∃ next, deq queue = some (next, (Op.deq.apply (items.map queue.data)).2) ∧
      Represents next (Op.deq.apply (items.map queue.data)).1 := by
  have read := holds.readNext_head
  cases items with
  | nil => exact ⟨queue, by rw [deq, read]; exact if_pos rfl, [], holds, rfl⟩
  | cons first rest =>
    have other : first ≠ queue.head := fun same =>
      (List.nodup_cons.mp holds.ring.nodup).1 (same ▸ List.mem_cons_self)
    have node : rightOf queue.head (first :: rest) = first := rfl
    have whole : Holds queue ([] ++ first :: rest) := holds
    obtain ⟨next, taken, _, data, _, left⟩ := takeOut_spec whole
    refine ⟨next, ?_, rest, left, by rw [data]; rfl⟩
    rw [deq, read, node]
    simp only [Option.bind_eq_bind, Option.bind_some, if_neg other, taken]
    rfl

/-- Induction on the nodes that are still to be looked at. -/
theorem removeLoop_spec (look : Option Value → Look) (enough : after.length < turns)
    (holds : Holds queue (before ++ after)) :
    ∃ next, removeLoop look turns (rightOf queue.head after) queue =
        some (next, (removeFirst look (after.map queue.data)).2) ∧
      Represents next
        (before.map queue.data ++ (removeFirst look (after.map queue.data)).1) := by
  induction after generalizing before turns with
  | nil =>
    obtain ⟨fewer, rfl⟩ := Nat.exists_eq_add_of_lt enough
    exact ⟨queue, by rw [removeLoop]; exact if_pos rfl, before ++ [], holds, List.map_append⟩
  | cons first rest inductionHypothesis =>
    obtain ⟨fewer, rfl⟩ : ∃ fewer, turns = fewer + 1 := ⟨turns - 1, by omega⟩
    have node : rightOf queue.head (first :: rest) = first := rfl
    have other : first ≠ queue.head := fun same =>
      (List.nodup_cons.mp holds.ring.nodup).1 (same ▸ List.mem_append_right _ List.mem_cons_self)
    have firstLive : first ∈ queue.memory.live := (holds.live first).mpr
      (List.mem_cons_of_mem _ (List.mem_append_right _ List.mem_cons_self))
    rw [node, removeLoop, if_neg other, if_pos firstLive, List.map_cons, removeFirst]
    cases look (queue.data first) with
    | stop => exact ⟨queue, rfl, before ++ first :: rest, holds, List.map_append⟩
    | take =>
      obtain ⟨next, taken, _, data, _, left⟩ := takeOut_spec holds
      refine ⟨next, by rw [taken]; rfl, before ++ rest, left, ?_⟩
      rw [data, List.map_append]
    | skip =>
      have read : queue.memory.readNext first = some (rightOf queue.head rest) := by
        rw [Memory.readNext, if_pos firstLive, holds.ring.neighbours.2]
      have moved : Holds queue ((before ++ [first]) ++ rest) := by
        rwa [List.append_assoc, List.singleton_append]
      obtain ⟨next, walked, left⟩ :=
        inductionHypothesis (Nat.lt_of_succ_lt_succ enough) moved
      refine ⟨next, by rw [read]; exact walked, ?_⟩
      rwa [List.map_append, List.append_assoc] at left

theorem remove_spec (look : Option Value → Look) (holds : Holds queue items) :
    ∃ next, remove look queue = some (next, (removeFirst look (items.map queue.data)).2) ∧
      Represents next (removeFirst look (items.map queue.data)).1 := by
  have whole : Holds queue ([] ++ items) := holds
  obtain ⟨next, walked, left⟩ := removeLoop_spec look
    (Nat.lt_succ_of_lt holds.length_le_live) whole
  exact ⟨next, by rw [remove, holds.readNext_head]; exact walked, left⟩

/-- Induction on the nodes that are left: each turn frees the first of them. -/
theorem camQueueFlushLoop_spec (freed : Result Value)
    (enough : items.length < turns) (holds : Holds queue items) :
    ∃ next, camQueueFlushLoop turns (rightOf queue.head items) queue freed =
        some (next, { freed with
          nodesFreed := freed.nodesFreed + items.length
          dataFreed := freed.dataFreed ++ (items.map queue.data).flatMap Option.toList }) ∧
      Holds next [] := by
  induction items generalizing queue turns freed with
  | nil =>
    obtain ⟨fewer, rfl⟩ := Nat.exists_eq_add_of_lt enough
    refine ⟨{ queue with size := 0 }, ?_, ⟨holds.ring, holds.live, holds.address, rfl⟩⟩
    rw [camQueueFlushLoop, if_pos (show rightOf queue.head [] = queue.head from rfl),
      List.map_nil, List.flatMap_nil, List.append_nil]
    rfl
  | cons first rest inductionHypothesis =>
    obtain ⟨fewer, rfl⟩ : ∃ fewer, turns = fewer + 1 := ⟨turns - 1, by omega⟩
    have node : rightOf queue.head (first :: rest) = first := rfl
    have other : first ≠ queue.head := fun same =>
      (List.nodup_cons.mp holds.ring.nodup).1 (same ▸ List.mem_cons_self)
    have whole : Holds queue ([] ++ first :: rest) := holds
    have read : queue.memory.readNext first = some (rightOf queue.head rest) := by
      rw [Memory.readNext, if_pos ((holds.live first).mpr (by simp)), whole.ring.neighbours.2]
    obtain ⟨next, taken, head, data, _, left⟩ := takeOut_spec whole
    obtain ⟨final, walked, empty⟩ := inductionHypothesis (freed.freeing (queue.data first))
      (Nat.lt_of_succ_lt_succ enough) left
    refine ⟨final, ?_, empty⟩
    rw [node, camQueueFlushLoop, if_neg other, read]
    simp only [Option.bind_eq_bind, Option.bind_some, taken]
    rw [head, data] at walked
    rw [walked, Result.freeing, List.length_cons, List.map_cons, List.flatMap_cons,
      List.append_assoc, Nat.add_assoc, Nat.add_comm 1]

/-- What a flush is to do. -/
def FlushWorks (flush : Queue Value → Option (Queue Value × Result Value))
    (values : List (Option Value)) : Prop :=
  ∀ queue, Represents queue values →
    ∃ next, flush queue = some (next, (Op.flush.apply values).2) ∧ Represents next []

theorem camQueueFlush_works (values : List (Option Value)) : FlushWorks camQueueFlush values := by
  rintro queue ⟨items, holds, rfl⟩
  obtain ⟨next, walked, empty⟩ := camQueueFlushLoop_spec {}
    (Nat.lt_succ_of_lt holds.length_le_live) holds
  refine ⟨next, ?_, [], empty, rfl⟩
  rw [camQueueFlush, holds.readNext_head]
  refine walked.trans ?_
  rw [Op.apply, Nat.zero_add, List.nil_append, List.length_map]

theorem mmJpegQueueFlush_nil :
    FlushWorks (mmJpegQueueFlush : Queue Value → Option (Queue Value × Result Value)) [] := by
  rintro queue ⟨items, holds, shape⟩
  obtain rfl := List.map_eq_nil_iff.mp shape
  refine ⟨{ queue with size := 0 }, ?_, [], ⟨holds.ring, holds.live, holds.address, rfl⟩, rfl⟩
  rw [mmJpegQueueFlush, holds.readNext_head]
  exact if_pos rfl

/-- The first node has been freed when its link is read. -/
theorem mmJpegQueueFlush_cons {values : List (Option Value)} (represents : Represents queue values)
    (filled : values ≠ []) : mmJpegQueueFlush queue = none := by
  obtain ⟨items, holds, rfl⟩ := represents
  cases items with
  | nil => exact absurd rfl filled
  | cons first rest =>
    have node : rightOf queue.head (first :: rest) = first := rfl
    have other : first ≠ queue.head := fun same =>
      (List.nodup_cons.mp holds.ring.nodup).1 (same ▸ List.mem_cons_self)
    have whole : Holds queue ([] ++ first :: rest) := holds
    obtain ⟨next, taken, _, _, gone, _⟩ := takeOut_spec whole
    have fault : next.memory.readNext first = none := if_neg gone
    rw [mmJpegQueueFlush, holds.readNext_head, node]
    simp only [Option.bind_eq_bind, Option.bind_some, mmJpegQueueFlushLoop, if_neg other, taken,
      fault, Option.bind_none]

end Calls

/-! ## Runs -/

section Runs

variable {Value : Type} {queue : Queue Value} {values : List (Option Value)}
  {flush : Queue Value → Option (Queue Value × Result Value)}
  {allowed : List (Option Value) → Prop}

/-- One call does what it does on the list. -/
theorem step_spec {op : Op Value} (past : List (Op Value)) (represents : Represents queue values)
    (malloc : Malloc queue past op) (flushes : op.isFlush = true → FlushWorks flush values) :
    ∃ next, step flush queue op = some (next, [(op.apply values).2]) ∧
      Represents next (op.apply values).1 := by
  obtain ⟨items, holds, rfl⟩ := id represents
  have call {called : Option (Queue Value × Result Value)} {result : Result Value}
      {left : List (Option Value)}
      (works : ∃ next, called = some (next, result) ∧ Represents next left) :
      ∃ next, called.map (fun result => (result.1, [result.2])) = some (next, [result]) ∧
        Represents next left := by
    obtain ⟨next, rfl, represents⟩ := works
    exact ⟨next, rfl, represents⟩
  cases op with
  | enq node data =>
    cases node with
    | none => exact ⟨queue, rfl, represents⟩
    | some node => exact call (enq_spec holds malloc.1 malloc.2 data)
  | enqHead node data =>
    cases node with
    | none => exact ⟨queue, rfl, represents⟩
    | some node => exact call (mmJpegQueueEnqHead_spec holds malloc.1 malloc.2 data)
  | deq => exact call (deq_spec holds)
  | remove look => exact call (remove_spec look holds)
  | flush => exact call (flushes rfl queue represents)

/-- Induction on the calls. -/
theorem run_spec {ops past : List (Op Value)} (works : ∀ values, allowed values →
      FlushWorks flush values) (represents : Represents queue values)
    (malloc : LabelledRun.Guarded (step flush) Malloc queue past ops)
    (flushed : FlushedOn allowed values ops) :
    ∃ final, LabelledRun.run? (step flush) queue ops = some (final, results values ops) ∧
      Represents final (denoted values ops) := by
  induction ops generalizing queue values past with
  | nil => exact ⟨queue, rfl, represents⟩
  | cons op rest inductionHypothesis =>
    obtain ⟨next, stepped, after⟩ := step_spec past represents malloc.1 fun isFlush =>
      works values (flushed.1 isFlush)
    obtain ⟨final, ran, last⟩ :=
      inductionHypothesis after (malloc.2 next _ stepped) flushed.2
    exact ⟨final, by simp only [LabelledRun.run?, stepped, ran]; rfl, last⟩

/-- A run of the jpeg queue that is defined flushes empty lists only. -/
theorem flushedOn_of_run {ops past : List (Op Value)} {final : Queue Value}
    {log : List (Result Value)} (represents : Represents queue values)
    (malloc : LabelledRun.Guarded (step mmJpegQueueFlush) Malloc queue past ops)
    (ran : LabelledRun.run? (step mmJpegQueueFlush) queue ops = some (final, log)) :
    FlushedOn (· = []) values ops := by
  induction ops generalizing queue values past log with
  | nil => trivial
  | cons op rest inductionHypothesis =>
    obtain ⟨next, emitted, later, stepped, continued, _⟩ := LabelledRun.run?_cons_eq_some ran
    have empty : op.isFlush = true → values = [] := by
      intro isFlush
      by_contra filled
      cases op with
      | flush =>
        simp only [step, mmJpegQueueFlush_cons represents filled, Option.map_none] at stepped
        cases stepped
      | _ => cases isFlush
    obtain ⟨same, restepped, after⟩ := step_spec past represents malloc.1 fun isFlush =>
      empty isFlush ▸ mmJpegQueueFlush_nil
    obtain ⟨rfl, rfl⟩ := Prod.mk.inj (Option.some.inj (stepped.symm.trans restepped))
    exact ⟨empty, inductionHypothesis after (malloc.2 _ _ stepped) continued⟩

theorem flushedOn_true (values : List (Option Value)) (ops : List (Op Value)) :
    FlushedOn (fun _ => True) values ops := by
  induction ops generalizing values with
  | nil => trivial
  | cons op rest inductionHypothesis => exact ⟨fun _ => trivial, inductionHypothesis _⟩

end Runs

/-- Both queues are FIFO queues; that of mm-jpeg-interface exactly while it is empty
whenever it is flushed. -/
theorem queues_simulate_iff {Value : Type} (head : Nat) (valid : head < 2 ^ 32)
    (ops : List (Op Value)) :
    (LabelledRun.Guarded (step camQueueFlush) Malloc (init head) [] ops →
        Simulates camQueueFlush head ops) ∧
      (LabelledRun.Guarded (step mmJpegQueueFlush) Malloc (init head) [] ops →
        (Simulates mmJpegQueueFlush head ops ↔ FlushedOn (· = []) [] ops)) := by
  have start : Represents (init head : Queue Value) [] := ⟨[], holds_init valid, rfl⟩
  refine ⟨fun malloc => ?_, fun malloc => ⟨?_, fun flushed => ?_⟩⟩
  · exact run_spec (fun values _ => camQueueFlush_works values) start malloc
      (flushedOn_true [] ops)
  · rintro ⟨final, ran, _⟩
    exact flushedOn_of_run start malloc ran
  · refine run_spec (fun values empty => ?_) start malloc flushed
    rw [empty]
    exact mmJpegQueueFlush_nil

/-- Two values are put in, taken out, and then the queue is flushed. -/
def emptiedOps : List (Op Nat) :=
  [.enq (some 8) (some 1), .enqHead (some 16) (some 2),
    .remove fun data => if data = some 1 then .take else .skip, .deq, .flush]

theorem queues_simulate_emptied :
    Simulates camQueueFlush 4 emptiedOps ∧ Simulates mmJpegQueueFlush 4 emptiedOps := by
  obtain ⟨cam, jpeg⟩ := queues_simulate_iff 4 (by decide) emptiedOps
  exact ⟨cam (by decide), (jpeg (by decide)).mpr
    ⟨nofun, nofun, nofun, nofun, fun _ => rfl, trivial⟩⟩

/-- A flush of one node reads it after it is freed. -/
theorem mmJpegQueue_flush_fault :
    ¬ ∀ ops : List (Op Nat), LabelledRun.Guarded (step mmJpegQueueFlush) Malloc (init 4) [] ops →
      Simulates mmJpegQueueFlush 4 ops := by
  intro always
  obtain ⟨final, ran, _⟩ := always [.enq (some 8) (some 1), .flush] (by decide)
  cases ran

/-! ## The jobs of a session -/

/-- `session_id`, made of `JOB_ID_MAGICVAL`, the index of the session and that of the client. -/
def makeSessionId (sessionIdx clntIdx : Nat) : Nat :=
  1 <<< 24 ||| sessionIdx <<< 8 ||| clntIdx

theorem makeSessionId_ne_zero (sessionIdx clntIdx : Nat) :
    makeSessionId sessionIdx clntIdx ≠ 0 := by
  have magic : 1 <<< 24 ≤ makeSessionId sessionIdx clntIdx :=
    Nat.left_le_or.trans Nat.left_le_or
  exact Nat.ne_of_gt (Nat.lt_of_lt_of_le (by decide) magic)

/-- An encode job of the session. -/
def JobNode.encodesFor (sessionId : Nat) : JobNode → Bool
  | .encode _ session _ => session = sessionId
  | .decode .. => false

/-- The test of the removals finds the encode jobs of a session, and no decode job. -/
theorem encSessionId_iff {sessionId : Nat} (valid : sessionId ≠ 0) (job : JobNode) :
    job.encSessionId = sessionId ↔ job.encodesFor sessionId = true := by
  cases job with
  | encode clientHandle session jobId => simp [JobNode.encSessionId, JobNode.encodesFor]
  | decode clientHandle session jobId =>
    simp [JobNode.encSessionId, JobNode.encodesFor, valid.symm]

section Sessions

variable (sessionId : Nat)

/-- The encode jobs of the session. -/
def jobsOf (values : List (Option JobNode)) : List JobNode :=
  values.filterMap (·.filter (·.encodesFor sessionId))

/-- The nodes without such a job. -/
def othersThan (values : List (Option JobNode)) : List (Option JobNode) :=
  values.filter (!·.any (·.encodesFor sessionId))

/-- Once no job is found, none is left. -/
theorem removeFirst_session (valid : sessionId ≠ 0) (values : List (Option JobNode)) :
    let (left, removed) := removeFirst (lookFor (·.encSessionId = sessionId)) values
    jobsOf sessionId values = removed.returned.toList ++ jobsOf sessionId left ∧
      othersThan sessionId values = othersThan sessionId left ∧
      (removed.returned = none →
        jobsOf sessionId left = [] ∧ othersThan sessionId left = left) := by
  unfold jobsOf othersThan
  simp only [encSessionId_iff valid]
  induction values with
  | nil => exact ⟨rfl, rfl, fun _ => ⟨rfl, rfl⟩⟩
  | cons data rest inductionHypothesis =>
    cases data with
    | none => simpa [removeFirst, lookFor] using inductionHypothesis
    | some job =>
      cases found : job.encodesFor sessionId with
      | true => simp [removeFirst, lookFor, Option.filter, found]
      | false => simpa [removeFirst, lookFor, found] using inductionHypothesis

/-- Induction on the turns: each but the last frees a job. -/
theorem freeJobs_spec (valid : sessionId ≠ 0) {queue : Queue JobNode}
    {values : List (Option JobNode)} (represents : Represents queue values)
    (enough : (jobsOf sessionId values).length < turns) :
    ∃ rest, freeJobs sessionId turns queue = some (rest, jobsOf sessionId values) ∧
      Represents rest (othersThan sessionId values) := by
  induction turns generalizing queue values with
  | zero => cases enough
  | succ turns inductionHypothesis =>
    obtain ⟨items, holds, rfl⟩ := represents
    obtain ⟨next, called, left⟩ := remove_spec (lookFor (·.encSessionId = sessionId)) holds
    obtain ⟨freed, kept, ended⟩ := removeFirst_session sessionId valid (items.map queue.data)
    rw [freed] at enough
    rw [freeJobs, mmJpegQueueRemoveJobBySessionId, called, freed, kept]
    cases returned : (removeFirst (lookFor (·.encSessionId = sessionId))
        (items.map queue.data)).2.returned with
    | none =>
      obtain ⟨noJobs, same⟩ := ended returned
      exact ⟨next, by simp [returned, noJobs], by rwa [same]⟩
    | some job =>
      obtain ⟨rest, loop, represents⟩ :=
        inductionHypothesis left (by simpa [returned] using enough)
      exact ⟨rest, by simp [returned, loop], represents⟩

end Sessions

/--
In every run the encode jobs of a session are freed in their order, and the other
nodes stay, decode jobs of this session among them.
-/
theorem freeJobs_run (sessionIdx clntIdx head : Nat) (valid : head < 2 ^ 32)
    (ops : List (Op JobNode)) {final : Queue JobNode} {log : List (Result JobNode)}
    (malloc : LabelledRun.Guarded (step mmJpegQueueFlush) Malloc (init head) [] ops)
    (ran : LabelledRun.run? (step mmJpegQueueFlush) (init head) ops = some (final, log)) :
    ∃ rest, freeJobs (makeSessionId sessionIdx clntIdx) (final.size + 1) final =
        some (rest, jobsOf (makeSessionId sessionIdx clntIdx) (denoted [] ops)) ∧
      Represents rest (othersThan (makeSessionId sessionIdx clntIdx) (denoted [] ops)) := by
  have start : Represents (init head : Queue JobNode) [] := ⟨[], holds_init valid, rfl⟩
  obtain ⟨same, reran, items, holds, shape⟩ := run_spec
    (fun _ empty => empty ▸ mmJpegQueueFlush_nil) start malloc (flushedOn_of_run start malloc ran)
  obtain ⟨rfl, -⟩ := Prod.mk.inj (Option.some.inj (ran.symm.trans reran))
  refine freeJobs_spec _ (makeSessionId_ne_zero sessionIdx clntIdx) ⟨items, holds, shape⟩
    (Nat.lt_succ_of_le ?_)
  rw [holds.size, ← List.length_map final.data, shape]
  exact List.length_filterMap_le _ _

/-- A decode job and an encode job of session 1, and an encode job of session 2. -/
def threeJobs : List (Op JobNode) :=
  [.enq (some 8) (some (.decode 7 (makeSessionId 1 0) 3)),
    .enq (some 9) (some (.encode 7 (makeSessionId 2 0) 4)),
    .enq (some 10) (some (.encode 7 (makeSessionId 1 0) 5))]

theorem freeJobs_run_three :
    ∃ rest, (LabelledRun.run? (step mmJpegQueueFlush) (init 4) threeJobs).bind
        (fun ran => freeJobs (makeSessionId 1 0) 4 ran.1) =
          some (rest, [.encode 7 (makeSessionId 1 0) 5]) ∧
      Represents rest [some (.decode 7 (makeSessionId 1 0) 3),
        some (.encode 7 (makeSessionId 2 0) 4)] := by
  obtain ⟨rest, freed, left⟩ := freeJobs_run 1 0 4 (by decide) threeJobs (by decide) rfl
  exact ⟨rest, freed, left⟩

end AnglerHal.CamQueue
