import AnglerHal.LabelledRun
import AnglerHal.LinkedPath
import AnglerHal.PerfLocks

namespace AnglerHal.PowerHints

open LabelledRun LinkedPath

/-!
# The list behind the hints

The active hints are a singly linked list behind a static head.  The pointers of
the nodes are modelled, so that a use of freed memory shows; it has the result
`none`, as has a loop that does not end.  The compare callback is installed in the
head with the first hint and copied into each node.

`perf_lock_rel` is there; `perf_lock_acq` may be missing.
-/

/-- `struct list_node`; of the callbacks it matters whether they are installed. -/
structure ListNode where
  next : Option Nat
  data : Option Nat
  compare : Bool
  dump : Bool
  deriving DecidableEq

/-- `struct hint_data`, with its `unsigned long` members. -/
structure HintRecord where
  hintId : UInt64
  perflockHandle : UInt64
  deriving DecidableEq

/-- The live nodes, the head included, and the live hint data. -/
structure HintHeap where
  nodes : Nat → Option ListNode
  hints : Nat → Option HintRecord

/-- The address of `active_hint_list_head`. -/
def activeHintListHead : Nat :=
  0

/-- A `list_node` that the loader has cleared. -/
def clearedNode : ListNode where
  next := none
  data := none
  compare := false
  dump := false

/-- The heap as the library is loaded. -/
def HintHeap.loaded : HintHeap where
  nodes := Function.update (fun _ => none) activeHintListHead (some clearedNode)
  hints := fun _ => none

/-- A call of the library that serves the locks. -/
inductive LockCall where
  | acquired (handle : Int32)
  | released (handle : Int32)
  deriving DecidableEq

/-- An `int` converted to `unsigned long`. -/
def toUlong (value : Int32) : UInt64 :=
  value.toInt64.toUInt64

/-- An `unsigned long` converted to `int`. -/
def toInt (value : UInt64) : Int32 :=
  value.toInt64.toInt32

/-! ## `list.c` -/

namespace HintHeap

/-- Write a live node. -/
def writeNode (heap : HintHeap) (address : Nat) (node : ListNode) : HintHeap :=
  { heap with nodes := Function.update heap.nodes address (some node) }

@[simp] theorem writeNode_self (heap : HintHeap) (address : Nat) (node : ListNode) :
    (heap.writeNode address node).nodes address = some node := by
  simp [writeNode]

theorem writeNode_of_ne (heap : HintHeap) {address other : Nat} (node : ListNode)
    (apart : other ≠ address) :
    (heap.writeNode address node).nodes other = heap.nodes other := by
  simp [writeNode, apart]

/-- `add_list_node`, with the node that `malloc` gave. -/
def addListNode (heap : HintHeap) (head data : Nat) (malloc : Option Nat) :
    Option (HintHeap × Option Nat) :=
  match malloc with
  | none => some (heap, none)
  | some newNode => do
    let headNode ← heap.nodes head
    let heap := heap.writeNode newNode
      { next := headNode.next
        data := some data
        compare := headNode.compare
        dump := headNode.dump }
    return (heap.writeNode head { headNode with next := some newNode }, some newNode)

/-- The loop of `remove_list_node`: the saved node and the one it has found. -/
def removeLoop (heap : HintHeap) (delNode : Nat) : Nat → Nat → Option Nat →
    Option (Nat × Option Nat)
  | 0, _, _ => none
  | turns + 1, savedNode, currentNode =>
    match currentNode with
    | none => some (savedNode, none)
    | some address =>
      if address = delNode then
        some (savedNode, some address)
      else do
        let node ← heap.nodes address
        removeLoop heap delNode turns address node.next

/-- `remove_list_node` of a node that is not `NULL`; `turns` bounds its loop. -/
def removeListNode (turns : Nat) (heap : HintHeap) (head delNode : Nat) :
    Option (HintHeap × Int) := do
  let headNode ← heap.nodes head
  if headNode.next = none then
    return (heap, -1)
  else do
    let (savedNode, currentNode) ← heap.removeLoop delNode turns head headNode.next
    match currentNode with
    | none => return (heap, -1)
    | some address => do
      let current ← heap.nodes address
      let saved ← heap.nodes savedNode
      let heap := heap.writeNode savedNode { saved with next := current.next }
      return ({ heap with nodes := Function.update heap.nodes delNode none }, 0)

/-- `hint_compare` with data on the stack that has this id. -/
def hintCompareData (heap : HintHeap) (firstHint : Option Nat) (otherId : UInt64) : Option Int :=
  match firstHint with
  | none => some 1
  | some address => do
    let hint ← heap.hints address
    return if hint.hintId = otherId then 0 else 1

/-- The loop of `find_node`. -/
def findLoop (heap : HintHeap) (hintId : UInt64) : Nat → Option Nat → Option (Option Nat)
  | 0, _ => none
  | turns + 1, currentNode =>
    match currentNode with
    | none => some none
    | some address => do
      let node ← heap.nodes address
      if node.compare then
        let result ← heap.hintCompareData node.data hintId
        if result = 0 then
          return some address
        else
          findLoop heap hintId turns node.next
      else
        findLoop heap hintId turns node.next

/-- `find_node` of the hint with an id. -/
def findNode (turns : Nat) (heap : HintHeap) (head : Nat) (hintId : UInt64) :
    Option (Option Nat) := do
  let headNode ← heap.nodes head
  heap.findLoop hintId turns headNode.next

/-! ## `utils.c` -/

/--
What the calls out of `perform_hint_action` return: `perf_lock_acq`, unless it is
missing, and `malloc` of the hint data and of the list node.
-/
structure PerformCalls where
  perfLockAcq : Option Int32
  newHint : Option Nat
  newNode : Option Nat
  deriving DecidableEq

/-- The callbacks are installed in the head when they are not yet. -/
def installCallbacks (heap : HintHeap) (headNode : ListNode) : HintHeap :=
  if headNode.compare then
    heap
  else
    heap.writeNode activeHintListHead { headNode with compare := true, dump := true }

/-- `perform_hint_action`. -/
def performHintAction (calls : PerformCalls) (hintId : Int32) (heap : HintHeap) :
    Option (HintHeap × List LockCall) :=
  match calls.perfLockAcq with
  | none => some (heap, [])
  | some lockHandle =>
    if lockHandle = -1 then
      some (heap, [])
    else
      match calls.newHint with
      | none => some (heap, [.acquired lockHandle, .released lockHandle])
      | some newHint => do
        let headNode ← heap.nodes activeHintListHead
        let heap := heap.installCallbacks headNode
        let heap := { heap with
          hints := Function.update heap.hints newHint (some
            { hintId := toUlong hintId
              perflockHandle := toUlong lockHandle }) }
        let (heap, added) ← heap.addListNode activeHintListHead newHint calls.newNode
        match added with
        | none =>
          return ({ heap with hints := Function.update heap.hints newHint none },
            [.acquired lockHandle, .released lockHandle])
        | some _ => return (heap, [.acquired lockHandle])

/-- `undo_hint_action`; `turns` bounds its loops. -/
def undoHintAction (turns : Nat) (hintId : Int32) (heap : HintHeap) :
    Option (HintHeap × List LockCall) := do
  let foundNode ← heap.findNode turns activeHintListHead (toUlong hintId)
  match foundNode with
  | none => return (heap, [])
  | some found => do
    let node ← heap.nodes found
    match node.data with
    | none =>
      let (heap, _) ← heap.removeListNode turns activeHintListHead found
      return (heap, [])
    | some data => do
      let hint ← heap.hints data
      let freed := { heap with hints := Function.update heap.hints data none }
      let (heap, _) ← freed.removeListNode turns activeHintListHead found
      return (heap, [.released (toInt hint.perflockHandle)])

end HintHeap

/-! ## Runs -/

/-- A call. -/
inductive HintCall where
  | perform (hintId : Int32) (calls : HintHeap.PerformCalls)
  | undo (hintId : Int32)
  deriving DecidableEq

/-- The heap and the number of nodes that were ever made, which bounds the loops. -/
structure HintState where
  heap : HintHeap
  turns : Nat

/-- One call. -/
def hintStep (state : HintState) : HintCall → Option (HintState × List LockCall)
  | .perform hintId calls => do
    let (heap, log) ← state.heap.performHintAction calls hintId
    return ({ heap := heap, turns := state.turns + 1 }, log)
  | .undo hintId => do
    let (heap, log) ← state.heap.undoHintAction state.turns hintId
    return ({ heap := heap, turns := state.turns }, log)

/-- No hint was performed yet. -/
def hintStart : HintState where
  heap := .loaded
  turns := 1

/-- `malloc` gives memory that is not in use. -/
def Malloc (state : HintState) (_ : List HintCall) : HintCall → Prop
  | .perform _ calls =>
    (∀ data, calls.newHint = some data → state.heap.hints data = none) ∧
      ∀ node, calls.newNode = some node → state.heap.nodes node = none
  | .undo _ => True

instance (state : HintState) (past : List HintCall) (call : HintCall) :
    Decidable (Malloc state past call) :=
  match call with
  | .perform _ ⟨_, newHint, newNode⟩ =>
    decidable_of_iff ((newHint.all fun data => (state.heap.hints data).isNone) = true ∧
      (newNode.all fun node => (state.heap.nodes node).isNone) = true) (by
        simp [Malloc, Option.all_eq_true])
  | .undo _ => isTrue trivial

/-! ## What the calls denote -/

/-- A performed hint, with the addresses of its node and its data. -/
structure HintEntry where
  node : Nat
  data : Nat
  hintId : Int32
  handle : Int32
  deriving DecidableEq

/-- The hint data of an entry. -/
def HintEntry.record (entry : HintEntry) : HintRecord where
  hintId := toUlong entry.hintId
  perflockHandle := toUlong entry.handle

/-- What a call does to a plain list of entries, newest first, and to the locks. -/
def HintCall.effect (entries : List HintEntry) : HintCall → List HintEntry × List LockCall
  | .perform hintId calls =>
    match calls.perfLockAcq with
    | none => (entries, [])
    | some handle =>
      if handle = -1 then
        (entries, [])
      else
        match calls.newHint, calls.newNode with
        | some data, some node => (⟨node, data, hintId, handle⟩ :: entries, [.acquired handle])
        | _, _ => (entries, [.acquired handle, .released handle])
  | .undo hintId =>
    match entries.find? (·.hintId = hintId) with
    | none => (entries, [])
    | some entry => (entries.eraseP (·.hintId = hintId), [.released entry.handle])

/-- The entries after some calls. -/
def hintEntries (entries : List HintEntry) (calls : List HintCall) : List HintEntry :=
  calls.foldl (fun current call => (call.effect current).1) entries

/-- The calls of the lock library. -/
def hintLog : List HintEntry → List HintCall → List LockCall
  | _, [] => []
  | entries, call :: rest => (call.effect entries).2 ++ hintLog (call.effect entries).1 rest

/-- The handle of an acquisition. -/
def LockCall.acquired? : LockCall → Option Int32
  | .acquired handle => some handle
  | .released _ => none

/-- The handle of a release. -/
def LockCall.released? : LockCall → Option Int32
  | .released handle => some handle
  | .acquired _ => none

/-- The next node of a live node. -/
def HintHeap.next (heap : HintHeap) (address : Nat) : Option Nat :=
  (heap.nodes address).bind ListNode.next

/-- The node and the data of an entry are live and hold it. -/
structure HintEntry.Stored (heap : HintHeap) (entry : HintEntry) : Prop where
  node : ∃ node, heap.nodes entry.node = some node ∧ node.data = some entry.data ∧
    node.compare = true
  hint : heap.hints entry.data = some entry.record

/-- The list in the heap is that of these entries. -/
structure Holds (heap : HintHeap) (entries : List HintEntry) : Prop where
  path : Path heap.next activeHintListHead (entries.map HintEntry.node)
  nodup : (activeHintListHead :: entries.map HintEntry.node).Nodup
  dataNodup : (entries.map HintEntry.data).Nodup
  head : ∃ node, heap.nodes activeHintListHead = some node ∧
    (node.compare = true ∨ entries = [])
  stored : ∀ entry ∈ entries, entry.Stored heap

/-! ## The loops -/

theorem toInt_toUlong (value : Int32) : toInt (toUlong value) = value := by
  simp [toInt, toUlong]

theorem toUlong_inj {first second : Int32} : toUlong first = toUlong second ↔ first = second :=
  ⟨fun same => by rw [← toInt_toUlong first, same, toInt_toUlong], congrArg toUlong⟩

variable {node saved current : ListNode} {result : HintHeap} {state : HintState}
  {past : List HintCall} {entries : List HintEntry} {locks : HintLocks}

section Loops

variable {heap : HintHeap} {before after : List HintEntry} {entry : HintEntry}
  {address turns : Nat}

theorem HintHeap.next_of_nodes (live : heap.nodes address = some node) :
    heap.next address = node.next := by
  rw [next, live]
  rfl

/-- `find_node` finds the newest entry with the id. -/
theorem HintHeap.findLoop_spec (stored : ∀ entry ∈ entries, entry.Stored heap)
    (path : Path heap.next address (entries.map HintEntry.node))
    (enough : entries.length < turns) (hintId : Int32) :
    heap.findLoop (toUlong hintId) turns (heap.next address) =
      some ((entries.find? (·.hintId = hintId)).map HintEntry.node) := by
  induction entries generalizing address turns with
  | nil =>
    obtain ⟨fewer, rfl⟩ := Nat.exists_eq_succ_of_ne_zero (Nat.ne_of_gt enough)
    have isLast : heap.next address = none := path
    rw [isLast]
    rfl
  | cons entry rest inductionHypothesis =>
    obtain ⟨fewer, rfl⟩ := Nat.exists_eq_succ_of_ne_zero (Nat.ne_of_gt (Nat.zero_lt_of_lt enough))
    obtain ⟨⟨node, live, data, compare⟩, hint⟩ := stored entry List.mem_cons_self
    have isNext : heap.next address = some entry.node := path.1
    have later := inductionHypothesis (fun other member => stored other (by simp [member])) path.2
      (Nat.lt_of_succ_lt_succ enough)
    rw [next_of_nodes live] at later
    rw [isNext, findLoop]
    simp only [live, compare, data, hintCompareData, hint, Option.bind_eq_bind, Option.bind_some,
      Option.pure_def, HintEntry.record, toUlong_inj, if_true]
    by_cases isHint : entry.hintId = hintId
    · simp [isHint]
    · simp [isHint, later]

theorem HintHeap.removeLoop_spec
    (live : ∀ entry ∈ before, ∃ node, heap.nodes entry.node = some node)
    (path : Path heap.next address ((before ++ entry :: after).map HintEntry.node))
    (nodup : ((before ++ entry :: after).map HintEntry.node).Nodup)
    (enough : before.length < turns) :
    heap.removeLoop entry.node turns address (heap.next address) =
      some ((before.map HintEntry.node).getLastD address, some entry.node) := by
  induction before generalizing address turns with
  | nil =>
    obtain ⟨fewer, rfl⟩ := Nat.exists_eq_succ_of_ne_zero (Nat.ne_of_gt enough)
    have isNext : heap.next address = some entry.node := path.1
    rw [isNext, removeLoop, if_pos rfl]
    rfl
  | cons first rest inductionHypothesis =>
    obtain ⟨fewer, rfl⟩ := Nat.exists_eq_succ_of_ne_zero (Nat.ne_of_gt (Nat.zero_lt_of_lt enough))
    obtain ⟨node, isNode⟩ := live first List.mem_cons_self
    have isNext : heap.next address = some first.node := path.1
    have notItem : first.node ≠ entry.node := by
      intro same
      refine (List.nodup_cons.mp nodup).1 ?_
      exact List.mem_map.mpr ⟨entry, by simp, same.symm⟩
    have later := inductionHypothesis (fun other member => live other (by simp [member])) path.2
      (List.nodup_cons.mp nodup).2 (Nat.lt_of_succ_lt_succ enough)
    rw [next_of_nodes isNode] at later
    rw [isNext, removeLoop, if_neg notItem, isNode, List.map_cons, List.getLastD_cons]
    exact later

end Loops

/-! ## One call -/

section Calls

variable {heap : HintHeap} {before after : List HintEntry} {entry : HintEntry}
  {turns : Nat}

/-- The cell before an entry is the head or the node of an earlier entry. -/
theorem lastNode_mem (before : List HintEntry) :
    (before.map HintEntry.node).getLastD activeHintListHead ∈
      activeHintListHead :: before.map HintEntry.node :=
  List.getLastD_mem_cons

/-- Linking a node out changes the next pointer of another node at most. -/
theorem HintHeap.unlink_keeps {last removed address : Nat} {next : Option Nat}
    (nodes : result.nodes = Function.update (Function.update heap.nodes last
      (some { saved with next := next })) removed none)
    (isSaved : heap.nodes last = some saved) (other : address ≠ removed)
    (live : heap.nodes address = some node) :
    ∃ node', result.nodes address = some node' ∧ node'.data = node.data ∧
      node'.compare = node.compare := by
  rw [nodes, Function.update_of_ne other]
  by_cases atLast : address = last
  · subst atLast
    rw [isSaved] at live
    cases live
    exact ⟨_, Function.update_self .., rfl, rfl⟩
  · exact ⟨node, by rw [Function.update_of_ne atLast, live], rfl, rfl⟩

/-- What linking out and freeing an entry leaves. -/
theorem Holds.unlinked (holds : Holds heap (before ++ entry :: after))
    (isSaved : heap.nodes ((before.map HintEntry.node).getLastD activeHintListHead) = some saved)
    (isCurrent : heap.nodes entry.node = some current)
    (nodes : result.nodes = Function.update (Function.update heap.nodes
      ((before.map HintEntry.node).getLastD activeHintListHead)
        (some { saved with next := current.next })) entry.node none)
    (hints : result.hints = Function.update heap.hints entry.data none) :
    Holds result (before ++ after) := by
  have path := holds.path
  have nodup := holds.nodup
  have dataNodup := holds.dataNodup
  simp only [List.map_append, List.map_cons] at path nodup dataNodup
  have lastMem := lastNode_mem before
  generalize isLast : (before.map HintEntry.node).getLastD activeHintListHead = last
    at isSaved nodes lastMem
  have perm : (activeHintListHead :: (before.map HintEntry.node ++ entry.node ::
      after.map HintEntry.node)).Perm (entry.node :: activeHintListHead ::
        (before.map HintEntry.node ++ after.map HintEntry.node)) :=
    (List.Perm.cons _ List.perm_middle).trans (List.Perm.swap _ _ _)
  obtain ⟨notIn, restNodup⟩ := List.nodup_cons.mp (perm.nodup_iff.mp nodup)
  have lastNe : last ≠ entry.node := by
    rintro rfl
    refine notIn ?_
    rcases List.mem_cons.mp lastMem with isHead | inBefore
    · exact isHead ▸ List.mem_cons_self
    · exact List.mem_cons_of_mem _ (List.mem_append_left _ inBefore)
  have kept : ∀ address, address ≠ last → address ≠ entry.node →
      result.nodes address = heap.nodes address := by
    intro address notLast notEntry
    rw [nodes, Function.update_of_ne notEntry, Function.update_of_ne notLast]
  have atLast : result.nodes last = some { saved with next := current.next } := by
    rw [nodes, Function.update_of_ne lastNe, Function.update_self]
  have headNe : activeHintListHead ≠ entry.node := fun isHead => notIn (isHead ▸ List.mem_cons_self)
  obtain ⟨dataNotIn, restDataNodup⟩ :=
    List.nodup_cons.mp ((List.perm_middle).nodup_iff.mp dataNodup)
  have inside : ∀ other ∈ before ++ after, other ∈ before ++ entry :: after := by
    intro other member
    rcases List.mem_append.mp member with inBefore | inAfter
    · exact List.mem_append_left _ inBefore
    · exact List.mem_append_right _ (List.mem_cons_of_mem _ inAfter)
  refine ⟨?_, by simpa using restNodup, by simpa using restDataNodup, ?_, ?_⟩
  · rw [List.map_append]
    refine path.remove nodup ?_ ?_
    · rw [isLast, HintHeap.next_of_nodes atLast, HintHeap.next_of_nodes isCurrent]
    · intro address member notLast
      rw [isLast] at notLast
      have notEntry : address ≠ entry.node := fun isEntry => notIn (isEntry ▸ member)
      rw [HintHeap.next, HintHeap.next, kept address notLast notEntry]
  · obtain ⟨node, live, installed⟩ := holds.head
    obtain ⟨node', live', -, compare⟩ := HintHeap.unlink_keeps nodes isSaved headNe live
    refine ⟨node', live', .inl (compare.trans ?_)⟩
    exact installed.resolve_right (by simp)
  · intro other member
    have stored := holds.stored other (inside other member)
    have otherNe : other.node ≠ entry.node := by
      intro isEntry
      refine notIn (List.mem_cons_of_mem _ ?_)
      rw [← isEntry, ← List.map_append]
      exact List.mem_map_of_mem member
    have otherDataNe : other.data ≠ entry.data := by
      intro isEntry
      refine dataNotIn ?_
      rw [← isEntry, ← List.map_append]
      exact List.mem_map_of_mem member
    obtain ⟨⟨node, live, data, compare⟩, hint⟩ := stored
    obtain ⟨node', live', data', compare'⟩ := HintHeap.unlink_keeps nodes isSaved otherNe live
    refine ⟨⟨node', live', data'.trans data, compare'.trans compare⟩, ?_⟩
    rw [hints, Function.update_of_ne otherDataNe, hint]

/-- `remove_list_node` links an entry out and frees its node. -/
theorem HintHeap.removeListNode_spec (heap : HintHeap)
    (path : Path heap.next activeHintListHead
      ((before ++ entry :: after).map HintEntry.node))
    (nodup : ((before ++ entry :: after).map HintEntry.node).Nodup)
    (live : ∀ other ∈ before, ∃ node, heap.nodes other.node = some node)
    (enough : before.length < turns)
    (isHead : ∃ node, heap.nodes activeHintListHead = some node)
    (isSaved : heap.nodes ((before.map HintEntry.node).getLastD activeHintListHead) = some saved)
    (isCurrent : heap.nodes entry.node = some current) :
    heap.removeListNode turns activeHintListHead entry.node =
      some ({ heap with
        nodes := Function.update (Function.update heap.nodes
          ((before.map HintEntry.node).getLastD activeHintListHead)
            (some { saved with next := current.next })) entry.node none }, 0) := by
  obtain ⟨headNode, isHead⟩ := isHead
  have next := next_of_nodes isHead
  have notEmpty : headNode.next ≠ none := by
    rw [← next, path.next_head]
    cases before <;> exact Option.some_ne_none _
  have looped := removeLoop_spec live path nodup enough
  rw [next] at looped
  simp only [removeListNode, isHead, notEmpty, looped, isCurrent, isSaved, writeNode,
    Option.bind_eq_bind, Option.bind_some, Option.pure_def, if_false]

theorem HintHeap.undoHintAction_spec (holds : Holds heap entries) (enough : entries.length < turns)
    (hintId : Int32) :
    ∃ result, heap.undoHintAction turns hintId =
        some (result, ((HintCall.undo hintId).effect entries).2) ∧
      Holds result ((HintCall.undo hintId).effect entries).1 := by
  obtain ⟨headNode, isHead, -⟩ := id holds.head
  have found := findLoop_spec holds.stored holds.path enough hintId
  rw [next_of_nodes isHead] at found
  cases isFound : entries.find? (·.hintId = hintId) with
  | none =>
    rw [isFound] at found
    refine ⟨heap, ?_, ?_⟩
    · simp [undoHintAction, findNode, isHead, found, HintCall.effect, isFound]
    · simpa [HintCall.effect, isFound] using holds
  | some entry =>
    rw [isFound] at found
    obtain ⟨isHint, before, after, rfl, others⟩ := List.find?_eq_some_iff_append.mp isFound
    have erased : (before ++ entry :: after).eraseP (·.hintId = hintId) = before ++ after := by
      rw [List.eraseP_append_right _ (fun other member => by simpa using others other member),
        List.eraseP_cons_of_pos (p := fun other : HintEntry => decide (other.hintId = hintId))
          isHint]
    obtain ⟨⟨current, isCurrent, data, compare⟩, hint⟩ := holds.stored entry (by simp)
    have live : ∀ other ∈ before, ∃ node, heap.nodes other.node = some node := by
      intro other member
      obtain ⟨node, isNode, -⟩ := (holds.stored other (by simp [member])).node
      exact ⟨node, isNode⟩
    obtain ⟨saved, isSaved⟩ : ∃ saved,
        heap.nodes ((before.map HintEntry.node).getLastD activeHintListHead) = some saved := by
      rcases List.mem_cons.mp (lastNode_mem before) with atHead | inBefore
      · exact ⟨headNode, by rw [atHead, isHead]⟩
      · obtain ⟨other, member, isOther⟩ := List.mem_map.mp inBefore
        rw [← isOther]
        exact live other member
    have shorter : before.length < turns := by
      rw [List.length_append] at enough
      omega
    have removed := removeListNode_spec
      { heap with hints := Function.update heap.hints entry.data none }
      holds.path (List.nodup_cons.mp holds.nodup).2 live shorter ⟨headNode, isHead⟩ isSaved
        isCurrent
    refine ⟨{
      nodes := Function.update (Function.update heap.nodes
        ((before.map HintEntry.node).getLastD activeHintListHead)
          (some { saved with next := current.next })) entry.node none
      hints := Function.update heap.hints entry.data none }, ?_, ?_⟩
    · simp only [undoHintAction, findNode, isHead, found, Option.map_some, isCurrent, data, hint,
        removed, Option.bind_eq_bind, Option.bind_some, Option.pure_def, HintCall.effect, isFound,
        HintEntry.record, toInt_toUlong]
    · simp only [HintCall.effect, isFound, erased]
      exact holds.unlinked isSaved isCurrent rfl rfl

/-- A hint is added in front. -/
theorem Holds.added (holds : Holds heap entries) (entry : HintEntry)
    {headNode : ListNode} (freshNode : heap.nodes entry.node = none)
    (freshData : heap.hints entry.data = none)
    (isHead : result.nodes activeHintListHead = some headNode)
    (headNext : headNode.next = some entry.node) (headCompare : headNode.compare = true)
    (isNode : result.nodes entry.node = some node)
    (nodeNext : node.next = heap.next activeHintListHead)
    (nodeData : node.data = some entry.data) (nodeCompare : node.compare = true)
    (kept : ∀ address, address ≠ activeHintListHead → address ≠ entry.node →
      result.nodes address = heap.nodes address)
    (hints : result.hints = Function.update heap.hints entry.data (some entry.record)) :
    Holds result (entry :: entries) := by
  obtain ⟨headNotIn, nodup⟩ := List.nodup_cons.mp holds.nodup
  have notIn : ∀ other ∈ entries, other.node ≠ entry.node := by
    intro other member isEntry
    obtain ⟨live, isLive, -⟩ := (holds.stored other member).node
    rw [isEntry, freshNode] at isLive
    cases isLive
  have dataNotIn : ∀ other ∈ entries, other.data ≠ entry.data := by
    intro other member isEntry
    have isLive := (holds.stored other member).hint
    rw [isEntry, freshData] at isLive
    cases isLive
  have headNe : activeHintListHead ≠ entry.node := by
    intro isEntry
    obtain ⟨live, isLive, -⟩ := holds.head
    rw [isEntry, freshNode] at isLive
    cases isLive
  have same : ∀ other ∈ entries, result.nodes other.node = heap.nodes other.node := by
    intro other member
    refine kept _ ?_ (notIn other member)
    intro atHead
    exact headNotIn (atHead ▸ List.mem_map_of_mem member)
  refine ⟨?_, ?_, ?_, ⟨headNode, isHead, .inl headCompare⟩, ?_⟩
  · refine holds.path.insert ?_ ?_ ?_
    · rw [HintHeap.next_of_nodes isHead, headNext]
    · rw [HintHeap.next_of_nodes isNode, nodeNext]
    · intro address member
      obtain ⟨other, isOther, rfl⟩ := List.mem_map.mp member
      rw [HintHeap.next, HintHeap.next, same other isOther]
  · simp only [List.map_cons, List.nodup_cons, List.mem_cons, not_or, List.mem_map, not_exists,
      not_and]
    refine ⟨⟨headNe, fun other member atHead => headNotIn (atHead ▸ List.mem_map_of_mem member)⟩,
      fun other member => notIn other member, nodup⟩
  · simp only [List.map_cons, List.nodup_cons, List.mem_map, not_exists, not_and]
    exact ⟨fun other member => dataNotIn other member, holds.dataNodup⟩
  · intro other member
    rcases List.mem_cons.mp member with rfl | inEntries
    · exact ⟨⟨node, isNode, nodeData, nodeCompare⟩, by rw [hints, Function.update_self]⟩
    · obtain ⟨⟨live, isLive, data, compare⟩, hint⟩ := holds.stored other inEntries
      refine ⟨⟨live, by rw [same other inEntries, isLive], data, compare⟩, ?_⟩
      rw [hints, Function.update_of_ne (dataNotIn other inEntries), hint]

/-- The head with its callbacks installed holds the same list. -/
theorem Holds.installed (holds : Holds heap entries) {headNode : ListNode}
    (isHead : heap.nodes activeHintListHead = some headNode) :
    Holds (heap.installCallbacks headNode) entries ∧
      (∃ node, (heap.installCallbacks headNode).nodes activeHintListHead = some node ∧
        node.compare = true) ∧
      (heap.installCallbacks headNode).hints = heap.hints ∧
      ∀ address, address ≠ activeHintListHead →
        (heap.installCallbacks headNode).nodes address = heap.nodes address := by
  unfold HintHeap.installCallbacks
  by_cases compare : headNode.compare = true
  · rw [if_pos compare]
    exact ⟨holds, ⟨headNode, isHead, compare⟩, rfl, fun _ _ => rfl⟩
  · obtain ⟨node, isNode, installed⟩ := holds.head
    rw [isHead] at isNode
    cases isNode
    obtain rfl := installed.resolve_left compare
    rw [if_neg compare]
    have isNode : (heap.writeNode activeHintListHead
        { headNode with compare := true, dump := true }).nodes activeHintListHead =
          some { headNode with compare := true, dump := true } := heap.writeNode_self _ _
    have next : heap.next activeHintListHead = none := holds.path
    rw [HintHeap.next_of_nodes isHead] at next
    refine ⟨⟨(HintHeap.next_of_nodes isNode).trans next, holds.nodup, holds.dataNodup,
      ⟨_, isNode, .inl rfl⟩, nofun⟩, ⟨_, isNode, rfl⟩, rfl, fun address notHead => ?_⟩
    exact heap.writeNode_of_ne _ notHead

theorem HintHeap.performHintAction_spec (holds : Holds heap entries) (hintId : Int32)
    (calls : PerformCalls)
    (freshData : ∀ data, calls.newHint = some data → heap.hints data = none)
    (freshNode : ∀ node, calls.newNode = some node → heap.nodes node = none) :
    ∃ result, heap.performHintAction calls hintId =
        some (result, ((HintCall.perform hintId calls).effect entries).2) ∧
      Holds result ((HintCall.perform hintId calls).effect entries).1 := by
  obtain ⟨perfLockAcq, newHint, newNode⟩ := calls
  cases perfLockAcq with
  | none => exact ⟨heap, rfl, holds⟩
  | some lockHandle =>
    by_cases failed : lockHandle = -1
    · refine ⟨heap, ?_, ?_⟩
      · simp [performHintAction, HintCall.effect, failed]
      · simpa [HintCall.effect, failed] using holds
    · cases newHint with
      | none =>
        refine ⟨heap, ?_, ?_⟩
        · simp [performHintAction, HintCall.effect, failed]
        · simpa [HintCall.effect, failed] using holds
      | some data =>
        obtain ⟨headNode, isHead, -⟩ := id holds.head
        have isFresh := freshData data rfl
        obtain ⟨installed, ⟨node, isNode, compare⟩, hints, others⟩ := holds.installed isHead
        cases newNode with
        | none =>
          refine ⟨heap.installCallbacks headNode, ?_, ?_⟩
          · have freed : Function.update (heap.installCallbacks headNode).hints data none =
                (heap.installCallbacks headNode).hints := by
              rw [hints, ← isFresh, Function.update_eq_self]
            simp [performHintAction, HintCall.effect, failed, isHead, addListNode, freed]
          · simpa [HintCall.effect, failed] using installed
        | some newNode =>
          have isFreshNode := freshNode newNode rfl
          have headNe : activeHintListHead ≠ newNode := by
            rintro rfl
            rw [isHead] at isFreshNode
            cases isFreshNode
          let stored : HintHeap :=
            { nodes := (heap.installCallbacks headNode).nodes
              hints := Function.update (heap.installCallbacks headNode).hints data (some
                { hintId := toUlong hintId
                  perflockHandle := toUlong lockHandle }) }
          refine ⟨(stored.writeNode newNode
            { next := node.next
              data := some data
              compare := node.compare
              dump := node.dump }).writeNode activeHintListHead
                { node with next := some newNode }, ?_, ?_⟩
          · simp only [performHintAction, failed, isHead, addListNode, isNode, HintCall.effect,
              Option.bind_eq_bind, Option.bind_some, Option.pure_def, if_false]
            rfl
          · simp only [HintCall.effect, failed, if_false]
            refine installed.added ⟨newNode, data, hintId, lockHandle⟩
              ((others newNode headNe.symm).trans isFreshNode) ((congrFun hints data).trans isFresh)
              (writeNode_self _ _ _) rfl compare
              ((writeNode_of_ne _ _ headNe.symm).trans (writeNode_self _ _ _))
              (HintHeap.next_of_nodes isNode).symm rfl compare ?_ rfl
            intro address notHead notNode
            exact (writeNode_of_ne _ _ notHead).trans (writeNode_of_ne _ _ notNode)

/-- One call does to the heap what it does to the entries. -/
theorem hintStep_spec (holds : Holds state.heap entries)
    (enough : entries.length < state.turns) {call : HintCall}
    (malloc : Malloc state past call) :
    ∃ next, hintStep state call = some (next, (call.effect entries).2) ∧
      Holds next.heap (call.effect entries).1 ∧ (call.effect entries).1.length < next.turns := by
  cases call with
  | perform hintId calls =>
    obtain ⟨result, performed, after⟩ :=
      HintHeap.performHintAction_spec holds hintId calls malloc.1 malloc.2
    refine ⟨⟨result, state.turns + 1⟩, ?_, after, ?_⟩
    · simp [hintStep, performed]
    · have grown : ((HintCall.perform hintId calls).effect entries).1.length ≤
          entries.length + 1 := by
        simp only [HintCall.effect]
        split
        · exact Nat.le_succ _
        · split
          · exact Nat.le_succ _
          · split
            · exact Nat.le_refl _
            · exact Nat.le_succ _
      exact Nat.lt_succ_of_le (Nat.le_trans grown enough)
  | undo hintId =>
    obtain ⟨result, undone, after⟩ := HintHeap.undoHintAction_spec holds enough hintId
    refine ⟨⟨result, state.turns⟩, ?_, after, ?_⟩
    · simp [hintStep, undone]
    · refine Nat.lt_of_le_of_lt ?_ enough
      simp only [HintCall.effect]
      split
      · exact Nat.le_refl _
      · exact List.length_eraseP_le

end Calls

/-! ## Whole runs -/

/-- The call keeps the books: what is acquired and not released are the handles of the entries. -/
theorem HintCall.effect_perm (call : HintCall) (entries : List HintEntry) :
    (entries.map HintEntry.handle ++ (call.effect entries).2.filterMap LockCall.acquired?).Perm
      ((call.effect entries).2.filterMap LockCall.released? ++
        (call.effect entries).1.map HintEntry.handle) := by
  cases call with
  | perform hintId calls =>
    simp only [HintCall.effect]
    split
    · simp
    · split
      · simp
      · split
        · exact List.perm_append_singleton _ _
        · exact List.perm_append_singleton _ _
  | undo hintId =>
    simp only [HintCall.effect]
    split
    · simp
    · rename_i entry isFound
      obtain ⟨isHint, before, after, rfl, others⟩ := List.find?_eq_some_iff_append.mp isFound
      rw [List.eraseP_append_right _ (fun other member => by simpa using others other member),
        List.eraseP_cons_of_pos (p := fun other : HintEntry => decide (other.hintId = hintId))
          isHint]
      simp only [List.map_append, List.map_cons]
      exact (List.append_nil _).symm ▸ List.perm_middle

theorem hintRun_spec {calls : List HintCall} (holds : Holds state.heap entries)
    (enough : entries.length < state.turns)
    (malloc : Guarded hintStep Malloc state past calls) :
    ∃ final, run? hintStep state calls = some (final, hintLog entries calls) ∧
      Holds final.heap (hintEntries entries calls) := by
  induction calls generalizing state entries past with
  | nil => exact ⟨state, rfl, holds⟩
  | cons call rest inductionHypothesis =>
    obtain ⟨next, stepped, after, stillEnough⟩ := hintStep_spec holds enough malloc.1
    obtain ⟨final, ran, last⟩ :=
      inductionHypothesis after stillEnough (malloc.2 next _ stepped)
    exact ⟨final, by simp [run?, stepped, ran, hintLog], last⟩

theorem hintLog_perm (entries : List HintEntry) (calls : List HintCall) :
    (entries.map HintEntry.handle ++ (hintLog entries calls).filterMap LockCall.acquired?).Perm
      ((hintLog entries calls).filterMap LockCall.released? ++
        (hintEntries entries calls).map HintEntry.handle) := by
  induction calls generalizing entries with
  | nil => simp [hintLog, hintEntries]
  | cons call rest inductionHypothesis =>
    have here := call.effect_perm entries
    have later := inductionHypothesis (call.effect entries).1
    simp only [hintLog, List.filterMap_append]
    rw [← List.append_assoc, List.append_assoc (List.filterMap LockCall.released? _)]
    refine (here.append_right _).trans ?_
    rw [List.append_assoc]
    exact later.append_left _

theorem holds_loaded : Holds .loaded [] where
  path := by
    have isHead : HintHeap.loaded.nodes activeHintListHead = some clearedNode := rfl
    exact HintHeap.next_of_nodes isHead
  nodup := List.nodup_singleton _
  dataNodup := List.nodup_nil
  head := ⟨clearedNode, rfl, .inr rfl⟩
  stored := nofun

/-! ## The locks without the heap -/

/-- What the calls of `perform_hint_action` return, without addresses. -/
def HintHeap.PerformCalls.env (calls : HintHeap.PerformCalls) : HintEnv where
  lockHandle := calls.perfLockAcq.bind fun handle =>
    if handle = -1 then none else some handle.toUInt32.toNat
  newHint := calls.newHint.isSome
  newNode := calls.newNode.isSome

/-- A call on the locks alone. -/
def HintLocks.after (locks : HintLocks) : HintCall → HintLocks
  | .perform hintId calls => locks.performHintAction calls.env hintId.toInt
  | .undo hintId => locks.undoHintAction hintId.toInt

/-- The hint of an entry. -/
def HintEntry.hint (entry : HintEntry) : HintData where
  hintId := entry.hintId.toInt
  perflockHandle := entry.handle.toUInt32.toNat

/-- The entries are the active hints of the locks. -/
theorem HintCall.effect_active (call : HintCall)
    (active : entries.map HintEntry.hint = locks.active) :
    (call.effect entries).1.map HintEntry.hint = (locks.after call).active := by
  cases call with
  | perform hintId calls =>
    obtain ⟨perfLockAcq, newHint, newNode⟩ := calls
    cases perfLockAcq with
    | none => exact active
    | some handle =>
      by_cases failed : handle = -1
      · simpa [effect, HintLocks.after, HintLocks.performHintAction, HintHeap.PerformCalls.env,
          failed] using active
      · cases newHint <;> cases newNode <;>
          simp [effect, HintLocks.after, HintLocks.performHintAction, HintHeap.PerformCalls.env,
            HintLocks.perfLockRel, HintEntry.hint, failed, active]
  | undo hintId =>
    have compare : hintCompare hintId.toInt ∘ HintEntry.hint =
        fun entry => decide (entry.hintId = hintId) := by
      funext entry
      simp [hintCompare, HintEntry.hint, Int32.toInt_inj, beq_eq_decide]
    simp only [effect, HintLocks.after, HintLocks.undoHintAction, ← active, List.find?_map,
      List.eraseP_map, compare]
    cases entries.find? (·.hintId = hintId) with
    | none => exact active
    | some entry => rfl

theorem hintEntries_active (calls : List HintCall)
    (active : entries.map HintEntry.hint = locks.active) :
    (hintEntries entries calls).map HintEntry.hint =
      (calls.foldl HintLocks.after locks).active := by
  induction calls generalizing entries locks with
  | nil => exact active
  | cons call rest inductionHypothesis => exact inductionHypothesis (call.effect_active active)

/--
The list in the heap is a stack of entries, of which an undo takes the newest
with its id.  The locks that were acquired and not released are those of the
entries, and the entries are the active hints of the locks.
-/
theorem hints_booked (calls : List HintCall)
    (malloc : Guarded hintStep Malloc hintStart [] calls) :
    ∃ final, run? hintStep hintStart calls = some (final, hintLog [] calls) ∧
      Holds final.heap (hintEntries [] calls) ∧
      ((hintLog [] calls).filterMap LockCall.acquired?).Perm
        ((hintLog [] calls).filterMap LockCall.released? ++
          (hintEntries [] calls).map HintEntry.handle) ∧
      (hintEntries [] calls).map HintEntry.hint = (calls.foldl HintLocks.after noLocks).active := by
  have enough : ([] : List HintEntry).length < hintStart.turns := Nat.zero_lt_one
  obtain ⟨final, ran, holds⟩ := hintRun_spec holds_loaded enough malloc
  exact ⟨final, ran, holds, hintLog_perm [] calls, hintEntries_active calls rfl⟩

/-- Two hints are performed, the second without memory for its node, and the first is undone. -/
def performedCalls : List HintCall :=
  [.perform 5 ⟨some 70, some 1, some 2⟩, .perform 6 ⟨some 80, some 3, none⟩, .undo 5]

theorem hints_booked_performed :
    ∃ final, run? hintStep hintStart performedCalls =
        some (final, [.acquired 70, .acquired 80, .released 80, .released 70]) ∧
      Holds final.heap [] := by
  obtain ⟨final, ran, holds, -⟩ := hints_booked performedCalls (by decide)
  exact ⟨final, ran, holds⟩

end AnglerHal.PowerHints
