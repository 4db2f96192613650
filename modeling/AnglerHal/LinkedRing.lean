import Mathlib.Data.List.Chain
import Mathlib.Data.List.Nodup
import Mathlib.Data.List.Perm.Subperm

namespace AnglerHal.LinkedRing

/-!
# Circular doubly linked lists in a memory of cells

A memory has live cells with two pointers each.  Access to a cell that is not live
is undefined and has the result `none`.  A ring is a head cell with the cells of a
list, linked both ways in their order and closed at the head.  Linking a cell in and
linking one out are given by what they leave in the pointers, so that the order in
which a program writes them does not matter.
-/

variable {Cell : Type}

/-- Cells with a pointer to the next and one to the previous cell. -/
structure Memory (Cell : Type) where
  live : List Cell
  next : Cell → Cell
  prev : Cell → Cell

namespace Memory

variable [DecidableEq Cell]

/-- Read the pointer to the next cell. -/
def readNext (memory : Memory Cell) (cell : Cell) : Option Cell :=
  if cell ∈ memory.live then some (memory.next cell) else none

/-- Read the pointer to the previous cell. -/
def readPrev (memory : Memory Cell) (cell : Cell) : Option Cell :=
  if cell ∈ memory.live then some (memory.prev cell) else none

/-- Write the pointer to the next cell. -/
def writeNext (memory : Memory Cell) (cell value : Cell) : Option (Memory Cell) :=
  if cell ∈ memory.live then
    some { memory with next := Function.update memory.next cell value }
  else none

/-- Write the pointer to the previous cell. -/
def writePrev (memory : Memory Cell) (cell value : Cell) : Option (Memory Cell) :=
  if cell ∈ memory.live then
    some { memory with prev := Function.update memory.prev cell value }
  else none

/-- Give a cell back, once. -/
def free (memory : Memory Cell) (cell : Cell) : Option (Memory Cell) :=
  if cell ∈ memory.live then
    some { memory with live := memory.live.filter (· ≠ cell) }
  else none

/-- A new cell, whose pointers are cleared to `null`. -/
def alloc (memory : Memory Cell) (cell null : Cell) : Memory Cell where
  live := cell :: memory.live
  next := Function.update memory.next cell null
  prev := Function.update memory.prev cell null

theorem alloc_next {memory : Memory Cell} {cell null other : Cell} (apart : other ≠ cell) :
    (memory.alloc cell null).next other = memory.next other :=
  Function.update_of_ne apart _ _

theorem alloc_prev {memory : Memory Cell} {cell null other : Cell} (apart : other ≠ cell) :
    (memory.alloc cell null).prev other = memory.prev other :=
  Function.update_of_ne apart _ _

end Memory

/-- Two cells point at each other. -/
def Linked (memory : Memory Cell) (first second : Cell) : Prop :=
  memory.next first = second ∧ memory.prev second = first

/-- The cells of `items`, closed at `head`. -/
structure Ring (memory : Memory Cell) (head : Cell) (items : List Cell) : Prop where
  nodup : (head :: items).Nodup
  linked : ((head :: items) ++ [head]).IsChain (Linked memory)

/-- The cell after which a cell is linked in behind `before`. -/
def leftOf (head : Cell) (before : List Cell) : Cell :=
  (head :: before).getLast (List.cons_ne_nil _ _)

/-- The cell before which a cell is linked in before `after`. -/
def rightOf (head : Cell) (after : List Cell) : Cell :=
  (after ++ [head]).head (List.append_ne_nil_of_right_ne_nil _ (List.cons_ne_nil _ _))

/-- What linking in a cell leaves. -/
structure Inserted (memory result : Memory Cell) (item left right : Cell) : Prop where
  nextLeft : result.next left = item
  prevItem : result.prev item = left
  nextItem : result.next item = right
  prevRight : result.prev right = item
  next : ∀ cell, cell ≠ left → cell ≠ item → result.next cell = memory.next cell
  prev : ∀ cell, cell ≠ right → cell ≠ item → result.prev cell = memory.prev cell

/-- What linking out a cell leaves. -/
structure Removed (memory result : Memory Cell) (item left right : Cell) : Prop where
  nextLeft : result.next left = right
  prevRight : result.prev right = left
  next : ∀ cell, cell ≠ left → cell ≠ item → result.next cell = memory.next cell
  prev : ∀ cell, cell ≠ right → cell ≠ item → result.prev cell = memory.prev cell

section Ring

variable {memory result : Memory Cell} {head item : Cell} {before after items : List Cell}

/-- A chain reads only the pointers inside it. -/
theorem isChain_congr {cells : List Cell} (chain : cells.IsChain (Linked memory))
    (next : ∀ cell ∈ cells.dropLast, result.next cell = memory.next cell)
    (prev : ∀ cell ∈ cells.tail, result.prev cell = memory.prev cell) :
    cells.IsChain (Linked result) := by
  induction cells with
  | nil => exact .nil
  | cons first rest inductionHypothesis =>
    cases rest with
    | nil => exact .singleton first
    | cons second rest =>
      rw [List.isChain_cons_cons] at chain ⊢
      rw [List.dropLast_cons_cons] at next
      refine ⟨⟨?_, ?_⟩, inductionHypothesis chain.2 (fun cell member => ?_) fun cell member => ?_⟩
      · rw [next first List.mem_cons_self, chain.1.1]
      · rw [prev second List.mem_cons_self, chain.1.2]
      · exact next cell (List.mem_cons_of_mem _ member)
      · exact prev cell (List.mem_cons_of_mem _ member)

theorem leftOf_mem (head : Cell) (before : List Cell) : leftOf head before ∈ head :: before :=
  List.getLast_mem _

theorem rightOf_mem (head : Cell) (after : List Cell) : rightOf head after ∈ head :: after := by
  have member := List.head_mem (l := after ++ [head])
    (List.append_ne_nil_of_right_ne_nil _ (List.cons_ne_nil _ _))
  rw [rightOf]
  rw [List.mem_append, List.mem_singleton] at member
  exact List.mem_cons.mpr member.symm

/-- A ring at one of its seams. -/
theorem linked_seam :
    ((head :: (before ++ after)) ++ [head]).IsChain (Linked memory) ↔
      (head :: before).IsChain (Linked memory) ∧ (after ++ [head]).IsChain (Linked memory) ∧
        Linked memory (leftOf head before) (rightOf head after) := by
  rw [List.cons_append, List.append_assoc, ← List.cons_append, List.isChain_append,
    List.getLast?_eq_some_getLast (List.cons_ne_nil _ _),
    List.head?_eq_some_head (List.append_ne_nil_of_right_ne_nil _ (List.cons_ne_nil _ _))]
  simp only [Option.mem_some, forall_eq', leftOf, rightOf]

/-- A ring at one of its cells. -/
theorem linked_at :
    ((head :: (before ++ item :: after)) ++ [head]).IsChain (Linked memory) ↔
      (head :: before).IsChain (Linked memory) ∧ (after ++ [head]).IsChain (Linked memory) ∧
        Linked memory (leftOf head before) item ∧ Linked memory item (rightOf head after) := by
  have split : (item :: after ++ [head]).IsChain (Linked memory) ↔
      Linked memory item (rightOf head after) ∧ (after ++ [head]).IsChain (Linked memory) := by
    rw [List.cons_append, List.isChain_cons,
      List.head?_eq_some_head (List.append_ne_nil_of_right_ne_nil _ (List.cons_ne_nil _ _))]
    simp only [Option.mem_some, forall_eq', rightOf]
  have first : rightOf head (item :: after) = item := rfl
  rw [linked_seam, split, first]
  tauto

/-- The chains at both sides of a seam do not read the pointers across it. -/
theorem isChain_sides (nodup : (head :: (before ++ after)).Nodup)
    (next : ∀ cell ∈ head :: (before ++ after), cell ≠ leftOf head before →
      result.next cell = memory.next cell)
    (prev : ∀ cell ∈ head :: (before ++ after), cell ≠ rightOf head after →
      result.prev cell = memory.prev cell)
    (left : (head :: before).IsChain (Linked memory))
    (right : (after ++ [head]).IsChain (Linked memory)) :
    (head :: before).IsChain (Linked result) ∧ (after ++ [head]).IsChain (Linked result) := by
  rw [← List.cons_append] at nodup
  obtain ⟨leftNodup, afterNodup, apart⟩ := List.nodup_append.mp nodup
  have leftMem := leftOf_mem head before
  have rightMem := rightOf_mem head after
  constructor
  · refine isChain_congr left (fun cell member => next cell ?_ ?_) fun cell member =>
      prev cell ?_ ?_
    · exact List.mem_append_left after (List.dropLast_subset _ member)
    · rintro rfl
      have split := List.dropLast_append_getLast (List.cons_ne_nil head before)
      rw [← split] at leftNodup
      exact (List.nodup_append.mp leftNodup).2.2 _ member _ List.mem_cons_self rfl
    · exact List.mem_cons_of_mem _ (List.mem_append_left after member)
    · rintro rfl
      obtain isHead | isAfter := List.mem_cons.mp rightMem
      · exact (List.nodup_cons.mp leftNodup).1 (isHead ▸ member)
      · exact apart _ (List.mem_cons_of_mem _ member) _ isAfter rfl
  · refine isChain_congr right (fun cell member => next cell ?_ ?_) fun cell member =>
      prev cell ?_ ?_
    · rw [List.dropLast_concat] at member
      exact List.mem_append_right (head :: before) member
    · rintro rfl
      rw [List.dropLast_concat] at member
      exact apart _ leftMem _ member rfl
    · have inside := List.mem_of_mem_tail member
      rw [List.mem_append, List.mem_singleton] at inside
      obtain isAfter | rfl := inside
      · exact List.mem_append_right (head :: before) isAfter
      · exact List.mem_cons_self
    · rintro rfl
      have whole : (after ++ [head]).Nodup := by
        refine List.nodup_append.mpr ⟨afterNodup, List.nodup_singleton head, ?_⟩
        intro cell isAfter other isHead
        rw [List.mem_singleton.mp isHead]
        exact (apart head List.mem_cons_self cell isAfter).symm
      rw [← List.cons_head_tail
        (List.append_ne_nil_of_right_ne_nil after (List.cons_ne_nil head []))] at whole
      exact (List.nodup_cons.mp whole).1 member

/-- The cells of a ring are not more than those that they are among. -/
theorem Ring.length_lt (ring : Ring memory head items) {cells : List Cell}
    (inside : head :: items ⊆ cells) : items.length < cells.length :=
  (List.subperm_of_subset ring.nodup inside).length_le

/-- The empty ring. -/
theorem ring_nil (next : memory.next head = head) (prev : memory.prev head = head) :
    Ring memory head [] :=
  ⟨List.nodup_singleton head, List.isChain_pair.mpr ⟨next, prev⟩⟩

/-- The neighbours of a cell. -/
theorem Ring.neighbours (ring : Ring memory head (before ++ item :: after)) :
    memory.prev item = leftOf head before ∧ memory.next item = rightOf head after :=
  have links := (linked_at.mp ring.linked).2.2
  ⟨links.1.2, links.2.1⟩

/-- The head's neighbours are the ends. -/
theorem Ring.head_neighbours (ring : Ring memory head items) :
    memory.prev head = leftOf head items ∧ memory.next head = rightOf head items := by
  have last : Linked memory (leftOf head items) (rightOf head []) := by
    have whole := ring.linked
    rw [← List.append_nil items] at whole
    exact (linked_seam.mp whole).2.2
  have first : Linked memory (leftOf head []) (rightOf head items) :=
    ((linked_seam : ((head :: ([] ++ items)) ++ [head]).IsChain (Linked memory) ↔ _).mp
      ring.linked).2.2
  exact ⟨last.2, first.1⟩

/-- Linking a new cell in. -/
theorem Ring.insert (ring : Ring memory head (before ++ after))
    (fresh : item ∉ head :: (before ++ after))
    (inserted : Inserted memory result item (leftOf head before) (rightOf head after)) :
    Ring result head (before ++ item :: after) where
  nodup := by
    have swap : (head :: (before ++ item :: after)).Perm (item :: head :: (before ++ after)) :=
      (List.perm_middle.cons head).trans (List.Perm.swap item head _)
    exact swap.nodup_iff.mpr (List.nodup_cons.mpr ⟨fresh, ring.nodup⟩)
  linked := by
    obtain ⟨left, right, _⟩ := linked_seam.mp ring.linked
    have new (cell : Cell) (member : cell ∈ head :: (before ++ after)) : cell ≠ item := by
      rintro rfl
      exact fresh member
    obtain ⟨left, right⟩ := isChain_sides ring.nodup
      (fun cell member other => inserted.next cell other (new cell member))
      (fun cell member other => inserted.prev cell other (new cell member)) left right
    exact linked_at.mpr ⟨left, right, ⟨inserted.nextLeft, inserted.prevItem⟩,
      inserted.nextItem, inserted.prevRight⟩

/-- Linking a cell out. -/
theorem Ring.remove (ring : Ring memory head (before ++ item :: after))
    (removed : Removed memory result item (leftOf head before) (rightOf head after)) :
    Ring result head (before ++ after) := by
  have swap : (head :: (before ++ item :: after)).Perm (item :: head :: (before ++ after)) :=
    (List.perm_middle.cons head).trans (List.Perm.swap item head _)
  obtain ⟨gone, nodup⟩ := List.nodup_cons.mp (swap.nodup_iff.mp ring.nodup)
  obtain ⟨left, right, _⟩ := linked_at.mp ring.linked
  have kept (cell : Cell) (member : cell ∈ head :: (before ++ after)) : cell ≠ item := by
    rintro rfl
    exact gone member
  obtain ⟨left, right⟩ := isChain_sides nodup
    (fun cell member other => removed.next cell other (kept cell member))
    (fun cell member other => removed.prev cell other (kept cell member)) left right
  exact ⟨nodup, linked_seam.mpr ⟨left, right, removed.nextLeft, removed.prevRight⟩⟩

end Ring

end AnglerHal.LinkedRing
