import Mathlib.Data.List.Nodup

namespace AnglerHal.LinkedPath

/-!
# Singly linked lists

A path is a head cell with the cells that its pointers lead to, up to one without
a next cell.  Linking a cell in behind the head and linking one out are given by
what they leave in the pointers.
-/

variable {Cell : Type} {next next' : Cell → Option Cell} {head item : Cell}
  {cells before after : List Cell}

/-- The cells that follow a cell. -/
def Path (next : Cell → Option Cell) : Cell → List Cell → Prop
  | cell, [] => next cell = none
  | cell, second :: rest => next cell = some second ∧ Path next second rest

theorem Path.next_head (path : Path next head cells) : next head = cells.head? := by
  cases cells with
  | nil => exact path
  | cons second rest => exact path.1

/-- A path reads only the pointers of its cells. -/
theorem Path.congr (path : Path next head cells)
    (same : ∀ cell ∈ head :: cells, next' cell = next cell) :
    Path next' head cells := by
  induction cells generalizing head with
  | nil => exact (same head List.mem_cons_self).trans path
  | cons second rest inductionHypothesis =>
    refine ⟨(same head List.mem_cons_self).trans path.1, inductionHypothesis path.2 ?_⟩
    exact fun cell member => same cell (List.mem_cons_of_mem _ member)

/-- A cell is linked in behind the head. -/
theorem Path.insert (path : Path next head cells) (first : next' head = some item)
    (second : next' item = next head) (same : ∀ cell ∈ cells, next' cell = next cell) :
    Path next' head (item :: cells) := by
  refine ⟨first, ?_⟩
  cases cells with
  | nil => exact second.trans path
  | cons third rest =>
    exact ⟨second.trans path.1, path.2.congr same⟩

/-- A cell is linked out. -/
theorem Path.remove (path : Path next head (before ++ item :: after))
    (nodup : (head :: (before ++ item :: after)).Nodup)
    (across : next' (before.getLastD head) = next item)
    (same : ∀ cell ∈ head :: (before ++ after), cell ≠ before.getLastD head →
      next' cell = next cell) :
    Path next' head (before ++ after) := by
  induction before generalizing head with
  | nil =>
    rw [List.nil_append] at path nodup ⊢
    have notHead : ∀ cell ∈ after, cell ≠ head := by
      rintro cell member rfl
      exact (List.nodup_cons.mp nodup).1 (List.mem_cons_of_mem _ member)
    have first : next' head = next item := across
    have kept : ∀ cell ∈ after, next' cell = next cell := fun cell member =>
      same cell (List.mem_cons_of_mem _ member) (notHead cell member)
    cases after with
    | nil => exact first.trans path.2
    | cons second rest => exact ⟨first.trans path.2.1, path.2.2.congr kept⟩
  | cons second rest inductionHypothesis =>
    have inside : (second :: rest).getLastD head ∈ second :: rest := by
      rw [List.getLastD_cons]
      exact List.getLastD_mem_cons
    have notHead : head ≠ (second :: rest).getLastD head := by
      intro isLast
      refine (List.nodup_cons.mp nodup).1 (List.mem_append_left _ ?_)
      exact isLast ▸ inside
    refine ⟨(same head List.mem_cons_self notHead).trans path.1, ?_⟩
    rw [List.getLastD_cons] at across same
    exact inductionHypothesis path.2 (List.nodup_cons.mp nodup).2 across
      fun cell member => same cell (List.mem_cons_of_mem _ member)

end AnglerHal.LinkedPath
