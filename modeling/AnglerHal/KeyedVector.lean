import Mathlib.Order.Lattice
import Mathlib.Data.List.Basic
import Mathlib.Data.List.Induction

namespace AnglerHal

/-!
# Sorted associative vectors

A keyed vector is a vector of key/value pairs in strictly ascending key order.
`add` replaces the value of a key that is already there.  `groupBy` collects
items into one vector per key, which is how a flat list is regrouped by walking
it once.  Nothing here refers to a particular program.
-/

/-- Key/value pairs in strictly ascending key order. -/
structure KeyedVector (Key Value : Type) [LinearOrder Key] where
  items : List (Key × Value)
  sorted : items.Pairwise fun earlier later => earlier.1 < later.1
  deriving DecidableEq

namespace KeyedVector

variable {Key Value Item : Type} [LinearOrder Key]

/-- The vector without items. -/
def empty : KeyedVector Key Value where
  items := []
  sorted := .nil

/-- The keys in ascending order. -/
def keys (vector : KeyedVector Key Value) : List Key :=
  vector.items.map Prod.fst

/-- The keys ascend strictly. -/
theorem keys_sorted (vector : KeyedVector Key Value) : vector.keys.Pairwise (· < ·) :=
  List.pairwise_map.mpr vector.sorted

/-! ## Insertion -/

/-- Sorted insertion, replacing the value of an equal key. -/
def insertItem (key : Key) (value : Value) : List (Key × Value) → List (Key × Value)
  | [] => [(key, value)]
  | (current, old) :: rest =>
    if key < current then
      (key, value) :: (current, old) :: rest
    else if key = current then
      (key, value) :: rest
    else
      (current, old) :: insertItem key value rest

theorem mem_insertItem {key : Key} {value : Value} {items : List (Key × Value)} {item : Key × Value}
    (member : item ∈ insertItem key value items) :
    item = (key, value) ∨ item ∈ items := by
  induction items with
  | nil =>
    left
    simpa [insertItem] using member
  | cons first rest inductionHypothesis =>
    obtain ⟨current, old⟩ := first
    unfold insertItem at member
    split at member
    · exact List.mem_cons.mp member
    · split at member
      · rcases List.mem_cons.mp member with isNew | inRest
        · exact Or.inl isNew
        · exact Or.inr (List.mem_cons_of_mem _ inRest)
      · rcases List.mem_cons.mp member with isFirst | inRest
        · exact Or.inr (by simp [isFirst])
        · rcases inductionHypothesis inRest with isNew | wasThere
          · exact Or.inl isNew
          · exact Or.inr (List.mem_cons_of_mem _ wasThere)

theorem insertItem_sorted (key : Key) (value : Value) {items : List (Key × Value)}
    (sorted : items.Pairwise fun earlier later => earlier.1 < later.1) :
    (insertItem key value items).Pairwise fun earlier later => earlier.1 < later.1 := by
  induction items with
  | nil => simp [insertItem]
  | cons first rest inductionHypothesis =>
    obtain ⟨current, old⟩ := first
    obtain ⟨below, restSorted⟩ := List.pairwise_cons.mp sorted
    unfold insertItem
    split
    · rename_i smaller
      refine List.pairwise_cons.mpr ⟨?_, sorted⟩
      intro other member
      rcases List.mem_cons.mp member with rfl | inRest
      · exact smaller
      · exact lt_trans smaller (below other inRest)
    · rename_i notSmaller
      split
      · rename_i same
        refine List.pairwise_cons.mpr ⟨?_, restSorted⟩
        intro other member
        rw [same]
        exact below other member
      · rename_i different
        have above : current < key := lt_of_le_of_ne (not_lt.mp notSmaller) (Ne.symm different)
        refine List.pairwise_cons.mpr ⟨?_, inductionHypothesis restSorted⟩
        intro other member
        rcases mem_insertItem member with rfl | inRest
        · exact above
        · exact below other inRest

/-- Add a pair, replacing the value of an equal key. -/
def add (key : Key) (value : Value) (vector : KeyedVector Key Value) : KeyedVector Key Value where
  items := insertItem key value vector.items
  sorted := insertItem_sorted key value vector.sorted

/-- Remove the pair of a key. -/
def removeItem (key : Key) (vector : KeyedVector Key Value) : KeyedVector Key Value where
  items := vector.items.filter fun item => item.1 ≠ key
  sorted := vector.sorted.filter _

/-! ## Lookup -/

/-- The value of a key, if there is one. -/
def valueFor? (vector : KeyedVector Key Value) (key : Key) : Option Value :=
  (vector.items.find? fun item => item.1 = key).map Prod.snd

/-- The pairs of a vector are its lookups. -/
theorem mem_items_iff {vector : KeyedVector Key Value} {key : Key} {value : Value} :
    (key, value) ∈ vector.items ↔ vector.valueFor? key = some value := by
  unfold valueFor?
  constructor
  · intro member
    obtain ⟨earlier, later, shape⟩ := List.append_of_mem member
    have sorted := vector.sorted
    rw [shape, List.pairwise_append] at sorted
    have found : vector.items.find? (fun item => item.1 = key) = some (key, value) := by
      rw [List.find?_eq_some_iff_append]
      refine ⟨by simp, earlier, later, shape, ?_⟩
      intro item inEarlier
      have below := sorted.2.2 item inEarlier (key, value) (by simp)
      simpa using ne_of_lt below
    rw [found]
    rfl
  · intro lookup
    obtain ⟨item, found, sameValue⟩ := Option.map_eq_some_iff.mp lookup
    have member := List.mem_of_find?_eq_some found
    have sameKey : item.1 = key := by
      simpa using List.find?_some found
    rw [← sameKey, ← sameValue]
    exact member

private theorem find_insertItem (key other : Key) (value : Value) (items : List (Key × Value)) :
    ((insertItem key value items).find? fun item => item.1 = other) =
      if other = key then some (key, value)
      else items.find? fun item => item.1 = other := by
  induction items with
  | nil =>
    by_cases same : key = other
    · simp [insertItem, same]
    · simp [insertItem, same, Ne.symm same]
  | cons first rest inductionHypothesis =>
    obtain ⟨current, old⟩ := first
    by_cases same : other = key
    · subst other
      unfold insertItem
      split
      · simp
      · split
        · simp
        · rename_i different
          simp [Ne.symm different, inductionHypothesis]
    · unfold insertItem
      split
      · simp [Ne.symm same]
      · split
        · rename_i replaced
          subst current
          simp [Ne.symm same]
        · by_cases here : current = other
          · simp [here]
          · simp [here, same, inductionHypothesis]

theorem valueFor?_add (key other : Key) (value : Value) (vector : KeyedVector Key Value) :
    (vector.add key value).valueFor? other =
      if other = key then some value else vector.valueFor? other := by
  unfold valueFor? add
  rw [find_insertItem]
  split <;> rfl

/-! ## Grouping -/

/-- Append an item to the vector of its key. -/
def pushInto (key : Key) (item : Item) (vector : KeyedVector Key (List Item)) :
    KeyedVector Key (List Item) :=
  match vector.valueFor? key with
  | none => vector.add key [item]
  | some pending => vector.add key (pending ++ [item])

/-- Collect items by key, in list order. -/
def groupBy (key : Item → Key) (items : List Item) : KeyedVector Key (List Item) :=
  items.foldl (fun vector item => vector.pushInto (key item) item) empty

theorem valueFor?_groupBy (key : Item → Key) (items : List Item) (group : Key) :
    (groupBy key items).valueFor? group =
      if (items.filter fun item => key item = group) = [] then none
      else some (items.filter fun item => key item = group) := by
  induction items using List.reverseRecOn with
  | nil => rfl
  | append_singleton items item inductionHypothesis =>
    have step : groupBy key (items ++ [item]) = (groupBy key items).pushInto (key item) item := by
      simp [groupBy]
    rw [step]
    unfold pushInto
    by_cases here : key item = group
    · subst group
      rw [inductionHypothesis]
      by_cases first : (items.filter fun other => key other = key item) = []
      · simp [first, valueFor?_add]
      · simp [first, valueFor?_add]
    · have skipped : ((items ++ [item]).filter fun other => key other = group) =
            items.filter fun other => key other = group := by
        simp [here]
      rw [skipped, ← inductionHypothesis]
      split <;> simp [valueFor?_add, Ne.symm here]

/-- Every group is the nonempty list of the items with its key. -/
theorem mem_groupBy {key : Item → Key} {items : List Item} {group : Key} {members : List Item} :
    (group, members) ∈ (groupBy key items).items ↔
      members ≠ [] ∧ members = items.filter fun item => key item = group := by
  rw [mem_items_iff, valueFor?_groupBy]
  split
  · rename_i none
    simp only [reduceCtorEq, false_iff, not_and]
    intro nonempty same
    exact nonempty (same.trans none)
  · rename_i nonempty
    simp only [Option.some.injEq]
    constructor
    · intro same
      exact ⟨same ▸ nonempty, same.symm⟩
    · intro ⟨_, same⟩
      exact same.symm

/-- A key has a group exactly when an item has the key. -/
theorem mem_keys_groupBy {key : Item → Key} {items : List Item} {group : Key} :
    group ∈ (groupBy key items).keys ↔ ∃ item ∈ items, key item = group := by
  unfold keys
  rw [List.mem_map]
  constructor
  · rintro ⟨⟨_, members⟩, member, rfl⟩
    obtain ⟨nonempty, rfl⟩ := mem_groupBy.mp member
    obtain ⟨item, inGroup⟩ := List.exists_mem_of_ne_nil _ nonempty
    obtain ⟨inItems, same⟩ := List.mem_filter.mp inGroup
    exact ⟨item, inItems, by simpa using same⟩
  · rintro ⟨item, inItems, same⟩
    refine ⟨(group, items.filter fun other => key other = group), mem_groupBy.mpr ⟨?_, rfl⟩, rfl⟩
    apply List.ne_nil_of_mem
    exact List.mem_filter.mpr ⟨inItems, by simpa using same⟩

theorem flatten_insertItem (key : Key) (item : Item) {items : List (Key × List Item)}
    (sorted : items.Pairwise fun earlier later => earlier.1 < later.1) :
    ((insertItem key (((items.find? fun pair => pair.1 = key).map Prod.snd).getD [] ++
          [item]) items).flatMap Prod.snd).Perm
      (items.flatMap Prod.snd ++ [item]) := by
  induction items with
  | nil => simp [insertItem]
  | cons first rest inductionHypothesis =>
    obtain ⟨current, old⟩ := first
    obtain ⟨below, restSorted⟩ := List.pairwise_cons.mp sorted
    by_cases same : current = key
    · subst current
      have shape : (insertItem key (old ++ [item]) ((key, old) :: rest)) =
            (key, old ++ [item]) :: rest := by
        simp [insertItem]
      simp only [List.find?_cons, decide_true, Option.map_some,
        Option.getD_some, shape, List.flatMap_cons, List.append_assoc]
      exact (List.perm_append_comm).append_left old
    · have skip : (((current, old) :: rest).find? fun pair =>
              decide (pair.1 = key)) =
            rest.find? fun pair => pair.1 = key := by
        simp [same]
      rw [skip]
      by_cases smaller : key < current
      · have none : (rest.find? fun pair => decide (pair.1 = key)) = none := by
          rw [List.find?_eq_none]
          intro pair member
          have above := lt_trans smaller (below pair member)
          simpa using ne_of_gt above
        rw [none]
        simp only [insertItem, smaller, if_true, Option.map_none,
          Option.getD_none, List.nil_append, List.flatMap_cons]
        exact List.perm_append_comm
      · have different : key ≠ current := fun equal => same equal.symm
        simp only [insertItem, smaller, different, if_false, List.flatMap_cons, List.append_assoc]
        exact (inductionHypothesis restSorted).append_left old

/-- The groups together hold the items. -/
theorem flatten_groupBy (key : Item → Key) (items : List Item) :
    ((groupBy key items).items.flatMap Prod.snd).Perm items := by
  induction items using List.reverseRecOn with
  | nil => exact .nil
  | append_singleton items item inductionHypothesis =>
    have step : (groupBy key (items ++ [item])).items = insertItem (key item)
            ((((groupBy key items).items.find? fun pair =>
              pair.1 = key item).map Prod.snd).getD [] ++ [item])
            (groupBy key items).items := by
      have folded : groupBy key (items ++ [item]) =
            (groupBy key items).pushInto (key item) item := by
        simp [groupBy]
      rw [folded]
      unfold pushInto valueFor?
      cases (groupBy key items).items.find? fun pair =>
          decide (pair.1 = key item) with
      | none => rfl
      | some pair => rfl
    rw [step]
    exact (flatten_insertItem (key item) item (groupBy key items).sorted).trans
        (inductionHypothesis.append_right [item])

end KeyedVector

end AnglerHal
