import Mathlib.Data.List.Nodup

namespace AnglerHal.RingWindow

/-!
# Windows of a ring of indices

Indices are given out round robin from a ring of `size` indices that starts at
`base`, and come back in the order in which they were given out.  The indices
in use are then a window of consecutive allocation numbers; as long as it is no
longer than the ring, its indices are distinct.
-/

/-- The index of allocation number `number`. -/
def slot (base size number : Nat) : Nat :=
  base + number % size

/-- The indices of `count` allocations from number `first` on. -/
def window (base size first count : Nat) : List Nat :=
  (List.range' first count).map (slot base size)

variable {base size first count : Nat}

/-- The indices left when the oldest ones have come back. -/
theorem drop_window (oldest : Nat) : (window base size first count).drop oldest =
      window base size (first + oldest) (count - oldest) := by
  simp [window, ← List.map_drop, List.drop_range']

/-- One more allocation. -/
theorem window_snoc : window base size first (count + 1) = window base size first count ++
        [slot base size (first + count)] := by
  simp [window, List.range'_concat]

/-- The indices of a window no longer than the ring are distinct. -/
theorem nodup_window (fits : count ≤ size) : (window base size first count).Nodup := by
  refine (List.nodup_range' (s := first) (n := count)).map_on ?_
  intro earlier inEarlier later inLater same
  simp only [List.mem_range'_1] at inEarlier inLater
  have sameMod : earlier % size = later % size := by
    simpa [slot] using same
  -- two numbers less than `size` apart with the same remainder are equal
  have noLater := Nat.sub_mod_eq_zero_of_mod_eq sameMod
  have noEarlier := Nat.sub_mod_eq_zero_of_mod_eq sameMod.symm
  rw [Nat.mod_eq_of_lt (by omega)] at noLater noEarlier
  omega

/-- The index after the last one of the ring is the first one. -/
theorem slot_succ (positive : 0 < size) (number : Nat) : slot base size (number + 1) =
      if slot base size number = base + size - 1 then base
      else slot base size number + 1 := by
  have small := Nat.mod_lt number positive
  have wraps := Nat.add_mod_eq_ite (k := size) (m := number) (n := 1)
  unfold slot
  rw [wraps]
  by_cases single : size = 1
  · subst single
    simp [Nat.mod_one]
  · rw [Nat.mod_eq_of_lt (show 1 < size by omega)]
    split <;> split <;> omega

end AnglerHal.RingWindow
