import Mathlib.Tactic.Linarith

namespace AnglerHal.Rescale

/-!
# Rescaling integers between two spaces

A coordinate is carried from a space of size `source` to one of size `target` by
a multiplication and a division that rounds towards zero.
-/

/-- A coordinate, carried from a space of size `source` to one of size `target`. -/
def rescale (target source value : Int) : Int :=
  (value * target).tdiv source

variable {target source value other : Int}

theorem rescale_of_nonneg (targetNonneg : 0 ≤ target) (nonneg : 0 ≤ value) :
    rescale target source value = value * target / source :=
  Int.tdiv_eq_ediv_of_nonneg (Int.mul_nonneg nonneg targetNonneg)

/-- Carrying keeps the order. -/
theorem rescale_mono (targetNonneg : 0 ≤ target) (sourcePos : 0 < source) (le : value ≤ other) :
    rescale target source value ≤ rescale target source other :=
  Int.tdiv_le_tdiv sourcePos (Int.mul_le_mul_of_nonneg_right le targetNonneg)

/-- The result does not reach a bound exactly when the product does not. -/
theorem rescale_lt_iff (sourcePos : 0 < source) (targetNonneg : 0 ≤ target) (nonneg : 0 ≤ value)
    {bound : Int} :
    rescale target source value < bound ↔ value * target < bound * source := by
  rw [rescale_of_nonneg targetNonneg nonneg]
  exact Int.ediv_lt_iff_lt_mul sourcePos

/-- A negative result needs a product of at least the size of the source. -/
theorem rescale_nonneg_iff (sourcePos : 0 < source) :
    0 ≤ rescale target source value ↔ -source < value * target := by
  unfold rescale
  constructor
  · intro nonneg
    by_contra far
    have bound : (value * target).tdiv source ≤ (-source).tdiv source :=
      Int.tdiv_le_tdiv sourcePos (by omega)
    rw [Int.neg_tdiv, Int.tdiv_self sourcePos.ne'] at bound
    omega
  · intro near
    rcases le_or_gt 0 (value * target) with nonneg | negative
    · exact Int.tdiv_nonneg nonneg sourcePos.le
    · have small : (-(value * target)).tdiv source = 0 :=
        Int.tdiv_eq_zero_of_lt (by omega) (by omega)
      rw [Int.neg_tdiv] at small
      omega

/-- What lies in the source comes to lie in the target. -/
theorem rescale_le (targetNonneg : 0 ≤ target) (sourcePos : 0 < source) (le : value ≤ source) :
    rescale target source value ≤ target := by
  have whole : rescale target source source = target := by
    unfold rescale
    exact Int.mul_tdiv_cancel_left target sourcePos.ne'
  exact (rescale_mono targetNonneg sourcePos le).trans_eq whole

end AnglerHal.Rescale
