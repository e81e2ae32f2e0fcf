import Mathlib.Algebra.BigOperators.Group.List.Basic
import Mathlib.Algebra.Order.BigOperators.Group.List
import Mathlib.Algebra.Order.Field.Basic
import Mathlib.Tactic.FieldSimp
import Mathlib.Tactic.Ring

namespace TransactionalCollection
namespace Numeric

/-!
# The spread of a list of numbers

The mean of the squared deviations from the mean is computed in two passes over the
list, or in one, as the mean of the squares less the square of the mean.
-/

section Spread

variable {K : Type}

/-- The squares of a list. -/
def squares [Mul K] (items : List K) : List K := items.map (fun item => item * item)

/-- The squared distances from a center. -/
def deviations [Mul K] [Sub K] (items : List K) (center : K) : List K :=
  items.map (fun item => (item - center) * (item - center))

/-- Deviations from any center, by the sums of the list and of its squares. -/
theorem sum_deviations [CommRing K] (items : List K) (center : K) :
    (deviations items center).sum =
      (squares items).sum - 2 * center * items.sum + items.length * (center * center) := by
  induction items with
  | nil => simp [deviations, squares]
  | cons item items inductionHypothesis =>
      simp only [deviations, squares, List.map_cons, List.sum_cons, List.length_cons, Nat.cast_succ]
        at inductionHypothesis ⊢
      rw [inductionHypothesis]
      ring

variable [Field K]

def mean (items : List K) : K := items.sum / items.length

/-- One pass is enough. -/
theorem mean_deviations {items : List K} (counted : (items.length : K) ≠ 0) :
    (deviations items (mean items)).sum / items.length =
      (squares items).sum / items.length - mean items * mean items := by
  rw [sum_deviations, mean]
  field_simp
  ring

theorem mean_deviations_nonneg [LinearOrder K] [IsStrictOrderedRing K] (items : List K) (center : K) :
    0 ≤ (deviations items center).sum / items.length := by
  apply div_nonneg
  · apply List.sum_nonneg
    intro square member
    rcases List.mem_map.mp member with ⟨item, _, rfl⟩
    exact mul_self_nonneg (item - center)
  · exact Nat.cast_nonneg items.length

end Spread

end Numeric
end TransactionalCollection
