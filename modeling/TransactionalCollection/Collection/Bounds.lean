import TransactionalCollection.Native.Signature

namespace TransactionalCollection
namespace Collection

open Std Native

/-!
# Meeting bounds

A view of a view admits the values which both admit.  Its bounds are the
greater lower bound and the smaller upper bound, and of two bounds at one value
the exclusive one.
-/

variable {S : Signature}

def compareValues (left right : S.Value) : Ordering := compare left right

def maxValue (left right : S.Value) : S.Value :=
  if compareValues left right = .lt then right else left

def minValue (left right : S.Value) : S.Value :=
  if compareValues left right = .gt then right else left

def maxLowerBound : Bound S.Value -> Bound S.Value -> Bound S.Value
  | .unbounded, bound => bound
  | bound, .unbounded => bound
  | .included left, .included right => .included (maxValue left right)
  | .included left, .excluded right =>
      if compareValues left right = .gt then .included left else .excluded right
  | .excluded left, .included right =>
      if compareValues left right = .lt then .included right else .excluded left
  | .excluded left, .excluded right => .excluded (maxValue left right)

def minUpperBound : Bound S.Value -> Bound S.Value -> Bound S.Value
  | .unbounded, bound => bound
  | bound, .unbounded => bound
  | .included left, .included right => .included (minValue left right)
  | .included left, .excluded right =>
      if compareValues left right = .lt then .included left else .excluded right
  | .excluded left, .included right =>
      if compareValues left right ≠ .gt then .excluded left else .included right
  | .excluded left, .excluded right => .excluded (minValue left right)

/-- The value is above a lower bound. -/
def above (bound : Bound S.Value) (value : S.Value) : Bool := Bounds.admits (bound, .unbounded) value

/-- The value is below an upper bound. -/
def below (bound : Bound S.Value) (value : S.Value) : Bool := Bounds.admits (.unbounded, bound) value

theorem admits_eq (bounds : Bounds S) (value : S.Value) :
    bounds.admits value = (above bounds.1 value && below bounds.2 value) := by
  unfold above below Bounds.admits
  simp

/-- How three comparisons constrain one another. -/
theorem compare_coherent (left right value : S.Value) :
    (compare left right = .lt -> (compare right value).isLE -> compare left value = .lt) ∧
      ((compare left right).isLE -> compare right value = .lt -> compare left value = .lt) ∧
      ((compare left right).isLE -> (compare right value).isLE -> (compare left value).isLE) :=
  ⟨TransCmp.lt_of_lt_of_isLE, TransCmp.lt_of_isLE_of_lt, TransCmp.isLE_trans⟩

theorem ordering_cases (ordering : Ordering) : ordering = .lt ∨ ordering = .eq ∨ ordering = .gt := by
  cases ordering <;> simp

theorem above_maxLowerBound (left right : Bound S.Value) (value : S.Value) :
    above (maxLowerBound left right) value = (above left value && above right value) := by
  rcases left with left | left | _
  case unbounded => simp [maxLowerBound, above, Bounds.admits]
  all_goals
    rcases right with right | right | _
    case unbounded => simp [maxLowerBound, above, Bounds.admits]
    all_goals
      have forward := compare_coherent left right value
      have backward := compare_coherent right left value
      rw [show compare right left = (compare left right).swap from OrientedCmp.eq_swap] at backward
      simp only [maxLowerBound, maxValue, compareValues, above, Bounds.admits]
      rcases ordering_cases (compare left right) with compared | compared | compared <;>
        simp only [compared] at forward backward ⊢ <;>
        cases lower : compare left value <;> cases upper : compare right value <;> simp_all

theorem below_minUpperBound (left right : Bound S.Value) (value : S.Value) :
    below (minUpperBound left right) value = (below left value && below right value) := by
  rcases left with left | left | _
  case unbounded => simp [minUpperBound, below, Bounds.admits]
  all_goals
    rcases right with right | right | _
    case unbounded => simp [minUpperBound, below, Bounds.admits]
    all_goals
      have forward := compare_coherent value left right
      have backward := compare_coherent value right left
      rw [show compare right left = (compare left right).swap from OrientedCmp.eq_swap] at backward
      simp only [minUpperBound, minValue, compareValues, below, Bounds.admits]
      rcases ordering_cases (compare left right) with compared | compared | compared <;>
        simp only [compared] at forward backward ⊢ <;>
        cases lower : compare value left <;> cases upper : compare value right <;> simp_all

/-- Meeting bounds on both sides admits what both admit. -/
theorem admits_meet (left right : Bounds S) (value : S.Value) :
    Bounds.admits (maxLowerBound left.1 right.1, minUpperBound left.2 right.2) value =
      (left.admits value && right.admits value) := by
  rw [admits_eq, admits_eq left, admits_eq right, above_maxLowerBound, below_minUpperBound]
  cases above left.1 value <;> cases above right.1 value <;> simp

end Collection
end TransactionalCollection
