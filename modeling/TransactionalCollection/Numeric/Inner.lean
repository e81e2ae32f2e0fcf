import Mathlib.Algebra.BigOperators.Ring.List
import TransactionalCollection.Execution.Scattering

namespace TransactionalCollection
namespace Numeric

open Execution

/-!
# Inner products

Items which are gathered in cells and weighted there come to the same as items which
are weighted as their cells are.
-/

section Inner

variable {A K : Type}

/-- A list, by its positions. -/
theorem eq_map_range {items : List A} {count : Nat} (counted : items.length = count) (other : A) :
    items = (List.range count).map (fun index => items.getD index other) := by
  apply List.ext_getElem?
  intro index
  by_cases inside : index < items.length
  · simp [inside, counted ▸ inside]
  · rw [List.getElem?_eq_none (by omega), List.getElem?_eq_none (by simp; omega)]

variable [CommSemiring K]

def innerProduct (left right : List K) : K := (List.zipWith (fun item other => item * other) left right).sum

theorem innerProduct_map (left right : A -> K) (items : List A) :
    innerProduct (items.map left) (items.map right) = (items.map (fun item => left item * right item)).sum := by
  rw [innerProduct, List.zipWith_map, List.zipWith_self]

theorem sum_at_position {position count : Nat} (inside : position < count) (amount : Nat -> K) :
    ((List.range count).map (fun cell => if position = cell then amount cell else 0)).sum = amount position := by
  induction count with
  | zero => cases inside
  | succ count inductionHypothesis =>
      rw [List.range_succ, List.map_append, List.sum_append, List.map_singleton, List.sum_singleton]
      by_cases last : position = count
      · have elsewhere : (List.range count).map (fun cell => if position = cell then amount cell else 0) =
            (List.range count).map (fun _ => 0) := by
          apply List.map_congr_left
          intro cell member
          rw [List.mem_range] at member
          rw [if_neg (by omega)]
        rw [elsewhere, if_pos last, last]
        simp
      · rw [inductionHypothesis (by omega), if_neg last, add_zero]

/-- Weighted by cells and then summed, and weighted each by the cell it lands in. -/
theorem sum_landing {index : A -> Nat} {items : List A} {count : Nat} (amount : A -> K) (weight : Nat -> K)
    (inside : forall item, item ∈ items -> index item < count) :
    ((List.range count).map (fun cell => weight cell * ((landing index items cell).map amount).sum)).sum =
      (items.map (fun item => weight (index item) * amount item)).sum := by
  induction items with
  | nil => simp [landing]
  | cons item items inductionHypothesis =>
      rcases List.forall_mem_cons.mp inside with ⟨here, rest⟩
      have split (cell : Nat) : weight cell * ((landing index (item :: items) cell).map amount).sum =
          (if index item = cell then weight cell * amount item else 0) +
            weight cell * ((landing index items cell).map amount).sum := by
        by_cases same : index item = cell
        · rw [landing_cons_self items same, List.map_cons, List.sum_cons, mul_add, if_pos same]
        · rw [landing_cons_ne items same, if_neg same, zero_add]
      simp only [split]
      rw [List.sum_map_add, inductionHypothesis rest, List.map_cons, List.sum_cons,
        sum_at_position here (fun cell => weight cell * amount item)]

end Inner

end Numeric
end TransactionalCollection
