import TransactionalCollection.Table.Schema

namespace TransactionalCollection
namespace Table

open Std Native

/-!
# Collating rows

Row streams are merged under a collator which compares some columns of two
rows.  For the natural order these are the key columns, and then the collator
is the order of the keys.  For an order by columns they are those columns and
no others, so distinct rows may compare equal.
-/

variable {S : Signature}

structure RowCollator where
  indices : List Nat
  reverse : Bool
  deriving DecidableEq, Repr

namespace RowCollator

/-- Positions of the order columns, or of the key columns in natural order. -/
def forOrder (schema : TableSchema S) (order : List S.Id) (reverse : Bool) : RowCollator where
  indices :=
    if order.isEmpty then List.range schema.key.length
    else order.filterMap (fun column => schema.columns.findIdx? (fun name => decide (name = column)))
  reverse := reverse

/-- Compare one column; a row without it comes first. -/
def cmpColumn (left right : Row S) (index : Nat) : Ordering :=
  match left[index]?, right[index]? with
  | some left, some right => compare left right
  | some _, none => .gt
  | none, some _ => .lt
  | none, none => .eq

/-- The first column that differs decides. -/
def cmpColumns (indices : List Nat) (left right : Row S) : Ordering :=
  indices.foldr (fun index rest => (cmpColumn left right index).then rest) .eq

def cmp (collator : RowCollator) (left right : Row S) : Ordering :=
  let ord := cmpColumns collator.indices left right
  if collator.reverse then ord.swap else ord

theorem cmpColumn_eq (index : Nat) :
    (fun left right : Row S => cmpColumn left right index) =
      compareOn (fun row : Row S => row[index]?) := by
  funext left right
  change cmpColumn left right index = compare left[index]? right[index]?
  unfold cmpColumn
  cases left[index]? <;> cases right[index]? <;> rfl

instance (index : Nat) : TransCmp (fun left right : Row S => cmpColumn left right index) := by
  rw [cmpColumn_eq]
  infer_instance

instance cmpColumns_trans (indices : List Nat) : TransCmp (cmpColumns (S := S) indices) := by
  induction indices with
  | nil =>
      exact { eq_swap := rfl, isLE_trans := fun _ _ => rfl }
  | cons index indices inductionHypothesis =>
      have lexicographic : TransCmp (compareLex (fun left right : Row S => cmpColumn left right index)
          (cmpColumns indices)) := inferInstance
      exact lexicographic

theorem cmp_forward (indices : List Nat) :
    (RowCollator.mk indices false).cmp = cmpColumns (S := S) indices := rfl

theorem cmp_backward (indices : List Nat) :
    (RowCollator.mk indices true).cmp = fun left right : Row S => cmpColumns indices right left := by
  funext left right
  have swap : cmpColumns indices right left = (cmpColumns indices left right).swap :=
    OrientedCmp.eq_swap
  exact swap.symm

instance (collator : RowCollator) : TransCmp (collator.cmp (S := S)) := by
  rcases collator with ⟨indices, _ | _⟩
  · rw [cmp_forward]
    infer_instance
  · rw [cmp_backward]
    infer_instance

/-- A reversed collator compares the other way round. -/
theorem cmp_reverse (schema : TableSchema S) (order : List S.Id) (left right : Row S) :
    (forOrder schema order true).cmp left right = (forOrder schema order false).cmp right left :=
  congrFun (congrFun (cmp_backward _) left) right

/-- In natural order the collator compares the key parts of two rows. -/
theorem cmpColumns_range (count : Nat) (left right : Row S) (leftLong : count <= left.length)
    (rightLong : count <= right.length) :
    cmpColumns (List.range count) left right = compare (left.take count) (right.take count) := by
  induction count generalizing left right with
  | zero => simp [cmpColumns]
  | succ count inductionHypothesis =>
      match left, right, leftLong, rightLong with
      | first :: left, second :: right, leftLong, rightLong =>
          have rest := inductionHypothesis left right (Nat.le_of_succ_le_succ leftLong)
            (Nat.le_of_succ_le_succ rightLong)
          rw [List.range_succ_eq_map, List.take_succ_cons, List.take_succ_cons,
            List.compare_cons_cons, ← rest]
          simp only [cmpColumns, List.foldr_cons, List.foldr_map]
          rfl

end RowCollator

end Table
end TransactionalCollection
