import TransactionalCollection.Tensors.Matmul

namespace TransactionalCollection
namespace Tensors

open Execution Native Numeric

/-!
# The common shape of two operands

Three functions compute the shape which two operands are broadcast to.  They align
the operands at the last axis, and differ in how they fill in their output and in the
error they end in.  Each of them computes the join of the operands in the order of
broadcasting, in which a shape is below another if it can be broadcast to it.
-/

variable {E : Type}

/-- The dimension of the output, which each operand has unless it has a one. -/
def commonDim (error : E) (left right : Nat) : Except E Nat :=
  if left = right then .ok left
  else if left = 1 then .ok right
  else if right = 1 then .ok left
  else .error error

/-- The output is filled in from its last axis. -/
def broadcastShape (left right : List Nat) : Except String (List Nat) :=
  let ndim := max left.length right.length
  (List.range ndim).foldlM (fun out i => do
    let dim <- commonDim s!"tensor shapes {left} and {right} are not broadcast-compatible"
      ((dimFromRight left i).getD 1) ((dimFromRight right i).getD 1)
    return out.set (ndim - i - 1) dim) (List.replicate ndim 1)

/-- The output is listed from its last axis, and reversed. -/
def Add.broadcastShape (left right : List Nat) : Except TensorOpError (List Nat) := do
  let output <- (List.range (max left.length right.length)).mapM (fun axisFromRight =>
    commonDim (.broadcastIncompatible left right)
      ((dimFromRight left axisFromRight).getD 1) ((dimFromRight right axisFromRight).getD 1))
  return output.reverse

/-! ## Joins -/

def joinDim (left right : Nat) : Option Nat :=
  if left = right then some left
  else if left = 1 then some right
  else if right = 1 then some left
  else none

/-- The join of radices, which are listed from the last axis. -/
def join : List Nat -> List Nat -> Option (List Nat)
  | [], right => some right
  | left, [] => some left
  | dim :: left, other :: right => do
      let first <- joinDim dim other
      let rest <- join left right
      return first :: rest

theorem joinDim_comm (left right : Nat) : joinDim left right = joinDim right left := by
  unfold joinDim
  split_ifs <;> simp_all

theorem joinDim_one_left (dim : Nat) : joinDim 1 dim = some dim := by
  unfold joinDim
  split_ifs <;> simp_all

/-- What is below a dimension is below whatever it is broadcast to. -/
theorem joinDim_least {left right joined : Nat} (found : joinDim left right = some joined) (target : Nat) :
    (joined = 1 ∨ joined = target) <-> (left = 1 ∨ left = target) ∧ (right = 1 ∨ right = target) := by
  unfold joinDim at found
  split_ifs at found with same leftOne rightOne
  · cases found
    omega
  · cases found
    omega
  · cases found
    omega

theorem joinDim_none {left right : Nat} (absent : joinDim left right = none) (target : Nat) :
    ¬ ((left = 1 ∨ left = target) ∧ (right = 1 ∨ right = target)) := by
  unfold joinDim at absent
  split_ifs at absent
  omega

theorem join_comm (left right : List Nat) : join left right = join right left := by
  induction left generalizing right with
  | nil => cases right <;> rfl
  | cons dim left inductionHypothesis =>
      cases right with
      | nil => rfl
      | cons other right => rw [join, join, joinDim_comm, inductionHypothesis]

theorem broadcasts_nil (target : List Nat) : Broadcasts [] target := by
  refine ⟨Nat.zero_le _, ?_⟩
  intro dims impossible
  cases impossible

theorem not_broadcasts_nil (dim : Nat) (source : List Nat) : ¬ Broadcasts (dim :: source) [] := by
  intro broadcasts
  cases broadcasts.1

/-- The join is broadcast to what both operands are broadcast to. -/
theorem join_least {left right joined : List Nat} (found : join left right = some joined)
    (target : List Nat) : Broadcasts joined target <-> Broadcasts left target ∧ Broadcasts right target := by
  induction left generalizing right joined target with
  | nil =>
      cases found
      exact (and_iff_right (broadcasts_nil target)).symm
  | cons dim left inductionHypothesis =>
      cases right with
      | nil =>
          cases found
          exact (and_iff_left (broadcasts_nil target)).symm
      | cons other right =>
          rcases Option.bind_eq_some_iff.mp found with ⟨first, firstFound, rest⟩
          rcases Option.bind_eq_some_iff.mp rest with ⟨others, othersFound, same⟩
          cases same
          cases target with
          | nil =>
              apply iff_of_false (not_broadcasts_nil _ _)
              intro both
              exact not_broadcasts_nil _ _ both.1
          | cons goal target =>
              rw [Broadcasts.cons_iff, Broadcasts.cons_iff, Broadcasts.cons_iff,
                joinDim_least firstFound goal, inductionHypothesis othersFound target]
              exact and_and_and_comm

/-- Operands without a join are not broadcast to one shape. -/
theorem join_none {left right : List Nat} (absent : join left right = none) (target : List Nat) :
    ¬ (Broadcasts left target ∧ Broadcasts right target) := by
  induction left generalizing right target with
  | nil => cases absent
  | cons dim left inductionHypothesis =>
      cases right with
      | nil => cases absent
      | cons other right =>
          cases target with
          | nil =>
              intro both
              exact not_broadcasts_nil _ _ both.1
          | cons goal target =>
              rw [Broadcasts.cons_iff, Broadcasts.cons_iff, and_and_and_comm]
              intro both
              cases first : joinDim dim other with
              | none => exact joinDim_none first goal both.1
              | some joined =>
                  cases rest : join left right with
                  | none => exact inductionHypothesis rest target both.2
                  | some others =>
                      rw [join, first, rest] at absent
                      cases absent

/-! ## The loops -/

/-- A join, or an error. -/
def orError (error : E) (joined : Option (List Nat)) : Except E (List Nat) := joined.elim (.error error) .ok

theorem commonDim_eq (error : E) (left right : Nat) :
    commonDim error left right = (joinDim left right).elim (.error error) .ok := by
  unfold commonDim joinDim
  split_ifs <;> rfl

/-- One round of each of the loops, of operands listed from the last axis. -/
def commonAxis (error : E) (left right : List Nat) (axis : Nat) : Except E Nat :=
  commonDim error (left[axis]?.getD 1) (right[axis]?.getD 1)

theorem commonAxis_succ (error : E) (left right : List Nat) (axis : Nat) :
    commonAxis error left right (axis + 1) = commonAxis error left.tail right.tail axis := by
  rw [commonAxis, commonAxis, List.getElem?_tail, List.getElem?_tail]

/-- Missing axes count as ones. -/
theorem join_eq_bind {left right : List Nat} (longer : 0 < max left.length right.length) :
    join left right = (joinDim (left[0]?.getD 1) (right[0]?.getD 1)).bind (fun first =>
      (join left.tail right.tail).map (List.cons first)) := by
  cases left with
  | nil =>
      cases right with
      | nil => cases longer
      | cons other right =>
          change some (other :: right) = (joinDim 1 other).bind _
          rw [joinDim_one_left]
          rfl
  | cons dim left =>
      cases right with
      | nil =>
          change some (dim :: left) = (joinDim dim 1).bind _
          rw [joinDim_comm, joinDim_one_left, Option.bind_some, List.tail_cons, List.tail_nil, join_comm]
          rfl
      | cons other right =>
          simp [join, Option.map_eq_bind]

/-- The dimensions of the output, from the last. -/
theorem mapM_commonAxis (error : E) {left right : List Nat} {count : Nat}
    (ranks : max left.length right.length = count) :
    (List.range count).mapM (commonAxis error left right) = orError error (join left right) := by
  induction count generalizing left right with
  | zero =>
      have leftEmpty : left = [] := List.eq_nil_of_length_eq_zero (by omega)
      have rightEmpty : right = [] := List.eq_nil_of_length_eq_zero (by omega)
      rw [leftEmpty, rightEmpty]
      rfl
  | succ count inductionHypothesis =>
      have tails : max left.tail.length right.tail.length = count := by
        rw [List.length_tail, List.length_tail]
        omega
      have shifted : commonAxis error left right ∘ Nat.succ = commonAxis error left.tail right.tail := by
        funext axis
        exact commonAxis_succ error left right axis
      have longer : 0 < max left.length right.length := by omega
      rw [join_eq_bind longer, List.range_succ_eq_map, List.mapM_cons, List.mapM_map, shifted,
        inductionHypothesis tails, commonAxis, commonDim_eq]
      cases joinDim (left[0]?.getD 1) (right[0]?.getD 1) with
      | none => rfl
      | some first =>
          cases join left.tail right.tail with
          | none => rfl
          | some rest => rfl

/-- Filling in an output from its end. -/
theorem foldlM_set (dims : Nat -> Except E Nat) (done : List Nat) (start count : Nat) :
    (List.range' start count).foldlM (fun out i => do
      let dim <- dims i
      return out.set (start + count - i - 1) dim) (List.replicate count 1 ++ done) = (do
        let output <- (List.range' start count).mapM dims
        return output.reverse ++ done) := by
  induction count generalizing start done with
  | zero => rfl
  | succ count inductionHypothesis =>
      rw [List.range'_succ, List.foldlM_cons, List.mapM_cons]
      cases dims start with
      | error error => rfl
      | ok dim =>
          have filled : (List.replicate (count + 1) 1 ++ done).set (start + (count + 1) - start - 1) dim =
              List.replicate count 1 ++ dim :: done := by
            have last : start + (count + 1) - start - 1 = (List.replicate count 1).length := by
              rw [List.length_replicate]
              omega
            rw [last, List.replicate_succ', List.append_assoc, List.set_append_right _ _ (Nat.le_refl _),
              Nat.sub_self]
            rfl
          have rounds : start + (count + 1) = start + 1 + count := by omega
          have rest := inductionHypothesis (dim :: done) (start + 1)
          rw [← filled, ← rounds] at rest
          apply rest.trans
          cases (List.range' (start + 1) count).mapM dims with
          | error error => rfl
          | ok output =>
              change Except.ok (output.reverse ++ dim :: done) = Except.ok ((dim :: output).reverse ++ done)
              rw [List.reverse_cons, List.append_assoc]
              rfl

section Agreement

variable (left right : List Nat)

/-- The join of two shapes, listed from the first axis. -/
def joinShape : Option (List Nat) := (join left.reverse right.reverse).map List.reverse

theorem commonAxis_reverse (error : E) :
    (fun axis => commonDim error ((dimFromRight left axis).getD 1) ((dimFromRight right axis).getD 1)) =
      commonAxis error left.reverse right.reverse := by
  funext axis
  rw [dimFromRight_eq, dimFromRight_eq]
  rfl

theorem ranks_reverse : max left.reverse.length right.reverse.length = max left.length right.length := by
  rw [List.length_reverse, List.length_reverse]

theorem reversed_orError (error : E) : (do
    let output <- orError error (join left.reverse right.reverse)
    return output.reverse) = orError error (joinShape left right) := by
  unfold joinShape
  cases join left.reverse right.reverse with
  | none => rfl
  | some joined => rfl

theorem broadcastShape_eq : broadcastShape left right =
    orError s!"tensor shapes {left} and {right} are not broadcast-compatible" (joinShape left right) := by
  have filled := foldlM_set (commonAxis s!"tensor shapes {left} and {right} are not broadcast-compatible"
    left.reverse right.reverse) [] 0 (max left.length right.length)
  rw [← List.range_eq_range', mapM_commonAxis _ (ranks_reverse left right), ← commonAxis_reverse] at filled
  simp only [List.append_nil, Nat.zero_add] at filled
  rw [← reversed_orError]
  exact filled

theorem Add.broadcastShape_eq : Add.broadcastShape left right =
    orError (.broadcastIncompatible left right) (joinShape left right) := by
  unfold Add.broadcastShape
  rw [commonAxis_reverse, mapM_commonAxis _ (ranks_reverse left right), reversed_orError]

theorem broadcastBatchShape_eq : broadcastBatchShape left right =
    orError (.broadcastShapeMismatch left right) (joinShape left right) := by
  have axes : broadcastBatchAxis left right =
      commonAxis (.broadcastShapeMismatch left right) left.reverse right.reverse :=
    commonAxis_reverse left right _
  unfold broadcastBatchShape
  rw [axes, mapM_commonAxis _ (ranks_reverse left right), reversed_orError]

theorem joinShape_comm : joinShape left right = joinShape right left := by
  rw [joinShape, join_comm, joinShape]

theorem join_self (radices : List Nat) : join radices radices = some radices := by
  induction radices with
  | nil => rfl
  | cons dim radices inductionHypothesis =>
      have first : joinDim dim dim = some dim := if_pos rfl
      rw [join, first, inductionHypothesis]
      rfl

theorem joinShape_self (shape : List Nat) : joinShape shape shape = some shape := by
  rw [joinShape, join_self, Option.map_some, List.reverse_reverse]

variable {left right}

theorem joinShape_least {shape : List Nat} (found : joinShape left right = some shape) (target : List Nat) :
    canBroadcastTo shape target = true <->
      canBroadcastTo left target = true ∧ canBroadcastTo right target = true := by
  rcases Option.map_eq_some_iff.mp found with ⟨joined, joinFound, rfl⟩
  rw [canBroadcastTo_iff, canBroadcastTo_iff, canBroadcastTo_iff, List.reverse_reverse]
  exact join_least joinFound target.reverse

theorem joinShape_none (absent : joinShape left right = none) (target : List Nat) :
    ¬ (canBroadcastTo left target = true ∧ canBroadcastTo right target = true) := by
  rw [canBroadcastTo_iff, canBroadcastTo_iff]
  exact join_none (Option.map_eq_none_iff.mp absent) target.reverse

theorem canBroadcastTo_refl (shape : List Nat) : canBroadcastTo shape shape = true := by
  apply canBroadcastTo_iff.mpr
  refine ⟨Nat.le_refl _, ?_⟩
  intro dims member
  rw [List.zip_eq_zipWith, List.zipWith_self] at member
  rcases List.mem_map.mp member with ⟨dim, _, rfl⟩
  right
  rfl

/-- Both operands are broadcast to their join. -/
theorem joinShape_broadcasts {shape : List Nat} (found : joinShape left right = some shape) :
    canBroadcastTo left shape = true ∧ canBroadcastTo right shape = true :=
  (joinShape_least found shape).mp (canBroadcastTo_refl shape)

/-- All three are computed as the join, or refused. -/
theorem broadcastShapes_cases (left right : List Nat) :
    (exists shape, joinShape left right = some shape ∧ broadcastShape left right = .ok shape ∧
      Add.broadcastShape left right = .ok shape ∧ broadcastBatchShape left right = .ok shape) ∨
    (joinShape left right = none ∧
      broadcastShape left right =
        .error s!"tensor shapes {left} and {right} are not broadcast-compatible" ∧
      Add.broadcastShape left right = .error (.broadcastIncompatible left right) ∧
      broadcastBatchShape left right = .error (.broadcastShapeMismatch left right)) := by
  rw [broadcastShape_eq, Add.broadcastShape_eq, broadcastBatchShape_eq]
  cases joined : joinShape left right with
  | none => exact Or.inr ⟨rfl, rfl, rfl, rfl⟩
  | some shape => exact Or.inl ⟨shape, rfl, rfl, rfl, rfl⟩

end Agreement

/-- The three functions all return one shape, in either order of the operands, which is
the least that both are broadcast to; or all three fail, in either order, and there is
no such shape. -/
theorem broadcastShapes_agree (left right : List Nat) :
    (exists shape, broadcastShape left right = .ok shape ∧ Add.broadcastShape left right = .ok shape ∧
      broadcastBatchShape left right = .ok shape ∧ broadcastShape right left = .ok shape ∧
      Add.broadcastShape right left = .ok shape ∧ broadcastBatchShape right left = .ok shape ∧
      canBroadcastTo left shape = true ∧ canBroadcastTo right shape = true ∧
      forall target, canBroadcastTo left target = true -> canBroadcastTo right target = true ->
        canBroadcastTo shape target = true) ∨
    ((exists error others batches, broadcastShape left right = .error error ∧
      Add.broadcastShape left right = .error others ∧ broadcastBatchShape left right = .error batches) ∧
      (exists error others batches, broadcastShape right left = .error error ∧
        Add.broadcastShape right left = .error others ∧ broadcastBatchShape right left = .error batches) ∧
      forall target, ¬ (canBroadcastTo left target = true ∧ canBroadcastTo right target = true)) := by
  have flipped := broadcastShapes_cases right left
  rw [joinShape_comm right left] at flipped
  rcases broadcastShapes_cases left right with found | refused
  · rcases found with ⟨shape, joined, core, add, batch⟩
    left
    rcases flipped with others | others
    · rcases others with ⟨other, same, flippedCore, flippedAdd, flippedBatch⟩
      cases joined.symm.trans same
      rcases joinShape_broadcasts joined with ⟨leftBelow, rightBelow⟩
      refine ⟨shape, core, add, batch, flippedCore, flippedAdd, flippedBatch, leftBelow, rightBelow, ?_⟩
      intro target leftBroadcasts rightBroadcasts
      exact (joinShape_least joined target).mpr ⟨leftBroadcasts, rightBroadcasts⟩
    · cases joined.symm.trans others.1
  · rcases refused with ⟨absent, core, add, batch⟩
    right
    rcases flipped with others | others
    · rcases others with ⟨other, found, _⟩
      cases absent.symm.trans found
    · rcases others with ⟨_, flippedCore, flippedAdd, flippedBatch⟩
      exact ⟨⟨_, _, _, core, add, batch⟩, ⟨_, _, _, flippedCore, flippedAdd, flippedBatch⟩,
        joinShape_none absent⟩

end Tensors
end TransactionalCollection
