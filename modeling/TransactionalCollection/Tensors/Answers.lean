import TransactionalCollection.Tensors.Adjoint
import TransactionalCollection.Tensors.Casting
import TransactionalCollection.Tensors.Counting
import TransactionalCollection.Tensors.Filling
import TransactionalCollection.Tensors.Transposing

namespace TransactionalCollection
namespace Tensors

open Execution Native Numeric

/-!
# Operations which do not panic

Every operation on tensors of the right size ends in a tensor of the right size, or in
an error which the caller is handed, so long as the shape of its result is not too large
for a `usize`.
-/

variable {elements : Elements}

/-! ## Operations which are not about shapes -/

namespace Tensor

def unaryNot (ops : FloatOps elements) (tensor : Tensor elements) : Except String (Tensor elements) := do
  let values <- tensor.valuesF64
  tensor.fromF64Like tensor.shape (values.map (fun value => ops.ofBool (elements.isZero value)))

/-- Whether all elements are true, or any. -/
def truthy (tensor : Tensor elements) (all : Bool) : Except String Bool := do
  let values <- tensor.valuesF64
  return if all then values.all (fun value => !elements.isZero value)
    else values.any (fun value => !elements.isZero value)

end Tensor

/-- An error which the caller is handed. -/
def Reported {E : Type} (failure : Failure E) : Prop := exists error, failure = .error error

/-- The call ends in a tensor of the right size, or in an error. -/
def Answers {E : Type} (result : Except (Failure E) (Tensor elements)) : Prop :=
  Ends Tensor.WellSized Reported result

namespace Answers

variable {E E' A : Type}

theorem of_exists {result : Except (Failure E) (Tensor elements)}
    (done : exists tensor, result = .ok tensor ∧ tensor.WellSized) : Answers result := by
  rcases done with ⟨tensor, done, wellSized⟩
  exact Ends.of_ok done wellSized

theorem of_error {result : Except (Failure E) (Tensor elements)}
    (refused : exists error, result = .error (.error error)) :
    Answers result := by
  rcases refused with ⟨error, refused⟩
  rw [refused]
  exact ⟨error, rfl⟩

/-- Translated errors are errors. -/
theorem mapError {result : Except (Failure E) (Tensor elements)} {translate : Failure E -> Failure E'}
    (answers : Answers result) (reports : forall error, Reported (translate (.error error))) :
    Answers (result.mapError translate) := by
  cases result with
  | ok tensor => exact answers
  | error failure =>
      rcases answers with ⟨error, rfl⟩
      exact reports error

theorem renamed {result : Except (Failure E) (Tensor elements)} (answers : Answers result) (error : E') :
    Answers (result.mapError (Tensors.renamed error)) := answers.mapError (fun _ => ⟨_, rfl⟩)

/-- A call which has no panics of its own. -/
theorem of_except {result : Except E (Tensor elements)}
    (sized : forall tensor, result = .ok tensor -> tensor.WellSized) :
    Answers (result.mapError Failure.error) := by
  cases result with
  | error error => exact ⟨error, rfl⟩
  | ok tensor => exact sized tensor rfl

end Answers

theorem ends_mapError {E A : Type} (holds : A -> Prop) {result : Except E A}
    (here : forall value, result = .ok value -> holds value) :
    Ends holds Reported (result.mapError Failure.error) := by
  cases result with
  | error error => exact ⟨error, rfl⟩
  | ok value => exact here value rfl

namespace Tensor

variable {tensor left right : Tensor elements} {shape : List Nat} {values : List elements.F64}

theorem fromF64Like_sized {result : Tensor elements} (small : shape.prod < usize)
    (made : tensor.fromF64Like shape values = .ok result) : result.WellSized := by
  rw [wellSized_iff, (fromF64Like_shape made).1]
  exact small

theorem fromF64Like_answers (small : shape.prod < usize) :
    Answers ((tensor.fromF64Like shape values).mapError Failure.error : Except (Failure String) _) :=
  .of_except (fun _ made => fromF64Like_sized small made)

/-! ## One tensor -/

theorem broadcast_answers (wellSized : tensor.WellSized) (small : shape.prod < usize) :
    Answers (tensor.broadcast shape) := by
  rcases (broadcastSized_iff wellSized).mpr (Or.inr small) with refused | ⟨result, done, _, sized⟩
  · exact .of_error refused
  · exact .of_exists ⟨result, done, sized⟩

theorem cast_sized {checks : FloatChecks elements} {dtype : NumberType} {result : Tensor elements}
    (wellSized : tensor.WellSized) (done : tensor.cast checks dtype = .ok result) : result.WellSized := by
  have shaped : forall {A : Type} {wrap : ArrayBuf elements A -> Tensor elements} {items : List A},
      (forall array, (wrap array).shape = array.shape) ->
      (ArrayBuf.new items tensor.shape).map wrap = .ok result -> result.WellSized := by
    intro A wrap items shapes made
    rcases map_new_eq_ok.mp made with ⟨array, rfl, same, _⟩
    rw [wellSized_iff, shapes, same]
    exact wellSized_iff.mp wellSized
  unfold cast at done
  rcases except_bind_eq_ok.mp done with ⟨tag, _, done⟩
  split at done
  · cases done
    exact wellSized
  · rcases except_bind_eq_ok.mp done with ⟨values, _, done⟩
    split at done
    · exact shaped (fun _ => rfl) done
    · exact shaped (fun _ => rfl) done
    · rcases except_bind_eq_ok.mp done with ⟨out, _, done⟩
      exact shaped (fun _ => rfl) done
    · cases done

theorem expandAxis_prod {axis : Nat} {result : List Nat} (done : expandAxis shape axis = .ok result) :
    result.prod = shape.prod := by
  unfold expandAxis at done
  split at done
  · cases done
  · rename_i inside
    cases done
    rw [List.prod_insertIdx (Nat.le_of_not_lt inside) (fun _ _ => Commute.one_left _), Nat.one_mul]

theorem expandedShape_prod {axes : Option (List Nat)} {result : List Nat}
    (done : expandedShape shape axes = .ok result) :
    result.prod = shape.prod := by
  cases axes with
  | none =>
      cases done
      rw [List.prod_append, List.prod_singleton, Nat.mul_one]
  | some axes =>
      have ends : Ends (fun result => result.prod = shape.prod) (fun _ => True) (axes.foldlM expandAxis shape) := by
        apply Ends.foldlM (fun result : List Nat => result.prod = shape.prod) rfl
        intro middle axis _ same
        cases expanded : expandAxis middle axis with
        | error error => trivial
        | ok next => exact (expandAxis_prod expanded).trans same
      have folded : axes.foldlM expandAxis shape = .ok result := done
      rw [folded] at ends
      exact ends

theorem expandDims_sized {axes : Option (List Nat)} {result : Tensor elements} (wellSized : tensor.WellSized)
    (done : tensor.expandDims axes = .ok result) : result.WellSized := by
  rcases except_bind_eq_ok.mp done with ⟨shape, expanded, done⟩
  rcases except_bind_eq_ok.mp done with ⟨values, _, made⟩
  apply fromF64Like_sized ?_ made
  rw [expandedShape_prod expanded]
  exact wellSized_iff.mp wellSized

theorem reshape_sized {result : Tensor elements} (small : shape.prod < usize)
    (done : tensor.reshape shape = .ok result) : result.WellSized := by
  rw [wellSized_iff, (reshape_shape done).1]
  exact small

theorem unaryNot_sized {ops : FloatOps elements} {result : Tensor elements} (wellSized : tensor.WellSized)
    (done : tensor.unaryNot ops = .ok result) : result.WellSized := by
  rcases except_bind_eq_ok.mp done with ⟨values, _, made⟩
  exact fromF64Like_sized (wellSized_iff.mp wellSized) made

/-! ## Several tensors -/

theorem cond_answers {condition : Tensor elements} (thenSized : left.WellSized) :
    Answers (condition.cond left right) := by
  rcases condition.valuesF64_eq_ok with ⟨condValues, condRead, _⟩
  rcases left.valuesF64_eq_ok with ⟨thenValues, thenRead, _⟩
  rcases right.valuesF64_eq_ok with ⟨elseValues, elseRead, _⟩
  unfold cond
  rw [condRead, thenRead, elseRead]
  change Answers (if thenValues.length ≠ elseValues.length then _ else _)
  split
  · exact .of_error ⟨_, rfl⟩
  · rename_i same
    have same := not_not.mp same
    split
    · exact .of_error ⟨_, rfl⟩
    · rename_i fits
      have chosen : exists out, (List.range thenValues.length).mapM (fun cell => do
          let condition <- indexed condValues (if condValues.length = 1 then 0 else cell)
          if elements.isZero condition then indexed elseValues cell else indexed thenValues cell :
            Nat -> Except (Failure String) elements.F64) = .ok out := by
        apply mapM_isOk_iff.mpr
        intro cell member
        have inside := List.mem_range.mp member
        have covered : (if condValues.length = 1 then 0 else cell) < condValues.length := by
          split
          · omega
          · omega
        rcases indexed_of_lt (E := String) covered with ⟨condition, found⟩
        rcases indexed_of_lt (E := String) inside with ⟨first, firstFound⟩
        rcases indexed_of_lt (E := String) (same ▸ inside) with ⟨second, secondFound⟩
        rw [found, except_ok_bind]
        by_cases zero : elements.isZero condition = true
        · rw [if_pos zero]
          exact ⟨second, secondFound⟩
        · rw [if_neg zero]
          exact ⟨first, firstFound⟩
      rcases chosen with ⟨out, chosen⟩
      rw [chosen]
      exact fromF64Like_answers (wellSized_iff.mp thenSized)

theorem binaryOp_answers (ops : FloatOps elements) (op : String) (leftSized : left.WellSized)
    (rightSized : right.WellSized)
    (small : forall shape, joinShape left.shape right.shape = some shape -> shape.prod < usize) :
    Answers (left.binaryOp ops right op) := by
  rcases left.valuesF64_eq_ok with ⟨leftValues, leftRead, _⟩
  rcases right.valuesF64_eq_ok with ⟨rightValues, rightRead, _⟩
  rcases broadcastShapes_cases left.shape right.shape with ⟨shape, joined, common, _⟩ | ⟨_, refused, _⟩
  · rcases joinShape_broadcasts joined with ⟨leftBroadcasts, rightBroadcasts⟩
    rw [binaryOp_eq ops op leftSized rightSized leftRead rightRead common leftBroadcasts rightBroadcasts]
    apply Ends.bind (Ends.mapM (fun cell _ => ends_mapError _ (fun _ _ => trivial)))
    intro out _
    exact fromF64Like_answers (small shape joined)
  · apply Answers.of_error
    unfold binaryOp
    rw [leftRead, rightRead, refused]
    exact ⟨_, rfl⟩

theorem matmul_answers (leftSized : left.WellSized) (rightSized : right.WellSized)
    (small : forall aBatch bBatch batchOut rows inner cols,
      Multiplies left right aBatch bBatch batchOut rows inner cols -> (batchOut ++ [rows, cols]).prod < usize) :
    Answers (batchedMatmul left right) := by
  rcases (matmulSized_iff leftSized rightSized).mpr small with refused | ⟨_, _, _, _, _, _, result, _, done, _, sized⟩
  · exact .of_error refused
  · exact .of_exists ⟨result, done, sized⟩

theorem transpose_answers {views : Views elements} (transposes : views.Transposes)
    (wellSized : tensor.WellSized) (axes : List Nat) :
    Answers (tensorTranspose views tensor axes) := by
  by_cases orders : Orders axes tensor.shape.length
  · rcases (tensorTranspose_decides transposes wellSized axes).accepts orders with ⟨result, done, _, _, shows⟩
    exact .of_exists ⟨result, done, shows.wellSized⟩
  · rcases (tensorTranspose_decides transposes wellSized axes).refuses orders with ⟨reason, refused, _⟩
    exact .of_error ⟨_, refused⟩

/-! ## Sums -/

theorem validatePair_ends (left right : Tensor elements) :
    Ends (fun _ => True) Reported
      ((TensorDtypeGuard.validatePair left right).mapError Failure.error : Except (Failure TensorOpError) Unit) :=
  ends_mapError _ (fun _ _ => trivial)

theorem exactShapeAdd_answers (ops : FloatOps elements) (leftSized : left.WellSized) (rightSized : right.WellSized) :
    Answers (exactShapeAdd ops left right) := by
  apply (validatePair_ends left right).bind
  intro _ _
  split
  · exact Answers.of_error ⟨_, rfl⟩
  · rename_i same
    apply Answers.renamed
    apply binaryOp_answers ops "add" leftSized rightSized
    intro shape joined
    rw [← not_not.mp same, joinShape_self] at joined
    cases joined
    exact wellSized_iff.mp leftSized

theorem broadcastAdd_answers (ops : FloatOps elements) (leftSized : left.WellSized) (rightSized : right.WellSized)
    (small : forall shape, joinShape left.shape right.shape = some shape -> shape.prod < usize) :
    Answers (broadcastAdd ops left right) := by
  apply (validatePair_ends left right).bind
  intro _ _
  split
  · exact exactShapeAdd_answers ops leftSized rightSized
  · have common : Ends (fun shape => joinShape left.shape right.shape = some shape) Reported
        ((Add.broadcastShape left.shape right.shape).mapError Failure.error :
          Except (Failure TensorOpError) (List Nat)) := by
      apply ends_mapError _
      intro shape found
      rcases broadcastShapes_cases left.shape right.shape with ⟨other, joined, _, added, _⟩ | ⟨_, _, refused, _⟩
      · rw [added] at found
        cases found
        exact joined
      · rw [refused] at found
        cases found
    apply common.bind
    intro shape joined
    have leftCopies := (broadcast_answers leftSized (small shape joined)).renamed
      (TensorOpError.broadcastIncompatible left.shape right.shape)
    apply leftCopies.bind
    intro leftCopy leftCopied
    have rightCopies := (broadcast_answers rightSized (small shape joined)).renamed
      (TensorOpError.broadcastIncompatible leftCopy.shape right.shape)
    apply rightCopies.bind
    intro rightCopy rightCopied
    exact exactShapeAdd_answers ops leftCopied rightCopied

/-! ## Reductions -/

end Tensor

/-- A tensor which is left of a reduction has the right size. -/
def TensorReduceResult.WellSized : TensorReduceResult elements -> Prop
  | .scalar _ => True
  | .tensor result => result.WellSized

namespace Tensor

variable {tensor : Tensor elements}

theorem reduceMask_ends (rank : Nat) (axes : List Nat) :
    Ends (fun mask => mask.length = rank) Reported (reduceMask rank axes) := by
  apply Ends.foldlM (fun mask : List Bool => mask.length = rank) List.length_replicate
  intro mask axis _ width
  unfold markAxis
  split
  · exact ⟨_, rfl⟩
  · rename_i inside
    apply Ends.of_ok (if_pos (by omega))
    rw [List.length_set, width]

theorem reduceResult_ends {outShape : List Nat} {outValues : List elements.F64}
    (length : outValues.length = outShape.prod) (small : outShape.prod < usize) :
    Ends TensorReduceResult.WellSized Reported (tensor.reduceResult outShape outValues) := by
  unfold reduceResult
  split
  · rename_i empty
    rw [List.isEmpty_iff] at empty
    rw [empty, List.prod_nil] at length
    rcases indexed_of_lt (E := String) (show 0 < outValues.length by omega) with ⟨number, found⟩
    rw [found]
    exact Ends.of_ok rfl trivial
  · apply Ends.bind (fromF64Like_answers small)
    intro result sized
    exact Ends.of_ok rfl sized

/-- Reductions end in a number, a tensor of the right size or an error. -/
theorem reduceAxes_ends (ops : FloatOps elements) (wellSized : tensor.WellSized) (op : String)
    (axes : Option (List Nat)) (keepdims : Bool) :
    Ends TensorReduceResult.WellSized Reported (tensor.reduceAxes ops op axes keepdims) := by
  rcases tensor.valuesF64_eq_ok with ⟨values, read, _⟩
  have length := wellSized.length read
  have small := wellSized.prod_lt
  unfold reduceAxes
  rw [read]
  change Ends _ _ (if values.isEmpty then _ else _)
  split
  · exact ⟨_, rfl⟩
  · rename_i filled
    have nonzero := nonzero_of_items length (by simpa using filled)
    apply (reduceMask_ends tensor.shape.length (axes.getD (List.range tensor.shape.length))).bind
    intro mask width
    have outSmall : (reducedShape keepdims mask tensor.shape).prod < usize :=
      Nat.lt_of_le_of_lt (remaining_prod_le nonzero) small
    have outSize : (if (reducedShape keepdims mask tensor.shape).isEmpty then 1
        else product (reducedShape keepdims mask tensor.shape)) = (reducedShape keepdims mask tensor.shape).prod := by
      rw [product_eq, Nat.mod_eq_of_lt outSmall]
      split
      · rename_i empty
        rw [List.isEmpty_iff.mp empty, List.prod_nil]
      · rfl
    have outShape : (maskedAxes keepdims 1 mask tensor.shape : Except (Failure String) (List Nat)) =
        .ok (reducedShape keepdims mask tensor.shape) := maskedAxes_eq width
    rw [outShape, except_ok_bind]
    dsimp only
    rw [outSize, foldlM_reduceStep ops keepdims nonzero small width length, except_ok_bind]
    apply Ends.bind (ends_mapError (fun out : List elements.F64 =>
      out.length = (reducedShape keepdims mask tensor.shape).prod) ?_)
    · intro outValues outLength
      exact reduceResult_ends outLength outSmall
    · intro outValues finalized
      rw [(mapM_getElem? finalized).1, List.length_map, List.length_range]

theorem broadcastReduceAxes_ends (inputShape targetShape : List Nat) :
    Ends (fun _ => True) Reported (broadcastReduceAxes inputShape targetShape) := by
  unfold broadcastReduceAxes
  split
  · exact ⟨_, rfl⟩
  · rename_i shorter
    apply Ends.foldlM (fun _ : List Nat => True) trivial
    intro axes entry member _
    have inside : inputShape.length - targetShape.length + entry.2 < inputShape.length := by
      have below := List.snd_lt_of_mem_zipIdx member
      omega
    rcases indexed_of_lt (E := TensorOpError) inside with ⟨dim, found⟩
    unfold broadcastReduceAxis
    dsimp only
    rw [found, except_ok_bind]
    split
    · exact Ends.of_ok rfl trivial
    · split
      · exact Ends.of_ok rfl trivial
      · exact ⟨_, rfl⟩

theorem broadcastReduceSum_answers (ops : FloatOps elements) (wellSized : tensor.WellSized) {targetShape : List Nat}
    (small : targetShape.prod < usize) : Answers (broadcastReduceSum ops tensor targetShape) := by
  unfold broadcastReduceSum
  apply Ends.bind (ends_mapError (fun _ => True) (fun _ _ => trivial))
  intro _ _
  apply (broadcastReduceAxes_ends tensor.shape targetShape).bind
  intro axes _
  have reshapes : forall result : Tensor elements, Answers ((result.reshape targetShape).mapError
      (fun _ => Failure.error (TensorOpError.invalidBroadcastReduce tensor.shape targetShape))) := by
    intro result
    cases reshaped : result.reshape targetShape with
    | error error => exact ⟨_, rfl⟩
    | ok other => exact reshape_sized small reshaped
  dsimp only
  split
  · exact reshapes tensor
  · have reduces := reduceAxes_ends ops wellSized "sum" (some axes) true
    cases outcome : tensor.reduceAxes ops "sum" (some axes) true with
    | error failure =>
        rw [outcome] at reduces
        rcases reduces with ⟨error, rfl⟩
        exact ⟨_, rfl⟩
    | ok result =>
        cases result with
        | scalar number => exact ⟨_, rfl⟩
        | tensor result => exact reshapes result

end Tensor

end Tensors
end TransactionalCollection
