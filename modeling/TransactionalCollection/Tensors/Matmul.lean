import TransactionalCollection.Tensors.Dense

namespace TransactionalCollection
namespace Tensors

open Execution Native Numeric

/-!
# Batched products of matrices

The last two dimensions of each operand are those of a matrix, and the ones before
are broadcast together.  The product of the matrices of each batch is written into
its place in the output, of which all cells are allocated at first.
-/

inductive TensorOpError where
  | dtypeNotSupported (dtype : String)
  | dtypeMismatch (left right : String)
  | shapeMismatch (left right : List Nat)
  | broadcastIncompatible (left right : List Nat)
  | invalidBroadcastReduce (input target : List Nat)
  | invalidRank (rank : Nat)
  | matmulShapeMismatch (aInner bInner : Nat)
  | broadcastShapeMismatch (batchA batchB : List Nat)
  | invalidPermutation (rank : Nat) (permutation : List Nat) (reason : String)
  deriving DecidableEq, Repr

variable {elements : Elements}

namespace TensorDtypeGuard

def validate (tensor : Tensor elements) : Except TensorOpError Unit :=
  match tensor with
  | .f32 _ | .f64 _ => .ok ()
  | .u64 _ => .error (.dtypeNotSupported tensor.dtypeTag)

def validatePair (left right : Tensor elements) : Except TensorOpError Unit := do
  validate left
  validate right
  if left.dtypeTag ≠ right.dtypeTag then .error (.dtypeMismatch left.dtypeTag right.dtypeTag) else .ok ()

end TensorDtypeGuard

/-! ## Batches -/

def dimFromRight (shape : List Nat) (axisFromRight : Nat) : Option Nat :=
  if axisFromRight + 1 ≤ shape.length then shape[shape.length - (axisFromRight + 1)]? else none

/-- One round of the loop over the axes. -/
def broadcastBatchAxis (batchA batchB : List Nat) (axisFromRight : Nat) : Except TensorOpError Nat :=
  let aDim := (dimFromRight batchA axisFromRight).getD 1
  let bDim := (dimFromRight batchB axisFromRight).getD 1
  if aDim = bDim then .ok aDim
  else if aDim = 1 then .ok bDim
  else if bDim = 1 then .ok aDim
  else .error (.broadcastShapeMismatch batchA batchB)

def broadcastBatchShape (batchA batchB : List Nat) : Except TensorOpError (List Nat) := do
  let output <- (List.range (max batchA.length batchB.length)).mapM (broadcastBatchAxis batchA batchB)
  return output.reverse

theorem dimFromRight_eq (shape : List Nat) (axisFromRight : Nat) :
    dimFromRight shape axisFromRight = shape.reverse[axisFromRight]? := by
  unfold dimFromRight
  split
  · rename_i inside
    rw [List.getElem?_reverse (by omega)]
    congr 1
    omega
  · rename_i outside
    symm
    apply List.getElem?_eq_none
    rw [List.length_reverse]
    omega

/-- A dimension of the output is that of each batch which is not one. -/
theorem broadcastBatchAxis_fits {batchA batchB : List Nat} {axis dim : Nat}
    (done : broadcastBatchAxis batchA batchB axis = .ok dim) :
    (batchA.reverse[axis]?.getD 1 = 1 ∨ batchA.reverse[axis]?.getD 1 = dim) ∧
      (batchB.reverse[axis]?.getD 1 = 1 ∨ batchB.reverse[axis]?.getD 1 = dim) := by
  unfold broadcastBatchAxis at done
  rw [dimFromRight_eq, dimFromRight_eq] at done
  dsimp only at done
  split at done
  · rename_i same
    cases done
    exact ⟨Or.inr rfl, Or.inr same.symm⟩
  · split at done
    · rename_i one
      cases done
      exact ⟨Or.inl one, Or.inr rfl⟩
    · split at done
      · rename_i one
        cases done
        exact ⟨Or.inr rfl, Or.inl one⟩
      · cases done

theorem broadcasts_of_axes {batch output : List Nat} (shorter : batch.length ≤ output.length)
    (axes : forall (axis dim : Nat), output[axis]? = some dim ->
      batch.reverse[axis]?.getD 1 = 1 ∨ batch.reverse[axis]?.getD 1 = dim) :
    Broadcasts batch.reverse output := by
  constructor
  · rwa [List.length_reverse]
  · intro dims member
    rcases List.mem_iff_getElem?.mp member with ⟨axis, found⟩
    rcases List.getElem?_zip_eq_some.mp found with ⟨source, target⟩
    have fits := axes axis dims.2 target
    rwa [source] at fits

/-- Both batches broadcast to that of the output. -/
theorem broadcastBatchShape_broadcasts {batchA batchB batchOut : List Nat}
    (done : broadcastBatchShape batchA batchB = .ok batchOut) :
    Broadcasts batchA.reverse batchOut.reverse ∧ Broadcasts batchB.reverse batchOut.reverse := by
  unfold broadcastBatchShape at done
  rcases except_bind_eq_ok.mp done with ⟨output, computed, same⟩
  cases same
  rw [List.reverse_reverse]
  rcases mapM_getElem? computed with ⟨width, each⟩
  rw [List.length_range] at width
  have axes : forall (axis dim : Nat), output[axis]? = some dim ->
      broadcastBatchAxis batchA batchB axis = .ok dim := by
    intro axis dim found
    have inside := (List.getElem?_eq_some_iff.mp found).1
    rcases each axis axis (List.getElem?_range (width ▸ inside)) with ⟨other, done, there⟩
    cases found.symm.trans there
    exact done
  constructor
  · apply broadcasts_of_axes
    · omega
    · intro axis dim found
      exact (broadcastBatchAxis_fits (axes axis dim found)).1
  · apply broadcasts_of_axes
    · omega
    · intro axis dim found
      exact (broadcastBatchAxis_fits (axes axis dim found)).2

/-- The components of a source batch which is aligned with the right of the output. -/
def srcIndices (outIndices srcBatch : List Nat) : List Nat :=
  List.zipWith projectAxis srcBatch (outIndices.drop (outIndices.length - srcBatch.length))

def broadcastBatchOffset (flatIdx : Nat) (outBatch srcBatch : List Nat) :
    Except (Failure TensorOpError) Nat :=
  if srcBatch.isEmpty then .ok 0
  else do
    let outIndices <- unravelIndex flatIdx outBatch
    return wrappingValue usize (places srcBatch (srcIndices outIndices srcBatch)) 0 1

theorem places_srcIndices {outIndices srcBatch : List Nat} (shorter : srcBatch.length ≤ outIndices.length) :
    places srcBatch (srcIndices outIndices srcBatch) = projectedPlaces srcBatch.reverse outIndices.reverse :=
  (places_project (if_neg (Nat.not_lt.mpr shorter))).2

/-- The batch of a source is computed of the one it is projected to, and wraps. -/
theorem broadcastBatchOffset_eq_mod {flatIdx : Nat} {outBatch srcBatch : List Nat}
    (broadcasts : Broadcasts srcBatch.reverse outBatch.reverse) (nonzero : 0 ∉ outBatch) :
    broadcastBatchOffset flatIdx outBatch srcBatch = .ok (sourceCell srcBatch outBatch flatIdx % usize) := by
  unfold broadcastBatchOffset
  split
  · rename_i empty
    rw [List.isEmpty_iff.mp empty]
    rfl
  · apply except_bind_eq_ok.mpr
    refine ⟨_, unravelIndex_eq_ok.mpr ⟨nonzero, rfl⟩, ?_⟩
    rw [places_srcIndices (broadcasts.length_le flatIdx), List.reverse_reverse,
      wrappingValue_eq (Nat.zero_lt_of_lt usize_several), Nat.zero_add, Nat.one_mul]
    rfl

/-- The batch of a source which a batch of the output takes its matrix from. -/
theorem broadcastBatchOffset_eq {flatIdx : Nat} {outBatch srcBatch : List Nat}
    (broadcasts : Broadcasts srcBatch.reverse outBatch.reverse) (nonzero : 0 ∉ outBatch)
    (small : srcBatch.prod < usize) :
    broadcastBatchOffset flatIdx outBatch srcBatch = .ok (sourceCell srcBatch outBatch flatIdx) := by
  have below := sourceCell_lt broadcasts nonzero flatIdx
  rw [broadcastBatchOffset_eq_mod broadcasts nonzero, Nat.mod_eq_of_lt (Nat.lt_trans below small)]

/-! ## Products -/

/-- Dimensions of the batches, and of their matrices. -/
def matrixDims (shape : List Nat) : Option (List Nat × Nat × Nat) :=
  match shape.reverse with
  | cols :: rows :: batch => some (batch.reverse, rows, cols)
  | _ => none

theorem matrixDims_eq_some {shape batch : List Nat} {rows cols : Nat} :
    matrixDims shape = some (batch, rows, cols) <-> shape = batch ++ [rows, cols] := by
  unfold matrixDims
  constructor
  · intro split
    rw [← List.reverse_reverse shape]
    revert split
    cases shape.reverse with
    | nil => simp
    | cons last others =>
        cases others with
        | nil => simp
        | cons other rest =>
            intro split
            cases split
            simp
  · rintro rfl
    simp

/-- `values[index] = value`. -/
def assign {A : Type} (values : List A) (index : Nat) (value : A) : Except (Failure TensorOpError) (List A) :=
  if index < values.length then .ok (values.set index value)
  else .error (.panic ⟨s!"index out of bounds: the len is {values.length} but the index is {index}"⟩)

/-- One operation in `usize`. -/
def plus (left right : Nat) : Nat := (left + right) % usize

def times (left right : Nat) : Nat := left * right % usize

/-- The product of a row and a column. -/
def rowTimesColumn (aVals bVals : List elements.F64) (inner cols aBatchOffset bBatchOffset row col : Nat) :
    Except (Failure TensorOpError) elements.F64 :=
  (List.range inner).foldlM (fun sum k => do
    let left <- indexed aVals (plus (plus aBatchOffset (times row inner)) k)
    let right <- indexed bVals (plus (plus bBatchOffset (times k cols)) col)
    return elements.add sum (elements.mul left right)) elements.zero

/-- The products of the rows and columns of one batch. -/
def batchProduct (aVals bVals : List elements.F64) (rows inner cols : Nat) (aBatch bBatch batchOut : List Nat)
    (out : List elements.F64) (batch : Nat) : Except (Failure TensorOpError) (List elements.F64) := do
  let aBatchIdx <- broadcastBatchOffset batch batchOut aBatch
  let bBatchIdx <- broadcastBatchOffset batch batchOut bBatch
  let aBatchOffset := times (times aBatchIdx rows) inner
  let bBatchOffset := times (times bBatchIdx inner) cols
  let outBatchOffset := times (times batch rows) cols
  (List.range rows).foldlM (fun out row =>
    (List.range cols).foldlM (fun out col => do
      let sum <- rowTimesColumn aVals bVals inner cols aBatchOffset bBatchOffset row col
      assign out (plus (plus outBatchOffset (times row cols)) col) sum) out) out

/-- All batches, one after another. -/
def batchProducts (aVals bVals : List elements.F64) (rows inner cols : Nat)
    (aBatch bBatch batchOut : List Nat) :
    Except (Failure TensorOpError) (List elements.F64) :=
  (List.range (product batchOut)).foldlM
    (batchProduct aVals bVals rows inner cols aBatch bBatch batchOut)
    (List.replicate (times (times (product batchOut) rows) cols) elements.zero)

def batchedMatmul (left right : Tensor elements) : Except (Failure TensorOpError) (Tensor elements) := do
  (TensorDtypeGuard.validatePair left right).mapError Failure.error
  match matrixDims left.shape, matrixDims right.shape with
  | none, _ => .error (.error (.invalidRank left.shape.length))
  | _, none => .error (.error (.invalidRank right.shape.length))
  | some (aBatch, aRows, aInner), some (bBatch, bInner, bCols) =>
      if aInner ≠ bInner then .error (.error (.matmulShapeMismatch aInner bInner))
      else do
        let batchOut <- (broadcastBatchShape aBatch bBatch).mapError Failure.error
        let aVals <- left.valuesF64.mapError (fun _ => .error (.dtypeNotSupported left.dtypeTag))
        let bVals <- right.valuesF64.mapError (fun _ => .error (.dtypeNotSupported right.dtypeTag))
        let out <- batchProducts aVals bVals aRows aInner bCols aBatch bBatch batchOut
        let result := match left with
          | .f32 _ => Tensor.denseF32 (batchOut ++ [aRows, bCols]) (out.map elements.narrow)
          | .f64 _ | .u64 _ => Tensor.denseF64 (batchOut ++ [aRows, bCols]) out
        result.mapError (fun _ => .error (.matmulShapeMismatch aInner bInner))

end Tensors
end TransactionalCollection
