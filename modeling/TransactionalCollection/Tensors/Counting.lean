import TransactionalCollection.Tensors.Broadcasting
import TransactionalCollection.Tensors.Matmul
import TransactionalCollection.Tensors.Reading

namespace TransactionalCollection
namespace Tensors

open Execution Native Numeric

/-!
# Counting the cells of a product of matrices

The batches of the output, and the rows and columns of their matrices, come from
different operands, so their product is not bounded by the sizes of these where a
dimension is zero or one.  The output has the right size, and every index is within
its buffer, if and only if that product does not wrap.  No step on the way wraps
either if and only if no partial product does, and where there are no columns,
neither does the offset of the last line of the right operand.
-/

variable {elements : Elements}

/-! ## Offsets -/

/-- The numbers of which the product of one batch is computed.  Where the sums which
address a cell are in range, so are their parts. -/
structure BatchFits (rows inner cols batch aBatchIdx bBatchIdx : Nat) : Prop where
  left : ProductFits usize [aBatchIdx, rows, inner]
  right : ProductFits usize [bBatchIdx, inner, cols]
  out : ProductFits usize [batch, rows, cols]
  cells : forall row col, row < rows -> col < cols ->
    batch * rows * cols + row * cols + col < usize ∧ forall k, k < inner ->
      aBatchIdx * rows * inner + row * inner + k < usize ∧ bBatchIdx * inner * cols + k * cols + col < usize

/-- The offset of a cell is computed without wrapping. -/
theorem offset_eq {index height width line item : Nat} (fits : ProductFits usize [index, height, width])
    (small : index * height * width + line * width + item < usize) :
    plus (plus (times (times index height) width) (times line width)) item =
      index * height * width + line * width + item := by
  have block : times index height = index * height := by
    apply Nat.mod_eq_of_lt
    simpa using fits 2
  have start : times (index * height) width = index * height * width := by
    apply Nat.mod_eq_of_lt
    omega
  have lines : times line width = line * width := by
    apply Nat.mod_eq_of_lt
    omega
  have sum : plus (index * height * width) (line * width) = index * height * width + line * width := by
    apply Nat.mod_eq_of_lt
    omega
  rw [block, start, lines, sum]
  exact Nat.mod_eq_of_lt small

/-! ## Loops -/

/-- A panic, which is not an error that the caller is handed. -/
def IsPanic {E : Type} : Failure E -> Prop
  | .panic _ => True
  | .error _ => False

section Loops

variable {allowed : Failure TensorOpError -> Prop} {aVals bVals out : List elements.F64}
  {rows inner cols batch aBatchIdx bBatchIdx : Nat} {aBatch bBatch batchOut : List Nat}

theorem indexed_ends {E A : Type} (values : List A) (index : Nat) :
    Ends (fun _ => True) IsPanic (indexed values index : Except (Failure E) A) := by
  unfold indexed
  cases values[index]? with
  | none => trivial
  | some value => trivial

theorem indexed_ok {A : Type} {values : List A} {index : Nat} (inBounds : index < values.length) :
    Ends (fun _ => True) allowed (indexed values index) := by
  rcases indexed_of_lt inBounds with ⟨value, found⟩
  rw [found]
  trivial

theorem assign_ends {A : Type} (values : List A) (index : Nat) (value : A) :
    Ends (fun next => next.length = values.length) IsPanic (assign values index value) := by
  unfold assign
  split
  · exact List.length_set
  · trivial

theorem assign_ok {A : Type} {values : List A} {index : Nat} (inBounds : index < values.length) (value : A) :
    Ends (fun next => next.length = values.length) allowed (assign values index value) :=
  Ends.of_ok (if_pos inBounds) List.length_set

theorem broadcastBatchOffset_ends (flatIdx : Nat) (outBatch srcBatch : List Nat) :
    Ends (fun _ => True) IsPanic (broadcastBatchOffset flatIdx outBatch srcBatch) := by
  unfold broadcastBatchOffset unravelIndex
  split
  · trivial
  · split
    · trivial
    · trivial

theorem broadcastBatchOffset_ok {flatIdx : Nat} {outBatch srcBatch : List Nat} (nonzero : 0 ∉ outBatch) :
    Ends (fun _ => True) allowed (broadcastBatchOffset flatIdx outBatch srcBatch) := by
  unfold broadcastBatchOffset
  split
  · trivial
  · rw [unravelIndex_eq_ok.mpr ⟨nonzero, rfl⟩]
    trivial

/-- A row and a column within the operands. -/
theorem rowTimesColumn_ok {aOffset bOffset row col : Nat}
    (left : forall k, k < inner -> plus (plus aOffset (times row inner)) k < aVals.length)
    (right : forall k, k < inner -> plus (plus bOffset (times k cols)) col < bVals.length) :
    Ends (fun _ => True) allowed (rowTimesColumn aVals bVals inner cols aOffset bOffset row col) := by
  unfold rowTimesColumn
  apply Ends.foldlM (fun _ => True) trivial
  intro sum k member _
  have inside := List.mem_range.mp member
  apply Ends.bind (indexed_ok (left k inside))
  intro _ _
  exact Ends.bind (indexed_ok (right k inside)) (fun _ _ => trivial)

theorem rowTimesColumn_ends (aOffset bOffset row col : Nat) :
    Ends (fun _ => True) IsPanic (rowTimesColumn aVals bVals inner cols aOffset bOffset row col) := by
  unfold rowTimesColumn
  apply Ends.foldlM (fun _ => True) trivial
  intro sum k _ _
  apply Ends.bind (indexed_ends _ _)
  intro _ _
  exact Ends.bind (indexed_ends _ _) (fun _ _ => trivial)

/-- The product of one batch ends as its cells do, and keeps the length of the output. -/
theorem batchProduct_ends_of {leftIdx rightIdx : Nat -> Prop} {length : Nat} (sized : out.length = length)
    (left : Ends leftIdx allowed (broadcastBatchOffset batch batchOut aBatch))
    (right : Ends rightIdx allowed (broadcastBatchOffset batch batchOut bBatch))
    (sums : forall aIdx bIdx row col, leftIdx aIdx -> rightIdx bIdx -> row < rows -> col < cols ->
      Ends (fun _ => True) allowed (rowTimesColumn aVals bVals inner cols (times (times aIdx rows) inner)
        (times (times bIdx inner) cols) row col))
    (writes : forall row col (current : List elements.F64) value, row < rows -> col < cols ->
      current.length = length -> Ends (fun next => next.length = length) allowed
        (assign current (plus (plus (times (times batch rows) cols) (times row cols)) col) value)) :
    Ends (fun next => next.length = length) allowed
      (batchProduct aVals bVals rows inner cols aBatch bBatch batchOut out batch) := by
  unfold batchProduct
  apply Ends.bind left
  intro aIdx leftHolds
  apply Ends.bind right
  intro bIdx rightHolds
  dsimp only
  apply Ends.foldlM (fun next : List elements.F64 => next.length = length) sized
  intro current row rowMember kept
  apply Ends.foldlM (fun next : List elements.F64 => next.length = length) kept
  intro next col colMember length
  have rowInside := List.mem_range.mp rowMember
  have colInside := List.mem_range.mp colMember
  apply Ends.bind (sums aIdx bIdx row col leftHolds rightHolds rowInside colInside)
  intro sum _
  exact writes row col next sum rowInside colInside length

/-- Batches of which no number wraps are multiplied within the buffers. -/
theorem batchProduct_ok {aCount bCount count : Nat}
    (fits : BatchFits rows inner cols batch aBatchIdx bBatchIdx)
    (left : broadcastBatchOffset batch batchOut aBatch = .ok aBatchIdx)
    (right : broadcastBatchOffset batch batchOut bBatch = .ok bBatchIdx)
    (leftInside : aBatchIdx < aCount) (leftLength : aVals.length = aCount * rows * inner)
    (rightInside : bBatchIdx < bCount) (rightLength : bVals.length = bCount * inner * cols)
    (inside : batch < count) (sized : out.length = count * rows * cols) :
    Ends (fun next => next.length = count * rows * cols) never
      (batchProduct aVals bVals rows inner cols aBatch bBatch batchOut out batch) := by
  have leftEnds : Ends (fun index => index = aBatchIdx) never (broadcastBatchOffset batch batchOut aBatch) :=
    Ends.of_ok left rfl
  have rightEnds : Ends (fun index => index = bBatchIdx) never (broadcastBatchOffset batch batchOut bBatch) :=
    Ends.of_ok right rfl
  apply batchProduct_ends_of sized leftEnds rightEnds
  · rintro _ _ row col rfl rfl rowInside colInside
    apply rowTimesColumn_ok
    · intro k kInside
      rw [offset_eq fits.left ((fits.cells row col rowInside colInside).2 k kInside).1, leftLength]
      exact nested_lt leftInside rowInside kInside
    · intro k kInside
      rw [offset_eq fits.right ((fits.cells row col rowInside colInside).2 k kInside).2, rightLength]
      exact nested_lt rightInside kInside colInside
  · intro row col current value rowInside colInside length
    have inBounds : plus (plus (times (times batch rows) cols) (times row cols)) col < current.length := by
      rw [offset_eq fits.out (fits.cells row col rowInside colInside).1, length]
      exact nested_lt inside rowInside colInside
    rw [← length]
    exact assign_ok inBounds value

theorem batchProduct_ends {length : Nat} (sized : out.length = length) :
    Ends (fun next => next.length = length) IsPanic
      (batchProduct aVals bVals rows inner cols aBatch bBatch batchOut out batch) := by
  apply batchProduct_ends_of sized (broadcastBatchOffset_ends _ _ _) (broadcastBatchOffset_ends _ _ _)
  · intro aIdx bIdx row col _ _ _ _
    exact rowTimesColumn_ends _ _ _ _
  · intro row col current value _ _ length
    rw [← length]
    exact assign_ends _ _ _

/-- Without rows or columns nothing is read or written. -/
theorem batchProduct_empty {length : Nat} (sized : out.length = length) (nonzero : 0 ∉ batchOut)
    (empty : rows = 0 ∨ cols = 0) : Ends (fun next => next.length = length) allowed
      (batchProduct aVals bVals rows inner cols aBatch bBatch batchOut out batch) := by
  apply batchProduct_ends_of sized (broadcastBatchOffset_ok nonzero) (broadcastBatchOffset_ok nonzero)
  · intro aIdx bIdx row col _ _ rowInside colInside
    omega
  · intro row col current value rowInside colInside _
    omega

/-- The output keeps the length which was allocated. -/
theorem batchProducts_ends_of (each : forall batch (out : List elements.F64), batch < product batchOut ->
      out.length = product (batchOut ++ [rows, cols]) ->
      Ends (fun next => next.length = product (batchOut ++ [rows, cols])) allowed
        (batchProduct aVals bVals rows inner cols aBatch bBatch batchOut out batch)) :
    Ends (fun next => next.length = product (batchOut ++ [rows, cols])) allowed
      (batchProducts aVals bVals rows inner cols aBatch bBatch batchOut) := by
  have allocated : times (times (product batchOut) rows) cols = product (batchOut ++ [rows, cols]) := by
    unfold product wrappingProduct
    rw [List.foldl_append]
    rfl
  unfold batchProducts
  rw [allocated]
  apply Ends.foldlM (fun next : List elements.F64 => next.length = product (batchOut ++ [rows, cols]))
    List.length_replicate
  intro out batch member sized
  exact each batch out (List.mem_range.mp member) sized

end Loops

/-! ## Operands -/

/-- The operands have one type of floats, and shapes of which the inner dimensions
agree and the batches broadcast. -/
structure Multiplies (left right : Tensor elements) (aBatch bBatch batchOut : List Nat)
    (rows inner cols : Nat) : Prop where
  dtypes : TensorDtypeGuard.validatePair left right = .ok ()
  leftShape : left.shape = aBatch ++ [rows, inner]
  rightShape : right.shape = bBatch ++ [inner, cols]
  batches : broadcastBatchShape aBatch bBatch = .ok batchOut

section Operands

variable {left right : Tensor elements} {aBatch bBatch batchOut : List Nat} {rows inner cols : Nat}

/-- What is not multiplied is an error. -/
theorem multiplies_or_error (left right : Tensor elements) :
    (exists aBatch bBatch batchOut rows inner cols,
      Multiplies left right aBatch bBatch batchOut rows inner cols) ∨
      exists error, batchedMatmul left right = .error (.error error) := by
  unfold batchedMatmul
  cases dtypes : TensorDtypeGuard.validatePair left right with
  | error error => exact Or.inr ⟨error, rfl⟩
  | ok _ =>
      cases leftDims : matrixDims left.shape with
      | none => exact Or.inr ⟨_, rfl⟩
      | some dims =>
          rcases dims with ⟨aBatch, rows, inner⟩
          cases rightDims : matrixDims right.shape with
          | none => exact Or.inr ⟨_, rfl⟩
          | some dims =>
              rcases dims with ⟨bBatch, other, cols⟩
              by_cases same : inner = other
              · cases same
                cases batches : broadcastBatchShape aBatch bBatch with
                | ok batchOut =>
                    left
                    exact ⟨aBatch, bBatch, batchOut, rows, inner, cols, dtypes,
                      matrixDims_eq_some.mp leftDims,
                      matrixDims_eq_some.mp rightDims, batches⟩
                | error error =>
                    right
                    refine ⟨error, ?_⟩
                    change (if inner ≠ inner then _ else _) = _
                    rw [if_neg (not_not_intro rfl), batches]
                    rfl
              · right
                refine ⟨.matmulShapeMismatch inner other, ?_⟩
                change (if inner ≠ other then _ else _) = _
                rw [if_pos same]

/-- What is multiplied is the products of the batches, written in the type of the left operand. -/
theorem Multiplies.eq_products (multiplies : Multiplies left right aBatch bBatch batchOut rows inner cols)
    {aVals bVals : List elements.F64} (leftRead : left.valuesF64 = .ok aVals)
    (rightRead : right.valuesF64 = .ok bVals) :
    batchedMatmul left right = (batchProducts aVals bVals rows inner cols aBatch bBatch batchOut >>= fun out =>
      (left.fromF64Like (batchOut ++ [rows, cols]) out).mapError
        (fun _ => Failure.error (TensorOpError.matmulShapeMismatch inner inner))) := by
  unfold batchedMatmul
  rw [multiplies.dtypes, matrixDims_eq_some.mpr multiplies.leftShape,
    matrixDims_eq_some.mpr multiplies.rightShape]
  dsimp only
  rw [if_neg (not_not_intro rfl), multiplies.batches, leftRead, rightRead]
  cases left with
  | f32 array => rfl
  | f64 array => rfl
  | u64 array => cases multiplies.dtypes

/-- Products of the right number are written to a tensor of the right size. -/
theorem Multiplies.eq_bind (multiplies : Multiplies left right aBatch bBatch batchOut rows inner cols) :
    exists (aVals bVals : List elements.F64)
      (write : List elements.F64 -> Except (Failure TensorOpError) (Tensor elements)),
      aVals.length = left.cells ∧ bVals.length = right.cells ∧
      batchedMatmul left right =
        (batchProducts aVals bVals rows inner cols aBatch bBatch batchOut >>= write) ∧
      forall out, out.length = product (batchOut ++ [rows, cols]) -> exists result, write out = .ok result ∧
        result.shape = batchOut ++ [rows, cols] ∧ result.cells = product (batchOut ++ [rows, cols]) := by
  rcases left.valuesF64_eq_ok with ⟨aVals, leftRead, leftLength⟩
  rcases right.valuesF64_eq_ok with ⟨bVals, rightRead, rightLength⟩
  refine ⟨aVals, bVals, _, leftLength, rightLength, multiplies.eq_products leftRead rightRead, ?_⟩
  intro out sized
  rcases Tensor.exists_fromF64Like (by simp) sized with ⟨result, written⟩
  rcases Tensor.fromF64Like_shape written with ⟨shaped, cells⟩
  rw [written]
  exact ⟨result, rfl, shaped, cells.trans sized⟩

/-- A product of matrices ends as the products of its batches do. -/
theorem Multiplies.ends (multiplies : Multiplies left right aBatch bBatch batchOut rows inner cols)
    {allowed : Failure TensorOpError -> Prop}
    (products : forall aVals bVals : List elements.F64, aVals.length = left.cells ->
      bVals.length = right.cells ->
      Ends (fun out => out.length = product (batchOut ++ [rows, cols])) allowed
        (batchProducts aVals bVals rows inner cols aBatch bBatch batchOut)) :
    Ends (fun result => result.shape = batchOut ++ [rows, cols] ∧
      result.cells = product (batchOut ++ [rows, cols]))
      allowed (batchedMatmul left right) := by
  rcases multiplies.eq_bind with ⟨aVals, bVals, write, leftLength, rightLength, unfolded, writes⟩
  rw [unfolded]
  apply Ends.bind (products aVals bVals leftLength rightLength)
  intro out sized
  rcases writes out sized with ⟨result, written, parts⟩
  exact Ends.of_ok written parts

/-- Operands which are multiplied are multiplied to the end, or until an index panics. -/
theorem Multiplies.ends_or_panics
    (multiplies : Multiplies left right aBatch bBatch batchOut rows inner cols) :
    Ends (fun result => result.shape = batchOut ++ [rows, cols] ∧
      result.cells = product (batchOut ++ [rows, cols]))
      IsPanic (batchedMatmul left right) := by
  apply multiplies.ends
  intro aVals bVals _ _
  apply batchProducts_ends_of
  intro batch out _ sized
  exact batchProduct_ends sized

end Operands

/-! ## Counts -/

/-- An error, or a result of the right size. -/
def MatmulSized (left right : Tensor elements) : Prop :=
  (exists error, batchedMatmul left right = .error (.error error)) ∨
    exists aBatch bBatch batchOut rows inner cols result,
      Multiplies left right aBatch bBatch batchOut rows inner cols ∧
        batchedMatmul left right = .ok result ∧
      result.shape = batchOut ++ [rows, cols] ∧ result.WellSized

/-- The numbers of which a product of matrices is computed: the length of its output,
and the batches of its operands with the offsets of their cells. -/
structure MatmulFits (aBatch bBatch batchOut : List Nat) (rows inner cols : Nat) : Prop where
  length : ProductFits usize (batchOut ++ [rows, cols])
  indices : forall batch, batch < product batchOut -> forall outIndices,
    (unravelIndex batch batchOut : Except (Failure TensorOpError) (List Nat)) = .ok outIndices ->
    ValueFits usize (places aBatch (srcIndices outIndices aBatch)) 0 1 ∧
      ValueFits usize (places bBatch (srcIndices outIndices bBatch)) 0 1
  offsets : forall batch, batch < product batchOut -> forall aBatchIdx bBatchIdx,
    broadcastBatchOffset batch batchOut aBatch = .ok aBatchIdx ->
    broadcastBatchOffset batch batchOut bBatch = .ok bBatchIdx ->
    BatchFits rows inner cols batch aBatchIdx bBatchIdx

/-- An error, or a result of the right size which is computed without wrapping. -/
def MatmulCounts (left right : Tensor elements) : Prop :=
  (exists error, batchedMatmul left right = .error (.error error)) ∨
    exists aBatch bBatch batchOut rows inner cols result,
      Multiplies left right aBatch bBatch batchOut rows inner cols ∧
        batchedMatmul left right = .ok result ∧
      result.shape = batchOut ++ [rows, cols] ∧ result.WellSized ∧
        MatmulFits aBatch bBatch batchOut rows inner cols

/-- No partial product of the output's shape wraps, nor, where there are no columns,
the number of lines before those of the last batch of the right operand. -/
def NoneWraps (bBatch batchOut : List Nat) (rows inner cols : Nat) : Prop :=
  ProductFits usize (batchOut ++ [rows, cols]) ∧
    (0 ∉ batchOut -> cols = 0 -> (bBatch.prod - 1) * inner < usize)

section Counts

variable {left right : Tensor elements} {aBatch bBatch batchOut : List Nat} {rows inner cols : Nat}

theorem prod_matrices (batch : List Nat) (height width : Nat) :
    (batch ++ [height, width]).prod = batch.prod * height * width := by
  rw [List.prod_append, List.prod_cons, List.prod_singleton, Nat.mul_assoc]

/-- The batches of an output which fits, and their rows. -/
theorem batches_lt (fits : ProductFits usize (batchOut ++ [rows, cols])) :
    batchOut.prod < usize ∧ batchOut.prod * rows < usize ∧ batchOut.prod * rows * cols < usize := by
  refine ⟨?_, ?_, ?_⟩
  · have batches := fits batchOut.length
    rwa [List.take_left] at batches
  · have lines := fits (batchOut.length + 1)
    rw [List.take_length_add_append, List.prod_append] at lines
    simpa using lines
  · rw [← prod_matrices]
    exact fits.prod_lt

/-- Where none wraps, the batches are numbered within their operands. -/
theorem Multiplies.batchFits (multiplies : Multiplies left right aBatch bBatch batchOut rows inner cols)
    (leftSized : left.WellSized) (rightSized : right.WellSized)
    (noneWraps : NoneWraps bBatch batchOut rows inner cols)
    (nonzero : 0 ∉ batchOut) {batch aBatchIdx bBatchIdx : Nat} (inside : batch < batchOut.prod)
    (leftInside : aBatchIdx < aBatch.prod) (rightInside : bBatchIdx < bBatch.prod) :
    BatchFits rows inner cols batch aBatchIdx bBatchIdx := by
  rcases batches_lt noneWraps.1 with ⟨batchesFit, linesFit, cellsFit⟩
  rcases broadcastBatchShape_broadcasts multiplies.batches with ⟨leftBroadcasts, rightBroadcasts⟩
  have leftBatches := broadcasts_prod_le leftBroadcasts nonzero
  have rightBatches := broadcasts_prod_le rightBroadcasts nonzero
  have leftCells := leftSized.prod_lt
  have rightCells := rightSized.prod_lt
  rw [multiplies.leftShape, prod_matrices] at leftCells
  rw [multiplies.rightShape, prod_matrices] at rightCells
  have leftLines : aBatch.prod * rows < usize :=
    Nat.lt_of_le_of_lt (Nat.mul_le_mul_right rows leftBatches) linesFit
  have rightLines : (bBatch.prod - 1) * inner < usize := by
    by_cases noColumns : cols = 0
    · exact noneWraps.2 nonzero noColumns
    · calc (bBatch.prod - 1) * inner ≤ bBatch.prod * inner := Nat.mul_le_mul_right inner (Nat.sub_le _ _)
        _ ≤ bBatch.prod * inner * cols := Nat.le_mul_of_pos_right _ (Nat.pos_of_ne_zero noColumns)
        _ < usize := rightCells
  have rightLast : (bBatch.prod - 1) * inner * cols < usize := by
    apply Nat.lt_of_le_of_lt ?_ rightCells
    exact Nat.mul_le_mul_right cols (Nat.mul_le_mul_right inner (Nat.sub_le _ _))
  constructor
  · apply productFits_of_le usize_several (Nat.le_of_lt leftInside) ?_ leftLines leftCells
    omega
  · apply productFits_of_le usize_several (Nat.le_sub_one_of_lt rightInside) ?_ rightLines rightLast
    omega
  · exact productFits_of_le usize_several (Nat.le_of_lt inside) batchesFit linesFit cellsFit
  · intro row col rowInside colInside
    refine ⟨Nat.lt_trans (nested_lt inside rowInside colInside) cellsFit, ?_⟩
    intro k kInside
    exact ⟨Nat.lt_trans (nested_lt leftInside rowInside kInside) leftCells,
      Nat.lt_trans (nested_lt rightInside kInside colInside) rightCells⟩

/-- The batches of the operands beside a batch of the output. -/
theorem Multiplies.batchOffsets (multiplies : Multiplies left right aBatch bBatch batchOut rows inner cols)
    (fits : ProductFits usize (batchOut ++ [rows, cols])) (nonzero : 0 ∉ batchOut) (batch : Nat) :
    (broadcastBatchOffset batch batchOut aBatch = .ok (sourceCell aBatch batchOut batch) ∧
      sourceCell aBatch batchOut batch < aBatch.prod) ∧
    (broadcastBatchOffset batch batchOut bBatch = .ok (sourceCell bBatch batchOut batch) ∧
      sourceCell bBatch batchOut batch < bBatch.prod) := by
  have batchesFit := (batches_lt fits).1
  rcases broadcastBatchShape_broadcasts multiplies.batches with ⟨leftBroadcasts, rightBroadcasts⟩
  constructor
  · refine ⟨broadcastBatchOffset_eq leftBroadcasts nonzero ?_, ?_⟩
    · exact Nat.lt_of_le_of_lt (broadcasts_prod_le leftBroadcasts nonzero) batchesFit
    · exact sourceCell_lt leftBroadcasts nonzero batch
  · refine ⟨broadcastBatchOffset_eq rightBroadcasts nonzero ?_, ?_⟩
    · exact Nat.lt_of_le_of_lt (broadcasts_prod_le rightBroadcasts nonzero) batchesFit
    · exact sourceCell_lt rightBroadcasts nonzero batch

/-- The components of a batch of a source wrap nowhere. -/
theorem valueFits_srcIndices {srcBatch : List Nat} (broadcasts : Broadcasts srcBatch.reverse batchOut.reverse)
    (fits : batchOut.prod < usize) (nonzero : 0 ∉ batchOut) (batch : Nat) :
    ValueFits usize (places srcBatch (srcIndices (digits batch batchOut.reverse).reverse srcBatch)) 0 1 := by
  rw [places_srcIndices (broadcasts.length_le batch), List.reverse_reverse]
  apply Tensor.valueFits_projected broadcasts
  · rwa [List.mem_reverse]
  · rw [List.prod_reverse]
    exact Nat.lt_of_le_of_lt (broadcasts_prod_le broadcasts nonzero) fits

theorem product_of_fits (fits : ProductFits usize (batchOut ++ [rows, cols])) :
    product batchOut = batchOut.prod := by
  rw [product_eq]
  exact Nat.mod_eq_of_lt (batches_lt fits).1

theorem Multiplies.fits (multiplies : Multiplies left right aBatch bBatch batchOut rows inner cols)
    (leftSized : left.WellSized) (rightSized : right.WellSized)
    (noneWraps : NoneWraps bBatch batchOut rows inner cols) :
    MatmulFits aBatch bBatch batchOut rows inner cols := by
  rcases broadcastBatchShape_broadcasts multiplies.batches with ⟨leftBroadcasts, rightBroadcasts⟩
  have batchesFit := (batches_lt noneWraps.1).1
  constructor
  · exact noneWraps.1
  · intro batch _ outIndices unraveled
    rcases unravelIndex_eq_ok.mp unraveled with ⟨nonzero, rfl⟩
    exact ⟨valueFits_srcIndices leftBroadcasts batchesFit nonzero batch,
      valueFits_srcIndices rightBroadcasts batchesFit nonzero batch⟩
  · intro batch inside aBatchIdx bBatchIdx leftIdx rightIdx
    have nonzero := Tensor.nonzero_of_cell inside
    rcases multiplies.batchOffsets noneWraps.1 nonzero batch with
      ⟨⟨leftFound, leftInside⟩, rightFound, rightInside⟩
    cases leftFound.symm.trans leftIdx
    cases rightFound.symm.trans rightIdx
    rw [product_of_fits noneWraps.1] at inside
    exact multiplies.batchFits leftSized rightSized noneWraps nonzero inside leftInside rightInside

/-- Where none wraps, the product is computed within the buffers. -/
theorem Multiplies.exists_ok (multiplies : Multiplies left right aBatch bBatch batchOut rows inner cols)
    (leftSized : left.WellSized) (rightSized : right.WellSized)
    (noneWraps : NoneWraps bBatch batchOut rows inner cols) :
    exists result, batchedMatmul left right = .ok result ∧
      result.shape = batchOut ++ [rows, cols] ∧ result.cells = product (batchOut ++ [rows, cols]) := by
  apply Ends.exists_ok
  apply multiplies.ends
  intro aVals bVals leftLength rightLength
  apply batchProducts_ends_of
  intro batch out inside sized
  have nonzero := Tensor.nonzero_of_cell inside
  rcases multiplies.batchOffsets noneWraps.1 nonzero batch with
    ⟨⟨leftFound, leftInside⟩, rightFound, rightInside⟩
  rw [product_of_fits noneWraps.1] at inside
  have length : product (batchOut ++ [rows, cols]) = batchOut.prod * rows * cols := by
    rw [product_eq, Nat.mod_eq_of_lt noneWraps.1.prod_lt, prod_matrices]
  rw [length] at sized ⊢
  have fits := multiplies.batchFits leftSized rightSized noneWraps nonzero inside leftInside rightInside
  apply batchProduct_ok fits leftFound rightFound leftInside ?_ rightInside ?_ inside sized
  · rw [leftLength, ← leftSized, multiplies.leftShape, prod_matrices]
  · rw [rightLength, ← rightSized, multiplies.rightShape, prod_matrices]

/-- Where there is a cell, no product on the way wraps. -/
theorem noneWraps_of_cell (small : (batchOut ++ [rows, cols]).prod < usize) (nonzero : 0 ∉ batchOut)
    (someRows : 0 < rows) (someCols : 0 < cols) : NoneWraps bBatch batchOut rows inner cols := by
  have noZero : 0 ∉ batchOut ++ [rows, cols] := by
    intro zero
    rcases List.mem_append.mp zero with outer | inner
    · exact nonzero outer
    · simp only [List.mem_cons, List.not_mem_nil, or_false] at inner
      omega
  refine ⟨productFits_of_pos noZero small, ?_⟩
  intro _ noColumns
  omega

/-- A product of matrices of which the size does not wrap is computed within the buffers. -/
theorem Multiplies.exists_ok_of_small
    (multiplies : Multiplies left right aBatch bBatch batchOut rows inner cols)
    (leftSized : left.WellSized) (rightSized : right.WellSized)
    (small : (batchOut ++ [rows, cols]).prod < usize) :
    exists result, batchedMatmul left right = .ok result ∧
      result.shape = batchOut ++ [rows, cols] ∧ result.cells = product (batchOut ++ [rows, cols]) := by
  by_cases empty : rows = 0 ∨ cols = 0
  · apply Ends.exists_ok
    apply multiplies.ends
    intro aVals bVals _ _
    apply batchProducts_ends_of
    intro batch out inside sized
    exact batchProduct_empty sized (Tensor.nonzero_of_cell inside) empty
  · by_cases nonzero : 0 ∈ batchOut
    · apply Ends.exists_ok
      apply multiplies.ends
      intro aVals bVals _ _
      apply batchProducts_ends_of
      intro batch out inside sized
      exact absurd nonzero (Tensor.nonzero_of_cell inside)
    · have someRows : 0 < rows := Nat.pos_of_ne_zero (fun none => empty (Or.inl none))
      have someCols : 0 < cols := Nat.pos_of_ne_zero (fun none => empty (Or.inr none))
      exact multiplies.exists_ok leftSized rightSized (noneWraps_of_cell small nonzero someRows someCols)

theorem Multiplies.unique (multiplies : Multiplies left right aBatch bBatch batchOut rows inner cols)
    {otherA otherB otherOut : List Nat} {otherRows otherInner otherCols : Nat}
    (others : Multiplies left right otherA otherB otherOut otherRows otherInner otherCols) :
    (otherA, otherB, otherOut, otherRows, otherInner, otherCols) =
      (aBatch, bBatch, batchOut, rows, inner, cols) := by
  cases (matrixDims_eq_some.mpr others.leftShape).symm.trans (matrixDims_eq_some.mpr multiplies.leftShape)
  cases (matrixDims_eq_some.mpr others.rightShape).symm.trans
    (matrixDims_eq_some.mpr multiplies.rightShape)
  cases others.batches.symm.trans multiplies.batches
  rfl

theorem Multiplies.not_refused (multiplies : Multiplies left right aBatch bBatch batchOut rows inner cols) :
    ¬ exists error, batchedMatmul left right = .error (.error error) := by
  intro refused
  rcases refused with ⟨error, refused⟩
  have ends := multiplies.ends_or_panics
  rw [refused] at ends
  exact ends

/-- A product of matrices has the right size if and only if it is refused, or that
size does not wrap. -/
theorem matmulSized_iff (leftSized : left.WellSized) (rightSized : right.WellSized) :
    MatmulSized left right <-> forall aBatch bBatch batchOut rows inner cols,
      Multiplies left right aBatch bBatch batchOut rows inner cols ->
        (batchOut ++ [rows, cols]).prod < usize := by
  constructor
  · intro sized aBatch bBatch batchOut rows inner cols multiplies
    rcases sized with refused | counted
    · exact absurd refused multiplies.not_refused
    · rcases counted with ⟨_, _, _, _, _, _, result, others, _, shaped, wellSized⟩
      cases multiplies.unique others
      rw [← shaped]
      exact wellSized.prod_lt
  · intro small
    rcases multiplies_or_error left right with found | refused
    · rcases found with ⟨aBatch, bBatch, batchOut, rows, inner, cols, multiplies⟩
      have small := small _ _ _ _ _ _ multiplies
      rcases multiplies.exists_ok_of_small leftSized rightSized small with ⟨result, done, shaped, cells⟩
      right
      refine ⟨aBatch, bBatch, batchOut, rows, inner, cols, result, multiplies, done, shaped, ?_⟩
      rw [Tensor.WellSized, shaped, cells, product_eq, Nat.mod_eq_of_lt small]
    · exact Or.inl refused

/-- The last batch of the output takes the last batch of the right operand. -/
theorem Multiplies.noneWraps (multiplies : Multiplies left right aBatch bBatch batchOut rows inner cols)
    (fits : MatmulFits aBatch bBatch batchOut rows inner cols) :
    NoneWraps bBatch batchOut rows inner cols := by
  refine ⟨fits.length, ?_⟩
  intro nonzero _
  have rightBroadcasts := (broadcastBatchShape_broadcasts multiplies.batches).2
  have positive := prod_pos nonzero
  have inside : batchOut.prod - 1 < product batchOut := by
    rw [product_of_fits fits.length]
    omega
  rcases multiplies.batchOffsets fits.length nonzero (batchOut.prod - 1) with
    ⟨⟨leftFound, _⟩, rightFound, _⟩
  have last := (fits.offsets _ inside _ _ leftFound rightFound).right 2
  rw [sourceCell_last rightBroadcasts nonzero] at last
  simpa using last

/-- A product of matrices counts its cells if and only if it is refused, or none of
the products of its dimensions wraps. -/
theorem matmulCounts_iff (leftSized : left.WellSized) (rightSized : right.WellSized) :
    MatmulCounts left right <-> forall aBatch bBatch batchOut rows inner cols,
      Multiplies left right aBatch bBatch batchOut rows inner cols ->
        NoneWraps bBatch batchOut rows inner cols := by
  constructor
  · intro counts aBatch bBatch batchOut rows inner cols multiplies
    rcases counts with refused | counted
    · exact absurd refused multiplies.not_refused
    · rcases counted with ⟨_, _, _, _, _, _, _, others, _, _, _, fits⟩
      cases multiplies.unique others
      exact multiplies.noneWraps fits
  · intro noneWraps
    rcases multiplies_or_error left right with found | refused
    · rcases found with ⟨aBatch, bBatch, batchOut, rows, inner, cols, multiplies⟩
      have noneWraps := noneWraps _ _ _ _ _ _ multiplies
      rcases multiplies.exists_ok leftSized rightSized noneWraps with ⟨result, done, shaped, cells⟩
      right
      refine ⟨aBatch, bBatch, batchOut, rows, inner, cols, result, multiplies, done, shaped, ?_,
        multiplies.fits leftSized rightSized noneWraps⟩
      rw [Tensor.WellSized, shaped, cells, product_eq, Nat.mod_eq_of_lt noneWraps.1.prod_lt]
    · exact Or.inl refused

end Counts

/-- Broadcasts and products of matrices have the right size if and only if they are
refused, or the product of the output's dimensions does not wrap.  They are also
computed without wrapping if and only if none of the products on the way wraps. -/
theorem counts_iff {source left right : Tensor elements} (sourceSized : source.WellSized)
    (leftSized : left.WellSized) (rightSized : right.WellSized) :
    (forall shape,
      (source.BroadcastSized shape <-> canBroadcastTo source.shape shape = false ∨ shape.prod < usize) ∧
      (source.BroadcastCounts shape <->
        canBroadcastTo source.shape shape = false ∨ ProductFits usize shape)) ∧
    (MatmulSized left right <-> forall aBatch bBatch batchOut rows inner cols,
      Multiplies left right aBatch bBatch batchOut rows inner cols ->
        (batchOut ++ [rows, cols]).prod < usize) ∧
    (MatmulCounts left right <-> forall aBatch bBatch batchOut rows inner cols,
      Multiplies left right aBatch bBatch batchOut rows inner cols ->
        NoneWraps bBatch batchOut rows inner cols) := by
  refine ⟨?_, matmulSized_iff leftSized rightSized, matmulCounts_iff leftSized rightSized⟩
  intro shape
  exact ⟨Tensor.broadcastSized_iff sourceSized, Tensor.broadcastCounts_iff sourceSized⟩

theorem single_built : Elements.rational.arrayError [1] 1 = none := by decide +kernel

/-- A tensor of one element. -/
def single : Tensor Elements.rational := .f64 ⟨[1], [.finite 1], single_built⟩

theorem wide_built : Elements.rational.arrayError [4294967296, 0] 0 = none := by decide +kernel

/-- Lines of no elements. -/
def wide : Tensor Elements.rational := .f64 ⟨[4294967296, 0], [], wide_built⟩

theorem tall_built : Elements.rational.arrayError [0, 4294967296] 0 = none := by decide +kernel

/-- No lines of elements. -/
def tall : Tensor Elements.rational := .f64 ⟨[0, 4294967296], [], tall_built⟩

theorem counts_single : single.BroadcastCounts [3, 1] ∧ ¬ MatmulSized wide tall := by
  have counts := counts_iff (show single.WellSized from rfl) (show wide.WellSized from rfl)
    (show tall.WellSized from rfl)
  constructor
  · apply (counts.1 [3, 1]).2.mpr
    right
    apply productFits_of_pos
    · decide
    · decide +kernel
  · intro counted
    have multiplies : Multiplies wide tall [] [] [] 4294967296 0 4294967296 := ⟨rfl, rfl, rfl, rfl⟩
    have cells := counts.2.1.mp counted _ _ _ _ _ _ multiplies
    revert cells
    decide +kernel

/-- A loop of which the first round fails. -/
theorem foldlM_range_error {S E : Type} {step : S -> Nat -> Except E S} {start : S} {error : E}
    (fails : step start 0 = .error error) (count : Nat) :
    (List.range (count + 1)).foldlM step start = .error error := by
  rw [List.range_succ_eq_map, List.foldlM_cons, fails]
  rfl

/-- Lines by columns which wrap to no cells at all: the first cell is out of bounds. -/
theorem batchProducts_panics (elements : Elements) {lines columns : Nat}
    (wraps : times (times 1 (lines + 1)) (columns + 1) = 0) :
    exists panic, batchProducts ([] : List elements.F64) [] (lines + 1) 0 (columns + 1) [] [] [] =
      .error (.panic panic) := by
  have written : exists panic, assign ([] : List elements.F64)
      (plus (plus (times (times 0 (lines + 1)) (columns + 1)) (times 0 (columns + 1))) 0) elements.zero =
        .error (.panic panic) := ⟨_, if_neg (Nat.not_lt_zero _)⟩
  rcases written with ⟨panic, written⟩
  refine ⟨panic, ?_⟩
  have one : product [] = 1 := rfl
  unfold batchProducts
  rw [one, wraps]
  apply foldlM_range_error ?_ 0
  apply foldlM_range_error ?_ lines
  apply foldlM_range_error ?_ columns
  exact written

/-- One element broadcasts to a shape of more cells than there are numbers, with no
cells; and a product of matrices without elements writes beyond its output. -/
theorem not_counts_single : (exists result, single.broadcast [4294967296, 4294967296] = .ok result ∧
      result.shape.prod = 18446744073709551616 ∧ result.cells = 0) ∧
    wide.WellSized ∧ tall.WellSized ∧ exists panic, batchedMatmul wide tall = .error (.panic panic) := by
  refine ⟨?_, rfl, rfl, ?_⟩
  · have sized : single.WellSized := rfl
    have broadcasts : canBroadcastTo single.shape [4294967296, 4294967296] = true := rfl
    rcases Tensor.broadcast_eq_ok sized broadcasts with ⟨result, done, shaped, cells⟩
    refine ⟨result, done, ?_, ?_⟩
    · rw [shaped]
      rfl
    · rw [cells]
      decide +kernel
  · have multiplies : Multiplies wide tall [] [] [] (4294967295 + 1) 0 (4294967295 + 1) :=
      ⟨rfl, rfl, rfl, rfl⟩
    rcases multiplies.eq_bind with ⟨aVals, bVals, write, leftLength, rightLength, unfolded, _⟩
    cases List.eq_nil_of_length_eq_zero leftLength
    cases List.eq_nil_of_length_eq_zero rightLength
    have wraps : times (times 1 (4294967295 + 1)) (4294967295 + 1) = 0 := by decide +kernel
    rcases batchProducts_panics Elements.rational wraps with ⟨panic, products⟩
    rw [unfolded, products]
    exact ⟨panic, rfl⟩

end Tensors
end TransactionalCollection
