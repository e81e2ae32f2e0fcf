import TransactionalCollection.Tensors.Counting
import TransactionalCollection.Tensors.Product

namespace TransactionalCollection
namespace Tensors

open Execution Native Numeric

/-!
# The matrices of a batched product

The matrix of each batch of the product is that of the matrices of the operands at
the batches which it is projected to.  Where some dimension is zero there is nothing
to compare; elsewhere no offset wraps, and the cells are written one after another.
-/

variable {elements : Elements} {left right : Tensor elements} {aBatch bBatch batchOut : List Nat}
  {rows inner cols : Nat} {aVals bVals : List elements.F64}

/-! ## Values -/

/-- The product of a row and a column of one batch. -/
theorem rowTimesColumn_eq {batch aBatchIdx bBatchIdx aCount bCount row col : Nat}
    (fits : BatchFits rows inner cols batch aBatchIdx bBatchIdx) (rowInside : row < rows) (colInside : col < cols)
    (leftInside : aBatchIdx < aCount) (leftLength : aVals.length = aCount * rows * inner)
    (rightInside : bBatchIdx < bCount) (rightLength : bVals.length = bCount * inner * cols) :
    rowTimesColumn aVals bVals inner cols (times (times aBatchIdx rows) inner)
        (times (times bBatchIdx inner) cols) row col =
      .ok (matrixCell aVals bVals inner cols (aBatchIdx * rows * inner) (bBatchIdx * inner * cols) row col) := by
  unfold rowTimesColumn matrixCell
  apply foldlM_eq_ok_foldl
  intro sum k member
  have kInside := List.mem_range.mp member
  rcases (fits.cells row col rowInside colInside).2 k kInside with ⟨leftFits, rightFits⟩
  have leftCell := nested_lt leftInside rowInside kInside
  have rightCell := nested_lt rightInside kInside colInside
  rw [← leftLength] at leftCell
  rw [← rightLength] at rightCell
  rw [offset_eq fits.left leftFits, offset_eq fits.right rightFits, indexed_eq_getD leftCell elements.zero,
    indexed_eq_getD rightCell elements.zero]
  rfl

/-- The cells of the product, by batch, row and column. -/
def batchCell (aVals bVals : List elements.F64) (aBatch bBatch batchOut : List Nat) (rows inner cols : Nat)
    (batch row col : Nat) : elements.F64 :=
  matrixCell aVals bVals inner cols (sourceCell aBatch batchOut batch * rows * inner)
    (sourceCell bBatch batchOut batch * inner * cols) row col

/-- One batch fills its block of the output. -/
theorem batchProduct_filled (multiplies : Multiplies left right aBatch bBatch batchOut rows inner cols)
    (leftSized : left.WellSized) (rightSized : right.WellSized)
    (small : (batchOut ++ [rows, cols]).prod < usize) (leftLength : aVals.length = left.shape.prod)
    (rightLength : bVals.length = right.shape.prod) {batch : Nat} {out : List elements.F64}
    (inside : batch < product batchOut)
    (filled : Filled (placed (batchCell aVals bVals aBatch bBatch batchOut rows inner cols) rows cols)
      (batchOut ++ [rows, cols]).prod (batch * rows * cols) out) :
    Ends (Filled (placed (batchCell aVals bVals aBatch bBatch batchOut rows inner cols) rows cols)
      (batchOut ++ [rows, cols]).prod ((batch + 1) * rows * cols)) never
      (batchProduct aVals bVals rows inner cols aBatch bBatch batchOut out batch) := by
  have nonzero := Tensor.nonzero_of_cell inside
  have next : (batch + 1) * rows * cols = batch * rows * cols + rows * cols := by ring
  rw [multiplies.leftShape, prod_matrices] at leftLength
  rw [multiplies.rightShape, prod_matrices] at rightLength
  rcases broadcastBatchShape_broadcasts multiplies.batches with ⟨leftBroadcasts, rightBroadcasts⟩
  unfold batchProduct
  rw [broadcastBatchOffset_eq_mod leftBroadcasts nonzero, broadcastBatchOffset_eq_mod rightBroadcasts nonzero,
    next]
  apply Filled.lines filled
  intro row col current rowInside colInside sized
  -- There is a cell, so that no dimension is zero and no offset wraps.
  have noneWraps : NoneWraps bBatch batchOut rows inner cols :=
    noneWraps_of_cell small nonzero (Nat.zero_lt_of_lt rowInside) (Nat.zero_lt_of_lt colInside)
  rcases multiplies.batchOffsets noneWraps.1 nonzero batch with ⟨⟨leftFound, leftInside⟩, rightFound, rightInside⟩
  rw [broadcastBatchOffset_eq_mod leftBroadcasts nonzero] at leftFound
  rw [broadcastBatchOffset_eq_mod rightBroadcasts nonzero] at rightFound
  rw [product_of_fits noneWraps.1] at inside
  have fits := multiplies.batchFits leftSized rightSized noneWraps nonzero inside leftInside rightInside
  have cellFits := (fits.cells row col rowInside colInside).1
  have within := nested_lt inside rowInside colInside
  rw [← prod_matrices] at within
  rw [Except.ok.inj leftFound, Except.ok.inj rightFound, placed_eq _ rowInside colInside,
    rowTimesColumn_eq fits rowInside colInside leftInside leftLength rightInside rightLength,
    offset_eq fits.out cellFits]
  refine ⟨within, ?_⟩
  apply if_pos
  rwa [sized]

/-- All batches fill the output. -/
theorem batchProducts_eq (multiplies : Multiplies left right aBatch bBatch batchOut rows inner cols)
    (leftSized : left.WellSized) (rightSized : right.WellSized)
    (small : (batchOut ++ [rows, cols]).prod < usize) (leftLength : aVals.length = left.shape.prod)
    (rightLength : bVals.length = right.shape.prod) :
    batchProducts aVals bVals rows inner cols aBatch bBatch batchOut =
      .ok ((List.range (batchOut ++ [rows, cols]).prod).map
        (placed (batchCell aVals bVals aBatch bBatch batchOut rows inner cols) rows cols)) := by
  have allocated : times (times (product batchOut) rows) cols = (batchOut ++ [rows, cols]).prod := by
    rw [← Nat.mod_eq_of_lt small, ← product_eq]
    unfold product wrappingProduct
    rw [List.foldl_append]
    rfl
  have filled : Ends (Filled (placed (batchCell aVals bVals aBatch bBatch batchOut rows inner cols) rows cols)
      (batchOut ++ [rows, cols]).prod (product batchOut * rows * cols)) never
      (batchProducts aVals bVals rows inner cols aBatch bBatch batchOut) := by
    unfold batchProducts
    rw [allocated]
    apply Ends.foldlM_range (fun batch => Filled _ _ (batch * rows * cols))
    · rw [Nat.zero_mul, Nat.zero_mul]
      exact Filled.empty List.length_replicate
    · intro batch out inside held
      exact batchProduct_filled multiplies leftSized rightSized small leftLength rightLength inside held
  rcases filled.exists_ok with ⟨out, done, held⟩
  have full : product batchOut * rows * cols = (batchOut ++ [rows, cols]).prod := by
    rw [prod_matrices] at small ⊢
    rcases Nat.eq_zero_or_pos rows with noRows | someRows
    · rw [noRows, Nat.mul_zero, Nat.mul_zero]
    · rcases Nat.eq_zero_or_pos cols with noCols | someCols
      · rw [noCols, Nat.mul_zero, Nat.mul_zero]
      · have batches : batchOut.prod < usize := by
          apply Nat.lt_of_le_of_lt ?_ small
          rw [Nat.mul_assoc]
          exact Nat.le_mul_of_pos_right _ (Nat.mul_pos someRows someCols)
        rw [product_eq, Nat.mod_eq_of_lt batches]
  rw [full] at held
  rw [done, held.eq_map]

/-- The product holds the values of its cells, in the type of the left operand. -/
theorem batchedMatmul_eq (multiplies : Multiplies left right aBatch bBatch batchOut rows inner cols)
    (leftSized : left.WellSized) (rightSized : right.WellSized)
    (small : (batchOut ++ [rows, cols]).prod < usize) (leftRead : left.valuesF64 = .ok aVals)
    (rightRead : right.valuesF64 = .ok bVals) : batchedMatmul left right =
      (left.fromF64Like (batchOut ++ [rows, cols]) ((List.range (batchOut ++ [rows, cols]).prod).map
        (placed (batchCell aVals bVals aBatch bBatch batchOut rows inner cols) rows cols))).mapError
          (fun _ => .error (.matmulShapeMismatch inner inner)) := by
  rw [multiplies.eq_products leftRead rightRead, batchProducts_eq multiplies leftSized rightSized small
    (leftSized.length leftRead) (rightSized.length rightRead)]
  rfl

/-! ## Matrices -/

namespace Tensor

variable {tensor matrix : Tensor elements} {batch coord : List Nat} {row col : Nat}

/-- The rows and columns of a tensor at the coordinate of a batch. -/
structure IsMatrix (tensor : Tensor elements) (coord : List Nat) (rows cols : Nat) (matrix : Tensor elements) :
    Prop where
  dtype : matrix.dtypeTag = tensor.dtypeTag
  shape : matrix.shape = [rows, cols]
  wellSized : matrix.WellSized
  cells : forall row col, row < rows -> col < cols ->
    matrix.readValue [row, col] = tensor.readValue (coord ++ [row, col])

theorem within_append (within : Within batch coord) (rowInside : row < rows) (colInside : col < cols) :
    Within (batch ++ [rows, cols]) (coord ++ [row, col]) :=
  List.rel_append within (.cons rowInside (.cons colInside .nil))

theorem value_matrix (width : coord.length = batch.length) (rows cols row col : Nat) :
    value (places (batch ++ [rows, cols]) (coord ++ [row, col])) =
      value (places batch coord) * rows * cols + row * cols + col := by
  have split : places (batch ++ [rows, cols]) (coord ++ [row, col]) =
      (cols, col) :: (rows, row) :: places batch coord := by
    rw [places, List.zip_append width.symm, List.reverse_append]
    rfl
  rw [split, value, value]
  ring

/-- The element at a coordinate, which a tensor has. -/
theorem readValue_of_component {element : Component elements} (wellSized : tensor.WellSized)
    (within : Within tensor.shape coord)
    (found : tensor.component (value (places tensor.shape coord)) = some element) :
    tensor.readValue coord = .ok element := (readValue_eq_ok wellSized within).mpr found

/-- A block of the cells of a tensor. -/
theorem exists_block (tensor : Tensor elements) {dims : List Nat} {start : Nat} (ranked : dims ≠ [])
    (inside : start + dims.prod ≤ tensor.cells) : exists block : Tensor elements,
      block.dtypeTag = tensor.dtypeTag ∧ block.shape = dims ∧ block.WellSized ∧
        forall cell, cell < dims.prod -> block.component cell = tensor.component (start + cell) := by
  have small : dims.prod < usize := by
    apply Nat.lt_of_le_of_lt (Nat.le_trans (Nat.le_add_left _ start) inside)
    rw [tensor.cells_eq_size]
    exact product_lt tensor.shape
  have sized : product dims = dims.prod := by rw [product_eq, Nat.mod_eq_of_lt small]
  have taken : forall {A : Type} (values : List A), start + dims.prod ≤ values.length ->
      ((values.drop start).take dims.prod).length = product dims ∧
        forall cell, cell < dims.prod -> ((values.drop start).take dims.prod)[cell]? = values[start + cell]? := by
    intro A values bound
    constructor
    · rw [List.length_take, List.length_drop, sized]
      omega
    · intro cell below
      rw [List.getElem?_take_of_lt below, List.getElem?_drop]
  cases tensor with
  | f32 array =>
      rcases taken array.values inside with ⟨length, held⟩
      refine ⟨.f32 ⟨dims, _, (elements.arrayError_eq_none_iff ranked).mpr length⟩, rfl, rfl, ?_, ?_⟩
      · exact (length.trans sized).symm
      · intro cell below
        exact congrArg (Option.map Component.f32) (held cell below)
  | f64 array =>
      rcases taken array.values inside with ⟨length, held⟩
      refine ⟨.f64 ⟨dims, _, (elements.arrayError_eq_none_iff ranked).mpr length⟩, rfl, rfl, ?_, ?_⟩
      · exact (length.trans sized).symm
      · intro cell below
        exact congrArg (Option.map Component.f64) (held cell below)
  | u64 array =>
      rcases taken array.values inside with ⟨length, held⟩
      refine ⟨.u64 ⟨dims, _, (elements.arrayError_eq_none_iff ranked).mpr length⟩, rfl, rfl, ?_, ?_⟩
      · exact (length.trans sized).symm
      · intro cell below
        exact congrArg (Option.map Component.u64) (held cell below)

/-- A matrix is found by its cells. -/
theorem IsMatrix.of_components (wellSized : tensor.WellSized) (shape : tensor.shape = batch ++ [rows, cols])
    (within : Within batch coord) (matrixSized : matrix.WellSized) (dtype : matrix.dtypeTag = tensor.dtypeTag)
    (shaped : matrix.shape = [rows, cols])
    (components : forall cell, cell < rows * cols -> matrix.component cell =
      tensor.component (value (places batch coord) * rows * cols + cell)) :
    tensor.IsMatrix coord rows cols matrix := by
  refine ⟨dtype, shaped, matrixSized, ?_⟩
  intro row col rowInside colInside
  have inside := line_lt rowInside colInside
  have present : row * cols + col < matrix.cells := by
    rwa [← matrixSized, shaped, prod_two]
  rcases component_isSome_iff.mpr present with ⟨element, found⟩
  have flat : value (places [rows, cols] [row, col]) = row * cols + col := by
    have alone : value (places ([] ++ [rows, cols]) ([] ++ [row, col])) =
        0 * rows * cols + row * cols + col := value_matrix rfl rows cols row col
    rwa [Nat.zero_mul, Nat.zero_mul, Nat.zero_add] at alone
  have whole := value_matrix within.length_eq rows cols row col
  have here : matrix.readValue [row, col] = .ok element := by
    apply readValue_of_component matrixSized
    · rw [shaped]
      exact .cons rowInside (.cons colInside .nil)
    · rw [shaped, flat, found]
  have there : tensor.readValue (coord ++ [row, col]) = .ok element := by
    apply readValue_of_component wellSized
    · rw [shape]
      exact within_append within rowInside colInside
    · rw [shape, whole, Nat.add_assoc, ← components _ inside, found]
  rw [here, there]

/-- The matrix of each batch. -/
theorem exists_matrix (wellSized : tensor.WellSized) (shape : tensor.shape = batch ++ [rows, cols])
    (within : Within batch coord) : exists matrix, tensor.IsMatrix coord rows cols matrix ∧
      forall cell, cell < rows * cols -> matrix.component cell =
        tensor.component (value (places batch coord) * rows * cols + cell) := by
  have inside : value (places batch coord) * rows * cols + [rows, cols].prod ≤ tensor.cells := by
    rw [← wellSized, shape, prod_matrices, prod_two]
    calc value (places batch coord) * rows * cols + rows * cols
        = (value (places batch coord) + 1) * (rows * cols) := by ring
      _ ≤ batch.prod * (rows * cols) := Nat.mul_le_mul_right _ within.value_lt
      _ = batch.prod * rows * cols := by ring
  rcases tensor.exists_block (by simp) inside with ⟨block, dtype, shaped, sized, components⟩
  rw [prod_two] at components
  exact ⟨block, .of_components wellSized shape within sized dtype shaped components, components⟩

theorem getD_of_component {values others : List elements.F64} {cell other : Nat}
    (read : tensor.valuesF64 = .ok values) (matrixRead : matrix.valuesF64 = .ok others)
    (same : matrix.component cell = tensor.component other) :
    others.getD cell elements.zero = values.getD other elements.zero := by
  rw [List.getD_eq_getElem?_getD, List.getD_eq_getElem?_getD, valuesF64_getElem? read,
    valuesF64_getElem? matrixRead, same]

/-- Its elements are those of its block. -/
theorem exists_matrix_values {values : List elements.F64} (wellSized : tensor.WellSized)
    (shape : tensor.shape = batch ++ [rows, cols]) (within : Within batch coord)
    (read : tensor.valuesF64 = .ok values) : exists matrix others,
      tensor.IsMatrix coord rows cols matrix ∧ matrix.valuesF64 = .ok others ∧
      forall cell, cell < rows * cols -> others.getD cell elements.zero =
        values.getD (value (places batch coord) * rows * cols + cell) elements.zero := by
  rcases exists_matrix wellSized shape within with ⟨matrix, is, components⟩
  rcases matrix.valuesF64_eq_ok with ⟨others, matrixRead, _⟩
  refine ⟨matrix, others, is, matrixRead, ?_⟩
  intro cell inside
  exact getD_of_component read matrixRead (components cell inside)

end Tensor

/-- A cell of the product of two matrices is that of the batch they are of. -/
theorem matrixCell_congr {aMatrixVals bMatrixVals : List elements.F64} {aStart bStart row col : Nat}
    (leftSame : forall cell, cell < rows * inner ->
      aMatrixVals.getD cell elements.zero = aVals.getD (aStart + cell) elements.zero)
    (rightSame : forall cell, cell < inner * cols ->
      bMatrixVals.getD cell elements.zero = bVals.getD (bStart + cell) elements.zero)
    (rowInside : row < rows) (colInside : col < cols) :
    matrixCell aMatrixVals bMatrixVals inner cols 0 0 row col =
      matrixCell aVals bVals inner cols aStart bStart row col := by
  unfold matrixCell
  apply List.foldl_ext
  intro sum k member
  have kInside := List.mem_range.mp member
  rw [Nat.zero_add, Nat.zero_add, leftSame _ (line_lt rowInside kInside),
    rightSame _ (line_lt kInside colInside), Nat.add_assoc, Nat.add_assoc]

/-- Matrices are the batches of themselves. -/
theorem matmul_of_single_batch (multiplies : Multiplies left right [] [] [] rows inner cols)
    (leftSized : left.WellSized) (rightSized : right.WellSized) (small : ([] ++ [rows, cols]).prod < usize)
    (leftRead : left.valuesF64 = .ok aVals) (rightRead : right.valuesF64 = .ok bVals) : left.matmul right =
      (left.fromF64Like ([] ++ [rows, cols]) ((List.range ([] ++ [rows, cols]).prod).map
        (placed (batchCell aVals bVals [] [] [] rows inner cols) rows cols))).mapError Failure.error := by
  have starts : batchCell aVals bVals [] [] [] rows inner cols =
      (fun _ row col => matrixCell aVals bVals inner cols 0 0 row col) := by
    funext batch row col
    have first : sourceCell [] [] batch = 0 := rfl
    rw [batchCell, first, Nat.zero_mul, Nat.zero_mul]
    simp only [Nat.zero_mul]
  rw [List.nil_append, prod_two] at small
  rw [Tensor.matmul_eq multiplies.leftShape multiplies.rightShape leftSized rightSized leftRead rightRead small,
    Tensor.matrixValues, starts, List.nil_append, prod_two]

theorem exists_line {cell height width : Nat} (inside : cell < height * width) : exists line item,
    line < height ∧ item < width ∧ cell = line * width + item := by
  have someWidth : 0 < width := by
    apply Nat.pos_of_ne_zero
    intro zero
    rw [zero, Nat.mul_zero] at inside
    cases inside
  refine ⟨cell / width, cell % width, ?_, Nat.mod_lt _ someWidth, ?_⟩
  · apply Nat.div_lt_of_lt_mul
    rwa [Nat.mul_comm]
  · rw [Nat.mul_comm, Nat.div_add_mod]

/-- Integers are not multiplied. -/
theorem Multiplies.isFloat (multiplies : Multiplies left right aBatch bBatch batchOut rows inner cols) :
    left.IsFloat := by
  intro tag
  cases left with
  | f32 array => simp [Tensor.dtypeTag] at tag
  | f64 array => simp [Tensor.dtypeTag] at tag
  | u64 array => cases multiplies.dtypes

/-- Of the values of the cells, each batch is the product of the matrices it is projected to. -/
theorem exists_batch (multiplies : Multiplies left right aBatch bBatch batchOut rows inner cols)
    (leftSized : left.WellSized) (rightSized : right.WellSized) (small : (batchOut ++ [rows, cols]).prod < usize)
    (leftRead : left.valuesF64 = .ok aVals) (rightRead : right.valuesF64 = .ok bVals) {result : Tensor elements}
    (written : left.fromF64Like (batchOut ++ [rows, cols]) ((List.range (batchOut ++ [rows, cols]).prod).map
      (placed (batchCell aVals bVals aBatch bBatch batchOut rows inner cols) rows cols)) = .ok result)
    {coord : List Nat} (within : Within batchOut coord) : exists aCoord bCoord aMatrix bMatrix matrix,
      projectBroadcastIndex coord aBatch = .ok aCoord ∧ projectBroadcastIndex coord bBatch = .ok bCoord ∧
      left.IsMatrix aCoord rows inner aMatrix ∧ right.IsMatrix bCoord inner cols bMatrix ∧
      aMatrix.matmul bMatrix = .ok matrix ∧ result.IsMatrix coord rows cols matrix := by
  rcases Tensor.fromF64Like_shape written with ⟨shaped, cells⟩
  rcases Tensor.fromF64Like_component multiplies.isFloat written with ⟨dtype, components⟩
  have sized : result.WellSized := by
    rw [Tensor.WellSized, shaped, cells, List.length_map, List.length_range]
  rcases broadcastBatchShape_broadcasts multiplies.batches with ⟨leftBroadcasts, rightBroadcasts⟩
  rcases within.projected leftBroadcasts with ⟨aCoord, aProjected, aWithin, aCell⟩
  rcases within.projected rightBroadcasts with ⟨bCoord, bProjected, bWithin, bCell⟩
  rcases Tensor.exists_matrix_values leftSized multiplies.leftShape aWithin leftRead with
    ⟨aMatrix, aMatrixVals, aIs, aRead, leftSame⟩
  rcases Tensor.exists_matrix_values rightSized multiplies.rightShape bWithin rightRead with
    ⟨bMatrix, bMatrixVals, bIs, bRead, rightSame⟩
  rw [aCell] at leftSame
  rw [bCell] at rightSame
  have cellsSmall : rows * cols < usize := by
    apply Nat.lt_of_le_of_lt ?_ small
    rw [prod_matrices, Nat.mul_assoc]
    exact Nat.le_mul_of_pos_left _ (Nat.zero_lt_of_lt within.value_lt)
  have aFloat : aMatrix.IsFloat := by rw [Tensor.IsFloat, aIs.dtype]; exact multiplies.isFloat
  rcases Tensor.matmul_component aIs.shape bIs.shape aIs.wellSized bIs.wellSized aRead bRead aFloat cellsSmall
    with ⟨matrix, multiplied, matrixShape, matrixSized, matrixDtype, matrixComponents⟩
  refine ⟨aCoord, bCoord, aMatrix, bMatrix, matrix, aProjected, bProjected, aIs, bIs, multiplied, ?_⟩
  apply Tensor.IsMatrix.of_components sized shaped within matrixSized ?_ matrixShape
  · intro cell inside
    rcases exists_line inside with ⟨row, col, rowInside, colInside, rfl⟩
    have flat := nested_lt within.value_lt rowInside colInside
    rw [← prod_matrices] at flat
    rw [matrixComponents row col rowInside colInside, components, ← Nat.add_assoc, List.getElem?_map,
      List.getElem?_range flat, Option.map_some, Option.map_some, placed_eq _ rowInside colInside,
      Tensor.written_congr aIs.dtype, batchCell, matrixCell_congr leftSame rightSame rowInside colInside]
  · rw [matrixDtype, aIs.dtype, dtype]

/-- The product of two tensors of matrices holds the product of the matrices which each
batch is projected to, and that of two matrices is their product. -/
theorem batchedMatmul_matrices (multiplies : Multiplies left right aBatch bBatch batchOut rows inner cols)
    (leftSized : left.WellSized) (rightSized : right.WellSized)
    (small : (batchOut ++ [rows, cols]).prod < usize) :
    exists result, batchedMatmul left right = .ok result ∧ result.shape = batchOut ++ [rows, cols] ∧
      result.dtypeTag = left.dtypeTag ∧
      (forall coord, Within batchOut coord -> exists aCoord bCoord aMatrix bMatrix matrix,
        projectBroadcastIndex coord aBatch = .ok aCoord ∧ projectBroadcastIndex coord bBatch = .ok bCoord ∧
        left.IsMatrix aCoord rows inner aMatrix ∧ right.IsMatrix bCoord inner cols bMatrix ∧
        aMatrix.matmul bMatrix = .ok matrix ∧ result.IsMatrix coord rows cols matrix) ∧
      (aBatch = [] -> bBatch = [] -> left.matmul right = .ok result) := by
  rcases left.valuesF64_eq_ok with ⟨aVals, leftRead, _⟩
  rcases right.valuesF64_eq_ok with ⟨bVals, rightRead, _⟩
  have unfolded := batchedMatmul_eq multiplies leftSized rightSized small leftRead rightRead
  have written : exists result, left.fromF64Like (batchOut ++ [rows, cols])
      ((List.range (batchOut ++ [rows, cols]).prod).map
        (placed (batchCell aVals bVals aBatch bBatch batchOut rows inner cols) rows cols)) = .ok result := by
    apply Tensor.exists_fromF64Like (by simp)
    rw [List.length_map, List.length_range, product_eq, Nat.mod_eq_of_lt small]
  rcases written with ⟨result, written⟩
  rw [written] at unfolded
  refine ⟨result, unfolded, (Tensor.fromF64Like_shape written).1,
    (Tensor.fromF64Like_component multiplies.isFloat written).1, ?_, ?_⟩
  · intro coord within
    exact exists_batch multiplies leftSized rightSized small leftRead rightRead written within
  · rintro rfl rfl
    have noBatches : [] = batchOut := Except.ok.inj multiplies.batches
    subst noBatches
    rw [matmul_of_single_batch multiplies leftSized rightSized small leftRead rightRead, written]
    rfl

theorem twoMatrices_built : Elements.rational.arrayError [2, 1, 1] 2 = none := by decide +kernel

/-- Two matrices of one element. -/
def twoMatrices : Tensor Elements.rational := .f64 ⟨[2, 1, 1], [.finite 2, .finite 3], twoMatrices_built⟩

theorem oneMatrix_built : Elements.rational.arrayError [1, 1] 1 = none := by decide +kernel

/-- One matrix of one element. -/
def oneMatrix : Tensor Elements.rational := .f64 ⟨[1, 1], [.finite 5], oneMatrix_built⟩

theorem batchedMatmul_matrices_two : exists result, batchedMatmul twoMatrices oneMatrix = .ok result ∧
    result.shape = [2, 1, 1] ∧ exists aMatrix bMatrix matrix, twoMatrices.IsMatrix [1] 1 1 aMatrix ∧
      oneMatrix.IsMatrix [] 1 1 bMatrix ∧ aMatrix.matmul bMatrix = .ok matrix ∧
      result.IsMatrix [1] 1 1 matrix := by
  have multiplies : Multiplies twoMatrices oneMatrix [2] [] [2] 1 1 1 := ⟨rfl, rfl, rfl, rfl⟩
  have within : Within [2] [1] := .cons (by decide) .nil
  rcases batchedMatmul_matrices multiplies (show twoMatrices.WellSized from rfl)
    (show oneMatrix.WellSized from rfl) (by decide +kernel) with ⟨result, done, shaped, _, matrices, _⟩
  rcases matrices [1] within with
    ⟨aCoord, bCoord, aMatrix, bMatrix, matrix, aProjected, bProjected, aIs, bIs, multiplied, is⟩
  cases (show Except.ok [1] = .ok aCoord from aProjected)
  cases (show Except.ok [] = .ok bCoord from bProjected)
  exact ⟨result, done, shaped, aMatrix, bMatrix, matrix, aIs, bIs, multiplied, is⟩

end Tensors
end TransactionalCollection
