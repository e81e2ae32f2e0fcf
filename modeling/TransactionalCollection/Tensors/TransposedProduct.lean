import TransactionalCollection.Tensors.Arithmetic
import TransactionalCollection.Tensors.Batches
import TransactionalCollection.Tensors.CommonShape
import TransactionalCollection.Tensors.Transposing

namespace TransactionalCollection
namespace Tensors

open Execution Native Numeric

/-!
# The transpose of a product

Transposing the matrices of a product is multiplying the transposed matrices in the
other order.  Each cell adds up the same products in the same order, with the factors
swapped, so that nothing but the commutativity of one multiplication is asked of floats.
-/

variable {elements : Elements}

/-! ## The last two axes -/

/-- All axes, of which the last two are swapped. -/
def swapLast (count : Nat) : List Nat := List.range count ++ [count + 1, count]

section Swap

variable {A : Type} {front : List A} {first second : A}

theorem pick_append_front (front back : List A) : pick (front ++ back) (List.range front.length) = front := by
  have found : forall position, position ∈ List.range front.length ->
      (fun position => (front ++ back)[position]?) position = (fun position => front[position]?) position := by
    intro position member
    exact List.getElem?_append_left (List.mem_range.mp member)
  unfold pick
  rw [List.filterMap_congr found]
  exact pick_range front

theorem pick_swapLast {count : Nat} (length : front.length = count) :
    pick (front ++ [first, second]) (swapLast count) = front ++ [second, first] := by
  subst length
  have one : (front ++ [first, second])[front.length + 1]? = some second := by simp
  have two : (front ++ [first, second])[front.length]? = some first := by simp
  have split : pick (front ++ [first, second]) (swapLast front.length) =
      pick (front ++ [first, second]) (List.range front.length) ++
        pick (front ++ [first, second]) [front.length + 1, front.length] := List.filterMap_append
  rw [split, pick_append_front, pick_cons one, pick_cons two, pick_nil]

theorem range_add_two (count : Nat) : List.range (count + 2) = List.range count ++ [count, count + 1] := by
  rw [List.range_succ, List.range_succ, List.append_assoc]
  rfl

theorem orders_swapLast (count : Nat) : Orders (swapLast count) (count + 2) := by
  rw [Orders, range_add_two]
  exact List.Perm.append_left _ (List.Perm.swap _ _ _)

/-- Swapped twice, the axes are as before. -/
theorem inverse_swapLast (count : Nat) : inverse (swapLast count) = swapLast count := by
  symm
  apply eq_inverse (orders_swapLast count) (orders_swapLast count)
  rw [swapLast, range_add_two]
  exact pick_swapLast List.length_range

theorem length_append_two (front : List A) (first second : A) :
    (front ++ [first, second]).length = front.length + 2 := by
  rw [List.length_append]
  rfl

end Swap

/-- A coordinate of matrices is that of a batch, with a row and a column. -/
theorem Within.exists_matrix {batch coord : List Nat} {rows cols : Nat}
    (within : Within (batch ++ [rows, cols]) coord) : exists front row col, coord = front ++ [row, col] ∧
      Within batch front ∧ row < rows ∧ col < cols := by
  induction batch generalizing coord with
  | nil =>
      cases within with
      | cons rowInside rest =>
          cases rest with
          | cons colInside rest =>
              cases rest with
              | nil => exact ⟨[], _, _, rfl, .nil, rowInside, colInside⟩
  | cons dim batch inductionHypothesis =>
      cases within with
      | cons below rest =>
          rcases inductionHypothesis rest with ⟨front, row, col, rfl, inside, rowInside, colInside⟩
          exact ⟨_ :: front, row, col, rfl, .cons below inside, rowInside, colInside⟩

namespace Tensor

variable {tensor result : Tensor elements} {batch : List Nat} {rows cols : Nat}

/-- The matrices of a tensor, transposed. -/
structure MatricesTransposed (tensor result : Tensor elements) (batch : List Nat) (rows cols : Nat) : Prop where
  dtype : result.dtypeTag = tensor.dtypeTag
  shaped : result.shape = batch ++ [cols, rows]
  wellSized : result.WellSized
  cell : forall coord row col, Within batch coord -> row < rows -> col < cols ->
    result.readValue (coord ++ [col, row]) = tensor.readValue (coord ++ [row, col])

theorem matricesTransposed_iff (shape : tensor.shape = batch ++ [rows, cols]) :
    tensor.Transposed (swapLast batch.length) result <-> tensor.MatricesTransposed result batch rows cols := by
  have swapped : pick tensor.shape (swapLast batch.length) = batch ++ [cols, rows] := by
    rw [shape, pick_swapLast rfl]
  have back : forall {coord : List Nat} {row col : Nat}, coord.length = batch.length ->
      pick (coord ++ [col, row]) (inverse (swapLast batch.length)) = coord ++ [row, col] := by
    intro coord row col length
    rw [inverse_swapLast, pick_swapLast length]
  constructor
  · intro transposed
    refine ⟨transposed.dtype, transposed.shaped.trans swapped, transposed.wellSized, ?_⟩
    intro coord row col within rowInside colInside
    rw [transposed.value _ (swapped.symm ▸ within_append within colInside rowInside), back within.length_eq]
  · intro transposed
    refine ⟨transposed.dtype, transposed.shaped.trans swapped.symm, transposed.wellSized, ?_⟩
    intro coord within
    rw [swapped] at within
    rcases within.exists_matrix with ⟨front, col, row, rfl, inside, colInside, rowInside⟩
    rw [back inside.length_eq]
    exact transposed.cell front row col inside rowInside colInside

/-- Its cells, as they are read. -/
theorem MatricesTransposed.getD {values others : List elements.F64} {coord : List Nat} {row col : Nat}
    (transposed : tensor.MatricesTransposed result batch rows cols) (shape : tensor.shape = batch ++ [rows, cols])
    (wellSized : tensor.WellSized) (read : tensor.valuesF64 = .ok values) (resultRead : result.valuesF64 = .ok others)
    (within : Within batch coord) (rowInside : row < rows) (colInside : col < cols) :
    others.getD (value (places batch coord) * cols * rows + col * rows + row) elements.zero =
      values.getD (value (places batch coord) * rows * cols + row * cols + col) elements.zero := by
  apply getD_of_component read resultRead
  have here : Within tensor.shape (coord ++ [row, col]) := by
    rw [shape]
    exact within_append within rowInside colInside
  have there : Within result.shape (coord ++ [col, row]) := by
    rw [transposed.shaped]
    exact within_append within colInside rowInside
  have inside := here.value_lt
  rw [wellSized] at inside
  rcases component_isSome_iff.mpr inside with ⟨element, found⟩
  have same := transposed.cell coord row col within rowInside colInside
  rw [(readValue_eq_ok wellSized here).mpr found] at same
  have other := (readValue_eq_ok transposed.wellSized there).mp same
  rw [transposed.shaped, value_matrix within.length_eq] at other
  rw [shape, value_matrix within.length_eq] at found
  rw [other, found]

end Tensor

/-! ## Products -/

section Products

variable {left right : Tensor elements} {aBatch bBatch batchOut : List Nat} {rows inner cols : Nat}
  {aVals bVals aOthers bOthers : List elements.F64}

/-- The element of a product at each coordinate. -/
theorem exists_product (multiplies : Multiplies left right aBatch bBatch batchOut rows inner cols)
    (leftSized : left.WellSized) (rightSized : right.WellSized) (small : (batchOut ++ [rows, cols]).prod < usize)
    (leftRead : left.valuesF64 = .ok aVals) (rightRead : right.valuesF64 = .ok bVals) :
    exists result, batchedMatmul left right = .ok result ∧ result.dtypeTag = left.dtypeTag ∧
      result.shape = batchOut ++ [rows, cols] ∧ result.WellSized ∧
      forall coord row col, Within batchOut coord -> row < rows -> col < cols ->
        result.readValue (coord ++ [row, col]) = .ok (left.written
          (batchCell aVals bVals aBatch bBatch batchOut rows inner cols (value (places batchOut coord)) row col)) := by
  have unfolded := batchedMatmul_eq multiplies leftSized rightSized small leftRead rightRead
  have written : exists result, left.fromF64Like (batchOut ++ [rows, cols])
      ((List.range (batchOut ++ [rows, cols]).prod).map
        (placed (batchCell aVals bVals aBatch bBatch batchOut rows inner cols) rows cols)) = .ok result := by
    apply Tensor.exists_fromF64Like (by simp)
    rw [List.length_map, List.length_range, product_eq, Nat.mod_eq_of_lt small]
  rcases written with ⟨result, written⟩
  rw [written] at unfolded
  rcases Tensor.fromF64Like_shape written with ⟨shaped, cells⟩
  rcases Tensor.fromF64Like_component multiplies.isFloat written with ⟨dtype, components⟩
  have sized : result.WellSized := by
    rw [Tensor.WellSized, shaped, cells, List.length_map, List.length_range]
  refine ⟨result, unfolded, dtype, shaped, sized, ?_⟩
  intro coord row col within rowInside colInside
  have flat := nested_lt within.value_lt rowInside colInside
  rw [← prod_matrices] at flat
  apply Tensor.readValue_of_component sized
  · rw [shaped]
    exact Tensor.within_append within rowInside colInside
  · rw [shaped, Tensor.value_matrix within.length_eq, components, List.getElem?_map, List.getElem?_range flat,
      Option.map_some, Option.map_some, placed_eq _ rowInside colInside]

/-- A cell adds up the products of a row and a column, whichever of them comes first. -/
theorem matrixCell_swap (commutes : forall first second, elements.mul first second = elements.mul second first)
    {aStart bStart aOther bOther row col : Nat}
    (leftSame : forall k, k < inner -> aOthers.getD (aOther + k * rows + row) elements.zero =
      aVals.getD (aStart + row * inner + k) elements.zero)
    (rightSame : forall k, k < inner -> bOthers.getD (bOther + col * inner + k) elements.zero =
      bVals.getD (bStart + k * cols + col) elements.zero) :
    matrixCell bOthers aOthers inner rows bOther aOther col row =
      matrixCell aVals bVals inner cols aStart bStart row col := by
  unfold matrixCell
  apply List.foldl_ext
  intro sum k member
  have inside := List.mem_range.mp member
  rw [leftSame k inside, rightSame k inside, commutes]

/-- The transposed operands multiply in the other order. -/
theorem Multiplies.transposed {leftOther rightOther : Tensor elements}
    (multiplies : Multiplies left right aBatch bBatch batchOut rows inner cols)
    (leftMoved : left.MatricesTransposed leftOther aBatch rows inner)
    (rightMoved : right.MatricesTransposed rightOther bBatch inner cols) (rightFloat : right.IsFloat)
    (same : left.dtypeTag = right.dtypeTag) :
    Multiplies rightOther leftOther bBatch aBatch batchOut cols inner rows where
  dtypes := by
    apply validatePair_of_float
    · rw [Tensor.IsFloat, rightMoved.dtype]
      exact rightFloat
    · rw [Tensor.IsFloat, leftMoved.dtype]
      exact multiplies.isFloat
    · rw [rightMoved.dtype, leftMoved.dtype, same]
  leftShape := rightMoved.shaped
  rightShape := leftMoved.shaped
  batches := by
    have batches := multiplies.batches
    rw [broadcastBatchShape_eq] at batches ⊢
    rw [joinShape_comm]
    cases found : joinShape aBatch bBatch with
    | none =>
        rw [found] at batches
        cases batches
    | some shape =>
        rw [found] at batches
        exact batches

/-- The operands of a product are of one type, which is not that of integers. -/
theorem Multiplies.same_dtype (multiplies : Multiplies left right aBatch bBatch batchOut rows inner cols) :
    left.dtypeTag = right.dtypeTag ∧ right.IsFloat := by
  have validated := multiplies.dtypes
  cases left with
  | f32 array =>
      cases right with
      | f32 other => exact ⟨rfl, by simp [Tensor.IsFloat, Tensor.dtypeTag]⟩
      | f64 other => cases validated
      | u64 other => cases validated
  | f64 array =>
      cases right with
      | f32 other => cases validated
      | f64 other => exact ⟨rfl, by simp [Tensor.IsFloat, Tensor.dtypeTag]⟩
      | u64 other => cases validated
  | u64 array => cases validated

/-- The transpose of a product is the product of the transposes, in the other order. -/
theorem batchedMatmul_transposed {views : Views elements} (transposes : views.Transposes)
    (commutes : forall first second, elements.mul first second = elements.mul second first)
    (multiplies : Multiplies left right aBatch bBatch batchOut rows inner cols) (leftSized : left.WellSized)
    (rightSized : right.WellSized) (small : (batchOut ++ [rows, cols]).prod < usize) :
    exists product leftOther rightOther transposed, batchedMatmul left right = .ok product ∧
      tensorTranspose views product (swapLast batchOut.length) = .ok transposed ∧
      tensorTranspose views left (swapLast aBatch.length) = .ok leftOther ∧
      tensorTranspose views right (swapLast bBatch.length) = .ok rightOther ∧
      batchedMatmul rightOther leftOther = .ok transposed := by
  rcases multiplies.same_dtype with ⟨sameDtype, rightFloat⟩
  have moved : forall {tensor : Tensor elements} {batch : List Nat} {height width : Nat}, tensor.WellSized ->
      tensor.shape = batch ++ [height, width] -> exists other,
        tensorTranspose views tensor (swapLast batch.length) = .ok other ∧
          tensor.MatricesTransposed other batch height width := by
    intro tensor batch height width sized shape
    have orders : Orders (swapLast batch.length) tensor.shape.length := by
      rw [shape, length_append_two]
      exact orders_swapLast _
    rcases (tensorTranspose_decides transposes sized _).accepts orders with ⟨other, done, _, _, transposed⟩
    exact ⟨other, done, (Tensor.matricesTransposed_iff shape).mp transposed⟩
  rcases moved leftSized multiplies.leftShape with ⟨leftOther, leftDone, leftMoved⟩
  rcases moved rightSized multiplies.rightShape with ⟨rightOther, rightDone, rightMoved⟩
  rcases left.valuesF64_eq_ok with ⟨aVals, leftRead, _⟩
  rcases right.valuesF64_eq_ok with ⟨bVals, rightRead, _⟩
  rcases leftOther.valuesF64_eq_ok with ⟨aOthers, leftOtherRead, _⟩
  rcases rightOther.valuesF64_eq_ok with ⟨bOthers, rightOtherRead, _⟩
  have swapped := multiplies.transposed leftMoved rightMoved rightFloat sameDtype
  have smallSwapped : (batchOut ++ [cols, rows]).prod < usize := by
    rw [prod_matrices] at small ⊢
    rwa [Nat.mul_right_comm]
  rcases exists_product multiplies leftSized rightSized small leftRead rightRead with
    ⟨product, multiplied, dtype, shaped, sized, cells⟩
  rcases exists_product swapped rightMoved.wellSized leftMoved.wellSized smallSwapped rightOtherRead leftOtherRead with
    ⟨other, otherMultiplied, otherDtype, otherShaped, otherSized, otherCells⟩
  rcases moved sized shaped with ⟨transposed, transposedDone, productMoved⟩
  have same : product.MatricesTransposed other batchOut rows cols := by
    refine ⟨?_, otherShaped, otherSized, ?_⟩
    · rw [otherDtype, rightMoved.dtype, dtype, sameDtype]
    · intro coord row col within rowInside colInside
      rcases broadcastBatchShape_broadcasts multiplies.batches with ⟨leftBroadcasts, rightBroadcasts⟩
      rcases within.projected leftBroadcasts with ⟨aCoord, _, aWithin, aCell⟩
      rcases within.projected rightBroadcasts with ⟨bCoord, _, bWithin, bCell⟩
      have written : rightOther.written = left.written :=
        Tensor.written_congr (rightMoved.dtype.trans sameDtype.symm)
      rw [otherCells coord col row within colInside rowInside, cells coord row col within rowInside colInside, written,
        batchCell, batchCell, ← aCell, ← bCell]
      congr 2
      apply matrixCell_swap commutes
      · intro k inside
        exact leftMoved.getD multiplies.leftShape leftSized leftRead leftOtherRead aWithin rowInside inside
      · intro k inside
        exact rightMoved.getD multiplies.rightShape rightSized rightRead rightOtherRead bWithin inside colInside
  refine ⟨product, leftOther, rightOther, transposed, multiplied, transposedDone, leftDone, rightDone, ?_⟩
  have equal : other = transposed := ((Tensor.matricesTransposed_iff shaped).mpr same).unique
    ((Tensor.matricesTransposed_iff shaped).mpr productMoved)
  rw [otherMultiplied, equal]

end Products

theorem Elements.rational_mul_comm (left right : Reading) :
    Elements.rational.mul left right = Elements.rational.mul right left := by
  cases left with
  | finite left =>
      cases right with
      | finite right => exact congrArg Reading.finite (mul_comm left right)
      | infinite negative => rfl
      | nan => rfl
  | infinite negative => cases right <;> rfl
  | nan => cases right <;> rfl

theorem twoRows_built : Elements.rational.arrayError [2, 1, 2] 4 = none := by decide +kernel

/-- Two matrices of one row. -/
def twoRows : Tensor Elements.rational :=
  .f64 ⟨[2, 1, 2], [.finite 1, .finite 2, .finite 3, .finite 4], twoRows_built⟩

theorem oneSquare_built : Elements.rational.arrayError [2, 2] 4 = none := by decide +kernel

/-- One matrix of two rows. -/
def oneSquare : Tensor Elements.rational :=
  .f64 ⟨[2, 2], [.finite 5, .finite 6, .finite 7, .finite 8], oneSquare_built⟩

theorem batchedMatmul_transposed_twoRows : exists product leftOther rightOther transposed,
    batchedMatmul twoRows oneSquare = .ok product ∧
      tensorTranspose (Views.gathered _) product [0, 2, 1] = .ok transposed ∧
      tensorTranspose (Views.gathered _) twoRows [0, 2, 1] = .ok leftOther ∧
      tensorTranspose (Views.gathered _) oneSquare [1, 0] = .ok rightOther ∧
      batchedMatmul rightOther leftOther = .ok transposed :=
  batchedMatmul_transposed Views.gathered_transposes Elements.rational_mul_comm
    (show Multiplies twoRows oneSquare [2] [] [2] 1 2 2 from ⟨rfl, rfl, rfl, rfl⟩)
    (show twoRows.WellSized from rfl) (show oneSquare.WellSized from rfl) (by decide +kernel)

end Tensors
end TransactionalCollection
