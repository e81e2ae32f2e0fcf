import TransactionalCollection.Execution.Filling
import TransactionalCollection.Tensors.Cells
import TransactionalCollection.Tensors.Matmul

namespace TransactionalCollection
namespace Tensors

open Execution Native Numeric

/-!
# The product of two matrices

Each cell of the product is the sum of the products of a row and a column, added up
from zero in the order of the inner dimension.  The cells are written line by line.
-/

variable {elements : Elements}

namespace Tensor

/-- The loop over the inner dimension. -/
def matmulCell (leftValues rightValues : List elements.F64) (inner cols row col : Nat) :
    Except (Failure String) elements.F64 :=
  (List.range inner).foldlM (fun sum k => do
    let left <- indexed leftValues (plus (times row inner) k)
    let right <- indexed rightValues (plus (times k cols) col)
    return elements.add sum (elements.mul left right)) elements.zero

/-- The loops over rows and columns. -/
def matmulCells (leftValues rightValues : List elements.F64) (rows inner cols : Nat) :
    Except (Failure String) (List elements.F64) :=
  (List.range rows).foldlM (fun out row =>
    (List.range cols).foldlM (fun out col => do
      let sum <- matmulCell leftValues rightValues inner cols row col
      replaced out (plus (times row cols) col) sum) out) (List.replicate (times rows cols) elements.zero)

def matmul (left right : Tensor elements) : Except (Failure String) (Tensor elements) :=
  match left.shape, right.shape with
  | [rows, inner], [rightRows, cols] =>
      if rightRows ≠ inner then .error (.error "tensor matmul inner dimensions do not match")
      else do
        let leftValues <- left.valuesF64.mapError Failure.error
        let rightValues <- right.valuesF64.mapError Failure.error
        let out <- matmulCells leftValues rightValues rows inner cols
        (left.fromF64Like [rows, cols] out).mapError Failure.error
  | _, _ => .error (.error "tensor matmul currently supports 2D tensors")

end Tensor

/-! ## Cells -/

/-- The product of a row and a column of two matrices, which start anywhere in their buffers. -/
def matrixCell (aVals bVals : List elements.F64) (inner cols aStart bStart row col : Nat) : elements.F64 :=
  (List.range inner).foldl (fun sum k => elements.add sum
    (elements.mul (aVals.getD (aStart + row * inner + k) elements.zero)
      (bVals.getD (bStart + k * cols + col) elements.zero))) elements.zero

/-- The offset of a cell of a line, which a buffer holds. -/
theorem offset_in_line {line width item length : Nat} (inside : line * width + item < length)
    (small : length < usize) : plus (times line width) item = line * width + item := by
  have product : times line width = line * width := by
    apply Nat.mod_eq_of_lt
    omega
  rw [product]
  apply Nat.mod_eq_of_lt
  omega

/-- A cell of a line of a matrix lies within the matrix. -/
theorem line_lt {line height width item : Nat} (row : line < height) (column : item < width) :
    line * width + item < height * width := by
  calc line * width + item < line * width + width := Nat.add_lt_add_left column _
    _ = (line + 1) * width := (Nat.succ_mul line width).symm
    _ ≤ height * width := Nat.mul_le_mul_right width row

theorem prod_two (first second : Nat) : [first, second].prod = first * second := by simp

/-- The cells of a block of lines, by their number. -/
def placed {A : Type} (cell : Nat -> Nat -> Nat -> A) (rows cols index : Nat) : A :=
  cell (index / cols / rows) (index / cols % rows) (index % cols)

theorem placed_eq {A : Type} (cell : Nat -> Nat -> Nat -> A) {rows cols block row col : Nat}
    (rowInside : row < rows) (colInside : col < cols) :
    placed cell rows cols (block * rows * cols + row * cols + col) = cell block row col := by
  have flat : block * rows * cols + row * cols + col = col + cols * (row + rows * block) := by ring
  have lines : (col + cols * (row + rows * block)) / cols = row + rows * block := by
    rw [Nat.add_mul_div_left _ _ (Nat.zero_lt_of_lt colInside), Nat.div_eq_of_lt colInside, Nat.zero_add]
  have column : (col + cols * (row + rows * block)) % cols = col := by
    rw [Nat.add_mul_mod_self_left, Nat.mod_eq_of_lt colInside]
  have line : (row + rows * block) % rows = row := by
    rw [Nat.add_mul_mod_self_left, Nat.mod_eq_of_lt rowInside]
  have blocks : (row + rows * block) / rows = block := by
    rw [Nat.add_mul_div_left _ _ (Nat.zero_lt_of_lt rowInside), Nat.div_eq_of_lt rowInside, Nat.zero_add]
  rw [flat, placed, lines, column, line, blocks]

namespace Tensor

section Matmul

variable {leftValues rightValues : List elements.F64} {rows inner cols row col : Nat}

theorem matmulCell_eq (leftSized : leftValues.length = rows * inner)
    (rightSized : rightValues.length = inner * cols) (leftSmall : rows * inner < usize)
    (rightSmall : inner * cols < usize) (rowInside : row < rows) (colInside : col < cols) :
    matmulCell leftValues rightValues inner cols row col =
      .ok (matrixCell leftValues rightValues inner cols 0 0 row col) := by
  unfold matmulCell matrixCell
  apply foldlM_eq_ok_foldl
  intro sum k member
  have kInside := List.mem_range.mp member
  have leftInside := line_lt rowInside kInside
  have rightInside := line_lt kInside colInside
  rw [offset_in_line leftInside leftSmall, offset_in_line rightInside rightSmall, Nat.zero_add, Nat.zero_add]
  rw [← leftSized] at leftInside
  rw [← rightSized] at rightInside
  rw [indexed_eq_getD leftInside elements.zero, indexed_eq_getD rightInside elements.zero]
  rfl

/-- The values of a product of matrices. -/
def matrixValues (leftValues rightValues : List elements.F64) (rows inner cols : Nat) : List elements.F64 :=
  (List.range (rows * cols)).map
    (placed (fun _ row col => matrixCell leftValues rightValues inner cols 0 0 row col) rows cols)

theorem matmulCells_eq (leftSized : leftValues.length = rows * inner)
    (rightSized : rightValues.length = inner * cols) (leftSmall : rows * inner < usize)
    (rightSmall : inner * cols < usize) (small : rows * cols < usize) :
    matmulCells leftValues rightValues rows inner cols =
      .ok (matrixValues leftValues rightValues rows inner cols) := by
  have allocated : times rows cols = rows * cols := Nat.mod_eq_of_lt small
  have filled : Ends (Filled (placed (fun _ row col =>
      matrixCell leftValues rightValues inner cols 0 0 row col) rows cols) (rows * cols) (0 + rows * cols)) never
      (matmulCells leftValues rightValues rows inner cols) := by
    unfold matmulCells
    rw [allocated]
    apply Filled.lines (Filled.empty List.length_replicate)
    intro row col out rowInside colInside sized
    have inside := line_lt rowInside colInside
    have cell : placed (fun _ row col => matrixCell leftValues rightValues inner cols 0 0 row col) rows cols
        (0 * rows * cols + row * cols + col) = matrixCell leftValues rightValues inner cols 0 0 row col :=
      placed_eq _ rowInside colInside
    rw [Nat.zero_mul, Nat.zero_mul] at cell
    rw [cell, Nat.zero_add]
    refine ⟨inside, ?_⟩
    rw [matmulCell_eq leftSized rightSized leftSmall rightSmall rowInside colInside,
      offset_in_line inside small]
    apply if_pos
    rwa [sized]
  rcases filled.exists_ok with ⟨out, done, held⟩
  rw [Nat.zero_add] at held
  rw [done, held.eq_map]
  rfl

/-- Matrices whose inner dimensions agree have a product. -/
theorem matmul_eq {left right : Tensor elements} (leftShape : left.shape = [rows, inner])
    (rightShape : right.shape = [inner, cols]) (leftSized : left.WellSized) (rightSized : right.WellSized)
    (leftRead : left.valuesF64 = .ok leftValues) (rightRead : right.valuesF64 = .ok rightValues)
    (small : rows * cols < usize) : left.matmul right =
      (left.fromF64Like [rows, cols] (matrixValues leftValues rightValues rows inner cols)).mapError
        Failure.error := by
  have leftLength := leftSized.length leftRead
  have rightLength := rightSized.length rightRead
  have leftSmall := leftSized.prod_lt
  have rightSmall := rightSized.prod_lt
  rw [leftShape, prod_two] at leftLength leftSmall
  rw [rightShape, prod_two] at rightLength rightSmall
  unfold matmul
  rw [leftShape, rightShape]
  dsimp only
  rw [if_neg (not_not_intro rfl), leftRead, rightRead]
  change (do
    let out <- matmulCells leftValues rightValues rows inner cols
    (left.fromF64Like [rows, cols] out).mapError Failure.error) = _
  rw [matmulCells_eq leftLength rightLength leftSmall rightSmall small]
  rfl

/-- The cells of a product of matrices. -/
theorem matmul_component {left right : Tensor elements} (leftShape : left.shape = [rows, inner])
    (rightShape : right.shape = [inner, cols]) (leftSized : left.WellSized) (rightSized : right.WellSized)
    (leftRead : left.valuesF64 = .ok leftValues) (rightRead : right.valuesF64 = .ok rightValues)
    (float : left.IsFloat) (small : rows * cols < usize) : exists result, left.matmul right = .ok result ∧
      result.shape = [rows, cols] ∧ result.WellSized ∧ result.dtypeTag = left.dtypeTag ∧
      forall row col, row < rows -> col < cols -> result.component (row * cols + col) =
        some (left.written (matrixCell leftValues rightValues inner cols 0 0 row col)) := by
  have length : (matrixValues leftValues rightValues rows inner cols).length = rows * cols := by
    rw [matrixValues, List.length_map, List.length_range]
  have fits : exists result, left.fromF64Like [rows, cols] (matrixValues leftValues rightValues rows inner cols) =
      .ok result := by
    apply exists_fromF64Like (by simp)
    rw [length, product_eq, prod_two, Nat.mod_eq_of_lt small]
  rcases fits with ⟨result, written⟩
  rcases fromF64Like_shape written with ⟨shaped, cells⟩
  rcases fromF64Like_component float written with ⟨dtype, components⟩
  refine ⟨result, ?_, shaped, ?_, dtype, ?_⟩
  · rw [matmul_eq leftShape rightShape leftSized rightSized leftRead rightRead small, written]
    rfl
  · rw [WellSized, shaped, cells, length, prod_two]
  · intro row col rowInside colInside
    have cell : placed (fun _ row col => matrixCell leftValues rightValues inner cols 0 0 row col) rows cols
        (0 * rows * cols + row * cols + col) = matrixCell leftValues rightValues inner cols 0 0 row col :=
      placed_eq _ rowInside colInside
    rw [Nat.zero_mul, Nat.zero_mul, Nat.zero_add] at cell
    rw [components, matrixValues, List.getElem?_map, List.getElem?_range (line_lt rowInside colInside),
      Option.map_some, Option.map_some, cell]

end Matmul

end Tensor

end Tensors
end TransactionalCollection
