import TransactionalCollection.Tensors.Cells
import TransactionalCollection.Tensors.CommonShape
import TransactionalCollection.Tensors.Floats

namespace TransactionalCollection
namespace Tensors

open Execution Native Numeric

/-!
# Operations on two tensors

A binary operation projects each coordinate of the common shape to both operands.
The addition with broadcasting makes copies of the operands in the common shape
first, and adds tensors of one shape.  Both are one: the coordinates of the copies are
projected to themselves, and hold what the operands hold at the projected ones.
-/

variable {elements : Elements}

/-- `f64::from`, of a `bool`. -/
def FloatOps.ofBool (ops : FloatOps elements) (holds : Bool) : elements.F64 :=
  if holds then ops.one else elements.zero

/-- The match on the operation. -/
def binaryValue (ops : FloatOps elements) (op : String) (l r : elements.F64) : Except String elements.F64 :=
  match op with
  | "add" => .ok (elements.add l r)
  | "sub" => .ok (ops.sub l r)
  | "mul" => .ok (elements.mul l r)
  | "div" => .ok (ops.div l r)
  | "and" => .ok (ops.ofBool (!elements.isZero l && !elements.isZero r))
  | "or" => .ok (ops.ofBool (!elements.isZero l || !elements.isZero r))
  | "xor" => .ok (ops.ofBool (!elements.isZero l ^^ !elements.isZero r))
  | other => .error s!"unsupported tensor binary op {other}"

/-- One cell of the output. -/
def binaryCell (ops : FloatOps elements) (op : String) (leftShape rightShape shape : List Nat)
    (leftValues rightValues : List elements.F64) (idx : Nat) : Except (Failure String) elements.F64 := do
  let outCoord <- unravelIndex idx shape
  let leftCoord <- projectBroadcastIndex outCoord leftShape
  let rightCoord <- projectBroadcastIndex outCoord rightShape
  let leftOffset <- coordOffsetUsize leftShape leftCoord
  let l <- indexed leftValues leftOffset
  let rightOffset <- coordOffsetUsize rightShape rightCoord
  let r <- indexed rightValues rightOffset
  (binaryValue ops op l r).mapError Failure.error

def Tensor.binaryOp (ops : FloatOps elements) (left right : Tensor elements) (op : String) :
    Except (Failure String) (Tensor elements) := do
  let leftValues <- left.valuesF64.mapError Failure.error
  let rightValues <- right.valuesF64.mapError Failure.error
  let shape <- (broadcastShape left.shape right.shape).mapError Failure.error
  let out <- (List.range (product shape)).mapM
    (binaryCell ops op left.shape right.shape shape leftValues rightValues)
  (left.fromF64Like shape out).mapError Failure.error

/-- `map_err`, which a panic passes by. -/
def renamed {E E' : Type} (error : E') : Failure E -> Failure E'
  | .error _ => .error error
  | .panic panic => .panic panic

def exactShapeAdd (ops : FloatOps elements) (left right : Tensor elements) :
    Except (Failure TensorOpError) (Tensor elements) := do
  (TensorDtypeGuard.validatePair left right).mapError Failure.error
  if left.shape ≠ right.shape then .error (.error (.shapeMismatch left.shape right.shape))
  else (left.binaryOp ops right "add").mapError (renamed (.shapeMismatch left.shape right.shape))

/-- The copy of the left operand is named in the error of the right one. -/
def broadcastAdd (ops : FloatOps elements) (left right : Tensor elements) :
    Except (Failure TensorOpError) (Tensor elements) := do
  (TensorDtypeGuard.validatePair left right).mapError Failure.error
  if left.shape = right.shape then exactShapeAdd ops left right
  else do
    let outputShape <- (Add.broadcastShape left.shape right.shape).mapError Failure.error
    let leftCopy <- (left.broadcast outputShape).mapError
      (renamed (.broadcastIncompatible left.shape right.shape))
    let rightCopy <- (right.broadcast outputShape).mapError
      (renamed (.broadcastIncompatible leftCopy.shape right.shape))
    exactShapeAdd ops leftCopy rightCopy

/-! ## Cells -/

section Cells

variable {leftShape rightShape shape : List Nat} {leftValues rightValues values : List elements.F64} {cell : Nat}

/-- The value which a cell of the output takes from its source. -/
def sourceValue (sourceShape shape : List Nat) (values : List elements.F64) (cell : Nat) : elements.F64 :=
  values.getD (sourceCell sourceShape shape cell) elements.zero

/-- A cell of a source which broadcasts is within its buffer. -/
theorem indexed_source {sourceShape : List Nat} (sized : values.length = sourceShape.prod)
    (broadcasts : canBroadcastTo sourceShape shape = true) (nonzero : 0 ∉ shape) (cell : Nat) :
    (indexed values (sourceCell sourceShape shape cell) : Except (Failure String) elements.F64) =
      .ok (sourceValue sourceShape shape values cell) := by
  have below := sourceCell_lt (canBroadcastTo_iff.mp broadcasts) nonzero cell
  rw [← sized] at below
  apply indexed_eq_ok.mpr
  rw [sourceValue, List.getD_eq_getElem?_getD, List.getElem?_eq_getElem below]
  rfl

theorem binaryCell_eq (ops : FloatOps elements) (op : String)
    (leftSized : leftValues.length = leftShape.prod) (rightSized : rightValues.length = rightShape.prod)
    (leftSmall : leftShape.prod < usize) (rightSmall : rightShape.prod < usize)
    (leftBroadcasts : canBroadcastTo leftShape shape = true)
    (rightBroadcasts : canBroadcastTo rightShape shape = true) (nonzero : 0 ∉ shape) :
    binaryCell ops op leftShape rightShape shape leftValues rightValues cell =
      (binaryValue ops op (sourceValue leftShape shape leftValues cell)
        (sourceValue rightShape shape rightValues cell)).mapError Failure.error := by
  rcases sourceCoord_of_cell cell leftBroadcasts nonzero with ⟨leftCoord, leftProjected, leftOffset⟩
  rcases sourceCoord_of_cell cell rightBroadcasts nonzero with ⟨rightCoord, rightProjected, rightOffset⟩
  have unraveled : (unravelIndex cell shape : Except (Failure String) (List Nat)) =
      .ok (digits cell shape.reverse).reverse := unravelIndex_eq_ok.mpr ⟨nonzero, rfl⟩
  have leftBelow := sourceCell_lt (canBroadcastTo_iff.mp leftBroadcasts) nonzero cell
  have rightBelow := sourceCell_lt (canBroadcastTo_iff.mp rightBroadcasts) nonzero cell
  rw [Nat.mod_eq_of_lt (Nat.lt_trans leftBelow leftSmall)] at leftOffset
  rw [Nat.mod_eq_of_lt (Nat.lt_trans rightBelow rightSmall)] at rightOffset
  have leftFound := indexed_source leftSized leftBroadcasts nonzero cell
  have rightFound := indexed_source rightSized rightBroadcasts nonzero cell
  simp only [binaryCell, unraveled, leftProjected, rightProjected, leftOffset, rightOffset, leftFound, rightFound,
    bind, Except.bind]

end Cells

namespace Tensor

section Results

variable {left right tensor copy : Tensor elements} {shape outCoord : List Nat}
  {values leftValues rightValues : List elements.F64}

/-- The values of a copy in the common shape. -/
def copiedValues (sourceShape shape : List Nat) (values : List elements.F64) : List elements.F64 :=
  (List.range (product shape)).map (sourceValue sourceShape shape values)

theorem broadcast_eq (wellSized : tensor.WellSized) (read : tensor.valuesF64 = .ok values)
    (broadcasts : canBroadcastTo tensor.shape shape = true) : tensor.broadcast shape =
      (tensor.fromF64Like shape (copiedValues tensor.shape shape values)).mapError Failure.error := by
  have computed : (List.range (product shape)).mapM (fun cell => do
      let offset <- sourceOffset tensor.shape shape cell
      indexed values offset : Nat -> Except (Failure String) elements.F64) =
        .ok (copiedValues tensor.shape shape values) := by
    apply mapM_eq_ok_map
    intro cell member
    have nonzero := nonzero_of_cell (List.mem_range.mp member)
    have below := sourceCell_lt (canBroadcastTo_iff.mp broadcasts) nonzero cell
    rw [sourceOffset_eq_ok broadcasts nonzero, Nat.mod_eq_of_lt (Nat.lt_trans below wellSized.prod_lt)]
    exact indexed_source (wellSized.length read) broadcasts nonzero cell
  unfold broadcast
  rw [if_pos broadcasts, read]
  change (do
    let out <- (List.range (product shape)).mapM _
    (tensor.fromF64Like shape out).mapError Failure.error) = _
  rw [computed]
  rfl

/-- An operation on tensors is one on the values of each cell. -/
theorem binaryOp_eq (ops : FloatOps elements) (op : String) (leftSized : left.WellSized)
    (rightSized : right.WellSized) (leftRead : left.valuesF64 = .ok leftValues)
    (rightRead : right.valuesF64 = .ok rightValues)
    (common : broadcastShape left.shape right.shape = .ok shape)
    (leftBroadcasts : canBroadcastTo left.shape shape = true)
    (rightBroadcasts : canBroadcastTo right.shape shape = true) : left.binaryOp ops right op = (do
      let out <- (List.range (product shape)).mapM (fun cell =>
        (binaryValue ops op (sourceValue left.shape shape leftValues cell)
          (sourceValue right.shape shape rightValues cell)).mapError Failure.error)
      (left.fromF64Like shape out).mapError Failure.error) := by
  have cells : (List.range (product shape)).mapM
      (binaryCell ops op left.shape right.shape shape leftValues rightValues) =
        (List.range (product shape)).mapM (fun cell =>
          (binaryValue ops op (sourceValue left.shape shape leftValues cell)
            (sourceValue right.shape shape rightValues cell)).mapError Failure.error) := by
    apply mapM_congr
    intro cell member
    have nonzero := nonzero_of_cell (List.mem_range.mp member)
    exact binaryCell_eq ops op (leftSized.length leftRead) (rightSized.length rightRead) leftSized.prod_lt
      rightSized.prod_lt leftBroadcasts rightBroadcasts nonzero
  unfold binaryOp
  rw [leftRead, rightRead, common]
  change (do
    let out <- (List.range (product shape)).mapM _
    (left.fromF64Like shape out).mapError Failure.error) = _
  rw [cells]

end Results

end Tensor

/-! ## Both additions -/

section Additions

variable {left right : Tensor elements} {shape : List Nat}

theorem validatePair_of_float (leftFloat : left.IsFloat) (rightFloat : right.IsFloat)
    (same : left.dtypeTag = right.dtypeTag) : TensorDtypeGuard.validatePair left right = .ok () := by
  cases left with
  | f32 array =>
      cases right with
      | f32 other => rfl
      | f64 other => simp [Tensor.dtypeTag] at same
      | u64 other => exact absurd rfl rightFloat
  | f64 array =>
      cases right with
      | f32 other => simp [Tensor.dtypeTag] at same
      | f64 other => rfl
      | u64 other => exact absurd rfl rightFloat
  | u64 array => exact absurd rfl leftFloat

end Additions

end Tensors
end TransactionalCollection
