import TransactionalCollection.Tensors.Shape

namespace TransactionalCollection
namespace Tensors

open Execution Native Numeric

/-!
# Dense tensors

A tensor has a shape and as many values as the product of the shape, all of one
type.  Most operations read the values as `f64` and write the results back in the
type of the tensor.
-/

/-- The element types, their casts and their arithmetic, and the constructor of their
arrays. -/
structure Elements where
  F32 : Type
  F64 : Type
  /-- `f64::from`. -/
  widen : F32 -> F64
  /-- `as f32`. -/
  narrow : F64 -> F32
  /-- `as f64`. -/
  ofU64 : UInt64 -> F64
  /-- `as u64`. -/
  toU64 : F64 -> UInt64
  /-- `value >= 0.0 && value.fract() == 0.0`. -/
  isWhole : F64 -> Bool
  /-- `value == 0.0`. -/
  isZero : F64 -> Bool
  zero : F64
  add : F64 -> F64 -> F64
  mul : F64 -> F64 -> F64
  /-- The error of `ha_ndarray::ArrayBuf::new`, if it refuses a shape and the length of a buffer. -/
  arrayError : List Nat -> Nat -> Option String
  /-- A buffer is as long as the product of its shape. -/
  arrayError_size : forall {shape length}, arrayError shape length = none -> length = product shape
  /-- With an axis in the shape, nothing else is asked of it. -/
  arrayError_none : forall {shape}, shape ≠ [] -> arrayError shape (product shape) = none

/-- `ha_ndarray::ArrayBuf`: a shape and a buffer which its constructor accepts. -/
structure ArrayBuf (elements : Elements) (A : Type) where
  shape : List Nat
  values : List A
  built : elements.arrayError shape values.length = none

theorem Elements.arrayError_eq_none_iff (elements : Elements) {shape : List Nat} {length : Nat} (ranked : shape ≠ []) :
    elements.arrayError shape length = none <-> length = product shape := by
  constructor
  · exact elements.arrayError_size
  · rintro rfl
    exact elements.arrayError_none ranked

section Arrays

variable {elements : Elements} {A : Type}

theorem ArrayBuf.size (array : ArrayBuf elements A) : array.values.length = product array.shape :=
  elements.arrayError_size array.built

def ArrayBuf.new (values : List A) (shape : List Nat) : Except String (ArrayBuf elements A) :=
  match built : elements.arrayError shape values.length with
  | none => .ok ⟨shape, values, built⟩
  | some error => .error error

theorem ArrayBuf.new_eq_ok {values : List A} {shape : List Nat} {array : ArrayBuf elements A} :
    new values shape = .ok array <-> array.shape = shape ∧ array.values = values := by
  unfold new
  split
  · rename_i built
    constructor
    · intro same
      cases same
      exact ⟨rfl, rfl⟩
    · intro parts
      cases array
      cases parts.1
      cases parts.2
      rfl
  · rename_i error refused
    apply iff_of_false
    · intro impossible
      cases impossible
    · intro parts
      rw [← parts.1, ← parts.2, array.built] at refused
      cases refused

theorem ArrayBuf.new_isOk_iff {values : List A} {shape : List Nat} :
    (exists array : ArrayBuf elements A, new values shape = .ok array) <->
      elements.arrayError shape values.length = none := by
  constructor
  · intro made
    rcases made with ⟨array, made⟩
    rcases new_eq_ok.mp made with ⟨rfl, rfl⟩
    exact array.built
  · intro built
    exact ⟨⟨shape, values, built⟩, new_eq_ok.mpr ⟨rfl, rfl⟩⟩

/-- A shape is accepted if the shape of some array is, and has an axis if that one does. -/
theorem ArrayBuf.accepts (array : ArrayBuf elements A) {shape : List Nat} {length : Nat}
    (ranked : shape = [] -> array.shape = []) (sized : length = product shape) :
    elements.arrayError shape length = none := by
  by_cases scalar : shape = []
  · have built := array.built
    rw [array.size, ranked scalar] at built
    rw [sized, scalar]
    exact built
  · exact (elements.arrayError_eq_none_iff scalar).mpr sized

end Arrays

inductive Tensor (elements : Elements) where
  | f32 (array : ArrayBuf elements elements.F32)
  | f64 (array : ArrayBuf elements elements.F64)
  | u64 (array : ArrayBuf elements UInt64)

/-- `Number::from`, of one value. -/
inductive Component (elements : Elements) where
  | f32 (value : elements.F32)
  | f64 (value : elements.F64)
  | u64 (value : UInt64)

namespace Tensor

variable {elements : Elements}

/-! ## Construction -/

def denseF32 (shape : List Nat) (values : List elements.F32) : Except String (Tensor elements) :=
  (ArrayBuf.new values shape).map .f32

def denseF64 (shape : List Nat) (values : List elements.F64) : Except String (Tensor elements) :=
  (ArrayBuf.new values shape).map .f64

def denseU64 (shape : List Nat) (values : List UInt64) : Except String (Tensor elements) :=
  (ArrayBuf.new values shape).map .u64

/-! ## Contents -/

def shape : Tensor elements -> List Nat
  | .f32 array => array.shape
  | .f64 array => array.shape
  | .u64 array => array.shape

def dtypeTag : Tensor elements -> String
  | .f32 _ => "f32"
  | .f64 _ => "f64"
  | .u64 _ => "u64"

def size (tensor : Tensor elements) : Nat := product tensor.shape

/-- How many values the buffer holds. -/
def cells : Tensor elements -> Nat
  | .f32 array => array.values.length
  | .f64 array => array.values.length
  | .u64 array => array.values.length

theorem cells_eq_size (tensor : Tensor elements) : tensor.cells = tensor.size := by
  cases tensor with
  | f32 array => exact array.size
  | f64 array => exact array.size
  | u64 array => exact array.size

def flattenedF32 : Tensor elements -> Except String (List elements.F32)
  | .f32 array => .ok array.values
  | .f64 _ | .u64 _ => .error "tensor dtype is not f32"

def flattenedF64 : Tensor elements -> Except String (List elements.F64)
  | .f64 array => .ok array.values
  | .f32 _ | .u64 _ => .error "tensor dtype is not f64"

def flattenedU64 : Tensor elements -> Except String (List UInt64)
  | .u64 array => .ok array.values
  | .f32 _ | .f64 _ => .error "tensor dtype is not u64"

def valuesF64 (tensor : Tensor elements) : Except String (List elements.F64) :=
  match tensor with
  | .f32 _ => tensor.flattenedF32.map (List.map elements.widen)
  | .f64 _ => tensor.flattenedF64
  | .u64 _ => tensor.flattenedU64.map (List.map elements.ofU64)

theorem valuesF64_eq_ok (tensor : Tensor elements) :
    exists values, tensor.valuesF64 = .ok values ∧ values.length = tensor.cells := by
  cases tensor with
  | f32 array => exact ⟨_, rfl, List.length_map _⟩
  | f64 array => exact ⟨_, rfl, rfl⟩
  | u64 array => exact ⟨_, rfl, List.length_map _⟩

/-- Values written back in the type of the tensor. -/
def fromF64Like (tensor : Tensor elements) (shape : List Nat) (values : List elements.F64) :
    Except String (Tensor elements) :=
  match tensor with
  | .f64 _ => denseF64 shape values
  | .u64 _ =>
      if values.all elements.isWhole then denseU64 shape (values.map elements.toU64)
      else denseF32 shape (values.map elements.narrow)
  | .f32 _ => denseF32 shape (values.map elements.narrow)

/-- What is constructed has the shape it was given, and its values. -/
theorem map_new_eq_ok {A : Type} {wrap : ArrayBuf elements A -> Tensor elements} {values : List A} {shape : List Nat}
    {tensor : Tensor elements} :
    (ArrayBuf.new values shape).map wrap = .ok tensor <->
      exists array, wrap array = tensor ∧ array.shape = shape ∧ array.values = values := by
  constructor
  · intro made
    cases built : (ArrayBuf.new values shape : Except String (ArrayBuf elements A)) with
    | error error =>
        rw [built] at made
        cases made
    | ok array =>
        rw [built] at made
        cases made
        exact ⟨array, rfl, ArrayBuf.new_eq_ok.mp built⟩
  · intro made
    rcases made with ⟨array, rfl, parts⟩
    rw [ArrayBuf.new_eq_ok.mpr parts]
    rfl

theorem map_new_isOk_iff {A : Type} {wrap : ArrayBuf elements A -> Tensor elements} {values : List A}
    {shape : List Nat} :
    (exists tensor, (ArrayBuf.new values shape).map wrap = .ok tensor) <->
      elements.arrayError shape values.length = none := by
  constructor
  · intro made
    rcases made with ⟨tensor, made⟩
    rcases map_new_eq_ok.mp made with ⟨array, _, rfl, rfl⟩
    exact array.built
  · intro built
    exact ⟨_, map_new_eq_ok.mpr ⟨⟨shape, values, built⟩, rfl, rfl, rfl⟩⟩

/-- Values are written back if and only if the constructor accepts them. -/
theorem fromF64Like_isOk_iff {tensor : Tensor elements} {shape : List Nat} {values : List elements.F64} :
    (exists result, tensor.fromF64Like shape values = .ok result) <->
      elements.arrayError shape values.length = none := by
  cases tensor with
  | f32 array => exact map_new_isOk_iff.trans (by rw [List.length_map])
  | f64 array => exact map_new_isOk_iff
  | u64 array =>
      unfold fromF64Like
      dsimp only
      split
      · exact map_new_isOk_iff.trans (by rw [List.length_map])
      · exact map_new_isOk_iff.trans (by rw [List.length_map])

/-- The constructor accepts a shape which has an axis if that of the tensor does. -/
theorem accepts (tensor : Tensor elements) {shape : List Nat} {length : Nat}
    (ranked : shape = [] -> tensor.shape = []) (sized : length = product shape) :
    elements.arrayError shape length = none := by
  cases tensor with
  | f32 array => exact array.accepts ranked sized
  | f64 array => exact array.accepts ranked sized
  | u64 array => exact array.accepts ranked sized

/-- Values which fit such a shape are written back. -/
theorem exists_fromF64Like {tensor : Tensor elements} {shape : List Nat} {values : List elements.F64}
    (ranked : shape = [] -> tensor.shape = []) (sized : values.length = product shape) :
    exists result, tensor.fromF64Like shape values = .ok result :=
  fromF64Like_isOk_iff.mpr (tensor.accepts ranked sized)

theorem fromF64Like_shape {tensor result : Tensor elements} {shape : List Nat} {values : List elements.F64}
    (done : tensor.fromF64Like shape values = .ok result) :
    result.shape = shape ∧ result.cells = values.length := by
  cases tensor with
  | f32 array =>
      rcases map_new_eq_ok.mp done with ⟨array, rfl, shaped, same⟩
      exact ⟨shaped, by rw [cells, same, List.length_map]⟩
  | f64 array =>
      rcases map_new_eq_ok.mp done with ⟨array, rfl, shaped, same⟩
      exact ⟨shaped, by rw [cells, same]⟩
  | u64 array =>
      unfold fromF64Like at done
      dsimp only at done
      split at done
      · rcases map_new_eq_ok.mp done with ⟨array, rfl, shaped, same⟩
        exact ⟨shaped, by rw [cells, same, List.length_map]⟩
      · rcases map_new_eq_ok.mp done with ⟨array, rfl, shaped, same⟩
        exact ⟨shaped, by rw [cells, same, List.length_map]⟩

/-! ## Operations -/

def readValue (tensor : Tensor elements) (coord : List Nat) :
    Except (Failure String) (Component elements) := do
  let offset <- coordOffset tensor.shape coord
  match tensor with
  | .f32 array => (indexed array.values offset).map .f32
  | .f64 array => (indexed array.values offset).map .f64
  | .u64 array => (indexed array.values offset).map .u64

def reshape (tensor : Tensor elements) (shape : List Nat) : Except String (Tensor elements) :=
  if product shape ≠ tensor.size then .error "tensor reshape changes size"
  else do
    let values <- tensor.valuesF64
    tensor.fromF64Like shape values

/-- A tensor is reshaped if and only if the constructor accepts its values in the shape. -/
theorem reshape_isOk_iff {tensor : Tensor elements} {shape : List Nat} :
    (exists result, tensor.reshape shape = .ok result) <-> elements.arrayError shape tensor.cells = none := by
  rcases tensor.valuesF64_eq_ok with ⟨values, read, width⟩
  unfold reshape
  rw [read]
  by_cases changes : product shape ≠ tensor.size
  · rw [if_pos changes]
    apply iff_of_false
    · intro impossible
      rcases impossible with ⟨_, impossible⟩
      cases impossible
    · intro built
      apply changes
      rw [← tensor.cells_eq_size]
      exact (elements.arrayError_size built).symm
  · rw [if_neg changes, ← width]
    exact fromF64Like_isOk_iff

theorem reshape_shape {tensor result : Tensor elements} {shape : List Nat}
    (done : tensor.reshape shape = .ok result) : result.shape = shape ∧ result.cells = tensor.cells := by
  rcases tensor.valuesF64_eq_ok with ⟨values, read, width⟩
  unfold reshape at done
  split at done
  · cases done
  · rw [read] at done
    rw [← width]
    exact fromF64Like_shape done

/-- One round of the loop over the axes. -/
def expandAxis (shape : List Nat) (axis : Nat) : Except String (List Nat) :=
  if axis > shape.length then .error "expand_dims axis out of bounds" else .ok (shape.insertIdx axis 1)

/-- A dimension of one at each of the axes, or at the end. -/
def expandedShape (shape : List Nat) : Option (List Nat) -> Except String (List Nat)
  | some axes => axes.foldlM expandAxis shape
  | none => .ok (shape ++ [1])

def expandDims (tensor : Tensor elements) (axes : Option (List Nat)) : Except String (Tensor elements) := do
  let shape <- expandedShape tensor.shape axes
  let values <- tensor.valuesF64
  tensor.fromF64Like shape values

def broadcast (tensor : Tensor elements) (shape : List Nat) : Except (Failure String) (Tensor elements) :=
  if canBroadcastTo tensor.shape shape then do
    let sourceValues <- tensor.valuesF64.mapError Failure.error
    let out <- (List.range (product shape)).mapM (fun cell => do
      let offset <- sourceOffset tensor.shape shape cell
      indexed sourceValues offset)
    (tensor.fromF64Like shape out).mapError Failure.error
  else .error (.error s!"cannot broadcast tensor shape {tensor.shape} into {shape}")

def cond (cond thenTensor elseTensor : Tensor elements) : Except (Failure String) (Tensor elements) := do
  let condValues <- cond.valuesF64.mapError Failure.error
  let thenValues <- thenTensor.valuesF64.mapError Failure.error
  let elseValues <- elseTensor.valuesF64.mapError Failure.error
  if thenValues.length ≠ elseValues.length then
    .error (.error "tensor cond branches must have equal size")
  else if condValues.length ≠ 1 ∧ condValues.length ≠ thenValues.length then
    .error (.error "tensor cond must be scalar or equal size")
  else do
    let out <- (List.range thenValues.length).mapM (fun cell => do
      let condition <- indexed condValues (if condValues.length = 1 then 0 else cell)
      if elements.isZero condition then indexed elseValues cell else indexed thenValues cell)
    (thenTensor.fromF64Like thenTensor.shape out).mapError Failure.error

end Tensor

end Tensors
end TransactionalCollection
