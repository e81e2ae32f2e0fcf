import TransactionalCollection.Tensors.Broadcasting
import TransactionalCollection.Tensors.Indices

namespace TransactionalCollection
namespace Tensors

open Execution Native Numeric

/-!
# The elements of a tensor

An element is read at a coordinate, and stored in the cell which is the flat index of
that coordinate.  Operations read elements as `f64`, and write their results back as
elements of the tensor's type, which are the same where the type is that of the
operand they were read from.
-/

variable {elements : Elements}

/-- `as f64`, of one element. -/
def Component.asF64 : Component elements -> elements.F64
  | .f32 value => elements.widen value
  | .f64 value => value
  | .u64 value => elements.ofU64 value

namespace Tensor

/-- What a cell holds. -/
def component (tensor : Tensor elements) (cell : Nat) : Option (Component elements) :=
  match tensor with
  | .f32 array => array.values[cell]?.map .f32
  | .f64 array => array.values[cell]?.map .f64
  | .u64 array => array.values[cell]?.map .u64

/-- The elements are floats. -/
def IsFloat (tensor : Tensor elements) : Prop := tensor.dtypeTag ≠ "u64"

/-- The element which a float is written back as. -/
def written (tensor : Tensor elements) (value : elements.F64) : Component elements :=
  match tensor with
  | .f32 _ => .f32 (elements.narrow value)
  | .f64 _ => .f64 value
  | .u64 _ => .u64 (elements.toU64 value)

variable {tensor other result : Tensor elements} {shape coord : List Nat} {values : List elements.F64} {cell : Nat}

theorem WellSized.length (wellSized : tensor.WellSized) (read : tensor.valuesF64 = .ok values) :
    values.length = tensor.shape.prod := by
  rcases tensor.valuesF64_eq_ok with ⟨others, same, length⟩
  cases read.symm.trans same
  rw [length, wellSized]

/-- The numbers which are read, where each stands for another. -/
theorem WellSized.length_items {A : Type} {items : List A} {read : A -> elements.F64} (wellSized : tensor.WellSized)
    (reads : tensor.valuesF64 = .ok (items.map read)) : items.length = tensor.shape.prod := by
  have length := wellSized.length reads
  rwa [List.length_map] at length

theorem component_isSome_iff : (exists element, tensor.component cell = some element) <-> cell < tensor.cells := by
  cases tensor with
  | f32 array => simp [component, cells, ← Option.isSome_iff_exists]
  | f64 array => simp [component, cells, ← Option.isSome_iff_exists]
  | u64 array => simp [component, cells, ← Option.isSome_iff_exists]

theorem map_indexed_eq_ok {A B : Type} {items : List A} {index : Nat} {wrap : A -> B} {item : B} :
    (indexed items index : Except (Failure String) A).map wrap = .ok item <->
      items[index]?.map wrap = some item := by
  unfold indexed
  cases items[index]? with
  | none => simp [Except.map]
  | some found => simp [Except.map]

/-- The element at a coordinate is that of its cell. -/
theorem readValue_eq_ok (wellSized : tensor.WellSized) (within : Within tensor.shape coord)
    {element : Component elements} : tensor.readValue coord = .ok element <->
      tensor.component (value (places tensor.shape coord)) = some element := by
  have offset : coordOffset tensor.shape coord = .ok _ := within.coordOffsetUsize_eq wellSized.prod_lt
  unfold readValue
  rw [offset]
  cases tensor with
  | f32 array => exact map_indexed_eq_ok
  | f64 array => exact map_indexed_eq_ok
  | u64 array => exact map_indexed_eq_ok

theorem valuesF64_getElem? (read : tensor.valuesF64 = .ok values) (cell : Nat) :
    values[cell]? = (tensor.component cell).map Component.asF64 := by
  cases tensor with
  | f32 array =>
      cases read
      rw [component, Option.map_map, List.getElem?_map]
      rfl
  | f64 array =>
      cases read
      rw [component, Option.map_map]
      exact Option.map_id'.symm
  | u64 array =>
      cases read
      rw [component, Option.map_map, List.getElem?_map]
      rfl

/-! ## Results -/

theorem written_congr (same : tensor.dtypeTag = other.dtypeTag) : tensor.written = other.written := by
  cases tensor <;> cases other <;> first | rfl | simp [dtypeTag] at same

theorem fromF64Like_component (float : tensor.IsFloat) (done : tensor.fromF64Like shape values = .ok result) :
    result.dtypeTag = tensor.dtypeTag ∧
      forall cell, result.component cell = values[cell]?.map tensor.written := by
  cases tensor with
  | f32 array =>
      rcases map_new_eq_ok.mp done with ⟨array, rfl, _, same⟩
      refine ⟨rfl, ?_⟩
      intro cell
      rw [component, same, List.getElem?_map, Option.map_map]
      rfl
  | f64 array =>
      rcases map_new_eq_ok.mp done with ⟨array, rfl, _, same⟩
      refine ⟨rfl, ?_⟩
      intro cell
      rw [component, same]
      rfl
  | u64 array => exact absurd rfl float

/-- A float which may have been read from an element of the tensor's type. -/
def Holds (tensor : Tensor elements) (value : elements.F64) : Prop :=
  match tensor with
  | .f32 _ => exists element, value = elements.widen element
  | .f64 _ => True
  | .u64 _ => exists element, value = elements.ofU64 element

end Tensor

end Tensors
end TransactionalCollection
