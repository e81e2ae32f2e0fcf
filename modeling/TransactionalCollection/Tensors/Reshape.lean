import TransactionalCollection.Tensors.Reading

namespace TransactionalCollection
namespace Tensors

open Execution Native Numeric

/-!
# Reshaping by a product which wraps

A shape is accepted if its machine product is the size of the tensor.  The machine
product is the product reduced by the range of `usize`, and offsets of coordinates
are reduced alike.  So a product beyond that range may be accepted, and then some
coordinate of the new shape lies beyond the buffer.
-/

namespace Tensor

variable {elements : Elements}

/-- Offsets of coordinates stay below the product of the shape. -/
theorem coordOffset_lt {shape coord : List Nat} {offset : Nat}
    (found : coordOffset shape coord = .ok offset) :
    offset < shape.prod := by
  rcases coordOffsetUsize_eq_ok.mp found with ⟨width, inRange, rfl⟩
  have below := value_lt inRange
  rw [places_fst width, List.prod_reverse] at below
  exact Nat.lt_of_le_of_lt (Nat.mod_le _ _) below

/-- The constructor of arrays checks no more of a shape than the length of the buffer. -/
def ChecksLength (elements : Elements) (shape : List Nat) : Prop :=
  forall length, elements.arrayError shape length = none <-> length = product shape

theorem checksLength_of_ranked {shape : List Nat} (ranked : shape ≠ []) : ChecksLength elements shape :=
  fun _ => elements.arrayError_eq_none_iff ranked

/-- A shape is accepted exactly if it has as many cells as the tensor has elements,
and the coordinates of what is accepted address elements. -/
structure ReshapesExactly (tensor : Tensor elements) (shape : List Nat) : Prop where
  accepts : (exists result, tensor.reshape shape = .ok result) <-> shape.prod = tensor.cells
  addresses : forall result, tensor.reshape shape = .ok result ->
    forall coord offset, coordOffset result.shape coord = .ok offset -> offset < result.cells

theorem cells_lt (tensor : Tensor elements) : tensor.cells < usize := by
  rw [tensor.cells_eq_size]
  exact product_lt tensor.shape

/-- Reshaping is exact if and only if the product of the shape is a `usize`, or does
not wrap to the number of elements. -/
theorem reshapesExactly_iff (tensor : Tensor elements) {shape : List Nat} (checks : ChecksLength elements shape) :
    tensor.ReshapesExactly shape <-> shape.prod < usize ∨ shape.prod % usize ≠ tensor.cells := by
  have accepted : (exists result, tensor.reshape shape = .ok result) <->
      shape.prod % usize = tensor.cells := by
    rw [reshape_isOk_iff, checks, product_eq]
    exact eq_comm
  constructor
  · intro reshapes
    by_cases wraps : shape.prod % usize = tensor.cells
    · left
      rw [reshapes.accepts.mp (accepted.mpr wraps)]
      exact tensor.cells_lt
    · exact Or.inr wraps
  · intro condition
    constructor
    · rw [accepted]
      have bound := tensor.cells_lt
      rcases condition with small | differs
      · rw [Nat.mod_eq_of_lt small]
      · constructor
        · intro same
          exact absurd same differs
        · intro same
          rw [same]
          exact Nat.mod_eq_of_lt bound
    · intro result done coord offset found
      rcases reshape_shape done with ⟨shaped, cells⟩
      have wraps := accepted.mp ⟨result, done⟩
      have below := coordOffset_lt found
      rw [shaped] at below
      rcases condition with small | differs
      · rw [Nat.mod_eq_of_lt small] at wraps
        rw [cells, ← wraps]
        exact below
      · exact absurd wraps differs

/-- Reading beyond the buffer panics. -/
theorem readValue_panics {tensor : Tensor elements} {coord : List Nat} {offset : Nat}
    (found : coordOffset tensor.shape coord = .ok offset) (beyond : tensor.cells ≤ offset) :
    exists panic, tensor.readValue coord = .error (.panic panic) := by
  unfold readValue
  cases tensor with
  | f32 array =>
      rw [found]
      change exists panic, (indexed array.values offset).map Component.f32 = .error (.panic panic)
      rw [indexed, List.getElem?_eq_none beyond]
      exact ⟨_, rfl⟩
  | f64 array =>
      rw [found]
      change exists panic, (indexed array.values offset).map Component.f64 = .error (.panic panic)
      rw [indexed, List.getElem?_eq_none beyond]
      exact ⟨_, rfl⟩
  | u64 array =>
      rw [found]
      change exists panic, (indexed array.values offset).map Component.u64 = .error (.panic panic)
      rw [indexed, List.getElem?_eq_none beyond]
      exact ⟨_, rfl⟩

theorem four_built : Elements.rational.arrayError [2, 2] 4 = none := by decide +kernel

/-- Four elements. -/
def four : ArrayBuf Elements.rational UInt64 := ⟨[2, 2], [1, 2, 3, 4], four_built⟩

/-- Four elements in a line. -/
theorem reshapesExactly_four : (Tensor.u64 four).ReshapesExactly [4] :=
  (reshapesExactly_iff _ (checksLength_of_ranked (by decide))).mpr (Or.inl (by decide +kernel))

/-- Four times one more than a quarter of the range. -/
def wrapsToFour : List Nat := [4, 4611686018427387905]

/-- The four elements take a shape of more cells than there are numbers, and reading
one of these cells panics. -/
theorem not_reshapesExactly_four : exists result,
    (Tensor.u64 four : Tensor Elements.rational).reshape wrapsToFour = .ok result ∧
      wrapsToFour.prod ≠ (Tensor.u64 four : Tensor Elements.rational).cells ∧
      coordOffset result.shape [1, 0] = .ok 4611686018427387905 ∧
      exists panic, result.readValue [1, 0] = .error (.panic panic) := by
  have reshaped : exists result,
      (Tensor.u64 four : Tensor Elements.rational).reshape wrapsToFour = .ok result :=
    reshape_isOk_iff.mpr (by decide +kernel)
  rcases reshaped with ⟨result, done⟩
  rcases reshape_shape done with ⟨shaped, cells⟩
  have found : coordOffset result.shape [1, 0] = .ok 4611686018427387905 := by
    rw [shaped]
    rfl
  refine ⟨result, done, by decide +kernel, found, readValue_panics found ?_⟩
  rw [cells]
  decide +kernel

end Tensor

end Tensors
end TransactionalCollection
