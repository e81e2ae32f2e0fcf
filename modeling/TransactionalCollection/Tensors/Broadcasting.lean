import TransactionalCollection.Tensors.Dense

namespace TransactionalCollection
namespace Tensors

open Execution Native Numeric

/-!
# Counting the cells of a broadcast

The output of a broadcast has as many cells as the product of the target says, which
is not bounded by the size of the source.  Where the source can be broadcast the
loop ends for every target.  The output has the right size if and only if that
product does not wrap, and no step on the way wraps either if and only if no partial
product does.
-/

namespace Tensor

variable {elements : Elements}

/-- As many elements as the product of the dimensions. -/
def WellSized (tensor : Tensor elements) : Prop := tensor.shape.prod = tensor.cells

theorem WellSized.prod_lt {tensor : Tensor elements} (wellSized : tensor.WellSized) :
    tensor.shape.prod < usize := by
  rw [wellSized, tensor.cells_eq_size]
  exact product_lt tensor.shape

/-- An error, or a result of the right size. -/
def BroadcastSized (tensor : Tensor elements) (shape : List Nat) : Prop :=
  (exists error, tensor.broadcast shape = .error (.error error)) ∨
    exists result, tensor.broadcast shape = .ok result ∧ result.shape = shape ∧ result.WellSized

/-- The numbers of which a broadcast is computed: the length of its output, and the
strides and offsets of each cell. -/
structure BroadcastFits (sourceShape shape : List Nat) : Prop where
  length : ProductFits usize shape
  offsets : forall cell, cell < product shape -> forall outCoord sourceCoord,
    (unravelIndex cell shape : Except (Failure String) (List Nat)) = .ok outCoord ->
    projectBroadcastIndex outCoord sourceShape = .ok sourceCoord ->
    ValueFits usize (places sourceShape sourceCoord) 0 1

/-- An error, or a result of the right size which is computed without wrapping. -/
def BroadcastCounts (tensor : Tensor elements) (shape : List Nat) : Prop :=
  (exists error, tensor.broadcast shape = .error (.error error)) ∨
    exists result, tensor.broadcast shape = .ok result ∧ result.shape = shape ∧ result.WellSized ∧
      BroadcastFits tensor.shape shape

theorem product_eq_zero {shape : List Nat} (zero : 0 ∈ shape) : product shape = 0 := by
  rw [product_eq, List.prod_eq_zero zero, Nat.zero_mod]

theorem nonzero_of_cell {shape : List Nat} {cell : Nat} (inside : cell < product shape) : 0 ∉ shape := by
  intro zero
  rw [product_eq_zero zero] at inside
  cases inside

/-- Every cell of the output reads a cell of the source. -/
theorem broadcast_cell {sourceShape shape : List Nat} {A : Type} {values : List A} {cell : Nat}
    (sized : sourceShape.prod = values.length) (small : sourceShape.prod < usize)
    (broadcasts : canBroadcastTo sourceShape shape = true) (inside : cell < product shape) :
    exists value, (do
      let offset <- sourceOffset sourceShape shape cell
      indexed values offset : Except (Failure String) A) = .ok value := by
  have nonzero := nonzero_of_cell inside
  have below := sourceCell_lt (canBroadcastTo_iff.mp broadcasts) nonzero cell
  have unwrapped : sourceCell sourceShape shape cell % usize = sourceCell sourceShape shape cell := by
    apply Nat.mod_eq_of_lt
    exact Nat.lt_trans below small
  have offset : sourceOffset sourceShape shape cell = .ok (sourceCell sourceShape shape cell % usize) :=
    sourceOffset_eq_ok broadcasts nonzero
  rw [unwrapped] at offset
  rw [sized] at below
  rcases indexed_of_lt (E := String) below with ⟨value, found⟩
  exact ⟨value, except_bind_eq_ok.mpr ⟨_, offset, found⟩⟩

/-- Only a shape without axes broadcasts to one without axes. -/
theorem ranked_of_broadcasts {sourceShape shape : List Nat} (broadcasts : canBroadcastTo sourceShape shape = true)
    (scalar : shape = []) : sourceShape = [] := by
  have shorter := (canBroadcastTo_iff.mp broadcasts).1
  rw [scalar] at shorter
  exact List.reverse_eq_nil_iff.mp (List.eq_nil_of_length_eq_zero (Nat.le_zero.mp shorter))

/-- A broadcast which is allowed always ends, with the machine product of cells. -/
theorem broadcast_eq_ok {tensor : Tensor elements} {shape : List Nat} (wellSized : tensor.WellSized)
    (broadcasts : canBroadcastTo tensor.shape shape = true) :
    exists result, tensor.broadcast shape = .ok result ∧ result.shape = shape ∧
      result.cells = product shape := by
  rcases tensor.valuesF64_eq_ok with ⟨values, read, width⟩
  have computed : exists out, (List.range (product shape)).mapM (fun cell => do
      let offset <- sourceOffset tensor.shape shape cell
      indexed values offset : Nat -> Except (Failure String) elements.F64) = .ok out := by
    apply mapM_isOk_iff.mpr
    intro cell member
    apply broadcast_cell ?_ wellSized.prod_lt broadcasts (List.mem_range.mp member)
    rw [width]
    exact wellSized
  rcases computed with ⟨out, computed⟩
  have length : out.length = product shape := by
    rw [(mapM_getElem? computed).1, List.length_range]
  have writes : exists result, tensor.fromF64Like shape out = .ok result :=
    exists_fromF64Like (ranked_of_broadcasts broadcasts) length
  rcases writes with ⟨result, written⟩
  rcases fromF64Like_shape written with ⟨shaped, cells⟩
  refine ⟨result, ?_, shaped, cells.trans length⟩
  unfold broadcast
  rw [if_pos broadcasts, read]
  apply except_bind_eq_ok.mpr
  refine ⟨values, rfl, except_bind_eq_ok.mpr ⟨out, computed, ?_⟩⟩
  rw [written]
  rfl

/-- Projected coordinates of a source which is a `usize` large wrap nowhere. -/
theorem valueFits_projected {sourceRadices targetRadices : List Nat} {cell : Nat}
    (broadcasts : Broadcasts sourceRadices targetRadices) (nonzero : 0 ∉ targetRadices)
    (small : sourceRadices.prod < usize) :
    ValueFits usize (projectedPlaces sourceRadices (digits cell targetRadices)) 0 1 := by
  apply valueFits_of_inRange (broadcasts.inRange nonzero cell) Nat.one_pos
  rw [Nat.one_mul, projectedPlaces_fst]
  · exact small
  · rw [length_digits]
    exact broadcasts.1

theorem broadcastFits {sourceShape shape : List Nat} (small : sourceShape.prod < usize)
    (broadcasts : canBroadcastTo sourceShape shape = true) (fits : ProductFits usize shape) :
    BroadcastFits sourceShape shape := by
  constructor
  · exact fits
  · intro cell inside outCoord sourceCoord unraveled projected
    have nonzero := nonzero_of_cell inside
    rcases unravelIndex_eq_ok.mp unraveled with ⟨_, rfl⟩
    rw [(places_project projected).2, List.reverse_reverse]
    apply valueFits_projected (canBroadcastTo_iff.mp broadcasts)
    · rwa [List.mem_reverse]
    · rwa [List.prod_reverse]

theorem broadcast_refused {tensor : Tensor elements} {shape : List Nat}
    (refused : canBroadcastTo tensor.shape shape = false) :
    exists error, tensor.broadcast shape = .error (.error error) := by
  unfold broadcast
  rw [refused]
  exact ⟨_, rfl⟩

/-- A broadcast has the right size if and only if it is refused, or the product of
the target does not wrap. -/
theorem broadcastSized_iff {tensor : Tensor elements} {shape : List Nat} (wellSized : tensor.WellSized) :
    tensor.BroadcastSized shape <-> canBroadcastTo tensor.shape shape = false ∨ shape.prod < usize := by
  cases broadcasts : canBroadcastTo tensor.shape shape with
  | false => exact iff_of_true (Or.inl (broadcast_refused broadcasts)) (Or.inl rfl)
  | true =>
      rcases broadcast_eq_ok wellSized broadcasts with ⟨result, done, shaped, cells⟩
      constructor
      · intro sized
        right
        rcases sized with refused | counted
        · rcases refused with ⟨error, refused⟩
          cases done.symm.trans refused
        · rcases counted with ⟨other, _, otherShaped, otherSized⟩
          rw [← otherShaped]
          exact otherSized.prod_lt
      · intro condition
        rcases condition with impossible | small
        · cases impossible
        · right
          refine ⟨result, done, shaped, ?_⟩
          rw [WellSized, shaped, cells, product_eq, Nat.mod_eq_of_lt small]

/-- A broadcast counts its cells if and only if it is refused, or no partial product
of the target wraps. -/
theorem broadcastCounts_iff {tensor : Tensor elements} {shape : List Nat} (wellSized : tensor.WellSized) :
    tensor.BroadcastCounts shape <->
      canBroadcastTo tensor.shape shape = false ∨ ProductFits usize shape := by
  cases broadcasts : canBroadcastTo tensor.shape shape with
  | false => exact iff_of_true (Or.inl (broadcast_refused broadcasts)) (Or.inl rfl)
  | true =>
      rcases broadcast_eq_ok wellSized broadcasts with ⟨result, done, shaped, cells⟩
      constructor
      · intro counts
        right
        rcases counts with refused | counted
        · rcases refused with ⟨error, refused⟩
          cases done.symm.trans refused
        · rcases counted with ⟨_, _, _, _, fits⟩
          exact fits.length
      · intro condition
        rcases condition with impossible | fits
        · cases impossible
        · right
          refine ⟨result, done, shaped, ?_, broadcastFits wellSized.prod_lt broadcasts fits⟩
          rw [WellSized, shaped, cells, product_eq, Nat.mod_eq_of_lt fits.prod_lt]

end Tensor

end Tensors
end TransactionalCollection
