import Mathlib.Data.List.ReduceOption
import TransactionalCollection.Execution.Scattering
import TransactionalCollection.Tensors.Cells
import TransactionalCollection.Tensors.Reduction

namespace TransactionalCollection
namespace Tensors

open Execution Native Numeric

/-!
# Reducing axes

Each element of a tensor updates the accumulator of one cell of the result, the one
whose coordinate is left when the components of the reduced axes are put to zero, or
left out.  So a cell holds the reduction of the elements whose coordinates agree with
its own on the other axes, its fiber, and the fibers of the cells partition the
elements.
-/

variable {E : Type} {elements : Elements}

inductive TensorReduceResult (elements : Elements) where
  | scalar (number : Component elements)
  | tensor (tensor : Tensor elements)

/-! ## Axes -/

/-- One round of the loop over the axes to reduce. -/
def markAxis (rank : Nat) (mask : List Bool) (axis : Nat) : Except (Failure String) (List Bool) :=
  if axis ≥ rank then .error (.error s!"reduction axis {axis} is out of bounds") else replaced mask axis true

def reduceMask (rank : Nat) (axes : List Nat) : Except (Failure String) (List Bool) :=
  axes.foldlM (markAxis rank) (List.replicate rank false)

/-- An axis which is reduced is filled if dimensions are kept, and left out if not. -/
def axisKept (keepdims : Bool) (fill : Nat) (reduced : Bool) (item : Nat) : Option Nat :=
  if reduced then if keepdims then some fill else none else some item

/-- Reduced dimensions are filled with one, and components with zero. -/
def maskedAxes (keepdims : Bool) (fill : Nat) (mask : List Bool) (items : List Nat) :
    Except (Failure E) (List Nat) := do
  let kept <- items.zipIdx.mapM (fun entry => do
    let reduced <- indexed mask entry.2
    return axisKept keepdims fill reduced entry.1)
  return kept.reduceOption

/-! ## The loop -/

/-- One round of the loop over the values. -/
def reduceStep (ops : FloatOps elements) (keepdims : Bool) (mask : List Bool) (shape outShape : List Nat)
    (acc : List (ReduceAccum elements)) (entry : elements.F64 × Nat) :
    Except (Failure String) (List (ReduceAccum elements)) := do
  let coord <- coordFromOffset entry.2 shape (strides shape)
  let outCoord <- maskedAxes keepdims 0 mask coord
  let outOffset := offsetFromCoord outCoord (strides outShape)
  let cell <- indexed acc outOffset
  replaced acc outOffset (cell.update ops entry.1)

namespace Tensor

/-- A number if no dimension is left, and else a tensor of the same type. -/
def reduceResult (tensor : Tensor elements) (outShape : List Nat) (outValues : List elements.F64) :
    Except (Failure String) (TensorReduceResult elements) :=
  if outShape.isEmpty then do
    let number <- indexed outValues 0
    return .scalar (.f64 number)
  else do
    let tensor <- (tensor.fromF64Like outShape outValues).mapError Failure.error
    return .tensor tensor

def reduceAxes (ops : FloatOps elements) (tensor : Tensor elements) (op : String) (axes : Option (List Nat))
    (keepdims : Bool) : Except (Failure String) (TensorReduceResult elements) := do
  let shape := tensor.shape
  let rank := shape.length
  let values <- tensor.valuesF64.mapError Failure.error
  if values.isEmpty then .error (.error "cannot reduce an empty tensor")
  else do
    let mask <- reduceMask rank (axes.getD (List.range rank))
    let outShape <- maskedAxes keepdims 1 mask shape
    let outSize := if outShape.isEmpty then 1 else product outShape
    let acc <- values.zipIdx.foldlM (reduceStep ops keepdims mask shape outShape)
      (List.replicate outSize ReduceAccum.default)
    let outValues <- (acc.mapM (fun accum : ReduceAccum elements => accum.finalize ops op)).mapError Failure.error
    tensor.reduceResult outShape outValues

end Tensor

/-! ## What remains of the axes -/

/-- The axes which are reduced. -/
def maskOf (rank : Nat) (axes : List Nat) : List Bool := (List.range rank).map axes.contains

theorem foldl_true {A : Type} (items : List A) (start : Bool) :
    items.foldl (fun _ _ => true) start = (start || !items.isEmpty) := by
  induction items generalizing start with
  | nil => simp
  | cons item items inductionHypothesis => simp [inductionHypothesis]

theorem isEmpty_landing (axes : List Nat) (axis : Nat) : (landing id axes axis).isEmpty = !axes.contains axis := by
  induction axes with
  | nil => rfl
  | cons first axes inductionHypothesis =>
      by_cases here : first = axis
      · rw [landing_cons_self axes here]
        simp [here]
      · rw [landing_cons_ne axes here, inductionHypothesis]
        simp [Ne.symm here]

/-- The axes which are reduced, all of them if none are given. -/
def reducedMask (shape : List Nat) (axes : Option (List Nat)) : List Bool :=
  maskOf shape.length (axes.getD (List.range shape.length))

theorem reducedMask_length (shape : List Nat) (axes : Option (List Nat)) :
    (reducedMask shape axes).length = shape.length := by
  simp [reducedMask, maskOf]

/-- Repetitions among the axes make no difference. -/
theorem reduceMask_eq {rank : Nat} {axes : List Nat} (inRange : forall axis, axis ∈ axes -> axis < rank) :
    reduceMask rank axes = .ok (maskOf rank axes) := by
  have width : (List.replicate rank false).length = rank := List.length_replicate
  have marked : exists out, axes.foldlM (markAxis rank) (List.replicate rank false) = .ok out ∧
      out.length = (List.replicate rank false).length ∧
      forall cell, cell < (List.replicate rank false).length -> out[cell]? =
        some ((landing id axes cell).foldl (fun _ _ => true) ((List.replicate rank false).getD cell false)) := by
    apply foldlM_scatter
    · intro axis member
      rw [width]
      exact inRange axis member
    · intro acc axis member sized
      have inside := inRange axis member
      rw [markAxis, if_neg (Nat.not_le.mpr inside), replaced, if_pos (by rwa [sized, width])]
      rfl
  rcases marked with ⟨out, done, sized, cells⟩
  rw [reduceMask, done]
  congr 1
  apply List.ext_getElem?
  intro axis
  by_cases inside : axis < rank
  · rw [cells axis (by rwa [width]), maskOf, List.getElem?_map, List.getElem?_range inside, foldl_true,
      isEmpty_landing]
    simp [inside]
  · rw [List.getElem?_eq_none (by omega), List.getElem?_eq_none (by simp [maskOf]; omega)]

/-- What is left of a list of items, one of each axis. -/
def remaining (keepdims : Bool) (fill : Nat) (mask : List Bool) (items : List Nat) : List Nat :=
  (List.zipWith (axisKept keepdims fill) mask items).reduceOption

@[simp] theorem remaining_nil (keepdims : Bool) (fill : Nat) (mask : List Bool) :
    remaining keepdims fill mask [] = [] := by
  simp [remaining]

@[simp] theorem remaining_cons_false (keepdims : Bool) (fill : Nat) (mask : List Bool) (item : Nat)
    (items : List Nat) : remaining keepdims fill (false :: mask) (item :: items) =
      item :: remaining keepdims fill mask items := rfl

@[simp] theorem remaining_cons_filled (fill : Nat) (mask : List Bool) (item : Nat) (items : List Nat) :
    remaining true fill (true :: mask) (item :: items) = fill :: remaining true fill mask items := rfl

@[simp] theorem remaining_cons_left (fill : Nat) (mask : List Bool) (item : Nat) (items : List Nat) :
    remaining false fill (true :: mask) (item :: items) = remaining false fill mask items := rfl

theorem maskedAxes_eq {keepdims : Bool} {fill : Nat} {mask : List Bool} {items : List Nat}
    (width : mask.length = items.length) :
    (maskedAxes keepdims fill mask items : Except (Failure E) (List Nat)) =
      .ok (remaining keepdims fill mask items) := by
  have each : items.zipIdx.mapM (fun entry => (do
      let reduced <- indexed mask entry.2
      return axisKept keepdims fill reduced entry.1 : Except (Failure E) (Option Nat))) =
      .ok (items.zipIdx.map (fun entry => axisKept keepdims fill (mask.getD entry.2 false) entry.1)) := by
    apply mapM_eq_ok_map
    intro entry member
    have inside : entry.2 < mask.length := by
      rw [width]
      exact List.snd_lt_of_mem_zipIdx member
    have found : (indexed mask entry.2 : Except (Failure E) Bool) = .ok (mask.getD entry.2 false) := by
      apply indexed_eq_ok.mpr
      rw [List.getD_eq_getElem?_getD, List.getElem?_eq_getElem inside]
      rfl
    rw [found]
    rfl
  have same : items.zipIdx.map (fun entry => axisKept keepdims fill (mask.getD entry.2 false) entry.1) =
      List.zipWith (axisKept keepdims fill) mask items := by
    apply List.ext_getElem?
    intro axis
    by_cases inside : axis < items.length
    · simp [List.getElem?_zipWith, List.getElem?_eq_getElem inside,
        List.getElem?_eq_getElem (show axis < mask.length by omega)]
    · rw [List.getElem?_eq_none (by simp; omega), List.getElem?_eq_none (by simp; omega)]
  rw [maskedAxes, each, remaining, ← same]
  rfl

section Remaining

variable {keepdims : Bool} {mask : List Bool} {shape coord out : List Nat}

theorem Within.cons_iff {dim component : Nat} {shape coord : List Nat} :
    Within (dim :: shape) (component :: coord) <-> component < dim ∧ Within shape coord := List.forall₂_cons

/-- What is left of a coordinate lies within what is left of its shape. -/
theorem Within.remaining (within : Within shape coord) (width : mask.length = shape.length) :
    Within (remaining keepdims 1 mask shape) (remaining keepdims 0 mask coord) := by
  induction within generalizing mask with
  | nil => simp [Within]
  | cons below rest inductionHypothesis =>
      cases mask with
      | nil => cases width
      | cons reduced mask =>
          have later := inductionHypothesis (Nat.succ.inj width)
          cases reduced with
          | false => exact Within.cons_iff.mpr ⟨below, later⟩
          | true =>
              cases keepdims with
              | false => exact later
              | true => exact Within.cons_iff.mpr ⟨Nat.one_pos, later⟩

/-- The components on the axes which are not reduced. -/
def unreduced (mask : List Bool) (coord : List Nat) : List Nat := remaining false 0 mask coord

/-- The coordinate of an element agrees with that of a cell on the axes which are not reduced. -/
def agrees (keepdims : Bool) (mask : List Bool) (coord out : List Nat) : Bool :=
  unreduced mask coord == if keepdims then unreduced mask out else out

/-- What is left of a coordinate is the one which agrees with it. -/
theorem Within.remaining_eq_iff (within : Within shape coord) (width : mask.length = shape.length)
    (outWithin : Within (Tensors.remaining keepdims 1 mask shape) out) :
    Tensors.remaining keepdims 0 mask coord = out <-> agrees keepdims mask coord out = true := by
  rw [agrees, beq_iff_eq]
  cases keepdims with
  | false => rfl
  | true =>
      rw [if_pos rfl]
      induction within generalizing mask out with
      | nil =>
          rw [remaining_nil] at outWithin
          cases outWithin
          simp [unreduced]
      | cons below rest inductionHypothesis =>
          cases mask with
          | nil => cases width
          | cons reduced mask =>
              have restWidth := Nat.succ.inj width
              cases reduced with
              | false =>
                  rw [remaining_cons_false] at outWithin
                  cases outWithin with
                  | cons outBelow outRest =>
                      have later := inductionHypothesis restWidth outRest
                      simpa [unreduced] using fun _ => later
              | true =>
                  rw [remaining_cons_filled] at outWithin
                  cases outWithin with
                  | cons outBelow outRest =>
                      have later := inductionHypothesis restWidth outRest
                      rw [Nat.lt_one_iff] at outBelow
                      subst outBelow
                      simpa [unreduced] using later

/-- Each coordinate of the result is left of one of the tensor. -/
theorem exists_remaining (nonzero : 0 ∉ shape) (width : mask.length = shape.length)
    (outWithin : Within (remaining keepdims 1 mask shape) out) :
    exists coord, Within shape coord ∧ remaining keepdims 0 mask coord = out := by
  induction shape generalizing mask out with
  | nil =>
      rw [remaining_nil] at outWithin
      cases outWithin
      exact ⟨[], .nil, remaining_nil keepdims 0 mask⟩
  | cons dim shape inductionHypothesis =>
      rw [List.mem_cons, not_or] at nonzero
      cases mask with
      | nil => cases width
      | cons reduced mask =>
          have restWidth := Nat.succ.inj width
          cases reduced with
          | false =>
              cases outWithin with
              | cons below rest =>
                  rcases inductionHypothesis nonzero.2 restWidth rest with ⟨coord, within, same⟩
                  exact ⟨_ :: coord, Within.cons_iff.mpr ⟨below, within⟩, congrArg (List.cons _) same⟩
          | true =>
              have dimPos : 0 < dim := Nat.pos_of_ne_zero (fun zero => nonzero.1 zero.symm)
              cases keepdims with
              | false =>
                  rcases inductionHypothesis nonzero.2 restWidth outWithin with ⟨coord, within, same⟩
                  exact ⟨0 :: coord, Within.cons_iff.mpr ⟨dimPos, within⟩, same⟩
              | true =>
                  cases outWithin with
                  | cons below rest =>
                      rw [Nat.lt_one_iff] at below
                      subst below
                      rcases inductionHypothesis nonzero.2 restWidth rest with ⟨coord, within, same⟩
                      exact ⟨0 :: coord, Within.cons_iff.mpr ⟨dimPos, within⟩, congrArg (List.cons 0) same⟩

theorem remaining_nonzero (nonzero : 0 ∉ shape) : 0 ∉ remaining keepdims 1 mask shape := by
  induction shape generalizing mask with
  | nil => simp
  | cons dim shape inductionHypothesis =>
      rw [List.mem_cons, not_or] at nonzero
      cases mask with
      | nil => simp [remaining]
      | cons reduced mask =>
          have later : 0 ∉ remaining keepdims 1 mask shape := inductionHypothesis nonzero.2
          cases reduced <;> cases keepdims <;> simp [later, nonzero.1]

/-- The result has no more cells than the tensor. -/
theorem remaining_prod_le (nonzero : 0 ∉ shape) : (remaining keepdims 1 mask shape).prod ≤ shape.prod := by
  induction shape generalizing mask with
  | nil => simp
  | cons dim shape inductionHypothesis =>
      rw [List.mem_cons, not_or] at nonzero
      have dimPos : 0 < dim := Nat.pos_of_ne_zero (fun zero => nonzero.1 zero.symm)
      have restPos := prod_pos nonzero.2
      cases mask with
      | nil => exact Nat.mul_pos dimPos restPos
      | cons reduced mask =>
          have later : (remaining keepdims 1 mask shape).prod ≤ shape.prod := inductionHypothesis nonzero.2
          have wider : (remaining keepdims 1 mask shape).prod ≤ dim * shape.prod :=
            later.trans (Nat.le_mul_of_pos_left _ dimPos)
          cases reduced with
          | false => simpa using Nat.mul_le_mul_left dim later
          | true => cases keepdims <;> simpa using wider

end Remaining

/-! ## Fibers -/

/-- The coordinate of a flat index. -/
def cellCoord (shape : List Nat) (flat : Nat) : List Nat := (digits flat shape.reverse).reverse

/-- The shape of the result. -/
abbrev reducedShape (keepdims : Bool) (mask : List Bool) (shape : List Nat) : List Nat :=
  remaining keepdims 1 mask shape

/-- The elements which agree with a coordinate of the result, by their flat indices. -/
def fiber (keepdims : Bool) (mask : List Bool) (shape out : List Nat) : List Nat :=
  (List.range shape.prod).filter (fun flat => agrees keepdims mask (cellCoord shape flat) out)

/-- The cell of the result which an element updates. -/
def reducedCell (keepdims : Bool) (mask : List Bool) (shape : List Nat) (flat : Nat) : Nat :=
  value (places (reducedShape keepdims mask shape) (remaining keepdims 0 mask (cellCoord shape flat)))

theorem value_cellCoord {shape : List Nat} {flat : Nat} (below : flat < shape.prod) :
    value (places shape (cellCoord shape flat)) = flat := by
  rw [cellCoord, places_digits]
  apply value_digits
  rwa [List.prod_reverse]

section Fibers

variable {keepdims : Bool} {mask : List Bool} {shape out : List Nat}

theorem mem_fiber_iff {flat : Nat} : flat ∈ fiber keepdims mask shape out <->
    flat < shape.prod ∧ agrees keepdims mask (cellCoord shape flat) out = true := by
  rw [fiber, List.mem_filter, List.mem_range]

theorem reducedCell_lt (nonzero : 0 ∉ shape) (width : mask.length = shape.length) (flat : Nat) :
    reducedCell keepdims mask shape flat < (reducedShape keepdims mask shape).prod :=
  ((within_digits nonzero flat).remaining width).value_lt

/-- The elements which update a cell are those of its fiber. -/
theorem landing_eq_fiber (nonzero : 0 ∉ shape) (width : mask.length = shape.length)
    (outWithin : Within (reducedShape keepdims mask shape) out) :
    landing (reducedCell keepdims mask shape) (List.range shape.prod)
      (value (places (reducedShape keepdims mask shape) out)) = fiber keepdims mask shape out := by
  unfold landing fiber
  congr 1
  funext flat
  have within : Within shape (cellCoord shape flat) := within_digits nonzero flat
  apply Bool.eq_iff_iff.mpr
  rw [beq_iff_eq, ← within.remaining_eq_iff width outWithin]
  constructor
  · exact (within.remaining width).offset_injective outWithin
  · intro same
    rw [reducedCell, same]

/-- No fiber is empty. -/
theorem fiber_nonempty (nonzero : 0 ∉ shape) (width : mask.length = shape.length)
    (outWithin : Within (reducedShape keepdims mask shape) out) : fiber keepdims mask shape out ≠ [] := by
  rcases exists_remaining nonzero width outWithin with ⟨coord, within, same⟩
  apply List.ne_nil_of_mem
  apply mem_fiber_iff.mpr
  refine ⟨within.value_lt, ?_⟩
  rw [cellCoord, within.digits_value]
  exact (within.remaining_eq_iff width outWithin).mp same

/-- Each element is in the fiber of one cell. -/
theorem exists_unique_agrees {coord : List Nat} (within : Within shape coord) (width : mask.length = shape.length) :
    exists out, (Within (reducedShape keepdims mask shape) out ∧ agrees keepdims mask coord out = true) ∧
      forall other, Within (reducedShape keepdims mask shape) other ∧ agrees keepdims mask coord other = true ->
        other = out := by
  have left : Within (reducedShape keepdims mask shape) (remaining keepdims 0 mask coord) := within.remaining width
  refine ⟨_, ⟨left, (within.remaining_eq_iff width left).mp rfl⟩, ?_⟩
  intro other agreeing
  exact ((within.remaining_eq_iff width agreeing.1).mpr agreeing.2).symm

end Fibers

/-! ## What the loop leaves -/

theorem zipIdx_eq_map {A : Type} (items : List A) (other : A) :
    items.zipIdx = (List.range items.length).map (fun index => (items.getD index other, index)) := by
  apply List.ext_getElem?
  intro index
  by_cases inside : index < items.length
  · simp [inside]
  · rw [List.getElem?_eq_none (by simp; omega), List.getElem?_eq_none (by simp; omega)]

/-- The items of a cell, where these are counted. -/
theorem landing_zipIdx {A : Type} (cellOf : Nat -> Nat) (items : List A) (other : A) (cell : Nat) :
    (landing (fun entry => cellOf entry.2) items.zipIdx cell).map Prod.fst =
      (landing cellOf (List.range items.length) cell).map (fun index => items.getD index other) := by
  rw [zipIdx_eq_map items other, landing, List.filter_map, List.map_map]
  rfl

section Loop

variable {ops : FloatOps elements} {keepdims : Bool} {mask : List Bool} {shape : List Nat}

/-- A round updates the accumulator of its cell. -/
theorem reduceStep_eq (nonzero : 0 ∉ shape) (small : shape.prod < usize) (width : mask.length = shape.length)
    {acc : List (ReduceAccum elements)} {entry : elements.F64 × Nat} (below : entry.2 < shape.prod)
    (sized : acc.length = (reducedShape keepdims mask shape).prod) :
    reduceStep ops keepdims mask shape (reducedShape keepdims mask shape) acc entry =
      .ok (acc.set (reducedCell keepdims mask shape entry.2)
        ((acc.getD (reducedCell keepdims mask shape entry.2) ReduceAccum.default).update ops entry.1)) := by
  have within : Within shape (cellCoord shape entry.2) := within_digits nonzero entry.2
  have coordinate : (coordFromOffset entry.2 shape (strides shape) : Except (Failure String) (List Nat)) =
      .ok (cellCoord shape entry.2) := coordLoop_eq_ok 0 nonzero small below
  have left : (maskedAxes keepdims 0 mask (cellCoord shape entry.2) : Except (Failure String) (List Nat)) =
      .ok (remaining keepdims 0 mask (cellCoord shape entry.2)) := by
    apply maskedAxes_eq
    rw [width, (within_iff.mp within).1]
  have leftWithin : Within (reducedShape keepdims mask shape) (remaining keepdims 0 mask (cellCoord shape entry.2)) :=
    within.remaining width
  have inside : reducedCell keepdims mask shape entry.2 < (reducedShape keepdims mask shape).prod := leftWithin.value_lt
  have unwrapped : reducedCell keepdims mask shape entry.2 < usize :=
    Nat.lt_of_lt_of_le inside ((remaining_prod_le nonzero).trans small.le)
  have offset : offsetFromCoord (remaining keepdims 0 mask (cellCoord shape entry.2))
      (strides (reducedShape keepdims mask shape)) = reducedCell keepdims mask shape entry.2 := by
    rw [offsetFromCoord_eq (within_iff.mp leftWithin).1]
    exact Nat.mod_eq_of_lt unwrapped
  apply except_bind_eq_ok.mpr
  refine ⟨_, coordinate, except_bind_eq_ok.mpr ⟨_, left, ?_⟩⟩
  dsimp only
  rw [offset]
  apply except_bind_eq_ok.mpr
  exact ⟨_, indexed_eq_getD (by rwa [sized]) ReduceAccum.default, if_pos (by rwa [sized])⟩

/-- The loop leaves in each cell an accumulator which was updated with the values of its fiber. -/
theorem foldlM_reduceStep (ops : FloatOps elements) (keepdims : Bool) (nonzero : 0 ∉ shape)
    (small : shape.prod < usize) (width : mask.length = shape.length)
    {values : List elements.F64} (sized : values.length = shape.prod) :
    values.zipIdx.foldlM (reduceStep ops keepdims mask shape (reducedShape keepdims mask shape))
      (List.replicate (reducedShape keepdims mask shape).prod ReduceAccum.default) =
      .ok ((List.range (reducedShape keepdims mask shape).prod).map (fun cell =>
        ((fiber keepdims mask shape (cellCoord (reducedShape keepdims mask shape) cell)).map
          (fun flat => values.getD flat elements.zero)).foldl (ReduceAccum.update ops) ReduceAccum.default)) := by
  have start : (List.replicate (reducedShape keepdims mask shape).prod
      (ReduceAccum.default : ReduceAccum elements)).length = (reducedShape keepdims mask shape).prod :=
    List.length_replicate
  have below {entry : elements.F64 × Nat} (member : entry ∈ values.zipIdx) : entry.2 < shape.prod := by
    rw [← sized]
    exact List.snd_lt_of_mem_zipIdx member
  have scattered := foldlM_scatter (fun entry : elements.F64 × Nat => reducedCell keepdims mask shape entry.2)
    (fun accum entry => accum.update ops entry.1) ReduceAccum.default
    (fun entry _ => lt_of_lt_of_eq (reducedCell_lt nonzero width entry.2) start.symm)
    (fun acc entry member same => reduceStep_eq nonzero small width (below member) (same.trans start))
  rcases scattered with ⟨acc, done, length, cells⟩
  rw [done]
  congr 1
  apply List.ext_getElem?
  intro cell
  by_cases inside : cell < (reducedShape keepdims mask shape).prod
  · have within : Within (reducedShape keepdims mask shape) (cellCoord (reducedShape keepdims mask shape) cell) :=
      within_digits (remaining_nonzero nonzero) cell
    have landed := landing_zipIdx (reducedCell keepdims mask shape) values elements.zero cell
    have counted := landing_eq_fiber nonzero width within
    rw [value_cellCoord inside, ← sized] at counted
    rw [counted] at landed
    rw [cells cell (by rwa [start]), List.getElem?_map, List.getElem?_range inside, Option.map_some, ← landed,
      List.foldl_map, List.getD_eq_getElem?_getD, List.getElem?_replicate_of_lt inside]
    rfl
  · rw [List.getElem?_eq_none (by omega), List.getElem?_eq_none (by simp; omega)]

end Loop

/-! ## Reduction by fibers -/

section Reduction

variable {ops : FloatOps elements} {tensor : Tensor elements} {items : List ℚ}

/-- The values of a fiber. -/
def fiberItems (items : List ℚ) (keepdims : Bool) (mask : List Bool) (shape out : List Nat) : List ℚ :=
  (fiber keepdims mask shape out).map (fun flat => items.getD flat 0)

/-- The reductions which are supported. -/
def reductions : List String := ["max", "min", "mean", "norm", "product", "std", "sum"]

theorem reducedValue_eq_ok (ops : FloatOps elements) {op : String} (supported : op ∈ reductions) :
    exists reduced : List elements.F64 -> elements.F64,
      forall values, reducedValue ops op values = .ok (reduced values) := by
  simp only [reductions, List.mem_cons, List.not_mem_nil, or_false] at supported
  rcases supported with rfl | rfl | rfl | rfl | rfl | rfl | rfl <;> exact ⟨_, fun _ => rfl⟩

theorem length_fiberItems_le {keepdims : Bool} {mask : List Bool} {shape out : List Nat} :
    (fiberItems items keepdims mask shape out).length ≤ shape.prod := by
  rw [fiberItems, List.length_map, fiber]
  calc _ ≤ (List.range shape.prod).length := List.length_filter_le _ _
    _ = shape.prod := List.length_range

theorem map_fiberItems (exact : Exact elements ops) (keepdims : Bool) (mask : List Bool) (shape out : List Nat) :
    (fiber keepdims mask shape out).map (fun flat => (items.map exact.rational).getD flat elements.zero) =
      (fiberItems items keepdims mask shape out).map exact.rational := by
  rw [fiberItems, List.map_map]
  apply List.map_congr_left
  intro flat _
  rw [exact.zero, Function.comp_apply]
  simp [List.getD_eq_getElem?_getD]

/-- What is written to the cells of the result. -/
def fiberValues (rational : ℚ -> elements.F64) (reduced : List elements.F64 -> elements.F64) (items : List ℚ)
    (keepdims : Bool) (mask : List Bool) (shape : List Nat) : List elements.F64 :=
  (List.range (reducedShape keepdims mask shape).prod).map (fun cell =>
    reduced ((fiberItems items keepdims mask shape (cellCoord (reducedShape keepdims mask shape) cell)).map rational))

/-- Each cell is finalized to the reduction of its fiber. -/
theorem mapM_finalize (exact : Exact elements ops) (items : List ℚ) (keepdims : Bool) {op : String}
    {reduced : List elements.F64 -> elements.F64}
    (reduces : forall values, reducedValue ops op values = .ok (reduced values))
    {mask : List Bool} {shape : List Nat} (nonzero : 0 ∉ shape) (small : shape.prod < usize)
    (width : mask.length = shape.length) :
    ((List.range (reducedShape keepdims mask shape).prod).map (fun cell =>
      ((fiber keepdims mask shape (cellCoord (reducedShape keepdims mask shape) cell)).map
        (fun flat => (items.map exact.rational).getD flat elements.zero)).foldl (ReduceAccum.update ops)
          ReduceAccum.default)).mapM (fun accum => accum.finalize ops op) =
      .ok (fiberValues exact.rational reduced items keepdims mask shape) := by
  rw [List.mapM_map]
  apply mapM_eq_ok_map
  intro cell _
  have within : Within (reducedShape keepdims mask shape) (cellCoord (reducedShape keepdims mask shape) cell) :=
    within_digits (remaining_nonzero nonzero) cell
  rw [Function.comp_apply, map_fiberItems, ← reduces]
  apply finalize_eq exact
  · rw [fiberItems, Ne, List.map_eq_nil_iff]
    exact fiber_nonempty nonzero width within
  · exact Nat.lt_of_le_of_lt length_fiberItems_le small

/-- A shape of which there are elements. -/
theorem nonzero_of_items {A : Type} {items : List A} {shape : List Nat} (sized : items.length = shape.prod)
    (nonempty : items ≠ []) : 0 ∉ shape := by
  intro zero
  rw [List.prod_eq_zero zero] at sized
  exact nonempty (List.eq_nil_of_length_eq_zero sized)

theorem reduceAxes_eq (exact : Exact elements ops) (read : tensor.valuesF64 = .ok (items.map exact.rational))
    (wellSized : tensor.WellSized) (nonempty : items ≠ []) {op : String}
    {reduced : List elements.F64 -> elements.F64}
    (reduces : forall values, reducedValue ops op values = .ok (reduced values))
    {axes : Option (List Nat)} (keepdims : Bool) {mask : List Bool}
    (inRange : forall axis, axis ∈ axes.getD (List.range tensor.shape.length) -> axis < tensor.shape.length)
    (masked : reducedMask tensor.shape axes = mask) :
    tensor.reduceAxes ops op axes keepdims = tensor.reduceResult (reducedShape keepdims mask tensor.shape)
      (fiberValues exact.rational reduced items keepdims mask tensor.shape) := by
  have sized : (items.map exact.rational).length = tensor.shape.prod := wellSized.length read
  have width : mask.length = tensor.shape.length := by rw [← masked, reducedMask_length]
  have nonzero := nonzero_of_items (by rwa [List.length_map] at sized) nonempty
  have small := wellSized.prod_lt
  have outSmall : (reducedShape keepdims mask tensor.shape).prod < usize :=
    Nat.lt_of_le_of_lt (remaining_prod_le nonzero) small
  have outSize : (if (reducedShape keepdims mask tensor.shape).isEmpty then 1
      else product (reducedShape keepdims mask tensor.shape)) = (reducedShape keepdims mask tensor.shape).prod := by
    rw [product_eq, Nat.mod_eq_of_lt outSmall]
    split
    · rename_i empty
      rw [List.isEmpty_iff.mp empty, List.prod_nil]
    · rfl
  have filled : ¬ (items.map exact.rational).isEmpty = true := by simpa using nonempty
  have marked : reduceMask tensor.shape.length (axes.getD (List.range tensor.shape.length)) = .ok mask := by
    rw [← masked]
    exact reduceMask_eq inRange
  have outShape : (maskedAxes keepdims 1 mask tensor.shape : Except (Failure String) (List Nat)) =
      .ok (reducedShape keepdims mask tensor.shape) := maskedAxes_eq width
  have looped := foldlM_reduceStep ops keepdims nonzero small width sized
  have finalized := mapM_finalize exact items keepdims reduces nonzero small width
  simp only [Tensor.reduceAxes, read, Except.mapError, except_ok_bind, if_neg filled, marked, outShape, outSize, looped,
    finalized]

theorem fiberValues_getElem? {rational : ℚ -> elements.F64} {reduced : List elements.F64 -> elements.F64}
    {keepdims : Bool} {mask : List Bool} {shape out : List Nat}
    (outWithin : Within (reducedShape keepdims mask shape) out) :
    (fiberValues rational reduced items keepdims mask shape)[value (places (reducedShape keepdims mask shape) out)]? =
      some (reduced ((fiberItems items keepdims mask shape out).map rational)) := by
  rw [fiberValues, List.getElem?_map, List.getElem?_range outWithin.value_lt, Option.map_some, cellCoord,
    outWithin.digits_value]

end Reduction

namespace TensorReduceResult

def shape : TensorReduceResult elements -> List Nat
  | .scalar _ => []
  | .tensor result => result.shape

/-- What a result holds at a coordinate. -/
def read : TensorReduceResult elements -> List Nat -> Except (Failure String) (Component elements)
  | .scalar number, _ => .ok number
  | .tensor result, coord => result.readValue coord

end TensorReduceResult

/-- The result holds what was written to it, and is a number exactly if it has no dimension. -/
theorem reduceResult_eq {array : ArrayBuf elements elements.F64} {outShape : List Nat} {outValues : List elements.F64}
    (sized : outValues.length = outShape.prod) (small : outShape.prod < usize) :
    exists result, (Tensor.f64 array).reduceResult outShape outValues = .ok result ∧ result.shape = outShape ∧
      ((exists number, result = .scalar number) <-> outShape = []) ∧
      forall out, Within outShape out -> forall float,
        outValues[value (places outShape out)]? = some float -> result.read out = .ok (.f64 float) := by
  unfold Tensor.reduceResult
  cases outShape with
  | nil =>
      have found : exists number, (indexed outValues 0 : Except (Failure String) elements.F64) = .ok number :=
        indexed_of_lt (by rw [sized]; exact Nat.one_pos)
      rcases found with ⟨number, found⟩
      refine ⟨.scalar (.f64 number), ?_, rfl, ⟨fun _ => rfl, fun _ => ⟨_, rfl⟩⟩, ?_⟩
      · rw [if_pos List.isEmpty_nil, found]
        rfl
      · intro out outWithin float same
        cases outWithin
        cases (indexed_eq_ok.mp found).symm.trans same
        rfl
  | cons dim outShape =>
      have built : exists result, (Tensor.f64 array).fromF64Like (dim :: outShape) outValues = .ok result := by
        apply Tensor.exists_fromF64Like (by simp)
        rw [product_eq, Nat.mod_eq_of_lt small, sized]
      rcases built with ⟨result, built⟩
      rcases Tensor.fromF64Like_shape built with ⟨shaped, cells⟩
      have float : (Tensor.f64 array).IsFloat := by simp [Tensor.IsFloat, Tensor.dtypeTag]
      have wellSized : result.WellSized := by rw [Tensor.WellSized, shaped, cells, sized]
      refine ⟨.tensor result, ?_, shaped, ?_, ?_⟩
      · rw [if_neg (by simp), built]
        rfl
      · simp
      · intro out outWithin value same
        apply (Tensor.readValue_eq_ok wellSized (by rwa [shaped])).mpr
        rw [shaped, (Tensor.fromF64Like_component float built).2, same]
        rfl

/-- A list of rationals is reduced as the tensor of these. -/
theorem reduce_dense {ops : FloatOps elements} {op : String} {reduced : List elements.F64 -> elements.F64}
    (reduces : forall values, reducedValue ops op values = .ok (reduced values)) {values : List elements.F64}
    (nonempty : values ≠ []) (short : values.length < usize) :
    exists part, Tensor.denseF64 [values.length] values = .ok part ∧
      part.reduce ops op = .ok (.f64 (reduced values)) := by
  have size : values.length = product [values.length] := by simp [product_eq, Nat.mod_eq_of_lt short]
  have built := (elements.arrayError_eq_none_iff (List.cons_ne_nil values.length [])).mpr size
  refine ⟨.f64 ⟨_, values, built⟩, Tensor.map_new_eq_ok.mpr ⟨_, rfl, rfl, rfl⟩, ?_⟩
  have filled : ¬ values.isEmpty = true := by simpa using nonempty
  change (if values.isEmpty then _ else _) = _
  rw [if_neg filled, reduces]
  rfl

/-- Reduced by axes, a tensor has the shape without them, and in each cell the reduction
of those elements which agree with the cell on the other axes.  Each element is reduced
in one cell. -/
theorem reduceAxes_fibers {ops : FloatOps elements} (exact : Exact elements ops)
    {array : ArrayBuf elements elements.F64}
    {items : List ℚ} (rational : array.values = items.map exact.rational)
    (wellSized : (Tensor.f64 array).WellSized) (nonempty : items ≠ []) {op : String} (supported : op ∈ reductions)
    {axes : Option (List Nat)} (keepdims : Bool)
    (inRange : forall axis, axis ∈ axes.getD (List.range array.shape.length) -> axis < array.shape.length) :
    (exists result, (Tensor.f64 array).reduceAxes ops op axes keepdims = .ok result ∧
      result.shape = reducedShape keepdims (reducedMask array.shape axes) array.shape ∧
      ((exists number, result = .scalar number) <->
        reducedShape keepdims (reducedMask array.shape axes) array.shape = []) ∧
      forall out, Within (reducedShape keepdims (reducedMask array.shape axes) array.shape) out ->
        exists part number,
          Tensor.denseF64 [(fiber keepdims (reducedMask array.shape axes) array.shape out).length]
            ((fiberItems items keepdims (reducedMask array.shape axes) array.shape out).map exact.rational) =
              .ok part ∧
          part.reduce ops op = .ok number ∧ result.read out = .ok number) ∧
    forall flat, flat < items.length -> exists out,
      (Within (reducedShape keepdims (reducedMask array.shape axes) array.shape) out ∧
        flat ∈ fiber keepdims (reducedMask array.shape axes) array.shape out) ∧
      forall other, Within (reducedShape keepdims (reducedMask array.shape axes) array.shape) other ∧
        flat ∈ fiber keepdims (reducedMask array.shape axes) array.shape other -> other = out := by
  have read : (Tensor.f64 array).valuesF64 = .ok (items.map exact.rational) := congrArg Except.ok rational
  have sized : items.length = array.shape.prod := wellSized.length_items read
  have nonzero := nonzero_of_items sized nonempty
  have small : array.shape.prod < usize := wellSized.prod_lt
  have width := reducedMask_length array.shape axes
  constructor
  · rcases reducedValue_eq_ok ops supported with ⟨reduced, reduces⟩
    have reducing := reduceAxes_eq exact read wellSized nonempty reduces keepdims inRange rfl
    have outSized : (fiberValues exact.rational reduced items keepdims (reducedMask array.shape axes)
        array.shape).length = (reducedShape keepdims (reducedMask array.shape axes) array.shape).prod := by
      simp [fiberValues]
    have outSmall : (reducedShape keepdims (reducedMask array.shape axes) array.shape).prod < usize :=
      Nat.lt_of_le_of_lt (remaining_prod_le nonzero) small
    rcases reduceResult_eq outSized outSmall with ⟨result, done, shaped, scalar, reads⟩
    refine ⟨result, reducing.trans done, shaped, scalar, ?_⟩
    intro out outWithin
    have filled := fiber_nonempty nonzero width outWithin
    have listed : (fiberItems items keepdims (reducedMask array.shape axes) array.shape out).map exact.rational ≠
        [] := by
      simpa [fiberItems] using filled
    have short : ((fiberItems items keepdims (reducedMask array.shape axes) array.shape out).map
        exact.rational).length < usize := by
      rw [List.length_map]
      exact Nat.lt_of_le_of_lt length_fiberItems_le small
    rcases reduce_dense reduces listed short with ⟨part, built, reducedPart⟩
    have counted : ((fiberItems items keepdims (reducedMask array.shape axes) array.shape out).map
        exact.rational).length = (fiber keepdims (reducedMask array.shape axes) array.shape out).length := by
      simp [fiberItems]
    rw [counted] at built
    exact ⟨part, _, built, reducedPart, reads out outWithin _ (fiberValues_getElem? outWithin)⟩
  · intro flat below
    rw [sized] at below
    rcases exists_unique_agrees (within_digits nonzero flat) width with ⟨out, ⟨outWithin, agreeing⟩, unique⟩
    refine ⟨out, ⟨outWithin, mem_fiber_iff.mpr ⟨below, agreeing⟩⟩, ?_⟩
    intro other both
    exact unique other ⟨both.1, (mem_fiber_iff.mp both.2).2⟩

theorem readings_built : Elements.rational.arrayError [2, 3] 6 = none := by decide +kernel

/-- Two lines of three. -/
def twoLines : ArrayBuf Elements.rational Elements.rational.F64 :=
  ⟨[2, 3], ([1, 2, 3, 4, 5, 6] : List ℚ).map Reading.finite, readings_built⟩

/-- The deviation of each line, of which the axis is given twice. -/
theorem reduceAxes_fibers_lines : exists result part number,
    (Tensor.f64 twoLines).reduceAxes FloatOps.rational "std" (some [1, 1]) false = .ok result ∧
      result.shape = [2] ∧
      Tensor.denseF64 [3] (([4, 5, 6] : List ℚ).map Exact.rationals.rational) = .ok part ∧
      part.reduce FloatOps.rational "std" = .ok number ∧ result.read [1] = .ok number := by
  rcases (reduceAxes_fibers Exact.rationals (show twoLines.values = ([1, 2, 3, 4, 5, 6] : List ℚ).map _ from rfl)
    (show (Tensor.f64 twoLines).WellSized from rfl) (by simp) (show "std" ∈ reductions by decide) false
    (show forall axis, axis ∈ (some [1, 1]).getD (List.range twoLines.shape.length) -> axis < twoLines.shape.length
      by decide)).1 with ⟨result, done, shaped, _, cells⟩
  rcases cells [1] (List.Forall₂.cons Nat.one_lt_two .nil) with ⟨part, number, built, reduced, read⟩
  exact ⟨result, part, number, done, shaped, built, reduced, read⟩

end Tensors
end TransactionalCollection
