import Mathlib.Data.List.Nodup
import TransactionalCollection.Numeric.Inner
import TransactionalCollection.Tensors.Arithmetic
import TransactionalCollection.Tensors.Fibers

namespace TransactionalCollection
namespace Tensors

open Execution Native Numeric

/-!
# Undoing a broadcast

A tensor which has the shape of a copy is summed to the shape of the source: over the
axes which the source does not have, and those which it has only once.  Each element
of the result is the sum of the elements whose coordinates are projected to its own, so
that summing is the adjoint of copying.
-/

variable {elements : Elements}

/-- One round of the loop over the dimensions of the target. -/
def broadcastReduceAxis (inputShape targetShape : List Nat) (leading : Nat) (axes : List Nat) (entry : Nat × Nat) :
    Except (Failure TensorOpError) (List Nat) := do
  let inputAxis := leading + entry.2
  let inputDim <- indexed inputShape inputAxis
  if inputDim = entry.1 then return axes
  else if entry.1 = 1 ∧ inputDim > 1 then return axes ++ [inputAxis]
  else .error (.error (.invalidBroadcastReduce inputShape targetShape))

def broadcastReduceAxes (inputShape targetShape : List Nat) : Except (Failure TensorOpError) (List Nat) :=
  if targetShape.length > inputShape.length then .error (.error (.invalidBroadcastReduce inputShape targetShape))
  else
    let leading := inputShape.length - targetShape.length
    targetShape.zipIdx.foldlM (broadcastReduceAxis inputShape targetShape leading) (List.range leading)

/-- A number is no tensor. -/
def TensorReduceResult.orError {E : Type} (error : E) :
    TensorReduceResult elements -> Except (Failure E) (Tensor elements)
  | .tensor result => .ok result
  | .scalar _ => .error (.error error)

def broadcastReduceSum (ops : FloatOps elements) (input : Tensor elements) (targetShape : List Nat) :
    Except (Failure TensorOpError) (Tensor elements) := do
  let error := TensorOpError.invalidBroadcastReduce input.shape targetShape
  (TensorDtypeGuard.validate input).mapError Failure.error
  let axes <- broadcastReduceAxes input.shape targetShape
  let reduced <- if axes.isEmpty then .ok input else do
    let result <- (input.reduceAxes ops "sum" (some axes) true).mapError (renamed error)
    result.orError error
  (reduced.reshape targetShape).mapError (fun _ => .error error)

/-! ## The axes -/

/-- The axes on which two shapes of one rank differ, from a first axis on. -/
def differing : Nat -> List Nat -> List Nat -> List Nat
  | axis, dim :: shape, other :: target =>
      if dim = other then differing (axis + 1) shape target else axis :: differing (axis + 1) shape target
  | _, _, _ => []

/-- Each dimension of the target is one, or that of the shape. -/
def Fits (target shape : List Nat) : Prop := List.Forall₂ (fun other dim => other = 1 ∨ other = dim) target shape

theorem Fits.cons_iff {dim other : Nat} {shape target : List Nat} : Fits (other :: target) (dim :: shape) <->
    (other = 1 ∨ other = dim) ∧ Fits target shape := List.forall₂_cons

theorem Fits.nonzero {target shape : List Nat} (fits : Fits target shape) (nonzero : 0 ∉ shape) : 0 ∉ target := by
  induction fits with
  | nil => exact nonzero
  | cons first rest inductionHypothesis =>
      rw [List.mem_cons, not_or] at nonzero ⊢
      exact ⟨by omega, inductionHypothesis nonzero.2⟩

/-- A dimension of the target is kept if it is equal, and reduced if it is one. -/
theorem broadcastReduceAxis_eq {inputShape targetShape axes : List Nat} {leading axis dim other : Nat}
    (found : inputShape[leading + axis]? = some dim) (nonzero : dim ≠ 0) :
    broadcastReduceAxis inputShape targetShape leading axes (other, axis) =
      if other = 1 ∨ other = dim then .ok (axes ++ if dim = other then [] else [leading + axis])
      else .error (.error (.invalidBroadcastReduce inputShape targetShape)) := by
  have read : (indexed inputShape (leading + axis) : Except (Failure TensorOpError) Nat) = .ok dim :=
    indexed_eq_ok.mpr found
  unfold broadcastReduceAxis
  dsimp only
  rw [read, except_ok_bind]
  by_cases same : dim = other
  · rw [if_pos same, if_pos (Or.inr same.symm), if_pos same, List.append_nil]
    rfl
  · rw [if_neg same, if_neg same]
    by_cases one : other = 1
    · rw [if_pos (Or.inl one), if_pos ⟨one, by omega⟩]
      rfl
    · rw [if_neg (fun both => one both.1), if_neg (not_or_intro one (Ne.symm same))]

/-- The loop ends well exactly if the target fits, and then has added the axes which differ. -/
theorem foldlM_broadcastReduceAxis {inputShape targetShape before shape target result : List Nat}
    {leading axis : Nat} (axes : List Nat) (split : inputShape = before ++ shape)
    (position : before.length = leading + axis)
    (width : shape.length = target.length) (nonzero : 0 ∉ shape) :
    (target.zipIdx axis).foldlM (broadcastReduceAxis inputShape targetShape leading) axes = .ok result <->
      Fits target shape ∧ axes ++ differing (leading + axis) shape target = result := by
  induction target generalizing before shape axis axes with
  | nil =>
      rw [List.eq_nil_of_length_eq_zero width]
      constructor
      · intro done
        cases done
        exact ⟨.nil, List.append_nil _⟩
      · intro both
        exact congrArg Except.ok ((List.append_nil axes).symm.trans both.2)
  | cons other target inductionHypothesis =>
      cases shape with
      | nil => cases width
      | cons dim shape =>
          rw [List.mem_cons, not_or] at nonzero
          have found : inputShape[leading + axis]? = some dim := by
            rw [split, ← position]
            simp
          have next : inputShape = (before ++ [dim]) ++ shape := by
            rw [split, List.append_assoc]
            rfl
          have moved : (before ++ [dim]).length = leading + (axis + 1) := by
            rw [List.length_append, position]
            rfl
          have later (more : List Nat) :
              (target.zipIdx (axis + 1)).foldlM
                (broadcastReduceAxis inputShape targetShape leading) more = .ok result <->
                Fits target shape ∧ more ++ differing (leading + axis + 1) shape target = result :=
            inductionHypothesis more next moved (Nat.succ.inj width) nonzero.2
          rw [List.zipIdx_cons, List.foldlM_cons, broadcastReduceAxis_eq found (Ne.symm nonzero.1), Fits.cons_iff]
          by_cases fits : other = 1 ∨ other = dim
          · rw [if_pos fits, except_ok_bind, later, and_iff_right fits, differing]
            by_cases same : dim = other
            · rw [if_pos same, if_pos same, List.append_nil]
            · rw [if_neg same, if_neg same, List.append_assoc]
              rfl
          · rw [if_neg fits]
            apply iff_of_false
            · intro impossible
              cases impossible
            · intro both
              exact fits both.1.1

section Aligned

variable {front back target coord : List Nat}

/-- The target fits what is aligned with it exactly if it broadcasts. -/
theorem fits_iff (width : back.length = target.length) :
    Fits target back <-> canBroadcastTo target (front ++ back) = true := by
  have lengths : target.reverse.length = back.reverse.length := by simp [width]
  have aligned : target.reverse.zip (front ++ back).reverse = (target.zip back).reverse := by
    calc target.reverse.zip (front ++ back).reverse
        = (target.reverse ++ []).zip (back.reverse ++ front.reverse) := by
          rw [List.append_nil, List.reverse_append]
      _ = target.reverse.zip back.reverse := by
          rw [List.zip_append lengths, List.zip_nil_left, List.append_nil]
      _ = (target.zip back).reverse := by
          rw [List.zip_eq_zipWith, List.zip_eq_zipWith, List.reverse_zipWith width.symm]
  rw [canBroadcastTo_iff, Broadcasts, aligned, Fits, List.forall₂_iff_zip]
  simp only [List.mem_reverse, List.length_reverse, List.length_append, Prod.forall]
  constructor
  · intro fits
    refine ⟨by omega, ?_⟩
    intro other dim member
    exact fits.2 member
  · intro fits
    refine ⟨width.symm, ?_⟩
    intro other dim member
    exact fits.2 member

theorem le_of_mem_differing {axis first : Nat} (member : axis ∈ differing first back target) : first ≤ axis := by
  induction back generalizing first target with
  | nil => cases member
  | cons dim back inductionHypothesis =>
      cases target with
      | nil => cases member
      | cons other target =>
          rw [differing] at member
          split at member
          · exact Nat.le_of_succ_le (inductionHypothesis member)
          · rcases List.mem_cons.mp member with rfl | later
            · exact Nat.le_refl _
            · exact Nat.le_of_succ_le (inductionHypothesis later)

theorem mem_differing_iff {first index : Nat} : first + index ∈ differing first back target <->
    (List.zipWith (fun dim other => dim != other) back target)[index]? = some true := by
  induction back generalizing first index target with
  | nil => simp [differing]
  | cons dim back inductionHypothesis =>
      cases target with
      | nil => simp [differing]
      | cons other target =>
          rw [differing, List.zipWith_cons_cons]
          cases index with
          | zero =>
              have later : first ∉ differing (first + 1) back target := by
                intro member
                exact absurd (le_of_mem_differing member) (Nat.not_succ_le_self first)
              by_cases same : dim = other <;> simp [same, later]
          | succ index =>
              have next : first + (index + 1) = first + 1 + index := by omega
              have later : first + 1 + index ∈ differing (first + 1) back target <-> _ := inductionHypothesis
              rw [next, List.getElem?_cons_succ, ← later]
              by_cases same : dim = other
              · rw [if_pos same]
              · rw [if_neg same, List.mem_cons]
                apply or_iff_right
                omega

/-- The mask: all of the axes which the target does not have, and those which differ. -/
theorem maskOf_eq (width : back.length = target.length) :
    maskOf (front ++ back).length (List.range front.length ++ differing front.length back target) =
      List.replicate front.length true ++ List.zipWith (fun dim other => dim != other) back target := by
  rw [maskOf, List.length_append, List.range_add, List.map_append, List.map_map]
  congr 1
  · apply List.eq_replicate_iff.mpr
    refine ⟨by simp, ?_⟩
    intro reduced member
    rcases List.mem_map.mp member with ⟨axis, inside, rfl⟩
    apply List.contains_iff_mem.mpr
    exact List.mem_append_left _ inside
  · apply List.ext_getElem?
    intro index
    by_cases inside : index < back.length
    · have found : exists differs, (List.zipWith (fun dim other => dim != other) back target)[index]? = some differs :=
        ⟨_, List.getElem?_eq_getElem (by simp; omega)⟩
      rcases found with ⟨differs, found⟩
      have listed : (front.length + index ∈ differing front.length back target) <-> differs = true := by
        rw [mem_differing_iff, found, Option.some.injEq]
      rw [List.getElem?_map, List.getElem?_range inside, found, Option.map_some, Function.comp_apply]
      apply congrArg some
      apply Bool.eq_iff_iff.mpr
      rw [← listed, List.contains_iff_mem, List.mem_append]
      apply or_iff_right
      simp
    · rw [List.getElem?_eq_none (by simp; omega), List.getElem?_eq_none (by simp; omega)]

/-! ## What remains -/

theorem remaining_append {keepdims : Bool} {fill : Nat} {mask : List Bool} {items : List Nat}
    (width : mask.length = items.length) (others : List Bool) (rest : List Nat) :
    remaining keepdims fill (mask ++ others) (items ++ rest) =
      remaining keepdims fill mask items ++ remaining keepdims fill others rest := by
  rw [remaining, remaining, remaining, List.zipWith_append width, List.reduceOption_append]

theorem remaining_replicate (fill : Nat) (items : List Nat) :
    remaining true fill (List.replicate items.length true) items = List.replicate items.length fill := by
  induction items with
  | nil => rfl
  | cons item items inductionHypothesis =>
      rw [List.length_cons, List.replicate_succ, remaining_cons_filled, inductionHypothesis, List.replicate_succ]

/-- The dimensions which do not differ are those of the target, and so are those which do. -/
theorem Fits.remaining_shape (fits : Fits target back) :
    remaining true 1 (List.zipWith (fun dim other => dim != other) back target) back = target := by
  induction fits with
  | nil => rfl
  | cons first rest inductionHypothesis =>
      rename_i other dim target back
      rw [List.zipWith_cons_cons]
      by_cases same : dim = other
      · rw [same, bne_self_eq_false, remaining_cons_false, inductionHypothesis]
      · have one : other = 1 := first.resolve_right (Ne.symm same)
        rw [bne_iff_ne.mpr same, remaining_cons_filled, inductionHypothesis, one]

theorem Fits.remaining_padded_shape (fits : Fits target back) : remaining true 1
    (List.replicate front.length true ++ List.zipWith (fun dim other => dim != other) back target) (front ++ back) =
      List.replicate front.length 1 ++ target := by
  rw [remaining_append List.length_replicate, remaining_replicate, fits.remaining_shape]

/-- What is left of a coordinate is what it is projected to. -/
theorem Fits.remaining_coord (fits : Fits target back) (within : Within back coord) :
    remaining true 0 (List.zipWith (fun dim other => dim != other) back target) coord =
      List.zipWith projectAxis target coord := by
  induction fits generalizing coord with
  | nil =>
      cases within
      rfl
  | cons first rest inductionHypothesis =>
      rename_i other dim target back
      cases within with
      | cons below within =>
          rw [List.zipWith_cons_cons, List.zipWith_cons_cons, projectAxis]
          by_cases same : dim = other
          · rw [same, bne_self_eq_false, remaining_cons_false, inductionHypothesis within]
            congr 1
            split <;> omega
          · have one : other = 1 := first.resolve_right (Ne.symm same)
            rw [bne_iff_ne.mpr same, remaining_cons_filled, inductionHypothesis within, if_pos one]

/-- The axes are found exactly if the target broadcasts to the input. -/
theorem broadcastReduceAxes_eq_ok (width : back.length = target.length) (nonzero : 0 ∉ front ++ back)
    {axes : List Nat} : broadcastReduceAxes (front ++ back) target = .ok axes <->
      canBroadcastTo target (front ++ back) = true ∧
        List.range front.length ++ differing front.length back target = axes := by
  have shorter : ¬ target.length > (front ++ back).length := by
    rw [List.length_append]
    omega
  have leading : (front ++ back).length - target.length = front.length := by
    rw [List.length_append]
    omega
  have backNonzero : 0 ∉ back := fun member => nonzero (List.mem_append_right front member)
  unfold broadcastReduceAxes
  rw [if_neg shorter, leading]
  dsimp only
  rw [foldlM_broadcastReduceAxis _ rfl (Nat.add_zero front.length).symm width backNonzero, fits_iff width,
    Nat.add_zero]

theorem lt_of_mem_axes {axis : Nat}
    (member : axis ∈ List.range front.length ++ differing front.length back target) :
    axis < (front ++ back).length := by
  rw [List.length_append]
  rcases List.mem_append.mp member with leading | differs
  · rw [List.mem_range] at leading
    omega
  · have position : front.length + (axis - front.length) = axis := by
      have beyond := le_of_mem_differing differs
      omega
    rw [← position, mem_differing_iff] at differs
    rcases List.getElem?_eq_some_iff.mp differs with ⟨inside, _⟩
    rw [List.length_zipWith] at inside
    omega

theorem differing_eq_nil {first : Nat} (width : back.length = target.length)
    (same : differing first back target = []) : back = target := by
  induction back generalizing first target with
  | nil => exact (List.eq_nil_of_length_eq_zero width.symm).symm
  | cons dim back inductionHypothesis =>
      cases target with
      | nil => cases width
      | cons other target =>
          rw [differing] at same
          split at same
          · rename_i equal
            rw [equal, inductionHypothesis (Nat.succ.inj width) same]
          · cases same

end Aligned

/-! ## Padded coordinates -/

section Padded

variable {shape coord : List Nat}

theorem Within.padded (within : Within shape coord) (count : Nat) :
    Within (List.replicate count 1 ++ shape) (List.replicate count 0 ++ coord) := by
  induction count with
  | zero => exact within
  | succ count inductionHypothesis =>
      rw [List.replicate_succ, List.replicate_succ]
      exact Within.cons_iff.mpr ⟨Nat.one_pos, inductionHypothesis⟩

theorem value_padded (shape coord : List Nat) (count : Nat) :
    value (places (List.replicate count 1 ++ shape) (List.replicate count 0 ++ coord)) =
      value (places shape coord) := by
  induction count with
  | zero => rfl
  | succ count inductionHypothesis =>
      have last : places (1 :: (List.replicate count 1 ++ shape)) (0 :: (List.replicate count 0 ++ coord)) =
          places (List.replicate count 1 ++ shape) (List.replicate count 0 ++ coord) ++ [(1, 0)] := by
        rw [places, List.zip_cons_cons, List.reverse_cons]
        rfl
      rw [List.replicate_succ, List.replicate_succ, List.cons_append, List.cons_append, last, value_append,
        Nat.mul_zero, Nat.add_zero, inductionHypothesis]

/-- Dimensions of one add a component of zero to each coordinate. -/
theorem cellCoord_padded (count : Nat) {cell : Nat} (below : cell < shape.prod) (nonzero : 0 ∉ shape) :
    cellCoord (List.replicate count 1 ++ shape) cell = List.replicate count 0 ++ cellCoord shape cell := by
  have within : Within shape (cellCoord shape cell) := within_digits nonzero cell
  have same := value_padded shape (cellCoord shape cell) count
  rw [value_cellCoord below] at same
  rw [← (within.padded count).digits_value, same]
  rfl

end Padded

/-! ## What is projected to a coordinate -/

/-- The flat indices of which the coordinates are projected to a coordinate of the target. -/
def projectedFrom (target shape coord : List Nat) : List Nat :=
  (List.range shape.prod).filter (fun flat =>
    (projectBroadcastIndex (cellCoord shape flat) target).toOption == some coord)

section Projected

variable {front back target shape coord : List Nat}

/-- They are the flat indices which take their value from the cell of the coordinate. -/
theorem projectedFrom_eq_landing (broadcasts : canBroadcastTo target shape = true) (nonzero : 0 ∉ shape)
    (within : Within target coord) : projectedFrom target shape coord =
      landing (sourceCell target shape) (List.range shape.prod) (value (places target coord)) := by
  unfold projectedFrom landing
  apply List.filter_congr
  intro flat inside
  rw [List.mem_range] at inside
  have fromWithin : Within shape (cellCoord shape flat) := within_digits nonzero flat
  rcases fromWithin.projected (canBroadcastTo_iff.mp broadcasts) with ⟨sourceCoord, projected, sourceWithin, same⟩
  rw [value_cellCoord inside] at same
  rw [projected, ← same]
  apply Bool.eq_iff_iff.mpr
  rw [beq_iff_eq, beq_iff_eq]
  constructor
  · intro equal
    cases equal
    rfl
  · intro equal
    exact congrArg some (sourceWithin.offset_injective within equal)

/-- The components on the axes which the target does not have are put to zero. -/
theorem remaining_padded (width : back.length = target.length) (fits : Fits target back)
    (within : Within (front ++ back) coord) :
    projectBroadcastIndex coord target = .ok (List.zipWith projectAxis target (coord.drop front.length)) ∧
      remaining true 0 (List.replicate front.length true ++ List.zipWith (fun dim other => dim != other) back target)
        coord = List.replicate front.length 0 ++ List.zipWith projectAxis target (coord.drop front.length) := by
  have coordWidth := (within_iff.mp within).1
  rw [List.length_append] at coordWidth
  have taken : (coord.take front.length).length = front.length := by
    rw [List.length_take]
    omega
  have backWithin : Within back (coord.drop front.length) := List.forall₂_drop_append _ _ _ within
  constructor
  · have leading : coord.length - target.length = front.length := by omega
    rw [projectBroadcastIndex, if_neg (by omega), leading]
  · have first : remaining true 0 (List.replicate front.length true) (coord.take front.length) =
        List.replicate front.length 0 := by
      have all := remaining_replicate 0 (coord.take front.length)
      rwa [taken] at all
    have sameWidth : (List.replicate front.length true).length = (coord.take front.length).length :=
      List.length_replicate.trans taken.symm
    calc _ = remaining true 0 (List.replicate front.length true ++
            List.zipWith (fun dim other => dim != other) back target)
            (coord.take front.length ++ coord.drop front.length) := by rw [List.take_append_drop]
      _ = _ := by rw [remaining_append sameWidth, first, fits.remaining_coord backWithin]

/-- They are the fiber of the coordinate which is padded. -/
theorem fiber_eq_projectedFrom (width : back.length = target.length) (fits : Fits target back)
    (nonzero : 0 ∉ front ++ back) (within : Within target coord) :
    fiber true (List.replicate front.length true ++ List.zipWith (fun dim other => dim != other) back target)
      (front ++ back) (List.replicate front.length 0 ++ coord) = projectedFrom target (front ++ back) coord := by
  unfold fiber projectedFrom
  apply List.filter_congr
  intro flat _
  have fromWithin : Within (front ++ back) (cellCoord (front ++ back) flat) := within_digits nonzero flat
  have maskWidth : (List.replicate front.length true ++
      List.zipWith (fun dim other => dim != other) back target).length = (front ++ back).length := by
    simp [width]
  have outWithin : Within (remaining true 1 (List.replicate front.length true ++
      List.zipWith (fun dim other => dim != other) back target) (front ++ back))
      (List.replicate front.length 0 ++ coord) := by
    rw [fits.remaining_padded_shape]
    exact within.padded front.length
  rcases remaining_padded width fits fromWithin with ⟨projected, left⟩
  apply Bool.eq_iff_iff.mpr
  rw [← fromWithin.remaining_eq_iff maskWidth outWithin, left, projected, beq_iff_eq, List.append_cancel_left_eq]
  exact (Option.some.injEq _ _).symm.to_iff

end Projected

/-! ## Sums -/

/-- The elements which are projected to a coordinate. -/
def projectedItems (items : List ℚ) (target shape coord : List Nat) : List ℚ :=
  (projectedFrom target shape coord).map (fun flat => items.getD flat 0)

/-- The sums of the elements which are projected to each coordinate. -/
def projectedSums (items : List ℚ) (target shape : List Nat) : List ℚ :=
  (List.range target.prod).map (fun cell => (projectedItems items target shape (cellCoord target cell)).sum)

section Sums

variable {ops : FloatOps elements} {items others : List ℚ} {front back target shape : List Nat}

/-- Of a cell, by the flat indices which take their value from it. -/
theorem projectedItems_cell (broadcasts : canBroadcastTo target shape = true) (nonzero : 0 ∉ shape)
    {cell : Nat} (below : cell < target.prod) : projectedItems items target shape (cellCoord target cell) =
      (landing (sourceCell target shape) (List.range shape.prod) cell).map (fun flat => items.getD flat 0) := by
  have targetNonzero : 0 ∉ target := by
    intro zero
    rw [List.prod_eq_zero zero] at below
    cases below
  have within : Within target (cellCoord target cell) := within_digits targetNonzero cell
  rw [projectedItems, projectedFrom_eq_landing broadcasts nonzero within, value_cellCoord below]

/-- Summing to the same shape changes nothing. -/
theorem projectedSums_self (sized : items.length = shape.prod) (nonzero : 0 ∉ shape) :
    projectedSums items shape shape = items := by
  have alone : forall cell, cell ∈ List.range shape.prod ->
      (projectedItems items shape shape (cellCoord shape cell)).sum = items.getD cell 0 := by
    intro cell member
    have below := List.mem_range.mp member
    have one : landing (sourceCell shape shape) (List.range shape.prod) cell = [cell] := by
      calc landing (sourceCell shape shape) (List.range shape.prod) cell
          = (List.range shape.prod).filter (fun flat => flat == cell) := by
            apply List.filter_congr
            intro flat inside
            rw [sourceCell_self (List.mem_range.mp inside)]
        _ = [cell] := by
            rw [List.filter_beq, List.count_eq_one_of_mem List.nodup_range member]
            rfl
    rw [projectedItems_cell (canBroadcastTo_refl shape) nonzero below, one, List.map_singleton, List.sum_singleton]
  rw [projectedSums, List.map_congr_left alone, ← eq_map_range sized]

/-- What is reduced over the axes which are found are the sums of what is projected. -/
theorem fiberValues_eq_projectedSums (exact : Exact elements ops) (width : back.length = target.length)
    (fits : Fits target back) (nonzero : 0 ∉ front ++ back) (targetNonzero : 0 ∉ target) :
    fiberValues exact.rational sumOf items true
      (List.replicate front.length true ++ List.zipWith (fun dim other => dim != other) back target)
      (front ++ back) = (projectedSums items target (front ++ back)).map exact.rational := by
  have count : (List.replicate front.length 1 ++ target).prod = target.prod := by simp
  unfold fiberValues projectedSums reducedShape
  rw [fits.remaining_padded_shape, count, List.map_map]
  apply List.map_congr_left
  intro cell member
  have below := List.mem_range.mp member
  have within : Within target (cellCoord target cell) := within_digits targetNonzero cell
  rw [exact.sumOf_eq, cellCoord_padded _ below targetNonzero, fiberItems,
    fiber_eq_projectedFrom width fits nonzero within]
  rfl

/-- Weighted by the target and summed, and copied to the shape and weighted there. -/
theorem innerProduct_projectedSums (broadcasts : canBroadcastTo target shape = true) (nonzero : 0 ∉ shape)
    (sized : items.length = shape.prod) (othersSized : others.length = target.prod) :
    innerProduct others (projectedSums items target shape) =
      innerProduct ((List.range shape.prod).map (fun flat => others.getD (sourceCell target shape flat) 0)) items := by
  have cells : projectedSums items target shape = (List.range target.prod).map (fun cell =>
      ((landing (sourceCell target shape) (List.range shape.prod) cell).map (fun flat => items.getD flat 0)).sum) := by
    apply List.map_congr_left
    intro cell member
    rw [projectedItems_cell broadcasts nonzero (List.mem_range.mp member)]
  have inside : forall flat, flat ∈ List.range shape.prod -> sourceCell target shape flat < target.prod :=
    fun flat _ => sourceCell_lt (canBroadcastTo_iff.mp broadcasts) nonzero flat
  calc innerProduct others (projectedSums items target shape)
      = innerProduct ((List.range target.prod).map (fun cell => others.getD cell 0))
          (projectedSums items target shape) := by rw [← eq_map_range othersSized]
    _ = ((List.range shape.prod).map (fun flat =>
          others.getD (sourceCell target shape flat) 0 * items.getD flat 0)).sum := by
        rw [cells, innerProduct_map, sum_landing _ _ inside]
    _ = innerProduct ((List.range shape.prod).map (fun flat => others.getD (sourceCell target shape flat) 0))
          ((List.range shape.prod).map (fun flat => items.getD flat 0)) := by rw [innerProduct_map]
    _ = _ := by rw [← eq_map_range sized]

end Sums

/-! ## Tensors of `f64` -/

section Doubles

variable {array : ArrayBuf elements elements.F64} {shape : List Nat} {values : List elements.F64}

theorem reshape_f64 (built : elements.arrayError shape array.values.length = none) :
    (Tensor.f64 array).reshape shape = .ok (.f64 ⟨shape, array.values, built⟩) := by
  have same : product shape = (Tensor.f64 array).size := (elements.arrayError_size built).symm.trans array.size
  rw [Tensor.reshape, if_neg (not_not_intro same)]
  exact Tensor.map_new_eq_ok.mpr ⟨_, rfl, rfl, rfl⟩

theorem reduceResult_f64 (built : elements.arrayError shape values.length = none) (nonempty : shape ≠ []) :
    (Tensor.f64 array).reduceResult shape values = .ok (.tensor (.f64 ⟨shape, values, built⟩)) := by
  have made : (Tensor.f64 array).fromF64Like shape values = .ok (.f64 ⟨shape, values, built⟩) :=
    Tensor.map_new_eq_ok.mpr ⟨_, rfl, rfl, rfl⟩
  rw [Tensor.reduceResult, if_neg (by simpa using nonempty), made]
  rfl

end Doubles

/-! ## The adjoint -/

section Adjoint

variable {ops : FloatOps elements} {array : ArrayBuf elements elements.F64} {items : List ℚ} {target : List Nat}

/-- No axis is found exactly if the target is the shape itself. -/
theorem eq_of_no_axes {front back : List Nat} (width : back.length = target.length)
    (none : List.range front.length ++ differing front.length back target = []) : front ++ back = target := by
  rcases List.append_eq_nil_iff.mp none with ⟨leading, same⟩
  rw [List.range_eq_nil] at leading
  rw [List.eq_nil_of_length_eq_zero leading, differing_eq_nil width same]
  rfl

/-- Reduced over the axes which are found, the input holds the sums, in a shape with dimensions of one. -/
theorem reduceAxes_f64 (exact : Exact elements ops) (rational : array.values = items.map exact.rational)
    (wellSized : (Tensor.f64 array).WellSized) (nonzero : 0 ∉ array.shape) {front back : List Nat}
    (split : array.shape = front ++ back) (width : back.length = target.length) (fits : Fits target back)
    (targetNonzero : 0 ∉ target) (some : List.range front.length ++ differing front.length back target ≠ [])
    (built : elements.arrayError (List.replicate front.length 1 ++ target)
      ((projectedSums items target array.shape).map exact.rational).length = Option.none) :
    (Tensor.f64 array).reduceAxes ops "sum"
      (.some (List.range front.length ++ differing front.length back target)) true =
      .ok (.tensor (.f64 ⟨List.replicate front.length 1 ++ target,
        (projectedSums items target array.shape).map exact.rational, built⟩)) := by
  have read : (Tensor.f64 array).valuesF64 = .ok (items.map exact.rational) := congrArg Except.ok rational
  have sized : items.length = array.shape.prod := wellSized.length_items read
  have nonempty : items ≠ [] := by
    apply List.ne_nil_of_length_pos
    rw [sized]
    exact prod_pos nonzero
  have shaped : (Tensor.f64 array).shape = front ++ back := split
  have inRange : forall axis, axis ∈ (Option.some (List.range front.length ++
      differing front.length back target)).getD (List.range (Tensor.f64 array).shape.length) ->
      axis < (Tensor.f64 array).shape.length := by
    intro axis member
    rw [shaped]
    exact lt_of_mem_axes member
  have masked : reducedMask (Tensor.f64 array).shape
      (.some (List.range front.length ++ differing front.length back target)) =
      List.replicate front.length true ++ List.zipWith (fun dim other => dim != other) back target := by
    rw [shaped]
    exact maskOf_eq width
  have ranked : List.replicate front.length 1 ++ target ≠ [] := by
    intro empty
    rcases List.append_eq_nil_iff.mp empty with ⟨noFront, noTarget⟩
    rw [List.replicate_eq_nil_iff] at noFront
    rw [noTarget, List.length_nil] at width
    rw [noFront, List.eq_nil_of_length_eq_zero width] at some
    exact some rfl
  rw [reduceAxes_eq exact read wellSized nonempty (fun _ => rfl) true inRange masked, shaped,
    fiberValues_eq_projectedSums exact width fits (split ▸ nonzero) targetNonzero, reducedShape,
    fits.remaining_padded_shape, ← split, reduceResult_f64 built ranked]

/-- The axes which the target does not have, and those which it is aligned with. -/
theorem exists_aligned {shape : List Nat} (shorter : target.length ≤ shape.length) :
    exists front back, shape = front ++ back ∧ back.length = target.length := by
  refine ⟨shape.take (shape.length - target.length), shape.drop (shape.length - target.length),
    (List.take_append_drop _ _).symm, ?_⟩
  rw [List.length_drop]
  omega

/-- Without an axis to reduce, the input is returned as it is. -/
theorem broadcastReduceSum_of_no_axes (exact : Exact elements ops)
    (rational : array.values = items.map exact.rational)
    (wellSized : (Tensor.f64 array).WellSized) (nonzero : 0 ∉ array.shape) (same : array.shape = target)
    (axes : broadcastReduceAxes array.shape target = .ok []) :
    exists result : ArrayBuf elements elements.F64, broadcastReduceSum ops (.f64 array) target = .ok (.f64 result) ∧
      result.shape = target ∧ result.values = (projectedSums items target array.shape).map exact.rational := by
  have sized : items.length = array.shape.prod := wellSized.length_items (congrArg Except.ok rational)
  have unchanged : elements.arrayError target array.values.length = none := same ▸ array.built
  refine ⟨⟨target, array.values, unchanged⟩, ?_, rfl, ?_⟩
  · change broadcastReduceAxes array.shape target >>= _ = _
    rw [axes, except_ok_bind]
    change ((Tensor.f64 array).reshape target).mapError _ = _
    rw [reshape_f64 unchanged]
    rfl
  · rw [same] at sized nonzero
    rw [rational, same, projectedSums_self sized nonzero]

/-- What is left of summing where the target broadcasts to the input. -/
theorem broadcastReduceSum_eq (exact : Exact elements ops) (rational : array.values = items.map exact.rational)
    (wellSized : (Tensor.f64 array).WellSized) (nonzero : 0 ∉ array.shape)
    (broadcasts : canBroadcastTo target array.shape = true) (ranked : target ≠ []) :
    exists result : ArrayBuf elements elements.F64, broadcastReduceSum ops (.f64 array) target = .ok (.f64 result) ∧
      result.shape = target ∧ result.values = (projectedSums items target array.shape).map exact.rational := by
  have small : array.shape.prod < usize := wellSized.prod_lt
  have bounds := canBroadcastTo_iff.mp broadcasts
  have fewer : target.prod ≤ array.shape.prod := broadcasts_prod_le bounds nonzero
  have shorter : target.length ≤ array.shape.length := by simpa using bounds.1
  rcases exists_aligned shorter with ⟨front, back, split, width⟩
  have fits : Fits target back := (fits_iff width).mpr (split ▸ broadcasts)
  have targetNonzero : 0 ∉ target := by
    apply fits.nonzero
    intro member
    rw [split] at nonzero
    exact nonzero (List.mem_append_right front member)
  have axes : broadcastReduceAxes array.shape target =
      .ok (List.range front.length ++ differing front.length back target) := by
    rw [split]
    exact (broadcastReduceAxes_eq_ok width (split ▸ nonzero)).mpr ⟨split ▸ broadcasts, rfl⟩
  have size : ((projectedSums items target array.shape).map exact.rational).length = product target := by
    rw [product_eq, Nat.mod_eq_of_lt (Nat.lt_of_le_of_lt fewer small)]
    simp [projectedSums]
  have accepted := (elements.arrayError_eq_none_iff ranked).mpr size
  by_cases none : List.range front.length ++ differing front.length back target = []
  · have same : array.shape = target := split.trans (eq_of_no_axes width none)
    rw [none] at axes
    exact broadcastReduceSum_of_no_axes exact rational wellSized nonzero same axes
  · have padded : ((projectedSums items target array.shape).map exact.rational).length =
        product (List.replicate front.length 1 ++ target) := by
      rw [size, product_eq, product_eq]
      simp
    have padding := (elements.arrayError_eq_none_iff (List.append_ne_nil_of_right_ne_nil _ ranked)).mpr padded
    have reduced := reduceAxes_f64 exact rational wellSized nonzero split width fits targetNonzero none padding
    refine ⟨⟨target, _, accepted⟩, ?_, rfl, rfl⟩
    have some : ¬ (List.range front.length ++ differing front.length back target).isEmpty = true := by
      rwa [List.isEmpty_iff]
    change broadcastReduceAxes array.shape target >>= _ = _
    rw [axes, except_ok_bind, if_neg some, reduced]
    change (Tensor.reshape _ target).mapError _ = _
    rw [reshape_f64 accepted]
    rfl

/-- A target which does not broadcast to the input is refused. -/
theorem broadcasts_of_broadcastReduceSum {result : Tensor elements} (nonzero : 0 ∉ array.shape)
    (done : broadcastReduceSum ops (.f64 array) target = .ok result) : canBroadcastTo target array.shape = true := by
  rcases except_bind_eq_ok.mp done with ⟨_, _, rest⟩
  rcases except_bind_eq_ok.mp rest with ⟨axes, found, _⟩
  change broadcastReduceAxes array.shape target = .ok axes at found
  by_cases longer : target.length > array.shape.length
  · rw [broadcastReduceAxes, if_pos longer] at found
    cases found
  · rcases exists_aligned (Nat.le_of_not_gt longer) with ⟨front, back, split, width⟩
    rw [split] at found nonzero ⊢
    exact ((broadcastReduceAxes_eq_ok width nonzero).mp found).1

/-- Each coordinate reads the sum of what is projected to it. -/
theorem readValue_projectedSums (exact : Exact elements ops) {result : ArrayBuf elements elements.F64}
    {shape coord : List Nat} (shaped : result.shape = target)
    (values : result.values = (projectedSums items target shape).map exact.rational) (within : Within target coord) :
    (Tensor.f64 result).readValue coord =
      .ok (.f64 (exact.rational (projectedItems items target shape coord).sum)) := by
  have resultSized : (Tensor.f64 result).WellSized := by
    change result.shape.prod = result.values.length
    rw [shaped, values]
    simp [projectedSums]
  apply (Tensor.readValue_eq_ok resultSized (by rwa [← shaped] at within)).mpr
  change result.values[value (places result.shape coord)]?.map Component.f64 = _
  rw [shaped, values, projectedSums, List.map_map, List.getElem?_map, List.getElem?_range within.value_lt]
  simp [cellCoord, within.digits_value]

/-- A copy of a tensor of rationals. -/
theorem broadcast_f64 (exact : Exact elements ops) {source : ArrayBuf elements elements.F64} {others : List ℚ}
    {shape : List Nat} (rational : source.values = others.map exact.rational)
    (wellSized : (Tensor.f64 source).WellSized) (broadcasts : canBroadcastTo source.shape shape = true)
    (small : shape.prod < usize) : exists copy, (Tensor.f64 source).broadcast shape = .ok copy ∧ copy.shape = shape ∧
      copy.valuesF64 = .ok (((List.range shape.prod).map (fun flat =>
        others.getD (sourceCell source.shape shape flat) 0)).map exact.rational) := by
  have read : (Tensor.f64 source).valuesF64 = .ok (others.map exact.rational) := congrArg Except.ok rational
  have copied : Tensor.copiedValues source.shape shape (others.map exact.rational) =
      ((List.range shape.prod).map (fun flat => others.getD (sourceCell source.shape shape flat) 0)).map
        exact.rational := by
    rw [Tensor.copiedValues, product_eq, Nat.mod_eq_of_lt small, List.map_map]
    apply List.map_congr_left
    intro flat _
    rw [sourceValue, exact.zero, Function.comp_apply]
    simp [List.getD_eq_getElem?_getD]
  have size : (((List.range shape.prod).map (fun flat =>
      others.getD (sourceCell source.shape shape flat) 0)).map exact.rational).length = product shape := by
    rw [product_eq, Nat.mod_eq_of_lt small]
    simp
  have accepted := (Tensor.f64 source).accepts (Tensor.ranked_of_broadcasts broadcasts) size
  refine ⟨.f64 ⟨shape, _, accepted⟩, ?_, rfl, rfl⟩
  have built : (Tensor.f64 source).fromF64Like shape (((List.range shape.prod).map (fun flat =>
      others.getD (sourceCell source.shape shape flat) 0)).map exact.rational) = .ok (.f64 ⟨shape, _, accepted⟩) :=
    Tensor.map_new_eq_ok.mpr ⟨_, rfl, rfl, rfl⟩
  rw [Tensor.broadcast_eq wellSized read broadcasts]
  change ((Tensor.f64 source).fromF64Like shape (Tensor.copiedValues source.shape shape _)).mapError _ = _
  rw [copied, built]
  rfl

/-- The constructor of arrays refuses a shape without axes. -/
def RefusesScalar (elements : Elements) : Prop := forall length, elements.arrayError [] length ≠ none

theorem RefusesScalar.ranked (refuses : RefusesScalar elements) (tensor : Tensor elements) : tensor.shape ≠ [] := by
  have apart : forall {A : Type} (array : ArrayBuf elements A), array.shape ≠ [] := by
    intro A array scalar
    have built := array.built
    rw [scalar] at built
    exact refuses _ built
  cases tensor with
  | f32 array => exact apart array
  | f64 array => exact apart array
  | u64 array => exact apart array

/-- What is left of summing has the shape of the target, which has an axis. -/
theorem ranked_of_broadcastReduceSum (refuses : RefusesScalar elements) {input result : Tensor elements}
    (done : broadcastReduceSum ops input target = .ok result) : target ≠ [] := by
  rcases except_bind_eq_ok.mp done with ⟨_, _, rest⟩
  rcases except_bind_eq_ok.mp rest with ⟨axes, _, rest⟩
  have reshaped : exists reduced : Tensor elements, reduced.reshape target = .ok result := by
    split at rest
    · exact ⟨input, except_mapError_eq_ok.mp rest⟩
    · rcases except_bind_eq_ok.mp rest with ⟨_, _, rest⟩
      rcases except_bind_eq_ok.mp rest with ⟨reduced, _, rest⟩
      exact ⟨reduced, except_mapError_eq_ok.mp rest⟩
  rcases reshaped with ⟨reduced, reshaped⟩
  rw [← (Tensor.reshape_shape reshaped).1]
  exact refuses.ranked result

/-- A tensor is summed to each shape with an axis which broadcasts to its own, and to no
other.  Each element of the result is the sum of those which are projected to its
coordinate, and the sum is the adjoint of the broadcast. -/
theorem broadcastReduceSum_adjoint (refuses : RefusesScalar elements) (exact : Exact elements ops)
    (rational : array.values = items.map exact.rational) (wellSized : (Tensor.f64 array).WellSized)
    (nonzero : 0 ∉ array.shape) (target : List Nat) :
    ((exists result, broadcastReduceSum ops (.f64 array) target = .ok result) <->
      canBroadcastTo target array.shape = true ∧ target ≠ []) ∧
    forall result, broadcastReduceSum ops (.f64 array) target = .ok result -> result.shape = target ∧
      (forall coord, Within target coord -> result.readValue coord =
        .ok (.f64 (exact.rational (projectedItems items target array.shape coord).sum))) ∧
      forall (other : ArrayBuf elements elements.F64) (others : List ℚ),
        other.shape = target -> other.values = others.map exact.rational -> exists copy copies sums,
          (Tensor.f64 other).broadcast array.shape = .ok copy ∧ copy.shape = array.shape ∧
          copy.valuesF64 = .ok (copies.map exact.rational) ∧ result.valuesF64 = .ok (sums.map exact.rational) ∧
          innerProduct others sums = innerProduct copies items := by
  constructor
  · constructor
    · intro done
      rcases done with ⟨result, done⟩
      exact ⟨broadcasts_of_broadcastReduceSum nonzero done, ranked_of_broadcastReduceSum refuses done⟩
    · intro condition
      rcases condition with ⟨broadcasts, ranked⟩
      rcases broadcastReduceSum_eq exact rational wellSized nonzero broadcasts ranked with ⟨result, done, _⟩
      exact ⟨_, done⟩
  · intro tensor done
    have broadcasts := broadcasts_of_broadcastReduceSum nonzero done
    rcases broadcastReduceSum_eq exact rational wellSized nonzero broadcasts
      (ranked_of_broadcastReduceSum refuses done) with ⟨result, same, shaped, values⟩
    cases done.symm.trans same
    have small : array.shape.prod < usize := wellSized.prod_lt
    have sized : items.length = array.shape.prod := wellSized.length_items (congrArg Except.ok rational)
    have fewer : target.prod ≤ array.shape.prod := broadcasts_prod_le (canBroadcastTo_iff.mp broadcasts) nonzero
    refine ⟨shaped, ?_, ?_⟩
    · intro coord within
      exact readValue_projectedSums exact shaped values within
    · intro other others otherShape otherRational
      have otherFits : other.values.length = target.prod := by
        rw [other.size, otherShape, product_eq, Nat.mod_eq_of_lt (Nat.lt_of_le_of_lt fewer small)]
      have otherSized : (Tensor.f64 other).WellSized := by
        change other.shape.prod = other.values.length
        rw [otherFits, otherShape]
      have counted : others.length = target.prod := by
        rw [otherRational, List.length_map] at otherFits
        exact otherFits
      rcases broadcast_f64 exact otherRational otherSized (by rwa [otherShape]) small with
        ⟨copy, copied, copyShape, read⟩
      rw [otherShape] at read
      exact ⟨copy, _, _, copied, copyShape, read, congrArg Except.ok values,
        innerProduct_projectedSums broadcasts nonzero sized counted⟩

theorem refusesScalar_rational : RefusesScalar Elements.rational := by
  intro length built
  have checked : checkedArray [] length = none := built
  exact (checkedArray_eq_none.mp checked).1 rfl

/-- Two lines of three are summed to one. -/
theorem broadcastReduceSum_adjoint_lines : exists result,
    broadcastReduceSum FloatOps.rational (.f64 twoLines) [3] = .ok result ∧ result.shape = [3] ∧
      result.readValue [1] = .ok (.f64 (.finite ([2, 5] : List ℚ).sum)) := by
  have adjoint := broadcastReduceSum_adjoint refusesScalar_rational Exact.rationals
    (show twoLines.values = ([1, 2, 3, 4, 5, 6] : List ℚ).map _ from rfl)
    (show (Tensor.f64 twoLines).WellSized from rfl) (show 0 ∉ twoLines.shape by decide) [3]
  rcases adjoint.1.mpr ⟨by decide, by decide⟩ with ⟨result, done⟩
  rcases adjoint.2 result done with ⟨shaped, reads, _⟩
  exact ⟨result, done, shaped, reads [1] (List.Forall₂.cons (by decide) .nil)⟩

/-- The shape without axes broadcasts to two lines of three, which are not summed to it. -/
theorem not_broadcastReduceSum_scalar : canBroadcastTo [] twoLines.shape = true ∧
    ¬ exists result, broadcastReduceSum FloatOps.rational (.f64 twoLines) [] = .ok result := by
  refine ⟨by decide, ?_⟩
  rintro ⟨result, done⟩
  exact ranked_of_broadcastReduceSum refusesScalar_rational done rfl

end Adjoint

end Tensors
end TransactionalCollection
