import TransactionalCollection.Numeric.Picking
import TransactionalCollection.Tensors.Cells

namespace TransactionalCollection
namespace Tensors

open Execution Native Numeric

/-!
# Views of arrays

Transposing and slicing an array is left to `ha_ndarray`, which makes a view of the
array; the buffer of the view is then copied into a tensor of its own.  What is asked
of a view is which element of the array it has at a coordinate, and of a slice only
where one is made: an axis is left, and no range begins at the end of its axis.
-/

variable {A : Type} {elements : Elements}

/-- `ha_ndarray::AxisRange`, of which `Of` is never asked for here. -/
inductive AxisRange where
  | at_ (index : Nat)
  | in_ (start stop step : Nat)
  deriving DecidableEq, Repr

namespace AxisRange

/-- All positions of the range are those of an axis. -/
def Valid (dim : Nat) : AxisRange -> Prop
  | at_ index => index < dim
  | in_ start stop step => start ≤ stop ∧ stop ≤ dim ∧ step ≠ 0

/-- An index leaves none of its axis. -/
def keepsAxis : AxisRange -> Bool
  | at_ _ => false
  | in_ _ _ _ => true

/-- The range begins before the end of its axis. -/
def Begins (dim : Nat) : AxisRange -> Prop
  | at_ _ => True
  | in_ start _ _ => start < dim

instance (dim : Nat) : DecidablePred (Valid dim) := fun range =>
  match range with
  | at_ index => inferInstanceAs (Decidable (index < dim))
  | in_ start stop step => inferInstanceAs (Decidable (start ≤ stop ∧ stop ≤ dim ∧ step ≠ 0))

instance (dim : Nat) : DecidablePred (Begins dim) := fun range =>
  match range with
  | at_ _ => inferInstanceAs (Decidable True)
  | in_ start _ _ => inferInstanceAs (Decidable (start < dim))

/-- The ranges of which a slice is made. -/
structure Selects (shape : List Nat) (ranges : List AxisRange) : Prop where
  valid : List.Forall₂ Valid shape ranges
  begins : List.Forall₂ Begins shape ranges
  keeps : exists range, range ∈ ranges ∧ range.keepsAxis = true

instance (shape : List Nat) (ranges : List AxisRange) : Decidable (Selects shape ranges) :=
  decidable_of_iff (List.Forall₂ Valid shape ranges ∧ List.Forall₂ Begins shape ranges ∧
      exists range, range ∈ ranges ∧ range.keepsAxis = true)
    ⟨fun parts => ⟨parts.1, parts.2.1, parts.2.2⟩, fun selects => ⟨selects.valid, selects.begins, selects.keeps⟩⟩

/-- The dimensions of a slice: an index leaves none of its axis. -/
def dims (positions : Nat -> Nat -> Nat -> Nat) : List AxisRange -> List Nat
  | [] => []
  | at_ _ :: ranges => dims positions ranges
  | in_ start stop step :: ranges => positions start stop step :: dims positions ranges

/-- The coordinate which a coordinate of the slice is taken from. -/
def source : List AxisRange -> List Nat -> List Nat
  | at_ index :: ranges, coord => index :: source ranges coord
  | in_ start _ step :: ranges, component :: coord => (start + component * step) :: source ranges coord
  | in_ _ _ _ :: _, [] => []
  | [], _ => []

/-- No position of a range is beyond its end. -/
def Inside (positions : Nat -> Nat -> Nat -> Nat) : Prop :=
  forall {start stop step index : Nat}, step ≠ 0 -> index < positions start stop step -> start + index * step < stop

section Ranges

variable {positions : Nat -> Nat -> Nat -> Nat} {shape : List Nat} {ranges : List AxisRange}

/-- A slice which is made has an axis. -/
theorem dims_ne_nil (positions : Nat -> Nat -> Nat -> Nat)
    (keeps : exists range, range ∈ ranges ∧ range.keepsAxis = true) : dims positions ranges ≠ [] := by
  induction ranges with
  | nil => simp at keeps
  | cons range ranges inductionHypothesis =>
      cases range with
      | at_ index =>
          apply inductionHypothesis
          simpa [keepsAxis] using keeps
      | in_ start stop step => exact List.cons_ne_nil _ _

/-- A coordinate of a slice is taken from one of the shape. -/
theorem within_source (inside : Inside positions) (valid : List.Forall₂ Valid shape ranges) {coord : List Nat}
    (within : Within (dims positions ranges) coord) : Within shape (source ranges coord) := by
  induction valid generalizing coord with
  | nil => exact .nil
  | @cons dim range shape ranges fits rest inductionHypothesis =>
      cases range with
      | at_ index => exact .cons fits (inductionHypothesis within)
      | in_ start stop step =>
          cases within with
          | cons below others =>
              refine .cons ?_ (inductionHypothesis others)
              exact Nat.lt_of_lt_of_le (inside fits.2.2 below) fits.2.1

theorem Inside.le (inside : Inside positions) {start stop step : Nat} (ordered : start ≤ stop) (moves : step ≠ 0) :
    positions start stop step ≤ stop - start := by
  by_contra more
  have beyond := inside moves (Nat.lt_of_not_le more)
  have far : stop - start ≤ (stop - start) * step := Nat.le_mul_of_pos_right _ (Nat.pos_of_ne_zero moves)
  omega

/-- A slice is no larger than the shape. -/
theorem prod_dims_le (inside : Inside positions) (valid : List.Forall₂ Valid shape ranges) :
    (dims positions ranges).prod ≤ shape.prod := by
  induction valid with
  | nil => exact Nat.le_refl _
  | @cons dim range shape ranges fits rest inductionHypothesis =>
      rw [List.prod_cons]
      cases range with
      | at_ index =>
          have positive : 0 < dim := Nat.zero_lt_of_lt fits
          exact Nat.le_trans inductionHypothesis (Nat.le_mul_of_pos_left _ positive)
      | in_ start stop step =>
          rw [dims, List.prod_cons]
          apply Nat.mul_le_mul ?_ inductionHypothesis
          have bounded := inside.le fits.1 fits.2.2
          have within := fits.2.1
          omega

end Ranges

end AxisRange

/-- The views of an array: their shape with the values of their buffer, or the text of
an error; and how many positions a range of an axis has. -/
structure Views (elements : Elements) where
  transpose : forall {A : Type}, ArrayBuf elements A -> List Nat -> Except String (List Nat × List A)
  slice : forall {A : Type}, ArrayBuf elements A -> List AxisRange -> Except String (List Nat × List A)
  positions : Nat -> Nat -> Nat -> Nat

/-- The value of an array at a coordinate. -/
def ArrayBuf.at? (array : ArrayBuf elements A) (coord : List Nat) : Option A :=
  array.values[value (places array.shape coord)]?

section Laws

variable (views : Views elements)

/-- What is documented of the transpose of an array whose size is a `usize`. -/
def Views.Transposes : Prop :=
  forall {A : Type} (array : ArrayBuf elements A) (axes : List Nat), array.shape.prod < usize ->
    Orders axes array.shape.length -> exists values, views.transpose array axes = .ok (pick array.shape axes, values) ∧
      values.length = (pick array.shape axes).prod ∧ forall coord, Within array.shape coord ->
        values[value (places (pick array.shape axes) (pick coord axes))]? = array.at? coord

/-- What is documented of the slices of an array whose size is a `usize`. -/
structure Views.Slices : Prop where
  positions_inside : AxisRange.Inside views.positions
  positions_one : forall {start stop : Nat}, start ≤ stop -> views.positions start stop 1 = stop - start
  selects : forall {A : Type} (array : ArrayBuf elements A) (ranges : List AxisRange), array.shape.prod < usize ->
    AxisRange.Selects array.shape ranges -> exists values,
      views.slice array ranges = .ok (AxisRange.dims views.positions ranges, values) ∧
        values.length = (AxisRange.dims views.positions ranges).prod ∧
          forall coord, Within (AxisRange.dims views.positions ranges) coord ->
            values[value (places (AxisRange.dims views.positions ranges) coord)]? =
              array.at? (AxisRange.source ranges coord)

end Laws

/-! ## Views which are gathered -/

namespace ArrayBuf

/-- The values of a view, cell by cell. -/
def gather (array : ArrayBuf elements A) (shape : List Nat) (source : List Nat -> List Nat) : List A :=
  (List.range shape.prod).filterMap (fun cell => array.at? (source (digits cell shape.reverse).reverse))

theorem sized_of_lt {array : ArrayBuf elements A} (small : array.shape.prod < usize) :
    array.shape.prod = array.values.length := by
  rw [array.size, product_eq, Nat.mod_eq_of_lt small]

theorem at?_isSome {array : ArrayBuf elements A} (small : array.shape.prod < usize) {coord : List Nat}
    (within : Within array.shape coord) : exists item, array.at? coord = some item := by
  have inside := within.value_lt
  rw [sized_of_lt small] at inside
  exact ⟨_, List.getElem?_eq_getElem inside⟩

/-- Each cell is gathered from where it comes. -/
theorem gather_selects {array : ArrayBuf elements A} (small : array.shape.prod < usize) {shape : List Nat}
    {source : List Nat -> List Nat} (within : forall coord, Within shape coord -> Within array.shape (source coord)) :
    (array.gather shape source).length = shape.prod ∧ forall coord, Within shape coord ->
      (array.gather shape source)[value (places shape coord)]? = array.at? (source coord) := by
  have cells : forall cell, cell ∈ List.range shape.prod ->
      exists item, array.at? (source (digits cell shape.reverse).reverse) = some item := by
    intro cell below
    apply at?_isSome small
    apply within
    apply within_digits
    intro zero
    rw [List.prod_eq_zero zero] at below
    cases below
  rcases exists_forall₂_iff.mpr cells with ⟨items, listed⟩
  have same : array.gather shape source = items := filterMap_of_forall₂ listed
  have length : items.length = shape.prod := by
    rw [← listed.length_eq, List.length_range]
  rw [same]
  refine ⟨length, ?_⟩
  intro coord inside
  have below := inside.value_lt
  have found := List.Forall₂.get listed (by rwa [List.length_range]) (by rwa [length])
  rw [List.get_eq_getElem, List.getElem_range, inside.digits_value] at found
  rw [List.getElem?_eq_getElem (by rwa [length]), found]
  rfl

end ArrayBuf

section Orders

variable {axes shape coord : List Nat}

/-- Picking by an order and then by its inverse. -/
theorem pick_there_and_back {items : List A} (orders : Orders axes items.length) :
    pick (pick items axes) (inverse axes) = items := by
  rw [pick_pick orders.inside, pick_inverse orders, pick_range]

theorem pick_back_and_there {items : List A} (orders : Orders axes items.length) :
    pick (pick items (inverse axes)) axes = items := by
  rw [pick_pick orders.inverse.inside, inverse_pick orders, pick_range]

/-- A coordinate of transposed dimensions is one of the shape, in another order. -/
theorem within_inverse (orders : Orders axes shape.length) (within : Within (pick shape axes) coord) :
    Within shape (pick coord (inverse axes)) := by
  have picked : Within (pick (pick shape axes) (inverse axes)) (pick coord (inverse axes)) :=
    forall₂_pick within (inverse axes)
  rwa [pick_there_and_back orders] at picked

theorem Within.length_eq (within : Within shape coord) : coord.length = shape.length :=
  List.Forall₂.length_eq within

end Orders

/-- Views whose values are gathered; a range has as many positions as whole steps. -/
def Views.gathered (elements : Elements) : Views elements where
  transpose array axes :=
    .ok (pick array.shape axes, array.gather (pick array.shape axes) (fun coord => pick coord (inverse axes)))
  slice array ranges :=
    if AxisRange.Selects array.shape ranges then
      .ok (AxisRange.dims (fun start stop step => (stop - start) / step) ranges,
        array.gather (AxisRange.dims (fun start stop step => (stop - start) / step) ranges) (AxisRange.source ranges))
    else .error "invalid slice bounds"
  positions start stop step := (stop - start) / step

theorem Views.gathered_inside (elements : Elements) : AxisRange.Inside (Views.gathered elements).positions := by
  intro start stop step index moves below
  have whole : (index + 1) * step ≤ stop - start :=
    (Nat.le_div_iff_mul_le (Nat.pos_of_ne_zero moves)).mp (Nat.succ_le_of_lt below)
  have less : index * step < (index + 1) * step := Nat.mul_lt_mul_of_pos_right (Nat.lt_succ_self index)
    (Nat.pos_of_ne_zero moves)
  omega

theorem Views.gathered_transposes : (Views.gathered elements).Transposes := by
  intro A array axes small orders
  rcases ArrayBuf.gather_selects small (fun _ => within_inverse orders) with ⟨length, selects⟩
  refine ⟨_, rfl, length, ?_⟩
  intro coord within
  have moved : Within (pick array.shape axes) (pick coord axes) := forall₂_pick within axes
  have same : pick (pick coord axes) (inverse axes) = coord := pick_there_and_back (within.length_eq.symm ▸ orders)
  rw [selects _ moved, same]

theorem Views.gathered_slices : (Views.gathered elements).Slices where
  positions_inside := Views.gathered_inside elements
  positions_one := by
    intro start stop _
    exact Nat.div_one _
  selects := by
    intro A array ranges small selected
    rcases ArrayBuf.gather_selects small
      (fun _ => AxisRange.within_source (Views.gathered_inside elements) selected.valid) with ⟨length, selects⟩
    exact ⟨_, if_pos selected, length, selects⟩

namespace Tensor

/-- A view, copied into a tensor of its own. -/
def ofView (dense : List Nat -> List A -> Except String (Tensor elements))
    (view : Except String (List Nat × List A)) : Except String (Tensor elements) := do
  let view <- view
  dense view.1 view.2

/-- A tensor of some shape whose elements are those of another. -/
structure Shows (tensor : Tensor elements) (shape : List Nat) (source : List Nat -> List Nat)
    (result : Tensor elements) : Prop where
  dtype : result.dtypeTag = tensor.dtypeTag
  shaped : result.shape = shape
  wellSized : result.WellSized
  value : forall coord, Within shape coord -> result.readValue coord = tensor.readValue (source coord)

/-! ## One type of elements -/

/-- The tensors of one type of elements. -/
structure Kind (wrap : ArrayBuf elements A -> Tensor elements) (component : A -> Component elements) : Prop where
  shape : forall array, (wrap array).shape = array.shape
  cells : forall array, (wrap array).cells = array.values.length
  tag : forall array other, (wrap array).dtypeTag = (wrap other).dtypeTag
  component : forall array cell, (wrap array).component cell = array.values[cell]?.map component

theorem Kind.f32 : Kind (.f32 : ArrayBuf elements elements.F32 -> Tensor elements) Component.f32 :=
  ⟨fun _ => rfl, fun _ => rfl, fun _ _ => rfl, fun _ _ => rfl⟩

theorem Kind.f64 : Kind (.f64 : ArrayBuf elements elements.F64 -> Tensor elements) Component.f64 :=
  ⟨fun _ => rfl, fun _ => rfl, fun _ _ => rfl, fun _ _ => rfl⟩

theorem Kind.u64 : Kind (.u64 : ArrayBuf elements UInt64 -> Tensor elements) Component.u64 :=
  ⟨fun _ => rfl, fun _ => rfl, fun _ _ => rfl, fun _ _ => rfl⟩

namespace Kind

variable {wrap : ArrayBuf elements A -> Tensor elements} {component : A -> Component elements}
    (kind : Kind wrap component)

include kind

theorem readValue_eq {array : ArrayBuf elements A} {coord : List Nat} {item : A} (wellSized : (wrap array).WellSized)
    (within : Within array.shape coord) (found : array.at? coord = some item) :
    (wrap array).readValue coord = .ok (component item) := by
  rw [← kind.shape array] at within
  apply (readValue_eq_ok wellSized within).mpr
  rw [kind.component, kind.shape]
  exact congrArg (Option.map component) found

/-- A view of an array becomes a tensor which shows the elements of the array. -/
theorem ofView_shows {array : ArrayBuf elements A} {shape : List Nat} {values : List A} {source : List Nat -> List Nat}
    (wellSized : (wrap array).WellSized) (ranked : shape = [] -> array.shape = [])
    (length : values.length = shape.prod) (viewSmall : shape.prod < usize)
    (within : forall coord, Within shape coord -> Within array.shape (source coord))
    (selects : forall coord, Within shape coord -> values[value (places shape coord)]? = array.at? (source coord)) :
    exists result, ofView (fun shape values => (ArrayBuf.new values shape).map wrap)
      (.ok (shape, values)) = .ok result ∧ Shows (wrap array) shape source result := by
  have small := wellSized.prod_lt
  rw [kind.shape] at small
  have fits : elements.arrayError shape values.length = none := by
    apply array.accepts ranked
    rw [product_eq, Nat.mod_eq_of_lt viewSmall, length]
  have resultSized : (wrap ⟨shape, values, fits⟩).WellSized := by
    rw [WellSized, kind.shape, kind.cells]
    exact length.symm
  refine ⟨_, map_new_eq_ok.mpr ⟨_, rfl, rfl, rfl⟩, kind.tag _ _, kind.shape _, resultSized, ?_⟩
  intro coord inside
  rcases ArrayBuf.at?_isSome small (within coord inside) with ⟨item, found⟩
  rw [kind.readValue_eq wellSized (within coord inside) found]
  exact kind.readValue_eq resultSized inside ((selects coord inside).trans found)

end Kind

/-- Tensors with the same elements in the same cells are the same. -/
theorem eq_of_components {left right : Tensor elements} (tags : left.dtypeTag = right.dtypeTag)
    (shapes : left.shape = right.shape) (same : forall cell, left.component cell = right.component cell) :
    left = right := by
  have arrays : forall {A : Type} {component : A -> Component elements}, Function.Injective component ->
      forall {left right : ArrayBuf elements A}, left.shape = right.shape -> (forall cell : Nat,
        left.values[cell]?.map component = right.values[cell]?.map component) -> left = right := by
    intro A component injective left right shapes same
    have values : left.values = right.values :=
      List.ext_getElem? (fun cell => Option.map_injective injective (same cell))
    cases left
    cases right
    cases shapes
    cases values
    rfl
  cases left with
  | f32 left =>
      cases right with
      | f32 right => exact congrArg Tensor.f32 (arrays (fun _ _ => Component.f32.inj) shapes same)
      | f64 right => simp [dtypeTag] at tags
      | u64 right => simp [dtypeTag] at tags
  | f64 left =>
      cases right with
      | f32 right => simp [dtypeTag] at tags
      | f64 right => exact congrArg Tensor.f64 (arrays (fun _ _ => Component.f64.inj) shapes same)
      | u64 right => simp [dtypeTag] at tags
  | u64 left =>
      cases right with
      | f32 right => simp [dtypeTag] at tags
      | f64 right => simp [dtypeTag] at tags
      | u64 right => exact congrArg Tensor.u64 (arrays (fun _ _ => Component.u64.inj) shapes same)

/-- Each cell is at a coordinate. -/
theorem component_digits {tensor : Tensor elements} (wellSized : tensor.WellSized) {cell : Nat}
    (inside : cell < tensor.cells) : exists coord, Within tensor.shape coord ∧
      value (places tensor.shape coord) = cell := by
  rw [← wellSized] at inside
  have nonzero : 0 ∉ tensor.shape := by
    intro zero
    rw [List.prod_eq_zero zero] at inside
    cases inside
  refine ⟨_, within_digits nonzero cell, ?_⟩
  rw [places_digits, value_digits]
  rwa [List.prod_reverse]

/-- Tensors with the same elements at the same coordinates are the same. -/
theorem eq_of_reads {left right : Tensor elements} (leftSized : left.WellSized) (rightSized : right.WellSized)
    (tags : left.dtypeTag = right.dtypeTag) (shapes : left.shape = right.shape)
    (same : forall coord, Within left.shape coord -> left.readValue coord = right.readValue coord) :
    left = right := by
  have counts : left.cells = right.cells := by rw [← leftSized, ← rightSized, shapes]
  apply eq_of_components tags shapes
  intro cell
  by_cases inside : cell < left.cells
  · rcases component_digits leftSized inside with ⟨coord, within, rfl⟩
    rcases component_isSome_iff.mpr inside with ⟨element, found⟩
    have read := (readValue_eq_ok leftSized within).mpr found
    rw [same coord within] at read
    have there := (readValue_eq_ok rightSized (shapes ▸ within)).mp read
    rw [found, shapes, there]
  · have absent : forall {tensor : Tensor elements}, ¬ cell < tensor.cells -> tensor.component cell = none := by
      intro tensor outside
      apply Option.eq_none_iff_forall_ne_some.mpr
      intro element found
      exact outside (component_isSome_iff.mp ⟨element, found⟩)
    rw [absent inside, absent (counts ▸ inside)]

end Tensor

end Tensors
end TransactionalCollection
