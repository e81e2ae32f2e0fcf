import TransactionalCollection.Tensors.Slicing
import TransactionalCollection.Tensors.Transposing

namespace TransactionalCollection
namespace Tensors

open Execution Native Numeric

/-!
# The transpose of a slice

Slicing and transposing commute: the ranges are transposed with the axes, and those of
the axes which a slice keeps are counted among themselves.
-/

variable {elements : Elements}

/-! ## Ranges with their components -/

namespace AxisRange

/-- The dimension which is kept of an axis. -/
def width (positions : Nat -> Nat -> Nat -> Nat) : AxisRange -> Option Nat
  | at_ _ => none
  | in_ start stop step => some (positions start stop step)

/-- The component of a coordinate, if the axis is kept. -/
def component : AxisRange × Nat -> Option Nat
  | (at_ _, _) => none
  | (in_ _ _ _, component) => some component

/-- Where the component is taken from. -/
def origin : AxisRange × Nat -> Nat
  | (at_ index, _) => index
  | (in_ start _ step, component) => start + component * step

theorem dims_eq (positions : Nat -> Nat -> Nat -> Nat) (ranges : List AxisRange) :
    dims positions ranges = ranges.filterMap (width positions) := by
  induction ranges with
  | nil => rfl
  | cons range ranges inductionHypothesis =>
      cases range with
      | at_ index => exact inductionHypothesis
      | in_ start stop step => exact congrArg (List.cons _) inductionHypothesis

theorem marks_width (positions : Nat -> Nat -> Nat -> Nat) (ranges : List AxisRange) :
    marks (width positions) ranges = ranges.map keepsAxis := by
  apply List.map_congr_left
  intro range _
  cases range <;> rfl

theorem marks_component (items : List (AxisRange × Nat)) :
    marks component items = (items.map Prod.fst).map keepsAxis := by
  rw [List.map_map]
  apply List.map_congr_left
  intro item _
  rcases item with ⟨index | ⟨start, stop, step⟩, count⟩ <;> rfl

theorem source_items (items : List (AxisRange × Nat)) :
    source (items.map Prod.fst) (items.filterMap component) = items.map origin := by
  induction items with
  | nil => rfl
  | cons item items inductionHypothesis =>
      rcases item with ⟨index | ⟨start, stop, step⟩, count⟩
      · exact congrArg (List.cons index) inductionHypothesis
      · exact congrArg (List.cons (start + count * step)) inductionHypothesis

/-- The components of a coordinate stand beside the ranges of their axes. -/
theorem exists_items {positions : Nat -> Nat -> Nat -> Nat} {ranges : List AxisRange} {coord : List Nat}
    (length : coord.length = (dims positions ranges).length) : exists items : List (AxisRange × Nat),
      items.map Prod.fst = ranges ∧ items.filterMap component = coord := by
  induction ranges generalizing coord with
  | nil => exact ⟨[], rfl, (List.length_eq_zero_iff.mp length).symm⟩
  | cons range ranges inductionHypothesis =>
      cases range with
      | at_ index =>
          rcases inductionHypothesis length with ⟨items, rfl, rfl⟩
          exact ⟨(.at_ index, 0) :: items, rfl, rfl⟩
      | in_ start stop step =>
          cases coord with
          | nil => cases length
          | cons count coord =>
              rcases inductionHypothesis (Nat.succ.inj length) with ⟨items, rfl, rfl⟩
              exact ⟨(.in_ start stop step, count) :: items, rfl, rfl⟩

section Orders

variable {positions : Nat -> Nat -> Nat -> Nat} {ranges : List AxisRange} (axes : List Nat)

/-- The dimensions of transposed ranges. -/
theorem dims_pick (ranges : List AxisRange) : dims positions (pick ranges axes) =
    pick (dims positions ranges) (renumber (ranges.map keepsAxis) axes) := by
  rw [dims_eq, dims_eq, ← marks_width positions, pick_renumber]

theorem orders_renumber {axes} (orders : Orders axes ranges.length) :
    Orders (renumber (ranges.map keepsAxis) axes) (dims positions ranges).length := by
  rw [dims_eq, ← marks_width positions]
  exact orders.renumber

/-- A transposed coordinate is taken from the transposed source. -/
theorem source_pick {coord : List Nat} (length : coord.length = (dims positions ranges).length) :
    source (pick ranges axes) (pick coord (renumber (ranges.map keepsAxis) axes)) =
      pick (source ranges coord) axes := by
  rcases exists_items length with ⟨items, rfl, rfl⟩
  rw [← marks_component, pick_renumber, ← map_pick, source_items, source_items, map_pick]

end Orders

/-- Transposed ranges are made a slice of a transposed shape. -/
theorem Selects.pick {shape axes : List Nat} {ranges : List AxisRange} (selects : Selects shape ranges)
    (orders : Orders axes ranges.length) : Selects (Numeric.pick shape axes) (Numeric.pick ranges axes) := by
  refine ⟨forall₂_pick selects.valid axes, forall₂_pick selects.begins axes, ?_⟩
  rcases selects.keeps with ⟨range, member, keeps⟩
  exact ⟨range, orders.pick_perm.mem_iff.mpr member, keeps⟩

theorem length_source {positions : Nat -> Nat -> Nat -> Nat} {ranges : List AxisRange} {coord : List Nat}
    (length : coord.length = (dims positions ranges).length) : (source ranges coord).length = ranges.length := by
  rcases exists_items length with ⟨items, rfl, rfl⟩
  rw [source_items, List.length_map, List.length_map]

end AxisRange

/-! ## Slices of transposed tensors -/

namespace Tensor

variable {views : Views elements} {tensor middle result : Tensor elements} {ranges : List AxisRange} {axes : List Nat}

/-- What shows what shows a tensor. -/
theorem Shows.trans {first second : List Nat} {source others : List Nat -> List Nat}
    (shows : tensor.Shows first source middle) (then_ : middle.Shows second others result)
    (within : forall coord, Within second coord -> Within first (others coord)) :
    tensor.Shows second (fun coord => source (others coord)) result := by
  refine ⟨then_.dtype.trans shows.dtype, then_.shaped, then_.wellSized, ?_⟩
  intro coord inside
  rw [then_.value coord inside, shows.value _ (within coord inside)]

theorem Shows.congr {shape other : List Nat} {source others : List Nat -> List Nat}
    (shows : tensor.Shows shape source result) (shapes : shape = other)
    (same : forall coord, Within other coord -> source coord = others coord) : tensor.Shows other others result := by
  subst shapes
  refine ⟨shows.dtype, shows.shaped, shows.wellSized, ?_⟩
  intro coord inside
  rw [shows.value coord inside, same coord inside]

/-- Slicing and then transposing is transposing and then slicing. -/
theorem slice_transposed (transposes : views.Transposes) (slices : views.Slices) (wellSized : tensor.WellSized)
    (orders : Orders axes tensor.shape.length) (selects : AxisRange.Selects tensor.shape ranges) :
    exists sliced moved result, tensor.slice views ranges = .ok sliced ∧
      tensorTranspose views sliced (renumber (ranges.map AxisRange.keepsAxis) axes) = .ok result ∧
      tensorTranspose views tensor axes = .ok moved ∧ moved.slice views (pick ranges axes) = .ok result := by
  have ranks := selects.valid.length_eq
  have onRanges : Orders axes ranges.length := ranks ▸ orders
  rcases slice_of_selects slices wellSized selects with ⟨sliced, slicing, slicedShows⟩
  have onSliced : Orders (renumber (ranges.map AxisRange.keepsAxis) axes) sliced.shape.length := by
    rw [slicedShows.shaped]
    exact AxisRange.orders_renumber onRanges
  rcases (tensorTranspose_decides transposes slicedShows.wellSized _).accepts onSliced with
    ⟨result, transposing, _, _, resultShows⟩
  rcases (tensorTranspose_decides transposes wellSized axes).accepts orders with ⟨moved, moving, _, _, movedShows⟩
  have movedSelects : AxisRange.Selects moved.shape (pick ranges axes) := by
    rw [movedShows.shaped]
    exact selects.pick onRanges
  rcases slice_of_selects slices movedShows.wellSized movedSelects with ⟨other, otherSlicing, otherShows⟩
  have first := Shows.trans slicedShows resultShows (fun _ inside => by
    rw [slicedShows.shaped] at inside onSliced
    exact within_inverse onSliced inside)
  have second := Shows.trans movedShows otherShows (fun _ inside => by
    rw [← movedShows.shaped]
    exact AxisRange.within_source slices.positions_inside movedSelects.valid inside)
  have shapes : pick sliced.shape (renumber (ranges.map AxisRange.keepsAxis) axes) =
      AxisRange.dims views.positions (pick ranges axes) := by
    rw [slicedShows.shaped, AxisRange.dims_pick]
  have same : result = other := by
    apply (first.congr shapes ?_).unique second
    intro coord within
    rw [← shapes] at within
    -- the coordinate, in the order of the axes of the tensor
    have length : coord.length = sliced.shape.length := within.length_eq.trans onSliced.length_pick
    have ordered := onSliced
    rw [← length] at ordered
    have back := pick_back_and_there ordered
    have width : (pick coord (inverse (renumber (ranges.map AxisRange.keepsAxis) axes))).length =
        (AxisRange.dims views.positions ranges).length := by
      rw [ordered.inverse.length_pick, length, slicedShows.shaped]
    have moves := AxisRange.source_pick axes width
    rw [back] at moves
    rw [moves, pick_there_and_back]
    rw [AxisRange.length_source width]
    exact onRanges
  exact ⟨sliced, moved, result, slicing, transposing, moving, same ▸ otherSlicing⟩

end Tensor

theorem slice_transposed_sixCells : exists sliced moved result,
    sixCells.slice (Views.gathered _) [.at_ 1, .in_ 0 3 2] = .ok sliced ∧
      tensorTranspose (Views.gathered _) sliced [0] = .ok result ∧
      tensorTranspose (Views.gathered _) sixCells [1, 0] = .ok moved ∧
      moved.slice (Views.gathered _) [.in_ 0 3 2, .at_ 1] = .ok result := by
  have selects : AxisRange.Selects sixCells.shape [.at_ 1, .in_ 0 3 2] := by decide
  exact Tensor.slice_transposed Views.gathered_transposes Views.gathered_slices (show sixCells.WellSized from rfl)
    (show Orders [1, 0] 2 by decide) selects

end Tensors
end TransactionalCollection
