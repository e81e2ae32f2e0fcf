import TransactionalCollection.Tensors.Broadcasting
import TransactionalCollection.Tensors.Reading

namespace TransactionalCollection
namespace Tensors

open Execution Native Numeric

/-!
# Moving `u64` elements

Reshaping, expanding, broadcasting and choosing between tensors only move elements,
but they move them as floats.  An element arrives as it was if and only if the
casts there and back keep it.
-/

variable {elements : Elements}

/-! ## Elements which have been through `f64` -/

section Cells

variable {out : List UInt64} {feeds : Nat -> UInt64 -> Prop}

/-- Cells which have been fed through floats hold what fed them if and only if that
is kept. -/
theorem cells_exact_iff (reads : Reads elements)
    (functional : forall cell first second, feeds cell first -> feeds cell second -> first = second)
    (rounded : forall cell, cell < out.length ->
      exists element, feeds cell element ∧ out[cell]? = some (throughF64 elements element)) :
    (forall cell, cell < out.length -> exists element, feeds cell element ∧ out[cell]? = some element) <->
      forall cell element, cell < out.length -> feeds cell element -> Keeps element := by
  constructor
  · intro exactCells cell element inside fed
    rcases exactCells cell inside with ⟨moved, movedFed, found⟩
    rcases rounded cell inside with ⟨source, sourceFed, arrived⟩
    cases functional cell element moved fed movedFed
    cases functional cell element source fed sourceFed
    apply reads.throughF64_eq_self_iff.mp
    exact Option.some.inj (arrived.symm.trans found)
  · intro kept cell inside
    rcases rounded cell inside with ⟨element, fed, arrived⟩
    refine ⟨element, fed, ?_⟩
    rw [arrived, reads.throughF64_eq_self_iff.mpr (kept cell element inside fed)]

end Cells

namespace Tensor

/-- Whole floats are written back as `u64`. -/
theorem fromF64Like_u64 {array : ArrayBuf elements UInt64} {shape : List Nat} {floats : List elements.F64}
    {result : Tensor elements} (whole : forall float, float ∈ floats -> elements.isWhole float = true)
    (done : (Tensor.u64 array).fromF64Like shape floats = .ok result) :
    result.flattenedU64 = .ok (floats.map elements.toU64) := by
  unfold fromF64Like at done
  dsimp only at done
  rw [if_pos (List.all_eq_true.mpr whole)] at done
  rcases map_new_eq_ok.mp done with ⟨other, rfl, _, same⟩
  exact congrArg Except.ok same

/-- Cells which are computed as floats of elements hold these elements, cast there
and back. -/
theorem moved_cells (reads : Reads elements) {array : ArrayBuf elements UInt64} {shape : List Nat} {count : Nat}
    {step : Nat -> Except (Failure String) elements.F64} {feeds : Nat -> UInt64 -> Prop}
    {floats : List elements.F64} {result : Tensor elements}
    (computed : (List.range count).mapM step = .ok floats)
    (steps : forall cell float, step cell = .ok float ->
      exists element, feeds cell element ∧ float = elements.ofU64 element)
    (done : (Tensor.u64 array).fromF64Like shape floats = .ok result) :
    exists out, result.flattenedU64 = .ok out ∧ out.length = count ∧
      forall cell, cell < out.length ->
        exists element, feeds cell element ∧ out[cell]? = some (throughF64 elements element) := by
  rcases mapM_getElem? computed with ⟨width, each⟩
  rw [List.length_range] at width
  have cells : forall cell, cell < count -> exists element, feeds cell element ∧
      floats[cell]? = some (elements.ofU64 element) := by
    intro cell inside
    rcases each cell cell (List.getElem?_range inside) with ⟨float, stepped, found⟩
    rcases steps cell float stepped with ⟨element, fed, rfl⟩
    exact ⟨element, fed, found⟩
  refine ⟨floats.map elements.toU64, fromF64Like_u64 ?_ done, ?_, ?_⟩
  · intro float member
    rcases List.mem_iff_getElem?.mp member with ⟨cell, found⟩
    have inside := (List.getElem?_eq_some_iff.mp found).1
    rcases cells cell (width ▸ inside) with ⟨element, _, same⟩
    cases found.symm.trans same
    exact reads.isWhole_ofU64 element
  · rw [List.length_map, width]
  · intro cell inside
    rw [List.length_map, width] at inside
    rcases cells cell inside with ⟨element, fed, found⟩
    refine ⟨element, fed, ?_⟩
    rw [List.getElem?_map, found]
    rfl

/-! ## Reshaping and expanding -/

/-- A list is unchanged through floats if and only if each of its elements is kept. -/
theorem map_throughF64_iff (reads : Reads elements) {values : List UInt64} :
    values.map (throughF64 elements) = values <-> forall value, value ∈ values -> Keeps value := by
  have same : values.map (throughF64 elements) = values.map id <->
      forall value, value ∈ values -> throughF64 elements value = id value := List.map_inj_left
  rw [List.map_id] at same
  rw [same]
  apply forall₂_congr
  intro value _
  exact reads.throughF64_eq_self_iff

theorem flattened_unchanged_iff (reads : Reads elements) {array : ArrayBuf elements UInt64} {shape : List Nat}
    {result : Tensor elements}
    (done : (Tensor.u64 array).fromF64Like shape (array.values.map elements.ofU64) = .ok result) :
    result.flattenedU64 = .ok array.values <-> forall value, value ∈ array.values -> Keeps value := by
  have whole : forall float, float ∈ array.values.map elements.ofU64 -> elements.isWhole float = true := by
    intro float member
    rcases List.mem_map.mp member with ⟨value, _, rfl⟩
    exact reads.isWhole_ofU64 value
  rw [fromF64Like_u64 whole done, List.map_map, Except.ok.injEq]
  exact map_throughF64_iff reads

theorem reshape_done {array : ArrayBuf elements UInt64} {shape : List Nat} {result : Tensor elements}
    (done : (Tensor.u64 array).reshape shape = .ok result) :
    (Tensor.u64 array).fromF64Like shape (array.values.map elements.ofU64) = .ok result := by
  unfold reshape at done
  split at done
  · cases done
  · exact done

theorem expandDims_done {array : ArrayBuf elements UInt64} {axes : Option (List Nat)} {result : Tensor elements}
    (done : (Tensor.u64 array).expandDims axes = .ok result) : exists shape,
    (Tensor.u64 array).fromF64Like shape (array.values.map elements.ofU64) = .ok result := by
  unfold expandDims at done
  rcases except_bind_eq_ok.mp done with ⟨shape, _, rest⟩
  exact ⟨shape, rest⟩

/-! ## Broadcasting -/

/-- The element which a cell of the output takes. -/
def BroadcastFeeds (array : ArrayBuf elements UInt64) (shape : List Nat) (cell : Nat) (element : UInt64) : Prop :=
  exists offset, sourceOffset array.shape shape cell = .ok offset ∧ array.values[offset]? = some element

theorem BroadcastFeeds.functional {array : ArrayBuf elements UInt64} {shape : List Nat} (cell : Nat)
    (first second : UInt64) (feeds : BroadcastFeeds array shape cell first)
    (others : BroadcastFeeds array shape cell second) : first = second := by
  rcases feeds with ⟨offset, here, found⟩
  rcases others with ⟨other, there, otherFound⟩
  cases here.symm.trans there
  exact Option.some.inj (found.symm.trans otherFound)

/-- A float which is read from the cast elements is a cast element. -/
theorem indexed_map_eq_ok {values : List UInt64} {offset : Nat} {float : elements.F64}
    (found : indexed (E := String) (values.map elements.ofU64) offset = .ok float) :
    exists element, values[offset]? = some element ∧ float = elements.ofU64 element := by
  have here := indexed_eq_ok.mp found
  rw [List.getElem?_map] at here
  rcases Option.map_eq_some_iff.mp here with ⟨element, there, same⟩
  exact ⟨element, there, same.symm⟩

theorem broadcast_cells (reads : Reads elements) {array : ArrayBuf elements UInt64} {shape : List Nat}
    {result : Tensor elements} (done : (Tensor.u64 array).broadcast shape = .ok result) :
    exists out, result.flattenedU64 = .ok out ∧ out.length = product shape ∧
      forall cell, cell < out.length ->
        exists element, BroadcastFeeds array shape cell element ∧
          out[cell]? = some (throughF64 elements element) := by
  unfold broadcast at done
  split at done
  · rcases except_bind_eq_ok.mp done with ⟨floats, read, rest⟩
    cases except_mapError_eq_ok.mp read
    rcases except_bind_eq_ok.mp rest with ⟨moved, computed, written⟩
    apply moved_cells reads computed ?_ (except_mapError_eq_ok.mp written)
    intro cell float stepped
    rcases except_bind_eq_ok.mp stepped with ⟨offset, taken, found⟩
    rcases indexed_map_eq_ok found with ⟨element, there, same⟩
    exact ⟨element, ⟨offset, taken, there⟩, same⟩
  · cases done

/-! ## Choosing -/

/-- The element which a cell takes from one of the branches. -/
def CondFeeds (condition : Tensor elements) (thenArray elseArray : ArrayBuf elements UInt64) (cell : Nat)
    (element : UInt64) : Prop :=
  exists floats float, condition.valuesF64 = .ok floats ∧
    floats[if floats.length = 1 then 0 else cell]? = some float ∧
    (if elements.isZero float then elseArray else thenArray).values[cell]? = some element

theorem CondFeeds.functional {condition : Tensor elements} {thenArray elseArray : ArrayBuf elements UInt64}
    (cell : Nat)
    (first second : UInt64) (feeds : CondFeeds condition thenArray elseArray cell first)
    (others : CondFeeds condition thenArray elseArray cell second) : first = second := by
  rcases feeds with ⟨floats, float, read, here, found⟩
  rcases others with ⟨otherFloats, otherFloat, otherRead, there, otherFound⟩
  cases read.symm.trans otherRead
  cases here.symm.trans there
  exact Option.some.inj (found.symm.trans otherFound)

theorem cond_cells (reads : Reads elements) {condition : Tensor elements}
    {thenArray elseArray : ArrayBuf elements UInt64}
    {result : Tensor elements}
    (done : condition.cond (.u64 thenArray) (.u64 elseArray) = .ok result) :
    exists out, result.flattenedU64 = .ok out ∧ out.length = thenArray.values.length ∧
      forall cell, cell < out.length ->
        exists element, CondFeeds condition thenArray elseArray cell element ∧
          out[cell]? = some (throughF64 elements element) := by
  unfold cond at done
  rcases except_bind_eq_ok.mp done with ⟨floats, condRead, rest⟩
  rcases except_bind_eq_ok.mp rest with ⟨thenFloats, thenRead, rest⟩
  cases except_mapError_eq_ok.mp thenRead
  rcases except_bind_eq_ok.mp rest with ⟨elseFloats, elseRead, rest⟩
  cases except_mapError_eq_ok.mp elseRead
  split at rest
  · cases rest
  · split at rest
    · cases rest
    · rcases except_bind_eq_ok.mp rest with ⟨moved, computed, written⟩
      have width : (thenArray.values.map elements.ofU64).length = thenArray.values.length := List.length_map _
      rw [← width]
      apply moved_cells reads computed ?_ (except_mapError_eq_ok.mp written)
      intro cell float stepped
      rcases except_bind_eq_ok.mp stepped with ⟨chosen, found, branch⟩
      have here := indexed_eq_ok.mp found
      split at branch
      · rename_i zero
        rcases indexed_map_eq_ok branch with ⟨element, there, same⟩
        refine ⟨element, ⟨floats, chosen, except_mapError_eq_ok.mp condRead, here, ?_⟩, same⟩
        rw [if_pos zero]
        exact there
      · rename_i nonzero
        rcases indexed_map_eq_ok branch with ⟨element, there, same⟩
        refine ⟨element, ⟨floats, chosen, except_mapError_eq_ok.mp condRead, here, ?_⟩, same⟩
        rw [if_neg nonzero]
        exact there

/-- Branches of one size are chosen from by one condition, or by one for each cell. -/
theorem exists_cond {condition left right : Tensor elements} (same : left.cells = right.cells)
    (width : condition.cells = 1 ∨ condition.cells = left.cells) :
    exists result, condition.cond left right = .ok result := by
  rcases condition.valuesF64_eq_ok with ⟨condValues, condRead, condLength⟩
  rcases left.valuesF64_eq_ok with ⟨thenValues, thenRead, thenLength⟩
  rcases right.valuesF64_eq_ok with ⟨elseValues, elseRead, elseLength⟩
  have computed : exists out, (List.range thenValues.length).mapM (fun cell => (do
      let condition <- indexed condValues (if condValues.length = 1 then 0 else cell)
      if elements.isZero condition then indexed elseValues cell else indexed thenValues cell :
        Except (Failure String) elements.F64)) = .ok out := by
    apply mapM_isOk_iff.mpr
    intro cell member
    have inside := List.mem_range.mp member
    have chosen : (if condValues.length = 1 then 0 else cell) < condValues.length := by
      split <;> omega
    rcases indexed_of_lt (E := String) chosen with ⟨condition, found⟩
    rw [found, except_ok_bind]
    split
    · exact indexed_of_lt (by omega)
    · exact indexed_of_lt inside
  rcases computed with ⟨out, computed⟩
  have length : out.length = product left.shape := by
    rw [(mapM_getElem? computed).1, List.length_range, thenLength, left.cells_eq_size, size]
  have fits : exists result, left.fromF64Like left.shape out = .ok result := exists_fromF64Like id length
  rcases fits with ⟨result, written⟩
  refine ⟨result, ?_⟩
  unfold cond
  rw [condRead, thenRead, elseRead]
  change (if thenValues.length ≠ elseValues.length then _ else _) = _
  rw [if_neg (by omega), if_neg (by omega), computed, except_ok_bind, written]
  rfl

/-- Data movement on `u64` tensors is exact if and only if what it moves has at most
fifty-three significant bits or is the greatest `u64`. -/
theorem dataMovement_exact_iff (reads : Reads elements) (array : ArrayBuf elements UInt64) :
    (forall shape result, (Tensor.u64 array : Tensor elements).reshape shape = .ok result ->
      (result.flattenedU64 = .ok array.values <-> forall value, value ∈ array.values -> Keeps value)) ∧
    (forall axes result, (Tensor.u64 array : Tensor elements).expandDims axes = .ok result ->
      (result.flattenedU64 = .ok array.values <-> forall value, value ∈ array.values -> Keeps value)) ∧
    (forall shape result, (Tensor.u64 array : Tensor elements).broadcast shape = .ok result ->
      exists out, result.flattenedU64 = .ok out ∧ out.length = product shape ∧
        ((forall cell, cell < out.length ->
            exists element, BroadcastFeeds array shape cell element ∧ out[cell]? = some element) <->
          forall cell element, cell < out.length -> BroadcastFeeds array shape cell element ->
            Keeps element)) ∧
    (forall (condition : Tensor elements) elseArray result,
      condition.cond (.u64 array) (.u64 elseArray) = .ok result ->
      exists out, result.flattenedU64 = .ok out ∧ out.length = array.values.length ∧
        ((forall cell, cell < out.length ->
            exists element, CondFeeds condition array elseArray cell element ∧
              out[cell]? = some element) <->
          forall cell element, cell < out.length -> CondFeeds condition array elseArray cell element ->
            Keeps element)) := by
  refine ⟨?_, ?_, ?_, ?_⟩
  · intro shape result done
    exact flattened_unchanged_iff reads (reshape_done done)
  · intro axes result done
    rcases expandDims_done done with ⟨shape, written⟩
    exact flattened_unchanged_iff reads written
  · intro shape result done
    rcases broadcast_cells reads done with ⟨out, flattened, width, cells⟩
    exact ⟨out, flattened, width, cells_exact_iff reads BroadcastFeeds.functional cells⟩
  · intro condition elseArray result done
    rcases cond_cells reads done with ⟨out, flattened, width, cells⟩
    exact ⟨out, flattened, width, cells_exact_iff reads CondFeeds.functional cells⟩

theorem two_built : Elements.rational.arrayError [2] 2 = none := by decide +kernel

/-- A small element, and the greatest. -/
def extremes : ArrayBuf Elements.rational UInt64 := ⟨[2], [8, 18446744073709551615], two_built⟩

/-- Two small elements. -/
def others : ArrayBuf Elements.rational UInt64 := ⟨[2], [5, 6], two_built⟩

/-- First the other branch, then the one. -/
def chooses : ArrayBuf Elements.rational UInt64 := ⟨[2], [0, 1], two_built⟩

theorem keeps_of_member {value : UInt64} (member : value ∈ extremes.values ∨ value ∈ others.values) : Keeps value := by
  simp only [extremes, others, List.mem_cons, List.not_mem_nil, or_false] at member
  rcases member with (rfl | rfl) | (rfl | rfl)
  · exact Or.inl ⟨8, 0, by decide, rfl⟩
  · exact Or.inr rfl
  · exact Or.inl ⟨5, 0, by decide, rfl⟩
  · exact Or.inl ⟨6, 0, by decide, rfl⟩

/-- Each operation moves the two elements as they are. -/
theorem dataMovement_exact_extremes :
    (exists result, (Tensor.u64 extremes).reshape [2, 1] = .ok result ∧ result.flattenedU64 = .ok extremes.values) ∧
    (exists result, (Tensor.u64 extremes).expandDims none = .ok result ∧
      result.flattenedU64 = .ok extremes.values) ∧
    (exists result out, (Tensor.u64 extremes).broadcast [3, 2] = .ok result ∧ result.flattenedU64 = .ok out ∧
      forall cell, cell < out.length ->
        exists element, BroadcastFeeds extremes [3, 2] cell element ∧ out[cell]? = some element) ∧
    exists result out, (Tensor.u64 chooses).cond (.u64 extremes) (.u64 others) = .ok result ∧
      result.flattenedU64 = .ok out ∧ forall cell, cell < out.length ->
        exists element, CondFeeds (.u64 chooses) extremes others cell element ∧ out[cell]? = some element := by
  rcases dataMovement_exact_iff Reads.rational extremes with ⟨reshapes, expands, broadcasts, conds⟩
  have kept : forall value, value ∈ extremes.values -> Keeps value := fun _ member => keeps_of_member (Or.inl member)
  refine ⟨?_, ?_, ?_, ?_⟩
  · have reshaped : exists result, (Tensor.u64 extremes).reshape [2, 1] = .ok result :=
      reshape_isOk_iff.mpr (by decide +kernel)
    rcases reshaped with ⟨result, done⟩
    exact ⟨result, done, (reshapes _ result done).mpr kept⟩
  · have made : exists result, (Tensor.u64 extremes).fromF64Like [2, 1] (extremes.values.map Elements.rational.ofU64) =
        .ok result := fromF64Like_isOk_iff.mpr (by decide +kernel)
    rcases made with ⟨result, done⟩
    exact ⟨result, done, (expands none result done).mpr kept⟩
  · have sized : (Tensor.u64 extremes).WellSized := rfl
    rcases broadcast_eq_ok sized (show canBroadcastTo [2] [3, 2] = true by decide) with ⟨result, done, _⟩
    rcases broadcasts _ result done with ⟨out, flattened, _, exactly⟩
    refine ⟨result, out, done, flattened, exactly.mpr ?_⟩
    rintro cell element _ ⟨offset, _, found⟩
    exact kept element (List.mem_of_getElem? found)
  · have chosen : exists result, (Tensor.u64 chooses).cond (.u64 extremes) (.u64 others) = .ok result :=
      exists_cond rfl (Or.inr rfl)
    rcases chosen with ⟨result, done⟩
    rcases conds _ _ result done with ⟨out, flattened, _, exactly⟩
    refine ⟨result, out, done, flattened, exactly.mpr ?_⟩
    rintro cell element _ ⟨floats, float, _, _, found⟩
    apply keeps_of_member
    split at found
    · exact Or.inr (List.mem_of_getElem? found)
    · exact Or.inl (List.mem_of_getElem? found)

theorem one_built : Elements.rational.arrayError [1] 1 = none := by decide +kernel

/-- A tensor of one element with fifty-four significant bits. -/
def oddElement : ArrayBuf Elements.rational UInt64 := ⟨[1], [9007199254740993], one_built⟩

/-- Its last bit is lost where it is reshaped, even to its own shape. -/
theorem not_exact_oddElement :
    exists result, (Tensor.u64 oddElement : Tensor Elements.rational).reshape [1] = .ok result ∧
    result.flattenedU64 = .ok [9007199254740992] ∧ result.flattenedU64 ≠ .ok oddElement.values := by
  have reshaped : exists result,
      (Tensor.u64 oddElement : Tensor Elements.rational).reshape [1] = .ok result :=
    reshape_isOk_iff.mpr (by decide +kernel)
  rcases reshaped with ⟨result, done⟩
  have whole : forall float, float ∈ oddElement.values.map Elements.rational.ofU64 ->
      Elements.rational.isWhole float = true := by
    intro float member
    rcases List.mem_map.mp member with ⟨value, _, rfl⟩
    exact Reads.rational.isWhole_ofU64 value
  have rounded : throughF64 Elements.rational 9007199254740993 = 9007199254740992 := by
    rw [Reads.rational.throughF64_eq]
    decide +kernel
  have flattened : result.flattenedU64 = .ok [9007199254740992] := by
    rw [fromF64Like_u64 whole (reshape_done done)]
    exact congrArg (fun value => Except.ok [value]) rounded
  refine ⟨result, done, flattened, ?_⟩
  rw [flattened]
  intro same
  revert same
  decide +kernel

end Tensor

end Tensors
end TransactionalCollection
