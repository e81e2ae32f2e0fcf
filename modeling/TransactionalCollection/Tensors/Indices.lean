import TransactionalCollection.Tensors.Matmul

namespace TransactionalCollection
namespace Tensors

open Execution Native Numeric

/-!
# Coordinates and flat indices

Coordinates are computed of a flat index by repeated division from the last axis, or
from the first axis by the strides of the shape, and flat indices of a coordinate by
growing strides or by those of the shape.  For a shape without a zero whose product
is a `usize`, all of them are one bijection, the numerals whose radices are the
dimensions.
-/

variable {E : Type}

/-- As many components as dimensions, each below its own. -/
def Within (shape coord : List Nat) : Prop :=
  List.Forall₂ (fun component dim => component < dim) coord shape

theorem within_iff {shape coord : List Nat} :
    Within shape coord <-> coord.length = shape.length ∧ InRange (places shape coord) := by
  unfold Within places InRange
  simp only [List.mem_reverse]
  rw [List.forall₂_iff_zip]
  constructor
  · intro within
    refine ⟨within.1, ?_⟩
    intro place member
    rcases place with ⟨dim, component⟩
    apply within.2
    rw [← List.zip_swap]
    exact List.mem_map_of_mem member
  · intro within
    refine ⟨within.1, ?_⟩
    intro component dim member
    apply within.2 (dim, component)
    rw [← List.zip_swap]
    exact List.mem_map_of_mem member

/-! ## Strides -/

/-- The loop over the axes, last first. -/
def strideLoop : List Nat -> Nat -> List Nat
  | [], _ => []
  | dim :: rest, stride => stride :: strideLoop rest (times stride dim)

def strides (shape : List Nat) : List Nat := (strideLoop shape.reverse 1).reverse

/-- The loop over the axes, first to last. -/
def coordLoop : Nat -> Nat -> List Nat -> List Nat -> Except (Failure E) (List Nat)
  | _, _, [], _ => .ok []
  | axis, _, _ :: _, [] =>
      .error (.panic ⟨s!"index out of bounds: the len is {axis} but the index is {axis}"⟩)
  | axis, remainder, _ :: shape, stride :: strides =>
      if stride = 0 then .error (.panic ⟨"attempt to divide by zero"⟩)
      else do
        let coord <- coordLoop (axis + 1) (remainder % stride) shape strides
        return remainder / stride :: coord

def coordFromOffset (offset : Nat) (shape strides : List Nat) : Except (Failure E) (List Nat) :=
  coordLoop 0 offset shape strides

def offsetFromCoord (coord strides : List Nat) : Nat :=
  ((coord.zip strides).map (fun pair => times pair.1 pair.2)).foldl plus 0

theorem strideLoop_append {stride : Nat} (small : stride < usize) (radices : List Nat) (radix : Nat) :
    strideLoop (radices ++ [radix]) stride = strideLoop radices stride ++ [stride * radices.prod % usize] := by
  induction radices generalizing stride with
  | nil => simp [strideLoop, Nat.mod_eq_of_lt small]
  | cons first radices inductionHypothesis =>
      have next : times stride first < usize := Nat.mod_lt _ (Nat.zero_lt_of_lt usize_several)
      have product : times stride first * radices.prod % usize = stride * (first * radices.prod) % usize := by
        rw [times, Nat.mod_mul_mod, Nat.mul_assoc]
      rw [List.cons_append, strideLoop, strideLoop, inductionHypothesis next, product, List.prod_cons,
        List.cons_append]

/-- The stride of an axis is the product of the dimensions after it. -/
theorem strides_cons (dim : Nat) (shape : List Nat) :
    strides (dim :: shape) = product shape :: strides shape := by
  unfold strides
  rw [List.reverse_cons, strideLoop_append usize_several, List.reverse_append, product_eq, Nat.one_mul,
    List.prod_reverse]
  rfl

/-- The coordinate by strides is that of repeated division. -/
theorem coordLoop_eq_ok {shape : List Nat} {offset : Nat} (axis : Nat) (nonzero : 0 ∉ shape)
    (small : shape.prod < usize) (below : offset < shape.prod) :
    (coordLoop axis offset shape (strides shape) : Except (Failure E) (List Nat)) =
      .ok (digits offset shape.reverse).reverse := by
  induction shape generalizing axis offset with
  | nil => rfl
  | cons dim shape inductionHypothesis =>
      rw [List.mem_cons, not_or] at nonzero
      rw [List.prod_cons] at small below
      have dimPos : 0 < dim := Nat.pos_of_ne_zero (fun zero => nonzero.1 zero.symm)
      have restPos := prod_pos nonzero.2
      have restSmall : shape.prod < usize :=
        Nat.lt_of_le_of_lt (Nat.le_mul_of_pos_left _ dimPos) small
      have exact : product shape = shape.prod := by rw [product_eq, Nat.mod_eq_of_lt restSmall]
      have first : offset / shape.prod % dim = offset / shape.prod := by
        apply Nat.mod_eq_of_lt
        apply Nat.div_lt_of_lt_mul
        rwa [Nat.mul_comm]
      have others : digits (offset % shape.prod) shape.reverse = digits offset shape.reverse := by
        rw [← List.prod_reverse shape, digits_mod]
      rw [strides_cons, coordLoop, if_neg (by omega), exact,
        inductionHypothesis _ nonzero.2 restSmall (Nat.mod_lt _ restPos), others, List.reverse_cons,
        digits_append, List.reverse_append, List.prod_reverse, first]
      rfl

theorem foldl_plus (items : List Nat) {start : Nat} (small : start < usize) :
    items.foldl plus start = (start + items.sum) % usize := by
  induction items generalizing start with
  | nil => rw [List.foldl_nil, List.sum_nil, Nat.add_zero, Nat.mod_eq_of_lt small]
  | cons item items inductionHypothesis =>
      have next : plus start item < usize := Nat.mod_lt _ (Nat.zero_lt_of_lt usize_several)
      rw [List.foldl_cons, inductionHypothesis next, plus, Nat.mod_add_mod, List.sum_cons, Nat.add_assoc]

theorem sum_strides {shape coord : List Nat} (width : coord.length = shape.length) :
    ((coord.zip (strides shape)).map (fun pair => times pair.1 pair.2)).sum ≡
      value (places shape coord) [MOD usize] := by
  induction shape generalizing coord with
  | nil =>
      rw [List.eq_nil_of_length_eq_zero width]
      rfl
  | cons dim shape inductionHypothesis =>
      cases coord with
      | nil => cases width
      | cons component coord =>
          have rest : coord.length = shape.length := Nat.succ.inj width
          have last : places (dim :: shape) (component :: coord) =
              places shape coord ++ [(dim, component)] := by
            rw [places, List.zip_cons_cons, List.reverse_cons]
            rfl
          have stride : times component (product shape) ≡ shape.prod * component [MOD usize] := by
            rw [times, product_eq, Nat.mul_comm shape.prod]
            exact (Nat.mod_modEq _ _).trans ((Nat.mod_modEq _ _).mul_left component)
          rw [strides_cons, List.zip_cons_cons, List.map_cons, List.sum_cons, last, value_append,
            places_fst rest, List.prod_reverse, Nat.add_comm]
          exact (inductionHypothesis rest).add stride

/-- The offset by strides is that of growing strides, whether these wrap or not. -/
theorem offsetFromCoord_eq {shape coord : List Nat} (width : coord.length = shape.length) :
    offsetFromCoord coord (strides shape) = value (places shape coord) % usize := by
  unfold offsetFromCoord
  rw [foldl_plus _ (Nat.zero_lt_of_lt usize_several), Nat.zero_add]
  exact sum_strides width

/-! ## One bijection -/

section Bijection

variable {shape coord : List Nat} {flat : Nat}

/-- The coordinate of a flat index lies within the shape. -/
theorem within_digits (nonzero : 0 ∉ shape) (flat : Nat) :
    Within shape (digits flat shape.reverse).reverse := by
  apply within_iff.mpr
  rw [places_digits]
  refine ⟨length_digits_reverse flat shape, inRange_digits ?_⟩
  rwa [List.mem_reverse]

/-- The flat index of a coordinate. -/
theorem Within.value_lt (within : Within shape coord) : value (places shape coord) < shape.prod := by
  rcases within_iff.mp within with ⟨width, inRange⟩
  have below := Numeric.value_lt inRange
  rwa [places_fst width, List.prod_reverse] at below

/-- A shape with a coordinate has no zero. -/
theorem Within.nonzero (within : Within shape coord) : 0 ∉ shape := by
  intro zero
  have below := within.value_lt
  rw [List.prod_eq_zero zero] at below
  cases below

/-- A coordinate is that of its flat index. -/
theorem Within.digits_value (within : Within shape coord) :
    (digits (value (places shape coord)) shape.reverse).reverse = coord := by
  rcases within_iff.mp within with ⟨width, inRange⟩
  rw [← places_fst width, Numeric.digits_value inRange, places, List.map_reverse, List.reverse_reverse,
    List.map_snd_zip (Nat.le_of_eq width)]

/-- Distinct coordinates have distinct flat indices. -/
theorem Within.offset_injective {other : List Nat} (within : Within shape coord) (otherWithin : Within shape other)
    (same : value (places shape coord) = value (places shape other)) : coord = other := by
  rw [← within.digits_value, same, otherWithin.digits_value]

/-- What a coordinate is projected to lies within the source, in the cell it comes from. -/
theorem Within.projected {source : List Nat} (within : Within shape coord)
    (broadcasts : Broadcasts source.reverse shape.reverse) : exists sourceCoord,
      projectBroadcastIndex coord source = .ok sourceCoord ∧ Within source sourceCoord ∧
        value (places source sourceCoord) = sourceCell source shape (value (places shape coord)) := by
  have shorter : ¬ source.length > coord.length := by
    rw [← within.digits_value]
    exact Nat.not_lt.mpr (broadcasts.length_le _)
  have projected : exists sourceCoord, projectBroadcastIndex coord source = .ok sourceCoord :=
    ⟨_, if_neg shorter⟩
  rcases projected with ⟨sourceCoord, projected⟩
  rcases places_project projected with ⟨width, beside⟩
  have digitsOf : coord.reverse = digits (value (places shape coord)) shape.reverse := by
    apply List.reverse_eq_iff.mpr
    exact within.digits_value.symm
  rw [digitsOf] at beside
  refine ⟨sourceCoord, projected, within_iff.mpr ⟨width, ?_⟩, ?_⟩
  · rw [beside]
    apply broadcasts.inRange
    rw [List.mem_reverse]
    exact within.nonzero
  · rw [beside]
    rfl

theorem Within.coordOffsetUsize_eq (within : Within shape coord) (small : shape.prod < usize) :
    coordOffsetUsize shape coord = .ok (value (places shape coord)) := by
  rcases within_iff.mp within with ⟨width, inRange⟩
  apply coordOffsetUsize_eq_ok.mpr
  exact ⟨width, inRange, Nat.mod_eq_of_lt (Nat.lt_trans within.value_lt small)⟩

theorem offsetLoop_cases (pairs : List (Nat × Nat)) (offset stride : Nat) :
    (exists result, offsetLoop pairs offset stride = .ok result) ∨
      exists message, offsetLoop pairs offset stride = .error (.error message) := by
  induction pairs generalizing offset stride with
  | nil => exact Or.inl ⟨offset, rfl⟩
  | cons pair rest inductionHypothesis =>
      rcases pair with ⟨dim, component⟩
      rw [offsetLoop]
      split
      · exact Or.inr ⟨_, rfl⟩
      · exact inductionHypothesis _ _

/-- A coordinate outside of the shape is an error. -/
theorem coordOffsetUsize_outside (outside : ¬ Within shape coord) :
    exists message, coordOffsetUsize shape coord = .error (.error message) := by
  unfold coordOffsetUsize
  split
  · exact ⟨_, rfl⟩
  · rename_i width
    rcases offsetLoop_cases (places shape coord) 0 1 with found | failed
    · rcases found with ⟨result, found⟩
      apply absurd ?_ outside
      exact within_iff.mpr ⟨not_not.mp width, (offsetLoop_eq_ok.mp found).1⟩
    · exact failed

/-- A shape without a zero has a coordinate for each flat index and a flat index for
each coordinate, one the inverse of the other, which all of the loops compute. -/
theorem indices_bijective (nonzero : 0 ∉ shape) (small : shape.prod < usize) :
    (forall flat, flat < shape.prod -> exists coord, Within shape coord ∧
      (unravelIndex flat shape : Except (Failure E) (List Nat)) = .ok coord ∧
      (coordFromOffset flat shape (strides shape) : Except (Failure E) (List Nat)) = .ok coord ∧
      coordOffsetUsize shape coord = .ok flat) ∧
    (forall coord, Within shape coord -> exists flat, flat < shape.prod ∧
      coordOffsetUsize shape coord = .ok flat ∧ coordOffset shape coord = .ok flat ∧
      offsetFromCoord coord (strides shape) = flat ∧
      (unravelIndex flat shape : Except (Failure E) (List Nat)) = .ok coord) ∧
    (forall source, canBroadcastTo source shape = true -> forall flat, flat < shape.prod ->
      exists outCoord sourceCoord offset,
        (unravelIndex flat shape : Except (Failure E) (List Nat)) = .ok outCoord ∧
        projectBroadcastIndex outCoord source = .ok sourceCoord ∧
        coordOffsetUsize source sourceCoord = .ok offset ∧
        broadcastBatchOffset flat shape source = .ok offset) := by
  refine ⟨?_, ?_, ?_⟩
  · intro flat below
    refine ⟨_, within_digits nonzero flat, unravelIndex_eq_ok.mpr ⟨nonzero, rfl⟩,
      coordLoop_eq_ok 0 nonzero small below, ?_⟩
    rw [coordOffsetUsize_digits below, Nat.mod_eq_of_lt (Nat.lt_trans below small)]
  · intro coord within
    have offset := within.coordOffsetUsize_eq small
    refine ⟨_, within.value_lt, offset, offset, ?_, unravelIndex_eq_ok.mpr ⟨nonzero, ?_⟩⟩
    · rw [offsetFromCoord_eq (within_iff.mp within).1]
      exact Nat.mod_eq_of_lt (Nat.lt_trans within.value_lt small)
    · exact within.digits_value.symm
  · intro source broadcasts flat below
    have fits := canBroadcastTo_iff.mp broadcasts
    have sourceSmall : source.prod < usize := Nat.lt_of_le_of_lt (broadcasts_prod_le fits nonzero) small
    have cell : sourceOffset source shape flat = .ok (sourceCell source shape flat % usize) :=
      sourceOffset_eq_ok broadcasts nonzero
    have unwrapped : sourceCell source shape flat % usize = sourceCell source shape flat :=
      Nat.mod_eq_of_lt (Nat.lt_trans (sourceCell_lt fits nonzero flat) sourceSmall)
    rcases except_bind_eq_ok.mp cell with ⟨outCoord, unraveled, rest⟩
    rcases except_bind_eq_ok.mp rest with ⟨sourceCoord, projected, offset⟩
    refine ⟨outCoord, sourceCoord, _, ?_, projected, offset, ?_⟩
    · exact unravelIndex_eq_ok.mpr (unravelIndex_eq_ok.mp unraveled)
    · rw [broadcastBatchOffset_eq fits nonzero sourceSmall, unwrapped]

/-- The cells of two lines of three. -/
theorem indices_bijective_lines :
    (unravelIndex 5 [2, 3] : Except (Failure String) (List Nat)) = .ok [1, 2] ∧
    exists coord, (coordFromOffset 5 [2, 3] (strides [2, 3]) : Except (Failure String) (List Nat)) =
      .ok coord ∧ coordOffsetUsize [2, 3] coord = .ok 5 := by
  have bijective := indices_bijective (E := String) (show 0 ∉ [2, 3] by decide)
    (show [2, 3].prod < usize by decide +kernel)
  rcases bijective.1 5 (by decide) with ⟨coord, _, _, computed, offset⟩
  exact ⟨rfl, coord, computed, offset⟩

end Bijection

end Tensors
end TransactionalCollection
