import Mathlib.Algebra.Order.Group.MinMax
import TransactionalCollection.Numeric.Spread
import TransactionalCollection.Tensors.Floats
import TransactionalCollection.Tensors.Indices

namespace TransactionalCollection
namespace Tensors

open Execution Native Numeric

/-!
# Reducing values to one

All values of a tensor are reduced at once, or the values of a cell one after another,
by an accumulator which keeps what each of the reductions needs.  In exact arithmetic
both come to the same, the deviation too, which the accumulator does not compute from
the mean.
-/

variable {elements : Elements}

/-! ## All at once -/

/-- `iter().sum()`. -/
def sumOf (values : List elements.F64) : elements.F64 := values.foldl elements.add elements.zero

/-- `v * v`. -/
def squareOf (value : elements.F64) : elements.F64 := elements.mul value value

/-- The mean, and then the deviations from it. -/
def stdOf (ops : FloatOps elements) (values : List elements.F64) : elements.F64 :=
  let mean := ops.div (sumOf values) (ops.ofUsize values.length)
  let squares := values.map (fun value => squareOf (ops.sub value mean))
  ops.sqrt (ops.div (sumOf squares) (ops.ofUsize values.length))

def reducedValue (ops : FloatOps elements) (op : String) (values : List elements.F64) :
    Except String elements.F64 :=
  match op with
  | "max" => .ok (values.foldl ops.max ops.negInfinity)
  | "min" => .ok (values.foldl ops.min ops.infinity)
  | "mean" => .ok (ops.div (sumOf values) (ops.ofUsize values.length))
  | "norm" => .ok (ops.sqrt (sumOf (values.map squareOf)))
  | "product" => .ok (values.foldl elements.mul ops.one)
  | "std" => .ok (stdOf ops values)
  | "sum" => .ok (sumOf values)
  | other => .error s!"unsupported tensor reduction {other}"

def Tensor.reduce (ops : FloatOps elements) (tensor : Tensor elements) (op : String) :
    Except String (Component elements) := do
  let values <- tensor.valuesF64
  if values.isEmpty then .error "cannot reduce an empty tensor"
  else (reducedValue ops op values).map .f64

/-! ## One after another -/

structure ReduceAccum (elements : Elements) where
  initialized : Bool
  count : Nat
  sum : elements.F64
  sumsq : elements.F64
  product : elements.F64
  min : elements.F64
  max : elements.F64

namespace ReduceAccum

/-- `ReduceAccum::default()`. -/
def default : ReduceAccum elements where
  initialized := false
  count := 0
  sum := elements.zero
  sumsq := elements.zero
  product := elements.zero
  min := elements.zero
  max := elements.zero

def update (ops : FloatOps elements) (accum : ReduceAccum elements) (value : elements.F64) :
    ReduceAccum elements :=
  if !accum.initialized then
    { initialized := true
      count := 1
      sum := value
      sumsq := elements.mul value value
      product := value
      min := value
      max := value }
  else
    { accum with
      count := plus accum.count 1
      sum := elements.add accum.sum value
      sumsq := elements.add accum.sumsq (elements.mul value value)
      product := elements.mul accum.product value
      min := ops.min accum.min value
      max := ops.max accum.max value }

/-- The mean of the squares less the square of the mean. -/
def std (ops : FloatOps elements) (accum : ReduceAccum elements) : elements.F64 :=
  let mean := ops.div accum.sum (ops.ofUsize accum.count)
  let spread := ops.sub (ops.div accum.sumsq (ops.ofUsize accum.count)) (elements.mul mean mean)
  ops.sqrt (ops.max spread elements.zero)

def finalize (ops : FloatOps elements) (accum : ReduceAccum elements) (op : String) :
    Except String elements.F64 :=
  if !accum.initialized then .error "cannot reduce an empty tensor"
  else match op with
    | "max" => .ok accum.max
    | "min" => .ok accum.min
    | "mean" => .ok (ops.div accum.sum (ops.ofUsize accum.count))
    | "norm" => .ok (ops.sqrt accum.sumsq)
    | "product" => .ok accum.product
    | "std" => .ok (accum.std ops)
    | "sum" => .ok accum.sum
    | other => .error s!"unsupported tensor reduction {other}"

end ReduceAccum

/-! ## Exact arithmetic -/

/-- Rationals among the elements, on which the operations are exact. -/
structure Exact (elements : Elements) (ops : FloatOps elements) where
  rational : ℚ -> elements.F64
  zero : elements.zero = rational 0
  one : ops.one = rational 1
  add : forall left right, elements.add (rational left) (rational right) = rational (left + right)
  mul : forall left right, elements.mul (rational left) (rational right) = rational (left * right)
  sub : forall left right, ops.sub (rational left) (rational right) = rational (left - right)
  div : forall left right, right ≠ 0 -> ops.div (rational left) (rational right) = rational (left / right)
  max : forall left right, ops.max (rational left) (rational right) = rational (Max.max left right)
  min : forall left right, ops.min (rational left) (rational right) = rational (Min.min left right)
  max_negInfinity : forall value, ops.max ops.negInfinity (rational value) = rational value
  min_infinity : forall value, ops.min ops.infinity (rational value) = rational value
  ofUsize : forall value : Nat, ops.ofUsize value = rational value

namespace Exact

variable {ops : FloatOps elements} (exact : Exact elements ops)

include exact

theorem foldl_add (items : List ℚ) (start : ℚ) :
    (items.map exact.rational).foldl elements.add (exact.rational start) = exact.rational (start + items.sum) := by
  induction items generalizing start with
  | nil => simp
  | cons item items inductionHypothesis =>
      rw [List.map_cons, List.foldl_cons, exact.add, inductionHypothesis, List.sum_cons, add_assoc]

theorem sumOf_eq (items : List ℚ) : sumOf (items.map exact.rational) = exact.rational items.sum := by
  rw [sumOf, exact.zero, exact.foldl_add, zero_add]

theorem squares_eq (items : List ℚ) :
    (items.map exact.rational).map squareOf = (squares items).map exact.rational := by
  rw [squares, List.map_map, List.map_map]
  apply List.map_congr_left
  intro item _
  exact exact.mul item item

theorem mean_eq {items : List ℚ} (nonempty : items ≠ []) :
    ops.div (sumOf (items.map exact.rational)) (ops.ofUsize items.length) = exact.rational (mean items) := by
  have counted : (items.length : ℚ) ≠ 0 := by simpa using nonempty
  rw [exact.sumOf_eq, exact.ofUsize, exact.div _ _ counted, mean]

theorem deviations_eq (items : List ℚ) (center : ℚ) :
    (items.map exact.rational).map (fun value => squareOf (ops.sub value (exact.rational center))) =
      (deviations items center).map exact.rational := by
  rw [deviations, List.map_map, List.map_map]
  apply List.map_congr_left
  intro item _
  rw [Function.comp_apply, Function.comp_apply, exact.sub, squareOf, exact.mul]

end Exact

/-! ## Both come to the same -/

/-- What an accumulator keeps of the values it was updated with. -/
structure Summarizes (ops : FloatOps elements) (values : List elements.F64) (accum : ReduceAccum elements) :
    Prop where
  initialized : accum.initialized = true
  count : accum.count = values.length % usize
  sum : accum.sum = sumOf values
  sumsq : accum.sumsq = sumOf (values.map squareOf)
  product : accum.product = values.foldl elements.mul ops.one
  min : accum.min = values.foldl ops.min ops.infinity
  max : accum.max = values.foldl ops.max ops.negInfinity

namespace Summarizes

variable {ops : FloatOps elements} {values : List elements.F64} {accum : ReduceAccum elements}

theorem first (exact : Exact elements ops) (item : ℚ) :
    Summarizes ops [exact.rational item] (ReduceAccum.default.update ops (exact.rational item)) := by
  constructor
  · rfl
  · exact (Nat.mod_eq_of_lt usize_several).symm
  · have alone := exact.sumOf_eq [item]
    rw [List.sum_singleton] at alone
    exact alone.symm
  · have alone := exact.sumOf_eq [item * item]
    rw [List.sum_singleton, List.map_singleton, ← exact.mul] at alone
    exact alone.symm
  · rw [List.foldl_cons, List.foldl_nil, exact.one, exact.mul, one_mul]
    rfl
  · exact (exact.min_infinity item).symm
  · exact (exact.max_negInfinity item).symm

theorem update (kept : Summarizes ops values accum) (value : elements.F64) :
    Summarizes ops (values ++ [value]) (accum.update ops value) := by
  have more : accum.update ops value = { accum with
      count := plus accum.count 1
      sum := elements.add accum.sum value
      sumsq := elements.add accum.sumsq (elements.mul value value)
      product := elements.mul accum.product value
      min := ops.min accum.min value
      max := ops.max accum.max value } := by
    rw [ReduceAccum.update, kept.initialized]
    rfl
  rw [more]
  constructor
  · exact kept.initialized
  · change plus accum.count 1 = _
    rw [kept.count, plus, Nat.mod_add_mod, List.length_append, List.length_singleton]
  · change elements.add accum.sum value = _
    rw [kept.sum, sumOf, sumOf, List.foldl_append]
    rfl
  · change elements.add accum.sumsq (elements.mul value value) = _
    rw [kept.sumsq, sumOf, sumOf, List.map_append, List.foldl_append]
    rfl
  · change elements.mul accum.product value = _
    rw [kept.product, List.foldl_append]
    rfl
  · change ops.min accum.min value = _
    rw [kept.min, List.foldl_append]
    rfl
  · change ops.max accum.max value = _
    rw [kept.max, List.foldl_append]
    rfl

theorem foldl (kept : Summarizes ops values accum) (others : List elements.F64) :
    Summarizes ops (values ++ others) (others.foldl (ReduceAccum.update ops) accum) := by
  induction others generalizing values accum with
  | nil => rwa [List.append_nil]
  | cons value others inductionHypothesis =>
      have next := inductionHypothesis (kept.update value)
      rwa [List.append_assoc] at next

/-- An accumulator which was updated with rationals keeps what they come to. -/
theorem rationals (exact : Exact elements ops) {items : List ℚ} (nonempty : items ≠ []) :
    Summarizes ops (items.map exact.rational)
      ((items.map exact.rational).foldl (ReduceAccum.update ops) ReduceAccum.default) := by
  cases items with
  | nil => exact absurd rfl nonempty
  | cons item items => exact (first exact item).foldl (items.map exact.rational)

end Summarizes

/-- The deviation, in one pass and in two. -/
theorem std_eq {ops : FloatOps elements} (exact : Exact elements ops) {items : List ℚ} {accum : ReduceAccum elements}
    (nonempty : items ≠ []) (kept : Summarizes ops (items.map exact.rational) accum)
    (count : accum.count = items.length) : accum.std ops = stdOf ops (items.map exact.rational) := by
  have counted : (items.length : ℚ) ≠ 0 := by simpa using nonempty
  have center : ops.div accum.sum (ops.ofUsize accum.count) = exact.rational (mean items) := by
    rw [kept.sum, count, exact.mean_eq nonempty]
  have onePass : ops.sub (ops.div accum.sumsq (ops.ofUsize accum.count))
      (elements.mul (exact.rational (mean items)) (exact.rational (mean items))) =
      exact.rational ((squares items).sum / items.length - mean items * mean items) := by
    rw [kept.sumsq, count, exact.squares_eq, exact.sumOf_eq, exact.ofUsize, exact.div _ _ counted, exact.mul,
      exact.sub]
  have twoPasses : ops.div (sumOf ((deviations items (mean items)).map exact.rational)) (ops.ofUsize items.length) =
      exact.rational ((deviations items (mean items)).sum / items.length) := by
    rw [exact.sumOf_eq, exact.ofUsize, exact.div _ _ counted]
  have positive := mean_deviations_nonneg items (mean items)
  unfold ReduceAccum.std stdOf
  rw [List.length_map, center, exact.mean_eq nonempty]
  dsimp only
  rw [onePass, exact.deviations_eq, twoPasses, ← mean_deviations counted, exact.zero, exact.max,
    max_eq_left positive]

/-- The accumulator finalizes to the reduction of the values it was updated with. -/
theorem finalize_eq {ops : FloatOps elements} (exact : Exact elements ops) (op : String) {items : List ℚ}
    (nonempty : items ≠ []) (short : items.length < usize) :
    ((items.map exact.rational).foldl (ReduceAccum.update ops) ReduceAccum.default).finalize ops op =
      reducedValue ops op (items.map exact.rational) := by
  have kept := Summarizes.rationals exact nonempty
  have count : ((items.map exact.rational).foldl (ReduceAccum.update ops) ReduceAccum.default).count =
      (items.map exact.rational).length := by
    rw [kept.count, Nat.mod_eq_of_lt (by rwa [List.length_map])]
  have std := std_eq exact nonempty kept (by rw [count, List.length_map])
  unfold ReduceAccum.finalize reducedValue
  rw [kept.initialized, count, kept.sum, kept.sumsq, kept.product, kept.min, kept.max, std]
  rfl

/-! ## Readings -/

/-- The operations on readings. -/
def FloatOps.rational : FloatOps Elements.rational where
  sub left right := Elements.rational.add left (Reading.neg right)
  div := Reading.div
  max := Reading.max
  min := Reading.min
  sqrt := Reading.sqrt
  one := .finite 1
  infinity := .infinite false
  negInfinity := .infinite true
  ofUsize value := .finite value

theorem Reading.min_finite (left right : ℚ) : (finite left).min (finite right) = finite (Min.min left right) := by
  change finite (-Max.max (-left) (-right)) = _
  rw [max_neg_neg, neg_neg]

theorem Reading.min_infinite (value : ℚ) : (infinite false).min (finite value) = finite value :=
  congrArg finite (neg_neg value)

theorem Reading.sub_finite (left right : ℚ) :
    FloatOps.rational.sub (.finite left) (.finite right) = .finite (left - right) :=
  congrArg finite (sub_eq_add_neg left right).symm

/-- The finite readings are rationals. -/
def Exact.rationals : Exact Elements.rational FloatOps.rational where
  rational := .finite
  zero := rfl
  one := rfl
  add _ _ := rfl
  mul _ _ := rfl
  sub := Reading.sub_finite
  div _ _ nonzero := if_pos nonzero
  max _ _ := rfl
  min := Reading.min_finite
  max_negInfinity _ := rfl
  min_infinity := Reading.min_infinite
  ofUsize _ := rfl

end Tensors
end TransactionalCollection
