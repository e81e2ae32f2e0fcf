import Mathlib.Data.List.Zip
import TransactionalCollection.Execution.Traversals
import TransactionalCollection.Native.Signature
import TransactionalCollection.Numeric.Places

namespace TransactionalCollection
namespace Tensors

open Execution Native Numeric

/-!
# Shapes and coordinates

A shape lists dimensions, and a coordinate a component for each of them; cells are
counted with the last component fastest.  Dimensions, coordinates and offsets are
`usize`: natural numbers, of which sums and products wrap at sixty-four bits.
-/

variable {E A : Type}

/-- How many values a `usize` has. -/
def usize : Nat := 2 ^ 64

theorem usize_several : 1 < usize := by decide +kernel

/-- `iter().product()`. -/
def product (shape : List Nat) : Nat := wrappingProduct usize shape

theorem product_eq (shape : List Nat) : product shape = shape.prod % usize :=
  wrappingProduct_eq usize_several shape

theorem product_lt (shape : List Nat) : product shape < usize := by
  rw [product_eq]
  exact Nat.mod_lt _ (Nat.zero_lt_of_lt usize_several)

/-- `values[index]`. -/
def indexed (values : List A) (index : Nat) : Except (Failure E) A :=
  match values[index]? with
  | some value => .ok value
  | none => .error (.panic
      ⟨s!"index out of bounds: the len is {values.length} but the index is {index}"⟩)

theorem indexed_eq_ok {values : List A} {index : Nat} {value : A} :
    (indexed values index : Except (Failure E) A) = .ok value <-> values[index]? = some value := by
  unfold indexed
  cases values[index]? with
  | none => simp
  | some found => simp

theorem indexed_of_lt {values : List A} {index : Nat} (inBounds : index < values.length) :
    exists value, (indexed values index : Except (Failure E) A) = .ok value :=
  ⟨values[index], indexed_eq_ok.mpr (List.getElem?_eq_getElem inBounds)⟩

theorem indexed_eq_getD {values : List A} {index : Nat} (inside : index < values.length)
    (other : A) : (indexed values index : Except (Failure E) A) = .ok (values.getD index other) := by
  apply indexed_eq_ok.mpr
  rw [List.getD_eq_getElem?_getD, List.getElem?_eq_getElem inside]
  rfl

/-- `values[index] = value`. -/
def replaced (values : List A) (index : Nat) (value : A) : Except (Failure E) (List A) :=
  if index < values.length then .ok (values.set index value)
  else .error (.panic ⟨s!"index out of bounds: the len is {values.length} but the index is {index}"⟩)

/-! ## Coordinates -/

/-- A remainder by a zero dimension panics. -/
def unravelIndex (linear : Nat) (shape : List Nat) : Except (Failure E) (List Nat) :=
  if shape.contains 0 then
    .error (.panic ⟨"attempt to calculate the remainder with a divisor of zero"⟩)
  else .ok (digits linear shape.reverse).reverse

/-- The dimensions beside the components, last first. -/
def places (shape coord : List Nat) : List (Nat × Nat) := (shape.zip coord).reverse

/-- The loop over the axes, last first. -/
def offsetLoop : List (Nat × Nat) -> Nat -> Nat -> Except (Failure String) Nat
  | [], offset, _ => .ok offset
  | (dim, value) :: rest, offset, stride =>
      if value ≥ dim then .error (.error s!"coordinate at axis {rest.length} is out of bounds")
      else offsetLoop rest ((offset + value * stride % usize) % usize) (stride * dim % usize)

def coordOffsetUsize (shape coord : List Nat) : Except (Failure String) Nat :=
  if coord.length ≠ shape.length then .error (.error "incorrect number of coordinates")
  else offsetLoop (places shape coord) 0 1

/-- The components are `u64`, each of which is a `usize` too. -/
def coordOffset (shape coord : List Nat) : Except (Failure String) Nat := coordOffsetUsize shape coord

theorem offsetLoop_eq_ok {pairs : List (Nat × Nat)} {offset stride result : Nat} :
    offsetLoop pairs offset stride = .ok result <->
      InRange pairs ∧ wrappingValue usize pairs offset stride = result := by
  induction pairs generalizing offset stride with
  | nil => simp [offsetLoop, wrappingValue, InRange]
  | cons pair rest inductionHypothesis =>
      rcases pair with ⟨dim, value⟩
      rw [offsetLoop, wrappingValue, InRange.cons_iff]
      by_cases outside : value ≥ dim
      · rw [if_pos outside]
        apply iff_of_false
        · intro impossible
          cases impossible
        · intro inside
          omega
      · rw [if_neg outside, inductionHypothesis, and_assoc]
        exact (and_iff_right (Nat.lt_of_not_le outside)).symm

/-- A coordinate has an offset if and only if it lies in the shape. -/
theorem coordOffsetUsize_eq_ok {shape coord : List Nat} {offset : Nat} :
    coordOffsetUsize shape coord = .ok offset <->
      coord.length = shape.length ∧ InRange (places shape coord) ∧
        value (places shape coord) % usize = offset := by
  unfold coordOffsetUsize
  by_cases width : coord.length = shape.length
  · rw [if_neg (not_not_intro width), offsetLoop_eq_ok,
      wrappingValue_eq (Nat.zero_lt_of_lt usize_several), Nat.zero_add, Nat.one_mul]
    exact (and_iff_right width).symm
  · rw [if_pos width]
    apply iff_of_false
    · intro impossible
      cases impossible
    · intro inside
      exact width inside.1

theorem places_fst {shape coord : List Nat} (width : coord.length = shape.length) :
    (places shape coord).map Prod.fst = shape.reverse := by
  rw [places, List.map_reverse, List.map_fst_zip (Nat.le_of_eq width.symm)]

theorem unravelIndex_eq_ok {linear : Nat} {shape coord : List Nat} :
    (unravelIndex linear shape : Except (Failure E) (List Nat)) = .ok coord <->
      0 ∉ shape ∧ coord = (digits linear shape.reverse).reverse := by
  unfold unravelIndex
  by_cases zero : 0 ∈ shape
  · rw [if_pos (List.contains_iff_mem.mpr zero)]
    apply iff_of_false
    · intro impossible
      cases impossible
    · intro inside
      exact inside.1 zero
  · rw [if_neg (fun present => zero (List.contains_iff_mem.mp present)), Except.ok.injEq]
    exact ⟨fun same => ⟨zero, same.symm⟩, fun both => both.2.symm⟩

/-- The coordinate of a cell, beside the shape. -/
theorem places_digits (linear : Nat) (shape : List Nat) :
    places shape (digits linear shape.reverse).reverse = shape.reverse.zip (digits linear shape.reverse) := by
  have width : shape.length = (digits linear shape.reverse).reverse.length := by
    rw [List.length_reverse, length_digits, List.length_reverse]
  rw [places, List.zip_eq_zipWith, List.reverse_zipWith width, List.reverse_reverse]
  rfl

/-- Each cell has a coordinate, whose offset is its number. -/
theorem coordOffsetUsize_digits {cell : Nat} {shape : List Nat} (below : cell < shape.prod) :
    coordOffsetUsize shape (digits cell shape.reverse).reverse = .ok (cell % usize) := by
  have nonzero : 0 ∉ shape.reverse := by
    rw [List.mem_reverse, ← List.prod_eq_zero_iff]
    omega
  apply coordOffsetUsize_eq_ok.mpr
  rw [places_digits]
  refine ⟨?_, inRange_digits nonzero, ?_⟩
  · rw [List.length_reverse, length_digits, List.length_reverse]
  · rw [value_digits]
    rwa [List.prod_reverse]

/-! ## Broadcasting -/

/-- Each dimension of the source, from the last, is one or that of the target. -/
def canBroadcastTo (source target : List Nat) : Bool :=
  if source.length > target.length then false
  else (source.reverse.zip target.reverse).all (fun dims => dims.1 == 1 || dims.1 == dims.2)

/-- The component of a source beside one of the output. -/
def projectAxis (dim component : Nat) : Nat := if dim = 1 then 0 else component

def projectBroadcastIndex (outCoord sourceShape : List Nat) : Except (Failure String) (List Nat) :=
  if sourceShape.length > outCoord.length then
    .error (.error "source rank exceeds output rank for broadcast")
  else
    .ok (List.zipWith projectAxis sourceShape (outCoord.drop (outCoord.length - sourceShape.length)))

/-- What is projected of a numeral, beside the radices of the source. -/
def projectedPlaces (sourceRadices digits : List Nat) : List (Nat × Nat) :=
  List.zipWith (fun dim component => (dim, projectAxis dim component)) sourceRadices digits

/-- The radices of a source which broadcasts to some of a target. -/
def Broadcasts (sourceRadices targetRadices : List Nat) : Prop :=
  sourceRadices.length ≤ targetRadices.length ∧
    forall dims, dims ∈ sourceRadices.zip targetRadices -> dims.1 = 1 ∨ dims.1 = dims.2

theorem canBroadcastTo_iff {source target : List Nat} :
    canBroadcastTo source target = true <-> Broadcasts source.reverse target.reverse := by
  unfold canBroadcastTo Broadcasts
  rw [List.length_reverse, List.length_reverse]
  by_cases longer : source.length > target.length
  · rw [if_pos longer]
    apply iff_of_false Bool.false_ne_true
    intro both
    omega
  · rw [if_neg longer]
    simp only [List.all_eq_true, Bool.or_eq_true, beq_iff_eq]
    exact (and_iff_right (Nat.le_of_not_lt longer)).symm

theorem Broadcasts.cons_iff {dim other : Nat} {source target : List Nat} :
    Broadcasts (dim :: source) (other :: target) <->
      (dim = 1 ∨ dim = other) ∧ Broadcasts source target := by
  unfold Broadcasts
  rw [List.zip_cons_cons, List.forall_mem_cons, List.length_cons, List.length_cons, Nat.succ_le_succ_iff]
  constructor
  · intro both
    exact ⟨both.2.1, both.1, both.2.2⟩
  · intro both
    exact ⟨both.2.1, both.1, both.2.2⟩

/-- Projected digits are below the radices of the source. -/
theorem Broadcasts.inRange {source target : List Nat} (broadcasts : Broadcasts source target)
    (nonzero : 0 ∉ target) (cell : Nat) : InRange (projectedPlaces source (digits cell target)) := by
  induction source generalizing target cell with
  | nil =>
      intro place impossible
      cases impossible
  | cons dim source inductionHypothesis =>
      cases target with
      | nil => cases broadcasts.1
      | cons other target =>
          rcases Broadcasts.cons_iff.mp broadcasts with ⟨fits, rest⟩
          rw [List.mem_cons, not_or] at nonzero
          rw [digits, projectedPlaces, List.zipWith_cons_cons]
          apply InRange.cons_iff.mpr
          refine ⟨?_, inductionHypothesis rest nonzero.2 _⟩
          have small := Nat.mod_lt cell (Nat.pos_of_ne_zero (fun zero => nonzero.1 zero.symm))
          unfold projectAxis
          split <;> omega

theorem Broadcasts.prod_le {source target : List Nat} (broadcasts : Broadcasts source target)
    (nonzero : 0 ∉ target) : source.prod ≤ target.prod := by
  induction source generalizing target with
  | nil => exact prod_pos nonzero
  | cons dim source inductionHypothesis =>
      cases target with
      | nil => cases broadcasts.1
      | cons other target =>
          rcases Broadcasts.cons_iff.mp broadcasts with ⟨fits, rest⟩
          rw [List.mem_cons, not_or] at nonzero
          rw [List.prod_cons, List.prod_cons]
          apply Nat.mul_le_mul ?_ (inductionHypothesis rest nonzero.2)
          omega

/-- Where one shape broadcasts to another, it has no more elements. -/
theorem broadcasts_prod_le {source target : List Nat} (broadcasts : Broadcasts source.reverse target.reverse)
    (nonzero : 0 ∉ target) : source.prod ≤ target.prod := by
  have bound := broadcasts.prod_le (by rwa [List.mem_reverse])
  rwa [List.prod_reverse, List.prod_reverse] at bound

theorem projectedPlaces_fst {source components : List Nat} (width : source.length ≤ components.length) :
    (projectedPlaces source components).map Prod.fst = source := by
  induction source generalizing components with
  | nil => rfl
  | cons dim source inductionHypothesis =>
      cases components with
      | nil => cases width
      | cons component components =>
          rw [projectedPlaces, List.zipWith_cons_cons, List.map_cons]
          exact congrArg (List.cons dim) (inductionHypothesis (Nat.le_of_succ_le_succ width))

theorem zip_zipWith {A B C : Type} (join : A -> B -> C) (left : List A) (right : List B) :
    left.zip (List.zipWith join left right) =
      List.zipWith (fun item other => (item, join item other)) left right := by
  rw [List.zip_eq_zipWith, List.zipWith_zipWith_right, List.zipWith3_same_left]

/-- What a source is projected to, beside its shape. -/
theorem places_project {outCoord sourceShape sourceCoord : List Nat}
    (projected : projectBroadcastIndex outCoord sourceShape = .ok sourceCoord) :
    sourceCoord.length = sourceShape.length ∧
      places sourceShape sourceCoord = projectedPlaces sourceShape.reverse outCoord.reverse := by
  unfold projectBroadcastIndex at projected
  split at projected
  · cases projected
  · rename_i shorter
    cases projected
    have width : sourceShape.length = (outCoord.drop (outCoord.length - sourceShape.length)).length := by
      rw [List.length_drop]
      omega
    refine ⟨?_, ?_⟩
    · rw [List.length_zipWith, ← width, Nat.min_self]
    · rw [places, zip_zipWith, List.reverse_zipWith width, List.reverse_drop]
      have kept : outCoord.length - (outCoord.length - sourceShape.length) = sourceShape.reverse.length := by
        rw [List.length_reverse]
        omega
      have shared : min sourceShape.reverse.length outCoord.reverse.length = sourceShape.reverse.length := by
        rw [List.length_reverse, List.length_reverse]
        omega
      have components : projectedPlaces sourceShape.reverse outCoord.reverse =
          projectedPlaces sourceShape.reverse (outCoord.reverse.take sourceShape.reverse.length) := by
        rw [projectedPlaces, List.zipWith_eq_zipWith_take_min, shared, List.take_length]
        rfl
      rw [kept, components]
      rfl

/-- The cell of the source which a cell of the output takes its value from. -/
def sourceOffset (sourceShape shape : List Nat) (cell : Nat) : Except (Failure String) Nat := do
  let outCoord <- unravelIndex cell shape
  let sourceCoord <- projectBroadcastIndex outCoord sourceShape
  coordOffsetUsize sourceShape sourceCoord

/-- The number of the source's cell, before it wraps. -/
def sourceCell (sourceShape shape : List Nat) (cell : Nat) : Nat :=
  value (projectedPlaces sourceShape.reverse (digits cell shape.reverse))

theorem length_digits_reverse (cell : Nat) (shape : List Nat) :
    (digits cell shape.reverse).reverse.length = shape.length := by
  rw [List.length_reverse, length_digits, List.length_reverse]

/-- A source which broadcasts has no more dimensions than a coordinate has components. -/
theorem Broadcasts.length_le {sourceShape shape : List Nat}
    (broadcasts : Broadcasts sourceShape.reverse shape.reverse) (cell : Nat) :
    sourceShape.length ≤ (digits cell shape.reverse).reverse.length := by
  have within := broadcasts.1
  rw [List.length_reverse, List.length_reverse] at within
  rwa [length_digits_reverse]

theorem sourceOffset_eq_ok {sourceShape shape : List Nat} {cell : Nat}
    (broadcasts : canBroadcastTo sourceShape shape = true) (nonzero : 0 ∉ shape) :
    sourceOffset sourceShape shape cell = .ok (sourceCell sourceShape shape cell % usize) := by
  have fits := canBroadcastTo_iff.mp broadcasts
  have shorter : ¬ sourceShape.length > (digits cell shape.reverse).reverse.length :=
    Nat.not_lt.mpr (fits.length_le cell)
  have coord : exists sourceCoord,
      projectBroadcastIndex (digits cell shape.reverse).reverse sourceShape = .ok sourceCoord :=
    ⟨_, if_neg shorter⟩
  rcases coord with ⟨sourceCoord, projected⟩
  rcases places_project projected with ⟨width, beside⟩
  rw [List.reverse_reverse] at beside
  have unraveled : (unravelIndex cell shape : Except (Failure String) (List Nat)) =
      .ok (digits cell shape.reverse).reverse := unravelIndex_eq_ok.mpr ⟨nonzero, rfl⟩
  have offset : coordOffsetUsize sourceShape sourceCoord =
      .ok (sourceCell sourceShape shape cell % usize) := by
    apply coordOffsetUsize_eq_ok.mpr
    rw [beside]
    refine ⟨width, fits.inRange ?_ cell, rfl⟩
    rwa [List.mem_reverse]
  apply except_bind_eq_ok.mpr
  exact ⟨_, unraveled, except_bind_eq_ok.mpr ⟨sourceCoord, projected, offset⟩⟩

/-- A shape broadcasts to itself cell by cell. -/
theorem sourceCell_self {shape : List Nat} {cell : Nat} (below : cell < shape.prod) :
    sourceCell shape shape cell = cell := by
  have kept : forall (radices : List Nat) (number : Nat), 0 ∉ radices ->
      projectedPlaces radices (digits number radices) = radices.zip (digits number radices) := by
    intro radices
    induction radices with
    | nil =>
        intro number _
        rfl
    | cons radix radices inductionHypothesis =>
        intro number nonzero
        rw [List.mem_cons, not_or] at nonzero
        have component : projectAxis radix (number % radix) = number % radix := by
          have small := Nat.mod_lt number (Nat.pos_of_ne_zero (fun zero => nonzero.1 zero.symm))
          unfold projectAxis
          split <;> omega
        rw [digits, projectedPlaces, List.zipWith_cons_cons, component, List.zip_cons_cons]
        exact congrArg (List.cons _) (inductionHypothesis _ nonzero.2)
  have nonzero : 0 ∉ shape.reverse := by
    intro zero
    rw [List.prod_eq_zero (List.mem_reverse.mp zero)] at below
    cases below
  rw [sourceCell, kept _ _ nonzero]
  apply value_digits
  rwa [List.prod_reverse]

/-- What is projected of the coordinate of a cell, and its offset. -/
theorem sourceCoord_of_cell {sourceShape shape : List Nat} (cell : Nat)
    (broadcasts : canBroadcastTo sourceShape shape = true) (nonzero : 0 ∉ shape) :
    exists sourceCoord,
      projectBroadcastIndex (digits cell shape.reverse).reverse sourceShape = .ok sourceCoord ∧
        coordOffsetUsize sourceShape sourceCoord = .ok (sourceCell sourceShape shape cell % usize) := by
  have offset : sourceOffset sourceShape shape cell = .ok (sourceCell sourceShape shape cell % usize) :=
    sourceOffset_eq_ok broadcasts nonzero
  rcases except_bind_eq_ok.mp offset with ⟨outCoord, unraveled, rest⟩
  rcases unravelIndex_eq_ok.mp unraveled with ⟨_, rfl⟩
  exact except_bind_eq_ok.mp rest

/-- Cells of the output take their values from cells of the source. -/
theorem sourceCell_lt {sourceShape shape : List Nat}
    (broadcasts : Broadcasts sourceShape.reverse shape.reverse) (nonzero : 0 ∉ shape) (cell : Nat) :
    sourceCell sourceShape shape cell < sourceShape.prod := by
  have below := value_lt (broadcasts.inRange (by rwa [List.mem_reverse]) cell)
  rw [projectedPlaces_fst, List.prod_reverse] at below
  · exact below
  · rw [length_digits]
    exact broadcasts.1

/-! ## The last cell -/

theorem Broadcasts.projectedPlaces_last {source target : List Nat} (broadcasts : Broadcasts source target) :
    projectedPlaces source (target.map (fun dim => dim - 1)) = source.map (fun dim => (dim, dim - 1)) := by
  induction source generalizing target with
  | nil => rfl
  | cons dim source inductionHypothesis =>
      cases target with
      | nil => cases broadcasts.1
      | cons other target =>
          rcases Broadcasts.cons_iff.mp broadcasts with ⟨fits, rest⟩
          have component : projectAxis dim (other - 1) = dim - 1 := by
            unfold projectAxis
            split <;> omega
          rw [List.map_cons, projectedPlaces, List.zipWith_cons_cons, component, List.map_cons]
          exact congrArg (List.cons (dim, dim - 1)) (inductionHypothesis rest)

/-- The last cell of the output takes its value from the last cell of the source. -/
theorem sourceCell_last {sourceShape shape : List Nat}
    (broadcasts : Broadcasts sourceShape.reverse shape.reverse)
    (nonzero : 0 ∉ shape) : sourceCell sourceShape shape (shape.prod - 1) = sourceShape.prod - 1 := by
  have targetNonzero : 0 ∉ shape.reverse := by rwa [List.mem_reverse]
  have sourceNonzero : 0 ∉ sourceShape.reverse := by
    intro zero
    have positive := sourceCell_lt broadcasts nonzero 0
    rw [List.prod_eq_zero (List.mem_reverse.mp zero)] at positive
    cases positive
  rw [sourceCell, ← List.prod_reverse shape, digits_last targetNonzero, broadcasts.projectedPlaces_last,
    value_last sourceNonzero, List.prod_reverse]

end Tensors
end TransactionalCollection
