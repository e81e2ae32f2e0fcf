import TransactionalCollection.Tensors.Fibers
import TransactionalCollection.Tensors.Wire

namespace TransactionalCollection
namespace Tensors

open Execution Native Numeric

/-!
# Filling a tensor

Numbers are written one after another, at any coordinates and in any order.  The last of
those at a coordinate stays there, and the first which is refused ends the writes after
those before it.  A tensor of which each element is written is the one which is decoded
of the numbers, or refused as they are.
-/

variable {elements : Elements}

namespace Tensor

/-- Numbers at coordinates, one after another. -/
abbrev Entries (elements : Elements) := List (List Nat × Number elements)

def writeAll (checks : FloatChecks elements) (casts : NumberCasts elements) (entries : Entries elements) :
    EStateM (Failure String) (Tensor elements) Unit :=
  entries.forM (fun entry => writeValue checks casts entry.1 entry.2)

theorem writeAll_cons {checks : FloatChecks elements} {casts : NumberCasts elements}
    (entry : List Nat × Number elements) (entries : Entries elements) :
    writeAll checks casts (entry :: entries) =
      (writeValue checks casts entry.1 entry.2 >>= fun _ => writeAll checks casts entries) := rfl

theorem writeAll_append {checks : FloatChecks elements} {casts : NumberCasts elements}
    (first second : Entries elements) : writeAll checks casts (first ++ second) =
      (writeAll checks casts first >>= fun _ => writeAll checks casts second) := List.forM_append

/-- The last number at a coordinate. -/
def lastAt (coord : List Nat) : Entries elements -> Option (Number elements)
  | [] => none
  | entry :: entries => (lastAt coord entries).or (if entry.1 = coord then some entry.2 else none)

/-- All coordinates of a shape, in the order of their cells. -/
def coordinates (shape : List Nat) : List (List Nat) :=
  (List.range shape.prod).map (cellCoord shape)

section Coordinates

variable {shape coord : List Nat}

theorem length_coordinates (shape : List Nat) : (coordinates shape).length = shape.prod := by
  rw [coordinates, List.length_map, List.length_range]

theorem getElem?_coordinates (within : Within shape coord) :
    (coordinates shape)[value (places shape coord)]? = some coord := by
  rw [coordinates, List.getElem?_map, List.getElem?_range within.value_lt, Option.map_some, cellCoord,
    within.digits_value]

theorem within_of_mem (member : coord ∈ coordinates shape) : Within shape coord := by
  rcases List.mem_map.mp member with ⟨cell, below, rfl⟩
  apply within_digits
  intro zero
  rw [List.prod_eq_zero zero] at below
  cases below

theorem nodup_coordinates (shape : List Nat) : (coordinates shape).Nodup := by
  apply List.Nodup.map_on ?_ List.nodup_range
  intro left leftInside right rightInside same
  rw [List.mem_range] at leftInside rightInside
  rw [← value_cellCoord leftInside, ← value_cellCoord rightInside, same]

end Coordinates

theorem lastAt_of_mem {entries : Entries elements} {coord : List Nat} {number : Number elements}
    (distinct : (entries.map Prod.fst).Nodup) (member : (coord, number) ∈ entries) :
    lastAt coord entries = some number := by
  induction entries with
  | nil => cases member
  | cons entry entries inductionHypothesis =>
      rcases List.nodup_cons.mp distinct with ⟨fresh, distinct⟩
      rw [lastAt]
      rcases List.mem_cons.mp member with rfl | later
      · have absent : forall others : Entries elements, coord ∉ others.map Prod.fst -> lastAt coord others = none := by
          intro others missing
          induction others with
          | nil => rfl
          | cons other others inductionHypothesis =>
              rw [List.map_cons, List.mem_cons, not_or] at missing
              rw [lastAt, inductionHypothesis missing.2, if_neg (fun same => missing.1 same.symm)]
              rfl
        rw [absent entries fresh, if_pos rfl]
        rfl
      · rw [inductionHypothesis distinct later]
        rfl

/-! ## Runs of writes -/

section Runs

variable {checks : FloatChecks elements} {casts : NumberCasts elements} {tensor next : Tensor elements}
  {entries : Entries elements}

theorem wellSized_iff : tensor.WellSized <-> tensor.shape.prod < usize := by
  rw [WellSized, cells_eq_size, size, product_eq]
  constructor
  · intro same
    rw [same]
    exact Nat.mod_lt _ (Nat.zero_lt_of_lt usize_several)
  · intro small
    exact (Nat.mod_eq_of_lt small).symm

theorem admits_congr (same : next.dtypeTag = tensor.dtypeTag) (number : Number elements) :
    next.Admits checks number <-> tensor.Admits checks number := by
  cases tensor <;> cases next <;> first | rfl | simp [dtypeTag] at same

theorem castTo_congr (same : next.dtypeTag = tensor.dtypeTag) : next.castTo casts = tensor.castTo casts := by
  cases tensor <;> cases next <;> first | rfl | simp [dtypeTag] at same

/-- What is at each coordinate after numbers have been written. -/
structure Filled (casts : NumberCasts elements) (tensor next : Tensor elements)
    (entries : Entries elements) : Prop where
  shape : next.shape = tensor.shape
  dtype : next.dtypeTag = tensor.dtypeTag
  cell : forall coord, Within tensor.shape coord -> next.readValue coord =
    match lastAt coord entries with
    | some number => .ok (tensor.castTo casts number)
    | none => tensor.readValue coord

/-- The number is written at the coordinate. -/
def Takes (checks : FloatChecks elements) (tensor : Tensor elements) (entry : List Nat × Number elements) : Prop :=
  Within tensor.shape entry.1 ∧ tensor.Admits checks entry.2

theorem Filled.cons {middle : Tensor elements} {coord : List Nat} {number : Number elements}
    (writes : tensor.Writes middle coord (tensor.castTo casts number)) (filled : Filled casts middle next entries) :
    Filled casts tensor next ((coord, number) :: entries) := by
  refine ⟨filled.shape.trans writes.shape, filled.dtype.trans writes.dtype, ?_⟩
  intro other within
  have there := filled.cell other (by rwa [writes.shape])
  rw [there, lastAt, castTo_congr writes.dtype]
  cases lastAt other entries with
  | some later => rfl
  | none =>
      rw [Option.none_or]
      by_cases same : coord = other
      · subst same
        rw [if_pos rfl]
        exact writes.here
      · rw [if_neg same]
        exact writes.elsewhere other within (fun equal => same equal.symm)

/-- Numbers which are all taken are all written. -/
theorem writeAll_of_takes (casts : NumberCasts elements) (wellSized : tensor.WellSized)
    (takes : forall entry, entry ∈ entries -> tensor.Takes checks entry) : exists next,
      writeAll checks casts entries tensor = .ok () next ∧ Filled casts tensor next entries := by
  induction entries generalizing tensor with
  | nil => exact ⟨tensor, rfl, rfl, rfl, fun _ _ => rfl⟩
  | cons entry entries inductionHypothesis =>
      rcases List.forall_mem_cons.mp takes with ⟨first, later⟩
      have framed := writeValue_frame casts checks wellSized entry.1 entry.2
      have done := eq_ok_of_succeeded (framed.1.mpr first)
      have writes := framed.2.1 _ done
      have sized : (finalState (writeValue checks casts entry.1 entry.2 tensor)).WellSized := by
        rw [wellSized_iff, writes.shape]
        exact wellSized_iff.mp wellSized
      rcases inductionHypothesis sized (fun other member => by
        have taken := later other member
        exact ⟨writes.shape ▸ taken.1, (admits_congr writes.dtype _).mpr taken.2⟩) with ⟨next, written, filled⟩
      refine ⟨next, ?_, Filled.cons writes filled⟩
      rw [writeAll_cons]
      exact (bind_of_ok done).trans written

/-- The first number which is not taken ends the writes. -/
theorem writeAll_of_refused (casts : NumberCasts elements) (wellSized : tensor.WellSized)
    {before after : Entries elements} {refused : List Nat × Number elements}
    (takes : forall entry, entry ∈ before -> tensor.Takes checks entry) (missing : ¬ tensor.Takes checks refused) :
    exists next message, writeAll checks casts (before ++ refused :: after) tensor = .error (.error message) next ∧
      Filled casts tensor next before := by
  rcases writeAll_of_takes casts wellSized takes with ⟨next, written, filled⟩
  have sized : next.WellSized := by
    rw [wellSized_iff, filled.shape]
    exact wellSized_iff.mp wellSized
  have framed := writeValue_frame casts checks sized refused.1 refused.2
  have failed : succeeded (writeValue checks casts refused.1 refused.2 next) = false := by
    rw [← Bool.not_eq_true, framed.1, filled.shape, admits_congr filled.dtype]
    exact missing
  rcases eq_error_of_not_succeeded failed with ⟨failure, stopped⟩
  rcases framed.2.2 _ _ stopped with ⟨unchanged, message, rfl⟩
  rw [unchanged] at stopped
  refine ⟨next, message, ?_, filled⟩
  rw [writeAll_append]
  refine (bind_of_ok written).trans ?_
  rw [writeAll_cons]
  exact bind_of_error stopped

theorem takes_or_refused (checks : FloatChecks elements) (tensor : Tensor elements) (entries : Entries elements) :
    (forall entry, entry ∈ entries -> tensor.Takes checks entry) ∨ exists before refused after,
      entries = before ++ refused :: after ∧ (forall entry, entry ∈ before -> tensor.Takes checks entry) ∧
        ¬ tensor.Takes checks refused := by
  induction entries with
  | nil => exact Or.inl (fun _ impossible => by cases impossible)
  | cons entry entries inductionHypothesis =>
      by_cases here : tensor.Takes checks entry
      · rcases inductionHypothesis with all | ⟨before, refused, after, rfl, taken, missing⟩
        · exact Or.inl (List.forall_mem_cons.mpr ⟨here, all⟩)
        · exact Or.inr ⟨entry :: before, refused, after, rfl, List.forall_mem_cons.mpr ⟨here, taken⟩, missing⟩
      · exact Or.inr ⟨[], entry, entries, rfl, fun _ impossible => absurd impossible List.not_mem_nil, here⟩

end Runs

/-! ## Whole tensors -/

section Whole

variable {checks : FloatChecks elements} {casts : NumberCasts elements} {tensor : Tensor elements}
  {numbers : List (Number elements)} {entries : Entries elements}

theorem component_of_made {dtype : NumberType} {shape : List Nat} {made : Tensor elements}
    (makes : Made casts dtype shape numbers made) (cell : Nat) :
    made.component cell = numbers[cell]?.map (made.castTo casts) := by
  cases dtype with
  | float32 =>
      rcases makes with ⟨array, rfl, _, same⟩
      rw [component, same, List.getElem?_map, Option.map_map]
      rfl
  | float64 =>
      rcases makes with ⟨array, rfl, _, same⟩
      rw [component, same, List.getElem?_map, Option.map_map]
      rfl
  | uint64 =>
      rcases makes with ⟨array, rfl, _, same⟩
      rw [component, same, List.getElem?_map, Option.map_map]
      rfl
  | other name => exact makes.elim

theorem dtypeTag_of_numberType {left right : Tensor elements} (same : left.numberType = right.numberType) :
    left.dtypeTag = right.dtypeTag := by
  cases left <;> cases right <;> first | rfl | cases same

/-- Numbers for each cell make a tensor of the same type and shape. -/
theorem exists_made (casts : NumberCasts elements) (wellSized : tensor.WellSized)
    (length : numbers.length = tensor.shape.prod) : exists made,
      Made casts tensor.numberType tensor.shape numbers made := by
  have size : numbers.length = product tensor.shape := by
    rw [product_eq, Nat.mod_eq_of_lt wellSized.prod_lt, length]
  cases tensor with
  | f32 array => exact ⟨_, ⟨_, _, array.accepts id ((List.length_map _).trans size)⟩, rfl, rfl, rfl⟩
  | f64 array => exact ⟨_, ⟨_, _, array.accepts id ((List.length_map _).trans size)⟩, rfl, rfl, rfl⟩
  | u64 array => exact ⟨_, ⟨_, _, array.accepts id ((List.length_map _).trans size)⟩, rfl, rfl, rfl⟩

/-- A tensor whose elements are all written is made of the numbers, whatever it was. -/
theorem Filled.eq_made {next made : Tensor elements} (wellSized : tensor.WellSized)
    (length : numbers.length = tensor.shape.prod) (ordered : entries.Perm ((coordinates tensor.shape).zip numbers))
    (filled : Filled casts tensor next entries) (makes : Made casts tensor.numberType tensor.shape numbers made) :
    next = made := by
  have tags : made.dtypeTag = tensor.dtypeTag := dtypeTag_of_numberType makes.shape.2.2
  have small := wellSized_iff.mp wellSized
  have counts : (coordinates tensor.shape).length = numbers.length := by rw [length_coordinates, length]
  have distinct : (entries.map Prod.fst).Nodup := by
    rw [(ordered.map Prod.fst).nodup_iff, List.map_fst_zip (Nat.le_of_eq counts)]
    exact nodup_coordinates _
  have madeSized : made.WellSized := by
    rw [wellSized_iff, makes.shape.1]
    exact small
  apply eq_of_reads
  · rw [wellSized_iff, filled.shape]
    exact small
  · exact madeSized
  · rw [filled.dtype, tags]
  · rw [filled.shape, makes.shape.1]
  · intro coord within
    rw [filled.shape] at within
    have inside := within.value_lt
    rw [← length] at inside
    have found : ((coordinates tensor.shape).zip numbers)[value (places tensor.shape coord)]? =
        some (coord, numbers[value (places tensor.shape coord)]) := by
      rw [List.getElem?_zip_eq_some]
      exact ⟨getElem?_coordinates within, List.getElem?_eq_getElem inside⟩
    rw [filled.cell coord within, lastAt_of_mem distinct (ordered.mem_iff.mpr (List.mem_of_getElem? found))]
    symm
    apply (readValue_eq_ok madeSized (makes.shape.1 ▸ within)).mpr
    rw [makes.shape.1, component_of_made makes, List.getElem?_eq_getElem inside, castTo_congr tags]
    rfl

/-- Numbers for all elements, written in any order: where the tensor admits them, they
are decoded to what they leave, and a literal is the same; otherwise the literal is made
of them all the same, while the decoder and the writes refuse. -/
structure Fills (checks : FloatChecks elements) (casts : NumberCasts elements) (tensor : Tensor elements)
    (numbers : List (Number elements)) (entries : Entries elements) (made : Tensor elements) : Prop where
  literal : literalFromParts casts tensor.numberType tensor.shape numbers = .ok made
  admitted : (forall number, number ∈ numbers -> tensor.Admits checks number) ->
    tensorFromParts checks casts tensor.numberType tensor.shape numbers = .ok made ∧
      writeAll checks casts entries tensor = .ok () made
  refused : ¬ (forall number, number ∈ numbers -> tensor.Admits checks number) ->
    (exists message, tensorFromParts checks casts tensor.numberType tensor.shape numbers = .error message) ∧
      exists before entry after next message, entries = before ++ entry :: after ∧
        ¬ tensor.Admits checks entry.2 ∧ writeAll checks casts entries tensor = .error (.error message) next ∧
        Filled casts tensor next before

theorem writeAll_fills (checks : FloatChecks elements) (casts : NumberCasts elements) (wellSized : tensor.WellSized)
    (length : numbers.length = tensor.shape.prod) (ordered : entries.Perm ((coordinates tensor.shape).zip numbers)) :
    exists made, Fills checks casts tensor numbers entries made := by
  rcases exists_made casts wellSized length with ⟨made, makes⟩
  have tags : made.dtypeTag = tensor.dtypeTag := dtypeTag_of_numberType makes.shape.2.2
  have counts : (coordinates tensor.shape).length = numbers.length := by rw [length_coordinates, length]
  have within : forall entry, entry ∈ entries -> Within tensor.shape entry.1 := by
    intro entry member
    exact within_of_mem (List.of_mem_zip (ordered.mem_iff.mp member)).1
  have takes_iff : (forall entry, entry ∈ entries -> tensor.Takes checks entry) <->
      forall number, number ∈ numbers -> tensor.Admits checks number := by
    have same : forall number, number ∈ numbers <-> number ∈ entries.map Prod.snd := by
      intro number
      rw [(ordered.map Prod.snd).mem_iff, List.map_snd_zip (Nat.le_of_eq counts.symm)]
    constructor
    · intro takes number member
      rcases List.mem_map.mp ((same number).mp member) with ⟨entry, listed, rfl⟩
      exact (takes entry listed).2
    · intro admits entry member
      exact ⟨within entry member, admits _ ((same _).mpr (List.mem_map_of_mem member))⟩
  refine ⟨made, literalFromParts_iff.mpr makes, ?_, ?_⟩
  · intro admits
    rcases writeAll_of_takes casts wellSized (takes_iff.mpr admits) with ⟨next, written, filled⟩
    rw [filled.eq_made wellSized length ordered makes] at written
    refine ⟨tensorFromParts_iff.mpr ⟨makes, ?_⟩, written⟩
    intro number member
    exact (admits_congr tags number).mpr (admits number member)
  · intro refused
    constructor
    · cases outcome : tensorFromParts checks casts tensor.numberType tensor.shape numbers with
      | error message => exact ⟨message, rfl⟩
      | ok other =>
          rcases tensorFromParts_iff.mp outcome with ⟨otherMakes, admits⟩
          apply absurd ?_ refused
          intro number member
          exact (admits_congr (dtypeTag_of_numberType otherMakes.shape.2.2) number).mp (admits number member)
    · rcases takes_or_refused checks tensor entries with takes | ⟨before, entry, after, rfl, takes, missing⟩
      · exact absurd (takes_iff.mp takes) refused
      · rcases writeAll_of_refused casts wellSized takes missing with ⟨next, message, stopped, filled⟩
        refine ⟨before, entry, after, next, message, rfl, ?_, stopped, filled⟩
        intro admits
        exact missing ⟨within entry (List.mem_append_right _ List.mem_cons_self), admits⟩

end Whole

end Tensor

theorem writeAll_fills_line : exists made, Tensor.Fills FloatChecks.binary NumberCasts.binary line
    [.uint 9, .uint 8, .uint 7] [([2], .uint 7), ([0], .uint 9), ([1], .uint 8)] made := by
  have listed : Tensor.coordinates line.shape = [[0], [1], [2]] := by decide
  have ordered : List.Perm ([([2], .uint 7), ([0], .uint 9), ([1], .uint 8)] : Tensor.Entries Elements.binary)
      ((Tensor.coordinates line.shape).zip [.uint 9, .uint 8, .uint 7]) := by
    rw [listed]
    exact (List.Perm.swap _ _ _).trans ((List.Perm.swap _ _ _).cons _)
  exact Tensor.writeAll_fills FloatChecks.binary NumberCasts.binary (show line.WellSized from rfl) rfl ordered

end Tensors
end TransactionalCollection
