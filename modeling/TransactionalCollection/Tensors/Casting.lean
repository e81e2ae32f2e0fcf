import TransactionalCollection.Tensors.Floats
import TransactionalCollection.Tensors.Broadcasting

namespace TransactionalCollection
namespace Tensors

open Execution Native Numeric

/-!
# Casting tensors

A tensor of floats is cast to `u64` if each of its elements is finite, not negative and
without a fraction.  Nothing is asked of their size, and the conversion saturates: the
cast is exact if and only if no element which gets that far is too large.
-/

variable {elements : Elements}

/-- `tc_value::NumberType`, of which tensors have three. -/
inductive NumberType where
  | float32
  | float64
  | uint64
  | other (name : String)

namespace Tensor

variable (checks : FloatChecks elements)

/-- One round of the loop over the values. -/
def castU64 (value : elements.F64) : Except String UInt64 :=
  if ¬ checks.isFinite value then .error "tensor cast to u64 requires finite values"
  else if checks.isNegative value ∨ checks.hasFraction value then
    .error s!"tensor cast to u64 requires non-negative whole numbers, found {checks.display value}"
  else .ok (elements.toU64 value)

def castTag : NumberType -> Except String String
  | .float32 => .ok "f32"
  | .float64 => .ok "f64"
  | .uint64 => .ok "u64"
  | .other name => .error s!"unsupported tensor dtype {name}"

def cast (tensor : Tensor elements) (dtype : NumberType) : Except String (Tensor elements) := do
  let dtype <- castTag dtype
  if tensor.dtypeTag = dtype then return tensor
  else
    let values <- tensor.valuesF64
    match dtype with
    | "f32" => denseF32 tensor.shape (values.map elements.narrow)
    | "f64" => denseF64 tensor.shape values
    | "u64" => do
        let out <- values.mapM (castU64 checks)
        denseU64 tensor.shape out
    | other => .error s!"unsupported tensor dtype {other}"

/-! ## What the elements read -/

variable {checks} (reads : ReadsFloats elements checks)

def readings : Tensor elements -> List Reading
  | .f32 array => array.values.map reads.readF32
  | .f64 array => array.values.map reads.read
  | .u64 array => array.values.map (fun value => .finite value.toNat)

/-- A whole number below the number of values of a `u64`. -/
def InU64 (reading : Reading) : Prop := exists value : Nat, value < 2 ^ 64 ∧ reading = .finite value

/-- A tensor is cast to `u64` if all of its elements are in range, and then each keeps
what it reads, there and back. -/
structure CastsExactly (tensor : Tensor elements) : Prop where
  isOk_iff : (exists result, tensor.cast checks .uint64 = .ok result) <->
    forall reading, reading ∈ tensor.readings reads -> InU64 reading
  exact : forall result, tensor.cast checks .uint64 = .ok result ->
    result.dtypeTag = "u64" ∧ result.shape = tensor.shape ∧ result.readings reads = tensor.readings reads
  back : forall result, tensor.cast checks .uint64 = .ok result ->
    exists back, result.cast checks .float64 = .ok back ∧ back.readings reads = tensor.readings reads

/-- Some element is no natural number, or all of those which are fit. -/
def CastFits (tensor : Tensor elements) : Prop :=
  (exists reading, reading ∈ tensor.readings reads ∧ forall value : Nat, reading ≠ .finite value) ∨
    forall reading, reading ∈ tensor.readings reads -> forall value : Nat, reading = .finite value ->
      value < 2 ^ 64

/-! ## Casts to `u64` -/

variable {reads} {tensor : Tensor elements} {values : List elements.F64}

theorem castU64_eq_ok {value : elements.F64} {element : UInt64} :
    castU64 checks value = .ok element <-> checks.Passes value ∧ elements.toU64 value = element := by
  unfold castU64 FloatChecks.Passes
  cases checks.isFinite value <;> cases checks.isNegative value <;> cases checks.hasFraction value <;> simp

theorem mapM_castU64 {out : List UInt64} : values.mapM (castU64 checks) = .ok out <->
    (forall value, value ∈ values -> checks.Passes value) ∧ values.map elements.toU64 = out := by
  induction values generalizing out with
  | nil => simp [pure, Except.pure]
  | cons value values inductionHypothesis =>
      rw [List.mapM_cons, List.forall_mem_cons, List.map_cons, except_bind_eq_ok]
      constructor
      · intro done
        rcases done with ⟨element, first, rest⟩
        rcases except_bind_eq_ok.mp rest with ⟨others, later, same⟩
        cases same
        rcases castU64_eq_ok.mp first with ⟨passes, rfl⟩
        rcases inductionHypothesis.mp later with ⟨allPass, rfl⟩
        exact ⟨⟨passes, allPass⟩, rfl⟩
      · intro parts
        rcases parts with ⟨⟨passes, allPass⟩, rfl⟩
        refine ⟨_, castU64_eq_ok.mpr ⟨passes, rfl⟩, except_bind_eq_ok.mpr ?_⟩
        exact ⟨_, inductionHypothesis.mpr ⟨allPass, rfl⟩, rfl⟩

/-- A float tensor is cast element by element. -/
theorem cast_uint64_eq_ok (float : tensor.dtypeTag ≠ "u64") (read : tensor.valuesF64 = .ok values)
    {result : Tensor elements} : tensor.cast checks .uint64 = .ok result <->
      (forall value, value ∈ values -> checks.Passes value) ∧ exists array, .u64 array = result ∧
        array.shape = tensor.shape ∧ array.values = values.map elements.toU64 := by
  have unfolded : tensor.cast checks .uint64 = (do
      let out <- values.mapM (castU64 checks)
      denseU64 tensor.shape out) := by
    unfold cast
    change (if tensor.dtypeTag = "u64" then _ else _) = _
    rw [if_neg float, read]
    rfl
  rw [unfolded, except_bind_eq_ok]
  constructor
  · intro done
    rcases done with ⟨out, computed, made⟩
    rcases mapM_castU64.mp computed with ⟨passes, rfl⟩
    exact ⟨passes, map_new_eq_ok.mp made⟩
  · intro parts
    exact ⟨_, mapM_castU64.mpr ⟨parts.1, rfl⟩, map_new_eq_ok.mpr parts.2⟩

theorem readings_eq (float : tensor.dtypeTag ≠ "u64") (read : tensor.valuesF64 = .ok values) :
    tensor.readings reads = values.map reads.read := by
  cases tensor with
  | f32 array =>
      cases read
      unfold readings
      rw [List.map_map]
      apply List.map_congr_left
      intro value _
      exact (reads.read_widen value).symm
  | f64 array =>
      cases read
      rfl
  | u64 array => exact absurd rfl float

/-- Elements are cast back to what they read. -/
theorem cast_float64 (array : ArrayBuf elements UInt64) : exists back : ArrayBuf elements elements.F64,
    (Tensor.u64 array : Tensor elements).cast checks .float64 = .ok (.f64 back) ∧
      back.values = array.values.map elements.ofU64 := by
  have made : exists back : Tensor elements, denseF64 array.shape (array.values.map elements.ofU64) = .ok back := by
    apply map_new_isOk_iff.mpr
    rw [List.length_map]
    exact array.built
  rcases made with ⟨back, made⟩
  rcases map_new_eq_ok.mp made with ⟨other, rfl, _, values⟩
  exact ⟨other, made, values⟩

/-- A natural number which is below the limit is cast exactly. -/
theorem toU64_of_fits {value : elements.F64} {natural : Nat} (read : reads.read value = .finite natural)
    (fits : natural < 2 ^ 64) : (elements.toU64 value).toNat = natural := by
  rw [reads.toU64_eq, read, Reading.toU64_natCast, toNat_saturate]
  omega

/-- A float tensor is cast if its elements are natural numbers. -/
theorem isOk_iff_natural (reads : ReadsFloats elements checks) (float : tensor.dtypeTag ≠ "u64") :
    (exists result, tensor.cast checks .uint64 = .ok result) <->
      forall reading, reading ∈ tensor.readings reads -> exists natural : Nat, reading = .finite natural := by
  rcases tensor.valuesF64_eq_ok with ⟨values, read, length⟩
  have sized : (values.map elements.toU64).length = product tensor.shape := by
    rw [List.length_map, length, tensor.cells_eq_size]
    rfl
  rw [readings_eq float read, List.forall_mem_map]
  constructor
  · intro done value member
    rcases done with ⟨result, done⟩
    exact (reads.passes_iff value).mp (((cast_uint64_eq_ok float read).mp done).1 value member)
  · intro natural
    refine ⟨_, (cast_uint64_eq_ok float read).mpr ⟨?_, ⟨_, _, tensor.accepts id sized⟩, rfl, rfl, rfl⟩⟩
    intro value member
    exact (reads.passes_iff value).mpr (natural value member)

/-- Elements in range are kept there and back. -/
theorem exact_of_inU64 (float : tensor.dtypeTag ≠ "u64")
    (inRange : forall reading, reading ∈ tensor.readings reads -> InU64 reading) {result : Tensor elements}
    (done : tensor.cast checks .uint64 = .ok result) :
    (result.dtypeTag = "u64" ∧ result.shape = tensor.shape ∧ result.readings reads = tensor.readings reads) ∧
      exists back, result.cast checks .float64 = .ok back ∧ back.readings reads = tensor.readings reads := by
  rcases tensor.valuesF64_eq_ok with ⟨values, read, _⟩
  rw [readings_eq float read] at inRange ⊢
  rcases ((cast_uint64_eq_ok float read).mp done).2 with ⟨array, rfl, shaped, elementsSame⟩
  have kept : (array.values.map (fun element => Reading.finite element.toNat)) = values.map reads.read := by
    rw [elementsSame, List.map_map]
    apply List.map_congr_left
    intro value member
    rcases inRange _ (List.mem_map_of_mem member) with ⟨natural, fits, reading⟩
    rw [Function.comp_apply, toU64_of_fits reading fits, reading]
  refine ⟨⟨rfl, shaped, kept⟩, ?_⟩
  · rcases cast_float64 array with ⟨back, backDone, backValues⟩
    refine ⟨_, backDone, ?_⟩
    rw [← kept]
    change back.values.map reads.read = _
    rw [backValues, elementsSame, List.map_map, List.map_map, List.map_map]
    apply List.map_congr_left
    intro value member
    rcases inRange _ (List.mem_map_of_mem member) with ⟨natural, fits, reading⟩
    simp only [Function.comp_apply]
    rw [reads.read_ofU64, toU64_of_fits reading fits,
      (roundNearest_eq_self_iff (by decide)).mpr (reads.representable value natural reading)]

/-- A float tensor is cast to `u64` exactly if and only if some element is no natural
number, or all those which are fit in a `u64`. -/
theorem castsExactly_iff (reads : ReadsFloats elements checks) (float : tensor.dtypeTag ≠ "u64") :
    tensor.CastsExactly reads <-> tensor.CastFits reads := by
  constructor
  · intro castsExactly
    by_cases natural : forall reading, reading ∈ tensor.readings reads ->
        exists natural : Nat, reading = .finite natural
    · right
      intro reading member value same
      have inRange := castsExactly.isOk_iff.mp ((isOk_iff_natural reads float).mpr natural)
      rcases inRange reading member with ⟨other, fits, read⟩
      have equal : value = other := Nat.cast_injective (Reading.finite.inj (same.symm.trans read))
      omega
    · left
      push Not at natural
      exact natural
  · intro fits
    have inU64 : (exists result, tensor.cast checks .uint64 = .ok result) ->
        forall reading, reading ∈ tensor.readings reads -> InU64 reading := by
      intro done reading member
      have natural := (isOk_iff_natural reads float).mp done
      rcases natural reading member with ⟨value, same⟩
      rcases fits with refused | below
      · rcases refused with ⟨other, otherMember, notNatural⟩
        rcases natural other otherMember with ⟨number, equal⟩
        exact absurd equal (notNatural number)
      · exact ⟨value, below reading member value same, same⟩
    constructor
    · constructor
      · exact inU64
      · intro inRange
        apply (isOk_iff_natural reads float).mpr
        intro reading member
        rcases inRange reading member with ⟨value, _, same⟩
        exact ⟨value, same⟩
    · intro result done
      exact (exact_of_inU64 float (inU64 ⟨result, done⟩) done).1
    · intro result done
      exact (exact_of_inU64 float (inU64 ⟨result, done⟩) done).2

end Tensor

theorem pair_built : Elements.binary.arrayError [2] 2 = none := by decide +kernel

/-- Two floats, of which one is not a number. -/
def pair : Tensor Elements.binary := .f64 ⟨[2], [Kept.double (.finite 3), Kept.double .nan], pair_built⟩

theorem castsExactly_pair : pair.CastsExactly ReadsFloats.binary := by
  apply (Tensor.castsExactly_iff ReadsFloats.binary (show pair.dtypeTag ≠ "u64" by decide)).mpr
  left
  refine ⟨.nan, List.mem_cons_of_mem _ List.mem_cons_self, ?_⟩
  intro value impossible
  cases impossible

theorem large_built : Elements.binary.arrayError [1] 1 = none := by decide +kernel

/-- A float of one more than the greatest `u64`. -/
def large : Tensor Elements.binary := .f64 ⟨[1], [Kept.double (.finite (18446744073709551616 : Nat))], large_built⟩

/-- The cast of a float beyond the range succeeds, with another number. -/
theorem not_castsExactly_large : ¬ large.CastsExactly ReadsFloats.binary ∧
    large.cast FloatChecks.binary .uint64 =
      .ok (.u64 ⟨[1], [UInt64.ofNat 18446744073709551615], large_built⟩) := by
  have float : large.dtypeTag ≠ "u64" := by decide
  have rounded : roundNearest 53 18446744073709551616 = 18446744073709551616 := by decide +kernel
  have reading : ReadsFloats.binary.read (Kept.double (.finite (18446744073709551616 : Nat))) =
      .finite (18446744073709551616 : Nat) := by
    change Kept.rounded 53 (.finite (18446744073709551616 : Nat)) = _
    rw [Kept.rounded_natCast, rounded]
  have saturated : Elements.binary.toU64 (Kept.double (.finite (18446744073709551616 : Nat))) =
      UInt64.ofNat 18446744073709551615 := by
    calc Elements.binary.toU64 (Kept.double (.finite (18446744073709551616 : Nat)))
      _ = (ReadsFloats.binary.read (Kept.double (.finite (18446744073709551616 : Nat)))).toU64 :=
          ReadsFloats.binary.toU64_eq _
      _ = (Reading.finite (18446744073709551616 : Nat)).toU64 := congrArg Reading.toU64 reading
      _ = saturate 18446744073709551616 := Reading.toU64_natCast _
      _ = UInt64.ofNat 18446744073709551615 := rfl
  have done : large.cast FloatChecks.binary .uint64 =
      .ok (.u64 ⟨[1], [UInt64.ofNat 18446744073709551615], large_built⟩) := by
    apply (Tensor.cast_uint64_eq_ok float rfl).mpr
    refine ⟨?_, _, rfl, rfl, ?_⟩
    · intro value member
      rw [List.mem_singleton.mp member]
      exact (ReadsFloats.binary.passes_iff _).mpr ⟨_, reading⟩
    · exact congrArg (fun element => [element]) saturated.symm
  refine ⟨?_, done⟩
  intro castsExactly
  rcases castsExactly.isOk_iff.mp ⟨_, done⟩ _ List.mem_cons_self with ⟨value, fits, same⟩
  have equal : 18446744073709551616 = value :=
    Nat.cast_injective (Reading.finite.inj (reading.symm.trans same))
  omega

end Tensors
end TransactionalCollection
