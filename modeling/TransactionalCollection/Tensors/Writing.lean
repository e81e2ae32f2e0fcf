import TransactionalCollection.Tensors.Broadcasting
import TransactionalCollection.Tensors.Floats
import TransactionalCollection.Tensors.Indices

namespace TransactionalCollection
namespace Tensors

open Execution Native Numeric

/-!
# Writing one element

A number is written at a coordinate if the type of the tensor admits it.  Distinct
coordinates have distinct offsets, so that no other element changes; and the tensor is
replaced at last, so that an error leaves it as it was.
-/

variable {E A : Type} {elements : Elements}

/-- A number, of the largest width of each kind. -/
inductive Number (elements : Elements) where
  | bool (value : Bool)
  | uint (value : UInt64)
  | int (value : Int64)
  | f32 (value : elements.F32)
  | f64 (value : elements.F64)
  | complex (re im : elements.F64)

/-- `value.cast_into()`, by the type which it is cast to. -/
structure NumberCasts (elements : Elements) where
  toF32 : Number elements -> elements.F32
  toF64 : Number elements -> elements.F64
  toU64 : Number elements -> UInt64

def ensureNonComplex : Number elements -> Except String Unit
  | .complex _ _ => .error "complex numbers are not supported in tensors"
  | .bool _ | .uint _ | .int _ | .f32 _ | .f64 _ => .ok ()

/-- The case of a float, as `f64`. -/
def ensureWholeFloat (checks : FloatChecks elements) (value : elements.F64) : Except String Unit :=
  if ¬ checks.isFinite value then .error "tensor value must be finite"
  else if checks.isNegative value ∨ checks.hasFraction value then
    .error s!"expected a non-negative whole number but found {checks.display value}"
  else .ok ()

def ensureTensorU64Component (checks : FloatChecks elements) : Number elements -> Except String Unit
  | .bool _ | .uint _ => .ok ()
  | .int value => if value < 0 then .error "tensor values must be non-negative" else .ok ()
  | .f32 value => ensureWholeFloat checks (elements.widen value)
  | .f64 value => ensureWholeFloat checks value
  | .complex _ _ => .error "complex numbers are not supported in tensors"

namespace Tensor

variable (checks : FloatChecks elements) (casts : NumberCasts elements)

/-- One branch of the match on the type: the value is admitted, and replaces one of the buffer. -/
def replaceValue (admission : Except String Unit)
    (dense : List Nat -> List A -> Except String (Tensor elements)) (array : ArrayBuf elements A) (offset : Nat)
    (value : A) : Except (Failure String) (Tensor elements) := do
  admission.mapError Failure.error
  let values <- replaced array.values offset value
  (dense array.shape values).mapError Failure.error

/-- The tensor in place of `self`. -/
def nextValue (tensor : Tensor elements) (coord : List Nat) (value : Number elements) :
    Except (Failure String) (Tensor elements) := do
  let offset <- coordOffset tensor.shape coord
  match tensor with
  | .f32 array => replaceValue (ensureNonComplex value) denseF32 array offset (casts.toF32 value)
  | .f64 array => replaceValue (ensureNonComplex value) denseF64 array offset (casts.toF64 value)
  | .u64 array => replaceValue (ensureTensorU64Component checks value) denseU64 array offset (casts.toU64 value)

def writeValue (coord : List Nat) (value : Number elements) :
    EStateM (Failure String) (Tensor elements) Unit := do
  let tensor <- get
  let next <- fromExcept (nextValue checks casts tensor coord value)
  set next

end Tensor

/-! ## Admission -/

namespace Number

def IsReal : Number elements -> Prop
  | .complex _ _ => False
  | .bool _ | .uint _ | .int _ | .f32 _ | .f64 _ => True

/-- A whole number which is not negative. -/
def IsWhole (checks : FloatChecks elements) : Number elements -> Prop
  | .bool _ | .uint _ => True
  | .int value => 0 ≤ value
  | .f32 value => checks.Passes (elements.widen value)
  | .f64 value => checks.Passes value
  | .complex _ _ => False

end Number

/-- Exactly what holds is let through. -/
def Decides (holds : Prop) (result : Except E Unit) : Prop :=
  (holds ∧ result = .ok ()) ∨ (¬ holds ∧ exists error, result = .error error)

namespace Decides

variable {holds : Prop} {result : Except E Unit}

theorem ok (decides : Decides holds result) (here : holds) : result = .ok () := by
  rcases decides with passed | refused
  · exact passed.2
  · exact absurd here refused.1

theorem error (decides : Decides holds result) (missing : ¬ holds) : exists error, result = .error error := by
  rcases decides with passed | refused
  · exact absurd passed.1 missing
  · exact refused.2

end Decides

theorem ensureNonComplex_decides (value : Number elements) : Decides value.IsReal (ensureNonComplex value) := by
  cases value with
  | complex re im => exact Or.inr ⟨id, _, rfl⟩
  | bool value => exact Or.inl ⟨trivial, rfl⟩
  | uint value => exact Or.inl ⟨trivial, rfl⟩
  | int value => exact Or.inl ⟨trivial, rfl⟩
  | f32 value => exact Or.inl ⟨trivial, rfl⟩
  | f64 value => exact Or.inl ⟨trivial, rfl⟩

section Checks

variable {checks : FloatChecks elements}

theorem ensureWholeFloat_decides (value : elements.F64) :
    Decides (checks.Passes value) (ensureWholeFloat checks value) := by
  unfold Decides FloatChecks.Passes ensureWholeFloat
  cases checks.isFinite value <;> cases checks.isNegative value <;> cases checks.hasFraction value <;> simp

theorem ensureTensorU64Component_decides (value : Number elements) :
    Decides (value.IsWhole checks) (ensureTensorU64Component checks value) := by
  cases value with
  | bool value => exact Or.inl ⟨trivial, rfl⟩
  | uint value => exact Or.inl ⟨trivial, rfl⟩
  | int value =>
      by_cases negative : value < 0
      · right
        refine ⟨?_, _, if_pos negative⟩
        intro whole
        exact Int64.not_lt.mpr whole negative
      · left
        exact ⟨Int64.not_lt.mp negative, if_neg negative⟩
  | f32 value => exact ensureWholeFloat_decides (elements.widen value)
  | f64 value => exact ensureWholeFloat_decides value
  | complex re im => exact Or.inr ⟨id, _, rfl⟩

end Checks

namespace Tensor

variable {checks : FloatChecks elements} {casts : NumberCasts elements}

/-- Floats take any number which is not complex, and `u64` those which are whole and
not negative. -/
def Admits (checks : FloatChecks elements) : Tensor elements -> Number elements -> Prop
  | .f32 _, value | .f64 _, value => value.IsReal
  | .u64 _, value => value.IsWhole checks

/-- A number, cast to the type of the tensor. -/
def castTo (casts : NumberCasts elements) (tensor : Tensor elements) (value : Number elements) :
    Component elements :=
  match tensor with
  | .f32 _ => .f32 (casts.toF32 value)
  | .f64 _ => .f64 (casts.toF64 value)
  | .u64 _ => .u64 (casts.toU64 value)

/-! ## Writes -/

/-- One component differs, at a coordinate. -/
structure Writes (tensor next : Tensor elements) (coord : List Nat) (component : Component elements) : Prop where
  shape : next.shape = tensor.shape
  dtype : next.dtypeTag = tensor.dtypeTag
  here : next.readValue coord = .ok component
  elsewhere : forall other, Within tensor.shape other -> other ≠ coord ->
    next.readValue other = tensor.readValue other

section Arrays

variable {array : ArrayBuf elements A} {coord : List Nat} {item : A}

/-- What a buffer holds after one of its values is replaced. -/
theorem indexed_replaced (sized : array.shape.prod = array.values.length) (within : Within array.shape coord)
    {next : ArrayBuf elements A} (same : next.values = array.values.set (value (places array.shape coord)) item) :
    (indexed next.values (value (places array.shape coord)) : Except (Failure String) A) = .ok item ∧
      forall other, Within array.shape other -> other ≠ coord ->
        (indexed next.values (value (places array.shape other)) : Except (Failure String) A) =
          indexed array.values (value (places array.shape other)) := by
  have inBounds := within.value_lt
  rw [sized] at inBounds
  rw [same]
  constructor
  · apply indexed_eq_ok.mpr
    exact List.getElem?_set_self inBounds
  · intro other otherWithin different
    have apart : value (places array.shape coord) ≠ value (places array.shape other) := by
      intro offsets
      exact different (within.offset_injective otherWithin offsets).symm
    unfold indexed
    rw [List.getElem?_set_ne apart, List.length_set]

/-- A tensor of which one value is replaced. -/
theorem writes_replaced {wrap : ArrayBuf elements A -> Tensor elements} {component : A -> Component elements}
    (shapes : forall array, (wrap array).shape = array.shape)
    (tags : forall array other, (wrap array).dtypeTag = (wrap other).dtypeTag)
    (reads : forall array coord, (wrap array).readValue coord = (do
      let offset <- coordOffset array.shape coord
      (indexed array.values offset).map component))
    (sized : array.shape.prod = array.values.length) (small : array.shape.prod < usize)
    (within : Within array.shape coord) {admission : Except String Unit} (admitted : admission = .ok ())
    (item : A) : exists next, replaceValue admission
      (fun shape values => (ArrayBuf.new values shape).map wrap) array
      (value (places array.shape coord)) item = .ok next ∧ Writes (wrap array) next coord (component item) := by
  have inBounds := within.value_lt
  rw [sized] at inBounds
  have fits : exists next : ArrayBuf elements A, ArrayBuf.new
      (array.values.set (value (places array.shape coord)) item) array.shape = .ok next := by
    apply ArrayBuf.new_isOk_iff.mpr
    rw [List.length_set]
    exact array.built
  rcases fits with ⟨next, made⟩
  rcases ArrayBuf.new_eq_ok.mp made with ⟨shaped, values⟩
  rcases indexed_replaced sized within values with ⟨here, elsewhere⟩
  refine ⟨wrap next, ?_, ?_, tags next array, ?_, ?_⟩
  · unfold replaceValue
    rw [admitted]
    apply except_bind_eq_ok.mpr
    refine ⟨(), rfl, except_bind_eq_ok.mpr ⟨_, if_pos inBounds, ?_⟩⟩
    dsimp only
    rw [made]
    rfl
  · rw [shapes, shapes, shaped]
  · rw [reads, shaped]
    apply except_bind_eq_ok.mpr
    refine ⟨_, within.coordOffsetUsize_eq small, ?_⟩
    rw [here]
    rfl
  · intro other otherWithin different
    rw [shapes] at otherWithin
    have offset : coordOffset array.shape other = .ok (value (places array.shape other)) :=
      otherWithin.coordOffsetUsize_eq small
    rw [reads, reads, shaped, offset]
    change Except.map component (indexed next.values _) = Except.map component (indexed array.values _)
    rw [elsewhere other otherWithin different]

end Arrays

section Results

variable {tensor : Tensor elements} {coord : List Nat} {value : Number elements}
  (casts : NumberCasts elements)

/-- A number which is admitted is written within the shape. -/
theorem nextValue_of_admits (wellSized : tensor.WellSized) (within : Within tensor.shape coord)
    (admits : tensor.Admits checks value) : exists next,
      nextValue checks casts tensor coord value = .ok next ∧
        tensor.Writes next coord (tensor.castTo casts value) := by
  have small := wellSized.prod_lt
  have offset : coordOffset tensor.shape coord = .ok _ := within.coordOffsetUsize_eq small
  unfold nextValue
  rw [offset]
  cases tensor with
  | f32 array =>
      have passed := (ensureNonComplex_decides value).ok admits
      exact writes_replaced (fun _ => rfl) (fun _ _ => rfl) (fun _ _ => rfl) wellSized small within passed _
  | f64 array =>
      have passed := (ensureNonComplex_decides value).ok admits
      exact writes_replaced (fun _ => rfl) (fun _ _ => rfl) (fun _ _ => rfl) wellSized small within passed _
  | u64 array =>
      have passed := (ensureTensorU64Component_decides value).ok admits
      exact writes_replaced (fun _ => rfl) (fun _ _ => rfl) (fun _ _ => rfl) wellSized small within passed _

theorem replaceValue_refused {admission : Except String Unit} (refused : exists error, admission = .error error)
    (dense : List Nat -> List A -> Except String (Tensor elements)) (array : ArrayBuf elements A) (offset : Nat)
    (item : A) : exists error, replaceValue admission dense array offset item = .error (.error error) := by
  rcases refused with ⟨error, rfl⟩
  exact ⟨error, rfl⟩

/-- Anything else is an error. -/
theorem nextValue_refused (wellSized : tensor.WellSized)
    (refused : ¬ (Within tensor.shape coord ∧ tensor.Admits checks value)) : exists error,
      nextValue checks casts tensor coord value = .error (.error error) := by
  unfold nextValue
  by_cases within : Within tensor.shape coord
  · have offset : coordOffset tensor.shape coord = .ok _ := within.coordOffsetUsize_eq wellSized.prod_lt
    have missing : ¬ tensor.Admits checks value := fun admits => refused ⟨within, admits⟩
    rw [offset]
    cases tensor with
    | f32 array => exact replaceValue_refused ((ensureNonComplex_decides value).error missing) _ _ _ _
    | f64 array => exact replaceValue_refused ((ensureNonComplex_decides value).error missing) _ _ _ _
    | u64 array => exact replaceValue_refused ((ensureTensorU64Component_decides value).error missing) _ _ _ _
  · rcases coordOffsetUsize_outside within with ⟨message, failed⟩
    have outside : coordOffset tensor.shape coord = .error (.error message) := failed
    rw [outside]
    exact ⟨message, rfl⟩

/-- A number is written if and only if its coordinate lies within the shape and the
type of the tensor admits it; then no other element changes, and otherwise none. -/
theorem writeValue_frame (checks : FloatChecks elements) (wellSized : tensor.WellSized) (coord : List Nat)
    (value : Number elements) :
    (succeeded (writeValue checks casts coord value tensor) = true <->
      Within tensor.shape coord ∧ tensor.Admits checks value) ∧
    (forall next, writeValue checks casts coord value tensor = .ok () next ->
      tensor.Writes next coord (tensor.castTo casts value)) ∧
    (forall failure after, writeValue checks casts coord value tensor = .error failure after ->
      after = tensor ∧ exists message, failure = .error message) := by
  by_cases allowed : Within tensor.shape coord ∧ tensor.Admits checks value
  · rcases nextValue_of_admits casts wellSized allowed.1 allowed.2 with ⟨next, done, writes⟩
    have written : writeValue checks casts coord value tensor = .ok () next := by
      apply bind_eq_ok.mpr
      refine ⟨tensor, tensor, rfl, bind_eq_ok.mpr ⟨next, tensor, ?_, rfl⟩⟩
      unfold fromExcept
      rw [done]
    rw [written]
    refine ⟨iff_of_true rfl allowed, ?_, ?_⟩
    · intro other same
      cases same
      exact writes
    · intro failure after impossible
      cases impossible
  · rcases nextValue_refused casts wellSized allowed with ⟨message, failed⟩
    have stopped : writeValue checks casts coord value tensor = .error (.error message) tensor := by
      change (fromExcept (nextValue checks casts tensor coord value) >>= _) tensor = _
      apply bind_of_error
      unfold fromExcept
      rw [failed]
    rw [stopped]
    refine ⟨iff_of_false Bool.false_ne_true allowed, ?_, ?_⟩
    · intro next impossible
      cases impossible
    · intro failure after same
      cases same
      exact ⟨rfl, message, rfl⟩

end Results

end Tensor

/-- What a number of each kind reads. -/
def Number.reading : Number Elements.binary -> Reading
  | .bool value => .finite (if value then 1 else 0)
  | .uint value => .finite value.toNat
  | .int value => .finite value.toInt
  | .f32 value => value.reading
  | .f64 value => value.reading
  | .complex re _ => re.reading

def NumberCasts.binary : NumberCasts Elements.binary where
  toF32 number := Kept.single number.reading
  toF64 number := Kept.double number.reading
  toU64 number := number.reading.toU64

theorem line_built : Elements.binary.arrayError [3] 3 = none := by decide +kernel

/-- Three elements in a line. -/
def line : Tensor Elements.binary := .u64 ⟨[3], [UInt64.ofNat 5, UInt64.ofNat 6, UInt64.ofNat 7], line_built⟩

theorem writeValue_frame_line :
    succeeded (Tensor.writeValue FloatChecks.binary NumberCasts.binary [1] (.uint 9) line) = true ∧
    exists next, Tensor.writeValue FloatChecks.binary NumberCasts.binary [1] (.uint 9) line = .ok () next ∧
      next.readValue [1] = .ok (.u64 9) ∧ next.readValue [2] = line.readValue [2] := by
  have within : Within [3] [1] := .cons (by decide) .nil
  have otherWithin : Within [3] [2] := .cons (by decide) .nil
  have framed := Tensor.writeValue_frame NumberCasts.binary FloatChecks.binary
    (show line.WellSized from rfl) [1] (.uint 9)
  have done : succeeded (Tensor.writeValue FloatChecks.binary NumberCasts.binary [1] (.uint 9) line) = true :=
    framed.1.mpr ⟨within, trivial⟩
  have written := eq_ok_of_succeeded done
  have writes := framed.2.1 _ written
  exact ⟨done, _, written, writes.here, writes.elsewhere [2] otherWithin (by decide)⟩

end Tensors
end TransactionalCollection
