import TransactionalCollection.Tensors.States
import TransactionalCollection.Tensors.Views

namespace TransactionalCollection
namespace Tensors

open Execution Native Numeric

/-!
# Tensors on the wire

A tensor is encoded as its schema and its values.  The schema is the path of its type
with its dimensions, and the values are decoded as numbers of any kind, which are
admitted and cast as those which are written one by one.  A literal is made of the same
parts, but admits any number.
-/

variable {elements : Elements}

/-- Encoders and decoders of what a payload is made of. -/
structure TensorCodec (elements : Elements) where
  Document : Type
  encodeSeq : List Document -> Document
  encodeSchema : String × List UInt64 -> Document
  encodeF32s : List elements.F32 -> Document
  encodeF64s : List elements.F64 -> Document
  encodeU64s : List UInt64 -> Document
  decodeSeq : String -> Document -> Except String (List Document)
  decodeSchema : Document -> Except String (String × List UInt64)
  decodeNumbers : Document -> Except String (List (Number elements))
  /-- `de::Error::invalid_value`. -/
  invalidValue : String -> String -> String

/-! ## Parts -/

section Parts

variable (checks : FloatChecks elements) (casts : NumberCasts elements)

/-- One of the loops over the numbers. -/
def numbersTo {A : Type} (admission : Number elements -> Except String Unit) (cast : Number elements -> A)
    (values : List (Number elements)) : Except String (List A) :=
  values.mapM (fun number => do
    admission number
    return cast number)

def numbersToF32 : List (Number elements) -> Except String (List elements.F32) :=
  numbersTo ensureNonComplex casts.toF32

def numbersToF64 : List (Number elements) -> Except String (List elements.F64) :=
  numbersTo ensureNonComplex casts.toF64

def numbersToU64 : List (Number elements) -> Except String (List UInt64) :=
  numbersTo (ensureTensorU64Component checks) casts.toU64

def tensorFromParts (dtype : NumberType) (shape : List Nat) (values : List (Number elements)) :
    Except String (Tensor elements) :=
  match dtype with
  | .float32 => do
      let values <- numbersToF32 casts values
      Tensor.denseF32 shape values
  | .float64 => do
      let values <- numbersToF64 casts values
      Tensor.denseF64 shape values
  | .uint64 => do
      let values <- numbersToU64 checks casts values
      Tensor.denseU64 shape values
  | .other name => .error s!"unsupported tensor dtype {name}"

def coerceDim (dim : UInt64) : Except String Nat :=
  if dim.toNat < usize then .ok dim.toNat else .error s!"invalid dimension {dim}"

def coerceShape (dims : List UInt64) : Except String (List Nat) := dims.mapM coerceDim

/-- `tensor_literal`, of what its key and its value hold. -/
def literalFromParts (dtype : NumberType) (shape : List Nat) (values : List (Number elements)) :
    Except String (Tensor elements) :=
  match dtype with
  | .float32 => Tensor.denseF32 shape (values.map casts.toF32)
  | .float64 => Tensor.denseF64 shape (values.map casts.toF64)
  | .uint64 => Tensor.denseU64 shape (values.map casts.toU64)
  | .other name => .error s!"unsupported tensor literal dtype {name}"

def tensorLiteral (states : CollectionState elements) (key value : states.State) :
    Except TCError (Tensor elements) := do
  match <- states.intoTuple key with
  | [dtype, shape] => do
      let dtype <- states.tensorDtypeFromState dtype
      let shape <- states.shapeFromState shape
      let values <- states.numbersFromState "tensor literal values" value
      (literalFromParts casts dtype shape values).mapError TCError.badRequest
  | _ => .error (.badRequest "tensor literal key must be [dtype, shape]")

end Parts

/-! ## Payloads -/

section Payloads

variable (codec : TensorCodec elements) (paths : NumberPaths)

namespace Tensor

def numberType : Tensor elements -> NumberType
  | .f32 _ => .float32
  | .f64 _ => .float64
  | .u64 _ => .uint64

def intoStream (tensor : Tensor elements) : codec.Document :=
  let schema := (paths.path tensor.numberType, tensor.shape.map UInt64.ofNat)
  codec.encodeSeq [codec.encodeSchema schema, match tensor with
    | .f32 array => codec.encodeF32s array.values
    | .f64 array => codec.encodeF64s array.values
    | .u64 array => codec.encodeU64s array.values]

def fromStream (checks : FloatChecks elements) (casts : NumberCasts elements) (document : codec.Document) :
    Except String (Tensor elements) := do
  match <- codec.decodeSeq "a TinyChain tensor payload" document with
  | [] => .error "missing tensor schema"
  | schema :: items => do
      let (dtypePath, shape) <- codec.decodeSchema schema
      match paths.fromPath dtypePath with
      | none => .error (codec.invalidValue dtypePath "a TinyChain numeric type path for tensor dtype")
      | some dtype => do
          let shape <- coerceShape shape
          match items with
          | [] => .error "missing tensor values"
          | values :: _ => do
              let values <- codec.decodeNumbers values
              tensorFromParts checks casts dtype shape values

end Tensor

end Payloads

/-! ## What is made of parts -/

section Made

variable {checks : FloatChecks elements} {casts : NumberCasts elements} {dtype : NumberType} {shape : List Nat}
  {values : List (Number elements)} {tensor : Tensor elements}

/-- The numbers, cast to the elements of a tensor. -/
def Made (casts : NumberCasts elements) (dtype : NumberType) (shape : List Nat) (values : List (Number elements))
    (tensor : Tensor elements) : Prop :=
  match dtype with
  | .float32 => exists array, .f32 array = tensor ∧ array.shape = shape ∧ array.values = values.map casts.toF32
  | .float64 => exists array, .f64 array = tensor ∧ array.shape = shape ∧ array.values = values.map casts.toF64
  | .uint64 => exists array, .u64 array = tensor ∧ array.shape = shape ∧ array.values = values.map casts.toU64
  | .other _ => False

theorem literalFromParts_iff : literalFromParts casts dtype shape values = .ok tensor <->
    Made casts dtype shape values tensor := by
  cases dtype with
  | float32 => exact Tensor.map_new_eq_ok
  | float64 => exact Tensor.map_new_eq_ok
  | uint64 => exact Tensor.map_new_eq_ok
  | other name => exact iff_of_false (fun impossible => by cases impossible) id

theorem numbersTo_eq_ok {A : Type} {admission : Number elements -> Except String Unit} {cast : Number elements -> A}
    {admits : Number elements -> Prop} (decides : forall number, Decides (admits number) (admission number))
    {results : List A} : numbersTo admission cast values = .ok results <->
      (forall number, number ∈ values -> admits number) ∧ values.map cast = results := by
  unfold numbersTo
  induction values generalizing results with
  | nil => simp [pure, Except.pure]
  | cons number values inductionHypothesis =>
      rw [List.mapM_cons, List.forall_mem_cons, List.map_cons, except_bind_eq_ok]
      constructor
      · intro done
        rcases done with ⟨first, head, rest⟩
        rcases except_bind_eq_ok.mp head with ⟨_, admitted, same⟩
        cases same
        rcases except_bind_eq_ok.mp rest with ⟨others, tail, same⟩
        cases same
        rcases inductionHypothesis.mp tail with ⟨later, rfl⟩
        have here : admits number := by
          by_contra missing
          rcases (decides number).error missing with ⟨error, refused⟩
          rw [refused] at admitted
          cases admitted
        exact ⟨⟨here, later⟩, rfl⟩
      · intro parts
        rcases parts with ⟨⟨here, later⟩, rfl⟩
        refine ⟨cast number, ?_, except_bind_eq_ok.mpr ⟨_, inductionHypothesis.mpr ⟨later, rfl⟩, rfl⟩⟩
        rw [(decides number).ok here]
        rfl

/-- The decoder makes what the literal makes, of numbers which the tensor admits. -/
theorem tensorFromParts_iff : tensorFromParts checks casts dtype shape values = .ok tensor <->
    Made casts dtype shape values tensor ∧ forall number, number ∈ values -> tensor.Admits checks number := by
  have branch : forall {A : Type} {wrap : ArrayBuf elements A -> Tensor elements} {cast : Number elements -> A}
      {admission : Number elements -> Except String Unit} {admits : Number elements -> Prop},
      (forall number, Decides (admits number) (admission number)) ->
      (forall array number, (wrap array).Admits checks number <-> admits number) ->
      ((do
        let values <- numbersTo admission cast values
        (ArrayBuf.new values shape).map wrap) = .ok tensor <->
        (exists array, wrap array = tensor ∧ array.shape = shape ∧ array.values = values.map cast) ∧
          forall number, number ∈ values -> tensor.Admits checks number) := by
    intro A wrap cast admission admits decides admission_iff
    rw [except_bind_eq_ok]
    constructor
    · intro done
      rcases done with ⟨results, read, made⟩
      rcases (numbersTo_eq_ok decides).mp read with ⟨admitted, rfl⟩
      rcases Tensor.map_new_eq_ok.mp made with ⟨array, rfl, parts⟩
      exact ⟨⟨array, rfl, parts⟩, fun number member => (admission_iff array number).mpr (admitted number member)⟩
    · intro parts
      rcases parts with ⟨⟨array, rfl, parts⟩, admitted⟩
      refine ⟨_, (numbersTo_eq_ok decides).mpr ⟨?_, rfl⟩, Tensor.map_new_eq_ok.mpr ⟨array, rfl, parts⟩⟩
      exact fun number member => (admission_iff array number).mp (admitted number member)
  cases dtype with
  | float32 => exact branch ensureNonComplex_decides (fun _ _ => Iff.rfl)
  | float64 => exact branch ensureNonComplex_decides (fun _ _ => Iff.rfl)
  | uint64 => exact branch ensureTensorU64Component_decides (fun _ _ => Iff.rfl)
  | other name => exact iff_of_false (fun impossible => by cases impossible) And.left

end Made

/-! ## There and back -/

/-- The path of each type of tensors is that of the type. -/
structure NumberPaths.Lawful (paths : NumberPaths) : Prop where
  float32 : paths.fromPath (paths.path .float32) = some .float32
  float64 : paths.fromPath (paths.path .float64) = some .float64
  uint64 : paths.fromPath (paths.path .uint64) = some .uint64

/-- Sequences and schemas are decoded as they were encoded. -/
structure TensorCodec.Lawful (codec : TensorCodec elements) : Prop where
  seq : forall expecting items, codec.decodeSeq expecting (codec.encodeSeq items) = .ok items
  schema : forall schema, codec.decodeSchema (codec.encodeSchema schema) = .ok schema

section RoundTrip

variable {codec : TensorCodec elements} {paths : NumberPaths} {checks : FloatChecks elements}
  {casts : NumberCasts elements} {tensor : Tensor elements}

/-- Numbers which are admitted, and cast to the values which were encoded. -/
def TensorCodec.Carries {A : Type} (codec : TensorCodec elements) (encoded : codec.Document)
    (admits : Number elements -> Prop) (cast : Number elements -> A) (values : List A) : Prop :=
  exists numbers, codec.decodeNumbers encoded = .ok numbers ∧ (forall number, number ∈ numbers -> admits number) ∧
    numbers.map cast = values

namespace Tensor

/-- The values of the tensor are decoded as numbers which stand for them. -/
def Carried (codec : TensorCodec elements) (checks : FloatChecks elements) (casts : NumberCasts elements) :
    Tensor elements -> Prop
  | .f32 array => codec.Carries (codec.encodeF32s array.values) Number.IsReal casts.toF32 array.values
  | .f64 array => codec.Carries (codec.encodeF64s array.values) Number.IsReal casts.toF64 array.values
  | .u64 array => codec.Carries (codec.encodeU64s array.values) (Number.IsWhole checks) casts.toU64 array.values

/-- Each dimension is a `usize`. -/
def DimsFit (tensor : Tensor elements) : Prop := forall dim, dim ∈ tensor.shape -> dim < usize

theorem fromPath_numberType (lawful : paths.Lawful) (tensor : Tensor elements) :
    paths.fromPath (paths.path tensor.numberType) = some tensor.numberType := by
  cases tensor with
  | f32 array => exact lawful.float32
  | f64 array => exact lawful.float64
  | u64 array => exact lawful.uint64

end Tensor

theorem coerceShape_eq_ok {dims : List UInt64} : coerceShape dims = .ok (dims.map UInt64.toNat) := by
  apply mapM_eq_ok_map
  intro dim _
  exact if_pos dim.toNat_lt

theorem coerceShape_ofNat {shape : List Nat} (fits : forall dim, dim ∈ shape -> dim < usize) :
    coerceShape (shape.map UInt64.ofNat) = .ok shape := by
  rw [coerceShape_eq_ok, List.map_map]
  congr 1
  rw [List.map_congr_left, List.map_id]
  intro dim member
  exact UInt64.toNat_ofNat_of_lt' (fits dim member)

/-- The payload of a tensor is decoded to the tensor. -/
theorem Tensor.fromStream_intoStream (codecLawful : codec.Lawful) (pathsLawful : paths.Lawful) (fits : tensor.DimsFit)
    (carried : tensor.Carried codec checks casts) :
    fromStream codec paths checks casts (tensor.intoStream codec paths) = .ok tensor := by
  unfold fromStream intoStream
  rw [codecLawful.seq, except_ok_bind]
  dsimp only
  rw [codecLawful.schema, except_ok_bind]
  dsimp only
  rw [fromPath_numberType pathsLawful]
  dsimp only
  rw [coerceShape_ofNat fits, except_ok_bind]
  apply except_bind_eq_ok.mpr
  cases tensor with
  | f32 array =>
      rcases carried with ⟨numbers, decoded, admitted, same⟩
      exact ⟨numbers, decoded, tensorFromParts_iff.mpr ⟨⟨array, rfl, rfl, same.symm⟩, admitted⟩⟩
  | f64 array =>
      rcases carried with ⟨numbers, decoded, admitted, same⟩
      exact ⟨numbers, decoded, tensorFromParts_iff.mpr ⟨⟨array, rfl, rfl, same.symm⟩, admitted⟩⟩
  | u64 array =>
      rcases carried with ⟨numbers, decoded, admitted, same⟩
      exact ⟨numbers, decoded, tensorFromParts_iff.mpr ⟨⟨array, rfl, rfl, same.symm⟩, admitted⟩⟩

theorem Made.shape {dtype : NumberType} {shape : List Nat} {values : List (Number elements)}
    (made : Made casts dtype shape values tensor) :
    tensor.shape = shape ∧ tensor.cells = values.length ∧ tensor.numberType = dtype := by
  cases dtype with
  | float32 =>
      rcases made with ⟨array, rfl, rfl, same⟩
      exact ⟨rfl, by rw [Tensor.cells, same, List.length_map], rfl⟩
  | float64 =>
      rcases made with ⟨array, rfl, rfl, same⟩
      exact ⟨rfl, by rw [Tensor.cells, same, List.length_map], rfl⟩
  | uint64 =>
      rcases made with ⟨array, rfl, rfl, same⟩
      exact ⟨rfl, by rw [Tensor.cells, same, List.length_map], rfl⟩
  | other name => exact made.elim

/-- What a payload is decoded to. -/
theorem Tensor.fromStream_eq_ok {document : codec.Document} :
    fromStream codec paths checks casts document = .ok tensor <-> exists schema values rest path dims dtype numbers,
      codec.decodeSeq "a TinyChain tensor payload" document = .ok (schema :: values :: rest) ∧
      codec.decodeSchema schema = .ok (path, dims) ∧ paths.fromPath path = some dtype ∧
      codec.decodeNumbers values = .ok numbers ∧ Made casts dtype (dims.map UInt64.toNat) numbers tensor ∧
      forall number, number ∈ numbers -> tensor.Admits checks number := by
  constructor
  · intro decoded
    rcases except_bind_eq_ok.mp decoded with ⟨items, listed, decoded⟩
    cases items with
    | nil => cases decoded
    | cons schema items =>
        rcases except_bind_eq_ok.mp decoded with ⟨⟨path, dims⟩, described, decoded⟩
        dsimp only at decoded
        cases typed : paths.fromPath path with
        | none =>
            rw [typed] at decoded
            cases decoded
        | some dtype =>
            rw [typed] at decoded
            dsimp only at decoded
            rw [coerceShape_eq_ok, except_ok_bind] at decoded
            cases items with
            | nil => cases decoded
            | cons values rest =>
                rcases except_bind_eq_ok.mp decoded with ⟨numbers, read, made⟩
                exact ⟨schema, values, rest, path, dims, dtype, numbers, listed, described, typed, read,
                  tensorFromParts_iff.mp made⟩
  · rintro ⟨schema, values, rest, path, dims, dtype, numbers, listed, described, typed, read, made⟩
    unfold fromStream
    rw [listed, except_ok_bind]
    dsimp only
    rw [described, except_ok_bind]
    dsimp only
    rw [typed]
    dsimp only
    rw [coerceShape_eq_ok, except_ok_bind]
    exact except_bind_eq_ok.mpr ⟨numbers, read, tensorFromParts_iff.mpr made⟩

/-- A tensor which has been decoded is encoded as a payload of the same tensor, whatever
payload it came from; and payloads tell such tensors apart. -/
theorem Tensor.reencodes (codecLawful : codec.Lawful) (pathsLawful : paths.Lawful)
    {document : codec.Document} (decoded : fromStream codec paths checks casts document = .ok tensor)
    (carried : tensor.Carried codec checks casts) :
    fromStream codec paths checks casts (tensor.intoStream codec paths) = .ok tensor ∧
      forall other : Tensor elements, other.DimsFit -> other.Carried codec checks casts ->
        other.intoStream codec paths = tensor.intoStream codec paths -> other = tensor := by
  have fits : tensor.DimsFit := by
    rcases fromStream_eq_ok.mp decoded with ⟨_, _, _, _, dims, _, _, _, _, _, _, made, _⟩
    intro dim member
    rw [made.shape.1] at member
    rcases List.mem_map.mp member with ⟨word, _, rfl⟩
    exact word.toNat_lt
  have back : fromStream codec paths checks casts (tensor.intoStream codec paths) = .ok tensor :=
    fromStream_intoStream codecLawful pathsLawful fits carried
  refine ⟨back, ?_⟩
  intro other otherFits otherCarried same
  have otherBack : fromStream codec paths checks casts (other.intoStream codec paths) = .ok other :=
    fromStream_intoStream codecLawful pathsLawful otherFits otherCarried
  rw [same, back] at otherBack
  exact (Except.ok.inj otherBack).symm

end RoundTrip

/-! ## A codec -/

/-- Parts of payloads, in which numbers stand as they are. -/
inductive Part (elements : Elements) where
  | seq (items : List (Part elements))
  | schema (path : String) (dims : List UInt64)
  | numbers (values : List (Number elements))

namespace Part

variable {elements : Elements}

def decodeSeq (expecting : String) : Part elements -> Except String (List (Part elements))
  | .seq items => .ok items
  | _ => .error s!"expected {expecting}"

def decodeSchema : Part elements -> Except String (String × List UInt64)
  | .schema path dims => .ok (path, dims)
  | _ => .error "expected a schema"

def decodeNumbers : Part elements -> Except String (List (Number elements))
  | .numbers values => .ok values
  | _ => .error "expected numbers"

end Part

def TensorCodec.plain (elements : Elements) : TensorCodec elements where
  Document := Part elements
  encodeSeq := .seq
  encodeSchema schema := .schema schema.1 schema.2
  encodeF32s values := .numbers (values.map .f32)
  encodeF64s values := .numbers (values.map .f64)
  encodeU64s values := .numbers (values.map .uint)
  decodeSeq := Part.decodeSeq
  decodeSchema := Part.decodeSchema
  decodeNumbers := Part.decodeNumbers
  invalidValue found expected := s!"invalid value: {found}, expected {expected}"

theorem NumberPaths.scalar_lawful : NumberPaths.scalar.Lawful := ⟨rfl, rfl, rfl⟩

theorem TensorCodec.plain_lawful (elements : Elements) : (TensorCodec.plain elements).Lawful :=
  ⟨fun _ _ => rfl, fun _ => rfl⟩

theorem carried_line : line.Carried (TensorCodec.plain Elements.binary) FloatChecks.binary NumberCasts.binary := by
  refine ⟨_, rfl, ?_, by decide +kernel⟩
  intro number member
  rcases List.mem_map.mp member with ⟨value, _, rfl⟩
  trivial

theorem reencodes_line :
    Tensor.fromStream (TensorCodec.plain Elements.binary) NumberPaths.scalar FloatChecks.binary NumberCasts.binary
        (line.intoStream (TensorCodec.plain Elements.binary) NumberPaths.scalar) = .ok line ∧
      forall other : Tensor Elements.binary, other.DimsFit ->
        other.Carried (TensorCodec.plain Elements.binary) FloatChecks.binary NumberCasts.binary ->
        other.intoStream (TensorCodec.plain Elements.binary) NumberPaths.scalar =
          line.intoStream (TensorCodec.plain Elements.binary) NumberPaths.scalar -> other = line := by
  have lawful : (TensorCodec.plain Elements.binary).Lawful := TensorCodec.plain_lawful Elements.binary
  have fits : line.DimsFit := by
    intro dim member
    rw [List.mem_singleton.mp member]
    decide
  have decoded := Tensor.fromStream_intoStream lawful NumberPaths.scalar_lawful fits carried_line
  exact Tensor.reencodes lawful NumberPaths.scalar_lawful decoded carried_line

end Tensors
end TransactionalCollection
