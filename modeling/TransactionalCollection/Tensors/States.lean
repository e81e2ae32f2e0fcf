import TransactionalCollection.Execution.Parsing
import TransactionalCollection.Tensors.Casting
import TransactionalCollection.Tensors.Writing

namespace TransactionalCollection
namespace Tensors

open Execution Native Numeric

/-!
# What requests are made of

The states which are sent with a request belong to the caller.  They are asked for a
value, a tuple or a tensor, and what is not there is a bad request.  Each conversion
reads exactly what is described of it, and any other state is refused.
-/

variable {elements : Elements}

/-- `tc_value::Value`, as far as its variants are told apart. -/
inductive Value (elements : Elements) where
  | none
  | number (number : Number elements)
  | string (text : String)
  | link (link : String)
  | other (debug : String)

/-- The paths of types: the type which a text stands for, if it is a path, and the path
of a type. -/
structure NumberPaths where
  fromPath : String -> Option NumberType
  path : NumberType -> String

/-- The states of a caller, with the values and names which they are made of. -/
structure CollectionState (elements : Elements) where
  State : Type
  Id : Type
  intoValue : State -> Except TCError (Value elements)
  intoTuple : State -> Except TCError (List State)
  intoTensor : State -> Except TCError (Tensor elements)
  isNone : State -> Bool
  ofValue : Value elements -> State
  ofTuple : List (Value elements) -> State
  ofTensor : Tensor elements -> State
  debugValue : Value elements -> String
  parseId : String -> Except String Id
  toI64 : Number elements -> Int64
  toBool : Number elements -> Bool
  paths : NumberPaths

namespace CollectionState

variable (states : CollectionState elements)

/-- `Map<S>`. -/
abbrev Map := states.Id -> Option states.State

/-! ## Numbers and shapes -/

/-- The number which a state holds. -/
def numberFromState (expected : String) (state : states.State) : Except TCError (Number elements) := do
  match <- states.intoValue state with
  | .number number => return number
  | other => .error (.badRequest s!"expected {expected}, found {states.debugValue other}")

def numbersFromState (context : String) (state : states.State) : Except TCError (List (Number elements)) := do
  let items <- states.intoTuple state
  items.mapM (states.numberFromState s!"{context} numbers")

def numberToUsize (context : String) (number : Number elements) : Except TCError Nat :=
  if states.toI64 number < 0 then .error (.badRequest s!"expected {context} to be non-negative")
  else .ok (states.toI64 number).toInt.toNat

def stateUsize (context : String) (state : states.State) : Except TCError Nat := do
  let number <- states.numberFromState s!"{context} number" state
  states.numberToUsize context number

def shapeFromState (state : states.State) : Except TCError (List Nat) := do
  let numbers <- states.numbersFromState "tensor shape" state
  numbers.mapM (states.numberToUsize "tensor shape dimension")

def optionalShapeFromState (state : states.State) : Except TCError (Option (List Nat)) :=
  if states.isNone state then .ok none else (states.shapeFromState state).map some

/-- One axis, or several. -/
def optionalAxesFromState (state : states.State) : Except TCError (Option (List Nat)) :=
  if states.isNone state then .ok none
  else match states.intoValue state with
    | .ok (.number number) => (states.numberToUsize "tensor reduction axis" number).map (fun axis => some [axis])
    | _ => (states.shapeFromState state).map some

/-! ## Types -/

def parseTensorNumberType : String -> Option NumberType
  | "f32" => some .float32
  | "f64" => some .float64
  | "u64" => some .uint64
  | raw => states.paths.fromPath raw

def tensorDtypeFromState (state : states.State) : Except TCError NumberType := do
  let raw <- match <- states.intoValue state with
    | .string dtype => .ok dtype
    | .link link => .ok link
    | other => .error (.badRequest s!"expected tensor dtype string or link, found {states.debugValue other}")
  match states.parseTensorNumberType raw with
  | some dtype => return dtype
  | none => .error (.badRequest s!"unsupported tensor dtype {raw}")

/-! ## Parameters -/

def optionalParam (params : states.Map) (name : String) : Except TCError (Option states.State) :=
  match states.parseId name with
  | .error message => .error (.internal s!"invalid tensor parameter {name}: {message}")
  | .ok id => .ok (params id)

def requiredParam (params : states.Map) (name : String) : Except TCError states.State := do
  match <- states.optionalParam params name with
  | some state => return state
  | none => .error (.badRequest s!"missing tensor parameter {name}")

def tensorParam (params : states.Map) (name : String) : Except TCError (Tensor elements) := do
  let state <- states.requiredParam params name
  states.intoTensor state

def shapeParam (params : states.Map) (name : String) : Except TCError (List Nat) := do
  let state <- states.requiredParam params name
  states.shapeFromState state

def optionalAxesParam (params : states.Map) : Except TCError (Option (List Nat)) := do
  match <- states.optionalParam params "axes" with
  | some axes => states.optionalAxesFromState axes
  | none =>
      match <- states.optionalParam params "axis" with
      | some axis => states.optionalAxesFromState axis
      | none => return none

def boolParam (params : states.Map) (name : String) : Except TCError Bool := do
  match <- states.optionalParam params name with
  | some state => (states.numberFromState s!"tensor {name} boolean" state).map states.toBool
  | none => return false

/-! ## What is read -/

/-- The errors of requests: bad requests, those of the caller's conversions, and names
which are not parsed. -/
inductive Refusal : TCError -> Prop where
  | request (message : String) : Refusal (.badRequest message)
  | value {state : states.State} {error : TCError} (refused : states.intoValue state = .error error) : Refusal error
  | tuple {state : states.State} {error : TCError} (refused : states.intoTuple state = .error error) : Refusal error
  | tensor {state : states.State} {error : TCError} (refused : states.intoTensor state = .error error) : Refusal error
  | parameter {name message : String} (refused : states.parseId name = .error message) :
      Refusal (.internal s!"invalid tensor parameter {name}: {message}")

/-- The state is a number. -/
def IsNumber (state : states.State) (number : Number elements) : Prop :=
  states.intoValue state = .ok (.number number)

/-- The number is a natural one, as a `usize`. -/
def Counts (number : Number elements) (count : Nat) : Prop :=
  0 ≤ states.toI64 number ∧ (states.toI64 number).toInt.toNat = count

/-- The state is a natural number. -/
def IsCount (state : states.State) (count : Nat) : Prop :=
  exists number, states.IsNumber state number ∧ states.Counts number count

/-- The state is a tuple of natural numbers. -/
def IsShape (state : states.State) (shape : List Nat) : Prop :=
  exists items, states.intoTuple state = .ok items ∧ List.Forall₂ states.IsCount items shape

variable {states}

theorem intoValue_parses (state : states.State) :
    Parses (fun value => states.intoValue state = .ok value) states.Refusal (states.intoValue state) :=
  .of_call (fun _ => .value)

theorem intoTuple_parses (state : states.State) :
    Parses (fun items => states.intoTuple state = .ok items) states.Refusal (states.intoTuple state) :=
  .of_call (fun _ => .tuple)

theorem numberFromState_parses (expected : String) (state : states.State) :
    Parses (states.IsNumber state) states.Refusal (states.numberFromState expected state) := by
  have branch : forall value, states.intoValue state = .ok value -> Parses (fun number => value = .number number)
      states.Refusal (match value with
        | .number number => (.ok number : Except TCError (Number elements))
        | other => .error (.badRequest s!"expected {expected}, found {states.debugValue other}")) := by
    intro value _
    cases value with
    | number number =>
        apply (Parses.ok number).congr
        intro other
        rw [Value.number.injEq]
    | none => exact .failed (.request _) (fun _ impossible => by cases impossible)
    | string text => exact .failed (.request _) (fun _ impossible => by cases impossible)
    | link link => exact .failed (.request _) (fun _ impossible => by cases impossible)
    | other debug => exact .failed (.request _) (fun _ impossible => by cases impossible)
  apply ((intoValue_parses state).bind branch).congr
  intro number
  constructor
  · intro described
    rcases described with ⟨value, read, rfl⟩
    exact read
  · intro read
    exact ⟨_, read, rfl⟩

theorem numberToUsize_parses (context : String) (number : Number elements) :
    Parses (states.Counts number) states.Refusal (states.numberToUsize context number) := by
  apply Parses.ite
  · intro negative
    apply Parses.failed (.request _)
    intro count counts
    exact Int64.not_lt.mpr counts.1 negative
  · intro natural
    apply (Parses.ok _).congr
    intro count
    exact (and_iff_right (Int64.not_lt.mp natural)).symm

theorem stateUsize_parses (context : String) (state : states.State) :
    Parses (states.IsCount state) states.Refusal (states.stateUsize context state) :=
  (numberFromState_parses _ state).bind (fun number _ => numberToUsize_parses context number)

theorem numbersFromState_parses (context : String) (state : states.State) :
    Parses (fun numbers => exists items, states.intoTuple state = .ok items ∧
      List.Forall₂ states.IsNumber items numbers) states.Refusal (states.numbersFromState context state) :=
  (intoTuple_parses state).bind (fun _ _ => .mapM (fun item _ => numberFromState_parses _ item))

theorem shapeFromState_parses (state : states.State) :
    Parses (states.IsShape state) states.Refusal (states.shapeFromState state) := by
  apply ((numbersFromState_parses "tensor shape" state).bind (fun _ _ =>
    .mapM (fun number _ => numberToUsize_parses "tensor shape dimension" number))).congr
  intro shape
  constructor
  · intro described
    rcases described with ⟨numbers, ⟨items, read, first⟩, second⟩
    exact ⟨items, read, Parses.forall₂_exists_iff.mpr ⟨numbers, first, second⟩⟩
  · intro described
    rcases described with ⟨items, read, listed⟩
    rcases Parses.forall₂_exists_iff.mp listed with ⟨numbers, first, second⟩
    exact ⟨numbers, ⟨items, read, first⟩, second⟩

/-! ## What is refused -/

variable (states) in
/-- The conversion ends in a value, or in an error of the request. -/
def Converts {A : Type} (result : Except TCError A) : Prop := Ends (fun _ => True) states.Refusal result

theorem converts_of_parses {A : Type} {reads : A -> Prop} {result : Except TCError A}
    (parses : Parses reads states.Refusal result) : states.Converts result := by
  have ends := parses.ends
  cases result with
  | error error => exact ends
  | ok value => trivial

theorem Converts.map {A B : Type} {result : Except TCError A} (converts : states.Converts result) (image : A -> B) :
    states.Converts (result.map image) := by
  cases result with
  | error error => exact converts
  | ok value => trivial

theorem optionalShapeFromState_converts (state : states.State) :
    states.Converts (states.optionalShapeFromState state) := by
  unfold optionalShapeFromState
  split
  · trivial
  · exact (converts_of_parses (shapeFromState_parses state)).map some

theorem optionalAxesFromState_converts (state : states.State) :
    states.Converts (states.optionalAxesFromState state) := by
  unfold optionalAxesFromState
  split
  · trivial
  · split
    · exact (converts_of_parses (numberToUsize_parses _ _)).map _
    · exact (converts_of_parses (shapeFromState_parses state)).map some

theorem tensorDtypeFromState_converts (state : states.State) : states.Converts (states.tensorDtypeFromState state) := by
  have parsed : forall raw, states.Converts (match states.parseTensorNumberType raw with
      | some dtype => (.ok dtype : Except TCError NumberType)
      | none => .error (.badRequest s!"unsupported tensor dtype {raw}")) := by
    intro raw
    cases states.parseTensorNumberType raw with
    | some dtype => trivial
    | none => exact .request _
  apply (converts_of_parses (intoValue_parses state)).bind
  intro value _
  cases value with
  | string text => exact parsed text
  | link link => exact parsed link
  | none => exact .request _
  | number number => exact .request _
  | other debug => exact .request _

theorem optionalParam_converts (params : states.Map) (name : String) :
    states.Converts (states.optionalParam params name) := by
  unfold optionalParam
  cases parsed : states.parseId name with
  | error message => exact .parameter parsed
  | ok id => trivial

theorem requiredParam_converts (params : states.Map) (name : String) :
    states.Converts (states.requiredParam params name) := by
  apply (optionalParam_converts params name).bind
  intro state _
  cases state with
  | some state => trivial
  | none => exact .request _

theorem tensorParam_converts (params : states.Map) (name : String) :
    states.Converts (states.tensorParam params name) := by
  apply (requiredParam_converts params name).bind
  intro state _
  cases read : states.intoTensor state with
  | error error => exact .tensor read
  | ok tensor => trivial

theorem shapeParam_converts (params : states.Map) (name : String) :
    states.Converts (states.shapeParam params name) := by
  apply (requiredParam_converts params name).bind
  intro state _
  exact converts_of_parses (shapeFromState_parses state)

theorem optionalAxesParam_converts (params : states.Map) : states.Converts (states.optionalAxesParam params) := by
  apply (optionalParam_converts params "axes").bind
  intro axes _
  cases axes with
  | some axes => exact optionalAxesFromState_converts axes
  | none =>
      apply (optionalParam_converts params "axis").bind
      intro axis _
      cases axis with
      | some axis => exact optionalAxesFromState_converts axis
      | none => trivial

theorem boolParam_converts (params : states.Map) (name : String) : states.Converts (states.boolParam params name) := by
  apply (optionalParam_converts params name).bind
  intro state _
  cases state with
  | some state => exact (converts_of_parses (numberFromState_parses _ state)).map _
  | none => trivial

/-- A tensor which is a parameter has been sent. -/
theorem tensorParam_eq_ok {params : states.Map} {name : String} {tensor : Tensor elements}
    (read : states.tensorParam params name = .ok tensor) : exists id state, params id = some state ∧
      states.intoTensor state = .ok tensor := by
  rcases except_bind_eq_ok.mp read with ⟨state, required, converted⟩
  rcases except_bind_eq_ok.mp required with ⟨found, optional, same⟩
  cases found with
  | none => cases same
  | some other =>
      cases same
      unfold optionalParam at optional
      split at optional
      · cases optional
      · rename_i id _
        exact ⟨id, state, Except.ok.inj optional, converted⟩

end CollectionState

/-! ## A caller -/

/-- Values, tuples and tensors, as a caller sends them. -/
inductive Sent (elements : Elements) where
  | value (value : Value elements)
  | tuple (items : List (Sent elements))
  | tensor (tensor : Tensor elements)

namespace Sent

variable {elements : Elements}

def intoValue : Sent elements -> Except TCError (Value elements)
  | .value sent => .ok sent
  | .tuple _ => .error (.badRequest "expected a value, found a tuple")
  | .tensor _ => .error (.badRequest "expected a value, found a tensor")

def intoTuple : Sent elements -> Except TCError (List (Sent elements))
  | .tuple items => .ok items
  | _ => .error (.badRequest "expected a tuple")

def intoTensor : Sent elements -> Except TCError (Tensor elements)
  | .tensor sent => .ok sent
  | _ => .error (.badRequest "expected a tensor")

def isNone : Sent elements -> Bool
  | .value .none => true
  | _ => false

end Sent

/-- Truncated toward zero, and saturated. -/
def Reading.toI64 : Reading -> Int64
  | .nan => 0
  | .infinite negative => if negative then Int64.minValue else Int64.maxValue
  | .finite value => Int64.ofIntClamp (value.num.tdiv value.den)

namespace Number

def toI64 : Number Elements.binary -> Int64
  | .bool value => if value then 1 else 0
  | .uint value => value.toInt64
  | .int value => value
  | .f32 value => value.reading.toI64
  | .f64 value => value.reading.toI64
  | .complex re _ => re.reading.toI64

def toBool : Number Elements.binary -> Bool
  | .complex re im => !(re.reading.isZero && im.reading.isZero)
  | number => !number.reading.isZero

def display : Number Elements.binary -> String
  | .bool value => toString value
  | .uint value => toString value
  | .int value => toString value
  | .f32 value => value.reading.display
  | .f64 value => value.reading.display
  | .complex re im => s!"{re.reading.display} + {im.reading.display}i"

end Number

def Value.display : Value Elements.binary -> String
  | .none => "None"
  | .number value => value.display
  | .string text | .link text => text
  | .other debug => debug

def NumberPaths.scalar : NumberPaths where
  fromPath
    | "/state/scalar/value/number/float/32" => some .float32
    | "/state/scalar/value/number/float/64" => some .float64
    | "/state/scalar/value/number/uint/64" => some .uint64
    | _ => none
  path
    | .float32 => "/state/scalar/value/number/float/32"
    | .float64 => "/state/scalar/value/number/float/64"
    | .uint64 => "/state/scalar/value/number/uint/64"
    | .other name => name

def CollectionState.binary : CollectionState Elements.binary where
  State := Sent Elements.binary
  Id := String
  intoValue := Sent.intoValue
  intoTuple := Sent.intoTuple
  intoTensor := Sent.intoTensor
  isNone := Sent.isNone
  ofValue := .value
  ofTuple values := .tuple (values.map .value)
  ofTensor := .tensor
  debugValue := Value.display
  parseId := .ok
  toI64 := Number.toI64
  toBool := Number.toBool
  paths := NumberPaths.scalar

end Tensors
end TransactionalCollection
