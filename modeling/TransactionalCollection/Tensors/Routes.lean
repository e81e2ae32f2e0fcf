import TransactionalCollection.Tensors.Answers
import TransactionalCollection.Tensors.Slicing

namespace TransactionalCollection
namespace Tensors

open Execution Native Numeric

/-!
# Requests to tensors

A path leads to a handler of `GET` or of `POST`, which converts the key or the parameters
and calls an operation.  In a session of requests, of which each may send what others
have answered, every tensor has the right size and nothing panics: what is refused is
refused as an error.
-/

variable {elements : Elements}

/-! ## Errors and answers -/

/-- `TensorOpError::to_string`. -/
def TensorOpError.message : TensorOpError -> String
  | .dtypeNotSupported dtype => s!"TensorOpError::DtypeNotSupported: dtype {dtype} is not supported"
  | .dtypeMismatch left right => s!"TensorOpError::DtypeMismatch: left dtype {left} != right dtype {right}"
  | .shapeMismatch left right => s!"TensorOpError::ShapeMismatch: left shape {left} != right shape {right}"
  | .broadcastIncompatible left right =>
      s!"TensorOpError::BroadcastIncompatible: shapes {left} and {right} are not broadcast-compatible"
  | .invalidBroadcastReduce input target =>
      s!"TensorOpError::InvalidBroadcastReduce: input shape {input} cannot reduce to target shape {target}"
  | .invalidRank rank => s!"TensorOpError::InvalidRank: matmul requires rank >= 2 but got rank {rank}"
  | .matmulShapeMismatch aInner bInner =>
      s!"TensorOpError::MatmulShapeMismatch: A inner dim {aInner} != B inner dim {bInner}"
  | .broadcastShapeMismatch batchA batchB =>
      s!"TensorOpError::BroadcastShapeMismatch: batch dims {batchA} and {batchB} are not broadcast-compatible"
  | .invalidPermutation rank permutation reason =>
      s!"TensorOpError::InvalidPermutation: permutation {permutation} is invalid for rank {rank}: {reason}"

/-- `TensorOpError::into_tc_error`, which a panic passes by. -/
def intoTcError : Failure TensorOpError -> Failure TCError
  | .error error => .error (.badRequest error.message)
  | .panic panic => .panic panic

/-- `Number::from`, of one element. -/
def Component.number : Component elements -> Number elements
  | .f32 value => .f32 value
  | .f64 value => .f64 value
  | .u64 value => .uint value

/-- What a conversion answers. -/
def converted {A : Type} (result : Except TCError A) : Except (Failure TCError) A := result.mapError Failure.error

/-! ## Handlers -/

/-- The handlers of one path, of which there may be one of each method. -/
structure Handler (states : CollectionState elements) where
  get : Option (states.State -> Except (Failure TCError) states.State)
  post : Option (states.Map -> Except (Failure TCError) states.State)

/-- One request, with its key or its parameters. -/
inductive Request (states : CollectionState elements) where
  | get (key : states.State)
  | post (params : states.Map)

section Handlers

variable (states : CollectionState elements) (views : Views elements) (ops : FloatOps elements)
    (checks : FloatChecks elements)
  (tensor : Tensor elements)

def getTensor (operation : states.State -> Except (Failure TCError) states.State) : Handler states :=
  ⟨some operation, none⟩

def postTensor (operation : states.Map -> Except (Failure TCError) states.State) : Handler states :=
  ⟨none, some operation⟩

/-- `tensor_op_result`, of a tensor. -/
def tensorOpResult (tensor : Except (Failure TensorOpError) (Tensor elements)) :
    Except (Failure TCError) states.State :=
  (tensor.map states.ofTensor).mapError intoTcError

def getBroadcast (key : states.State) : Except (Failure TCError) states.State := do
  let shape <- converted (states.shapeFromState key)
  states.tensorState (tensor.broadcast shape)

def getCast (key : states.State) : Except (Failure TCError) states.State := do
  let dtype <- converted (states.tensorDtypeFromState key)
  states.tensorState ((tensor.cast checks dtype).mapError Failure.error)

def getExpandDims (key : states.State) : Except (Failure TCError) states.State := do
  let axes <- converted (states.optionalShapeFromState key)
  states.tensorState ((tensor.expandDims axes).mapError Failure.error)

def getReshape (key : states.State) : Except (Failure TCError) states.State := do
  let shape <- converted (states.shapeFromState key)
  states.tensorState ((tensor.reshape shape).mapError Failure.error)

def tensorTransposeGet (key : states.State) : Except (Failure TCError) states.State := do
  let axes <- converted (states.shapeFromState key)
  tensorOpResult states (tensorTranspose views tensor axes)

def tensorTransposePost (params : states.Map) : Except (Failure TCError) states.State := do
  let axes <- converted (states.shapeParam params "perm")
  tensorOpResult states (tensorTranspose views tensor axes)

def tensorTruthyState (all : Bool) : Except (Failure TCError) states.State :=
  ((tensor.truthy all).map (fun holds => states.ofValue (.number (.bool holds)))).mapError
    (fun message => .error (.badRequest message))

def postCond (params : states.Map) : Except (Failure TCError) states.State := do
  let first <- converted (states.tensorParam params "then")
  let second <- converted (states.tensorParam params "or_else")
  states.tensorState (tensor.cond first second)

def tensorReduce (op : String) (params : states.Map) : Except (Failure TCError) states.State := do
  let axes <- converted (states.optionalAxesParam params)
  let keepdims <- converted (states.boolParam params "keepdims")
  match <- (tensor.reduceAxes ops op axes keepdims).mapError badRequest with
  | .scalar number => return states.ofValue (.number number.number)
  | .tensor tensor => return states.ofTensor tensor

def postBroadcastReduce (params : states.Map) : Except (Failure TCError) states.State := do
  let shape <- converted (states.shapeParam params "target_shape")
  tensorOpResult states (broadcastReduceSum ops tensor shape)

def postMatmul (params : states.Map) : Except (Failure TCError) states.State := do
  let right <- converted (states.tensorParam params "r")
  tensorOpResult states (batchedMatmul tensor right)

def postAdd (params : states.Map) : Except (Failure TCError) states.State := do
  let right <- converted (states.tensorParam params "r")
  tensorOpResult states (broadcastAdd ops tensor right)

def tensorBinary (op : String) (params : states.Map) : Except (Failure TCError) states.State := do
  let right <- converted (states.tensorParam params "r")
  states.tensorState (tensor.binaryOp ops right op)

def route : List String -> Option (Handler states)
  | [] => some (getTensor states (states.getSlice views tensor))
  | [segment] =>
      match segment with
      | "broadcast" => some (getTensor states (getBroadcast states tensor))
      | "cast" => some (getTensor states (getCast states checks tensor))
      | "expand_dims" => some (getTensor states (getExpandDims states tensor))
      | "reshape" => some (getTensor states (getReshape states tensor))
      | "transpose" =>
          some ⟨some (tensorTransposeGet states views tensor), some (tensorTransposePost states views tensor)⟩
      | "dtype" => some (postTensor states
          (fun _ => .ok (states.ofValue (.string (states.paths.path tensor.numberType)))))
      | "ndim" =>
          some (postTensor states (fun _ => .ok (states.ofValue (.number (.uint (.ofNat tensor.shape.length))))))
      | "shape" =>
          some (postTensor states (fun _ => .ok (states.ofTuple
            (tensor.shape.map (fun dim => .number (.uint (.ofNat dim)))))))
      | "size" => some (postTensor states (fun _ => .ok (states.ofValue (.number (.uint (.ofNat tensor.size))))))
      | "all" => some (postTensor states (fun _ => tensorTruthyState states tensor true))
      | "any" => some (postTensor states (fun _ => tensorTruthyState states tensor false))
      | "cond" => some (postTensor states (postCond states tensor))
      | "max" => some (postTensor states (tensorReduce states ops tensor "max"))
      | "min" => some (postTensor states (tensorReduce states ops tensor "min"))
      | "mean" => some (postTensor states (tensorReduce states ops tensor "mean"))
      | "norm" => some (postTensor states (tensorReduce states ops tensor "norm"))
      | "product" => some (postTensor states (tensorReduce states ops tensor "product"))
      | "std" => some (postTensor states (tensorReduce states ops tensor "std"))
      | "sum" => some (postTensor states (tensorReduce states ops tensor "sum"))
      | "broadcast_reduce" => some (postTensor states (postBroadcastReduce states ops tensor))
      | "matmul" => some (postTensor states (postMatmul states tensor))
      | "add" => some (postTensor states (postAdd states ops tensor))
      | "sub" => some (postTensor states (tensorBinary states ops tensor "sub"))
      | "mul" => some (postTensor states (tensorBinary states ops tensor "mul"))
      | "div" => some (postTensor states (tensorBinary states ops tensor "div"))
      | "and" => some (postTensor states (tensorBinary states ops tensor "and"))
      | "or" => some (postTensor states (tensorBinary states ops tensor "or"))
      | "xor" => some (postTensor states (tensorBinary states ops tensor "xor"))
      | "not" =>
          some (postTensor states (fun _ => states.tensorState ((tensor.unaryNot ops).mapError Failure.error)))
      | _ => none
  | _ => none

/-- The answer to a request, if there is a handler of its path and its method. -/
def respond (path : List String) (request : Request states) : Option (Except (Failure TCError) states.State) := do
  let handler <- route states views ops checks tensor path
  match request with
  | .get key => handler.get.map (fun operation => operation key)
  | .post params => handler.post.map (fun operation => operation params)

end Handlers

/-! ## What is asked for -/

section Requests

variable (states : CollectionState elements) (views : Views elements) (ops : FloatOps elements)
    (checks : FloatChecks elements)
  (tensor : Tensor elements)

/-- The shapes which the result of a request may have, other than those of its operands. -/
inductive Asks : List String -> Request states -> List Nat -> Prop where
  | broadcast {key : states.State} {shape : List Nat} (read : states.IsShape key shape) :
      Asks ["broadcast"] (.get key) shape
  | reshape {key : states.State} {shape : List Nat} (read : states.IsShape key shape) :
      Asks ["reshape"] (.get key) shape
  | reduce {params : states.Map} {shape : List Nat} (read : states.shapeParam params "target_shape" = .ok shape) :
      Asks ["broadcast_reduce"] (.post params) shape
  | matmul {params : states.Map} {right : Tensor elements} {aBatch bBatch batchOut : List Nat} {rows inner cols : Nat}
      (read : states.tensorParam params "r" = .ok right)
      (multiplies : Multiplies tensor right aBatch bBatch batchOut rows inner cols) :
      Asks ["matmul"] (.post params) (batchOut ++ [rows, cols])
  | combine {params : states.Map} {right : Tensor elements} {shape : List Nat} {op : String}
      (binary : op ∈ ["add", "sub", "mul", "div", "and", "or", "xor"])
      (read : states.tensorParam params "r" = .ok right) (joined : joinShape tensor.shape right.shape = some shape) :
      Asks [op] (.post params) shape

/-- What a request sends along. -/
def Request.Sends {states : CollectionState elements} : Request states -> states.State -> Prop
  | .get key, sent => sent = key
  | .post params, sent => exists id, params id = some sent

/-- The shapes which are asked for have the right size, and ranges are those of which a
slice is made. -/
structure Modest (path : List String) (request : Request states) : Prop where
  asked : forall shape, Asks states tensor path request shape -> shape.prod < usize
  sliced : forall key ranges, path = [] -> request = .get key -> states.IsSlice tensor.shape key ranges ->
    AxisRange.Selects tensor.shape ranges

/-- A modest request, of which the tensors that are sent have the right size. -/
structure Admissible (path : List String) (request : Request states) : Prop where
  sent : forall sent right, request.Sends sent -> states.intoTensor sent = .ok right -> right.WellSized
  modest : Modest states tensor path request

/-- A tensor of the right size, or something which is no tensor. -/
inductive Answered : states.State -> Prop where
  | tensor {result : Tensor elements} (wellSized : result.WellSized) : Answered (states.ofTensor result)
  | value (value : Value elements) : Answered (states.ofValue value)
  | tuple (values : List (Value elements)) : Answered (states.ofTuple values)

/-- An error of the request, and no panic. -/
def Refused (failure : Failure TCError) : Prop := exists error, failure = .error error ∧ states.Refusal error

end Requests

/-! ## What is answered -/

section Answering

variable {states : CollectionState elements} {views : Views elements} {ops : FloatOps elements}
    {checks : FloatChecks elements}
  {tensor : Tensor elements} {path : List String}

/-- The call ends in an answer, or is refused. -/
def Responds (result : Except (Failure TCError) states.State) : Prop := Ends (Answered states) (Refused states) result

theorem responds_converted {A : Type} {result : Except TCError A} {rest : A -> Except (Failure TCError) states.State}
    (converts : states.Converts result) (continues : forall value, result = .ok value -> Responds (rest value)) :
    Responds (converted result >>= rest) := by
  cases outcome : result with
  | error error =>
      rw [outcome] at converts
      exact ⟨error, rfl, converts⟩
  | ok value => exact continues value outcome

theorem tensorState_responds {result : Except (Failure String) (Tensor elements)} (answers : Answers result) :
    Responds (states.tensorState result) := by
  cases result with
  | ok tensor => exact .tensor answers
  | error failure =>
      rcases answers with ⟨message, rfl⟩
      exact ⟨_, rfl, .request message⟩

theorem tensorOpResult_responds {result : Except (Failure TensorOpError) (Tensor elements)} (answers : Answers result) :
    Responds (tensorOpResult states result) := by
  cases result with
  | ok tensor => exact .tensor answers
  | error failure =>
      rcases answers with ⟨error, rfl⟩
      exact ⟨_, rfl, .request _⟩

theorem getSlice_responds (slices : views.Slices) (wellSized : tensor.WellSized) (key : states.State)
    (admissible : Admissible states tensor [] (.get key)) : Responds (states.getSlice views tensor key) := by
  have decides : SliceDecides states views tensor key := getSlice_decides slices wellSized key
  by_cases described : exists ranges, states.IsSlice tensor.shape key ranges
  · rcases described with ⟨ranges, described⟩
    have selects := admissible.modest.sliced key ranges rfl rfl described
    rcases decides.answers ranges described selects with ⟨result, done, shows⟩
    exact Ends.of_ok done (.tensor shows.wellSized)
  · rcases decides.refuses (fun ranges here => described ⟨ranges, here⟩) with ⟨error, refused, allowed⟩
    rw [refused]
    exact ⟨error, rfl, allowed⟩

theorem tensorReduce_responds (wellSized : tensor.WellSized) (op : String) (params : states.Map) :
    Responds (tensorReduce states ops tensor op params) := by
  apply responds_converted (CollectionState.optionalAxesParam_converts params)
  intro axes _
  apply responds_converted (CollectionState.boolParam_converts params "keepdims")
  intro keepdims _
  have reduces := Tensor.reduceAxes_ends ops wellSized op axes keepdims
  cases outcome : tensor.reduceAxes ops op axes keepdims with
  | error failure =>
      rw [outcome] at reduces
      rcases reduces with ⟨message, rfl⟩
      exact ⟨_, rfl, .request message⟩
  | ok result =>
      rw [outcome] at reduces
      cases result with
      | scalar number => exact Answered.value _
      | tensor result => exact Answered.tensor reduces

theorem tensorTruthyState_responds (all : Bool) : Responds (tensorTruthyState states tensor all) := by
  unfold tensorTruthyState
  cases tensor.truthy all with
  | error message => exact ⟨_, rfl, .request message⟩
  | ok holds => exact Answered.value _

/-- A tensor among the parameters has the right size. -/
theorem Admissible.param {params : states.Map} (admissible : Admissible states tensor path (.post params))
    {name : String} {right : Tensor elements} (read : states.tensorParam params name = .ok right) :
    right.WellSized := by
  rcases CollectionState.tensorParam_eq_ok read with ⟨id, state, found, converted⟩
  exact admissible.sent state right ⟨id, found⟩ converted

theorem tensorBinary_responds (wellSized : tensor.WellSized) {op : String}
    (binary : op ∈ ["add", "sub", "mul", "div", "and", "or", "xor"]) {params : states.Map}
    (admissible : Admissible states tensor [op] (.post params)) :
    Responds (tensorBinary states ops tensor op params) := by
  apply responds_converted (CollectionState.tensorParam_converts params "r")
  intro right read
  apply tensorState_responds
  apply Tensor.binaryOp_answers ops op wellSized (admissible.param read)
  intro shape joined
  exact admissible.modest.asked shape (.combine binary read joined)

/-- Each handler of the path answers, or refuses. -/
structure HandlerResponds (tensor : Tensor elements) (path : List String) (handler : Handler states) : Prop where
  get : forall key, Admissible states tensor path (.get key) -> forall operation, handler.get = some operation ->
    Responds (operation key)
  post : forall params, Admissible states tensor path (.post params) -> forall operation,
    handler.post = some operation -> Responds (operation params)

theorem getTensor_responds {operation : states.State -> Except (Failure TCError) states.State}
    (responds : forall key, Admissible states tensor path (.get key) -> Responds (operation key)) :
    HandlerResponds tensor path (getTensor states operation) where
  get key admissible other same := by
    cases same
    exact responds key admissible
  post params _ other impossible := by cases impossible

theorem postTensor_responds {operation : states.Map -> Except (Failure TCError) states.State}
    (responds : forall params, Admissible states tensor path (.post params) -> Responds (operation params)) :
    HandlerResponds tensor path (postTensor states operation) where
  get key _ other impossible := by cases impossible
  post params admissible other same := by
    cases same
    exact responds params admissible

/-! ## Each handler -/

theorem getBroadcast_responds (wellSized : tensor.WellSized) (key : states.State)
    (admissible : Admissible states tensor ["broadcast"] (.get key)) : Responds (getBroadcast states tensor key) := by
  have parses := CollectionState.shapeFromState_parses key
  apply responds_converted (CollectionState.converts_of_parses parses)
  intro shape read
  have small := admissible.modest.asked shape (.broadcast ((parses.ok_iff shape).mp read))
  exact tensorState_responds (Tensor.broadcast_answers wellSized small)

theorem getCast_responds (wellSized : tensor.WellSized) (key : states.State) :
    Responds (getCast states checks tensor key) := by
  apply responds_converted (CollectionState.tensorDtypeFromState_converts key)
  intro dtype _
  exact tensorState_responds (.of_except (fun _ done => Tensor.cast_sized wellSized done))

theorem getExpandDims_responds (wellSized : tensor.WellSized) (key : states.State) :
    Responds (getExpandDims states tensor key) := by
  apply responds_converted (CollectionState.optionalShapeFromState_converts key)
  intro axes _
  exact tensorState_responds (.of_except (fun _ done => Tensor.expandDims_sized wellSized done))

theorem getReshape_responds (key : states.State) (admissible : Admissible states tensor ["reshape"] (.get key)) :
    Responds (getReshape states tensor key) := by
  have parses := CollectionState.shapeFromState_parses key
  apply responds_converted (CollectionState.converts_of_parses parses)
  intro shape read
  have small := admissible.modest.asked shape (.reshape ((parses.ok_iff shape).mp read))
  exact tensorState_responds (.of_except (fun _ done => Tensor.reshape_sized small done))

theorem tensorTransposeGet_responds (transposes : views.Transposes) (wellSized : tensor.WellSized)
    (key : states.State) :
    Responds (tensorTransposeGet states views tensor key) := by
  apply responds_converted (CollectionState.converts_of_parses (CollectionState.shapeFromState_parses key))
  intro axes _
  exact tensorOpResult_responds (Tensor.transpose_answers transposes wellSized axes)

theorem tensorTransposePost_responds (transposes : views.Transposes) (wellSized : tensor.WellSized)
    (params : states.Map) :
    Responds (tensorTransposePost states views tensor params) := by
  apply responds_converted (CollectionState.shapeParam_converts params "perm")
  intro axes _
  exact tensorOpResult_responds (Tensor.transpose_answers transposes wellSized axes)

theorem postCond_responds (params : states.Map) (admissible : Admissible states tensor ["cond"] (.post params)) :
    Responds (postCond states tensor params) := by
  apply responds_converted (CollectionState.tensorParam_converts params "then")
  intro first read
  apply responds_converted (CollectionState.tensorParam_converts params "or_else")
  intro second _
  exact tensorState_responds (Tensor.cond_answers (admissible.param read))

theorem postBroadcastReduce_responds (wellSized : tensor.WellSized) (params : states.Map)
    (admissible : Admissible states tensor ["broadcast_reduce"] (.post params)) :
    Responds (postBroadcastReduce states ops tensor params) := by
  apply responds_converted (CollectionState.shapeParam_converts params "target_shape")
  intro shape read
  have small := admissible.modest.asked shape (.reduce read)
  exact tensorOpResult_responds (Tensor.broadcastReduceSum_answers ops wellSized small)

theorem postMatmul_responds (wellSized : tensor.WellSized) (params : states.Map)
    (admissible : Admissible states tensor ["matmul"] (.post params)) :
    Responds (postMatmul states tensor params) := by
  apply responds_converted (CollectionState.tensorParam_converts params "r")
  intro right read
  apply tensorOpResult_responds
  apply Tensor.matmul_answers wellSized (admissible.param read)
  intro aBatch bBatch batchOut rows inner cols multiplies
  exact admissible.modest.asked _ (.matmul read multiplies)

theorem postAdd_responds (wellSized : tensor.WellSized) (params : states.Map)
    (admissible : Admissible states tensor ["add"] (.post params)) : Responds (postAdd states ops tensor params) := by
  apply responds_converted (CollectionState.tensorParam_converts params "r")
  intro right read
  apply tensorOpResult_responds
  apply Tensor.broadcastAdd_answers ops wellSized (admissible.param read)
  intro shape joined
  exact admissible.modest.asked shape (.combine (by decide) read joined)

theorem unaryNot_responds (wellSized : tensor.WellSized) :
    Responds (states.tensorState ((tensor.unaryNot ops).mapError Failure.error)) :=
  tensorState_responds (.of_except (fun _ done => Tensor.unaryNot_sized wellSized done))

/-- Every handler which a path leads to answers, or refuses. -/
theorem route_responds (transposes : views.Transposes) (slices : views.Slices) (wellSized : tensor.WellSized)
    {handler : Handler states}
    (found : route states views ops checks tensor path = some handler) : HandlerResponds tensor path handler := by
  have reduction : forall op, HandlerResponds tensor path (postTensor states (tensorReduce states ops tensor op)) :=
    fun op => postTensor_responds (fun params _ => tensorReduce_responds wellSized op params)
  have truth : forall all, HandlerResponds tensor path
      (postTensor states (fun _ => tensorTruthyState states tensor all)) :=
    fun all => postTensor_responds (fun _ _ => tensorTruthyState_responds all)
  have binary : forall op, op ∈ ["add", "sub", "mul", "div", "and", "or", "xor"] ->
      HandlerResponds tensor [op] (postTensor states (tensorBinary states ops tensor op)) :=
    fun op listed => postTensor_responds (fun _ admissible => tensorBinary_responds wellSized listed admissible)
  unfold route at found
  split at found
  · cases found
    exact getTensor_responds (getSlice_responds slices wellSized)
  · -- one case for each segment, in the order of the route
    split at found <;> cases found
    · exact getTensor_responds (getBroadcast_responds wellSized)
    · exact getTensor_responds (fun key _ => getCast_responds wellSized key)
    · exact getTensor_responds (fun key _ => getExpandDims_responds wellSized key)
    · exact getTensor_responds getReshape_responds
    · constructor
      · intro key _ operation same
        cases same
        exact tensorTransposeGet_responds transposes wellSized key
      · intro params _ operation same
        cases same
        exact tensorTransposePost_responds transposes wellSized params
    · exact postTensor_responds (fun _ _ => Answered.value _)
    · exact postTensor_responds (fun _ _ => Answered.value _)
    · exact postTensor_responds (fun _ _ => Answered.tuple _)
    · exact postTensor_responds (fun _ _ => Answered.value _)
    · exact truth true
    · exact truth false
    · exact postTensor_responds postCond_responds
    · exact reduction "max"
    · exact reduction "min"
    · exact reduction "mean"
    · exact reduction "norm"
    · exact reduction "product"
    · exact reduction "std"
    · exact reduction "sum"
    · exact postTensor_responds (postBroadcastReduce_responds wellSized)
    · exact postTensor_responds (postMatmul_responds wellSized)
    · exact postTensor_responds (postAdd_responds wellSized)
    · exact binary "sub" (by decide)
    · exact binary "mul" (by decide)
    · exact binary "div" (by decide)
    · exact binary "and" (by decide)
    · exact binary "or" (by decide)
    · exact binary "xor" (by decide)
    · exact postTensor_responds (fun _ _ => unaryNot_responds wellSized)
  · cases found

/-- An admissible request to a tensor of the right size is answered, or refused. -/
theorem respond_responds (transposes : views.Transposes) (slices : views.Slices) (wellSized : tensor.WellSized)
    {request : Request states}
    (admissible : Admissible states tensor path request) {result : Except (Failure TCError) states.State}
    (responded : respond states views ops checks tensor path request = some result) : Responds result := by
  rcases Option.bind_eq_some_iff.mp responded with ⟨handler, found, called⟩
  have responds := route_responds transposes slices wellSized found
  cases request with
  | get key =>
      rcases Option.map_eq_some_iff.mp called with ⟨operation, listed, rfl⟩
      exact responds.get key admissible operation listed
  | post params =>
      rcases Option.map_eq_some_iff.mp called with ⟨operation, listed, rfl⟩
      exact responds.post params admissible operation listed

end Answering

/-! ## Sessions -/

section Sessions

variable (states : CollectionState elements) (views : Views elements) (ops : FloatOps elements)
    (checks : FloatChecks elements)
  (casts : NumberCasts elements)

/-- A tensor is asked back from the state which is made of it, and from no other. -/
structure CollectionState.Lawful : Prop where
  tensor : forall tensor, states.intoTensor (states.ofTensor tensor) = .ok tensor
  value : forall value tensor, states.intoTensor (states.ofValue value) ≠ .ok tensor
  tuple : forall values tensor, states.intoTensor (states.ofTuple values) ≠ .ok tensor

/-- The states which a caller comes by: those given, the literals of tensors which are
not too large, and the answers to requests which send only tensors come by before. -/
inductive Held (given : states.State -> Prop) : states.State -> Prop where
  | given {state : states.State} (here : given state) : Held given state
  | literal {key value : states.State} {tensor : Tensor elements}
    (made : tensorLiteral casts states key value = .ok tensor)
      (small : tensor.shape.prod < usize) : Held given (states.ofTensor tensor)
  | answer {state answer : states.State} {tensor : Tensor elements} {path : List String} {request : Request states}
      (held : Held given state) (read : states.intoTensor state = .ok tensor)
      (sent : forall sent right, request.Sends sent -> states.intoTensor sent = .ok right -> Held given sent)
      (modest : Modest states tensor path request)
      (responded : respond states views ops checks tensor path request = some (.ok answer)) : Held given answer

variable {states views ops checks casts}

theorem Answered.wellSized (lawful : states.Lawful) {state : states.State} (answered : Answered states state)
    {tensor : Tensor elements} (read : states.intoTensor state = .ok tensor) : tensor.WellSized := by
  cases answered with
  | tensor wellSized =>
      rw [lawful.tensor] at read
      cases read
      exact wellSized
  | value value => exact absurd read (lawful.value value tensor)
  | tuple values => exact absurd read (lawful.tuple values tensor)

/-- Every tensor which is come by has the right size. -/
theorem Held.wellSized (transposes : views.Transposes) (slices : views.Slices) (lawful : states.Lawful)
    {given : states.State -> Prop}
    (starts : forall state tensor, given state -> states.intoTensor state = .ok tensor -> tensor.WellSized)
    {state : states.State} (held : Held states views ops checks casts given state) {tensor : Tensor elements}
    (found : states.intoTensor state = .ok tensor) : tensor.WellSized := by
  induction held generalizing tensor with
  | given here => exact starts _ tensor here found
  | literal _ small =>
      rw [lawful.tensor] at found
      cases found
      exact Tensor.wellSized_iff.mpr small
  | answer _ read _ modest responded heldSized sentSized =>
      have admissible := Admissible.mk
        (fun sent right sends converted => sentSized sent right sends converted converted) modest
      have responds := respond_responds transposes slices (heldSized read) admissible responded
      exact Answered.wellSized lawful responds found

/-- In a session, every tensor has the right size, and a modest request which sends tensors
of the session is answered or refused. -/
theorem session_responds (transposes : views.Transposes) (slices : views.Slices) (lawful : states.Lawful)
    {given : states.State -> Prop}
    (starts : forall state tensor, given state -> states.intoTensor state = .ok tensor -> tensor.WellSized)
    {state : states.State} (held : Held states views ops checks casts given state) {tensor : Tensor elements}
    (found : states.intoTensor state = .ok tensor) : tensor.WellSized ∧
      forall (path : List String) (request : Request states) (result : Except (Failure TCError) states.State),
        (forall sent right, request.Sends sent -> states.intoTensor sent = .ok right ->
          Held states views ops checks casts given sent) ->
        Modest states tensor path request ->
        respond states views ops checks tensor path request = some result -> Responds result := by
  have wellSized := held.wellSized transposes slices lawful starts found
  refine ⟨wellSized, ?_⟩
  intro path request result sent modest responded
  refine respond_responds transposes slices wellSized ⟨?_, modest⟩ responded
  intro other right sends converted
  exact (sent other right sends converted).wellSized transposes slices lawful starts converted

end Sessions

theorem CollectionState.binary_lawful : CollectionState.binary.Lawful where
  tensor _ := rfl
  value _ _ := nofun
  tuple _ _ := nofun

/-- The parameters of a tensor which is added to itself. -/
def twiceParams : CollectionState.binary.Map := fun id =>
  if (show String from id) = "r" then some (Sent.tensor line) else none

theorem session_responds_line : line.WellSized ∧ exists result,
    respond CollectionState.binary (Views.gathered _) FloatOps.binary FloatChecks.binary line ["add"]
      (.post twiceParams) =
        some result ∧ Responds result := by
  let given : CollectionState.binary.State -> Prop := fun state => state = Sent.tensor line
  have starts : forall state tensor, given state -> CollectionState.binary.intoTensor state = .ok tensor ->
      tensor.WellSized := by
    rintro state tensor rfl read
    cases read
    exact rfl
  have held : Held CollectionState.binary (Views.gathered _) FloatOps.binary FloatChecks.binary NumberCasts.binary given
      (Sent.tensor line) := .given rfl
  have session := session_responds Views.gathered_transposes Views.gathered_slices CollectionState.binary_lawful
    starts held rfl
  refine ⟨session.1, _, rfl, session.2 ["add"] (.post twiceParams) _ ?_ ?_ rfl⟩
  · rintro sent right ⟨id, found⟩ _
    unfold twiceParams at found
    split at found
    · cases found
      exact held
    · cases found
  · refine ⟨?_, fun _ _ impossible => by cases impossible⟩
    intro shape asked
    generalize path : ["add"] = segments at asked
    cases asked with
    | reduce _ => simp at path
    | matmul _ _ => simp at path
    | combine _ read joined =>
        have same : CollectionState.binary.tensorParam twiceParams "r" = .ok line := rfl
        rw [same] at read
        cases read
        rw [show joinShape line.shape line.shape = some [3] by decide] at joined
        cases joined
        decide

end Tensors
end TransactionalCollection
