import TransactionalCollection.Tensors.Reading
import TransactionalCollection.Tensors.States
import TransactionalCollection.Tensors.Views

namespace TransactionalCollection
namespace Tensors

open Execution Native Numeric

/-!
# Slicing

A slice is asked for by a bound for each axis, which is an index or a range of which the
stop and the step may be left out.  What is asked for is checked against the axis before
a view is made, and the view is then made wherever `ha_ndarray` makes one.
-/

variable {elements : Elements}

/-- An error of a tensor is a bad request, and a panic stays one. -/
def badRequest : Failure String -> Failure TCError
  | .error message => .error (.badRequest message)
  | .panic panic => .panic panic

namespace CollectionState

variable (states : CollectionState elements)

/-! ## Bounds -/

def optionalUsize (context : String) (missing : Nat) : Option states.State -> Except TCError Nat
  | some state => states.stateUsize context state
  | none => .ok missing

/-- A range, of its start, its stop and its step. -/
def axisRangeFromParts (axis dim : Nat) : List states.State -> Except TCError AxisRange
  | [] => .error (.badRequest "tensor slice range must have 1 to 3 components")
  | first :: others =>
      if others.length > 2 then .error (.badRequest "tensor slice range must have 1 to 3 components")
      else do
        let start <- states.stateUsize "tensor slice start" first
        let stop <- states.optionalUsize "tensor slice stop" dim others[0]?
        let step <- states.optionalUsize "tensor slice step" 1 others[1]?
        if step = 0 ∨ start > stop ∨ stop > dim then
          .error (.badRequest s!"invalid tensor slice range for axis {axis}")
        else return .in_ start stop step

def tensorAxisRangeFromState (axis dim : Nat) (state : states.State) : Except TCError AxisRange :=
  match states.intoValue state with
  | .ok (.number number) => do
      let index <- states.numberToUsize "tensor slice index" number
      if index ≥ dim then
        .error (.badRequest s!"tensor slice index {index} is out of bounds for axis {axis} with dim {dim}")
      else return .at_ index
  | _ => do
      let parts <- states.intoTuple state
      states.axisRangeFromParts axis dim parts

def tensorRangeFromState (shape : List Nat) (bounds : states.State) : Except TCError (List AxisRange) := do
  let bounds <- states.intoTuple bounds
  if bounds.length ≠ shape.length then
    .error (.badRequest
      s!"tensor slice bounds rank {bounds.length} does not match tensor rank {shape.length}")
  else (bounds.zip shape).zipIdx.mapM (fun bound => states.tensorAxisRangeFromState bound.2 bound.1.2 bound.1.1)

def tensorState (tensor : Except (Failure String) (Tensor elements)) : Except (Failure TCError) states.State :=
  (tensor.map states.ofTensor).mapError badRequest

end CollectionState

def Tensor.slice (views : Views elements) (tensor : Tensor elements) (ranges : List AxisRange) :
    Except String (Tensor elements) :=
  match tensor with
  | .f32 array => ofView denseF32 (views.slice array ranges)
  | .f64 array => ofView denseF64 (views.slice array ranges)
  | .u64 array => ofView denseU64 (views.slice array ranges)

/-- `GET` to the tensor itself. -/
def CollectionState.getSlice (states : CollectionState elements) (views : Views elements) (tensor : Tensor elements)
    (key : states.State) : Except (Failure TCError) states.State := do
  let ranges <- (states.tensorRangeFromState tensor.shape key).mapError Failure.error
  states.tensorState ((tensor.slice views ranges).mapError Failure.error)

/-! ## What is asked for -/

namespace CollectionState

variable (states : CollectionState elements)

/-- A number which may be left out. -/
def IsOptional (missing : Nat) (state : Option states.State) (count : Nat) : Prop :=
  match state with
  | some state => states.IsCount state count
  | none => missing = count

/-- The start of a range, and its stop and its step unless they are left out. -/
structure IsRange (dim : Nat) (parts : List states.State) (start stop step : Nat) : Prop where
  listed : exists first others, parts = first :: others ∧ others.length ≤ 2 ∧ states.IsCount first start ∧
    states.IsOptional dim others[0]? stop ∧ states.IsOptional 1 others[1]? step
  valid : AxisRange.Valid dim (.in_ start stop step)

/-- The range of an axis which a bound stands for. -/
inductive IsAxisRange (dim : Nat) (state : states.State) : AxisRange -> Prop where
  | at_ {number : Number elements} {index : Nat} (read : states.IsNumber state number)
      (counts : states.Counts number index) (inside : index < dim) : IsAxisRange dim state (.at_ index)
  | in_ {parts : List states.State} {start stop step : Nat} (other : forall number, ¬ states.IsNumber state number)
      (read : states.intoTuple state = .ok parts) (range : states.IsRange dim parts start stop step) :
      IsAxisRange dim state (.in_ start stop step)

/-- The ranges which a key stands for, one for each axis. -/
def IsSlice (shape : List Nat) (key : states.State) (ranges : List AxisRange) : Prop :=
  exists bounds, states.intoTuple key = .ok bounds ∧ bounds.length = shape.length ∧
    List.Forall₂ (fun bound range => states.IsAxisRange bound.2 bound.1 range) (bounds.zip shape) ranges

variable {states}

theorem optionalUsize_parses (context : String) (missing : Nat) (state : Option states.State) :
    Parses (states.IsOptional missing state) states.Refusal (states.optionalUsize context missing state) := by
  cases state with
  | none => exact .ok missing
  | some state => exact stateUsize_parses context state

theorem isAxisRange_of_number {dim : Nat} {state : states.State} {number : Number elements}
    (read : states.IsNumber state number) {range : AxisRange} :
    states.IsAxisRange dim state range <-> exists index, states.Counts number index ∧ index < dim ∧
      .at_ index = range := by
  constructor
  · intro described
    cases described with
    | at_ other counts inside =>
        cases Value.number.inj (Except.ok.inj (read.symm.trans other))
        exact ⟨_, counts, inside, rfl⟩
    | in_ other _ _ => exact absurd read (other number)
  · rintro ⟨index, counts, inside, rfl⟩
    exact .at_ read counts inside

theorem isAxisRange_of_other {dim : Nat} {state : states.State} (other : forall number, ¬ states.IsNumber state number)
    {range : AxisRange} : states.IsAxisRange dim state range <-> exists parts, states.intoTuple state = .ok parts ∧
      exists start stop step, states.IsRange dim parts start stop step ∧ .in_ start stop step = range := by
  constructor
  · intro described
    cases described with
    | at_ read _ _ => exact absurd read (other _)
    | in_ _ read range => exact ⟨_, read, _, _, _, range, rfl⟩
  · rintro ⟨parts, read, start, stop, step, range, rfl⟩
    exact .in_ other read range

theorem axisRangeFromParts_parses (axis dim : Nat) (parts : List states.State) :
    Parses (fun range => exists start stop step, states.IsRange dim parts start stop step ∧
      .in_ start stop step = range) states.Refusal (states.axisRangeFromParts axis dim parts) := by
  cases parts with
  | nil =>
      apply Parses.failed (.request _)
      rintro range ⟨start, stop, step, described, rfl⟩
      rcases described.listed with ⟨first, others, impossible, _⟩
      cases impossible
  | cons first others =>
      apply Parses.ite
      · intro several
        apply Parses.failed (.request _)
        rintro range ⟨start, stop, step, described, rfl⟩
        rcases described.listed with ⟨_, _, same, few, _⟩
        cases same
        omega
      · intro few
        have last : forall start stop step, Parses (fun range => AxisRange.Valid dim (.in_ start stop step) ∧
            .in_ start stop step = range) states.Refusal
            (if step = 0 ∨ start > stop ∨ stop > dim then
              (.error (.badRequest s!"invalid tensor slice range for axis {axis}") : Except TCError AxisRange)
            else return .in_ start stop step) := by
          intro start stop step
          apply Parses.ite
          · intro invalid
            apply Parses.failed (.request _)
            rintro range ⟨⟨ordered, within, moves⟩, rfl⟩
            omega
          · intro valid
            apply (Parses.ok _).congr
            intro range
            have described : AxisRange.Valid dim (.in_ start stop step) := by
              unfold AxisRange.Valid
              omega
            exact (and_iff_right described).symm
        apply ((stateUsize_parses "tensor slice start" first).bind (fun start _ =>
          (optionalUsize_parses "tensor slice stop" dim others[0]?).bind (fun stop _ =>
            (optionalUsize_parses "tensor slice step" 1 others[1]?).bind (fun step _ =>
              last start stop step)))).congr
        intro range
        constructor
        · rintro ⟨start, isStart, stop, isStop, step, isStep, valid, rfl⟩
          exact ⟨start, stop, step, ⟨⟨first, others, rfl, Nat.le_of_not_lt few, isStart, isStop, isStep⟩, valid⟩, rfl⟩
        · rintro ⟨start, stop, step, described, rfl⟩
          rcases described.listed with ⟨_, _, same, _, isStart, isStop, isStep⟩
          cases same
          exact ⟨start, isStart, stop, isStop, step, isStep, described.valid, rfl⟩

theorem tensorAxisRangeFromState_parses (axis dim : Nat) (state : states.State) :
    Parses (states.IsAxisRange dim state) states.Refusal (states.tensorAxisRangeFromState axis dim state) := by
  unfold tensorAxisRangeFromState
  split
  · rename_i number read
    have inside : forall index, Parses (fun range => index < dim ∧ AxisRange.at_ index = range) states.Refusal
        (if index ≥ dim then
          .error (.badRequest s!"tensor slice index {index} is out of bounds for axis {axis} with dim {dim}")
        else return .at_ index) := by
      intro index
      apply Parses.ite
      · intro beyond
        apply Parses.failed (.request _)
        rintro range ⟨inside, rfl⟩
        omega
      · intro inside
        apply (Parses.ok _).congr
        intro range
        exact (and_iff_right (Nat.lt_of_not_le inside)).symm
    apply ((numberToUsize_parses "tensor slice index" number).bind (fun index _ => inside index)).congr
    intro range
    exact (isAxisRange_of_number read).symm
  · rename_i other
    apply ((intoTuple_parses state).bind (fun parts _ => axisRangeFromParts_parses axis dim parts)).congr
    intro range
    exact (isAxisRange_of_other other).symm

theorem tensorRangeFromState_parses (shape : List Nat) (key : states.State) :
    Parses (states.IsSlice shape key) states.Refusal (states.tensorRangeFromState shape key) := by
  apply (intoTuple_parses key).bind
  intro bounds _
  apply Parses.ite
  · intro different
    apply Parses.failed (.request _)
    intro ranges described
    exact different described.1
  · intro same
    apply (Parses.mapM (fun bound _ => tensorAxisRangeFromState_parses bound.2 bound.1.2 bound.1.1)).congr
    intro ranges
    rw [and_iff_right (not_not.mp same)]
    have fst : List.Forall₂ (fun bound range => states.IsAxisRange bound.2 bound.1 range)
        ((bounds.zip shape).zipIdx.map Prod.fst) ranges <-> _ := List.forall₂_map_left_iff
    rw [List.zipIdx_map_fst] at fst
    exact fst.symm

/-- What is asked for is within the shape. -/
theorem IsSlice.valid {shape : List Nat} {key : states.State} {ranges : List AxisRange}
    (described : states.IsSlice shape key ranges) : List.Forall₂ AxisRange.Valid shape ranges := by
  rcases described with ⟨bounds, _, same, listed⟩
  have valid : List.Forall₂ (fun bound range => AxisRange.Valid bound.2 range) (bounds.zip shape) ranges := by
    apply listed.imp
    intro bound range described
    cases described with
    | at_ _ _ inside => exact inside
    | in_ _ _ range => exact range.valid
  have snd : List.Forall₂ AxisRange.Valid ((bounds.zip shape).map Prod.snd) ranges <-> _ :=
    List.forall₂_map_left_iff
  rw [List.map_snd_zip (Nat.le_of_eq same.symm)] at snd
  exact snd.mpr valid

end CollectionState

/-! ## What is sliced -/

namespace Tensor

variable {views : Views elements} {tensor : Tensor elements} {ranges : List AxisRange}

/-- The ranges of a tensor, with the elements which they select. -/
abbrev Sliced (tensor : Tensor elements) (views : Views elements) (ranges : List AxisRange)
    (result : Tensor elements) : Prop :=
  tensor.Shows (AxisRange.dims views.positions ranges) (AxisRange.source ranges) result

theorem Kind.sliced {A : Type} {wrap : ArrayBuf elements A -> Tensor elements} {component : A -> Component elements}
    (kind : Kind wrap component) {array : ArrayBuf elements A} (slices : views.Slices)
    (wellSized : (wrap array).WellSized)
    (selects : AxisRange.Selects array.shape ranges) : exists result,
      ofView (fun shape values => (ArrayBuf.new values shape).map wrap)
        (views.slice array ranges) = .ok result ∧ (wrap array).Sliced views ranges result := by
  have small := wellSized.prod_lt
  rw [kind.shape] at small
  have viewSmall := Nat.lt_of_le_of_lt (AxisRange.prod_dims_le slices.positions_inside selects.valid) small
  have ranked : AxisRange.dims views.positions ranges = [] -> array.shape = [] :=
    fun scalar => absurd scalar (AxisRange.dims_ne_nil views.positions selects.keeps)
  rcases slices.selects array ranges small selects with ⟨values, viewed, length, placed⟩
  rcases kind.ofView_shows wellSized ranked length viewSmall
    (fun _ => AxisRange.within_source slices.positions_inside selects.valid) placed with ⟨result, made, shows⟩
  rw [viewed]
  exact ⟨result, made, shows⟩

/-- Of ranges which select an axis or more, a slice is made. -/
theorem slice_of_selects (slices : views.Slices) (wellSized : tensor.WellSized)
    (selects : AxisRange.Selects tensor.shape ranges) : exists result,
      tensor.slice views ranges = .ok result ∧ tensor.Sliced views ranges result := by
  cases tensor with
  | f32 array => exact Kind.f32.sliced slices wellSized selects
  | f64 array => exact Kind.f64.sliced slices wellSized selects
  | u64 array => exact Kind.u64.sliced slices wellSized selects

end Tensor

/-! ## Whole axes -/

namespace AxisRange

/-- The whole of each axis. -/
def whole (shape : List Nat) : List AxisRange := shape.map (fun dim => in_ 0 dim 1)

theorem selects_whole {shape : List Nat} (nonzero : 0 ∉ shape) (ranked : shape ≠ []) :
    Selects shape (whole shape) := by
  refine ⟨?_, ?_, ?_⟩
  · rw [whole, List.forall₂_map_right_iff, List.forall₂_same]
    intro dim _
    exact ⟨Nat.zero_le _, Nat.le_refl _, Nat.one_ne_zero⟩
  · rw [whole, List.forall₂_map_right_iff, List.forall₂_same]
    intro dim member
    exact Nat.pos_of_ne_zero (fun zero => nonzero (zero ▸ member))
  · rcases List.exists_mem_of_ne_nil shape ranked with ⟨dim, member⟩
    exact ⟨_, List.mem_map_of_mem member, rfl⟩

theorem dims_whole {views : Views elements} (slices : views.Slices) (shape : List Nat) :
    dims views.positions (whole shape) = shape := by
  induction shape with
  | nil => rfl
  | cons dim shape inductionHypothesis =>
      have one : views.positions 0 dim 1 = dim := slices.positions_one (Nat.zero_le dim)
      change views.positions 0 dim 1 :: dims views.positions (whole shape) = _
      rw [one, inductionHypothesis]

theorem source_whole {shape coord : List Nat} (within : Within shape coord) : source (whole shape) coord = coord := by
  induction within with
  | nil => rfl
  | @cons component dim coord shape below rest inductionHypothesis =>
      change (0 + component * 1) :: source (whole shape) coord = _
      rw [inductionHypothesis, Nat.mul_one, Nat.zero_add]

end AxisRange

section Requests

variable {states : CollectionState elements} {views : Views elements} {tensor : Tensor elements}

/-- A key which has one range for each axis is sliced as `ha_ndarray` slices it: where a
slice is made, the answer has the elements which it selects, and is the tensor itself for
whole axes; any other key is refused. -/
structure SliceDecides (states : CollectionState elements) (views : Views elements) (tensor : Tensor elements)
    (key : states.State) : Prop where
  passes : forall ranges, states.IsSlice tensor.shape key ranges ->
    states.getSlice views tensor key = states.tensorState ((tensor.slice views ranges).mapError Failure.error)
  answers : forall ranges, states.IsSlice tensor.shape key ranges -> AxisRange.Selects tensor.shape ranges ->
    exists result, states.getSlice views tensor key = .ok (states.ofTensor result) ∧ tensor.Sliced views ranges result
  whole : states.IsSlice tensor.shape key (AxisRange.whole tensor.shape) -> 0 ∉ tensor.shape -> tensor.shape ≠ [] ->
    states.getSlice views tensor key = .ok (states.ofTensor tensor)
  refuses : (forall ranges, ¬ states.IsSlice tensor.shape key ranges) -> exists error,
    states.getSlice views tensor key = .error (.error error) ∧ states.Refusal error

theorem getSlice_of_isSlice {key : states.State} {ranges : List AxisRange}
    (described : states.IsSlice tensor.shape key ranges) :
    states.getSlice views tensor key = states.tensorState ((tensor.slice views ranges).mapError Failure.error) := by
  have read := (CollectionState.tensorRangeFromState_parses tensor.shape key).exists_ok described
  rw [CollectionState.getSlice, read]
  rfl

theorem getSlice_of_selects (slices : views.Slices) (wellSized : tensor.WellSized) {key : states.State}
    {ranges : List AxisRange} (described : states.IsSlice tensor.shape key ranges)
    (selects : AxisRange.Selects tensor.shape ranges) : exists result,
      states.getSlice views tensor key = .ok (states.ofTensor result) ∧ tensor.Sliced views ranges result := by
  rcases Tensor.slice_of_selects slices wellSized selects with ⟨result, sliced, shows⟩
  refine ⟨result, ?_, shows⟩
  rw [getSlice_of_isSlice described, sliced]
  rfl

theorem getSlice_decides (slices : views.Slices) (wellSized : tensor.WellSized) (key : states.State) :
    SliceDecides states views tensor key where
  passes ranges described := getSlice_of_isSlice described
  answers ranges described selects := getSlice_of_selects slices wellSized described selects
  whole described nonzero ranked := by
    rcases getSlice_of_selects slices wellSized described (AxisRange.selects_whole nonzero ranked) with
      ⟨result, done, shows⟩
    rw [done]
    congr 2
    have shaped := shows.shaped
    rw [AxisRange.dims_whole slices] at shaped
    apply Tensor.eq_of_reads shows.wellSized wellSized shows.dtype shaped
    intro coord within
    rw [shaped] at within
    rw [shows.value coord (by rwa [AxisRange.dims_whole slices]), AxisRange.source_whole within]
  refuses missing := by
    rcases (CollectionState.tensorRangeFromState_parses tensor.shape key).refuses missing with
      ⟨error, refused, allowed⟩
    refine ⟨error, ?_, allowed⟩
    rw [CollectionState.getSlice, refused]
    rfl

end Requests

/-- The key of all elements but the first. -/
def fromSecond : CollectionState.binary.State := Sent.tuple [.tuple [.value (.number (.uint 1))]]

theorem getSlice_decides_line : SliceDecides CollectionState.binary (Views.gathered _) line fromSecond ∧
    exists result, CollectionState.binary.getSlice (Views.gathered _) line fromSecond = .ok (.tensor result) ∧
      result.shape = [2] ∧ result.readValue [1] = .ok (.u64 7) := by
  have decides : SliceDecides CollectionState.binary (Views.gathered _) line fromSecond :=
    getSlice_decides Views.gathered_slices (show line.WellSized from rfl) fromSecond
  have counts : CollectionState.binary.IsCount (.value (.number (.uint 1))) 1 :=
    ⟨.uint 1, rfl, by decide, by decide⟩
  have range : CollectionState.binary.IsRange 3 [.value (.number (.uint 1))] 1 3 1 :=
    ⟨⟨_, [], rfl, by decide, counts, rfl, rfl⟩, by decide, by decide, by decide⟩
  have other : forall number, ¬ CollectionState.binary.IsNumber (.tuple [.value (.number (.uint 1))]) number :=
    fun _ impossible => by cases impossible
  have described : CollectionState.binary.IsSlice line.shape fromSecond [.in_ 1 3 1] :=
    ⟨_, rfl, rfl, .cons (.in_ other rfl range) .nil⟩
  rcases decides.answers _ described (by decide) with ⟨result, done, shows⟩
  refine ⟨decides, result, done, shows.shaped, ?_⟩
  exact shows.value [1] (.cons (by decide) .nil)

end Tensors
end TransactionalCollection
