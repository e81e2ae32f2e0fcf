import TransactionalCollection.Tensors.Reading
import TransactionalCollection.Tensors.Views

namespace TransactionalCollection
namespace Tensors

open Execution Native Numeric

/-!
# Transposing

A permutation of the axes is checked twice, by the operation on tensors and by the one
behind it, with texts of their own.  Both accept exactly the orders of all axes, so that
the second check never fails, and neither does anything after it.
-/

variable {E : Type} {elements : Elements}

/-! ## Permutations -/

/-- The loop over the axes, beside those which have been seen. -/
def checkAxes (rank : Nat) (outOfRange repeated : E) : List Bool -> List Nat -> Except (Failure E) Unit
  | _, [] => .ok ()
  | seen, axis :: axes =>
      if axis ≥ rank then .error (.error outOfRange)
      else do
        let before <- indexed seen axis
        if before then .error (.error repeated)
        else checkAxes rank outOfRange repeated (seen.set axis true) axes

def checkPermutation (wrongLength outOfRange repeated : E) (rank : Nat) (permutation : List Nat) :
    Except (Failure E) Unit :=
  if permutation.length ≠ rank then .error (.error wrongLength)
  else checkAxes rank outOfRange repeated (List.replicate rank false) permutation

def invalidPermutation (rank : Nat) (permutation : List Nat) (reason : String) : TensorOpError :=
  .invalidPermutation rank permutation reason

def validatePermutation (rank : Nat) (permutation : List Nat) : Except (Failure TensorOpError) Unit :=
  checkPermutation (invalidPermutation rank permutation "length must match input rank")
    (invalidPermutation rank permutation "axis out of range")
    (invalidPermutation rank permutation "axis appears more than once") rank permutation

def transposeOutputShape (inputShape permutation : List Nat) : Except (Failure TensorOpError) (List Nat) := do
  validatePermutation inputShape.length permutation
  permutation.mapM (indexed inputShape)

/-! ## Tensors -/

/-- The axes given, or all of them from the last. -/
def Tensor.transposeAxes (rank : Nat) : Option (List Nat) -> Except (Failure String) (List Nat)
  | some permutation => do
      checkPermutation "transpose permutation rank must match tensor rank" "transpose axis out of bounds"
        "transpose permutation contains duplicate axis" rank permutation
      return permutation
  | none => return (List.range rank).reverse

def Tensor.transpose (views : Views elements) (tensor : Tensor elements) (permutation : Option (List Nat)) :
    Except (Failure String) (Tensor elements) := do
  let permutation <- transposeAxes tensor.shape.length permutation
  let transposed := match tensor with
    | .f32 array => ofView denseF32 (views.transpose array permutation)
    | .f64 array => ofView denseF64 (views.transpose array permutation)
    | .u64 array => ofView denseU64 (views.transpose array permutation)
  transposed.mapError Failure.error

/-- An error becomes another, and a panic stays one. -/
def executionFailed (rank : Nat) (permutation : List Nat) : Failure String -> Failure TensorOpError
  | .error _ => .error (invalidPermutation rank permutation "execution failed")
  | .panic panic => .panic panic

/-- With the assertion of a debug build. -/
def tensorTranspose (views : Views elements) (input : Tensor elements) (permutation : List Nat) :
    Except (Failure TensorOpError) (Tensor elements) := do
  let outputShape <- transposeOutputShape input.shape permutation
  let result <- (input.transpose views (some permutation)).mapError
    (executionFailed input.shape.length permutation)
  if result.shape ≠ outputShape then
    .error (.panic ⟨s!"assertion `left == right` failed: {result.shape} and {outputShape}"⟩)
  else return result

/-! ## What is accepted -/

section Checks

variable (wrongLength outOfRange repeated : E) (rank : Nat) (axes : List Nat)

/-- Distinct axes in range. -/
def Sound (rank : Nat) (axes : List Nat) : Prop :=
  axes.Nodup ∧ forall axis, axis ∈ axes -> axis < rank

theorem sound_concat_iff {rank axis : Nat} {axes : List Nat} :
    Sound rank (axes ++ [axis]) <-> Sound rank axes ∧ axis < rank ∧ axis ∉ axes := by
  unfold Sound
  rw [← List.concat_eq_append, List.nodup_concat]
  simp only [List.concat_eq_append, List.mem_append, List.mem_singleton]
  constructor
  · rintro ⟨⟨fresh, distinct⟩, inside⟩
    exact ⟨⟨distinct, fun other member => inside other (Or.inl member)⟩, inside axis (Or.inr rfl), fresh⟩
  · rintro ⟨⟨distinct, inside⟩, below, fresh⟩
    refine ⟨⟨fresh, distinct⟩, ?_⟩
    rintro other (member | rfl)
    · exact inside other member
    · exact below

/-- The first thing which is wrong with axes: their number, or else the first axis after
sound ones which is out of range or one of these. -/
inductive Fault : E -> Prop where
  | length (different : axes.length ≠ rank) : Fault wrongLength
  | range (before after : List Nat) (axis : Nat) (same : axes.length = rank)
      (split : axes = before ++ axis :: after) (sound : Sound rank before) (beyond : rank ≤ axis) : Fault outOfRange
  | again (before after : List Nat) (axis : Nat) (same : axes.length = rank)
      (split : axes = before ++ axis :: after) (sound : Sound rank before) (member : axis ∈ before) : Fault repeated

/-- What has a fault is no order of all axes. -/
theorem Fault.not_orders {fault : E} (found : Fault wrongLength outOfRange repeated rank axes fault) :
    ¬ Orders axes rank := by
  intro orders
  cases found with
  | length different => exact different orders.length_eq
  | range before after axis same split sound beyond =>
      have member : axis ∈ axes := split ▸ List.mem_append_right before List.mem_cons_self
      exact absurd (orders.mem_iff.mp member) (Nat.not_lt.mpr beyond)
  | again before after axis same split sound member =>
      have distinct := orders.nodup
      rw [split] at distinct
      exact (List.nodup_append.mp distinct).2.2 axis member axis List.mem_cons_self rfl

/-- The loop, after sound axes which are marked as seen: it accepts what stays sound, and
reports the first axis which does not. -/
theorem checkAxes_decides {seen : List Bool} {before : List Nat} (sound : Sound rank before)
    (width : seen.length = rank) (marked : forall axis, axis < rank -> seen[axis]? = some (decide (axis ∈ before))) :
    (Sound rank (before ++ axes) ∧ checkAxes rank outOfRange repeated seen axes = .ok ()) ∨
      exists middle axis after, axes = middle ++ axis :: after ∧ Sound rank (before ++ middle) ∧
        ((rank ≤ axis ∧ checkAxes rank outOfRange repeated seen axes = .error (.error outOfRange)) ∨
          (axis ∈ before ++ middle ∧ checkAxes rank outOfRange repeated seen axes = .error (.error repeated))) := by
  induction axes generalizing before seen with
  | nil =>
      rw [List.append_nil]
      exact Or.inl ⟨sound, rfl⟩
  | cons axis axes inductionHypothesis =>
      rw [checkAxes]
      by_cases outside : axis ≥ rank
      · rw [if_pos outside]
        exact Or.inr ⟨[], axis, axes, rfl, (List.append_nil before).symm ▸ sound, Or.inl ⟨outside, rfl⟩⟩
      · rw [if_neg outside]
        have inside : axis < rank := Nat.lt_of_not_le outside
        rw [indexed_eq_ok.mpr (marked axis inside), except_ok_bind]
        by_cases member : axis ∈ before
        · rw [if_pos (decide_eq_true member)]
          exact Or.inr ⟨[], axis, axes, rfl, (List.append_nil before).symm ▸ sound,
            Or.inr ⟨List.mem_append_left [] member, rfl⟩⟩
        · rw [if_neg (by simpa using member)]
          have grown := sound_concat_iff.mpr ⟨sound, inside, member⟩
          have kept : (seen.set axis true).length = rank := by rwa [List.length_set]
          have remarked : forall other, other < rank ->
              (seen.set axis true)[other]? = some (decide (other ∈ before ++ [axis])) := by
            intro other below
            by_cases same : axis = other
            · subst same
              rw [List.getElem?_set_self (by omega)]
              simp
            · rw [List.getElem?_set_ne same, marked other below]
              simp [Ne.symm same]
          have shift : forall rest, before ++ [axis] ++ rest = before ++ axis :: rest :=
            fun rest => List.append_cons before axis rest |>.symm
          rcases inductionHypothesis grown kept remarked with
            ⟨later, passed⟩ | ⟨middle, other, after, split, later, faults⟩
          · exact Or.inl ⟨shift axes ▸ later, passed⟩
          · rw [shift] at later faults
            exact Or.inr ⟨axis :: middle, other, after, congrArg (List.cons axis) split, later, faults⟩

/-- Exactly the orders of all axes are accepted, and the first fault is reported. -/
theorem checkPermutation_decides :
    (Orders axes rank ∧ checkPermutation wrongLength outOfRange repeated rank axes = .ok ()) ∨
      exists fault, Fault wrongLength outOfRange repeated rank axes fault ∧
        checkPermutation wrongLength outOfRange repeated rank axes = .error (.error fault) := by
  unfold checkPermutation
  by_cases length : axes.length = rank
  · rw [if_neg (not_not_intro length)]
    have unmarked : forall axis, axis < rank -> (List.replicate rank false)[axis]? = some (decide (axis ∈ [])) := by
      intro axis inside
      rw [List.getElem?_replicate_of_lt inside]
      rfl
    have nothing : Sound rank [] := ⟨List.nodup_nil, fun _ impossible => by cases impossible⟩
    rcases checkAxes_decides outOfRange repeated rank axes nothing List.length_replicate unmarked with
      ⟨⟨distinct, inside⟩, passed⟩ | ⟨before, axis, after, split, sound, ⟨beyond, refused⟩ | ⟨member, refused⟩⟩
    · exact Or.inl ⟨Orders.of_nodup distinct inside length, passed⟩
    · exact Or.inr ⟨_, .range before after axis length split sound beyond, refused⟩
    · exact Or.inr ⟨_, .again before after axis length split sound member, refused⟩
  · rw [if_pos length]
    exact Or.inr ⟨_, .length length, rfl⟩

end Checks

/-! ## What is transposed -/

section Results

variable {views : Views elements} {tensor : Tensor elements} {axes : List Nat}

/-- The dimensions in another order, and the elements with them. -/
abbrev Tensor.Transposed (tensor : Tensor elements) (axes : List Nat) (result : Tensor elements) : Prop :=
  tensor.Shows (pick tensor.shape axes) (fun coord => pick coord (inverse axes)) result

/-- What a view of an array shows of it at its own coordinates. -/
theorem transpose_selects {A : Type} {array : ArrayBuf elements A} {values : List A}
    (orders : Orders axes array.shape.length)
    (moves : forall coord, Within array.shape coord ->
      values[value (places (pick array.shape axes) (pick coord axes))]? = array.at? coord) :
    forall coord, Within (pick array.shape axes) coord ->
      values[value (places (pick array.shape axes) coord)]? = array.at? (pick coord (inverse axes)) := by
  intro coord within
  have length : coord.length = array.shape.length := within.length_eq.trans orders.length_pick
  have moved := moves _ (within_inverse orders within)
  rwa [pick_back_and_there (length.symm ▸ orders)] at moved

theorem Tensor.Kind.transposed {A : Type} {wrap : ArrayBuf elements A -> Tensor elements}
    {component : A -> Component elements} (kind : Kind wrap component) {array : ArrayBuf elements A}
    (transposes : views.Transposes) (wellSized : (wrap array).WellSized)
    (orders : Orders axes array.shape.length) : exists result,
      (ofView (fun shape values => (ArrayBuf.new values shape).map wrap)
        (views.transpose array axes)).mapError Failure.error = (.ok result : Except (Failure String) _) ∧
        (wrap array).Shows (pick array.shape axes) (fun coord => pick coord (inverse axes)) result := by
  have small := wellSized.prod_lt
  rw [kind.shape] at small
  have viewSmall : (pick array.shape axes).prod < usize := by
    rwa [orders.pick_perm.prod_eq]
  rcases transposes array axes small orders with ⟨values, viewed, length, moves⟩
  have ranked : pick array.shape axes = [] -> array.shape = [] := by
    intro scalar
    apply List.eq_nil_of_length_eq_zero
    rw [← orders.length_pick, scalar, List.length_nil]
  rcases kind.ofView_shows wellSized ranked length viewSmall (fun _ => within_inverse orders)
    (transpose_selects orders moves) with ⟨result, made, shows⟩
  refine ⟨result, ?_, shows⟩
  rw [viewed, made]
  rfl

/-- The tensor of each type is transposed. -/
theorem Tensor.transpose_of_axes (transposes : views.Transposes) (wellSized : tensor.WellSized)
    {permutation : Option (List Nat)} (accepted : transposeAxes tensor.shape.length permutation = .ok axes)
    (orders : Orders axes tensor.shape.length) : exists result,
      tensor.transpose views permutation = .ok result ∧ tensor.Transposed axes result := by
  unfold Tensor.transpose
  rw [accepted, except_ok_bind]
  cases tensor with
  | f32 array => exact Kind.f32.transposed transposes wellSized orders
  | f64 array => exact Kind.f64.transposed transposes wellSized orders
  | u64 array => exact Kind.u64.transposed transposes wellSized orders

theorem mapM_indexed {positions : List Nat} {items : List Nat}
    (inside : forall position, position ∈ positions -> position < items.length) :
    positions.mapM (indexed items : Nat -> Except (Failure E) Nat) = .ok (pick items positions) := by
  induction positions with
  | nil => rfl
  | cons position positions inductionHypothesis =>
      rw [List.forall_mem_cons] at inside
      have found := List.getElem?_eq_getElem inside.1
      rw [List.mapM_cons, indexed_eq_ok.mpr found, inductionHypothesis inside.2, pick_cons found]
      rfl

theorem Tensor.transposeAxes_of_orders {rank : Nat} (orders : Orders axes rank) :
    transposeAxes rank (some axes) = .ok axes := by
  rcases checkPermutation_decides "transpose permutation rank must match tensor rank"
    "transpose axis out of bounds" "transpose permutation contains duplicate axis" rank axes with
    ⟨_, passed⟩ | ⟨_, found, _⟩
  · rw [transposeAxes, passed]
    rfl
  · exact absurd orders found.not_orders

/-- Exactly the orders of all axes are transposed, as the tensor's own operation does,
and of anything else the first fault is reported. -/
structure TransposeDecides (views : Views elements) (tensor : Tensor elements) (axes : List Nat) : Prop where
  accepts : Orders axes tensor.shape.length -> exists result, tensorTranspose views tensor axes = .ok result ∧
    tensor.transpose views (some axes) = .ok result ∧
    transposeOutputShape tensor.shape axes = .ok result.shape ∧ tensor.Transposed axes result
  refuses : ¬ Orders axes tensor.shape.length -> exists reason,
    tensorTranspose views tensor axes = .error (.error (.invalidPermutation tensor.shape.length axes reason)) ∧
      Fault "length must match input rank" "axis out of range" "axis appears more than once"
        tensor.shape.length axes reason

theorem tensorTranspose_decides (transposes : views.Transposes) (wellSized : tensor.WellSized) (axes : List Nat) :
    TransposeDecides views tensor axes := by
  have decides := checkPermutation_decides
    (invalidPermutation tensor.shape.length axes "length must match input rank")
    (invalidPermutation tensor.shape.length axes "axis out of range")
    (invalidPermutation tensor.shape.length axes "axis appears more than once") tensor.shape.length axes
  constructor
  · intro orders
    rcases decides with ⟨_, passed⟩ | ⟨_, found, _⟩
    · have shaped : transposeOutputShape tensor.shape axes = .ok (pick tensor.shape axes) := by
        rw [transposeOutputShape, validatePermutation, passed]
        exact mapM_indexed orders.inside
      rcases Tensor.transpose_of_axes transposes wellSized (Tensor.transposeAxes_of_orders orders) orders with
        ⟨result, done, transposed⟩
      refine ⟨result, ?_, done, transposed.shaped ▸ shaped, transposed⟩
      rw [tensorTranspose, shaped, except_ok_bind, done]
      exact if_neg (not_not_intro transposed.shaped)
    · exact absurd orders found.not_orders
  · intro refused
    rcases decides with ⟨orders, _⟩ | ⟨error, fault, failed⟩
    · exact absurd orders refused
    · have stopped : tensorTranspose views tensor axes = .error (.error error) := by
        rw [tensorTranspose, transposeOutputShape, validatePermutation, failed]
        rfl
      cases fault with
      | length different => exact ⟨_, stopped, .length different⟩
      | range before after axis same split sound beyond =>
          exact ⟨_, stopped, .range before after axis same split sound beyond⟩
      | again before after axis same split sound member =>
          exact ⟨_, stopped, .again before after axis same split sound member⟩

/-- What is shown determines the tensor. -/
theorem Tensor.Shows.unique {shape : List Nat} {source : List Nat -> List Nat} {left right : Tensor elements}
    (first : tensor.Shows shape source left) (second : tensor.Shows shape source right) : left = right := by
  apply eq_of_reads first.wellSized second.wellSized
  · rw [first.dtype, second.dtype]
  · rw [first.shaped, second.shaped]
  · intro coord within
    rw [first.shaped] at within
    rw [first.value coord within, second.value coord within]

end Results

theorem sixCells_built : Elements.rational.arrayError [2, 3] 6 = none := by decide +kernel

/-- Two rows of three integers. -/
def sixCells : Tensor Elements.rational := .u64 ⟨[2, 3], [1, 2, 3, 4, 5, 6], sixCells_built⟩

theorem tensorTranspose_decides_sixCells : TransposeDecides (Views.gathered _) sixCells [1, 0] ∧
    exists result, tensorTranspose (Views.gathered _) sixCells [1, 0] = .ok result ∧ result.shape = [3, 2] ∧
      result.readValue [2, 1] = .ok (.u64 6) ∧ result.readValue [1, 0] = .ok (.u64 2) := by
  have decides : TransposeDecides (Views.gathered _) sixCells [1, 0] :=
    tensorTranspose_decides Views.gathered_transposes (show sixCells.WellSized from rfl) [1, 0]
  rcases decides.accepts (by decide) with ⟨result, done, _, _, transposed⟩
  refine ⟨decides, result, done, transposed.shaped, ?_, ?_⟩
  · exact transposed.value [2, 1] (.cons (by decide) (.cons (by decide) .nil))
  · exact transposed.value [1, 0] (.cons (by decide) (.cons (by decide) .nil))

end Tensors
end TransactionalCollection
