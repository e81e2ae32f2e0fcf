import TransactionalCollection.BTree.Lifecycle
import TransactionalCollection.Collection.Slices

namespace TransactionalCollection
namespace Collection

open Native Execution Persistence Streaming

/-!
# The read routes of a tree view

A route is sent a state, which is absent, a value, or a map with the bounds of a
slice.  Counting and testing for emptiness slice the view first.  The contains
route asks the tree itself, so it finds visible keys beyond the bounds of the
view as well.
-/

variable {S : Signature} {forms : ValueForms S} {native : Tree.BTreeSchema S}

/-- `CollectionState`, as far as the routes of a tree convert it. -/
structure CollectionState (forms : ValueForms S) where
  State : Type
  isNone : State -> Bool
  intoValue : State -> Except TCError S.Value
  /-- The entries of a map, by the texts of their names. -/
  intoMap : State -> Except TCError (String -> Option State)
  /-- `Number::cast_into`, to a boolean. -/
  castBool : forms.Number -> Bool

namespace CollectionState

variable (states : CollectionState forms)

def boundFromMap (map : String -> Option states.State) (name : String) (bound : S.Value -> Bound S.Value) :
    Except TCError (Bound S.Value) :=
  match map name with
  | some state => if states.isNone state then .ok .unbounded else (states.intoValue state).map bound
  | none => .ok .unbounded

def reverseFromMap (map : String -> Option states.State) : Except TCError Bool :=
  match map "reverse" with
  | none => .ok false
  | some state => do
      let value <- states.intoValue state
      match forms.form value with
      | .number number => .ok (states.castBool number)
      | _ => .error (.badRequest s!"expected BTree reverse boolean, found {S.debugValue value}")

def sliceBoundsFromState (key : states.State) : Except TCError (Bounds S × Bool) := do
  let map <- states.intoMap key
  let start <- states.boundFromMap map "start" .included
  let stop <- states.boundFromMap map "end" .excluded
  let reverse <- states.reverseFromMap map
  return ((start, stop), reverse)

end CollectionState

namespace BTreeView

variable (states : CollectionState forms)

/-! ## Routes -/

/-- The view itself, or the slice of it which the key describes. -/
def sliceFromKey (key : states.State) (view : BTreeView forms native) :
    Except TCError (BTreeView forms native) :=
  if states.isNone key then .ok view
  else (states.sliceBoundsFromState key).map (fun slice => view.slice slice.1 slice.2)

/-- `GET` from the contains route. -/
def containsRoute (txn : TxnId) (key : S.Value) : EStateM TCError (BTreeView forms native) Bool := fun view =>
  match rowFromState forms key with
  | .error error => .error error view
  | .ok row =>
      let outcome := Tree.containsRow txn row view.btree
      .ok outcome.1 (view.withTree outcome.2)

/-- `GET` from the count route. -/
def countRoute (collate : StreamOps) (txn : TxnId) (key : states.State) :
    EStateM TCError (BTreeView forms native) Nat := fun view =>
  match view.sliceFromKey states key with
  | .error error => .error error view
  | .ok sliced =>
      let outcome := sliced.count collate txn
      .ok outcome.1 (view.withTree outcome.2)

/-- `GET` from the route which tests for emptiness. -/
def isEmptyRoute (collate : StreamOps) (txn : TxnId) (key : states.State) :
    EStateM TCError (BTreeView forms native) Bool := fun view =>
  match view.sliceFromKey states key with
  | .error error => .error error view
  | .ok sliced => .ok (sliced.isEmpty collate txn) view

/-- A request is answered with a value. -/
def Answers {A : Type} (request : EStateM TCError (BTreeView forms native) A) (view : BTreeView forms native)
    (answer : A) : Prop :=
  exists after, request view = .ok answer after

/-! ## What the routes answer -/

section Answers

variable {states} {collate : StreamOps} {txn : TxnId} {view : BTreeView forms native}

theorem answers_contains {key : Key S} {found : Bool} :
    Answers (containsRoute txn (forms.tuple key)) view found <->
      Tree.isRowVisible (view.btree.state.visibleSnapshot txn) key = found := by
  have answered : containsRoute txn (forms.tuple key) view =
      .ok (Tree.containsRow txn key view.btree).1 (view.withTree (Tree.containsRow txn key view.btree).2) := by
    rw [containsRoute, rowFromState, forms.form_tuple]
  constructor
  · intro answers
    rcases answers with ⟨after, same⟩
    cases answered.symm.trans same
    rfl
  · intro visible
    rw [← visible]
    exact ⟨_, answered⟩

/-- Counting a slice answers what counting the sliced view does. -/
theorem answers_count {key : states.State} {sliced : BTreeView forms native}
    (slices : view.sliceFromKey states key = .ok sliced) :
    Answers (countRoute states collate txn key) view (sliced.keys collate txn).1.length := by
  rw [← count_eq]
  exact ⟨view.withTree (sliced.count collate txn).2, by rw [countRoute, slices]⟩

theorem answers_isEmpty {key : states.State} {sliced : BTreeView forms native}
    (slices : view.sliceFromKey states key = .ok sliced) :
    Answers (isEmptyRoute states collate txn key) view (sliced.keys collate txn).1.isEmpty := by
  rw [← isEmpty_eq]
  exact ⟨view, by rw [isEmptyRoute, slices]⟩

end Answers

/-- The contains route finds a key if and only if it is streamed; and where it
finds one, the view is not empty and counts at least one key. -/
def RoutesAgree (collate : StreamOps) (txn : TxnId) (view : BTreeView forms native) (key : Key S) : Prop :=
  (Answers (containsRoute txn (forms.tuple key)) view true <-> key ∈ (view.keys collate txn).1) ∧
    (Answers (containsRoute txn (forms.tuple key)) view true -> forall absent, states.isNone absent = true ->
      Answers (isEmptyRoute states collate txn absent) view false ∧
        exists count, 1 ≤ count ∧ Answers (countRoute states collate txn absent) view count)

theorem routesAgree_iff_found {collate : StreamOps} {txn : TxnId} {view : BTreeView forms native}
    {key : Key S} :
    RoutesAgree states collate txn view key <->
      (Answers (containsRoute txn (forms.tuple key)) view true <-> key ∈ (view.keys collate txn).1) := by
  constructor
  · exact And.left
  · intro agrees
    refine ⟨agrees, ?_⟩
    intro found absent none
    have streamed := agrees.mp found
    have whole : view.sliceFromKey states absent = .ok view := if_pos none
    constructor
    · have answered : Answers (isEmptyRoute states collate txn absent) view
        (view.keys collate txn).1.isEmpty :=
        answers_isEmpty whole
      rwa [List.isEmpty_eq_false_iff_exists_mem.mpr ⟨key, streamed⟩] at answered
    · exact ⟨_, List.length_pos_of_mem streamed, answers_count whole⟩

/-- The routes of a sliced view agree on a key if and only if the key is within
all of the slices, or not visible. -/
theorem sliced_routesAgree_iff (collate : StreamOps) (txn : TxnId)
    (schema : List (Tree.BTreeColumnSchema forms))
    (btree : Tree.BTree native) (chain : List (Bounds S × Bool)) (key : Key S) :
    RoutesAgree states collate txn ((new schema btree).sliced chain) key <->
      WithinAll chain key ∨ btree.state.view txn key = none := by
  rw [routesAgree_iff_found, answers_contains, mem_keys_sliced, Shown, sliced_btree, new,
    Tree.isRowVisible_iff]
  change (btree.state.view txn key = some () <-> btree.state.view txn key = some () ∧ _) <-> _
  cases btree.state.view txn key with
  | none => simp
  | some value => simp

/-! ## A key beyond the bounds -/

/-- A value, or a map of values. -/
inductive PlainState (S : Signature) where
  | value (value : S.Value)
  | map (entries : List (String × S.Value))

/-- Plain states over the concrete vocabulary. -/
def plainStates : CollectionState ValueForms.data where
  State := PlainState Signature.data
  isNone
    | .value Datum.none => true
    | .value _ | .map _ => false
  intoValue
    | .value value => .ok value
    | .map _ => .error (.badRequest "expected a value")
  intoMap
    | .value _ => .error (.badRequest "expected a map")
    | .map entries => .ok (fun name => (entries.lookup name).map PlainState.value)
  castBool := fun number : Nat => number != 0

/-- One untyped column. -/
def columnTree : Tree.BTreeSchema Signature.data where
  storage := {}
  keyArity := 1
  keyTypes := none
  arity_pos := Nat.one_pos
  arity_types := by
    intro types impossible
    cases impossible

def keyColumns : List (Tree.BTreeColumnSchema ValueForms.data) := [⟨"key", DatumType.number, none⟩]

/-- The key 5, committed. -/
def holdingFive : Config (Tree.Delta columnTree) (Tree.BTreeLock columnTree) (Key Signature.data) :=
  Persistence.run (Tree.treeDriver StreamOps.reference columnTree) (Config.start Tree.BTreeLock.empty)
    [.mutate 1 (.insertRow [Datum.number 5]), .commit 1]

/-- From 7 on. -/
def fromSeven : List (Bounds Signature.data × Bool) := [((.included (Datum.number 7), .unbounded), false)]

/-- The slice from 7 on contains the key 5, and does not stream it. -/
theorem not_routesAgree_beyond :
    Reachable (Tree.treeDriver StreamOps.reference columnTree) holdingFive ∧
      ¬ RoutesAgree plainStates StreamOps.reference 2
        ((new keyColumns holdingFive.owner).sliced fromSeven) [Datum.number 5] := by
  refine ⟨Reachable.run (Reachable.start _) _, ?_⟩
  intro agrees
  have found : Answers (containsRoute 2 (ValueForms.data.tuple [Datum.number 5]))
      ((new keyColumns holdingFive.owner).sliced fromSeven) true := by
    apply answers_contains.mpr
    decide +kernel
  have streamed := agrees.1.mp found
  revert streamed
  decide +kernel

end BTreeView

end Collection
end TransactionalCollection
