import TransactionalCollection.BTree.Rows
import TransactionalCollection.Collection.Membership

namespace TransactionalCollection
namespace Collection

open Std (ExtTreeSet)
open Layering Native Execution Persistence Streaming

/-!
# Requests to a tree

A path leads to a handler of a tree view, which converts what it is sent and reads the
tree or writes to it.  The requests of many transactions, through any slices, come
between any decisions and finalizations; and yet each transaction is answered as by a
plain set of keys, which its own writes and those committed before it have made.
-/

variable {S : Signature} {forms : ValueForms S} {native : Tree.BTreeSchema S}

/-! ## Routes -/

/-- `CollectionState`, as far as the routes of a tree convert it. -/
structure RouteStates (forms : ValueForms S) extends CollectionState forms where
  /-- The value which a scalar is, where it is one. -/
  intoScalar : State -> Except TCError (Option S.Value)
  /-- `txn_lock::Error::to_string`. -/
  lockMessage : LockError -> String

/-- What a request is answered with: a view, a value, or nothing. -/
inductive TreeAnswer (View : Type) where
  | view (view : View)
  | value (value : Bool)
  | count (count : Nat)
  | done

def TreeAnswer.map {View Other : Type} (image : View -> Other) : TreeAnswer View -> TreeAnswer Other
  | .view answer => .view (image answer)
  | .value answer => .value answer
  | .count answer => .count answer
  | .done => .done

/-- The handlers of one path, of which there may be one of each method. -/
structure TreeHandler (State View : Type) where
  get : Option (State -> EStateM TCError View (TreeAnswer View))
  put : Option (State -> State -> EStateM TCError View (TreeAnswer View))
  delete : Option (State -> EStateM TCError View (TreeAnswer View))

inductive TreeRequest (State : Type) where
  | get (key : State)
  | put (key row : State)
  | delete (key : State)

/-- A slice of a view, and the ones before it. -/
abbrev Chain (S : Signature) := List (Bounds S × Bool)

namespace RouteStates

variable (states : RouteStates forms)

def rowFromState (state : states.State) : Except TCError (Key S) := do
  match <- states.intoScalar state with
  | some value => BTreeView.rowFromState forms value
  | none => .error (.badRequest "expected BTree row values")

section Handlers

variable (collate : StreamOps) (txn : TxnId)

/-- `GET` from the view itself. -/
def getView (key : states.State) : EStateM TCError (BTreeView forms native) (TreeAnswer (BTreeView forms native)) :=
  fun view => fromExcept ((view.sliceFromKey states.toCollectionState key).map .view) view

/-- `GET` from the slice route. -/
def getSlice (key : states.State) : EStateM TCError (BTreeView forms native) (TreeAnswer (BTreeView forms native)) :=
  fun view => fromExcept ((states.sliceBoundsFromState key).map (fun slice => .view (view.slice slice.1 slice.2))) view

/-- `GET` from the contains route. -/
def getContains (key : states.State) :
    EStateM TCError (BTreeView forms native) (TreeAnswer (BTreeView forms native)) := fun view =>
  match states.rowFromState key with
  | .error error => .error error view
  | .ok row =>
      let outcome := Tree.containsRow txn row view.btree
      .ok (.value outcome.1) (view.withTree outcome.2)

def getCount (key : states.State) : EStateM TCError (BTreeView forms native) (TreeAnswer (BTreeView forms native)) :=
  .count <$> BTreeView.countRoute states.toCollectionState collate txn key

def getIsEmpty (key : states.State) : EStateM TCError (BTreeView forms native) (TreeAnswer (BTreeView forms native)) :=
  .value <$> BTreeView.isEmptyRoute states.toCollectionState collate txn key

/-- Write the row which has been sent. -/
def writeRow (state : states.State) (write : Key S -> Tree.TreeWrite S) :
    EStateM TCError (BTreeView forms native) (TreeAnswer (BTreeView forms native)) := fun view =>
  match states.rowFromState state with
  | .error error => .error error view
  | .ok row =>
      rewrap view.withTree
        (mapError (fun error => TCError.badRequest (states.lockMessage error))
          ((fun _ => .done) <$> (write row).call txn) view.btree)

/-- `PUT` to the insert route. -/
def putInsert (key row : states.State) :
    EStateM TCError (BTreeView forms native) (TreeAnswer (BTreeView forms native)) := fun view =>
  if states.isNone key then states.writeRow txn row .insertRow view
  else .error (.badRequest "BTree insert expects a null key") view

def route : List String -> Option (TreeHandler states.State (BTreeView forms native))
  | [] => some ⟨some states.getView, none, some (fun key => states.writeRow txn key .deleteRow)⟩
  | [segment] =>
      match segment with
      | "contains" => some ⟨some (states.getContains txn), none, none⟩
      | "count" => some ⟨some (states.getCount collate txn), none, none⟩
      | "is_empty" => some ⟨some (states.getIsEmpty collate txn), none, none⟩
      | "slice" => some ⟨some states.getSlice, none, none⟩
      | "insert" => some ⟨none, some (states.putInsert txn), none⟩
      | "delete" => some ⟨none, none, some (fun key => states.writeRow txn key .deleteRow)⟩
      | _ => none
  | _ => none

/-- The handler of a request, if there is one of its path and its method. -/
def respond (path : List String) (request : TreeRequest states.State) :
    Option (EStateM TCError (BTreeView forms native) (TreeAnswer (BTreeView forms native))) := do
  let handler <- states.route collate txn path
  match request with
  | .get key => handler.get.map (fun operation => operation key)
  | .put key row => handler.put.map (fun operation => operation key row)
  | .delete key => handler.delete.map (fun operation => operation key)

end Handlers

/-! ## Plain sets -/

/-- The keys which a chain of slices shows, in order. -/
def shown (keys : ExtTreeSet (Key S)) (chain : Chain S) : List (Key S) :=
  keys.toList.filter (fun key => chain.all (fun slice => Tree.boundsContain slice.1 key))

/-- The chain which a key leads to. -/
def plainChain (chain : Chain S) (key : states.State) : Except TCError (Chain S) :=
  if states.isNone key then .ok chain else (states.sliceBoundsFromState key).map (fun slice => chain ++ [slice])

/-- What `GET` reads of a plain set of keys through a chain of slices. -/
def plainRead (keys : ExtTreeSet (Key S)) (chain : Chain S) (path : List String) (key : states.State) :
    Option (Except TCError (TreeAnswer (Chain S))) :=
  match path with
  | [] => some ((states.plainChain chain key).map .view)
  | [segment] =>
      match segment with
      | "contains" => some ((states.rowFromState key).map (fun row => .value (keys.contains row)))
      | "count" => some ((states.plainChain chain key).map (fun chain => .count (shown keys chain).length))
      | "is_empty" => some ((states.plainChain chain key).map (fun chain => .value (shown keys chain).isEmpty))
      | "slice" => some ((states.sliceBoundsFromState key).map (fun slice => .view (chain ++ [slice])))
      | _ => none
  | _ => none

/-- The row which a request writes. -/
def writeOf (path : List String) (request : TreeRequest states.State) : Option (Tree.TreeWrite S) :=
  match path, request with
  | [], .delete key => ((states.rowFromState key).map .deleteRow).toOption
  | [segment], .put key row =>
      if segment = "insert" ∧ states.isNone key = true then
        ((states.rowFromState row).map .insertRow).toOption
      else none
  | [segment], .delete key =>
      if segment = "delete" then ((states.rowFromState key).map .deleteRow).toOption else none
  | _, _ => none

/-! ## What is read -/

section Reads

variable {states} {collate : StreamOps} {txn : TxnId} {columns : List (Tree.BTreeColumnSchema forms)}
  {btree : Tree.BTree native} {keys : ExtTreeSet (Key S)} {chain : Chain S}

/-- What a call is answered with. -/
def answerOf {E T A : Type} : EStateM.Result E T A -> Except E A
  | .ok answer _ => .ok answer
  | .error error _ => .error error

theorem succeeded_of_answerOf {E T A : Type} {result : EStateM.Result E T A} {answer : A}
    (answered : answerOf result = .ok answer) : succeeded result = true := by
  cases result with
  | ok value after => rfl
  | error error after => cases answered

theorem sliced_concat (columns : List (Tree.BTreeColumnSchema forms)) (btree : Tree.BTree native) (chain : Chain S)
    (slice : Bounds S × Bool) : ((BTreeView.new columns btree).sliced chain).slice slice.1 slice.2 =
      (BTreeView.new columns btree).sliced (chain ++ [slice]) := by
  rw [BTreeView.sliced, BTreeView.sliced, List.foldl_append]
  rfl

theorem sliceFromKey_sliced (columns : List (Tree.BTreeColumnSchema forms)) (btree : Tree.BTree native)
    (chain : Chain S) (key : states.State) :
    ((BTreeView.new columns btree).sliced chain).sliceFromKey states.toCollectionState key =
      (states.plainChain chain key).map (BTreeView.new columns btree).sliced := by
  unfold BTreeView.sliceFromKey plainChain
  split
  · rfl
  · cases states.sliceBoundsFromState key with
    | error error => rfl
    | ok slice => exact congrArg Except.ok (sliced_concat columns btree chain slice)

theorem mem_shown_iff {key : Key S} (wide : key ≠ []) :
    key ∈ shown keys chain <-> key ∈ keys ∧ BTreeView.WithinAll chain key := by
  rw [shown, List.mem_filter, ExtTreeSet.mem_toList, List.all_eq_true]
  apply and_congr_right
  intro _
  cases key with
  | nil => exact absurd rfl wide
  | cons first rest =>
      constructor
      · intro inside
        exact ⟨first, rest, rfl, inside⟩
      · intro within
        rcases within with ⟨value, others, same, admitted⟩
        cases same
        exact admitted

/-- A sliced view streams what its chain shows of a plain set. -/
theorem keys_shown
    (visible : forall key, Tree.isRowVisible (btree.state.visibleSnapshot txn) key = true <-> key ∈ keys) :
    (((BTreeView.new columns btree).sliced chain).keys collate txn).1.length = (shown keys chain).length := by
  have streamed := BTreeView.keys_enumerates collate txn columns btree chain
  have listed : Enumerates compare false (BTreeView.Shown txn btree chain) (shown keys chain) := by
    refine ⟨ExtTreeSet.ordered_toList.filter _, ?_⟩
    intro key
    rw [BTreeView.Shown, visible key]
    constructor
    · intro member
      have present : key ∈ keys := ExtTreeSet.mem_toList.mp (List.mem_filter.mp member).1
      exact (mem_shown_iff (Tree.ne_nil_of_view (Tree.isRowVisible_iff.mp ((visible key).mpr present)))).mp member
    · intro shows
      exact (mem_shown_iff (Tree.ne_nil_of_view (Tree.isRowVisible_iff.mp ((visible key).mpr shows.1)))).mpr shows
  exact streamed.length_eq listed

/-- A read through a chain of slices, as the plain set answers it. -/
def Reads (states : RouteStates forms) (collate : StreamOps) (txn : TxnId)
    (view : Chain S -> BTreeView forms native) (keys : ExtTreeSet (Key S)) (chain : Chain S) (path : List String)
    (key : states.State) : Prop :=
  (states.respond collate txn path (.get key)).map (fun call => answerOf (call (view chain))) =
    (states.plainRead keys chain path key).map (fun read => read.map (TreeAnswer.map view))

theorem answerOf_fromExcept {E T A : Type} (result : Except E A) (state : T) :
    answerOf (fromExcept result state) = result := by
  cases result <;> rfl

theorem answerOf_getContains
    (visible : forall key, Tree.isRowVisible (btree.state.visibleSnapshot txn) key = true <-> key ∈ keys)
    (key : states.State) : answerOf (states.getContains txn key ((BTreeView.new columns btree).sliced chain)) =
      (states.rowFromState key).map (fun row => .value (keys.contains row)) := by
  unfold getContains
  cases states.rowFromState key with
  | error error => rfl
  | ok row =>
      have found : Tree.isRowVisible (btree.state.visibleSnapshot txn) row = keys.contains row := by
        rw [Bool.eq_iff_iff, visible row]
        exact Iff.rfl
      change Except.ok (TreeAnswer.value (Tree.isRowVisible
        (((BTreeView.new columns btree).sliced chain).btree.state.visibleSnapshot txn) row)) = _
      rw [BTreeView.sliced_btree]
      exact congrArg (fun found => Except.ok (TreeAnswer.value found)) found

theorem answerOf_getCount
    (visible : forall key, Tree.isRowVisible (btree.state.visibleSnapshot txn) key = true <-> key ∈ keys)
    (key : states.State) : answerOf (states.getCount collate txn key ((BTreeView.new columns btree).sliced chain)) =
      (states.plainChain chain key).map (fun chain => .count (shown keys chain).length) := by
  change answerOf (EStateM.map _ _ _) = _
  unfold EStateM.map BTreeView.countRoute
  dsimp only
  rw [sliceFromKey_sliced]
  cases states.plainChain chain key with
  | error error => rfl
  | ok longer =>
      change Except.ok (TreeAnswer.count (((BTreeView.new columns btree).sliced longer).count collate txn).1) = _
      rw [BTreeView.count_eq, keys_shown visible]
      rfl

theorem answerOf_getIsEmpty
    (visible : forall key, Tree.isRowVisible (btree.state.visibleSnapshot txn) key = true <-> key ∈ keys)
    (key : states.State) : answerOf (states.getIsEmpty collate txn key ((BTreeView.new columns btree).sliced chain)) =
      (states.plainChain chain key).map (fun chain => .value (shown keys chain).isEmpty) := by
  change answerOf (EStateM.map _ _ _) = _
  unfold EStateM.map BTreeView.isEmptyRoute
  rw [sliceFromKey_sliced]
  cases states.plainChain chain key with
  | error error => rfl
  | ok longer =>
      change Except.ok (TreeAnswer.value (((BTreeView.new columns btree).sliced longer).isEmpty collate txn)) = _
      have same : (((BTreeView.new columns btree).sliced longer).keys collate txn).1.isEmpty =
          (shown keys longer).isEmpty := by
        rw [Bool.eq_iff_iff, List.isEmpty_iff_length_eq_zero, List.isEmpty_iff_length_eq_zero, keys_shown visible]
      rw [BTreeView.isEmpty_eq, same]
      rfl

/-- Every read of a tree is that of the plain set of the keys which are visible. -/
theorem respond_reads
    (visible : forall key, Tree.isRowVisible (btree.state.visibleSnapshot txn) key = true <-> key ∈ keys)
    (path : List String) (key : states.State) :
    Reads states collate txn (BTreeView.new columns btree).sliced keys chain path key := by
  unfold Reads respond route
  split
  · change some (answerOf (fromExcept _ _)) = some _
    rw [answerOf_fromExcept, sliceFromKey_sliced]
    cases states.plainChain chain key <;> rfl
  · rename_i segment
    split
    · exact congrArg some ((answerOf_getContains visible key).trans (by cases states.rowFromState key <;> rfl))
    · exact congrArg some ((answerOf_getCount visible key).trans (by cases states.plainChain chain key <;> rfl))
    · exact congrArg some ((answerOf_getIsEmpty visible key).trans (by cases states.plainChain chain key <;> rfl))
    · change some (answerOf (fromExcept _ _)) = some _
      rw [answerOf_fromExcept]
      cases states.sliceBoundsFromState key with
      | error error => rfl
      | ok slice =>
          exact congrArg (fun view => some (Except.ok (TreeAnswer.view view))) (sliced_concat columns btree chain slice)
    · rfl
    · rfl
    · rename_i notContains notCount notEmpty notSlice _ _
      have none : states.plainRead keys chain [segment] key = none := by
        unfold plainRead
        dsimp only
        split <;> first | contradiction | rfl
      rw [none]
      rfl
  · rename_i notEmpty notSingle
    have none : states.plainRead keys chain path key = none := by
      unfold plainRead
      split <;> first | (exact absurd rfl notEmpty) | (exact absurd rfl (notSingle _)) | rfl
    rw [none]
    rfl

end Reads

/-! ## What is written -/

section Writes

variable {states} {collate : StreamOps} {txn : TxnId} {view : BTreeView forms native}

/-- A request which writes a row calls the tree with it. -/
def Writes (states : RouteStates forms) (txn : TxnId) (op : Tree.TreeWrite S)
    (call : EStateM TCError (BTreeView forms native) (TreeAnswer (BTreeView forms native))) : Prop :=
  forall view, call view = rewrap view.withTree
    (mapError (fun error => TCError.badRequest (states.lockMessage error))
      ((fun _ => .done) <$> op.call txn) view.btree)

/-- A request which writes nothing leaves all but reservations as they are. -/
def Passes (call : EStateM TCError (BTreeView forms native) (TreeAnswer (BTreeView forms native))) : Prop :=
  forall view, exists semaphore, (finalState (call view)).btree = { view.btree with semaphore := semaphore }

theorem passes_of_unchanged {call : EStateM TCError (BTreeView forms native) (TreeAnswer (BTreeView forms native))}
    (unchanged : forall view, (finalState (call view)).btree = view.btree) : Passes call :=
  fun view => ⟨view.btree.semaphore, unchanged view⟩

/-- The one or the other. -/
def Performs (states : RouteStates forms) (txn : TxnId) (written : Option (Tree.TreeWrite S))
    (call : EStateM TCError (BTreeView forms native) (TreeAnswer (BTreeView forms native))) : Prop :=
  match written with
  | some op => Writes states txn op call
  | none => Passes call

/-- What a row comes to which is sent to be written. -/
theorem writeRow_performs (state : states.State) (write : Key S -> Tree.TreeWrite S) :
    Performs states txn ((states.rowFromState state).map write).toOption
      (states.writeRow txn state write : EStateM TCError (BTreeView forms native) _) := by
  cases parsed : states.rowFromState state with
  | error error =>
      apply passes_of_unchanged
      intro view
      rw [writeRow, parsed]
      rfl
  | ok row =>
      intro view
      rw [writeRow, parsed]

theorem getContains_passes (key : states.State) :
    Passes (states.getContains txn key : EStateM TCError (BTreeView forms native) _) := by
  intro view
  unfold getContains
  cases states.rowFromState key with
  | error error => exact ⟨view.btree.semaphore, rfl⟩
  | ok row => exact ⟨_, rfl⟩

theorem getCount_passes (key : states.State) :
    Passes (states.getCount collate txn key : EStateM TCError (BTreeView forms native) _) := by
  intro view
  change exists semaphore, (finalState (EStateM.map _ _ view)).btree = _
  unfold EStateM.map BTreeView.countRoute
  dsimp only
  cases sliced : view.sliceFromKey states.toCollectionState key with
  | error error => exact ⟨view.btree.semaphore, rfl⟩
  | ok other =>
      have same : other.btree = view.btree := by
        unfold BTreeView.sliceFromKey at sliced
        split at sliced
        · cases sliced
          rfl
        · cases parsed : states.sliceBoundsFromState key with
          | error error =>
              rw [parsed] at sliced
              cases sliced
          | ok slice =>
              rw [parsed] at sliced
              cases sliced
              rfl
      refine ⟨(other.count collate txn).2.semaphore, ?_⟩
      change (other.count collate txn).2 = _
      rw [BTreeView.count, same]
      rfl

theorem getIsEmpty_passes (key : states.State) :
    Passes (states.getIsEmpty collate txn key : EStateM TCError (BTreeView forms native) _) := by
  apply passes_of_unchanged
  intro view
  change (finalState (EStateM.map _ _ view)).btree = _
  unfold EStateM.map BTreeView.isEmptyRoute
  cases view.sliceFromKey states.toCollectionState key <;> rfl

theorem finalState_fromExcept {E T A : Type} (result : Except E A) (state : T) :
    finalState (fromExcept result state : EStateM.Result E T A) = state := by
  cases result <;> rfl

/-- Every request writes the one row which it is read as, or none. -/
theorem respond_performs {path : List String} {request : TreeRequest states.State}
    {call : EStateM TCError (BTreeView forms native) (TreeAnswer (BTreeView forms native))}
    (responded : states.respond collate txn path request = some call) :
    Performs states txn (states.writeOf path request) call := by
  unfold respond route at responded
  split at responded
  · cases request with
    | get key =>
        cases responded
        apply passes_of_unchanged
        intro view
        exact congrArg BTreeView.btree (finalState_fromExcept _ view)
    | put key row => cases responded
    | delete key =>
        cases responded
        exact writeRow_performs _ _
  · split at responded
    · cases request <;> cases responded
      exact getContains_passes _
    · cases request <;> cases responded
      exact getCount_passes _
    · cases request <;> cases responded
      exact getIsEmpty_passes _
    · cases request <;> cases responded
      apply passes_of_unchanged
      intro view
      exact congrArg BTreeView.btree (finalState_fromExcept _ view)
    · cases request with
      | get key => cases responded
      | delete key => cases responded
      | put key row =>
          cases responded
          by_cases null : states.isNone key = true
          · have written : states.writeOf ["insert"] (.put key row) =
                ((states.rowFromState row).map .insertRow).toOption := if_pos ⟨rfl, null⟩
            rw [written]
            have same : (states.putInsert txn key row : EStateM TCError (BTreeView forms native) _) =
                states.writeRow txn row .insertRow := by
              funext view
              exact if_pos null
            change Performs states txn _ (states.putInsert txn key row)
            rw [same]
            exact writeRow_performs _ _
          · have written : states.writeOf ["insert"] (.put key row) = none := if_neg (fun both => null both.2)
            rw [written]
            apply passes_of_unchanged
            intro view
            change (finalState (states.putInsert txn key row view)).btree = _
            unfold putInsert
            rw [if_neg null]
            rfl
    · cases request with
      | get key => cases responded
      | put key row => cases responded
      | delete key =>
          cases responded
          exact writeRow_performs _ _
    · cases responded
  · cases responded

/-- What is read as a write has a handler. -/
theorem respond_of_writeOf {path : List String} {request : TreeRequest states.State} {op : Tree.TreeWrite S}
    (written : states.writeOf path request = some op) :
    exists call : EStateM TCError (BTreeView forms native) (TreeAnswer (BTreeView forms native)),
      states.respond collate txn path request = some call := by
  unfold writeOf at written
  split at written
  · exact ⟨_, rfl⟩
  · split at written
    · rename_i both
      rcases both with ⟨rfl, _⟩
      exact ⟨_, rfl⟩
    · cases written
  · split at written
    · rename_i segment _ here
      subst here
      exact ⟨_, rfl⟩
    · cases written
  · cases written

/-- A write is done or refused; and where it is done, its row is valid. -/
theorem Writes.outcome {op : Tree.TreeWrite S}
    {call : EStateM TCError (BTreeView forms native) (TreeAnswer (BTreeView forms native))}
    (writes : Writes states txn op call) (view : BTreeView forms native) :
    (finalState (call view)).btree = finalState (op.call txn view.btree) ∧
      succeeded (call view) = succeeded (op.call txn view.btree) ∧
      ((answerOf (call view) = .ok .done ∧ native.ValidKey op.row) ∨
        exists error, answerOf (call view) = .error error ∧ succeeded (call view) = false) := by
  have performed := writes view
  cases called : op.call txn view.btree with
  | ok answer after =>
      cases answer
      simp only [mapError, Functor.map, EStateM.map, called, rewrap_ok] at performed
      rw [performed]
      exact ⟨rfl, rfl, Or.inl ⟨rfl, Tree.TreeWrite.call_valid called⟩⟩
  | error error after =>
      simp only [mapError, Functor.map, EStateM.map, called, rewrap_error] at performed
      rw [performed]
      exact ⟨rfl, rfl, Or.inr ⟨_, rfl, rfl⟩⟩

end Writes

/-! ## Sessions -/

section Sessions

/-- A request through a chain of slices, or a decision, a part of a finalization, or
another write. -/
inductive TreeEvent (states : RouteStates forms) (native : Tree.BTreeSchema S) where
  | request (txn : TxnId) (chain : Chain S) (path : List String) (request : TreeRequest states.State)
  | act (action : Action (Tree.rowDriver native))

variable (states : RouteStates forms) (columns : List (Tree.BTreeColumnSchema forms)) (collate : StreamOps)

/-- What a request comes to. -/
def outcome (tree : Tree.BTree native) (txn : TxnId) (chain : Chain S) (path : List String)
    (request : TreeRequest states.State) :
    Option (EStateM.Result TCError (BTreeView forms native) (TreeAnswer (BTreeView forms native))) :=
  (states.respond collate txn path request).map (fun call => call ((BTreeView.new columns tree).sliced chain))

abbrev TreeConfig (native : Tree.BTreeSchema S) := Config (Tree.Delta native) (Tree.BTreeLock native) (Key S)

def serve (config : TreeConfig native) : states.TreeEvent native -> TreeConfig native
  | .request txn chain path request =>
      match states.outcome columns collate config.owner txn chain path request with
      | none => config
      | some result => { config with owner := (finalState result).btree }
  | .act action => step (Tree.rowDriver native) config action

/-- A write counts when it is answered. -/
def register (config : TreeConfig native) (ledger : Ledger (Tree.TreeWrite S)) :
    states.TreeEvent native -> Ledger (Tree.TreeWrite S)
  | .request txn chain path request =>
      match states.outcome columns collate config.owner txn chain path request, states.writeOf path request with
      | some result, some op => if succeeded result then ledger.record txn op else ledger
      | _, _ => ledger
  | .act action => note (Tree.rowDriver native) config action ledger

def session (config : TreeConfig native) (events : List (states.TreeEvent native)) : TreeConfig native :=
  events.foldl (states.serve columns collate) config

def sessionLedger (config : TreeConfig native) (ledger : Ledger (Tree.TreeWrite S)) :
    List (states.TreeEvent native) -> Ledger (Tree.TreeWrite S)
  | [] => ledger
  | event :: events =>
      sessionLedger (states.serve columns collate config event) (states.register columns collate config ledger event)
        events

variable {states columns collate}

/-- A request is a mutation, or passes. -/
theorem serve_eq_step (config : TreeConfig native) (ledger : Ledger (Tree.TreeWrite S))
    (event : states.TreeEvent native) : exists action : Action (Tree.rowDriver native),
      states.serve columns collate config event = step (Tree.rowDriver native) config action ∧
        states.register columns collate config ledger event = note (Tree.rowDriver native) config action ledger := by
  cases event with
  | act action => exact ⟨action, rfl, rfl⟩
  | request txn chain path request =>
      have tree : ((BTreeView.new columns config.owner).sliced chain).btree = config.owner :=
        BTreeView.sliced_btree _ chain
      cases responded : (states.respond collate txn path request :
          Option (EStateM TCError (BTreeView forms native) (TreeAnswer (BTreeView forms native)))) with
      | none =>
          have silent : states.outcome columns collate config.owner txn chain path request = none := by
            rw [outcome, responded]
            rfl
          refine ⟨.traffic config.owner.semaphore, ?_, ?_⟩
          · rw [serve, silent]
            rfl
          · rw [register, silent]
            rfl
      | some call =>
          have called : states.outcome columns collate config.owner txn chain path request =
              some (call ((BTreeView.new columns config.owner).sliced chain)) := by
            rw [outcome, responded]
            rfl
          have performs := respond_performs responded
          cases written : states.writeOf path request with
          | none =>
              rw [written] at performs
              rcases performs ((BTreeView.new columns config.owner).sliced chain) with ⟨semaphore, passed⟩
              refine ⟨.traffic semaphore, ?_, ?_⟩
              · rw [serve, called]
                dsimp only
                rw [passed, tree]
                rfl
              · rw [register, called, written]
                rfl
          | some op =>
              rw [written] at performs
              rcases Writes.outcome performs ((BTreeView.new columns config.owner).sliced chain) with
                ⟨final, success, _⟩
              rw [tree] at final success
              refine ⟨.mutate txn op, ?_, ?_⟩
              · rw [serve, called]
                dsimp only
                rw [final]
                rfl
              · rw [register, called, written]
                dsimp only
                rw [success]
                rfl

/-- A session is a run of mutations, and its ledger that of the run. -/
theorem session_eq_run (config : TreeConfig native) (ledger : Ledger (Tree.TreeWrite S))
    (events : List (states.TreeEvent native)) : exists actions : List (Action (Tree.rowDriver native)),
      states.session columns collate config events = run (Tree.rowDriver native) config actions ∧
        states.sessionLedger columns collate config ledger events =
          chronicle (Tree.rowDriver native) config ledger actions := by
  induction events generalizing config ledger with
  | nil => exact ⟨[], rfl, rfl⟩
  | cons event events inductionHypothesis =>
      rcases (serve_eq_step config ledger event : exists action : Action (Tree.rowDriver native),
        states.serve columns collate config event = step (Tree.rowDriver native) config action ∧
          states.register columns collate config ledger event = note (Tree.rowDriver native) config action ledger) with
        ⟨action, served, noted⟩
      rcases inductionHypothesis (states.serve columns collate config event)
        (states.register columns collate config ledger event) with ⟨actions, ran, recorded⟩
      refine ⟨action :: actions, ?_, ?_⟩
      · exact ran.trans (congrArg (fun config => run (Tree.rowDriver native) config actions) served)
      · change states.sessionLedger columns collate (states.serve columns collate config event)
          (states.register columns collate config ledger event) events = _
        rw [recorded, served, noted]
        rfl

theorem register_history {config : TreeConfig native} {ledger : Ledger (Tree.TreeWrite S)} {txn : TxnId}
    {chain : Chain S} {path : List String} {request : TreeRequest states.State}
    {result : EStateM.Result TCError (BTreeView forms native) (TreeAnswer (BTreeView forms native))}
    {op : Tree.TreeWrite S} (called : states.outcome columns collate config.owner txn chain path request = some result)
    (written : states.writeOf path request = some op) :
    states.register columns collate config ledger (.request txn chain path request) =
      if succeeded result then ledger.record txn op else ledger := by
  rw [register, called, written]

/-- A write is done, which takes a valid row and adds it to the writes of its transaction
alone; or it is refused, and adds nothing. -/
def Settled (txn : TxnId) (op : Tree.TreeWrite S) (ledger after : Ledger (Tree.TreeWrite S))
    (result : EStateM.Result TCError (BTreeView forms native) (TreeAnswer (BTreeView forms native))) : Prop :=
  (answerOf result = .ok .done ∧ native.ValidKey op.row ∧
      forall reader, after.history reader =
        if txn = reader then ledger.history txn ++ [op] else ledger.history reader) ∨
    ((exists error, answerOf result = .error error) ∧ after = ledger)

/-- Sessions of requests by many transactions, through any slices, and between any
decisions and parts of finalizations, are served as from plain sets of keys: whatever
a transaction may still ask, it is answered from the set which the writes before its
own, and its own, have made in turn.  What it may still write is done or refused. -/
theorem session_serves (states : RouteStates forms) (columns : List (Tree.BTreeColumnSchema forms))
    (collate : StreamOps) (canonical : Tree.BTreeLock native) (events : List (states.TreeEvent native)) {txn : TxnId}
    (ahead : (states.session columns collate (Config.start canonical) events).Ahead txn) :
    let config := states.session columns collate (Config.start canonical) events
    let ledger := states.sessionLedger columns collate (Config.start canonical) Ledger.empty events
    (forall (chain : Chain S) (path : List String) (key : states.State),
      Reads states collate txn (BTreeView.new columns config.owner).sliced
        (Tree.plainKeys canonical.keys (ledger.history txn)) chain path key) ∧
    forall (chain : Chain S) (path : List String) (request : TreeRequest states.State) (op : Tree.TreeWrite S),
      states.writeOf path request = some op ->
        exists result, states.outcome columns collate config.owner txn chain path request = some result ∧
          Settled txn op ledger
            (states.register columns collate config ledger (.request txn chain path request)) result := by
  intro config ledger
  rcases (session_eq_run (Config.start canonical) Ledger.empty events :
    exists actions : List (Action (Tree.rowDriver native)),
      config = run (Tree.rowDriver native) (Config.start canonical) actions ∧
      ledger = chronicle (Tree.rowDriver native) (Config.start canonical) Ledger.empty actions) with
    ⟨actions, ran, recorded⟩
  constructor
  · intro chain path key
    apply respond_reads
    intro row
    have reached : config = Tree.rowRun canonical actions := ran
    have kept : ledger = Tree.rowLedger canonical actions := recorded
    rw [reached, kept]
    exact Tree.visible_iff_mem_plainKeys canonical actions row (show (Tree.rowRun canonical actions).Ahead txn by
      rw [← reached]
      exact ahead)
  · intro chain path request op written
    rcases (respond_of_writeOf written : exists call : EStateM TCError (BTreeView forms native)
      (TreeAnswer (BTreeView forms native)), states.respond collate txn path request = some call) with
      ⟨call, responded⟩
    have called : states.outcome columns collate config.owner txn chain path request =
        some (call ((BTreeView.new columns config.owner).sliced chain)) := by
      rw [outcome, responded]
      rfl
    have performs := respond_performs responded
    rw [written] at performs
    refine ⟨_, called, ?_⟩
    have same : states.register columns collate config ledger (.request txn chain path request) =
        if succeeded (call ((BTreeView.new columns config.owner).sliced chain)) then ledger.record txn op else ledger :=
      register_history called written
    rcases (Writes.outcome performs ((BTreeView.new columns config.owner).sliced chain)).2.2 with
      ⟨done, valid⟩ | ⟨error, refused, failed⟩
    · left
      refine ⟨done, valid, ?_⟩
      intro reader
      rw [same, succeeded_of_answerOf done]
      exact Ledger.record_history ledger txn reader op
    · right
      refine ⟨⟨error, refused⟩, ?_⟩
      rw [same, failed]
      rfl

/-! ## A session -/

/-- Plain states, a scalar being a value. -/
def plainRoutes : RouteStates ValueForms.data where
  toCollectionState := BTreeView.plainStates
  intoScalar
    | .value value => .ok (some value)
    | .map _ => .error (.badRequest "expected a scalar")
  lockMessage _ := "conflict"

def absent : plainRoutes.State := BTreeView.PlainState.value (Datum.none : Datum)

def numberRow (number : Nat) : plainRoutes.State := BTreeView.PlainState.value (Datum.tuple [Datum.number number])

/-- The keys 5 and 9 are inserted and committed; another transaction then deletes 9. -/
def insertedAndDeleted : List (plainRoutes.TreeEvent BTreeView.columnTree) :=
  [.request 1 [] ["insert"] (.put absent (numberRow 5)), .request 1 [] ["insert"] (.put absent (numberRow 9)),
    .act (.commit 1), .request 2 [] [] (.delete (numberRow 9))]

/-- The second transaction finds nothing from 7 on, and may delete the key 5 too. -/
theorem session_serves_insertedAndDeleted :
    let config := plainRoutes.session BTreeView.keyColumns StreamOps.reference
      (Config.start (Tree.BTreeLock.empty : Tree.BTreeLock BTreeView.columnTree)) insertedAndDeleted
    let ledger := plainRoutes.sessionLedger BTreeView.keyColumns StreamOps.reference
      (Config.start (Tree.BTreeLock.empty : Tree.BTreeLock BTreeView.columnTree)) Ledger.empty insertedAndDeleted
    (plainRoutes.respond StreamOps.reference 2 ["count"] (.get absent)).map
        (fun call => answerOf (call ((BTreeView.new BTreeView.keyColumns config.owner).sliced BTreeView.fromSeven))) =
      some (.ok (.count 0)) ∧
    exists result, plainRoutes.outcome BTreeView.keyColumns StreamOps.reference config.owner 2 [] ["delete"]
        (.delete (numberRow 5)) = some result ∧
      Settled 2 (.deleteRow [Datum.number 5]) ledger (plainRoutes.register BTreeView.keyColumns StreamOps.reference
        config ledger (.request 2 [] ["delete"] (.delete (numberRow 5)))) result := by
  intro config ledger
  have serves := session_serves plainRoutes BTreeView.keyColumns StreamOps.reference
    (Tree.BTreeLock.empty : Tree.BTreeLock BTreeView.columnTree) insertedAndDeleted
    (show Config.Ahead _ 2 by decide +kernel)
  refine ⟨(serves.1 BTreeView.fromSeven ["count"] absent).trans ?_, serves.2 [] ["delete"] _ _ rfl⟩
  have none : (shown (Tree.plainKeys (Tree.BTreeLock.empty : Tree.BTreeLock BTreeView.columnTree).keys
      (ledger.history 2)) BTreeView.fromSeven).length = 0 := by
    decide +kernel
  exact congrArg (fun count => some (Except.ok (TreeAnswer.count count))) none

end Sessions

end RouteStates

end Collection
end TransactionalCollection
