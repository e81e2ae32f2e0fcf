import Mathlib.Data.List.TakeWhile
import TransactionalCollection.Execution.Panics
import TransactionalCollection.Table.Handle
import TransactionalCollection.Table.Selector

namespace TransactionalCollection
namespace Table

open Execution Native Persistence

/-!
# The routes of a table

A route parses the selector it is sent and passes the request on to the table:
a key to the calls for a single row, a range to a slice or to the calls for a
range.  Rows are streamed under an index which supports the range.  Where a
range has none, a stream and an update report an error, while counting, testing
for emptiness and truncating stop with a panic.
-/

variable {S : Signature}

/-! ## Requests -/

/-- `Scalar`, as far as a table takes it. -/
inductive Scalar (S : Signature) where
  | value (value : S.Value)
  | map (entries : List (S.Id × Scalar S))

def updateValues : Scalar S -> Except TCError (List (S.Id × S.Value))
  | .map entries => entries.mapM (fun entry =>
      match entry.2 with
      | .value value => .ok (entry.1, value)
      | .map _ => .error (.badRequest s!"invalid update value for {S.displayId entry.1}"))
  | .value _ => .error (.badRequest "invalid update values: expected a map")

/-- The values of a row: those of a tuple, or a single one. -/
def rowValues (forms : ValueForms S) : Scalar S -> Except TCError (List S.Value)
  | .value value =>
      match forms.form value with
      | .tuple values => .ok values
      | _ => .ok [value]
  | .map _ => .error (.badRequest "expected a value")

/-- The table of a slice, as a handle. -/
def TableSource.toHandle {schema : TableSchema S} : TableSource schema -> Handle schema
  | .file owner => .file owner
  | .localTable table => .localTable table

namespace Handle

variable {schema : TableSchema S}

/-- Read a slice of the table. -/
def onSlice {A : Type} (range : Range S)
    (read : TableSlice schema -> Except (Failure OpError) A × TableSlice schema) :
    EStateM (Failure OpError) (Handle schema) A := fun handle =>
  match handle.slice range [] false with
  | .error error => .error (.error (.request error)) handle
  | .ok slice => rewrap (fun after => after.table.toHandle) (reading read slice)

/-- What `GET` yields. -/
inductive Found (schema : TableSchema S) where
  | table (handle : Handle schema)
  | slice (view : TableSlice schema)
  | row (row : Option (Row S))

section Routes

variable (forms : ValueForms S) (castBound : S.Value -> Option (Bound S.Value)) (ops : TableOps S)

/-- Parse the selector, then go on. -/
def onSelector {A : Type} (selector : S.Value)
    (proceed : KeyOrRange S -> EStateM (Failure OpError) (Handle schema) A) :
    EStateM (Failure OpError) (Handle schema) A := fun handle =>
  match KeyOrRange.tryFromValue forms castBound schema selector with
  | .error error => .error (.error (.request error)) handle
  | .ok parsed => proceed parsed handle

def getRoute (txn : TxnId) (selector : S.Value) : EStateM (Failure OpError) (Handle schema) (Found schema) :=
  onSelector forms castBound selector (fun parsed handle =>
    match parsed with
    | .all => .ok (.table handle) handle
    | .range range =>
        match handle.slice range [] false with
        | .error error => .error (.error (.request error)) handle
        | .ok slice => .ok (.slice slice) handle
    | .key key => (Found.row <$> reading (readRow txn key)) handle)

def putRoute (ranges : RangeOps S) (txn : TxnId) (selector : S.Value) (value : Scalar S) :
    EStateM (Failure OpError) (Handle schema) PUnit :=
  onSelector forms castBound selector (fun parsed handle =>
    match parsed with
    | .all =>
        match updateValues value with
        | .error error => .error (.error (.request error)) handle
        | .ok values => update ops ranges txn Range.default values handle
    | .range range =>
        match updateValues value with
        | .error error => .error (.error (.request error)) handle
        | .ok values => update ops ranges txn range values handle
    | .key key =>
        match rowValues forms value with
        | .error error => .error (.error (.request error)) handle
        | .ok values => upsertRow txn key values handle)

def deleteRoute (ranges : RangeOps S) (txn : TxnId) (selector : S.Value) :
    EStateM (Failure OpError) (Handle schema) PUnit :=
  onSelector forms castBound selector (fun parsed handle =>
    match parsed with
    | .all => truncate ops ranges txn Range.default handle
    | .key key => deleteRow txn key handle
    | .range range => truncate ops ranges txn range handle)

def containsRoute (txn : TxnId) (selector : S.Value) : EStateM (Failure OpError) (Handle schema) Bool :=
  onSelector forms castBound selector (fun parsed =>
    match parsed with
    | .all => not <$> reading (isEmpty ops txn)
    | .key key => reading (containsRow txn key)
    | .range range => not <$> onSlice range (TableSlice.isEmpty ops txn))

def countRoute (txn : TxnId) (selector : S.Value) : EStateM (Failure OpError) (Handle schema) Nat :=
  onSelector forms castBound selector (fun parsed =>
    match parsed with
    | .all => reading (count ops txn)
    | .key key => Bool.toNat <$> reading (containsRow txn key)
    | .range range => onSlice range (TableSlice.count ops txn))

def isEmptyRoute (txn : TxnId) (selector : S.Value) : EStateM (Failure OpError) (Handle schema) Bool :=
  onSelector forms castBound selector (fun parsed =>
    match parsed with
    | .all => reading (isEmpty ops txn)
    | .key key => not <$> reading (containsRow txn key)
    | .range range => onSlice range (TableSlice.isEmpty ops txn))

end Routes

end Handle

/-! ## Panics of a transactional table -/

section Panicking

variable {schema : TableSchema S} {ops : TableOps S} {txn : TxnId} {range : Range S}

/-- A transaction may write anywhere in the table. -/
def Writable (txn : TxnId) (owner : PersistentTable schema) : Prop :=
  (exists semaphore, owner.semaphore.tryWrite txn .all = .ok semaphore) ∧
    owner.state.assertWritable txn = .ok ()

theorem keepsPanics_lockFailure : KeepsPanics lockFailure where
  error error := ⟨.lock error, rfl⟩
  panic _ := rfl

/-- Counting and testing for emptiness rely on an index. -/
theorem visibleRows_error_iff {snapshot : TableSnapshot schema} {order : List S.Id} {reverse : Bool} :
    (exists panic, visibleRows ops snapshot range order reverse = .error panic) <->
      ops.plan schema range order ≠ .ok () := by
  cases planned : ops.plan schema range order with
  | error error =>
      have failed : visibleRows ops snapshot range order reverse = .error ⟨"stream persistent rows"⟩ := by
        rw [visibleRows, rowStream, planned]
        rfl
      exact iff_of_true ⟨_, failed⟩ (fun same => by cases same)
  | ok =>
      apply iff_of_false
      · intro found
        rcases found with ⟨panic, failed⟩
        cases (visibleRows_supported planned snapshot reverse).symm.trans failed
      · exact fun different => different rfl

/-- Keys of the wrong arity cannot be resolved. -/
theorem resolveRow_error_iff {snapshot : TableSnapshot schema} {key : Key S} :
    (exists panic, resolveRow snapshot key = .error panic) <-> key.length ≠ schema.key.length := by
  by_cases arity : key.length = schema.key.length
  · rw [resolveRow_of_arity arity]
    exact iff_of_false not_error_ok (not_not_intro arity)
  · rw [resolveRow_of_wrong_arity arity]
    exact iff_of_true ⟨_, rfl⟩ arity

/-- A stream is opened, or an error is reported. -/
theorem openRows_cases (ops : TableOps S) (range : Range S) (snapshot : TableSnapshot schema) :
    (exists rows, openRows ops snapshot range [] false = .ok rows) ∨
      exists error, openRows ops snapshot range [] false = .error (.error error) := by
  cases planned : ops.plan schema range [] with
  | error error =>
      right
      rw [openRows, rowStream, planned]
      exact ⟨_, rfl⟩
  | ok =>
      left
      exact ⟨_, openRows_supported planned snapshot false⟩

/-- Under a reservation a panic is that of the work. -/
theorem panics_reserved_iff {range : SetRange (Key S)}
    {body : EStateM (Failure LockError) (TableState schema) PUnit}
    {owner : PersistentTable schema} :
    Panics (reserved Failure.error txn range body owner) <->
      (exists semaphore, owner.semaphore.tryWrite txn range = .ok semaphore) ∧ Panics (body owner.state) := by
  cases reserving : owner.semaphore.tryWrite txn range with
  | error error =>
      apply iff_of_false
      · rw [reserved, reserved_of_refused reserving]
        exact not_panics_error
      · intro granted
        rcases granted with ⟨⟨_, impossible⟩, _⟩
        cases impossible
  | ok semaphore =>
      rw [and_iff_right ⟨semaphore, rfl⟩]
      rcases outcome : body owner.state with ⟨value, after⟩ | ⟨error | panic, after⟩
      · rw [reserved, reserved_of_ok reserving outcome]
        exact iff_of_false not_panics_ok not_panics_ok
      · rw [reserved, reserved_of_error reserving outcome]
        exact iff_of_false not_panics_error not_panics_error
      · rw [reserved, reserved_of_error reserving outcome]
        exact iff_of_true panics_panic panics_panic

theorem panics_writePending_iff {pending : Delta schema}
    {operation : EStateM (Failure LockError) (Delta schema) PUnit}
    {state : TableState schema} :
    Panics (State.writePending txn pending operation state) <-> Panics (operation pending) :=
  panics_focus_iff

/-- So it is once the transaction has its delta. -/
theorem panics_withPending_iff {rest : Delta schema -> EStateM (Failure LockError) (TableState schema) PUnit}
    {condition : Prop} (panicking : forall pending state, Panics (rest pending state) <-> condition)
    {state : TableState schema} :
    Panics ((mapError Failure.error (pendingDeltaForTxn txn) >>= rest) state) <->
      state.assertWritable txn = .ok () ∧ condition := by
  unfold pendingDeltaForTxn
  rcases State.pendingDeltaForTxn_cases state txn (Delta.create : Delta schema) with
    ⟨error, refused, outcome⟩ | ⟨existing, writable, _, outcome⟩ | ⟨writable, _, outcome⟩
  · rw [bind_of_error (mapError_of_error outcome), refused]
    apply iff_of_false not_panics_error
    intro both
    cases both.1
  · rw [bind_of_ok (mapError_of_ok outcome), panicking, and_iff_right writable]
  · rw [bind_of_ok (mapError_of_ok outcome), panicking, and_iff_right writable]

theorem storageFailure_error (error : IoError) : exists other, storageFailure error = .error other := ⟨_, rfl⟩

/-- Truncating panics wherever it gets as far as streaming unsupported rows. -/
theorem panics_truncate_iff {owner : PersistentTable schema} :
    Panics (truncate ops txn range owner) <-> Writable txn owner ∧ ops.plan schema range [] ≠ .ok () := by
  have streamed : forall (pending : Delta schema) (state : TableState schema),
      Panics (truncatePending ops txn range pending state) <-> ops.plan schema range [] ≠ .ok () := by
    intro pending state
    rw [truncatePending, panics_writePending_iff, Delta.truncateVisible, rowStream]
    cases planned : ops.plan schema range [] with
    | error error => exact iff_of_true panics_panic (fun same => by cases same)
    | ok =>
        apply iff_of_false ?_ (fun different => different rfl)
        dsimp only [expect]
        rw [mergeDeltas_supported planned]
        exact NeverPanics.of_errors storageFailure_error _ pending
  rw [truncate, panics_reserved_iff, truncateReserved, panics_withPending_iff streamed, Writable, and_assoc]

/-- Updating reports what it cannot stream. -/
theorem not_panics_update {values : List (S.Id × S.Value)} {owner : PersistentTable schema} :
    ¬ Panics (update ops txn range values owner) := by
  have streamed : forall (pending : Delta schema) (state : TableState schema),
      Panics (updatePending ops txn range values pending state) <-> False := by
    intro pending state
    rw [updatePending, panics_writePending_iff]
    apply iff_false_intro
    unfold Delta.updateVisible
    rcases openRows_cases ops range (state.visibleSnapshot txn) with
      ⟨rows, opened⟩ | ⟨error, refused⟩
    · rw [opened]
      exact NeverPanics.of_errors storageFailure_error _ pending
    · rw [refused]
      exact not_panics_error
  unfold update
  split
  · exact not_panics_error
  · rw [panics_reserved_iff, updateReserved, panics_withPending_iff streamed]
    exact fun panics => panics.2.2

/-- A key which has passed validation can be resolved. -/
theorem not_panics_deleteRow {key : Key S} {owner : PersistentTable schema} :
    ¬ Panics (deleteRow txn key owner) := by
  have deletes : schema.ValidKey key -> forall (pending : Delta schema) (state : TableState schema),
      Panics (deletePending txn key pending state) <-> False := by
    intro valid pending state
    rw [deletePending, panics_writePending_iff]
    apply iff_false_intro
    unfold Delta.deleteVisible
    split
    · exact not_panics_error
    · exact not_panics_ok
    · unfold rowToDelete
      split
      · rename_i failure failed
        split at failed
        · cases failed
          exact not_panics_error
        · cases failed
        · rw [resolveRow_of_arity valid.1] at failed
          cases failed
      · exact NeverPanics.of_errors storageFailure_error _ pending
  cases validated : schema.validateKey key with
  | error error =>
      have refused : deleteRow txn key owner = .error (.error (backgroundError error.message)) owner := by
        rw [deleteRow]
        apply bind_of_error
        rw [validated]
        rfl
      rw [refused]
      exact not_panics_error
  | ok accepted =>
      rcases TableSchema.validateKey_eq_ok_iff.mp validated with ⟨valid, rfl⟩
      have goes : deleteRow txn accepted owner =
          reserved Failure.error txn (.one accepted) (deleteReserved txn accepted) owner := by
        rw [deleteRow]
        apply bind_of_ok
        rw [validated]
        rfl
      rw [goes, panics_reserved_iff, deleteReserved, panics_withPending_iff (deletes valid)]
      exact fun panics => panics.2.2

end Panicking

namespace Handle

section File

variable {schema : TableSchema S} {ops : TableOps S} {txn : TxnId} {owner : PersistentTable schema}

theorem panics_readRow_iff {key : Key S} :
    Panics (reading (readRow txn key) (.file owner)) <-> key.length ≠ schema.key.length := by
  apply panics_reading_iff.trans
  apply panics_of_mapError_iff.trans
  exact resolveRow_error_iff

theorem panics_containsRow_iff {key : Key S} :
    Panics (reading (containsRow txn key) (.file owner)) <-> key.length ≠ schema.key.length := by
  apply panics_reading_iff.trans
  apply panics_of_mapError_iff.trans
  apply error_of_map_iff.trans
  exact resolveRow_error_iff

theorem panics_isEmptyIn_iff {range : Range S} :
    Panics (onSlice range (TableSlice.isEmpty ops txn) (.file owner)) <->
      ops.plan schema range [] ≠ .ok () := by
  apply panics_rewrap_iff.trans
  apply panics_reading_iff.trans
  apply panics_of_mapError_iff.trans
  apply error_of_map_iff.trans
  apply error_of_map_iff.trans
  exact visibleRows_error_iff

theorem panics_countIn_iff {range : Range S} :
    Panics (onSlice range (TableSlice.count ops txn) (.file owner)) <->
      ops.plan schema range [] ≠ .ok () := by
  apply panics_rewrap_iff.trans
  apply panics_reading_iff.trans
  apply panics_of_mapError_iff.trans
  apply error_of_map_iff.trans
  exact visibleRows_error_iff

/-- The whole table is always supported. -/
theorem not_panics_isEmpty : ¬ Panics (reading (isEmpty ops txn) (.file owner)) := by
  intro panics
  have failed := panics_of_mapError_iff.mp (panics_reading_iff.mp panics)
  exact visibleRows_error_iff.mp (error_of_map_iff.mp (error_of_map_iff.mp failed)) (ops.plan_default schema)

theorem not_panics_count : ¬ Panics (reading (count ops txn) (.file owner)) := by
  intro panics
  have failed := panics_of_mapError_iff.mp (panics_reading_iff.mp panics)
  exact visibleRows_error_iff.mp (error_of_map_iff.mp failed) (ops.plan_default schema)

theorem panics_truncate_iff {ranges : RangeOps S} {range : Range S} :
    Panics (truncate ops ranges txn range (.file owner)) <->
      Writable txn owner ∧ ops.plan schema range [] ≠ .ok () := by
  apply panics_rewrap_iff.trans
  apply (panics_mapError_iff keepsPanics_lockFailure).trans
  exact Table.panics_truncate_iff

theorem not_panics_update {ranges : RangeOps S} {range : Range S} {values : List (S.Id × S.Value)} :
    ¬ Panics (update ops ranges txn range values (.file owner)) := by
  intro panics
  exact Table.not_panics_update
    ((panics_mapError_iff keepsPanics_lockFailure).mp (panics_rewrap_iff.mp panics))

theorem not_panics_upsertRow {key : Key S} {values : List S.Value} :
    ¬ Panics (upsertRow txn key values (.file owner)) := by
  have reports : forall error : LockError, exists other : OpError,
      (Failure.error (.lock error) : Failure OpError) = .error other := fun error => ⟨.lock error, rfl⟩
  intro panics
  exact NeverPanics.of_errors reports (Table.upsertRow txn key values) owner (panics_rewrap_iff.mp panics)

theorem not_panics_deleteRow {key : Key S} : ¬ Panics (deleteRow txn key (.file owner)) := by
  intro panics
  exact Table.not_panics_deleteRow
    ((panics_mapError_iff keepsPanics_lockFailure).mp (panics_rewrap_iff.mp panics))

end File

/-! ## Panics of the routes -/

section Requests

variable {schema : TableSchema S} (forms : ValueForms S) (castBound : S.Value -> Option (Bound S.Value))
  (ops : TableOps S)

/-- If the selector is that of a range, an index supports it. -/
def Supported (schema : TableSchema S) (selector : S.Value) : Prop :=
  forall range, KeyOrRange.tryFromValue forms castBound schema selector = .ok (.range range) ->
    ops.plan schema range [] = .ok ()

/-- The key of a selector has the arity of the schema. -/
theorem arity_of_tryFromValue {selector : S.Value} {key : Key S}
    (parsed : KeyOrRange.tryFromValue forms castBound schema selector = .ok (.key key)) :
    key.length = schema.key.length := by
  unfold KeyOrRange.tryFromValue at parsed
  split at parsed
  · cases parsed
  · split at parsed
    · cases parsed
    · split at parsed
      · rename_i items _ _ _
        cases ranged : castIntoRange forms castBound schema selector with
        | error error =>
            rw [ranged] at parsed
            cases parsed
        | ok range =>
            rw [ranged] at parsed
            cases parsed
      · split at parsed
        · rename_i arity
          cases parsed
          exact arity
        · cases parsed
  · cases parsed

/-- A route panics if and only if its selector is that of an unsupported range,
where it does so for these ranges only. -/
theorem panics_onSelector_iff {A : Type} {selector : S.Value}
    {proceed : KeyOrRange S -> EStateM (Failure OpError) (Handle schema) A} {handle : Handle schema}
    (condition : Prop)
    (all : ¬ Panics (proceed .all handle))
    (key : forall key, key.length = schema.key.length -> ¬ Panics (proceed (.key key) handle))
    (range : forall range, Panics (proceed (.range range) handle) <-> condition ∧
      ops.plan schema range [] ≠ .ok ()) :
    Panics (onSelector forms castBound selector proceed handle) <->
      condition ∧ ¬ Supported forms castBound ops schema selector := by
  unfold onSelector Supported
  cases parsed : KeyOrRange.tryFromValue forms castBound schema selector with
  | error error =>
      apply iff_of_false not_panics_error
      intro both
      apply both.2
      intro found impossible
      cases impossible
  | ok found =>
      cases found with
      | all =>
          apply iff_of_false all
          intro both
          apply both.2
          intro found impossible
          cases impossible
      | key selected =>
          apply iff_of_false (key selected (arity_of_tryFromValue forms castBound parsed))
          intro both
          apply both.2
          intro found impossible
          cases impossible
      | range selected =>
          apply (range selected).trans
          apply and_congr_right
          intro _
          apply not_congr
          constructor
          · intro supported found same
            cases same
            exact supported
          · intro supported
            exact supported selected rfl

variable (ranges : RangeOps S) (txn : TxnId) (owner : PersistentTable schema) (selector : S.Value)

/-- A selection which never panics for a range never panics. -/
theorem not_panics_onSelector {A : Type}
    {proceed : KeyOrRange S -> EStateM (Failure OpError) (Handle schema) A}
    {handle : Handle schema} (all : ¬ Panics (proceed .all handle))
    (key : forall key, key.length = schema.key.length -> ¬ Panics (proceed (.key key) handle))
    (range : forall range, ¬ Panics (proceed (.range range) handle)) :
    ¬ Panics (onSelector forms castBound selector proceed handle) := by
  intro panics
  have never : forall bounds, Panics (proceed (.range bounds) handle) <->
      False ∧ TableOps.reference.plan schema bounds [] ≠ .ok () :=
    fun bounds => iff_of_false (range bounds) (fun both => both.1)
  exact ((panics_onSelector_iff forms castBound TableOps.reference False all key never).mp panics).1

theorem not_panics_getRoute : ¬ Panics (getRoute forms castBound txn selector (.file owner)) := by
  apply not_panics_onSelector
  · exact not_panics_ok
  · intro key arity panics
    exact panics_readRow_iff.mp (panics_map_iff.mp panics) arity
  · intro range
    exact not_panics_ok

theorem not_panics_putRoute (value : Scalar S) :
    ¬ Panics (putRoute forms castBound ops ranges txn selector value (.file owner)) := by
  apply not_panics_onSelector
  · dsimp only
    split
    · exact not_panics_error
    · exact not_panics_update
  · intro key _
    dsimp only
    split
    · exact not_panics_error
    · exact not_panics_upsertRow
  · intro range
    dsimp only
    split
    · exact not_panics_error
    · exact not_panics_update

theorem panics_deleteRoute_iff :
    Panics (deleteRoute forms castBound ops ranges txn selector (.file owner)) <->
      Writable txn owner ∧ ¬ Supported forms castBound ops schema selector := by
  apply panics_onSelector_iff
  · intro panics
    exact (panics_truncate_iff.mp panics).2 (ops.plan_default schema)
  · intro key _
    exact not_panics_deleteRow
  · intro range
    exact panics_truncate_iff

theorem panics_containsRoute_iff :
    Panics (containsRoute forms castBound ops txn selector (.file owner)) <->
      ¬ Supported forms castBound ops schema selector := by
  rw [← true_and (¬ Supported forms castBound ops schema selector)]
  apply panics_onSelector_iff
  · intro panics
    exact not_panics_isEmpty (panics_map_iff.mp panics)
  · intro key arity panics
    exact panics_containsRow_iff.mp panics arity
  · intro range
    rw [true_and]
    exact panics_map_iff.trans panics_isEmptyIn_iff

theorem panics_countRoute_iff :
    Panics (countRoute forms castBound ops txn selector (.file owner)) <->
      ¬ Supported forms castBound ops schema selector := by
  rw [← true_and (¬ Supported forms castBound ops schema selector)]
  apply panics_onSelector_iff
  · exact not_panics_count
  · intro key arity panics
    exact panics_containsRow_iff.mp (panics_map_iff.mp panics) arity
  · intro range
    rw [true_and]
    exact panics_countIn_iff

theorem panics_isEmptyRoute_iff :
    Panics (isEmptyRoute forms castBound ops txn selector (.file owner)) <->
      ¬ Supported forms castBound ops schema selector := by
  rw [← true_and (¬ Supported forms castBound ops schema selector)]
  apply panics_onSelector_iff
  · exact not_panics_isEmpty
  · intro key arity panics
    exact panics_containsRow_iff.mp (panics_map_iff.mp panics) arity
  · intro range
    rw [true_and]
    exact panics_isEmptyIn_iff

/-- Which requests to a transactional table do not panic: all `GET` and `PUT`
requests, those to the contains, count and emptiness routes whose selector an
index supports, those `DELETE` requests, and others which are refused before they
stream, and reads of keys of the right arity. -/
theorem requests_panic_iff :
    ¬ Panics (getRoute forms castBound txn selector (.file owner)) ∧
      (forall value, ¬ Panics (putRoute forms castBound ops ranges txn selector value (.file owner))) ∧
      (¬ Panics (containsRoute forms castBound ops txn selector (.file owner)) <->
        Supported forms castBound ops schema selector) ∧
      (¬ Panics (countRoute forms castBound ops txn selector (.file owner)) <->
        Supported forms castBound ops schema selector) ∧
      (¬ Panics (isEmptyRoute forms castBound ops txn selector (.file owner)) <->
        Supported forms castBound ops schema selector) ∧
      (¬ Panics (deleteRoute forms castBound ops ranges txn selector (.file owner)) <->
        Supported forms castBound ops schema selector ∨ ¬ Writable txn owner) ∧
      forall key : Key S,
        (¬ Panics (reading (readRow txn key) (.file owner)) <-> key.length = schema.key.length) ∧
          (¬ Panics (reading (containsRow txn key) (.file owner)) <-> key.length = schema.key.length) := by
  refine ⟨not_panics_getRoute forms castBound txn owner selector,
    not_panics_putRoute forms castBound ops ranges txn owner selector,
    not_iff_comm.mp (panics_containsRoute_iff forms castBound ops txn owner selector).symm,
    not_iff_comm.mp (panics_countRoute_iff forms castBound ops txn owner selector).symm,
    not_iff_comm.mp (panics_isEmptyRoute_iff forms castBound ops txn owner selector).symm, ?_, ?_⟩
  · rw [panics_deleteRoute_iff]
    tauto
  · intro key
    rw [panics_readRow_iff, panics_containsRow_iff, not_not]
    exact ⟨Iff.rfl, Iff.rfl⟩

end Requests

end Handle

/-! ## A range without an index -/

/-- How many columns of an index are left unbounded before the last one which a range
bounds. -/
def unboundedBefore (range : Range S) (names : List S.Id) : Nat :=
  (names.reverse.dropWhile (fun name => (range name).isNone)).countP (fun name => (range name).isNone)

/-- The index begins with the order and has the columns of the range, with at most one
unbounded column in front of them. -/
def indexSupports (schema : TableSchema S) (range : Range S) (order : List S.Id)
    (index : TableIndexSchema S) : Bool :=
  order.isPrefixOf index.columnNames && decide (unboundedBefore range index.columnNames <= 1) &&
    schema.columns.all (fun name => (range name).isNone || index.columnNames.contains name)

def shallowPlan (schema : TableSchema S) (range : Range S) (order : List S.Id) : Except IoError Unit :=
  if (schema.primary :: schema.indices.map Prod.snd).any (indexSupports schema range order) then .ok ()
  else .error (.unsupported "no index supports this range and order")

theorem unboundedBefore_default (names : List S.Id) : unboundedBefore (Range.default : Range S) names = 0 := by
  have nothing : names.reverse.dropWhile (fun name => ((Range.default : Range S) name).isNone) = [] := by
    apply List.dropWhile_eq_nil_iff.mpr
    intro _ _
    rfl
  rw [unboundedBefore, nothing]
  rfl

theorem shallowPlan_default (schema : TableSchema S) : shallowPlan schema Range.default [] = .ok () := by
  apply if_pos
  rw [List.any_cons, Bool.or_eq_true]
  left
  rw [indexSupports, unboundedBefore_default]
  simp [Range.default]

/-- An engine which finds the value of a pair without an index of values, and does not find
the last column of a wider row. -/
def TableOps.shallow : TableOps S where
  streams := Streaming.StreamOps.reference
  plan := shallowPlan
  plan_default := shallowPlan_default

/-- Two key columns and two value columns, without an index. -/
def gridSchema : TableSchema Signature.data where
  key := ["k", "j"]
  values := ["a", "b"]
  primary :=
    { columnNames := ["k", "j", "a", "b"]
      columnTypes := [DatumType.number, DatumType.number, DatumType.number, DatumType.number]
      storage := {}
      columns_pos := by simp
      types_length := rfl }
  indices := []
  key_pos := by simp
  primary_names := rfl
  indices_names := by
    intro index member
    cases member

/-- A row which is committed. -/
def committedRow : Config (Delta gridSchema) (TableLock gridSchema) (Key Signature.data) :=
  Persistence.run (tableDriver TableOps.shallow gridSchema) (Config.start TableLock.empty)
    [.mutate 1 (.upsertRow [Datum.number 1, Datum.number 2] [Datum.number 5, Datum.number 6]), .commit 1]

/-- The rows whose last value is six. -/
def lastSix : Datum := .tuple [.tuple [.text "b", .number 6]]

/-- Its one part. -/
def lastSixItems : List Signature.data.Value := [Datum.tuple [.text "b", .number 6]]

def lastSixPairs : List (Signature.data.Id × ColumnRange Signature.data) := [("b", .eq (Datum.number 6))]

theorem lastSix_parsed : KeyOrRange.tryFromValue ValueForms.data taggedBound gridSchema lastSix =
    .ok (.range (Range.ofPairs lastSixPairs)) := by
  have lists : Lists ValueForms.data taggedBound lastSix lastSixPairs := by
    apply Lists.tuple rfl
    refine .cons (.equal rfl rfl rfl ?_) .nil
    intro lower upper impossible
    cases impossible
  have known : forall pair, pair ∈ lastSixPairs -> pair.1 ∈ gridSchema.columns := by
    intro pair member
    rw [List.mem_singleton.mp member]
    exact (by decide : ("b" : String) ∈ ["k", "j", "a", "b"])
  have parts : ValueForms.data.form lastSix = .tuple lastSixItems := rfl
  have named : lastSixItems.all (namesColumn ValueForms.data gridSchema) = true := by
    decide +kernel
  unfold KeyOrRange.tryFromValue
  rw [parts]
  dsimp only
  rw [if_neg (fun impossible => by cases impossible), if_pos named, castIntoRange_of_lists lists known]
  rfl

theorem lastSix_not_supported :
    ¬ Handle.Supported ValueForms.data taggedBound TableOps.shallow gridSchema lastSix := by
  intro supported
  have planned := supported _ lastSix_parsed
  revert planned
  decide +kernel

/-- Without an index of the last column, counting its rows panics, asking for them panics
either way, and so does deleting them; and so does reading under a key without columns. -/
theorem requests_panic_lastSix :
    Reachable (tableDriver TableOps.shallow gridSchema) committedRow ∧
      Panics (Handle.countRoute ValueForms.data taggedBound TableOps.shallow 2 lastSix (.file committedRow.owner)) ∧
      Panics (Handle.containsRoute ValueForms.data taggedBound TableOps.shallow 2 lastSix (.file committedRow.owner)) ∧
      Panics (Handle.isEmptyRoute ValueForms.data taggedBound TableOps.shallow 2 lastSix (.file committedRow.owner)) ∧
      Panics (Handle.deleteRoute ValueForms.data taggedBound TableOps.shallow RangeOps.reference 2 lastSix
        (.file committedRow.owner)) ∧
      Panics (reading (Handle.readRow 2 []) (.file committedRow.owner)) ∧
      Panics (reading (Handle.containsRow 2 []) (.file committedRow.owner)) := by
  refine ⟨Reachable.run (Reachable.start _) _, ?_, ?_, ?_, ?_, ?_, ?_⟩
  · exact (Handle.panics_countRoute_iff ..).mpr lastSix_not_supported
  · exact (Handle.panics_containsRoute_iff ..).mpr lastSix_not_supported
  · exact (Handle.panics_isEmptyRoute_iff ..).mpr lastSix_not_supported
  · have writable : Writable 2 committedRow.owner := ⟨⟨_, if_neg (by decide +kernel)⟩, by decide +kernel⟩
    exact (Handle.panics_deleteRoute_iff ..).mpr ⟨writable, lastSix_not_supported⟩
  · apply Handle.panics_readRow_iff.mpr
    decide
  · apply Handle.panics_containsRow_iff.mpr
    decide

/-- The engine answers a range of the value of a pair. -/
example : Except.toOption (TableOps.shallow.plan labelledSchema
    (Range.ofPairs [("value", .eq (Datum.number 5))]) []) = some () := by
  decide +kernel

end Table
end TransactionalCollection
