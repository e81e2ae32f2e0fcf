import TransactionalCollection.Table.View

namespace TransactionalCollection
namespace Table

open Layering Execution Native Persistence

/-!
# Table handles

A handle is a table, transactional or local, or one of the views of it.  What
it serves is decided by its kind: every handle can be read as a whole, tables
alone take writes to single rows, and a slice passes range writes on to its
table.
-/

variable {S : Signature}

section Local

variable {schema : TableSchema S}

/-- The old row is deleted before the new one is validated. -/
def upsertLocal (key : Key S) (values : List S.Value) : EStateM IoError (TableLock schema) PUnit := do
  eraseRow key
  upsert key values

def insertLocal (key : Key S) (values : List S.Value) : EStateM OpError (TableLock schema) PUnit :=
  fun table =>
    match getRow table key with
    | .error error => .error (.io error) table
    | .ok (some _) => .error (.request (keyExists key)) table
    | .ok none => mapError OpError.io (upsert key values) table

end Local

/-- A relational table, or a view of one. -/
inductive Handle (schema : TableSchema S) where
  | file (owner : PersistentTable schema)
  | localTable (table : TableLock schema)
  | tableSlice (view : TableSlice schema)
  | limited (view : Limited schema)
  | selection (view : Selection schema)

namespace Handle

variable {schema : TableSchema S} (ops : TableOps S)

/-- A request which the kind of handle does not serve. -/
def refuse {A : Type} (message : String) (handle : Handle schema) :
    EStateM.Result (Failure OpError) (Handle schema) A :=
  .error (.error (.request (.badRequest message))) handle

def semanticSchema : Handle schema -> TableSchema S
  | .file _ | .localTable _ | .tableSlice _ | .limited _ => schema
  | .selection view => view.schema

def isPersistent : Handle schema -> Bool
  | .file _ => true
  | .localTable _ | .tableSlice _ | .limited _ | .selection _ => false

/-- All rows of the table or view, in natural order unless the view has
another. -/
def rowStream (txn : TxnId) :
    Handle schema -> Except (Failure OpError) (List (Row S)) × Handle schema
  | .file owner =>
      let outcome := Table.rows ops txn Range.default [] false owner
      (outcome.1.mapError lockFailure, .file outcome.2)
  | .localTable table =>
      ((Table.rowStream ops table Range.default [] false).mapError (fun error => .error (.io error)),
        .localTable table)
  | .tableSlice view => (view.rows ops txn).map id .tableSlice
  | .limited view => (view.rows ops txn).map id .limited
  | .selection view => (view.rows ops txn).map id .selection

/-- Only a table can be sliced through its handle. -/
def slice (range : Range S) (order : List S.Id) (reverse : Bool) :
    Handle schema -> Except TCError (TableSlice schema)
  | .file owner => .ok ⟨.file owner, range, order, reverse⟩
  | .localTable table => .ok ⟨.localTable table, range, order, reverse⟩
  | .tableSlice _ | .limited _ | .selection _ =>
      .error (.badRequest "cannot slice an already transformed Table view")

def orderBy (columns : List S.Id) (reverse : Bool) (handle : Handle schema) :
    Except TCError (TableSlice schema) :=
  handle.slice Range.default columns reverse

def limit (limit : Nat) (handle : Handle schema) : Except TCError (Limited schema) :=
  (handle.slice Range.default [] false).map (fun slice => slice.limit limit)

def select (columns : List S.Id) (handle : Handle schema) : Except TCError (Selection schema) := do
  let slice <- handle.slice Range.default [] false
  slice.select columns

def readRow (txn : TxnId) (key : Key S) :
    Handle schema -> Except (Failure OpError) (Option (Row S)) × Handle schema
  | .file owner =>
      let outcome := Table.readRow txn key owner
      (outcome.1.mapError Failure.panic, .file outcome.2)
  | .localTable table =>
      ((getRow table key).mapError (fun error => .error (.io error)), .localTable table)
  | handle => (.error (.error (.request (.badRequest "cannot read a row from this Table view"))), handle)

def containsRow (txn : TxnId) (key : Key S) :
    Handle schema -> Except (Failure OpError) Bool × Handle schema
  | .file owner =>
      let outcome := Table.containsRow txn key owner
      (outcome.1.mapError Failure.panic, .file outcome.2)
  | .localTable table =>
      (((getRow table key).map Option.isSome).mapError (fun error => .error (.io error)),
        .localTable table)
  | handle =>
      (.error (.error (.request (.badRequest "cannot test membership of this Table view"))), handle)

def count (txn : TxnId) : Handle schema -> Except (Failure OpError) Nat × Handle schema
  | .file owner =>
      let outcome := Table.count ops txn owner
      (outcome.1.mapError Failure.panic, .file outcome.2)
  | .localTable table =>
      ((nativeCount ops table Range.default).mapError (fun error => .error (.io error)),
        .localTable table)
  | .tableSlice view => (view.count ops txn).map id .tableSlice
  | .limited view => (view.count ops txn).map id .limited
  | .selection view => (view.count ops txn).map id .selection

def isEmpty (txn : TxnId) : Handle schema -> Except (Failure OpError) Bool × Handle schema
  | .file owner => ((Table.isEmpty ops txn owner).mapError Failure.panic, .file owner)
  | .localTable table =>
      ((nativeIsEmpty ops table Range.default).mapError (fun error => .error (.io error)),
        .localTable table)
  | .tableSlice view => (view.isEmpty ops txn).map id .tableSlice
  | .limited view => (view.isEmpty ops txn).map id .limited
  | .selection view => (view.isEmpty ops txn).map id .selection

def upsertRow (txn : TxnId) (key : Key S) (values : List S.Value) :
    EStateM (Failure OpError) (Handle schema) PUnit
  | .file owner =>
      rewrap file (mapError (fun error => .error (.lock error)) (Table.upsertRow txn key values) owner)
  | .localTable table =>
      rewrap localTable (mapError (fun error => .error (.io error)) (upsertLocal key values) table)
  | handle => refuse "cannot mutate a Table view" handle

def insertRow (txn : TxnId) (key : Key S) (values : List S.Value) :
    EStateM (Failure OpError) (Handle schema) PUnit
  | .file owner => rewrap file (Table.insertRow txn key values owner)
  | .localTable table => rewrap localTable (mapError Failure.error (insertLocal key values) table)
  | handle => refuse "cannot insert into a Table view" handle

def deleteRow (txn : TxnId) (key : Key S) : EStateM (Failure OpError) (Handle schema) PUnit
  | .file owner => rewrap file (mapError lockFailure (Table.deleteRow txn key) owner)
  | .localTable table =>
      rewrap localTable (mapError (fun error => .error (.io error)) (eraseRow key) table)
  | handle => refuse "cannot delete a row from a Table view" handle

def truncate (ranges : RangeOps S) (txn : TxnId) (range : Range S) :
    EStateM (Failure OpError) (Handle schema) PUnit
  | .file owner => rewrap file (mapError lockFailure (Table.truncate ops txn range) owner)
  | .localTable table => rewrap localTable (mapError Failure.error (truncateLocal ops range) table)
  | .tableSlice view => rewrap tableSlice (view.truncate ops ranges txn range)
  | handle => refuse "cannot truncate this Table view" handle

def update (ranges : RangeOps S) (txn : TxnId) (range : Range S) (values : List (S.Id × S.Value)) :
    EStateM (Failure OpError) (Handle schema) PUnit
  | .file owner => rewrap file (mapError lockFailure (Table.update ops txn range values) owner)
  | .localTable table =>
      rewrap localTable (mapError Failure.error (updateLocal ops range values) table)
  | .tableSlice view => rewrap tableSlice (TableSlice.update ops ranges txn range values view)
  | handle => refuse "cannot update this Table view" handle

/-! ## Single rows -/

/-- The values a table binds to each key, under the deltas which a transaction sees.  A view
has no rows of its own. -/
def bound (txn : TxnId) : Handle schema -> View (Key S) (List S.Value)
  | .file owner => owner.state.view txn
  | .localTable table => bindings table
  | .tableSlice _ | .limited _ | .selection _ => fun _ => none

/-- A key is bound as before, and if it is read as it is then it reads the same. -/
def SameAt (txn : TxnId) (key : Key S) (before after : Handle schema) : Prop :=
  after.bound txn key = before.bound txn key ∧
    (Settled schema key -> (after.readRow txn key).1 = (before.readRow txn key).1)

section ReadRow

variable {schema : TableSchema S} {txn : TxnId} {key : Key S}

theorem readRow_file_congr {before after : PersistentTable schema}
    (same : after.state.view txn (readKey schema key) = before.state.view txn (readKey schema key)) :
    ((Handle.file after).readRow txn key).1 = ((Handle.file before).readRow txn key).1 := by
  change (resolveRow (after.state.visibleSnapshot txn) key).mapError Failure.panic =
    (resolveRow (before.state.visibleSnapshot txn) key).mapError Failure.panic
  rw [resolveRow_congr (fun _ => same)]

theorem readRow_local_congr {before after : TableLock schema}
    (same : after.rows[readKey schema key]? = before.rows[readKey schema key]?) :
    ((Handle.localTable after).readRow txn key).1 = ((Handle.localTable before).readRow txn key).1 := by
  change (getRow after key).mapError _ = (getRow before key).mapError _
  by_cases arity : key.length = schema.key.length
  · rw [getRow_of_arity arity, getRow_of_arity arity, same]
  · rw [getRow, getRow, TableSchema.rangeFromKey, if_pos arity]

theorem sameAt_file {before after : PersistentTable schema}
    (same : after.state.view txn key = before.state.view txn key) :
    SameAt txn key (.file before) (.file after) := by
  refine ⟨same, fun settled => readRow_file_congr ?_⟩
  rwa [settled]

theorem sameAt_local {before after : TableLock schema} (same : after.rows[key]? = before.rows[key]?) :
    SameAt txn key (.localTable before) (.localTable after) := by
  refine ⟨same, fun settled => readRow_local_congr ?_⟩
  rwa [settled]

theorem SameAt.refl (txn : TxnId) (key : Key S) (handle : Handle schema) : SameAt txn key handle handle :=
  ⟨rfl, fun _ => rfl⟩

end ReadRow

end Handle

end Table
end TransactionalCollection
