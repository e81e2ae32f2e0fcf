import TransactionalCollection.Collection.Bounds
import TransactionalCollection.Streaming.Prefix
import TransactionalCollection.Table.Lifecycle

namespace TransactionalCollection
namespace Table

open Std Execution Native Persistence

/-!
# Table views

A local table is a native table without transactions, and its range mutations
go through a staging table.  A slice reads a table, of either kind, through a
range, an order and a direction; a limited view caps the rows of a slice, and a
selection projects them.

A view shares the state of its table with every other view of it.  Here it
carries that state, so an operation on a view yields the view as it is
afterwards.
-/

variable {S : Signature}

/-! ## Local tables -/

section Local

variable {schema : TableSchema S}

/-- `TableLock::count`. -/
def nativeCount (ops : TableOps S) (table : TableLock schema) (range : Range S) :
    Except IoError Nat :=
  (rowStream ops table range [] false).map List.length

/-- `TableLock::is_empty`. -/
def nativeIsEmpty (ops : TableOps S) (table : TableLock schema) (range : Range S) :
    Except IoError Bool :=
  (rowStream ops table range [] false).map List.isEmpty

/-- A row with its updates, if there are any. -/
def stagedRow (schema : TableSchema S) (updates : Option (List (S.Id × S.Value))) (row : Row S) :
    Row S :=
  match updates with
  | some values => assignColumns schema values row
  | none => row

/-- Put a row into the staging table. -/
def stageRow (updates : Option (List (S.Id × S.Value))) (row : Row S) :
    EStateM IoError (TableLock schema) PUnit :=
  let row := stagedRow schema updates row
  upsert (row.take schema.key.length) (row.drop schema.key.length)

/-- Take a staged row out of the table, and put it back if it is an update. -/
def replaceRow (updating : Bool) (row : Row S) : EStateM IoError (TableLock schema) PUnit := do
  eraseRow (row.take schema.key.length)
  if updating then upsert (row.take schema.key.length) (row.drop schema.key.length)

/-- All rows are staged before the first of them is replaced. -/
def rewriteLocal (ops : TableOps S) (range : Range S) (updates : Option (List (S.Id × S.Value))) :
    EStateM OpError (TableLock schema) PUnit := fun table =>
  match rowStream ops table range [] false with
  | .error error => .error (.io error) table
  | .ok rows =>
      match forM rows (stageRow updates) (TableLock.empty : TableLock schema) with
      | .error error _ => .error (.io error) table
      | .ok _ temp =>
          match rowStream ops temp Range.default [] false with
          | .error error => .error (.io error) table
          | .ok staged => mapError OpError.io (forM staged (replaceRow updates.isSome)) table

def updateLocal (ops : TableOps S) (range : Range S) (values : List (S.Id × S.Value)) :
    EStateM OpError (TableLock schema) PUnit := fun table =>
  match notUpdatable schema values with
  | some entry =>
      .error (.request (.badRequest s!"cannot update key column {S.displayId entry.1}")) table
  | none => rewriteLocal ops range (some values) table

def truncateLocal (ops : TableOps S) (range : Range S) : EStateM OpError (TableLock schema) PUnit :=
  rewriteLocal ops range none

end Local

/-! ## What views need of the crates below -/

/-- A column of a range admits a value, as every value if it is not bounded. -/
def Range.admitsAt (range : Range S) (name : S.Id) (value : S.Value) : Bool :=
  (range name).all (fun bound => bound.admits value)

/-- `b_table::Range::intersection`: what both ranges admit, or `none` for ranges
which have nothing in common. -/
structure RangeOps (S : Signature) where
  intersection : Range S -> Range S -> Option (Range S)
  some_admits : forall {left right both : Range S}, intersection left right = some both ->
    forall name value, both.admitsAt name value = (left.admitsAt name value && right.admitsAt name value)

/-- Bounds between a value and itself, which admit none. -/
def ColumnRange.nothing (value : S.Value) : ColumnRange S := .within (.excluded value, .excluded value)

/-- The values which two bounds of one column admit. -/
def ColumnRange.meet : ColumnRange S -> ColumnRange S -> ColumnRange S
  | .eq value, other => if other.admits value then .eq value else nothing value
  | .within bounds, .eq value => if bounds.admits value then .eq value else nothing value
  | .within left, .within right =>
      .within (Collection.maxLowerBound left.1 right.1, Collection.minUpperBound left.2 right.2)

theorem ColumnRange.nothing_admits (value other : S.Value) : (nothing value).admits other = false := by
  simp only [nothing, admits, Bounds.admits]
  rw [show compare other value = (compare value other).swap from OrientedCmp.eq_swap]
  cases compare value other <;> rfl

theorem ColumnRange.meet_admits (left right : ColumnRange S) (value : S.Value) :
    (left.meet right).admits value = (left.admits value && right.admits value) := by
  have equal : forall expected : S.Value, forall other : ColumnRange S,
      (if other.admits expected then ColumnRange.eq expected else nothing expected).admits value =
        ((ColumnRange.eq expected).admits value && other.admits value) := by
    intro expected other
    by_cases same : expected = value
    · subst same
      cases admitted : other.admits expected
      · simp only [Bool.false_eq_true, if_false, nothing_admits, Bool.and_false]
      · simp [admits]
    · have apart : (ColumnRange.eq expected).admits value = false := by
        simp [admits, same]
      cases admitted : other.admits expected <;> simp [apart, nothing_admits]
  cases left with
  | eq expected => exact equal expected right
  | within bounds =>
      cases right with
      | eq expected => exact (equal expected (.within bounds)).trans (Bool.and_comm _ _)
      | within others => exact Collection.admits_meet bounds others value

/-- A column either range bounds is bounded by both. -/
def ColumnRange.meetOptions : Option (ColumnRange S) -> Option (ColumnRange S) -> Option (ColumnRange S)
  | some left, some right => some (left.meet right)
  | some left, none => some left
  | none, right => right

/-- Meeting ranges column by column. -/
def RangeOps.reference : RangeOps S where
  intersection left right := some (fun name => ColumnRange.meetOptions (left name) (right name))
  some_admits := by
    intro left right both same name value
    cases same
    unfold Range.admitsAt
    dsimp only
    cases left name with
    | none => rfl
    | some bound =>
        cases right name with
        | none => simp [ColumnRange.meetOptions]
        | some other => simp [ColumnRange.meetOptions, ColumnRange.meet_admits]

/-! ## Sources -/

/-- What a slice reads. -/
inductive TableSource (schema : TableSchema S) where
  | file (owner : PersistentTable schema)
  | localTable (table : TableLock schema)

namespace TableSource

variable {schema : TableSchema S} (ops : TableOps S)

def rows (txn : TxnId) (range : Range S) (order : List S.Id) (reverse : Bool) :
    TableSource schema -> Except (Failure OpError) (List (Row S)) × TableSource schema
  | .file owner =>
      let outcome := Table.rows ops txn range order reverse owner
      (outcome.1.mapError lockFailure, .file outcome.2)
  | .localTable table =>
      ((rowStream ops table range order reverse).mapError (fun error => .error (.io error)),
        .localTable table)

def count (txn : TxnId) (range : Range S) :
    TableSource schema -> Except (Failure OpError) Nat × TableSource schema
  | .file owner =>
      let outcome := countIn ops txn range owner
      (outcome.1.mapError Failure.panic, .file outcome.2)
  | .localTable table =>
      ((nativeCount ops table range).mapError (fun error => .error (.io error)), .localTable table)

def isEmpty (txn : TxnId) (range : Range S) :
    TableSource schema -> Except (Failure OpError) Bool × TableSource schema
  | .file owner => ((isEmptyIn ops txn range owner).mapError Failure.panic, .file owner)
  | .localTable table =>
      ((nativeIsEmpty ops table range).mapError (fun error => .error (.io error)), .localTable table)

def update (txn : TxnId) (range : Range S) (values : List (S.Id × S.Value)) :
    EStateM (Failure OpError) (TableSource schema) PUnit
  | .file owner => rewrap file (mapError lockFailure (Table.update ops txn range values) owner)
  | .localTable table => rewrap localTable (mapError Failure.error (updateLocal ops range values) table)

def truncate (txn : TxnId) (range : Range S) : EStateM (Failure OpError) (TableSource schema) PUnit
  | .file owner => rewrap file (mapError lockFailure (Table.truncate ops txn range) owner)
  | .localTable table => rewrap localTable (mapError Failure.error (truncateLocal ops range) table)

end TableSource

/-! ## Views -/

/-- A table through a range, an order and a direction. -/
structure TableSlice (schema : TableSchema S) where
  table : TableSource schema
  range : Range S
  order : List S.Id
  reverse : Bool

/-- The positions of columns, in the order of their names. -/
def columnIndices (schema : TableSchema S) (columns : List S.Id) : List Nat :=
  columns.filterMap (fun column => schema.columns.findIdx? (fun name => decide (name = column)))

/-- One row of `Rows::select`. -/
def projectRow (indices : List Nat) (row : Row S) : Row S := indices.filterMap (fun index => row[index]?)

/-- At most `limit` rows of a slice. -/
structure Limited (schema : TableSchema S) where
  source : TableSlice schema
  limit : Nat

/-- Some columns of the rows of a slice, perhaps of the first few only. -/
structure Selection (source : TableSchema S) where
  source : TableSlice source
  schema : TableSchema S
  columns : List S.Id
  limit : Option Nat

namespace TableSlice

variable {schema : TableSchema S} (ops : TableOps S)

/-- Report on the table, and keep the slice. -/
def onTable {A : Type} (slice : TableSlice schema)
    (outcome : Except (Failure OpError) A × TableSource schema) :
    Except (Failure OpError) A × TableSlice schema :=
  (outcome.1, { slice with table := outcome.2 })

def rows (txn : TxnId) (slice : TableSlice schema) :
    Except (Failure OpError) (List (Row S)) × TableSlice schema :=
  slice.onTable (slice.table.rows ops txn slice.range slice.order slice.reverse)

def count (txn : TxnId) (slice : TableSlice schema) :
    Except (Failure OpError) Nat × TableSlice schema :=
  slice.onTable (slice.table.count ops txn slice.range)

def isEmpty (txn : TxnId) (slice : TableSlice schema) :
    Except (Failure OpError) Bool × TableSlice schema :=
  slice.onTable (slice.table.isEmpty ops txn slice.range)

/-- The rows `on_row` is called with. -/
def forEachRowInOrder (txn : TxnId) (slice : TableSlice schema) :
    Except (Failure OpError) (List (Row S)) × TableSlice schema :=
  slice.rows ops txn

def limit (slice : TableSlice schema) (limit : Nat) : Limited schema := ⟨slice, limit⟩

def select (slice : TableSlice schema) (columns : List S.Id) : Except TCError (Selection schema) := do
  let projected <- schema.project columns
  return ⟨slice, projected.1, projected.2, none⟩

/-- The sub-range takes precedence for shared columns. -/
def slice (slice : TableSlice schema) (sub : Range S) : TableSlice schema :=
  { slice with range := fun name => (sub name).or (slice.range name) }

/-- Write to the table, and keep the slice. -/
def onSource (program : EStateM (Failure OpError) (TableSource schema) PUnit) :
    EStateM (Failure OpError) (TableSlice schema) PUnit :=
  focus table (fun table slice => { slice with table := table }) program

def update (ranges : RangeOps S) (txn : TxnId) (range : Range S) (values : List (S.Id × S.Value)) :
    EStateM (Failure OpError) (TableSlice schema) PUnit := fun slice =>
  match ranges.intersection slice.range range with
  | none => .ok ⟨⟩ slice
  | some both => onSource (TableSource.update ops txn both values) slice

def truncate (ranges : RangeOps S) (txn : TxnId) (range : Range S) :
    EStateM (Failure OpError) (TableSlice schema) PUnit := fun slice =>
  match ranges.intersection slice.range range with
  | none => .ok ⟨⟩ slice
  | some both => onSource (TableSource.truncate ops txn both) slice

end TableSlice

namespace Limited

variable {schema : TableSchema S} (ops : TableOps S)

/-- Report on the slice, and keep the limit. -/
def onSlice {A : Type} (view : Limited schema)
    (outcome : Except (Failure OpError) A × TableSlice schema) :
    Except (Failure OpError) A × Limited schema :=
  (outcome.1, { view with source := outcome.2 })

def rows (txn : TxnId) (view : Limited schema) :
    Except (Failure OpError) (List (Row S)) × Limited schema :=
  let outcome := view.source.rows ops txn
  view.onSlice (outcome.1.map (List.take view.limit), outcome.2)

/-- Counts the rows of the capped stream. -/
def count (txn : TxnId) (view : Limited schema) : Except (Failure OpError) Nat × Limited schema :=
  if view.limit = 0 then (.ok 0, view)
  else
    let outcome := view.rows ops txn
    (outcome.1.map List.length, outcome.2)

def isEmpty (txn : TxnId) (view : Limited schema) : Except (Failure OpError) Bool × Limited schema :=
  if view.limit = 0 then (.ok true, view)
  else view.onSlice (view.source.isEmpty ops txn)

def forEachRowInOrder (txn : TxnId) (view : Limited schema) :
    Except (Failure OpError) (List (Row S)) × Limited schema :=
  if view.limit = 0 then (.ok [], view) else view.rows ops txn

def select (view : Limited schema) (columns : List S.Id) : Except TCError (Selection schema) := do
  let projected <- schema.project columns
  return ⟨view.source, projected.1, projected.2, some view.limit⟩

end Limited

namespace Selection

variable {schema : TableSchema S} (ops : TableOps S)

/-- Report on the slice, and keep the projection. -/
def onSlice {A : Type} (view : Selection schema)
    (outcome : Except (Failure OpError) A × TableSlice schema) :
    Except (Failure OpError) A × Selection schema :=
  (outcome.1, { view with source := outcome.2 })

/-- The limit of the source, if any, is applied before the projection. -/
def rows (txn : TxnId) (view : Selection schema) :
    Except (Failure OpError) (List (Row S)) × Selection schema :=
  let outcome := view.source.rows ops txn
  let limited := match view.limit with
    | some limit => outcome.1.map (List.take limit)
    | none => outcome.1
  view.onSlice (limited.map (List.map (projectRow (columnIndices schema view.columns))), outcome.2)

theorem rows_of_streamed {ops : TableOps S} {txn : TxnId} {view : Selection schema} {stream : List (Row S)}
    (streamed : (view.source.rows ops txn).1 = .ok stream) :
    (view.rows ops txn).1 =
      .ok ((Streaming.capped view.limit stream).map (projectRow (columnIndices schema view.columns))) := by
  unfold rows
  dsimp only [onSlice]
  rw [streamed]
  cases view.limit with
  | none => rfl
  | some limit => rfl

/-- Counts the rows of the source. -/
def count (txn : TxnId) (view : Selection schema) : Except (Failure OpError) Nat × Selection schema :=
  view.onSlice (view.source.count ops txn)

def isEmpty (txn : TxnId) (view : Selection schema) :
    Except (Failure OpError) Bool × Selection schema :=
  view.onSlice (view.source.isEmpty ops txn)

/-- Projects the rows of the source. -/
def forEachRowInOrder (txn : TxnId) (view : Selection schema) :
    Except (Failure OpError) (List (Row S)) × Selection schema :=
  let outcome := view.source.forEachRowInOrder ops txn
  view.onSlice
    (outcome.1.map (List.map (projectRow (columnIndices schema view.columns))), outcome.2)

end Selection

end Table
end TransactionalCollection
