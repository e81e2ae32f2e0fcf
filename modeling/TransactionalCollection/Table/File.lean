import Mathlib.Data.List.Sort
import TransactionalCollection.Persistence.Owner
import TransactionalCollection.Streaming.SortedStream
import TransactionalCollection.Table.Collator

namespace TransactionalCollection
namespace Table

open Std Execution Native Persistence Streaming

/-!
# The transactional Table

A native table is a finite map from keys to values which validates what is put
into it.  Its row streams show the rows of a range as of their opening, in key
order or in the order of some columns, and which ranges and orders an index
supports is for the storage engine to say.

A delta is a pair of native tables.  Inserted rows are versions, and deleted
rows are kept with the values they had when they were deleted.
-/

variable {S : Signature}

/-! ## Native tables -/

/-- A native table.  Its rows are valid for the schema. -/
structure TableLock (schema : TableSchema S) where
  rows : ExtTreeMap (Key S) (List S.Value)
  valid : forall key values, rows[key]? = some values ->
    schema.ValidKey key ∧ schema.ValidValues values

/-- What the table code needs of the crates below it: the stream operators, and
whether an index supports a range and an order. -/
structure TableOps (S : Signature) where
  streams : StreamOps
  plan : TableSchema S -> Range S -> List S.Id -> Except IoError Unit
  plan_default : forall schema, plan schema Range.default [] = .ok ()

/-- Streams collated by the reference operators, with an index for everything. -/
def TableOps.reference : TableOps S where
  streams := StreamOps.reference
  plan _ _ _ := .ok ()
  plan_default _ := rfl

namespace TableLock

variable {schema : TableSchema S}

@[ext] theorem ext {left right : TableLock schema} (same : left.rows = right.rows) : left = right := by
  cases left
  cases right
  cases same
  rfl

def empty : TableLock schema where
  rows := ∅
  valid := by
    intro key values found
    rw [ExtTreeMap.getElem?_empty] at found
    cases found

/-- Bind a valid key to valid values. -/
def put (table : TableLock schema) (key : Key S) (values : List S.Value)
    (validKey : schema.ValidKey key) (validValues : schema.ValidValues values) :
    TableLock schema where
  rows := table.rows.insert key values
  valid := by
    intro other found present
    rw [ExtTreeMap.getElem?_insert] at present
    split at present
    · rename_i same
      cases present
      exact ⟨LawfulEqCmp.eq_of_compare same ▸ validKey, validValues⟩
    · exact table.valid other found present

/-- Unbind a key. -/
def erase (table : TableLock schema) (key : Key S) : TableLock schema where
  rows := table.rows.erase key
  valid := by
    intro other found present
    rw [ExtTreeMap.getElem?_erase] at present
    split at present
    · cases present
    · exact table.valid other found present

theorem put_rows (table : TableLock schema) (key : Key S) (values : List S.Value)
    (validKey : schema.ValidKey key) (validValues : schema.ValidValues values) (other : Key S) :
    (table.put key values validKey validValues).rows[other]? =
      if key = other then some values else table.rows[other]? := by
  rw [put, ExtTreeMap.getElem?_insert]
  simp only [LawfulEqCmp.compare_eq_iff_eq]

theorem erase_rows (table : TableLock schema) (key other : Key S) :
    (table.erase key).rows[other]? = if key = other then none else table.rows[other]? := by
  rw [erase, ExtTreeMap.getElem?_erase]
  simp only [LawfulEqCmp.compare_eq_iff_eq]

/-- All rows, in key order. -/
def allRows (table : TableLock schema) : List (Row S) :=
  table.rows.toList.map (fun entry => entry.1 ++ entry.2)

/-- The rows of a range, in key order or in the order of some columns with ties
by key, and either way round. -/
def sortedRows (table : TableLock schema) (range : Range S) (order : List S.Id) (reverse : Bool) :
    List (Row S) :=
  let rows := table.allRows.filter (schema.admits range)
  let ordered :=
    if order.isEmpty then rows
    else rows.insertionSort (fun left right =>
      ((RowCollator.forOrder schema order false).cmp left right).then
        ((RowCollator.forOrder schema [] false).cmp left right) ≠ .gt)
  if reverse then ordered.reverse else ordered

/-- The rows whose key columns satisfy a range made from a key, in the order of the primary
index.  Value columns of other names are not in the range. -/
def keyedRows (table : TableLock schema) (range : Range S) : List (Row S) :=
  table.allRows.filter (fun row => schema.admitsKey range (keyOf schema row))

end TableLock

section NativeCalls

variable {schema : TableSchema S}

def rowStream (ops : TableOps S) (table : TableLock schema) (range : Range S) (order : List S.Id)
    (reverse : Bool) : Except IoError (List (Row S)) :=
  match ops.plan schema range order with
  | .error error => .error error
  | .ok () => .ok (table.sortedRows range order reverse)

/-- The first row of the range which the key makes.  The primary index supports a range
which bounds all key columns. -/
def getRow (table : TableLock schema) (key : Key S) : Except IoError (Option (Row S)) :=
  match schema.rangeFromKey key with
  | .error error => .error (.invalidInput error.message)
  | .ok range => .ok (table.keyedRows range).head?

def upsert (key : Key S) (values : List S.Value) : EStateM IoError (TableLock schema) PUnit :=
  fun table =>
    match accepted : schema.validateKey key with
    | .error error => .error (.other error.message) table
    | .ok _ =>
        match acceptedValues : schema.validateValues values with
        | .error error => .error (.other error.message) table
        | .ok _ => .ok ⟨⟩ (table.put key values
            (TableSchema.validateKey_eq_ok_iff.mp accepted).1
            (TableSchema.validateValues_eq_ok_iff.mp acceptedValues).1)

def eraseRow (key : Key S) : EStateM IoError (TableLock schema) PUnit :=
  fun table => .ok ⟨⟩ (table.erase key)

end NativeCalls

/-! ## Deltas -/

structure Delta (schema : TableSchema S) where
  inserts : TableLock schema
  deletes : TableLock schema

namespace Delta

variable {schema : TableSchema S}

/-- `Delta::create`: empty insert and delete storage. -/
def create : Delta schema := ⟨.empty, .empty⟩

/-- Empty inserts, and canonical contents in deletes. -/
def forRestore (canonical : TableLock schema) : Delta schema := ⟨.empty, canonical⟩

def onInserts {A : Type} (operation : EStateM IoError (TableLock schema) A) :
    EStateM IoError (Delta schema) A :=
  focus inserts (fun inserts delta => { delta with inserts := inserts }) operation

def onDeletes {A : Type} (operation : EStateM IoError (TableLock schema) A) :
    EStateM IoError (Delta schema) A :=
  focus deletes (fun deletes delta => { delta with deletes := deletes }) operation

def upsert (key : Key S) (values : List S.Value) : EStateM IoError (Delta schema) PUnit := do
  onDeletes (eraseRow key)
  onInserts (eraseRow key)
  onInserts (Table.upsert key values)

def deleteFromInserts (key : Key S) : EStateM IoError (Delta schema) PUnit :=
  onInserts (eraseRow key)

def addToDeletes (key : Key S) (values : List S.Value) : EStateM IoError (Delta schema) PUnit :=
  onDeletes (Table.upsert key values)

def getInsertedRow (delta : Delta schema) (key : Key S) : Except IoError (Option (Row S)) :=
  getRow delta.inserts key

def alreadyDeleted (delta : Delta schema) (key : Key S) : Except IoError Bool :=
  (getRow delta.deletes key).map Option.isSome

/-- Merge the inserted rows over a stream, then subtract the deleted ones. -/
def mergeInto (ops : TableOps S) (delta : Delta schema) (rows : List (Row S)) (range : Range S)
    (order : List S.Id) (reverse : Bool) (collator : RowCollator) : Except Panic (List (Row S)) := do
  let inserted <- expect "stream insert delta rows" (rowStream ops delta.inserts range order reverse)
  let merged := ops.streams.tryMerge collator.cmp inserted rows
  let deleted <- expect "stream delete delta rows" (rowStream ops delta.deletes range order reverse)
  return ops.streams.tryDiff collator.cmp merged deleted

/-- An individual write that `applyTo` performs on canonical storage. -/
inductive NativeWrite (schema : TableSchema S) where
  | upsert (key : Key S) (values : List S.Value) (validKey : schema.ValidKey key)
      (validValues : schema.ValidValues values)
  | deleteRow (key : Key S)

def NativeWrite.perform : NativeWrite schema -> TableLock schema -> TableLock schema
  | .upsert key values validKey validValues, table => table.put key values validKey validValues
  | .deleteRow key, table => table.erase key

/-- The row of a stored entry as a write. -/
def insertedWrite (table : TableLock schema)
    (entry : { entry : Key S × List S.Value // entry ∈ table.rows.toList }) : NativeWrite schema :=
  have valid := table.valid entry.1.1 entry.1.2 (ExtTreeMap.mem_toList_iff_getElem?_eq_some.mp entry.2)
  .upsert entry.1.1 entry.1.2 valid.1 valid.2

/-- All insertions in key order, then all deletions in key order. -/
def nativeWrites (delta : Delta schema) : List (NativeWrite schema) :=
  delta.inserts.rows.toList.attach.map (insertedWrite delta.inserts) ++
    delta.deletes.rows.toList.map (fun entry => .deleteRow entry.1)

/-- `PersistentDelta::apply_to`.  The streams are unbounded and in natural
order, which is always supported. -/
def applyTo (delta : Delta schema) : EStateM IoError (TableLock schema) PUnit := do
  let keyLength := schema.key.length
  forM delta.inserts.allRows (fun row => Table.upsert (row.take keyLength) (row.drop keyLength))
  forM delta.deletes.allRows (fun row => eraseRow (row.take keyLength))

end Delta

/-! ## The transactional table -/

abbrev TableState (schema : TableSchema S) := State (Delta schema) (TableLock schema)

section Reads

variable {schema : TableSchema S}

abbrev TableSnapshot (schema : TableSchema S) := VisibleSnapshot (Delta schema) (TableLock schema)

/-- Each delta in turn is merged into the rows below it. -/
def mergeDeltas (ops : TableOps S) (deltas : List (Delta schema)) (rows : List (Row S))
    (range : Range S) (order : List S.Id) (reverse : Bool) (collator : RowCollator) :
    Except Panic (List (Row S)) :=
  deltas.foldlM (fun rows delta => delta.mergeInto ops rows range order reverse collator) rows

/-- The rows `for_each_visible_row_until` calls back with until it is told to
stop. -/
def visibleRows (ops : TableOps S) (snapshot : TableSnapshot schema) (range : Range S)
    (order : List S.Id) (reverse : Bool) : Except Panic (List (Row S)) := do
  let rows <- expect "stream persistent rows" (rowStream ops snapshot.persistent range order reverse)
  mergeDeltas ops snapshot.deltas rows range order reverse
    (RowCollator.forOrder schema order reverse)

/-- Look a key up in one delta over what is visible below it: deletions first,
then insertions. -/
def Delta.resolveOver (delta : Delta schema) (key : Key S) (row : Option (Row S)) :
    Except Panic (Option (Row S)) := do
  let deleted <- expect "check delete delta" (getRow delta.deletes key)
  let row := if deleted.isSome then none else row
  let inserted <- expect "check insert delta" (getRow delta.inserts key)
  return inserted.or row

def resolveRow (snapshot : TableSnapshot schema) (key : Key S) : Except Panic (Option (Row S)) := do
  let row <- expect "check persistent visibility" (getRow snapshot.persistent key)
  snapshot.deltas.foldlM (fun row delta => delta.resolveOver key row) row

def isRowVisible (snapshot : TableSnapshot schema) (key : Key S) : Except Panic Bool :=
  (resolveRow snapshot key).map Option.isSome

end Reads

abbrev PersistentTable (schema : TableSchema S) :=
  CollectionOwner (Delta schema) (TableLock schema) (Key S)

section PermittedReads

variable {schema : TableSchema S} (ops : TableOps S)

def readRow (txn : TxnId) (key : Key S) (owner : PersistentTable schema) :
    Except Panic (Option (Row S)) × PersistentTable schema :=
  let owner := owner.acquireReadPermit txn (.one key)
  (resolveRow (owner.state.visibleSnapshot txn) key, owner)

def containsRow (txn : TxnId) (key : Key S) (owner : PersistentTable schema) :
    Except Panic Bool × PersistentTable schema :=
  let owner := owner.acquireReadPermit txn (.one key)
  (isRowVisible (owner.state.visibleSnapshot txn) key, owner)

/-- The rows `for_each_row_in_order` calls back with, in order. -/
def forEachRowInOrder (txn : TxnId) (range : Range S) (order : List S.Id) (reverse : Bool)
    (owner : PersistentTable schema) : Except Panic (List (Row S)) × PersistentTable schema :=
  let owner := owner.acquireReadPermit txn .all
  (visibleRows ops (owner.state.visibleSnapshot txn) range order reverse, owner)

def countIn (txn : TxnId) (range : Range S) (owner : PersistentTable schema) :
    Except Panic Nat × PersistentTable schema :=
  let rows := forEachRowInOrder ops txn range [] false owner
  (rows.1.map List.length, rows.2)

def count (txn : TxnId) (owner : PersistentTable schema) :
    Except Panic Nat × PersistentTable schema :=
  let rows := forEachRowInOrder ops txn Range.default [] false owner
  (rows.1.map List.length, rows.2)

/-- Takes no read permit. -/
def anyRowIn (txn : TxnId) (range : Range S) (order : List S.Id) (reverse : Bool)
    (owner : PersistentTable schema) : Except Panic Bool :=
  (visibleRows ops (owner.state.visibleSnapshot txn) range order reverse).map
    (fun rows => !rows.isEmpty)

def isEmpty (txn : TxnId) (owner : PersistentTable schema) : Except Panic Bool :=
  (anyRowIn ops txn Range.default [] false owner).map not

def isEmptyIn (txn : TxnId) (range : Range S) (owner : PersistentTable schema) :
    Except Panic Bool :=
  (anyRowIn ops txn range [] false owner).map not

/-- Open the visible rows, with storage errors reported in the background. -/
def openRows (snapshot : TableSnapshot schema) (range : Range S) (order : List S.Id)
    (reverse : Bool) : Except (Failure LockError) (List (Row S)) :=
  match rowStream ops snapshot.persistent range order reverse with
  | .error error => .error (.error (backgroundError error.message))
  | .ok rows =>
      (mergeDeltas ops snapshot.deltas rows range order reverse
        (RowCollator.forOrder schema order reverse)).mapError Failure.panic

/-- The stream `rows` returns, under a read permit on everything. -/
def rows (txn : TxnId) (range : Range S) (order : List S.Id) (reverse : Bool)
    (owner : PersistentTable schema) :
    Except (Failure LockError) (List (Row S)) × PersistentTable schema :=
  let owner := owner.acquireReadPermit txn .all
  (openRows ops (owner.state.visibleSnapshot txn) range order reverse, owner)

end PermittedReads

/-! ## Mutations -/

section Mutations

variable {schema : TableSchema S}

def pendingDeltaForTxn (txn : TxnId) : EStateM LockError (TableState schema) (Delta schema) :=
  State.pendingDeltaForTxn Delta.create txn

/-- A storage error on the way of a mutation. -/
def storageFailure (error : IoError) : Failure LockError := .error (backgroundError error.message)

/-- Reserve a range, then work on the state. -/
def reserved {E : Type} (translate : LockError -> E) (txn : TxnId) (range : SetRange (Key S))
    (body : EStateM E (TableState schema) PUnit) : EStateM E (PersistentTable schema) PUnit := do
  mapError translate (CollectionOwner.tryWrite txn range)
  CollectionOwner.onState body

def upsertReserved (txn : TxnId) (key : Key S) (values : List S.Value) :
    EStateM LockError (TableState schema) PUnit := do
  let pending <- pendingDeltaForTxn txn
  mapError (fun error => backgroundError error.message)
    (State.writePending txn pending (Delta.upsert key values))

def upsertRow (txn : TxnId) (key : Key S) (values : List S.Value) :
    EStateM LockError (PersistentTable schema) PUnit := do
  let key <- fromExcept ((schema.validateKey key).mapError (fun error => backgroundError error.message))
  let values <- fromExcept
    ((schema.validateValues values).mapError (fun error => backgroundError error.message))
  reserved id txn (.one key) (upsertReserved txn key values)

def debugKey (key : Key S) : String :=
  let values := ", ".intercalate (key.map S.debugValue)
  s!"[{values}]"

def keyExists (key : Key S) : TCError :=
  .badRequest s!"cannot insert Table row: key {debugKey key} already exists"

def insertReserved (txn : TxnId) (key : Key S) (values : List S.Value) :
    EStateM (Failure OpError) (TableState schema) PUnit := fun state =>
  match resolveRow (state.visibleSnapshot txn) key with
  | .error panic => .error (.panic panic) state
  | .ok (some _) => .error (.error (.request (keyExists key))) state
  | .ok none =>
      (do
        let pending <- mapError (fun error => Failure.error (.lock error)) (pendingDeltaForTxn txn)
        mapError (fun error => Failure.error (.io error))
          (State.writePending txn pending (Delta.upsert key values)) :
        EStateM (Failure OpError) (TableState schema) PUnit) state

def insertRow (txn : TxnId) (key : Key S) (values : List S.Value) :
    EStateM (Failure OpError) (PersistentTable schema) PUnit := do
  let key <- fromExcept ((schema.validateKey key).mapError (fun error => .error (.request error)))
  let values <- fromExcept
    ((schema.validateValues values).mapError (fun error => .error (.request error)))
  reserved (fun error => .error (.lock error)) txn (.one key) (insertReserved txn key values)

/-- The row a deletion records: the one this transaction inserted, or the one
visible to it. -/
def rowToDelete (txn : TxnId) (key : Key S) (pending : Delta schema) (state : TableState schema) :
    Except (Failure LockError) (Option (Row S)) :=
  match pending.getInsertedRow key with
  | .error error => .error (storageFailure error)
  | .ok (some row) => .ok (some row)
  | .ok none => (resolveRow (state.visibleSnapshot txn) key).mapError Failure.panic

/-- Nothing is recorded of a row which is not there. -/
def Delta.deleteFound (key : Key S) (row : Option (Row S)) :
    EStateM IoError (Delta schema) PUnit := do
  Delta.deleteFromInserts key
  match row with
  | some row => Delta.addToDeletes key (row.drop schema.key.length)
  | none => pure ⟨⟩

/-- What deletion does to the pending delta, once it has it. -/
def Delta.deleteVisible (txn : TxnId) (key : Key S) (state : TableState schema) :
    EStateM (Failure LockError) (Delta schema) PUnit := fun pending =>
  match pending.alreadyDeleted key with
  | .error error => .error (storageFailure error) pending
  | .ok true => .ok ⟨⟩ pending
  | .ok false =>
      match rowToDelete txn key pending state with
      | .error failure => .error failure pending
      | .ok row => mapError storageFailure (Delta.deleteFound key row) pending

def deletePending (txn : TxnId) (key : Key S) (pending : Delta schema) :
    EStateM (Failure LockError) (TableState schema) PUnit := fun state =>
  State.writePending txn pending (Delta.deleteVisible txn key state) state

def deleteReserved (txn : TxnId) (key : Key S) :
    EStateM (Failure LockError) (TableState schema) PUnit := do
  let pending <- mapError Failure.error (pendingDeltaForTxn txn)
  deletePending txn key pending

def deleteRow (txn : TxnId) (key : Key S) :
    EStateM (Failure LockError) (PersistentTable schema) PUnit := do
  let key <- fromExcept ((schema.validateKey key).mapError
    (fun error => .error (backgroundError error.message)))
  reserved Failure.error txn (.one key) (deleteReserved txn key)

/-! ### Range mutations -/

/-- Assign the updated columns of one row. -/
def assignColumns (schema : TableSchema S) (values : List (S.Id × S.Value)) (row : Row S) : Row S :=
  schema.values.zipIdx.foldl
    (fun row column =>
      match values.find? (fun entry => decide (entry.1 = column.1)) with
      | some entry => row.set (schema.key.length + column.2) entry.2
      | none => row) row

/-- The body of the update loop. -/
def Delta.updateOne (values : List (S.Id × S.Value)) (row : Row S) :
    EStateM IoError (Delta schema) PUnit :=
  let row := assignColumns schema values row
  Delta.upsert (row.take schema.key.length) (row.drop schema.key.length)

/-- The body of the truncate loop. -/
def Delta.truncateOne (row : Row S) : EStateM IoError (Delta schema) PUnit := do
  Delta.deleteFromInserts (row.take schema.key.length)
  Delta.addToDeletes (row.take schema.key.length) (row.drop schema.key.length)

/-- What an update does to the pending delta.  The visible rows are streamed as
of the opening of their tables. -/
def Delta.updateVisible (ops : TableOps S) (txn : TxnId) (range : Range S)
    (values : List (S.Id × S.Value)) (state : TableState schema) :
    EStateM (Failure LockError) (Delta schema) PUnit := fun pending =>
  match openRows ops (state.visibleSnapshot txn) range [] false with
  | .error failure => .error failure pending
  | .ok rows => mapError storageFailure (forM rows (Delta.updateOne values)) pending

def updatePending (ops : TableOps S) (txn : TxnId) (range : Range S)
    (values : List (S.Id × S.Value)) (pending : Delta schema) :
    EStateM (Failure LockError) (TableState schema) PUnit := fun state =>
  State.writePending txn pending (Delta.updateVisible ops txn range values state) state

def updateReserved (ops : TableOps S) (txn : TxnId) (range : Range S)
    (values : List (S.Id × S.Value)) : EStateM (Failure LockError) (TableState schema) PUnit := do
  let pending <- mapError Failure.error (pendingDeltaForTxn txn)
  updatePending ops txn range values pending

/-- The first column, in the order of the map, which is not a value column. -/
def notUpdatable (schema : TableSchema S) (values : List (S.Id × S.Value)) : Option (S.Id × S.Value) :=
  values.find? (fun entry => !schema.values.contains entry.1)

/-- The updated columns are listed by name, in the order of their map. -/
def update (ops : TableOps S) (txn : TxnId) (range : Range S) (values : List (S.Id × S.Value)) :
    EStateM (Failure LockError) (PersistentTable schema) PUnit := fun owner =>
  match notUpdatable schema values with
  | some entry =>
      .error (.error (backgroundError s!"cannot update key column {S.displayId entry.1}")) owner
  | none => reserved Failure.error txn .all (updateReserved ops txn range values) owner

/-- What a truncation does to the pending delta. -/
def Delta.truncateVisible (ops : TableOps S) (txn : TxnId) (range : Range S)
    (state : TableState schema) : EStateM (Failure LockError) (Delta schema) PUnit := fun pending =>
  let snapshot := state.visibleSnapshot txn
  match expect "stream persistent rows for truncate"
      (rowStream ops snapshot.persistent range [] false) with
  | .error panic => .error (.panic panic) pending
  | .ok rows =>
      match mergeDeltas ops snapshot.deltas rows range [] false
          (RowCollator.forOrder schema [] false) with
      | .error panic => .error (.panic panic) pending
      | .ok rows => mapError storageFailure (forM rows Delta.truncateOne) pending

def truncatePending (ops : TableOps S) (txn : TxnId) (range : Range S) (pending : Delta schema) :
    EStateM (Failure LockError) (TableState schema) PUnit := fun state =>
  State.writePending txn pending (Delta.truncateVisible ops txn range state) state

def truncateReserved (ops : TableOps S) (txn : TxnId) (range : Range S) :
    EStateM (Failure LockError) (TableState schema) PUnit := do
  let pending <- mapError Failure.error (pendingDeltaForTxn txn)
  truncatePending ops txn range pending

def truncate (ops : TableOps S) (txn : TxnId) (range : Range S) :
    EStateM (Failure LockError) (PersistentTable schema) PUnit :=
  reserved Failure.error txn .all (truncateReserved ops txn range)

end Mutations

/-! ## Restoration -/

section Restore

variable {schema : TableSchema S}

/-- Build the replacement in its own workspace: the visible committed deltas
are applied to the deletions. -/
def Delta.seed (committed : List (Delta schema)) : EStateM IoError (Delta schema) PUnit :=
  Delta.onDeletes (forM committed Delta.applyTo)

/-- Then each source row is upserted. -/
def Delta.copyRows (source : List (Row S)) : EStateM IoError (Delta schema) PUnit :=
  forM source (fun row => Delta.upsert (row.take schema.key.length) (row.drop schema.key.length))

/-- `source` is what streaming the source collection comes to. -/
def restoreReserved (txn : TxnId) (sourceSchema : TableSchema S)
    (source : Except (Failure LockError) (List (Row S))) :
    EStateM (Failure OpError) (TableState schema) PUnit :=
  fun state =>
    match state.assertWritable txn with
    | .error error => .error (.error (.lock error)) state
    | .ok () =>
        if schema.castFrom ≠ sourceSchema.castFrom then
          .error (.error (.request (.badRequest "Table restoration schema mismatch"))) state
        else
          match Delta.seed (state.committedThrough txn) (Delta.forRestore state.persistent) with
          | .error error _ => .error (.error (.io error)) state
          | .ok _ seeded =>
              match source with
              | .error (.error error) => .error (.error (.lock error)) state
              | .error (.panic panic) => .error (.panic panic) state
              | .ok rows =>
                  match Delta.copyRows rows seeded with
                  | .error error _ => .error (.error (.io error)) state
                  | .ok _ delta =>
                      match state.assertWritable txn with
                      | .error error => .error (.error (.lock error)) state
                      | .ok () => .ok ⟨⟩ (state.setPending txn delta)

/-- Stage a native replacement of the whole table. -/
def restoreFrom (ops : TableOps S) (txn : TxnId) {sourceSchema : TableSchema S}
    (source : PersistentTable sourceSchema) :
    EStateM (Failure OpError) (PersistentTable schema) PUnit :=
  reserved (fun error => .error (.lock error)) txn .all
    (restoreReserved txn sourceSchema (rows ops txn Range.default [] false source).1)

end Restore

end Table
end TransactionalCollection
