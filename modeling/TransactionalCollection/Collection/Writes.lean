import TransactionalCollection.BTree.Serial
import TransactionalCollection.BTree.Restore
import TransactionalCollection.Collection.View
import TransactionalCollection.Persistence.Decisions
import TransactionalCollection.Table.RangeWrites

namespace TransactionalCollection
namespace Collection

open Layering Native Execution Persistence

/-!
# What is written through a handle

A tree view writes the row it is sent, whatever its bounds.  A table writes the
cell of a row, or one cell for each row its scan yields, and a slice passes range
writes on to its table, within the range of both.
-/

variable {S : Signature}

theorem rewrap_eq_ok {E A X Y : Type} {wrap : X -> Y}
    (injective : forall left right, wrap left = wrap right -> left = right)
    {result : EStateM.Result E X A} {value : A} {after : X} :
    rewrap wrap result = .ok value (wrap after) <-> result = .ok value after := by
  cases result with
  | ok given state =>
      constructor
      · intro same
        injection same with values states
        rw [values, injective _ _ states]
      · intro same
        cases same
        rfl
  | error error state =>
      constructor
      · intro impossible
        cases impossible
      · intro impossible
        cases impossible

/-! ## Trees -/

section Trees

variable {native : Tree.BTreeSchema S} {txn : TxnId} {key : Key S}

/-- A mutation of one key shows its cell. -/
theorem tree_writes {operation : EStateM IoError (Tree.Delta native) PUnit}
    {write : CellWrite (Key S) Unit} (here : write.key = key)
    (lays : forall before after, operation before = .ok ⟨⟩ after ->
      overlay after = lay [write] (overlay before))
    {owner after : Tree.BTree native}
    (done : (CollectionOwner.tryWrite txn (.one key) >>= fun _ =>
      CollectionOwner.onState (Tree.mutatePending txn operation)) owner = .ok ⟨⟩ after) :
    Writes txn [write] owner after := by
  rcases Tree.reserved_ok done with ⟨granted, mutated⟩
  rcases Tree.mutatePending_ok mutated with
    ⟨pending, written, writable, answers, performed, own⟩
  have settled : after.state.settledView txn = owner.state.settledView txn := by
    rcases bind_eq_ok.mp mutated with ⟨_, middle, fetched, wrote⟩
    rcases focus_eq_ok.mp (mapError_eq_ok.mp wrote) with ⟨_, _, same⟩
    rw [← same]
    change middle.settledView txn = _
    exact State.pendingDeltaForTxn_settledView fetched
  refine ⟨writable, ⟨.one key, granted, ?_⟩, ?_⟩
  · intro other member
    rw [List.mem_singleton.mp member]
    exact here.symm
  · have laid := lays pending written performed
    rw [State.view_eq, own, settled, State.view_eq, ← answers]
    change (overlay written).read _ = _
    rw [laid, lay_read]
    rfl

theorem insertRow_writes {owner after : Tree.BTree native}
    (done : Tree.insertRow txn key owner = .ok ⟨⟩ after) : Writes txn [.put key ()] owner after :=
  tree_writes rfl (fun _ _ => Tree.Delta.insert_lays) done

theorem deleteRow_writes {owner after : Tree.BTree native}
    (done : Tree.deleteRow txn key owner = .ok ⟨⟩ after) : Writes txn [.remove key] owner after :=
  tree_writes rfl (fun _ _ => Tree.Delta.delete_lays) done

end Trees

/-! ## Tables -/

/-- A mutation of a table through its handle. -/
inductive HandleWrite (S : Signature) where
  | upsertRow (key : Key S) (values : List S.Value)
  | insertRow (key : Key S) (values : List S.Value)
  | deleteRow (key : Key S)
  | update (range : Table.Range S) (values : List (S.Id × S.Value))
  | truncate (range : Table.Range S)

namespace HandleWrite

variable {schema : Table.TableSchema S}

def perform (ops : Table.TableOps S) (ranges : Table.RangeOps S) (txn : TxnId) :
    HandleWrite S -> EStateM (Failure OpError) (Table.Handle schema) PUnit
  | .upsertRow key values => Table.Handle.upsertRow txn key values
  | .insertRow key values => Table.Handle.insertRow txn key values
  | .deleteRow key => Table.Handle.deleteRow txn key
  | .update range values => Table.Handle.update ops ranges txn range values
  | .truncate range => Table.Handle.truncate ops ranges txn range

/-- The same mutation, called on the owner. -/
def call : HandleWrite S -> Table.TableCall schema
  | .upsertRow key values => .upsertRow key values
  | .insertRow key values => .insertRow key values
  | .deleteRow key => .deleteRow key
  | .update range values => .update range values
  | .truncate range => .truncate range

/-- The cells it writes: those of its row, or of the rows its scan yields. -/
def cells (ops : Table.TableOps S) (txn : TxnId) (state : Table.TableState schema) :
    HandleWrite S -> List (CellWrite (Key S) (List S.Value))
  | .upsertRow key values => [.put key values]
  | .insertRow key values => [.put key values]
  | .deleteRow key => [.remove key]
  | .update range values =>
      (Table.scanned ops (state.visibleSnapshot txn) range [] false).map
        (fun row => Table.rowCell schema (Table.assignColumns schema values row))
  | .truncate range =>
      (Table.scanned ops (state.visibleSnapshot txn) range [] false).map (Table.dropCell schema)

/-- A deletion is of a settled key, if of a valid one. -/
def Settled (schema : Table.TableSchema S) : HandleWrite S -> Prop
  | .deleteRow key => schema.ValidKey key -> Table.Settled schema key
  | .upsertRow _ _ | .insertRow _ _ | .update _ _ | .truncate _ => True

theorem settled_of_distinct (distinct : schema.KeysDistinct) (write : HandleWrite S) : write.Settled schema := by
  cases write with
  | deleteRow key => exact Table.settled_of_valid distinct
  | upsertRow | insertRow | update | truncate => exact trivial

/-- What is left of a mutation within the range of a slice. -/
def narrow (ranges : Table.RangeOps S) (scope : Table.Range S) : HandleWrite S -> Option (HandleWrite S)
  | .update range values => (ranges.intersection scope range).map (fun both => .update both values)
  | .truncate range => (ranges.intersection scope range).map .truncate
  | .upsertRow _ _ | .insertRow _ _ | .deleteRow _ => none

/-- A slice deletes no single rows. -/
theorem narrow_settled {ranges : Table.RangeOps S} {scope : Table.Range S} {write within : HandleWrite S}
    (left : write.narrow ranges scope = some within) : within.Settled schema := by
  cases write with
  | upsertRow | insertRow | deleteRow => cases left
  | update | truncate =>
      rcases Option.map_eq_some_iff.mp left with ⟨_, _, rfl⟩
      exact trivial

/-- Through the handle of a table, a mutation is a call on its owner. -/
theorem perform_file (ops : Table.TableOps S) (ranges : Table.RangeOps S) (txn : TxnId)
    (write : HandleWrite S) (owner : Table.PersistentTable schema) :
    write.perform ops ranges txn (.file owner) =
      rewrap Table.Handle.file (write.call.perform ops txn owner) := by
  cases write <;> rfl

theorem file_injective (left right : Table.PersistentTable schema)
    (same : Table.Handle.file left = Table.Handle.file right) : left = right := by
  injection same

end HandleWrite

section Tables

variable {schema : Table.TableSchema S} {ops : Table.TableOps S} {txn : TxnId}
  {owner after : Table.PersistentTable schema}

theorem upsertRow_writes {key : Key S} {values : List S.Value}
    (done : Table.upsertRow txn key values owner = .ok ⟨⟩ after) :
    Writes txn [.put key values] owner after := by
  have granted : owner.semaphore.tryWrite txn (.one key) = .ok after.semaphore := by
    rcases Table.validated_row_cases (fun error : TCError => backgroundError error.message) key values
      (fun key values => Table.reserved id txn (.one key) (Table.upsertReserved txn key values)) owner with
      ⟨_, called⟩ | ⟨_, _, refused⟩
    · exact (reserved_eq_ok (called.symm.trans done)).1
    · cases refused.symm.trans done
  rcases Table.upsertRow_cases txn key values owner with
    ⟨_, _, _, failed⟩ | ⟨⟨_, admitted⟩, _, _, outcome, shown⟩
  · cases failed.symm.trans done
  · cases outcome.symm.trans done
    refine ⟨admitted.2, ⟨.one key, granted, ?_⟩, shown⟩
    intro write member
    rw [List.mem_singleton.mp member]
    rfl

theorem insertRow_writes_row {key : Key S} {values : List S.Value}
    (done : Table.insertRow txn key values owner = .ok ⟨⟩ after) :
    Writes txn [.put key values] owner after := by
  have granted : owner.semaphore.tryWrite txn (.one key) = .ok after.semaphore := by
    rcases Table.validated_row_cases (fun error : TCError => Failure.error (OpError.request error)) key values
      (fun key values => Table.reserved (fun error => .error (.lock error)) txn (.one key)
        (Table.insertReserved txn key values)) owner with
      ⟨_, called⟩ | ⟨_, _, refused⟩
    · exact (reserved_eq_ok (called.symm.trans done)).1
    · cases refused.symm.trans done
  rcases Table.insertRow_cases txn key values owner with
    ⟨_, _, _, failed⟩ | ⟨⟨_, admitted⟩, ⟨_, _, failed⟩ | ⟨_, _, _, outcome, shown⟩⟩
  · cases failed.symm.trans done
  · cases failed.symm.trans done
  · cases outcome.symm.trans done
    refine ⟨admitted.2, ⟨.one key, granted, ?_⟩, shown⟩
    intro write member
    rw [List.mem_singleton.mp member]
    rfl

theorem deleteRow_writes_row {key : Key S} (settled : schema.ValidKey key -> Table.Settled schema key)
    (separate : forall delta, owner.state.pending[txn]? = some delta -> delta.KeysApart)
    (done : Table.deleteRow txn key owner = .ok ⟨⟩ after) : Writes txn [.remove key] owner after := by
  rcases Table.deleteRow_cases txn settled owner separate with
    ⟨_, _, _, failed⟩ | ⟨⟨validKey, admitted⟩, _, _, outcome, shown⟩
  · cases failed.symm.trans done
  · have granted : owner.semaphore.tryWrite txn (.one key) = .ok after.semaphore := by
      rcases Table.validateKey_cases schema key with ⟨_, keyDone⟩ | ⟨invalid, _, _⟩
      · rw [Table.deleteRow, keyDone] at done
        exact (reserved_eq_ok done).1
      · exact absurd validKey invalid
    cases outcome.symm.trans done
    refine ⟨admitted.2, ⟨.one key, granted, ?_⟩, shown⟩
    intro write member
    rw [List.mem_singleton.mp member]
    rfl

/-- Range writes which succeed have a plan for their range. -/
theorem update_supported {range : Table.Range S} {values : List (S.Id × S.Value)}
    (done : Table.update ops txn range values owner = .ok ⟨⟩ after) :
    ops.plan schema range [] = .ok () := by
  cases planned : ops.plan schema range [] with
  | ok supported => rfl
  | error error =>
      rw [Table.update] at done
      cases named : Table.notUpdatable schema values with
      | some entry =>
          rw [named] at done
          cases done
      | none =>
          rw [named] at done
          rcases Table.reserved_pending_cases Failure.error txn .all
            (Table.Delta.updateVisible ops txn range values)
            (Table.updateReserved_eq ops txn range values) owner with
            ⟨⟨_, _, refused⟩, _⟩ | ⟨_, _, _, _, _, _, ⟨_, worked, _⟩ | ⟨_, _, _, failed⟩⟩
          · cases refused.symm.trans done
          · rw [Table.Delta.updateVisible, Table.openRows, Table.rowStream, planned] at worked
            cases worked
          · cases failed.symm.trans done

theorem truncate_supported {range : Table.Range S}
    (done : Table.truncate ops txn range owner = .ok ⟨⟩ after) : ops.plan schema range [] = .ok () := by
  cases planned : ops.plan schema range [] with
  | ok supported => rfl
  | error error =>
      rcases Table.reserved_pending_cases Failure.error txn .all (Table.Delta.truncateVisible ops txn range)
        (Table.truncateReserved_eq ops txn range) owner with
        ⟨⟨_, _, refused⟩, _⟩ | ⟨_, _, _, _, _, _, ⟨_, worked, _⟩ | ⟨_, _, _, failed⟩⟩
      · cases refused.symm.trans done
      · rw [Table.Delta.truncateVisible, Table.rowStream, planned] at worked
        cases worked
      · cases failed.symm.trans done

/-- A mutation called on the owner writes its cells. -/
theorem call_writes (separate : forall delta, owner.state.pending[txn]? = some delta -> delta.KeysApart)
    {write : HandleWrite S} (settled : write.Settled schema) (done : write.call.perform ops txn owner = .ok ⟨⟩ after) :
    Writes txn (write.cells ops txn owner.state) owner after := by
  cases write with
  | upsertRow key values => exact upsertRow_writes (mapError_eq_ok.mp done)
  | insertRow key values => exact insertRow_writes_row done
  | deleteRow key => exact deleteRow_writes_row settled separate (mapError_eq_ok.mp done)
  | update range values =>
      have updated := mapError_eq_ok.mp done
      have supported := update_supported updated
      have shown := Table.update_ok_view supported updated
      rcases Table.update_cases supported txn values owner with
        ⟨⟨_, _, failed⟩, _⟩ |
          ⟨_, _, _, _, granted, writable, _, ⟨_, _, outcome⟩ | ⟨_, _, _, failed⟩⟩
      · cases failed.symm.trans updated
      · cases outcome.symm.trans updated
        exact ⟨writable, ⟨.all, granted, fun _ _ => trivial⟩, shown⟩
      · cases failed.symm.trans updated
  | truncate range =>
      have truncated := mapError_eq_ok.mp done
      have supported := truncate_supported truncated
      have shown := Table.truncate_ok_view supported truncated
      rcases Table.truncate_cases supported txn owner with
        ⟨⟨_, _, failed⟩, _⟩ | ⟨_, _, _, _, granted, writable, _, _, outcome⟩
      · cases failed.symm.trans truncated
      · cases outcome.symm.trans truncated
        exact ⟨writable, ⟨.all, granted, fun _ _ => trivial⟩, shown⟩

end Tables

/-! ## The calls of a handle -/

/-- A mutation of a tree through the routes of a view. -/
inductive TreeWrite (S : Signature) where
  | insert (key row : S.Value)
  | delete (key : S.Value)

namespace TreeWrite

variable {forms : ValueForms S} {native : Tree.BTreeSchema S}

def perform (txn : TxnId) : TreeWrite S -> EStateM OpError (BTreeView forms native) PUnit
  | .insert key row => BTreeView.insert txn key row
  | .delete key => BTreeView.delete txn key

/-- Where the row is sent. -/
def state : TreeWrite S -> S.Value
  | .insert _ row => row
  | .delete key => key

def cell (row : Key S) : TreeWrite S -> CellWrite (Key S) Unit
  | .insert _ _ => .put row ()
  | .delete _ => .remove row

end TreeWrite

/-- A call through a tree view, with the cell of the row it was sent. -/
def treeCalls {forms : ValueForms S} {native : Tree.BTreeSchema S} (view : BTreeView forms native)
    (txn : TxnId) (before : Tree.BTree native) (cells : List (CellWrite (Key S) Unit))
    (after : Tree.BTree native) : Prop :=
  exists (write : TreeWrite S) (row : Key S), BTreeView.rowFromState forms write.state = .ok row ∧
    write.perform txn (view.withTree before) = .ok ⟨⟩ (view.withTree after) ∧ cells = [write.cell row]

section TableCalls

variable {schema : Table.TableSchema S} (ops : Table.TableOps S) (ranges : Table.RangeOps S)

/-- A call through the handle of a table, with the cells it writes. -/
def fileCalls (txn : TxnId) (before : Table.PersistentTable schema)
    (cells : List (CellWrite (Key S) (List S.Value))) (after : Table.PersistentTable schema) : Prop :=
  exists write : HandleWrite S, write.perform ops ranges txn (.file before) = .ok ⟨⟩ (.file after) ∧
    cells = write.cells ops txn before.state

/-- A slice of a table which others share. -/
def sliceOf (range : Table.Range S) (order : List S.Id) (reverse : Bool)
    (owner : Table.PersistentTable schema) : Table.Handle schema :=
  .tableSlice ⟨.file owner, range, order, reverse⟩

/-- A call through a slice, with the cells it writes within the slice. -/
def sliceCalls (range : Table.Range S) (order : List S.Id) (reverse : Bool) (txn : TxnId)
    (before : Table.PersistentTable schema) (cells : List (CellWrite (Key S) (List S.Value)))
    (after : Table.PersistentTable schema) : Prop :=
  exists write : HandleWrite S,
    write.perform ops ranges txn (sliceOf range order reverse before) =
      .ok ⟨⟩ (sliceOf range order reverse after) ∧
    cells = ((write.narrow ranges range).map (fun within => within.cells ops txn before.state)).getD []

end TableCalls

section Authenticity

variable {forms : ValueForms S} {native : Tree.BTreeSchema S}

theorem treeCalls_authentic (collate : Streaming.StreamOps) (view : BTreeView forms native) (txn : TxnId) :
    Authentic (Tree.treeDriver collate native) txn (treeCalls view txn) := by
  rintro config cells after _ ⟨write, given, sent, done, rfl⟩
  right
  have onRow : forall operation : Key S -> EStateM LockError (Tree.BTree native) PUnit,
      BTreeView.onRow write.state operation (view.withTree config.owner) = .ok ⟨⟩ (view.withTree after) ->
        operation given config.owner = .ok ⟨⟩ after := by
    intro operation called
    rw [BTreeView.onRow, sent] at called
    apply mapError_eq_ok.mp
    refine (rewrap_eq_ok ?_).mp called
    intro left right same
    injection same
  cases write with
  | insert key row =>
      have inserted : Tree.insertRow txn given config.owner = .ok ⟨⟩ after := by
        apply onRow
        change BTreeView.insert txn key row _ = _ at done
        rw [BTreeView.insert] at done
        cases null : forms.form key with
        | none =>
            rw [null] at done
            exact done
        | number _ | string _ | tuple _ | other =>
            rw [null] at done
            cases done
      exact ⟨.insertRow _, mapError_eq_ok.mpr inserted, insertRow_writes inserted⟩
  | delete key =>
      have deleted : Tree.deleteRow txn given config.owner = .ok ⟨⟩ after := onRow _ done
      exact ⟨.deleteRow _, mapError_eq_ok.mpr deleted, deleteRow_writes deleted⟩

variable {schema : Table.TableSchema S} (ops : Table.TableOps S) (ranges : Table.RangeOps S)

theorem fileCalls_authentic (distinct : schema.KeysDistinct) (txn : TxnId) :
    Authentic (Table.tableDriver ops schema) txn (fileCalls ops ranges txn) := by
  rintro config cells after reached ⟨write, done, rfl⟩
  right
  rw [HandleWrite.perform_file] at done
  have called := (rewrap_eq_ok HandleWrite.file_injective).mp done
  exact ⟨write.call, called,
    call_writes (reached.sound.pendingSeparate txn) (write.settled_of_distinct distinct) called⟩

/-- Through a slice, what is left of a mutation is called on the owner. -/
theorem HandleWrite.perform_slice {write within : HandleWrite S} {range : Table.Range S}
    (left : write.narrow ranges range = some within) (order : List S.Id) (reverse : Bool) (txn : TxnId)
    (owner : Table.PersistentTable schema) :
    write.perform ops ranges txn (sliceOf range order reverse owner) =
      rewrap (sliceOf range order reverse) (within.call.perform ops txn owner) := by
  cases write with
  | upsertRow | insertRow | deleteRow => cases left
  | update inner values =>
      change rewrap Table.Handle.tableSlice (Table.TableSlice.update ops ranges txn inner values _) = _
      rw [HandleWrite.narrow] at left
      rw [Table.TableSlice.update]
      cases meet : ranges.intersection range inner with
      | none =>
          rw [meet] at left
          cases left
      | some both =>
          rw [meet] at left
          cases left
          change rewrap Table.Handle.tableSlice (focus _ _ (Table.TableSource.update ops txn both values) _) =
            rewrap _ (mapError Table.lockFailure (Table.update ops txn both values) owner)
          rw [focus, Table.TableSource.update]
          cases mapError Table.lockFailure (Table.update ops txn both values) owner <;> rfl
  | truncate inner =>
      change rewrap Table.Handle.tableSlice (Table.TableSlice.truncate ops ranges txn inner _) = _
      rw [HandleWrite.narrow] at left
      rw [Table.TableSlice.truncate]
      cases meet : ranges.intersection range inner with
      | none =>
          rw [meet] at left
          cases left
      | some both =>
          rw [meet] at left
          cases left
          change rewrap Table.Handle.tableSlice (focus _ _ (Table.TableSource.truncate ops txn both) _) =
            rewrap _ (mapError Table.lockFailure (Table.truncate ops txn both) owner)
          rw [focus, Table.TableSource.truncate]
          cases mapError Table.lockFailure (Table.truncate ops txn both) owner <;> rfl

/-- If nothing is left of it, it comes to nothing or is refused. -/
theorem HandleWrite.perform_slice_none {write : HandleWrite S} {range : Table.Range S}
    (left : write.narrow ranges range = none) {order : List S.Id} {reverse : Bool} {txn : TxnId}
    {owner after : Table.PersistentTable schema}
    (done : write.perform ops ranges txn (sliceOf range order reverse owner) =
      .ok ⟨⟩ (sliceOf range order reverse after)) : after = owner := by
  cases write with
  | upsertRow | insertRow | deleteRow => cases done
  | update inner values =>
      change rewrap Table.Handle.tableSlice (Table.TableSlice.update ops ranges txn inner values _) = _ at done
      rw [Table.TableSlice.update, Option.map_eq_none_iff.mp left] at done
      cases done
      rfl
  | truncate inner =>
      change rewrap Table.Handle.tableSlice (Table.TableSlice.truncate ops ranges txn inner _) = _ at done
      rw [Table.TableSlice.truncate, Option.map_eq_none_iff.mp left] at done
      cases done
      rfl

theorem sliceOf_injective (range : Table.Range S) (order : List S.Id) (reverse : Bool)
    (left right : Table.PersistentTable schema)
    (same : sliceOf range order reverse left = sliceOf range order reverse right) : left = right := by
  injection same with slices
  injection slices with sources
  injection sources

theorem sliceCalls_authentic (range : Table.Range S) (order : List S.Id) (reverse : Bool) (txn : TxnId) :
    Authentic (Table.tableDriver ops schema) txn (sliceCalls ops ranges range order reverse txn) := by
  rintro config cells after reached ⟨write, done, rfl⟩
  cases left : write.narrow ranges range with
  | none => exact Or.inl ⟨HandleWrite.perform_slice_none ops ranges left done, rfl⟩
  | some within =>
      right
      rw [HandleWrite.perform_slice ops ranges left] at done
      have called := (rewrap_eq_ok (sliceOf_injective range order reverse)).mp done
      have settled : within.Settled schema := HandleWrite.narrow_settled left
      exact ⟨within.call, called, call_writes (reached.sound.pendingSeparate txn) settled called⟩

end Authenticity

end Collection
end TransactionalCollection
