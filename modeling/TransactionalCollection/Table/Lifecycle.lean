import TransactionalCollection.Persistence.Lifecycle
import TransactionalCollection.Table.Mutation

namespace TransactionalCollection
namespace Table

open Layering Native Execution Persistence

/-!
# Runs of a table

A run may call any mutation of a table at any time, readers come and go, and
finalization advances one native write after another.
-/

variable {S : Signature}

/-- A call which mutates a table. -/
inductive TableCall (schema : TableSchema S) where
  | upsertRow (key : Key S) (values : List S.Value)
  | insertRow (key : Key S) (values : List S.Value)
  | deleteRow (key : Key S)
  | update (range : Range S) (values : List (S.Id × S.Value))
  | truncate (range : Range S)
  | restoreFrom (sourceSchema : TableSchema S) (source : PersistentTable sourceSchema)

/-- The failure of a locking call, as a call which reports more has it. -/
def lockFailure : Failure LockError -> Failure OpError
  | .error error => .error (.lock error)
  | .panic panic => .panic panic

namespace TableCall

variable {schema : TableSchema S}

def perform (ops : TableOps S) (txn : TxnId) :
    TableCall schema -> EStateM (Failure OpError) (PersistentTable schema) PUnit
  | .upsertRow key values => mapError (fun error => .error (.lock error)) (Table.upsertRow txn key values)
  | .insertRow key values => Table.insertRow txn key values
  | .deleteRow key => mapError lockFailure (Table.deleteRow txn key)
  | .update range values => mapError lockFailure (Table.update ops txn range values)
  | .truncate range => mapError lockFailure (Table.truncate ops txn range)
  | .restoreFrom _ source => Table.restoreFrom ops txn source

/-- The range the call reserves. -/
def range : TableCall schema -> SetRange (Key S)
  | .upsertRow key _ => .one key
  | .insertRow key _ => .one key
  | .deleteRow key => .one key
  | .update _ _ => .all
  | .truncate _ => .all
  | .restoreFrom _ _ => .all

theorem perform_admits (ops : TableOps S) (txn : TxnId) (call : TableCall schema)
    (owner : PersistentTable schema) :
    Admits txn call.range owner (finalState (call.perform ops txn owner)) := by
  cases call with
  | upsertRow key values =>
      rw [perform, finalState_mapError]
      exact upsertRow_admits txn key values owner
  | insertRow key values => exact insertRow_admits txn key values owner
  | deleteRow key =>
      rw [perform, finalState_mapError]
      exact deleteRow_admits txn key owner
  | update range values =>
      rw [perform, finalState_mapError]
      exact update_admits ops txn range values owner
  | truncate range =>
      rw [perform, finalState_mapError]
      exact truncate_admits ops txn range owner
  | restoreFrom sourceSchema source => exact restoreFrom_admits ops txn source owner

end TableCall

/-- All mutations of a table, among readers which wait for their permits. -/
def tableDriver (ops : TableOps S) (schema : TableSchema S) :
    Driver (Delta schema) (TableLock schema) (Key S) where
  Op := TableCall schema
  Error := Failure OpError
  mutate txn call := call.perform ops txn
  range := TableCall.range
  admits txn call owner := call.perform_admits ops txn owner
  Traffic := TxnId × SetRange (Key S)
  passes reader semaphore := semaphore.read reader.1 reader.2

/-- A finalization through a cutoff is invisible to every later reader: after
any number of its native writes, and after the swap, each key resolves as it
did before the finalization began. -/
theorem resolveRow_unmoved_by_finalize {ops : TableOps S} {schema : TableSchema S}
    {config : Config (Delta schema) (TableLock schema) (Key S)}
    (reachable : Reachable (tableDriver ops schema) config) {cutoff txn : TxnId}
    (fresh : config.state.outdated cutoff = false) (later : cutoff < txn) (key : Key S) :
    (forall count : Nat,
      resolveRow ((config.state.materialize
          ((config.state.finalizeWrites cutoff).take count)).visibleSnapshot txn) key =
        resolveRow (config.state.visibleSnapshot txn) key) ∧
      exists after, CollectionOwner.finalize cutoff config.owner = .ok () after ∧
        resolveRow (after.state.visibleSnapshot txn) key =
          resolveRow (config.state.visibleSnapshot txn) key := by
  constructor
  · intro count
    refine resolveRow_congr (fun _ => congrFun ?_ _)
    exact State.view_materialize (Nat.le_of_lt later)
      (fun write member => List.mem_of_mem_take member)
  · have finalized := CollectionOwner.finalize_eq config.owner fresh
    have unmoved := reachable.view_finalize later
    rw [finalized] at unmoved
    exact ⟨_, finalized, resolveRow_congr (fun _ => congrFun unmoved _)⟩

/-- One key column and one value column, with an index on the values. -/
def pairSchema : TableSchema Signature.numbers where
  key := [Signature.column 0]
  values := [Signature.column 1]
  primary :=
    { columnNames := [Signature.column 0, Signature.column 1]
      columnTypes := [(), ()]
      storage := {}
      columns_pos := by simp
      types_length := rfl }
  indices := [("value",
    { columnNames := [Signature.column 1, Signature.column 0]
      columnTypes := [(), ()]
      storage := {}
      columns_pos := by simp
      types_length := rfl })]
  key_pos := by simp
  primary_names := rfl
  indices_names := by
    intro index member
    rw [List.mem_singleton.mp member]
    exact ⟨[Signature.column 1], rfl⟩

/-- Two transactions have committed a row of one key. -/
def overwritten : Config (Delta pairSchema) (TableLock pairSchema) (Key Signature.numbers) :=
  run (tableDriver TableOps.reference pairSchema) (Config.start TableLock.empty)
    [.mutate 1 (.upsertRow [Signature.number 7] [Signature.number 1]), .commit 1,
      .mutate 2 (.upsertRow [Signature.number 7] [Signature.number 2]), .commit 2]

theorem overwritten_reachable :
    Reachable (tableDriver TableOps.reference pairSchema) overwritten :=
  Reachable.run (Reachable.start _) _

theorem resolveRow_unmoved_by_finalize_overwritten :
    (forall count : Nat,
      resolveRow ((overwritten.state.materialize
          ((overwritten.state.finalizeWrites 1).take count)).visibleSnapshot 3)
          [Signature.number 7] =
        resolveRow (overwritten.state.visibleSnapshot 3) [Signature.number 7]) ∧
      exists after, CollectionOwner.finalize 1 overwritten.owner = .ok () after ∧
        resolveRow (after.state.visibleSnapshot 3) [Signature.number 7] =
          resolveRow (overwritten.state.visibleSnapshot 3) [Signature.number 7] :=
  resolveRow_unmoved_by_finalize overwritten_reachable (by decide) (by decide) _

end Table
end TransactionalCollection
