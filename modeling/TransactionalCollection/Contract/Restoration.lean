import TransactionalCollection.BTree.Restore
import TransactionalCollection.Contract.RepeatableReads
import TransactionalCollection.Table.Restore

namespace TransactionalCollection
namespace Contract

open Native Execution Persistence Streaming

/-!
# Restoration

A tree and a table are restored the same way: one delta replaces whatever their
transaction sees, and an error leaves no trace of the attempt.
-/

/-- A restoration which succeeds makes the target show the source: to its own
transaction at once, and in canonical storage once the transaction is committed
and finalized.  Nobody else sees it before, and a rollback takes it back.  A
restoration which fails changes nothing. -/
theorem restoration_replaces {S : Signature} :
    (forall (collate : StreamOps) (schema sourceSchema : Tree.BTreeSchema S)
      (target : Config (Tree.Delta schema) (Tree.BTreeLock schema) (Key S))
      (source : Config (Tree.Delta sourceSchema) (Tree.BTreeLock sourceSchema) (Key S)) (txn : TxnId)
      (after : Tree.BTree schema),
      Reachable (Tree.treeDriver collate schema) target ->
      Reachable (Tree.treeDriver collate sourceSchema) source ->
      (Tree.restoreFrom collate txn source.owner target.owner = .ok ⟨⟩ after ->
        (Tree.keys collate txn Bounds.all false after).1 =
            (Tree.keys collate txn Bounds.all false source.owner).1 ∧
          Replaces (Tree.treeDriver collate schema) txn (source.state.view txn) target after) ∧
      forall error, Tree.restoreFrom collate txn source.owner target.owner = .error error after ->
        Unmoved txn target.state after.state) ∧
    forall (ops : Table.TableOps S) (schema sourceSchema : Table.TableSchema S)
      (target : Config (Table.Delta schema) (Table.TableLock schema) (Key S))
      (source : Config (Table.Delta sourceSchema) (Table.TableLock sourceSchema) (Key S)) (txn : TxnId)
      (after : Table.PersistentTable schema),
      Reachable (Table.tableDriver ops schema) target ->
      Reachable (Table.tableDriver ops sourceSchema) source ->
      (Table.restoreFrom ops txn source.owner target.owner = .ok ⟨⟩ after ->
        (Table.rows ops txn Table.Range.default [] false after).1 =
            (Table.rows ops txn Table.Range.default [] false source.owner).1 ∧
          Replaces (Table.tableDriver ops schema) txn (source.state.view txn) target after) ∧
      forall failure, Table.restoreFrom ops txn source.owner target.owner = .error failure after ->
        Unmoved txn target.state after.state := by
  constructor
  · intro collate schema sourceSchema target source txn after reachable _
    constructor
    · intro done
      have replaced := Tree.restoreFrom_replaces reachable done
      exact ⟨Tree.restoreFrom_keys replaced.shows, replaced⟩
    · intro error failed
      exact Unmoved.of_eq txn (Tree.restoreFrom_error failed)
  · intro ops schema sourceSchema target source txn after reachable sourceReachable
    constructor
    · intro done
      exact ⟨Table.restoreFrom_rows reachable sourceReachable done,
        Table.restoreFrom_replaces reachable sourceReachable done⟩
    · intro failure failed
      exact Unmoved.of_eq txn (Table.restoreFrom_error failed)

/-- A tree of another key, decided by the same transaction. -/
def otherTree : Config (Tree.Delta Tree.unarySchema) (Tree.BTreeLock Tree.unarySchema)
    (Key Signature.numbers) :=
  run numberTree (Config.start Tree.BTreeLock.empty)
    [.mutate 1 (.insertRow [Signature.number 8]), .commit 1]

/-- A table with two decided versions of one row, and another row written since. -/
def writtenOver : Config (Table.Delta Table.pairSchema) (Table.TableLock Table.pairSchema)
    (Key Signature.numbers) :=
  run numberTable Table.overwritten
    [.mutate 3 (.upsertRow [Signature.number 9] [Signature.number 9])]

theorem restoration_replaces_numbers :
    (exists after, Tree.restoreFrom StreamOps.reference 1 otherTree.owner undecided.owner = .ok ⟨⟩ after ∧
        (Tree.keys StreamOps.reference 1 Bounds.all false after).1 =
            (Tree.keys StreamOps.reference 1 Bounds.all false otherTree.owner).1 ∧
        Replaces numberTree 1 (otherTree.state.view 1) undecided after) ∧
      exists after, Table.restoreFrom Table.TableOps.reference 3 Table.overwritten.owner
          writtenOver.owner = .ok ⟨⟩ after ∧
        (Table.rows Table.TableOps.reference 3 Table.Range.default [] false after).1 =
            (Table.rows Table.TableOps.reference 3 Table.Range.default [] false
              Table.overwritten.owner).1 ∧
        Replaces numberTable 3 (Table.overwritten.state.view 3) writtenOver after := by
  have restoredTree : Tree.restoreFrom StreamOps.reference 1 otherTree.owner undecided.owner =
      .ok ⟨⟩ _ := eq_ok_of_succeeded (by decide +kernel)
  have restoredTable : Table.restoreFrom Table.TableOps.reference 3 Table.overwritten.owner
      writtenOver.owner = .ok ⟨⟩ _ := eq_ok_of_succeeded (by decide +kernel)
  have reached : Reachable numberTable writtenOver := Reachable.run Table.overwritten_reachable _
  constructor
  · exact ⟨_, restoredTree, (restoration_replaces.1 _ _ _ undecided otherTree 1 _ undecided_reachable
      (Reachable.run (Reachable.start _) _)).1 restoredTree⟩
  · exact ⟨_, restoredTable, (restoration_replaces.2 _ _ _ writtenOver Table.overwritten 3 _ reached
      Table.overwritten_reachable).1 restoredTable⟩

end Contract
end TransactionalCollection
