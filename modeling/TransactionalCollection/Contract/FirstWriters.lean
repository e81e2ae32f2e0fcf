import TransactionalCollection.BTree.Lifecycle
import TransactionalCollection.BTree.Writers
import TransactionalCollection.Table.Writers

namespace TransactionalCollection
namespace Contract

open Native Persistence

/-!
# Concurrent writers of one transaction

Both collections fetch the pending delta in the same way, so the argument about
first writers applies to both.
-/

/-- Whatever the interleaving of the writers of one transaction with each other and with
everything else, they install one delta at most and it contains all they have reported
done: on a tree always, and on a table whose key columns have names of their own if the
removals among them found their rows. -/
theorem first_writers_lose_no_write {S : Signature} :
    (forall (schema : Tree.BTreeSchema S) (canonical : Tree.BTreeLock schema) (txn : TxnId)
      (turns : List (Turn (Tree.treeWriters schema))),
      (Machine.start canonical : Machine (Tree.treeWriters schema)).Throughout
        (Machine.Orderly txn) turns ->
      LosesNoWrite txn ((Machine.start canonical : Machine (Tree.treeWriters schema)).run turns)) ∧
    forall (ops : Table.TableOps S) (schema : Table.TableSchema S)
      (canonical : Table.TableLock schema) (txn : TxnId)
      (turns : List (Turn (Table.tableWriters ops schema))),
      schema.KeysDistinct ->
      (Machine.start canonical : Machine (Table.tableWriters ops schema)).Throughout
        (Machine.Orderly txn) turns ->
      Finds Table.FindsRemoved txn
        ((Machine.start canonical : Machine (Table.tableWriters ops schema)).run turns) ->
      LosesNoWrite txn ((Machine.start canonical : Machine (Table.tableWriters ops schema)).run turns) :=
  ⟨fun _ canonical _ _ orderly =>
      Machine.run_losesNoWrite Tree.treeWriters_records canonical orderly (fun _ _ _ _ _ _ => trivial),
    fun ops _ canonical _ _ distinct orderly finds =>
      Machine.run_losesNoWrite (Table.tableWriters_records distinct ops) canonical orderly finds⟩

/-- Two writers find no delta, one installs and the other adopts, and both write
before the commit. -/
def racing : List (Turn (Tree.treeWriters Tree.unarySchema)) :=
  [.call 1 (.write (.insertRow [Signature.number 7])),
    .call 1 (.write (.insertRow [Signature.number 8])),
    .look 0, .look 1, .install 1 Tree.Delta.create, .install 0 Tree.Delta.create,
    .write 0, .write 1, .call 1 .commit]

/-- The same race on a table, between an upsert and a deletion. -/
def racingRows : List (Turn (Table.tableWriters Table.TableOps.reference Table.pairSchema)) :=
  [.call 1 (.write (.upsertRow [Signature.number 7] [Signature.number 1])),
    .call 1 (.write (.deleteRow [Signature.number 8])),
    .look 0, .look 1, .install 1 Table.Delta.create, .install 0 Table.Delta.create,
    .write 0, .write 1, .call 1 .commit]

/-- A table with a row to delete. -/
def oneEight : Table.TableLock Table.pairSchema :=
  Table.TableLock.empty.put [Signature.number 8] [Signature.number 3] (by decide) (by decide)

theorem racingRows_finds :
    Finds Table.FindsRemoved 1 ((Machine.start oneEight :
      Machine (Table.tableWriters Table.TableOps.reference Table.pairSchema)).run racingRows) := by
  have found : ((Machine.start oneEight :
      Machine (Table.tableWriters Table.TableOps.reference Table.pairSchema)).run racingRows).calls.all
        (fun call => ((Table.tableWriters Table.TableOps.reference Table.pairSchema).cellOf call).all
          (fun cell => cell.outcome.isSome || call.found.isSome)) = true := by
    decide +kernel
  intro call member _ cell writes _ removes absent
  have here := List.all_eq_true.mp found call member
  rw [writes, Option.all_some, removes, absent] at here
  cases here

theorem first_writers_lose_no_write_racing :
    LosesNoWrite 1 ((Machine.start Tree.BTreeLock.empty :
        Machine (Tree.treeWriters Tree.unarySchema)).run racing) ∧
      LosesNoWrite 1 ((Machine.start oneEight :
        Machine (Table.tableWriters Table.TableOps.reference Table.pairSchema)).run racingRows) := by
  refine ⟨first_writers_lose_no_write.1 _ _ _ _ ⟨?_, ?_, trivial, trivial, trivial, trivial, trivial,
      trivial, ?_, trivial⟩,
    first_writers_lose_no_write.2 _ _ _ _ _ (by decide) ⟨?_, ?_, trivial, trivial, trivial, trivial, trivial,
      trivial, ?_, trivial⟩ racingRows_finds⟩
  · exact fun _ => ⟨_, rfl, by decide +kernel⟩
  · exact fun _ => ⟨_, rfl, by decide +kernel⟩
  · exact fun _ => by decide +kernel
  · exact fun _ => ⟨_, rfl, by decide +kernel⟩
  · exact fun _ => ⟨_, rfl, by decide +kernel⟩
  · exact fun _ => by decide +kernel

/-- A deletion from an empty table, committed. -/
def deletingNothing : List (Turn (Table.tableWriters Table.TableOps.reference Table.pairSchema)) :=
  [.call 1 (.write (.deleteRow [Signature.number 7])), .look 0, .install 0 Table.Delta.create, .write 0,
    .call 1 .commit]

/-- The deletion has succeeded, and the committed delta does not record it. -/
theorem not_losesNoWrite_deletingNothing :
    (Machine.start Table.TableLock.empty :
      Machine (Table.tableWriters Table.TableOps.reference Table.pairSchema)).Throughout
        (Machine.Orderly 1) deletingNothing ∧
      ¬ LosesNoWrite 1 ((Machine.start Table.TableLock.empty :
        Machine (Table.tableWriters Table.TableOps.reference Table.pairSchema)).run deletingNothing) := by
  constructor
  · refine ⟨fun _ => ⟨_, rfl, by decide +kernel⟩, trivial, trivial, trivial, ?_, trivial⟩
    exact fun _ => by decide +kernel
  · intro loses
    rcases loses.committed (some ⟨1, 0⟩) (by decide +kernel) _ List.mem_cons_self (by decide +kernel)
      (.remove [Signature.number 7]) rfl (by decide +kernel) with ⟨handle, same, contains⟩
    cases same
    revert contains
    unfold Contains
    decide +kernel

end Contract
end TransactionalCollection
