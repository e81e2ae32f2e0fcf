import TransactionalCollection.BTree.Lifecycle
import TransactionalCollection.Persistence.Outcome
import TransactionalCollection.Table.Lifecycle

namespace TransactionalCollection
namespace Contract

open Native Persistence Streaming

/-!
# One outcome for each transaction

A tree and a table share their owner, and so they share what it leaves to the
caller: a transaction which has been rolled back must not be committed.
-/

/-- On a tree and on a table alike, each transaction of a run has at most one
outcome if and only if the run never commits, ahead of the frontier, what it
has rolled back. -/
theorem at_most_one_outcome {S : Signature} :
    (forall (collate : StreamOps) (schema : Tree.BTreeSchema S) (canonical : Tree.BTreeLock schema)
      (actions : List (Action (Tree.treeDriver collate schema))),
      OneOutcome (Tree.treeDriver collate schema) (Config.start canonical) actions <->
        NeverCommitsRolledBack (Tree.treeDriver collate schema) (Config.start canonical) actions) ∧
    forall (ops : Table.TableOps S) (schema : Table.TableSchema S)
      (canonical : Table.TableLock schema) (actions : List (Action (Table.tableDriver ops schema))),
      OneOutcome (Table.tableDriver ops schema) (Config.start canonical) actions <->
        NeverCommitsRolledBack (Table.tableDriver ops schema) (Config.start canonical) actions :=
  ⟨fun _ _ canonical actions => oneOutcome_iff_neverCommitsRolledBack (Sound.start canonical) actions,
    fun _ _ canonical actions => oneOutcome_iff_neverCommitsRolledBack (Sound.start canonical) actions⟩

/-- A transaction inserts a key, is rolled back, and commits nevertheless. -/
def rolledBackThenCommitted : List (Action (Tree.treeDriver StreamOps.reference Tree.unarySchema)) :=
  [.mutate 1 (.insertRow [Signature.number 7]), .rollback 1, .commit 1]

theorem not_oneOutcome_rolledBackThenCommitted :
    ¬ OneOutcome (Tree.treeDriver StreamOps.reference Tree.unarySchema)
      (Config.start Tree.BTreeLock.empty) rolledBackThenCommitted := by
  intro outcome
  refine outcome.decided 1 ⟨⟨[.mutate 1 (.insertRow [Signature.number 7]), .rollback 1], [], rfl, ?_⟩,
    ⟨[.mutate 1 (.insertRow [Signature.number 7])], [.commit 1], rfl, ?_⟩⟩
  · decide +kernel
  · decide +kernel

end Contract
end TransactionalCollection
