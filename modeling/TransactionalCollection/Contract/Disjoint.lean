import TransactionalCollection.BTree.Literal
import TransactionalCollection.BTree.Steps
import TransactionalCollection.Table.Literal
import TransactionalCollection.Table.Steps

namespace TransactionalCollection
namespace Contract

open Native Persistence

/-!
# The halves of a delta

Reading lays the deletions of a delta under its insertions, and materializing
performs its insertions before its deletions.  The two agree on what a delta means
because no key is ever in both halves, whatever the mutations under way have come to.
-/

/-- On a tree and on a table alike, after any calls of any mutations, finished or
stopped between two of them, no key is both inserted and deleted in a pending or in a
committed delta. -/
theorem halves_stay_apart {S : Signature} :
    (forall (schema : Tree.BTreeSchema S) (canonical : Tree.BTreeLock schema)
      (events : List (Event (Tree.treeScripts schema))),
      ((Shared.start canonical).run events).resolved.Every Tree.Delta.KeysApart) ∧
    forall (ops : Table.TableOps S) (schema : Table.TableSchema S) (canonical : Table.TableLock schema)
      (events : List (Event (Table.tableScripts ops schema))),
      ((Shared.start canonical).run events).resolved.Every Table.Delta.KeysApart :=
  ⟨fun _ canonical events => (run_every Tree.treeScripts_preserve canonical events).imp
      (fun _ => Tree.Delta.keysApart_of_halves),
    fun ops _ canonical events => (run_every (Table.tableScripts_preserve ops) canonical events).imp
      (fun _ => Table.Delta.keysApart_of_halves)⟩

/-- A row is upserted and committed, and then deleted by one mutation while another,
of the same transaction, upserts a second row and is dropped before its last call. -/
def crossing : List (Event (Table.tableScripts Table.TableOps.reference Table.pairSchema)) :=
  [.write 1 (.upsertRow [Signature.number 7] [Signature.number 1]),
    .advance 0, .advance 0, .advance 0, .advance 0, .advance 0, .advance 0, .advance 0, .commit 1,
    .write 2 (.deleteRow [Signature.number 7]),
    .write 2 (.upsertRow [Signature.number 8] [Signature.number 1]),
    .advance 1, .advance 2, .advance 1, .advance 1, .advance 2, .advance 2, .advance 1, .advance 1,
    .advance 1, .advance 2, .advance 1, .abort 2, .advance 1, .advance 1]

example :
    let reached := (Shared.start Table.TableLock.empty).run crossing
    (reached.resolved.pending[2]?.map (fun delta => (delta.inserts.allRows, delta.deletes.allRows))) =
      some ([], [[Signature.number 7, Signature.number 1]]) := by
  decide +kernel

end Contract
end TransactionalCollection
