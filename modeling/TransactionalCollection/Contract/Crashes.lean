import TransactionalCollection.BTree.Attempts
import TransactionalCollection.BTree.Lifecycle
import TransactionalCollection.Table.Lifecycle

namespace TransactionalCollection
namespace Contract

open Std (ExtTreeMap)
open Layering Native Execution Persistence Streaming

/-!
# Storage after a crash

A tree and a table are materialized the same way, insertions before deletions, and a
delta keeps these apart.  So each native write stores what the delta of one committed
transaction answers, and a crash between any two writes mixes nothing else into storage.
-/

/-- A native write of a table stores what the delta answers, as one of a tree does. -/
theorem table_answers_stored {S : Signature} {schema : Table.TableSchema S} {delta : Table.Delta schema}
    (apart : delta.KeysApart) {write : Table.Delta.NativeWrite schema} (written : write ∈ delta.nativeWrites) :
    delta.answers write.cell.key = some write.cell.outcome := by
  have cell : write.cell ∈ delta.nativeWrites.map Table.Delta.NativeWrite.cell := List.mem_map_of_mem written
  rw [Table.Delta.cells_nativeWrites, List.mem_append, List.mem_map, List.mem_map] at cell
  rcases cell with ⟨entry, stored, same⟩ | ⟨entry, stored, same⟩
  · have present : delta.inserts.rows[entry.1]? = some entry.2 :=
      ExtTreeMap.mem_toList_iff_getElem?_eq_some.mp stored
    rw [← same, CellWrite.key, CellWrite.outcome, Table.Delta.answers, present]
  · have present : delta.deletes.rows[entry.1]? = some entry.2 :=
      ExtTreeMap.mem_toList_iff_getElem?_eq_some.mp stored
    have kept : delta.inserts.rows[entry.1]? = none := by
      by_contra inserted
      rw [apart entry.1 inserted] at present
      cases present
    rw [← same, CellWrite.key, CellWrite.outcome, Table.Delta.answers, kept, present]
    rfl

theorem table_covers_stored {S : Signature} {schema : Table.TableSchema S} : Covers (Table.Delta schema) Stored :=
  covers_stored Table.Delta.NativeWrite.cell Table.Delta.NativeWrite.bindings_perform
    (fun _ _ apart => table_answers_stored apart)

/-- Wherever a process ends, its storage holds under each key what was committed before
some instant: not before the frontier, and not past the last cutoff tried. -/
theorem crashes_keep_instants {S : Signature} :
    (forall (collate : StreamOps) (schema : Tree.BTreeSchema S) (canonical : Tree.BTreeLock schema)
      (attempts : List (Attempt (Tree.treeDriver collate schema))) (key : Key S),
      exists instant, ((Trial.start canonical).attempts (Tree.treeDriver collate schema) attempts).Keeps key instant) ∧
    forall (ops : Table.TableOps S) (schema : Table.TableSchema S) (canonical : Table.TableLock schema)
      (attempts : List (Attempt (Table.tableDriver ops schema))) (key : Key S),
      exists instant, ((Trial.start canonical).attempts (Table.tableDriver ops schema) attempts).Keeps key instant := by
  constructor
  · intro collate schema canonical attempts key
    exact Trial.attempts_keep Tree.Delta.covers_stored (Tree.treeDriver collate schema) canonical attempts key
  · intro ops schema canonical attempts key
    exact Trial.attempts_keep table_covers_stored (Table.tableDriver ops schema) canonical attempts key

end Contract
end TransactionalCollection
