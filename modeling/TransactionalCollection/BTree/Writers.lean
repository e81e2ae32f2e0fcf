import TransactionalCollection.BTree.Visibility
import TransactionalCollection.Persistence.FirstWriters

namespace TransactionalCollection
namespace Tree

open Layering Native Execution Persistence

/-!
# Writers of a tree in flight

Past its reservation a writer of a tree fetches the pending delta, and then
inserts or deletes its key there.  Neither looks at what is visible.
-/

variable {S : Signature}

inductive TreeWrite (S : Signature) where
  | insertRow (key : Key S)
  | deleteRow (key : Key S)
  deriving DecidableEq

def TreeWrite.cell : TreeWrite S -> CellWrite (Key S) Unit
  | .insertRow key => .put key ()
  | .deleteRow key => .remove key

def TreeWrite.onDelta {schema : BTreeSchema S} :
    TreeWrite S -> EStateM IoError (Delta schema) PUnit
  | .insertRow key => Delta.insert key
  | .deleteRow key => Delta.delete key

/-- What a tree refuses it refuses when the key is inserted into a delta. -/
def treeWriters (schema : BTreeSchema S) : Writers (Delta schema) (BTreeLock schema) (Key S) Unit where
  Op := TreeWrite S
  Error := IoError
  accepts _ := true
  cell op := some op.cell
  created := Delta.create
  write _ op _ := op.onDelta

variable {schema : BTreeSchema S}

/-- A tree records whatever it is told, also the removal of a key which it does not have. -/
theorem treeWriters_records : (treeWriters schema).Records (fun _ _ => True) where
  separate := Delta.create_keysApart
  reworks := by
    rintro txn op cell state ⟨⟩
    cases op with
    | insertRow key => exact Delta.insert_reworks key
    | deleteRow key => exact Delta.delete_reworks key
  records := by
    rintro txn op cell state delta after accepted ⟨⟩ separate present done _
    cases op with
    | insertRow key =>
        by_cases valid : schema.ValidKey key
        · cases (Delta.insert_of_valid valid delta).symm.trans done
          exact (Delta.inserted_answers delta key valid key).trans (if_pos rfl)
        · rcases Delta.insert_of_not_valid valid delta with ⟨error, refused⟩
          cases refused.symm.trans done
    | deleteRow key =>
        by_cases valid : schema.ValidKey key
        · cases (Delta.delete_of_valid valid delta).symm.trans done
          exact (Delta.deleted_answers delta key valid key).trans (if_pos rfl)
        · rcases Delta.delete_of_not_valid valid delta with ⟨error, refused⟩
          cases refused.symm.trans done

end Tree
end TransactionalCollection
