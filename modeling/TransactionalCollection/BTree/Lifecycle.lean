import TransactionalCollection.BTree.Visibility
import TransactionalCollection.Persistence.Lifecycle

namespace TransactionalCollection
namespace Tree

open Layering Native Execution Persistence Streaming

/-!
# Runs of a tree

Any mutation of a tree may be called at any time, of keys its schema refuses
too, among readers which wait for their permits.
-/

variable {S : Signature}

/-- A call which mutates a tree. -/
inductive TreeCall (schema : BTreeSchema S) where
  | insertRow (key : Key S)
  | deleteRow (key : Key S)
  | restoreFrom (sourceSchema : BTreeSchema S) (source : BTree sourceSchema)

namespace TreeCall

variable {schema : BTreeSchema S}

def perform (collate : StreamOps) (txn : TxnId) :
    TreeCall schema -> EStateM OpError (BTree schema) PUnit
  | .insertRow key => mapError OpError.lock (Tree.insertRow txn key)
  | .deleteRow key => mapError OpError.lock (Tree.deleteRow txn key)
  | .restoreFrom _ source => Tree.restoreFrom collate txn source

/-- The range the call reserves. -/
def range : TreeCall schema -> SetRange (Key S)
  | .insertRow key => .one key
  | .deleteRow key => .one key
  | .restoreFrom _ _ => .all

theorem perform_admits (collate : StreamOps) (txn : TxnId) (call : TreeCall schema)
    (owner : BTree schema) :
    Admits txn call.range owner (finalState (call.perform collate txn owner)) := by
  cases call with
  | insertRow key =>
      rw [perform, finalState_mapError]
      exact insertRow_admits txn key owner
  | deleteRow key =>
      rw [perform, finalState_mapError]
      exact deleteRow_admits txn key owner
  | restoreFrom sourceSchema source => exact restoreFrom_admits collate txn source owner

end TreeCall

/-- All mutations of a tree, among readers. -/
def treeDriver (collate : StreamOps) (schema : BTreeSchema S) :
    Driver (Delta schema) (BTreeLock schema) (Key S) where
  Op := TreeCall schema
  Error := OpError
  mutate txn call := call.perform collate txn
  range := TreeCall.range
  admits txn call owner := call.perform_admits collate txn owner
  Traffic := TxnId × SetRange (Key S)
  passes reader semaphore := semaphore.read reader.1 reader.2

/-- One key column of any type. -/
def unarySchema : BTreeSchema Signature.numbers where
  storage := {}
  keyArity := 1
  keyTypes := none
  arity_pos := by decide
  arity_types := by
    intro types impossible
    cases impossible

end Tree
end TransactionalCollection
