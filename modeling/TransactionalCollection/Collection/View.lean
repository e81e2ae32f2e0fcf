import TransactionalCollection.BTree.Codec
import TransactionalCollection.Collection.Bounds
import TransactionalCollection.Table.Handle

namespace TransactionalCollection

open Native Execution Persistence

/-!
# Collections

A collection handle is a view of a tree, a table or a view of one, or a tensor.
The routes of a tree view write to the tree without regard to the bounds of the
view.  A lifecycle decision is passed on to the owner which the kind of handle
names, and ends there.
-/

variable {S : Signature}

namespace Collection

/-- A tree with named columns, seen through bounds and in a direction. -/
structure BTreeView (forms : ValueForms S) (native : Tree.BTreeSchema S) where
  schema : List (Tree.BTreeColumnSchema forms)
  btree : Tree.BTree native
  bounds : Bounds S
  reverse : Bool

namespace BTreeView

variable {forms : ValueForms S} {native : Tree.BTreeSchema S}

/-- The whole tree in natural order. -/
def new (schema : List (Tree.BTreeColumnSchema forms)) (btree : Tree.BTree native) :
    BTreeView forms native :=
  ⟨schema, btree, Bounds.all, false⟩

/-- A view of a view: within the bounds of both, in the direction of the later. -/
def slice (view : BTreeView forms native) (bounds : Bounds S) (reverse : Bool) : BTreeView forms native :=
  { view with
    bounds := (maxLowerBound view.bounds.1 bounds.1, minUpperBound view.bounds.2 bounds.2)
    reverse := reverse }

/-- The same view, of the tree as it is now. -/
def withTree (view : BTreeView forms native) (btree : Tree.BTree native) : BTreeView forms native :=
  { view with btree := btree }

/-- The row which a route has been sent. -/
def rowFromState (forms : ValueForms S) (state : S.Value) : Except TCError (Key S) :=
  match forms.form state with
  | .tuple row => .ok row
  | _ => .error (.badRequest "expected BTree row tuple")

/-- Call the tree with a row.  The caller is told what the tree reports as a bad
request. -/
def onRow (state : S.Value) (operation : Key S -> EStateM LockError (Tree.BTree native) PUnit) :
    EStateM OpError (BTreeView forms native) PUnit := fun view =>
  match rowFromState forms state with
  | .error error => .error (.request error) view
  | .ok row => rewrap view.withTree (mapError OpError.lock (operation row) view.btree)

/-- `PUT` to the insert route. -/
def insert (txn : TxnId) (key row : S.Value) : EStateM OpError (BTreeView forms native) PUnit := fun view =>
  match forms.form key with
  | .none => onRow row (Tree.insertRow txn) view
  | _ => .error (.request (.badRequest "BTree insert expects a null key")) view

/-- `DELETE` to the view, and to the delete route. -/
def delete (txn : TxnId) (key : S.Value) : EStateM OpError (BTreeView forms native) PUnit :=
  onRow key (Tree.deleteRow txn)

end BTreeView

end Collection

/-- A handle to a collection.  Tensors have no transactional state. -/
inductive Collection (forms : ValueForms S) (native : Tree.BTreeSchema S) (schema : Table.TableSchema S)
    (Tensor : Type) where
  | btree (view : Collection.BTreeView forms native)
  | table (handle : Table.Handle schema)
  | tensor (value : Tensor)

namespace Collection

variable {forms : ValueForms S} {native : Tree.BTreeSchema S} {schema : Table.TableSchema S} {Tensor : Type}

/-! ## `Transact` -/

/-- Pass a decision on to the owner, if the handle is a tree view or a
transactional table itself. -/
def onOwner (onTree : EStateM LockError (Tree.BTree native) Unit)
    (onTable : EStateM LockError (Table.PersistentTable schema) Unit) :
    EStateM LockError (Collection forms native schema Tensor) Unit
  | .btree view => rewrap (fun btree => .btree (view.withTree btree)) (onTree view.btree)
  | .table (.file owner) => rewrap (fun owner => .table (.file owner)) (onTable owner)
  | .table handle => .ok () (.table handle)
  | .tensor value => .ok () (.tensor value)

def commit (txn : TxnId) : EStateM LockError (Collection forms native schema Tensor) Unit :=
  onOwner (CollectionOwner.commit txn) (CollectionOwner.commit txn)

def rollback (txn : TxnId) : EStateM LockError (Collection forms native schema Tensor) Unit :=
  onOwner (CollectionOwner.rollback txn) (CollectionOwner.rollback txn)

def finalize (cutoff : TxnId) : EStateM LockError (Collection forms native schema Tensor) Unit :=
  onOwner (CollectionOwner.finalize cutoff) (CollectionOwner.finalize cutoff)

end Collection
end TransactionalCollection
