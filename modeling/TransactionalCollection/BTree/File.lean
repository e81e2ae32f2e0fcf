import TransactionalCollection.Persistence.Owner
import TransactionalCollection.Streaming.SortedStream
import Std.Data.ExtTreeSet

namespace TransactionalCollection
namespace Tree

open Std Execution Native Persistence Streaming

/-!
# The transactional BTree

A native tree is a finite set of keys, each valid for the schema of the tree,
and yields them in key order.  A delta is a pair of native trees.  Inserting a
key removes it from the deletions first, deleting a key removes it from the
insertions first, and neither looks at what is visible.
-/

/-! ## Schema -/

/-- `BTreeSchema`, with what its constructor asserts. -/
structure BTreeSchema (S : Signature) where
  storage : StorageConfig
  keyArity : Nat
  keyTypes : Option (List S.ValueType)
  arity_pos : 0 < keyArity
  arity_types : forall types, keyTypes = some types -> types.length = keyArity

variable {S : Signature}

namespace BTreeSchema

/-- What `validateKey` accepts. -/
def ValidKey (schema : BTreeSchema S) (key : Key S) : Prop :=
  key.length = schema.keyArity ∧ Typed key (schema.keyTypes.getD [])

instance (schema : BTreeSchema S) (key : Key S) : Decidable (schema.ValidKey key) :=
  inferInstanceAs (Decidable (_ ∧ _))

def typeMismatch (column : Nat) (expected actual : S.ValueType) : TCError :=
  let types := s!"expected {S.debugType expected} but got {S.debugType actual}"
  .badRequest s!"tc-collection BTree key column {column} {types}"

def validateKey (schema : BTreeSchema S) (key : Key S) : Except TCError (Key S) :=
  if key.length ≠ schema.keyArity then
    .error (.badRequest s!"tc-collection BTree keys must have arity {schema.keyArity}")
  else
    match checkTypes typeMismatch 0 key (schema.keyTypes.getD []) with
    | .error error => .error error
    | .ok () => .ok key

theorem validateKey_of_not_valid {schema : BTreeSchema S} {key : Key S}
    (invalid : ¬ schema.ValidKey key) :
    exists error, schema.validateKey key = .error error := by
  unfold validateKey
  split
  · exact ⟨_, rfl⟩
  · rename_i arity
    cases checked : checkTypes typeMismatch 0 key (schema.keyTypes.getD []) with
    | error error => exact ⟨error, rfl⟩
    | ok =>
        exact False.elim (invalid ⟨not_not.mp arity, (checkTypes_eq_ok_iff _ 0 key _).mp checked⟩)

end BTreeSchema

/-! ## Native trees -/

/-- A native tree.  It validates what is inserted, so it holds no other keys. -/
structure BTreeLock (schema : BTreeSchema S) where
  keys : ExtTreeSet (Key S)
  valid : forall key, key ∈ keys -> schema.ValidKey key

/-- A native range selects by the first key column. -/
def boundsContain (bounds : Bounds S) (key : Key S) : Bool :=
  key.head?.all bounds.admits

namespace BTreeLock

variable {schema : BTreeSchema S}

@[ext] theorem ext {left right : BTreeLock schema} (same : left.keys = right.keys) : left = right := by
  cases left
  cases right
  cases same
  rfl

def empty : BTreeLock schema where
  keys := ∅
  valid := by
    intro key member
    exact absurd member ExtTreeSet.not_mem_empty

/-- Insert a key known to be valid. -/
def insertValid (tree : BTreeLock schema) (key : Key S) (valid : schema.ValidKey key) :
    BTreeLock schema where
  keys := tree.keys.insert key
  valid := by
    intro other member
    rcases ExtTreeSet.mem_insert.mp member with same | old
    · exact LawfulEqCmp.eq_of_compare same ▸ valid
    · exact tree.valid other old

/-- Remove a key. -/
def erase (tree : BTreeLock schema) (key : Key S) : BTreeLock schema where
  keys := tree.keys.erase key
  valid := fun other member => tree.valid other (ExtTreeSet.mem_erase.mp member).2

@[simp] theorem mem_insertValid {tree : BTreeLock schema} {key other : Key S}
    {valid : schema.ValidKey key} :
    other ∈ (tree.insertValid key valid).keys <-> other = key ∨ other ∈ tree.keys := by
  rw [insertValid, ExtTreeSet.mem_insert, LawfulEqCmp.compare_eq_iff_eq, eq_comm]

@[simp] theorem mem_erase {tree : BTreeLock schema} {key other : Key S} :
    other ∈ (tree.erase key).keys <-> other ≠ key ∧ other ∈ tree.keys := by
  rw [erase, ExtTreeSet.mem_erase, Ne, LawfulEqCmp.compare_eq_iff_eq, eq_comm]

@[simp] theorem not_mem_empty {key : Key S} : key ∉ (empty : BTreeLock schema).keys :=
  ExtTreeSet.not_mem_empty

end BTreeLock

section NativeCalls

variable {schema : BTreeSchema S}

/-- The keys in bounds as of the moment the stream is opened. -/
def keyStreamIn (tree : BTreeLock schema) (bounds : Bounds S) (reverse : Bool) : List (Key S) :=
  let keys := tree.keys.toList.filter (boundsContain bounds)
  if reverse then keys.reverse else keys

theorem mem_keyStreamIn {tree : BTreeLock schema} {bounds : Bounds S} {reverse : Bool} {key : Key S} :
    key ∈ keyStreamIn tree bounds reverse <-> key ∈ tree.keys ∧ boundsContain bounds key = true := by
  cases reverse <;> simp [keyStreamIn]

def containsKey (tree : BTreeLock schema) (key : Key S) : Bool := tree.keys.contains key

def insertKey (key : Key S) : EStateM IoError (BTreeLock schema) PUnit :=
  fun tree =>
    if valid : schema.ValidKey key then .ok ⟨⟩ (tree.insertValid key valid)
    else
      match schema.validateKey key with
      | .error error => .error (.other error.message) tree
      | .ok _ => .ok ⟨⟩ tree

def deleteKey (key : Key S) : EStateM IoError (BTreeLock schema) PUnit :=
  fun tree => .ok ⟨⟩ (tree.erase key)

theorem insertKey_of_valid {key : Key S} (valid : schema.ValidKey key) (tree : BTreeLock schema) :
    insertKey key tree = .ok ⟨⟩ (tree.insertValid key valid) := by
  rw [insertKey, dif_pos valid]

theorem insertKey_of_not_valid {key : Key S} (invalid : ¬ schema.ValidKey key)
    (tree : BTreeLock schema) : exists error, insertKey key tree = .error error tree := by
  rcases BTreeSchema.validateKey_of_not_valid invalid with ⟨error, rejected⟩
  exact ⟨.other error.message, by rw [insertKey, dif_neg invalid, rejected]⟩

end NativeCalls

/-! ## Deltas -/

structure Delta (schema : BTreeSchema S) where
  inserts : BTreeLock schema
  deletes : BTreeLock schema

namespace Delta

variable {schema : BTreeSchema S}

/-- `Delta::create`: empty insert and delete storage. -/
def create : Delta schema := ⟨.empty, .empty⟩

/-- Empty inserts, and canonical contents in deletes. -/
def forRestore (canonical : BTreeLock schema) : Delta schema := ⟨.empty, canonical⟩

def onInserts {A : Type} (operation : EStateM IoError (BTreeLock schema) A) :
    EStateM IoError (Delta schema) A :=
  focus inserts (fun inserts delta => { delta with inserts := inserts }) operation

def onDeletes {A : Type} (operation : EStateM IoError (BTreeLock schema) A) :
    EStateM IoError (Delta schema) A :=
  focus deletes (fun deletes delta => { delta with deletes := deletes }) operation

def insert (key : Key S) : EStateM IoError (Delta schema) PUnit := do
  onDeletes (deleteKey key)
  onInserts (insertKey key)

def delete (key : Key S) : EStateM IoError (Delta schema) PUnit := do
  onInserts (deleteKey key)
  onDeletes (insertKey key)

/-- An individual write that `applyTo` performs on canonical storage. -/
inductive NativeWrite (schema : BTreeSchema S) where
  | insert (key : Key S) (valid : schema.ValidKey key)
  | delete (key : Key S)

namespace NativeWrite

def perform : NativeWrite schema -> BTreeLock schema -> BTreeLock schema
  | .insert key valid, tree => tree.insertValid key valid
  | .delete key, tree => tree.erase key

end NativeWrite

/-- All insertions in key order, then all deletions in key order. -/
def nativeWrites (delta : Delta schema) : List (NativeWrite schema) :=
  (keyStreamIn delta.inserts Bounds.all false).attach.map (fun key =>
    .insert key.1 (delta.inserts.valid key.1 (mem_keyStreamIn.mp key.2).1)) ++
  (keyStreamIn delta.deletes Bounds.all false).map .delete

/-- `PersistentDelta::apply_to`. -/
def applyTo (delta : Delta schema) : EStateM IoError (BTreeLock schema) PUnit := do
  forM (keyStreamIn delta.inserts Bounds.all false) insertKey
  forM (keyStreamIn delta.deletes Bounds.all false) deleteKey

/-- Stored keys are valid, so materializing them raises no storage error. -/
theorem applyTo_eq (delta : Delta schema) (persistent : BTreeLock schema) :
    delta.applyTo persistent =
      .ok ⟨⟩ (delta.nativeWrites.foldl (fun native write => write.perform native) persistent) := by
  have inserts : forall key, key ∈ keyStreamIn delta.inserts Bounds.all false ->
      forall tree : BTreeLock schema, exists after, insertKey key tree = .ok ⟨⟩ after :=
    fun key member tree =>
      ⟨_, insertKey_of_valid (delta.inserts.valid key (mem_keyStreamIn.mp member).1) tree⟩
  change EStateM.bind (forM (keyStreamIn delta.inserts Bounds.all false) insertKey)
    (fun _ => forM (keyStreamIn delta.deletes Bounds.all false) deleteKey) persistent = _
  rw [EStateM.bind, forM_eq_foldl inserts, nativeWrites, List.foldl_append, List.foldl_map,
    List.foldl_map]
  refine (forM_eq_foldl (fun key _ tree => ⟨tree.erase key, rfl⟩) _).trans ?_
  congr 2
  rw [← List.foldl_attach]
  apply List.foldl_ext
  intro tree key _
  rw [insertKey_of_valid (delta.inserts.valid key.1 (mem_keyStreamIn.mp key.2).1)]
  rfl

instance : PersistentDelta (Delta schema) (BTreeLock schema) where
  Write := NativeWrite schema
  nativeWrites := nativeWrites
  perform := NativeWrite.perform
  applyTo := applyTo
  applyTo_eq := applyTo_eq

end Delta

/-! ## The transactional tree -/

/-- `KeyStreamCollator`. -/
def KeyStreamCollator.cmp (reverse : Bool) (left right : Key S) : Ordering :=
  if reverse then (compare left right).swap else compare left right

abbrev TreeState (schema : BTreeSchema S) := State (Delta schema) (BTreeLock schema)

abbrev BTree (schema : BTreeSchema S) := CollectionOwner (Delta schema) (BTreeLock schema) (Key S)

section Mutations

variable {schema : BTreeSchema S}

def pendingDeltaForTxn (txn : TxnId) : EStateM LockError (TreeState schema) (Delta schema) :=
  State.pendingDeltaForTxn Delta.create txn

/-- Mutate the pending delta, creating it first. -/
def mutatePending (txn : TxnId) (operation : EStateM IoError (Delta schema) PUnit) :
    EStateM LockError (TreeState schema) PUnit := do
  let pending <- pendingDeltaForTxn txn
  mapError (fun error => backgroundError error.message)
    (State.writePending txn pending operation)

def insertRow (txn : TxnId) (key : Key S) : EStateM LockError (BTree schema) PUnit := do
  CollectionOwner.tryWrite txn (.one key)
  CollectionOwner.onState (mutatePending txn (Delta.insert key))

def deleteRow (txn : TxnId) (key : Key S) : EStateM LockError (BTree schema) PUnit := do
  CollectionOwner.tryWrite txn (.one key)
  CollectionOwner.onState (mutatePending txn (Delta.delete key))

end Mutations

section Reads

variable {schema : BTreeSchema S} (collate : StreamOps)

/-- Lay one delta over the visible keys: subtract its deletions, then merge its
insertions. -/
def Delta.layOver (bounds : Bounds S) (reverse : Bool) (visible : List (Key S))
    (delta : Delta schema) : List (Key S) :=
  collate.tryMerge (KeyStreamCollator.cmp reverse)
    (collate.tryDiff (KeyStreamCollator.cmp reverse) visible
      (keyStreamIn delta.deletes bounds reverse))
    (keyStreamIn delta.inserts bounds reverse)

/-- The stream behind `keys` and `for_each_visible_key_in_order_until`. -/
def visibleKeys (snapshot : VisibleSnapshot (Delta schema) (BTreeLock schema))
    (bounds : Bounds S) (reverse : Bool) : List (Key S) :=
  snapshot.deltas.foldl (Delta.layOver collate bounds reverse)
    (keyStreamIn snapshot.persistent bounds reverse)

def isRowVisible (snapshot : VisibleSnapshot (Delta schema) (BTreeLock schema))
    (key : Key S) : Bool :=
  snapshot.deltas.foldl
    (fun visible delta =>
      let visible := if containsKey delta.deletes key then false else visible
      if containsKey delta.inserts key then true else visible)
    (containsKey snapshot.persistent key)

/-- Stream the visible keys under a read permit on everything. -/
def keys (txn : TxnId) (bounds : Bounds S) (reverse : Bool) (owner : BTree schema) :
    List (Key S) × BTree schema :=
  let owner := owner.acquireReadPermit txn .all
  (visibleKeys collate (owner.state.visibleSnapshot txn) bounds reverse, owner)

def containsRow (txn : TxnId) (key : Key S) (owner : BTree schema) : Bool × BTree schema :=
  let owner := owner.acquireReadPermit txn (.one key)
  (isRowVisible (owner.state.visibleSnapshot txn) key, owner)

/-- The keys `for_each_row_in_order` calls back with, in order. -/
def forEachRowInOrder (txn : TxnId) (bounds : Bounds S) (reverse : Bool) (owner : BTree schema) :
    List (Key S) × BTree schema :=
  let owner := owner.acquireReadPermit txn .all
  (visibleKeys collate (owner.state.visibleSnapshot txn) bounds reverse, owner)

def countIn (txn : TxnId) (bounds : Bounds S) (owner : BTree schema) : Nat × BTree schema :=
  let rows := forEachRowInOrder collate txn bounds false owner
  (rows.1.length, rows.2)

def count (txn : TxnId) (owner : BTree schema) : Nat × BTree schema :=
  countIn collate txn Bounds.all owner

/-- Takes no read permit. -/
def anyRowIn (txn : TxnId) (bounds : Bounds S) (reverse : Bool) (owner : BTree schema) : Bool :=
  !(visibleKeys collate (owner.state.visibleSnapshot txn) bounds reverse).isEmpty

def isEmpty (txn : TxnId) (owner : BTree schema) : Bool :=
  !anyRowIn collate txn Bounds.all false owner

end Reads

/-- `BTreeSlice`. -/
structure BTreeSlice (S : Signature) where
  bounds : Bounds S
  reverse : Bool

namespace BTreeSlice

variable {schema : BTreeSchema S} (collate : StreamOps)

def count (slice : BTreeSlice S) (txn : TxnId) (owner : BTree schema) : Nat × BTree schema :=
  countIn collate txn slice.bounds owner

def isEmpty (slice : BTreeSlice S) (txn : TxnId) (owner : BTree schema) : Bool :=
  !anyRowIn collate txn slice.bounds slice.reverse owner

def forEachRowInOrder (slice : BTreeSlice S) (txn : TxnId) (owner : BTree schema) :
    List (Key S) × BTree schema :=
  Tree.forEachRowInOrder collate txn slice.bounds slice.reverse owner

end BTreeSlice

/-! ## Restoration -/

section Restore

variable {schema : BTreeSchema S}

/-- Build the replacement in its own workspace: the visible committed deltas
are applied to the deletions, then each source key is inserted. -/
def Delta.replay (committed : List (Delta schema)) (source : List (Key S)) :
    EStateM IoError (Delta schema) PUnit := do
  Delta.onDeletes (applyAll committed)
  forM source Delta.insert

def restoreReserved (txn : TxnId) (sourceSchema : BTreeSchema S) (source : List (Key S)) :
    EStateM OpError (TreeState schema) PUnit :=
  fun state =>
    match state.assertWritable txn with
    | .error error => .error (.lock error) state
    | .ok () =>
        if schema.keyArity ≠ sourceSchema.keyArity ∨ schema.keyTypes ≠ sourceSchema.keyTypes then
          .error (.request (.badRequest "BTree restoration schema mismatch")) state
        else
          match Delta.replay (state.committedThrough txn) source
              (Delta.forRestore state.persistent) with
          | .error error _ => .error (.io error) state
          | .ok _ delta =>
              match state.assertWritable txn with
              | .error error => .error (.lock error) state
              | .ok () => .ok ⟨⟩ (state.setPending txn delta)

/-- Stage a native replacement of the whole tree. -/
def restoreFrom (collate : StreamOps) (txn : TxnId) {sourceSchema : BTreeSchema S}
    (source : BTree sourceSchema) : EStateM OpError (BTree schema) PUnit := do
  mapError OpError.lock (CollectionOwner.tryWrite txn .all)
  CollectionOwner.onState (restoreReserved txn sourceSchema
    (keys collate txn Bounds.all false source).1)

end Restore

end Tree
end TransactionalCollection
