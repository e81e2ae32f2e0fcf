import TransactionalCollection.BTree.File
import TransactionalCollection.Layering.Replay
import TransactionalCollection.Persistence.Mutation

namespace TransactionalCollection
namespace Tree

open Std (ExtTreeSet)
open Layering Native Execution Persistence

/-!
# The tree as a layered set

A native tree binds each of its keys to nothing in particular, and a delta
answers a key it inserts or deletes.  The reading of `isRowVisible` is the
reading of that stack, and insertion, deletion and restoration reach no
further than the keys they reserve.
-/

variable {S : Signature} {schema : BTreeSchema S}

theorem containsKey_iff {tree : BTreeLock schema} {key : Key S} :
    containsKey tree key = true <-> key ∈ tree.keys := Iff.rfl

instance : StoredMap (BTreeLock schema) (Key S) Unit where
  bindings tree key := if containsKey tree key then some () else none

theorem bindings_insertValid (tree : BTreeLock schema) (key : Key S) (valid : schema.ValidKey key) :
    bindings (tree.insertValid key valid) = (CellWrite.put key ()).apply (bindings tree) := by
  funext other
  simp only [bindings, containsKey_iff, BTreeLock.mem_insertValid, CellWrite.apply, CellWrite.key,
    CellWrite.outcome, eq_comm (a := other)]
  by_cases same : key = other <;> simp [same]

theorem bindings_erase (tree : BTreeLock schema) (key : Key S) :
    bindings (tree.erase key) = (CellWrite.remove key).apply (bindings tree) := by
  funext other
  simp only [bindings, containsKey_iff, BTreeLock.mem_erase, CellWrite.apply, CellWrite.key,
    CellWrite.outcome, Ne, eq_comm (a := other)]
  by_cases same : key = other <;> simp [same]

namespace Delta

/-- The cell a native write changes. -/
def NativeWrite.cell : NativeWrite schema -> CellWrite (Key S) Unit
  | .insert key _ => .put key ()
  | .delete key => .remove key

theorem NativeWrite.bindings_perform (write : NativeWrite schema) (tree : BTreeLock schema) :
    bindings (write.perform tree) = write.cell.apply (bindings tree) := by
  cases write with
  | insert key valid => exact bindings_insertValid tree key valid
  | delete key => exact bindings_erase tree key

/-- How a delta answers a key: insertions prevail over deletions. -/
def answers (delta : Delta schema) : Overlay (Key S) Unit := fun key =>
  if containsKey delta.inserts key then some (some ())
  else if containsKey delta.deletes key then some none
  else none

/-- No key is both inserted and deleted. -/
def KeysApart (delta : Delta schema) : Prop :=
  forall key, key ∈ delta.inserts.keys -> key ∉ delta.deletes.keys

theorem cells_nativeWrites (delta : Delta schema) :
    delta.nativeWrites.map NativeWrite.cell =
      (keyStreamIn delta.inserts Bounds.all false).map (fun key => .put key ()) ++
        (keyStreamIn delta.deletes Bounds.all false).map .remove := by
  rw [nativeWrites, List.map_append, List.map_map, List.map_map]
  congr 1
  exact List.attach_map_val (f := fun key => CellWrite.put key ())

theorem mem_all {tree : BTreeLock schema} {key : Key S} :
    key ∈ keyStreamIn tree Bounds.all false <-> key ∈ tree.keys := by
  rw [mem_keyStreamIn]
  refine ⟨fun both => both.1, fun member => ⟨member, ?_⟩⟩
  rw [boundsContain]
  cases key.head? <;> rfl

theorem effect_inserts (delta : Delta schema) (key : Key S) :
    effect ((keyStreamIn delta.inserts Bounds.all false).map (fun key => CellWrite.put key ())) key =
      if containsKey delta.inserts key then some (some ()) else none := by
  by_cases member : containsKey delta.inserts key = true
  · rw [if_pos member]
    refine effect_of_agree ⟨.put key (), ?_, rfl⟩ ?_
    · exact List.mem_map_of_mem (mem_all.mpr (containsKey_iff.mp member))
    · rintro write written _
      rcases List.mem_map.mp written with ⟨_, _, rfl⟩
      rfl
  · rw [if_neg member, effect_eq_none_iff]
    rintro write written rfl
    rcases List.mem_map.mp written with ⟨inserted, present, rfl⟩
    exact member (mem_all.mp present)

theorem effect_deletes (delta : Delta schema) (key : Key S) :
    effect ((keyStreamIn delta.deletes Bounds.all false).map
      (CellWrite.remove : Key S -> CellWrite (Key S) Unit)) key =
      if containsKey delta.deletes key then some none else none := by
  by_cases member : containsKey delta.deletes key = true
  · rw [if_pos member]
    refine effect_of_agree ⟨.remove key, ?_, rfl⟩ ?_
    · exact List.mem_map_of_mem (mem_all.mpr (containsKey_iff.mp member))
    · rintro write written _
      rcases List.mem_map.mp written with ⟨_, _, rfl⟩
      rfl
  · rw [if_neg member, effect_eq_none_iff]
    rintro write written rfl
    rcases List.mem_map.mp written with ⟨deleted, present, rfl⟩
    exact member (mem_all.mp present)

/-- Deletions are written last, so the two readings differ on a key that is in
both trees and nowhere else. -/
theorem effect_nativeWrites {delta : Delta schema} (apart : delta.KeysApart) :
    effect (delta.nativeWrites.map NativeWrite.cell) = delta.answers := by
  funext key
  rw [cells_nativeWrites, effect_append, effect_inserts, effect_deletes, answers]
  by_cases inserted : containsKey delta.inserts key = true
  · have kept : ¬ containsKey delta.deletes key = true := apart key inserted
    simp [inserted, kept]
  · simp [inserted]

theorem answers_of_written {delta : Delta schema} {write : NativeWrite schema}
    (written : write ∈ delta.nativeWrites) : delta.answers write.cell.key ≠ none := by
  have cell : write.cell ∈ delta.nativeWrites.map NativeWrite.cell := List.mem_map_of_mem written
  rw [cells_nativeWrites, List.mem_append, List.mem_map, List.mem_map] at cell
  rcases cell with ⟨key, member, same⟩ | ⟨key, member, same⟩
  · have inserted : containsKey delta.inserts key = true := mem_all.mp member
    rw [← same, CellWrite.key, answers, if_pos inserted]
    exact Option.some_ne_none _
  · have deleted : containsKey delta.deletes key = true := mem_all.mp member
    rw [← same, CellWrite.key, answers, if_pos deleted]
    split
    · exact Option.some_ne_none _
    · exact Option.some_ne_none _

theorem bindings_performAll (writes : List (NativeWrite schema)) (tree : BTreeLock schema) :
    bindings (performAll (D := Delta schema) writes tree) =
      Layering.replay (writes.map NativeWrite.cell) (bindings tree) := by
  induction writes generalizing tree with
  | nil => rfl
  | cons write writes inductionHypothesis =>
      refine (inductionHypothesis (write.perform tree)).trans ?_
      rw [write.bindings_perform]
      rfl

instance : LayeredDelta (Delta schema) (BTreeLock schema) (Key S) Unit where
  overlay := answers
  Separate := KeysApart
  perform_silent := by
    intro delta tree write key written silent
    change bindings (write.perform tree) key = bindings tree key
    rw [write.bindings_perform, CellWrite.apply, if_neg]
    rintro rfl
    exact answers_of_written written silent
  performAll_read := by
    intro delta tree apart
    change bindings (performAll (D := Delta schema) delta.nativeWrites tree) = _
    rw [bindings_performAll, ← effect_read, effect_nativeWrites apart]

/-! ## The two storage mutations -/

theorem create_answers : (create : Delta schema).answers = Overlay.transparent := by
  funext key
  have absent : ¬ containsKey (BTreeLock.empty : BTreeLock schema) key = true :=
    fun member => BTreeLock.not_mem_empty (containsKey_iff.mp member)
  rw [answers, create, if_neg absent, if_neg absent]
  rfl

theorem create_keysApart : (create : Delta schema).KeysApart :=
  fun _ member _ => BTreeLock.not_mem_empty member

/-- A delta after `insert` of a valid key. -/
def inserted (delta : Delta schema) (key : Key S) (valid : schema.ValidKey key) : Delta schema :=
  ⟨delta.inserts.insertValid key valid, delta.deletes.erase key⟩

/-- A delta after `delete` of a valid key. -/
def deleted (delta : Delta schema) (key : Key S) (valid : schema.ValidKey key) : Delta schema :=
  ⟨delta.inserts.erase key, delta.deletes.insertValid key valid⟩

theorem insert_of_valid {key : Key S} (valid : schema.ValidKey key) (delta : Delta schema) :
    insert key delta = .ok ⟨⟩ (delta.inserted key valid) := by
  change EStateM.bind (onDeletes (deleteKey key)) (fun _ => onInserts (insertKey key)) delta = _
  simp only [EStateM.bind, onDeletes, onInserts, focus, deleteKey, insertKey_of_valid valid]
  rfl

theorem delete_of_valid {key : Key S} (valid : schema.ValidKey key) (delta : Delta schema) :
    delete key delta = .ok ⟨⟩ (delta.deleted key valid) := by
  change EStateM.bind (onInserts (deleteKey key)) (fun _ => onDeletes (insertKey key)) delta = _
  simp only [EStateM.bind, onDeletes, onInserts, focus, deleteKey, insertKey_of_valid valid]
  rfl

/-- An invalid key is refused by native storage, after the removal. -/
theorem insert_of_not_valid {key : Key S} (invalid : ¬ schema.ValidKey key) (delta : Delta schema) :
    exists error, insert key delta = .error error ⟨delta.inserts, delta.deletes.erase key⟩ := by
  rcases insertKey_of_not_valid invalid delta.inserts with ⟨error, refused⟩
  refine ⟨error, ?_⟩
  change EStateM.bind (onDeletes (deleteKey key)) (fun _ => onInserts (insertKey key)) delta = _
  simp only [EStateM.bind, onDeletes, onInserts, focus, deleteKey, refused]

theorem delete_of_not_valid {key : Key S} (invalid : ¬ schema.ValidKey key) (delta : Delta schema) :
    exists error, delete key delta = .error error ⟨delta.inserts.erase key, delta.deletes⟩ := by
  rcases insertKey_of_not_valid invalid delta.deletes with ⟨error, refused⟩
  refine ⟨error, ?_⟩
  change EStateM.bind (onInserts (deleteKey key)) (fun _ => onDeletes (insertKey key)) delta = _
  simp only [EStateM.bind, onDeletes, onInserts, focus, deleteKey, refused]

theorem inserted_answers (delta : Delta schema) (key : Key S) (valid : schema.ValidKey key)
    (other : Key S) : (delta.inserted key valid).answers other =
      if key = other then some (some ()) else delta.answers other := by
  simp only [answers, inserted, containsKey_iff, BTreeLock.mem_insertValid, BTreeLock.mem_erase,
    eq_comm (a := other), Ne]
  by_cases same : key = other <;> simp [same]

theorem deleted_answers (delta : Delta schema) (key : Key S) (valid : schema.ValidKey key)
    (other : Key S) : (delta.deleted key valid).answers other =
      if key = other then some none else delta.answers other := by
  simp only [answers, deleted, containsKey_iff, BTreeLock.mem_insertValid, BTreeLock.mem_erase,
    eq_comm (a := other), Ne]
  by_cases same : key = other <;> simp [same]

theorem erase_answers_of_ne (inserts deletes : BTreeLock schema) {key other : Key S}
    (different : key ≠ other) :
    (⟨inserts.erase key, deletes⟩ : Delta schema).answers other =
        (⟨inserts, deletes⟩ : Delta schema).answers other ∧
      (⟨inserts, deletes.erase key⟩ : Delta schema).answers other =
        (⟨inserts, deletes⟩ : Delta schema).answers other := by
  simp [answers, containsKey_iff, Ne.symm different]

theorem insert_reworks (key : Key S) :
    Moves (Delta.Reworks (.one key)) (insert key : EStateM IoError (Delta schema) PUnit) := by
  intro delta
  by_cases valid : schema.ValidKey key
  · rw [insert_of_valid valid, finalState_ok]
    constructor
    · intro apart other member
      simp only [inserted, BTreeLock.mem_insertValid, BTreeLock.mem_erase] at member ⊢
      rcases member with rfl | old
      · exact fun both => both.1 rfl
      · exact fun both => apart other old both.2
    · intro other elsewhere
      exact (inserted_answers delta key valid other).trans (if_neg elsewhere)
  · rcases insert_of_not_valid valid delta with ⟨error, refused⟩
    rw [refused, finalState_error]
    constructor
    · intro apart other member
      rw [BTreeLock.mem_erase]
      exact fun both => apart other member both.2
    · exact fun other elsewhere => (erase_answers_of_ne _ _ elsewhere).2

theorem delete_reworks (key : Key S) :
    Moves (Delta.Reworks (.one key)) (delete key : EStateM IoError (Delta schema) PUnit) := by
  intro delta
  by_cases valid : schema.ValidKey key
  · rw [delete_of_valid valid, finalState_ok]
    constructor
    · intro apart other member
      simp only [deleted, BTreeLock.mem_insertValid, BTreeLock.mem_erase] at member ⊢
      rintro (rfl | old)
      · exact member.1 rfl
      · exact apart other member.2 old
    · intro other elsewhere
      exact (deleted_answers delta key valid other).trans (if_neg elsewhere)
  · rcases delete_of_not_valid valid delta with ⟨error, refused⟩
    rw [refused, finalState_error]
    constructor
    · intro apart other member
      exact apart other (BTreeLock.mem_erase.mp member).2
    · exact fun other elsewhere => (erase_answers_of_ne _ _ elsewhere).1

end Delta

/-! ## Reads -/

/-- `is_row_visible` looks the key up in the stack of the visible deltas. -/
theorem isRowVisible_eq (snapshot : VisibleSnapshot (Delta schema) (BTreeLock schema)) (key : Key S) :
    isRowVisible snapshot key = (snapshot.view key).isSome := by
  have fold : forall (deltas : List (Delta schema)) (visible : Bool) (below : View (Key S) Unit),
      visible = (below key).isSome ->
      deltas.foldl (fun visible delta =>
        let visible := if containsKey delta.deletes key then false else visible
        if containsKey delta.inserts key then true else visible) visible =
      (stack (deltas.map overlay) below key).isSome := by
    intro deltas
    induction deltas with
    | nil => exact fun _ _ same => same
    | cons delta deltas inductionHypothesis =>
        intro visible below same
        refine inductionHypothesis _ (Overlay.read (overlay delta) below) ?_
        change _ = (((delta.answers key).getD (below key)).isSome)
        rw [same]
        simp only [Delta.answers]
        by_cases inserted : containsKey delta.inserts key = true
        · simp [inserted]
        · by_cases deleted : containsKey delta.deletes key = true <;> simp [inserted, deleted]
  refine fold snapshot.deltas _ _ ?_
  simp only [bindings]
  split <;> simp_all

theorem isRowVisible_iff {snapshot : VisibleSnapshot (Delta schema) (BTreeLock schema)} {key : Key S} :
    isRowVisible snapshot key = true <-> snapshot.view key = some () := by
  rw [isRowVisible_eq]
  cases snapshot.view key <;> simp

/-! ## Mutations -/

theorem mutatePending_mutates {txn : TxnId} {key : Key S}
    {operation : EStateM IoError (Delta schema) PUnit}
    (works : Moves (Delta.Reworks (.one key)) operation) :
    Moves (Mutates txn (.one key)) (mutatePending txn operation) := by
  rw [mutatePending, ← mapError_id (pendingDeltaForTxn txn)]
  refine Mutates.withPending Delta.create_answers Delta.create_keysApart id ?_
  intro delta state present writable
  rw [finalState_mapError]
  exact Mutates.writePending writable present works

theorem insertRow_admits (txn : TxnId) (key : Key S) (owner : BTree schema) :
    Admits txn (.one key) owner (finalState (insertRow txn key owner)) := by
  rw [insertRow, ← mapError_id (CollectionOwner.tryWrite txn (.one key))]
  exact admits_of_reserved id (mutatePending_mutates (Delta.insert_reworks key)) owner

theorem deleteRow_admits (txn : TxnId) (key : Key S) (owner : BTree schema) :
    Admits txn (.one key) owner (finalState (deleteRow txn key owner)) := by
  rw [deleteRow, ← mapError_id (CollectionOwner.tryWrite txn (.one key))]
  exact admits_of_reserved id (mutatePending_mutates (Delta.delete_reworks key)) owner

theorem replay_keysApart {committed : List (Delta schema)} {source : List (Key S)}
    {canonical : BTreeLock schema} {delta : Delta schema}
    (built : Delta.replay committed source (Delta.forRestore canonical) = .ok ⟨⟩ delta) :
    delta.KeysApart := by
  rcases bind_eq_ok.mp built with ⟨_, seeded, applied, inserted⟩
  rcases focus_eq_ok.mp applied with ⟨deletes, _, rfl⟩
  have moves : Moves (Delta.Reworks SetRange.all)
      (forM source Delta.insert : EStateM IoError (Delta schema) PUnit) := by
    refine Moves.forM Delta.Reworks.refl Delta.Reworks.trans (fun key _ => ?_)
    exact fun start => ⟨(Delta.insert_reworks key start).separate,
      fun _ elsewhere => False.elim (elsewhere trivial)⟩
  exact (moves.ok_related inserted).separate (fun _ member _ => BTreeLock.not_mem_empty member)

/-- A restoration fails without a trace, or stages the delta it has built. -/
theorem restoreReserved_cases (txn : TxnId) (sourceSchema : BTreeSchema S) (source : List (Key S))
    (state : TreeState schema) :
    (exists error, restoreReserved txn sourceSchema source state = .error error state) ∨
      (state.assertWritable txn = .ok () ∧ exists delta,
        Delta.replay (state.committedThrough txn) source (Delta.forRestore state.persistent) =
          .ok ⟨⟩ delta ∧
        restoreReserved txn sourceSchema source state = .ok ⟨⟩ (state.setPending txn delta)) := by
  unfold restoreReserved
  cases writable : state.assertWritable txn with
  | error error => exact Or.inl ⟨_, rfl⟩
  | ok =>
      simp only
      split
      · exact Or.inl ⟨_, rfl⟩
      · cases built : Delta.replay (state.committedThrough txn) source
            (Delta.forRestore state.persistent) with
        | error error after => exact Or.inl ⟨_, rfl⟩
        | ok value delta => exact Or.inr ⟨trivial, delta, rfl, rfl⟩

theorem restoreReserved_mutates {txn : TxnId} {sourceSchema : BTreeSchema S} {source : List (Key S)} :
    Moves (Mutates txn SetRange.all)
      (restoreReserved txn sourceSchema source : EStateM OpError (TreeState schema) PUnit) := by
  intro state
  rcases restoreReserved_cases txn sourceSchema source state with
    ⟨error, failed⟩ | ⟨writable, delta, built, staged⟩
  · rw [failed]
    exact Mutates.refl state
  · rw [staged]
    exact Mutates.setPending writable (fun _ => replay_keysApart built)
      (fun _ elsewhere => False.elim (elsewhere trivial))

theorem restoreFrom_admits (collate : Streaming.StreamOps) (txn : TxnId)
    {sourceSchema : BTreeSchema S} (source : BTree sourceSchema) (owner : BTree schema) :
    Admits txn SetRange.all owner (finalState (restoreFrom collate txn source owner)) :=
  admits_of_reserved OpError.lock restoreReserved_mutates owner

end Tree
end TransactionalCollection
