import TransactionalCollection.BTree.Reads
import TransactionalCollection.Persistence.Replacement

namespace TransactionalCollection
namespace Tree

open Layering Native Execution Persistence Streaming

/-!
# Restoring a tree

The replacement hides every key which has been decided, canonical or committed,
and inserts the keys of the source.  What the transaction itself had pending is
left out of it.
-/

variable {S : Signature} {schema : BTreeSchema S}

namespace Delta

theorem insert_lays {key : Key S} {before after : Delta schema}
    (done : Delta.insert key before = .ok ⟨⟩ after) :
    overlay after = lay [.put key ()] (overlay before) := by
  by_cases valid : schema.ValidKey key
  · cases (insert_of_valid valid before).symm.trans done
    funext other
    rw [lay_singleton]
    exact inserted_answers before key valid other
  · rcases insert_of_not_valid valid before with ⟨error, refused⟩
    cases refused.symm.trans done

theorem delete_lays {key : Key S} {before after : Delta schema}
    (done : Delta.delete key before = .ok ⟨⟩ after) :
    overlay after = lay [.remove key] (overlay before) := by
  by_cases valid : schema.ValidKey key
  · cases (delete_of_valid valid before).symm.trans done
    funext other
    rw [lay_singleton]
    exact deleted_answers before key valid other
  · rcases delete_of_not_valid valid before with ⟨error, refused⟩
    cases refused.symm.trans done

/-- A delta which only deletes hides what it deletes. -/
theorem deletes_hide (tree : BTreeLock schema) :
    overlay (⟨.empty, tree⟩ : Delta schema) = Overlay.hides (bindings tree) := by
  funext key
  have absent : ¬ containsKey (BTreeLock.empty : BTreeLock schema) key = true :=
    fun member => BTreeLock.not_mem_empty (containsKey_iff.mp member)
  change Delta.answers _ key = ((if containsKey tree key then some () else none).map (fun _ => none))
  rw [answers, if_neg absent]
  split
  · rfl
  · rfl

/-- The replacement shows the source over what has been decided. -/
theorem replay_read {committed : List (Delta schema)} {source : List (Key S)}
    {canonical : BTreeLock schema} {delta : Delta schema}
    (separate : forall layer, layer ∈ committed -> Separate layer)
    (built : Delta.replay committed source (Delta.forRestore canonical) = .ok ⟨⟩ delta)
    {goal : View (Key S) Unit}
    (builds : Layering.replay (source.map (fun key => CellWrite.put key ())) (fun _ => none) = goal) :
    (overlay delta).read (stack (committed.map overlay) (bindings canonical)) = goal := by
  rcases bind_eq_ok.mp built with ⟨_, seeded, applied, inserted⟩
  have seeding : Delta.onDeletes (applyAll committed) (Delta.forRestore canonical) =
      .ok ⟨⟩ ⟨.empty, performAll (committed.flatMap Persistence.nativeWrites) canonical⟩ :=
    focus_of_ok (applyAll_eq committed (Delta.forRestore canonical).deletes)
  cases seeding.symm.trans applied
  have laid := forM_lays (fun _ _ _ _ one => insert_lays one) inserted
  apply read_of_hides ?_ laid builds
  rw [deletes_hide, State.bindings_performAll separate canonical]

end Delta

/-- A restoration which succeeds has staged a replacement. -/
theorem restoreFrom_ok {collate : StreamOps} {txn : TxnId} {sourceSchema : BTreeSchema S}
    {source : BTree sourceSchema} {owner after : BTree schema}
    (done : restoreFrom collate txn source owner = .ok ⟨⟩ after) :
    owner.state.assertWritable txn = .ok () ∧
      exists delta, after.state = owner.state.setPending txn delta ∧
        Delta.replay (owner.state.committedThrough txn) (keys collate txn Bounds.all false source).1
          (Delta.forRestore owner.state.persistent) = .ok ⟨⟩ delta := by
  have staged := (reserved_eq_ok done).2
  rcases restoreReserved_cases txn sourceSchema (keys collate txn Bounds.all false source).1
    owner.state with ⟨error, failed⟩ | ⟨writable, delta, built, outcome⟩
  · cases failed.symm.trans staged
  · refine ⟨writable, delta, ?_, built⟩
    injection staged.symm.trans outcome

/-- A restoration which fails has worked in its workspace only. -/
theorem restoreFrom_error {collate : StreamOps} {txn : TxnId} {sourceSchema : BTreeSchema S}
    {source : BTree sourceSchema} {owner after : BTree schema} {error : OpError}
    (failed : restoreFrom collate txn source owner = .error error after) :
    after.state = owner.state := by
  rcases reserved_eq_error failed with same | stopped
  · exact same
  · rcases restoreReserved_cases txn sourceSchema (keys collate txn Bounds.all false source).1
      owner.state with ⟨_, unchanged⟩ | ⟨_, _, _, staged⟩
    · injection stopped.symm.trans unchanged
    · cases staged.symm.trans stopped

/-- The keys a tree streams rebuild what it shows. -/
theorem replay_keys (collate : StreamOps) (txn : TxnId) (source : BTree schema) :
    Layering.replay ((keys collate txn Bounds.all false source).1.map (fun key => CellWrite.put key ()))
      (fun _ => none) = source.state.view txn := by
  have shown : forall key, key ∈ (keys collate txn Bounds.all false source).1 <->
      source.state.view txn key = some () :=
    fun key => mem_keys_iff.trans (and_iff_right (boundsContain_all key))
  apply replay_map_eq (fun key => key) (fun _ _ => rfl)
  · rw [List.map_id']
    exact (keys_strict collate txn Bounds.all false source).nodup
  · intro key listed
    exact (shown key).mp listed
  · intro key absent
    cases found : source.state.view txn key with
    | none => rfl
    | some value => exact absurd rfl (absent key ((shown key).mpr found))

/-- A successful restoration of a tree replaces what its transaction sees with the
keys of the source. -/
theorem restoreFrom_replaces {collate : StreamOps} {schema sourceSchema : BTreeSchema S}
    {target : Config (Delta schema) (BTreeLock schema) (Key S)}
    (reachable : Reachable (treeDriver collate schema) target) {txn : TxnId}
    {source : BTree sourceSchema} {after : BTree schema}
    (done : restoreFrom collate txn source target.owner = .ok ⟨⟩ after) :
    Replaces (treeDriver collate schema) txn (source.state.view txn) target after := by
  rcases restoreFrom_ok done with ⟨writable, delta, staged, built⟩
  have reached : Reachable (treeDriver collate schema) { target with owner := after } := by
    have stepped := reachable.step (.mutate txn (.restoreFrom sourceSchema source))
    change Reachable _ { target with owner := finalState (restoreFrom collate txn source target.owner) }
      at stepped
    rw [done] at stepped
    exact stepped
  exact replaces_of_setPending reached staged writable
    (Delta.replay_read (reachable.sound.separateThrough txn) built (replay_keys collate txn source))

/-- The target then streams the keys which the source streams. -/
theorem restoreFrom_keys {collate : StreamOps} {schema sourceSchema : BTreeSchema S} {txn : TxnId}
    {source : BTree sourceSchema} {after : BTree schema}
    (same : after.state.view txn = source.state.view txn) :
    (keys collate txn Bounds.all false after).1 = (keys collate txn Bounds.all false source).1 := by
  apply StrictlyAscending.ext (keys_strict collate txn Bounds.all false after)
    (keys_strict collate txn Bounds.all false source)
  intro key
  rw [mem_forward, mem_forward, mem_keys_iff, mem_keys_iff, same]

end Tree
end TransactionalCollection
