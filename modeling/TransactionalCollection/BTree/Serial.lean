import TransactionalCollection.BTree.Lifecycle
import TransactionalCollection.Persistence.Serial

namespace TransactionalCollection
namespace Tree

open Std (ExtTreeSet)
open Layering Native Execution Persistence

/-!
# The tree simulates serial execution

Both mutations of a tree write their key unconditionally, so the delta of a
transaction always answers what its log does and no removal is ever deferred.
-/

variable {S : Signature}

/-- A mutation of one key which the schema accepts. -/
inductive KeyOp (schema : BTreeSchema S) where
  | insertRow (key : Key S) (valid : schema.ValidKey key)
  | deleteRow (key : Key S) (valid : schema.ValidKey key)

namespace KeyOp

variable {schema : BTreeSchema S}

def key : KeyOp schema -> Key S
  | .insertRow key _ => key
  | .deleteRow key _ => key

def call (txn : TxnId) : KeyOp schema -> EStateM LockError (BTree schema) PUnit
  | .insertRow key _ => Tree.insertRow txn key
  | .deleteRow key _ => Tree.deleteRow txn key

/-- The cell the mutation writes. -/
def cell : KeyOp schema -> CellWrite (Key S) Unit
  | .insertRow key _ => .put key ()
  | .deleteRow key _ => .remove key

@[simp] theorem cell_key (op : KeyOp schema) : op.cell.key = op.key := by
  cases op <;> rfl

/-- The mutation of a plain set of keys. -/
def onKeys (op : KeyOp schema) (keys : ExtTreeSet (Key S)) : ExtTreeSet (Key S) :=
  match op with
  | .insertRow key _ => keys.insert key
  | .deleteRow key _ => keys.erase key

end KeyOp

/-- Replay a log over a plain set of keys. -/
def serialKeys {schema : BTreeSchema S} (canonical : ExtTreeSet (Key S))
    (log : List (KeyOp schema)) : ExtTreeSet (Key S) :=
  log.foldl (fun keys op => op.onKeys keys) canonical

section Driver

variable (schema : BTreeSchema S)

/-- Insertions and deletions of valid keys.  Whatever else holds or releases
reservations is left open: any semaphore may take the place of the present
one. -/
def keyDriver : Driver (Delta schema) (BTreeLock schema) (Key S) where
  Op := KeyOp schema
  Error := LockError
  mutate txn op := op.call txn
  range op := .one op.key
  admits := by
    intro txn op owner
    cases op with
    | insertRow key valid => exact insertRow_admits txn key owner
    | deleteRow key valid => exact deleteRow_admits txn key owner
  Traffic := Semaphore (Key S)
  passes semaphore _ := semaphore

end Driver

variable {schema : BTreeSchema S}

theorem mutatePending_ok {txn : TxnId} {operation : EStateM IoError (Delta schema) PUnit}
    {before after : TreeState schema}
    (done : mutatePending txn operation before = .ok ⟨⟩ after) :
    exists pending written : Delta schema, before.assertWritable txn = .ok () ∧
      pending.answers = before.ownOverlay txn ∧ operation pending = .ok ⟨⟩ written ∧
      after.ownOverlay txn = written.answers := by
  rcases bind_eq_ok.mp done with ⟨pending, middle, fetched, wrote⟩
  rcases State.pendingDeltaForTxn_ownOverlay Delta.create_answers fetched with ⟨answers, writable⟩
  rcases focus_eq_ok.mp (mapError_eq_ok.mp wrote) with ⟨written, performed, rfl⟩
  refine ⟨pending, written, writable, answers, performed, ?_⟩
  rw [State.ownOverlay, State.setPending_self]
  rfl

/-- An operation which cannot fail on the pending delta fails, if at all,
before it touches the state. -/
theorem mutatePending_error {txn : TxnId} {operation : EStateM IoError (Delta schema) PUnit}
    (total : forall delta, exists written, operation delta = .ok ⟨⟩ written)
    {before after : TreeState schema} {error : LockError}
    (failed : mutatePending txn operation before = .error error after) : after = before := by
  change EStateM.bind (pendingDeltaForTxn txn) _ before = _ at failed
  unfold EStateM.bind at failed
  cases fetched : pendingDeltaForTxn txn before with
  | error refusal middle =>
      rw [fetched] at failed
      cases failed
      exact State.pendingDeltaForTxn_error fetched
  | ok pending middle =>
      rcases total pending with ⟨written, performed⟩
      rw [fetched] at failed
      simp only [mapError, State.writePending, focus, performed] at failed
      cases failed

/-- What reserving and then mutating comes to. -/
theorem reserved_ok {txn : TxnId} {range : SetRange (Key S)}
    {body : EStateM LockError (TreeState schema) PUnit} {before after : BTree schema}
    (done : (CollectionOwner.tryWrite txn range >>= fun _ => CollectionOwner.onState body) before =
      .ok ⟨⟩ after) :
    before.semaphore.tryWrite txn range = .ok after.semaphore ∧
      body before.state = .ok ⟨⟩ after.state := by
  rw [← mapError_id (CollectionOwner.tryWrite txn range)] at done
  exact reserved_eq_ok done

theorem reserved_error {txn : TxnId} {range : SetRange (Key S)}
    {body : EStateM LockError (TreeState schema) PUnit} {before after : BTree schema}
    {error : LockError}
    (failed : (CollectionOwner.tryWrite txn range >>= fun _ => CollectionOwner.onState body) before =
      .error error after) :
    after.state = before.state ∨ body before.state = .error error after.state := by
  rw [← mapError_id (CollectionOwner.tryWrite txn range)] at failed
  exact reserved_eq_error failed

/-- Each mutation writes exactly its own cell, or nothing at all. -/
theorem keyDriver_faithful : Faithful (keyDriver schema) KeyOp.cell False where
  success := by
    intro txn op before after _ done
    cases op with
    | insertRow key valid =>
        rcases mutatePending_ok (reserved_ok done).2 with
          ⟨pending, written, writable, answers, performed, own⟩
        rw [Delta.insert_of_valid valid] at performed
        cases performed
        refine ⟨writable, Or.inl (fun other => ?_)⟩
        rw [own, Delta.inserted_answers, answers]
        rfl
    | deleteRow key valid =>
        rcases mutatePending_ok (reserved_ok done).2 with
          ⟨pending, written, writable, answers, performed, own⟩
        rw [Delta.delete_of_valid valid] at performed
        cases performed
        refine ⟨writable, Or.inl (fun other => ?_)⟩
        rw [own, Delta.deleted_answers, answers]
        rfl
  failure := by
    intro txn op error before after _ failed
    have unchanged : after.state = before.state := by
      cases op with
      | insertRow key valid =>
          rcases reserved_error failed with same | inside
          · exact same
          · exact mutatePending_error (fun delta => ⟨_, Delta.insert_of_valid valid delta⟩) inside
      | deleteRow key valid =>
          rcases reserved_error failed with same | inside
          · exact same
          · exact mutatePending_error (fun delta => ⟨_, Delta.delete_of_valid valid delta⟩) inside
    rw [unchanged]

/-- A native tree, a plain set and a replayed view agree on what is present. -/
theorem replay_isSome_iff (canonical : BTreeLock schema) (log : List (KeyOp schema)) (key : Key S) :
    (Layering.replay (log.map KeyOp.cell) (bindings canonical) key).isSome = true <->
      key ∈ serialKeys canonical.keys log := by
  have present : forall (view : View (Key S) Unit) (keys : ExtTreeSet (Key S)),
      (forall key, (view key).isSome = true <-> key ∈ keys) ->
      ((Layering.replay (log.map KeyOp.cell) view key).isSome = true <-> key ∈ serialKeys keys log) := by
    induction log with
    | nil => exact fun _ _ same => same key
    | cons op log inductionHypothesis =>
        intro view keys same
        refine inductionHypothesis (op.cell.apply view) (op.onKeys keys) (fun other => ?_)
        cases op with
        | insertRow written valid =>
            rw [KeyOp.onKeys, ExtTreeSet.mem_insert, Std.LawfulEqCmp.compare_eq_iff_eq, ← same other]
            by_cases here : written = other <;>
              simp [KeyOp.cell, CellWrite.apply, CellWrite.key, CellWrite.outcome, here]
        | deleteRow written valid =>
            rw [KeyOp.onKeys, ExtTreeSet.mem_erase, Ne, Std.LawfulEqCmp.compare_eq_iff_eq, ← same other]
            by_cases here : written = other <;>
              simp [KeyOp.cell, CellWrite.apply, CellWrite.key, CellWrite.outcome, here]
  refine present (bindings canonical) canonical.keys (fun other => ?_)
  simp only [bindings]
  by_cases member : containsKey canonical other = true
  · simp [member, containsKey_iff.mp member]
  · simp [member, mt containsKey_iff.mpr member]

/-- The configuration a run from canonical storage leads to. -/
abbrev keyRun (canonical : BTreeLock schema) (actions : List (Action (keyDriver schema))) :
    Config (Delta schema) (BTreeLock schema) (Key S) :=
  run (keyDriver schema) (Config.start canonical) actions

/-- What the transactions of the run have done. -/
abbrev keyLedger (canonical : BTreeLock schema) (actions : List (Action (keyDriver schema))) :
    Ledger (KeyOp schema) :=
  chronicle (keyDriver schema) (Config.start canonical) Ledger.empty actions

/-- A transactional tree answers as serial replay in transaction order does:
committed transactions through the reader's, then the reader's own mutations.
The run may stop anywhere, between two native writes of a finalization too. -/
theorem containsRow_iff_mem_serialKeys (canonical : BTreeLock schema)
    (actions : List (Action (keyDriver schema))) (txn : TxnId) (key : Key S)
    (ahead : (keyRun canonical actions).Ahead txn) :
    (containsRow txn key (keyRun canonical actions).owner).1 = true <->
      key ∈ serialKeys canonical.keys ((keyLedger canonical actions).history txn) := by
  have sound : Sound (keyRun canonical actions) := run_sound (Sound.start canonical) actions
  have tracks := run_tracks keyDriver_faithful (Sound.start canonical)
    (Tracks.start (keyDriver schema) KeyOp.cell False canonical) actions False.elim
  rw [← replay_isSome_iff]
  change isRowVisible ((keyRun canonical actions).state.visibleSnapshot txn) key = true <-> _
  rw [isRowVisible_eq]
  change ((keyRun canonical actions).state.view txn key).isSome = true <-> _
  rw [tracks.view_eq sound ahead.floor_le]
  rfl

/-- Two transactions which commit out of order, with a finalization of the
earlier one stopped after its first native write. -/
def outOfOrder : List (Action (keyDriver unarySchema)) :=
  [.mutate 2 (.deleteRow [Signature.number 8] (by decide)),
    .mutate 1 (.insertRow [Signature.number 7] (by decide)),
    .commit 2, .commit 1, .finalizeBegin 1, .finalizeWrite]

theorem containsRow_iff_mem_serialKeys_outOfOrder :
    (containsRow 3 [Signature.number 7] (keyRun BTreeLock.empty outOfOrder).owner).1 = true <->
      [Signature.number 7] ∈ serialKeys (BTreeLock.empty : BTreeLock unarySchema).keys
        ((keyLedger BTreeLock.empty outOfOrder).history 3) :=
  containsRow_iff_mem_serialKeys _ _ _ _ (by decide)

end Tree
end TransactionalCollection
