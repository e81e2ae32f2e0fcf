import TransactionalCollection.BTree.Serial
import TransactionalCollection.BTree.Writers

namespace TransactionalCollection
namespace Tree

open Std (ExtTreeSet LawfulEqCmp)
open Layering Native Execution Persistence

/-!
# Rows of any kind

A row which the schema does not accept is refused after the reservation and after the
first of the two native calls.  It leaves a pending delta behind, and an empty one if
there was none, but never an answer, so that the tree simulates serial execution among
such rows too.
-/

variable {S : Signature}

namespace TreeWrite

variable {schema : BTreeSchema S}

def row : TreeWrite S -> Key S
  | .insertRow row => row
  | .deleteRow row => row

def call (txn : TxnId) : TreeWrite S -> EStateM LockError (BTree schema) PUnit
  | .insertRow row => Tree.insertRow txn row
  | .deleteRow row => Tree.deleteRow txn row

/-- The mutation of a plain set of keys. -/
def onKeys (keys : ExtTreeSet (Key S)) : TreeWrite S -> ExtTreeSet (Key S)
  | .insertRow row => keys.insert row
  | .deleteRow row => keys.erase row

theorem call_eq (txn : TxnId) (op : TreeWrite S) : (op.call txn : EStateM LockError (BTree schema) PUnit) =
    (CollectionOwner.tryWrite txn (.one op.row) >>=
      fun _ => CollectionOwner.onState (mutatePending txn op.onDelta)) := by
  cases op <;> rfl

/-- A write which succeeds is of a valid row, and decides it. -/
theorem onDelta_ok {op : TreeWrite S} {delta written : Delta schema} (done : op.onDelta delta = .ok ⟨⟩ written) :
    schema.ValidKey op.row ∧
      forall key, written.answers key = if op.cell.key = key then some op.cell.outcome else delta.answers key := by
  cases op with
  | insertRow row =>
      by_cases valid : schema.ValidKey row
      · cases (Delta.insert_of_valid valid delta).symm.trans done
        exact ⟨valid, Delta.inserted_answers delta row valid⟩
      · rcases Delta.insert_of_not_valid valid delta with ⟨error, refused⟩
        cases refused.symm.trans done
  | deleteRow row =>
      by_cases valid : schema.ValidKey row
      · cases (Delta.delete_of_valid valid delta).symm.trans done
        exact ⟨valid, Delta.deleted_answers delta row valid⟩
      · rcases Delta.delete_of_not_valid valid delta with ⟨error, refused⟩
        cases refused.symm.trans done

/-- A row which is not valid is in no native tree, so that removing it changes nothing. -/
theorem erase_of_not_valid {row : Key S} (invalid : ¬ schema.ValidKey row) (tree : BTreeLock schema) :
    tree.erase row = tree := by
  apply BTreeLock.ext
  apply ExtTreeSet.ext_mem
  intro key
  rw [BTreeLock.mem_erase]
  constructor
  · exact And.right
  · intro member
    refine ⟨?_, member⟩
    rintro rfl
    exact invalid (tree.valid _ member)

/-- A write which fails leaves the delta as it was. -/
theorem onDelta_error {op : TreeWrite S} {delta written : Delta schema} {error : IoError}
    (failed : op.onDelta delta = .error error written) : written = delta := by
  cases op with
  | insertRow row =>
      by_cases valid : schema.ValidKey row
      · cases (Delta.insert_of_valid valid delta).symm.trans failed
      · rcases Delta.insert_of_not_valid valid delta with ⟨_, refused⟩
        cases refused.symm.trans failed
        rw [erase_of_not_valid valid]
  | deleteRow row =>
      by_cases valid : schema.ValidKey row
      · cases (Delta.delete_of_valid valid delta).symm.trans failed
      · rcases Delta.delete_of_not_valid valid delta with ⟨_, refused⟩
        cases refused.symm.trans failed
        rw [erase_of_not_valid valid]

end TreeWrite

/-! ## The driver -/

section Driver

variable (schema : BTreeSchema S)

/-- Insertions and deletions of any rows, among any other traffic of reservations. -/
def rowDriver : Driver (Delta schema) (BTreeLock schema) (Key S) where
  Op := TreeWrite S
  Error := LockError
  mutate txn op := op.call txn
  range op := .one op.row
  admits := by
    intro txn op owner
    cases op with
    | insertRow row => exact insertRow_admits txn row owner
    | deleteRow row => exact deleteRow_admits txn row owner
  Traffic := Semaphore (Key S)
  passes semaphore _ := semaphore

end Driver

variable {schema : BTreeSchema S}

/-- A pending delta which is fetched answers as the transaction did. -/
theorem mutatePending_failed {txn : TxnId} {op : TreeWrite S} {before after : TreeState schema} {error : LockError}
    (failed : mutatePending txn op.onDelta before = .error error after) :
    after.ownOverlay txn = before.ownOverlay txn := by
  change EStateM.bind (pendingDeltaForTxn txn) _ before = _ at failed
  unfold EStateM.bind at failed
  cases fetched : pendingDeltaForTxn txn before with
  | error refusal middle =>
      rw [fetched] at failed
      cases failed
      rw [State.pendingDeltaForTxn_error fetched]
  | ok pending middle =>
      rw [fetched] at failed
      have answers := (State.pendingDeltaForTxn_ownOverlay Delta.create_answers fetched).1
      rcases mapError_eq_error.mp failed with ⟨inner, stopped, _⟩
      cases outcome : (op.onDelta : EStateM IoError (Delta schema) PUnit) pending with
      | ok value written =>
          simp only [State.writePending, focus, outcome] at stopped
          cases stopped
      | error refusal written =>
          simp only [State.writePending, focus, outcome] at stopped
          cases stopped
          rw [State.ownOverlay, State.setPending_self, TreeWrite.onDelta_error outcome, ← answers]
          rfl

/-- Each write decides its own row, or nothing at all. -/
theorem rowDriver_faithful : Faithful (rowDriver schema) TreeWrite.cell False where
  success := by
    intro txn (op : TreeWrite S) before after _ done
    change op.call txn before = _ at done
    rw [TreeWrite.call_eq] at done
    rcases mutatePending_ok (reserved_ok done).2 with ⟨pending, written, writable, answers, performed, own⟩
    refine ⟨writable, Or.inl (fun key => ?_)⟩
    rw [own, (TreeWrite.onDelta_ok performed).2 key, answers]
  failure := by
    intro txn (op : TreeWrite S) error before after _ failed
    change op.call txn before = _ at failed
    rw [TreeWrite.call_eq] at failed
    rcases reserved_error failed with same | inside
    · rw [same]
    · exact mutatePending_failed inside

/-- What is written has been of a valid row. -/
theorem TreeWrite.call_valid {op : TreeWrite S} {txn : TxnId} {before after : BTree schema}
    (done : op.call txn before = .ok ⟨⟩ after) : schema.ValidKey op.row := by
  rw [TreeWrite.call_eq] at done
  rcases mutatePending_ok (reserved_ok done).2 with ⟨_, _, _, _, performed, _⟩
  exact (TreeWrite.onDelta_ok performed).1

/-! ## Plain sets -/

/-- Replay a log over a plain set of keys. -/
def plainKeys (canonical : ExtTreeSet (Key S)) (log : List (TreeWrite S)) : ExtTreeSet (Key S) :=
  log.foldl TreeWrite.onKeys canonical

theorem plainKeys_concat (canonical : ExtTreeSet (Key S)) (log : List (TreeWrite S)) (op : TreeWrite S) :
    plainKeys canonical (log ++ [op]) = op.onKeys (plainKeys canonical log) := by
  rw [plainKeys, List.foldl_append]
  rfl

theorem replay_isSome_iff_mem_plainKeys (canonical : BTreeLock schema) (log : List (TreeWrite S)) (key : Key S) :
    (Layering.replay (log.map TreeWrite.cell) (bindings canonical) key).isSome = true <->
      key ∈ plainKeys canonical.keys log := by
  induction log using List.reverseRecOn with
  | nil =>
      change (bindings canonical key).isSome = true <-> key ∈ canonical.keys
      simp only [bindings]
      by_cases member : containsKey canonical key = true
      · simp [member, containsKey_iff.mp member]
      · simp [member, mt containsKey_iff.mpr member]
  | append_singleton log op inductionHypothesis =>
      rw [List.map_append, Layering.replay_append, plainKeys_concat]
      change ((op.cell.apply (Layering.replay (log.map TreeWrite.cell) (bindings canonical))) key).isSome = true <-> _
      cases op with
      | insertRow row =>
          rw [TreeWrite.onKeys, ExtTreeSet.mem_insert, LawfulEqCmp.compare_eq_iff_eq, ← inductionHypothesis]
          by_cases here : row = key <;>
            simp [TreeWrite.cell, CellWrite.apply, CellWrite.key, CellWrite.outcome, here]
      | deleteRow row =>
          rw [TreeWrite.onKeys, ExtTreeSet.mem_erase, Ne, LawfulEqCmp.compare_eq_iff_eq, ← inductionHypothesis]
          by_cases here : row = key <;>
            simp [TreeWrite.cell, CellWrite.apply, CellWrite.key, CellWrite.outcome, here]

/-- What a run from canonical storage leads to. -/
abbrev rowRun (canonical : BTreeLock schema) (actions : List (Action (rowDriver schema))) :
    Config (Delta schema) (BTreeLock schema) (Key S) :=
  run (rowDriver schema) (Config.start canonical) actions

/-- What its transactions have done. -/
abbrev rowLedger (canonical : BTreeLock schema) (actions : List (Action (rowDriver schema))) : Ledger (TreeWrite S) :=
  chronicle (rowDriver schema) (Config.start canonical) Ledger.empty actions

/-- What a transaction sees after a run is a plain set. -/
theorem visible_iff_mem_plainKeys (canonical : BTreeLock schema) (actions : List (Action (rowDriver schema)))
    {txn : TxnId} (key : Key S) (ahead : (rowRun canonical actions).Ahead txn) :
    isRowVisible ((rowRun canonical actions).state.visibleSnapshot txn) key = true <->
      key ∈ plainKeys canonical.keys ((rowLedger canonical actions).history txn) := by
  have sound : Sound (rowRun canonical actions) := run_sound (Sound.start canonical) actions
  have tracks := run_tracks rowDriver_faithful (Sound.start canonical)
    (Tracks.start (rowDriver schema) TreeWrite.cell False canonical) actions False.elim
  rw [← replay_isSome_iff_mem_plainKeys, isRowVisible_eq]
  change ((rowRun canonical actions).state.view txn key).isSome = true <-> _
  rw [tracks.view_eq sound ahead.floor_le]
  rfl

end Tree
end TransactionalCollection
