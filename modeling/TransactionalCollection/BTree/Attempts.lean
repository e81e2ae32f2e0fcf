import TransactionalCollection.BTree.Serial
import TransactionalCollection.Persistence.Crashes

namespace TransactionalCollection
namespace Tree

open Std (ExtTreeSet)
open Layering Native Execution Persistence

/-!
# A tree whose finalizations fail

The mutations of a tree know nothing of canonical storage, so that what failed
finalizations leave there never gets into a delta.  Nor does it matter to a tree which
is loaded again whether a process has ended in the middle of them: it holds each key
as the transactions have which were committed before some instant.
-/

variable {S : Signature} {schema : BTreeSchema S}

/-- What a run with failures leads to. -/
abbrev keyTrial (canonical : BTreeLock schema) (attempts : List (Attempt (keyDriver schema))) :
    Trial (Delta schema) (BTreeLock schema) (Key S) :=
  (Trial.start canonical).attempts (keyDriver schema) attempts

/-- What its transactions have done. -/
abbrev keyTrialLedger (canonical : BTreeLock schema) (attempts : List (Attempt (keyDriver schema))) :
    Ledger (KeyOp schema) :=
  (Trial.start canonical).chronicle (keyDriver schema) Ledger.empty attempts

/-- Past failed finalizations a tree answers as serial replay does; and once they have
healed, canonical storage holds the keys of what has been finalized. -/
structure Recovers (canonical : BTreeLock schema) (attempts : List (Attempt (keyDriver schema))) : Prop where
  reads : forall txn key, (keyTrial canonical attempts).config.Ahead txn ->
    (keyTrial canonical attempts).horizon <= txn ->
    ((containsRow txn key (keyTrial canonical attempts).config.owner).1 = true <->
      key ∈ serialKeys canonical.keys ((keyTrialLedger canonical attempts).history txn))
  storage : (keyTrial canonical attempts).config.finalizing = none ->
    (keyTrial canonical attempts).horizon <= (keyTrial canonical attempts).config.floor -> forall key,
    (containsKey (keyTrial canonical attempts).config.state.persistent key = true <->
      key ∈ serialKeys canonical.keys
        ((keyTrialLedger canonical attempts).logBefore (keyTrial canonical attempts).config.floor))

theorem bindings_isSome (native : BTreeLock schema) (key : Key S) :
    (bindings native key).isSome = containsKey native key := by
  simp only [bindings]
  cases containsKey native key <;> rfl

/-- Wherever finalizations of a tree fail, it recovers. -/
theorem attempts_recover (canonical : BTreeLock schema) (attempts : List (Attempt (keyDriver schema))) :
    Recovers canonical attempts := by
  rcases Trial.attempts_serial keyDriver_faithful canonical attempts rfl rfl with ⟨views, storage⟩
  constructor
  · intro txn key ahead past
    rw [← replay_isSome_iff]
    change isRowVisible ((keyTrial canonical attempts).config.state.visibleSnapshot txn) key = true <-> _
    rw [isRowVisible_eq]
    change ((keyTrial canonical attempts).config.state.view txn key).isSome = true <-> _
    rw [views txn ahead past]
    rfl
  · intro free passed key
    rw [← replay_isSome_iff, ← bindings_isSome, storage free passed]
    rfl

theorem valid_number (number : Nat) : unarySchema.ValidKey [Signature.number number] := ⟨rfl, nofun⟩

def insertNumber (txn : TxnId) (number : Nat) : Attempt (keyDriver unarySchema) :=
  .act (.mutate txn (.insertRow [Signature.number number] (valid_number number)))

/-- A transaction and an earlier one which stays open; the finalization of the first
fails after its write, and that of the second succeeds. -/
def failedAndRepeated : List (Attempt (keyDriver unarySchema)) :=
  [insertNumber 2 8, .act (.commit 2), .act (.finalizeBegin 2), .act .finalizeWrite, .fail, insertNumber 1 7,
    .act (.commit 1), .act (.finalizeBegin 1), .act .finalizeWrite, .act .finalizeEnd]

theorem attempts_recover_failedAndRepeated :
    (containsRow 3 [Signature.number 7] (keyTrial BTreeLock.empty failedAndRepeated).config.owner).1 = true <->
      [Signature.number 7] ∈ serialKeys (BTreeLock.empty : BTreeLock unarySchema).keys
        ((keyTrialLedger BTreeLock.empty failedAndRepeated).history 3) :=
  (attempts_recover BTreeLock.empty failedAndRepeated).reads 3 _ (by decide) (by decide)

/-! ## Trees which are loaded again -/

/-- A native write stores what the delta answers. -/
theorem Delta.answers_stored {delta : Delta schema} (apart : delta.KeysApart) {write : Delta.NativeWrite schema}
    (written : write ∈ delta.nativeWrites) : delta.answers write.cell.key = some write.cell.outcome := by
  have cell : write.cell ∈ delta.nativeWrites.map Delta.NativeWrite.cell := List.mem_map_of_mem written
  rw [Delta.cells_nativeWrites, List.mem_append, List.mem_map, List.mem_map] at cell
  rcases cell with ⟨key, member, same⟩ | ⟨key, member, same⟩
  · have inserted : containsKey delta.inserts key = true := Delta.mem_all.mp member
    rw [← same, CellWrite.key, CellWrite.outcome, Delta.answers, if_pos inserted]
  · have deleted : containsKey delta.deletes key = true := Delta.mem_all.mp member
    have kept : ¬ containsKey delta.inserts key = true := fun inserted => apart key inserted deleted
    rw [← same, CellWrite.key, CellWrite.outcome, Delta.answers, if_neg kept, if_pos deleted]

theorem Delta.covers_stored : Covers (Delta schema) Stored :=
  Persistence.covers_stored NativeWrite.cell NativeWrite.bindings_perform (fun _ _ apart => answers_stored apart)

/-- A tree over what earlier processes have left. -/
abbrev loadedTrial (canonical : BTreeLock schema) (processes : List (List (Attempt (keyDriver schema))))
    (attempts : List (Attempt (keyDriver schema))) : Trial (Delta schema) (BTreeLock schema) (Key S) :=
  keyTrial (left (keyDriver schema) canonical processes) attempts

/-- What the transactions of its own process have done. -/
abbrev loadedLedger (canonical : BTreeLock schema) (processes : List (List (Attempt (keyDriver schema))))
    (attempts : List (Attempt (keyDriver schema))) : Ledger (KeyOp schema) :=
  keyTrialLedger (left (keyDriver schema) canonical processes) attempts

/-- A key of a replay over a replay. -/
theorem mem_serialKeys_append {canonical below : BTreeLock schema} {first second : List (KeyOp schema)} {key : Key S}
    (same : bindings below key = Layering.replay (first.map KeyOp.cell) (bindings canonical) key) :
    key ∈ serialKeys below.keys second <-> key ∈ serialKeys canonical.keys (first ++ second) := by
  rw [← replay_isSome_iff, ← replay_isSome_iff, List.map_append, Layering.replay_append, replay_congr_key same]

/-- Wherever processes have ended, a tree answers as serial replay does: of mutations
which outlive them, and then of the history of the reader. -/
theorem loaded_answers (canonical : BTreeLock schema) (processes : List (List (Attempt (keyDriver schema))))
    (attempts : List (Attempt (keyDriver schema))) (txn : TxnId) (key : Key S)
    (ahead : (loadedTrial canonical processes attempts).config.Ahead txn)
    (past : (loadedTrial canonical processes attempts).horizon <= txn) :
    exists log : List (KeyOp schema), Outlives (keyDriver schema) canonical processes log ∧
      ((containsRow txn key (loadedTrial canonical processes attempts).config.owner).1 = true <->
        key ∈ serialKeys canonical.keys (log ++ (loadedLedger canonical processes attempts).history txn)) := by
  rcases left_replay keyDriver_faithful Delta.covers_stored canonical processes key with ⟨log, outlives, stored⟩
  refine ⟨log, outlives, ?_⟩
  rw [← mem_serialKeys_append stored]
  exact (attempts_recover _ attempts).reads txn key ahead past

/-- A process which ends in the middle of a finalization, and one which loads the tree. -/
theorem loaded_answers_failedAndRepeated : exists log : List (KeyOp unarySchema),
    Outlives (keyDriver unarySchema) BTreeLock.empty [failedAndRepeated.take 5] log ∧
      ((containsRow 1 [Signature.number 8] (loadedTrial BTreeLock.empty [failedAndRepeated.take 5] []).config.owner).1 =
          true <->
        [Signature.number 8] ∈ serialKeys (BTreeLock.empty : BTreeLock unarySchema).keys
          (log ++ (loadedLedger BTreeLock.empty [failedAndRepeated.take 5] []).history 1)) :=
  loaded_answers BTreeLock.empty [failedAndRepeated.take 5] [] 1 _ (by decide) (by decide)

end Tree
end TransactionalCollection
