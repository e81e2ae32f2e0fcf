import TransactionalCollection.Persistence.Deferral
import TransactionalCollection.Table.Lifecycle
import TransactionalCollection.Table.Recording

namespace TransactionalCollection
namespace Table

open Std (ExtTreeMap)
open Layering Native Execution Persistence

/-!
# The table simulates serial execution, up to deferred removals

An upsert always records its row.  A deletion records the row it finds, and if
it finds none it leaves no trace.  Where key columns have names of their own the table
therefore agrees with serial replay in transaction order as long as nobody binds a key
below such a deletion.
-/

variable {S : Signature}

/-- A mutation of one key. -/
inductive RowOp (S : Signature) where
  | upsertRow (key : Key S) (values : List S.Value)
  | deleteRow (key : Key S)

namespace RowOp

def key : RowOp S -> Key S
  | .upsertRow key _ => key
  | .deleteRow key => key

/-- The cell the mutation writes. -/
def cell : RowOp S -> CellWrite (Key S) (List S.Value)
  | .upsertRow key values => .put key values
  | .deleteRow key => .remove key

@[simp] theorem cell_key (op : RowOp S) : op.cell.key = op.key := by
  cases op <;> rfl

def call {schema : TableSchema S} (txn : TxnId) :
    RowOp S -> EStateM (Failure LockError) (PersistentTable schema) PUnit
  | .upsertRow key values => mapError Failure.error (Table.upsertRow txn key values)
  | .deleteRow key => Table.deleteRow txn key

/-- The mutation of a plain map of rows. -/
def onRows (op : RowOp S) (rows : ExtTreeMap (Key S) (List S.Value)) :
    ExtTreeMap (Key S) (List S.Value) :=
  match op with
  | .upsertRow key values => rows.insert key values
  | .deleteRow key => rows.erase key

end RowOp

/-- Replay a log over a plain map of rows. -/
def serialRows (canonical : ExtTreeMap (Key S) (List S.Value)) (log : List (RowOp S)) :
    ExtTreeMap (Key S) (List S.Value) :=
  log.foldl (fun rows op => op.onRows rows) canonical

/-- Upserts and deletions of single keys, among readers. -/
def rowDriver (schema : TableSchema S) : Driver (Delta schema) (TableLock schema) (Key S) where
  Op := RowOp S
  Error := Failure LockError
  mutate txn op := op.call txn
  range op := .one op.key
  admits := by
    intro txn op owner
    cases op with
    | upsertRow key values =>
        rw [RowOp.call, finalState_mapError]
        exact upsertRow_admits txn key values owner
    | deleteRow key => exact deleteRow_admits txn key owner
  Traffic := TxnId × SetRange (Key S)
  passes reader semaphore := semaphore.read reader.1 reader.2

variable {schema : TableSchema S}

/-! ## Under a reservation -/

/-- What a mutation has recorded of its one write once it has succeeded. -/
def Recorded (op : RowOp S) (txn : TxnId) (before after : TableState schema) : Prop :=
  (forall other, after.ownOverlay txn other =
      if op.cell.key = other then some op.cell.outcome else before.ownOverlay txn other) ∨
    op.cell.outcome = none ∧ after.ownOverlay txn = before.ownOverlay txn ∧
      before.ownOverlay txn op.cell.key = none ∧ before.settledView txn op.cell.key = none

/-- A mutation under its reservation stops early or records its write. -/
theorem reserved_row_cases {E : Type} (op : RowOp S) {txn : TxnId} {translate : LockError -> E}
    {body : EStateM E (TableState schema) PUnit} (owner : PersistentTable schema)
    (bodyCases : (exists error, body owner.state = .error error owner.state) ∨
      owner.state.assertWritable txn = .ok () ∧
        exists after, body owner.state = .ok ⟨⟩ after ∧ Recorded op txn owner.state after) :
    (exists error semaphore, reserved translate txn (.one op.key) body owner =
        .error error ⟨owner.state, semaphore⟩) ∨
      owner.state.assertWritable txn = .ok () ∧
        exists after semaphore, reserved translate txn (.one op.key) body owner =
            .ok ⟨⟩ ⟨after, semaphore⟩ ∧
          semaphore.HoldsWrite txn (.one op.key) ∧ Recorded op txn owner.state after := by
  rcases reserved_cases txn (.one op.key) translate body owner with
    ⟨error, refused⟩ | ⟨semaphore, granted, ⟨_, after, done, outcome⟩ | ⟨error, after, failed, outcome⟩⟩
  · exact Or.inl ⟨error, owner.semaphore, refused⟩
  · rcases bodyCases with ⟨error, failed⟩ | ⟨writable, _, finished, recorded⟩
    · rw [failed] at done
      cases done
    · rw [finished] at done
      cases done
      refine Or.inr ⟨writable, _, semaphore, outcome, ?_, recorded⟩
      rw [(Semaphore.tryWrite_eq_ok_iff.mp granted).2]
      exact (Semaphore.add_write_holdsWrite ..).mpr (Or.inl ⟨rfl, rfl⟩)
  · rcases bodyCases with ⟨_, stopped⟩ | ⟨_, _, finished, _⟩
    · rw [stopped] at failed
      cases failed
      exact Or.inl ⟨error, semaphore, outcome⟩
    · rw [finished] at failed
      cases failed

/-- Where key columns have names of their own a mutation leaves the state alone, or records its write. -/
theorem call_cases (distinct : schema.KeysDistinct) (op : RowOp S) (txn : TxnId) (owner : PersistentTable schema)
    (separate : forall delta, owner.state.pending[txn]? = some delta -> delta.KeysApart) :
    (exists error semaphore, op.call txn owner = .error error ⟨owner.state, semaphore⟩) ∨
      owner.state.assertWritable txn = .ok () ∧
        exists after semaphore, op.call txn owner = .ok ⟨⟩ ⟨after, semaphore⟩ ∧
          semaphore.HoldsWrite txn (.one op.key) ∧ Recorded op txn owner.state after := by
  cases op with
  | upsertRow key values =>
      have direct : (exists error semaphore, Table.upsertRow txn key values owner =
            .error error ⟨owner.state, semaphore⟩) ∨
          owner.state.assertWritable txn = .ok () ∧
            exists after semaphore, Table.upsertRow txn key values owner = .ok ⟨⟩ ⟨after, semaphore⟩ ∧
              semaphore.HoldsWrite txn (.one key) ∧
              Recorded (.upsertRow key values) txn owner.state after := by
        rcases validated_cases (schema.validateKey key) _ _ owner with
          ⟨error, refused⟩ | ⟨accepted, keyDone, afterKey⟩
        · exact Or.inl ⟨error, owner.semaphore, refused⟩
        · rcases TableSchema.validateKey_eq_ok_iff.mp keyDone with ⟨validKey, rfl⟩
          rcases validated_cases (schema.validateValues values) _ _ owner with
            ⟨error, refused⟩ | ⟨acceptedValues, valuesDone, afterValues⟩
          · exact Or.inl ⟨error, owner.semaphore, afterKey.trans refused⟩
          · rcases TableSchema.validateValues_eq_ok_iff.mp valuesDone with ⟨validValues, rfl⟩
            have outcome : Table.upsertRow txn accepted acceptedValues owner =
                reserved id txn (.one accepted) (upsertReserved txn accepted acceptedValues) owner :=
              afterKey.trans afterValues
            rw [outcome]
            refine reserved_row_cases (.upsertRow accepted acceptedValues) owner ?_
            rcases upsertReserved_cases validKey validValues txn owner.state separate with
              failed | ⟨writable, after, finished, written⟩
            · exact Or.inl failed
            · exact Or.inr ⟨writable, after, finished, Or.inl written⟩
      rcases direct with ⟨error, semaphore, failed⟩ | ⟨writable, after, semaphore, done, recorded⟩
      · exact Or.inl ⟨_, semaphore, mapError_of_error failed⟩
      · exact Or.inr ⟨writable, after, semaphore, mapError_of_ok done, recorded⟩
  | deleteRow key =>
      rcases validated_cases (schema.validateKey key) _ _ owner with
        ⟨error, refused⟩ | ⟨accepted, keyDone, afterKey⟩
      · exact Or.inl ⟨error, owner.semaphore, refused⟩
      · rcases TableSchema.validateKey_eq_ok_iff.mp keyDone with ⟨validKey, rfl⟩
        have outcome : (RowOp.deleteRow accepted).call txn owner =
            reserved Failure.error txn (.one accepted) (deleteReserved txn accepted) owner := afterKey
        rw [outcome]
        refine reserved_row_cases (.deleteRow accepted) owner ?_
        rcases deleteReserved_cases validKey (settled_of_valid distinct validKey) txn owner.state separate with
          failed | ⟨writable, after, finished, written | unwritten⟩
        · exact Or.inl failed
        · exact Or.inr ⟨writable, after, finished, Or.inl written⟩
        · exact Or.inr ⟨writable, after, finished, Or.inr ⟨rfl, unwritten⟩⟩

theorem rowDriver_faithful (distinct : schema.KeysDistinct) : Faithful (rowDriver schema) RowOp.cell True where
  success := by
    intro txn op before after separate done
    change op.call txn before = .ok ⟨⟩ after at done
    rcases call_cases distinct op txn before separate with
      ⟨_, _, failed⟩ | ⟨writable, _, _, finished, _, recorded⟩
    · rw [failed] at done
      cases done
    · rw [finished] at done
      cases done
      refine ⟨writable, ?_⟩
      rcases recorded with written | unwritten
      · exact Or.inl written
      · exact Or.inr ⟨trivial, unwritten⟩
  failure := by
    intro txn op error before after separate failed
    change op.call txn before = .error error after at failed
    rcases call_cases distinct op txn before separate with
      ⟨_, _, stopped⟩ | ⟨_, _, _, finished, _⟩
    · rw [stopped] at failed
      cases failed
      rfl
    · rw [finished] at failed
      cases failed

theorem rowDriver_reserves (distinct : schema.KeysDistinct) : Reserves (rowDriver schema) RowOp.cell where
  holds := by
    intro txn op before after separate done
    change op.call txn before = .ok ⟨⟩ after at done
    rcases call_cases distinct op txn before separate with
      ⟨_, _, failed⟩ | ⟨_, _, _, finished, holds, _⟩
    · rw [failed] at done
      cases done
    · rw [finished] at done
      cases done
      exact holds
  covers := fun op => op.cell_key.symm

theorem rowDriver_readsOnly : ReadsOnly (rowDriver schema) :=
  fun reader _ => ⟨reader.1, reader.2, rfl⟩

/-! ## Runs -/

/-- A plain map and a replayed view bind the same rows. -/
theorem replay_eq_serialRows (canonical : TableLock schema) (log : List (RowOp S)) (key : Key S) :
    Layering.replay (log.map RowOp.cell) (bindings canonical) key =
      (serialRows canonical.rows log)[key]? := by
  have same : forall (view : View (Key S) (List S.Value)) (rows : ExtTreeMap (Key S) (List S.Value)),
      (forall key, view key = rows[key]?) ->
      Layering.replay (log.map RowOp.cell) view key = (serialRows rows log)[key]? := by
    induction log with
    | nil => exact fun _ _ same => same key
    | cons op log inductionHypothesis =>
        intro view rows same
        refine inductionHypothesis (op.cell.apply view) (op.onRows rows) (fun other => ?_)
        cases op with
        | upsertRow written values =>
            rw [RowOp.onRows, ExtTreeMap.getElem?_insert, ← same other]
            simp only [Std.LawfulEqCmp.compare_eq_iff_eq]
            rfl
        | deleteRow written =>
            rw [RowOp.onRows, ExtTreeMap.getElem?_erase, ← same other]
            simp only [Std.LawfulEqCmp.compare_eq_iff_eq]
            rfl
  exact same (bindings canonical) canonical.rows (fun _ => rfl)

/-- The configuration a run from canonical storage leads to. -/
abbrev rowRun (canonical : TableLock schema) (actions : List (Action (rowDriver schema))) :
    Config (Delta schema) (TableLock schema) (Key S) :=
  run (rowDriver schema) (Config.start canonical) actions

/-- What the transactions of the run have done. -/
abbrev rowLedger (canonical : TableLock schema) (actions : List (Action (rowDriver schema))) :
    Ledger (RowOp S) :=
  chronicle (rowDriver schema) (Config.start canonical) Ledger.empty actions

/-- No commit of the run binds a key which a later transaction has removed, and
committed, without a trace in its delta. -/
def RevealsNoRow (canonical : TableLock schema) (actions : List (Action (rowDriver schema))) : Prop :=
  Meets (rowDriver schema) (RevealsNothing RowOp.cell) (Config.start canonical) Ledger.empty actions

/-- In such a run, on a table whose key columns have names of their own, a key resolves to
its row after serial replay in transaction order: committed transactions through the
reader's, then the reader's own mutations. -/
theorem resolveRow_eq_serialRows (distinct : schema.KeysDistinct) (canonical : TableLock schema)
    (actions : List (Action (rowDriver schema))) (reveals : RevealsNoRow canonical actions)
    (txn : TxnId) (key : Key S) (ahead : (rowRun canonical actions).Ahead txn) :
    resolveRow ((rowRun canonical actions).state.visibleSnapshot txn) key =
      if key.length = schema.key.length then
        .ok ((serialRows canonical.rows ((rowLedger canonical actions).history txn))[key]?.map
          (fun values => key ++ values))
      else .error ⟨"check persistent visibility"⟩ := by
  have sound : Sound (rowRun canonical actions) := run_sound (Sound.start canonical) actions
  have safe := meets_stepSafe rowDriver_readsOnly (rowDriver_reserves distinct) (Sound.start canonical)
    (Reserved.start canonical) (Backed.start canonical) actions reveals
  have tracks := run_tracks (rowDriver_faithful distinct) (Sound.start canonical)
    (Tracks.start (rowDriver schema) RowOp.cell True canonical) actions (fun _ => safe)
  split
  · rename_i arity
    rw [resolveRow_of_distinct distinct arity, ← replay_eq_serialRows]
    change Except.ok (((rowRun canonical actions).state.view txn key).map _) = _
    rw [tracks.view_eq sound ahead.floor_le]
    rfl
  · rename_i arity
    exact resolveRow_of_wrong_arity arity _

/-- A deletion of a row which an earlier transaction has committed. -/
def inOrder : List (Action (rowDriver pairSchema)) :=
  [.mutate 1 (.upsertRow [Signature.number 7] [Signature.number 1]), .commit 1,
    .mutate 2 (.deleteRow [Signature.number 7])]

theorem revealsNoRow_inOrder : RevealsNoRow TableLock.empty inOrder :=
  ⟨revealsNothing_of_uncommitted rfl _,
    revealsNothing_of_uncommitted (note_mutate_committed _ _ _) _,
    fun _ impossible => (nomatch impossible), trivial⟩

theorem resolveRow_eq_serialRows_inOrder :
    resolveRow ((rowRun TableLock.empty inOrder).state.visibleSnapshot 2) [Signature.number 7] =
      if [Signature.number 7].length = pairSchema.key.length then
        .ok ((serialRows (TableLock.empty : TableLock pairSchema).rows
          ((rowLedger TableLock.empty inOrder).history 2))[[Signature.number 7]]?.map
            (fun values => [Signature.number 7] ++ values))
      else .error ⟨"check persistent visibility"⟩ :=
  resolveRow_eq_serialRows (by decide) _ _ revealsNoRow_inOrder _ _ (by decide)

/-- The same with the deletion, which finds nothing then, committed first. -/
def lateInsert : List (Action (rowDriver pairSchema)) :=
  [.mutate 2 (.deleteRow [Signature.number 7]), .commit 2,
    .mutate 1 (.upsertRow [Signature.number 7] [Signature.number 1]), .commit 1]

/-- The later transaction has deleted the key, and its readers see the row. -/
theorem resolveRow_ne_serialRows_lateInsert :
    (rowRun TableLock.empty lateInsert).Ahead 2 ∧
      resolveRow ((rowRun TableLock.empty lateInsert).state.visibleSnapshot 2)
          [Signature.number 7] ≠
        .ok ((serialRows (TableLock.empty : TableLock pairSchema).rows
          ((rowLedger TableLock.empty lateInsert).history 2))[[Signature.number 7]]?.map
            (fun values => [Signature.number 7] ++ values)) := by
  decide +kernel

end Table
end TransactionalCollection
