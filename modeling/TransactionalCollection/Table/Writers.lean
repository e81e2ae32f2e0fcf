import TransactionalCollection.Persistence.FirstWriters
import TransactionalCollection.Table.Serial

namespace TransactionalCollection
namespace Table

open Layering Native Execution Persistence

/-!
# Writers of a table in flight

A writer of a table validates its arguments before anything else, reserves,
fetches the pending delta and works on it.  An insertion which finds its row
visible, and a reservation which is refused, end a call before it fetches the
delta.
-/

variable {S : Signature}

inductive TableWrite (S : Signature) where
  | upsertRow (key : Key S) (values : List S.Value)
  | insertRow (key : Key S) (values : List S.Value)
  | deleteRow (key : Key S)
  | update (range : Range S) (values : List (S.Id × S.Value))
  | truncate (range : Range S)

namespace TableWrite

def accepts (schema : TableSchema S) : TableWrite S -> Bool
  | .upsertRow key values | .insertRow key values =>
      (schema.validateKey key).isOk && (schema.validateValues values).isOk
  | .deleteRow key => (schema.validateKey key).isOk
  | .update _ values => (notUpdatable schema values).isNone
  | .truncate _ => true

/-- Updates and truncations write no single cell. -/
def cell : TableWrite S -> Option (CellWrite (Key S) (List S.Value))
  | .upsertRow key values | .insertRow key values => some (.put key values)
  | .deleteRow key => some (.remove key)
  | .update _ _ | .truncate _ => none

variable {schema : TableSchema S}

def onDelta (ops : TableOps S) (txn : TxnId) (op : TableWrite S) (state : TableState schema) :
    EStateM (Failure OpError) (Delta schema) PUnit :=
  match op with
  | .upsertRow key values =>
      mapError (fun error => .error (.lock (backgroundError error.message))) (Delta.upsert key values)
  | .insertRow key values => mapError (fun error => .error (.io error)) (Delta.upsert key values)
  | .deleteRow key => mapError lockFailure (Delta.deleteVisible txn key state)
  | .update range values => mapError lockFailure (Delta.updateVisible ops txn range values state)
  | .truncate range => mapError lockFailure (Delta.truncateVisible ops txn range state)

end TableWrite

def tableWriters (ops : TableOps S) (schema : TableSchema S) :
    Writers (Delta schema) (TableLock schema) (Key S) (List S.Value) where
  Op := TableWrite S
  Error := Failure OpError
  accepts := TableWrite.accepts schema
  cell := TableWrite.cell
  created := Delta.create
  write txn op state := op.onDelta ops txn state

variable {schema : TableSchema S}

theorem isOk_iff {E A : Type} {result : Except E A} :
    result.isOk = true <-> exists value, result = .ok value := by
  cases result <;> simp [Except.toBool]

theorem upsert_contained {delta after : Delta schema} {key : Key S} {values : List S.Value}
    (accepted : ((schema.validateKey key).isOk && (schema.validateValues values).isOk) = true)
    (done : Delta.upsert key values delta = .ok ⟨⟩ after) : Contains after (.put key values) := by
  rw [Bool.and_eq_true, isOk_iff, isOk_iff] at accepted
  rcases accepted with ⟨⟨_, keyDone⟩, _, valuesDone⟩
  have validKey := (TableSchema.validateKey_eq_ok_iff.mp keyDone).1
  have validValues := (TableSchema.validateValues_eq_ok_iff.mp valuesDone).1
  cases (Delta.upsert_of_valid validKey validValues delta).symm.trans done
  exact (upserted_answers delta key values validKey validValues key).trans (if_pos rfl)

/-- A removal is to find a row. -/
def FindsRemoved (cell : CellWrite (Key S) (List S.Value)) (found : Option (List S.Value)) : Prop :=
  cell.outcome = none -> found ≠ none

/-- Where key columns have names of their own a table records what it writes, except a
removal which finds no row. -/
theorem tableWriters_records (distinct : schema.KeysDistinct) (ops : TableOps S) :
    (tableWriters ops schema).Records FindsRemoved where
  separate := Delta.create_keysApart
  reworks := by
    intro txn op cell state writes
    cases op with
    | upsertRow key values =>
        cases writes
        exact Moves.mapError (Delta.upsert_reworks key values) _
    | insertRow key values =>
        cases writes
        exact Moves.mapError (Delta.upsert_reworks key values) _
    | deleteRow key =>
        cases writes
        exact Moves.mapError (Delta.deleteVisible_reworks txn key state) _
    | update | truncate => cases writes
  records := by
    intro txn op cell state delta after accepted writes separate present done finds
    cases op with
    | upsertRow key values =>
        cases writes
        exact upsert_contained accepted (mapError_eq_ok.mp done)
    | insertRow key values =>
        cases writes
        exact upsert_contained accepted (mapError_eq_ok.mp done)
    | deleteRow key =>
        cases writes
        rcases isOk_iff.mp accepted with ⟨_, keyDone⟩
        have validKey := (TableSchema.validateKey_eq_ok_iff.mp keyDone).1
        rcases deleteVisible_cases validKey (settled_of_valid distinct validKey) separate present with
          ⟨_, deleted, recorded⟩
        cases deleted.symm.trans (mapError_eq_ok.mp done)
        rcases recorded with removed | ⟨_, silent, settled⟩
        · exact (removed key).trans (if_pos rfl)
        · refine absurd ?_ (finds rfl)
          change state.view txn key = none
          rw [State.view_eq, State.ownOverlay, present]
          exact (Overlay.read_of_silent silent).trans settled
    | update | truncate => cases writes

end Table
end TransactionalCollection
