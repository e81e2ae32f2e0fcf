import TransactionalCollection.Table.Mutation
import TransactionalCollection.Table.Scan

namespace TransactionalCollection
namespace Table

open Layering Native Execution Persistence

/-!
# What a mutation records

A mutation which succeeds decides cells of the pending delta.  The upsert of a
row binds its key, and a deletion unbinds the key of the row it finds.  Seen as
an overlay, the delta afterwards is the delta before with these cells laid on
it, and a loop over rows lays one cell after another.
-/

variable {S : Signature} {schema : TableSchema S}

/-! ## Single rows -/

theorem upserted_answers (delta : Delta schema) (key : Key S) (values : List S.Value)
    (validKey : schema.ValidKey key) (validValues : schema.ValidValues values) (other : Key S) :
    (⟨(delta.inserts.erase key).put key values validKey validValues, delta.deletes.erase key⟩ :
        Delta schema).answers other =
      if key = other then some (some values) else delta.answers other := by
  simp only [Delta.answers, TableLock.put_rows, TableLock.erase_rows]
  by_cases here : key = other <;> simp [here]

theorem dropped_answers (delta : Delta schema) (key : Key S) (values : List S.Value)
    (validKey : schema.ValidKey key) (validValues : schema.ValidValues values) (other : Key S) :
    (⟨delta.inserts.erase key, delta.deletes.put key values validKey validValues⟩ :
        Delta schema).answers other =
      if key = other then some none else delta.answers other := by
  simp only [Delta.answers, TableLock.put_rows, TableLock.erase_rows]
  by_cases here : key = other <;> simp [here]

theorem Delta.upsert_lays {key : Key S} {values : List S.Value} {before after : Delta schema}
    (done : Delta.upsert key values before = .ok ⟨⟩ after) :
    overlay after = lay [.put key values] (overlay before) := by
  rcases Delta.upsert_cases key values before with ⟨validKey, validValues, outcome⟩ | ⟨error, failed⟩
  · cases outcome.symm.trans done
    funext other
    rw [lay_singleton]
    exact upserted_answers before key values validKey validValues other
  · cases failed.symm.trans done

theorem Delta.dropRow_lays {key : Key S} {values : List S.Value} {before after : Delta schema}
    (done : Delta.dropRow key values before = .ok ⟨⟩ after) :
    overlay after = lay [.remove key] (overlay before) := by
  rcases Delta.dropRow_cases key values before with ⟨validKey, validValues, outcome⟩ | ⟨error, failed⟩
  · cases outcome.symm.trans done
    funext other
    rw [lay_singleton]
    exact dropped_answers before key values validKey validValues other
  · cases failed.symm.trans done

/-- Taking an absent key out of the insertions changes no answer. -/
theorem erased_answers {delta : Delta schema} {key : Key S} (absent : delta.inserts.rows[key]? = none) :
    (⟨delta.inserts.erase key, delta.deletes⟩ : Delta schema).answers = delta.answers := by
  funext other
  simp only [Delta.answers, TableLock.erase_rows]
  by_cases here : key = other
  · subst here
    simp [absent]
  · simp [here]

/-- The state in which a mutation finds its pending delta, and what that delta
answers. -/
theorem fetched_cases (txn : TxnId) (state : TableState schema)
    (separate : forall delta, state.pending[txn]? = some delta -> delta.KeysApart) :
    (exists error, pendingDeltaForTxn txn state = .error error state) ∨
      exists pending middle, pendingDeltaForTxn txn state = .ok pending middle ∧
        state.assertWritable txn = .ok () ∧ pending.answers = state.ownOverlay txn ∧
        pending.KeysApart ∧ middle.pending[txn]? = some pending ∧
        middle.settledView txn = state.settledView txn := by
  rcases State.pendingDeltaForTxn_cases state txn Delta.create with
    ⟨error, _, refused⟩ | ⟨existing, writable, present, adopted⟩ | ⟨writable, absent, installed⟩
  · exact Or.inl ⟨error, refused⟩
  · refine Or.inr ⟨existing, state, adopted, writable, ?_, separate existing present, present, rfl⟩
    rw [State.ownOverlay, present]
    rfl
  · refine Or.inr ⟨Delta.create, _, installed, writable, ?_, Delta.create_keysApart,
      State.setPending_self _, rfl⟩
    rw [State.ownOverlay, absent, Delta.create_answers]
    rfl

theorem setPending_ownOverlay (state : TableState schema) (txn : TxnId) (delta : Delta schema) :
    (state.setPending txn delta).ownOverlay txn = delta.answers := by
  rw [State.ownOverlay, State.setPending_self]
  rfl

theorem upsertReserved_cases {key : Key S} {values : List S.Value} (validKey : schema.ValidKey key)
    (validValues : schema.ValidValues values) (txn : TxnId) (state : TableState schema)
    (separate : forall delta, state.pending[txn]? = some delta -> delta.KeysApart) :
    (exists error, upsertReserved txn key values state = .error error state) ∨
      state.assertWritable txn = .ok () ∧
        exists after, upsertReserved txn key values state = .ok ⟨⟩ after ∧
          forall other, after.ownOverlay txn other =
            if key = other then some (some values) else state.ownOverlay txn other := by
  rcases fetched_cases txn state separate with
    ⟨error, refused⟩ | ⟨pending, middle, fetched, writable, answers, _, _, _⟩
  · exact Or.inl ⟨error, bind_of_error refused⟩
  · refine Or.inr ⟨writable, _, (bind_of_ok fetched).trans (mapError_of_ok
      (State.writePending_of_ok (Delta.upsert_of_valid validKey validValues pending))), fun other => ?_⟩
    rw [setPending_ownOverlay, upserted_answers, answers]

/-- A transaction sees its pending delta over what has been decided. -/
theorem setPending_view (state : TableState schema) (txn : TxnId) (delta : Delta schema) :
    (state.setPending txn delta).view txn = delta.answers.read (state.settledView txn) := by
  rw [State.view_eq, setPending_ownOverlay]
  rfl

/-- What the fetched delta shows is what the transaction saw. -/
theorem fetched_view {txn : TxnId} {pending : Delta schema} {state middle : TableState schema}
    (fetched : pendingDeltaForTxn txn state = .ok pending middle) :
    pending.answers = state.ownOverlay txn ∧ middle.settledView txn = state.settledView txn ∧
      pending.answers.read (middle.settledView txn) = state.view txn := by
  have own := (State.pendingDeltaForTxn_ownOverlay Delta.create_answers fetched).1
  have settled : middle.settledView txn = state.settledView txn :=
    State.pendingDeltaForTxn_settledView fetched
  refine ⟨own, settled, ?_⟩
  rw [settled, State.view_eq, ← own]
  rfl

/-- The pending delta is fetched exactly by those who may write. -/
theorem fetch_cases (txn : TxnId) (state : TableState schema) :
    (state.assertWritable txn ≠ .ok () ∧
        exists error, pendingDeltaForTxn txn state = .error error state) ∨
      (state.assertWritable txn = .ok () ∧
        exists pending middle, pendingDeltaForTxn txn state = .ok pending middle) := by
  rcases State.pendingDeltaForTxn_cases state txn (Delta.create : Delta schema) with
    ⟨error, unwritable, refused⟩ | ⟨pending, writable, _, fetched⟩ | ⟨writable, _, fetched⟩
  · refine Or.inl ⟨?_, error, refused⟩
    intro writable
    cases unwritable.symm.trans writable
  · exact Or.inr ⟨writable, pending, state, fetched⟩
  · exact Or.inr ⟨writable, _, _, fetched⟩

/-- A transaction may write a range: it gets its reservation, and it is not
decided or outdated. -/
def MayWrite (owner : PersistentTable schema) (txn : TxnId) (range : SetRange (Key S)) : Prop :=
  (exists semaphore, owner.semaphore.tryWrite txn range = .ok semaphore) ∧
    owner.state.assertWritable txn = .ok ()

/-- A mutation which reserves a range, fetches its pending delta and works on
it: it is refused and leaves the state alone, or ends as the work does. -/
theorem reserved_pending_cases {E : Type} (translate : LockError -> E) (txn : TxnId)
    (range : SetRange (Key S)) (work : TableState schema -> EStateM E (Delta schema) PUnit)
    {body : EStateM E (TableState schema) PUnit}
    (shape : body = (mapError translate (pendingDeltaForTxn txn) >>= fun pending state =>
      State.writePending txn pending (work state) state))
    (owner : PersistentTable schema) :
    ((exists error semaphore, reserved translate txn range body owner =
          .error error ⟨owner.state, semaphore⟩) ∧
        ¬ MayWrite owner txn range) ∨
      exists semaphore pending middle, owner.semaphore.tryWrite txn range = .ok semaphore ∧
        owner.state.assertWritable txn = .ok () ∧
        pendingDeltaForTxn txn owner.state = .ok pending middle ∧
        ((exists after, work middle pending = .ok ⟨⟩ after ∧
            reserved translate txn range body owner =
              .ok ⟨⟩ ⟨middle.setPending txn after, semaphore⟩) ∨
          exists error after, work middle pending = .error error after ∧
            reserved translate txn range body owner =
              .error error ⟨middle.setPending txn after, semaphore⟩) := by
  subst shape
  cases granting : owner.semaphore.tryWrite txn range with
  | error error =>
      refine Or.inl ⟨⟨_, owner.semaphore, reserved_of_refused granting⟩, ?_⟩
      rintro ⟨⟨semaphore, granted⟩, _⟩
      cases granting.symm.trans granted
  | ok semaphore =>
      rcases fetch_cases txn owner.state with
        ⟨unwritable, error, refused⟩ | ⟨writable, pending, middle, fetched⟩
      · exact Or.inl ⟨⟨_, semaphore,
          reserved_of_error granting (bind_of_error (mapError_of_error refused))⟩,
          fun admitted => unwritable admitted.2⟩
      · refine Or.inr ⟨semaphore, pending, middle, rfl, writable, fetched, ?_⟩
        cases worked : work middle pending with
        | ok value after =>
            exact Or.inl ⟨after, rfl, reserved_of_ok granting
              ((bind_of_ok (mapError_of_ok fetched)).trans (State.writePending_of_ok worked))⟩
        | error error after =>
            exact Or.inr ⟨error, after, rfl, reserved_of_error granting
              ((bind_of_ok (mapError_of_ok fetched)).trans (focus_of_error worked))⟩

/-- A row which has been found is dropped. -/
theorem deleteFound_drops {key : Key S} {values : List S.Value} (validKey : schema.ValidKey key)
    (validValues : schema.ValidValues values) (pending : Delta schema) :
    exists after, mapError storageFailure (Delta.deleteFound key (some (key ++ values))) pending = .ok ⟨⟩ after ∧
      forall other, after.answers other = if key = other then some none else pending.answers other := by
  rw [Delta.deleteFound_some, (take_append_of_arity validKey.1 values).2]
  exact ⟨_, mapError_of_ok (Delta.dropRow_of_valid validKey validValues pending),
    dropped_answers pending key values validKey validValues⟩

/-- A deletion of a settled key records the removal, or finds nothing to remove. -/
theorem deleteVisible_cases {key : Key S} (validKey : schema.ValidKey key) (settled : Settled schema key) {txn : TxnId}
    {pending : Delta schema} {state : TableState schema} (apart : pending.KeysApart)
    (present : state.pending[txn]? = some pending) :
    exists after, Delta.deleteVisible txn key state pending = .ok ⟨⟩ after ∧
      ((forall other, after.answers other = if key = other then some none else pending.answers other) ∨
        after.answers = pending.answers ∧ pending.answers key = none ∧
          state.settledView txn key = none) := by
  have arity := validKey.1
  have deleted : pending.alreadyDeleted key = .ok pending.deletes.rows[key]?.isSome := by
    rw [Delta.alreadyDeleted, getRow_of_settled arity settled]
    simp [Except.map]
  unfold Delta.deleteVisible
  rw [deleted]
  cases gone : pending.deletes.rows[key]? with
  | some values =>
      refine ⟨pending, rfl, Or.inl (fun other => ?_)⟩
      split
      · rename_i same
        subst same
        have notInserted : pending.inserts.rows[key]? = none := by
          by_contra inserted
          rw [apart key inserted] at gone
          cases gone
        simp [Delta.answers, notInserted, gone]
      · rfl
  | none =>
      have inserted : pending.getInsertedRow key =
          .ok (pending.inserts.rows[key]?.map (fun values => key ++ values)) :=
        getRow_of_settled arity settled pending.inserts
      simp only [Option.isSome_none, rowToDelete, inserted]
      cases found : pending.inserts.rows[key]? with
      | some values =>
          rcases deleteFound_drops validKey (pending.inserts.valid key values found).2 pending with
            ⟨after, done, answers⟩
          exact ⟨after, done, Or.inl answers⟩
      | none =>
          have silent : pending.answers key = none := by simp [Delta.answers, found, gone]
          have below : (state.visibleSnapshot txn).view key = state.settledView txn key := by
            change state.view txn key = _
            rw [State.view_eq, State.ownOverlay, present]
            exact Overlay.read_of_silent silent
          simp only [Option.map_none, resolveRow_of_settled arity settled]
          cases viewed : (state.visibleSnapshot txn).view key with
          | some values =>
              rcases deleteFound_drops validKey (valid_of_view viewed).2 pending with ⟨after, done, answers⟩
              exact ⟨after, done, Or.inl answers⟩
          | none =>
              exact ⟨_, mapError_of_ok (Delta.deleteFound_none key pending),
                Or.inr ⟨erased_answers found, silent, below.symm.trans viewed⟩⟩

theorem deleteReserved_cases {key : Key S} (validKey : schema.ValidKey key) (settledKey : Settled schema key)
    (txn : TxnId)
    (state : TableState schema)
    (separate : forall delta, state.pending[txn]? = some delta -> delta.KeysApart) :
    (exists error, deleteReserved txn key state = .error error state) ∨
      state.assertWritable txn = .ok () ∧
        exists after, deleteReserved txn key state = .ok ⟨⟩ after ∧
          ((forall other, after.ownOverlay txn other =
              if key = other then some none else state.ownOverlay txn other) ∨
            after.ownOverlay txn = state.ownOverlay txn ∧ state.ownOverlay txn key = none ∧
              state.settledView txn key = none) := by
  rcases fetched_cases txn state separate with
    ⟨error, refused⟩ | ⟨pending, middle, fetched, writable, answers, apart, present, settled⟩
  · exact Or.inl ⟨_, bind_of_error (mapError_of_error refused)⟩
  · rcases deleteVisible_cases validKey settledKey apart present with ⟨after, done, recorded⟩
    have written : deletePending txn key pending middle = .ok ⟨⟩ (middle.setPending txn after) :=
      State.writePending_of_ok done
    refine Or.inr ⟨writable, _, (bind_of_ok (mapError_of_ok fetched)).trans written, ?_⟩
    rwa [setPending_ownOverlay, ← answers, ← settled]

/-- A validation which fails stops a mutation before its reservation. -/
theorem validated_cases {E A B : Type} (checked : Except B A) (translate : B -> E)
    (rest : A -> EStateM E (PersistentTable schema) PUnit) (owner : PersistentTable schema) :
    (exists error, (fromExcept (checked.mapError translate) >>= rest) owner = .error error owner) ∨
      exists value, checked = .ok value ∧
        (fromExcept (checked.mapError translate) >>= rest) owner = rest value owner := by
  cases checked with
  | error error => exact Or.inl ⟨translate error, bind_of_error rfl⟩
  | ok value => exact Or.inr ⟨value, rfl, bind_of_ok rfl⟩

/-! ## Calls on single rows -/

/-- A check passes its argument on or reports an error. -/
theorem checked_cases {A : Type} {valid : Prop} {checked : Except TCError A} {value : A}
    (passes : forall accepted, checked = .ok accepted <-> valid ∧ accepted = value) :
    (valid ∧ checked = .ok value) ∨ (¬ valid ∧ exists error, checked = .error error) := by
  cases outcome : checked with
  | ok accepted =>
      rcases (passes accepted).mp outcome with ⟨holds, rfl⟩
      exact Or.inl ⟨holds, rfl⟩
  | error error =>
      refine Or.inr ⟨?_, error, rfl⟩
      intro holds
      cases outcome.symm.trans ((passes value).mpr ⟨holds, rfl⟩)

theorem validateKey_cases (schema : TableSchema S) (key : Key S) :
    (schema.ValidKey key ∧ schema.validateKey key = .ok key) ∨
      (¬ schema.ValidKey key ∧ exists error, schema.validateKey key = .error error) :=
  checked_cases (fun _ => TableSchema.validateKey_eq_ok_iff)

theorem validateValues_cases (schema : TableSchema S) (values : List S.Value) :
    (schema.ValidValues values ∧ schema.validateValues values = .ok values) ∨
      (¬ schema.ValidValues values ∧ exists error, schema.validateValues values = .error error) :=
  checked_cases (fun _ => TableSchema.validateValues_eq_ok_iff)

/-- Both validations in front of a mutation. -/
theorem validated_row_cases {E : Type} (translate : TCError -> E) (key : Key S) (values : List S.Value)
    (rest : Key S -> List S.Value -> EStateM E (PersistentTable schema) PUnit)
    (owner : PersistentTable schema) :
    ((schema.ValidKey key ∧ schema.ValidValues values) ∧
        (do
          let key <- fromExcept ((schema.validateKey key).mapError translate)
          let values <- fromExcept ((schema.validateValues values).mapError translate)
          rest key values : EStateM E (PersistentTable schema) PUnit) owner = rest key values owner) ∨
      (¬ (schema.ValidKey key ∧ schema.ValidValues values) ∧
        exists error, (do
          let key <- fromExcept ((schema.validateKey key).mapError translate)
          let values <- fromExcept ((schema.validateValues values).mapError translate)
          rest key values : EStateM E (PersistentTable schema) PUnit) owner = .error error owner) := by
  rcases validateKey_cases schema key with ⟨validKey, keyDone⟩ | ⟨invalid, error, refused⟩
  · rcases validateValues_cases schema values with ⟨validValues, valuesDone⟩ | ⟨invalid, error, refused⟩
    · rw [keyDone, valuesDone]
      exact Or.inl ⟨⟨validKey, validValues⟩, rfl⟩
    · rw [keyDone, refused]
      exact Or.inr ⟨fun valid => invalid valid.2, _, rfl⟩
  · rw [refused]
    exact Or.inr ⟨fun valid => invalid valid.1, _, rfl⟩

/-- Fetching the pending delta and upserting a row into it writes one cell of
the view. -/
theorem fetch_upsert_cases {E : Type} (locked : LockError -> E) (stored : IoError -> E) {key : Key S}
    {values : List S.Value} (validKey : schema.ValidKey key) (validValues : schema.ValidValues values)
    (txn : TxnId) (state : TableState schema) :
    (state.assertWritable txn ≠ .ok () ∧
        exists error, (mapError locked (pendingDeltaForTxn txn) >>= fun pending =>
          mapError stored (State.writePending txn pending (Delta.upsert key values))) state =
            .error error state) ∨
      (state.assertWritable txn = .ok () ∧
        exists after, (mapError locked (pendingDeltaForTxn txn) >>= fun pending =>
          mapError stored (State.writePending txn pending (Delta.upsert key values))) state =
            .ok ⟨⟩ after ∧
          after.view txn = (CellWrite.put key values).apply (state.view txn)) := by
  rcases fetch_cases txn state with ⟨unwritable, error, refused⟩ | ⟨writable, pending, middle, fetched⟩
  · exact Or.inl ⟨unwritable, _, bind_of_error (mapError_of_error refused)⟩
  · have done := Delta.upsert_of_valid validKey validValues pending
    refine Or.inr ⟨writable, _, (bind_of_ok (mapError_of_ok fetched)).trans
      (mapError_of_ok (State.writePending_of_ok done)), ?_⟩
    have laid := Delta.upsert_lays done
    rw [setPending_view, show Delta.answers _ = _ from laid, lay_read]
    exact congrArg _ (fetched_view fetched).2.2

/-- An upsert is refused and leaves the state alone, or binds its key. -/
theorem upsertRow_cases (txn : TxnId) (key : Key S) (values : List S.Value)
    (owner : PersistentTable schema) :
    (¬ ((schema.ValidKey key ∧ schema.ValidValues values) ∧ MayWrite owner txn (.one key)) ∧
        exists error semaphore,
          upsertRow txn key values owner = .error error ⟨owner.state, semaphore⟩) ∨
      ((schema.ValidKey key ∧ schema.ValidValues values) ∧ MayWrite owner txn (.one key)) ∧
        exists after semaphore, upsertRow txn key values owner = .ok ⟨⟩ ⟨after, semaphore⟩ ∧
          after.view txn = (CellWrite.put key values).apply (owner.state.view txn) := by
  rcases validated_row_cases (fun error : TCError => backgroundError error.message) key values
    (fun key values => reserved id txn (.one key) (upsertReserved txn key values)) owner with
    ⟨valid, called⟩ | ⟨invalid, error, refused⟩
  · have outcome : upsertRow txn key values owner =
        reserved id txn (.one key) (upsertReserved txn key values) owner := called
    rw [outcome]
    cases granting : owner.semaphore.tryWrite txn (.one key) with
    | error error =>
        refine Or.inl ⟨?_, _, owner.semaphore, reserved_of_refused granting⟩
        rintro ⟨_, ⟨semaphore, granted⟩, _⟩
        cases granting.symm.trans granted
    | ok semaphore =>
        rcases fetch_upsert_cases id (fun error => backgroundError error.message) valid.1 valid.2 txn
          owner.state with ⟨unwritable, error, failed⟩ | ⟨writable, after, done, viewed⟩
        · rw [mapError_id] at failed
          exact Or.inl ⟨fun admitted => unwritable admitted.2.2, _, semaphore,
            reserved_of_error granting failed⟩
        · rw [mapError_id] at done
          exact Or.inr ⟨⟨valid, ⟨semaphore, granting⟩, writable⟩, after, semaphore,
            reserved_of_ok granting done, viewed⟩
  · exact Or.inl ⟨fun admitted => invalid admitted.1, error, owner.semaphore, refused⟩

/-- Under its permit, an insertion finds the key it looks for visible, finds the transaction decided, or binds its
key. -/
theorem insertReserved_cases {key : Key S} {values : List S.Value} (validKey : schema.ValidKey key)
    (validValues : schema.ValidValues values) (txn : TxnId) (state : TableState schema) :
    (state.view txn (readKey schema key) ≠ none ∧
        insertReserved txn key values state = .error (.error (.request (keyExists key))) state) ∨
      state.view txn (readKey schema key) = none ∧
        ((state.assertWritable txn ≠ .ok () ∧ exists error, insertReserved txn key values state = .error error state) ∨
          state.assertWritable txn = .ok () ∧ exists after, insertReserved txn key values state = .ok ⟨⟩ after ∧
            after.view txn = (CellWrite.put key values).apply (state.view txn)) := by
  have resolved := resolveRow_of_arity validKey.1 (state.visibleSnapshot txn)
  have viewed : (state.visibleSnapshot txn).view (readKey schema key) = state.view txn (readKey schema key) := rfl
  cases found : state.view txn (readKey schema key) with
  | some old =>
      refine Or.inl ⟨Option.some_ne_none old, ?_⟩
      rw [insertReserved, resolved, viewed, found]
      rfl
  | none =>
      have body : insertReserved txn key values state =
          (mapError (fun error => Failure.error (.lock error)) (pendingDeltaForTxn txn) >>=
            fun pending => mapError (fun error => Failure.error (.io error))
              (State.writePending txn pending (Delta.upsert key values))) state := by
        rw [insertReserved, resolved, viewed, found]
        rfl
      rw [body]
      exact Or.inr ⟨rfl, fetch_upsert_cases (fun error => Failure.error (OpError.lock error))
        (fun error => Failure.error (OpError.io error)) validKey validValues txn state⟩

/-- An insertion is refused and leaves the state alone, finds the key it looks for
visible, or binds its own. -/
theorem insertRow_cases (txn : TxnId) (key : Key S) (values : List S.Value)
    (owner : PersistentTable schema) :
    (¬ ((schema.ValidKey key ∧ schema.ValidValues values) ∧ MayWrite owner txn (.one key)) ∧
        exists error semaphore,
          insertRow txn key values owner = .error error ⟨owner.state, semaphore⟩) ∨
      ((schema.ValidKey key ∧ schema.ValidValues values) ∧ MayWrite owner txn (.one key)) ∧
        ((owner.state.view txn (readKey schema key) ≠ none ∧
            exists semaphore, insertRow txn key values owner =
              .error (.error (.request (keyExists key))) ⟨owner.state, semaphore⟩) ∨
          (owner.state.view txn (readKey schema key) = none ∧
            exists after semaphore, insertRow txn key values owner = .ok ⟨⟩ ⟨after, semaphore⟩ ∧
              after.view txn = (CellWrite.put key values).apply (owner.state.view txn))) := by
  rcases validated_row_cases (fun error : TCError => Failure.error (OpError.request error)) key values
    (fun key values => reserved (fun error => .error (.lock error)) txn (.one key)
      (insertReserved txn key values)) owner with
    ⟨valid, called⟩ | ⟨invalid, error, refused⟩
  · have outcome : insertRow txn key values owner =
        reserved (fun error => .error (.lock error)) txn (.one key)
          (insertReserved txn key values) owner := called
    rw [outcome]
    cases granting : owner.semaphore.tryWrite txn (.one key) with
    | error error =>
        refine Or.inl ⟨?_, _, owner.semaphore, reserved_of_refused granting⟩
        rintro ⟨_, ⟨semaphore, granted⟩, _⟩
        cases granting.symm.trans granted
    | ok semaphore =>
        rcases insertReserved_cases valid.1 valid.2 txn owner.state with
          ⟨visible, failed⟩ | ⟨absent, ⟨unwritable, error, failed⟩ | ⟨writable, after, done, written⟩⟩
        · by_cases writable : owner.state.assertWritable txn = .ok ()
          · exact Or.inr ⟨⟨valid, ⟨semaphore, granting⟩, writable⟩,
              Or.inl ⟨visible, semaphore, reserved_of_error granting failed⟩⟩
          · exact Or.inl ⟨fun admitted => writable admitted.2.2, _, semaphore, reserved_of_error granting failed⟩
        · exact Or.inl ⟨fun admitted => unwritable admitted.2.2, _, semaphore, reserved_of_error granting failed⟩
        · exact Or.inr ⟨⟨valid, ⟨semaphore, granting⟩, writable⟩,
            Or.inr ⟨absent, after, semaphore, reserved_of_ok granting done, written⟩⟩
  · exact Or.inl ⟨fun admitted => invalid admitted.1, error, owner.semaphore, refused⟩

/-- A fetched delta is the pending one, and keeps its halves apart. -/
theorem fetched_apart {txn : TxnId} {pending : Delta schema} {state middle : TableState schema}
    (separate : forall delta, state.pending[txn]? = some delta -> delta.KeysApart)
    (fetched : pendingDeltaForTxn txn state = .ok pending middle) :
    pending.KeysApart ∧ middle.pending[txn]? = some pending := by
  rcases fetched_cases txn state separate with
    ⟨error, refused⟩ | ⟨_, _, same, _, _, apart, present, _⟩
  · cases refused.symm.trans fetched
  · cases same.symm.trans fetched
    exact ⟨apart, present⟩

/-- A deletion of a settled key is refused and leaves the state alone, or unbinds the key. -/
theorem deleteRow_cases (txn : TxnId) {key : Key S} (settled : schema.ValidKey key -> Settled schema key)
    (owner : PersistentTable schema)
    (separate : forall delta, owner.state.pending[txn]? = some delta -> delta.KeysApart) :
    (¬ (schema.ValidKey key ∧ MayWrite owner txn (.one key)) ∧
        exists error semaphore, deleteRow txn key owner = .error error ⟨owner.state, semaphore⟩) ∨
      (schema.ValidKey key ∧ MayWrite owner txn (.one key)) ∧
        exists after semaphore, deleteRow txn key owner = .ok ⟨⟩ ⟨after, semaphore⟩ ∧
          after.view txn = (CellWrite.remove key).apply (owner.state.view txn) := by
  unfold deleteRow
  rcases validateKey_cases schema key with ⟨validKey, keyDone⟩ | ⟨invalid, error, refused⟩
  · rw [keyDone]
    rcases reserved_pending_cases Failure.error txn (.one key) (Delta.deleteVisible txn key)
      (rfl : deleteReserved txn key = _) owner with
      ⟨⟨error, semaphore, failed⟩, notAdmitted⟩ |
        ⟨semaphore, pending, middle, granted, writable, fetched, outcome⟩
    · exact Or.inl ⟨fun admitted => notAdmitted admitted.2, error, semaphore, failed⟩
    · rcases fetched_apart separate fetched with ⟨apart, present⟩
      rcases deleteVisible_cases validKey (settled validKey) apart present with ⟨delta, deleted, recorded⟩
      rw [deleted] at outcome
      rcases outcome with ⟨_, same, done⟩ | ⟨_, _, impossible, _⟩
      · cases same
        refine Or.inr ⟨⟨validKey, ⟨semaphore, granted⟩, writable⟩, _, semaphore, done, ?_⟩
        rw [setPending_view, ← (fetched_view fetched).2.2]
        funext other
        rcases recorded with written | ⟨same, silent, absent⟩
        · rw [Overlay.read, written other]
          change _ = if key = other then none else pending.answers.read _ other
          split <;> rfl
        · rw [same]
          change _ = if key = other then none else _
          split
          · rename_i here
            subst here
            rw [Overlay.read_of_silent silent, absent]
          · rfl
      · cases impossible
  · rw [refused]
    exact Or.inl ⟨fun admitted => invalid admitted.1, _, owner.semaphore, bind_of_error rfl⟩

end Table
end TransactionalCollection
