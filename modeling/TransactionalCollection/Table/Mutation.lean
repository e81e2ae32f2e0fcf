import TransactionalCollection.Table.Visibility

namespace TransactionalCollection
namespace Table

open Std (ExtTreeMap)
open Layering Native Execution Persistence

/-!
# The reach of the table's mutations

Every mutation of a row first takes the key out of one half of the delta, or
out of both, and puts it into the other half afterwards.  This is what keeps
the halves apart, also when the second step is refused.
-/

variable {S : Signature} {schema : TableSchema S}

namespace Delta

theorem create_answers : (create : Delta schema).answers = Overlay.transparent := by
  funext key
  simp only [answers, create, TableLock.empty, ExtTreeMap.getElem?_empty]
  rfl

theorem create_keysApart : (create : Delta schema).KeysApart :=
  fun _ present => absurd ExtTreeMap.getElem?_empty present

/-- Work confined to one key keeps the halves apart if it does so there. -/
theorem reworks_of_key {before after : Delta schema} {key : Key S}
    (elsewhere : forall other, key ≠ other ->
      after.inserts.rows[other]? = before.inserts.rows[other]? ∧
        after.deletes.rows[other]? = before.deletes.rows[other]?)
    (here : before.KeysApart -> after.inserts.rows[key]? ≠ none -> after.deletes.rows[key]? = none) :
    Delta.Reworks (.one key) before after where
  separate := by
    intro apart other present
    by_cases same : key = other
    · subst same
      exact here apart present
    · rw [(elsewhere other same).1] at present
      exact (elsewhere other same).2.trans (apart other present)
  outside := by
    intro other different
    change after.answers other = before.answers other
    rw [answers, answers, (elsewhere other different).1, (elsewhere other different).2]

theorem upsert_of_valid {key : Key S} {values : List S.Value} (validKey : schema.ValidKey key)
    (validValues : schema.ValidValues values) (delta : Delta schema) :
    upsert key values delta =
      .ok ⟨⟩ ⟨(delta.inserts.erase key).put key values validKey validValues,
        delta.deletes.erase key⟩ :=
  (bind_of_ok rfl).trans ((bind_of_ok rfl).trans
    (focus_of_ok (Table.upsert_of_valid validKey validValues _)))

/-- An upsert leaves the key in the insertions, or nowhere. -/
theorem upsert_cases (key : Key S) (values : List S.Value) (delta : Delta schema) :
    (exists validKey validValues, upsert key values delta =
        .ok ⟨⟩ ⟨(delta.inserts.erase key).put key values validKey validValues,
          delta.deletes.erase key⟩) ∨
      exists error, upsert key values delta =
        .error error ⟨delta.inserts.erase key, delta.deletes.erase key⟩ := by
  change (exists _ _, EStateM.bind (onDeletes (eraseRow key)) (fun _ =>
      EStateM.bind (onInserts (eraseRow key)) (fun _ => onInserts (Table.upsert key values))) delta = _) ∨
    exists error, EStateM.bind (onDeletes (eraseRow key)) (fun _ =>
      EStateM.bind (onInserts (eraseRow key)) (fun _ => onInserts (Table.upsert key values))) delta = _
  simp only [EStateM.bind, onDeletes, onInserts, focus, eraseRow]
  rcases Table.upsert_cases key values (delta.inserts.erase key) with
    ⟨validKey, validValues, done⟩ | ⟨error, refused⟩
  · exact Or.inl ⟨validKey, validValues, by rw [done]⟩
  · exact Or.inr ⟨error, by rw [refused]⟩

theorem upsert_reworks (key : Key S) (values : List S.Value) :
    Moves (Delta.Reworks (.one key))
      (upsert key values : EStateM IoError (Delta schema) PUnit) := by
  intro delta
  rcases upsert_cases key values delta with ⟨validKey, validValues, done⟩ | ⟨error, refused⟩
  · rw [done, finalState_ok]
    refine reworks_of_key (fun other different => ?_) (fun _ _ => ?_)
    · simp [TableLock.put_rows, TableLock.erase_rows, different]
    · simp [TableLock.erase_rows]
  · rw [refused, finalState_error]
    refine reworks_of_key (fun other different => ?_) (fun _ _ => ?_)
    · simp [TableLock.erase_rows, different]
    · simp [TableLock.erase_rows]

/-- Take a key out of the insertions and record it as deleted. -/
def dropRow (key : Key S) (values : List S.Value) : EStateM IoError (Delta schema) PUnit := do
  deleteFromInserts key
  addToDeletes key values

theorem dropRow_of_valid {key : Key S} {values : List S.Value} (validKey : schema.ValidKey key)
    (validValues : schema.ValidValues values) (delta : Delta schema) :
    dropRow key values delta =
      .ok ⟨⟩ ⟨delta.inserts.erase key, delta.deletes.put key values validKey validValues⟩ := by
  refine (bind_of_ok rfl).trans ?_
  change onDeletes (Table.upsert key values) _ = _
  exact focus_of_ok (Table.upsert_of_valid validKey validValues delta.deletes)

theorem dropRow_cases (key : Key S) (values : List S.Value) (delta : Delta schema) :
    (exists validKey validValues, dropRow key values delta =
        .ok ⟨⟩ ⟨delta.inserts.erase key, delta.deletes.put key values validKey validValues⟩) ∨
      exists error, dropRow key values delta =
        .error error ⟨delta.inserts.erase key, delta.deletes⟩ := by
  change (exists _ _, EStateM.bind (onInserts (eraseRow key)) (fun _ =>
      onDeletes (Table.upsert key values)) delta = _) ∨
    exists error, EStateM.bind (onInserts (eraseRow key)) (fun _ =>
      onDeletes (Table.upsert key values)) delta = _
  simp only [EStateM.bind, onDeletes, onInserts, focus, eraseRow]
  rcases Table.upsert_cases key values delta.deletes with
    ⟨validKey, validValues, done⟩ | ⟨error, refused⟩
  · exact Or.inl ⟨validKey, validValues, by rw [done]⟩
  · exact Or.inr ⟨error, by rw [refused]⟩

/-- A delta from which one key has been taken out of the insertions. -/
theorem erase_reworks (key : Key S) (delta : Delta schema) :
    Delta.Reworks (.one key) delta ⟨delta.inserts.erase key, delta.deletes⟩ := by
  refine reworks_of_key (fun other different => ?_) (fun _ present => ?_)
  · simp [TableLock.erase_rows, different]
  · exact absurd (by simp [TableLock.erase_rows]) present

theorem dropRow_reworks (key : Key S) (values : List S.Value) :
    Moves (Delta.Reworks (.one key))
      (dropRow key values : EStateM IoError (Delta schema) PUnit) := by
  intro delta
  rcases dropRow_cases key values delta with ⟨validKey, validValues, done⟩ | ⟨error, refused⟩
  · rw [done, finalState_ok]
    refine reworks_of_key (fun other different => ?_) (fun _ present => ?_)
    · simp [TableLock.put_rows, TableLock.erase_rows, different]
    · exact absurd (by simp [TableLock.erase_rows]) present
  · rw [refused, finalState_error]
    exact erase_reworks key delta

theorem deleteFound_some (key : Key S) (row : Row S) :
    (deleteFound key (some row) : EStateM IoError (Delta schema) PUnit) =
      dropRow key (row.drop schema.key.length) := rfl

theorem deleteFound_none (key : Key S) (delta : Delta schema) :
    deleteFound key none delta = .ok ⟨⟩ ⟨delta.inserts.erase key, delta.deletes⟩ := rfl

theorem deleteFound_reworks (key : Key S) (row : Option (Row S)) :
    Moves (Delta.Reworks (.one key))
      (deleteFound key row : EStateM IoError (Delta schema) PUnit) := by
  cases row with
  | some row => exact dropRow_reworks key _
  | none => exact erase_reworks key

theorem deleteVisible_reworks (txn : TxnId) (key : Key S) (state : TableState schema) :
    Moves (Delta.Reworks (.one key)) (deleteVisible txn key state) := by
  intro delta
  unfold deleteVisible
  split
  · exact Delta.Reworks.refl delta
  · exact Delta.Reworks.refl delta
  · split
    · exact Delta.Reworks.refl delta
    · rw [finalState_mapError]
      exact deleteFound_reworks key _ delta

theorem updateAll_reworks (values : List (S.Id × S.Value)) (rows : List (Row S)) :
    Moves (Delta.Reworks SetRange.all)
      (forM rows (updateOne values) : EStateM IoError (Delta schema) PUnit) :=
  Moves.forM Delta.Reworks.refl Delta.Reworks.trans
    (fun _ _ delta => (upsert_reworks _ _ delta).widen)

theorem truncateAll_reworks (rows : List (Row S)) :
    Moves (Delta.Reworks SetRange.all)
      (forM rows truncateOne : EStateM IoError (Delta schema) PUnit) :=
  Moves.forM Delta.Reworks.refl Delta.Reworks.trans
    (fun _ _ delta => (dropRow_reworks _ _ delta).widen)

theorem updateVisible_reworks (ops : TableOps S) (txn : TxnId) (range : Range S)
    (values : List (S.Id × S.Value)) (state : TableState schema) :
    Moves (Delta.Reworks SetRange.all) (updateVisible ops txn range values state) := by
  intro delta
  unfold updateVisible
  split
  · exact Delta.Reworks.refl delta
  · rw [finalState_mapError]
    exact updateAll_reworks values _ delta

theorem truncateVisible_reworks (ops : TableOps S) (txn : TxnId) (range : Range S)
    (state : TableState schema) :
    Moves (Delta.Reworks SetRange.all) (truncateVisible ops txn range state) := by
  intro delta
  unfold truncateVisible
  dsimp only
  split
  · exact Delta.Reworks.refl delta
  · split
    · exact Delta.Reworks.refl delta
    · rw [finalState_mapError]
      exact truncateAll_reworks _ delta

theorem copyRows_reworks (rows : List (Row S)) :
    Moves (Delta.Reworks SetRange.all)
      (copyRows rows : EStateM IoError (Delta schema) PUnit) :=
  Moves.forM Delta.Reworks.refl Delta.Reworks.trans
    (fun _ _ delta => (upsert_reworks _ _ delta).widen)

end Delta

/-! ## On the state -/

theorem upsertReserved_mutates (txn : TxnId) (key : Key S) (values : List S.Value) :
    Moves (Mutates txn (.one key))
      (upsertReserved txn key values : EStateM LockError (TableState schema) PUnit) := by
  rw [upsertReserved, ← mapError_id (pendingDeltaForTxn txn)]
  refine Mutates.withPending Delta.create_answers Delta.create_keysApart id ?_
  intro delta state present writable
  rw [finalState_mapError]
  exact Mutates.writePending writable present (Delta.upsert_reworks key values)

theorem insertReserved_mutates (txn : TxnId) (key : Key S) (values : List S.Value) :
    Moves (Mutates txn (.one key))
      (insertReserved txn key values : EStateM (Failure OpError) (TableState schema) PUnit) := by
  intro state
  unfold insertReserved
  split
  · exact Mutates.refl state
  · exact Mutates.refl state
  · refine Mutates.withPending Delta.create_answers Delta.create_keysApart _ ?_ state
    intro delta state present writable
    rw [finalState_mapError]
    exact Mutates.writePending writable present (Delta.upsert_reworks key values)

theorem deleteReserved_mutates (txn : TxnId) (key : Key S) :
    Moves (Mutates txn (.one key))
      (deleteReserved txn key : EStateM (Failure LockError) (TableState schema) PUnit) := by
  refine Mutates.withPending Delta.create_answers Delta.create_keysApart _ ?_
  intro delta state present writable
  exact Mutates.writePending writable present (Delta.deleteVisible_reworks txn key state)

theorem updateReserved_mutates (ops : TableOps S) (txn : TxnId) (range : Range S)
    (values : List (S.Id × S.Value)) :
    Moves (Mutates txn SetRange.all) (updateReserved ops txn range values :
      EStateM (Failure LockError) (TableState schema) PUnit) := by
  refine Mutates.withPending Delta.create_answers Delta.create_keysApart _ ?_
  intro delta state present writable
  exact Mutates.writePending writable present (Delta.updateVisible_reworks ops txn range values state)

theorem truncateReserved_mutates (ops : TableOps S) (txn : TxnId) (range : Range S) :
    Moves (Mutates txn SetRange.all) (truncateReserved ops txn range :
      EStateM (Failure LockError) (TableState schema) PUnit) := by
  refine Mutates.withPending Delta.create_answers Delta.create_keysApart _ ?_
  intro delta state present writable
  exact Mutates.writePending writable present (Delta.truncateVisible_reworks ops txn range state)

/-- A restoration starts from empty insertions and upserts from there. -/
theorem copyRows_keysApart {committed : List (Delta schema)} {canonical : TableLock schema}
    {seeded delta : Delta schema} {rows : List (Row S)}
    (seeds : Delta.seed committed (Delta.forRestore canonical) = .ok ⟨⟩ seeded)
    (copied : Delta.copyRows rows seeded = .ok ⟨⟩ delta) : delta.KeysApart := by
  rw [Delta.seed, Delta.onDeletes, focus_eq_ok] at seeds
  rcases seeds with ⟨deletes, _, rfl⟩
  have reworked := (Delta.copyRows_reworks rows).ok_related copied
  exact reworked.separate (fun _ present => absurd ExtTreeMap.getElem?_empty present)

/-- A restoration fails without a trace, or stages the delta it has built from
the rows of the source. -/
theorem restoreReserved_cases (txn : TxnId) (sourceSchema : TableSchema S)
    (source : Except (Failure LockError) (List (Row S))) (state : TableState schema) :
    (exists failure, restoreReserved txn sourceSchema source state = .error failure state) ∨
      (state.assertWritable txn = .ok () ∧ schema.castFrom = sourceSchema.castFrom ∧
        exists rows seeded delta, source = .ok rows ∧
          Delta.seed (state.committedThrough txn) (Delta.forRestore state.persistent) = .ok ⟨⟩ seeded ∧
          Delta.copyRows rows seeded = .ok ⟨⟩ delta ∧
          restoreReserved txn sourceSchema source state = .ok ⟨⟩ (state.setPending txn delta)) := by
  unfold restoreReserved
  cases writable : state.assertWritable txn with
  | error error => exact Or.inl ⟨_, rfl⟩
  | ok =>
      dsimp only
      split
      · exact Or.inl ⟨_, rfl⟩
      · rename_i sameSchema
        cases seeding : Delta.seed (state.committedThrough txn) (Delta.forRestore state.persistent) with
        | error error workspace => exact Or.inl ⟨_, rfl⟩
        | ok value seeded =>
            rcases source with (error | panic) | rows
            · exact Or.inl ⟨_, rfl⟩
            · exact Or.inl ⟨_, rfl⟩
            · dsimp only
              cases copying : Delta.copyRows rows seeded with
              | error error workspace => exact Or.inl ⟨_, rfl⟩
              | ok value delta =>
                  exact Or.inr ⟨rfl, not_not.mp sameSchema, rows, seeded, delta, rfl, rfl, copying, rfl⟩

theorem restoreReserved_mutates (txn : TxnId) (sourceSchema : TableSchema S)
    (source : Except (Failure LockError) (List (Row S))) :
    Moves (Mutates txn SetRange.all) (restoreReserved txn sourceSchema source :
      EStateM (Failure OpError) (TableState schema) PUnit) := by
  intro state
  rcases restoreReserved_cases txn sourceSchema source state with
    ⟨failure, failed⟩ | ⟨writable, _, rows, seeded, delta, _, seeds, copied, staged⟩
  · rw [failed]
    exact Mutates.refl state
  · rw [staged]
    exact Mutates.setPending writable (fun _ => copyRows_keysApart seeds copied)
      (fun _ elsewhere => False.elim (elsewhere trivial))

/-! ## On the owner -/

/-- A validation in front of a mutation only adds a way to fail early. -/
theorem admits_of_validated {E A : Type} {txn : TxnId} {range : SetRange (Key S)}
    {checked : Except E A} {rest : A -> EStateM E (PersistentTable schema) PUnit}
    {owner : PersistentTable schema}
    (admits : forall value, checked = .ok value ->
      Admits txn range owner (finalState (rest value owner))) :
    Admits txn range owner (finalState ((fromExcept checked >>= rest) owner)) := by
  change Admits txn range owner (finalState (EStateM.bind (fromExcept checked) rest owner))
  unfold EStateM.bind fromExcept
  cases checked with
  | error error => exact Or.inl rfl
  | ok value => exact admits value rfl

theorem upsertRow_admits (txn : TxnId) (key : Key S) (values : List S.Value)
    (owner : PersistentTable schema) :
    Admits txn (.one key) owner (finalState (upsertRow txn key values owner)) := by
  refine admits_of_validated (fun accepted done => ?_)
  rcases TableSchema.validateKey_eq_ok_iff.mp (except_mapError_eq_ok.mp done) with ⟨_, rfl⟩
  refine admits_of_validated (fun acceptedValues _ => ?_)
  exact admits_of_reserved id (upsertReserved_mutates txn _ _) owner

theorem insertRow_admits (txn : TxnId) (key : Key S) (values : List S.Value)
    (owner : PersistentTable schema) :
    Admits txn (.one key) owner (finalState (insertRow txn key values owner)) := by
  refine admits_of_validated (fun accepted done => ?_)
  rcases TableSchema.validateKey_eq_ok_iff.mp (except_mapError_eq_ok.mp done) with ⟨_, rfl⟩
  refine admits_of_validated (fun acceptedValues _ => ?_)
  exact admits_of_reserved _ (insertReserved_mutates txn _ _) owner

theorem deleteRow_admits (txn : TxnId) (key : Key S) (owner : PersistentTable schema) :
    Admits txn (.one key) owner (finalState (deleteRow txn key owner)) := by
  refine admits_of_validated (fun accepted done => ?_)
  rcases TableSchema.validateKey_eq_ok_iff.mp (except_mapError_eq_ok.mp done) with ⟨_, rfl⟩
  exact admits_of_reserved _ (deleteReserved_mutates txn _) owner

theorem update_admits (ops : TableOps S) (txn : TxnId) (range : Range S)
    (values : List (S.Id × S.Value)) (owner : PersistentTable schema) :
    Admits txn SetRange.all owner (finalState (update ops txn range values owner)) := by
  unfold update
  split
  · exact Or.inl rfl
  · exact admits_of_reserved _ (updateReserved_mutates ops txn range values) owner

theorem truncate_admits (ops : TableOps S) (txn : TxnId) (range : Range S)
    (owner : PersistentTable schema) :
    Admits txn SetRange.all owner (finalState (truncate ops txn range owner)) :=
  admits_of_reserved _ (truncateReserved_mutates ops txn range) owner

theorem restoreFrom_admits (ops : TableOps S) (txn : TxnId) {sourceSchema : TableSchema S}
    (source : PersistentTable sourceSchema) (owner : PersistentTable schema) :
    Admits txn SetRange.all owner (finalState (restoreFrom ops txn source owner)) :=
  admits_of_reserved _ (restoreReserved_mutates txn sourceSchema _) owner

end Table
end TransactionalCollection
