import TransactionalCollection.Native.Datum
import TransactionalCollection.Table.LocalWrites
import TransactionalCollection.Table.RangeWrites

namespace TransactionalCollection
namespace Table

open Layering Native Execution Persistence

/-!
# Writes which fail

A write should either happen or leave every row as it was.  A range update of a
transactional table finds a value of the wrong type only when it stores its
first row, and by then it has taken that row's key out of the pending delta.
A local table stages an update first, but deletes the row under a key before it
validates the values to be stored there.
-/

variable {S : Signature} {schema : TableSchema S}

/-- Every key is bound as before, and reads the same row, or fails to. -/
def SameRows (txn : TxnId) (before after : Handle schema) : Prop :=
  forall key, after.bound txn key = before.bound txn key ∧
    (after.readRow txn key).1 = (before.readRow txn key).1

theorem SameRows.refl (txn : TxnId) (handle : Handle schema) : SameRows txn handle handle :=
  fun _ => ⟨rfl, rfl⟩

theorem sameRows_file_iff (txn : TxnId) (before after : PersistentTable schema) :
    SameRows txn (.file before) (.file after) <-> after.state.view txn = before.state.view txn := by
  constructor
  · intro same
    funext key
    exact (same key).1
  · intro same key
    exact ⟨congrFun same key, Handle.readRow_file_congr (congrFun same _)⟩

/-- Tables which differ in their reservations only read the same. -/
theorem sameRows_of_state (txn : TxnId) {before after : PersistentTable schema}
    (same : after.state = before.state) :
    SameRows txn (.file before) (.file after) := by
  rw [sameRows_file_iff, same]

theorem sameRows_local_iff (txn : TxnId) (before after : TableLock schema) :
    SameRows txn (.localTable before) (.localTable after) <->
      forall key : Key S, after.rows[key]? = before.rows[key]? := by
  constructor
  · intro same key
    exact (same key).1
  · intro same key
    exact ⟨same key, Handle.readRow_local_congr (same _)⟩

/-! ## Range updates -/

/-- A key taken out of both halves of a delta is not answered any more. -/
theorem forgotten_answers (delta : Delta schema) (key other : Key S) :
    (⟨delta.inserts.erase key, delta.deletes.erase key⟩ : Delta schema).answers other =
      if key = other then none else delta.answers other := by
  simp only [Delta.answers, TableLock.erase_rows]
  by_cases here : key = other <;> simp [here]

/-- If an update gets as far as its rows with a value of the wrong type, then the
first of these rows is not one which the transaction has written itself. -/
def FirstRowSettled (ops : TableOps S) (txn : TxnId) (range : Range S)
    (values : List (S.Id × S.Value)) (owner : PersistentTable schema) : Prop :=
  notUpdatable schema values = none -> MayWrite owner txn .all -> ¬ UpdateTyped schema values ->
    forall row rest, (rows ops txn range [] false owner).1 = .ok (row :: rest) ->
      owner.state.settledView txn (keyOf schema row) = owner.state.view txn (keyOf schema row)

/-- An update which fails in its loop loses the pending delta's answer for the
first row, and no other. -/
theorem update_failed_view {ops : TableOps S} {range : Range S}
    (supported : ops.plan schema range [] = .ok ()) {txn : TxnId} {values : List (S.Id × S.Value)}
    {owner after : PersistentTable schema} {failure : Failure LockError}
    (failed : update ops txn range values owner = .error failure after) :
    (after.state = owner.state ∧ ¬ (notUpdatable schema values = none ∧ MayWrite owner txn .all)) ∨
      exists row rest, notUpdatable schema values = none ∧ MayWrite owner txn .all ∧
        ¬ UpdateTyped schema values ∧ (rows ops txn range [] false owner).1 = .ok (row :: rest) ∧
        forall key, after.state.view txn key =
          if keyOf schema row = key then owner.state.settledView txn key
          else owner.state.view txn key := by
  have valid : forall row, row ∈ scanned ops (owner.state.visibleSnapshot txn) range [] false ->
      ValidRow schema row := fun row member => scanned_valid ops member
  have stream : (rows ops txn range [] false owner).1 = .ok _ := rows_supported supported false
  rcases update_cases supported txn values owner with
    ⟨⟨_, _, refused⟩, notAdmitted⟩ | ⟨semaphore, pending, middle, named, granted, writable, fetched,
      ⟨_, _, done⟩ | ⟨error, delta, looped, outcome⟩⟩
  · cases refused.symm.trans failed
    exact Or.inl ⟨rfl, notAdmitted⟩
  · cases done.symm.trans failed
  · cases outcome.symm.trans failed
    have untyped : ¬ UpdateTyped schema values := by
      intro typed
      rcases Delta.updateAll_of_typed valid typed pending with ⟨_, ran⟩
      cases ran.symm.trans looped
    cases listed : scanned ops (owner.state.visibleSnapshot txn) range [] false with
    | nil =>
        rw [listed] at looped
        cases looped
    | cons row rest =>
        rw [listed] at looped stream valid
        refine Or.inr ⟨row, rest, named, ⟨⟨semaphore, granted⟩, writable⟩, untyped, stream, ?_⟩
        intro key
        rcases Delta.updateAll_of_untyped (valid row List.mem_cons_self) rest untyped pending with
          ⟨_, stopped⟩
        cases stopped.symm.trans looped
        rcases fetched_view fetched with ⟨_, settled, viewed⟩
        rw [setPending_view, Overlay.read, forgotten_answers, ← viewed, settled]
        split
        · rfl
        · rfl

/-- A value of the wrong type fails an update which meets a row. -/
theorem update_fails_of_untyped {ops : TableOps S} {range : Range S}
    (supported : ops.plan schema range [] = .ok ()) {txn : TxnId} {values : List (S.Id × S.Value)}
    {owner : PersistentTable schema} (named : notUpdatable schema values = none)
    (mayWrite : MayWrite owner txn .all) (untyped : ¬ UpdateTyped schema values) {row : Row S}
    {rest : List (Row S)} (stream : (rows ops txn range [] false owner).1 = .ok (row :: rest)) :
    exists failure after, update ops txn range values owner = .error failure after := by
  rw [rows_supported supported] at stream
  have listed := Except.ok.inj stream
  have valid : ValidRow schema row := scanned_valid ops (listed ▸ List.mem_cons_self)
  rcases update_cases supported txn values owner with
    ⟨_, notAdmitted⟩ | ⟨_, pending, _, _, _, _, _, ⟨_, looped, _⟩ | ⟨_, _, _, outcome⟩⟩
  · exact absurd ⟨named, mayWrite⟩ notAdmitted
  · rw [listed] at looped
    rcases Delta.updateAll_of_untyped valid rest untyped pending with ⟨_, stopped⟩
    cases stopped.symm.trans looped
  · exact ⟨_, _, outcome⟩

/-- A local update which fails has staged rows only. -/
theorem updateLocal_failed {ops : TableOps S} {range : Range S}
    (supported : ops.plan schema range [] = .ok ()) {values : List (S.Id × S.Value)}
    {table after : TableLock schema} {error : OpError}
    (failed : updateLocal ops range values table = .error error after) : after = table := by
  rw [updateLocal] at failed
  cases named : notUpdatable schema values with
  | some entry =>
      rw [named] at failed
      cases failed
      rfl
  | none =>
      rw [named] at failed
      rcases rewriteLocal_cases supported (some values) table with
        ⟨_, _, _, refused⟩ | ⟨_, _, done, _⟩
      · cases refused.symm.trans failed
        rfl
      · cases done.symm.trans failed

/-- A failed update leaves every row as it was: of a local table always, and of
a transactional one exactly if the first row of its range is settled. -/
theorem update_failure_sameRows_iff (ops : TableOps S) (ranges : RangeOps S) {schema : TableSchema S}
    (txn : TxnId) {range : Range S} (supported : ops.plan schema range [] = .ok ())
    (values : List (S.Id × S.Value)) :
    (forall owner : PersistentTable schema,
      (forall failure after,
        Handle.update ops ranges txn range values (.file owner) = .error failure after ->
        SameRows txn (.file owner) after) <->
      FirstRowSettled ops txn range values owner) ∧
    forall (table : TableLock schema) (failure : Failure OpError) (after : Handle schema),
      Handle.update ops ranges txn range values (.localTable table) = .error failure after ->
      SameRows txn (.localTable table) after := by
  constructor
  · intro owner
    constructor
    · intro unchanged named mayWrite untyped row rest stream
      rcases update_fails_of_untyped supported named mayWrite untyped stream with
        ⟨failure, after, failed⟩
      have handled : Handle.update ops ranges txn range values (.file owner) =
          .error (lockFailure failure) (.file after) := by
        rw [Handle.update, mapError_of_error failed, rewrap_error]
      have same := (sameRows_file_iff txn owner after).mp (unchanged _ _ handled)
      rcases update_failed_view supported failed with
        ⟨_, notAdmitted⟩ | ⟨first, _, _, _, _, streamed, viewed⟩
      · exact absurd ⟨named, mayWrite⟩ notAdmitted
      · cases stream.symm.trans streamed
        rw [← same, viewed, if_pos rfl]
    · intro settled failure after handled
      rcases rewrap_eq_error.mp handled with ⟨next, failed, rfl⟩
      rcases mapError_eq_error.mp failed with ⟨error, outcome, _⟩
      rcases update_failed_view supported outcome with
        ⟨same, _⟩ | ⟨row, rest, named, mayWrite, untyped, stream, viewed⟩
      · exact sameRows_of_state txn same
      · apply (sameRows_file_iff txn owner next).mpr
        funext key
        rw [viewed]
        split
        · rename_i here
          rw [← here]
          exact settled named mayWrite untyped row rest stream
        · rfl
  · intro table failure after handled
    rcases rewrap_eq_error.mp handled with ⟨next, failed, rfl⟩
    rcases mapError_eq_error.mp failed with ⟨error, outcome, _⟩
    rw [updateLocal_failed supported outcome]
    exact SameRows.refl txn _

/-- A key column and a value column, both of numbers. -/
def labelledSchema : TableSchema Signature.data where
  key := ["key"]
  values := ["value"]
  primary :=
    { columnNames := ["key", "value"]
      columnTypes := [DatumType.number, DatumType.number]
      storage := {}
      columns_pos := by simp
      types_length := rfl }
  indices := []
  key_pos := by simp
  primary_names := rfl
  indices_names := by
    intro index member
    cases member

/-- A transaction has written a row and is still open. -/
def unfinished :
    Config (Delta labelledSchema) (TableLock labelledSchema) (Key Signature.data) :=
  run (tableDriver TableOps.reference labelledSchema) (Config.start TableLock.empty)
    [.mutate 1 (.upsertRow [Datum.number 7] [Datum.number 1])]

theorem unfinished_reachable :
    Reachable (tableDriver TableOps.reference labelledSchema) unfinished :=
  Reachable.run (Reachable.start _) _

/-- A value of the wrong type for the value column. -/
def textForValue : List (Signature.data.Id × Signature.data.Value) := [("value", Datum.text "x")]

theorem update_failure_sameRows_iff_unfinished :
    (forall owner : PersistentTable labelledSchema,
      (forall failure after,
        Handle.update TableOps.reference RangeOps.reference 1 Range.default textForValue (.file owner) =
          .error failure after ->
        SameRows 1 (.file owner) after) <->
      FirstRowSettled TableOps.reference 1 Range.default textForValue owner) ∧
    forall (table : TableLock labelledSchema) (failure : Failure OpError)
      (after : Handle labelledSchema),
      Handle.update TableOps.reference RangeOps.reference 1 Range.default textForValue
          (.localTable table) = .error failure after ->
      SameRows 1 (.localTable table) after :=
  update_failure_sameRows_iff TableOps.reference RangeOps.reference 1
    (rfl : TableOps.reference.plan labelledSchema Range.default [] = .ok ()) textForValue

/-- The update fails, and the row which its transaction had written is gone. -/
theorem update_loses_row_unfinished :
    Reachable (tableDriver TableOps.reference labelledSchema) unfinished ∧
      exists failure after,
        Handle.update TableOps.reference RangeOps.reference 1 Range.default textForValue
          (.file unfinished.owner) = .error failure after ∧
        ¬ SameRows 1 (.file unfinished.owner) after := by
  have failed : succeeded (Handle.update TableOps.reference RangeOps.reference 1 Range.default
      textForValue (.file unfinished.owner)) = false := by
    decide +kernel
  rcases eq_error_of_not_succeeded failed with ⟨failure, outcome⟩
  refine ⟨unfinished_reachable, failure, _, outcome, ?_⟩
  intro same
  have found := congrArg (fun answer => answer.toOption.map Option.isSome) (same [Datum.number 7]).2
  revert found
  decide +kernel

/-! ## Single rows -/

/-- A transactional table validates a row before it touches anything. -/
theorem upsertRow_failed {txn : TxnId} {key : Key S} {values : List S.Value}
    {owner after : PersistentTable schema} {error : LockError}
    (failed : upsertRow txn key values owner = .error error after) : after.state = owner.state := by
  rcases upsertRow_cases txn key values owner with
    ⟨_, _, _, refused⟩ | ⟨_, _, _, done, _⟩
  · cases refused.symm.trans failed
    rfl
  · cases done.symm.trans failed

theorem insertRow_failed {txn : TxnId} {key : Key S} {values : List S.Value}
    {owner after : PersistentTable schema} {failure : Failure OpError}
    (failed : insertRow txn key values owner = .error failure after) : after.state = owner.state := by
  rcases insertRow_cases txn key values owner with
    ⟨_, _, _, refused⟩ | ⟨_, ⟨_, _, refused⟩ | ⟨_, _, _, done, _⟩⟩
  · cases refused.symm.trans failed
    rfl
  · cases refused.symm.trans failed
    rfl
  · cases done.symm.trans failed

theorem insertLocal_failed {key : Key S} {values : List S.Value} {table after : TableLock schema}
    {error : OpError} (failed : insertLocal key values table = .error error after) :
    after = table := by
  rcases insertLocal_cases key values table with
    ⟨_, ⟨_, refused⟩ | ⟨_, _, done, _⟩⟩ | ⟨_, _, refused⟩
  · cases refused.symm.trans failed
    rfl
  · cases done.symm.trans failed
  · cases refused.symm.trans failed
    rfl

/-- Taking a key out of a table changes no row exactly if there was none. -/
theorem sameRows_erase_iff (txn : TxnId) (table : TableLock schema) (key : Key S) :
    SameRows txn (.localTable table) (.localTable (table.erase key)) <-> table.rows[key]? = none := by
  rw [sameRows_local_iff]
  constructor
  · intro same
    cases found : table.rows[key]? with
    | none => rfl
    | some values =>
        have here := same key
        rw [TableLock.erase_rows, if_pos rfl, found] at here
        exact here.symm
  · intro absent other
    rw [TableLock.erase_rows]
    split
    · rename_i here
      rw [← here, absent]
    · rfl

/-- A failed upsert to a local table changes no row exactly if its values are valid or its key has no row. -/
theorem upsertLocal_failure_sameRows_iff (txn : TxnId) (key : Key S) (values : List S.Value)
    (table : TableLock schema) :
    (forall failure after, Handle.upsertRow txn key values (.localTable table) = .error failure after ->
        SameRows txn (.localTable table) after) <->
      schema.ValidValues values ∨ table.rows[key]? = none := by
  constructor
  · intro unchanged
    by_cases validValues : schema.ValidValues values
    · exact Or.inl validValues
    · apply Or.inr
      rcases upsertLocal_cases key values table with ⟨valid, _⟩ | ⟨_, error, failed⟩
      · exact absurd valid.2 validValues
      · have handled : Handle.upsertRow txn key values (.localTable table) =
            .error (.error (.io error)) (.localTable (table.erase key)) := by
          rw [Handle.upsertRow, mapError_of_error failed, rewrap_error]
        exact (sameRows_erase_iff txn table key).mp (unchanged _ _ handled)
  · intro harmless failure after handled
    rcases rewrap_eq_error.mp handled with ⟨next, refused, rfl⟩
    rcases mapError_eq_error.mp refused with ⟨other, outcome, _⟩
    rcases upsertLocal_cases key values table with ⟨_, _, done, _⟩ | ⟨invalid, error, failed⟩
    · cases done.symm.trans outcome
    · cases failed.symm.trans outcome
      apply (sameRows_erase_iff txn table key).mpr
      rcases harmless with validValues | absent
      · cases found : table.rows[key]? with
        | none => rfl
        | some old => exact absurd ⟨(table.valid key old found).1, validValues⟩ invalid
      · exact absent

/-- A failed write of a single row leaves every row as it was, except that a
local upsert does so exactly if its values are valid or its key has no row. -/
theorem row_failure_sameRows_iff (txn : TxnId) (key : Key S) (values : List S.Value) :
    (forall (owner : PersistentTable schema) (failure : Failure OpError) (after : Handle schema),
      (Handle.upsertRow txn key values (.file owner) = .error failure after ->
        SameRows txn (.file owner) after) ∧
      (Handle.insertRow txn key values (.file owner) = .error failure after ->
        SameRows txn (.file owner) after)) ∧
    forall table : TableLock schema,
      ((forall failure after, Handle.upsertRow txn key values (.localTable table) =
          .error failure after -> SameRows txn (.localTable table) after) <->
        schema.ValidValues values ∨ table.rows[key]? = none) ∧
      forall failure after, Handle.insertRow txn key values (.localTable table) =
        .error failure after -> SameRows txn (.localTable table) after := by
  constructor
  · intro owner failure after
    constructor
    · intro handled
      rcases rewrap_eq_error.mp handled with ⟨next, failed, rfl⟩
      rcases mapError_eq_error.mp failed with ⟨error, outcome, _⟩
      exact sameRows_of_state txn (upsertRow_failed outcome)
    · intro handled
      rcases rewrap_eq_error.mp handled with ⟨next, outcome, rfl⟩
      exact sameRows_of_state txn (insertRow_failed outcome)
  · intro table
    constructor
    · exact upsertLocal_failure_sameRows_iff txn key values table
    · intro failure after handled
      rcases rewrap_eq_error.mp handled with ⟨next, failed, rfl⟩
      rcases mapError_eq_error.mp failed with ⟨error, outcome, _⟩
      rw [insertLocal_failed outcome]
      exact SameRows.refl txn _

/-- A local table of one row. -/
def oneLabelled : TableLock labelledSchema :=
  TableLock.empty.put [Datum.number 7] [Datum.number 1] (by decide) (by decide)

/-- The upsert fails, and the row which its key had is gone. -/
theorem upsertRow_loses_row_oneLabelled :
    exists failure after,
      Handle.upsertRow 1 [Datum.number 7] [Datum.text "x"] (.localTable oneLabelled) =
        .error failure after ∧
      ¬ SameRows 1 (.localTable oneLabelled) after := by
  have failed : succeeded (Handle.upsertRow 1 [Datum.number 7] [Datum.text "x"]
      (.localTable oneLabelled)) = false := by
    decide +kernel
  rcases eq_error_of_not_succeeded failed with ⟨failure, outcome⟩
  refine ⟨failure, _, outcome, ?_⟩
  intro same
  have found := congrArg (fun answer => answer.toOption.map Option.isSome) (same [Datum.number 7]).2
  revert found
  decide +kernel

end Table
end TransactionalCollection
