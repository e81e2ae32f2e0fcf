import TransactionalCollection.Table.Handle
import TransactionalCollection.Table.Loading

namespace TransactionalCollection
namespace Table

open Layering Native Execution Persistence

/-!
# Writes to a local table

A local table stages the rows of a range before it replaces the first of them.
Whatever can fail fails while staging, and then the table has not been touched.
Otherwise the values of each row in the range are rewritten, and the other rows
stay.  Single rows are validated by the native table alone.
-/

variable {S : Signature} {schema : TableSchema S}

/-- Rewrite the values of the rows which satisfy a range. -/
def rewriteView (schema : TableSchema S) (range : Range S)
    (rewrite : List S.Value -> Option (List S.Value)) (view : View (Key S) (List S.Value)) :
    View (Key S) (List S.Value) := fun key =>
  (view key).bind (fun values => if schema.admits range (key ++ values) then rewrite values else some values)

/-- What becomes of the values of a row: they are updated, or dropped. -/
def rewritten (schema : TableSchema S) (updates : Option (List (S.Id × S.Value)))
    (old : List S.Value) : Option (List S.Value) :=
  updates.map (fun values => assigned schema values old)

/-- The updates, if there are any, are of the right types. -/
def Fits (schema : TableSchema S) (updates : Option (List (S.Id × S.Value))) : Prop :=
  forall values, updates = some values -> UpdateTyped schema values

theorem ValidRow.staged {row : Row S} (valid : ValidRow schema row)
    {updates : Option (List (S.Id × S.Value))} (fits : Fits schema updates) :
    ValidRow schema (stagedRow schema updates row) ∧
      keyOf schema (stagedRow schema updates row) = keyOf schema row ∧
      (updates.isSome -> some (valuesOf schema (stagedRow schema updates row)) =
        rewritten schema updates (valuesOf schema row)) := by
  cases updates with
  | none =>
      refine ⟨valid, rfl, ?_⟩
      intro impossible
      cases impossible
  | some values =>
      rcases valid.assign_parts values with ⟨whole, keyed, valued⟩
      have typed := (validValues_assigned_iff values valid.values).mpr (fits values rfl)
      refine ⟨?_, keyed, fun _ => congrArg some valued⟩
      change ValidRow schema (assignColumns schema values row)
      rw [whole]
      exact (ValidRow.of_parts valid.key typed).1

theorem rowStream_default (ops : TableOps S) (table : TableLock schema) :
    rowStream ops table Range.default [] false = .ok table.allRows := by
  rw [rowStream, ops.plan_default, TableLock.sortedRows_default]

/-- The cell of a staged row. -/
def stagedCell (schema : TableSchema S) (updating : Bool) (row : Row S) :
    CellWrite (Key S) (List S.Value) :=
  if updating then rowCell schema row else dropCell schema row

theorem stagedCell_key (updating : Bool) (row : Row S) :
    (stagedCell schema updating row).key = keyOf schema row := by
  cases updating <;> rfl

/-- Replacing valid rows never fails. -/
theorem replaceAll_of_valid {rows : List (Row S)} (valid : forall row, row ∈ rows -> ValidRow schema row)
    (updating : Bool) (table : TableLock schema) :
    exists after, forM rows (replaceRow updating) table = .ok ⟨⟩ after ∧
      bindings after = replay (rows.map (stagedCell schema updating)) (bindings table) := by
  have one : forall row, row ∈ rows -> forall before : TableLock schema,
      exists after, replaceRow updating row before = .ok ⟨⟩ after ∧
        bindings after = (stagedCell schema updating row).apply (bindings before) := by
    intro row member before
    have erased : bindings (before.erase (keyOf schema row)) =
        (dropCell schema row).apply (bindings before) := bindings_erase before (keyOf schema row)
    cases updating with
    | false => exact ⟨_, rfl, erased⟩
    | true =>
        have stored := upsert_of_valid (valid row member).key (valid row member).values
          (before.erase (keyOf schema row))
        refine ⟨_, (bind_of_ok rfl).trans stored, ?_⟩
        rw [bindings_put, erased]
        funext key
        change (if keyOf schema row = key then _ else if keyOf schema row = key then _ else _) =
          if keyOf schema row = key then _ else _
        split <;> rfl
  have done := forM_eq_foldl (fun row member before => (one row member before).imp
    (fun _ both => both.1)) table
  refine ⟨_, done, ?_⟩
  apply forM_replays ?_ done
  intro row member before after stepped
  rcases one row member before with ⟨_, same, applied⟩
  cases same.symm.trans stepped
  exact applied

/-- The staged rows of a range rewrite it. -/
theorem rewriteView_of_staged {table temp : TableLock schema} {range : Range S}
    {updates : Option (List (S.Id × S.Value))} (fits : Fits schema updates)
    (staged : forall row, row ∈ temp.allRows <->
      row ∈ (table.sortedRows range [] false).map (stagedRow schema updates)) :
    replay (temp.allRows.map (stagedCell schema updates.isSome)) (bindings table) =
      rewriteView schema range (rewritten schema updates) (bindings table) := by
  -- What is staged under a key is the row of that key, if it satisfies the range.
  have found : forall row, row ∈ temp.allRows ->
      exists old, table.rows[keyOf schema row]? = some old ∧
        schema.admits range (keyOf schema row ++ old) = true ∧
        (stagedCell schema updates.isSome row).outcome = rewritten schema updates old := by
    intro row member
    rcases List.mem_map.mp ((staged row).mp member) with ⟨source, listed, rfl⟩
    rcases table.mem_sortedRows.mp listed with ⟨stored, admitted⟩
    rcases TableLock.stored_row stored with ⟨valid, bound⟩
    rcases valid.staged fits with ⟨_, keyed, valued⟩
    refine ⟨valuesOf schema source, keyed ▸ bound, ?_, ?_⟩
    · rw [keyed, ← valid.parts]
      exact admitted
    · cases updates with
      | none => rfl
      | some values => exact valued rfl
  apply replay_map_eq (keyOf schema) (fun row _ => stagedCell_key updates.isSome row) temp.allRows_keys_nodup
  · intro row member
    rcases found row member with ⟨old, bound, admitted, outcome⟩
    have viewed : bindings table (keyOf schema row) = some old := bound
    rw [outcome, rewriteView, viewed, Option.bind_some, if_pos admitted]
  · intro key absent
    rw [rewriteView]
    cases viewed : bindings table key with
    | none => rfl
    | some old =>
        rw [Option.bind_some, if_neg]
        intro admitted
        have valid := table.valid key old viewed
        rcases ValidRow.of_parts valid.1 valid.2 with ⟨rowValid, keyed, _⟩
        have listed : key ++ old ∈ table.sortedRows range [] false :=
          table.mem_sortedRows.mpr ⟨table.mem_allRows.mpr ⟨key, old, viewed, rfl⟩, admitted⟩
        apply absent _ ((staged _).mpr (List.mem_map_of_mem listed))
        rw [(rowValid.staged fits).2.1, keyed]

/-- Nothing in the range, nothing to rewrite. -/
theorem rewriteView_of_empty {table : TableLock schema} {range : Range S}
    (none : table.sortedRows range [] false = []) (rewrite : List S.Value -> Option (List S.Value)) :
    rewriteView schema range rewrite (bindings table) = bindings table := by
  funext key
  rw [rewriteView]
  cases viewed : bindings table key with
  | none => rfl
  | some old =>
      rw [Option.bind_some, if_neg]
      intro admitted
      have listed : key ++ old ∈ table.sortedRows range [] false :=
        table.mem_sortedRows.mpr ⟨table.mem_allRows.mpr ⟨key, old, viewed, rfl⟩, admitted⟩
      rw [none] at listed
      exact List.not_mem_nil listed

/-- Rows which the new values fit are staged under their own keys. -/
theorem staged_rows {updates : Option (List (S.Id × S.Value))} (fits : Fits schema updates) {rows : List (Row S)}
    (valid : forall row, row ∈ rows -> ValidRow schema row) (distinct : (rows.map (keyOf schema)).Nodup) :
    exists temp, forM rows (stageRow updates) (TableLock.empty : TableLock schema) = .ok ⟨⟩ temp ∧
      forall row, row ∈ temp.allRows <-> row ∈ rows.map (stagedRow schema updates) := by
  have stagedValid : forall row, row ∈ rows.map (stagedRow schema updates) -> ValidRow schema row := by
    intro row member
    rcases List.mem_map.mp member with ⟨source, listed, rfl⟩
    exact ((valid source listed).staged fits).1
  have keys : (rows.map (stagedRow schema updates)).map (keyOf schema) = rows.map (keyOf schema) := by
    rw [List.map_map]
    exact List.map_congr_left (fun row member => ((valid row member).staged fits).2.1)
  rw [← keys] at distinct
  rcases loadAll_of_valid stagedValid (TableLock.empty : TableLock schema) with ⟨temp, loading, loaded⟩
  rw [List.forM_map] at loading
  exact ⟨temp, loading, loaded_rows stagedValid distinct loaded⟩

/-- A row with a new value of the wrong type is not staged. -/
theorem ValidRow.stage_refused {row : Row S} (valid : ValidRow schema row)
    {updates : Option (List (S.Id × S.Value))} (unfit : ¬ Fits schema updates) (temp : TableLock schema) :
    exists error, stageRow updates row temp = .error error temp := by
  rcases not_forall.mp unfit with ⟨values, unfit⟩
  rcases Classical.not_imp.mp unfit with ⟨rfl, untyped⟩
  rcases valid.assign_parts values with ⟨_, _, valued⟩
  rcases upsert_cases (keyOf schema (assignColumns schema values row))
    (valuesOf schema (assignColumns schema values row)) temp with ⟨_, validValues, _⟩ | failed
  · rw [valued] at validValues
    exact absurd ((validValues_assigned_iff values valid.values).mp validValues) untyped
  · exact failed

theorem TableLock.allRows_empty : (TableLock.empty : TableLock schema).allRows = [] := by
  apply List.eq_nil_iff_forall_not_mem.mpr
  intro row member
  cases (TableLock.stored_row member).2.symm.trans Std.ExtTreeMap.getElem?_empty

/-- A local rewriting fails on the first row in the range if a new value has the
wrong type, and leaves the table alone.  Otherwise it rewrites the range. -/
theorem rewriteLocal_cases {ops : TableOps S} {range : Range S}
    (supported : ops.plan schema range [] = .ok ()) (updates : Option (List (S.Id × S.Value)))
    (table : TableLock schema) :
    (¬ Fits schema updates ∧ table.sortedRows range [] false ≠ [] ∧
        exists error, rewriteLocal ops range updates table = .error error table) ∨
      (Fits schema updates ∨ table.sortedRows range [] false = []) ∧
        exists after, rewriteLocal ops range updates table = .ok ⟨⟩ after ∧
          bindings after = rewriteView schema range (rewritten schema updates) (bindings table) := by
  have opened : rowStream ops table range [] false = .ok (table.sortedRows range [] false) := by
    rw [rowStream, supported]
  have rowsValid : forall row, row ∈ table.sortedRows range [] false -> ValidRow schema row :=
    fun row member => (TableLock.stored_row (table.mem_sortedRows.mp member).1).1
  have rowsDistinct : ((table.sortedRows range [] false).map (keyOf schema)).Nodup :=
    table.allRows_keys_nodup.sublist (List.filter_sublist.map _)
  by_cases fits : Fits schema updates
  · refine Or.inr ⟨Or.inl fits, ?_⟩
    rcases staged_rows fits rowsValid rowsDistinct with ⟨temp, staging, staged⟩
    have tempValid : forall row, row ∈ temp.allRows -> ValidRow schema row :=
      fun row member => (TableLock.stored_row member).1
    rcases replaceAll_of_valid tempValid updates.isSome table with ⟨after, replacing, replaced⟩
    refine ⟨after, ?_, replaced.trans (rewriteView_of_staged fits staged)⟩
    rw [rewriteLocal, opened]
    dsimp only
    rw [staging]
    dsimp only
    rw [rowStream_default]
    exact mapError_of_ok replacing
  · cases listed : table.sortedRows range [] false with
    | nil =>
        refine Or.inr ⟨Or.inr rfl, table, ?_, (rewriteView_of_empty listed _).symm⟩
        have unstaged : forM ([] : List (Row S)) (stageRow updates) (TableLock.empty : TableLock schema) =
            .ok ⟨⟩ TableLock.empty := rfl
        rw [rewriteLocal, opened, listed]
        dsimp only
        rw [unstaged]
        dsimp only
        rw [rowStream_default, TableLock.allRows_empty]
        rfl
    | cons row rows =>
        refine Or.inl ⟨fits, List.cons_ne_nil row rows, ?_⟩
        have member : row ∈ table.sortedRows range [] false := listed ▸ List.mem_cons_self
        rcases (rowsValid row member).stage_refused fits TableLock.empty with ⟨error, failed⟩
        refine ⟨.io error, ?_⟩
        rw [rewriteLocal, opened, listed]
        dsimp only
        rw [List.forM_cons, bind_of_error failed]

/-! ## Single rows -/

theorem upsertLocal_eq (key : Key S) (values : List S.Value) (table : TableLock schema) :
    upsertLocal key values table = upsert key values (table.erase key) := rfl

/-- A local upsert binds its key, or fails on invalid arguments when the old row
is gone. -/
theorem upsertLocal_cases (key : Key S) (values : List S.Value) (table : TableLock schema) :
    ((schema.ValidKey key ∧ schema.ValidValues values) ∧
        exists after, upsertLocal key values table = .ok ⟨⟩ after ∧
          bindings after = (CellWrite.put key values).apply (bindings table)) ∨
      (¬ (schema.ValidKey key ∧ schema.ValidValues values) ∧
        exists error, upsertLocal key values table = .error error (table.erase key)) := by
  rw [upsertLocal_eq]
  by_cases valid : schema.ValidKey key ∧ schema.ValidValues values
  · have done := upsert_of_valid valid.1 valid.2 (table.erase key)
    refine Or.inl ⟨valid, _, done, ?_⟩
    rw [upsert_bindings done]
    funext other
    change (if key = other then _ else (table.erase key).rows[other]?) =
      if key = other then _ else table.rows[other]?
    rw [TableLock.erase_rows]
    split
    · rfl
    · rfl
  · rcases upsert_cases key values (table.erase key) with ⟨validKey, validValues, _⟩ | ⟨error, failed⟩
    · exact absurd ⟨validKey, validValues⟩ valid
    · exact Or.inr ⟨valid, error, failed⟩

/-- A local insertion binds its key if the key it looks for has no row, or leaves the table
alone. -/
theorem insertLocal_cases (key : Key S) (values : List S.Value) (table : TableLock schema) :
    ((schema.ValidKey key ∧ schema.ValidValues values) ∧
        ((bindings table (readKey schema key) ≠ none ∧
            insertLocal key values table = .error (.request (keyExists key)) table) ∨
          (bindings table (readKey schema key) = none ∧
            exists after, insertLocal key values table = .ok ⟨⟩ after ∧
              bindings after = (CellWrite.put key values).apply (bindings table)))) ∨
      (¬ (schema.ValidKey key ∧ schema.ValidValues values) ∧
        exists error, insertLocal key values table = .error error table) := by
  by_cases arity : key.length = schema.key.length
  · have found := getRow_of_arity arity table
    cases here : table.rows[readKey schema key]? with
    | some old =>
        have failed : insertLocal key values table = .error (.request (keyExists key)) table := by
          rw [insertLocal, found, here]
          rfl
        by_cases valid : schema.ValidKey key ∧ schema.ValidValues values
        · refine Or.inl ⟨valid, Or.inl ⟨?_, failed⟩⟩
          intro absent
          cases here.symm.trans absent
        · exact Or.inr ⟨valid, _, failed⟩
    | none =>
        have body : insertLocal key values table = mapError OpError.io (upsert key values) table := by
          rw [insertLocal, found, here]
          rfl
        by_cases valid : schema.ValidKey key ∧ schema.ValidValues values
        · have done := upsert_of_valid valid.1 valid.2 table
          exact Or.inl ⟨valid, Or.inr ⟨here, _, body.trans (mapError_of_ok done), upsert_bindings done⟩⟩
        · rcases upsert_cases key values table with ⟨validKey, validValues, _⟩ | ⟨error, failed⟩
          · exact absurd ⟨validKey, validValues⟩ valid
          · exact Or.inr ⟨valid, _, body.trans (mapError_of_error failed)⟩
  · apply Or.inr
    refine ⟨fun valid => arity valid.1.1, ?_⟩
    rw [insertLocal, getRow, TableSchema.rangeFromKey, if_pos arity]
    exact ⟨_, rfl⟩

end Table
end TransactionalCollection
