import TransactionalCollection.Table.Assignment

namespace TransactionalCollection
namespace Table

open Layering Native Execution Persistence

/-!
# Rows loaded into a native table

A row is stored under its key columns.  Upserting valid rows into a native
table never fails, and if their keys are distinct the order of the rows does not
matter: a table loaded from empty holds exactly these rows.
-/

variable {S : Signature} {schema : TableSchema S}

/-- The cell which binds the key of a row to its values. -/
def rowCell (schema : TableSchema S) (row : Row S) : CellWrite (Key S) (List S.Value) :=
  .put (keyOf schema row) (valuesOf schema row)

/-- The cell which unbinds the key of a row. -/
def dropCell (schema : TableSchema S) (row : Row S) : CellWrite (Key S) (List S.Value) :=
  .remove (keyOf schema row)

/-- The body of every loop which loads rows. -/
def loadRow (row : Row S) : EStateM IoError (TableLock schema) PUnit :=
  upsert (row.take schema.key.length) (row.drop schema.key.length)

theorem upsert_bindings {key : Key S} {values : List S.Value} {before after : TableLock schema}
    (done : upsert key values before = .ok ⟨⟩ after) :
    bindings after = (CellWrite.put key values).apply (bindings before) := by
  rcases upsert_cases key values before with ⟨validKey, validValues, outcome⟩ | ⟨error, failed⟩
  · cases outcome.symm.trans done
    exact bindings_put before key values validKey validValues
  · cases failed.symm.trans done

/-- Valid rows are loaded one after another. -/
theorem loadAll_of_valid {rows : List (Row S)} (valid : forall row, row ∈ rows -> ValidRow schema row)
    (table : TableLock schema) :
    exists after, forM rows loadRow table = .ok ⟨⟩ after ∧
      bindings after = replay (rows.map (rowCell schema)) (bindings table) := by
  have total : forall row, row ∈ rows -> forall table : TableLock schema,
      exists after, loadRow row table = .ok ⟨⟩ after :=
    fun row member table => ⟨_, upsert_of_valid (valid row member).key (valid row member).values table⟩
  have done := forM_eq_foldl total table
  refine ⟨_, done, ?_⟩
  exact forM_replays (fun _ _ _ _ one => upsert_bindings one) done

/-- The stored rows of a table have distinct keys. -/
theorem TableLock.allRows_keys_nodup (table : TableLock schema) :
    (table.allRows.map (keyOf schema)).Nodup := by
  rw [List.Nodup, List.pairwise_map]
  apply List.Pairwise.imp_of_mem ?_ table.allRows_strict.nodup
  intro first second firstMember secondMember different same
  rcases stored_row firstMember with ⟨firstValid, firstFound⟩
  rcases stored_row secondMember with ⟨secondValid, secondFound⟩
  rw [same, secondFound] at firstFound
  apply different
  rw [firstValid.parts, secondValid.parts, same, Option.some.inj firstFound]

theorem TableLock.mem_allRows_iff {table : TableLock schema} {row : Row S} :
    row ∈ table.allRows <->
      ValidRow schema row ∧ table.rows[keyOf schema row]? = some (valuesOf schema row) := by
  constructor
  · exact stored_row
  · rintro ⟨valid, found⟩
    exact table.mem_allRows.mpr ⟨_, _, found, valid.parts⟩

/-- Replaying rows of distinct keys binds the keys of these rows. -/
theorem replay_rows {rows : List (Row S)} (distinct : (rows.map (keyOf schema)).Nodup)
    (view : View (Key S) (List S.Value)) :
    (forall row, row ∈ rows -> replay (rows.map (rowCell schema)) view (keyOf schema row) =
      some (valuesOf schema row)) ∧
    forall key, (forall row, row ∈ rows -> keyOf schema row ≠ key) ->
      replay (rows.map (rowCell schema)) view key = view key := by
  constructor
  · intro row member
    exact replay_map_of_mem (keyOf schema) (fun _ _ => rfl) distinct member view
  · intro key absent
    exact replay_map_of_not_mem (keyOf schema) (fun _ _ => rfl) absent view

/-- A table loaded from empty holds exactly the rows it was loaded with. -/
theorem loaded_rows {rows : List (Row S)} (valid : forall row, row ∈ rows -> ValidRow schema row)
    (distinct : (rows.map (keyOf schema)).Nodup) {table : TableLock schema}
    (loaded : bindings table =
      replay (rows.map (rowCell schema)) (bindings (TableLock.empty : TableLock schema)))
    (row : Row S) : row ∈ table.allRows <-> row ∈ rows := by
  rcases replay_rows distinct (bindings (TableLock.empty : TableLock schema)) with ⟨inside, outside⟩
  rw [← loaded] at inside outside
  rw [TableLock.mem_allRows_iff]
  constructor
  · rintro ⟨rowValid, found⟩
    by_contra absent
    have unbound : bindings table (keyOf schema row) = none := by
      apply (outside (keyOf schema row) ?_).trans Std.ExtTreeMap.getElem?_empty
      intro other member same
      have here := inside other member
      rw [same] at here
      apply absent
      rw [rowValid.parts, ← Option.some.inj (here.symm.trans found), ← same, ← (valid other member).parts]
      exact member
    cases unbound.symm.trans found
  · intro member
    exact ⟨valid row member, inside row member⟩

end Table
end TransactionalCollection
