import TransactionalCollection.Native.Datum
import TransactionalCollection.Table.Projection

namespace TransactionalCollection
namespace Table

open Native Streaming

/-!
# Selections as tables

The schema of a selection keeps columns by name, each with its own type.  Its rows
are looked up by name, and of several columns of one name the first is found.  So
the rows are rows of that schema if and only if columns of one name hold one value.
-/

variable {S : Signature} {schema projected : TableSchema S} {columns names : List S.Id}

/-- `Rows::select`, of the rows which have been streamed. -/
def selectRows (schema : TableSchema S) (columns : List S.Id) (rows : List (Row S)) : List (Row S) :=
  rows.map (projectRow (columnIndices schema columns))

/-- The row with the columns left out which are not listed. -/
def keptRow (schema : TableSchema S) (columns : List S.Id) (row : Row S) : Row S :=
  kept columns.contains schema.columns row

/-- Listed columns of one name hold one value. -/
def OneValue (schema : TableSchema S) (columns : List S.Id) (row : Row S) : Prop :=
  forall name, name ∈ columns -> forall first second, (name, first) ∈ schema.columns.zip row ->
    (name, second) ∈ schema.columns.zip row -> first = second

/-- The selection of listed columns is a table of the selected rows. -/
structure Selection.WellFormed (slice : TableSlice schema) (columns : List S.Id) (selection : Selection schema)
    (rows : List (Row S)) : Prop where
  validKey : forall row, row ∈ selectRows schema selection.columns rows ->
    exists key, selection.schema.validateKey (keyOf selection.schema row) = .ok key
  validValues : forall row, row ∈ selectRows schema selection.columns rows ->
    exists values, selection.schema.validateValues (valuesOf selection.schema row) = .ok values
  carries : selectRows schema selection.columns rows = rows.map (keptRow schema columns)
  keepsKey : forall row, row ∈ rows ->
    keyOf selection.schema (projectRow (columnIndices schema selection.columns) row) = keyOf schema row
  distinct : ((selectRows schema selection.columns rows).map (keyOf selection.schema)).Nodup
  listed : forall other, (forall name, name ∈ other <-> name ∈ columns) -> slice.select other = .ok selection

namespace TableSchema

/-- A projection depends on which columns are listed only. -/
theorem project_congr {other : List S.Id} (same : forall name, name ∈ other <-> name ∈ columns)
    (selected : schema.project columns = .ok (projected, names)) :
    schema.project other = .ok (projected, names) := by
  have kept : schema.selected other = schema.selected columns := by
    apply List.filter_congr
    intro column _
    exact decide_eq_decide.mpr (same column.name)
  unfold project at selected ⊢
  split at selected
  · cases selected
  · rename_i known
    split at selected
    · cases selected
    · rename_i complete
      have knownOther : other.find? (fun column => decide (column ∉ schema.columns)) = none := by
        apply List.find?_eq_none.mpr
        intro name member
        exact List.find?_eq_none.mp known name ((same name).mp member)
      have completeOther : schema.key.find? (fun key => decide (key ∉ other)) = none := by
        apply List.find?_eq_none.mpr
        intro name member
        have listed := List.find?_eq_none.mp complete name member
        rw [decide_eq_true_eq, not_not] at listed ⊢
        exact (same name).mpr listed
      rw [knownOther, completeOther]
      dsimp only
      rw [kept]
      exact selected

end TableSchema

section Projection

variable {row : Row S} {rows : List (Row S)}

theorem keptRow_eq (schema : TableSchema S) (columns : List S.Id) (row : Row S) :
    keptRow schema columns row = kept (fun name => decide (name ∈ columns)) schema.columns row := by
  apply congrArg (fun keep => kept keep schema.columns row)
  funext name
  exact List.contains_eq_mem name columns

theorem Projects.projectRow_iff (projects : Projects schema projected columns)
    (width : row.length = schema.columns.length) :
    projectRow (columnIndices schema projected.columns) row = keptRow schema columns row <->
      OneValue schema columns row := by
  rw [projects.columns_eq, projectRow, columnIndices, List.filterMap_filterMap, keptRow_eq]
  apply (filterMap_under_iff _ width).trans
  simp only [OneItem, OneValue, decide_eq_true_eq]

theorem Projects.keptRow_valid (projects : Projects schema projected columns) (valid : ValidRow schema row) :
    (exists key, projected.validateKey (keyOf projected (keptRow schema columns row)) = .ok key) ∧
      (exists values, projected.validateValues (valuesOf projected (keptRow schema columns row)) = .ok values) ∧
      keyOf projected (keptRow schema columns row) = keyOf schema row := by
  rw [keptRow_eq]
  have validKept := projects.validRow_kept valid
  refine ⟨?_, ?_, projects.keyOf_kept (validRow_iff.mp valid).1⟩
  · exact ⟨_, TableSchema.validateKey_eq_ok_iff.mpr ⟨validKept.key, rfl⟩⟩
  · exact ⟨_, TableSchema.validateValues_eq_ok_iff.mpr ⟨validKept.values, rfl⟩⟩

end Projection

namespace TableSlice

variable {slice : TableSlice schema} {selection : Selection schema} {rows : List (Row S)}

/-- The selected rows are what is kept of them if and only if, in each, columns of
one name hold one value. -/
theorem selectRows_eq_iff (selected : slice.select columns = .ok selection)
    (valid : forall row, row ∈ rows -> ValidRow schema row) :
    selectRows schema selection.columns rows = rows.map (keptRow schema columns) <->
      forall row, row ∈ rows -> OneValue schema columns row := by
  rcases projects_of_project (select_projects selected).1 with ⟨projects, names⟩
  rw [selectRows, List.map_inj_left, names]
  apply forall₂_congr
  intro row member
  exact projects.projectRow_iff (validRow_iff.mp (valid row member)).1

/-- A selection streams the selected rows, and is a table of them if and only if,
in each, listed columns of one name hold one value. -/
theorem select_wellFormed_iff (selected : slice.select columns = .ok selection)
    (valid : forall row, row ∈ rows -> ValidRow schema row) (distinct : (rows.map (keyOf schema)).Nodup) :
    (forall ops txn, (slice.rows ops txn).1 = .ok rows ->
      (selection.rows ops txn).1 = .ok (selectRows schema selection.columns rows)) ∧
    (selection.WellFormed slice columns rows <-> forall row, row ∈ rows -> OneValue schema columns row) := by
  rcases select_projects selected with ⟨projectedOk, built⟩
  rcases projects_of_project projectedOk with ⟨projects, names⟩
  constructor
  · intro ops txn streamed
    have source : selection.source = slice := congrArg Selection.source built
    have unlimited : selection.limit = none := congrArg Selection.limit built
    have streamedSource : (selection.source.rows ops txn).1 = .ok rows := by
      rw [source]
      exact streamed
    have rowsSelected := Selection.rows_of_streamed streamedSource
    rw [unlimited] at rowsSelected
    exact rowsSelected
  · rw [← selectRows_eq_iff selected valid]
    constructor
    · exact Selection.WellFormed.carries
    · intro carries
      have one : forall row, row ∈ rows ->
          projectRow (columnIndices schema selection.columns) row = keptRow schema columns row :=
        List.map_inj_left.mp carries
      have keys : (selectRows schema selection.columns rows).map (keyOf selection.schema) =
          rows.map (keyOf schema) := by
        rw [carries, List.map_map]
        apply List.map_congr_left
        intro row member
        exact (projects.keptRow_valid (valid row member)).2.2
      refine ⟨?_, ?_, carries, ?_, ?_, ?_⟩
      · intro row member
        rw [carries] at member
        rcases List.mem_map.mp member with ⟨source, listed, rfl⟩
        exact (projects.keptRow_valid (valid source listed)).1
      · intro row member
        rw [carries] at member
        rcases List.mem_map.mp member with ⟨source, listed, rfl⟩
        exact (projects.keptRow_valid (valid source listed)).2.1
      · intro row member
        rw [one row member]
        exact (projects.keptRow_valid (valid row member)).2.2
      · rw [keys]
        exact distinct
      · intro other same
        rw [select, TableSchema.project_congr same projectedOk, built]
        rfl

end TableSlice

/-! ## Two columns of one name -/

def keyColumn : List Signature.data.Id := ["key"]

theorem keyColumn_pos : keyColumn ≠ [] := List.cons_ne_nil _ _

theorem doubledColumns_pos : ["key", "value", "value"] ≠ [] := List.cons_ne_nil _ _

theorem keyColumn_width : [DatumType.number].length = keyColumn.length := rfl

theorem doubledColumns_width :
    [DatumType.number, DatumType.number, DatumType.text].length = ["key", "value", "value"].length := rfl

theorem keyColumn_indices : forall index : String × TableIndexSchema Signature.data, index ∈ [] ->
    exists columns, index.2.columnNames = columns ++ keyColumn := by
  intro index impossible
  cases impossible

/-- A key, and a number and a text which are both called value. -/
def doubledSchema : TableSchema Signature.data where
  key := ["key"]
  values := ["value", "value"]
  primary :=
    { columnNames := ["key", "value", "value"]
      columnTypes := [DatumType.number, DatumType.number, DatumType.text]
      storage := {}
      columns_pos := doubledColumns_pos
      types_length := doubledColumns_width }
  indices := []
  key_pos := keyColumn_pos
  primary_names := rfl
  indices_names := keyColumn_indices

def doubledColumns : List (Column Signature.data) := [⟨"value", DatumType.number⟩, ⟨"value", DatumType.text⟩]

theorem doubledSchema_new :
    TableSchema.new [⟨"key", DatumType.number⟩] doubledColumns [] {} = .ok doubledSchema := rfl

def doubledRow : Row Signature.data := [Datum.number 1, Datum.number 2, Datum.text "x"]

theorem doubledRow_valid : forall row, row ∈ [doubledRow] -> ValidRow doubledSchema row := by
  intro row member
  rw [List.mem_singleton.mp member]
  exact ⟨by decide, by decide, rfl⟩

/-- A table with two columns of one name. -/
def doubled : TableSlice doubledSchema := ⟨.localTable TableLock.empty, Range.default, [], false⟩

/-- The key column on its own. -/
def keysSchema : TableSchema Signature.data where
  key := ["key"]
  values := []
  primary :=
    { columnNames := ["key"]
      columnTypes := [DatumType.number]
      storage := {}
      columns_pos := keyColumn_pos
      types_length := keyColumn_width }
  indices := []
  key_pos := keyColumn_pos
  primary_names := rfl
  indices_names := keyColumn_indices

def doubledKeys : Selection doubledSchema := ⟨doubled, keysSchema, ["key"], none⟩

theorem select_wellFormed_iff_doubled : doubled.select ["key"] = .ok doubledKeys ∧
    (doubledKeys.WellFormed doubled ["key"] [doubledRow] <->
      forall row, row ∈ [doubledRow] -> OneValue doubledSchema ["key"] row) :=
  ⟨rfl, (TableSlice.select_wellFormed_iff rfl doubledRow_valid (List.nodup_singleton _)).2⟩

def doubledValues : Selection doubledSchema := ⟨doubled, doubledSchema, ["key", "value", "value"], none⟩

def numberTwice : Row Signature.data := [Datum.number 1, Datum.number 2, Datum.number 2]

/-- Both columns are selected, and the number is found for both. -/
theorem not_wellFormed_doubled : TableSchema.Constructed doubledSchema ∧
    doubled.select ["key", "value"] = .ok doubledValues ∧
    (forall row, row ∈ [doubledRow] -> ValidRow doubledSchema row) ∧
    ([doubledRow].map (keyOf doubledSchema)).Nodup ∧
    selectRows doubledSchema doubledValues.columns [doubledRow] = [numberTwice] ∧
    ¬ doubledValues.WellFormed doubled ["key", "value"] [doubledRow] := by
  refine ⟨⟨_, _, _, _, doubledSchema_new⟩, rfl, doubledRow_valid, List.nodup_singleton _, by decide +kernel, ?_⟩
  intro formed
  have carried := formed.carries
  revert carried
  decide +kernel

end Table
end TransactionalCollection
