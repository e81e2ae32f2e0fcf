import TransactionalCollection.Native.Columns
import TransactionalCollection.Table.Listing

namespace TransactionalCollection
namespace Table

open Native Streaming

/-!
# Projected rows

A selection keeps all key columns and some of the others, in row order.  If the
names it keeps are distinct, a row of the selection is the row of the table with
the other columns left out: it is valid for the projected schema, and its key is
the key it had.
-/

variable {S : Signature}

namespace TableSchema

/-- What a constructed schema is made of. -/
theorem new_eq_ok {key values : List (Column S)} {indices : List (String × List S.Id)}
    {storage : StorageConfig} {schema : TableSchema S} (built : new key values indices storage = .ok schema) :
    schema.key = key.map Column.name ∧ schema.values = values.map Column.name ∧
      schema.primary.columnTypes = (key ++ values).map Column.dtype ∧
      exists auxiliary, indices.mapM (newIndex key values storage) = .ok auxiliary ∧
        schema.indices = auxiliary.map Subtype.val := by
  unfold new at built
  split at built
  · cases built
  · split at built
    · cases built
    · rename_i primary primaryBuilt
      cases found : indices.mapM (newIndex key values storage) with
      | error error =>
          rw [found] at built
          cases built
      | ok auxiliary =>
          rw [found] at built
          cases built
          exact ⟨rfl, rfl, (TableIndexSchema.new_eq_ok primaryBuilt).2.1, auxiliary, rfl, rfl⟩

theorem columnSchema_names (schema : TableSchema S) :
    schema.columnSchema.map Column.name = schema.columns := by
  have width : schema.columns.length <= schema.primary.columnTypes.length := by
    rw [schema.primary.types_length, schema.primary_names]
    exact Nat.le_refl _
  rw [columnSchema, ← List.map_uncurry_zip_eq_zipWith, List.map_map]
  exact List.map_fst_zip width

theorem columnSchema_types (schema : TableSchema S) :
    schema.columnSchema.map Column.dtype = schema.primary.columnTypes := by
  have width : schema.primary.columnTypes.length <= schema.columns.length := by
    rw [schema.primary.types_length, schema.primary_names]
    exact Nat.le_refl _
  rw [columnSchema, ← List.map_uncurry_zip_eq_zipWith, List.map_map]
  exact List.map_snd_zip width

theorem selected_names (schema : TableSchema S) (columns : List S.Id) :
    (schema.selected columns).map Column.name =
      schema.columns.filter (fun name => decide (name ∈ columns)) := by
  rw [selected, ← schema.columnSchema_names, List.filter_map]
  rfl

theorem selected_types (schema : TableSchema S) (columns : List S.Id) :
    (schema.selected columns).map Column.dtype =
      kept (fun name => decide (name ∈ columns)) schema.columns schema.primary.columnTypes := by
  rw [selected, columnSchema, ← List.map_uncurry_zip_eq_zipWith, List.filter_map, List.map_map]
  rfl

/-- A projected schema has the kept columns, all key columns among them. -/
theorem project_eq_ok {schema projected : TableSchema S} {columns names : List S.Id}
    (selected : schema.project columns = .ok (projected, names)) :
    names = schema.columns.filter (fun name => decide (name ∈ columns)) ∧
      (forall name, name ∈ schema.key -> name ∈ columns) ∧
      new ((schema.selected columns).take schema.key.length)
        ((schema.selected columns).drop schema.key.length) [] schema.storage = .ok projected := by
  unfold project at selected
  split at selected
  · cases selected
  · split at selected
    · cases selected
    · rename_i complete
      change ((do
        let projected <- new ((schema.selected columns).take schema.key.length)
          ((schema.selected columns).drop schema.key.length) [] schema.storage
        return (projected, (schema.selected columns).map Column.name) :
          Except TCError (TableSchema S × List S.Id))) = _ at selected
      cases built : new ((schema.selected columns).take schema.key.length)
          ((schema.selected columns).drop schema.key.length) [] schema.storage with
      | error error =>
          rw [built] at selected
          cases selected
      | ok result =>
          rw [built] at selected
          cases selected
          refine ⟨schema.selected_names columns, ?_, rfl⟩
          intro name member
          simpa using List.find?_eq_none.mp complete name member

end TableSchema

section Projection

variable {schema projected : TableSchema S} {columns names : List S.Id}

/-- The columns of a projected schema. -/
structure Projects (schema projected : TableSchema S) (columns : List S.Id) : Prop where
  columns_eq : projected.columns = schema.columns.filter (fun name => decide (name ∈ columns))
  types_eq : projected.primary.columnTypes =
    kept (fun name => decide (name ∈ columns)) schema.columns schema.primary.columnTypes
  key_eq : projected.key = schema.key
  complete : forall name, name ∈ schema.key -> name ∈ columns

theorem projects_of_project (selected : schema.project columns = .ok (projected, names)) :
    Projects schema projected columns ∧ names = projected.columns := by
  rcases TableSchema.project_eq_ok selected with ⟨same, complete, built⟩
  rcases TableSchema.new_eq_ok built with ⟨key, values, types, _⟩
  have columnsSame : projected.columns =
      schema.columns.filter (fun name => decide (name ∈ columns)) := by
    rw [TableSchema.columns, key, values, ← List.map_append, List.take_append_drop,
      schema.selected_names]
  have keys : schema.key.filter (fun name => decide (name ∈ columns)) = schema.key :=
    List.filter_eq_self.mpr (fun name member => decide_eq_true (complete name member))
  refine ⟨⟨columnsSame, ?_, ?_, complete⟩, same.trans columnsSame.symm⟩
  · rw [types, List.take_append_drop, schema.selected_types]
  · rw [key, List.map_take, schema.selected_names, TableSchema.columns, List.filter_append, keys,
      List.take_left]

namespace Projects

variable (projects : Projects schema projected columns)
include projects

/-- A row of the selection is the row with the other columns left out. -/
theorem projectRow_eq (distinct : projected.columns.Nodup) {row : Row S}
    (width : row.length = schema.columns.length) :
    projectRow (columnIndices schema projected.columns) row =
      kept (fun name => decide (name ∈ columns)) schema.columns row := by
  rw [projects.columns_eq] at distinct ⊢
  rw [projectRow, columnIndices, List.filterMap_filterMap]
  exact filterMap_under _ distinct width

theorem keyOf_kept {row : Row S} (width : row.length = schema.columns.length) :
    keyOf projected (kept (fun name => decide (name ∈ columns)) schema.columns row) = keyOf schema row := by
  rw [keyOf, keyOf, projects.key_eq]
  apply kept_take _ ?_ width
  intro name member
  have isKey : name ∈ schema.key := by
    rwa [TableSchema.columns, List.take_left] at member
  exact decide_eq_true (projects.complete name isKey)

theorem validRow_kept {row : Row S} (valid : ValidRow schema row) :
    ValidRow projected (kept (fun name => decide (name ∈ columns)) schema.columns row) := by
  rcases validRow_iff.mp valid with ⟨width, typed⟩
  apply validRow_iff.mpr
  constructor
  · rw [kept_length _ width, projects.columns_eq]
  · rw [projects.types_eq]
    exact fun pair member => typed pair (mem_zip_kept _ member)

/-- The rows of a selection are listed as those of its source. -/
theorem listing {rows : List (Row S)} (distinct : projected.columns.Nodup)
    (listing : Listing schema rows) :
    Listing projected (rows.map (projectRow (columnIndices schema projected.columns))) := by
  have eq : forall row, row ∈ rows -> projectRow (columnIndices schema projected.columns) row =
      kept (fun name => decide (name ∈ columns)) schema.columns row :=
    fun row member => projects.projectRow_eq distinct (validRow_iff.mp (listing.valid row member)).1
  constructor
  · intro row member
    rcases List.mem_map.mp member with ⟨source, listed, rfl⟩
    rw [eq source listed]
    exact projects.validRow_kept (listing.valid source listed)
  · rw [StrictlyAscending, List.pairwise_map]
    apply List.Pairwise.imp_of_mem ?_ listing.strict
    intro first second firstMember secondMember less
    rwa [eq first firstMember, eq second secondMember,
      projects.keyOf_kept (validRow_iff.mp (listing.valid first firstMember)).1,
      projects.keyOf_kept (validRow_iff.mp (listing.valid second secondMember)).1]

end Projects

end Projection

/-- Schemas come from their constructor. -/
def TableSchema.Constructed (schema : TableSchema S) : Prop :=
  exists key values indices storage, TableSchema.new key values indices storage = .ok schema

/-! ## Handles in natural order -/

/-- The slice keeps the natural order of its table, perhaps backwards, and an
index supports its range. -/
structure TableSlice.Natural {schema : TableSchema S} (ops : TableOps S) (slice : TableSlice schema) :
    Prop where
  order : slice.order = []
  supported : ops.plan schema slice.range [] = .ok ()

/-- The whole table, or a view of it in natural order.  The flag tells whether
the order is walked backwards. -/
inductive Handle.Natural {schema : TableSchema S} (ops : TableOps S) : Bool -> Handle schema -> Prop where
  | file (owner : PersistentTable schema) : Natural ops false (.file owner)
  | localTable (table : TableLock schema) : Natural ops false (.localTable table)
  | tableSlice {view : TableSlice schema} (natural : view.Natural ops) :
      Natural ops view.reverse (.tableSlice view)
  | limited {view : Limited schema} (natural : view.source.Natural ops) :
      Natural ops view.source.reverse (.limited view)
  | selection {view : Selection schema} {columns : List S.Id} (natural : view.source.Natural ops)
      (selected : schema.project columns = .ok (view.schema, view.columns))
      (distinct : view.schema.columns.Nodup) : Natural ops view.source.reverse (.selection view)

section Streams

variable {schema : TableSchema S} {ops : TableOps S}

theorem TableSlice.Natural.rows_eq {slice : TableSlice schema} (natural : slice.Natural ops) (txn : TxnId) :
    (slice.rows ops txn).1 = .ok (slice.table.listed ops txn slice.range [] slice.reverse) := by
  have streamed := slice.table.rows_eq natural.supported txn slice.reverse
  rwa [← natural.order] at streamed ⊢

/-- The rows which a handle in natural order streams. -/
def Handle.listed (ops : TableOps S) (txn : TxnId) : Handle schema -> List (Row S)
  | .file owner => (TableSource.file owner).listed ops txn Range.default [] false
  | .localTable table => (TableSource.localTable table).listed ops txn Range.default [] false
  | .tableSlice view => view.table.listed ops txn view.range [] view.reverse
  | .limited view =>
      (view.source.table.listed ops txn view.source.range [] view.source.reverse).take view.limit
  | .selection view =>
      (capped view.limit (view.source.table.listed ops txn view.source.range [] view.source.reverse)).map
        (projectRow (columnIndices schema view.columns))

theorem Handle.Natural.rowStream_eq {reverse : Bool} {handle : Handle schema}
    (natural : handle.Natural ops reverse) (txn : TxnId) :
    (handle.rowStream ops txn).1 = .ok (handle.listed ops txn) := by
  cases natural with
  | file owner => exact (TableSource.file owner).rows_eq (ops.plan_default schema) txn false
  | localTable table => exact (TableSource.localTable table).rows_eq (ops.plan_default schema) txn false
  | tableSlice natural => exact natural.rows_eq txn
  | @limited view natural =>
      change ((view.source.rows ops txn).1).map (List.take view.limit) = _
      rw [natural.rows_eq txn]
      rfl
  | @selection view columns natural selected distinct =>
      exact Selection.rows_of_streamed (natural.rows_eq txn)

/-- Such a handle streams a listing for its schema. -/
theorem Handle.Natural.listing {reverse : Bool} {handle : Handle schema}
    (natural : handle.Natural ops reverse)
    (txn : TxnId) : Listing handle.semanticSchema (forward reverse (handle.listed ops txn)) := by
  cases natural with
  | file owner => exact (TableSource.file owner).listing ops txn Range.default false
  | localTable table => exact (TableSource.localTable table).listing ops txn Range.default false
  | @tableSlice view natural => exact view.table.listing ops txn view.range view.reverse
  | @limited view natural =>
      exact (view.source.table.listing ops txn view.source.range view.source.reverse).take view.limit
  | @selection view columns natural selected distinct =>
      rcases projects_of_project selected with ⟨projects, names⟩
      have source := view.source.table.listing ops txn view.source.range view.source.reverse
      rw [listed, forward_map, names]
      apply projects.listing distinct
      cases view.limit with
      | none => exact source
      | some limit => exact source.take limit

/-- A view of a table with a constructed schema has one itself. -/
theorem Handle.Natural.constructed {reverse : Bool} {handle : Handle schema}
    (natural : handle.Natural ops reverse) (constructed : schema.Constructed) :
    handle.semanticSchema.Constructed := by
  cases natural with
  | file owner => exact constructed
  | localTable table => exact constructed
  | tableSlice natural => exact constructed
  | limited natural => exact constructed
  | selection natural selected distinct =>
      exact ⟨_, _, _, _, (TableSchema.project_eq_ok selected).2.2⟩

end Streams

end Table
end TransactionalCollection
