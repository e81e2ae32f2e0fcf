import TransactionalCollection.Table.Projection

namespace TransactionalCollection
namespace Table

open Layering Native Execution Persistence Streaming

/-!
# Literal rows of a table

A row which is loaded without a transaction goes to canonical storage at once.
Loaded with the rows of a listing, in whichever direction, a new table lists
them, and a transactional table over it shows them to every transaction.
-/

variable {S : Signature} {schema : TableSchema S}

def loadLiteralRow (row : List S.Value) : EStateM IoError (PersistentTable schema) PUnit := fun owner =>
  if row.length ≠ schema.columnCount then .error (.invalidData "invalid Table row") owner
  else
    CollectionOwner.onPersistent (upsert (row.take schema.key.length) (row.drop schema.key.length)) owner

theorem loadLiteralRow_loads {row : Row S} (valid : ValidRow schema row) {before after : TableLock schema}
    (done : loadRow row before = .ok ⟨⟩ after) :
    loadLiteralRow row (CollectionOwner.new before : PersistentTable schema) =
      .ok ⟨⟩ (CollectionOwner.new after) := by
  have width : row.length = schema.columnCount := by
    rw [(validRow_iff.mp valid).1, TableSchema.columns, List.length_append, TableSchema.columnCount]
  rw [loadLiteralRow, if_neg (not_not_intro width)]
  exact CollectionOwner.onPersistent_new done

/-! ## Loading a listing -/

/-- Any loop which loads the rows of a listing into an empty table loads exactly
these rows. -/
theorem Listing.loads {I E T : Type} {embed : TableLock schema -> T} {write : Row S -> I}
    {load : I -> EStateM E T PUnit} {reverse : Bool} {rows : List (Row S)}
    (listing : Listing schema (forward reverse rows))
    (loads : forall row, row ∈ rows -> forall before after, loadRow row before = .ok ⟨⟩ after ->
      load (write row) (embed before) = .ok ⟨⟩ (embed after)) :
    exists table : TableLock schema,
      forM (rows.map write) load (embed TableLock.empty) = .ok ⟨⟩ (embed table) ∧
        forall row, row ∈ table.allRows <-> row ∈ rows := by
  have valid : forall row, row ∈ rows -> ValidRow schema row :=
    fun row member => listing.valid row (mem_forward.mpr member)
  have distinct : (rows.map (keyOf schema)).Nodup := by
    apply nodup_forward.mp
    rw [forward_map]
    exact listing.keys_nodup
  rcases loadAll_of_valid valid TableLock.empty with ⟨table, loaded, bound⟩
  exact ⟨table, forM_embeds loads loaded, loaded_rows valid distinct bound⟩

/-- A table loaded with a listing lists it. -/
theorem Listing.listed {reverse : Bool} {rows : List (Row S)}
    (listing : Listing schema (forward reverse rows))
    {target : TableSchema S} {table : TableLock target}
    (holds : forall row, row ∈ table.allRows <-> row ∈ rows)
    (ops : TableOps S) (txn : TxnId) :
    (TableSource.localTable table).listed ops txn Range.default [] false = forward reverse rows := by
  have loaded := (TableSource.localTable table).listing ops txn Range.default false
  apply loaded.ext listing
  intro row
  rw [mem_forward, mem_forward, ← holds]
  change row ∈ table.sortedRows Range.default [] false <-> _
  rw [table.sortedRows_default]

end Table
end TransactionalCollection
