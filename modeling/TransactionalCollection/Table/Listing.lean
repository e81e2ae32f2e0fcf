import TransactionalCollection.Table.ViewReads

namespace TransactionalCollection
namespace Table

open Std Layering Native Execution Persistence Streaming

/-!
# Rows in natural order

Natural order compares the keys of rows, and where keys differ they decide how
the whole rows compare.  So a listing, that is valid rows in natural order, is
determined by the rows in it, whatever schema it was listed under.
-/

variable {S : Signature} {schema : TableSchema S}

/-- Where the first columns compare as less, the rows do. -/
theorem compare_of_take {count : Nat} {left right : Row S}
    (less : compare (left.take count) (right.take count) = .lt) : compare left right = .lt := by
  induction count generalizing left right with
  | zero =>
      rw [List.take_zero, List.take_zero, List.compare_nil_nil] at less
      cases less
  | succ count inductionHypothesis =>
      cases left with
      | nil =>
          cases right with
          | nil => exact less
          | cons second right => rfl
      | cons first left =>
          cases right with
          | nil => exact less
          | cons second right =>
              rw [List.take_succ_cons, List.take_succ_cons, List.compare_cons_cons] at less
              rw [List.compare_cons_cons]
              cases compared : compare first second with
              | lt => rfl
              | gt =>
                  rw [compared] at less
                  cases less
              | eq =>
                  rw [compared] at less
                  exact inductionHypothesis less

/-- Valid rows in natural order. -/
structure Listing (schema : TableSchema S) (rows : List (Row S)) : Prop where
  valid : forall row, row ∈ rows -> ValidRow schema row
  strict : StrictlyAscending (fun first second => compare (keyOf schema first) (keyOf schema second)) rows

namespace Listing

variable {rows : List (Row S)}

theorem rows_strict (listing : Listing schema rows) : StrictlyAscending compare rows :=
  listing.strict.imp compare_of_take

/-- Listings of the same rows are the same, also under different schemas. -/
theorem ext {otherSchema : TableSchema S} {others : List (Row S)} (listing : Listing schema rows)
    (other : Listing otherSchema others) (same : forall row, row ∈ rows <-> row ∈ others) :
    rows = others :=
  listing.rows_strict.ext other.rows_strict same

theorem keys_nodup (listing : Listing schema rows) : (rows.map (keyOf schema)).Nodup := by
  have strict : StrictlyAscending compare (rows.map (keyOf schema)) :=
    List.pairwise_map.mpr listing.strict
  exact strict.nodup

theorem sublist {part : List (Row S)} (listing : Listing schema rows) (within : part.Sublist rows) :
    Listing schema part :=
  ⟨fun row member => listing.valid row (within.subset member), listing.strict.sublist within⟩

/-- The first rows one way are rows in natural order. -/
theorem take {reverse : Bool} (listing : Listing schema (forward reverse rows)) (limit : Nat) :
    Listing schema (forward reverse (rows.take limit)) := by
  apply listing.sublist
  cases reverse with
  | false => exact List.take_sublist limit rows
  | true => exact (List.take_sublist limit rows).reverse

end Listing

/-- A row is valid if it has the columns of the schema, in their types. -/
theorem validRow_iff {row : Row S} :
    ValidRow schema row <-> row.length = schema.columns.length ∧ Typed row schema.primary.columnTypes := by
  have split : forall pair, pair ∈ row.zip schema.primary.columnTypes <->
      pair ∈ (keyOf schema row).zip schema.keyTypes ∨ pair ∈ (valuesOf schema row).zip schema.valueTypes := by
    intro pair
    simp only [keyOf, valuesOf, TableSchema.keyTypes, TableSchema.valueTypes, List.zip_eq_zipWith]
    rw [← List.take_zipWith, ← List.drop_zipWith, ← List.mem_append, List.take_append_drop]
  have typed : Typed row schema.primary.columnTypes <->
      Typed (keyOf schema row) schema.keyTypes ∧ Typed (valuesOf schema row) schema.valueTypes := by
    unfold Typed
    simp only [split, or_imp, forall_and]
  have width : row.length = schema.columns.length <->
      (keyOf schema row).length = schema.key.length ∧
        (valuesOf schema row).length = schema.values.length := by
    rw [keyOf, valuesOf, List.length_take, List.length_drop, TableSchema.columns, List.length_append]
    omega
  rw [width, typed]
  constructor
  · intro valid
    exact ⟨⟨valid.key.1, valid.values.1⟩, valid.key.2, valid.values.2⟩
  · intro both
    exact ⟨⟨both.1.1, both.2.1⟩, ⟨both.1.2, both.2.2⟩, (List.take_append_drop ..).symm⟩

/-! ## Sources list in natural order -/

theorem ValidRow.long {row : Row S} (valid : ValidRow schema row) : schema.key.length <= row.length := by
  rw [(validRow_iff.mp valid).1, TableSchema.columns, List.length_append]
  exact Nat.le_add_right _ _

theorem TableSource.listed_valid (source : TableSource schema) {ops : TableOps S} {txn : TxnId}
    {range : Range S} {order : List S.Id} {reverse : Bool} {row : Row S}
    (member : row ∈ source.listed ops txn range order reverse) : ValidRow schema row := by
  cases source with
  | file owner => exact scanned_valid ops member
  | localTable table => exact (table.stored_row ((table.mem_sortedRows ..).mp member).1).1

theorem TableSource.listing (source : TableSource schema) (ops : TableOps S) (txn : TxnId)
    (range : Range S) (reverse : Bool) :
    Listing schema (forward reverse (source.listed ops txn range [] reverse)) := by
  have valid : forall row, row ∈ forward reverse (source.listed ops txn range [] reverse) ->
      ValidRow schema row :=
    fun row member => source.listed_valid (mem_forward.mp member)
  have natural : StrictlyAscending (RowCollator.forOrder schema [] false).cmp
      (forward reverse (source.listed ops txn range [] reverse)) := by
    have strict := source.listed_strict ops txn range reverse
    cases reverse with
    | false => exact strict
    | true => exact strict.reversed (RowCollator.cmp_reverse schema [])
  refine ⟨valid, List.Pairwise.imp_of_mem ?_ natural⟩
  intro first second firstMember secondMember less
  rwa [natural_cmp (valid first firstMember).long (valid second secondMember).long] at less

/-- What a source shows decides what it lists, whatever its layers and schema. -/
theorem TableSource.listed_of_view {otherSchema : TableSchema S} (first : TableSource schema)
    (second : TableSource otherSchema) (ops : TableOps S) {txn other : TxnId} (apart : first.Apart txn)
    (otherApart : second.Apart other) (same : first.view txn = second.view other) :
    first.listed ops txn Range.default [] false = second.listed ops other Range.default [] false := by
  have unbounded : forall schema : TableSchema S, Range.OnKeys (Range.default : Range S) schema :=
    fun _ _ _ => rfl
  apply Listing.ext (first.listing ops txn Range.default false)
    (second.listing ops other Range.default false)
  intro row
  rw [mem_forward, mem_forward, mem_listed_iff first apart (unbounded schema),
    mem_listed_iff second otherApart (unbounded otherSchema), same, schema.admits_default,
    otherSchema.admits_default]

end Table
end TransactionalCollection
