import TransactionalCollection.Collection.Encode
import TransactionalCollection.Collection.Slices
import TransactionalCollection.Table.Atomicity

namespace TransactionalCollection
namespace Contract

open Native Execution Persistence Streaming Collection

/-!
# Encoding and decoding a collection

What a transaction sees of a collection, encoded and decoded again, is a
collection of its own with the same columns and the same contents, which it shows
to every transaction in natural order.
-/

/-- Decoding undoes encoding: of a tree with named columns, through any bounds and
in either direction, and of a table, whole or through a view in natural order. -/
theorem decode_undoes_encode {S : Signature} (codec : Codec S) (forms : ValueForms S) :
    (forall (collate : StreamOps) (native : Tree.BTreeSchema S) (view : BTreeView forms native)
      (txn : TxnId), Tree.BTreeSchema.optCastFrom view.schema = some native ->
      exists document payload, (view.intoView collate txn).1.intoStream codec = .ok document ∧
        Tree.decodePayload codec forms document = .ok payload ∧
        payload.schema = view.schema ∧ payload.native = native ∧
        forall later, (payload.collection.keys collate later).1 =
          forward view.reverse (view.keys collate txn).1) ∧
    forall (ops : Table.TableOps S) (schema : Table.TableSchema S) (reverse : Bool)
      (handle : Table.Handle schema) (txn : TxnId), schema.Constructed -> handle.Natural ops reverse ->
      exists rows view payload, (handle.rowStream ops txn).1 = .ok rows ∧
        (handle.intoView ops forms txn).1 = .ok view ∧
        Table.decodePayload codec forms (view.intoStream codec forms) = .ok payload ∧
        Table.SameSemantics handle.semanticSchema payload.schema ∧
        forall later, (payload.table.rowStream ops later).1 = .ok (forward reverse rows) := by
  constructor
  · intro collate native view txn described
    rcases view.decode_encode codec collate txn described with ⟨document, tree, encoded, decoded, holds⟩
    exact ⟨document, _, encoded, decoded, rfl, rfl, Tree.keys_loaded collate holds⟩
  · intro ops schema reverse handle txn constructed natural
    have streamed := natural.rowStream_eq txn
    have listing := natural.listing txn
    rcases Table.Handle.decode_encode codec forms streamed listing
      (natural.constructed constructed) with ⟨view, decoded, table, viewed, done, same, holds⟩
    refine ⟨handle.listed ops txn, view, _, streamed, viewed, done, same, ?_⟩
    intro later
    have loaded := (Table.TableSource.localTable table).rows_eq (ops.plan_default decoded) later false
    rw [listing.listed holds] at loaded
    exact loaded

/-! ## Concrete collections -/

/-- A column of tuples. -/
def pairColumn : Tree.BTreeColumnSchema ValueForms.data := ⟨"pair", DatumType.tuple, none⟩

def pairTree : Tree.BTreeSchema Signature.data where
  storage := {}
  keyArity := 1
  keyTypes := some [DatumType.tuple]
  arity_pos := Nat.one_pos
  arity_types := by
    intro types same
    cases same
    rfl

/-- A tuple of one number, as the only column of a key, in a view the wrong way
round. -/
def pairs : BTreeView ValueForms.data pairTree where
  schema := [pairColumn]
  btree := finalState (Tree.insertRow 1 [Datum.tuple [Datum.number 7]]
    (CollectionOwner.new Tree.BTreeLock.empty))
  bounds := Bounds.all
  reverse := true

/-- The key column of the labelled rows. -/
def labels : Table.TableSchema Signature.data where
  key := ["key"]
  values := []
  primary :=
    { columnNames := ["key"]
      columnTypes := [DatumType.number]
      storage := {}
      columns_pos := Table.labelledSchema.key_pos
      types_length := rfl }
  indices := []
  key_pos := Table.labelledSchema.key_pos
  primary_names := rfl
  indices_names := Table.labelledSchema.indices_names

/-- The labels of the first row from the end. -/
def lastLabel : Table.Selection Table.labelledSchema where
  source := ⟨.file Table.unfinished.owner, Table.Range.default, [], true⟩
  schema := labels
  columns := ["key"]
  limit := some 1

theorem decode_undoes_encode_data :
    (exists document payload,
      (pairs.intoView StreamOps.reference 1).1.intoStream (Codec.documents Signature.data) = .ok document ∧
      Tree.decodePayload (Codec.documents Signature.data) ValueForms.data document = .ok payload ∧
      payload.schema = pairs.schema ∧ payload.native = pairTree ∧
      forall later, (payload.collection.keys StreamOps.reference later).1 =
        forward true (pairs.keys StreamOps.reference 1).1) ∧
    exists rows view payload,
      ((Table.Handle.selection lastLabel).rowStream Table.TableOps.reference 1).1 = .ok rows ∧
      ((Table.Handle.selection lastLabel).intoView Table.TableOps.reference ValueForms.data 1).1 = .ok view ∧
      Table.decodePayload (Codec.documents Signature.data) ValueForms.data
          (view.intoStream (Codec.documents Signature.data) ValueForms.data) = .ok payload ∧
      Table.SameSemantics labels payload.schema ∧
      forall later, (payload.table.rowStream Table.TableOps.reference later).1 = .ok (forward true rows) := by
  have described : Tree.BTreeSchema.optCastFrom pairs.schema = some pairTree := rfl
  have constructed : Table.labelledSchema.Constructed :=
    ⟨[⟨"key", DatumType.number⟩], [⟨"value", DatumType.number⟩], [], {}, rfl⟩
  have selected : Table.labelledSchema.project ["key"] = .ok (lastLabel.schema, lastLabel.columns) := rfl
  have natural : (Table.Handle.selection lastLabel).Natural Table.TableOps.reference true :=
    .selection ⟨rfl, rfl⟩ selected (by decide)
  rcases decode_undoes_encode (Codec.documents Signature.data) ValueForms.data with ⟨trees, tables⟩
  exact ⟨trees StreamOps.reference pairTree pairs 1 described,
    tables Table.TableOps.reference Table.labelledSchema true (.selection lastLabel) 1 constructed natural⟩

end Contract
end TransactionalCollection
