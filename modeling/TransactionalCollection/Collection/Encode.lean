import TransactionalCollection.BTree.Payload
import TransactionalCollection.Collection.View
import TransactionalCollection.Table.Payload

namespace TransactionalCollection

open Native Execution Persistence Streaming

/-!
# Encoding what a transaction sees

A collection is encoded in two steps.  Its rows are streamed at a transaction,
together with the schema, and then the schema and the stream are encoded as a
sequence of two.  The rows of a tree with one column are unwrapped.
-/

variable {S : Signature}

/-! ## Terminal views -/

namespace Terminal

/-- What a transaction sees of a tree, prepared for encoding. -/
structure BTreeView (forms : ValueForms S) where
  schema : List (Tree.BTreeColumnSchema forms)
  keys : List (Key S)
  arity : Nat

/-- What a transaction sees of a table. -/
structure TableView (S : Signature) where
  schema : Table.TableSchema S
  rows : List S.Value

/-- The value which a row of the key stream is encoded as. -/
def rowValue (forms : ValueForms S) (arity : Nat) (row : Key S) : Except (Failure TCError) S.Value :=
  if row.length ≠ arity then
    .error (.error (.internal s!"BTree row arity {row.length} does not match schema arity {arity}"))
  else if arity = 1 then
    match row with
    | value :: _ => .ok value
    | [] => .error (.panic ⟨"unary BTree row"⟩)
  else .ok (forms.tuple row)

variable (codec : Codec S) {forms : ValueForms S}

/-- The stream is encoded up to the first row which is not as wide as the schema. -/
def BTreeView.intoStream (view : BTreeView forms) : Except (Failure TCError) codec.Document := do
  let keys <- view.keys.mapM (rowValue forms view.arity)
  return codec.encodeSeq [
    codec.encodeSeq (view.schema.map (fun column => codec.encodeValue column.toValue)),
    codec.encodeSeq (keys.map codec.encodeValue)]

def TableView.intoStream (forms : ValueForms S) (view : TableView S) : codec.Document :=
  codec.encodeSeq [codec.encodeValue (view.schema.castFrom.toValue forms),
    codec.encodeSeq (view.rows.map codec.encodeValue)]

end Terminal

/-! ## `IntoView` -/

def Collection.BTreeView.intoView {forms : ValueForms S} {native : Tree.BTreeSchema S}
    (collate : StreamOps) (txn : TxnId) (view : Collection.BTreeView forms native) :
    Terminal.BTreeView forms × Collection.BTreeView forms native :=
  let outcome := Tree.keys collate txn view.bounds view.reverse view.btree
  (⟨view.schema, outcome.1, view.schema.length⟩, view.withTree outcome.2)

def Table.Handle.intoView {schema : Table.TableSchema S} (ops : Table.TableOps S) (forms : ValueForms S)
    (txn : TxnId) (handle : Table.Handle schema) :
    Except (Failure OpError) (Terminal.TableView S) × Table.Handle schema :=
  let outcome := handle.rowStream ops txn
  (outcome.1.map (fun rows => ⟨handle.semanticSchema, rows.map forms.tuple⟩), outcome.2)

/-- `decode_collection`, of a tree: the whole of it in natural order. -/
def Tree.DecodedBTreePayload.collection {forms : ValueForms S} (payload : Tree.DecodedBTreePayload forms) :
    Collection.BTreeView forms payload.native :=
  Collection.BTreeView.new payload.schema payload.btree

/-! ## Encoding and decoding a view -/

namespace Terminal

/-- A row as wide as the schema is encoded as the literal of its key. -/
theorem rowValue_eq (forms : ValueForms S) {arity : Nat} {row : Key S} (width : row.length = arity) :
    rowValue forms arity row = .ok (Tree.literal forms row) := by
  unfold rowValue
  rw [if_neg (not_not_intro width)]
  rcases Tree.literal_cases forms row with ⟨value, rfl, written⟩ | ⟨several, written⟩
  · have single : arity = 1 := width.symm
    rw [if_pos single, written]
  · have wide : arity ≠ 1 := by
      rw [← width]
      exact several
    rw [if_neg wide, written]

end Terminal

section RoundTrip

variable (codec : Codec S) {forms : ValueForms S}

/-- A view of a tree is encoded, and decoded to a tree of the keys which it streams. -/
theorem Collection.BTreeView.decode_encode {native : Tree.BTreeSchema S} (collate : StreamOps)
    (txn : TxnId) (view : Collection.BTreeView forms native)
    (described : Tree.BTreeSchema.optCastFrom view.schema = some native) :
    exists (document : codec.Document) (tree : Tree.BTreeLock native),
      (view.intoView collate txn).1.intoStream codec = .ok document ∧
      Tree.decodePayload codec forms document = .ok ⟨view.schema, native, CollectionOwner.new tree⟩ ∧
      forall key, key ∈ tree.keys <->
        key ∈ (Tree.keys collate txn view.bounds view.reverse view.btree).1 := by
  have valid : forall key, key ∈ (Tree.keys collate txn view.bounds view.reverse view.btree).1 ->
      native.ValidKey key := fun key => Tree.keys_valid
  have encoded : (Tree.keys collate txn view.bounds view.reverse view.btree).1.mapM
      (Terminal.rowValue forms view.schema.length) =
      .ok ((Tree.keys collate txn view.bounds view.reverse view.btree).1.map (Tree.literal forms)) := by
    apply mapM_eq_map
    intro key member
    apply Terminal.rowValue_eq
    rw [(valid key member).1, Tree.BTreeSchema.arity_of_optCastFrom described]
  rcases Tree.decodePayload_encoded codec forms described valid with ⟨tree, decoded, holds⟩
  refine ⟨_, tree, ?_, decoded, holds⟩
  apply except_bind_eq_ok.mpr
  refine ⟨_, encoded, ?_⟩
  rw [List.map_map]
  rfl

/-- A view of a table which streams a listing is encoded, and decoded to a table
of the rows of the listing. -/
theorem Table.Handle.decode_encode (forms : ValueForms S) {schema : Table.TableSchema S}
    {ops : Table.TableOps S} {txn : TxnId}
    {reverse : Bool} {handle : Table.Handle schema} {rows : List (Row S)}
    (streamed : (handle.rowStream ops txn).1 = .ok rows)
    (listing : Table.Listing handle.semanticSchema (forward reverse rows))
    (constructed : handle.semanticSchema.Constructed) :
    exists (view : Terminal.TableView S) (decoded : Table.TableSchema S) (table : Table.TableLock decoded),
      (handle.intoView ops forms txn).1 = .ok view ∧
      Table.decodePayload codec forms (view.intoStream codec forms) = .ok ⟨decoded, .localTable table⟩ ∧
      Table.SameSemantics handle.semanticSchema decoded ∧ forall row, row ∈ table.allRows <-> row ∈ rows := by
  rcases Table.decodePayload_encoded codec forms constructed listing with ⟨decoded, same, table, done, holds⟩
  refine ⟨⟨handle.semanticSchema, rows.map forms.tuple⟩, decoded, table, ?_, ?_, same, holds⟩
  · rw [Table.Handle.intoView, streamed]
    rfl
  · rw [Terminal.TableView.intoStream, List.map_map]
    exact done

end RoundTrip

end TransactionalCollection
