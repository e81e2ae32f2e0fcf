import TransactionalCollection.BTree.Literal
import TransactionalCollection.Collection.View
import TransactionalCollection.Table.Cast
import TransactionalCollection.Table.Copy

namespace TransactionalCollection
namespace Collection

open Native Execution Persistence Streaming

/-!
# Copies and hashes

Copying and hashing a collection read the same stream.  A copy loads it into new
storage, row by row, and a hash digests it together with the class and the
schema of the collection.  In natural order the stream is determined by the rows
in it, so neither can tell how these rows are layered in the collection.
-/

variable {S : Signature} {forms : ValueForms S}

/-! ## Schemas -/

inductive CollectionSchema (forms : ValueForms S) where
  | btree (columns : List (Tree.BTreeColumnSchema forms))
  | table (schema : Table.TableSchema S)

/-- The path of the class, and the schema as a value. -/
def CollectionSchema.toPair : CollectionSchema forms -> List String × S.Value
  | .btree columns =>
      (["state", "collection", "btree"], forms.tuple (columns.map Tree.BTreeColumnSchema.toValue))
  | .table schema => (["state", "collection", "table"], schema.castFrom.toValue forms)

section Operations

variable {native : Tree.BTreeSchema S} {tableSchema : Table.TableSchema S} {Tensor : Type}

/-- What is answered wherever a tensor would have to be persistent. -/
def tensorUnsupported : TCError := .badRequest "persistent Tensor values are not supported"

def schema : Collection forms native tableSchema Tensor -> Except TCError (CollectionSchema forms)
  | .btree view => .ok (.btree view.schema)
  | .table handle => .ok (.table handle.semanticSchema)
  | .tensor _ => .error tensorUnsupported

/-! ## Copies -/

namespace BTreeView

/-- Load a key.  The key of a single column is unwrapped. -/
def copyRow (forms : ValueForms S) (columns : Nat) (key : Key S) :
    EStateM (Failure OpError) (Tree.BTree native) PUnit :=
  let load := fun row => mapError (fun error => .error (.io error)) (Tree.loadLiteralRow forms row)
  if columns = 1 then
    match key with
    | value :: _ => load value
    | [] => throw (.panic ⟨"removal index (is 0) should be < len (is 0)"⟩)
  else load (forms.tuple key)

/-- Load the visible keys into a new tree. -/
def copyInto (collate : StreamOps) (txn : TxnId) (view : BTreeView forms native) :
    Except (Failure OpError) ((copied : Tree.BTreeSchema S) × BTreeView forms copied) ×
      BTreeView forms native :=
  match Tree.BTreeSchema.optCastFrom view.schema with
  | none => (.error (.error (.request (.badRequest "invalid BTree schema"))), view)
  | some copied =>
      let outcome := Tree.keys collate txn view.bounds view.reverse view.btree
      match forM outcome.1 (copyRow forms view.schema.length)
          (CollectionOwner.new Tree.BTreeLock.empty : Tree.BTree copied) with
      | .ok _ target => (.ok ⟨copied, new view.schema target⟩, view.withTree outcome.2)
      | .error failure _ => (.error failure, view.withTree outcome.2)

end BTreeView

/-- A collection of whatever schema. -/
structure Copied (forms : ValueForms S) (Tensor : Type) where
  native : Tree.BTreeSchema S
  tableSchema : Table.TableSchema S
  collection : Collection forms native tableSchema Tensor

def copyInto (collate : StreamOps) (ops : Table.TableOps S) (txn : TxnId) :
    Collection forms native tableSchema Tensor ->
      Except (Failure OpError) (Copied forms Tensor) × Collection forms native tableSchema Tensor
  | .btree view =>
      let outcome := view.copyInto collate txn
      (outcome.1.map (fun copy => ⟨copy.1, tableSchema, .btree copy.2⟩), .btree outcome.2)
  | .table handle =>
      let outcome := handle.copyInto ops txn
      (outcome.1.map (fun owner => ⟨native, handle.semanticSchema, .table (.file owner)⟩),
        .table outcome.2)
  | .tensor value => (.error (.error (.request tensorUnsupported)), .tensor value)

/-! ## Hashes -/

/-- A digest of a schema and of the rows of a stream, in order. -/
structure Digest (S : Signature) where
  Hash : Type
  hashSchema : List String × S.Value -> Hash
  hashStream : List (List S.Value) -> Hash
  combine : Hash -> Hash -> Hash

/-- The schema and the rows themselves. -/
def Digest.plain (S : Signature) : Digest S where
  Hash := Option (List String × S.Value) × List (List S.Value)
  hashSchema schema := (some schema, [])
  hashStream rows := (none, rows)
  combine schema rows := (schema.1, rows.2)

/-- The rows which are hashed, in order. -/
def stream (collate : StreamOps) (ops : Table.TableOps S) (txn : TxnId) :
    Collection forms native tableSchema Tensor ->
      Except (Failure OpError) (List (List S.Value)) × Collection forms native tableSchema Tensor
  | .btree view =>
      let outcome := Tree.keys collate txn view.bounds view.reverse view.btree
      (.ok outcome.1, .btree (view.withTree outcome.2))
  | .table handle =>
      let outcome := handle.rowStream ops txn
      (outcome.1, .table outcome.2)
  | .tensor value => (.error (.error (.request tensorUnsupported)), .tensor value)

def hash (digest : Digest S) (collate : StreamOps) (ops : Table.TableOps S) (txn : TxnId)
    (collection : Collection forms native tableSchema Tensor) :
    Except (Failure OpError) digest.Hash × Collection forms native tableSchema Tensor :=
  match collection.schema with
  | .error error => (.error (.error (.request error)), collection)
  | .ok schema =>
      let schemaHash := digest.hashSchema schema.toPair
      let outcome := collection.stream collate ops txn
      (outcome.1.map (fun rows => digest.combine schemaHash (digest.hashStream rows)), outcome.2)

/-! ## What a transaction sees -/

/-- The visible rows, one way through natural order. -/
def Sees (txn : TxnId) : Collection forms native tableSchema Tensor -> List (Row S) -> Prop
  | .btree view => Enumerates compare view.reverse
      (fun key => Tree.boundsContain view.bounds key = true ∧ view.btree.state.view txn key = some ())
  | .table handle => handle.Sees txn
  | .tensor _ => fun _ => False

/-- No version resurfaces in what is streamed. -/
def Clear (txn : TxnId) : Collection forms native tableSchema Tensor -> Prop
  | .btree _ | .tensor _ => True
  | .table handle => handle.Clear txn

/-- A tree with named columns, or a table which some run has led to, whole or
through a view in natural order.  The flag tells whether the order is walked
backwards. -/
inductive Natural (ops : Table.TableOps S) : Bool -> Collection forms native tableSchema Tensor -> Prop where
  | btree {view : BTreeView forms native}
      (described : Tree.BTreeSchema.optCastFrom view.schema = some native) :
      Natural ops view.reverse (.btree view)
  | table {reverse : Bool} {handle : Table.Handle tableSchema} (natural : handle.Natural ops reverse)
      (stands : Table.Stands ops handle.source) : Natural ops reverse (.table handle)

/-- A copy holds what was visible, in natural order, for every transaction. -/
def CopiesVisible (collate : StreamOps) (ops : Table.TableOps S) (txn : TxnId) (reverse : Bool)
    (collection : Collection forms native tableSchema Tensor) : Prop :=
  exists (copy : Copied forms Tensor) (seen : List (Row S)),
    (collection.copyInto collate ops txn).1 = .ok copy ∧ copy.collection.schema = collection.schema ∧
      collection.Sees txn seen ∧ forall later, copy.collection.Sees later (forward reverse seen) ∧
        (copy.collection.stream collate ops later).1 = .ok (forward reverse seen)

end Operations

/-! ## One stream for the same rows -/

section Streams

variable {native otherNative : Tree.BTreeSchema S} {tableSchema otherSchema : Table.TableSchema S}
  {Tensor OtherTensor : Type} {ops : Table.TableOps S} {reverse : Bool}
  {collection : Collection forms native tableSchema Tensor}
  {other : Collection forms otherNative otherSchema OtherTensor}

theorem Sees.unique {txn : TxnId} {first second : List (Row S)} (firstly : collection.Sees txn first)
    (secondly : collection.Sees txn second) : first = second := by
  cases collection with
  | btree view => exact Enumerates.unique firstly secondly
  | table handle => exact Table.Handle.Sees.unique firstly secondly
  | tensor value => exact firstly.elim

/-- A collection streams what is seen of it if and only if it is clear. -/
theorem Natural.streams (natural : collection.Natural ops reverse) (collate : StreamOps) (txn : TxnId) :
    exists rows seen, (collection.stream collate ops txn).1 = .ok rows ∧ collection.Sees txn seen ∧
      (seen = rows <-> collection.Clear txn) := by
  cases natural with
  | @btree view described =>
      have sees : Sees txn (.btree view : Collection forms native tableSchema Tensor)
          (Tree.keys collate txn view.bounds view.reverse view.btree).1 :=
        ⟨Tree.keys_strict collate txn view.bounds view.reverse view.btree, fun key => Tree.mem_keys_iff⟩
      exact ⟨_, _, rfl, sees, iff_of_true rfl trivial⟩
  | table natural stands =>
      rcases natural.sees (stands.apart txn) with ⟨seen, sees, clear⟩
      exact ⟨_, seen, natural.rowStream_eq txn, sees, clear⟩

/-- Clear collections which show the same rows stream them alike. -/
theorem Natural.stream_eq (natural : collection.Natural ops reverse)
    (otherNatural : other.Natural ops reverse)
    {collate : StreamOps} {txn otherTxn : TxnId} (clear : collection.Clear txn)
    (otherClear : other.Clear otherTxn)
    {rows : List (Row S)} (sees : collection.Sees txn rows) (otherSees : other.Sees otherTxn rows) :
    (collection.stream collate ops txn).1 = (other.stream collate ops otherTxn).1 := by
  rcases natural.streams collate txn with ⟨streamed, seen, yields, also, exactly⟩
  rcases otherNatural.streams collate otherTxn with ⟨others, otherSeen, otherYields, otherAlso, otherExactly⟩
  rw [yields, otherYields, ← exactly.mpr clear, ← otherExactly.mpr otherClear, also.unique sees,
    otherAlso.unique otherSees]

/-- A hash is of the schema and the stream. -/
theorem hash_eq (digest : Digest S) (collate : StreamOps) (ops : Table.TableOps S) (txn : TxnId)
    (collection : Collection forms native tableSchema Tensor) :
    (collection.hash digest collate ops txn).1 =
      ((collection.schema.map CollectionSchema.toPair).mapError (fun error => .error (.request error))).bind
        (fun pair => (collection.stream collate ops txn).1.map
          (fun rows => digest.combine (digest.hashSchema pair) (digest.hashStream rows))) := by
  rw [hash]
  cases collection.schema with
  | error error => rfl
  | ok schema => rfl

theorem hash_congr (digest : Digest S) {collate : StreamOps} {txn otherTxn : TxnId}
    (schemas : collection.schema.map CollectionSchema.toPair = other.schema.map CollectionSchema.toPair)
    (streams : (collection.stream collate ops txn).1 = (other.stream collate ops otherTxn).1) :
    (collection.hash digest collate ops txn).1 = (other.hash digest collate ops otherTxn).1 := by
  rw [hash_eq, hash_eq, schemas, streams]

end Streams

/-! ## What a copy holds -/

section Copies

variable {native : Tree.BTreeSchema S} {tableSchema : Table.TableSchema S} {Tensor : Type}

/-- A literal row loads where a key is copied. -/
theorem BTreeView.copyRow_literal {key : Key S} {columns : Nat} (width : key.length = columns)
    {owner after : Tree.BTree native}
    (loaded : Tree.loadLiteralRow forms (Tree.literal forms key) owner = .ok ⟨⟩ after) :
    copyRow forms columns key owner = .ok ⟨⟩ after := by
  unfold copyRow
  rcases Tree.literal_cases forms key with ⟨value, rfl, written⟩ | ⟨several, written⟩
  · have single : columns = 1 := width.symm
    rw [written] at loaded
    rw [if_pos single]
    exact mapError_of_ok loaded
  · have wide : columns ≠ 1 := by
      rw [← width]
      exact several
    rw [written] at loaded
    rw [if_neg wide]
    exact mapError_of_ok loaded

theorem BTreeView.copyInto_keys (collate : StreamOps) (txn : TxnId) {view : BTreeView forms native}
    (described : Tree.BTreeSchema.optCastFrom view.schema = some native) :
    exists tree : Tree.BTreeLock native,
      (view.copyInto collate txn).1 = .ok ⟨native, new view.schema (CollectionOwner.new tree)⟩ ∧
        forall key, key ∈ tree.keys <->
          key ∈ (Tree.keys collate txn view.bounds view.reverse view.btree).1 := by
  have valid : forall key, key ∈ (Tree.keys collate txn view.bounds view.reverse view.btree).1 ->
      native.ValidKey key := fun key => Tree.keys_valid
  have loads : forall key, key ∈ (Tree.keys collate txn view.bounds view.reverse view.btree).1 ->
      forall owner after : Tree.BTree native,
        Tree.loadLiteralRow forms (Tree.literal forms key) owner = .ok ⟨⟩ after ->
          copyRow forms view.schema.length (id key) owner = .ok ⟨⟩ after := by
    intro key member owner after loaded
    apply copyRow_literal ?_ loaded
    rw [(valid key member).1, Tree.BTreeSchema.arity_of_optCastFrom described]
  rcases Tree.load_literals forms valid loads with ⟨tree, copied, holds⟩
  refine ⟨tree, ?_, holds⟩
  rw [List.map_id] at copied
  rw [copyInto, described]
  dsimp only
  rw [copied]

/-- A copy streams in natural order what was streamed when it was taken. -/
theorem Natural.copied {ops : Table.TableOps S} {reverse : Bool}
    {collection : Collection forms native tableSchema Tensor} (natural : collection.Natural ops reverse)
    (collate : StreamOps) (txn : TxnId) :
    exists (copy : Copied forms Tensor) (rows : List (Row S)),
      (collection.copyInto collate ops txn).1 = .ok copy ∧
        copy.collection.schema = collection.schema ∧ copy.collection.Natural ops false ∧
        (collection.stream collate ops txn).1 = .ok rows ∧
        forall later, copy.collection.Clear later ∧
          (copy.collection.stream collate ops later).1 = .ok (forward reverse rows) := by
  cases natural with
  | @btree view described =>
      rcases view.copyInto_keys collate txn described with ⟨tree, copied, holds⟩
      have copyDescribed : Tree.BTreeSchema.optCastFrom
          (BTreeView.new view.schema (CollectionOwner.new tree)).schema = some native := described
      refine ⟨⟨native, tableSchema, .btree (.new view.schema (CollectionOwner.new tree))⟩, _, ?_, rfl,
        .btree copyDescribed, rfl, ?_⟩
      · change ((view.copyInto collate txn).1).map _ = _
        rw [copied]
        rfl
      · intro later
        exact ⟨trivial, congrArg Except.ok (Tree.keys_loaded collate holds later)⟩
  | @table reverse handle natural stands =>
      have listing := natural.listing txn
      rcases handle.copyInto_streamed (natural.rowStream_eq txn) listing with ⟨table, copied, holds⟩
      have fresh : Table.Stands ops (.file (Config.start table).owner) := .file (Reachable.start table)
      have whole : (Table.Handle.file (CollectionOwner.new table)).Natural ops false := .file _
      refine ⟨⟨native, handle.semanticSchema, .table (.file (CollectionOwner.new table))⟩, _, ?_, rfl,
        .table whole fresh, natural.rowStream_eq txn, ?_⟩
      · change ((handle.copyInto ops txn).1).map _ = _
        rw [copied]
        rfl
      · intro later
        refine ⟨trivial, (whole.rowStream_eq later).trans ?_⟩
        exact congrArg Except.ok ((Table.listed_new ops table later).trans (listing.listed holds ops later))

/-- A copy holds exactly what was visible if and only if no version resurfaced
in what was copied. -/
theorem Natural.copiesVisible_iff {ops : Table.TableOps S} {reverse : Bool}
    {collection : Collection forms native tableSchema Tensor} (natural : collection.Natural ops reverse)
    (collate : StreamOps) (txn : TxnId) :
    collection.CopiesVisible collate ops txn reverse <-> collection.Clear txn := by
  rcases natural.copied collate txn with ⟨copy, rows, copied, schemas, copyNatural, streamed, copyStreamed⟩
  rcases natural.streams collate txn with ⟨others, seen, again, sees, exactly⟩
  cases streamed.symm.trans again
  constructor
  · intro copies
    rcases copies with ⟨same, visible, copiedSame, _, seesVisible, holds⟩
    cases copied.symm.trans copiedSame
    have equal : forward reverse rows = forward reverse visible :=
      Except.ok.inj ((copyStreamed txn).2.symm.trans (holds txn).2)
    apply exactly.mp
    rw [forward_injective equal, sees.unique seesVisible]
  · intro clear
    cases exactly.mpr clear
    refine ⟨copy, rows, copied, schemas, sees, ?_⟩
    intro later
    rcases copyStreamed later with ⟨copyClear, yields⟩
    rcases copyNatural.streams collate later with ⟨copyRows, copySeen, copyAgain, copySees, copyExactly⟩
    cases yields.symm.trans copyAgain
    cases copyExactly.mpr copyClear
    exact ⟨copySees, yields⟩

end Copies

end Collection
end TransactionalCollection
