import TransactionalCollection.Collection.Encode
import TransactionalCollection.Collection.Schema
import TransactionalCollection.Table.Atomicity
import TransactionalCollection.Tensors.Wire

namespace TransactionalCollection
namespace Collection

open Native Execution Persistence Streaming Numeric Tensors

/-!
# Sending collections

A host prepares what a transaction sees of a collection, and encodes it as a map of
one entry, under the path of its class.  The next host finds the class and decodes the
entry to a collection of its own, which it may send on in turn.  A host prepares no
tensor beyond its limit.
-/

variable {S : Signature} {forms : ValueForms S} {elements : Elements}

/-! ## Encoders and decoders -/

/-- Encoders and decoders of maps with a single entry. -/
structure CollectionCodec (S : Signature) (elements : Elements) where
  values : Codec S
  tensors : TensorCodec elements
  paths : NumberPaths
  Document : Type
  encodeEntry : List String -> values.Document ⊕ tensors.Document -> Document
  decodeKey : Document -> Except String (List String)
  nextRows : Document -> Except String values.Document
  nextTensor : Document -> Except String tensors.Document

/-- An entry is decoded as it was encoded. -/
structure CollectionCodec.Lawful (codec : CollectionCodec S elements) : Prop where
  key : forall path entry, codec.decodeKey (codec.encodeEntry path entry) = .ok path
  rows : forall path document, codec.nextRows (codec.encodeEntry path (.inl document)) = .ok document
  tensor : forall path document, codec.nextTensor (codec.encodeEntry path (.inr document)) = .ok document
  tensors : codec.tensors.Lawful
  paths : codec.paths.Lawful

inductive PressureReason where
  | allocationFailed
  | quotaExceeded
  deriving DecidableEq, Repr

structure Pressure where
  resource : String
  reason : PressureReason
  deriving DecidableEq, Repr

/-- What keeps a collection from being sent. -/
inductive TransportError where
  | operation (failure : Failure OpError)
  | payloadTooLarge (message : String) (pressure : Pressure)
  | stream (failure : Failure TCError)
  | decoding (failure : Failure String)
  /-- Not a class of collections. -/
  | unclassified (path : List String)

/-! ## Collections of any schema -/

inductive AnyCollection (forms : ValueForms S) (elements : Elements) where
  | btree {native : Tree.BTreeSchema S} (view : BTreeView forms native)
  | table {schema : Table.TableSchema S} (handle : Table.Handle schema)
  | tensor (value : Tensor elements)

/-- The terminal view of a collection. -/
inductive CollectionView (forms : ValueForms S) (elements : Elements) where
  | btree (view : Terminal.BTreeView forms)
  | table (view : Terminal.TableView S)
  | tensor (value : Tensor elements)

/-- A host, which works for a transaction. -/
structure Host where
  txn : TxnId
  materializedTensorBytes : Nat

/-- The size of an element in bytes. -/
def elementBytes : Tensor elements -> Nat
  | .f32 _ => 4
  | .f64 _ | .u64 _ => 8

def retainedBytes (tensor : Tensor elements) : Option Nat :=
  checkedProduct usize (elementBytes tensor) tensor.shape

section Sending

variable (codec : CollectionCodec S elements) (collate : StreamOps) (ops : Table.TableOps S)

def CollectionView.intoStream : CollectionView forms elements -> Except TransportError codec.Document
  | .btree view =>
      ((view.intoStream codec.values).mapError .stream).map (fun entry =>
        codec.encodeEntry CollectionType.btree.path (.inl entry))
  | .table view => .ok (codec.encodeEntry CollectionType.table.path (.inl (view.intoStream codec.values forms)))
  | .tensor value =>
      .ok (codec.encodeEntry CollectionType.tensor.path (.inr (value.intoStream codec.tensors codec.paths)))

/-- The resource which tensors take up. -/
def materialized : String := "/host/resource/tensor/materialized"

namespace AnyCollection

def type : AnyCollection forms elements -> CollectionType
  | .btree _ => .btree
  | .table _ => .table
  | .tensor _ => .tensor

def intoView (host : Host) : AnyCollection forms elements ->
    Except TransportError (CollectionView forms elements) × AnyCollection forms elements
  | .btree view =>
      let outcome := view.intoView collate host.txn
      (.ok (.btree outcome.1), .btree outcome.2)
  | .table handle =>
      let outcome := handle.intoView ops forms host.txn
      ((outcome.1.mapError .operation).map .table, .table outcome.2)
  | .tensor value =>
      match retainedBytes value with
      | none =>
          (.error (.payloadTooLarge "tensor allocation size overflow" ⟨materialized, .allocationFailed⟩),
            .tensor value)
      | some bytes =>
          if host.materializedTensorBytes < bytes then
            (.error (.payloadTooLarge "materialized tensor exceeds the configured host limit"
              ⟨materialized, .quotaExceeded⟩), .tensor value)
          else (.ok (.tensor value), .tensor value)

def send (host : Host) (collection : AnyCollection forms elements) : Except TransportError codec.Document := do
  let view <- (collection.intoView collate ops host).1
  view.intoStream codec

end AnyCollection

section Receiving

variable (forms : ValueForms S) (checks : FloatChecks elements) (casts : NumberCasts elements)

def decodeCollection (type : CollectionType) (document : codec.Document) :
    Except TransportError (AnyCollection forms elements) :=
  match type with
  | .btree => do
      let entry <- (codec.nextRows document).mapError (fun error => .decoding (.error error))
      let payload <- (Tree.decodePayload codec.values forms entry).mapError (fun error => .decoding (.error error))
      return .btree payload.collection
  | .table => do
      let entry <- (codec.nextRows document).mapError (fun error => .decoding (.error error))
      let payload <- (Table.decodePayload codec.values forms entry).mapError .decoding
      return .table payload.table
  | .tensor => do
      let entry <- (codec.nextTensor document).mapError (fun error => .decoding (.error error))
      let tensor <- (Tensor.fromStream codec.tensors codec.paths checks casts entry).mapError
        (fun error => .decoding (.error error))
      return .tensor tensor

/-- Find the class, then decode the entry. -/
def receive (document : codec.Document) : Except TransportError (AnyCollection forms elements) := do
  let path <- (codec.decodeKey document).mapError (fun error => .decoding (.error error))
  match CollectionType.fromPath path with
  | some type => decodeCollection codec forms checks casts type document
  | none => .error (.unclassified path)

/-- Receive a collection, and send it on, from host to host. -/
def relay (document : codec.Document) (hosts : List Host) : Except TransportError codec.Document :=
  hosts.foldlM (fun document host => do
    let collection <- receive codec forms checks casts document
    collection.send codec collate ops host) document

end Receiving

end Sending

/-! ## What is sent as it is -/

namespace AnyCollection

/-- The direction in which a collection is streamed. -/
def reverse : AnyCollection forms elements -> Bool
  | .btree view => view.reverse
  | .table (.file _) | .table (.localTable _) => false
  | .table (.tableSlice view) => view.reverse
  | .table (.limited view) => view.source.reverse
  | .table (.selection view) => view.source.reverse
  | .tensor _ => false

/-- A tree with its columns, a table or view in natural order, or a tensor of numbers
which are decoded as they were encoded. -/
def Sendable (codec : CollectionCodec S elements) (ops : Table.TableOps S) (checks : FloatChecks elements)
    (casts : NumberCasts elements) : AnyCollection forms elements -> Prop
  | @btree _ _ _ native view => Tree.BTreeSchema.optCastFrom view.schema = some native
  | @table _ _ _ schema handle => schema.Constructed ∧ exists reverse, handle.Natural ops reverse
  | .tensor value => value.DimsFit ∧ value.Carried codec.tensors checks casts

/-- A tensor takes up no more than the host allows, and its size does not overflow. -/
def Fits (host : Host) : AnyCollection forms elements -> Prop
  | .btree _ | .table _ => True
  | .tensor value =>
      ProductFits usize (elementBytes value :: value.shape) ∧
        elementBytes value * value.shape.prod ≤ host.materializedTensorBytes

end AnyCollection

/-- The view in natural order. -/
def CollectionView.upright (reverse : Bool) : CollectionView forms elements -> CollectionView forms elements
  | .btree view => .btree { view with keys := forward reverse view.keys }
  | .table view => .table { view with rows := forward reverse view.rows }
  | .tensor value => .tensor value

theorem CollectionView.upright_false (view : CollectionView forms elements) : view.upright false = view := by
  cases view <;> rfl

/-! ## One host -/

section Hops

variable {codec : CollectionCodec S elements} {collate : StreamOps} {ops : Table.TableOps S}
  {checks : FloatChecks elements} {casts : NumberCasts elements} {collection : AnyCollection forms elements}

theorem retainedBytes_eq_some {tensor : Tensor elements} {bytes : Nat} : retainedBytes tensor = some bytes <->
    ProductFits usize (elementBytes tensor :: tensor.shape) ∧ elementBytes tensor * tensor.shape.prod = bytes := by
  rw [← List.prod_cons]
  apply checkedProduct_eq_some usize_several
  cases tensor with
  | f32 array => exact (by decide +kernel : 4 < usize)
  | f64 array | u64 array => exact (by decide +kernel : 8 < usize)

/-- A host which a tensor fits prepares the tensor as it is. -/
theorem intoView_tensor {tensor : Tensor elements} {host : Host}
    (fits : (AnyCollection.tensor tensor : AnyCollection forms elements).Fits host) :
    ((AnyCollection.tensor tensor : AnyCollection forms elements).intoView collate ops host).1 =
      .ok (.tensor tensor) := by
  have retained : retainedBytes tensor = some (elementBytes tensor * tensor.shape.prod) :=
    retainedBytes_eq_some.mpr ⟨fits.1, rfl⟩
  unfold AnyCollection.intoView
  dsimp only
  rw [retained]
  dsimp only
  rw [if_neg (Nat.not_lt.mpr fits.2)]

/-- A host refuses whatever does not fit. -/
theorem send_of_not_fits {host : Host} (misfit : ¬ collection.Fits host) :
    exists message reason, collection.send codec collate ops host =
      .error (.payloadTooLarge message ⟨materialized, reason⟩) := by
  cases collection with
  | btree view => exact absurd trivial misfit
  | table handle => exact absurd trivial misfit
  | tensor value =>
      unfold AnyCollection.send AnyCollection.intoView
      dsimp only
      cases retained : retainedBytes value with
      | none => exact ⟨_, _, rfl⟩
      | some bytes =>
          rcases retainedBytes_eq_some.mp retained with ⟨counted, same⟩
          have large : host.materializedTensorBytes < bytes := by
            by_contra small
            refine misfit ⟨counted, ?_⟩
            rw [same]
            exact Nat.not_lt.mp small
          dsimp only
          rw [if_pos large]
          exact ⟨_, _, rfl⟩

/-- And nothing else is refused as too large. -/
theorem send_refused_iff {host : Host} :
    (exists message reason, collection.send codec collate ops host =
      .error (.payloadTooLarge message ⟨materialized, reason⟩)) <-> ¬ collection.Fits host := by
  refine ⟨?_, send_of_not_fits⟩
  rintro ⟨message, reason, refused⟩ fits
  cases collection with
  | btree view =>
      change (CollectionView.btree (view.intoView collate host.txn).1 : CollectionView forms elements).intoStream
        codec = _ at refused
      rw [CollectionView.intoStream] at refused
      cases written : (view.intoView collate host.txn).1.intoStream codec.values with
      | error failure =>
          rw [written] at refused
          cases refused
      | ok entry =>
          rw [written] at refused
          cases refused
  | table handle =>
      rw [AnyCollection.send, AnyCollection.intoView] at refused
      dsimp only at refused
      cases viewed : (handle.intoView ops forms host.txn).1 with
      | error failure =>
          rw [viewed] at refused
          cases refused
      | ok view =>
          rw [viewed] at refused
          cases refused
  | tensor value =>
      rw [AnyCollection.send, intoView_tensor fits] at refused
      cases refused

/-- The class of an entry is found under its path. -/
theorem receive_encodeEntry (lawful : codec.Lawful) (type : CollectionType)
    (entry : codec.values.Document ⊕ codec.tensors.Document) :
    receive codec forms checks casts (codec.encodeEntry type.path entry) =
      decodeCollection codec forms checks casts type (codec.encodeEntry type.path entry) := by
  unfold receive
  rw [lawful.key]
  change (match CollectionType.fromPath type.path with
    | some type => decodeCollection codec forms checks casts type _
    | none => _) = _
  rw [CollectionType.fromPath_path]

/-- A host has sent a view of a collection, and the next one has received a collection
of the same class, which it shows in natural order. -/
structure Delivered (codec : CollectionCodec S elements) (collate : StreamOps) (ops : Table.TableOps S)
    (checks : FloatChecks elements) (casts : NumberCasts elements) (collection : AnyCollection forms elements)
    (host : Host) (view : CollectionView forms elements) (document : codec.Document)
    (received : AnyCollection forms elements) : Prop where
  viewed : (collection.intoView collate ops host).1 = .ok view
  encoded : view.intoStream codec = .ok document
  decoded : receive codec forms checks casts document = .ok received
  sendable : received.Sendable codec ops checks casts
  type : received.type = collection.type
  natural : received.reverse = false
  fits : forall other, received.Fits other <-> collection.Fits other
  sends : forall other, collection.Fits other ->
    received.send codec collate ops other = (view.upright collection.reverse).intoStream codec

theorem delivers_btree (lawful : codec.Lawful) {native : Tree.BTreeSchema S} {view : BTreeView forms native}
    (described : Tree.BTreeSchema.optCastFrom view.schema = some native) (host : Host) :
    exists terminal document received, Delivered codec collate ops checks casts (.btree view) host terminal document
      received := by
  rcases view.decode_encode codec.values collate host.txn described with ⟨entry, tree, encoded, decoded, holds⟩
  refine ⟨.btree (view.intoView collate host.txn).1, codec.encodeEntry CollectionType.btree.path (.inl entry),
    .btree (BTreeView.new view.schema (CollectionOwner.new tree : Tree.BTree native)), rfl, ?_, ?_, described, rfl, rfl,
    fun _ => Iff.rfl, ?_⟩
  · unfold CollectionView.intoStream
    dsimp only
    rw [encoded]
    rfl
  · rw [receive_encodeEntry lawful, decodeCollection, lawful.rows]
    change (do
      let payload <- (Tree.decodePayload codec.values forms entry).mapError _
      return AnyCollection.btree payload.collection : Except TransportError (AnyCollection forms elements)) = _
    rw [decoded]
    rfl
  · intro other _
    have shown : (Tree.keys collate other.txn Bounds.all false (CollectionOwner.new tree : Tree.BTree native)).1 =
        forward view.reverse (view.intoView collate host.txn).1.keys := Tree.keys_loaded collate holds other.txn
    change CollectionView.intoStream codec (.btree ⟨view.schema, (Tree.keys collate other.txn Bounds.all false
      (CollectionOwner.new tree : Tree.BTree native)).1, view.schema.length⟩) = _
    rw [shown]
    rfl

theorem delivers_table (lawful : codec.Lawful) {schema : Table.TableSchema S} {handle : Table.Handle schema}
    (constructed : schema.Constructed) {reverse : Bool} (natural : handle.Natural ops reverse) (host : Host) :
    exists terminal document received, Delivered codec collate ops checks casts
      (.table handle : AnyCollection forms elements) host terminal document received := by
  have streamed := natural.rowStream_eq host.txn
  have listing := natural.listing host.txn
  have direction : (AnyCollection.table handle : AnyCollection forms elements).reverse = reverse := by
    cases natural <;> rfl
  rcases Table.Handle.decode_encode codec.values forms streamed listing (natural.constructed constructed) with
    ⟨view, decoded, table, viewed, received, same, holds⟩
  have shownHere : view = ⟨handle.semanticSchema, (handle.listed ops host.txn).map forms.tuple⟩ := by
    rw [Table.Handle.intoView, streamed] at viewed
    exact (Except.ok.inj viewed).symm
  have rebuilt : decoded.Constructed := Table.decodePayload_constructed codec.values forms received
  refine ⟨.table view, codec.encodeEntry CollectionType.table.path (.inl (view.intoStream codec.values forms)),
    .table (.localTable table), ?_, rfl, ?_, ⟨rebuilt, false, .localTable table⟩, rfl, rfl, fun _ => Iff.rfl, ?_⟩
  · unfold AnyCollection.intoView
    dsimp only
    rw [viewed]
    rfl
  · rw [receive_encodeEntry lawful, decodeCollection, lawful.rows]
    change (do
      let payload <- (Table.decodePayload codec.values forms _).mapError _
      return AnyCollection.table payload.table : Except TransportError (AnyCollection forms elements)) = _
    rw [received]
    rfl
  · intro other _
    have loaded := (Table.TableSource.localTable table).rows_eq (ops.plan_default decoded) other.txn false
    rw [listing.listed holds] at loaded
    have shown : ((Table.Handle.localTable table).intoView ops forms other.txn).1 =
        .ok ⟨decoded, (forward reverse (handle.listed ops host.txn)).map forms.tuple⟩ := by
      change (((Table.Handle.localTable table).rowStream ops other.txn).1.map _) = _
      rw [show ((Table.Handle.localTable table).rowStream ops other.txn).1 =
        .ok (forward reverse (handle.listed ops host.txn)) from loaded]
      rfl
    unfold AnyCollection.send AnyCollection.intoView
    dsimp only
    rw [shown, direction, shownHere]
    change Except.ok (codec.encodeEntry _ (.inl (codec.values.encodeSeq [codec.values.encodeValue
      (decoded.castFrom.toValue forms), _]))) = Except.ok (codec.encodeEntry _ (.inl (codec.values.encodeSeq
        [codec.values.encodeValue (handle.semanticSchema.castFrom.toValue forms), _])))
    rw [same.castFrom_eq, forward_map]

theorem delivers_tensor (lawful : codec.Lawful) {tensor : Tensor elements}
    (sendable : (AnyCollection.tensor tensor : AnyCollection forms elements).Sendable codec ops checks casts)
    {host : Host} (fits : (AnyCollection.tensor tensor : AnyCollection forms elements).Fits host) :
    Delivered codec collate ops checks casts (.tensor tensor : AnyCollection forms elements) host (.tensor tensor)
      (codec.encodeEntry CollectionType.tensor.path (.inr (tensor.intoStream codec.tensors codec.paths)))
      (.tensor tensor) where
  viewed := intoView_tensor fits
  encoded := rfl
  decoded := by
    rw [receive_encodeEntry lawful, decodeCollection, lawful.tensor]
    change (do
      let tensor <- (Tensor.fromStream codec.tensors codec.paths checks casts _).mapError _
      return AnyCollection.tensor tensor : Except TransportError (AnyCollection forms elements)) = _
    rw [Tensor.fromStream_intoStream lawful.tensors lawful.paths sendable.1 sendable.2]
    rfl
  sendable := sendable
  type := rfl
  natural := rfl
  fits _ := Iff.rfl
  sends other fits := by
    rw [AnyCollection.send, intoView_tensor fits]
    rfl

/-- Whatever fits a host is delivered by it. -/
theorem delivers (lawful : codec.Lawful) (sendable : collection.Sendable codec ops checks casts) {host : Host}
    (fits : collection.Fits host) : exists view document received,
      Delivered codec collate ops checks casts collection host view document received := by
  cases collection with
  | btree view => exact delivers_btree lawful sendable host
  | table handle =>
      rcases sendable with ⟨constructed, _, natural⟩
      exact delivers_table lawful constructed natural host
  | tensor value => exact ⟨_, _, _, delivers_tensor lawful sendable fits⟩

/-! ## Many hosts -/

/-- A document is received as a collection which is sent on as the same document. -/
def Settled (codec : CollectionCodec S elements) (collate : StreamOps) (ops : Table.TableOps S)
    (checks : FloatChecks elements) (casts : NumberCasts elements) (received : AnyCollection forms elements)
    (document : codec.Document) : Prop :=
  receive codec forms checks casts document = .ok received ∧
    forall host, received.Fits host -> received.send codec collate ops host = .ok document

theorem Settled.relay {received : AnyCollection forms elements} {document : codec.Document}
    (settled : Settled codec collate ops checks casts received document) {hosts : List Host}
    (fits : forall host, host ∈ hosts -> received.Fits host) :
    relay codec collate ops forms checks casts document hosts = .ok document := by
  induction hosts with
  | nil => rfl
  | cons host hosts inductionHypothesis =>
      rcases List.forall_mem_cons.mp fits with ⟨here, later⟩
      rw [Collection.relay, List.foldlM_cons, settled.1, except_ok_bind, settled.2 host here]
      exact inductionHypothesis later

/-- What has been delivered is sent on in natural order, and settles there. -/
theorem Delivered.settles (lawful : codec.Lawful) {host : Host} {view : CollectionView forms elements}
    {document : codec.Document} {received : AnyCollection forms elements}
    (delivered : Delivered codec collate ops checks casts collection host view document received)
    (fits : collection.Fits host) : exists (settled : codec.Document) (again : AnyCollection forms elements),
      (view.upright collection.reverse).intoStream codec = .ok settled ∧
        (forall other, again.Fits other <-> collection.Fits other) ∧
        Settled codec collate ops checks casts again settled := by
  have fitsAgain : received.Fits host := (delivered.fits host).mpr fits
  rcases (delivers lawful delivered.sendable fitsAgain :
    exists view document received, Delivered codec collate ops checks casts _ host view document received) with
    ⟨shown, settled, again, sent⟩
  have first : received.send codec collate ops host = .ok settled := by
    rw [AnyCollection.send, sent.viewed]
    exact sent.encoded
  have upright : shown.upright received.reverse = shown := by
    rw [delivered.natural, CollectionView.upright_false]
  refine ⟨settled, again, (delivered.sends host fits).symm.trans first,
    fun other => (sent.fits other).trans (delivered.fits other), sent.decoded, ?_⟩
  intro other fitsAgain
  rw [sent.sends other ((sent.fits other).mp fitsAgain), upright]
  exact sent.encoded

/-- A collection survives any number of hosts.  The first document shows it the way
round it was streamed; the next host's is in natural order, and so is every one after
that, to the byte.  A host refuses exactly the tensors which do not fit it. -/
theorem relay_settles (codec : CollectionCodec S elements) (collate : StreamOps) (ops : Table.TableOps S)
    (checks : FloatChecks elements) (casts : NumberCasts elements) (lawful : codec.Lawful)
    (collection : AnyCollection forms elements) (host : Host) :
    (collection.Sendable codec ops checks casts -> collection.Fits host -> exists view document settled,
      (collection.intoView collate ops host).1 = .ok view ∧ view.intoStream codec = .ok document ∧
      (exists received : AnyCollection forms elements, receive codec forms checks casts document = .ok received ∧
        received.type = collection.type) ∧
      (view.upright collection.reverse).intoStream codec = .ok settled ∧
      forall first hosts, (forall other, other ∈ first :: hosts -> collection.Fits other) ->
        relay codec collate ops forms checks casts document (first :: hosts) = .ok settled) ∧
    ((exists message reason, collection.send codec collate ops host =
      .error (.payloadTooLarge message ⟨materialized, reason⟩)) <-> ¬ collection.Fits host) := by
  constructor
  · intro sendable fits
    rcases (delivers lawful sendable fits :
      exists view document received, Delivered codec collate ops checks casts collection host view document received)
      with ⟨view, document, received, delivered⟩
    rcases delivered.settles lawful fits with ⟨settled, again, written, fitsAgain, stays⟩
    refine ⟨view, document, settled, delivered.viewed, delivered.encoded,
      ⟨received, delivered.decoded, delivered.type⟩, written, ?_⟩
    intro first hosts all
    rcases List.forall_mem_cons.mp all with ⟨here, later⟩
    rw [relay, List.foldlM_cons, delivered.decoded, except_ok_bind, delivered.sends first here, written]
    exact stays.relay (fun other member => (fitsAgain other).mpr (later other member))
  · exact send_refused_iff

end Hops

/-! ## Two collections -/

/-- Entries as they are. -/
def CollectionCodec.entries (S : Signature) (elements : Elements) : CollectionCodec S elements where
  values := Codec.documents S
  tensors := TensorCodec.plain elements
  paths := NumberPaths.scalar
  Document := List String × (Native.Document S.Value ⊕ Part elements)
  encodeEntry path entry := (path, entry)
  decodeKey document := .ok document.1
  nextRows document := document.2.elim .ok (fun _ => .error "expected a value, found a tensor")
  nextTensor document := document.2.elim (fun _ => .error "expected a tensor, found a value") .ok

theorem CollectionCodec.entries_lawful (S : Signature) (elements : Elements) : (entries S elements).Lawful :=
  ⟨fun _ _ => rfl, fun _ _ => rfl, fun _ _ => rfl, TensorCodec.plain_lawful elements, NumberPaths.scalar_lawful⟩

theorem number_types {types : List DatumType} (same : some [DatumType.number] = some types) : types.length = 1 := by
  cases same
  rfl

/-- One column of numbers. -/
def numberTree : Tree.BTreeSchema Signature.data where
  storage := {}
  keyArity := 1
  keyTypes := some [DatumType.number]
  arity_pos := Nat.one_pos
  arity_types _ same := number_types same

/-- The keys 5 and 9, from the end. -/
def fiveAndNine : BTreeView ValueForms.data numberTree where
  schema := [⟨"key", DatumType.number, none⟩]
  btree := finalState (Tree.insertRow 1 [Datum.number 9]
    (finalState (Tree.insertRow 1 [Datum.number 5] (CollectionOwner.new Tree.BTreeLock.empty))))
  bounds := Bounds.all
  reverse := true

/-- The tree passes all hosts, and a line of numbers stops at one without room. -/
theorem relay_settles_fiveAndNine :
    (exists view document settled,
      ((AnyCollection.btree fiveAndNine : AnyCollection ValueForms.data Elements.binary).intoView StreamOps.reference
        Table.TableOps.reference ⟨1, 0⟩).1 = .ok view ∧
      view.intoStream (CollectionCodec.entries Signature.data Elements.binary) = .ok document ∧
      (view.upright true).intoStream (CollectionCodec.entries Signature.data Elements.binary) = .ok settled ∧
      forall first hosts, relay (CollectionCodec.entries Signature.data Elements.binary) StreamOps.reference
        Table.TableOps.reference ValueForms.data FloatChecks.binary NumberCasts.binary document (first :: hosts) =
          .ok settled) ∧
    exists message reason, (AnyCollection.tensor line : AnyCollection ValueForms.data Elements.binary).send
        (CollectionCodec.entries Signature.data Elements.binary) StreamOps.reference Table.TableOps.reference ⟨1, 0⟩ =
      .error (.payloadTooLarge message ⟨materialized, reason⟩) := by
  have lawful := CollectionCodec.entries_lawful Signature.data Elements.binary
  have sends := fun collection : AnyCollection ValueForms.data Elements.binary =>
    relay_settles (CollectionCodec.entries Signature.data Elements.binary) StreamOps.reference Table.TableOps.reference
      FloatChecks.binary NumberCasts.binary lawful collection
  constructor
  · rcases (sends (.btree fiveAndNine) ⟨1, 0⟩).1 rfl trivial with
      ⟨view, document, settled, viewed, encoded, _, written, relayed⟩
    exact ⟨view, document, settled, viewed, encoded, written,
      fun first hosts => relayed first hosts (fun _ _ => trivial)⟩
  · apply (sends (.tensor line) ⟨1, 0⟩).2.mpr
    intro fits
    exact absurd fits.2 (by decide +kernel)

end Collection
end TransactionalCollection
