import TransactionalCollection.Collection.Copy
import TransactionalCollection.Contract.RoundTrip

namespace TransactionalCollection
namespace Contract

open Native Execution Persistence Streaming Collection

/-!
# Copies and hashes of what is visible

A collection is identified by its schema and its visible rows.  A copy has the
same, a hash depends on nothing else, and a finalization changes neither for
later transactions.  The one exception is a slice of a table whose range lets a
superseded version resurface: its copy holds that version.
-/

section Finalization

variable {S : Signature} {forms : ValueForms S} {native : Tree.BTreeSchema S}
  {tableSchema : Table.TableSchema S} {Tensor : Type}

/-- A view of a tree, or a whole table, as some run has left it. -/
inductive Reached (collate : StreamOps) (ops : Table.TableOps S) :
    Collection forms native tableSchema Tensor -> Prop where
  | btree {config : Config (Tree.Delta native) (Tree.BTreeLock native) (Key S)}
      (reachable : Reachable (Tree.treeDriver collate native) config)
      {view : BTreeView forms native} (owner : view.btree = config.owner)
      (described : Tree.BTreeSchema.optCastFrom view.schema = some native) : Reached collate ops (.btree view)
  | table {config : Config (Table.Delta tableSchema) (Table.TableLock tableSchema) (Key S)}
      (reachable : Reachable (Table.tableDriver ops tableSchema) config) :
      Reached collate ops (.table (.file config.owner))

/-- What is streamed past a cutoff does not change when the cutoff is finalized. -/
theorem Reached.finalize_stream {collate : StreamOps} {ops : Table.TableOps S}
    {collection : Collection forms native tableSchema Tensor} (reached : Reached collate ops collection)
    {cutoff txn : TxnId} (later : cutoff < txn) :
    (finalState (collection.finalize cutoff)).schema = collection.schema ∧
      ((finalState (collection.finalize cutoff)).stream collate ops txn).1 =
        (collection.stream collate ops txn).1 := by
  cases reached with
  | @btree config reachable view owner described =>
      have final : finalState (Collection.finalize cutoff (.btree view)) =
          (.btree (view.withTree (finalState (CollectionOwner.finalize cutoff config.owner))) :
            Collection forms native tableSchema Tensor) := by
        rw [← owner]
        exact finalState_rewrap _ _
      have shown := reachable.view_finalize later
      have keys : (Tree.keys collate txn view.bounds view.reverse
          (finalState (CollectionOwner.finalize cutoff config.owner))).1 =
          (Tree.keys collate txn view.bounds view.reverse config.owner).1 :=
        Tree.visibleKeys_congr collate view.reverse (fun key _ => congrFun shown key)
      rw [final]
      refine ⟨rfl, congrArg Except.ok ?_⟩
      rw [owner]
      exact keys
  | @table config reachable =>
      have final : finalState (Collection.finalize cutoff (.table (.file config.owner))) =
          (.table (.file (finalState (CollectionOwner.finalize cutoff config.owner))) :
            Collection forms native tableSchema Tensor) := finalState_rewrap _ _
      have settled : Table.Stands ops (.file (finalState (CollectionOwner.finalize cutoff config.owner))) :=
        .file (reachable.finalized cutoff)
      have listed := Table.TableSource.listed_of_view _ _ ops (settled.apart txn)
        ((Table.Stands.file reachable).apart txn) (reachable.view_finalize later)
      rw [final]
      refine ⟨rfl, ?_⟩
      have whole : forall owner : Table.PersistentTable tableSchema,
          ((Table.Handle.file owner).rowStream ops txn).1 =
            .ok ((Table.TableSource.file owner).listed ops txn Table.Range.default [] false) :=
        fun owner => (Table.TableSource.file owner).rows_eq (ops.plan_default tableSchema) txn false
      exact (whole _).trans ((congrArg Except.ok listed).trans (whole config.owner).symm)

end Finalization

/-- A copy holds exactly what was visible, if no version resurfaced in what was
copied, and only then.  A copy and its original have one hash, a finalization
does not change the hash for later transactions, and two collections of one
schema which show the same rows have one hash. -/
theorem copies_and_hashes_by_contents {S : Signature} (forms : ValueForms S) (digest : Digest S)
    (collate : StreamOps) (ops : Table.TableOps S) (Tensor : Type) :
    (forall (native : Tree.BTreeSchema S) (tableSchema : Table.TableSchema S)
      (collection : Collection forms native tableSchema Tensor) (reverse : Bool) (txn : TxnId),
      collection.Natural ops reverse ->
      (collection.CopiesVisible collate ops txn reverse <-> collection.Clear txn)) ∧
    (forall (native : Tree.BTreeSchema S) (tableSchema : Table.TableSchema S)
      (collection : Collection forms native tableSchema Tensor) (txn : TxnId),
      collection.Natural ops false ->
      exists copy, (collection.copyInto collate ops txn).1 = .ok copy ∧
        forall later, (copy.collection.hash digest collate ops later).1 =
          (collection.hash digest collate ops txn).1) ∧
    (forall (native : Tree.BTreeSchema S) (tableSchema : Table.TableSchema S)
      (collection : Collection forms native tableSchema Tensor) (cutoff txn : TxnId),
      Reached collate ops collection -> cutoff < txn ->
      ((finalState (collection.finalize cutoff)).hash digest collate ops txn).1 =
        (collection.hash digest collate ops txn).1) ∧
    forall (native otherNative : Tree.BTreeSchema S) (tableSchema otherSchema : Table.TableSchema S)
      (collection : Collection forms native tableSchema Tensor)
      (other : Collection forms otherNative otherSchema Tensor) (reverse : Bool) (txn otherTxn : TxnId)
      (rows : List (Row S)), collection.Natural ops reverse -> other.Natural ops reverse ->
      collection.Clear txn -> other.Clear otherTxn ->
      collection.schema.map CollectionSchema.toPair = other.schema.map CollectionSchema.toPair ->
      collection.Sees txn rows -> other.Sees otherTxn rows ->
      (collection.hash digest collate ops txn).1 = (other.hash digest collate ops otherTxn).1 := by
  refine ⟨?_, ?_, ?_, ?_⟩
  · intro native tableSchema collection reverse txn natural
    exact natural.copiesVisible_iff collate txn
  · intro native tableSchema collection txn natural
    rcases natural.copied collate txn with ⟨copy, rows, copied, schemas, _, streamed, copyStreamed⟩
    refine ⟨copy, copied, ?_⟩
    intro later
    apply hash_congr digest
    · rw [schemas]
    · rw [(copyStreamed later).2, streamed]
      rfl
  · intro native tableSchema collection cutoff txn reached later
    rcases reached.finalize_stream later with ⟨schemas, streams⟩
    apply hash_congr digest ?_ streams
    rw [schemas]
  · intro native otherNative tableSchema otherSchema collection other reverse txn otherTxn rows natural
      otherNatural clear otherClear schemas sees otherSees
    exact hash_congr digest schemas (natural.stream_eq otherNatural clear otherClear sees otherSees)

/-! ## A row which has moved out of a range -/

theorem index_width : [DatumType.number, DatumType.number].length = ["value", "key"].length := rfl

/-- The labelled rows, with an index of their values. -/
def indexedSchema : Table.TableSchema Signature.data where
  key := ["key"]
  values := ["value"]
  primary := Table.labelledSchema.primary
  indices := [("value",
    { columnNames := ["value", "key"]
      columnTypes := [DatumType.number, DatumType.number]
      storage := {}
      columns_pos := by simp
      types_length := index_width })]
  key_pos := Table.labelledSchema.key_pos
  primary_names := rfl
  indices_names := by
    intro index member
    rw [List.mem_singleton.mp member]
    exact ⟨["value"], rfl⟩

def indexedTable := Table.tableDriver Table.TableOps.reference indexedSchema

/-- Two transactions have committed a row of one key. -/
def rewritten : Config (Table.Delta indexedSchema) (Table.TableLock indexedSchema) (Key Signature.data) :=
  run indexedTable (Config.start Table.TableLock.empty)
    [.mutate 1 (.upsertRow [Datum.number 7] [Datum.number 1]), .commit 1,
      .mutate 2 (.upsertRow [Datum.number 7] [Datum.number 2]), .commit 2]

theorem rewritten_reachable : Reachable indexedTable rewritten :=
  Reachable.run (Reachable.start _) _

/-- The rows of value one. -/
def ones : Table.TableSlice indexedSchema where
  table := .file rewritten.owner
  range := Table.Range.default.insert "value" (.eq (Datum.number 1))
  order := []
  reverse := false

def ofTable (handle : Table.Handle indexedSchema) :
    Collection ValueForms.data pairTree indexedSchema Unit := .table handle

theorem ones_natural : (ofTable (.tableSlice ones)).Natural Table.TableOps.reference false := by
  have natural : ones.Natural Table.TableOps.reference := ⟨rfl, rfl⟩
  exact .table (.tableSlice natural) (.file rewritten_reachable)

/-- The last version alone, in a table of its own. -/
def lastVersion : Table.TableLock indexedSchema :=
  finalState (Table.upsert [Datum.number 7] [Datum.number 2] (Table.TableLock.empty :
    Table.TableLock indexedSchema))

def lastRow : List (Row Signature.data) := [[Datum.number 7, Datum.number 2]]

theorem copies_and_hashes_by_contents_rewritten :
    ((ofTable (.tableSlice ones)).CopiesVisible StreamOps.reference Table.TableOps.reference 3 false <->
      (ofTable (.tableSlice ones)).Clear 3) ∧
    (exists copy, ((ofTable (.file rewritten.owner)).copyInto StreamOps.reference Table.TableOps.reference 3).1 =
        .ok copy ∧
      forall later, (copy.collection.hash (Digest.plain _) StreamOps.reference Table.TableOps.reference later).1 =
        ((ofTable (.file rewritten.owner)).hash (Digest.plain _) StreamOps.reference Table.TableOps.reference 3).1) ∧
    ((finalState ((ofTable (.file rewritten.owner)).finalize 2)).hash (Digest.plain _) StreamOps.reference
        Table.TableOps.reference 3).1 =
      ((ofTable (.file rewritten.owner)).hash (Digest.plain _) StreamOps.reference Table.TableOps.reference 3).1 ∧
    ((ofTable (.file rewritten.owner)).hash (Digest.plain _) StreamOps.reference Table.TableOps.reference 3).1 =
      ((ofTable (.localTable lastVersion)).hash (Digest.plain _) StreamOps.reference
        Table.TableOps.reference 1).1 := by
  have stands : Table.Stands Table.TableOps.reference (.file rewritten.owner) := .file rewritten_reachable
  have file : (ofTable (.file rewritten.owner)).Natural Table.TableOps.reference false :=
    .table (.file rewritten.owner) stands
  have aloneStands : Table.Stands Table.TableOps.reference (.localTable lastVersion) :=
    .localTable lastVersion
  have alone : (ofTable (.localTable lastVersion)).Natural Table.TableOps.reference false :=
    .table (.localTable lastVersion) aloneStands
  have fileSees : (ofTable (.file rewritten.owner)).Sees 3 lastRow := by
    have sees := (Table.TableSource.file rewritten.owner).sees Table.TableOps.reference (stands.apart 3)
    have listed : (Table.TableSource.file rewritten.owner).listed Table.TableOps.reference 3
        Table.Range.default [] false = lastRow := by
      decide +kernel
    rwa [listed] at sees
  have aloneSees : (ofTable (.localTable lastVersion)).Sees 1 lastRow := by
    have sees := (Table.TableSource.localTable lastVersion).sees Table.TableOps.reference
      (aloneStands.apart 1)
    have listed : (Table.TableSource.localTable lastVersion).listed Table.TableOps.reference 1
        Table.Range.default [] false = lastRow := by
      decide +kernel
    rwa [listed] at sees
  rcases copies_and_hashes_by_contents ValueForms.data (Digest.plain _) StreamOps.reference
    Table.TableOps.reference Unit with ⟨copies, hashes, finalized, equal⟩
  exact ⟨copies _ _ _ _ _ ones_natural, hashes _ _ _ _ file,
    finalized _ _ _ 2 3 (.table rewritten_reachable) (by decide),
    equal _ _ _ _ _ _ false 3 1 lastRow file alone trivial trivial rfl fileSees aloneSees⟩

/-- Transaction 2 has moved the row out of the range, and a copy of the range for
transaction 3 still holds it. -/
theorem not_copiesVisible_rewritten :
    Reachable indexedTable rewritten ∧
      (ofTable (.tableSlice ones)).Natural Table.TableOps.reference false ∧
      ¬ (ofTable (.tableSlice ones)).CopiesVisible StreamOps.reference Table.TableOps.reference 3 false := by
  refine ⟨rewritten_reachable, ones_natural, ?_⟩
  intro copies
  have clear : ones.Clear 3 none := (ones_natural.copiesVisible_iff StreamOps.reference 3).mp copies
  have apart := Table.allApart_of_reachable rewritten_reachable 3
  have listed : ([Datum.number 7, Datum.number 1] : Row Signature.data) ∈
      ones.table.listed Table.TableOps.reference 3 ones.range [] ones.reverse := by
    decide +kernel
  rcases (Table.TableSource.mem_listed_natural_iff ones.table apart).mp listed with ⟨_, bound⟩ | resurfaces
  · have visible : Table.Shown (rewritten.owner.state.visibleSnapshot 3) [Datum.number 7, Datum.number 1] :=
      Table.shown_iff.mpr bound
    have resolved := visible.resolved (Table.settled_of_distinct (by decide) rfl)
    revert resolved
    decide +kernel
  · rcases clear _ resurfaces with ⟨_, _, _, impossible, _⟩
    cases impossible

end Contract
end TransactionalCollection
