import TransactionalCollection.Streaming.Prefix
import TransactionalCollection.Table.Literal

namespace TransactionalCollection
namespace Table

open Layering Native Execution Persistence Streaming

/-!
# Copies of tables

A copy is a new table loaded with the rows which a handle streams.  For a whole
table these are the visible rows.  A slice may also stream superseded versions
which resurface in its range, and then its copy holds them as well, unless the
rows before them use up a limit.
-/

variable {S : Signature} {schema : TableSchema S}

/-- A new table loaded with rows. -/
def copyRows (schema : TableSchema S) (rows : List (Row S)) :
    Except (Failure OpError) (PersistentTable schema) :=
  match forM rows loadLiteralRow (CollectionOwner.new TableLock.empty : PersistentTable schema) with
  | .ok _ target => .ok target
  | .error error _ => .error (.error (.io error))

/-- Load the visible rows into a new table. -/
def Handle.copyInto (ops : TableOps S) (txn : TxnId) (handle : Handle schema) :
    Except (Failure OpError) (PersistentTable handle.semanticSchema) × Handle schema :=
  let outcome := handle.rowStream ops txn
  (outcome.1.bind (copyRows handle.semanticSchema), outcome.2)

/-! ## What a transaction sees through a handle -/

/-- The visible rows in the range, one way through natural order. -/
def TableSlice.Sees (txn : TxnId) (slice : TableSlice schema) : List (Row S) -> Prop :=
  Enumerates compare slice.reverse
    (fun row => schema.admits slice.range row = true ∧ BoundIn (slice.table.view txn) row)

/-- The visible rows.  A view is taken of the visible rows of its slice. -/
def Handle.Sees (txn : TxnId) : Handle schema -> List (Row S) -> Prop
  | .file owner => Enumerates compare false (BoundIn (owner.state.view txn))
  | .localTable table => Enumerates compare false (BoundIn (bindings table))
  | .tableSlice view => view.Sees txn
  | .limited view => fun rows => exists all, view.source.Sees txn all ∧ rows = all.take view.limit
  | .selection view => fun rows => exists all, view.source.Sees txn all ∧
      rows = (capped view.limit all).map (projectRow (columnIndices schema view.columns))

theorem TableSlice.Sees.unique {txn : TxnId} {slice : TableSlice schema} {first second : List (Row S)}
    (firstly : slice.Sees txn first) (secondly : slice.Sees txn second) : first = second :=
  Enumerates.unique firstly secondly

theorem Handle.Sees.unique {txn : TxnId} {handle : Handle schema} {first second : List (Row S)}
    (firstly : handle.Sees txn first) (secondly : handle.Sees txn second) : first = second := by
  cases handle with
  | file owner => exact Enumerates.unique firstly secondly
  | localTable table => exact Enumerates.unique firstly secondly
  | tableSlice view => exact TableSlice.Sees.unique firstly secondly
  | limited view =>
      rcases firstly with ⟨all, sees, rfl⟩
      rcases secondly with ⟨others, otherSees, rfl⟩
      rw [sees.unique otherSees]
  | selection view =>
      rcases firstly with ⟨all, sees, rfl⟩
      rcases secondly with ⟨others, otherSees, rfl⟩
      rw [sees.unique otherSees]

/-! ## Versions which resurface -/

/-- A local table has one version of each row. -/
def TableSource.Resurfaces (txn : TxnId) (range : Range S) : TableSource schema -> Row S -> Prop
  | .file owner => Table.Resurfaces range (owner.state.visibleSnapshot txn)
  | .localTable _ => fun _ => False

/-- The limit is used up before any version which resurfaces. -/
def TableSlice.Clear (txn : TxnId) (limit : Option Nat) (slice : TableSlice schema) : Prop :=
  forall row, slice.table.Resurfaces txn slice.range row ->
    exists rows, slice.Sees txn rows ∧
      UsedUp (RowCollator.forOrder schema [] slice.reverse).cmp rows limit row

def Handle.Clear (txn : TxnId) : Handle schema -> Prop
  | .file _ | .localTable _ => True
  | .tableSlice view => view.Clear txn none
  | .limited view => view.source.Clear txn (some view.limit)
  | .selection view => view.source.Clear txn view.limit

/-- The table under a handle. -/
def Handle.source : Handle schema -> TableSource schema
  | .file owner => .file owner
  | .localTable table => .localTable table
  | .tableSlice view => view.table
  | .limited view => view.source.table
  | .selection view => view.source.table

namespace TableSource

variable {ops : TableOps S} {txn : TxnId} {range : Range S}

/-- A source lists the visible rows of the range, and those which resurface. -/
theorem mem_listed_natural_iff (source : TableSource schema) (apart : source.Apart txn) {reverse : Bool}
    {row : Row S} : row ∈ source.listed ops txn range [] reverse <->
      (schema.admits range row = true ∧ BoundIn (source.view txn) row) ∨ source.Resurfaces txn range row := by
  cases source with
  | file owner =>
      apply (mem_scanned_natural_iff ops apart).trans
      exact or_congr_left (and_congr_right (fun _ => shown_iff))
  | localTable table =>
      change row ∈ table.sortedRows range [] reverse <-> _ ∨ False
      rw [table.mem_sortedRows, table.mem_allRows, and_comm, or_false]
      exact Iff.rfl

/-- A version which resurfaces is not visible. -/
theorem Resurfaces.not_bound {source : TableSource schema} (apart : source.Apart txn) {row : Row S}
    (resurfaces : source.Resurfaces txn range row) : ¬ BoundIn (source.view txn) row := by
  intro bound
  cases source with
  | file owner =>
      have outside := Table.Resurfaces.outside apart resurfaces (shown_iff.mpr bound) rfl
      rcases resurfaces with ⟨_, _, _, admitted, _⟩
      cases admitted.symm.trans outside
  | localTable table => exact resurfaces

end TableSource

/-! ## Streams and what is seen -/

section Streams

variable {ops : TableOps S} {txn : TxnId}

/-- The whole of a source. -/
theorem TableSource.sees (source : TableSource schema) (ops : TableOps S) (apart : source.Apart txn) :
    Enumerates compare false (BoundIn (source.view txn)) (source.listed ops txn Range.default [] false) := by
  refine ⟨(source.listing ops txn Range.default false).rows_strict, ?_⟩
  intro row
  have unbounded : Range.OnKeys (Range.default : Range S) schema := fun _ _ => rfl
  rw [mem_listed_iff source apart unbounded, schema.admits_default, and_iff_right rfl]

/-- The visible rows of a slice are those of its table which are in range. -/
theorem TableSlice.sees (slice : TableSlice schema) (apart : slice.table.Apart txn) :
    exists rows, slice.Sees txn rows ∧
      StrictlyAscending (RowCollator.forOrder schema [] slice.reverse).cmp rows := by
  have unbounded : Range.OnKeys (Range.default : Range S) schema := fun _ _ => rfl
  have whole := slice.table.listing TableOps.reference txn Range.default slice.reverse
  refine ⟨(slice.table.listed TableOps.reference txn Range.default [] slice.reverse).filter
    (schema.admits slice.range), ⟨?_, ?_⟩, ?_⟩
  · apply (whole.sublist ?_).rows_strict
    cases slice.reverse with
    | false => exact List.filter_sublist
    | true => exact List.filter_sublist.reverse
  · intro row
    rw [List.mem_filter, TableSource.mem_listed_iff slice.table apart unbounded, schema.admits_default,
      and_iff_right rfl, and_comm]
  · exact (slice.table.listed_strict TableOps.reference txn Range.default slice.reverse).filter _

/-- The first rows which a slice streams are the first which are seen through it
if and only if no version resurfaces among them. -/
theorem TableSlice.capped_eq_iff {slice : TableSlice schema} (apart : slice.table.Apart txn)
    {seen : List (Row S)} (sees : slice.Sees txn seen) {A : Type} {image : Row S -> A}
    (distinct : (slice.table.listed ops txn slice.range [] slice.reverse).Pairwise
      (fun first second => image first ≠ image second)) (limit : Option Nat) :
    (capped limit seen).map image =
        (capped limit (slice.table.listed ops txn slice.range [] slice.reverse)).map image <->
      slice.Clear txn limit := by
  have strict : StrictlyAscending (RowCollator.forOrder schema [] slice.reverse).cmp seen := by
    rcases slice.sees apart with ⟨rows, also, strict⟩
    rwa [sees.unique also]
  have within : forall row, row ∈ seen -> row ∈ slice.table.listed ops txn slice.range [] slice.reverse := by
    intro row member
    exact (TableSource.mem_listed_natural_iff slice.table apart).mpr (Or.inl ((sees.mem_iff row).mp member))
  apply (capped_map_eq_iff strict (slice.table.listed_strict ops txn slice.range slice.reverse) within
    distinct limit).trans
  constructor
  · intro used row resurfaces
    refine ⟨seen, sees, used row ?_ ?_⟩
    · exact (TableSource.mem_listed_natural_iff slice.table apart).mpr (Or.inr resurfaces)
    · intro member
      exact resurfaces.not_bound apart ((sees.mem_iff row).mp member).2
  · intro clear row listed unseen
    rcases (TableSource.mem_listed_natural_iff slice.table apart).mp listed with visible | resurfaces
    · exact absurd ((sees.mem_iff row).mpr visible) unseen
    · rcases clear row resurfaces with ⟨rows, also, used⟩
      rwa [sees.unique also]

/-- A handle streams what is seen through it if and only if it is clear. -/
theorem Handle.Natural.sees {reverse : Bool} {handle : Handle schema} (natural : handle.Natural ops reverse)
    (apart : handle.source.Apart txn) :
    exists seen, handle.Sees txn seen ∧ (seen = handle.listed ops txn <-> handle.Clear txn) := by
  have plain : forall {slice : TableSlice schema}, slice.table.Apart txn -> forall {seen : List (Row S)},
      slice.Sees txn seen -> forall limit : Option Nat,
        capped limit seen = capped limit (slice.table.listed ops txn slice.range [] slice.reverse) <->
          slice.Clear txn limit := by
    intro slice apart seen sees limit
    have nodup := nodup_forward.mp (slice.table.listing ops txn slice.range slice.reverse).rows_strict.nodup
    have equal : (capped limit seen).map id =
        (capped limit (slice.table.listed ops txn slice.range [] slice.reverse)).map id <->
          slice.Clear txn limit := slice.capped_eq_iff apart sees nodup limit
    rwa [List.map_id, List.map_id] at equal
  cases natural with
  | file owner => exact ⟨_, (TableSource.file owner).sees ops apart, iff_of_true rfl trivial⟩
  | localTable table => exact ⟨_, (TableSource.localTable table).sees ops apart, iff_of_true rfl trivial⟩
  | @tableSlice view natural =>
      rcases view.sees apart with ⟨seen, sees, _⟩
      exact ⟨seen, sees, plain apart sees none⟩
  | @limited view natural =>
      rcases view.source.sees apart with ⟨seen, sees, _⟩
      exact ⟨_, ⟨seen, sees, rfl⟩, plain apart sees (some view.limit)⟩
  | @selection view columns natural selected distinct =>
      rcases view.source.sees apart with ⟨seen, sees, _⟩
      refine ⟨_, ⟨seen, sees, rfl⟩, TableSlice.capped_eq_iff apart sees ?_ view.limit⟩
      rcases projects_of_project selected with ⟨projects, names⟩
      have listing := projects.listing distinct
        (view.source.table.listing ops txn view.source.range view.source.reverse)
      rw [← names, ← forward_map] at listing
      exact List.pairwise_map.mp (nodup_forward.mp listing.rows_strict.nodup)

end Streams

/-! ## What a copy holds -/

section Copies

variable {ops : TableOps S} {txn : TxnId} {reverse : Bool}

/-- A copy holds the rows which were streamed. -/
theorem Handle.copyInto_streamed {handle : Handle schema} {rows : List (Row S)}
    (yields : (handle.rowStream ops txn).1 = .ok rows)
    (listing : Listing handle.semanticSchema (forward reverse rows)) :
    exists table : TableLock handle.semanticSchema,
      (handle.copyInto ops txn).1 = .ok (CollectionOwner.new table) ∧
        forall row, row ∈ table.allRows <-> row ∈ rows := by
  have loads : forall row, row ∈ rows -> forall before after, loadRow row before = .ok ⟨⟩ after ->
      loadLiteralRow (id row) (CollectionOwner.new before : PersistentTable handle.semanticSchema) =
        .ok ⟨⟩ (CollectionOwner.new after) :=
    fun row member before after loaded =>
      loadLiteralRow_loads (listing.valid row (mem_forward.mpr member)) loaded
  rcases listing.loads loads with ⟨table, loaded, holds⟩
  refine ⟨table, ?_, holds⟩
  rw [List.map_id] at loaded
  rw [copyInto, yields]
  change copyRows handle.semanticSchema rows = _
  rw [copyRows, loaded]

/-- A new transactional table shows its canonical storage to everyone. -/
theorem apart_new (table : TableLock schema) (txn : TxnId) :
    TableSource.Apart txn (.file (CollectionOwner.new table) : TableSource schema) := by
  intro delta member
  change delta ∈ ((State.new table : TableState schema).visibleSnapshot txn).deltas at member
  rw [State.new_visibleSnapshot] at member
  cases member

theorem listed_new (ops : TableOps S) (table : TableLock schema) (txn : TxnId) :
    (TableSource.file (CollectionOwner.new table)).listed ops txn Range.default [] false =
      (TableSource.localTable table).listed ops txn Range.default [] false := by
  have shown : TableSource.view txn (.file (CollectionOwner.new table) : TableSource schema) =
      (TableSource.localTable table).view txn := State.view_new table txn
  exact TableSource.listed_of_view (.file (CollectionOwner.new table)) (.localTable table) ops
    (apart_new table txn) trivial shown

end Copies

end Table
end TransactionalCollection
