import TransactionalCollection.Table.Handle
import TransactionalCollection.Table.RangeWrites

namespace TransactionalCollection
namespace Table

open Layering Native Execution Persistence Streaming

/-!
# Reading through views

Each kind of view has a row stream, a count, an emptiness test and a visitor of
its own.  A slice forwards all four to its table, a limited view caps all four,
and a selection caps only its row stream.  So the four answers of a selection
agree as long as there is nothing to cap.
-/

variable {S : Signature} {schema : TableSchema S}

/-! ## Rows as views -/

/-- Views with keys of one length which bind the same rows are the same. -/
theorem view_ext_of_rows {first second : View (Key S) (List S.Value)} {width : Nat}
    (firstArity : forall key values, first key = some values -> key.length = width)
    (secondArity : forall key values, second key = some values -> key.length = width)
    (same : forall row, BoundIn first row <-> BoundIn second row) : first = second := by
  have within : forall {left right : View (Key S) (List S.Value)},
      (forall key values, left key = some values -> key.length = width) ->
      (forall key values, right key = some values -> key.length = width) ->
      (forall row, BoundIn left row -> BoundIn right row) ->
      forall key values, left key = some values -> right key = some values := by
    intro left right leftArity rightArity binds key values found
    rcases binds (key ++ values) ⟨key, values, found, rfl⟩ with ⟨other, others, foundThere, split⟩
    have lengths := (leftArity key values found).trans (rightArity other others foundThere).symm
    rcases List.append_inj split lengths with ⟨rfl, rfl⟩
    exact foundThere
  funext key
  apply Option.ext
  intro values
  constructor
  · exact within firstArity secondArity (fun row => (same row).mp) key values
  · exact within secondArity firstArity (fun row => (same row).mpr) key values

/-! ## Sources -/

namespace TableSource

/-- The rows of a source, whichever kind it is. -/
def listed (ops : TableOps S) (txn : TxnId) (range : Range S) (order : List S.Id) (reverse : Bool) :
    TableSource schema -> List (Row S)
  | .file owner => scanned ops (owner.state.visibleSnapshot txn) range order reverse
  | .localTable table => table.sortedRows range order reverse

variable {ops : TableOps S} {range : Range S}

theorem rows_eq {order : List S.Id} (supported : ops.plan schema range order = .ok ())
    (source : TableSource schema) (txn : TxnId) (reverse : Bool) :
    (source.rows ops txn range order reverse).1 = .ok (source.listed ops txn range order reverse) := by
  cases source with
  | file owner =>
      change ((Table.rows ops txn range order reverse owner).1).mapError lockFailure = _
      rw [rows_supported supported]
      rfl
  | localTable table =>
      change ((rowStream ops table range order reverse).mapError _) = _
      rw [rowStream, supported]
      rfl

theorem count_eq (supported : ops.plan schema range [] = .ok ()) (source : TableSource schema)
    (txn : TxnId) :
    (source.count ops txn range).1 = .ok (source.listed ops txn range [] false).length := by
  cases source with
  | file owner =>
      change ((countIn ops txn range owner).1).mapError Failure.panic = _
      rw [countIn_supported supported]
      rfl
  | localTable table =>
      change ((nativeCount ops table range).mapError _) = _
      rw [nativeCount, rowStream, supported]
      rfl

theorem isEmpty_eq (supported : ops.plan schema range [] = .ok ()) (source : TableSource schema)
    (txn : TxnId) :
    (source.isEmpty ops txn range).1 = .ok (source.listed ops txn range [] false).isEmpty := by
  cases source with
  | file owner =>
      change (isEmptyIn ops txn range owner).mapError Failure.panic = _
      rw [isEmptyIn_supported supported]
      rfl
  | localTable table =>
      change ((nativeIsEmpty ops table range).mapError _) = _
      rw [nativeIsEmpty, rowStream, supported]
      rfl

/-- Both directions list the same rows. -/
theorem listed_reverse_perm (source : TableSource schema) (ops : TableOps S) (txn : TxnId)
    (range : Range S) (order : List S.Id) (reverse : Bool) :
    (source.listed ops txn range order reverse).Perm (source.listed ops txn range order false) := by
  cases source with
  | file owner => exact scanned_reverse_perm ops _ range order reverse
  | localTable table =>
      cases reverse with
      | false => exact List.Perm.refl _
      | true => exact List.reverse_perm _

/-- In natural order a source lists its rows one way through their keys. -/
theorem listed_strict (source : TableSource schema) (ops : TableOps S) (txn : TxnId)
    (range : Range S) (reverse : Bool) :
    StrictlyAscending (RowCollator.forOrder schema [] reverse).cmp
      (source.listed ops txn range [] reverse) := by
  cases source with
  | file owner => exact scanned_natural_strict ops _ range reverse
  | localTable table => exact table.natural_strict range reverse

/-- The table itself as a handle. -/
def handle : TableSource schema -> Handle schema
  | .file owner => .file owner
  | .localTable table => .localTable table

theorem handle_slice (source : TableSource schema) (range : Range S) (order : List S.Id)
    (reverse : Bool) : source.handle.slice range order reverse = .ok ⟨source, range, order, reverse⟩ := by
  cases source with
  | file owner => rfl
  | localTable table => rfl

/-- The values a source shows under each key. -/
def view (txn : TxnId) : TableSource schema -> View (Key S) (List S.Value)
  | .file owner => owner.state.view txn
  | .localTable table => bindings table

/-- No delta of the source both inserts and deletes a key. -/
def Apart (txn : TxnId) : TableSource schema -> Prop
  | .file owner => AllApart (owner.state.visibleSnapshot txn)
  | .localTable _ => True

theorem valid_of_view (source : TableSource schema) {txn : TxnId} {key : Key S} {values : List S.Value}
    (viewed : source.view txn key = some values) : schema.ValidKey key ∧ schema.ValidValues values := by
  cases source with
  | file owner =>
      have shown : (owner.state.visibleSnapshot txn).view key = some values := viewed
      exact Table.valid_of_view shown
  | localTable table => exact table.valid key values viewed

/-- A range of keys lists what the source shows of it. -/
theorem mem_listed_iff (source : TableSource schema) {txn : TxnId} (apart : source.Apart txn)
    (onKeys : range.OnKeys schema) {reverse : Bool} {row : Row S} :
    row ∈ source.listed ops txn range [] reverse <->
      schema.admits range row = true ∧ BoundIn (source.view txn) row := by
  cases source with
  | file owner =>
      apply ((scan_exact_iff ops _).mpr (dropsOverridden_of_onKeys apart onKeys) row).trans
      exact and_congr_right (fun _ => shown_iff)
  | localTable table =>
      change row ∈ table.sortedRows range [] reverse <-> _
      rw [table.mem_sortedRows, table.mem_allRows, and_comm]
      exact Iff.rfl

/-- Sources which show the same list the same rows in natural order, whatever
their kinds and layers. -/
theorem listed_eq_of_view (first second : TableSource schema) {txn other : TxnId}
    (firstApart : first.Apart txn) (secondApart : second.Apart other)
    (same : first.view txn = second.view other) (onKeys : range.OnKeys schema) (reverse : Bool) :
    first.listed ops txn range [] reverse = second.listed ops other range [] reverse := by
  apply StrictlyAscending.ext (first.listed_strict ops txn range reverse)
    (second.listed_strict ops other range reverse)
  intro row
  rw [mem_listed_iff first firstApart onKeys, mem_listed_iff second secondApart onKeys, same]

/-- A range of keys lists those of all rows which it admits. -/
theorem listed_filter (source : TableSource schema) {txn : TxnId} (apart : source.Apart txn)
    (onKeys : range.OnKeys schema) (reverse : Bool) :
    source.listed ops txn range [] reverse =
      (source.listed ops txn Range.default [] reverse).filter (schema.admits range) := by
  have unbounded : Range.OnKeys (Range.default : Range S) schema := fun _ _ => rfl
  apply StrictlyAscending.ext (source.listed_strict ops txn range reverse)
    ((source.listed_strict ops txn Range.default reverse).filter _)
  intro row
  rw [List.mem_filter, mem_listed_iff source apart onKeys, mem_listed_iff source apart unbounded,
    schema.admits_default, and_comm]
  simp only [true_and]

end TableSource

/-- A transactional table after some run, or any local table. -/
inductive Stands (ops : TableOps S) : TableSource schema -> Prop where
  | file {config : Config (Delta schema) (TableLock schema) (Key S)}
      (reachable : Reachable (tableDriver ops schema) config) : Stands ops (.file config.owner)
  | localTable (table : TableLock schema) : Stands ops (.localTable table)

theorem Stands.apart {ops : TableOps S} {source : TableSource schema} (stands : Stands ops source)
    (txn : TxnId) : source.Apart txn := by
  cases stands with
  | file reachable => exact allApart_of_reachable reachable txn
  | localTable table => exact trivial

/-! ## The four answers -/

/-- What a view answers about its rows. -/
structure Readings (S : Signature) where
  rows : Except (Failure OpError) (List (Row S))
  count : Except (Failure OpError) Nat
  isEmpty : Except (Failure OpError) Bool
  visited : Except (Failure OpError) (List (Row S))

/-- All answers are about one sequence of rows. -/
def Readings.Agree (readings : Readings S) : Prop :=
  exists stream, readings.rows = .ok stream ∧ readings.count = .ok stream.length ∧
    readings.isEmpty = .ok stream.isEmpty ∧ readings.visited = .ok stream

def TableSlice.readings (ops : TableOps S) (txn : TxnId) (view : TableSlice schema) : Readings S where
  rows := (view.rows ops txn).1
  count := (view.count ops txn).1
  isEmpty := (view.isEmpty ops txn).1
  visited := (view.forEachRowInOrder ops txn).1

def Limited.readings (ops : TableOps S) (txn : TxnId) (view : Limited schema) : Readings S where
  rows := (view.rows ops txn).1
  count := (view.count ops txn).1
  isEmpty := (view.isEmpty ops txn).1
  visited := (view.forEachRowInOrder ops txn).1

def Selection.readings (ops : TableOps S) (txn : TxnId) (view : Selection schema) : Readings S where
  rows := (view.rows ops txn).1
  count := (view.count ops txn).1
  isEmpty := (view.isEmpty ops txn).1
  visited := (view.forEachRowInOrder ops txn).1

section Slices

variable {ops : TableOps S} {txn : TxnId} {slice : TableSlice schema} {stream : List (Row S)}

theorem TableSlice.readings_of_agree (agree : (slice.readings ops txn).Agree)
    (streamed : (slice.rows ops txn).1 = .ok stream) :
    (slice.count ops txn).1 = .ok stream.length ∧ (slice.isEmpty ops txn).1 = .ok stream.isEmpty ∧
      (slice.forEachRowInOrder ops txn).1 = .ok stream := by
  rcases agree with ⟨other, rows, counted, empty, visited⟩
  cases streamed.symm.trans rows
  exact ⟨counted, empty, visited⟩

theorem TableSlice.agrees (natural : slice.order = [])
    (supported : ops.plan schema slice.range [] = .ok ()) : (slice.readings ops txn).Agree := by
  have streamed := slice.table.rows_eq supported txn slice.reverse
  have shuffled := slice.table.listed_reverse_perm ops txn slice.range [] slice.reverse
  rw [← natural] at streamed
  refine ⟨_, streamed, ?_, ?_, streamed⟩
  · rw [natural, shuffled.length_eq]
    exact slice.table.count_eq supported txn
  · rw [natural, shuffled.isEmpty_eq]
    exact slice.table.isEmpty_eq supported txn

theorem Limited.agrees (agree : (slice.readings ops txn).Agree) (limit : Nat) :
    ((slice.limit limit).readings ops txn).Agree := by
  rcases agree with ⟨stream, rows, counted, empty, visited⟩
  have capped : ((slice.limit limit).rows ops txn).1 = .ok (stream.take limit) := by
    change ((slice.rows ops txn).1).map (List.take limit) = _
    rw [show (slice.rows ops txn).1 = .ok stream from rows]
    rfl
  refine ⟨stream.take limit, capped, ?_, ?_, ?_⟩
  · change (Limited.count ops txn (slice.limit limit)).1 = _
    unfold Limited.count
    split
    · rename_i zero
      rw [show limit = 0 from zero]
      rfl
    · change ((Limited.rows ops txn (slice.limit limit)).1).map List.length = _
      rw [capped]
      rfl
  · change (Limited.isEmpty ops txn (slice.limit limit)).1 = _
    unfold Limited.isEmpty
    split
    · rename_i zero
      rw [show limit = 0 from zero]
      rfl
    · rename_i positive
      change (slice.isEmpty ops txn).1 = _
      rw [show (slice.isEmpty ops txn).1 = .ok stream.isEmpty from empty]
      cases stream with
      | nil => rw [List.take_nil]
      | cons row rest =>
          rcases Nat.exists_eq_succ_of_ne_zero (show limit ≠ 0 from positive) with ⟨below, same⟩
          rw [same]
          rfl
  · change (Limited.forEachRowInOrder ops txn (slice.limit limit)).1 = _
    unfold Limited.forEachRowInOrder
    split
    · rename_i zero
      rw [show limit = 0 from zero]
      rfl
    · exact capped

/-- Without a limit a selection forwards everything. -/
theorem Selection.agrees (agree : (slice.readings ops txn).Agree) {selection : Selection schema}
    (selected : selection.source = slice) (unlimited : selection.limit = none) :
    (selection.readings ops txn).Agree := by
  rcases agree with ⟨stream, rows, counted, empty, visited⟩
  subst selected
  refine ⟨stream.map (projectRow (columnIndices schema selection.columns)), ?_, ?_, ?_, ?_⟩
  · change (selection.rows ops txn).1 = _
    rw [Selection.rows_of_streamed rows, unlimited]
    rfl
  · rw [List.length_map]
    exact counted
  · rw [List.isEmpty_map]
    exact empty
  · change ((selection.source.forEachRowInOrder ops txn).1).map _ = _
    rw [show (selection.source.forEachRowInOrder ops txn).1 = .ok stream from visited]
    rfl

/-- With a limit it caps its rows, and counts, tests and visits all of them. -/
theorem Selection.agrees_iff (agree : (slice.readings ops txn).Agree)
    (streamed : (slice.rows ops txn).1 = .ok stream) {selection : Selection schema}
    (selected : selection.source = slice) {limit : Nat} (limited : selection.limit = some limit) :
    (selection.readings ops txn).Agree <-> stream.length <= limit := by
  subst selected
  rcases TableSlice.readings_of_agree agree streamed with ⟨counted, empty, visited⟩
  have capped : (selection.rows ops txn).1 =
      .ok ((stream.take limit).map (projectRow (columnIndices schema selection.columns))) := by
    rw [Selection.rows_of_streamed streamed, limited]
    rfl
  constructor
  · rintro ⟨other, rows, counts, _⟩
    cases capped.symm.trans rows
    have lengths : stream.length = (stream.take limit).length := by
      have same := Except.ok.inj (counted.symm.trans counts)
      rwa [List.length_map] at same
    rw [List.length_take] at lengths
    omega
  · intro short
    rw [List.take_of_length_le short] at capped
    refine ⟨_, capped, ?_, ?_, ?_⟩
    · rw [List.length_map]
      exact counted
    · rw [List.isEmpty_map]
      exact empty
    · change ((selection.source.forEachRowInOrder ops txn).1).map _ = _
      rw [visited]
      rfl

end Slices

/-- What a projection is built from. -/
theorem TableSlice.select_projects {slice : TableSlice schema} {columns : List S.Id}
    {selection : Selection schema} (selected : slice.select columns = .ok selection) :
    schema.project columns = .ok (selection.schema, selection.columns) ∧
      selection = ⟨slice, selection.schema, selection.columns, none⟩ := by
  rcases except_bind_eq_ok.mp selected with ⟨_, projected, same⟩
  cases same
  exact ⟨projected, rfl⟩

theorem Limited.select_projects {view : Limited schema} {columns : List S.Id}
    {selection : Selection schema} (selected : view.select columns = .ok selection) :
    schema.project columns = .ok (selection.schema, selection.columns) ∧
      selection = ⟨view.source, selection.schema, selection.columns, some view.limit⟩ := by
  rcases except_bind_eq_ok.mp selected with ⟨_, projected, same⟩
  cases same
  exact ⟨projected, rfl⟩

/-- Every slice in natural order agrees with its row stream, and so do its
limits and its selections.  A selection of a limit does if and only if the slice
has no more rows than the limit. -/
theorem views_agree_iff (ops : TableOps S) {schema : TableSchema S} (txn : TxnId)
    (slice : TableSlice schema) (natural : slice.order = [])
    (supported : ops.plan schema slice.range [] = .ok ()) :
    (slice.readings ops txn).Agree ∧
    (forall limit, ((slice.limit limit).readings ops txn).Agree) ∧
    (forall columns selection, slice.select columns = .ok selection ->
      (selection.readings ops txn).Agree) ∧
    forall limit columns selection, (slice.limit limit).select columns = .ok selection ->
      ((selection.readings ops txn).Agree <->
        exists stream, (slice.rows ops txn).1 = .ok stream ∧ stream.length <= limit) := by
  have agree : (slice.readings ops txn).Agree := TableSlice.agrees natural supported
  refine ⟨agree, Limited.agrees agree, ?_, ?_⟩
  · intro columns selection selected
    have built := (TableSlice.select_projects selected).2
    exact Selection.agrees agree (congrArg Selection.source built) (congrArg Selection.limit built)
  · intro limit columns selection selected
    have built := (Limited.select_projects selected).2
    have source : selection.source = slice := congrArg Selection.source built
    have limited : selection.limit = some limit := congrArg Selection.limit built
    rcases agree with ⟨stream, rows, others⟩
    have exact_limit := Selection.agrees_iff ⟨stream, rows, others⟩ rows source limited
    constructor
    · intro agreed
      exact ⟨stream, rows, exact_limit.mp agreed⟩
    · rintro ⟨other, streamed, short⟩
      cases streamed.symm.trans rows
      exact exact_limit.mpr short

/-- Two rows of a table. -/
def twoPairs : TableLock pairSchema :=
  (TableLock.empty.put [Signature.number 1] [Signature.number 5] (by decide) (by decide)).put
    [Signature.number 2] [Signature.number 6] (by decide) (by decide)

/-- The whole of the table. -/
def allPairs : TableSlice pairSchema := ⟨.localTable twoPairs, Range.default, [], false⟩

theorem views_agree_iff_allPairs :
    (allPairs.readings TableOps.reference 1).Agree ∧
    (forall limit, ((allPairs.limit limit).readings TableOps.reference 1).Agree) ∧
    (forall columns selection, allPairs.select columns = .ok selection ->
      (selection.readings TableOps.reference 1).Agree) ∧
    forall limit columns selection, (allPairs.limit limit).select columns = .ok selection ->
      ((selection.readings TableOps.reference 1).Agree <->
        exists stream, (allPairs.rows TableOps.reference 1).1 = .ok stream ∧ stream.length <= limit) :=
  views_agree_iff TableOps.reference 1 allPairs rfl rfl

/-- The selection yields one row and counts two. -/
theorem selection_disagrees_allPairs :
    exists selection,
      (allPairs.limit 1).select [Signature.column 0, Signature.column 1] = .ok selection ∧
      ¬ (selection.readings TableOps.reference 1).Agree := by
  have agree : (allPairs.readings TableOps.reference 1).Agree := TableSlice.agrees rfl rfl
  have streamed := allPairs.table.rows_eq (rfl : TableOps.reference.plan pairSchema Range.default [] = _)
    1 false
  refine ⟨_, rfl, ?_⟩
  intro disagrees
  have short := (Selection.agrees_iff agree streamed rfl rfl).mp disagrees
  revert short
  decide +kernel

end Table
end TransactionalCollection
