import TransactionalCollection.Persistence.Repeat
import TransactionalCollection.Streaming.StableStream
import TransactionalCollection.Table.KeyRange

namespace TransactionalCollection
namespace Table

open Std (TransCmp ReflCmp OrientedCmp)
open Layering Native Execution Persistence Streaming

/-!
# Reads of a table

A point read is a function of the view.  A scan is one only where it is exact,
that is where it drops the overridden versions of its range and no others.
Otherwise it depends on the versions themselves, which a finalization replaces
by what they come to.  Either way a scan does not notice a delta which holds no
key that could be in its range.
-/

variable {S : Signature} {schema : TableSchema S}

/-! ## Ties -/

/-- A collator in a direction, and then the keys in the same direction. -/
def tiedCmp (schema : TableSchema S) (order : List S.Id) (reverse : Bool) : Row S -> Row S -> Ordering :=
  compareLex (RowCollator.forOrder schema order reverse).cmp (RowCollator.forOrder schema [] reverse).cmp

instance (order : List S.Id) (reverse : Bool) : TransCmp (tiedCmp schema order reverse) :=
  inferInstanceAs (TransCmp (compareLex _ _))

namespace TableLock

variable (table : TableLock schema)

/-- A native stream has its ties in key order. -/
theorem sortedRows_strict (range : Range S) (order : List S.Id) (reverse : Bool) :
    StrictlyAscending (tiedCmp schema order reverse) (table.sortedRows range order reverse) := by
  have natural : StrictlyAscending (RowCollator.forOrder schema [] false).cmp
      (table.allRows.filter (schema.admits range)) := table.allRows_strict.filter _
  have forward : StrictlyAscending (tiedCmp schema order false) (table.sortedRows range order false) := by
    unfold sortedRows
    cases empty : order.isEmpty with
    | true =>
        have unordered : order = [] := List.isEmpty_iff.mp empty
        subst unordered
        refine natural.imp (fun {first second} less => ?_)
        rw [tiedCmp, compareLex, less]
        rfl
    | false =>
        have sorted := ascending_insertionSort (tiedCmp schema order false)
          (table.allRows.filter (schema.admits range))
        have distinct := ((List.perm_insertionSort
          (fun left right => tiedCmp schema order false left right ≠ .gt)
          (table.allRows.filter (schema.admits range))).pairwise_iff
            (R := fun first second => (RowCollator.forOrder schema [] false).cmp first second ≠ .eq)
            (fun apart same => apart (OrientedCmp.eq_symm same))).mpr
          (natural.imp (fun less => by rw [less]; decide))
        refine (sorted.and distinct).imp ?_
        rintro first second ⟨notAfter, keysDiffer⟩
        cases compared : tiedCmp schema order false first second with
        | lt => rfl
        | gt => exact absurd compared notAfter
        | eq => exact absurd (compareLex_eq_eq.mp compared).2 keysDiffer
  cases reverse with
  | false => exact forward
  | true =>
      have backward : table.sortedRows range order true =
          (table.sortedRows range order false).reverse := rfl
      rw [backward, StrictlyAscending, List.pairwise_reverse]
      refine forward.imp (fun {first second} less => ?_)
      rwa [tiedCmp, compareLex, RowCollator.cmp_reverse, RowCollator.cmp_reverse]

end TableLock

theorem scanned_strict {ops : TableOps S} (stable : ops.streams.Stable) (snapshot : TableSnapshot schema)
    (range : Range S) (order : List S.Id) (reverse : Bool) :
    StrictlyAscending (tiedCmp schema order reverse) (scanned ops snapshot range order reverse) := by
  refine scan_tiesOrdered stable (fun layer member => ?_)
    (snapshot.persistent.sortedRows_strict range order reverse)
  rcases List.mem_map.mp member with ⟨delta, _, rfl⟩
  exact ⟨delta.inserts.sortedRows_strict range order reverse,
    delta.deletes.sortedRows_strict range order reverse⟩

/-! ## What a scan depends on -/

/-- The key of a row in range is a key of the range. -/
theorem TableSchema.admitsKey_of_admits {range : Range S} {key : Key S} {values : List S.Value}
    (arity : key.length = schema.key.length) (admitted : schema.admits range (key ++ values) = true) :
    schema.admitsKey range key = true := by
  rw [admits, columns, List.zip_append arity.symm, List.all_append, Bool.and_eq_true] at admitted
  exact admitted.1

theorem TableLock.sortedRows_eq_nil {table : TableLock schema} {range : Range S}
    (absent : forall key, schema.admitsKey range key = true -> table.rows[key]? = none)
    (order : List S.Id) (reverse : Bool) : table.sortedRows range order reverse = [] := by
  refine List.eq_nil_iff_forall_not_mem.mpr (fun row member => ?_)
  rcases table.mem_sortedRows.mp member with ⟨stored, admitted⟩
  rcases table.mem_allRows.mp stored with ⟨key, values, found, rfl⟩
  have arity := (table.valid key values found).1.1
  rw [absent key (TableSchema.admitsKey_of_admits arity admitted)] at found
  cases found

/-- A scan does not notice a delta without a key of its range. -/
theorem scanned_unnoticed {ops : TableOps S} (stable : ops.streams.Stable) {range : Range S}
    (order : List S.Id) (reverse : Bool) (persistent : TableLock schema) (below : List (Delta schema))
    {delta : Delta schema} (above : List (Delta schema))
    (silent : forall key, schema.admitsKey range key = true -> overlay delta key = none) :
    scanned ops ⟨persistent, below ++ delta :: above⟩ range order reverse =
      scanned ops ⟨persistent, below ++ above⟩ range order reverse := by
  have absent : forall key, schema.admitsKey range key = true ->
      delta.inserts.rows[key]? = none ∧ delta.deletes.rows[key]? = none := by
    intro key admitted
    have unanswered := mt overlay_ne_none_iff.mpr (not_not_intro (silent key admitted))
    rw [not_or, not_not, not_not] at unanswered
    exact unanswered
  have layer : delta.streamLayer range order reverse = ⟨[], []⟩ := by
    rw [Delta.streamLayer, TableLock.sortedRows_eq_nil (fun key admitted => (absent key admitted).1),
      TableLock.sortedRows_eq_nil (fun key admitted => (absent key admitted).2)]
  unfold scanned
  rw [List.map_append, List.map_cons, List.map_append, layer]
  exact scan_nil_between stable (streamLayers_sorted below range order reverse)
    (persistent.sortedRows_ascending range order reverse)

theorem Shown.of_same {first second : TableSnapshot schema} {range : Range S} {row : Row S}
    (same : forall key, schema.admitsKey range key = true -> first.view key = second.view key)
    (admitted : schema.admits range row = true) (shown : Shown first row) : Shown second row := by
  rcases shown_iff.mp shown with ⟨key, values, viewed, rfl⟩
  have inside := TableSchema.admitsKey_of_admits (valid_of_view viewed).1.1 admitted
  exact shown_iff.mpr ⟨key, values, (same key inside).symm.trans viewed, rfl⟩

/-- Exact scans of two snapshots which have the same keys in range are the same. -/
theorem scanned_congr {ops : TableOps S} (stable : ops.streams.Stable)
    {first second : TableSnapshot schema} {range : Range S} {order : List S.Id} (reverse : Bool)
    (firstExact : DropsOverridden range order first) (secondExact : DropsOverridden range order second)
    (same : forall key, schema.admitsKey range key = true -> first.view key = second.view key) :
    scanned ops first range order reverse = scanned ops second range order reverse := by
  refine (scanned_strict stable first range order reverse).ext
    (scanned_strict stable second range order reverse) (fun row => ?_)
  rw [(scan_exact_iff ops _).mpr firstExact row, (scan_exact_iff ops _).mpr secondExact row]
  refine and_congr_right (fun admitted => ⟨fun shown => ?_, fun shown => ?_⟩)
  · exact shown.of_same same admitted
  · exact shown.of_same (fun key inside => (same key inside).symm) admitted

/-- Without an index for its range and order a scan fails in the same way on
every snapshot. -/
theorem visibleRows_congr {ops : TableOps S} {first second : TableSnapshot schema} {range : Range S}
    {order : List S.Id} {reverse : Bool}
    (same : scanned ops first range order reverse = scanned ops second range order reverse) :
    visibleRows ops first range order reverse = visibleRows ops second range order reverse ∧
      openRows ops first range order reverse = openRows ops second range order reverse := by
  cases planned : ops.plan schema range order with
  | ok =>
      rw [visibleRows_supported planned, visibleRows_supported planned, openRows_supported planned,
        openRows_supported planned, same]
      exact ⟨rfl, rfl⟩
  | error error =>
      unfold visibleRows openRows rowStream
      rw [planned]
      exact ⟨rfl, rfl⟩

/-! ## The reads -/

/-- A call which reads a table. -/
inductive TableRead (S : Signature) where
  | readRow (key : Key S)
  | containsRow (key : Key S)
  | count
  | countIn (range : Range S)
  | forEachRowInOrder (range : Range S) (order : List S.Id) (reverse : Bool)
  | rows (range : Range S) (order : List S.Id) (reverse : Bool)
  | isEmpty
  | isEmptyIn (range : Range S)

inductive TableAnswer (S : Signature) where
  | row (found : Except Panic (Option (Row S)))
  | found (present : Except Panic Bool)
  | counted (count : Except Panic Nat)
  | called (rows : Except Panic (List (Row S)))
  | yielded (rows : Except (Failure LockError) (List (Row S)))

namespace TableRead

/-- What the read answers, and the owner once it has its permit. -/
def perform (ops : TableOps S) (txn : TxnId) (owner : PersistentTable schema) :
    TableRead S -> TableAnswer S × PersistentTable schema
  | .readRow key => (Table.readRow txn key owner).map .row id
  | .containsRow key => (Table.containsRow txn key owner).map .found id
  | .count => (Table.count ops txn owner).map .counted id
  | .countIn range => (Table.countIn ops txn range owner).map .counted id
  | .forEachRowInOrder range order reverse =>
      (Table.forEachRowInOrder ops txn range order reverse owner).map .called id
  | .rows range order reverse => (Table.rows ops txn range order reverse owner).map .yielded id
  | .isEmpty => (.found (Table.isEmpty ops txn owner), owner)
  | .isEmptyIn range => (.found (Table.isEmptyIn ops txn range owner), owner)

/-- The range the read reserves, if it does. -/
def permit : TableRead S -> Option (SetRange (Key S))
  | .readRow key | .containsRow key => some (.one key)
  | .count | .countIn _ | .forEachRowInOrder _ _ _ | .rows _ _ _ => some .all
  | .isEmpty | .isEmptyIn _ => none

/-- The range, order and direction the read scans in, if it does. -/
def scan : TableRead S -> Option (Range S × List S.Id × Bool)
  | .readRow _ | .containsRow _ => none
  | .count | .isEmpty => some (Range.default, [], false)
  | .countIn range | .isEmptyIn range => some (range, [], false)
  | .forEachRowInOrder range order reverse | .rows range order reverse => some (range, order, reverse)

/-- The keys the answer depends on. -/
def scope (schema : TableSchema S) : TableRead S -> Key S -> Prop
  | .readRow key | .containsRow key => fun other => other = key
  | .count | .isEmpty => fun key => schema.admitsKey Range.default key = true
  | .countIn range | .isEmptyIn range | .forEachRowInOrder range _ _ | .rows range _ _ =>
      fun key => schema.admitsKey range key = true

variable (ops : TableOps S) (txn : TxnId)

theorem perform_owner (owner : PersistentTable schema) (read : TableRead S) :
    (read.perform ops txn owner).2 = owner.permitted txn read.permit := by
  cases read <;> rfl

/-- A permit covers all that the answer depends on. -/
theorem permit_covers (read : TableRead S) {range : SetRange (Key S)}
    (permitted : read.permit = some range) (key : Key S) (inside : read.scope schema key) :
    range.Covers key := by
  cases read with
  | readRow | containsRow => exact Option.some.inj permitted ▸ inside.symm
  | count | countIn | forEachRowInOrder | rows => exact Option.some.inj permitted ▸ trivial
  | isEmpty | isEmptyIn => cases permitted

theorem scope_of_scan {read : TableRead S} {range : Range S} {order : List S.Id} {reverse : Bool}
    (scans : read.scan = some (range, order, reverse)) :
    read.scope schema = fun key => schema.admitsKey range key = true := by
  cases read <;> cases scans <;> rfl

/-- The answer is that of the scan, or that of a lookup in the scope. -/
theorem perform_congr {first second : PersistentTable schema} (read : TableRead S)
    (distinct : read.scan = none -> schema.KeysDistinct)
    (point : read.scan = none -> forall key, read.scope schema key ->
      first.state.view txn key = second.state.view txn key)
    (scans : forall range order reverse, read.scan = some (range, order, reverse) ->
      scanned ops (first.state.visibleSnapshot txn) range order reverse =
        scanned ops (second.state.visibleSnapshot txn) range order reverse) :
    (read.perform ops txn first).1 = (read.perform ops txn second).1 := by
  have listed : forall range order reverse, read.scan = some (range, order, reverse) ->
      visibleRows ops (first.state.visibleSnapshot txn) range order reverse =
          visibleRows ops (second.state.visibleSnapshot txn) range order reverse ∧
        openRows ops (first.state.visibleSnapshot txn) range order reverse =
          openRows ops (second.state.visibleSnapshot txn) range order reverse :=
    fun range order reverse here => visibleRows_congr (scans range order reverse here)
  have looked : forall key, read.scan = none -> read.scope schema key ->
      resolveRow (first.state.visibleSnapshot txn) key = resolveRow (second.state.visibleSnapshot txn) key := by
    intro key unscanned inside
    apply resolveRow_congr
    intro arity
    rw [settled_of_distinct (distinct unscanned) arity]
    exact point unscanned key inside
  cases read with
  | readRow key => exact congrArg TableAnswer.row (looked key rfl rfl)
  | containsRow key =>
      exact congrArg
        (fun row : Except Panic (Option (Row S)) => TableAnswer.found (row.map Option.isSome))
        (looked key rfl rfl)
  | count | countIn =>
      exact congrArg
        (fun rows : Except Panic (List (Row S)) => TableAnswer.counted (rows.map List.length))
        (listed _ _ _ rfl).1
  | forEachRowInOrder => exact congrArg TableAnswer.called (listed _ _ _ rfl).1
  | rows => exact congrArg TableAnswer.yielded (listed _ _ _ rfl).2
  | isEmpty | isEmptyIn =>
      exact congrArg (fun rows : Except Panic (List (Row S)) =>
        TableAnswer.found ((rows.map (fun rows => !rows.isEmpty)).map not)) (listed _ _ _ rfl).1

end TableRead

/-! ## Reading a table twice -/

theorem tableDriver_readsOnly (ops : TableOps S) (schema : TableSchema S) :
    ReadsOnly (tableDriver ops schema) :=
  fun reader _ => ⟨reader.1, reader.2, rfl⟩

theorem tableDriver_allReaders (ops : TableOps S) (schema : TableSchema S) :
    AllReaders (tableDriver ops schema) :=
  fun txn range => ⟨(txn, range), fun _ => rfl⟩

namespace TableRead

/-- If the read is a scan, then it drops what is overridden and nothing else.
Over keys in natural order it always does. -/
def Exact (read : TableRead S) (snapshot : TableSnapshot schema) : Prop :=
  forall range order reverse, read.scan = some (range, order, reverse) ->
    order = [] ∧ range.OnKeys schema ∨ DropsOverridden range order snapshot

/-- What a read needs of a step until it is repeated: it has a permit or is
spared, and it is exact both times or nothing is merged. -/
def Kept {ops : TableOps S} (read : TableRead S) (txn : TxnId) (first last : TableSnapshot schema)
    (config : Config (Delta schema) (TableLock schema) (Key S))
    (action : Action (tableDriver ops schema)) : Prop :=
  Spared read.permit (read.scope schema) txn config action ∧
    (Unmerged config action ∨ read.Exact first ∧ read.Exact last)

theorem Exact.dropsOverridden {read : TableRead S} {snapshot : TableSnapshot schema}
    (exactly : read.Exact snapshot) (apart : AllApart snapshot) {range : Range S} {order : List S.Id}
    {reverse : Bool} (scans : read.scan = some (range, order, reverse)) :
    DropsOverridden range order snapshot := by
  rcases exactly range order reverse scans with ⟨rfl, onKeys⟩ | drops
  · exact dropsOverridden_of_onKeys apart onKeys
  · exact drops

/-- A table answers a read as it did before, provided each step in between keeps
it so. -/
theorem repeats {ops : TableOps S} (stable : ops.streams.Stable) {read : TableRead S}
    (distinct : read.scan = none -> schema.KeysDistinct)
    {first last : Config (Delta schema) (TableLock schema) (Key S)}
    (reachable : Reachable (tableDriver ops schema) first) {txn : TxnId}
    (ready : first.owner.Ready txn read.permit)
    (between : Between (tableDriver ops schema) txn
      (read.Kept txn (first.state.visibleSnapshot txn) (last.state.visibleSnapshot txn))
      { first with owner := (read.perform ops txn first.owner).2 } last) :
    (read.perform ops txn last.owner).1 = (read.perform ops txn first.owner).1 := by
  rw [perform_owner] at between
  have readers := tableDriver_allReaders ops schema
  have began := reachable.permitted readers ready
  have guarded := between.guarded (tableDriver_readsOnly ops schema) readers reachable ready
    (fun _ => read.permit_covers) (fun _ _ kept => kept.1)
  have unchanged := first.owner.permitted_state txn read.permit
  have same : forall key, read.scope schema key ->
      last.state.view txn key = first.state.view txn key := by
    intro key inside
    have viewed := guarded.view_eq (fun _ _ both => both.2) began inside
    exact viewed.trans (congrArg (fun state : TableState schema => state.view txn key) unchanged)
  refine read.perform_congr ops txn distinct (fun _ => same) (fun range order reverse scans => ?_)
  rw [scope_of_scan scans] at same guarded
  by_cases exactly : read.Exact (first.state.visibleSnapshot txn) ∧
      read.Exact (last.state.visibleSnapshot txn)
  · exact scanned_congr stable reverse
      (exactly.2.dropsOverridden (allApart_of_reachable (guarded.reachable began) txn) scans)
      (exactly.1.dropsOverridden (allApart_of_reachable reachable txn) scans) same
  · have observed := guarded.observed_eq
      (fun snapshot => scanned ops snapshot range order reverse)
      (fun persistent below delta above => scanned_unnoticed stable order reverse persistent below above)
      (fun _ _ both => both.2) (fun _ _ both => both.1.2.resolve_right exactly)
    exact observed.trans (congrArg
      (fun state : TableState schema => scanned ops (state.visibleSnapshot txn) range order reverse)
      unchanged)

end TableRead

end Table
end TransactionalCollection
