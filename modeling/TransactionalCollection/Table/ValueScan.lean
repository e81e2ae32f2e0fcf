import TransactionalCollection.Table.KeyRange

namespace TransactionalCollection
namespace Table

open Std (TransCmp OrientedCmp LawfulEqCmp)
open Layering Native Execution Persistence Streaming

/-!
# Scans by value columns

A range on value columns filters each version of a row by itself, and an order
by columns collates versions by values which an update may change.  Both are
applied before the versions are merged.  A scan is therefore right exactly when
the versions it can see cover one another as the keys do, which depends on the
rows stored and not only on the schema.
-/

variable {S : Signature} {schema : TableSchema S}

/-! ## Ranges -/

/-- Every overridden version of the range has a version of its key above it
which is in the range as well. -/
def OverriddenInRange (range : Range S) (snapshot : TableSnapshot schema) : Prop :=
  forall row own above, Stored snapshot row own above -> schema.admits range row = true ->
    Overridden above row -> exists delta, delta ∈ above ∧ HoldsInRange range row delta

theorem dropsOverridden_natural_iff {snapshot : TableSnapshot schema} (apart : AllApart snapshot)
    {range : Range S} : DropsOverridden range [] snapshot <-> OverriddenInRange range snapshot := by
  constructor
  · intro drops row own above stored admitted overridden
    exact (matched_natural_iff apart stored).mp ((drops row own above stored admitted).mp overridden)
  · intro covered row own above stored admitted
    rw [matched_natural_iff apart stored]
    constructor
    · exact covered row own above stored admitted
    · rintro ⟨delta, member, holds⟩
      exact ⟨delta, member, overlay_of_holdsInRange holds⟩

/-- The reads of a range show its visible rows, each once. -/
def ShowsVisibleRows (ops : TableOps S) (owner : PersistentTable schema) (txn : TxnId)
    (range : Range S) (reverse : Bool) : Prop :=
  exists stream, (rows ops txn range [] reverse owner).1 = .ok stream ∧ stream.Nodup ∧
    (forall row, row ∈ stream <-> schema.admits range row = true ∧
      exists key, resolveRow (owner.state.visibleSnapshot txn) key = .ok (some row)) ∧
    (countIn ops txn range owner).1 = .ok stream.length ∧
    isEmptyIn ops txn range owner = .ok stream.isEmpty

/-- The rows shown in the range are read under their own keys. -/
def SettledInRange (range : Range S) (snapshot : TableSnapshot schema) : Prop :=
  forall row, Shown snapshot row -> schema.admits range row = true -> Settled schema (keyOf schema row)

theorem settledInRange_of_distinct (distinct : schema.KeysDistinct) (range : Range S) (snapshot : TableSnapshot schema) :
    SettledInRange range snapshot := by
  intro row shown _
  rcases shown.viewed with ⟨values, viewed, _⟩
  exact settled_of_distinct distinct (valid_of_view viewed).1.1

section Exactness

variable {ops : TableOps S} {config : Config (Delta schema) (TableLock schema) (Key S)} {txn : TxnId}
  {range : Range S} {reverse : Bool}

/-- Every row shown in the range is in the stream, so it is read under its own key. -/
theorem ShowsVisibleRows.settledInRange (shows : ShowsVisibleRows ops config.owner txn range reverse)
    (apart : AllApart (config.owner.state.visibleSnapshot txn)) (supported : ops.plan schema range [] = .ok ()) :
    SettledInRange range (config.owner.state.visibleSnapshot txn) := by
  rcases shows with ⟨stream, yielded, _, exactly, _⟩
  rw [rows_supported supported] at yielded
  cases yielded
  intro row shown admitted
  exact (visible_iff.mp ((exactly row).mp (scanned_of_shown ops apart shown admitted)).2).1

/-- Where the rows in range are read under their own keys, a scan which is exact is what is asked. -/
theorem SettledInRange.showsVisibleRows_iff (settled : SettledInRange range (config.owner.state.visibleSnapshot txn))
    (supported : ops.plan schema range [] = .ok ()) :
    ShowsVisibleRows ops config.owner txn range reverse <->
      forall row, row ∈ scanned ops (config.owner.state.visibleSnapshot txn) range [] reverse <->
        schema.admits range row = true ∧ Shown (config.owner.state.visibleSnapshot txn) row := by
  constructor
  · rintro ⟨stream, yielded, _, exactly, _⟩
    rw [rows_supported supported] at yielded
    cases yielded
    refine fun row => (exactly row).trans (and_congr_right (fun admitted => ?_))
    exact visible_iff.trans (and_iff_right_of_imp (fun shown => settled row shown admitted))
  · intro exactly
    have sameLength := (scanned_reverse_perm ops (config.owner.state.visibleSnapshot txn)
      range [] reverse).length_eq
    have sameEmpty := (scanned_reverse_perm ops (config.owner.state.visibleSnapshot txn)
      range [] reverse).isEmpty_eq
    refine ⟨_, rows_supported supported reverse, scanned_nodup ops _ range [] reverse, fun row => ?_,
      by rw [countIn_supported supported, sameLength], by rw [isEmptyIn_supported supported, sameEmpty]⟩
    refine (exactly row).trans (and_congr_right (fun admitted => ?_))
    exact (visible_iff.trans (and_iff_right_of_imp (fun shown => settled row shown admitted))).symm

end Exactness

/-- Where key columns have names of their own, a supported range shows exactly its visible
rows if and only if no version of it is overridden from outside of it alone.  Elsewhere it
does so only if all rows shown in it are read under their own keys. -/
theorem showsVisibleRows_iff_overriddenInRange {ops : TableOps S} {schema : TableSchema S}
    {config : Config (Delta schema) (TableLock schema) (Key S)}
    (reachable : Reachable (tableDriver ops schema) config) (txn : TxnId) {range : Range S}
    (supported : ops.plan schema range [] = .ok ()) (reverse : Bool) :
    (schema.KeysDistinct ->
      (ShowsVisibleRows ops config.owner txn range reverse <->
        OverriddenInRange range (config.state.visibleSnapshot txn))) ∧
    (ShowsVisibleRows ops config.owner txn range reverse ->
      SettledInRange range (config.state.visibleSnapshot txn)) := by
  unfold Config.state
  have apart := allApart_of_reachable reachable txn
  constructor
  · intro distinct
    rw [← dropsOverridden_natural_iff apart, ← scan_exact_iff ops reverse]
    exact (settledInRange_of_distinct distinct range _).showsVisibleRows_iff supported
  · exact fun shows => shows.settledInRange apart supported

/-- The rows with value one. -/
def valueOne : Range Signature.numbers :=
  Range.default.insert (Signature.column 1) (.eq (Signature.number 1))

theorem showsVisibleRows_iff_overriddenInRange_valueOne :
    ShowsVisibleRows TableOps.reference overwritten.owner 3 valueOne false <->
      OverriddenInRange valueOne (overwritten.state.visibleSnapshot 3) :=
  (showsVisibleRows_iff_overriddenInRange overwritten_reachable 3 rfl false).1 (by decide)

/-- The second transaction moved the row out of the range, and the scan still
shows it with its old value. -/
theorem not_showsVisibleRows_overwritten :
    Reachable (tableDriver TableOps.reference pairSchema) overwritten ∧
      ¬ ShowsVisibleRows TableOps.reference overwritten.owner 3 valueOne false := by
  refine ⟨overwritten_reachable, ?_⟩
  rintro ⟨stream, yielded, _, exactly, _⟩
  rw [rows_supported rfl] at yielded
  cases yielded
  have shown : [Signature.number 7, Signature.number 1] ∈
      scanned TableOps.reference (overwritten.owner.state.visibleSnapshot 3) valueOne [] false := by
    decide +kernel
  rcases visible_iff.mp ((exactly _).mp shown).2 with ⟨settled, visible⟩
  have resolved := visible.resolved settled
  revert resolved
  decide +kernel

/-! ## Orders -/

/-- The order columns of a row, with nothing for a column it does not have. -/
def orderColumns (schema : TableSchema S) (order : List S.Id) (row : Row S) :
    List (Option S.Value) :=
  (order.filterMap (fun column =>
    schema.columns.findIdx? (fun name => decide (name = column)))).map (fun index => row[index]?)

theorem cmpColumns_eq (indices : List Nat) (left right : Row S) :
    RowCollator.cmpColumns indices left right =
      compare (indices.map (fun index => left[index]?)) (indices.map (fun index => right[index]?)) := by
  induction indices with
  | nil => rfl
  | cons index indices inductionHypothesis =>
      have column := congrFun (congrFun (RowCollator.cmpColumn_eq (S := S) index) left) right
      rw [List.map_cons, List.map_cons, List.compare_cons_cons, ← inductionHypothesis]
      exact congrArg (fun first => Ordering.then first (RowCollator.cmpColumns indices left right)) column

/-- A collator of an order compares the order columns. -/
theorem order_cmp {order : List S.Id} (nonempty : order ≠ []) (left right : Row S) :
    (RowCollator.forOrder schema order false).cmp left right =
      compare (orderColumns schema order left) (orderColumns schema order right) := by
  have indices : (RowCollator.forOrder schema order false).indices =
      order.filterMap (fun column => schema.columns.findIdx? (fun name => decide (name = column))) :=
    if_neg (by simpa using nonempty)
  change RowCollator.cmpColumns (RowCollator.forOrder schema order false).indices left right = _
  rw [indices, cmpColumns_eq, orderColumns, orderColumns]

/-- The scan in an order is the natural scan, sorted by the order columns. -/
def ReordersRows (ops : TableOps S) (owner : PersistentTable schema) (txn : TxnId)
    (order : List S.Id) (reverse : Bool) : Prop :=
  exists ordered natural, (rows ops txn Range.default order reverse owner).1 = .ok ordered ∧
    (rows ops txn Range.default [] false owner).1 = .ok natural ∧
    ordered.Perm natural ∧
    ordered.Pairwise (fun first second =>
      compare (orderColumns schema order first) (orderColumns schema order second) ≠
        if reverse then .lt else .gt)

theorem scanned_order_pairwise (ops : TableOps S) (snapshot : TableSnapshot schema)
    {order : List S.Id} (nonempty : order ≠ []) (reverse : Bool) :
    (scanned ops snapshot Range.default order reverse).Pairwise (fun first second =>
      compare (orderColumns schema order first) (orderColumns schema order second) ≠
        if reverse then .lt else .gt) := by
  refine (scanned_ascending ops snapshot Range.default order reverse).imp ?_
  intro first second ordered
  cases reverse with
  | false => rwa [order_cmp nonempty] at ordered
  | true =>
      rw [RowCollator.cmp_reverse, order_cmp nonempty] at ordered
      exact fun less => ordered (OrientedCmp.gt_of_lt less)

/-- A supported order only reorders the rows if and only if each version is
overridden exactly when its order columns recur: above it, or among the rows its
own delta deletes. -/
theorem reordersRows_iff_dropsOverridden {ops : TableOps S} {schema : TableSchema S}
    {config : Config (Delta schema) (TableLock schema) (Key S)}
    (reachable : Reachable (tableDriver ops schema) config) (txn : TxnId) {order : List S.Id}
    (nonempty : order ≠ []) (supported : ops.plan schema Range.default order = .ok ())
    (reverse : Bool) :
    ReordersRows ops config.owner txn order reverse <->
      DropsOverridden Range.default order (config.state.visibleSnapshot txn) := by
  unfold Config.state
  have unbounded : Range.OnKeys (Range.default : Range S) schema := fun _ _ => rfl
  have natural : forall row,
      row ∈ scanned ops (config.owner.state.visibleSnapshot txn) Range.default [] false <->
        schema.admits Range.default row = true ∧ Shown (config.owner.state.visibleSnapshot txn) row :=
    (scan_exact_iff ops _).mpr (dropsOverridden_of_onKeys (allApart_of_reachable reachable txn) unbounded)
  have rearranged : (scanned ops (config.owner.state.visibleSnapshot txn)
      Range.default order reverse).Perm
      (scanned ops (config.owner.state.visibleSnapshot txn) Range.default [] false) <->
        DropsOverridden Range.default order (config.owner.state.visibleSnapshot txn) := by
    rw [List.perm_ext_iff_of_nodup (scanned_nodup ops _ _ order reverse) (scanned_nodup ops _ _ [] false),
      ← scan_exact_iff ops _]
    exact forall_congr' (fun row => by rw [natural row])
  rw [← rearranged]
  constructor
  · rintro ⟨ordered, plain, orderedRows, plainRows, perm, _⟩
    rw [rows_supported supported] at orderedRows
    rw [rows_supported (ops.plan_default schema)] at plainRows
    cases orderedRows
    cases plainRows
    exact perm
  · intro perm
    exact ⟨_, _, rows_supported supported reverse, rows_supported (ops.plan_default schema) false,
      perm, scanned_order_pairwise ops _ nonempty reverse⟩

/-- By value, descending. -/
def byValue : List Signature.numbers.Id := [Signature.column 1]

theorem reordersRows_iff_dropsOverridden_byValue :
    ReordersRows TableOps.reference overwritten.owner 3 byValue true <->
      DropsOverridden Range.default byValue (overwritten.state.visibleSnapshot 3) :=
  reordersRows_iff_dropsOverridden overwritten_reachable 3 (by decide) rfl true

/-- In the order by value the key shows up with its old value and its new one. -/
theorem not_reordersRows_overwritten :
    Reachable (tableDriver TableOps.reference pairSchema) overwritten ∧
      ¬ ReordersRows TableOps.reference overwritten.owner 3 byValue false := by
  refine ⟨overwritten_reachable, ?_⟩
  rintro ⟨ordered, natural, orderedRows, naturalRows, perm, _⟩
  rw [rows_supported rfl] at orderedRows
  rw [rows_supported rfl] at naturalRows
  cases orderedRows
  cases naturalRows
  have lengths := perm.length_eq
  revert lengths
  decide +kernel

end Table
end TransactionalCollection
