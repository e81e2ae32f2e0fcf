import TransactionalCollection.Table.Lifecycle
import TransactionalCollection.Table.Scan

namespace TransactionalCollection
namespace Table

open Std (ReflCmp OrientedCmp LawfulEqCmp)
open Layering Native Execution Persistence Streaming

/-!
# Scans of key ranges

In natural order the collator tells rows apart by their key alone, and a range
which bounds no value column depends on the key alone.  All versions of a key
are then in the range or out of it together, so what the scan matches is what a
point read overrides.  The order of insertions and deletions does not matter
either, since no key is both inserted and deleted by one delta.
-/

variable {S : Signature} {schema : TableSchema S}

/-! ## Ranges of keys -/

/-- The range bounds no value column. -/
def Range.OnKeys (range : Range S) (schema : TableSchema S) : Prop :=
  forall name, name ∈ schema.values -> range name = none

theorem TableSchema.admits_of_onKeys {range : Range S} (onKeys : range.OnKeys schema) {key : Key S}
    (arity : key.length = schema.key.length) (values : List S.Value) :
    schema.admits range (key ++ values) = schema.admitsKey range key := by
  have free : (schema.values.zip values).all
      (fun column => (range column.1).all (fun bound => bound.admits column.2)) = true := by
    rw [List.all_eq_true]
    intro column member
    rw [onKeys column.1 (List.of_mem_zip member).1]
    rfl
  rw [admits, columns, List.zip_append arity.symm, List.all_append, free, Bool.and_true, admitsKey]

theorem TableLock.admits_stored {range : Range S} (onKeys : range.OnKeys schema)
    {table : TableLock schema} {row : Row S} (stored : row ∈ table.allRows) :
    schema.admits range row = schema.admitsKey range (keyOf schema row) := by
  rcases table.mem_allRows.mp stored with ⟨key, values, found, rfl⟩
  rw [table.keyOf_stored found, schema.admits_of_onKeys onKeys (table.valid key values found).1.1]

/-- The rows of a range of keys are those whose key columns satisfy it. -/
theorem TableLock.keyedRows_eq {range : Range S} (onKeys : range.OnKeys schema) (table : TableLock schema) :
    table.keyedRows range = table.sortedRows range [] false :=
  List.filter_congr (fun _ stored => (TableLock.admits_stored onKeys stored).symm)

/-- Where key columns have names of their own, a point read takes the first row which the
range made from its key yields. -/
theorem getRow_scans (distinct : schema.KeysDistinct) {key : Key S} {range : Range S}
    (made : schema.rangeFromKey key = .ok range) (table : TableLock schema) :
    getRow table key = .ok (table.sortedRows range [] false).head? := by
  have arity : key.length = schema.key.length := by
    by_contra wrong
    rw [TableSchema.rangeFromKey, if_pos wrong] at made
    cases made
  have onKeys : range.OnKeys schema := by
    intro name value
    cases (rangeFromKey_of_arity arity).symm.trans made
    cases bound : lastBound (keyPairs schema key) name with
    | none => rfl
    | some column =>
        rcases List.mem_map.mp (mem_of_lastBound bound) with ⟨pair, zipped, same⟩
        have named : pair.1 = name := (Prod.mk.inj same).1
        exact absurd (named ▸ (List.of_mem_zip zipped).1) (distinct.apart name value)
  rw [getRow, made, ← TableLock.keyedRows_eq onKeys]

/-! ## Natural order -/

theorem TableLock.key_le_length {table : TableLock schema} {row : Row S}
    (stored : row ∈ table.allRows) : schema.key.length <= row.length := by
  rcases table.mem_allRows.mp stored with ⟨key, values, found, rfl⟩
  rw [List.length_append, (table.valid key values found).1.1]
  exact Nat.le_add_right _ _

/-- In natural order stored rows compare as their keys do. -/
theorem natural_cmp {left right : Row S} (leftLong : schema.key.length <= left.length)
    (rightLong : schema.key.length <= right.length) :
    (RowCollator.forOrder schema [] false).cmp left right =
      compare (keyOf schema left) (keyOf schema right) :=
  RowCollator.cmpColumns_range _ _ _ leftLong rightLong

theorem equates_natural_iff {range : Range S} {row other : Row S}
    (rowLong : schema.key.length <= row.length) (otherLong : schema.key.length <= other.length) :
    Equates schema range [] row other <->
      schema.admits range other = true ∧ keyOf schema other = keyOf schema row := by
  rw [Equates, natural_cmp otherLong rowLong, LawfulEqCmp.compare_eq_iff_eq]

theorem Stored.long {snapshot : TableSnapshot schema} {row : Row S} {own : List (Row S)}
    {above : List (Delta schema)} (stored : Stored snapshot row own above) :
    schema.key.length <= row.length := by
  cases stored with
  | canonical member => exact TableLock.key_le_length member
  | inserted below delta above split member => exact TableLock.key_le_length member

theorem TableLock.natural_strict (table : TableLock schema) (range : Range S) (reverse : Bool) :
    StrictlyAscending (RowCollator.forOrder schema [] reverse).cmp
      (table.sortedRows range [] reverse) := by
  have forward : StrictlyAscending (RowCollator.forOrder schema [] false).cmp
      (table.sortedRows range [] false) := table.allRows_strict.filter _
  cases reverse with
  | false => exact forward
  | true =>
      apply forward.reversed
      intro first second
      exact (RowCollator.cmp_reverse schema [] second first).symm

/-- Whatever a scan in natural order drops, it passes through the keys one way. -/
theorem scanned_natural_strict (ops : TableOps S) (snapshot : TableSnapshot schema) (range : Range S)
    (reverse : Bool) :
    StrictlyAscending (RowCollator.forOrder schema [] reverse).cmp
      (scanned ops snapshot range [] reverse) := by
  apply scan_strictlyAscending ops.streams ?_ (snapshot.persistent.natural_strict range reverse)
  intro layer member
  rcases List.mem_map.mp member with ⟨delta, _, rfl⟩
  exact ⟨delta.inserts.natural_strict range reverse, delta.deletes.natural_strict range reverse⟩

/-- A row of the key, in the range, which a delta inserts or deletes. -/
def HoldsInRange (range : Range S) (row : Row S) (delta : Delta schema) : Prop :=
  exists other, (other ∈ delta.inserts.allRows ∨ other ∈ delta.deletes.allRows) ∧
    keyOf schema other = keyOf schema row ∧ schema.admits range other = true

theorem overlay_of_holdsInRange {range : Range S} {row : Row S} {delta : Delta schema}
    (holds : HoldsInRange range row delta) : overlay delta (keyOf schema row) ≠ none := by
  rcases holds with ⟨other, inserted | deleted, same, _⟩
  · exact overlay_ne_none_iff.mpr (Or.inl (delta.inserts.exists_row_iff.mp ⟨other, inserted, same⟩))
  · exact overlay_ne_none_iff.mpr (Or.inr (delta.deletes.exists_row_iff.mp ⟨other, deleted, same⟩))

/-- The deltas of a snapshot keep their insertions and deletions apart. -/
def AllApart (snapshot : TableSnapshot schema) : Prop :=
  forall delta, delta ∈ snapshot.deltas -> delta.KeysApart

/-- In natural order a version is matched by the rows of its key in range
above it: its own delta does not delete its key. -/
theorem matched_natural_iff {snapshot : TableSnapshot schema} (apart : AllApart snapshot)
    {range : Range S} {row : Row S} {own : List (Row S)} {above : List (Delta schema)}
    (stored : Stored snapshot row own above) :
    Matched range [] own above row <->
      exists delta, delta ∈ above ∧ HoldsInRange range row delta := by
  have notOwn : ¬ exists other, other ∈ own ∧ Equates schema range [] row other := by
    rintro ⟨other, member, equates⟩
    have rowLong := stored.long
    cases stored with
    | canonical stored => exact List.not_mem_nil member
    | inserted below delta above split inserted =>
        have same := ((equates_natural_iff rowLong (TableLock.key_le_length member)).mp equates).2
        have bound := delta.inserts.exists_row_iff.mp ⟨row, inserted, rfl⟩
        have unbound := apart delta (by rw [split]; simp) _ bound
        exact delta.deletes.exists_row_iff.mp ⟨other, member, same⟩ unbound
  rw [Matched, or_iff_right notOwn]
  refine exists_congr (fun delta => and_congr_right (fun _ => exists_congr (fun other => ?_)))
  refine and_congr_right (fun held => ?_)
  have otherLong : schema.key.length <= other.length := by
    rcases held with inserted | deleted
    · exact TableLock.key_le_length inserted
    · exact TableLock.key_le_length deleted
  rw [equates_natural_iff stored.long otherLong, and_comm]

/-- A row shown in the range is scanned. -/
theorem scanned_of_shown (ops : TableOps S) {snapshot : TableSnapshot schema} (apart : AllApart snapshot)
    {range : Range S} {reverse : Bool} {row : Row S} (shown : Shown snapshot row)
    (admitted : schema.admits range row = true) : row ∈ scanned ops snapshot range [] reverse := by
  rcases shown with ⟨own, above, stored, live⟩
  refine (mem_scanned_iff ops).mpr ⟨admitted, own, above, stored, ?_⟩
  rw [matched_natural_iff apart stored]
  rintro ⟨delta, member, holds⟩
  exact live ⟨delta, member, overlay_of_holdsInRange holds⟩

/-- A range of keys holds all versions of a key or none, so its scans are
exact. -/
theorem dropsOverridden_of_onKeys {snapshot : TableSnapshot schema} (apart : AllApart snapshot)
    {range : Range S} (onKeys : range.OnKeys schema) : DropsOverridden range [] snapshot := by
  intro row own above stored admitted
  have inRange : forall {table : TableLock schema} {other : Row S}, other ∈ table.allRows ->
      keyOf schema other = keyOf schema row -> schema.admits range other = true := by
    intro table other member same
    rw [TableLock.admits_stored onKeys member, same]
    cases stored with
    | canonical member => rwa [TableLock.admits_stored onKeys member] at admitted
    | inserted below delta above split member =>
        rwa [TableLock.admits_stored onKeys member] at admitted
  rw [matched_natural_iff apart stored]
  constructor
  · rintro ⟨delta, member, answered⟩
    refine ⟨delta, member, ?_⟩
    rcases overlay_ne_none_iff.mp answered with bound | bound
    · rcases delta.inserts.exists_row_iff.mpr bound with ⟨other, inserted, same⟩
      exact ⟨other, Or.inl inserted, same, inRange inserted same⟩
    · rcases delta.deletes.exists_row_iff.mpr bound with ⟨other, deleted, same⟩
      exact ⟨other, Or.inr deleted, same, inRange deleted same⟩
  · rintro ⟨delta, member, holds⟩
    exact ⟨delta, member, overlay_of_holdsInRange holds⟩

/-! ## Reads of a reachable table -/

theorem allApart_of_reachable {ops : TableOps S}
    {config : Config (Delta schema) (TableLock schema) (Key S)}
    (reachable : Reachable (tableDriver ops schema) config) (txn : TxnId) :
    AllApart (config.owner.state.visibleSnapshot txn) := by
  intro delta member
  rcases List.mem_append.mp member with committed | own
  · exact reachable.sound.separateThrough txn delta committed
  · exact reachable.sound.pendingSeparate txn delta (Option.mem_toList.mp own)

section Supported

variable {ops : TableOps S} {range : Range S} {owner : PersistentTable schema} {txn : TxnId}

theorem rows_supported {order : List S.Id} (supported : ops.plan schema range order = .ok ())
    (reverse : Bool) :
    (rows ops txn range order reverse owner).1 =
      .ok (scanned ops (owner.state.visibleSnapshot txn) range order reverse) :=
  openRows_supported supported _ reverse

theorem countIn_supported (supported : ops.plan schema range [] = .ok ()) :
    (countIn ops txn range owner).1 =
      .ok (scanned ops (owner.state.visibleSnapshot txn) range [] false).length := by
  change (visibleRows ops (owner.state.visibleSnapshot txn) range [] false).map List.length = _
  rw [visibleRows_supported supported]
  rfl

theorem isEmptyIn_supported (supported : ops.plan schema range [] = .ok ()) :
    isEmptyIn ops txn range owner =
      .ok (scanned ops (owner.state.visibleSnapshot txn) range [] false).isEmpty := by
  rw [isEmptyIn, anyRowIn, visibleRows_supported supported]
  exact congrArg Except.ok (Bool.not_not _)

end Supported

/-- Both directions of a scan yield the same rows. -/
theorem scanned_reverse_perm (ops : TableOps S) (snapshot : TableSnapshot schema) (range : Range S)
    (order : List S.Id) (reverse : Bool) :
    (scanned ops snapshot range order reverse).Perm (scanned ops snapshot range order false) := by
  rw [List.perm_ext_iff_of_nodup (scanned_nodup ops snapshot range order reverse)
    (scanned_nodup ops snapshot range order false)]
  intro row
  rw [mem_scanned_iff, mem_scanned_iff]

/-- A scan in natural order passes through the keys one way. -/
theorem scanned_keys_pairwise (ops : TableOps S) (snapshot : TableSnapshot schema) (range : Range S)
    (reverse : Bool) :
    ((scanned ops snapshot range [] reverse).map (keyOf schema)).Pairwise
      (fun first second => compare first second = if reverse then .gt else .lt) := by
  have long : forall row, row ∈ scanned ops snapshot range [] reverse -> schema.key.length <= row.length := by
    intro row member
    rcases ((mem_scanned_iff ops).mp member).2 with ⟨own, above, stored, _⟩
    exact stored.long
  rw [List.pairwise_map]
  refine List.Pairwise.imp_of_mem ?_ (scanned_natural_strict ops snapshot range reverse)
  intro first second firstMember secondMember less
  cases reverse with
  | false => exact (natural_cmp (long first firstMember) (long second secondMember)).symm.trans less
  | true =>
      rw [RowCollator.cmp_reverse, natural_cmp (long second secondMember) (long first firstMember)] at less
      exact OrientedCmp.gt_of_lt less

theorem isRowVisible_iff {snapshot : TableSnapshot schema} {key : Key S} :
    isRowVisible snapshot key = .ok true <-> exists row, resolveRow snapshot key = .ok (some row) := by
  unfold isRowVisible
  cases resolveRow snapshot key with
  | error panic => simp [Except.map]
  | ok found => cases found <;> simp [Except.map]

/-! ## Both read paths -/

/-- The stream of a range resolves its keys one after another, each key once and in key
order, and so do the reads that count it or test it for emptiness. -/
def ResolvesKeys (ops : TableOps S) (owner : PersistentTable schema) (txn : TxnId) (range : Range S)
    (reverse : Bool) : Prop :=
  exists (keys : List (Key S)) (stream : List (Row S)),
    (rows ops txn range [] reverse owner).1 = .ok stream ∧
    List.Forall₂ (fun key row => resolveRow (owner.state.visibleSnapshot txn) key = .ok (some row)) keys stream ∧
    keys.Pairwise (fun first second => compare first second = if reverse then .gt else .lt) ∧
    (forall key, key ∈ keys <-> schema.admitsKey range key = true ∧
      exists row, resolveRow (owner.state.visibleSnapshot txn) key = .ok (some row)) ∧
    (countIn ops txn range owner).1 = .ok stream.length ∧
    isEmptyIn ops txn range owner = .ok stream.isEmpty

/-- A key is contained if some row of the unbounded stream has it. -/
def ContainsStreamed (ops : TableOps S) (owner : PersistentTable schema) (txn : TxnId) (reverse : Bool) : Prop :=
  forall key, (containsRow txn key owner).1 = .ok true <->
    exists stream row, (rows ops txn Range.default [] reverse owner).1 = .ok stream ∧
      row ∈ stream ∧ keyOf schema row = key

/-- Streams and point reads agree on all key ranges which the storage supports. -/
def PathsAgree (ops : TableOps S) (owner : PersistentTable schema) (txn : TxnId) : Prop :=
  (forall (range : Range S) (reverse : Bool), range.OnKeys schema -> ops.plan schema range [] = .ok () ->
    ResolvesKeys ops owner txn range reverse) ∧
  forall reverse, ContainsStreamed ops owner txn reverse

/-- A key which is bound, or is read as a key which is bound, gives key columns of one name
one value. -/
def ReadAsGiven (snapshot : TableSnapshot schema) : Prop :=
  forall key : Key S, key.length = schema.key.length ->
    (snapshot.view key ≠ none ∨ snapshot.view (readKey schema key) ≠ none) -> Settled schema key

theorem readAsGiven_of_distinct (distinct : schema.KeysDistinct) (snapshot : TableSnapshot schema) :
    ReadAsGiven snapshot :=
  fun _ arity _ => settled_of_distinct distinct arity

/-- Where two key columns have one name, every key which is bound is read from another key. -/
theorem readAsGiven_iff_of_repeated (repeated : ¬ schema.key.Nodup) (values : Nontrivial S.Value)
    {snapshot : TableSnapshot schema} : ReadAsGiven snapshot <-> forall key, snapshot.view key = none := by
  constructor
  · intro asGiven key
    by_contra bound
    rcases Option.ne_none_iff_exists'.mp bound with ⟨stored, viewed⟩
    have arity := (valid_of_view viewed).1.1
    have settled : readKey schema key = key := asGiven key arity (Or.inl bound)
    rcases exists_key_read_alike repeated values arity with ⟨other, otherArity, different, alike⟩
    have read : readKey schema other = key := alike.trans settled
    have otherSettled : readKey schema other = other := asGiven other otherArity (Or.inr (read ▸ bound))
    exact different (otherSettled.symm.trans read)
  · intro nothing key _ bound
    rcases bound with bound | bound
    · exact absurd (nothing key) bound
    · exact absurd (nothing (readKey schema key)) bound

/-- Where keys are read as given, a row resolves from a key exactly if it is shown and has
the key. -/
theorem ReadAsGiven.resolved_iff {snapshot : TableSnapshot schema} (asGiven : ReadAsGiven snapshot) {key : Key S}
    {row : Row S} : resolveRow snapshot key = .ok (some row) <-> Shown snapshot row ∧ keyOf schema row = key := by
  constructor
  · intro resolved
    rcases shown_of_resolved resolved with ⟨arity, read, shown⟩
    rcases shown.viewed with ⟨values, viewed, _⟩
    rw [read] at viewed
    have settled : readKey schema key = key := asGiven key arity (Or.inr (viewed ▸ Option.some_ne_none values))
    exact ⟨shown, read.trans settled⟩
  · rintro ⟨shown, rfl⟩
    rcases shown.viewed with ⟨values, viewed, _⟩
    exact shown.resolved (asGiven _ (valid_of_view viewed).1.1 (Or.inl (viewed ▸ Option.some_ne_none values)))

section BothPaths

variable {ops : TableOps S} {owner : PersistentTable schema} {txn : TxnId}

/-- Keys which are read as given are resolved one after another by the streams. -/
theorem ReadAsGiven.resolvesKeys (asGiven : ReadAsGiven (owner.state.visibleSnapshot txn))
    (apart : AllApart (owner.state.visibleSnapshot txn)) {range : Range S} (onKeys : range.OnKeys schema)
    (supported : ops.plan schema range [] = .ok ()) (reverse : Bool) :
    ResolvesKeys ops owner txn range reverse := by
  have exactly := (scan_exact_iff ops reverse).mpr (dropsOverridden_of_onKeys apart onKeys)
  refine ⟨_, _, rows_supported supported reverse, ?_,
    scanned_keys_pairwise ops (owner.state.visibleSnapshot txn) range reverse, ?_, ?_, ?_⟩
  · rw [List.forall₂_map_left_iff, List.forall₂_same]
    exact fun row member => asGiven.resolved_iff.mpr ⟨((exactly row).mp member).2, rfl⟩
  · intro key
    have inRange : forall {row : Row S}, Shown (owner.state.visibleSnapshot txn) row ->
        schema.admits range row = schema.admitsKey range (keyOf schema row) := by
      intro row shown
      rcases shown.viewed with ⟨values, viewed, split⟩
      exact (congrArg (schema.admits range) split).trans
        (schema.admits_of_onKeys onKeys (valid_of_view viewed).1.1 values)
    simp only [List.mem_map, exactly, asGiven.resolved_iff]
    constructor
    · rintro ⟨row, ⟨admitted, shown⟩, rfl⟩
      exact ⟨(inRange shown).symm.trans admitted, row, shown, rfl⟩
    · rintro ⟨admitted, row, shown, rfl⟩
      exact ⟨row, ⟨(inRange shown).trans admitted, shown⟩, rfl⟩
  · rw [countIn_supported supported,
      (scanned_reverse_perm ops (owner.state.visibleSnapshot txn) range [] reverse).length_eq]
  · rw [isEmptyIn_supported supported,
      (scanned_reverse_perm ops (owner.state.visibleSnapshot txn) range [] reverse).isEmpty_eq]

theorem ReadAsGiven.containsStreamed (asGiven : ReadAsGiven (owner.state.visibleSnapshot txn))
    (apart : AllApart (owner.state.visibleSnapshot txn)) (reverse : Bool) :
    ContainsStreamed ops owner txn reverse := by
  intro key
  have unbounded : Range.OnKeys (Range.default : Range S) schema := fun _ _ => rfl
  have exactly := (scan_exact_iff ops reverse).mpr (dropsOverridden_of_onKeys apart unbounded)
  refine isRowVisible_iff.trans ?_
  rw [rows_supported (ops.plan_default schema) reverse]
  constructor
  · rintro ⟨row, resolved⟩
    rcases asGiven.resolved_iff.mp resolved with ⟨shown, keyed⟩
    exact ⟨_, row, rfl, (exactly row).mpr ⟨schema.admits_default row, shown⟩, keyed⟩
  · rintro ⟨stream, row, same, member, keyed⟩
    cases same
    exact ⟨row, asGiven.resolved_iff.mpr ⟨((exactly row).mp member).2, keyed⟩⟩

/-- If the unbounded stream resolves its keys, every key is read as given: a row in it
resolves from no key but its own. -/
theorem readAsGiven_of_resolvesKeys (apart : AllApart (owner.state.visibleSnapshot txn)) {reverse : Bool}
    (resolves : ResolvesKeys ops owner txn Range.default reverse) :
    ReadAsGiven (owner.state.visibleSnapshot txn) := by
  have unbounded : Range.OnKeys (Range.default : Range S) schema := fun _ _ => rfl
  have exactly := (scan_exact_iff ops reverse).mpr (dropsOverridden_of_onKeys apart unbounded)
  rcases resolves with ⟨keys, stream, yielded, paired, _, listed, _⟩
  rw [rows_supported (ops.plan_default schema) reverse] at yielded
  cases yielded
  have answers : keys.map (resolveRow (owner.state.visibleSnapshot txn)) =
      (scanned ops (owner.state.visibleSnapshot txn) Range.default [] reverse).map (fun row => .ok (some row)) := by
    rw [← List.forall₂_eq_eq_eq, List.forall₂_map_left_iff, List.forall₂_map_right_iff]
    exact paired
  have once : (keys.map (resolveRow (owner.state.visibleSnapshot txn))).Nodup := by
    rw [answers]
    exact (scanned_nodup ops _ _ _ _).map (fun first second same => Option.some.inj (Except.ok.inj same))
  have mem_keys : forall {key : Key S} {row : Row S},
      resolveRow (owner.state.visibleSnapshot txn) key = .ok (some row) -> key ∈ keys := by
    intro key row resolved
    exact (listed key).mpr ⟨by simp [TableSchema.admitsKey, Range.default], row, resolved⟩
  intro key arity bound
  rcases bound with bound | bound
  · rcases Option.ne_none_iff_exists'.mp bound with ⟨values, viewed⟩
    have streamed := (exactly (key ++ values)).mpr
      ⟨schema.admits_default _, shown_iff.mpr ⟨key, values, viewed, rfl⟩⟩
    rcases List.mem_map.mp (answers ▸ List.mem_map_of_mem streamed) with ⟨given, _, resolved⟩
    rcases shown_of_resolved resolved with ⟨givenArity, read, _⟩
    rw [keyOf_viewed viewed] at read
    exact read ▸ settled_readKey givenArity
  · rcases Option.ne_none_iff_exists'.mp bound with ⟨values, viewed⟩
    have resolved : resolveRow (owner.state.visibleSnapshot txn) key = .ok (some (readKey schema key ++ values)) := by
      rw [resolveRow_of_arity arity, viewed]
      rfl
    have resolvedRead : resolveRow (owner.state.visibleSnapshot txn) (readKey schema key) =
        .ok (some (readKey schema key ++ values)) := by
      rw [resolveRow_of_settled (readKey_length arity) (settled_readKey arity), viewed]
      rfl
    exact List.inj_on_of_nodup_map once (mem_keys resolvedRead) (mem_keys resolved)
      (resolvedRead.trans resolved.symm)

end BothPaths

/-- Streams and point reads agree on key ranges if and only if keys are read as they are
given: each key which is bound, and each key which is read as one that is bound. -/
theorem pathsAgree_iff_readAsGiven {ops : TableOps S} {owner : PersistentTable schema} {txn : TxnId}
    (apart : AllApart (owner.state.visibleSnapshot txn)) :
    PathsAgree ops owner txn <-> ReadAsGiven (owner.state.visibleSnapshot txn) := by
  constructor
  · rintro ⟨resolves, _⟩
    exact readAsGiven_of_resolvesKeys apart (resolves Range.default false (fun _ _ => rfl) (ops.plan_default schema))
  · intro asGiven
    exact ⟨fun range reverse onKeys supported => asGiven.resolvesKeys apart onKeys supported reverse,
      fun reverse => asGiven.containsStreamed apart reverse⟩

/-- Where key columns have names of their own, streams and point reads agree on key ranges.
Where two key columns have one name, they do so if and only if no key is bound. -/
theorem pathsAgree_of_keyNames {ops : TableOps S} {schema : TableSchema S}
    {config : Config (Delta schema) (TableLock schema) (Key S)}
    (reachable : Reachable (tableDriver ops schema) config) (txn : TxnId) :
    (schema.KeysDistinct -> PathsAgree ops config.owner txn) ∧
      (¬ schema.key.Nodup -> Nontrivial S.Value ->
        (PathsAgree ops config.owner txn <-> forall key, (config.state.visibleSnapshot txn).view key = none)) := by
  unfold Config.state
  rw [pathsAgree_iff_readAsGiven (allApart_of_reachable reachable txn)]
  exact ⟨fun distinct => readAsGiven_of_distinct distinct _,
    fun repeated values => readAsGiven_iff_of_repeated repeated values⟩

/-- Two key columns of one name, and one value column. -/
def twinSchema : TableSchema Signature.numbers where
  key := [Signature.column 0, Signature.column 0]
  values := [Signature.column 1]
  primary :=
    { columnNames := [Signature.column 0, Signature.column 0, Signature.column 1]
      columnTypes := [(), (), ()]
      storage := {}
      columns_pos := by simp
      types_length := rfl }
  indices := []
  key_pos := by simp
  primary_names := rfl
  indices_names := by
    intro index member
    cases member

/-- A row with two values in its key columns has been committed. -/
def twins : Config (Delta twinSchema) (TableLock twinSchema) (Key Signature.numbers) :=
  run (tableDriver TableOps.reference twinSchema) (Config.start TableLock.empty)
    [.mutate 1 (.upsertRow [Signature.number 1, Signature.number 2] [Signature.number 5]), .commit 1]

theorem twins_reachable : Reachable (tableDriver TableOps.reference twinSchema) twins :=
  Reachable.run (Reachable.start _) _

/-- With names of their own the paths agree, and with a common name only as long as there
are no rows. -/
theorem pathsAgree_of_keyNames_twins :
    PathsAgree TableOps.reference overwritten.owner 3 ∧
      (PathsAgree TableOps.reference twins.owner 2 <->
        forall key, (twins.state.visibleSnapshot 2).view key = none) :=
  ⟨(pathsAgree_of_keyNames overwritten_reachable 3).1 (by decide),
    (pathsAgree_of_keyNames twins_reachable 2).2 (by decide) (inferInstanceAs (Nontrivial Nat))⟩

/-- The stream yields the row, and the point read looks for another key. -/
theorem not_pathsAgree_twins :
    Reachable (tableDriver TableOps.reference twinSchema) twins ∧
      ¬ PathsAgree TableOps.reference twins.owner 2 := by
  refine ⟨twins_reachable, ?_⟩
  rintro ⟨resolves, _⟩
  have asGiven := readAsGiven_of_resolvesKeys (allApart_of_reachable twins_reachable 2)
    (resolves Range.default false (fun _ _ => rfl) rfl)
  have settled := asGiven [Signature.number 1, Signature.number 2] rfl (Or.inl (by decide +kernel))
  revert settled
  unfold Settled
  decide +kernel

end Table
end TransactionalCollection
