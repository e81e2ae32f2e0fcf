import TransactionalCollection.Table.Visibility

namespace TransactionalCollection
namespace Table

open Std (ExtTreeMap TransCmp OrientedCmp ReflCmp)
open Layering Native Execution Persistence Streaming

/-!
# Row streams and point reads

A scan merges row streams under one collator, while a point read walks the
deltas of one key.  Both look at the same stored versions: the canonical rows
and the rows each visible delta inserts, every one of them with the deltas
above it.  A point read drops a version once a delta above holds anything for
its key.  A scan drops it once the collator finds an equal row, and it only
looks at rows of its own range.  The two agree where these conditions do, on
the keys which a point read reads as they are.
-/

variable {S : Signature} {schema : TableSchema S}

/-! ## Streams of a native table -/

namespace TableLock

variable (table : TableLock schema)

/-- Some row of a key is stored exactly when the key is bound. -/
theorem exists_row_iff {key : Key S} :
    (exists row, row ∈ table.allRows ∧ keyOf schema row = key) <-> table.rows[key]? ≠ none := by
  constructor
  · rintro ⟨row, member, rfl⟩
    rcases table.mem_allRows.mp member with ⟨key, values, found, rfl⟩
    rw [table.keyOf_stored found, found]
    exact Option.some_ne_none values
  · intro bound
    rcases Option.ne_none_iff_exists'.mp bound with ⟨values, found⟩
    exact ⟨key ++ values, table.mem_allRows.mpr ⟨key, values, found, rfl⟩, table.keyOf_stored found⟩

theorem mem_sortedRows {range : Range S} {order : List S.Id} {reverse : Bool} {row : Row S} :
    row ∈ table.sortedRows range order reverse <->
      row ∈ table.allRows ∧ schema.admits range row = true := by
  unfold sortedRows
  cases reverse <;> cases order.isEmpty <;>
    simp [(List.perm_insertionSort _ _).mem_iff]

theorem sortedRows_default : table.sortedRows Range.default [] false = table.allRows := by
  apply List.filter_eq_self.mpr
  intro row _
  exact schema.admits_default row

/-- Natural order is key order, and keys are distinct. -/
theorem allRows_strict :
    StrictlyAscending (RowCollator.forOrder schema [] false).cmp table.allRows := by
  rw [StrictlyAscending, allRows, List.pairwise_map]
  have ordered := table.rows.ordered_keys_toList
  refine List.Pairwise.imp_of_mem ?_ ordered
  intro first second firstStored secondStored less
  have firstArity := (table.valid _ _ (ExtTreeMap.mem_toList_iff_getElem?_eq_some.mp firstStored)).1.1
  have secondArity :=
    (table.valid _ _ (ExtTreeMap.mem_toList_iff_getElem?_eq_some.mp secondStored)).1.1
  change RowCollator.cmpColumns (List.range schema.key.length) _ _ = .lt
  rw [RowCollator.cmpColumns_range _ _ _ (by simp [firstArity]) (by simp [secondArity]),
    (take_append_of_arity firstArity _).1, (take_append_of_arity secondArity _).1]
  exact less

theorem forward_ascending (range : Range S) (order : List S.Id) :
    Ascending (RowCollator.forOrder schema order false).cmp (table.sortedRows range order false) := by
  unfold sortedRows
  cases empty : order.isEmpty with
  | true =>
      have natural : order = [] := List.isEmpty_iff.mp empty
      subst natural
      have strict : StrictlyAscending (RowCollator.forOrder schema [] false).cmp
          (table.sortedRows range [] false) := table.allRows_strict.filter _
      exact strict.ascending
  | false =>
      have sorted := ascending_insertionSort
        (compareLex (RowCollator.forOrder schema order false).cmp
          (RowCollator.forOrder schema [] false).cmp)
        (table.allRows.filter (schema.admits range))
      refine List.Pairwise.imp ?_ sorted
      intro first second notAfter after
      exact notAfter (by rw [compareLex, after]; rfl)

/-- A stream is sorted under the collator its order and direction stand for. -/
theorem sortedRows_ascending (range : Range S) (order : List S.Id) (reverse : Bool) :
    Ascending (RowCollator.forOrder schema order reverse).cmp
      (table.sortedRows range order reverse) := by
  cases reverse with
  | false => exact table.forward_ascending range order
  | true =>
      have backward : table.sortedRows range order true =
          (table.sortedRows range order false).reverse := rfl
      rw [backward, Ascending, List.pairwise_reverse]
      refine List.Pairwise.imp ?_ (table.forward_ascending range order)
      intro first second notAfter
      rwa [RowCollator.cmp_reverse]

theorem sortedRows_nodup (range : Range S) (order : List S.Id) (reverse : Bool) :
    (table.sortedRows range order reverse).Nodup := by
  have filtered : (table.allRows.filter (schema.admits range)).Nodup :=
    table.allRows_strict.nodup.filter _
  unfold sortedRows
  cases reverse <;> cases order.isEmpty <;>
    simp [(List.perm_insertionSort _ _).nodup_iff, filtered]

end TableLock

/-! ## Scans as layered streams -/

/-- A delta as a layer of a scan. -/
def Delta.streamLayer (delta : Delta schema) (range : Range S) (order : List S.Id)
    (reverse : Bool) : StreamLayer (Row S) where
  inserted := delta.inserts.sortedRows range order reverse
  deleted := delta.deletes.sortedRows range order reverse

theorem Delta.streamLayer_sorted (delta : Delta schema) (range : Range S) (order : List S.Id)
    (reverse : Bool) :
    (delta.streamLayer range order reverse).Sorted
      (RowCollator.forOrder schema order reverse).cmp where
  inserted := delta.inserts.sortedRows_ascending range order reverse
  deleted := delta.deletes.sortedRows_ascending range order reverse
  nodup := delta.inserts.sortedRows_nodup range order reverse

/-- What a supported scan of a snapshot yields. -/
def scanned (ops : TableOps S) (snapshot : TableSnapshot schema) (range : Range S)
    (order : List S.Id) (reverse : Bool) : List (Row S) :=
  scan ops.streams (RowCollator.forOrder schema order reverse).cmp
    (snapshot.deltas.map (fun delta => delta.streamLayer range order reverse))
    (snapshot.persistent.sortedRows range order reverse)

section Supported

variable {ops : TableOps S} {range : Range S} {order : List S.Id}

theorem mergeDeltas_supported (supported : ops.plan schema range order = .ok ())
    (deltas : List (Delta schema)) (rows : List (Row S)) (reverse : Bool) :
    mergeDeltas ops deltas rows range order reverse (RowCollator.forOrder schema order reverse) =
      .ok (scan ops.streams (RowCollator.forOrder schema order reverse).cmp
        (deltas.map (fun delta => delta.streamLayer range order reverse)) rows) := by
  induction deltas generalizing rows with
  | nil => rfl
  | cons delta deltas inductionHypothesis =>
      have merged : delta.mergeInto ops rows range order reverse
          (RowCollator.forOrder schema order reverse) =
          .ok ((delta.streamLayer range order reverse).mergeInto ops.streams
            (RowCollator.forOrder schema order reverse).cmp rows) := by
        unfold Delta.mergeInto rowStream
        rw [supported]
        rfl
      rw [mergeDeltas, List.foldlM_cons, merged]
      exact inductionHypothesis _

theorem visibleRows_supported (supported : ops.plan schema range order = .ok ())
    (snapshot : TableSnapshot schema) (reverse : Bool) :
    visibleRows ops snapshot range order reverse = .ok (scanned ops snapshot range order reverse) := by
  unfold visibleRows rowStream
  rw [supported]
  exact mergeDeltas_supported supported snapshot.deltas _ reverse

theorem openRows_supported (supported : ops.plan schema range order = .ok ())
    (snapshot : TableSnapshot schema) (reverse : Bool) :
    openRows ops snapshot range order reverse = .ok (scanned ops snapshot range order reverse) := by
  unfold openRows rowStream
  rw [supported]
  dsimp only
  rw [mergeDeltas_supported supported]
  rfl

end Supported

theorem streamLayers_sorted (deltas : List (Delta schema)) (range : Range S) (order : List S.Id)
    (reverse : Bool) :
    forall layer, layer ∈ deltas.map (fun delta => delta.streamLayer range order reverse) ->
      layer.Sorted (RowCollator.forOrder schema order reverse).cmp := by
  intro layer member
  rcases List.mem_map.mp member with ⟨delta, _, rfl⟩
  exact delta.streamLayer_sorted range order reverse

/-- A scan is sorted by its order, and yields nothing twice. -/
theorem scanned_ascending (ops : TableOps S) (snapshot : TableSnapshot schema) (range : Range S)
    (order : List S.Id) (reverse : Bool) :
    Ascending (RowCollator.forOrder schema order reverse).cmp
      (scanned ops snapshot range order reverse) :=
  scan_ascending ops.streams (streamLayers_sorted snapshot.deltas range order reverse)
    (snapshot.persistent.sortedRows_ascending range order reverse)

theorem scanned_nodup (ops : TableOps S) (snapshot : TableSnapshot schema) (range : Range S)
    (order : List S.Id) (reverse : Bool) : (scanned ops snapshot range order reverse).Nodup :=
  scan_nodup ops.streams (streamLayers_sorted snapshot.deltas range order reverse)
    (snapshot.persistent.sortedRows_ascending range order reverse)
    (snapshot.persistent.sortedRows_nodup range order reverse)

/-! ## Stored versions -/

/-- A stored version of a row: the rows its own delta deletes, and the deltas
above it. -/
inductive Stored (snapshot : TableSnapshot schema) :
    Row S -> List (Row S) -> List (Delta schema) -> Prop where
  | canonical {row : Row S} (member : row ∈ snapshot.persistent.allRows) :
      Stored snapshot row [] snapshot.deltas
  | inserted {row : Row S} (below : List (Delta schema)) (delta : Delta schema)
      (above : List (Delta schema)) (split : snapshot.deltas = below ++ delta :: above)
      (member : row ∈ delta.inserts.allRows) :
      Stored snapshot row delta.deletes.allRows above

/-- A delta above holds something for the key of the row. -/
def Overridden (above : List (Delta schema)) (row : Row S) : Prop :=
  exists delta, delta ∈ above ∧ overlay delta (keyOf schema row) ≠ none

/-- A row of the range which the collator does not tell from this one. -/
def Equates (schema : TableSchema S) (range : Range S) (order : List S.Id) (row other : Row S) :
    Prop :=
  schema.admits range other = true ∧ (RowCollator.forOrder schema order false).cmp other row = .eq

/-- The scan finds such a row among those its own delta deletes, or among those
a delta above inserts or deletes. -/
def Matched (range : Range S) (order : List S.Id) (own : List (Row S))
    (above : List (Delta schema)) (row : Row S) : Prop :=
  (exists other, other ∈ own ∧ Equates schema range order row other) ∨
    exists delta, delta ∈ above ∧ exists other,
      (other ∈ delta.inserts.allRows ∨ other ∈ delta.deletes.allRows) ∧
        Equates schema range order row other

/-- The scan drops the versions of its range which are overridden, and no
others. -/
def DropsOverridden (range : Range S) (order : List S.Id) (snapshot : TableSnapshot schema) : Prop :=
  forall row own above, Stored snapshot row own above -> schema.admits range row = true ->
    (Overridden above row <-> Matched range order own above row)

/-- The rows which resolve from some key. -/
def Visible (snapshot : TableSnapshot schema) (row : Row S) : Prop :=
  exists key, resolveRow snapshot key = .ok (some row)

/-- A delta answers a key which it inserts or deletes a row of. -/
theorem overlay_ne_none_iff {delta : Delta schema} {key : Key S} :
    overlay delta key ≠ none <->
      delta.inserts.rows[key]? ≠ none ∨ delta.deletes.rows[key]? ≠ none := by
  change delta.answers key ≠ none <-> _
  rw [Delta.answers]
  cases delta.inserts.rows[key]? <;> cases delta.deletes.rows[key]? <;> simp

/-- A delta binds a key to the values which it inserts. -/
theorem overlay_eq_some_iff {delta : Delta schema} {key : Key S} {values : List S.Value} :
    overlay delta key = some (some values) <-> delta.inserts.rows[key]? = some values := by
  change delta.answers key = some (some values) <-> _
  rw [Delta.answers]
  cases delta.inserts.rows[key]? <;> cases delta.deletes.rows[key]? <;> simp

/-- The stack shows a version which nothing above overrides, and nothing else. -/
theorem stack_eq_some_iff {deltas : List (Delta schema)} {table : TableLock schema} {key : Key S}
    {values : List S.Value} :
    stack (deltas.map overlay) (bindings table) key = some values <->
      (table.rows[key]? = some values ∧ forall delta, delta ∈ deltas -> overlay delta key = none) ∨
        exists below delta above, deltas = below ++ delta :: above ∧
          delta.inserts.rows[key]? = some values ∧
          forall later, later ∈ above -> overlay later key = none := by
  rw [stack_map_eq_some_iff]
  simp only [overlay_eq_some_iff]
  rfl

/-- The rows which a view binds. -/
def BoundIn (view : View (Key S) (List S.Value)) (row : Row S) : Prop :=
  exists key values, view key = some values ∧ row = key ++ values

/-- The rows with a version which nothing overrides. -/
def Shown (snapshot : TableSnapshot schema) (row : Row S) : Prop :=
  exists own above, Stored snapshot row own above ∧ ¬ Overridden above row

/-- The rows shown are those which the stack of the visible deltas binds. -/
theorem shown_iff {snapshot : TableSnapshot schema} {row : Row S} :
    Shown snapshot row <-> BoundIn snapshot.view row := by
  constructor
  · rintro ⟨own, above, stored, notOverridden⟩
    have silent : forall delta, delta ∈ above -> overlay delta (keyOf schema row) = none := by
      intro delta member
      by_contra answered
      exact notOverridden ⟨delta, member, answered⟩
    cases stored with
    | canonical member =>
        rcases snapshot.persistent.mem_allRows.mp member with ⟨key, values, found, rfl⟩
        rw [snapshot.persistent.keyOf_stored found] at silent
        exact ⟨key, values, stack_eq_some_iff.mpr (Or.inl ⟨found, silent⟩), rfl⟩
    | inserted below delta above split member =>
        rcases delta.inserts.mem_allRows.mp member with ⟨key, values, found, rfl⟩
        rw [delta.inserts.keyOf_stored found] at silent
        exact ⟨key, values, stack_eq_some_iff.mpr (Or.inr ⟨below, delta, above, split, found, silent⟩), rfl⟩
  · rintro ⟨key, values, viewed, rfl⟩
    rcases stack_eq_some_iff.mp viewed with
      ⟨found, silent⟩ | ⟨below, delta, above, split, found, silent⟩
    · refine ⟨[], snapshot.deltas,
        .canonical (snapshot.persistent.mem_allRows.mpr ⟨key, values, found, rfl⟩), ?_⟩
      rintro ⟨delta, member, answered⟩
      rw [snapshot.persistent.keyOf_stored found] at answered
      exact answered (silent delta member)
    · refine ⟨_, above, .inserted below delta above split
        (delta.inserts.mem_allRows.mpr ⟨key, values, found, rfl⟩), ?_⟩
      rintro ⟨later, member, answered⟩
      rw [delta.inserts.keyOf_stored found] at answered
      exact answered (silent later member)

/-- A bound key is valid for the schema. -/
theorem valid_of_view {snapshot : TableSnapshot schema} {key : Key S} {values : List S.Value}
    (viewed : snapshot.view key = some values) : schema.ValidKey key ∧ schema.ValidValues values := by
  rcases stack_eq_some_iff.mp viewed with ⟨found, _⟩ | ⟨_, delta, _, _, found, _⟩
  · exact snapshot.persistent.valid key values found
  · exact delta.inserts.valid key values found

/-- The row which is shown under a key has the key in its key columns. -/
theorem keyOf_viewed {snapshot : TableSnapshot schema} {key : Key S} {values : List S.Value}
    (viewed : snapshot.view key = some values) : keyOf schema (key ++ values) = key :=
  (take_append_of_arity (valid_of_view viewed).1.1 values).1

theorem Shown.viewed {snapshot : TableSnapshot schema} {row : Row S} (shown : Shown snapshot row) :
    exists values, snapshot.view (keyOf schema row) = some values ∧ row = keyOf schema row ++ values := by
  rcases shown_iff.mp shown with ⟨key, values, viewed, rfl⟩
  rw [keyOf_viewed viewed]
  exact ⟨values, viewed, rfl⟩

/-- A row which resolves is shown, under the key which was read. -/
theorem shown_of_resolved {snapshot : TableSnapshot schema} {key : Key S} {row : Row S}
    (resolved : resolveRow snapshot key = .ok (some row)) :
    key.length = schema.key.length ∧ keyOf schema row = readKey schema key ∧ Shown snapshot row := by
  by_cases arity : key.length = schema.key.length
  · rw [resolveRow_of_arity arity] at resolved
    rcases Option.map_eq_some_iff.mp (Except.ok.inj resolved) with ⟨values, viewed, rfl⟩
    exact ⟨arity, keyOf_viewed viewed, shown_iff.mpr ⟨_, values, viewed, rfl⟩⟩
  · rw [resolveRow_of_wrong_arity arity] at resolved
    cases resolved

/-- A shown row whose key is settled resolves from it. -/
theorem Shown.resolved {snapshot : TableSnapshot schema} {row : Row S} (shown : Shown snapshot row)
    (settled : Settled schema (keyOf schema row)) :
    resolveRow snapshot (keyOf schema row) = .ok (some row) := by
  rcases shown.viewed with ⟨values, viewed, split⟩
  rw [resolveRow_of_settled (valid_of_view viewed).1.1 settled, viewed, Option.map_some, ← split]

/-- The rows which resolve are those shown under a settled key. -/
theorem visible_iff {snapshot : TableSnapshot schema} {row : Row S} :
    Visible snapshot row <-> Settled schema (keyOf schema row) ∧ Shown snapshot row := by
  constructor
  · rintro ⟨key, resolved⟩
    rcases shown_of_resolved resolved with ⟨arity, read, shown⟩
    exact ⟨read ▸ settled_readKey arity, shown⟩
  · rintro ⟨settled, shown⟩
    exact ⟨_, shown.resolved settled⟩

/-! ## What a scan shows -/

/-- The direction of a scan does not matter to what compares equal. -/
theorem cmp_eq_iff (order : List S.Id) (reverse : Bool) (left right : Row S) :
    (RowCollator.forOrder schema order reverse).cmp left right = .eq <->
      (RowCollator.forOrder schema order false).cmp left right = .eq := by
  cases reverse with
  | false => exact Iff.rfl
  | true =>
      rw [RowCollator.cmp_reverse]
      exact ⟨OrientedCmp.eq_symm, OrientedCmp.eq_symm⟩

theorem TableLock.unmatched_sortedRows_iff (table : TableLock schema) {range : Range S}
    {order : List S.Id} {reverse : Bool} {row : Row S} :
    Unmatched (RowCollator.forOrder schema order reverse).cmp
        (table.sortedRows range order reverse) row <->
      ¬ exists other, other ∈ table.allRows ∧ Equates schema range order row other := by
  simp only [Unmatched, mem_sortedRows, ne_eq, cmp_eq_iff, Equates, not_exists, not_and]
  exact ⟨fun apart other stored admitted => apart other ⟨stored, admitted⟩,
    fun apart other listed => apart other listed.1 listed.2⟩

/-- A row passes the deltas above it if it matches nothing that they hold. -/
theorem passes_iff {above : List (Delta schema)} {range : Range S} {order : List S.Id} {reverse : Bool}
    {row : Row S} :
    (forall layer, layer ∈ above.map (fun delta => delta.streamLayer range order reverse) ->
        layer.Passes (RowCollator.forOrder schema order reverse).cmp row) <->
      ¬ exists delta, delta ∈ above ∧ exists other,
        (other ∈ delta.inserts.allRows ∨ other ∈ delta.deletes.allRows) ∧
          Equates schema range order row other := by
  simp only [List.forall_mem_map, StreamLayer.Passes, Delta.streamLayer,
    TableLock.unmatched_sortedRows_iff]
  constructor
  · rintro apart ⟨delta, member, other, inserted | deleted, equates⟩
    · exact (apart delta member).1 ⟨other, inserted, equates⟩
    · exact (apart delta member).2 ⟨other, deleted, equates⟩
  · intro apart delta member
    constructor
    · rintro ⟨other, inserted, equates⟩
      exact apart ⟨delta, member, other, Or.inl inserted, equates⟩
    · rintro ⟨other, deleted, equates⟩
      exact apart ⟨delta, member, other, Or.inr deleted, equates⟩

/-- The scan yields the versions of its range which it finds no match for. -/
theorem mem_scanned_iff (ops : TableOps S) {snapshot : TableSnapshot schema} {range : Range S}
    {order : List S.Id} {reverse : Bool} {row : Row S} :
    row ∈ scanned ops snapshot range order reverse <->
      schema.admits range row = true ∧
        exists own above, Stored snapshot row own above ∧ ¬ Matched range order own above row := by
  unfold scanned
  rw [mem_scan_iff ops.streams (streamLayers_sorted snapshot.deltas range order reverse)
    (snapshot.persistent.sortedRows_ascending range order reverse), passes_iff, TableLock.mem_sortedRows]
  constructor
  · rintro (⟨⟨stored, admitted⟩, unmatched⟩ | ⟨below, layer, above, split, inserted, kept, rest⟩)
    · refine ⟨admitted, [], snapshot.deltas, .canonical stored, ?_⟩
      rintro (⟨other, absent, _⟩ | matched)
      · exact List.not_mem_nil absent
      · exact unmatched matched
    · rcases List.map_eq_append_iff.mp split with ⟨lower, rest', splitDeltas, rfl, mapped⟩
      rcases List.map_eq_cons_iff.mp mapped with ⟨delta, upper, rfl, rfl, rfl⟩
      rcases delta.inserts.mem_sortedRows.mp inserted with ⟨stored, admitted⟩
      refine ⟨admitted, _, upper, .inserted lower delta upper splitDeltas stored, ?_⟩
      rintro (own | matched)
      · exact delta.deletes.unmatched_sortedRows_iff.mp kept own
      · exact passes_iff.mp rest matched
  · rintro ⟨admitted, own, above, stored, unmatched⟩
    cases stored with
    | canonical member =>
        exact Or.inl ⟨⟨member, admitted⟩, fun matched => unmatched (Or.inr matched)⟩
    | inserted below delta above split member =>
        refine Or.inr ⟨below.map (fun delta => delta.streamLayer range order reverse),
          delta.streamLayer range order reverse,
          above.map (fun delta => delta.streamLayer range order reverse), ?_,
          delta.inserts.mem_sortedRows.mpr ⟨member, admitted⟩,
          delta.deletes.unmatched_sortedRows_iff.mpr (fun own => unmatched (Or.inl own)),
          passes_iff.mpr (fun matched => unmatched (Or.inr matched))⟩
        rw [split, List.map_append, List.map_cons]

/-- Of two versions of one row, one is the other, or is above it, or below it. -/
theorem Stored.trichotomy {snapshot : TableSnapshot schema} {row : Row S} {own own' : List (Row S)}
    {above above' : List (Delta schema)} (first : Stored snapshot row own above)
    (second : Stored snapshot row own' above') :
    (own = own' ∧ above = above') ∨ (exists delta, delta ∈ above ∧ row ∈ delta.inserts.allRows) ∨
      exists delta, delta ∈ above' ∧ row ∈ delta.inserts.allRows := by
  cases first with
  | canonical member =>
      cases second with
      | canonical member' => exact Or.inl ⟨rfl, rfl⟩
      | inserted below' delta' _ split' member' =>
          exact Or.inr (Or.inl ⟨delta', by rw [split']; simp, member'⟩)
  | inserted below delta _ split member =>
      cases second with
      | canonical member' => exact Or.inr (Or.inr ⟨delta, by rw [split]; simp, member⟩)
      | inserted below' delta' _ split' member' =>
          rcases List.append_eq_append_iff.mp (split.symm.trans split') with
            ⟨between, _, same⟩ | ⟨between, _, same⟩
          all_goals cases between with
          | nil =>
              cases same
              exact Or.inl ⟨rfl, rfl⟩
          | cons head between =>
              cases same
              first
              | exact Or.inr (Or.inl ⟨delta', by simp, member'⟩)
              | exact Or.inr (Or.inr ⟨delta, by simp, member⟩)

/-- A row above of the same range overrides and matches its own lower version. -/
theorem overridden_of_row {above : List (Delta schema)} {row : Row S}
    (higher : exists delta, delta ∈ above ∧ row ∈ delta.inserts.allRows) : Overridden above row := by
  rcases higher with ⟨delta, member, inserted⟩
  refine ⟨delta, member, overlay_ne_none_iff.mpr (Or.inl ?_)⟩
  exact delta.inserts.exists_row_iff.mp ⟨row, inserted, rfl⟩

theorem matched_of_row {range : Range S} {order : List S.Id} {own : List (Row S)}
    {above : List (Delta schema)} {row : Row S} (admitted : schema.admits range row = true)
    (higher : exists delta, delta ∈ above ∧ row ∈ delta.inserts.allRows) :
    Matched range order own above row := by
  rcases higher with ⟨delta, member, inserted⟩
  exact Or.inr ⟨delta, member, row, Or.inl inserted, admitted, ReflCmp.compare_self⟩

/-- A scan yields exactly the rows shown in its range if and only if it drops
exactly the overridden versions of it. -/
theorem scan_exact_iff (ops : TableOps S) {snapshot : TableSnapshot schema} {range : Range S}
    {order : List S.Id} (reverse : Bool) :
    (forall row, row ∈ scanned ops snapshot range order reverse <->
        schema.admits range row = true ∧ Shown snapshot row) <->
      DropsOverridden range order snapshot := by
  simp only [mem_scanned_iff, Shown, and_congr_right_iff]
  constructor
  · intro exactly row own above stored admitted
    constructor
    · intro overridden
      by_contra unmatched
      rcases (exactly row admitted).mp ⟨own, above, stored, unmatched⟩ with
        ⟨own', above', stored', live⟩
      rcases stored.trichotomy stored' with ⟨_, rfl⟩ | higher | higher'
      · exact live overridden
      · exact unmatched (matched_of_row admitted higher)
      · exact live (overridden_of_row higher')
    · intro matched
      by_contra live
      rcases (exactly row admitted).mpr ⟨own, above, stored, live⟩ with
        ⟨own', above', stored', unmatched⟩
      rcases stored.trichotomy stored' with ⟨rfl, rfl⟩ | higher | higher'
      · exact unmatched matched
      · exact live (overridden_of_row higher)
      · exact unmatched (matched_of_row admitted higher')
  · intro drops row admitted
    refine exists_congr (fun own => exists_congr (fun above => ?_))
    exact and_congr_right (fun stored => not_congr (drops row own above stored admitted).symm)

end Table
end TransactionalCollection
