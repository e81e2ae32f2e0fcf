import TransactionalCollection.Table.KeyRange
import TransactionalCollection.Table.Loading
import TransactionalCollection.Table.Recording
import TransactionalCollection.Table.ValueScan

namespace TransactionalCollection
namespace Table

open Std (LawfulEqCmp)
open Layering Native Execution Persistence Streaming

/-!
# Writing a range of rows

An update or a truncation scans the rows of a range and writes each of them
into the pending delta.  In natural order the scan yields a key at most once,
so the loop decides each key it meets and no other.

What it meets is not always what is visible.  The scan filters every layer by
the range before one version overrides another, so a superseded version
resurfaces when it lies in the range and none of the later versions do.  A
range write touches exactly the visible rows of its range if and only if
writing the resurfaced versions makes no difference.
-/

variable {S : Signature} {schema : TableSchema S}

/-! ## Scanned rows -/

theorem Stored.valid {snapshot : TableSnapshot schema} {row : Row S} {own : List (Row S)}
    {above : List (Delta schema)} (stored : Stored snapshot row own above) : ValidRow schema row := by
  cases stored with
  | canonical member => exact (TableLock.stored_row member).1
  | inserted below delta above split member => exact (TableLock.stored_row member).1

section Scanned

variable (ops : TableOps S) {snapshot : TableSnapshot schema} {range : Range S} {reverse : Bool}

theorem scanned_valid {order : List S.Id} {row : Row S}
    (member : row ∈ scanned ops snapshot range order reverse) : ValidRow schema row := by
  rcases ((mem_scanned_iff ops).mp member).2 with ⟨own, above, stored, _⟩
  exact stored.valid

/-- A scan in natural order yields each key once. -/
theorem scanned_keys_nodup : ((scanned ops snapshot range [] reverse).map (keyOf schema)).Nodup := by
  rw [List.Nodup, List.pairwise_map]
  apply List.Pairwise.imp_of_mem ?_ (scanned_natural_strict ops snapshot range reverse)
  intro first second firstMember secondMember less same
  have equal : (RowCollator.forOrder schema [] false).cmp first second = .eq := by
    rcases ((mem_scanned_iff ops).mp firstMember).2 with ⟨_, _, firstStored, _⟩
    rcases ((mem_scanned_iff ops).mp secondMember).2 with ⟨_, _, secondStored, _⟩
    rw [natural_cmp firstStored.long secondStored.long, same]
    exact LawfulEqCmp.compare_eq_iff_eq.mpr rfl
  rw [(cmp_eq_iff [] reverse first second).mpr equal] at less
  cases less

end Scanned

/-- A version in the range which is overridden, with nothing in the range above
it. -/
def Resurfaces (range : Range S) (snapshot : TableSnapshot schema) (row : Row S) : Prop :=
  exists own above, Stored snapshot row own above ∧ schema.admits range row = true ∧
    Overridden above row ∧ ¬ exists delta, delta ∈ above ∧ HoldsInRange range row delta

/-- A scan yields the rows shown in its range, and those which resurface. -/
theorem mem_scanned_natural_iff (ops : TableOps S) {snapshot : TableSnapshot schema}
    (apart : AllApart snapshot) {range : Range S} {reverse : Bool} {row : Row S} :
    row ∈ scanned ops snapshot range [] reverse <->
      (schema.admits range row = true ∧ Shown snapshot row) ∨ Resurfaces range snapshot row := by
  constructor
  · intro member
    rcases (mem_scanned_iff ops).mp member with ⟨admitted, own, above, stored, unmatched⟩
    rw [matched_natural_iff apart stored] at unmatched
    by_cases overridden : Overridden above row
    · exact Or.inr ⟨own, above, stored, admitted, overridden, unmatched⟩
    · exact Or.inl ⟨admitted, own, above, stored, overridden⟩
  · rintro (⟨admitted, shown⟩ | ⟨own, above, stored, admitted, _, unmatched⟩)
    · exact scanned_of_shown ops apart shown admitted
    · refine (mem_scanned_iff ops).mpr ⟨admitted, own, above, stored, ?_⟩
      rwa [matched_natural_iff apart stored]

/-- The row shown under the key of a resurfacing version is not in the range. -/
theorem Resurfaces.outside {snapshot : TableSnapshot schema} (apart : AllApart snapshot)
    {range : Range S} {row current : Row S} (resurfaces : Resurfaces range snapshot row)
    (shown : Shown snapshot current) (sameKey : keyOf schema current = keyOf schema row) :
    schema.admits range current = false := by
  by_contra admitted
  rw [Bool.not_eq_false] at admitted
  have currentScanned : current ∈ scanned TableOps.reference snapshot range [] false :=
    scanned_of_shown _ apart shown admitted
  have rowScanned : row ∈ scanned TableOps.reference snapshot range [] false :=
    (mem_scanned_natural_iff _ apart).mpr (Or.inr resurfaces)
  have same : current = row :=
    List.inj_on_of_nodup_map (scanned_keys_nodup TableOps.reference) currentScanned rowScanned sameKey
  subst same
  rcases resurfaces with ⟨own, above, stored, _, overridden, unmatched⟩
  rcases shown with ⟨own', above', stored', live⟩
  rcases stored.trichotomy stored' with ⟨_, rfl⟩ | higher | higher
  · exact live overridden
  · rcases higher with ⟨delta, member, inserted⟩
    exact unmatched ⟨delta, member, current, Or.inl inserted, rfl, admitted⟩
  · exact live (overridden_of_row higher)

/-- A blank delta on top adds nothing to a scan. -/
theorem scanned_create (ops : TableOps S) (persistent : TableLock schema) (deltas : List (Delta schema))
    (range : Range S) (reverse : Bool) :
    scanned ops ⟨persistent, deltas ++ [Delta.create]⟩ range [] reverse =
      scanned ops ⟨persistent, deltas⟩ range [] reverse := by
  have strict := scanned_natural_strict ops ⟨persistent, deltas⟩ range reverse
  have blank : (Delta.create : Delta schema).streamLayer range [] reverse = ⟨[], []⟩ := by
    have none : (TableLock.empty : TableLock schema).sortedRows range [] reverse = [] := by
      apply List.eq_nil_iff_forall_not_mem.mpr
      intro row member
      rcases TableLock.mem_allRows _ |>.mp (TableLock.mem_sortedRows _ |>.mp member).1 with
        ⟨key, values, found, _⟩
      rw [TableLock.empty, Std.ExtTreeMap.getElem?_empty] at found
      cases found
    rw [Delta.streamLayer, Delta.create, none]
  apply StrictlyAscending.ext (scanned_natural_strict ops _ range reverse) strict
  intro row
  unfold scanned scan
  rw [List.map_append, List.foldl_append, List.map_singleton, blank]
  rw [List.foldl_cons, List.foldl_nil]
  refine (StreamLayer.mem_mergeInto_iff ops.streams ?_ strict.ascending row).trans ?_
  · exact ⟨List.Pairwise.nil, List.Pairwise.nil, List.nodup_nil⟩
  · constructor
    · rintro (⟨absent, _⟩ | ⟨member, _⟩)
      · exact False.elim (List.not_mem_nil absent)
      · exact member
    · intro member
      exact Or.inr ⟨member, fun _ absent => False.elim (List.not_mem_nil absent),
        fun _ absent => False.elim (List.not_mem_nil absent)⟩

/-- Fetching the pending delta does not change what is scanned. -/
theorem scanned_fetched (ops : TableOps S) {txn : TxnId} {pending : Delta schema}
    {state middle : TableState schema} (fetched : pendingDeltaForTxn txn state = .ok pending middle)
    (range : Range S) (reverse : Bool) :
    scanned ops (middle.visibleSnapshot txn) range [] reverse =
      scanned ops (state.visibleSnapshot txn) range [] reverse := by
  rcases State.pendingDeltaForTxn_cases state txn (Delta.create : Delta schema) with
    ⟨error, _, refused⟩ | ⟨existing, _, _, adopted⟩ | ⟨_, absent, installed⟩
  · cases refused.symm.trans fetched
  · cases adopted.symm.trans fetched
    rfl
  · cases installed.symm.trans fetched
    rw [State.visibleSnapshot, State.visibleSnapshot, State.setPending_self, absent]
    refine (scanned_create ops _ _ range reverse).trans ?_
    rw [Option.toList_none, List.append_nil]
    rfl

/-! ## The loops -/

theorem Delta.updateAll_lays {values : List (S.Id × S.Value)} {rows : List (Row S)}
    {before after : Delta schema} (done : forM rows (Delta.updateOne values) before = .ok ⟨⟩ after) :
    overlay after =
      lay (rows.map (fun row => rowCell schema (assignColumns schema values row))) (overlay before) :=
  forM_lays (fun _ _ _ _ one => Delta.upsert_lays one) done

theorem Delta.truncateAll_lays {rows : List (Row S)} {before after : Delta schema}
    (done : forM rows Delta.truncateOne before = .ok ⟨⟩ after) :
    overlay after = lay (rows.map (dropCell schema)) (overlay before) :=
  forM_lays (fun _ _ _ _ one => Delta.dropRow_lays one) done

/-- On a valid row, an update of the right types succeeds. -/
theorem Delta.updateOne_of_typed {row : Row S} (valid : ValidRow schema row)
    {values : List (S.Id × S.Value)} (typed : UpdateTyped schema values) (delta : Delta schema) :
    exists after, Delta.updateOne values row delta = .ok ⟨⟩ after := by
  rcases valid.assign_parts values with ⟨_, keyed, valued⟩
  have validKey := valid.key
  have validValues := (validValues_assigned_iff values valid.values).mpr typed
  rw [← keyed] at validKey
  rw [← valued] at validValues
  exact ⟨_, Delta.upsert_of_valid validKey validValues delta⟩

/-- A value of the wrong type is found out once the row's key has been taken
out of both halves. -/
theorem Delta.updateOne_of_untyped {row : Row S} (valid : ValidRow schema row)
    {values : List (S.Id × S.Value)} (untyped : ¬ UpdateTyped schema values) (delta : Delta schema) :
    exists error, Delta.updateOne values row delta =
      .error error ⟨delta.inserts.erase (keyOf schema row), delta.deletes.erase (keyOf schema row)⟩ := by
  rcases valid.assign_parts values with ⟨_, keyed, valued⟩
  have one : Delta.updateOne values row delta =
      Delta.upsert (keyOf schema (assignColumns schema values row))
        (valuesOf schema (assignColumns schema values row)) delta := rfl
  rw [one, keyed, valued]
  rcases Delta.upsert_cases (keyOf schema row) (assigned schema values (valuesOf schema row)) delta with
    ⟨_, validValues, _⟩ | failed
  · exact absurd ((validValues_assigned_iff values valid.values).mp validValues) untyped
  · exact failed

/-- An update of the right types runs through. -/
theorem Delta.updateAll_of_typed {rows : List (Row S)} (valid : forall row, row ∈ rows -> ValidRow schema row)
    {values : List (S.Id × S.Value)} (typed : UpdateTyped schema values) (delta : Delta schema) :
    exists after, forM rows (Delta.updateOne values) delta = .ok ⟨⟩ after :=
  ⟨_, forM_eq_foldl (fun row member delta => Delta.updateOne_of_typed (valid row member) typed delta) delta⟩

/-- Otherwise it stops at its first row. -/
theorem Delta.updateAll_of_untyped {row : Row S} (valid : ValidRow schema row) (rows : List (Row S))
    {values : List (S.Id × S.Value)} (untyped : ¬ UpdateTyped schema values) (delta : Delta schema) :
    exists error, forM (row :: rows) (Delta.updateOne values) delta =
      .error error ⟨delta.inserts.erase (keyOf schema row), delta.deletes.erase (keyOf schema row)⟩ := by
  rcases Delta.updateOne_of_untyped valid untyped delta with ⟨error, failed⟩
  refine ⟨error, ?_⟩
  rw [List.forM_cons]
  exact bind_of_error failed

/-- Valid rows are dropped one after another. -/
theorem Delta.truncateAll_of_valid {rows : List (Row S)}
    (valid : forall row, row ∈ rows -> ValidRow schema row) (delta : Delta schema) :
    forM rows Delta.truncateOne delta =
      .ok ⟨⟩ (rows.foldl (fun delta row => finalState (Delta.truncateOne row delta)) delta) :=
  forM_eq_foldl (fun row member delta =>
    ⟨_, Delta.dropRow_of_valid (valid row member).key (valid row member).values delta⟩) delta

/-! ## On the owner -/

theorem updateReserved_eq (ops : TableOps S) (txn : TxnId) (range : Range S)
    (values : List (S.Id × S.Value)) :
    (updateReserved ops txn range values : EStateM (Failure LockError) (TableState schema) PUnit) =
      (mapError Failure.error (pendingDeltaForTxn txn) >>= fun pending state =>
        State.writePending txn pending (Delta.updateVisible ops txn range values state) state) := rfl

theorem truncateReserved_eq (ops : TableOps S) (txn : TxnId) (range : Range S) :
    (truncateReserved ops txn range : EStateM (Failure LockError) (TableState schema) PUnit) =
      (mapError Failure.error (pendingDeltaForTxn txn) >>= fun pending state =>
        State.writePending txn pending (Delta.truncateVisible ops txn range state) state) := rfl

section Calls

variable {ops : TableOps S} {range : Range S}

/-- An update is refused and leaves the state alone, or ends as its loop over
the scanned rows does. -/
theorem update_cases (supported : ops.plan schema range [] = .ok ()) (txn : TxnId)
    (values : List (S.Id × S.Value)) (owner : PersistentTable schema) :
    ((exists error semaphore, update ops txn range values owner =
          .error error ⟨owner.state, semaphore⟩) ∧
        ¬ (notUpdatable schema values = none ∧ MayWrite owner txn .all)) ∨
      exists semaphore pending middle, notUpdatable schema values = none ∧
        owner.semaphore.tryWrite txn .all = .ok semaphore ∧
        owner.state.assertWritable txn = .ok () ∧
        pendingDeltaForTxn txn owner.state = .ok pending middle ∧
        ((exists after,
            forM (scanned ops (owner.state.visibleSnapshot txn) range [] false)
              (Delta.updateOne values) pending = .ok ⟨⟩ after ∧
            update ops txn range values owner = .ok ⟨⟩ ⟨middle.setPending txn after, semaphore⟩) ∨
          exists error after,
            forM (scanned ops (owner.state.visibleSnapshot txn) range [] false)
              (Delta.updateOne values) pending = .error error after ∧
            update ops txn range values owner =
              .error (storageFailure error) ⟨middle.setPending txn after, semaphore⟩) := by
  unfold update
  cases named : notUpdatable schema values with
  | some entry =>
      refine Or.inl ⟨⟨_, owner.semaphore, rfl⟩, ?_⟩
      rintro ⟨impossible, _⟩
      cases impossible
  | none =>
      dsimp only
      rcases reserved_pending_cases Failure.error txn .all (Delta.updateVisible ops txn range values)
        (updateReserved_eq ops txn range values) owner with
        ⟨refused, notAdmitted⟩ | ⟨semaphore, pending, middle, granted, writable, fetched, outcome⟩
      · exact Or.inl ⟨refused, fun admitted => notAdmitted admitted.2⟩
      · refine Or.inr ⟨semaphore, pending, middle, rfl, granted, writable, fetched, ?_⟩
        have loop : Delta.updateVisible ops txn range values middle pending =
            mapError storageFailure (forM (scanned ops (owner.state.visibleSnapshot txn) range [] false)
              (Delta.updateOne values)) pending := by
          rw [Delta.updateVisible, openRows_supported supported]
          dsimp only
          rw [scanned_fetched ops fetched range false]
        rw [loop] at outcome
        cases ran : forM (scanned ops (owner.state.visibleSnapshot txn) range [] false)
            (Delta.updateOne values) pending with
        | ok value after =>
            rw [mapError_of_ok ran] at outcome
            rcases outcome with ⟨_, same, done⟩ | ⟨_, _, impossible, _⟩
            · cases same
              exact Or.inl ⟨after, rfl, done⟩
            · cases impossible
        | error error after =>
            rw [mapError_of_error ran] at outcome
            rcases outcome with ⟨_, impossible, _⟩ | ⟨_, _, same, failed⟩
            · cases impossible
            · cases same
              exact Or.inr ⟨error, after, rfl, failed⟩

/-- A truncation is refused and leaves the state alone, or drops each of the
scanned rows. -/
theorem truncate_cases (supported : ops.plan schema range [] = .ok ()) (txn : TxnId)
    (owner : PersistentTable schema) :
    ((exists error semaphore, truncate ops txn range owner = .error error ⟨owner.state, semaphore⟩) ∧
        ¬ MayWrite owner txn .all) ∨
      exists semaphore pending middle after, owner.semaphore.tryWrite txn .all = .ok semaphore ∧
        owner.state.assertWritable txn = .ok () ∧
        pendingDeltaForTxn txn owner.state = .ok pending middle ∧
        forM (scanned ops (owner.state.visibleSnapshot txn) range [] false)
          Delta.truncateOne pending = .ok ⟨⟩ after ∧
        truncate ops txn range owner = .ok ⟨⟩ ⟨middle.setPending txn after, semaphore⟩ := by
  unfold truncate
  rcases reserved_pending_cases Failure.error txn .all (Delta.truncateVisible ops txn range)
    (truncateReserved_eq ops txn range) owner with
    refused | ⟨semaphore, pending, middle, granted, writable, fetched, outcome⟩
  · exact Or.inl refused
  · have loop : Delta.truncateVisible ops txn range middle pending =
        mapError storageFailure (forM (scanned ops (owner.state.visibleSnapshot txn) range [] false)
          Delta.truncateOne) pending := by
      unfold Delta.truncateVisible rowStream
      rw [supported]
      dsimp only [expect]
      rw [mergeDeltas_supported supported]
      dsimp only
      rw [← scanned_fetched ops fetched range false]
      rfl
    have allValid : forall row, row ∈ scanned ops (owner.state.visibleSnapshot txn) range [] false ->
        ValidRow schema row := fun _ member => scanned_valid ops member
    have total := Delta.truncateAll_of_valid allValid pending
    rw [loop, mapError_of_ok total] at outcome
    rcases outcome with ⟨_, same, done⟩ | ⟨_, _, impossible, _⟩
    · cases same
      exact Or.inr ⟨semaphore, pending, middle, _, granted, writable, fetched, total, done⟩
    · cases impossible

/-- What the transaction sees after an update. -/
theorem update_ok_view (supported : ops.plan schema range [] = .ok ()) {txn : TxnId}
    {values : List (S.Id × S.Value)} {owner after : PersistentTable schema}
    (done : update ops txn range values owner = .ok ⟨⟩ after) :
    after.state.view txn =
      replay ((scanned ops (owner.state.visibleSnapshot txn) range [] false).map
        (fun row => rowCell schema (assignColumns schema values row))) (owner.state.view txn) := by
  rcases update_cases supported txn values owner with
    ⟨⟨_, _, failed⟩, _⟩ | ⟨semaphore, pending, middle, _, _, _, fetched,
      ⟨delta, looped, outcome⟩ | ⟨_, _, _, failed⟩⟩
  · cases failed.symm.trans done
  · cases outcome.symm.trans done
    have laid := Delta.updateAll_lays looped
    rw [setPending_view, show delta.answers = _ from laid, lay_read]
    exact congrArg _ (fetched_view fetched).2.2
  · cases failed.symm.trans done

theorem truncate_ok_view (supported : ops.plan schema range [] = .ok ()) {txn : TxnId}
    {owner after : PersistentTable schema} (done : truncate ops txn range owner = .ok ⟨⟩ after) :
    after.state.view txn =
      replay ((scanned ops (owner.state.visibleSnapshot txn) range [] false).map (dropCell schema))
        (owner.state.view txn) := by
  rcases truncate_cases supported txn owner with
    ⟨⟨_, _, failed⟩, _⟩ | ⟨semaphore, pending, middle, delta, _, _, fetched, looped, outcome⟩
  · cases failed.symm.trans done
  · cases outcome.symm.trans done
    have laid := Delta.truncateAll_lays looped
    rw [setPending_view, show delta.answers = _ from laid, lay_read]
    exact congrArg _ (fetched_view fetched).2.2

end Calls

/-! ## What a range write touches -/

/-- Each key whose visible row satisfies the range comes to resolve to its
rewritten row, or to nothing, and every other key resolves as before. -/
def TouchesRange (range : Range S) (rewrite : Row S -> Option (Row S))
    (before after : TableSnapshot schema) : Prop :=
  forall key, resolveRow after key = (resolveRow before key).map (fun found =>
    found.bind (fun row => if schema.admits range row then rewrite row else some row))

/-- Out of the range, a key is expected to resolve as before. -/
theorem rewrites_of_outside {range : Range S} {before : TableSnapshot schema} {rewrite : Row S -> Option (Row S)}
    {key : Key S} (outside : forall row, resolveRow before key = .ok (some row) -> schema.admits range row = false) :
    (resolveRow before key).map (fun found =>
      found.bind (fun row => if schema.admits range row then rewrite row else some row)) = resolveRow before key := by
  cases resolved : resolveRow before key with
  | error panic => rfl
  | ok found =>
      cases found with
      | none => rfl
      | some row =>
          have apart := outside row resolved
          simp only [Except.map, Option.bind_some, apart, Bool.false_eq_true, if_false]

/-- A log with one cell for each scanned row touches the visible rows of the
range, and the superseded versions which resurface. -/
theorem touchesRange_iff {ops : TableOps S} {range : Range S} {before after : TableSnapshot schema}
    (apart : AllApart before) {cell : Row S -> CellWrite (Key S) (List S.Value)}
    {rewrite : Row S -> Option (Row S)}
    (keyed : forall row, ValidRow schema row -> (cell row).key = keyOf schema row)
    (rewritten : forall row, ValidRow schema row ->
      (cell row).outcome.map (fun values => keyOf schema row ++ values) = rewrite row)
    (written : after.view =
      replay ((scanned ops before range [] false).map cell) before.view) :
    TouchesRange range rewrite before after <->
      forall row, Resurfaces range before row -> Settled schema (keyOf schema row) ->
        resolveRow before (keyOf schema row) = .ok (rewrite row) := by
  have scannedKeyed : forall row, row ∈ scanned ops before range [] false -> (cell row).key = keyOf schema row :=
    fun row member => keyed row (scanned_valid ops member)
  have touched : forall row, row ∈ scanned ops before range [] false -> Settled schema (keyOf schema row) ->
      resolveRow after (keyOf schema row) = .ok (rewrite row) := by
    intro row member settled
    have valid := scanned_valid ops member
    have decided : after.view (keyOf schema row) = (cell row).outcome := by
      rw [written]
      exact replay_map_of_mem (keyOf schema) scannedKeyed (scanned_keys_nodup ops) member _
    rw [resolveRow_of_settled valid.key.1 settled, ← rewritten row valid, decided]
  have untouched : forall key, (forall row, row ∈ scanned ops before range [] false ->
      key.length = schema.key.length -> keyOf schema row ≠ readKey schema key) ->
      resolveRow after key = resolveRow before key := by
    intro key absent
    apply resolveRow_congr
    intro arity
    rw [written]
    exact replay_map_of_not_mem (keyOf schema) scannedKeyed (fun row member => absent row member arity) _
  have outside : forall row, Resurfaces range before row -> forall current,
      resolveRow before (keyOf schema row) = .ok (some current) -> Settled schema (keyOf schema row) ->
      schema.admits range current = false := by
    intro row resurfaces current resolved settled
    rcases shown_of_resolved resolved with ⟨_, read, shown⟩
    exact resurfaces.outside apart shown (read.trans settled)
  constructor
  · intro touches row resurfaces settled
    have member : row ∈ scanned ops before range [] false :=
      (mem_scanned_natural_iff ops apart).mpr (Or.inr resurfaces)
    have expected := touches (keyOf schema row)
    rw [touched row member settled, rewrites_of_outside
      (fun current resolved => outside row resurfaces current resolved settled)] at expected
    exact expected.symm
  · intro harmless key
    by_cases met : key.length = schema.key.length ∧
        exists row, row ∈ scanned ops before range [] false ∧ keyOf schema row = readKey schema key
    · rcases met with ⟨arity, row, member, same⟩
      have settled : Settled schema (keyOf schema row) := same ▸ settled_readKey arity
      rw [← resolveRow_readKey arity, ← resolveRow_readKey arity, ← same, touched row member settled]
      rcases (mem_scanned_natural_iff ops apart).mp member with ⟨admitted, shown⟩ | resurfaces
      · rw [shown.resolved settled]
        simp only [Except.map, Option.bind_some, admitted, if_true]
      · rw [rewrites_of_outside (fun current resolved => outside row resurfaces current resolved settled)]
        exact (harmless row resurfaces settled).symm
    · rw [untouched key (fun row member arity same => met ⟨arity, row, member, same⟩)]
      refine (rewrites_of_outside (fun row resolved => ?_)).symm
      by_contra admitted
      rw [Bool.not_eq_false] at admitted
      rcases shown_of_resolved resolved with ⟨arity, read, shown⟩
      exact met ⟨arity, row, scanned_of_shown ops apart shown admitted, read⟩

/-- A range update, or a truncation, touches exactly the visible rows of its
range if and only if every version which resurfaces in the range, and which a point read
can find, would be rewritten into what is visible anyway. -/
theorem range_writes_touchRange_iff {ops : TableOps S} {schema : TableSchema S}
    {config : Config (Delta schema) (TableLock schema) (Key S)}
    (reachable : Reachable (tableDriver ops schema) config) (txn : TxnId) {range : Range S}
    (supported : ops.plan schema range [] = .ok ()) :
    (forall values after, update ops txn range values config.owner = .ok ⟨⟩ after ->
      (TouchesRange range (fun row => some (assignColumns schema values row))
          (config.state.visibleSnapshot txn) (after.state.visibleSnapshot txn) <->
        forall row, Resurfaces range (config.state.visibleSnapshot txn) row -> Settled schema (keyOf schema row) ->
          resolveRow (config.state.visibleSnapshot txn) (keyOf schema row) =
            .ok (some (assignColumns schema values row)))) ∧
    forall after, truncate ops txn range config.owner = .ok ⟨⟩ after ->
      (TouchesRange range (fun _ => none)
          (config.state.visibleSnapshot txn) (after.state.visibleSnapshot txn) <->
        forall row, Resurfaces range (config.state.visibleSnapshot txn) row -> Settled schema (keyOf schema row) ->
          resolveRow (config.state.visibleSnapshot txn) (keyOf schema row) = .ok none) := by
  have apart := allApart_of_reachable reachable txn
  constructor
  · intro values after done
    apply touchesRange_iff apart ?_ ?_ (update_ok_view supported done)
    · intro row valid
      exact (valid.assign_parts values).2.1
    · intro row valid
      rcases valid.assign_parts values with ⟨whole, _, valued⟩
      rw [rowCell, CellWrite.outcome, valued, whole]
      rfl
  · intro after done
    apply touchesRange_iff apart ?_ ?_ (truncate_ok_view supported done)
    · intro row _
      rfl
    · intro row _
      rfl

/-- The value five for the rows of a range. -/
def fiveForOne : List (Signature.numbers.Id × Signature.numbers.Value) :=
  [(Signature.column 1, Signature.number 5)]

theorem range_writes_touchRange_iff_valueOne :
    exists updated truncated,
      update TableOps.reference 3 valueOne fiveForOne overwritten.owner = .ok ⟨⟩ updated ∧
      truncate TableOps.reference 3 valueOne overwritten.owner = .ok ⟨⟩ truncated ∧
      (TouchesRange valueOne (fun row => some (assignColumns pairSchema fiveForOne row))
          (overwritten.state.visibleSnapshot 3) (updated.state.visibleSnapshot 3) <->
        forall row, Resurfaces valueOne (overwritten.state.visibleSnapshot 3) row ->
          Settled pairSchema (keyOf pairSchema row) ->
          resolveRow (overwritten.state.visibleSnapshot 3) (keyOf pairSchema row) =
            .ok (some (assignColumns pairSchema fiveForOne row))) ∧
      (TouchesRange valueOne (fun _ => none)
          (overwritten.state.visibleSnapshot 3) (truncated.state.visibleSnapshot 3) <->
        forall row, Resurfaces valueOne (overwritten.state.visibleSnapshot 3) row ->
          Settled pairSchema (keyOf pairSchema row) ->
          resolveRow (overwritten.state.visibleSnapshot 3) (keyOf pairSchema row) = .ok none) := by
  have updated : update TableOps.reference 3 valueOne fiveForOne overwritten.owner = .ok ⟨⟩ _ :=
    eq_ok_of_succeeded (by decide +kernel)
  have truncated : truncate TableOps.reference 3 valueOne overwritten.owner = .ok ⟨⟩ _ :=
    eq_ok_of_succeeded (by decide +kernel)
  have both := range_writes_touchRange_iff overwritten_reachable 3
    (rfl : TableOps.reference.plan pairSchema valueOne [] = .ok ())
  exact ⟨_, _, updated, truncated, both.1 _ _ updated, both.2 _ truncated⟩

/-- The row of value two is overwritten by its superseded version of value one,
or deleted on account of it. -/
theorem not_touchesRange_overwritten :
    Reachable (tableDriver TableOps.reference pairSchema) overwritten ∧
      (exists after,
        update TableOps.reference 3 valueOne fiveForOne overwritten.owner = .ok ⟨⟩ after ∧
        ¬ TouchesRange valueOne (fun row => some (assignColumns pairSchema fiveForOne row))
          (overwritten.state.visibleSnapshot 3) (after.state.visibleSnapshot 3)) ∧
      exists after, truncate TableOps.reference 3 valueOne overwritten.owner = .ok ⟨⟩ after ∧
        ¬ TouchesRange valueOne (fun _ => none)
          (overwritten.state.visibleSnapshot 3) (after.state.visibleSnapshot 3) := by
  refine ⟨overwritten_reachable,
    ⟨_, eq_ok_of_succeeded (by decide +kernel), fun touches => ?_⟩,
    ⟨_, eq_ok_of_succeeded (by decide +kernel), fun touches => ?_⟩⟩
  · have here := touches [Signature.number 7]
    revert here
    decide +kernel
  · have here := touches [Signature.number 7]
    revert here
    decide +kernel

end Table
end TransactionalCollection
