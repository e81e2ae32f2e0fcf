import TransactionalCollection.Persistence.Replacement
import TransactionalCollection.Table.Listing

namespace TransactionalCollection
namespace Table

open Layering Native Execution Persistence Streaming

/-!
# Restoring a table

The replacement hides every row which has been decided, canonical or committed,
and binds the rows of the source.  The schemas are compared as values, and equal
values have key columns alike, so a row of the source splits in the same place.
-/

variable {S : Signature} {schema : TableSchema S}

/-- The length of a written schema's key. -/
theorem TableSchema.key_length_of_castFrom {first second : TableSchema S}
    (same : first.castFrom = second.castFrom) : first.key.length = second.key.length := by
  have whole : forall schema : TableSchema S, schema.keyTypes.length = schema.key.length := by
    intro schema
    rw [keyTypes, List.length_take, schema.primary.types_length, schema.primary_names,
      List.length_append]
    exact Nat.min_eq_left (Nat.le_add_right _ _)
  unfold castFrom at same
  have columns := (List.cons.inj (SchemaValue.tuple.inj same)).1
  have keys := (List.cons.inj (SchemaValue.tuple.inj columns)).1
  have lengths := congrArg List.length (SchemaValue.tuple.inj keys)
  simp only [List.length_map, List.length_zip, whole, Nat.min_self] at lengths
  exact lengths

namespace Delta

/-- A delta which only deletes hides what it deletes. -/
theorem deletes_hide (table : TableLock schema) :
    overlay (⟨.empty, table⟩ : Delta schema) = Overlay.hides (bindings table) := by
  funext key
  change Delta.answers _ key = (table.rows[key]?.map (fun _ => none))
  have absent : (TableLock.empty : TableLock schema).rows[key]? = none :=
    Std.ExtTreeMap.getElem?_empty
  simp only [answers, absent]
  cases table.rows[key]? with
  | none => rfl
  | some values => rfl

/-- Seeding and copying show the source over what has been decided. -/
theorem copied_read {committed : List (Delta schema)} {source : List (Row S)}
    {canonical : TableLock schema} {seeded delta : Delta schema}
    (separate : forall layer, layer ∈ committed -> Separate layer)
    (seeding : Delta.seed committed (Delta.forRestore canonical) = .ok ⟨⟩ seeded)
    (copied : Delta.copyRows source seeded = .ok ⟨⟩ delta) {goal : View (Key S) (List S.Value)}
    (builds : replay (source.map (rowCell schema)) (fun _ => none) = goal) :
    (overlay delta).read (stack (committed.map overlay) (bindings canonical)) = goal := by
  have applied : Delta.seed committed (Delta.forRestore canonical) =
      .ok ⟨⟩ ⟨.empty, performAll (committed.flatMap Persistence.nativeWrites) canonical⟩ := by
    have merged : forM committed Delta.applyTo (Delta.forRestore canonical).deletes = .ok ⟨⟩ _ :=
      applyAll_eq committed canonical
    rw [Delta.seed, Delta.onDeletes, focus_of_ok merged]
    rfl
  cases applied.symm.trans seeding
  have laid : overlay delta = lay (source.map (rowCell schema)) (overlay _) :=
    forM_lays (fun _ _ _ _ one => Delta.upsert_lays one) copied
  apply read_of_hides ?_ laid builds
  rw [deletes_hide, State.bindings_performAll separate canonical]

end Delta

/-- A restoration which succeeds has compared the schemas, and staged the rows of
the source. -/
theorem restoreFrom_ok {ops : TableOps S} {txn : TxnId} {sourceSchema : TableSchema S}
    {source : PersistentTable sourceSchema} {owner after : PersistentTable schema}
    (done : restoreFrom ops txn source owner = .ok ⟨⟩ after) :
    owner.state.assertWritable txn = .ok () ∧ schema.castFrom = sourceSchema.castFrom ∧
      exists seeded delta, after.state = owner.state.setPending txn delta ∧
        Delta.seed (owner.state.committedThrough txn) (Delta.forRestore owner.state.persistent) =
          .ok ⟨⟩ seeded ∧
        Delta.copyRows (scanned ops (source.state.visibleSnapshot txn) Range.default [] false) seeded =
          .ok ⟨⟩ delta := by
  have streamed : (rows ops txn Range.default [] false source).1 = .ok _ :=
    rows_supported (ops.plan_default sourceSchema) false
  have finished := (reserved_eq_ok done).2
  rcases restoreReserved_cases txn sourceSchema (rows ops txn Range.default [] false source).1
    owner.state with ⟨_, failed⟩ | ⟨writable, same, rows, seeded, delta, listed, seeds, copied, staged⟩
  · cases failed.symm.trans finished
  · cases streamed.symm.trans listed
    refine ⟨writable, same, seeded, delta, ?_, seeds, copied⟩
    injection finished.symm.trans staged

/-- A restoration which fails has worked in its workspace only. -/
theorem restoreFrom_error {ops : TableOps S} {txn : TxnId} {sourceSchema : TableSchema S}
    {source : PersistentTable sourceSchema} {owner after : PersistentTable schema}
    {failure : Failure OpError} (failed : restoreFrom ops txn source owner = .error failure after) :
    after.state = owner.state := by
  rcases reserved_eq_error failed with same | stopped
  · exact same
  · rcases restoreReserved_cases txn sourceSchema (rows ops txn Range.default [] false source).1
      owner.state with ⟨_, unchanged⟩ | ⟨_, _, _, _, _, _, _, _, staged⟩
    · injection stopped.symm.trans unchanged
    · cases staged.symm.trans stopped

/-- The rows a source streams rebuild what it shows, in any schema which splits
them in the same place. -/
theorem replay_scanned {ops : TableOps S} {sourceSchema : TableSchema S} {txn : TxnId}
    {source : PersistentTable sourceSchema}
    (apart : TableSource.Apart txn (.file source : TableSource sourceSchema))
    (splits : schema.key.length = sourceSchema.key.length) :
    replay ((scanned ops (source.state.visibleSnapshot txn) Range.default [] false).map (rowCell schema))
      (fun _ => none) = source.state.view txn := by
  have unbounded : Range.OnKeys (Range.default : Range S) sourceSchema := fun _ _ => rfl
  have shown : forall row, row ∈ scanned ops (source.state.visibleSnapshot txn) Range.default [] false <->
      _ ∧ exists key values, source.state.view txn key = some values ∧ row = key ++ values :=
    fun row => TableSource.mem_listed_iff (.file source) apart unbounded
  have cells : rowCell schema = rowCell sourceSchema := by
    funext row
    simp only [rowCell, keyOf, valuesOf, splits]
  have parts : forall {key : Key S} {values : List S.Value}, source.state.view txn key = some values ->
      rowCell sourceSchema (key ++ values) = .put key values := by
    intro key values viewed
    have checked := TableSource.valid_of_view (.file source) viewed
    have split := ValidRow.of_parts checked.1 checked.2
    rw [rowCell, split.2.1, split.2.2]
  rw [cells]
  have keyed : forall {key : Key S} {values : List S.Value}, source.state.view txn key = some values ->
      keyOf sourceSchema (key ++ values) = key := fun viewed => congrArg CellWrite.key (parts viewed)
  apply replay_map_eq (keyOf sourceSchema) (fun _ _ => rfl) (scanned_keys_nodup ops)
  · intro row listed
    rcases (shown row).mp listed with ⟨_, key, values, viewed, rfl⟩
    rw [keyed viewed, parts viewed]
    exact viewed
  · intro key absent
    cases viewed : source.state.view txn key with
    | none => rfl
    | some values =>
        have listed := (shown (key ++ values)).mpr ⟨sourceSchema.admits_default _, key, values, viewed, rfl⟩
        exact absurd (keyed viewed) (absent _ listed)

/-- A successful restoration of a table replaces what its transaction sees with
the rows of the source. -/
theorem restoreFrom_replaces {ops : TableOps S} {schema sourceSchema : TableSchema S}
    {target : Config (Delta schema) (TableLock schema) (Key S)}
    (reachable : Reachable (tableDriver ops schema) target)
    {source : Config (Delta sourceSchema) (TableLock sourceSchema) (Key S)}
    (sourceReachable : Reachable (tableDriver ops sourceSchema) source) {txn : TxnId}
    {after : PersistentTable schema}
    (done : restoreFrom ops txn source.owner target.owner = .ok ⟨⟩ after) :
    Replaces (tableDriver ops schema) txn (source.state.view txn) target after := by
  rcases restoreFrom_ok done with ⟨writable, schemas, seeded, delta, staged, seeding, copied⟩
  have reached : Reachable (tableDriver ops schema) { target with owner := after } := by
    have stepped := reachable.step (.mutate txn (.restoreFrom sourceSchema source.owner))
    change Reachable _ { target with owner := finalState (restoreFrom ops txn source.owner target.owner) }
      at stepped
    rw [done] at stepped
    exact stepped
  exact replaces_of_setPending reached staged writable
    (Delta.copied_read (reachable.sound.separateThrough txn) seeding copied
      (replay_scanned (allApart_of_reachable sourceReachable txn)
        (TableSchema.key_length_of_castFrom schemas)))

/-- The target then streams the rows which the source streams. -/
theorem restoreFrom_rows {ops : TableOps S} {schema sourceSchema : TableSchema S}
    {target : Config (Delta schema) (TableLock schema) (Key S)}
    (reachable : Reachable (tableDriver ops schema) target)
    {source : Config (Delta sourceSchema) (TableLock sourceSchema) (Key S)}
    (sourceReachable : Reachable (tableDriver ops sourceSchema) source) {txn : TxnId}
    {after : PersistentTable schema}
    (done : restoreFrom ops txn source.owner target.owner = .ok ⟨⟩ after) :
    (rows ops txn Range.default [] false after).1 =
      (rows ops txn Range.default [] false source.owner).1 := by
  have replaced := restoreFrom_replaces reachable sourceReachable done
  have admitted := restoreFrom_admits ops txn source.owner target.owner
  rw [done] at admitted
  have reached := reachable.sound.mutated admitted.mutates
  have apart : TableSource.Apart txn (.file after : TableSource schema) := by
    intro delta member
    rcases List.mem_append.mp member with committed | own
    · exact reached.separateThrough txn delta committed
    · exact reached.pendingSeparate txn delta (Option.mem_toList.mp own)
  have sourceApart : TableSource.Apart txn (.file source.owner : TableSource sourceSchema) :=
    allApart_of_reachable sourceReachable txn
  have listed := TableSource.listed_of_view (.file after) (.file source.owner) ops apart sourceApart
    replaced.shows
  rw [rows_supported (ops.plan_default schema), rows_supported (ops.plan_default sourceSchema)]
  exact congrArg Except.ok listed

end Table
end TransactionalCollection
