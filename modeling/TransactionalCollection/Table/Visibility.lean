import TransactionalCollection.Layering.Replay
import TransactionalCollection.Persistence.Mutation
import TransactionalCollection.Table.KeyScan

namespace TransactionalCollection
namespace Table

open Std (ExtTreeMap)
open Layering Native Execution Persistence

/-!
# The table as a layered map

A native table binds keys to values, and a delta answers a key it holds: its
insertions prevail when a key is resolved, while its deletions come last when
it is materialized.  The two agree as long as no key is in both, and every
mutation keeps it so.
-/

variable {S : Signature} {schema : TableSchema S}

/-! ## Native storage -/

theorem upsert_of_valid {key : Key S} {values : List S.Value} (validKey : schema.ValidKey key)
    (validValues : schema.ValidValues values) (table : TableLock schema) :
    upsert key values table = .ok ⟨⟩ (table.put key values validKey validValues) := by
  have acceptedKey := TableSchema.validateKey_eq_ok_iff.mpr ⟨validKey, rfl⟩
  have acceptedValues := TableSchema.validateValues_eq_ok_iff.mpr ⟨validValues, rfl⟩
  unfold upsert
  split
  · rename_i error rejected
    rw [acceptedKey] at rejected
    cases rejected
  · split
    · rename_i error rejected
      rw [acceptedValues] at rejected
      cases rejected
    · rfl

/-- An upsert either binds its key to its values, or leaves the table alone. -/
theorem upsert_cases (key : Key S) (values : List S.Value) (table : TableLock schema) :
    (exists validKey validValues,
        upsert key values table = .ok ⟨⟩ (table.put key values validKey validValues)) ∨
      exists error, upsert key values table = .error error table := by
  by_cases validKey : schema.ValidKey key
  · by_cases validValues : schema.ValidValues values
    · exact Or.inl ⟨validKey, validValues, upsert_of_valid validKey validValues table⟩
    · refine Or.inr ?_
      unfold upsert
      split
      · exact ⟨_, rfl⟩
      · split
        · exact ⟨_, rfl⟩
        · rename_i accepted
          exact absurd (TableSchema.validateValues_eq_ok_iff.mp accepted).1 validValues
  · refine Or.inr ?_
    unfold upsert
    split
    · exact ⟨_, rfl⟩
    · rename_i accepted
      exact absurd (TableSchema.validateKey_eq_ok_iff.mp accepted).1 validKey

instance : StoredMap (TableLock schema) (Key S) (List S.Value) where
  bindings table key := table.rows[key]?

theorem bindings_put (table : TableLock schema) (key : Key S) (values : List S.Value)
    (validKey : schema.ValidKey key) (validValues : schema.ValidValues values) :
    bindings (table.put key values validKey validValues) =
      (CellWrite.put key values).apply (bindings table) := by
  funext other
  exact table.put_rows key values validKey validValues other

theorem bindings_erase (table : TableLock schema) (key : Key S) :
    bindings (table.erase key) =
      (CellWrite.remove key : CellWrite (Key S) (List S.Value)).apply (bindings table) := by
  funext other
  exact table.erase_rows key other

/-! ## Materializing a delta -/

namespace Delta

/-- A stored row splits into its key and its values. -/
theorem split_stored {table : TableLock schema} {entry : Key S × List S.Value}
    (member : entry ∈ table.rows.toList) :
    (entry.1 ++ entry.2).take schema.key.length = entry.1 ∧
      (entry.1 ++ entry.2).drop schema.key.length = entry.2 := by
  have found := ExtTreeMap.mem_toList_iff_getElem?_eq_some.mp member
  exact take_append_of_arity (table.valid _ _ found).1.1 entry.2

/-- Upserting a stored row into a table puts it there. -/
theorem upsert_stored {source : TableLock schema} {entry : Key S × List S.Value}
    (member : entry ∈ source.rows.toList) (table : TableLock schema) :
    exists validKey validValues,
      Table.upsert ((entry.1 ++ entry.2).take schema.key.length)
          ((entry.1 ++ entry.2).drop schema.key.length) table =
        .ok ⟨⟩ (table.put entry.1 entry.2 validKey validValues) := by
  rcases source.valid _ _ (ExtTreeMap.mem_toList_iff_getElem?_eq_some.mp member) with ⟨validKey, validValues⟩
  rw [(split_stored member).1, (split_stored member).2]
  exact ⟨validKey, validValues, upsert_of_valid validKey validValues table⟩

/-- Stored rows are valid, so materializing them raises no storage error. -/
theorem applyTo_eq (delta : Delta schema) (persistent : TableLock schema) :
    delta.applyTo persistent =
      .ok ⟨⟩ (delta.nativeWrites.foldl (fun native write => write.perform native) persistent) := by
  have inserts : forall row, row ∈ delta.inserts.allRows -> forall table : TableLock schema,
      exists after, Table.upsert (row.take schema.key.length) (row.drop schema.key.length) table =
        .ok ⟨⟩ after := by
    intro row member table
    rcases List.mem_map.mp member with ⟨entry, stored, rfl⟩
    rcases upsert_stored stored table with ⟨_, _, done⟩
    exact ⟨_, done⟩
  change EStateM.bind
    (forM delta.inserts.allRows
      (fun row => Table.upsert (row.take schema.key.length) (row.drop schema.key.length)))
    (fun _ => forM delta.deletes.allRows (fun row => eraseRow (row.take schema.key.length)))
    persistent = _
  rw [EStateM.bind, forM_eq_foldl inserts, nativeWrites, List.foldl_append, List.foldl_map,
    List.foldl_map]
  refine (forM_eq_foldl (fun row _ table => ⟨table.erase _, rfl⟩) _).trans ?_
  rw [TableLock.allRows, List.foldl_map, TableLock.allRows, List.foldl_map]
  have sameInserts : forall table : TableLock schema,
      delta.inserts.rows.toList.foldl (fun table entry => finalState
        (Table.upsert ((entry.1 ++ entry.2).take schema.key.length)
          ((entry.1 ++ entry.2).drop schema.key.length) table)) table =
      delta.inserts.rows.toList.attach.foldl
        (fun table entry => (insertedWrite delta.inserts entry).perform table) table := by
    intro table
    rw [← List.foldl_attach]
    apply List.foldl_ext
    intro below entry _
    rcases upsert_stored entry.2 below with ⟨_, _, done⟩
    rw [done]
    rfl
  rw [sameInserts]
  congr 1
  apply List.foldl_ext
  intro below entry member
  rw [(split_stored member).1]
  rfl

instance : PersistentDelta (Delta schema) (TableLock schema) where
  Write := NativeWrite schema
  nativeWrites := nativeWrites
  perform := NativeWrite.perform
  applyTo := applyTo
  applyTo_eq := applyTo_eq

/-- The cell a native write changes. -/
def NativeWrite.cell : NativeWrite schema -> CellWrite (Key S) (List S.Value)
  | .upsert key values _ _ => .put key values
  | .deleteRow key => .remove key

theorem NativeWrite.bindings_perform (write : NativeWrite schema) (table : TableLock schema) :
    bindings (write.perform table) = write.cell.apply (bindings table) := by
  cases write with
  | upsert key values validKey validValues => exact bindings_put table key values validKey validValues
  | deleteRow key => exact bindings_erase table key

/-- How a delta answers a key: insertions prevail over deletions. -/
def answers (delta : Delta schema) : Overlay (Key S) (List S.Value) := fun key =>
  match delta.inserts.rows[key]? with
  | some values => some (some values)
  | none => if delta.deletes.rows[key]?.isSome then some none else none

/-- No key is both inserted and deleted. -/
def KeysApart (delta : Delta schema) : Prop :=
  forall key : Key S, delta.inserts.rows[key]? ≠ none -> delta.deletes.rows[key]? = none

theorem cells_nativeWrites (delta : Delta schema) :
    delta.nativeWrites.map NativeWrite.cell =
      delta.inserts.rows.toList.map (fun entry => .put entry.1 entry.2) ++
        delta.deletes.rows.toList.map (fun entry => .remove entry.1) := by
  rw [nativeWrites, List.map_append, List.map_map, List.map_map]
  congr 1
  exact List.attach_map_val (f := fun entry : Key S × List S.Value => CellWrite.put entry.1 entry.2)

theorem effect_inserts (delta : Delta schema) (key : Key S) :
    effect (delta.inserts.rows.toList.map (fun entry => CellWrite.put entry.1 entry.2)) key =
      delta.inserts.rows[key]?.map some := by
  cases found : delta.inserts.rows[key]? with
  | some values =>
      refine effect_of_agree ⟨.put key values, ?_, rfl⟩ ?_
      · exact List.mem_map.mpr
          ⟨(key, values), ExtTreeMap.mem_toList_iff_getElem?_eq_some.mpr found, rfl⟩
      · rintro write written rfl
        rcases List.mem_map.mp written with ⟨entry, stored, rfl⟩
        have present : delta.inserts.rows[entry.1]? = some entry.2 :=
          ExtTreeMap.mem_toList_iff_getElem?_eq_some.mp stored
        exact present.symm.trans found
  | none =>
      refine (effect_eq_none_iff _ _).mpr ?_
      rintro write written rfl
      rcases List.mem_map.mp written with ⟨entry, stored, rfl⟩
      have present : delta.inserts.rows[entry.1]? = some entry.2 :=
        ExtTreeMap.mem_toList_iff_getElem?_eq_some.mp stored
      exact absurd (present.symm.trans found) (Option.some_ne_none _)

theorem effect_deletes (delta : Delta schema) (key : Key S) :
    effect (delta.deletes.rows.toList.map
      (fun entry => (CellWrite.remove entry.1 : CellWrite (Key S) (List S.Value)))) key =
      if delta.deletes.rows[key]?.isSome then some none else none := by
  cases found : delta.deletes.rows[key]? with
  | some values =>
      refine effect_of_agree ⟨.remove key, ?_, rfl⟩ ?_
      · exact List.mem_map.mpr
          ⟨(key, values), ExtTreeMap.mem_toList_iff_getElem?_eq_some.mpr found, rfl⟩
      · rintro write written _
        rcases List.mem_map.mp written with ⟨_, _, rfl⟩
        rfl
  | none =>
      refine (effect_eq_none_iff _ _).mpr ?_
      rintro write written rfl
      rcases List.mem_map.mp written with ⟨entry, stored, rfl⟩
      have present : delta.deletes.rows[entry.1]? = some entry.2 :=
        ExtTreeMap.mem_toList_iff_getElem?_eq_some.mp stored
      exact absurd (present.symm.trans found) (Option.some_ne_none _)

/-- Deletions are written last, so the two readings differ on a key that is in
both tables and nowhere else. -/
theorem effect_nativeWrites {delta : Delta schema} (apart : delta.KeysApart) :
    effect (delta.nativeWrites.map NativeWrite.cell) = delta.answers := by
  funext key
  rw [cells_nativeWrites, effect_append, effect_inserts, effect_deletes, answers]
  cases inserted : delta.inserts.rows[key]? with
  | some values =>
      rw [apart key (inserted ▸ Option.some_ne_none values)]
      rfl
  | none => exact Option.or_none

theorem answers_of_written {delta : Delta schema} {write : NativeWrite schema}
    (written : write ∈ delta.nativeWrites) : delta.answers write.cell.key ≠ none := by
  have cell : write.cell ∈ delta.nativeWrites.map NativeWrite.cell := List.mem_map_of_mem written
  rw [cells_nativeWrites, List.mem_append, List.mem_map, List.mem_map] at cell
  rcases cell with ⟨entry, stored, same⟩ | ⟨entry, stored, same⟩
  · have present : delta.inserts.rows[entry.1]? = some entry.2 :=
      ExtTreeMap.mem_toList_iff_getElem?_eq_some.mp stored
    rw [← same, CellWrite.key, answers, present]
    exact Option.some_ne_none _
  · have present : delta.deletes.rows[entry.1]? = some entry.2 :=
      ExtTreeMap.mem_toList_iff_getElem?_eq_some.mp stored
    rw [← same, CellWrite.key, answers, present]
    split <;> simp

theorem bindings_performAll (writes : List (NativeWrite schema)) (table : TableLock schema) :
    bindings (performAll (D := Delta schema) writes table) =
      replay (writes.map NativeWrite.cell) (bindings table) := by
  induction writes generalizing table with
  | nil => rfl
  | cons write writes inductionHypothesis =>
      refine (inductionHypothesis (write.perform table)).trans ?_
      rw [write.bindings_perform]
      rfl

instance : LayeredDelta (Delta schema) (TableLock schema) (Key S) (List S.Value) where
  overlay := answers
  Separate := KeysApart
  perform_silent := by
    intro delta table write key written silent
    change bindings (write.perform table) key = bindings table key
    rw [write.bindings_perform, CellWrite.apply, if_neg]
    rintro rfl
    exact answers_of_written written silent
  performAll_read := by
    intro delta table apart
    change bindings (performAll (D := Delta schema) delta.nativeWrites table) = _
    rw [bindings_performAll, ← effect_read, effect_nativeWrites apart]

end Delta

/-! ## Point reads -/

/-- One delta resolved over a row is its answer over the row's values, for the key which
is read. -/
theorem Delta.resolveOver_eq {key : Key S} (arity : key.length = schema.key.length)
    (delta : Delta schema) (below : Option (List S.Value)) :
    delta.resolveOver key (below.map (fun values => readKey schema key ++ values)) =
      .ok (((overlay delta (readKey schema key)).getD below).map (fun values => readKey schema key ++ values)) := by
  unfold resolveOver
  rw [getRow_of_arity arity, getRow_of_arity arity]
  change Except.ok _ = Except.ok ((((delta.answers (readKey schema key)).getD below)).map _)
  simp only [answers]
  cases delta.inserts.rows[readKey schema key]? with
  | some values => rfl
  | none => cases delta.deletes.rows[readKey schema key]? <;> rfl

/-- `resolve_row` looks the key which is read up in the stack of the visible deltas. -/
theorem resolveRow_of_arity {key : Key S} (arity : key.length = schema.key.length)
    (snapshot : TableSnapshot schema) :
    resolveRow snapshot key =
      .ok ((snapshot.view (readKey schema key)).map (fun values => readKey schema key ++ values)) := by
  have fold : forall (deltas : List (Delta schema)) (below : View (Key S) (List S.Value)),
      deltas.foldlM (fun row delta => delta.resolveOver key row)
        ((below (readKey schema key)).map (fun values => readKey schema key ++ values)) =
      (.ok ((stack (deltas.map overlay) below (readKey schema key)).map
        (fun values => readKey schema key ++ values)) : Except Panic (Option (Row S))) := by
    intro deltas
    induction deltas with
    | nil => exact fun _ => rfl
    | cons delta deltas inductionHypothesis =>
        intro below
        rw [List.foldlM_cons, Delta.resolveOver_eq arity]
        exact inductionHypothesis ((overlay delta).read below)
  unfold resolveRow
  rw [getRow_of_arity arity]
  exact fold snapshot.deltas (bindings snapshot.persistent)

/-- A settled key is looked up as it is. -/
theorem resolveRow_of_settled {key : Key S} (arity : key.length = schema.key.length) (settled : Settled schema key)
    (snapshot : TableSnapshot schema) :
    resolveRow snapshot key = .ok ((snapshot.view key).map (fun values => key ++ values)) := by
  rw [resolveRow_of_arity arity, settled]

theorem resolveRow_of_distinct (distinct : schema.KeysDistinct) {key : Key S} (arity : key.length = schema.key.length)
    (snapshot : TableSnapshot schema) :
    resolveRow snapshot key = .ok ((snapshot.view key).map (fun values => key ++ values)) :=
  resolveRow_of_settled arity (settled_of_distinct distinct arity) snapshot

theorem resolveRow_readKey {key : Key S} (arity : key.length = schema.key.length) (snapshot : TableSnapshot schema) :
    resolveRow snapshot (readKey schema key) = resolveRow snapshot key := by
  rw [resolveRow_of_settled (readKey_length arity) (settled_readKey arity), resolveRow_of_arity arity]

/-- A key of the wrong arity stops the lookup before it starts. -/
theorem resolveRow_of_wrong_arity {key : Key S} (arity : key.length ≠ schema.key.length)
    (snapshot : TableSnapshot schema) :
    resolveRow snapshot key = .error ⟨"check persistent visibility"⟩ := by
  rcases getRow_of_wrong_arity arity snapshot.persistent with ⟨error, refused⟩
  unfold resolveRow
  rw [refused]
  rfl

/-- Snapshots which agree on the key which is read resolve it alike, also to a panic. -/
theorem resolveRow_congr {left right : TableSnapshot schema} {key : Key S}
    (same : key.length = schema.key.length ->
      left.view (readKey schema key) = right.view (readKey schema key)) :
    resolveRow left key = resolveRow right key := by
  by_cases arity : key.length = schema.key.length
  · rw [resolveRow_of_arity arity, resolveRow_of_arity arity, same arity]
  · rw [resolveRow_of_wrong_arity arity, resolveRow_of_wrong_arity arity]

end Table
end TransactionalCollection
