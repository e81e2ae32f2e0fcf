import TransactionalCollection.Table.LocalWrites
import TransactionalCollection.Table.ViewReads

namespace TransactionalCollection
namespace Table

open Layering Native Execution Persistence

/-!
# Local tables implement transactional ones

A local table changes its rows in place.  A transactional table records what a
transaction writes in a delta, and shows it to that transaction over what has
been decided.  As long as no other transaction stands in the way, the two give
the same answers, operation by operation, and show the same rows.
-/

variable {S : Signature} {schema : TableSchema S}

/-! ## Operations -/

/-- An operation on a table through its handle. -/
inductive TableOp (S : Signature) where
  | upsertRow (key : Key S) (values : List S.Value)
  | insertRow (key : Key S) (values : List S.Value)
  | deleteRow (key : Key S)
  | update (range : Range S) (values : List (S.Id × S.Value))
  | truncate (range : Range S)
  | readRow (key : Key S)
  | containsRow (key : Key S)
  | count
  | isEmpty
  | rowStream

/-- What an operation returns when it succeeds. -/
inductive Reply (S : Signature) where
  | unit
  | row (found : Option (Row S))
  | flag (answer : Bool)
  | number (answer : Nat)
  | rows (stream : List (Row S))

/-- The outcome of a mutation, as a reply. -/
def acknowledge (result : EStateM.Result (Failure OpError) (Handle schema) PUnit) :
    Except (Failure OpError) (Reply S) × Handle schema :=
  match result with
  | .ok _ handle => (.ok .unit, handle)
  | .error failure handle => (.error failure, handle)

/-- The outcome of a read, as a reply. -/
def answer {A : Type} (reply : A -> Reply S) (outcome : Except (Failure OpError) A × Handle schema) :
    Except (Failure OpError) (Reply S) × Handle schema :=
  (outcome.1.map reply, outcome.2)

namespace TableOp

def perform (ops : TableOps S) (ranges : RangeOps S) (txn : TxnId) (handle : Handle schema) :
    TableOp S -> Except (Failure OpError) (Reply S) × Handle schema
  | .upsertRow key values => acknowledge (Handle.upsertRow txn key values handle)
  | .insertRow key values => acknowledge (Handle.insertRow txn key values handle)
  | .deleteRow key => acknowledge (Handle.deleteRow txn key handle)
  | .update range values => acknowledge (Handle.update ops ranges txn range values handle)
  | .truncate range => acknowledge (Handle.truncate ops ranges txn range handle)
  | .readRow key => answer .row (handle.readRow txn key)
  | .containsRow key => answer .flag (handle.containsRow txn key)
  | .count => answer .number (handle.count ops txn)
  | .isEmpty => answer .flag (handle.isEmpty ops txn)
  | .rowStream => answer .rows (handle.rowStream ops txn)

/-- Keys and values are valid for the schema, updated columns are value columns,
and ranges bound key columns only. -/
def WellFormed (schema : TableSchema S) : TableOp S -> Prop
  | .upsertRow key values | .insertRow key values => schema.ValidKey key ∧ schema.ValidValues values
  | .deleteRow key | .readRow key | .containsRow key => schema.ValidKey key
  | .update range values =>
      range.OnKeys schema ∧ notUpdatable schema values = none ∧ UpdateTyped schema values
  | .truncate range => range.OnKeys schema
  | .count | .isEmpty | .rowStream => True

/-- A range write has an index for its range. -/
def Supported (ops : TableOps S) (schema : TableSchema S) : TableOp S -> Prop
  | .update range _ | .truncate range => ops.plan schema range [] = .ok ()
  | .upsertRow _ _ | .insertRow _ _ | .deleteRow _ | .readRow _ | .containsRow _ | .count | .isEmpty
  | .rowStream => True

def Valid (ops : TableOps S) (schema : TableSchema S) (op : TableOp S) : Prop :=
  op.WellFormed schema ∧ op.Supported ops schema

/-- The replies of a script, each with the handle it leaves. -/
def trace (ops : TableOps S) (ranges : RangeOps S) (txn : TxnId) :
    List (TableOp S) -> Handle schema -> List (Except (Failure OpError) (Reply S) × Handle schema)
  | [], _ => []
  | op :: script, handle =>
      let outcome := op.perform ops ranges txn handle
      outcome :: trace ops ranges txn script outcome.2

end TableOp

/-! ## The simulation -/

/-- The transaction is open and has the table to itself, and the local table
holds what is visible to it. -/
structure Implements (txn : TxnId) (owner : PersistentTable schema) (table : TableLock schema) : Prop where
  sole : forall held, held ∈ owner.semaphore.reservations -> held.txn = txn
  sound : Sound (⟨owner, none⟩ : Config (Delta schema) (TableLock schema) (Key S))
  writable : owner.state.assertWritable txn = .ok ()
  same : owner.state.view txn = bindings table

namespace Implements

variable {txn : TxnId} {owner : PersistentTable schema} {table : TableLock schema}

theorem granted (implements : Implements txn owner table) (range : SetRange (Key S)) :
    owner.semaphore.tryWrite txn range = .ok (owner.semaphore.add txn range .write) := by
  apply Semaphore.tryWrite_eq_ok_iff.mpr
  refine ⟨?_, rfl⟩
  intro held member
  simp [Semaphore.refuses, implements.sole held member]

theorem mayWrite (implements : Implements txn owner table) (range : SetRange (Key S)) :
    MayWrite owner txn range :=
  ⟨⟨_, implements.granted range⟩, implements.writable⟩

theorem apart (implements : Implements txn owner table) :
    TableSource.Apart txn (.file owner : TableSource schema) := by
  intro delta member
  rcases List.mem_append.mp member with committed | own
  · exact implements.sound.separateThrough txn delta committed
  · exact implements.sound.pendingSeparate txn delta (Option.mem_toList.mp own)

/-- A mutation keeps the simulation if it leaves the same rows on both sides. -/
theorem mutated (implements : Implements txn owner table) {range : SetRange (Key S)}
    {after : PersistentTable schema} {rewritten : TableLock schema}
    (admitted : Admits txn range owner after) (same : after.state.view txn = bindings rewritten) :
    Implements txn after rewritten where
  sole := by
    intro held member
    rcases admitted with rfl | ⟨granted, _⟩
    · exact implements.sole held member
    · have semaphore := Except.ok.inj (granted.symm.trans (implements.granted range))
      rw [semaphore] at member
      rcases List.mem_cons.mp member with rfl | earlier
      · rfl
      · exact implements.sole held earlier
  sound := implements.sound.mutated admitted.mutates
  writable := by
    rw [admitted.mutates.assertWritable]
    exact implements.writable
  same := same

/-- A read leaves a reservation of its own transaction. -/
theorem read (implements : Implements txn owner table) (range : SetRange (Key S)) :
    Implements txn (owner.acquireReadPermit txn range) table where
  sole := by
    intro held member
    rcases List.mem_cons.mp member with rfl | earlier
    · rfl
    · exact implements.sole held earlier
  sound := ⟨implements.sound.pendingSeparate, implements.sound.committedSeparate,
    implements.sound.pendingAhead, implements.sound.committedAhead, implements.sound.apart, by
      intro cutoff remaining impossible
      cases impossible⟩
  writable := implements.writable
  same := implements.same

/-- Both list the same rows of a range of keys. -/
theorem listed (implements : Implements txn owner table) (ops : TableOps S) {range : Range S}
    (onKeys : range.OnKeys schema) :
    scanned ops (owner.state.visibleSnapshot txn) range [] false = table.sortedRows range [] false :=
  TableSource.listed_eq_of_view (.file owner) (.localTable table) implements.apart
    (show TableSource.Apart txn (.localTable table) from trivial) implements.same onKeys false

end Implements

/-! ## Range writes -/

/-- The cell which a range write decides for a row: its updated values, or
nothing. -/
def rewriteCell (schema : TableSchema S) (updates : Option (List (S.Id × S.Value))) (row : Row S) :
    CellWrite (Key S) (List S.Value) :=
  match updates with
  | some values => rowCell schema (assignColumns schema values row)
  | none => dropCell schema row

theorem rewriteCell_of_valid {row : Row S} (valid : ValidRow schema row)
    (updates : Option (List (S.Id × S.Value))) :
    (rewriteCell schema updates row).key = keyOf schema row ∧
      (rewriteCell schema updates row).outcome = rewritten schema updates (valuesOf schema row) := by
  cases updates with
  | none => exact ⟨rfl, rfl⟩
  | some values =>
      rcases valid.assign_parts values with ⟨_, keyed, valued⟩
      exact ⟨keyed, congrArg some valued⟩

/-- Deciding the scanned rows one after another rewrites the range as a whole. -/
theorem replay_rewrites {ops : TableOps S} {owner : PersistentTable schema} {txn : TxnId}
    (apart : TableSource.Apart txn (.file owner : TableSource schema)) {range : Range S}
    (onKeys : range.OnKeys schema) (updates : Option (List (S.Id × S.Value))) :
    replay ((scanned ops (owner.state.visibleSnapshot txn) range [] false).map
        (rewriteCell schema updates)) (owner.state.view txn) =
      rewriteView schema range (rewritten schema updates) (owner.state.view txn) := by
  have listed : forall row, row ∈ scanned ops (owner.state.visibleSnapshot txn) range [] false <->
      schema.admits range row = true ∧
        exists key values, owner.state.view txn key = some values ∧ row = key ++ values :=
    fun row => TableSource.mem_listed_iff (.file owner) apart onKeys
  apply replay_map_eq (keyOf schema) ?_ (scanned_keys_nodup ops)
  · intro row member
    rcases (listed row).mp member with ⟨inside, key, values, found, rfl⟩
    have checked := TableSource.valid_of_view (.file owner) found
    have parts := ValidRow.of_parts checked.1 checked.2
    rw [(rewriteCell_of_valid parts.1 updates).2, parts.2.1, parts.2.2, rewriteView, found,
      Option.bind_some, if_pos inside]
  · intro key absent
    unfold rewriteView
    cases viewed : owner.state.view txn key with
    | none => rfl
    | some values =>
        have checked := TableSource.valid_of_view (.file owner) viewed
        have parts := ValidRow.of_parts checked.1 checked.2
        rw [Option.bind_some, if_neg]
        intro admitted
        exact absent _ ((listed (key ++ values)).mpr ⟨admitted, key, values, viewed, rfl⟩) parts.2.1
  · intro row member
    exact (rewriteCell_of_valid (scanned_valid ops member) updates).1

/-! ## One operation -/

section Step

variable {ops : TableOps S} {ranges : RangeOps S} {txn : TxnId} {owner : PersistentTable schema}
  {table : TableLock schema}

/-- One operation gives the same reply on both sides, and keeps the simulation. -/
def Simulates (ops : TableOps S) (ranges : RangeOps S) (txn : TxnId) (owner : PersistentTable schema)
    (table : TableLock schema) (op : TableOp S) : Prop :=
  exists reply owner' table', op.perform ops ranges txn (.file owner) = (reply, .file owner') ∧
    op.perform ops ranges txn (.localTable table) = (reply, .localTable table') ∧
    Implements txn owner' table'

namespace Implements

theorem upsertRow (implements : Implements txn owner table) {key : Key S} {values : List S.Value}
    (valid : schema.ValidKey key ∧ schema.ValidValues values) :
    Simulates ops ranges txn owner table (.upsertRow key values) := by
  rcases upsertRow_cases txn key values owner with ⟨notAdmitted, _⟩ | ⟨_, after, semaphore, done, viewed⟩
  · exact absurd ⟨valid, implements.mayWrite (.one key)⟩ notAdmitted
  · rcases upsertLocal_cases key values table with ⟨_, next, changed, bound⟩ | ⟨invalid, _⟩
    · have admitted := upsertRow_admits txn key values owner
      rw [done] at admitted
      refine ⟨.ok .unit, ⟨after, semaphore⟩, next, ?_, ?_, implements.mutated admitted ?_⟩
      · rw [TableOp.perform, Handle.upsertRow, mapError_of_ok done, rewrap_ok]
        rfl
      · rw [TableOp.perform, Handle.upsertRow, mapError_of_ok changed, rewrap_ok]
        rfl
      · rw [bound, ← implements.same]
        exact viewed
    · exact absurd valid invalid

/-- Both report the same error about a key which has a row. -/
theorem insertRow (implements : Implements txn owner table) {key : Key S} {values : List S.Value}
    (valid : schema.ValidKey key ∧ schema.ValidValues values) :
    Simulates ops ranges txn owner table (.insertRow key values) := by
  have admitted := insertRow_admits txn key values owner
  rcases insertRow_cases txn key values owner with
    ⟨notAdmitted, _⟩ | ⟨_, ⟨present, semaphore, failed⟩ | ⟨absent, after, semaphore, done, viewed⟩⟩
  · exact absurd ⟨valid, implements.mayWrite (.one key)⟩ notAdmitted
  · rcases insertLocal_cases key values table with
      ⟨_, ⟨_, refused⟩ | ⟨missing, _⟩⟩ | ⟨invalid, _⟩
    · rw [failed] at admitted
      refine ⟨.error (.error (.request (keyExists key))), ⟨owner.state, semaphore⟩, table, ?_, ?_,
        implements.mutated admitted implements.same⟩
      · rw [TableOp.perform, Handle.insertRow, failed, rewrap_error]
        rfl
      · rw [TableOp.perform, Handle.insertRow, mapError_of_error refused, rewrap_error]
        rfl
    · rw [implements.same] at present
      exact absurd missing present
    · exact absurd valid invalid
  · rcases insertLocal_cases key values table with
      ⟨_, ⟨present, _⟩ | ⟨_, next, changed, bound⟩⟩ | ⟨invalid, _⟩
    · rw [implements.same] at absent
      exact absurd absent present
    · rw [done] at admitted
      refine ⟨.ok .unit, ⟨after, semaphore⟩, next, ?_, ?_, implements.mutated admitted ?_⟩
      · rw [TableOp.perform, Handle.insertRow, done, rewrap_ok]
        rfl
      · rw [TableOp.perform, Handle.insertRow, mapError_of_ok changed, rewrap_ok]
        rfl
      · rw [bound, ← implements.same]
        exact viewed
    · exact absurd valid invalid

theorem deleteRow (implements : Implements txn owner table) (distinct : schema.KeysDistinct) {key : Key S}
    (valid : schema.ValidKey key) : Simulates ops ranges txn owner table (.deleteRow key) := by
  rcases deleteRow_cases txn (settled_of_valid distinct) owner (implements.sound.pendingSeparate txn) with
    ⟨notAdmitted, _⟩ | ⟨_, after, semaphore, done, viewed⟩
  · exact absurd ⟨valid, implements.mayWrite (.one key)⟩ notAdmitted
  · have admitted := deleteRow_admits txn key owner
    rw [done] at admitted
    refine ⟨.ok .unit, ⟨after, semaphore⟩, table.erase key, ?_, rfl, implements.mutated admitted ?_⟩
    · rw [TableOp.perform, Handle.deleteRow, mapError_of_ok done, rewrap_ok]
      rfl
    · rw [bindings_erase, ← implements.same]
      exact viewed

theorem update (implements : Implements txn owner table) {range : Range S}
    {values : List (S.Id × S.Value)} (onKeys : range.OnKeys schema)
    (supported : ops.plan schema range [] = .ok ()) (named : notUpdatable schema values = none)
    (typed : UpdateTyped schema values) :
    Simulates ops ranges txn owner table (.update range values) := by
  have fits : Fits schema (some values) := by
    intro listed same
    cases same
    exact typed
  rcases update_cases supported txn values owner with
    ⟨_, notAdmitted⟩ | ⟨_, pending, _, _, _, _, _, ⟨_, _, done⟩ | ⟨_, _, stopped, _⟩⟩
  · exact absurd ⟨named, implements.mayWrite .all⟩ notAdmitted
  · rcases rewriteLocal_cases supported (some values) table with
      ⟨unfit, _⟩ | ⟨_, next, changed, bound⟩
    · exact absurd fits unfit
    · have admitted := update_admits ops txn range values owner
      have viewed := update_ok_view supported done
      rw [done] at admitted
      have local_done : updateLocal ops range values table = .ok ⟨⟩ next := by
        rw [updateLocal, named]
        exact changed
      refine ⟨.ok .unit, _, next, ?_, ?_, implements.mutated admitted ?_⟩
      · rw [TableOp.perform, Handle.update, mapError_of_ok done, rewrap_ok]
        rfl
      · rw [TableOp.perform, Handle.update, mapError_of_ok local_done, rewrap_ok]
        rfl
      · rw [bound, ← implements.same, ← replay_rewrites implements.apart onKeys (some values)]
        exact viewed
  · rcases Delta.updateAll_of_typed (fun row member => scanned_valid ops member) typed pending with
      ⟨_, ran⟩
    cases ran.symm.trans stopped

theorem truncate (implements : Implements txn owner table) {range : Range S}
    (onKeys : range.OnKeys schema) (supported : ops.plan schema range [] = .ok ()) :
    Simulates ops ranges txn owner table (.truncate range) := by
  have fits : Fits schema (none : Option (List (S.Id × S.Value))) := by
    intro listed impossible
    cases impossible
  rcases truncate_cases supported txn owner with
    ⟨_, notAdmitted⟩ | ⟨_, _, _, _, _, _, _, _, done⟩
  · exact absurd (implements.mayWrite .all) notAdmitted
  · rcases rewriteLocal_cases supported none table with ⟨unfit, _⟩ | ⟨_, next, changed, bound⟩
    · exact absurd fits unfit
    · have admitted := truncate_admits ops txn range owner
      have viewed := truncate_ok_view supported done
      have local_done : truncateLocal ops range table = .ok ⟨⟩ next := changed
      rw [done] at admitted
      refine ⟨.ok .unit, _, next, ?_, ?_, implements.mutated admitted ?_⟩
      · rw [TableOp.perform, Handle.truncate, mapError_of_ok done, rewrap_ok]
        rfl
      · rw [TableOp.perform, Handle.truncate, mapError_of_ok local_done, rewrap_ok]
        rfl
      · rw [bound, ← implements.same, ← replay_rewrites implements.apart onKeys none]
        exact viewed

/-- A key reads the same row, whichever key that looks for. -/
theorem readRow_eq (implements : Implements txn owner table) {key : Key S}
    (arity : key.length = schema.key.length) :
    resolveRow (owner.state.visibleSnapshot txn) key =
      .ok (table.rows[readKey schema key]?.map (fun values => readKey schema key ++ values)) := by
  rw [resolveRow_of_arity arity]
  exact congrArg (fun view : View (Key S) (List S.Value) =>
    Except.ok ((view (readKey schema key)).map (fun values => readKey schema key ++ values))) implements.same

theorem readRow (implements : Implements txn owner table) {key : Key S} (valid : schema.ValidKey key) :
    Simulates ops ranges txn owner table (.readRow key) := by
  have found := implements.readRow_eq valid.1
  refine ⟨_, owner.acquireReadPermit txn (.one key), table, rfl, ?_, implements.read (.one key)⟩
  change ((((getRow table key).mapError _).map _), _) =
    ((((resolveRow (owner.state.visibleSnapshot txn) key).mapError _).map _), _)
  rw [found, getRow_of_arity valid.1]
  rfl

theorem containsRow (implements : Implements txn owner table) {key : Key S}
    (valid : schema.ValidKey key) : Simulates ops ranges txn owner table (.containsRow key) := by
  have found := implements.readRow_eq valid.1
  refine ⟨_, owner.acquireReadPermit txn (.one key), table, rfl, ?_, implements.read (.one key)⟩
  change (((((getRow table key).map Option.isSome).mapError _).map _), _) =
    (((((resolveRow (owner.state.visibleSnapshot txn) key).map Option.isSome).mapError _).map _), _)
  rw [found, getRow_of_arity valid.1]
  rfl

/-- All rows of both, in natural order. -/
theorem listed_default (implements : Implements txn owner table) (ops : TableOps S) :
    scanned ops (owner.state.visibleSnapshot txn) Range.default [] false =
      table.sortedRows Range.default [] false :=
  implements.listed ops (fun _ _ => rfl)

theorem rowStream (implements : Implements txn owner table) :
    Simulates ops ranges txn owner table .rowStream := by
  refine ⟨.ok (.rows (table.sortedRows Range.default [] false)), owner.acquireReadPermit txn .all,
    table, ?_, ?_, implements.read .all⟩
  · have streamed : (Table.rows ops txn Range.default [] false owner).1 = .ok _ :=
      rows_supported (ops.plan_default schema) false
    change ((((Table.rows ops txn Range.default [] false owner).1.mapError _).map _), _) = _
    rw [streamed, implements.listed_default]
    rfl
  · change ((((Table.rowStream ops table Range.default [] false).mapError _).map _), _) = _
    rw [Table.rowStream, ops.plan_default]
    rfl

theorem count (implements : Implements txn owner table) :
    Simulates ops ranges txn owner table .count := by
  refine ⟨.ok (.number (table.sortedRows Range.default [] false).length),
    owner.acquireReadPermit txn .all, table, ?_, ?_, implements.read .all⟩
  · have counted : (Table.countIn ops txn Range.default owner).1 = .ok _ :=
      countIn_supported (ops.plan_default schema)
    change ((((Table.countIn ops txn Range.default owner).1.mapError _).map _), _) = _
    rw [counted, implements.listed_default]
    rfl
  · change ((((nativeCount ops table Range.default).mapError _).map _), _) = _
    rw [nativeCount, Table.rowStream, ops.plan_default]
    rfl

theorem isEmpty (implements : Implements txn owner table) :
    Simulates ops ranges txn owner table .isEmpty := by
  refine ⟨.ok (.flag (table.sortedRows Range.default [] false).isEmpty), owner, table, ?_, ?_, implements⟩
  · have tested : Table.isEmptyIn ops txn Range.default owner = .ok _ :=
      isEmptyIn_supported (ops.plan_default schema)
    change ((((Table.isEmptyIn ops txn Range.default owner).mapError _).map _), _) = _
    rw [tested, implements.listed_default]
    rfl
  · change ((((nativeIsEmpty ops table Range.default).mapError _).map _), _) = _
    rw [nativeIsEmpty, Table.rowStream, ops.plan_default]
    rfl

theorem step (implements : Implements txn owner table) (distinct : schema.KeysDistinct) {op : TableOp S} (valid : op.Valid ops schema) :
    Simulates ops ranges txn owner table op := by
  rcases valid with ⟨wellFormed, supported⟩
  cases op with
  | upsertRow key values => exact implements.upsertRow wellFormed
  | insertRow key values => exact implements.insertRow wellFormed
  | deleteRow key => exact implements.deleteRow distinct wellFormed
  | update range values => exact implements.update wellFormed.1 supported wellFormed.2.1 wellFormed.2.2
  | truncate range => exact implements.truncate wellFormed supported
  | readRow key => exact implements.readRow wellFormed
  | containsRow key => exact implements.containsRow wellFormed
  | count => exact implements.count
  | isEmpty => exact implements.isEmpty
  | rowStream => exact implements.rowStream

end Implements

end Step

/-! ## Scripts -/

/-- Two tables stream the same rows, and read the same row under each key. -/
def SameContents (ops : TableOps S) (txn : TxnId) (left right : Handle schema) : Prop :=
  (left.rowStream ops txn).1 = (right.rowStream ops txn).1 ∧
    forall key, key.length = schema.key.length -> (left.readRow txn key).1 = (right.readRow txn key).1

theorem Implements.sameContents {txn : TxnId} {owner : PersistentTable schema} {table : TableLock schema}
    (implements : Implements txn owner table) (ops : TableOps S) :
    SameContents ops txn (.file owner) (.localTable table) := by
  constructor
  · have streamed : (Table.rows ops txn Range.default [] false owner).1 = .ok _ :=
      rows_supported (ops.plan_default schema) false
    change ((Table.rows ops txn Range.default [] false owner).1.mapError _) =
      ((Table.rowStream ops table Range.default [] false).mapError _)
    rw [streamed, Table.rowStream, ops.plan_default, implements.listed_default]
    rfl
  · intro key arity
    change ((resolveRow (owner.state.visibleSnapshot txn) key).mapError _) = ((getRow table key).mapError _)
    rw [implements.readRow_eq arity, getRow_of_arity arity]
    rfl

/-- Tables with the same rows bind the same keys to the same values. -/
theorem view_eq_of_rows {owner : PersistentTable schema} {txn : TxnId} {table : TableLock schema}
    (holds : forall row, row ∈ table.allRows <-> Shown (owner.state.visibleSnapshot txn) row) :
    owner.state.view txn = bindings table := by
  apply view_ext_of_rows
  · exact fun key values viewed => (TableSource.valid_of_view (.file owner) viewed).1.1
  · exact fun key values found => (table.valid key values found).1.1
  · intro row
    rw [← show _ <-> BoundIn (owner.state.view txn) row from shown_iff, ← holds,
      table.mem_allRows]
    exact Iff.rfl

/-- Run by a transaction which has a table to itself, a script of well-formed operations
gives the same replies on the table as on a local table which holds the rows visible to
the transaction, and leaves the same rows after each, if key columns have names of their
own and the range writes have an index. -/
theorem local_implements_file {ops : TableOps S} {schema : TableSchema S} (distinct : schema.KeysDistinct)
    {config : Config (Delta schema) (TableLock schema) (Key S)}
    (reachable : Reachable (tableDriver ops schema) config) (ranges : RangeOps S) {txn : TxnId}
    (alone : forall held, held ∈ config.semaphore.reservations -> held.txn = txn)
    (undecided : config.state.assertWritable txn = .ok ()) {table : TableLock schema}
    (holds : forall row, row ∈ table.allRows <-> Shown (config.state.visibleSnapshot txn) row)
    {script : List (TableOp S)} (wellFormed : forall op, op ∈ script -> op.WellFormed schema)
    (supported : forall op, op ∈ script -> op.Supported ops schema) :
    List.Forall₂
      (fun fileStep localStep => fileStep.1 = localStep.1 ∧ SameContents ops txn fileStep.2 localStep.2)
      (TableOp.trace ops ranges txn script (.file config.owner))
      (TableOp.trace ops ranges txn script (.localTable table)) := by
  have start : Implements txn config.owner table := by
    refine ⟨alone, ?_, undecided, ?_⟩
    · have sound := reachable.sound
      refine ⟨sound.pendingSeparate, sound.committedSeparate, sound.pendingAhead,
        sound.committedAhead, sound.apart, ?_⟩
      intro cutoff remaining impossible
      cases impossible
    · exact view_eq_of_rows holds
  generalize config.owner = owner at start
  clear holds undecided alone reachable
  induction script generalizing owner table with
  | nil => exact List.Forall₂.nil
  | cons op script inductionHypothesis =>
      have simulated : Simulates ops ranges txn owner table op :=
        start.step distinct ⟨wellFormed op List.mem_cons_self, supported op List.mem_cons_self⟩
      rcases simulated with ⟨reply, owner', table', fileStep, localStep, kept⟩
      rw [TableOp.trace, TableOp.trace, fileStep, localStep]
      refine List.Forall₂.cons ⟨rfl, kept.sameContents ops⟩ ?_
      exact inductionHypothesis (fun op member => wellFormed op (List.mem_cons_of_mem _ member))
        (fun op member => supported op (List.mem_cons_of_mem _ member)) _ kept

/-- What the third transaction sees of the overwritten table. -/
def overwrittenLocal : TableLock pairSchema :=
  TableLock.empty.put [Signature.number 7] [Signature.number 2] (by decide) (by decide)

/-- Insert what is there already, update everything, delete, and insert again. -/
def reinsertion : List (TableOp Signature.numbers) :=
  [.insertRow [Signature.number 7] [Signature.number 3], .update Range.default fiveForOne,
    .deleteRow [Signature.number 7], .insertRow [Signature.number 7] [Signature.number 4], .rowStream]

theorem local_implements_file_reinsertion :
    List.Forall₂
      (fun fileStep localStep => fileStep.1 = localStep.1 ∧
        SameContents TableOps.reference 3 fileStep.2 localStep.2)
      (TableOp.trace TableOps.reference RangeOps.reference 3 reinsertion
        (.file overwritten.owner : Handle pairSchema))
      (TableOp.trace TableOps.reference RangeOps.reference 3 reinsertion (.localTable overwrittenLocal)) := by
  have free : overwritten.semaphore.reservations.all (fun held => decide (held.txn = 3)) = true := by
    decide +kernel
  have listed : scanned TableOps.reference (overwritten.state.visibleSnapshot 3) Range.default [] false =
      overwrittenLocal.allRows := by
    decide +kernel
  have unbounded : Range.OnKeys (Range.default : Range Signature.numbers) pairSchema := fun _ _ => rfl
  have exactly : forall row, row ∈ scanned TableOps.reference (overwritten.state.visibleSnapshot 3)
      Range.default [] false <->
        pairSchema.admits Range.default row = true ∧ Shown (overwritten.state.visibleSnapshot 3) row :=
    (scan_exact_iff TableOps.reference _).mpr
      (dropsOverridden_of_onKeys (allApart_of_reachable overwritten_reachable 3) unbounded)
  apply local_implements_file (by decide) overwritten_reachable RangeOps.reference
  · intro held member
    exact of_decide_eq_true (List.all_eq_true.mp free held member)
  · decide +kernel
  · intro row
    rw [← listed]
    refine (exactly row).trans ?_
    exact and_iff_right (pairSchema.admits_default row)
  · intro op member
    simp only [reinsertion, List.mem_cons, List.not_mem_nil, or_false] at member
    rcases member with rfl | rfl | rfl | rfl | rfl
    · exact ⟨by decide, by decide⟩
    · exact ⟨unbounded, by decide, by decide⟩
    · exact (by decide : pairSchema.ValidKey [Signature.number 7])
    · exact ⟨by decide, by decide⟩
    · exact trivial
  · intro op member
    simp only [reinsertion, List.mem_cons, List.not_mem_nil, or_false] at member
    rcases member with rfl | rfl | rfl | rfl | rfl
    · exact trivial
    · exact rfl
    · exact trivial
    · exact trivial
    · exact trivial

/-- Two rows which a point read does not tell apart. -/
def twinRows : Config (Delta twinSchema) (TableLock twinSchema) (Key Signature.numbers) :=
  run (tableDriver TableOps.reference twinSchema) (Config.start TableLock.empty)
    [.mutate 1 (.upsertRow [Signature.number 1, Signature.number 2] [Signature.number 5]),
      .mutate 1 (.upsertRow [Signature.number 2, Signature.number 2] [Signature.number 6]), .commit 1]

theorem twinRows_reachable : Reachable (tableDriver TableOps.reference twinSchema) twinRows :=
  Reachable.run (Reachable.start _) _

def twinRowsLocal : TableLock twinSchema :=
  (TableLock.empty.put [Signature.number 1, Signature.number 2] [Signature.number 5] (by decide) (by decide)).put
    [Signature.number 2, Signature.number 2] [Signature.number 6] (by decide) (by decide)

/-- Delete both, the one which is read first. -/
def bothDeletions : List (TableOp Signature.numbers) :=
  [.deleteRow [Signature.number 2, Signature.number 2], .deleteRow [Signature.number 1, Signature.number 2]]

/-- The second deletion finds the row of the first deleted, and keeps its own row.  A local
table deletes it. -/
theorem not_local_implements_file_twinRows :
    Reachable (tableDriver TableOps.reference twinSchema) twinRows ∧
      twinRows.semaphore.reservations = [] ∧ twinRows.state.assertWritable 2 = .ok () ∧
      (forall row, row ∈ twinRowsLocal.allRows <-> Shown (twinRows.state.visibleSnapshot 2) row) ∧
      (forall op, op ∈ bothDeletions -> op.WellFormed twinSchema) ∧
      ¬ List.Forall₂
        (fun fileStep localStep => fileStep.1 = localStep.1 ∧
          SameContents TableOps.reference 2 fileStep.2 localStep.2)
        (TableOp.trace TableOps.reference RangeOps.reference 2 bothDeletions
          (.file twinRows.owner : Handle twinSchema))
        (TableOp.trace TableOps.reference RangeOps.reference 2 bothDeletions (.localTable twinRowsLocal)) := by
  refine ⟨twinRows_reachable, by decide +kernel, by decide +kernel, ?_, ?_, ?_⟩
  · have listed : scanned TableOps.reference (twinRows.state.visibleSnapshot 2) Range.default [] false =
        twinRowsLocal.allRows := by
      decide +kernel
    intro row
    rw [← listed]
    refine ((scan_exact_iff TableOps.reference _).mpr
      (dropsOverridden_of_onKeys (allApart_of_reachable twinRows_reachable 2) (fun _ _ => rfl)) row).trans ?_
    exact and_iff_right (twinSchema.admits_default row)
  · intro op member
    simp only [bothDeletions, List.mem_cons, List.not_mem_nil, or_false] at member
    rcases member with rfl | rfl
    · exact (by decide : twinSchema.ValidKey [Signature.number 2, Signature.number 2])
    · exact (by decide : twinSchema.ValidKey [Signature.number 1, Signature.number 2])
  · intro traces
    rw [bothDeletions, TableOp.trace, TableOp.trace, TableOp.trace, TableOp.trace] at traces
    rcases traces with _ | ⟨_, _ | ⟨⟨_, streams, _⟩, _⟩⟩
    have shown := congrArg Except.toOption streams
    revert shown
    decide +kernel

end Table
end TransactionalCollection
