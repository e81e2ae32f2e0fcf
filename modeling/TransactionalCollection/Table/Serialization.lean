import TransactionalCollection.Persistence.Serialization
import TransactionalCollection.Table.Refinement
import TransactionalCollection.Table.Writers

namespace TransactionalCollection
namespace Table

open Layering Native Execution Persistence

/-!
# Transactions on a table, one after another

A transactional table with any number of open transactions shows each of them what a
local table shows on which the operations of the transactions have been performed one
transaction after another.  Range writes are operations like the others here, although
what they write depends on the rows they find.
-/

variable {S : Signature} {schema : TableSchema S}

/-! ## Writes -/

namespace TableWrite

def call : TableWrite S -> TableCall schema
  | .upsertRow key values => .upsertRow key values
  | .insertRow key values => .insertRow key values
  | .deleteRow key => .deleteRow key
  | .update range values => .update range values
  | .truncate range => .truncate range

def op : TableWrite S -> TableOp S
  | .upsertRow key values => .upsertRow key values
  | .insertRow key values => .insertRow key values
  | .deleteRow key => .deleteRow key
  | .update range values => .update range values
  | .truncate range => .truncate range

/-- A range write bounds key columns only, by a supported range, and an update which is
not refused for the columns it names is of the right types.  Each key column of the table
has a name of its own. -/
def Whole (ops : TableOps S) (schema : TableSchema S) : TableWrite S -> Prop
  | .upsertRow _ _ | .insertRow _ _ | .deleteRow _ => schema.KeysDistinct
  | .update range values =>
      schema.KeysDistinct ∧ range.OnKeys schema ∧ ops.plan schema range [] = .ok () ∧
        (notUpdatable schema values = none -> UpdateTyped schema values)
  | .truncate range => schema.KeysDistinct ∧ range.OnKeys schema ∧ ops.plan schema range [] = .ok ()

/-- What becomes of a row's values, if there is a row, when a range is rewritten. -/
def rewriteValues (schema : TableSchema S) (range : Range S) (updates : Option (List (S.Id × S.Value)))
    (key : Key S) (found : Option (List S.Value)) : Option (List S.Value) :=
  found.bind (fun values =>
    if schema.admits range (key ++ values) then rewritten schema updates values else some values)

def act (schema : TableSchema S) : TableWrite S -> Key S -> Option (List S.Value) -> Option (List S.Value)
  | .upsertRow key values, other, found | .insertRow key values, other, found =>
      if key = other then some values else found
  | .deleteRow key, other, found => if key = other then none else found
  | .update range values, key, found => rewriteValues schema range (some values) key found
  | .truncate range, key, found => rewriteValues schema range none key found

/-- A row of the key may satisfy the range. -/
def InRange (schema : TableSchema S) (range : Range S) (key : Key S) : Prop :=
  exists values, schema.admits range (key ++ values) = true

def Touches (schema : TableSchema S) : TableWrite S -> Key S -> Prop
  | .upsertRow key _, other | .insertRow key _, other | .deleteRow key, other => key = other
  | .update range _, key | .truncate range, key => InRange schema range key

/-- An insertion looks for its own key, and asks for one without a row. -/
def Fresh (schema : TableSchema S) : TableWrite S -> View (Key S) (List S.Value) -> Prop
  | .insertRow key _, view => Settled schema key ∧ view key = none
  | .upsertRow _ _, _ | .deleteRow _, _ | .update _ _, _ | .truncate _, _ => True

theorem rewriteValues_outside {range : Range S} {key : Key S} (outside : ¬ InRange schema range key)
    (updates : Option (List (S.Id × S.Value))) (found : Option (List S.Value)) :
    rewriteValues schema range updates key found = found := by
  cases found with
  | none => rfl
  | some values =>
      rw [rewriteValues, Option.bind_some, if_neg]
      exact fun admitted => outside ⟨values, admitted⟩

/-- What the writes of a table mean. -/
def meaning (ops : TableOps S) (schema : TableSchema S) : Meaning (TableWrite S) (Key S) (List S.Value) where
  act := act schema
  Touches := Touches schema
  Allows write view := write.op.Valid ops schema ∧ write.Fresh schema view
  untouched := by
    intro write key found untouched
    cases write with
    | upsertRow other values => exact if_neg untouched
    | insertRow other values => exact if_neg untouched
    | deleteRow other => exact if_neg untouched
    | update range values => exact rewriteValues_outside untouched (some values) found
    | truncate range => exact rewriteValues_outside untouched none found
  allows_congr := by
    intro write first second same allowed
    refine ⟨allowed.1, ?_⟩
    cases write with
    | insertRow key values => exact ⟨allowed.2.1, (same key rfl).symm.trans allowed.2.2⟩
    | upsertRow | deleteRow | update | truncate => trivial

end TableWrite

/-- All writes of a table but restorations, among readers. -/
def writesDriver (ops : TableOps S) (schema : TableSchema S) :
    Driver (Delta schema) (TableLock schema) (Key S) where
  Op := TableWrite S
  Error := Failure OpError
  mutate txn write := (write.call : TableCall schema).perform ops txn
  range write := (write.call : TableCall schema).range
  admits txn write owner := (write.call : TableCall schema).perform_admits ops txn owner
  Traffic := TxnId × SetRange (Key S)
  passes reader semaphore := semaphore.read reader.1 reader.2

theorem writesDriver_readsOnly (ops : TableOps S) (schema : TableSchema S) : ReadsOnly (writesDriver ops schema) :=
  fun reader _ => ⟨reader.1, reader.2, rfl⟩

/-! ## One write -/

section Writing

variable {ops : TableOps S} {txn : TxnId} {owner after : PersistentTable schema}

theorem tryWrite_holds {before granted : Semaphore (Key S)} {range : SetRange (Key S)}
    (done : before.tryWrite txn range = .ok granted) : granted.HoldsWrite txn range := by
  rw [(Semaphore.tryWrite_eq_ok_iff.mp done).2]
  exact (Semaphore.add_write_holdsWrite ..).mpr (Or.inl ⟨rfl, rfl⟩)

/-- What succeeds under a reservation holds it. -/
theorem reserved_holds {E : Type} {translate : LockError -> E} {range : SetRange (Key S)}
    {body : EStateM E (TableState schema) PUnit} (done : reserved translate txn range body owner = .ok ⟨⟩ after) :
    after.semaphore.HoldsWrite txn range :=
  tryWrite_holds (reserved_eq_ok (show (mapError translate (CollectionOwner.tryWrite txn range) >>= fun _ =>
    CollectionOwner.onState body) owner = .ok ⟨⟩ after from done)).1

/-- A range write answers only keys which may be in the range. -/
theorem rewrites_outside {snapshot : TableSnapshot schema} {range : Range S} {key : Key S}
    (outside : ¬ TableWrite.InRange schema range key) (updates : Option (List (S.Id × S.Value)))
    (layer : Overlay (Key S) (List S.Value)) :
    lay ((scanned ops snapshot range [] false).map (rewriteCell schema updates)) layer key = layer key := by
  have silent : effect ((scanned ops snapshot range [] false).map (rewriteCell schema updates)) key = none := by
    rw [effect_eq_none_iff]
    intro write member same
    rcases List.mem_map.mp member with ⟨row, scannedRow, rfl⟩
    have valid := scanned_valid ops scannedRow
    rw [(rewriteCell_of_valid valid updates).1] at same
    apply outside
    refine ⟨valuesOf schema row, ?_⟩
    rw [← same, ← valid.parts]
    exact ((mem_scanned_iff ops).mp scannedRow).1
  rw [lay, silent]
  rfl

/-- What a write of a range has done. -/
theorem range_written (apart : TableSource.Apart txn (.file owner : TableSource schema)) {range : Range S}
    (onKeys : range.OnKeys schema) {updates : Option (List (S.Id × S.Value))} {pending delta : Delta schema}
    {middle : TableState schema} (fetched : pendingDeltaForTxn txn owner.state = .ok pending middle)
    (laid : overlay delta = lay ((scanned ops (owner.state.visibleSnapshot txn) range [] false).map
      (rewriteCell schema updates)) (overlay pending)) :
    (forall key, (middle.setPending txn delta).view txn key =
        TableWrite.rewriteValues schema range updates key (owner.state.view txn key)) ∧
      forall key, ¬ TableWrite.InRange schema range key ->
        (middle.setPending txn delta).ownOverlay txn key = owner.state.ownOverlay txn key := by
  constructor
  · intro key
    have viewed : (middle.setPending txn delta).view txn =
        replay ((scanned ops (owner.state.visibleSnapshot txn) range [] false).map (rewriteCell schema updates))
          (owner.state.view txn) := by
      rw [setPending_view, show delta.answers = _ from laid, lay_read]
      exact congrArg _ (fetched_view fetched).2.2
    rw [viewed, replay_rewrites apart onKeys updates]
    rfl
  · intro key outside
    rw [setPending_ownOverlay, ← (fetched_view fetched).1]
    change overlay delta key = overlay pending key
    rw [laid, rewrites_outside outside]

/-- What a write has done once it has succeeded. -/
structure Wrote (ops : TableOps S) (txn : TxnId) (write : TableWrite S) (owner after : PersistentTable schema) :
    Prop where
  mayWrite : MayWrite owner txn (write.call : TableCall schema).range
  holds : after.semaphore.HoldsWrite txn (write.call : TableCall schema).range
  allowed : (TableWrite.meaning ops schema).Allows write (owner.state.view txn)
  performed : forall key, after.state.view txn key = write.act schema key (owner.state.view txn key)
  outside : forall key, ¬ write.Touches schema key -> after.state.ownOverlay txn key = owner.state.ownOverlay txn key

section Wrote

variable {key : Key S} {values : List S.Value}

theorem upsertRow_wrote (done : Table.upsertRow txn key values owner = .ok ⟨⟩ after) :
    Wrote ops txn (.upsertRow key values) owner after := by
  have admitted := upsertRow_admits txn key values owner
  rw [done] at admitted
  rcases upsertRow_cases txn key values owner with
    ⟨_, _, _, failed⟩ | ⟨⟨valid, mayWrite⟩, state, semaphore, succeeded, viewed⟩
  · cases failed.symm.trans done
  · cases succeeded.symm.trans done
    rcases validated_row_cases (fun error : TCError => backgroundError error.message) key values
      (fun key values => reserved id txn (.one key) (upsertReserved txn key values)) owner with
      ⟨_, called⟩ | ⟨invalid, _⟩
    · exact ⟨mayWrite, reserved_holds (called.symm.trans done), ⟨⟨valid, trivial⟩, trivial⟩,
        fun other => congrFun viewed other,
        admitted.mutates.outside⟩
    · exact absurd valid invalid

theorem insertRow_wrote (whole : (TableWrite.insertRow key values).Whole ops schema)
    (done : Table.insertRow txn key values owner = .ok ⟨⟩ after) :
    Wrote ops txn (.insertRow key values) owner after := by
  have admitted := insertRow_admits txn key values owner
  rw [done] at admitted
  rcases insertRow_cases txn key values owner with
    ⟨_, _, _, failed⟩ | ⟨⟨valid, mayWrite⟩, ⟨_, _, failed⟩ | ⟨fresh, state, semaphore, succeeded, viewed⟩⟩
  · cases failed.symm.trans done
  · cases failed.symm.trans done
  · cases succeeded.symm.trans done
    rcases validated_row_cases (fun error : TCError => Failure.error (OpError.request error)) key values
      (fun key values => reserved (fun error => .error (.lock error)) txn (.one key) (insertReserved txn key values))
      owner with ⟨_, called⟩ | ⟨invalid, _⟩
    · have settled : Settled schema key := settled_of_valid whole valid.1
      rw [settled] at fresh
      exact ⟨mayWrite, reserved_holds (called.symm.trans done), ⟨⟨valid, trivial⟩, settled, fresh⟩,
        fun other => congrFun viewed other,
        admitted.mutates.outside⟩
    · exact absurd valid invalid

theorem deleteRow_wrote (whole : (TableWrite.deleteRow key).Whole ops schema)
    (separate : forall delta, owner.state.pending[txn]? = some delta -> delta.KeysApart)
    (done : Table.deleteRow txn key owner = .ok ⟨⟩ after) : Wrote ops txn (.deleteRow key) owner after := by
  have admitted := deleteRow_admits txn key owner
  rw [done] at admitted
  rcases deleteRow_cases txn (settled_of_valid whole) owner separate with
    ⟨_, _, _, failed⟩ | ⟨⟨valid, mayWrite⟩, state, semaphore, succeeded, viewed⟩
  · cases failed.symm.trans done
  · cases succeeded.symm.trans done
    have called : reserved Failure.error txn (.one key) (deleteReserved txn key) owner = .ok ⟨⟩ ⟨state, semaphore⟩ := by
      rw [Table.deleteRow, TableSchema.validateKey_eq_ok_iff.mpr ⟨valid, rfl⟩] at done
      exact done
    exact ⟨mayWrite, reserved_holds called, ⟨⟨valid, trivial⟩, trivial⟩, fun other => congrFun viewed other,
      admitted.mutates.outside⟩

variable {range : Range S} {updates : List (S.Id × S.Value)}

theorem update_wrote (apart : TableSource.Apart txn (.file owner : TableSource schema))
    (whole : (TableWrite.update range updates).Whole ops schema)
    (done : Table.update ops txn range updates owner = .ok ⟨⟩ after) :
    Wrote ops txn (.update range updates) owner after := by
  rcases whole with ⟨_, onKeys, supported, typed⟩
  rcases update_cases supported txn updates owner with
    ⟨⟨_, _, failed⟩, _⟩ | ⟨semaphore, pending, middle, named, granted, writable, fetched,
      ⟨delta, looped, outcome⟩ | ⟨_, _, _, failed⟩⟩
  · cases failed.symm.trans done
  · cases outcome.symm.trans done
    rcases range_written apart onKeys fetched (show _ = lay (List.map (rewriteCell schema (some updates)) _) _ from
      Delta.updateAll_lays looped) with ⟨performed, outside⟩
    exact ⟨⟨⟨_, granted⟩, writable⟩, tryWrite_holds granted, ⟨⟨⟨onKeys, named, typed named⟩, supported⟩, trivial⟩,
      performed, outside⟩
  · cases failed.symm.trans done

theorem truncate_wrote (apart : TableSource.Apart txn (.file owner : TableSource schema))
    (whole : (TableWrite.truncate range).Whole ops schema)
    (done : Table.truncate ops txn range owner = .ok ⟨⟩ after) :
    Wrote ops txn (.truncate range) owner after := by
  rcases whole with ⟨_, onKeys, supported⟩
  rcases truncate_cases supported txn owner with
    ⟨⟨_, _, failed⟩, _⟩ | ⟨semaphore, pending, middle, delta, granted, writable, fetched, looped, outcome⟩
  · cases failed.symm.trans done
  · cases outcome.symm.trans done
    rcases range_written apart onKeys fetched (show _ = lay (List.map (rewriteCell schema none) _) _ from
      Delta.truncateAll_lays looped) with ⟨performed, outside⟩
    exact ⟨⟨⟨_, granted⟩, writable⟩, tryWrite_holds granted, ⟨⟨onKeys, supported⟩, trivial⟩, performed, outside⟩

/-- A write which fails leaves the state alone. -/
theorem write_failed {write : TableWrite S} (whole : write.Whole ops schema)
    (separate : forall delta, owner.state.pending[txn]? = some delta -> delta.KeysApart) {error : Failure OpError}
    (failed : (write.call : TableCall schema).perform ops txn owner = .error error after) :
    after.state = owner.state := by
  cases write with
  | upsertRow key values =>
      rcases mapError_eq_error.mp failed with ⟨_, called, _⟩
      rcases upsertRow_cases txn key values owner with ⟨_, _, _, refused⟩ | ⟨_, _, _, succeeded, _⟩
      · cases refused.symm.trans called
        rfl
      · cases succeeded.symm.trans called
  | insertRow key values =>
      rcases insertRow_cases txn key values owner with
        ⟨_, _, _, refused⟩ | ⟨_, ⟨_, _, refused⟩ | ⟨_, _, _, succeeded, _⟩⟩
      · cases refused.symm.trans failed
        rfl
      · cases refused.symm.trans failed
        rfl
      · cases succeeded.symm.trans failed
  | deleteRow key =>
      rcases mapError_eq_error.mp failed with ⟨_, called, _⟩
      rcases deleteRow_cases txn (settled_of_valid whole) owner separate with ⟨_, _, _, refused⟩ | ⟨_, _, _, succeeded, _⟩
      · cases refused.symm.trans called
        rfl
      · cases succeeded.symm.trans called
  | update range updates =>
      rcases mapError_eq_error.mp failed with ⟨_, called, _⟩
      rcases whole with ⟨_, _, supported, typed⟩
      rcases update_cases supported txn updates owner with
        ⟨⟨_, _, refused⟩, _⟩ | ⟨_, pending, _, named, _, _, _, ⟨_, _, succeeded⟩ | ⟨_, _, stopped, _⟩⟩
      · cases refused.symm.trans called
        rfl
      · cases succeeded.symm.trans called
      · rcases Delta.updateAll_of_typed (fun row member => scanned_valid ops member) (typed named) pending with
          ⟨_, ran⟩
        cases ran.symm.trans stopped
  | truncate range =>
      rcases mapError_eq_error.mp failed with ⟨_, called, _⟩
      rcases truncate_cases whole.2.2 txn owner with ⟨⟨_, _, refused⟩, _⟩ | ⟨_, _, _, _, _, _, _, _, succeeded⟩
      · cases refused.symm.trans called
        rfl
      · cases succeeded.symm.trans called

/-- What a write has done, if it has succeeded. -/
theorem wrote_of_ok {write : TableWrite S} (apart : TableSource.Apart txn (.file owner : TableSource schema))
    (separate : forall delta, owner.state.pending[txn]? = some delta -> delta.KeysApart)
    (whole : write.Whole ops schema) (done : (write.call : TableCall schema).perform ops txn owner = .ok ⟨⟩ after) :
    Wrote ops txn write owner after := by
  cases write with
  | upsertRow key values => exact upsertRow_wrote (mapError_eq_ok.mp done)
  | insertRow key values => exact insertRow_wrote whole done
  | deleteRow key => exact deleteRow_wrote whole separate (mapError_eq_ok.mp done)
  | update range values => exact update_wrote apart whole (mapError_eq_ok.mp done)
  | truncate range => exact truncate_wrote apart whole (mapError_eq_ok.mp done)

end Wrote

end Writing

/-- The writes of a table are performed over what their transactions see, or leave it
as it is. -/
theorem writesDriver_performs (ops : TableOps S) (schema : TableSchema S) :
    Performs (writesDriver ops schema) (TableWrite.meaning ops schema) (TableWrite.Whole ops schema) where
  inside := by
    intro write key touches
    cases write with
    | upsertRow | insertRow | deleteRow => exact touches
    | update | truncate => trivial
  success := by
    intro txn write before after whole committed pending done
    have apart : TableSource.Apart txn (.file before : TableSource schema) := by
      intro delta member
      rcases List.mem_append.mp member with early | own
      · exact committed delta early
      · exact pending delta (Option.mem_toList.mp own)
    have wrote : Wrote ops txn write before after := wrote_of_ok apart pending whole done
    exact ⟨wrote.mayWrite.2, wrote.holds, wrote.allowed, wrote.performed, wrote.outside⟩
  failure := by
    intro txn write error before after whole pending failed
    rw [State.ownOverlay, State.ownOverlay, write_failed whole pending failed]

/-! ## Local tables -/

/-- A local table performs writes one after another, all of which succeed. -/
inductive Performed (ops : TableOps S) : List (TableWrite S) -> TableLock schema -> TableLock schema -> Prop where
  | nil (table : TableLock schema) : Performed ops [] table table
  | cons {write : TableWrite S} {log : List (TableWrite S)} {table between after : TableLock schema}
      (done : forall ranges txn, write.op.perform ops ranges txn (.localTable table) = (.ok .unit, .localTable between))
      (rest : Performed ops log between after) : Performed ops (write :: log) table after

/-- A local table does what an allowed write means. -/
theorem TableWrite.local_performs {ops : TableOps S} {write : TableWrite S} {table : TableLock schema}
    (allowed : (meaning ops schema).Allows write (bindings table)) :
    exists next : TableLock schema,
      (forall ranges txn, write.op.perform ops ranges txn (.localTable table) = (.ok .unit, .localTable next)) ∧
        bindings next = (meaning ops schema).perform [write] (bindings table) := by
  rcases allowed with ⟨⟨valid, supported⟩, fresh⟩
  cases write with
  | upsertRow key values =>
      rcases upsertLocal_cases key values table with ⟨_, next, changed, bound⟩ | ⟨invalid, _⟩
      · refine ⟨next, ?_, bound⟩
        intro ranges txn
        rw [TableWrite.op, TableOp.perform, Handle.upsertRow, mapError_of_ok changed, rewrap_ok]
        rfl
      · exact absurd valid invalid
  | insertRow key values =>
      rcases insertLocal_cases key values table with ⟨_, ⟨present, _⟩ | ⟨_, next, changed, bound⟩⟩ | ⟨invalid, _⟩
      · rw [fresh.1] at present
        exact absurd fresh.2 present
      · refine ⟨next, ?_, bound⟩
        intro ranges txn
        rw [TableWrite.op, TableOp.perform, Handle.insertRow, mapError_of_ok changed, rewrap_ok]
        rfl
      · exact absurd valid invalid
  | deleteRow key => exact ⟨table.erase key, fun _ _ => rfl, bindings_erase table key⟩
  | update range values =>
      rcases valid with ⟨_, named, typed⟩
      rcases rewriteLocal_cases supported (some values) table with ⟨unfit, _⟩ | ⟨_, next, changed, bound⟩
      · refine absurd ?_ unfit
        rintro _ ⟨⟩
        exact typed
      · have local_done : updateLocal ops range values table = .ok ⟨⟩ next := by
          rw [updateLocal, named]
          exact changed
        refine ⟨next, ?_, bound⟩
        intro ranges txn
        rw [TableWrite.op, TableOp.perform, Handle.update, mapError_of_ok local_done, rewrap_ok]
        rfl
  | truncate range =>
      rcases rewriteLocal_cases supported none table with ⟨unfit, _⟩ | ⟨_, next, changed, bound⟩
      · refine absurd ?_ unfit
        rintro _ ⟨⟩
      · have local_done : truncateLocal ops range table = .ok ⟨⟩ next := changed
        refine ⟨next, ?_, bound⟩
        intro ranges txn
        rw [TableWrite.op, TableOp.perform, Handle.truncate, mapError_of_ok local_done, rewrap_ok]
        rfl

/-- A log which succeeds is performed by a local table. -/
theorem performed_of_succeeds {ops : TableOps S} {log : List (TableWrite S)} {table : TableLock schema}
    (succeeds : (TableWrite.meaning ops schema).Succeeds log (bindings table)) :
    exists after : TableLock schema, Performed ops log table after ∧
      bindings after = (TableWrite.meaning ops schema).perform log (bindings table) := by
  induction log generalizing table with
  | nil => exact ⟨table, .nil table, rfl⟩
  | cons write log inductionHypothesis =>
      rcases TableWrite.local_performs succeeds.1 with ⟨between, done, bound⟩
      have rest := succeeds.2
      rw [← bound] at rest
      rcases inductionHypothesis rest with ⟨after, performed, shown⟩
      refine ⟨after, .cons done performed, ?_⟩
      rw [shown, bound]
      exact (Meaning.perform_append _ [write] log _).symm

/-- Two tables answer every read alike: of rows by key, and of supported ranges of
keys either way. -/
structure Alike (ops : TableOps S) (txn : TxnId) (first second : TableSource schema) : Prop where
  row : forall key, key.length = schema.key.length ->
    (first.handle.readRow txn key).1 = (second.handle.readRow txn key).1
  membership : forall key, key.length = schema.key.length ->
    (first.handle.containsRow txn key).1 = (second.handle.containsRow txn key).1
  rows : forall (range : Range S) (reverse : Bool), range.OnKeys schema -> ops.plan schema range [] = .ok () ->
    (first.rows ops txn range [] reverse).1 = (second.rows ops txn range [] reverse).1
  count : forall range : Range S, range.OnKeys schema -> ops.plan schema range [] = .ok () ->
    (first.count ops txn range).1 = (second.count ops txn range).1
  emptiness : forall range : Range S, range.OnKeys schema -> ops.plan schema range [] = .ok () ->
    (first.isEmpty ops txn range).1 = (second.isEmpty ops txn range).1

theorem alike_of_view {ops : TableOps S} {txn : TxnId} {owner : PersistentTable schema} {table : TableLock schema}
    (apart : TableSource.Apart txn (.file owner : TableSource schema)) (same : owner.state.view txn = bindings table) :
    Alike ops txn (.file owner) (.localTable table) := by
  have listed : forall (range : Range S) (reverse : Bool), range.OnKeys schema ->
      TableSource.listed ops txn range [] reverse (.file owner : TableSource schema) =
        TableSource.listed ops txn range [] reverse (.localTable table) :=
    fun range reverse onKeys => TableSource.listed_eq_of_view (.file owner) (.localTable table) apart
      (show TableSource.Apart txn (.localTable table) from trivial) same onKeys reverse
  have found : forall key : Key S, key.length = schema.key.length ->
      resolveRow (owner.state.visibleSnapshot txn) key =
        .ok (table.rows[readKey schema key]?.map (fun values => readKey schema key ++ values)) := by
    intro key arity
    rw [resolveRow_of_arity arity]
    exact congrArg (fun view : View (Key S) (List S.Value) =>
      Except.ok ((view (readKey schema key)).map (fun values => readKey schema key ++ values))) same
  constructor
  · intro key arity
    change (resolveRow (owner.state.visibleSnapshot txn) key).mapError _ = (getRow table key).mapError _
    rw [found key arity, getRow_of_arity arity]
    rfl
  · intro key arity
    change ((resolveRow (owner.state.visibleSnapshot txn) key).map Option.isSome).mapError _ =
      ((getRow table key).map Option.isSome).mapError _
    rw [found key arity, getRow_of_arity arity]
    rfl
  · intro range reverse onKeys supported
    rw [TableSource.rows_eq supported, TableSource.rows_eq supported, listed range reverse onKeys]
  · intro range onKeys supported
    rw [TableSource.count_eq supported, TableSource.count_eq supported, listed range false onKeys]
  · intro range onKeys supported
    rw [TableSource.isEmpty_eq supported, TableSource.isEmpty_eq supported, listed range false onKeys]

/-! ## Runs -/

/-- What a run shows to a transaction, a local table shows which has performed what has
gone before, and the transaction's own writes. -/
theorem run_shows (ops : TableOps S) {canonical : TableLock schema} {actions : List (Action (writesDriver ops schema))}
    (orderly : Orderly (TableWrite.meaning ops schema) (TableWrite.Whole ops schema) canonical actions) {txn : TxnId}
    (ahead : (run (writesDriver ops schema) (Config.start canonical) actions).Ahead txn) :
    exists table : TableLock schema,
      Performed ops ((chronicle (writesDriver ops schema) (Config.start canonical) Ledger.empty actions).history txn)
        canonical table ∧
      (run (writesDriver ops schema) (Config.start canonical) actions).state.view txn = bindings table := by
  have serves := run_serves (writesDriver_performs ops schema) (writesDriver_readsOnly ops schema) canonical orderly
  rcases performed_of_succeeds (serves.served txn ahead) with ⟨table, performed, shown⟩
  exact ⟨table, performed, (serves.shown txn ahead).trans shown.symm⟩

/-- A sound table shows rows each of which is written once in each delta. -/
theorem apart_of_sound {config : Config (Delta schema) (TableLock schema) (Key S)} (sound : Sound config)
    (txn : TxnId) :
    TableSource.Apart txn (.file config.owner : TableSource schema) := by
  intro delta member
  rcases List.mem_append.mp member with committed | own
  · exact sound.separateThrough txn delta committed
  · exact sound.pendingSeparate txn delta (Option.mem_toList.mp own)

/-- Through any interleaving of transactions in which those whose writes touch a common
key commit in their order, every transaction ahead of the frontier reads what a local
table answers which has performed the writes of the transactions one after another,
each of them with success.  Canonical storage holds the rows of the local table which
has performed those finalized. -/
theorem transactions_serialize (ops : TableOps S) {schema : TableSchema S} (canonical : TableLock schema)
    {actions : List (Action (writesDriver ops schema))}
    (orderly : Orderly (TableWrite.meaning ops schema) (TableWrite.Whole ops schema) canonical actions) :
    let config := run (writesDriver ops schema) (Config.start canonical) actions
    let ledger := chronicle (writesDriver ops schema) (Config.start canonical) Ledger.empty actions
    (forall txn, config.Ahead txn -> exists table : TableLock schema,
      Performed ops (ledger.history txn) canonical table ∧ Alike ops txn (.file config.owner) (.localTable table)) ∧
    (config.finalizing = none -> exists table : TableLock schema,
      Performed ops (ledger.logBefore config.floor) canonical table ∧ config.state.persistent.rows = table.rows) := by
  intro config ledger
  have serves := run_serves (writesDriver_performs ops schema) (writesDriver_readsOnly ops schema) canonical orderly
  have sound : Sound config := run_sound (Sound.start canonical) actions
  constructor
  · intro txn ahead
    rcases run_shows ops orderly ahead with ⟨table, performed, shown⟩
    exact ⟨table, performed, alike_of_view (apart_of_sound sound txn) shown⟩
  · intro free
    rcases performed_of_succeeds serves.servedBefore with ⟨table, performed, shown⟩
    refine ⟨table, performed, ?_⟩
    apply Std.ExtTreeMap.ext_getElem?
    exact fun key => congrFun ((serves.stored free).trans shown.symm) key

/-- A row is committed, a range update rewrites it, and an insertion which the update has
kept waiting is called again once that has committed. -/
def updatedThenInserted : List (Action (writesDriver TableOps.reference pairSchema)) :=
  [.mutate 1 (.upsertRow [Signature.number 7] [Signature.number 1]), .commit 1,
    .mutate 2 (.update Range.default fiveForOne), .mutate 3 (.insertRow [Signature.number 9] [Signature.number 2]),
    .commit 2, .mutate 3 (.insertRow [Signature.number 9] [Signature.number 2])]

theorem updatedThenInserted_orderly :
    Orderly (TableWrite.meaning TableOps.reference pairSchema) (TableWrite.Whole TableOps.reference pairSchema)
      TableLock.empty updatedThenInserted := by
  have distinct : pairSchema.KeysDistinct := by decide
  constructor
  · intro action member txn write same
    subst same
    simp only [updatedThenInserted, List.mem_cons, List.not_mem_nil, or_false, reduceCtorEq,
      false_or] at member
    rcases member with ⟨_, rfl⟩ | ⟨_, rfl⟩ | ⟨_, rfl⟩ | ⟨_, rfl⟩
    · exact distinct
    · exact ⟨distinct, fun _ _ => rfl, rfl, fun _ => by decide⟩
    · exact distinct
    · exact distinct
  · apply meets_of_ascending
    · decide
    · intro instant present
      rw [Ledger.empty_decidedLog] at present
      exact absurd rfl present

example : ((chronicle (writesDriver TableOps.reference pairSchema) (Config.start TableLock.empty) Ledger.empty
    updatedThenInserted).history 3).length = 3 := by
  decide +kernel

/-- The third transaction reads what a local table answers after the three writes. -/
theorem transactions_serialize_updatedThenInserted :
    exists table : TableLock pairSchema,
      Performed TableOps.reference ((chronicle (writesDriver TableOps.reference pairSchema)
        (Config.start TableLock.empty) Ledger.empty updatedThenInserted).history 3) TableLock.empty table ∧
      Alike TableOps.reference 3 (.file (run (writesDriver TableOps.reference pairSchema)
        (Config.start TableLock.empty) updatedThenInserted).owner) (.localTable table) :=
  (transactions_serialize TableOps.reference TableLock.empty updatedThenInserted_orderly).1 3 (by decide +kernel)

end Table
end TransactionalCollection
