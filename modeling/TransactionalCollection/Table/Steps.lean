import TransactionalCollection.Persistence.Steps
import TransactionalCollection.Table.Writers

namespace TransactionalCollection
namespace Table

open Layering Native Execution Persistence

/-!
# Mutations of a table step by step

An upsert takes its key out of both halves of the delta before it puts it into the
insertions, and a deletion takes it out of the insertions before it puts it into the
deletions.  Each of these is a call of its own, and so is each check.
-/

variable {S : Signature} {schema : TableSchema S}

/-! ## Scripts -/

/-- A script on a delta of a table. -/
abbrev DeltaScript (schema : TableSchema S) :=
  Script (StoredState (Delta schema) (TableLock schema)) (Failure OpError) (Delta schema)

namespace Delta

/-- `Delta::upsert`. -/
def upsertSteps (translate : IoError -> Failure OpError) (key : Key S) (values : List S.Value)
    (next : DeltaScript schema) : DeltaScript schema :=
  .call (mapError translate (onDeletes (eraseRow key)))
    (.call (mapError translate (onInserts (eraseRow key)))
      (.call (mapError translate (onInserts (Table.upsert key values))) next))

/-- `delete_from_inserts`, and then `add_to_deletes`. -/
def dropSteps (key : Key S) (values : List S.Value) (next : DeltaScript schema) : DeltaScript schema :=
  .call (mapError (fun error => lockFailure (storageFailure error)) (deleteFromInserts key))
    (.call (mapError (fun error => lockFailure (storageFailure error)) (addToDeletes key values)) next)

def deleteFoundSteps (key : Key S) : Option (Row S) -> DeltaScript schema
  | some row => dropSteps key (row.drop schema.key.length) .done
  | none => .call (mapError (fun error => lockFailure (storageFailure error)) (deleteFromInserts key)) .done

/-- What deletion does to the pending delta, once it has it. -/
def deleteSteps (txn : TxnId) (key : Key S) : DeltaScript schema :=
  .look (fun _ pending =>
    match pending.alreadyDeleted key with
    | .error error => .fails (lockFailure (storageFailure error))
    | .ok true => .done
    | .ok false => .look (fun _ pending =>
        match pending.getInsertedRow key with
        | .error error => .fails (lockFailure (storageFailure error))
        | .ok (some row) => deleteFoundSteps key (some row)
        | .ok none => .look (fun view _ =>
            match resolveRow (view.resolved.visibleSnapshot txn) key with
            | .error panic => .fails (.panic panic)
            | .ok row => deleteFoundSteps key row)))

/-- The body of the update loop. -/
def updateStep (values : List (S.Id × S.Value)) (row : Row S) (next : DeltaScript schema) :
    DeltaScript schema :=
  let row := assignColumns schema values row
  upsertSteps (fun error => lockFailure (storageFailure error)) (row.take schema.key.length)
    (row.drop schema.key.length) next

/-- The body of the truncate loop. -/
def truncateStep (row : Row S) (next : DeltaScript schema) : DeltaScript schema :=
  dropSteps (row.take schema.key.length) (row.drop schema.key.length) next

def updateSteps (ops : TableOps S) (txn : TxnId) (range : Range S) (values : List (S.Id × S.Value)) :
    DeltaScript schema :=
  .look (fun view _ =>
    match openRows ops (view.resolved.visibleSnapshot txn) range [] false with
    | .error failure => .fails (lockFailure failure)
    | .ok rows => .forEach rows (updateStep values) .done)

def truncateSteps (ops : TableOps S) (txn : TxnId) (range : Range S) : DeltaScript schema :=
  .look (fun view _ =>
    let snapshot := view.resolved.visibleSnapshot txn
    match expect "stream persistent rows for truncate"
        (rowStream ops snapshot.persistent range [] false) with
    | .error panic => .fails (.panic panic)
    | .ok rows =>
        match mergeDeltas ops snapshot.deltas rows range [] false
            (RowCollator.forOrder schema [] false) with
        | .error panic => .fails (.panic panic)
        | .ok rows => .forEach rows truncateStep .done)

/-! ### Replacements -/

def ioFailure (error : IoError) : Failure OpError := .error (.io error)

/-- `apply_to` on the deletions of a replacement, write by write. -/
def seedSteps (committed : Persistence.Handle) (next : DeltaScript schema) : DeltaScript schema :=
  .look (fun view _ =>
    .forEach (view.storage committed).inserts.allRows
      (fun row => .call (mapError ioFailure (onDeletes
        (Table.upsert (row.take schema.key.length) (row.drop schema.key.length)))))
      (.look (fun view _ =>
        .forEach (view.storage committed).deletes.allRows
          (fun row => .call (mapError ioFailure (onDeletes (eraseRow (row.take schema.key.length)))))
          next)))

/-- `Delta::for_restore` on a new delta. -/
def copyCanonical (canonical : TableLock schema) : EStateM IoError (Delta schema) PUnit :=
  onDeletes (fun _ => .ok ⟨⟩ canonical)

/-- The body of the loop over the source. -/
def copyStep (row : Row S) (next : DeltaScript schema) : DeltaScript schema :=
  upsertSteps ioFailure (row.take schema.key.length) (row.drop schema.key.length) next

def replacementSteps (committed : List Persistence.Handle) (source : Except (Failure LockError) (List (Row S))) :
    DeltaScript schema :=
  .look (fun view _ =>
    .call (mapError ioFailure (copyCanonical view.state.persistent))
      (.forEach committed seedSteps
        (match source with
        | .error failure => .fails (lockFailure failure)
        | .ok rows => .forEach rows copyStep .done)))

/-! ## Scripts which are left to themselves -/

variable (view : StoredState (Delta schema) (TableLock schema))

theorem run_upsertSteps (translate : IoError -> Failure OpError) (key : Key S) (values : List S.Value)
    (next : DeltaScript schema) :
    (upsertSteps translate key values next).run view = (do
      mapError translate (Delta.upsert key values)
      next.run view) := by
  unfold upsertSteps Delta.upsert
  simp only [Script.run_call, mapError_bind, bind_assoc]

theorem run_dropSteps (key : Key S) (values : List S.Value) (next : DeltaScript schema) :
    (dropSteps key values next).run view = (do
      mapError (fun error => lockFailure (storageFailure error)) (dropRow key values)
      next.run view) := by
  unfold dropSteps dropRow
  simp only [Script.run_call, mapError_bind, bind_assoc]

theorem run_deleteFoundSteps (key : Key S) (row : Option (Row S)) :
    (deleteFoundSteps key row : DeltaScript schema).run view =
      mapError lockFailure (mapError storageFailure (deleteFound key row)) := by
  rw [mapError_mapError]
  cases row with
  | some row =>
      rw [deleteFoundSteps, run_dropSteps, deleteFound_some]
      exact bind_pure_unit
  | none =>
      change (deleteFoundSteps key none).run view = mapError _ (deleteFromInserts key >>= fun _ => pure ⟨⟩)
      rw [mapError_bind]
      rfl

theorem run_deleteSteps (txn : TxnId) (key : Key S) :
    (deleteSteps txn key).run view = mapError lockFailure (deleteVisible txn key view.resolved) := by
  funext pending
  rw [deleteSteps, Script.run_look]
  cases already : pending.alreadyDeleted key with
  | error error => simp only [mapError, deleteVisible, already]; rfl
  | ok deleted =>
      cases deleted with
      | true => simp only [mapError, deleteVisible, already]; rfl
      | false =>
          simp only
          rw [Script.run_look]
          cases inserted : pending.getInsertedRow key with
          | error error => simp only [mapError, deleteVisible, already, rowToDelete, inserted]; rfl
          | ok row =>
              cases row with
              | some row =>
                  simp only [run_deleteFoundSteps]
                  simp only [mapError, deleteVisible, already, rowToDelete, inserted]
              | none =>
                  simp only
                  rw [Script.run_look]
                  cases resolved : resolveRow (view.resolved.visibleSnapshot txn) key with
                  | error panic =>
                      simp only [mapError, deleteVisible, already, rowToDelete, inserted, resolved]
                      rfl
                  | ok row =>
                      simp only [run_deleteFoundSteps]
                      simp only [mapError, deleteVisible, already, rowToDelete, inserted, resolved]
                      rfl

theorem run_updateRows (values : List (S.Id × S.Value)) (rows : List (Row S)) :
    (Script.forEach rows (updateStep values) .done).run view =
      mapError lockFailure (mapError storageFailure
        (forM rows (updateOne values : Row S -> EStateM IoError (Delta schema) PUnit))) := by
  rw [mapError_mapError, mapError_forM]
  refine (Script.run_forEach (fun row next => ?_) .done).trans bind_pure_unit
  exact run_upsertSteps view _ _ _ next

theorem run_truncateRows (rows : List (Row S)) :
    (Script.forEach rows truncateStep .done).run view =
      mapError lockFailure (mapError storageFailure
        (forM rows (truncateOne : Row S -> EStateM IoError (Delta schema) PUnit))) := by
  rw [mapError_mapError, mapError_forM]
  refine (Script.run_forEach (fun row next => ?_) .done).trans bind_pure_unit
  exact run_dropSteps view _ _ next

theorem run_updateSteps (ops : TableOps S) (txn : TxnId) (range : Range S) (values : List (S.Id × S.Value)) :
    (updateSteps ops txn range values).run view =
      mapError lockFailure (updateVisible ops txn range values view.resolved) := by
  funext pending
  rw [updateSteps, Script.run_look]
  cases opened : openRows ops (view.resolved.visibleSnapshot txn) range [] false with
  | error failure => simp only [mapError, updateVisible, opened]; rfl
  | ok rows =>
      simp only
      rw [run_updateRows]
      simp only [mapError, updateVisible, opened]

theorem run_truncateSteps (ops : TableOps S) (txn : TxnId) (range : Range S) :
    (truncateSteps ops txn range).run view =
      mapError lockFailure (truncateVisible ops txn range view.resolved) := by
  funext pending
  rw [truncateSteps, Script.run_look]
  dsimp only
  cases opened : expect "stream persistent rows for truncate"
      (rowStream ops (view.resolved.visibleSnapshot txn).persistent range [] false) with
  | error panic => simp only [mapError, truncateVisible, opened]; rfl
  | ok rows =>
      simp only
      cases merged : mergeDeltas ops (view.resolved.visibleSnapshot txn).deltas rows range [] false
          (RowCollator.forOrder schema [] false) with
      | error panic => simp only [mapError, truncateVisible, opened, merged]; rfl
      | ok rows =>
          simp only
          rw [run_truncateRows]
          simp only [mapError, truncateVisible, opened, merged]

/-! A replacement first applies the committed deltas to a copy of the canonical rows,
and then upserts the rows of the source. -/

theorem onDeletes_bind {A B : Type} (first : EStateM IoError (TableLock schema) A)
    (rest : A -> EStateM IoError (TableLock schema) B) :
    onDeletes (first >>= rest) = onDeletes first >>= fun value => onDeletes (rest value) := by
  unfold onDeletes
  exact focus_bind (by intros; rfl) (by intros; rfl) first rest

theorem onDeletes_forM {A : Type} (items : List A) (body : A -> EStateM IoError (TableLock schema) PUnit) :
    onDeletes (forM items body) = forM items (fun item => onDeletes (body item)) := by
  unfold onDeletes
  exact focus_forM (by intros; rfl) (by intros; rfl) (by intros; rfl) items body

theorem run_seedSteps (committed : Persistence.Handle) (next : DeltaScript schema) :
    (seedSteps committed next).run view = (do
      mapError ioFailure (onDeletes (view.storage committed).applyTo)
      next.run view) := by
  rw [applyTo, onDeletes_bind, onDeletes_forM, onDeletes_forM, mapError_bind, mapError_forM, mapError_forM,
    bind_assoc]
  refine (Script.run_forEach_call view _ _ _).trans ?_
  congr 1
  funext _
  exact Script.run_forEach_call view _ _ next

theorem run_replacementSteps (committed : List Persistence.Handle) (rows : List (Row S)) :
    (replacementSteps committed (.ok rows)).run view create =
      mapError ioFailure (do seed (committed.map view.storage); copyRows rows)
        (forRestore view.state.persistent) := by
  have seeded : (Script.forEach committed seedSteps (.forEach rows copyStep .done)).run view =
      mapError ioFailure (do seed (committed.map view.storage); copyRows rows) := by
    rw [mapError_bind, seed, onDeletes_forM, copyRows, mapError_forM, mapError_forM, List.forM_map]
    refine (Script.run_forEach (run_seedSteps view) _).trans ?_
    congr 1
    funext _
    refine (Script.run_forEach (fun row next => ?_) .done).trans bind_pure_unit
    exact run_upsertSteps view _ _ _ next
  rw [← seeded]
  rfl

end Delta

/-! ## The scripts of a table -/

/-- What a table is restored from: the schema of the source, and what streaming its
rows comes to. -/
structure RestoreSource (S : Signature) where
  schema : TableSchema S
  rows : Except (Failure LockError) (List (Row S))

namespace TableWrite

def permit : TableWrite S -> SetRange (Key S)
  | .upsertRow key _ | .insertRow key _ | .deleteRow key => .one key
  | .update _ _ | .truncate _ => .all

/-- Only an insertion looks for its row before it asks for the pending delta. -/
def admits (txn : TxnId) (state : TableState schema) : TableWrite S -> Bool
  | .insertRow key _ =>
      match resolveRow (state.visibleSnapshot txn) key with
      | .ok none => true
      | .ok (some _) | .error _ => false
  | .upsertRow _ _ | .deleteRow _ | .update _ _ | .truncate _ => true

def script (ops : TableOps S) (txn : TxnId) : TableWrite S -> DeltaScript schema
  | .upsertRow key values =>
      Delta.upsertSteps (fun error => .error (.lock (backgroundError error.message))) key values .done
  | .insertRow key values => Delta.upsertSteps (fun error => .error (.io error)) key values .done
  | .deleteRow key => Delta.deleteSteps txn key
  | .update range values => Delta.updateSteps ops txn range values
  | .truncate range => Delta.truncateSteps ops txn range

/-- Left to itself, a script is the mutation. -/
theorem run_script (ops : TableOps S) (txn : TxnId) (op : TableWrite S)
    (view : StoredState (Delta schema) (TableLock schema)) :
    (op.script ops txn).run view = op.onDelta ops txn view.resolved := by
  cases op with
  | upsertRow key values => exact (Delta.run_upsertSteps view _ key values .done).trans bind_pure_unit
  | insertRow key values => exact (Delta.run_upsertSteps view _ key values .done).trans bind_pure_unit
  | deleteRow key => exact Delta.run_deleteSteps view txn key
  | update range values => exact Delta.run_updateSteps view ops txn range values
  | truncate range => exact Delta.run_truncateSteps view ops txn range

end TableWrite

def tableScripts (ops : TableOps S) (schema : TableSchema S) : Scripts (tableWriters ops schema) where
  permit := TableWrite.permit
  admits txn op state := op.admits txn state
  script txn op := op.script ops txn
  alone txn op view := op.run_script ops txn view
  Source := RestoreSource S
  compatible source := decide (schema.castFrom = source.schema.castFrom)
  replacement committed source := Delta.replacementSteps committed source.rows

/-! ## The halves of a delta -/

namespace Delta

/-- Whether a table binds a key. -/
def binds (table : TableLock schema) (key : Key S) : Bool := table.rows[key]?.isSome

theorem binds_erase (table : TableLock schema) (key other : Key S) :
    binds (table.erase key) other = if key = other then false else binds table other := by
  rw [binds, TableLock.erase_rows]
  split
  · rfl
  · rfl

theorem binds_put (table : TableLock schema) (key other : Key S) (values : List S.Value)
    (validKey : schema.ValidKey key) (validValues : schema.ValidValues values) :
    binds (table.put key values validKey validValues) other = if key = other then true else binds table other := by
  rw [binds, TableLock.put_rows]
  split
  · rfl
  · rfl

theorem eraseRow_edits (key : Key S) :
    Edits (binds : TableLock schema -> Key S -> Bool) key (fun _ => false) (eraseRow key) := by
  intro table other
  simp only [eraseRow, finalState_ok, succeeded_ok, binds_erase, true_and]

theorem upsert_edits (key : Key S) (values : List S.Value) :
    Edits (binds : TableLock schema -> Key S -> Bool) key (fun _ => true) (Table.upsert key values) := by
  intro table other
  rcases Table.upsert_cases key values table with ⟨validKey, validValues, done⟩ | ⟨error, refused⟩
  · simp only [done, finalState_ok, succeeded_ok, binds_put, true_and]
  · simp only [refused, finalState_error, succeeded_error, Bool.false_eq_true, false_and, if_false]

/-- In which halves a key is. -/
def halves (delta : Delta schema) (key : Key S) : Halves where
  inserted := delta.inserts.rows[key]?.isSome
  deleted := delta.deletes.rows[key]?.isSome

theorem keysApart_of_halves {delta : Delta schema} (apart : forall key, (delta.halves key).Apart) :
    delta.KeysApart := by
  intro key present
  have absent := apart key (Option.isSome_iff_ne_none.mpr present)
  exact Option.isNone_iff_eq_none.mp (Option.isSome_eq_false_iff.mp absent)

theorem create_uninserted : Uninserted (create : Delta schema).halves := by
  intro key
  simp [halves, create, TableLock.empty]

section Edits

variable {key : Key S} {bound : Bool} {operation : EStateM IoError (TableLock schema) PUnit}
  (edits : Edits (binds : TableLock schema -> Key S -> Bool) key (fun _ => bound) operation)
  {E : Type} (translate : IoError -> E)
include edits

theorem onInserts_edits : Edits (halves : Delta schema -> Key S -> Halves) key
    (Halves.setInserted bound) (mapError translate (onInserts operation)) := by
  refine Edits.mapError ?_ translate
  unfold onInserts
  refine edits.focus Halves.setInserted ?_ ?_
  · intros
    rfl
  · intros
    rfl

theorem onDeletes_edits : Edits (halves : Delta schema -> Key S -> Halves) key
    (Halves.setDeleted bound) (mapError translate (onDeletes operation)) := by
  refine Edits.mapError ?_ translate
  unfold onDeletes
  refine edits.focus Halves.setDeleted ?_ ?_
  · intros
    rfl
  · intros
    rfl

end Edits

/-! ## Every call keeps the halves apart -/

variable {owned : Key S -> Prop} {next : DeltaScript schema} {key : Key S}

/-- A key which goes into the insertions has been taken out of the deletions. -/
theorem upsertSteps_upholds (translate : IoError -> Failure OpError) (owns : owned key)
    (values : List S.Value) (follows : forall delta, Upholds halves Halves.Apart owned next delta)
    (delta : Delta schema) : Upholds halves Halves.Apart owned (upsertSteps translate key values next) delta := by
  refine Upholds.edit owns (onDeletes_edits (eraseRow_edits key) translate) (fun _ => rfl) (fun first taken => ?_)
  have free : (first.halves key).deleted = false := congrArg Halves.deleted taken
  refine Upholds.edit owns (onInserts_edits (eraseRow_edits key) translate) (fun _ => free) (fun second blank => ?_)
  have still : (second.halves key).deleted = false := (congrArg Halves.deleted blank).trans free
  exact Upholds.edit owns (onInserts_edits (upsert_edits key values) translate) (fun _ => still)
    (fun third _ => follows third)

/-- A key which goes into the deletions has been taken out of the insertions. -/
theorem dropSteps_upholds (owns : owned key) (values : List S.Value)
    (follows : forall delta, Upholds halves Halves.Apart owned next delta) (delta : Delta schema) :
    Upholds halves Halves.Apart owned (dropSteps key values next) delta := by
  refine Upholds.edit owns (onInserts_edits (eraseRow_edits key) _) (fun impossible => by cases impossible)
    (fun first taken => ?_)
  have free : (first.halves key).inserted = false := congrArg Halves.inserted taken
  refine Upholds.edit owns (onDeletes_edits (upsert_edits key values) _) ?_ (fun second _ => follows second)
  intro inserted
  exact absurd (free.symm.trans inserted) Bool.false_ne_true

theorem done_upholds (delta : Delta schema) :
    Upholds halves Halves.Apart owned (.done : DeltaScript schema) delta := trivial

theorem deleteFoundSteps_upholds (owns : owned key) (row : Option (Row S)) (delta : Delta schema) :
    Upholds halves Halves.Apart owned (deleteFoundSteps key row) delta := by
  cases row with
  | some row => exact dropSteps_upholds owns _ done_upholds delta
  | none =>
      exact Upholds.edit owns (onInserts_edits (eraseRow_edits key) _) (fun impossible => by cases impossible)
        (fun _ _ => trivial)

theorem deleteSteps_upholds (txn : TxnId) (owns : owned key) (delta : Delta schema) :
    Upholds halves Halves.Apart owned (deleteSteps txn key) delta := by
  intro view first _
  dsimp only
  split
  · trivial
  · trivial
  · intro view second _
    dsimp only
    split
    · trivial
    · exact deleteFoundSteps_upholds owns _ second
    · intro view third _
      dsimp only
      split
      · trivial
      · exact deleteFoundSteps_upholds owns _ third

variable (every : forall key, owned key)
include every

theorem updateSteps_upholds (ops : TableOps S) (txn : TxnId) (range : Range S) (values : List (S.Id × S.Value))
    (delta : Delta schema) : Upholds halves Halves.Apart owned (updateSteps ops txn range values) delta := by
  intro view now _
  dsimp only
  split
  · trivial
  · refine Upholds.loop (fun row next rest => ?_) done_upholds _
    exact upsertSteps_upholds _ (every _) _ rest

theorem truncateSteps_upholds (ops : TableOps S) (txn : TxnId) (range : Range S) (delta : Delta schema) :
    Upholds halves Halves.Apart owned (truncateSteps ops txn range) delta := by
  intro view now _
  dsimp only
  split
  · trivial
  · split
    · trivial
    · refine Upholds.loop (fun row next rest => ?_) done_upholds _
      exact dropSteps_upholds (every _) _ rest

omit every in
/-- Work on the deletions inserts nothing. -/
theorem onDeletes_uninserted (translate : IoError -> Failure OpError)
    (operation : EStateM IoError (TableLock schema) PUnit) (delta : Delta schema)
    (blank : Uninserted delta.halves) :
    Uninserted (finalState (mapError translate (onDeletes operation) delta)).halves := by
  intro other
  rw [finalState_mapError]
  have same : (finalState (onDeletes operation delta)).inserts = delta.inserts := by
    unfold onDeletes focus
    cases operation delta.deletes <;> rfl
  change binds (finalState (onDeletes operation delta)).inserts other = false
  rw [same]
  exact blank other

/-- A replacement inserts nothing until it has hidden everything. -/
theorem onDeletes_upholds {translate : IoError -> Failure OpError}
    {operation : EStateM IoError (TableLock schema) PUnit} {delta : Delta schema}
    (blank : Uninserted delta.halves)
    (follows : forall after, Uninserted after.halves -> Upholds halves Halves.Apart owned next after) :
    Upholds halves Halves.Apart owned (.call (mapError translate (onDeletes operation)) next) delta :=
  Upholds.lead every blank (fun _ free => free.apart) (onDeletes_uninserted translate operation) follows

theorem seedSteps_upholds (committed : Persistence.Handle)
    (follows : forall delta, Uninserted delta.halves -> Upholds halves Halves.Apart owned next delta)
    (delta : Delta schema) (blank : Uninserted delta.halves) :
    Upholds halves Halves.Apart owned (seedSteps committed next) delta := by
  refine Upholds.look every blank (fun view now free => ?_)
  refine Upholds.forEach (fun row next rest delta empty => onDeletes_upholds every empty rest) ?_ free
  intro after empty
  refine Upholds.look every empty (fun view later still => ?_)
  exact Upholds.forEach (fun row next rest delta empty => onDeletes_upholds every empty rest) follows still

theorem replacementSteps_upholds (committed : List Persistence.Handle)
    (source : Except (Failure LockError) (List (Row S))) (delta : Delta schema)
    (blank : Uninserted delta.halves) :
    Upholds halves Halves.Apart owned (replacementSteps committed source) delta := by
  refine Upholds.look every blank (fun view now free => ?_)
  refine onDeletes_upholds every free (fun copied empty => ?_)
  refine Upholds.forEach (fun handle next => seedSteps_upholds every handle) (fun seeded _ => ?_) empty
  split
  · trivial
  · refine Upholds.loop (fun row next rest => ?_) done_upholds _
    exact upsertSteps_upholds _ (every _) _ rest

end Delta

theorem tableScripts_preserve (ops : TableOps S) :
    (tableScripts ops schema).Preserve Delta.halves Halves.Apart where
  created := Delta.create_uninserted.apart
  script := by
    intro txn op delta
    cases op with
    | upsertRow key values | insertRow key values =>
        exact Delta.upsertSteps_upholds _ rfl values Delta.done_upholds delta
    | deleteRow key => exact Delta.deleteSteps_upholds txn rfl delta
    | update range values => exact Delta.updateSteps_upholds (fun _ => trivial) ops txn range values delta
    | truncate range => exact Delta.truncateSteps_upholds (fun _ => trivial) ops txn range delta
  replacement committed source :=
    Delta.replacementSteps_upholds (fun _ => trivial) committed source.rows _ Delta.create_uninserted

end Table
end TransactionalCollection
