import TransactionalCollection.BTree.Writers
import TransactionalCollection.Persistence.Steps

namespace TransactionalCollection
namespace Tree

open Layering Native Execution Persistence

/-!
# Mutations of a tree step by step

An insertion takes its key out of the deletions before it puts it into the
insertions, and a deletion the other way round.  Each of these is a call of its own.
-/

variable {S : Signature} {schema : BTreeSchema S}

/-! ## Scripts -/

/-- A script on a delta of a tree. -/
abbrev DeltaScript (schema : BTreeSchema S) :=
  Script (StoredState (Delta schema) (BTreeLock schema)) IoError (Delta schema)

namespace Delta

/-- `Delta::insert`. -/
def insertSteps (key : Key S) (next : DeltaScript schema) : DeltaScript schema :=
  .call (onDeletes (deleteKey key)) (.call (onInserts (insertKey key)) next)

/-- `Delta::delete`. -/
def deleteSteps (key : Key S) (next : DeltaScript schema) : DeltaScript schema :=
  .call (onInserts (deleteKey key)) (.call (onDeletes (insertKey key)) next)

/-- `apply_to` on the deletions of a replacement, write by write. -/
def seedSteps (committed : Handle) (next : DeltaScript schema) : DeltaScript schema :=
  .look (fun view _ =>
    .forEach (keyStreamIn (view.storage committed).inserts Bounds.all false)
      (fun key => .call (onDeletes (insertKey key)))
      (.look (fun view _ =>
        .forEach (keyStreamIn (view.storage committed).deletes Bounds.all false)
          (fun key => .call (onDeletes (deleteKey key)))
          next)))

/-- `Delta::for_restore` on a new delta. -/
def copyCanonical (canonical : BTreeLock schema) : EStateM IoError (Delta schema) PUnit :=
  onDeletes (fun _ => .ok ⟨⟩ canonical)

def replacementSteps (committed : List Handle) (source : List (Key S)) : DeltaScript schema :=
  .look (fun view _ =>
    .call (copyCanonical view.state.persistent)
      (.forEach committed seedSteps (.forEach source insertSteps .done)))

/-! ## Scripts which are left to themselves -/

variable (view : StoredState (Delta schema) (BTreeLock schema))

theorem run_insertSteps (key : Key S) (next : DeltaScript schema) :
    (insertSteps key next).run view = (do
      Delta.insert key
      next.run view) := by
  unfold insertSteps Delta.insert
  simp only [Script.run_call, bind_assoc]

theorem run_deleteSteps (key : Key S) (next : DeltaScript schema) :
    (deleteSteps key next).run view = (do
      Delta.delete key
      next.run view) := by
  unfold deleteSteps Delta.delete
  simp only [Script.run_call, bind_assoc]

theorem onDeletes_bind {A B : Type} (first : EStateM IoError (BTreeLock schema) A)
    (rest : A -> EStateM IoError (BTreeLock schema) B) :
    onDeletes (first >>= rest) = onDeletes first >>= fun value => onDeletes (rest value) := by
  unfold onDeletes
  exact focus_bind (by intros; rfl) (by intros; rfl) first rest

theorem onDeletes_forM {A : Type} (items : List A) (body : A -> EStateM IoError (BTreeLock schema) PUnit) :
    onDeletes (forM items body) = forM items (fun item => onDeletes (body item)) := by
  unfold onDeletes
  exact focus_forM (by intros; rfl) (by intros; rfl) (by intros; rfl) items body

theorem run_seedSteps (committed : Handle) (next : DeltaScript schema) :
    (seedSteps committed next).run view = (do
      onDeletes (view.storage committed).applyTo
      next.run view) := by
  rw [applyTo, onDeletes_bind, onDeletes_forM, onDeletes_forM, bind_assoc]
  refine (Script.run_forEach_call view _ _ _).trans ?_
  congr 1
  funext _
  exact Script.run_forEach_call view _ _ next

/-- A replacement first applies the committed deltas to a copy of the canonical keys,
and then inserts the keys of the source. -/
theorem run_replacementSteps (committed : List Handle) (source : List (Key S)) :
    (replacementSteps committed source).run view create =
      Delta.replay (committed.map view.storage) source (forRestore view.state.persistent) := by
  have seeded : (Script.forEach committed seedSteps (.forEach source insertSteps .done)).run view =
      Delta.replay (committed.map view.storage) source := by
    rw [Delta.replay, applyAll, onDeletes_forM, List.forM_map]
    refine (Script.run_forEach (run_seedSteps view) _).trans ?_
    congr 1
    funext _
    exact (Script.run_forEach (run_insertSteps view) .done).trans bind_pure_unit
  rw [← seeded]
  rfl

end Delta

/-! ## The scripts of a tree -/

/-- What a tree is restored from: the schema of the source, and the keys it streams. -/
structure RestoreSource (S : Signature) where
  schema : BTreeSchema S
  keys : List (Key S)

namespace TreeWrite

def permit : TreeWrite S -> SetRange (Key S)
  | .insertRow key | .deleteRow key => .one key

def script : TreeWrite S -> DeltaScript schema
  | .insertRow key => Delta.insertSteps key .done
  | .deleteRow key => Delta.deleteSteps key .done

/-- Left to itself, a script is the mutation. -/
theorem run_script (op : TreeWrite S) (view : StoredState (Delta schema) (BTreeLock schema)) :
    op.script.run view = op.onDelta := by
  cases op with
  | insertRow key => exact (Delta.run_insertSteps view key .done).trans bind_pure_unit
  | deleteRow key => exact (Delta.run_deleteSteps view key .done).trans bind_pure_unit

end TreeWrite

def treeScripts (schema : BTreeSchema S) : Scripts (treeWriters schema) where
  permit := TreeWrite.permit
  admits _ _ _ := true
  script _ op := op.script
  alone _ op view := op.run_script view
  Source := RestoreSource S
  compatible source := decide (schema.keyArity = source.schema.keyArity ∧ schema.keyTypes = source.schema.keyTypes)
  replacement committed source := Delta.replacementSteps committed source.keys

/-! ## The halves of a delta -/

namespace Delta

/-- In which halves a key is. -/
def halves (delta : Delta schema) (key : Key S) : Halves where
  inserted := containsKey delta.inserts key
  deleted := containsKey delta.deletes key

theorem keysApart_of_halves {delta : Delta schema} (apart : forall key, (delta.halves key).Apart) :
    delta.KeysApart := by
  intro key inserted deleted
  have absent := apart key (containsKey_iff.mpr inserted)
  exact Bool.false_ne_true (absent.symm.trans (containsKey_iff.mpr deleted))

theorem create_uninserted : Uninserted (create : Delta schema).halves := by
  intro key
  have absent : key ∉ (BTreeLock.empty : BTreeLock schema).keys := BTreeLock.not_mem_empty
  exact Bool.eq_false_iff.mpr (fun inserted => absent (containsKey_iff.mp inserted))

theorem containsKey_erase (tree : BTreeLock schema) (key other : Key S) :
    containsKey (tree.erase key) other = if key = other then false else containsKey tree other := by
  rw [Bool.eq_iff_iff, containsKey_iff, BTreeLock.mem_erase]
  split
  · rename_i same
    simp [same]
  · rename_i different
    rw [containsKey_iff, and_iff_right (Ne.symm different)]

theorem containsKey_insertValid (tree : BTreeLock schema) (key other : Key S) (valid : schema.ValidKey key) :
    containsKey (tree.insertValid key valid) other = if key = other then true else containsKey tree other := by
  rw [Bool.eq_iff_iff, containsKey_iff, BTreeLock.mem_insertValid]
  split
  · rename_i same
    simp [same]
  · rename_i different
    rw [containsKey_iff, or_iff_right (Ne.symm different)]

theorem deleteKey_edits (key : Key S) :
    Edits (containsKey : BTreeLock schema -> Key S -> Bool) key (fun _ => false) (deleteKey key) := by
  intro tree other
  simp only [deleteKey, finalState_ok, succeeded_ok, containsKey_erase, true_and]

theorem insertKey_edits (key : Key S) :
    Edits (containsKey : BTreeLock schema -> Key S -> Bool) key (fun _ => true) (insertKey key) := by
  intro tree other
  by_cases valid : schema.ValidKey key
  · simp only [insertKey_of_valid valid, finalState_ok, succeeded_ok, containsKey_insertValid, true_and]
  · rcases insertKey_of_not_valid valid tree with ⟨error, refused⟩
    simp only [refused, finalState_error, succeeded_error, Bool.false_eq_true, false_and, if_false]

section Edits

variable {key : Key S} {held : Bool} {operation : EStateM IoError (BTreeLock schema) PUnit}
  (edits : Edits (containsKey : BTreeLock schema -> Key S -> Bool) key (fun _ => held) operation)
include edits

theorem onInserts_edits :
    Edits (halves : Delta schema -> Key S -> Halves) key (Halves.setInserted held) (onInserts operation) := by
  unfold onInserts
  refine edits.focus Halves.setInserted ?_ ?_
  · intros
    rfl
  · intros
    rfl

theorem onDeletes_edits :
    Edits (halves : Delta schema -> Key S -> Halves) key (Halves.setDeleted held) (onDeletes operation) := by
  unfold onDeletes
  refine edits.focus Halves.setDeleted ?_ ?_
  · intros
    rfl
  · intros
    rfl

end Edits

/-! ## Every call keeps the halves apart -/

variable {owned : Key S -> Prop} {next : DeltaScript schema} {key : Key S}

theorem done_upholds (delta : Delta schema) :
    Upholds halves Halves.Apart owned (.done : DeltaScript schema) delta := trivial

/-- A key which goes into the insertions has been taken out of the deletions. -/
theorem insertSteps_upholds (owns : owned key)
    (follows : forall delta, Upholds halves Halves.Apart owned next delta) (delta : Delta schema) :
    Upholds halves Halves.Apart owned (insertSteps key next) delta := by
  refine Upholds.edit owns (onDeletes_edits (deleteKey_edits key)) (fun _ => rfl) (fun first taken => ?_)
  have free : (first.halves key).deleted = false := congrArg Halves.deleted taken
  exact Upholds.edit owns (onInserts_edits (insertKey_edits key)) (fun _ => free) (fun second _ => follows second)

/-- A key which goes into the deletions has been taken out of the insertions. -/
theorem deleteSteps_upholds (owns : owned key)
    (follows : forall delta, Upholds halves Halves.Apart owned next delta) (delta : Delta schema) :
    Upholds halves Halves.Apart owned (deleteSteps key next) delta := by
  refine Upholds.edit owns (onInserts_edits (deleteKey_edits key)) (fun impossible => by cases impossible)
    (fun first taken => ?_)
  have free : (first.halves key).inserted = false := congrArg Halves.inserted taken
  refine Upholds.edit owns (onDeletes_edits (insertKey_edits key)) ?_ (fun second _ => follows second)
  intro inserted
  exact absurd (free.symm.trans inserted) Bool.false_ne_true

/-- Work on the deletions inserts nothing. -/
theorem onDeletes_uninserted (operation : EStateM IoError (BTreeLock schema) PUnit) (delta : Delta schema)
    (blank : Uninserted delta.halves) : Uninserted (finalState (onDeletes operation delta)).halves := by
  intro other
  have same : (finalState (onDeletes operation delta)).inserts = delta.inserts := by
    unfold onDeletes focus
    cases operation delta.deletes <;> rfl
  change containsKey (finalState (onDeletes operation delta)).inserts other = false
  rw [same]
  exact blank other

variable (every : forall key, owned key)
include every

/-- A replacement inserts nothing until it has hidden everything. -/
theorem onDeletes_upholds {operation : EStateM IoError (BTreeLock schema) PUnit} {delta : Delta schema}
    (blank : Uninserted delta.halves)
    (follows : forall after, Uninserted after.halves -> Upholds halves Halves.Apart owned next after) :
    Upholds halves Halves.Apart owned (.call (onDeletes operation) next) delta :=
  Upholds.lead every blank (fun _ free => free.apart) (onDeletes_uninserted operation) follows

theorem seedSteps_upholds (committed : Handle)
    (follows : forall delta, Uninserted delta.halves -> Upholds halves Halves.Apart owned next delta)
    (delta : Delta schema) (blank : Uninserted delta.halves) :
    Upholds halves Halves.Apart owned (seedSteps committed next) delta := by
  refine Upholds.look every blank (fun view now free => ?_)
  refine Upholds.forEach (fun key next rest delta empty => onDeletes_upholds every empty rest) ?_ free
  intro after empty
  refine Upholds.look every empty (fun view later still => ?_)
  exact Upholds.forEach (fun key next rest delta empty => onDeletes_upholds every empty rest) follows still

theorem replacementSteps_upholds (committed : List Handle) (source : List (Key S)) (delta : Delta schema)
    (blank : Uninserted delta.halves) :
    Upholds halves Halves.Apart owned (replacementSteps committed source) delta := by
  refine Upholds.look every blank (fun view now free => ?_)
  refine onDeletes_upholds every free (fun copied empty => ?_)
  refine Upholds.forEach (fun handle next => seedSteps_upholds every handle) (fun seeded _ => ?_) empty
  exact Upholds.loop (fun key next => insertSteps_upholds (every key)) done_upholds seeded

end Delta

theorem treeScripts_preserve : (treeScripts schema).Preserve Delta.halves Halves.Apart where
  created := Delta.create_uninserted.apart
  script := by
    intro txn op delta
    cases op with
    | insertRow key => exact Delta.insertSteps_upholds rfl Delta.done_upholds delta
    | deleteRow key => exact Delta.deleteSteps_upholds rfl Delta.done_upholds delta
  replacement committed source :=
    Delta.replacementSteps_upholds (fun _ => trivial) committed source.keys _ Delta.create_uninserted

end Tree
end TransactionalCollection
