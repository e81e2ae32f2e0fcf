import TransactionalCollection.BTree.Lifecycle
import TransactionalCollection.Persistence.Repeat

namespace TransactionalCollection
namespace Tree

open Std (TransCmp LawfulEqCmp OrientedCmp ExtTreeSet)
open Layering Native Execution Persistence Streaming

/-!
# Reads of a tree

Every read of a tree is a function of its view.  Key streams are strict, since
distinct keys never compare equal, so a scan is determined by the keys in it,
and these are the keys in bounds which the view has.  What a read depends on is
therefore the part of the view in its scope, and a read which takes a permit
reserves that scope.
-/

variable {S : Signature} {schema : BTreeSchema S}

/-! ## Key streams -/

instance KeyStreamCollator.cmp_trans (reverse : Bool) :
    TransCmp (KeyStreamCollator.cmp (S := S) reverse) := by
  cases reverse with
  | false => exact inferInstanceAs (TransCmp (compare : Key S -> Key S -> Ordering))
  | true =>
      have flipped : KeyStreamCollator.cmp true = fun left right : Key S => compare right left := by
        funext left right
        exact OrientedCmp.eq_swap.symm
      rw [flipped]
      infer_instance

instance KeyStreamCollator.cmp_eq (reverse : Bool) :
    LawfulEqCmp (KeyStreamCollator.cmp (S := S) reverse) where
  eq_of_compare {left right} same := by
    cases reverse with
    | false =>
        have forward : compare left right = .eq := same
        exact LawfulEqCmp.eq_of_compare forward
    | true => exact LawfulEqCmp.eq_of_compare (Ordering.swap_eq_eq.mp same)

theorem keyStreamIn_strict (tree : BTreeLock schema) (bounds : Bounds S) (reverse : Bool) :
    StrictlyAscending (KeyStreamCollator.cmp reverse) (keyStreamIn tree bounds reverse) := by
  have forward : StrictlyAscending compare (tree.keys.toList.filter (boundsContain bounds)) :=
    ExtTreeSet.ordered_toList.filter _
  cases reverse with
  | false => exact forward
  | true =>
      apply forward.reversed
      intro first second
      exact OrientedCmp.eq_swap

theorem Delta.layOver_strict (collate : StreamOps) (bounds : Bounds S) (reverse : Bool)
    {visible : List (Key S)} (strict : StrictlyAscending (KeyStreamCollator.cmp reverse) visible)
    (delta : Delta schema) :
    StrictlyAscending (KeyStreamCollator.cmp reverse) (delta.layOver collate bounds reverse visible) :=
  tryMerge_strictlyAscending collate
    (tryDiff_strictlyAscending collate strict (keyStreamIn_strict delta.deletes bounds reverse))
    (keyStreamIn_strict delta.inserts bounds reverse)

/-- Laying a delta over a view's keys in bounds yields the keys in bounds of the
view as the delta answers it. -/
theorem Delta.mem_layOver (collate : StreamOps) {bounds : Bounds S} {reverse : Bool}
    {visible : List (Key S)} (strict : StrictlyAscending (KeyStreamCollator.cmp reverse) visible)
    (delta : Delta schema) {below : View (Key S) Unit} {key : Key S}
    (shown : key ∈ visible <-> boundsContain bounds key = true ∧ (below key).isSome = true) :
    key ∈ delta.layOver collate bounds reverse visible <->
      boundsContain bounds key = true ∧ ((overlay delta).read below key).isSome = true := by
  have deletesStrict := keyStreamIn_strict delta.deletes bounds reverse
  have insertsStrict := keyStreamIn_strict delta.inserts bounds reverse
  have reduced := tryDiff_strictlyAscending collate strict deletesStrict
  rw [layOver, mem_tryMerge_iff collate reduced.ascending insertsStrict.ascending, unmatched_iff_not_mem,
    mem_tryDiff_iff collate strict.ascending deletesStrict.ascending, unmatched_iff_not_mem, shown,
    mem_keyStreamIn, mem_keyStreamIn, ← containsKey_iff, ← containsKey_iff]
  change _ <-> _ ∧ (((delta.answers key).getD (below key)).isSome = true)
  rw [answers]
  by_cases inserted : containsKey delta.inserts key = true
  · simp only [inserted, if_true, true_and, Option.getD_some, Option.isSome_some, and_true]
    tauto
  · by_cases deleted : containsKey delta.deletes key = true
    · simp only [inserted, deleted, if_true]
      tauto
    · simp [inserted, deleted]

/-- A scan is strict, and it shows the keys in bounds which the view has. -/
theorem visibleKeys_spec (collate : StreamOps)
    (snapshot : VisibleSnapshot (Delta schema) (BTreeLock schema)) (bounds : Bounds S) (reverse : Bool) :
    StrictlyAscending (KeyStreamCollator.cmp reverse) (visibleKeys collate snapshot bounds reverse) ∧
      forall key, key ∈ visibleKeys collate snapshot bounds reverse <->
        boundsContain bounds key = true ∧ (snapshot.view key).isSome = true := by
  have fold : forall (deltas : List (Delta schema)) (visible : List (Key S)) (below : View (Key S) Unit),
      StrictlyAscending (KeyStreamCollator.cmp reverse) visible ->
      (forall key, key ∈ visible <-> boundsContain bounds key = true ∧ (below key).isSome = true) ->
      StrictlyAscending (KeyStreamCollator.cmp reverse)
          (deltas.foldl (Delta.layOver collate bounds reverse) visible) ∧
        forall key, key ∈ deltas.foldl (Delta.layOver collate bounds reverse) visible <->
          boundsContain bounds key = true ∧ (stack (deltas.map overlay) below key).isSome = true := by
    intro deltas
    induction deltas with
    | nil => exact fun _ _ strict shown => ⟨strict, shown⟩
    | cons delta deltas inductionHypothesis =>
        intro visible below strict shown
        exact inductionHypothesis _ _ (delta.layOver_strict collate bounds reverse strict)
          (fun key => delta.mem_layOver collate strict (shown key))
  refine fold snapshot.deltas _ (bindings snapshot.persistent)
    (keyStreamIn_strict snapshot.persistent bounds reverse) (fun key => ?_)
  rw [mem_keyStreamIn, ← containsKey_iff, and_comm]
  refine and_congr_right (fun _ => ?_)
  change _ <-> (if containsKey snapshot.persistent key then some () else none).isSome = true
  split <;> simp_all

/-- Two snapshots which have the same keys in bounds scan alike. -/
theorem visibleKeys_congr (collate : StreamOps)
    {first second : VisibleSnapshot (Delta schema) (BTreeLock schema)} {bounds : Bounds S}
    (reverse : Bool)
    (same : forall key, boundsContain bounds key = true -> first.view key = second.view key) :
    visibleKeys collate first bounds reverse = visibleKeys collate second bounds reverse := by
  rcases visibleKeys_spec collate first bounds reverse with ⟨firstStrict, firstShows⟩
  rcases visibleKeys_spec collate second bounds reverse with ⟨secondStrict, secondShows⟩
  refine firstStrict.ext secondStrict (fun key => ?_)
  rw [firstShows, secondShows]
  exact and_congr_right (fun inside => by rw [same key inside])

theorem boundsContain_all (key : Key S) : boundsContain (Bounds.all : Bounds S) key = true := by
  rw [boundsContain]
  cases key.head? with
  | none => rfl
  | some value => rfl

/-- A tree streams the keys in bounds which it shows. -/
theorem mem_keys_iff {collate : StreamOps} {txn : TxnId} {bounds : Bounds S} {reverse : Bool}
    {owner : BTree schema} {key : Key S} :
    key ∈ (keys collate txn bounds reverse owner).1 <->
      boundsContain bounds key = true ∧ owner.state.view txn key = some () := by
  apply ((visibleKeys_spec collate (owner.state.visibleSnapshot txn) bounds reverse).2 key).trans
  apply and_congr_right
  intro _
  rw [Option.isSome_iff_exists]
  constructor
  · intro present
    rcases present with ⟨value, found⟩
    exact found
  · intro found
    exact ⟨(), found⟩

/-- Read in natural order, a stream of keys is strict. -/
theorem keys_strict (collate : StreamOps) (txn : TxnId) (bounds : Bounds S) (reverse : Bool)
    (owner : BTree schema) :
    StrictlyAscending compare (forward reverse (keys collate txn bounds reverse owner).1) := by
  have strict := (visibleKeys_spec collate (owner.state.visibleSnapshot txn) bounds reverse).1
  cases reverse with
  | false => exact strict
  | true =>
      apply strict.reversed
      intro first second
      exact OrientedCmp.eq_swap.symm

/-! ## The reads -/

/-- A call which reads a tree, or a slice of one. -/
inductive TreeRead (S : Signature) where
  | containsRow (key : Key S)
  | keys (bounds : Bounds S) (reverse : Bool)
  | forEachRowInOrder (bounds : Bounds S) (reverse : Bool)
  | countIn (bounds : Bounds S)
  | count
  | isEmpty
  | isEmptyIn (slice : BTreeSlice S)

inductive TreeAnswer (S : Signature) where
  | found (present : Bool)
  | counted (count : Nat)
  | yielded (keys : List (Key S))

namespace TreeRead

/-- What the read answers, and the owner once it has its permit. -/
def perform (collate : StreamOps) (txn : TxnId) (owner : BTree schema) :
    TreeRead S -> TreeAnswer S × BTree schema
  | .containsRow key => (Tree.containsRow txn key owner).map .found id
  | .keys bounds reverse => (Tree.keys collate txn bounds reverse owner).map .yielded id
  | .forEachRowInOrder bounds reverse =>
      (Tree.forEachRowInOrder collate txn bounds reverse owner).map .yielded id
  | .countIn bounds => (Tree.countIn collate txn bounds owner).map .counted id
  | .count => (Tree.count collate txn owner).map .counted id
  | .isEmpty => (.found (Tree.isEmpty collate txn owner), owner)
  | .isEmptyIn slice => (.found (slice.isEmpty collate txn owner), owner)

/-- The range the read reserves, if it does. -/
def permit : TreeRead S -> Option (SetRange (Key S))
  | .containsRow key => some (.one key)
  | .keys _ _ | .forEachRowInOrder _ _ | .countIn _ | .count => some .all
  | .isEmpty | .isEmptyIn _ => none

/-- The keys the answer depends on. -/
def scope : TreeRead S -> Key S -> Prop
  | .containsRow key => fun other => other = key
  | .keys bounds _ | .forEachRowInOrder bounds _ | .countIn bounds =>
      fun key => boundsContain bounds key = true
  | .count | .isEmpty => fun key => boundsContain Bounds.all key = true
  | .isEmptyIn slice => fun key => boundsContain slice.bounds key = true

variable (collate : StreamOps) (txn : TxnId)

theorem perform_owner (owner : BTree schema) (read : TreeRead S) :
    (read.perform collate txn owner).2 = owner.permitted txn read.permit := by
  cases read <;> rfl

/-- A permit covers all that the answer depends on. -/
theorem permit_covers (read : TreeRead S) {range : SetRange (Key S)}
    (permitted : read.permit = some range) (key : Key S) (inside : read.scope key) :
    range.Covers key := by
  cases read with
  | containsRow => exact Option.some.inj permitted ▸ inside.symm
  | keys | forEachRowInOrder | countIn | count => exact Option.some.inj permitted ▸ trivial
  | isEmpty | isEmptyIn => cases permitted

/-- The answer depends on the view of the reader, and only in the scope. -/
theorem perform_congr {first second : BTree schema} (read : TreeRead S)
    (same : forall key, read.scope key -> first.state.view txn key = second.state.view txn key) :
    (read.perform collate txn first).1 = (read.perform collate txn second).1 := by
  have scans : forall {bounds : Bounds S} (reverse : Bool),
      (forall key, boundsContain bounds key = true ->
        first.state.view txn key = second.state.view txn key) ->
      visibleKeys collate (first.state.visibleSnapshot txn) bounds reverse =
        visibleKeys collate (second.state.visibleSnapshot txn) bounds reverse :=
    fun reverse same => visibleKeys_congr collate reverse same
  cases read with
  | containsRow key =>
      change TreeAnswer.found (isRowVisible (first.state.visibleSnapshot txn) key) =
        .found (isRowVisible (second.state.visibleSnapshot txn) key)
      rw [isRowVisible_eq, isRowVisible_eq]
      exact congrArg (fun seen : Option Unit => TreeAnswer.found seen.isSome) (same key rfl)
  | keys bounds reverse => exact congrArg TreeAnswer.yielded (scans reverse same)
  | forEachRowInOrder bounds reverse => exact congrArg TreeAnswer.yielded (scans reverse same)
  | countIn bounds =>
      exact congrArg (fun keys : List (Key S) => TreeAnswer.counted keys.length) (scans false same)
  | count => exact congrArg (fun keys : List (Key S) => TreeAnswer.counted keys.length) (scans false same)
  | isEmpty =>
      exact congrArg (fun keys : List (Key S) => TreeAnswer.found (!!keys.isEmpty)) (scans false same)
  | isEmptyIn slice =>
      exact congrArg (fun keys : List (Key S) => TreeAnswer.found (!!keys.isEmpty))
        (scans slice.reverse same)

end TreeRead

/-! ## Reading a tree twice -/

theorem treeDriver_readsOnly (collate : StreamOps) (schema : BTreeSchema S) :
    ReadsOnly (treeDriver collate schema) :=
  fun reader _ => ⟨reader.1, reader.2, rfl⟩

theorem treeDriver_allReaders (collate : StreamOps) (schema : BTreeSchema S) :
    AllReaders (treeDriver collate schema) :=
  fun txn range => ⟨(txn, range), fun _ => rfl⟩

/-- A tree answers a read as it did before.  A read without a permit has to be
spared in between: no earlier transaction may commit a delta which answers a key
in its scope. -/
theorem TreeRead.repeats {collate : StreamOps}
    {config last : Config (Delta schema) (BTreeLock schema) (Key S)}
    (reachable : Reachable (treeDriver collate schema) config) {txn : TxnId} {read : TreeRead S}
    (ready : config.owner.Ready txn read.permit)
    (between : Between (treeDriver collate schema) txn (Spared read.permit read.scope txn)
      { config with owner := (read.perform collate txn config.owner).2 } last) :
    (read.perform collate txn last.owner).1 = (read.perform collate txn config.owner).1 := by
  rw [perform_owner] at between
  have readers := treeDriver_allReaders collate schema
  have guarded := between.guarded (treeDriver_readsOnly collate schema) readers reachable ready
    (fun _ => read.permit_covers) (fun _ _ => id)
  refine read.perform_congr collate txn (fun key inside => ?_)
  have same := guarded.view_eq (fun _ _ both => both.2) (reachable.permitted readers ready) inside
  have unchanged := config.owner.permitted_state txn read.permit
  exact same.trans (congrArg (fun state : TreeState schema => state.view txn key) unchanged)

end Tree
end TransactionalCollection
