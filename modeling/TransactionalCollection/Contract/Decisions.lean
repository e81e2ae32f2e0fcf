import TransactionalCollection.BTree.Reads
import TransactionalCollection.Collection.Writes
import TransactionalCollection.Table.Atomicity
import TransactionalCollection.Table.Reads

namespace TransactionalCollection
namespace Contract

open Layering Native Execution Persistence Streaming Collection

/-!
# Decisions through a handle

Tree views and transactional tables pass a decision on to the owner which they
write to.  A slice of a transactional table passes its writes on to the owner as
well, but not the decision, which succeeds without any effect.
-/

section Handles

variable {D Native K V : Type} [DecidableEq K] [PersistentDelta D Native] [StoredMap Native K V]
  [LayeredDelta D Native K V] {S : Signature} {forms : ValueForms S} {native : Tree.BTreeSchema S}
  {schema : Table.TableSchema S} {Tensor : Type}

/-- What a transaction has written through a handle, it decides through the same
handle. -/
def DecisionsReach (driver : Driver D Native K)
    (handle : CollectionOwner D Native K -> Collection forms native schema Tensor) (txn : TxnId)
    (log : List (CellWrite K V)) (last : Config D Native K) : Prop :=
  Reaches driver txn log last
    (fun after => Collection.commit txn (handle last.owner) = .ok () (handle after))
    (fun after => Collection.rollback txn (handle last.owner) = .ok () (handle after))

/-- Each cell has been decided to hold what was written to it. -/
def AlreadyDecided (txn : TxnId) (log : List (CellWrite K V)) (state : State D Native) : Prop :=
  forall key answer, effect log key = some answer -> state.settledView txn key = answer

/-- A handle which passes its decisions on reaches all that was written. -/
theorem decisionsReach_of_owner {driver : Driver D Native K}
    {handle : CollectionOwner D Native K -> Collection forms native schema Tensor} {txn : TxnId}
    (injective : forall left right, handle left = handle right -> left = right)
    (commits : forall owner, Collection.commit txn (handle owner) =
      rewrap handle (CollectionOwner.commit txn owner))
    (rollsBack : forall owner, Collection.rollback txn (handle owner) =
      rewrap handle (CollectionOwner.rollback txn owner))
    {log : List (CellWrite K V)} {last : Config D Native K} (reached : Reachable driver last)
    (kept : Keeps txn log last) : DecisionsReach driver handle txn log last := by
  have reaches := kept.reaches reached
  unfold DecisionsReach
  constructor
  · intro after done
    rw [commits] at done
    exact reaches.publishes after ((rewrap_eq_ok injective).mp done)
  · intro after done
    rw [rollsBack] at done
    exact reaches.withdraws after ((rewrap_eq_ok injective).mp done)

/-- A handle which drops its decisions reaches what had been decided already. -/
theorem decisionsReach_idle_iff {driver : Driver D Native K}
    {handle : CollectionOwner D Native K -> Collection forms native schema Tensor} {txn : TxnId}
    (injective : forall left right, handle left = handle right -> left = right)
    (commits : forall owner, Collection.commit txn (handle owner) = .ok () (handle owner))
    (rollsBack : forall owner, Collection.rollback txn (handle owner) = .ok () (handle owner))
    {log : List (CellWrite K V)} {last : Config D Native K} (reached : Reachable driver last)
    (kept : Keeps txn log last) :
    DecisionsReach driver handle txn log last <-> AlreadyDecided txn log last.state := by
  have idle : forall (outcome : EStateM.Result LockError (Collection forms native schema Tensor) Unit)
      (after : CollectionOwner D Native K), outcome = .ok () (handle last.owner) ->
      (outcome = .ok () (handle after) <-> after = last.owner) := by
    intro outcome after same
    rw [same]
    constructor
    · intro done
      injection done with _ handles
      exact (injective _ _ handles).symm
    · intro done
      rw [done]
  unfold DecisionsReach AlreadyDecided
  rw [← kept.reaches_idle_iff reached]
  have committed := funext (fun after => propext (idle _ after (commits last.owner)))
  have rolledBack := funext (fun after => propext (idle _ after (rollsBack last.owner)))
  rw [committed, rolledBack]

theorem slice_decisions_iff (ops : Table.TableOps S) (ranges : Table.RangeOps S) (range : Table.Range S)
    (order : List S.Id) (reverse : Bool)
    {first last : Config (Table.Delta schema) (Table.TableLock schema) (Key S)} {txn : TxnId}
    {log : List (CellWrite (Key S) (List S.Value))}
    (reachable : Reachable (Table.tableDriver ops schema) first)
    (through : Through (Table.tableDriver ops schema) txn
      (sliceCalls ops ranges range order reverse txn) first log last) :
    DecisionsReach (Table.tableDriver ops schema)
        (fun owner => (.table (sliceOf range order reverse owner) : Collection forms native schema Tensor))
        txn log last <->
      AlreadyDecided txn log last.state := by
  rcases through.keeps (Table.tableDriver_readsOnly ops schema)
    (sliceCalls_authentic ops ranges range order reverse txn) reachable with ⟨reached, kept⟩
  apply decisionsReach_idle_iff ?_ (fun _ => rfl) (fun _ => rfl) reached kept
  intro left right same
  injection same with handles
  exact sliceOf_injective range order reverse left right handles

end Handles

/-- A decision through a tree view of any bounds, or through a transactional table whose
key columns have names of their own, reaches everything its transaction wrote through it.
A decision through a slice of a transactional table does so exactly if each cell had been
decided to hold what was written to it. -/
theorem decisions_reach {S : Signature} (forms : ValueForms S) (native : Tree.BTreeSchema S)
    (schema : Table.TableSchema S) (Tensor : Type) :
    (forall (collate : StreamOps) (view : BTreeView forms native)
      (first last : Config (Tree.Delta native) (Tree.BTreeLock native) (Key S)) (txn : TxnId)
      (log : List (CellWrite (Key S) Unit)),
      Reachable (Tree.treeDriver collate native) first ->
      Through (Tree.treeDriver collate native) txn (treeCalls view txn) first log last ->
      DecisionsReach (Tree.treeDriver collate native)
        (fun owner => (.btree (view.withTree owner) : Collection forms native schema Tensor))
        txn log last) ∧
    forall (ops : Table.TableOps S) (ranges : Table.RangeOps S)
      (first last : Config (Table.Delta schema) (Table.TableLock schema) (Key S)) (txn : TxnId)
      (log : List (CellWrite (Key S) (List S.Value))),
      Reachable (Table.tableDriver ops schema) first ->
      (schema.KeysDistinct ->
        Through (Table.tableDriver ops schema) txn (fileCalls ops ranges txn) first log last ->
        DecisionsReach (Table.tableDriver ops schema)
          (fun owner => (.table (.file owner) : Collection forms native schema Tensor)) txn log last) ∧
      forall (range : Table.Range S) (order : List S.Id) (reverse : Bool),
        Through (Table.tableDriver ops schema) txn (sliceCalls ops ranges range order reverse txn)
          first log last ->
        (DecisionsReach (Table.tableDriver ops schema)
            (fun owner => (.table (sliceOf range order reverse owner) :
              Collection forms native schema Tensor))
            txn log last <->
          AlreadyDecided txn log last.state) := by
  constructor
  · intro collate view first last txn log reachable through
    rcases through.keeps (Tree.treeDriver_readsOnly collate native)
      (treeCalls_authentic collate view txn) reachable with ⟨reached, kept⟩
    apply decisionsReach_of_owner ?_ (fun _ => rfl) (fun _ => rfl) reached kept
    intro left right same
    injection same with views
    injection views
  · intro ops ranges first last txn log reachable
    constructor
    · intro distinct through
      rcases through.keeps (Table.tableDriver_readsOnly ops schema)
        (fileCalls_authentic ops ranges distinct txn) reachable with ⟨reached, kept⟩
      apply decisionsReach_of_owner ?_ (fun _ => rfl) (fun _ => rfl) reached kept
      intro left right same
      injection same with handles
      injection handles
    · intro range order reverse through
      exact slice_decisions_iff ops ranges range order reverse reachable through

/-! ## Concrete handles -/

/-- One key column of numbers. -/
def numberColumn : Tree.BTreeSchema Signature.data where
  storage := {}
  keyArity := 1
  keyTypes := some [DatumType.number]
  arity_pos := Nat.one_pos
  arity_types := by
    intro types same
    cases same
    rfl

/-- A view which does not show the key written through it. -/
def aboveEight : BTreeView ValueForms.data numberColumn where
  schema := [⟨"key", DatumType.number, none⟩]
  btree := CollectionOwner.new Tree.BTreeLock.empty
  bounds := (.included (Datum.number 8), .unbounded)
  reverse := true

/-- A table of one decided row. -/
def oneDecided : Config (Table.Delta Table.labelledSchema) (Table.TableLock Table.labelledSchema)
    (Key Signature.data) :=
  run (Table.tableDriver Table.TableOps.reference Table.labelledSchema) Table.unfinished [.commit 1]

theorem oneDecided_reachable :
    Reachable (Table.tableDriver Table.TableOps.reference Table.labelledSchema) oneDecided :=
  Reachable.run Table.unfinished_reachable _

/-- The second transaction has removed all rows, through a slice of the table. -/
def emptied : Config (Table.Delta Table.labelledSchema) (Table.TableLock Table.labelledSchema)
    (Key Signature.data) :=
  run (Table.tableDriver Table.TableOps.reference Table.labelledSchema) oneDecided
    [.mutate 2 (.truncate Table.Range.default)]

/-- What the truncation writes. -/
def removedRow : List (CellWrite (Key Signature.data) (List Signature.data.Value)) :=
  [.remove [Datum.number 7]]

theorem emptied_through_slice :
    Through (Table.tableDriver Table.TableOps.reference Table.labelledSchema) 2
      (sliceCalls Table.TableOps.reference Table.RangeOps.reference Table.Range.default [] false 2)
      oneDecided removedRow emptied := by
  have truncated : Table.TableCall.perform Table.TableOps.reference 2 (.truncate Table.Range.default)
      oneDecided.owner = .ok ⟨⟩ emptied.owner := eq_ok_of_succeeded (by decide +kernel)
  have removes : (HandleWrite.truncate Table.Range.default).cells Table.TableOps.reference 2
      oneDecided.state = removedRow := by
    decide +kernel
  have narrows : (HandleWrite.truncate Table.Range.default : HandleWrite Signature.data).narrow
      Table.RangeOps.reference Table.Range.default = some (.truncate Table.Range.default) := rfl
  refine Through.nothing.call ⟨.truncate Table.Range.default, ?_, removes.symm⟩
  rw [HandleWrite.perform_slice _ _ narrows]
  exact congrArg (rewrap _) truncated

theorem decisions_reach_labelled :
    (exists last, DecisionsReach (Tree.treeDriver StreamOps.reference numberColumn)
      (fun owner => (.btree (aboveEight.withTree owner) :
        Collection ValueForms.data numberColumn Table.labelledSchema Unit))
      1 [.put [Datum.number 7] ()] last) ∧
    (exists last, DecisionsReach (Table.tableDriver Table.TableOps.reference Table.labelledSchema)
      (fun owner => (.table (.file owner) :
        Collection ValueForms.data numberColumn Table.labelledSchema Unit))
      2 removedRow last) ∧
    (DecisionsReach (Table.tableDriver Table.TableOps.reference Table.labelledSchema)
        (fun owner => (.table (sliceOf Table.Range.default [] false owner) :
          Collection ValueForms.data numberColumn Table.labelledSchema Unit))
        2 removedRow emptied <->
      AlreadyDecided 2 removedRow emptied.state) := by
  have inserted : mapError OpError.lock (Tree.insertRow 1 [Datum.number 7])
      (Config.start (Tree.BTreeLock.empty : Tree.BTreeLock numberColumn)).owner = .ok ⟨⟩ _ :=
    eq_ok_of_succeeded (by decide +kernel)
  have deleted : Table.TableCall.perform Table.TableOps.reference 2 (.deleteRow [Datum.number 7])
      oneDecided.owner = .ok ⟨⟩ _ := eq_ok_of_succeeded (by decide +kernel)
  have insertion : TreeWrite.perform 1 (.insert Datum.none (Datum.tuple [Datum.number 7]))
      (aboveEight.withTree (Config.start (Tree.BTreeLock.empty : Tree.BTreeLock numberColumn)).owner) =
        .ok ⟨⟩ (aboveEight.withTree _) :=
    congrArg (rewrap _) inserted
  have deletion : HandleWrite.perform Table.TableOps.reference Table.RangeOps.reference 2
      (.deleteRow [Datum.number 7]) (.file oneDecided.owner) = .ok ⟨⟩ (.file _) :=
    congrArg (rewrap _) deleted
  have throughView : Through (Tree.treeDriver StreamOps.reference numberColumn) 1
      (treeCalls aboveEight 1) (Config.start Tree.BTreeLock.empty) ([] ++ [.put [Datum.number 7] ()]) _ :=
    Through.nothing.call ⟨_, [Datum.number 7], rfl, insertion, rfl⟩
  have throughTable : Through (Table.tableDriver Table.TableOps.reference Table.labelledSchema) 2
      (fileCalls Table.TableOps.reference Table.RangeOps.reference 2) oneDecided ([] ++ removedRow) _ :=
    Through.nothing.call ⟨_, deletion, rfl⟩
  rcases decisions_reach ValueForms.data numberColumn Table.labelledSchema Unit with ⟨trees, tables⟩
  have view := trees _ aboveEight _ _ 1 _ (Reachable.start Tree.BTreeLock.empty) throughView
  rcases tables Table.TableOps.reference Table.RangeOps.reference oneDecided emptied 2 removedRow
    oneDecided_reachable with ⟨_, slices⟩
  have table := (tables _ Table.RangeOps.reference _ _ 2 _ oneDecided_reachable).1 (by decide) throughTable
  exact ⟨⟨_, view⟩, ⟨_, table⟩, slices Table.Range.default [] false emptied_through_slice⟩

/-- A commit through a slice succeeds without reaching anybody. -/
theorem not_decisions_reach_slice :
    ¬ forall (first last : Config (Table.Delta Table.labelledSchema)
        (Table.TableLock Table.labelledSchema) (Key Signature.data)) (txn : TxnId)
      (log : List (CellWrite (Key Signature.data) (List Signature.data.Value))),
      Reachable (Table.tableDriver Table.TableOps.reference Table.labelledSchema) first ->
      Through (Table.tableDriver Table.TableOps.reference Table.labelledSchema) txn
        (sliceCalls Table.TableOps.reference Table.RangeOps.reference Table.Range.default [] false txn)
        first log last ->
      DecisionsReach (Table.tableDriver Table.TableOps.reference Table.labelledSchema)
        (fun owner => (.table (sliceOf Table.Range.default [] false owner) :
          Collection ValueForms.data numberColumn Table.labelledSchema Unit))
        txn log last := by
  intro claimed
  have reaches := claimed oneDecided emptied 2 removedRow oneDecided_reachable emptied_through_slice
  have silent : forall layer, 2 < layer -> layer <= 3 ->
      emptied.state.decidedOverlay layer [Datum.number 7] = none := by
    intro layer above below
    rw [Nat.le_antisymm below above]
    decide +kernel
  have published := reaches.publishes emptied.owner rfl 3 (by decide) [Datum.number 7] none
    (by decide +kernel) silent (by decide +kernel)
  have visible : emptied.state.view 3 [Datum.number 7] ≠ none := by
    decide +kernel
  exact visible published.1

end Contract
end TransactionalCollection
