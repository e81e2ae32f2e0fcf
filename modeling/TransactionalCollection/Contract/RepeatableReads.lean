import TransactionalCollection.BTree.Reads
import TransactionalCollection.Table.Reads
import TransactionalCollection.Table.ValueScan

namespace TransactionalCollection
namespace Contract

open Native Persistence Streaming

/-!
# Repeated reads

A tree and a table are read under the same permits, and both test for emptiness
without one.  A point read of a table looks for the key it reserves where each key column
has a name of its own.
-/

/-- On a tree and on a table alike, a transaction which reads twice is answered
the same, if every step in between keeps the answer: an emptiness test is to be spared by
earlier commits, and a scan of a table is to be exact or left alone by finalizations.
Point reads are those of tables whose key columns have names of their own. -/
theorem reads_repeat {S : Signature} :
    (forall (collate : StreamOps) (schema : Tree.BTreeSchema S)
      (config last : Config (Tree.Delta schema) (Tree.BTreeLock schema) (Key S)) (txn : TxnId)
      (read : Tree.TreeRead S),
      Reachable (Tree.treeDriver collate schema) config ->
      config.owner.Ready txn read.permit ->
      Between (Tree.treeDriver collate schema) txn (Spared read.permit read.scope txn)
        { config with owner := (read.perform collate txn config.owner).2 } last ->
      (read.perform collate txn last.owner).1 = (read.perform collate txn config.owner).1) ∧
    forall (ops : Table.TableOps S) (schema : Table.TableSchema S)
      (config last : Config (Table.Delta schema) (Table.TableLock schema) (Key S)) (txn : TxnId)
      (read : Table.TableRead S),
      ops.streams.Stable ->
      (read.scan = none -> schema.KeysDistinct) ->
      Reachable (Table.tableDriver ops schema) config ->
      config.owner.Ready txn read.permit ->
      Between (Table.tableDriver ops schema) txn
        (read.Kept txn (config.state.visibleSnapshot txn) (last.state.visibleSnapshot txn))
        { config with owner := (read.perform ops txn config.owner).2 } last ->
      (read.perform ops txn last.owner).1 = (read.perform ops txn config.owner).1 :=
  ⟨fun _ _ _ _ _ _ reachable ready between => Tree.TreeRead.repeats reachable ready between,
    fun _ _ _ _ _ _ stable distinct reachable ready between =>
      Table.TableRead.repeats stable distinct reachable ready between⟩

/-! ## Runs between two reads -/

section Runs

abbrev numberTree := Tree.treeDriver StreamOps.reference Tree.unarySchema

abbrev numberTable := Table.tableDriver Table.TableOps.reference Table.pairSchema

/-- The first transaction has inserted a key and is undecided. -/
def undecided : Config (Tree.Delta Tree.unarySchema) (Tree.BTreeLock Tree.unarySchema)
    (Key Signature.numbers) :=
  run numberTree (Config.start Tree.BTreeLock.empty) [.mutate 1 (.insertRow [Signature.number 7])]

theorem undecided_reachable : Reachable numberTree undecided := Reachable.run (Reachable.start _) _

/-- The first transaction has committed. -/
def decided : Config (Tree.Delta Tree.unarySchema) (Tree.BTreeLock Tree.unarySchema)
    (Key Signature.numbers) :=
  step numberTree undecided (.commit 1)

/-- A later transaction inserts a key and commits. -/
def laterInsert : List (Action numberTree) := [.mutate 3 (.insertRow [Signature.number 8]), .commit 3]

/-- Both versions of a row are merged into canonical storage. -/
def merging : List (Action numberTable) :=
  [.finalizeBegin 2, .finalizeWrite, .finalizeWrite, .finalizeEnd]

/-- A table with two versions of a row after a read of the third transaction. -/
def afterReading (read : Table.TableRead Signature.numbers) :
    Config (Table.Delta Table.pairSchema) (Table.TableLock Table.pairSchema) (Key Signature.numbers) :=
  { Table.overwritten with
    owner := (read.perform Table.TableOps.reference 3 Table.overwritten.owner).2 }

/-- A scan of all rows. -/
def allRows : Table.TableRead Signature.numbers := .rows Table.Range.default [] false

/-- A scan of the rows of value one. -/
def rowsOfOne : Table.TableRead Signature.numbers := .rows Table.valueOne [] false

/-- The second transaction counts twice around a later insertion, and the third
scans a table twice around a finalization. -/
theorem reads_repeat_counting :
    (Tree.TreeRead.count.perform StreamOps.reference 2
          (run numberTree { decided with owner := decided.owner.permitted 2 (some .all) }
            laterInsert).owner).1 =
        (Tree.TreeRead.count.perform StreamOps.reference 2 decided.owner).1 ∧
      (allRows.perform Table.TableOps.reference 3
          (run numberTable (afterReading allRows) merging).owner).1 =
        (allRows.perform Table.TableOps.reference 3 Table.overwritten.owner).1 := by
  constructor
  · refine reads_repeat.1 _ _ decided _ 2 .count (undecided_reachable.step _) ?_ (Between.run ?_)
    · rintro range same
      cases same
      decide +kernel
    · exact ⟨by decide, nofun, by decide, nofun, trivial⟩
  · have exactly : forall snapshot : Table.TableSnapshot Table.pairSchema, allRows.Exact snapshot := by
      rintro snapshot range order reverse scans
      cases scans
      exact Or.inl ⟨rfl, fun _ _ => rfl⟩
    refine reads_repeat.2 _ _ Table.overwritten _ 3 allRows StreamOps.reference_stable
      (fun _ => by decide) Table.overwritten_reachable ?_ (Between.run ?_)
    · rintro range same
      cases same
      decide +kernel
    · exact ⟨by decide, ⟨nofun, Or.inr ⟨exactly _, exactly _⟩⟩,
        by decide +kernel, ⟨nofun, Or.inr ⟨exactly _, exactly _⟩⟩,
        by decide +kernel, ⟨nofun, Or.inr ⟨exactly _, exactly _⟩⟩,
        by decide +kernel, ⟨nofun, Or.inr ⟨exactly _, exactly _⟩⟩, trivial⟩

/-- A tree is empty for the second transaction, and not any more once the first
has committed.  The rows of value one which the third transaction sees are gone
after a finalization. -/
theorem not_reads_repeat :
    (Reachable numberTree undecided ∧
      undecided.owner.Ready 2 (Tree.TreeRead.isEmpty : Tree.TreeRead Signature.numbers).permit ∧
      Between numberTree 2 (fun _ _ => True) undecided decided ∧
      (Tree.TreeRead.isEmpty.perform StreamOps.reference 2 decided.owner).1 ≠
        (Tree.TreeRead.isEmpty.perform StreamOps.reference 2 undecided.owner).1) ∧
    Reachable numberTable Table.overwritten ∧
      Table.overwritten.owner.Ready 3 rowsOfOne.permit ∧
      Between numberTable 3 (fun _ _ => True) (afterReading rowsOfOne)
        (run numberTable (afterReading rowsOfOne) merging) ∧
      (rowsOfOne.perform Table.TableOps.reference 3
          (run numberTable (afterReading rowsOfOne) merging).owner).1 ≠
        (rowsOfOne.perform Table.TableOps.reference 3 Table.overwritten.owner).1 := by
  refine ⟨⟨undecided_reachable, ?_, ?_, ?_⟩, Table.overwritten_reachable, ?_, ?_, ?_⟩
  · intro range impossible
    cases impossible
  · exact Between.nothing.step _ (by decide) trivial
  · have before : Tree.isEmpty StreamOps.reference 2 undecided.owner = true := by decide +kernel
    have after : Tree.isEmpty StreamOps.reference 2 decided.owner = false := by decide +kernel
    change Tree.TreeAnswer.found _ ≠ Tree.TreeAnswer.found _
    rw [before, after]
    intro same
    cases same
  · rintro range same
    cases same
    decide +kernel
  · exact Between.run ⟨by decide, trivial, by decide +kernel, trivial, by decide +kernel, trivial,
      by decide +kernel, trivial, trivial⟩
  · have before : Table.scanned Table.TableOps.reference
        (Table.overwritten.owner.state.visibleSnapshot 3) Table.valueOne [] false =
          [[Signature.number 7, Signature.number 1]] := by decide +kernel
    have after : Table.scanned Table.TableOps.reference
        ((run numberTable (afterReading rowsOfOne) merging).owner.state.visibleSnapshot 3)
          Table.valueOne [] false = [] := by decide +kernel
    have answers : forall owner : Table.PersistentTable Table.pairSchema,
        (rowsOfOne.perform Table.TableOps.reference 3 owner).1 = .yielded
          (.ok (Table.scanned Table.TableOps.reference (owner.state.visibleSnapshot 3)
            Table.valueOne [] false)) :=
      fun owner => congrArg Table.TableAnswer.yielded
        (Table.openRows_supported rfl (owner.state.visibleSnapshot 3) false)
    rw [answers, answers, before, after]
    intro same
    cases same

end Runs

end Contract
end TransactionalCollection
