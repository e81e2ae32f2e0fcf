import TransactionalCollection.Persistence.Repeat

namespace TransactionalCollection
namespace Persistence

open Layering Native Execution

/-!
# Staged replacements

A restoration stages one delta which shows the source over whatever has been
decided.  Until the transaction is decided nobody else sees it, a rollback drops
it, and a commit with a finalization after it turns canonical storage into what
it shows.  None of this depends on what the transaction had pending before.
-/

variable {D Native K V : Type} [PersistentDelta D Native] [StoredMap Native K V]
  [LayeredDelta D Native K V]

namespace State

variable {state : State D Native} {txn : TxnId}

omit [PersistentDelta D Native] [StoredMap Native K V] [LayeredDelta D Native K V] in
theorem setPending_visibleSnapshot (state : State D Native) (delta : D) {reader : TxnId}
    (different : reader ≠ txn) :
    (state.setPending txn delta).visibleSnapshot reader = state.visibleSnapshot reader := by
  rw [visibleSnapshot, visibleSnapshot, setPending_pending, if_neg (Ne.symm different)]
  rfl

theorem setPending_read (state : State D Native) (txn : TxnId) (delta : D) :
    (state.setPending txn delta).view txn = (overlay delta).read (state.settledView txn) := by
  rw [view_eq, ownOverlay, setPending_self]
  rfl

/-- Without a pending delta a transaction sees what has been decided. -/
theorem view_of_closed (closed : state.pending[txn]? = none) : state.view txn = state.settledView txn := by
  rw [view_eq, ownOverlay, closed]
  rfl

theorem discardPending_settledView (state : State D Native) (txn : TxnId) :
    (state.discardPending txn).view txn = state.settledView txn := by
  apply view_of_closed
  rw [discardPending_pending, if_pos rfl]

/-- A first commit leaves its own transaction's view alone, and from then on this
view is decided. -/
theorem recordCommit_settledView (undecided : state.committed[txn]? = none) :
    (state.recordCommit txn).settledView txn = state.view txn := by
  rw [settledView_eq_viewBefore, viewBefore_succ, recordCommit_decidedOverlay, if_pos rfl,
    recordCommit_viewBefore state (Nat.le_refl txn), view_eq_viewBefore,
    viewBefore_succ_of_absent undecided]

end State

/-- A delta built by hiding what has been decided and laying a log over that shows
what the log builds from nothing. -/
theorem read_of_hides [DecidableEq K] {seeded delta : D} {log : List (CellWrite K V)}
    {settled goal : View K V} (seeds : overlay seeded = Overlay.hides settled)
    (laid : overlay delta = lay log (overlay seeded)) (builds : replay log (fun _ => none) = goal) :
    (overlay delta).read settled = goal := by
  rw [laid, lay_read, seeds, Overlay.hides_read, builds]

/-- Nothing of a transaction's own, and nothing visible, has changed. -/
structure Unmoved (txn : TxnId) (before after : State D Native) : Prop where
  pending : after.pending[txn]? = before.pending[txn]?
  views : forall reader, after.view reader = before.view reader

theorem Unmoved.of_eq (txn : TxnId) {before after : State D Native} (same : after = before) :
    Unmoved txn before after := by
  subst same
  exact ⟨rfl, fun _ => rfl⟩

/-! ## Decisions of the owner -/

section Decisions

variable {owner : CollectionOwner D Native K} {txn : TxnId}

omit [StoredMap Native K V] [LayeredDelta D Native K V] [PersistentDelta D Native] in
theorem CollectionOwner.commit_of_writable (writable : owner.state.assertWritable txn = .ok ()) :
    CollectionOwner.commit txn owner =
      .ok () ⟨owner.state.recordCommit txn, owner.semaphore.finalize txn false⟩ := by
  rcases State.assertWritable_eq_ok_iff.mp writable with ⟨fresh, absent⟩
  rw [CollectionOwner.commit, fresh, ← Std.ExtTreeMap.isSome_getElem?_eq_contains, absent]
  rfl

omit [StoredMap Native K V] [LayeredDelta D Native K V] [PersistentDelta D Native] in
theorem CollectionOwner.rollback_of_writable (writable : owner.state.assertWritable txn = .ok ()) :
    CollectionOwner.rollback txn owner =
      .ok () ⟨owner.state.discardPending txn, owner.semaphore.finalize txn false⟩ := by
  rcases State.assertWritable_eq_ok_iff.mp writable with ⟨fresh, absent⟩
  rw [CollectionOwner.rollback, fresh, ← Std.ExtTreeMap.isSome_getElem?_eq_contains, absent]
  rfl

end Decisions

variable [DecidableEq K] {driver : Driver D Native K} {config : Config D Native K} {txn : TxnId}

/-! ## Steps of others -/

/-- Undisturbed steps leave a transaction's own entries alone, and do not pass
it with the frontier. -/
theorem step_entries {action : Action driver} (undisturbed : Undisturbed txn config action) :
    (step driver config action).state.pending[txn]? = config.state.pending[txn]? ∧
      (step driver config action).state.committed[txn]? = config.state.committed[txn]? ∧
      (config.state.outdated txn = false -> (step driver config action).state.outdated txn = false) := by
  have transition := step_transition driver config action
  generalize step driver config action = after at transition ⊢
  cases transition with
  | idle | passed | began | wrote => exact ⟨rfl, rfl, id⟩
  | mutated other op =>
      have moved := (driver.admits other op config.owner).mutates
      refine ⟨moved.others txn (Ne.symm undisturbed), ?_, ?_⟩
      · change (finalState (driver.mutate other op config.owner)).state.committed[txn]? = _
        rw [moved.committed]
        rfl
      · intro fresh
        exact (State.outdated_of_finalized moved.finalized txn).trans fresh
  | committed other undecided =>
      refine ⟨?_, ?_, id⟩
      · exact (State.recordCommit_pending config.state other txn).trans (if_neg undisturbed)
      · exact (State.recordCommit_committed config.state other txn).trans (if_neg undisturbed)
  | discarded other =>
      refine ⟨?_, rfl, id⟩
      exact (State.discardPending_pending config.state other txn).trans (if_neg undisturbed)
  | swapped cutoff underway =>
      have earlier := undisturbed cutoff _ underway
      refine ⟨?_, ?_, ?_⟩
      · exact (State.finalizeSwap_pending config.state cutoff txn).trans (if_pos earlier)
      · exact (State.finalizeSwap_committed config.state cutoff txn).trans (if_pos earlier)
      · intro _
        exact State.finalizeSwap_ahead earlier

theorem Between.entries {condition : Config D Native K -> Action driver -> Prop}
    {first last : Config D Native K} (between : Between driver txn condition first last) :
    last.state.pending[txn]? = first.state.pending[txn]? ∧
      last.state.committed[txn]? = first.state.committed[txn]? ∧
      (first.state.outdated txn = false -> last.state.outdated txn = false) := by
  induction between with
  | nothing => exact ⟨rfl, rfl, id⟩
  | step _ action undisturbed _ inductionHypothesis =>
      rcases inductionHypothesis with ⟨pending, committed, fresh⟩
      rcases step_entries undisturbed with ⟨stepPending, stepCommitted, stepFresh⟩
      exact ⟨stepPending.trans pending, stepCommitted.trans committed, fun start => stepFresh (fresh start)⟩
  | stopped _ inductionHypothesis => exact inductionHypothesis

/-! ## The life of a replacement -/

/-- No write of the transaction itself, no decision about it, and no commit of an
earlier transaction which has written anything. -/
def Quietly (driver : Driver D Native K) (txn : TxnId) (first last : Config D Native K) : Prop :=
  Between driver txn (Spares (fun _ => True) txn) first last

/-- The owner shows the goal to the transaction, and what it showed before to all
others.  A rollback leaves what is visible without the transaction; a commit and
a finalization through it leave the goal in canonical storage. -/
structure Replaces (driver : Driver D Native K) (txn : TxnId) (goal : View K V)
    (config : Config D Native K) (after : CollectionOwner D Native K) : Prop where
  shows : after.state.view txn = goal
  others : forall reader, reader ≠ txn -> after.state.view reader = config.state.view reader
  rollsBack : exists undone, CollectionOwner.rollback txn after = .ok () undone ∧
    forall reader, undone.state.view reader =
      if reader = txn then config.state.settledView txn else config.state.view reader
  materializes : forall first, Quietly driver txn { config with owner := after } first ->
    first.finalizing = none ->
    exists decided, CollectionOwner.commit txn first.owner = .ok () decided ∧
      forall last, Quietly driver txn { first with owner := decided } last -> last.finalizing = none ->
        exists merged, CollectionOwner.finalize txn last.owner = .ok () merged ∧
          bindings merged.state.persistent = goal

/-- A quiet stretch changes nothing of what the transaction sees. -/
theorem Quietly.view_eq {first last : Config D Native K} (reached : Reachable driver first)
    (quiet : Quietly driver txn first last) : last.state.view txn = first.state.view txn := by
  funext key
  exact Between.view_eq (fun _ _ => id) reached quiet trivial

omit [DecidableEq K] in
/-- A whole finalization leaves what was decided in canonical storage. -/
theorem finalize_bindings {reached : Config D Native K} (sound : Sound reached)
    (fresh : reached.state.outdated txn = false) :
    exists merged, CollectionOwner.finalize txn reached.owner = .ok () merged ∧
      bindings merged.state.persistent = reached.state.settledView txn := by
  refine ⟨_, CollectionOwner.finalize_eq reached.owner fresh, ?_⟩
  exact State.bindings_performAll (sound.separateThrough txn) reached.state.persistent

/-- A transaction which may write still may after a quiet stretch. -/
theorem Quietly.writable {first last : Config D Native K} (quiet : Quietly driver txn first last)
    (writable : first.state.assertWritable txn = .ok ()) : last.state.assertWritable txn = .ok () := by
  rcases State.assertWritable_eq_ok_iff.mp writable with ⟨fresh, absent⟩
  rcases quiet.entries with ⟨_, committed, ahead⟩
  apply State.assertWritable_eq_ok_iff.mpr
  exact ⟨ahead fresh, committed ▸ absent⟩

/-- A commit, and a finalization a quiet stretch later, leave in canonical storage what the transaction sees. -/
theorem commit_materializes {first : Config D Native K} (reached : Reachable driver first)
    (free : first.finalizing = none) (writable : first.state.assertWritable txn = .ok ()) :
    exists decided, CollectionOwner.commit txn first.owner = .ok () decided ∧
      forall last, Quietly driver txn { first with owner := decided } last -> last.finalizing = none ->
        exists merged, CollectionOwner.finalize txn last.owner = .ok () merged ∧
          bindings merged.state.persistent = first.state.view txn := by
  have done := CollectionOwner.commit_of_writable writable
  refine ⟨_, done, ?_⟩
  intro last quiet _
  have committedReached : Reachable driver
      { first with owner := ⟨first.state.recordCommit txn, first.semaphore.finalize txn false⟩ } := by
    have stepped := reached.step (.commit txn)
    rw [Persistence.step, if_pos (by rw [free]; rfl), done] at stepped
    exact stepped
  rcases State.assertWritable_eq_ok_iff.mp writable with ⟨fresh, absent⟩
  rcases quiet.entries with ⟨pending, _, ahead⟩
  have closedFirst : (first.state.recordCommit txn).pending[txn]? = none :=
    (State.recordCommit_pending first.state txn txn).trans (if_pos rfl)
  have closed : last.state.pending[txn]? = none := by
    rw [pending]
    exact closedFirst
  rcases finalize_bindings (quiet.reachable committedReached).sound (ahead fresh) with ⟨merged, finalized, leaves⟩
  refine ⟨merged, finalized, ?_⟩
  rw [leaves, ← State.view_of_closed closed, quiet.view_eq committedReached,
    ← State.recordCommit_settledView absent]
  exact State.view_of_closed closedFirst

/-- Staging a delta which shows the goal over what has been decided replaces
everything the transaction sees. -/
theorem replaces_of_setPending {after : CollectionOwner D Native K} {delta : D} {goal : View K V}
    (reached : Reachable driver { config with owner := after })
    (staged : after.state = config.state.setPending txn delta)
    (writable : config.state.assertWritable txn = .ok ())
    (reads : (overlay delta).read (config.state.settledView txn) = goal) :
    Replaces driver txn goal config after where
  shows := by
    rw [staged, State.setPending_read, reads]
  others := by
    intro reader different
    rw [staged, State.view, State.setPending_visibleSnapshot config.state delta different]
    rfl
  rollsBack := by
    have open_after : after.state.assertWritable txn = .ok () := by
      rw [staged]
      exact writable
    refine ⟨_, CollectionOwner.rollback_of_writable open_after, ?_⟩
    intro reader
    rw [staged]
    by_cases own : reader = txn
    · rw [if_pos own, own, State.discardPending_settledView]
      rfl
    · rw [if_neg own, State.view, discardPending_visibleSnapshot _ (Ne.symm own),
        State.setPending_visibleSnapshot config.state delta own]
      rfl
  materializes := by
    intro first quiet free
    have writableAfter : after.state.assertWritable txn = .ok () := by
      rw [staged]
      exact writable
    have shown : first.state.view txn = goal := by
      rw [quiet.view_eq reached]
      change after.state.view txn = goal
      rw [staged, State.setPending_read, reads]
    rw [← shown]
    exact commit_materializes (quiet.reachable reached) free (quiet.writable writableAfter)

end Persistence
end TransactionalCollection
