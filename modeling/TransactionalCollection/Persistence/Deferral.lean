import TransactionalCollection.Persistence.Reservation
import TransactionalCollection.Persistence.Serial

namespace TransactionalCollection
namespace Persistence

open Layering Native Execution

/-!
# Deferred removals under reservations

A removal without a trace is undone when an earlier transaction binds the key
and commits afterwards.  As long as the removing transaction is open this
cannot happen, since it has reserved the key.  Once it has committed, its
reservation is gone and nothing stands in the way of the earlier transaction.
-/

variable {D Native K V : Type} [DecidableEq K] [PersistentDelta D Native] [StoredMap Native K V]
  [LayeredDelta D Native K V] {driver : Driver D Native K} {cell : driver.Op -> CellWrite K V}
  {config : Config D Native K} {ledger : Ledger driver.Op}

/-- A successful mutation has reserved its range, the key it writes among it. -/
structure Reserves (driver : Driver D Native K) (cell : driver.Op -> CellWrite K V) : Prop where
  holds : forall (txn : TxnId) (op : driver.Op) (before after : CollectionOwner D Native K),
    (forall delta, before.state.pending[txn]? = some delta -> Separate delta) ->
    driver.mutate txn op before = .ok ⟨⟩ after ->
      after.semaphore.HoldsWrite txn (driver.range op)
  covers : forall op, (driver.range op).Covers (cell op).key

/-- An open transaction still holds what it has written. -/
def Backed (config : Config D Native K) (ledger : Ledger driver.Op) : Prop :=
  forall txn op, op ∈ ledger.openLog txn -> config.semaphore.HoldsWrite txn (driver.range op)

theorem Backed.mutated (backed : Backed config ledger) (reserves : Reserves driver cell)
    (sound : Sound config) (txn : TxnId) (op : driver.Op) :
    Backed { config with owner := finalState (driver.mutate txn op config.owner) }
      (note driver config (.mutate txn op) ledger) := by
  have admitted := driver.admits txn op config.owner
  have keeps : forall other range, config.semaphore.HoldsWrite other range ->
      (finalState (driver.mutate txn op config.owner)).semaphore.HoldsWrite other range := by
    intro other range holds
    rcases admitted with same | ⟨granted, _⟩
    · rw [same]
      exact holds
    · rw [(Semaphore.tryWrite_eq_ok_iff.mp granted).2]
      exact (Semaphore.add_write_holdsWrite ..).mpr (Or.inr holds)
  intro other logged member
  rw [note] at member
  change (finalState (driver.mutate txn op config.owner)).semaphore.HoldsWrite other _
  cases outcome : driver.mutate txn op config.owner with
  | error error after =>
      rw [outcome] at member keeps
      exact keeps _ _ (backed other logged member)
  | ok value after =>
      rw [outcome, succeeded_ok, if_pos rfl, Ledger.record_openLog] at member
      rw [outcome] at keeps
      split at member
      · rename_i same
        subst same
        rcases List.mem_append.mp member with earlier | here
        · exact keeps _ _ (backed txn logged earlier)
        · rw [List.mem_singleton.mp here]
          exact reserves.holds txn op config.owner after (sound.pendingSeparate txn) outcome
      · exact keeps _ _ (backed other logged member)

theorem step_backed (reads : ReadsOnly driver) (reserves : Reserves driver cell)
    (sound : Sound config) (backed : Backed config ledger) (action : Action driver) :
    Backed (step driver config action) (note driver config action ledger) := by
  have transition := step_transition driver config action
  generalize step driver config action = after at transition ⊢
  cases transition with
  | idle _ notMutation notDecision notEnd =>
      rw [note_idle notMutation notDecision notEnd]
      exact backed
  | mutated txn op => exact backed.mutated reserves sound txn op
  | passed event =>
      rcases reads event config.owner.semaphore with ⟨txn, range, same⟩
      intro other op member
      change (driver.passes event config.owner.semaphore).HoldsWrite other _
      rw [same, Semaphore.read_holdsWrite]
      exact backed other op member
  | committed txn undecided =>
      intro other op member
      rw [note, if_pos undecided, Ledger.commit_openLog] at member
      split at member
      · exact absurd member List.not_mem_nil
      · exact (Semaphore.finalize_holdsWrite ..).mpr ⟨backed other op member, Ne.symm ‹_›⟩
  | discarded txn undecided =>
      intro other op member
      rw [note, if_pos undecided, Ledger.rollback_openLog] at member
      split at member
      · exact absurd member List.not_mem_nil
      · exact (Semaphore.finalize_holdsWrite ..).mpr ⟨backed other op member, Ne.symm ‹_›⟩
  | began cutoff free fresh => exact backed
  | wrote cutoff write remaining underway => exact backed
  | swapped cutoff underway =>
      intro other op member
      simp only [note, underway, Ledger.discardThrough_openLog] at member
      split at member
      · exact (Semaphore.finalize_holdsWrite ..).mpr ⟨backed other op member, ‹_›⟩
      · exact absurd member List.not_mem_nil

/-- A commit binds no key which a later transaction, already committed, has
removed without a trace, unless a transaction committed in between answers it. -/
def RevealsNothing (cell : driver.Op -> CellWrite K V) (config : Config D Native K)
    (ledger : Ledger driver.Op) (action : Action driver) : Prop :=
  forall txn, action = .commit txn -> config.undecided txn = true ->
    forall (key : K) (value : V) (later : TxnId),
      config.state.ownOverlay txn key = some (some value) -> txn < later ->
      Deferred (config.state.decidedOverlay later)
        (Ledger.answersOf cell (ledger.decidedLog later)) key ->
      exists between, txn < between ∧ between < later ∧ config.state.decidedOverlay between key ≠ none

/-- The first commit of a ledger is in nobody's way. -/
theorem revealsNothing_of_uncommitted (nobody : ledger.committed = ∅) (action : Action driver) :
    RevealsNothing cell config ledger action := by
  intro txn _ _ key value later _ _ deferred
  have removed := deferred.2
  rw [Ledger.decidedLog, nobody, Std.ExtTreeMap.getElem?_empty] at removed
  cases removed

theorem note_mutate_committed (config : Config D Native K) (txn : TxnId) (op : driver.Op) :
    (note driver config (.mutate txn op) ledger).committed = ledger.committed := by
  rw [note]
  split <;> rfl

omit [PersistentDelta D Native] [StoredMap Native K V] [LayeredDelta D Native K V] in
/-- A log answers only the keys it writes. -/
theorem exists_op_of_answer {Op : Type} {cell : Op -> CellWrite K V} {log : List Op} {key : K}
    (answered : Ledger.answersOf cell log key ≠ none) : exists op, op ∈ log ∧ (cell op).key = key := by
  by_contra nobody
  push Not at nobody
  refine answered ((effect_eq_none_iff _ _).mpr ?_)
  intro write written
  rcases List.mem_map.mp written with ⟨op, member, rfl⟩
  exact nobody op member

/-- Reservations leave only the removals already committed to be undone. -/
theorem stepSafe_of_revealsNothing (reserves : Reserves driver cell) (reserved : Reserved config)
    (backed : Backed config ledger) {action : Action driver}
    (reveals : RevealsNothing cell config ledger action) : StepSafe cell config ledger action := by
  intro txn commits undecided key value later answered after deferred
  rcases deferred with decided | opened
  · exact reveals txn commits undecided key value later answered after decided
  · rcases exists_op_of_answer (opened.2 ▸ Option.some_ne_none none) with ⟨op, member, same⟩
    have covers : (driver.range op).Covers key := same ▸ reserves.covers op
    have one := reserved.same_writer (answered ▸ Option.some_ne_none _) covers (backed later op member)
    exact absurd one (Nat.ne_of_lt after)

theorem meets_stepSafe (reads : ReadsOnly driver) (reserves : Reserves driver cell)
    (sound : Sound config) (reserved : Reserved config) (backed : Backed config ledger)
    (actions : List (Action driver))
    (reveals : Meets driver (RevealsNothing cell) config ledger actions) :
    Meets driver (StepSafe cell) config ledger actions := by
  induction actions generalizing config ledger with
  | nil => trivial
  | cons action actions inductionHypothesis =>
      exact ⟨stepSafe_of_revealsNothing reserves reserved backed reveals.1,
        inductionHypothesis (step_sound sound action) (step_reserved reads reserved action)
          (step_backed reads reserves sound backed action) reveals.2⟩

theorem Backed.start (canonical : Native) :
    Backed (Config.start canonical : Config D Native K) (Ledger.empty : Ledger driver.Op) := by
  intro txn op member
  rw [Ledger.openLog, Ledger.empty, Std.ExtTreeMap.getElem?_empty] at member
  exact absurd member List.not_mem_nil

end Persistence
end TransactionalCollection
