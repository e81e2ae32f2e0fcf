import TransactionalCollection.Persistence.Lifecycle

namespace TransactionalCollection
namespace Persistence

open Layering Native Execution

/-!
# The outcomes of a transaction

A commit leaves an entry behind, which refuses every later rollback until the
frontier has passed the transaction and refuses everything.  A rollback leaves
nothing behind.  So the collection itself keeps a committed transaction from
being rolled back, and leaves it to the caller not to commit a transaction
which has been rolled back.
-/

section Decisions

variable {D Native K V : Type} [DecidableEq K] [PersistentDelta D Native] [StoredMap Native K V]
  [LayeredDelta D Native K V] (driver : Driver D Native K)

/-- The call is a decision, it is its turn, and it returns `Ok`. -/
def accepted (config : Config D Native K) : Action driver -> Bool
  | .commit txn => config.finalizing.isNone && succeeded (CollectionOwner.commit txn config.owner)
  | .rollback txn =>
      config.finalizing.isNone && succeeded (CollectionOwner.rollback txn config.owner)
  | _ => false

/-- The run makes this call, and it returns `Ok`. -/
def Accepts (config : Config D Native K) (actions : List (Action driver)) (action : Action driver) :
    Prop :=
  exists before after, actions = before ++ action :: after ∧
    accepted driver (run driver config before) action = true

/-- Neither a mutation of the transaction nor a step of a finalization. -/
def Leaves (txn : TxnId) : Action driver -> Prop
  | .mutate other _ => other ≠ txn
  | .finalizeBegin _ => False
  | .finalizeWrite => False
  | .finalizeEnd => False
  | .traffic _ => True
  | .commit _ => True
  | .rollback _ => True

/-- In a run each transaction has at most one outcome. -/
structure OneOutcome (config : Config D Native K) (actions : List (Action driver)) : Prop where
  decided : forall txn, ¬ (Accepts driver config actions (.commit txn) ∧
    Accepts driver config actions (.rollback txn))
  kept : forall before between after txn op,
    actions = before ++ .mutate txn op :: (between ++ .commit txn :: after) ->
    succeeded (driver.mutate txn op (run driver config before).owner) = true ->
    accepted driver (run driver config (before ++ .mutate txn op :: between)) (.commit txn) = true ->
    ¬ Accepts driver (run driver config (before ++ [.mutate txn op])) between (.rollback txn)
  repeated : forall before between after txn decision,
    decision = .commit txn ∨ decision = .rollback txn ->
    actions = before ++ decision :: (between ++ decision :: after) ->
    accepted driver (run driver config before) decision = true ->
    (forall action, action ∈ between -> Leaves driver txn action) ->
    accepted driver (run driver config (before ++ decision :: between)) decision = true ∧
      forall reader,
        (step driver (run driver config (before ++ decision :: between)) decision).state.visibleSnapshot
            reader =
          (run driver config (before ++ decision :: between)).state.visibleSnapshot reader

/-- After the rollback of a transaction which was still undecided, nobody calls
its commit ahead of the frontier. -/
def NeverCommitsRolledBack (config : Config D Native K) (actions : List (Action driver)) : Prop :=
  forall before between after txn,
    actions = before ++ .rollback txn :: (between ++ .commit txn :: after) ->
    (run driver config before).undecided txn = true ->
    (run driver config (before ++ .rollback txn :: between)).finalizing = none ->
    (run driver config (before ++ .rollback txn :: between)).state.outdated txn = true

end Decisions

section Runs

variable {D Native K V : Type} [DecidableEq K] [PersistentDelta D Native] [StoredMap Native K V]
  [LayeredDelta D Native K V] {driver : Driver D Native K} {config : Config D Native K} {txn : TxnId}

theorem accepted_commit_iff :
    accepted driver config (.commit txn) = true <->
      config.finalizing = none ∧ config.state.outdated txn = false := by
  simp only [accepted, Bool.and_eq_true, Option.isNone_iff_eq_none, CollectionOwner.commit,
    Config.state]
  refine and_congr_right (fun _ => ?_)
  cases config.owner.state.outdated txn <;> cases config.owner.state.committed.contains txn <;> simp

theorem accepted_rollback_iff :
    accepted driver config (.rollback txn) = true <-> config.undecided txn = true := by
  simp only [accepted, Config.undecided, Bool.and_eq_true, CollectionOwner.rollback, Config.state,
    and_assoc]
  refine and_congr_right (fun _ => ?_)
  cases config.owner.state.outdated txn <;> cases config.owner.state.committed.contains txn <;> simp

/-- The transaction can no longer be rolled back. -/
def Decided (config : Config D Native K) (txn : TxnId) : Prop :=
  config.state.outdated txn = true ∨ config.state.committed[txn]? ≠ none

theorem not_accepted_rollback_of_decided (decided : Decided config txn) :
    ¬ accepted driver config (.rollback txn) = true := by
  rw [accepted_rollback_iff, Config.undecided_iff, State.assertWritable_eq_ok_iff]
  rintro ⟨_, fresh, absent⟩
  rcases decided with outdated | present
  · rw [outdated] at fresh
    cases fresh
  · exact present absent

omit [DecidableEq K] in
theorem Decided.congr {after : Config D Native K} (decided : Decided config txn)
    (finalized : after.state.finalized = config.state.finalized)
    (committed : config.state.committed[txn]? ≠ none -> after.state.committed[txn]? ≠ none) :
    Decided after txn := by
  rcases decided with outdated | present
  · exact Or.inl ((State.outdated_of_finalized finalized txn).trans outdated)
  · exact Or.inr (committed present)

theorem step_decided (sound : Sound config) (decided : Decided config txn) (action : Action driver) :
    Decided (step driver config action) txn := by
  have transition := step_transition driver config action
  generalize step driver config action = after at transition ⊢
  cases transition with
  | idle => exact decided
  | mutated other op =>
      have moved := (driver.admits other op config.owner).mutates
      exact decided.congr moved.finalized (fun present => moved.committed ▸ present)
  | passed event => exact decided
  | committed other undecided =>
      refine decided.congr rfl (fun present => ?_)
      change (config.state.recordCommit other).committed[txn]? ≠ none
      rw [State.recordCommit_committed]
      split
      · exact Option.some_ne_none _
      · exact present
  | discarded other undecided => exact decided
  | began cutoff free fresh => exact decided
  | wrote cutoff write remaining underway => exact decided
  | swapped cutoff underway =>
      have fresh := (sound.underway cutoff _ underway).2
      by_cases passed : cutoff < txn
      · refine Or.inr ?_
        change (config.state.finalizeSwap cutoff).committed[txn]? ≠ none
        rw [State.finalizeSwap_committed, if_pos passed]
        rcases decided with outdated | present
        · rcases State.outdated_iff.mp outdated with ⟨frontier, same, behind⟩
          have ahead := State.not_outdated_iff.mp fresh frontier same
          exact absurd (Nat.lt_of_le_of_lt behind ahead) (Nat.lt_asymm passed)
        · exact present
      · exact Or.inl (State.outdated_iff.mpr ⟨cutoff, rfl, Nat.le_of_not_lt passed⟩)

theorem run_decided (sound : Sound config) (decided : Decided config txn)
    (actions : List (Action driver)) : Decided (run driver config actions) txn := by
  induction actions generalizing config with
  | nil => exact decided
  | cons action actions inductionHypothesis =>
      exact inductionHypothesis (step_sound sound action) (step_decided sound decided action)

theorem step_commit_decided (done : accepted driver config (.commit txn) = true) :
    Decided (step driver config (.commit txn)) txn := by
  rcases accepted_commit_iff.mp done with ⟨free, fresh⟩
  rw [step, if_pos (Option.isNone_iff_eq_none.mpr free), commit_finalState config txn free]
  split
  · refine Or.inr ?_
    change (config.state.recordCommit txn).committed[txn]? ≠ none
    rw [State.recordCommit_committed, if_pos rfl]
    exact Option.some_ne_none _
  · rename_i decided
    rw [Config.undecided_iff, State.assertWritable_eq_ok_iff] at decided
    exact Or.inr (fun absent => decided ⟨free, fresh, absent⟩)

/-! ## Repeated decisions -/

/-- A step which leaves the transaction alone changes no frontier. -/
theorem step_leaves {action : Action driver} (leaves : Leaves driver txn action)
    (free : config.finalizing = none) :
    (step driver config action).finalizing = none ∧
      (step driver config action).state.finalized = config.state.finalized := by
  have transition := step_transition driver config action
  generalize step driver config action = after at transition ⊢
  cases transition with
  | idle => exact ⟨free, rfl⟩
  | mutated other op => exact ⟨free, (driver.admits other op config.owner).mutates.finalized⟩
  | passed event => exact ⟨free, rfl⟩
  | committed other undecided => exact ⟨free, rfl⟩
  | discarded other undecided => exact ⟨free, rfl⟩
  | began cutoff => exact False.elim leaves
  | wrote cutoff => exact False.elim leaves
  | swapped cutoff => exact False.elim leaves

theorem run_leaves {actions : List (Action driver)}
    (leaves : forall action, action ∈ actions -> Leaves driver txn action)
    (free : config.finalizing = none) :
    (run driver config actions).finalizing = none ∧
      (run driver config actions).state.finalized = config.state.finalized := by
  induction actions generalizing config with
  | nil => exact ⟨free, rfl⟩
  | cons action actions inductionHypothesis =>
      rcases step_leaves (leaves action List.mem_cons_self) free with ⟨stillFree, sameFrontier⟩
      rcases inductionHypothesis
        (fun later member => leaves later (List.mem_cons_of_mem _ member)) stillFree with
        ⟨lastFree, lastFrontier⟩
      exact ⟨lastFree, lastFrontier.trans sameFrontier⟩

/-- Committed, and ahead of the frontier. -/
structure Settled (config : Config D Native K) (txn : TxnId) : Prop where
  free : config.finalizing = none
  fresh : config.state.outdated txn = false
  present : config.state.committed[txn]? ≠ none

theorem step_settled (sound : Sound config) (settled : Settled config txn) {action : Action driver}
    (leaves : Leaves driver txn action) : Settled (step driver config action) txn := by
  rcases step_leaves leaves settled.free with ⟨free, finalized⟩
  have fresh := (State.outdated_of_finalized finalized txn).trans settled.fresh
  refine ⟨free, fresh, ?_⟩
  rcases step_decided sound (Or.inr settled.present) action with outdated | present
  · rw [outdated] at fresh
    cases fresh
  · exact present

theorem run_settled (sound : Sound config) (settled : Settled config txn)
    {actions : List (Action driver)}
    (leaves : forall action, action ∈ actions -> Leaves driver txn action) :
    Settled (run driver config actions) txn := by
  induction actions generalizing config with
  | nil => exact settled
  | cons action actions inductionHypothesis =>
      exact inductionHypothesis (step_sound sound action)
        (step_settled sound settled (leaves action List.mem_cons_self))
        (fun later member => leaves later (List.mem_cons_of_mem _ member))

theorem settled_repeats (settled : Settled config txn) :
    accepted driver config (.commit txn) = true ∧ step driver config (.commit txn) = config := by
  refine ⟨accepted_commit_iff.mpr ⟨settled.free, settled.fresh⟩, ?_⟩
  have decided : ¬ config.undecided txn = true := by
    rw [Config.undecided_iff, State.assertWritable_eq_ok_iff]
    exact fun undecided => settled.present undecided.2.2
  rw [step, if_pos (Option.isNone_iff_eq_none.mpr settled.free),
    commit_finalState config txn settled.free, if_neg decided]

/-- Rolled back, and nothing written since. -/
structure Cleared (config : Config D Native K) (txn : TxnId) : Prop where
  undecided : config.undecided txn = true
  absent : config.state.pending[txn]? = none

theorem step_rollback_cleared (undecided : config.undecided txn = true) :
    Cleared (step driver config (.rollback txn)) txn := by
  have free := (Config.undecided_iff.mp undecided).1
  rw [step, if_pos (Option.isNone_iff_eq_none.mpr free), rollback_finalState config txn free,
    if_pos undecided]
  refine ⟨undecided, ?_⟩
  change (config.state.discardPending txn).pending[txn]? = none
  rw [State.discardPending_pending, if_pos rfl]

theorem step_cleared (cleared : Cleared config txn) {action : Action driver}
    (leaves : Leaves driver txn action) (notCommit : action ≠ .commit txn) :
    Cleared (step driver config action) txn := by
  have free := (Config.undecided_iff.mp cleared.undecided).1
  have transition := step_transition driver config action
  generalize step driver config action = after at transition ⊢
  cases transition with
  | idle => exact cleared
  | mutated other op =>
      have moved := (driver.admits other op config.owner).mutates
      refine ⟨?_, (moved.others txn (Ne.symm leaves)).trans cleared.absent⟩
      rw [Config.undecided_iff]
      exact ⟨free, (moved.assertWritable txn).trans (Config.undecided_iff.mp cleared.undecided).2⟩
  | passed event => exact ⟨cleared.undecided, cleared.absent⟩
  | committed other undecided =>
      have different : other ≠ txn := fun same => notCommit (congrArg Action.commit same)
      rcases Config.undecided_iff.mp cleared.undecided with ⟨_, writable⟩
      rcases State.assertWritable_eq_ok_iff.mp writable with ⟨fresh, absent⟩
      refine ⟨Config.undecided_iff.mpr ⟨free, State.assertWritable_eq_ok_iff.mpr ⟨fresh, ?_⟩⟩, ?_⟩
      · change (config.state.recordCommit other).committed[txn]? = none
        rw [State.recordCommit_committed, if_neg different, absent]
      · change (config.state.recordCommit other).pending[txn]? = none
        rw [State.recordCommit_pending, if_neg different, cleared.absent]
  | discarded other undecided =>
      refine ⟨cleared.undecided, ?_⟩
      change (config.state.discardPending other).pending[txn]? = none
      rw [State.discardPending_pending]
      split
      · rfl
      · exact cleared.absent
  | began cutoff => exact False.elim leaves
  | wrote cutoff => exact False.elim leaves
  | swapped cutoff => exact False.elim leaves

theorem run_cleared (cleared : Cleared config txn) {actions : List (Action driver)}
    (leaves : forall action, action ∈ actions -> Leaves driver txn action)
    (notCommit : .commit txn ∉ actions) : Cleared (run driver config actions) txn := by
  induction actions generalizing config with
  | nil => exact cleared
  | cons action actions inductionHypothesis =>
      refine inductionHypothesis (step_cleared cleared (leaves action List.mem_cons_self) ?_)
        (fun later member => leaves later (List.mem_cons_of_mem _ member))
        (fun member => notCommit (List.mem_cons_of_mem _ member))
      rintro rfl
      exact notCommit List.mem_cons_self

theorem cleared_repeats (cleared : Cleared config txn) :
    accepted driver config (.rollback txn) = true ∧
      forall reader, (step driver config (.rollback txn)).state.visibleSnapshot reader =
        config.state.visibleSnapshot reader := by
  refine ⟨accepted_rollback_iff.mpr cleared.undecided, fun reader => ?_⟩
  have free := (Config.undecided_iff.mp cleared.undecided).1
  rw [step, if_pos (Option.isNone_iff_eq_none.mpr free), rollback_finalState config txn free,
    if_pos cleared.undecided]
  change (config.state.discardPending txn).visibleSnapshot reader = _
  have samePending : (config.state.discardPending txn).pending[reader]? =
      config.state.pending[reader]? := by
    rw [State.discardPending_pending]
    split
    · rename_i same
      rw [← same, cleared.absent]
    · rfl
  rw [State.visibleSnapshot, State.visibleSnapshot, samePending]
  rfl

/-! ## Whole runs -/

theorem run_split (config : Config D Native K) (before : List (Action driver)) (action : Action driver)
    (between : List (Action driver)) :
    run driver config (before ++ action :: between) =
      run driver (step driver (run driver config before) action) between := by
  rw [run_append]
  rfl

/-- Two calls of one run come in one order or the other. -/
theorem accepts_order {actions : List (Action driver)} {first second : Action driver}
    (firstAccepted : Accepts driver config actions first)
    (secondAccepted : Accepts driver config actions second) (different : first ≠ second) :
    (exists before between after, actions = before ++ first :: (between ++ second :: after) ∧
        accepted driver (run driver config before) first = true ∧
        accepted driver (run driver config (before ++ first :: between)) second = true) ∨
      exists before between after, actions = before ++ second :: (between ++ first :: after) ∧
        accepted driver (run driver config before) second = true ∧
        accepted driver (run driver config (before ++ second :: between)) first = true := by
  rcases firstAccepted with ⟨earlier, later, split, firstDone⟩
  rcases secondAccepted with ⟨earlier', later', split', secondDone⟩
  rcases List.append_eq_append_iff.mp (split.symm.trans split') with
    ⟨between, same, rest⟩ | ⟨between, same, rest⟩
  · cases between with
    | nil => exact absurd (List.cons.inj rest).1 different
    | cons head between =>
        rcases List.cons.inj rest with ⟨rfl, rfl⟩
        exact Or.inl ⟨earlier, between, later', split, firstDone, same ▸ secondDone⟩
  · cases between with
    | nil => exact absurd (List.cons.inj rest).1.symm different
    | cons head between =>
        rcases List.cons.inj rest with ⟨rfl, rfl⟩
        exact Or.inr ⟨earlier', between, later, split', secondDone, same ▸ firstDone⟩

theorem not_both_accepted (sound : Sound config) {actions : List (Action driver)}
    (never : NeverCommitsRolledBack driver config actions) (txn : TxnId) :
    ¬ (Accepts driver config actions (.commit txn) ∧ Accepts driver config actions (.rollback txn)) := by
  rintro ⟨commits, rollsBack⟩
  rcases accepts_order commits rollsBack (by simp) with
    ⟨before, between, after, _, committed, rolledBack⟩ |
      ⟨before, between, after, split, rolledBack, committed⟩
  · rw [run_split] at rolledBack
    exact not_accepted_rollback_of_decided (run_decided (step_sound (run_sound sound before) _)
      (step_commit_decided committed) between) rolledBack
  · rcases accepted_commit_iff.mp committed with ⟨free, fresh⟩
    have outdated := never before between after txn split (accepted_rollback_iff.mp rolledBack) free
    rw [fresh] at outdated
    cases outdated

theorem rollback_repeats {before between after : List (Action driver)}
    (never : NeverCommitsRolledBack driver config
      (before ++ .rollback txn :: (between ++ .rollback txn :: after)))
    (done : accepted driver (run driver config before) (.rollback txn) = true)
    (leaves : forall action, action ∈ between -> Leaves driver txn action) :
    Cleared (run driver config (before ++ .rollback txn :: between)) txn := by
  have cleared : Cleared (step driver (run driver config before) (.rollback txn)) txn :=
    step_rollback_cleared (accepted_rollback_iff.mp done)
  rw [run_split]
  refine run_cleared cleared leaves (fun member => ?_)
  -- a commit in between would meet a frontier which nothing has moved
  rcases List.append_of_mem member with ⟨early, late, rfl⟩
  rcases Config.undecided_iff.mp cleared.undecided with ⟨free, writable⟩
  rcases run_leaves
    (fun action earlyMember => leaves action (List.mem_append_left _ earlyMember)) free with
    ⟨stillFree, frontier⟩
  have outdated := never before early (late ++ .rollback txn :: after) txn (by simp)
    (accepted_rollback_iff.mp done) (by rw [run_split]; exact stillFree)
  have fresh := (State.outdated_of_finalized frontier txn).trans
    (State.assertWritable_eq_ok_iff.mp writable).1
  rw [run_split, fresh] at outdated
  cases outdated

/-- A run gives each transaction at most one outcome if and only if nobody
commits a transaction, still ahead of the frontier, which has been rolled back. -/
theorem oneOutcome_iff_neverCommitsRolledBack (sound : Sound config) (actions : List (Action driver)) :
    OneOutcome driver config actions <-> NeverCommitsRolledBack driver config actions := by
  constructor
  · intro outcome before between after txn split undecided free
    by_contra fresh
    refine outcome.decided txn ⟨⟨before ++ .rollback txn :: between, after, by simp [split], ?_⟩,
      ⟨before, between ++ .commit txn :: after, split, accepted_rollback_iff.mpr undecided⟩⟩
    exact accepted_commit_iff.mpr ⟨free, Bool.eq_false_of_not_eq_true fresh⟩
  · intro never
    refine ⟨not_both_accepted sound never, ?_, ?_⟩
    · rintro before between after txn op split _ committed ⟨early, late, rfl, rolledBack⟩
      refine not_both_accepted sound never txn
        ⟨⟨before ++ .mutate txn op :: (early ++ .rollback txn :: late), after, by simp [split],
            committed⟩,
          ⟨before ++ .mutate txn op :: early, late ++ .commit txn :: after, by simp [split], ?_⟩⟩
      rw [← run_append] at rolledBack
      simpa using rolledBack
    · intro before between after txn decision isDecision split done leaves
      subst split
      rcases isDecision with rfl | rfl
      · rcases accepted_commit_iff.mp done with ⟨free, fresh⟩
        have settled : Settled (step driver (run driver config before) (.commit txn)) txn := by
          have untouched : Leaves driver txn (.commit txn) := trivial
          rcases step_leaves untouched free with ⟨stillFree, frontier⟩
          have stillFresh := (State.outdated_of_finalized frontier txn).trans fresh
          refine ⟨stillFree, stillFresh, ?_⟩
          rcases step_commit_decided done with outdated | present
          · rw [outdated] at stillFresh
            cases stillFresh
          · exact present
        have lasting := run_settled (step_sound (run_sound sound before) _) settled leaves
        rw [run_split]
        exact ⟨(settled_repeats lasting).1, fun reader => by rw [(settled_repeats lasting).2]⟩
      · exact cleared_repeats (rollback_repeats never done leaves)

end Runs

end Persistence
end TransactionalCollection
