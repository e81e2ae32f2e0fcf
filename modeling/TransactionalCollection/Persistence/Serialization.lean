import TransactionalCollection.Layering.Meaning
import TransactionalCollection.Persistence.Attempts
import TransactionalCollection.Persistence.Holding

namespace TransactionalCollection
namespace Persistence

open Std (ExtTreeMap)
open Layering Native Execution

/-!
# Whole operations, one transaction after another

An operation may rewrite every row of a range, and what it writes depends on what it
sees.  It has reserved whatever it depends on, so nobody can commit below it as long
as its transaction is open.  Once that has committed, its reservations are gone, and
an earlier transaction may commit below it after all.  If transactions whose
operations touch a common key commit in their order, the collection shows every
reader what performing the operations one transaction after another comes to.
-/

section Serialization

variable {D Native K V : Type} [DecidableEq K] [PersistentDelta D Native] [StoredMap Native K V]
  [LayeredDelta D Native K V] {driver : Driver D Native K}

/-- Regular operations touch only what they reserve.  They are performed over what
their transaction sees, or leave it as it is. -/
structure Performs (driver : Driver D Native K) (meaning : Meaning driver.Op K V)
    (Regular : driver.Op -> Prop) : Prop where
  inside : forall op key, meaning.Touches op key -> (driver.range op).Covers key
  success : forall (txn : TxnId) (op : driver.Op) (before after : CollectionOwner D Native K), Regular op ->
    (forall delta, delta ∈ before.state.committedThrough txn -> Separate delta) ->
    (forall delta, before.state.pending[txn]? = some delta -> Separate delta) ->
    driver.mutate txn op before = .ok ⟨⟩ after ->
    before.state.assertWritable txn = .ok () ∧ after.semaphore.HoldsWrite txn (driver.range op) ∧
      meaning.Allows op (before.state.view txn) ∧
      (forall key, after.state.view txn key = meaning.act op key (before.state.view txn key)) ∧
      forall key, ¬ meaning.Touches op key -> after.state.ownOverlay txn key = before.state.ownOverlay txn key
  failure : forall (txn : TxnId) (op : driver.Op) (error : driver.Error)
    (before after : CollectionOwner D Native K), Regular op ->
    (forall delta, before.state.pending[txn]? = some delta -> Separate delta) ->
    driver.mutate txn op before = .error error after ->
    after.state.ownOverlay txn = before.state.ownOverlay txn

/-- A step calls regular operations. -/
def Calls (Regular : driver.Op -> Prop) (action : Action driver) : Prop :=
  forall txn op, action = .mutate txn op -> Regular op

/-- No transaction commits when a later one, whose operations touch a key which its own
touch, has committed already. -/
def CommitsInOrder (meaning : Meaning driver.Op K V) (config : Config D Native K) (ledger : Ledger driver.Op)
    (action : Action driver) : Prop :=
  forall txn, action = .commit txn -> config.undecided txn = true -> forall later, txn < later ->
    ¬ meaning.Conflict (ledger.openLog txn) (ledger.decidedLog later)

/-- Open transactions hold what their operations have reserved. -/
def Holding (config : Config D Native K) (ledger : Ledger driver.Op) : Prop :=
  forall txn op, op ∈ ledger.openLog txn -> config.semaphore.HoldsWrite txn (driver.range op)

/-- The collection has kept up with its ledger, operation by operation. -/
structure Serializes (meaning : Meaning driver.Op K V) (initial : View K V) (config : Config D Native K)
    (ledger : Ledger driver.Op) : Prop where
  served : meaning.Succeeds (ledger.logBefore config.floor) initial
  base : config.state.viewBefore config.floor = ledger.performedBefore meaning initial config.floor
  decided : forall instant, config.floor <= instant ->
    KeepsUp meaning (config.state.viewBefore instant) (config.state.decidedOverlay instant) (ledger.decidedLog instant)
  opened : forall instant, config.floor <= instant ->
    KeepsUp meaning (config.state.viewBefore instant) (config.state.ownOverlay instant) (ledger.openLog instant)
  closed : forall instant, config.floor <= instant ->
    config.state.committed[instant]? ≠ none -> ledger.openLog instant = []

variable {meaning : Meaning driver.Op K V} {Regular : driver.Op -> Prop} {initial : View K V}
  {config : Config D Native K} {ledger : Ledger driver.Op}

namespace Serializes

/-- Ahead of the floor, committed deltas show what their operations come to. -/
theorem viewBefore_eq (serializes : Serializes meaning initial config ledger) {instant : TxnId}
    (ahead : config.floor <= instant) :
    config.state.viewBefore instant = ledger.performedBefore meaning initial instant := by
  induction instant, ahead using Nat.le_induction with
  | base => exact serializes.base
  | succ instant ahead inductionHypothesis =>
      rw [State.viewBefore_succ, Ledger.performedBefore_succ, ← inductionHypothesis]
      exact (serializes.decided instant ahead).shows

/-- And their operations succeed one after another. -/
theorem logBefore_succeeds (serializes : Serializes meaning initial config ledger) {instant : TxnId}
    (ahead : config.floor <= instant) : meaning.Succeeds (ledger.logBefore instant) initial := by
  induction instant, ahead using Nat.le_induction with
  | base => exact serializes.served
  | succ instant ahead inductionHypothesis =>
      rw [Ledger.logBefore_succ, Meaning.succeeds_append]
      have kept := (serializes.decided instant ahead).succeeds
      rw [serializes.viewBefore_eq ahead] at kept
      exact ⟨inductionHypothesis, kept⟩

/-- The whole view of a transaction, open or decided, is what its history comes to. -/
theorem view_eq (serializes : Serializes meaning initial config ledger) (sound : Sound config) {txn : TxnId}
    (ahead : config.floor <= txn) : config.state.view txn = ledger.performed meaning initial txn := by
  have after := serializes.viewBefore_eq (Nat.le_succ_of_le ahead)
  rw [State.view_eq_viewBefore, Ledger.performed_eq, ← after]
  by_cases absent : config.state.committed[txn]? = none
  · rw [State.viewBefore_succ_of_absent absent]
    exact (serializes.opened txn ahead).shows
  · have noDelta : config.state.ownOverlay txn = Overlay.transparent := by
      rw [State.ownOverlay, sound.apart txn absent]
      rfl
    rw [noDelta, serializes.closed txn ahead absent]
    rfl

theorem history_succeeds (serializes : Serializes meaning initial config ledger) {txn : TxnId}
    (ahead : config.floor <= txn) : meaning.Succeeds (ledger.history txn) initial := by
  have after := Nat.le_succ_of_le ahead
  rw [Ledger.history_eq, Meaning.succeeds_append]
  refine ⟨serializes.logBefore_succeeds after, ?_⟩
  change meaning.Succeeds (ledger.openLog txn) (ledger.performedBefore meaning initial (txn + 1))
  rw [← serializes.viewBefore_eq after]
  by_cases absent : config.state.committed[txn]? = none
  · rw [State.viewBefore_succ_of_absent absent]
    exact (serializes.opened txn ahead).succeeds
  · rw [serializes.closed txn ahead absent]
    trivial

/-! ### One step -/

/-- A mutation concerns its own transaction's open log and delta alone. -/
theorem reopened (serializes : Serializes meaning initial config ledger) {txn : TxnId} {range : SetRange K}
    {owner : CollectionOwner D Native K} {after : Ledger driver.Op}
    (moved : Mutates txn range config.state owner.state) (logs : after.committed = ledger.committed)
    (others : forall instant, instant ≠ txn -> after.openLog instant = ledger.openLog instant)
    (own : config.floor <= txn ->
      KeepsUp meaning (config.state.viewBefore txn) (owner.state.ownOverlay txn) (after.openLog txn))
    (undecided : config.state.committed[txn]? ≠ none -> after.openLog txn = ledger.openLog txn) :
    Serializes meaning initial { config with owner := owner } after := by
  have sameFloor : ({ config with owner := owner } : Config D Native K).floor = config.floor :=
    Config.floor_congr rfl moved.finalized
  have sameBefore : forall instant, owner.state.viewBefore instant = config.state.viewBefore instant :=
    State.viewBefore_congr moved.persistent moved.committed
  constructor
  · rw [sameFloor, Ledger.logBefore, logs]
    exact serializes.served
  · rw [sameFloor]
    refine (sameBefore _).trans (serializes.base.trans ?_)
    rw [Ledger.performedBefore, Ledger.performedBefore, Ledger.logBefore, Ledger.logBefore, logs]
  · intro instant ahead
    rw [sameFloor] at ahead
    change KeepsUp meaning (owner.state.viewBefore instant) (owner.state.decidedOverlay instant) _
    rw [sameBefore, State.decidedOverlay_congr moved.committed, Ledger.decidedLog, logs]
    exact serializes.decided instant ahead
  · intro instant ahead
    rw [sameFloor] at ahead
    change KeepsUp meaning (owner.state.viewBefore instant) (owner.state.ownOverlay instant) _
    rw [sameBefore]
    by_cases here : instant = txn
    · subst here
      exact own ahead
    · have sameOwn : owner.state.ownOverlay instant = config.state.ownOverlay instant := by
        rw [State.ownOverlay, State.ownOverlay, moved.others instant here]
      rw [sameOwn, others instant here]
      exact serializes.opened instant ahead
  · intro instant ahead present
    rw [sameFloor] at ahead
    have decided : config.state.committed[instant]? ≠ none := moved.committed ▸ present
    have before := serializes.closed instant ahead decided
    by_cases here : instant = txn
    · subst here
      exact (undecided decided).trans before
    · exact (others instant here).trans before

theorem mutated (serializes : Serializes meaning initial config ledger)
    (performs : Performs driver meaning Regular) (sound : Sound config) (txn : TxnId) {op : driver.Op}
    (regular : Regular op) :
    Serializes meaning initial { config with owner := finalState (driver.mutate txn op config.owner) }
      (note driver config (.mutate txn op) ledger) := by
  have moved := (driver.admits txn op config.owner).mutates
  rw [note]
  cases outcome : driver.mutate txn op config.owner with
  | error error after =>
      rw [outcome] at moved
      refine serializes.reopened moved rfl (fun _ _ => rfl) ?_ (fun _ => rfl)
      intro ahead
      change KeepsUp meaning _ (after.state.ownOverlay txn) _
      rw [performs.failure txn op error config.owner after regular (sound.pendingSeparate txn) outcome]
      exact serializes.opened txn ahead
  | ok value after =>
      rw [outcome] at moved
      rcases performs.success txn op config.owner after regular (sound.separateThrough txn)
        (sound.pendingSeparate txn) outcome with ⟨writable, _, allowed, performed, outside⟩
      have undecided := (State.assertWritable_eq_ok_iff.mp writable).2
      refine serializes.reopened moved rfl ?_ ?_ (fun decided => absurd undecided decided)
      · intro instant different
        exact (Ledger.record_openLog ledger txn instant op).trans (if_neg (Ne.symm different))
      · intro ahead
        simp only [succeeded_ok, if_true, finalState_ok]
        rw [Ledger.record_openLog, if_pos rfl]
        -- The view of an undecided transaction is its delta over what came before it.
        have sameBefore : after.state.viewBefore (txn + 1) = config.owner.state.viewBefore (txn + 1) :=
          State.viewBefore_congr moved.persistent moved.committed (txn + 1)
        rw [State.view_eq_viewBefore, State.viewBefore_succ_of_absent undecided] at allowed
        refine (serializes.opened txn ahead).concat allowed ?_ outside
        intro key
        have shown := performed key
        rw [State.view_eq_viewBefore, State.view_eq_viewBefore, sameBefore,
          State.viewBefore_succ_of_absent undecided] at shown
        exact shown

end Serializes

omit [DecidableEq K] in
/-- A commit changes later views only under the keys which its delta answers. -/
theorem State.recordCommit_viewBefore_of_silent {state : State D Native} {txn : TxnId}
    (undecided : state.committed[txn]? = none) {key : K} (silent : state.ownOverlay txn key = none)
    (instant : TxnId) : (state.recordCommit txn).viewBefore instant key = state.viewBefore instant key := by
  rcases Nat.lt_or_ge txn instant with later | early
  · rcases State.recordCommit_viewBefore_cases state key undecided later with same | ⟨answer, own, _, _⟩
    · exact same
    · rw [silent] at own
      cases own
  · rw [State.recordCommit_viewBefore state early]

namespace Serializes

theorem committed (serializes : Serializes meaning initial config ledger)
    (performs : Performs driver meaning Regular) (reserved : Reserved config) (holding : Holding config ledger)
    {txn : TxnId} (undecided : config.undecided txn = true)
    (ordered : forall later, txn < later -> ¬ meaning.Conflict (ledger.openLog txn) (ledger.decidedLog later))
    (semaphore : Semaphore K) :
    Serializes meaning initial { config with owner := ⟨config.state.recordCommit txn, semaphore⟩ }
      (ledger.commit txn) := by
  have absent := (State.assertWritable_eq_ok_iff.mp (Config.undecided_iff.mp undecided).2).2
  have atFloor := Config.floor_le_of_undecided undecided
  have sameFloor : ({ config with owner := ⟨config.state.recordCommit txn, semaphore⟩ } :
      Config D Native K).floor = config.floor := Config.floor_congr rfl rfl
  have unmoved : forall instant key, ¬ meaning.LogTouches (ledger.openLog txn) key ->
      (config.state.recordCommit txn).viewBefore instant key = config.state.viewBefore instant key :=
    fun instant key untouched =>
      State.recordCommit_viewBefore_of_silent absent ((serializes.opened txn atFloor).silent key untouched) instant
  constructor
  · rw [sameFloor, Ledger.commit_logBefore ledger atFloor]
    exact serializes.served
  · rw [sameFloor]
    refine (State.recordCommit_viewBefore config.state atFloor).trans (serializes.base.trans ?_)
    rw [Ledger.performedBefore, Ledger.performedBefore, Ledger.commit_logBefore ledger atFloor]
  · intro instant ahead
    rw [sameFloor] at ahead
    change KeepsUp meaning ((config.state.recordCommit txn).viewBefore instant)
      ((config.state.recordCommit txn).decidedOverlay instant) _
    rw [State.recordCommit_decidedOverlay, Ledger.commit_decidedLog]
    by_cases here : txn = instant
    · subst here
      rw [if_pos rfl, if_pos rfl, State.recordCommit_viewBefore config.state (Nat.le_refl txn)]
      exact serializes.opened txn ahead
    · rw [if_neg here, if_neg here]
      apply (serializes.decided instant ahead).moved
      intro key touched
      rcases Nat.lt_or_ge txn instant with later | early
      · exact unmoved instant key (fun own => ordered instant later ⟨key, own, touched⟩)
      · rw [State.recordCommit_viewBefore config.state early]
  · intro instant ahead
    rw [sameFloor] at ahead
    change KeepsUp meaning ((config.state.recordCommit txn).viewBefore instant)
      ((config.state.recordCommit txn).ownOverlay instant) _
    rw [State.ownOverlay, State.recordCommit_pending, Ledger.commit_openLog]
    by_cases here : txn = instant
    · rw [if_pos here, if_pos here]
      exact KeepsUp.nil _
    · rw [if_neg here, if_neg here]
      apply (serializes.opened instant ahead).moved
      rintro key ⟨op, issued, touches⟩
      apply unmoved
      -- Both would hold a reservation which covers the key.
      rintro ⟨own, member, ownTouches⟩
      exact here (reserved.exclusive txn instant _ _ (holding txn own member) (holding instant op issued)
        (SetRange.overlaps_of_covers (performs.inside own key ownTouches) (performs.inside op key touches)))
  · intro instant ahead present
    rw [sameFloor] at ahead
    rw [Ledger.commit_openLog]
    split
    · rfl
    · rename_i different
      refine serializes.closed instant ahead ?_
      change (config.state.recordCommit txn).committed[instant]? ≠ none at present
      rwa [State.recordCommit_committed, if_neg different] at present

theorem discarded (serializes : Serializes meaning initial config ledger) (txn : TxnId) (semaphore : Semaphore K) :
    Serializes meaning initial { config with owner := ⟨config.state.discardPending txn, semaphore⟩ }
      (ledger.rollback txn) := by
  have sameFloor : ({ config with owner := ⟨config.state.discardPending txn, semaphore⟩ } :
      Config D Native K).floor = config.floor := Config.floor_congr rfl rfl
  constructor
  · rw [sameFloor]
    exact serializes.served
  · rw [sameFloor]
    exact serializes.base
  · rw [sameFloor]
    exact serializes.decided
  · intro instant ahead
    rw [sameFloor] at ahead
    change KeepsUp meaning (config.state.viewBefore instant) ((config.state.discardPending txn).ownOverlay instant) _
    rw [State.ownOverlay, State.discardPending_pending, Ledger.rollback_openLog]
    split
    · exact KeepsUp.nil _
    · exact serializes.opened instant ahead
  · intro instant ahead present
    rw [sameFloor] at ahead
    rw [Ledger.rollback_openLog]
    split
    · rfl
    · exact serializes.closed instant ahead present

/-- A finalization which begins takes its readers up to the cutoff with it. -/
theorem began (serializes : Serializes meaning initial config ledger) {cutoff : TxnId}
    (free : config.finalizing = none) (fresh : config.state.outdated cutoff = false)
    (writes : List (PersistentDelta.Write D)) :
    Serializes meaning initial { config with finalizing := some (cutoff, writes) } ledger := by
  have atFloor := Config.floor_le_of_fresh free fresh
  have beyond : forall instant, cutoff + 1 <= instant -> config.floor <= instant :=
    fun instant ahead => Nat.le_trans atFloor (Nat.le_of_succ_le ahead)
  exact ⟨serializes.logBefore_succeeds (beyond _ (Nat.le_refl _)),
    serializes.viewBefore_eq (beyond _ (Nat.le_refl _)),
    fun instant ahead => serializes.decided instant (beyond instant ahead),
    fun instant ahead => serializes.opened instant (beyond instant ahead),
    fun instant ahead => serializes.closed instant (beyond instant ahead)⟩

/-- What lies past the cutoff of a finalization is as before, and so is what it sees. -/
theorem finalizing (serializes : Serializes meaning initial config ledger) {cutoff : TxnId}
    (underway : config.floor = cutoff + 1) {next : Config D Native K} {after : Ledger driver.Op}
    (atCutoff : next.floor = cutoff + 1)
    (settled : forall txn, cutoff <= txn -> next.state.settledView txn = config.state.settledView txn)
    (committed : forall txn, cutoff < txn -> next.state.committed[txn]? = config.state.committed[txn]?)
    (pending : forall txn, cutoff < txn -> next.state.pending[txn]? = config.state.pending[txn]?)
    (logs : after.committed = ledger.committed)
    (opens : forall txn, cutoff < txn -> after.openLog txn = ledger.openLog txn) :
    Serializes meaning initial next after := by
  have sameBefore : forall instant, cutoff + 1 <= instant ->
      next.state.viewBefore instant = config.state.viewBefore instant := by
    rintro (_ | instant) ahead
    · cases ahead
    · rw [← State.settledView_eq_viewBefore, ← State.settledView_eq_viewBefore]
      exact settled instant (Nat.le_of_succ_le_succ ahead)
  rcases serializes with ⟨served, base, decided, opened, closed⟩
  rw [underway] at served base decided opened closed
  constructor
  · rw [atCutoff, Ledger.logBefore, logs]
    exact served
  · rw [atCutoff, sameBefore _ (Nat.le_refl _), base, Ledger.performedBefore, Ledger.performedBefore,
      Ledger.logBefore, Ledger.logBefore, logs]
  · intro instant ahead
    rw [atCutoff] at ahead
    rw [sameBefore instant ahead, State.decidedOverlay, committed instant (Nat.lt_of_succ_le ahead),
      Ledger.decidedLog, logs]
    exact decided instant ahead
  · intro instant ahead
    rw [atCutoff] at ahead
    rw [sameBefore instant ahead, State.ownOverlay, pending instant (Nat.lt_of_succ_le ahead),
      opens instant (Nat.lt_of_succ_le ahead)]
    exact opened instant ahead
  · intro instant ahead present
    rw [atCutoff] at ahead
    rw [committed instant (Nat.lt_of_succ_le ahead)] at present
    rw [opens instant (Nat.lt_of_succ_le ahead)]
    exact closed instant ahead present

/-- A native write is absorbed by the deltas it materializes. -/
theorem wrote (serializes : Serializes meaning initial config ledger) (sound : Sound config) {cutoff : TxnId}
    {write : PersistentDelta.Write D} {remaining : List (PersistentDelta.Write D)}
    (underway : config.finalizing = some (cutoff, write :: remaining)) :
    Serializes meaning initial
      ⟨{ config.owner with state := config.state.materialize [write] }, some (cutoff, remaining)⟩ ledger := by
  have scheduled := (sound.underway cutoff _ underway).1.scheduled write List.mem_cons_self
  refine serializes.finalizing (by rw [Config.floor, underway]) rfl ?_ (fun _ _ => rfl) (fun _ _ => rfl) rfl
    (fun _ _ => rfl)
  intro txn past
  exact State.settledView_materialize_one past scheduled

/-- After the swap canonical storage is the new base. -/
theorem swapped (serializes : Serializes meaning initial config ledger) (sound : Sound config) {cutoff : TxnId}
    (underway : config.finalizing = some (cutoff, [])) (semaphore : Semaphore K) :
    Serializes meaning initial ⟨⟨config.state.finalizeSwap cutoff, semaphore⟩, none⟩
      (ledger.discardThrough cutoff) := by
  have done := (sound.underway cutoff _ underway).1
  refine serializes.finalizing (by rw [Config.floor, underway]) rfl ?_ ?_ ?_ rfl ?_
  · intro txn past
    exact State.settledView_finalizeSwap done past
  · intro txn past
    exact (State.finalizeSwap_committed ..).trans (if_pos past)
  · intro txn past
    exact (State.finalizeSwap_pending ..).trans (if_pos past)
  · intro txn past
    exact (Ledger.discardThrough_openLog ..).trans (if_pos past)

end Serializes

/-- An operation in an open log was there before a step which does not resolve its
transaction, or it is the operation of the step. -/
theorem mem_noted {action : Action driver} {txn : TxnId} {op : driver.Op}
    (member : op ∈ (note driver config action ledger).openLog txn) :
    (op ∈ ledger.openLog txn ∧ resolves driver config txn action = false) ∨
      action = .mutate txn op ∧ succeeded (driver.mutate txn op config.owner) = true := by
  cases action with
  | mutate other issued =>
      rw [note] at member
      split at member
      · rename_i success
        rw [Ledger.record_openLog] at member
        split at member
        · rename_i same
          subst same
          rcases List.mem_append.mp member with earlier | last
          · exact Or.inl ⟨earlier, rfl⟩
          · cases List.mem_singleton.mp last
            exact Or.inr ⟨rfl, success⟩
        · exact Or.inl ⟨member, rfl⟩
      · exact Or.inl ⟨member, rfl⟩
  | traffic event => exact Or.inl ⟨member, rfl⟩
  | commit decided =>
      rw [note] at member
      split at member
      · rw [Ledger.commit_openLog] at member
        split at member
        · cases member
        · rename_i different
          exact Or.inl ⟨member, by simp [resolves, different]⟩
      · rename_i idle
        exact Or.inl ⟨member, by simp [resolves, idle]⟩
  | rollback decided =>
      rw [note] at member
      split at member
      · rw [Ledger.rollback_openLog] at member
        split at member
        · cases member
        · rename_i different
          exact Or.inl ⟨member, by simp [resolves, different]⟩
      · rename_i idle
        exact Or.inl ⟨member, by simp [resolves, idle]⟩
  | finalizeBegin cutoff => exact Or.inl ⟨member, rfl⟩
  | finalizeWrite => exact Or.inl ⟨member, rfl⟩
  | finalizeEnd =>
      rw [note] at member
      split at member
      · rename_i cutoff underway
        rw [Ledger.discardThrough_openLog] at member
        split at member
        · rename_i past
          refine Or.inl ⟨member, ?_⟩
          rw [resolves, underway]
          exact decide_eq_false (Nat.not_le_of_lt past)
        · cases member
      · rename_i unfinished
        refine Or.inl ⟨member, ?_⟩
        rw [resolves]
        split
        · rename_i cutoff underway
          exact absurd underway (unfinished cutoff)
        · rfl

theorem step_holding (performs : Performs driver meaning Regular) (reads : ReadsOnly driver) (sound : Sound config)
    (holding : Holding config ledger) {action : Action driver} (calls : Calls Regular action) :
    Holding (step driver config action) (note driver config action ledger) := by
  intro txn op member
  rcases mem_noted member with ⟨issued, unresolved⟩ | ⟨rfl, success⟩
  · exact (step_held reads config action).mpr (Or.inr ⟨holding txn op issued, unresolved⟩)
  · rw [step]
    cases outcome : driver.mutate txn op config.owner with
    | error error after =>
        rw [outcome] at success
        cases success
    | ok value after =>
        exact (performs.success txn op config.owner after (calls txn op rfl) (sound.separateThrough txn)
          (sound.pendingSeparate txn) outcome).2.1

theorem step_serializes (performs : Performs driver meaning Regular) (sound : Sound config)
    (reserved : Reserved config) (holding : Holding config ledger)
    (serializes : Serializes meaning initial config ledger) {action : Action driver}
    (calls : Calls Regular action) (ordered : CommitsInOrder meaning config ledger action) :
    Serializes meaning initial (step driver config action) (note driver config action ledger) := by
  have transition := step_transition driver config action
  generalize step driver config action = after at transition ⊢
  cases transition with
  | idle _ notMutation notDecision notEnd =>
      rw [note_idle notMutation notDecision notEnd]
      exact serializes
  | mutated txn op => exact serializes.mutated performs sound txn (calls txn op rfl)
  | passed event =>
      have still : Mutates 0 SetRange.all config.state config.state := Mutates.refl config.state
      exact serializes.reopened still rfl (fun _ _ => rfl) (serializes.opened 0) (fun _ => rfl)
  | committed txn undecided =>
      rw [note, if_pos undecided]
      exact serializes.committed performs reserved holding undecided (ordered txn rfl undecided) _
  | discarded txn undecided =>
      rw [note, if_pos undecided]
      exact serializes.discarded txn _
  | began cutoff free fresh => exact serializes.began free fresh _
  | wrote cutoff write remaining underway => exact serializes.wrote sound underway
  | swapped cutoff underway =>
      simp only [note, underway]
      exact serializes.swapped sound underway _

/-! ### Runs -/

/-- Each step of a run calls regular operations, and commits in order. -/
def Orderly (meaning : Meaning driver.Op K V) (Regular : driver.Op -> Prop) (canonical : Native)
    (actions : List (Action driver)) : Prop :=
  (forall action, action ∈ actions -> Calls Regular action) ∧
    Meets driver (CommitsInOrder meaning) (Config.start canonical) Ledger.empty actions

/-- A stretch of a run, each step of which calls regular operations and commits in order. -/
def Stretch (driver : Driver D Native K) (meaning : Meaning driver.Op K V) (Regular : driver.Op -> Prop)
    (config : Config D Native K) (ledger : Ledger driver.Op) (reached : Config D Native K)
    (recorded : Ledger driver.Op) : Prop :=
  exists actions, reached = run driver config actions ∧ recorded = chronicle driver config ledger actions ∧
    (forall action, action ∈ actions -> Calls Regular action) ∧
    Meets driver (CommitsInOrder meaning) config ledger actions

namespace Stretch

theorem refl (config : Config D Native K) (ledger : Ledger driver.Op) :
    Stretch driver meaning Regular config ledger config ledger :=
  ⟨[], rfl, rfl, fun _ member => absurd member List.not_mem_nil, trivial⟩

theorem cons {action : Action driver} {reached : Config D Native K} {recorded : Ledger driver.Op}
    (calls : Calls Regular action) (ordered : CommitsInOrder meaning config ledger action)
    (rest : Stretch driver meaning Regular (step driver config action) (note driver config action ledger) reached
      recorded) : Stretch driver meaning Regular config ledger reached recorded := by
  rcases rest with ⟨actions, ran, chronicled, regular, inOrder⟩
  refine ⟨action :: actions, ran, chronicled, ?_, ordered, inOrder⟩
  intro other member
  rcases List.mem_cons.mp member with rfl | later
  · exact calls
  · exact regular other later

theorem trans {between reached : Config D Native K} {noted recorded : Ledger driver.Op}
    (first : Stretch driver meaning Regular config ledger between noted)
    (second : Stretch driver meaning Regular between noted reached recorded) :
    Stretch driver meaning Regular config ledger reached recorded := by
  rcases first with ⟨actions, rfl, rfl, regular, inOrder⟩
  induction actions generalizing config ledger with
  | nil => exact second
  | cons action actions inductionHypothesis =>
      exact (inductionHypothesis second (fun action member => regular action (List.mem_cons_of_mem _ member))
        inOrder.2).cons (regular action List.mem_cons_self) inOrder.1

end Stretch

theorem commitsInOrder_of_undecided (undecided : forall later, ledger.decidedLog later = [])
    (action : Action driver) : CommitsInOrder meaning config ledger action := by
  rintro txn rfl _ later _ ⟨key, _, touched⟩
  rw [undecided later] at touched
  exact Meaning.not_logTouches_nil key touched

/-- The transaction which a step commits. -/
def commitOf : Action driver -> Option TxnId
  | .commit txn => some txn
  | .mutate _ _ | .traffic _ | .rollback _ | .finalizeBegin _ | .finalizeWrite | .finalizeEnd => none

/-- A step decides at most the log of the transaction it commits. -/
theorem note_decidedLog (config : Config D Native K) (action : Action driver) (ledger : Ledger driver.Op)
    (instant : TxnId) : (note driver config action ledger).decidedLog instant = ledger.decidedLog instant ∨
      commitOf action = some instant := by
  cases action with
  | mutate txn op =>
      left
      rw [note]
      split <;> rfl
  | commit txn =>
      rw [note]
      split
      · rw [Ledger.commit_decidedLog]
        split
        · rename_i same
          exact Or.inr (congrArg some same)
        · exact Or.inl rfl
      · exact Or.inl rfl
  | rollback txn =>
      left
      rw [note]
      split <;> rfl
  | finalizeEnd =>
      left
      rw [note]
      split <;> rfl
  | traffic | finalizeBegin | finalizeWrite => exact Or.inl rfl

/-- Transactions which commit in their order conflict with no later one which has
committed. -/
theorem meets_of_ascending {actions : List (Action driver)}
    (ascending : (actions.filterMap commitOf).Pairwise (fun earlier later => earlier <= later))
    (decided : forall instant, ledger.decidedLog instant ≠ [] ->
      forall txn, txn ∈ actions.filterMap commitOf -> instant <= txn) :
    Meets driver (CommitsInOrder meaning) config ledger actions := by
  induction actions generalizing config ledger with
  | nil => trivial
  | cons action actions inductionHypothesis =>
      constructor
      · rintro txn rfl _ later past ⟨key, _, touched⟩
        by_cases nothing : ledger.decidedLog later = []
        · rw [nothing] at touched
          exact Meaning.not_logTouches_nil key touched
        · exact absurd (decided later nothing txn List.mem_cons_self) (Nat.not_le_of_lt past)
      · have rest : (actions.filterMap commitOf).Pairwise (fun earlier later => earlier <= later) := by
          rw [List.filterMap_cons] at ascending
          split at ascending
          · exact ascending
          · exact (List.pairwise_cons.mp ascending).2
        apply inductionHypothesis rest
        intro instant present txn member
        rcases note_decidedLog config action ledger instant with same | committed
        · rw [same] at present
          refine decided instant present txn ?_
          rw [List.filterMap_cons]
          split
          · exact member
          · exact List.mem_cons_of_mem _ member
        · rw [List.filterMap_cons_some committed] at ascending
          exact (List.pairwise_cons.mp ascending).1 txn member

theorem Serializes.start (driver : Driver D Native K) (meaning : Meaning driver.Op K V) (canonical : Native) :
    Serializes meaning (bindings canonical) (Config.start canonical : Config D Native K) Ledger.empty := by
  have noCommitted : forall instant : TxnId,
      (Config.start canonical : Config D Native K).state.committed[instant]? = none :=
    fun _ => ExtTreeMap.getElem?_empty
  have noPending : forall instant : TxnId,
      (Config.start canonical : Config D Native K).state.pending[instant]? = none :=
    fun _ => ExtTreeMap.getElem?_empty
  constructor
  · rw [show (Config.start canonical : Config D Native K).floor = 0 from rfl, Ledger.logBefore_zero]
    trivial
  · change (Config.start canonical : Config D Native K).state.viewBefore 0 = _
    rw [State.viewBefore_zero, Ledger.performedBefore]
    simp [Config.start, Config.floor, Config.state, CollectionOwner.new, State.new]
  · intro instant _
    rw [State.decidedOverlay, noCommitted, Ledger.empty_decidedLog]
    exact KeepsUp.nil _
  · intro instant _
    rw [State.ownOverlay, noPending, Ledger.empty_openLog]
    exact KeepsUp.nil _
  · intro instant _ _
    exact Ledger.empty_openLog instant

theorem run_serializes (performs : Performs driver meaning Regular) (reads : ReadsOnly driver) (sound : Sound config)
    (reserved : Reserved config) (holding : Holding config ledger)
    (serializes : Serializes meaning initial config ledger) {actions : List (Action driver)}
    (calls : forall action, action ∈ actions -> Calls Regular action)
    (ordered : Meets driver (CommitsInOrder meaning) config ledger actions) :
    Serializes meaning initial (run driver config actions) (chronicle driver config ledger actions) := by
  induction actions generalizing config ledger with
  | nil => exact serializes
  | cons action actions inductionHypothesis =>
      have first := calls action List.mem_cons_self
      exact inductionHypothesis (step_sound sound action) (step_reserved reads reserved action)
        (step_holding performs reads sound holding first)
        (step_serializes performs sound reserved holding serializes first ordered.1)
        (fun action member => calls action (List.mem_cons_of_mem _ member)) ordered.2

/-- The operations a reader is entitled to, and what they come to. -/
structure Serves (meaning : Meaning driver.Op K V) (initial : View K V) (config : Config D Native K)
    (ledger : Ledger driver.Op) : Prop where
  served : forall txn, config.Ahead txn -> meaning.Succeeds (ledger.history txn) initial
  shown : forall txn, config.Ahead txn -> config.state.view txn = ledger.performed meaning initial txn
  servedBefore : meaning.Succeeds (ledger.logBefore config.floor) initial
  stored : config.finalizing = none ->
    bindings config.state.persistent = ledger.performedBefore meaning initial config.floor

/-- After an orderly run a reader ahead of the frontier sees what the operations of the
transactions come to, performed one transaction after another, and canonical storage
holds what those come to which have been finalized. -/
theorem run_serves (performs : Performs driver meaning Regular) (reads : ReadsOnly driver) (canonical : Native)
    {actions : List (Action driver)} (orderly : Orderly meaning Regular canonical actions) :
    Serves meaning (bindings canonical) (run driver (Config.start canonical) actions)
      (chronicle driver (Config.start canonical) Ledger.empty actions) := by
  have nothing : Holding (Config.start canonical : Config D Native K) (Ledger.empty : Ledger driver.Op) := by
    intro txn op issued
    rw [Ledger.empty_openLog] at issued
    cases issued
  have serializes := run_serializes performs reads (Sound.start canonical) (Reserved.start canonical) nothing
    (Serializes.start driver meaning canonical) orderly.1 orderly.2
  have sound : Sound (run driver (Config.start canonical) actions) := run_sound (Sound.start canonical) actions
  constructor
  · exact fun txn ahead => serializes.history_succeeds ahead.floor_le
  · exact fun txn ahead => serializes.view_eq sound ahead.floor_le
  · exact serializes.served
  · exact fun free => (sound.viewBefore_floor free).symm.trans serializes.base

end Serialization

end Persistence
end TransactionalCollection
