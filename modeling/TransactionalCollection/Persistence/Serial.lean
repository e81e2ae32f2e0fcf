import Mathlib.Order.Interval.Set.Defs
import Mathlib.Algebra.Order.Monoid.Unbundled.Basic
import TransactionalCollection.Layering.Ledger
import TransactionalCollection.Persistence.Lifecycle

namespace TransactionalCollection
namespace Persistence

open Std (ExtTreeMap)
open Layering Native Execution

/-!
# Serial replay

A ledger is kept beside every run.  The collection simulates serial execution
if every reader ahead of the frontier sees what replaying its history would
show, wherever canonical storage, committed deltas and pending deltas happen
to hold the parts.

The simulation compares, instant by instant, what a transaction's delta
answers with what its log answers.  They may differ in one way: a removal may
leave no trace in the delta when the key was not visible to the transaction,
provided that it stays invisible.  A collection which records every removal
never defers one, and then nothing can disturb the simulation.
-/

/-! ## Instants of a state -/

section Instants

variable {D Native K V : Type} [PersistentDelta D Native] [StoredMap Native K V]
  [LayeredDelta D Native K V]

/-- The answers of a decision, which may have brought no delta. -/
def layerOf (decision : Option D) : Overlay K V :=
  (decision.map overlay).getD Overlay.transparent

namespace State

/-- The answers of the transaction committed at an instant. -/
def decidedOverlay (state : State D Native) (instant : TxnId) : Overlay K V :=
  (state.committed[instant]?.map layerOf).getD Overlay.transparent

/-- What the committed transactions before an instant show. -/
def viewBefore (state : State D Native) (instant : TxnId) : View K V :=
  stack ((earlier state.committed instant).map layerOf) (bindings state.persistent)

@[simp] theorem viewBefore_zero (state : State D Native) :
    state.viewBefore 0 = bindings state.persistent := by
  simp [viewBefore]

theorem viewBefore_succ (state : State D Native) (instant : TxnId) :
    state.viewBefore (instant + 1) =
      (state.decidedOverlay instant).read (state.viewBefore instant) := by
  rw [viewBefore, earlier_succ, List.map_append, stack_append, decidedOverlay]
  cases state.committed[instant]? <;> rfl

theorem settledView_eq_viewBefore (state : State D Native) (txn : TxnId) :
    state.settledView txn = state.viewBefore (txn + 1) := by
  have dense : forall (decisions : List (Option D)) (below : View K V),
      stack ((decisions.filterMap id).map overlay) below = stack (decisions.map layerOf) below := by
    intro decisions
    induction decisions with
    | nil => exact fun _ => rfl
    | cons decision decisions inductionHypothesis =>
        intro below
        cases decision with
        | none => exact inductionHypothesis below
        | some delta => exact inductionHypothesis ((overlay delta).read below)
  rw [settledView, committedThrough_eq, through_eq_earlier, dense, viewBefore]

theorem view_eq_viewBefore (state : State D Native) (txn : TxnId) :
    state.view txn = (state.ownOverlay txn).read (state.viewBefore (txn + 1)) := by
  rw [view_eq, settledView_eq_viewBefore]

/-- An instant nobody committed at shows what is before it. -/
theorem viewBefore_succ_of_absent {state : State D Native} {instant : TxnId}
    (absent : state.committed[instant]? = none) :
    state.viewBefore (instant + 1) = state.viewBefore instant := by
  rw [viewBefore_succ, decidedOverlay, absent]
  rfl

theorem viewBefore_congr {before after : State D Native}
    (persistent : after.persistent = before.persistent)
    (committed : after.committed = before.committed) (instant : TxnId) :
    after.viewBefore instant = before.viewBefore instant := by
  rw [viewBefore, viewBefore, persistent, committed]

theorem decidedOverlay_congr {before after : State D Native}
    (committed : after.committed = before.committed) (instant : TxnId) :
    after.decidedOverlay instant = before.decidedOverlay instant := by
  rw [decidedOverlay, decidedOverlay, committed]

/-! ### Around a commit -/

theorem recordCommit_decidedOverlay (state : State D Native) (txn instant : TxnId) :
    (state.recordCommit txn).decidedOverlay instant =
      if txn = instant then state.ownOverlay txn else state.decidedOverlay instant := by
  rw [decidedOverlay, recordCommit_committed]
  split <;> rfl

theorem recordCommit_viewBefore (state : State D Native) {txn instant : TxnId}
    (early : instant <= txn) :
    (state.recordCommit txn).viewBefore instant = state.viewBefore instant := by
  induction instant with
  | zero =>
      rw [viewBefore_zero, viewBefore_zero]
      rfl
  | succ instant inductionHypothesis =>
      rw [viewBefore_succ, viewBefore_succ, inductionHypothesis (Nat.le_of_succ_le early),
        recordCommit_decidedOverlay, if_neg]
      rintro rfl
      exact absurd early (Nat.not_succ_le_self _)

/-- After a commit a later view is as before, or is decided by the answer just
committed, because nobody in between answers the key. -/
theorem recordCommit_viewBefore_cases (state : State D Native) {txn instant : TxnId} (key : K)
    (undecided : state.committed[txn]? = none) (later : txn < instant) :
    (state.recordCommit txn).viewBefore instant key = state.viewBefore instant key ∨
      exists answer, state.ownOverlay txn key = some answer ∧
        (state.recordCommit txn).viewBefore instant key = answer ∧
        forall between, txn < between -> between < instant ->
          state.decidedOverlay between key = none := by
  induction instant, later using Nat.le_induction with
  | base =>
      rw [viewBefore_succ, recordCommit_viewBefore state (Nat.le_refl txn),
        recordCommit_decidedOverlay, if_pos rfl, viewBefore_succ_of_absent undecided]
      cases own : state.ownOverlay txn key with
      | none => exact Or.inl (Overlay.read_of_silent own)
      | some answer =>
          refine Or.inr ⟨answer, rfl, Overlay.read_of_answer own, ?_⟩
          intro between low high
          exact absurd low (Nat.not_lt_of_le (Nat.le_of_lt_succ high))
  | succ instant later inductionHypothesis =>
      have different : txn ≠ instant := Nat.ne_of_lt later
      rw [viewBefore_succ, recordCommit_decidedOverlay, if_neg different, viewBefore_succ]
      cases here : state.decidedOverlay instant key with
      | some decided =>
          exact Or.inl ((Overlay.read_of_answer here).trans (Overlay.read_of_answer here).symm)
      | none =>
          rw [Overlay.read_of_silent here, Overlay.read_of_silent here]
          rcases inductionHypothesis with same | ⟨answer, own, decides, silent⟩
          · exact Or.inl same
          · refine Or.inr ⟨answer, own, decides, ?_⟩
            intro between low high
            rcases Nat.lt_or_eq_of_le (Nat.le_of_lt_succ high) with before | rfl
            · exact silent between low before
            · exact here

end State

end Instants

/-! ## The ledger of a run -/

section History

variable {D Native K V : Type} [DecidableEq K] [PersistentDelta D Native] [StoredMap Native K V]
  [LayeredDelta D Native K V] (driver : Driver D Native K)

/-- Keep the ledger beside one step: a mutation counts when it succeeds, a
decision when it is the first about its transaction. -/
def note (config : Config D Native K) (action : Action driver) (ledger : Ledger driver.Op) :
    Ledger driver.Op :=
  match action with
  | .mutate txn op =>
      if succeeded (driver.mutate txn op config.owner) then ledger.record txn op else ledger
  | .commit txn => if config.undecided txn then ledger.commit txn else ledger
  | .rollback txn => if config.undecided txn then ledger.rollback txn else ledger
  | .finalizeEnd =>
      match config.finalizing with
      | some (cutoff, []) => ledger.discardThrough cutoff
      | _ => ledger
  | .traffic _ => ledger
  | .finalizeBegin _ => ledger
  | .finalizeWrite => ledger

/-- The ledger after a run. -/
def chronicle : Config D Native K -> Ledger driver.Op -> List (Action driver) -> Ledger driver.Op
  | _, ledger, [] => ledger
  | config, ledger, action :: actions =>
      chronicle (step driver config action) (note driver config action ledger) actions

/-- Every step of a run meets a condition on the configuration and the ledger
it starts from. -/
def Meets (condition : Config D Native K -> Ledger driver.Op -> Action driver -> Prop) :
    Config D Native K -> Ledger driver.Op -> List (Action driver) -> Prop
  | _, _, [] => True
  | config, ledger, action :: actions =>
      condition config ledger action ∧
        Meets condition (step driver config action) (note driver config action ledger) actions

end History

/-! ## The simulation -/

section Simulation

variable {D Native K V : Type} [DecidableEq K] [PersistentDelta D Native] [StoredMap Native K V]
  [LayeredDelta D Native K V] {driver : Driver D Native K}

/-- A delta answers a key as its log does.  With deferral, it may also be
silent on a removed key which is invisible below it. -/
def Follows (mayDefer : Prop) (below : View K V) (layer log : Overlay K V) : Prop :=
  forall key, layer key = log key ∨
    mayDefer ∧ layer key = none ∧ log key = some none ∧ below key = none

omit [DecidableEq K] in
theorem Follows.read {mayDefer : Prop} {below serial : View K V} {layer log : Overlay K V}
    (follows : Follows mayDefer below layer log) (same : below = serial) :
    layer.read below = log.read serial := by
  subst same
  funext key
  rcases follows key with answers | ⟨_, silent, removed, absent⟩
  · rw [Overlay.read, Overlay.read, answers]
  · rw [Overlay.read_of_silent silent, Overlay.read_of_answer removed, absent]

/-- What a successful mutation records of its one write in a delta which keeps
its halves apart, and that a failed mutation records nothing. -/
structure Faithful (driver : Driver D Native K) (cell : driver.Op -> CellWrite K V)
    (mayDefer : Prop) : Prop where
  success : forall (txn : TxnId) (op : driver.Op) (before after : CollectionOwner D Native K),
    (forall delta, before.state.pending[txn]? = some delta -> Separate delta) ->
    driver.mutate txn op before = .ok ⟨⟩ after ->
    before.state.assertWritable txn = .ok () ∧
      ((forall key, after.state.ownOverlay txn key =
          if (cell op).key = key then some (cell op).outcome
          else before.state.ownOverlay txn key) ∨
        mayDefer ∧ (cell op).outcome = none ∧
          after.state.ownOverlay txn = before.state.ownOverlay txn ∧
          before.state.ownOverlay txn (cell op).key = none ∧
          before.state.settledView txn (cell op).key = none)
  failure : forall (txn : TxnId) (op : driver.Op) (error : driver.Error)
    (before after : CollectionOwner D Native K),
    (forall delta, before.state.pending[txn]? = some delta -> Separate delta) ->
    driver.mutate txn op before = .error error after ->
    after.state.ownOverlay txn = before.state.ownOverlay txn

/-- The first instant that neither the frontier nor a finalization under way
has reached. -/
def Config.floor (config : Config D Native K) : TxnId :=
  match config.finalizing with
  | some (cutoff, _) => cutoff + 1
  | none =>
      match config.state.finalized with
      | some frontier => frontier + 1
      | none => 0

/-- The collection has kept up with its ledger. -/
structure Tracks (cell : driver.Op -> CellWrite K V) (mayDefer : Prop) (initial : View K V)
    (config : Config D Native K) (ledger : Ledger driver.Op) : Prop where
  base : config.state.viewBefore config.floor = ledger.serialBefore cell initial config.floor
  decided : forall instant, config.floor <= instant ->
    Follows mayDefer (config.state.viewBefore instant) (config.state.decidedOverlay instant)
      (Ledger.answersOf cell (ledger.decidedLog instant))
  opened : forall instant, config.floor <= instant ->
    Follows mayDefer (config.state.viewBefore instant) (config.state.ownOverlay instant)
      (Ledger.answersOf cell (ledger.openLog instant))
  closed : forall instant, config.floor <= instant ->
    config.state.committed[instant]? ≠ none -> ledger.openLog instant = []

variable {cell : driver.Op -> CellWrite K V} {mayDefer : Prop} {initial : View K V}
  {config : Config D Native K} {ledger : Ledger driver.Op}

/-- Ahead of the floor, committed deltas show what their serial replay shows. -/
theorem Tracks.viewBefore_eq (tracks : Tracks cell mayDefer initial config ledger)
    {instant : TxnId} (ahead : config.floor <= instant) :
    config.state.viewBefore instant = ledger.serialBefore cell initial instant := by
  induction instant, ahead using Nat.le_induction with
  | base => exact tracks.base
  | succ instant ahead inductionHypothesis =>
      rw [State.viewBefore_succ, Ledger.serialBefore_succ]
      exact (tracks.decided instant ahead).read inductionHypothesis

/-- And so does the whole view of a transaction, open or decided. -/
theorem Tracks.view_eq (tracks : Tracks cell mayDefer initial config ledger) {txn : TxnId}
    (sound : Sound config) (ahead : config.floor <= txn) :
    config.state.view txn = ledger.serialView cell initial txn := by
  have after := tracks.viewBefore_eq (Nat.le_succ_of_le ahead)
  rw [State.view_eq_viewBefore, Ledger.serialView_eq]
  by_cases absent : config.state.committed[txn]? = none
  · rw [State.viewBefore_succ_of_absent absent] at after ⊢
    exact (tracks.opened txn ahead).read after
  · have noDelta : config.state.ownOverlay txn = Overlay.transparent := by
      rw [State.ownOverlay, sound.apart txn absent]
      rfl
    rw [noDelta, tracks.closed txn ahead absent, after]
    rfl

/-! ### One step -/

omit [DecidableEq K] [StoredMap Native K V] [LayeredDelta D Native K V] in
theorem Config.floor_congr {before after : Config D Native K}
    (finalizing : after.finalizing = before.finalizing)
    (finalized : after.state.finalized = before.state.finalized) : after.floor = before.floor := by
  rw [floor, floor, finalizing, finalized]

omit [DecidableEq K] [StoredMap Native K V] [LayeredDelta D Native K V] in
theorem Config.floor_le_of_fresh {txn : TxnId} (free : config.finalizing = none)
    (fresh : config.state.outdated txn = false) : config.floor <= txn := by
  rw [floor, free]
  cases finalized : config.state.finalized with
  | none => exact Nat.zero_le txn
  | some frontier => exact State.not_outdated_iff.mp fresh frontier finalized

omit [DecidableEq K] [StoredMap Native K V] [LayeredDelta D Native K V] in
theorem Config.floor_le_of_undecided {txn : TxnId} (undecided : config.undecided txn = true) :
    config.floor <= txn := by
  rcases Config.undecided_iff.mp undecided with ⟨free, writable⟩
  exact floor_le_of_fresh free (State.assertWritable_eq_ok_iff.mp writable).1

/-- A mutation concerns its own transaction's open log and delta alone. -/
theorem Tracks.reopened (tracks : Tracks cell mayDefer initial config ledger) {txn : TxnId}
    {range : SetRange K} {owner : CollectionOwner D Native K} {after : Ledger driver.Op}
    (moved : Mutates txn range config.state owner.state)
    (logs : after.committed = ledger.committed)
    (others : forall instant, instant ≠ txn -> after.openLog instant = ledger.openLog instant)
    (own : config.floor <= txn -> Follows mayDefer (config.state.viewBefore txn)
      (owner.state.ownOverlay txn) (Ledger.answersOf cell (after.openLog txn)))
    (undecided : config.state.committed[txn]? ≠ none -> after.openLog txn = ledger.openLog txn) :
    Tracks cell mayDefer initial { config with owner := owner } after := by
  have sameFloor : ({ config with owner := owner } : Config D Native K).floor = config.floor :=
    Config.floor_congr rfl moved.finalized
  have sameBefore : forall instant, owner.state.viewBefore instant = config.state.viewBefore instant :=
    State.viewBefore_congr moved.persistent moved.committed
  constructor
  · rw [sameFloor]
    refine (sameBefore _).trans (tracks.base.trans ?_)
    rw [Ledger.serialBefore, Ledger.serialBefore, Ledger.logBefore, Ledger.logBefore, logs]
  · intro instant ahead
    rw [sameFloor] at ahead
    change Follows mayDefer (owner.state.viewBefore instant) (owner.state.decidedOverlay instant) _
    rw [sameBefore, State.decidedOverlay_congr moved.committed, Ledger.decidedLog, logs]
    exact tracks.decided instant ahead
  · intro instant ahead
    rw [sameFloor] at ahead
    change Follows mayDefer (owner.state.viewBefore instant) (owner.state.ownOverlay instant) _
    rw [sameBefore]
    by_cases here : instant = txn
    · subst here
      exact own ahead
    · have sameOwn : owner.state.ownOverlay instant = config.state.ownOverlay instant := by
        rw [State.ownOverlay, State.ownOverlay, moved.others instant here]
      rw [sameOwn, others instant here]
      exact tracks.opened instant ahead
  · intro instant ahead present
    rw [sameFloor] at ahead
    have decided : config.state.committed[instant]? ≠ none := moved.committed ▸ present
    have before := tracks.closed instant ahead decided
    by_cases here : instant = txn
    · subst here
      exact (undecided decided).trans before
    · exact (others instant here).trans before

theorem Tracks.mutated (tracks : Tracks cell mayDefer initial config ledger)
    (faithful : Faithful driver cell mayDefer) (sound : Sound config) (txn : TxnId)
    (op : driver.Op) :
    Tracks cell mayDefer initial
      { config with owner := finalState (driver.mutate txn op config.owner) }
      (note driver config (.mutate txn op) ledger) := by
  have moved := (driver.admits txn op config.owner).mutates
  rw [note]
  cases outcome : driver.mutate txn op config.owner with
  | error error after =>
      rw [outcome] at moved
      refine tracks.reopened moved rfl (fun _ _ => rfl) ?_ (fun _ => rfl)
      intro ahead
      change Follows mayDefer _ (after.state.ownOverlay txn) _
      rw [faithful.failure txn op error config.owner after (sound.pendingSeparate txn) outcome]
      exact tracks.opened txn ahead
  | ok value after =>
      rw [outcome] at moved
      rcases faithful.success txn op config.owner after (sound.pendingSeparate txn) outcome with
        ⟨writable, recorded⟩
      have undecided := (State.assertWritable_eq_ok_iff.mp writable).2
      refine tracks.reopened moved rfl ?_ ?_ (fun decided => absurd undecided decided)
      · intro instant different
        exact (Ledger.record_openLog ledger txn instant op).trans (if_neg (Ne.symm different))
      · intro ahead key
        simp only [succeeded_ok, if_true, finalState_ok]
        rw [Ledger.record_openLog, if_pos rfl, Ledger.answersOf_concat]
        rcases recorded with written | ⟨may, removes, unchanged, silent, absent⟩
        · rw [written key]
          by_cases here : (cell op).key = key
          · rw [if_pos here, if_pos here]
            exact Or.inl rfl
          · rw [if_neg here, if_neg here]
            exact tracks.opened txn ahead key
        · rw [unchanged]
          by_cases here : (cell op).key = key
          · subst here
            rw [State.settledView_eq_viewBefore, State.viewBefore_succ_of_absent undecided] at absent
            rw [if_pos rfl, removes]
            exact Or.inr ⟨may, silent, rfl, absent⟩
          · rw [if_neg here]
            exact tracks.opened txn ahead key

/-- A transaction's log ends in removing a key of which its delta holds
nothing. -/
def Deferred (layer log : Overlay K V) (key : K) : Prop := layer key = none ∧ log key = some none

/-- What a commit must not do: bind a key which a later transaction removed
without a trace, with nobody in between to hide it. -/
def CommitSafe (cell : driver.Op -> CellWrite K V) (config : Config D Native K)
    (ledger : Ledger driver.Op) (txn : TxnId) : Prop :=
  forall (key : K) (value : V) (later : TxnId), config.state.ownOverlay txn key = some (some value) ->
    txn < later ->
    Deferred (config.state.decidedOverlay later) (Ledger.answersOf cell (ledger.decidedLog later)) key ∨
      Deferred (config.state.ownOverlay later) (Ledger.answersOf cell (ledger.openLog later)) key ->
    exists between, txn < between ∧ between < later ∧ config.state.decidedOverlay between key ≠ none

/-- A deferred removal after a commit stays deferred over an invisible key. -/
theorem Follows.recordCommit {txn instant : TxnId} (absent : config.state.committed[txn]? = none)
    (safe : mayDefer -> CommitSafe cell config ledger txn) (later : txn < instant) {layer log : Overlay K V}
    (deferred : forall key, Deferred layer log key ->
      Deferred (config.state.decidedOverlay instant) (Ledger.answersOf cell (ledger.decidedLog instant)) key ∨
        Deferred (config.state.ownOverlay instant) (Ledger.answersOf cell (ledger.openLog instant)) key)
    (follows : Follows mayDefer (config.state.viewBefore instant) layer log) :
    Follows mayDefer ((config.state.recordCommit txn).viewBefore instant) layer log := by
  intro key
  rcases follows key with answers | ⟨may, silent, removed, invisible⟩
  · exact Or.inl answers
  · refine Or.inr ⟨may, silent, removed, ?_⟩
    rcases State.recordCommit_viewBefore_cases config.state key absent later with
      same | ⟨answer, own, decides, nobody⟩
    · exact same.trans invisible
    · rw [decides]
      cases answer with
      | none => rfl
      | some value =>
          rcases safe may key value instant own later (deferred key ⟨silent, removed⟩) with
            ⟨between, low, high, answers⟩
          exact absurd (nobody between low high) answers

theorem Tracks.committed (tracks : Tracks cell mayDefer initial config ledger) {txn : TxnId}
    (undecided : config.undecided txn = true)
    (safe : mayDefer -> CommitSafe cell config ledger txn) (semaphore : Semaphore K) :
    Tracks cell mayDefer initial
      { config with owner := ⟨config.state.recordCommit txn, semaphore⟩ } (ledger.commit txn) := by
  have absent := (State.assertWritable_eq_ok_iff.mp (Config.undecided_iff.mp undecided).2).2
  have atFloor := Config.floor_le_of_undecided undecided
  have sameFloor : ({ config with owner := ⟨config.state.recordCommit txn, semaphore⟩ } :
      Config D Native K).floor = config.floor := Config.floor_congr rfl rfl
  constructor
  · rw [sameFloor]
    refine (State.recordCommit_viewBefore config.state atFloor).trans (tracks.base.trans ?_)
    rw [Ledger.serialBefore, Ledger.serialBefore, Ledger.commit_logBefore ledger atFloor]
  · intro instant ahead
    rw [sameFloor] at ahead
    change Follows mayDefer ((config.state.recordCommit txn).viewBefore instant)
      ((config.state.recordCommit txn).decidedOverlay instant) _
    rw [State.recordCommit_decidedOverlay, Ledger.commit_decidedLog]
    rcases Nat.lt_trichotomy instant txn with earlier | rfl | later
    · rw [if_neg (Nat.ne_of_gt earlier), if_neg (Nat.ne_of_gt earlier),
        State.recordCommit_viewBefore config.state (Nat.le_of_lt earlier)]
      exact tracks.decided instant ahead
    · rw [if_pos rfl, if_pos rfl, State.recordCommit_viewBefore config.state (Nat.le_refl instant)]
      exact tracks.opened instant ahead
    · rw [if_neg (Nat.ne_of_lt later), if_neg (Nat.ne_of_lt later)]
      exact (tracks.decided instant ahead).recordCommit absent safe later (fun _ deferred => Or.inl deferred)
  · intro instant ahead
    rw [sameFloor] at ahead
    change Follows mayDefer ((config.state.recordCommit txn).viewBefore instant)
      ((config.state.recordCommit txn).ownOverlay instant) _
    rw [State.ownOverlay, State.recordCommit_pending, Ledger.commit_openLog]
    rcases Nat.lt_trichotomy instant txn with earlier | rfl | later
    · rw [if_neg (Nat.ne_of_gt earlier), if_neg (Nat.ne_of_gt earlier),
        State.recordCommit_viewBefore config.state (Nat.le_of_lt earlier)]
      exact tracks.opened instant ahead
    · rw [if_pos rfl, if_pos rfl]
      exact fun key => Or.inl rfl
    · rw [if_neg (Nat.ne_of_lt later), if_neg (Nat.ne_of_lt later)]
      exact (tracks.opened instant ahead).recordCommit absent safe later (fun _ deferred => Or.inr deferred)
  · intro instant ahead present
    rw [sameFloor] at ahead
    rw [Ledger.commit_openLog]
    split
    · rfl
    · rename_i different
      refine tracks.closed instant ahead ?_
      change (config.state.recordCommit txn).committed[instant]? ≠ none at present
      rwa [State.recordCommit_committed, if_neg different] at present

theorem Tracks.discarded (tracks : Tracks cell mayDefer initial config ledger) (txn : TxnId)
    (semaphore : Semaphore K) :
    Tracks cell mayDefer initial
      { config with owner := ⟨config.state.discardPending txn, semaphore⟩ } (ledger.rollback txn) := by
  have sameFloor : ({ config with owner := ⟨config.state.discardPending txn, semaphore⟩ } :
      Config D Native K).floor = config.floor := Config.floor_congr rfl rfl
  constructor
  · rw [sameFloor]
    exact tracks.base
  · rw [sameFloor]
    exact tracks.decided
  · intro instant ahead
    rw [sameFloor] at ahead
    change Follows mayDefer (config.state.viewBefore instant)
      ((config.state.discardPending txn).ownOverlay instant) _
    rw [State.ownOverlay, State.discardPending_pending, Ledger.rollback_openLog]
    split
    · exact fun key => Or.inl rfl
    · exact tracks.opened instant ahead
  · intro instant ahead present
    rw [sameFloor] at ahead
    rw [Ledger.rollback_openLog]
    split
    · rfl
    · exact tracks.closed instant ahead present

/-- A finalization which begins takes its readers up to the cutoff with it. -/
theorem Tracks.began (tracks : Tracks cell mayDefer initial config ledger) {cutoff : TxnId}
    (free : config.finalizing = none) (fresh : config.state.outdated cutoff = false)
    (writes : List (PersistentDelta.Write D)) :
    Tracks cell mayDefer initial { config with finalizing := some (cutoff, writes) } ledger := by
  have atFloor := Config.floor_le_of_fresh free fresh
  have beyond : forall instant, cutoff + 1 <= instant -> config.floor <= instant :=
    fun instant ahead => Nat.le_trans atFloor (Nat.le_of_succ_le ahead)
  exact ⟨tracks.viewBefore_eq (beyond _ (Nat.le_refl _)),
    fun instant ahead => tracks.decided instant (beyond instant ahead),
    fun instant ahead => tracks.opened instant (beyond instant ahead),
    fun instant ahead => tracks.closed instant (beyond instant ahead)⟩

/-- A native write is absorbed by the deltas it materializes. -/
theorem Tracks.wrote (tracks : Tracks cell mayDefer initial config ledger) (sound : Sound config)
    {cutoff : TxnId} {write : PersistentDelta.Write D}
    {remaining : List (PersistentDelta.Write D)}
    (underway : config.finalizing = some (cutoff, write :: remaining)) :
    Tracks cell mayDefer initial
      ⟨{ config.owner with state := config.state.materialize [write] }, some (cutoff, remaining)⟩
      ledger := by
  have scheduled := (sound.underway cutoff _ underway).1.scheduled write List.mem_cons_self
  have atCutoff : config.floor = cutoff + 1 := by rw [Config.floor, underway]
  have sameBefore : forall instant, cutoff + 1 <= instant ->
      (config.state.materialize [write]).viewBefore instant = config.state.viewBefore instant := by
    rintro (_ | instant) ahead
    · cases ahead
    · rw [← State.settledView_eq_viewBefore, ← State.settledView_eq_viewBefore]
      exact State.settledView_materialize_one (Nat.le_of_succ_le_succ ahead) scheduled
  rcases tracks with ⟨base, decided, opened, closed⟩
  rw [atCutoff] at base decided opened closed
  refine ⟨(sameBefore _ (Nat.le_refl _)).trans base, ?_, ?_, closed⟩
  · intro instant ahead
    change Follows mayDefer ((config.state.materialize [write]).viewBefore instant) _ _
    rw [sameBefore instant ahead]
    exact decided instant ahead
  · intro instant ahead
    change Follows mayDefer ((config.state.materialize [write]).viewBefore instant) _ _
    rw [sameBefore instant ahead]
    exact opened instant ahead

/-- After the swap canonical storage is the new base. -/
theorem Tracks.swapped (tracks : Tracks cell mayDefer initial config ledger) (sound : Sound config)
    {cutoff : TxnId} (underway : config.finalizing = some (cutoff, [])) (semaphore : Semaphore K) :
    Tracks cell mayDefer initial ⟨⟨config.state.finalizeSwap cutoff, semaphore⟩, none⟩
      (ledger.discardThrough cutoff) := by
  have done := (sound.underway cutoff _ underway).1
  have atCutoff : config.floor = cutoff + 1 := by rw [Config.floor, underway]
  have sameBefore : forall instant, cutoff + 1 <= instant ->
      (config.state.finalizeSwap cutoff).viewBefore instant = config.state.viewBefore instant := by
    rintro (_ | instant) ahead
    · cases ahead
    · rw [← State.settledView_eq_viewBefore, ← State.settledView_eq_viewBefore]
      exact State.settledView_finalizeSwap done (Nat.le_of_succ_le_succ ahead)
  rcases tracks with ⟨base, decided, opened, closed⟩
  rw [atCutoff] at base decided opened closed
  refine ⟨(sameBefore _ (Nat.le_refl _)).trans base, ?_, ?_, ?_⟩
  · intro instant ahead
    change Follows mayDefer ((config.state.finalizeSwap cutoff).viewBefore instant)
      ((config.state.finalizeSwap cutoff).decidedOverlay instant) _
    rw [sameBefore instant ahead, State.decidedOverlay, State.finalizeSwap_committed,
      if_pos (Nat.lt_of_succ_le ahead)]
    exact decided instant ahead
  · intro instant ahead
    change Follows mayDefer ((config.state.finalizeSwap cutoff).viewBefore instant)
      ((config.state.finalizeSwap cutoff).ownOverlay instant) _
    rw [sameBefore instant ahead, State.ownOverlay, State.finalizeSwap_pending,
      if_pos (Nat.lt_of_succ_le ahead), Ledger.discardThrough_openLog,
      if_pos (Nat.lt_of_succ_le ahead)]
    exact opened instant ahead
  · intro instant ahead present
    change (config.state.finalizeSwap cutoff).committed[instant]? ≠ none at present
    rw [State.finalizeSwap_committed, if_pos (Nat.lt_of_succ_le ahead)] at present
    rw [Ledger.discardThrough_openLog, if_pos (Nat.lt_of_succ_le ahead)]
    exact closed instant ahead present

/-! ### Runs -/

/-- The commits of a step are safe. -/
def StepSafe (cell : driver.Op -> CellWrite K V) (config : Config D Native K)
    (ledger : Ledger driver.Op) (action : Action driver) : Prop :=
  forall txn, action = .commit txn -> config.undecided txn = true -> CommitSafe cell config ledger txn

theorem note_idle {action : Action driver} (notMutation : forall txn op, action ≠ .mutate txn op)
    (notDecision : forall txn, action = .commit txn ∨ action = .rollback txn ->
      config.undecided txn = false)
    (notEnd : action = .finalizeEnd -> forall cutoff, config.finalizing ≠ some (cutoff, [])) :
    note driver config action ledger = ledger := by
  cases action with
  | mutate txn op => exact absurd rfl (notMutation txn op)
  | commit txn => rw [note, notDecision txn (Or.inl rfl)]; rfl
  | rollback txn => rw [note, notDecision txn (Or.inr rfl)]; rfl
  | finalizeEnd =>
      rw [note]
      split
      · rename_i done
        exact absurd done (notEnd rfl _)
      · rfl
  | traffic event => rfl
  | finalizeBegin cutoff => rfl
  | finalizeWrite => rfl

theorem step_tracks (faithful : Faithful driver cell mayDefer) (sound : Sound config)
    (tracks : Tracks cell mayDefer initial config ledger) (action : Action driver)
    (safe : mayDefer -> StepSafe cell config ledger action) :
    Tracks cell mayDefer initial (step driver config action) (note driver config action ledger) := by
  have transition := step_transition driver config action
  generalize step driver config action = after at transition ⊢
  cases transition with
  | idle _ notMutation notDecision notEnd =>
      rw [note_idle notMutation notDecision notEnd]
      exact tracks
  | mutated txn op => exact tracks.mutated faithful sound txn op
  | passed event =>
      have still : Mutates 0 SetRange.all config.state config.state := Mutates.refl config.state
      exact tracks.reopened still rfl (fun _ _ => rfl) (tracks.opened 0) (fun _ => rfl)
  | committed txn undecided =>
      rw [note, if_pos undecided]
      exact tracks.committed undecided (fun may => safe may txn rfl undecided) _
  | discarded txn undecided =>
      rw [note, if_pos undecided]
      exact tracks.discarded txn _
  | began cutoff free fresh => exact tracks.began free fresh _
  | wrote cutoff write remaining underway => exact tracks.wrote sound underway
  | swapped cutoff underway =>
      simp only [note, underway]
      exact tracks.swapped sound underway _

theorem Tracks.start (driver : Driver D Native K) (cell : driver.Op -> CellWrite K V)
    (mayDefer : Prop) (canonical : Native) :
    Tracks cell mayDefer (bindings canonical) (Config.start canonical : Config D Native K)
      Ledger.empty := by
  have noCommitted : forall instant : TxnId,
      (Config.start canonical : Config D Native K).state.committed[instant]? = none :=
    fun _ => ExtTreeMap.getElem?_empty
  have noPending : forall instant : TxnId,
      (Config.start canonical : Config D Native K).state.pending[instant]? = none :=
    fun _ => ExtTreeMap.getElem?_empty
  have noDecidedLog : forall instant : TxnId,
      (Ledger.empty : Ledger driver.Op).decidedLog instant = [] := by
    intro instant
    rw [Ledger.decidedLog, Ledger.empty, ExtTreeMap.getElem?_empty]
    rfl
  have noOpenLog : forall instant : TxnId,
      (Ledger.empty : Ledger driver.Op).openLog instant = [] := by
    intro instant
    rw [Ledger.openLog, Ledger.empty, ExtTreeMap.getElem?_empty]
    rfl
  refine ⟨?_, ?_, ?_, fun instant _ _ => noOpenLog instant⟩
  · change (Config.start canonical : Config D Native K).state.viewBefore 0 = _
    rw [State.viewBefore_zero, Ledger.serialBefore]
    simp [Config.start, Config.floor, Config.state, CollectionOwner.new, State.new]
  · intro instant _ key
    rw [State.decidedOverlay, noCommitted, noDecidedLog]
    exact Or.inl rfl
  · intro instant _ key
    rw [State.ownOverlay, noPending, noOpenLog]
    exact Or.inl rfl

/-- Over a run whose commits are safe, the collection keeps up with its ledger. -/
theorem run_tracks (faithful : Faithful driver cell mayDefer) (sound : Sound config)
    (tracks : Tracks cell mayDefer initial config ledger) (actions : List (Action driver))
    (safe : mayDefer -> Meets driver (StepSafe cell) config ledger actions) :
    Tracks cell mayDefer initial (run driver config actions)
      (chronicle driver config ledger actions) := by
  induction actions generalizing config ledger with
  | nil => exact tracks
  | cons action actions inductionHypothesis =>
      exact inductionHypothesis (step_sound sound action)
        (step_tracks faithful sound tracks action (fun may => (safe may).1))
        (fun may => (safe may).2)

omit [DecidableEq K] in
/-- A reader ahead of the frontier, and of a finalization under way, is past
the floor. -/
theorem Config.Ahead.floor_le {txn : TxnId} (ahead : config.Ahead txn) : config.floor <= txn := by
  rcases ahead with ⟨fresh, beyond⟩
  cases underway : config.finalizing with
  | none => exact Config.floor_le_of_fresh underway fresh
  | some progress =>
      rcases progress with ⟨cutoff, remaining⟩
      rw [Config.floor, underway]
      exact beyond cutoff remaining underway

end Simulation

end Persistence
end TransactionalCollection
