import TransactionalCollection.Persistence.Decisions

namespace TransactionalCollection
namespace Persistence

open Std (ExtTreeMap)
open Layering Native Execution

/-!
# Finalizations which fail

A storage error stops a finalization between two of its native writes.  The call
returns an error, and nothing is pruned: what it has written stays in canonical
storage, under deltas which are still there.  It may be called again, with the
same cutoff or with another one, and fail again.

Beside such a run stands canonical storage as those finalizations alone make it
which succeed.  The two differ only under keys which some committed delta up to
the greatest failed cutoff answers, so that whoever reads from past it does not
notice; and the first success at or past that cutoff removes the difference.
-/

/-- A step, or a storage error which stops the finalization under way. -/
inductive Attempt {D Native K V : Type} [DecidableEq K] [PersistentDelta D Native]
    [StoredMap Native K V] [LayeredDelta D Native K V] (driver : Driver D Native K) where
  | act (action : Action driver)
  | fail

/-- A collection in which finalizations fail, canonical storage as those which
succeed make it, and the first instant past the cutoffs of those which failed. -/
structure Trial (D Native K : Type) [PersistentDelta D Native] where
  config : Config D Native K
  settled : Native
  horizon : TxnId

namespace Trial

section Attempts

variable {D Native K V : Type} [DecidableEq K] [PersistentDelta D Native] [StoredMap Native K V]
  [LayeredDelta D Native K V] (driver : Driver D Native K)

def start (canonical : Native) : Trial D Native K := ⟨Config.start canonical, canonical, 0⟩

/-- The deltas of a finalization are settled when it succeeds, all at once. -/
def settle (trial : Trial D Native K) : Action driver -> Native
  | .finalizeEnd =>
      match trial.config.finalizing with
      | some (cutoff, []) => performAll (trial.config.state.finalizeWrites cutoff) trial.settled
      | _ => trial.settled
  | .mutate _ _ | .traffic _ | .commit _ | .rollback _ | .finalizeBegin _ | .finalizeWrite => trial.settled

def attempt (trial : Trial D Native K) : Attempt driver -> Trial D Native K
  | .act action => ⟨step driver trial.config action, trial.settle driver action, trial.horizon⟩
  | .fail =>
      match trial.config.finalizing with
      | some (cutoff, _) => ⟨{ trial.config with finalizing := none }, trial.settled, max trial.horizon (cutoff + 1)⟩
      | none => trial

def attempts (trial : Trial D Native K) (list : List (Attempt driver)) : Trial D Native K :=
  list.foldl (attempt driver) trial

end Attempts

variable {D Native K : Type} [PersistentDelta D Native]

/-- The collection over settled storage, with no finalization under way. -/
def ideal (trial : Trial D Native K) : Config D Native K :=
  ⟨{ trial.config.owner with state := { trial.config.state with persistent := trial.settled } }, none⟩

/-- Past the frontier, a finalization under way and those which have failed. -/
def reach (trial : Trial D Native K) : TxnId := max trial.horizon trial.config.floor

end Trial

section Healing

variable {D Native K V : Type} [PersistentDelta D Native] [StoredMap Native K V]
  [LayeredDelta D Native K V]

/-- Whoever reads from past the failed finalizations sees the deltas of this run over
settled storage; and canonical storage is settled storage once a finalization has
succeeded at or past their cutoffs. -/
structure Trial.Heals (trial : Trial D Native K) : Prop where
  unnoticed : forall txn, trial.config.Ahead txn -> trial.horizon <= txn ->
    trial.config.state.view txn = trial.ideal.state.view txn
  healed : trial.config.finalizing = none -> trial.horizon <= trial.config.floor ->
    bindings trial.config.state.persistent = bindings trial.settled

/-- Canonical storage differs from settled storage only where the answer of a committed
delta up to the reach, and what is stored, are related. -/
def Trial.Differs (related : Option (Option V) -> Option V -> Prop) (trial : Trial D Native K) : Prop :=
  forall key, bindings trial.config.state.persistent key = bindings trial.settled key ∨
    exists instant, instant < trial.reach ∧
      related (trial.config.state.decidedOverlay instant key) (bindings trial.config.state.persistent key)

/-- Silence is related to nothing, and the native writes of a delta store what is
related to its answers. -/
structure Covers (D : Type) {Native K V : Type} [PersistentDelta D Native] [StoredMap Native K V]
    [LayeredDelta D Native K V] (related : Option (Option V) -> Option V -> Prop) : Prop where
  silent : forall value, ¬ related none value
  writes : forall (delta : D) (native : Native) (write : PersistentDelta.Write D) (key : K), Separate delta ->
    write ∈ PersistentDelta.nativeWrites delta ->
      bindings (PersistentDelta.perform write native) key = bindings native key ∨
        related (overlay delta key) (bindings (PersistentDelta.perform write native) key)

/-- Any answer. -/
def Answered (answer : Option (Option V)) (_ : Option V) : Prop := answer ≠ none

theorem covers_answered : Covers D (Answered : Option (Option V) -> Option V -> Prop) where
  silent _ answered := answered rfl
  writes := by
    intro delta native write key _ written
    by_cases answers : overlay delta key = none
    · exact Or.inl (LayeredDelta.perform_silent delta native write key written answers)
    · exact Or.inr answers

namespace State

variable {state : State D Native} {instant txn : TxnId} {key : K}

/-- What answers at an instant is a committed delta. -/
theorem committed_of_decides (decides : state.decidedOverlay instant key ≠ none) :
    exists delta, state.committed[instant]? = some (some delta) ∧ overlay delta key ≠ none := by
  unfold decidedOverlay at decides
  cases found : state.committed[instant]? with
  | none =>
      rw [found] at decides
      exact absurd rfl decides
  | some decision =>
      rw [found] at decides
      cases decision with
      | none => exact absurd rfl decides
      | some delta => exact ⟨delta, rfl, decides⟩

/-- It is among the layers through any later instant. -/
theorem layer_of_decides (decides : state.decidedOverlay instant key ≠ none) (early : instant <= txn) :
    exists layer, layer ∈ (state.committedThrough txn).map overlay ∧ layer key ≠ none := by
  rcases committed_of_decides decides with ⟨delta, found, answers⟩
  exact ⟨overlay delta, List.mem_map_of_mem (mem_committedThrough_iff.mpr ⟨instant, early, found⟩), answers⟩

end State

/-- Nothing is committed below the floor while no finalization is under way. -/
theorem Sound.floor_le_of_decides {config : Config D Native K} {instant : TxnId} {key : K}
    (sound : Sound config) (free : config.finalizing = none)
    (decides : config.state.decidedOverlay instant key ≠ none) : config.floor <= instant := by
  rcases State.committed_of_decides decides with ⟨delta, found, _⟩
  apply Config.floor_le_of_fresh free
  apply sound.committedAhead
  rw [found]
  exact Option.some_ne_none _

namespace Trial.Differs

variable {related : Option (Option V) -> Option V -> Prop} {trial : Trial D Native K} {txn : TxnId}

/-- A stack through the reach absorbs the difference. -/
theorem settledView_eq (differs : trial.Differs Answered) (past : trial.reach <= txn + 1) :
    trial.config.state.settledView txn = trial.ideal.state.settledView txn := by
  apply stack_absorb
  intro key
  rcases differs key with same | ⟨instant, early, decides⟩
  · exact Or.inl same
  · exact Or.inr (State.layer_of_decides decides (Nat.le_of_lt_succ (Nat.lt_of_lt_of_le early past)))

theorem view_eq (differs : trial.Differs Answered) (past : trial.reach <= txn + 1) :
    trial.config.state.view txn = trial.ideal.state.view txn := by
  rw [State.view_eq, State.view_eq, differs.settledView_eq past]
  rfl

/-- Where nothing is committed below the reach, there is no difference. -/
theorem bindings_eq (differs : trial.Differs Answered) (sound : Sound trial.config)
    (free : trial.config.finalizing = none) (passed : trial.horizon <= trial.config.floor) :
    bindings trial.config.state.persistent = bindings trial.settled := by
  funext key
  rcases differs key with same | ⟨instant, early, decides⟩
  · exact same
  · rw [Trial.reach, Nat.max_eq_right passed] at early
    exact absurd early (Nat.not_lt_of_le (sound.floor_le_of_decides free decides))

theorem decides (covers : Covers D related) {state : State D Native} {instant : TxnId} {key : K} {value : Option V}
    (answered : related (state.decidedOverlay instant key) value) : state.decidedOverlay instant key ≠ none := by
  intro silent
  rw [silent] at answered
  exact covers.silent value answered

/-- The difference does not grow while canonical storage and the decisions below the
reach stay, and the reach does not shrink. -/
theorem kept (covers : Covers D related) {after : Trial D Native K} (differs : trial.Differs related)
    (persistent : after.config.state.persistent = trial.config.state.persistent)
    (settled : after.settled = trial.settled)
    (decided : forall instant key, trial.config.state.decidedOverlay instant key ≠ none ->
      after.config.state.decidedOverlay instant key = trial.config.state.decidedOverlay instant key)
    (reach : trial.reach <= after.reach) : after.Differs related := by
  intro key
  rw [persistent, settled]
  rcases differs key with same | ⟨instant, early, answered⟩
  · exact Or.inl same
  · refine Or.inr ⟨instant, Nat.lt_of_lt_of_le early reach, ?_⟩
    rw [decided instant key (decides covers answered)]
    exact answered

/-- A first commit hides no answer of another instant. -/
theorem decidedOverlay_recordCommit {state : State D Native} {instant : TxnId} {key : K}
    (absent : state.committed[txn]? = none) (decides : state.decidedOverlay instant key ≠ none) :
    (state.recordCommit txn).decidedOverlay instant key = state.decidedOverlay instant key := by
  rw [State.recordCommit_decidedOverlay, if_neg]
  rintro rfl
  rw [State.decidedOverlay, absent] at decides
  exact decides rfl

/-- A native write falls under a committed delta up to the cutoff. -/
theorem wrote (covers : Covers D related) (differs : trial.Differs related) (sound : Sound trial.config)
    {cutoff : TxnId} {write : PersistentDelta.Write D} {remaining : List (PersistentDelta.Write D)}
    (underway : trial.config.finalizing = some (cutoff, write :: remaining))
    (scheduled : write ∈ trial.config.state.finalizeWrites cutoff) :
    Trial.Differs related ⟨⟨{ trial.config.owner with state := trial.config.state.materialize [write] },
      some (cutoff, remaining)⟩, trial.settled, trial.horizon⟩ := by
  have atCutoff : trial.reach = max trial.horizon (cutoff + 1) := by
    rw [Trial.reach, Config.floor, underway]
  intro key
  rcases List.mem_flatMap.mp scheduled with ⟨delta, member, writes⟩
  rcases State.mem_committedThrough_iff.mp member with ⟨instant, early, found⟩
  change bindings (PersistentDelta.perform write trial.config.state.persistent) key = _ ∨ exists at_, _ ∧
    related _ (bindings (PersistentDelta.perform write trial.config.state.persistent) key)
  have written := covers.writes delta trial.config.state.persistent write key
    (sound.committedSeparate instant delta found) writes
  rcases written with same | answered
  · rw [same]
    rcases differs key with equal | ⟨other, below, answered⟩
    · exact Or.inl equal
    · rw [atCutoff] at below
      exact Or.inr ⟨other, below, answered⟩
  · refine Or.inr ⟨instant, Nat.lt_of_lt_of_le (Nat.lt_succ_of_le early) (Nat.le_max_right _ _), ?_⟩
    have decided : trial.config.state.decidedOverlay instant key = overlay delta key := by
      rw [State.decidedOverlay, found]
      rfl
    change related (trial.config.state.decidedOverlay instant key) _
    rw [decided]
    exact answered

/-- Success settles the deltas up to the cutoff in both storages alike. -/
theorem swapped (covers : Covers D related) (differs : trial.Differs related) (sound : Sound trial.config)
    {cutoff : TxnId} (underway : trial.config.finalizing = some (cutoff, [])) (semaphore : Semaphore K) :
    Trial.Differs related ⟨⟨⟨trial.config.state.finalizeSwap cutoff, semaphore⟩, none⟩,
      performAll (trial.config.state.finalizeWrites cutoff) trial.settled, trial.horizon⟩ := by
  have atCutoff : trial.reach = max trial.horizon (cutoff + 1) := by
    rw [Trial.reach, Config.floor, underway]
  have canonical : bindings trial.config.state.persistent = trial.config.state.settledView cutoff :=
    (sound.underway cutoff [] underway).1.finishes
  have settled : bindings (performAll (trial.config.state.finalizeWrites cutoff) trial.settled) =
      trial.ideal.state.settledView cutoff :=
    State.bindings_performAll (sound.separateThrough cutoff) trial.settled
  intro key
  have absorbed : (bindings trial.config.state.persistent key = bindings trial.settled key ∨
      exists layer, layer ∈ (trial.config.state.committedThrough cutoff).map overlay ∧ layer key ≠ none) ->
      bindings trial.config.state.persistent key =
        bindings (performAll (trial.config.state.finalizeWrites cutoff) trial.settled) key := by
    intro covered
    rw [canonical, settled]
    exact stack_congr_base covered
  rcases differs key with same | ⟨instant, early, answered⟩
  · exact Or.inl (absorbed (Or.inl same))
  · rcases Nat.lt_or_ge cutoff instant with later | through
    · -- a delta past the cutoff, of a failed finalization: it is still committed
      refine Or.inr ⟨instant, ?_, ?_⟩
      · rw [atCutoff] at early
        change instant < max trial.horizon (cutoff + 1)
        exact early
      · change related ((trial.config.state.finalizeSwap cutoff).decidedOverlay instant key) _
        rw [State.decidedOverlay, State.finalizeSwap_committed, if_pos later]
        exact answered
    · exact Or.inl (absorbed (Or.inr (State.layer_of_decides (decides covers answered) through)))

end Trial.Differs

/-! ## Runs -/

variable [DecidableEq K] {driver : Driver D Native K} {trial : Trial D Native K}
  {related : Option (Option V) -> Option V -> Prop}

/-- What is not the end of a finalization settles nothing. -/
theorem Trial.settle_idle {action : Action driver}
    (notEnd : action = .finalizeEnd -> forall cutoff, trial.config.finalizing ≠ some (cutoff, [])) :
    trial.settle driver action = trial.settled := by
  cases action with
  | finalizeEnd =>
      rw [Trial.settle]
      split
      · exact absurd ‹_› (notEnd rfl _)
      · rfl
  | mutate | traffic | commit | rollback | finalizeBegin | finalizeWrite => rfl

theorem Trial.Differs.act (covers : Covers D related) (differs : trial.Differs related)
    (sound : Sound trial.config) (action : Action driver) : (trial.attempt driver (.act action)).Differs related := by
  have transition := step_transition driver trial.config action
  rw [Trial.attempt]
  generalize step driver trial.config action = after at transition ⊢
  cases transition with
  | idle _ notMutation notDecision notEnd =>
      exact differs.kept covers rfl (Trial.settle_idle notEnd) (fun _ _ _ => rfl) (Nat.le_refl _)
  | mutated txn op =>
      have moved := (driver.admits txn op trial.config.owner).mutates
      have sameFloor : ({ trial.config with owner := finalState (driver.mutate txn op trial.config.owner) } :
          Config D Native K).floor = trial.config.floor := Config.floor_congr rfl moved.finalized
      refine differs.kept covers moved.persistent rfl ?_ (Nat.le_of_eq (congrArg (max trial.horizon) sameFloor.symm))
      intro instant key _
      exact congrFun (State.decidedOverlay_congr moved.committed instant) key
  | passed event => exact differs.kept covers rfl rfl (fun _ _ _ => rfl) (Nat.le_refl _)
  | committed txn undecided =>
      have absent := (State.assertWritable_eq_ok_iff.mp (Config.undecided_iff.mp undecided).2).2
      exact differs.kept covers rfl rfl (fun _ _ => Trial.Differs.decidedOverlay_recordCommit absent) (Nat.le_refl _)
  | discarded txn undecided => exact differs.kept covers rfl rfl (fun _ _ _ => rfl) (Nat.le_refl _)
  | began cutoff free fresh =>
      refine differs.kept covers rfl rfl (fun _ _ _ => rfl) ?_
      have low := Config.floor_le_of_fresh free fresh
      exact max_le_max_left trial.horizon (Nat.le_succ_of_le low)
  | wrote cutoff write remaining underway =>
      exact differs.wrote covers sound underway
        ((sound.underway cutoff _ underway).1.scheduled write List.mem_cons_self)
  | swapped cutoff underway =>
      rw [Trial.settle, underway]
      exact differs.swapped covers sound underway _

theorem Trial.Differs.fail (covers : Covers D related) (differs : trial.Differs related) :
    (trial.attempt driver .fail).Differs related := by
  rw [Trial.attempt]
  split
  · rename_i cutoff remaining underway
    refine differs.kept covers rfl rfl (fun _ _ _ => rfl) ?_
    rw [Trial.reach, Config.floor, underway]
    exact Nat.le_max_left _ _
  · exact differs

omit [DecidableEq K] in
theorem Sound.stopped {config : Config D Native K} (sound : Sound config) :
    Sound { config with finalizing := none } where
  pendingSeparate := sound.pendingSeparate
  committedSeparate := sound.committedSeparate
  pendingAhead := sound.pendingAhead
  committedAhead := sound.committedAhead
  apart := sound.apart
  underway := by
    intro cutoff remaining impossible
    cases impossible

theorem Trial.attempt_sound (sound : Sound trial.config) (attempt : Attempt driver) :
    Sound (trial.attempt driver attempt).config := by
  cases attempt with
  | act action => exact step_sound sound action
  | fail =>
      rw [Trial.attempt]
      split
      · exact sound.stopped
      · exact sound

/-- What every attempt keeps. -/
theorem Trial.attempts_differs (covers : Covers D related) (sound : Sound trial.config)
    (differs : trial.Differs related) (list : List (Attempt driver)) :
    Sound (trial.attempts driver list).config ∧ (trial.attempts driver list).Differs related := by
  induction list generalizing trial with
  | nil => exact ⟨sound, differs⟩
  | cons attempt list inductionHypothesis =>
      apply inductionHypothesis (Trial.attempt_sound sound attempt)
      cases attempt with
      | act action => exact differs.act covers sound action
      | fail => exact differs.fail covers

theorem Trial.start_attempts (covers : Covers D related) (canonical : Native) (list : List (Attempt driver)) :
    Sound ((Trial.start canonical).attempts driver list).config ∧
      ((Trial.start canonical).attempts driver list).Differs related :=
  Trial.attempts_differs covers (Sound.start canonical) (fun _ => Or.inl rfl) list

/-- However often finalizations fail, and wherever, they heal. -/
theorem Trial.attempts_heal (driver : Driver D Native K) (canonical : Native)
    (list : List (Attempt driver)) : ((Trial.start canonical).attempts driver list).Heals := by
  rcases Trial.start_attempts covers_answered canonical list with ⟨sound, differs⟩
  constructor
  · intro txn ahead past
    exact differs.view_eq (Nat.le_succ_of_le (max_le past ahead.floor_le))
  · intro free passed
    exact differs.bindings_eq sound free passed

/-! ## Serial replay past failures -/

/-- A failure leaves no entry in the ledger. -/
def Trial.note (driver : Driver D Native K) (trial : Trial D Native K) :
    Attempt driver -> Ledger driver.Op -> Ledger driver.Op
  | .act action => Persistence.note driver trial.config action
  | .fail => id

def Trial.chronicle (driver : Driver D Native K) :
    Trial D Native K -> Ledger driver.Op -> List (Attempt driver) -> Ledger driver.Op
  | _, ledger, [] => ledger
  | trial, ledger, attempt :: list =>
      Trial.chronicle driver (trial.attempt driver attempt) (trial.note driver attempt ledger) list

variable {cell : driver.Op -> CellWrite K V} {initial : View K V} {config : Config D Native K}
  {ledger : Ledger driver.Op}

/-- A finalization from its first write to its swap, over any storage. -/
theorem Tracks.materialized (tracks : Tracks cell False initial config ledger) (sound : Sound config)
    {cutoff : TxnId} {writes : List (PersistentDelta.Write D)}
    (underway : config.finalizing = some (cutoff, writes)) (semaphore : Semaphore K) :
    Tracks cell False initial
      ⟨⟨(config.state.materialize writes).finalizeSwap cutoff, semaphore⟩, none⟩
      (ledger.discardThrough cutoff) := by
  induction writes generalizing config with
  | nil => exact tracks.swapped sound underway semaphore
  | cons write writes inductionHypothesis =>
      exact inductionHypothesis (tracks.wrote sound underway) (sound.wrote underway) rfl

omit [DecidableEq K] in
theorem Sound.ideal (sound : Sound trial.config) : Sound trial.ideal where
  pendingSeparate := sound.pendingSeparate
  committedSeparate := sound.committedSeparate
  pendingAhead := sound.pendingAhead
  committedAhead := sound.committedAhead
  apart := sound.apart
  underway := by
    intro cutoff remaining impossible
    cases impossible

/-- A mutation does to the delta of its transaction what it does to the log, and
knows nothing of canonical storage. -/
theorem Tracks.ideal_mutated (tracks : Tracks cell False initial trial.ideal ledger)
    (faithful : Faithful driver cell False) (sound : Sound trial.config) (txn : TxnId) (op : driver.Op) :
    Tracks cell False initial (trial.attempt driver (.act (.mutate txn op))).ideal
      (trial.note driver (.act (.mutate txn op)) ledger) := by
  have moved := (driver.admits txn op trial.config.owner).mutates
  have onIdeal : Mutates txn (driver.range op) trial.ideal.state
      (trial.attempt driver (.act (.mutate txn op))).ideal.state :=
    ⟨rfl, moved.committed, moved.finalized, moved.others, moved.writable, moved.separate, moved.outside⟩
  have opened : trial.ideal.floor <= txn -> forall key,
      trial.config.owner.state.ownOverlay txn key = Ledger.answersOf cell (ledger.openLog txn) key := by
    intro ahead key
    rcases tracks.opened txn ahead key with same | ⟨impossible, _⟩
    · exact same
    · exact impossible.elim
  rw [Trial.note, Persistence.note]
  cases outcome : driver.mutate txn op trial.config.owner with
  | error error after =>
      refine tracks.reopened onIdeal rfl (fun _ _ => rfl) ?_ (fun _ => rfl)
      intro ahead key
      have unchanged := faithful.failure txn op error trial.config.owner after (sound.pendingSeparate txn) outcome
      left
      change (finalState (driver.mutate txn op trial.config.owner)).state.ownOverlay txn key = _
      rw [outcome, finalState_error, unchanged]
      exact opened ahead key
  | ok value after =>
      rcases faithful.success txn op trial.config.owner after (sound.pendingSeparate txn) outcome with
        ⟨writable, written | ⟨impossible, _⟩⟩
      · have undecided := (State.assertWritable_eq_ok_iff.mp writable).2
        refine tracks.reopened onIdeal rfl ?_ ?_ (fun decided => absurd undecided decided)
        · intro instant different
          exact (Ledger.record_openLog ledger txn instant op).trans (if_neg (Ne.symm different))
        · intro ahead key
          left
          change (finalState (driver.mutate txn op trial.config.owner)).state.ownOverlay txn key = _
          simp only [succeeded_ok, if_true]
          rw [outcome, finalState_ok, written key, Ledger.record_openLog, if_pos rfl, Ledger.answersOf_concat,
            opened ahead key]
      · exact impossible.elim

/-- Every attempt keeps settled storage up with the ledger. -/
theorem Tracks.ideal_attempt (tracks : Tracks cell False initial trial.ideal ledger)
    (faithful : Faithful driver cell False) (sound : Sound trial.config) (attempt : Attempt driver) :
    Tracks cell False initial (trial.attempt driver attempt).ideal (trial.note driver attempt ledger) := by
  cases attempt with
  | fail =>
      rw [Trial.attempt]
      split <;> exact tracks
  | act action =>
      have transition := step_transition driver trial.config action
      rw [Trial.attempt, Trial.note]
      generalize stepped : step driver trial.config action = after at transition ⊢
      cases transition with
      | idle _ notMutation notDecision notEnd =>
          rw [note_idle notMutation notDecision notEnd, Trial.settle_idle notEnd]
          exact tracks
      | mutated txn op =>
          exact tracks.ideal_mutated faithful sound txn op
      | passed event =>
          have still : Mutates 0 SetRange.all trial.ideal.state trial.ideal.state := Mutates.refl trial.ideal.state
          exact tracks.reopened still rfl (fun _ _ => rfl) (tracks.opened 0) (fun _ => rfl)
      | committed txn undecided =>
          rcases Config.undecided_iff.mp undecided with ⟨free, writable⟩
          have onIdeal : trial.ideal.undecided txn = true := Config.undecided_iff.mpr ⟨rfl, writable⟩
          rw [Persistence.note, if_pos undecided]
          exact tracks.committed onIdeal False.elim _
      | discarded txn undecided =>
          rw [Persistence.note, if_pos undecided]
          exact tracks.discarded txn _
      | began cutoff free fresh => exact tracks
      | wrote cutoff write remaining underway => exact tracks
      | swapped cutoff underway =>
          have fresh : trial.ideal.state.outdated cutoff = false := (sound.underway cutoff [] underway).2
          have begun := tracks.began rfl fresh (trial.ideal.state.finalizeWrites cutoff)
          have begunSound : Sound { trial.ideal with
              finalizing := some (cutoff, trial.ideal.state.finalizeWrites cutoff) } := by
            have same : Sound (step driver trial.ideal (.finalizeBegin cutoff)) := step_sound sound.ideal _
            rwa [step, fresh] at same
          simp only [Persistence.note, Trial.settle, underway]
          exact begun.materialized begunSound rfl _

/-- Settled storage keeps up with the ledger over whole runs. -/
theorem Trial.attempts_tracks (faithful : Faithful driver cell False) (sound : Sound trial.config)
    (tracks : Tracks cell False initial trial.ideal ledger) (list : List (Attempt driver)) :
    Tracks cell False initial (trial.attempts driver list).ideal (trial.chronicle driver ledger list) := by
  induction list generalizing trial ledger with
  | nil => exact tracks
  | cons attempt list inductionHypothesis =>
      exact inductionHypothesis (Trial.attempt_sound sound attempt) (tracks.ideal_attempt faithful sound attempt)

theorem Trial.start_tracks (faithful : Faithful driver cell False) (canonical : Native)
    (list : List (Attempt driver)) : Tracks cell False (bindings canonical)
      ((Trial.start canonical).attempts driver list).ideal
      ((Trial.start canonical).chronicle driver Ledger.empty list) := by
  have sound : Sound (Trial.start canonical : Trial D Native K).config := Sound.start canonical
  have tracks : Tracks cell False (bindings canonical) (Trial.start canonical : Trial D Native K).ideal Ledger.empty :=
    Tracks.start driver cell False canonical
  exact Trial.attempts_tracks faithful sound tracks list

omit [DecidableEq K] in
/-- So canonical storage is what is seen at the floor. -/
theorem Sound.viewBefore_floor (sound : Sound config) (free : config.finalizing = none) :
    config.state.viewBefore config.floor = bindings config.state.persistent := by
  rw [← State.viewBefore_zero]
  funext key
  apply State.viewBefore_of_silent (Nat.zero_le _)
  intro instant _ below
  by_contra decides
  exact absurd below (Nat.not_lt_of_le (sound.floor_le_of_decides free decides))

/-- Past failed finalizations a reader sees the serial replay of its history, and once
they have healed canonical storage is the replay of what has been finalized. -/
theorem Trial.attempts_serial (faithful : Faithful driver cell False) (canonical : Native)
    (list : List (Attempt driver)) {after : Trial D Native K} {history : Ledger driver.Op}
    (reached : (Trial.start canonical).attempts driver list = after)
    (noted : (Trial.start canonical).chronicle driver Ledger.empty list = history) :
    (forall txn, after.config.Ahead txn -> after.horizon <= txn ->
        after.config.state.view txn = history.serialView cell (bindings canonical) txn) ∧
      (after.config.finalizing = none -> after.horizon <= after.config.floor ->
        bindings after.config.state.persistent =
          history.serialBefore cell (bindings canonical) after.config.floor) := by
  have heals := Trial.attempts_heal driver canonical list
  have tracks := Trial.start_tracks faithful canonical list
  have soundAfter := (Trial.start_attempts covers_answered canonical list).1.ideal
  rw [reached] at heals tracks soundAfter
  rw [noted] at tracks
  constructor
  · intro txn ahead past
    have onIdeal : after.ideal.Ahead txn := by
      refine ⟨ahead.1, ?_⟩
      intro cutoff remaining impossible
      cases impossible
    rw [heals.unnoticed txn ahead past]
    exact tracks.view_eq soundAfter onIdeal.floor_le
  · intro free passed
    have sameFloor : after.ideal.floor = after.config.floor := Config.floor_congr free.symm rfl
    rw [heals.healed free passed, ← sameFloor]
    exact (soundAfter.viewBefore_floor rfl).symm.trans tracks.base

end Healing

end Persistence
end TransactionalCollection
