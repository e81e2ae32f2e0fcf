import TransactionalCollection.Persistence.Mutation

namespace TransactionalCollection
namespace Persistence

open Std (ExtTreeMap)
open Layering Native Execution

/-!
# Runs of a collection

A run interleaves mutations with lifecycle decisions.  The caller serializes
the decisions, so commits, rollbacks and new finalizations wait while a
finalization is under way; mutations and reads do not, and they may fall
between any two of its native writes.

What a collection contributes is a `Driver`: its mutations with the ranges
they reserve, and whatever else happens to the semaphore, such as the permits
of readers.
-/

/-- A collection, and the finalization under way with the writes it has left. -/
structure Config (D Native K : Type) [PersistentDelta D Native] where
  owner : CollectionOwner D Native K
  finalizing : Option (TxnId × List (PersistentDelta.Write D))

namespace Config

variable {D Native K : Type} [PersistentDelta D Native]

def state (config : Config D Native K) : State D Native := config.owner.state

def semaphore (config : Config D Native K) : Semaphore K := config.owner.semaphore

/-- A collection over canonical storage, before its first transaction. -/
def start (canonical : Native) : Config D Native K := ⟨CollectionOwner.new canonical, none⟩

/-- Neither passed by the frontier nor by a finalization under way. -/
def Ahead (config : Config D Native K) (txn : TxnId) : Prop :=
  config.state.outdated txn = false ∧
    forall cutoff remaining, config.finalizing = some (cutoff, remaining) -> cutoff < txn

instance (config : Config D Native K) (txn : TxnId) : Decidable (config.Ahead txn) :=
  decidable_of_iff (config.state.outdated txn = false ∧
      config.finalizing.all (fun progress => decide (progress.1 < txn)) = true) (by
    rw [Ahead]
    rcases config.finalizing with _ | ⟨cutoff, remaining⟩ <;> simp)

/-- A commit or rollback of the transaction is a first decision about it. -/
def undecided (config : Config D Native K) (txn : TxnId) : Bool :=
  config.finalizing.isNone && !config.state.outdated txn && !config.state.committed.contains txn

theorem undecided_iff {config : Config D Native K} {txn : TxnId} :
    config.undecided txn = true <->
      config.finalizing = none ∧ config.state.assertWritable txn = .ok () := by
  rw [undecided, State.assertWritable_eq_ok_iff, ← ExtTreeMap.isSome_getElem?_eq_contains]
  simp only [Bool.and_eq_true, Bool.not_eq_true', Option.isNone_iff_eq_none, Option.isSome_eq_false_iff,
    and_assoc]

end Config

section Decisions

variable {D Native K : Type} [PersistentDelta D Native]

/-- The owner's commit acts on a first decision and on nothing else. -/
theorem commit_finalState (config : Config D Native K) (txn : TxnId)
    (free : config.finalizing = none) :
    finalState (CollectionOwner.commit txn config.owner) =
      if config.undecided txn then
        ⟨config.state.recordCommit txn, config.semaphore.finalize txn false⟩
      else config.owner := by
  simp only [CollectionOwner.commit, Config.undecided, Config.state, Config.semaphore, free]
  cases config.owner.state.outdated txn <;> cases config.owner.state.committed.contains txn <;> rfl

theorem rollback_finalState (config : Config D Native K) (txn : TxnId)
    (free : config.finalizing = none) :
    finalState (CollectionOwner.rollback txn config.owner) =
      if config.undecided txn then
        ⟨config.state.discardPending txn, config.semaphore.finalize txn false⟩
      else config.owner := by
  simp only [CollectionOwner.rollback, Config.undecided, Config.state, Config.semaphore, free]
  cases config.owner.state.outdated txn <;> cases config.owner.state.committed.contains txn <;> rfl

end Decisions

/-! ## The invariant -/

section Invariant

variable {D Native K V : Type} [PersistentDelta D Native] [StoredMap Native K V]
  [LayeredDelta D Native K V]

/-- Deltas keep insertions and deletions apart, decided and open transactions
are distinct and ahead of the frontier, and a finalization under way will
leave canonical storage reading as the deltas it materializes. -/
structure Sound (config : Config D Native K) : Prop where
  pendingSeparate : forall (txn : TxnId) (delta : D),
    config.state.pending[txn]? = some delta -> Separate delta
  committedSeparate : forall (txn : TxnId) (delta : D),
    config.state.committed[txn]? = some (some delta) -> Separate delta
  pendingAhead : forall txn : TxnId,
    config.state.pending[txn]? ≠ none -> config.state.outdated txn = false
  committedAhead : forall txn : TxnId, config.state.committed[txn]? ≠ none ->
    config.state.outdated txn = false
  apart : forall txn : TxnId, config.state.committed[txn]? ≠ none -> config.state.pending[txn]? = none
  underway : forall cutoff remaining, config.finalizing = some (cutoff, remaining) ->
    config.state.Materializing cutoff remaining ∧ config.state.outdated cutoff = false

theorem Sound.ordered {config : Config D Native K} (sound : Sound config) : config.state.Ordered where
  pendingAhead := sound.pendingAhead
  committedAhead := sound.committedAhead
  apart := sound.apart

theorem Sound.start (canonical : Native) : Sound (Config.start canonical : Config D Native K) := by
  have ordered : (Config.start canonical : Config D Native K).state.Ordered := State.Ordered.new canonical
  refine ⟨?_, ?_, ordered.pendingAhead, ordered.committedAhead, ordered.apart, ?_⟩
  · intro txn delta present
    rw [show (Config.start canonical : Config D Native K).state.pending[txn]? = none from
      ExtTreeMap.getElem?_empty] at present
    cases present
  · intro txn delta present
    rw [show (Config.start canonical : Config D Native K).state.committed[txn]? = none from
      ExtTreeMap.getElem?_empty] at present
    cases present
  · intro cutoff remaining impossible
    cases impossible

theorem Sound.separateThrough {config : Config D Native K} (sound : Sound config) (txn : TxnId) :
    forall delta, delta ∈ config.state.committedThrough txn -> Separate delta := by
  intro delta member
  rcases State.mem_committedThrough_iff.mp member with ⟨id, _, found⟩
  exact sound.committedSeparate id delta found

/-! Each kind of change keeps the invariant. -/

theorem Sound.mutated {config : Config D Native K} (sound : Sound config) {txn : TxnId}
    {range : SetRange K} {owner : CollectionOwner D Native K}
    (moved : Mutates txn range config.state owner.state) : Sound { config with owner := owner } := by
  have outdated := State.outdated_of_finalized moved.finalized
  constructor
  · intro other delta present
    by_cases own : other = txn
    · subst own
      exact moved.separate (sound.pendingSeparate other) delta present
    · exact sound.pendingSeparate other delta (moved.others other own ▸ present)
  · intro other delta present
    exact sound.committedSeparate other delta (moved.committed ▸ present)
  · intro other present
    rw [Config.state, outdated]
    by_cases own : other = txn
    · subst own
      by_cases same : owner.state.pending[other]? = config.state.pending[other]?
      · exact sound.pendingAhead other (same ▸ present)
      · exact (State.assertWritable_eq_ok_iff.mp (moved.writable same)).1
    · exact sound.pendingAhead other (moved.others other own ▸ present)
  · intro other present
    rw [Config.state, outdated]
    exact sound.committedAhead other (moved.committed ▸ present)
  · intro other present
    have decided : config.state.committed[other]? ≠ none := moved.committed ▸ present
    change owner.state.pending[other]? = none
    by_cases own : other = txn
    · subst own
      by_cases same : owner.state.pending[other]? = config.state.pending[other]?
      · exact same.trans (sound.apart other decided)
      · exact absurd (State.assertWritable_eq_ok_iff.mp (moved.writable same)).2 decided
    · exact (moved.others other own).trans (sound.apart other decided)
  · intro cutoff remaining underway
    rcases sound.underway cutoff remaining underway with ⟨materializing, fresh⟩
    exact ⟨materializing.congr moved.persistent moved.committed, (outdated cutoff).trans fresh⟩

theorem Sound.committed {config : Config D Native K} (sound : Sound config) {txn : TxnId}
    (undecided : config.undecided txn = true) (semaphore : Semaphore K) :
    Sound { config with owner := ⟨config.state.recordCommit txn, semaphore⟩ } := by
  rcases Config.undecided_iff.mp undecided with ⟨free, writable⟩
  have ordered := sound.ordered.recordCommit (State.assertWritable_eq_ok_iff.mp writable).1
  refine ⟨?_, ?_, ordered.pendingAhead, ordered.committedAhead, ordered.apart, ?_⟩
  · intro other delta present
    change (config.state.recordCommit txn).pending[other]? = _ at present
    rw [State.recordCommit_pending] at present
    split at present
    · cases present
    · exact sound.pendingSeparate other delta present
  · intro other delta present
    change (config.state.recordCommit txn).committed[other]? = _ at present
    rw [State.recordCommit_committed] at present
    split at present
    · exact sound.pendingSeparate txn delta (Option.some.inj present)
    · exact sound.committedSeparate other delta present
  · intro cutoff remaining underway
    rw [free] at underway
    cases underway

theorem Sound.discarded {config : Config D Native K} (sound : Sound config) {txn : TxnId}
    (undecided : config.undecided txn = true) (semaphore : Semaphore K) :
    Sound { config with owner := ⟨config.state.discardPending txn, semaphore⟩ } := by
  have free := (Config.undecided_iff.mp undecided).1
  have ordered := sound.ordered.discardPending txn
  refine ⟨?_, sound.committedSeparate, ordered.pendingAhead, ordered.committedAhead, ordered.apart, ?_⟩
  · intro other delta present
    change (config.state.discardPending txn).pending[other]? = _ at present
    rw [State.discardPending_pending] at present
    split at present
    · cases present
    · exact sound.pendingSeparate other delta present
  · intro cutoff remaining underway
    rw [free] at underway
    cases underway

theorem Sound.wrote {config : Config D Native K} (sound : Sound config) {cutoff : TxnId}
    {write : PersistentDelta.Write D} {remaining : List (PersistentDelta.Write D)}
    (underway : config.finalizing = some (cutoff, write :: remaining)) :
    Sound (⟨{ config.owner with state := config.state.materialize [write] },
      some (cutoff, remaining)⟩ : Config D Native K) := by
  rcases sound.underway cutoff _ underway with ⟨materializing, fresh⟩
  refine ⟨sound.pendingSeparate, sound.committedSeparate, sound.pendingAhead, sound.committedAhead,
    sound.apart, ?_⟩
  intro other rest same
  cases same
  exact ⟨materializing.perform, fresh⟩

theorem Sound.swapped {config : Config D Native K} (sound : Sound config) (cutoff : TxnId)
    (semaphore : Semaphore K) :
    Sound (⟨⟨config.state.finalizeSwap cutoff, semaphore⟩, none⟩ : Config D Native K) := by
  have ordered := sound.ordered.finalizeSwap cutoff
  refine ⟨?_, ?_, ordered.pendingAhead, ordered.committedAhead, ordered.apart, ?_⟩
  · intro txn delta present
    change (config.state.finalizeSwap cutoff).pending[txn]? = _ at present
    rw [State.finalizeSwap_pending] at present
    split at present
    · exact sound.pendingSeparate txn delta present
    · cases present
  · intro txn delta present
    change (config.state.finalizeSwap cutoff).committed[txn]? = _ at present
    rw [State.finalizeSwap_committed] at present
    split at present
    · exact sound.committedSeparate txn delta present
    · cases present
  · intro other remaining impossible
    cases impossible

end Invariant

/-! ## Steps -/

/-- The operations of one collection, as the lifecycle sees them. -/
structure Driver (D Native K : Type) [DecidableEq K] {V : Type} [PersistentDelta D Native]
    [StoredMap Native K V] [LayeredDelta D Native K V] where
  Op : Type
  Error : Type
  mutate : TxnId -> Op -> EStateM Error (CollectionOwner D Native K) PUnit
  range : Op -> SetRange K
  admits : forall (txn : TxnId) (op : Op) (owner : CollectionOwner D Native K),
    Admits txn (range op) owner (finalState (mutate txn op owner))
  Traffic : Type
  passes : Traffic -> Semaphore K -> Semaphore K

section Steps

variable {D Native K V : Type} [DecidableEq K] [PersistentDelta D Native] [StoredMap Native K V]
  [LayeredDelta D Native K V]

inductive Action (driver : Driver D Native K) where
  | mutate (txn : TxnId) (op : driver.Op)
  | traffic (event : driver.Traffic)
  | commit (txn : TxnId)
  | rollback (txn : TxnId)
  | finalizeBegin (cutoff : TxnId)
  | finalizeWrite
  | finalizeEnd

variable (driver : Driver D Native K)

/-- One step.  What is not admitted in a configuration leaves it as it is. -/
def step (config : Config D Native K) : Action driver -> Config D Native K
  | .mutate txn op => { config with owner := finalState (driver.mutate txn op config.owner) }
  | .traffic event =>
      { config with owner :=
        { config.owner with semaphore := driver.passes event config.owner.semaphore } }
  | .commit txn =>
      if config.finalizing.isNone then
        { config with owner := finalState (CollectionOwner.commit txn config.owner) }
      else config
  | .rollback txn =>
      if config.finalizing.isNone then
        { config with owner := finalState (CollectionOwner.rollback txn config.owner) }
      else config
  | .finalizeBegin cutoff =>
      if config.finalizing.isNone && !config.state.outdated cutoff then
        { config with finalizing := some (cutoff, config.state.finalizeWrites cutoff) }
      else config
  | .finalizeWrite =>
      match config.finalizing with
      | some (cutoff, write :: remaining) =>
          ⟨{ config.owner with state := config.state.materialize [write] }, some (cutoff, remaining)⟩
      | _ => config
  | .finalizeEnd =>
      match config.finalizing with
      | some (cutoff, []) =>
          ⟨⟨config.state.finalizeSwap cutoff, config.semaphore.finalize cutoff true⟩, none⟩
      | _ => config

def run (config : Config D Native K) (actions : List (Action driver)) : Config D Native K :=
  actions.foldl (step driver) config

@[simp] theorem run_nil (config : Config D Native K) : run driver config [] = config := rfl

theorem run_append (config : Config D Native K) (first second : List (Action driver)) :
    run driver config (first ++ second) = run driver (run driver config first) second :=
  List.foldl_append

/-- Everything one step can do. -/
inductive Transition : Config D Native K -> Action driver -> Config D Native K -> Prop where
  | idle (config : Config D Native K) (action : Action driver)
      (notMutation : forall txn op, action ≠ .mutate txn op)
      (notDecision : forall txn, action = .commit txn ∨ action = .rollback txn ->
        config.undecided txn = false)
      (notEnd : action = .finalizeEnd ->
        forall cutoff, config.finalizing ≠ some (cutoff, [])) :
      Transition config action config
  | mutated (config : Config D Native K) (txn : TxnId) (op : driver.Op) :
      Transition config (.mutate txn op)
        { config with owner := finalState (driver.mutate txn op config.owner) }
  | passed (config : Config D Native K) (event : driver.Traffic) :
      Transition config (.traffic event)
        { config with owner :=
          { config.owner with semaphore := driver.passes event config.owner.semaphore } }
  | committed (config : Config D Native K) (txn : TxnId)
      (undecided : config.undecided txn = true) :
      Transition config (.commit txn)
        { config with owner := ⟨config.state.recordCommit txn, config.semaphore.finalize txn false⟩ }
  | discarded (config : Config D Native K) (txn : TxnId)
      (undecided : config.undecided txn = true) :
      Transition config (.rollback txn)
        { config with owner := ⟨config.state.discardPending txn, config.semaphore.finalize txn false⟩ }
  | began (config : Config D Native K) (cutoff : TxnId) (free : config.finalizing = none)
      (fresh : config.state.outdated cutoff = false) :
      Transition config (.finalizeBegin cutoff)
        { config with finalizing := some (cutoff, config.state.finalizeWrites cutoff) }
  | wrote (config : Config D Native K) (cutoff : TxnId) (write : PersistentDelta.Write D)
      (remaining : List (PersistentDelta.Write D))
      (underway : config.finalizing = some (cutoff, write :: remaining)) :
      Transition config .finalizeWrite
        ⟨{ config.owner with state := config.state.materialize [write] }, some (cutoff, remaining)⟩
  | swapped (config : Config D Native K) (cutoff : TxnId)
      (underway : config.finalizing = some (cutoff, [])) :
      Transition config .finalizeEnd
        ⟨⟨config.state.finalizeSwap cutoff, config.semaphore.finalize cutoff true⟩, none⟩

theorem step_transition (config : Config D Native K) (action : Action driver) :
    Transition driver config action (step driver config action) := by
  have undecided_of_busy : forall txn, ¬ config.finalizing.isNone = true ->
      config.undecided txn = false := by
    intro txn busy
    rw [Config.undecided, Bool.eq_false_of_not_eq_true busy]
    rfl
  cases action with
  | mutate txn op => exact .mutated config txn op
  | traffic event => exact .passed config event
  | commit txn =>
      rw [step]
      split
      · rename_i free
        rw [commit_finalState config txn (Option.isNone_iff_eq_none.mp free)]
        split
        · exact .committed config txn ‹_›
        · refine .idle config _ (by simp) ?_ (by simp)
          rintro _ (⟨⟨⟩⟩ | ⟨⟨⟩⟩)
          exact Bool.eq_false_of_not_eq_true ‹_›
      · refine .idle config _ (by simp) ?_ (by simp)
        exact fun other _ => undecided_of_busy other ‹_›
  | rollback txn =>
      rw [step]
      split
      · rename_i free
        rw [rollback_finalState config txn (Option.isNone_iff_eq_none.mp free)]
        split
        · exact .discarded config txn ‹_›
        · refine .idle config _ (by simp) ?_ (by simp)
          rintro _ (⟨⟨⟩⟩ | ⟨⟨⟩⟩)
          exact Bool.eq_false_of_not_eq_true ‹_›
      · refine .idle config _ (by simp) ?_ (by simp)
        exact fun other _ => undecided_of_busy other ‹_›
  | finalizeBegin cutoff =>
      rw [step]
      split
      · rename_i admitted
        rw [Bool.and_eq_true, Bool.not_eq_true'] at admitted
        exact .began config cutoff (Option.isNone_iff_eq_none.mp admitted.1) admitted.2
      · exact .idle config _ (by simp) (by simp) (by simp)
  | finalizeWrite =>
      rw [step]
      split
      · exact .wrote config _ _ _ ‹_›
      · exact .idle config _ (by simp) (by simp) (by simp)
  | finalizeEnd =>
      rw [step]
      split
      · exact .swapped config _ ‹_›
      · rename_i notDone
        exact .idle config _ (by simp) (by simp) (fun _ cutoff done => notDone cutoff done)

end Steps

section Runs

variable {D Native K V : Type} [DecidableEq K] [PersistentDelta D Native] [StoredMap Native K V]
  [LayeredDelta D Native K V] {driver : Driver D Native K}

theorem step_sound {config : Config D Native K} (sound : Sound config) (action : Action driver) :
    Sound (step driver config action) := by
  have transition := step_transition driver config action
  generalize step driver config action = after at transition ⊢
  cases transition with
  | idle => exact sound
  | mutated txn op => exact sound.mutated (driver.admits txn op config.owner).mutates
  | passed event =>
      have still : Mutates 0 SetRange.all config.state config.state := Mutates.refl config.state
      exact sound.mutated still
  | committed txn undecided => exact sound.committed undecided _
  | discarded txn undecided => exact sound.discarded undecided _
  | began cutoff free fresh =>
      refine ⟨sound.pendingSeparate, sound.committedSeparate, sound.pendingAhead,
        sound.committedAhead, sound.apart, ?_⟩
      intro other remaining same
      cases same
      exact ⟨State.Materializing.start (sound.separateThrough cutoff), fresh⟩
  | wrote cutoff write remaining underway => exact sound.wrote underway
  | swapped cutoff underway => exact sound.swapped cutoff _

theorem run_sound {config : Config D Native K} (sound : Sound config)
    (actions : List (Action driver)) : Sound (run driver config actions) := by
  induction actions generalizing config with
  | nil => exact sound
  | cons action actions inductionHypothesis => exact inductionHypothesis (step_sound sound action)

/-- Reachable from some canonical storage, also past a finalization which a
storage error stopped before its swap. -/
inductive Reachable (driver : Driver D Native K) : Config D Native K -> Prop where
  | start (canonical : Native) : Reachable driver (Config.start canonical)
  | step {config : Config D Native K} (reachable : Reachable driver config)
      (action : Action driver) : Reachable driver (step driver config action)
  | stopped {config : Config D Native K} (reachable : Reachable driver config) :
      Reachable driver { config with finalizing := none }

theorem Reachable.sound {config : Config D Native K} (reachable : Reachable driver config) :
    Sound config := by
  induction reachable with
  | start canonical => exact Sound.start canonical
  | step _ action inductionHypothesis => exact step_sound inductionHypothesis action
  | stopped _ inductionHypothesis =>
      refine ⟨inductionHypothesis.pendingSeparate, inductionHypothesis.committedSeparate,
        inductionHypothesis.pendingAhead, inductionHypothesis.committedAhead,
        inductionHypothesis.apart, ?_⟩
      intro cutoff remaining impossible
      cases impossible

theorem Reachable.run {config : Config D Native K} (reachable : Reachable driver config)
    (actions : List (Action driver)) : Reachable driver (Persistence.run driver config actions) := by
  induction actions generalizing config with
  | nil => exact reachable
  | cons action actions inductionHypothesis => exact inductionHypothesis (reachable.step action)

/-! ## A finalization as one call -/

/-- The steps of an uninterrupted finalization. -/
def finalizeSteps (driver : Driver D Native K) (config : Config D Native K) (cutoff : TxnId) :
    List (Action driver) :=
  .finalizeBegin cutoff ::
    (config.state.finalizeWrites cutoff).map (fun _ => .finalizeWrite) ++ [.finalizeEnd]

theorem run_finalizeWrites (owner : CollectionOwner D Native K) (cutoff : TxnId)
    (writes : List (PersistentDelta.Write D)) :
    run driver ⟨owner, some (cutoff, writes)⟩ (writes.map (fun _ => .finalizeWrite)) =
      ⟨{ owner with state := owner.state.materialize writes }, some (cutoff, [])⟩ := by
  induction writes generalizing owner with
  | nil => rfl
  | cons write writes inductionHypothesis => exact inductionHypothesis _

/-- Taken without interruption, the steps are the owner's `finalize`. -/
theorem run_finalizeSteps {config : Config D Native K} (free : config.finalizing = none)
    (cutoff : TxnId) :
    run driver config (finalizeSteps driver config cutoff) =
      { config with owner := finalState (CollectionOwner.finalize cutoff config.owner) } := by
  rcases config with ⟨owner, finalizing⟩
  cases free
  cases stale : owner.state.outdated cutoff with
  | true =>
      have begin_ : step driver ⟨owner, none⟩ (.finalizeBegin cutoff) = ⟨owner, none⟩ := by
        simp [step, Config.state, stale]
      have unmoved : forall count : List (PersistentDelta.Write D),
          run driver ⟨owner, none⟩ (count.map (fun _ => .finalizeWrite)) = ⟨owner, none⟩ := by
        intro count
        induction count with
        | nil => rfl
        | cons write count inductionHypothesis => exact inductionHypothesis
      rw [finalizeSteps, List.cons_append, run, List.foldl_cons, begin_]
      change run driver _ _ = _
      rw [run_append, unmoved]
      simp [CollectionOwner.finalize, State.finalizeBegin, stale, run, step]
  | false =>
      have begin_ : step driver ⟨owner, none⟩ (.finalizeBegin cutoff) =
          ⟨owner, some (cutoff, owner.state.finalizeWrites cutoff)⟩ := by
        simp [step, Config.state, stale]
      rw [finalizeSteps, List.cons_append, run, List.foldl_cons, begin_]
      change run driver _ _ = _
      rw [run_append]
      change run driver (run driver _ ((owner.state.finalizeWrites cutoff).map _)) _ = _
      rw [run_finalizeWrites, CollectionOwner.finalize_eq owner stale]
      rfl

/-- The owner has been run to the end of the call. -/
theorem Reachable.finalized {config : Config D Native K} (reachable : Reachable driver config)
    (cutoff : TxnId) :
    Reachable driver ⟨finalState (CollectionOwner.finalize cutoff config.owner), none⟩ := by
  have finished : Persistence.run driver { config with finalizing := none }
      (finalizeSteps driver { config with finalizing := none } cutoff) =
      ⟨finalState (CollectionOwner.finalize cutoff config.owner), none⟩ := run_finalizeSteps rfl cutoff
  rw [← finished]
  exact reachable.stopped.run _

/-- A finalization through a cutoff is invisible past the cutoff. -/
theorem Reachable.view_finalize {config : Config D Native K} (reachable : Reachable driver config)
    {cutoff txn : TxnId} (later : cutoff < txn) :
    (finalState (CollectionOwner.finalize cutoff config.owner)).state.view txn = config.state.view txn := by
  cases stale : config.owner.state.outdated cutoff with
  | true =>
      have idle : CollectionOwner.finalize cutoff config.owner = .ok () config.owner := by
        simp [CollectionOwner.finalize, State.finalizeBegin, stale]
      rw [idle]
      rfl
  | false =>
      rw [CollectionOwner.finalize_eq config.owner stale]
      have written : (config.state.materialize (config.state.finalizeWrites cutoff)).Materializing
          cutoff [] := by
        refine ⟨fun write absent => False.elim (List.not_mem_nil absent), ?_⟩
        rw [State.materialize_nil, State.settledView_materialize (Nat.le_refl cutoff) (fun _ => id)]
        exact (State.Materializing.start (reachable.sound.separateThrough cutoff)).finishes
      exact (State.view_finalizeSwap written later).trans
        (State.view_materialize (Nat.le_of_lt later) (fun _ => id))

end Runs

end Persistence
end TransactionalCollection
