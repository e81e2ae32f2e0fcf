import TransactionalCollection.Persistence.Reservation
import TransactionalCollection.Persistence.Serial

namespace TransactionalCollection
namespace Persistence

open Std (ExtTreeMap)
open Layering Native Execution

/-!
# Reading twice

While a transaction waits between two reads, others mutate, commit, roll back
and finalize.  Only two of these reach what it sees.  A finalization moves
deltas into canonical storage, which changes the snapshot but not the view it
is read as.  A commit of an earlier transaction adds a delta to the snapshot,
and a key of that delta may change, unless the reader has reserved it.
-/

section Steps

variable {D Native K V : Type} [DecidableEq K] [PersistentDelta D Native] [StoredMap Native K V]
  [LayeredDelta D Native K V] {driver : Driver D Native K}

/-- A step of the other transactions, or of a finalization short of this one. -/
def Undisturbed (txn : TxnId) (config : Config D Native K) : Action driver -> Prop
  | .mutate other _ | .commit other | .rollback other => other ≠ txn
  | .traffic _ => True
  | .finalizeBegin cutoff => cutoff < txn
  | .finalizeWrite | .finalizeEnd =>
      forall cutoff remaining, config.finalizing = some (cutoff, remaining) -> cutoff < txn

instance (txn : TxnId) (config : Config D Native K) (action : Action driver) :
    Decidable (Undisturbed txn config action) :=
  have underway : (config.finalizing.all (fun finalization => decide (finalization.1 < txn))) = true <->
      forall cutoff remaining, config.finalizing = some (cutoff, remaining) -> cutoff < txn := by
    rw [Option.all_eq_true_iff_get]
    cases config.finalizing with
    | none => simp
    | some finalization => simp [Prod.ext_iff]
  match action with
  | .mutate other _ | .commit other | .rollback other => inferInstanceAs (Decidable (other ≠ txn))
  | .traffic _ => inferInstanceAs (Decidable True)
  | .finalizeBegin cutoff => inferInstanceAs (Decidable (cutoff < txn))
  | .finalizeWrite | .finalizeEnd => decidable_of_iff _ underway

/-- No earlier transaction commits a delta which answers one of these keys. -/
def Spares (scope : K -> Prop) (txn : TxnId) (config : Config D Native K) : Action driver -> Prop
  | .commit other => other < txn -> forall key, scope key -> config.state.ownOverlay other key = none
  | .mutate _ _ | .traffic _ | .rollback _ | .finalizeBegin _ | .finalizeWrite | .finalizeEnd => True

/-- No finalization writes to canonical storage or drops a delta. -/
def Unmerged (config : Config D Native K) : Action driver -> Prop
  | .finalizeWrite => forall cutoff write remaining, config.finalizing ≠ some (cutoff, write :: remaining)
  | .finalizeEnd =>
      forall cutoff, config.finalizing = some (cutoff, []) -> config.state.committedThrough cutoff = []
  | .mutate _ _ | .traffic _ | .commit _ | .rollback _ | .finalizeBegin _ => True

/-- What a read without a permit needs to be spared. -/
def Spared (permit : Option (SetRange K)) (scope : K -> Prop) (txn : TxnId) (config : Config D Native K)
    (action : Action driver) : Prop :=
  permit = none -> Spares scope txn config action

/-- What may lie between two reads of a transaction: undisturbed steps which
meet a condition, and finalizations stopped by storage errors. -/
inductive Between (driver : Driver D Native K) (txn : TxnId)
    (condition : Config D Native K -> Action driver -> Prop) (first : Config D Native K) :
    Config D Native K -> Prop where
  | nothing : Between driver txn condition first first
  | step {last : Config D Native K} (before : Between driver txn condition first last)
      (action : Action driver) (undisturbed : Undisturbed txn last action)
      (meets : condition last action) :
      Between driver txn condition first (Persistence.step driver last action)
  | stopped {last : Config D Native K} (before : Between driver txn condition first last) :
      Between driver txn condition first { last with finalizing := none }

variable {config : Config D Native K} {action : Action driver} {txn : TxnId}

omit [PersistentDelta D Native] in
theorem discardPending_visibleSnapshot (state : State D Native) {other : TxnId}
    (different : other ≠ txn) : (state.discardPending other).visibleSnapshot txn =
      state.visibleSnapshot txn := by
  rw [State.visibleSnapshot, State.discardPending_pending, if_neg different]
  rfl

/-- A key which no earlier commit answers reads as before. -/
theorem step_view (sound : Sound config) (undisturbed : Undisturbed txn config action)
    {scope : K -> Prop} (spares : Spares scope txn config action) {key : K} (inside : scope key) :
    (step driver config action).state.view txn key = config.state.view txn key := by
  have transition := step_transition driver config action
  generalize step driver config action = after at transition ⊢
  cases transition with
  | idle | passed | began => rfl
  | mutated other op =>
      have moved := (driver.admits other op config.owner).mutates
      exact congrFun (moved.view_of_ne (Ne.symm undisturbed)) key
  | committed other undecided =>
      have absent := (State.assertWritable_eq_ok_iff.mp (Config.undecided_iff.mp undecided).2).2
      have own : (config.state.recordCommit other).ownOverlay txn = config.state.ownOverlay txn := by
        rw [State.ownOverlay, State.recordCommit_pending, if_neg undisturbed, State.ownOverlay]
      have below : (config.state.recordCommit other).viewBefore (txn + 1) key =
          config.state.viewBefore (txn + 1) key := by
        rcases Nat.lt_or_gt_of_ne undisturbed with earlier | later
        · rcases config.state.recordCommit_viewBefore_cases key absent (Nat.lt_succ_of_lt earlier) with
            same | ⟨answer, answered, _⟩
          · exact same
          · rw [spares earlier key inside] at answered
            cases answered
        · exact congrFun (config.state.recordCommit_viewBefore (Nat.succ_le_of_lt later)) key
      change (config.state.recordCommit other).view txn key = _
      rw [State.view_eq_viewBefore, State.view_eq_viewBefore, own, Overlay.read, Overlay.read, below]
  | discarded other =>
      change (config.state.discardPending other).view txn key = _
      rw [State.view, State.view, discardPending_visibleSnapshot _ undisturbed]
  | wrote cutoff write remaining underway =>
      have earlier := undisturbed cutoff _ underway
      have scheduled := (sound.underway cutoff _ underway).1.scheduled
      refine congrFun (State.view_materialize (Nat.le_of_lt earlier) (fun next member => ?_)) key
      rw [List.mem_singleton.mp member]
      exact scheduled write List.mem_cons_self
  | swapped cutoff underway =>
      have earlier := undisturbed cutoff _ underway
      exact congrFun (State.view_finalizeSwap (sound.underway cutoff _ underway).1 earlier) key

omit [PersistentDelta D Native] in
/-- A commit enters its delta into the snapshots of later readers only, in its
place among the others. -/
theorem recordCommit_visibleSnapshot (state : State D Native) {other : TxnId} (different : other ≠ txn)
    (undecided : state.committed[other]? = none) :
    (state.recordCommit other).visibleSnapshot txn = state.visibleSnapshot txn ∨
      exists below delta above, other < txn ∧ state.pending[other]? = some delta ∧
        state.visibleSnapshot txn = ⟨state.persistent, below ++ above⟩ ∧
        (state.recordCommit other).visibleSnapshot txn = ⟨state.persistent, below ++ delta :: above⟩ := by
  have own : (state.recordCommit other).pending[txn]? = state.pending[txn]? := by
    rw [State.recordCommit_pending, if_neg different]
  have snapshots : forall after : State D Native, after.visibleSnapshot txn =
      ⟨after.persistent,
        (earlier after.committed (txn + 1)).filterMap id ++ after.pending[txn]?.toList⟩ := by
    intro after
    rw [State.visibleSnapshot, State.committedThrough_eq, through_eq_earlier]
  rw [snapshots, snapshots, own]
  change (⟨state.persistent, (earlier (state.committed.insert other _) _).filterMap id ++ _⟩ :
    VisibleSnapshot D Native) = _ ∨ exists below delta above, _ ∧ _ ∧ _ ∧
      (⟨state.persistent, (earlier (state.committed.insert other _) _).filterMap id ++ _⟩ :
        VisibleSnapshot D Native) = _
  rcases Nat.lt_or_gt_of_ne different with before | after
  · rcases earlier_insert state.committed state.pending[other]? undecided
      (Nat.lt_succ_of_lt before) with ⟨below, above, old, new⟩
    rw [old, new]
    cases held : state.pending[other]? with
    | none =>
        left
        simp
    | some delta =>
        right
        refine ⟨below.filterMap id, delta, above.filterMap id ++ state.pending[txn]?.toList,
          before, rfl, ?_, ?_⟩
        · simp
        · simp
  · left
    rw [earlier_insert_of_le state.committed _ (Nat.succ_le_of_lt after)]

/-- What a spared step which merges nothing may change of a snapshot: it enters
a delta which answers nothing in the scope. -/
theorem step_visibleSnapshot (undisturbed : Undisturbed txn config action) {scope : K -> Prop}
    (spares : Spares scope txn config action) (unmerged : Unmerged config action) :
    (step driver config action).state.visibleSnapshot txn = config.state.visibleSnapshot txn ∨
      exists persistent below delta above,
        (forall key, scope key -> (overlay delta key : Option (Option V)) = none) ∧
        config.state.visibleSnapshot txn = ⟨persistent, below ++ above⟩ ∧
        (step driver config action).state.visibleSnapshot txn =
          ⟨persistent, below ++ delta :: above⟩ := by
  have transition := step_transition driver config action
  generalize step driver config action = after at transition ⊢
  cases transition with
  | idle | passed | began => exact Or.inl rfl
  | mutated other op =>
      exact Or.inl ((driver.admits other op config.owner).mutates.visibleSnapshot_of_ne
        (Ne.symm undisturbed))
  | committed other undecided =>
      have absent := (State.assertWritable_eq_ok_iff.mp (Config.undecided_iff.mp undecided).2).2
      rcases recordCommit_visibleSnapshot config.state undisturbed absent with
        same | ⟨below, delta, above, earlier, held, old, new⟩
      · exact Or.inl same
      · refine Or.inr ⟨_, below, delta, above, fun key inside => ?_, old, new⟩
        have silent := spares earlier key inside
        rwa [State.ownOverlay, held] at silent
  | discarded other => exact Or.inl (discardPending_visibleSnapshot _ undisturbed)
  | wrote cutoff write remaining underway => exact absurd underway (unmerged cutoff write remaining)
  | swapped cutoff underway =>
      have earlier := undisturbed cutoff _ underway
      left
      change (config.state.finalizeSwap cutoff).visibleSnapshot txn = _
      rw [State.visibleSnapshot, State.visibleSnapshot,
        State.committedThrough_split config.state (Nat.le_of_lt earlier), unmerged cutoff underway,
        State.finalizeSwap_pending, if_pos earlier, State.committedThrough_eq]
      rfl

/-- The transaction keeps its reservations. -/
theorem step_keeps (reads : ReadsOnly driver) (undisturbed : Undisturbed txn config action)
    {range : SetRange K} {access : Access}
    (held : ⟨txn, range, access⟩ ∈ config.semaphore.reservations) :
    ⟨txn, range, access⟩ ∈ (step driver config action).semaphore.reservations := by
  have transition := step_transition driver config action
  generalize step driver config action = after at transition ⊢
  cases transition with
  | idle | began | wrote => exact held
  | mutated other op =>
      change _ ∈ (finalState (driver.mutate other op config.owner)).semaphore.reservations
      rcases driver.admits other op config.owner with refused | ⟨granted, _⟩
      · rw [refused]
        exact held
      · rw [(Semaphore.tryWrite_eq_ok_iff.mp granted).2]
        exact List.mem_cons_of_mem _ held
  | passed event =>
      change _ ∈ (driver.passes event config.owner.semaphore).reservations
      rcases reads event config.owner.semaphore with ⟨other, range, same⟩
      rw [same, Semaphore.read]
      split
      · exact List.mem_cons_of_mem _ held
      · exact held
  | committed other => exact Semaphore.mem_finalize_iff.mpr ⟨held, Ne.symm undisturbed⟩
  | discarded other => exact Semaphore.mem_finalize_iff.mpr ⟨held, Ne.symm undisturbed⟩
  | swapped cutoff underway =>
      exact Semaphore.mem_finalize_iff.mpr ⟨held, undisturbed cutoff _ underway⟩

/-- What the reader has reserved is spared. -/
theorem Reserved.spares (reserved : Reserved config) {range : SetRange K} {scope : K -> Prop}
    (holds : config.semaphore.HoldsRead txn range) (covers : forall key, scope key -> range.Covers key)
    (action : Action driver) : Spares scope txn config action := by
  cases action with
  | commit other =>
      intro earlier key inside
      by_contra answered
      rcases reserved.covered other key answered with ⟨held, heldCovers, heldHolds⟩
      have overlap := SetRange.overlaps_of_covers (covers key inside) heldCovers
      exact absurd earlier (Nat.not_lt_of_le (reserved.readsFirst _ _ _ _ holds heldHolds overlap))
  | mutate | traffic | rollback | finalizeBegin | finalizeWrite | finalizeEnd => trivial

/-- As is what a transaction has reserved to write. -/
theorem Reserved.spares_written (reserved : Reserved config) {range : SetRange K} {scope : K -> Prop}
    (holds : config.semaphore.HoldsWrite txn range) (covers : forall key, scope key -> range.Covers key)
    (action : Action driver) : Spares scope txn config action := by
  cases action with
  | commit other =>
      intro earlier key inside
      by_contra answered
      have same := reserved.same_writer answered (covers key inside) holds
      exact Nat.ne_of_lt earlier same
  | mutate | traffic | rollback | finalizeBegin | finalizeWrite | finalizeEnd => trivial

theorem Reachable.reserved (reads : ReadsOnly driver) (reachable : Reachable driver config) :
    Reserved config := by
  induction reachable with
  | start canonical => exact Reserved.start canonical
  | step _ action inductionHypothesis => exact step_reserved reads inductionHypothesis action
  | stopped _ inductionHypothesis =>
      exact ⟨inductionHypothesis.exclusive, inductionHypothesis.readsFirst, inductionHypothesis.covered⟩

/-! ## Permits -/

/-- The owner once a read which needs a permit, or none, has got it. -/
def CollectionOwner.permitted (owner : CollectionOwner D Native K) (txn : TxnId) :
    Option (SetRange K) -> CollectionOwner D Native K
  | some range => owner.acquireReadPermit txn range
  | none => owner

/-- The permit is to be had now. -/
def CollectionOwner.Ready (owner : CollectionOwner D Native K) (txn : TxnId)
    (permit : Option (SetRange K)) : Prop :=
  forall range, permit = some range -> owner.readReady txn range = true

omit [DecidableEq K] [PersistentDelta D Native] [StoredMap Native K V] [LayeredDelta D Native K V] in
@[simp] theorem CollectionOwner.permitted_state (owner : CollectionOwner D Native K) (txn : TxnId)
    (permit : Option (SetRange K)) : (owner.permitted txn permit).state = owner.state := by
  cases permit <;> rfl

omit [DecidableEq K] [PersistentDelta D Native] [StoredMap Native K V] [LayeredDelta D Native K V] in
theorem CollectionOwner.permitted_holdsRead (owner : CollectionOwner D Native K) (txn : TxnId)
    (range : SetRange K) : (owner.permitted txn (some range)).semaphore.HoldsRead txn range :=
  (Semaphore.add_read_holdsRead ..).mpr (Or.inl ⟨rfl, rfl⟩)

/-- Any reader may come by. -/
def AllReaders (driver : Driver D Native K) : Prop :=
  forall txn range, exists event, forall semaphore,
    driver.passes event semaphore = semaphore.read txn range

/-- A read which gets its permit is a step of the run. -/
theorem Reachable.permitted (readers : AllReaders driver) (reachable : Reachable driver config)
    {permit : Option (SetRange K)} (ready : config.owner.Ready txn permit) :
    Reachable driver { config with owner := config.owner.permitted txn permit } := by
  cases permit with
  | none => exact reachable
  | some range =>
      rcases readers txn range with ⟨event, passes⟩
      have granted : config.owner.semaphore.canRead txn range = true := ready range rfl
      have stepped := reachable.step (.traffic event)
      rw [Persistence.step, passes, Semaphore.read, if_pos granted] at stepped
      exact stepped

/-! ## Runs between two reads -/

namespace Between

variable {condition : Config D Native K -> Action driver -> Prop} {first last : Config D Native K}

theorem trans {middle : Config D Native K} (before : Between driver txn condition first middle)
    (after : Between driver txn condition middle last) : Between driver txn condition first last := by
  induction after with
  | nothing => exact before
  | step _ action undisturbed meets inductionHypothesis =>
      exact .step inductionHypothesis action undisturbed meets
  | stopped _ inductionHypothesis => exact .stopped inductionHypothesis

/-- Every action of a list is undisturbed and meets the condition in its turn. -/
def Along (driver : Driver D Native K) (txn : TxnId)
    (condition : Config D Native K -> Action driver -> Prop) :
    Config D Native K -> List (Action driver) -> Prop
  | _, [] => True
  | config, action :: actions =>
      Undisturbed txn config action ∧ condition config action ∧
        Along driver txn condition (Persistence.step driver config action) actions

theorem run {actions : List (Action driver)} (along : Along driver txn condition first actions) :
    Between driver txn condition first (Persistence.run driver first actions) := by
  induction actions generalizing first with
  | nil => exact .nothing
  | cons action actions inductionHypothesis =>
      rcases along with ⟨undisturbed, meets, rest⟩
      exact (Between.nothing.step action undisturbed meets).trans (inductionHypothesis rest)

theorem reachable (between : Between driver txn condition first last) (reached : Reachable driver first) :
    Reachable driver last := by
  induction between with
  | nothing => exact reached
  | step _ action _ _ inductionHypothesis => exact inductionHypothesis.step action
  | stopped _ inductionHypothesis => exact inductionHypothesis.stopped

theorem keeps (reads : ReadsOnly driver) (between : Between driver txn condition first last)
    {range : SetRange K} {access : Access}
    (held : ⟨txn, range, access⟩ ∈ first.semaphore.reservations) :
    ⟨txn, range, access⟩ ∈ last.semaphore.reservations := by
  induction between with
  | nothing => exact held
  | step _ action undisturbed _ inductionHypothesis =>
      exact step_keeps reads undisturbed inductionHypothesis
  | stopped _ inductionHypothesis => exact inductionHypothesis

/-- A read with a permit is spared in all that lies between. -/
theorem guarded (reads : ReadsOnly driver) (readers : AllReaders driver)
    (reached : Reachable driver config) {permit : Option (SetRange K)}
    (ready : config.owner.Ready txn permit) {scope : K -> Prop}
    (covers : forall range, permit = some range -> forall key, scope key -> range.Covers key)
    (spared : forall config action, condition config action -> Spared permit scope txn config action)
    (between : Between driver txn condition
    { config with owner := config.owner.permitted txn permit } last) :
    Between driver txn (fun config action => condition config action ∧ Spares scope txn config action)
      { config with owner := config.owner.permitted txn permit } last := by
  have began := reached.permitted readers ready
  have holds : forall range, permit = some range ->
      (config.owner.permitted txn permit).semaphore.HoldsRead txn range := by
    rintro range rfl
    exact config.owner.permitted_holdsRead txn range
  induction between with
  | nothing => exact .nothing
  | step before action undisturbed meets inductionHypothesis =>
      refine .step inductionHypothesis action undisturbed ⟨meets, ?_⟩
      cases guard : permit with
      | none => exact spared _ _ meets guard
      | some range =>
          have middle := before.reachable began
          have held := before.keeps reads (holds range guard)
          exact (middle.reserved reads).spares held (covers range guard) action
  | stopped _ inductionHypothesis => exact .stopped inductionHypothesis

/-- A spared scope reads as it did before. -/
theorem view_eq {scope : K -> Prop}
    (spares : forall config action, condition config action -> Spares scope txn config action)
    (reached : Reachable driver first) (between : Between driver txn condition first last)
    {key : K} (inside : scope key) : last.state.view txn key = first.state.view txn key := by
  induction between with
  | nothing => rfl
  | step before action undisturbed meets inductionHypothesis =>
      have sound := (before.reachable reached).sound
      exact (step_view sound undisturbed (spares _ _ meets) inside).trans inductionHypothesis
  | stopped _ inductionHypothesis => exact inductionHypothesis

/-- While nothing is merged, whatever does not notice a delta without an answer
in the scope stays the same. -/
theorem observed_eq {A : Type} {scope : K -> Prop} (observe : VisibleSnapshot D Native -> A)
    (unnoticed : forall persistent below delta above,
      (forall key, scope key -> (overlay delta key : Option (Option V)) = none) ->
      observe ⟨persistent, below ++ delta :: above⟩ = observe ⟨persistent, below ++ above⟩)
    (spares : forall config action, condition config action -> Spares scope txn config action)
    (unmerged : forall config action, condition config action -> Unmerged config action)
    (between : Between driver txn condition first last) :
    observe (last.state.visibleSnapshot txn) = observe (first.state.visibleSnapshot txn) := by
  induction between with
  | nothing => rfl
  | step before action undisturbed meets inductionHypothesis =>
      refine Eq.trans ?_ inductionHypothesis
      rcases step_visibleSnapshot undisturbed (spares _ _ meets) (unmerged _ _ meets) with
        same | ⟨persistent, below, delta, above, silent, old, new⟩
      · rw [same]
      · rw [old, new]
        exact unnoticed persistent below delta above silent
  | stopped _ inductionHypothesis => exact inductionHypothesis

end Between

end Steps

end Persistence
end TransactionalCollection
