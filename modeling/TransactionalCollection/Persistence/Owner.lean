import TransactionalCollection.Execution.Stateful
import TransactionalCollection.Native.Semaphore

namespace TransactionalCollection
namespace Persistence

open Std Execution Native

/-!
# Shared transactional visibility and lifecycle

One owner holds the canonical storage of a collection, the deltas of committed
and of open transactions, and the frontier through which deltas have been
merged.  BTree and Table supply the delta; everything about who sees which
delta, and when a delta moves, is decided here.

An operation which takes the state lock once is one definition.  Finalization
and the creation of a pending delta take the lock twice with storage work in
between, so their two halves are definitions of their own and the whole is
composed from them.
-/

/-- Native work needed by the shared lifecycle.  The individual writes of
`applyTo` are listed as well, since readers may run between two of them. -/
class PersistentDelta (D : Type) (Native : outParam Type) where
  Write : Type
  nativeWrites : D -> List Write
  perform : Write -> Native -> Native
  applyTo : D -> EStateM IoError Native PUnit
  applyTo_eq : forall (delta : D) (persistent : Native), applyTo delta persistent =
    .ok ⟨⟩ ((nativeWrites delta).foldl (fun native write => perform write native) persistent)

export PersistentDelta (nativeWrites applyTo)

structure State (D Native : Type) where
  persistent : Native
  committed : ExtTreeMap TxnId (Option D)
  pending : ExtTreeMap TxnId D
  finalized : Option TxnId

structure VisibleSnapshot (D Native : Type) where
  persistent : Native
  deltas : List D

namespace State

variable {D Native : Type}

/-- A state over canonical storage which no transaction has touched. -/
def new (persistent : Native) : State D Native where
  persistent := persistent
  committed := ∅
  pending := ∅
  finalized := none

/-- At or before the finalized frontier. -/
def outdated (state : State D Native) (txn : TxnId) : Bool :=
  state.finalized.any (fun finalized => decide (txn <= finalized))

def assertWritable (state : State D Native) (txn : TxnId) : Except LockError Unit :=
  if state.outdated txn then .error .outdated
  else if state.committed.contains txn then .error .committed
  else .ok ()

/-- `committed.range(..=txn_id)` with the empty decisions left out. -/
def committedThrough (state : State D Native) (txn : TxnId) : List D :=
  (state.committed.toList.filter (fun entry => decide (entry.1 <= txn))).filterMap
    (fun entry => entry.2)

def visibleSnapshot (state : State D Native) (txn : TxnId) : VisibleSnapshot D Native where
  persistent := state.persistent
  deltas := state.committedThrough txn ++ state.pending[txn]?.toList

/-- Store a pending delta. -/
def setPending (state : State D Native) (txn : TxnId) (delta : D) : State D Native :=
  { state with pending := state.pending.insert txn delta }

/-! ## Creating a pending delta -/

/-- First look under the lock: the existing delta, if there is one. -/
def pendingCheck (state : State D Native) (txn : TxnId) : Except LockError (Option D) :=
  match state.assertWritable txn with
  | .error error => .error error
  | .ok () => .ok state.pending[txn]?

/-- Second look, once the workspace exists: adopt the delta another writer of
the transaction installed meanwhile, or install the new one. -/
def pendingInstall (state : State D Native) (txn : TxnId) (created : D) :
    Except LockError (D × State D Native) :=
  match state.assertWritable txn with
  | .error error => .error error
  | .ok () =>
      match state.pending[txn]? with
      | some existing => .ok (existing, state)
      | none => .ok (created, state.setPending txn created)

/-- `pending_delta_for_txn`, with the delta that `Delta::create` makes. -/
def pendingDeltaForTxn (created : D) (txn : TxnId) : EStateM LockError (State D Native) D :=
  fun state =>
    match state.pendingCheck txn with
    | .error error => .error error state
    | .ok (some existing) => .ok existing state
    | .ok none =>
        match state.pendingInstall txn created with
        | .error error => .error error state
        | .ok (delta, after) => .ok delta after

/-- Mutate the storage of a transaction's own delta.  An error leaves in place
what has been written before it. -/
def writePending {E A : Type} (txn : TxnId) (delta : D) (operation : EStateM E D A) :
    EStateM E (State D Native) A :=
  focus (fun _ => delta) (fun delta state => state.setPending txn delta) operation

theorem writePending_of_ok {E A : Type} {txn : TxnId} {delta after : D} {operation : EStateM E D A}
    {state : State D Native} {value : A} (done : operation delta = .ok value after) :
    writePending txn delta operation state = .ok value (state.setPending txn after) :=
  focus_of_ok done

/-! ## Decisions -/

/-- Move the pending delta, or its absence, into committed visibility. -/
def recordCommit (state : State D Native) (txn : TxnId) : State D Native :=
  { state with
    committed := state.committed.insert txn state.pending[txn]?
    pending := state.pending.erase txn }

def discardPending (state : State D Native) (txn : TxnId) : State D Native :=
  { state with pending := state.pending.erase txn }

/-- The read half of finalization, `none` for a stale cutoff. -/
def finalizeBegin (state : State D Native) (cutoff : TxnId) : Option (Native × List D) :=
  if state.outdated cutoff then none
  else some (state.persistent, state.committedThrough cutoff)

/-- The write half: prune what has been materialized and advance the frontier. -/
def finalizeSwap (state : State D Native) (cutoff : TxnId) : State D Native :=
  { state with
    committed := state.committed.filter (fun txn _ => decide (cutoff < txn))
    pending := state.pending.filter (fun txn _ => decide (cutoff < txn))
    finalized := some cutoff }

end State

/-- One live state and lifecycle owner, shared by the handles of a collection. -/
structure CollectionOwner (D Native K : Type) where
  state : State D Native
  semaphore : Semaphore K

section Writes

variable {D Native : Type} [PersistentDelta D Native]

/-- Perform individual native writes in order. -/
def performAll (writes : List (PersistentDelta.Write D)) (persistent : Native) : Native :=
  writes.foldl (fun native write => PersistentDelta.perform write native) persistent

/-- The loop of `finalize` over the deltas it materializes. -/
def applyAll (deltas : List D) : EStateM IoError Native PUnit :=
  forM deltas applyTo

theorem performAll_append (first second : List (PersistentDelta.Write D)) (persistent : Native) :
    performAll (first ++ second) persistent = performAll second (performAll first persistent) :=
  List.foldl_append

theorem applyAll_eq (deltas : List D) (persistent : Native) :
    applyAll deltas persistent = .ok ⟨⟩ (performAll (deltas.flatMap nativeWrites) persistent) := by
  induction deltas generalizing persistent with
  | nil => rfl
  | cons delta deltas inductionHypothesis =>
      rw [applyAll, List.forM_cons]
      change EStateM.bind (applyTo delta) (fun _ => applyAll deltas) persistent = _
      rw [EStateM.bind, PersistentDelta.applyTo_eq]
      simp only [List.flatMap_cons, performAll_append]
      exact inductionHypothesis _

/-- The native writes a finalization performs, in order. -/
def State.finalizeWrites (state : State D Native) (cutoff : TxnId) :
    List (PersistentDelta.Write D) :=
  (state.committedThrough cutoff).flatMap nativeWrites

end Writes

namespace CollectionOwner

variable {D Native K : Type}

def new (persistent : Native) : CollectionOwner D Native K where
  state := State.new persistent
  semaphore := Semaphore.new

/-- Work on the state, leaving the reservations alone. -/
def onState {E A : Type} (program : EStateM E (State D Native) A) :
    EStateM E (CollectionOwner D Native K) A :=
  focus state (fun state owner => { owner with state := state }) program

/-- Work on canonical storage, under no transaction. -/
def onPersistent {E A : Type} (program : EStateM E Native A) :
    EStateM E (CollectionOwner D Native K) A :=
  onState (focus State.persistent (fun persistent state => { state with persistent := persistent }) program)

def finalized (owner : CollectionOwner D Native K) : Option TxnId := owner.state.finalized

/-- Reserve a range for writing. -/
def tryWrite [DecidableEq K] (txn : TxnId) (range : SetRange K) :
    EStateM LockError (CollectionOwner D Native K) Unit :=
  fun owner =>
    match owner.semaphore.tryWrite txn range with
    | .error error => .error error owner
    | .ok semaphore => .ok () { owner with semaphore := semaphore }

/-- Whether a read permit would be granted now; until then the reader waits. -/
def readReady [DecidableEq K] (owner : CollectionOwner D Native K) (txn : TxnId)
    (range : SetRange K) : Bool :=
  owner.semaphore.canRead txn range

/-- The owner once the read permit has been granted. -/
def acquireReadPermit (owner : CollectionOwner D Native K) (txn : TxnId) (range : SetRange K) :
    CollectionOwner D Native K :=
  { owner with semaphore := owner.semaphore.add txn range .read }

/-- A repeated commit returns before it reaches the semaphore. -/
def commit (txn : TxnId) : EStateM LockError (CollectionOwner D Native K) Unit :=
  fun owner =>
    if owner.state.outdated txn then .error .outdated owner
    else if owner.state.committed.contains txn then .ok () owner
    else .ok () ⟨owner.state.recordCommit txn, owner.semaphore.finalize txn false⟩

def rollback (txn : TxnId) : EStateM LockError (CollectionOwner D Native K) Unit :=
  fun owner =>
    if owner.state.outdated txn then .error .outdated owner
    else if owner.state.committed.contains txn then .error .conflict owner
    else .ok () ⟨owner.state.discardPending txn, owner.semaphore.finalize txn false⟩

/-- Materialize the committed deltas through the cutoff in place, then prune.
A storage error stops in the middle of the writes, before the swap. -/
def finalize [PersistentDelta D Native] (cutoff : TxnId) :
    EStateM LockError (CollectionOwner D Native K) Unit :=
  fun owner =>
    match owner.state.finalizeBegin cutoff with
    | none => .ok () owner
    | some (persistent, deltas) =>
        match applyAll deltas persistent with
        | .error error native =>
            .error (backgroundError error.message)
              { owner with state := { owner.state with persistent := native } }
        | .ok _ native =>
            .ok () ⟨({ owner.state with persistent := native } : State D Native).finalizeSwap cutoff,
              owner.semaphore.finalize cutoff true⟩

end CollectionOwner

/-! ## The state lock, phase by phase -/

namespace State

variable {D Native : Type} {state : State D Native} {txn : TxnId}

theorem outdated_iff :
    state.outdated txn = true <-> exists frontier, state.finalized = some frontier ∧ txn <= frontier := by
  unfold outdated
  cases state.finalized <;> simp

theorem not_outdated_iff :
    state.outdated txn = false <->
      forall frontier, state.finalized = some frontier -> frontier < txn := by
  unfold outdated
  cases state.finalized <;> simp

theorem assertWritable_eq_ok_iff :
    state.assertWritable txn = .ok () <->
      state.outdated txn = false ∧ state.committed[txn]? = none := by
  unfold assertWritable
  cases old : state.outdated txn with
  | true => simp
  | false =>
      simp only [Bool.false_eq_true, if_false, true_and]
      rw [← ExtTreeMap.isSome_getElem?_eq_contains]
      cases state.committed[txn]? <;> simp

@[simp] theorem setPending_persistent (delta : D) :
    (state.setPending txn delta).persistent = state.persistent := rfl
@[simp] theorem setPending_committed (delta : D) :
    (state.setPending txn delta).committed = state.committed := rfl
@[simp] theorem setPending_finalized (delta : D) :
    (state.setPending txn delta).finalized = state.finalized := rfl

theorem setPending_pending (delta : D) (other : TxnId) :
    (state.setPending txn delta).pending[other]? =
      if txn = other then some delta else state.pending[other]? := by
  simp [setPending, ExtTreeMap.getElem?_insert]

@[simp] theorem setPending_self (delta : D) :
    (state.setPending txn delta).pending[txn]? = some delta := by
  simp [setPending_pending]

theorem outdated_of_finalized {before after : State D Native}
    (same : after.finalized = before.finalized) (txn : TxnId) :
    after.outdated txn = before.outdated txn := by
  rw [outdated, outdated, same]

theorem recordCommit_committed (state : State D Native) (txn other : TxnId) :
    (state.recordCommit txn).committed[other]? =
      if txn = other then some state.pending[txn]? else state.committed[other]? := by
  simp [recordCommit, ExtTreeMap.getElem?_insert]

theorem recordCommit_pending (state : State D Native) (txn other : TxnId) :
    (state.recordCommit txn).pending[other]? =
      if txn = other then none else state.pending[other]? := by
  simp [recordCommit, ExtTreeMap.getElem?_erase]

theorem discardPending_pending (state : State D Native) (txn other : TxnId) :
    (state.discardPending txn).pending[other]? =
      if txn = other then none else state.pending[other]? := by
  simp [discardPending, ExtTreeMap.getElem?_erase]

/-- Both looks of `pending_delta_for_txn` happen in one state here, so the
second cannot disagree with the first. -/
theorem pendingDeltaForTxn_cases (state : State D Native) (txn : TxnId) (created : D) :
    (exists error, state.assertWritable txn = .error error ∧
        pendingDeltaForTxn created txn state = .error error state) ∨
      (exists existing, state.assertWritable txn = .ok () ∧ state.pending[txn]? = some existing ∧
        pendingDeltaForTxn created txn state = .ok existing state) ∨
      (state.assertWritable txn = .ok () ∧ state.pending[txn]? = none ∧
        pendingDeltaForTxn created txn state = .ok created (state.setPending txn created)) := by
  unfold pendingDeltaForTxn pendingCheck pendingInstall
  cases writable : state.assertWritable txn with
  | error error => exact Or.inl ⟨error, rfl, rfl⟩
  | ok =>
      cases present : state.pending[txn]? with
      | some existing => exact Or.inr (Or.inl ⟨existing, rfl, rfl, rfl⟩)
      | none => exact Or.inr (Or.inr ⟨rfl, rfl, rfl⟩)

end State

theorem CollectionOwner.onPersistent_new {D Native K E A : Type} {program : EStateM E Native A}
    {persistent after : Native} {value : A} (done : program persistent = .ok value after) :
    onPersistent program (new persistent : CollectionOwner D Native K) = .ok value (new after) := by
  have onCanonical : focus State.persistent
      (fun persistent (state : State D Native) => { state with persistent := persistent }) program
      (State.new persistent) = .ok value (State.new after) := focus_of_ok done
  rw [onPersistent, onState, focus]
  dsimp only [new]
  rw [onCanonical]

theorem CollectionOwner.finalize_eq {D Native K : Type} [PersistentDelta D Native]
    (owner : CollectionOwner D Native K) {cutoff : TxnId}
    (fresh : owner.state.outdated cutoff = false) :
    CollectionOwner.finalize cutoff owner =
      .ok () ⟨({ owner.state with
          persistent := performAll (owner.state.finalizeWrites cutoff) owner.state.persistent } :
            State D Native).finalizeSwap cutoff, owner.semaphore.finalize cutoff true⟩ := by
  simp only [CollectionOwner.finalize, State.finalizeBegin, fresh, Bool.false_eq_true, if_false,
    applyAll_eq, State.finalizeWrites]

end Persistence
end TransactionalCollection
