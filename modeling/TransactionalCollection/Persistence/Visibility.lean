import TransactionalCollection.Layering.Timeline
import TransactionalCollection.Persistence.Owner

namespace TransactionalCollection
namespace Persistence

open Std (ExtTreeMap)
open Layering Native

/-!
# What a transaction sees

A delta is an overlay on canonical storage, and a snapshot is read as a stack
of the visible overlays.  Finalization rewrites canonical storage under that
stack.  While it is under way each native write lands on a key which some
visible delta answers, so the stack absorbs it; once all writes are done,
canonical storage itself reads as the stack of the materialized deltas, and
they can be dropped.

The second half needs more of a delta than the first.  The writes of a delta
and the reading of a delta agree only if no key is both inserted and deleted,
which is what `Separate` says.
-/

/-- Native storage read as a finite map. -/
class StoredMap (Native : Type) (K V : outParam Type) where
  bindings : Native -> View K V

export StoredMap (bindings)

/-- How a delta answers a key, and what its writes do to the storage below. -/
class LayeredDelta (D : Type) (Native K V : outParam Type) [PersistentDelta D Native]
    [StoredMap Native K V] where
  overlay : D -> Overlay K V
  Separate : D -> Prop
  perform_silent : forall (delta : D) (native : Native) (write : PersistentDelta.Write D)
    (key : K), write ∈ nativeWrites delta -> overlay delta key = none ->
    bindings (PersistentDelta.perform write native) key = bindings native key
  performAll_read : forall (delta : D) (native : Native), Separate delta ->
    bindings (performAll (nativeWrites delta) native) = (overlay delta).read (bindings native)

export LayeredDelta (overlay Separate)

section CommittedPrefix

variable {D Native : Type}

namespace State

theorem committedThrough_eq (state : State D Native) (txn : TxnId) :
    state.committedThrough txn = (through state.committed txn).filterMap id := by
  rw [committedThrough, through, List.filterMap_map]
  rfl

theorem mem_committedThrough_iff {state : State D Native} {txn : TxnId} {delta : D} :
    delta ∈ state.committedThrough txn <->
      exists id, id <= txn ∧ state.committed[id]? = some (some delta) := by
  simp only [committedThrough_eq, List.mem_filterMap, id_eq, mem_through_iff]
  constructor
  · rintro ⟨_, ⟨id, early, found⟩, rfl⟩
    exact ⟨id, early, found⟩
  · rintro ⟨id, early, found⟩
    exact ⟨some delta, ⟨id, early, found⟩, rfl⟩

theorem new_visibleSnapshot (persistent : Native) (txn : TxnId) :
    (State.new persistent : State D Native).visibleSnapshot txn = ⟨persistent, []⟩ := by
  have closed : (State.new persistent : State D Native).pending[txn]? = none := ExtTreeMap.getElem?_empty
  have undecided : (State.new persistent : State D Native).committedThrough txn = [] := by
    apply List.eq_nil_iff_forall_not_mem.mpr
    intro delta member
    rcases mem_committedThrough_iff.mp member with ⟨id, _, found⟩
    rw [show (State.new persistent : State D Native).committed[id]? = none from
      ExtTreeMap.getElem?_empty] at found
    cases found
  rw [visibleSnapshot, closed, undecided]
  rfl

/-- A later reader sees the deltas through a cutoff first, then the rest. -/
theorem committedThrough_split (state : State D Native) {cutoff txn : TxnId}
    (later : cutoff <= txn) :
    state.committedThrough txn =
      state.committedThrough cutoff ++ (through (ahead state.committed cutoff) txn).filterMap id := by
  rw [committedThrough_eq, committedThrough_eq, through_split state.committed later,
    List.filterMap_append]

theorem finalizeSwap_committed (state : State D Native) (cutoff txn : TxnId) :
    (state.finalizeSwap cutoff).committed[txn]? =
      if cutoff < txn then state.committed[txn]? else none :=
  getElem?_ahead state.committed cutoff txn

theorem finalizeSwap_pending (state : State D Native) (cutoff txn : TxnId) :
    (state.finalizeSwap cutoff).pending[txn]? =
      if cutoff < txn then state.pending[txn]? else none :=
  getElem?_ahead state.pending cutoff txn

@[simp] theorem finalizeSwap_persistent (state : State D Native) (cutoff : TxnId) :
    (state.finalizeSwap cutoff).persistent = state.persistent := rfl

@[simp] theorem finalizeSwap_finalized (state : State D Native) (cutoff : TxnId) :
    (state.finalizeSwap cutoff).finalized = some cutoff := rfl

theorem finalizeSwap_ahead {state : State D Native} {cutoff txn : TxnId} (later : cutoff < txn) :
    (state.finalizeSwap cutoff).outdated txn = false := by
  rw [not_outdated_iff]
  intro frontier same
  cases same
  exact later

/-- Decided and open transactions are distinct, and ahead of the frontier. -/
structure Ordered (state : State D Native) : Prop where
  pendingAhead : forall txn : TxnId, state.pending[txn]? ≠ none -> state.outdated txn = false
  committedAhead : forall txn : TxnId, state.committed[txn]? ≠ none -> state.outdated txn = false
  apart : forall txn : TxnId, state.committed[txn]? ≠ none -> state.pending[txn]? = none

namespace Ordered

variable {state : State D Native}

theorem new (persistent : Native) : (State.new persistent : State D Native).Ordered where
  pendingAhead := fun _ present => absurd ExtTreeMap.getElem?_empty present
  committedAhead := fun _ present => absurd ExtTreeMap.getElem?_empty present
  apart := fun _ _ => ExtTreeMap.getElem?_empty

/-- Canonical storage has no part in it. -/
theorem congr {after : State D Native} (ordered : state.Ordered)
    (pending : after.pending = state.pending) (committed : after.committed = state.committed)
    (finalized : after.finalized = state.finalized) : after.Ordered where
  pendingAhead := by
    intro txn present
    rw [outdated_of_finalized finalized]
    exact ordered.pendingAhead txn (pending ▸ present)
  committedAhead := by
    intro txn present
    rw [outdated_of_finalized finalized]
    exact ordered.committedAhead txn (committed ▸ present)
  apart := by
    intro txn present
    rw [pending]
    exact ordered.apart txn (committed ▸ present)

theorem setPending (ordered : state.Ordered) {txn : TxnId}
    (writable : state.assertWritable txn = .ok ()) (delta : D) :
    (state.setPending txn delta).Ordered where
  pendingAhead := by
    intro other present
    rw [setPending_pending] at present
    split at present
    · rename_i own
      exact own ▸ (assertWritable_eq_ok_iff.mp writable).1
    · exact ordered.pendingAhead other present
  committedAhead := ordered.committedAhead
  apart := by
    intro other present
    rw [setPending_pending, if_neg]
    · exact ordered.apart other present
    · rintro rfl
      exact present (assertWritable_eq_ok_iff.mp writable).2

theorem recordCommit (ordered : state.Ordered) {txn : TxnId} (fresh : state.outdated txn = false) :
    (state.recordCommit txn).Ordered where
  pendingAhead := by
    intro other present
    rw [recordCommit_pending] at present
    split at present
    · exact absurd rfl present
    · exact ordered.pendingAhead other present
  committedAhead := by
    intro other present
    rw [recordCommit_committed] at present
    split at present
    · rename_i own
      exact own ▸ fresh
    · exact ordered.committedAhead other present
  apart := by
    intro other present
    rw [recordCommit_committed] at present
    rw [recordCommit_pending]
    split
    · rfl
    · rename_i different
      rw [if_neg different] at present
      exact ordered.apart other present

theorem discardPending (ordered : state.Ordered) (txn : TxnId) : (state.discardPending txn).Ordered where
  pendingAhead := by
    intro other present
    rw [discardPending_pending] at present
    split at present
    · exact absurd rfl present
    · exact ordered.pendingAhead other present
  committedAhead := ordered.committedAhead
  apart := by
    intro other present
    rw [discardPending_pending]
    split
    · rfl
    · exact ordered.apart other present

theorem finalizeSwap (ordered : state.Ordered) (cutoff : TxnId) :
    (state.finalizeSwap cutoff).Ordered where
  pendingAhead := by
    intro txn present
    rw [finalizeSwap_pending] at present
    split at present
    · exact finalizeSwap_ahead ‹_›
    · exact absurd rfl present
  committedAhead := by
    intro txn present
    rw [finalizeSwap_committed] at present
    split at present
    · exact finalizeSwap_ahead ‹_›
    · exact absurd rfl present
  apart := by
    intro txn present
    rw [finalizeSwap_committed] at present
    rw [finalizeSwap_pending]
    split
    · rename_i later
      rw [if_pos later] at present
      exact ordered.apart txn present
    · rfl

end Ordered

end State

end CommittedPrefix

variable {D Native K V : Type} [PersistentDelta D Native] [StoredMap Native K V]
  [LayeredDelta D Native K V]

/-- Read a snapshot key by key. -/
def VisibleSnapshot.view (snapshot : VisibleSnapshot D Native) : View K V :=
  stack (snapshot.deltas.map overlay) (bindings snapshot.persistent)

namespace State

/-- What a transaction sees of the collection. -/
def view (state : State D Native) (txn : TxnId) : View K V :=
  (state.visibleSnapshot txn).view

/-- What no transaction has touched shows every transaction the same. -/
theorem view_new (persistent : Native) (txn : TxnId) :
    (State.new persistent : State D Native).view txn = bindings persistent := by
  rw [view, new_visibleSnapshot]
  rfl

/-- The view through a transaction with nothing of its own pending. -/
def settledView (state : State D Native) (txn : TxnId) : View K V :=
  stack ((state.committedThrough txn).map overlay) (bindings state.persistent)

/-- The answers of a transaction's own pending delta. -/
def ownOverlay (state : State D Native) (txn : TxnId) : Overlay K V :=
  (state.pending[txn]?.map overlay).getD Overlay.transparent

theorem view_eq (state : State D Native) (txn : TxnId) :
    state.view txn = (state.ownOverlay txn).read (state.settledView txn) := by
  rw [view, VisibleSnapshot.view, visibleSnapshot, List.map_append, stack_append, ownOverlay]
  cases state.pending[txn]? <;> rfl

/-! ## Finalization in progress -/

/-- Replace canonical storage as native writes do. -/
def materialize (state : State D Native) (writes : List (PersistentDelta.Write D)) :
    State D Native :=
  { state with persistent := performAll writes state.persistent }

@[simp] theorem materialize_nil (state : State D Native) : state.materialize [] = state := rfl

theorem materialize_cons (state : State D Native) (write : PersistentDelta.Write D)
    (writes : List (PersistentDelta.Write D)) :
    state.materialize (write :: writes) = (state.materialize [write]).materialize writes := rfl

@[simp] theorem materialize_committed (state : State D Native)
    (writes : List (PersistentDelta.Write D)) :
    (state.materialize writes).committed = state.committed := rfl

@[simp] theorem materialize_pending (state : State D Native)
    (writes : List (PersistentDelta.Write D)) :
    (state.materialize writes).pending = state.pending := rfl

@[simp] theorem materialize_finalized (state : State D Native)
    (writes : List (PersistentDelta.Write D)) :
    (state.materialize writes).finalized = state.finalized := rfl

@[simp] theorem materialize_finalizeWrites (state : State D Native)
    (writes : List (PersistentDelta.Write D)) (cutoff : TxnId) :
    (state.materialize writes).finalizeWrites cutoff = state.finalizeWrites cutoff := rfl

/-- One write of a finalization leaves every key alone that the deltas under
finalization do not answer. -/
theorem bindings_materialize_one {state : State D Native} {cutoff : TxnId}
    {write : PersistentDelta.Write D} (scheduled : write ∈ state.finalizeWrites cutoff) (key : K) :
    bindings (state.materialize [write]).persistent key = bindings state.persistent key ∨
      exists layer, layer ∈ (state.committedThrough cutoff).map overlay ∧ layer key ≠ none := by
  rcases List.mem_flatMap.mp scheduled with ⟨delta, member, writes⟩
  by_cases answers : overlay delta key = none
  · exact Or.inl (LayeredDelta.perform_silent delta _ write key writes answers)
  · exact Or.inr ⟨overlay delta, List.mem_map_of_mem member, answers⟩

/-- So the stack of those deltas reads the same before and after it. -/
theorem settledView_materialize_one {state : State D Native} {cutoff txn : TxnId}
    (later : cutoff <= txn) {write : PersistentDelta.Write D}
    (scheduled : write ∈ state.finalizeWrites cutoff) :
    (state.materialize [write]).settledView txn = state.settledView txn := by
  refine stack_absorb (fun key => ?_)
  rcases bindings_materialize_one scheduled key with same | ⟨layer, member, answers⟩
  · exact Or.inl same
  · refine Or.inr ⟨layer, ?_, answers⟩
    change layer ∈ (state.committedThrough txn).map overlay
    rw [committedThrough_split state later, List.map_append]
    exact List.mem_append_left _ member

/-- Readers past the cutoff see no difference after any of the writes. -/
theorem settledView_materialize {state : State D Native} {cutoff txn : TxnId}
    (later : cutoff <= txn) {writes : List (PersistentDelta.Write D)}
    (scheduled : forall write, write ∈ writes -> write ∈ state.finalizeWrites cutoff) :
    (state.materialize writes).settledView txn = state.settledView txn := by
  induction writes generalizing state with
  | nil => rfl
  | cons write writes inductionHypothesis =>
      rw [materialize_cons]
      have rest : forall next, next ∈ writes ->
          next ∈ (state.materialize [write]).finalizeWrites cutoff :=
        fun next member => scheduled next (List.mem_cons_of_mem _ member)
      exact (inductionHypothesis rest).trans
        (settledView_materialize_one later (scheduled write List.mem_cons_self))

theorem view_materialize {state : State D Native} {cutoff txn : TxnId}
    (later : cutoff <= txn) {writes : List (PersistentDelta.Write D)}
    (scheduled : forall write, write ∈ writes -> write ∈ state.finalizeWrites cutoff) :
    (state.materialize writes).view txn = state.view txn := by
  rw [view_eq, view_eq, settledView_materialize later scheduled]
  rfl

/-- Performing the writes of separate deltas reads as stacking them. -/
theorem bindings_performAll {deltas : List D}
    (separate : forall delta, delta ∈ deltas -> Separate delta) (native : Native) :
    bindings (performAll (deltas.flatMap nativeWrites) native) =
      stack (deltas.map overlay) (bindings native) := by
  induction deltas generalizing native with
  | nil => rfl
  | cons delta deltas inductionHypothesis =>
      rw [List.flatMap_cons, performAll_append, inductionHypothesis
        (fun later member => separate later (List.mem_cons_of_mem _ member)),
        LayeredDelta.performAll_read delta native (separate delta List.mem_cons_self)]
      rfl

/-- A finalization through the cutoff with these writes still to perform.
Performing them turns canonical storage into what the deltas show over it. -/
structure Materializing (state : State D Native) (cutoff : TxnId)
    (remaining : List (PersistentDelta.Write D)) : Prop where
  scheduled : forall write, write ∈ remaining -> write ∈ state.finalizeWrites cutoff
  finishes : bindings (state.materialize remaining).persistent = state.settledView cutoff

theorem Materializing.start {state : State D Native} {cutoff : TxnId}
    (separate : forall delta, delta ∈ state.committedThrough cutoff -> Separate delta) :
    state.Materializing cutoff (state.finalizeWrites cutoff) where
  scheduled := fun _ member => member
  finishes := bindings_performAll separate state.persistent

theorem Materializing.perform {state : State D Native} {cutoff : TxnId}
    {write : PersistentDelta.Write D} {remaining : List (PersistentDelta.Write D)}
    (under : state.Materializing cutoff (write :: remaining)) :
    (state.materialize [write]).Materializing cutoff remaining where
  scheduled := fun next member => under.scheduled next (List.mem_cons_of_mem _ member)
  finishes := by
    rw [settledView_materialize_one (le_refl cutoff) (under.scheduled write List.mem_cons_self)]
    exact under.finishes

/-- Only canonical storage and the decided deltas matter to a finalization. -/
theorem Materializing.congr {before after : State D Native} {cutoff : TxnId}
    {remaining : List (PersistentDelta.Write D)} (under : before.Materializing cutoff remaining)
    (persistent : after.persistent = before.persistent)
    (committed : after.committed = before.committed) : after.Materializing cutoff remaining := by
  have through : after.committedThrough cutoff = before.committedThrough cutoff := by
    rw [committedThrough, committedThrough, committed]
  constructor
  · intro write member
    rw [finalizeWrites, through]
    exact under.scheduled write member
  · have finishes := under.finishes
    rw [settledView] at finishes ⊢
    rw [materialize] at finishes ⊢
    rw [persistent, through]
    exact finishes

/-- Nothing left to write: the swap drops what canonical storage now shows. -/
theorem settledView_finalizeSwap {state : State D Native} {cutoff txn : TxnId}
    (done : state.Materializing cutoff []) (later : cutoff <= txn) :
    (state.finalizeSwap cutoff).settledView txn = state.settledView txn := by
  have canonical : bindings state.persistent = state.settledView cutoff := done.finishes
  have rest : (state.finalizeSwap cutoff).committedThrough txn =
      (through (ahead state.committed cutoff) txn).filterMap id :=
    committedThrough_eq _ txn
  rw [settledView, rest, finalizeSwap_persistent, canonical, settledView, settledView,
    committedThrough_split state later, List.map_append, stack_append]

theorem view_finalizeSwap {state : State D Native} {cutoff txn : TxnId}
    (done : state.Materializing cutoff []) (later : cutoff < txn) :
    (state.finalizeSwap cutoff).view txn = state.view txn := by
  rw [view_eq, view_eq, settledView_finalizeSwap done (le_of_lt later), ownOverlay, ownOverlay,
    finalizeSwap_pending, if_pos later]

end State

end Persistence
end TransactionalCollection
