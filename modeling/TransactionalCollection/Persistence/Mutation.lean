import TransactionalCollection.Layering.Replay
import TransactionalCollection.Persistence.Visibility

namespace TransactionalCollection
namespace Persistence

open Layering Native Execution

/-!
# The reach of a mutation

A mutation first reserves a range, and then works on the pending delta of its
own transaction.  `Mutates` says what it can do to the state, whether it
succeeds or stops on the way: everything but that one delta stays, the delta
is touched only while the transaction may still write, and only under keys of
the reserved range.  `Admits` adds the reservation.

The statements are about both outcomes of an operation, since a failed
mutation keeps the writes that preceded the failure.
-/

variable {D Native K V : Type} [PersistentDelta D Native] [StoredMap Native K V]
  [LayeredDelta D Native K V]

/-- Storage work on one delta, under the keys of a range. -/
structure Delta.Reworks (range : SetRange K) (before after : D) : Prop where
  separate : Separate before -> Separate after
  outside : forall key, ¬ range.Covers key -> overlay after key = overlay before key

namespace Delta.Reworks

variable {range : SetRange K}

theorem refl (delta : D) : Delta.Reworks range delta delta :=
  ⟨id, fun _ _ => rfl⟩

theorem trans (first second third : D) (low : Delta.Reworks range first second)
    (high : Delta.Reworks range second third) : Delta.Reworks range first third :=
  ⟨fun separate => high.separate (low.separate separate),
    fun key apart => (high.outside key apart).trans (low.outside key apart)⟩

/-- Work on one key is work on everything. -/
theorem widen {key : K} {before after : D} (works : Delta.Reworks (.one key) before after) :
    Delta.Reworks SetRange.all before after :=
  ⟨works.separate, fun _ elsewhere => False.elim (elsewhere trivial)⟩

end Delta.Reworks

/-- A loop whose body writes one cell of a delta writes them all, in order. -/
theorem forM_lays [DecidableEq K] {E A : Type} {cell : A -> CellWrite K V} {items : List A}
    {body : A -> EStateM E D PUnit}
    (lays : forall item, item ∈ items -> forall before after, body item before = .ok ⟨⟩ after ->
      overlay after = lay [cell item] (overlay before))
    {before after : D} (done : forM items body before = .ok ⟨⟩ after) :
    overlay after = lay (items.map cell) (overlay before) := by
  induction items generalizing before with
  | nil =>
      cases done
      rw [List.map_nil, lay_nil]
  | cons item items inductionHypothesis =>
      rw [List.forM_cons] at done
      rcases bind_eq_ok.mp done with ⟨_, between, first, rest⟩
      rw [List.map_cons, lay_cons, ← lays item List.mem_cons_self before between first]
      exact inductionHypothesis
        (fun later member => lays later (List.mem_cons_of_mem _ member)) rest

omit [PersistentDelta D Native] [LayeredDelta D Native K V] in
/-- So does a loop over native storage. -/
theorem forM_replays [DecidableEq K] {E A : Type} {cell : A -> CellWrite K V} {items : List A}
    {body : A -> EStateM E Native PUnit}
    (applies : forall item, item ∈ items -> forall before after, body item before = .ok ⟨⟩ after ->
      bindings after = (cell item).apply (bindings before))
    {before after : Native} (done : forM items body before = .ok ⟨⟩ after) :
    bindings after = replay (items.map cell) (bindings before) := by
  induction items generalizing before with
  | nil =>
      cases done
      rfl
  | cons item items inductionHypothesis =>
      rw [List.forM_cons] at done
      rcases bind_eq_ok.mp done with ⟨_, between, first, rest⟩
      rw [List.map_cons, replay, List.foldl_cons,
        ← applies item List.mem_cons_self before between first]
      exact inductionHypothesis
        (fun later member => applies later (List.mem_cons_of_mem _ member)) rest

/-- What one transaction's mutation can do to the state. -/
structure Mutates (txn : TxnId) (range : SetRange K) (before after : State D Native) : Prop where
  persistent : after.persistent = before.persistent
  committed : after.committed = before.committed
  finalized : after.finalized = before.finalized
  others : forall other, other ≠ txn -> after.pending[other]? = before.pending[other]?
  writable : after.pending[txn]? ≠ before.pending[txn]? -> before.assertWritable txn = .ok ()
  separate : (forall delta, before.pending[txn]? = some delta -> Separate delta) ->
    forall delta, after.pending[txn]? = some delta -> Separate delta
  outside : forall key, ¬ range.Covers key -> after.ownOverlay txn key = before.ownOverlay txn key

namespace Mutates

variable {txn : TxnId} {range : SetRange K}

@[refl] theorem refl (state : State D Native) : Mutates txn range state state :=
  ⟨rfl, rfl, rfl, fun _ _ => rfl, fun changed => absurd rfl changed, fun separate => separate,
    fun _ _ => rfl⟩

theorem assertWritable {before after : State D Native} (moved : Mutates txn range before after)
    (id : TxnId) : after.assertWritable id = before.assertWritable id := by
  rw [State.assertWritable, State.assertWritable, State.outdated, State.outdated, moved.committed,
    moved.finalized]

theorem trans (first second third : State D Native) (low : Mutates txn range first second)
    (high : Mutates txn range second third) : Mutates txn range first third where
  persistent := high.persistent.trans low.persistent
  committed := high.committed.trans low.committed
  finalized := high.finalized.trans low.finalized
  others := fun other different => (high.others other different).trans (low.others other different)
  writable := by
    intro changed
    by_cases early : second.pending[txn]? = first.pending[txn]?
    · rw [← low.assertWritable]
      exact high.writable (early ▸ changed)
    · exact low.writable early
  separate := fun separate => high.separate (low.separate separate)
  outside := fun key apart => (high.outside key apart).trans (low.outside key apart)

/-- Replacing the pending delta by one that answers the same outside the range. -/
theorem setPending {state : State D Native} {delta : D}
    (writable : state.assertWritable txn = .ok ())
    (separate : (forall old, state.pending[txn]? = some old -> Separate old) -> Separate delta)
    (outside : forall key, ¬ range.Covers key -> overlay delta key = state.ownOverlay txn key) :
    Mutates txn range state (state.setPending txn delta) where
  persistent := rfl
  committed := rfl
  finalized := rfl
  others := by
    intro other different
    rw [State.setPending_pending, if_neg (Ne.symm different)]
  writable := fun _ => writable
  separate := by
    intro before after present
    rw [State.setPending_self] at present
    cases present
    exact separate before
  outside := by
    intro key apart
    rw [State.ownOverlay, State.setPending_self]
    exact outside key apart

/-- Fetching the pending delta installs a blank one at most. -/
theorem pendingDeltaForTxn {created : D} (blank : overlay created = Overlay.transparent)
    (separate : Separate created) :
    Moves (Mutates txn range)
      (State.pendingDeltaForTxn created txn : EStateM LockError (State D Native) D) := by
  intro state
  rcases State.pendingDeltaForTxn_cases state txn created with
    ⟨error, _, refused⟩ | ⟨existing, _, _, adopted⟩ | ⟨writable, absent, installed⟩
  · rw [refused]
    exact refl state
  · rw [adopted]
    exact refl state
  · rw [installed]
    refine setPending writable (fun _ => separate) (fun key _ => ?_)
    rw [blank, State.ownOverlay, absent]
    rfl

/-- Storage work on the pending delta reaches no further than the work itself. -/
theorem writePending {E A : Type} {state : State D Native} {delta : D}
    {operation : EStateM E D A} (writable : state.assertWritable txn = .ok ())
    (present : state.pending[txn]? = some delta)
    (works : Moves (Delta.Reworks range) operation) :
    Mutates txn range state (finalState (State.writePending txn delta operation state)) := by
  have install : forall after, Delta.Reworks range delta after ->
      Mutates txn range state (state.setPending txn after) := by
    intro after reworked
    refine setPending writable (fun old => reworked.separate (old delta present)) ?_
    intro key apart
    rw [reworked.outside key apart, State.ownOverlay, present]
    rfl
  have reached := works delta
  unfold State.writePending focus
  cases outcome : operation delta with
  | ok value after => rw [outcome] at reached; exact install after reached
  | error error after => rw [outcome] at reached; exact install after reached

/-- Other transactions see what they saw before. -/
theorem visibleSnapshot_of_ne {before after : State D Native} (moved : Mutates txn range before after)
    {other : TxnId} (different : other ≠ txn) :
    after.visibleSnapshot other = before.visibleSnapshot other := by
  rw [State.visibleSnapshot, State.visibleSnapshot, State.committedThrough, State.committedThrough,
    moved.persistent, moved.committed, moved.others other different]

theorem view_of_ne {before after : State D Native} (moved : Mutates txn range before after)
    {other : TxnId} (different : other ≠ txn) : after.view other = before.view other := by
  rw [State.view, State.view, moved.visibleSnapshot_of_ne different]

end Mutates

/-- A fetched pending delta is the one the state holds, and may be written. -/
theorem State.pendingDeltaForTxn_ok {D Native : Type} {created delta : D} {txn : TxnId}
    {start middle : State D Native}
    (fetched : State.pendingDeltaForTxn created txn start = .ok delta middle) :
    middle.pending[txn]? = some delta ∧ middle.assertWritable txn = .ok () := by
  rcases State.pendingDeltaForTxn_cases start txn created with
    ⟨error, _, refused⟩ | ⟨existing, writable, present, adopted⟩ | ⟨writable, _, installed⟩
  · rw [refused] at fetched
    cases fetched
  · rw [adopted] at fetched
    cases fetched
    exact ⟨present, writable⟩
  · rw [installed] at fetched
    cases fetched
    exact ⟨State.setPending_self created, writable⟩

/-- It answers what the transaction's own delta answered before. -/
theorem State.pendingDeltaForTxn_ownOverlay {created delta : D} {txn : TxnId}
    {start middle : State D Native} (blank : overlay created = Overlay.transparent)
    (fetched : State.pendingDeltaForTxn created txn start = .ok delta middle) :
    overlay delta = start.ownOverlay txn ∧ start.assertWritable txn = .ok () := by
  rcases State.pendingDeltaForTxn_cases start txn created with
    ⟨error, _, refused⟩ | ⟨existing, writable, present, adopted⟩ | ⟨writable, absent, installed⟩
  · rw [refused] at fetched
    cases fetched
  · rw [adopted] at fetched
    cases fetched
    rw [State.ownOverlay, present]
    exact ⟨rfl, writable⟩
  · rw [installed] at fetched
    cases fetched
    rw [State.ownOverlay, absent, blank]
    exact ⟨rfl, writable⟩

/-- What has been decided stays decided. -/
theorem State.pendingDeltaForTxn_settledView {created delta : D} {txn : TxnId}
    {start middle : State D Native}
    (fetched : State.pendingDeltaForTxn created txn start = .ok delta middle) :
    middle.settledView txn = start.settledView txn := by
  rcases State.pendingDeltaForTxn_cases start txn created with
    ⟨error, _, refused⟩ | ⟨existing, _, _, adopted⟩ | ⟨_, _, installed⟩
  · cases refused.symm.trans fetched
  · cases adopted.symm.trans fetched
    rfl
  · cases installed.symm.trans fetched
    rfl

/-- A refused fetch leaves the state as it is. -/
theorem State.pendingDeltaForTxn_error {D Native : Type} {created : D} {txn : TxnId}
    {error : LockError} {start after : State D Native}
    (refused : State.pendingDeltaForTxn created txn start = .error error after) :
    after = start := by
  rcases State.pendingDeltaForTxn_cases start txn created with
    ⟨_, _, outcome⟩ | ⟨_, _, _, outcome⟩ | ⟨_, _, outcome⟩
  · rw [outcome] at refused
    cases refused
    rfl
  · rw [outcome] at refused
    cases refused
  · rw [outcome] at refused
    cases refused

/-- A mutation which fetches its pending delta moves as what follows does. -/
theorem Mutates.withPending {E A : Type} {txn : TxnId} {range : SetRange K} {created : D}
    (blank : overlay created = Overlay.transparent) (separate : Separate created)
    (translate : LockError -> E) {rest : D -> EStateM E (State D Native) A}
    (restMutates : forall (delta : D) (state : State D Native), state.pending[txn]? = some delta ->
      state.assertWritable txn = .ok () -> Mutates txn range state (finalState (rest delta state))) :
    Moves (Mutates txn range) (mapError translate (State.pendingDeltaForTxn created txn) >>= rest) := by
  refine Moves.bind Mutates.trans
    (Moves.mapError (Mutates.pendingDeltaForTxn blank separate) translate) ?_
  intro delta start middle fetched
  rcases State.pendingDeltaForTxn_ok (mapError_eq_ok.mp fetched) with ⟨present, writable⟩
  exact restMutates delta middle present writable

/-! ## Under a reservation -/

/-- A mutation of the owner: refused at the semaphore, or let through to the
state under a write reservation on its range. -/
def Admits [DecidableEq K] (txn : TxnId) (range : SetRange K)
    (before after : CollectionOwner D Native K) : Prop :=
  after = before ∨
    before.semaphore.tryWrite txn range = .ok after.semaphore ∧
      Mutates txn range before.state after.state

/-- A mutation which reserves and then works on the state is refused by the
semaphore, or ends as the work does. -/
theorem reserved_cases {D Native : Type} [DecidableEq K] {E A : Type} (txn : TxnId) (range : SetRange K)
    (translate : LockError -> E) (body : EStateM E (State D Native) A)
    (owner : CollectionOwner D Native K) :
    (exists error, (mapError translate (CollectionOwner.tryWrite txn range) >>= fun _ =>
        CollectionOwner.onState body) owner = .error error owner) ∨
      exists semaphore, owner.semaphore.tryWrite txn range = .ok semaphore ∧
        ((exists value after, body owner.state = .ok value after ∧
            (mapError translate (CollectionOwner.tryWrite txn range) >>= fun _ =>
              CollectionOwner.onState body) owner = .ok value ⟨after, semaphore⟩) ∨
          exists error after, body owner.state = .error error after ∧
            (mapError translate (CollectionOwner.tryWrite txn range) >>= fun _ =>
              CollectionOwner.onState body) owner = .error error ⟨after, semaphore⟩) := by
  change (exists error, EStateM.bind _ _ owner = .error error owner) ∨ exists semaphore, _ ∧
    ((exists value after, _ ∧ EStateM.bind _ _ owner = .ok value ⟨after, semaphore⟩) ∨
      exists error after, _ ∧ EStateM.bind _ _ owner = .error error ⟨after, semaphore⟩)
  unfold EStateM.bind mapError CollectionOwner.tryWrite
  cases owner.semaphore.tryWrite txn range with
  | error error => exact Or.inl ⟨translate error, rfl⟩
  | ok semaphore =>
      refine Or.inr ⟨semaphore, rfl, ?_⟩
      simp only [CollectionOwner.onState, focus]
      cases body owner.state with
      | ok value after => exact Or.inl ⟨value, after, rfl, rfl⟩
      | error error after => exact Or.inr ⟨error, after, rfl, rfl⟩

section Granted

variable {D Native : Type} [DecidableEq K] {E A : Type} {txn : TxnId} {range : SetRange K}
  {translate : LockError -> E} {body : EStateM E (State D Native) A}
  {owner : CollectionOwner D Native K}

/-- Work which succeeds under a reservation has been granted it. -/
theorem reserved_eq_ok {value : A} {after : CollectionOwner D Native K}
    (done : (mapError translate (CollectionOwner.tryWrite txn range) >>= fun _ =>
      CollectionOwner.onState body) owner = .ok value after) :
    owner.semaphore.tryWrite txn range = .ok after.semaphore ∧ body owner.state = .ok value after.state := by
  rcases reserved_cases txn range translate body owner with
    ⟨_, refused⟩ | ⟨semaphore, granted, ⟨_, _, finished, outcome⟩ | ⟨_, _, _, outcome⟩⟩
  · cases refused.symm.trans done
  · cases outcome.symm.trans done
    exact ⟨granted, finished⟩
  · cases outcome.symm.trans done

/-- If it fails, the reservation was refused or the work itself has failed. -/
theorem reserved_eq_error {error : E} {after : CollectionOwner D Native K}
    (failed : (mapError translate (CollectionOwner.tryWrite txn range) >>= fun _ =>
      CollectionOwner.onState body) owner = .error error after) :
    after.state = owner.state ∨ body owner.state = .error error after.state := by
  rcases reserved_cases txn range translate body owner with
    ⟨_, refused⟩ | ⟨semaphore, _, ⟨_, _, _, outcome⟩ | ⟨_, _, stopped, outcome⟩⟩
  · cases refused.symm.trans failed
    exact Or.inl rfl
  · cases outcome.symm.trans failed
  · cases outcome.symm.trans failed
    exact Or.inr stopped

/-- A refused reservation is the outcome. -/
theorem reserved_of_refused {error : LockError}
    (refused : owner.semaphore.tryWrite txn range = .error error) :
    (mapError translate (CollectionOwner.tryWrite txn range) >>= fun _ =>
      CollectionOwner.onState body) owner = .error (translate error) owner := by
  apply bind_of_error
  apply mapError_of_error
  rw [CollectionOwner.tryWrite, refused]

/-- Under a granted reservation the work succeeds as it does on the state. -/
theorem reserved_of_ok {semaphore : Semaphore K} {value : A} {after : State D Native}
    (granted : owner.semaphore.tryWrite txn range = .ok semaphore)
    (done : body owner.state = .ok value after) :
    (mapError translate (CollectionOwner.tryWrite txn range) >>= fun _ =>
      CollectionOwner.onState body) owner = .ok value ⟨after, semaphore⟩ := by
  have reserved : CollectionOwner.tryWrite txn range owner =
      .ok () { owner with semaphore := semaphore } := by
    rw [CollectionOwner.tryWrite, granted]
  exact (bind_of_ok (mapError_of_ok reserved)).trans (focus_of_ok done)

/-- And it fails as it does on the state. -/
theorem reserved_of_error {semaphore : Semaphore K} {error : E} {after : State D Native}
    (granted : owner.semaphore.tryWrite txn range = .ok semaphore)
    (failed : body owner.state = .error error after) :
    (mapError translate (CollectionOwner.tryWrite txn range) >>= fun _ =>
      CollectionOwner.onState body) owner = .error error ⟨after, semaphore⟩ := by
  have reserved : CollectionOwner.tryWrite txn range owner =
      .ok () { owner with semaphore := semaphore } := by
    rw [CollectionOwner.tryWrite, granted]
  exact (bind_of_ok (mapError_of_ok reserved)).trans (focus_of_error failed)

end Granted

/-- Every mutation has this form. -/
theorem admits_of_reserved [DecidableEq K] {E A : Type} {txn : TxnId} {range : SetRange K}
    (translate : LockError -> E) {body : EStateM E (State D Native) A}
    (moves : Moves (Mutates txn range) body) (owner : CollectionOwner D Native K) :
    Admits txn range owner (finalState
      ((mapError translate (CollectionOwner.tryWrite txn range) >>= fun _ =>
        CollectionOwner.onState body) owner)) := by
  have reached := moves owner.state
  rcases reserved_cases txn range translate body owner with
    ⟨error, refused⟩ |
      ⟨semaphore, granted, ⟨value, after, done, outcome⟩ | ⟨error, after, failed, outcome⟩⟩
  · rw [refused]
    exact Or.inl rfl
  · rw [done] at reached
    rw [outcome]
    exact Or.inr ⟨granted, reached⟩
  · rw [failed] at reached
    rw [outcome]
    exact Or.inr ⟨granted, reached⟩

namespace Admits

variable [DecidableEq K] {txn : TxnId} {range : SetRange K}
  {before after : CollectionOwner D Native K}

theorem mutates (admitted : Admits txn range before after) :
    Mutates txn range before.state after.state := by
  rcases admitted with rfl | ⟨_, mutated⟩
  · exact Mutates.refl _
  · exact mutated

end Admits

end Persistence
end TransactionalCollection
