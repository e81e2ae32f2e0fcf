import TransactionalCollection.Persistence.Replacement

namespace TransactionalCollection
namespace Persistence

open Layering Native Execution

/-!
# Decisions about what has been written

A transaction writes through a handle, call by call, while others go on with
their work, and is then decided through the same handle.  The reservations of
its calls last until the decision, so each cell still shows what was written to
it last.  A decision which reaches the owner publishes these cells or takes them
back; a decision which never does leaves them pending.
-/

section Writing

variable {D Native K V : Type} [DecidableEq K] [PersistentDelta D Native] [StoredMap Native K V]
  [LayeredDelta D Native K V]

/-- A call of a transaction which may write, on cells which it has reserved. -/
structure Writes (txn : TxnId) (cells : List (CellWrite K V))
    (before after : CollectionOwner D Native K) : Prop where
  writable : before.state.assertWritable txn = .ok ()
  reserved : exists range, before.semaphore.tryWrite txn range = .ok after.semaphore ∧
    forall write, write ∈ cells -> range.Covers write.key
  shows : after.state.view txn = replay cells (before.state.view txn)

/-- The calls of a handle: each is a mutation which writes its cells, or comes
to nothing. -/
def Authentic (driver : Driver D Native K) (txn : TxnId)
    (calls : CollectionOwner D Native K -> List (CellWrite K V) -> CollectionOwner D Native K -> Prop) :
    Prop :=
  forall config cells after, Reachable driver config -> calls config.owner cells after ->
    (after = config.owner ∧ cells = []) ∨
      exists op, driver.mutate txn op config.owner = .ok ⟨⟩ after ∧ Writes txn cells config.owner after

/-- A transaction writes through a handle, among undisturbed steps of others.
The log collects the cells in the order of the calls. -/
inductive Through (driver : Driver D Native K) (txn : TxnId)
    (calls : CollectionOwner D Native K -> List (CellWrite K V) -> CollectionOwner D Native K -> Prop)
    (first : Config D Native K) : List (CellWrite K V) -> Config D Native K -> Prop where
  | nothing : Through driver txn calls first [] first
  | call {log cells : List (CellWrite K V)} {last : Config D Native K}
      {after : CollectionOwner D Native K} (before : Through driver txn calls first log last)
      (called : calls last.owner cells after) :
      Through driver txn calls first (log ++ cells) { last with owner := after }
  | others {log : List (CellWrite K V)} {last next : Config D Native K}
      (before : Through driver txn calls first log last)
      (between : Between driver txn (fun _ _ => True) last next) :
      Through driver txn calls first log next

/-- The transaction may still write, and sees in each cell of the log what was
written to it last, under a reservation. -/
structure Keeps (txn : TxnId) (log : List (CellWrite K V)) (config : Config D Native K) : Prop where
  writable : log ≠ [] -> config.state.assertWritable txn = .ok ()
  shows : forall key answer, effect log key = some answer -> config.state.view txn key = answer
  holds : forall key, effect log key ≠ none ->
    exists range, range.Covers key ∧ config.semaphore.HoldsWrite txn range

variable {driver : Driver D Native K} {txn : TxnId} {first last : Config D Native K}
  {log : List (CellWrite K V)}

namespace Keeps

theorem start (config : Config D Native K) : Keeps txn ([] : List (CellWrite K V)) config where
  writable := fun impossible => absurd rfl impossible
  shows := by
    intro key answer impossible
    cases impossible
  holds := fun key impossible => absurd rfl impossible

/-- A call adds its cells to the log. -/
theorem call (kept : Keeps txn log last) {op : driver.Op} {cells : List (CellWrite K V)}
    {after : CollectionOwner D Native K} (done : driver.mutate txn op last.owner = .ok ⟨⟩ after)
    (writes : Writes txn cells last.owner after) :
    Keeps txn (log ++ cells) { last with owner := after } := by
  have admitted := driver.admits txn op last.owner
  rw [done, finalState_ok] at admitted
  rcases writes.reserved with ⟨range, granted, covers⟩
  have added := (Semaphore.tryWrite_eq_ok_iff.mp granted).2
  constructor
  · intro _
    exact (admitted.mutates.assertWritable txn).trans writes.writable
  · intro key answer written
    change after.state.view txn key = answer
    rw [writes.shows, ← effect_read, Overlay.read]
    rw [effect_append] at written
    cases here : effect cells key with
    | some outcome =>
        rw [here] at written
        exact Option.some.inj written
    | none =>
        rw [here] at written
        exact kept.shows key answer written
  · intro key written
    change exists range, range.Covers key ∧ after.semaphore.HoldsWrite txn range
    rw [added]
    by_cases here : effect cells key = none
    · rw [effect_append, here, Option.none_or] at written
      rcases kept.holds key written with ⟨held, heldCovers, heldHolds⟩
      exact ⟨held, heldCovers, (Semaphore.add_write_holdsWrite ..).mpr (Or.inr heldHolds)⟩
    · have listed : exists write, write ∈ cells ∧ write.key = key := by
        by_contra unwritten
        apply here
        apply (effect_eq_none_iff cells key).mpr
        intro write member same
        exact unwritten ⟨write, member, same⟩
      rcases listed with ⟨write, member, rfl⟩
      exact ⟨range, covers write member, (Semaphore.add_write_holdsWrite ..).mpr (Or.inl ⟨rfl, rfl⟩)⟩

/-- The work of others leaves the cells alone. -/
theorem step (reads : ReadsOnly driver) (reached : Reachable driver last) (kept : Keeps txn log last)
    {action : Action driver} (undisturbed : Undisturbed txn last action) :
    Keeps txn log (Persistence.step driver last action) := by
  rcases step_entries undisturbed with ⟨_, committed, ahead⟩
  constructor
  · intro written
    rcases State.assertWritable_eq_ok_iff.mp (kept.writable written) with ⟨fresh, absent⟩
    exact State.assertWritable_eq_ok_iff.mpr ⟨ahead fresh, committed.trans absent⟩
  · intro key answer written
    have answered : effect log key ≠ none := by
      rw [written]
      exact Option.some_ne_none answer
    rcases kept.holds key answered with ⟨range, covers, holds⟩
    have spared : Spares (fun other => other = key) txn last action := by
      apply (reached.reserved reads).spares_written holds
      intro other same
      exact same ▸ covers
    rw [step_view reached.sound undisturbed spared rfl]
    exact kept.shows key answer written
  · intro key written
    rcases kept.holds key written with ⟨range, covers, holds⟩
    exact ⟨range, covers, step_keeps reads undisturbed holds⟩

theorem between (reads : ReadsOnly driver) (reached : Reachable driver first)
    (kept : Keeps txn log first) {condition : Config D Native K -> Action driver -> Prop}
    (between : Between driver txn condition first last) : Keeps txn log last := by
  induction between with
  | nothing => exact kept
  | step before _ undisturbed _ inductionHypothesis =>
      exact inductionHypothesis.step reads (before.reachable reached) undisturbed
  | stopped _ inductionHypothesis =>
      exact ⟨inductionHypothesis.writable, inductionHypothesis.shows, inductionHypothesis.holds⟩

end Keeps

/-- Whatever is written through a handle is kept until the decision. -/
theorem Through.keeps {calls : CollectionOwner D Native K -> List (CellWrite K V) ->
      CollectionOwner D Native K -> Prop} (reads : ReadsOnly driver)
    (authentic : Authentic driver txn calls) (reached : Reachable driver first)
    (through : Through driver txn calls first log last) :
    Reachable driver last ∧ Keeps txn log last := by
  induction through with
  | nothing => exact ⟨reached, Keeps.start first⟩
  | call before called inductionHypothesis =>
      rcases inductionHypothesis with ⟨lastReached, kept⟩
      rcases authentic _ _ _ lastReached called with ⟨rfl, rfl⟩ | ⟨op, done, writes⟩
      · rw [List.append_nil]
        exact ⟨lastReached, kept⟩
      · refine ⟨?_, kept.call done writes⟩
        have stepped := lastReached.step (.mutate txn op)
        rw [Persistence.step, done] at stepped
        exact stepped
  | others before between inductionHypothesis =>
      rcases inductionHypothesis with ⟨lastReached, kept⟩
      exact ⟨between.reachable lastReached, kept.between reads lastReached between⟩

/-! ## What a decision does to the cells -/

/-- A commit shows the cells of the log to every later transaction, as long as
none in between has decided them and the reader has not written them itself:
at once, and until somebody does.  A rollback shows them to nobody: the
transaction sees what has been decided, and the others what they saw. -/
structure Reaches (driver : Driver D Native K) (txn : TxnId) (log : List (CellWrite K V))
    (last : Config D Native K) (commits rollsBack : CollectionOwner D Native K -> Prop) : Prop where
  publishes : forall after, commits after -> forall reader, txn < reader ->
    forall key answer, effect log key = some answer ->
      (forall layer, txn < layer -> layer <= reader -> after.state.decidedOverlay layer key = none) ->
      after.state.ownOverlay reader key = none ->
      after.state.view reader key = answer ∧
        (last.finalizing = none -> forall later,
          Between driver reader (Spares (fun other => other = key) reader)
            { last with owner := after } later -> later.state.view reader key = answer)
  withdraws : forall after, rollsBack after -> forall key, effect log key ≠ none -> forall reader,
    after.state.view reader key =
      if reader = txn then last.state.settledView txn key else last.state.view reader key

omit [DecidableEq K] in
/-- Layers which do not answer a key let what is below them through. -/
theorem State.viewBefore_of_silent {state : State D Native} {low high : TxnId} {key : K}
    (ordered : low <= high)
    (silent : forall layer, low <= layer -> layer < high -> state.decidedOverlay layer key = none) :
    state.viewBefore high key = state.viewBefore low key := by
  induction high, ordered using Nat.le_induction with
  | base => rfl
  | succ high ordered inductionHypothesis =>
      rw [State.viewBefore_succ, Overlay.read_of_silent (silent high ordered (Nat.lt_succ_self high))]
      apply inductionHypothesis
      intro layer above below
      exact silent layer above (Nat.lt_succ_of_lt below)

omit [DecidableEq K] in
/-- Such a reader sees what has been decided up to the transaction. -/
theorem State.view_of_silent {state : State D Native} {reader : TxnId} {key : K} (later : txn < reader)
    (silent : forall layer, txn < layer -> layer <= reader -> state.decidedOverlay layer key = none)
    (own : state.ownOverlay reader key = none) :
    state.view reader key = state.settledView txn key := by
  rw [State.view_eq_viewBefore, Overlay.read_of_silent own, State.settledView_eq_viewBefore]
  apply State.viewBefore_of_silent (Nat.succ_le_succ (Nat.le_of_lt later))
  intro layer above below
  exact silent layer above (Nat.le_of_lt_succ below)

/-- Decisions of the owner reach everything which was written. -/
theorem Keeps.reaches (reached : Reachable driver last) (kept : Keeps txn log last) :
    Reaches driver txn log last (fun after => CollectionOwner.commit txn last.owner = .ok () after)
      (fun after => CollectionOwner.rollback txn last.owner = .ok () after) := by
  have open_if : forall key, effect log key ≠ none -> last.state.assertWritable txn = .ok () := by
    intro key written
    apply kept.writable
    intro empty
    rw [empty] at written
    exact written rfl
  constructor
  · intro after done reader later key answer written silent own
    have answered : effect log key ≠ none := by
      rw [written]
      exact Option.some_ne_none answer
    have writable := open_if key answered
    have decided := CollectionOwner.commit_of_writable writable
    have read : after.state.view reader key = answer := by
      rw [State.view_of_silent later silent own]
      cases decided.symm.trans done
      change (last.state.recordCommit txn).settledView txn key = answer
      rw [State.recordCommit_settledView (State.assertWritable_eq_ok_iff.mp writable).2]
      exact kept.shows key answer written
    refine ⟨read, ?_⟩
    intro free next between
    have stepped := reached.step (.commit txn)
    rw [Persistence.step, if_pos (by rw [free]; rfl), done] at stepped
    rw [Between.view_eq (fun _ _ => id) stepped between rfl]
    exact read
  · intro after done key written reader
    cases (CollectionOwner.rollback_of_writable (open_if key written)).symm.trans done
    change (last.state.discardPending txn).view reader key = _
    by_cases own : reader = txn
    · rw [if_pos own, own, State.discardPending_settledView]
    · rw [if_neg own, State.view, discardPending_visibleSnapshot _ (Ne.symm own)]
      rfl

/-- Decisions which leave the owner alone reach what was written only if it had
been decided already. -/
theorem Keeps.reaches_idle_iff (reached : Reachable driver last) (kept : Keeps txn log last) :
    Reaches driver txn log last (fun after => after = last.owner) (fun after => after = last.owner) <->
      forall key answer, effect log key = some answer -> last.state.settledView txn key = answer := by
  constructor
  · intro reaches key answer written
    have answered : effect log key ≠ none := by
      rw [written]
      exact Option.some_ne_none answer
    have withdrawn := reaches.withdraws last.owner rfl key answered txn
    rw [if_pos rfl] at withdrawn
    rw [← withdrawn]
    exact kept.shows key answer written
  · intro unchanged
    constructor
    · intro after same reader later key answer written silent own
      subst same
      have read : last.state.view reader key = answer :=
        (State.view_of_silent later silent own).trans (unchanged key answer written)
      refine ⟨read, ?_⟩
      intro _ next between
      rw [Between.view_eq (fun _ _ => id) reached between rfl]
      exact read
    · intro after same key written reader
      subst same
      split
      · rename_i own
        subst own
        rcases Option.ne_none_iff_exists'.mp written with ⟨answer, answered⟩
        rw [unchanged key answer answered]
        exact kept.shows key answer answered
      · rfl

end Writing

end Persistence
end TransactionalCollection
