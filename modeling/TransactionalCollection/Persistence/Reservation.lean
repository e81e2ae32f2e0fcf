import TransactionalCollection.Persistence.Lifecycle

namespace TransactionalCollection
namespace Persistence

open Layering Native Execution

/-!
# What the reservations guard

A transaction writes under reservations and keeps them until it is decided.
Through any run no two transactions hold overlapping writes, no write is older
than a read it overlaps, and a pending delta answers only keys its transaction
has reserved.  The last is what makes reservations a protection: whoever holds
a key excludes every pending answer for it but its own.
-/

section Guards

variable {D Native K V : Type} [DecidableEq K] [PersistentDelta D Native] [StoredMap Native K V]
  [LayeredDelta D Native K V]

/-- Apart from mutations and decisions, only readers touch the semaphore. -/
def ReadsOnly (driver : Driver D Native K) : Prop :=
  forall event semaphore, exists txn range, driver.passes event semaphore = semaphore.read txn range

structure Reserved (config : Config D Native K) : Prop where
  exclusive : forall first second firstRange secondRange,
    config.semaphore.HoldsWrite first firstRange -> config.semaphore.HoldsWrite second secondRange ->
      firstRange.overlaps secondRange = true -> first = second
  readsFirst : forall reader writer readRange writeRange,
    config.semaphore.HoldsRead reader readRange -> config.semaphore.HoldsWrite writer writeRange ->
      readRange.overlaps writeRange = true -> reader <= writer
  covered : forall txn key, config.state.ownOverlay txn key ≠ none ->
    exists range, range.Covers key ∧ config.semaphore.HoldsWrite txn range

variable {driver : Driver D Native K} {config : Config D Native K}

namespace Reserved

theorem start (canonical : Native) : Reserved (Config.start canonical : Config D Native K) := by
  have nobody : forall reservation : Reservation K,
      reservation ∉ (Config.start canonical : Config D Native K).semaphore.reservations :=
    fun _ => List.not_mem_nil
  refine ⟨fun _ _ _ _ holds => absurd holds (nobody _), fun _ _ _ _ holds => absurd holds (nobody _), ?_⟩
  intro txn key answered
  refine absurd ?_ answered
  have silent : (Config.start canonical : Config D Native K).state.pending[txn]? = none :=
    Std.ExtTreeMap.getElem?_empty
  rw [State.ownOverlay, silent]
  rfl

/-- A granted write comes after every read it overlaps and excludes the others'
writes. -/
theorem written (reserved : Reserved config) {txn : TxnId} {range : SetRange K}
    {owner : CollectionOwner D Native K}
    (admitted : Admits txn range config.owner owner) : Reserved { config with owner := owner } := by
  rcases admitted with rfl | ⟨granted, moved⟩
  · exact reserved
  · have added := (Semaphore.tryWrite_eq_ok_iff.mp granted).2
    constructor
    · intro first second firstRange secondRange firstHolds secondHolds overlap
      change owner.semaphore.HoldsWrite _ _ at firstHolds secondHolds
      rw [added, Semaphore.add_write_holdsWrite] at firstHolds secondHolds
      rcases firstHolds with ⟨rfl, rfl⟩ | firstHeld
      · rcases secondHolds with ⟨rfl, rfl⟩ | secondHeld
        · rfl
        · rw [SetRange.overlaps_comm] at overlap
          exact (Semaphore.tryWrite_excludes_write granted secondHeld overlap).symm
      · rcases secondHolds with ⟨rfl, rfl⟩ | secondHeld
        · exact Semaphore.tryWrite_excludes_write granted firstHeld overlap
        · exact reserved.exclusive _ _ _ _ firstHeld secondHeld overlap
    · intro reader writer readRange writeRange readHolds writeHolds overlap
      change owner.semaphore.HoldsRead _ _ at readHolds
      change owner.semaphore.HoldsWrite _ _ at writeHolds
      rw [added, Semaphore.add_write_holdsRead] at readHolds
      rw [added, Semaphore.add_write_holdsWrite] at writeHolds
      rcases writeHolds with ⟨rfl, rfl⟩ | writeHeld
      · exact Semaphore.tryWrite_excludes_later_read granted readHolds overlap
      · exact reserved.readsFirst _ _ _ _ readHolds writeHeld overlap
    · intro other key answered
      change exists held : SetRange K, held.Covers key ∧ owner.semaphore.HoldsWrite other held
      simp only [added, Semaphore.add_write_holdsWrite]
      by_cases here : other = txn ∧ range.Covers key
      · exact ⟨range, here.2, Or.inl ⟨here.1, rfl⟩⟩
      · have before : config.state.ownOverlay other key ≠ none := by
          by_cases own : other = txn
          · subst own
            exact (moved.outside key (fun covers => here ⟨rfl, covers⟩)) ▸ answered
          · change owner.state.ownOverlay other key ≠ none at answered
            rwa [State.ownOverlay, moved.others other own] at answered
        rcases reserved.covered other key before with ⟨held, covers, holds⟩
        exact ⟨held, covers, Or.inr holds⟩

theorem read (reserved : Reserved config) (txn : TxnId) (range : SetRange K) :
    Reserved { config with owner :=
      { config.owner with semaphore := config.owner.semaphore.read txn range } } := by
  unfold Semaphore.read
  split
  · rename_i ready
    constructor
    · intro first second firstRange secondRange firstHolds secondHolds
      exact reserved.exclusive _ _ _ _ ((Semaphore.add_read_holdsWrite ..).mp firstHolds)
        ((Semaphore.add_read_holdsWrite ..).mp secondHolds)
    · intro reader writer readRange writeRange readHolds writeHolds overlap
      have writeHeld := (Semaphore.add_read_holdsWrite ..).mp writeHolds
      rcases (Semaphore.add_read_holdsRead ..).mp readHolds with ⟨rfl, rfl⟩ | readHeld
      · rw [SetRange.overlaps_comm] at overlap
        exact Semaphore.canRead_excludes_earlier_write ready writeHeld overlap
      · exact reserved.readsFirst _ _ _ _ readHeld writeHeld overlap
    · intro other key answered
      rcases reserved.covered other key answered with ⟨held, covers, holds⟩
      exact ⟨held, covers, (Semaphore.add_read_holdsWrite ..).mpr holds⟩
  · exact reserved

/-- Releasing reservations is safe once their deltas are no longer pending. -/
theorem released (reserved : Reserved config) {txn : TxnId} {dropPast : Bool}
    {state : State D Native} {finalizing : Option (TxnId × List (PersistentDelta.Write D))}
    (kept : forall other key, state.ownOverlay other key ≠ none ->
      config.state.ownOverlay other key ≠ none ∧ if dropPast then txn < other else other ≠ txn) :
    Reserved ⟨⟨state, config.semaphore.finalize txn dropPast⟩, finalizing⟩ := by
  constructor
  · intro first second firstRange secondRange firstHolds secondHolds
    exact reserved.exclusive _ _ _ _ ((Semaphore.finalize_holdsWrite ..).mp firstHolds).1
      ((Semaphore.finalize_holdsWrite ..).mp secondHolds).1
  · intro reader writer readRange writeRange readHolds writeHolds
    exact reserved.readsFirst _ _ _ _ ((Semaphore.finalize_holdsRead ..).mp readHolds).1
      ((Semaphore.finalize_holdsWrite ..).mp writeHolds).1
  · intro other key answered
    rcases kept other key answered with ⟨before, unreleased⟩
    rcases reserved.covered other key before with ⟨held, covers, holds⟩
    exact ⟨held, covers, (Semaphore.finalize_holdsWrite ..).mpr ⟨holds, unreleased⟩⟩

end Reserved

omit [DecidableEq K] in
/-- A pending delta which still answers was neither committed nor discarded. -/
theorem State.ownOverlay_of_erased {before after : State D Native} {txn other : TxnId} {key : K}
    (erased : after.pending[other]? = if txn = other then none else before.pending[other]?)
    (answered : after.ownOverlay other key ≠ none) :
    before.ownOverlay other key ≠ none ∧ other ≠ txn := by
  rw [State.ownOverlay, erased] at answered
  split at answered
  · exact absurd rfl answered
  · exact ⟨answered, Ne.symm ‹_›⟩

theorem step_reserved (reads : ReadsOnly driver) (reserved : Reserved config)
    (action : Action driver) : Reserved (step driver config action) := by
  have transition := step_transition driver config action
  generalize step driver config action = after at transition ⊢
  cases transition with
  | idle => exact reserved
  | mutated txn op => exact reserved.written (driver.admits txn op config.owner)
  | passed event =>
      rcases reads event config.owner.semaphore with ⟨txn, range, same⟩
      rw [same]
      exact reserved.read txn range
  | committed txn undecided =>
      refine reserved.released (fun other key answered => ?_)
      exact State.ownOverlay_of_erased (State.recordCommit_pending _ txn other) answered
  | discarded txn undecided =>
      refine reserved.released (fun other key answered => ?_)
      exact State.ownOverlay_of_erased (State.discardPending_pending _ txn other) answered
  | began cutoff free fresh => exact ⟨reserved.exclusive, reserved.readsFirst, reserved.covered⟩
  | wrote cutoff write remaining underway =>
      exact ⟨reserved.exclusive, reserved.readsFirst, reserved.covered⟩
  | swapped cutoff underway =>
      refine reserved.released (fun other key answered => ?_)
      rw [State.ownOverlay, State.finalizeSwap_pending] at answered
      split at answered
      · exact ⟨answered, ‹_›⟩
      · exact absurd rfl answered

/-- Two transactions with pending answers for one key are the same. -/
theorem Reserved.same_writer (reserved : Reserved config) {first second : TxnId} {key : K}
    {range : SetRange K} (answered : config.state.ownOverlay first key ≠ none)
    (covers : range.Covers key) (holds : config.semaphore.HoldsWrite second range) :
    first = second := by
  rcases reserved.covered first key answered with ⟨held, heldCovers, heldHolds⟩
  exact reserved.exclusive _ _ _ _ heldHolds holds (SetRange.overlaps_of_covers heldCovers covers)

end Guards

end Persistence
end TransactionalCollection
