import TransactionalCollection.Persistence.Repeat

namespace TransactionalCollection
namespace Persistence

open Layering Native Execution

/-!
# What is held

A reservation is held from the step which grants it until its transaction is resolved:
by a decision about the transaction, or by a finalization past it.
-/

section Holding

variable {D Native K V : Type} [DecidableEq K] [PersistentDelta D Native] [StoredMap Native K V]
  [LayeredDelta D Native K V] (driver : Driver D Native K)

/-- A step which decides a transaction, or moves the frontier past it. -/
def resolves (config : Config D Native K) (txn : TxnId) : Action driver -> Bool
  | .commit decided | .rollback decided => decide (decided = txn) && config.undecided decided
  | .finalizeEnd =>
      match config.finalizing with
      | some (cutoff, []) => decide (txn ≤ cutoff)
      | _ => false
  | .mutate _ _ | .traffic _ | .finalizeBegin _ | .finalizeWrite => false

/-- A step in which a reservation is granted. -/
def Grants (config : Config D Native K) (held : Reservation K) (action : Action driver) : Prop :=
  (step driver config action).semaphore = config.semaphore.add held.txn held.range held.access

variable {driver} {config : Config D Native K} {held : Reservation K}

/-! ## One step -/

omit [DecidableEq K] in
theorem Semaphore.ne_add {before after : Semaphore K} (fewer : after.reservations.length ≤ before.reservations.length)
    (txn : TxnId) (range : SetRange K) (access : Access) : after ≠ before.add txn range access := by
  rintro rfl
  exact Nat.not_succ_le_self _ fewer

omit [DecidableEq K] in
theorem Semaphore.mem_add_iff {semaphore : Semaphore K} {txn : TxnId} {range : SetRange K} {access : Access} :
    held ∈ (semaphore.add txn range access).reservations <->
      semaphore.add txn range access = semaphore.add held.txn held.range held.access ∨
        held ∈ semaphore.reservations := by
  rw [Semaphore.add, List.mem_cons]
  apply or_congr_left
  constructor
  · rintro rfl
    rfl
  · intro same
    exact (List.cons.inj (congrArg Semaphore.reservations same)).1.symm

section Reached

variable {action : Action driver} {after : Config D Native K} (reached : step driver config action = after)

include reached

/-- A step of which the semaphore takes no notice. -/
theorem held_of_same (same : after.semaphore = config.semaphore)
    (unresolved : resolves driver config held.txn action = false) :
    held ∈ after.semaphore.reservations <-> Grants driver config held action ∨
      (held ∈ config.semaphore.reservations ∧ resolves driver config held.txn action = false) := by
  have silent : ¬ Grants driver config held action := by
    intro granted
    rw [Grants, reached] at granted
    exact Semaphore.ne_add (Nat.le_of_eq (congrArg (fun semaphore => semaphore.reservations.length) same)) _ _ _ granted
  rw [same, or_iff_right silent, and_iff_left unresolved]

/-- A step which grants a reservation. -/
theorem held_of_added {txn : TxnId} {range : SetRange K} {access : Access}
    (added : after.semaphore = config.semaphore.add txn range access)
    (unresolved : resolves driver config held.txn action = false) :
    held ∈ after.semaphore.reservations <-> Grants driver config held action ∨
      (held ∈ config.semaphore.reservations ∧ resolves driver config held.txn action = false) := by
  rw [Grants, reached, added, Semaphore.mem_add_iff, and_iff_left unresolved]

/-- A step which releases reservations. -/
theorem held_of_released {txn : TxnId} {dropPast : Bool}
    (released : after.semaphore = config.semaphore.finalize txn dropPast)
    (resolved : resolves driver config held.txn action = false <->
      if dropPast then txn < held.txn else held.txn ≠ txn) :
    held ∈ after.semaphore.reservations <-> Grants driver config held action ∨
      (held ∈ config.semaphore.reservations ∧ resolves driver config held.txn action = false) := by
  have silent : ¬ Grants driver config held action := by
    intro granted
    rw [Grants, reached] at granted
    refine Semaphore.ne_add ?_ _ _ _ granted
    rw [released]
    exact List.length_filter_le _ _
  rw [released, or_iff_right silent, resolved]
  exact Semaphore.mem_finalize_iff

end Reached

/-- After a step a reservation is held if the step grants it, or if it was held before and
the step does not resolve its transaction. -/
theorem step_held (reads : ReadsOnly driver) (config : Config D Native K) (action : Action driver) :
    held ∈ (step driver config action).semaphore.reservations <-> Grants driver config held action ∨
      (held ∈ config.semaphore.reservations ∧ resolves driver config held.txn action = false) := by
  have transition := step_transition driver config action
  generalize reached : step driver config action = after at transition
  cases transition with
  | idle _ notMutation notDecision notEnd =>
      apply held_of_same reached rfl
      cases action with
      | mutate txn op => rfl
      | traffic event => rfl
      | commit txn => rw [resolves, notDecision txn (Or.inl rfl), Bool.and_false]
      | rollback txn => rw [resolves, notDecision txn (Or.inr rfl), Bool.and_false]
      | finalizeBegin cutoff => rfl
      | finalizeWrite => rfl
      | finalizeEnd =>
          change (match config.finalizing with
            | some (cutoff, []) => decide (held.txn ≤ cutoff)
            | _ => false) = false
          split
          · rename_i cutoff underway
            exact absurd underway (notEnd rfl cutoff)
          · rfl
  | mutated txn op =>
      rcases driver.admits txn op config.owner with same | ⟨granted, _⟩
      · exact held_of_same reached (congrArg CollectionOwner.semaphore same) rfl
      · exact held_of_added reached (Semaphore.tryWrite_eq_ok_iff.mp granted).2 rfl
  | passed event =>
      rcases reads event config.owner.semaphore with ⟨txn, range, same⟩
      unfold Semaphore.read at same
      split at same
      · exact held_of_added reached same rfl
      · exact held_of_same reached same rfl
  | committed txn undecided =>
      apply held_of_released reached rfl
      rw [resolves, undecided, Bool.and_true, decide_eq_false_iff_not]
      exact ⟨Ne.symm, Ne.symm⟩
  | discarded txn undecided =>
      apply held_of_released reached rfl
      rw [resolves, undecided, Bool.and_true, decide_eq_false_iff_not]
      exact ⟨Ne.symm, Ne.symm⟩
  | began cutoff free fresh =>
      exact held_of_same reached rfl rfl
  | wrote cutoff write remaining underway =>
      exact held_of_same reached rfl rfl
  | swapped cutoff underway =>
      apply held_of_released reached rfl
      rw [resolves, underway, decide_eq_false_iff_not]
      exact Nat.not_le

end Holding

end Persistence
end TransactionalCollection
