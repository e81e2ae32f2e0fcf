import TransactionalCollection.Persistence.Attempts

namespace TransactionalCollection
namespace Persistence

open Layering Native Execution

/-!
# Processes which end

A process may end at any moment, between two native writes of a finalization too.
What is loaded again is canonical storage as the native writes have left it, and the
deltas are gone, the committed ones and the pending ones.

The writes of a finalization are not undone, so that storage as a whole need not be
that of any instant.  But each of its keys is: it holds what was committed before some
instant, which is not before the frontier, and not past the last cutoff tried.
-/

variable {D Native K V : Type} [PersistentDelta D Native] [StoredMap Native K V]
  [LayeredDelta D Native K V]

/-- What is stored is the answer. -/
def Stored (answer : Option (Option V)) (value : Option V) : Prop := answer = some value

/-- The cells which a delta writes, where its halves are apart, are its answers. -/
theorem covers_stored [DecidableEq K] (cellOf : PersistentDelta.Write D -> CellWrite K V)
    (performs : forall (write : PersistentDelta.Write D) (native : Native),
      bindings (PersistentDelta.perform write native) = (cellOf write).apply (bindings native))
    (answers : forall (delta : D) (write : PersistentDelta.Write D), Separate delta ->
      write ∈ PersistentDelta.nativeWrites delta ->
        overlay delta (cellOf write).key = some (cellOf write).outcome) :
    Covers D (Stored : Option (Option V) -> Option V -> Prop) where
  silent _ impossible := by cases impossible
  writes := by
    intro delta native write key apart written
    rw [performs, CellWrite.apply]
    split
    · rename_i here
      right
      rw [← here]
      exact answers delta write apart written
    · exact Or.inl rfl

/-! ## One process -/

/-- The storage which is left keeps, under a key, what was committed before the instant. -/
structure Trial.Keeps (trial : Trial D Native K) (key : K) (instant : TxnId) : Prop where
  finalized : trial.ideal.floor <= instant
  tried : instant <= trial.reach
  stored : bindings trial.config.state.persistent key = trial.ideal.state.viewBefore instant key

/-- The frontier is not past the last cutoff tried. -/
theorem Trial.floor_le_reach {trial : Trial D Native K} (sound : Sound trial.config) :
    trial.ideal.floor <= trial.reach := by
  apply Nat.le_trans _ (Nat.le_max_right _ _)
  cases underway : trial.config.finalizing with
  | none => exact Nat.le_of_eq (Config.floor_congr underway.symm rfl)
  | some progress =>
      rcases progress with ⟨cutoff, remaining⟩
      have fresh : trial.ideal.state.outdated cutoff = false := (sound.underway cutoff remaining underway).2
      have atCutoff : trial.config.floor = cutoff + 1 := by rw [Config.floor, underway]
      rw [atCutoff]
      exact Nat.le_succ_of_le (Config.floor_le_of_fresh rfl fresh)

theorem Trial.Differs.keeps {trial : Trial D Native K} (differs : trial.Differs Stored)
    (sound : Sound trial.config) (key : K) : exists instant, trial.Keeps key instant := by
  rcases differs key with same | ⟨instant, early, answered⟩
  · refine ⟨trial.ideal.floor, Nat.le_refl _, Trial.floor_le_reach sound, ?_⟩
    rw [sound.ideal.viewBefore_floor rfl]
    exact same
  · have decides : trial.ideal.state.decidedOverlay instant key =
        some (bindings trial.config.state.persistent key) := answered
    have later : trial.ideal.floor <= instant := by
      apply sound.ideal.floor_le_of_decides rfl
      rw [decides]
      exact Option.some_ne_none _
    refine ⟨instant + 1, Nat.le_succ_of_le later, early, ?_⟩
    rw [State.viewBefore_succ, Overlay.read_of_answer decides]

/-- After any attempts, storage keeps under each key what was committed before some
instant. -/
theorem Trial.attempts_keep [DecidableEq K] (covers : Covers D (Stored : Option (Option V) -> Option V -> Prop))
    (driver : Driver D Native K) (canonical : Native) (list : List (Attempt driver)) (key : K) :
    exists instant, ((Trial.start canonical).attempts driver list).Keeps key instant := by
  rcases Trial.start_attempts covers canonical list with ⟨sound, differs⟩
  exact differs.keeps sound key

/-! ## One process after another -/

section Processes

variable [DecidableEq K] (driver : Driver D Native K)

/-- Canonical storage after processes of which each loads what the one before has left. -/
def left (canonical : Native) : List (List (Attempt driver)) -> Native
  | [] => canonical
  | list :: later => left ((Trial.start canonical).attempts driver list).config.state.persistent later

/-- Mutations which outlive the processes: in each, those of the transactions committed
before some instant between its frontier and its last cutoff. -/
inductive Outlives : Native -> List (List (Attempt driver)) -> List driver.Op -> Prop where
  | none (canonical : Native) : Outlives canonical [] []
  | process {canonical : Native} {list : List (Attempt driver)} {later : List (List (Attempt driver))}
      {log : List driver.Op} (instant : TxnId)
      (finalized : ((Trial.start canonical).attempts driver list).ideal.floor <= instant)
      (tried : instant <= ((Trial.start canonical).attempts driver list).reach)
      (rest : Outlives ((Trial.start canonical).attempts driver list).config.state.persistent later log) :
      Outlives canonical (list :: later)
        (((Trial.start canonical).chronicle driver Ledger.empty list).logBefore instant ++ log)

variable {driver} {cell : driver.Op -> CellWrite K V}

/-- A log is replayed key by key. -/
theorem replay_congr_key {log : List (CellWrite K V)} {first second : View K V} {key : K}
    (same : first key = second key) : Layering.replay log first key = Layering.replay log second key := by
  rw [← effect_read, ← effect_read]
  exact congrArg (fun below => (effect log key).getD below) same

/-- Each key of what is left is the replay of mutations which outlive the processes. -/
theorem left_replay (faithful : Faithful driver cell False)
    (covers : Covers D (Stored : Option (Option V) -> Option V -> Prop))
    (canonical : Native) (processes : List (List (Attempt driver))) (key : K) :
    exists log, Outlives driver canonical processes log ∧
      bindings (left driver canonical processes) key =
        Layering.replay (log.map cell) (bindings canonical) key := by
  induction processes generalizing canonical with
  | nil => exact ⟨[], .none canonical, rfl⟩
  | cons list later inductionHypothesis =>
      rcases Trial.attempts_keep covers driver canonical list key with ⟨instant, keeps⟩
      rcases inductionHypothesis ((Trial.start canonical).attempts driver list).config.state.persistent with
        ⟨log, outlives, rest⟩
      refine ⟨_, .process instant keeps.finalized keeps.tried outlives, ?_⟩
      have tracks := Trial.start_tracks faithful canonical list
      have stored := keeps.stored
      rw [tracks.viewBefore_eq keeps.finalized] at stored
      rw [left, rest, List.map_append, replay_append]
      exact replay_congr_key stored

end Processes

end Persistence
end TransactionalCollection
