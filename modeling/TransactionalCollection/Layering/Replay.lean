import Mathlib.Data.List.Induction
import Mathlib.Data.List.Nodup
import TransactionalCollection.Layering.Overlay

namespace TransactionalCollection
namespace Layering

/-!
# Replaying writes

A write binds one key or unbinds it.  Replaying a log applies its writes in
order, and the last write to a key decides the key.  A log therefore acts as
an overlay, its effect, and two logs with one effect can replace each other
under any view.
-/

variable {K V : Type}

/-- A write to one key. -/
inductive CellWrite (K V : Type) where
  | put (key : K) (value : V)
  | remove (key : K)
  deriving DecidableEq, Repr

namespace CellWrite

def key : CellWrite K V -> K
  | .put key _ => key
  | .remove key => key

/-- What the key is bound to afterwards. -/
def outcome : CellWrite K V -> Option V
  | .put _ value => some value
  | .remove _ => none

def apply [DecidableEq K] (write : CellWrite K V) (view : View K V) : View K V :=
  fun key => if write.key = key then write.outcome else view key

end CellWrite

variable [DecidableEq K]

/-- Apply the writes of a log, the earliest first. -/
def replay (log : List (CellWrite K V)) (view : View K V) : View K V :=
  log.foldl (fun view write => write.apply view) view

@[simp] theorem replay_nil (view : View K V) : replay [] view = view := rfl

theorem replay_append (first second : List (CellWrite K V)) (view : View K V) :
    replay (first ++ second) view = replay second (replay first view) :=
  List.foldl_append

/-- The answers a log gives, whatever lies below it. -/
def effect (log : List (CellWrite K V)) : Overlay K V :=
  fun key => log.foldl (fun answer write => if write.key = key then some write.outcome else answer) none

@[simp] theorem effect_nil : effect ([] : List (CellWrite K V)) = Overlay.transparent := rfl

/-- One more write decides its own key and no other. -/
theorem effect_concat (log : List (CellWrite K V)) (write : CellWrite K V) (key : K) :
    effect (log ++ [write]) key =
      if write.key = key then some write.outcome else effect log key := by
  rw [effect, List.foldl_append]
  rfl

/-- Replaying a log is reading its effect. -/
theorem effect_read (log : List (CellWrite K V)) (view : View K V) :
    (effect log).read view = replay log view := by
  induction log using List.reverseRecOn with
  | nil => rfl
  | append_singleton log write inductionHypothesis =>
      funext key
      rw [replay_append, ← inductionHypothesis, Overlay.read, effect_concat]
      change _ = if write.key = key then write.outcome else (effect log key).getD (view key)
      split <;> rfl

/-- A log answers the keys it writes. -/
theorem effect_eq_none_iff (log : List (CellWrite K V)) (key : K) :
    effect log key = none <-> forall write, write ∈ log -> write.key ≠ key := by
  induction log using List.reverseRecOn with
  | nil => simp [Overlay.transparent]
  | append_singleton log write inductionHypothesis =>
      rw [effect_concat]
      by_cases here : write.key = key
      · simp [here]
      · simp [here, inductionHypothesis, or_imp, forall_and]

/-- The last log to write a key decides it. -/
theorem effect_append (first second : List (CellWrite K V)) (key : K) :
    effect (first ++ second) key = (effect second key).or (effect first key) := by
  induction second using List.reverseRecOn with
  | nil => simp [Overlay.transparent]
  | append_singleton second write inductionHypothesis =>
      rw [← List.append_assoc, effect_concat, effect_concat, inductionHypothesis]
      split <;> simp

/-- Writes to a key which agree on it decide it, in whatever order they come. -/
theorem effect_of_agree {log : List (CellWrite K V)} {key : K} {outcome : Option V}
    (written : exists write, write ∈ log ∧ write.key = key)
    (agree : forall write, write ∈ log -> write.key = key -> write.outcome = outcome) :
    effect log key = some outcome := by
  induction log using List.reverseRecOn with
  | nil =>
      rcases written with ⟨write, member, _⟩
      exact False.elim (List.not_mem_nil member)
  | append_singleton log write inductionHypothesis =>
      rw [effect_concat]
      by_cases here : write.key = key
      · rw [if_pos here, agree write (List.mem_append_right _ List.mem_cons_self) here]
      · rw [if_neg here]
        refine inductionHypothesis ?_ (fun early member =>
          agree early (List.mem_append_left _ member))
        rcases written with ⟨witness, member, there⟩
        rcases List.mem_append.mp member with early | last
        · exact ⟨witness, early, there⟩
        · rw [List.mem_singleton] at last
          exact False.elim (here (last ▸ there))

/-! ## Logs on layers -/

/-- Lay a log on a layer: it decides the keys it writes, the layer the others. -/
def lay (log : List (CellWrite K V)) (layer : Overlay K V) : Overlay K V :=
  fun key => (effect log key).or (layer key)

@[simp] theorem lay_nil (layer : Overlay K V) : lay [] layer = layer := by
  funext key
  rfl

theorem lay_append (first second : List (CellWrite K V)) (layer : Overlay K V) :
    lay (first ++ second) layer = lay second (lay first layer) := by
  funext key
  rw [lay, lay, lay, effect_append, Option.or_assoc]

theorem lay_cons (write : CellWrite K V) (log : List (CellWrite K V)) (layer : Overlay K V) :
    lay (write :: log) layer = lay log (lay [write] layer) :=
  lay_append [write] log layer

theorem lay_singleton (write : CellWrite K V) (layer : Overlay K V) (key : K) :
    lay [write] layer key = if write.key = key then some write.outcome else layer key := by
  rw [lay, ← List.nil_append [write], effect_concat]
  split <;> rfl

/-- A log which writes each of its keys once decides them all. -/
theorem effect_of_written {log : List (CellWrite K V)} {write : CellWrite K V}
    (distinct : (log.map CellWrite.key).Nodup) (written : write ∈ log) :
    effect log write.key = some write.outcome := by
  apply effect_of_agree
  · exact ⟨write, written, rfl⟩
  · intro other member same
    rw [List.inj_on_of_nodup_map distinct member written same]

/-- Replaying a log leaves the keys alone which it does not write. -/
theorem replay_of_unwritten {log : List (CellWrite K V)} {view : View K V} {key : K}
    (unwritten : forall write, write ∈ log -> write.key ≠ key) : replay log view key = view key := by
  rw [← effect_read]
  apply Overlay.read_of_silent
  exact (effect_eq_none_iff log key).mpr unwritten

/-- And decides the others by their one write. -/
theorem replay_of_written {log : List (CellWrite K V)} {view : View K V} {write : CellWrite K V}
    (distinct : (log.map CellWrite.key).Nodup) (written : write ∈ log) :
    replay log view write.key = write.outcome := by
  rw [← effect_read]
  apply Overlay.read_of_answer
  exact effect_of_written distinct written

section Items

variable {I : Type} (keyOf : I -> K) {items : List I} {cell : I -> CellWrite K V}
  (keyed : forall item, item ∈ items -> (cell item).key = keyOf item)

include keyed

/-- A log with a write for each item decides the keys of the items, if these differ. -/
theorem replay_map_of_mem (distinct : (items.map keyOf).Nodup) {item : I} (member : item ∈ items)
    (view : View K V) : replay (items.map cell) view (keyOf item) = (cell item).outcome := by
  have keys : (items.map cell).map CellWrite.key = items.map keyOf := by
    rw [List.map_map]
    exact List.map_congr_left keyed
  rw [← keys] at distinct
  rw [← keyed item member]
  exact replay_of_written distinct (List.mem_map_of_mem member)

theorem replay_map_of_not_mem {key : K} (absent : forall item, item ∈ items -> keyOf item ≠ key)
    (view : View K V) : replay (items.map cell) view key = view key := by
  apply replay_of_unwritten
  intro write listed
  rcases List.mem_map.mp listed with ⟨item, member, rfl⟩
  rw [keyed item member]
  exact absent item member

/-- So it makes any view which agrees with the items on their keys, and elsewhere with
the view below. -/
theorem replay_map_eq (distinct : (items.map keyOf).Nodup) {view goal : View K V}
    (decided : forall item, item ∈ items -> goal (keyOf item) = (cell item).outcome)
    (kept : forall key, (forall item, item ∈ items -> keyOf item ≠ key) -> goal key = view key) :
    replay (items.map cell) view = goal := by
  funext key
  by_cases met : exists item, item ∈ items ∧ keyOf item = key
  · rcases met with ⟨item, member, rfl⟩
    rw [replay_map_of_mem keyOf keyed distinct member, decided item member]
  · have absent : forall item, item ∈ items -> keyOf item ≠ key := by
      intro item member same
      exact met ⟨item, member, same⟩
    rw [replay_map_of_not_mem keyOf keyed absent, kept key absent]

end Items

/-- Reading a log on a layer replays it over what the layer shows. -/
theorem lay_read (log : List (CellWrite K V)) (layer : Overlay K V) (below : View K V) :
    (lay log layer).read below = replay log (layer.read below) := by
  rw [← effect_read]
  funext key
  rw [Overlay.read, Overlay.read, Overlay.read, lay]
  cases effect log key <;> rfl

end Layering
end TransactionalCollection
