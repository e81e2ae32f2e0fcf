import TransactionalCollection.Layering.Ledger

namespace TransactionalCollection
namespace Layering

/-!
# Operations and what they mean

An operation may touch many keys, and what becomes of each depends on its old
value alone.  It may ask something of the keys it touches to be allowed at all.  A log
of operations is performed key by key, the earliest first, and it comes to the same
over all views which agree on the keys it touches.
-/

/-- What operations make of the value of a key, the keys they may touch, and the views
over which they succeed. -/
structure Meaning (Op K V : Type) where
  act : Op -> K -> Option V -> Option V
  Touches : Op -> K -> Prop
  Allows : Op -> View K V -> Prop
  untouched : forall op key value, ¬ Touches op key -> act op key value = value
  allows_congr : forall op first second, (forall key, Touches op key -> first key = second key) ->
    Allows op first -> Allows op second

namespace Meaning

variable {Op K V : Type} (meaning : Meaning Op K V)

/-- Perform the operations of a log, the earliest first. -/
def perform (log : List Op) (view : View K V) : View K V :=
  fun key => log.foldl (fun value op => meaning.act op key value) (view key)

/-- Every operation of a log succeeds after those before it. -/
def Succeeds : List Op -> View K V -> Prop
  | [], _ => True
  | op :: log, view => meaning.Allows op view ∧ Succeeds log (meaning.perform [op] view)

/-- Some operation of a log touches the key. -/
def LogTouches (log : List Op) (key : K) : Prop := exists op, op ∈ log ∧ meaning.Touches op key

/-- Two logs touch a common key. -/
def Conflict (first second : List Op) : Prop :=
  exists key, meaning.LogTouches first key ∧ meaning.LogTouches second key

@[simp] theorem perform_nil (view : View K V) : meaning.perform [] view = view := rfl

theorem perform_append (first second : List Op) (view : View K V) :
    meaning.perform (first ++ second) view = meaning.perform second (meaning.perform first view) := by
  funext key
  exact List.foldl_append

theorem perform_concat (log : List Op) (op : Op) (view : View K V) (key : K) :
    meaning.perform (log ++ [op]) view key = meaning.act op key (meaning.perform log view key) := by
  rw [perform_append]
  rfl

theorem succeeds_append (first second : List Op) (view : View K V) :
    meaning.Succeeds (first ++ second) view <->
      meaning.Succeeds first view ∧ meaning.Succeeds second (meaning.perform first view) := by
  induction first generalizing view with
  | nil => exact (and_iff_right trivial).symm
  | cons op first inductionHypothesis =>
      rw [List.cons_append, Succeeds, Succeeds, inductionHypothesis, and_assoc]
      rfl

variable {meaning}

theorem not_logTouches_nil (key : K) : ¬ meaning.LogTouches [] key := by
  rintro ⟨op, member, _⟩
  cases member

theorem logTouches_concat {log : List Op} {op : Op} {key : K} :
    meaning.LogTouches (log ++ [op]) key <-> meaning.LogTouches log key ∨ meaning.Touches op key := by
  simp [LogTouches, or_and_right, exists_or]

/-- A key which a log does not touch keeps its value. -/
theorem perform_untouched {log : List Op} {key : K} (untouched : ¬ meaning.LogTouches log key)
    (view : View K V) : meaning.perform log view key = view key := by
  induction log using List.reverseRecOn with
  | nil => rfl
  | append_singleton log op inductionHypothesis =>
      rw [logTouches_concat, not_or] at untouched
      rw [perform_concat, meaning.untouched op key _ untouched.2, inductionHypothesis untouched.1]

/-- What a log makes of a key depends on the key alone. -/
theorem perform_congr {log : List Op} {first second : View K V} {key : K} (same : first key = second key) :
    meaning.perform log first key = meaning.perform log second key :=
  congrArg (fun value => log.foldl (fun value op => meaning.act op key value) value) same

/-- Whether a log succeeds depends on the keys it touches. -/
theorem succeeds_congr {log : List Op} {first second : View K V}
    (same : forall key, meaning.LogTouches log key -> first key = second key)
    (succeeds : meaning.Succeeds log first) : meaning.Succeeds log second := by
  induction log using List.reverseRecOn with
  | nil => trivial
  | append_singleton log op inductionHypothesis =>
      rw [succeeds_append] at succeeds ⊢
      refine ⟨inductionHypothesis (fun key touched => same key (logTouches_concat.mpr (Or.inl touched))) succeeds.1,
        ?_, trivial⟩
      apply meaning.allows_congr op _ _ ?_ succeeds.2.1
      intro key touches
      exact perform_congr (same key (logTouches_concat.mpr (Or.inr touches)))

end Meaning

/-! ## Layers which keep up with a log -/

section Keeping

variable {Op K V : Type}

/-- Over a view, a log succeeds, and a layer shows what performing it makes of the view.
The layer is silent on the keys which the log does not touch. -/
structure KeepsUp (meaning : Meaning Op K V) (below : View K V) (layer : Overlay K V) (log : List Op) : Prop where
  succeeds : meaning.Succeeds log below
  shows : layer.read below = meaning.perform log below
  silent : forall key, ¬ meaning.LogTouches log key -> layer key = none

namespace KeepsUp

variable {meaning : Meaning Op K V} {below : View K V} {layer : Overlay K V} {log : List Op}

theorem nil (below : View K V) : KeepsUp meaning below Overlay.transparent [] :=
  ⟨trivial, rfl, fun _ _ => rfl⟩

/-- The view may change below keys which the log does not touch. -/
theorem moved (keepsUp : KeepsUp meaning below layer log) {other : View K V}
    (same : forall key, meaning.LogTouches log key -> other key = below key) : KeepsUp meaning other layer log := by
  refine ⟨Meaning.succeeds_congr (fun key touched => (same key touched).symm) keepsUp.succeeds, ?_, keepsUp.silent⟩
  funext key
  by_cases touched : meaning.LogTouches log key
  · rw [Meaning.perform_congr (same key touched), ← keepsUp.shows, Overlay.read, Overlay.read, same key touched]
  · rw [Meaning.perform_untouched touched, Overlay.read_of_silent (keepsUp.silent key touched)]

/-- One more operation, which has been performed over the same view. -/
theorem concat (keepsUp : KeepsUp meaning below layer log) {op : Op} {next : Overlay K V}
    (allowed : meaning.Allows op (layer.read below))
    (performed : forall key, next.read below key = meaning.act op key (layer.read below key))
    (outside : forall key, ¬ meaning.Touches op key -> next key = layer key) :
    KeepsUp meaning below next (log ++ [op]) := by
  constructor
  · rw [keepsUp.shows] at allowed
    exact (Meaning.succeeds_append ..).mpr ⟨keepsUp.succeeds, allowed, trivial⟩
  · funext key
    rw [performed key, keepsUp.shows, Meaning.perform_concat]
  · intro key untouched
    rw [Meaning.logTouches_concat, not_or] at untouched
    rw [outside key untouched.2, keepsUp.silent key untouched.1]

end KeepsUp

end Keeping

/-! ## Ledgers -/

namespace Ledger

variable {Op K V : Type} (meaning : Meaning Op K V)

@[simp] theorem empty_openLog (txn : Nat) : (empty : Ledger Op).openLog txn = [] := by
  rw [openLog, empty, Std.ExtTreeMap.getElem?_empty]
  rfl

@[simp] theorem empty_decidedLog (txn : Nat) : (empty : Ledger Op).decidedLog txn = [] := by
  rw [decidedLog, empty, Std.ExtTreeMap.getElem?_empty]
  rfl

/-- The view which a transaction is entitled to, its operations and those before it
performed one after another. -/
def performed (ledger : Ledger Op) (initial : View K V) (txn : Nat) : View K V :=
  meaning.perform (ledger.history txn) initial

/-- The same for the committed operations before an instant. -/
def performedBefore (ledger : Ledger Op) (initial : View K V) (instant : Nat) : View K V :=
  meaning.perform (ledger.logBefore instant) initial

theorem performedBefore_succ (ledger : Ledger Op) (initial : View K V) (instant : Nat) :
    ledger.performedBefore meaning initial (instant + 1) =
      meaning.perform (ledger.decidedLog instant) (ledger.performedBefore meaning initial instant) := by
  rw [performedBefore, logBefore_succ, Meaning.perform_append, performedBefore]

theorem performed_eq (ledger : Ledger Op) (initial : View K V) (txn : Nat) :
    ledger.performed meaning initial txn =
      meaning.perform (ledger.openLog txn) (ledger.performedBefore meaning initial (txn + 1)) := by
  rw [performed, history_eq, Meaning.perform_append, performedBefore]

end Ledger

end Layering
end TransactionalCollection
