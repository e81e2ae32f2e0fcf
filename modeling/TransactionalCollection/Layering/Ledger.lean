import TransactionalCollection.Layering.Replay
import TransactionalCollection.Layering.Timeline

namespace TransactionalCollection
namespace Layering

open Std (ExtTreeMap)

/-!
# Ledgers

A ledger keeps, for each transaction, the operations it has issued, in the
order it issued them.  A commit files them under the transaction's instant for
good; a rollback, or a frontier passing an open transaction, forgets them.
The history a transaction is entitled to see is every committed log up to its
own instant, in the order of instants, and then its own open log.

Nothing here says how a store keeps up with its ledger.
-/

structure Ledger (Op : Type) where
  committed : ExtTreeMap Nat (List Op)
  pending : ExtTreeMap Nat (List Op)

namespace Ledger

variable {Op K V : Type}

def empty : Ledger Op := ⟨∅, ∅⟩

/-- What an open transaction has issued so far. -/
def openLog (ledger : Ledger Op) (txn : Nat) : List Op := ledger.pending[txn]?.getD []

/-- What a transaction committed. -/
def decidedLog (ledger : Ledger Op) (txn : Nat) : List Op := ledger.committed[txn]?.getD []

def record (ledger : Ledger Op) (txn : Nat) (op : Op) : Ledger Op :=
  { ledger with pending := ledger.pending.insert txn (ledger.openLog txn ++ [op]) }

def commit (ledger : Ledger Op) (txn : Nat) : Ledger Op where
  committed := ledger.committed.insert txn (ledger.openLog txn)
  pending := ledger.pending.erase txn

def rollback (ledger : Ledger Op) (txn : Nat) : Ledger Op :=
  { ledger with pending := ledger.pending.erase txn }

/-- A frontier forgets the open transactions it passes. -/
def discardThrough (ledger : Ledger Op) (frontier : Nat) : Ledger Op :=
  { ledger with pending := ahead ledger.pending frontier }

/-- The committed operations strictly before an instant. -/
def logBefore (ledger : Ledger Op) (instant : Nat) : List Op :=
  (earlier ledger.committed instant).flatten

/-- Everything a transaction is entitled to see, its own open operations last. -/
def history (ledger : Ledger Op) (txn : Nat) : List Op :=
  (through ledger.committed txn).flatten ++ ledger.openLog txn

theorem history_eq (ledger : Ledger Op) (txn : Nat) :
    ledger.history txn = ledger.logBefore (txn + 1) ++ ledger.openLog txn := by
  rw [history, through_eq_earlier, logBefore]

@[simp] theorem logBefore_zero (ledger : Ledger Op) : ledger.logBefore 0 = [] := by
  simp [logBefore]

theorem logBefore_succ (ledger : Ledger Op) (instant : Nat) :
    ledger.logBefore (instant + 1) = ledger.logBefore instant ++ ledger.decidedLog instant := by
  rw [logBefore, earlier_succ, List.flatten_append, logBefore, decidedLog]
  cases ledger.committed[instant]? <;> simp

theorem record_openLog (ledger : Ledger Op) (txn other : Nat) (op : Op) :
    (ledger.record txn op).openLog other =
      if txn = other then ledger.openLog txn ++ [op] else ledger.openLog other := by
  rw [openLog, record, ExtTreeMap.getElem?_insert]
  by_cases same : txn = other
  · simp [same]
  · simp [same, openLog]

/-- What is recorded is seen by its transaction alone. -/
theorem record_history (ledger : Ledger Op) (txn other : Nat) (op : Op) :
    (ledger.record txn op).history other =
      if txn = other then ledger.history txn ++ [op] else ledger.history other := by
  rw [history, record_openLog]
  by_cases same : txn = other
  · subst same
    rw [if_pos rfl, if_pos rfl, history, List.append_assoc]
    rfl
  · rw [if_neg same, if_neg same]
    rfl

theorem commit_openLog (ledger : Ledger Op) (txn other : Nat) :
    (ledger.commit txn).openLog other = if txn = other then [] else ledger.openLog other := by
  rw [openLog, commit, ExtTreeMap.getElem?_erase]
  by_cases same : txn = other
  · simp [same]
  · simp [same, openLog]

theorem commit_decidedLog (ledger : Ledger Op) (txn other : Nat) :
    (ledger.commit txn).decidedLog other =
      if txn = other then ledger.openLog txn else ledger.decidedLog other := by
  rw [decidedLog, commit, ExtTreeMap.getElem?_insert]
  by_cases same : txn = other
  · simp [same]
  · simp [same, decidedLog]

/-- A commit changes no log before its own instant. -/
theorem commit_logBefore (ledger : Ledger Op) {txn instant : Nat} (early : instant <= txn) :
    (ledger.commit txn).logBefore instant = ledger.logBefore instant := by
  induction instant with
  | zero => simp
  | succ instant inductionHypothesis =>
      rw [logBefore_succ, logBefore_succ, inductionHypothesis (by omega), commit_decidedLog,
        if_neg (by omega)]

theorem rollback_openLog (ledger : Ledger Op) (txn other : Nat) :
    (ledger.rollback txn).openLog other = if txn = other then [] else ledger.openLog other := by
  rw [openLog, rollback, ExtTreeMap.getElem?_erase]
  by_cases same : txn = other
  · simp [same]
  · simp [same, openLog]

theorem discardThrough_openLog (ledger : Ledger Op) (frontier txn : Nat) :
    (ledger.discardThrough frontier).openLog txn =
      if frontier < txn then ledger.openLog txn else [] := by
  rw [openLog, discardThrough, getElem?_ahead]
  split <;> rfl

/-! ## Serial replay -/

variable [DecidableEq K] (cell : Op -> CellWrite K V)

/-- What a transaction would see had everything it is entitled to see been
executed serially over the initial view. -/
def serialView (ledger : Ledger Op) (initial : View K V) (txn : Nat) : View K V :=
  replay ((ledger.history txn).map cell) initial

/-- The same for the committed operations before an instant. -/
def serialBefore (ledger : Ledger Op) (initial : View K V) (instant : Nat) : View K V :=
  replay ((ledger.logBefore instant).map cell) initial

/-- The answers of a log. -/
def answersOf (log : List Op) : Overlay K V := effect (log.map cell)

@[simp] theorem answersOf_nil : answersOf cell [] = Overlay.transparent := rfl

theorem answersOf_concat (log : List Op) (op : Op) (key : K) :
    answersOf cell (log ++ [op]) key =
      if (cell op).key = key then some (cell op).outcome else answersOf cell log key := by
  rw [answersOf, List.map_append]
  exact effect_concat _ _ _

theorem serialBefore_succ (ledger : Ledger Op) (initial : View K V) (instant : Nat) :
    ledger.serialBefore cell initial (instant + 1) =
      (answersOf cell (ledger.decidedLog instant)).read (ledger.serialBefore cell initial instant) := by
  rw [serialBefore, logBefore_succ, List.map_append, replay_append, answersOf, effect_read,
    serialBefore]

theorem serialView_eq (ledger : Ledger Op) (initial : View K V) (txn : Nat) :
    ledger.serialView cell initial txn =
      (answersOf cell (ledger.openLog txn)).read (ledger.serialBefore cell initial (txn + 1)) := by
  rw [serialView, history_eq, List.map_append, replay_append, answersOf, effect_read, serialBefore]

end Ledger

end Layering
end TransactionalCollection
