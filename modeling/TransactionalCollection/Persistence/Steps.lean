import TransactionalCollection.Execution.Scripts
import TransactionalCollection.Persistence.Interleaving

namespace TransactionalCollection
namespace Persistence

open Execution Native

/-!
# Mutations step by step

A mutation works on its delta one native call at a time, and between two of them
the mutations of the same transaction under other permits, and those of all other
transactions, make calls of their own.  Any call may be the last: storage fails, or
whoever waits for the mutation drops it.  A mutation is therefore a script here, and
the calls of all scripts interleave freely as far as their permits let them.

A permit lasts from the start of a mutation to its end, so two mutations of one
transaction are under way together only if their ranges do not overlap.  Decisions
may fall between any two calls, also those of the transaction they are about.
-/

/-- A state of handles, and the storage behind these. -/
structure StoredState (D Native : Type) where
  state : State Handle Native
  storage : Handle -> D

/-- What is visible is looked up through the handles. -/
def StoredState.resolved {D Native : Type} (stored : StoredState D Native) : State D Native :=
  stored.state.resolve stored.storage

section Scripts

variable {D Native K V : Type}

/-- The mutations of a collection as scripts on the delta they get: the permit each
takes, what it checks under its permit before it gets a delta, and its calls, which
make up the mutation if nothing comes between them.  A restoration fills a delta of
its own, given the committed deltas it has found, with what it reads of its source. -/
structure Scripts (writers : Writers D Native K V) where
  permit : writers.Op -> SetRange K
  admits : TxnId -> writers.Op -> State D Native -> Bool
  script : TxnId -> writers.Op -> Script (StoredState D Native) writers.Error D
  alone : forall (txn : TxnId) (op : writers.Op) (view : StoredState D Native),
    (script txn op).run view = writers.write txn op view.resolved
  Source : Type
  compatible : Source -> Bool
  replacement : List Handle -> Source -> Script (StoredState D Native) writers.Error D

variable {writers : Writers D Native K V}

/-- How far a mutation has come under its permit.  It works on the pending delta of
its transaction, or stages a replacement of it. -/
inductive Stage (scripts : Scripts writers) where
  | holding (op : writers.Op)
  | fetching (op : writers.Op)
  | creating (op : writers.Op)
  | opening (source : scripts.Source)
  | writing (handle : Handle) (rest : Script (StoredState D Native) writers.Error D)
  | staging (handle : Handle) (rest : Script (StoredState D Native) writers.Error D)
  | returned

namespace Stage

variable {scripts : Scripts writers}

/-- The permit is held until the mutation returns. -/
def held : Stage scripts -> Bool
  | .returned => false
  | .holding _ | .fetching _ | .creating _ | .opening _ | .writing _ _ | .staging _ _ => true

end Stage

/-- A mutation which has been called. -/
structure Underway (scripts : Scripts writers) where
  txn : TxnId
  range : SetRange K
  stage : Stage scripts

/-- A collection with all mutations ever called, in order. -/
structure Shared (scripts : Scripts writers) extends StoredState D Native where
  directories : Nat
  calls : List (Underway scripts)

/-- What may happen next.  A mutation is known by its number.  Finalizations and
literals write to canonical storage, in steps of any size. -/
inductive Event (scripts : Scripts writers) where
  | write (txn : TxnId) (op : writers.Op)
  | restore (txn : TxnId) (source : scripts.Source)
  | advance (number : Nat)
  | abort (number : Nat)
  | commit (txn : TxnId)
  | rollback (txn : TxnId)
  | materialize (canonical : Native)
  | prune (cutoff : TxnId)

end Scripts

section Steps

variable {D Native K V : Type} [DecidableEq K] {writers : Writers D Native K V} {scripts : Scripts writers}

namespace Shared

def start (canonical : Native) : Shared scripts where
  state := State.new canonical
  storage _ := writers.created
  directories := 0
  calls := []

/-- No permit of the transaction overlaps the range. -/
def isFree (collection : Shared scripts) (txn : TxnId) (range : SetRange K) : Bool :=
  collection.calls.all (fun call =>
    !(call.stage.held && decide (call.txn = txn) && call.range.overlaps range))

/-- A mutation begins, once it gets its permit. -/
def enter (collection : Shared scripts) (txn : TxnId) (range : SetRange K) (stage : Stage scripts) :
    Shared scripts :=
  if collection.isFree txn range then
    { collection with calls := collection.calls ++ [⟨txn, range, stage⟩] }
  else collection

/-- A mutation moves on. -/
def reach (collection : Shared scripts) (number : Nat) (call : Underway scripts) (stage : Stage scripts) :
    Shared scripts :=
  { collection with calls := collection.calls.set number { call with stage := stage } }

def setState (collection : Shared scripts) (state : State Handle Native) : Shared scripts :=
  { collection with state := state }

def store (collection : Shared scripts) (handle : Handle) (content : D) : Shared scripts :=
  { collection with storage := fun other => if other = handle then content else collection.storage other }

/-- The directory of the next delta. -/
def fresh (collection : Shared scripts) (txn : TxnId) : Handle := ⟨txn, collection.directories⟩

/-- A new delta, which nobody has yet. -/
def create (collection : Shared scripts) (txn : TxnId) : Shared scripts :=
  { collection.store (collection.fresh txn) writers.created with directories := collection.directories + 1 }

/-- The next call of a script. -/
def perform (collection : Shared scripts) (number : Nat) (call : Underway scripts) (handle : Handle)
    (rest : Script (StoredState D Native) writers.Error D)
    (stage : Handle -> Script (StoredState D Native) writers.Error D -> Stage scripts) : Shared scripts :=
  let outcome := rest.advance collection.toStoredState (collection.storage handle)
  (collection.store handle outcome.2).reach number call (outcome.1.elim .returned (stage handle))

/-- The next step of a mutation. -/
def advance (collection : Shared scripts) (number : Nat) (call : Underway scripts) : Shared scripts :=
  match call.stage with
  | .holding op =>
      collection.reach number call
        (if scripts.admits call.txn op collection.resolved then .fetching op else .returned)
  | .fetching op =>
      match collection.state.pendingCheck call.txn with
      | .error _ => collection.reach number call .returned
      | .ok (some existing) =>
          collection.reach number call (.writing existing (scripts.script call.txn op))
      | .ok none => collection.reach number call (.creating op)
  | .creating op =>
      match collection.state.pendingInstall call.txn (collection.fresh call.txn) with
      | .error _ => collection.reach number call .returned
      | .ok (delta, state) =>
          ((collection.create call.txn).setState state).reach number call
            (.writing delta (scripts.script call.txn op))
  | .opening source =>
      match collection.state.assertWritable call.txn with
      | .error _ => collection.reach number call .returned
      | .ok () =>
          if scripts.compatible source then
            (collection.create call.txn).reach number call (.staging (collection.fresh call.txn)
              (scripts.replacement (collection.state.committedThrough call.txn) source))
          else collection.reach number call .returned
  | .writing handle rest => collection.perform number call handle rest .writing
  | .staging handle .done =>
      match collection.state.assertWritable call.txn with
      | .error _ => collection.reach number call .returned
      | .ok () =>
          (collection.setState (collection.state.setPending call.txn handle)).reach number call .returned
  | .staging handle rest => collection.perform number call handle rest .staging
  | .returned => collection

/-- A decision counts once, before the transaction has been decided. -/
def decide (collection : Shared scripts) (txn : TxnId) (decided : State Handle Native) :
    Shared scripts :=
  match collection.state.assertWritable txn with
  | .error _ => collection
  | .ok () => collection.setState decided

/-- The step of a mutation which has been called. -/
def onCall (collection : Shared scripts) (number : Nat)
    (step : Underway scripts -> Shared scripts) : Shared scripts :=
  match collection.calls[number]? with
  | some call => step call
  | none => collection

def step (collection : Shared scripts) : Event scripts -> Shared scripts
  | .write txn op =>
      if writers.accepts op then collection.enter txn (scripts.permit op) (.holding op) else collection
  | .restore txn source => collection.enter txn .all (.opening source)
  | .advance number => collection.onCall number (collection.advance number)
  | .abort number => collection.onCall number (fun call => collection.reach number call .returned)
  | .commit txn => collection.decide txn (collection.state.recordCommit txn)
  | .rollback txn => collection.decide txn (collection.state.discardPending txn)
  | .materialize canonical => collection.setState { collection.state with persistent := canonical }
  | .prune cutoff => collection.setState (collection.state.finalizeSwap cutoff)

def run (collection : Shared scripts) (events : List (Event scripts)) : Shared scripts :=
  events.foldl step collection

omit [DecidableEq K] in
/-- A mutation which moves on keeps its number, and so do all others. -/
theorem reach_calls {collection : Shared scripts} {number : Nat} {present : Underway scripts}
    (found : collection.calls[number]? = some present) (call : Underway scripts) (stage : Stage scripts)
    (other : Nat) :
    (collection.reach number call stage).calls[other]? =
      if number = other then some { call with stage := stage } else collection.calls[other]? := by
  rcases List.getElem?_eq_some_iff.mp found with ⟨inside, _⟩
  change (collection.calls.set number _)[other]? = _
  rw [List.getElem?_set, if_pos inside]

omit [DecidableEq K] in
theorem store_storage (collection : Shared scripts) (handle other : Handle) (content : D) :
    (collection.store handle content).storage other =
      if other = handle then content else collection.storage other := rfl

end Shared

end Steps

/-! ## What holds at every step -/

section Tidy

variable {D Native K V C : Type} {writers : Writers D Native K V} {scripts : Scripts writers}

/-- A transaction's own delta, in a directory which exists. -/
def Shared.Holds (collection : Shared scripts) (txn : TxnId) (handle : Handle) : Prop :=
  handle.txn = txn ∧ handle.directory < collection.directories

theorem Shared.fresh_ne {collection : Shared scripts} {holder : TxnId} {handle : Handle}
    (holds : collection.Holds holder handle) (txn : TxnId) : handle ≠ collection.fresh txn := by
  rintro rfl
  exact Nat.lt_irrefl _ holds.2

/-- No two mutations of one transaction are under way on the same keys. -/
def Exclusive [DecidableEq K] (calls : List (Underway scripts)) : Prop :=
  forall (first second : Nat) (left right : Underway scripts),
    calls[first]? = some left -> calls[second]? = some right ->
    first ≠ second -> left.txn = right.txn -> left.stage.held = true -> right.stage.held = true ->
    left.range.overlaps right.range = false

variable (cell : D -> K -> C) (sound : C -> Prop)

/-- A mutation has the permit it needs, and from then on it keeps sound what its
permit covers, whatever happens to the rest of its delta. -/
def Ready (collection : Shared scripts) (txn : TxnId) (range : SetRange K) : Stage scripts -> Prop
  | .holding op | .fetching op | .creating op => range = scripts.permit op
  | .opening _ => range = .all
  | .writing handle rest | .staging handle rest =>
      collection.Holds txn handle ∧ Upholds cell sound range.Covers rest (collection.storage handle)
  | .returned => True

structure Tidy [DecidableEq K] (collection : Shared scripts) : Prop where
  stored : forall handle key, sound (cell (collection.storage handle) key)
  pending : forall (txn : TxnId) (handle : Handle), collection.state.pending[txn]? = some handle ->
    collection.Holds txn handle
  ready : forall (number : Nat) (call : Underway scripts), collection.calls[number]? = some call ->
    Ready cell sound collection call.txn call.range call.stage
  exclusive : Exclusive collection.calls

/-- New deltas are sound, and scripts keep them so under their permits. -/
structure Scripts.Preserve (scripts : Scripts writers) : Prop where
  created : forall key, sound (cell writers.created key)
  script : forall (txn : TxnId) (op : writers.Op) (delta : D),
    Upholds cell sound (scripts.permit op).Covers (scripts.script txn op) delta
  replacement : forall (committed : List Handle) (source : scripts.Source),
    Upholds cell sound SetRange.all.Covers (scripts.replacement committed source) writers.created

variable {cell sound}

/-- What happens to other deltas, or elsewhere in its own, does not concern a
mutation. -/
theorem Ready.frame {before after : Shared scripts} {txn : TxnId} {range : SetRange K}
    {stage : Stage scripts} (ready : Ready cell sound before txn range stage)
    (grows : before.directories <= after.directories)
    (agrees : forall handle, stage.held = true -> before.Holds txn handle ->
      AgreesOn cell range.Covers (before.storage handle) (after.storage handle)) :
    Ready cell sound after txn range stage := by
  cases stage with
  | holding op | fetching op | creating op => exact ready
  | opening source => exact ready
  | writing handle rest | staging handle rest =>
      rcases ready with ⟨⟨own, exists_⟩, upholds⟩
      exact ⟨⟨own, Nat.lt_of_lt_of_le exists_ grows⟩, upholds.frame (agrees handle rfl ⟨own, exists_⟩)⟩
  | returned => trivial

variable [DecidableEq K]

namespace Exclusive

/-- A mutation which moves on keeps its permit at most. -/
theorem reach {collection : Shared scripts} {number : Nat} {call : Underway scripts}
    (exclusive : Exclusive collection.calls) (found : collection.calls[number]? = some call)
    {stage : Stage scripts} (held : stage.held = true -> call.stage.held = true) :
    Exclusive (collection.reach number call stage).calls := by
  have before : forall (other : Nat) (now : Underway scripts),
      (collection.reach number call stage).calls[other]? = some now ->
      exists present : Underway scripts, collection.calls[other]? = some present ∧ present.txn = now.txn ∧
        present.range = now.range ∧ (now.stage.held = true -> present.stage.held = true) := by
    intro other now present
    rw [Shared.reach_calls found] at present
    split at present
    · rename_i same
      subst same
      cases present
      exact ⟨call, found, rfl, rfl, held⟩
    · exact ⟨now, present, rfl, rfl, id⟩
  intro first second left right leftNow rightNow different same leftHeld rightHeld
  rcases before first left leftNow with ⟨oldLeft, leftFound, leftTxn, leftRange, leftPermit⟩
  rcases before second right rightNow with ⟨oldRight, rightFound, rightTxn, rightRange, rightPermit⟩
  rw [← leftRange, ← rightRange]
  exact exclusive first second oldLeft oldRight leftFound rightFound different
    (leftTxn.trans (same.trans rightTxn.symm)) (leftPermit leftHeld) (rightPermit rightHeld)

/-- A permit is given out if it overlaps no other of the transaction. -/
theorem enter {collection : Shared scripts} (exclusive : Exclusive collection.calls) {txn : TxnId}
    {range : SetRange K} (free : collection.isFree txn range = true) (stage : Stage scripts) :
    Exclusive (collection.calls ++ [⟨txn, range, stage⟩]) := by
  have apart : forall (number : Nat) (call : Underway scripts),
      collection.calls[number]? = some call -> call.txn = txn ->
      call.stage.held = true -> call.range.overlaps range = false := by
    intro number call found own held
    have clear := List.all_eq_true.mp free call (List.mem_of_getElem? found)
    simpa [held, own] using clear
  have split : forall (number : Nat) (call : Underway scripts),
      (collection.calls ++ [⟨txn, range, stage⟩])[number]? = some call ->
      collection.calls[number]? = some call ∨ number = collection.calls.length ∧ call = ⟨txn, range, stage⟩ := by
    intro number call found
    rw [List.getElem?_append] at found
    split at found
    · exact Or.inl found
    · rename_i beyond
      rcases List.getElem?_eq_some_iff.mp found with ⟨inside, rfl⟩
      refine Or.inr ⟨?_, by simp⟩
      rw [List.length_singleton] at inside
      omega
  intro first second left right leftFound rightFound different same leftHeld rightHeld
  rcases split first left leftFound with leftOld | ⟨leftLast, rfl⟩
  · rcases split second right rightFound with rightOld | ⟨_, rfl⟩
    · exact exclusive first second left right leftOld rightOld different same leftHeld rightHeld
    · exact apart first left leftOld same leftHeld
  · rcases split second right rightFound with rightOld | ⟨rightLast, rfl⟩
    · rw [SetRange.overlaps_comm]
      exact apart second right rightOld same.symm rightHeld
    · exact absurd (leftLast.trans rightLast.symm) different

end Exclusive

namespace Tidy

variable {collection : Shared scripts}

theorem start (preserve : scripts.Preserve cell sound) (canonical : Native) :
    Tidy cell sound (Shared.start canonical : Shared scripts) where
  stored _ := preserve.created
  pending := by
    intro txn handle present
    rw [show (Shared.start canonical : Shared scripts).state.pending[txn]? = none from
      Std.ExtTreeMap.getElem?_empty] at present
    cases present
  ready := by
    intro number call found
    cases found
  exclusive := by
    intro first second left right found
    cases found

theorem enter (tidy : Tidy cell sound collection) {txn : TxnId} {range : SetRange K} {stage : Stage scripts}
    (ready : Ready cell sound collection txn range stage) :
    Tidy cell sound (collection.enter txn range stage) := by
  unfold Shared.enter
  split
  · rename_i free
    refine ⟨tidy.stored, tidy.pending, ?_, tidy.exclusive.enter free stage⟩
    intro number call found
    rcases List.mem_append.mp (List.mem_of_getElem? found) with old | new
    · rcases List.mem_iff_getElem?.mp old with ⟨earlier, present⟩
      exact tidy.ready earlier call present
    · cases List.mem_singleton.mp new
      exact ready
  · exact tidy

theorem reach (tidy : Tidy cell sound collection) {number : Nat} {call : Underway scripts}
    (found : collection.calls[number]? = some call) {stage : Stage scripts}
    (held : stage.held = true -> call.stage.held = true)
    (ready : Ready cell sound collection call.txn call.range stage) :
    Tidy cell sound (collection.reach number call stage) := by
  refine ⟨tidy.stored, tidy.pending, ?_, tidy.exclusive.reach found held⟩
  intro other now present
  rw [Shared.reach_calls found] at present
  split at present
  · cases present
    exact ready
  · exact tidy.ready other now present

/-- Whatever stops a mutation takes its permit from it. -/
theorem stop (tidy : Tidy cell sound collection) {number : Nat} {call : Underway scripts}
    (found : collection.calls[number]? = some call) :
    Tidy cell sound (collection.reach number call .returned) :=
  tidy.reach found (fun impossible => by cases impossible) trivial

theorem setState (tidy : Tidy cell sound collection) {state : State Handle Native}
    (pending : forall (txn : TxnId) (handle : Handle), state.pending[txn]? = some handle ->
      collection.Holds txn handle) : Tidy cell sound (collection.setState state) :=
  ⟨tidy.stored, pending, tidy.ready, tidy.exclusive⟩

/-- A delta of its own is staged for a transaction. -/
theorem setPending (tidy : Tidy cell sound collection) {txn : TxnId} {handle : Handle}
    (holds : collection.Holds txn handle) :
    Tidy cell sound (collection.setState (collection.state.setPending txn handle)) := by
  apply tidy.setState
  intro other present found
  rw [State.setPending_pending] at found
  split at found
  · rename_i same
    cases found
    exact same ▸ holds
  · exact tidy.pending other present found

/-- Nobody works in a directory which has just been created. -/
theorem create (tidy : Tidy cell sound collection) (created : forall key, sound (cell writers.created key))
    (txn : TxnId) : Tidy cell sound (collection.create txn) := by
  refine ⟨?_, ?_, ?_, tidy.exclusive⟩
  · intro handle key
    change sound (cell ((collection.store (collection.fresh txn) writers.created).storage handle) key)
    rw [Shared.store_storage]
    split
    · exact created key
    · exact tidy.stored handle key
  · intro other handle present
    rcases tidy.pending other handle present with ⟨own, inside⟩
    exact ⟨own, Nat.lt_succ_of_lt inside⟩
  · intro number call found
    refine (tidy.ready number call found).frame (Nat.le_succ _) ?_
    intro handle _ holds key _
    change _ = cell ((collection.store (collection.fresh txn) writers.created).storage handle) key
    rw [Shared.store_storage, if_neg (Shared.fresh_ne holds txn)]

/-- A call of a script reaches no key which another mutation works on. -/
theorem perform (tidy : Tidy cell sound collection) {number : Nat} {call : Underway scripts}
    (found : collection.calls[number]? = some call) (isHeld : call.stage.held = true) {handle : Handle}
    {rest : Script (StoredState D Native) writers.Error D} (holds : collection.Holds call.txn handle)
    (upholds : Upholds cell sound call.range.Covers rest (collection.storage handle))
    {stage : Handle -> Script (StoredState D Native) writers.Error D -> Stage scripts}
    (works : stage = .writing ∨ stage = .staging) :
    Tidy cell sound (collection.perform number call handle rest stage) := by
  rcases upholds.advance (tidy.stored handle) collection.toStoredState with ⟨all, elsewhere, later⟩
  unfold Shared.perform
  generalize rest.advance collection.toStoredState (collection.storage handle) = outcome at all elsewhere later
  have held : (outcome.1.elim .returned (stage handle)).held = true -> call.stage.held = true :=
    fun _ => isHeld
  refine ⟨?_, tidy.pending, ?_, tidy.exclusive.reach found held⟩
  · intro other key
    change sound (cell ((collection.store handle outcome.2).storage other) key)
    rw [Shared.store_storage]
    split
    · exact all key
    · exact tidy.stored other key
  · intro other now present
    have same : (collection.store handle outcome.2).storage handle = outcome.2 := if_pos rfl
    have called : (collection.store handle outcome.2).calls[number]? = some call := found
    rw [Shared.reach_calls called] at present
    split at present
    · cases present
      cases left : outcome.1 with
      | none => trivial
      | some next =>
          have ready := later next left
          rw [← same] at ready
          rcases works with rfl | rfl
          · exact ⟨holds, ready⟩
          · exact ⟨holds, ready⟩
    · rename_i different
      refine (tidy.ready other now present).frame (Nat.le_refl _) ?_
      intro worked nowHeld owns key covered
      change _ = cell ((collection.store handle outcome.2).storage worked) key
      rw [Shared.store_storage]
      split
      · rename_i shared
        subst shared
        apply elsewhere key
        intro own
        have overlapping := SetRange.overlaps_of_covers own covered
        have exclusive := tidy.exclusive number other call now found present different
          (holds.1.symm.trans owns.1) isHeld nowHeld
        exact Bool.false_ne_true (exclusive.symm.trans overlapping)
      · rfl

/-- A mutation gets a delta which is its transaction's, and has not begun to work. -/
theorem begin_ (tidy : Tidy cell sound collection) (preserve : scripts.Preserve cell sound) {number : Nat}
    {call : Underway scripts} (found : collection.calls[number]? = some call) {op : writers.Op}
    (permit : call.range = scripts.permit op) (isHeld : call.stage.held = true) {handle : Handle}
    (holds : collection.Holds call.txn handle) :
    Tidy cell sound (collection.reach number call (.writing handle (scripts.script call.txn op))) := by
  refine tidy.reach found (fun _ => isHeld) ⟨holds, ?_⟩
  rw [permit]
  exact preserve.script call.txn op _

/-- The second look at the state, with a delta in a new directory. -/
theorem install (tidy : Tidy cell sound collection) (preserve : scripts.Preserve cell sound) {number : Nat}
    {call : Underway scripts} (found : collection.calls[number]? = some call) {op : writers.Op}
    (permit : call.range = scripts.permit op) (isHeld : call.stage.held = true) {delta : Handle}
    {state : State Handle Native}
    (installed : collection.state.pendingInstall call.txn (collection.fresh call.txn) = .ok (delta, state)) :
    Tidy cell sound (((collection.create call.txn).setState state).reach number call
      (.writing delta (scripts.script call.txn op))) := by
  have created := tidy.create preserve.created call.txn
  have own : (collection.create call.txn).Holds call.txn (collection.fresh call.txn) :=
    ⟨rfl, Nat.lt_succ_self _⟩
  unfold State.pendingInstall at installed
  split at installed
  · cases installed
  · split at installed
    · rename_i existing present
      cases installed
      have adopted := created.setState created.pending
      exact adopted.begin_ preserve found permit isHeld (created.pending call.txn delta present)
    · cases installed
      exact (created.setPending own).begin_ preserve found permit isHeld own

theorem advance (tidy : Tidy cell sound collection) (preserve : scripts.Preserve cell sound) {number : Nat}
    {call : Underway scripts} (found : collection.calls[number]? = some call) :
    Tidy cell sound (collection.advance number call) := by
  have ready := tidy.ready number call found
  unfold Shared.advance
  split
  · rename_i op stage
    rw [stage] at ready
    split
    · exact tidy.reach found (fun _ => by rw [stage]; rfl) ready
    · exact tidy.stop found
  · rename_i op stage
    rw [stage] at ready
    rcases Machine.pendingCheck_eq collection.state call.txn with ⟨error, refused⟩ | ⟨_, checked⟩
    · rw [refused]
      exact tidy.stop found
    · rw [checked]
      cases present : collection.state.pending[call.txn]? with
      | some existing =>
          exact tidy.begin_ preserve found ready (by rw [stage]; rfl) (tidy.pending call.txn existing present)
      | none => exact tidy.reach found (fun _ => by rw [stage]; rfl) ready
  · rename_i op stage
    rw [stage] at ready
    split
    · exact tidy.stop found
    · exact tidy.install preserve found ready (by rw [stage]; rfl) ‹_›
  · rename_i source stage
    rw [stage] at ready
    split
    · exact tidy.stop found
    · split
      · refine (tidy.create preserve.created call.txn).reach found (fun _ => by rw [stage]; rfl) ?_
        refine ⟨⟨rfl, Nat.lt_succ_self _⟩, ?_⟩
        have content : (collection.create call.txn).storage (collection.fresh call.txn) = writers.created :=
          if_pos rfl
        rw [content, show call.range = .all from ready]
        exact preserve.replacement _ source
      · exact tidy.stop found
  · rename_i handle rest stage
    rw [stage] at ready
    exact tidy.perform found (by rw [stage]; rfl) ready.1 ready.2 (Or.inl rfl)
  · rename_i handle stage
    rw [stage] at ready
    split
    · exact tidy.stop found
    · exact (tidy.setPending ready.1).stop found
  · rename_i handle rest unfinished stage
    rw [stage] at ready
    exact tidy.perform found (by rw [stage]; rfl) ready.1 ready.2 (Or.inr rfl)
  · exact tidy

theorem decide (tidy : Tidy cell sound collection) (txn : TxnId) {decided : State Handle Native}
    (pending : forall (other : TxnId) (handle : Handle), decided.pending[other]? = some handle ->
      collection.state.pending[other]? = some handle) :
    Tidy cell sound (collection.decide txn decided) := by
  unfold Shared.decide
  split
  · exact tidy
  · exact tidy.setState (fun other handle present => tidy.pending other handle (pending other handle present))

theorem onCall (tidy : Tidy cell sound collection) (number : Nat)
    {step : Underway scripts -> Shared scripts}
    (steps : forall call, collection.calls[number]? = some call -> Tidy cell sound (step call)) :
    Tidy cell sound (collection.onCall number step) := by
  unfold Shared.onCall
  split
  · exact steps _ ‹_›
  · exact tidy

theorem step (tidy : Tidy cell sound collection) (preserve : scripts.Preserve cell sound)
    (event : Event scripts) : Tidy cell sound (collection.step event) := by
  cases event with
  | write txn op =>
      change Tidy cell sound (if _ then _ else _)
      split
      · exact tidy.enter rfl
      · exact tidy
  | restore txn source => exact tidy.enter rfl
  | advance number => exact tidy.onCall number (fun _ found => tidy.advance preserve found)
  | abort number => exact tidy.onCall number (fun _ found => tidy.stop found)
  | commit txn =>
      apply tidy.decide
      intro other handle present
      rw [State.recordCommit_pending] at present
      split at present
      · cases present
      · exact present
  | rollback txn =>
      apply tidy.decide
      intro other handle present
      rw [State.discardPending_pending] at present
      split at present
      · cases present
      · exact present
  | materialize canonical => exact tidy.setState tidy.pending
  | prune cutoff =>
      apply tidy.setState
      intro txn handle present
      rw [State.finalizeSwap_pending] at present
      split at present
      · exact tidy.pending txn handle present
      · cases present

theorem run (tidy : Tidy cell sound collection) (preserve : scripts.Preserve cell sound)
    (events : List (Event scripts)) : Tidy cell sound (collection.run events) := by
  induction events generalizing collection with
  | nil => exact tidy
  | cons event events inductionHypothesis => exact inductionHypothesis (tidy.step preserve event)

end Tidy

/-- Every delta which has been committed or is pending is sound. -/
structure State.Every (good : D -> Prop) (state : State D Native) : Prop where
  pending : forall (txn : TxnId) (delta : D), state.pending[txn]? = some delta -> good delta
  committed : forall (txn : TxnId) (delta : D), state.committed[txn]? = some (some delta) -> good delta

theorem State.Every.imp {good better : D -> Prop} {state : State D Native} (every : state.Every good)
    (implies : forall delta, good delta -> better delta) : state.Every better :=
  ⟨fun txn delta present => implies delta (every.pending txn delta present),
    fun txn delta present => implies delta (every.committed txn delta present)⟩

/-- What scripts preserve holds of all deltas at all times. -/
theorem run_every (preserve : scripts.Preserve cell sound) (canonical : Native)
    (events : List (Event scripts)) :
    ((Shared.start canonical).run events).resolved.Every (fun delta => forall key, sound (cell delta key)) := by
  have tidy := (Tidy.start preserve canonical).run preserve events
  constructor
  · intro txn delta present
    rw [StoredState.resolved, State.resolve_pending] at present
    rcases Option.map_eq_some_iff.mp present with ⟨handle, _, rfl⟩
    exact tidy.stored handle
  · intro txn delta present
    rw [StoredState.resolved, State.resolve_committed] at present
    rcases Option.map_eq_some_iff.mp present with ⟨decision, _, content⟩
    rcases Option.map_eq_some_iff.mp content with ⟨handle, _, rfl⟩
    exact tidy.stored handle

end Tidy

/-- Whether a key is among the insertions of a delta, and among its deletions. -/
structure Halves where
  inserted : Bool
  deleted : Bool
  deriving DecidableEq

def Halves.setInserted (inserted : Bool) (halves : Halves) : Halves := { halves with inserted := inserted }

def Halves.setDeleted (deleted : Bool) (halves : Halves) : Halves := { halves with deleted := deleted }

def Halves.Apart (halves : Halves) : Prop := halves.inserted = true -> halves.deleted = false

/-- Nothing has been inserted. -/
def Uninserted {K : Type} (halves : K -> Halves) : Prop := forall key, (halves key).inserted = false

theorem Uninserted.apart {K : Type} {halves : K -> Halves} (blank : Uninserted halves) (key : K) :
    (halves key).Apart :=
  fun inserted => absurd ((blank key).symm.trans inserted) Bool.false_ne_true

end Persistence
end TransactionalCollection
