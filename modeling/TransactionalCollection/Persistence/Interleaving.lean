import TransactionalCollection.Layering.Replay
import TransactionalCollection.Persistence.Visibility

namespace TransactionalCollection
namespace Persistence

open Std (ExtTreeMap)
open Layering Native Execution

/-!
# Calls in flight

The state lock is never held across an await.  Creating a pending delta and
restoring a collection look at the state twice, and a finalization reads it
first and prunes it last, with storage work in between.  Here every call is a
sequence of such phases, and the phases of all calls interleave freely, except
that the caller serializes commits, rollbacks and finalizations.

The state holds handles of deltas.  What a handle stands for is in storage, so
two calls with one handle write to one delta.
-/

/-- A delta lives in a directory of its own, in its transaction's workspace. -/
structure Handle where
  txn : TxnId
  directory : Nat
  deriving DecidableEq, Repr

/-- What is called, for one transaction or through one cutoff. -/
inductive Request (Op : Type) where
  | write (op : Op)
  | restore
  | commit
  | rollback
  | finalize

/-- How far a call has come: before its first look at the state, past it and
waiting for storage, writing to a delta, or returned. -/
inductive Phase where
  | starting
  | building
  | writing (handle : Handle)
  | returned (ok : Bool)
  deriving DecidableEq, Repr

def Request.isWrite {Op : Type} : Request Op -> Bool
  | .write _ => true
  | .restore | .commit | .rollback | .finalize => false

def Phase.isReturned : Phase -> Bool
  | .returned _ => true
  | .starting | .building | .writing _ => false

/-- A call, whether it has installed a delta of its own, and what its
transaction saw of the key when it wrote. -/
structure Call (Op V : Type) where
  txn : TxnId
  request : Request Op
  phase : Phase
  installed : Bool
  found : Option V

/-- A finalization under way: the call, its cutoff, and the deltas it has left. -/
structure Finalization where
  call : Nat
  cutoff : TxnId
  remaining : List Handle

/-- The mutations of a collection: what is checked of a call before it looks at
the state, the cell it writes if it writes a single one, what a new delta
contains, and what the mutation does to the delta it gets, given what is visible. -/
structure Writers (D Native K V : Type) where
  Op : Type
  Error : Type
  accepts : Op -> Bool
  cell : Op -> Option (CellWrite K V)
  created : D
  write : TxnId -> Op -> State D Native -> EStateM Error D PUnit

/-- Look through the handles of a state. -/
def State.resolve {D Native : Type} (storage : Handle -> D) (state : State Handle Native) :
    State D Native where
  persistent := state.persistent
  committed := state.committed.map (fun _ decision => decision.map storage)
  pending := state.pending.map (fun _ handle => storage handle)
  finalized := state.finalized

@[simp] theorem State.resolve_pending {D Native : Type} (storage : Handle -> D)
    (state : State Handle Native) (txn : TxnId) :
    (state.resolve storage).pending[txn]? = state.pending[txn]?.map storage := by
  simp [State.resolve]

@[simp] theorem State.resolve_committed {D Native : Type} (storage : Handle -> D)
    (state : State Handle Native) (txn : TxnId) :
    (state.resolve storage).committed[txn]? = state.committed[txn]?.map (fun decision => decision.map storage) := by
  simp [State.resolve]

section Machine

variable {D Native K V : Type}

/-- A collection with all calls ever made, in the order in which they started. -/
structure Machine (writers : Writers D Native K V) where
  owner : CollectionOwner Handle Native K
  storage : Handle -> D
  directories : Nat
  calls : List (Call writers.Op V)
  finalizing : Option Finalization

variable {writers : Writers D Native K V}

namespace Machine

def state (machine : Machine writers) : State Handle Native := machine.owner.state

def start (canonical : Native) : Machine writers where
  owner := CollectionOwner.new canonical
  storage _ := writers.created
  directories := 0
  calls := []
  finalizing := none

/-- A call begins. -/
def enter (machine : Machine writers) (txn : TxnId) (request : Request writers.Op) (phase : Phase) :
    Machine writers :=
  { machine with calls := machine.calls ++ [⟨txn, request, phase, false, none⟩] }

/-- A call moves on. -/
def advance (machine : Machine writers) (number : Nat) (call : Call writers.Op V) (phase : Phase) :
    Machine writers :=
  { machine with calls := machine.calls.set number { call with phase := phase } }

def setState (machine : Machine writers) (state : State Handle Native) : Machine writers :=
  { machine with owner := { machine.owner with state := state } }

/-- Write to the directory behind a handle. -/
def store (machine : Machine writers) (handle : Handle) (content : D) : Machine writers :=
  { machine with storage := fun other => if other = handle then content else machine.storage other }

end Machine

/-- One phase of one call, known by its number, or a change of reservations. -/
inductive Turn (writers : Writers D Native K V) where
  | call (txn : TxnId) (request : Request writers.Op)
  | look (number : Nat)
  | fail (number : Nat)
  | install (number : Nat) (built : D)
  | write (number : Nat)
  | materialize (number : Nat)
  | swap (number : Nat)
  | reserve (semaphore : Semaphore K)

end Machine

section Turns

variable {D Native K V : Type} [PersistentDelta D Native] [StoredMap Native K V]
  [LayeredDelta D Native K V] {writers : Writers D Native K V}

namespace Machine

/-- A decision which is called while a finalization is under way waits its
turn.  A commit or a rollback is over at once. -/
def decide (machine : Machine writers) (txn : TxnId) (request : Request writers.Op)
    (decision : EStateM LockError (CollectionOwner Handle Native K) Unit) : Machine writers :=
  match machine.finalizing with
  | some _ => machine
  | none =>
      let outcome := decision machine.owner
      { machine with owner := finalState outcome }.enter txn request (.returned (succeeded outcome))

/-- The read half of a finalization. -/
def beginFinalize (machine : Machine writers) (cutoff : TxnId) : Machine writers :=
  match machine.finalizing with
  | some _ => machine
  | none =>
      match machine.state.finalizeBegin cutoff with
      | none => machine.enter cutoff .finalize (.returned true)
      | some (_, deltas) =>
          { machine with finalizing := some ⟨machine.calls.length, cutoff, deltas⟩ }.enter cutoff
            .finalize .building

def call (machine : Machine writers) (txn : TxnId) : Request writers.Op -> Machine writers
  | .write op =>
      machine.enter txn (.write op) (if writers.accepts op then .starting else .returned false)
  | .restore => machine.enter txn .restore .starting
  | .commit => machine.decide txn .commit (CollectionOwner.commit txn)
  | .rollback => machine.decide txn .rollback (CollectionOwner.rollback txn)
  | .finalize => machine.beginFinalize txn

/-- The first look at the state. -/
def look (machine : Machine writers) (number : Nat) (call : Call writers.Op V) : Machine writers :=
  match call.phase, call.request with
  | .starting, .write _ =>
      match machine.state.pendingCheck call.txn with
      | .error _ => machine.advance number call (.returned false)
      | .ok (some existing) => machine.advance number call (.writing existing)
      | .ok none => machine.advance number call .building
  | .starting, .restore =>
      match machine.state.assertWritable call.txn with
      | .error _ => machine.advance number call (.returned false)
      | .ok () => machine.advance number call .building
  | _, _ => machine

/-- A refused reservation, or storage which fails.  A finalization stops with
what it has materialized. -/
def fail (machine : Machine writers) (number : Nat) (call : Call writers.Op V) : Machine writers :=
  match call.phase with
  | .returned _ => machine
  | .starting | .building | .writing _ =>
      { machine with finalizing := machine.finalizing.filter (fun underway =>
          Decidable.decide (underway.call ≠ number)) }.advance number call (.returned false)

/-- The second look at the state, with a delta in a new directory. -/
def install (machine : Machine writers) (number : Nat) (call : Call writers.Op V) (built : D) :
    Machine writers :=
  match call.phase, call.request with
  | .building, .write _ =>
      let created : Handle := ⟨call.txn, machine.directories⟩
      match machine.state.pendingInstall call.txn created with
      | .error _ => machine.advance number call (.returned false)
      | .ok (delta, state) =>
          { ((machine.setState state).store created writers.created) with
            directories := machine.directories + 1 }.advance number
              { call with installed := Decidable.decide (delta = created) } (.writing delta)
  | .building, .restore =>
      let created : Handle := ⟨call.txn, machine.directories⟩
      match machine.state.assertWritable call.txn with
      | .error _ => machine.advance number call (.returned false)
      | .ok () =>
          { ((machine.setState (machine.state.setPending call.txn created)).store created built) with
            directories := machine.directories + 1 }.advance number
              { call with installed := true } (.returned true)
  | _, _ => machine

/-- The mutation itself, on the delta the call got. -/
def write (machine : Machine writers) (number : Nat) (call : Call writers.Op V) : Machine writers :=
  match call.phase, call.request with
  | .writing handle, .write op =>
      let visible := machine.state.resolve machine.storage
      let outcome := writers.write call.txn op visible (machine.storage handle)
      (machine.store handle (finalState outcome)).advance number
        { call with found := (writers.cell op).bind (fun cell => visible.view call.txn cell.key) }
        (.returned (succeeded outcome))
  | _, _ => machine

/-- A finalization applies its next delta to canonical storage. -/
def materialize (machine : Machine writers) (number : Nat) (call : Call writers.Op V) :
    Machine writers :=
  match machine.finalizing with
  | some ⟨underway, cutoff, delta :: remaining⟩ =>
      if underway = number then
        match applyTo (machine.storage delta) machine.state.persistent with
        | .error _ native =>
            { (machine.setState { machine.state with persistent := native }) with
              finalizing := none }.advance number call (.returned false)
        | .ok _ native =>
            { (machine.setState { machine.state with persistent := native }) with
              finalizing := some ⟨underway, cutoff, remaining⟩ }
      else machine
  | _ => machine

/-- The write half of a finalization. -/
def swap (machine : Machine writers) (number : Nat) (call : Call writers.Op V) : Machine writers :=
  match machine.finalizing with
  | some ⟨underway, cutoff, []⟩ =>
      if underway = number then
        { machine with
          owner := ⟨machine.state.finalizeSwap cutoff, machine.owner.semaphore.finalize cutoff true⟩
          finalizing := none }.advance number call (.returned true)
      else machine
  | _ => machine

/-- The phase of a call which has been made. -/
def onCall (machine : Machine writers) (number : Nat)
    (phase : Call writers.Op V -> Machine writers) : Machine writers :=
  match machine.calls[number]? with
  | some call => phase call
  | none => machine

/-- One turn.  What is out of turn changes nothing. -/
def step (machine : Machine writers) : Turn writers -> Machine writers
  | .call txn request => machine.call txn request
  | .look number => machine.onCall number (machine.look number)
  | .fail number => machine.onCall number (machine.fail number)
  | .install number built => machine.onCall number (fun call => machine.install number call built)
  | .write number => machine.onCall number (machine.write number)
  | .materialize number => machine.onCall number (machine.materialize number)
  | .swap number => machine.onCall number (machine.swap number)
  | .reserve semaphore => { machine with owner := { machine.owner with semaphore := semaphore } }

def run (machine : Machine writers) (turns : List (Turn writers)) : Machine writers :=
  turns.foldl step machine

theorem run_append (machine : Machine writers) (first second : List (Turn writers)) :
    machine.run (first ++ second) = (machine.run first).run second :=
  List.foldl_append

end Machine

end Turns

/-! ## What a turn can do -/

section Components

variable {D Native K V : Type} {writers : Writers D Native K V}

namespace Machine

/-- The directory of the next delta. -/
def fresh (machine : Machine writers) (call : Call writers.Op V) : Handle :=
  ⟨call.txn, machine.directories⟩

@[simp] theorem enter_state (machine : Machine writers) (txn : TxnId) (request : Request writers.Op)
    (phase : Phase) : (machine.enter txn request phase).state = machine.state := rfl
@[simp] theorem enter_storage (machine : Machine writers) (txn : TxnId) (request : Request writers.Op)
    (phase : Phase) : (machine.enter txn request phase).storage = machine.storage := rfl
@[simp] theorem enter_directories (machine : Machine writers) (txn : TxnId)
    (request : Request writers.Op) (phase : Phase) :
    (machine.enter txn request phase).directories = machine.directories := rfl
@[simp] theorem enter_finalizing (machine : Machine writers) (txn : TxnId)
    (request : Request writers.Op) (phase : Phase) :
    (machine.enter txn request phase).finalizing = machine.finalizing := rfl

@[simp] theorem advance_state (machine : Machine writers) (number : Nat) (call : Call writers.Op V)
    (phase : Phase) : (machine.advance number call phase).state = machine.state := rfl
@[simp] theorem advance_storage (machine : Machine writers) (number : Nat) (call : Call writers.Op V)
    (phase : Phase) : (machine.advance number call phase).storage = machine.storage := rfl
@[simp] theorem advance_directories (machine : Machine writers) (number : Nat)
    (call : Call writers.Op V) (phase : Phase) :
    (machine.advance number call phase).directories = machine.directories := rfl
@[simp] theorem advance_finalizing (machine : Machine writers) (number : Nat)
    (call : Call writers.Op V) (phase : Phase) :
    (machine.advance number call phase).finalizing = machine.finalizing := rfl

theorem store_storage (machine : Machine writers) (handle other : Handle) (content : D) :
    (machine.store handle content).storage other =
      if other = handle then content else machine.storage other := rfl

end Machine

/-- Requests which work on a pending delta of their own. -/
def Request.Stages {Op : Type} : Request Op -> Prop
  | .write _ | .restore => True
  | .commit | .rollback | .finalize => False

/-- How a call begins which changes nothing by that: it waits for its first
look, or it has returned. -/
def Opens : Request writers.Op -> Phase -> Prop
  | .write op, phase => (phase = .starting ∧ writers.accepts op = true) ∨ phase = .returned false
  | .restore, phase => phase = .starting
  | .commit, phase | .rollback, phase | .finalize, phase => exists ok, phase = .returned ok

theorem Opens.not_writing {request : Request writers.Op} {phase : Phase} (opens : Opens request phase)
    (handle : Handle) : phase ≠ .writing handle := by
  rintro rfl
  cases request with
  | write op => rcases opens with ⟨impossible, _⟩ | impossible <;> cases impossible
  | restore => cases opens
  | commit | rollback | finalize =>
      rcases opens with ⟨_, impossible⟩
      cases impossible

end Components

section Transitions

variable {D Native K V : Type} [PersistentDelta D Native] [StoredMap Native K V]
  [LayeredDelta D Native K V] {writers : Writers D Native K V}

/-- All turns which change anything, by what they change. -/
inductive Machine.Transition (machine : Machine writers) : Turn writers -> Machine writers -> Prop where
  | idle (turn : Turn writers) : Transition machine turn machine
  | reserved (semaphore : Semaphore K) : Transition machine (.reserve semaphore)
      { machine with owner := { machine.owner with semaphore := semaphore } }
  | entered (txn : TxnId) (request : Request writers.Op) (phase : Phase)
      (opens : Opens request phase) :
      Transition machine (.call txn request) (machine.enter txn request phase)
  | committed (txn : TxnId) (free : machine.finalizing = none)
      (writable : machine.state.assertWritable txn = .ok ()) :
      Transition machine (.call txn .commit)
        ({ machine with
          owner := ⟨machine.state.recordCommit txn, machine.owner.semaphore.finalize txn false⟩ }.enter
            txn .commit (.returned true))
  | rolledBack (txn : TxnId) (free : machine.finalizing = none)
      (writable : machine.state.assertWritable txn = .ok ()) :
      Transition machine (.call txn .rollback)
        ({ machine with
          owner := ⟨machine.state.discardPending txn, machine.owner.semaphore.finalize txn false⟩ }.enter
            txn .rollback (.returned true))
  | begun (cutoff : TxnId) (free : machine.finalizing = none)
      (ahead : machine.state.outdated cutoff = false) :
      Transition machine (.call cutoff .finalize)
        ({ machine with
          finalizing := some ⟨machine.calls.length, cutoff, machine.state.committedThrough cutoff⟩ }.enter
            cutoff .finalize .building)
  | refused (turn : Turn writers) (number : Nat) (call : Call writers.Op V)
      (found : machine.calls[number]? = some call) (stages : call.request.Stages)
      (waits : call.phase = .starting ∨ call.phase = .building) :
      Transition machine turn (machine.advance number call (.returned false))
  | looked (number : Nat) (call : Call writers.Op V) (found : machine.calls[number]? = some call)
      (stages : call.request.Stages) (waits : call.phase = .starting)
      (writable : machine.state.assertWritable call.txn = .ok ()) :
      Transition machine (.look number) (machine.advance number call .building)
  | fetched (number : Nat) (call : Call writers.Op V) (op : writers.Op) (handle : Handle)
      (found : machine.calls[number]? = some call) (request : call.request = .write op)
      (waits : call.phase = .starting) (writable : machine.state.assertWritable call.txn = .ok ())
      (present : machine.state.pending[call.txn]? = some handle) :
      Transition machine (.look number) (machine.advance number call (.writing handle))
  | adopted (number : Nat) (built : D) (call : Call writers.Op V) (op : writers.Op) (handle : Handle)
      (found : machine.calls[number]? = some call) (request : call.request = .write op)
      (waits : call.phase = .building) (writable : machine.state.assertWritable call.txn = .ok ())
      (present : machine.state.pending[call.txn]? = some handle) :
      Transition machine (.install number built)
        ({ machine.store (machine.fresh call) writers.created with
            directories := machine.directories + 1 }.advance number
          { call with installed := Decidable.decide (handle = machine.fresh call) } (.writing handle))
  | installed (number : Nat) (built : D) (call : Call writers.Op V) (op : writers.Op)
      (found : machine.calls[number]? = some call) (request : call.request = .write op)
      (waits : call.phase = .building) (writable : machine.state.assertWritable call.txn = .ok ())
      (absent : machine.state.pending[call.txn]? = none) :
      Transition machine (.install number built)
        ({ (machine.setState (machine.state.setPending call.txn (machine.fresh call))).store
            (machine.fresh call) writers.created with directories := machine.directories + 1 }.advance
          number { call with installed := true } (.writing (machine.fresh call)))
  | restored (number : Nat) (built : D) (call : Call writers.Op V)
      (found : machine.calls[number]? = some call) (request : call.request = .restore)
      (waits : call.phase = .building) (writable : machine.state.assertWritable call.txn = .ok ()) :
      Transition machine (.install number built)
        ({ (machine.setState (machine.state.setPending call.txn (machine.fresh call))).store
            (machine.fresh call) built with directories := machine.directories + 1 }.advance
          number { call with installed := true } (.returned true))
  | wrote (number : Nat) (call : Call writers.Op V) (op : writers.Op) (handle : Handle)
      (found : machine.calls[number]? = some call) (request : call.request = .write op)
      (waits : call.phase = .writing handle) :
      Transition machine (.write number)
        ((machine.store handle (finalState
            (writers.write call.txn op (machine.state.resolve machine.storage) (machine.storage handle)))).advance
          number
          { call with found := (writers.cell op).bind (fun cell =>
              (machine.state.resolve machine.storage).view call.txn cell.key) }
          (.returned (succeeded
            (writers.write call.txn op (machine.state.resolve machine.storage) (machine.storage handle)))))
  | failed (number : Nat) (call : Call writers.Op V) (found : machine.calls[number]? = some call)
      (unfinished : forall ok, call.phase ≠ .returned ok) :
      Transition machine (.fail number)
        ({ machine with finalizing := machine.finalizing.filter (fun underway =>
            Decidable.decide (underway.call ≠ number)) }.advance number call (.returned false))
  | materialized (number : Nat) (cutoff : TxnId) (delta : Handle) (remaining : List Handle)
      (native : Native) (underway : machine.finalizing = some ⟨number, cutoff, delta :: remaining⟩) :
      Transition machine (.materialize number)
        { (machine.setState { machine.state with persistent := native }) with
          finalizing := some ⟨number, cutoff, remaining⟩ }
  | swapped (number : Nat) (call : Call writers.Op V) (cutoff : TxnId)
      (found : machine.calls[number]? = some call)
      (underway : machine.finalizing = some ⟨number, cutoff, []⟩) :
      Transition machine (.swap number)
        ({ machine with
            owner := ⟨machine.state.finalizeSwap cutoff, machine.owner.semaphore.finalize cutoff true⟩
            finalizing := none }.advance number call (.returned true))

namespace Machine

/-- A decision is admitted when none is under way, and acts at most once. -/
theorem decide_transition (machine : Machine writers) {txn : TxnId} {request : Request writers.Op}
    {decision : EStateM LockError (CollectionOwner Handle Native K) Unit}
    {after : CollectionOwner Handle Native K}
    (once : decision machine.owner = .ok () after ∧ machine.state.assertWritable txn = .ok () ∨
      finalState (decision machine.owner) = machine.owner)
    (opens : forall ok, Opens request (.returned ok))
    (acts : machine.finalizing = none -> machine.state.assertWritable txn = .ok () ->
      Transition machine (.call txn request)
        ({ machine with owner := after }.enter txn request (.returned true))) :
    Transition machine (.call txn request) (machine.decide txn request decision) := by
  unfold decide
  split
  · exact .idle _
  · rename_i free
    rcases once with ⟨done, writable⟩ | unchanged
    · rw [done]
      exact acts free writable
    · dsimp only
      rw [unchanged]
      exact .entered txn request _ (opens _)

theorem commit_once (owner : CollectionOwner Handle Native K) (txn : TxnId) :
    CollectionOwner.commit txn owner =
        .ok () ⟨owner.state.recordCommit txn, owner.semaphore.finalize txn false⟩ ∧
        owner.state.assertWritable txn = .ok () ∨
      finalState (CollectionOwner.commit txn owner) = owner := by
  unfold CollectionOwner.commit State.assertWritable
  cases owner.state.outdated txn <;> cases owner.state.committed.contains txn <;>
    simp [finalState]

theorem rollback_once (owner : CollectionOwner Handle Native K) (txn : TxnId) :
    CollectionOwner.rollback txn owner =
        .ok () ⟨owner.state.discardPending txn, owner.semaphore.finalize txn false⟩ ∧
        owner.state.assertWritable txn = .ok () ∨
      finalState (CollectionOwner.rollback txn owner) = owner := by
  unfold CollectionOwner.rollback State.assertWritable
  cases owner.state.outdated txn <;> cases owner.state.committed.contains txn <;>
    simp [finalState]

theorem call_transition (machine : Machine writers) (txn : TxnId) (request : Request writers.Op) :
    Transition machine (.call txn request) (machine.call txn request) := by
  cases request with
  | write op =>
      refine .entered txn (.write op) _ ?_
      cases accepted : writers.accepts op with
      | true => exact Or.inl ⟨rfl, accepted⟩
      | false => exact Or.inr rfl
  | restore => exact .entered txn .restore _ rfl
  | commit =>
      exact machine.decide_transition (commit_once machine.owner txn) (fun ok => ⟨ok, rfl⟩)
        (fun free writable => .committed txn free writable)
  | rollback =>
      exact machine.decide_transition (rollback_once machine.owner txn) (fun ok => ⟨ok, rfl⟩)
        (fun free writable => .rolledBack txn free writable)
  | finalize =>
      change Transition machine _ (machine.beginFinalize txn)
      unfold beginFinalize State.finalizeBegin
      cases free : machine.finalizing with
      | some underway => exact .idle _
      | none =>
          cases ahead : machine.state.outdated txn with
          | true => exact .entered txn .finalize _ ⟨true, rfl⟩
          | false => exact .begun txn free ahead

theorem pendingCheck_eq (state : State Handle Native) (txn : TxnId) :
    (exists error, state.pendingCheck txn = .error error) ∨
      state.assertWritable txn = .ok () ∧ state.pendingCheck txn = .ok state.pending[txn]? := by
  unfold State.pendingCheck
  cases state.assertWritable txn with
  | error error => exact Or.inl ⟨error, rfl⟩
  | ok => exact Or.inr ⟨rfl, rfl⟩

theorem look_transition (machine : Machine writers) {number : Nat} {call : Call writers.Op V}
    (found : machine.calls[number]? = some call) :
    Transition machine (.look number) (machine.look number call) := by
  unfold look
  split
  · rename_i op waits request
    have stages : call.request.Stages := request ▸ trivial
    rcases pendingCheck_eq machine.state call.txn with ⟨error, refused⟩ | ⟨writable, checked⟩
    · rw [refused]
      exact .refused _ number call found stages (Or.inl waits)
    · rw [checked]
      cases present : machine.state.pending[call.txn]? with
      | some handle => exact .fetched number call op handle found request waits writable present
      | none => exact .looked number call found stages waits writable
  · rename_i waits request
    have stages : call.request.Stages := request ▸ trivial
    cases writable : machine.state.assertWritable call.txn with
    | error error => exact .refused _ number call found stages (Or.inl waits)
    | ok => exact .looked number call found stages waits writable
  · exact .idle _

theorem install_transition (machine : Machine writers) {number : Nat} {call : Call writers.Op V}
    (found : machine.calls[number]? = some call) (built : D) :
    Transition machine (.install number built) (machine.install number call built) := by
  unfold install
  split
  · rename_i op waits request
    have stages : call.request.Stages := request ▸ trivial
    cases writable : machine.state.assertWritable call.txn with
    | error error =>
        simp only [State.pendingInstall, writable]
        exact .refused _ number call found stages (Or.inr waits)
    | ok =>
        cases present : machine.state.pending[call.txn]? with
        | some handle =>
            simp only [State.pendingInstall, writable, present]
            exact .adopted number built call op handle found request waits writable present
        | none =>
            simp only [State.pendingInstall, writable, present, decide_true]
            exact .installed number built call op found request waits writable present
  · rename_i waits request
    have stages : call.request.Stages := request ▸ trivial
    cases writable : machine.state.assertWritable call.txn with
    | error error => exact .refused _ number call found stages (Or.inr waits)
    | ok => exact .restored number built call found request waits writable
  · exact .idle _

theorem fail_transition (machine : Machine writers) {number : Nat} {call : Call writers.Op V}
    (found : machine.calls[number]? = some call) :
    Transition machine (.fail number) (machine.fail number call) := by
  unfold fail
  cases waits : call.phase with
  | returned ok => exact .idle _
  | starting | building | writing handle =>
      exact .failed number call found (fun ok returned => by rw [waits] at returned; cases returned)

theorem write_transition (machine : Machine writers) {number : Nat} {call : Call writers.Op V}
    (found : machine.calls[number]? = some call) :
    Transition machine (.write number) (machine.write number call) := by
  unfold write
  split
  · rename_i handle op waits request
    exact .wrote number call op handle found request waits
  · exact .idle _

/-- Stored deltas apply without error, so only storage itself stops a
finalization. -/
theorem materialize_transition (machine : Machine writers) {number : Nat} {call : Call writers.Op V}
    (found : machine.calls[number]? = some call) :
    Transition machine (.materialize number) (machine.materialize number call) := by
  unfold materialize
  split
  · rename_i underway cutoff delta remaining progress
    split
    · rename_i own
      subst own
      rw [PersistentDelta.applyTo_eq]
      exact .materialized underway cutoff delta remaining _ progress
    · exact .idle _
  · exact .idle _

theorem swap_transition (machine : Machine writers) {number : Nat} {call : Call writers.Op V}
    (found : machine.calls[number]? = some call) :
    Transition machine (.swap number) (machine.swap number call) := by
  unfold swap
  split
  · rename_i underway cutoff progress
    split
    · rename_i own
      subst own
      exact .swapped underway call cutoff found progress
    · exact .idle _
  · exact .idle _

theorem onCall_transition (machine : Machine writers) {turn : Turn writers} (number : Nat)
    {phase : Call writers.Op V -> Machine writers}
    (transition : forall call, machine.calls[number]? = some call ->
      Transition machine turn (phase call)) :
    Transition machine turn (machine.onCall number phase) := by
  unfold onCall
  split
  · exact transition _ ‹_›
  · exact .idle _

theorem step_transition (machine : Machine writers) (turn : Turn writers) :
    Transition machine turn (machine.step turn) := by
  cases turn with
  | call txn request => exact machine.call_transition txn request
  | look number => exact machine.onCall_transition number (fun _ => machine.look_transition)
  | fail number => exact machine.onCall_transition number (fun _ => machine.fail_transition)
  | install number built =>
      exact machine.onCall_transition number (fun _ found => machine.install_transition found built)
  | write number => exact machine.onCall_transition number (fun _ => machine.write_transition)
  | materialize number =>
      exact machine.onCall_transition number (fun _ => machine.materialize_transition)
  | swap number => exact machine.onCall_transition number (fun _ => machine.swap_transition)
  | reserve semaphore => exact .reserved semaphore

end Machine

end Transitions

end Persistence
end TransactionalCollection
