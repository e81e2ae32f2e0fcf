import TransactionalCollection.Persistence.Interleaving

namespace TransactionalCollection
namespace Persistence

open Std (ExtTreeMap)
open Layering Native Execution

/-!
# The lifecycle under interleaving

Whatever the order of the phases of all calls, the state moves in four ways
only: a commit, a rollback, a staged delta, or the swap of a finalization.
Each belongs to one call, which checked the state in the same phase or, for a
finalization, kept other decisions out since it did.  The call has then
returned successfully, unless it is a write, which goes on to its mutation.
-/

section Decisions

variable {D Native : Type}

/-- Two states which differ in canonical storage at most. -/
structure SameDecisions (before after : State D Native) : Prop where
  pending : after.pending = before.pending
  committed : after.committed = before.committed
  finalized : after.finalized = before.finalized

@[refl] theorem SameDecisions.refl (state : State D Native) : SameDecisions state state :=
  ⟨rfl, rfl, rfl⟩

/-- The frontier does not decrease. -/
def FrontierKept (before after : State D Native) : Prop :=
  forall frontier, before.finalized = some frontier ->
    exists later, after.finalized = some later ∧ frontier <= later

theorem FrontierKept.refl (state : State D Native) : FrontierKept state state :=
  fun frontier found => ⟨frontier, found, Nat.le_refl _⟩

theorem FrontierKept.trans {first second third : State D Native} (low : FrontierKept first second)
    (high : FrontierKept second third) : FrontierKept first third := by
  intro frontier found
  rcases low frontier found with ⟨middle, there, early⟩
  rcases high middle there with ⟨last, here, late⟩
  exact ⟨last, here, Nat.le_trans early late⟩

/-- What a call does to the state in the one phase in which it changes it. -/
inductive Decides {Op V : Type} (state : State D Native) (call : Call Op V) : State D Native -> Prop where
  | committed (request : call.request = .commit) (done : call.phase = .returned true)
      (writable : state.assertWritable call.txn = .ok ()) :
      Decides state call (state.recordCommit call.txn)
  | rolledBack (request : call.request = .rollback) (done : call.phase = .returned true) :
      Decides state call (state.discardPending call.txn)
  | staged (delta : D)
      (ready : (exists op, call.request = .write op) ∨
        call.request = .restore ∧ call.phase = .returned true)
      (writable : state.assertWritable call.txn = .ok ()) :
      Decides state call (state.setPending call.txn delta)
  | swapped (request : call.request = .finalize) (done : call.phase = .returned true)
      (ahead : state.outdated call.txn = false) : Decides state call (state.finalizeSwap call.txn)

namespace Decides

variable {Op V : Type} {before after : State D Native} {call : Call Op V}

theorem ordered (decides : Decides before call after) (ordered : before.Ordered) : after.Ordered := by
  cases decides with
  | committed _ _ writable => exact ordered.recordCommit (State.assertWritable_eq_ok_iff.mp writable).1
  | rolledBack => exact ordered.discardPending call.txn
  | staged delta _ writable => exact ordered.setPending writable delta
  | swapped => exact ordered.finalizeSwap call.txn

theorem frontierKept (decides : Decides before call after) : FrontierKept before after := by
  cases decides with
  | committed | rolledBack | staged => exact FrontierKept.refl before
  | swapped _ _ ahead =>
      intro frontier found
      exact ⟨call.txn, rfl, Nat.le_of_lt (State.not_outdated_iff.mp ahead frontier found)⟩

/-- Only a finalization at or past it moves a decision. -/
theorem committed_kept (decides : Decides before call after) {txn : TxnId} {decision : Option D}
    (decided : before.committed[txn]? = some decision) :
    after.committed[txn]? = some decision ∨ call.request = .finalize ∧ txn <= call.txn := by
  cases decides with
  | committed _ _ writable =>
      refine Or.inl ?_
      rw [State.recordCommit_committed, if_neg]
      · exact decided
      · rintro rfl
        rw [(State.assertWritable_eq_ok_iff.mp writable).2] at decided
        cases decided
  | rolledBack | staged => exact Or.inl decided
  | swapped request =>
      rw [State.finalizeSwap_committed]
      by_cases later : call.txn < txn
      · rw [if_pos later]
        exact Or.inl decided
      · exact Or.inr ⟨request, Nat.le_of_not_lt later⟩

/-- A call which changes the state succeeds, or is a write. -/
theorem succeeds (decides : Decides before call after) :
    (exists op, call.request = .write op) ∨ call.phase = .returned true := by
  cases decides with
  | committed _ done | rolledBack _ done | swapped _ done => exact Or.inr done
  | staged _ ready => exact ready.imp id And.right

end Decides

end Decisions

section Calls

variable {D Native K V : Type} {writers : Writers D Native K V}

/-- The call whose turn it is. -/
def Turn.caller (machine : Machine writers) : Turn writers -> Option Nat
  | .call _ _ => some machine.calls.length
  | .look number | .fail number | .install number _ | .write number | .materialize number
  | .swap number => some number
  | .reserve _ => none

variable {Op : Type} {calls : List (Call Op V)}

/-- The call of a finalization under way. -/
def Waiting (calls : List (Call Op V)) (progress : Finalization) : Prop :=
  exists call, calls[progress.call]? = some call ∧ call.phase = .building ∧
    call.request = .finalize ∧ call.txn = progress.cutoff

theorem Waiting.concat {progress : Finalization} (waiting : Waiting calls progress) (call : Call Op V) :
    Waiting (calls ++ [call]) progress := by
  rcases waiting with ⟨present, found, rest⟩
  rcases List.getElem?_eq_some_iff.mp found with ⟨inside, _⟩
  exact ⟨present, by rwa [List.getElem?_append_left inside], rest⟩

theorem Waiting.set {progress : Finalization} (waiting : Waiting calls progress) {number : Nat}
    {present : Call Op V} (found : calls[number]? = some present)
    (apart : number = progress.call -> present.request ≠ .finalize) (call : Call Op V) :
    Waiting (calls.set number call) progress := by
  rcases waiting with ⟨own, foundOwn, building, request, cutoff⟩
  refine ⟨own, ?_, building, request, cutoff⟩
  rw [List.getElem?_set_ne, foundOwn]
  intro same
  rw [same, foundOwn] at found
  exact apart same (Option.some.inj found ▸ request)

/-- The calls before and after a turn: one more, or one of them moved on which
had not returned. -/
inductive CallsMove (calls : List (Call Op V)) : List (Call Op V) -> Prop where
  | same : CallsMove calls calls
  | entered (call : Call Op V) : CallsMove calls (calls ++ [call])
  | moved (number : Nat) (present call : Call Op V) (found : calls[number]? = some present)
      (unfinished : forall ok, present.phase ≠ .returned ok) (txn : call.txn = present.txn)
      (request : call.request = present.request) : CallsMove calls (calls.set number call)

namespace CallsMove

variable {later : List (Call Op V)} {number : Nat} {call : Call Op V}

/-- A call which has returned stays as it is. -/
theorem returned_kept (moves : CallsMove calls later) {ok : Bool} (found : calls[number]? = some call)
    (returned : call.phase = .returned ok) : later[number]? = some call := by
  cases moves with
  | same => exact found
  | entered => rw [List.getElem?_append_left (List.getElem?_eq_some_iff.mp found).1, found]
  | moved other present _ foundOther unfinished =>
      rw [List.getElem?_set_ne, found]
      rintro rfl
      rw [found] at foundOther
      cases foundOther
      exact unfinished ok returned

/-- A call stays the call it is. -/
theorem identity_kept (moves : CallsMove calls later) (found : calls[number]? = some call) :
    exists now, later[number]? = some now ∧ now.txn = call.txn ∧ now.request = call.request := by
  rcases List.getElem?_eq_some_iff.mp found with ⟨inside, _⟩
  cases moves with
  | same => exact ⟨call, found, rfl, rfl⟩
  | entered => exact ⟨call, by rw [List.getElem?_append_left inside, found], rfl, rfl⟩
  | moved other present now foundOther _ txn request =>
      by_cases here : other = number
      · subst here
        rw [found] at foundOther
        cases foundOther
        exact ⟨now, List.getElem?_set_self inside, txn, request⟩
      · exact ⟨call, by rw [List.getElem?_set_ne here, found], rfl, rfl⟩

end CallsMove

theorem Request.stages_ne_finalize {request : Request Op} (stages : request.Stages) :
    request ≠ .finalize := by
  rintro rfl
  exact stages

end Calls

section Invariant

variable {D Native K V : Type} [PersistentDelta D Native] [StoredMap Native K V]
  [LayeredDelta D Native K V] {writers : Writers D Native K V} {machine after : Machine writers}
  {turn : Turn writers}

/-- The state is ordered, and a finalization under way is ahead of it. -/
structure Coherent (machine : Machine writers) : Prop where
  ordered : machine.state.Ordered
  underway : forall progress, machine.finalizing = some progress ->
    machine.state.outdated progress.cutoff = false ∧ Waiting machine.calls progress

omit [PersistentDelta D Native] [StoredMap Native K V] [LayeredDelta D Native K V] in
theorem Coherent.start (canonical : Native) : Coherent (Machine.start canonical : Machine writers) where
  ordered := State.Ordered.new canonical
  underway := by
    intro progress impossible
    cases impossible

namespace Machine.Transition

/-- A turn which changes the decisions of the state does so for one call. -/
theorem decides (transition : Transition machine turn after) (coherent : Coherent machine) :
    SameDecisions machine.state after.state ∨
      exists number call, turn.caller machine = some number ∧ after.calls[number]? = some call ∧
        Decides machine.state call after.state ∧
        (call.request = .finalize -> turn = .swap number ∧ exists before,
          machine.calls[number]? = some before ∧ before.request = .finalize ∧ before.txn = call.txn) := by
  cases transition with
  | idle | reserved | entered | begun | refused | looked | fetched | adopted | wrote | failed =>
      exact Or.inl (SameDecisions.refl _)
  | materialized => exact Or.inl ⟨rfl, rfl, rfl⟩
  | committed txn free writable =>
      exact Or.inr ⟨_, _, rfl, List.getElem?_concat_length, .committed rfl rfl writable,
        fun impossible => by cases impossible⟩
  | rolledBack txn free writable =>
      exact Or.inr ⟨_, _, rfl, List.getElem?_concat_length, .rolledBack rfl rfl,
        fun impossible => by cases impossible⟩
  | installed number built call op found request waits writable absent =>
      rcases List.getElem?_eq_some_iff.mp found with ⟨inside, _⟩
      exact Or.inr ⟨number, _, rfl, List.getElem?_set_self inside,
        .staged (machine.fresh call) (Or.inl ⟨op, request⟩) writable,
        fun impossible => by rw [request] at impossible; cases impossible⟩
  | restored number built call found request waits writable =>
      rcases List.getElem?_eq_some_iff.mp found with ⟨inside, _⟩
      exact Or.inr ⟨number, _, rfl, List.getElem?_set_self inside,
        .staged (machine.fresh call) (Or.inr ⟨request, rfl⟩) writable,
        fun impossible => by rw [request] at impossible; cases impossible⟩
  | swapped number call cutoff found underway =>
      rcases List.getElem?_eq_some_iff.mp found with ⟨inside, _⟩
      rcases coherent.underway _ underway with ⟨ahead, waiting, foundWaiting, building, request, same⟩
      rw [found] at foundWaiting
      cases foundWaiting
      change call.txn = cutoff at same
      subst same
      exact Or.inr ⟨number, _, rfl, List.getElem?_set_self inside, .swapped request rfl ahead,
        fun _ => ⟨rfl, call, found, request, rfl⟩⟩

theorem calls_move (transition : Transition machine turn after) (coherent : Coherent machine) :
    CallsMove machine.calls after.calls := by
  have unfinished : forall {call : Call writers.Op V} {phase : Phase}, call.phase = phase ->
      (forall ok, phase ≠ .returned ok) -> forall ok, call.phase ≠ .returned ok :=
    fun same other ok => same ▸ other ok
  cases transition with
  | idle | reserved | materialized => exact .same
  | entered | committed | rolledBack | begun => exact .entered _
  | refused _ number call found _ waits =>
      refine .moved number call _ found ?_ rfl rfl
      rcases waits with waits | waits <;> exact unfinished waits (by simp)
  | looked number call found _ waits | fetched number call _ _ found _ waits
  | adopted number _ call _ _ found _ waits | installed number _ call _ found _ waits
  | restored number _ call found _ waits | wrote number call _ _ found _ waits =>
      exact .moved number call _ found (unfinished waits (by simp)) rfl rfl
  | failed number call found unreturned => exact .moved number call _ found unreturned rfl rfl
  | swapped number call _ found underway =>
      rcases coherent.underway _ underway with ⟨_, _, waiting, building, _⟩
      rw [found] at waiting
      cases waiting
      exact .moved number call _ found (unfinished building (by simp)) rfl rfl

/-- A finalization under way stays ahead, and only its own turns move its call. -/
theorem underway_kept (transition : Transition machine turn after) (coherent : Coherent machine)
    (progress : Finalization) (underway : after.finalizing = some progress) :
    after.state.outdated progress.cutoff = false ∧ Waiting after.calls progress := by
  have earlier := coherent.underway progress
  have staged : forall {number : Nat} {call : Call writers.Op V}, call.request.Stages ->
      number = progress.call -> call.request ≠ .finalize :=
    fun stages _ => Request.stages_ne_finalize stages
  cases transition with
  | idle | reserved => exact earlier underway
  | entered => exact (earlier underway).imp id (fun waiting => waiting.concat _)
  | committed _ free | rolledBack _ free =>
      rw [show machine.finalizing = some progress from underway] at free
      cases free
  | begun cutoff free ahead =>
      cases underway
      exact ⟨ahead, _, List.getElem?_concat_length, rfl, rfl, rfl⟩
  | refused _ _ _ moves stages =>
      exact (earlier underway).imp id (fun waiting => waiting.set moves (staged stages) _)
  | looked _ _ moves stages =>
      exact (earlier underway).imp id (fun waiting => waiting.set moves (staged stages) _)
  | fetched _ _ _ _ moves request | adopted _ _ _ _ _ moves request
  | installed _ _ _ _ moves request | restored _ _ _ moves request | wrote _ _ _ _ moves request =>
      exact (earlier underway).imp id (fun waiting => waiting.set moves (staged (request ▸ trivial)) _)
  | failed number _ moves =>
      rcases Option.filter_eq_some_iff.mp underway with ⟨before, apart⟩
      refine (earlier before).imp id (fun waiting => waiting.set moves (fun same => ?_) _)
      exact absurd same.symm (of_decide_eq_true apart)
  | materialized number cutoff delta remaining native before =>
      cases underway
      rcases coherent.underway _ before with ⟨ahead, waiting⟩
      exact ⟨ahead, waiting⟩
  | swapped => cases underway

theorem coherent (transition : Transition machine turn after) (coherent : Coherent machine) :
    Coherent after where
  ordered := by
    rcases transition.decides coherent with same | ⟨_, _, _, _, decides, _⟩
    · exact coherent.ordered.congr same.pending same.committed same.finalized
    · exact decides.ordered coherent.ordered
  underway := transition.underway_kept coherent

end Machine.Transition

/-! ## Runs -/

namespace Machine

theorem run_coherent (coherent : Coherent machine) (turns : List (Turn writers)) :
    Coherent (machine.run turns) := by
  induction turns generalizing machine with
  | nil => exact coherent
  | cons turn turns inductionHypothesis =>
      exact inductionHypothesis ((machine.step_transition turn).coherent coherent)

theorem run_returned_kept (coherent : Coherent machine) {number : Nat} {call : Call writers.Op V}
    {ok : Bool} (found : machine.calls[number]? = some call) (returned : call.phase = .returned ok)
    (turns : List (Turn writers)) : (machine.run turns).calls[number]? = some call := by
  induction turns generalizing machine with
  | nil => exact found
  | cons turn turns inductionHypothesis =>
      have transition := machine.step_transition turn
      exact inductionHypothesis (transition.coherent coherent)
        ((transition.calls_move coherent).returned_kept found returned)

theorem run_identity_kept (coherent : Coherent machine) {number : Nat} {call : Call writers.Op V}
    (found : machine.calls[number]? = some call) (turns : List (Turn writers)) :
    exists now, (machine.run turns).calls[number]? = some now ∧ now.txn = call.txn ∧
      now.request = call.request := by
  induction turns generalizing machine call with
  | nil => exact ⟨call, found, rfl, rfl⟩
  | cons turn turns inductionHypothesis =>
      have transition := machine.step_transition turn
      rcases (transition.calls_move coherent).identity_kept found with
        ⟨middle, foundMiddle, txn, request⟩
      rcases inductionHypothesis (transition.coherent coherent) foundMiddle with
        ⟨now, foundNow, txnNow, requestNow⟩
      exact ⟨now, foundNow, txnNow.trans txn, requestNow.trans request⟩

theorem run_frontierKept (coherent : Coherent machine) (turns : List (Turn writers)) :
    FrontierKept machine.state (machine.run turns).state := by
  induction turns generalizing machine with
  | nil => exact FrontierKept.refl _
  | cons turn turns inductionHypothesis =>
      have transition := machine.step_transition turn
      refine FrontierKept.trans ?_ (inductionHypothesis (transition.coherent coherent))
      rcases transition.decides coherent with same | ⟨_, _, _, _, decides, _⟩
      · exact fun frontier found => ⟨frontier, same.finalized ▸ found, Nat.le_refl _⟩
      · exact decides.frontierKept

/-- The swap of a finalization at or past a transaction. -/
def FinalizesPast (machine : Machine writers) (txn : TxnId) (turn : Turn writers) : Prop :=
  exists number call, turn = .swap number ∧ machine.calls[number]? = some call ∧
    call.request = .finalize ∧ txn <= call.txn

theorem run_committed_kept (coherent : Coherent machine) {txn : TxnId} {decision : Option Handle}
    (decided : machine.state.committed[txn]? = some decision) (turns : List (Turn writers)) :
    (machine.run turns).state.committed[txn]? = some decision ∨
      exists early turn late, turns = early ++ turn :: late ∧
        (machine.run early).FinalizesPast txn turn := by
  induction turns generalizing machine with
  | nil => exact Or.inl decided
  | cons turn turns inductionHypothesis =>
      have transition := machine.step_transition turn
      have continue_from : (machine.step turn).state.committed[txn]? = some decision ->
          (machine.run (turn :: turns)).state.committed[txn]? = some decision ∨
            exists early next late, turn :: turns = early ++ next :: late ∧
              (machine.run early).FinalizesPast txn next := by
        intro kept
        rcases inductionHypothesis (transition.coherent coherent) kept with
          last | ⟨early, next, late, rfl, past⟩
        · exact Or.inl last
        · exact Or.inr ⟨turn :: early, next, late, rfl, past⟩
      rcases transition.decides coherent with same | ⟨number, call, _, _, decides, finalizes⟩
      · exact continue_from (same.committed ▸ decided)
      · rcases decides.committed_kept decided with kept | ⟨request, past⟩
        · exact continue_from kept
        · rcases finalizes request with ⟨swap, before, found, requested, same⟩
          exact Or.inr ⟨[], turn, turns, rfl, number, before, swap, found, requested, same ▸ past⟩

/-- What the lifecycle keeps over a run, from whatever has happened before. -/
structure KeepsLifecycle (machine : Machine writers) (turns : List (Turn writers)) : Prop where
  ordered : (machine.run turns).state.Ordered
  frontier : FrontierKept machine.state (machine.run turns).state
  committed : forall (txn : TxnId) (decision : Option Handle),
    machine.state.committed[txn]? = some decision ->
      (machine.run turns).state.committed[txn]? = some decision ∨
        exists early turn late, turns = early ++ turn :: late ∧ (machine.run early).FinalizesPast txn turn
  errors : forall early turn late, turns = early ++ turn :: late ->
    forall number call, turn.caller (machine.run early) = some number ->
      (machine.run turns).calls[number]? = some call -> (forall op, call.request ≠ .write op) ->
      call.phase = .returned false ->
      SameDecisions (machine.run early).state ((machine.run early).step turn).state

/-- Over every run, however the phases of its calls interleave: no transaction
is both open and decided, all are ahead of the frontier, the frontier and the
decisions it has not passed stay, and a decision or restoration which fails
has changed nothing. -/
theorem keeps_lifecycle (canonical : Native) (before turns : List (Turn writers)) :
    KeepsLifecycle ((Machine.start canonical : Machine writers).run before) turns := by
  have started : Coherent (Machine.start canonical : Machine writers) := Coherent.start canonical
  have coherent := run_coherent started before
  generalize (Machine.start canonical : Machine writers).run before = machine at coherent ⊢
  refine ⟨(run_coherent coherent turns).ordered, run_frontierKept coherent turns,
    fun txn decision decided => run_committed_kept coherent decided turns, ?_⟩
  rintro early turn late rfl number call caller found notWrite failed
  have coherentEarly := run_coherent coherent early
  have transition := (machine.run early).step_transition turn
  have coherentAfter := transition.coherent coherentEarly
  rw [run_append] at found
  rcases transition.decides coherentEarly with unchanged | ⟨_, moved, own, foundMoved, decides, _⟩
  · exact unchanged
  · rw [caller] at own
    cases own
    rcases decides.succeeds with ⟨op, write⟩ | done
    · rcases run_identity_kept coherentAfter foundMoved late with ⟨now, foundNow, _, request⟩
      cases foundNow.symm.trans found
      exact absurd (request.trans write) (notWrite op)
    · cases (run_returned_kept coherentAfter foundMoved done late).symm.trans found
      rw [done] at failed
      cases failed

end Machine

end Invariant

end Persistence
end TransactionalCollection
