import Mathlib.Data.List.Nodup
import Mathlib.Data.List.Pairwise
import TransactionalCollection.Persistence.Coherence
import TransactionalCollection.Persistence.Mutation

namespace TransactionalCollection
namespace Persistence

open Std (ExtTreeMap)
open Layering Native Execution

/-!
# First writers of one transaction

Several writers of a transaction may find no pending delta and build one each.
The second look decides: the first to install wins, and the others adopt what
they find.  From then on the transaction has one delta, pending until its commit
and committed afterwards, and every writer which has got a delta has got that
one.  Writers of distinct keys do not disturb each other there, so whatever a
successful writer has recorded stays.
-/

section Delta

variable {D Native : Type}

/-- The delta of a transaction, pending or committed. -/
def State.deltaOf (state : State D Native) (txn : TxnId) : Option D :=
  state.pending[txn]?.or state.committed[txn]?.join

namespace State

variable {state : State D Native} {txn : TxnId}

theorem deltaOf_of_pending {delta : D} (present : state.pending[txn]? = some delta) :
    state.deltaOf txn = some delta := by
  rw [deltaOf, present]
  rfl

theorem deltaOf_of_undecided (undecided : state.committed[txn]? = none) :
    state.deltaOf txn = state.pending[txn]? := by
  rw [deltaOf, undecided]
  simp

theorem setPending_deltaOf (owner : TxnId) (delta : D) :
    (state.setPending owner delta).deltaOf txn =
      if owner = txn then some delta else state.deltaOf txn := by
  rw [deltaOf, setPending_pending, deltaOf, setPending_committed]
  split <;> simp

/-- A commit moves the delta and leaves it the transaction's own. -/
theorem recordCommit_deltaOf {decided : TxnId} (undecided : state.committed[decided]? = none) :
    (state.recordCommit decided).deltaOf txn = state.deltaOf txn := by
  rw [deltaOf, recordCommit_pending, recordCommit_committed]
  by_cases own : decided = txn
  · subst own
    rw [if_pos rfl, if_pos rfl, deltaOf_of_undecided undecided]
    simp
  · rw [if_neg own, if_neg own, deltaOf]

theorem discardPending_deltaOf {discarded : TxnId} (other : discarded ≠ txn) :
    (state.discardPending discarded).deltaOf txn = state.deltaOf txn := by
  rw [deltaOf, discardPending_pending, if_neg other]
  rfl

theorem finalizeSwap_deltaOf {cutoff : TxnId} (later : cutoff < txn) :
    (state.finalizeSwap cutoff).deltaOf txn = state.deltaOf txn := by
  rw [deltaOf, finalizeSwap_pending, finalizeSwap_committed, if_pos later, if_pos later, deltaOf]

end State

end Delta

/-! ## What the caller keeps to -/

section Orderly

variable {D Native K V : Type} {writers : Writers D Native K V}

/-- The cell a call writes. -/
def Writers.cellOf (writers : Writers D Native K V) (call : Call writers.Op V) : Option (CellWrite K V) :=
  match call.request with
  | .write op => writers.cell op
  | .restore | .commit | .rollback | .finalize => none

theorem Writers.cellOf_eq_some {writers : Writers D Native K V} {call : Call writers.Op V}
    {cell : CellWrite K V} (writes : writers.cellOf call = some cell) :
    exists op, call.request = .write op ∧ writers.cell op = some cell := by
  unfold Writers.cellOf at writes
  split at writes
  · exact ⟨_, ‹_›, writes⟩
  all_goals cases writes

/-- The key a call writes for a transaction. -/
def Writers.keyOf (writers : Writers D Native K V) (txn : TxnId) (call : Call writers.Op V) : Option K :=
  if call.txn = txn then (writers.cellOf call).map CellWrite.key else none

/-- A call which has installed a delta for a transaction. -/
def Call.installedFor {Op : Type} (txn : TxnId) (call : Call Op V) : Bool :=
  decide (call.txn = txn) && call.installed

namespace Machine

/-- The keys for which a transaction has called writers. -/
def keysOf (machine : Machine writers) (txn : TxnId) : List K :=
  machine.calls.filterMap (writers.keyOf txn)

/-- How often a delta has been installed for a transaction. -/
def installations (machine : Machine writers) (txn : TxnId) : Nat :=
  machine.calls.countP (Call.installedFor txn)

/-- A transaction writes distinct keys, is not rolled back or restored, commits
after its writers have returned, and no finalization reaches it. -/
def Orderly (txn : TxnId) (machine : Machine writers) : Turn writers -> Prop
  | .call other (.write op) => other = txn ->
      exists cell, writers.cell op = some cell ∧ cell.key ∉ machine.keysOf txn
  | .call other .restore | .call other .rollback => other ≠ txn
  | .call other .commit => other = txn -> forall call, call ∈ machine.calls -> call.txn = txn ->
      call.request.isWrite = true -> call.phase.isReturned = true
  | .call cutoff .finalize => cutoff < txn
  | .look _ | .fail _ | .install _ _ | .write _ | .materialize _ | .swap _ | .reserve _ => True

end Machine

end Orderly

section Steps

variable {D Native K V : Type} [PersistentDelta D Native] [StoredMap Native K V]
  [LayeredDelta D Native K V] {writers : Writers D Native K V} {machine after : Machine writers}
  {turn : Turn writers} {txn : TxnId}

/-- Every turn of a run meets a condition. -/
def Machine.Throughout (condition : Machine writers -> Turn writers -> Prop) :
    Machine writers -> List (Turn writers) -> Prop
  | _, [] => True
  | machine, turn :: turns => condition machine turn ∧ Throughout condition (machine.step turn) turns

/-- What is known of a call, in particular of the delta it writes to. -/
structure Routed (txn : TxnId) (state : State Handle Native) (call : Call writers.Op V) : Prop where
  writing : forall handle, call.phase = .writing handle ->
    handle.txn = call.txn ∧ exists op, call.request = .write op
  accepted : forall op, call.request = .write op -> (forall ok, call.phase ≠ .returned ok) ->
    writers.accepts op = true
  notRestored : call.txn = txn -> call.request ≠ .restore
  single : call.txn = txn -> forall op, call.request = .write op ->
    exists cell, writers.cell op = some cell
  shared : call.txn = txn -> forall handle, call.phase = .writing handle ->
    state.pending[txn]? = some handle

namespace Routed

variable {before later : State Handle Native} {call : Call writers.Op V}

omit [PersistentDelta D Native] [StoredMap Native K V] [LayeredDelta D Native K V] in
theorem frame (routed : Routed txn before call)
    (kept : call.txn = txn -> forall handle, call.phase = .writing handle ->
      later.pending[txn]? = some handle) : Routed txn later call :=
  ⟨routed.writing, routed.accepted, routed.notRestored, routed.single, kept⟩

omit [PersistentDelta D Native] [StoredMap Native K V] [LayeredDelta D Native K V] in
/-- A call which moves on to a delta moves on to that of its transaction. -/
theorem moved (routed : Routed txn before call) {now : Call writers.Op V}
    (sameTxn : now.txn = call.txn) (sameRequest : now.request = call.request)
    (unfinished : forall ok, call.phase ≠ .returned ok)
    (writes : forall handle, now.phase = .writing handle -> handle.txn = call.txn ∧
      (exists op, call.request = .write op) ∧ (call.txn = txn -> later.pending[txn]? = some handle)) :
    Routed txn later now where
  writing handle phase := by
    rcases writes handle phase with ⟨own, request, _⟩
    exact ⟨own.trans sameTxn.symm, sameRequest ▸ request⟩
  accepted op request _ := routed.accepted op (sameRequest ▸ request) unfinished
  notRestored own := sameRequest ▸ routed.notRestored (sameTxn ▸ own)
  single own op request := routed.single (sameTxn ▸ own) op (sameRequest ▸ request)
  shared own handle phase := (writes handle phase).2.2 (sameTxn ▸ own)

end Routed

/-- A transaction has one delta at most, and its writers write to it. -/
structure OneDelta (txn : TxnId) (machine : Machine writers) : Prop where
  coherent : Coherent machine
  ahead : forall progress, machine.finalizing = some progress -> progress.cutoff < txn
  ownHandles : forall (other : TxnId) (handle : Handle),
    machine.state.pending[other]? = some handle -> handle.txn = other
  older : forall handle, machine.state.deltaOf txn = some handle ->
    handle.txn = txn ∧ handle.directory < machine.directories
  routed : forall call, call ∈ machine.calls -> Routed txn machine.state call
  installations : machine.installations txn <= if (machine.state.deltaOf txn).isSome then 1 else 0
  keys : (machine.keysOf txn).Nodup

theorem map_set_of_same {A B : Type} {entries : List A} {number : Nat} {present now : A} {of : A -> B}
    (found : entries[number]? = some present) (same : of now = of present) :
    (entries.set number now).map of = entries.map of := by
  rcases List.getElem?_eq_some_iff.mp found with ⟨inside, rfl⟩
  have insideMap : number < (entries.map of).length := by simpa using inside
  calc (entries.set number now).map of
      _ = (entries.map of).set number (entries.map of)[number] := by
          rw [List.map_set, same, List.getElem_map]
      _ = entries.map of := List.set_getElem_self insideMap

theorem countP_set_le {A : Type} (entries : List A) (number : Nat) (now : A) (test : A -> Bool) :
    (entries.set number now).countP test <= entries.countP test + 1 := by
  by_cases inside : number < entries.length
  · rw [List.countP_set inside]
    split <;> split <;> omega
  · rw [List.set_eq_of_length_le (Nat.le_of_not_lt inside)]
    exact Nat.le_succ _

theorem countP_set_le_of_not {A : Type} (entries : List A) (number : Nat) {now : A} {test : A -> Bool}
    (fails : test now = false) : (entries.set number now).countP test <= entries.countP test := by
  by_cases inside : number < entries.length
  · rw [List.countP_set inside, fails]
    exact Nat.sub_le _ _
  · rw [List.set_eq_of_length_le (Nat.le_of_not_lt inside)]

theorem countP_set_of_same {A : Type} {entries : List A} {number : Nat} {present now : A}
    {test : A -> Bool} (found : entries[number]? = some present) (same : test now = test present) :
    (entries.set number now).countP test = entries.countP test := by
  have counted : forall list : List A, list.countP test = (list.map test).countP id :=
    fun list => by rw [List.countP_map]; rfl
  rw [counted, counted, map_set_of_same found same]

theorem filterMap_set_of_same {A B : Type} {entries : List A} {number : Nat} {present now : A}
    {of : A -> Option B} (found : entries[number]? = some present) (same : of now = of present) :
    (entries.set number now).filterMap of = entries.filterMap of := by
  have mapped : forall list : List A, list.filterMap of = (list.map of).filterMap id :=
    fun list => by rw [List.filterMap_map]; rfl
  rw [mapped, mapped, map_set_of_same found same]

namespace OneDelta

omit [PersistentDelta D Native] [StoredMap Native K V] [LayeredDelta D Native K V] in
theorem start (canonical : Native) : OneDelta txn (Machine.start canonical : Machine writers) where
  coherent := Coherent.start canonical
  ahead := by
    intro progress impossible
    cases impossible
  ownHandles := by
    intro other handle present
    rw [show (Machine.start canonical : Machine writers).state.pending[other]? = none from
      ExtTreeMap.getElem?_empty] at present
    cases present
  older := by
    intro handle present
    rw [State.deltaOf, show (Machine.start canonical : Machine writers).state.pending[txn]? = none from
      ExtTreeMap.getElem?_empty, show (Machine.start canonical : Machine writers).state.committed[txn]? =
      none from ExtTreeMap.getElem?_empty] at present
    cases present
  routed := by
    intro call impossible
    cases impossible
  installations := Nat.zero_le _
  keys := List.nodup_nil

end OneDelta

namespace Machine.Transition

variable (transition : Transition machine turn after) (one : OneDelta txn machine)
  (orderly : machine.Orderly txn turn)

include transition one orderly

/-- A writer on its way keeps the delta it has got. -/
theorem pending_kept {call : Call writers.Op V} (member : call ∈ machine.calls) (own : call.txn = txn)
    {handle : Handle} (writing : call.phase = .writing handle) :
    after.state.pending[txn]? = some handle := by
  have routed := one.routed call member
  have present := routed.shared own handle writing
  cases transition with
  | idle | reserved | entered | begun | refused | looked | fetched | adopted | wrote | failed
  | materialized => exact present
  | committed decided =>
      change (machine.state.recordCommit decided).pending[txn]? = _
      rw [State.recordCommit_pending, if_neg]
      · exact present
      · intro same
        rcases routed.writing handle writing with ⟨_, op, request⟩
        have returned := orderly same call member own (by rw [request]; rfl)
        rw [writing] at returned
        cases returned
  | rolledBack discarded =>
      change (machine.state.discardPending discarded).pending[txn]? = _
      rw [State.discardPending_pending, if_neg orderly]
      exact present
  | installed number built other op found request waits writable absent =>
      change (machine.state.setPending other.txn (machine.fresh other)).pending[txn]? = _
      rw [State.setPending_pending, if_neg]
      · exact present
      · intro same
        rw [same, present] at absent
        cases absent
  | restored number built other found request =>
      change (machine.state.setPending other.txn (machine.fresh other)).pending[txn]? = _
      rw [State.setPending_pending, if_neg]
      · exact present
      · exact fun same => (one.routed other (List.mem_of_getElem? found)).notRestored same request
  | swapped number other cutoff found underway =>
      change (machine.state.finalizeSwap cutoff).pending[txn]? = _
      rw [State.finalizeSwap_pending, if_pos (one.ahead _ underway)]
      exact present

/-- A delta once installed stays the transaction's own. -/
theorem deltaOf_kept {handle : Handle} (held : machine.state.deltaOf txn = some handle) :
    after.state.deltaOf txn = some handle := by
  cases transition with
  | idle | reserved | entered | begun | refused | looked | fetched | adopted | wrote | failed
  | materialized => exact held
  | committed decided free writable =>
      exact (State.recordCommit_deltaOf (State.assertWritable_eq_ok_iff.mp writable).2).trans held
  | rolledBack discarded => exact (State.discardPending_deltaOf orderly).trans held
  | installed number built other op found request waits writable absent =>
      refine (State.setPending_deltaOf other.txn (machine.fresh other)).trans ?_
      rw [if_neg]
      · exact held
      · rintro rfl
        rw [State.deltaOf_of_undecided (State.assertWritable_eq_ok_iff.mp writable).2, absent] at held
        cases held
  | restored number built other found request =>
      refine (State.setPending_deltaOf other.txn (machine.fresh other)).trans ?_
      rw [if_neg]
      · exact held
      · exact fun same => (one.routed other (List.mem_of_getElem? found)).notRestored same request
  | swapped number other cutoff found underway =>
      exact (State.finalizeSwap_deltaOf (one.ahead _ underway)).trans held

theorem routed_kept {call : Call writers.Op V} (member : call ∈ machine.calls) : Routed txn after.state call := by
  apply (one.routed call member).frame
  intro own handle writing
  exact transition.pending_kept one orderly member own writing

theorem routed_append {call : Call writers.Op V} (known : Routed txn after.state call) :
    forall other, other ∈ machine.calls ++ [call] -> Routed txn after.state other := by
  intro other member
  rcases List.mem_append.mp member with old | new
  · exact transition.routed_kept one orderly old
  · cases List.mem_singleton.mp new
    exact known

theorem routed_set {number : Nat} {present now : Call writers.Op V} (found : machine.calls[number]? = some present)
    (unfinished : forall ok, present.phase ≠ .returned ok) (sameTxn : now.txn = present.txn)
    (sameRequest : now.request = present.request)
    (writes : forall handle, now.phase = .writing handle -> handle.txn = present.txn ∧
      (exists op, present.request = .write op) ∧
      (present.txn = txn -> after.state.pending[txn]? = some handle)) :
    forall other, other ∈ machine.calls.set number now -> Routed txn after.state other := by
  intro other member
  rcases List.mem_or_eq_of_mem_set member with old | rfl
  · exact transition.routed_kept one orderly old
  · exact (one.routed present (List.mem_of_getElem? found)).moved sameTxn sameRequest unfinished writes

theorem routed : forall call, call ∈ after.calls -> Routed txn after.state call := by
  have unfinished : forall {call : Call writers.Op V} {phase : Phase}, call.phase = phase ->
      (forall ok, phase ≠ .returned ok) -> forall ok, call.phase ≠ .returned ok :=
    fun same other ok => same ▸ other ok
  have known := transition
  cases transition with
  | idle | reserved | materialized => exact fun _ member => known.routed_kept one orderly member
  | entered other request phase opens =>
      refine known.routed_append one orderly ⟨?_, ?_, ?_, ?_, ?_⟩
      · exact fun handle writing => absurd writing (opens.not_writing handle)
      · rintro op rfl unreturned
        rcases opens with ⟨_, accepted⟩ | returned
        · exact accepted
        · exact absurd returned (unreturned false)
      · rintro own rfl
        exact orderly own
      · rintro own op rfl
        rcases orderly own with ⟨cell, written, _⟩
        exact ⟨cell, written⟩
      · exact fun _ handle writing => absurd writing (opens.not_writing handle)
  | committed | rolledBack | begun => exact known.routed_append one orderly ⟨nofun, nofun, nofun, nofun, nofun⟩
  | refused _ number call found _ waits =>
      refine known.routed_set one orderly found (fun ok returned => ?_) rfl rfl nofun
      rcases waits with waits | waits <;> cases waits.symm.trans returned
  | looked number call found _ waits => exact known.routed_set one orderly found (unfinished waits nofun) rfl rfl nofun
  | fetched number call op handle found request waits writable present =>
      refine known.routed_set one orderly found (unfinished waits nofun) rfl rfl ?_
      rintro _ ⟨⟩
      exact ⟨one.ownHandles _ _ present, ⟨op, request⟩, fun own => own ▸ present⟩
  | adopted number built call op handle found request waits writable present =>
      refine known.routed_set one orderly found (unfinished waits nofun) rfl rfl ?_
      rintro _ ⟨⟩
      exact ⟨one.ownHandles _ _ present, ⟨op, request⟩, fun own => own ▸ present⟩
  | installed number built call op found request waits writable absent =>
      refine known.routed_set one orderly found (unfinished waits nofun) rfl rfl ?_
      rintro _ ⟨⟩
      exact ⟨rfl, ⟨op, request⟩, fun own => own ▸ State.setPending_self _⟩
  | restored number built call found request waits =>
      exact known.routed_set one orderly found (unfinished waits nofun) rfl rfl nofun
  | wrote number call op handle found request waits =>
      exact known.routed_set one orderly found (unfinished waits nofun) rfl rfl nofun
  | failed number call found unreturned => exact known.routed_set one orderly found unreturned rfl rfl nofun
  | swapped number call cutoff found underway =>
      rcases one.coherent.underway _ underway with ⟨_, _, waiting, building, _⟩
      cases found.symm.trans waiting
      exact known.routed_set one orderly found (unfinished building nofun) rfl rfl nofun

theorem ahead (progress : Finalization) (underway : after.finalizing = some progress) :
    progress.cutoff < txn := by
  cases transition with
  | idle | reserved | entered | refused | looked | fetched | adopted | installed | restored | wrote =>
      exact one.ahead progress underway
  | committed _ free | rolledBack _ free => cases free.symm.trans underway
  | begun =>
      cases underway
      exact orderly
  | failed => exact one.ahead progress (Option.filter_eq_some_iff.mp underway).1
  | materialized number cutoff delta remaining native before =>
      cases underway
      have reached := one.ahead _ before
      exact reached
  | swapped => cases underway

omit orderly in
theorem ownHandles (other : TxnId) (handle : Handle)
    (present : after.state.pending[other]? = some handle) :
    handle.txn = other := by
  have known := one.ownHandles other handle
  cases transition with
  | idle | reserved | entered | begun | refused | looked | fetched | adopted | wrote | failed
  | materialized => exact known present
  | committed decided =>
      replace present : (machine.state.recordCommit decided).pending[other]? = _ := present
      rw [State.recordCommit_pending] at present
      split at present
      · cases present
      · exact known present
  | rolledBack discarded =>
      replace present : (machine.state.discardPending discarded).pending[other]? = _ := present
      rw [State.discardPending_pending] at present
      split at present
      · cases present
      · exact known present
  | installed number built call | restored number built call =>
      replace present : (machine.state.setPending call.txn (machine.fresh call)).pending[other]? = _ :=
        present
      rw [State.setPending_pending] at present
      split at present
      · cases present
        assumption
      · exact known present
  | swapped number call cutoff =>
      replace present : (machine.state.finalizeSwap cutoff).pending[other]? = _ := present
      rw [State.finalizeSwap_pending] at present
      split at present
      · exact known present
      · cases present

theorem older (handle : Handle) (held : after.state.deltaOf txn = some handle) :
    handle.txn = txn ∧ handle.directory < after.directories := by
  have known := one.older handle
  cases transition with
  | idle | reserved | entered | begun | refused | looked | fetched | wrote | failed
  | materialized => exact known held
  | adopted => exact (known held).imp id Nat.lt_succ_of_lt
  | committed decided free writable =>
      have absent := (State.assertWritable_eq_ok_iff.mp writable).2
      exact known ((State.recordCommit_deltaOf absent).symm.trans held)
  | rolledBack discarded => exact known ((State.discardPending_deltaOf orderly).symm.trans held)
  | installed number built call | restored number built call =>
      replace held : (machine.state.setPending call.txn (machine.fresh call)).deltaOf txn = _ := held
      rw [State.setPending_deltaOf] at held
      split at held
      · cases held
        exact ⟨‹_›, Nat.lt_succ_self _⟩
      · exact (known held).imp id Nat.lt_succ_of_lt
  | swapped number call cutoff found underway =>
      exact known ((State.finalizeSwap_deltaOf (one.ahead _ underway)).symm.trans held)

theorem installations_le :
    after.installations txn <= if (after.state.deltaOf txn).isSome then 1 else 0 := by
  have grown : (if (machine.state.deltaOf txn).isSome then 1 else 0) <=
      if (after.state.deltaOf txn).isSome then 1 else 0 := by
    cases held : machine.state.deltaOf txn with
    | none => exact Nat.zero_le _
    | some handle => rw [transition.deltaOf_kept one orderly held]
  have unchanged : after.installations txn <= machine.installations txn ->
      after.installations txn <= if (after.state.deltaOf txn).isSome then 1 else 0 :=
    fun few => Nat.le_trans few (Nat.le_trans one.installations grown)
  have same : forall {number : Nat} {present now : Call writers.Op V},
      machine.calls[number]? = some present -> now.installedFor txn = present.installedFor txn ->
      (machine.calls.set number now).countP (Call.installedFor txn) <= machine.installations txn :=
    fun found same => Nat.le_of_eq (countP_set_of_same found same)
  have foreign : forall {call now : Call writers.Op V}, call.txn ≠ txn -> now.txn = call.txn ->
      now.installedFor txn = call.installedFor txn := by
    intro call now other sameTxn
    rw [Call.installedFor, Call.installedFor, sameTxn, decide_eq_false other]
    rfl
  cases transition with
  | idle | reserved | materialized => exact unchanged (Nat.le_refl _)
  | entered | committed | rolledBack | begun =>
      refine unchanged (Nat.le_of_eq ((List.countP_append ..).trans ?_))
      rw [List.countP_singleton, Call.installedFor, Bool.and_false]
      rfl
  | refused _ _ _ found | looked _ _ found | fetched _ _ _ _ found | wrote _ _ _ _ found
  | failed _ _ found | swapped _ _ _ found => exact unchanged (same found rfl)
  | adopted number built call op handle found request waits writable present =>
      refine unchanged (countP_set_le_of_not _ _ ?_)
      rw [Call.installedFor, Bool.and_eq_false_imp]
      intro own
      have older := (one.older handle (State.deltaOf_of_pending (of_decide_eq_true own ▸ present))).2
      refine decide_eq_false (fun adoptedFresh => ?_)
      rw [adoptedFresh] at older
      exact Nat.lt_irrefl _ older
  | installed number built call op found request waits writable absent =>
      by_cases own : call.txn = txn
      · subst own
        have held := State.deltaOf_of_undecided (State.assertWritable_eq_ok_iff.mp writable).2
        have none := one.installations
        rw [held, absent] at none
        change (machine.calls.set number _).countP (Call.installedFor call.txn) <=
          if ((machine.state.setPending call.txn (machine.fresh call)).deltaOf call.txn).isSome then 1 else 0
        rw [State.setPending_deltaOf, if_pos rfl]
        exact Nat.le_trans (countP_set_le _ _ _ _) (Nat.succ_le_succ none)
      · exact unchanged (same found (foreign own rfl))
  | restored number built call found request =>
      refine unchanged (same found (foreign (fun own => ?_) rfl))
      exact (one.routed call (List.mem_of_getElem? found)).notRestored own request

theorem keys : (after.keysOf txn).Nodup := by
  have foreign : forall {call : Call writers.Op V}, writers.keyOf txn call = none ->
      ((machine.calls ++ [call]).filterMap (writers.keyOf txn)).Nodup := by
    intro call unwritten
    rw [List.filterMap_append, List.filterMap_cons_none unwritten, List.filterMap_nil, List.append_nil]
    exact one.keys
  have same : forall {number : Nat} {present now : Call writers.Op V},
      machine.calls[number]? = some present -> writers.keyOf txn now = writers.keyOf txn present ->
      ((machine.calls.set number now).filterMap (writers.keyOf txn)).Nodup := by
    intro number present now found unchanged
    rw [filterMap_set_of_same found unchanged]
    exact one.keys
  cases transition with
  | idle | reserved | materialized => exact one.keys
  | entered other request phase opens =>
      by_cases own : other = txn
      · subst own
        cases request with
        | write op =>
            rcases orderly rfl with ⟨cell, written, distinct⟩
            have key : writers.keyOf other ⟨other, .write op, phase, false, none⟩ = some cell.key := by
              rw [Writers.keyOf, if_pos rfl]
              exact congrArg (Option.map CellWrite.key) written
            change ((machine.calls ++ [_]).filterMap (writers.keyOf other)).Nodup
            rw [List.filterMap_append, List.filterMap_cons_some key, List.filterMap_nil]
            refine List.nodup_append.mpr ⟨one.keys, List.nodup_singleton _, ?_⟩
            rintro used earlier now member rfl
            exact distinct (List.mem_singleton.mp member ▸ earlier)
        | restore | commit | rollback | finalize =>
            exact foreign (by rw [Writers.keyOf, if_pos rfl]; rfl)
      · exact foreign (by rw [Writers.keyOf, if_neg own])
  | committed | rolledBack | begun =>
      refine foreign ?_
      rw [Writers.keyOf]
      split <;> rfl
  | refused _ _ _ found | looked _ _ found | fetched _ _ _ _ found | adopted _ _ _ _ _ found
  | installed _ _ _ _ found | restored _ _ _ found | wrote _ _ _ _ found | failed _ _ found
  | swapped _ _ _ found => exact same found rfl

theorem oneDelta : OneDelta txn after where
  coherent := transition.coherent one.coherent
  ahead := transition.ahead one orderly
  ownHandles := transition.ownHandles one
  older := transition.older one orderly
  routed := transition.routed one orderly
  installations := transition.installations_le one orderly
  keys := transition.keys one orderly

end Machine.Transition

/-! ## What the delta holds -/

theorem eq_of_nodup_filterMap {A B : Type} {entries : List A} {of : A -> Option B}
    (distinct : (entries.filterMap of).Nodup) {first second : A} {value : B}
    (memberFirst : first ∈ entries) (memberSecond : second ∈ entries)
    (ofFirst : of first = some value) (ofSecond : of second = some value) : first = second := by
  by_contra different
  have symmetric : Std.Symm (fun left right : A => forall here, of left = some here ->
      forall there, of right = some there -> here ≠ there) :=
    ⟨fun _ _ apart here ofHere there ofThere same => apart there ofThere here ofHere same.symm⟩
  have apart := (List.pairwise_filterMap.mp distinct).forall memberFirst memberSecond different
  exact apart value ofFirst value ofSecond rfl

/-- A write is in a delta which records it. -/
def Contains (delta : D) (cell : CellWrite K V) : Prop := overlay delta cell.key = some cell.outcome

/-- What the mutations of a collection do to a delta.  They record a cell if they find under
its key what they need to. -/
structure Writers.Records (writers : Writers D Native K V) (needs : CellWrite K V -> Option V -> Prop) : Prop where
  separate : Separate writers.created
  reworks : forall (txn : TxnId) (op : writers.Op) (cell : CellWrite K V) (state : State D Native),
    writers.cell op = some cell -> Moves (Delta.Reworks (.one cell.key)) (writers.write txn op state)
  records : forall (txn : TxnId) (op : writers.Op) (cell : CellWrite K V) (state : State D Native)
    (delta after : D), writers.accepts op = true -> writers.cell op = some cell -> Separate delta ->
    state.pending[txn]? = some delta -> writers.write txn op state delta = .ok ⟨⟩ after ->
    needs cell (state.view txn cell.key) -> Contains after cell

variable {needs : CellWrite K V -> Option V -> Prop}

/-- The delta of a transaction is readable, and contains what its writers have
reported done. -/
structure Gathers (needs : CellWrite K V -> Option V -> Prop) (txn : TxnId) (machine : Machine writers) : Prop where
  separate : forall handle, machine.state.deltaOf txn = some handle -> Separate (machine.storage handle)
  recorded : forall call, call ∈ machine.calls -> call.txn = txn ->
    forall cell, writers.cellOf call = some cell -> call.phase = .returned true ->
      exists handle, machine.state.deltaOf txn = some handle ∧
        (needs cell call.found -> Contains (machine.storage handle) cell)

theorem Gathers.start (canonical : Native) : Gathers needs txn (Machine.start canonical : Machine writers) where
  separate := by
    intro handle held
    have started : OneDelta txn (Machine.start canonical : Machine writers) := OneDelta.start canonical
    have older := started.older handle held
    exact absurd older.2 (Nat.not_lt_zero _)
  recorded := by
    intro call impossible
    cases impossible

omit [PersistentDelta D Native] [StoredMap Native K V] [LayeredDelta D Native K V] in
theorem Writers.keyOf_eq_some {call : Call writers.Op V} {cell : CellWrite K V} (own : call.txn = txn)
    (writes : writers.cellOf call = some cell) : writers.keyOf txn call = some cell.key := by
  rw [Writers.keyOf, if_pos own, writes]
  rfl

omit [PersistentDelta D Native] [StoredMap Native K V] [LayeredDelta D Native K V] in
/-- Different calls of the transaction write different keys. -/
theorem OneDelta.keys_apart (one : OneDelta txn machine) {first second : Call writers.Op V}
    {cell other : CellWrite K V} (memberFirst : first ∈ machine.calls) (memberSecond : second ∈ machine.calls)
    (ownFirst : first.txn = txn) (ownSecond : second.txn = txn) (writesFirst : writers.cellOf first = some cell)
    (writesSecond : writers.cellOf second = some other) (different : first ≠ second) : cell.key ≠ other.key := by
  intro sameKey
  have keyFirst := Writers.keyOf_eq_some ownFirst writesFirst
  have keySecond := Writers.keyOf_eq_some ownSecond writesSecond
  rw [← sameKey] at keySecond
  exact different (eq_of_nodup_filterMap one.keys memberFirst memberSecond keyFirst keySecond)

section Reported

variable {calls : List (Call writers.Op V)} {now : Call writers.Op V}

omit [PersistentDelta D Native] [StoredMap Native K V] [LayeredDelta D Native K V] in
/-- A call which has reported its write is not one that is entered. -/
theorem reported_append (unreported : forall op, now.request = .write op -> now.phase ≠ .returned true) :
    forall call, call ∈ calls ++ [now] -> forall cell, writers.cellOf call = some cell -> call.txn = txn ->
      call.phase = .returned true -> call ∈ calls := by
  intro call member cell writes _ returned
  rcases List.mem_append.mp member with old | same
  · exact old
  · cases List.mem_singleton.mp same
    rcases Writers.cellOf_eq_some writes with ⟨op, request, _⟩
    exact absurd returned (unreported op request)

omit [PersistentDelta D Native] [StoredMap Native K V] [LayeredDelta D Native K V] in
/-- Nor one that moves on without a report. -/
theorem reported_set {number : Nat}
    (unreported : forall op, now.request = .write op -> now.txn = txn -> now.phase ≠ .returned true) :
    forall call, call ∈ calls.set number now -> forall cell, writers.cellOf call = some cell ->
      call.txn = txn -> call.phase = .returned true -> call ∈ calls := by
  intro call member cell writes own returned
  rcases List.mem_or_eq_of_mem_set member with old | rfl
  · exact old
  · rcases Writers.cellOf_eq_some writes with ⟨op, request, _⟩
    exact absurd returned (unreported op request own)

end Reported

namespace Machine.Transition

variable (transition : Transition machine turn after) (one : OneDelta txn machine)
  (orderly : machine.Orderly txn turn)

include transition one orderly

/-- A delta which a turn installs is blank. -/
theorem created_of_installed (absent : machine.state.deltaOf txn = none) {handle : Handle}
    (held : after.state.deltaOf txn = some handle) : after.storage handle = writers.created := by
  have unchanged : after.state.deltaOf txn = machine.state.deltaOf txn ->
      after.storage handle = writers.created := by
    intro same
    rw [same, absent] at held
    cases held
  cases transition with
  | idle | reserved | entered | begun | refused | looked | fetched | adopted | wrote | failed
  | materialized => exact unchanged rfl
  | committed decided free writable =>
      exact unchanged (State.recordCommit_deltaOf (State.assertWritable_eq_ok_iff.mp writable).2)
  | rolledBack discarded => exact unchanged (State.discardPending_deltaOf orderly)
  | installed number built call =>
      replace held : (machine.state.setPending call.txn (machine.fresh call)).deltaOf txn = _ := held
      rw [State.setPending_deltaOf] at held
      split at held
      · cases held
        exact if_pos rfl
      · cases absent.symm.trans held
  | restored number built call found request =>
      refine unchanged ((State.setPending_deltaOf call.txn (machine.fresh call)).trans (if_neg ?_))
      exact fun own => (one.routed call (List.mem_of_getElem? found)).notRestored own request
  | swapped number call cutoff found underway =>
      exact unchanged (State.finalizeSwap_deltaOf (one.ahead _ underway))

omit orderly in
/-- Apart from the mutations of its own writers, the delta of a transaction and
what they have reported stay as they are. -/
theorem frame_or_wrote :
    ((forall handle, machine.state.deltaOf txn = some handle ->
        after.storage handle = machine.storage handle) ∧
      forall call, call ∈ after.calls -> forall cell, writers.cellOf call = some cell ->
        call.txn = txn -> call.phase = .returned true -> call ∈ machine.calls) ∨
    exists number call op handle, machine.calls[number]? = some call ∧ call.txn = txn ∧
      call.request = .write op ∧ call.phase = .writing handle ∧
      (let visible := machine.state.resolve machine.storage
      let outcome := writers.write txn op visible (machine.storage handle)
      after.state = machine.state ∧ after.storage handle = finalState outcome ∧
        after.calls = machine.calls.set number { call with
          found := (writers.cell op).bind (fun cell => visible.view txn cell.key)
          phase := .returned (succeeded outcome) }) := by
  have stored : forall (call : Call writers.Op V) (content : D) (handle : Handle),
      machine.state.deltaOf txn = some handle ->
      (machine.store (machine.fresh call) content).storage handle = machine.storage handle := by
    intro call content handle held
    refine if_neg ?_
    rintro rfl
    exact Nat.lt_irrefl _ (one.older _ held).2
  cases transition with
  | idle | reserved | materialized => exact Or.inl ⟨fun _ _ => rfl, fun _ member _ _ _ _ => member⟩
  | entered other request phase opens =>
      refine Or.inl ⟨fun _ _ => rfl, reported_append ?_⟩
      rintro op rfl returned
      rcases opens with ⟨waits, _⟩ | refused
      · cases waits.symm.trans returned
      · cases refused.symm.trans returned
  | committed | rolledBack | begun => exact Or.inl ⟨fun _ _ => rfl, reported_append nofun⟩
  | refused | looked | fetched | failed => exact Or.inl ⟨fun _ _ => rfl, reported_set nofun⟩
  | adopted number built call | installed number built call =>
      exact Or.inl ⟨stored call writers.created, reported_set nofun⟩
  | restored number built call found request =>
      refine Or.inl ⟨stored call built, reported_set ?_⟩
      intro op impossible
      cases request.symm.trans impossible
  | wrote number call op handle found request waits =>
      by_cases own : call.txn = txn
      · subst own
        exact Or.inr ⟨number, call, op, handle, found, rfl, request, waits, rfl, if_pos rfl, rfl⟩
      · refine Or.inl ⟨fun other held => if_neg ?_, reported_set (fun _ _ same => absurd same own)⟩
        rintro rfl
        have routed := one.routed call (List.mem_of_getElem? found)
        exact own ((routed.writing other waits).1.symm.trans (one.older other held).1)
  | swapped number call cutoff found underway =>
      rcases one.coherent.underway _ underway with ⟨_, _, waiting, _, request, _⟩
      cases found.symm.trans waiting
      refine Or.inl ⟨fun _ _ => rfl, reported_set ?_⟩
      intro op impossible
      cases request.symm.trans impossible

/-- A writer leaves the delta readable. -/
theorem stays_separate (records : writers.Records needs) (gathers : Gathers needs txn machine) {handle : Handle}
    (held : after.state.deltaOf txn = some handle) : Separate (after.storage handle) := by
  cases before : machine.state.deltaOf txn with
  | none =>
      rw [transition.created_of_installed one orderly before held]
      exact records.separate
  | some old =>
      cases (transition.deltaOf_kept one orderly before).symm.trans held
      have separate := gathers.separate handle before
      rcases transition.frame_or_wrote one with ⟨stored, _⟩ | wrote
      · rw [stored handle before]
        exact separate
      · rcases wrote with ⟨number, call, op, other, found, own, request, waits, _, stored, _⟩
        have routed := one.routed call (List.mem_of_getElem? found)
        rcases routed.single own op request with ⟨cell, writes⟩
        cases before.symm.trans (State.deltaOf_of_pending (routed.shared own other waits))
        have reworked := records.reworks txn op cell (machine.state.resolve machine.storage) writes
          (machine.storage handle)
        rw [← stored] at reworked
        exact reworked.separate separate

omit transition orderly in
/-- What a writer has done is in the delta as it leaves it, if it found what it needs. -/
theorem wrote_contains (records : writers.Records needs) (gathers : Gathers needs txn machine) {number : Nat}
    {call : Call writers.Op V} {op : writers.Op} {handle : Handle} {cell : CellWrite K V}
    (found : machine.calls[number]? = some call) (own : call.txn = txn) (request : call.request = .write op)
    (waits : call.phase = .writing handle) (writes : writers.cell op = some cell)
    (done : succeeded (writers.write txn op (machine.state.resolve machine.storage) (machine.storage handle)) =
      true)
    (met : needs cell ((machine.state.resolve machine.storage).view txn cell.key)) :
    Contains (finalState (writers.write txn op (machine.state.resolve machine.storage) (machine.storage handle)))
      cell := by
  have routed := one.routed call (List.mem_of_getElem? found)
  have present := routed.shared own handle waits
  have separate := gathers.separate handle (State.deltaOf_of_pending present)
  have accepted := routed.accepted op request (fun ok ended => by cases ended.symm.trans waits)
  have visible : (machine.state.resolve machine.storage).pending[txn]? = some (machine.storage handle) := by
    rw [State.resolve_pending, present]
    rfl
  cases outcome : writers.write txn op (machine.state.resolve machine.storage) (machine.storage handle) with
  | ok value delta => exact records.records txn op cell _ _ delta accepted writes separate visible outcome met
  | error error delta =>
      rw [outcome] at done
      cases done

/-- What the writers have reported stays in the delta. -/
theorem stays_recorded (records : writers.Records needs) (gathers : Gathers needs txn machine)
    (call : Call writers.Op V)
    (member : call ∈ after.calls) (own : call.txn = txn) (cell : CellWrite K V)
    (writes : writers.cellOf call = some cell) (returned : call.phase = .returned true) :
    exists handle, after.state.deltaOf txn = some handle ∧
      (needs cell call.found -> Contains (after.storage handle) cell) := by
  rcases transition.frame_or_wrote one with ⟨stored, reported⟩ | wrote
  · rcases gathers.recorded call (reported call member cell writes own returned) own cell writes returned with
      ⟨handle, held, contains⟩
    exact ⟨handle, transition.deltaOf_kept one orderly held, stored handle held ▸ contains⟩
  · rcases wrote with ⟨number, writer, op, handle, found, ownWriter, request, waits, _, stored, calls⟩
    have memberWriter := List.mem_of_getElem? found
    have routed := one.routed writer memberWriter
    have held := State.deltaOf_of_pending (routed.shared ownWriter handle waits)
    rcases routed.single ownWriter op request with ⟨written, writerWrites⟩
    have cellOf : writers.cellOf writer = some written := by
      rw [Writers.cellOf, request]
      exact writerWrites
    refine ⟨handle, transition.deltaOf_kept one orderly held, ?_⟩
    rw [calls] at member
    rcases List.mem_or_eq_of_mem_set member with old | rfl
    · rcases gathers.recorded call old own cell writes returned with ⟨same, heldSame, contains⟩
      cases held.symm.trans heldSame
      have different : writer ≠ call := by
        rintro rfl
        cases waits.symm.trans returned
      have apart := one.keys_apart memberWriter old ownWriter own cellOf writes different
      have reworked := records.reworks txn op written (machine.state.resolve machine.storage) writerWrites
        (machine.storage handle)
      rw [Contains, stored, reworked.outside cell.key apart]
      exact contains
    · cases cellOf.symm.trans writes
      rw [stored, writerWrites]
      exact fun met => wrote_contains one records gathers found ownWriter request waits writerWrites
        (Phase.returned.inj returned) met

theorem gathers (records : writers.Records needs) (gathers : Gathers needs txn machine) : Gathers needs txn after where
  separate _ held := transition.stays_separate one orderly records gathers held
  recorded := transition.stays_recorded one orderly records gathers

end Machine.Transition

/-! ## Runs -/

/-- The writers of a transaction share one delta, which contains what they have
reported done, before and after it moves to committed. -/
structure LosesNoWrite (txn : TxnId) (machine : Machine writers) : Prop where
  installedOnce : machine.installations txn <= 1
  shared : forall call, call ∈ machine.calls -> call.txn = txn -> forall handle,
    call.phase = .writing handle -> machine.state.pending[txn]? = some handle
  pending : machine.state.committed[txn]? = none ->
    forall call, call ∈ machine.calls -> call.txn = txn -> forall cell,
      writers.cellOf call = some cell -> call.phase = .returned true ->
      exists handle, machine.state.pending[txn]? = some handle ∧ Contains (machine.storage handle) cell
  committed : forall decision, machine.state.committed[txn]? = some decision ->
    forall call, call ∈ machine.calls -> call.txn = txn -> forall cell,
      writers.cellOf call = some cell -> call.phase = .returned true ->
      exists handle, decision = some handle ∧ Contains (machine.storage handle) cell

/-- The writers of a transaction which have reported done found what they need. -/
def Finds (needs : CellWrite K V -> Option V -> Prop) (txn : TxnId) (machine : Machine writers) : Prop :=
  forall call, call ∈ machine.calls -> call.txn = txn -> forall cell,
    writers.cellOf call = some cell -> call.phase = .returned true -> needs cell call.found

namespace Machine

theorem run_gathers (records : writers.Records needs) (one : OneDelta txn machine)
    (gathers : Gathers needs txn machine) {turns : List (Turn writers)}
    (orderly : machine.Throughout (Orderly txn) turns) :
    OneDelta txn (machine.run turns) ∧ Gathers needs txn (machine.run turns) := by
  induction turns generalizing machine with
  | nil => exact ⟨one, gathers⟩
  | cons turn turns inductionHypothesis =>
      have transition := machine.step_transition turn
      exact inductionHypothesis (transition.oneDelta one orderly.1)
        (transition.gathers one orderly.1 records gathers) orderly.2

/-- Over every run in which the transaction is left to its writers, they share
one delta, and it contains all they have written if they found what they need. -/
theorem run_losesNoWrite (records : writers.Records needs) (canonical : Native) {turns : List (Turn writers)}
    (orderly : (Machine.start canonical : Machine writers).Throughout (Orderly txn) turns)
    (finds : Finds needs txn ((Machine.start canonical : Machine writers).run turns)) :
    LosesNoWrite txn ((Machine.start canonical : Machine writers).run turns) := by
  rcases run_gathers records (OneDelta.start canonical) (Gathers.start canonical) orderly with
    ⟨one, gathers⟩
  refine ⟨?_, fun call member => (one.routed call member).shared, ?_, ?_⟩
  · refine Nat.le_trans one.installations ?_
    split
    · exact Nat.le_refl _
    · exact Nat.zero_le _
  · intro undecided call member own cell writes returned
    rw [← State.deltaOf_of_undecided undecided]
    rcases gathers.recorded call member own cell writes returned with ⟨handle, held, contains⟩
    exact ⟨handle, held, contains (finds call member own cell writes returned)⟩
  · intro decision decided call member own cell writes returned
    rcases gathers.recorded call member own cell writes returned with ⟨handle, held, contains⟩
    have moved := one.coherent.ordered.apart txn (by rw [decided]; nofun)
    rw [State.deltaOf, moved, decided] at held
    exact ⟨handle, held, contains (finds call member own cell writes returned)⟩

end Machine

end Steps

end Persistence
end TransactionalCollection
