import TransactionalCollection.Table.Serving

namespace TransactionalCollection
namespace Table

open Layering Native Execution Persistence

/-!
# Sessions of requests

Many transactions send requests to one table, between decisions and the parts of
finalizations.  A session of requests is a run of writes among readers, so it is served
as a local table serves the transactions one after another.
-/

variable {S : Signature} {forms : ValueForms S} {schema : TableSchema S}

/-! ## What a call leaves -/

/-- A call leaves a table as it is, or under one more permit to read. -/
def Passes {A : Type} (txn : TxnId) (call : EStateM (Failure OpError) (Handle schema) A) : Prop :=
  forall owner : PersistentTable schema, exists after, finalState (call (.file owner)) = .file after ∧
    (after = owner ∨ exists range, after = owner.acquireReadPermit txn range)

namespace Passes

variable {A B : Type} {txn : TxnId} {call : EStateM (Failure OpError) (Handle schema) A}

theorem map (passes : Passes txn call) (image : A -> B) : Passes txn (image <$> call) := by
  intro owner
  have kept : finalState ((image <$> call) (.file owner)) = finalState (call (.file owner)) := by
    change finalState (EStateM.map image call (.file owner)) = _
    rw [EStateM.map]
    cases call (.file owner) <;> rfl
  rw [kept]
  exact passes owner

theorem onCast {cast : Except TCError A} {proceed : A -> EStateM (Failure OpError) (Handle schema) B}
    (proceeds : forall value, Passes txn (proceed value)) : Passes txn (TableStates.onCast cast proceed) := by
  cases cast with
  | error error => exact fun owner => ⟨owner, rfl, Or.inl rfl⟩
  | ok value => exact proceeds value

theorem onSelector {castBound : S.Value -> Option (Bound S.Value)} {selector : S.Value}
    {proceed : KeyOrRange S -> EStateM (Failure OpError) (Handle schema) A}
    (proceeds : forall parsed, Passes txn (proceed parsed)) :
    Passes txn (Handle.onSelector forms castBound selector proceed) := by
  rw [TableStates.onSelector_eq_onCast]
  exact onCast proceeds

theorem finalState_reading {T : Type} (read : T -> Except (Failure OpError) A × T) (state : T) :
    finalState (reading read state) = (read state).2 := by
  unfold reading
  rcases read state with ⟨_ | _, _⟩ <;> rfl

theorem reading {read : Handle schema -> Except (Failure OpError) A × Handle schema}
    (passes : forall owner, exists after, (read (.file owner)).2 = .file after ∧
      (after = owner ∨ exists range, after = owner.acquireReadPermit txn range)) :
    Passes txn (Execution.reading read) := by
  intro owner
  rw [finalState_reading]
  exact passes owner

theorem onSlice {range : Range S} {read : TableSlice schema -> Except (Failure OpError) A × TableSlice schema}
    (passes : forall owner, exists after, (read ⟨.file owner, range, [], false⟩).2.table = .file after ∧
      (after = owner ∨ exists range, after = owner.acquireReadPermit txn range)) :
    Passes txn (Handle.onSlice range read) := by
  intro owner
  rw [show Handle.onSlice range read (.file owner) = _ from TableStates.onSlice_source range read (.file owner),
    finalState_reading]
  rcases passes owner with ⟨after, reached, kept⟩
  exact ⟨after, congrArg TableSource.toHandle reached, kept⟩

theorem onView {View : Type} {wrap : View -> Handle schema} {view : Handle schema -> Except TCError View} :
    Passes txn (TableStates.onView wrap view) := by
  intro owner
  refine ⟨owner, ?_, Or.inl rfl⟩
  rw [TableStates.onView]
  cases view (.file owner) <;> rfl

end Passes

namespace TableStates

variable {states : TableStates forms} {ops : TableOps S} {ranges : RangeOps S} {txn : TxnId}

theorem selected_passes {A : Type} {sent : Scalar S} {wrap : A -> Response schema}
    {proceed : KeyOrRange S -> EStateM (Failure OpError) (Handle schema) A}
    (proceeds : forall parsed, Passes txn (proceed parsed)) :
    Passes txn (onCast (scalarValue "a value" sent) (fun selector =>
      wrap <$> Handle.onSelector forms states.castBound selector proceed)) :=
  Passes.onCast (fun _ => (Passes.onSelector proceeds).map wrap)

/-- A request which reads leaves at most a permit. -/
theorem ReadCall.passes {path : List String} {request : TableRequest S states.State} {call : Call schema}
    (reads : states.ReadCall ops txn path request call) : Passes txn call := by
  cases reads with
  | table sent =>
      apply selected_passes
      intro parsed
      cases parsed with
      | all => exact fun owner => ⟨owner, rfl, Or.inl rfl⟩
      | range range => exact fun owner => ⟨owner, rfl, Or.inl rfl⟩
      | key key => exact (Passes.reading (fun owner => ⟨_, rfl, Or.inr ⟨.one key, rfl⟩⟩)).map Handle.Found.row
  | contains sent =>
      apply selected_passes
      intro parsed
      cases parsed with
      | all => exact (Passes.reading (fun owner => ⟨owner, rfl, Or.inl rfl⟩)).map not
      | range range => exact (Passes.onSlice (fun owner => ⟨owner, rfl, Or.inl rfl⟩)).map not
      | key key => exact Passes.reading (fun owner => ⟨_, rfl, Or.inr ⟨.one key, rfl⟩⟩)
  | count sent =>
      apply selected_passes
      intro parsed
      cases parsed with
      | all => exact Passes.reading (fun owner => ⟨_, rfl, Or.inr ⟨.all, rfl⟩⟩)
      | range range => exact Passes.onSlice (fun owner => ⟨_, rfl, Or.inr ⟨.all, rfl⟩⟩)
      | key key => exact (Passes.reading (fun owner => ⟨_, rfl, Or.inr ⟨.one key, rfl⟩⟩)).map Bool.toNat
  | isEmpty sent =>
      apply selected_passes
      intro parsed
      cases parsed with
      | all => exact Passes.reading (fun owner => ⟨owner, rfl, Or.inl rfl⟩)
      | range range => exact Passes.onSlice (fun owner => ⟨owner, rfl, Or.inl rfl⟩)
      | key key => exact (Passes.reading (fun owner => ⟨_, rfl, Or.inr ⟨.one key, rfl⟩⟩)).map not
  | bounds entries =>
      change Passes txn (onCast (states.rangeOf schema entries)
        (fun range => onView Handle.tableSlice (Handle.slice range [] false)))
      exact Passes.onCast (fun _ => Passes.onView)
  | limit | order | select => exact Passes.onCast (fun _ => Passes.onView)
  | schema segment schemaOf sent => exact Passes.onCast (fun _ owner => ⟨owner, rfl, Or.inl rfl⟩)

/-! ## Sessions -/

/-- A request, or a decision, a part of a finalization, or another write. -/
inductive TableEvent (states : TableStates forms) (ops : TableOps S) (schema : TableSchema S) where
  | request (txn : TxnId) (path : List String) (request : TableRequest S states.State)
  | act (action : Action (writesDriver ops schema))

abbrev TableConfig (schema : TableSchema S) := Config (Delta schema) (TableLock schema) (Key S)

section Serving

variable (states : TableStates forms) (ops : TableOps S) (ranges : RangeOps S)

/-- What a request comes to. -/
def outcome (owner : PersistentTable schema) (txn : TxnId) (path : List String)
    (request : TableRequest S states.State) :
    Option (EStateM.Result (Failure OpError) (Handle schema) (Response schema)) :=
  (states.respond ops ranges txn path request).map (fun call => call (.file owner))

/-- A handle on the table is one after a request, too. -/
def ownerOf (owner : PersistentTable schema) : Handle schema -> PersistentTable schema
  | .file after => after
  | .localTable _ | .tableSlice _ | .limited _ | .selection _ => owner

def serve (config : TableConfig schema) : states.TableEvent ops schema -> TableConfig schema
  | .request txn path request =>
      match states.outcome ops ranges config.owner txn path request with
      | none => config
      | some result => { config with owner := ownerOf config.owner (finalState result) }
  | .act action => step (writesDriver ops schema) config action

/-- A write counts when it is answered. -/
def register (config : TableConfig schema) (ledger : Ledger (TableWrite S)) :
    states.TableEvent ops schema -> Ledger (TableWrite S)
  | .request txn path request =>
      match states.outcome ops ranges config.owner txn path request, states.writeOf schema path request with
      | some result, some (.ok write) => if succeeded result then ledger.record txn write else ledger
      | _, _ => ledger
  | .act action => note (writesDriver ops schema) config action ledger

def session (config : TableConfig schema) (events : List (states.TableEvent ops schema)) : TableConfig schema :=
  events.foldl (states.serve ops ranges) config

def sessionLedger (config : TableConfig schema) (ledger : Ledger (TableWrite S)) :
    List (states.TableEvent ops schema) -> Ledger (TableWrite S)
  | [] => ledger
  | event :: events =>
      sessionLedger (states.serve ops ranges config event) (states.register ops ranges config ledger event) events

/-- A request is served when the permit which it reads under is granted. -/
def Granted (owner : PersistentTable schema) (txn : TxnId) (path : List String)
    (request : TableRequest S states.State) : Prop :=
  forall result range, states.outcome ops ranges owner txn path request = some result ->
    finalState result = .file (owner.acquireReadPermit txn range) -> owner.readReady txn range = true

/-- A request asks for a regular write, or is granted its permit to read; a transaction
commits in order. -/
def Proper (config : TableConfig schema) (ledger : Ledger (TableWrite S)) : states.TableEvent ops schema -> Prop
  | .request txn path request =>
      match states.writeOf schema path request with
      | some cast => forall write, cast = .ok write -> write.Whole ops schema
      | none => states.Granted ops ranges config.owner txn path request
  | .act action => Calls (TableWrite.Whole ops schema) action ∧
      CommitsInOrder (TableWrite.meaning ops schema) config ledger action

/-- Every event of a session is proper where it happens. -/
def ProperSession (config : TableConfig schema) (ledger : Ledger (TableWrite S)) :
    List (states.TableEvent ops schema) -> Prop
  | [] => True
  | event :: events => states.Proper ops ranges config ledger event ∧
      ProperSession (states.serve ops ranges config event) (states.register ops ranges config ledger event) events

end Serving

/-- Requests decide nothing. -/
theorem register_decidedLog (config : TableConfig schema) (ledger : Ledger (TableWrite S)) (path : List String)
    (request : TableRequest S states.State) (instant : TxnId) :
    (states.register ops ranges config ledger (.request txn path request)).decidedLog instant =
      ledger.decidedLog instant := by
  rw [register]
  split
  · split <;> rfl
  · rfl

/-- A reader who need not wait reads. -/
theorem acquireReadPermit_eq_read {owner : PersistentTable schema} {range : SetRange (Key S)}
    (ready : owner.readReady txn range = true) :
    owner.acquireReadPermit txn range = { owner with semaphore := owner.semaphore.read txn range } := by
  rw [Semaphore.read, if_pos (show owner.semaphore.canRead txn range = true from ready)]
  rfl

/-- A write is the mutation of the table. -/
theorem performWrite_file (owner : PersistentTable schema) (write : TableWrite S) :
    finalState (performWrite ops ranges txn write (.file owner)) =
        .file (finalState ((write.call : TableCall schema).perform ops txn owner)) ∧
      succeeded (performWrite ops ranges txn write (.file owner)) =
        succeeded ((write.call : TableCall schema).perform ops txn owner) := by
  have onFile : performWrite ops ranges txn write (.file owner) =
      EStateM.map (fun _ => Response.done) (write.through ops ranges txn) (.file owner) := rfl
  rw [onFile, EStateM.map, through_file]
  cases (write.call : TableCall schema).perform ops txn owner with
  | ok value after => exact ⟨rfl, rfl⟩
  | error error after => exact ⟨rfl, rfl⟩

variable {config : TableConfig schema} {ledger : Ledger (TableWrite S)}

/-- An orderly stretch of a run of writes. -/
abbrev Stretches (ops : TableOps S) (config : TableConfig schema) (ledger : Ledger (TableWrite S))
    (reached : TableConfig schema) (recorded : Ledger (TableWrite S)) : Prop :=
  Stretch (writesDriver ops schema) (TableWrite.meaning ops schema) (TableWrite.Whole ops schema) config ledger reached
    recorded

/-- A proper event is at most one step of an orderly run. -/
theorem serve_stretches {event : states.TableEvent ops schema} (proper : states.Proper ops ranges config ledger event) :
    Stretches ops config ledger
      (states.serve ops ranges config event) (states.register ops ranges config ledger event) := by
  cases event with
  | act action => exact (Stretch.refl _ _).cons proper.1 proper.2
  | request txn path request =>
      rw [Proper] at proper
      rw [serve, register]
      cases responded : (states.respond ops ranges txn path request : Option (Call schema)) with
      | none =>
          have silent : states.outcome ops ranges config.owner txn path request = none := by
            rw [outcome, responded]
            rfl
          rw [silent]
          exact Stretch.refl _ _
      | some call =>
          have called : states.outcome ops ranges config.owner txn path request = some (call (.file config.owner)) := by
            rw [outcome, responded]
            rfl
          rw [called]
          dsimp only
          rcases respond_cases responded with ⟨cast, writes, rfl⟩ | ⟨silent, reads⟩
          · rw [writes] at proper ⊢
            cases cast with
            | error error => exact Stretch.refl _ _
            | ok write =>
                have mutated : Stretches ops config ledger (step (writesDriver ops schema) config (.mutate txn write))
                    (note (writesDriver ops schema) config (.mutate txn write) ledger) := by
                  refine (Stretch.refl _ _).cons ?_ ?_
                  · rintro _ _ ⟨⟩
                    exact proper write rfl
                  · rintro _ ⟨⟩
                have performs : finalState (performWrite ops ranges txn write (.file config.owner)) = _ ∧ _ :=
                  performWrite_file config.owner write
                change Stretches ops config ledger
                  ⟨ownerOf config.owner (finalState (performWrite ops ranges txn write (.file config.owner))),
                    config.finalizing⟩
                  (if succeeded (performWrite ops ranges txn write (.file config.owner)) then ledger.record txn write
                    else ledger)
                rw [performs.1, performs.2]
                exact mutated
          · rw [silent] at proper ⊢
            dsimp only
            rcases reads.passes config.owner with ⟨after, reached, rfl | ⟨range, rfl⟩⟩
            · rw [reached]
              exact Stretch.refl _ _
            · have granted : config.owner.readReady txn range = true :=
                proper _ range called reached
              have passed : Stretches ops config ledger (step (writesDriver ops schema) config (.traffic (txn, range)))
                  ledger := by
                refine (Stretch.refl _ _).cons ?_ ?_
                · rintro _ _ ⟨⟩
                · rintro _ ⟨⟩
              rw [reached, acquireReadPermit_eq_read granted]
              exact passed

theorem session_stretches {events : List (states.TableEvent ops schema)}
    (proper : states.ProperSession ops ranges config ledger events) :
    Stretches ops config ledger
      (states.session ops ranges config events) (states.sessionLedger ops ranges config ledger events) := by
  induction events generalizing config ledger with
  | nil => exact Stretch.refl _ _
  | cons event events inductionHypothesis => exact (serve_stretches proper.1).trans (inductionHypothesis proper.2)

/-- Transactions which send requests to a table, in any order and between any decisions
and parts of finalizations, are served one after another, when those whose writes touch
a common key commit in their order: there is a local table which has made the writes
acknowledged, transaction by transaction, and whatever a transaction ahead of the
frontier asks next, the local table answers. -/
theorem session_serializes (states : TableStates forms) (ops : TableOps S) (ranges : RangeOps S)
    (canonical : TableLock schema) (events : List (states.TableEvent ops schema))
    (proper : states.ProperSession ops ranges (Config.start canonical) Ledger.empty events) {txn : TxnId}
    (ahead : (states.session ops ranges (Config.start canonical) events).Ahead txn) :
    let config := states.session ops ranges (Config.start canonical) events
    let ledger := states.sessionLedger ops ranges (Config.start canonical) Ledger.empty events
    exists table : TableLock schema, Performed ops (ledger.history txn) canonical table ∧
      forall (path : List String) (request : TableRequest S states.State) (call : Call schema),
        states.respond ops ranges txn path request = some call -> states.Asks ops schema path request ->
          states.ServedAs ops txn config.owner table path request call := by
  intro config ledger
  rcases session_stretches proper with ⟨actions, ran, recorded, calls, ordered⟩
  have orderly : Orderly (TableWrite.meaning ops schema) (TableWrite.Whole ops schema) canonical actions :=
    ⟨calls, ordered⟩
  have reached : config = run (writesDriver ops schema) (Config.start canonical) actions := ran
  have kept : ledger = chronicle (writesDriver ops schema) (Config.start canonical) Ledger.empty actions := recorded
  have sound : Sound config := by
    rw [reached]
    exact run_sound (Sound.start canonical) actions
  have shows := run_shows ops orderly
    (show (run (writesDriver ops schema) (Config.start canonical) actions).Ahead txn by
    rw [← reached]
    exact ahead)
  rw [← reached, ← kept] at shows
  rcases shows with ⟨table, performed, shown⟩
  refine ⟨table, performed, ?_⟩
  intro path request call responds asks
  exact respond_served (apart_of_sound sound txn) (sound.pendingSeparate txn) shown asks responds

/-! ## A session -/

/-- What is sent is a scalar. -/
def plainTable : TableStates ValueForms.data where
  State := Scalar Signature.data
  ofScalar scalar := scalar
  intoScalar := .ok
  castBound := taggedBound
  castItems
    | Datum.tuple items => some items
    | _ => none
  castNames
    | Datum.tuple items => items.mapM Datum.castText
    | _ => none
  castOrder
    | Datum.tuple [.tuple items, .number reverse] => (items.mapM Datum.castText).map (fun names => (names, reverse ≠ 0))
    | _ => none
  castSize number := number

def sentNumber (number : Nat) : Scalar Signature.data := .value (Datum.tuple [Datum.number number])

/-- A row is put and committed; then two transactions write, in turn. -/
def threeRows : List (plainTable.TableEvent TableOps.reference labelledSchema) :=
  [.request 1 [] (.put (sentNumber 7) (sentNumber 1)), .act (.commit 1),
    .request 2 ["insert"] (.put (sentNumber 8) (sentNumber 2)), .request 3 [] (.put (sentNumber 9) (sentNumber 3)),
    .request 2 [] (.delete (sentNumber 7))]

theorem threeRows_proper : plainTable.ProperSession TableOps.reference RangeOps.reference
    (Config.start TableLock.empty) Ledger.empty threeRows := by
  have distinct : labelledSchema.KeysDistinct := by decide
  refine ⟨?_, ⟨?_, ?_⟩, ?_, ?_, ?_, trivial⟩
  · rintro _ ⟨⟩
    exact distinct
  · rintro _ _ ⟨⟩
  · apply commitsInOrder_of_undecided
    exact fun later => (register_decidedLog ..).trans (Ledger.empty_decidedLog later)
  · rintro _ ⟨⟩
    exact distinct
  · rintro _ ⟨⟩
    exact distinct
  · rintro _ ⟨⟩
    exact distinct

example : ((plainTable.sessionLedger TableOps.reference RangeOps.reference (Config.start TableLock.empty) Ledger.empty
    threeRows).history 2).length = 3 := by
  decide +kernel

/-- The second transaction counts what is left. -/
theorem session_serializes_threeRows :
    let config := plainTable.session TableOps.reference RangeOps.reference (Config.start TableLock.empty) threeRows
    let ledger := plainTable.sessionLedger TableOps.reference RangeOps.reference (Config.start TableLock.empty)
      Ledger.empty threeRows
    exists table : TableLock labelledSchema, Performed TableOps.reference (ledger.history 2) TableLock.empty table ∧
      ReadsAlike config.owner table (AnswersAlike config.owner table)
        (plainTable.getCount TableOps.reference 2 (.value Datum.none)) := by
  intro config ledger
  rcases session_serializes plainTable TableOps.reference RangeOps.reference TableLock.empty threeRows threeRows_proper
    (show Config.Ahead _ 2 by decide +kernel) with ⟨table, performed, served⟩
  refine ⟨table, performed, served ["count"] (.get (.value Datum.none)) _ rfl ?_⟩
  rintro _ ⟨⟩ _ selector parsed ⟨⟩ ⟨⟩
  trivial

end TableStates

end Table
end TransactionalCollection
