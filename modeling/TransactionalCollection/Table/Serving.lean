import TransactionalCollection.Table.Requests
import TransactionalCollection.Table.Serialization

namespace TransactionalCollection
namespace Table

open Layering Native Execution Persistence

/-!
# Requests are served as by a local table

A request either reads, and then it is answered by a transactional table as by a local
one with the same contents; or it asks for one write.  So whatever the transactions of
a run have asked for, what they are answered is what a local table answers which serves
them one after another.
-/

variable {S : Signature} {forms : ValueForms S} {schema : TableSchema S}

/-! ## What is answered alike -/

/-- The same view of a transactional and of a local table. -/
inductive ViewsAlike (owner : PersistentTable schema) (table : TableLock schema) :
    Handle schema -> Handle schema -> Prop
  where
  | table : ViewsAlike owner table (.file owner) (.localTable table)
  | tableSlice (range : Range S) (order : List S.Id) (reverse : Bool) :
      ViewsAlike owner table (.tableSlice ⟨.file owner, range, order, reverse⟩)
        (.tableSlice ⟨.localTable table, range, order, reverse⟩)
  | limited (limit : Nat) : ViewsAlike owner table (.limited ⟨⟨.file owner, Range.default, [], false⟩, limit⟩)
      (.limited ⟨⟨.localTable table, Range.default, [], false⟩, limit⟩)
  | selection (selected : TableSchema S) (columns : List S.Id) :
      ViewsAlike owner table (.selection ⟨⟨.file owner, Range.default, [], false⟩, selected, columns, none⟩)
        (.selection ⟨⟨.localTable table, Range.default, [], false⟩, selected, columns, none⟩)

/-- The same value, or the same view. -/
inductive AnswersAlike (owner : PersistentTable schema) (table : TableLock schema) :
    Response schema -> Response schema -> Prop where
  | same (answer : Response schema) : AnswersAlike owner table answer answer
  | view {first second : Handle schema} (views : ViewsAlike owner table first second) :
      AnswersAlike owner table (.table first) (.table second)

namespace TableStates

theorem onSelector_eq_onCast {A : Type} (castBound : S.Value -> Option (Bound S.Value)) (selector : S.Value)
    (proceed : KeyOrRange S -> EStateM (Failure OpError) (Handle schema) A) :
    Handle.onSelector forms castBound selector proceed =
      onCast (KeyOrRange.tryFromValue forms castBound schema selector) proceed := by
  funext handle
  unfold Handle.onSelector onCast
  cases KeyOrRange.tryFromValue forms castBound schema selector <;> rfl

/-- A slice of a table is read as the table is. -/
theorem onSlice_source {A : Type} (range : Range S)
    (read : TableSlice schema -> Except (Failure OpError) A × TableSlice schema) (source : TableSource schema) :
    Handle.onSlice range read source.handle =
      reading (fun _ => ((read ⟨source, range, [], false⟩).1, (read ⟨source, range, [], false⟩).2.table.toHandle))
        source.handle := by
  unfold Handle.onSlice reading
  rw [source.handle_slice]
  dsimp only
  rcases read ⟨source, range, [], false⟩ with ⟨_ | _, _⟩ <;> rfl

end TableStates

/-- What a call comes to. -/
def answered {E T A : Type} : EStateM.Result E T A -> Except E A
  | .ok value _ => .ok value
  | .error error _ => .error error

/-- Both fail with one error, or both succeed with related values. -/
inductive Outcomes {E A : Type} (related : A -> A -> Prop) : Except E A -> Except E A -> Prop where
  | failed (error : E) : Outcomes related (.error error) (.error error)
  | succeeded {first second : A} (alike : related first second) : Outcomes related (.ok first) (.ok second)

theorem Outcomes.map {E A B : Type} {related : A -> A -> Prop} {first second : Except E A}
    (alike : Outcomes related first second) {image : A -> B} {other : B -> B -> Prop}
    (preserved : forall first second, related first second -> other (image first) (image second)) :
    Outcomes other (first.map image) (second.map image) := by
  cases alike with
  | failed error => exact .failed error
  | succeeded found => exact .succeeded (preserved _ _ found)

/-- A call comes to the same on both tables. -/
def ReadsAlike {A : Type} (owner : PersistentTable schema) (table : TableLock schema) (related : A -> A -> Prop)
    (call : EStateM (Failure OpError) (Handle schema) A) : Prop :=
  Outcomes related (answered (call (.file owner))) (answered (call (.localTable table)))

namespace ReadsAlike

variable {A B : Type} {owner : PersistentTable schema} {table : TableLock schema} {related : A -> A -> Prop}
  {call : EStateM (Failure OpError) (Handle schema) A}

theorem map (alike : ReadsAlike owner table related call) {image : A -> B} {other : B -> B -> Prop}
    (preserved : forall first second, related first second -> other (image first) (image second)) :
    ReadsAlike owner table other (image <$> call) := by
  have mapped : forall handle, answered ((image <$> call) handle) = (answered (call handle)).map image := by
    intro handle
    change answered (EStateM.map image call handle) = _
    rw [EStateM.map]
    cases call handle <;> rfl
  rw [ReadsAlike, mapped, mapped]
  exact Outcomes.map alike preserved

/-- What is refused before the table is looked at. -/
theorem refused {error : Failure OpError} (fails : forall handle, call handle = .error error handle) :
    ReadsAlike owner table related call := by
  rw [ReadsAlike, fails, fails]
  exact .failed error

theorem onCast {cast : Except TCError A} {proceed : A -> EStateM (Failure OpError) (Handle schema) B}
    {other : B -> B -> Prop}
    (proceeds : forall value, cast = .ok value -> ReadsAlike owner table other (proceed value)) :
    ReadsAlike owner table other (TableStates.onCast cast proceed) := by
  cases parsed : cast with
  | error error => exact refused (fun _ => rfl)
  | ok value => exact proceeds value parsed

theorem onSelector {castBound : S.Value -> Option (Bound S.Value)} {selector : S.Value}
    {proceed : KeyOrRange S -> EStateM (Failure OpError) (Handle schema) A}
    (proceeds : forall parsed, KeyOrRange.tryFromValue forms castBound schema selector = .ok parsed ->
      ReadsAlike owner table related (proceed parsed)) :
    ReadsAlike owner table related (Handle.onSelector forms castBound selector proceed) := by
  rw [TableStates.onSelector_eq_onCast]
  exact onCast proceeds

/-- What is read is the same. -/
theorem ofResults {first second : Except (Failure OpError) A × Handle schema}
    (onFile : call (.file owner) = Execution.reading (fun _ => first) (.file owner))
    (onLocal : call (.localTable table) = Execution.reading (fun _ => second) (.localTable table))
    (same : first.1 = second.1) : ReadsAlike owner table (fun first second => first = second) call := by
  rcases first with ⟨result, final⟩
  rcases second with ⟨other, rest⟩
  cases same
  rw [ReadsAlike, onFile, onLocal]
  cases result with
  | error error => exact .failed error
  | ok value => exact .succeeded rfl

theorem reading {read : Handle schema -> Except (Failure OpError) A × Handle schema}
    (same : (read (.file owner)).1 = (read (.localTable table)).1) :
    ReadsAlike owner table (fun first second => first = second) (Execution.reading read) :=
  ofResults rfl rfl same

/-- A view is answered without looking at the table. -/
theorem onView {View : Type} {wrap : View -> Handle schema} {view : Handle schema -> Except TCError View}
    (views : (exists error, view (.file owner) = .error error ∧ view (.localTable table) = .error error) ∨
      exists first second, view (.file owner) = .ok first ∧ view (.localTable table) = .ok second ∧
        ViewsAlike owner table (wrap first) (wrap second)) :
    ReadsAlike owner table (AnswersAlike owner table) (TableStates.onView wrap view) := by
  rw [ReadsAlike, TableStates.onView, TableStates.onView]
  rcases views with ⟨error, onFile, onLocal⟩ | ⟨first, second, onFile, onLocal, alike⟩
  · rw [onFile, onLocal]
    exact .failed _
  · rw [onFile, onLocal]
    exact .succeeded (.view alike)

/-- A slice of both tables is read alike. -/
theorem onSlice {range : Range S} {read : TableSlice schema -> Except (Failure OpError) A × TableSlice schema}
    (same : (read ⟨.file owner, range, [], false⟩).1 = (read ⟨.localTable table, range, [], false⟩).1) :
    ReadsAlike owner table (fun first second => first = second) (Handle.onSlice range read) :=
  ofResults (TableStates.onSlice_source range read (.file owner))
    (TableStates.onSlice_source range read (.localTable table)) same

end ReadsAlike

/-! ## Requests which read -/

/-- A selector of a range bounds key columns only, and an index supports the range. -/
def KeyRange (ops : TableOps S) (schema : TableSchema S) : KeyOrRange S -> Prop
  | .range range => range.OnKeys schema ∧ ops.plan schema range [] = .ok ()
  | .all | .key _ => True

namespace TableStates

variable (states : TableStates forms)

/-- If a selector is sent, it selects a key, everything, or a range of keys. -/
def Selects (ops : TableOps S) (schema : TableSchema S) (sent : Scalar S) : Prop :=
  forall selector parsed, scalarValue "a value" sent = .ok selector ->
    KeyOrRange.tryFromValue forms states.castBound schema selector = .ok parsed -> KeyRange ops schema parsed

section Reading

variable {states} {ops : TableOps S} {txn : TxnId} {owner : PersistentTable schema} {table : TableLock schema}
  (alike : Alike ops txn (.file owner) (.localTable table))

include alike

theorem getTable_alike (request : Scalar S) :
    ReadsAlike owner table (AnswersAlike owner table) (states.getTable txn request) := by
  apply ReadsAlike.onCast
  intro selector _
  suffices alike : ReadsAlike owner table (fun first second =>
      AnswersAlike owner table (found forms first) (found forms second))
      (Handle.getRoute forms states.castBound txn selector) from ReadsAlike.map alike (fun _ _ => id)
  apply ReadsAlike.onSelector
  intro parsed selected
  cases parsed with
  | all => exact .succeeded (.view .table)
  | range range => exact .succeeded (.view (.tableSlice range [] false))
  | key key =>
      refine ReadsAlike.map (ReadsAlike.reading (alike.row key ?_)) ?_
      · exact Handle.arity_of_tryFromValue forms states.castBound selected
      · rintro _ _ rfl
        exact .same _

omit alike in
/-- A selector is cast and parsed, and then what it selects is read. -/
theorem selected_alike {A : Type} {request : Scalar S} (selects : states.Selects ops schema request)
    {wrap : A -> Response schema} {proceed : KeyOrRange S -> EStateM (Failure OpError) (Handle schema) A}
    (all : ReadsAlike owner table (fun first second => first = second) (proceed .all))
    (range : forall range : Range S, range.OnKeys schema -> ops.plan schema range [] = .ok () ->
      ReadsAlike owner table (fun first second => first = second) (proceed (.range range)))
    (key : forall key : Key S, key.length = schema.key.length ->
      ReadsAlike owner table (fun first second => first = second) (proceed (.key key))) :
    ReadsAlike owner table (AnswersAlike owner table) (onCast (scalarValue "a value" request) (fun selector =>
      wrap <$> Handle.onSelector forms states.castBound selector proceed)) := by
  apply ReadsAlike.onCast
  intro selector sent
  have same : ReadsAlike owner table (fun first second => first = second)
      (Handle.onSelector forms states.castBound selector proceed) := by
    apply ReadsAlike.onSelector
    intro parsed selected
    cases parsed with
    | all => exact all
    | range bounds => exact range bounds (selects selector _ sent selected).1 (selects selector _ sent selected).2
    | key found => exact key found (Handle.arity_of_tryFromValue forms states.castBound selected)
  apply ReadsAlike.map same
  rintro _ _ rfl
  exact .same _

theorem getContains_alike {request : Scalar S} (selects : states.Selects ops schema request) :
    ReadsAlike owner table (AnswersAlike owner table) (states.getContains ops txn request) := by
  apply selected_alike selects
  · refine ReadsAlike.map (ReadsAlike.reading ?_) (fun _ _ => congrArg not)
    exact alike.emptiness Range.default (fun _ _ => rfl) (ops.plan_default schema)
  · intro range onKeys supported
    exact ReadsAlike.map (ReadsAlike.onSlice (alike.emptiness range onKeys supported))
      (fun _ _ => congrArg not)
  · intro key arity
    exact ReadsAlike.reading (alike.membership key arity)

theorem getCount_alike {request : Scalar S} (selects : states.Selects ops schema request) :
    ReadsAlike owner table (AnswersAlike owner table) (states.getCount ops txn request) := by
  apply selected_alike selects
  · exact ReadsAlike.reading (alike.count Range.default (fun _ _ => rfl) (ops.plan_default schema))
  · intro range onKeys supported
    exact ReadsAlike.onSlice (alike.count range onKeys supported)
  · intro key arity
    exact ReadsAlike.map (ReadsAlike.reading (alike.membership key arity))
      (fun _ _ => congrArg Bool.toNat)

theorem getIsEmpty_alike {request : Scalar S} (selects : states.Selects ops schema request) :
    ReadsAlike owner table (AnswersAlike owner table) (states.getIsEmpty ops txn request) := by
  apply selected_alike selects
  · exact ReadsAlike.reading (alike.emptiness Range.default (fun _ _ => rfl) (ops.plan_default schema))
  · intro range onKeys supported
    exact ReadsAlike.onSlice (alike.emptiness range onKeys supported)
  · intro key arity
    exact ReadsAlike.map (ReadsAlike.reading (alike.membership key arity)) (fun _ _ => congrArg not)

end Reading

section Viewing

variable {states} {owner : PersistentTable schema} {table : TableLock schema}

theorem postTable_alike (entries : List (S.Id × states.State)) :
    ReadsAlike owner table (AnswersAlike owner table) (states.postTable entries) := by
  -- both tables are of one schema, by which the bounds are cast
  change ReadsAlike owner table (AnswersAlike owner table) (onCast (states.rangeOf schema entries)
    (fun range => onView Handle.tableSlice (Handle.slice range [] false)))
  apply ReadsAlike.onCast
  intro range _
  exact ReadsAlike.onView (Or.inr ⟨_, _, rfl, rfl, .tableSlice range [] false⟩)

theorem getLimit_alike (request : Scalar S) :
    ReadsAlike owner table (AnswersAlike owner table) (states.getLimit request) := by
  apply ReadsAlike.onCast
  intro limit _
  exact ReadsAlike.onView (Or.inr ⟨_, _, rfl, rfl, .limited limit⟩)

theorem getOrder_alike (request : Scalar S) :
    ReadsAlike owner table (AnswersAlike owner table) (states.getOrder request) := by
  apply ReadsAlike.onCast
  intro order _
  exact ReadsAlike.onView (Or.inr ⟨_, _, rfl, rfl, .tableSlice Range.default order.1 order.2⟩)

theorem getSelect_alike (request : Scalar S) :
    ReadsAlike owner table (AnswersAlike owner table) (states.getSelect request) := by
  apply ReadsAlike.onCast
  intro columns _
  apply ReadsAlike.onView
  have selected : forall source : TableSource schema, Handle.select columns source.handle =
      (schema.project columns).map (fun projected =>
        ⟨⟨source, Range.default, [], false⟩, projected.1, projected.2, none⟩) := by
    intro source
    unfold Handle.select
    rw [source.handle_slice]
    unfold TableSlice.select
    cases schema.project columns <;> rfl
  have onFile := selected (.file owner)
  have onLocal := selected (.localTable table)
  cases projected : schema.project columns with
  | error error =>
      rw [projected] at onFile onLocal
      exact Or.inl ⟨error, onFile, onLocal⟩
  | ok both =>
      rw [projected] at onFile onLocal
      exact Or.inr ⟨_, _, onFile, onLocal, .selection both.1 both.2⟩

theorem getSchema_alike (schemaOf : TableSchema S -> S.Value) (request : Scalar S) :
    ReadsAlike owner table (AnswersAlike owner table) (getSchema forms schemaOf request) := by
  apply ReadsAlike.onCast
  intro _ _
  exact .succeeded (.same _)

end Viewing

end TableStates

/-! ## Requests which write -/

/-- A write through a handle. -/
def TableWrite.through (ops : TableOps S) (ranges : RangeOps S) (txn : TxnId) :
    TableWrite S -> EStateM (Failure OpError) (Handle schema) PUnit
  | .upsertRow key values => Handle.upsertRow txn key values
  | .insertRow key values => Handle.insertRow txn key values
  | .deleteRow key => Handle.deleteRow txn key
  | .update range values => Handle.update ops ranges txn range values
  | .truncate range => Handle.truncate ops ranges txn range

namespace TableStates

variable (states : TableStates forms)

section Casts

variable (schema : TableSchema S)

/-- The write which is put to a table. -/
def putWrite (key : Scalar S) (value : states.State) : Except TCError (TableWrite S) := do
  let selector <- scalarValue "a value" key
  let value <- states.intoScalar value
  match <- KeyOrRange.tryFromValue forms states.castBound schema selector with
  | .all => (updateValues value).map (.update Range.default)
  | .range range => (updateValues value).map (.update range)
  | .key key => (rowValues forms value).map (.upsertRow key)

def deleteWrite (key : Scalar S) : Except TCError (TableWrite S) := do
  let selector <- scalarValue "a value" key
  match <- KeyOrRange.tryFromValue forms states.castBound schema selector with
  | .all => return .truncate Range.default
  | .range range => return .truncate range
  | .key key => return .deleteRow key

def insertWrite (key : Scalar S) (values : states.State) : Except TCError (TableWrite S) :=
  (states.insertParts key values).map (fun row => .insertRow row.1 row.2)

/-- The write which a request asks for, or why it is refused, where its path has a
method which writes. -/
def writeOf (path : List String) (request : TableRequest S states.State) : Option (Except TCError (TableWrite S)) :=
  match path, request with
  | [], .put key value => some (states.putWrite schema key value)
  | [], .delete key => some (states.deleteWrite schema key)
  | [segment], .put key values => if segment = "insert" then some (states.insertWrite key values) else none
  | _, _ => none

end Casts

/-- A write is done through the handle. -/
def performWrite (ops : TableOps S) (ranges : RangeOps S) (txn : TxnId) (write : TableWrite S) : Call schema :=
  (fun _ => .done) <$> write.through ops ranges txn

section Writing

variable {states} {ops : TableOps S} {ranges : RangeOps S} {txn : TxnId}

omit states in
/-- What is done with a result depends on the result. -/
theorem map_congr {A B : Type} {image : A -> B} {first second : EStateM (Failure OpError) (Handle schema) A}
    {handle : Handle schema} (same : first handle = second handle) :
    (image <$> first) handle = (image <$> second) handle := by
  change EStateM.map image first handle = EStateM.map image second handle
  rw [EStateM.map, EStateM.map, same]

omit states in
/-- A route which comes to a write, or refuses to. -/
theorem route_eq {route : EStateM (Failure OpError) (Handle schema) PUnit} {cast : Except TCError (TableWrite S)}
    {handle : Handle schema} (same : route handle = onCast cast (fun write => write.through ops ranges txn) handle) :
    ((fun _ => Response.done) <$> route) handle = onCast cast (performWrite ops ranges txn) handle := by
  rw [map_congr same]
  cases cast <;> rfl

theorem putTable_eq (key : Scalar S) (value : states.State) :
    (states.putTable ops ranges txn key value : Call schema) =
      onCast (states.putWrite schema key value) (performWrite ops ranges txn) := by
  funext handle
  unfold putTable putWrite
  cases scalarValue "a value" key with
  | error error => rfl
  | ok selector =>
      cases states.intoScalar value with
      | error error => rfl
      | ok sent =>
          apply route_eq
          unfold Handle.putRoute Handle.onSelector
          dsimp only [bind, Except.bind]
          cases KeyOrRange.tryFromValue forms states.castBound schema selector with
          | error error => rfl
          | ok parsed =>
              cases parsed with
              | all =>
                  dsimp only
                  cases updateValues sent <;> rfl
              | range range =>
                  dsimp only
                  cases updateValues sent <;> rfl
              | key key =>
                  dsimp only
                  cases rowValues forms sent <;> rfl

theorem deleteTable_eq (key : Scalar S) : (states.deleteTable ops ranges txn key : Call schema) =
    onCast (states.deleteWrite schema key) (performWrite ops ranges txn) := by
  funext handle
  unfold deleteTable deleteWrite
  cases scalarValue "a value" key with
  | error error => rfl
  | ok selector =>
      apply route_eq
      unfold Handle.deleteRoute Handle.onSelector
      dsimp only [bind, Except.bind]
      cases KeyOrRange.tryFromValue forms states.castBound schema selector with
      | error error => rfl
      | ok parsed => cases parsed <;> rfl

variable (ranges) in
theorem putInsert_eq (key : Scalar S) (values : states.State) : (states.putInsert txn key values : Call schema) =
    onCast (states.insertWrite key values) (performWrite ops ranges txn) := by
  funext handle
  unfold putInsert insertWrite
  cases states.insertParts key values <;> rfl

end Writing

end TableStates

section Written

variable {ops : TableOps S} {ranges : RangeOps S} {txn : TxnId} {owner : PersistentTable schema}
  {table : TableLock schema} {write : TableWrite S}

/-- A valid write which may proceed has the same result on both tables, and leaves the
same contents.  Any other is refused by the transactional table, and changes nothing. -/
structure WritesAlike (ops : TableOps S) (txn : TxnId) (owner : PersistentTable schema) (table : TableLock schema)
    (write : TableWrite S) (call : TableStates.Call schema) (after : PersistentTable schema) : Prop where
  final : finalState (call (.file owner)) = .file after
  proceeds : write.op.Valid ops schema -> MayWrite owner txn (write.call : TableCall schema).range ->
    answered (call (.file owner)) = answered (call (.localTable table)) ∧
      exists next, finalState (call (.localTable table)) = .localTable next ∧ after.state.view txn = bindings next
  refuses : ¬ (write.op.Valid ops schema ∧ MayWrite owner txn (write.call : TableCall schema).range) ->
    (exists error, answered (call (.file owner)) = .error error) ∧ after.state = owner.state

theorem through_file : write.through ops ranges txn (.file owner) =
    rewrap Handle.file ((write.call : TableCall schema).perform ops txn owner) := by
  cases write <;> rfl

theorem perform_op {handle : Handle schema} :
    write.op.perform ops ranges txn handle = acknowledge (write.through ops ranges txn handle) := by
  cases write <;> rfl

theorem through_of_acknowledged {handle next : Handle schema}
    (done : write.op.perform ops ranges txn handle = (.ok .unit, next)) :
    write.through ops ranges txn handle = .ok ⟨⟩ next := by
  rw [perform_op] at done
  unfold acknowledge at done
  split at done
  · rename_i outcome
    rw [outcome]
    cases done
    rfl
  · cases (Prod.ext_iff.mp done).1

/-- Only an insertion fails although it is valid and may proceed, because the key has a
row; and then it does on a local table. -/
theorem failed_alike (whole : write.Whole ops schema)
    (separate : forall delta, owner.state.pending[txn]? = some delta -> delta.KeysApart)
    (same : owner.state.view txn = bindings table) {error : Failure OpError} {after : PersistentTable schema}
    (failed : (write.call : TableCall schema).perform ops txn owner = .error error after)
    (valid : write.op.Valid ops schema) (mayWrite : MayWrite owner txn (write.call : TableCall schema).range) :
    write.through ops ranges txn (.localTable table) = .error error (.localTable table) := by
  cases write with
  | upsertRow key values =>
      rcases mapError_eq_error.mp failed with ⟨_, called, _⟩
      rcases upsertRow_cases txn key values owner with ⟨notAdmitted, _⟩ | ⟨_, _, _, succeeded, _⟩
      · exact absurd ⟨valid.1, mayWrite⟩ notAdmitted
      · cases succeeded.symm.trans called
  | insertRow key values =>
      rcases insertRow_cases txn key values owner with
        ⟨notAdmitted, _⟩ | ⟨_, ⟨present, _, refused⟩ | ⟨_, _, _, succeeded, _⟩⟩
      · exact absurd ⟨valid.1, mayWrite⟩ notAdmitted
      · cases refused.symm.trans failed
        rcases insertLocal_cases key values table with ⟨_, ⟨_, refusedLocally⟩ | ⟨missing, _⟩⟩ | ⟨invalid, _⟩
        · rw [TableWrite.through, Handle.insertRow, mapError_of_error refusedLocally, rewrap_error]
        · rw [same] at present
          exact absurd missing present
        · exact absurd valid.1 invalid
      · cases succeeded.symm.trans failed
  | deleteRow key =>
      rcases mapError_eq_error.mp failed with ⟨_, called, _⟩
      rcases deleteRow_cases txn (settled_of_valid whole) owner separate with ⟨notAdmitted, _⟩ | ⟨_, _, _, succeeded, _⟩
      · exact absurd ⟨valid.1, mayWrite⟩ notAdmitted
      · cases succeeded.symm.trans called
  | update range values =>
      rcases mapError_eq_error.mp failed with ⟨_, called, _⟩
      rcases update_cases whole.2.2.1 txn values owner with
        ⟨_, notAdmitted⟩ | ⟨_, pending, _, _, _, _, _, ⟨_, _, succeeded⟩ | ⟨_, _, stopped, _⟩⟩
      · exact absurd ⟨valid.1.2.1, mayWrite⟩ notAdmitted
      · cases succeeded.symm.trans called
      · rcases Delta.updateAll_of_typed (fun row member => scanned_valid ops member) valid.1.2.2 pending with
          ⟨_, ran⟩
        cases ran.symm.trans stopped
  | truncate range =>
      rcases mapError_eq_error.mp failed with ⟨_, called, _⟩
      rcases truncate_cases whole.2.2 txn owner with ⟨_, notAdmitted⟩ | ⟨_, _, _, _, _, _, _, _, succeeded⟩
      · exact absurd mayWrite notAdmitted
      · cases succeeded.symm.trans called

theorem performWrite_alike (apart : TableSource.Apart txn (.file owner : TableSource schema))
    (separate : forall delta, owner.state.pending[txn]? = some delta -> delta.KeysApart)
    (same : owner.state.view txn = bindings table) (whole : write.Whole ops schema) :
    WritesAlike ops txn owner table write (TableStates.performWrite ops ranges txn write)
      (finalState ((write.call : TableCall schema).perform ops txn owner)) := by
  have onFile : TableStates.performWrite ops ranges txn write (.file owner) =
      EStateM.map (fun _ => Response.done) (write.through ops ranges txn) (.file owner) := rfl
  have onLocal : TableStates.performWrite ops ranges txn write (.localTable table) =
      EStateM.map (fun _ => Response.done) (write.through ops ranges txn) (.localTable table) := rfl
  rw [EStateM.map, through_file] at onFile
  rw [EStateM.map] at onLocal
  cases outcome : (write.call : TableCall schema).perform ops txn owner with
  | ok value after =>
      have wrote := wrote_of_ok apart separate whole outcome
      have allowed := wrote.allowed
      rw [same] at allowed
      rcases TableWrite.local_performs allowed with ⟨next, done, bound⟩
      rw [outcome] at onFile
      rw [through_of_acknowledged (done ranges txn)] at onLocal
      refine ⟨congrArg finalState onFile, ?_, ?_⟩
      · intro _ _
        refine ⟨?_, next, congrArg finalState onLocal, ?_⟩
        · rw [onFile, onLocal]
          rfl
        · rw [bound, ← same]
          funext key
          exact wrote.performed key
      · exact fun refused => absurd ⟨wrote.allowed.1, wrote.mayWrite⟩ refused
  | error error after =>
      rw [outcome] at onFile
      refine ⟨congrArg finalState onFile, ?_, ?_⟩
      · intro valid mayWrite
        rw [failed_alike whole separate same outcome valid mayWrite] at onLocal
        refine ⟨?_, table, congrArg finalState onLocal, ?_⟩
        · rw [onFile, onLocal]
          rfl
        · exact (congrArg (fun state => State.view state txn) (write_failed whole separate outcome)).trans same
      · exact fun _ => ⟨⟨error, congrArg answered onFile⟩, write_failed whole separate outcome⟩

end Written

/-! ## All requests -/

namespace TableStates

variable (states : TableStates forms)

/-- The requests which only read, and their calls. -/
inductive ReadCall (ops : TableOps S) (txn : TxnId) : List String -> TableRequest S states.State -> Call schema -> Prop
  where
  | table (sent : Scalar S) : ReadCall ops txn [] (.get sent) (states.getTable txn sent)
  | bounds (entries : List (S.Id × states.State)) : ReadCall ops txn [] (.post entries) (states.postTable entries)
  | contains (sent : Scalar S) : ReadCall ops txn ["contains"] (.get sent) (states.getContains ops txn sent)
  | count (sent : Scalar S) : ReadCall ops txn ["count"] (.get sent) (states.getCount ops txn sent)
  | isEmpty (sent : Scalar S) : ReadCall ops txn ["is_empty"] (.get sent) (states.getIsEmpty ops txn sent)
  | limit (sent : Scalar S) : ReadCall ops txn ["limit"] (.get sent) (states.getLimit sent)
  | order (sent : Scalar S) : ReadCall ops txn ["order"] (.get sent) (states.getOrder sent)
  | select (sent : Scalar S) : ReadCall ops txn ["select"] (.get sent) (states.getSelect sent)
  | schema (segment : String) (schemaOf : TableSchema S -> S.Value) (sent : Scalar S) :
      ReadCall ops txn [segment] (.get sent) (getSchema forms schemaOf sent)

variable {states} in
/-- A request asks for a write, or reads. -/
theorem respond_cases {ops : TableOps S} {ranges : RangeOps S} {txn : TxnId} {path : List String}
    {request : TableRequest S states.State} {call : Call schema}
    (responds : states.respond ops ranges txn path request = some call) :
    (exists cast, states.writeOf schema path request = some cast ∧ call = onCast cast (performWrite ops ranges txn)) ∨
      (states.writeOf schema path request = none ∧ states.ReadCall ops txn path request call) := by
  rcases Option.bind_eq_some_iff.mp responds with ⟨handler, routed, method⟩
  match path with
  | [] =>
      cases routed
      cases request with
      | get sent =>
          cases method
          exact Or.inr ⟨rfl, .table sent⟩
      | put key value =>
          cases method
          exact Or.inl ⟨_, rfl, putTable_eq key value⟩
      | post entries =>
          cases method
          exact Or.inr ⟨rfl, .bounds entries⟩
      | delete sent =>
          cases method
          exact Or.inl ⟨_, rfl, deleteTable_eq sent⟩
  | [segment] =>
      unfold route at routed
      dsimp only at routed
      split at routed <;> cases routed <;> cases request <;> cases method
      · exact Or.inr ⟨rfl, .schema "columns" (columnSchema forms) _⟩
      · exact Or.inr ⟨rfl, .contains _⟩
      · exact Or.inr ⟨rfl, .count _⟩
      · exact Or.inl ⟨_, rfl, putInsert_eq ranges _ _⟩
      · exact Or.inr ⟨rfl, .isEmpty _⟩
      · exact Or.inr ⟨rfl, .schema "key_columns" (keyColumns forms) _⟩
      · exact Or.inr ⟨rfl, .schema "key_names" (keyNames forms) _⟩
      · exact Or.inr ⟨rfl, .limit _⟩
      · exact Or.inr ⟨rfl, .order _⟩
      · exact Or.inr ⟨rfl, .select _⟩
  | _ :: _ :: _ => cases routed

/-- A request to write asks for a regular write.  One to count or to look for rows
selects a key, or a supported range of keys. -/
def Asks (ops : TableOps S) (schema : TableSchema S) (path : List String) (request : TableRequest S states.State) :
    Prop :=
  match states.writeOf schema path request with
  | some cast => forall write, cast = .ok write -> write.Whole ops schema
  | none => forall sent, request = .get sent -> path ∈ [["contains"], ["count"], ["is_empty"]] ->
      states.Selects ops schema sent

/-- A request is answered as by the local table: it reads alike, is refused alike before
any table is reached, or makes the same write. -/
def ServedAs (ops : TableOps S) (txn : TxnId) (owner : PersistentTable schema) (table : TableLock schema)
    (path : List String) (request : TableRequest S states.State) (call : Call schema) : Prop :=
  match states.writeOf schema path request with
  | some (.ok write) => WritesAlike ops txn owner table write call
      (finalState ((write.call : TableCall schema).perform ops txn owner))
  | some (.error _) | none => ReadsAlike owner table (AnswersAlike owner table) call

section Responding

variable {states} {ops : TableOps S} {ranges : RangeOps S} {txn : TxnId} {owner : PersistentTable schema}
  {table : TableLock schema}

theorem respond_served (apart : TableSource.Apart txn (.file owner : TableSource schema))
    (separate : forall delta, owner.state.pending[txn]? = some delta -> delta.KeysApart)
    (same : owner.state.view txn = bindings table) {path : List String} {request : TableRequest S states.State}
    (asks : states.Asks ops schema path request) {call : Call schema}
    (responds : states.respond ops ranges txn path request = some call) :
    states.ServedAs ops txn owner table path request call := by
  have alike : Alike ops txn (.file owner) (.localTable table) := alike_of_view apart same
  rcases respond_cases responds with ⟨cast, writes, rfl⟩ | ⟨silent, reads⟩
  · rw [Asks, writes] at asks
    rw [ServedAs, writes]
    cases cast with
    | error error => exact ReadsAlike.refused (fun _ => rfl)
    | ok write => exact performWrite_alike apart separate same (asks write rfl)
  · rw [Asks, silent] at asks
    rw [ServedAs, silent]
    cases reads with
    | table sent => exact getTable_alike alike sent
    | bounds entries => exact postTable_alike entries
    | contains sent => exact getContains_alike alike (asks sent rfl (by simp))
    | count sent => exact getCount_alike alike (asks sent rfl (by simp))
    | isEmpty sent => exact getIsEmpty_alike alike (asks sent rfl (by simp))
    | limit sent => exact getLimit_alike sent
    | order sent => exact getOrder_alike sent
    | select sent => exact getSelect_alike sent
    | schema segment schemaOf sent => exact getSchema_alike schemaOf sent

end Responding

end TableStates

end Table
end TransactionalCollection
