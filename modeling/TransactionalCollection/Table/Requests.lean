import TransactionalCollection.Table.Cast
import TransactionalCollection.Table.Routes

namespace TransactionalCollection
namespace Table

open Execution Native Persistence

/-!
# Requests to a table

A path leads to a handler of a table or view, of which each method casts what it is
sent and calls the table.  Views are answered without being read.
-/

variable {S : Signature} {forms : ValueForms S}

/-- `CollectionState`, as far as the routes of a table convert it, and the casts of
values which they rely on. -/
structure TableStates (forms : ValueForms S) where
  State : Type
  /-- `State::from`, of a scalar. -/
  ofScalar : Scalar S -> State
  intoScalar : State -> Except TCError (Scalar S)
  castBound : S.Value -> Option (Bound S.Value)
  /-- The cast of a value to the values of a row. -/
  castItems : S.Value -> Option (List S.Value)
  /-- The cast of a value to the names of columns. -/
  castNames : S.Value -> Option (List S.Id)
  /-- The cast of a value to the names of columns, and whether to reverse their order. -/
  castOrder : S.Value -> Option (List S.Id × Bool)
  /-- `u64::cast_from`. -/
  castSize : forms.Number -> Nat

/-- A scalar which is a value.  What it is instead is left out of the message. -/
def scalarValue (expected : String) : Scalar S -> Except TCError S.Value
  | .value value => .ok value
  | .map _ => .error (.badRequest s!"expected {expected}")

def TableStates.valueFromState (states : TableStates forms) (state : states.State) (expected : String) :
    Except TCError S.Value := do
  scalarValue expected (<- states.intoScalar state)

/-- What a table is sent. -/
inductive TableRequest (S : Signature) (State : Type) where
  | get (key : Scalar S)
  | put (key : Scalar S) (value : State)
  | post (entries : List (S.Id × State))
  | delete (key : Scalar S)

/-- What a request is answered with: a table or view, a value, or nothing. -/
inductive Response (schema : TableSchema S) where
  | table (handle : Handle schema)
  | value (value : S.Value)
  | flag (value : Bool)
  | count (count : Nat)
  | done

/-- The handlers of one path, of which there may be one of each method. -/
structure TableHandler (S : Signature) (State : Type) (Call : Type) where
  get : Option (Scalar S -> Call)
  put : Option (Scalar S -> State -> Call)
  post : Option (List (S.Id × State) -> Call)
  delete : Option (Scalar S -> Call)

/-! ## Schemas -/

section Schemas

variable (forms : ValueForms S) (schema : TableSchema S)

/-- All column definitions. -/
def columnSchema : S.Value := forms.tuple (schema.columnSchema.map (fun column => column.castFrom.toValue forms))

/-- The definitions of the columns of the key. -/
def keyColumns : S.Value :=
  forms.tuple ((schema.columnSchema.take schema.key.length).map (fun column => column.castFrom.toValue forms))

/-- The names of the columns of the key. -/
def keyNames : S.Value := forms.tuple (schema.key.map (fun name => forms.string (S.displayId name)))

end Schemas

namespace TableStates

variable (states : TableStates forms) {schema : TableSchema S}

/-- A call of a table or view. -/
abbrev Call (schema : TableSchema S) := EStateM (Failure OpError) (Handle schema) (Response schema)

/-- Cast what has been sent, then go on. -/
def onCast {A B : Type} (cast : Except TCError A) (proceed : A -> EStateM (Failure OpError) (Handle schema) B) :
    EStateM (Failure OpError) (Handle schema) B := fun handle =>
  match cast with
  | .error error => .error (.error (.request error)) handle
  | .ok value => proceed value handle

/-- Answer a view of the table. -/
def onView {View : Type} (wrap : View -> Handle schema) (view : Handle schema -> Except TCError View) : Call schema :=
  fun handle => onCast (view handle) (fun view handle => .ok (.table (wrap view)) handle) handle

section Handlers

variable (ops : TableOps S) (ranges : RangeOps S) (txn : TxnId)

/-- What is found is answered as a table or a value. -/
def found (forms : ValueForms S) : Handle.Found schema -> Response schema
  | .table handle => .table handle
  | .slice view => .table (.tableSlice view)
  | .row (some row) => .value (forms.tuple row)
  | .row none => .value forms.none

def getTable (request : Scalar S) : Call schema :=
  onCast (scalarValue "a value" request) (fun selector =>
    found forms <$> Handle.getRoute forms states.castBound txn selector)

def putTable (key : Scalar S) (value : states.State) : Call schema :=
  onCast (scalarValue "a value" key) (fun selector =>
    onCast (states.intoScalar value) (fun value =>
      (fun _ => .done) <$> Handle.putRoute forms states.castBound ops ranges txn selector value))

/-- The bounds of a map, each with the name of its column. -/
def boundsOf (entries : List (S.Id × states.State)) : Except TCError (List S.Value) :=
  entries.mapM (fun entry => do
    let value <- states.valueFromState entry.2 "a Table bound"
    return forms.tuple [forms.string (S.displayId entry.1), value])

/-- The range which a map of bounds selects. -/
def rangeOf (schema : TableSchema S) (entries : List (S.Id × states.State)) : Except TCError (Range S) := do
  castIntoRange forms states.castBound schema (forms.tuple (<- states.boundsOf entries))

def postTable (entries : List (S.Id × states.State)) : Call schema := fun handle =>
  onCast (states.rangeOf handle.semanticSchema entries)
    (fun range => onView Handle.tableSlice (Handle.slice range [] false)) handle

def deleteTable (request : Scalar S) : Call schema :=
  onCast (scalarValue "a value" request) (fun selector =>
    (fun _ => .done) <$> Handle.deleteRoute forms states.castBound ops ranges txn selector)

def getContains (request : Scalar S) : Call schema :=
  onCast (scalarValue "a value" request) (fun selector =>
    .flag <$> Handle.containsRoute forms states.castBound ops txn selector)

def getCount (request : Scalar S) : Call schema :=
  onCast (scalarValue "a value" request) (fun selector =>
    .count <$> Handle.countRoute forms states.castBound ops txn selector)

def getIsEmpty (request : Scalar S) : Call schema :=
  onCast (scalarValue "a value" request) (fun selector =>
    .flag <$> Handle.isEmptyRoute forms states.castBound ops txn selector)

/-- The key and the values of the row which is sent to be inserted. -/
def insertParts (key : Scalar S) (values : states.State) : Except TCError (Key S × List S.Value) := do
  let key <- states.valueFromState (states.ofScalar key) "a Table key"
  let key <- (states.castItems key).elim (.error (.badRequest s!"expected a Table key, not {S.debugValue key}")) .ok
  let values <- states.valueFromState values "Table values"
  let values <- (states.castItems values).elim
    (.error (.badRequest s!"expected Table values, not {S.debugValue values}")) .ok
  return (key, values)

def putInsert (key : Scalar S) (values : states.State) : Call schema :=
  onCast (states.insertParts key values) (fun row => (fun _ => .done) <$> Handle.insertRow txn row.1 row.2)

def limitOf (request : Scalar S) : Except TCError Nat := do
  let value <- scalarValue "a value" request
  match forms.form value with
  | .number limit => .ok (states.castSize limit)
  | _ => .error (.badRequest s!"limit must be a positive integer, not {S.debugValue value}")

def getLimit (request : Scalar S) : Call schema :=
  onCast (states.limitOf request) (fun limit => onView Handle.limited (Handle.limit limit))

/-- The columns to order by, in reverse or not. -/
def orderOf (request : Scalar S) : Except TCError (List S.Id × Bool) := do
  let value <- scalarValue "a value" request
  match states.castOrder value with
  | some order => .ok order
  | none =>
      match states.castNames value with
      | some columns => .ok (columns, false)
      | none => .error (.badRequest s!"invalid column list: {S.debugValue value}")

def getOrder (request : Scalar S) : Call schema :=
  onCast (states.orderOf request) (fun order => onView Handle.tableSlice (Handle.orderBy order.1 order.2))

def namesOf (request : Scalar S) : Except TCError (List S.Id) := do
  let value <- scalarValue "a value" request
  (states.castNames value).elim (.error (.badRequest s!"invalid column list: {S.debugValue value}")) .ok

def getSelect (request : Scalar S) : Call schema :=
  onCast (states.namesOf request) (fun columns => onView Handle.selection (Handle.select columns))

/-- A route without parameters. -/
def noParameters (forms : ValueForms S) (request : Scalar S) : Except TCError Unit := do
  let value <- scalarValue "a value" request
  match forms.form value with
  | .none => .ok ()
  | _ => .error (.badRequest "this route takes no parameters")

def getSchema (forms : ValueForms S) (schemaOf : TableSchema S -> S.Value) (request : Scalar S) : Call schema :=
  onCast (noParameters forms request) (fun _ handle => .ok (.value (schemaOf handle.semanticSchema)) handle)

def route : List String -> Option (TableHandler S states.State (Call schema))
  | [] => some ⟨some (states.getTable txn), some (states.putTable ops ranges txn), some states.postTable,
      some (states.deleteTable ops ranges txn)⟩
  | [segment] =>
      match segment with
      | "columns" => some ⟨some (getSchema forms (columnSchema forms)), none, none, none⟩
      | "contains" => some ⟨some (states.getContains ops txn), none, none, none⟩
      | "count" => some ⟨some (states.getCount ops txn), none, none, none⟩
      | "insert" => some ⟨none, some (states.putInsert txn), none, none⟩
      | "is_empty" => some ⟨some (states.getIsEmpty ops txn), none, none, none⟩
      | "key_columns" => some ⟨some (getSchema forms (keyColumns forms)), none, none, none⟩
      | "key_names" => some ⟨some (getSchema forms (keyNames forms)), none, none, none⟩
      | "limit" => some ⟨some states.getLimit, none, none, none⟩
      | "order" => some ⟨some states.getOrder, none, none, none⟩
      | "select" => some ⟨some states.getSelect, none, none, none⟩
      | _ => none
  | _ => none

/-- The handler of a request, if there is one of its path and its method. -/
def respond (path : List String) (request : TableRequest S states.State) : Option (Call schema) := do
  let handler <- states.route ops ranges txn path
  match request with
  | .get key => handler.get.map (fun operation => operation key)
  | .put key value => handler.put.map (fun operation => operation key value)
  | .post entries => handler.post.map (fun operation => operation entries)
  | .delete key => handler.delete.map (fun operation => operation key)

end Handlers

end TableStates

end Table
end TransactionalCollection
