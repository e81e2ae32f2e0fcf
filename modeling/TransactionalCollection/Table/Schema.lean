import TransactionalCollection.Native.Signature

namespace TransactionalCollection
namespace Table

open Native

/-!
# Table schemas

A table has key columns and value columns.  Its primary index holds all of
them, key columns first, and each auxiliary index holds some columns followed
by the key columns.  The constructors establish this, and the structures keep
it as fields.
-/

variable {S : Signature}

structure Column (S : Signature) where
  name : S.Id
  dtype : S.ValueType

structure TableIndexSchema (S : Signature) where
  columnNames : List S.Id
  columnTypes : List S.ValueType
  storage : StorageConfig
  columns_pos : columnNames ≠ []
  types_length : columnTypes.length = columnNames.length

structure TableSchema (S : Signature) where
  key : List S.Id
  values : List S.Id
  primary : TableIndexSchema S
  indices : List (String × TableIndexSchema S)
  key_pos : key ≠ []
  primary_names : primary.columnNames = key ++ values
  indices_names : forall index, index ∈ indices ->
    exists columns, index.2.columnNames = columns ++ key

namespace TableSchema

/-- Names of all columns, in row order. -/
def columns (schema : TableSchema S) : List S.Id := schema.key ++ schema.values

def columnCount (schema : TableSchema S) : Nat := schema.key.length + schema.values.length

def keyTypes (schema : TableSchema S) : List S.ValueType :=
  schema.primary.columnTypes.take schema.key.length

def valueTypes (schema : TableSchema S) : List S.ValueType :=
  schema.primary.columnTypes.drop schema.key.length

/-! ## Validation -/

/-- What `validateKey` accepts. -/
def ValidKey (schema : TableSchema S) (key : Key S) : Prop :=
  key.length = schema.key.length ∧ Typed key schema.keyTypes

/-- What `validateValues` accepts. -/
def ValidValues (schema : TableSchema S) (values : List S.Value) : Prop :=
  values.length = schema.values.length ∧ Typed values schema.valueTypes

instance (schema : TableSchema S) (key : Key S) : Decidable (schema.ValidKey key) :=
  inferInstanceAs (Decidable (_ ∧ _))

instance (schema : TableSchema S) (values : List S.Value) : Decidable (schema.ValidValues values) :=
  inferInstanceAs (Decidable (_ ∧ _))

/-- Both checks: the arity, then the type of each column.  `part` is `key` or
`value`. -/
def validatePart (part : String) (arity : Nat) (types : List S.ValueType) (values : List S.Value) :
    Except TCError (List S.Value) :=
  if values.length ≠ arity then
    .error (.badRequest
      s!"{part} arity {values.length} does not match schema {part} arity {arity}")
  else
    match checkTypes (fun column expected actual => .badRequest
        s!"{part} column {column} expected {S.debugType expected} but got {S.debugType actual}")
        0 values types with
    | .error error => .error error
    | .ok () => .ok values

def validateKey (schema : TableSchema S) (key : Key S) : Except TCError (Key S) :=
  validatePart "key" schema.key.length schema.keyTypes key

def validateValues (schema : TableSchema S) (values : List S.Value) :
    Except TCError (List S.Value) :=
  validatePart "value" schema.values.length schema.valueTypes values

theorem validatePart_eq_ok_iff {part : String} {arity : Nat} {types : List S.ValueType}
    {values accepted : List S.Value} :
    validatePart part arity types values = .ok accepted <->
      (values.length = arity ∧ Typed values types) ∧ accepted = values := by
  unfold validatePart
  by_cases arityMatches : values.length = arity
  · rw [if_neg (not_not_intro arityMatches)]
    split
    · rename_i error rejected
      constructor
      · intro impossible
        cases impossible
      · rintro ⟨⟨_, typed⟩, _⟩
        rw [(checkTypes_eq_ok_iff _ 0 values types).mpr typed] at rejected
        cases rejected
    · rename_i checked
      constructor
      · intro same
        cases same
        exact ⟨⟨arityMatches, (checkTypes_eq_ok_iff _ 0 values types).mp checked⟩, rfl⟩
      · rintro ⟨_, rfl⟩
        rfl
  · rw [if_pos arityMatches]
    constructor
    · intro impossible
      cases impossible
    · rintro ⟨⟨same, _⟩, _⟩
      exact absurd same arityMatches

theorem validateKey_eq_ok_iff {schema : TableSchema S} {key accepted : Key S} :
    schema.validateKey key = .ok accepted <-> schema.ValidKey key ∧ accepted = key :=
  validatePart_eq_ok_iff

theorem validateValues_eq_ok_iff {schema : TableSchema S} {values accepted : List S.Value} :
    schema.validateValues values = .ok accepted <-> schema.ValidValues values ∧ accepted = values :=
  validatePart_eq_ok_iff

end TableSchema

/-! ## Ranges -/

/-- `b_table::ColumnRange`. -/
inductive ColumnRange (S : Signature) where
  | eq (value : S.Value)
  | within (bounds : Bounds S)

def ColumnRange.admits : ColumnRange S -> S.Value -> Bool
  | .eq expected, value => compare expected value == .eq
  | .within bounds, value => bounds.admits value

/-- `b_table::Range`: the columns it bounds. -/
abbrev Range (S : Signature) := S.Id -> Option (ColumnRange S)

namespace Range

/-- `Range::default()` bounds no column. -/
def default : Range S := fun _ => none

def insert (range : Range S) (name : S.Id) (column : ColumnRange S) : Range S :=
  fun other => if other = name then some column else range other

end Range

namespace TableSchema

/-- A row satisfies a range if each bounded column admits its value. -/
def admits (schema : TableSchema S) (range : Range S) (row : Row S) : Bool :=
  (schema.columns.zip row).all (fun column => (range column.1).all (fun bound => bound.admits column.2))

/-- The key columns satisfy the range. -/
def admitsKey (schema : TableSchema S) (range : Range S) (key : Key S) : Bool :=
  (schema.key.zip key).all (fun column => (range column.1).all (fun bound => bound.admits column.2))

/-- The range is a map by the names of the columns: of two columns of one name the later
one counts. -/
def rangeFromKey (schema : TableSchema S) (key : Key S) : Except TCError (Range S) :=
  if key.length ≠ schema.key.length then
    .error (.badRequest
      s!"key arity {key.length} does not match schema key arity {schema.key.length}")
  else
    .ok ((schema.key.zip key).foldl (fun range column => range.insert column.1 (.eq column.2))
      Range.default)

@[simp] theorem admits_default (schema : TableSchema S) (row : Row S) :
    schema.admits Range.default row = true := by
  simp [admits, Range.default]

end TableSchema

/-- The key columns of a row. -/
def keyOf (schema : TableSchema S) (row : Row S) : Key S := row.take schema.key.length

/-! ## Schemas as values -/

/-- The part of `Value` which schemas are written in. -/
inductive SchemaValue (S : Signature) where
  | string (text : String)
  | dtype (type : S.ValueType)
  | tuple (items : List (SchemaValue S))

namespace SchemaValue

mutual

/-- Equality of values, item by item. -/
def decEq : (left right : SchemaValue S) -> Decidable (left = right)
  | .string left, .string right => decidable_of_iff (left = right) (by simp)
  | .dtype left, .dtype right => decidable_of_iff (left = right) (by simp)
  | .tuple left, .tuple right =>
      match decEqItems left right with
      | .isTrue same => .isTrue (by rw [same])
      | .isFalse different => .isFalse (by simpa using different)
  | .string _, .dtype _ | .string _, .tuple _ | .dtype _, .string _ | .dtype _, .tuple _
  | .tuple _, .string _ | .tuple _, .dtype _ => .isFalse (by simp)

def decEqItems : (left right : List (SchemaValue S)) -> Decidable (left = right)
  | [], [] => .isTrue rfl
  | left :: lefts, right :: rights =>
      match decEq left right, decEqItems lefts rights with
      | .isTrue head, .isTrue tail => .isTrue (by rw [head, tail])
      | .isFalse different, _ => .isFalse (by simp [different])
      | _, .isFalse different => .isFalse (by simp [different])
  | [], _ :: _ | _ :: _, [] => .isFalse (by simp)

end

instance : DecidableEq (SchemaValue S) := decEq

end SchemaValue

namespace TableSchema

def castColumns (names : List S.Id) (types : List S.ValueType) : SchemaValue S :=
  .tuple ((names.zip types).map (fun column =>
    .tuple [.string (S.displayId column.1), .dtype column.2]))

/-- `Value::cast_from`: the columns, and the indices without their key columns. -/
def castFrom (schema : TableSchema S) : SchemaValue S :=
  .tuple [
    .tuple [castColumns schema.key schema.keyTypes, castColumns schema.values schema.valueTypes],
    .tuple (schema.indices.map (fun index =>
      .tuple [.string index.1,
        .tuple ((index.2.columnNames.take (index.2.columnNames.length - schema.key.length)).map
          (fun name => .string (S.displayId name)))]))]

end TableSchema

/-! ## Construction -/

namespace TableIndexSchema

def new (columns : List (Column S)) (storage : StorageConfig) : Except TCError (TableIndexSchema S) :=
  if empty : columns = [] then .error (.badRequest "table index must have at least one column")
  else .ok {
    columnNames := columns.map Column.name
    columnTypes := columns.map Column.dtype
    storage := storage
    columns_pos := by simpa using empty
    types_length := by simp }

theorem new_eq_ok {columns : List (Column S)} {storage : StorageConfig} {index : TableIndexSchema S}
    (built : new columns storage = .ok index) :
    index.columnNames = columns.map Column.name ∧ index.columnTypes = columns.map Column.dtype ∧
      index.storage = storage := by
  unfold new at built
  split at built
  · cases built
  · cases built
    exact ⟨rfl, rfl, rfl⟩

end TableIndexSchema

namespace TableSchema

/-- The column map: of two columns of one name the later one is found. -/
def findColumn (columns : List (Column S)) (name : S.Id) : Option (Column S) :=
  columns.reverse.find? (fun column => decide (column.name = name))

/-- An auxiliary index of the schema: its columns, then the key columns. -/
abbrev Auxiliary (key : List (Column S)) :=
  { index : String × TableIndexSchema S //
    exists columns, index.2.columnNames = columns ++ key.map Column.name }

/-- One round of the loop over the indices. -/
def newIndex (key values : List (Column S)) (storage : StorageConfig) (index : String × List S.Id) :
    Except TCError (Auxiliary key) := do
  let columns <- index.2.mapM (fun name =>
    match findColumn (key ++ values) name with
    | some column => .ok column
    | none => .error (.badRequest
        s!"index {index.1} references nonexistent column {S.displayId name}"))
  match built : TableIndexSchema.new (columns ++ key) storage with
  | .error error => .error error
  | .ok schema => .ok ⟨(index.1, schema), columns.map Column.name, by
      rw [(TableIndexSchema.new_eq_ok built).1, List.map_append]⟩

def new (key values : List (Column S)) (indices : List (String × List S.Id)) (storage : StorageConfig) :
    Except TCError (TableSchema S) :=
  if empty : key = [] then .error (.badRequest "table schema must have at least one key column")
  else
    match built : TableIndexSchema.new (key ++ values) storage with
    | .error error => .error error
    | .ok primary => do
        let auxiliary <- indices.mapM (newIndex key values storage)
        return {
          key := key.map Column.name
          values := values.map Column.name
          primary := primary
          indices := auxiliary.map Subtype.val
          key_pos := by simpa using empty
          primary_names := by rw [(TableIndexSchema.new_eq_ok built).1, List.map_append]
          indices_names := by
            intro index member
            rcases List.mem_map.mp member with ⟨index, _, rfl⟩
            exact index.2 }

def storage (schema : TableSchema S) : StorageConfig := schema.primary.storage

/-- All column definitions in row order. -/
def columnSchema (schema : TableSchema S) : List (Column S) :=
  List.zipWith Column.mk schema.columns schema.primary.columnTypes

/-- The columns which a selection keeps. -/
def selected (schema : TableSchema S) (columns : List S.Id) : List (Column S) :=
  schema.columnSchema.filter (fun column => decide (column.name ∈ columns))

/-- The schema of a selection, and its columns in row order. -/
def project (schema : TableSchema S) (columns : List S.Id) :
    Except TCError (TableSchema S × List S.Id) :=
  match columns.find? (fun column => decide (column ∉ schema.columns)) with
  | some column => .error (.notFound s!"column not found: {S.displayId column}")
  | none =>
      match schema.key.find? (fun key => decide (key ∉ columns)) with
      | some key => .error (.badRequest
          s!"Table selection must include key column {S.displayId key}")
      | none => do
          let selected := schema.selected columns
          let projected <- new (selected.take schema.key.length) (selected.drop schema.key.length) []
            schema.storage
          return (projected, selected.map Column.name)

end TableSchema

end Table
end TransactionalCollection
