import TransactionalCollection.Collection.Copy
import TransactionalCollection.Table.Storage

namespace TransactionalCollection
namespace Collection

open Native

/-!
# Schemas of collections

A schema is kept as the path of its class and a value.  Reopening a collection
reads the schema back: the columns of a tree come out as they were, and so does
the schema of a table but for its storage.  There is no persistent tensor.
-/

variable {S : Signature} {forms : ValueForms S}

/-! ## Classes -/

/-- The classes of collections. -/
inductive CollectionType where
  | btree
  | table
  | tensor
  deriving DecidableEq, Repr

namespace CollectionType

def path : CollectionType -> List String
  | .btree => ["state", "collection", "btree"]
  | .table => ["state", "collection", "table"]
  | .tensor => ["state", "collection", "tensor"]

/-- `NativeClass::from_path` of one class: the path, segment by segment. -/
def named (type : CollectionType) (path : List String) : Option CollectionType :=
  if path.length = type.path.length ∧ (path.zip type.path).all (fun pair => pair.1 == pair.2) then some type
  else none

def fromPath (path : List String) : Option CollectionType :=
  (named .btree path <|> named .table path) <|> named .tensor path

/-- Each class is found under its path. -/
theorem fromPath_path (type : CollectionType) : fromPath type.path = some type := by
  cases type <;> rfl

end CollectionType

/-! ## Casts -/

namespace CollectionSchema

def type : CollectionSchema forms -> CollectionType
  | .btree _ => .btree
  | .table _ => .table

theorem toPair_path (schema : CollectionSchema forms) : schema.toPair.1 = schema.type.path := by
  cases schema <;> rfl

variable (forms) in
def optCastFrom (pair : List String × S.Value) : Option (CollectionSchema forms) := do
  match <- CollectionType.fromPath pair.1 with
  | .btree =>
      match forms.form pair.2 with
      | .tuple columns =>
          let columns <- columns.mapM Tree.BTreeColumnSchema.optCastFrom
          if Tree.BTreeSchema.canCastFrom columns then some (.btree columns) else none
      | _ => none
  | .table => (Table.TableSchema.optCastFrom forms pair.2).map .table
  | .tensor => none

variable (forms) in
def canCastFrom (pair : List String × S.Value) : Bool := (optCastFrom forms pair).isSome

theorem optCastFrom_btree {columns : List (Tree.BTreeColumnSchema forms)} (nonempty : columns ≠ []) :
    optCastFrom forms (CollectionSchema.btree columns).toPair = some (.btree columns) := by
  have read : (columns.map Tree.BTreeColumnSchema.toValue).mapM Tree.BTreeColumnSchema.optCastFrom =
      some columns := mapM_undoes (fun column _ => column.optCastFrom_toValue)
  have described : Tree.BTreeSchema.canCastFrom columns = true := by
    rw [Tree.BTreeSchema.canCastFrom, List.isEmpty_eq_false_iff.mpr nonempty]
    rfl
  rw [optCastFrom, toPair_path, CollectionType.fromPath_path]
  change (match forms.form (forms.tuple (columns.map Tree.BTreeColumnSchema.toValue)) with
    | .tuple columns => do
        let columns <- columns.mapM Tree.BTreeColumnSchema.optCastFrom
        if Tree.BTreeSchema.canCastFrom columns then some (CollectionSchema.btree columns) else none
    | _ => none) = _
  rw [forms.form_tuple]
  dsimp only
  rw [read]
  exact if_pos described

theorem optCastFrom_table (schema : Table.TableSchema S) :
    optCastFrom forms (CollectionSchema.table schema : CollectionSchema forms).toPair =
      (Table.TableSchema.optCastFrom forms (schema.castFrom.toValue forms)).map .table := by
  rw [optCastFrom, toPair_path, CollectionType.fromPath_path]
  rfl

/-- A schema survives its pair of a path and a value: the columns of a tree come
back, a table's schema comes back laid out by default, and tables' schemas are
written alike if and only if they are equal in one layout. -/
theorem survives (forms : ValueForms S) :
    (forall columns : List (Tree.BTreeColumnSchema forms), columns ≠ [] ->
      optCastFrom forms (CollectionSchema.btree columns).toPair = some (.btree columns)) ∧
    (forall schema : Table.TableSchema S, schema.Constructed ->
      optCastFrom forms (CollectionSchema.table schema : CollectionSchema forms).toPair =
        some (.table (schema.withStorage {}))) ∧
    (forall first second : Table.TableSchema S, first.Constructed -> second.Constructed ->
      ((CollectionSchema.table first : CollectionSchema forms).toPair.2 =
          (CollectionSchema.table second : CollectionSchema forms).toPair.2 <->
        first.withStorage {} = second.withStorage {})) := by
  refine ⟨?_, ?_, ?_⟩
  · intro columns nonempty
    exact optCastFrom_btree nonempty
  · intro schema constructed
    rw [optCastFrom_table, constructed.optCastFrom_castFrom forms]
    rfl
  · intro first second constructed otherConstructed
    exact constructed.toValue_eq_iff forms otherConstructed

/-- An index of the value, an index of both columns in which the key comes twice,
and an index of its own of no column. -/
def numberedIndices : List (String × List String) :=
  [("by value", ["value"]), ("by both", ["value", "key", "key"]), ("by key", [])]

def numberColumn (name : String) : Table.Column Signature.data := ⟨name, DatumType.number⟩

/-- A column of a tree, of at most eight bytes. -/
def sized : List (Tree.BTreeColumnSchema ValueForms.data) := [⟨"name", DatumType.number, some (8 : Nat)⟩]

theorem survives_numbered : exists schema : Table.TableSchema Signature.data,
    Table.TableSchema.new [numberColumn "key"] [numberColumn "value"] numberedIndices ⟨8192, 16⟩ = .ok schema ∧
      optCastFrom ValueForms.data (CollectionSchema.btree sized).toPair = some (.btree sized) ∧
      optCastFrom ValueForms.data (CollectionSchema.table schema : CollectionSchema ValueForms.data).toPair =
        some (.table (schema.withStorage {})) := by
  have built : exists schema, Table.TableSchema.new [numberColumn "key"] [numberColumn "value"] numberedIndices
      ⟨8192, 16⟩ = .ok schema := ⟨_, rfl⟩
  rcases built with ⟨schema, built⟩
  rcases survives ValueForms.data with ⟨trees, tables, _⟩
  exact ⟨schema, built, trees sized (List.cons_ne_nil _ _), tables schema ⟨_, _, _, _, built⟩⟩

end CollectionSchema

end Collection
end TransactionalCollection
