import TransactionalCollection.Native.Forms
import TransactionalCollection.Table.Projection

namespace TransactionalCollection
namespace Table

open Execution Native

/-!
# Table schemas read back from values

A schema is written as a value, with its columns in pairs of a name and a type
and its indices without their key columns.  Storage is not written.  Read back,
a constructed schema comes out as it was but for its storage, which is the
default.

The test for a cast looks at the shape of a value only.  It does not look for
columns which an index names, nor for a key, so a value can pass it and still
not be cast.
-/

variable {S : Signature} (forms : ValueForms S)

namespace SchemaValue

mutual

/-- The value which a schema is written as. -/
def toValue : SchemaValue S -> S.Value
  | .string text => forms.string text
  | .dtype type => forms.ofType type
  | .tuple items => forms.tuple (toValues items)

def toValues : List (SchemaValue S) -> List S.Value
  | [] => []
  | item :: items => toValue item :: toValues items

end

theorem toValues_eq_map (items : List (SchemaValue S)) :
    toValues forms items = items.map (toValue forms) := by
  induction items with
  | nil => rfl
  | cons item items inductionHypothesis => rw [toValues, List.map_cons, inductionHypothesis]

end SchemaValue

/-! ## Casts from values -/

namespace Column

def canCastFrom (value : S.Value) : Bool :=
  match forms.form value with
  | .tuple [name, dtype] =>
      match forms.form name with
      | .string _ => forms.canCastType dtype
      | _ => false
  | _ => false

def optCastFrom (value : S.Value) : Option (Column S) :=
  match forms.form value with
  | .tuple [name, dtype] =>
      match forms.form name with
      | .string text => do
          let name <- forms.parseId text
          let dtype <- forms.optCastType dtype
          return ⟨name, dtype⟩
      | _ => none
  | _ => none

/-- The pair which a column is written as. -/
def castFrom (column : Column S) : SchemaValue S :=
  .tuple [.string (S.displayId column.name), .dtype column.dtype]

theorem castFrom_toValue (column : Column S) : column.castFrom.toValue forms =
    forms.tuple [forms.string (S.displayId column.name), forms.ofType column.dtype] := by
  rw [castFrom, SchemaValue.toValue, SchemaValue.toValues_eq_map]
  rfl

theorem canCastFrom_castFrom (column : Column S) :
    canCastFrom forms (column.castFrom.toValue forms) = true := by
  rw [castFrom_toValue, canCastFrom, forms.form_tuple]
  simp [forms.canCastType_eq, forms.optCastType_ofType]

theorem optCastFrom_castFrom (column : Column S) :
    optCastFrom forms (column.castFrom.toValue forms) = some column := by
  rw [castFrom_toValue, optCastFrom, forms.form_tuple]
  simp [forms.parseId_displayId, forms.optCastType_ofType]

end Column

def isColumnList (value : S.Value) : Bool :=
  match forms.form value with
  | .tuple items => items.all (Column.canCastFrom forms)
  | _ => false

def isIndexList (value : S.Value) : Bool :=
  match forms.form value with
  | .none => true
  | .tuple items => items.all forms.canCastIndex
  | _ => false

def castColumnList (value : S.Value) : Option (List (Column S)) :=
  match forms.form value with
  | .tuple items => items.mapM (Column.optCastFrom forms)
  | _ => none

def castIndexList (value : S.Value) : Option (List (String × List S.Id)) :=
  match forms.form value with
  | .none => some []
  | .tuple items => items.mapM forms.optCastIndex
  | _ => none

namespace TableSchema

def canCastFrom (value : S.Value) : Bool :=
  match forms.form value with
  | .tuple [columns, indices] =>
      match forms.form columns with
      | .tuple [key, values] =>
          isColumnList forms key && isColumnList forms values && isIndexList forms indices
      | _ => false
  | _ => false

def optCastFrom (value : S.Value) : Option (TableSchema S) :=
  match forms.form value with
  | .tuple [columns, indices] =>
      match forms.form columns with
      | .tuple [key, values] => do
          let key <- castColumnList forms key
          let values <- castColumnList forms values
          let indices <- castIndexList forms indices
          (new key values indices {}).toOption
      | _ => none
  | _ => none

end TableSchema

/-! ## Storage makes no difference -/

/-- The columns of an index, under its name. -/
def indexEntry (index : String × TableIndexSchema S) : String × List S.Id × List S.ValueType :=
  (index.1, index.2.columnNames, index.2.columnTypes)

/-- An index without the key columns at its end. -/
def ownColumns (keyLength : Nat) (entry : String × List S.Id × List S.ValueType) : String × List S.Id :=
  (entry.1, entry.2.1.take (entry.2.1.length - keyLength))

/-- The pair which an index is written as. -/
def castIndex (index : String × List S.Id) : SchemaValue S :=
  .tuple [.string index.1, .tuple (index.2.map (fun name => .string (S.displayId name)))]

theorem TableSchema.castFrom_eq (schema : TableSchema S) :
    schema.castFrom = .tuple [
      .tuple [castColumns schema.key schema.keyTypes, castColumns schema.values schema.valueTypes],
      .tuple (((schema.indices.map indexEntry).map (ownColumns schema.key.length)).map castIndex)] := by
  rw [castFrom, List.map_map, List.map_map]
  rfl

/-- Schemas with the same columns and indices, however storage is laid out. -/
structure SameSemantics (first second : TableSchema S) : Prop where
  key : second.key = first.key
  values : second.values = first.values
  types : second.primary.columnTypes = first.primary.columnTypes
  indices : second.indices.map indexEntry = first.indices.map indexEntry

namespace SameSemantics

variable {first second : TableSchema S}

theorem castFrom_eq (same : SameSemantics first second) : second.castFrom = first.castFrom := by
  rw [TableSchema.castFrom_eq, TableSchema.castFrom_eq, same.indices, TableSchema.keyTypes,
    TableSchema.keyTypes, TableSchema.valueTypes, TableSchema.valueTypes, same.types, same.key,
    same.values]

theorem keyOf_eq (same : SameSemantics first second) (row : Row S) : keyOf second row = keyOf first row := by
  rw [keyOf, keyOf, same.key]

theorem validRow_iff (same : SameSemantics first second) {row : Row S} :
    ValidRow second row <-> ValidRow first row := by
  rw [Table.validRow_iff, Table.validRow_iff, TableSchema.columns, TableSchema.columns, same.key,
    same.values, same.types]

end SameSemantics

theorem TableIndexSchema.new_restorage {columns : List (Column S)} {storage : StorageConfig}
    {schema : TableIndexSchema S} (built : new columns storage = .ok schema) (other : StorageConfig) :
    exists restored, new columns other = .ok restored := by
  by_cases empty : columns = []
  · rw [new, dif_pos empty] at built
    cases built
  · rw [new, dif_neg empty]
    exact ⟨_, rfl⟩

namespace TableSchema

variable {key values : List (Column S)} {storage : StorageConfig}

theorem findColumn_name {columns : List (Column S)} {name : S.Id} {column : Column S}
    (found : findColumn columns name = some column) : column.name = name := by
  have named := List.find?_some found
  simpa using named

/-- Columns found under their names have these names. -/
theorem mapM_findColumn {find : S.Id -> Except TCError (Column S)}
    (finds : forall name column, find name = .ok column -> column.name = name) {names : List S.Id}
    {columns : List (Column S)} (found : names.mapM find = .ok columns) :
    columns.map Column.name = names := by
  induction names generalizing columns with
  | nil =>
      cases found
      rfl
  | cons name names inductionHypothesis =>
      rw [List.mapM_cons] at found
      rcases except_bind_eq_ok.mp found with ⟨column, first, rest⟩
      rcases except_bind_eq_ok.mp rest with ⟨later, others, same⟩
      cases same
      rw [List.map_cons, finds name column first, inductionHypothesis others]

/-- One index is constructed alike over any storage. -/
theorem newIndex_restorage {index : String × List S.Id} {auxiliary : Auxiliary key}
    (built : newIndex key values storage index = .ok auxiliary) (other : StorageConfig) :
    auxiliary.val.1 = index.1 ∧ auxiliary.val.2.columnNames = index.2 ++ key.map Column.name ∧
      exists restored, newIndex key values other index = .ok restored ∧
        indexEntry restored.val = indexEntry auxiliary.val := by
  unfold newIndex at built ⊢
  rcases except_bind_eq_ok.mp built with ⟨columns, found, rest⟩
  have names : columns.map Column.name = index.2 := by
    apply mapM_findColumn ?_ found
    intro name column one
    cases searched : findColumn (key ++ values) name with
    | none =>
        simp only [searched] at one
        cases one
    | some column =>
        simp only [searched] at one
        cases one
        exact findColumn_name searched
  split at rest
  · cases rest
  · rename_i schema constructed
    cases rest
    rcases TableIndexSchema.new_eq_ok constructed with ⟨columnNames, columnTypes, _⟩
    refine ⟨rfl, ?_, ?_⟩
    · rw [columnNames, List.map_append, names]
    · rcases TableIndexSchema.new_restorage constructed other with ⟨restored, reconstructed⟩
      rcases TableIndexSchema.new_eq_ok reconstructed with ⟨sameNames, sameTypes, _⟩
      have split : restored.columnNames = columns.map Column.name ++ key.map Column.name := by
        rw [sameNames, List.map_append]
      refine ⟨⟨(index.1, restored), columns.map Column.name, split⟩, ?_, ?_⟩
      · apply except_bind_eq_ok.mpr
        refine ⟨columns, found, ?_⟩
        split
        · rename_i error failed
          cases failed.symm.trans reconstructed
        · rename_i again same
          cases same.symm.trans reconstructed
          rfl
      · simp only [indexEntry, sameNames, sameTypes, columnNames, columnTypes]

/-- So are all of them, and they are written as they were given. -/
theorem newIndices_restorage {indices : List (String × List S.Id)} {auxiliary : List (Auxiliary key)}
    (built : indices.mapM (newIndex key values storage) = .ok auxiliary) (other : StorageConfig) :
    (auxiliary.map Subtype.val).map (fun index => ownColumns key.length (indexEntry index)) = indices ∧
      exists restored, indices.mapM (newIndex key values other) = .ok restored ∧
        (restored.map Subtype.val).map indexEntry = (auxiliary.map Subtype.val).map indexEntry := by
  induction indices generalizing auxiliary with
  | nil =>
      cases built
      exact ⟨rfl, [], rfl, rfl⟩
  | cons index indices inductionHypothesis =>
      rw [List.mapM_cons] at built
      rcases except_bind_eq_ok.mp built with ⟨first, one, rest⟩
      rcases except_bind_eq_ok.mp rest with ⟨later, others, same⟩
      cases same
      rcases newIndex_restorage one other with ⟨name, columns, restored, again, entry⟩
      rcases inductionHypothesis others with ⟨written, restoredLater, againLater, entries⟩
      constructor
      · rw [List.map_cons, List.map_cons, written]
        congr 1
        rw [ownColumns, indexEntry, name, columns, List.length_append, List.length_map,
          Nat.add_sub_cancel, List.take_left]
      · refine ⟨restored :: restoredLater, ?_, ?_⟩
        · rw [List.mapM_cons]
          apply except_bind_eq_ok.mpr
          refine ⟨restored, again, except_bind_eq_ok.mpr ⟨restoredLater, againLater, rfl⟩⟩
        · rw [List.map_cons, List.map_cons, List.map_cons, List.map_cons, entry, entries]

/-- A schema is constructed alike over any storage. -/
theorem new_restorage {indices : List (String × List S.Id)} {schema : TableSchema S}
    (built : new key values indices storage = .ok schema) (other : StorageConfig) :
    exists restored, new key values indices other = .ok restored ∧ SameSemantics schema restored := by
  rcases new_eq_ok built with ⟨keys, names, types, auxiliary, indexed, indexes⟩
  rcases (newIndices_restorage indexed other).2 with ⟨restoredIndices, again, entries⟩
  have nonempty : key ≠ [] := by
    intro empty
    apply schema.key_pos
    rw [keys, empty]
    rfl
  have primary : exists primary, TableIndexSchema.new (key ++ values) other = .ok primary := by
    rw [TableIndexSchema.new, dif_neg (fun empty => nonempty (List.append_eq_nil_iff.mp empty).1)]
    exact ⟨_, rfl⟩
  have done : exists restored, new key values indices other = .ok restored := by
    rcases primary with ⟨primary, constructed⟩
    unfold new
    rw [dif_neg nonempty]
    split
    · rename_i error failed
      cases failed.symm.trans constructed
    · rw [again]
      exact ⟨_, rfl⟩
  rcases done with ⟨restored, reconstructed⟩
  rcases new_eq_ok reconstructed with ⟨sameKeys, sameNames, sameTypes, sameIndices, reindexed, reindexes⟩
  cases again.symm.trans reindexed
  refine ⟨restored, reconstructed, ⟨?_, ?_, ?_, ?_⟩⟩
  · rw [sameKeys, keys]
  · rw [sameNames, names]
  · rw [sameTypes, types]
  · rw [reindexes, indexes, entries]

/-! ## The round trip -/

/-- The columns of a schema, written and read back. -/
theorem castColumns_eq (columns : List (Column S)) :
    castColumns (columns.map Column.name) (columns.map Column.dtype) =
      .tuple (columns.map Column.castFrom) := by
  rw [castColumns, List.zip_map', List.map_map]
  rfl

theorem columnList_castColumns (columns : List (Column S)) :
    isColumnList forms
        ((castColumns (columns.map Column.name) (columns.map Column.dtype)).toValue forms) = true ∧
      castColumnList forms
        ((castColumns (columns.map Column.name) (columns.map Column.dtype)).toValue forms) = some columns := by
  rw [castColumns_eq, SchemaValue.toValue, SchemaValue.toValues_eq_map, List.map_map, isColumnList,
    castColumnList, forms.form_tuple]
  constructor
  · apply List.all_eq_true.mpr
    intro value member
    rcases List.mem_map.mp member with ⟨column, _, rfl⟩
    exact column.canCastFrom_castFrom forms
  · exact mapM_undoes (fun column _ => column.optCastFrom_castFrom forms)

theorem castIndex_toValue (index : String × List S.Id) :
    (castIndex index).toValue forms = forms.tuple [forms.string index.1,
      forms.tuple (index.2.map (fun name => forms.string (S.displayId name)))] := by
  have names : (index.2.map (fun name => SchemaValue.string (S.displayId name))).map
      (SchemaValue.toValue forms) = index.2.map (fun name => forms.string (S.displayId name)) := by
    rw [List.map_map]
    rfl
  rw [castIndex, SchemaValue.toValue, SchemaValue.toValues_eq_map, List.map_cons, List.map_singleton,
    SchemaValue.toValue, SchemaValue.toValue, SchemaValue.toValues_eq_map, names]

theorem indexList_castIndex (indices : List (String × List S.Id)) :
    isIndexList forms ((SchemaValue.tuple (indices.map castIndex)).toValue forms) = true ∧
      castIndexList forms ((SchemaValue.tuple (indices.map castIndex)).toValue forms) = some indices := by
  have casts : forall index : String × List S.Id,
      forms.optCastIndex ((castIndex index).toValue forms) = some index := by
    intro index
    rw [castIndex_toValue, forms.optCastIndex_tuple]
  rw [SchemaValue.toValue, SchemaValue.toValues_eq_map, List.map_map, isIndexList, castIndexList,
    forms.form_tuple]
  constructor
  · apply List.all_eq_true.mpr
    intro value member
    rcases List.mem_map.mp member with ⟨index, _, rfl⟩
    rw [forms.canCastIndex_eq]
    exact congrArg Option.isSome (casts index)
  · exact mapM_undoes (fun index _ => casts index)

/-- A constructed schema passes the test, and is read back as it was written. -/
theorem optCastFrom_castFrom {indices : List (String × List S.Id)} {schema : TableSchema S}
    (built : new key values indices storage = .ok schema) :
    canCastFrom forms (schema.castFrom.toValue forms) = true ∧
      exists decoded, optCastFrom forms (schema.castFrom.toValue forms) = some decoded ∧
        SameSemantics schema decoded := by
  rcases new_eq_ok built with ⟨keys, names, types, auxiliary, indexed, indexes⟩
  have keyTypes : schema.keyTypes = key.map Column.dtype := by
    rw [TableSchema.keyTypes, types, keys, List.length_map, List.map_append]
    exact List.take_left' (List.length_map _)
  have valueTypes : schema.valueTypes = values.map Column.dtype := by
    rw [TableSchema.valueTypes, types, keys, List.length_map, List.map_append]
    exact List.drop_left' (List.length_map _)
  have own : (schema.indices.map indexEntry).map (ownColumns schema.key.length) = indices := by
    rw [indexes, keys, List.length_map, List.map_map]
    exact (newIndices_restorage indexed storage).1
  have written : schema.castFrom.toValue forms = forms.tuple [
      forms.tuple [(castColumns (key.map Column.name) (key.map Column.dtype)).toValue forms,
        (castColumns (values.map Column.name) (values.map Column.dtype)).toValue forms],
      (SchemaValue.tuple (indices.map castIndex)).toValue forms] := by
    rw [castFrom_eq, own, keys, names, keyTypes, valueTypes]
    rfl
  rcases columnList_castColumns forms key with ⟨isKey, castKey⟩
  rcases columnList_castColumns forms values with ⟨isValues, castValues⟩
  rcases indexList_castIndex forms indices with ⟨isIndices, castIndices⟩
  rcases new_restorage built {} with ⟨decoded, reconstructed, same⟩
  rw [written, canCastFrom, optCastFrom, forms.form_tuple]
  dsimp only
  rw [forms.form_tuple]
  dsimp only
  rw [isKey, isValues, isIndices, castKey, castValues, castIndices]
  refine ⟨rfl, decoded, ?_, same⟩
  change (new key values indices {}).toOption = some decoded
  rw [reconstructed]
  rfl

end TableSchema

end Table
end TransactionalCollection
