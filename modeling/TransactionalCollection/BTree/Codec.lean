import TransactionalCollection.BTree.File
import TransactionalCollection.Native.Forms

namespace TransactionalCollection
namespace Tree

open Native

/-!
# Column schemas of a tree

A tree is described by named columns.  Only their types reach the native schema;
names and size limits are kept with the views of the tree.
-/

variable {S : Signature}

structure BTreeColumnSchema (forms : ValueForms S) where
  name : String
  dtype : S.ValueType
  maxSize : Option forms.Number

namespace BTreeColumnSchema

variable {forms : ValueForms S}

/-- `Value::from`: the name, the path of the type and the size limit, if any. -/
def toValue (column : BTreeColumnSchema forms) : S.Value :=
  forms.tuple ([forms.string column.name, forms.string (forms.typePath column.dtype)] ++
    (column.maxSize.map forms.number).toList)

/-- A size limit, which must be a number. -/
def castSize (value : S.Value) : Option forms.Number :=
  match forms.form value with
  | .number size => some size
  | _ => none

/-- The name, the type and the size limit of a column. -/
def castFields (name dtype : S.Value) (size : Option S.Value) : Option (BTreeColumnSchema forms) :=
  match forms.form name, forms.form dtype with
  | .string name, .string path => do
      let maxSize <- match size with
        | some size => (castSize size).map some
        | none => some none
      let dtype <- forms.typeFromPath path
      return ⟨name, dtype, maxSize⟩
  | _, _ => none

def optCastFrom (value : S.Value) : Option (BTreeColumnSchema forms) :=
  match forms.form value with
  | .tuple [name, dtype] => castFields name dtype none
  | .tuple [name, dtype, size] => castFields name dtype (some size)
  | _ => none

/-- A column is read back as it was written. -/
theorem optCastFrom_toValue (column : BTreeColumnSchema forms) :
    optCastFrom column.toValue = some column := by
  rcases column with ⟨name, dtype, maxSize⟩
  cases maxSize with
  | none => simp [optCastFrom, toValue, castFields, forms.typeFromPath_typePath]
  | some size => simp [optCastFrom, toValue, castFields, castSize, forms.typeFromPath_typePath]

end BTreeColumnSchema

namespace BTreeSchema

variable {forms : ValueForms S}

def canCastFrom (columns : List (BTreeColumnSchema forms)) : Bool := !columns.isEmpty

/-- The native schema which named columns describe. -/
def optCastFrom (columns : List (BTreeColumnSchema forms)) : Option (BTreeSchema S) :=
  if empty : columns = [] then none
  else some {
    storage := {}
    keyArity := columns.length
    keyTypes := some (columns.map BTreeColumnSchema.dtype)
    arity_pos := List.length_pos_iff.mpr empty
    arity_types := by
      intro types same
      rw [← Option.some.inj same, List.length_map] }

theorem arity_of_optCastFrom {columns : List (BTreeColumnSchema forms)} {native : BTreeSchema S}
    (described : optCastFrom columns = some native) : native.keyArity = columns.length := by
  unfold optCastFrom at described
  split at described
  · cases described
  · cases described
    rfl

end BTreeSchema

end Tree
end TransactionalCollection
