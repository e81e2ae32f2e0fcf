import TransactionalCollection.Native.Datum

namespace TransactionalCollection
namespace Native

/-!
# Forms of values

Routes and codecs look into values: a value is absent, a number, a text, a tuple
of values, or something they do not look into.  Names and types are written as
texts, and types and index definitions as values.  All of these forms belong to
the crates below; what is relied on here is that each is read back as it was
written, and that a test for a cast agrees with the cast.
-/

/-- `Value`, as far as it is matched on. -/
inductive ValueForm (Value Number : Type) where
  | none
  | number (value : Number)
  | string (text : String)
  | tuple (items : List Value)
  | other

structure ValueForms (S : Signature) where
  Number : Type
  form : S.Value -> ValueForm S.Value Number
  none : S.Value
  number : Number -> S.Value
  string : String -> S.Value
  tuple : List S.Value -> S.Value
  form_none_iff : forall {value}, form value = .none <-> value = none
  form_number_iff : forall {value size}, form value = .number size <-> value = number size
  form_string_iff : forall {value text}, form value = .string text <-> value = string text
  form_tuple_iff : forall {value items}, form value = .tuple items <-> value = tuple items
  /-- `Id::from_str`. -/
  parseId : String -> Option S.Id
  parseId_displayId : forall name, parseId (S.displayId name) = some name
  /-- `ValueType::path`, as a text. -/
  typePath : S.ValueType -> String
  /-- `PathBuf::from_str`, then `ValueType::from_path`. -/
  typeFromPath : String -> Option S.ValueType
  typeFromPath_typePath : forall dtype, typeFromPath (typePath dtype) = some dtype
  /-- `Value::cast_from`, of a type. -/
  ofType : S.ValueType -> S.Value
  canCastType : S.Value -> Bool
  optCastType : S.Value -> Option S.ValueType
  canCastType_eq : forall value, canCastType value = (optCastType value).isSome
  optCastType_ofType : forall dtype, optCastType (ofType dtype) = some dtype
  /-- The cast of a value to the name of an index and its columns. -/
  canCastIndex : S.Value -> Bool
  optCastIndex : S.Value -> Option (String × List S.Id)
  canCastIndex_eq : forall value, canCastIndex value = (optCastIndex value).isSome
  optCastIndex_tuple : forall name columns,
    optCastIndex (tuple [string name, tuple (columns.map (fun column => string (S.displayId column)))]) =
      some (name, columns)

namespace ValueForms

variable {S : Signature} (forms : ValueForms S)

@[simp] theorem form_none : forms.form forms.none = .none := forms.form_none_iff.mpr rfl
@[simp] theorem form_number (size : forms.Number) : forms.form (forms.number size) = .number size :=
  forms.form_number_iff.mpr rfl
@[simp] theorem form_string (text : String) : forms.form (forms.string text) = .string text :=
  forms.form_string_iff.mpr rfl
@[simp] theorem form_tuple (items : List S.Value) : forms.form (forms.tuple items) = .tuple items :=
  forms.form_tuple_iff.mpr rfl

end ValueForms

section Lists

variable {m : Type -> Type} [Monad m] [LawfulMonad m] {A B : Type}

/-- A traversal of which every step is pure. -/
theorem mapM_eq_map {step : A -> m B} {result : A -> B} {items : List A}
    (steps : forall item, item ∈ items -> step item = pure (result item)) :
    items.mapM step = pure (items.map result) := by
  induction items with
  | nil => rfl
  | cons item items inductionHypothesis =>
      rw [List.mapM_cons, steps item List.mem_cons_self, pure_bind,
        inductionHypothesis (fun later member => steps later (List.mem_cons_of_mem _ member)), pure_bind,
        List.map_cons]

/-- Reading a list back item by item. -/
theorem mapM_undoes {write : A -> B} {read : B -> m A} {items : List A}
    (undoes : forall item, item ∈ items -> read (write item) = pure item) :
    (items.map write).mapM read = pure items := by
  rw [List.mapM_map]
  have steps := mapM_eq_map undoes
  rwa [List.map_id'] at steps

end Lists

/-! ## The concrete vocabulary -/

namespace Datum

def form : Datum -> ValueForm Datum Nat
  | .none => .none
  | .number value => .number value
  | .text content => .string content
  | .dtype _ => .other
  | .tuple items => .tuple items

theorem form_none_iff {value : Datum} : value.form = .none <-> value = .none := by
  cases value <;> simp [form]

theorem form_number_iff {value : Datum} {size : Nat} :
    value.form = .number size <-> value = .number size := by
  cases value <;> simp [form]

theorem form_text_iff {value : Datum} {content : String} :
    value.form = .string content <-> value = .text content := by
  cases value <;> simp [form]

theorem form_tuple_iff {value : Datum} {items : List Datum} :
    value.form = .tuple items <-> value = .tuple items := by
  cases value <;> simp [form]

def castText : Datum -> Option String
  | .text content => some content
  | .none | .number _ | .dtype _ | .tuple _ => Option.none

def castType : Datum -> Option DatumType
  | .dtype type => some type
  | .none | .number _ | .text _ | .tuple _ => Option.none

/-- The name of an index, and its columns. -/
def castIndex : Datum -> Option (String × List String)
  | .tuple [.text name, .tuple columns] => (columns.mapM castText).map (fun columns => (name, columns))
  | _ => Option.none

theorem castIndex_tuple (name : String) (columns : List String) :
    castIndex (.tuple [.text name, .tuple (columns.map text)]) = some (name, columns) := by
  have read : (columns.map text).mapM castText = some columns := mapM_undoes (fun _ _ => rfl)
  rw [castIndex, read]
  rfl

end Datum

/-- The forms of numbers, texts, types and tuples. -/
def ValueForms.data : ValueForms Signature.data where
  Number := Nat
  form := Datum.form
  none := .none
  number := .number
  string := .text
  tuple := .tuple
  form_none_iff := Datum.form_none_iff
  form_number_iff := Datum.form_number_iff
  form_string_iff := Datum.form_text_iff
  form_tuple_iff := Datum.form_tuple_iff
  parseId name := some name
  parseId_displayId _ := rfl
  typePath := DatumType.name
  typeFromPath := DatumType.fromName
  typeFromPath_typePath := DatumType.fromName_name
  ofType := .dtype
  canCastType value := (Datum.castType value).isSome
  optCastType := Datum.castType
  canCastType_eq _ := rfl
  optCastType_ofType _ := rfl
  canCastIndex value := (Datum.castIndex value).isSome
  optCastIndex := Datum.castIndex
  canCastIndex_eq _ := rfl
  optCastIndex_tuple := Datum.castIndex_tuple

end Native
end TransactionalCollection
