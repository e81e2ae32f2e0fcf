import TransactionalCollection.Table.Scan

namespace TransactionalCollection
namespace Table

open Native

/-!
# Assigning the columns of an update

An update lists new values by column name, and its loop walks over the value
columns of a row by their position.  On a row of the schema's width this
replaces the listed values and leaves the key alone.  Whether the outcome is
valid does not depend on the row: it is so exactly when each listed value has
the type of its column.
-/

variable {S : Signature} {schema : TableSchema S}

/-- The value columns of a row. -/
def valuesOf (schema : TableSchema S) (row : Row S) : List S.Value := row.drop schema.key.length

/-- `values.get(name)`. -/
def listed (values : List (S.Id × S.Value)) (name : S.Id) : Option S.Value :=
  (values.find? (fun entry => decide (entry.1 = name))).map Prod.snd

/-- The values of a row once the listed ones are replaced. -/
def assigned (schema : TableSchema S) (values : List (S.Id × S.Value)) (old : List S.Value) :
    List S.Value :=
  List.zipWith (fun name value => (listed values name).getD value) schema.values old

/-- Each listed value has the type of its column. -/
def UpdateTyped (schema : TableSchema S) (values : List (S.Id × S.Value)) : Prop :=
  forall column, column ∈ schema.values.zip schema.valueTypes ->
    forall value, listed values column.1 = some value -> S.classOf value = column.2

instance (schema : TableSchema S) (values : List (S.Id × S.Value)) :
    Decidable (UpdateTyped schema values) :=
  decidable_of_iff (forall column, column ∈ schema.values.zip schema.valueTypes ->
      (listed values column.1).all (fun value => decide (S.classOf value = column.2)) = true) (by
    unfold UpdateTyped
    refine forall_congr' (fun column => imp_congr_right (fun _ => ?_))
    cases listed values column.1 <;> simp)

/-- The loop over the columns from some position on. -/
theorem assignColumns_from (values : List (S.Id × S.Value)) (names : List S.Id) (width : Nat) :
    forall (position : Nat) (done old : List S.Value), done.length = width + position ->
      old.length = names.length ->
      (names.zipIdx position).foldl
          (fun row column =>
            match values.find? (fun entry => decide (entry.1 = column.1)) with
            | some entry => row.set (width + column.2) entry.2
            | none => row) (done ++ old) =
        done ++ List.zipWith (fun name value => (listed values name).getD value) names old := by
  induction names with
  | nil =>
      intro position done old _ empty
      rw [List.length_eq_zero_iff.mp empty]
      rfl
  | cons name names inductionHypothesis =>
      intro position done old reached long
      cases old with
      | nil => cases long
      | cons value old =>
          have here : forall new : S.Value,
              (done ++ value :: old).set (width + position) new = (done ++ [new]) ++ old := by
            intro new
            rw [← reached, List.set_append_right _ _ (Nat.le_refl _), Nat.sub_self, List.set_cons_zero,
              List.append_assoc, List.singleton_append]
          have next : forall new : S.Value, (done ++ [new]).length = width + (position + 1) := by
            intro new
            rw [List.length_append, reached, List.length_singleton, Nat.add_assoc]
          rw [List.zipIdx_cons, List.foldl_cons, List.zipWith_cons_cons]
          unfold listed
          cases values.find? (fun entry => decide (entry.1 = name)) with
          | none =>
              have rest := inductionHypothesis (position + 1) (done ++ [value]) old (next value)
                (Nat.succ.inj long)
              rw [List.append_assoc, List.singleton_append] at rest
              refine rest.trans ?_
              rw [List.append_assoc]
              rfl
          | some entry =>
              refine (congrArg (List.foldl _ · _) (here entry.2)).trans ?_
              refine (inductionHypothesis (position + 1) (done ++ [entry.2]) old (next entry.2)
                (Nat.succ.inj long)).trans ?_
              rw [List.append_assoc]
              rfl

/-- On a row of the schema's width, the listed values are replaced. -/
theorem assignColumns_eq (values : List (S.Id × S.Value)) {key : Key S} {old : List S.Value}
    (arity : key.length = schema.key.length) (width : old.length = schema.values.length) :
    assignColumns schema values (key ++ old) = key ++ assigned schema values old :=
  assignColumns_from values schema.values schema.key.length 0 key old arity width

theorem assigned_length (values : List (S.Id × S.Value)) {old : List S.Value}
    (width : old.length = schema.values.length) :
    (assigned schema values old).length = schema.values.length := by
  rw [assigned, List.length_zipWith, width, Nat.min_self]

theorem valueTypes_length (schema : TableSchema S) :
    schema.valueTypes.length = schema.values.length := by
  rw [TableSchema.valueTypes, List.length_drop, schema.primary.types_length, schema.primary_names,
    List.length_append, Nat.add_sub_cancel_left]

/-- The outcome is valid exactly when the listed values are. -/
theorem validValues_assigned_iff (values : List (S.Id × S.Value)) {old : List S.Value}
    (valid : schema.ValidValues old) :
    schema.ValidValues (assigned schema values old) <-> UpdateTyped schema values := by
  have width := valid.1
  have typeWidth := valueTypes_length schema
  rw [TableSchema.ValidValues, and_iff_right (assigned_length values width)]
  have old_typed := valid.2
  unfold assigned UpdateTyped
  unfold Typed at old_typed ⊢
  generalize schema.values = names at width typeWidth ⊢
  generalize schema.valueTypes = types at typeWidth old_typed ⊢
  clear valid
  induction names generalizing old types with
  | nil => simp
  | cons name names inductionHypothesis =>
      cases old with
      | nil => cases width
      | cons value old =>
          cases types with
          | nil => cases typeWidth
          | cons type types =>
              simp only [List.zip_cons_cons, List.forall_mem_cons] at old_typed
              simp only [List.zipWith_cons_cons, List.zip_cons_cons, List.forall_mem_cons]
              apply and_congr
              · cases listed values name with
                | none => simp [old_typed.1]
                | some new => simp
              · exact inductionHypothesis (Nat.succ.inj width) types (Nat.succ.inj typeWidth)
                  old_typed.2

/-- A row made of a valid key and valid values. -/
structure ValidRow (schema : TableSchema S) (row : Row S) : Prop where
  key : schema.ValidKey (keyOf schema row)
  values : schema.ValidValues (valuesOf schema row)
  parts : row = keyOf schema row ++ valuesOf schema row

theorem ValidRow.of_parts {key : Key S} {values : List S.Value} (validKey : schema.ValidKey key)
    (validValues : schema.ValidValues values) :
    ValidRow schema (key ++ values) ∧ keyOf schema (key ++ values) = key ∧
      valuesOf schema (key ++ values) = values := by
  rcases take_append_of_arity validKey.1 values with ⟨keyed, valued⟩
  have keySame : keyOf schema (key ++ values) = key := keyed
  have valuesSame : valuesOf schema (key ++ values) = values := valued
  refine ⟨⟨?_, ?_, ?_⟩, keySame, valuesSame⟩
  · rwa [keySame]
  · rwa [valuesSame]
  · rw [keySame, valuesSame]

/-- A stored row is valid, and found under its key. -/
theorem TableLock.stored_row {table : TableLock schema} {row : Row S} (stored : row ∈ table.allRows) :
    ValidRow schema row ∧ table.rows[keyOf schema row]? = some (valuesOf schema row) := by
  rcases table.mem_allRows.mp stored with ⟨key, values, found, rfl⟩
  have valid := table.valid key values found
  rcases ValidRow.of_parts valid.1 valid.2 with ⟨validRow, keyed, valued⟩
  rw [keyed, valued]
  exact ⟨validRow, found⟩

/-- Assigning columns keeps the key of a row. -/
theorem ValidRow.assign_parts {row : Row S} (valid : ValidRow schema row)
    (values : List (S.Id × S.Value)) :
    assignColumns schema values row =
        keyOf schema row ++ assigned schema values (valuesOf schema row) ∧
      keyOf schema (assignColumns schema values row) = keyOf schema row ∧
      valuesOf schema (assignColumns schema values row) =
        assigned schema values (valuesOf schema row) := by
  have whole : assignColumns schema values row =
      keyOf schema row ++ assigned schema values (valuesOf schema row) := by
    rw [← assignColumns_eq values valid.key.1 valid.values.1, ← valid.parts]
  rw [keyOf, valuesOf, whole]
  exact ⟨rfl, take_append_of_arity valid.key.1 _⟩

end Table
end TransactionalCollection
