import TransactionalCollection.Execution.Traversals
import TransactionalCollection.Table.Payload

namespace TransactionalCollection
namespace Table

open Execution Native

/-!
# The test for a cast, and the cast

A value of a schema's shape lists texts and types of columns, and indices.  The
test for a cast passes on the values of this shape.  The cast also needs each text
to parse as a name, a key which is not empty, and columns for all the names in the
indices.  Where a value of the shape lacks one of these, the test and the cast
disagree, and unwrapping the cast panics.
-/

variable {S : Signature} {forms : ValueForms S}

/-! ## The shape of a schema -/

/-- A column's text and type, before the text has been parsed. -/
abbrev Heading (S : Signature) := String × S.ValueType

variable (forms) in
/-- A pair of a text and a type. -/
def Column.Written (value : S.Value) (heading : Heading S) : Prop :=
  exists name dtype, forms.form value = .tuple [name, dtype] ∧ forms.form name = .string heading.1 ∧
    forms.optCastType dtype = some heading.2

variable (forms) in
/-- The column which a heading describes, if its text is a name. -/
def Heading.column (heading : Heading S) : Option (Column S) :=
  (forms.parseId heading.1).map (fun name => ⟨name, heading.2⟩)

variable (forms) in
def ColumnsWritten (value : S.Value) (headings : List (Heading S)) : Prop :=
  exists items, forms.form value = .tuple items ∧ List.Forall₂ (Column.Written forms) items headings

variable (forms) in
def IndicesWritten (value : S.Value) (indices : List (String × List S.Id)) : Prop :=
  (forms.form value = .none ∧ indices = []) ∨
    exists items, forms.form value = .tuple items ∧
      List.Forall₂ (fun item index => forms.optCastIndex item = some index) items indices

variable (forms) in
/-- A value of a schema's shape, with what it lists. -/
structure TableSchema.Written (value : S.Value) (key values : List (Heading S))
    (indices : List (String × List S.Id)) : Prop where
  parts : exists columns indexList keyList valueList, forms.form value = .tuple [columns, indexList] ∧
    forms.form columns = .tuple [keyList, valueList] ∧ ColumnsWritten forms keyList key ∧
    ColumnsWritten forms valueList values ∧ IndicesWritten forms indexList indices

variable (forms) in
/-- What a schema needs beyond its shape: names, a key, and the columns of its
indices. -/
structure TableSchema.Sound (key values : List (Heading S)) (indices : List (String × List S.Id)) : Prop where
  named : forall heading, heading ∈ key ++ values -> exists name, forms.parseId heading.1 = some name
  keyed : key ≠ []
  indexed : forall index, index ∈ indices -> forall name, name ∈ index.2 ->
    exists heading, heading ∈ key ++ values ∧ forms.parseId heading.1 = some name

/-! ## The test passes on the shape -/

theorem Column.canCastFrom_iff {value : S.Value} :
    Column.canCastFrom forms value = true <-> exists heading, Column.Written forms value heading := by
  constructor
  · intro passes
    unfold Column.canCastFrom at passes
    split at passes
    · rename_i name dtype pair
      split at passes
      · rename_i text named
        rw [forms.canCastType_eq] at passes
        rcases Option.isSome_iff_exists.mp passes with ⟨type, cast⟩
        exact ⟨(text, type), name, dtype, pair, named, cast⟩
      · cases passes
    · cases passes
  · intro written
    rcases written with ⟨heading, name, dtype, pair, named, cast⟩
    rw [Column.canCastFrom, pair]
    dsimp only
    rw [named]
    dsimp only
    rw [forms.canCastType_eq, cast]
    rfl

theorem isColumnList_iff {value : S.Value} :
    isColumnList forms value = true <-> exists headings, ColumnsWritten forms value headings := by
  unfold isColumnList ColumnsWritten
  cases forms.form value with
  | tuple items =>
      dsimp only
      rw [List.all_eq_true]
      constructor
      · intro passes
        rcases exists_forall₂_iff.mpr (fun item member => Column.canCastFrom_iff.mp (passes item member))
          with ⟨headings, written⟩
        exact ⟨headings, items, rfl, written⟩
      · intro written item member
        rcases written with ⟨headings, _, same, written⟩
        cases same
        exact Column.canCastFrom_iff.mpr (exists_forall₂_iff.mp ⟨headings, written⟩ item member)
  | none | number _ | string _ | other =>
      apply iff_of_false
      · exact Bool.false_ne_true
      · intro written
        rcases written with ⟨_, _, impossible, _⟩
        cases impossible

theorem isIndexList_iff {value : S.Value} :
    isIndexList forms value = true <-> exists indices, IndicesWritten forms value indices := by
  unfold isIndexList IndicesWritten
  cases forms.form value with
  | none => exact iff_of_true rfl ⟨[], Or.inl ⟨rfl, rfl⟩⟩
  | tuple items =>
      dsimp only
      rw [List.all_eq_true]
      constructor
      · intro passes
        have casts : forall item, item ∈ items -> exists index, forms.optCastIndex item = some index := by
          intro item member
          apply Option.isSome_iff_exists.mp
          rw [← forms.canCastIndex_eq]
          exact passes item member
        rcases exists_forall₂_iff.mpr casts with ⟨indices, written⟩
        exact ⟨indices, Or.inr ⟨items, rfl, written⟩⟩
      · intro written item member
        rcases written with ⟨indices, ⟨impossible, _⟩ | ⟨_, same, written⟩⟩
        · cases impossible
        · cases same
          rw [forms.canCastIndex_eq]
          exact Option.isSome_iff_exists.mpr (exists_forall₂_iff.mp ⟨indices, written⟩ item member)
  | number _ | string _ | other =>
      apply iff_of_false
      · exact Bool.false_ne_true
      · intro written
        rcases written with ⟨_, ⟨impossible, _⟩ | ⟨_, impossible, _⟩⟩ <;> cases impossible

namespace TableSchema

theorem canCastFrom_iff {value : S.Value} :
    canCastFrom forms value = true <-> exists key values indices, Written forms value key values indices := by
  constructor
  · intro passes
    unfold canCastFrom at passes
    split at passes
    · rename_i columns indexList outer
      split at passes
      · rename_i keyList valueList inner
        rw [Bool.and_eq_true, Bool.and_eq_true] at passes
        rcases passes with ⟨⟨isKey, isValues⟩, isIndices⟩
        rcases isColumnList_iff.mp isKey with ⟨key, keyWritten⟩
        rcases isColumnList_iff.mp isValues with ⟨values, valuesWritten⟩
        rcases isIndexList_iff.mp isIndices with ⟨indices, indicesWritten⟩
        exact ⟨key, values, indices, ⟨columns, indexList, keyList, valueList, outer, inner, keyWritten,
          valuesWritten, indicesWritten⟩⟩
      · cases passes
    · cases passes
  · intro written
    rcases written with ⟨key, values, indices,
      ⟨columns, indexList, keyList, valueList, outer, inner, keyWritten,
      valuesWritten, indicesWritten⟩⟩
    rw [canCastFrom, outer]
    dsimp only
    rw [inner]
    dsimp only
    rw [isColumnList_iff.mpr ⟨key, keyWritten⟩, isColumnList_iff.mpr ⟨values, valuesWritten⟩,
      isIndexList_iff.mpr ⟨indices, indicesWritten⟩]
    rfl

end TableSchema

/-! ## What the cast reads -/

theorem Column.optCastFrom_written {value : S.Value} {heading : Heading S}
    (written : Column.Written forms value heading) :
    Column.optCastFrom forms value = heading.column forms := by
  rcases written with ⟨name, dtype, pair, named, cast⟩
  rw [Column.optCastFrom, pair]
  dsimp only
  rw [named]
  dsimp only
  rw [cast, Heading.column]
  cases forms.parseId heading.1 with
  | none => rfl
  | some name => rfl

/-- A value which is not of a column's shape is not cast. -/
theorem Column.written_of_optCastFrom {value : S.Value} {column : Column S}
    (cast : Column.optCastFrom forms value = some column) :
      exists heading, Column.Written forms value heading := by
  unfold Column.optCastFrom at cast
  split at cast
  · rename_i name dtype pair
    split at cast
    · rename_i text named
      rcases Option.bind_eq_some_iff.mp cast with ⟨_, _, rest⟩
      rcases Option.bind_eq_some_iff.mp rest with ⟨type, typed, _⟩
      exact ⟨(text, type), name, dtype, pair, named, typed⟩
    · cases cast
  · cases cast

theorem castColumnList_written {value : S.Value} {headings : List (Heading S)}
    (written : ColumnsWritten forms value headings) :
    castColumnList forms value = headings.mapM (Heading.column forms) := by
  rcases written with ⟨items, listed, written⟩
  rw [castColumnList, listed]
  exact mapM_eq_of_forall₂ written (fun _ _ => Column.optCastFrom_written)

theorem castIndexList_written {value : S.Value} {indices : List (String × List S.Id)}
    (written : IndicesWritten forms value indices) : castIndexList forms value = some indices := by
  rcases written with ⟨absent, rfl⟩ | ⟨items, listed, written⟩
  · rw [castIndexList, absent]
  · rw [castIndexList, listed]
    exact mapM_eq_some_iff.mpr written

theorem columnsWritten_of_cast {value : S.Value} {columns : List (Column S)}
    (cast : castColumnList forms value = some columns) :
      exists headings, ColumnsWritten forms value headings := by
  unfold castColumnList at cast
  split at cast
  · rename_i items listed
    have shaped : forall item, item ∈ items -> exists heading, Column.Written forms item heading := by
      intro item member
      rcases exists_forall₂_iff.mp ⟨columns, mapM_eq_some_iff.mp cast⟩ item member with ⟨column, one⟩
      exact Column.written_of_optCastFrom one
    rcases exists_forall₂_iff.mpr shaped with ⟨headings, written⟩
    exact ⟨headings, items, listed, written⟩
  · cases cast

theorem indicesWritten_of_cast {value : S.Value} {indices : List (String × List S.Id)}
    (cast : castIndexList forms value = some indices) : IndicesWritten forms value indices := by
  unfold castIndexList at cast
  split at cast
  · rename_i absent
    cases cast
    exact Or.inl ⟨absent, rfl⟩
  · rename_i items listed
    exact Or.inr ⟨items, listed, mapM_eq_some_iff.mp cast⟩
  · cases cast

theorem column_isSome_iff {heading : Heading S} :
    (exists column, heading.column forms = some column) <->
      exists name, forms.parseId heading.1 = some name := by
  rw [Heading.column]
  cases forms.parseId heading.1 with
  | none => exact iff_of_false (by simp) (by simp)
  | some name => exact iff_of_true ⟨_, rfl⟩ ⟨name, rfl⟩

/-- Headings are read if and only if all of their texts are names. -/
theorem mapM_column_isSome_iff {headings : List (Heading S)} :
    (exists columns, headings.mapM (Heading.column forms) = some columns) <->
      forall heading, heading ∈ headings -> exists name, forms.parseId heading.1 = some name := by
  simp only [mapM_eq_some_iff, exists_forall₂_iff, column_isSome_iff]

/-- The names of columns read from headings. -/
theorem mem_columns_iff {headings : List (Heading S)} {columns : List (Column S)}
    (read : headings.mapM (Heading.column forms) = some columns) (name : S.Id) :
    (exists column, column ∈ columns ∧ column.name = name) <->
      exists heading, heading ∈ headings ∧ forms.parseId heading.1 = some name := by
  have listed := mapM_eq_some_iff.mp read
  clear read
  induction listed with
  | nil => simp
  | cons head tail inductionHypothesis =>
      rename_i heading column headings columns
      rcases Option.map_eq_some_iff.mp head with ⟨parsed, text, rfl⟩
      have same : forms.parseId heading.1 = some name <-> parsed = name := by
        rw [text, Option.some.injEq]
      simp only [List.exists_mem_cons_iff, inductionHypothesis, same]

/-! ## Constructing what was read -/

namespace TableSchema

variable {key values : List (Column S)} {storage : StorageConfig}

theorem findColumn_isSome_iff {columns : List (Column S)} {name : S.Id} :
    (exists column, findColumn columns name = some column) <->
      exists column, column ∈ columns ∧ column.name = name := by
  rw [findColumn, ← Option.isSome_iff_exists, List.find?_isSome]
  simp

/-- An index is constructed if and only if all of its columns exist. -/
theorem newIndex_isOk_iff (keyed : key ≠ []) {index : String × List S.Id} :
    (exists auxiliary, newIndex key values storage index = .ok auxiliary) <->
      forall name, name ∈ index.2 -> exists column, column ∈ key ++ values ∧ column.name = name := by
  unfold newIndex
  constructor
  · intro done name member
    rcases done with ⟨auxiliary, done⟩
    rcases except_bind_eq_ok.mp done with ⟨columns, read, _⟩
    rcases mapM_isOk_iff.mp ⟨columns, read⟩ name member with ⟨column, found⟩
    apply findColumn_isSome_iff.mp
    cases here : findColumn (key ++ values) name with
    | none =>
        rw [here] at found
        cases found
    | some column => exact ⟨column, rfl⟩
  · intro columnsExist
    apply exists_bind_ok
    · apply mapM_isOk_iff.mpr
      intro name member
      rcases findColumn_isSome_iff.mpr (columnsExist name member) with ⟨column, found⟩
      rw [found]
      exact ⟨column, rfl⟩
    · intro columns
      have nonempty : columns ++ key ≠ [] := fun empty => keyed (List.append_eq_nil_iff.mp empty).2
      have built : exists schema, TableIndexSchema.new (columns ++ key) storage = .ok schema :=
        ⟨_, dif_neg nonempty⟩
      rcases built with ⟨schema, built⟩
      split
      · rename_i failed
        cases failed.symm.trans built
      · exact ⟨_, rfl⟩

theorem new_isOk_iff {indices : List (String × List S.Id)} :
    (exists schema, new key values indices storage = .ok schema) <->
      key ≠ [] ∧ forall index, index ∈ indices -> forall name, name ∈ index.2 ->
        exists column, column ∈ key ++ values ∧ column.name = name := by
  constructor
  · intro built
    rcases built with ⟨schema, built⟩
    rcases new_eq_ok built with ⟨keys, _, _, auxiliary, indexed, _⟩
    have keyed : key ≠ [] := by
      intro empty
      apply schema.key_pos
      rw [keys, empty]
      rfl
    refine ⟨keyed, ?_⟩
    intro index member
    exact (newIndex_isOk_iff keyed).mp (mapM_isOk_iff.mp ⟨auxiliary, indexed⟩ index member)
  · intro sound
    rcases sound with ⟨keyed, indexed⟩
    have constructed : exists auxiliary, indices.mapM (newIndex key values storage) = .ok auxiliary := by
      apply mapM_isOk_iff.mpr
      intro index member
      exact (newIndex_isOk_iff keyed).mpr (indexed index member)
    rcases constructed with ⟨auxiliary, constructed⟩
    have nonempty : key ++ values ≠ [] := fun empty => keyed (List.append_eq_nil_iff.mp empty).1
    have built : exists primary, TableIndexSchema.new (key ++ values) storage = .ok primary :=
      ⟨_, dif_neg nonempty⟩
    rcases built with ⟨primary, built⟩
    unfold new
    rw [dif_neg keyed]
    split
    · rename_i error failed
      cases failed.symm.trans built
    · rw [constructed]
      exact ⟨_, rfl⟩

end TableSchema

/-! ## Agreement -/

/-- A test which passes on a shape agrees with a cast of this shape if and only if
whatever has the shape is sound. -/
theorem agrees_iff {A Shape : Type} {test : Bool} {cast : Option A} {written sound : Shape -> Prop}
    (passes : test = true <-> exists shape, written shape)
    (casts : forall shape, written shape -> ((exists result, cast = some result) <-> sound shape))
    (reads : forall result, cast = some result -> exists shape, written shape) :
    test = cast.isSome <-> forall shape, written shape -> sound shape := by
  rw [Bool.eq_iff_iff, passes, Option.isSome_iff_exists]
  constructor
  · intro agree shape here
    exact (casts shape here).mp (agree.mp ⟨shape, here⟩)
  · intro allSound
    constructor
    · intro shaped
      rcases shaped with ⟨shape, here⟩
      exact (casts shape here).mpr (allSound shape here)
    · intro done
      rcases done with ⟨result, done⟩
      exact reads result done

theorem Column.canCastFrom_agrees_iff {value : S.Value} :
    Column.canCastFrom forms value = (Column.optCastFrom forms value).isSome <->
      forall heading, Column.Written forms value heading ->
        exists name, forms.parseId heading.1 = some name := by
  apply agrees_iff Column.canCastFrom_iff
  · intro heading written
    rw [Column.optCastFrom_written written]
    exact column_isSome_iff
  · intro column
    exact Column.written_of_optCastFrom

namespace TableSchema

variable {value : S.Value} {key values : List (Heading S)} {indices : List (String × List S.Id)}

/-- A schema which is written is cast by its columns. -/
theorem Written.optCastFrom_eq (written : Written forms value key values indices) :
    optCastFrom forms value = (key.mapM (Heading.column forms)).bind (fun keyColumns =>
      (values.mapM (Heading.column forms)).bind (fun valueColumns =>
        (new keyColumns valueColumns indices {}).toOption)) := by
  rcases written with ⟨columns, indexList, keyList, valueList, outer, inner, keyWritten, valuesWritten,
    indicesWritten⟩
  rw [optCastFrom, outer]
  dsimp only
  rw [inner]
  dsimp only
  rw [castColumnList_written keyWritten, castColumnList_written valuesWritten,
    castIndexList_written indicesWritten]
  rfl

/-- A value of a schema's shape is cast if and only if the schema is sound. -/
theorem Written.cast_iff (written : Written forms value key values indices) :
    (exists schema, optCastFrom forms value = some schema) <-> Sound forms key values indices := by
  rw [written.optCastFrom_eq]
  constructor
  · intro done
    rcases done with ⟨schema, done⟩
    rcases Option.bind_eq_some_iff.mp done with ⟨keyColumns, keyRead, rest⟩
    rcases Option.bind_eq_some_iff.mp rest with ⟨valueColumns, valuesRead, constructed⟩
    have built : new keyColumns valueColumns indices {} = .ok schema := toOption_eq_some_iff.mp constructed
    rcases new_isOk_iff.mp ⟨schema, built⟩ with ⟨keyed, indexed⟩
    have allRead : (key ++ values).mapM (Heading.column forms) = some (keyColumns ++ valueColumns) := by
      rw [List.mapM_append, keyRead, valuesRead]
      rfl
    refine ⟨mapM_column_isSome_iff.mp ⟨_, allRead⟩, ?_, ?_⟩
    · intro empty
      rw [empty] at keyRead
      cases keyRead
      exact keyed rfl
    · intro index member name named
      exact (mem_columns_iff allRead name).mp (indexed index member name named)
  · intro sound
    rcases mapM_column_isSome_iff.mpr sound.named with ⟨columns, allRead⟩
    have parts := allRead
    rw [List.mapM_append] at parts
    rcases Option.bind_eq_some_iff.mp parts with ⟨keyColumns, keyRead, rest⟩
    rcases Option.bind_eq_some_iff.mp rest with ⟨valueColumns, valuesRead, same⟩
    cases same
    have keyed : keyColumns ≠ [] := by
      intro empty
      apply sound.keyed
      rw [empty] at keyRead
      exact List.forall₂_nil_right_iff.mp (mapM_eq_some_iff.mp keyRead)
    have indexed : forall index, index ∈ indices -> forall name, name ∈ index.2 ->
        exists column, column ∈ keyColumns ++ valueColumns ∧ column.name = name := by
      intro index member name named
      exact (mem_columns_iff allRead name).mpr (sound.indexed index member name named)
    rcases new_isOk_iff.mpr ⟨keyed, indexed⟩ with ⟨schema, built⟩
    refine ⟨schema, ?_⟩
    rw [keyRead, valuesRead]
    exact toOption_eq_some_iff.mpr built

theorem written_of_optCastFrom {schema : TableSchema S} (cast : optCastFrom forms value = some schema) :
    exists key values indices, Written forms value key values indices := by
  unfold optCastFrom at cast
  split at cast
  · rename_i columns indexList outer
    split at cast
    · rename_i keyList valueList inner
      rcases Option.bind_eq_some_iff.mp cast with ⟨keyColumns, keyRead, rest⟩
      rcases Option.bind_eq_some_iff.mp rest with ⟨valueColumns, valuesRead, rest⟩
      rcases Option.bind_eq_some_iff.mp rest with ⟨indices, indicesRead, _⟩
      rcases columnsWritten_of_cast keyRead with ⟨key, keyWritten⟩
      rcases columnsWritten_of_cast valuesRead with ⟨values, valuesWritten⟩
      exact ⟨key, values, indices,
        ⟨columns, indexList, keyList, valueList, outer, inner, keyWritten, valuesWritten,
        indicesWritten_of_cast indicesRead⟩⟩
    · cases cast
  · cases cast

theorem canCastFrom_agrees_iff : canCastFrom forms value = (optCastFrom forms value).isSome <->
    forall key values indices, Written forms value key values indices -> Sound forms key values indices := by
  have agrees : canCastFrom forms value = (optCastFrom forms value).isSome <->
      forall shape : List (Heading S) × List (Heading S) × List (String × List S.Id),
        Written forms value shape.1 shape.2.1 shape.2.2 -> Sound forms shape.1 shape.2.1 shape.2.2 := by
    apply agrees_iff
    · simpa only [Prod.exists] using canCastFrom_iff
    · intro shape written
      exact written.cast_iff
    · intro schema cast
      simpa only [Prod.exists] using written_of_optCastFrom cast
  simpa only [Prod.forall] using agrees

/-- Unwrapping a cast panics if and only if the value passes the test and is not
cast. -/
theorem tryCastFrom_panics_iff : (exists panic, tryCastFrom forms value = .error (.panic panic)) <->
    ¬ canCastFrom forms value = (optCastFrom forms value).isSome := by
  have tested : optCastFrom forms value ≠ none -> canCastFrom forms value = true := by
    intro done
    rcases Option.ne_none_iff_exists'.mp done with ⟨schema, cast⟩
    exact canCastFrom_iff.mpr (written_of_optCastFrom cast)
  unfold tryCastFrom
  cases passes : canCastFrom forms value with
  | false =>
      cases cast : optCastFrom forms value with
      | none => simp
      | some schema =>
          have done := tested (by simp [cast])
          rw [passes] at done
          cases done
  | true => cases optCastFrom forms value <;> simp

/-- The test for a cast agrees with the cast on a column whose text is a name, and
on a schema which is sound; elsewhere a value of the shape passes the test and is
not cast, and unwrapping it panics. -/
theorem casts_agree_iff (forms : ValueForms S) (value : S.Value) :
    (Column.canCastFrom forms value = (Column.optCastFrom forms value).isSome <->
      forall heading, Column.Written forms value heading ->
        exists name, forms.parseId heading.1 = some name) ∧
    (canCastFrom forms value = (optCastFrom forms value).isSome <->
      forall key values indices, Written forms value key values indices -> Sound forms key values indices) ∧
    ((forall panic, tryCastFrom forms value ≠ .error (.panic panic)) <->
      forall key values indices, Written forms value key values indices -> Sound forms key values indices) :=
        by
  refine ⟨Column.canCastFrom_agrees_iff, canCastFrom_agrees_iff, ?_⟩
  rw [← canCastFrom_agrees_iff, ← not_iff_not, ← tryCastFrom_panics_iff, not_forall]
  simp only [ne_eq, not_not]

/-! ## A schema without a key -/

/-- No columns, and no indices. -/
def noColumns : Datum := .tuple [.tuple [.tuple [], .tuple []], .none]

/-- A schema without columns passes the test, and unwrapping its cast panics. -/
theorem noColumns_panics : canCastFrom ValueForms.data noColumns = true ∧
    optCastFrom ValueForms.data noColumns = none ∧
    exists panic, tryCastFrom ValueForms.data noColumns = .error (.panic panic) := by
  refine ⟨rfl, rfl, ⟨_, rfl⟩⟩

end TableSchema

end Table
end TransactionalCollection
