import TransactionalCollection.Table.Casting

namespace TransactionalCollection
namespace Table

open Execution Native

/-!
# The storage of a schema

A schema carries the storage configuration of each of its indices.  Two schemas
have the same columns and indices if and only if they are equal once they are laid
out alike.  What a value is cast to is the schema which was written, laid out by
default.
-/

variable {S : Signature}

/-- Lists whose items agree in all that matters to a function have one image. -/
theorem map_eq_of_map_eq {A B C : Type} {view : A -> B} {image : A -> C}
    (determined : forall first second, view first = view second -> image first = image second)
    {firsts seconds : List A} (same : firsts.map view = seconds.map view) :
    firsts.map image = seconds.map image := by
  induction firsts generalizing seconds with
  | nil =>
      cases seconds with
      | nil => rfl
      | cons second seconds => cases same
  | cons first firsts inductionHypothesis =>
      cases seconds with
      | nil => cases same
      | cons second seconds =>
          rcases List.cons.inj same with ⟨head, tail⟩
          rw [List.map_cons, List.map_cons, determined first second head, inductionHypothesis tail]

def TableIndexSchema.withStorage (index : TableIndexSchema S) (storage : StorageConfig) : TableIndexSchema S :=
  { index with storage := storage }

theorem TableIndexSchema.withStorage_congr {first second : TableIndexSchema S}
    (names : first.columnNames = second.columnNames) (types : first.columnTypes = second.columnTypes)
    (storage : StorageConfig) : first.withStorage storage = second.withStorage storage := by
  cases first
  cases second
  cases names
  cases types
  rfl

/-- An auxiliary index in another layout, under its name. -/
def layIndex (storage : StorageConfig) (index : String × TableIndexSchema S) : String × TableIndexSchema S :=
  (index.1, index.2.withStorage storage)

namespace TableSchema

/-- The schema, with all of its indices in another layout. -/
def withStorage (schema : TableSchema S) (storage : StorageConfig) : TableSchema S where
  key := schema.key
  values := schema.values
  primary := schema.primary.withStorage storage
  indices := schema.indices.map (layIndex storage)
  key_pos := schema.key_pos
  primary_names := schema.primary_names
  indices_names := by
    intro index member
    rcases List.mem_map.mp member with ⟨index, original, rfl⟩
    exact schema.indices_names index original

theorem eq_of_parts {first second : TableSchema S} (key : first.key = second.key)
    (values : first.values = second.values) (primary : first.primary = second.primary)
    (indices : first.indices = second.indices) : first = second := by
  cases first
  cases second
  cases key
  cases values
  cases primary
  cases indices
  rfl

end TableSchema

/-- Schemas agree in all but storage if and only if they are equal in one layout. -/
theorem sameSemantics_iff {first second : TableSchema S} (storage : StorageConfig) :
    SameSemantics first second <-> first.withStorage storage = second.withStorage storage := by
  constructor
  · intro same
    apply TableSchema.eq_of_parts
    · exact same.key.symm
    · exact same.values.symm
    · apply TableIndexSchema.withStorage_congr
      · rw [first.primary_names, second.primary_names, same.key, same.values]
      · exact same.types.symm
    · apply map_eq_of_map_eq ?_ same.indices.symm
      intro index other entries
      rcases Prod.mk.inj entries with ⟨name, columns⟩
      rcases Prod.mk.inj columns with ⟨names, types⟩
      exact Prod.ext name (TableIndexSchema.withStorage_congr names types storage)
  · intro same
    have indices : first.indices.map (layIndex storage) = second.indices.map (layIndex storage) :=
      congrArg TableSchema.indices same
    refine ⟨(congrArg TableSchema.key same).symm, (congrArg TableSchema.values same).symm, ?_, ?_⟩
    · exact (congrArg (fun schema => schema.primary.columnTypes) same).symm
    · apply map_eq_of_map_eq ?_ indices.symm
      intro index other laid
      rcases Prod.mk.inj laid with ⟨name, columns⟩
      have names : (index.2.withStorage storage).columnNames = (other.2.withStorage storage).columnNames :=
        congrArg TableIndexSchema.columnNames columns
      have types : (index.2.withStorage storage).columnTypes = (other.2.withStorage storage).columnTypes :=
        congrArg TableIndexSchema.columnTypes columns
      change index.2.columnNames = other.2.columnNames at names
      change index.2.columnTypes = other.2.columnTypes at types
      rw [indexEntry, indexEntry, name, names, types]

namespace TableSchema

variable {key values : List (Column S)} {indices : List (String × List S.Id)} {storage : StorageConfig}

theorem newIndex_storage {index : String × List S.Id} {auxiliary : Auxiliary key}
    (built : newIndex key values storage index = .ok auxiliary) : auxiliary.val.2.storage = storage := by
  unfold newIndex at built
  rcases except_bind_eq_ok.mp built with ⟨columns, _, rest⟩
  split at rest
  · cases rest
  · rename_i constructed
    cases rest
    exact (TableIndexSchema.new_eq_ok constructed).2.2

theorem newIndices_storage {auxiliary : List (Auxiliary key)}
    (built : indices.mapM (newIndex key values storage) = .ok auxiliary) :
    forall index, index ∈ auxiliary -> index.val.2.storage = storage := by
  induction indices generalizing auxiliary with
  | nil =>
      cases built
      intro index impossible
      cases impossible
  | cons index indices inductionHypothesis =>
      rw [List.mapM_cons] at built
      rcases except_bind_eq_ok.mp built with ⟨first, one, rest⟩
      rcases except_bind_eq_ok.mp rest with ⟨later, others, same⟩
      cases same
      intro auxiliary member
      rcases List.mem_cons.mp member with rfl | rest
      · exact newIndex_storage one
      · exact inductionHypothesis others auxiliary rest

/-- A constructed schema is laid out as it was asked for. -/
theorem new_withStorage {schema : TableSchema S} (built : new key values indices storage = .ok schema) :
    schema.withStorage storage = schema := by
  rcases new_eq_ok built with ⟨_, _, _, auxiliary, indexed, indexes⟩
  apply eq_of_parts
  · rfl
  · rfl
  · unfold new at built
    split at built
    · cases built
    · split at built
      · cases built
      · rename_i primary constructed
        rw [indexed] at built
        cases built
        have laid := (TableIndexSchema.new_eq_ok constructed).2.2
        cases primary
        cases laid
        rfl
  · change schema.indices.map (layIndex storage) = schema.indices
    rw [indexes]
    apply List.map_congr_left ?_ |>.trans (List.map_id _)
    intro index member
    rcases List.mem_map.mp member with ⟨index, listed, rfl⟩
    have laid := newIndices_storage indexed index listed
    rcases index with ⟨⟨name, index⟩, _⟩
    cases index
    cases laid
    rfl

variable (forms : ValueForms S)

/-- Whatever a value is cast to is laid out by default. -/
theorem optCastFrom_withStorage {value : S.Value} {schema : TableSchema S}
    (cast : optCastFrom forms value = some schema) : schema.withStorage {} = schema := by
  unfold optCastFrom at cast
  split at cast
  · split at cast
    · rcases Option.bind_eq_some_iff.mp cast with ⟨_, _, rest⟩
      rcases Option.bind_eq_some_iff.mp rest with ⟨_, _, rest⟩
      rcases Option.bind_eq_some_iff.mp rest with ⟨_, _, constructed⟩
      exact new_withStorage (toOption_eq_some_iff.mp constructed)
    · cases cast
  · cases cast

/-- A constructed schema is read back as it was written, laid out by default. -/
theorem Constructed.optCastFrom_castFrom {schema : TableSchema S} (constructed : schema.Constructed) :
    optCastFrom forms (schema.castFrom.toValue forms) = some (schema.withStorage {}) := by
  rcases constructed with ⟨key, values, indices, storage, built⟩
  rcases TableSchema.optCastFrom_castFrom forms built with ⟨_, decoded, cast, same⟩
  rw [cast, (sameSemantics_iff {}).mp same, optCastFrom_withStorage forms cast]

/-- Constructed schemas are written alike if and only if they agree in all but
storage. -/
theorem Constructed.toValue_eq_iff {first second : TableSchema S} (constructed : first.Constructed)
    (otherConstructed : second.Constructed) :
    first.castFrom.toValue forms = second.castFrom.toValue forms <->
      first.withStorage {} = second.withStorage {} := by
  constructor
  · intro same
    have cast := constructed.optCastFrom_castFrom forms
    rw [same, otherConstructed.optCastFrom_castFrom forms] at cast
    exact (Option.some.inj cast).symm
  · intro same
    rw [((sameSemantics_iff {}).mpr same).castFrom_eq]

end TableSchema

end Table
end TransactionalCollection
