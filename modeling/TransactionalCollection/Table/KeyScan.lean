import Mathlib.Data.List.Duplicate
import Mathlib.Data.List.Induction
import Mathlib.Data.List.Nodup
import TransactionalCollection.Table.File

namespace TransactionalCollection
namespace Table

open Std (ExtTreeMap LawfulEqCmp)
open Native

/-!
# Point reads as scans

A row is looked up by its key through a range, which is a map by the names of the key
columns.  Where two key columns have one name the range keeps the later value for both,
so the scan looks for another key.  It finds every row under its own key where each key
column has a name of its own.
-/

variable {S : Signature} {schema : TableSchema S}

/-- Each key column has a name which no other column has. -/
structure TableSchema.KeysDistinct (schema : TableSchema S) : Prop where
  once : schema.key.Nodup
  apart : forall name, name ∈ schema.values -> name ∉ schema.key

theorem TableSchema.keysDistinct_iff :
    schema.KeysDistinct <->
      schema.key.Nodup ∧ schema.values.all (fun name => !schema.key.contains name) = true := by
  simp only [List.all_eq_true, Bool.not_eq_true', List.contains_eq_mem, decide_eq_false_iff_not]
  exact ⟨fun distinct => ⟨distinct.once, distinct.apart⟩, fun ⟨once, apart⟩ => ⟨once, apart⟩⟩

instance (schema : TableSchema S) : Decidable schema.KeysDistinct :=
  decidable_of_iff' _ TableSchema.keysDistinct_iff

/-! ## Bounds by name -/

/-- The range which some pairs are collected into. -/
def Range.ofPairs (pairs : List (S.Id × ColumnRange S)) : Range S :=
  pairs.foldl (fun range pair => range.insert pair.1 pair.2) Range.default

/-- The last pair which bounds a column. -/
def lastBound (pairs : List (S.Id × ColumnRange S)) (name : S.Id) : Option (ColumnRange S) :=
  (pairs.reverse.find? (fun pair => decide (pair.1 = name))).map Prod.snd

theorem ofPairs_eq_lastBound (pairs : List (S.Id × ColumnRange S)) :
    Range.ofPairs pairs = lastBound pairs := by
  induction pairs using List.reverseRecOn with
  | nil => rfl
  | append_singleton pairs pair inductionHypothesis =>
      funext name
      rw [Range.ofPairs, List.foldl_append, List.foldl_cons, List.foldl_nil]
      change (if name = pair.1 then some pair.2 else Range.ofPairs pairs name) = _
      rw [inductionHypothesis, lastBound, lastBound, List.reverse_append, List.reverse_singleton,
        List.singleton_append, List.find?_cons]
      by_cases here : name = pair.1
      · rw [if_pos here, decide_eq_true here.symm]
        rfl
      · rw [if_neg here, decide_eq_false (fun same => here same.symm)]

theorem mem_of_lastBound {pairs : List (S.Id × ColumnRange S)} {name : S.Id} {bound : ColumnRange S}
    (last : lastBound pairs name = some bound) : (name, bound) ∈ pairs := by
  rcases Option.map_eq_some_iff.mp last with ⟨pair, found, same⟩
  have named : pair.1 = name := by simpa using List.find?_some found
  have member := List.mem_reverse.mp (List.mem_of_find?_eq_some found)
  rwa [← named, ← same]

theorem lastBound_of_mem {pairs : List (S.Id × ColumnRange S)} {pair : S.Id × ColumnRange S}
    (member : pair ∈ pairs) : exists bound, lastBound pairs pair.1 = some bound := by
  have found : (pairs.reverse.find? (fun other => decide (other.1 = pair.1))).isSome = true := by
    apply List.find?_isSome.mpr
    exact ⟨pair, List.mem_reverse.mpr member, decide_eq_true rfl⟩
  rcases Option.isSome_iff_exists.mp found with ⟨other, last⟩
  exact ⟨other.2, by rw [lastBound, last]; rfl⟩

theorem lastBound_append (first second : List (S.Id × ColumnRange S)) (name : S.Id) :
    lastBound (first ++ second) name = (lastBound second name).or (lastBound first name) := by
  rw [lastBound, List.reverse_append, List.find?_append, Option.map_or]
  rfl

/-- A pair does not matter where a later one bounds its column. -/
theorem lastBound_overridden {before after : List (S.Id × ColumnRange S)} {pair other : S.Id × ColumnRange S}
    (named : other.1 = pair.1) (later : pair.1 ∈ after.map Prod.fst) (name : S.Id) :
    lastBound (before ++ other :: after) name = lastBound (before ++ pair :: after) name := by
  rcases List.mem_map.mp later with ⟨last, member, same⟩
  rw [lastBound_append, lastBound_append, ← List.singleton_append, lastBound_append,
    ← List.singleton_append (x := pair), lastBound_append]
  by_cases here : pair.1 = name
  · rcases lastBound_of_mem member with ⟨bound, bounds⟩
    rw [← here, ← same, bounds]
    rfl
  · have silent : forall column : S.Id × ColumnRange S, column.1 = pair.1 -> lastBound [column] name = none := by
      intro column samed
      rw [lastBound, List.reverse_singleton, List.find?_singleton, samed, decide_eq_false here]
      rfl
    rw [silent other named, silent pair rfl]

/-- Where no name occurs twice, each pair is the last of its name. -/
theorem lastBound_of_distinct {pairs : List (S.Id × ColumnRange S)} (distinct : (pairs.map Prod.fst).Nodup)
    {pair : S.Id × ColumnRange S} (member : pair ∈ pairs) : lastBound pairs pair.1 = some pair.2 := by
  rcases lastBound_of_mem member with ⟨bound, last⟩
  have same : (pair.1, bound) = pair :=
    List.inj_on_of_nodup_map distinct (mem_of_lastBound last) member rfl
  rw [last, ← same]

/-! ## The key which is read -/

/-- Each key column is to be equal to its value. -/
def keyPairs (schema : TableSchema S) (key : Key S) : List (S.Id × ColumnRange S) :=
  (schema.key.zip key).map (fun column => (column.1, .eq column.2))

/-- The value which a bound fixes a column to. -/
def ColumnRange.fixed (value : S.Value) : Option (ColumnRange S) -> S.Value
  | some (.eq expected) => expected
  | some (.within _) | none => value

/-- The key which the range made from a key fixes: in each column the last value given to
its name. -/
def readKey (schema : TableSchema S) (key : Key S) : Key S :=
  (schema.key.zip key).map (fun column => ColumnRange.fixed column.2 (lastBound (keyPairs schema key) column.1))

/-- Key columns of one name hold one value. -/
def Settled (schema : TableSchema S) (key : Key S) : Prop := readKey schema key = key

theorem rangeFromKey_of_arity {key : Key S} (arity : key.length = schema.key.length) :
    schema.rangeFromKey key = .ok (lastBound (keyPairs schema key)) := by
  rw [TableSchema.rangeFromKey, if_neg (not_not_intro arity), ← ofPairs_eq_lastBound, Range.ofPairs, keyPairs,
    List.foldl_map]

theorem readKey_length {key : Key S} (arity : key.length = schema.key.length) :
    (readKey schema key).length = schema.key.length := by
  rw [readKey, List.length_map, List.length_zip, arity, Nat.min_self]

/-- A row has a value in each of its columns. -/
theorem exists_value {A B : Type} {names : List A} {values : List B} (arity : values.length = names.length)
    {index : Nat}
    {name : A} (here : names[index]? = some name) : exists value, values[index]? = some value := by
  have inside : index < values.length := arity ▸ (List.getElem?_eq_some_iff.mp here).1
  exact ⟨values[index], List.getElem?_eq_getElem inside⟩

/-- Every key column is bound to the value which is read. -/
theorem readKey_getElem? {key : Key S} (arity : key.length = schema.key.length) {index : Nat} {name : S.Id}
    (here : schema.key[index]? = some name) :
    exists value, (readKey schema key)[index]? = some value ∧
      lastBound (keyPairs schema key) name = some (.eq value) := by
  rcases exists_value arity here with ⟨given, there⟩
  have zipped : (schema.key.zip key)[index]? = some (name, given) := List.getElem?_zip_eq_some.mpr ⟨here, there⟩
  have paired : (name, ColumnRange.eq given) ∈ keyPairs schema key :=
    List.mem_map.mpr ⟨(name, given), List.mem_of_getElem? zipped, rfl⟩
  rcases lastBound_of_mem paired with ⟨bound, last⟩
  rcases List.mem_map.mp (mem_of_lastBound last) with ⟨column, _, same⟩
  have fixed : ColumnRange.eq column.2 = bound := (Prod.mk.inj same).2
  refine ⟨column.2, ?_, ?_⟩
  · rw [readKey, List.getElem?_map, zipped, Option.map_some, last, ← fixed]
    rfl
  · rw [last, ← fixed]

/-- Keys which agree in every key column are equal. -/
theorem key_ext {first second : Key S} (arity : first.length = schema.key.length)
    (otherArity : second.length = schema.key.length)
    (same : forall (index : Nat) (name : S.Id), schema.key[index]? = some name -> first[index]? = second[index]?) :
    first = second := by
  apply List.ext_getElem?
  intro index
  cases here : schema.key[index]? with
  | some name => exact same index name here
  | none =>
      have outside := List.getElem?_eq_none_iff.mp here
      rw [List.getElem?_eq_none (le_of_eq_of_le arity outside),
        List.getElem?_eq_none (le_of_eq_of_le otherArity outside)]

/-- The range made from a key admits the key it fixes, and no other. -/
theorem admitsKey_keyPairs {key other : Key S} (arity : key.length = schema.key.length)
    (otherArity : other.length = schema.key.length) :
    schema.admitsKey (lastBound (keyPairs schema key)) other = true <-> other = readKey schema key := by
  rw [TableSchema.admitsKey, List.all_eq_true]
  constructor
  · intro admitted
    apply key_ext otherArity (readKey_length arity)
    intro index name here
    rcases readKey_getElem? arity here with ⟨value, read, bound⟩
    rcases exists_value otherArity here with ⟨found, there⟩
    have member : (name, found) ∈ schema.key.zip other :=
      List.mem_of_getElem? (List.getElem?_zip_eq_some.mpr ⟨here, there⟩)
    have equal := admitted (name, found) member
    rw [bound] at equal
    have same : value = found := by simpa [ColumnRange.admits] using equal
    rw [there, read, same]
  · rintro rfl column member
    rcases List.mem_iff_getElem?.mp member with ⟨index, zipped⟩
    rcases List.getElem?_zip_eq_some.mp zipped with ⟨here, there⟩
    rcases readKey_getElem? arity here with ⟨value, read, bound⟩
    have same : column.2 = value := Option.some.inj (there.symm.trans read)
    rw [bound, same]
    simp [ColumnRange.admits]

/-- Key columns with names of their own are all read as given. -/
theorem settled_of_distinct (distinct : schema.KeysDistinct) {key : Key S} (arity : key.length = schema.key.length) :
    Settled schema key := by
  have once : ((keyPairs schema key).map Prod.fst).Nodup := by
    rw [keyPairs, List.map_map]
    change ((schema.key.zip key).map Prod.fst).Nodup
    rw [List.map_fst_zip (le_of_eq arity.symm)]
    exact distinct.once
  apply key_ext (readKey_length arity) arity
  intro index name here
  rcases readKey_getElem? arity here with ⟨value, read, bound⟩
  rcases exists_value arity here with ⟨given, there⟩
  have paired : (name, ColumnRange.eq given) ∈ keyPairs schema key :=
    List.mem_map.mpr ⟨(name, given), List.mem_of_getElem? (List.getElem?_zip_eq_some.mpr ⟨here, there⟩), rfl⟩
  cases bound.symm.trans (lastBound_of_distinct once paired)
  rw [read, there]

theorem settled_of_valid (distinct : schema.KeysDistinct) {key : Key S} (valid : schema.ValidKey key) :
    Settled schema key :=
  settled_of_distinct distinct valid.1

theorem exists_repeated {A : Type} {names : List A} (repeated : ¬ names.Nodup) :
    exists before name after, names = before ++ name :: after ∧ name ∈ after := by
  rcases List.exists_duplicate_iff_not_nodup.mpr repeated with ⟨name, duplicate⟩
  clear repeated
  induction duplicate with
  | cons_mem later => exact ⟨[], name, _, rfl, later⟩
  | cons_duplicate _ inductionHypothesis =>
      rcases inductionHypothesis with ⟨before, name, after, rfl, later⟩
      exact ⟨_ :: before, name, after, rfl, later⟩

/-- Keys from which one range is made are read alike. -/
theorem readKey_congr {first second : Key S} (arity : first.length = schema.key.length)
    (otherArity : second.length = schema.key.length)
    (same : forall name, lastBound (keyPairs schema first) name = lastBound (keyPairs schema second) name) :
    readKey schema first = readKey schema second := by
  apply key_ext (readKey_length arity) (readKey_length otherArity)
  intro index name here
  rcases readKey_getElem? arity here with ⟨value, read, bound⟩
  rcases readKey_getElem? otherArity here with ⟨again, reread, rebound⟩
  cases (bound.symm.trans (same name)).trans rebound
  rw [read, reread]

/-- Where two key columns have one name, some other key is read as the key is: only the later
value counts. -/
theorem exists_key_read_alike (repeated : ¬ schema.key.Nodup) (values : Nontrivial S.Value) {key : Key S}
    (arity : key.length = schema.key.length) :
    exists other : Key S, other.length = schema.key.length ∧ other ≠ key ∧
      readKey schema other = readKey schema key := by
  rcases exists_repeated repeated with ⟨before, name, after, split, later⟩
  have inside : before.length < key.length := by
    rw [arity, split, List.length_append, List.length_cons]
    omega
  rcases exists_ne key[before.length] with ⟨value, different⟩
  have otherArity : (key.set before.length value).length = schema.key.length := by
    rw [List.length_set, arity]
  refine ⟨key.set before.length value, otherArity, ?_, readKey_congr otherArity arity ?_⟩
  · intro same
    have here := congrArg (fun key : Key S => key[before.length]?) same
    rw [List.getElem?_set_self inside, List.getElem?_eq_getElem inside] at here
    exact different (Option.some.inj here)
  · intro column
    have paired : forall given : S.Value, keyPairs schema (key.set before.length given) =
        ((before.zip (key.take before.length)).map (fun column => (column.1, .eq column.2))) ++
          (name, ColumnRange.eq given) ::
            (after.zip (key.drop (before.length + 1))).map (fun column => (column.1, .eq column.2)) := by
      intro given
      rw [keyPairs, split, List.set_eq_take_append_cons_drop, if_pos inside,
        List.zip_append (List.length_take_of_le inside.le).symm, List.zip_cons_cons, List.map_append, List.map_cons]
    have unchanged := paired key[before.length]
    rw [List.set_getElem_self] at unchanged
    have bounded : name ∈ ((after.zip (key.drop (before.length + 1))).map
        (fun column => (column.1, ColumnRange.eq column.2))).map Prod.fst := by
      rw [List.map_map]
      change name ∈ (after.zip _).map Prod.fst
      rw [List.map_fst_zip]
      · exact later
      · rw [List.length_drop, arity, split, List.length_append, List.length_cons]
        omega
    rw [paired value, unchanged]
    exact lastBound_overridden (show (name, ColumnRange.eq value).1 = (name, ColumnRange.eq key[before.length]).1
      from rfl) bounded column

/-- The key which is read is itself read as it is. -/
theorem settled_readKey {key : Key S} (arity : key.length = schema.key.length) :
    Settled schema (readKey schema key) := by
  apply key_ext (readKey_length (readKey_length arity)) (readKey_length arity)
  intro index name here
  rcases readKey_getElem? arity here with ⟨value, read, bound⟩
  rcases readKey_getElem? (readKey_length arity) here with ⟨again, reread, rebound⟩
  rcases List.mem_map.mp (mem_of_lastBound rebound) with ⟨column, member, same⟩
  cases same
  rcases List.mem_iff_getElem?.mp member with ⟨other, zipped⟩
  rcases List.getElem?_zip_eq_some.mp zipped with ⟨elsewhere, there⟩
  -- the last value of the name stands in a column of the name, where the key read has its value
  rcases readKey_getElem? arity elsewhere with ⟨first, firstRead, firstBound⟩
  cases firstBound.symm.trans bound
  rw [reread, read, ← there, firstRead]

/-! ## Point reads -/

/-- A stored row splits back into its key and its values. -/
theorem take_append_of_arity {key : Key S} (arity : key.length = schema.key.length)
    (values : List S.Value) :
    (key ++ values).take schema.key.length = key ∧ (key ++ values).drop schema.key.length = values := by
  rw [← arity]
  exact ⟨List.take_left, List.drop_left⟩

namespace TableLock

variable (table : TableLock schema)

theorem mem_allRows {row : Row S} :
    row ∈ table.allRows <-> exists key values, table.rows[key]? = some values ∧ row = key ++ values := by
  simp only [allRows, List.mem_map, Prod.exists]
  constructor
  · rintro ⟨key, values, stored, rfl⟩
    exact ⟨key, values, ExtTreeMap.mem_toList_iff_getElem?_eq_some.mp stored, rfl⟩
  · rintro ⟨key, values, found, rfl⟩
    exact ⟨key, values, ExtTreeMap.mem_toList_iff_getElem?_eq_some.mpr found, rfl⟩

/-- The row stored under a key has that key in its key columns. -/
theorem keyOf_stored {key : Key S} {values : List S.Value}
    (found : table.rows[key]? = some values) : keyOf schema (key ++ values) = key :=
  (take_append_of_arity (table.valid key values found).1.1 values).1

/-- The scan for a key finds the row of the key which is read. -/
theorem mem_keyedRows {key : Key S} (arity : key.length = schema.key.length) {row : Row S} :
    row ∈ table.keyedRows (lastBound (keyPairs schema key)) <->
      exists values, table.rows[readKey schema key]? = some values ∧ row = readKey schema key ++ values := by
  rw [keyedRows, List.mem_filter, mem_allRows]
  constructor
  · rintro ⟨⟨stored, values, found, rfl⟩, admitted⟩
    rw [table.keyOf_stored found, admitsKey_keyPairs arity (table.valid stored values found).1.1] at admitted
    exact ⟨values, admitted ▸ found, by rw [admitted]⟩
  · rintro ⟨values, found, rfl⟩
    refine ⟨⟨_, values, found, rfl⟩, ?_⟩
    rw [table.keyOf_stored found]
    exact (admitsKey_keyPairs arity (readKey_length arity)).mpr rfl

end TableLock

/-- A point read finds the row of the key which is read. -/
theorem getRow_of_arity {key : Key S} (arity : key.length = schema.key.length) (table : TableLock schema) :
    getRow table key = .ok (table.rows[readKey schema key]?.map (fun values => readKey schema key ++ values)) := by
  rw [getRow, rangeFromKey_of_arity arity]
  apply congrArg Except.ok
  cases found : table.rows[readKey schema key]? with
  | none =>
      have nothing : table.keyedRows (lastBound (keyPairs schema key)) = [] := by
        apply List.eq_nil_iff_forall_not_mem.mpr
        intro row member
        rcases (table.mem_keyedRows arity).mp member with ⟨values, present, _⟩
        cases found.symm.trans present
      rw [nothing]
      rfl
  | some values =>
      have listed := (table.mem_keyedRows arity).mpr ⟨values, found, rfl⟩
      cases scanned : table.keyedRows (lastBound (keyPairs schema key)) with
      | nil =>
          rw [scanned] at listed
          cases listed
      | cons row rest =>
          rcases (table.mem_keyedRows arity).mp (scanned ▸ List.mem_cons_self) with ⟨others, present, rfl⟩
          cases found.symm.trans present
          rfl

/-- A settled key is looked up as it is. -/
theorem getRow_of_settled {key : Key S} (arity : key.length = schema.key.length) (settled : Settled schema key)
    (table : TableLock schema) : getRow table key = .ok (table.rows[key]?.map (fun values => key ++ values)) := by
  rw [getRow_of_arity arity, settled]

/-- Where key columns have names of their own a point read is a lookup. -/
theorem getRow_of_distinct (distinct : schema.KeysDistinct) {key : Key S} (arity : key.length = schema.key.length)
    (table : TableLock schema) :
    getRow table key = .ok (table.rows[key]?.map (fun values => key ++ values)) :=
  getRow_of_settled arity (settled_of_distinct distinct arity) table

theorem getRow_of_wrong_arity {key : Key S} (arity : key.length ≠ schema.key.length)
    (table : TableLock schema) : exists error, getRow table key = .error error := by
  rw [getRow, TableSchema.rangeFromKey, if_pos arity]
  exact ⟨_, rfl⟩

end Table
end TransactionalCollection
