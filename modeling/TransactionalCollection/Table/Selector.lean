import Mathlib.Data.List.Zip
import TransactionalCollection.Native.Forms
import TransactionalCollection.Table.Atomicity
import TransactionalCollection.Table.Projection

namespace TransactionalCollection
namespace Table

open Execution Native

/-!
# Selectors

A request selects the rows of a table by a value: all of them, the row of a key,
or the rows of a range.  A range is given by pairs of a column name and a bound,
which are collected into a map, so of several pairs for one column the last one
replaces those before it.  A range therefore admits the rows which satisfy the
last pair of each column.
-/

variable {S : Signature}

/-! ## Parsing -/

/-- `KeyOrRange`. -/
inductive KeyOrRange (S : Signature) where
  | all
  | key (key : Key S)
  | range (range : Range S)

section Parsing

variable (forms : ValueForms S) (castBound : S.Value -> Option (Bound S.Value)) (schema : TableSchema S)

/-- The column which a pair names.  What the parser of names reports is left out
of the message. -/
def castColumnName (value : S.Value) : Except TCError S.Id :=
  match forms.form value with
  | .string text =>
      match forms.parseId text with
      | none => .error (.badRequest s!"invalid column name {S.debugValue value}")
      | some name =>
          if schema.primary.columnNames.any
            (fun column => decide (S.displayId column = S.displayId name)) then
            .ok name
          else .error (.notFound s!"column not found: {S.displayId name}")
  | _ => .error (.badRequest s!"column name must be a string, got {S.debugValue value}")

/-- A bound with two parts is a lower and an upper one. -/
def castColumnRange (value : S.Value) : Except TCError (ColumnRange S) :=
  match forms.form value with
  | .tuple [lower, upper] =>
      match castBound lower with
      | none => .error (.badRequest s!"invalid lower bound: {S.debugValue lower}")
      | some lowerBound =>
          match castBound upper with
          | none => .error (.badRequest s!"invalid upper bound: {S.debugValue upper}")
          | some upperBound => .ok (.within (lowerBound, upperBound))
  | _ => .ok (.eq value)

/-- One pair of a range. -/
def castPair (entry : S.Value) : Except TCError (S.Id × ColumnRange S) :=
  match forms.form entry with
  | .tuple [name, bound] => do
      let name <- castColumnName forms schema name
      let bound <- castColumnRange forms castBound bound
      return (name, bound)
  | _ => .error (.badRequest s!"invalid range bound: {S.debugValue entry}")

def castIntoRange (value : S.Value) : Except TCError (Range S) :=
  match forms.form value with
  | .tuple entries => entries.foldlM (fun range entry => do
      let pair <- castPair forms castBound schema entry
      return range.insert pair.1 pair.2) Range.default
  | .none => .ok Range.default
  | _ => .error (.badRequest s!"invalid selection bounds: {S.debugValue value}")

/-- A pair of which the first part is the name of a column. -/
def namesColumn (entry : S.Value) : Bool :=
  match forms.form entry with
  | .tuple [name, _] =>
      match forms.form name with
      | .string text => schema.primary.columnNames.any (fun column => decide (S.displayId column = text))
      | _ => false
  | _ => false

def KeyOrRange.tryFromValue (value : S.Value) : Except TCError (KeyOrRange S) :=
  match forms.form value with
  | .none => .ok .all
  | .tuple items =>
      if items.isEmpty then .ok .all
      else if items.all (namesColumn forms schema) then
        (castIntoRange forms castBound schema value).map KeyOrRange.range
      else if items.length = schema.key.length then .ok (.key items)
      else .error (.badRequest s!"invalid table selector: {S.debugValue value}")
  | _ => .error (.badRequest s!"invalid table selector: {S.debugValue value}")

end Parsing

/-! ## What a selector lists -/

section Listed

variable (forms : ValueForms S) (castBound : S.Value -> Option (Bound S.Value))

/-- An entry bounds a column: by equality, or from below and from above. -/
inductive Denotes (entry : S.Value) : S.Id × ColumnRange S -> Prop where
  | equal {first bound : S.Value} {text : String} {name : S.Id}
      (pair : forms.form entry = .tuple [first, bound]) (string : forms.form first = .string text)
      (parsed : forms.parseId text = some name)
      (plain : forall lower upper, forms.form bound ≠ .tuple [lower, upper]) : Denotes entry (name, .eq bound)
  | between {first bound lower upper : S.Value} {text : String} {name : S.Id}
      {lowerBound upperBound : Bound S.Value}
      (pair : forms.form entry = .tuple [first, bound]) (string : forms.form first = .string text)
      (parsed : forms.parseId text = some name) (parts : forms.form bound = .tuple [lower, upper])
      (below : castBound lower = some lowerBound) (above : castBound upper = some upperBound) :
      Denotes entry (name, .within (lowerBound, upperBound))

/-- The pairs which a selector lists, in order. -/
inductive Lists (value : S.Value) : List (S.Id × ColumnRange S) -> Prop where
  | none (absent : forms.form value = .none) : Lists value []
  | tuple {entries : List S.Value} {pairs : List (S.Id × ColumnRange S)}
      (listed : forms.form value = .tuple entries)
      (denotes : List.Forall₂ (Denotes forms castBound) entries pairs) :
      Lists value pairs

end Listed

section Unique

variable {forms : ValueForms S} {castBound : S.Value -> Option (Bound S.Value)}

theorem Denotes.unique {entry : S.Value} {first second : S.Id × ColumnRange S}
    (firstly : Denotes forms castBound entry first) (secondly : Denotes forms castBound entry second) :
    first = second := by
  cases firstly with
  | equal pair string parsed plain =>
      cases secondly with
      | equal otherPair otherString otherParsed =>
          cases pair.symm.trans otherPair
          cases string.symm.trans otherString
          cases parsed.symm.trans otherParsed
          rfl
      | between otherPair otherString otherParsed parts =>
          cases pair.symm.trans otherPair
          exact absurd parts (plain _ _)
  | between pair string parsed parts below above =>
      cases secondly with
      | equal otherPair otherString otherParsed plain =>
          cases pair.symm.trans otherPair
          exact absurd parts (plain _ _)
      | between otherPair otherString otherParsed otherParts otherBelow otherAbove =>
          cases pair.symm.trans otherPair
          cases string.symm.trans otherString
          cases parsed.symm.trans otherParsed
          cases parts.symm.trans otherParts
          cases below.symm.trans otherBelow
          cases above.symm.trans otherAbove
          rfl

theorem denotes_unique {entries : List S.Value} {first second : List (S.Id × ColumnRange S)}
    (firstly : List.Forall₂ (Denotes forms castBound) entries first)
    (secondly : List.Forall₂ (Denotes forms castBound) entries second) : first = second := by
  induction firstly generalizing second with
  | nil =>
      cases secondly
      rfl
  | cons one others inductionHypothesis =>
      cases secondly with
      | cons again rest => rw [one.unique again, inductionHypothesis rest]

/-- A selector lists its pairs in one way. -/
theorem Lists.unique {value : S.Value} {first second : List (S.Id × ColumnRange S)}
    (firstly : Lists forms castBound value first) (secondly : Lists forms castBound value second) :
    first = second := by
  cases firstly with
  | none absent =>
      cases secondly with
      | none => rfl
      | tuple listed => cases absent.symm.trans listed
  | tuple listed denotes =>
      cases secondly with
      | none absent => cases absent.symm.trans listed
      | tuple again others =>
          cases listed.symm.trans again
          exact denotes_unique denotes others

end Unique

section Accepted

variable {forms : ValueForms S} {castBound : S.Value -> Option (Bound S.Value)} {schema : TableSchema S}

theorem castColumnName_eq_ok {value : S.Value} {name : S.Id}
    (cast : castColumnName forms schema value = .ok name) :
    name ∈ schema.columns ∧ exists text, forms.form value = .string text ∧
      forms.parseId text = some name := by
  unfold castColumnName at cast
  split at cast
  · rename_i text string
    split at cast
    · cases cast
    · rename_i parsed
      split at cast
      · rename_i known
        cases cast
        refine ⟨?_, text, string, parsed⟩
        rcases List.any_eq_true.mp known with ⟨column, member, same⟩
        have equal : column = name := by
          apply Option.some.inj
          rw [← forms.parseId_displayId column, of_decide_eq_true same, forms.parseId_displayId]
        rw [schema.primary_names] at member
        exact equal ▸ member
      · cases cast
  · cases cast

theorem castPair_eq_ok {entry : S.Value} {pair : S.Id × ColumnRange S}
    (cast : castPair forms castBound schema entry = .ok pair) :
    pair.1 ∈ schema.columns ∧ Denotes forms castBound entry pair := by
  unfold castPair at cast
  split at cast
  · rename_i first bound parts
    rcases except_bind_eq_ok.mp cast with ⟨name, named, rest⟩
    rcases except_bind_eq_ok.mp rest with ⟨range, ranged, same⟩
    cases same
    rcases castColumnName_eq_ok named with ⟨known, text, string, parsed⟩
    refine ⟨known, ?_⟩
    unfold castColumnRange at ranged
    split at ranged
    · rename_i lower upper two
      split at ranged
      · cases ranged
      · rename_i below
        split at ranged
        · cases ranged
        · rename_i above
          cases ranged
          exact .between parts string parsed two below above
    · rename_i other
      cases ranged
      exact .equal parts string parsed (fun lower upper two => other lower upper two)
  · cases cast

/-- The loop collects the pairs of its entries. -/
theorem foldlM_castPair {entries : List S.Value} {before range : Range S}
    (cast : entries.foldlM (fun range entry => do
      let pair <- castPair forms castBound schema entry
      return range.insert pair.1 pair.2) before = .ok range) :
    exists pairs, List.Forall₂ (Denotes forms castBound) entries pairs ∧
      (forall pair, pair ∈ pairs -> pair.1 ∈ schema.columns) ∧
      range = pairs.foldl (fun range pair => range.insert pair.1 pair.2) before := by
  induction entries generalizing before with
  | nil =>
      cases cast
      exact ⟨[], .nil, by simp, rfl⟩
  | cons entry entries inductionHypothesis =>
      rw [List.foldlM_cons] at cast
      rcases except_bind_eq_ok.mp cast with ⟨next, one, rest⟩
      rcases except_bind_eq_ok.mp one with ⟨pair, paired, same⟩
      cases same
      rcases castPair_eq_ok paired with ⟨known, denotes⟩
      rcases inductionHypothesis rest with ⟨pairs, listed, columns, folded⟩
      exact ⟨pair :: pairs, .cons denotes listed, List.forall_mem_cons.mpr ⟨known, columns⟩, folded⟩

/-- A pair for a column of the schema is accepted. -/
theorem castPair_of_denotes {entry : S.Value} {pair : S.Id × ColumnRange S}
    (denotes : Denotes forms castBound entry pair) (known : pair.1 ∈ schema.columns) :
    castPair forms castBound schema entry = .ok pair := by
  have column : forall {first : S.Value} {text : String} {name : S.Id}, forms.form first = .string text ->
      forms.parseId text = some name -> name ∈ schema.columns ->
      castColumnName forms schema first = .ok name := by
    intro first text name string parsed member
    rw [castColumnName, string]
    dsimp only
    rw [parsed]
    dsimp only
    rw [if_pos]
    apply List.any_eq_true.mpr
    rw [schema.primary_names]
    exact ⟨name, member, decide_eq_true rfl⟩
  cases denotes with
  | @equal first bound text name parts string parsed plain =>
      have range : castColumnRange forms castBound bound = .ok (.eq bound) := by
        unfold castColumnRange
        split
        · rename_i lower upper two
          exact absurd two (plain lower upper)
        · rfl
      rw [castPair, parts]
      dsimp only
      rw [column string parsed known, range]
      rfl
  | @between first bound lower upper text name lowerBound upperBound parts string parsed two below above =>
      have range : castColumnRange forms castBound bound = .ok (.within (lowerBound, upperBound)) := by
        rw [castColumnRange, two]
        dsimp only
        rw [below]
        dsimp only
        rw [above]
      rw [castPair, parts]
      dsimp only
      rw [column string parsed known, range]
      rfl

/-- A list of pairs for columns of the schema is accepted. -/
theorem castIntoRange_of_lists {value : S.Value} {pairs : List (S.Id × ColumnRange S)}
    (lists : Lists forms castBound value pairs)
    (known : forall pair, pair ∈ pairs -> pair.1 ∈ schema.columns) :
    castIntoRange forms castBound schema value = .ok (Range.ofPairs pairs) := by
  have collects : forall {entries : List S.Value} {pairs : List (S.Id × ColumnRange S)},
      List.Forall₂ (Denotes forms castBound) entries pairs ->
      (forall pair, pair ∈ pairs -> pair.1 ∈ schema.columns) -> forall before : Range S,
      entries.foldlM (fun range entry => do
        let pair <- castPair forms castBound schema entry
        return range.insert pair.1 pair.2) before =
          (.ok (pairs.foldl (fun range pair => range.insert pair.1 pair.2) before) :
            Except TCError (Range S)) := by
    intro entries pairs denotes
    induction denotes with
    | nil => exact fun _ _ => rfl
    | cons one _ inductionHypothesis =>
        intro known before
        rcases List.forall_mem_cons.mp known with ⟨here, later⟩
        rw [List.foldlM_cons, castPair_of_denotes one here]
        exact inductionHypothesis later _
  cases lists with
  | none absent => rw [castIntoRange, absent]; rfl
  | tuple listed denotes =>
      rw [castIntoRange, listed]
      exact collects denotes known Range.default

/-- An accepted selector lists pairs for columns of the schema, and its range
collects them. -/
theorem castIntoRange_eq_ok {value : S.Value} {range : Range S}
    (accepted : castIntoRange forms castBound schema value = .ok range) :
    exists pairs, Lists forms castBound value pairs ∧
      (forall pair, pair ∈ pairs -> pair.1 ∈ schema.columns) ∧ range = Range.ofPairs pairs := by
  unfold castIntoRange at accepted
  split at accepted
  · rename_i entries listed
    rcases foldlM_castPair accepted with ⟨pairs, denotes, columns, folded⟩
    exact ⟨pairs, .tuple listed denotes, columns, folded⟩
  · rename_i absent
    cases accepted
    exact ⟨[], .none absent, by simp, rfl⟩
  · cases accepted

end Accepted

/-! ## What a range admits -/

section Rows

variable {schema : TableSchema S}

/-- The columns of a row with their values. -/
theorem zip_columns (schema : TableSchema S) (row : Row S) :
    schema.columns.zip row = (schema.columnSchema.zip row).map (fun pair => (pair.1.name, pair.2)) := by
  rw [← schema.columnSchema_names, List.zip_map_left]
  rfl

/-- The value of a valid row in a column has the type of the column. -/
theorem ValidRow.typed {row : Row S} (valid : ValidRow schema row) {column : Column S} {value : S.Value}
    (member : (column, value) ∈ schema.columnSchema.zip row) : S.classOf value = column.dtype := by
  apply (validRow_iff.mp valid).2 (value, column.dtype)
  rw [← schema.columnSchema_types, List.zip_map_right]
  apply List.mem_map.mpr
  refine ⟨(value, column), ?_, rfl⟩
  rw [← List.zip_swap]
  exact List.mem_map.mpr ⟨(column, value), member, rfl⟩

/-- A row with a value of its type for every column. -/
theorem validRow_of_values {value : Column S -> S.Value}
    (typed : forall column, column ∈ schema.columnSchema -> S.classOf (value column) = column.dtype) :
    ValidRow schema (schema.columnSchema.map value) := by
  apply validRow_iff.mpr
  constructor
  · rw [List.length_map, ← schema.columnSchema_names, List.length_map]
  · rw [← schema.columnSchema_types, Typed, List.zip_map']
    intro pair member
    rcases List.mem_map.mp member with ⟨column, listed, rfl⟩
    exact typed column listed

theorem mem_zip_values {value : Column S -> S.Value} {pair : Column S × S.Value} :
    pair ∈ schema.columnSchema.zip (schema.columnSchema.map value) <->
      pair.1 ∈ schema.columnSchema ∧ pair.2 = value pair.1 := by
  have paired : schema.columnSchema.zip (schema.columnSchema.map value) =
      schema.columnSchema.map (fun column => (column, value column)) := by
    nth_rewrite 1 [← List.map_id schema.columnSchema]
    exact List.zip_map' ..
  rw [paired, List.mem_map]
  constructor
  · intro listed
    rcases listed with ⟨column, member, rfl⟩
    exact ⟨member, rfl⟩
  · intro both
    exact ⟨pair.1, both.1, Prod.ext rfl both.2.symm⟩

/-- A range admits a row if it admits each of its values in the column. -/
theorem admits_iff {range : Range S} {row : Row S} :
    schema.admits range row = true <->
      forall column value, (column, value) ∈ schema.columnSchema.zip row ->
        range.admitsAt column.name value = true := by
  rw [TableSchema.admits, zip_columns, List.all_map, List.all_eq_true]
  constructor
  · intro all column value member
    exact all (column, value) member
  · intro all pair member
    exact all pair.1 pair.2 member

/-- A row satisfies a pair in every column of its name. -/
def Satisfies (schema : TableSchema S) (row : Row S) (pair : S.Id × ColumnRange S) : Prop :=
  forall column value, (column, value) ∈ schema.columns.zip row -> column = pair.1 ->
    pair.2.admits value = true

theorem satisfies_iff {row : Row S} {pair : S.Id × ColumnRange S} :
    Satisfies schema row pair <->
      forall column value, (column, value) ∈ schema.columnSchema.zip row -> column.name = pair.1 ->
        pair.2.admits value = true := by
  rw [Satisfies, zip_columns]
  constructor
  · intro satisfied column value member
    exact satisfied column.name value (List.mem_map.mpr ⟨(column, value), member, rfl⟩)
  · intro satisfied name value member
    rcases List.mem_map.mp member with ⟨both, listed, same⟩
    cases same
    exact satisfied both.1 both.2 listed

/-- A range means the conjunction of some pairs: it admits the rows of the
schema which satisfy all of them. -/
def MeansAll (schema : TableSchema S) (range : Range S) (pairs : List (S.Id × ColumnRange S)) : Prop :=
  forall row, ValidRow schema row ->
    (schema.admits range row = true <-> forall pair, pair ∈ pairs -> Satisfies schema row pair)

/-- Of the pairs for one column none is stricter than the last, on values of the
type of the column. -/
def LastIsStrictest (schema : TableSchema S) (pairs : List (S.Id × ColumnRange S)) : Prop :=
  forall pair, pair ∈ pairs -> forall column, column ∈ schema.columnSchema -> column.name = pair.1 ->
    forall value bound, S.classOf value = column.dtype -> lastBound pairs pair.1 = some bound ->
      bound.admits value = true -> pair.2.admits value = true

/-- The last pair for some column admits no value of its type. -/
def AdmitsNothing (schema : TableSchema S) (pairs : List (S.Id × ColumnRange S)) : Prop :=
  exists column, column ∈ schema.columnSchema ∧ forall value, S.classOf value = column.dtype ->
    exists bound, lastBound pairs column.name = some bound ∧ bound.admits value = false

theorem ofPairs_admitsAt {pairs : List (S.Id × ColumnRange S)} {name : S.Id} {value : S.Value} :
    (Range.ofPairs pairs).admitsAt name value = true <->
      forall bound, lastBound pairs name = some bound -> bound.admits value = true := by
  rw [ofPairs_eq_lastBound, Range.admitsAt]
  cases lastBound pairs name with
  | none => simp
  | some bound => simp

/-- A row which satisfies all pairs satisfies the last ones. -/
theorem admits_of_satisfies {pairs : List (S.Id × ColumnRange S)} {row : Row S}
    (satisfied : forall pair, pair ∈ pairs -> Satisfies schema row pair) :
    schema.admits (Range.ofPairs pairs) row = true := by
  apply admits_iff.mpr
  intro column value member
  apply ofPairs_admitsAt.mpr
  intro bound last
  exact satisfies_iff.mp (satisfied _ (mem_of_lastBound last)) column value member rfl

/-- Every column of a valid row has a value. -/
theorem ValidRow.value_at {row : Row S} (valid : ValidRow schema row) {column : Column S}
    (member : column ∈ schema.columnSchema) :
      exists value, (column, value) ∈ schema.columnSchema.zip row := by
  rcases List.getElem_of_mem member with ⟨index, inside, rfl⟩
  have width : row.length = schema.columnSchema.length := by
    rw [(validRow_iff.mp valid).1, ← schema.columnSchema_names, List.length_map]
  have within : index < row.length := by
    rw [width]
    exact inside
  have both : index < (schema.columnSchema.zip row).length := by
    rw [List.length_zip]
    omega
  refine ⟨row[index], ?_⟩
  have here := List.getElem_mem both
  rwa [List.getElem_zip] at here

/-- If an earlier pair is stricter on some value, a row with that value there and
admitted values elsewhere is admitted, and violates the pair. -/
theorem exists_violation {pairs : List (S.Id × ColumnRange S)} (laxer : ¬ LastIsStrictest schema pairs)
    (inhabited : ¬ AdmitsNothing schema pairs) :
    exists row, ValidRow schema row ∧ schema.admits (Range.ofPairs pairs) row = true ∧
      exists pair, pair ∈ pairs ∧ ¬ Satisfies schema row pair := by
  classical
  simp only [LastIsStrictest, not_forall] at laxer
  rcases laxer with ⟨pair, member, column, columnMember, named, value, bound, typed, last, admitted, violated⟩
  have fillers : forall other, other ∈ schema.columnSchema -> exists filler,
      S.classOf filler = other.dtype ∧ (Range.ofPairs pairs).admitsAt other.name filler = true := by
    intro other otherMember
    by_contra none
    apply inhabited
    refine ⟨other, otherMember, ?_⟩
    intro filler fillerTyped
    by_contra kept
    apply none
    refine ⟨filler, fillerTyped, ofPairs_admitsAt.mpr ?_⟩
    intro otherBound otherLast
    by_contra refused
    exact kept ⟨otherBound, otherLast, eq_false_of_ne_true refused⟩
  have nonempty : Nonempty S.Value := ⟨value⟩
  choose! filler fillerTyped fillerAdmitted using fillers
  have cellTyped : forall other, other ∈ schema.columnSchema ->
      S.classOf (if other = column then value else filler other) = other.dtype := by
    intro other otherMember
    split
    · rename_i same
      rw [same, typed]
    · exact fillerTyped other otherMember
  refine ⟨schema.columnSchema.map (fun other => if other = column then value else filler other),
    validRow_of_values cellTyped, admits_iff.mpr ?_, pair, member, ?_⟩
  · intro other cell here
    rcases mem_zip_values.mp here with ⟨otherMember, same⟩
    dsimp only at same otherMember
    rw [same]
    split
    · rename_i atColumn
      rw [atColumn, named]
      apply ofPairs_admitsAt.mpr
      intro otherBound otherLast
      cases last.symm.trans otherLast
      exact admitted
    · exact fillerAdmitted other otherMember
  · intro satisfied
    apply violated
    apply satisfies_iff.mp satisfied column value ?_ named
    apply mem_zip_values.mpr
    exact ⟨columnMember, (if_pos rfl).symm⟩

/-- Collected into a range, pairs mean their conjunction if and only if the last
pair for each column is the strictest, or the range is empty anyway. -/
theorem meansAll_ofPairs_iff (schema : TableSchema S) (pairs : List (S.Id × ColumnRange S)) :
    MeansAll schema (Range.ofPairs pairs) pairs <->
      LastIsStrictest schema pairs ∨ AdmitsNothing schema pairs := by
  constructor
  · intro means
    by_contra neither
    rcases not_or.mp neither with ⟨laxer, inhabited⟩
    rcases exists_violation laxer inhabited with ⟨row, valid, admitted, pair, member, violated⟩
    exact violated ((means row valid).mp admitted pair member)
  · intro either row valid
    constructor
    · intro admitted pair member
      rcases either with strictest | nothing
      · apply satisfies_iff.mpr
        intro column value here named
        rcases lastBound_of_mem member with ⟨bound, last⟩
        have columnMember : column ∈ schema.columnSchema := (List.of_mem_zip here).1
        apply strictest pair member column columnMember named value bound (valid.typed here) last
        have atColumn := admits_iff.mp admitted column value here
        rw [named] at atColumn
        exact ofPairs_admitsAt.mp atColumn bound last
      · rcases nothing with ⟨column, columnMember, empty⟩
        rcases valid.value_at columnMember with ⟨value, here⟩
        rcases empty value (valid.typed here) with ⟨bound, last, refused⟩
        have atColumn := ofPairs_admitsAt.mp (admits_iff.mp admitted column value here) bound last
        rw [refused] at atColumn
        cases atColumn
    · exact admits_of_satisfies

end Rows

/-- The range of an accepted selector means the conjunction of all that it lists
if and only if the last pair for each column is the strictest, or the range is
empty anyway. -/
theorem castIntoRange_meansAll_iff {forms : ValueForms S} {castBound : S.Value -> Option (Bound S.Value)}
    {schema : TableSchema S} {value : S.Value} {range : Range S} {pairs : List (S.Id × ColumnRange S)}
    (accepted : castIntoRange forms castBound schema value = .ok range)
    (lists : Lists forms castBound value pairs) :
    MeansAll schema range pairs <-> LastIsStrictest schema pairs ∨ AdmitsNothing schema pairs := by
  rcases castIntoRange_eq_ok accepted with ⟨collected, alsoLists, _, rfl⟩
  rw [lists.unique alsoLists]
  exact meansAll_ofPairs_iff schema collected

/-! ## One column twice -/

/-- Bounds with a tag. -/
def taggedBound : Datum -> Option (Bound Datum)
  | .none => some .unbounded
  | .tuple [.text tag, value] =>
      if tag = "in" then some (.included value) else if tag = "ex" then some (.excluded value) else none
  | _ => none

/-- An equality for the key column. -/
def keyIs (value : Nat) : Datum := .tuple [.text "key", .number value]

/-- Keys from one on, and then the key itself. -/
def fromOneThen (value : Nat) : Datum :=
  .tuple [.tuple [.text "key", .tuple [.tuple [.text "in", .number 1], .none]], keyIs value]

def fromOneThenPairs (value : Nat) : List (Signature.data.Id × ColumnRange Signature.data) :=
  [("key", .within (.included (Datum.number 1), .unbounded)), ("key", .eq (Datum.number value))]

theorem fromOneThen_lists (value : Nat) :
    Lists ValueForms.data taggedBound (fromOneThen value) (fromOneThenPairs value) := by
  apply Lists.tuple rfl
  refine .cons (.between rfl rfl rfl rfl rfl rfl) (.cons (.equal rfl rfl rfl ?_) .nil)
  intro lower upper impossible
  cases impossible

theorem fromOneThen_accepted (value : Nat) :
    castIntoRange ValueForms.data taggedBound labelledSchema (fromOneThen value) =
      .ok (Range.ofPairs (fromOneThenPairs value)) := by
  apply castIntoRange_of_lists (fromOneThen_lists value)
  intro pair member
  simp only [fromOneThenPairs, List.mem_cons, List.not_mem_nil, or_false] at member
  have key : ("key" : String) ∈ ["key", "value"] := List.mem_cons_self
  rcases member with rfl | rfl
  · exact key
  · exact key

theorem fromOneThen_last (value : Nat) :
    lastBound (fromOneThenPairs value) "key" = some (.eq (Datum.number value)) := by
  rw [← ofPairs_eq_lastBound, Range.ofPairs, fromOneThenPairs, List.foldl_cons, List.foldl_cons,
    List.foldl_nil]
  unfold Range.insert
  exact if_pos rfl

/-- The later pair is the stricter one: key two is from one on. -/
theorem castIntoRange_meansAll_iff_two :
    MeansAll labelledSchema (Range.ofPairs (fromOneThenPairs 2)) (fromOneThenPairs 2) := by
  apply (castIntoRange_meansAll_iff (fromOneThen_accepted 2) (fromOneThen_lists 2)).mpr
  left
  intro pair member column _ _ value bound _ last admitted
  simp only [fromOneThenPairs, List.mem_cons, List.not_mem_nil, or_false] at member
  have named : pair.1 = "key" := by
    rcases member with rfl | rfl
    · rfl
    · rfl
  rw [named, fromOneThen_last] at last
  cases last
  have compared : Signature.data.collate (Datum.number 2) value = .eq := beq_iff_eq.mp admitted
  have same : Datum.number 2 = value := Signature.data.collate_eq.eq_of_compare compared
  rcases member with rfl | rfl
  · rw [← same]
    decide +kernel
  · exact admitted

def zeroRow : Row Signature.data := [Datum.number 0, Datum.number 5]

/-- Key zero is admitted, although it is not from one on. -/
theorem not_meansAll_zero :
    castIntoRange ValueForms.data taggedBound labelledSchema (fromOneThen 0) =
        .ok (Range.ofPairs (fromOneThenPairs 0)) ∧
      Lists ValueForms.data taggedBound (fromOneThen 0) (fromOneThenPairs 0) ∧
      ¬ MeansAll labelledSchema (Range.ofPairs (fromOneThenPairs 0)) (fromOneThenPairs 0) := by
  refine ⟨fromOneThen_accepted 0, fromOneThen_lists 0, ?_⟩
  intro means
  have valid : ValidRow labelledSchema zeroRow := validRow_iff.mpr (by decide +kernel)
  have admitted : labelledSchema.admits (Range.ofPairs (fromOneThenPairs 0)) zeroRow = true := by
    decide +kernel
  have satisfied := (means zeroRow valid).mp admitted _ List.mem_cons_self "key" (Datum.number 0)
    (by decide +kernel) rfl
  revert satisfied
  decide +kernel

end Table
end TransactionalCollection
