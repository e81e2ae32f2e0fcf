import TransactionalCollection.Table.Atomicity
import TransactionalCollection.Table.ViewReads

namespace TransactionalCollection
namespace Table

open Layering Native Execution Persistence Streaming

/-!
# Slices of slices

A slice of a slice bounds each column as the last of the ranges which bounds it
at all, and the rest of the chain bounds that column no more.  Of a range of
keys it shows the rows of the whole table, in the same order, and what is
written through it stays in that range.
-/

variable {S : Signature} {schema : TableSchema S}

/-! ## What a range write leaves alone -/

section Frames

variable {ops : TableOps S} {txn : TxnId} {range : Range S} {key : Key S}

/-- No row which the range admits has this key. -/
def OutOfRange (schema : TableSchema S) (range : Range S) (key : Key S) : Prop :=
  forall row, ValidRow schema row -> schema.admits range row = true -> keyOf schema row ≠ key

theorem scanned_outOfRange (outside : OutOfRange schema range key) {snapshot : TableSnapshot schema}
    {row : Row S} (member : row ∈ scanned ops snapshot range [] false) : keyOf schema row ≠ key :=
  outside row (scanned_valid ops member) ((mem_scanned_iff ops).mp member).1

/-- Without a plan for the range, a mutation gives up before it writes. -/
theorem reserved_unplanned_view {E : Type} (translate : LockError -> E)
    (work : TableState schema -> EStateM E (Delta schema) PUnit)
    {body : EStateM E (TableState schema) PUnit}
    (shape : body = (mapError translate (pendingDeltaForTxn txn) >>= fun pending state =>
      State.writePending txn pending (work state) state))
    (idle : forall state pending, finalState (work state pending) = pending)
    (owner : PersistentTable schema) :
    (finalState (reserved translate txn .all body owner)).state.view txn = owner.state.view txn := by
  rcases reserved_pending_cases translate txn .all work shape owner with
    ⟨⟨_, _, refused⟩, _⟩ | ⟨semaphore, pending, middle, _, _, fetched, outcome⟩
  · rw [refused]
    rfl
  · have unchanged : (middle.setPending txn pending).view txn = owner.state.view txn := by
      rw [setPending_view]
      exact (fetched_view fetched).2.2
    have still := idle middle pending
    rcases outcome with ⟨after, worked, done⟩ | ⟨_, after, worked, failed⟩
    · rw [worked] at still
      rw [done, finalState_ok, show after = pending from still]
      exact unchanged
    · rw [worked] at still
      rw [failed, finalState_error, show after = pending from still]
      exact unchanged

theorem update_outOfRange (outside : OutOfRange schema range key) (values : List (S.Id × S.Value))
    (owner : PersistentTable schema) :
    (finalState (update ops txn range values owner)).state.view txn key = owner.state.view txn key := by
  cases planned : ops.plan schema range [] with
  | ok supported =>
      cases outcome : update ops txn range values owner with
      | ok value after =>
          rw [finalState_ok, update_ok_view planned outcome]
          apply replay_map_of_not_mem (keyOf schema)
          · intro row member
            exact ((scanned_valid ops member).assign_parts values).2.1
          · intro row member
            exact scanned_outOfRange outside member
      | error failure after =>
          rw [finalState_error]
          rcases update_failed_view planned outcome with
            ⟨same, _⟩ | ⟨row, rest, _, _, _, stream, viewed⟩
          · rw [same]
          · rw [rows_supported planned] at stream
            have member := Except.ok.inj stream ▸ List.mem_cons_self
            rw [viewed, if_neg (scanned_outOfRange outside member)]
  | error error =>
      rw [update]
      cases notUpdatable schema values with
      | some entry => rfl
      | none =>
          dsimp only
          rw [reserved_unplanned_view Failure.error _ (updateReserved_eq ops txn range values)]
          intro state pending
          rw [Delta.updateVisible, openRows, rowStream, planned]
          rfl

theorem truncate_outOfRange (outside : OutOfRange schema range key) (owner : PersistentTable schema) :
    (finalState (truncate ops txn range owner)).state.view txn key = owner.state.view txn key := by
  cases planned : ops.plan schema range [] with
  | ok supported =>
      rcases truncate_cases planned txn owner with
        ⟨⟨_, _, failed⟩, _⟩ | ⟨_, _, _, _, _, _, _, _, done⟩
      · rw [failed]
        rfl
      · rw [done, finalState_ok]
        have viewed := truncate_ok_view planned done
        change _ = _ at viewed
        rw [viewed]
        apply replay_map_of_not_mem (keyOf schema) (fun _ _ => rfl)
        intro row member
        exact scanned_outOfRange outside member
  | error error =>
      rw [truncate, reserved_unplanned_view Failure.error _ (truncateReserved_eq ops txn range)]
      intro state pending
      rw [Delta.truncateVisible, rowStream, planned]
      rfl

/-- A local rewriting as well outside the keys which no row in range has. -/
theorem rewriteLocal_outOfRange (outside : OutOfRange schema range key)
    (updates : Option (List (S.Id × S.Value))) (table : TableLock schema) :
    (finalState (rewriteLocal ops range updates table)).rows[key]? = table.rows[key]? := by
  cases planned : ops.plan schema range [] with
  | ok supported =>
      rcases rewriteLocal_cases planned updates table with ⟨_, _, _, refused⟩ | ⟨_, after, done, viewed⟩
      · rw [refused]
        rfl
      · rw [done, finalState_ok]
        change bindings after key = bindings table key
        rw [viewed, rewriteView]
        cases found : bindings table key with
        | none => rfl
        | some old =>
            have valid := table.valid key old found
            have apart : schema.admits range (key ++ old) = false := by
              by_contra admitted
              rw [Bool.not_eq_false] at admitted
              have row := ValidRow.of_parts valid.1 valid.2
              exact outside _ row.1 admitted row.2.1
            rw [Option.bind_some, apart]
            rfl
  | error error =>
      rw [rewriteLocal, rowStream, planned]
      rfl

/-- Whatever comes of a range write to a source, it stays in its range. -/
theorem TableSource.update_sameAt (outside : OutOfRange schema range key)
    (values : List (S.Id × S.Value)) (source : TableSource schema) :
    Handle.SameAt txn key source.handle (finalState (TableSource.update ops txn range values source)).handle := by
  cases source with
  | file owner =>
      rw [TableSource.update, finalState_rewrap, finalState_mapError]
      exact Handle.sameAt_file (update_outOfRange outside values owner)
  | localTable table =>
      rw [TableSource.update, finalState_rewrap, finalState_mapError]
      apply Handle.sameAt_local
      rw [updateLocal]
      cases notUpdatable schema values with
      | some entry => rfl
      | none => exact rewriteLocal_outOfRange outside (some values) table

theorem TableSource.truncate_sameAt (outside : OutOfRange schema range key)
    (source : TableSource schema) :
    Handle.SameAt txn key source.handle (finalState (TableSource.truncate ops txn range source)).handle := by
  cases source with
  | file owner =>
      rw [TableSource.truncate, finalState_rewrap, finalState_mapError]
      exact Handle.sameAt_file (truncate_outOfRange outside owner)
  | localTable table =>
      rw [TableSource.truncate, finalState_rewrap, finalState_mapError]
      exact Handle.sameAt_local (rewriteLocal_outOfRange outside none table)

end Frames

/-! ## Chains of slices -/

/-- The bound which the last range of a chain puts on each column, of those
which bound it. -/
def lastBounds (chain : List (Range S)) : Range S :=
  fun name => chain.reverse.findSome? (fun range => range name)

theorem lastBounds_append (chain : List (Range S)) (last : Range S) (name : S.Id) :
    lastBounds (chain ++ [last]) name = (last name).or (lastBounds chain name) := by
  unfold lastBounds
  rw [List.reverse_append, List.reverse_singleton, List.singleton_append, List.findSome?_cons]
  cases last name with
  | none => rfl
  | some bound => rfl

theorem lastBounds_onKeys {chain : List (Range S)}
    (onKeys : forall range, range ∈ chain -> range.OnKeys schema) :
    (lastBounds chain).OnKeys schema := by
  intro name value
  apply List.findSome?_eq_none_iff.mpr
  intro range member
  exact onKeys range (List.mem_reverse.mp member) name value

/-- A chain of slices is one slice with the last bounds. -/
theorem foldl_slice (slice : TableSlice schema) (first : List (Range S)) (chain : List (Range S))
    (start : slice.range = lastBounds first) :
    chain.foldl TableSlice.slice slice = { slice with range := lastBounds (first ++ chain) } := by
  induction chain generalizing slice first with
  | nil =>
      rw [List.append_nil, ← start]
      rfl
  | cons range chain inductionHypothesis =>
      have step : (slice.slice range).range = lastBounds (first ++ [range]) := by
        funext name
        rw [lastBounds_append, ← start]
        rfl
      rw [List.foldl_cons, inductionHypothesis (slice.slice range) (first ++ [range]) step,
        List.append_assoc]
      rfl

/-- A row satisfies what two ranges have in common if it satisfies both. -/
theorem RangeOps.admits_both (ranges : RangeOps S) {left right both : Range S}
    (met : ranges.intersection left right = some both) (row : Row S) :
    schema.admits both row = (schema.admits left row && schema.admits right row) := by
  have columns : forall column : S.Id × S.Value,
      (both column.1).all (fun bound => bound.admits column.2) =
        ((left column.1).all (fun bound => bound.admits column.2) &&
          (right column.1).all (fun bound => bound.admits column.2)) :=
    fun column => ranges.some_admits met column.1 column.2
  simp only [TableSchema.admits, columns]
  induction schema.columns.zip row with
  | nil => rfl
  | cons column rest inductionHypothesis =>
      rw [List.all_cons, List.all_cons, List.all_cons, inductionHypothesis]
      rw [Bool.and_assoc, Bool.and_assoc]
      congr 1
      exact Bool.and_left_comm _ _ _

/-- No row in what a range of keys has in common with another has a key which
the range of keys does not admit. -/
theorem outOfRange_both {ranges : RangeOps S} {left right both : Range S}
    (met : ranges.intersection left right = some both) (onKeys : left.OnKeys schema) {key : Key S}
    (apart : schema.admitsKey left key = false) : OutOfRange schema both key := by
  intro row valid admitted same
  rw [ranges.admits_both met, Bool.and_eq_true] at admitted
  have inside := admitted.1
  rw [valid.parts, schema.admits_of_onKeys onKeys valid.key.1, same, apart] at inside
  cases inside

theorem TableSlice.onSource_table
    (program : EStateM (Failure OpError) (TableSource schema) PUnit) (slice : TableSlice schema) :
    (finalState (onSource program slice)).table = finalState (program slice.table) := by
  unfold onSource
  cases outcome : program slice.table with
  | ok value table =>
      rw [focus_of_ok outcome]
      rfl
  | error error table =>
      rw [focus_of_error outcome]
      rfl

/-- What is written through a slice of keys stays in it. -/
theorem TableSlice.writes_sameAt (ops : TableOps S) (ranges : RangeOps S) (txn : TxnId)
    {slice : TableSlice schema} (onKeys : slice.range.OnKeys schema) (range : Range S) {key : Key S}
    (apart : schema.admitsKey slice.range key = false) :
    (forall values, Handle.SameAt txn key slice.table.handle
      (finalState (slice.update ops ranges txn range values)).table.handle) ∧
    Handle.SameAt txn key slice.table.handle (finalState (slice.truncate ops ranges txn range)).table.handle := by
  cases met : ranges.intersection slice.range range with
  | none =>
      constructor
      · intro values
        rw [TableSlice.update, met]
        exact Handle.SameAt.refl txn key _
      · rw [TableSlice.truncate, met]
        exact Handle.SameAt.refl txn key _
  | some both =>
      have outside := outOfRange_both met onKeys apart
      constructor
      · intro values
        rw [TableSlice.update, met]
        dsimp only
        rw [onSource_table]
        exact TableSource.update_sameAt outside values slice.table
      · rw [TableSlice.truncate, met]
        dsimp only
        rw [onSource_table]
        exact TableSource.truncate_sameAt outside slice.table

/-- The rows of a chain of slices are those of the whole table which satisfy the
last bound that the chain puts on each key column, and no key which does not is
affected by what is written through the chain. -/
theorem slice_chain_lastBounds {ops : TableOps S} {schema : TableSchema S}
    {source : TableSource schema} (stands : Stands ops source) (ranges : RangeOps S) (txn : TxnId)
    {first : Range S} {rest : List (Range S)}
    (onKeys : forall range, range ∈ first :: rest -> range.OnKeys schema)
    (supported : ops.plan schema (lastBounds (first :: rest)) [] = .ok ()) (reverse : Bool) :
    exists top slice, source.handle.slice first [] reverse = .ok top ∧
      rest.foldl TableSlice.slice top = slice ∧
      (exists everything, (source.rows ops txn Range.default [] reverse).1 = .ok everything ∧
        (slice.rows ops txn).1 =
          .ok (everything.filter (schema.admits (lastBounds (first :: rest))))) ∧
      forall range key, schema.admitsKey (lastBounds (first :: rest)) key = false ->
        (forall values, Handle.SameAt txn key source.handle
          (finalState (slice.update ops ranges txn range values)).table.handle) ∧
        Handle.SameAt txn key source.handle
          (finalState (slice.truncate ops ranges txn range)).table.handle := by
  have bounded : (lastBounds (first :: rest)).OnKeys schema := lastBounds_onKeys onKeys
  have start : first = lastBounds [first] := by
    funext name
    exact ((lastBounds_append [] first name).trans Option.or_none).symm
  refine ⟨_, _, source.handle_slice first [] reverse, foldl_slice _ [first] rest start, ?_, ?_⟩
  · refine ⟨_, source.rows_eq (ops.plan_default schema) txn reverse, ?_⟩
    rw [← source.listed_filter (stands.apart txn) bounded reverse]
    exact source.rows_eq supported txn reverse
  · intro range key apart
    exact TableSlice.writes_sameAt ops ranges txn bounded range apart

/-- The row under a key of the pairs. -/
def atKey (number : Nat) : Range Signature.numbers :=
  Range.default.insert (Signature.column 0) (.eq (Signature.number number))

theorem atKey_onKeys (number : Nat) : (atKey number).OnKeys pairSchema := by
  intro name member
  rw [List.mem_singleton.mp member]
  rfl

theorem slice_chain_lastBounds_twoPairs :
    exists top slice, (Handle.localTable twoPairs).slice (atKey 1) [] false = .ok top ∧
      [atKey 2].foldl TableSlice.slice top = slice ∧
      (exists everything,
        ((TableSource.localTable twoPairs).rows TableOps.reference 1 Range.default [] false).1 =
          .ok everything ∧
        (slice.rows TableOps.reference 1).1 =
          .ok (everything.filter (pairSchema.admits (lastBounds [atKey 1, atKey 2])))) ∧
      forall range key, pairSchema.admitsKey (lastBounds [atKey 1, atKey 2]) key = false ->
        (forall values, Handle.SameAt 1 key (.localTable twoPairs)
          (finalState (slice.update TableOps.reference RangeOps.reference 1 range values)).table.handle) ∧
        Handle.SameAt 1 key (.localTable twoPairs)
          (finalState (slice.truncate TableOps.reference RangeOps.reference 1 range)).table.handle := by
  have bounded : forall range, range ∈ [atKey 1, atKey 2] -> range.OnKeys pairSchema := by
    intro range member
    rcases List.mem_cons.mp member with rfl | listed
    · exact atKey_onKeys 1
    · rw [List.mem_singleton.mp listed]
      exact atKey_onKeys 2
  exact slice_chain_lastBounds (Stands.localTable twoPairs) RangeOps.reference 1 bounded rfl false

/-- The second slice shows a row which is not in the first. -/
theorem slice_shows_row_outside_parent :
    exists top slice stream row, (Handle.localTable twoPairs).slice (atKey 1) [] false = .ok top ∧
      top.slice (atKey 2) = slice ∧ (slice.rows TableOps.reference 1).1 = .ok stream ∧
      row ∈ stream ∧ pairSchema.admits (atKey 1) row = false := by
  refine ⟨_, _, _, [Signature.number 2, Signature.number 6], rfl, rfl, rfl, ?_, ?_⟩
  · decide +kernel
  · decide +kernel

end Table
end TransactionalCollection
