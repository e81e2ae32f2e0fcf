import TransactionalCollection.BTree.Codec
import TransactionalCollection.BTree.Reads

namespace TransactionalCollection
namespace Tree

open Layering Native Execution Persistence Streaming

/-!
# Literal rows

A row can be loaded without a transaction, from a value.  It goes to canonical
storage at once.  The key of a tree with one column is written as the value in
that column, whatever it is, and any other key as a tuple.
-/

variable {S : Signature} {schema : BTreeSchema S} (forms : ValueForms S)

namespace BTreeSchema

def normalizeRow (schema : BTreeSchema S) (row : S.Value) : Except TCError (Key S) :=
  if schema.keyArity = 1 then schema.validateKey [row]
  else
    match forms.form row with
    | .tuple values =>
        if values.length = schema.keyArity then schema.validateKey values
        else
          let arities := s!"{values.length} does not match schema arity {schema.keyArity}"
          .error (.badRequest s!"tc-collection BTree key arity {arities}")
    | _ =>
        let shapes := s!"a tuple of length {schema.keyArity} but got {S.debugValue row}"
        .error (.badRequest s!"tc-collection BTree key must be {shapes}")

theorem validateKey_of_valid {key : Key S} (valid : schema.ValidKey key) :
    schema.validateKey key = .ok key := by
  rw [validateKey, if_neg (not_not_intro valid.1), (checkTypes_eq_ok_iff _ 0 key _).mpr valid.2]

end BTreeSchema

def loadLiteralRow (row : S.Value) : EStateM IoError (BTree schema) PUnit := fun owner =>
  match schema.normalizeRow forms row with
  | .error error => .error (.invalidInput error.message) owner
  | .ok key => CollectionOwner.onPersistent (insertKey key) owner

/-! ## Keys as values -/

/-- A key as a value. -/
def literal : Key S -> S.Value
  | [value] => value
  | key => forms.tuple key

/-- Only the key of a single column is unwrapped. -/
theorem literal_cases (key : Key S) :
    (exists value, key = [value] ∧ literal forms key = value) ∨
      (key.length ≠ 1 ∧ literal forms key = forms.tuple key) := by
  match key with
  | [] => exact Or.inr ⟨Nat.zero_ne_one, rfl⟩
  | [value] => exact Or.inl ⟨value, rfl, rfl⟩
  | first :: second :: rest => exact Or.inr ⟨by simp, rfl⟩

/-- A key is read back from its value, even if it is a single tuple. -/
theorem normalizeRow_literal {key : Key S} (valid : schema.ValidKey key) :
    schema.normalizeRow forms (literal forms key) = .ok key := by
  have checked := BTreeSchema.validateKey_of_valid valid
  rcases literal_cases forms key with ⟨value, rfl, written⟩ | ⟨several, written⟩
  · have single : schema.keyArity = 1 := valid.1.symm
    rw [written, BTreeSchema.normalizeRow, if_pos single, checked]
  · have wide : schema.keyArity ≠ 1 := by
      rw [← valid.1]
      exact several
    rw [written, BTreeSchema.normalizeRow, if_neg wide, forms.form_tuple]
    dsimp only
    rw [if_pos valid.1, checked]

theorem loadLiteralRow_literal {key : Key S} (valid : schema.ValidKey key) {before after : BTreeLock schema}
    (done : insertKey key before = .ok ⟨⟩ after) :
    loadLiteralRow forms (literal forms key) (CollectionOwner.new before : BTree schema) =
      .ok ⟨⟩ (CollectionOwner.new after) := by
  rw [loadLiteralRow, normalizeRow_literal forms valid]
  exact CollectionOwner.onPersistent_new done

/-! ## Loading keys -/

theorem insertAll_of_valid {keys : List (Key S)} (valid : forall key, key ∈ keys -> schema.ValidKey key)
    (tree : BTreeLock schema) :
    exists after, forM keys insertKey tree = .ok ⟨⟩ after ∧
      forall key, key ∈ after.keys <-> key ∈ keys ∨ key ∈ tree.keys := by
  induction keys generalizing tree with
  | nil => exact ⟨tree, rfl, fun key => by simp⟩
  | cons first keys inductionHypothesis =>
      rcases List.forall_mem_cons.mp valid with ⟨firstValid, valid⟩
      rcases inductionHypothesis valid (tree.insertValid first firstValid) with ⟨after, done, holds⟩
      refine ⟨after, ?_, ?_⟩
      · rw [List.forM_cons, bind_eq_ok]
        exact ⟨⟨⟩, _, insertKey_of_valid firstValid tree, done⟩
      · intro key
        rw [holds, BTreeLock.mem_insertValid, List.mem_cons]
        tauto

/-- Any loop which loads keys from their literals into an empty tree loads
exactly these keys. -/
theorem load_literals {I E : Type} {write : Key S -> I} {load : I -> EStateM E (BTree schema) PUnit}
    {keys : List (Key S)} (valid : forall key, key ∈ keys -> schema.ValidKey key)
    (loads : forall key, key ∈ keys -> forall owner after : BTree schema,
      loadLiteralRow forms (literal forms key) owner = .ok ⟨⟩ after ->
        load (write key) owner = .ok ⟨⟩ after) :
    exists tree : BTreeLock schema,
      forM (keys.map write) load (CollectionOwner.new BTreeLock.empty) = .ok ⟨⟩ (CollectionOwner.new tree) ∧
        forall key, key ∈ tree.keys <-> key ∈ keys := by
  rcases insertAll_of_valid valid BTreeLock.empty with ⟨tree, inserted, holds⟩
  refine ⟨tree, ?_, ?_⟩
  · apply forM_embeds ?_ inserted
    intro key member before after one
    exact loads key member _ _ (loadLiteralRow_literal forms (valid key member) one)
  · intro key
    rw [holds, or_iff_left BTreeLock.not_mem_empty]

/-! ## What a loaded tree shows -/

/-- What a tree shows is valid for its schema. -/
theorem valid_of_view {snapshot : VisibleSnapshot (Delta schema) (BTreeLock schema)} {key : Key S}
    (viewed : snapshot.view key = some ()) : schema.ValidKey key := by
  have stored : forall (tree : BTreeLock schema) (key : Key S) (value : Unit),
      bindings tree key = some value -> schema.ValidKey key := by
    intro tree key value found
    apply tree.valid key
    by_contra absent
    have unbound : bindings tree key = none := if_neg absent
    cases unbound.symm.trans found
  have answered : forall layer, layer ∈ snapshot.deltas.map overlay ->
      forall (key : Key S) (value : Unit), layer key = some (some value) -> schema.ValidKey key := by
    intro layer member key value found
    rcases List.mem_map.mp member with ⟨delta, _, rfl⟩
    apply delta.inserts.valid key
    by_contra absent
    have silent : delta.answers key = if containsKey delta.deletes key then some none else none :=
      if_neg absent
    have bound : delta.answers key = some (some value) := found
    rw [silent] at bound
    split at bound
    · cases bound
    · cases bound
  exact stack_binds (stored snapshot.persistent) answered viewed

/-- A visible key has a first column. -/
theorem ne_nil_of_view {snapshot : VisibleSnapshot (Delta schema) (BTreeLock schema)} {key : Key S}
    (viewed : snapshot.view key = some ()) : key ≠ [] := by
  intro empty
  have arity := (valid_of_view viewed).1
  rw [empty] at arity
  exact absurd arity (Nat.ne_of_lt schema.arity_pos)

theorem keys_valid {collate : StreamOps} {txn : TxnId} {bounds : Bounds S} {reverse : Bool}
    {owner : BTree schema} {key : Key S} (member : key ∈ (keys collate txn bounds reverse owner).1) :
    schema.ValidKey key :=
  valid_of_view (mem_keys_iff.mp member).2

/-- A tree loaded with the keys of a stream shows these keys, to everyone. -/
theorem loaded_view {collate : StreamOps} {txn : TxnId} {bounds : Bounds S} {reverse : Bool}
    {owner : BTree schema} {tree : BTreeLock schema}
    (holds : forall key, key ∈ tree.keys <-> key ∈ (keys collate txn bounds reverse owner).1)
    (later : TxnId) :
    (CollectionOwner.new tree : BTree schema).state.view later =
      fun key => if boundsContain bounds key then owner.state.view txn key else none := by
  funext key
  change (State.new tree : TreeState schema).view later key = _
  rw [State.view_new]
  change (if containsKey tree key then some () else none) = _
  by_cases present : key ∈ tree.keys
  · rcases mem_keys_iff.mp ((holds key).mp present) with ⟨inside, shown⟩
    rw [if_pos (containsKey_iff.mpr present), if_pos inside, shown]
  · have absent : ¬ containsKey tree key = true := fun here => present (containsKey_iff.mp here)
    rw [if_neg absent]
    split
    · rename_i inside
      cases shown : owner.state.view txn key with
      | none => rfl
      | some value => exact absurd ((holds key).mpr (mem_keys_iff.mpr ⟨inside, shown⟩)) present
    · rfl

/-- Its own stream yields them in natural order. -/
theorem keys_loaded (collate : StreamOps) {txn : TxnId} {bounds : Bounds S} {reverse : Bool}
    {owner : BTree schema} {tree : BTreeLock schema}
    (holds : forall key, key ∈ tree.keys <-> key ∈ (keys collate txn bounds reverse owner).1)
    (later : TxnId) :
    (keys collate later Bounds.all false (CollectionOwner.new tree : BTree schema)).1 =
      forward reverse (keys collate txn bounds reverse owner).1 := by
  apply StrictlyAscending.ext (keys_strict collate later Bounds.all false _)
    (keys_strict collate txn bounds reverse owner)
  intro key
  rw [mem_forward, mem_forward, mem_keys_iff, mem_keys_iff, loaded_view holds,
    and_iff_right (boundsContain_all key)]
  dsimp only
  split
  · rename_i inside
    rw [and_iff_right inside]
  · rename_i outside
    simp [outside]

end Tree
end TransactionalCollection
