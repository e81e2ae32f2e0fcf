import TransactionalCollection.BTree.Literal
import TransactionalCollection.Native.Codec

namespace TransactionalCollection
namespace Tree

open Native Execution Persistence

/-!
# Tree payloads

A payload is a sequence of two: the columns of a tree, and its rows.  Each row
is loaded as a literal into a new tree as soon as it has been decoded.
-/

variable {S : Signature} (codec : Codec S) (forms : ValueForms S)

structure DecodedBTreePayload (forms : ValueForms S) where
  schema : List (BTreeColumnSchema forms)
  native : BTreeSchema S
  btree : BTree native

def decodeErr (action : String) (error : IoError) : String := s!"{action}: {error.message}"

def decodeColumn (document : codec.Document) : Except String (BTreeColumnSchema forms) := do
  let value <- codec.decodeValue document
  match BTreeColumnSchema.optCastFrom value with
  | some column => .ok column
  | none => .error "invalid BTree schema column [name, dtype, optional max_size]"

section Rows

variable {native : BTreeSchema S}

def decodeRow (document : codec.Document) : EStateM String (BTree native) PUnit := fun btree =>
  match codec.decodeValue document with
  | .error error => .error error btree
  | .ok row => mapError (decodeErr "failed to load BTree literal row") (loadLiteralRow forms row) btree

def decodeRows (document : codec.Document) : EStateM String (BTree native) PUnit := fun btree =>
  match codec.decodeSeq "a list of BTree rows" document with
  | .error error => .error error btree
  | .ok rows => forM rows (decodeRow codec forms) btree

end Rows

/-- A schema without columns is displayed as the list of none. -/
def decodePayload (document : codec.Document) : Except String (DecodedBTreePayload forms) := do
  match <- codec.decodeSeq "a BTree payload [schema, rows]" document with
  | [] => .error "missing BTree schema"
  | columns :: rest =>
      let columns <- codec.decodeSeq codec.vector columns
      let schema <- columns.mapM (decodeColumn codec forms)
      match BTreeSchema.optCastFrom schema with
      | none => .error "invalid BTree schema: []"
      | some native =>
          match rest with
          | [] => .error "missing BTree rows"
          | rows :: rest =>
              match decodeRows codec forms rows (CollectionOwner.new BTreeLock.empty : BTree native) with
              | .error error _ => .error error
              | .ok _ btree =>
                  if rest.isEmpty then .ok ⟨schema, native, btree⟩
                  else .error "BTree payload must be [schema, rows]"

/-! ## Decoding what was encoded -/

theorem decodeColumn_encoded (column : BTreeColumnSchema forms) :
    decodeColumn codec forms (codec.encodeValue column.toValue) = .ok column := by
  rw [decodeColumn, codec.decodeValue_encodeValue]
  change (match BTreeColumnSchema.optCastFrom column.toValue with
    | some column => .ok column
    | none => .error _) = Except.ok column
  rw [column.optCastFrom_toValue]

theorem decodeRow_encoded {native : BTreeSchema S} {key : Key S} {before after : BTree native}
    (loaded : loadLiteralRow forms (literal forms key) before = .ok ⟨⟩ after) :
    decodeRow codec forms (codec.encodeValue (literal forms key)) before = .ok ⟨⟩ after := by
  rw [decodeRow, codec.decodeValue_encodeValue]
  exact mapError_of_ok loaded

/-- The payload of columns and valid keys is decoded to a tree of these keys. -/
theorem decodePayload_encoded {columns : List (BTreeColumnSchema forms)} {native : BTreeSchema S}
    (described : BTreeSchema.optCastFrom columns = some native) {keys : List (Key S)}
    (valid : forall key, key ∈ keys -> native.ValidKey key) :
    exists tree : BTreeLock native,
      decodePayload codec forms (codec.encodeSeq [
          codec.encodeSeq (columns.map (fun column => codec.encodeValue column.toValue)),
          codec.encodeSeq (keys.map (fun key => codec.encodeValue (literal forms key)))]) =
        .ok ⟨columns, native, CollectionOwner.new tree⟩ ∧
      forall key, key ∈ tree.keys <-> key ∈ keys := by
  have decoded : (columns.map (fun column => codec.encodeValue column.toValue)).mapM
      (decodeColumn codec forms) = .ok columns :=
    mapM_undoes (fun column _ => decodeColumn_encoded codec forms column)
  have loads : forall key, key ∈ keys -> forall before after : BTree native,
      loadLiteralRow forms (literal forms key) before = .ok ⟨⟩ after ->
      decodeRow codec forms (codec.encodeValue (literal forms key)) before = .ok ⟨⟩ after :=
    fun _ _ _ _ loaded => decodeRow_encoded codec forms loaded
  rcases load_literals forms valid loads with ⟨tree, loaded, holds⟩
  have rows : decodeRows codec forms
      (codec.encodeSeq (keys.map (fun key => codec.encodeValue (literal forms key))))
      (CollectionOwner.new BTreeLock.empty : BTree native) = .ok ⟨⟩ (CollectionOwner.new tree) := by
    rw [decodeRows, codec.decodeSeq_encodeSeq]
    exact loaded
  refine ⟨tree, ?_, holds⟩
  apply except_bind_eq_ok.mpr
  refine ⟨_, codec.decodeSeq_encodeSeq _ _, ?_⟩
  apply except_bind_eq_ok.mpr
  refine ⟨_, codec.decodeSeq_encodeSeq _ _, ?_⟩
  apply except_bind_eq_ok.mpr
  refine ⟨columns, decoded, ?_⟩
  rw [described]
  dsimp only
  rw [rows]
  rfl

end Tree
end TransactionalCollection
