import TransactionalCollection.Execution.Traversals
import TransactionalCollection.Native.Codec
import TransactionalCollection.Table.Cast
import TransactionalCollection.Table.Literal

namespace TransactionalCollection
namespace Table

open Native Execution Streaming

/-!
# Table payloads

A payload is a sequence of two: the schema of a table, and its rows.  Each row is
upserted into a new local table as soon as it has been decoded.
-/

variable {S : Signature} (codec : Codec S) (forms : ValueForms S)

structure DecodedTablePayload (S : Signature) where
  schema : TableSchema S
  table : Handle schema

/-- A value which passes the test for a cast is cast, or else the unwrapping
panics. -/
def TableSchema.tryCastFrom (value : S.Value) : Except (Failure String) (TableSchema S) :=
  if canCastFrom forms value then
    match optCastFrom forms value with
    | some schema => .ok schema
    | none => .error (.panic ⟨"called `Option::unwrap()` on a `None` value"⟩)
  else .error (.error s!"invalid Table schema: {S.debugValue value}")

section Rows

variable {schema : TableSchema S}

def decodeRow (document : codec.Document) : EStateM String (TableLock schema) PUnit := fun table =>
  match codec.decodeValue document with
  | .error error => .error error table
  | .ok value =>
      match forms.form value with
      | .tuple row =>
          if row.length ≠ schema.columnCount then
            .error s!"table row has {row.length} columns but schema has {schema.columnCount}" table
          else
            mapError IoError.message (upsert (row.take schema.key.length) (row.drop schema.key.length)) table
      | _ => .error "table row must be a tuple" table

def decodeRows (document : codec.Document) : EStateM String (TableLock schema) PUnit := fun table =>
  match codec.decodeSeq "a sequence of Table rows" document with
  | .error error => .error error table
  | .ok rows => forM rows (decodeRow codec forms) table

end Rows

def decodePayload (document : codec.Document) : Except (Failure String) (DecodedTablePayload S) := do
  match <- (codec.decodeSeq "a Table payload [schema, rows]" document).mapError Failure.error with
  | [] => .error (.error "missing Table schema")
  | schema :: rest =>
      let schema <- (codec.decodeValue schema).mapError Failure.error
      let schema <- TableSchema.tryCastFrom forms schema
      match rest with
      | [] => .error (.error "missing Table rows")
      | rows :: rest =>
          match decodeRows codec forms rows (TableLock.empty : TableLock schema) with
          | .error error _ => .error (.error error)
          | .ok _ table =>
              if rest.isEmpty then .ok ⟨schema, .localTable table⟩
              else .error (.error "Table payload must be [schema, rows]")

/-! ## Decoding what was encoded -/

theorem decodeRow_encoded {schema : TableSchema S} {row : Row S} (valid : ValidRow schema row)
    {before after : TableLock schema} (loaded : loadRow row before = .ok ⟨⟩ after) :
    decodeRow codec forms (codec.encodeValue (forms.tuple row)) before = .ok ⟨⟩ after := by
  have width : row.length = schema.columnCount := by
    rw [(validRow_iff.mp valid).1, TableSchema.columns, List.length_append, TableSchema.columnCount]
  rw [decodeRow, codec.decodeValue_encodeValue]
  dsimp only
  rw [forms.form_tuple]
  dsimp only
  rw [if_neg (not_not_intro width)]
  exact mapError_of_ok loaded

/-- The payload of a schema and a listing of its rows is decoded to a table of
these rows, whose schema has the same columns and indices. -/
theorem decodePayload_encoded {schema : TableSchema S} (constructed : schema.Constructed) {reverse : Bool}
    {rows : List (Row S)} (listing : Listing schema (forward reverse rows)) :
    exists decoded, SameSemantics schema decoded ∧ exists table : TableLock decoded,
      decodePayload codec forms (codec.encodeSeq [
          codec.encodeValue (schema.castFrom.toValue forms),
          codec.encodeSeq (rows.map (fun row => codec.encodeValue (forms.tuple row)))]) =
        .ok ⟨decoded, .localTable table⟩ ∧
      forall row, row ∈ table.allRows <-> row ∈ rows := by
  rcases constructed with ⟨key, values, indices, storage, built⟩
  rcases TableSchema.optCastFrom_castFrom forms built with ⟨passes, decoded, cast, same⟩
  have tried : TableSchema.tryCastFrom forms (schema.castFrom.toValue forms) = .ok decoded := by
    rw [TableSchema.tryCastFrom, if_pos passes, cast]
  have decodedListing : Listing decoded (forward reverse rows) := by
    constructor
    · intro row member
      exact same.validRow_iff.mpr (listing.valid row member)
    · simp only [same.keyOf_eq]
      exact listing.strict
  have loads : forall row, row ∈ rows -> forall before after : TableLock decoded,
      loadRow row before = .ok ⟨⟩ after ->
      decodeRow codec forms (codec.encodeValue (forms.tuple row)) before = .ok ⟨⟩ after :=
    fun row member _ _ loaded =>
      decodeRow_encoded codec forms (decodedListing.valid row (mem_forward.mpr member)) loaded
  have embedded : exists table : TableLock decoded,
      forM (rows.map (fun row => codec.encodeValue (forms.tuple row))) (decodeRow codec forms)
        (TableLock.empty : TableLock decoded) = .ok ⟨⟩ table ∧
      forall row, row ∈ table.allRows <-> row ∈ rows := decodedListing.loads loads
  rcases embedded with ⟨table, loaded, holds⟩
  have decodedRows : decodeRows codec forms
      (codec.encodeSeq (rows.map (fun row => codec.encodeValue (forms.tuple row))))
      (TableLock.empty : TableLock decoded) = .ok ⟨⟩ table := by
    rw [decodeRows, codec.decodeSeq_encodeSeq]
    exact loaded
  refine ⟨decoded, same, table, ?_, holds⟩
  rw [decodePayload, codec.decodeSeq_encodeSeq]
  change (do
    let value <- (codec.decodeValue (codec.encodeValue (schema.castFrom.toValue forms))).mapError
      Failure.error
    let schema <- TableSchema.tryCastFrom forms value
    match decodeRows codec forms
        (codec.encodeSeq (rows.map (fun row => codec.encodeValue (forms.tuple row))))
        (TableLock.empty : TableLock schema) with
    | .error error _ => .error (.error error)
    | .ok _ table => .ok ⟨schema, .localTable table⟩ :
      Except (Failure String) (DecodedTablePayload S)) = _
  rw [codec.decodeValue_encodeValue]
  apply except_bind_eq_ok.mpr
  refine ⟨_, rfl, except_bind_eq_ok.mpr ⟨decoded, tried, ?_⟩⟩
  rw [decodedRows]

/-- A schema which has been cast has been constructed. -/
theorem TableSchema.constructed_of_tryCastFrom {value : S.Value} {schema : TableSchema S}
    (tried : tryCastFrom forms value = .ok schema) : schema.Constructed := by
  unfold tryCastFrom at tried
  split at tried
  · split at tried
    · rename_i found cast
      cases tried
      unfold optCastFrom at cast
      split at cast
      · split at cast
        · rcases Option.bind_eq_some_iff.mp cast with ⟨key, _, cast⟩
          rcases Option.bind_eq_some_iff.mp cast with ⟨values, _, cast⟩
          rcases Option.bind_eq_some_iff.mp cast with ⟨indices, _, built⟩
          exact ⟨key, values, indices, {}, toOption_eq_some_iff.mp built⟩
        · cases cast
      · cases cast
    · cases tried
  · cases tried

theorem decodePayload_constructed {document : codec.Document} {payload : DecodedTablePayload S}
    (decoded : decodePayload codec forms document = .ok payload) : payload.schema.Constructed := by
  rcases except_bind_eq_ok.mp decoded with ⟨items, _, decoded⟩
  cases items with
  | nil => cases decoded
  | cons schema rest =>
      rcases except_bind_eq_ok.mp decoded with ⟨value, _, decoded⟩
      rcases except_bind_eq_ok.mp decoded with ⟨cast, tried, decoded⟩
      have constructed := TableSchema.constructed_of_tryCastFrom forms tried
      cases rest with
      | nil => cases decoded
      | cons rows rest =>
          dsimp only at decoded
          split at decoded
          · cases decoded
          · split at decoded
            · cases decoded
              exact constructed
            · cases decoded

end Table
end TransactionalCollection
