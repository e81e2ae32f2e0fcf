import TransactionalCollection.Native.Signature

namespace TransactionalCollection
namespace Native

/-!
# Encoding

Encoders and decoders of values and sequences belong to the crates below.  What
is relied on is that each of the two comes back as it was encoded.  A stream is
encoded as the sequence of what it yields.
-/

structure Codec (S : Signature) where
  Document : Type
  encodeValue : S.Value -> Document
  encodeSeq : List Document -> Document
  /-- What a decoder of a vector expects. -/
  vector : String
  decodeValue : Document -> Except String S.Value
  /-- Decode a sequence, or report what was expected instead. -/
  decodeSeq : String -> Document -> Except String (List Document)
  decodeValue_encodeValue : forall value, decodeValue (encodeValue value) = .ok value
  decodeSeq_encodeSeq : forall expecting items, decodeSeq expecting (encodeSeq items) = .ok items

/-! ## Documents -/

/-- Values, and sequences of documents. -/
inductive Document (Value : Type) where
  | value (content : Value)
  | seq (items : List (Document Value))

namespace Document

variable {Value : Type}

def toValue : Document Value -> Except String Value
  | .value content => .ok content
  | .seq _ => .error "expected a value"

def toSeq (expecting : String) : Document Value -> Except String (List (Document Value))
  | .value _ => .error s!"expected {expecting}"
  | .seq items => .ok items

end Document

/-- Documents as they are. -/
def Codec.documents (S : Signature) : Codec S where
  Document := Native.Document S.Value
  encodeValue := .value
  encodeSeq := .seq
  vector := "a sequence"
  decodeValue := Document.toValue
  decodeSeq := Document.toSeq
  decodeValue_encodeValue _ := rfl
  decodeSeq_encodeSeq _ _ := rfl

end Native
end TransactionalCollection
