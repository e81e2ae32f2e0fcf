import Mathlib.Order.Defs.LinearOrder
import Mathlib.Tactic.Common
import Mathlib.Tactic.Order
import Std.Data.ExtTreeMap

namespace TransactionalCollection
namespace Native

open Std

/-!
# Identifiers, values and errors

Column names, values and value types come from crates of their own.  A
signature names what the collections use of them: how a value is classified,
how two values are collated, and how names, types and values are printed in
messages.  The collator is a total order whose ties are identities, which is
what keyed storage relies on.
-/

/-- Transaction identifiers are totally ordered and never remapped. -/
abbrev TxnId := Nat

/-- The value vocabulary a collection is built over. -/
structure Signature where
  Id : Type
  idDecidableEq : DecidableEq Id
  displayId : Id -> String
  ValueType : Type
  typeDecidableEq : DecidableEq ValueType
  debugType : ValueType -> String
  Value : Type
  classOf : Value -> ValueType
  debugValue : Value -> String
  collate : Value -> Value -> Ordering
  collate_trans : TransCmp collate
  collate_eq : LawfulEqCmp collate

namespace Signature

variable {S : Signature}

instance : DecidableEq S.Id := S.idDecidableEq
instance : DecidableEq S.ValueType := S.typeDecidableEq

/-- `ValueCollator`. -/
instance : Ord S.Value := ⟨S.collate⟩
instance : TransOrd S.Value := S.collate_trans
instance : LawfulEqOrd S.Value := S.collate_eq

instance : DecidableEq S.Value := fun left right =>
  decidable_of_iff (compare left right = .eq) LawfulEqCmp.compare_eq_iff_eq

/-- The smallest vocabulary: numbered columns of natural numbers. -/
def numbers : Signature where
  Id := Nat
  idDecidableEq := inferInstance
  displayId name := toString name
  ValueType := Unit
  typeDecidableEq := inferInstance
  debugType _ := "Number"
  Value := Nat
  classOf _ := ()
  debugValue value := toString value
  collate := compare
  collate_trans := inferInstance
  collate_eq := inferInstance

/-- A number as a value. -/
def number (value : Nat) : numbers.Value := value

/-- A number as a column name. -/
def column (name : Nat) : numbers.Id := name

end Signature

/-- A storage key, ordered column by column as `b_tree::Collator` orders it. -/
abbrev Key (S : Signature) := List S.Value

instance Key.trans {S : Signature} : TransOrd (Key S) := inferInstance
instance Key.lawful {S : Signature} : LawfulEqOrd (Key S) := inferInstance

/-- A table row: the key columns followed by the value columns. -/
abbrev Row (S : Signature) := List S.Value

/-- How native storage lays out its blocks. -/
structure StorageConfig where
  blockSize : Nat := 4096
  order : Nat := 64
  deriving DecidableEq, Repr

/-! ## Bounds -/

/-- `std::ops::Bound`. -/
inductive Bound (A : Type) where
  | included (value : A)
  | excluded (value : A)
  | unbounded
  deriving DecidableEq, Repr

abbrev Bounds (S : Signature) := Bound S.Value × Bound S.Value

namespace Bounds

variable {S : Signature}

/-- `(Bound::Unbounded, Bound::Unbounded)`. -/
def all : Bounds S := (.unbounded, .unbounded)

/-- The value lies between the bounds. -/
def admits (bounds : Bounds S) (value : S.Value) : Bool :=
  (match bounds.1 with
    | .included lower => (compare lower value).isLE
    | .excluded lower => compare lower value == .lt
    | .unbounded => true) &&
  (match bounds.2 with
    | .included upper => (compare value upper).isLE
    | .excluded upper => compare value upper == .lt
    | .unbounded => true)

end Bounds

/-! ## Errors -/

/-- `tc_error::TCError`, as far as this crate raises it itself. -/
inductive TCError where
  | badRequest (message : String)
  | notFound (message : String)
  | internal (message : String)
  deriving DecidableEq, Repr

/-- The text an error displays. -/
def TCError.message : TCError -> String
  | .badRequest message => message
  | .notFound message => message
  | .internal message => message

/-- `std::io::Error` of native storage. -/
inductive IoError where
  | invalidInput (message : String)
  | invalidData (message : String)
  | unsupported (message : String)
  | other (message : String)
  deriving DecidableEq, Repr

def IoError.message : IoError -> String
  | .invalidInput message => message
  | .invalidData message => message
  | .unsupported message => message
  | .other message => message

/-- `txn_lock::Error`. -/
inductive LockError where
  | outdated
  | committed
  | conflict
  | wouldBlock
  | background (message : String)
  deriving DecidableEq, Repr

/-- `background_error`. -/
def backgroundError (message : String) : LockError := .background message

/-- The errors of an operation which reports `TCError`: its own, and those of
locking and storage converted on the way out. -/
inductive OpError where
  | request (error : TCError)
  | lock (error : LockError)
  | io (error : IoError)
  deriving DecidableEq, Repr

/-- A panic at an `expect`. -/
structure Panic where
  message : String
  deriving DecidableEq, Repr

/-- A call ends in an error it returns, or in a panic. -/
inductive Failure (E : Type) where
  | error (error : E)
  | panic (panic : Panic)
  deriving DecidableEq, Repr

/-- `Result::expect`. -/
def expect {A : Type} (message : String) : Except IoError A -> Except Panic A
  | .ok value => .ok value
  | .error _ => .error ⟨message⟩

/-! ## Typed columns -/

section Types

variable {S : Signature}

/-- The check every schema makes on a vector of values: compare the class of
each with the expected one, and report the first column that differs. -/
def checkTypes (report : Nat -> S.ValueType -> S.ValueType -> TCError) :
    Nat -> List S.Value -> List S.ValueType -> Except TCError Unit
  | column, value :: values, expected :: types =>
      if S.classOf value = expected then checkTypes report (column + 1) values types
      else .error (report column expected (S.classOf value))
  | _, _, _ => .ok ()

/-- Each value has the type its column declares. -/
def Typed (values : List S.Value) (types : List S.ValueType) : Prop :=
  forall pair, pair ∈ values.zip types -> S.classOf pair.1 = pair.2

instance (values : List S.Value) (types : List S.ValueType) : Decidable (Typed values types) :=
  inferInstanceAs (Decidable (forall pair, pair ∈ values.zip types -> S.classOf pair.1 = pair.2))

theorem checkTypes_eq_ok_iff (report : Nat -> S.ValueType -> S.ValueType -> TCError)
    (column : Nat) (values : List S.Value) (types : List S.ValueType) :
    checkTypes report column values types = .ok () <-> Typed values types := by
  induction values generalizing column types with
  | nil =>
      cases types <;> simp [checkTypes, Typed]
  | cons value values inductionHypothesis =>
      cases types with
      | nil => simp [checkTypes, Typed]
      | cons expected types =>
          have step := inductionHypothesis (column + 1) types
          unfold Typed at step ⊢
          by_cases same : S.classOf value = expected
          · simp [checkTypes, same, step]
          · simp [checkTypes, same]

end Types

end Native
end TransactionalCollection
