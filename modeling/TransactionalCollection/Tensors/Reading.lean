import Mathlib.Data.Rat.Floor
import TransactionalCollection.Numeric.Significand
import TransactionalCollection.Tensors.Dense

namespace TransactionalCollection
namespace Tensors

open Numeric

/-!
# What floats read

A float is not a number, infinite, or a rational.  A `u64` is cast to the nearest
float with fifty-three significant bits, ties to even; a float is cast to `u64`
towards zero, and to the nearest end of the range from outside.  Cast there and
back, a `u64` is unchanged if and only if it has at most fifty-three significant
bits, or is the greatest of all.
-/

inductive Reading where
  | nan
  | infinite (negative : Bool)
  | finite (value : ℚ)

/-- The nearest `u64`. -/
def saturate (value : Nat) : UInt64 := UInt64.ofNat (min value (2 ^ 64 - 1))

theorem toNat_saturate (value : Nat) : (saturate value).toNat = min value (2 ^ 64 - 1) := by
  rw [saturate, UInt64.toNat_ofNat']
  omega

namespace Reading

def toU64 : Reading -> UInt64
  | .nan => 0
  | .infinite negative => if negative then 0 else saturate (2 ^ 64 - 1)
  | .finite value => saturate ⌊value⌋.toNat

/-- The fraction of an infinity is not a number. -/
def isWhole : Reading -> Bool
  | .nan | .infinite _ => false
  | .finite value => decide (0 ≤ value) && decide (value.den = 1)

def isZero : Reading -> Bool
  | .nan | .infinite _ => false
  | .finite value => decide (value = 0)

theorem toU64_natCast (value : Nat) : (finite value).toU64 = saturate value := by
  rw [toU64, Int.floor_natCast, Int.toNat_natCast]

theorem isWhole_natCast (value : Nat) : (finite value).isWhole = true := by
  simp [isWhole]

end Reading

/-- Elements of which the casts are those of IEEE floats. -/
structure Reads (elements : Elements) where
  read : elements.F64 -> Reading
  read_ofU64 : forall value, read (elements.ofU64 value) = .finite (roundNearest 53 value.toNat)
  toU64_eq : forall float, elements.toU64 float = (read float).toU64
  isWhole_eq : forall float, elements.isWhole float = (read float).isWhole
  isZero_eq : forall float, elements.isZero float = (read float).isZero

/-- At most fifty-three significant bits, or the greatest of all. -/
def Keeps (value : UInt64) : Prop := Representable 53 value.toNat ∨ value.toNat = 2 ^ 64 - 1

/-- A `u64` cast to `f64` and back. -/
def throughF64 (elements : Elements) (value : UInt64) : UInt64 := elements.toU64 (elements.ofU64 value)

namespace Reads

variable {elements : Elements} (reads : Reads elements)

include reads

theorem throughF64_eq (value : UInt64) :
    throughF64 elements value = saturate (roundNearest 53 value.toNat) := by
  rw [throughF64, reads.toU64_eq, reads.read_ofU64, Reading.toU64_natCast]

theorem isWhole_ofU64 (value : UInt64) : elements.isWhole (elements.ofU64 value) = true := by
  rw [reads.isWhole_eq, reads.read_ofU64, Reading.isWhole_natCast]

theorem throughF64_eq_self_iff {value : UInt64} : throughF64 elements value = value <-> Keeps value := by
  have bound : value.toNat < 2 ^ 64 := value.toNat_lt
  have rounded : roundNearest 53 value.toNat = value.toNat <-> Representable 53 value.toNat :=
    roundNearest_eq_self_iff (by decide)
  rw [reads.throughF64_eq, ← UInt64.toNat_inj, toNat_saturate, Keeps, ← rounded]
  constructor
  · intro same
    omega
  · intro kept
    rcases kept with exact | greatest
    · omega
    · have above : roundNearest 53 (2 ^ 64 - 1) = 2 ^ 64 := by decide +kernel
      rw [greatest, above]
      decide

end Reads

/-- An array has an axis, and as many values as the product of its shape. -/
def checkedArray (shape : List Nat) (length : Nat) : Option String :=
  if shape ≠ [] ∧ length = product shape then none
  else some s!"an array of shape {shape} does not have {length} elements"

theorem checkedArray_eq_none {shape : List Nat} {length : Nat} :
    checkedArray shape length = none <-> shape ≠ [] ∧ length = product shape := by
  rw [checkedArray, ite_eq_left_iff]
  exact ⟨fun checked => by_contra (fun refused => nomatch checked refused), fun parts refused => absurd parts refused⟩

theorem checkedArray_size {shape : List Nat} {length : Nat} (built : checkedArray shape length = none) :
    length = product shape :=
  (checkedArray_eq_none.mp built).2

theorem checkedArray_none {shape : List Nat} (ranked : shape ≠ []) : checkedArray shape (product shape) = none :=
  checkedArray_eq_none.mpr ⟨ranked, rfl⟩

/-- Elements with exact rational arithmetic. -/
def Elements.rational : Elements where
  F32 := Reading
  F64 := Reading
  widen := id
  narrow := id
  ofU64 value := .finite (roundNearest 53 value.toNat)
  toU64 := Reading.toU64
  isWhole := Reading.isWhole
  isZero := Reading.isZero
  zero := .finite 0
  add
    | .finite left, .finite right => .finite (left + right)
    | _, _ => .nan
  mul
    | .finite left, .finite right => .finite (left * right)
    | _, _ => .nan
  arrayError := checkedArray
  arrayError_size := checkedArray_size
  arrayError_none := checkedArray_none

def Reads.rational : Reads Elements.rational where
  read := id
  read_ofU64 _ := rfl
  toU64_eq _ := rfl
  isWhole_eq _ := rfl
  isZero_eq _ := rfl

end Tensors
end TransactionalCollection
