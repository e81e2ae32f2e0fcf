import TransactionalCollection.Tensors.Reading

namespace TransactionalCollection
namespace Tensors

open Numeric

/-!
# Floats

What the operations on elements ask of floats beside their casts.  A whole number is
a float if it has few enough significant bits: thirty-two bits of a float leave
twenty-four, and sixty-four leave fifty-three.
-/

/-- What is asked of floats before they become whole numbers. -/
structure FloatChecks (elements : Elements) where
  /-- `value.is_finite()`. -/
  isFinite : elements.F64 -> Bool
  /-- `value < 0.0`. -/
  isNegative : elements.F64 -> Bool
  /-- `value.fract() != 0.0`. -/
  hasFraction : elements.F64 -> Bool
  display : elements.F64 -> String

/-- Finite, not negative and without a fraction. -/
def FloatChecks.Passes {elements : Elements} (checks : FloatChecks elements) (value : elements.F64) : Prop :=
  checks.isFinite value = true ∧ checks.isNegative value = false ∧ checks.hasFraction value = false

/-- The other operations on floats. -/
structure FloatOps (elements : Elements) where
  sub : elements.F64 -> elements.F64 -> elements.F64
  div : elements.F64 -> elements.F64 -> elements.F64
  max : elements.F64 -> elements.F64 -> elements.F64
  min : elements.F64 -> elements.F64 -> elements.F64
  sqrt : elements.F64 -> elements.F64
  one : elements.F64
  infinity : elements.F64
  negInfinity : elements.F64
  /-- `as f64`, of a `usize`. -/
  ofUsize : Nat -> elements.F64

theorem natural_iff (value : ℚ) : 0 ≤ value ∧ value.den = 1 <-> exists natural : Nat, value = natural := by
  constructor
  · intro whole
    have numerator : value = value.num := ((Rat.den_eq_one_iff value).mp whole.2).symm
    have positive : 0 ≤ value.num := Rat.num_nonneg.mpr whole.1
    refine ⟨value.num.toNat, ?_⟩
    rw [numerator]
    exact_mod_cast (Int.toNat_of_nonneg positive).symm
  · intro natural
    rcases natural with ⟨natural, rfl⟩
    exact ⟨Nat.cast_nonneg natural, Rat.den_natCast natural⟩

namespace Reading

def isFinite : Reading -> Bool
  | .nan | .infinite _ => false
  | .finite _ => true

def isNegative : Reading -> Bool
  | .nan => false
  | .infinite negative => negative
  | .finite value => decide (value < 0)

def hasFraction : Reading -> Bool
  | .nan | .infinite _ => true
  | .finite value => decide (value.den ≠ 1)

/-- What passes all checks is a natural number. -/
theorem passes_iff (reading : Reading) :
    (reading.isFinite = true ∧ reading.isNegative = false ∧ reading.hasFraction = false) <->
      exists value : Nat, reading = .finite value := by
  cases reading with
  | nan => simp [isFinite]
  | infinite negative => simp [isFinite]
  | finite value =>
      simp only [isFinite, isNegative, hasFraction, decide_eq_false_iff_not, not_lt, ne_eq, not_not, true_and,
        Reading.finite.injEq]
      exact natural_iff value

end Reading

/-- Elements of which the casts and the checks are those of IEEE floats. -/
structure ReadsFloats (elements : Elements) (checks : FloatChecks elements) extends Reads elements where
  readF32 : elements.F32 -> Reading
  read_widen : forall value, read (elements.widen value) = readF32 value
  isFinite_eq : forall float, checks.isFinite float = (read float).isFinite
  isNegative_eq : forall float, checks.isNegative float = (read float).isNegative
  hasFraction_eq : forall float, checks.hasFraction float = (read float).hasFraction
  representable : forall (float : elements.F64) (value : Nat),
    read float = .finite value -> Representable 53 value

theorem ReadsFloats.passes_iff {elements : Elements} {checks : FloatChecks elements}
    (reads : ReadsFloats elements checks) (float : elements.F64) :
    checks.Passes float <-> exists value : Nat, reads.read float = .finite value := by
  unfold FloatChecks.Passes
  rw [reads.isFinite_eq, reads.isNegative_eq, reads.hasFraction_eq]
  exact Reading.passes_iff (reads.read float)

/-! ## Floats of so many bits -/

/-- A reading of which the whole numbers have so many significant bits. -/
structure Kept (precision : Nat) where
  reading : Reading
  whole : forall value : Nat, reading = .finite value -> Representable precision value

namespace Kept

variable {precision : Nat}

/-- The nearest whole number which is kept, where there is one. -/
def rounded (precision : Nat) : Reading -> Reading
  | .finite value =>
      if 0 ≤ value ∧ value.den = 1 then .finite (roundNearest precision value.num.toNat) else .finite value
  | .nan => .nan
  | .infinite negative => .infinite negative

theorem rounded_natCast (value : Nat) :
    rounded precision (.finite value) = .finite (roundNearest precision value) := by
  simp [rounded]

theorem rounded_eq_self (positive : 0 < precision) {reading : Reading}
    (whole : forall value : Nat, reading = .finite value -> Representable precision value) :
    rounded precision reading = reading := by
  cases reading with
  | nan => rfl
  | infinite negative => rfl
  | finite value =>
      by_cases isNatural : 0 ≤ value ∧ value.den = 1
      · rcases (natural_iff value).mp isNatural with ⟨natural, rfl⟩
        rw [rounded_natCast, (roundNearest_eq_self_iff positive).mpr (whole natural rfl)]
      · exact if_neg isNatural

theorem representable_rounded (positive : 0 < precision) (reading : Reading) (value : Nat)
    (same : rounded precision reading = .finite value) : Representable precision value := by
  cases reading with
  | nan => cases same
  | infinite negative => cases same
  | finite source =>
      unfold rounded at same
      dsimp only at same
      split at same
      · have exact := Nat.cast_injective (Reading.finite.inj same)
        rw [← exact]
        exact representable_roundNearest positive
      · rename_i notNatural
        exact absurd ((natural_iff source).mpr ⟨value, Reading.finite.inj same⟩) notNatural

theorem representable_single (reading : Reading) :
    forall value : Nat, rounded 24 reading = .finite value -> Representable 24 value :=
  representable_rounded (by decide) reading

theorem representable_double (reading : Reading) :
    forall value : Nat, rounded 53 reading = .finite value -> Representable 53 value :=
  representable_rounded (by decide) reading

def single (reading : Reading) : Kept 24 := ⟨rounded 24 reading, representable_single reading⟩

def double (reading : Reading) : Kept 53 := ⟨rounded 53 reading, representable_double reading⟩

theorem double_of_single (kept : Kept 24) : (double kept.reading).reading = kept.reading := by
  apply rounded_eq_self (by decide)
  intro value same
  rcases kept.whole value same with ⟨significand, exponent, small, equal⟩
  refine ⟨significand, exponent, ?_, equal⟩
  omega

end Kept

/-- Elements of which the results are rounded where they are whole. -/
def Elements.binary : Elements where
  F32 := Kept 24
  F64 := Kept 53
  widen value := Kept.double value.reading
  narrow value := Kept.single value.reading
  ofU64 value := Kept.double (.finite value.toNat)
  toU64 value := value.reading.toU64
  isWhole value := value.reading.isWhole
  isZero value := value.reading.isZero
  zero := Kept.double (.finite 0)
  add left right := Kept.double (Elements.rational.add left.reading right.reading)
  mul left right := Kept.double (Elements.rational.mul left.reading right.reading)
  arrayError := checkedArray
  arrayError_size := checkedArray_size
  arrayError_none := checkedArray_none

namespace Reading

def neg : Reading -> Reading
  | .nan => .nan
  | .infinite negative => .infinite (!negative)
  | .finite value => .finite (-value)

def div : Reading -> Reading -> Reading
  | .finite left, .finite right =>
      if right ≠ 0 then .finite (left / right)
      else if left = 0 then .nan
      else .infinite (decide (left < 0))
  | .finite _, .infinite _ => .finite 0
  | .infinite negative, .finite right => .infinite (negative ^^ decide (right < 0))
  | _, _ => .nan

/-- What is not a number is passed over. -/
def max : Reading -> Reading -> Reading
  | .nan, other | other, .nan => other
  | .infinite negative, other | other, .infinite negative =>
      if negative then other else .infinite false
  | .finite left, .finite right => .finite (Max.max left right)

def min (left right : Reading) : Reading := (left.neg.max right.neg).neg

/-- The root of a square, and of another rational the greatest below its root with the
same denominator. -/
def sqrt : Reading -> Reading
  | .finite value =>
      if value < 0 then .nan else .finite (Nat.sqrt (value.num.toNat * value.den) / value.den)
  | .infinite negative => if negative then .nan else .infinite false
  | .nan => .nan

end Reading

def FloatOps.binary : FloatOps Elements.binary where
  sub left right := Kept.double (Elements.rational.add left.reading right.reading.neg)
  div left right := Kept.double (left.reading.div right.reading)
  max left right := Kept.double (left.reading.max right.reading)
  min left right := Kept.double (left.reading.min right.reading)
  sqrt value := Kept.double value.reading.sqrt
  one := Kept.double (.finite 1)
  infinity := Kept.double (.infinite false)
  negInfinity := Kept.double (.infinite true)
  ofUsize value := Kept.double (.finite value)

def Reading.display : Reading -> String
  | .nan => "NaN"
  | .infinite negative => if negative then "-inf" else "inf"
  | .finite value => toString value

def FloatChecks.binary : FloatChecks Elements.binary where
  isFinite value := value.reading.isFinite
  isNegative value := value.reading.isNegative
  hasFraction value := value.reading.hasFraction
  display value := value.reading.display

def ReadsFloats.binary : ReadsFloats Elements.binary FloatChecks.binary where
  read := Kept.reading
  read_ofU64 _ := Kept.rounded_natCast _
  toU64_eq _ := rfl
  isWhole_eq _ := rfl
  isZero_eq _ := rfl
  readF32 := Kept.reading
  read_widen := Kept.double_of_single
  isFinite_eq _ := rfl
  isNegative_eq _ := rfl
  hasFraction_eq _ := rfl
  representable := Kept.whole

end Tensors
end TransactionalCollection
