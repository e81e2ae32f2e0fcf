import Mathlib.Data.Nat.Dist

namespace TransactionalCollection
namespace Numeric

/-!
# Rounding to a significand

A floating-point format keeps a fixed number of leading bits.  An integer is
rounded to the nearest integer which can be kept, and halfway between two of them
to the one whose significand is even.  An integer is its own rounding if and only
if it can be kept.
-/

/-- Some significand of so many bits, shifted. -/
def Representable (precision value : Nat) : Prop :=
  exists significand exponent, significand < 2 ^ precision ∧ value = significand * 2 ^ exponent

/-- The distance between integers which can be kept, where the value lies. -/
def spacing (precision value : Nat) : Nat := 2 ^ (value.log2 + 1 - precision)

/-- Round to nearest, ties to even. -/
def roundNearest (precision value : Nat) : Nat :=
  let unit := spacing precision value
  if 2 * (value % unit) < unit ∨ (2 * (value % unit) = unit ∧ value / unit % 2 = 0) then
    value / unit * unit
  else (value / unit + 1) * unit

section Rounding

variable {precision value other : Nat}

theorem spacing_pos (precision value : Nat) : 0 < spacing precision value := Nat.two_pow_pos _

/-- The quotient by the spacing is a significand. -/
theorem quotient_lt (precision value : Nat) : value / spacing precision value < 2 ^ precision := by
  rw [spacing, Nat.div_lt_iff_lt_mul (Nat.two_pow_pos _), ← Nat.pow_add]
  apply Nat.lt_of_lt_of_le (Nat.lt_log2_self (n := value))
  apply Nat.pow_le_pow_right (by decide)
  omega

/-- A rounding is one of the two multiples of the spacing around the value. -/
theorem roundNearest_cases (precision value : Nat) :
    (roundNearest precision value = value / spacing precision value * spacing precision value ∧
        2 * (value % spacing precision value) ≤ spacing precision value) ∨
      (roundNearest precision value = (value / spacing precision value + 1) * spacing precision value ∧
        spacing precision value ≤ 2 * (value % spacing precision value)) := by
  unfold roundNearest
  dsimp only
  split
  · rename_i down
    left
    refine ⟨rfl, ?_⟩
    omega
  · rename_i up
    right
    refine ⟨rfl, ?_⟩
    omega

theorem representable_roundNearest (positive : 0 < precision) :
    Representable precision (roundNearest precision value) := by
  have quotient := quotient_lt precision value
  rcases roundNearest_cases precision value with ⟨down, _⟩ | ⟨up, _⟩
  · exact ⟨_, _, quotient, down⟩
  · by_cases room : value / spacing precision value + 1 < 2 ^ precision
    · exact ⟨_, _, room, up⟩
    · -- The significand overflows into the next power of two.
      have full : value / spacing precision value + 1 = 2 ^ precision := by omega
      refine ⟨1, precision + (value.log2 + 1 - precision), Nat.one_lt_two_pow (by omega), ?_⟩
      rw [up, full, spacing, ← Nat.pow_add, Nat.one_mul]

/-- Integers which can be kept are multiples of the spacing, or lie below the
leading bit of the value. -/
theorem spacing_dvd (kept : Representable precision other) (above : 2 ^ value.log2 ≤ other) :
    spacing precision value ∣ other := by
  rcases kept with ⟨significand, exponent, small, rfl⟩
  have below : significand * 2 ^ exponent < 2 ^ (precision + exponent) := by
    rw [Nat.pow_add]
    exact Nat.mul_lt_mul_of_pos_right small (Nat.two_pow_pos exponent)
  have exponents : value.log2 < precision + exponent :=
    (Nat.pow_lt_pow_iff_right (by decide)).mp (Nat.lt_of_le_of_lt above below)
  apply Nat.dvd_trans (Nat.pow_dvd_pow 2 _) (Nat.dvd_mul_left _ _)
  omega

/-- The lower multiple of the spacing is at least the leading bit of the value. -/
theorem leading_le (positive : 0 < precision) (nonzero : value ≠ 0) :
    2 ^ value.log2 ≤ value / spacing precision value * spacing precision value := by
  have exponents : value.log2 + 1 - precision ≤ value.log2 := by omega
  rcases Nat.pow_dvd_pow 2 exponents with ⟨count, same⟩
  have leading := Nat.log2_self_le nonzero
  rw [same, Nat.mul_comm] at leading ⊢
  exact Nat.mul_le_mul_right _ ((Nat.le_div_iff_mul_le (spacing_pos precision value)).mpr leading)

/-- No integer which can be kept is nearer to the value than its rounding. -/
theorem roundNearest_nearest (positive : 0 < precision) (kept : Representable precision other) :
    Nat.dist (roundNearest precision value) value ≤ Nat.dist other value := by
  have parts := Nat.div_add_mod' value (spacing precision value)
  have small := Nat.mod_lt value (spacing_pos precision value)
  have beside : Nat.dist (roundNearest precision value) value ≤ value % spacing precision value ∧
      Nat.dist (roundNearest precision value) value ≤
        spacing precision value - value % spacing precision value := by
    rcases roundNearest_cases precision value with ⟨down, near⟩ | ⟨up, near⟩
    · rw [down, Nat.dist]
      omega
    · rw [up, Nat.add_mul, Nat.dist]
      omega
  -- The other integer lies beyond one of the two neighbours, or is one of them.
  have beyond : other ≤ value / spacing precision value * spacing precision value ∨
      (value / spacing precision value + 1) * spacing precision value ≤ other := by
    by_cases above : 2 ^ value.log2 ≤ other
    · rcases spacing_dvd kept above with ⟨count, rfl⟩
      rw [Nat.mul_comm (spacing precision value)]
      rcases Nat.lt_or_ge (value / spacing precision value) count with more | less
      · exact Or.inr (Nat.mul_le_mul_right _ more)
      · exact Or.inl (Nat.mul_le_mul_right _ less)
    · left
      by_cases nonzero : value = 0
      · rw [nonzero] at above
        have zero : other = 0 := by
          change ¬ 1 ≤ other at above
          omega
        rw [zero]
        exact Nat.zero_le _
      · have leading := leading_le positive nonzero
        omega
  rw [Nat.add_mul] at beyond
  have distance : Nat.dist other value = other - value + (value - other) := rfl
  omega

/-- An integer is its own rounding if and only if it can be kept. -/
theorem roundNearest_eq_self_iff (positive : 0 < precision) :
    roundNearest precision value = value <-> Representable precision value := by
  constructor
  · intro same
    rw [← same]
    exact representable_roundNearest positive
  · intro kept
    have nearest : Nat.dist (roundNearest precision value) value ≤ Nat.dist value value :=
      roundNearest_nearest positive kept
    rw [Nat.dist_self] at nearest
    exact Nat.eq_of_dist_eq_zero (Nat.le_zero.mp nearest)

end Rounding

end Numeric
end TransactionalCollection
