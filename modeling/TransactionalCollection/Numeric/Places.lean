import Mathlib.Algebra.BigOperators.Group.List.Basic
import Mathlib.Algebra.BigOperators.Ring.List
import Mathlib.Data.Nat.ModEq
import Mathlib.Tactic.Ring

namespace TransactionalCollection
namespace Numeric

/-!
# Numerals of many radices

A numeral has a digit in each of its places, and each place has a radix of its own.
Places are listed from the last to the first, which is the order in which digits
are split off a number.  The value of a numeral is computed by adding up digits
over a growing stride, in arithmetic which wraps around a modulus.
-/

/-! ## Exact values -/

/-- The value of the digits beside their radices. -/
def value : List (Nat × Nat) -> Nat
  | [] => 0
  | (radix, digit) :: rest => digit + radix * value rest

/-- The digits of a number. -/
def digits : Nat -> List Nat -> List Nat
  | _, [] => []
  | number, radix :: rest => number % radix :: digits (number / radix) rest

/-- Each digit is below its radix. -/
def InRange (places : List (Nat × Nat)) : Prop := forall place, place ∈ places -> place.2 < place.1

theorem InRange.cons_iff {radix digit : Nat} {places : List (Nat × Nat)} :
    InRange ((radix, digit) :: places) <-> digit < radix ∧ InRange places := List.forall_mem_cons

theorem length_digits (number : Nat) (radices : List Nat) :
    (digits number radices).length = radices.length := by
  induction radices generalizing number with
  | nil => rfl
  | cons radix radices inductionHypothesis =>
      rw [digits, List.length_cons, List.length_cons, inductionHypothesis]

theorem prod_pos {radices : List Nat} (nonzero : 0 ∉ radices) : 0 < radices.prod :=
  Nat.pos_of_ne_zero (fun zero => nonzero (List.prod_eq_zero_iff.mp zero))

/-- Numerals stay below the product of their radices. -/
theorem value_lt {places : List (Nat × Nat)} (inRange : InRange places) :
    value places < (places.map Prod.fst).prod := by
  induction places with
  | nil => exact Nat.one_pos
  | cons place places inductionHypothesis =>
      rcases place with ⟨radix, digit⟩
      rcases InRange.cons_iff.mp inRange with ⟨small, rest⟩
      rw [List.map_cons, List.prod_cons, value]
      calc digit + radix * value places < radix + radix * value places := Nat.add_lt_add_right small _
        _ = radix * (value places + 1) := by rw [Nat.mul_succ, Nat.add_comm]
        _ ≤ radix * (places.map Prod.fst).prod := Nat.mul_le_mul_left _ (inductionHypothesis rest)

/-- The digits of a number below the product are those of its numeral. -/
theorem value_digits {number : Nat} {radices : List Nat} (below : number < radices.prod) :
    value (radices.zip (digits number radices)) = number := by
  induction radices generalizing number with
  | nil => exact (Nat.lt_one_iff.mp below).symm
  | cons radix radices inductionHypothesis =>
      rw [List.prod_cons] at below
      rw [digits, List.zip_cons_cons, value, inductionHypothesis (Nat.div_lt_of_lt_mul below),
        Nat.mod_add_div]

theorem inRange_digits {number : Nat} {radices : List Nat} (nonzero : 0 ∉ radices) :
    InRange (radices.zip (digits number radices)) := by
  induction radices generalizing number with
  | nil =>
      intro place impossible
      cases impossible
  | cons radix radices inductionHypothesis =>
      rw [List.mem_cons, not_or] at nonzero
      apply InRange.cons_iff.mpr
      exact ⟨Nat.mod_lt _ (Nat.pos_of_ne_zero (fun zero => nonzero.1 zero.symm)),
        inductionHypothesis nonzero.2⟩

/-- A numeral has the digits it was made of. -/
theorem digits_value {places : List (Nat × Nat)} (inRange : InRange places) :
    digits (value places) (places.map Prod.fst) = places.map Prod.snd := by
  induction places with
  | nil => rfl
  | cons place places inductionHypothesis =>
      rcases place with ⟨radix, digit⟩
      rcases InRange.cons_iff.mp inRange with ⟨small, rest⟩
      have last : (digit + radix * value places) % radix = digit := by
        rw [Nat.add_mul_mod_self_left, Nat.mod_eq_of_lt small]
      have others : (digit + radix * value places) / radix = value places := by
        rw [Nat.add_mul_div_left _ _ (Nat.zero_lt_of_lt small), Nat.div_eq_of_lt small, Nat.zero_add]
      rw [value, List.map_cons, digits, last, others, inductionHypothesis rest, List.map_cons]

/-- The first place holds what the others leave. -/
theorem digits_append (number radix : Nat) (radices : List Nat) :
    digits number (radices ++ [radix]) = digits number radices ++ [number / radices.prod % radix] := by
  induction radices generalizing number with
  | nil => rw [List.prod_nil, Nat.div_one, digits, List.nil_append, digits, digits, List.nil_append]
  | cons first radices inductionHypothesis =>
      rw [List.cons_append, digits, inductionHypothesis, digits, List.prod_cons, Nat.div_div_eq_div_mul,
        List.cons_append]

theorem value_append (places : List (Nat × Nat)) (radix digit : Nat) :
    value (places ++ [(radix, digit)]) = value places + (places.map Prod.fst).prod * digit := by
  induction places with
  | nil => simp [value]
  | cons place places inductionHypothesis =>
      rcases place with ⟨first, item⟩
      rw [List.cons_append, value, value, inductionHypothesis, List.map_cons, List.prod_cons]
      ring

/-- What is beyond the places has no digits in them. -/
theorem digits_mod (number : Nat) (radices : List Nat) :
    digits (number % radices.prod) radices = digits number radices := by
  induction radices generalizing number with
  | nil => rfl
  | cons radix radices inductionHypothesis =>
      rw [digits, digits, List.prod_cons, Nat.mod_mul_right_mod, Nat.mod_mul_right_div_self,
        inductionHypothesis]

/-- A cell of a line of a block lies within the blocks. -/
theorem nested_lt {index line item count height width : Nat} (block : index < count) (row : line < height)
    (column : item < width) : index * height * width + line * width + item < count * height * width := by
  have inRange : InRange [(width, item), (height, line), (count, index)] := by
    apply InRange.cons_iff.mpr ⟨column, InRange.cons_iff.mpr ⟨row, InRange.cons_iff.mpr ⟨block, ?_⟩⟩⟩
    intro place impossible
    cases impossible
  have below := value_lt inRange
  simp only [value, List.map_cons, List.map_nil, List.prod_cons, List.prod_nil] at below
  calc index * height * width + line * width + item
      = item + width * (line + height * (index + count * 0)) := by ring
    _ < width * (height * (count * 1)) := below
    _ = count * height * width := by ring

/-! ## The last numeral -/

theorem digits_last {radices : List Nat} (nonzero : 0 ∉ radices) :
    digits (radices.prod - 1) radices = radices.map (fun radix => radix - 1) := by
  induction radices with
  | nil => rfl
  | cons radix radices inductionHypothesis =>
      rw [List.mem_cons, not_or] at nonzero
      have positive : 0 < radix := Nat.pos_of_ne_zero (fun zero => nonzero.1 zero.symm)
      have restPositive := prod_pos nonzero.2
      have last : radix * radices.prod - 1 = radix * (radices.prod - 1) + (radix - 1) := by
        have split : radix * radices.prod = radix * (radices.prod - 1) + radix := by
          rw [← Nat.mul_succ]
          congr 1
          omega
        omega
      have digit : radix - 1 < radix := by omega
      rw [List.prod_cons, digits, List.map_cons, last, Nat.mul_add_mod, Nat.mod_eq_of_lt digit,
        Nat.mul_add_div positive, Nat.div_eq_of_lt digit, Nat.add_zero, inductionHypothesis nonzero.2]

theorem value_last {radices : List Nat} (nonzero : 0 ∉ radices) :
    value (radices.map (fun radix => (radix, radix - 1))) = radices.prod - 1 := by
  have positive := prod_pos nonzero
  have below : radices.prod - 1 < radices.prod := by omega
  have digits := value_digits below
  rwa [digits_last nonzero, ← List.map_prod_left_eq_zip] at digits

/-! ## Wrapping products -/

section Wrapping

variable (modulus : Nat)

/-- A product, reduced at each factor. -/
def wrappingProduct (factors : List Nat) : Nat :=
  factors.foldl (fun product factor => product * factor % modulus) 1

/-- A product which must not overflow on the way. -/
def checkedProduct (start : Nat) (factors : List Nat) : Option Nat :=
  factors.foldlM (fun total factor => if total * factor < modulus then some (total * factor) else none) start

/-- No partial product wraps. -/
def ProductFits (factors : List Nat) : Prop := forall count, (factors.take count).prod < modulus

/-- Digits over a growing stride, reduced at each step. -/
def wrappingValue : List (Nat × Nat) -> Nat -> Nat -> Nat
  | [], offset, _ => offset
  | (radix, digit) :: rest, offset, stride =>
      wrappingValue rest ((offset + digit * stride % modulus) % modulus) (stride * radix % modulus)

/-- No step wraps. -/
def ValueFits : List (Nat × Nat) -> Nat -> Nat -> Prop
  | [], _, _ => True
  | (radix, digit) :: rest, offset, stride =>
      digit * stride < modulus ∧ offset + digit * stride < modulus ∧ stride * radix < modulus ∧
        ValueFits rest (offset + digit * stride) (stride * radix)

variable {modulus}

theorem foldl_wrapping (factors : List Nat) (start : Nat) :
    factors.foldl (fun product factor => product * factor % modulus) (start % modulus) =
      start * factors.prod % modulus := by
  induction factors generalizing start with
  | nil => rw [List.foldl_nil, List.prod_nil, Nat.mul_one]
  | cons factor factors inductionHypothesis =>
      rw [List.foldl_cons, Nat.mod_mul_mod, inductionHypothesis, List.prod_cons, Nat.mul_assoc]

/-- A wrapping product is the product, reduced. -/
theorem wrappingProduct_eq (several : 1 < modulus) (factors : List Nat) :
    wrappingProduct modulus factors = factors.prod % modulus := by
  have folded : factors.foldl (fun product factor => product * factor % modulus) (1 % modulus) =
      1 * factors.prod % modulus := foldl_wrapping factors 1
  rw [Nat.mod_eq_of_lt several, Nat.one_mul] at folded
  exact folded

theorem ProductFits.prod_lt {factors : List Nat} (fits : ProductFits modulus factors) :
    factors.prod < modulus := by
  have whole := fits factors.length
  rwa [List.take_length] at whole

theorem productFits_cons_cons {first second : Nat} {factors : List Nat} (several : 1 < modulus) :
    ProductFits modulus (first :: second :: factors) <->
      first < modulus ∧ ProductFits modulus (first * second :: factors) := by
  constructor
  · intro fits
    refine ⟨by simpa using fits 1, ?_⟩
    intro count
    match count with
    | 0 => simpa using several
    | count + 1 =>
        have partial_ := fits (count + 2)
        rw [List.take_succ_cons, List.take_succ_cons, List.prod_cons, List.prod_cons, ← Nat.mul_assoc] at partial_
        rwa [List.take_succ_cons, List.prod_cons]
  · intro fits count
    match count with
    | 0 => simpa using several
    | 1 => simpa using fits.1
    | count + 2 =>
        have partial_ := fits.2 (count + 1)
        rw [List.take_succ_cons, List.prod_cons] at partial_
        rwa [List.take_succ_cons, List.take_succ_cons, List.prod_cons, List.prod_cons, ← Nat.mul_assoc]

/-- A checked product is that of all factors, if no partial product overflows. -/
theorem checkedProduct_eq_some {start result : Nat} {factors : List Nat} (several : 1 < modulus)
    (small : start < modulus) : checkedProduct modulus start factors = some result <->
      ProductFits modulus (start :: factors) ∧ (start :: factors).prod = result := by
  induction factors generalizing start with
  | nil =>
      have fits : ProductFits modulus [start] := by
        intro count
        match count with
        | 0 => simpa using several
        | count + 1 => simpa using small
      rw [and_iff_right fits, List.prod_singleton]
      exact Option.some_inj
  | cons factor factors inductionHypothesis =>
      rw [checkedProduct, List.foldlM_cons, productFits_cons_cons several, and_iff_right small, List.prod_cons,
        List.prod_cons, ← Nat.mul_assoc, ← List.prod_cons]
      by_cases inside : start * factor < modulus
      · rw [if_pos inside]
        exact inductionHypothesis inside
      · rw [if_neg inside]
        apply iff_of_false (fun impossible => by cases impossible)
        intro fits
        exact inside (by simpa using fits.1 1)

/-- Without a zero, the partial products do not exceed the product. -/
theorem productFits_of_pos {factors : List Nat} (nonzero : 0 ∉ factors) (small : factors.prod < modulus) :
    ProductFits modulus factors := by
  intro count
  apply Nat.lt_of_le_of_lt ?_ small
  have split : (factors.take count).prod * (factors.drop count).prod = factors.prod := by
    rw [← List.prod_append, List.take_append_drop]
  rw [← split]
  apply Nat.le_mul_of_pos_right
  apply prod_pos
  intro zero
  exact nonzero (List.mem_of_mem_drop zero)

theorem wrappingValue_eq {places : List (Nat × Nat)} {offset stride : Nat} (small : offset < modulus) :
    wrappingValue modulus places offset stride = (offset + stride * value places) % modulus := by
  induction places generalizing offset stride with
  | nil =>
      rw [wrappingValue, value, Nat.mul_zero, Nat.add_zero, Nat.mod_eq_of_lt small]
  | cons place places inductionHypothesis =>
      rcases place with ⟨radix, digit⟩
      rw [wrappingValue, inductionHypothesis (Nat.mod_lt _ (Nat.zero_lt_of_lt small)), value]
      have sum : (offset + digit * stride % modulus) % modulus ≡ offset + digit * stride [MOD modulus] :=
        (Nat.mod_modEq _ _).trans ((Nat.mod_modEq _ _).add_left offset)
      have product : stride * radix % modulus * value places ≡ stride * radix * value places [MOD modulus] :=
        (Nat.mod_modEq _ _).mul_right _
      have regrouped : offset + stride * (digit + radix * value places) =
          offset + digit * stride + stride * radix * value places := by ring
      rw [regrouped]
      exact sum.add product

theorem productFits_three {first second third : Nat} (several : 1 < modulus) (one : first < modulus)
    (two : first * second < modulus) (three : first * second * third < modulus) :
    ProductFits modulus [first, second, third] := by
  intro count
  match count with
  | 0 => simpa using several
  | 1 => simpa using one
  | 2 => simpa using two
  | more + 3 => simpa [Nat.mul_assoc] using three

theorem productFits_of_le {index last height width : Nat} (several : 1 < modulus) (inside : index ≤ last)
    (one : last < modulus) (two : last * height < modulus) (three : last * height * width < modulus) :
    ProductFits modulus [index, height, width] := by
  have lines : index * height ≤ last * height := Nat.mul_le_mul_right height inside
  have cells : index * height * width ≤ last * height * width := Nat.mul_le_mul_right width lines
  apply productFits_three several
  · omega
  · omega
  · omega

/-- In-range digits over a stride whose multiples fit wrap nowhere. -/
theorem valueFits_of_inRange {places : List (Nat × Nat)} {offset stride : Nat} (inRange : InRange places)
    (below : offset < stride) (small : stride * (places.map Prod.fst).prod < modulus) :
    ValueFits modulus places offset stride := by
  induction places generalizing offset stride with
  | nil => trivial
  | cons place places inductionHypothesis =>
      rcases place with ⟨radix, digit⟩
      rcases InRange.cons_iff.mp inRange with ⟨digitSmall, rest⟩
      rw [List.map_cons, List.prod_cons, ← Nat.mul_assoc] at small
      have restPos : 0 < (places.map Prod.fst).prod := Nat.zero_lt_of_lt (value_lt rest)
      have strideFits : stride * radix < modulus :=
        Nat.lt_of_le_of_lt (Nat.le_mul_of_pos_right _ restPos) small
      have next : offset + digit * stride < stride * radix := by
        calc offset + digit * stride < stride + digit * stride := Nat.add_lt_add_right below _
          _ = stride * (digit + 1) := by ring
          _ ≤ stride * radix := Nat.mul_le_mul_left _ digitSmall
      refine ⟨?_, ?_, strideFits, inductionHypothesis rest next small⟩
      · omega
      · omega

end Wrapping

end Numeric
end TransactionalCollection
