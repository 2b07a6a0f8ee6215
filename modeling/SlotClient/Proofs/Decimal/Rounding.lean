import Mathlib.Algebra.Order.Field.Basic
import Mathlib.Data.Rat.Cast.Order
import Mathlib.Tactic.Ring
import SlotClient.Decimal.Shortest
import SlotClient.Proofs.Decimal.Binary64

/-!
# Rounding intervals

A finite binary number is the nearest one to all that is in an interval around it. Its ends are as
near to a neighbour, and belong to it if the significand is even. Below a power of two the numbers
are twice as dense, so what is rounded up to it is rounded at the scale below, and the carry makes
the pattern the same.
-/

namespace SlotClient

namespace Binary64

variable {number : Binary64}

theorem fractionField_lt (number : Binary64) : number.fractionField < fractionRange :=
  Nat.mod_lt _ (powerOfTwo_pos 52)

theorem significand_lt (number : Binary64) : number.significand < 2 * fractionRange := by
  have fraction := number.fractionField_lt
  unfold significand
  split <;> omega

/-- Only the smallest scale has significands of fewer bits. -/
theorem fractionRange_le_significand (scaled : number.scale ≠ 0) :
    fractionRange ≤ number.significand := by
  unfold scale at scaled
  unfold significand
  split <;> omega

theorem scale_lt (finite : number.isFinite = true) : number.scale < 2046 := by
  have field : number.exponentField < 2048 := Nat.mod_lt _ (powerOfTwo_pos 11)
  have notLast : number.exponentField ≠ 2047 := by simpa [isFinite] using finite
  unfold scale
  omega

/-- The pattern of a magnitude without its sign. -/
theorem scale_mul_add_significand (number : Binary64) :
    number.scale * fractionRange + number.significand =
      number.exponentField * fractionRange + number.fractionField := by
  rcases field : number.exponentField with _ | below
  · simp only [scale, significand, field, if_true, Nat.zero_sub]
  · simp only [scale, significand, field, Nat.add_one_sub_one, Nat.succ_ne_zero, if_false,
      Nat.add_mul]
    omega

/-- A number is made of its fields. -/
theorem ofPattern_fields (number : Binary64) :
    ofPattern number.isNegative (number.exponentField * fractionRange + number.fractionField) =
      number := by
  rcases number with ⟨bits⟩
  have width : bits.toNat < 18446744073709551616 := bits.toNat_lt
  have fraction : fractionRange = 4503599627370496 := rfl
  have exponent : exponentRange = 2048 := rfl
  have sign : signWeight = 9223372036854775808 := rfl
  have same : UInt64.ofNat bits.toNat = bits := UInt64.ofNat_toNat
  rw [ofPattern, isNegative, exponentField, fractionField, fraction, exponent, sign]
  congr 1
  refine Eq.trans ?_ same
  congr 1
  simp only [decide_eq_true_eq]
  split <;> omega

theorem pattern_lt (finite : number.isFinite = true) :
    number.scale * fractionRange + number.significand < infinityPattern := by
  have scale := scale_lt finite
  have significand := number.significand_lt
  unfold infinityPattern
  have range : fractionRange = 4503599627370496 := rfl
  rw [range] at significand ⊢
  omega

/-- A quotient is at most half a unit off a whole number, and less than that if this is odd. -/
structure RoundsTo (numerator denominator rounded : Nat) : Prop where
  low : 2 * (rounded * denominator) ≤ 2 * numerator + denominator
  high : 2 * numerator ≤ 2 * (rounded * denominator) + denominator
  ends : rounded % 2 = 1 → 2 * (rounded * denominator) < 2 * numerator + denominator ∧
    2 * numerator < 2 * (rounded * denominator) + denominator

theorem RoundsTo.roundedQuotient_eq {numerator denominator rounded : Nat}
    (rounds : RoundsTo numerator denominator rounded) (divisible : 0 < denominator) :
    roundedQuotient numerator denominator = rounded := by
  rcases rounds with ⟨low, high, ends⟩
  have parts := Nat.div_add_mod numerator denominator
  have remains := Nat.mod_lt numerator divisible
  rw [roundedQuotient]
  generalize numerator / denominator = quotient at parts ⊢
  generalize numerator % denominator = remainder at parts remains ⊢
  rw [Nat.mul_comm] at parts
  have next : (quotient + 1) * denominator = quotient * denominator + denominator :=
    Nat.succ_mul quotient denominator
  have atLeast : quotient ≤ rounded := by
    by_contra less
    have product := Nat.mul_le_mul_right denominator (Nat.succ_le_of_lt (Nat.lt_of_not_le less))
    rw [Nat.succ_mul] at product
    omega
  have atMost : rounded ≤ quotient + 1 := by
    by_contra more
    have product := Nat.mul_le_mul_right denominator (Nat.succ_le_of_lt (Nat.lt_of_not_le more))
    rw [Nat.succ_mul, next] at product
    omega
  rcases Nat.lt_or_eq_of_le atMost with below | above
  · have same : rounded = quotient := Nat.le_antisymm (Nat.le_of_lt_succ below) atLeast
    rw [same] at high ends ⊢
    split <;> omega
  · rw [above, next] at low
    rw [above] at ends ⊢
    split <;> omega

/-- The scale at which a quotient has just the bits of a significand. -/
theorem scaleOf_eq {numerator denominator scale : Nat} (divisible : 0 < denominator)
    (low : scale = 0 ∨ fractionRange * (denominator * powerOfTwo scale) ≤ numerator * unitsInOne)
    (high : numerator * unitsInOne < 2 * fractionRange * (denominator * powerOfTwo scale)) :
    scaleOf numerator denominator = scale := by
  have most : numerator * unitsInOne / denominator < 2 ^ (scale + 53) := by
    apply Nat.div_lt_of_lt_mul
    rw [Nat.add_comm, Nat.pow_add, Nat.mul_left_comm]
    exact high
  apply Nat.le_antisymm (scaleOf_le most)
  rcases low with first | enough
  · omega
  have least : 2 ^ (52 + scale) ≤ numerator * unitsInOne / denominator := by
    rw [Nat.le_div_iff_mul_le divisible, Nat.pow_add, Nat.mul_assoc,
      Nat.mul_comm _ denominator]
    exact enough
  have some : numerator * unitsInOne / denominator ≠ 0 :=
    Nat.ne_of_gt (Nat.lt_of_lt_of_le (powerOfTwo_pos _) least)
  have width := (Nat.le_log2 some).mpr least
  unfold scaleOf
  omega

/-- A quotient that rounds to a significand at its own scale. -/
theorem nearest_eq {numerator denominator scale rounded : Nat} (divisible : 0 < denominator)
    (low : scale = 0 ∨ fractionRange * (denominator * powerOfTwo scale) ≤ numerator * unitsInOne)
    (high : numerator * unitsInOne < 2 * fractionRange * (denominator * powerOfTwo scale))
    (rounds : RoundsTo (numerator * unitsInOne) (denominator * powerOfTwo scale) rounded)
    (finite : scale * fractionRange + rounded < infinityPattern) :
    nearest numerator denominator = scale * fractionRange + rounded := by
  have unit : 0 < denominator * powerOfTwo scale := Nat.mul_pos divisible (powerOfTwo_pos scale)
  rw [nearest, scaleOf_eq divisible low high, rounds.roundedQuotient_eq unit]
  exact Nat.min_eq_left (Nat.le_of_lt finite)

end Binary64

namespace Decimal.Rounding

/-- The interval contains what is between its ends, and these if they are included. -/
def Contains (rounding : Rounding) (number : ℚ) : Prop :=
  if rounding.endsIncluded then
    rounding.low ≤ number * rounding.denominator ∧ number * rounding.denominator ≤ rounding.high
  else
    rounding.low < number * rounding.denominator ∧ number * rounding.denominator < rounding.high

variable {rounding : Rounding} {number : ℚ}

theorem Contains.within (contains : rounding.Contains number) :
    rounding.low ≤ number * rounding.denominator ∧
      number * rounding.denominator ≤ rounding.high := by
  unfold Contains at contains
  split at contains
  · exact contains
  · exact ⟨contains.1.le, contains.2.le⟩

theorem Contains.inside (contains : rounding.Contains number)
    (excluded : rounding.endsIncluded = false) :
    rounding.low < number * rounding.denominator ∧
      number * rounding.denominator < rounding.high := by
  rw [Contains, excluded] at contains
  exact contains

/-- The same in naturals, for a quotient. -/
theorem Contains.products {numerator denominator : Nat}
    (contains : rounding.Contains (numerator / denominator)) (divisible : 0 < denominator) :
    (rounding.low * denominator ≤ numerator * rounding.denominator ∧
      numerator * rounding.denominator ≤ rounding.high * denominator) ∧
    (rounding.endsIncluded = false →
      rounding.low * denominator < numerator * rounding.denominator ∧
        numerator * rounding.denominator < rounding.high * denominator) := by
  have positive : (0 : ℚ) < denominator := Nat.cast_pos.mpr divisible
  constructor
  · have within := contains.within
    rw [div_mul_eq_mul_div, le_div_iff₀ positive, div_le_iff₀ positive] at within
    exact_mod_cast within
  · intro excluded
    have inside := contains.inside excluded
    rw [div_mul_eq_mul_div, lt_div_iff₀ positive, div_lt_iff₀ positive] at inside
    exact_mod_cast inside

section Interval

open Binary64

variable {binary : Binary64} {numerator denominator : Nat}

theorem high_mul (binary : Binary64) (denominator : Nat) :
    (Rounding.of binary).high * denominator =
      4 * (binary.significand * (denominator * powerOfTwo binary.scale)) +
        2 * (denominator * powerOfTwo binary.scale) := by
  rw [of]
  ring

theorem le_low_mul (binary : Binary64) (denominator : Nat) :
    4 * (binary.significand * (denominator * powerOfTwo binary.scale)) ≤
      (Rounding.of binary).low * denominator +
        (if binary.significand = fractionRange then 1 else 2) *
          (denominator * powerOfTwo binary.scale) := by
  have low : (Rounding.of binary).low * denominator =
      (4 * binary.significand - if binary.significand = fractionRange then 1 else 2) *
        (denominator * powerOfTwo binary.scale) := by
    rw [of]
    ring
  rw [low, ← Nat.add_mul, ← Nat.mul_assoc]
  exact Nat.mul_le_mul_right _ (Nat.sub_le_iff_le_add.mp le_rfl)

/-- What the interval around a number contains rounds to its significand at its scale. -/
theorem Contains.roundsTo (contains : (Rounding.of binary).Contains (numerator / denominator))
    (divisible : 0 < denominator) :
    RoundsTo (numerator * unitsInOne) (denominator * powerOfTwo binary.scale)
      binary.significand := by
  rcases contains.products divisible with ⟨⟨low, high⟩, inside⟩
  have lower := le_low_mul binary denominator
  rw [high_mul] at high inside
  have scaled : (Rounding.of binary).denominator = 4 * unitsInOne := rfl
  have odd : (Rounding.of binary).endsIncluded = false ↔ ¬binary.significand % 2 = 0 := by
    simp [of]
  rw [scaled, Nat.mul_left_comm] at low high inside
  rw [odd] at inside
  have half : (if binary.significand = fractionRange then 1 else 2) *
      (denominator * powerOfTwo binary.scale) ≤ 2 * (denominator * powerOfTwo binary.scale) :=
    Nat.mul_le_mul_right _ (by split <;> omega)
  constructor
  · omega
  · omega
  · intro isOdd
    have inside := inside (by omega)
    omega

/-- The interval around a power of two is half as wide below it. -/
theorem Contains.narrow (contains : (Rounding.of binary).Contains (numerator / denominator))
    (divisible : 0 < denominator) (power : binary.significand = fractionRange) :
    4 * (fractionRange * (denominator * powerOfTwo binary.scale)) ≤
      4 * (numerator * unitsInOne) + denominator * powerOfTwo binary.scale := by
  have low := (contains.products divisible).1.1
  have lower := le_low_mul binary denominator
  have scaled : (Rounding.of binary).denominator = 4 * unitsInOne := rfl
  rw [scaled, Nat.mul_left_comm] at low
  rw [if_pos power, power] at lower
  omega

end Interval

end Decimal.Rounding

open Decimal in
/-- All that the interval around a number contains is rounded to it. -/
theorem Binary64.nearest_of_contains {number : Binary64} (finite : number.isFinite = true)
    {numerator denominator : Nat} (divisible : 0 < denominator)
    (contains : (Rounding.of number).Contains (numerator / denominator)) :
    nearest numerator denominator = number.scale * fractionRange + number.significand := by
  have pattern := pattern_lt finite
  have rounds := contains.roundsTo divisible
  have unit : 0 < denominator * powerOfTwo number.scale :=
    Nat.mul_pos divisible (powerOfTwo_pos number.scale)
  by_cases normal : number.scale = 0 ∨
      fractionRange * (denominator * powerOfTwo number.scale) ≤ numerator * unitsInOne
  · have high := rounds.high
    have most := Nat.mul_le_mul_right (denominator * powerOfTwo number.scale)
      (Nat.succ_le_of_lt number.significand_lt)
    rw [Nat.succ_mul, Nat.mul_assoc] at most
    exact nearest_eq divisible normal (by rw [Nat.mul_assoc]; omega) rounds pattern
  · -- Only what is rounded up to a power of two is below it.
    rcases not_or.mp normal with ⟨scaled, below⟩
    have power : number.significand = fractionRange := by
      apply Nat.le_antisymm _ (fractionRange_le_significand scaled)
      by_contra more
      have low := rounds.low
      have least := Nat.mul_le_mul_right (denominator * powerOfTwo number.scale)
        (Nat.succ_le_of_lt (Nat.lt_of_not_le more))
      rw [Nat.succ_mul] at least
      omega
    have narrow := contains.narrow divisible power
    rcases Nat.exists_eq_succ_of_ne_zero scaled with ⟨lower, next⟩
    have double : denominator * powerOfTwo number.scale = 2 * (denominator * powerOfTwo lower) := by
      rw [next, ← Nat.mul_assoc, Nat.mul_comm 2, Nat.mul_assoc, Nat.mul_comm 2]
      rfl
    have same : number.scale * fractionRange + number.significand =
        lower * fractionRange + 2 * fractionRange := by
      rw [next, power, Nat.succ_mul]
      omega
    have range : fractionRange = 4503599627370496 := rfl
    rw [double, range] at narrow below
    rw [same] at pattern ⊢
    have enough : fractionRange * (denominator * powerOfTwo lower) ≤ numerator * unitsInOne := by
      rw [range]
      omega
    have most : numerator * unitsInOne < 2 * fractionRange * (denominator * powerOfTwo lower) := by
      rw [range]
      omega
    have carried : RoundsTo (numerator * unitsInOne) (denominator * powerOfTwo lower)
        (2 * fractionRange) := by
      rw [range]
      constructor <;> omega
    exact nearest_eq divisible (.inr enough) most carried pattern

end SlotClient
