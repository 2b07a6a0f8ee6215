import Mathlib.Algebra.Group.Nat.Defs
import Mathlib.Tactic.Common
import SlotClient.Decimal.Binary64

/-!
# Bounds on binary magnitudes

How large a quotient is bounds the exponent of the binary number nearest to it, and the exponent
bounds the magnitude. The bounds are rough, off by one exponent: they tell finite numbers from
infinities where the quotient is far from the limit.
-/

namespace SlotClient

namespace Binary64

theorem powerOfTwo_pos (exponent : Nat) : 0 < powerOfTwo exponent := Nat.pow_pos (by decide)

theorem powerOfTwo_add (first second : Nat) :
    powerOfTwo (first + second) = powerOfTwo first * powerOfTwo second := Nat.pow_add 2 first second

theorem powerOfTwo_lt {first second : Nat} (less : first < second) :
    powerOfTwo first < powerOfTwo second := Nat.pow_lt_pow_right (by decide) less

theorem powerOfTwo_mul (first second : Nat) :
    powerOfTwo first * 2 ^ second = 2 ^ (first + second) := (Nat.pow_add 2 first second).symm

theorem unitsInOne_pos : 0 < unitsInOne := powerOfTwo_pos 1074

theorem unitsInOne_mul (exponent : Nat) : unitsInOne * 2 ^ exponent = 2 ^ (1074 + exponent) :=
  powerOfTwo_mul 1074 exponent

theorem roundedQuotient_le {numerator denominator limit : Nat}
    (below : numerator < denominator * limit) : roundedQuotient numerator denominator ≤ limit := by
  have quotient : numerator / denominator < limit := Nat.div_lt_of_lt_mul below
  unfold roundedQuotient
  dsimp only
  split <;> omega

theorem log2_le_scaleOf (numerator denominator : Nat) :
    (numerator * unitsInOne / denominator).log2 ≤ scaleOf numerator denominator + 52 := by
  unfold scaleOf
  omega

theorem scaleOf_le {numerator denominator bits : Nat}
    (below : numerator * unitsInOne / denominator < 2 ^ (bits + 53)) :
    scaleOf numerator denominator ≤ bits := by
  unfold scaleOf
  generalize numerator * unitsInOne / denominator = quotient at below ⊢
  by_cases nothing : quotient = 0
  · simp [nothing]
  · have width := (Nat.log2_lt nothing).mpr below
    omega

/-- A pattern is at most two exponents above the bits that a quotient has beyond fifty-three. -/
theorem nearest_le {numerator denominator bits : Nat} (divisible : 0 < denominator)
    (below : numerator * unitsInOne / denominator < 2 ^ (bits + 53)) :
    nearest numerator denominator ≤ (bits + 2) * fractionRange := by
  have scale := scaleOf_le below
  have significand : roundedQuotient (numerator * unitsInOne)
      (denominator * powerOfTwo (scaleOf numerator denominator)) ≤ 2 * fractionRange := by
    apply roundedQuotient_le
    calc numerator * unitsInOne
        < denominator * (numerator * unitsInOne / denominator + 1) :=
          Nat.lt_mul_div_succ _ divisible
      _ ≤ denominator * 2 ^ (scaleOf numerator denominator + 53) := by
          apply Nat.mul_le_mul_left
          apply Nat.le_trans Nat.lt_log2_self
          apply Nat.pow_le_pow_right (by decide)
          have width := log2_le_scaleOf numerator denominator
          omega
      _ = denominator * powerOfTwo (scaleOf numerator denominator) * (2 * fractionRange) := by
          rw [Nat.pow_add, ← Nat.mul_assoc]
          rfl
  calc nearest numerator denominator
      ≤ scaleOf numerator denominator * fractionRange + 2 * fractionRange :=
        Nat.le_trans (Nat.min_le_left _ _) (Nat.add_le_add_left significand _)
    _ ≤ (bits + 2) * fractionRange := by
        rw [← Nat.add_mul]
        exact Nat.mul_le_mul_right _ (Nat.add_le_add_right scale 2)

theorem magnitude_lt {pattern bits : Nat} (within : pattern ≤ (bits + 2) * fractionRange)
    (finite : bits + 2 < 2047) : (ofPattern false pattern).magnitude < 2 ^ (bits + 54) := by
  have range : fractionRange = 4503599627370496 := rfl
  have same : (ofPattern false pattern).bits.toNat = pattern := by
    rw [range] at within
    exact UInt64.toNat_ofNat_of_lt' (show pattern < 2 ^ 64 by omega)
  have exponent : (ofPattern false pattern).exponentField ≤ bits + 2 := by
    rw [exponentField, same]
    exact Nat.le_trans (Nat.mod_le _ _) (Nat.div_le_of_le_mul (by rwa [Nat.mul_comm]))
  have significand : (ofPattern false pattern).significand < 2 ^ 53 := by
    have fraction : (ofPattern false pattern).fractionField < fractionRange :=
      Nat.mod_lt _ (by decide)
    unfold Binary64.significand
    split <;> omega
  have scale : (ofPattern false pattern).scale ≤ bits + 1 := by
    unfold Binary64.scale
    omega
  calc (ofPattern false pattern).magnitude
      < 2 ^ 53 * powerOfTwo (ofPattern false pattern).scale :=
        Nat.mul_lt_mul_of_pos_right significand (powerOfTwo_pos _)
    _ ≤ 2 ^ 53 * 2 ^ (bits + 1) :=
        Nat.mul_le_mul_left _ (Nat.pow_le_pow_right (by decide) scale)
    _ = 2 ^ (bits + 54) := by
        rw [← Nat.pow_add]
        congr 1
        omega

/-- The magnitude of a whole number is in units of which one has two to the 1074th. -/
theorem magnitude_nearest_lt {number bits : Nat} (below : number < 2 ^ bits)
    (finite : bits < 1024) :
    (ofPattern false (nearest number 1)).magnitude < 2 ^ (bits + 1075) := by
  have quotient : number * unitsInOne / 1 < 2 ^ (bits + 1021 + 53) := by
    have width : bits + 1021 + 53 = 1074 + bits := by omega
    rw [Nat.div_one, width, ← unitsInOne_mul, Nat.mul_comm]
    exact Nat.mul_lt_mul_of_pos_left below unitsInOne_pos
  exact magnitude_lt (nearest_le (by decide) quotient) (by omega)

/-- The product of two magnitudes is finite if the numbers have few bits between them. -/
theorem nearest_product_lt {first second firstBits secondBits : Nat}
    (firstBelow : first < 2 ^ firstBits) (secondBelow : second < 2 ^ secondBits)
    (finite : firstBits + secondBits < 1022) :
    nearest ((ofPattern false (nearest first 1)).magnitude *
        (ofPattern false (nearest second 1)).magnitude) (unitsInOne * unitsInOne) <
      infinityPattern := by
  have firstMagnitude := magnitude_nearest_lt firstBelow (by omega)
  have secondMagnitude := magnitude_nearest_lt secondBelow (by omega)
  generalize (ofPattern false (nearest first 1)).magnitude = factor at firstMagnitude ⊢
  generalize (ofPattern false (nearest second 1)).magnitude = other at secondMagnitude ⊢
  have quotient : factor * other * unitsInOne / (unitsInOne * unitsInOne) <
      2 ^ (firstBits + secondBits + 1023 + 53) := by
    rw [Nat.mul_div_mul_right _ _ unitsInOne_pos]
    apply Nat.div_lt_of_lt_mul
    have width : 1074 + (firstBits + secondBits + 1023 + 53) =
        firstBits + 1075 + (secondBits + 1075) := by omega
    calc factor * other
        < 2 ^ (firstBits + 1075) * 2 ^ (secondBits + 1075) :=
          Nat.mul_lt_mul'' firstMagnitude secondMagnitude
      _ = unitsInOne * 2 ^ (firstBits + secondBits + 1023 + 53) := by
          rw [unitsInOne_mul, width]
          exact (Nat.pow_add 2 _ _).symm
  have bounded := nearest_le (Nat.mul_pos unitsInOne_pos unitsInOne_pos) quotient
  apply Nat.lt_of_le_of_lt bounded
  exact Nat.mul_lt_mul_of_pos_right (by omega) (powerOfTwo_pos 52)

end Binary64

end SlotClient
