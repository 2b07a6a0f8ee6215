import Mathlib.Algebra.Order.Field.Power
import Mathlib.Tactic.Linarith
import Mathlib.Tactic.Positivity
import SlotClient.Proofs.Decimal.Digits
import SlotClient.Proofs.Decimal.Rounding

/-!
# Shortest decimal numbers

Seventeen digits suffice: on a grid of so many, two neighbours are nearer to each other than the
ends of the interval that rounds to a number, so one of those beside the number is inside. If any
point of a grid is in the interval, so is one of these two, and hence the first count of digits for
which there is one is the least. A decimal number of fewer digits that is off the grid of that
count is below the power of ten under the number, which is on the grid.
-/

namespace SlotClient.Decimal

theorem powerOfTen_pos (exponent : Nat) : 0 < powerOfTen exponent := Nat.pow_pos (by decide)

theorem cast_powerOfTen_pos (exponent : Nat) : (0 : ℚ) < powerOfTen exponent :=
  Nat.cast_pos.mpr (powerOfTen_pos exponent)

theorem cast_powerOfTen (exponent : Nat) : (powerOfTen exponent : ℚ) = 10 ^ exponent := by
  exact_mod_cast rfl

/-- A power of ten is the quotient of the powers on either side of the fraction bar. -/
theorem powerOfTen_toNat (exponent : Int) :
    (powerOfTen exponent.toNat : ℚ) = 10 ^ exponent * powerOfTen (-exponent).toNat := by
  rcases exponent.eq_nat_or_neg with ⟨size, rfl | rfl⟩
  · simp [powerOfTen]
  · simp [powerOfTen]

/-- A positive number is from the power of ten with as many digits up to the next one. -/
theorem exists_digitCount {number : Nat} (positive : 0 < number) :
    ∃ fewer, digitCount number = fewer + 1 ∧ powerOfTen fewer ≤ number ∧
      number < powerOfTen (fewer + 1) := by
  induction number using Nat.strongRecOn with
  | ind number shorter =>
      rw [digitCount, digits]
      split
      · rename_i single
        exact ⟨0, rfl, positive, single⟩
      · rename_i several
        rcases shorter (number / 10) (by omega) (by omega) with ⟨fewer, count, least, most⟩
        have power : powerOfTen (fewer + 1) = powerOfTen fewer * 10 := rfl
        have next : powerOfTen (fewer + 1 + 1) = powerOfTen (fewer + 1) * 10 := rfl
        refine ⟨fewer + 1, ?_, by omega, by omega⟩
        rw [List.length_append, ← digitCount, count, List.length_singleton]

/-- What a decimal number is worth. -/
def Numeral.value (number : Numeral) : ℚ := number.coefficient * 10 ^ number.exponent

theorem Numeral.value_le {coefficient larger : Nat} (le : coefficient ≤ larger) (exponent : Int) :
    (⟨coefficient, exponent⟩ : Numeral).value ≤ (⟨larger, exponent⟩ : Numeral).value := by
  have power : (0 : ℚ) < 10 ^ exponent := by positivity
  exact mul_le_mul_of_nonneg_right (Nat.cast_le.mpr le) power.le

namespace Rounding

variable {rounding : Rounding}

/-- An interval around a positive number that, for its size, is no narrower than those around binary
numbers are. -/
structure IsWide (rounding : Rounding) : Prop where
  divisible : 0 < rounding.denominator
  low_pos : 0 < rounding.low
  low_lt : rounding.low < rounding.value
  lt_high : rounding.value < rounding.high
  wide : 2 * rounding.value + 18014398509481984 * rounding.low ≤ 18014398509481984 * rounding.high

theorem isWide_of {number : Binary64} (nonzero : number.significand ≠ 0) :
    (Rounding.of number).IsWide := by
  have unit := Binary64.powerOfTwo_pos number.scale
  have significand := number.significand_lt
  have range : Binary64.fractionRange = 4503599627370496 := rfl
  rw [range] at significand
  constructor
  · exact Nat.mul_pos (by decide) Binary64.unitsInOne_pos
  · exact Nat.mul_pos (by split <;> omega) unit
  · exact Nat.mul_lt_mul_of_pos_right (by split <;> omega) unit
  · exact Nat.mul_lt_mul_of_pos_right (by omega) unit
  · simp only [Rounding.of, ← Nat.mul_assoc, ← Nat.add_mul, range]
    apply Nat.mul_le_mul_right
    split <;> omega

/-- The value is from the power of ten below the magnitude up to, but not including, the one at the
magnitude. -/
theorem IsWide.magnitude_spec (wide : rounding.IsWide) :
    (10 : ℚ) ^ (rounding.magnitude - 1) * rounding.denominator ≤ rounding.value ∧
      rounding.value < (10 : ℚ) ^ rounding.magnitude * rounding.denominator := by
  have divisible := wide.divisible
  have valuable : 0 < rounding.value := wide.low_pos.trans wide.low_lt
  unfold magnitude
  split
  · rename_i large
    rcases exists_digitCount (Nat.div_pos large divisible) with ⟨fewer, count, least, most⟩
    rw [Nat.le_div_iff_mul_le divisible] at least
    rw [Nat.div_lt_iff_lt_mul divisible] at most
    rw [count, Nat.cast_succ, add_sub_cancel_right, ← Nat.cast_succ, zpow_natCast, zpow_natCast]
    exact ⟨by exact_mod_cast least, by exact_mod_cast most⟩
  · rename_i small
    have divides : 0 < (rounding.denominator - 1) / rounding.value :=
      Nat.div_pos (by omega) valuable
    rcases exists_digitCount divides with ⟨fewer, count, least, most⟩
    rw [Nat.le_div_iff_mul_le valuable] at least
    rw [Nat.div_lt_iff_lt_mul valuable] at most
    have lower : (1 : ℤ) - (fewer + 1 : ℕ) - 1 = -(fewer + 1 : ℕ) := by omega
    have upper : (1 : ℤ) - (fewer + 1 : ℕ) = -(fewer : ℕ) := by omega
    have power (size : ℕ) : (0 : ℚ) < 10 ^ size := by positivity
    rw [count, lower, upper, zpow_neg, zpow_neg, zpow_natCast, zpow_natCast,
      inv_mul_le_iff₀ (power _), lt_inv_mul_iff₀ (power _)]
    have atLeast : powerOfTen fewer * rounding.value < rounding.denominator := by omega
    have atMost : rounding.denominator ≤ powerOfTen (fewer + 1) * rounding.value := by omega
    exact ⟨by exact_mod_cast atMost, by exact_mod_cast atLeast⟩

/-- A point of a grid, and a number of the interval, over the same denominator. -/
theorem cast_unit (rounding : Rounding) (number : Numeral) :
    ((number.coefficient * (rounding.denominator * powerOfTen number.exponent.toNat) : ℕ) : ℚ) =
      number.value * rounding.denominator * powerOfTen (-number.exponent).toNat := by
  rw [Nat.cast_mul, Nat.cast_mul, powerOfTen_toNat, Numeral.value]
  ring

theorem unit_le_iff (rounding : Rounding) (number : Numeral) (scaled : Nat) :
    number.coefficient * (rounding.denominator * powerOfTen number.exponent.toNat) ≤
        scaled * powerOfTen (-number.exponent).toNat ↔
      number.value * rounding.denominator ≤ scaled := by
  rw [← mul_le_mul_iff_left₀ (cast_powerOfTen_pos (-number.exponent).toNat), ← cast_unit]
  norm_cast

theorem le_unit_iff (rounding : Rounding) (number : Numeral) (scaled : Nat) :
    scaled * powerOfTen (-number.exponent).toNat ≤
        number.coefficient * (rounding.denominator * powerOfTen number.exponent.toNat) ↔
      scaled ≤ number.value * rounding.denominator := by
  rw [← mul_le_mul_iff_left₀ (cast_powerOfTen_pos (-number.exponent).toNat), ← cast_unit]
  norm_cast

theorem admits_iff {rounding : Rounding} {number : Numeral} :
    rounding.admits number = true ↔ rounding.Contains number.value := by
  have low := rounding.le_unit_iff number rounding.low
  have high := rounding.unit_le_iff number rounding.high
  have lowInside := lt_iff_lt_of_le_iff_le (rounding.unit_le_iff number rounding.low)
  have highInside := lt_iff_lt_of_le_iff_le (rounding.le_unit_iff number rounding.high)
  unfold admits Contains
  dsimp only
  split
  · rw [Bool.and_eq_true, decide_eq_true_eq, decide_eq_true_eq, low, high]
  · rw [Bool.and_eq_true, decide_eq_true_eq, decide_eq_true_eq, lowInside, highInside]

/-- The choice that is made between the neighbours of the value on a grid: one that is in the
interval, and the nearer one if both are. -/
inductive Picks (rounding : Rounding) (below above : Numeral) : Option Numeral → Prop
  | neither (lowOutside : ¬rounding.Contains below.value)
      (highOutside : ¬rounding.Contains above.value) : Picks rounding below above none
  | below (inside : rounding.Contains below.value)
      (nearer : rounding.Contains above.value →
        rounding.value - below.value * rounding.denominator ≤
          above.value * rounding.denominator - rounding.value) :
      Picks rounding below above (some below)
  | above (inside : rounding.Contains above.value)
      (nearer : rounding.Contains below.value →
        above.value * rounding.denominator - rounding.value ≤
          rounding.value - below.value * rounding.denominator) :
      Picks rounding below above (some above)

/-- Which of the neighbours is nearer, without the denominators. -/
theorem nearer_iff (rounding : Rounding) (below above : Numeral) {scaled : Nat}
    (same : above.exponent = below.exponent)
    (low : below.coefficient * (rounding.denominator * powerOfTen below.exponent.toNat) ≤
      scaled * powerOfTen (-below.exponent).toNat)
    (high : scaled * powerOfTen (-below.exponent).toNat <
      above.coefficient * (rounding.denominator * powerOfTen below.exponent.toNat)) :
    above.coefficient * (rounding.denominator * powerOfTen below.exponent.toNat) -
          scaled * powerOfTen (-below.exponent).toNat ≤
        scaled * powerOfTen (-below.exponent).toNat -
          below.coefficient * (rounding.denominator * powerOfTen below.exponent.toNat) ↔
      above.value * rounding.denominator - scaled ≤
        scaled - below.value * rounding.denominator := by
  have castBelow := rounding.cast_unit below
  have castAbove := rounding.cast_unit above
  rw [same] at castAbove
  rw [← mul_le_mul_iff_left₀ (cast_powerOfTen_pos (-below.exponent).toNat), sub_mul, sub_mul,
    ← castBelow, ← castAbove, ← Nat.cast_mul, ← Nat.cast_sub high.le, ← Nat.cast_sub low,
    Nat.cast_le]

theorem picks_atCount? (wide : rounding.IsWide) (count : Nat) :
    ∃ below above : Numeral, below.exponent = rounding.magnitude - count ∧
      above = ⟨below.coefficient + 1, below.exponent⟩ ∧
      below.value * rounding.denominator ≤ rounding.value ∧
      rounding.value < above.value * rounding.denominator ∧
      rounding.Picks below above (rounding.atCount? count) := by
  let exponent := rounding.magnitude - count
  let unit := rounding.denominator * powerOfTen exponent.toNat
  let value := rounding.value * powerOfTen (-exponent).toNat
  let below : Numeral := ⟨value / unit, exponent⟩
  let above : Numeral := ⟨value / unit + 1, exponent⟩
  have positive : 0 < unit := Nat.mul_pos wide.divisible (powerOfTen_pos _)
  have low : below.coefficient * unit ≤ value := Nat.div_mul_le_self value unit
  have high : value < above.coefficient * unit :=
    (Nat.div_lt_iff_lt_mul positive).mp (Nat.lt_succ_self _)
  have order := rounding.nearer_iff below above rfl low high
  refine ⟨below, above, rfl, rfl, (rounding.unit_le_iff below _).mp low, ?_, ?_⟩
  · exact lt_of_not_ge fun le => Nat.not_le_of_lt high ((rounding.unit_le_iff above _).mpr le)
  have picked : rounding.atCount? count =
      if rounding.admits below then
        if rounding.admits above &&
            above.coefficient * unit - value ≤ value - below.coefficient * unit then some above
        else some below
      else if rounding.admits above then some above
      else none := rfl
  rw [picked]
  split
  · rename_i belowInside
    split
    · rename_i chosen
      rw [Bool.and_eq_true, decide_eq_true_eq] at chosen
      exact .above (admits_iff.mp chosen.1) fun _ => order.mp chosen.2
    · rename_i chosen
      rw [Bool.and_eq_true, decide_eq_true_eq, not_and, order] at chosen
      refine .below (admits_iff.mp belowInside) fun aboveInside => ?_
      exact (lt_of_not_ge (chosen (admits_iff.mpr aboveInside))).le
  · rename_i belowOutside
    split
    · rename_i aboveInside
      exact .above (admits_iff.mp aboveInside) fun inside =>
        absurd (admits_iff.mpr inside) belowOutside
    · rename_i aboveOutside
      exact .neither (mt admits_iff.mpr belowOutside) (mt admits_iff.mpr aboveOutside)

/-- From one of its points up to the value, all is in the interval. -/
theorem IsWide.contains_of_le (wide : rounding.IsWide) {low number : ℚ}
    (contains : rounding.Contains low) (le : low ≤ number)
    (below : number * rounding.denominator ≤ rounding.value) : rounding.Contains number := by
  have scaled : low * rounding.denominator ≤ number * rounding.denominator :=
    mul_le_mul_of_nonneg_right le (Nat.cast_nonneg _)
  have high : (rounding.value : ℚ) < rounding.high := Nat.cast_lt.mpr wide.lt_high
  unfold Contains at contains ⊢
  split at contains
  · rename_i included
    rw [if_pos included]
    exact ⟨contains.1.trans scaled, (below.trans_lt high).le⟩
  · rename_i excluded
    rw [if_neg excluded]
    exact ⟨contains.1.trans_le scaled, below.trans_lt high⟩

/-- From one of its points down to the value, all is in the interval. -/
theorem IsWide.contains_of_ge (wide : rounding.IsWide) {number high : ℚ}
    (contains : rounding.Contains high) (le : number ≤ high)
    (above : rounding.value ≤ number * rounding.denominator) : rounding.Contains number := by
  have scaled : number * rounding.denominator ≤ high * rounding.denominator :=
    mul_le_mul_of_nonneg_right le (Nat.cast_nonneg _)
  have low : (rounding.low : ℚ) < rounding.value := Nat.cast_lt.mpr wide.low_lt
  unfold Contains at contains ⊢
  split at contains
  · rename_i included
    rw [if_pos included]
    exact ⟨(low.trans_le above).le, scaled.trans contains.2⟩
  · rename_i excluded
    rw [if_neg excluded]
    exact ⟨low.trans_le above, scaled.trans_lt contains.2⟩

/-- What is strictly between the ends is in the interval. -/
theorem contains_of_inside {number : ℚ} (low : rounding.low < number * rounding.denominator)
    (high : number * rounding.denominator < rounding.high) : rounding.Contains number := by
  unfold Contains
  split
  · exact ⟨low.le, high.le⟩
  · exact ⟨low, high⟩

/-- If neither of its neighbours is in the interval, no point of a grid is. -/
theorem IsWide.not_contains_of_atCount? (wide : rounding.IsWide) {count : Nat}
    (nothing : rounding.atCount? count = none) (coefficient : Nat) :
    ¬rounding.Contains (⟨coefficient, rounding.magnitude - count⟩ : Numeral).value := by
  rcases picks_atCount? wide count with ⟨⟨least, exponent⟩, _, rfl, rfl, low, high, picks⟩
  rw [nothing] at picks
  cases picks with
  | neither lowOutside highOutside =>
      intro contains
      rcases Nat.lt_or_ge least coefficient with more | less
      · exact highOutside (wide.contains_of_ge contains (Numeral.value_le more _) high.le)
      · exact lowOutside (wide.contains_of_le contains (Numeral.value_le less _) low)

/-- What is chosen at a count of digits is in the interval. -/
theorem IsWide.contains_of_atCount? (wide : rounding.IsWide) {count : Nat} {number : Numeral}
    (found : rounding.atCount? count = some number) :
    number.exponent = rounding.magnitude - count ∧ rounding.Contains number.value := by
  rcases picks_atCount? wide count with ⟨below, _, onGrid, rfl, _, _, picks⟩
  rw [found] at picks
  cases picks with
  | below inside => exact ⟨onGrid, inside⟩
  | above inside => exact ⟨onGrid, inside⟩

/-- Nothing on the grid of its digits is in the interval and nearer to the value. -/
theorem IsWide.nearest_of_atCount? (wide : rounding.IsWide) {count : Nat} {number : Numeral}
    (found : rounding.atCount? count = some number) {coefficient : Nat}
    (contains : rounding.Contains (⟨coefficient, number.exponent⟩ : Numeral).value) :
    |number.value * rounding.denominator - rounding.value| ≤
      |(⟨coefficient, number.exponent⟩ : Numeral).value * rounding.denominator - rounding.value| := by
  rcases picks_atCount? wide count with ⟨⟨least, exponent⟩, _, _, rfl, low, high, picks⟩
  have scaled {first second : ℚ} (le : first ≤ second) :
      first * rounding.denominator ≤ second * rounding.denominator :=
    mul_le_mul_of_nonneg_right le (Nat.cast_nonneg _)
  rw [found] at picks
  cases picks with
  | below inside nearer =>
      rw [abs_of_nonpos (sub_nonpos.mpr low), le_abs]
      rcases Nat.lt_or_ge least coefficient with more | less
      · left
        have beyond := Numeral.value_le more exponent
        have nearer := nearer (wide.contains_of_ge contains beyond high.le)
        linarith [scaled beyond]
      · right
        linarith [scaled (Numeral.value_le less exponent)]
  | above inside nearer =>
      rw [abs_of_nonneg (sub_nonneg.mpr high.le), le_abs]
      rcases Nat.lt_or_ge least coefficient with more | less
      · left
        linarith [scaled (Numeral.value_le more exponent)]
      · right
        have beyond := Numeral.value_le less exponent
        have nearer := nearer (wide.contains_of_le contains beyond low)
        linarith [scaled beyond]

/-- Seventeen digits suffice, since the neighbours on their grid are nearer to each other than the
ends of the interval. -/
theorem IsWide.atCount?_seventeen (wide : rounding.IsWide) : rounding.atCount? 17 ≠ none := by
  intro nothing
  rcases picks_atCount? wide 17 with ⟨⟨least, exponent⟩, _, onGrid, rfl, low, high, picks⟩
  rw [nothing] at picks
  cases picks with
  | neither lowOutside highOutside =>
      have lowLt : (rounding.low : ℚ) < rounding.value := Nat.cast_lt.mpr wide.low_lt
      have ltHigh : (rounding.value : ℚ) < rounding.high := Nat.cast_lt.mpr wide.lt_high
      have lowest := not_lt.mp fun inside =>
        lowOutside (contains_of_inside inside (low.trans_lt ltHigh))
      have highest := not_lt.mp fun inside =>
        highOutside (contains_of_inside (lowLt.trans high) inside)
      have apart : (⟨least + 1, exponent⟩ : Numeral).value * rounding.denominator =
          (⟨least, exponent⟩ : Numeral).value * rounding.denominator +
            10 ^ exponent * rounding.denominator := by
        simp only [Numeral.value]
        push_cast
        ring
      have fine : (10 : ℚ) ^ exponent * rounding.denominator * 10 ^ 16 ≤ rounding.value := by
        have coarser : rounding.magnitude - 1 = exponent + (16 : ℕ) := by
          dsimp only at onGrid
          omega
        have power : (10 : ℚ) ^ (rounding.magnitude - 1) = 10 ^ exponent * 10 ^ 16 := by
          rw [coarser, zpow_add₀ (by norm_num), zpow_natCast]
        have least := wide.magnitude_spec.1
        rw [power] at least
        linarith
      have wide : 2 * (rounding.value : ℚ) + 18014398509481984 * rounding.low ≤
          18014398509481984 * rounding.high := by exact_mod_cast wide.wide
      linarith

/-- The shortest decimal number is found at the first count of digits at which there is any. -/
theorem IsWide.atCount?_shortest (wide : rounding.IsWide) :
    ∃ count, 0 < count ∧ rounding.atCount? count = some rounding.shortest ∧
      ∀ fewer, 0 < fewer → fewer < count → rounding.atCount? fewer = none := by
  have found : (List.range 17).findSome? (fun fewer => rounding.atCount? (fewer + 1)) ≠ none := by
    intro nothing
    rw [List.findSome?_eq_none_iff] at nothing
    exact wide.atCount?_seventeen (nothing 16 (List.mem_range.mpr (by decide)))
  rcases Option.ne_none_iff_exists'.mp found with ⟨number, first⟩
  have shortest : rounding.shortest = number := by
    rw [Rounding.shortest, first]
    rfl
  rcases List.findSome?_eq_some_iff.mp first with ⟨front, index, back, split, here, earlier⟩
  refine ⟨index + 1, Nat.succ_pos index, here.trans (congrArg some shortest.symm), ?_⟩
  intro fewer positive less
  have sorted : (front ++ index :: back).Pairwise (· < ·) := split ▸ List.pairwise_lt_range
  have all (each : Nat) : each < 17 ↔ each ∈ front ∨ each = index ∨ each ∈ back := by
    rw [← List.mem_range, split, List.mem_append, List.mem_cons]
  have within : index < 17 := (all index).mpr (.inr (.inl rfl))
  rcases (all (fewer - 1)).mp (by omega) with before | same | after
  · have nothing := earlier (fewer - 1) before
    rwa [Nat.sub_add_cancel positive] at nothing
  · omega
  · have later := List.rel_of_pairwise_cons (List.pairwise_append.mp sorted).2.1 after
    omega

/-- The shortest decimal number rounds to the value. -/
theorem IsWide.contains_shortest (wide : rounding.IsWide) :
    rounding.Contains rounding.shortest.value := by
  rcases wide.atCount?_shortest with ⟨count, _, found, _⟩
  exact (wide.contains_of_atCount? found).2

/-- No decimal number in the interval has fewer digits: one of at most `count` digits is in it only
if the shortest one is on the grid of so many digits. -/
theorem IsWide.le_exponent_shortest (wide : rounding.IsWide) {number : Numeral} {count : Nat}
    (contains : rounding.Contains number.value) (positive : 0 < count)
    (digits : number.coefficient < powerOfTen count) :
    rounding.magnitude - count ≤ rounding.shortest.exponent := by
  rcases wide.atCount?_shortest with ⟨least, _, found, earlier⟩
  rw [(wide.contains_of_atCount? found).1]
  by_contra finer
  have nothing := earlier count positive (by omega)
  rcases le_or_gt (rounding.magnitude - count) number.exponent with coarse | fine
  · rcases Int.le.dest coarse with ⟨size, sum⟩
    have onGrid : (⟨number.coefficient * powerOfTen size, rounding.magnitude - count⟩ :
        Numeral).value = number.value := by
      rw [Numeral.value, Numeral.value, ← sum, zpow_add₀ (by norm_num), zpow_natCast,
        Nat.cast_mul, cast_powerOfTen]
      ring
    exact wide.not_contains_of_atCount? nothing _ (onGrid ▸ contains)
  · -- Below the finest point of the grid that is a power of ten there is only what is off the grid.
    have power : (⟨powerOfTen (count - 1), rounding.magnitude - count⟩ : Numeral).value =
        10 ^ (rounding.magnitude - 1) := by
      have sum : rounding.magnitude - 1 = (count - 1 : ℕ) + (rounding.magnitude - count) := by
        omega
      rw [Numeral.value, cast_powerOfTen, sum, zpow_add₀ (by norm_num), zpow_natCast]
    have below : number.value ≤ 10 ^ (rounding.magnitude - 1) := by
      have sum : rounding.magnitude - 1 = count + (rounding.magnitude - count - 1) := by omega
      have few : (number.coefficient : ℚ) ≤ 10 ^ count := by
        exact_mod_cast digits.le
      rw [Numeral.value, sum, zpow_add₀ (by norm_num), zpow_natCast]
      exact mul_le_mul few (zpow_le_zpow_right₀ (by norm_num) (by omega)) (by positivity)
        (by positivity)
    have inside := wide.contains_of_le contains below wide.magnitude_spec.1
    exact wide.not_contains_of_atCount? nothing _ (power ▸ inside)

/-- Of the decimal numbers in the interval that have as many digits, it is the nearest one. -/
theorem IsWide.nearest_shortest (wide : rounding.IsWide) {coefficient : Nat}
    (contains : rounding.Contains (⟨coefficient, rounding.shortest.exponent⟩ : Numeral).value) :
    |rounding.shortest.value * rounding.denominator - rounding.value| ≤
      |(⟨coefficient, rounding.shortest.exponent⟩ : Numeral).value * rounding.denominator -
        rounding.value| := by
  rcases wide.atCount?_shortest with ⟨_, _, found, _⟩
  exact wide.nearest_of_atCount? found contains

end Rounding

end SlotClient.Decimal
