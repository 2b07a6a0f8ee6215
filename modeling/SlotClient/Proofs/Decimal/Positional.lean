import Mathlib.Data.List.DropRight
import SlotClient.Decimal.Reading
import SlotClient.Proofs.Decimal.Shortest

/-!
# Reading back shortest texts

The text of a decimal number has all digits before the point that it needs, and behind it only
those that are not zeros at the end, so it denotes this number exactly. The reader takes the digits
on both sides of the point together, and rounds the same number again. Since the shortest decimal
number is in the interval of the binary one, this is what the reader finds.
-/

namespace SlotClient.Decimal

/-- The texts that denote a number without an exponent: digits, or digits on both sides of a
point. -/
inductive DenotesDecimal : Bytes → ℚ → Prop
  | whole {text : Bytes} (nonempty : text ≠ []) (digital : ∀ byte ∈ text, isDigit byte = true) :
      DenotesDecimal text (ofDigits text)
  | pointed {whole fraction : Bytes} (nonempty : whole ≠ [])
      (digital : ∀ byte ∈ whole ++ fraction, isDigit byte = true) (needed : fraction ≠ []) :
      DenotesDecimal (whole ++ 46 :: fraction)
        (ofDigits (whole ++ fraction) / 10 ^ fraction.length)

theorem ofDigits_append_zeros (front : Bytes) (count : Nat) :
    ofDigits (front ++ List.replicate count (digitByte 0)) = ofDigits front * powerOfTen count := by
  induction count with
  | zero =>
      rw [List.replicate_zero, List.append_nil]
      exact (Nat.mul_one _).symm
  | succ count ih =>
      have next : powerOfTen (count + 1) = powerOfTen count * 10 := rfl
      rw [List.replicate_succ', ← List.append_assoc, ofDigits_append, ih, next,
        digitValue_digitByte (by decide)]
      ring

theorem ofDigits_zeros_append (count : Nat) (back : Bytes) :
    ofDigits (List.replicate count (digitByte 0) ++ back) = ofDigits back := by
  induction count with
  | zero => rfl
  | succ count ih => exact ih

/-- Only zeros are dropped. -/
theorem exists_dropEndZeros_append (text : Bytes) :
    ∃ count, text = dropEndZeros text ++ List.replicate count (digitByte 0) := by
  let isZero (byte : UInt8) : Bool := byte = digitByte 0
  have dropped : text.rtakeWhile isZero =
      List.replicate (text.rtakeWhile isZero).length (digitByte 0) :=
    List.eq_replicate_of_mem fun byte member =>
      of_decide_eq_true (show isZero byte = true from List.mem_rtakeWhile_imp member)
  refine ⟨(text.rtakeWhile isZero).length, ?_⟩
  rw [← dropped]
  exact List.rdropWhile_append_rtakeWhile.symm

/-- Digits with a point before the last of them, and without zeros at the end, denote the number of
all digits divided by a power of ten. -/
theorem denotes_split {padded : Bytes} (digital : ∀ byte ∈ padded, isDigit byte = true)
    {places : Nat} (long : places < padded.length) :
    let whole := padded.take (padded.length - places)
    let fraction := dropEndZeros (padded.drop (padded.length - places))
    DenotesDecimal (if fraction.isEmpty then whole else whole ++ 46 :: fraction)
      (ofDigits padded / 10 ^ places) := by
  intro whole fraction
  have nonempty : whole ≠ [] := by
    apply List.ne_nil_of_length_pos
    rw [List.length_take]
    omega
  have cut : ∃ count, padded.drop (padded.length - places) =
      fraction ++ List.replicate count (digitByte 0) := exists_dropEndZeros_append _
  rcases cut with ⟨count, ends⟩
  have parts : whole ++ fraction ++ List.replicate count (digitByte 0) = padded := by
    rw [List.append_assoc, ← ends, List.take_append_drop]
  clear_value whole fraction
  have lengths := congrArg List.length ends
  rw [List.length_drop, List.length_append, List.length_replicate] at lengths
  have sum : places = fraction.length + count := by omega
  have value : (ofDigits padded / 10 ^ places : ℚ) =
      ofDigits (whole ++ fraction) / 10 ^ fraction.length := by
    rw [← parts, ofDigits_append_zeros, sum, pow_add, Nat.cast_mul, cast_powerOfTen,
      mul_div_mul_right _ _ (by positivity)]
  have shown : ∀ byte ∈ whole ++ fraction, isDigit byte = true := fun byte member =>
    digital byte (parts ▸ List.mem_append_left _ member)
  rw [value]
  split
  · rename_i empty
    rw [List.isEmpty_iff] at empty
    rw [empty, List.append_nil] at shown ⊢
    rw [List.length_nil, pow_zero, div_one]
    exact .whole nonempty shown
  · rename_i needed
    rw [List.isEmpty_iff] at needed
    exact .pointed nonempty shown needed

/-- The text of a decimal number denotes it. -/
theorem denotes_positional (number : Numeral) :
    DenotesDecimal number.positional number.value := by
  have digital {byte : UInt8} (member : byte ∈ digits number.coefficient) :
      isDigit byte = true := isDigit_of_mem_digits member
  have zero {byte : UInt8} {count : Nat} (member : byte ∈ List.replicate count (digitByte 0)) :
      isDigit byte = true := by
    rw [List.eq_of_mem_replicate member]
    exact isDigit_digitByte (by decide)
  rw [Numeral.positional]
  dsimp only
  split
  · rename_i whole
    have value : number.value =
        ofDigits (digits number.coefficient ++
          List.replicate number.exponent.toNat (digitByte 0)) := by
      rw [ofDigits_append_zeros, ofDigits_digits, Nat.cast_mul, cast_powerOfTen, Numeral.value,
        ← zpow_natCast, Int.toNat_of_nonneg whole]
    rw [value]
    refine .whole (List.append_ne_nil_of_left_ne_nil (digits_ne_nil _) _) ?_
    intro byte member
    exact (List.mem_append.mp member).elim digital zero
  · rename_i negative
    generalize placed : number.exponent.natAbs = places
    generalize written : List.replicate (places + 1 - (digits number.coefficient).length)
      (digitByte 0) ++ digits number.coefficient = padded
    have exponent : number.exponent = -(places : ℤ) := by omega
    have value : number.value = ofDigits padded / 10 ^ places := by
      rw [← written, ofDigits_zeros_append, ofDigits_digits, Numeral.value, exponent, zpow_neg,
        zpow_natCast, div_eq_mul_inv]
    have allDigits : ∀ byte ∈ padded, isDigit byte = true := by
      rw [← written]
      intro byte member
      exact (List.mem_append.mp member).elim zero digital
    have long : places < padded.length := by
      rw [← written, List.length_append, List.length_replicate]
      omega
    rw [value]
    exact denotes_split allDigits long

/-- The reader rounds what a text denotes. -/
theorem magnitude?_of_denotes {text : Bytes} {value : ℚ} (denotes : DenotesDecimal text value) :
    ∃ number : Numeral, number.value = value ∧
      magnitude? text = some (scaledPattern number.coefficient number.exponent) := by
  cases denotes with
  | whole nonempty digital =>
      refine ⟨⟨ofDigits text, 0⟩, by simp [Numeral.value], ?_⟩
      have all : text.takeWhile isDigit = text := List.takeWhile_eq_self_iff.mpr digital
      have rest : text.dropWhile isDigit = [] := List.dropWhile_eq_nil_iff.mpr digital
      simp [magnitude?, all, rest, nonempty, exponentPart?]
  | @pointed whole fraction nonempty digital needed =>
      refine ⟨⟨ofDigits (whole ++ fraction), -fraction.length⟩, ?_, ?_⟩
      · rw [Numeral.value, zpow_neg, zpow_natCast, div_eq_mul_inv]
      rcases List.forall_mem_append.mp digital with ⟨wholeDigital, digital⟩
      have point : isDigit 46 = false := by decide
      have front : (whole ++ 46 :: fraction).takeWhile isDigit = whole := by
        rw [List.takeWhile_append_of_pos wholeDigital, List.takeWhile_cons_of_neg (by simp [point]),
          List.append_nil]
      have back : (whole ++ 46 :: fraction).dropWhile isDigit = 46 :: fraction := by
        rw [List.dropWhile_append_of_pos wholeDigital, List.dropWhile_cons_of_neg (by simp [point])]
      have all : fraction.takeWhile isDigit = fraction := List.takeWhile_eq_self_iff.mpr digital
      have rest : fraction.dropWhile isDigit = [] := List.dropWhile_eq_nil_iff.mpr digital
      simp [magnitude?, front, back, all, rest, nonempty, exponentPart?]

theorem powerOfTwo_le_powerOfTen (exponent : Nat) :
    Binary64.powerOfTwo (3 * exponent) ≤ powerOfTen exponent := by
  have eight : Binary64.powerOfTwo (3 * exponent) = Nat.pow 8 exponent := Nat.pow_mul 2 3 exponent
  rw [eight]
  exact Nat.pow_le_pow_left (by decide) exponent

section Cut

variable {number : Binary64} {decimal : Numeral}

/-- A decimal number is from the power of ten of its first digit up to the next one. -/
theorem Numeral.leading_spec (nonzero : decimal.coefficient ≠ 0) :
    (10 : ℚ) ^ (decimal.exponent + digitCount decimal.coefficient - 1) ≤ decimal.value ∧
      decimal.value < 10 ^ (decimal.exponent + digitCount decimal.coefficient) := by
  have power : (0 : ℚ) < 10 ^ decimal.exponent := by positivity
  rcases exists_digitCount (Nat.pos_of_ne_zero nonzero) with ⟨fewer, count, least, most⟩
  have lower : decimal.exponent + (fewer + 1 : ℕ) - 1 = (fewer : ℕ) + decimal.exponent := by omega
  rw [count, lower, Int.add_comm decimal.exponent, zpow_add₀ (by norm_num), zpow_add₀ (by norm_num),
    zpow_natCast, zpow_natCast, Numeral.value]
  have atLeast : (10 : ℚ) ^ fewer ≤ decimal.coefficient := by exact_mod_cast least
  have atMost : (decimal.coefficient : ℚ) < 10 ^ (fewer + 1) := by exact_mod_cast most
  exact ⟨mul_le_mul_of_nonneg_right atLeast power.le, mul_lt_mul_of_pos_right atMost power⟩

theorem denominator_eq (number : Binary64) :
    (Rounding.of number).denominator = Binary64.powerOfTwo (2 + 1074) := by
  have four : Binary64.powerOfTwo 2 = 4 := rfl
  rw [Binary64.powerOfTwo_add, four, Rounding.of, Binary64.unitsInOne]

/-- All that is rounded to a finite number is below the limit from which on the reader does not
compute powers. -/
theorem high_lt (finite : number.isFinite = true) :
    (Rounding.of number).high < powerOfTen 400 * (Rounding.of number).denominator := by
  have significand := number.significand_lt
  have scale := Binary64.scale_lt finite
  calc (Rounding.of number).high
      ≤ Binary64.powerOfTwo 55 * Binary64.powerOfTwo number.scale := by
        apply Nat.mul_le_mul_right
        have range : Binary64.fractionRange = 4503599627370496 := rfl
        have eight : Binary64.powerOfTwo 55 = 36028797018963968 := rfl
        omega
    _ = Binary64.powerOfTwo (55 + number.scale) := (Binary64.powerOfTwo_add 55 _).symm
    _ < Binary64.powerOfTwo (3 * 400 + (2 + 1074)) := Binary64.powerOfTwo_lt (by omega)
    _ ≤ powerOfTen 400 * (Rounding.of number).denominator := by
        rw [denominator_eq, Binary64.powerOfTwo_add (3 * 400)]
        exact Nat.mul_le_mul_right _ (powerOfTwo_le_powerOfTen 400)

/-- All that is rounded to a positive number is above the limit. -/
theorem denominator_lt (number : Binary64) :
    (Rounding.of number).denominator < powerOfTen 400 := by
  rw [denominator_eq]
  apply Nat.lt_of_lt_of_le _ (powerOfTwo_le_powerOfTen 400)
  exact Binary64.powerOfTwo_lt (by decide)

/-- The reader computes the powers of all that is rounded to a finite positive number. -/
theorem leading_within (finite : number.isFinite = true) (nonzero : number.significand ≠ 0)
    (contains : (Rounding.of number).Contains decimal.value)
    (some : decimal.coefficient ≠ 0) :
    -400 ≤ decimal.exponent + digitCount decimal.coefficient ∧
      decimal.exponent + digitCount decimal.coefficient ≤ 400 := by
  rcases Numeral.leading_spec some with ⟨least, most⟩
  have wide := Rounding.isWide_of nonzero
  have within := contains.within
  have positive : (0 : ℚ) < (Rounding.of number).denominator := Nat.cast_pos.mpr wide.divisible
  constructor
  · -- What is below the lower limit is below the smallest number.
    by_contra tiny
    have power : (10 : ℚ) ^ (decimal.exponent + digitCount decimal.coefficient) ≤
        10 ^ (-(400 : ℕ) : ℤ) := zpow_le_zpow_right₀ (by norm_num) (by omega)
    have small : ((Rounding.of number).denominator : ℚ) < 10 ^ 400 := by
      rw [← cast_powerOfTen]
      exact Nat.cast_lt.mpr (denominator_lt number)
    have nonnegative : 0 ≤ decimal.value := by
      unfold Numeral.value
      positivity
    rw [zpow_neg, zpow_natCast] at power
    have less := mul_lt_mul'' (most.trans_le power) small nonnegative positive.le
    rw [inv_mul_cancel₀ (by positivity)] at less
    exact absurd (within.1.trans_lt less) (not_lt.mpr (Nat.one_le_cast.mpr wide.low_pos))
  · by_contra huge
    have power : (10 : ℚ) ^ ((400 : ℕ) : ℤ) ≤
        10 ^ (decimal.exponent + digitCount decimal.coefficient - 1) :=
      zpow_le_zpow_right₀ (by norm_num) (by omega)
    have large : ((Rounding.of number).high : ℚ) <
        10 ^ 400 * (Rounding.of number).denominator := by
      rw [← cast_powerOfTen]
      exact_mod_cast high_lt finite
    rw [zpow_natCast] at power
    have more := mul_le_mul_of_nonneg_right (power.trans least) positive.le
    exact absurd (more.trans within.2) (not_le.mpr large)

/-- The reader rounds the decimal numbers in the interval around a number to its pattern. -/
theorem scaledPattern_of_contains (finite : number.isFinite = true)
    (nonzero : number.significand ≠ 0)
    (contains : (Rounding.of number).Contains decimal.value) :
    scaledPattern decimal.coefficient decimal.exponent =
      number.scale * Binary64.fractionRange + number.significand := by
  have some : decimal.coefficient ≠ 0 := by
    intro none
    have low := contains.within.1
    rw [Numeral.value, none, Nat.cast_zero, zero_mul, zero_mul] at low
    exact absurd low (not_le.mpr (Nat.cast_pos.mpr (Rounding.isWide_of nonzero).low_pos))
  rcases leading_within finite nonzero contains some with ⟨least, most⟩
  unfold scaledPattern
  rw [if_neg some]
  dsimp only
  rw [← digitCount, if_neg (not_lt.mpr most), if_neg (not_lt.mpr least)]
  split
  · rename_i whole
    have value : decimal.value =
        (decimal.coefficient * powerOfTen decimal.exponent.toNat : ℕ) / (1 : ℕ) := by
      rw [Numeral.value, Nat.cast_one, div_one, Nat.cast_mul, cast_powerOfTen, ← zpow_natCast,
        Int.toNat_of_nonneg whole]
    exact Binary64.nearest_of_contains finite Nat.one_pos (value ▸ contains)
  · rename_i negative
    have exponent : decimal.exponent = -(decimal.exponent.natAbs : ℤ) := by omega
    have value : decimal.value =
        (decimal.coefficient : ℚ) / (powerOfTen decimal.exponent.natAbs : ℕ) := by
      rw [Numeral.value, exponent, Int.natAbs_neg, Int.natAbs_natCast, zpow_neg, zpow_natCast,
        cast_powerOfTen, div_eq_mul_inv]
    exact Binary64.nearest_of_contains finite (powerOfTen_pos _) (value ▸ contains)

end Cut

theorem DenotesDecimal.eq_cons {text : Bytes} {value : ℚ} (denotes : DenotesDecimal text value) :
    ∃ byte rest, text = byte :: rest ∧ isDigit byte = true := by
  cases denotes with
  | whole nonempty digital =>
      rcases List.exists_cons_of_ne_nil nonempty with ⟨byte, rest, rfl⟩
      exact ⟨byte, rest, rfl, digital byte List.mem_cons_self⟩
  | pointed nonempty digital =>
      rcases List.exists_cons_of_ne_nil nonempty with ⟨byte, rest, rfl⟩
      exact ⟨byte, _, rfl, digital byte List.mem_cons_self⟩

theorem lowerCase_of_isDigit {byte : UInt8} (digital : isDigit byte = true) :
    lowerCase byte = byte := by
  have bounds := isDigit_iff.mp digital
  have upper : (65 ≤ byte && byte ≤ 90) = false := by
    rw [Bool.and_eq_false_iff, decide_eq_false_iff_not, UInt8.le_iff_toNat_le]
    exact .inl (Nat.not_le_of_lt (Nat.lt_of_le_of_lt bounds.2 (by decide)))
  rw [lowerCase, upper]
  rfl

/-- A text that denotes a number without an exponent is not read as the name of one. -/
theorem binary64?_of_denotes {text : Bytes} {value : ℚ} (denotes : DenotesDecimal text value)
    (negative : Bool) :
    binary64? (if negative then minus :: text else text) =
      (magnitude? text).map (Binary64.ofPattern negative) := by
  rcases denotes.eq_cons with ⟨byte, rest, rfl, digital⟩
  have ne {other : UInt8} (mark : isDigit other = false) : byte ≠ other := by
    intro same
    rw [same, mark] at digital
    contradiction
  have sign : splitSign (if negative then minus :: byte :: rest else byte :: rest) =
      (negative, byte :: rest) := by
    cases negative with
    | false => simp [splitSign, ne isDigit_minus, ne isDigit_plus]
    | true => rfl
  have unnamed (first : UInt8) (others : Bytes) (letter : isDigit first = false) :
      (byte :: rest).map lowerCase ≠ first :: others := by
    intro same
    rw [List.map_cons, lowerCase_of_isDigit digital, List.cons.injEq] at same
    exact ne letter same.1
  have inf : Bytes.ofText "inf" = [105, 110, 102] := by decide +kernel
  have infinity : Bytes.ofText "infinity" = [105, 110, 102, 105, 110, 105, 116, 121] := by
    decide +kernel
  have nan : Bytes.ofText "nan" = [110, 97, 110] := by decide +kernel
  rw [binary64?, sign]
  dsimp only
  rw [inf, infinity, nan, if_neg, if_neg]
  · exact unnamed _ _ (by decide)
  · exact not_or.mpr ⟨unnamed _ _ (by decide), unnamed _ _ (by decide)⟩

/-- The shortest text of a number is read back as this number. -/
theorem binary64?_shortestText {number : Binary64} (isNumber : number.isNaN = false) :
    binary64? (shortestText number) = some number := by
  have pattern := number.ofPattern_fields
  rw [shortestText, isNumber, if_neg Bool.false_ne_true]
  dsimp only
  rcases finite : number.isFinite with _ | _
  · -- Of what is not finite, only the infinities are numbers.
    have field : number.exponentField = 2047 := by simpa [Binary64.isFinite] using finite
    have fraction : number.fractionField = 0 := by simpa [Binary64.isNaN, field] using isNumber
    rw [field, fraction] at pattern
    have infinite : Binary64.infinity number.isNegative = number := pattern
    have read : ∀ negative, binary64?
        (if negative then minus :: Bytes.ofText "inf" else Bytes.ofText "inf") =
          some (Binary64.infinity negative) := by decide +kernel
    rw [Bool.not_false, if_pos rfl, read, infinite]
  · rw [← number.scale_mul_add_significand] at pattern
    rw [Bool.not_true, if_neg Bool.false_ne_true]
    by_cases zero : number.significand = 0
    · have least : number.scale = 0 := by
        by_contra scaled
        exact absurd (number.fractionRange_le_significand scaled) (by rw [zero]; decide)
      have read : ∀ negative, binary64?
          (if negative then [minus, digitByte 0] else [digitByte 0]) =
            some (Binary64.ofPattern negative 0) := by decide +kernel
      rw [zero, least] at pattern
      rw [if_pos zero, read]
      exact congrArg some pattern
    · have contains := (Rounding.isWide_of zero).contains_shortest
      have denotes := denotes_positional (Rounding.of number).shortest
      rcases magnitude?_of_denotes denotes with ⟨decimal, value, read⟩
      rw [if_neg zero, binary64?_of_denotes denotes, read,
        scaledPattern_of_contains finite zero (value ▸ contains), Option.map_some, pattern]

/-- A tenth. -/
example : shortestText ⟨0x3FB999999999999A⟩ = Bytes.ofText "0.1" := by decide +kernel

end SlotClient.Decimal
