import SlotClient.Json.Lexeme
import SlotClient.Proofs.Decimal.Binary64
import SlotClient.Proofs.Decimal.Digits
import SlotClient.Proofs.Outcome

/-!
# Reading back whole numbers

A whole number of sixty-four bits, signed or not, is read back from its digits, whatever follows
them that is no part of a number. That includes the check against the largest finite binary number,
which such a number passes by far.
-/

namespace SlotClient.Json

open Decimal (digits digitValue isDigit leastInt64 mostUInt64 ofDigits signedDigits)

/-- A whole number that can be read: one of sixty-four bits, signed or not. -/
def IsReadable (number : Int) : Prop := leastInt64 ≤ number ∧ number ≤ mostUInt64

/-- What follows a number: nothing that could be a part of it. -/
def EndsNumber (rest : Bytes) : Prop :=
  ∀ byte ∈ rest.head?, isDigit byte = false ∧ byte ≠ 46 ∧ Decimal.lowerCase byte ≠ 101

theorem endsNumber_nil : EndsNumber [] := nofun

theorem takeWhile_digits_append {number : Nat} {rest : Bytes} (ends : EndsNumber rest) :
    (digits number ++ rest).takeWhile isDigit = digits number := by
  rw [List.takeWhile_append_of_pos fun _ member => Decimal.isDigit_of_mem_digits member]
  rcases rest with _ | ⟨byte, rest⟩
  · simp
  · simp [(ends byte rfl).1]

theorem dropWhile_digits_append {number : Nat} {rest : Bytes} (ends : EndsNumber rest) :
    (digits number ++ rest).dropWhile isDigit = rest := by
  rw [List.dropWhile_append_of_pos fun _ member => Decimal.isDigit_of_mem_digits member]
  rcases rest with _ | ⟨byte, rest⟩
  · simp
  · simp [(ends byte rfl).1]

theorem someDigits_digits {number : Nat} {rest : Bytes} (ends : EndsNumber rest) :
    someDigits (digits number ++ rest) = .ok (digits number, rest) := by
  rw [someDigits, takeWhile_digits_append ends, dropWhile_digits_append ends]
  simp [Decimal.digits_ne_nil]

/-- Only the digits of zero begin with the digit zero. -/
theorem head?_digits {number : Nat} (positive : 0 < number) : (digits number).head? ≠ some 48 := by
  induction number using Nat.strongRecOn with
  | ind number shorter =>
      rw [digits]
      split
      · rename_i single
        have differs : ∀ digit : Fin 10, 0 < digit.val →
            ([Decimal.digitByte digit] : Bytes).head? ≠ some 48 := by decide
        exact differs ⟨number, single⟩ positive
      · rename_i several
        have leading := shorter (number / 10) (by omega) (by omega)
        rcases front : digits (number / 10) with _ | ⟨byte, others⟩
        · exact absurd front (Decimal.digits_ne_nil _)
        · rwa [front] at leading

theorem wholePart_digits {number : Nat} {rest : Bytes} (ends : EndsNumber rest) :
    wholePart (digits number ++ rest) = .ok (digits number, rest) := by
  rcases Nat.eq_zero_or_pos number with rfl | positive
  · have zero : digits 0 = [48] := by decide +kernel
    rw [zero]
    rcases rest with _ | ⟨byte, rest⟩
    · rfl
    · simp [wholePart, (ends byte rfl).1]
  · have read : someDigits (digits number ++ rest) = .ok (digits number, rest) :=
      someDigits_digits ends
    have first := head?_digits positive
    rcases written : digits number with _ | ⟨byte, others⟩
    · exact absurd written (Decimal.digits_ne_nil number)
    · rw [written] at first read
      unfold wholePart
      split
      · simp_all
      · exact read

theorem fractionPart_of_ends {rest : Bytes} (ends : EndsNumber rest) :
    fractionPart rest = .ok (none, rest) := by
  unfold fractionPart
  split
  · exact absurd rfl (ends _ rfl).2.1
  · rfl

theorem exponentPart_of_ends {rest : Bytes} (ends : EndsNumber rest) :
    exponentPart rest = .ok (none, rest) := by
  rcases rest with _ | ⟨byte, rest⟩
  · rfl
  · rw [exponentPart, if_neg (ends byte rfl).2.2]

/-- The parts of a whole number. -/
def partsOf (number : Int) : NumberParts := ⟨number < 0, digits number.natAbs, none, none⟩

theorem numberParts_signedDigits (number : Int) {rest : Bytes} (ends : EndsNumber rest) :
    numberParts (signedDigits number ++ rest) = .ok (partsOf number, rest) := by
  have whole : wholePart (digits number.natAbs ++ rest) = .ok (digits number.natAbs, rest) :=
    wholePart_digits ends
  have fraction := fractionPart_of_ends ends
  have exponent := exponentPart_of_ends ends
  unfold signedDigits
  by_cases below : number < 0
  · simp only [numberParts, Decimal.minus, partsOf, below, if_true, List.cons_append, whole,
      fraction, exponent, ok_bind, decide_true]
    rfl
  · have unsigned : ∀ others, digits number.natAbs ++ rest ≠ 45 :: others := by
      intro others signed
      rcases written : digits number.natAbs with _ | ⟨byte, front⟩
      · exact Decimal.digits_ne_nil _ written
      · have digit : isDigit byte = true :=
          Decimal.isDigit_of_mem_digits (written ▸ List.mem_cons_self)
        rw [written] at signed
        cases signed
        contradiction
    simp only [numberParts, partsOf, below, if_false, whole, fraction, exponent, ok_bind,
      decide_false]
    rfl

/-- As long as the number stays within sixty-four bits all its digits are leading. -/
theorem foldl_takeLeading (bytes : Bytes) {value : Nat} (count : Nat)
    (within : bytes.foldl (fun value byte => 10 * value + digitValue byte) value ≤ mostUInt64) :
    bytes.foldl takeLeading (value, count, false) =
      (bytes.foldl (fun value byte => 10 * value + digitValue byte) value, count + bytes.length,
        false) ∧ value ≤ mostUInt64 := by
  induction bytes generalizing value count with
  | nil => exact ⟨rfl, within⟩
  | cons byte bytes ih =>
      rw [List.foldl_cons] at within
      rcases ih (count + 1) within with ⟨folded, next⟩
      have step : takeLeading (value, count, false) byte =
          (10 * value + digitValue byte, count + 1, false) := by
        simp [takeLeading, Nat.not_lt.mpr next]
      rw [List.foldl_cons, List.foldl_cons, step, folded, List.length_cons]
      refine ⟨?_, by omega⟩
      rw [Nat.add_right_comm, Nat.add_assoc]

theorem leadingDigits_digits {number : Nat} (within : number ≤ mostUInt64) :
    leadingDigits (digits number) = (number, (digits number).length) := by
  have value := Decimal.ofDigits_digits number
  unfold ofDigits at value
  have folded := (foldl_takeLeading (digits number) 0 (value.symm ▸ within)).1
  rw [value, Nat.zero_add] at folded
  rw [leadingDigits, folded]

theorem isTooLarge_partsOf {number : Int} (within : number.natAbs ≤ mostUInt64) :
    (partsOf number).isTooLarge = false := by
  have leading := leadingDigits_digits within
  have exponent : (0 : Int) + (digits number.natAbs).length - (digits number.natAbs).length = 0 :=
    by omega
  have one : Decimal.powerOfTen (0 : Int).toNat = 1 := rfl
  have below : number.natAbs < 2 ^ 64 := Nat.lt_succ_of_le within
  have finite := Binary64.nearest_product_lt below (show 1 < 2 ^ 1 by decide) (by decide)
  simp only [NumberParts.isTooLarge, partsOf, Option.getD_none, List.append_nil, leading, exponent,
    one]
  -- The pattern is hidden, since nothing may try to compute it.
  generalize Binary64.nearest _ _ = pattern at finite ⊢
  split
  · rfl
  · simpa using Nat.ne_of_lt finite

theorem number_partsOf {number : Int} (readable : IsReadable number) :
    (partsOf number).number = .whole number := by
  rcases readable with ⟨lower, upper⟩
  simp only [NumberParts.number, partsOf, Decimal.ofDigits_digits, Option.isSome_none, Bool.or_self,
    Bool.false_eq_true, if_false, decide_eq_true_eq]
  by_cases below : number < 0
  · have magnitude : -(number.natAbs : Int) = number := by omega
    have positive : 0 < number.natAbs := by omega
    have fits : leastInt64 ≤ -(number.natAbs : Int) := by omega
    rw [if_pos below, decide_eq_true positive, decide_eq_true fits, Bool.and_self, if_pos rfl,
      magnitude]
  · have magnitude : (number.natAbs : Int) = number := by omega
    have within : number.natAbs ≤ mostUInt64 := by omega
    rw [if_neg below, if_pos within, magnitude]

/-- A whole number is read back from its digits. -/
theorem readNumber_signedDigits {number : Int} (readable : IsReadable number) {rest : Bytes}
    (ends : EndsNumber rest) :
    readNumber (signedDigits number ++ rest) = (⟨.ok (.whole number), none⟩, some rest) := by
  have within : number.natAbs ≤ mostUInt64 := by
    rcases readable with ⟨lower, upper⟩
    simp only [leastInt64, mostUInt64] at lower upper ⊢
    omega
  rw [readNumber, numberParts_signedDigits number ends]
  simp [isTooLarge_partsOf within, number_partsOf readable]

end SlotClient.Json
