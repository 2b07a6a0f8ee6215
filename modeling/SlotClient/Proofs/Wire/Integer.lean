import Mathlib.Algebra.Group.Nat.Defs
import SlotClient.Proofs.Wire.RoundTrip

/-!
# Integers up to the limits of their width

An integer, a length and a count are read by appending digits, with a check at every step. The
checks refuse a text exactly if the integer that it denotes exceeds the width: as digits lead away
from zero, a number on the way exceeds it only if the result does.
-/

namespace SlotClient.Wire

open Decimal (appendDigits? Denotes digits extended FitsInt64 int64? signedValue splitMinus)

variable {fault : Option TransportFault} {readItem : Bytes → Outcome Value} {text : Bytes}

theorem int64?_eq_none_iff :
    int64? text = none ↔ ¬∃ number : Int, Denotes text number ∧ FitsInt64 number := by
  rw [Option.eq_none_iff_forall_ne_some]
  constructor
  · rintro refused ⟨number, denotes, fits⟩
    apply refused (Int64.ofInt number)
    rwa [Decimal.int64?_eq_some_iff, Decimal.toInt_ofInt fits]
  · intro nothing number read
    exact nothing ⟨_, Decimal.int64?_eq_some_iff.mp read, Decimal.fitsInt64_toInt number⟩

/-- What states no integer of the width is refused, whatever the integer is for. -/
theorem readMarked_of_int64?_eq_none {marker : UInt8} (refused : int64? text = none)
    (numbered : marker ≠ simpleMarker ∧ marker ≠ errorMarker) (rest : Bytes) :
    readMarked fault readItem marker text rest = (.error .protocol, rest) := by
  rw [readMarked, if_neg numbered.1, if_neg numbered.2, refused]

/--
Integers are read exactly. A text is read as an integer if and only if it is an optional minus and
digits that denote this integer, and the integer fits into the width. Any other text is refused,
whether an integer, a length or a count is to be read. Every number on the way is the one that the
digits up to there denote, and none of the steps to the result leaves the width. The text of every
integer is read back, and so are the digits of every length that fits.
-/
theorem integers_are_read_exactly :
    (∀ (text : Bytes) (number : Int),
      (∃ read, int64? text = some read ∧ read.toInt = number) ↔
        Denotes text number ∧ FitsInt64 number) ∧
    (∀ (fault : Option TransportFault) (readItem : Bytes → Outcome Value) (text rest : Bytes),
      (¬∃ number : Int, Denotes text number ∧ FitsInt64 number) →
      ∀ marker, marker = integerMarker ∨ marker = bulkMarker ∨ marker = arrayMarker →
        readMarked fault readItem marker text rest = (.error .protocol, rest)) ∧
    (∀ (fault : Option TransportFault) (readItem : Bytes → Outcome Value) (text rest : Bytes)
      (number : Int64), Denotes text number.toInt →
      readMarked fault readItem integerMarker text rest = (.ok (.integer number), rest)) ∧
    (∀ (negative : Bool) (front : Bytes) (value : Int64),
      appendDigits? negative 0 front = some value →
      value.toInt = signedValue negative front) ∧
    (∀ (text front back : Bytes) (byte : UInt8) (number : Int64), int64? text = some number →
      (splitMinus text).2 = front ++ byte :: back →
      ∃ value, appendDigits? (splitMinus text).1 0 front = some value ∧
        FitsInt64 (10 * value.toInt) ∧
        FitsInt64 (extended (splitMinus text).1 value.toInt byte)) ∧
    (∀ number : Int64, int64? (Bytes.ofText (toString number.toInt)) = some number) ∧
    ∀ length : Nat, length ≤ 2 ^ 63 - 1 →
      ∃ number : Int64, int64? (digits length) = some number ∧ number.toInt = length := by
  refine ⟨?_, ?_, ?_, ?_, ?_, ?_, ?_⟩
  · intro text number
    constructor
    · rintro ⟨read, accepted, rfl⟩
      exact ⟨Decimal.int64?_eq_some_iff.mp accepted, Decimal.fitsInt64_toInt read⟩
    · rintro ⟨denotes, fits⟩
      refine ⟨Int64.ofInt number, ?_, Decimal.toInt_ofInt fits⟩
      rwa [Decimal.int64?_eq_some_iff, Decimal.toInt_ofInt fits]
  · intro fault readItem text rest nothing marker numbered
    apply readMarked_of_int64?_eq_none (int64?_eq_none_iff.mpr nothing)
    rcases numbered with rfl | rfl | rfl <;> decide
  · intro fault readItem text rest number denotes
    exact readMarked_integer fault (Decimal.int64?_eq_some_iff.mpr denotes) rest
  · intro negative front value appended
    exact (Decimal.appendDigits?_zero_eq_some_iff.mp appended).2
  · intro text front back byte number read split
    have appended := Decimal.int64?_eq_appendDigits? read
    rw [split] at appended
    exact Decimal.fits_of_appendDigits? appended
  · intro number
    rw [Decimal.int64?_eq_some_iff, Decimal.ofText_toString_int]
    exact Decimal.denotes_signedDigits number.toInt
  · intro length within
    have fits : FitsInt64 length := by
      simp only [FitsInt64, Decimal.leastInt64, Decimal.mostInt64]
      omega
    refine ⟨Int64.ofInt length, ?_, Decimal.toInt_ofInt fits⟩
    rw [Decimal.int64?_eq_some_iff, Decimal.toInt_ofInt fits]
    exact Decimal.denotes_digits length

/-- The least integer is reached through ten times a number near the limit, and the number next to
the largest one is refused. -/
theorem integers_are_read_exactly_at_limits :
    int64? (Bytes.ofText (toString Int64.minValue.toInt)) = some Int64.minValue ∧
    (∃ value, appendDigits? true 0 (Bytes.ofText "922337203685477580") = some value ∧
      FitsInt64 (10 * value.toInt) ∧ FitsInt64 (extended true value.toInt 56)) ∧
    readMarked none (read none) integerMarker (Bytes.ofText "9223372036854775808") [1] =
      (.error .protocol, [1]) ∧
    readMarked none (read none) integerMarker [48, 48, 55] [] = (.ok (.integer 7), []) ∧
    ∃ number : Int64, int64? (digits (2 ^ 63 - 1)) = some number ∧
      number.toInt = (2 ^ 63 - 1 : Nat) := by
  rcases integers_are_read_exactly with ⟨_, refused, accepted, _, steps, inverted, lengths⟩
  have least : int64? (Bytes.ofText "-9223372036854775808") = some Int64.minValue := by
    decide +kernel
  have tooLarge : int64? (Bytes.ofText "9223372036854775808") = none := by decide +kernel
  refine ⟨inverted _, steps _ _ [] 56 _ least (by decide +kernel), ?_, ?_, lengths _ le_rfl⟩
  · exact refused none (read none) _ [1] (int64?_eq_none_iff.mp tooLarge) _ (Or.inl rfl)
  · exact accepted none (read none) _ [] 7 (Decimal.int64?_eq_some_iff.mp (by decide))

end SlotClient.Wire
