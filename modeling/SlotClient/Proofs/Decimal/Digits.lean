import Mathlib.Data.List.Induction
import Mathlib.Tactic.Common
import SlotClient.Proofs.Text.Utf8
import SlotClient.Decimal.Digits

/-!
# Reading back decimal texts

A text denotes an integer if it consists of one or more digits, behind a minus if the integer is
negative; `Denotes` says so without a reader. The readers accept exactly the texts that denote a
number within their width, so every number is read back from the text that is written for it.
-/

namespace SlotClient.Decimal

theorem toNat_digitByte {digit : Nat} (single : digit < 10) :
    (digitByte digit).toNat = 48 + digit := by
  simp only [digitByte, UInt8.toNat_ofNat']
  omega

theorem isDigit_iff {byte : UInt8} : isDigit byte = true ↔ 48 ≤ byte.toNat ∧ byte.toNat ≤ 57 := by
  simp only [isDigit, Bool.and_eq_true, decide_eq_true_eq, UInt8.le_iff_toNat_le]
  exact Iff.rfl

theorem isDigit_digitByte {digit : Nat} (single : digit < 10) :
    isDigit (digitByte digit) = true := by
  rw [isDigit_iff, toNat_digitByte single]
  omega

theorem digitValue_digitByte {digit : Nat} (single : digit < 10) :
    digitValue (digitByte digit) = digit := by
  rw [digitValue, toNat_digitByte single]
  omega

theorem digits_ne_nil (number : Nat) : digits number ≠ [] := by
  rw [digits]
  split <;> simp

theorem isDigit_of_mem_digits {number : Nat} {byte : UInt8} (member : byte ∈ digits number) :
    isDigit byte = true := by
  induction number using Nat.strongRecOn with
  | ind number shorter =>
      rw [digits] at member
      split at member
      · rename_i single
        rw [List.mem_singleton] at member
        rw [member]
        exact isDigit_digitByte single
      · rename_i several
        rcases List.mem_append.mp member with front | last
        · exact shorter (number / 10) (by omega) front
        · rw [List.mem_singleton] at last
          rw [last]
          exact isDigit_digitByte (by omega)

theorem ofDigits_append (front : Bytes) (byte : UInt8) :
    ofDigits (front ++ [byte]) = 10 * ofDigits front + digitValue byte := by
  simp only [ofDigits, List.foldl_append, List.foldl_cons, List.foldl_nil]

theorem ofDigits_digits (number : Nat) : ofDigits (digits number) = number := by
  induction number using Nat.strongRecOn with
  | ind number shorter =>
      rw [digits]
      split
      · rename_i single
        simp only [ofDigits, List.foldl_cons, List.foldl_nil, digitValue_digitByte single]
        omega
      · rename_i several
        rw [ofDigits_append, shorter (number / 10) (by omega), digitValue_digitByte (by omega)]
        omega

/-- The texts that denote an integer: digits, of which there may be more than needed, with a minus
in front or without. -/
inductive Denotes : Bytes → Int → Prop
  | natural {text : Bytes} (nonempty : text ≠ []) (digital : ∀ byte ∈ text, isDigit byte = true) :
      Denotes text (ofDigits text)
  | negative {text : Bytes} (nonempty : text ≠ []) (digital : ∀ byte ∈ text, isDigit byte = true) :
      Denotes (minus :: text) (-(ofDigits text : Int))

theorem natural?_eq_some_iff {text : Bytes} {number : Nat} :
    natural? text = some number ↔
      text ≠ [] ∧ (∀ byte ∈ text, isDigit byte = true) ∧ ofDigits text = number := by
  simp [natural?, and_assoc]

/-- The texts that denote a natural number where a plus may stand in front: digits, of which there
may be more than needed. -/
inductive DenotesNatural : Bytes → Nat → Prop
  | plain {text : Bytes} (nonempty : text ≠ []) (digital : ∀ byte ∈ text, isDigit byte = true) :
      DenotesNatural text (ofDigits text)
  | signed {text : Bytes} (nonempty : text ≠ []) (digital : ∀ byte ∈ text, isDigit byte = true) :
      DenotesNatural (plus :: text) (ofDigits text)

theorem isDigit_plus : isDigit plus = false := by decide

/-- A bounded number is read from exactly the texts that denote it. -/
theorem bounded?_eq_some_iff {largest number : Nat} {text : Bytes} :
    bounded? largest text = some number ↔ DenotesNatural text number ∧ number ≤ largest := by
  have bounded (unsigned : Bytes) :
      ((natural? unsigned).bind fun value => if value ≤ largest then some value else none) =
        some number ↔
      (unsigned ≠ [] ∧ (∀ byte ∈ unsigned, isDigit byte = true) ∧ ofDigits unsigned = number) ∧
        number ≤ largest := by
    simp only [Option.bind_eq_some_iff, natural?_eq_some_iff, Option.ite_none_right_eq_some,
      Option.some.injEq]
    constructor
    · rintro ⟨value, read, within, rfl⟩
      exact ⟨read, within⟩
    · rintro ⟨read, within⟩
      exact ⟨number, read, within, rfl⟩
  unfold bounded?
  rw [bounded, and_congr_left_iff]
  intro _
  constructor
  · rintro ⟨nonempty, digital, rfl⟩
    rcases text with _ | ⟨first, rest⟩
    · contradiction
    · by_cases signed : first = plus
      · simp only [if_pos signed] at nonempty digital ⊢
        rw [signed]
        exact .signed nonempty digital
      · simp only [if_neg signed] at nonempty digital ⊢
        exact .plain nonempty digital
  · intro denotes
    cases denotes with
    | plain nonempty digital =>
        rcases text with _ | ⟨first, rest⟩
        · contradiction
        · have unsigned : first ≠ plus := by
            rintro rfl
            simpa [isDigit_plus] using digital plus List.mem_cons_self
          simp only [if_neg unsigned]
          exact ⟨nonempty, digital, trivial⟩
    | signed nonempty digital =>
        simp only [if_true]
        exact ⟨nonempty, digital, trivial⟩

theorem isDigit_minus : isDigit minus = false := by decide

theorem fitsInt64_toInt (number : Int64) : FitsInt64 number.toInt :=
  ⟨number.le_toInt, Int.le_of_lt_add_one number.toInt_lt⟩

theorem toInt_ofInt {number : Int} (fits : FitsInt64 number) :
    (Int64.ofInt number).toInt = number := by
  apply Int64.toInt_ofInt_of_le
  · exact fits.1
  · exact Int.lt_add_one_of_le fits.2

theorem checked?_eq_some_iff {integer : Int} {number : Int64} :
    checked? integer = some number ↔ number.toInt = integer := by
  unfold checked?
  split
  · rename_i fits
    rw [Option.some.injEq]
    constructor
    · rintro rfl
      exact toInt_ofInt fits
    · rintro rfl
      exact Int64.ofInt_toInt number
  · rename_i exceeds
    constructor
    · intro impossible
      contradiction
    · rintro rfl
      exact absurd (fitsInt64_toInt number) exceeds

/-- The integer whose digits are those of another one and one more behind them. -/
def extended (negative : Bool) (integer : Int) (byte : UInt8) : Int :=
  if negative then 10 * integer - digitValue byte else 10 * integer + digitValue byte

/-- An integer that digits of the given sign lead to. -/
def HasSign (negative : Bool) (integer : Int) : Prop :=
  if negative then integer ≤ 0 else 0 ≤ integer

theorem HasSign.extended {negative : Bool} {integer : Int} (signed : HasSign negative integer)
    (byte : UInt8) : HasSign negative (extended negative integer byte) := by
  cases negative <;> simp_all [HasSign, Decimal.extended] <;> omega

/-- More digits lead away from zero, so a number that fits has been reached through numbers that
fit. -/
theorem HasSign.fits_of_extended {negative : Bool} {integer : Int} {byte : UInt8}
    (signed : HasSign negative integer)
    (fits : FitsInt64 (Decimal.extended negative integer byte)) : FitsInt64 (10 * integer) := by
  cases negative <;>
    simp only [HasSign, Decimal.extended, FitsInt64, leastInt64, mostInt64, if_true,
      Bool.false_eq_true, if_false] at * <;> omega

theorem HasSign.fits_of_foldl {negative : Bool} {integer : Int} {text : Bytes}
    (signed : HasSign negative integer)
    (fits : FitsInt64 (text.foldl (Decimal.extended negative) integer)) : FitsInt64 integer := by
  induction text generalizing integer with
  | nil => exact fits
  | cons byte rest ih =>
      have tenfold := signed.fits_of_extended (ih (signed.extended byte) fits)
      simp only [FitsInt64, leastInt64, mostInt64] at tenfold ⊢
      omega

theorem appendDigit?_eq_some_iff {negative : Bool} {number next : Int64} {byte : UInt8} :
    appendDigit? negative number byte = some next ↔
      FitsInt64 (10 * number.toInt) ∧ next.toInt = extended negative number.toInt byte := by
  simp only [appendDigit?, Option.bind_eq_bind, Option.bind_eq_some_iff, checked?_eq_some_iff]
  constructor
  · rintro ⟨scaled, tenfold, same⟩
    rw [tenfold] at same
    exact ⟨tenfold ▸ fitsInt64_toInt scaled, same⟩
  · rintro ⟨fits, same⟩
    refine ⟨Int64.ofInt (10 * number.toInt), toInt_ofInt fits, ?_⟩
    rw [toInt_ofInt fits]
    exact same

/-- Digits are appended one after the other just if the result fits: no number on the way to it can
leave the width before. -/
theorem appendDigits?_eq_some_iff {negative : Bool} {number result : Int64} {text : Bytes}
    (signed : HasSign negative number.toInt) :
    appendDigits? negative number text = some result ↔
      (∀ byte ∈ text, isDigit byte = true) ∧
        result.toInt = text.foldl (extended negative) number.toInt := by
  induction text generalizing number with
  | nil =>
      rw [appendDigits?, Option.some.injEq, List.foldl_nil, Int64.toInt_inj, eq_comm]
      exact (and_iff_right (List.forall_mem_nil _)).symm
  | cons byte rest ih =>
      rw [appendDigits?, List.forall_mem_cons, List.foldl_cons]
      by_cases digit : isDigit byte = true
      · rw [if_pos digit, Option.bind_eq_some_iff]
        constructor
        · rintro ⟨next, appended, others⟩
          have same := (appendDigit?_eq_some_iff.mp appended).2
          rw [ih (same ▸ signed.extended byte), same] at others
          exact ⟨⟨digit, others.1⟩, others.2⟩
        · rintro ⟨⟨_, digital⟩, same⟩
          have fits : FitsInt64 (extended negative number.toInt byte) :=
            (signed.extended byte).fits_of_foldl (same ▸ fitsInt64_toInt result)
          have reached := toInt_ofInt fits
          refine ⟨Int64.ofInt (extended negative number.toInt byte), ?_, ?_⟩
          · exact appendDigit?_eq_some_iff.mpr ⟨signed.fits_of_extended fits, reached⟩
          · rw [ih (reached.symm ▸ signed.extended byte), reached]
            exact ⟨digital, same⟩
      · simp [digit]

theorem appendDigits?_append (negative : Bool) (number : Int64) (front back : Bytes) :
    appendDigits? negative number (front ++ back) =
      (appendDigits? negative number front).bind fun next => appendDigits? negative next back := by
  induction front generalizing number with
  | nil => rfl
  | cons byte front ih =>
      rw [List.cons_append, appendDigits?, appendDigits?]
      split
      · simp only [ih, Option.bind_assoc]
      · rfl

theorem appendDigits?_cons_eq_some_iff {negative : Bool} {number result : Int64} {byte : UInt8}
    {text : Bytes} :
    appendDigits? negative number (byte :: text) = some result ↔
      isDigit byte = true ∧ ∃ next, appendDigit? negative number byte = some next ∧
        appendDigits? negative next text = some result := by
  rw [appendDigits?, Option.ite_none_right_eq_some, Option.bind_eq_some_iff]

theorem foldl_extended_false (text : Bytes) (number : Nat) :
    text.foldl (extended false) (number : Int) =
      (text.foldl (fun value byte => 10 * value + digitValue byte) number : Nat) := by
  induction text generalizing number with
  | nil => rfl
  | cons byte rest ih =>
      rw [List.foldl_cons, List.foldl_cons, ← ih]
      simp [extended]

theorem foldl_extended_true (text : Bytes) (integer : Int) :
    text.foldl (extended true) (-integer) = -text.foldl (extended false) integer := by
  induction text generalizing integer with
  | nil => rfl
  | cons byte rest ih =>
      rw [List.foldl_cons, List.foldl_cons, ← ih]
      congr 1
      simp only [extended, if_true, Bool.false_eq_true, if_false]
      omega

/-- The integer that digits denote with a sign. -/
def signedValue (negative : Bool) (text : Bytes) : Int :=
  if negative then -(ofDigits text : Int) else ofDigits text

theorem foldl_extended (negative : Bool) (text : Bytes) :
    text.foldl (extended negative) 0 = signedValue negative text := by
  have natural := foldl_extended_false text 0
  cases negative with
  | false => exact natural
  | true =>
      have opposite := foldl_extended_true text 0
      rw [Int.neg_zero] at opposite
      rw [opposite, show (0 : Int) = ((0 : Nat) : Int) from rfl, natural]
      rfl

theorem appendDigits?_zero_eq_some_iff {negative : Bool} {result : Int64} {text : Bytes} :
    appendDigits? negative 0 text = some result ↔
      (∀ byte ∈ text, isDigit byte = true) ∧ result.toInt = signedValue negative text := by
  have signed : HasSign negative (0 : Int64).toInt := by cases negative <;> simp [HasSign]
  rw [appendDigits?_eq_some_iff signed, Int64.toInt_zero, foldl_extended]

/-- While digits that are accepted are appended, no number on the way leaves the width. -/
theorem fits_of_appendDigits? {negative : Bool} {result : Int64} {front back : Bytes}
    {byte : UInt8} (appended : appendDigits? negative 0 (front ++ byte :: back) = some result) :
    ∃ value : Int64, appendDigits? negative 0 front = some value ∧
      FitsInt64 (10 * value.toInt) ∧ FitsInt64 (extended negative value.toInt byte) := by
  rw [appendDigits?_append, Option.bind_eq_some_iff] at appended
  rcases appended with ⟨value, before, appended⟩
  rcases appendDigits?_cons_eq_some_iff.mp appended with ⟨_, next, step, _⟩
  rcases appendDigit?_eq_some_iff.mp step with ⟨tenfold, same⟩
  exact ⟨value, before, tenfold, same ▸ fitsInt64_toInt next⟩

theorem denotes_iff {text : Bytes} {number : Int} :
    Denotes text number ↔
      (splitMinus text).2 ≠ [] ∧ (∀ byte ∈ (splitMinus text).2, isDigit byte = true) ∧
        number = signedValue (splitMinus text).1 (splitMinus text).2 := by
  constructor
  · intro denotes
    cases denotes with
    | natural nonempty digital =>
        rcases text with _ | ⟨first, rest⟩
        · contradiction
        · have unsigned : first ≠ minus := by
            rintro rfl
            simpa [isDigit_minus] using digital minus List.mem_cons_self
          rw [splitMinus, if_neg unsigned]
          exact ⟨nonempty, digital, rfl⟩
    | negative nonempty digital =>
        rw [splitMinus, if_pos rfl]
        exact ⟨nonempty, digital, rfl⟩
  · rintro ⟨nonempty, digital, rfl⟩
    rcases text with _ | ⟨first, rest⟩
    · contradiction
    · by_cases signed : first = minus
      · simp only [splitMinus, if_pos signed] at nonempty digital ⊢
        rw [signed]
        exact Denotes.negative nonempty digital
      · simp only [splitMinus, if_neg signed] at nonempty digital ⊢
        exact Denotes.natural nonempty digital

/-- An integer of sixty-four signed bits is read from exactly the texts that denote it. -/
theorem int64?_eq_some_iff {text : Bytes} {number : Int64} :
    int64? text = some number ↔ Denotes text number.toInt := by
  rw [int64?, denotes_iff]
  simp only [List.isEmpty_iff]
  split
  · rename_i nothing
    simp [nothing]
  · rename_i something
    rw [appendDigits?_zero_eq_some_iff]
    exact (and_iff_right something).symm

theorem int64?_eq_appendDigits? {text : Bytes} {number : Int64} (read : int64? text = some number) :
    appendDigits? (splitMinus text).1 0 (splitMinus text).2 = some number := by
  rw [int64?, Option.ite_none_left_eq_some] at read
  exact read.2

/-- The written form of an integer denotes it. -/
theorem denotes_signedDigits (number : Int) : Denotes (signedDigits number) number := by
  have digital : ∀ byte ∈ digits number.natAbs, isDigit byte = true :=
    fun _ member => isDigit_of_mem_digits member
  unfold signedDigits
  split
  · rename_i below
    have denotes := Denotes.negative (digits_ne_nil number.natAbs) digital
    rwa [ofDigits_digits, Int.ofNat_natAbs_of_nonpos (Int.le_of_lt below), Int.neg_neg] at denotes
  · rename_i natural
    have denotes := Denotes.natural (digits_ne_nil number.natAbs) digital
    rwa [ofDigits_digits, Int.natAbs_of_nonneg (Int.not_lt.mp natural)] at denotes

theorem signedDigits_natCast (number : Nat) : signedDigits (number : Int) = digits number := by
  simp [signedDigits]

theorem denotes_digits (number : Nat) : Denotes (digits number) number := by
  rw [← signedDigits_natCast]
  exact denotes_signedDigits number

/-- Digits that denote a number are no fewer than those that are written for it. -/
theorem length_digits_ofDigits_le {text : Bytes} (nonempty : text ≠ [])
    (digital : ∀ byte ∈ text, isDigit byte = true) :
    (digits (ofDigits text)).length ≤ text.length := by
  induction text using List.reverseRecOn with
  | nil => contradiction
  | append_singleton front byte ih =>
      rw [List.forall_mem_append, List.forall_mem_singleton, isDigit_iff] at digital
      have single : digitValue byte < 10 := by
        unfold digitValue
        omega
      rw [ofDigits_append, digits]
      split
      · simp
      · rename_i several
        have begun : front ≠ [] := by
          rintro rfl
          simp [ofDigits, single] at several
        have quotient : (10 * ofDigits front + digitValue byte) / 10 = ofDigits front := by omega
        rw [quotient, List.length_append, List.length_append]
        exact Nat.add_le_add_right (ih begun digital.1) 1

theorem Denotes.length_signedDigits_le {text : Bytes} {number : Int}
    (denotes : Denotes text number) : (signedDigits number).length ≤ text.length := by
  cases denotes with
  | natural nonempty digital =>
      rw [signedDigits_natCast]
      exact length_digits_ofDigits_le nonempty digital
  | negative nonempty digital =>
      have shorter := length_digits_ofDigits_le nonempty digital
      rw [signedDigits, Int.natAbs_neg, Int.natAbs_natCast]
      split
      · exact Nat.succ_le_succ shorter
      · exact Nat.le_succ_of_le shorter

theorem utf8EncodeChar_digitChar {digit : Nat} (single : digit < 10) :
    String.utf8EncodeChar (Nat.digitChar digit) = [digitByte digit] := by
  have each : ∀ digit : Fin 10,
      String.utf8EncodeChar (Nat.digitChar digit) = [digitByte digit] := by decide
  exact each ⟨digit, single⟩

/-- The text that shows a number has the same digits. -/
theorem ofText_toString (number : Nat) : Bytes.ofText (toString number) = digits number := by
  rw [Nat.toString_eq_ofList_toDigits, Bytes.ofText_ofList]
  induction number using Nat.strongRecOn with
  | ind number shorter =>
      rw [digits]
      split
      · rename_i single
        rw [Nat.toDigits_of_lt_base single, List.flatMap_singleton,
          utf8EncodeChar_digitChar single]
      · rename_i several
        rw [Nat.toDigits_of_base_le (by omega) (by omega), List.flatMap_append,
          shorter (number / 10) (by omega), List.flatMap_singleton,
          utf8EncodeChar_digitChar (by omega)]

theorem ofText_toString_int (number : Int) :
    Bytes.ofText (toString number) = signedDigits number := by
  rw [Int.toString_eq_repr, Int.repr_eq_if, signedDigits]
  by_cases negative : number < 0
  · rw [if_neg (by omega), if_pos negative, Bytes.ofText_append, ← Nat.toString_eq_repr,
      ofText_toString]
    have magnitude : (-number).toNat = number.natAbs := by omega
    rw [magnitude]
    rfl
  · rw [if_pos (by omega), if_neg negative, ← Nat.toString_eq_repr, ofText_toString]
    have magnitude : number.toNat = number.natAbs := by omega
    rw [magnitude]

/-- No control character occurs in a text that denotes an integer, so it never breaks a line. -/
theorem Denotes.not_mem {text : Bytes} {number : Int} (denotes : Denotes text number)
    {byte : UInt8} (control : byte.toNat < 32) : byte ∉ text := by
  intro member
  have printable : isDigit byte = true ∨ byte = minus := by
    cases denotes with
    | natural nonempty digital => exact Or.inl (digital byte member)
    | negative nonempty digital =>
        rcases List.mem_cons.mp member with rfl | inDigits
        · exact Or.inr rfl
        · exact Or.inl (digital byte inDigits)
  rcases printable with digit | rfl
  · have := isDigit_iff.mp digit
    omega
  · exact absurd control (by decide)

end SlotClient.Decimal
