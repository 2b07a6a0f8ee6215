import Mathlib.Algebra.CharP.Two
import Mathlib.Algebra.Field.ZMod
import Mathlib.Data.Nat.Bitwise
import Mathlib.RingTheory.AdjoinRoot
import SlotClient.Slot.Checksum

/-!
# The checksum as a remainder

A register of sixteen bits is a polynomial over the field of two elements, and so is a message,
whose first bit is the coefficient of the highest power. Exclusive or is the sum of registers.
Moving a register to the left multiplies it by a power of `X`, up to the bits that fall out at its
end, which stand for the powers from `X ^ 16` on.

All computations are compared in the residues modulo the generating polynomial, where a register is
known by its residue. There a shift multiplies by `X`, a step by the table takes in a byte, and
taking in all bytes of a message is to multiply it by `X ^ 16`.
-/

namespace SlotClient.Checksum

open Polynomial

noncomputable def generator : (ZMod 2)[X] := X ^ 16 + X ^ 12 + X ^ 5 + 1

/-- The polynomial of a register, with the bit of weight `2 ^ power` before `X ^ power`. -/
noncomputable def registerPolynomial (register : UInt16) : (ZMod 2)[X] :=
  ∑ power ∈ Finset.range 16, if register.toNat.testBit power then X ^ power else 0

/-- The bits of a byte, the most significant one first. -/
def bitsOfByte (byte : UInt8) : List Bool := (List.range 8).reverse.map byte.toNat.testBit

/-- The bits of a message in the order in which they are taken in. -/
def bits (bytes : Bytes) : List Bool := bytes.flatMap bitsOfByte

/-- The polynomial of a message, with its first bit before the highest power. -/
noncomputable def messagePolynomial : List Bool → (ZMod 2)[X]
  | [] => 0
  | bit :: rest => (if bit then X ^ rest.length else 0) + messagePolynomial rest

/-- Takes one bit of a message into the register. -/
def feed (register : UInt16) (bit : Bool) : UInt16 :=
  shift (if bit then register ^^^ 0x8000 else register)

theorem testBit_of_sixteen_le (register : UInt16) {power : Nat} (beyond : 16 ≤ power) :
    register.toNat.testBit power = false :=
  Nat.testBit_eq_false_of_lt
    (Nat.lt_of_lt_of_le register.toNat_lt (Nat.pow_le_pow_right (by decide) beyond))

theorem coeff_registerPolynomial (register : UInt16) (power : Nat) :
    (registerPolynomial register).coeff power = if register.toNat.testBit power then 1 else 0 := by
  simp only [registerPolynomial, finsetSum_coeff]
  by_cases within : power < 16
  · rw [Finset.sum_eq_single power]
    · split <;> simp
    · intro other _ different
      split <;> simp [coeff_X_pow, different.symm]
    · intro outside
      exact absurd (Finset.mem_range.mpr within) outside
  · rw [testBit_of_sixteen_le register (Nat.le_of_not_lt within)]
    apply Finset.sum_eq_zero
    intro other member
    have different : power ≠ other := by
      have := Finset.mem_range.mp member
      omega
    split <;> simp [coeff_X_pow, different]

theorem registerPolynomial_xor (first second : UInt16) :
    registerPolynomial (first ^^^ second) =
      registerPolynomial first + registerPolynomial second := by
  ext power
  rw [coeff_add]
  simp only [coeff_registerPolynomial, UInt16.toNat_xor, Nat.testBit_xor]
  cases first.toNat.testBit power <;> cases second.toNat.testBit power <;> decide

theorem registerPolynomial_zero : registerPolynomial 0 = 0 := by
  simp [registerPolynomial]

theorem registerPolynomial_of_eq_two_pow {register : UInt16} (power : Nat)
    (single : register.toNat = 2 ^ power) : registerPolynomial register = X ^ power := by
  ext other
  simp only [coeff_registerPolynomial, single, Nat.testBit_two_pow, decide_eq_true_eq, coeff_X_pow,
    eq_comm (a := other)]

/-- The low bits of the generating polynomial are what `X ^ 16` leaves. -/
theorem registerPolynomial_polynomial :
    registerPolynomial polynomial = X ^ 12 + X ^ 5 + 1 := by
  rw [show polynomial = 0x1000 ^^^ 0x20 ^^^ 1 from rfl, registerPolynomial_xor,
    registerPolynomial_xor, registerPolynomial_of_eq_two_pow 12 rfl,
    registerPolynomial_of_eq_two_pow 5 rfl,
    registerPolynomial_of_eq_two_pow 0 rfl, pow_zero]

/-- A register that is moved to the left loses the bits of the powers from `X ^ 16` on. -/
theorem registerPolynomial_shiftLeft {left right : UInt16} (some : 0 < left.toNat)
    (more : 0 < right.toNat) (amounts : left.toNat + right.toNat = 16) (register : UInt16) :
    registerPolynomial (register <<< left) + registerPolynomial (register >>> right) * X ^ 16 =
      registerPolynomial register * X ^ left.toNat := by
  have leftProper : left.toNat % 16 = left.toNat := Nat.mod_eq_of_lt (by omega)
  have rightProper : right.toNat % 16 = right.toNat := Nat.mod_eq_of_lt (by omega)
  ext power
  simp only [coeff_add, coeff_mul_X_pow', coeff_registerPolynomial, UInt16.toNat_shiftLeft,
    UInt16.toNat_shiftRight, leftProper, rightProper, Nat.testBit_mod_two_pow,
    Nat.testBit_shiftLeft, Nat.testBit_shiftRight]
  by_cases inside : power < 16
  · simp [inside, Nat.not_le.mpr inside, ite_and]
  · have moved : right.toNat + (power - 16) = power - left.toNat := by omega
    have beyond : 16 ≤ power := by omega
    have behind : left.toNat ≤ power := by omega
    simp [inside, beyond, behind, moved]

theorem degree_registerPolynomial_lt (register : UInt16) :
    (registerPolynomial register).degree < 16 := by
  refine (degree_lt_iff_coeff_zero _ 16).mpr fun power beyond => ?_
  rw [coeff_registerPolynomial, testBit_of_sixteen_le register beyond, if_neg Bool.false_ne_true]

theorem monic_generator : generator.Monic := by
  unfold generator
  monicity!

theorem degree_generator : generator.degree = 16 := by
  unfold generator
  compute_degree!

theorem registerPolynomial_injective : Function.Injective registerPolynomial := by
  intro first second same
  apply UInt16.toNat_inj.mp
  apply Nat.eq_of_testBit_eq
  intro power
  have coefficients := congrArg (coeff · power) same
  simp only [coeff_registerPolynomial] at coefficients
  rcases ofFirst : first.toNat.testBit power <;> rcases ofSecond : second.toNat.testBit power <;>
    simp [ofFirst, ofSecond] at coefficients ⊢

/-- The residue of a register modulo the generating polynomial. -/
noncomputable def residue (register : UInt16) : AdjoinRoot generator :=
  AdjoinRoot.mk generator (registerPolynomial register)

open AdjoinRoot (root mk)

theorem residue_injective : Function.Injective residue := by
  intro first second same
  apply registerPolynomial_injective
  have divides : generator ∣ registerPolynomial first - registerPolynomial second :=
    AdjoinRoot.mk_eq_mk.mp same
  apply sub_eq_zero.mp
  apply eq_zero_of_dvd_of_degree_lt divides
  rw [degree_generator]
  apply lt_of_le_of_lt (degree_sub_le _ _)
  exact max_lt (degree_registerPolynomial_lt first) (degree_registerPolynomial_lt second)

theorem residue_zero : residue 0 = 0 := by
  rw [residue, registerPolynomial_zero, map_zero]

theorem residue_one : residue 1 = 1 := by
  rw [residue, registerPolynomial_of_eq_two_pow 0 rfl, pow_zero, map_one]

theorem residue_top : residue 0x8000 = root generator ^ 15 := by
  rw [residue, registerPolynomial_of_eq_two_pow 15 rfl, map_pow, AdjoinRoot.mk_X]

theorem residue_xor (first second : UInt16) :
    residue (first ^^^ second) = residue first + residue second := by
  simp only [residue, registerPolynomial_xor, map_add]

theorem residue_polynomial : residue polynomial = root generator ^ 16 := by
  rw [residue, registerPolynomial_polynomial, ← AdjoinRoot.mk_X, ← map_pow, AdjoinRoot.mk_eq_mk,
    CharTwo.sub_eq_add]
  exact dvd_of_eq (by unfold generator; ring)

theorem residue_shiftLeft {left right : UInt16} (some : 0 < left.toNat) (more : 0 < right.toNat)
    (amounts : left.toNat + right.toNat = 16) (register : UInt16) :
    residue (register <<< left) + residue (register >>> right) * root generator ^ 16 =
      residue register * root generator ^ left.toNat := by
  have moved := congrArg (mk generator)
    (registerPolynomial_shiftLeft some more amounts register)
  simpa only [residue, map_add, map_mul, map_pow, AdjoinRoot.mk_X] using moved

/-- The highest bit of a register is all that is left of it if it is moved to the right end. -/
theorem and_top_eq_zero_cases (register : UInt16) :
    (register &&& 0x8000 = 0 ∧ register >>> 15 = 0) ∨
      (register &&& 0x8000 ≠ 0 ∧ register >>> 15 = 1) := by
  have top : (register &&& 0x8000).toNat = (register.toNat.testBit 15).toNat * 2 ^ 15 :=
    Nat.and_two_pow register.toNat 15
  have last : (register >>> 15).toNat = register.toNat / 2 ^ 15 := Nat.shiftRight_eq_div_pow _ 15
  rw [Nat.testBit_eq_decide_div_mod_eq] at top
  have bounded := register.toNat_lt
  have either : register.toNat / 2 ^ 15 = 0 ∨ register.toNat / 2 ^ 15 = 1 := by omega
  rcases either with none | one
  · rw [none] at top last
    exact Or.inl ⟨UInt16.toNat_inj.mp top, UInt16.toNat_inj.mp last⟩
  · rw [one] at top last
    refine Or.inr ⟨?_, UInt16.toNat_inj.mp last⟩
    intro clear
    rw [clear] at top
    contradiction

/-- A shift multiplies by `X`. -/
theorem residue_shift (register : UInt16) :
    residue (shift register) = residue register * root generator := by
  have moved : residue (register <<< 1) + residue (register >>> 15) * root generator ^ 16 =
      residue register * root generator ^ 1 :=
    residue_shiftLeft (by decide) (by decide) rfl register
  rcases and_top_eq_zero_cases register with ⟨clear, last⟩ | ⟨set, last⟩
  · rw [last] at moved
    simpa [shift, clear, residue_zero] using moved
  · rw [last] at moved
    simpa [shift, set, residue_xor, residue_polynomial, residue_one] using moved

theorem residue_shifts (count : Nat) (register : UInt16) :
    residue (shifts count register) = residue register * root generator ^ count := by
  induction count generalizing register with
  | zero => rw [shifts, pow_zero, mul_one]
  | succ count ih => rw [shifts, ih, residue_shift, pow_succ', mul_assoc]

/-- Taking in a bit moves the register on, and adds the bit as what `X ^ 16` leaves. -/
theorem residue_feed (register : UInt16) (bit : Bool) :
    residue (feed register bit) =
      residue register * root generator + if bit then root generator ^ 16 else 0 := by
  rw [feed, residue_shift]
  cases bit with
  | false => simp
  | true =>
      rw [if_pos rfl, if_pos rfl, residue_xor, residue_top, add_mul, ← pow_succ]

/-- Taking in all bits of a message multiplies it by `X ^ 16`. -/
theorem residue_foldl_feed (message : List Bool) (register : UInt16) :
    residue (message.foldl feed register) = residue register * root generator ^ message.length +
      mk generator (messagePolynomial message) * root generator ^ 16 := by
  induction message generalizing register with
  | nil => simp [messagePolynomial]
  | cons bit message ih =>
      rw [List.foldl_cons, ih, residue_feed, messagePolynomial, List.length_cons, map_add]
      cases bit with
      | false =>
          simp only [Bool.false_eq_true, if_false, map_zero, add_zero, zero_add]
          ring
      | true =>
          simp only [if_true, map_pow, AdjoinRoot.mk_X]
          ring

theorem length_bitsOfByte (byte : UInt8) : (bitsOfByte byte).length = 8 := by
  simp [bitsOfByte]

theorem messagePolynomial_append (front back : List Bool) :
    messagePolynomial (front ++ back) =
      messagePolynomial front * X ^ back.length + messagePolynomial back := by
  induction front with
  | nil => simp [messagePolynomial]
  | cons bit front ih =>
      rw [List.cons_append, messagePolynomial, messagePolynomial, ih, List.length_append]
      split <;> ring

theorem messagePolynomial_descending (bit : Nat → Bool) (count : Nat) :
    messagePolynomial ((List.range count).reverse.map bit) =
      ∑ power ∈ Finset.range count, if bit power then X ^ power else 0 := by
  induction count with
  | zero => rfl
  | succ count ih =>
      rw [List.range_succ, List.reverse_append, List.reverse_singleton, List.singleton_append,
        List.map_cons, messagePolynomial, ih, List.length_map, List.length_reverse,
        List.length_range, Finset.sum_range_succ, add_comm]

/-- The bits of a byte are those of a register that holds it. -/
theorem messagePolynomial_bitsOfByte (byte : UInt8) :
    messagePolynomial (bitsOfByte byte) = registerPolynomial byte.toUInt16 := by
  rw [bitsOfByte, messagePolynomial_descending, registerPolynomial]
  apply Finset.sum_subset (Finset.range_mono (by decide))
  intro power _ outside
  have high : byte.toNat.testBit power = false := by
    apply Nat.testBit_eq_false_of_lt
    rw [Finset.mem_range, Nat.not_lt] at outside
    exact Nat.lt_of_lt_of_le byte.toNat_lt (Nat.pow_le_pow_right (by decide) outside)
  rw [high, if_neg Bool.false_ne_true]

theorem residue_shiftLeft_eight (register : UInt16) :
    residue (register <<< 8) + residue (register >>> 8) * root generator ^ 16 =
      residue register * root generator ^ 8 :=
  residue_shiftLeft (by decide) (by decide) rfl register

/-- A byte in the high half of a register is by `X ^ 8` more than in the low half. -/
theorem residue_toUInt16_shiftLeft (byte : UInt8) :
    residue (byte.toUInt16 <<< 8) = residue byte.toUInt16 * root generator ^ 8 := by
  have moved := residue_shiftLeft_eight byte.toUInt16
  have nothing : byte.toUInt16 >>> 8 = 0 :=
    UInt16.toNat_inj.mp (Nat.shiftRight_eq_zero byte.toNat 8 byte.toNat_lt)
  simpa [nothing, residue_zero] using moved

theorem get_table (byte : UInt8) : table.get byte.toFin = shifts 8 (byte.toUInt16 <<< 8) := by
  rw [← UInt16.ofNat_uInt8ToNat]
  exact Vector.getElem_ofFn byte.toNat_lt

theorem toUInt16_xor (register : UInt16) (byte : UInt8) :
    ((register >>> 8).toUInt8 ^^^ byte).toUInt16 = (register >>> 8) ^^^ byte.toUInt16 := by
  apply UInt16.toNat_inj.mp
  have bounded := register.toNat_lt
  have whole : register.toNat / 256 % 256 = register.toNat / 256 := Nat.mod_eq_of_lt (by omega)
  simp [Nat.shiftRight_eq_div_pow, whole]

/-- A step by the table takes in a byte. -/
theorem residue_step (register : UInt16) (byte : UInt8) :
    residue (step register byte) = residue register * root generator ^ 8 +
      residue byte.toUInt16 * root generator ^ 16 := by
  rw [step, get_table, residue_xor, residue_shifts, residue_toUInt16_shiftLeft, toUInt16_xor,
    residue_xor]
  -- The table is asked for the bits that fall out of the register, so that nothing is lost.
  linear_combination residue_shiftLeft_eight register

/-- Taking in all bytes of a message by the table multiplies it by `X ^ 16`. -/
theorem residue_foldl_step (bytes : Bytes) (register : UInt16) :
    residue (bytes.foldl step register) =
      residue register * root generator ^ (bits bytes).length +
        mk generator (messagePolynomial (bits bytes)) * root generator ^ 16 := by
  induction bytes generalizing register with
  | nil => simp [bits, messagePolynomial]
  | cons byte bytes ih =>
      have split : bits (byte :: bytes) = bitsOfByte byte ++ bits bytes := rfl
      rw [List.foldl_cons, ih, residue_step, split, messagePolynomial_append, List.length_append,
        length_bitsOfByte, messagePolynomial_bitsOfByte, map_add, map_mul, map_pow,
        AdjoinRoot.mk_X, ← residue]
      ring

theorem mk_registerPolynomial_ofBytes (bytes : Bytes) :
    mk generator (registerPolynomial (ofBytes bytes)) =
      mk generator (messagePolynomial (bits bytes) * X ^ 16) := by
  have taken := residue_foldl_step bytes 0
  rwa [residue_zero, zero_mul, zero_add, ← AdjoinRoot.mk_X, ← map_pow, ← map_mul] at taken

/-- A register holds the remainder of every polynomial that it is congruent to. -/
theorem registerPolynomial_eq_modByMonic {register : UInt16} {dividend : (ZMod 2)[X]}
    (congruent : mk generator (registerPolynomial register) = mk generator dividend) :
    registerPolynomial register = dividend %ₘ generator := by
  have small : registerPolynomial register %ₘ generator = registerPolynomial register := by
    rw [modByMonic_eq_self_iff monic_generator, degree_generator]
    exact degree_registerPolynomial_lt register
  rw [← small]
  exact modByMonic_eq_of_dvd_sub monic_generator (AdjoinRoot.mk_eq_mk.mp congruent)

/-- The checksum by the table is the cyclic redundancy check of sixteen bits. As a polynomial it is
the remainder of the message, multiplied by `X ^ 16`, in the division by the generating polynomial,
and no other register holds this remainder. It is what comes out if the bits of the message are
taken into an empty register one by one, the most significant bit of each byte first. A step by the
table is to add the byte to the high half of the register and to shift it eight times. -/
theorem table_computes_remainder :
    (∀ bytes : Bytes, registerPolynomial (ofBytes bytes) =
      (messagePolynomial (bits bytes) * X ^ 16) %ₘ (X ^ 16 + X ^ 12 + X ^ 5 + 1)) ∧
    Function.Injective registerPolynomial ∧
    (∀ bytes : Bytes, ofBytes bytes = (bits bytes).foldl feed 0) ∧
    ∀ register byte, step register byte = shifts 8 (register ^^^ byte.toUInt16 <<< 8) := by
  refine ⟨?_, registerPolynomial_injective, ?_, ?_⟩
  · intro bytes
    exact registerPolynomial_eq_modByMonic (mk_registerPolynomial_ofBytes bytes)
  · intro bytes
    apply residue_injective
    rw [ofBytes, residue_foldl_step, residue_foldl_feed]
  · intro register byte
    apply residue_injective
    rw [residue_step, residue_shifts, residue_xor, residue_toUInt16_shiftLeft]
    ring

example : ofBytes (Bytes.ofText "123456789") = 0x31C3 := by decide +kernel

end SlotClient.Checksum
