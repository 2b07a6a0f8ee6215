import SlotClient.Bytes

/-!
# Binary floating point of sixty-four bits

A number is its bit pattern: a sign, eleven bits of exponent and fifty-two bits of fraction. A
finite magnitude is `significand · 2 ^ scale / 2 ^ 1074` with natural `significand` and `scale`,
which keeps all arithmetic on it exact. `nearest` rounds a quotient of naturals to the closest
magnitude, a tie to the even significand, and what is too large to infinity.
-/

namespace SlotClient

/-- A binary floating-point number of sixty-four bits, given by its bit pattern. -/
structure Binary64 where
  bits : UInt64
  deriving DecidableEq, Repr

namespace Binary64

def powerOfTwo (exponent : Nat) : Nat := Nat.pow 2 exponent

def fractionRange : Nat := powerOfTwo 52

def exponentRange : Nat := powerOfTwo 11

def signWeight : Nat := powerOfTwo 63

/-- How many times the smallest positive number goes into one. -/
def unitsInOne : Nat := powerOfTwo 1074

def exponentField (number : Binary64) : Nat := number.bits.toNat / fractionRange % exponentRange

def fractionField (number : Binary64) : Nat := number.bits.toNat % fractionRange

def isNegative (number : Binary64) : Bool := signWeight ≤ number.bits.toNat

/-- Whether the number is neither an infinity nor a non-number. -/
def isFinite (number : Binary64) : Bool := number.exponentField != 2047

def isNaN (number : Binary64) : Bool := number.exponentField == 2047 && number.fractionField != 0

/-- The whole factor of a finite magnitude. -/
def significand (number : Binary64) : Nat :=
  if number.exponentField = 0 then number.fractionField else number.fractionField + fractionRange

/-- The power of two of a finite magnitude, counted from the smallest positive number. -/
def scale (number : Binary64) : Nat := number.exponentField - 1

/-- The magnitude's bit pattern of the infinities, above that of every finite magnitude. -/
def infinityPattern : Nat := 2047 * fractionRange

/-- Attaches a sign to the bit pattern of a magnitude. -/
def ofPattern (negative : Bool) (pattern : Nat) : Binary64 :=
  ⟨UInt64.ofNat (if negative then signWeight + pattern else pattern)⟩

/-- The infinity of the given sign. -/
def infinity (negative : Bool) : Binary64 := ofPattern negative infinityPattern

/-- A quiet non-number. -/
def notANumber (negative : Bool) : Binary64 := ofPattern negative (infinityPattern + powerOfTwo 51)

/-- The quotient rounded to the nearest whole number, a tie to the even neighbour. -/
def roundedQuotient (numerator denominator : Nat) : Nat :=
  let quotient := numerator / denominator
  let twice := 2 * (numerator % denominator)
  if denominator < twice ∨ (denominator = twice ∧ quotient % 2 = 1) then quotient + 1 else quotient

/-- The scale at which a quotient's significand has fifty-three bits, or zero if it is smaller. -/
def scaleOf (numerator denominator : Nat) : Nat :=
  (numerator * unitsInOne / denominator).log2 - 52

/-- The bit pattern of the magnitude nearest to a quotient of naturals. A significand that rounds
up to the next power of two carries into the exponent, as consecutive patterns are consecutive
magnitudes. -/
def nearest (numerator denominator : Nat) : Nat :=
  let scale := scaleOf numerator denominator
  let significand := roundedQuotient (numerator * unitsInOne) (denominator * powerOfTwo scale)
  min (scale * fractionRange + significand) infinityPattern

/-- The exact value of a magnitude, as a multiple of the smallest positive number. -/
def magnitude (number : Binary64) : Nat := number.significand * powerOfTwo number.scale

end Binary64

end SlotClient
