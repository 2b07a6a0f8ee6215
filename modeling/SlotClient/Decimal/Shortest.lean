import SlotClient.Decimal.Binary64
import SlotClient.Decimal.Digits

/-!
# Shortest decimal text of a binary number

A finite binary number is written with the fewest significant digits that still read back as the
same number, and of those the closest to it. The text is positional whatever the size of the
number: no exponent, no point in a whole number, and a minus in front of a negative one, zero
included.

The reals that round to a binary number form an interval around it, whose ends belong to it if its
significand is even. For each count of digits only the two neighbours of the number on the decimal
grid of that count have to be tried.
-/

namespace SlotClient.Decimal

/-- A positive number and the interval of reals that round to it, as numerators over one
denominator. -/
structure Rounding where
  low : Nat
  value : Nat
  high : Nat
  denominator : Nat
  endsIncluded : Bool

/-- The interval that rounds to a finite positive number. Just below a power of two the binary
grid is twice as fine, so the lower half of the interval is half as wide. -/
def Rounding.of (number : Binary64) : Rounding where
  low :=
    (4 * number.significand - if number.significand = Binary64.fractionRange then 1 else 2) *
      Binary64.powerOfTwo number.scale
  value := 4 * number.significand * Binary64.powerOfTwo number.scale
  high := (4 * number.significand + 2) * Binary64.powerOfTwo number.scale
  denominator := 4 * Binary64.unitsInOne
  endsIncluded := number.significand % 2 == 0

/-- The decimal number `coefficient · 10 ^ exponent`. -/
structure Numeral where
  coefficient : Nat
  exponent : Int

def digitCount (number : Nat) : Nat := (digits number).length

/-- The least `p` such that the value is below `10 ^ p`. -/
def Rounding.magnitude (rounding : Rounding) : Int :=
  if rounding.denominator ≤ rounding.value then
    digitCount (rounding.value / rounding.denominator)
  else
    1 - (digitCount ((rounding.denominator - 1) / rounding.value) : Int)

/-- Whether a decimal number is in the interval. -/
def Rounding.admits (rounding : Rounding) (number : Numeral) : Bool :=
  let factor := powerOfTen (-number.exponent).toNat
  let scaled := number.coefficient * (rounding.denominator * powerOfTen number.exponent.toNat)
  if rounding.endsIncluded then
    rounding.low * factor ≤ scaled && scaled ≤ rounding.high * factor
  else
    rounding.low * factor < scaled && scaled < rounding.high * factor

/-- The decimal number of `count` significant digits that is nearest to the value and rounds to
it, if there is one. -/
def Rounding.atCount? (rounding : Rounding) (count : Nat) : Option Numeral :=
  let exponent := rounding.magnitude - count
  let unit := rounding.denominator * powerOfTen exponent.toNat
  let value := rounding.value * powerOfTen (-exponent).toNat
  let below : Numeral := ⟨value / unit, exponent⟩
  let above : Numeral := ⟨value / unit + 1, exponent⟩
  let isAboveNearer :=
    above.coefficient * unit - value ≤ value - below.coefficient * unit
  if rounding.admits below then
    if rounding.admits above && isAboveNearer then some above else some below
  else if rounding.admits above then some above
  else none

/-- The shortest decimal number that rounds to the value; seventeen digits always suffice. -/
def Rounding.shortest (rounding : Rounding) : Numeral :=
  ((List.range 17).findSome? fun fewer => rounding.atCount? (fewer + 1)).getD ⟨0, 0⟩

def dropEndZeros (bytes : Bytes) : Bytes := (bytes.reverse.dropWhile (· = digitByte 0)).reverse

def Numeral.positional (number : Numeral) : Bytes :=
  let written := digits number.coefficient
  if 0 ≤ number.exponent then written ++ List.replicate number.exponent.toNat (digitByte 0)
  else
    let places := number.exponent.natAbs
    let padded := List.replicate (places + 1 - written.length) (digitByte 0) ++ written
    let whole := padded.take (padded.length - places)
    let fraction := dropEndZeros (padded.drop (padded.length - places))
    if fraction.isEmpty then whole else whole ++ 46 :: fraction

def shortestText (number : Binary64) : Bytes :=
  if number.isNaN then Bytes.ofText "NaN"
  else
    let unsigned :=
      if !number.isFinite then Bytes.ofText "inf"
      else if number.significand = 0 then [digitByte 0]
      else (Rounding.of number).shortest.positional
    if number.isNegative then minus :: unsigned else unsigned

end SlotClient.Decimal
