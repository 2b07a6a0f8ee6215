import SlotClient.Decimal.Binary64
import SlotClient.Decimal.Digits

/-!
# Decimal text to binary floating point

The accepted texts are an optional sign followed by `inf`, `infinity` or `nan` in any case, or by
digits with at most one point among or around them, of which at least one must be present, and an
optional exponent `e` with an optional sign and at least one digit. The result is the binary
number nearest to the decimal one.
-/

namespace SlotClient.Decimal

/-- The lower-case form of an ASCII letter; every other byte is unchanged. -/
def lowerCase (byte : UInt8) : UInt8 := if 65 ≤ byte && byte ≤ 90 then byte + 32 else byte

/-- Splits an optional sign off a text and says whether it was a minus. -/
def splitSign : Bytes → Bool × Bytes
  | [] => (false, [])
  | byte :: rest =>
    if byte = minus then (true, rest)
    else if byte = plus then (false, rest)
    else (false, byte :: rest)

/-- Reads an exponent: a sign and at least one digit, and nothing after them. -/
def exponent? (bytes : Bytes) : Option Int :=
  let (negative, unsigned) := splitSign bytes
  (natural? unsigned).map fun number => if negative then -(number : Int) else number

/-- Reads what follows the digits of a number: nothing, or `e` and an exponent. -/
def exponentPart? : Bytes → Option Int
  | [] => some 0
  | byte :: rest => if lowerCase byte = 101 then exponent? rest else none

/-- The bit pattern nearest to `coefficient · 10 ^ exponent`. Exponents far outside the range of
binary numbers are decided without computing the power. -/
def scaledPattern (coefficient : Nat) (exponent : Int) : Nat :=
  if coefficient = 0 then 0
  else
    let leading := exponent + (digits coefficient).length
    if 400 < leading then Binary64.infinityPattern
    else if leading < -400 then 0
    else if 0 ≤ exponent then Binary64.nearest (coefficient * powerOfTen exponent.toNat) 1
    else Binary64.nearest coefficient (powerOfTen exponent.natAbs)

/-- Reads digits with at most one point and an optional exponent as a magnitude. -/
def magnitude? (bytes : Bytes) : Option Nat :=
  let whole := bytes.takeWhile isDigit
  let afterWhole := bytes.dropWhile isDigit
  let (fraction, rest) := match afterWhole with
    | 46 :: afterPoint => (afterPoint.takeWhile isDigit, afterPoint.dropWhile isDigit)
    | _ => ([], afterWhole)
  if whole.isEmpty && fraction.isEmpty then none
  else (exponentPart? rest).map fun exponent =>
    scaledPattern (ofDigits (whole ++ fraction)) (exponent - fraction.length)

def binary64? (bytes : Bytes) : Option Binary64 :=
  let (negative, unsigned) := splitSign bytes
  let word := unsigned.map lowerCase
  if word = Bytes.ofText "inf" ∨ word = Bytes.ofText "infinity" then
    some (Binary64.infinity negative)
  else if word = Bytes.ofText "nan" then some (Binary64.notANumber negative)
  else (magnitude? unsigned).map (Binary64.ofPattern negative)

end SlotClient.Decimal
