import SlotClient.Bytes

/-!
# Decimal digits

Whole numbers as decimal digits. Writing has one form per number: no leading zeros, zero is one
digit, and a negative number has one minus in front. Reading is wider: any number of leading zeros
is accepted, a leading plus is not. The readers for fixed widths refuse what their width cannot
hold; nothing wraps around.
-/

namespace SlotClient.Decimal

def minus : UInt8 := 45

def plus : UInt8 := 43

def powerOfTen (exponent : Nat) : Nat := Nat.pow 10 exponent

def digitByte (digit : Nat) : UInt8 := UInt8.ofNat (48 + digit)

def isDigit (byte : UInt8) : Bool := 48 ≤ byte && byte ≤ 57

def digitValue (byte : UInt8) : Nat := byte.toNat - 48

/-- The digits of a number, the most significant one first. -/
def digits (number : Nat) : Bytes :=
  if number < 10 then [digitByte number]
  else digits (number / 10) ++ [digitByte (number % 10)]
termination_by number

/-- The decimal text of an integer. -/
def signedDigits (number : Int) : Bytes :=
  if number < 0 then minus :: digits number.natAbs else digits number.natAbs

def ofDigits (bytes : Bytes) : Nat :=
  bytes.foldl (fun value byte => 10 * value + digitValue byte) 0

/-- Reads one or more digits and nothing else. -/
def natural? (bytes : Bytes) : Option Nat :=
  if bytes.isEmpty || !bytes.all isDigit then none else some (ofDigits bytes)

/-- The least number of sixty-four signed bits. -/
def leastInt64 : Int := -9223372036854775808

def mostInt64 : Int := 9223372036854775807

def mostUInt64 : Nat := 18446744073709551615

def FitsInt64 (number : Int) : Prop := leastInt64 ≤ number ∧ number ≤ mostInt64

instance (number : Int) : Decidable (FitsInt64 number) := by
  unfold FitsInt64; infer_instance

/-- A number, if it fits into sixty-four signed bits. -/
def checked? (number : Int) : Option Int64 :=
  if FitsInt64 number then some (Int64.ofInt number) else none

/-- The number whose digits are those of another one and one more behind them. Its sign has to be
known, since the digits of a negative number count downwards. Neither the tenfold of the other
number nor the result may leave the width. -/
def appendDigit? (negative : Bool) (number : Int64) (byte : UInt8) : Option Int64 := do
  let scaled ← checked? (10 * number.toInt)
  checked? (if negative then scaled.toInt - digitValue byte else scaled.toInt + digitValue byte)

def appendDigits? (negative : Bool) : Int64 → Bytes → Option Int64
  | number, [] => some number
  | number, byte :: rest =>
    if isDigit byte then
      (appendDigit? negative number byte).bind fun next => appendDigits? negative next rest
    else none

/-- Splits an optional minus off a text and says whether there was one. -/
def splitMinus : Bytes → Bool × Bytes
  | [] => (false, [])
  | byte :: rest => if byte = minus then (true, rest) else (false, byte :: rest)

/-- Reads an optional minus and one or more digits, if they denote a number of sixty-four bits. -/
def int64? (bytes : Bytes) : Option Int64 :=
  let (negative, unsigned) := splitMinus bytes
  if unsigned.isEmpty then none else appendDigits? negative 0 unsigned

/-- Reads digits with an optional plus in front, if they denote at most `largest`. -/
def bounded? (largest : Nat) (bytes : Bytes) : Option Nat :=
  let unsigned := match bytes with
    | byte :: rest => if byte = plus then rest else bytes
    | [] => []
  (natural? unsigned).bind fun number => if number ≤ largest then some number else none

end SlotClient.Decimal
