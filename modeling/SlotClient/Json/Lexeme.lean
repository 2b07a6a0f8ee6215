import SlotClient.Decimal.Reading
import SlotClient.Json.Draft
import SlotClient.Text.Utf8

/-!
# Tokens of JSON text

Numbers and strings as they stand in a document. A number is an optional minus, a whole part
without extra leading zeros, an optional fraction and an optional exponent. A string holds no
control character unescaped, and a surrogate pair is written as two escapes in a row.
-/

namespace SlotClient.Json

/-- The parts of a number. -/
structure NumberParts where
  negative : Bool
  whole : Bytes
  fraction : Option Bytes
  exponent : Option Int

/-- Reads at least one digit. Where there is none, the text at that place is the error. -/
def someDigits (bytes : Bytes) : Except Bytes (Bytes × Bytes) :=
  let read := bytes.takeWhile Decimal.isDigit
  if read.isEmpty then .error bytes else .ok (read, bytes.dropWhile Decimal.isDigit)

/-- Reads a whole part; a digit behind a leading zero is out of place. -/
def wholePart (bytes : Bytes) : Except Bytes (Bytes × Bytes) :=
  match bytes with
  | 48 :: rest =>
    match rest with
    | byte :: _ => if Decimal.isDigit byte then .error rest else .ok ([48], rest)
    | [] => .ok ([48], rest)
  | _ => someDigits bytes

def fractionPart (bytes : Bytes) : Except Bytes (Option Bytes × Bytes) :=
  match bytes with
  | 46 :: rest => (someDigits rest).map fun (read, remainder) => (some read, remainder)
  | _ => .ok (none, bytes)

def exponentPart (bytes : Bytes) : Except Bytes (Option Int × Bytes) :=
  match bytes with
  | byte :: rest =>
    if Decimal.lowerCase byte = 101 then
      let (negative, unsigned) := Decimal.splitSign rest
      (someDigits unsigned).map fun (read, remainder) =>
        let exponent : Int := Decimal.ofDigits read
        (some (if negative then -exponent else exponent), remainder)
    else .ok (none, bytes)
  | [] => .ok (none, bytes)

/-- Reads the parts of a number. Where one is missing, the text at that place is the error. -/
def numberParts (bytes : Bytes) : Except Bytes (NumberParts × Bytes) := do
  let (negative, unsigned) := match bytes with
    | 45 :: rest => (true, rest)
    | _ => (false, bytes)
  let (whole, afterWhole) ← wholePart unsigned
  let (fraction, afterFraction) ← fractionPart afterWhole
  let (exponent, rest) ← exponentPart afterFraction
  return (⟨negative, whole, fraction, exponent⟩, rest)

/-- Takes one more digit, unless the number or one before it has left sixty-four bits. -/
def takeLeading (state : Nat × Nat × Bool) (byte : UInt8) : Nat × Nat × Bool :=
  let (value, count, full) := state
  let next := 10 * value + Decimal.digitValue byte
  if full || Decimal.mostUInt64 < next then (value, count, true) else (next, count + 1, false)

/-- The number that the longest beginning of the digits denotes that stays within sixty-four bits,
and how many digits that takes. -/
def leadingDigits (bytes : Bytes) : Nat × Nat :=
  let (value, count, _) := bytes.foldl takeLeading (0, 0, false)
  (value, count)

/-- Whether a number is beyond the largest finite binary one. It is taken as its leading digits
times a power of ten, with both factors and the product rounded. -/
def NumberParts.isTooLarge (parts : NumberParts) : Bool :=
  let (leading, count) := leadingDigits (parts.whole ++ parts.fraction.getD [])
  let exponent := parts.exponent.getD 0 + parts.whole.length - count
  if leading = 0 || exponent < 0 then false
  else if 308 < exponent then true
  else
    let factor := Binary64.ofPattern false (Binary64.nearest leading 1)
    let power := Binary64.ofPattern false (Binary64.nearest (Decimal.powerOfTen exponent.toNat) 1)
    let product := factor.magnitude * power.magnitude
    Binary64.nearest product (Binary64.unitsInOne * Binary64.unitsInOne) == Binary64.infinityPattern

/-- The number that parts denote. A minus zero is no whole number. -/
def NumberParts.number (parts : NumberParts) : Number :=
  let magnitude := Decimal.ofDigits parts.whole
  if parts.fraction.isSome || parts.exponent.isSome then .other
  else if parts.negative then
    if 0 < magnitude && Decimal.leastInt64 ≤ -(magnitude : Int) then .whole (-(magnitude : Int))
    else .other
  else if magnitude ≤ Decimal.mostUInt64 then .whole magnitude
  else .other

/-- Reads a number, and what follows it if it can be passed over. -/
def readNumber (bytes : Bytes) : Token Number × Option Bytes :=
  match numberParts bytes with
  | .error place =>
    (⟨.error (if place.isEmpty then .truncated else .malformed), some .malformed⟩, none)
  | .ok (parts, rest) =>
    let value := if parts.isTooLarge then .error .malformed else .ok parts.number
    (⟨value, none⟩, some rest)

def hexDigit? (byte : UInt8) : Option Nat :=
  if Decimal.isDigit byte then some (Decimal.digitValue byte)
  else
    let letter := Decimal.lowerCase byte
    if 97 ≤ letter && letter ≤ 102 then some (letter.toNat - 87) else none

def hexQuad : Bytes → Except Fault (Nat × Bytes)
  | first :: second :: third :: fourth :: rest =>
    match hexDigit? first, hexDigit? second, hexDigit? third, hexDigit? fourth with
    | some a, some b, some c, some d => .ok (((a * 16 + b) * 16 + c) * 16 + d, rest)
    | _, _, _, _ => .error .malformed
  | _ => .error .truncated

def shortEscape? (letter : UInt8) : Option UInt8 :=
  if letter = 34 || letter = 92 || letter = 47 then some letter
  else if letter = 98 then some 8
  else if letter = 102 then some 12
  else if letter = 110 then some 10
  else if letter = 114 then some 13
  else if letter = 116 then some 9
  else none

/-- The UTF-8 form of the character of a number that is no surrogate. -/
def encodedCharacter (code : Nat) : Bytes := String.utf8EncodeChar (Char.ofNat code)

/-- Reads what must follow the first half of a surrogate pair: an escape with the other half. -/
def secondHalf (first : Nat) : Bytes → Except Fault (Bytes × Bytes)
  | [] | [92] => .error .truncated
  | backslash :: letter :: rest => do
    if backslash != 92 || letter != 117 then throw .malformed
    let (second, remainder) ← hexQuad rest
    if second < 0xDC00 || 0xDFFF < second then throw .malformed
    return (encodedCharacter (0x10000 + (first - 0xD800) * 0x400 + (second - 0xDC00)), remainder)
  | [_] => .error .malformed

def escaped : Bytes → Except Fault (Bytes × Bytes)
  | [] => .error .truncated
  | letter :: rest =>
    if letter = 117 then do
      let (unit, remainder) ← hexQuad rest
      if 0xDC00 ≤ unit && unit ≤ 0xDFFF then throw .malformed
      if 0xD800 ≤ unit && unit ≤ 0xDBFF then secondHalf unit remainder
      else return (encodedCharacter unit, remainder)
    else match shortEscape? letter with
      | some byte => .ok ([byte], rest)
      | none => .error .malformed

def passedEscape : Bytes → Except Fault (Bytes × Bytes)
  | [] => .error .truncated
  | letter :: rest =>
    if letter = 117 then (hexQuad rest).map fun (_, remainder) => ([], remainder)
    else match shortEscape? letter with
      | some _ => .ok ([], rest)
      | none => .error .malformed

/-- Reads the inside of a string up to its closing quote, with a given way to read escapes. Every
step takes at least one byte, so the count of steps never has to exceed that of bytes. -/
def insideQuotes (escape : Bytes → Except Fault (Bytes × Bytes)) :
    Nat → Bytes → Except Fault (Bytes × Bytes)
  | 0, _ | _, [] => .error .truncated
  | steps + 1, byte :: rest =>
    if byte = 34 then .ok ([], rest)
    else if byte = 92 then do
      let (read, remainder) ← escape rest
      let (others, after) ← insideQuotes escape steps remainder
      return (read ++ others, after)
    else if byte < 32 then .error .malformed
    else do
      let (others, after) ← insideQuotes escape steps rest
      return (byte :: others, after)

/-- Reads a string behind its opening quote, and what follows it if it can be passed over. -/
def readText (bytes : Bytes) : Token String × Option Bytes :=
  let value := (insideQuotes escaped (bytes.length + 1) bytes).map fun (read, _) =>
    Utf8.lossyText read
  match insideQuotes passedEscape (bytes.length + 1) bytes with
  | .error fault => (⟨value, some fault⟩, none)
  | .ok (_, rest) => (⟨value, none⟩, some rest)

end SlotClient.Json
